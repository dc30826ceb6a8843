import ProcTrace.PidSet
import ProcTrace.Reply
import ProcTrace.Signal

/-!
# Wait statuses

What waiting for a process delivers, and how a raw status word tells it.

The low seven bits of a raw status are zero for an exit, `0x7f` for a stop, and else the signal
that ended the process; the second byte holds an exit code or the signal of a stop, and the upper
half the event of a stop.  A status that names no signal of the list is refused with `EINVAL`.
-/

namespace ProcTrace

inductive WaitStatus where
  | exited (code : Int32)
  | signaled (signal : Signal) (coreDumped : Bool)
  /-- a plain stop -/
  | stopped (signal : Signal)
  /-- a stop for an event that the options asked for -/
  | event (signal : Signal) (event : Int32)
  /-- a stop at the edge of a system call -/
  | syscall
  | continued
  | stillAlive
deriving DecidableEq

namespace WaitStatus

/-- the process stands still, at a plain stop or at an event -/
def isStop : WaitStatus → Bool
  | stopped _ | event _ _ => true
  | _ => false

/-- the process has ended -/
def isEnd : WaitStatus → Bool
  | exited _ | signaled _ _ => true
  | _ => false

/-- the status that names a signal by this number -/
def withSignal (number : UInt32) (status : Signal → WaitStatus) : Reply WaitStatus :=
  (Reply.ofOption .einval (Signal.ofNumber? number.toNat)).map status

/-- signal byte of a stop at the edge of a system call: a trap with the top bit set -/
def syscallByte : UInt32 := 0x85

/-- The kinds of status that a system reports, read off the word.  No system reports a word of none
of them, such as `0x1ff`, and there is nothing that it could mean: decoding it aborts the program.
It is refused with `EINVAL` here, so that every word has a reading. -/
def ofRaw (raw : Int32) : Reply WaitStatus :=
  let bits := raw.toUInt32
  let low := bits &&& 0x7f
  let second := (bits >>> 8) &&& 0xff
  let upper := raw >>> 16
  if low == 0 then
    .ok (exited second.toInt32)
  else if low != 0x7f then
    withSignal low (signaled · (bits &&& 0x80 != 0))
  else if bits &&& 0xff == 0x7f then
    if second == syscallByte then
      .ok syscall
    else if upper == 0 then
      withSignal second stopped
    else
      withSignal second (event · upper)
  else if bits == 0xffff then
    .ok continued
  else
    .error .einval

end WaitStatus

/-- what waiting returns: a process id, `none` for the one that was asked about, and a raw status -/
structure RawStatus where
  returned : Option Pid := none
  bits : Int32
deriving DecidableEq

/-- a process and what became of it -/
structure Waited where
  pid : Pid
  status : WaitStatus
deriving DecidableEq

namespace Waited

/-- What a wait on `pid` gives.  A returned process id of `-1` is a failure, told by the error
number that was left before; zero says that no process has changed state, and the status is void. -/
def ofRaw (pid : Pid) (errno : Errno) (raw : RawStatus) : Reply Waited :=
  let returned := raw.returned.getD pid
  if returned = -1 then .error errno
  else if returned = 0 then .ok ⟨returned, .stillAlive⟩
  else (WaitStatus.ofRaw raw.bits).map (⟨returned, ·⟩)

/-- the status as logged -/
def text (w : Waited) : String :=
  let who := "Pid(" ++ toString w.pid.toInt ++ ")"
  match w.status with
  | .exited code => "Exited(" ++ who ++ ", " ++ toString code.toInt ++ ")"
  | .signaled s core =>
    "Signaled(" ++ who ++ ", " ++ s.name ++ ", " ++ (if core then "true" else "false") ++ ")"
  | .stopped s => "Stopped(" ++ who ++ ", " ++ s.name ++ ")"
  | .event s e => "PtraceEvent(" ++ who ++ ", " ++ s.name ++ ", " ++ toString e.toInt ++ ")"
  | .syscall => "PtraceSyscall(" ++ who ++ ")"
  | .continued => "Continued(" ++ who ++ ")"
  | .stillAlive => "StillAlive"

end Waited

end ProcTrace
