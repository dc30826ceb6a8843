import ProcTrace.Errno
import ProcTrace.PidSet
import ProcTrace.State
import ProcTrace.Stop
import ProcTrace.Text.Hex
import ProcTrace.Word

/-!
# What can go wrong

* `Error.message`      the wording of each error;
* `Error.source?`      the error number behind it, where the operating system gave one;
* `Error.traceeDied`   the error means that the process is gone;
* `Error.isFatal`      the error ends the tracing session.
-/

namespace ProcTrace

inductive Error where
  | spawn (source : Errno)
  /-- the process ended before its exec was complete -/
  | exec (pid : Pid) (stop : Stop)
  | noSuchProcess (pid : Pid)
  | attach (pid : Pid) (source : Errno)
  | alreadyTraced (pid : Pid)
  | notOwned (pid : Pid)
  /-- the state does not allow `action` -/
  | invalidState (pid : Pid) (state : State) (action : String)
  | resume (pid : Pid) (source : Errno)
  | memoryRead (pid : Pid) (address : Address) (source : Errno)
  | registerRead (pid : Pid) (offset : UInt64) (source : Errno)
  | unsupportedArch (name : String)
  /-- a string to be passed holds a zero byte, first at `position` -/
  | zeroByte (position : Nat)
  | inputOutput (source : Errno)
  | os (source : Errno)
  | internal (text : String)
deriving DecidableEq

namespace Error

def message : Error → String
  | spawn _ => "Could not create tracee process"
  | exec pid stop =>
    "Tracee = " ++ toString pid.toInt ++ " terminated before completing exec: " ++ stop.text
  | noSuchProcess pid => "No such tracee = " ++ toString pid.toInt
  | attach pid _ => "Could not attach to tracee = " ++ toString pid.toInt
  | alreadyTraced pid => "Tracee = " ++ toString pid.toInt ++ " is already traced by this tracer"
  | notOwned pid => "Tracee = " ++ toString pid.toInt ++ " is not traced by this tracer"
  | invalidState pid state action =>
    "Cannot " ++ action ++ " tracee = " ++ toString pid.toInt ++ " in state = " ++ state.name
  | resume pid _ => "Could not resume tracee = " ++ toString pid.toInt
  | memoryRead pid address _ =>
    "Could not read memory of tracee = " ++ toString pid.toInt ++ " at address = 0x"
      ++ Hex.number address.toNat
  | registerRead pid offset _ =>
    "Could not read register file of tracee = " ++ toString pid.toInt ++ " at offset = "
      ++ toString offset.toNat
  | unsupportedArch name => "Unsupported architecture: " ++ name
  | zeroByte _ => "Argument contains an interior NUL byte"
  | inputOutput _ => "Input/output error"
  | os _ => "OS error"
  | internal text => "Internal error: " ++ text

def source? : Error → Option Errno
  | spawn e | attach _ e | resume _ e | memoryRead _ _ e | registerRead _ _ e | os e => some e
  | _ => none

/-- the process was found to be gone -/
def traceeDied : Error → Bool
  | noSuchProcess _ => true
  | resume _ e | memoryRead _ _ e | registerRead _ _ e => e == .esrch
  | _ => false

/-- After any other error the tracee can still be driven. -/
def isFatal : Error → Bool
  | spawn _ | internal _ => true
  | _ => false

/-- a request about `pid` that failed: `ESRCH` says that the process has gone -/
def ofRequest (pid : Pid) (source : Errno) : Error :=
  if source = .esrch then noSuchProcess pid else os source

theorem traceeDied_ofRequest (pid : Pid) (e : Errno) :
    (ofRequest pid e).traceeDied = (e == .esrch) := by
  unfold ofRequest
  split <;> simp_all [traceeDied]

end Error

end ProcTrace
