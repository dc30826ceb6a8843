import ProcTrace.Arch.Layout
import ProcTrace.Arch.RegisterSet
import ProcTrace.Error
import ProcTrace.Options
import ProcTrace.WaitStatus

/-!
# The journal

Everything that is done is written down, latest first: each system call with the reply it got
(`Syscall`), and between the calls what the library says about its own doings (`Note`).

* `Journal.calls`, `Journal.notes`   the two parts of a journal, earliest first.
-/

namespace ProcTrace

/-- a system call and its reply -/
inductive Syscall where
  /-- replies zero in the child -/
  | fork (reply : Reply Pid)
  | waitpid (pid : Pid) (reply : Reply Waited)
  | kill (pid : Pid) (signal : Signal) (reply : Reply Unit)
  | attach (pid : Pid) (reply : Reply Unit)
  /-- lets a stopped process run on, with the signal that is delivered to it -/
  | cont (pid : Pid) (signal : Option Signal) (reply : Reply Unit)
  | setOptions (pid : Pid) (options : Options) (reply : Reply Unit)
  | traceMe (reply : Reply Unit)
  | peekUser (pid : Pid) (offset : UInt64) (reply : Reply Word)
  | peekData (pid : Pid) (address : Address) (reply : Reply Word)
  | getRegisterSet (pid : Pid) (reply : Reply (Vector UInt64 RegisterSet.size))
  /-- without `envp` the environment is inherited; a success never returns -/
  | exec (program : Bytes) (argv : PointerArray) (envp : Option PointerArray)
      (reply : Reply Unit)
  | exit (code : Int32)
deriving DecidableEq

inductive Note where
  | spawned (pid : Pid) (program : CString)
  | attached (pid : Pid)
  | stateSet (pid : Pid) (old new : State)
  /-- waiting found no such child -/
  | vanished (pid : Pid)
  | statusSeen (pid : Pid) (waited : Waited)
  | released (pid : Pid) (state : State)
  | settingOptions (pid : Pid) (options : Options)
  | skipping (pid : Pid) (stop : Stop)
  | letGo (pid : Pid) (stop : Stop)
  | killed (pid : Pid) (stop : Stop)
  | passing (pid : Pid) (stop : Stop)
  | memoryRead (pid : Pid) (address : Address) (word : Word)
  | registerRead (pid : Pid) (register : Slot) (word : Word)
  | syscallNumberRead (pid : Pid) (word : Word)
  | killFailed (pid : Pid) (error : Error)
deriving DecidableEq

inductive Entry where
  | call (call : Syscall)
  | note (note : Note)
deriving DecidableEq

abbrev Journal := List Entry

namespace Journal

def calls (j : Journal) : List Syscall :=
  j.reverse.filterMap fun
    | .call c => some c
    | .note _ => none

def notes (j : Journal) : List Note :=
  j.reverse.filterMap fun
    | .call _ => none
    | .note n => some n

theorem calls_call (c : Syscall) (j : Journal) : calls (.call c :: j) = calls j ++ [c] := by
  simp [calls, List.filterMap_append]

theorem calls_note (n : Note) (j : Journal) : calls (.note n :: j) = calls j := by
  simp [calls, List.filterMap_append]

theorem calls_append (a b : Journal) : calls (a ++ b) = calls b ++ calls a := by
  simp [calls, List.filterMap_append]

theorem mem_calls {c : Syscall} {j : Journal} : c ∈ j.calls ↔ .call c ∈ j := by
  induction j with
  | nil => simp [calls]
  | cons e j ih =>
    cases e with
    | call d => rw [calls_call, List.mem_append, ih]; simp [or_comm]
    | note n => rw [calls_note, ih]; simp

theorem notes_append (a b : Journal) : notes (a ++ b) = notes b ++ notes a := by
  simp [notes, List.filterMap_append]

end Journal

end ProcTrace
