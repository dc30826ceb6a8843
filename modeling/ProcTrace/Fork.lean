import ProcTrace.Command
import ProcTrace.Host

/-!
# Forking and executing

After a fork two processes run.  The child asks to be traced and then becomes the program; if
either fails it exits, and it never returns.  The parent gets the child's process id.

* `Forked`             how forking code ends: in the child, or with a value in the parent;
* `Command.runChild`   the child's side;
* `Command.forkExec`   both sides.
-/

namespace ProcTrace

inductive Forked (α : Type) where
  /-- the child ends here: with an exit code, or as a new image -/
  | child (exit : Option Int32)
  | parent (value : α)
deriving DecidableEq

/-- exit code of a child that could not execute its program -/
def execFailureCode : Int32 := 127

/-- exit code of a child that could not ask to be traced -/
def traceMeFailureCode : Int32 := 126

namespace Command

/-- argument vector as it is passed -/
def argvPointers (c : Command) : PointerArray := .ofStrings c.argv

/-- explicit environment as it is passed -/
def envPointers (c : Command) : Option PointerArray := c.env.map .ofStrings

/-- the child's side of a fork: its exit code, or none when the program runs in its place -/
def runChild (c : Command) : HostM (Option Int32) := do
  match ← Host.traceMe with
  | .error _ =>
    Host.exit traceMeFailureCode
    return some traceMeFailureCode
  | .ok _ =>
    match ← Host.exec c.program.image c.argvPointers c.envPointers with
    | .ok _ => return none
    | .error _ =>
      Host.exit execFailureCode
      return some execFailureCode

def forkExec (c : Command) : Attempt (Forked Pid) := do
  match ← Host.fork with
  | .error e => throw (.spawn e)
  | .ok pid =>
    if pid = 0 then
      return .child (← c.runChild)
    else
      return .parent pid

theorem strings_argvPointers (c : Command) : c.argvPointers.strings = c.argv.map CString.bytes :=
  PointerArray.strings_ofStrings _

theorem strings_envPointers (c : Command) :
    c.envPointers.map PointerArray.strings = c.env.map (·.map CString.bytes) := by
  cases h : c.env <;> simp [envPointers, h, PointerArray.strings_ofStrings]

end Command

end ProcTrace
