/-!
# Lifecycle of a traced process

`Created → Attached → Stopped ⇄ Running → Exited`, and `Failed` in place of `Exited` for a spawned
process that ends before its exec.  `State.isTerminal` holds of the last two, which are never left.
-/

namespace ProcTrace

inductive State where
  | created
  /-- traced, not yet seen to stop -/
  | attached
  /-- stands still: registers and memory may be read -/
  | stopped
  | running
  | exited
  /-- a spawned process that ended before its exec stop -/
  | failed
deriving DecidableEq

namespace State

def isTerminal : State → Bool
  | exited | failed => true
  | _ => false

def all : List State := [created, attached, stopped, running, exited, failed]

def name : State → String
  | created => "Created"
  | attached => "Attached"
  | stopped => "Stopped"
  | running => "Running"
  | exited => "Exited"
  | failed => "Failed"

def ofName? (s : String) : Option State := all.find? (·.name == s)

theorem ofName?_name (s : State) : ofName? s.name = some s := by cases s <;> decide

end State

end ProcTrace
