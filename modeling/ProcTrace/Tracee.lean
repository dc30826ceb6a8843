import ProcTrace.Error

/-!
# One traced process

`Tracee` is what a tracer knows of a process: its state in the lifecycle, the first stop that it
still owes, and the last stop that was seen.  `Tracee.require` is the guard of every operation.
-/

namespace ProcTrace

structure Tracee where
  pid : Pid
  state : State
  /-- the first stop, until it is seen -/
  awaiting : Option FirstStop
  lastStop : Option Stop
deriving DecidableEq

namespace Tracee

/-- a process that will open its tracing with `first` -/
def new (pid : Pid) (first : FirstStop) : Tracee := ⟨pid, .created, some first, none⟩

def isStopped (t : Tracee) : Bool := t.state == .stopped

/-- Refuses `action` on a process that has ended, and outside the states that allow it. -/
def require (t : Tracee) (action : String) (allowed : List State) : Except Error Unit :=
  if t.state.isTerminal then .error (.noSuchProcess t.pid)
  else if t.state ∈ allowed then .ok ()
  else .error (.invalidState t.pid t.state action)

theorem require_ok {t : Tracee} {action : String} {allowed : List State} :
    t.require action allowed = .ok () ↔ t.state.isTerminal = false ∧ t.state ∈ allowed := by
  unfold require
  split
  · simp_all
  · split <;> simp_all

theorem require_of_stopped {t : Tracee} (stopped : t.state = .stopped) (action : String) :
    t.require action [.stopped] = .ok () :=
  require_ok.mpr ⟨by rw [stopped]; rfl, by simp [stopped]⟩

theorem require_of_terminal {t : Tracee} (h : t.state.isTerminal = true) (action : String)
    (allowed : List State) : t.require action allowed = .error (.noSuchProcess t.pid) := by
  simp [require, h]

/-- the state that a process comes to when it ends -/
def endState (t : Tracee) : State := if t.awaiting = some .exec then .failed else .exited

theorem isTerminal_endState (t : Tracee) : t.endState.isTerminal = true := by
  unfold endState
  split <;> rfl

end Tracee

end ProcTrace
