import ProcTrace.Host
import ProcTrace.Tracee

/-!
# Tracers

A tracer holds the options that it sets on each tracee at its first stop, and the ids of the
processes that it may drive.

* `Tracer.adopt`, `Tracer.release`   begin and end the tracing of a process;
* `Tracer.permit`                    what the tracer may do to a tracee, and which refusal comes
                                     first.
-/

namespace ProcTrace

structure Tracer where
  options : Options
  traced : PidSet
deriving DecidableEq

/-- moves a tracee to a state, and notes it -/
def Tracee.setState (t : Tracee) (state : State) : HostM Tracee := do
  Host.note (.stateSet t.pid t.state state)
  return { t with state }

namespace Tracer

def new : Tracer := ⟨.standard, .empty⟩

/-- Options that would trace descendants are left out. -/
def setOptions (t : Tracer) (options : Options) : Tracer :=
  { t with options := options.difference .descendants }

def isTracing (t : Tracer) (pid : Pid) : Bool := pid ∈ t.traced

def adopt (t : Tracer) (pid : Pid) : Tracer := { t with traced := t.traced.insert pid }

def release (t : Tracer) (pid : Pid) : Tracer := { t with traced := t.traced.erase pid }

theorem isTracing_adopt (t : Tracer) (p q : Pid) :
    (t.adopt p).isTracing q = true ↔ q = p ∨ t.isTracing q = true := by
  simp [isTracing, adopt, PidSet.mem_insert]

theorem isTracing_release (t : Tracer) (p q : Pid) :
    (t.release p).isTracing q = true ↔ q ≠ p ∧ t.isTracing q = true := by
  simp [isTracing, release, PidSet.mem_erase]

theorem release_adopt {t : Tracer} {p : Pid} (h : t.isTracing p = false) :
    (t.adopt p).release p = t := by
  have : p ∉ t.traced := by simpa [isTracing] using h
  simp [adopt, release, PidSet.erase_insert this]

/-- Refuses `action` on a tracee that has ended, on one of another tracer, and outside the states
that allow it. -/
def permit (t : Tracer) (tracee : Tracee) (action : String) (allowed : List State) :
    Except Error Unit :=
  if tracee.state.isTerminal then .error (.noSuchProcess tracee.pid)
  else if t.isTracing tracee.pid then tracee.require action allowed
  else .error (.notOwned tracee.pid)

theorem permit_ok {t : Tracer} {tracee : Tracee} {action : String} {allowed : List State} :
    t.permit tracee action allowed = .ok () ↔
      tracee.state.isTerminal = false ∧ t.isTracing tracee.pid = true ∧ tracee.state ∈ allowed := by
  unfold permit
  split
  · simp_all
  · split <;> simp_all [Tracee.require_ok]

theorem permit_of_terminal {t : Tracer} {tracee : Tracee} (h : tracee.state.isTerminal = true)
    (action : String) (allowed : List State) :
    t.permit tracee action allowed = .error (.noSuchProcess tracee.pid) := by
  simp [permit, h]

theorem permit_of_foreign {t : Tracer} {tracee : Tracee} (live : tracee.state.isTerminal = false)
    (h : t.isTracing tracee.pid = false) (action : String) (allowed : List State) :
    t.permit tracee action allowed = .error (.notOwned tracee.pid) := by
  simp [permit, live, h]

end Tracer

end ProcTrace
