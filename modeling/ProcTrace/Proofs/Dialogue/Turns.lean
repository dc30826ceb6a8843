import ProcTrace.Proofs.Dialogue.Drive

/-!
# Waiting past stops, turn by turn

* `Told`                  a wait that was answered, after so many interruptions;
* `Told.Passed`           its stop is passed over;
* `turns`                 the calls of waiting past stops, each of which is passed by the same calls;
* `Rounds.past`           rounds may begin with such turns,
* `Rounds.exists_turns`   and rounds that come to a stop have gone past just such.
-/

namespace ProcTrace

open Course

/-- a wait that was answered, and how often it was interrupted before -/
structure Told where
  interrupted : Nat
  waited : Waited
deriving DecidableEq

namespace Told

def status (s : Told) : WaitStatus := s.waited.status

def calls (pid : Pid) (s : Told) : List Syscall := heard pid s.interrupted (.ok s.waited)

/-- What was told is a stop that is not `final`, and not the first stop that is still owed. -/
structure Passed (final : Stop → Bool) (awaiting : Option FirstStop) (s : Told) : Prop where
  onward : ∃ stop, s.status.stop? = some stop ∧ final stop = false
  later : ∀ first, awaiting = some first → s.status ≠ .stopped first.signal

end Told

/-- a tracee that was waited for past these stops, and moves on -/
def Tracee.past (x : Tracee) : List Told → Tracee
  | [] => x
  | s :: rest => past { x with state := .running, lastStop := s.status.stop? } rest

@[simp] theorem Tracee.pid_past (x : Tracee) (told : List Told) : (x.past told).pid = x.pid := by
  induction told generalizing x with
  | nil => rfl
  | cons s rest ih => exact ih _

@[simp] theorem Tracee.awaiting_past (x : Tracee) (told : List Told) :
    (x.past told).awaiting = x.awaiting := by
  induction told generalizing x with
  | nil => rfl
  | cons s rest ih => exact ih _

theorem Tracee.past_moving {x : Tracee} (moves : x.state ∈ moving) (told : List Told) :
    (x.past told).state ∈ moving := by
  induction told generalizing x with
  | nil => exact moves
  | cons s told ih => exact ih (by simp)

/-- the calls of waiting past these stops, where `goOn` passes each -/
def turns (goOn : List Syscall) (pid : Pid) (told : List Told) : List Syscall :=
  told.flatMap fun s => s.calls pid ++ goOn

theorem turns_cons (goOn : List Syscall) (pid : Pid) (s : Told) (told : List Told) :
    turns goOn pid (s :: told) = s.calls pid ++ (goOn ++ turns goOn pid told) := by
  rw [turns, List.flatMap_cons, List.append_assoc]
  rfl

/-- Whatever stands at a stop is passed by these calls, and then runs. -/
structure Talks.By (pass : Talks Unit) (pid : Pid) (goOn : List Syscall) : Prop where
  passed {t : Tracer} {x : Tracee} (own : x.pid = pid) :
    pass ⟨t, x⟩ goOn (.ok ()) ⟨t, { x with state := .running }⟩
  only {t : Tracer} {x : Tracee} {calls : List Syscall} {d : Cast}
    (passes : pass ⟨t, x⟩ calls (.ok ()) d) (own : x.pid = pid) :
    calls = goOn ∧ d = ⟨t, { x with state := .running }⟩

theorem Resumes.by_cont (pid : Pid) : Talks.By Resumes pid [.cont pid none (.ok ())] where
  passed own := own ▸ .resumed
  only passes own := by
    subst own
    cases passes with
    | resumed => exact ⟨rfl, rfl⟩

theorem LetsGo.by_nothing (pid : Pid) : Talks.By LetsGo pid [] where
  passed _ := .gone
  only passes _ := by
    cases passes with
    | gone => exact ⟨rfl, rfl⟩

/-! ## turns of rounds -/

namespace Rounds

variable {final : Stop → Bool} {pass : Talks Unit} {goOn : List Syscall} {t : Tracer} {x : Tracee}

theorem past (by_ : pass.By x.pid goOn) (still : ∀ stop, final stop = false → stop.isTerminal = false)
    {told : List Told} (each : ∀ s ∈ told, s.Passed final x.awaiting) {calls : List Syscall}
    {r : Except Error Stop} {d : Cast} (rest : Rounds final pass ⟨t, x.past told⟩ calls r d) :
    Rounds final pass ⟨t, x⟩ (turns goOn x.pid told ++ calls) r d := by
  induction told generalizing x with
  | nil => exact rest
  | cons s told ih =>
    obtain ⟨first, each⟩ := List.forall_mem_cons.mp each
    obtain ⟨stop, seen, onward⟩ := first.onward
    have waits : Waits t x (s.calls x.pid) _ _ :=
      .stopped s.interrupted s.waited stop seen (still stop onward) first.later
    rw [Tracee.past, seen] at rest
    have later := ih (x := { x with state := .running, lastStop := some stop }) by_ each rest
    rw [turns_cons, List.append_assoc, List.append_assoc]
    exact .turn waits onward (by_.passed rfl) later

/-- Where the stop that is owed is final, nothing is passed over but stops that are not owed. -/
theorem exists_turns {c d : Cast} (by_ : pass.By c.tracee.pid goOn)
    (still : ∀ stop, final stop = false → stop.isTerminal = false)
    (opens : ∀ first, c.tracee.awaiting = some first → final first.stop = true)
    {calls : List Syscall} {stop : Stop} (rounds : Rounds final pass c calls (.ok stop) d) :
    ∃ told last, calls = turns goOn c.tracee.pid told ++ last ∧
      (∀ s ∈ told, s.Passed final c.tracee.awaiting) ∧
      Waits c.tracer (c.tracee.past told) last (.ok stop) d ∧ final stop = true := by
  generalize came : Except.ok stop = r at rounds
  induction rounds with
  | failed _ | stuck _ _ _ => cases came
  | arrived waits last =>
    cases came
    exact ⟨[], _, rfl, by simp, waits, last⟩
  | turn waits onward passes _ ih =>
    cases waits with
    | ended n w stop told final =>
      rw [still _ onward] at final
      cases final
    | opened n w first owed told =>
      rw [opens first owed] at onward
      cases onward
    | stopped n w _ told _ later =>
      obtain ⟨rfl, rfl⟩ := by_.only passes rfl
      obtain ⟨rest, last, split, each, waits, arrived⟩ := ih by_ opens came
      refine ⟨⟨n, w⟩ :: rest, last, ?_, ?_, ?_, arrived⟩
      · rw [split, turns_cons, List.append_assoc, List.append_assoc]
        rfl
      · exact List.forall_mem_cons.mpr ⟨⟨⟨_, told, onward⟩, later⟩, each⟩
      · rw [Tracee.past, Told.status, told]
        exact waits

end Rounds

/-! ## the last wait -/

namespace Waits

variable {t : Tracer} {x d : Tracee} {calls : List Syscall} {b : Cast}

theorem exists_end {stop : Stop} (waits : Waits t x calls (.ok stop) b)
    (final : stop.isTerminal = true) : ∃ s : Told, s.status.stop? = some stop ∧
      calls = s.calls x.pid ∧
      b = ⟨t.release x.pid, { x with state := x.endState, lastStop := some stop }⟩ := by
  cases waits with
  | ended n w stop told _ => exact ⟨⟨n, w⟩, told, rfl, rfl⟩
  | opened n w first _ _ => cases first <;> cases final
  | stopped n w stop _ still _ => rw [still] at final; cases final

theorem exists_first {first : FirstStop} (waits : Waits t x calls (.ok first.stop) b) :
    x.awaiting = some first ∧ ∃ s : Told, s.status = .stopped first.signal ∧
      calls = s.calls x.pid ++ t.optionsCalls x.pid ∧
      b = ⟨t, { x with state := .stopped, awaiting := none, lastStop := some first.stop }⟩ := by
  generalize came : Except.ok first.stop = r at waits
  cases waits with
  | failed _ _ _ _ | vanished _ | odd _ _ _ | missed _ _ _ _ _ _ _ => cases came
  | ended _ w _ told _ | stopped _ w _ told _ _ =>
    cases came
    exact absurd told (w.status.stop?_ne_first first)
  | opened n w first' owed told =>
    have same : first = first' := by
      cases first <;> cases first' <;> first | rfl | cases came
    subst same
    exact ⟨owed, ⟨n, w⟩, told, rfl, rfl⟩

end Waits

end ProcTrace
