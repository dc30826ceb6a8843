import ProcTrace.Proofs.Moves
import Mathlib.Data.List.Induction

/-!
# Lives of tracees

What is known of a tracee hangs together, whatever was done with it and whatever the kernel replied:
other processes may even have been given its id.

* `Tracee.Sound`           state, first stop and last stop of a tracee fit together;
* `Course.Step.sound`      every step keeps that;
* `Course.Steps.exited`    a tracee has exited by the end that was told, or was given up;
* `Session.Fate`           what an operation does with a tracee: it leaves, makes or drives it;
* `Session.sound_of_run`   whole runs.
-/

namespace ProcTrace

open Course

/-- What is known of a tracee fits together, if its tracing was to open with `origin`. -/
structure Tracee.Sound (origin : FirstStop) (x : Tracee) : Prop where
  made : x.state ≠ .created
  owed : x.awaiting = none ∨ x.awaiting = some origin
  attached : x.state = .attached → x.lastStop = none ∧ x.awaiting ≠ none
  seen : x.state = .stopped ∨ x.state = .running →
    ∃ stop, x.lastStop = some stop ∧ stop.isTerminal = false
  closed : ∀ stop, x.lastStop = some stop → stop.isTerminal = true → x.state.isTerminal = true
  opened : x.awaiting = none → x.lastStop ≠ none
  first : ∀ first : FirstStop, x.lastStop = some first.stop → origin = first ∧ x.awaiting = none
  failed : x.state = .failed → origin = .exec ∧ x.awaiting = some .exec ∧
    ∃ stop, x.lastStop = some stop ∧ stop.isTerminal = true

namespace Tracee

theorem endState_ne (x : Tracee) {s : State} (live : s.isTerminal = false) : x.endState ≠ s := by
  intro same
  have gone := x.isTerminal_endState
  rw [same, live] at gone
  cases gone

theorem sound_born (pid : Pid) (origin : FirstStop) : (born pid origin).Sound origin where
  made := nofun
  owed := .inr rfl
  attached _ := ⟨rfl, nofun⟩
  seen := by rintro (stopped | running) <;> contradiction
  closed _ := nofun
  opened := nofun
  first _ := nofun
  failed := nofun

namespace Sound

variable {origin : FirstStop} {x : Tracee}

/-- The first stop that is owed is the one that the tracing was to open with. -/
theorem origin_eq (sound : x.Sound origin) {first : FirstStop} (owed : x.awaiting = some first) :
    origin = first := by
  rcases sound.owed with none | promised
  · exact absurd (none.symm.trans owed) nofun
  · exact Option.some.inj (promised.symm.trans owed)

/-- A tracee that is given up stays what it was, but has exited. -/
theorem exited (sound : x.Sound origin) : Sound origin { x with state := .exited } where
  made := nofun
  owed := sound.owed
  attached := nofun
  seen := by rintro (stopped | running) <;> contradiction
  closed _ _ _ := rfl
  opened := sound.opened
  first := sound.first
  failed := nofun

/-- A tracee that stood still runs. -/
theorem running (sound : x.Sound origin) (still : x.state = .stopped) :
    Sound origin { x with state := .running } where
  made := nofun
  owed := sound.owed
  attached := nofun
  seen _ := sound.seen (.inl still)
  closed stop last final := by
    have live := sound.closed stop last final
    rw [still] at live
    cases live
  opened := sound.opened
  first := sound.first
  failed := nofun

/-- A tracee whose end was told has failed if its exec was owed, and else it has exited. -/
theorem ended (sound : x.Sound origin) {stop : Stop} (final : stop.isTerminal = true) :
    Sound origin { x with state := x.endState, lastStop := some stop } where
  made := x.endState_ne rfl
  owed := sound.owed
  attached ended := absurd ended (x.endState_ne rfl)
  seen ended := absurd ended (not_or_intro (x.endState_ne rfl) (x.endState_ne rfl))
  closed _ _ _ := x.isTerminal_endState
  opened _ := nofun
  first first last := by
    rw [Option.some.inj last] at final
    rw [first.isTerminal_stop] at final
    cases final
  failed failed := by
    have failed : (if x.awaiting = some .exec then State.failed else .exited) = .failed := failed
    split at failed
    · rename_i owed
      exact ⟨sound.origin_eq owed, owed, stop, rfl, final⟩
    · cases failed

/-- The first stop that was owed is told, and owed no more. -/
theorem opens (sound : x.Sound origin) {first : FirstStop} (owed : x.awaiting = some first) :
    Sound origin { x with state := .stopped, awaiting := none, lastStop := some first.stop } where
  made := nofun
  owed := .inl rfl
  attached := nofun
  seen _ := ⟨_, rfl, first.isTerminal_stop⟩
  closed stop last final := by
    rw [← Option.some.inj last, first.isTerminal_stop] at final
    cases final
  opened _ := nofun
  first _ last :=
    ⟨(sound.origin_eq owed).trans (FirstStop.stop_injective (Option.some.inj last)), rfl⟩
  failed := nofun

/-- Any other stop is told. -/
theorem stops (sound : x.Sound origin) {stop : Stop} (still : stop.isTerminal = false)
    (later : ∀ first : FirstStop, stop ≠ first.stop) :
    Sound origin { x with state := .stopped, lastStop := some stop } where
  made := nofun
  owed := sound.owed
  attached := nofun
  seen _ := ⟨stop, rfl, still⟩
  closed told last final := by
    rw [← Option.some.inj last, still] at final
    cases final
  opened _ := nofun
  first first last := absurd (Option.some.inj last) (later first)
  failed := nofun

end Sound

end Tracee

namespace Course

variable {c d : Course}

theorem Step.sound (step : Step c d) {origin : FirstStop} (before : c.tracee.Sound origin) :
    d.tracee.Sound origin := by
  cases step with
  | look _ _ | waitFailed _ _ _ | odd _ _ _ | missed _ _ _ _ _ _ _ | resumeFailed _ _ | killed _
  | killFailed _ _ => exact before
  | vanished _ => exact before.exited
  | ended _ _ _ _ final => exact before.ended final
  | resumed may | killedStill may | letGo may _ =>
    exact before.running (List.mem_singleton.mp may.state)
  | opened _ _ first owed _ => exact before.opens owed
  | stopped _ w stop told still _ =>
    refine before.stops still fun first same => ?_
    rw [same] at told
    exact w.status.stop?_ne_first first told

theorem Steps.sound (steps : Steps c d) {origin : FirstStop} (before : c.tracee.Sound origin) :
    d.tracee.Sound origin := by
  induction steps with
  | refl => exact before
  | tail _ step ih => exact step.sound ih

end Course

/-! ## how a tracee exits -/

/-- what is written when a tracee is given up because waiting finds no such child -/
def Tracee.givingUp (x : Tracee) : Journal :=
  [.note (.stateSet x.pid x.state .exited), .note (.released x.pid .exited), .note (.vanished x.pid),
    .call (.waitpid x.pid (.error .echild))]

/-- On its way from the first course to a tracee and a journal, it was given up, and has been left
as it was but for its state. -/
def Course.GivesUp (c : Course) (x : Tracee) (j : Journal) : Prop :=
  ∃ b late, Steps c b ∧ j = late ++ (b.tracee.givingUp ++ b.journal) ∧
    x = { b.tracee with state := .exited }

namespace Course

variable {c d : Course}

/-- A step by which a tracee has exited tells its end, or gives it up. -/
theorem Step.exited (step : Step c d) (exited : d.tracee.state = .exited) :
    d.tracee = c.tracee ∨
      (∃ stop, d.tracee.lastStop = some stop ∧ stop.isTerminal = true) ∨
      d.tracee = { c.tracee with state := .exited } ∧
        d.journal = c.tracee.givingUp ++ c.journal := by
  cases step with
  | look _ _ | waitFailed _ _ _ | odd _ _ _ | missed _ _ _ _ _ _ _ | resumeFailed _ _ | killed _
  | killFailed _ _ => exact .inl rfl
  | vanished _ => exact .inr (.inr ⟨rfl, rfl⟩)
  | ended _ w stop _ final => exact .inr (.inl ⟨stop, rfl, final⟩)
  | opened _ _ _ _ _ | stopped _ _ _ _ _ _ | resumed _ | killedStill _ | letGo _ _ => cases exited

theorem Steps.exited (steps : Steps c d) (exited : d.tracee.state = .exited) :
    d.tracee = c.tracee ∨
      (∃ stop, d.tracee.lastStop = some stop ∧ stop.isTerminal = true) ∨
      c.GivesUp d.tracee d.journal := by
  induction steps with
  | refl => exact .inl rfl
  | tail steps step ih =>
    rename_i b d
    rcases step.exited exited with same | ended | ⟨left, written⟩
    · -- whatever the tracee has come to before, the step only adds to the journal
      obtain ⟨es, grown, _⟩ := step.entries
      rw [same] at exited ⊢
      rcases ih exited with still | ended | ⟨a, late, before, written, left⟩
      · exact .inl still
      · exact .inr (.inl ended)
      · refine .inr (.inr ⟨a, es ++ late, before, ?_, left⟩)
        rw [grown, written, List.append_assoc]
    · exact .inr (.inl ended)
    · exact .inr (.inr ⟨b, [], steps, written, left⟩)

end Course

/-! ## what an operation does with a tracee -/

namespace Session

/-- What has become of the tracee at a position after an operation that wrote this journal: it is
as it was, or has just been made, or was driven and nothing else was done. -/
inductive Fate (s : Session) (j : Nat) (journal : Journal) : Held → Prop where
  | kept {h : Held} (at_ : s.tracees[j]? = some h) : Fate s j journal h
  | born (i : Nat) (pid : Pid) (first : FirstStop) : Fate s j journal ⟨i, first, .born pid first⟩
  | driven {h : Held} {t : Tracer} {c : Course} (at_ : s.tracees[j]? = some h) (mem : t ∈ s.tracers)
      (steps : Course.Steps ⟨t, h.tracee, []⟩ c) (written : c.journal = journal) :
    Fate s j journal { h with tracee := c.tracee }

variable {j : Nat}

theorem fate_of_step (s : Session) (k : Kernel) (op : Op) {h : Held}
    (at_ : (s.step k op).2.tracees[j]? = some h) : Fate s j (s.step k op).1.journal h := by
  have moved := step_moved s k op
  generalize s.step k op = out at at_ moved ⊢
  cases moved with
  | aside _ tracees _ _ | looked _ _ _ tracees _ =>
    rw [tracees] at at_
    exact .kept at_
  | traced _ _ _ _ _ _ _ _ _ _ tracees _ =>
    rw [tracees] at at_
    exact .kept at_
  | missing _ _ _ => exact .kept at_
  | born _ i pid first _ tracees _ =>
    -- a tracee that is handed out stands behind all others
    rw [tracees, List.getElem?_append] at at_
    split at at_
    · exact .kept at_
    · rw [List.mem_singleton.mp (List.mem_of_getElem? at_)]
      exact .born i pid first
  | @driven _ _ l g _ _ _ _ found mem steps written tracees _ =>
    rw [tracees] at at_
    by_cases mine : l = j
    · subst mine
      rw [List.getElem?_modify_eq, found] at at_
      cases at_
      exact .driven found mem steps written
    · rw [List.getElem?_modify_ne _ _ mine] at at_
      exact .kept at_

/-! ## whole runs -/

theorem run_concat (ops : List (Kernel × Op)) (k : Kernel) (op : Op) (s : Session) :
    (run (ops ++ [(k, op)]) s).2 = ((run ops s).2.step k op).2 := by
  induction ops generalizing s with
  | nil => rfl
  | cons first rest ih => exact ih (s.step first.1 first.2).2

/-- One of these operations has given up the tracee at this position, and it is still as it was
before the wait that found no such child, but for its state. -/
def GivenUp (ops : List (Kernel × Op)) (n j : Nat) (x : Tracee) : Prop :=
  ∃ before k op after, ops = before ++ (k, op) :: after ∧
    ∃ h t, (run before (new n)).2.tracees[j]? = some h ∧ t ∈ (run before (new n)).2.tracers ∧
      Course.GivesUp ⟨t, h.tracee, []⟩ x ((run before (new n)).2.step k op).1.journal

theorem GivenUp.concat {ops : List (Kernel × Op)} {n j : Nat} {x : Tracee}
    (given : GivenUp ops n j x) (last : Kernel × Op) : GivenUp (ops ++ [last]) n j x := by
  obtain ⟨before, k, op, after, split, rest⟩ := given
  refine ⟨before, k, op, after ++ [last], ?_, rest⟩
  rw [split, List.append_assoc]
  rfl

/-- Whatever was done, each tracee that is held is sound, and has exited only by the end that was
told or because it was given up. -/
theorem sound_of_run (ops : List (Kernel × Op)) (n : Nat) {j : Nat} {h : Held}
    (at_ : (run ops (new n)).2.tracees[j]? = some h) : h.tracee.Sound h.origin ∧
      (h.tracee.state = .exited →
        (∃ stop, h.tracee.lastStop = some stop ∧ stop.isTerminal = true) ∨
          GivenUp ops n j h.tracee) := by
  induction ops using List.reverseRecOn generalizing h with
  | nil => cases at_
  | append_singleton ops last ih =>
    obtain ⟨k, op⟩ := last
    rw [run_concat] at at_
    cases fate_of_step (run ops (new n)).2 k op at_ with
    | kept at_ =>
      obtain ⟨sound, exits⟩ := ih at_
      exact ⟨sound, fun exited => (exits exited).imp_right (·.concat _)⟩
    | born i pid first => exact ⟨Tracee.sound_born pid first, nofun⟩
    | driven before mem steps written =>
      obtain ⟨sound, exits⟩ := ih before
      refine ⟨steps.sound sound, fun exited => ?_⟩
      rcases steps.exited exited with same | ended | gives
      · rw [same] at exited ⊢
        exact (exits exited).imp_right (·.concat _)
      · exact .inl ended
      · rw [written] at gives
        exact .inr ⟨ops, k, op, [], rfl, _, _, before, mem, gives⟩

/-- A program is given up at once; all that was known of it is kept. -/
theorem sound_of_vanished :
    let ops : List (Kernel × Op) := [({}, .spawn 0 ls), ({}, .wait 0 0)]
    let vanished : Tracee := ⟨1000, .exited, some .exec, none⟩
    (run ops (new 1)).2.tracees[0]? = some ⟨0, .exec, vanished⟩ ∧ vanished.Sound .exec ∧
      GivenUp ops 1 0 vanished := by
  intro ops vanished
  have at_ : (run ops (new 1)).2.tracees[0]? = some ⟨0, .exec, vanished⟩ := by decide +kernel
  obtain ⟨sound, exits⟩ := sound_of_run ops 1 at_
  refine ⟨at_, sound, (exits rfl).resolve_left ?_⟩
  rintro ⟨stop, last, _⟩
  cases last

end Session

end ProcTrace
