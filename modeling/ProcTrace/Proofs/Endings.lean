import ProcTrace.Proofs.Bouts.Events
import ProcTrace.Proofs.Failures

/-!
# How a tracee ends

The state that a tracee ends in is decided by the stops that waits for it have given, over its whole
life: whether the exec was among them, and whether an end was.

* `Standing`                what its bouts tell of the state of a tracee: it lives, it has ended, or
                            it was found to be no child any more;
* `Passes.standing`         every tracee stands as its bouts tell;
* `Held.Ending`             how a tracee has ended, by its bouts;
* `Session.ending_of_run`   every tracee of every run.

A tracee whose end was never told, since it was no child any more, has exited, even before its exec.
-/

namespace ProcTrace

open Bout Course

/-! ## one tracee -/

/-- the end of a tracee is among the stops that were given -/
def EndTold (bs : List Bout) : Prop := ∃ stop ∈ stops bs, stop.isTerminal = true

/-- Among the bouts is a wait that found no such child, and said so. -/
def FoundGone (pid : Pid) (bs : List Bout) : Prop :=
  ∃ o calls, .wait o calls (.error (.noSuchProcess pid)) ∈ bs ∧ Lost calls

theorem endTold_concat {bs : List Bout} {b : Bout} :
    EndTold (bs ++ [b]) ↔ EndTold bs ∨ ∃ stop, b.stop? = some stop ∧ stop.isTerminal = true := by
  simp only [EndTold, stops_concat, List.mem_append, or_and_right, exists_or, Option.mem_toList]

/-- Whether the exec was given decides how a tracee ends. -/
theorem Tracee.endState_of_awaiting {origin : FirstStop} {bs : List Bout} {x : Tracee}
    (awaiting : x.awaiting = if origin.stop ∈ stops bs then none else some origin) :
    x.endState = if origin = .exec ∧ .exec ∉ stops bs then .failed else .exited := by
  cases origin with
  | attach =>
    have unowed : x.awaiting ≠ some .exec := by
      rw [awaiting]
      split <;> nofun
    rw [endState, if_neg unowed, if_neg (fun both => nomatch both.1)]
  | exec =>
    have owed : x.awaiting = some .exec ↔ .exec ∉ stops bs := by
      rw [awaiting]
      by_cases given : .exec ∈ stops bs <;> simp [FirstStop.stop, given]
    simp only [endState, owed, true_and]

/-- what the bouts of a tracee tell of its state -/
inductive Standing (origin : FirstStop) (bs : List Bout) (x : Tracee) : Prop where
  | alive (live : x.state.isTerminal = false) (untold : ¬ EndTold bs)
  | ended (told : EndTold bs)
      (state : x.state = if origin = .exec ∧ .exec ∉ stops bs then .failed else .exited)
  | gone (found : FoundGone x.pid bs) (untold : ¬ EndTold bs) (state : x.state = .exited)

namespace Standing

variable {origin : FirstStop} {bs : List Bout} {b : Bout} {x y : Tracee}

theorem untold_of_live (standing : Standing origin bs x) (live : x.state.isTerminal = false) :
    ¬ EndTold bs := by
  cases standing with
  | alive _ untold | gone _ untold _ => exact untold
  | ended told state =>
    rw [state] at live
    split at live <;> cases live

/-- A bout without a stop, that leaves the tracee as it was. -/
theorem silent (standing : Standing origin bs x) (none : b.stop? = none) :
    Standing origin (bs ++ [b]) x := by
  have same : stops (bs ++ [b]) = stops bs := by rw [stops_concat, none]; exact List.append_nil _
  have told : EndTold (bs ++ [b]) ↔ EndTold bs := by rw [EndTold, EndTold, same]
  cases standing with
  | alive live untold => exact .alive live (fun last => untold (told.mp last))
  | ended before state => exact .ended (told.mpr before) (by rw [same]; exact state)
  | gone found untold state =>
    obtain ⟨o, calls, mem, lost⟩ := found
    have found : FoundGone x.pid (bs ++ [b]) := ⟨o, calls, List.mem_append_left _ mem, lost⟩
    exact .gone found (fun last => untold (told.mp last)) state

/-- A bout that the tracee survives. -/
theorem survives (standing : Standing origin bs x) (live : x.state.isTerminal = false)
    (alive : y.state.isTerminal = false)
    (still : ∀ stop, b.stop? = some stop → stop.isTerminal = false) :
    Standing origin (bs ++ [b]) y := by
  refine .alive alive fun told => ?_
  rcases endTold_concat.mp told with before | ⟨stop, gave, final⟩
  · exact standing.untold_of_live live before
  · cases (still stop gave).symm.trans final

theorem concat {t u : Tracer} (standing : Standing origin bs x)
    (awaiting : x.awaiting = if origin.stop ∈ stops bs then none else some origin)
    (moves : b.Moves ⟨t, x⟩ ⟨u, y⟩) : Standing origin (bs ++ [b]) y := by
  cases moves with
  | refused _ | stayed _ => exact standing.silent rfl
  | ranOn stood _ =>
    have live : x.state.isTerminal = false := live_of_stopped (List.mem_singleton.mpr stood)
    exact standing.survives live rfl nofun
  | waited may waits =>
    have live : x.state.isTerminal = false := live_of_moving may.state
    cases waits with
    | failed _ _ _ _ | odd _ _ _ | missed _ _ _ _ _ _ _ => exact standing.silent rfl
    | opened n w first owed told =>
      exact standing.survives live rfl fun _ gave => Option.some.inj gave ▸ first.isTerminal_stop
    | stopped n w stop told still later =>
      exact standing.survives live rfl fun _ gave => Option.some.inj gave ▸ still
    | vanished n =>
      refine .gone ⟨_, _, List.mem_append_right _ (List.mem_singleton_self _), lost_heard.mpr rfl⟩
        (fun told => ?_) rfl
      rcases endTold_concat.mp told with before | ⟨stop, gave, _⟩
      · exact standing.untold_of_live live before
      · cases gave
    | ended n w stop told final =>
      refine .ended (endTold_concat.mpr (.inr ⟨stop, rfl, final⟩)) ?_
      have same : .exec ∈ stops (bs ++ [.wait t.options (heard x.pid n (.ok w)) (.ok stop)]) ↔
          .exec ∈ stops bs := by
        rw [stops_concat, List.mem_append, or_iff_left]
        intro exec
        cases List.mem_singleton.mp exec
        cases final
      simp only [same]
      exact Tracee.endState_of_awaiting awaiting

end Standing

theorem Passes.standing {pid : Pid} {origin : FirstStop} {bs : List Bout} {x : Tracee}
    (passes : Passes (.born pid origin) bs x) : Standing origin bs x := by
  induction bs using List.reverseRecOn generalizing x with
  | nil =>
    cases passes
    exact .alive rfl (by simp [EndTold, stops])
  | append_singleton bs b ih =>
    obtain ⟨y, t, u, before, moves⟩ := Passes.concat.mp passes
    exact (ih before).concat (before.awaiting_of_some rfl).1 moves

/-! ## every tracee -/

/-- how a tracee has ended that went through these bouts -/
structure Held.Ending (h : Held) (bs : List Bout) : Prop where
  attached (origin : h.origin = .attach) : h.tracee.state = .exited
  executed (exec : .exec ∈ stops bs) : h.tracee.state = .exited
  failed (spawned : h.origin = .exec) (unexecuted : .exec ∉ stops bs) (told : EndTold bs) :
    h.tracee.state = .failed
  /-- A tracee whose end was not told is no child any more.  It has exited, before its exec too. -/
  untold (untold : ¬ EndTold bs) : h.tracee.state = .exited ∧ FoundGone h.tracee.pid bs

theorem Standing.ending {h : Held} {bs : List Bout} (standing : Standing h.origin bs h.tracee)
    (gone : h.tracee.state.isTerminal = true) : h.Ending bs := by
  cases standing with
  | alive live _ => cases gone.symm.trans live
  | gone found untold state =>
    exact ⟨fun _ => state, fun _ => state, fun _ _ told => absurd told untold,
      fun _ => ⟨state, found⟩⟩
  | ended told state =>
    refine ⟨fun origin => ?_, fun exec => ?_, fun spawned unexecuted _ => ?_,
      fun untold => absurd told untold⟩
    · rw [state, if_neg (by simp [origin])]
    · rw [state, if_neg (fun both => both.2 exec)]
    · rw [state, if_pos ⟨spawned, unexecuted⟩]

namespace Session

open Event

/-- Whatever is done in a run, and whatever the kernel answers, the run has events, and a tracee
that has ended has ended as its bouts tell. -/
theorem ending_of_run (ops : List (Kernel × Op)) (n : Nat) :
    (∃ evs, Tells ops (new n) evs) ∧ ∀ evs, Tells ops (new n) evs → ∀ p h,
      (run ops (new n)).2.at? p = some h → h.tracee.state.isTerminal = true →
        h.Ending (life p evs) :=
  ⟨exists_tells ops (new n), fun _ tells _ _ at_ gone => (tells.passes at_).standing.ending gone⟩

/-- A program is found to be no child any more before its exec was seen. -/
def goneBeforeExec : List (Kernel × Op) :=
  [({}, .spawn 0 ls), ({ waits := [.error .echild] }, .wait 0 0)]

/-- It has exited, though no wait has given an exec. -/
theorem ending_of_goneBeforeExec : ∃ evs h, Tells goneBeforeExec (new 1) evs ∧
    (run goneBeforeExec (new 1)).2.at? (.held 0) = some h ∧ h.Ending (life (.held 0) evs) ∧
    h.origin = .exec ∧ .exec ∉ stops (life (.held 0) evs) ∧ h.tracee.state = .exited ∧
    FoundGone 1000 (life (.held 0) evs) := by
  obtain ⟨⟨evs, tells⟩, endings⟩ := ending_of_run goneBeforeExec 1
  have at_ : (run goneBeforeExec (new 1)).2.at? (.held 0) =
      some ⟨0, .exec, ⟨1000, .exited, some .exec, none⟩⟩ := by decide +kernel
  have ending := endings evs tells _ _ at_ rfl
  -- the exec is still owed, so that no wait has given it
  have unexecuted : .exec ∉ stops (life (.held 0) evs) := by
    have awaiting := ((tells.passes at_).awaiting_of_some rfl).1
    exact fun exec => nomatch awaiting.trans (if_pos exec)
  have untold : ¬ EndTold (life (.held 0) evs) := fun told =>
    nomatch ending.failed rfl unexecuted told
  exact ⟨evs, _, tells, at_, ending, rfl, unexecuted, rfl, (ending.untold untold).2⟩

end Session

end ProcTrace
