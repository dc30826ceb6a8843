import ProcTrace.Proofs.Dialogue.Run

/-!
# Refused, or held

An action on a tracee is refused before anything is said, for a reason that the tracee gives, or it
holds its dialogues.

* `Tracee.Rejects`         the reasons for which an action is refused;
* `Drive.Refused`          an action that is refused on every host;
* `Drive.refused_or_holds` one of the two: `Drive.wait_refused_or_holds` and the same of resuming,
                           killing and waiting for the exec.
-/

namespace ProcTrace

open Course

/-- The tracee has ended, or is not the tracer's, or is in a state that does not allow this. -/
inductive Tracee.Rejects (x : Tracee) : Error → Prop where
  | ended (terminal : x.state.isTerminal = true) : Rejects x (.noSuchProcess x.pid)
  | foreign : Rejects x (.notOwned x.pid)
  | state (action : String) : Rejects x (.invalidState x.pid x.state action)

theorem Tracee.rejects_of_require {x : Tracee} {action : String} {allowed : List State} {e : Error}
    (refused : x.require action allowed = .error e) : x.Rejects e := by
  unfold require at refused
  split at refused
  · cases refused
    exact .ended ‹_›
  · split at refused
    · cases refused
    · cases refused
      exact .state action

theorem Tracer.rejects_of_permit {t : Tracer} {x : Tracee} {action : String} {allowed : List State}
    {e : Error} (refused : t.permit x action allowed = .error e) : x.Rejects e := by
  unfold permit at refused
  split at refused
  · cases refused
    exact .ended ‹_›
  · split at refused
    · exact Tracee.rejects_of_require refused
    · cases refused
      exact .foreign

namespace Drive

variable {act : Drive α} {talks : Talks α} {c : Cast}

/-- Whatever the host, the action is refused with this error and nothing is done. -/
structure Refused (act : Drive α) (c : Cast) (e : Error) : Prop where
  rejects : c.tracee.Rejects e
  run (h : Host) : act.runOn (c.on h) = (.error e, c.on h)

theorem refused_or_holds {action : String} {allowed : List State}
    (refused : ∀ {s e}, s.tracer.permit s.tracee action allowed = .error e →
      act.runOn s = (.error e, s))
    (holds : c.May allowed → Holds act talks c) : (∃ e, Refused act c e) ∨ Holds act talks c := by
  cases permitted : c.tracer.permit c.tracee action allowed with
  | error e => exact .inl ⟨e, Tracer.rejects_of_permit permitted, fun h => refused permitted⟩
  | ok _ => exact .inr (holds (.of_permit permitted))

theorem wait_refused_or_holds (c : Cast) :
    (∃ e, Refused wait c e) ∨ Holds wait (fun c => Waits c.tracer c.tracee) c :=
  refused_or_holds (fun no => by rw [runOn_wait, no]) wait_holds

theorem resume_refused_or_holds (c : Cast) :
    (∃ e, Refused resume c e) ∨ Holds resume Resumes c :=
  refused_or_holds (fun no => by rw [runOn_resume, no]) resume_holds

theorem kill_refused_or_holds (c : Cast) : (∃ e, Refused kill c e) ∨ Holds kill Kills c :=
  refused_or_holds (fun no => by rw [runOn_kill, no]) kill_holds

/-- Whether the exec is owed is asked first. -/
theorem waitForExec_refused_or_holds (c : Cast) :
    (∃ e, Refused waitForExec c e) ∨ Holds waitForExec Execs c := by
  by_cases owed : c.tracee.awaiting = some .exec
  · cases permitted : c.tracer.permit c.tracee "wait on" moving with
    | error e =>
      refine .inl ⟨e, Tracer.rejects_of_permit permitted, fun h => ?_⟩
      rw [runOn_waitForExec, Cast.on, if_pos owed, waitUntil_eq .skip, runOn_wait, permitted]
    | ok _ => exact .inr (waitForExec_holds (.of_permit permitted) owed)
  · refine .inl ⟨_, .state "wait for exec of", fun h => ?_⟩
    rw [runOn_waitForExec, Cast.on, if_neg owed]

end Drive

end ProcTrace
