import ProcTrace.Proofs.Dialogue.Drive
import ProcTrace.Proofs.Rejections

/-!
# What failed operations leave behind

An operation that fails leaves every tracer and every tracee as it was, with two exceptions.  A
tracee that is no child any more is given up; and a tracee that was killed stays on its way to its
end when waiting for that fails.

* `Lost`                    a wait was told that its process is no child any more;
* `Drive.refused_or_held`   an action that asks for permission is refused it, or holds a dialogue;
* `Waits.failed_cases`, `Rounds.failed_cases`   how a wait and a killing may fail;
* `Session.Becomes`         a session in which one tracer and one tracee were changed;
* `Session.Failures`        what any failed operation of a tracer has changed.
-/

namespace ProcTrace

open Course

/-! ## processes that are gone -/

/-- Among the calls is a wait that was told that there is no such child. -/
def Lost (calls : List Syscall) : Prop := ∃ pid, .waitpid pid (.error .echild) ∈ calls

theorem lost_append {calls more : List Syscall} :
    Lost (calls ++ more) ↔ Lost calls ∨ Lost more := by
  simp [Lost, exists_or]

theorem lost_heard {pid : Pid} {n : Nat} {reply : Reply Waited} :
    Lost (heard pid n reply) ↔ reply = .error .echild := by
  simp [Lost, heard, eq_comm]

theorem not_lost_of_silent {calls : List Syscall} (silent : ∀ c ∈ calls, c.isWait = false) :
    ¬ Lost calls := by
  rintro ⟨pid, mem⟩
  cases silent _ mem

/-! ## failing waits -/

namespace Waits

variable {t : Tracer} {x : Tracee} {calls : List Syscall} {d : Cast}

theorem not_lost {stop : Stop} (waits : Waits t x calls (.ok stop) d) : ¬ Lost calls := by
  cases waits with
  | ended n w _ _ _ | stopped n w _ _ _ _ => simp [lost_heard]
  | opened n w first _ _ =>
    simp [lost_append, lost_heard, not_lost_of_silent Tracer.isWait_of_mem_optionsCalls]

/-- A wait that fails changes nothing, unless the tracee is gone. -/
theorem failed_cases {e : Error} (waits : Waits t x calls (.error e) d) :
    ¬ Lost calls ∧ d = ⟨t, x⟩ ∨
      Lost calls ∧ e = .noSuchProcess x.pid ∧
        d = ⟨t.release x.pid, { x with state := .exited }⟩ := by
  cases waits with
  | failed n e news other => exact .inl ⟨by simpa [lost_heard] using other, rfl⟩
  | vanished n => exact .inr ⟨lost_heard.mpr rfl, rfl, rfl⟩
  | odd n w none => exact .inl ⟨by simp [lost_heard], rfl⟩
  | missed n w first owed told some e =>
    have silent : ¬ Lost [.setOptions x.pid t.options (.error e)] := by simp [Lost]
    exact .inl ⟨by simp [lost_append, lost_heard, silent], rfl⟩

end Waits

/-- Waiting for a killed tracee to end fails while it is on its way, or as it is given up. -/
theorem Rounds.failed_cases {c d : Cast} {calls : List Syscall} {e : Error}
    (rounds : Rounds Stop.isTerminal LetsGo c calls (.error e) d)
    (moves : c.tracee.state ∈ moving) :
    d.tracee.pid = c.tracee.pid ∧
      (¬ Lost calls ∧ d.tracer = c.tracer ∧ d.tracee.state ∈ moving ∨
        Lost calls ∧ d.tracer = c.tracer.release c.tracee.pid ∧ d.tracee.state = .exited) := by
  generalize failed : (Except.error e : Except Error Stop) = r at rounds
  induction rounds with
  | failed waits =>
    cases failed
    obtain ⟨kept, rfl⟩ | ⟨lost, _, rfl⟩ := waits.failed_cases
    · exact ⟨rfl, .inl ⟨kept, rfl, moves⟩⟩
    · exact ⟨rfl, .inr ⟨lost, rfl, rfl⟩⟩
  | arrived _ _ => cases failed
  | stuck _ _ passes => nomatch passes
  | turn waits onward passes _ ih =>
    have kept := waits.keeps onward
    cases passes with
    | gone =>
      obtain ⟨pid, ends⟩ := ih (by simp) failed
      refine ⟨pid.trans kept.pid, ?_⟩
      rw [lost_append, or_iff_right waits.not_lost, List.nil_append, ← kept.tracer, ← kept.pid]
      exact ends

/-! ## failing actions -/

/-- Among the calls is one that has killed its process. -/
def KillSent (calls : List Syscall) : Prop := ∃ pid signal, .kill pid signal (.ok ()) ∈ calls

namespace Drive

variable {c : Cast} {h : Host} {u : Scene} {e : Error}

theorem resume_failed (failed : resume.runOn (c.on h) = (.error e, u)) :
    u.tracer = c.tracer ∧ u.tracee = c.tracee := by
  obtain ⟨_, run⟩ | ⟨_, _, _, _, _, resumes, run, _⟩ :=
    refused_or_held (fun no => by rw [runOn_resume, no]) resume_holds c h
  · cases failed.symm.trans run
    exact ⟨rfl, rfl⟩
  · cases failed.symm.trans run
    cases resumes with
    | refused e => exact ⟨rfl, rfl⟩

theorem wait_failed (new : h.journal = []) (failed : wait.runOn (c.on h) = (.error e, u)) :
    ¬ Lost u.host.journal.calls ∧ u.tracer = c.tracer ∧ u.tracee = c.tracee ∨
      Lost u.host.journal.calls ∧ e = .noSuchProcess c.tracee.pid ∧
        u.tracer = c.tracer.release c.tracee.pid ∧
        u.tracee = { c.tracee with state := .exited } := by
  obtain ⟨_, run⟩ | ⟨_, calls, _, d, g, waits, run, came⟩ :=
    refused_or_held (fun no => by rw [runOn_wait, no]) wait_holds c h
  · cases failed.symm.trans run
    have silent : ¬ Lost h.journal.calls := by simp [new, Lost, Journal.calls]
    exact .inl ⟨silent, rfl, rfl⟩
  · cases failed.symm.trans run
    rw [Cast.on, came.calls_of_new new]
    obtain ⟨kept, rfl⟩ | ⟨lost, gone, rfl⟩ := waits.failed_cases
    · exact .inl ⟨kept, rfl, rfl⟩
    · exact .inr ⟨lost, gone, rfl, rfl⟩

theorem kill_failed (new : h.journal = []) (failed : kill.runOn (c.on h) = (.error e, u)) :
    ¬ KillSent u.host.journal.calls ∧ u.tracer = c.tracer ∧ u.tracee = c.tracee ∨
      KillSent u.host.journal.calls ∧ c.tracer.isTracing c.tracee.pid = true ∧
        u.tracee.pid = c.tracee.pid ∧
        (¬ Lost u.host.journal.calls ∧ u.tracer = c.tracer ∧ u.tracee.state ∈ moving ∨
          Lost u.host.journal.calls ∧ u.tracer = c.tracer.release c.tracee.pid ∧
            u.tracee.state = .exited) := by
  obtain ⟨_, run⟩ | ⟨may, calls, _, d, g, kills, run, came⟩ :=
    refused_or_held (fun no => by rw [runOn_kill, no]) kill_holds c h
  · cases failed.symm.trans run
    have silent : ¬ KillSent h.journal.calls := by simp [new, KillSent, Journal.calls]
    exact .inl ⟨silent, rfl, rfl⟩
  · cases failed.symm.trans run
    rw [Cast.on, came.calls_of_new new]
    obtain ⟨t, x⟩ := c
    cases kills with
    | refused e =>
      have unhurt : ¬ KillSent [.kill x.pid .kill (.error e)] := by simp [KillSent]
      exact .inl ⟨unhurt, rfl, rfl⟩
    | @sent _ _ calls _ _ rounds =>
      have struck : KillSent (.kill x.pid .kill (.ok ()) :: calls) := ⟨_, _, List.mem_cons_self⟩
      have lost : Lost (.kill x.pid .kill (.ok ()) :: calls) ↔ Lost calls := by simp [Lost]
      obtain ⟨pid, ends⟩ := rounds.failed_cases (Tracee.struck_may may).state
      rw [Tracee.pid_struck] at pid ends
      refine .inr ⟨struck, may.owned, pid, ?_⟩
      rw [lost]
      exact ends

end Drive

/-! ## failing operations -/

namespace Session

/-- The same tracers and tracees; an error number may have been left behind. -/
structure Same (s u : Session) : Prop where
  tracers : u.tracers = s.tracers
  tracees : u.tracees = s.tracees
  abandoned : u.abandoned = s.abandoned

/-- The tracer and the tracee at these positions have become these, and all others are the same. -/
structure Becomes (s : Session) (i j : Nat) (t : Tracer) (x : Tracee) (u : Session) : Prop where
  tracers : u.tracers = s.tracers.set i t
  tracees : u.tracees = s.tracees.modify j ({ · with tracee := x })
  abandoned : u.abandoned = s.abandoned

variable {s u : Session} {k : Kernel} {i j : Nat} {t : Tracer} {h : Held} {e : Error}
  {answer : Answer}

theorem Becomes.same (becomes : s.Becomes i j t h.tracee u) (found : s.tracers[i]? = some t)
    (at_ : s.tracees[j]? = some h) : s.Same u :=
  ⟨becomes.tracers.trans (set_tracers_self found), becomes.tracees.trans (modify_tracees_self at_),
    becomes.abandoned⟩

/-- Driving fails with its action; before that it has to find tracer and tracee. -/
theorem drive_failed {act : Drive α} {value : α → Value}
    (done : s.drive k i j act value = (answer, u)) (failed : answer.outcome = .error e) :
    ∃ t h v, s.tracers[i]? = some t ∧ s.tracees[j]? = some h ∧
      act.runOn (Cast.on ⟨t, h.tracee⟩ (s.host k)) = (.error e, v) ∧
      answer.journal = v.host.journal ∧ s.Becomes i j v.tracer v.tracee u := by
  cases at_ : s.tracees[j]? with
  | none =>
    rw [drive, at_] at done
    cases done
    cases failed
  | some h =>
    cases found : s.tracers[i]? with
    | none =>
      rw [drive, at_, found] at done
      cases done
      cases failed
    | some t =>
      rw [drive_eq found at_] at done
      cases done
      cases run : act.runOn ⟨t, h.tracee, s.host k⟩ with
      | mk r v =>
        rw [run] at failed
        cases r with
        | ok a => cases failed
        | error e' =>
          cases failed
          exact ⟨t, h, v, rfl, rfl, run, rfl, rfl, rfl, rfl⟩

theorem withTracer_failed {f : Tracer → Answer × Session}
    (done : s.withTracer i f = (answer, u)) (failed : answer.outcome = .error e) :
    ∃ t, s.tracers[i]? = some t ∧ f t = (answer, u) := by
  rw [withTracer] at done
  cases found : s.tracers[i]? with
  | none =>
    rw [found] at done
    cases done
    cases failed
  | some t =>
    rw [found] at done
    exact ⟨t, rfl, done⟩

theorem spawn_failed {c : Command} (done : s.step k (.spawn i c) = (answer, u))
    (failed : answer.outcome = .error e) : s.Same u := by
  obtain ⟨t, found, done⟩ := withTracer_failed done failed
  rcases t.spawn_cases c (s.host k) with ⟨_, g, run, _⟩ | ⟨_, g, run, _⟩ | ⟨_, g, _, run, _, _⟩
  · rw [recruit_error run] at done
    cases done
    exact ⟨set_tracers_self found, rfl, rfl⟩
  · rw [recruit_child run] at done
    cases done
    cases failed
  · rw [recruit_parent run] at done
    cases done
    cases failed

theorem attach_failed {pid : Pid} (done : s.step k (.attach i pid) = (answer, u))
    (failed : answer.outcome = .error e) : s.Same u := by
  obtain ⟨t, found, done⟩ := withTracer_failed done failed
  rcases t.attach_cases pid (s.host k) with ⟨_, g, run, _⟩ | ⟨g, _, run, _, _⟩
  · rw [recruit_error run] at done
    cases done
    exact ⟨set_tracers_self found, rfl, rfl⟩
  · rw [recruit_parent run] at done
    cases done
    cases failed

/-- what an operation has changed that failed -/
structure Failures (s : Session) (k : Kernel) : Prop where
  spawn {i : Nat} {c : Command} {e : Error} {answer : Answer} {u : Session}
    (done : s.step k (.spawn i c) = (answer, u)) (failed : answer.outcome = .error e) : s.Same u
  attach {i : Nat} {pid : Pid} {e : Error} {answer : Answer} {u : Session}
    (done : s.step k (.attach i pid) = (answer, u)) (failed : answer.outcome = .error e) : s.Same u
  resume {i j : Nat} {e : Error} {answer : Answer} {u : Session}
    (done : s.step k (.resume i j) = (answer, u)) (failed : answer.outcome = .error e) : s.Same u
  /-- A wait that is told of no such child gives the tracee up, of which nothing is changed then but
  the state.  Any other failing wait changes nothing. -/
  wait {i j : Nat} {e : Error} {answer : Answer} {u : Session}
    (done : s.step k (.wait i j) = (answer, u)) (failed : answer.outcome = .error e) :
    ¬ Lost answer.journal.calls ∧ s.Same u ∨
      Lost answer.journal.calls ∧ ∃ t h, s.tracers[i]? = some t ∧ s.tracees[j]? = some h ∧
        e = .noSuchProcess h.tracee.pid ∧
        s.Becomes i j (t.release h.tracee.pid) { h.tracee with state := .exited } u
  /-- Nothing is changed where no process was killed.  One that was killed is given up as it is no
  child any more, or else is on its way to its end and still its tracer's. -/
  kill {i j : Nat} {e : Error} {answer : Answer} {u : Session}
    (done : s.step k (.kill i j) = (answer, u)) (failed : answer.outcome = .error e) :
    ¬ KillSent answer.journal.calls ∧ s.Same u ∨
      KillSent answer.journal.calls ∧ ∃ t h x, s.tracers[i]? = some t ∧ s.tracees[j]? = some h ∧
        x.pid = h.tracee.pid ∧
        (Lost answer.journal.calls ∧ x.state = .exited ∧
            s.Becomes i j (t.release h.tracee.pid) x u ∨
          ¬ Lost answer.journal.calls ∧ x.state ∈ [.attached, .running] ∧
            t.isTracing h.tracee.pid = true ∧ s.Becomes i j t x u)

/-- Whatever the session, and whatever the kernel answers. -/
theorem failures_of_step (s : Session) (k : Kernel) : s.Failures k where
  spawn := spawn_failed
  attach := attach_failed
  resume {i j _ _ _} done failed := by
    have drive : s.drive k i j Drive.resume (fun _ => .done) = _ := done
    obtain ⟨t, h, v, found, at_, run, _, becomes⟩ := drive_failed drive failed
    obtain ⟨tracer, tracee⟩ := Drive.resume_failed run
    rw [tracer, tracee] at becomes
    exact becomes.same found at_
  wait {i j _ _ _} done failed := by
    have drive : s.drive k i j Drive.wait .stop = _ := done
    obtain ⟨t, h, v, found, at_, run, written, becomes⟩ := drive_failed drive failed
    rw [written]
    obtain ⟨silent, tracer, tracee⟩ | ⟨lost, gone, tracer, tracee⟩ := Drive.wait_failed rfl run
    · rw [tracer, tracee] at becomes
      exact .inl ⟨silent, becomes.same found at_⟩
    · rw [tracer, tracee] at becomes
      exact .inr ⟨lost, t, h, found, at_, gone, becomes⟩
  kill {i j _ _ _} done failed := by
    have drive : s.drive k i j Drive.kill .stop = _ := done
    obtain ⟨t, h, v, found, at_, run, written, becomes⟩ := drive_failed drive failed
    rw [written]
    obtain ⟨unhurt, tracer, tracee⟩ | ⟨struck, traced, pid, ends⟩ := Drive.kill_failed rfl run
    · rw [tracer, tracee] at becomes
      exact .inl ⟨unhurt, becomes.same found at_⟩
    · refine .inr ⟨struck, t, h, v.tracee, found, at_, pid, ?_⟩
      obtain ⟨silent, tracer, state⟩ | ⟨lost, tracer, state⟩ := ends
      · rw [tracer] at becomes
        exact .inr ⟨silent, state, traced, becomes⟩
      · rw [tracer] at becomes
        exact .inl ⟨lost, state, becomes⟩

/-- One stop of a killed program is let go, and the wait for its end fails. -/
def unreaped : Kernel := { waits := [.ok ⟨none, 0x57f⟩, .error .eperm] }

theorem failures_of_unreaped :
    let s := (run startedByFirst (new 2)).2
    let done := s.step unreaped (.kill 0 0)
    done.1.outcome = .error (.os .eperm) ∧ ∃ t h x, s.tracers[0]? = some t ∧
      s.tracees[0]? = some h ∧ x.pid = h.tracee.pid ∧ x.state ∈ [.attached, .running] ∧
      t.isTracing h.tracee.pid = true ∧ s.Becomes 0 0 t x done.2 := by
  intro s done
  have failed : done.1.outcome = .error (.os .eperm) := by decide +kernel
  have calls : done.1.journal.calls = [.kill 1000 .kill (.ok ()),
      .waitpid 1000 (.ok ⟨1000, .stopped .trap⟩), .setOptions 1000 .standard (.ok ()),
      .waitpid 1000 (.error .eperm)] := by
    decide +kernel
  have failures : s.Failures unreaped := failures_of_step s unreaped
  obtain ⟨unhurt, _⟩ | ⟨_, t, h, x, found, at_, pid, ends⟩ :=
    failures.kill (Prod.eta done).symm failed
  · exact absurd ⟨1000, .kill, by rw [calls]; exact List.mem_cons_self⟩ unhurt
  · obtain ⟨lost, _⟩ | ⟨_, state, traced, becomes⟩ := ends
    · rw [calls] at lost
      simp [Lost] at lost
    · exact ⟨failed, t, h, x, found, at_, pid, state, traced, becomes⟩

end Session

end ProcTrace
