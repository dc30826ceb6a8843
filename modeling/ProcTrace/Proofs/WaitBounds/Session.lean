import ProcTrace.Proofs.Bouts.Events
import ProcTrace.Proofs.Dialogue.Refusals
import ProcTrace.Proofs.ForkSides
import ProcTrace.Proofs.WaitBounds.Pace

/-!
# Waiting in sessions comes to an end

Where the wait after the first `n` finds no such child, every operation that waits makes at most one
wait more than these.  It resumes at most as many stops as it was told, and if it comes to that last
wait, the tracee has exited then and its tracer has given it up.

The replies that are left behind that wait may be any, and as many as one likes, and so may be the
replies to all other calls.  So it is not for want of replies that a loop ends there: the loops obey
the equations of loops without a bound (`Drive.waitpid_eq`, `Drive.waitUntil_eq`), and their
dialogues are as long as the replies make them.

* `Ending`                 a dialogue that quits, paced;
* `Drive.Ending`           an action that holds such dialogues whatever the host replies;
* `Session.GaveUp`         the tracee of an operation has exited and was given up;
* `Session.Ends`           the bounds on an operation, and what it comes to when it meets them;
* `Session.ends_of_mayWait`   so it is with every operation that waits.
-/

namespace ProcTrace

open Course

/-- a dialogue that quits, and in which nothing is resumed twice -/
structure Ending (c : Cast) (calls : List Syscall) (d : Cast) : Prop where
  quits : Quits c calls d
  paced : Paced calls

/-- The stops that can be told are fewer than the waits, if the last of these finds no child. -/
theorem Ending.conts_le {c d : Cast} {calls : List Syscall} (ending : Ending c calls d) {h : Host}
    {n : Nat} (gone : h.kernel.GoneAfter n) (answered : h.Answers calls) :
    calls.countP Syscall.isCont ≤ n := by
  refine Nat.le_trans ending.paced.conts_le ?_
  rcases ending.quits.cases_of_goneAfter gone answered with fewer | ⟨_, earlier, made, rfl⟩
  · exact Nat.le_trans (tellsStop_le_waitsMade calls) fewer
  · rw [List.countP_append, ← made]
    exact tellsStop_le_waitsMade earlier

/-! ## actions -/

namespace Drive

/-- Whatever the host replies, the action holds a dialogue that comes to an end. -/
def Ending (act : Drive α) (c : Cast) : Prop :=
  ∀ h : Host, ∃ calls r d g, ProcTrace.Ending c calls d ∧ h.Answers calls ∧
    act.runOn (c.on h) = (r, d.on g) ∧ h.Came calls g

variable {act : Drive α} {talks : Talks α} {c : Cast}

theorem Holds.ending (holds : Holds act talks c) (quit : talks.Quit) (even : talks.Even) :
    Ending act c := by
  intro h
  obtain ⟨calls, r, d, g, talk, answered, run, came⟩ := holds.run h
  exact ⟨calls, r, d, g, ⟨quit talk, even talk⟩, answered, run, came⟩

/-- What is refused is refused before anything is said. -/
theorem Refused.ending {e : Error} (refused : Refused act c e) : Ending act c := by
  intro h
  have silent : ProcTrace.Ending c [] c := ⟨.of_silent (by simp), .of_quiet (by simp)⟩
  exact ⟨[], .error e, c, h, silent, trivial, refused.run h, .refl h⟩

theorem wait_ending (c : Cast) : Ending wait c := by
  obtain ⟨_, refused⟩ | holds := wait_refused_or_holds c
  · exact refused.ending
  · exact holds.ending (fun _ _ _ _ waits => waits.quits) fun _ _ _ _ waits => .of_quiet waits.quiet

theorem kill_ending (c : Cast) : Ending kill c := by
  obtain ⟨_, refused⟩ | holds := kill_refused_or_holds c
  · exact refused.ending
  · exact holds.ending Kills.quit Kills.even

theorem waitForExec_ending (c : Cast) : Ending waitForExec c := by
  obtain ⟨_, refused⟩ | holds := waitForExec_refused_or_holds c
  · exact refused.ending
  · exact holds.ending Execs.quit Execs.even

end Drive

/-! ## the child of a fork -/

/-- The child neither waits for anyone nor resumes anyone. -/
theorem Command.ChildSide.idle {c : Command} {made : List Syscall} {exit : Option Int32}
    (side : c.ChildSide made exit) : ∀ s ∈ made, s.isWait = false ∧ s.isCont = false := by
  have executes {reply : Reply Unit} {exec : Syscall} (tries : c.Executes reply exec) :
      exec.isWait = false ∧ exec.isCont = false := by
    cases tries <;> exact ⟨rfl, rfl⟩
  cases side with
  | untraced e =>
    exact List.forall_mem_cons.mpr ⟨⟨rfl, rfl⟩, List.forall_mem_singleton.mpr ⟨rfl, rfl⟩⟩
  | unexecuted e tries =>
    exact List.forall_mem_cons.mpr ⟨⟨rfl, rfl⟩, List.forall_mem_cons.mpr
      ⟨executes tries, List.forall_mem_singleton.mpr ⟨rfl, rfl⟩⟩⟩
  | replaced tries =>
    exact List.forall_mem_cons.mpr ⟨⟨rfl, rfl⟩, List.forall_mem_singleton.mpr (executes tries)⟩

/-! ## operations -/

namespace Session

/-- the tracee that an operation was done on, or made and abandoned last -/
def about? (u : Session) (op : Op) : Option Held :=
  match op.tracee? with
  | some j => u.tracees[j]?
  | none => u.abandoned.getLast?

/-- The tracee of the operation is this process, has exited, and is not traced by the tracer of the
operation any more. -/
def GaveUp (u : Session) (op : Op) (pid : Pid) : Prop :=
  ∃ i t h, op.tracer? = some i ∧ u.tracers[i]? = some t ∧ u.about? op = some h ∧
    h.tracee.pid = pid ∧ h.tracee.state = .exited ∧ t.isTracing pid = false

/-- how an operation ends where the wait after the first `n` finds no such child -/
structure Ends (n : Nat) (op : Op) (out : Answer × Session) : Prop where
  waits : waitsMade out.1.journal.calls ≤ n + 1
  paced : Paced out.1.journal.calls
  conts : out.1.journal.calls.countP Syscall.isCont ≤ n
  /-- The one wait more is the last call of all. -/
  gone : n < waitsMade out.1.journal.calls →
    ∃ pid, out.1.journal.calls.getLast? = some (.waitpid pid (.error .echild)) ∧ out.2.GaveUp op pid

variable {s : Session} {k : Kernel} {n : Nat} {op : Op} {out : Answer × Session}

theorem ends_of_idle (idle : ∀ c ∈ out.1.journal.calls, c.isWait = false ∧ c.isCont = false) :
    Ends n op out := by
  have none : waitsMade out.1.journal.calls = 0 :=
    List.countP_eq_zero.mpr fun c mem => by simp [(idle c mem).1]
  have quiet : out.1.journal.calls.countP Syscall.isCont = 0 :=
    List.countP_eq_zero.mpr fun c mem => by simp [(idle c mem).2]
  refine ⟨by omega, .of_quiet fun c mem => (idle c mem).2, by omega, fun more => ?_⟩
  omega

theorem ends_of_ending {c d : Cast} {calls : List Syscall} (ending : Ending c calls d)
    (gone : k.GoneAfter n) (answered : (s.host k).Answers calls)
    (made : out.1.journal.calls = calls) (up : c.GivenUp d → out.2.GaveUp op c.tracee.pid) :
    Ends n op out := by
  rw [← made] at ending answered
  have few := ending.quits.cases_of_goneAfter gone answered
  refine ⟨?_, ending.paced, ending.conts_le gone answered, fun more => ?_⟩
  · rcases few with fewer | ⟨_, earlier, made, all⟩
    · omega
    · rw [all, waitsMade_append, made]
      exact Nat.le_refl _
  · rcases few with fewer | ⟨gaveUp, earlier, _, all⟩
    · omega
    · exact ⟨c.tracee.pid, by rw [all]; exact List.getLast?_concat, up gaveUp⟩

theorem ends_of_drive {act : Drive α} (ending : ∀ c, act.Ending c) (gone : k.GoneAfter n) {i j : Nat}
    (value : α → Value) (by_ : op.tracer? = some i) (on : op.tracee? = some j) :
    Ends n op (s.drive k i j act value) := by
  cases at_ : s.tracees[j]? with
  | none =>
    rw [drive, at_]
    exact ends_of_idle (by simp [Journal.calls])
  | some h =>
    cases found : s.tracers[i]? with
    | none =>
      rw [drive, at_, found]
      exact ends_of_idle (by simp [Journal.calls])
    | some t =>
      obtain ⟨calls, r, d, g, ends, answered, run, came⟩ := ending ⟨t, h.tracee⟩ (s.host k)
      rw [Cast.on] at run
      rw [drive_eq found at_]
      simp only [run]
      refine ends_of_ending ends gone answered (came.calls_of_new rfl) fun up => ?_
      refine ⟨i, d.tracer, { h with tracee := d.tracee }, by_, ?_, ?_, up.pid, up.exited, up.untraced⟩
      · exact List.getElem?_set_self (List.getElem?_eq_some_iff.mp found).1
      · show about? _ op = _
        rw [about?, on]
        show (s.tracees.modify j _)[j]? = _
        rw [List.getElem?_modify_eq, at_]
        rfl

theorem ends_of_runTraced (gone : k.GoneAfter n) (i : Nat) (command : Command) (layout : Layout) :
    Ends n (.runTraced i command layout) (s.step k (.runTraced i command layout)) := by
  cases found : s.tracers[i]? with
  | none =>
    rw [step, withTracer, found]
    exact ends_of_idle (by simp [Journal.calls])
  | some t =>
    have goes : s.step k (.runTraced i command layout) =
        s.recruit k t (Tracer.runTraced command layout) (·.setTracer i) (keepRun i) := by
      rw [step, withTracer, found]
    rw [goes]
    cases forked : (Host.fork (s.host k)).1 with
    | error e =>
      have came : (s.host k).Came [.fork (.error e)] (Host.fork (s.host k)).2 :=
        .asked (congrArg Syscall.fork forked)
      rw [recruit_error (t.runTraced_unforked command layout forked)]
      refine ends_of_idle ?_
      rw [came.calls_of_new rfl]
      simp [Syscall.isWait, Syscall.isCont]
    | ok pid =>
      by_cases child : pid = 0
      · subst child
        obtain ⟨made, exit, side, _, _, ran⟩ := command.exists_childSide (Host.fork (s.host k)).2
        have came : (s.host k).Came [.fork (.ok 0)] (Host.fork (s.host k)).2 :=
          .asked (congrArg Syscall.fork forked)
        rw [recruit_child (t.runTraced_child command layout forked)]
        refine ends_of_idle ?_
        rw [(came.trans ran).calls_of_new rfl]
        exact List.forall_mem_cons.mpr ⟨⟨rfl, rfl⟩, side.idle⟩
      · obtain ⟨calls, r, d, g, runs, answered, run, came⟩ :=
          t.exists_runs command layout forked child
        have ending : Ending ⟨t.adopt pid, .born pid .exec⟩ ([.fork (.ok pid)] ++ calls) d := by
          refine ⟨.after ?_ (.refl _) (Runs.quit layout pid runs), .append ?_ (Runs.even layout pid runs)⟩
          · simp [Lost]
          · exact .of_quiet (by simp [Syscall.isCont])
        rw [recruit_parent run]
        refine ends_of_ending ending gone answered (came.calls_of_new rfl) fun up => ?_
        refine ⟨i, d.tracer, ⟨i, .exec, d.tracee⟩, rfl, ?_, ?_, up.pid, up.exited, up.untraced⟩
        · exact List.getElem?_set_self (List.getElem?_eq_some_iff.mp found).1
        · exact List.getLast?_concat

/-- Whatever the session, and whatever the kernel replies otherwise. -/
theorem ends_of_mayWait {op : Op} (waits : op.mayWait = true) (s : Session) {k : Kernel} {n : Nat}
    (gone : k.GoneAfter n) : Ends n op (s.step k op) := by
  cases op with
  | wait i j => exact ends_of_drive Drive.wait_ending gone .stop rfl rfl
  | waitForExec i j => exact ends_of_drive Drive.waitForExec_ending gone _ rfl rfl
  | kill i j => exact ends_of_drive Drive.kill_ending gone .stop rfl rfl
  | runTraced i command layout => exact ends_of_runTraced gone i command layout
  | _ => cases waits

/-- An interruption and a stop before the exec, and more to be told behind. -/
def vanishing : Kernel :=
  { waits := [.error .eintr, .ok ⟨none, 0x137f⟩, .error .echild, .ok ⟨none, 0x57f⟩] }

theorem ends_of_vanishing :
    let out := (run startedByFirst (new 2)).2.step vanishing (.waitForExec 0 0)
    waitsMade out.1.journal.calls = 3 ∧ out.1.journal.calls.countP Syscall.isCont = 1 ∧
      Ends 2 (.waitForExec 0 0) out ∧ ∃ pid, out.2.GaveUp (.waitForExec 0 0) pid := by
  intro out
  have made : waitsMade out.1.journal.calls = 3 := by decide +kernel
  have ends : Ends 2 (.waitForExec 0 0) out := ends_of_mayWait rfl _ rfl
  obtain ⟨pid, _, gaveUp⟩ := ends.gone (by rw [made]; decide)
  exact ⟨made, by decide +kernel, ends, pid, gaveUp⟩

end Session

end ProcTrace
