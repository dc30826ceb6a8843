import ProcTrace.Proofs.Dialogue.Drive
import ProcTrace.Proofs.Ledger.Session

/-!
# The dialogues of tracing one program

From the fork to the end of the program, whatever the kernel replies.

* `Talks.Then`, `Drive.Holds.bind`   dialogues one after the other, as the actions are;
* `Execs`            waiting for the exec;
* `Reads`            a look at a register;
* `OrKills`          what has to succeed, and the kill where it does not;
* `Runs`             all of it, after the fork;
* `Tracer.runTraced_of_runs`, `Tracer.exists_runs`   what a traced run says is one of these, and
                     it comes to what was said.
-/

namespace ProcTrace

open Course

/-! ## one after the other -/

namespace Talks

/-- The second dialogue is held if the first came to a value. -/
inductive Then (first : Talks α) (next : α → Talks β) : Talks β where
  | failed {c calls e d} (talk : first c calls (.error e) d) : Then first next c calls (.error e) d
  | passed {c calls a d more r b} (talk : first c calls (.ok a) d) (rest : next a d more r b) :
    Then first next c (calls ++ more) r b

/-- a dialogue, and what is made of the value that it comes to -/
inductive Map (f : α → β) (talks : Talks α) : Talks β where
  | failed {c calls e d} (talk : talks c calls (.error e) d) : Map f talks c calls (.error e) d
  | done {c calls a d} (talk : talks c calls (.ok a) d) : Map f talks c calls (.ok (f a)) d

end Talks

namespace Drive.Holds

variable {x : Drive α} {f : α → Drive β} {first : Talks α} {c : Cast}

theorem bind {next : α → Talks β} (holds : Holds x first c)
    (rest : ∀ {calls a d}, first c calls (.ok a) d → Holds (f a) (next a) d) :
    Holds (x >>= f) (first.Then next) c := by
  refine ⟨fun {calls r d} talk => ?_, fun h => ?_⟩
  · cases talk with
    | failed talk => exact (holds.does talk).bind_error
    | passed talk later => exact (holds.does talk).bind ((rest talk).does later)
  · obtain ⟨calls, r, d, talk, answered⟩ := holds.total h
    cases r with
    | error e => exact ⟨_, _, _, .failed talk, answered⟩
    | ok a =>
      obtain ⟨more, r, b, later, answered'⟩ := (rest talk).total (h.after calls)
      exact ⟨_, _, _, .passed talk later, Host.answers_append.mpr ⟨answered, answered'⟩⟩

theorem map (g : α → β) (holds : Holds x first c) :
    Holds (do return g (← x)) (first.Map g) c := by
  refine ⟨fun {calls r d} talk => ?_, fun h => ?_⟩
  · cases talk with
    | failed talk => exact (holds.does talk).bind_error
    | done talk => exact .then_silence (holds.does talk) (.pure _ d)
  · obtain ⟨calls, r, d, talk, answered⟩ := holds.total h
    cases r with
    | error e => exact ⟨_, _, _, .failed talk, answered⟩
    | ok a => exact ⟨_, _, _, .done talk, answered⟩

theorem after_silence {talks : Talks β} {a : α} (silent : Does x c [] (.ok a) c)
    (holds : Holds (f a) talks c) : Holds (x >>= f) talks c :=
  ⟨fun talk => .after_silence silent (holds.does talk), holds.total⟩

end Drive.Holds

/-! ## to the exec -/

inductive Execs : Talks Unit where
  | failed {c calls e d} (rounds : Rounds Drive.execOver Resumes c calls (.error e) d) :
    Execs c calls (.error e) d
  | ended {c calls stop d} (rounds : Rounds Drive.execOver Resumes c calls (.ok stop) d)
      (final : stop.isTerminal = true) : Execs c calls (.error (.exec c.tracee.pid stop)) d
  | done {c calls stop d} (rounds : Rounds Drive.execOver Resumes c calls (.ok stop) d)
      (still : stop.isTerminal = false) : Execs c calls (.ok ()) d

theorem Drive.still_of_execOver (stop : Stop) (onward : execOver stop = false) :
    stop.isTerminal = false := by
  cases final : stop.isTerminal with
  | false => rfl
  | true => rw [execOver, final, Bool.or_true] at onward; cases onward

theorem Execs.keeps {c d : Cast} {calls : List Syscall} (execs : Execs c calls (.ok ()) d) :
    c.Keeps d := by
  cases execs with
  | done rounds still =>
    obtain ⟨b, _, _, kept, ⟨waits, _⟩ | ⟨e, came, _⟩⟩ :=
      rounds.exists_last Drive.still_of_execOver Resumes.keeps
    · exact kept.trans (waits.keeps still)
    · cases came

theorem Execs.may {c d : Cast} {calls : List Syscall} (execs : Execs c calls (.ok ()) d)
    (may : c.May moving) : d.May [.stopped] := by
  cases execs with
  | done rounds still =>
    exact rounds.may_of_still Drive.still_of_execOver Resumes.keeps still may.owned

namespace Drive

/-- The loop is all that is said while waiting for the exec. -/
theorem waitForExec_does {c d : Cast} (owed : c.tracee.awaiting = some .exec)
    {calls : List Syscall} {r : Except Error Stop}
    (loop : Does (waitUntil execOver skip) c calls r d) : Does waitForExec c calls (match r with
      | .ok stop => if stop.isTerminal then .error (.exec c.tracee.pid stop) else .ok ()
      | .error e => .error e) d := by
  intro h answered
  obtain ⟨g, run, came⟩ := loop h answered
  refine ⟨g, ?_, came⟩
  have owed : (c.on h).tracee.awaiting = some .exec := owed
  rw [runOn_waitForExec, if_pos owed, run]
  cases r with
  | error e => rfl
  | ok stop => cases stop <;> rfl

theorem waitForExec_holds {c : Cast} (may : c.May moving) (owed : c.tracee.awaiting = some .exec) :
    Holds waitForExec Execs c := by
  have loop : Holds (waitUntil execOver skip) (Rounds execOver Resumes) c :=
    waitUntil_holds .skip still_of_execOver (fun stop _ => skip_holds stop)
      (fun _ _ _ => Resumes.may) may
  refine ⟨fun {calls r d} execs => ?_, fun h => ?_⟩
  · cases execs with
    | failed rounds => exact waitForExec_does owed (loop.does rounds)
    | ended rounds final => simpa [final] using waitForExec_does owed (loop.does rounds)
    | done rounds still => simpa [still] using waitForExec_does owed (loop.does rounds)
  · obtain ⟨calls, r, d, rounds, answered⟩ := loop.total h
    cases r with
    | error e => exact ⟨_, _, _, .failed rounds, answered⟩
    | ok stop =>
      cases final : stop.isTerminal with
      | true => exact ⟨_, _, _, .ended rounds final, answered⟩
      | false => exact ⟨_, _, _, .done rounds final, answered⟩

end Drive

/-! ## looking -/

/-- a look at a register of a tracee that stands still -/
inductive Reads (r : Slot) : Talks Word where
  | read {t x} (reply : Reply Word) (word : Word) (named : reply.named = .ok word) :
    Reads r ⟨t, x⟩ [.peekUser x.pid r.offset reply] (.ok word) ⟨t, x⟩
  | unread {t x} (reply : Reply Word) (e : Errno) (named : reply.named = .error e) :
    Reads r ⟨t, x⟩ [.peekUser x.pid r.offset reply] (.error (.registerRead x.pid r.offset e)) ⟨t, x⟩

/-- A dialogue, and that of a kill if it came to an error.  What the kill comes to changes nothing
in the error. -/
inductive OrKills (talks : Talks α) : Talks α where
  | fine {c calls a d} (talk : talks c calls (.ok a) d) : OrKills talks c calls (.ok a) d
  | struck {c calls e d more r b} (talk : talks c calls (.error e) d) (kills : Kills d more r b) :
    OrKills talks c (calls ++ more) (.error e) b

theorem Reads.eq {r : Slot} {c d : Cast} {calls : List Syscall} {w : Except Error Word}
    (reads : Reads r c calls w d) : d = c := by cases reads <;> rfl

namespace Drive

theorem inspect_holds (r : Slot) {c : Cast} (may : c.May [.stopped]) :
    Holds (inspect (Inspect.register · r)) (Reads r) c := by
  obtain ⟨t, x⟩ := c
  have allowed : x.require "read registers of" [.stopped] = .ok () :=
    Tracee.require_ok.mpr ⟨live_of_stopped may.state, may.state⟩
  have look (h : Host) : (inspect (Inspect.register · r)).runOn ⟨t, x, h⟩ =
      (((Inspect.register x r).runOn h).1, ⟨t, x, ((Inspect.register x r).runOn h).2⟩) := rfl
  refine ⟨fun {calls w d} reads h answered => ?_, fun h => ?_⟩
  · cases reads with
    | read reply word named =>
      have told : h.kernel.registers x.pid r.offset = reply :=
        (Syscall.peekUser.inj answered.1).2.2
      refine ⟨_, ?_, .noted (.asked answered.1) (.registerRead x.pid r word)⟩
      rw [Cast.on, look, Inspect.runOn_register, allowed]
      simp only [told, named]
      subst told
      rfl
    | unread reply e named =>
      have told : h.kernel.registers x.pid r.offset = reply :=
        (Syscall.peekUser.inj answered.1).2.2
      refine ⟨_, ?_, .asked answered.1⟩
      rw [Cast.on, look, Inspect.runOn_register, allowed]
      simp only [told, named]
      subst told
      rfl
  · cases named : (h.kernel.registers x.pid r.offset).named with
    | ok word => exact ⟨_, _, _, .read _ word named, rfl, trivial⟩
    | error e => exact ⟨_, _, _, .unread _ e named, rfl, trivial⟩

theorem orKill_holds {act : Drive α} {talks : Talks α} {c : Cast} (holds : Holds act talks c)
    (may : ∀ {calls e d}, talks c calls (.error e) d → d.May [.attached, .stopped, .running]) :
    Holds (orKill act) (OrKills talks) c := by
  refine ⟨fun {calls r d} talk h answered => ?_, fun h => ?_⟩
  · cases talk with
    | fine talk =>
      obtain ⟨g, run, came⟩ := holds.does talk h answered
      exact ⟨g, by rw [runOn_orKill, run], came⟩
    | struck talk kills =>
      rename_i more r
      obtain ⟨g, run, came⟩ := holds.does talk h (Host.answers_append.mp answered).1
      obtain ⟨k, run', came'⟩ := (kill_holds (may talk)).does kills g (came.answers answered)
      have both := came.trans came'
      cases r with
      | ok stop => exact ⟨k, by rw [runOn_orKill, run]; simp only [run'], both⟩
      | error failure =>
        exact ⟨k.noted (.killFailed d.tracee.pid failure),
          by rw [runOn_orKill, run]; simp only [run']; rfl, both.noted _⟩
  · obtain ⟨calls, r, d, talk, answered⟩ := holds.total h
    cases r with
    | ok a => exact ⟨_, _, _, .fine talk, answered⟩
    | error e =>
      obtain ⟨more, r, b, kills, answered'⟩ := (kill_holds (may talk)).total (h.after calls)
      exact ⟨_, _, _, .struck talk kills, Host.answers_append.mpr ⟨answered, answered'⟩⟩

end Drive

/-! ## the whole run -/

/-- the run of this process, after the fork -/
abbrev Runs (layout : Layout) (pid : Pid) : Talks RunReport :=
  Talks.Then Execs fun _ =>
    Talks.Then (OrKills (Reads (layout.slot .syscallNumber))) fun word =>
      Talks.Then Resumes fun _ => Talks.Map (⟨pid, word, ·⟩) (Rounds Stop.isTerminal Resumes)

namespace Drive

theorem waitForEnd_holds {c : Cast} (may : c.May moving) :
    Holds waitForEnd (Rounds Stop.isTerminal Resumes) c :=
  waitUntil_holds .passOn (fun _ onward => onward) (fun stop _ => passOn_holds stop)
    (fun _ _ _ => Resumes.may) may

theorem follow_holds (layout : Layout) {c : Cast} (may : c.May moving)
    (owed : c.tracee.awaiting = some .exec) :
    Holds (follow layout) (Runs layout c.tracee.pid) c := by
  refine .bind (waitForExec_holds may owed) fun {_ _ d} execs => ?_
  rw [← execs.keeps.pid]
  have stands : d.May [.stopped] := execs.may may
  have looks : Holds (orKill (inspect (Inspect.syscallNumber · layout)))
      (OrKills (Reads (layout.slot .syscallNumber))) d := by
    refine orKill_holds (inspect_holds (layout.slot .syscallNumber) stands) fun reads => ?_
    rw [reads.eq]
    exact stands.mono (by simp)
  refine .after_silence (.pid d) (.bind looks fun {_ word b} reads => ?_)
  have kept : b = d := by
    cases reads with
    | fine reads => exact reads.eq
  subst kept
  exact .after_silence (.note _ b) (.bind (resume_holds stands) fun resumes =>
    .map _ (waitForEnd_holds (resumes.may stands)))

end Drive

namespace Tracer

variable {t : Tracer} {layout : Layout} {h : Host} {pid : Pid}

theorem born_may (t : Tracer) (pid : Pid) (first : FirstStop) :
    (t.adopt pid).May (.born pid first) moving :=
  ⟨(t.isTracing_adopt pid pid).mpr (.inl rfl), List.mem_cons_self⟩

/-- A fork that gave the parent a process, and what is said after it. -/
theorem runTraced_of_runs (command : Command) (parent : pid ≠ 0) {calls : List Syscall}
    {r : Except Error RunReport} {d : Cast} (runs : Runs layout pid ⟨t.adopt pid, .born pid .exec⟩ calls r d)
    (answered : h.Answers (.fork (.ok pid) :: calls)) :
    ∃ g, (runTraced command layout).runOn ⟨t, h⟩ = (.ok (.parent ⟨r, d.tracee⟩), ⟨d.tracer, g⟩) ∧
      h.Came (.fork (.ok pid) :: calls) g := by
  have forked : (Host.fork h).1 = .ok pid := by
    have same : Syscall.fork (Host.fork h).1 = .fork (.ok pid) := answered.1
    exact Syscall.fork.inj same
  have came : h.Came [.fork (.ok pid)] (((Host.fork h).2.noted (.spawned pid command.program)).noted
      (.stateSet pid .created .attached)) := .noted (.noted (.asked answered.1) _) _
  have rest : Host.Answers calls _ := came.answers answered
  obtain ⟨g, run, came'⟩ := (Drive.follow_holds layout (c := ⟨_, .born pid .exec⟩)
    (t.born_may pid .exec) rfl).does runs _ rest
  refine ⟨g, ?_, came.trans came'⟩
  rw [runOn_runTraced, runOn_spawn, forked]
  simp only [if_neg parent]
  have run : (Drive.follow layout).runOn ⟨t.adopt pid, .born pid .exec, _⟩ = (r, d.on g) := run
  rw [run]
  rfl

/-- Every traced run is told by a dialogue. -/
theorem exists_runs (t : Tracer) (command : Command) (layout : Layout)
    (forked : (Host.fork h).1 = .ok pid) (parent : pid ≠ 0) :
    ∃ calls r d g, Runs layout pid ⟨t.adopt pid, .born pid .exec⟩ calls r d ∧
      h.Answers (.fork (.ok pid) :: calls) ∧
      (runTraced command layout).runOn ⟨t, h⟩ = (.ok (.parent ⟨r, d.tracee⟩), ⟨d.tracer, g⟩) ∧
      h.Came (.fork (.ok pid) :: calls) g := by
  obtain ⟨calls, r, d, runs, answered⟩ := (Drive.follow_holds layout (c := ⟨_, .born pid .exec⟩)
    (t.born_may pid .exec) rfl).total (Host.ask (.fork (.ok pid)) h).2
  have all : h.Answers (.fork (.ok pid) :: calls) := ⟨congrArg _ forked, answered⟩
  obtain ⟨g, run, came⟩ := runTraced_of_runs command parent runs all
  exact ⟨calls, r, d, g, runs, all, run, came⟩

end Tracer

end ProcTrace
