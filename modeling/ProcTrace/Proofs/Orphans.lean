import ProcTrace.Proofs.Reports

/-!
# What is left of a traced program

Nobody is handed the tracee of a traced run, so whatever is left with its tracer is left for good.

* `Syscall.TellsEnd`     nothing is left of the process that was waited for;
* `Closes`               a dialogue after whose end, if that is told, the tracee is given up;
* `Runs.closes`          as all traced runs are;
* `Kills.last_call`      a kill that succeeds is told the end, and one that fails gives nothing up;
* `Session.Tidied`       which runs leave nothing with the tracer;
* `Session.LeavesNone`   what would be if all did; they do not.
-/

namespace ProcTrace

open Course

/-! ## the last call -/

/-- Nothing is left of the process that was waited for: it has ended, or is no child any more. -/
inductive Syscall.TellsEnd : Syscall → Prop where
  | ended {pid : Pid} (w : Waited) (ends : w.status.isEnd = true) : TellsEnd (.waitpid pid (.ok w))
  | gone {pid : Pid} : TellsEnd (.waitpid pid (.error .echild))

/-- The process could not be killed, or could not be waited for afterwards. -/
inductive Syscall.KillFails (pid : Pid) : Syscall → Prop where
  | refused (e : Errno) : KillFails pid (.kill pid .kill (.error e))
  | unheard (e : Errno) (news : e ≠ .eintr) (other : e ≠ .echild) :
    KillFails pid (.waitpid pid (.error e))
  /-- a status that nobody asked for -/
  | odd (w : Waited) (none : w.status.stop? = none) : KillFails pid (.waitpid pid (.ok w))

theorem WaitStatus.isEnd_of_stop? {s : WaitStatus} {stop : Stop} (told : s.stop? = some stop) :
    s.isEnd = stop.isTerminal := by
  cases s <;> cases told <;> rfl

theorem WaitStatus.isEnd_of_odd {s : WaitStatus} (none : s.stop? = none) : s.isEnd = false := by
  cases s <;> first | rfl | cases none

theorem getLast?_heard (pid : Pid) (n : Nat) (reply : Reply Waited) :
    (heard pid n reply).getLast? = some (.waitpid pid reply) := List.getLast?_concat

theorem getLast?_after (earlier : List Syscall) {calls : List Syscall} {call : Syscall}
    (last : calls.getLast? = some call) : (earlier ++ calls).getLast? = some call := by
  rw [List.getLast?_append, last]
  rfl

/-- If the last call tells the end of the tracee, the tracer has given it up. -/
def Closes (c : Cast) (calls : List Syscall) (d : Cast) : Prop :=
  ∃ call, calls.getLast? = some call ∧
    (call.TellsEnd → d.tracer = c.tracer.release c.tracee.pid)

namespace Closes

variable {b c d : Cast} {calls : List Syscall} {call : Syscall}

theorem of_other (last : calls.getLast? = some call) (other : ¬ call.TellsEnd) :
    Closes c calls d := ⟨call, last, fun ends => absurd ends other⟩

theorem after (earlier : List Syscall) (kept : b.Keeps c) (closes : Closes c calls d) :
    Closes b (earlier ++ calls) d := by
  obtain ⟨call, last, ends⟩ := closes
  refine ⟨call, getLast?_after earlier last, fun tells => ?_⟩
  rw [ends tells, kept.tracer, kept.pid]

end Closes

theorem Waits.closes {t : Tracer} {x : Tracee} {calls : List Syscall} {r : Except Error Stop}
    {d : Cast} (waits : Waits t x calls r d) : Closes ⟨t, x⟩ calls d := by
  have unended {pid : Pid} {w : Waited} (going : w.status.isEnd = false) :
      ¬ Syscall.TellsEnd (.waitpid pid (.ok w)) := by
    intro tells
    cases tells with
    | ended _ ends =>
      rw [going] at ends
      cases ends
  have unasked {pid : Pid} {options : Options} {reply : Reply Unit} :
      ¬ Syscall.TellsEnd (.setOptions pid options reply) := nofun
  cases waits with
  | failed n e news other =>
    refine .of_other (getLast?_heard _ _ _) ?_
    intro tells
    cases tells
    exact other rfl
  | vanished n => exact ⟨_, getLast?_heard _ _ _, fun _ => rfl⟩
  | odd n w none =>
    exact .of_other (getLast?_heard _ _ _) (unended (WaitStatus.isEnd_of_odd none))
  | ended n w stop told final => exact ⟨_, getLast?_heard _ _ _, fun _ => rfl⟩
  | opened n w first owed told =>
    unfold Tracer.optionsCalls
    split
    · rw [List.append_nil]
      exact .of_other (getLast?_heard _ _ _) (unended (by rw [told]; rfl))
    · exact .of_other List.getLast?_concat unasked
  | missed n w first owed told some e => exact .of_other List.getLast?_concat unasked
  | stopped n w stop told still later =>
    refine .of_other (getLast?_heard _ _ _) (unended ?_)
    rw [WaitStatus.isEnd_of_stop? told, still]

theorem Rounds.closes {final : Stop → Bool} {pass : Talks Unit}
    (still : ∀ stop, final stop = false → stop.isTerminal = false)
    (keeps : ∀ {c calls d}, pass c calls (.ok ()) d → c.Keeps d)
    (fails : ∀ {c calls e d}, pass c calls (.error e) d → Closes c calls d)
    {c d : Cast} {calls : List Syscall} {r : Except Error Stop}
    (rounds : Rounds final pass c calls r d) : Closes c calls d := by
  obtain ⟨b, last, ⟨earlier, rfl⟩, kept, ⟨waits, _⟩ | ⟨e, _, passes⟩⟩ :=
    rounds.exists_last still keeps
  · exact waits.closes.after earlier kept
  · exact (fails passes).after earlier kept

theorem Resumes.closes {c d : Cast} {calls : List Syscall} {e : Error}
    (resumes : Resumes c calls (.error e) d) : Closes c calls d := by
  cases resumes with
  | refused e => exact .of_other rfl nofun

theorem LetsGo.closes {c d : Cast} {calls : List Syscall} {e : Error}
    (lets : LetsGo c calls (.error e) d) : Closes c calls d := by cases lets

theorem Execs.closes {c d : Cast} {calls : List Syscall} {e : Error}
    (execs : Execs c calls (.error e) d) : Closes c calls d := by
  cases execs with
  | failed rounds => exact rounds.closes Drive.still_of_execOver Resumes.keeps Resumes.closes
  | ended rounds _ => exact rounds.closes Drive.still_of_execOver Resumes.keeps Resumes.closes

theorem Kills.closes {c d : Cast} {calls : List Syscall} {r : Except Error Stop}
    (kills : Kills c calls r d) : Closes c calls d := by
  cases kills with
  | refused e => exact .of_other rfl nofun
  | sent rounds =>
    exact (rounds.closes (fun _ onward => onward) LetsGo.keeps LetsGo.closes).after [_]
      (Tracee.struck_keeps _ _)

theorem Runs.closes {layout : Layout} {pid : Pid} {c d : Cast} {calls : List Syscall}
    {r : Except Error RunReport} (runs : Runs layout pid c calls r d) : Closes c calls d := by
  cases runs with
  | failed execs => exact execs.closes
  | passed execs rest =>
    refine .after _ execs.keeps ?_
    cases rest with
    | failed reads =>
      cases reads with
      | struck reads kills =>
        rw [reads.eq] at kills
        exact kills.closes.after _ (.refl _)
    | passed reads rest =>
      cases reads with
      | fine reads =>
        rw [reads.eq] at rest
        refine .after _ (.refl _) ?_
        cases rest with
        | failed resumes => exact resumes.closes
        | passed resumes rest =>
          refine .after _ resumes.keeps ?_
          cases rest with
          | failed rounds => exact rounds.closes (fun _ onward => onward) Resumes.keeps Resumes.closes
          | done rounds => exact rounds.closes (fun _ onward => onward) Resumes.keeps Resumes.closes

/-- Once there is a tracee, its spawn did not fail. -/
theorem Runs.ne_spawn {layout : Layout} {pid : Pid} {c d : Cast} {calls : List Syscall} {e : Error}
    (runs : Runs layout pid c calls (.error e) d) (n : Errno) : e ≠ .spawn n := by
  have of_mishap {e : Error} (mishap : e.isMishap = true) : e ≠ .spawn n := by
    rintro rfl
    cases mishap
  cases runs with
  | failed execs =>
    cases execs with
    | failed rounds => exact of_mishap (rounds.isMishap_of_resumes Drive.still_of_execOver)
    | ended _ _ => exact nofun
  | passed _ rest =>
    cases rest with
    | failed reads =>
      cases reads with
      | struck reads _ =>
        cases reads with
        | unread _ _ _ => exact nofun
    | passed _ rest =>
      cases rest with
      | failed resumes => exact of_mishap resumes.isMishap
      | passed _ rest =>
        cases rest with
        | failed rounds => exact of_mishap (rounds.isMishap_of_resumes fun _ onward => onward)

/-! ## who is seen to end -/

theorem Told.getLast?_calls {s : Told} {exit : Stop} (ended : s.status.stop? = some exit)
    (final : exit.isTerminal = true) (pid : Pid) :
    ∃ call, (s.calls pid).getLast? = some call ∧ call.TellsEnd :=
  ⟨_, getLast?_heard pid _ _, .ended s.waited ((WaitStatus.isEnd_of_stop? ended).trans final)⟩

/-- A report is given on a program that was seen to end. -/
theorem Runs.tellsEnd_of_report {layout : Layout} {pid : Pid} {t : Tracer} {calls : List Syscall}
    {report : RunReport} {d : Cast}
    (runs : Runs layout pid ⟨t, .born pid .exec⟩ calls (.ok report) d) :
    ∃ call, calls.getLast? = some call ∧ call.TellsEnd := by
  obtain ⟨_, w, reply, _, rfl⟩ := FullCourse.exists_of_runs runs
  obtain ⟨call, last, tells⟩ := Told.getLast?_calls w.ended w.final pid
  refine ⟨call, ?_, tells⟩
  exact getLast?_after _ (getLast?_after _ (getLast?_after _ (getLast?_after _ last)))

/-- A program that ended before its exec was seen to end. -/
theorem Runs.tellsEnd_of_exec {layout : Layout} {pid : Pid} {t : Tracer} {calls : List Syscall}
    {p : Pid} {stop : Stop} {d : Cast}
    (runs : Runs layout pid ⟨t, .born pid .exec⟩ calls (.error (.exec p stop)) d) :
    ∃ call, calls.getLast? = some call ∧ call.TellsEnd := by
  obtain ⟨_, w, rfl⟩ := CutCourse.exists_of_runs runs
  obtain ⟨call, last, tells⟩ := Told.getLast?_calls w.ended w.final pid
  exact ⟨call, getLast?_after _ last, tells⟩

theorem Kills.sends {c d : Cast} {calls : List Syscall} {r : Except Error Stop}
    (kills : Kills c calls r d) : ∃ reply, .kill c.tracee.pid .kill reply ∈ calls := by
  cases kills with
  | refused e => exact ⟨_, List.mem_singleton_self _⟩
  | sent _ => exact ⟨_, List.mem_cons_self⟩

/-- A kill that succeeds is told the end, and one that fails gives nothing up, if the first stop
was already seen. -/
theorem Kills.last_call {c d : Cast} (opened : c.tracee.awaiting = none) {calls : List Syscall}
    {r : Except Error Stop} (kills : Kills c calls r d) : ∃ call, calls.getLast? = some call ∧
      (call.TellsEnd ∨ call.KillFails c.tracee.pid ∧ d.tracer = c.tracer) := by
  cases kills with
  | refused e => exact ⟨_, rfl, .inr ⟨.refused e, rfl⟩⟩
  | sent rounds =>
    rename_i t x calls
    obtain ⟨b, last, ⟨earlier, rfl⟩, kept, ⟨waits, arrived⟩ | ⟨e, _, lets⟩⟩ :=
      rounds.exists_last (fun _ onward => onward) LetsGo.keeps
    · have kept := (x.struck_keeps t).trans kept
      have seen := kept.awaiting opened
      have own : b.tracee.pid = x.pid := kept.pid
      have end_of {call : Syscall} (told : last.getLast? = some call) :
          ((.kill x.pid .kill (.ok ()) :: (earlier ++ last) : List Syscall)).getLast? = some call :=
        getLast?_after (_ :: earlier) told
      cases waits with
      | failed n e news other =>
        exact ⟨_, end_of (getLast?_heard _ _ _), .inr ⟨own ▸ .unheard e news other, kept.tracer⟩⟩
      | vanished n => exact ⟨_, end_of (getLast?_heard _ _ _), .inl .gone⟩
      | odd n w none =>
        exact ⟨_, end_of (getLast?_heard _ _ _), .inr ⟨own ▸ .odd w none, kept.tracer⟩⟩
      | ended n w stop told final =>
        exact ⟨_, end_of (getLast?_heard _ _ _),
          .inl (.ended w ((WaitStatus.isEnd_of_stop? told).trans final))⟩
      | opened _ _ _ owed _ | missed _ _ _ owed _ _ _ =>
        rw [seen] at owed
        cases owed
      | stopped n w stop told still _ =>
        rw [arrived stop rfl] at still
        cases still
    · cases lets

/-- A tracee whose register could not be read was killed, and stays only if that failed. -/
theorem Runs.struck_of_registerRead {layout : Layout} {pid p : Pid} {t : Tracer}
    {calls : List Syscall} {offset : UInt64} {e : Errno} {d : Cast}
    (runs : Runs layout pid ⟨t, .born pid .exec⟩ calls (.error (.registerRead p offset e)) d) :
    p = pid ∧ (∃ reply, .kill pid .kill reply ∈ calls) ∧ ∃ call, calls.getLast? = some call ∧
      (call.TellsEnd ∨ call.KillFails pid ∧ d.tracer = t) := by
  cases runs with
  | failed execs =>
    cases execs with
    | failed rounds => cases rounds.isMishap_of_resumes Drive.still_of_execOver
  | passed execs rest =>
    obtain ⟨before, exec, _, _, rfl, rfl⟩ := execs.exists_told rfl
    have own : ((Tracee.born pid .exec).atExec before).pid = pid :=
      (Tracee.born pid .exec).pid_past before
    cases rest with
    | failed reads =>
      cases reads with
      | struck reads kills =>
        obtain rfl := reads.eq
        obtain ⟨reply, sent⟩ := kills.sends
        obtain ⟨call, last, ends⟩ := kills.last_call rfl
        rw [own] at sent ends
        cases reads with
        | unread _ _ _ =>
          refine ⟨own, ⟨reply, ?_⟩, call, getLast?_after _ (getLast?_after _ last), ends⟩
          exact List.mem_append_right _ (List.mem_append_right _ sent)
    | passed reads rest =>
      cases rest with
      | failed resumes => cases resumes
      | passed _ rest =>
        cases rest with
        | failed rounds => cases rounds.isMishap_of_resumes fun _ onward => onward

/-! ## sessions -/

/-- The run gave a report, or there was no tracee in the first place, or it ended before its exec. -/
def Outcome.isSettled : Outcome → Bool
  | .ok _ | .error (.spawn _) | .error (.exec _ _) => true
  | _ => false

namespace Session

variable {s : Session} {k : Kernel} {i : Nat} {t : Tracer}

/-- A traced run that makes no tracee changes no tracer, and any other is told by a dialogue. -/
theorem runTraced_cases (found : s.tracers[i]? = some t) (command : Command) (layout : Layout) :
    let out := s.step k (.runTraced i command layout)
    (out.2.tracers = s.tracers ∧ ∀ e, out.1.outcome = .error e → ∃ n, e = .spawn n) ∨
    ∃ pid calls r d, (Host.fork (s.host k)).1 = .ok pid ∧ pid ≠ 0 ∧
      Runs layout pid ⟨t.adopt pid, .born pid .exec⟩ calls r d ∧
      out.1.journal.calls = .fork (.ok pid) :: calls ∧
      (∀ v, out.1.outcome = .ok v → ∃ report, r = .ok report) ∧
      (∀ e, out.1.outcome = .error e → r = .error e) ∧
      out.2.tracers = s.tracers.set i d.tracer := by
  have step : s.step k (.runTraced i command layout) =
      s.recruit k t (Tracer.runTraced command layout) (·.setTracer i) (keepRun i) := by
    rw [Session.step, withTracer, found]
  rw [step]
  cases forked : (Host.fork (s.host k)).1 with
  | error e =>
    left
    rw [recruit_error (t.runTraced_unforked command layout forked)]
    exact ⟨set_tracers_self found, fun _ same => ⟨e, (Outcome.error.inj same).symm⟩⟩
  | ok pid =>
    by_cases child : pid = 0
    · left
      rw [recruit_child (t.runTraced_child command layout (forked.trans (congrArg _ child)))]
      refine ⟨rfl, fun e same => ?_⟩
      cases same
    · right
      obtain ⟨calls, r, d, g, runs, answered, run, came⟩ :=
        t.exists_runs command layout forked child
      rw [recruit_parent run]
      refine ⟨pid, calls, r, d, rfl, child, runs, came.written, ?_, ?_, rfl⟩
      · intro v same
        cases r with
        | ok report => exact ⟨report, rfl⟩
        | error e => cases same
      · intro e same
        cases r with
        | ok report => cases same
        | error e => exact congrArg _ (Outcome.error.inj same)

/-- what is left with its tracer after a traced run -/
structure Tidied (s : Session) (i : Nat) (t : Tracer) (out : Answer × Session) : Prop where
  settled : out.1.outcome.isSettled = true → out.2.tracers = s.tracers
  /-- whatever the run came to -/
  gone {call : Syscall} (last : out.1.journal.calls.getLast? = some call) (tells : call.TellsEnd) :
    out.2.tracers = s.tracers
  /-- A tracee that could not be read was killed.  It stays only if that failed. -/
  unread {pid : Pid} {offset : UInt64} {e : Errno}
    (failed : out.1.outcome = .error (.registerRead pid offset e)) :
    (∃ reply, .kill pid .kill reply ∈ out.1.journal.calls) ∧
    (out.2.tracers = s.tracers ∨
      (∃ call, out.1.journal.calls.getLast? = some call ∧ call.KillFails pid) ∧
        out.2.tracers = s.tracers.set i (t.adopt pid))

theorem tidied_of_runTraced (found : s.tracers[i]? = some t)
    (fresh : ∀ pid, (Host.fork (s.host k)).1 = .ok pid → pid ≠ 0 → t.isTracing pid = false)
    (command : Command) (layout : Layout) :
    s.Tidied i t (s.step k (.runTraced i command layout)) := by
  rcases runTraced_cases (k := k) found command layout with ⟨same, spawned⟩ |
    ⟨pid, calls, r, d, forked, parent, runs, written, reported, failed, tracers⟩
  · refine ⟨fun _ => same, fun _ _ => same, fun unread => ?_⟩
    obtain ⟨n, spawn⟩ := spawned _ unread
    cases spawn
  · have given_up (call : Syscall) (last : calls.getLast? = some call) (tells : call.TellsEnd) :
        (s.step k (.runTraced i command layout)).2.tracers = s.tracers := by
      obtain ⟨call', last', closed⟩ := runs.closes
      rw [last] at last'
      cases last'
      have released : d.tracer = t := by
        rw [closed tells]
        exact Tracer.release_adopt (fresh pid forked parent)
      rw [tracers, released, set_tracers_self found]
    have last_of {call : Syscall} (last : calls.getLast? = some call) :
        (.fork (.ok pid) :: calls : List Syscall).getLast? = some call := getLast?_after [_] last
    refine ⟨fun settled => ?_, fun last tells => ?_, fun unread => ?_⟩
    · cases outcome : (s.step k (.runTraced i command layout)).1.outcome with
      | ok v =>
        obtain ⟨report, rfl⟩ := reported v outcome
        obtain ⟨call, last, tells⟩ := runs.tellsEnd_of_report
        exact given_up call last tells
      | error e =>
        obtain rfl := failed e outcome
        rw [outcome] at settled
        cases e with
        | exec p stop =>
          obtain ⟨call, last, tells⟩ := runs.tellsEnd_of_exec
          exact given_up call last tells
        | spawn n => exact absurd rfl (runs.ne_spawn n)
        | _ => cases settled
      | noTracee | noTracer =>
        rw [outcome] at settled
        cases settled
    · obtain ⟨call', last', _⟩ := runs.closes
      rw [written, last_of last'] at last
      cases last
      exact given_up _ last' tells
    · obtain rfl := failed _ unread
      obtain ⟨rfl, ⟨reply, sent⟩, call, last, tells | ⟨fails, kept⟩⟩ := runs.struck_of_registerRead
      · refine ⟨⟨reply, ?_⟩, .inl (given_up call last tells)⟩
        rw [written]
        exact List.mem_cons_of_mem _ sent
      · refine ⟨⟨reply, ?_⟩, .inr ⟨⟨call, ?_, fails⟩, ?_⟩⟩
        · rw [written]
          exact List.mem_cons_of_mem _ sent
        · rw [written, last_of last]
        · rw [tracers, kept]

/-- A program stops at its exec, where its registers cannot be read, and is killed. -/
def unreadable : Kernel := { waits := [.ok ⟨none, 0x57f⟩, .ok ⟨none, 9⟩] }

theorem tidied_of_unreadable :
    let out := (new 1).step unreadable (.runTraced 0 ls .native)
    out.1.outcome = .error (.registerRead 1000 120 .eio) ∧ out.2.tracers = (new 1).tracers := by
  have found : (new 1).tracers[0]? = some .new := rfl
  have forks : (Host.fork ((new 1).host unreadable)).1 = .ok 1000 := by decide
  have tidied := tidied_of_runTraced found (k := unreadable) (fun pid forked _ => by
    rw [forks] at forked
    cases forked
    decide) ls .native
  have last : ((new 1).step unreadable (.runTraced 0 ls .native)).1.journal.calls.getLast? =
      some (.waitpid 1000 (.ok ⟨1000, .signaled .kill false⟩)) := by decide +kernel
  exact ⟨by decide +kernel, tidied.gone last (.ended _ rfl)⟩

/-! ## what is left all the same -/

/-- The tracer would trace the same processes as before. -/
def LeavesNone (s : Session) (k : Kernel) (i : Nat) (command : Command) (layout : Layout) : Prop :=
  ∀ t u, s.tracers[i]? = some t →
    (s.step k (.runTraced i command layout)).2.tracers[i]? = some u →
    ∀ pid, u.isTracing pid = t.isTracing pid

/-- Its registers cannot be read either, but the kill is refused. -/
def unkillable : Kernel := { waits := [.ok ⟨none, 0x57f⟩], kills := [.error .eperm] }

/-- The program stops before its exec, and cannot be resumed. -/
def unresumable : Kernel := { waits := [.ok ⟨none, 0x137f⟩], conts := [.error .eperm] }

/-- Both programs stay with their tracer. -/
theorem not_leavesNone :
    (((new 1).step unkillable (.runTraced 0 ls .native)).1.outcome =
        .error (.registerRead 1000 120 .eio) ∧ ¬ LeavesNone (new 1) unkillable 0 ls .native) ∧
    (((new 1).step unresumable (.runTraced 0 ls .native)).1.outcome =
        .error (.resume 1000 .eperm) ∧ ¬ LeavesNone (new 1) unresumable 0 ls .native) := by
  have traced : (Tracer.new.adopt 1000).isTracing 1000 = true := by decide
  have untraced : Tracer.new.isTracing 1000 = false := by decide
  refine ⟨⟨by decide +kernel, fun none => ?_⟩, ⟨by decide +kernel, fun none => ?_⟩⟩
  · have after : ((new 1).step unkillable (.runTraced 0 ls .native)).2.tracers[0]? =
        some (Tracer.new.adopt 1000) := by decide +kernel
    have same := none .new _ rfl after 1000
    rw [traced, untraced] at same
    cases same
  · have after : ((new 1).step unresumable (.runTraced 0 ls .native)).2.tracers[0]? =
        some (Tracer.new.adopt 1000) := by decide +kernel
    have same := none .new _ rfl after 1000
    rw [traced, untraced] at same
    cases same

end Session

end ProcTrace
