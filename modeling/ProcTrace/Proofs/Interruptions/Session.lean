import ProcTrace.Proofs.Independence
import ProcTrace.Proofs.Interruptions.Drive

/-!
# Interruptions in sessions

An operation that waits comes to the same, and makes the same calls, however often its waits are
interrupted.  An interruption leaves its error number behind, which only a wait that failed without
setting one would give as its reason.

* `Session.WaitsFor`        the processes that an operation may wait for;
* `Session.Undisturbed`     the same answer and the same session, by calls that are the same but for
                            the interrupted waits;
* `Session.undisturbed_of_mayWait`   so it is with every operation that waits.
-/

namespace ProcTrace

/-- The operation may wait for a process. -/
def Op.mayWait : Op → Bool
  | wait _ _ | waitForExec _ _ | kill _ _ | runTraced _ _ _ => true
  | _ => false

/-! ## forking -/

/-- That would be a failure. -/
theorem Host.fork_ne_minusOne {h : Host} {pid : Pid} (forked : (fork h).1 = .ok pid) : pid ≠ -1 := by
  have real {errno : Errno} {reply : Reply Pid} (made : forkReply errno reply = .ok pid) :
      pid ≠ -1 := by
    cases reply with
    | error e => cases made
    | ok p =>
      by_cases failed : p = -1
      · rw [forkReply, Reply.bind, if_pos failed] at made
        cases made
      · rw [forkReply, Reply.bind, if_neg failed] at made
        cases made
        exact failed
  obtain ⟨⟨forks, _, _, _, _, _, _, _, _, _, _⟩, errno, nextPid, _⟩ := h
  cases forks with
  | nil => exact @real errno (.ok nextPid) forked
  | cons reply _ => exact @real errno reply forked

/-- What the child does after the fork depends on how tracing and executing are answered. -/
theorem Command.exists_runChild (c : Command) (h : Host) : ∃ exit made, waitsMade made = 0 ∧
    ∀ g : Host, g.kernel.traceMes = h.kernel.traceMes → g.kernel.execs = h.kernel.execs →
      (c.runChild g).1 = exit ∧ g.Came made (c.runChild g).2 := by
  let exec (g : Host) := Host.exec c.program.image c.argvPointers c.envPointers (Host.traceMe g).2
  let tries (reply : Reply Unit) : Syscall :=
    .exec c.program.image c.argvPointers c.envPointers reply
  have traces {g : Host} (same : g.kernel.traceMes = h.kernel.traceMes) :
      (Host.traceMe g).1 = (Host.traceMe h).1 := congrArg (·.headD (.ok ())) same
  have execs {g : Host} (same : g.kernel.execs = h.kernel.execs) : (exec g).1 = (exec h).1 :=
    congrArg (·.headD (.error .enoent)) same
  have asked {g : Host} {reply : Reply Unit} (traced : (Host.traceMe g).1 = reply) :
      g.Came [.traceMe reply] (Host.traceMe g).2 := .asked (congrArg Syscall.traceMe traced)
  have tried {g : Host} {reply : Reply Unit} (ran : (exec g).1 = reply) :
      (Host.traceMe g).2.Came [tries reply] (exec g).2 := .asked (congrArg tries ran)
  cases traced : (Host.traceMe h).1 with
  | error e =>
    refine ⟨some traceMeFailureCode, [.traceMe (.error e)] ++ [.exit traceMeFailureCode], rfl, ?_⟩
    intro g sameTraces _
    have traced := (traces sameTraces).trans traced
    rw [runChild, HostM.bind_apply, traced]
    exact ⟨rfl, (asked traced).trans (.asked rfl)⟩
  | ok _ =>
    cases ran : (exec h).1 with
    | ok _ =>
      refine ⟨none, [.traceMe (.ok ())] ++ [tries (.ok ())], rfl, fun g sameTraces sameExecs => ?_⟩
      have traced := (traces sameTraces).trans traced
      have ran := (execs sameExecs).trans ran
      rw [runChild, HostM.bind_apply, traced]
      simp only
      rw [HostM.bind_apply, ran]
      exact ⟨rfl, (asked traced).trans (tried ran)⟩
    | error e =>
      refine ⟨some execFailureCode, [.traceMe (.ok ())] ++ ([tries (.error e)] ++
        [.exit execFailureCode]), rfl, fun g sameTraces sameExecs => ?_⟩
      have traced := (traces sameTraces).trans traced
      have ran := (execs sameExecs).trans ran
      rw [runChild, HostM.bind_apply, traced]
      simp only
      rw [HostM.bind_apply, ran]
      exact ⟨rfl, (asked traced).trans ((tried ran).trans (.asked rfl))⟩

namespace Session

variable {s : Session} {k l : Kernel}

/-- The operation may wait for this process; a fork never makes a process `-1`. -/
def WaitsFor (s : Session) (op : Op) (pid : Pid) : Prop :=
  match op.tracee? with
  | some j => ∃ h, s.tracees[j]? = some h ∧ h.tracee.pid = pid
  | none => pid ≠ -1

/-- What came of an operation with the second kernel is what came of it with the first, but for the
error number that it leaves.  The calls are the same but for the interrupted waits, of which there is
one for each interruption that was taken. -/
structure Undisturbed (k l : Kernel) (out out' : Answer × Session) : Prop where
  outcome : out'.1.outcome = out.1.outcome
  session : out'.2 = { out.2 with errno := out'.2.errno }
  calls : undisturbed out'.1.journal.calls = undisturbed out.1.journal.calls
  waits : waitsMade out'.1.journal.calls + k.interruptions out.1.journal.calls =
    waitsMade out.1.journal.calls + l.interruptions out'.1.journal.calls

theorem undisturbed_of_unwaited {out out' : Answer × Session}
    (outcome : out'.1.outcome = out.1.outcome)
    (session : out'.2 = { out.2 with errno := out'.2.errno })
    (calls : out'.1.journal.calls = out.1.journal.calls)
    (none : waitsMade out.1.journal.calls = 0) : Undisturbed k l out out' := by
  refine ⟨outcome, session, by rw [calls], ?_⟩
  rw [calls, Kernel.interruptions, Kernel.interruptions, none]
  rfl

theorem undisturbed_of_matched {pid : Pid} {calls more : List Syscall} {h g : Host}
    (matched : (s.host k).Matched pid calls (s.host l) more) (came : (s.host k).Came calls h)
    (came' : (s.host l).Came more g) {out out' : Answer × Session}
    (outcome : out'.1.outcome = out.1.outcome)
    (session : out'.2 = { out.2 with errno := out'.2.errno }) (journal : out.1.journal = h.journal)
    (journal' : out'.1.journal = g.journal) : Undisturbed k l out out' := by
  have made : out.1.journal.calls = calls := by rw [journal, came.calls_of_new rfl]
  have made' : out'.1.journal.calls = more := by rw [journal', came'.calls_of_new rfl]
  refine ⟨outcome, session, ?_, ?_⟩
  · rw [made, made', matched.same]
  · rw [made, made']
    exact matched.waits

theorem disturbed_host (interrupted : Interrupted k.waits l.waits)
    (same : l = { k with waits := l.waits }) (s : Session) {pid : Pid}
    (sets : SetsErrno pid k.waits) : Host.Disturbed pid (s.host k) (s.host l) := by
  refine .intro interrupted sets s.errno [] ?_
  rw [host, same]
  rfl

theorem undisturbed_of_drive {act : Drive α} (deaf : ∀ c, act.Deaf c) (i j : Nat)
    (value : α → Value)
    (disturbed : ∀ h, s.tracees[j]? = some h → Host.Disturbed h.tracee.pid (s.host k) (s.host l)) :
    Undisturbed k l (s.drive k i j act value) (s.drive l i j act value) := by
  cases at_ : s.tracees[j]? with
  | none =>
    rw [drive, drive, at_]
    exact undisturbed_of_unwaited rfl rfl rfl rfl
  | some h =>
    cases found : s.tracers[i]? with
    | none =>
      rw [drive, drive, at_, found]
      exact undisturbed_of_unwaited rfl rfl rfl rfl
    | some t =>
      obtain ⟨calls, more, r, d, h', g', matched, run, came, run', came'⟩ :=
        deaf ⟨t, h.tracee⟩ (disturbed h at_)
      rw [Cast.on] at run run'
      rw [drive_eq found at_, drive_eq found at_]
      simp only [run, run']
      refine undisturbed_of_matched matched came came' rfl ?_ rfl rfl
      simp only [Cast.on, keepHost, matched.nextPid came came']
      rfl

/-! ### traced runs -/

section runs

variable {pid : Pid} (t : Tracer) (i : Nat) (command : Command) (layout : Layout)

/-- without a process -/
theorem undisturbed_of_unforked (apart : Host.Disturbed pid (s.host k) (s.host l)) {e : Errno}
    (forked : (Host.fork (s.host k)).1 = .error e) :
    Undisturbed k l
      (s.recruit k t (Tracer.runTraced command layout) (·.setTracer i) (keepRun i))
      (s.recruit l t (Tracer.runTraced command layout) (·.setTracer i) (keepRun i)) := by
  have matched := Host.Matched.forked apart rfl forked
  have forked' := Syscall.fork.inj matched.answers.1
  have came : (s.host k).Came [.fork (.error e)] (Host.fork (s.host k)).2 :=
    .asked (congrArg Syscall.fork forked)
  have came' : (s.host l).Came [.fork (.error e)] (Host.fork (s.host l)).2 :=
    .asked (congrArg Syscall.fork forked')
  rw [recruit_error (t.runTraced_unforked command layout forked),
    recruit_error (t.runTraced_unforked command layout forked')]
  refine undisturbed_of_matched matched came came' rfl ?_ rfl rfl
  simp only [keepHost, matched.nextPid came came']
  rfl

/-- in the child -/
theorem undisturbed_of_child (apart : Host.Disturbed pid (s.host k) (s.host l))
    (child : (Host.fork (s.host k)).1 = .ok 0) :
    Undisturbed k l
      (s.recruit k t (Tracer.runTraced command layout) (·.setTracer i) (keepRun i))
      (s.recruit l t (Tracer.runTraced command layout) (·.setTracer i) (keepRun i)) := by
  obtain ⟨told, after⟩ := apart.forked rfl
  obtain ⟨_, _, _, _, same⟩ := after
  have child' := told.trans child
  obtain ⟨exit, made, none, ends⟩ := command.exists_runChild (Host.fork (s.host k)).2
  obtain ⟨exits, ran⟩ := ends _ rfl rfl
  obtain ⟨exits', ran'⟩ := ends (Host.fork (s.host l)).2 (by rw [same]) (by rw [same])
  have came : (s.host k).Came [.fork (.ok 0)] (Host.fork (s.host k)).2 :=
    .asked (congrArg Syscall.fork child)
  have came' : (s.host l).Came [.fork (.ok 0)] (Host.fork (s.host l)).2 :=
    .asked (congrArg Syscall.fork child')
  have calls := (came.trans ran).calls_of_new rfl
  have calls' := (came'.trans ran').calls_of_new rfl
  rw [recruit_child (t.runTraced_child command layout child),
    recruit_child (t.runTraced_child command layout child'), exits, exits']
  refine undisturbed_of_unwaited rfl rfl (calls'.trans calls.symm) ?_
  rw [calls, waitsMade_append, none]
  rfl

/-- in the parent -/
theorem undisturbed_of_parent (apart : Host.Disturbed pid (s.host k) (s.host l))
    (forked : (Host.fork (s.host k)).1 = .ok pid) (parent : pid ≠ 0) :
    Undisturbed k l
      (s.recruit k t (Tracer.runTraced command layout) (·.setTracer i) (keepRun i))
      (s.recruit l t (Tracer.runTraced command layout) (·.setTracer i) (keepRun i)) := by
  have matched := Host.Matched.forked apart rfl forked
  obtain ⟨calls, r, d, h, runs, answered, run, came⟩ := t.exists_runs command layout forked parent
  obtain ⟨more, runs', rest⟩ := Runs.deaf layout pid rfl runs answered.2 matched.after
  have matched := matched.append rest
  obtain ⟨g, run', came'⟩ := Tracer.runTraced_of_runs command parent runs' matched.answers
  rw [recruit_parent run, recruit_parent run']
  refine undisturbed_of_matched matched came came' rfl ?_ rfl rfl
  simp only [keepRun, keepHost, matched.nextPid came came']
  rfl

/-- Whatever process the run makes, its waits come to the same. -/
theorem undisturbed_of_runTraced
    (apart : ∀ {pid : Pid}, pid ≠ -1 → Host.Disturbed pid (s.host k) (s.host l)) :
    Undisturbed k l (s.step k (.runTraced i command layout))
      (s.step l (.runTraced i command layout)) := by
  cases found : s.tracers[i]? with
  | none =>
    rw [step, step, withTracer, withTracer, found]
    exact undisturbed_of_unwaited rfl rfl rfl rfl
  | some t =>
    rw [step, step, withTracer, withTracer, found]
    cases forked : (Host.fork (s.host k)).1 with
    | error e =>
      exact undisturbed_of_unforked t i command layout (apart (by decide : (0 : Pid) ≠ -1)) forked
    | ok pid =>
      have apart := apart (Host.fork_ne_minusOne forked)
      by_cases child : pid = 0
      · exact undisturbed_of_child t i command layout apart (forked.trans (congrArg _ child))
      · exact undisturbed_of_parent t i command layout apart forked child

end runs

/-- Interruptions, wherever they are and however many, change nothing but the number of waits and the
error number that is left. -/
theorem undisturbed_of_mayWait {op : Op} (waits : op.mayWait = true) (s : Session) {k l : Kernel}
    (interrupted : Interrupted k.waits l.waits) (same : l = { k with waits := l.waits })
    (sets : ∀ pid, s.WaitsFor op pid → SetsErrno pid k.waits) :
    Undisturbed k l (s.step k op) (s.step l op) := by
  have apart {pid : Pid} (waited : s.WaitsFor op pid) : Host.Disturbed pid (s.host k) (s.host l) :=
    disturbed_host interrupted same s (sets pid waited)
  have on {j : Nat} (one : op.tracee? = some j) (h : Held) (at_ : s.tracees[j]? = some h) :
      Host.Disturbed h.tracee.pid (s.host k) (s.host l) := by
    refine apart ?_
    rw [WaitsFor, one]
    exact ⟨h, at_, rfl⟩
  cases op with
  | wait i j => exact undisturbed_of_drive Drive.wait_deaf i j .stop (on rfl)
  | waitForExec i j => exact undisturbed_of_drive Drive.waitForExec_deaf i j _ (on rfl)
  | kill i j => exact undisturbed_of_drive Drive.kill_deaf i j .stop (on rfl)
  | runTraced i command layout => exact undisturbed_of_runTraced i command layout apart
  | _ => cases waits

/-- Interruptions before the exec, between it and the end, and behind the end. -/
theorem undisturbed_of_killedAtExec :
    let s := (run [({}, .spawn 0 ls)] (new 1)).2
    let k : Kernel := { waits := [.ok ⟨none, 0x57f⟩, .ok ⟨none, 9⟩] }
    let l : Kernel := { waits := [.error .eintr, .ok ⟨none, 0x57f⟩, .error .eintr, .error .eintr,
      .ok ⟨none, 9⟩, .error .eintr] }
    Undisturbed k l (s.step k (.kill 0 0)) (s.step l (.kill 0 0)) ∧
      (s.step l (.kill 0 0)).1.outcome = .ok (.stop (.signaled .kill false)) ∧
      waitsMade (s.step k (.kill 0 0)).1.journal.calls = 2 ∧
      waitsMade (s.step l (.kill 0 0)).1.journal.calls = 5 := by
  intro s k l
  have interrupted : Interrupted k.waits l.waits :=
    .right (.both _ (.right (.right (.both _ (.right .nil)))))
  have there : s.tracees[0]? = some ⟨0, .exec, .born 1000 .exec⟩ := by decide +kernel
  have own : SetsErrno 1000 k.waits := by simp [SetsErrno, k]
  have sets (pid : Pid) (waited : s.WaitsFor (.kill 0 0) pid) : SetsErrno pid k.waits := by
    obtain ⟨h, at_, rfl⟩ := waited
    obtain rfl := Option.some.inj (there.symm.trans at_)
    exact own
  exact ⟨undisturbed_of_mayWait rfl s interrupted rfl sets, by decide +kernel, by decide +kernel,
    by decide +kernel⟩

end Session

end ProcTrace
