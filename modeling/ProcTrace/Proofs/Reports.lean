import ProcTrace.Proofs.Dialogue.Run
import ProcTrace.Proofs.Dialogue.Turns

/-!
# Reports on traced programs

Which programs are reported on, and which are said to have ended before their exec.  Both are told
by the replies of the kernel alone: whatever number of stops there is, and however often a wait is
interrupted.

* `FullCourse`   stops, the trap of the exec, more stops, the end;
* `CutCourse`    stops, the end;
* `FullCourse.calls`, `CutCourse.calls`   the calls that are answered on such a course: each stop is
                 resumed once, and the syscall number is read at the trap;
* `FullCourse.runs`, `CutCourse.runs`   each such course is a dialogue with its result;
* `FullCourse.exists_of_runs`, `CutCourse.exists_of_runs`   and no other dialogue has that result;
* `TracedRun.Faithful`   a traced run that gives just the reports that the kernel has told.
-/

namespace ProcTrace

open Course

/-! ## stops that are passed -/

theorem WaitStatus.isStop_iff {s : WaitStatus} :
    s.isStop = true ↔ ∃ stop, s.stop? = some stop ∧ stop.isTerminal = false := by
  constructor
  · intro stops
    cases told : s.stop? with
    | none =>
      rw [isStop_of_odd told] at stops
      cases stops
    | some stop =>
      rw [isStop_of_stop? told] at stops
      exact ⟨stop, rfl, by simpa using stops⟩
  · rintro ⟨stop, told, still⟩
    rw [isStop_of_stop? told, still]
    rfl

namespace Told

theorem passed_end {s : Told} : s.Passed Stop.isTerminal none ↔ s.status.isStop = true := by
  rw [WaitStatus.isStop_iff]
  exact ⟨fun passed => passed.onward, fun onward => ⟨onward, nofun⟩⟩

theorem passed_exec {s : Told} : s.Passed Drive.execOver (some .exec) ↔
    s.status.isStop = true ∧ s.status ≠ .stopped .trap := by
  constructor
  · rintro ⟨⟨stop, told, onward⟩, later⟩
    exact ⟨WaitStatus.isStop_iff.mpr ⟨stop, told, Drive.still_of_execOver stop onward⟩,
      later .exec rfl⟩
  · rintro ⟨stops, ne⟩
    obtain ⟨stop, told, still⟩ := WaitStatus.isStop_iff.mp stops
    refine ⟨⟨stop, told, ?_⟩, ?_⟩
    · have other : stop ≠ .exec := by
        rintro rfl
        exact s.status.stop?_ne_first .exec told
      simp [Drive.execOver, other, still]
    · intro first owed
      cases owed
      exact ne

end Told

/-! ## courses -/

/-- what is told of a program that comes to its exec, and from there to this end -/
structure FullCourse (exit : Stop) where
  before : List Told
  exec : Told
  after : List Told
  last : Told
  early : ∀ s ∈ before, s.status.isStop = true ∧ s.status ≠ .stopped .trap
  trapped : exec.status = .stopped .trap
  stops : ∀ s ∈ after, s.status.isStop = true
  ended : last.status.stop? = some exit
  final : exit.isTerminal = true

/-- what is told of a program that comes to this end before its exec -/
structure CutCourse (exit : Stop) where
  before : List Told
  last : Told
  early : ∀ s ∈ before, s.status.isStop = true ∧ s.status ≠ .stopped .trap
  ended : last.status.stop? = some exit
  final : exit.isTerminal = true

/-- the calls that follow the fork, where the register file is read with this reply -/
def FullCourse.calls {exit : Stop} (w : FullCourse exit) (t : Tracer) (pid : Pid) (r : Slot)
    (reply : Reply Word) : List Syscall :=
  turns [.cont pid none (.ok ())] pid w.before ++ (w.exec.calls pid ++ t.optionsCalls pid) ++
    ([.peekUser pid r.offset reply] ++
      ([.cont pid none (.ok ())] ++ (turns [.cont pid none (.ok ())] pid w.after ++ w.last.calls pid)))

def CutCourse.calls {exit : Stop} (w : CutCourse exit) (pid : Pid) : List Syscall :=
  turns [.cont pid none (.ok ())] pid w.before ++ w.last.calls pid

/-! ## what is called how often -/

/-- a look at the memory or the registers -/
def Syscall.isLook : Syscall → Bool
  | peekUser _ _ _ | peekData _ _ _ | getRegisterSet _ _ => true
  | _ => false

def Syscall.isCont : Syscall → Bool
  | cont _ _ _ => true
  | _ => false

section counts

variable {p : Syscall → Bool} (unheard : ∀ pid reply, p (.waitpid pid reply) = false)
include unheard

theorem filter_heard (pid : Pid) (n : Nat) (reply : Reply Waited) :
    (heard pid n reply).filter p = [] := by
  rw [heard, List.filter_append, List.filter_replicate_of_neg (by simp [unheard])]
  exact List.filter_cons_of_neg (by simp [unheard])

theorem filter_turns {goOn : List Syscall} (pid : Pid) (told : List Told) :
    (turns goOn pid told).filter p = (List.replicate told.length (goOn.filter p)).flatten := by
  induction told with
  | nil => rfl
  | cons s told ih =>
    rw [turns_cons, List.filter_append, List.filter_append, ih, Told.calls, filter_heard unheard]
    rfl

end counts

theorem Tracer.filter_optionsCalls {p : Syscall → Bool} (t : Tracer)
    (unasked : ∀ pid options reply, p (.setOptions pid options reply) = false) (pid : Pid) :
    (t.optionsCalls pid).filter p = [] := by
  unfold optionsCalls
  split
  · rfl
  · exact List.filter_cons_of_neg (by simp [unasked])

theorem looks_calls (pid : Pid) (s : Told) : (s.calls pid).filter Syscall.isLook = [] :=
  filter_heard (fun _ _ => rfl) pid _ _

/-- Nothing is looked at while stops are passed. -/
theorem looks_turns (pid : Pid) (told : List Told) :
    (turns [.cont pid none (.ok ())] pid told).filter Syscall.isLook = [] := by
  rw [filter_turns fun _ _ => rfl]
  exact List.flatten_replicate_nil

theorem conts_calls (pid : Pid) (s : Told) : (s.calls pid).filter Syscall.isCont = [] :=
  filter_heard (fun _ _ => rfl) pid _ _

theorem conts_turns (pid : Pid) (told : List Told) :
    (turns [.cont pid none (.ok ())] pid told).filter Syscall.isCont =
      List.replicate told.length (.cont pid none (.ok ())) := by
  rw [filter_turns fun _ _ => rfl]
  exact List.flatten_replicate_singleton

namespace FullCourse

variable {exit : Stop} (w : FullCourse exit) (t : Tracer) (pid : Pid) (r : Slot) (reply : Reply Word)

/-- Each stop, that of the exec among them, is resumed once. -/
theorem conts : (w.calls t pid r reply).filter Syscall.isCont =
    List.replicate (w.before.length + 1 + w.after.length) (.cont pid none (.ok ())) := by
  have set := t.filter_optionsCalls (p := Syscall.isCont) (fun _ _ _ => rfl) pid
  simp only [calls, List.filter_append, conts_turns, conts_calls, set, List.append_nil]
  rw [List.replicate_add, List.replicate_add, List.append_assoc]
  rfl

/-- The program is looked at once, at its exec. -/
theorem looks : (w.calls t pid r reply).filter Syscall.isLook = [.peekUser pid r.offset reply] := by
  have set := t.filter_optionsCalls (p := Syscall.isLook) (fun _ _ _ => rfl) pid
  simp only [calls, List.filter_append, looks_turns, looks_calls, set, List.append_nil]
  rfl

end FullCourse

/-- A program that never comes to its exec is not looked at. -/
theorem CutCourse.looks {exit : Stop} (w : CutCourse exit) (pid : Pid) :
    (w.calls pid).filter Syscall.isLook = [] := by
  rw [calls, List.filter_append, looks_turns, looks_calls]
  rfl

/-! ## to the exec, and to the end -/

/-- a tracee at its exec, after these stops -/
def Tracee.atExec (x : Tracee) (before : List Told) : Tracee :=
  { x.past before with state := .stopped, awaiting := none, lastStop := some .exec }

/-- a tracee that came to this end before its exec, after these stops -/
def Tracee.cutShort (x : Tracee) (before : List Told) (exit : Stop) : Tracee :=
  { x.past before with state := .failed, lastStop := some exit }

section parts

variable {t : Tracer} {x : Tracee} {calls : List Syscall} {d : Cast}

theorem Execs.of_told (owed : x.awaiting = some .exec) {before : List Told} {exec : Told}
    (early : ∀ s ∈ before, s.status.isStop = true ∧ s.status ≠ .stopped .trap)
    (trapped : exec.status = .stopped .trap) :
    Execs ⟨t, x⟩ (turns [.cont x.pid none (.ok ())] x.pid before ++
      (exec.calls x.pid ++ t.optionsCalls x.pid)) (.ok ()) ⟨t, x.atExec before⟩ := by
  have each (s : Told) (mem : s ∈ before) : s.Passed Drive.execOver x.awaiting :=
    owed ▸ Told.passed_exec.mpr (early s mem)
  have opens : Waits t (x.past before) (exec.calls (x.past before).pid ++
      t.optionsCalls (x.past before).pid) (.ok FirstStop.exec.stop) ⟨t, x.atExec before⟩ :=
    .opened exec.interrupted exec.waited .exec (by rw [x.awaiting_past, owed]) trapped
  rw [x.pid_past] at opens
  exact .done (.past (Resumes.by_cont x.pid) Drive.still_of_execOver each (.arrived opens rfl)) rfl

theorem Execs.ended_of_told (owed : x.awaiting = some .exec) {before : List Told} {last : Told}
    {exit : Stop}
    (early : ∀ s ∈ before, s.status.isStop = true ∧ s.status ≠ .stopped .trap)
    (ended : last.status.stop? = some exit) (final : exit.isTerminal = true) :
    Execs ⟨t, x⟩ (turns [.cont x.pid none (.ok ())] x.pid before ++ last.calls x.pid)
      (.error (.exec x.pid exit)) ⟨t.release x.pid, x.cutShort before exit⟩ := by
  have each (s : Told) (mem : s ∈ before) : s.Passed Drive.execOver x.awaiting :=
    owed ▸ Told.passed_exec.mpr (early s mem)
  have failed : (x.past before).endState = .failed := by
    rw [Tracee.endState, x.awaiting_past, if_pos owed]
  have ends : Waits t (x.past before) (last.calls x.pid) (.ok exit)
      ⟨t.release x.pid, x.cutShort before exit⟩ := by
    rw [Tracee.cutShort, ← failed, ← x.pid_past before]
    exact .ended last.interrupted last.waited exit ended final
  have arrived : Drive.execOver exit = true := by rw [Drive.execOver, final, Bool.or_true]
  exact .ended (.past (Resumes.by_cont x.pid) Drive.still_of_execOver each (.arrived ends arrived))
    final

theorem Execs.exists_told (owed : x.awaiting = some .exec)
    (execs : Execs ⟨t, x⟩ calls (.ok ()) d) : ∃ (before : List Told) (exec : Told),
      (∀ s ∈ before, s.status.isStop = true ∧ s.status ≠ .stopped .trap) ∧
      exec.status = .stopped .trap ∧ d = ⟨t, x.atExec before⟩ ∧
      calls = turns [.cont x.pid none (.ok ())] x.pid before ++
        (exec.calls x.pid ++ t.optionsCalls x.pid) := by
  have opens (first : FirstStop) (promised : x.awaiting = some first) :
      Drive.execOver first.stop = true := by
    rw [owed] at promised
    cases promised
    rfl
  cases execs with
  | done rounds still =>
    obtain ⟨before, last, split, each, waits, arrived⟩ :=
      rounds.exists_turns (Resumes.by_cont x.pid) Drive.still_of_execOver opens
    rename_i stop
    have atExec : stop = .exec := by simpa [Drive.execOver, still] using arrived
    rw [show stop = FirstStop.exec.stop from atExec] at waits
    obtain ⟨_, exec, trapped, asked, rfl⟩ := waits.exists_first
    refine ⟨before, exec, fun s mem => Told.passed_exec.mp (owed ▸ each s mem), trapped, rfl, ?_⟩
    rw [split, asked, x.pid_past]

/-- The tracee has come to this end, and its tracer has given it up. -/
structure Cast.Ended (c : Cast) (exit : Stop) (d : Cast) : Prop where
  tracer : d.tracer = c.tracer.release c.tracee.pid
  pid : d.tracee.pid = c.tracee.pid
  terminal : d.tracee.state.isTerminal = true
  lastStop : d.tracee.lastStop = some exit

theorem Rounds.end_of_told {pass : Talks Unit} {goOn : List Syscall} (by_ : pass.By x.pid goOn)
    {after : List Told} {last : Told} {exit : Stop}
    (each : ∀ s ∈ after, s.Passed Stop.isTerminal x.awaiting)
    (ended : last.status.stop? = some exit) (final : exit.isTerminal = true) :
    ∃ d, Rounds Stop.isTerminal pass ⟨t, x⟩ (turns goOn x.pid after ++ last.calls x.pid)
      (.ok exit) d ∧ Cast.Ended ⟨t, x⟩ exit d := by
  have ends : Waits t (x.past after) (last.calls (x.past after).pid) (.ok exit) _ :=
    .ended last.interrupted last.waited exit ended final
  rw [x.pid_past] at ends
  exact ⟨_, .past by_ (fun _ onward => onward) each (.arrived ends final),
    rfl, rfl, Tracee.isTerminal_endState _, rfl⟩

theorem Rounds.end_exists_told {pass : Talks Unit} {goOn : List Syscall} (by_ : pass.By x.pid goOn)
    (opened : x.awaiting = none) {exit : Stop}
    (rounds : Rounds Stop.isTerminal pass ⟨t, x⟩ calls (.ok exit) d) :
    ∃ (after : List Told) (last : Told), (∀ s ∈ after, s.status.isStop = true) ∧
      last.status.stop? = some exit ∧ exit.isTerminal = true ∧ d.tracer = t.release x.pid ∧
      calls = turns goOn x.pid after ++ last.calls x.pid := by
  obtain ⟨after, last, split, each, waits, final⟩ := rounds.exists_turns by_ (fun _ onward => onward)
    (by simp [opened])
  obtain ⟨last, ended, asked, rfl⟩ := waits.exists_end final
  refine ⟨after, last, fun s mem => Told.passed_end.mp (opened ▸ each s mem), ended, final, ?_, ?_⟩
  · rw [x.pid_past]
  · rw [split, asked, x.pid_past]

end parts

/-! ## the two kinds of courses -/

section courses

variable {t : Tracer} {layout : Layout} {pid : Pid} {calls : List Syscall} {d : Cast}

theorem FullCourse.runs (t : Tracer) (layout : Layout) (pid : Pid) {exit : Stop}
    (w : FullCourse exit) {reply : Reply Word} {word : Word}
    (named : reply.named = .ok word) :
    ∃ d, Runs layout pid ⟨t, .born pid .exec⟩ (w.calls t pid (layout.slot .syscallNumber) reply)
      (.ok ⟨pid, word, exit⟩) d ∧ d.tracer = t.release pid := by
  let x := (Tracee.born pid .exec).atExec w.before
  have own : x.pid = pid := (Tracee.born pid .exec).pid_past w.before
  have execs : Execs ⟨t, .born pid .exec⟩ _ (.ok ()) ⟨t, x⟩ := .of_told rfl w.early w.trapped
  have reads : OrKills (Reads (layout.slot .syscallNumber)) ⟨t, x⟩
      [.peekUser x.pid (layout.slot .syscallNumber).offset reply] (.ok word) ⟨t, x⟩ :=
    .fine (.read reply word named)
  have resumes : Resumes ⟨t, x⟩ [.cont x.pid none (.ok ())] (.ok ()) ⟨t, { x with state := .running }⟩ :=
    .resumed
  obtain ⟨d, rounds, tracer, _⟩ := Rounds.end_of_told (t := t) (x := { x with state := .running })
    (Resumes.by_cont x.pid) (fun s mem => Told.passed_end.mpr (w.stops s mem)) w.ended w.final
  have runs : Runs layout pid ⟨t, .born pid .exec⟩ _ (.ok ⟨pid, word, exit⟩) d :=
    .passed execs (.passed reads (.passed resumes (.done rounds)))
  rw [own] at runs tracer
  exact ⟨d, runs, tracer⟩

theorem FullCourse.exists_of_runs {report : RunReport}
    (runs : Runs layout pid ⟨t, .born pid .exec⟩ calls (.ok report) d) :
    report.pid = pid ∧ ∃ (w : FullCourse report.exit) (reply : Reply Word),
      reply.named = .ok report.syscallNumber ∧
      calls = w.calls t pid (layout.slot .syscallNumber) reply := by
  cases runs with
  | passed execs rest =>
    obtain ⟨before, exec, early, trapped, rfl, rfl⟩ := execs.exists_told rfl
    have own : ((Tracee.born pid .exec).atExec before).pid = pid :=
      (Tracee.born pid .exec).pid_past before
    cases rest with
    | passed reads rest =>
      cases reads with
      | fine reads =>
        cases reads with
        | read reply word named =>
          cases rest with
          | passed resumes rest =>
            cases resumes with
            | resumed =>
              cases rest with
              | done rounds =>
                obtain ⟨after, last, stops, ended, final, _, rfl⟩ :=
                  rounds.end_exists_told (Resumes.by_cont _) rfl
                refine ⟨rfl, ⟨before, exec, after, last, early, trapped, stops, ended, final⟩,
                  reply, named, ?_⟩
                rw [own]
                rfl

theorem CutCourse.runs (t : Tracer) (layout : Layout) (pid : Pid) {exit : Stop}
    (w : CutCourse exit) :
    ∃ d, Runs layout pid ⟨t, .born pid .exec⟩ (w.calls pid) (.error (.exec pid exit)) d ∧
      d.tracer = t.release pid :=
  ⟨_, .failed (.ended_of_told (x := .born pid .exec) rfl w.early w.ended w.final), rfl⟩

theorem CutCourse.exists_of_runs {p : Pid} {exit : Stop}
    (runs : Runs layout pid ⟨t, .born pid .exec⟩ calls (.error (.exec p exit)) d) :
    p = pid ∧ ∃ w : CutCourse exit, calls = w.calls pid := by
  cases runs with
  | failed execs =>
    cases execs with
    | failed rounds => cases rounds.isMishap_of_resumes Drive.still_of_execOver
    | ended rounds final =>
      have opens (first : FirstStop) (promised : some FirstStop.exec = some first) :
          Drive.execOver first.stop = true := by
        cases promised
        rfl
      obtain ⟨before, last, split, each, waits, arrived⟩ :=
        rounds.exists_turns (Resumes.by_cont pid) Drive.still_of_execOver opens
      obtain ⟨last, ended, asked, rfl⟩ := waits.exists_end final
      refine ⟨rfl, ⟨before, last, ?_, ended, final⟩, ?_⟩
      · exact fun s mem => Told.passed_exec.mp (each s mem)
      · rw [split, asked, Tracee.pid_past]
        rfl
  | passed _ rest =>
    -- after the exec nothing comes to this error
    cases rest with
    | failed reads =>
      cases reads with
      | struck reads _ => cases reads
    | passed _ rest =>
      cases rest with
      | failed resumes => cases resumes
      | passed _ rest =>
        cases rest with
        | failed rounds => cases rounds.isMishap_of_resumes fun _ onward => onward

end courses

/-! ## traced runs -/

/-- A traced run of a process that gives just the reports that the kernel has told, by the calls of
that course and no others, and leaves the tracer as it was.  What was left of the tracer and the
host is the stage. -/
structure TracedRun.Faithful (run : TracedRun) (t : Tracer) (pid : Pid) (layout : Layout)
    (h : Host) (after : Stage) : Prop where
  report_iff (report : RunReport) : run.report = .ok report ↔ report.pid = pid ∧
    ∃ (w : FullCourse report.exit) (reply : Reply Word), reply.named = .ok report.syscallNumber ∧
      h.Answers (.fork (.ok pid) :: w.calls t pid (layout.slot .syscallNumber) reply)
  reported {exit : Stop} (w : FullCourse exit) (reply : Reply Word) (word : Word)
    (named : reply.named = .ok word)
    (answered : h.Answers (.fork (.ok pid) :: w.calls t pid (layout.slot .syscallNumber) reply)) :
    ∃ made, after.host.journal.calls = h.journal.calls ++ made ∧
      made = .fork (.ok pid) :: w.calls t pid (layout.slot .syscallNumber) reply ∧
      made.filter Syscall.isCont =
        List.replicate (w.before.length + 1 + w.after.length) (.cont pid none (.ok ())) ∧
      made.filter Syscall.isLook =
        [.peekUser pid (layout.slot .syscallNumber).offset reply] ∧
      after.tracer = t
  cut_iff (p : Pid) (exit : Stop) : run.report = .error (.exec p exit) ↔ p = pid ∧
    ∃ w : CutCourse exit, h.Answers (.fork (.ok pid) :: w.calls pid)
  cut {exit : Stop} (w : CutCourse exit) (answered : h.Answers (.fork (.ok pid) :: w.calls pid)) :
    ∃ made, after.host.journal.calls = h.journal.calls ++ made ∧
      made = .fork (.ok pid) :: w.calls pid ∧ made.filter Syscall.isLook = [] ∧ after.tracer = t

namespace Tracer

theorem faithful_of_fork {t : Tracer} {h : Host} {pid : Pid} (forked : (Host.fork h).1 = .ok pid)
    (parent : pid ≠ 0) (untraced : t.isTracing pid = false) (command : Command) (layout : Layout) :
    ∃ run after, (runTraced command layout).runOn ⟨t, h⟩ = (.ok (.parent run), after) ∧
      run.Faithful t pid layout h after := by
  obtain ⟨calls, r, d, g, runs, answered, run, _⟩ := t.exists_runs command layout forked parent
  -- whatever the host answers is the run that there is
  have only {more : List Syscall} {r' : Except Error RunReport} {b : Cast}
      (told : Runs layout pid ⟨t.adopt pid, .born pid .exec⟩ more r' b)
      (answered : h.Answers (.fork (.ok pid) :: more)) :
      r = r' ∧ d.tracer = b.tracer ∧
        g.journal.calls = h.journal.calls ++ .fork (.ok pid) :: more := by
    obtain ⟨k, run', came⟩ := runTraced_of_runs command parent told answered
    rw [run] at run'
    obtain ⟨⟨report, _⟩, tracer, host⟩ :
        (r = r' ∧ d.tracee = b.tracee) ∧ d.tracer = b.tracer ∧ g = k := by simpa using run'
    exact ⟨report, tracer, host ▸ came.written⟩
  have released : (t.adopt pid).release pid = t := release_adopt untraced
  refine ⟨_, _, run, ?_, ?_, ?_, ?_⟩
  · intro report
    constructor
    · rintro rfl
      obtain ⟨own, w, reply, named, rfl⟩ := FullCourse.exists_of_runs runs
      exact ⟨own, w, reply, named, answered⟩
    · rintro ⟨own, w, reply, named, told⟩
      obtain ⟨b, runs', _⟩ := w.runs (t.adopt pid) layout pid named
      obtain ⟨same, _⟩ := only runs' told
      rw [← own] at same
      exact same
  · intro exit w reply word named told
    obtain ⟨b, runs', tracer⟩ := w.runs (t.adopt pid) layout pid named
    obtain ⟨_, same, made⟩ := only runs' told
    exact ⟨_, made, rfl, w.conts _ _ _ _, w.looks _ _ _ _, same.trans (tracer.trans released)⟩
  · intro p exit
    constructor
    · rintro rfl
      obtain ⟨own, w, rfl⟩ := CutCourse.exists_of_runs runs
      exact ⟨own, w, answered⟩
    · rintro ⟨own, w, told⟩
      obtain ⟨b, runs', _⟩ := w.runs (t.adopt pid) layout pid
      rw [own]
      exact (only runs' told).1
  · intro exit w told
    obtain ⟨b, runs', tracer⟩ := w.runs (t.adopt pid) layout pid
    obtain ⟨_, same, made⟩ := only runs' told
    exact ⟨_, made, rfl, w.looks pid, same.trans (tracer.trans released)⟩

/-- A program that gets a signal before its exec, of which the tracer learns at the second wait,
traps once more after it, and ends with the code 127. -/
def signalled : Host where
  kernel := {
    waits := [.error .eintr, .ok ⟨none, 0xa7f⟩, .ok ⟨none, 0x57f⟩, .ok ⟨none, 0x57f⟩,
      .ok ⟨none, 0x7f00⟩]
    registers := fun _ _ => .ok execveNumber }
  errno := .unknown
  nextPid := 1000
  journal := []

def signalledCourse : FullCourse (.exited 127) where
  before := [⟨1, ⟨1000, .stopped .usr1⟩⟩]
  exec := ⟨0, ⟨1000, .stopped .trap⟩⟩
  after := [⟨0, ⟨1000, .stopped .trap⟩⟩]
  last := ⟨0, ⟨1000, .exited 127⟩⟩
  early := by decide
  trapped := rfl
  stops := by decide
  ended := rfl
  final := rfl

theorem reported_of_signalled : ∃ run after,
    (runTraced Session.ls .native).runOn ⟨new, signalled⟩ = (.ok (.parent run), after) ∧
      run.report = .ok ⟨1000, execveNumber, .exited 127⟩ ∧ after.tracer = new ∧
      (after.host.journal.calls.filter Syscall.isCont).length = 3 := by
  have forked : (Host.fork signalled).1 = .ok 1000 := by decide
  have untraced : new.isTracing 1000 = false := by decide
  obtain ⟨run, after, ran, faithful⟩ :=
    faithful_of_fork forked (by decide) untraced Session.ls .native
  have answered : signalled.Answers (.fork (.ok 1000) ::
      signalledCourse.calls new 1000 (Layout.native.slot .syscallNumber) (.ok execveNumber)) := by
    decide +kernel
  obtain ⟨made, written, _, conts, _, kept⟩ :=
    faithful.reported signalledCourse (.ok execveNumber) execveNumber rfl answered
  refine ⟨run, after, ran, ?_, kept, ?_⟩
  · exact (faithful.report_iff _).mpr ⟨rfl, signalledCourse, .ok execveNumber, rfl, answered⟩
  · rw [written]
    show (made.filter Syscall.isCont).length = 3
    rw [conts]
    rfl

end Tracer

end ProcTrace
