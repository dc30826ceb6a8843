import ProcTrace.Proofs.Reports

/-!
# Killing and reaping

A kill waits for the end of the tracee past whatever stops were queued before it.

* `Host.answers_optionsCalls`   options that are set between two waits change neither;
* `Tracee.OpenedBy`      the first stop that is owed is among those that are told;
* `Host.Refuses`         it is, and the options that are set at it are refused;
* `Drive.kill_reaps`     a kill that was sent comes to the end that is told after any number of
                         stops, unless the options are refused: then it stops short of it.
-/

namespace ProcTrace

open Course

/-! ## dialogues of waits -/

theorem isWait_of_mem_calls {pid : Pid} {s : Told} : ∀ c ∈ s.calls pid, c.isWait = true := by
  intro c mem
  rcases List.mem_append.mp mem with mem | mem
  · rw [List.eq_of_mem_replicate mem]
    rfl
  · rw [List.mem_singleton.mp mem]
    rfl

theorem isWait_of_mem_told {pid : Pid} {told : List Told} {last : Told} :
    ∀ c ∈ told.flatMap (·.calls pid) ++ last.calls pid, c.isWait = true := by
  intro c mem
  rcases List.mem_append.mp mem with mem | mem
  · obtain ⟨s, _, mem⟩ := List.mem_flatMap.mp mem
    exact isWait_of_mem_calls c mem
  · exact isWait_of_mem_calls c mem

namespace Host

/-- What is told depends on the replies of waiting that are left and on the error number. -/
theorem waitpid_congr (pid : Pid) {h g : Host} (left : g.kernel.waits = h.kernel.waits)
    (errno : g.errno = h.errno) : (waitpid pid g).1 = (waitpid pid h).1 ∧
      (waitpid pid g).2.kernel.waits = (waitpid pid h).2.kernel.waits ∧
      (waitpid pid g).2.errno = (waitpid pid h).2.errno := by
  have reply (k : Host) : (waitpid pid k).1 =
      (k.kernel.waits.headD (.error .echild)).bind
        (Waited.ofRaw pid ((k.kernel.waits.headD (.error .echild)).errno k.errno)) := rfl
  have rest (k : Host) : (waitpid pid k).2.kernel.waits = k.kernel.waits.tail := rfl
  have number (k : Host) : (waitpid pid k).2.errno =
      (k.kernel.waits.headD (.error .echild)).errno k.errno := rfl
  refine ⟨?_, ?_, ?_⟩
  · rw [reply g, reply h, left, errno]
  · rw [rest g, rest h, left]
  · rw [number g, number h, left, errno]

theorem answers_of_waits {calls : List Syscall} (waits : ∀ c ∈ calls, c.isWait = true)
    {h g : Host} (left : g.kernel.waits = h.kernel.waits) (errno : g.errno = h.errno)
    (answered : h.Answers calls) : g.Answers calls := by
  induction calls generalizing h g with
  | nil => trivial
  | cons c calls ih =>
    obtain ⟨first, rest⟩ := List.forall_mem_cons.mp waits
    cases c with
    | waitpid pid reply =>
      obtain ⟨same, left, errno⟩ := waitpid_congr pid left errno
      exact ⟨(congrArg (Syscall.waitpid pid) same).trans answered.1,
        ih rest left errno answered.2⟩
    | _ => cases first

/-- Waiting leaves it open how options will be taken. -/
theorem setOptions_after_waits {calls : List Syscall} (waits : ∀ c ∈ calls, c.isWait = true)
    (h : Host) : (after calls h).kernel.setOptions = h.kernel.setOptions := by
  induction calls generalizing h with
  | nil => rfl
  | cons c calls ih =>
    obtain ⟨first, rest⟩ := List.forall_mem_cons.mp waits
    cases c with
    | waitpid pid reply => exact ih rest _
    | _ => cases first

/-- The options are set between two waits, which are told the same as without. -/
theorem answers_optionsCalls {t : Tracer} {pid : Pid} {before after : List Syscall} {h : Host}
    (waited : ∀ c ∈ before, c.isWait = true) (waits : ∀ c ∈ after, c.isWait = true)
    (granted : t.options.isEmpty = true ∨ h.kernel.setOptions.headD (.ok ()) = .ok ())
    (answered : h.Answers (before ++ after)) :
    h.Answers (before ++ (t.optionsCalls pid ++ after)) := by
  obtain ⟨first, rest⟩ := answers_append.mp answered
  refine answers_append.mpr ⟨first, ?_⟩
  unfold Tracer.optionsCalls
  by_cases none : t.options.isEmpty = true
  · rw [if_pos none]
    exact rest
  · rw [if_neg none]
    have taken := setOptions_after_waits waited h
    generalize Host.after before h = g at rest taken ⊢
    have reply : (Host.setOptions pid t.options g).1 = .ok () := by
      show g.kernel.setOptions.headD (.ok ()) = .ok ()
      rw [taken]
      exact granted.resolve_left none
    let set := Host.ask (.setOptions pid t.options (.ok ())) g
    have left : set.2.kernel.waits = g.kernel.waits := rfl
    have errno : set.2.errno = (Host.setOptions pid t.options g).1.errno g.errno := rfl
    rw [reply] at errno
    exact ⟨congrArg _ reply, answers_of_waits waits left errno rest⟩

end Host

/-! ## reaping -/

/-- The first stop that is owed is among those that are told. -/
def Tracee.OpenedBy (x : Tracee) (told : List Told) : Prop :=
  ∃ first, x.awaiting = some first ∧ ∃ s ∈ told, s.status = .stopped first.signal

/-- On the way the options are to be set, and that fails. -/
structure Host.Refuses (h : Host) (t : Tracer) (x : Tracee) (told : List Told) (e : Errno) :
    Prop where
  opened : x.OpenedBy told
  asked : t.options.isEmpty = false
  refused : h.kernel.setOptions.headD (.ok ()) = .error e

namespace Tracee

variable {x : Tracee} {told : List Told}

theorem OpenedBy.split {first : FirstStop} (owed : x.awaiting = some first)
    (opened : x.OpenedBy told) : ∃ earlier s later, told = earlier ++ s :: later ∧
      s.status = .stopped first.signal ∧ ∀ r ∈ earlier, r.status ≠ .stopped first.signal := by
  obtain ⟨first', owed', s, mem, opens⟩ := opened
  rw [owed] at owed'
  cases owed'
  have some : (told.find? (·.status == .stopped first.signal)).isSome = true := by
    rw [List.find?_isSome]
    exact ⟨s, mem, by simp [opens]⟩
  obtain ⟨s, found⟩ := Option.isSome_iff_exists.mp some
  obtain ⟨opens, earlier, later, split, before⟩ := List.find?_eq_some_iff_append.mp found
  exact ⟨earlier, s, later, split, by simpa using opens, fun r mem => by simpa using before r mem⟩

end Tracee

theorem turns_nil (pid : Pid) (told : List Told) :
    turns [] pid told = told.flatMap (·.calls pid) := by
  simp only [turns, List.append_nil]

/-- Stops of which none is the first that is owed are passed over on the way to an end. -/
theorem Told.passed_of_stops {told : List Told} {awaiting : Option FirstStop}
    (stops : ∀ s ∈ told, s.status.isStop = true)
    (later : ∀ first, awaiting = some first → ∀ s ∈ told, s.status ≠ .stopped first.signal) :
    ∀ s ∈ told, s.Passed Stop.isTerminal awaiting :=
  fun s mem => ⟨WaitStatus.isStop_iff.mp (stops s mem), fun first owed => later first owed s mem⟩

theorem Cast.Ended.of_keeps {b c d : Cast} {exit : Stop} (kept : b.Keeps c)
    (ended : c.Ended exit d) : b.Ended exit d := by
  refine ⟨?_, ended.pid.trans kept.pid, ended.terminal, ended.lastStop⟩
  rw [ended.tracer, kept.tracer, kept.pid]

namespace Rounds

variable {t : Tracer} {x : Tracee} {earlier later : List Told} {s last : Told} {exit : Stop}
  {first : FirstStop}

/-- the first turns, before the stop that is owed -/
theorem letGo_past (stops : ∀ r ∈ earlier, r.status.isStop = true) (owed : x.awaiting = some first)
    (before : ∀ r ∈ earlier, r.status ≠ .stopped first.signal) {calls : List Syscall}
    {r : Except Error Stop} {d : Cast}
    (rest : Rounds Stop.isTerminal LetsGo ⟨t, x.past earlier⟩ calls r d) :
    Rounds Stop.isTerminal LetsGo ⟨t, x⟩ (earlier.flatMap (·.calls x.pid) ++ calls) r d := by
  rw [← turns_nil]
  refine .past (LetsGo.by_nothing x.pid) (fun _ onward => onward) ?_ rest
  refine Told.passed_of_stops stops fun first' owed' => ?_
  rw [owed] at owed'
  cases owed'
  exact before

theorem letGo_opened (stops : ∀ r ∈ earlier ++ s :: later, r.status.isStop = true)
    (owed : x.awaiting = some first) (opens : s.status = .stopped first.signal)
    (before : ∀ r ∈ earlier, r.status ≠ .stopped first.signal)
    (ended : last.status.stop? = some exit) (final : exit.isTerminal = true) :
    ∃ d, Rounds Stop.isTerminal LetsGo ⟨t, x⟩
      ((earlier.flatMap (·.calls x.pid) ++ s.calls x.pid) ++ (t.optionsCalls x.pid ++
        (later.flatMap (·.calls x.pid) ++ last.calls x.pid))) (.ok exit) d ∧
      Cast.Ended ⟨t, x⟩ exit d := by
  obtain ⟨stops, after⟩ := List.forall_mem_append.mp stops
  let y : Tracee :=
    { x.past earlier with state := .running, awaiting := none, lastStop := some first.stop }
  have own : y.pid = x.pid := x.pid_past earlier
  have waits : Waits t (x.past earlier)
      (s.calls (x.past earlier).pid ++ t.optionsCalls (x.past earlier).pid) (.ok first.stop) _ :=
    .opened s.interrupted s.waited first (by rw [x.awaiting_past, owed]) opens
  obtain ⟨d, rest, ends⟩ := Rounds.end_of_told (t := t) (x := y) (LetsGo.by_nothing y.pid)
    (Told.passed_of_stops (List.forall_mem_cons.mp after).2 (fun _ none => nomatch none)) ended final
  have turn : Rounds Stop.isTerminal LetsGo ⟨t, x.past earlier⟩ _ (.ok exit) d :=
    .turn waits first.isTerminal_stop .gone rest
  have kept : Cast.Keeps ⟨t, x⟩ ⟨t, y⟩ := ⟨rfl, own, fun _ => rfl⟩
  refine ⟨d, ?_, ends.of_keeps kept⟩
  have rounds := letGo_past stops owed before turn
  rw [turns_nil, own] at rounds
  simpa only [List.append_assoc, List.nil_append] using rounds

theorem letGo_missed (stops : ∀ r ∈ earlier, r.status.isStop = true)
    (owed : x.awaiting = some first) (opens : s.status = .stopped first.signal)
    (before : ∀ r ∈ earlier, r.status ≠ .stopped first.signal)
    (asked : t.options.isEmpty = false) (e : Errno) :
    Rounds Stop.isTerminal LetsGo ⟨t, x⟩ ((earlier.flatMap (·.calls x.pid) ++ s.calls x.pid) ++
      [.setOptions x.pid t.options (.error e)]) (.error (.ofRequest x.pid e))
      ⟨t, x.past earlier⟩ := by
  have waits : Waits t (x.past earlier) (s.calls (x.past earlier).pid ++
      [.setOptions (x.past earlier).pid t.options (.error e)])
      (.error (.ofRequest (x.past earlier).pid e)) ⟨t, x.past earlier⟩ :=
    .missed s.interrupted s.waited first (by rw [x.awaiting_past, owed]) opens asked e
  rw [x.pid_past] at waits
  rw [List.append_assoc]
  exact letGo_past stops owed before (.failed waits)

end Rounds

namespace Drive

variable {t : Tracer} {x : Tracee} {h : Host} {told : List Told} {last : Told} {exit : Stop}

/-- A kill that was sent, and what is told after it. -/
theorem kill_does (may : t.May x [.attached, .stopped, .running]) {calls : List Syscall}
    {r : Except Error Stop} {d : Cast}
    (rounds : Rounds Stop.isTerminal LetsGo ⟨t, x.struck⟩ calls r d)
    (answered : h.Answers (.kill x.pid .kill (.ok ()) :: calls)) :
    ∃ g, kill.runOn ⟨t, x, h⟩ = (r, d.on g) := by
  obtain ⟨g, run, _⟩ := (kill_holds (c := ⟨t, x⟩) may).does (.sent rounds) h answered
  exact ⟨g, run⟩

/-- What is told after the kill is told by a dialogue that comes to the end, with the options set
on the way if there are any. -/
theorem exists_reaping (stops : ∀ s ∈ told, s.status.isStop = true)
    (ended : last.status.stop? = some exit) (final : exit.isTerminal = true)
    (granted : x.OpenedBy told →
      t.options.isEmpty = true ∨ h.kernel.setOptions.headD (.ok ()) = .ok ())
    (answered : h.Answers (told.flatMap (·.calls x.pid) ++ last.calls x.pid)) :
    ∃ calls d, Rounds Stop.isTerminal LetsGo ⟨t, x⟩ calls (.ok exit) d ∧
      Cast.Ended ⟨t, x⟩ exit d ∧ h.Answers calls := by
  by_cases opened : x.OpenedBy told
  · have set := granted opened
    obtain ⟨first, owed, _⟩ := id opened
    obtain ⟨earlier, s, later, rfl, opens, before⟩ := opened.split owed
    obtain ⟨d, rounds, ends⟩ := Rounds.letGo_opened (t := t) stops owed opens before ended final
    refine ⟨_, d, rounds, ends,
      Host.answers_optionsCalls isWait_of_mem_told isWait_of_mem_told set ?_⟩
    simpa only [List.flatMap_append, List.flatMap_cons, List.append_assoc] using answered
  · have later (first : FirstStop) (owed : x.awaiting = some first) (s : Told) (mem : s ∈ told) :
        s.status ≠ .stopped first.signal := fun opens => opened ⟨first, owed, s, mem, opens⟩
    obtain ⟨d, rounds, ends⟩ := Rounds.end_of_told (t := t) (LetsGo.by_nothing x.pid)
      (Told.passed_of_stops stops later) ended final
    rw [turns_nil] at rounds
    exact ⟨_, d, rounds, ends, answered⟩

/-- Where the options are refused, what is told after the kill is told by a dialogue that stops
short. -/
theorem exists_missing (stops : ∀ s ∈ told, s.status.isStop = true) {e : Errno}
    (refuses : h.Refuses t x told e) {rest : List Syscall}
    (answered : h.Answers (told.flatMap (·.calls x.pid) ++ rest)) :
    ∃ calls earlier, h.Answers calls ∧ Rounds Stop.isTerminal LetsGo ⟨t, x⟩ calls
      (.error (.ofRequest x.pid e)) ⟨t, x.past earlier⟩ := by
  obtain ⟨first, owed, _⟩ := id refuses.opened
  obtain ⟨earlier, s, later, rfl, opens, before⟩ := refuses.opened.split owed
  have rounds := Rounds.letGo_missed (t := t) (List.forall_mem_append.mp stops).1 owed opens before
    refuses.asked e
  have told : h.Answers (earlier.flatMap (·.calls x.pid) ++ s.calls x.pid) := by
    have whole : h.Answers ((earlier.flatMap (·.calls x.pid) ++ s.calls x.pid) ++
        (later.flatMap (·.calls x.pid) ++ rest)) := by
      simpa only [List.flatMap_append, List.flatMap_cons, List.append_assoc] using answered
    exact (Host.answers_append.mp whole).1
  have taken : (Host.after (earlier.flatMap (·.calls x.pid) ++ s.calls x.pid) h).kernel.setOptions =
      h.kernel.setOptions := Host.setOptions_after_waits isWait_of_mem_told h
  generalize reached :
    Host.after (earlier.flatMap (·.calls x.pid) ++ s.calls x.pid) h = g at taken
  have reply : (Host.setOptions x.pid t.options g).1 = .error e := by
    show g.kernel.setOptions.headD (.ok ()) = .error e
    rw [taken]
    exact refuses.refused
  have missed : Host.Answers [.setOptions x.pid t.options (.error e)] g :=
    ⟨congrArg _ reply, trivial⟩
  rw [← reached] at missed
  exact ⟨_, earlier, Host.answers_append.mpr ⟨told, missed⟩, rounds⟩

/-- A kill that was sent comes to the end that is told after any number of stops, and the tracee is
given up.  Only where the options are refused on the way, it fails, and the tracee stays. -/
theorem kill_reaps (may : t.May x [.attached, .stopped, .running])
    (stops : ∀ s ∈ told, s.status.isStop = true) (ended : last.status.stop? = some exit)
    (final : exit.isTerminal = true)
    (answered : h.Answers
      (.kill x.pid .kill (.ok ()) :: (told.flatMap (·.calls x.pid) ++ last.calls x.pid))) :
    ((∀ e, ¬ h.Refuses t x told e) → ∃ (d : Cast) (g : Host),
      kill.runOn ⟨t, x, h⟩ = (.ok exit, d.on g) ∧ Cast.Ended ⟨t, x⟩ exit d ∧
      d.tracer.isTracing x.pid = false) ∧
    ∀ e, h.Refuses t x told e → ∃ (d : Cast) (g : Host),
      kill.runOn ⟨t, x, h⟩ = (.error (.ofRequest x.pid e), d.on g) ∧ d.tracer = t ∧
      d.tracee.state.isTerminal = false := by
  obtain ⟨sent, waits⟩ := answered
  have waits : Host.Answers (told.flatMap (·.calls x.struck.pid) ++ last.calls x.struck.pid)
      (Host.ask (.kill x.pid .kill (.ok ())) h).2 := by
    rw [x.pid_struck]
    exact waits
  have opened_iff : x.struck.OpenedBy told ↔ x.OpenedBy told := by
    unfold Tracee.OpenedBy
    rw [x.awaiting_struck]
  constructor
  · intro willing
    have granted (opened : x.struck.OpenedBy told) :
        t.options.isEmpty = true ∨ h.kernel.setOptions.headD (.ok ()) = .ok () := by
      cases asked : t.options.isEmpty with
      | true => exact .inl rfl
      | false =>
        cases reply : h.kernel.setOptions.headD (.ok ()) with
        | ok _ => exact .inr rfl
        | error e => exact absurd ⟨opened_iff.mp opened, asked, reply⟩ (willing e)
    obtain ⟨calls, d, rounds, ends, told⟩ :=
      exists_reaping (h := (Host.ask (.kill x.pid .kill (.ok ())) h).2) stops ended final granted waits
    obtain ⟨g, run⟩ := kill_does may rounds ⟨sent, told⟩
    have ends : Cast.Ended ⟨t, x⟩ exit d := ends.of_keeps (x.struck_keeps t)
    refine ⟨d, g, run, ends, ?_⟩
    rw [ends.tracer]
    exact Bool.eq_false_iff.mpr fun traced => ((t.isTracing_release x.pid x.pid).mp traced).1 rfl
  · intro e refuses
    have missing : Host.Refuses (Host.ask (.kill x.pid .kill (.ok ())) h).2 t x.struck told e :=
      ⟨opened_iff.mpr refuses.opened, refuses.asked, refuses.refused⟩
    obtain ⟨calls, earlier, told, rounds⟩ := exists_missing stops missing waits
    obtain ⟨g, run⟩ := kill_does may rounds ⟨sent, told⟩
    rw [x.pid_struck] at run
    have moves := (Tracee.struck_may may).state
    exact ⟨_, g, run, rfl, live_of_moving (Tracee.past_moving moves earlier)⟩

/-- A new program is killed at its exec: one wait is interrupted, the trap is still told, and then
the end.  At the trap the options are taken as this reply says. -/
def killedAtExec (reply : Reply Unit) : Host where
  kernel := {
    waits := [.error .eintr, .ok ⟨none, 0x57f⟩, .ok ⟨none, 9⟩]
    setOptions := [reply] }
  errno := .unknown
  nextPid := 1001
  journal := []

theorem reaped_of_killedAtExec :
    (∃ (d : Cast) (g : Host),
      kill.runOn ⟨Tracer.new.adopt 1000, .born 1000 .exec, killedAtExec (.ok ())⟩ =
        (.ok (.signaled .kill false), d.on g) ∧ d.tracer.isTracing 1000 = false) ∧
    ∃ (d : Cast) (g : Host),
      kill.runOn ⟨Tracer.new.adopt 1000, .born 1000 .exec, killedAtExec (.error .esrch)⟩ =
        (.error (.noSuchProcess 1000), d.on g) ∧ d.tracer = Tracer.new.adopt 1000 := by
  let x : Tracee := .born 1000 .exec
  have may : (Tracer.new.adopt 1000).May x [.attached, .stopped, .running] :=
    ⟨by decide, by decide⟩
  let told : List Told := [⟨1, ⟨1000, .stopped .trap⟩⟩]
  let last : Told := ⟨0, ⟨1000, .signaled .kill false⟩⟩
  have stops : ∀ s ∈ told, s.status.isStop = true := by decide
  have told_end : last.status.stop? = some (.signaled .kill false) := rfl
  constructor
  · have answered : (killedAtExec (.ok ())).Answers
        (.kill x.pid .kill (.ok ()) :: (told.flatMap (·.calls x.pid) ++ last.calls x.pid)) := by
      decide +kernel
    have willing (e : Errno) :
        ¬ (killedAtExec (.ok ())).Refuses (Tracer.new.adopt 1000) x told e := by
      intro refuses
      cases refuses.refused
    obtain ⟨d, g, run, _, untraced⟩ := (kill_reaps may stops told_end rfl answered).1 willing
    exact ⟨d, g, run, untraced⟩
  · have answered : (killedAtExec (.error .esrch)).Answers
        (.kill x.pid .kill (.ok ()) :: (told.flatMap (·.calls x.pid) ++ last.calls x.pid)) := by
      decide +kernel
    have opened : x.OpenedBy told := ⟨.exec, rfl, _, List.mem_cons_self, rfl⟩
    have refuses : (killedAtExec (.error .esrch)).Refuses (Tracer.new.adopt 1000) x told .esrch :=
      ⟨opened, by decide, rfl⟩
    obtain ⟨d, g, run, kept, _⟩ := (kill_reaps may stops told_end rfl answered).2 .esrch refuses
    exact ⟨d, g, run, kept⟩

end Drive

end ProcTrace
