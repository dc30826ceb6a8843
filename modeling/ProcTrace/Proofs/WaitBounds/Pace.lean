import ProcTrace.Proofs.WaitBounds

/-!
# Nothing is resumed twice

Each call that resumes a process has a stop of its own: one that a wait was told since the last
such call.  So there are no more of these calls than there were stops.

* `StopTold`               a stop was told, and nothing was resumed since;
* `PacedAfter`, `Paced`    calls of which each that resumes a process has its stop;
* `Paced.conts_le`         how many these can be;
* `Talks.Even`             dialogues that are paced, as those of every action are that waits:
                           `Rounds.even`, `Execs.even`, `Kills.even`, `Runs.even`;
* `Talks.OnStop`           dialogues that are paced where a stop was told before.
-/

namespace ProcTrace

open Course

/-! ## stops and resumptions -/

/-- a wait that was told a stop -/
def Syscall.tellsStop : Syscall → Bool
  | waitpid _ (.ok w) => w.status.isStop
  | _ => false

/-- A wait was told a stop of the process, and nothing was resumed since. -/
def StopTold (pid : Pid) (calls : List Syscall) : Prop :=
  ∃ earlier w between, calls = earlier ++ .waitpid pid (.ok w) :: between ∧
    w.status.isStop = true ∧ ∀ c ∈ between, c.isCont = false

/-- Each of the calls that resumes a process has a stop of its own, be it told by the calls before. -/
def PacedAfter (earlier calls : List Syscall) : Prop :=
  ∀ ⦃before pid signal reply after⦄, calls = before ++ .cont pid signal reply :: after →
    StopTold pid (earlier ++ before)

def Paced (calls : List Syscall) : Prop := PacedAfter [] calls

section

variable {pid : Pid} {earlier calls more : List Syscall}

theorem StopTold.after (earlier : List Syscall) (told : StopTold pid calls) :
    StopTold pid (earlier ++ calls) := by
  obtain ⟨before, w, between, rfl, stop, still⟩ := told
  exact ⟨earlier ++ before, w, between, (List.append_assoc _ _ _).symm, stop, still⟩

theorem StopTold.append (told : StopTold pid calls) (quiet : ∀ c ∈ more, c.isCont = false) :
    StopTold pid (calls ++ more) := by
  obtain ⟨before, w, between, rfl, stop, still⟩ := told
  refine ⟨before, w, between ++ more, by simp, stop, fun c mem => ?_⟩
  exact (List.mem_append.mp mem).elim (still c) (quiet c)

theorem PacedAfter.of_quiet (quiet : ∀ c ∈ calls, c.isCont = false) : PacedAfter earlier calls := by
  rintro before pid signal reply after rfl
  cases quiet (.cont pid signal reply) (List.mem_append_right _ List.mem_cons_self)

theorem PacedAfter.append (first : PacedAfter earlier calls)
    (second : PacedAfter (earlier ++ calls) more) : PacedAfter earlier (calls ++ more) := by
  intro before pid signal reply after split
  rcases append_cons_cases split.symm with ⟨rest, here, _⟩ | ⟨rest, rfl, there⟩
  · exact first here
  · rw [← List.append_assoc]
    exact second there

theorem Paced.behind (paced : Paced calls) (earlier : List Syscall) : PacedAfter earlier calls :=
  fun _ _ _ _ _ split => (paced split).after earlier

theorem Paced.goOn (first : Paced calls) (second : PacedAfter calls more) :
    Paced (calls ++ more) := PacedAfter.append first second

theorem Paced.append (first : Paced calls) (second : Paced more) : Paced (calls ++ more) :=
  first.goOn (second.behind calls)

theorem Paced.of_append (paced : Paced (calls ++ more)) : Paced calls := by
  rintro before pid signal reply after rfl
  exact paced (List.append_assoc _ _ _)

theorem PacedAfter.cont (told : StopTold pid earlier) (signal : Option Signal)
    (reply : Reply Unit) : PacedAfter earlier [.cont pid signal reply] := by
  intro before p s r after split
  obtain ⟨rfl, only⟩ :=
    (List.append_eq_singleton_iff.mp split.symm).resolve_right (by simp)
  cases only
  rwa [List.append_nil]

/-- The stops of the calls that resume something are different ones. -/
theorem Paced.conts_le (paced : Paced calls) :
    calls.countP Syscall.isCont ≤ calls.countP Syscall.tellsStop := by
  -- from the last resumption back to its stop, and on from there
  induction length : calls.length using Nat.strongRecOn generalizing calls with
  | _ n ih =>
    rcases List.eq_nil_or_concat calls with rfl | ⟨init, c, rfl⟩
    · exact Nat.le_refl _
    · rw [List.concat_eq_append] at paced length ⊢
      rw [List.length_append, List.length_singleton] at length
      cases resumes : c.isCont with
      | false =>
        have fewer := ih init.length (by omega) paced.of_append rfl
        rw [List.countP_append, List.countP_append, List.countP_singleton, resumes]
        exact Nat.le_trans fewer (Nat.le_add_right _ _)
      | true =>
        cases c with
        | cont pid signal reply =>
          obtain ⟨before, w, between, split, stop, still⟩ := paced rfl
          obtain rfl : init = _ := split
          rw [List.length_append, List.length_cons] at length
          have fewer := ih before.length (by omega) paced.of_append.of_append rfl
          have none : between.countP Syscall.isCont = 0 :=
            List.countP_eq_zero.mpr (by simpa using still)
          have one : Syscall.tellsStop (.waitpid pid (.ok w)) = true := stop
          simp only [List.countP_append, List.countP_cons, List.countP_nil, none, one]
          simp only [Syscall.isCont, Syscall.tellsStop, if_true, Bool.false_eq_true, if_false]
          omega
        | _ => cases resumes

theorem tellsStop_le_waitsMade (calls : List Syscall) :
    calls.countP Syscall.tellsStop ≤ waitsMade calls := by
  refine List.countP_mono_left fun c _ tells => ?_
  cases c with
  | waitpid _ _ => rfl
  | _ => cases tells

end

/-! ## waits -/

theorem Tracer.isCont_of_mem_optionsCalls {t : Tracer} {pid : Pid} :
    ∀ c ∈ t.optionsCalls pid, c.isCont = false := by
  unfold optionsCalls
  split <;> simp [Syscall.isCont]

namespace Waits

variable {t : Tracer} {x : Tracee} {calls : List Syscall} {r : Except Error Stop} {d : Cast}

theorem quiet (waits : Waits t x calls r d) : ∀ c ∈ calls, c.isCont = false := by
  have quiet {n : Nat} {reply : Reply Waited} : ∀ c ∈ heard x.pid n reply, c.isCont = false := by
    intro c mem
    rcases List.mem_append.mp mem with mem | mem
    · rw [List.eq_of_mem_replicate mem]
      rfl
    · rw [List.mem_singleton.mp mem]
      rfl
  cases waits with
  | failed _ _ _ _ | vanished _ | odd _ _ _ | ended _ _ _ _ _ | stopped _ _ _ _ _ _ => exact quiet
  | opened _ _ _ _ _ =>
    exact fun c mem => (List.mem_append.mp mem).elim (quiet c) (Tracer.isCont_of_mem_optionsCalls c)
  | missed _ _ _ _ _ _ e =>
    intro c mem
    rcases List.mem_append.mp mem with mem | mem
    · exact quiet c mem
    · rw [List.mem_singleton.mp mem]
      rfl

theorem stopTold {stop : Stop} (waits : Waits t x calls (.ok stop) d)
    (still : stop.isTerminal = false) : StopTold x.pid calls := by
  cases waits with
  | ended _ _ _ _ final =>
    rw [still] at final
    cases final
  | opened n w first _ told =>
    exact ⟨_, w, _, List.append_assoc _ [_] _, by rw [told]; rfl, Tracer.isCont_of_mem_optionsCalls⟩
  | stopped n w _ told _ _ =>
    exact ⟨_, w, [], rfl, by rw [WaitStatus.isStop_of_stop? told, still]; rfl, by simp⟩

end Waits

/-! ## dialogues -/

namespace Talks

/-- Each dialogue is paced. -/
def Even (talks : Talks α) : Prop := ∀ ⦃c calls r d⦄, talks c calls r d → Paced calls

/-- Each dialogue is paced where a stop of the tracee was told before. -/
def OnStop (talks : Talks α) : Prop :=
  ∀ ⦃c calls r d⦄ earlier, talks c calls r d → StopTold c.tracee.pid earlier →
    PacedAfter earlier calls

variable {first : Talks α} {next : α → Talks β}

theorem Even.onStop (even : first.Even) : first.OnStop :=
  fun _ _ _ _ earlier talk _ => (even talk).behind earlier

theorem Map.even (even : first.Even) (f : α → β) : (first.Map f).Even := by
  intro c calls r d talk
  cases talk with
  | failed talk | done talk => exact even talk

/-- The first dialogue leaves the tracee at a stop. -/
theorem Then.even (even : first.Even)
    (stops : ∀ {c calls a d}, first c calls (.ok a) d → StopTold d.tracee.pid calls)
    (rest : ∀ a, (next a).OnStop) : (first.Then next).Even := by
  intro c calls r d talk
  cases talk with
  | failed talk => exact even talk
  | passed talk later =>
    have goesOn := rest _ _ later (stops talk)
    exact (even talk).goOn goesOn

/-- The first dialogue leaves the tracee at the stop at which it is. -/
theorem Then.onStop (onStop : first.OnStop)
    (stays : ∀ {c calls a d}, first c calls (.ok a) d →
      d.tracee.pid = c.tracee.pid ∧ ∀ s ∈ calls, s.isCont = false)
    (rest : ∀ a, (next a).OnStop) : (first.Then next).OnStop := by
  intro c calls r d earlier talk told
  cases talk with
  | failed talk => exact onStop earlier talk told
  | passed talk later =>
    obtain ⟨same, quiet⟩ := stays talk
    exact .append (onStop earlier talk told)
      (rest _ _ later (by rw [same]; exact told.append quiet))

/-- The first dialogue uses up the stop. -/
theorem Then.onStop_of_even (onStop : first.OnStop) (rest : ∀ a, (next a).Even) :
    (first.Then next).OnStop := by
  intro c calls r d earlier talk told
  cases talk with
  | failed talk => exact onStop earlier talk told
  | passed talk later => exact .append (onStop earlier talk told) ((rest _ later).behind _)

end Talks

theorem Resumes.onStop : Talks.OnStop Resumes := by
  intro c calls r d earlier resumes told
  cases resumes with
  | resumed | refused _ => exact .cont told _ _

theorem LetsGo.onStop : Talks.OnStop LetsGo := by
  intro c calls r d earlier lets _
  cases lets with
  | gone => exact .of_quiet (by simp)

theorem Rounds.even {final : Stop → Bool} {pass : Talks Unit}
    (still : ∀ stop, final stop = false → stop.isTerminal = false) (onStop : pass.OnStop) :
    Talks.Even (Rounds final pass) := by
  intro c calls r d rounds
  have told {t : Tracer} {x : Tracee} {calls : List Syscall} {stop : Stop} {d : Cast}
      (waits : Waits t x calls (.ok stop) d) (onward : final stop = false) :
      StopTold d.tracee.pid calls := by
    rw [(waits.keeps (still _ onward)).pid]
    exact waits.stopTold (still _ onward)
  induction rounds with
  | failed waits | arrived waits _ => exact .of_quiet waits.quiet
  | stuck waits onward passes =>
    have passed := onStop _ passes (told waits onward)
    exact .goOn (.of_quiet waits.quiet) passed
  | turn waits onward passes _ ih =>
    have passed := onStop _ passes (told waits onward)
    exact .goOn (.of_quiet waits.quiet) (passed.append (ih.behind _))

theorem Execs.even : Talks.Even Execs := by
  intro c calls r d execs
  cases execs with
  | failed rounds | ended rounds _ | done rounds _ =>
    exact Rounds.even Drive.still_of_execOver Resumes.onStop rounds

theorem Execs.stopTold {c d : Cast} {calls : List Syscall} (execs : Execs c calls (.ok ()) d) :
    StopTold d.tracee.pid calls := by
  cases execs with
  | done rounds still =>
    obtain ⟨b, last, ⟨earlier, rfl⟩, _, ⟨waits, _⟩ | ⟨_, came, _⟩⟩ :=
      rounds.exists_last Drive.still_of_execOver Resumes.keeps
    · rw [(waits.keeps still).pid]
      exact (waits.stopTold still).after earlier
    · cases came

theorem Kills.even : Talks.Even Kills := by
  intro c calls r d kills
  cases kills with
  | refused e => exact .of_quiet (by simp [Syscall.isCont])
  | sent rounds =>
    rename_i t x calls
    have sent : Paced [.kill x.pid .kill (.ok ())] := .of_quiet (by simp [Syscall.isCont])
    exact sent.append (Rounds.even (fun _ onward => onward) LetsGo.onStop rounds)

theorem Reads.unresumed {register : Slot} {c d : Cast} {calls : List Syscall} {r : Except Error Word}
    (reads : Reads register c calls r d) : ∀ s ∈ calls, s.isCont = false := by
  cases reads <;> simp [Syscall.isCont]

theorem OrKills.even (register : Slot) : Talks.Even (OrKills (Reads register)) := by
  intro c calls r d talk
  cases talk with
  | fine reads => exact .of_quiet reads.unresumed
  | struck reads kills => exact .append (.of_quiet reads.unresumed) (Kills.even kills)

theorem Runs.even (layout : Layout) (pid : Pid) : Talks.Even (Runs layout pid) := by
  have ends : Talks.Even (Rounds Stop.isTerminal Resumes) :=
    Rounds.even (fun _ onward => onward) Resumes.onStop
  refine Talks.Then.even Execs.even Execs.stopTold fun _ => ?_
  refine Talks.Then.onStop (OrKills.even _).onStop (fun talk => ?_) fun _ => ?_
  · cases talk with
    | fine reads => exact ⟨by rw [reads.eq], reads.unresumed⟩
  · exact Talks.Then.onStop_of_even Resumes.onStop fun _ => Talks.Map.even ends _

end ProcTrace
