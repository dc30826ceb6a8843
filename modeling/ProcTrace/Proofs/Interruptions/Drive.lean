import ProcTrace.Proofs.Dialogue.Refusals
import ProcTrace.Proofs.Interruptions

/-!
# Deafness to interruptions

Whatever is done with a tracee comes to the same on two hosts that differ by interruptions: each
dialogue with the one is matched by one with the other.

* `Talks.Deaf`              dialogues that come to the same, however often they are interrupted;
* `Waits.deaf`, `Rounds.deaf`, `Kills.deaf`, `Execs.deaf`, `Runs.deaf`   so do those of waiting, of
                            the loops, and of all that is made of them;
* `Drive.Deaf`              actions that come to the same, as waiting, waiting for the exec and
                            killing do.
-/

namespace ProcTrace

open Course

/-- Each dialogue about this process is matched, on a host that differs by interruptions, by one
that comes to the same. -/
def Talks.Deaf (pid : Pid) (talks : Talks α) : Prop :=
  ∀ ⦃c calls r d h g⦄, c.tracee.pid = pid → talks c calls r d → h.Answers calls →
    Host.Disturbed pid h g → ∃ more, talks c more r d ∧ h.Matched pid calls g more

theorem Tracer.isApart_of_mem_optionsCalls {t : Tracer} {pid : Pid} :
    ∀ c ∈ t.optionsCalls pid, c.isApart = true := by
  unfold Tracer.optionsCalls
  split <;> simp [Syscall.isApart]

/-! ## one action -/

/-- However often it is interrupted, a wait tells the same. -/
theorem Waits.deaf (pid : Pid) : Talks.Deaf pid fun c => Waits c.tracer c.tracee := by
  rintro ⟨t, x⟩ calls r d h g rfl waits answered disturbed
  -- what is told after `n` interruptions is told after `m` of them
  have told {n : Nat} {w : Waited} (answered : h.Answers (heard x.pid n (.ok w))) :
      ∃ m, h.Matched x.pid (heard x.pid n (.ok w)) g (heard x.pid m (.ok w)) :=
    disturbed.heard_matched (by simp) answered
  cases waits with
  | failed n e news other =>
    obtain ⟨m, matched⟩ := disturbed.heard_matched (by simpa using news) answered
    exact ⟨_, .failed m e news other, matched⟩
  | vanished n =>
    obtain ⟨m, matched⟩ := disturbed.heard_matched (by simp) answered
    exact ⟨_, .vanished m, matched⟩
  | odd n w none =>
    obtain ⟨m, matched⟩ := told answered
    exact ⟨_, .odd m w none, matched⟩
  | ended n w stop ends final =>
    obtain ⟨m, matched⟩ := told answered
    exact ⟨_, .ended m w stop ends final, matched⟩
  | opened n w first owed opens =>
    obtain ⟨before, after⟩ := Host.answers_append.mp answered
    obtain ⟨m, matched⟩ := told before
    exact ⟨_, .opened m w first owed opens,
      matched.append (.all_asked matched.after Tracer.isApart_of_mem_optionsCalls after)⟩
  | missed n w first owed opens some e =>
    obtain ⟨before, after⟩ := Host.answers_append.mp answered
    obtain ⟨m, matched⟩ := told before
    exact ⟨_, .missed m w first owed opens some e,
      matched.append (.asked matched.after rfl after.1)⟩
  | stopped n w stop stands still later =>
    obtain ⟨m, matched⟩ := told answered
    exact ⟨_, .stopped m w stop stands still later, matched⟩

theorem Resumes.deaf (pid : Pid) : Talks.Deaf pid Resumes := by
  intro c calls r d h g own resumes answered disturbed
  refine ⟨calls, resumes, ?_⟩
  cases resumes with
  | resumed | refused _ => exact .asked disturbed rfl answered.1

theorem LetsGo.deaf (pid : Pid) : Talks.Deaf pid LetsGo := by
  intro c calls r d h g own lets answered disturbed
  refine ⟨calls, lets, ?_⟩
  cases lets with
  | gone => exact .refl disturbed

theorem Reads.deaf (r : Slot) (pid : Pid) : Talks.Deaf pid (Reads r) := by
  intro c calls r d h g own reads answered disturbed
  refine ⟨calls, reads, ?_⟩
  cases reads with
  | read _ _ _ | unread _ _ _ => exact .asked disturbed rfl answered.1

/-! ## one after the other -/

namespace Talks.Deaf

variable {pid : Pid} {first : Talks α}

theorem andThen {next : α → Talks β} (deaf : first.Deaf pid) (later : ∀ a, (next a).Deaf pid)
    (keeps : ∀ {c calls a d}, first c calls (.ok a) d → d.tracee.pid = c.tracee.pid) :
    (first.Then next).Deaf pid := by
  intro c calls r d h g own talk answered disturbed
  cases talk with
  | failed talk =>
    obtain ⟨more, talk, matched⟩ := deaf own talk answered disturbed
    exact ⟨more, .failed talk, matched⟩
  | passed talk rest =>
    obtain ⟨before, after⟩ := Host.answers_append.mp answered
    obtain ⟨more, talk', matched⟩ := deaf own talk before disturbed
    obtain ⟨more', rest', matched'⟩ := later _ ((keeps talk).trans own) rest after matched.after
    exact ⟨_, .passed talk' rest', matched.append matched'⟩

theorem map (f : α → β) (deaf : first.Deaf pid) : (first.Map f).Deaf pid := by
  intro c calls r d h g own talk answered disturbed
  cases talk with
  | failed talk =>
    obtain ⟨more, talk, matched⟩ := deaf own talk answered disturbed
    exact ⟨more, .failed talk, matched⟩
  | done talk =>
    obtain ⟨more, talk, matched⟩ := deaf own talk answered disturbed
    exact ⟨more, .done talk, matched⟩

end Talks.Deaf

/-! ## loops -/

theorem Rounds.deaf {final : Stop → Bool} {pass : Talks Unit} {pid : Pid}
    (still : ∀ stop, final stop = false → stop.isTerminal = false)
    (keeps : ∀ {c calls d}, pass c calls (.ok ()) d → c.Keeps d) (passes : pass.Deaf pid) :
    (Rounds final pass).Deaf pid := by
  intro c calls r d h g own rounds answered disturbed
  induction rounds generalizing h g with
  | failed waits =>
    obtain ⟨more, waits, matched⟩ := Waits.deaf pid own waits answered disturbed
    exact ⟨more, .failed waits, matched⟩
  | arrived waits last =>
    obtain ⟨more, waits, matched⟩ := Waits.deaf pid own waits answered disturbed
    exact ⟨more, .arrived waits last, matched⟩
  | stuck waits onward stuck =>
    obtain ⟨before, after⟩ := Host.answers_append.mp answered
    obtain ⟨more, waits', matched⟩ := Waits.deaf pid own waits before disturbed
    have same := (waits.keeps (still _ onward)).pid.trans own
    obtain ⟨more', stuck, matched'⟩ := passes same stuck after matched.after
    exact ⟨_, .stuck waits' onward stuck, matched.append matched'⟩
  | turn waits onward passed _ ih =>
    obtain ⟨before, after⟩ := Host.answers_append.mp answered
    obtain ⟨meanwhile, later⟩ := Host.answers_append.mp after
    obtain ⟨more, waits', matched⟩ := Waits.deaf pid own waits before disturbed
    have same := (waits.keeps (still _ onward)).pid.trans own
    obtain ⟨more', passed', matched'⟩ := passes same passed meanwhile matched.after
    obtain ⟨more'', rest, matched''⟩ :=
      ih ((keeps passed).pid.trans same) later matched'.after
    exact ⟨_, .turn waits' onward passed' rest, matched.append (matched'.append matched'')⟩

theorem Kills.deaf (pid : Pid) : Talks.Deaf pid Kills := by
  intro c calls r d h g own kills answered disturbed
  cases kills with
  | refused e => exact ⟨_, .refused e, .asked disturbed rfl answered.1⟩
  | sent rounds =>
    rename_i t x calls
    have sent : h.Matched pid [.kill x.pid .kill (.ok ())] g [.kill x.pid .kill (.ok ())] :=
      .asked disturbed rfl answered.1
    obtain ⟨more, rounds, matched⟩ := Rounds.deaf (fun _ onward => onward) LetsGo.keeps
      (LetsGo.deaf pid) (x.pid_struck.trans own) rounds answered.2 sent.after
    exact ⟨_, .sent rounds, sent.append matched⟩

theorem Execs.deaf (pid : Pid) : Talks.Deaf pid Execs := by
  have deaf := Rounds.deaf Drive.still_of_execOver Resumes.keeps (Resumes.deaf pid)
  intro c calls r d h g own execs answered disturbed
  cases execs with
  | failed rounds =>
    obtain ⟨more, rounds, matched⟩ := deaf own rounds answered disturbed
    exact ⟨more, .failed rounds, matched⟩
  | ended rounds final =>
    obtain ⟨more, rounds, matched⟩ := deaf own rounds answered disturbed
    exact ⟨more, .ended rounds final, matched⟩
  | done rounds still =>
    obtain ⟨more, rounds, matched⟩ := deaf own rounds answered disturbed
    exact ⟨more, .done rounds still, matched⟩

theorem OrKills.deaf {pid : Pid} {talks : Talks α} (deaf : talks.Deaf pid)
    (keeps : ∀ {c calls e d}, talks c calls (.error e) d → d.tracee.pid = c.tracee.pid) :
    (OrKills talks).Deaf pid := by
  intro c calls r d h g own talk answered disturbed
  cases talk with
  | fine talk =>
    obtain ⟨more, talk, matched⟩ := deaf own talk answered disturbed
    exact ⟨more, .fine talk, matched⟩
  | struck talk kills =>
    obtain ⟨before, after⟩ := Host.answers_append.mp answered
    obtain ⟨more, talk', matched⟩ := deaf own talk before disturbed
    obtain ⟨more', kills, matched'⟩ :=
      Kills.deaf pid ((keeps talk).trans own) kills after matched.after
    exact ⟨_, .struck talk' kills, matched.append matched'⟩

theorem Runs.deaf (layout : Layout) (pid : Pid) : Talks.Deaf pid (Runs layout pid) := by
  have reads (r : Slot) : Talks.Deaf pid (OrKills (Reads r)) :=
    OrKills.deaf (Reads.deaf r pid) fun reads => by rw [reads.eq]
  have ends (word : Word) : Talks.Deaf pid ((Rounds Stop.isTerminal Resumes).Map
      (RunReport.mk pid word)) :=
    .map _ (Rounds.deaf (fun _ onward => onward) Resumes.keeps (Resumes.deaf pid))
  refine (Execs.deaf pid).andThen (fun _ => (reads _).andThen (fun word =>
    (Resumes.deaf pid).andThen (fun _ => ends word) fun resumes => resumes.keeps.pid) ?_)
    fun execs => execs.keeps.pid
  intro c calls word d talk
  cases talk with
  | fine reads => rw [reads.eq]

/-! ## every action -/

namespace Drive

/-- On two hosts that differ by interruptions the action comes to the same, by calls that match. -/
def Deaf (act : Drive α) (c : Cast) : Prop :=
  ∀ ⦃h g⦄, Host.Disturbed c.tracee.pid h g →
    ∃ calls more r, ∃ d : Cast, ∃ h' g', h.Matched c.tracee.pid calls g more ∧
      act.runOn (c.on h) = (r, d.on h') ∧ h.Came calls h' ∧
      act.runOn (c.on g) = (r, d.on g') ∧ g.Came more g'

variable {act : Drive α} {c : Cast}

theorem Holds.deaf {talks : Talks α} (holds : Holds act talks c)
    (deaf : talks.Deaf c.tracee.pid) : Deaf act c := by
  intro h g disturbed
  obtain ⟨calls, r, d, h', talk, answered, run, came⟩ := holds.run h
  obtain ⟨more, talk', matched⟩ := deaf rfl talk answered disturbed
  obtain ⟨g', run', came'⟩ := holds.does talk' g matched.answers
  exact ⟨calls, more, r, d, h', g', matched, run, came, run', came'⟩

/-- What is refused is refused before anything is said. -/
theorem Refused.deaf {e : Error} (refused : Refused act c e) : Deaf act c := fun h g disturbed =>
  ⟨[], [], .error e, c, h, g, .refl disturbed, refused.run h, .refl h, refused.run g, .refl g⟩

theorem wait_deaf (c : Cast) : Deaf wait c := by
  obtain ⟨_, refused⟩ | holds := wait_refused_or_holds c
  · exact refused.deaf
  · exact holds.deaf (Waits.deaf _)

theorem kill_deaf (c : Cast) : Deaf kill c := by
  obtain ⟨_, refused⟩ | holds := kill_refused_or_holds c
  · exact refused.deaf
  · exact holds.deaf (Kills.deaf _)

theorem waitForExec_deaf (c : Cast) : Deaf waitForExec c := by
  obtain ⟨_, refused⟩ | holds := waitForExec_refused_or_holds c
  · exact refused.deaf
  · exact holds.deaf (Execs.deaf _)

end Drive

end ProcTrace
