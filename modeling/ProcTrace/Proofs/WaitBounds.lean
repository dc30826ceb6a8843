import ProcTrace.Proofs.Bouts.Events
import ProcTrace.Proofs.Failures
import ProcTrace.Proofs.Interruptions.Session
import ProcTrace.Proofs.Reports

/-!
# How long waiting goes on

No loop of waiting counts its turns.  Each turn takes a reply, and a wait that finds no such child
is the last, so that an operation ends within one wait more than there are replies before that one.

* `Kernel.GoneAfter`       the wait after the first so many finds no such child;
* `Quits`                  a dialogue in which such a wait is the last call, and the tracee given up;
* `Waits.quits`, `Rounds.quits`   so it is with waiting, and with waiting past stops;
* `Talks.Quit`             dialogues that all quit, as those of every action do: `Execs.quit`,
                           `Kills.quit`, `Runs.quit`;
* `Quits.cases_of_goneAfter`   how many waits that makes.
-/

namespace ProcTrace

open Course

/-! ## the wait that finds no child -/

/-- The wait after the first `n` finds no such child, by its reply or because there is none. -/
def Kernel.GoneAfter (k : Kernel) (n : Nat) : Prop :=
  k.waits[n]?.getD (.error .echild) = .error .echild

/-- With no reply left a wait finds no such child. -/
theorem Kernel.goneAfter_length (k : Kernel) : k.GoneAfter k.waits.length := by
  rw [GoneAfter, List.getElem?_eq_none (Nat.le_refl _)]
  rfl

theorem Host.reply_of_goneAfter {h : Host} {n : Nat} (gone : h.kernel.GoneAfter n)
    {before after : List Syscall} {pid : Pid} {reply : Reply Waited}
    (answered : h.Answers (before ++ .waitpid pid reply :: after)) (made : waitsMade before = n) :
    reply = .error .echild := by
  have told := ask_waitpid (answers_append.mp answered).2.1
  have next : (h.after before).kernel.waits.headD (.error .echild) = .error .echild := by
    rw [waits_after, made, List.headD_eq_head?_getD, List.head?_drop]
    exact gone
  have raw : (waitpid pid (h.after before)).1 =
      ((h.after before).kernel.waits.headD (.error .echild)).bind (Waited.ofRaw pid _) := rfl
  rw [← told, raw, next]
  rfl

/-- A dialogue with more than `n` waits, at the wait after the first `n`. -/
theorem exists_wait {calls : List Syscall} {n : Nat} (more : n < waitsMade calls) :
    ∃ before pid reply after, calls = before ++ .waitpid pid reply :: after ∧
      waitsMade before = n := by
  induction calls generalizing n with
  | nil => cases more
  | cons c calls ih =>
    cases waits : c.isWait with
    | false =>
      have rest : waitsMade (c :: calls) = waitsMade calls :=
        List.countP_cons_of_neg (by simp [waits])
      obtain ⟨before, pid, reply, after, rfl, made⟩ := ih (rest ▸ more)
      refine ⟨c :: before, pid, reply, after, rfl, ?_⟩
      rw [← made]
      exact List.countP_cons_of_neg (by simp [waits])
    | true =>
      cases c with
      | waitpid pid reply =>
        have one : waitsMade (.waitpid pid reply :: calls) = waitsMade calls + 1 :=
          List.countP_cons_of_pos rfl
        cases n with
        | zero => exact ⟨[], pid, reply, calls, rfl, rfl⟩
        | succ n =>
          obtain ⟨before, pid', reply', after, rfl, made⟩ := ih (n := n) (by omega)
          refine ⟨.waitpid pid reply :: before, pid', reply', after, rfl, ?_⟩
          rw [← made]
          exact List.countP_cons_of_pos rfl
      | _ => cases waits

/-! ## dialogues that quit -/

/-- the tracee has exited, and its tracer has given it up -/
structure Cast.GivenUp (c d : Cast) : Prop where
  tracer : d.tracer = c.tracer.release c.tracee.pid
  pid : d.tracee.pid = c.tracee.pid
  exited : d.tracee.state = .exited

theorem Cast.GivenUp.untraced {c d : Cast} (up : c.GivenUp d) :
    d.tracer.isTracing c.tracee.pid = false := by
  rw [up.tracer, ← Bool.not_eq_true, Tracer.isTracing_release]
  exact fun other => other.1 rfl

/-- A wait that finds no such child is the last call, and the tracee is given up then. -/
inductive Quits (c : Cast) (calls : List Syscall) (d : Cast) : Prop where
  | kept (found : ¬ Lost calls)
  | gone {earlier : List Syscall} (found : ¬ Lost earlier)
    (last : calls = earlier ++ [.waitpid c.tracee.pid (.error .echild)]) (up : c.GivenUp d)

theorem Quits.after {b c d : Cast} {earlier calls : List Syscall} (found : ¬ Lost earlier)
    (kept : b.Keeps c) (quits : Quits c calls d) : Quits b (earlier ++ calls) d := by
  cases quits with
  | kept found' => exact .kept fun lost => (lost_append.mp lost).elim found found'
  | gone found' last up =>
    refine .gone (fun lost => (lost_append.mp lost).elim found found') ?_ ⟨?_, ?_, up.exited⟩
    · rw [last, List.append_assoc, kept.pid]
    · rw [up.tracer, kept.tracer, kept.pid]
    · rw [up.pid, kept.pid]

theorem Quits.of_silent {c d : Cast} {calls : List Syscall}
    (silent : ∀ s ∈ calls, s.isWait = false) : Quits c calls d := .kept (not_lost_of_silent silent)

theorem not_lost_interrupted (pid : Pid) (n : Nat) :
    ¬ Lost (List.replicate n (.waitpid pid (.error .eintr))) := by
  rintro ⟨_, mem⟩
  cases (List.mem_replicate.mp mem).2

theorem Waits.quits {t : Tracer} {x : Tracee} {calls : List Syscall} {r : Except Error Stop}
    {d : Cast} (waits : Waits t x calls r d) : Quits ⟨t, x⟩ calls d := by
  cases r with
  | ok stop => exact .kept waits.not_lost
  | error e =>
    cases waits with
    | vanished n => exact .gone (not_lost_interrupted x.pid n) rfl ⟨rfl, rfl, rfl⟩
    | failed n e news other => exact .kept (by simpa [lost_heard] using other)
    | odd n w none => exact .kept (by simp [lost_heard])
    | missed n w first owed told some e =>
      have silent : ¬ Lost [.setOptions x.pid t.options (.error e)] := by simp [Lost]
      exact .kept (by simp [lost_append, lost_heard, silent])

/-- what is done to pass a stop says nothing by waiting, and keeps tracer and process -/
structure Talks.Quiet (pass : Talks Unit) : Prop where
  silent {c calls r d} (passes : pass c calls r d) : ∀ s ∈ calls, s.isWait = false
  keeps {c calls d} (passes : pass c calls (.ok ()) d) : c.Keeps d

theorem Resumes.quiet : Talks.Quiet Resumes where
  silent resumes := by cases resumes <;> simp [Syscall.isWait]
  keeps := Resumes.keeps

theorem LetsGo.quiet : Talks.Quiet LetsGo where
  silent lets := by cases lets; simp
  keeps := LetsGo.keeps

section loops

variable {final : Stop → Bool} {pass : Talks Unit} {c d : Cast} {calls : List Syscall}

theorem Rounds.quits (quiet : pass.Quiet)
    (still : ∀ stop, final stop = false → stop.isTerminal = false) {r : Except Error Stop}
    (rounds : Rounds final pass c calls r d) : Quits c calls d := by
  induction rounds with
  | failed waits | arrived waits _ => exact waits.quits
  | stuck waits onward passes =>
    exact .after waits.not_lost (waits.keeps (still _ onward)) (.of_silent (quiet.silent passes))
  | turn waits onward passes _ ih =>
    refine .after waits.not_lost (waits.keeps (still _ onward)) ?_
    exact .after (not_lost_of_silent (quiet.silent passes)) (quiet.keeps passes) ih

theorem Rounds.not_lost (quiet : pass.Quiet) {stop : Stop}
    (rounds : Rounds final pass c calls (.ok stop) d) : ¬ Lost calls := by
  generalize came : (Except.ok stop : Except Error Stop) = r at rounds
  induction rounds with
  | failed _ | stuck _ _ _ => cases came
  | arrived waits _ => exact waits.not_lost
  | turn waits _ passes _ ih =>
    simp [lost_append, waits.not_lost, not_lost_of_silent (quiet.silent passes), ih came]

end loops

namespace Talks

/-- Every dialogue quits. -/
def Quit (talks : Talks α) : Prop := ∀ ⦃c calls r d⦄, talks c calls r d → Quits c calls d

/-- Where they come to a value, the process was found, and it stays with its tracer. -/
def GoOn (talks : Talks α) : Prop :=
  ∀ ⦃c calls a d⦄, talks c calls (.ok a) d → ¬ Lost calls ∧ c.Keeps d

variable {pass : Talks Unit} {first : Talks α} {next : α → Talks β}

theorem Quiet.quit (quiet : pass.Quiet) : pass.Quit :=
  fun _ _ _ _ passes => .of_silent (quiet.silent passes)

theorem Quiet.goOn (quiet : pass.Quiet) : pass.GoOn :=
  fun _ _ _ _ passes => ⟨not_lost_of_silent (quiet.silent passes), quiet.keeps passes⟩

theorem Then.quit (quit : first.Quit) (goOn : first.GoOn) (rest : ∀ a, (next a).Quit) :
    (first.Then next).Quit := by
  intro c calls r d talk
  cases talk with
  | failed talk => exact quit talk
  | passed talk later =>
    obtain ⟨found, kept⟩ := goOn talk
    exact .after found kept (rest _ later)

theorem Map.quit (quit : first.Quit) (f : α → β) : (first.Map f).Quit := by
  intro c calls r d talk
  cases talk with
  | failed talk | done talk => exact quit talk

end Talks

/-! ## every action -/

theorem Execs.quit : Talks.Quit Execs := by
  intro c calls r d execs
  cases execs with
  | failed rounds | ended rounds _ | done rounds _ =>
    exact rounds.quits Resumes.quiet Drive.still_of_execOver

theorem Execs.goOn : Talks.GoOn Execs := by
  intro c calls a d execs
  refine ⟨?_, execs.keeps⟩
  cases execs with
  | done rounds _ => exact rounds.not_lost Resumes.quiet

theorem Kills.quit : Talks.Quit Kills := by
  intro c calls r d kills
  cases kills with
  | refused e => exact .of_silent (by simp [Syscall.isWait])
  | sent rounds =>
    rename_i t x calls
    have silent : ¬ Lost [.kill x.pid .kill (.ok ())] := by simp [Lost]
    exact .after silent (x.struck_keeps t) (rounds.quits LetsGo.quiet fun _ onward => onward)

theorem Reads.silent {register : Slot} {c d : Cast} {calls : List Syscall} {r : Except Error Word}
    (reads : Reads register c calls r d) : ∀ s ∈ calls, s.isWait = false := by
  cases reads <;> simp [Syscall.isWait]

theorem OrKills.quit (register : Slot) : Talks.Quit (OrKills (Reads register)) := by
  intro c calls r d talk
  cases talk with
  | fine reads => exact .of_silent reads.silent
  | struck reads kills =>
    rw [reads.eq] at kills
    exact .after (not_lost_of_silent reads.silent) (.refl _) (Kills.quit kills)

theorem OrKills.goOn (register : Slot) : Talks.GoOn (OrKills (Reads register)) := by
  intro c calls word d talk
  cases talk with
  | fine reads =>
    rw [reads.eq]
    exact ⟨not_lost_of_silent reads.silent, .refl c⟩

theorem Runs.quit (layout : Layout) (pid : Pid) : Talks.Quit (Runs layout pid) := by
  have ends : Talks.Quit (Rounds Stop.isTerminal Resumes) :=
    fun _ _ _ _ rounds => rounds.quits Resumes.quiet fun _ onward => onward
  refine Talks.Then.quit Execs.quit Execs.goOn fun _ => ?_
  refine Talks.Then.quit (OrKills.quit _) (OrKills.goOn _) fun _ => ?_
  exact Talks.Then.quit Resumes.quiet.quit Resumes.quiet.goOn fun _ => Talks.Map.quit ends _

/-! ## within so many waits -/

/-- A dialogue makes `n` waits at most, or one more, which finds no such child and is the last. -/
theorem Quits.cases_of_goneAfter {c d : Cast} {calls : List Syscall} (quits : Quits c calls d)
    {h : Host} {n : Nat} (gone : h.kernel.GoneAfter n) (answered : h.Answers calls) :
    waitsMade calls ≤ n ∨ c.GivenUp d ∧ ∃ earlier, waitsMade earlier = n ∧
      calls = earlier ++ [.waitpid c.tracee.pid (.error .echild)] := by
  rcases Nat.lt_or_ge n (waitsMade calls) with more | fewer
  · obtain ⟨before, pid, reply, after, split, made⟩ := exists_wait more
    rw [split] at answered
    obtain rfl := Host.reply_of_goneAfter gone answered made
    right
    cases quits with
    | kept found => exact absurd ⟨pid, split ▸ List.mem_append_right _ List.mem_cons_self⟩ found
    | @gone earlier found last up =>
      rcases append_cons_cases (split.symm.trans last) with ⟨rest, early, _⟩ | ⟨rest, rfl, late⟩
      · exact absurd ⟨pid, early ▸ List.mem_append_right _ List.mem_cons_self⟩ found
      · -- nothing comes between the two, which are one
        cases rest with
        | nil => exact ⟨up, earlier, by rw [← made, List.append_nil], last⟩
        | cons _ rest => cases rest <;> cases late
  · exact .inl fewer

end ProcTrace
