import ProcTrace.Proofs.Dialogue.Wait

/-!
# The dialogues of driving

What the actions of `Drive` say to the kernel, and what comes of it.  Each kind of action has the
list of its dialogues, as a wait has; a loop holds those of its turns one after the other.

* `Talks`                 dialogues, with what comes of them;
* `Drive.Holds`           an action that holds these dialogues and no others;
* `Drive.Holds.run`       so that every run of it is told by one of them;
* `Drive.refused_or_held` the same of an action that asks for permission first;
* `Rounds`, `Drive.waitUntil_holds`   waiting past every stop that is not final;
* `Resumes`, `LetsGo`, `Kills`   the dialogues of the other actions, each with its law.
-/

namespace ProcTrace

open Course

/-- dialogues: from a cast, by these calls, with this result, to a cast -/
abbrev Talks (α : Type) := Cast → List Syscall → Except Error α → Cast → Prop

namespace Drive

/-- Begun with this cast, the action holds one of these dialogues, and any that the host answers. -/
structure Holds (act : Drive α) (talks : Talks α) (c : Cast) : Prop where
  does {calls : List Syscall} {r : Except Error α} {d : Cast} (talk : talks c calls r d) :
    Does act c calls r d
  total (h : Host) : ∃ calls r d, talks c calls r d ∧ h.Answers calls

/-- Every run of the action is told by a dialogue that the host answers. -/
theorem Holds.run {act : Drive α} {talks : Talks α} {c : Cast} (holds : Holds act talks c)
    (h : Host) : ∃ calls r d g, talks c calls r d ∧ h.Answers calls ∧
      act.runOn (c.on h) = (r, d.on g) ∧ h.Came calls g := by
  obtain ⟨calls, r, d, talk, answered⟩ := holds.total h
  obtain ⟨g, run, came⟩ := holds.does talk h answered
  exact ⟨calls, r, d, g, talk, answered, run, came⟩

/-- An action that asks for permission first is refused it, or holds one of its dialogues. -/
theorem refused_or_held {act : Drive α} {talks : Talks α} {action : String} {allowed : List State}
    (refused : ∀ {s e}, s.tracer.permit s.tracee action allowed = .error e →
      act.runOn s = (.error e, s))
    (holds : ∀ {c : Cast}, c.May allowed → Holds act talks c) (c : Cast) (h : Host) :
    (∃ e, act.runOn (c.on h) = (.error e, c.on h)) ∨
      c.May allowed ∧ ∃ calls r d g, talks c calls r d ∧ act.runOn (c.on h) = (r, d.on g) ∧
        h.Came calls g := by
  cases permitted : c.tracer.permit c.tracee action allowed with
  | error e => exact .inl ⟨e, refused permitted⟩
  | ok _ =>
    have may : c.May allowed := .of_permit permitted
    obtain ⟨calls, r, d, g, talk, _, run, came⟩ := (holds may).run h
    exact .inr ⟨may, calls, r, d, g, talk, run, came⟩

theorem wait_holds {c : Cast} (may : c.May moving) :
    Holds wait (fun c => Waits c.tracer c.tracee) c :=
  ⟨Waits.does may, Waits.total c.tracer c.tracee⟩

end Drive

/-! ## after a wait -/

/-- the same process and the same tracer; a first stop that is not owed is not owed later -/
structure Cast.Keeps (c d : Cast) : Prop where
  tracer : d.tracer = c.tracer
  pid : d.tracee.pid = c.tracee.pid
  awaiting : c.tracee.awaiting = none → d.tracee.awaiting = none

theorem Cast.Keeps.refl (c : Cast) : c.Keeps c := ⟨rfl, rfl, id⟩

theorem Cast.Keeps.trans {b c d : Cast} (first : b.Keeps c) (second : c.Keeps d) : b.Keeps d :=
  ⟨second.tracer.trans first.tracer, second.pid.trans first.pid,
    fun none => second.awaiting (first.awaiting none)⟩

/-- what waiting and resuming may come to, whatever is waited for -/
def Error.isMishap : Error → Bool
  | os _ | noSuchProcess _ | internal _ | resume _ _ => true
  | _ => false

theorem Error.isMishap_ofRequest (pid : Pid) (e : Errno) : (ofRequest pid e).isMishap = true := by
  unfold ofRequest
  split <;> rfl

namespace Waits

variable {t : Tracer} {x : Tracee} {calls : List Syscall} {stop : Stop} {d : Cast}

theorem may_of_still (waits : Waits t x calls (.ok stop) d) (still : stop.isTerminal = false)
    (owned : t.isTracing x.pid = true) : d.May [.stopped] := by
  cases waits with
  | ended n w stop told final =>
    rw [still] at final
    cases final
  | opened _ _ _ _ _ | stopped _ _ _ _ _ _ => exact ⟨owned, List.mem_singleton_self _⟩

/-- A wait that gives a stop has taken a reply. -/
theorem waitsLeft (waits : Waits t x calls (.ok stop) d) {h : Host} (answered : h.Answers calls) :
    (h.after calls).waitsLeft < h.waitsLeft := by
  cases waits with
  | ended _ _ _ _ _ | stopped _ _ _ _ _ _ => exact Host.waitsLeft_heard answered
  | opened n w first owed told =>
    have spent := Host.waitsLeft_heard (Host.answers_append.mp answered).1
    rw [Host.after_append]
    exact Nat.lt_of_le_of_lt (Host.waitsLeft_after _ _) spent

theorem keeps (waits : Waits t x calls (.ok stop) d) (still : stop.isTerminal = false) :
    Cast.Keeps ⟨t, x⟩ d := by
  cases waits with
  | ended n w stop told final =>
    rw [still] at final
    cases final
  | opened _ _ _ _ _ => exact ⟨rfl, rfl, fun _ => rfl⟩
  | stopped _ _ _ _ _ _ => exact ⟨rfl, rfl, id⟩

theorem isMishap {e : Error} (waits : Waits t x calls (.error e) d) : e.isMishap = true := by
  cases waits with
  | failed _ _ _ _ | vanished _ | odd _ _ _ => rfl
  | missed _ _ _ _ _ _ e => exact Error.isMishap_ofRequest x.pid e

end Waits

/-! ## waiting past stops -/

/-- Waits, and as long as the stop is not `final` has it passed as `pass` says and waits again. -/
inductive Rounds (final : Stop → Bool) (pass : Talks Unit) : Talks Stop where
  | failed {t x calls e d} (waits : Waits t x calls (.error e) d) :
    Rounds final pass ⟨t, x⟩ calls (.error e) d
  | arrived {t x calls stop d} (waits : Waits t x calls (.ok stop) d) (last : final stop = true) :
    Rounds final pass ⟨t, x⟩ calls (.ok stop) d
  | stuck {t x calls stop d more e b} (waits : Waits t x calls (.ok stop) d)
      (onward : final stop = false) (passes : pass d more (.error e) b) :
    Rounds final pass ⟨t, x⟩ (calls ++ more) (.error e) b
  | turn {t x calls stop d more b later r a} (waits : Waits t x calls (.ok stop) d)
      (onward : final stop = false) (passes : pass d more (.ok ()) b)
      (rest : Rounds final pass b later r a) :
    Rounds final pass ⟨t, x⟩ (calls ++ (more ++ later)) r a

namespace Rounds

variable {final : Stop → Bool} {pass : Talks Unit} {c d : Cast} {calls : List Syscall}

/-- Rounds end with a wait that fails or gives a final stop, or with a passing that fails, of the
process and by the tracer that they began with. -/
theorem exists_last (still : ∀ stop, final stop = false → stop.isTerminal = false)
    (keeps : ∀ {c calls d}, pass c calls (.ok ()) d → c.Keeps d) {r : Except Error Stop}
    (rounds : Rounds final pass c calls r d) : ∃ b last, last <:+ calls ∧ c.Keeps b ∧
      (Waits b.tracer b.tracee last r d ∧ (∀ stop, r = .ok stop → final stop = true) ∨
        ∃ e, r = .error e ∧ pass b last (.error e) d) := by
  induction rounds with
  | failed waits => exact ⟨_, _, List.suffix_rfl, .refl _, .inl ⟨waits, nofun⟩⟩
  | arrived waits last =>
    refine ⟨_, _, List.suffix_rfl, .refl _, .inl ⟨waits, ?_⟩⟩
    rintro stop ⟨⟩
    exact last
  | stuck waits onward passes =>
    exact ⟨_, _, List.suffix_append _ _, waits.keeps (still _ onward), .inr ⟨_, rfl, passes⟩⟩
  | turn waits onward passes _ ih =>
    obtain ⟨b, last, suffix, kept, ends⟩ := ih
    refine ⟨b, last, ?_, ?_, ends⟩
    · exact (suffix.trans (List.suffix_append _ _)).trans (List.suffix_append _ _)
    · exact ((waits.keeps (still _ onward)).trans (keeps passes)).trans kept

end Rounds

namespace Drive

section loops

variable {final : Stop → Bool} {act : Stop → Drive Unit} {c d b a : Cast}
  {calls more later : List Syscall}

theorem waitUntil_failed (frugal : ∀ stop, Frugal (act stop)) {e : Error}
    (waits : Does wait c calls (.error e) d) : Does (waitUntil final act) c calls (.error e) d := by
  intro h answered
  obtain ⟨g, run, came⟩ := waits h answered
  exact ⟨g, by rw [waitUntil_eq frugal, run], came⟩

theorem waitUntil_arrived (frugal : ∀ stop, Frugal (act stop)) {stop : Stop}
    (waits : Does wait c calls (.ok stop) d) (last : final stop = true) :
    Does (waitUntil final act) c calls (.ok stop) d := by
  intro h answered
  obtain ⟨g, run, came⟩ := waits h answered
  refine ⟨g, ?_, came⟩
  rw [waitUntil_eq frugal, run]
  exact if_pos last

theorem waitUntil_passed (frugal : ∀ stop, Frugal (act stop)) {stop : Stop} {r : Except Error Stop}
    (waits : Does wait c calls (.ok stop) d) (onward : final stop = false)
    (goesOn : Does (do act stop; waitUntil final act) d more r b) :
    Does (waitUntil final act) c (calls ++ more) r b := by
  intro h answered
  obtain ⟨g, run, came⟩ := waits h (Host.answers_append.mp answered).1
  obtain ⟨k, rest, came'⟩ := goesOn g (came.answers answered)
  refine ⟨k, ?_, came.trans came'⟩
  rw [waitUntil_eq frugal, run]
  rw [runOn_bind] at rest
  simp only [onward]
  generalize (act stop).runOn (d.on g) = passed at rest ⊢
  obtain ⟨r, u⟩ := passed
  cases r <;> exact rest

end loops

/-- What is passed stands still, and moves when it was passed. -/
theorem waitUntil_holds {final : Stop → Bool} {act : Stop → Drive Unit} {pass : Talks Unit}
    (frugal : ∀ stop, Frugal (act stop))
    (still : ∀ stop, final stop = false → stop.isTerminal = false)
    (passes : ∀ stop c, c.May [.stopped] → Holds (act stop) pass c)
    (moves : ∀ c calls d, c.May [.stopped] → pass c calls (.ok ()) d → d.May moving) {c : Cast}
    (may : c.May moving) : Holds (waitUntil final act) (Rounds final pass) c := by
  refine ⟨fun {calls r d} rounds => ?_, fun h => ?_⟩
  · induction rounds with
    | failed waits => exact waitUntil_failed frugal (waits.does may)
    | arrived waits last => exact waitUntil_arrived frugal (waits.does may) last
    | stuck waits onward passed =>
      have stands := waits.may_of_still (still _ onward) may.owned
      exact waitUntil_passed frugal (waits.does may) onward
        ((passes _ _ stands).does passed).bind_error
    | turn waits onward passed rest ih =>
      have stands := waits.may_of_still (still _ onward) may.owned
      exact waitUntil_passed frugal (waits.does may) onward
        (((passes _ _ stands).does passed).bind (ih (moves _ _ _ stands passed)))
  · -- each turn takes a reply of waiting
    induction left : h.waitsLeft using Nat.strongRecOn generalizing h c with
    | _ m ih =>
      obtain ⟨calls, r, d, waits, answered⟩ := (wait_holds may).total h
      cases r with
      | error e => exact ⟨_, _, _, .failed waits, answered⟩
      | ok stop =>
        cases last : final stop with
        | true => exact ⟨_, _, _, .arrived waits last, answered⟩
        | false =>
          have stands := waits.may_of_still (still _ last) may.owned
          obtain ⟨more, r, b, passed, answered'⟩ := (passes stop d stands).total (h.after calls)
          cases r with
          | error e =>
            exact ⟨_, _, _, .stuck waits last passed, Host.answers_append.mpr ⟨answered, answered'⟩⟩
          | ok _ =>
            have spent := waits.waitsLeft answered
            have kept := Host.waitsLeft_after more (h.after calls)
            obtain ⟨later, r, a, rest, answered''⟩ :=
              ih _ (by omega) (moves _ _ _ stands passed) ((h.after calls).after more) rfl
            exact ⟨_, _, _, .turn waits last passed rest, Host.answers_append.mpr
              ⟨answered, Host.answers_append.mpr ⟨answered', answered''⟩⟩⟩

end Drive

/-! ## resuming and letting go -/

inductive Resumes : Talks Unit where
  | resumed {t x} : Resumes ⟨t, x⟩ [.cont x.pid none (.ok ())] (.ok ()) ⟨t, { x with state := .running }⟩
  | refused {t x} (e : Errno) :
    Resumes ⟨t, x⟩ [.cont x.pid none (.error e)] (.error (.resume x.pid e)) ⟨t, x⟩

/-- A killed tracee is let go without a call. -/
inductive LetsGo : Talks Unit where
  | gone {t x} : LetsGo ⟨t, x⟩ [] (.ok ()) ⟨t, { x with state := .running }⟩

theorem Resumes.may {c d : Cast} {calls : List Syscall} (may : c.May [.stopped])
    (resumes : Resumes c calls (.ok ()) d) : d.May moving := by
  cases resumes with
  | resumed => exact ⟨may.owned, by simp⟩

theorem Resumes.keeps {c d : Cast} {calls : List Syscall} (resumes : Resumes c calls (.ok ()) d) :
    c.Keeps d := by
  cases resumes with
  | resumed => exact ⟨rfl, rfl, id⟩

theorem Resumes.isMishap {c d : Cast} {calls : List Syscall} {e : Error}
    (resumes : Resumes c calls (.error e) d) : e.isMishap = true := by
  cases resumes with
  | refused _ => rfl

theorem LetsGo.keeps {c d : Cast} {calls : List Syscall} (lets : LetsGo c calls (.ok ()) d) :
    c.Keeps d := by
  cases lets with
  | gone => exact ⟨rfl, rfl, id⟩

/-- Rounds that come to a stop leave the tracee standing there, its tracer's own. -/
theorem Rounds.may_of_still {final : Stop → Bool} {pass : Talks Unit}
    (still : ∀ stop, final stop = false → stop.isTerminal = false)
    (keeps : ∀ {c calls d}, pass c calls (.ok ()) d → c.Keeps d)
    {c d : Cast} {calls : List Syscall} {stop : Stop}
    (rounds : Rounds final pass c calls (.ok stop) d) (stands : stop.isTerminal = false)
    (owned : c.tracer.isTracing c.tracee.pid = true) : d.May [.stopped] := by
  obtain ⟨b, last, _, kept, ⟨waits, _⟩ | ⟨e, came, _⟩⟩ := rounds.exists_last still keeps
  · exact waits.may_of_still stands (by rw [kept.tracer, kept.pid]; exact owned)
  · cases came

theorem Rounds.isMishap_of_resumes {final : Stop → Bool}
    (still : ∀ stop, final stop = false → stop.isTerminal = false) {c d : Cast}
    {calls : List Syscall} {e : Error} (rounds : Rounds final Resumes c calls (.error e) d) :
    e.isMishap = true := by
  obtain ⟨_, _, _, _, ⟨waits, _⟩ | ⟨_, same, resumes⟩⟩ := rounds.exists_last still Resumes.keeps
  · exact waits.isMishap
  · cases same
    exact resumes.isMishap

theorem LetsGo.may {c d : Cast} {calls : List Syscall} (may : c.May [.stopped])
    (lets : LetsGo c calls (.ok ()) d) : d.May moving := by
  cases lets with
  | gone => exact ⟨may.owned, by simp⟩

namespace Drive

theorem resume_holds {c : Cast} (may : c.May [.stopped]) : Holds resume Resumes c := by
  have permitted := Does.permit (c := c) "resume" may (live_of_stopped may.state)
  refine ⟨fun {calls r d} resumes => ?_, fun h => ?_⟩
  · cases resumes with
    | resumed =>
      exact .after_silence permitted (.after_silence (.pid _)
        (.then_silence (.cont _ _ _ _) (.setState .running _)))
    | refused e =>
      exact .after_silence permitted (.after_silence (.pid _)
        (.then_silence (.cont _ _ _ _) (.throw _ _)))
  · cases told : (Host.cont c.tracee.pid none h).1 with
    | ok _ => exact ⟨_, _, _, .resumed, congrArg _ told, trivial⟩
    | error e => exact ⟨_, _, _, .refused e, congrArg _ told, trivial⟩

theorem Holds.after_note {act : Drive α} {talks : Talks α} {c : Cast} (holds : Holds act talks c)
    (n : Note) : Holds (do Host.note n; act) talks c :=
  ⟨fun talk => .after_silence (.note n c) (holds.does talk), holds.total⟩

theorem skip_holds (stop : Stop) {c : Cast} (may : c.May [.stopped]) :
    Holds (skip stop) Resumes c := by
  have noted := (resume_holds may).after_note (.skipping c.tracee.pid stop)
  exact ⟨fun talk => .after_silence (.pid c) (noted.does talk), noted.total⟩

theorem passOn_holds (stop : Stop) {c : Cast} (may : c.May [.stopped]) :
    Holds (passOn stop) Resumes c := by
  have noted := (resume_holds may).after_note (.passing c.tracee.pid stop)
  exact ⟨fun talk => .after_silence (.pid c) (noted.does talk), noted.total⟩

theorem letGo_holds (stop : Stop) (c : Cast) : Holds (letGo stop) LetsGo c := by
  refine ⟨fun {calls r d} lets => ?_, fun h => ⟨_, _, _, .gone, trivial⟩⟩
  cases lets with
  | gone =>
    exact .after_silence (.pid _) (.after_silence (.note _ _) (.setState .running _))

end Drive

/-! ## killing -/

/-- A tracee that stands still is taken to run as soon as it is killed. -/
def Tracee.struck (x : Tracee) : Tracee := if x.isStopped then { x with state := .running } else x

@[simp] theorem Tracee.pid_struck (x : Tracee) : x.struck.pid = x.pid := by
  unfold struck
  split <;> rfl

@[simp] theorem Tracee.awaiting_struck (x : Tracee) : x.struck.awaiting = x.awaiting := by
  unfold struck
  split <;> rfl

/-- Striking a tracee changes neither who it is nor whose. -/
theorem Tracee.struck_keeps (t : Tracer) (x : Tracee) : Cast.Keeps ⟨t, x⟩ ⟨t, x.struck⟩ :=
  ⟨rfl, x.pid_struck, fun none => x.awaiting_struck.trans none⟩

inductive Kills : Talks Stop where
  | refused {t x} (e : Errno) :
    Kills ⟨t, x⟩ [.kill x.pid .kill (.error e)] (.error (.ofRequest x.pid e)) ⟨t, x⟩
  | sent {t x calls r d} (rounds : Rounds Stop.isTerminal LetsGo ⟨t, x.struck⟩ calls r d) :
    Kills ⟨t, x⟩ (.kill x.pid .kill (.ok ()) :: calls) r d

theorem Tracee.struck_may {t : Tracer} {x : Tracee} (may : t.May x [.attached, .stopped, .running]) :
    t.May x.struck moving := by
  unfold struck
  cases still : x.isStopped with
  | true => exact ⟨may.owned, by simp⟩
  | false =>
    have ne : x.state ≠ .stopped := by simpa [isStopped] using still
    have state := may.state
    simp only [List.mem_cons, List.not_mem_nil, or_false] at state
    refine ⟨may.owned, ?_⟩
    simp only [Bool.false_eq_true, if_false, List.mem_cons, List.not_mem_nil, or_false]
    exact state.imp_right fun either => either.resolve_left ne

namespace Drive

theorem reap_holds (pid : Pid) {c : Cast} (may : c.May moving) :
    Holds (reap pid) (Rounds Stop.isTerminal LetsGo) c := by
  have loop : Holds (waitUntil Stop.isTerminal letGo) (Rounds Stop.isTerminal LetsGo) c :=
    waitUntil_holds .letGo (fun _ onward => onward) (fun stop c _ => letGo_holds stop c)
      (fun _ _ _ => LetsGo.may) may
  refine ⟨fun {calls r d} rounds => ?_, loop.total⟩
  cases r with
  | ok stop => exact .then_silence (loop.does rounds) (.after_silence (.note _ d) (.pure stop d))
  | error e => exact (loop.does rounds).bind_error

theorem kill_holds {c : Cast} (may : c.May [.attached, .stopped, .running]) :
    Holds kill Kills c := by
  obtain ⟨t, x⟩ := c
  have reaps := reap_holds x.pid (c := ⟨t, x.struck⟩) (Tracee.struck_may may)
  have live : x.state.isTerminal = false :=
    (by decide : ∀ s ∈ [State.attached, .stopped, .running], s.isTerminal = false) _ may.state
  have permitted := Does.permit (c := ⟨t, x⟩) "kill" may live
  refine ⟨fun {calls r d} kills => ?_, fun h => ?_⟩
  · cases kills with
    | refused e =>
      exact .after_silence permitted (.after_silence (.pid _)
        (.then_silence (.kill _ _ _ _) (.throw _ _)))
    | sent rounds =>
      refine .after_silence permitted (.after_silence (.pid _)
        (.bind (.kill _ _ _ _) (.after_silence (.tracee _) ?_)))
      have reaped := reaps.does rounds
      unfold Tracee.struck at reaped
      cases still : x.isStopped with
      | true =>
        rw [if_pos still] at reaped
        exact .after_silence (.setState .running _) reaped
      | false =>
        rw [if_neg (by simp [still])] at reaped
        exact reaped
  · cases told : (Host.kill x.pid .kill h).1 with
    | error e => exact ⟨_, _, _, .refused e, congrArg _ told, trivial⟩
    | ok _ =>
      obtain ⟨calls, r, d, rounds, answered⟩ := reaps.total (Host.kill x.pid .kill h).2
      exact ⟨_, _, _, .sent rounds, congrArg _ told, answered⟩

end Drive

end ProcTrace
