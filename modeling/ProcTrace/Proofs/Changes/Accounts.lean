import ProcTrace.Proofs.Course.Drive
import ProcTrace.Proofs.Ledger

/-!
# What sets a process going

A process that stands still is set going by a resumption, or let go after it was killed.  The
journal tells which.

* `Entry.setsGoing`        entries that tell of a process that runs now, or was resumed;
* `Journal.Accounts`       a journal that accounts for whatever sets a process going: that was
                           resumed right before, once for each change, or killed before;
* `Drive.Keeps`            an action that keeps a property of the tracee and the journal;
* `Drive.wait_rests`       a wait sets nobody going;
* `Drive.kill_accounted`, `Drive.follow_accounted`   what the other actions write accounts for all
                           that they set going.
-/

namespace ProcTrace

open Course

/-! ## what sets a process going -/

/-- the entry tells of a process that runs now, or was resumed -/
def Entry.setsGoing : Entry → Bool
  | .note (.stateSet _ _ .running) | .call (.cont _ _ (.ok _)) => true
  | _ => false

theorem Entry.setsGoing_of_about {e : Entry} (aside : e.about = none) : e.setsGoing = false := by
  cases e with
  | call c =>
    cases c with
    | cont => cases aside
    | _ => rfl
  | note n =>
    cases n with
    | stateSet => cases aside
    | _ => rfl

theorem Entry.Looks.setsGoing {e : Entry} {x : Tracee} (looks : e.Looks x) :
    e.setsGoing = false := by
  cases looks with
  | remark n aside => exact Entry.setsGoing_of_about aside
  | peekData _ _ _ | peekUser _ _ _ => rfl

theorem Birth.setsGoing {pid : Pid} {first : FirstStop} {es : Journal}
    (birth : Birth pid first es) : ∀ e ∈ es, e.setsGoing = false := by
  cases birth <;> simp [Entry.setsGoing]

/-- Whatever sets a process going that stands still is accounted for.  A suffix of a journal is what
had been written at some time. -/
structure Journal.Accounts (kills : Bool) (j : Journal) : Prop where
  /-- It was resumed right before; or, as far as `kills` allows that, killed some time before. -/
  cause {pid : Pid} {early : Journal} (now : .note (.stateSet pid .stopped .running) :: early <:+ j) :
    early.head? = some (.call (.cont pid none (.ok ()))) ∨
      kills = true ∧ .call (.kill pid .kill (.ok ())) ∈ early
  /-- Where it was resumed, this is the very next thing. -/
  effect {pid : Pid} {early : Journal} (now : .call (.cont pid none (.ok ())) :: early <:+ j) :
    .note (.stateSet pid .stopped .running) :: .call (.cont pid none (.ok ())) :: early <:+ j

namespace Journal.Accounts

variable {kills : Bool} {j : Journal}

theorem nil : Accounts kills [] where
  cause now := by simp at now
  effect now := by simp at now

/-- What sets nobody going needs no account. -/
theorem append (es : Journal) (rests : ∀ e ∈ es, e.setsGoing = false)
    (accounts : Accounts kills j) : Accounts kills (es ++ j) := by
  induction es with
  | nil => exact accounts
  | cons e es ih =>
    obtain ⟨first, rest⟩ := List.forall_mem_cons.mp rests
    refine ⟨fun {pid early} now => ?_, fun {pid early} now => ?_⟩
    · rcases List.suffix_cons_iff.mp now with same | before
      · cases same
        cases first
      · exact (ih rest).cause before
    · rcases List.suffix_cons_iff.mp now with same | before
      · cases same
        cases first
      · exact ((ih rest).effect before).trans (List.suffix_cons _ _)

theorem of_rests {es : Journal} (rests : ∀ e ∈ es, e.setsGoing = false) : Accounts kills es := by
  rw [← List.append_nil es]
  exact nil.append es rests

/-- The change comes right after the resumption. -/
theorem resumed (accounts : Accounts kills j) (pid : Pid) :
    Accounts kills (.note (.stateSet pid .stopped .running) :: .call (.cont pid none (.ok ())) :: j) := by
  refine ⟨fun {q early} now => ?_, fun {q early} now => ?_⟩
  · rcases List.suffix_cons_iff.mp now with same | before
    · cases same
      exact .inl rfl
    · rcases List.suffix_cons_iff.mp before with same | before
      · cases same
      · exact accounts.cause before
  · rcases List.suffix_cons_iff.mp now with same | before
    · cases same
    · rcases List.suffix_cons_iff.mp before with same | before
      · cases same
        exact List.suffix_rfl
      · exact (accounts.effect before).trans ((List.suffix_cons _ _).trans (List.suffix_cons _ _))

/-- The change comes some time after the kill. -/
theorem killed (accounts : Accounts true j) {pid : Pid}
    (sent : .call (.kill pid .kill (.ok ())) ∈ j) (old : State) :
    Accounts true (.note (.stateSet pid old .running) :: j) := by
  refine ⟨fun {q early} now => ?_, fun {q early} now => ?_⟩
  · rcases List.suffix_cons_iff.mp now with same | before
    · cases same
      exact .inr ⟨rfl, sent⟩
    · exact accounts.cause before
  · rcases List.suffix_cons_iff.mp now with same | before
    · cases same
    · exact (accounts.effect before).trans (List.suffix_cons _ _)

end Journal.Accounts

namespace Course

variable {c d : Course}

/-- No step from a state in which a process moves sets it going. -/
theorem Step.rests (step : Step c d) (moves : c.tracee.state ∈ moving) :
    ∃ es, d.journal = es ++ c.journal ∧ ∀ e ∈ es, e.setsGoing = false := by
  have still {x : Tracee} (may : x.state ∈ [State.stopped]) (moves : x.state ∈ moving) : False :=
    ne_stopped_of_moving moves (List.mem_singleton.mp may)
  cases step with
  | look e looks => exact ⟨[e], rfl, by simpa using looks.setsGoing⟩
  | resumed may | killedStill may | letGo may _ => exact (still may.state moves).elim
  | waitFailed _ _ _ | resumeFailed _ _ | killed _ | killFailed _ _ =>
    exact ⟨[_], rfl, by simp [Entry.setsGoing]⟩
  | odd _ _ _ => exact ⟨[_, _], rfl, by simp [Entry.setsGoing]⟩
  | missed _ _ _ _ _ _ _ | vanished _ => exact ⟨[_, _, _, _], rfl, by simp [Entry.setsGoing]⟩
  | stopped _ _ _ _ _ _ => exact ⟨[_, _, _], rfl, by simp [Entry.setsGoing]⟩
  | @ended t x j _ w stop _ _ =>
    refine ⟨[_, _, _, _], rfl, ?_⟩
    have ends : Entry.setsGoing (.note (.stateSet x.pid x.state x.endState)) = false := by
      unfold Tracee.endState
      split <;> rfl
    simpa [Entry.setsGoing] using ends
  | @opened t x j _ w _ _ _ =>
    refine ⟨.note (.stateSet x.pid x.state .stopped) :: t.optionsSet x.pid ++
      [.note (.statusSeen x.pid w), .call (.waitpid x.pid (.ok w))], by simp, ?_⟩
    unfold Tracer.optionsSet
    split <;> simp [Entry.setsGoing]

end Course

/-! ## driving -/

namespace Drive

/-- The action keeps a property of the tracee and the journal. -/
def Keeps (P : Tracee → Journal → Prop) (act : Drive α) : Prop :=
  ∀ s, P s.tracee s.host.journal → P (act.runOn s).2.tracee (act.runOn s).2.host.journal

/-- A property that is kept where nobody is set going, however the tracee changes. -/
def Patient (P : Tracee → Journal → Prop) : Prop :=
  ∀ {x y : Tracee} {j : Journal} (es : Journal), y.pid = x.pid →
    (∀ e ∈ es, e.setsGoing = false) → P x j → P y (es ++ j)

/-- A wait sets nobody going. -/
theorem wait_rests (s : Scene) : ∃ es, (wait.runOn s).2.host.journal = es ++ s.host.journal ∧
    ∀ e ∈ es, e.setsGoing = false := by
  obtain ⟨t, x, h⟩ := s
  rw [runOn_wait]
  cases permitted : t.permit x "wait on" [.attached, .running] with
  | error e => exact ⟨[], rfl, by simp⟩
  | ok _ =>
    have may : t.May x moving := .of_permit permitted
    obtain ⟨n, written⟩ := journal_waitpidWithin x.pid h.waitsLeft h
    simp only
    generalize waitpidWithin x.pid h.waitsLeft h = told at written ⊢
    obtain ⟨reply, g⟩ := told
    let interrupted : Journal := List.replicate n (.call (.waitpid x.pid (.error .eintr)))
    have called : g.journal ++ [] = .call (.waitpid x.pid reply) :: (interrupted ++ h.journal) := by
      rw [List.append_nil]
      exact written
    have rests : ∀ e ∈ interrupted, e.setsGoing = false := by
      intro e mem
      rw [List.eq_of_mem_replicate mem]
      rfl
    -- the last of the calls, with what follows it, is one step
    have last {u : Scene} (step : Course.Step ⟨t, x, interrupted ++ h.journal⟩ (u.course [])) :
        ∃ es, u.host.journal = es ++ h.journal ∧ ∀ e ∈ es, e.setsGoing = false := by
      obtain ⟨es, grown, rest⟩ := step.rests may.state
      refine ⟨es ++ interrupted, ?_, List.forall_mem_append.mpr ⟨rest, rests⟩⟩
      rw [← List.append_nil u.host.journal, List.append_assoc]
      exact grown
    cases reply with
    | ok w => exact last (see_step may w called)
    | error e => exact last (lose_step may e called)

namespace Keeps

variable {P : Tracee → Journal → Prop}

theorem bind {x : Drive α} {f : α → Drive β} (hx : Keeps P x) (hf : ∀ a, Keeps P (f a)) :
    Keeps P (x >>= f) := by
  intro s before
  have first := hx s before
  rw [runOn_bind]
  rcases run : x.runOn s with ⟨r, u⟩
  rw [run] at first
  cases r with
  | ok a => exact hf a u first
  | error e => exact first

theorem remark (patient : Patient P) {n : Note} (aside : n.about = none) {act : Drive α}
    (rest : Keeps P act) : Keeps P (do Host.note n; act) := fun s before =>
  rest { s with host := s.host.noted n } (patient [.note n] rfl
    (by simpa using Entry.setsGoing_of_about (e := .note n) aside) before)

theorem wait (patient : Patient P) : Keeps P wait := by
  intro s before
  obtain ⟨es, written, rests⟩ := wait_rests s
  rw [written]
  exact patient es (Steps.pid (wait_follows [] s)) rests before

theorem waitUntil (patient : Patient P) {final : Stop → Bool} {pass : Stop → Drive Unit}
    (passes : ∀ stop, Keeps P (pass stop)) : Keeps P (waitUntil final pass) := by
  have within (n : Nat) : Keeps P (waitUntilWithin final pass n) := by
    induction n with
    | zero => exact wait patient
    | succ n ih =>
      refine bind (wait patient) fun stop => ?_
      by_cases done : final stop = true
      · simp only [done]
        exact fun _ => id
      · simp only [done]
        exact bind (passes stop) fun _ => ih
  exact fun s => within s.host.waitsLeft s

end Keeps

/-- the journal accounts for all that was set going -/
def Accounted (kills : Bool) (_ : Tracee) (j : Journal) : Prop := j.Accounts kills

/-- It does, and the tracee is known to have been killed. -/
def Struck (x : Tracee) (j : Journal) : Prop :=
  j.Accounts true ∧ .call (.kill x.pid .kill (.ok ())) ∈ j

theorem accounted_patient (kills : Bool) : Patient (Accounted kills) :=
  fun es _ rests before => before.append es rests

theorem struck_patient : Patient Struck := by
  intro x y j es same rests before
  refine ⟨before.1.append es rests, ?_⟩
  rw [same]
  exact List.mem_append_right es before.2

theorem resume_accounted (kills : Bool) : Keeps (Accounted kills) resume := by
  rintro ⟨t, x, h⟩ before
  rw [runOn_resume]
  cases permitted : t.permit x "resume" [.stopped] with
  | error e => exact before
  | ok _ =>
    have still : x.state = .stopped := List.mem_singleton.mp (Tracer.May.of_permit permitted).state
    have written := Host.journal_cont x.pid h none
    simp only
    generalize Host.cont x.pid none h = told at written ⊢
    obtain ⟨reply, g⟩ := told
    show Journal.Accounts kills _
    cases reply with
    | error e =>
      rw [written]
      exact before.append [_] (by simp [Entry.setsGoing])
    | ok _ =>
      show Journal.Accounts kills (.note (.stateSet x.pid x.state .running) :: g.journal)
      rw [written, still]
      exact before.resumed x.pid

theorem skip_accounted (kills : Bool) (stop : Stop) : Keeps (Accounted kills) (skip stop) :=
  fun s => Keeps.remark (accounted_patient kills) (n := .skipping s.tracee.pid stop) rfl
    (resume_accounted kills) s

theorem passOn_accounted (kills : Bool) (stop : Stop) : Keeps (Accounted kills) (passOn stop) :=
  fun s => Keeps.remark (accounted_patient kills) (n := .passing s.tracee.pid stop) rfl
    (resume_accounted kills) s

theorem waitForExec_accounted (kills : Bool) : Keeps (Accounted kills) waitForExec := by
  intro s before
  have loop : Keeps (Accounted kills) (waitUntil execOver skip) :=
    .waitUntil (accounted_patient kills) (skip_accounted kills)
  have loop := loop s before
  rw [runOn_waitForExec]
  split
  · rcases run : (waitUntil execOver skip).runOn s with ⟨r, u⟩
    rw [run] at loop
    cases r with
    | error e => exact loop
    | ok stop => cases stop <;> exact loop
  · exact before

/-- What is let go has been killed before. -/
theorem letGo_struck (stop : Stop) : Keeps Struck (letGo stop) := by
  rintro ⟨t, x, h⟩ before
  have noted : Struck x (.note (.letGo x.pid stop) :: h.journal) :=
    struck_patient [_] rfl (by simp [Entry.setsGoing]) before
  exact ⟨noted.1.killed noted.2 x.state, List.mem_cons_of_mem _ noted.2⟩

theorem reap_struck (pid : Pid) : Keeps Struck (reap pid) :=
  .bind (.waitUntil struck_patient letGo_struck) fun stop =>
    have told : Keeps Struck (pure stop) := fun _ => id
    told.remark struck_patient rfl

theorem kill_accounted : Keeps (Accounted true) kill := by
  rintro ⟨t, x, h⟩ before
  rw [runOn_kill]
  cases t.permit x "kill" [.attached, .stopped, .running] with
  | error e => exact before
  | ok _ =>
    have written := Host.journal_kill x.pid h .kill
    simp only
    generalize Host.kill x.pid .kill h = told at written ⊢
    obtain ⟨reply, g⟩ := told
    have called : Journal.Accounts true g.journal := by
      rw [written]
      exact before.append [_] (by simp [Entry.setsGoing])
    cases reply with
    | error e => exact called
    | ok _ =>
      have sent : .call (.kill x.pid .kill (.ok ())) ∈ g.journal := by
        rw [written]
        exact List.mem_cons_self
      cases x.isStopped with
      | true => exact (reap_struck x.pid ⟨t, { x with state := .running }, _⟩
          ⟨called.killed sent x.state, List.mem_cons_of_mem _ sent⟩).1
      | false => exact (reap_struck x.pid ⟨t, x, g⟩ ⟨called, sent⟩).1

theorem orKill_accounted {act : Drive α} (keeps : Keeps (Accounted true) act) :
    Keeps (Accounted true) (orKill act) := by
  intro s before
  have first := keeps s before
  rw [runOn_orKill]
  rcases run : act.runOn s with ⟨r, u⟩
  rw [run] at first
  cases r with
  | ok a => exact first
  | error e =>
    have killing := kill_accounted u first
    simp only
    rcases run : kill.runOn u with ⟨r, v⟩
    rw [run] at killing
    cases r with
    | ok _ => exact killing
    | error failure =>
      exact Journal.Accounts.append [_] (by simp [Entry.setsGoing]) killing

theorem inspect_accounted (kills : Bool) {look : Tracee → Attempt α}
    (looks : ∀ x, Inspect.Looks x (look x)) : Keeps (Accounted kills) (inspect look) := by
  intro s before
  obtain ⟨es, written, peeks⟩ := looks s.tracee s.host
  show Journal.Accounts kills ((look s.tracee).runOn s.host).2.journal
  rw [written]
  exact before.append es fun e mem => (peeks e mem).setsGoing

theorem follow_accounted (layout : Layout) : Keeps (Accounted true) (follow layout) :=
  .bind (waitForExec_accounted true) fun _ => .bind (fun _ => id) fun _ =>
    .bind (orKill_accounted (inspect_accounted true fun _ => .register _)) fun _ =>
      .remark (accounted_patient true) rfl (.bind (resume_accounted true) fun _ =>
        .bind (.waitUntil (accounted_patient true) (passOn_accounted true)) fun _ => fun _ => id)

end Drive

end ProcTrace
