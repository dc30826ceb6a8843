import ProcTrace.Drive.Parts
import ProcTrace.Proofs.Course.Inspect

/-!
# Driving goes by steps

Whatever the kernel answers, every action of `Drive` takes its scene along a course of
`Course.Step`s.

* `Drive.see_step`      a wait that was answered is one step;
* `Drive.Follows`       an action that goes by steps, from wherever it is begun;
* `Drive.wait_follows`  a wait is one step after as many interrupted ones as there were;
* `Drive.kill_follows`, `Drive.follow_follows`   the loops, turn by turn.
-/

namespace ProcTrace

open Course

namespace Host

/-! ## what a call leaves in the journal -/

variable (pid : Pid) (h : Host)

theorem journal_setOptions (options : Options) : (setOptions pid options h).2.journal =
    .call (.setOptions pid options (setOptions pid options h).1) :: h.journal := rfl

theorem journal_cont (signal : Option Signal) : (cont pid signal h).2.journal =
    .call (.cont pid signal (cont pid signal h).1) :: h.journal := rfl

theorem journal_kill (signal : Signal) : (kill pid signal h).2.journal =
    .call (.kill pid signal (kill pid signal h).1) :: h.journal := rfl

end Host

namespace Drive

/-! ## waiting -/

theorem runOn_stopOf_odd {status : WaitStatus} (odd : status.stop? = none) (s : Scene) :
    ∃ text, (stopOf status).runOn s = (.error (.internal text), s) := by
  cases status with
  | syscall | continued | stillAlive => exact ⟨_, rfl⟩
  | exited _ | signaled _ _ | stopped _ | event _ _ => cases odd

theorem runOn_stopOf_told {status : WaitStatus} {stop : Stop} (told : status.stop? = some stop)
    {s : Scene}
    (later : ∀ first, s.tracee.awaiting = some first → status ≠ .stopped first.signal) :
    (stopOf status).runOn s = (.ok stop, s) := by
  cases status with
  | stopped signal =>
    cases told
    rw [stopOf, runOn_plainStop]
    cases owed : s.tracee.awaiting with
    | none => rfl
    | some first => exact if_neg fun same => later first owed (congrArg _ same)
  | exited _ | signaled _ _ | event _ _ => cases told; rfl
  | syscall | continued | stillAlive => cases told

/-- The call is already in the journal when its answer is looked at.  At the first stop the options
are set, which may fail. -/
theorem see_first_step {past j : Journal} {t : Tracer} {x : Tracee} {h : Host}
    (may : t.May x moving) {w : Waited} {first : FirstStop} (owed : x.awaiting = some first)
    (seen : w.status = .stopped first.signal)
    (called : h.journal ++ past = .call (.waitpid x.pid (.ok w)) :: j) :
    Step ⟨t, x, j⟩ (((see w).runOn ⟨t, x, h⟩).2.course past) := by
  rw [runOn_see, seen, runOn_stopOf_first owed, runOn_setOptions]
  have opened := Step.opened (j := j) may w first owed seen
  rw [← called, Tracer.optionsSet] at opened
  cases free : t.options.isEmpty with
  | true =>
    rw [if_pos free] at opened
    simp only
    cases first <;> exact opened
  | false =>
    rw [if_neg (by simp [free])] at opened
    simp only
    have missed := Step.missed (j := j) may w first owed seen free
    rw [← called] at missed
    have written := Host.journal_setOptions x.pid
      ((h.noted (.statusSeen x.pid w)).noted (.settingOptions x.pid t.options)) t.options
    generalize Host.setOptions x.pid t.options
      ((h.noted (.statusSeen x.pid w)).noted (.settingOptions x.pid t.options)) = set at written ⊢
    obtain ⟨reply, host⟩ := set
    simp only at written
    cases reply with
    | error e =>
      show Step _ ⟨t, x, host.journal ++ past⟩
      rw [written]
      exact missed e
    | ok _ =>
      have settled : ((settle first.stop).runOn ⟨t, { x with awaiting := none }, host⟩).2 = ⟨t,
        { x with state := .stopped, awaiting := none, lastStop := some first.stop },
        host.noted (.stateSet x.pid x.state .stopped)⟩ := by cases first <;> rfl
      show Step _ (Scene.course past ((settle first.stop).runOn ⟨t, _, host⟩).2)
      rw [settled]
      show Step _ ⟨t, _, .note (.stateSet x.pid x.state .stopped) :: (host.journal ++ past)⟩
      rw [written]
      exact opened

theorem see_step {past j : Journal} {t : Tracer} {x : Tracee} {h : Host} (may : t.May x moving)
    (w : Waited) (called : h.journal ++ past = .call (.waitpid x.pid (.ok w)) :: j) :
    Step ⟨t, x, j⟩ (((see w).runOn ⟨t, x, h⟩).2.course past) := by
  cases told : w.status.stop? with
  | none =>
    obtain ⟨text, run⟩ := runOn_stopOf_odd told ⟨t, x, h.noted (.statusSeen x.pid w)⟩
    have step := Step.odd (j := j) may w told
    rw [← called] at step
    rw [runOn_see, run]
    exact step
  | some stop =>
    by_cases opens : ∃ first, x.awaiting = some first ∧ w.status = .stopped first.signal
    · obtain ⟨first, owed, seen⟩ := opens
      exact see_first_step may owed seen called
    · rw [not_exists] at opens
      have later (first : FirstStop) (owed : x.awaiting = some first) :
          w.status ≠ .stopped first.signal := fun seen => opens first ⟨owed, seen⟩
      rw [runOn_see, runOn_stopOf_told told later]
      simp only [runOn_settle]
      cases final : stop.isTerminal with
      | true =>
        have step := Step.ended (j := j) may w stop told final
        rw [← called] at step
        exact step
      | false =>
        have step := Step.stopped (j := j) may w stop told final later
        rw [← called] at step
        exact step

/-- The end of a wait that failed, when it was not interrupted. -/
theorem lose_step {past j : Journal} {t : Tracer} {x : Tracee} {h : Host} (may : t.May x moving)
    (e : Errno) (called : h.journal ++ past = .call (.waitpid x.pid (.error e)) :: j) :
    Step ⟨t, x, j⟩ (((lose e).runOn ⟨t, x, h⟩).2.course past) := by
  rw [runOn_lose]
  by_cases gone : e = .echild
  · subst gone
    have step := Step.vanished (j := j) may
    rw [← called] at step
    exact step
  · have step := Step.waitFailed (j := j) may e gone
    rw [← called] at step
    rw [if_neg gone]
    exact step

/-- an action that goes by steps, wherever it is begun -/
def Follows (act : Drive α) : Prop :=
  ∀ past s, Steps (s.course past) ((act.runOn s).2.course past)

theorem interrupted_steps {t : Tracer} {x : Tracee} (may : t.May x moving) (n : Nat)
    (j : Journal) : Steps ⟨t, x, j⟩
      ⟨t, x, List.replicate n (.call (.waitpid x.pid (.error .eintr))) ++ j⟩ := by
  induction n with
  | zero => exact .refl
  | succ n ih => exact ih.tail (.waitFailed may .eintr (by decide))

theorem wait_follows : Follows wait := by
  intro past s
  obtain ⟨t, x, h⟩ := s
  rw [runOn_wait]
  cases permitted : t.permit x "wait on" [.attached, .running] with
  | error e => exact .refl
  | ok _ =>
    have may : t.May x moving := .of_permit permitted
    obtain ⟨n, written⟩ := journal_waitpidWithin x.pid h.waitsLeft h
    simp only
    generalize waitpidWithin x.pid h.waitsLeft h = told at written ⊢
    obtain ⟨reply, g⟩ := told
    have called : g.journal ++ past = .call (.waitpid x.pid reply) ::
        (List.replicate n (.call (.waitpid x.pid (.error .eintr))) ++ (h.journal ++ past)) := by
      rw [written, List.cons_append, List.append_assoc]
    have interrupted := interrupted_steps may n (h.journal ++ past)
    cases reply with
    | ok w => exact interrupted.tail (see_step may w called)
    | error e => exact interrupted.tail (lose_step may e called)

theorem see_stopped {w : Waited} {s u : Scene} {stop : Stop} (run : (see w).runOn s = (.ok stop, u))
    (still : stop.isTerminal = false) : u.tracee.state = .stopped := by
  rw [runOn_see] at run
  generalize (stopOf w.status).runOn
    { s with host := s.host.noted (.statusSeen s.tracee.pid w) } = told at run
  obtain ⟨r, v⟩ := told
  cases r with
  | error e => cases run
  | ok stop =>
    cases run
    rw [runOn_settle, if_neg (by simp [still])]
    rfl

/-- A tracee that was seen to stop stands still, and is still its tracer's own. -/
theorem wait_stopped {s u : Scene} {stop : Stop} (run : wait.runOn s = (.ok stop, u))
    (still : stop.isTerminal = false) : u.tracer.May u.tracee [.stopped] := by
  have steps := wait_follows [] s
  rw [run] at steps
  rw [runOn_wait] at run
  cases permitted : s.tracer.permit s.tracee "wait on" [.attached, .running] with
  | error e =>
    rw [permitted] at run
    cases run
  | ok _ =>
    rw [permitted] at run
    have stopped : u.tracee.state = .stopped := by
      simp only at run
      cases told : (waitpidWithin s.tracee.pid s.host.waitsLeft s.host).1 with
      | error e =>
        rw [told] at run
        exact absurd run (lose_fails _ _ _ _)
      | ok w =>
        rw [told] at run
        exact see_stopped run still
    have owned : s.tracer.isTracing s.tracee.pid = true := (Tracer.May.of_permit permitted).owned
    exact ⟨steps.owned owned (by rw [Scene.course, stopped]; rfl), by simp [stopped]⟩

/-! ## resuming, looking, remarking -/

theorem resume_follows : Follows resume := by
  intro past s
  obtain ⟨t, x, h⟩ := s
  rw [runOn_resume]
  cases permitted : t.permit x "resume" [.stopped] with
  | error e => exact .refl
  | ok _ =>
    have may : t.May x [.stopped] := .of_permit permitted
    have written := Host.journal_cont x.pid h none
    simp only
    generalize Host.cont x.pid none h = told at written ⊢
    obtain ⟨reply, g⟩ := told
    have called : g.journal ++ past = .call (.cont x.pid none reply) :: (h.journal ++ past) := by
      rw [written]
      rfl
    cases reply with
    | ok _ =>
      have step := Step.resumed (j := h.journal ++ past) may
      rw [← called] at step
      exact .single step
    | error e =>
      have step := Step.resumeFailed (j := h.journal ++ past) may e
      rw [← called] at step
      exact .single step

/-- A remark goes by a step, whatever it is followed by. -/
theorem Follows.remark {n : Note} (aside : n.about = none) {act : Drive α} (rest : Follows act) :
    Follows (do Host.note n; act) := fun past s =>
  .head (.look _ (.remark n aside)) (rest past { s with host := s.host.noted n })

theorem Follows.bind {x : Drive α} {f : α → Drive β} (hx : Follows x) (hf : ∀ a, Follows (f a)) :
    Follows (x >>= f) := by
  intro past s
  have first := hx past s
  rw [runOn_bind]
  rcases run : x.runOn s with ⟨r, u⟩
  rw [run] at first
  cases r with
  | ok a => exact first.trans (hf a past u)
  | error e => exact first

theorem skip_follows (stop : Stop) : Follows (skip stop) := fun past s =>
  Follows.remark (n := .skipping s.tracee.pid stop) rfl resume_follows past s

theorem passOn_follows (stop : Stop) : Follows (passOn stop) := fun past s =>
  Follows.remark (n := .passing s.tracee.pid stop) rfl resume_follows past s

/-! ## loops -/

/-- What is done for a stop that is passed over need go by steps only where the tracee stands
still. -/
theorem waitUntil_follows {final : Stop → Bool} {pass : Stop → Drive Unit}
    (passing : ∀ stop, final stop = false → stop.isTerminal = false)
    (passes : ∀ stop past s, s.tracer.May s.tracee [.stopped] →
      Steps (s.course past) (((pass stop).runOn s).2.course past)) :
    Follows (waitUntil final pass) := by
  have within (n : Nat) : Follows (waitUntilWithin final pass n) := by
    induction n with
    | zero => exact wait_follows
    | succ n ih =>
      intro past s
      have turn := wait_follows past s
      rw [waitUntilWithin_succ]
      cases run : wait.runOn s with
      | mk r u =>
        rw [run] at turn
        cases r with
        | error e => exact turn
        | ok stop =>
          cases done : final stop with
          | true => simpa [done] using turn
          | false =>
            have passed := passes stop past u (wait_stopped run (passing stop done))
            simp only [done]
            cases run' : (pass stop).runOn u with
            | mk r v =>
              rw [run'] at passed
              cases r with
              | error e => exact turn.trans passed
              | ok _ => exact (turn.trans passed).trans (ih past v)
  exact fun past s => within s.host.waitsLeft past s

theorem letGo_steps (stop : Stop) (past : Journal) (s : Scene)
    (may : s.tracer.May s.tracee [.stopped]) :
    Steps (s.course past) (((letGo stop).runOn s).2.course past) := .single (.letGo may stop)

theorem waitForExec_follows : Follows waitForExec := by
  intro past s
  have loop : Follows (waitUntil execOver skip) :=
    waitUntil_follows (fun stop onward => by simp [execOver] at onward; exact onward.2)
      fun stop past s _ => skip_follows stop past s
  have turns := loop past s
  rw [runOn_waitForExec]
  split
  · rcases run : (waitUntil execOver skip).runOn s with ⟨r, u⟩
    rw [run] at turns
    cases r with
    | error e => exact turns
    | ok stop => cases stop <;> exact turns
  · exact .refl

theorem waitForEnd_follows : Follows waitForEnd :=
  waitUntil_follows (fun _ onward => onward) fun stop past s _ => passOn_follows stop past s

theorem reap_follows (pid : Pid) : Follows (reap pid) :=
  .bind (waitUntil_follows (fun _ onward => onward) letGo_steps) fun _ =>
    .remark rfl fun _ _ => .refl

theorem kill_follows : Follows kill := by
  intro past s
  obtain ⟨t, x, h⟩ := s
  rw [runOn_kill]
  cases permitted : t.permit x "kill" [.attached, .stopped, .running] with
  | error e => exact .refl
  | ok _ =>
    have may : t.May x (.stopped :: moving) := (Tracer.May.of_permit permitted).mono (by simp)
    have written := Host.journal_kill x.pid h .kill
    simp only
    generalize Host.kill x.pid .kill h = told at written ⊢
    obtain ⟨reply, g⟩ := told
    have called : g.journal ++ past = .call (.kill x.pid .kill reply) :: (h.journal ++ past) := by
      rw [written]
      rfl
    cases reply with
    | error e =>
      have step := Step.killFailed (j := h.journal ++ past) may e
      rw [← called] at step
      exact .single step
    | ok _ =>
      cases still : x.isStopped with
      | true =>
        have stopped : x.state = .stopped := by simpa [Tracee.isStopped] using still
        have step := Step.killedStill (j := h.journal ++ past) ⟨may.owned, by simp [stopped]⟩
        rw [← called] at step
        exact .head step (reap_follows x.pid past
          ⟨t, { x with state := .running }, g.noted (.stateSet x.pid x.state .running)⟩)
      | false =>
        have moves : x.state ∈ moving := by
          refine (List.mem_cons.mp may.state).resolve_left fun stopped => ?_
          simp [Tracee.isStopped, stopped] at still
        have step := Step.killed (j := h.journal ++ past) ⟨may.owned, moves⟩
        rw [← called] at step
        exact .head step (reap_follows x.pid past ⟨t, x, g⟩)

/-! ## a traced program -/

theorem inspect_follows {look : Tracee → Attempt α} (looks : ∀ x, Inspect.Looks x (look x)) :
    Follows (inspect look) := by
  intro past s
  obtain ⟨es, written, peeks⟩ := looks s.tracee s.host
  have steps := Steps.looks (t := s.tracer) peeks (s.host.journal ++ past)
  rw [← List.append_assoc, ← written] at steps
  exact steps

theorem runOn_tryCatch (x : Drive α) (f : Error → Drive α) (s : Scene) :
    (tryCatch x f).runOn s = match x.runOn s with
      | (.ok a, u) => (.ok a, u)
      | (.error e, u) => (f e).runOn u := by
  show ExceptT.tryCatch x f s = _
  simp only [runOn, ExceptT.tryCatch, ExceptT.mk, bind, StateT.bind]
  rcases x s with ⟨r, u⟩
  cases r <;> rfl

theorem runOn_orKill (act : Drive α) (s : Scene) :
    (orKill act).runOn s = match act.runOn s with
      | (.ok a, u) => (.ok a, u)
      | (.error e, u) => match kill.runOn u with
        | (.ok _, v) => (.error e, v)
        | (.error failure, v) =>
          (.error e, { v with host := v.host.noted (.killFailed v.tracee.pid failure) }) := by
  show (tryCatch act _).runOn s = _
  rw [runOn_tryCatch]
  rcases act.runOn s with ⟨r, u⟩
  cases r with
  | ok a => rfl
  | error e =>
    show ((tryCatch _ _ >>= _ : Drive α)).runOn u = _
    rw [runOn_bind, runOn_tryCatch, runOn_bind]
    simp only
    rcases kill.runOn u with ⟨r, v⟩
    cases r <;> rfl

theorem orKill_follows {act : Drive α} (follows : Follows act) : Follows (orKill act) := by
  intro past s
  have first := follows past s
  rw [runOn_orKill]
  rcases run : act.runOn s with ⟨r, u⟩
  rw [run] at first
  cases r with
  | ok a => exact first
  | error e =>
    have killing := kill_follows past u
    simp only
    rcases run : kill.runOn u with ⟨r, v⟩
    rw [run] at killing
    cases r with
    | ok _ => exact first.trans killing
    | error failure =>
      exact (first.trans killing).tail (.look _ (.remark (.killFailed v.tracee.pid failure) rfl))

theorem follow_follows (layout : Layout) : Follows (follow layout) :=
  .bind waitForExec_follows fun _ => .bind (fun _ _ => .refl) fun _ =>
    .bind (orKill_follows (inspect_follows fun _ => .register _)) fun _ =>
      .remark rfl (.bind resume_follows fun _ => .bind waitForEnd_follows fun _ => fun _ _ => .refl)

end Drive

end ProcTrace
