import ProcTrace.Drive

/-!
# The loops of driving

`Drive.waitpid` and `Drive.waitUntil` go round a bounded number of times.  The bound is never met:
each turn takes a reply of waiting, and with none left waiting fails.  So both obey the equations
of the loops without a bound.

* `Drive.waitpid_eq`     an interrupted wait is taken up again;
* `Drive.waitUntil_eq`   a stop that is not final is passed, and waiting goes on;
* `Drive.Frugal`, `Drive.Spends`   actions that add no replies of waiting, and that take some.
-/

namespace ProcTrace

namespace Drive

/-! ## interrupted waits -/

theorem waitpidWithin_succ (pid : Pid) (n : Nat) (h : Host) :
    waitpidWithin pid (n + 1) h =
      if (Host.waitpid pid h).1 = .error .eintr then waitpidWithin pid n (Host.waitpid pid h).2
      else Host.waitpid pid h := by
  show (if (Host.waitpid pid h).1 = .error .eintr then waitpidWithin pid n
      else return (Host.waitpid pid h).1 : HostM _) (Host.waitpid pid h).2 = _
  split <;> rfl

theorem waitpidWithin_of_none_left {pid : Pid} {h : Host} (none : h.waitsLeft = 0) (n : Nat) :
    waitpidWithin pid n h = Host.waitpid pid h := by
  cases n with
  | zero => rfl
  | succ n =>
    rw [waitpidWithin_succ, Host.waitpid_of_none_left none]
    simp

theorem waitpidWithin_eq {pid : Pid} {n m : Nat} {h : Host} (hn : h.waitsLeft ≤ n)
    (hm : h.waitsLeft ≤ m) : waitpidWithin pid n h = waitpidWithin pid m h := by
  induction n generalizing m h with
  | zero =>
    have none : h.waitsLeft = 0 := Nat.le_zero.mp hn
    rw [waitpidWithin_of_none_left none, waitpidWithin_of_none_left none]
  | succ n ih =>
    cases m with
    | zero =>
      have none : h.waitsLeft = 0 := Nat.le_zero.mp hm
      rw [waitpidWithin_of_none_left none, waitpidWithin_of_none_left none]
    | succ m =>
      have rest := Host.waitsLeft_waitpid pid h
      rw [waitpidWithin_succ, waitpidWithin_succ]
      split
      · exact ih (by omega) (by omega)
      · rfl

theorem waitsLeft_waitpidWithin (pid : Pid) (n : Nat) (h : Host) :
    (waitpidWithin pid n h).2.waitsLeft ≤ h.waitsLeft - 1 := by
  induction n generalizing h with
  | zero => exact Nat.le_of_eq (Host.waitsLeft_waitpid pid h)
  | succ n ih =>
    have rest := Host.waitsLeft_waitpid pid h
    rw [waitpidWithin_succ]
    split
    · have := ih (Host.waitpid pid h).2
      omega
    · exact Nat.le_of_eq rest

theorem runOn_waitpid (pid : Pid) (s : Scene) :
    (waitpid pid).runOn s = (.ok (waitpidWithin pid s.host.waitsLeft s.host).1,
      { s with host := (waitpidWithin pid s.host.waitsLeft s.host).2 }) := rfl

theorem waitpid_eq (pid : Pid) (s : Scene) :
    (waitpid pid).runOn s =
      if (Host.waitpid pid s.host).1 = .error .eintr then
        (waitpid pid).runOn { s with host := (Host.waitpid pid s.host).2 }
      else (.ok (Host.waitpid pid s.host).1, { s with host := (Host.waitpid pid s.host).2 }) := by
  have longer : waitpidWithin pid s.host.waitsLeft s.host =
      waitpidWithin pid (s.host.waitsLeft + 1) s.host :=
    waitpidWithin_eq (Nat.le_refl _) (Nat.le_succ _)
  rw [runOn_waitpid, runOn_waitpid, longer, waitpidWithin_succ]
  split
  · have rest := Host.waitsLeft_waitpid pid s.host
    rw [waitpidWithin_eq (m := (Host.waitpid pid s.host).2.waitsLeft) (by omega) (Nat.le_refl _)]
  · rfl

/-! ## replies taken -/

/-- the action leaves no more replies of waiting than it finds -/
def Frugal (act : Drive α) : Prop := ∀ s, (act.runOn s).2.host.waitsLeft ≤ s.host.waitsLeft

/-- where the action succeeds, it leaves fewer replies of waiting than it finds -/
def Spends (act : Drive α) : Prop :=
  ∀ {s a t}, act.runOn s = (.ok a, t) → t.host.waitsLeft < s.host.waitsLeft

namespace Frugal

theorem pure (a : α) : Frugal (pure a) := fun _ => Nat.le_refl _

theorem throw (e : Error) : Frugal (throw e : Drive α) := fun _ => Nat.le_refl _

theorem ask (f : Scene → α) : Frugal (ask f) := fun _ => Nat.le_refl _

theorem permit (action : String) (allowed : List State) : Frugal (permit action allowed) :=
  fun _ => Nat.le_refl _

theorem note (n : Note) : Frugal (liftM (Host.note n)) := fun _ => Nat.le_refl _

theorem setState (state : State) : Frugal (setState state) := fun _ => Nat.le_refl _

theorem release (state : State) : Frugal (release state) := fun _ => Nat.le_refl _

theorem bind {x : Drive α} {f : α → Drive β} (hx : Frugal x) (hf : ∀ a, Frugal (f a)) :
    Frugal (x >>= f) := by
  intro s
  have hs := hx s
  rw [runOn_bind]
  rcases e : x.runOn s with ⟨r, t⟩
  rw [e] at hs
  cases r with
  | ok a => exact Nat.le_trans (hf a t) hs
  | error e => exact hs

theorem setOptions : Frugal setOptions := by
  refine bind (ask _) fun pid => bind (ask _) fun t => ?_
  by_cases empty : t.options.isEmpty = true
  · simp only [if_pos empty]
    exact pure ()
  · simp only [if_neg empty]
    refine bind (note _) fun _ => bind (fun _ => Nat.le_refl _) fun reply => ?_
    cases reply with
    | ok _ => exact pure ()
    | error e => exact throw _

theorem resume : Frugal resume := by
  refine bind (permit _ _) fun _ => bind (ask _) fun pid =>
    bind (fun _ => Nat.le_refl _) fun reply => ?_
  cases reply with
  | ok _ => exact setState _
  | error e => exact throw _

theorem stopOf (status : WaitStatus) : Frugal (stopOf status) := by
  cases status with
  | stopped signal =>
    refine bind (ask _) fun t => ?_
    cases t.awaiting with
    | none => exact pure _
    | some first =>
      by_cases opens : signal = first.signal
      · simp only [opens]
        exact bind setOptions fun _ => bind (fun _ => Nat.le_refl _) fun _ => pure _
      · simp only [opens]
        exact pure _
  | exited _ | signaled _ _ | event _ _ => exact pure _
  | syscall | continued | stillAlive => exact throw _

theorem settle (stop : Stop) : Frugal (settle stop) := by
  refine bind (fun _ => Nat.le_refl _) fun _ => ?_
  by_cases final : stop.isTerminal = true
  · simp only [final]
    exact bind (ask _) fun t => release _
  · simp only [final]
    exact setState _

theorem see (waited : Waited) : Frugal (see waited) :=
  bind (ask _) fun _ => bind (note _) fun _ => bind (stopOf _) fun stop =>
    bind (settle stop) fun _ => pure stop

theorem skip (stop : Stop) : Frugal (skip stop) :=
  bind (ask _) fun _ => bind (note _) fun _ => resume

theorem letGo (stop : Stop) : Frugal (letGo stop) :=
  bind (ask _) fun _ => bind (note _) fun _ => setState _

theorem passOn (stop : Stop) : Frugal (passOn stop) :=
  bind (ask _) fun _ => bind (note _) fun _ => resume

end Frugal

theorem lose_fails (e : Errno) (s : Scene) (stop : Stop) (t : Scene) :
    (lose e).runOn s ≠ (.ok stop, t) := by
  intro h
  rw [lose, runOn_bind] at h
  by_cases gone : e = .echild
  · subst gone
    cases h
  · simp only [if_neg gone] at h
    cases h

namespace Spends

theorem bind {x : Drive α} {f : α → Drive β} (hx : Frugal x) (hf : ∀ a, Spends (f a)) :
    Spends (x >>= f) := by
  intro s b t h
  have hs := hx s
  rw [runOn_bind] at h
  rcases e : x.runOn s with ⟨r, u⟩
  rw [e] at h hs
  cases r with
  | ok a => exact Nat.lt_of_lt_of_le (hf a h) hs
  | error e => simp at h

theorem waitpid {pid : Pid} {k : Reply Waited → Drive α}
    (fails : ∀ e s a t, (k (.error e)).runOn s ≠ (.ok a, t)) (goesOn : ∀ w, Frugal (k (.ok w))) :
    Spends (Drive.waitpid pid >>= k) := by
  intro s a t h
  rw [runOn_bind, runOn_waitpid] at h
  have spent := waitsLeft_waitpidWithin pid s.host.waitsLeft s.host
  have some : s.host.waitsLeft ≠ 0 := by
    intro none
    rw [waitpidWithin_of_none_left none, Host.waitpid_of_none_left none] at h
    exact fails _ _ _ _ h
  generalize (waitpidWithin pid s.host.waitsLeft s.host).1 = reply at h
  cases reply with
  | error e => exact absurd h (fails _ _ _ _)
  | ok w =>
    have kept := goesOn w { s with host := (waitpidWithin pid s.host.waitsLeft s.host).2 }
    simp only [h] at kept
    omega

/-- A wait that gives a stop has taken a reply. -/
theorem wait : Spends wait :=
  bind (.permit _ _) fun _ => bind (.ask _) fun _ => waitpid lose_fails .see

end Spends

/-! ## passed stops -/

theorem waitUntilWithin_succ (final : Stop → Bool) (pass : Stop → Drive Unit) (n : Nat)
    (s : Scene) :
    (waitUntilWithin final pass (n + 1)).runOn s = match wait.runOn s with
      | (.error e, t) => (.error e, t)
      | (.ok stop, t) =>
        if final stop then (.ok stop, t)
        else match (pass stop).runOn t with
          | (.error e, u) => (.error e, u)
          | (.ok _, u) => (waitUntilWithin final pass n).runOn u := by
  rw [waitUntilWithin, runOn_bind]
  rcases wait.runOn s with ⟨r, t⟩
  cases r with
  | error e => rfl
  | ok stop =>
    show (if final stop then return stop else do
      pass stop
      waitUntilWithin final pass n).runOn t = if final stop then _ else _
    by_cases done : final stop = true
    · rw [if_pos done, if_pos done, runOn_pure]
    · rw [if_neg done, if_neg done, runOn_bind]
      rcases (pass stop).runOn t with ⟨r, u⟩
      cases r <;> rfl

theorem waitUntilWithin_eq {final : Stop → Bool} {pass : Stop → Drive Unit}
    (frugal : ∀ stop, Frugal (pass stop)) {n m : Nat} {s : Scene} (hn : s.host.waitsLeft ≤ n)
    (hm : s.host.waitsLeft ≤ m) :
    (waitUntilWithin final pass n).runOn s = (waitUntilWithin final pass m).runOn s := by
  induction n generalizing m s with
  | zero =>
    have none : s.host.waitsLeft = 0 := Nat.le_zero.mp hn
    cases m with
    | zero => rfl
    | succ m =>
      rw [waitUntilWithin_succ]
      rcases e : wait.runOn s with ⟨r, t⟩
      cases r with
      | error e' => exact e
      | ok stop => exact absurd (Spends.wait e) (by omega)
  | succ n ih =>
    cases m with
    | zero =>
      have none : s.host.waitsLeft = 0 := Nat.le_zero.mp hm
      rw [waitUntilWithin_succ]
      rcases e : wait.runOn s with ⟨r, t⟩
      cases r with
      | error e' => exact e.symm
      | ok stop => exact absurd (Spends.wait e) (by omega)
    | succ m =>
      rw [waitUntilWithin_succ, waitUntilWithin_succ]
      rcases e : wait.runOn s with ⟨r, t⟩
      cases r with
      | error e' => rfl
      | ok stop =>
        have spent := Spends.wait e
        have kept := frugal stop t
        rcases e' : (pass stop).runOn t with ⟨r, u⟩
        rw [e'] at kept
        cases r with
        | error e => simp only [e']
        | ok _ => simp only [e', @ih m u (Nat.le_trans kept (by omega)) (Nat.le_trans kept (by omega))]

theorem waitUntil_eq {final : Stop → Bool} {pass : Stop → Drive Unit}
    (frugal : ∀ stop, Frugal (pass stop)) (s : Scene) :
    (waitUntil final pass).runOn s = match wait.runOn s with
      | (.error e, t) => (.error e, t)
      | (.ok stop, t) =>
        if final stop then (.ok stop, t)
        else match (pass stop).runOn t with
          | (.error e, u) => (.error e, u)
          | (.ok _, u) => (waitUntil final pass).runOn u := by
  have run (t : Scene) : (waitUntil final pass).runOn t =
      (waitUntilWithin final pass t.host.waitsLeft).runOn t := rfl
  rw [run, waitUntilWithin_eq frugal (Nat.le_refl _) (Nat.le_succ _), waitUntilWithin_succ]
  rcases e : wait.runOn s with ⟨r, t⟩
  cases r with
  | error e' => rfl
  | ok stop =>
    have spent := Spends.wait e
    have kept := frugal stop t
    rcases e' : (pass stop).runOn t with ⟨r, u⟩
    rw [e'] at kept
    cases r with
    | error e => simp only [e']
    | ok _ =>
      simp only [e', run u]
      rw [waitUntilWithin_eq frugal (Nat.le_trans kept (Nat.le_of_lt spent)) (Nat.le_refl _)]

end Drive

end ProcTrace
