import ProcTrace.Proofs.Lives

/-!
# What is done with one tracee

A session holds many tracees.  What is done with one of them is read off the whole run.

* `Place`, `Session.at?`                  where a tracee is kept;
* `Session.Turn`, `Session.turn_of_step`  what an operation does with the tracee at one place;
* `Session.deeds`                         the operations of a run that make the tracee at a place,
                                          or are done on it;
* `Session.deeds_induction`               what holds of a tracee and its deeds, by induction.
-/

namespace ProcTrace

/-! ## one tracee -/

/-- where a tracee is kept: among those that are handed out, or among the abandoned -/
inductive Place where
  | held (position : Nat)
  | abandoned (position : Nat)
deriving DecidableEq

/-- the operation is done on the tracee at a place -/
def Op.IsOn (op : Op) (p : Place) : Prop := op.tracee?.map .held = some p

instance (op : Op) (p : Place) : Decidable (op.IsOn p) := inferInstanceAs (Decidable (_ = _))

theorem Op.isOn_held {op : Op} {j : Nat} : op.IsOn (.held j) ↔ op.tracee? = some j := by
  simp [IsOn]

theorem Op.not_isOn_of_none {op : Op} (off : op.tracee? = none) (p : Place) : ¬ op.IsOn p := by
  simp [IsOn, off]

namespace Session

def at? (s : Session) : Place → Option Held
  | .held j => s.tracees[j]?
  | .abandoned m => s.abandoned[m]?

/-- A tracee is made, in an operation that writes this journal, and kept at this place. -/
inductive Begins (journal : Journal) : Place → Held → Prop where
  | born {j : Nat} (i : Nat) (pid : Pid) (first : FirstStop) (birth : Birth pid first journal) :
    Begins journal (.held j) ⟨i, first, .born pid first⟩
  | traced {m : Nat} (i : Nat) (t : Tracer) (pid : Pid) (es : Journal) (c : Course)
      (birth : Birth pid .exec es) (steps : Course.Steps ⟨t, .born pid .exec, es⟩ c)
      (written : c.journal = journal) : Begins journal (.abandoned m) ⟨i, .exec, c.tracee⟩

/-- The operation is done on the first tracee, writes this journal, and leaves the second. -/
inductive Leads (op : Op) (journal : Journal) (g : Held) : Held → Prop where
  | looked (looks : ∀ e ∈ journal, e.Looks g.tracee) : Leads op journal g g
  | driven {t : Tracer} {c : Course} (drives : op.drives = true)
      (steps : Course.Steps ⟨t, g.tracee, []⟩ c) (written : c.journal = journal) :
    Leads op journal g { g with tracee := c.tracee }

/-- What an operation that wrote this journal has done with the tracee at a place. -/
inductive Turn (s : Session) (op : Op) (journal : Journal) (p : Place) (h : Held) : Prop where
  /-- it was done elsewhere -/
  | kept (at_ : s.at? p = some h) (other : ¬ op.IsOn p)
  | made (absent : s.at? p = none) (off : op.tracee? = none) (begins : Begins journal p h)
  | done {g : Held} (at_ : s.at? p = some g) (on : op.IsOn p) (leads : Leads op journal g h)

variable {s u : Session} {k : Kernel} {op : Op} {answer : Answer} {p : Place} {h : Held}

theorem at?_congr (tracees : u.tracees = s.tracees) (abandoned : u.abandoned = s.abandoned)
    (p : Place) : u.at? p = s.at? p := by
  cases p with
  | held j => exact congrArg (·[j]?) tracees
  | abandoned m => exact congrArg (·[m]?) abandoned

/-- What has come to be at a position behind all others is what was appended. -/
theorem getElem?_concat_some {hs : List Held} {new h : Held} {j : Nat}
    (at_ : (hs ++ [new])[j]? = some h) : hs[j]? = some h ∨ hs[j]? = none ∧ h = new := by
  rw [List.getElem?_append] at at_
  split at at_
  · exact .inl at_
  · rename_i behind
    exact .inr ⟨List.getElem?_eq_none (Nat.le_of_not_lt behind),
      List.mem_singleton.mp (List.mem_of_getElem? at_)⟩

theorem Moved.turn (moved : Moved s op (answer, u)) (at_ : u.at? p = some h) :
    Turn s op answer.journal p h := by
  cases moved with
  | aside off tracees abandoned idle =>
    exact .kept ((at?_congr tracees abandoned p).symm.trans at_) (Op.not_isOn_of_none off p)
  | born off i pid first birth tracees abandoned =>
    cases p with
    | held j =>
      rw [at?, tracees] at at_
      rcases getElem?_concat_some at_ with old | ⟨absent, rfl⟩
      · exact .kept old (Op.not_isOn_of_none off _)
      · exact .made absent off (.born i pid first birth)
    | abandoned m =>
      rw [at?, abandoned] at at_
      exact .kept at_ (Op.not_isOn_of_none off _)
  | traced off _ i t pid es c birth steps written tracees abandoned =>
    cases p with
    | held j =>
      rw [at?, tracees] at at_
      exact .kept at_ (Op.not_isOn_of_none off _)
    | abandoned m =>
      rw [at?, abandoned] at at_
      rcases getElem?_concat_some at_ with old | ⟨absent, rfl⟩
      · exact .kept old (Op.not_isOn_of_none off _)
      · exact .made absent off (.traced i t pid es c birth steps written)
  | missing outcome on none =>
    refine .kept at_ ?_
    rw [Op.IsOn, on]
    rintro ⟨⟩
    rw [at?, none] at at_
    cases at_
  | looked on found looks tracees abandoned =>
    have at_ := (at?_congr tracees abandoned p).symm.trans at_
    by_cases mine : op.IsOn p
    · have same := mine
      rw [Op.IsOn, on] at same
      cases same
      cases found.symm.trans at_
      exact .done found mine (.looked looks)
    · exact .kept at_ mine
  | @driven _ _ j g t c on drives found mem steps written tracees abandoned =>
    cases p with
    | held l =>
      rw [at?, tracees] at at_
      by_cases mine : j = l
      · subst mine
        rw [List.getElem?_modify_eq, found] at at_
        cases at_
        exact .done found (Op.isOn_held.mpr on) (.driven drives steps written)
      · rw [List.getElem?_modify_ne _ _ mine] at at_
        refine .kept at_ fun other => mine ?_
        exact Option.some.inj (on.symm.trans (Op.isOn_held.mp other))
    | abandoned m =>
      rw [at?, abandoned] at at_
      exact .kept at_ (by simp [Op.IsOn, on])

theorem turn_of_step (at_ : (s.step k op).2.at? p = some h) :
    Turn s op (s.step k op).1.journal p h := (step_moved s k op).turn at_

theorem getElem?_none_of_le {as bs : List Held} (le : as.length ≤ bs.length) {j : Nat}
    (absent : bs[j]? = none) : as[j]? = none :=
  List.getElem?_eq_none (Nat.le_trans le (List.getElem?_eq_none_iff.mp absent))

/-- Tracees stay where they are kept. -/
theorem Moved.absent (moved : Moved s op (answer, u)) (absent : u.at? p = none) :
    s.at? p = none := by
  have more : s.tracees.length ≤ u.tracees.length ∧ s.abandoned.length ≤ u.abandoned.length := by
    cases moved with
    | missing => exact ⟨Nat.le_refl _, Nat.le_refl _⟩
    | aside _ tracees abandoned | born _ _ _ _ _ tracees abandoned
    | traced _ _ _ _ _ _ _ _ _ _ tracees abandoned | looked _ _ _ tracees abandoned
    | driven _ _ _ _ _ _ tracees abandoned => simp [tracees, abandoned]
  cases p with
  | held j => exact getElem?_none_of_le more.1 absent
  | abandoned m => exact getElem?_none_of_le more.2 absent

/-! ## what is done with it -/

/-- an operation, and what came of it -/
structure Deed where
  op : Op
  answer : Answer
deriving DecidableEq

/-- The operation is done on the tracee at a place, or has just made it. -/
def concerns (s : Session) (op : Op) (u : Session) (p : Place) : Bool :=
  match s.at? p with
  | none => (u.at? p).isSome
  | some _ => op.IsOn p

/-- what is done with the tracee at a place in a run, earliest first -/
def deeds (p : Place) : List (Kernel × Op) → Session → List Deed
  | [], _ => []
  | (k, op) :: rest, s =>
    let out := s.step k op
    if concerns s op out.2 p then ⟨op, out.1⟩ :: deeds p rest out.2 else deeds p rest out.2

theorem deeds_concat (p : Place) (ops : List (Kernel × Op)) (k : Kernel) (op : Op) (s : Session) :
    deeds p (ops ++ [(k, op)]) s = deeds p ops s ++
      if concerns (run ops s).2 op ((run ops s).2.step k op).2 p then
        [⟨op, ((run ops s).2.step k op).1⟩] else [] := by
  induction ops generalizing s with
  | nil => rfl
  | cons first rest ih =>
    obtain ⟨l, op'⟩ := first
    show (if _ then _ :: deeds p (rest ++ [(k, op)]) _ else deeds p (rest ++ [(k, op)]) _) =
      (if _ then _ :: deeds p rest _ else deeds p rest _) ++ _
    rw [ih]
    split <;> rfl

theorem deeds_of_absent {ops : List (Kernel × Op)} {s : Session}
    (absent : (run ops s).2.at? p = none) : deeds p ops s = [] := by
  induction ops using List.reverseRecOn with
  | nil => rfl
  | append_singleton ops last ih =>
    obtain ⟨k, op⟩ := last
    rw [run_concat] at absent
    have before := (step_moved (run ops s).2 k op).absent absent
    rw [deeds_concat, ih before, concerns, before, absent]
    rfl

/-- What holds of a tracee once it is made, and is kept by all that is done on it, holds after every
run. -/
theorem deeds_induction {P : List Deed → Held → Prop} {p : Place} {n : Nat}
    (made : ∀ {s : Session} {k op h}, op.tracee? = none → Begins (s.step k op).1.journal p h →
      P [⟨op, (s.step k op).1⟩] h)
    (done : ∀ {s : Session} {k op ds g h}, P ds g → s.at? p = some g → op.IsOn p →
      (s.step k op).2.at? p = some h → Leads op (s.step k op).1.journal g h →
      P (ds ++ [⟨op, (s.step k op).1⟩]) h)
    (ops : List (Kernel × Op)) {h : Held} (at_ : (run ops (new n)).2.at? p = some h) :
    P (deeds p ops (new n)) h := by
  induction ops using List.reverseRecOn generalizing h with
  | nil => cases p <;> cases at_
  | append_singleton ops last ih =>
    obtain ⟨k, op⟩ := last
    rw [run_concat] at at_
    rw [deeds_concat, concerns]
    cases turn_of_step at_ with
    | kept before other =>
      simp only [before, other, decide_false, Bool.false_eq_true, if_false, List.append_nil]
      exact ih before
    | made absent off begins =>
      rw [deeds_of_absent absent, absent, at_]
      exact made off begins
    | done before on leads =>
      simp only [before, on, decide_true, if_true]
      exact done (ih before) before on at_ leads

/-- Whatever was done, each tracee is sound, and so is each that was abandoned. -/
theorem sound_at (ops : List (Kernel × Op)) {n : Nat}
    (at_ : (run ops (new n)).2.at? p = some h) : h.tracee.Sound h.origin := by
  refine deeds_induction (P := fun _ h => h.tracee.Sound h.origin) (fun _ begins => ?_)
    (fun before _ _ _ leads => ?_) ops at_
  · cases begins with
    | born i pid first birth => exact Tracee.sound_born pid first
    | traced i t pid es c birth steps written => exact steps.sound (Tracee.sound_born pid .exec)
  · cases leads with
    | looked _ => exact before
    | driven _ steps _ => exact steps.sound before

end Session

end ProcTrace
