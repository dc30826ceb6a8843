/-!
# Process ids and sets of them

`PidSet` keeps its members in increasing order, so two sets with the same members are equal as
values (`PidSet.ext`).

* `PidSet.insert`, `PidSet.erase`   with their membership laws;
* `PidSet.erase_comm`               the order of removals does not matter.
-/

namespace ProcTrace

abbrev Pid := Int32

structure PidSet where
  pids : List Pid := []
  increasing : pids.Pairwise (· < ·) := by exact List.Pairwise.nil
deriving DecidableEq

namespace PidSet

def empty : PidSet := {}

instance : Membership Pid PidSet := ⟨fun s p => p ∈ s.pids⟩

instance (p : Pid) (s : PidSet) : Decidable (p ∈ s) := inferInstanceAs (Decidable (p ∈ s.pids))

theorem mem_def {p : Pid} {s : PidSet} : p ∈ s ↔ p ∈ s.pids := Iff.rfl

theorem not_mem_empty (p : Pid) : p ∉ empty := by simp [mem_def, empty]

/-! ## insertion -/

/-- puts `p` at its place in an increasing list -/
def place (p : Pid) : List Pid → List Pid
  | [] => [p]
  | q :: qs => if p < q then p :: q :: qs else if p = q then q :: qs else q :: place p qs

theorem mem_place {p q : Pid} {l : List Pid} : q ∈ place p l ↔ q = p ∨ q ∈ l := by
  induction l with
  | nil => simp [place]
  | cons r l ih =>
    simp only [place]
    split
    · simp
    · split
      · simp_all
      · simp only [List.mem_cons, ih]
        exact or_left_comm

theorem place_increasing {p : Pid} {l : List Pid} (h : l.Pairwise (· < ·)) :
    (place p l).Pairwise (· < ·) := by
  induction l with
  | nil => simp [place]
  | cons r l ih =>
    obtain ⟨head, tail⟩ := List.pairwise_cons.mp h
    simp only [place]
    split
    · rename_i lt
      refine List.pairwise_cons.mpr ⟨?_, h⟩
      intro q hq
      rcases List.mem_cons.mp hq with rfl | hq
      · exact lt
      · exact Int32.lt_trans lt (head q hq)
    · split
      · exact h
      · rename_i nlt ne
        refine List.pairwise_cons.mpr ⟨?_, ih tail⟩
        intro q hq
        rcases mem_place.mp hq with rfl | hq
        · exact Int32.lt_of_le_of_ne (Int32.not_lt.mp nlt) (Ne.symm ne)
        · exact head q hq

def insert (p : Pid) (s : PidSet) : PidSet := ⟨place p s.pids, place_increasing s.increasing⟩

theorem mem_insert {p q : Pid} {s : PidSet} : q ∈ s.insert p ↔ q = p ∨ q ∈ s := mem_place

/-! ## removal -/

def erase (p : Pid) (s : PidSet) : PidSet :=
  ⟨s.pids.filter (· ≠ p), s.increasing.filter _⟩

theorem mem_erase {p q : Pid} {s : PidSet} : q ∈ s.erase p ↔ q ≠ p ∧ q ∈ s := by
  simp [mem_def, erase, and_comm]

/-! ## equality -/

theorem eq_of_increasing {a b : List Pid} (ha : a.Pairwise (· < ·)) (hb : b.Pairwise (· < ·))
    (h : ∀ p, p ∈ a ↔ p ∈ b) : a = b := by
  induction a generalizing b with
  | nil =>
    cases b with
    | nil => rfl
    | cons q b => exact absurd ((h q).mpr List.mem_cons_self) (by simp)
  | cons p a ih =>
    cases b with
    | nil => exact absurd ((h p).mp List.mem_cons_self) (by simp)
    | cons q b =>
      obtain ⟨pa, ta⟩ := List.pairwise_cons.mp ha
      obtain ⟨qb, tb⟩ := List.pairwise_cons.mp hb
      have pq : p = q := by
        rcases List.mem_cons.mp ((h p).mp List.mem_cons_self) with e | inb
        · exact e
        · rcases List.mem_cons.mp ((h q).mpr List.mem_cons_self) with e | ina
          · exact e.symm
          · exact absurd (Int32.lt_trans (pa q ina) (qb p inb)) (Int32.lt_irrefl)
      subst pq
      refine congrArg _ (ih ta tb fun r => ?_)
      have hr := h r
      simp only [List.mem_cons] at hr
      constructor
      · intro hra
        exact (hr.mp (.inr hra)).resolve_left fun e => Int32.lt_irrefl (e ▸ pa r hra)
      · intro hrb
        exact (hr.mpr (.inr hrb)).resolve_left fun e => Int32.lt_irrefl (e ▸ qb r hrb)

theorem ext {s t : PidSet} (h : ∀ p, p ∈ s ↔ p ∈ t) : s = t := by
  obtain ⟨a, ha⟩ := s
  obtain ⟨b, hb⟩ := t
  have : a = b := eq_of_increasing ha hb h
  subst this
  rfl

theorem erase_comm (p q : Pid) (s : PidSet) : (s.erase p).erase q = (s.erase q).erase p :=
  ext fun r => by simp [mem_erase, and_left_comm]

theorem erase_of_not_mem {p : Pid} {s : PidSet} (h : p ∉ s) : s.erase p = s :=
  ext fun r => by
    rw [mem_erase]
    exact ⟨And.right, fun hr => ⟨fun e => h (e ▸ hr), hr⟩⟩

theorem erase_insert {p : Pid} {s : PidSet} (h : p ∉ s) : (s.insert p).erase p = s :=
  ext fun r => by
    rw [mem_erase, mem_insert]
    exact ⟨fun ⟨ne, hr⟩ => hr.resolve_left ne, fun hr => ⟨fun e => h (e ▸ hr), .inr hr⟩⟩

end PidSet

end ProcTrace
