import ProcTrace.Arch.Layout
import ProcTrace.Inspect

/-!
# Byte offsets and register slots

A register set that was fetched is read by byte offsets, and the registers that a tracer asks for
lie at offsets that a layout names.  Both agree on where a register lies.

* `RegisterSet.slot?`, `RegisterSet.wordAt_eq`   the slots in order, of which an offset picks one;
* `RegisterSet.slot?_ofWords`     each is the word that was fetched for it;
* `RegisterSet.Reads`             a register set that is read as these words;
* `Inspect.registerSet_reads`     as every one is that was fetched.
-/

namespace ProcTrace

namespace RegisterSet

/-! ## slots -/

/-- the slots in the order in which they are fetched -/
def slot? (r : RegisterSet) (i : Nat) : Option UInt64 :=
  if h : i < 31 then some r.general[i]
  else if i = 31 then some r.sp
  else if i = 32 then some r.pc
  else if i = 33 then some r.pstate
  else none

/-- However large the offset is. -/
theorem wordAt_eq (r : RegisterSet) (offset : UInt64) :
    r.wordAt offset = if offset.toNat % 8 = 0 then r.slot? (offset.toNat / 8) else none := by
  have index : (offset / 8).toNat = offset.toNat / 8 := UInt64.toNat_div offset 8
  have aligned : offset % 8 = 0 ↔ offset.toNat % 8 = 0 := by
    rw [← UInt64.toNat_inj, UInt64.toNat_mod]
    rfl
  show (if offset % 8 != 0 then none else r.slot? (offset / 8).toNat) = _
  rw [index]
  by_cases whole : offset.toNat % 8 = 0
  · rw [if_pos whole, if_neg (by simp [aligned.mpr whole])]
  · rw [if_neg whole, if_pos (by simp [aligned, whole])]

theorem slot?_ofWords (words : Vector UInt64 size) (i : Nat) :
    (ofWords words).slot? i = words[i]? := by
  rw [slot?]
  by_cases general : i < 31
  · have inside : i < size := Nat.lt_trans general (by decide)
    rw [dif_pos general, Vector.getElem?_eq_getElem inside]
    simp only [ofWords, Vector.getElem_ofFn]
    rfl
  · rw [dif_neg general]
    by_cases inside : i < size
    · have named : i = 31 ∨ i = 32 ∨ i = 33 := by
        unfold size at inside
        omega
      rcases named with rfl | rfl | rfl <;> rfl
    · have outside : i ≠ 31 ∧ i ≠ 32 ∧ i ≠ 33 := by
        unfold size at inside
        omega
      rw [if_neg outside.1, if_neg outside.2.1, if_neg outside.2.2,
        Vector.getElem?_eq_none (Nat.le_of_not_lt inside)]

/-- The offset of each slot is read back as that slot. -/
theorem wordAt_offset (r : RegisterSet) {i : Nat} (inside : i < size) :
    r.wordAt (.ofNat (8 * i)) = r.slot? i := by
  unfold size at inside
  have offset : (UInt64.ofNat (8 * i)).toNat = 8 * i :=
    UInt64.toNat_ofNat_of_lt' (by show 8 * i < 2 ^ 64; omega)
  rw [wordAt_eq, offset, if_pos (by omega), Nat.mul_div_cancel_left i (by decide)]

/-! ## register sets -/

theorem slot_lt {offset : Nat} (inside : offset < 272) : offset / 8 < size := by
  show offset / 8 < 34
  omega

/-- A register set that is read as these words: by offset, slot after slot, and where the layout has
its registers. -/
structure Reads (r : RegisterSet) (words : Vector UInt64 size) : Prop where
  word {offset : UInt64} (whole : offset.toNat % 8 = 0) (inside : offset.toNat < 272) :
    r.wordAt offset = some (words.get ⟨offset.toNat / 8, slot_lt inside⟩)
  none {offset : UInt64} (other : ¬ (offset.toNat % 8 = 0 ∧ offset.toNat < 272)) :
    r.wordAt offset = .none
  slots : (List.range size).map (fun i => r.wordAt (.ofNat (8 * i))) = words.toList.map some
  syscallNumber : r.wordAt (Layout.ofArch .aarch64).syscallNumber = some r.general[8]
  instructionPointer : r.wordAt (Layout.ofArch .aarch64).instructionPointer = some r.pc
  stackPointer : r.wordAt (Layout.ofArch .aarch64).stackPointer = some r.sp

theorem map_wordAt_ofWords (words : Vector UInt64 size) :
    (List.range size).map (fun i => (ofWords words).wordAt (.ofNat (8 * i))) =
      words.toList.map some := by
  refine List.ext_getElem (by simp) fun i _ there => ?_
  have inside : i < size := by simpa using there
  rw [List.getElem_map, List.getElem_map, List.getElem_range, wordAt_offset _ inside, slot?_ofWords,
    Vector.getElem?_eq_getElem inside]
  rfl

theorem reads_ofWords (words : Vector UInt64 size) : (ofWords words).Reads words where
  word {offset} whole inside := by
    rw [wordAt_eq, if_pos whole, slot?_ofWords, Vector.getElem?_eq_getElem (slot_lt inside)]
    rfl
  none {offset} other := by
    rw [wordAt_eq]
    by_cases whole : offset.toNat % 8 = 0
    · have outside : size ≤ offset.toNat / 8 := by
        have far : ¬ offset.toNat < 272 := fun inside => other ⟨whole, inside⟩
        show 34 ≤ offset.toNat / 8
        omega
      rw [if_pos whole, slot?_ofWords, Vector.getElem?_eq_none outside]
    · exact if_neg whole
  slots := map_wordAt_ofWords words
  syscallNumber := rfl
  instructionPointer := rfl
  stackPointer := rfl

end RegisterSet

/-- Whichever words the registers of a process are fetched as. -/
theorem Inspect.registerSet_reads {h : Host} {pid : Pid} {words : Vector UInt64 RegisterSet.size}
    (fetched : h.kernel.registerSet pid = .ok words) :
    ∃ r, (registerSet pid h).1 = .ok r ∧ r.Reads words := by
  refine ⟨.ofWords words, ?_, RegisterSet.reads_ofWords words⟩
  show (h.kernel.registerSet pid).map RegisterSet.ofWords = _
  rw [fetched]
  rfl

/-- the words are counted -/
def countedRegisters : Kernel := { registerSet := fun _ => .ok (.ofFn fun i => .ofNat (100 + i)) }

theorem Inspect.registerSet_reads_counted :
    ∃ r, (registerSet 7 ⟨countedRegisters, .unknown, 1000, []⟩).1 = .ok r ∧
      r.wordAt 64 = some 108 ∧ r.wordAt 256 = some 132 ∧ r.pc = 132 ∧ r.wordAt 260 = none ∧
      r.wordAt 0xfffffffffffffff8 = none := by
  have fetched : countedRegisters.registerSet 7 = .ok (.ofFn fun i => .ofNat (100 + i)) := rfl
  obtain ⟨r, read, reads⟩ := registerSet_reads (h := ⟨countedRegisters, .unknown, 1000, []⟩) fetched
  have counter : r.wordAt 256 = some 132 := reads.word rfl (by decide)
  refine ⟨r, read, reads.word rfl (by decide), counter, ?_, reads.none ?_, reads.none ?_⟩
  · have same := reads.instructionPointer.symm.trans counter
    exact Option.some.inj same
  · decide
  · decide

end ProcTrace
