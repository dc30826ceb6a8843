/-!
# Terminated byte strings and pointer arrays

Programs, arguments and environment entries are handed to the operating system as byte strings
that end with a zero byte, and lists of them as arrays of pointers that end with a null pointer.

* `CString`                 a byte string without a zero byte;
* `CString.ofBytes`         accepts a byte string, or gives the position of its first zero;
* `CString.image`           the string as it lies in memory, terminator included;
* `PointerArray.ofStrings`  the array that is passed for a list of strings;
* `PointerArray.strings`    what a reader of such an array sees.

`PointerArray.strings_ofStrings`: the reader sees the list, entry for entry.
-/

namespace ProcTrace

abbrev Bytes := List UInt8

/-- what a reader of a terminated string sees: the bytes before the first zero -/
def Bytes.upToZero (bs : Bytes) : Bytes := bs.takeWhile (· != 0)

structure CString where
  bytes : Bytes
  zero_free : 0 ∉ bytes
deriving DecidableEq

namespace CString

/-- a string of these bytes, or the position of the first zero among them -/
def ofBytes (bs : Bytes) : Except Nat CString :=
  if h : 0 ∈ bs then .error (bs.idxOf 0) else .ok ⟨bs, h⟩

theorem ofBytes_bytes (s : CString) : ofBytes s.bytes = .ok s := by
  simp [ofBytes, s.zero_free]

theorem ofBytes_eq_ok {bs : Bytes} {s : CString} : ofBytes bs = .ok s ↔ s.bytes = bs := by
  constructor
  · intro h
    unfold ofBytes at h
    split at h
    · simp at h
    · cases h; rfl
  · rintro rfl; exact ofBytes_bytes s

theorem ofBytes_eq_error {bs : Bytes} {n : Nat} :
    ofBytes bs = .error n ↔ 0 ∈ bs ∧ n = bs.idxOf 0 := by
  unfold ofBytes
  split <;> simp_all [eq_comm]

/-- the string in memory: its bytes, then a zero -/
def image (s : CString) : Bytes := s.bytes ++ [0]

theorem upToZero_append_zero {bs : Bytes} (h : 0 ∉ bs) (rest : Bytes) :
    Bytes.upToZero (bs ++ 0 :: rest) = bs := by
  induction bs with
  | nil => rfl
  | cons b bs ih =>
    simp only [List.mem_cons, not_or] at h
    have tail := ih h.2
    rw [Bytes.upToZero] at tail ⊢
    rw [List.cons_append, List.takeWhile_cons, if_pos (by simpa using Ne.symm h.1), tail]

theorem upToZero_image (s : CString) : s.image.upToZero = s.bytes :=
  upToZero_append_zero s.zero_free []

end CString

/-- pointers to strings in memory; `none` is the null pointer -/
abbrev PointerArray := List (Option Bytes)

namespace PointerArray

/-- pointers to the strings in order, then a null pointer -/
def ofStrings (ss : List CString) : PointerArray := ss.map (fun s => some s.image) ++ [none]

/-- the strings that a reader finds up to the first null pointer -/
def strings (a : PointerArray) : List Bytes :=
  ((a.takeWhile Option.isSome).filterMap id).map Bytes.upToZero

theorem strings_ofStrings (ss : List CString) :
    (ofStrings ss).strings = ss.map CString.bytes := by
  have ptrs : (ofStrings ss).takeWhile Option.isSome = ss.map (fun s => some s.image) := by
    induction ss with
    | nil => rfl
    | cons s ss ih => simp_all [ofStrings]
  simp [strings, ptrs, List.filterMap_map, CString.upToZero_image]

end PointerArray

end ProcTrace
