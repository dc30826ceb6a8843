import ProcTrace.CString

/-!
# Machine words and addresses

A word has eight bytes, lowest first, and is signed; an address is unsigned.  Steps between
addresses are checked: `Address.add?` and `Address.mul?` have no answer where the result leaves the
address space, so no address is ever reduced modulo `2 ^ 64`.

* `Word.bytes`, `Word.ofBytes`   the eight bytes of a word, and the word of eight bytes;
* `Address.add?`, `Address.next?`  the address so many bytes on, and one word on;
* `Address.mul?`                   so many times a number.
-/

namespace ProcTrace

abbrev Word := Int64
abbrev Address := UInt64

/-- size of a word in bytes -/
def wordSize : Nat := 8

namespace Word

/-- a word read as an address -/
def toAddress (w : Word) : Address := w.toUInt64

/-- the bytes of a word, lowest first -/
def bytes (w : Word) : Bytes :=
  let u := w.toUInt64
  [u.toUInt8, (u >>> 8).toUInt8, (u >>> 16).toUInt8, (u >>> 24).toUInt8,
    (u >>> 32).toUInt8, (u >>> 40).toUInt8, (u >>> 48).toUInt8, (u >>> 56).toUInt8]

/-- the word of these bytes, lowest first -/
def ofBytes (bs : Bytes) : Word :=
  (bs.foldr (fun (b : UInt8) (u : UInt64) => b.toUInt64 + 256 * u) 0).toInt64

theorem length_bytes (w : Word) : w.bytes.length = wordSize := rfl

theorem bytes_ofBytes (a b c d e f g h : UInt8) :
    bytes (ofBytes [a, b, c, d, e, f, g, h]) = [a, b, c, d, e, f, g, h] := by
  have ha := a.toNat_lt
  have hb := b.toNat_lt
  have hc := c.toNat_lt
  have hd := d.toNat_lt
  have he := e.toNat_lt
  have hf := f.toNat_lt
  have hg := g.toNat_lt
  have hh := h.toNat_lt
  simp only [bytes, ofBytes, List.foldr, UInt64.toUInt64_toInt64, List.cons.injEq,
    ← UInt8.toNat_inj, UInt64.toNat_toUInt8, UInt64.toNat_shiftRight, UInt64.toNat_add,
    UInt64.toNat_mul, UInt8.toNat_toUInt64, UInt64.toNat_ofNat, and_true]
  simp only [Nat.shiftRight_eq_div_pow]
  refine ⟨?_, ?_, ?_, ?_, ?_, ?_, ?_, ?_⟩ <;> simp <;> omega

end Word

namespace Address

/-- the address `n` bytes on, if there is one -/
def add? (a : Address) (n : Nat) : Option Address :=
  if a.toNat + n < UInt64.size then some (.ofNat (a.toNat + n)) else none

/-- `n` times the number, if that is still one -/
def mul? (a : Address) (n : Nat) : Option Address :=
  if a.toNat * n < UInt64.size then some (.ofNat (a.toNat * n)) else none

/-- the address one word on, if there is one -/
def next? (a : Address) : Option Address := a.add? wordSize

theorem toNat_add? {a b : Address} {n : Nat} (h : a.add? n = some b) :
    b.toNat = a.toNat + n := by
  unfold add? at h
  split at h
  · cases h
    rename_i hlt
    exact UInt64.toNat_ofNat_of_lt' hlt
  · simp at h

theorem add?_eq_none {a : Address} {n : Nat} : a.add? n = none ↔ UInt64.size ≤ a.toNat + n := by
  unfold add?
  split <;> simp <;> omega

theorem toNat_mul? {a b : Address} {n : Nat} (h : a.mul? n = some b) :
    b.toNat = a.toNat * n := by
  unfold mul? at h
  split at h
  · cases h
    rename_i hlt
    exact UInt64.toNat_ofNat_of_lt' hlt
  · simp at h

theorem mul?_eq_none {a : Address} {n : Nat} : a.mul? n = none ↔ UInt64.size ≤ a.toNat * n := by
  unfold mul?
  split <;> simp <;> omega

end Address

end ProcTrace
