import ProcTrace.Reply
import ProcTrace.Word

/-!
# Memory

A memory is a partial map from addresses to bytes.  A word is read from any eight readable bytes
in a row, aligned or not; if one of them is missing, or lies beyond the last address, the read
fails with `EIO`.

* `Memory.word`        reads a word;
* `Segment`, `Memory.ofSegments`   a memory laid out by segments, the first of which wins.
-/

namespace ProcTrace

/-- the byte at each address, where there is one -/
abbrev Memory := Nat → Option UInt8

namespace Memory

def empty : Memory := fun _ => none

/-- the byte at an address of the address space -/
def byte? (m : Memory) (a : Nat) : Option UInt8 := if a < UInt64.size then m a else none

/-- the `n` bytes from `a` on, if all can be read -/
def bytes? (m : Memory) : Nat → Nat → Option Bytes
  | _, 0 => some []
  | a, n + 1 => do
    let b ← m.byte? a
    let bs ← m.bytes? (a + 1) n
    return b :: bs

def word (m : Memory) (a : Address) : Reply Word :=
  .ofOption .eio ((m.bytes? a.toNat wordSize).map Word.ofBytes)

theorem length_bytes? {m : Memory} {a n : Nat} {bs : Bytes} (h : m.bytes? a n = some bs) :
    bs.length = n := by
  induction n generalizing a bs with
  | zero => simp_all [bytes?]
  | succ n ih =>
    simp only [bytes?, Option.bind_eq_bind, Option.bind_eq_some_iff] at h
    obtain ⟨b, _, rest, hr, e⟩ := h
    cases e
    simp [ih hr]

end Memory

/-- a stretch of `size` bytes from `start` on, given by position -/
structure Segment where
  start : Nat
  size : Nat
  byte : Nat → UInt8

namespace Segment

def ofBytes (start : Nat) (bs : Bytes) : Segment :=
  let store := bs.toArray
  ⟨start, store.size, fun i => store.getD i 0⟩

/-- a pattern laid out `count` times -/
def repeated (start : Nat) (pattern : Bytes) (count : Nat) : Segment :=
  let store := pattern.toArray
  ⟨start, store.size * count, fun i => store.getD (i % store.size) 0⟩

def byte? (s : Segment) (a : Nat) : Option UInt8 :=
  if s.start ≤ a ∧ a < s.start + s.size then some (s.byte (a - s.start)) else none

end Segment

namespace Memory

def ofSegments (segments : List Segment) : Memory := fun a => segments.findSome? (·.byte? a)

end Memory

end ProcTrace
