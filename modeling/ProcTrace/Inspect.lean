import ProcTrace.Arch.Layout
import ProcTrace.Host
import ProcTrace.Tracee

/-!
# Looking into a stopped tracee

Words of its memory and of its register file are read one by one; strings and arrays of strings
word after word, `scanLimit` words at most.  A string ends with a zero byte, an array with a null
pointer.

* `Inspect.memoryWord`, `Inspect.register`       one word;
* `Inspect.registerSet`                          all registers at once, where they are so read;
* `Inspect.string`, `Inspect.strings`            a string, an array of strings;
* `Inspect.execArguments`, `Inspect.execEnvironment`   the vectors that a new image finds on its
  stack: the number of arguments, then the arguments, then the environment;
* `Inspect.environmentStart?_eq`   three checked steps come to one sum.
-/

namespace ProcTrace

/-- upper bound on the words of a string, and on the pointers of an array: `2 ^ 14` -/
def scanLimit : Nat := 16384

namespace Inspect

/-! ## words -/

/-- A raw peek returns `-1` for a failure and for a word that is `-1`.  The error number is cleared
before and looked at after a `-1`; where it names no error, `-1` is the word. -/
def peek (raw : HostM Word) : HostM (Reply Word) := do
  Host.clearErrno
  let word ← raw
  if word != -1 then
    return .ok word
  match (← get).errno with
  | .unknown => return .ok word
  | e => return .error e

def requireStopped (t : Tracee) (action : String) : Attempt Unit :=
  match t.require action [.stopped] with
  | .ok _ => pure ()
  | .error e => throw e

def memoryWord (t : Tracee) (address : Address) : Attempt Word := do
  requireStopped t "read memory of"
  match ← peek (Host.peekData t.pid address) with
  | .error e => throw (.memoryRead t.pid address e)
  | .ok word =>
    Host.note (.memoryRead t.pid address word)
    return word

def register (t : Tracee) (r : Slot) : Attempt Word := do
  requireStopped t "read registers of"
  match ← peek (Host.peekUser t.pid r.offset) with
  | .error e => throw (.registerRead t.pid r.offset e)
  | .ok word =>
    Host.note (.registerRead t.pid r word)
    return word

def syscallNumber (t : Tracee) (layout : Layout) : Attempt Word :=
  register t (layout.slot .syscallNumber)

def stackPointer (t : Tracee) (layout : Layout) : Attempt Word :=
  register t (layout.slot .stackPointer)

def instructionPointer (t : Tracee) (layout : Layout) : Attempt Word :=
  register t (layout.slot .instructionPointer)

/-- the register set of a process on aarch64, fetched all at once -/
def registerSet (pid : Pid) : HostM (Reply RegisterSet) := do
  return (← Host.getRegisterSet pid).map RegisterSet.ofWords

/-! ## strings -/

/-- the address one word on; past the end of the address space there is nothing to read -/
def nextWord (t : Tracee) (address : Address) : Attempt Address :=
  match address.next? with
  | some next => pure next
  | none => throw (.memoryRead t.pid address .efault)

/-- Reads on at `next`, up to `n` words, behind the bytes `seen` (latest first). -/
def scanString (t : Tracee) (start : Address) : Nat → Address → Bytes → Attempt Bytes
  | 0, _, _ => throw (.memoryRead t.pid start .e2big)
  | n + 1, next, seen => do
    let bytes := (← memoryWord t next).bytes
    if 0 ∈ bytes then
      return seen.reverse ++ bytes.upToZero
    else
      scanString t start n (← nextWord t next) (bytes.reverse ++ seen)

/-- the string at an address, without its zero byte -/
def string (t : Tracee) (start : Address) : Attempt Bytes := scanString t start scanLimit start []

/-- Reads on at `next`, up to `n` pointers, behind the strings `seen` (latest first). -/
def scanStrings (t : Tracee) (start : Address) :
    Nat → Address → List Bytes → Attempt (List Bytes)
  | 0, _, _ => throw (.memoryRead t.pid start .e2big)
  | n + 1, next, seen => do
    let pointer ← memoryWord t next
    if pointer = 0 then
      return seen.reverse
    else
      let s ← string t pointer.toAddress
      scanStrings t start n (← nextWord t next) (s :: seen)

/-- the strings of the array at an address -/
def strings (t : Tracee) (start : Address) : Attempt (List Bytes) :=
  scanStrings t start scanLimit start []

/-! ## the stack of a new image -/

/-- The arguments start one word above the stack pointer. -/
def execArguments (t : Tracee) (layout : Layout) : Attempt (List Bytes) := do
  let sp := (← stackPointer t layout).toAddress
  strings t (← nextWord t sp)

/-- The environment starts above the number of arguments, the arguments and their null pointer.  The
number comes from the process, and each of the three steps may leave the address space. -/
def environmentStart? (sp argc : Address) : Option Address := do
  let words ← argc.add? 2
  let bytes ← words.mul? wordSize
  sp.add? bytes.toNat

/-- None of the steps fails but where the environment would start beyond the last address. -/
theorem environmentStart?_eq (sp argc : Address) :
    environmentStart? sp argc = sp.add? ((argc.toNat + 2) * wordSize) := by
  have refused (beyond : UInt64.size ≤ (argc.toNat + 2) * wordSize) :
      sp.add? ((argc.toNat + 2) * wordSize) = none :=
    Address.add?_eq_none.mpr (Nat.le_add_left_of_le beyond)
  unfold environmentStart?
  cases summed : argc.add? 2 with
  | none =>
    have beyond : UInt64.size ≤ argc.toNat + 2 := Address.add?_eq_none.mp summed
    exact (refused (Nat.le_trans beyond (Nat.le_mul_of_pos_right _ (by decide)))).symm
  | some words =>
    have sum : words.toNat = argc.toNat + 2 := Address.toNat_add? summed
    cases scaled : words.mul? wordSize with
    | none =>
      have beyond : UInt64.size ≤ words.toNat * wordSize := Address.mul?_eq_none.mp scaled
      rw [sum] at beyond
      simp [scaled, refused beyond]
    | some bytes =>
      have product : bytes.toNat = words.toNat * wordSize := Address.toNat_mul? scaled
      simp [scaled, product, sum]

/-- the environment of a new image -/
def execEnvironment (t : Tracee) (layout : Layout) : Attempt (List Bytes) := do
  let sp := (← stackPointer t layout).toAddress
  let argc := (← memoryWord t sp).toAddress
  match environmentStart? sp argc with
  | some start => strings t start
  | none => throw (.memoryRead t.pid sp .efault)

end Inspect

end ProcTrace
