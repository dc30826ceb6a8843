/-!
# The register set of aarch64

There the registers are fetched all at once, as thirty-four words: thirty-one general registers,
stack pointer, program counter and processor state.  `RegisterSet.wordAt` then picks one by its
byte offset.
-/

namespace ProcTrace

structure RegisterSet where
  general : Vector UInt64 31
  sp : UInt64
  pc : UInt64
  pstate : UInt64
deriving DecidableEq

namespace RegisterSet

/-- number of words -/
def size : Nat := 34

def ofWords (words : Vector UInt64 size) : RegisterSet where
  general := Vector.ofFn fun i : Fin 31 => words.get (i.castLE (by decide))
  sp := words.get ⟨31, by decide⟩
  pc := words.get ⟨32, by decide⟩
  pstate := words.get ⟨33, by decide⟩

/-- the word at a byte offset, if a word begins there -/
def wordAt (r : RegisterSet) (offset : UInt64) : Option UInt64 :=
  if offset % 8 != 0 then none
  else
    let index := (offset / 8).toNat
    if h : index < 31 then some r.general[index]
    else if index = 31 then some r.sp
    else if index = 32 then some r.pc
    else if index = 33 then some r.pstate
    else none

end RegisterSet

end ProcTrace
