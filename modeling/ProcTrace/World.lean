import ProcTrace.Kernel
import ProcTrace.Memory

/-!
# What a stopped process shows

`World` holds the memory and the registers that peeks find, and the errors laid over them: one
error for every peek, then errors at single addresses.
-/

namespace ProcTrace

structure World where
  memory : Memory := .empty
  registers : List (UInt64 × Reply Word) := []
  /-- fails every peek -/
  peekError : Option Errno := none
  /-- fails the peeks of memory at these addresses -/
  addressErrors : List (Address × Errno) := []

namespace World

def peekData (w : World) (address : Address) : Reply Word :=
  match w.peekError <|> w.addressErrors.lookup address with
  | some e => .error e
  | none => w.memory.word address

/-- a register that is not listed cannot be read -/
def peekUser (w : World) (offset : UInt64) : Reply Word :=
  match w.peekError with
  | some e => .error e
  | none => (w.registers.lookup offset).getD (.error .eio)

end World

/-- the kernel with this world as the inside of every process -/
def Kernel.showing (k : Kernel) (w : World) : Kernel :=
  { k with memory := fun _ => w.peekData, registers := fun _ => w.peekUser }

end ProcTrace
