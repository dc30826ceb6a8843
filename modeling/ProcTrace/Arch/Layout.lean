import ProcTrace.Arch.UserRegister
import ProcTrace.Error

/-!
# Architectures and register layouts

Where the registers that a tracer asks for lie in the register file, by architecture.

* `Arch.parse`        reads an architecture by one of its names;
* `Layout.ofArch`     the layout from the table of positions;
* `Layout.native`     the layout of the machine itself, from its register file;
* `Layout.native_eq`  both agree on x86_64.
-/

namespace ProcTrace

inductive Arch where
  | x8664
  | x86
  | aarch64
deriving DecidableEq

namespace Arch

def name : Arch → String
  | x8664 => "x86_64"
  | x86 => "x86"
  | aarch64 => "aarch64"

/-- the names by which an architecture is known -/
def parse (s : String) : Except Error Arch :=
  if s ∈ ["x86_64", "amd64"] then .ok x8664
  else if s ∈ ["x86", "i386", "i686"] then .ok x86
  else if s ∈ ["aarch64", "arm64"] then .ok aarch64
  else .error (.unsupportedArch s)

theorem parse_name (a : Arch) : parse a.name = .ok a := by cases a <;> rfl

/-- size in bytes of a register slot -/
def wordSize : Arch → Nat
  | x86 => 4
  | x8664 | aarch64 => 8

end Arch

inductive Register where
  | syscallNumber
  | instructionPointer
  | stackPointer
deriving DecidableEq

namespace Register

def all : List Register := [syscallNumber, instructionPointer, stackPointer]

def name : Register → String
  | syscallNumber => "SyscallNumber"
  | instructionPointer => "InstructionPointer"
  | stackPointer => "StackPointer"

def ofName? (s : String) : Option Register := all.find? (·.name == s)

end Register

/-- a register and the byte offset at which it lies -/
structure Slot where
  register : Register
  offset : UInt64
deriving DecidableEq

structure Layout where
  arch : Arch
  syscallNumber : UInt64
  instructionPointer : UInt64
  stackPointer : UInt64
deriving DecidableEq

namespace Layout

def slot (l : Layout) : Register → Slot
  | .syscallNumber => ⟨.syscallNumber, l.syscallNumber⟩
  | .instructionPointer => ⟨.instructionPointer, l.instructionPointer⟩
  | .stackPointer => ⟨.stackPointer, l.stackPointer⟩

theorem register_slot (l : Layout) (r : Register) : (l.slot r).register = r := by
  cases r <;> rfl

/-- a layout by the positions of its slots -/
def ofPositions (arch : Arch) (syscallNumber instructionPointer stackPointer : Nat) :
    Layout where
  arch
  syscallNumber := .ofNat (syscallNumber * arch.wordSize)
  instructionPointer := .ofNat (instructionPointer * arch.wordSize)
  stackPointer := .ofNat (stackPointer * arch.wordSize)

def ofArch : Arch → Layout
  | .x8664 => ofPositions .x8664 15 16 19
  | .x86 => ofPositions .x86 11 12 15
  -- register 8 holds the number on entry to a system call only
  | .aarch64 => ofPositions .aarch64 8 32 31

def native : Layout where
  arch := .x8664
  syscallNumber := UserRegister.origRax.offset
  instructionPointer := UserRegister.rip.offset
  stackPointer := UserRegister.rsp.offset

theorem native_eq : native = ofArch .x8664 := by decide

end Layout

/-- number of the system call that executes a program, on the native architecture -/
def execveNumber : Word := 59

def isExecve (w : Word) : Bool := w == execveNumber

end ProcTrace
