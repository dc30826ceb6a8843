import ProcTrace.CString

/-!
# Hexadecimal text

Lower-case digits, no prefix: `Hex.number` writes a number without leading zeros, `Hex.bytes` two
digits for every byte.
-/

namespace ProcTrace.Hex

def digit (n : Nat) : Char := (Nat.digitChar (n % 16))

def number (n : Nat) : String := String.ofList (Nat.toDigits 16 n)

def pushByte (s : String) (b : UInt8) : String :=
  (s.push (digit (b.toNat / 16))).push (digit b.toNat)

def bytes (bs : Bytes) : String := bs.foldl pushByte ""

end ProcTrace.Hex
