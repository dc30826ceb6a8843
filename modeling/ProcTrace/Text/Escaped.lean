import ProcTrace.Text.Glyph
import ProcTrace.Text.Hex

/-!
# Byte strings in quotes

A byte string is shown between double quotes:

* a character beyond ASCII whose bytes are well-formed UTF-8 as it is if it has a glyph of its own
  (`Glyph.standsAlone`), and by its code point in hexadecimal, as `\u{301}`, if it has not;
* tab, line feed, carriage return, quotes and backslash by their short escapes;
* every other byte that is no printable ASCII character as `\xNN`.
-/

namespace ProcTrace.Escaped

/-- the character that opens a byte string, if it is well-formed UTF-8 -/
def firstChar? (bs : Bytes) : Option Char := ByteArray.utf8DecodeChar? ⟨(bs.take 4).toArray⟩ 0

def shortEscape? (b : UInt8) : Option String :=
  match b with
  | 0x09 => some "\\t"
  | 0x0a => some "\\n"
  | 0x0d => some "\\r"
  | 0x22 => some "\\\x22"
  | 0x27 => some "\\\x27"
  | 0x5c => some "\\\\"
  | _ => none

/-- a byte by itself -/
def byte (b : UInt8) : String :=
  match shortEscape? b with
  | some s => s
  | none =>
    if 0x20 ≤ b && b < 0x7f then String.singleton (Char.ofNat b.toNat)
    else Hex.pushByte "\\x" b

/-- a character beyond ASCII -/
def char (c : Char) : String :=
  if Glyph.standsAlone c then String.singleton c
  else "\\u\x7b" ++ Hex.number c.toNat ++ "\x7d"

/-- writes the bytes behind the first `skip`, which belong to a character that is written already -/
def body : Nat → Bytes → String → String
  | _, [], out => out
  | skip + 1, _ :: bs, out => body skip bs out
  | 0, b :: bs, out =>
    if b < 0x80 then body 0 bs (out ++ byte b)
    else
      match firstChar? (b :: bs) with
      | some c => body (c.utf8Size - 1) bs (out ++ char c)
      | none => body 0 bs (out ++ byte b)

def quoted (bs : Bytes) : String := (body 0 bs "\x22").push '\x22'

end ProcTrace.Escaped
