import ProcTrace.Text.Glyph.Extenders
import ProcTrace.Text.Glyph.Unassigned

/-!
# Characters with a glyph of their own

`Glyph.standsAlone` says whether a character beyond ASCII is seen, and seen as one character, when
it is printed.  A control or format character, a separator, a filler, a code point for private use
and one that is not assigned show nothing that says which they are; a grapheme extender changes the
character before it.
-/

namespace ProcTrace.Glyph

/-- control characters beyond ASCII -/
def controls : Ranges := [(0x0080, 0x009f)]

/-- characters that tell how others are laid out or joined -/
def formats : Ranges :=
  [(0x00ad, 0x00ad), (0x0600, 0x0605), (0x061c, 0x061c), (0x06dd, 0x06dd), (0x070f, 0x070f),
   (0x0890, 0x0891), (0x08e2, 0x08e2), (0x180e, 0x180e), (0x200b, 0x200f), (0x202a, 0x202e),
   (0x2060, 0x2064), (0x2066, 0x206f), (0xfeff, 0xfeff), (0xfff9, 0xfffb), (0x110bd, 0x110bd),
   (0x110cd, 0x110cd), (0x13430, 0x1343f), (0x1bca0, 0x1bca3), (0x1d173, 0x1d17a),
   (0xe0001, 0xe0001), (0xe0020, 0xe007f)]

/-- spaces beyond that of ASCII, and separators of lines and paragraphs -/
def separators : Ranges :=
  [(0x00a0, 0x00a0), (0x1680, 0x1680), (0x2000, 0x200a), (0x2028, 0x2029), (0x202f, 0x202f),
   (0x205f, 0x205f), (0x3000, 0x3000)]

/-- letters of the Hangul script that hold the place of a missing one and show nothing -/
def fillers : Ranges := [(0x115f, 0x1160), (0x3164, 0x3164), (0xffa0, 0xffa0)]

def privateUse : Ranges :=
  [(0xe000, 0xf8ff), (0xf0000, 0xffffd), (0x100000, 0x10fffd)]

def standsAlone (c : Char) : Bool :=
  !([controls, formats, separators, fillers, privateUse, unassigned, extenders].any (·.has c))

end ProcTrace.Glyph
