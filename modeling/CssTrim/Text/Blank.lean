import CssTrim.Text.Ranges

/-!
# Blank characters

The characters that separate words: the ASCII controls from tab to carriage
return, the four information separators, the space, and the characters that
Unicode lists as white space.  The zero width space and the byte order mark are
not among them.
-/

namespace CssTrim.Text

/-- The blank characters. -/
def blankRanges : List Range := [
  (0x9, 0xd), (0x1c, 0x20), (0x85, 0x85), (0xa0, 0xa0), (0x1680, 0x1680),
  (0x2000, 0x200a), (0x2028, 0x2029), (0x202f, 0x202f), (0x205f, 0x205f), (0x3000, 0x3000)]

/-- Whether a character separates words. -/
def isBlank (c : Char) : Bool := inRanges c.toNat blankRanges

end CssTrim.Text
