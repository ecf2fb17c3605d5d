import Parley.Unicode.Interval

/-!
# White space

The characters that separate words: those with the Unicode property White_Space. The zero width
space and the four information separators are not among them, the next-line control is.
-/
namespace Parley.Unicode

/-- The intervals of the property White_Space. -/
def whiteSpaceTable : List (Nat × Nat) := [
  (0x09, 0x0D), (0x20, 0x20), (0x85, 0x85), (0xA0, 0xA0), (0x1680, 0x1680), (0x2000, 0x200A),
  (0x2028, 0x2029), (0x202F, 0x202F), (0x205F, 0x205F), (0x3000, 0x3000)]

def isWhiteSpace (c : Char) : Bool := within whiteSpaceTable c.toNat

end Parley.Unicode
