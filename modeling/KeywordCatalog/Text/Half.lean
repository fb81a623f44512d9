/-!
# Halves of pairs

A text that was written by its code units may hold one half of a pair without the other. Such a half
is a code point, but no character, and a text that holds one has no bytes. Within a text it is kept
as a character of a plane in which no characters are assigned, so that it stays one element of the
text; `Text.codeOf` gives its code point back.
-/

namespace KeywordCatalog.Text

/-- Whether a code point is the first half of a pair. -/
def isHighHalf (n : Nat) : Bool := 0xD800 ≤ n && n < 0xDC00

/-- Whether a code point is the second half of a pair. -/
def isLowHalf (n : Nat) : Bool := 0xDC00 ≤ n && n < 0xE000

/-- Whether a code point is half of a pair. -/
def isHalf (n : Nat) : Bool := isHighHalf n || isLowHalf n

/-- The distance from a half to the character that it is kept as. -/
def halfShift : Nat := 0xD0000

/-- The character that a code point is kept as. -/
def charOf (n : Nat) : Char := Char.ofNat (if isHalf n then halfShift + n else n)

/-- The code point that a character is kept for. -/
def codeOf (c : Char) : Nat :=
  if isHalf (c.toNat - halfShift) then c.toNat - halfShift else c.toNat

/-- Whether a text has bytes: no half is in it. -/
def hasBytes (text : List Char) : Bool := text.all fun c => !isHalf (codeOf c)

/-- Whether a code point stands in a path for a byte that is no character. -/
def isPathByte (n : Nat) : Bool := 0xDC80 ≤ n && n < 0xDD00

/-- Whether a text can be a path: its halves all stand for bytes. -/
def isPathText (text : List Char) : Bool :=
  text.all fun c => !isHalf (codeOf c) || isPathByte (codeOf c)

end KeywordCatalog.Text
