import KeywordCatalog.Text.Identifier

/-!
# Printable characters

The characters that a quoted text shows as they are. Controls, formats, unassigned code points and
all separators but the space are written as escapes.
-/

namespace KeywordCatalog.Text

/-- Ranges beyond the first 128 code points with all of those that are not printable, and none of those
that are but letters, numbers and the marks that belong to letters. -/
def unprintableRanges : Ranges :=
  .after 0
   [128, 33, 12, 1, 714, 2, 6, 4, 7, 24, 397, 41, 50, 2, 3, 1, 55, 39, 6, 17, 22, 1, 192, 1, 48,
    178, 59, 2, 49, 2, 15, 31, 1, 17, 31, 84, 161, 98, 25, 103, 17, 111, 12, 116, 18, 110, 21, 124,
    22, 189, 6, 22, 26, 114, 3, 74, 29, 164, 72, 41, 39, 38, 15, 1, 13, 37, 198, 10, 377, 276, 32,
    3, 26, 102, 640, 1, 28, 3, 89, 38, 24, 73, 94, 34, 14, 114, 43, 149, 1, 3, 42, 112, 62, 2, 65,
    65, 14, 2, 31, 129, 47, 125, 60, 3, 15, 3, 60, 52, 11, 8, 43, 699, 15, 1, 14, 9, 19, 6, 9, 17,
    24, 8, 47, 21, 27, 17, 33, 15, 33, 15, 140, 4, 663, 25, 11, 21, 1812, 2, 32, 1, 349, 5, 45, 73,
    2, 111, 126, 34, 26, 1, 89, 12, 214, 26, 12, 5, 63, 89, 103, 144, 84, 12, 47, 1, 29293, 3, 55,
    9, 348, 20, 184, 8, 203, 39, 59, 3, 10, 6, 56, 86, 12, 6, 116, 11, 30, 3, 78, 16, 33, 93, 103,
    24, 28, 57, 60, 4, 126, 20271, 26, 15, 125, 16, 445, 63, 1, 32, 42, 6, 51, 1, 19, 1, 4, 149,
    190, 33, 7, 1, 7, 13, 2, 258, 3, 52, 88, 1, 13, 3, 1, 47, 46, 417, 37, 4, 14, 409, 12, 732, 72,
    128, 27, 5, 1, 272, 9, 7, 64, 32, 39, 4, 12, 66, 29, 67, 4, 782, 3, 130, 42, 22, 26, 118, 78,
    49, 62, 1, 5, 115, 18, 8, 39, 9, 96, 51, 44, 96, 11, 342, 92, 1, 5, 30, 72, 240, 38, 34, 69, 27,
    13, 19, 58, 118, 23, 185, 60, 255, 12, 147, 11, 27, 72, 8, 83, 405, 14, 42, 32, 592, 25, 199,
    50, 13, 923, 214, 5, 2843, 99, 14971, 81, 49, 6, 10, 70, 762, 91, 325, 5, 19639, 4, 4784, 116,
    60, 246, 10, 39, 2, 74, 8, 112, 21, 70, 186, 87, 849, 292, 2, 702, 1730, 2, 431, 1, 1630, 2,
    785, 68, 76, 61, 434, 2, 270, 44, 4, 100, 12, 15, 2, 15, 1, 15, 1, 37, 10, 174, 56, 29, 13, 44,
    4, 9, 7, 2, 14, 6, 154, 984, 5, 16, 3, 13, 3, 116, 12, 89, 7, 12, 4, 1, 15, 12, 4, 56, 8, 10, 6,
    40, 8, 30, 2, 2, 78, 340, 12, 14, 2, 5, 3, 5, 3, 7, 9, 29, 3, 11, 5, 6, 10, 10, 6, 8, 8, 7, 9,
    147, 1, 55, 984117]

/-- Whether a quoted text shows the character as it is. -/
def isPrintable (c : Char) : Bool :=
  if c.toNat < 128 then 32 ≤ c.toNat && c.toNat < 127
  else isAlphanumeric c || identifierMarks.has c.toNat || !unprintableRanges.has c.toNat

end KeywordCatalog.Text
