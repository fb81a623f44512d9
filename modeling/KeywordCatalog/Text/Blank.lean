import KeywordCatalog.Text.Ranges

/-!
# Blank characters

The characters that separate words: the white space of Unicode and the four information separators.
-/

namespace KeywordCatalog.Text

/-- The code points of the blank characters. -/
def blankRanges : Ranges :=
  [(9, 13), (28, 32), (133, 133), (160, 160), (5760, 5760), (8192, 8202), (8232, 8233),
   (8239, 8239), (8287, 8287), (12288, 12288)]

/-- Whether a character is blank. -/
def isBlank (c : Char) : Bool := blankRanges.has c.toNat

theorem isBlank_space : isBlank ' ' = true := by decide

end KeywordCatalog.Text
