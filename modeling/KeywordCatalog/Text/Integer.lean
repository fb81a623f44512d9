import KeywordCatalog.Text.Basic
import KeywordCatalog.Text.Blank
import KeywordCatalog.Text.Digits
import KeywordCatalog.Text.Word

/-!
# Integers in texts

An integer as people write it: decimal digits of any script, with single low lines between them, a
sign in front, and blanks around. Information separators are no blanks here.
-/

namespace KeywordCatalog.Text

/-- The value of a decimal digit of any script. The digits of a script stand in a row. -/
def digitValue (c : Char) : Nat :=
  if c.isDigit then c.toNat - '0'.toNat
  else
    match decimalRanges.find? fun r => r.1 ≤ c.toNat && c.toNat ≤ r.2 with
    | some r => (c.toNat - r.1) % 10
    | none => 0

/-- The number that digits write, if they are digits with single low lines between them. -/
def natural? (text : List Char) : Option Nat :=
  let groups := text.splitOn '_'
  let digits := groups.flatten
  if groups.all (fun g => !g.isEmpty && g.all isDecimal) && digits.length ≤ digitLimit then
    some (digits.foldl (fun n d => n * 10 + digitValue d) 0)
  else none

/-- Whether a character may stand around an integer. -/
def surrounds (c : Char) : Bool := isBlank c && !(28 ≤ c.toNat && c.toNat ≤ 31)

/-- The integer that a text writes. -/
def integer? (text : List Char) : Option Int :=
  match trim surrounds text with
  | '+' :: digits => (natural? digits).map Int.ofNat
  | '-' :: digits => (natural? digits).map fun n => -Int.ofNat n
  | digits => (natural? digits).map Int.ofNat

end KeywordCatalog.Text
