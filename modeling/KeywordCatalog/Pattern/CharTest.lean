import KeywordCatalog.Text.Blank
import KeywordCatalog.Text.Case
import KeywordCatalog.Text.Half
import KeywordCatalog.Text.Word

/-!
# Tests on one character

The part of a search pattern that takes exactly one character: a letter, the dot, or a character
class in brackets, each under a rule for upper and lower case. Characters are compared by their code
points.

A class without letters that have case is tested on the character as it is. Any other class under
a rule that ignores case is tested on the lower case form, against all characters that its members
stand for. Members beyond the first plane of characters are a case of their own: they always count
as letters with case, a single one stands for itself only, and a range stands for its characters and
for those whose upper case forms it has.
-/

namespace KeywordCatalog.Pattern

open Text

/-- How upper and lower case letters are compared. -/
inductive CaseRule
  /-- Case counts. -/
  | exact
  /-- Case is ignored for the letters from A to Z only. -/
  | latin
  /-- Case is ignored for all letters. -/
  | all
deriving DecidableEq, Repr

/-- The lower case form of a code point under a rule. -/
def CaseRule.lower : CaseRule → Nat → Nat
  | .exact, n => n
  | .latin, n => if 65 ≤ n && n ≤ 90 then n + 32 else n
  | .all, n => lowerCode n

/-- The code points that a lower case code point stands for under a rule. -/
def CaseRule.mates : CaseRule → Nat → List Nat
  | .exact, n => [n]
  | .latin, n => if 97 ≤ n && n ≤ 122 then [n, n - 32] else if 65 ≤ n && n ≤ 90 then [] else [n]
  | .all, n => caseMates n

/-- Whether two code points are the same under a rule; the first one is the pattern's. -/
def CaseRule.same : CaseRule → Nat → Nat → Bool
  | .exact, letter, n => letter == n
  | .latin, letter, n => CaseRule.latin.lower letter == CaseRule.latin.lower n
  | .all, letter, n => sameCode letter n

/-- Whether a code point from `lo` to `hi` has another case under a rule. -/
def CaseRule.hasCase : CaseRule → Nat → Nat → Bool
  | .exact, _, _ => false
  | .latin, lo, hi => Ranges.meets [(65, 90), (97, 122)] lo hi
  | .all, lo, hi => casedRanges.meets lo hi

/-- The kinds of character that have an escape of their own. -/
inductive Category
  | digit
  | blank
  | word
deriving DecidableEq, Repr

/-- Whether a code point is of a kind, among all characters or among the first 128 only. -/
def Category.has (kind : Category) (narrow : Bool) (n : Nat) : Bool :=
  if narrow && 128 ≤ n then false
  else
    match kind with
    | .digit => isDecimal (Char.ofNat n)
    | .blank => if narrow then n == 32 || (9 ≤ n && n ≤ 13) else isBlank (Char.ofNat n)
    | .word => isWordChar (Char.ofNat n)

/-- A member of a character class. -/
inductive ClassItem
  | char (code : Nat)
  | range (lo hi : Nat)
  | category (kind : Category) (narrow negated : Bool)
deriving DecidableEq, Repr

/-- The last code point of the first plane of characters. -/
def planeEnd : Nat := 65535

namespace ClassItem

/-- Whether a code point, taken as it is, is of the item. -/
def has : ClassItem → Nat → Bool
  | .char code, n => code == n
  | .range lo hi, n => lo ≤ n && n ≤ hi
  | .category kind narrow negated, n => kind.has narrow n != negated

/-- Whether an item reaches beyond the first plane. -/
def isHigh : ClassItem → Bool
  | .char code => planeEnd < code
  | .range _ hi => planeEnd < hi
  | .category .. => false

/-- Whether a lower case code point stands for a character of the item. -/
def standsFor (rule : CaseRule) (item : ClassItem) (n : Nat) : Bool :=
  match item with
  | .char code => if item.isHigh then code == n else (rule.mates n).contains code
  | .range lo hi =>
    (rule.mates n).any (fun m => lo ≤ m && m ≤ hi)
      || (item.isHigh && ((lo ≤ n && n ≤ hi) || (lo ≤ upperCode n && upperCode n ≤ hi)))
  | .category .. => item.has n

/-- Whether a character of the item has another case under a rule, or counts as such. -/
def isCased (rule : CaseRule) (item : ClassItem) : Bool :=
  rule != .exact &&
    match item with
    | .char code => rule.hasCase code code || item.isHigh
    | .range lo hi => rule.hasCase lo hi || item.isHigh
    | .category .. => false

end ClassItem

/-- A test on one character. -/
inductive CharTest
  /-- Every character, or every one but the line break. -/
  | dot (breaks : Bool)
  /-- One character up to a rule for case, or all others. -/
  | letter (rule : CaseRule) (negated : Bool) (code : Nat)
  /-- The characters of a class, or all others. -/
  | oneOf (rule : CaseRule) (negated : Bool) (items : List ClassItem)
deriving DecidableEq, Repr

/-- Whether a character passes a test. -/
def CharTest.accepts : CharTest → Char → Bool
  | .dot breaks, c => breaks || c != '\n'
  | .letter rule negated code, c => rule.same code (codeOf c) != negated
  | .oneOf rule negated items, c =>
    let inside :=
      if items.any (ClassItem.isCased rule) then
        items.any fun item => item.standsFor rule (rule.lower (codeOf c))
      else items.any fun item => item.has (codeOf c)
    inside != negated

/-- Whether a text has characters that pass some tests, in their order. -/
def passesInOrder : List CharTest → List Char → Bool
  | [], _ => true
  | _ :: _, [] => false
  | test :: tests, c :: rest =>
    if test.accepts c then passesInOrder tests rest else passesInOrder (test :: tests) rest

end KeywordCatalog.Pattern
