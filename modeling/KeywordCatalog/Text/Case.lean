import KeywordCatalog.Text.CaseTable

/-!
# Letter case

Lower case forms of characters and of texts, and the comparison of characters that ignores case.

A text is put into lower case character by character, with two rules of its own: a capital sigma
at the end of a word becomes a final sigma, and the dotted capital I keeps its dot as a combining
character. Characters are compared by their single lower case forms; two lower case letters that
share an upper case form count as the same.
-/

namespace KeywordCatalog.Text

/-- The lower case form of a code point. -/
def lowerCode (n : Nat) : Nat :=
  if n < 128 then (if 65 ≤ n && n ≤ 90 then n + 32 else n) else lowerShifts.apply n

/-- The lower case form of a single character. -/
def lowerChar (c : Char) : Char := Char.ofNat (lowerCode c.toNat)

/-- Whether a code point differs from its lower or its upper case form. -/
def isCasedCode (n : Nat) : Bool := casedRanges.has n

/-- The lower case code points that count as the same as a given one, itself left out. -/
def variantsOf (n : Nat) : List Nat := (lowerVariants.lookup n).getD []

/-- The code points whose lower case form is `n`. -/
def lowerSources (n : Nat) : List Nat :=
  if lowerCode n == n then n :: lowerShifts.sources n else lowerShifts.sources n

/-- The code points that a lower case code point `n` stands for when case is ignored. -/
def caseMates (n : Nat) : List Nat := lowerSources n ++ (variantsOf n).flatMap lowerSources

/-- The upper case form of a code point: the first one whose lower case form it is, save for some
that have a form of their own. -/
def upperCode (n : Nat) : Nat :=
  match ownUppers.lookup n with
  | some m => m
  | none => (lowerShifts.sources n).headD n

/-- Whether the code point `n` is the same letter as the code point `letter` when case is ignored. A
`letter` without case stands for itself only. -/
def sameCode (letter n : Nat) : Bool :=
  if letter < 128 && n < 128 then lowerCode letter == lowerCode n
  else if isCasedCode letter then
    let l := lowerCode letter
    let n := lowerCode n
    n == l || (variantsOf l).contains n
  else letter == n

/-- Whether `c` is the same letter as `letter` when case is ignored. -/
def sameLetter (letter c : Char) : Bool := sameCode letter.toNat c.toNat

/-- Whether a sigma with the given text before it, nearest character first, and after it ends a
word. -/
def endsWord (before after : List Char) : Bool :=
  let ignorable := fun (c : Char) => caseIgnorableRanges.has c.toNat
  let letter := fun (c : Char) => sigmaNeighbourRanges.has c.toNat
  ((before.dropWhile ignorable).head?.any letter) && !((after.dropWhile ignorable).head?.any letter)

/-- The lower case form of the text that follows `before`, nearest character first. -/
def lowerAfter : List Char → List Char → List Char
  | _, [] => []
  | before, c :: rest =>
    let form :=
      if c == 'Σ' then [if endsWord before rest then 'ς' else 'σ']
      else if c == 'İ' then ['i', '\u0307']
      else [lowerChar c]
    form ++ lowerAfter (c :: before) rest

/-- The lower case form of a text. -/
def lower (text : List Char) : List Char := lowerAfter [] text

/-- Whether a character is an upper case letter. -/
def isUpperLetter (c : Char) : Bool :=
  if c.toNat < 128 then c.isUpper
  else lowerChar c != c && !titleRanges.has c.toNat || unpairedUppers.has c.toNat

/-- Whether a character is a lower case or a title case letter. -/
def isSmallLetter (c : Char) : Bool :=
  if c.toNat < 128 then c.isLower
  else (sigmaNeighbourRanges.has c.toNat || casedModifiers.has c.toNat) && !isUpperLetter c

/-- Whether a text has upper case letters and no other letters with case. -/
def isUpperCase (text : List Char) : Bool := text.any isUpperLetter && !text.any isSmallLetter

@[simp] theorem lowerAfter_nil (before : List Char) : lowerAfter before [] = [] := rfl

end KeywordCatalog.Text
