import KeywordCatalog.Text.Basic

/-!
# Common blocks of two texts

The longest run of characters that two texts share, found row by row: a row holds, for each
position of the second text, the length of the run that ends there. Of runs of the same length the
one that ends first in the first text counts.

In a second text of at least 200 characters, characters that make up more than a hundredth of it are
too frequent to start a run. They only lengthen the run that was found, on both of its ends.
-/

namespace KeywordCatalog.Text

/-- A run that two texts share: where it starts in each of them, and its length. -/
structure Block where
  inFirst : Nat
  inSecond : Nat
  size : Nat
deriving DecidableEq, Repr

/-- Whether a character is too frequent in a text to start a run. -/
def isFrequent (text : List Char) (c : Char) : Bool :=
  200 ≤ text.length && text.length / 100 + 1 < text.count c

/-- The row of the character `c`, given the row before it and the character of the second text
that each entry is for. -/
def nextRow (c : Char) (before : Nat) : List (Char × Bool) → List Nat → List Nat
  | [], _ => []
  | (x, frequent) :: second, row =>
    let above := row.headD 0
    (if x == c && !frequent then before + 1 else 0) :: nextRow c above second row.tail

/-- The best of a block and the runs that end in a row. -/
def betterBlock (i : Nat) : Nat → List Nat → Block → Block
  | _, [], best => best
  | j, k :: row, best =>
    betterBlock i (j + 1) row (if best.size < k then ⟨i + 1 - k, j + 1 - k, k⟩ else best)

/-- The longest block of the rows for the rest of the first text. -/
def longestBlock (second : List (Char × Bool)) : Nat → List Char → List Nat → Block → Block
  | _, [], _, best => best
  | i, c :: first, row, best =>
    let row' := nextRow c 0 second row
    longestBlock second (i + 1) first row' (betterBlock i 0 row' best)

/-- The number of characters that two texts start with in common. -/
def commonStart : List Char → List Char → Nat
  | a :: as, b :: bs => if a == b then commonStart as bs + 1 else 0
  | _, _ => 0

/-- The length of the longest run of characters that two texts share. -/
def commonSize (first second : List Char) : Nat :=
  let marked := second.map fun c => (c, isFrequent second c)
  let best := longestBlock marked 0 first [] ⟨0, 0, 0⟩
  commonStart (first.take best.inFirst).reverse (second.take best.inSecond).reverse + best.size
    + commonStart (first.drop (best.inFirst + best.size)) (second.drop (best.inSecond + best.size))

end KeywordCatalog.Text
