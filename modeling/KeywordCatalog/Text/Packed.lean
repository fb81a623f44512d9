/-!
# Packed texts

A packed text is a number that is written in digits of 88 values. It is read as a row of draws: a draw
takes one of several things, and the digits say which. A thing with a larger share of the range of a
draw costs fewer digits (`Draws.choose`).

A text is made in steps (`Unpacking.step`). A step draws a character, or a length of at least three;
after a length it draws how far back the characters of that length stand in the text, and they are
repeated. What was drawn gets more weight in later steps that come after the same character. A text
can have several parts, each with digits of its own, that repeat characters of each other.
-/

namespace KeywordCatalog.Text

/-- A part of a packed text: the number of its steps, and its digits. Line breaks are no part of
them. -/
structure Packed where
  steps : Nat
  digits : String

/-- The number of values that a digit has. -/
def drawnBase : Nat := 88

/-- What a digit counts: the signs from `#` to `z`, with an exclamation mark for the backslash. -/
def drawnDigit (c : Char) : Nat := if c == '!' then '\\'.toNat - '#'.toNat else c.toNat - '#'.toNat

/-- Draws that are still to be made: the digits that were not used yet, and a number below the range
that the next draw divides. -/
structure Draws where
  digits : List Char
  number : Nat := 0
  range : Nat := 1

namespace Draws

/-- Uses digits until the range is wide enough for a draw. -/
def widen (number range : Nat) : List Char → Draws
  | [] => ⟨[], number, range⟩
  | d :: rest =>
    if range < drawnBase ^ 5 then
      widen (number * drawnBase + drawnDigit d) (range * drawnBase) rest
    else ⟨d :: rest, number, range⟩

/-- Draws a number below `count`. -/
def below (count : Nat) (d : Draws) : Nat × Draws :=
  let d := widen d.number d.range d.digits
  let part := d.range / count
  (d.number / part, { d with number := d.number % part, range := part })

/-- The position among some weights that a number falls on, the sum of the weights before it, and its
own weight. -/
def place : Nat → List Nat → Nat × Nat × Nat
  | _, [] => (0, 0, 1)
  | n, weight :: rest =>
    if n < weight then (0, 0, weight)
    else
      let (position, before, own) := place (n - weight) rest
      (position + 1, weight + before, own)

/-- Draws a position among some weights. -/
def choose (weights : List Nat) (d : Draws) : Nat × Draws :=
  let d := widen d.number d.range d.digits
  let part := d.range / weights.foldl (· + ·) 0
  let (position, before, own) := place (d.number / part) weights
  (position, { d with number := d.number - part * before, range := part * own })

end Draws

/-- The characters of packed texts, the more frequent ones first. -/
def packedChars : List Char :=
  "AEIONTRcSUHLdDMP GCaBKYeF0bWV2X13Zfo46587J-m9pnQz|qgrhsitujxlv".toList

/-- The length that the first position after those of the characters stands for. -/
def leastLength : Nat := 3

/-- The unpacking of a text: the text so far, the weights of the characters and lengths after each
character and at the start, and the weights of distances, which are counted in binary digits. -/
structure Unpacking where
  draws : Draws := ⟨[], 0, 1⟩
  text : Array Char := #[]
  weights : List (List Nat) :=
    .replicate (packedChars.length + 1) (.replicate (packedChars.length + 58) 1)
  distances : List Nat := .replicate 19 1

/-- What a weight gets when it is drawn. -/
def addedWeight : Nat := 12

/-- Goes on to the next character or repetition. -/
def Unpacking.step (u : Unpacking) : Unpacking :=
  let context := u.text.back?.elim packedChars.length packedChars.idxOf
  let (position, draws) := u.draws.choose (u.weights[context]?.getD [])
  let weights := u.weights.modify context (·.modify position (· + addedWeight))
  match packedChars[position]? with
  | some c => { u with draws, weights, text := u.text.push c }
  | none =>
    let (size, draws) := draws.choose u.distances
    let least := 1 <<< size
    let (offset, draws) := draws.below least
    let start := u.text.size - (least + offset)
    let length := position - packedChars.length + leastLength
    { draws, weights
      text := u.text ++ u.text.extract start (start + length)
      distances := u.distances.modify size (· + addedWeight) }

/-- Goes on through a part of the text. -/
def Unpacking.part (u : Unpacking) (p : Packed) : Unpacking :=
  let digits := p.digits.toList.filter (· != '\n')
  Nat.repeat step p.steps { u with draws := { digits } }

/-- The text of some packed parts. -/
def unpack (parts : List Packed) : List Char := (parts.foldl Unpacking.part {}).text.toList

example : unpack [⟨17, "1cV<jz2H,n74Flgli!y<YPoK"⟩, ⟨6, "VPXtFIfo2'6K"⟩] =
    "BLACK KING|WHITE KING|WHITE QUEEN".toList := by
  decide +kernel

end KeywordCatalog.Text
