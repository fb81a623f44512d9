import KeywordCatalog.Pattern.CharTest

/-!
# File name masks

Masks with `*` for any run of characters, `?` for one character and brackets for one character of
a set. A mask is a list of pieces, and `Glob.accepts` tries them against a whole name.

Inside brackets hyphens divide the set into chunks, and the characters on both sides of a division
are the ends of a range; a range whose ends are in the wrong order is dropped. An exclamation mark
in front of what is left asks for the characters outside the set. A bracket that is never closed is
a character.
-/

namespace KeywordCatalog.Glob

open Pattern

/-- A piece of a mask. -/
inductive Piece
  /-- Any run of characters. -/
  | many
  /-- One character that passes a test. -/
  | one (test : CharTest)
deriving DecidableEq, Repr

/-- A text and what is left of it after each of its characters. -/
def tails : List Char → List (List Char)
  | [] => [[]]
  | c :: rest => (c :: rest) :: tails rest

/-- Whether a name as a whole fits the pieces of a mask. -/
def accepts : List Piece → List Char → Bool
  | [], text => text.isEmpty
  | .many :: pieces, text => (tails text).any (accepts pieces)
  | .one test :: pieces, text =>
    match text with
    | [] => false
    | c :: rest => test.accepts c && accepts pieces rest

/-- For each place of a list, whether it or a later one holds true. -/
def orLater : List Bool → List Bool
  | [] => []
  | b :: rest => (b || rest.any id) :: orLater rest

/-- For what is left of a text after each of its characters, the whole text first, whether it fits
the pieces of a mask. The answers for a piece come from those for the pieces after it, so that no
place is tried twice. -/
def fitting : List Piece → List Char → List Bool
  | [], text => (tails text).map List.isEmpty
  | .many :: pieces, text => orLater (fitting pieces text)
  | .one test :: pieces, text =>
    List.zipWith (fun c later => test.accepts c && later) text (fitting pieces text).tail ++ [false]

theorem orLater_map_tails (f : List Char → Bool) (text : List Char) :
    orLater ((tails text).map f) = (tails text).map fun t => (tails t).any f := by
  induction text with
  | nil => simp [tails, orLater]
  | cons c rest ih => simp [tails, orLater, ih]

/-- The rows of answers are the answers of `accepts`. -/
theorem fitting_eq (pieces : List Piece) (text : List Char) :
    fitting pieces text = (tails text).map (accepts pieces) := by
  induction pieces generalizing text with
  | nil => simp only [fitting]; congr
  | cons p pieces ih =>
    cases p with
    | many => simp only [fitting, ih, orLater_map_tails]; congr
    | one test =>
      simp only [fitting, ih]
      induction text with
      | nil => simp [tails, accepts]
      | cons c rest ihr =>
        cases rest with
        | nil => simp [tails, accepts]
        | cons d rest => simp_all [tails, accepts]

/-- The chunks of a set between the hyphens that make ranges. A chunk has `least` characters before
a hyphen can divide it from the next one. -/
def chunks (least : Nat) (current : List Char) : List Char → List (List Char)
  | [] => [current.reverse]
  | c :: rest =>
    if c == '-' && least ≤ current.length then current.reverse :: chunks 2 [] rest
    else chunks least (c :: current) rest

/-- The chunks of a set, a hyphen at its end being part of the last chunk. An exclamation mark in
front does not count as the start of a range. -/
def chunksOf (set : List Char) : List (List Char) :=
  let all := chunks (if set.head? == some '!' then 2 else 1) [] set
  match all.reverse with
  | [] :: last :: before => (before.reverse) ++ [last ++ ['-']]
  | _ => all

/-- Joins two chunks whose division would be a range in the wrong order. -/
def dropEmptyRange (chunk : List Char) (rest : List (List Char)) : List (List Char) :=
  match chunk.getLast?, rest with
  | some lo, (hi :: more) :: others =>
    if hi < lo then (chunk.dropLast ++ more) :: others else chunk :: rest
  | _, _ => chunk :: rest

/-- The members of a set, given its chunks. A chunk after the first one starts with the upper end
of a range. -/
def members (later : Bool) : List (List Char) → List ClassItem
  | [] => []
  | [chunk] => (chunk.drop later.toNat).map fun c => .char (Text.codeOf c)
  | chunk :: next :: rest =>
    let inner := ((chunk.drop later.toNat).dropLast).map fun c => ClassItem.char (Text.codeOf c)
    let range : List ClassItem :=
      match chunk.getLast?, next.head? with
      | some lo, some hi => [.range (Text.codeOf lo) (Text.codeOf hi)]
      | _, _ => []
    inner ++ range ++ members true (next :: rest)

/-- The test for some chunks. An exclamation mark in front asks for the characters outside the set,
and a hyphen right after it is a character. -/
def chunksTest : List (List Char) → CharTest
  | ['!'] :: next :: rest => .oneOf .exact true (members false (('-' :: next) :: rest))
  | ('!' :: chunk) :: rest => .oneOf .exact true (members false (chunk :: rest))
  | all => .oneOf .exact false (members false all)

/-- The test that a set in brackets stands for. -/
def setTest (set : List Char) : CharTest :=
  chunksTest ((chunksOf set).foldr dropEmptyRange [])

/-- The set after an opening bracket and the rest of the mask, if the bracket is closed. -/
def closeSet (text : List Char) : Option (List Char × List Char) :=
  let (mark, body) :=
    match text with
    | '!' :: body => (['!'], body)
    | _ => ([], text)
  let (first, body) :=
    match body with
    | ']' :: body => ([']'], body)
    | _ => ([], body)
  match body.dropWhile (· != ']') with
  | [] => none
  | _ :: rest => some (mark ++ first ++ body.takeWhile (· != ']'), rest)

/-- Reads the pieces of a mask, at most as many as the first argument. -/
def read : Nat → List Char → List Piece
  | 0, _ | _ + 1, [] => []
  | fuel + 1, c :: rest =>
    if c == '*' then .many :: read fuel rest
    else if c == '?' then .one (.dot true) :: read fuel rest
    else if c == '[' then
      match closeSet rest with
      | some (set, tail) => .one (setTest set) :: read fuel tail
      | none => .one (.letter .exact false '['.toNat) :: read fuel rest
    else .one (.letter .exact false (Text.codeOf c)) :: read fuel rest

/-- The pieces of a mask. -/
def parse (mask : List Char) : List Piece := read mask.length mask

/-- Whether a name fits a mask. -/
def fits (mask name : String) : Bool :=
  (fitting (parse mask.toList) name.toList).headD false

/-- A name fits a mask if its pieces accept it as a whole. -/
theorem fits_eq (mask name : String) :
    fits mask name = accepts (parse mask.toList) name.toList := by
  unfold fits
  rw [fitting_eq]
  cases name.toList <;> rfl

end KeywordCatalog.Glob
