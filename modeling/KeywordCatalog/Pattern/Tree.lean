import KeywordCatalog.Pattern.CharTest

/-!
# Search patterns as trees

What a written search pattern means: tests on single characters, anchors, sequences, choices,
groups, references to groups, repetitions, looks ahead and behind, and conditions on groups.

A repetition of a single test is a tree of its own (`Node.span`), since it is matched without going
through its rounds one by one. `Node.width` bounds the number of characters that a tree takes, which
a look behind needs.
-/

namespace KeywordCatalog.Pattern

/-- A place in the text that takes no character. -/
inductive Anchor
  /-- The start of the text, or of a line. -/
  | lineStart (everyLine : Bool)
  /-- The end of the text, the place before a line break that ends it, or the end of a line. -/
  | lineEnd (everyLine : Bool)
  | textStart
  | textEnd
  /-- The border of a word, or a place that is none. -/
  | wordBorder (narrow negated : Bool)
deriving DecidableEq, Repr

/-- How a repetition chooses the number of its rounds. -/
inductive Greed
  /-- As many as possible, fewer when the rest asks for it. -/
  | greedy
  /-- As few as possible, more when the rest asks for it. -/
  | lazy
  /-- As many as possible, for good. -/
  | possessive
deriving DecidableEq, Repr

/-- A search pattern. -/
inductive Node
  | empty
  | one (test : CharTest)
  | anchor (place : Anchor)
  | seq (first rest : Node)
  | alt (first rest : Node)
  /-- Parentheses with options of their own that keep nothing. -/
  | scope (body : Node)
  /-- Parentheses that keep the text they took under a number. -/
  | capture (number : Nat) (body : Node)
  /-- The text that a group took. -/
  | again (rule : CaseRule) (number : Nat)
  /-- A repetition of a single test. -/
  | span (least : Nat) (most : Option Nat) (greed : Greed) (test : CharTest)
  | repeated (least : Nat) (most : Option Nat) (greed : Greed) (body : Node)
  /-- A body whose first way to match is the only one tried. -/
  | atomic (body : Node)
  /-- A body that has to match from here on, or must not. -/
  | ahead (negated : Bool) (body : Node)
  /-- A body of a fixed width that has to match right before this place, or must not. -/
  | behind (width : Nat) (negated : Bool) (body : Node)
  /-- One of two bodies, by whether a group has taken text. -/
  | given (number : Nat) (yes no : Node)
deriving DecidableEq, Repr

/-- The widths beyond which a tree counts as unbounded. -/
def widthLimit : Nat := 18446744073709551616

/-- The width that a look behind must stay below. -/
def fixedLimit : Nat := 4294967296

/-- The least and the greatest width of a number of rounds. -/
def roundsWidth (least : Nat) (most : Option Nat) (width : Nat × Nat) : Nat × Nat :=
  let high :=
    match most with
    | some m => width.2 * m
    | none => if width.2 == 0 then 0 else widthLimit
  (min (width.1 * least) widthLimit, min high widthLimit)

namespace Node

/-- The least and the greatest number of characters that a tree takes, the widths of closed groups
being known. -/
def width (groups : Nat → Nat × Nat) : Node → Nat × Nat
  | .empty | .anchor _ | .ahead .. | .behind .. => (0, 0)
  | .one _ => (1, 1)
  | .seq a b =>
    let (lo, hi) := a.width groups
    let (lo', hi') := b.width groups
    (min (lo + lo') widthLimit, min (hi + hi') widthLimit)
  | .alt a b | .given _ a b =>
    let (lo, hi) := a.width groups
    let (lo', hi') := b.width groups
    (min lo lo', max hi hi')
  | .scope body | .capture _ body | .atomic body => body.width groups
  | .again _ number => groups number
  | .span least most _ _ => roundsWidth least most (1, 1)
  | .repeated least most _ body => roundsWidth least most (body.width groups)

/-- The only test of a tree, if it is no more than that. -/
def test? : Node → Option CharTest
  | .one test => some test
  | .scope body => body.test?
  | _ => none

/-- The test that a match of the tree starts with, if there is such a test. -/
def firstTest? : Node → Option CharTest
  | .one test => some test
  | .seq a _ => a.firstTest?
  | .scope body | .capture _ body => body.firstTest?
  | _ => none

/-- Tests that characters of every match of the tree pass, in the order of those characters. -/
def needs : Node → List CharTest
  | .one test => [test]
  | .seq a b => a.needs ++ b.needs
  | .scope body | .capture _ body | .atomic body => body.needs
  | .span least _ _ test => if least == 0 then [] else [test]
  | .repeated least _ _ body => if least == 0 then [] else body.needs
  | _ => []

/-- Trees in a row. -/
def row : List Node → Node
  | [] => .empty
  | [item] => item
  | item :: items => .seq item (row items)

/-- Trees of which one is taken, the first ones being tried first. -/
def choice : List Node → Node
  | [] => .empty
  | [item] => item
  | item :: items => .alt item (choice items)

/-- The repetition of a tree. -/
def rounds (least : Nat) (most : Option Nat) (greed : Greed) (body : Node) : Node :=
  match body.test? with
  | some test => .span least most greed test
  | none => .repeated least most greed body

/-- Whether a tree is a repetition. -/
def isRepetition : Node → Bool
  | .span .. | .repeated .. => true
  | _ => false

@[simp] theorem row_nil : row [] = .empty := rfl

@[simp] theorem row_singleton (item : Node) : row [item] = item := rfl

theorem rounds_one (least : Nat) (most : Option Nat) (greed : Greed) (test : CharTest) :
    rounds least most greed (.one test) = .span least most greed test := rfl

end Node

end KeywordCatalog.Pattern
