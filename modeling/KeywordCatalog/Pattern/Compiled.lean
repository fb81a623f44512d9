import KeywordCatalog.Pattern.Matcher
import KeywordCatalog.Pattern.Reader

/-!
# Compiled patterns

A written pattern as a value that can be searched with. A text that is no pattern is a fault.

A search leaves out the places where no match can start: those where the text is too short, and
those whose next character is not in the class that the pattern starts with. That class is taken
under the options of the whole pattern, whatever options it stands under itself. A text that lacks
characters which every match has is not searched at all.
-/

namespace KeywordCatalog

namespace Pattern

/-- A member of a class under the options of the whole pattern. -/
def ClassItem.within (narrow : Bool) : ClassItem → ClassItem
  | .category kind _ negated => .category kind narrow negated
  | item => item

/-- Whether a class has no member that case can change, as far as the start of a match goes. -/
def startsPlainly (rule : CaseRule) (items : List ClassItem) : Bool :=
  rule == .exact || items.all fun item =>
    match item with
    | .char code => !rule.hasCase code code
    | .range _ _ => !item.isCased rule
    | .category .. => true

/-- The test that the first character of a match must pass. -/
def entryTest? (narrow : Bool) (tree : Node) : Option CharTest :=
  match tree.firstTest? with
  | some (.oneOf rule negated items) =>
    if startsPlainly rule items then some (.oneOf .exact negated (items.map (.within narrow)))
    else none
  | _ => none

end Pattern

/-- A pattern that has been read. -/
structure Pattern where
  tree : Pattern.Node
  /-- The least number of characters that a match has. -/
  least : Nat
  /-- The test that the first character of a match must pass, if the match has one. -/
  entry : Option Pattern.CharTest
  /-- The tests that characters of every match pass. -/
  needs : List Pattern.CharTest
deriving DecidableEq, Repr

namespace Pattern

/-- Reads a pattern under given options. -/
def compileWith (o : Options) (text : List Char) : Except Fault Pattern := do
  let s ← parseWith o text
  let tree := s.tree
  let least := (tree.width s.groupWidth).1
  let entry := if least == 0 then none else entryTest? s.options.narrow tree
  return ⟨tree, least, entry, tree.needs⟩

/-- Reads a pattern. -/
def compile (text : String) : Except Fault Pattern := compileWith {} text.toList

/-- Whether a match may start where a text is left. -/
def mayStart (p : Pattern) (rest : List Char) : Bool :=
  match p.entry, rest with
  | none, _ => true
  | some _, [] => false
  | some test, c :: _ => test.accepts c

/-- The first match in a text, groups being taken as they are marked. -/
def search (p : Pattern) (text : List Char) : Option Match :=
  if text.length < p.least || !passesInOrder p.needs text then none
  else p.tree.searchFrom p.mayStart 0 [] text

/-- The first match in a text. -/
def find (p : Pattern) (text : List Char) : Except Fault (Option Match) :=
  match p.search text with
  | some m => if m.isTangled then .error .tangledMatch else .ok (some m)
  | none => .ok none

/-- Whether a text has a match. -/
def occursIn (p : Pattern) (text : String) : Except Fault Bool :=
  (p.find text.toList).map Option.isSome

end Pattern

end KeywordCatalog
