import KeywordCatalog.Pattern.Marks
import KeywordCatalog.Pattern.Tree

/-!
# Matching

A backtracking matcher. `Node.run` tries the ways in which a tree can match from a place in the
text, in order of preference, and hands the place after each way to a continuation; the first way
whose continuation succeeds is the answer. A failure hands back the marks that it leaves, since the
ways tried next start from them. `Node.searchFrom` looks for the first place in a text from which a
tree matches.

A round of a repetition that takes no character is allowed once; after it the repetition ends. So
every repetition from a place has at most as many rounds as its least number and the characters
left, with one more for the round that takes none.
-/

namespace KeywordCatalog.Pattern

open Text

namespace Place

/-- The place after the next character, if that passes a test. -/
def take (p : Place) (test : Char → Bool) : Option Place :=
  match p.after with
  | [] => none
  | x :: rest => if test x then some ⟨p.pos + 1, x :: p.before, rest⟩ else none

/-- The place after a text under a rule for case. -/
def takeText (rule : CaseRule) : List Char → Place → Option Place
  | [], p => some p
  | x :: text, p =>
    match p.take fun y => rule.lower (codeOf x) == rule.lower (codeOf y) with
    | some p' => takeText rule text p'
    | none => none

/-- The place `n` characters back. -/
def back : Nat → Place → Option Place
  | 0, p => some p
  | n + 1, p =>
    match p.before with
    | [] => none
    | x :: rest => back n ⟨p.pos - 1, rest, x :: p.after⟩

/-- The places after up to `n` characters that pass a test, the furthest first, in front of some
others. -/
def spans (test : Char → Bool) : Nat → Place → List Place → List Place
  | 0, p, others => p :: others
  | n + 1, p, others =>
    match p.take test with
    | some p' => spans test n p' (p :: others)
    | none => p :: others

/-- Whether a character is there and stands in words. -/
def isWordAt (narrow : Bool) (c : Option Char) : Bool :=
  c.any fun x => Category.word.has narrow (codeOf x)

end Place

/-- Whether a place is where an anchor asks for. -/
def Anchor.holds : Anchor → Place → Bool
  | .lineStart everyLine, p => p.before.isEmpty || (everyLine && p.before.head? == some '\n')
  | .lineEnd everyLine, p =>
    p.after.isEmpty || p.after == ['\n'] || (everyLine && p.after.head? == some '\n')
  | .textStart, p => p.before.isEmpty
  | .textEnd, p => p.after.isEmpty
  | .wordBorder narrow negated, p =>
    if p.before.isEmpty && p.after.isEmpty then false
    else
      (Place.isWordAt narrow p.before.head? != Place.isWordAt narrow p.after.head?) != negated

/-- What came of a way to match. -/
inductive Outcome
  | found (stop : Place) (marks : Marks)
  /-- No match; the marks are what the attempt left. -/
  | failed (marks : Marks)
deriving DecidableEq, Repr

/-- What is left to match after a place. -/
abbrev Rest := Place → Marks → Outcome

/-- A way to match that starts at a place. -/
abbrev Way := Place → Marks → Rest → Outcome

namespace Outcome

/-- Tries something else after a failure, with the marks put back. -/
def orElse (inside : Bool) (saved : Marks) (first : Outcome) (next : Marks → Outcome) : Outcome :=
  match first with
  | .found p m => .found p m
  | .failed left => next (Marks.back inside saved left)

end Outcome

/-- Tries the rest at some places in turn. -/
def firstOf (inside : Bool) (saved : Marks) (k : Rest) : List Place → Marks → Outcome
  | [], m => .failed m
  | p :: places, m => (k p m).orElse inside saved (firstOf inside saved k places)

/-- Whether another round may follow `count` rounds. -/
def mayRepeat (most : Option Nat) (count : Nat) : Bool :=
  match most with
  | some m => count < m
  | none => true

/-- The rounds of a greedy repetition after `count` rounds, the last optional one having started
at `last`. An optional round that fails leaves no marks. -/
def greedyRounds (body : Way) (least : Nat) (most : Option Nat) :
    Nat → Nat → Option Nat → Way
  | 0, _, _, p, m, k => k p m
  | fuel + 1, count, last, p, m, k =>
    if count < least then
      body p m fun p' m' => greedyRounds body least most fuel (count + 1) last p' m' k
    else if mayRepeat most count && last != some p.pos then
      (body p m fun p' m' =>
        greedyRounds body least most fuel (count + 1) (some p.pos) p' m' k).orElse true m (k p)
    else k p m

/-- The rounds of a lazy repetition after `count` rounds, the last optional one having started at
`last`. -/
def lazyRounds (inside : Bool) (body : Way) (least : Nat) (most : Option Nat) :
    Nat → Nat → Option Nat → Way
  | 0, _, _, p, m, k => k p m
  | fuel + 1, count, last, p, m, k =>
    if count < least then
      body p m fun p' m' => lazyRounds inside body least most fuel (count + 1) last p' m' k
    else
      (k p m).orElse inside m fun m =>
        if mayRepeat most count && last != some p.pos then
          body p m fun p' m' =>
            lazyRounds inside body least most fuel (count + 1) (some p.pos) p' m' k
        else .failed m

/-- The rounds of a possessive repetition after `count` rounds, each taken in its first way, the
last optional one having started at `last`. -/
def possessiveRounds (body : Way) (least : Nat) (most : Option Nat) :
    Nat → Nat → Option Nat → Place → Marks → Outcome
  | 0, _, _, p, m => .found p m
  | fuel + 1, count, last, p, m =>
    if count < least then
      match body p m .found with
      | .found p' m' => possessiveRounds body least most fuel (count + 1) last p' m'
      | .failed left => .failed left
    else if mayRepeat most count && last != some p.pos then
      match body p m .found with
      | .found p' m' => possessiveRounds body least most fuel (count + 1) (some p.pos) p' m'
      | .failed _ => .found p m
    else .found p m

/-- Goes on after a part that is matched in its first way only. -/
def Outcome.thenDo (first : Outcome) (k : Rest) : Outcome :=
  match first with
  | .found p m => k p m
  | .failed left => .failed left

/-- The number of rounds that a repetition can have from a place, with one to spare. -/
def roundLimit (least : Nat) (p : Place) : Nat := least + p.after.length + 2

/-- A repetition of a single test. -/
def spanRounds (inside : Bool) (test : Char → Bool) (least : Nat) (most : Option Nat) :
    Greed → Way
  | greed, p, m, k =>
    let all := p.spans test (most.getD p.after.length) []
    match (if least == 0 then all else all.take (all.length - least)) with
    | [] => .failed m
    | furthest :: nearer =>
      match greed with
      | .greedy => firstOf inside m k (furthest :: nearer) m
      | .lazy => firstOf inside m k (furthest :: nearer).reverse m
      | .possessive => k furthest m

/-- What came of the first way to match a tree from a place whose rest matches too; `inside` says
whether the tree stands inside a repetition. -/
def Node.run : Node → Bool → Way
  | .empty, _, p, m, k => k p m
  | .one test, _, p, m, k =>
    match p.take test.accepts with
    | some p' => k p' m
    | none => .failed m
  | .anchor place, _, p, m, k => if place.holds p then k p m else .failed m
  | .seq a b, inside, p, m, k => a.run inside p m fun p' m' => b.run inside p' m' k
  | .alt a b, inside, p, m, k =>
    (a.run inside p m k).orElse inside m fun m' => (b.run inside p m' k).orElse inside m .failed
  | .scope body, inside, p, m, k => body.run inside p m k
  | .capture number body, inside, p, m, k =>
    body.run inside p (m.openGroup number p) fun p' m' => k p' (m'.closeGroup number p')
  | .again rule number, _, p, m, k =>
    match m.span? number with
    | some (start, stop) =>
      match Place.takeText rule (start.textTo stop) p with
      | some p' => k p' m
      | none => .failed m
    | none => .failed m
  | .span least most greed test, inside, p, m, k =>
    spanRounds inside test.accepts least most greed p m k
  | .repeated least most .greedy body, _, p, m, k =>
    greedyRounds (fun p m k => body.run true p m k) least most (roundLimit least p) 0 none p m k
  | .repeated least most .lazy body, inside, p, m, k =>
    lazyRounds inside (fun p m k => body.run true p m k) least most (roundLimit least p) 0 none
      p m k
  | .repeated least most .possessive body, inside, p, m, k =>
    (possessiveRounds (fun p m k => body.run inside p m k) least most (roundLimit least p) 0 none
      p m).thenDo k
  | .atomic body, inside, p, m, k => (body.run inside p m .found).thenDo k
  | .ahead false body, inside, p, m, k =>
    (body.run inside p m .found).thenDo fun _ m' => k p m'
  | .ahead true body, inside, p, m, k =>
    match body.run inside p m .found with
    | .found _ left => .failed left
    | .failed left => k p (Marks.back inside m left)
  | .behind width negated body, inside, p, m, k =>
    match p.back width with
    | none => if negated then k p m else .failed m
    | some start =>
      match body.run inside start m .found with
      | .found _ left => if negated then .failed left else k p left
      | .failed left => if negated then k p (Marks.back inside m left) else .failed left
  | .given number yes no, inside, p, m, k =>
    if (m.span? number).isSome then yes.run inside p m k else no.run inside p m k

/-- A match that a search found. -/
structure Match where
  start : Place
  stop : Place
  marks : Marks
deriving DecidableEq, Repr

namespace Match

/-- The text of a match. -/
def text (m : Match) : List Char := m.start.textTo m.stop

/-- The text that a group took, if it took part in the match. -/
def group? (m : Match) (number : Nat) : Option (List Char) :=
  (m.marks.ends? number).map fun (start, stop) => start.textTo stop

/-- Whether a group of the match is marked to end before it starts. -/
def isTangled (m : Match) : Bool :=
  (List.range (m.marks.length / 2)).any fun i =>
    (m.marks.ends? (i + 1)).any fun (start, stop) => stop.pos < start.pos

end Match

/-- The match of a tree that starts at a place. -/
def Node.matchAt (node : Node) (p : Place) : Option Match :=
  match node.run false p [] .found with
  | .found stop marks => some ⟨p, stop, marks⟩
  | .failed _ => none

/-- The match with the first start at or after a place, among the places that pass a test. -/
def Node.searchFrom (node : Node) (mayStart : List Char → Bool) (pos : Nat) (before : List Char) :
    List Char → Option Match
  | [] => if mayStart [] then node.matchAt ⟨pos, before, []⟩ else none
  | x :: rest =>
    match (if mayStart (x :: rest) then node.matchAt ⟨pos, before, x :: rest⟩ else none) with
    | some m => some m
    | none => node.searchFrom mayStart (pos + 1) (x :: before) rest

@[simp] theorem Node.run_empty (inside : Bool) (p : Place) (m : Marks) (k : Rest) :
    Node.empty.run inside p m k = k p m := rfl

@[simp] theorem Node.run_seq (a b : Node) (inside : Bool) (p : Place) (m : Marks) (k : Rest) :
    (Node.seq a b).run inside p m k = a.run inside p m fun p' m' => b.run inside p' m' k := rfl

@[simp] theorem Node.run_scope (body : Node) (inside : Bool) (p : Place) (m : Marks) (k : Rest) :
    (Node.scope body).run inside p m k = body.run inside p m k := rfl

end KeywordCatalog.Pattern
