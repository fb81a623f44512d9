import KeywordCatalog.Pattern.Branches
import KeywordCatalog.Pattern.Escape
import KeywordCatalog.Text.Identifier
import KeywordCatalog.Text.Integer

/-!
# Reading search patterns

The written form of a search pattern, read from left to right with a stack of open parentheses.
`State.step` takes one construct: it looks at the next character, and consumes that character and
what belongs to it. `parseWith` runs the steps over a whole text; a text that is no pattern is a
fault.

An item is put on the current branch as soon as it is read; a repetition mark takes the last item
off again and puts its repetition there. Parentheses that only hold things together are dissolved
when their branch ends. Options in a group of their own hold for the whole pattern and are allowed
at its very start only.
-/

namespace KeywordCatalog.Pattern

open Text

/-- The options under which a part of a pattern is read. -/
structure Options where
  ignoreCase : Bool := false
  /-- Line anchors hold at every line. -/
  everyLine : Bool := false
  /-- The dot takes line breaks too. -/
  dotBreaks : Bool := false
  /-- Blanks and comments in the pattern count for nothing. -/
  spaced : Bool := false
  /-- Character kinds and letter case know the first 128 characters only. -/
  narrow : Bool := false
  /-- Repetitions are refused. -/
  unrepeated : Bool := false
deriving DecidableEq, Repr

/-- The rule for case that options ask for. -/
def Options.rule (o : Options) : CaseRule :=
  if o.ignoreCase then (if o.narrow then .latin else .all) else .exact

/-- What an open parenthesis stands for. -/
inductive Opening
  | whole
  | plain
  /-- Parentheses with options of their own. -/
  | scope
  | capture (number : Nat)
  | atomic
  | ahead (negated : Bool)
  /-- A look behind, with a note whether it is inside no other one. -/
  | behind (negated outermost : Bool)
  | given (number : Nat)
deriving DecidableEq, Repr

/-- An item of a branch. -/
inductive Item
  | node (tree : Node)
  /-- Parentheses that only hold a row together. -/
  | parens (row : List Node)
deriving DecidableEq, Repr

/-- The trees that an item stands for. -/
def Item.row : Item → List Node
  | .node tree => [tree]
  | .parens row => row

/-- The part of a pattern inside one open parenthesis. -/
structure Level where
  opening : Opening
  options : Options
  /-- The finished branches, the latest first. -/
  branches : List (List Node) := []
  /-- The items of the current branch, the latest first. -/
  items : List Item := []
deriving DecidableEq, Repr

namespace Level

/-- The trees of the current branch. -/
def currentRow (l : Level) : List Node := l.items.reverse.flatMap Item.row

/-- The trees that a level makes. -/
def row (l : Level) : List Node :=
  joinBranches l.options.rule (l.branches.reverse ++ [l.currentRow])

end Level

/-- A group that keeps text: its name, and its width once it is closed. -/
structure Group where
  name : Option (List Char)
  width : Option (Nat × Nat)
deriving DecidableEq, Repr

/-- What has been read of a pattern. -/
structure State where
  level : Level
  outer : List Level := []
  /-- The groups that keep text, the first has number one. -/
  groups : List Group := []
  /-- Inside a look behind, the least group number that it may not refer to. -/
  ceiling : Option Nat := none
  /-- Group numbers that conditions refer to. -/
  awaited : List Nat := []
  /-- The letters of the options that hold for the whole pattern. -/
  flags : List Char := []
  /-- Whether a parenthesis was closed that had not been opened. -/
  unbalanced : Bool := false
  /-- Whether something was met that is refused when all has been read. -/
  flawed : Bool := false
deriving DecidableEq, Repr

/-- One step of reading: the state and the rest of the text after it. -/
abbrev Step := Except Fault (State × List Char)

namespace State

/-- The state before anything has been read. -/
def initial (o : Options) : State := { level := { opening := .whole, options := o } }

/-- The options in force. -/
def options (s : State) : Options := s.level.options

/-- Puts an item on the current branch. -/
def pushItem (s : State) (item : Item) : State :=
  { s with level := { s.level with items := item :: s.level.items } }

/-- Puts a tree on the current branch. -/
def push (s : State) (tree : Node) : State := s.pushItem (.node tree)

/-- Puts the test for one code point on the current branch. -/
def pushCode (s : State) (code : Nat) : State :=
  s.push (.one (.letter s.options.rule false code))

/-- The width of a closed group. -/
def groupWidth (s : State) (number : Nat) : Nat × Nat :=
  ((s.groups[number - 1]?).bind Group.width).getD (0, 0)

/-- Whether a group has been closed. -/
def isClosed (s : State) (number : Nat) : Bool :=
  number != 0 && ((s.groups[number - 1]?).bind Group.width).isSome

/-- Whether a reference to a group may stand here as far as looks behind are concerned. -/
def allowsReference (s : State) (number : Nat) : Bool :=
  match s.ceiling with
  | none => true
  | some limit => s.isClosed number && number < limit

/-- The number of the group with a name. -/
def numberOf? (s : State) (name : List Char) : Option Nat :=
  (s.groups.findIdx? fun g => g.name == some name).map (· + 1)

/-- Opens a parenthesis. -/
def openLevel (s : State) (opening : Opening) (o : Options) : State :=
  { s with level := { opening, options := o }, outer := s.level :: s.outer }

/-- Opens a group that keeps text. -/
def openCapture (s : State) (name : Option (List Char)) : State :=
  let s' := s.openLevel (.capture (s.groups.length + 1)) s.options
  { s' with groups := s.groups ++ [⟨name, none⟩] }

/-- Ends the current branch. A condition has two branches at most. -/
def nextBranch (s : State) : Except Fault State :=
  match s.level.opening, s.level.branches with
  | .given _, _ :: _ => malformed
  | _, branches =>
    .ok { s with level := { s.level with branches := s.level.currentRow :: branches, items := [] } }

/-- Closes the innermost parenthesis. A look behind must have a fixed width. -/
def close (s : State) : Except Fault State :=
  match s.outer with
  | [] => malformed
  | level :: outer =>
    let row := s.level.row
    let body := Node.row row
    let width := body.width s.groupWidth
    let back (s : State) (item : Item) : State := pushItem { s with level, outer } item
    match s.level.opening with
    | .whole => malformed
    | .plain => .ok (back s (.parens row))
    | .scope => .ok (back s (.node (.scope body)))
    | .capture number =>
      let closed := s.groups.modify (number - 1) fun g => { g with width := some width }
      .ok (back { s with groups := closed } (.node (.capture number body)))
    | .atomic => .ok (back s (.node (.atomic body)))
    | .ahead negated => .ok (back s (.node (.ahead negated body)))
    | .behind negated outermost =>
      let fixed := width.1 == width.2 && width.1 < fixedLimit
      let ceiling := if outermost then none else s.ceiling
      .ok (back { s with ceiling, flawed := s.flawed || !fixed }
        (.node (.behind width.1 negated body)))
    | .given number =>
      match s.level.branches with
      | [] => .ok (back s (.node (.given number (Node.row s.level.currentRow) .empty)))
      | yes :: _ =>
        .ok (back s (.node (.given number (Node.row yes) (Node.row s.level.currentRow))))

/-- Repeats the last item. An anchor or a repetition cannot be repeated. -/
def repeatLast (s : State) (least : Nat) (most : Option Nat) (rest : List Char) : Step :=
  let (greed, rest) :=
    match rest with
    | '?' :: rest => (Greed.lazy, rest)
    | '+' :: rest => (Greed.possessive, rest)
    | _ => (Greed.greedy, rest)
  match s.level.items with
  | [] | .node (.anchor _) :: _ => malformed
  | item :: items =>
    let body := Node.row item.row
    let again :=
      match item with
      | .node tree => tree.isRepetition
      | .parens _ => false
    if again then malformed
    else
      let items := .node (Node.rounds least most greed body) :: items
      .ok ({ s with level := { s.level with items }, flawed := s.flawed || s.options.unrepeated },
        rest)

end State

/-- The number of rounds that is too large to be written. -/
def countLimit : Nat := 4294967295

/-- The number of rounds that digits write. -/
def readRounds (digits : List Char) : Except Fault Nat :=
  if digitLimit < digits.length then .error .numberTooLong
  else if countLimit ≤ decimal digits then .error .numberTooLarge
  else .ok (decimal digits)

namespace State

/-- Repeats the last item as often as the digits in braces say. A backslash that ends the pattern is
met before the digits are looked at. -/
def repeatCounted (s : State) (lo : List Char) (hi : Option (List Char)) (rest : List Char) :
    Step :=
  if rest == ['\\'] then malformed
  else do
    let least ← readRounds lo
    match hi with
    | none => s.repeatLast least none rest
    | some hi =>
      let most ← readRounds hi
      if most < least then malformed else s.repeatLast least (some most) rest

/-- Reads a count in braces after its opening brace. Braces that hold no count are characters. -/
def readCount (s : State) (rest : List Char) : Step :=
  let brace : Step := .ok (s.pushCode '{'.toNat, rest)
  let lo := rest.takeWhile Char.isDigit
  match rest.dropWhile Char.isDigit with
  | '}' :: tail => if lo.isEmpty then brace else s.repeatCounted lo (some lo) tail
  | ',' :: afterComma =>
    let hi := afterComma.takeWhile Char.isDigit
    match afterComma.dropWhile Char.isDigit with
    | '}' :: tail => s.repeatCounted lo (if hi.isEmpty then none else some hi) tail
    | _ => brace
  | _ => brace

/-- Refers to a group by its number. -/
def refer (s : State) (number : Nat) (rest : List Char) : Step :=
  if s.isClosed number && s.allowsReference number then
    .ok (s.push (.again s.options.rule number), rest)
  else malformed

/-- Reads the digits after a backslash: three octal digits write a character, any other number
refers to a group. -/
def readNumber (s : State) (d : Char) (rest : List Char) : Step :=
  let octal (code : Nat) (rest : List Char) : Step :=
    if octalLimit < code then malformed else .ok (s.pushCode code, rest)
  if d == '0' then
    let (code, rest) := readOctal 2 0 rest
    octal code rest
  else
    match rest with
    | e :: f :: tail =>
      if isOctal d && isOctal e && isOctal f then octal (readOctal 3 0 [d, e, f]).1 tail
      else if e.isDigit then s.refer (decimal [d, e]) (f :: tail)
      else s.refer (decimal [d]) rest
    | [e] => if e.isDigit then s.refer (decimal [d, e]) [] else s.refer (decimal [d]) rest
    | [] => s.refer (decimal [d]) rest

/-- Reads an escape after its backslash. -/
def readEscape (s : State) : List Char → Step
  | [] => malformed
  | e :: rest =>
    let o := s.options
    match e with
    | 'A' => .ok (s.push (.anchor .textStart), rest)
    | 'Z' => .ok (s.push (.anchor .textEnd), rest)
    | 'b' => .ok (s.push (.anchor (.wordBorder o.narrow false)), rest)
    | 'B' => .ok (s.push (.anchor (.wordBorder o.narrow true)), rest)
    | _ =>
      match controlCode? e, category? e with
      | some code, _ => .ok (s.pushCode code, rest)
      | none, some (kind, negated) =>
        .ok (s.push (.one (.oneOf o.rule false [.category kind o.narrow negated])), rest)
      | none, none =>
        if startsCode e then do
          let (code, rest) ← orMalformed (readCode e rest)
          return (s.pushCode code, rest)
        else if e.isDigit then s.readNumber e rest
        else if e.isAlpha then malformed
        else .ok (s.pushCode (codeOf e), rest)

end State

/-- The text after the closing parenthesis of a comment. -/
def skipRemark : List Char → Option (List Char)
  | [] => none
  | '\\' :: rest =>
    match rest with
    | [] => none
    | _ :: rest => skipRemark rest
  | c :: rest => if c == ')' then some rest else skipRemark rest

/-- The text after the line break that ends a comment. -/
def skipLine : List Char → Option (List Char)
  | [] => some []
  | '\\' :: rest =>
    match rest with
    | [] => none
    | _ :: rest => skipLine rest
  | c :: rest => if c == '\n' then some rest else skipLine rest

/-- Turns on the option that a letter names. -/
def Options.turnOn (o : Options) (flag : Char) : Options :=
  match flag with
  | 'i' => { o with ignoreCase := true }
  | 'm' => { o with everyLine := true }
  | 's' => { o with dotBreaks := true }
  | 'x' => { o with spaced := true }
  | 'a' => { o with narrow := true }
  | 'u' => { o with narrow := false }
  | 't' => { o with unrepeated := true }
  | _ => o

/-- Turns off the option that a letter names. -/
def Options.turnOff (o : Options) (flag : Char) : Options :=
  match flag with
  | 'i' => { o with ignoreCase := false }
  | 'm' => { o with everyLine := false }
  | 's' => { o with dotBreaks := false }
  | 'x' => { o with spaced := false }
  | _ => o

/-- Whether a letter names an option that can be turned on. -/
def isFlag (c : Char) : Bool := "imsxatu".toList.contains c

/-- Whether a letter names an option that can be turned off. -/
def isLocalFlag (c : Char) : Bool := "imsx".toList.contains c

/-- Whether options exclude each other. -/
def areClashing (flags : List Char) : Bool := flags.contains 'a' && flags.contains 'u'

namespace State

/-- Opens parentheses with options of their own. -/
def openScope (s : State) (on off rest : List Char) : Step :=
  if on.contains 't' || off.any on.contains then malformed
  else
    let o := off.foldl Options.turnOff (on.foldl Options.turnOn s.options)
    .ok (s.openLevel .scope o, rest)

/-- Whether nothing has been read that counts. -/
def isFresh (s : State) : Bool :=
  s.outer.isEmpty && s.level.branches.isEmpty && s.level.items.isEmpty

/-- Turns on options for the whole pattern. -/
def turnOn (s : State) (flags : List Char) : State :=
  let o := flags.foldl Options.turnOn s.options
  { s with level := { s.level with options := o }, flags := s.flags ++ flags }

/-- Reads the options of a group, from its first letter on. -/
def readOptions (s : State) (text : List Char) : Step :=
  let on := text.takeWhile isFlag
  if areClashing on then malformed
  else
    match text.dropWhile isFlag with
    | ')' :: rest => if s.isFresh && !on.isEmpty then .ok (s.turnOn on, rest) else malformed
    | ':' :: rest => if on.isEmpty then malformed else s.openScope on [] rest
    | '-' :: rest =>
      let off := rest.takeWhile isLocalFlag
      match rest.dropWhile isLocalFlag with
      | ':' :: tail => if off.isEmpty then malformed else s.openScope on off tail
      | _ => malformed
    | _ => malformed

/-- The number of the group that a condition is on, given by its name or its number, and whether it
was given by its number. -/
def conditionNumber? (s : State) (name : List Char) : Option (Nat × Bool) :=
  if isIdentifier name then (s.numberOf? name).map fun number => (number, false)
  else ((integer? name).filter (0 < ·)).map fun number => (number.toNat, true)

/-- Opens the condition on a group. -/
def openGiven (s : State) (text : List Char) : Step := do
  let (name, rest) := cutAt ')' text
  let rest ← orMalformed rest
  let (number, numbered) ← orMalformed (s.conditionNumber? name)
  if s.allowsReference number then
    let awaited := if numbered then number :: s.awaited else s.awaited
    return ({ s with awaited }.openLevel (.given number) s.options, rest)
  else malformed

/-- Opens a look behind. -/
def openBehind (s : State) (negated : Bool) : State :=
  let outermost := s.ceiling.isNone
  let ceiling := if outermost then some (s.groups.length + 1) else s.ceiling
  { s with ceiling }.openLevel (.behind negated outermost) s.options

/-- Opens a group with a name. -/
def openNamed (s : State) (text : List Char) : Step := do
  let (name, rest) := cutAt '>' text
  let rest ← orMalformed rest
  if isIdentifier name && (s.numberOf? name).isNone then
    return (s.openCapture (some name), rest)
  else malformed

/-- Refers to a group by its name. -/
def referNamed (s : State) (text : List Char) : Step := do
  let (name, rest) := cutAt ')' text
  let rest ← orMalformed rest
  if isIdentifier name then s.refer (← orMalformed (s.numberOf? name)) rest else malformed

/-- Reads what opens a group, after its opening parenthesis. -/
def readOpening (s : State) (text : List Char) : Step :=
  let o := s.options
  match text with
  | '?' :: ':' :: rest => .ok (s.openLevel .plain o, rest)
  | '?' :: '>' :: rest => .ok (s.openLevel .atomic o, rest)
  | '?' :: '=' :: rest => .ok (s.openLevel (.ahead false) o, rest)
  | '?' :: '!' :: rest => .ok (s.openLevel (.ahead true) o, rest)
  | '?' :: '#' :: rest => (orMalformed (skipRemark rest)).map fun rest => (s, rest)
  | '?' :: '(' :: rest => s.openGiven rest
  | '?' :: '<' :: '=' :: rest => .ok (s.openBehind false, rest)
  | '?' :: '<' :: '!' :: rest => .ok (s.openBehind true, rest)
  | '?' :: 'P' :: '<' :: rest => s.openNamed rest
  | '?' :: 'P' :: '=' :: rest => s.referNamed rest
  | '?' :: rest => s.readOptions rest
  | rest => .ok (s.openCapture none, rest)

/-- Reads one construct of a pattern that starts with `c`. -/
def step (s : State) (c : Char) (rest : List Char) : Step :=
  let o := s.options
  if o.spaced && " \t\n\r\x0b\x0c".toList.contains c then .ok (s, rest)
  else if o.spaced && c == '#' then (orMalformed (skipLine rest)).map fun rest => (s, rest)
  else
    match c with
    | '\\' => s.readEscape rest
    | '|' => s.nextBranch.map fun s => (s, rest)
    | ')' => s.close.map fun s => (s, rest)
    | '(' => s.readOpening rest
    | '[' => do
      let (test, rest) ← orMalformed (readClass o.rule o.narrow rest)
      return (s.push (.one test), rest)
    | '.' => .ok (s.push (.one (.dot o.dotBreaks)), rest)
    | '^' => .ok (s.push (.anchor (.lineStart o.everyLine)), rest)
    | '$' => .ok (s.push (.anchor (.lineEnd o.everyLine)), rest)
    | '*' => s.repeatLast 0 none rest
    | '+' => s.repeatLast 1 none rest
    | '?' => s.repeatLast 0 (some 1) rest
    | '{' => s.readCount rest
    | _ => .ok (s.pushCode (codeOf c), rest)

/-- The largest number of parentheses that may be open at once. -/
def levelLimit : Nat := 490

/-- Reads the constructs of a text one after the other, at most as many as the first argument. A
closing parenthesis that closes nothing ends the reading. -/
def read : Nat → State → List Char → Except Fault State
  | _, s, [] => .ok s
  | 0, _, _ :: _ => malformed
  | fuel + 1, s, c :: rest =>
    if c == ')' && s.outer.isEmpty then .ok { s with unbalanced := true }
    else
      match s.step c rest with
      | .ok (s, rest) =>
        if levelLimit < s.outer.length then .error .tooDeep else s.read fuel rest
      | .error fault => .error fault

/-- The state after a pattern has been read to its end, if nothing is wrong with the whole. -/
def finish (s : State) : Except Fault State :=
  if !s.outer.isEmpty then malformed
  else if areClashing s.flags then .error .clashingOptions
  else if s.unbalanced || s.flawed || s.awaited.any (s.groups.length < ·) then malformed
  else .ok s

/-- The tree of a pattern that has been read to its end. -/
def tree (s : State) : Node := Node.row s.level.row

end State

/-- Reads a whole pattern under given options. -/
def parseWith (o : Options) (text : List Char) : Except Fault State :=
  match (State.initial o).read text.length text with
  | .ok s => s.finish
  | .error fault => .error fault

@[simp] theorem State.read_nil (fuel : Nat) (s : State) : s.read fuel [] = .ok s := by
  cases fuel <;> rfl

end KeywordCatalog.Pattern
