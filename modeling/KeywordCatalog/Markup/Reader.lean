import KeywordCatalog.Markup.Element
import KeywordCatalog.Markup.Preamble
import KeywordCatalog.Markup.Tag

/-!
# Reading markup

A markup document, read from left to right with a stack of the elements that are open. Comments and
instructions leave no trace. An entity stands for its text, which is read in its place and has to
close the elements that it opens, and no others. `Element.parse` fails for a text that is not well
formed.
-/

namespace KeywordCatalog.Markup

/-- An element whose end has not been read. Characters and children are kept the latest first. -/
structure Open where
  name : String
  tag : String
  attributes : List (String × String)
  scope : Scope
  text : List Char := []
  children : List Element := []

/-- What has been read of a document. -/
structure State where
  stack : List Open := []
  root : Option Element := none
  /-- Whether a document type has been given. -/
  typed : Bool := false
  doctype : Doctype

/-- The finished element. -/
def Open.close (o : Open) : Element :=
  .node o.tag o.attributes (if o.text.isEmpty then none else some (String.ofList o.text.reverse))
    o.children.reverse

namespace State

/-- Takes up a character of the innermost element. Characters after a child are passed over. -/
def addChar (s : State) (c : Char) : State :=
  match s.stack with
  | [] => s
  | o :: rest =>
    if o.children.isEmpty then { s with stack := { o with text := c :: o.text } :: rest } else s

/-- Takes up a finished element. -/
def addElement (s : State) (e : Element) : State :=
  match s.stack with
  | [] => { s with root := some e }
  | o :: rest => { s with stack := { o with children := e :: o.children } :: rest }

/-- The namespaces in force. -/
def scope (s : State) : Scope :=
  match s.stack with
  | [] => Scope.initial
  | o :: _ => o.scope

/-- Reads characters that are taken as they are, after their opening. -/
def readVerbatim (s : State) (text : List Char) : Option (State × List Char) :=
  if s.stack.isEmpty then none
  else (splitAt "]]>".toList text).map fun (body, rest) => (body.foldl addChar s, rest)

/-- Reads a document type after its keyword. It comes once, before the elements. -/
def readType (s : State) (a : Alphabet) (text : List Char) : Option (State × List Char) :=
  if s.typed || s.root.isSome || !s.stack.isEmpty || !text.head?.any isSpace then none
  else (s.doctype.read a text).map fun (d, rest) => ({ s with typed := true, doctype := d }, rest)

/-- Reads a tag that closes an element, after its opening. In the text of an entity (`inner`) the
outermost element is not its own. -/
def readClosing (s : State) (a : Alphabet) (inner : Bool) (text : List Char) :
    Option (State × List Char) :=
  (a.readTagName text).bind fun (name, rest) =>
    match s.stack, skipSpace rest with
    | o :: outer, '>' :: rest =>
      if o.name == name && !(inner && outer.isEmpty) then
        some (({ s with stack := outer }).addElement o.close, rest)
      else none
    | _, _ => none

/-- Reads a tag that opens an element, after its opening; `fuel` bounds the number of its
attributes. There is one outermost element. -/
def readOpening (s : State) (a : Alphabet) (fuel : Nat) (text : List Char) :
    Option (State × List Char) := do
  if s.stack.isEmpty && s.root.isSome then none
  let (name, rest) ← a.readTagName text
  let (written, closed, rest) ← a.readAttributes fuel rest
  let (all, doctype) ← s.doctype.attributesOf a name written
  let scope ← s.scope.extend all
  let tag ← scope.element? name
  let attributes ← scope.attributes? all
  if !distinctKeys attributes then none
  let s := { s with doctype }
  let o : Open := { name, tag, attributes, scope }
  if closed then return (s.addElement o.close, rest)
  else return ({ s with stack := o :: s.stack }, rest)

/-- Reads a character that stands for itself. Outside the elements only dividing ones are allowed.
-/
def readChar (s : State) (c : Char) (rest : List Char) : Option (State × List Char) :=
  if s.stack.isEmpty then (if isSpace c then some (s, rest) else none)
  else if "]]>".toList.isPrefixOf (c :: rest) then none
  else some (s.addChar c, rest)

/-- Reads a reference after its ampersand; `expand` takes up an entity. -/
def readReference (s : State) (a : Alphabet) (expand : String → State → Option State)
    (text : List Char) : Option (State × List Char) :=
  if s.stack.isEmpty then none
  else
    (a.readReference text).bind fun (r, rest) =>
      match r with
      | .char c => some (s.addChar c, rest)
      | .entity name =>
        match predefined? name with
        | some c => some (s.addChar c, rest)
        | none => (expand name s).map fun s => (s, rest)

/-- Reads the part of a document that starts with `c`; `fuel` bounds the length of the rest. -/
def step (a : Alphabet) (inner : Bool) (expand : String → State → Option State) (fuel : Nat)
    (s : State) (c : Char) (rest : List Char) : Option (State × List Char) :=
  if c == '&' then s.readReference a expand rest
  else if c == '<' then
    match rest with
    | '/' :: rest => s.readClosing a inner rest
    | '?' :: rest => (a.skipInstruction rest).map fun rest => (s, rest)
    | '!' :: '-' :: '-' :: rest => (skipComment rest).map fun rest => (s, rest)
    | '!' :: rest =>
      if "[CDATA[".toList.isPrefixOf rest then s.readVerbatim (rest.drop 7)
      else if "DOCTYPE".toList.isPrefixOf rest then s.readType a (rest.drop 7)
      else none
    | _ => s.readOpening a (fuel + 1) rest
  else s.readChar c rest

/-- Reads the parts of a text one after the other, at most as many as the number given. -/
def readParts (a : Alphabet) (inner : Bool) (expand : String → State → Option State) :
    Nat → State → List Char → Option State
  | _, s, [] => some s
  | 0, _, _ :: _ => none
  | fuel + 1, s, c :: rest =>
    (s.step a inner expand fuel c rest).bind fun (s, rest) => readParts a inner expand fuel s rest

/-- Reads the text of an entity in its place by means of `read`, which is given the entities that
are being taken up. -/
def expandWith (read : List String → State → List Char → Option State) (opened : List String)
    (name : String) (s : State) : Option State :=
  match s.stack, s.doctype.entities.lookup name with
  | o :: outer, some (.text text) =>
    if opened.contains name then none
    else do
      let doctype ← s.doctype.spend? text.length
      let s ← read (name :: opened) { s with stack := [o], doctype } text
      match s.stack with
      | [o] => return { s with stack := o :: outer }
      | _ => none
  | _, _ => none

/-- Reads a text with entities nested at most as deep as the first argument. -/
def read : Nat → Alphabet → Bool → List String → State → List Char → Option State
  | 0, _, _, _, _, _ => none
  | depth + 1, a, inner, opened, s, text =>
    readParts a inner
      (expandWith (fun opened s text => read depth .general true opened s text) opened)
      text.length s text

end State

/-- The outermost element of a markup document. -/
def Element.parse (text : String) : Except Fault Element := do
  let (a, standsAlone, body) ← Preamble.open text
  let s : State := { doctype := .initial standsAlone text.utf8ByteSize }
  match State.read (body.length + 1) a false [] s body with
  | some { stack := [], root := some root, .. } => return root
  | _ => throw .badMarkup

end KeywordCatalog.Markup
