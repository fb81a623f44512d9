import KeywordCatalog.Markup.Declaration

/-!
# Document types

A document type holds the entities and the attributes that are declared for a document. Of several
declarations of one thing the first counts. Declarations outside the document are never read: once
one is referred to, what follows in the document type may depend on it, so it no longer counts
unless the document says that it stands alone; and an entity without a declaration may then have one
elsewhere, so that it stands for nothing in the value of an attribute.

Entities can stand for texts with entities in them, so a short document could stand for an enormous
one. `Doctype.left` bounds how much of the texts of entities is taken up in all.
-/

namespace KeywordCatalog.Markup

/-- What an entity stands for. -/
inductive Entity
  | text (text : List Char)
  /-- Another document, which is not read, or data of some other format. -/
  | outside
deriving DecidableEq, Repr

/-- What holds for an attribute of an element. -/
structure AttributeRule where
  element : String
  name : String
  /-- Whether the value is made of words, so that only the words count. -/
  words : Bool
  /-- The value that is taken if none is given. -/
  value : Option String
deriving DecidableEq, Repr

/-- What is declared for a document. -/
structure Doctype where
  /-- Whether the document says that it stands alone. -/
  standsAlone : Bool := false
  /-- Whether there are declarations outside the document. -/
  hasMore : Bool := false
  /-- Whether the declarations that follow count. -/
  counts : Bool := true
  entities : List (String × Entity) := []
  rules : List AttributeRule := []
  /-- How many more characters of entities may be taken up. -/
  left : Nat
deriving DecidableEq, Repr

/-- A value that is being put together, its latest character first. If the value is made of words,
there is one space between two words and none in front. -/
def addToValue (words : Bool) (value : List Char) (c : Char) : List Char :=
  if words && c == ' ' && value.head?.all (· == ' ') then value else c :: value

/-- The finished value. -/
def finishValue (words : Bool) (value : List Char) : String :=
  String.ofList (if words && value.head? == some ' ' then value.tail else value).reverse

namespace Doctype

/-- The document type for a document of some size before anything is declared. Entities may make it
a hundred times as large, and larger as long as it stays small. -/
def initial (standsAlone : Bool) (size : Nat) : Doctype :=
  { standsAlone, left := max 8388608 (100 * size) - size }

/-- Whether each entity has to be declared in the document. -/
def isClosed (d : Doctype) : Bool := d.standsAlone || !d.hasMore

/-- Takes up some characters of an entity. -/
def spend? (d : Doctype) (size : Nat) : Option Doctype :=
  if size ≤ d.left then some { d with left := d.left - size } else none

/-- The rule for an attribute of an element. -/
def rule? (d : Doctype) (element name : String) : Option AttributeRule :=
  d.rules.find? fun r => r.element == element && r.name == name

/-- Appends the parts of a text to a value. Entities are nested at most as deep as the first
argument and never in themselves; `opened` has those that are being taken up. -/
def appendPieces (words : Bool) :
    Nat → List String → List Char × Doctype → List Piece → Option (List Char × Doctype)
  | 0, _, _, _ => none
  | depth + 1, opened, start, pieces =>
    pieces.foldlM (fun (value, d) piece =>
      match piece with
      | .plain c =>
        if c == '<' then none
        else some (addToValue words value (if isSpace c then ' ' else c), d)
      | .reference (.char c) => some (addToValue words value c, d)
      | .reference (.entity name) =>
        match predefined? name, d.entities.lookup name with
        | some c, _ => some (c :: value, d)
        | none, none => if d.isClosed then none else some (value, d)
        | none, some .outside => none
        | none, some (.text text) =>
          if opened.contains name then none
          else do
            let pieces ← Alphabet.general.pieces text
            appendPieces words depth (name :: opened) (value, ← d.spend? text.length) pieces)
      start

/-- The value that is written between two quotes. -/
def readValue (d : Doctype) (a : Alphabet) (words : Bool) (text : List Char) :
    Option (String × Doctype) := do
  let pieces ← a.pieces text
  let (value, d) ← appendPieces words (d.entities.length + 1) [] ([], d) pieces
  return (finishValue words value, d)

/-- The text that an entity stands for, from the text in its declaration. References to characters
are taken up at once, those to entities only when the entity is used. -/
def entityText? (a : Alphabet) (text : List Char) : Option (List Char) :=
  if text.contains '%' then none
  else
    (a.pieces text).map fun pieces => pieces.flatMap fun
      | .plain c | .reference (.char c) => [c]
      | .reference (.entity name) => '&' :: (name.toList ++ [';'])

/-- Takes up an entity, unless it has been declared before or needs no declaration. -/
def addEntity (d : Doctype) (name : String) (e : Entity) : Doctype :=
  if (predefined? name).isSome || (d.entities.lookup name).isSome then d
  else { d with entities := d.entities ++ [(name, e)] }

/-- Takes up what is declared of an attribute, unless the attribute has been declared before. -/
def addRule (d : Doctype) (a : Alphabet) (element : String) (form : AttributeForm) :
    Option Doctype := do
  let (value, d) ← match form.value with
    | none => pure (none, d)
    | some text => do
      let (value, d) ← d.readValue a form.words text
      pure (some value, d)
  if (d.rule? element form.name).isSome then return d
  else return { d with rules := d.rules ++ [⟨element, form.name, form.words, value⟩] }

/-- Takes up a declaration, if it still counts. -/
def declare (d : Doctype) (a : Alphabet) (declaration : Declaration) : Option Doctype :=
  if !d.counts then some d
  else
    match declaration with
    | .entity name (.literal text) => (entityText? a text).map fun t => d.addEntity name (.text t)
    | .entity name _ => some (d.addEntity name .outside)
    | .parameter (.literal text) => (entityText? a text).map fun _ => d
    | .attributes element forms => forms.foldlM (fun d form => d.addRule a element form) d
    | .parameter _ | .formal => some d

/-- Takes up a reference to declarations that are not read. -/
def refer (d : Doctype) : Doctype := { d with hasMore := true, counts := d.standsAlone }

/-- Reads the declarations in a document type up to the bracket that closes them, at most as many as
the first argument. -/
def readDeclarations (a : Alphabet) : Nat → Doctype → List Char → Option (Doctype × List Char)
  | 0, _, _ => none
  | fuel + 1, d, text =>
    match skipSpace text with
    | ']' :: rest => some (d, rest)
    | '<' :: '?' :: rest => (a.skipInstruction rest).bind (readDeclarations a fuel d)
    | '<' :: '!' :: '-' :: '-' :: rest => (skipComment rest).bind (readDeclarations a fuel d)
    | '<' :: '!' :: rest =>
      match a.readName rest with
      | some (keyword, c :: rest) =>
        if !isSpace c then none
        else
          match a.readTokens (rest.length + 1) rest with
          | some (tokens, '>', rest) => do
            let d ← d.declare a (← Declaration.ofTokens? keyword tokens)
            readDeclarations a fuel d rest
          | _ => none
      | _ => none
    | '%' :: rest =>
      match a.readName rest with
      | some (_, ';' :: rest) => readDeclarations a fuel d.refer rest
      | _ => none
    | _ => none

/-- Reads a document type after its keyword. One that names another document has declarations
outside of its own. -/
def read (d : Doctype) (a : Alphabet) (text : List Char) : Option (Doctype × List Char) := do
  let (tokens, mark, rest) ← a.readTokens (text.length + 1) text
  let d ← match tokens with
    | [t] => t.name?.map fun _ => d
    | t :: more =>
      if t.name?.isSome && externalId? more == some [] then some { d with hasMore := true }
      else none
    | [] => none
  if mark == '>' then return (d, rest)
  else
    let (d, rest) ← readDeclarations a (rest.length + 1) d rest
    match skipSpace rest with
    | '>' :: rest => return (d, rest)
    | _ => none

end Doctype

end KeywordCatalog.Markup
