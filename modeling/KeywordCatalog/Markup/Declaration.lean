import KeywordCatalog.Markup.Token

/-!
# Declarations of a document type

A document type declares entities, the attributes and contents of elements, and formats.
`Declaration.ofTokens?` reads a declaration from its keyword and its tokens. Of the contents of
elements and of formats only the wording is checked, since they do not change what a document says.
-/

namespace KeywordCatalog.Markup

/-- What an entity is declared to be. -/
inductive EntityForm
  /-- A text, as it is written in the declaration. -/
  | literal (text : List Char)
  /-- Another document. -/
  | external
  /-- Data of some other format. -/
  | unparsed
deriving DecidableEq, Repr

/-- What is declared of an attribute. -/
structure AttributeForm where
  name : String
  /-- Whether the value is made of words, so that only the words count. -/
  words : Bool
  /-- The value that is taken if none is given, as it is written in the declaration. -/
  value : Option (List Char)
deriving DecidableEq, Repr

/-- A declaration. -/
inductive Declaration
  | entity (name : String) (form : EntityForm)
  /-- An entity for use among declarations. -/
  | parameter (form : EntityForm)
  | attributes (element : String) (forms : List AttributeForm)
  /-- The contents of an element or the name of a format, which change nothing. -/
  | formal
deriving DecidableEq, Repr

/-- Whether a character can stand in a public name. -/
def isPublicChar (c : Char) : Bool :=
  c.isAlphanum || c == ' ' || c == '\n' || c == '\r' || "-'()+,./:=?;!*#@$_%".toList.contains c

/-- Reads the names of another document: the place where it is, and possibly a public name. -/
def externalId? : List Token → Option (List Token)
  | .name "SYSTEM" :: .literal _ :: rest => some rest
  | .name "PUBLIC" :: .literal name :: .literal _ :: rest =>
    if name.all isPublicChar then some rest else none
  | _ => none

/-- The declaration of an entity. -/
def entityOf? : List Token → Option Declaration
  | [.name name, .literal text] => some (.entity name (.literal text))
  | [.percent, .name _, .literal text] => some (.parameter (.literal text))
  | .percent :: .name _ :: rest =>
    if externalId? rest == some [] then some (.parameter .external) else none
  | .name name :: rest =>
    match externalId? rest with
    | some [] => some (.entity name .external)
    | some [.name "NDATA", .name _] => some (.entity name .unparsed)
    | _ => none
  | _ => none

/-- Whether tokens name a format. A public name is enough. -/
def isFormatName : List Token → Bool
  | [.name _, .name "PUBLIC", .literal name] => name.all isPublicChar
  | .name _ :: rest => externalId? rest == some []
  | _ => false

/-- The name that a token of a declaration writes, in one part or in two. -/
def Token.name? : Token → Option String
  | .name n | .qualified n => some n
  | _ => none

/-- Whether tokens are the parts of a group, with the groups in it, up to the end of the outermost
one. The first argument has the mark that divides each open group, the innermost first, as soon as
it is known; the second tells whether a part has to follow. -/
def isModel : List (Option Token) → Bool → List Token → Bool
  | [], _, rest => rest.isEmpty
  | _ :: _, _, [] => false
  | mark :: outer, true, t :: rest =>
    match t with
    | .opening => isModel (none :: mark :: outer) true rest
    | .name _ | .qualified _ | .repeated => isModel (mark :: outer) false rest
    | _ => false
  | mark :: outer, false, t :: rest =>
    match t with
    | .closing _ => isModel outer false rest
    | .comma | .bar => mark.all (· == t) && isModel (some t :: outer) true rest
    | _ => false

/-- Whether tokens are the further parts of a group with text in it. -/
def isMixture : List Token → Bool
  | .bar :: t :: rest => t.name?.isSome && isMixture rest
  | rest => rest == [.closing (some '*')]

/-- Whether tokens declare the contents of an element. -/
def isElement : List Token → Bool
  | [t, .name content] => t.name?.isSome && (content == "EMPTY" || content == "ANY")
  | t :: .opening :: .keyword "PCDATA" :: rest =>
    t.name?.isSome && (rest == [.closing none] || isMixture rest)
  | t :: .opening :: rest => t.name?.isSome && isModel [none] true rest
  | _ => false

/-- Reads the values that an attribute can have, after the opening parenthesis. -/
def readChoices (accepts : Token → Bool) : List Token → Option (List Token)
  | t :: .bar :: rest => if accepts t then readChoices accepts rest else none
  | t :: .closing none :: rest => if accepts t then some rest else none
  | _ => none

/-- Whether a token can be a value of an attribute. -/
def Token.isValue : Token → Bool
  | .name _ | .qualified _ | .word => true
  | _ => false

/-- Whether a token is a name in one part. -/
def Token.isName : Token → Bool
  | .name _ => true
  | _ => false

/-- Reads the type of an attribute, and tells whether its values are made of words. -/
def attributeType? : List Token → Option (Bool × List Token)
  | .opening :: rest => (readChoices Token.isValue rest).map fun rest => (true, rest)
  | .name "NOTATION" :: .opening :: rest =>
    (readChoices Token.isName rest).map fun rest => (true, rest)
  | .name "CDATA" :: rest => some (false, rest)
  | .name type :: rest =>
    if ["ID", "IDREF", "IDREFS", "ENTITY", "ENTITIES", "NMTOKEN", "NMTOKENS"].contains type then
      some (true, rest)
    else none
  | _ => none

/-- Reads the value that an attribute has if none is given. -/
def attributeDefault? : List Token → Option (Option (List Char) × List Token)
  | .keyword "IMPLIED" :: rest | .keyword "REQUIRED" :: rest => some (none, rest)
  | .keyword "FIXED" :: .literal value :: rest | .literal value :: rest => some (some value, rest)
  | _ => none

/-- The attributes that tokens declare, at most as many as the first argument. -/
def attributesOf? : Nat → List Token → Option (List AttributeForm)
  | _, [] => some []
  | 0, _ :: _ => none
  | fuel + 1, t :: rest => do
    let name ← t.name?
    let (words, rest) ← attributeType? rest
    let (value, rest) ← attributeDefault? rest
    return { name, words, value } :: (← attributesOf? fuel rest)

/-- The declaration of a keyword and tokens. -/
def Declaration.ofTokens? (keyword : String) (tokens : List Token) : Option Declaration :=
  match keyword, tokens with
  | "ENTITY", tokens => entityOf? tokens
  | "ATTLIST", t :: rest =>
    t.name?.bind fun element =>
      (attributesOf? rest.length rest).map fun forms => .attributes element forms
  | "ELEMENT", tokens => if isElement tokens then some .formal else none
  | "NOTATION", tokens => if isFormatName tokens then some .formal else none
  | _, _ => none

end KeywordCatalog.Markup
