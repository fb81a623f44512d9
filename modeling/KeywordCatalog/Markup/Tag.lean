import KeywordCatalog.Markup.Doctype
import KeywordCatalog.Markup.Namespace

/-!
# Tags

The name and the attributes of a tag. The document type tells how the values of attributes are read
and which attributes an element has without being given them.
-/

namespace KeywordCatalog.Markup

/-- Reads the name of an element or of an attribute: a name, or two with a colon between them. -/
def Alphabet.readTagName (a : Alphabet) (text : List Char) : Option (String × List Char) :=
  match a.readName text with
  | some (short, ':' :: rest) =>
    (a.readName rest).map fun (own, rest) => (String.join [short, ":", own], rest)
  | found => found

/-- Reads an attribute, with its value as it is written. -/
def Alphabet.readAttribute (a : Alphabet) (text : List Char) :
    Option ((String × List Char) × List Char) := do
  let (name, rest) ← a.readTagName text
  match skipSpace rest with
  | '=' :: rest =>
    match skipSpace rest with
    | quote :: rest =>
      if quote == '"' || quote == '\'' then
        match rest.dropWhile (· != quote) with
        | _ :: tail => return ((name, rest.takeWhile (· != quote)), tail)
        | [] => none
      else none
    | [] => none
  | _ => none

/-- Reads the attributes of a tag and its end, at most as many as the first argument; the truth
value tells whether the element is closed at once. Each attribute is divided from what is before it.
-/
def Alphabet.readAttributes (a : Alphabet) :
    Nat → List Char → Option (List (String × List Char) × Bool × List Char)
  | 0, _ => none
  | fuel + 1, text =>
    match skipSpace text with
    | '>' :: rest => some ([], false, rest)
    | '/' :: '>' :: rest => some ([], true, rest)
    | next =>
      if !text.head?.any isSpace then none
      else
        (a.readAttribute next).bind fun (pair, rest) =>
          (a.readAttributes fuel rest).map fun (more, closed, rest) =>
            (pair :: more, closed, rest)

/-- The attributes that an element has in a document type, given those in its tag. -/
def Doctype.attributesOf (d : Doctype) (a : Alphabet) (element : String)
    (written : List (String × List Char)) : Option (List (String × String) × Doctype) := do
  if !distinctKeys written then none
  let (given, d) ← written.foldlM (fun (given, d) (name, text) => do
    let (value, d) ← d.readValue a ((d.rule? element name).any (·.words)) text
    return ((name, value) :: given, d)) ([], d)
  let added := d.rules.filterMap fun r =>
    if r.element == element && (written.lookup r.name).isNone then
      r.value.map fun value => (r.name, value)
    else none
  return (given.reverse ++ added, d)

end KeywordCatalog.Markup
