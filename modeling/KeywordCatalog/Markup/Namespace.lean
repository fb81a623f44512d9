/-!
# Namespaces

The names that namespaces give to elements and attributes. A namespace is bound to a short name by
an attribute and holds for the element and what is in it; a name from a namespace is written with
the namespace in braces in front.
-/

namespace KeywordCatalog.Markup

/-- The namespaces in force, by the short names that are bound to them, the latest first. The empty
name is the one for elements without a short name. -/
abbrev Scope := List (String × String)

/-- A namespace that the format keeps for itself, by its place in the format's own realm. -/
def reservedSpace (place : String) : String := String.join ["http:", "//www.w3.org/", place]

/-- The namespace of the attributes that the format itself defines. -/
def formatSpace : String := reservedSpace "XML/1998/namespace"

/-- The namespace of the attributes that bind namespaces. -/
def bindingSpace : String := reservedSpace "2000/xmlns/"

/-- The scope outside all elements. -/
def Scope.initial : Scope := [("xml", formatSpace)]

/-- The short name and the own name of a name. -/
def splitName (name : String) : String × String :=
  match name.toList.splitOn ':' with
  | [short, own] => (String.ofList short, String.ofList own)
  | _ => ("", name)

/-- A name in a namespace. -/
def qualify (space own : String) : String :=
  if space.isEmpty then own else String.join ["\x7b", space, "\x7d", own]

/-- The short name that an attribute binds, if it binds one; the empty name binds the namespace of
elements without a short name. -/
def boundName? (name : String) : Option String :=
  match splitName name with
  | ("", "xmlns") => some ""
  | ("xmlns", short) => some short
  | _ => none

/-- Whether a short name can be bound to a namespace. Only the empty name can be bound to nothing,
and the short names and the namespaces of the format itself belong together. A namespace has no
closing brace. -/
def canBind (short space : String) : Bool :=
  (short.isEmpty || !space.isEmpty) && short != "xmlns" && !space.toList.contains '\x7d'
    && (short == "xml") == (space == formatSpace) && space != bindingSpace

/-- The scope in an element with some attributes. -/
def Scope.extend (scope : Scope) : List (String × String) → Option Scope
  | [] => some scope
  | (name, value) :: rest =>
    match boundName? name with
    | none => scope.extend rest
    | some short =>
      if canBind short value then Scope.extend ((short, value) :: scope) rest else none

/-- The name of an element in a scope. -/
def Scope.element? (scope : Scope) (name : String) : Option String :=
  let (short, own) := splitName name
  match scope.lookup short with
  | some space => some (qualify space own)
  | none => if short.isEmpty then some own else none

/-- The name of an attribute in a scope. Without a short name it is in no namespace. -/
def Scope.attribute? (scope : Scope) (name : String) : Option String :=
  let (short, own) := splitName name
  if short.isEmpty then some own else (scope.lookup short).map fun space => qualify space own

/-- The attributes that bind no namespace, by their names in a scope. -/
def Scope.attributes? (scope : Scope) (all : List (String × String)) :
    Option (List (String × String)) :=
  (all.filter fun a => (boundName? a.1).isNone).mapM fun (name, value) =>
    (scope.attribute? name).map fun name => (name, value)

/-- Whether no key occurs twice. -/
def distinctKeys {α β : Type} [BEq α] : List (α × β) → Bool
  | [] => true
  | (key, _) :: rest => !(rest.any fun x => x.1 == key) && distinctKeys rest

end KeywordCatalog.Markup
