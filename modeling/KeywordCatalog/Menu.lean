import KeywordCatalog.Settings
import KeywordCatalog.Store

/-!
# The menu

The menu of the assistant is written once, from a template that is installed beside it. In a
template a dollar sign with a name stands for a value, with or without braces around the name, and
two dollar signs stand for one. A name that has no value stays as it is.
-/

namespace KeywordCatalog

namespace Template

/-- Whether a character can start a name. -/
def startsName (c : Char) : Bool := c == '_' || c.isAlpha

/-- Whether a character can stand in a name. -/
def inName (c : Char) : Bool := c == '_' || c.isAlphanum

/-- The name at the start of a text. -/
def nameAt (text : List Char) : Option (List Char) :=
  if text.head?.any startsName then some (text.takeWhile inName) else none

/-- The value of a name. -/
def valueOf (values : List (String × String)) (name : List Char) : Option (List Char) :=
  (values.lookup (String.ofList name)).map String.toList

/-- What starts at the start of a text and stands for something: its length and what it stands
for. -/
def fieldAt (values : List (String × String)) : List Char → Option (Nat × List Char)
  | '$' :: '$' :: _ => some (2, ['$'])
  | '$' :: '\x7b' :: rest => do
    let name ← nameAt rest
    if (rest.drop name.length).head? == some '\x7d' then
      return (name.length + 3, ← valueOf values name)
    else none
  | '$' :: rest => do
    let name ← nameAt rest
    return (name.length + 1, ← valueOf values name)
  | _ => none

@[simp] theorem fieldAt_dollars (values : List (String × String)) (rest : List Char) :
    fieldAt values ('$' :: '$' :: rest) = some (2, ['$']) := rfl

/-- A template with values in place of names. -/
def fill (values : List (String × String)) (text : String) : String :=
  String.ofList (Text.substitute (fieldAt values) text.toList)

end Template

namespace Package

/-- The menu. -/
def menu (p : Package) : String := Path.join p.folder "Main.sublime-menu"

/-- The template of the menu. -/
def menuTemplate (p : Package) : String :=
  Path.join (Path.join p.folder "templates") "Main.sublime-menu.tpl"

/-- Writes the menu unless it is there. -/
def install (p : Package) : Store.Storing Unit := do
  let s ← get
  if !s.has p.menu then
    let template ← s.read p.menuTemplate
    let values := [("package_folder", Path.name p.folder)]
    Store.update (·.write p.menu (Template.fill values template))

end Package

end KeywordCatalog
