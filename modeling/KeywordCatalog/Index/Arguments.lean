import KeywordCatalog.Document.Access
import KeywordCatalog.Variable

/-!
# Arguments in an index

The form in which an index keeps the arguments of a keyword: a plain argument by its name, with its
default after an equals sign; lists and dictionaries of arguments with one and two stars. An
argument that is no variable is kept as it is, without what follows the first equals sign.
-/

namespace KeywordCatalog.Argument

open Text

/-- The name of an argument, and the default after its first equals sign. -/
def split (argument : List Char) : List Char × Option (List Char) := cutAt '=' argument

/-- The name and the default of an argument that is a document. Only a text can be split; any other
argument that has an equals sign in it is refused. -/
def splitValue (argument : Value) : Except Fault (Value × Value) :=
  match argument with
  | .text s =>
    let (name, preset) := split s.toList
    .ok (.text (String.ofList name), Value.ofText? (preset.map String.ofList))
  | _ => do if ← argument.has "=" then throw .missingMember else return (argument, .null)

/-- What stands between the braces of the first variable: the braces reach to the last closing one
of the line and are not empty. -/
def braced? : List Char → Option (List Char)
  | [] => none
  | c :: rest =>
    match if Variable.isSigil c then rest.head? else none with
    | some '\x7b' =>
      match beforeLast '\x7d' ((rest.drop 1).takeWhile (· != '\n')) with
      | some (x :: inner) => some (x :: inner)
      | _ => braced? rest
    | _ => braced? rest

/-- The form of an argument in an index. -/
def indexed (argument : List Char) : List Char :=
  let (name, preset) := split argument
  match braced? name with
  | none => name
  | some inner =>
    match argument.head? with
    | some '$' =>
      match preset with
      | some (d :: rest) => inner ++ '=' :: d :: rest
      | _ => inner
    | some '@' => '*' :: inner
    | _ => '*' :: '*' :: inner

/-- The form of an argument that is a document. -/
def indexedValue (argument : Value) : Except Fault Value :=
  match argument with
  | .text s => .ok (.text (String.ofList (indexed s.toList)))
  | _ => do if ← argument.has "=" then throw .missingMember else throw .wrongKind

/-- The forms of the arguments of a keyword. -/
def indexedAll (arguments : Value) : Except Fault (List Value) := do
  (← arguments.elements).mapM indexedValue

end KeywordCatalog.Argument
