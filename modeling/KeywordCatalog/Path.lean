import KeywordCatalog.Text.Basic

/-!
# Paths

Paths whose parts are divided by slashes. A path that starts with a slash is absolute; two leading
slashes are kept as they are, any other number counts as one.

`Path.normalize` goes through the parts with a stack: empty parts and single dots are dropped, two
dots take back the part before them. `Path.tidy` is the spelling under which the catalog knows a
file: its folder made absolute and normalised, its name left alone.
-/

namespace KeywordCatalog.Path

open Text

/-- The part that stands for the folder above. -/
def above : List Char := ['.', '.']

/-- The parts of a path between its slashes. -/
def parts (p : List Char) : List (List Char) := p.splitOn '/'

/-- Whether a path starts at the root. -/
def isAbsoluteChars (p : List Char) : Bool := p.head? == some '/'

/-- The part of a path after its last slash. -/
def nameChars (p : List Char) : List Char := trailing (· != '/') p

/-- The part of a path before its last slash, without the slashes at its end unless there is
nothing else. -/
def parentChars (p : List Char) : List Char :=
  let head := p.take (p.length - (nameChars p).length)
  let bare := dropTrailing (· == '/') head
  if bare.isEmpty then head else bare

/-- The path that `b` means inside the folder `a`. -/
def joinChars (a b : List Char) : List Char :=
  if isAbsoluteChars b then b
  else if a.isEmpty || a.getLast? == some '/' then a ++ b
  else a ++ '/' :: b

/-- The number of slashes that a normalised path starts with. -/
def roots (p : List Char) : Nat :=
  match p with
  | '/' :: '/' :: '/' :: _ => 1
  | '/' :: '/' :: _ => 2
  | '/' :: _ => 1
  | _ => 0

/-- Puts a part on a stack of parts. At the root there is no folder above. -/
def pushPart (rooted : Bool) (stack : List (List Char)) (part : List Char) : List (List Char) :=
  if part.isEmpty || part == ['.'] then stack
  else if part == above then
    match stack with
    | [] => if rooted then [] else [part]
    | top :: rest => if top == above then part :: stack else rest
  else part :: stack

/-- The parts of a path that are left when dots are worked out. -/
def plainParts (p : List Char) : List (List Char) :=
  ((parts p).foldl (pushPart (roots p != 0)) []).reverse

/-- A path without empty parts and without dots that can be worked out. -/
def normalizeChars (p : List Char) : List Char :=
  let path := List.replicate (roots p) '/' ++ ['/'].intercalate (plainParts p)
  if path.isEmpty then ['.'] else path

/-- The absolute path that a path means in the working folder `cwd`. -/
def absoluteChars (cwd p : List Char) : List Char := normalizeChars (joinChars cwd p)

/-- The spelling under which a file is known. -/
def tidyChars (cwd p : List Char) : List Char :=
  joinChars (absoluteChars cwd (parentChars p)) (nameChars p)

/-- The number of parts that two lists of parts have in common at their starts. -/
def commonLength : List (List Char) → List (List Char) → Nat
  | a :: as, b :: bs => if a == b then commonLength as bs + 1 else 0
  | _, _ => 0

/-- The parts of a path that are not empty. -/
def namedParts (p : List Char) : List (List Char) := (parts p).filter (!·.isEmpty)

/-- The path from the folder `start` to `p`. -/
def relativeChars (cwd p start : List Char) : List Char :=
  let origin := namedParts (absoluteChars cwd start)
  let goal := namedParts (absoluteChars cwd p)
  let shared := commonLength origin goal
  let steps := List.replicate (origin.length - shared) above ++ goal.drop shared
  if steps.isEmpty then ['.'] else ['/'].intercalate steps

/-- The length of a file name without its extension: the part before the last dot, unless only
dots come before it. -/
def stemLength (name : List Char) : Nat :=
  match beforeLast '.' name with
  | some stem => if stem.all (· == '.') then name.length else stem.length
  | none => name.length

/-- Whether a path starts at the root. -/
def isAbsolute (p : String) : Bool := isAbsoluteChars p.toList

/-- The last part of a path. -/
def name (p : String) : String := String.ofList (nameChars p.toList)

/-- The folder of a path. -/
def parent (p : String) : String := String.ofList (parentChars p.toList)

/-- The path that `b` means inside the folder `a`. -/
def join (a b : String) : String := String.ofList (joinChars a.toList b.toList)

/-- The absolute path that a path means in the working folder `cwd`. -/
def absolute (cwd p : String) : String := String.ofList (absoluteChars cwd.toList p.toList)

/-- The spelling under which a file is known. -/
def tidy (cwd p : String) : String := String.ofList (tidyChars cwd.toList p.toList)

/-- The path from the folder `start` to `p`. -/
def relative (cwd p start : String) : String :=
  String.ofList (relativeChars cwd.toList p.toList start.toList)

/-- A path without the extension of its last part. -/
def withoutExtension (p : String) : String :=
  let name := nameChars p.toList
  String.ofList (p.toList.take (p.length - (name.length - stemLength name)))

/-- A file name without its extension. -/
def stem (name : String) : String := String.ofList (name.toList.take (stemLength name.toList))

@[simp] theorem joinChars_nil (p : List Char) : joinChars [] p = p := by
  simp [joinChars]

theorem joinChars_absolute {b : List Char} (a : List Char) (h : isAbsoluteChars b = true) :
    joinChars a b = b := by
  simp [joinChars, h]

end KeywordCatalog.Path
