import KeywordCatalog.Fault
import KeywordCatalog.Ordered
import KeywordCatalog.Path
import KeywordCatalog.Text.Half

/-!
# The store

Folders and text files, addressed by paths. A `Location` is the list of names from the root to a
place; a path is resolved part by part, and every part but the last must be a folder that is there.

A listing is sorted by the code points of the names. `Store.filesBelow` lists a whole folder: its
own files come first, then those of each folder in it.
-/

namespace KeywordCatalog

/-- The names from the root to a place. -/
abbrev Location := List String

/-- What is at a place. -/
inductive Entry
  | folder
  | file (text : String)
deriving DecidableEq, Repr

/-- Folders and files, and the folder that relative paths start from. -/
structure Store where
  cwd : String
  entries : List (Location × Entry)
deriving DecidableEq, Repr

/-- The longest name of a place, in bytes. -/
def nameLimit : Nat := 255

/-- The number of bytes that a path must stay below. -/
def pathLimit : Nat := 4096

/-- Whether a name comes before another one in a listing, or is the same. -/
def listedBefore (a b : String) : Bool := !decide (b < a)

/-- Whether a file comes before another one when a whole folder is listed, or is the same. -/
def walkedBefore : Location → Location → Bool
  | [], _ => true
  | _ :: _, [] => false
  | [a], [b] => listedBefore a b
  | [_], _ :: _ :: _ => true
  | _ :: _ :: _, [_] => false
  | a :: as, b :: bs => if a == b then walkedBefore as bs else decide (a < b)

namespace Store

/-- The parts of a path as names. -/
def namesOf (path : String) : List String := (Path.parts path.toList).map String.ofList

/-- What is at a location. The root is a folder. -/
def entry? (s : Store) : Location → Option Entry
  | [] => some .folder
  | place => s.entries.lookup place

/-- Fails unless there is a folder at a location. -/
def needFolder (s : Store) (place : Location) : Except Fault Unit :=
  match s.entry? place with
  | some .folder => .ok ()
  | some (.file _) => .error (.storage .notFolder)
  | none => .error (.storage .absent)

/-- The location that the names of a path lead to from another location. -/
def walk (s : Store) : Location → List String → Except Fault Location
  | place, [] => .ok place
  | place, name :: rest =>
    match s.needFolder place with
    | .error fault => .error fault
    | .ok () =>
      if name.isEmpty || name == "." then s.walk place rest
      else if name == ".." then s.walk place.dropLast rest
      else if nameLimit < name.utf8ByteSize then .error (.storage .nameTooLong)
      else s.walk (place ++ [name]) rest

/-- The location of a path, whether something is there or not. -/
def locate (s : Store) (path : String) : Except Fault Location :=
  if !Text.isPathText path.toList then .error .unencodable
  else if path.toList.contains '\x00' then .error .badPath
  else if path.isEmpty then .error (.storage .absent)
  else if pathLimit ≤ path.utf8ByteSize then .error (.storage .nameTooLong)
  else if Path.isAbsolute path then s.walk [] (namesOf path)
  else s.walk [] (namesOf (Path.join s.cwd path))

/-- What is at a path. -/
def find (s : Store) (path : String) : Except Fault Entry :=
  match s.locate path with
  | .error fault => .error fault
  | .ok place =>
    match s.entry? place with
    | some entry => .ok entry
    | none => .error (.storage .absent)

/-- Whether something is at a path. -/
def has (s : Store) (path : String) : Bool := (s.find path).toOption.isSome

/-- The numbers that can name what is open. -/
def isHandle (n : Int) : Bool := -2147483648 ≤ n && n < 2147483648

/-- Whether a document names something that is there. A text is a path; a number names what is open
under it, which are the first three; nothing else names anything. -/
def hasNamed (s : Store) (v : Value) : Except Fault Bool :=
  match v with
  | .text path => .ok (s.has path)
  | .int n => if isHandle n then .ok (0 ≤ n && n ≤ 2) else .error .numberTooLarge
  | .bool _ => .ok true
  | _ => .error .wrongKind

/-- Whether a file is at a path. -/
def hasFile (s : Store) (path : String) : Bool :=
  match s.find path with
  | .ok (.file _) => true
  | _ => false

/-- Whether a folder is at a path. -/
def hasFolder (s : Store) (path : String) : Bool :=
  match s.find path with
  | .ok .folder => true
  | _ => false

/-- The text of the file at a path, as it is. -/
def readRaw (s : Store) (path : String) : Except Fault String :=
  match s.find path with
  | .error fault => .error fault
  | .ok .folder => .error (.storage .isFolder)
  | .ok (.file text) => .ok text

/-- A text in which every line ends with the same line break. -/
def unifyBreaks : List Char → List Char
  | [] => []
  | '\r' :: '\n' :: rest => '\n' :: unifyBreaks rest
  | c :: rest => (if c == '\r' then '\n' else c) :: unifyBreaks rest

/-- The text of the file at a path, with line breaks of one kind. -/
def read (s : Store) (path : String) : Except Fault String :=
  (s.readRaw path).map fun text => String.ofList (unifyBreaks text.toList)

/-- The store with an entry at a location. -/
def put (s : Store) (place : Location) (entry : Entry) : Store :=
  { s with entries := Ordered.put place entry s.entries }

/-- A path without the slashes at its end. -/
def bare (path : String) : String :=
  let chars := Text.dropTrailing (· == '/') path.toList
  if chars.isEmpty then path else String.ofList chars

/-- The location of a file that is to be written. A slash at the end asks for a folder. -/
def locateFile (s : Store) (path : String) : Except Fault Location :=
  if path.toList.getLast? == some '/' then
    match s.locate (bare path) with
    | .error fault => .error fault
    | .ok _ => .error (.storage .isFolder)
  else s.locate path

/-- Writes a file; the folder that it goes to must be there. -/
def write (s : Store) (path text : String) : Except Fault Store :=
  match s.locateFile path with
  | .error fault => .error fault
  | .ok place =>
    match s.entry? place with
    | some .folder => .error (.storage .isFolder)
    | _ => .ok (s.put place (.file text))

/-- Opens a file to write at its end, which makes the file if it is not there. -/
def touch (s : Store) (path : String) : Except Fault Store :=
  match s.locateFile path with
  | .error fault => .error fault
  | .ok place =>
    match s.entry? place with
    | some .folder => .error (.storage .isFolder)
    | some (.file _) => .ok s
    | none => .ok (s.put place (.file ""))

/-- The names in the folder at a location, in the order of the store. -/
def childNames (s : Store) (place : Location) : List String :=
  s.entries.filterMap fun e => if e.1.dropLast == place then e.1.getLast? else none

/-- The names in a folder, sorted. -/
def names (s : Store) (path : String) : Except Fault (List String) :=
  match s.find path with
  | .error fault => .error fault
  | .ok (.file _) => .error (.storage .notFolder)
  | .ok .folder => (s.locate path).map fun place => (s.childNames place).mergeSort listedBefore

/-- The files below a location, by the names that lead to them from there. -/
def filesUnder (s : Store) (place : Location) : List Location :=
  (s.entries.filterMap fun e =>
    match e.2 with
    | .file _ => if place.isPrefixOf e.1 then some (e.1.drop place.length) else none
    | .folder => none).mergeSort walkedBefore

/-- The files below a folder; none if there is no such folder. -/
def filesBelow (s : Store) (path : String) : List Location :=
  match s.find path, s.locate path with
  | .ok .folder, .ok place => s.filesUnder place
  | _, _ => []

/-- Makes one folder in a folder that is there. -/
def addFolder (s : Store) (path : String) : Except Fault Store :=
  match s.locate (bare path) with
  | .error fault => .error fault
  | .ok place =>
    match s.entry? place with
    | some _ => .error (.storage .occupied)
    | none => .ok (s.put place .folder)

/-- The folder and the last name of a path, not counting a slash at its end. -/
def splitLast (path : String) : String × String :=
  let name := Path.name path
  if name.isEmpty then
    let parent := Path.parent path
    (Path.parent parent, Path.name parent)
  else (Path.parent path, name)

/-- Work on a store, which may fail and still leaves its traces. -/
abbrev Storing := ExceptT Fault (StateM Store)

/-- Puts the result of an operation on the store into its place. -/
def update (f : Store → Except Fault Store) : Storing Unit := do
  set (← f (← get))

/-- Makes a folder, and the folders above it that are missing. With `reuse` the folder may be there.
The last argument but one bounds the number of folders. -/
def addFolders (reuse : Bool) : Nat → String → Storing Unit
  | 0, _ => pure ()
  | fuel + 1, path => do
    let (head, tail) := splitLast path
    let missing := !head.isEmpty && !tail.isEmpty && !(← get).has head
    if missing then
      tryCatch (addFolders reuse fuel head) fun fault =>
        if fault == .storage .occupied then pure () else throw fault
    if missing && tail == "." then return
    tryCatch (update (·.addFolder path)) fun fault => do
      if fault.isStorage && reuse && (← get).hasFolder path then pure () else throw fault

/-- Makes a folder and all that are missing above it. With `reuse` the folder may be there. -/
def makeFolder (path : String) (reuse : Bool) : Storing Unit :=
  addFolders reuse (path.length + 1) path

/-- The store without what is in the folder at a location. -/
def clear (s : Store) (place : Location) : Store :=
  { s with entries := s.entries.filter fun e => !(place.isPrefixOf e.1 && e.1 != place) }

/-- The store without the entry at a location. -/
def drop (s : Store) (place : Location) : Store :=
  { s with entries := s.entries.filter fun e => e.1 != place }

/-- Removes a folder and everything in it. A folder that is addressed by dots is only emptied, and
so is one whose path leads through what was in it. -/
def removeFolder (path : String) : Storing Unit := do
  let s ← get
  match ← s.find path with
  | .file _ => throw (.storage .notFolder)
  | .folder =>
    let place ← s.locate path
    let name := (splitLast path).2
    set (s.clear place)
    let _ ← (s.clear place).locate path
    if name == "." || name == ".." then throw (.storage .inUse)
    else modify (·.drop place)

@[simp] theorem entry?_nil (s : Store) : s.entry? [] = some .folder := rfl

@[simp] theorem walk_nil (s : Store) (place : Location) : s.walk place [] = .ok place := rfl

end Store

end KeywordCatalog
