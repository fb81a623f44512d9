import KeywordCatalog.Catalog
import KeywordCatalog.Finder
import KeywordCatalog.Table.Build

/-!
# Snapshots

A world written as one document: the texts of files by their paths, folders, and the answers of the
test framework. Paths in a snapshot start from the working folder. What a snapshot does not mention
is not there.
-/

namespace KeywordCatalog.Snapshot

/-- A store with nothing but the folder that it works in. -/
def emptyStore (folder : String) : Store := ((Store.makeFolder folder true).run ⟨folder, []⟩).2

/-- Makes a folder of a snapshot. -/
def addFolder (s : Store) (path : String) : Store :=
  ((Store.makeFolder (Path.join s.cwd path) true).run s).2

/-- Writes a file of a snapshot and makes its folder. -/
def addFile (s : Store) (path text : String) : Store :=
  let s := addFolder s (Path.parent path)
  (s.write (Path.join s.cwd path) text).toOption.getD s

/-- The fields of an object, none of anything else. -/
def fieldsOf : Value → List (String × Value)
  | .object fields => fields
  | _ => []

/-- The items of a list, none of anything else. -/
def itemsOf : Value → List Value
  | .list items => items
  | _ => []

/-- The document under a key, null if there is none. -/
def get (v : Value) (key : String) : Value := ((fieldsOf v).lookup key).getD .null

/-- The files and folders of a snapshot, in a working folder. -/
def store (folder : String) (v : Value) : Store :=
  let s := (fieldsOf (get v "files")).foldl (fun s (path, text) => addFile s path text.shown)
    (emptyStore folder)
  (itemsOf (get v "dirs")).foldl (fun s path => addFolder s path.shown) s

/-- A keyword of the framework. -/
def keywordInfo (v : Value) : KeywordInfo :=
  ⟨get v "name", get v "args", get v "doc", get v "tags"⟩

/-- An import of the framework. -/
def importInfo (v : Value) : ImportInfo :=
  ⟨get v "type", get v "name", get v "alias", get v "args"⟩

/-- A model of the framework. -/
def model (v : Value) : Model :=
  { keywords := (itemsOf (get v "keywords")).map keywordInfo
    varNames := itemsOf (get v "variables")
    imports := (itemsOf (get v "imports")).map importInfo }

/-- A class of library code. -/
def classInfo (v : Value) : ClassInfo := ⟨(get v "file").shown, (get v "has").truthy⟩

/-- An attribute of library code. -/
def attributeInfo (v : Value) : Attribute :=
  match get v "kind" with
  | .text "function" =>
    .function (get v "file").shown ((fieldsOf v).lookup "robot_name")
      (((fieldsOf v).lookup "mro").map fun classes => (itemsOf classes).map classInfo)
  | .text "builtin" => .builtin
  | _ => .value

/-- The answers of the framework of one kind. -/
def answers {α : Type} (v : Value) (key : String) (decode : Value → α) : List (String × α) :=
  (fieldsOf (get v key)).map fun (asked, found) => (asked, decode found)

/-- The answers of the framework. -/
def framework (v : Value) : Framework :=
  { resources := answers v "resource" model
    suites := answers v "suite" model
    folders := answers v "directory" model
    libraries := answers v "libdoc" fun found => (itemsOf found).map keywordInfo
    variableFiles := answers v "varfile" itemsOf
    code := answers v "code" fun found =>
      (fieldsOf found).map fun (name, spec) => (name, attributeInfo spec) }

/-- The world of a snapshot, in a working folder. -/
def world (folder : String) (v : Value) : World := ⟨store folder v, framework (get v "robot")⟩

/-- The content of a file: the document in it, or else its text as it is. -/
def content (s : Store) (path : String) : Value :=
  let text := (s.readRaw path).toOption.getD ""
  (Value.parse text).toOption.getD (.object [("text", .text text)])

/-- The files below a folder of the working folder, with their contents. -/
def filesOf (s : Store) (folder : String) : List (String × Value) :=
  let top := Path.absolute s.cwd folder
  (s.filesBelow top).map fun names =>
    let path := Store.joinNames top names
    (path, content s path)

/-- The files below some folders of the working folder, with their contents. -/
def files (s : Store) (folders : List String) : Value :=
  .object (Ordered.ofList (folders.flatMap (filesOf s)))

end KeywordCatalog.Snapshot
