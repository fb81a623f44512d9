import KeywordCatalog.Scan

/-!
# Scanning with tables that are documents

A table that comes from outside is a document of unknown shape. Here its imports are put into the
work queue and the table is written, with the faults that an unexpected shape leads to. Items that
come before a fault stay in the queue.
-/

namespace KeywordCatalog

/-- The first key of an object. -/
def firstKey (v : Value) : Except Fault String := do
  match (← v.fields) with
  | [] => throw .outOfRange
  | (key, _) :: _ => return key

/-- What the document of a library import asks for. -/
def libraryRequest (v : Value) : Except Fault Request := do
  let path ← v.field "library_path"
  let key ← if path.truthy then pure path else v.field "library_name"
  let arguments ← v.field "library_arguments"
  return ⟨key, .library, arguments⟩

/-- What the document of a variable file import asks for. -/
def variableRequest (v : Value) : Except Fault Request := do
  let path ← firstKey v
  let arguments ← (← v.field path).field "variable_file_arguments"
  return ⟨.text path, .variableFile, arguments⟩

/-- What the document of a resource import asks for. -/
def resourceRequest (v : Value) : Except Fault Request := .ok ⟨v, .resource, .null⟩

/-- The file name of a table that is a document: that of a library if it has a module, that of a
file if it has a path. -/
def documentFileName (v : Value) : Except Fault String := do
  if ← v.has "library_module" then
    match ← v.field "library_module" with
    | .text name => TableName.ofLibrary name
    | .list _ => throw .missingMember
    | _ => throw .wrongKind
  else if ← v.has "file_path" then
    let path ← (← v.field "file_path").asText
    TableName.ofPath path
  else throw .unset

namespace Scanning

/-- Puts what each element of a document asks for into the queue. -/
def addEach (request : Value → Except Fault Request) (v : Value) : Scanning Unit := do
  (← v.elements).forM fun element => do
    let r ← request element
    let key ← (← get).queue.keyOf r.key
    onQueue fun q => q.add key r.kind r.arguments

/-- Puts the libraries of a document into the queue. -/
def addLibraries : Value → Scanning Unit := addEach libraryRequest

/-- Puts the variable files of a document into the queue. -/
def addVariableFiles : Value → Scanning Unit := addEach variableRequest

/-- Puts the resources of a document into the queue. -/
def addResources : Value → Scanning Unit := addEach resourceRequest

/-- Puts the imports of a table that is a document into the queue. -/
def addImports (v : Value) : Scanning Unit := do
  if ← v.has "libraries" then addLibraries (← v.field "libraries")
  if ← v.has "variable_files" then addVariableFiles (← v.field "variable_files")
  if ← v.has "resources" then addResources (← v.field "resources")

/-- Writes a table that is a document into the database. -/
def storeDocument (database : String) (v : Value) : Scanning Unit := do
  writeTable database (← documentFileName v) v

/-- The kind and the arguments of an item that is a document; only items of some kinds need
arguments. -/
def itemWork (item : Value) : Except Fault Work := do
  let facts ← item.item 1
  match ItemKind.ofValue? (← facts.field "type") with
  | some .library => return ⟨.waiting, .library, ← facts.field "args"⟩
  | some .variableFile => return ⟨.waiting, .variableFile, ← facts.field "args"⟩
  | some kind => return ⟨.waiting, kind, .null⟩
  | none => throw (.refused .notRobotData)

/-- The table of an item that is a document: its key, and what is known of it. -/
def buildItem (item : Value) : Scanning Table := do
  let work ← itemWork item
  World.buildTable (← get).world (← item.item 0) work

end Scanning

end KeywordCatalog
