import KeywordCatalog.Catalog
import KeywordCatalog.Finder
import KeywordCatalog.Routine
import KeywordCatalog.Table.Build

/-!
# Scanning

A scan goes through a workspace and writes a table for every suite and resource that it finds, and
for everything that these import, directly or through others. The work queue holds what is known;
each round takes an item, builds its table, puts what the table imports into the queue and writes
the table into the database. A fault in the data of one item does not end the scan.
-/

namespace KeywordCatalog

/-- The state of a scan. -/
structure Scan where
  world : World
  queue : WorkQueue := {}

/-- Work of a scan. -/
abbrev Scanning := Routine Scan

namespace Scanning

/-- Works on the store. -/
def onStore {α : Type} (work : Store.Storing α) : Scanning α := do
  let s ← get
  let (result, store) := work.run s.world.store
  set { s with world := { s.world with store } }
  result

/-- Changes the queue. -/
def onQueue (f : WorkQueue → WorkQueue) : Scanning Unit :=
  modify fun s => { s with queue := f s.queue }

/-- Takes the front item of the queue if it waits. -/
def takeItem : Scanning (Option (Value × Work)) := do
  let s ← get
  let (item, queue) := s.queue.takeWaiting
  set { s with queue }
  return item

/-- Marks an item as done. -/
def finishItem (key : Value) : Scanning Unit := do
  let s ← get
  let queue ← s.queue.finish key
  set { s with queue }

/-- Asks for the library that every suite uses. -/
def addBuiltin : Scanning Unit := onQueue fun q => q.add (.text "BuiltIn") .library (.list [])

/-- Whether a file of markup describes a library. -/
def describesLibrary (w : World) (file : String) : Except Fault Bool := do
  return (← World.needAttribute (← w.readMarkup file) "type") == "library"

/-- Asks for the libraries that are described in markup below a folder. -/
def addMarkupLibraries (path : String) : Scanning Unit := do
  let files ← (← get).world.store.findFiles path "xml"
  files.forM fun file => do
    if ← describesLibrary (← get).world file then
      onQueue fun q => q.add (.text file) .library (.list [])

/-- Asks for the libraries that are described in markup, if there is a folder for them. -/
def addMarkup : Option String → Scanning Unit
  | some path => if path.isEmpty then pure () else addMarkupLibraries path
  | none => pure ()

/-- Asks for the files of a workspace. -/
def addFiles (workspace extension : String) : Scanning Unit := do
  let w := (← get).world
  let files ← w.store.findFiles workspace extension
  onQueue fun q => q.addAll (files.map fun f => ⟨.text (w.tidy f), .unknown, .null⟩)

/-- Writes a document as a table of the database. -/
def writeTable (database name : String) (content : Value) : Scanning Unit :=
  onStore (Store.update fun s => s.writeDocument (Path.join database name) content)

/-- Writes a table into the database. -/
def storeTable (database : String) (t : Table) : Scanning Unit := do
  writeTable database (← t.fileName) t.document

end Scanning

/-- A way to build the table of an item. -/
abbrev TableSource := World → Value → Work → Except Fault Table

/-- The table of an item, built in the way of its kind. -/
def World.buildTable : TableSource := fun w key work =>
  match work.kind with
  | .unknown | .suite | .resource => (w.buildRobotNamed key).map .robot
  | .library => (w.buildLibraryNamed key work.arguments).map .library
  | .variableFile => (w.buildVariablesNamed key).map .variableFile

namespace Scanning

/-- Asks for what a table imports and writes the table. -/
def recordTable (database : String) (built : Except Fault Table) : Scanning Unit := do
  let table ← built
  onQueue fun q => q.addAll table.requests
  storeTable database table

/-- Builds the table of an item, records it, and marks the item as done in any case. -/
def scanItem (source : TableSource) (database : String) (item : Value × Work) :
    Scanning (Except Fault Table) := do
  let built := source (← get).world item.1 item.2
  Routine.thenAlways (Routine.forgiving () (recordTable database built)) (finishItem item.1)
  return built

/-- Scans the waiting items until none is left: the items, each with what was built from it. -/
def scanItems (source : TableSource) (database : String) :
    Scanning (List ((Value × Work) × Except Fault Table)) :=
  Routine.drain takeItem (scanItem source database)

/-- Fails unless a path is a folder inside another one. -/
def needWorkspace (workspace : String) : Scanning Unit := do
  if !(← get).world.store.has workspace then throw (.workspaceAbsent workspace)
  if (Path.parent workspace).isEmpty then throw (.workspaceNotFolder workspace)

/-- Makes the database an empty folder. -/
def freshDatabase (database : String) : Scanning Unit := do
  if (← get).world.store.has database then onStore (Store.removeFolder database)
  onStore (Store.makeFolder database false)

/-- Fills the queue with what a scan starts from. -/
def addRoots (workspace extension : String) (markup : Option String) : Scanning Unit := do
  addBuiltin
  addMarkup markup
  addFiles workspace extension

/-- Scans a workspace into an empty database, building tables in a given way. -/
def scanWith (source : TableSource) (workspace extension database : String)
    (markup : Option String) : Scanning (List ((Value × Work) × Except Fault Table)) := do
  needWorkspace workspace
  freshDatabase database
  addRoots workspace extension markup
  scanItems source database

/-- Scans a workspace into an empty database. -/
def scan (workspace extension database : String) (markup : Option String) : Scanning Unit := do
  let _ ← scanWith World.buildTable workspace extension database markup

/-- Writes the table of a single suite or resource. -/
def scanFile (path database : String) : Scanning Unit := do
  if !(← get).world.store.has database then onStore (Store.makeFolder database false)
  Routine.forgiving () do
    let table ← World.buildTable (← get).world (.text path) ⟨.waiting, .unknown, .null⟩
    storeTable database table

end Scanning

end KeywordCatalog
