import KeywordCatalog.CommandLine.Grammar
import KeywordCatalog.Index

/-!
# Tasks

What the two programs that work on the database do: one scans a workspace or a single file into
tables, the other makes the indexes of all tables or of one. A task is read from a command line
(`Task.scan`, `Task.index`) and run on a world (`Task.run`).

The module search path is read and handed on, but has no part in the work: where code is imported
from is a matter of the framework.
-/

namespace KeywordCatalog

/-- Whether a program works on everything or on one thing. -/
inductive Mode
  | all
  | single
deriving DecidableEq, Repr

/-- The word for a mode. -/
def Mode.name : Mode → String
  | .all => "all"
  | .single => "single"

/-- The words for modes. -/
def Mode.names : List String := [Mode.all.name, Mode.single.name]

/-- The mode with a word. -/
def Mode.ofName (name : String) : Mode := if name == Mode.all.name then .all else .single

/-- What is done first for a task that lacks a path. -/
inductive Preparation
  /-- The workspace is looked at. -/
  | workspace (path : String)
  /-- The tables are listed. -/
  | tables (database : String)
  /-- The folder of indexes is made. -/
  | indexes (folder : String)
deriving DecidableEq, Repr

/-- What a program is asked to do. -/
inductive Task
  | scanAll (workspace extension database : String) (modules : List String)
      (markup : Option String)
  | scanFile (file database : String) (markup : Option String)
  | indexAll (database indexes : String) (modules : List String) (markup : Option String)
  | indexOne (database : String) (table : Option String) (indexes : String)
      (modules : List String) (markup : Option String)
  /-- A task that comes to nothing, since an option for a path was left without a value. -/
  | lacking (first : Preparation)
deriving DecidableEq, Repr

namespace CommandLine

/-- The option for the folder of tables. -/
def databaseFlag : String := "--db_path"

/-- The option for the folder of indexes. -/
def indexesFlag : String := "--index_path"

/-- The option for the table to index. -/
def tableFlag : String := "--db_table"

/-- The option for the workspace to scan. -/
def workspaceFlag : String := "--workspace"

/-- The option for the extension of suites and resources. -/
def extensionFlag : String := "--extension"

/-- The option for the file to scan. -/
def fileFlag : String := "--path_to_file"

/-- The option for the folders that code is imported from. -/
def modulesFlag : String := "--module_search_path"

/-- The option for the folder of libraries that are described in markup. -/
def markupFlag : String := "--path_to_lib_in_xml"

/-- The options of the program that scans. -/
def scanGrammar : Grammar :=
  [{ name := workspaceFlag }, { name := extensionFlag },
   { name := databaseFlag, required := true }, { name := modulesFlag, arity := .many },
   { name := fileFlag }, { name := markupFlag }]

/-- The options of the program that indexes. -/
def indexGrammar : Grammar :=
  [{ name := databaseFlag, required := true }, { name := tableFlag },
   { name := indexesFlag, required := true }, { name := modulesFlag, arity := .many },
   { name := markupFlag }]

/-- The value of an option that has to be a text that is not empty. -/
def Arguments.need (a : Arguments) (flag : String) (otherwise : Refusal) : Except Fault String :=
  match a.first? flag with
  | some value => if value.isEmpty then .error (.refused otherwise) else .ok value
  | none => .error (.refused otherwise)

/-- The value of an option that is used as a path. -/
def Arguments.path (a : Arguments) (flag : String) : Except Fault String :=
  match a.first? flag with
  | some value => .ok value
  | none => .error .wrongKind

end CommandLine

namespace Task

open CommandLine

/-- Reads the command line of the program that scans. -/
def scan (texts : List String) : Except Fault Task := do
  let (mode, a) ← scanGrammar.read Mode.names texts
  match Mode.ofName mode with
  | .all =>
    let workspace ← a.need workspaceFlag (.workspaceNeeded mode)
    let extension ← a.need extensionFlag (.extensionNeeded mode)
    match a.first? databaseFlag with
    | some database =>
      return .scanAll workspace extension database (a.all modulesFlag) (a.first? markupFlag)
    | none => return .lacking (.workspace workspace)
  | .single =>
    let file ← a.need fileFlag (.fileNeeded mode)
    return .scanFile file (← a.path databaseFlag) (a.first? markupFlag)

/-- Reads the command line of the program that indexes. -/
def index (texts : List String) : Except Fault Task := do
  let (mode, a) ← indexGrammar.read Mode.names texts
  match Mode.ofName mode with
  | .all =>
    let database ← a.path databaseFlag
    match a.first? indexesFlag with
    | some indexes => return .indexAll database indexes (a.all modulesFlag) (a.first? markupFlag)
    | none => return .lacking (.tables database)
  | .single =>
    let indexes ← a.path indexesFlag
    match a.first? databaseFlag, a.isBare tableFlag with
    | some database, false =>
      return .indexOne database (a.first? tableFlag) indexes (a.all modulesFlag)
        (a.first? markupFlag)
    | _, _ => return .lacking (.indexes indexes)

/-- Work on a world. -/
abbrev Running := Routine World

/-- Works on the store. -/
def onStore {α : Type} (work : Store.Storing α) : Running α := do
  let w ← get
  let (result, store) := work.run w.store
  set { w with store }
  result

/-- Scans with a fresh queue. -/
def scanning (work : Scanning Unit) : Running Unit :=
  Routine.within (fun w => { world := w }) Scan.world work

/-- Indexes with a fresh queue. -/
def indexing (indexes : String) (work : Indexing Unit) : Running Unit :=
  Routine.within (fun w => { world := w, target := indexes }) Index.world work

/-- Makes the indexes of tables, one after the other. -/
def indexTables (database indexes : String) (markup : Option String) (tables : List String) :
    Running Unit :=
  tables.forM fun table => indexing indexes (Indexing.writeIndex database table markup)

/-- Makes the folder of indexes if it is not there. -/
def needIndexes (indexes : String) : Running Unit := do
  if !(← get).store.has indexes then onStore (Store.makeFolder indexes false)

/-- Does what comes first for a task that lacks a path. -/
def prepare : Preparation → Running Unit
  | .workspace path => scanning (Scanning.needWorkspace path)
  | .tables database => do
    let _ ← (← get).store.names database
  | .indexes folder => needIndexes folder

/-- Does what a task asks for. The folder of all indexes is made anew. -/
def run : Task → Running Unit
  | .scanAll workspace extension database _ markup =>
    scanning (Scanning.scan workspace extension database markup)
  | .scanFile file database _ => scanning (Scanning.scanFile file database)
  | .indexAll database indexes _ markup => do
    let tables ← (← get).store.names database
    if (← get).store.has indexes then onStore (Store.removeFolder indexes)
    onStore (Store.makeFolder indexes false)
    indexTables database indexes markup tables
  | .indexOne database table indexes _ markup => do
    needIndexes indexes
    match table with
    | some table => indexing indexes (Indexing.writeIndex database table markup)
    | none => indexing indexes (Indexing.failUnnamed database markup)
  | .lacking first => do
    prepare first
    throw .wrongKind

end Task

end KeywordCatalog
