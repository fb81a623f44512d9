import KeywordCatalog.Index.Arguments
import KeywordCatalog.Scan.Stored

/-!
# Indexing

The index of a table holds the keywords and variables of that table, of the library that every suite
uses, of the libraries described in markup, and of all tables that these import, directly or through
others. The work queue holds the names of the tables; each round reads one of them. A table that is
not in the database is looked for under a similar name, and a table with faulty data adds nothing.

Libraries can be imported under other names. An index collects these aliases while it reads the
imports, and a keyword of a library has the first alias that is not empty.
-/

namespace KeywordCatalog

/-- A keyword in an index. -/
structure KeywordRecord where
  keyword : Value
  arguments : Value
  object : Value
  table : String
  byname : Value
deriving DecidableEq, Repr

/-- The document of a keyword record. -/
def KeywordRecord.document (r : KeywordRecord) : Value :=
  .list [r.keyword, r.arguments, r.object, .text r.table, r.byname]

/-- What a table contributes to an index. -/
structure IndexPart where
  keywords : List KeywordRecord := []
  varNames : List Value := []
deriving DecidableEq, Repr

/-- The document of an index. -/
def IndexPart.document (p : IndexPart) : Value :=
  .object [("keywords", .list (p.keywords.map KeywordRecord.document)),
    ("variables", .list p.varNames)]

/-- Contributions, one after the other. -/
def IndexPart.concat (parts : List IndexPart) : IndexPart :=
  ⟨parts.flatMap IndexPart.keywords, parts.flatMap IndexPart.varNames⟩

/-- The state of indexing. -/
structure Index where
  world : World
  /-- The folder that indexes are written to. -/
  target : String
  queue : WorkQueue := {}
  /-- The aliases of libraries by the names of their tables, in the order of the imports. -/
  aliases : List (String × Value) := []

/-- Work of indexing. -/
abbrev Indexing := Routine Index

/-- The variables of a table. -/
def tableVariables (v : Value) : Except Fault (List Value) := do
  if ← v.has "variables" then (← v.field "variables").elements else return []

/-- The names of the keywords of a table with their arguments. -/
def tableKeywords (v : Value) : Except Fault (List (Value × Value)) := do
  if ← v.has "keywords" then
    (← (← v.field "keywords").fields).mapM fun (_, k) => do
      let name ← k.field "keyword_name"
      return (name, .list (← Argument.indexedAll (← k.field "keyword_arguments")))
  else return []

/-- The name of the object that a table describes: the module of a library, or the name of a file up
to its first dot. -/
def objectName (v : Value) : Except Fault Value := do
  let name : Value ←
    if ← v.has "library_module" then v.field "library_module"
    else do
      let file ← (← v.field "file_name").asText
      pure (.text (String.ofList (Text.cutAt '.' file.toList).1))
  if name.truthy then return name else throw (.refused .nameless)

/-- What a table says of itself: its variables, and its keywords with the name of their object, which
a table without keywords need not have. -/
structure TableFacts where
  varNames : List Value
  keywords : List (Value × Value)
  object : Value
deriving DecidableEq, Repr

/-- What the table with a document says of itself. -/
def tableFacts (v : Value) : Except Fault TableFacts := do
  let varNames ← tableVariables v
  let keywords ← tableKeywords v
  let object ← if keywords.isEmpty then pure .null else objectName v
  return ⟨varNames, keywords, object⟩

namespace Store

/-- The table whose name starts like that of a table which is not there; of several the last. -/
def similarTable (s : Store) (path : String) : Except Fault String := do
  let folder := Path.parent path
  let start := (Text.cutAt '-' (Path.nameChars path.toList)).1
  let names ← if s.has folder then s.names folder else pure []
  match (names.filter fun n => start.isPrefixOf n.toList).getLast? with
  | some name => return Path.join folder name
  | none => throw (.refused (.noSimilarTable path))

/-- The document of the table at a path, and whether it was found under a similar name. -/
def readTable (s : Store) (path : String) : Except Fault (Value × Bool) :=
  match s.read path with
  | .ok text => return (← Value.parse text, false)
  | .error fault =>
    if fault.isStorage then do return (← s.readDocument (← s.similarTable path), true)
    else throw fault

/-- The first table of the database that is the library every suite uses. -/
def builtinTable? (s : Store) (database : String) : Except Fault (Option String) := do
  return (← s.names database).find? fun n => "builtin".toList.isPrefixOf (Text.lower n.toList)

end Store

namespace Index

/-- The alias of the library with a table: the first that is not empty. -/
def aliasOf (i : Index) (table : String) : Value :=
  match i.aliases.find? fun a => a.1 == table && a.2.truthy with
  | some a => a.2
  | none => .null

/-- The records of keywords of a table. -/
def records (i : Index) (keywords : List (Value × Value)) (table : String) (object : Value) :
    List KeywordRecord :=
  keywords.map fun (keyword, arguments) => ⟨keyword, arguments, object, table, i.aliasOf table⟩

/-- The path of the index of a table. -/
def pathOf (i : Index) (table : String) : String := Path.join i.target (TableName.index table)

end Index

namespace Indexing

/-- Changes the queue. -/
def onQueue (f : WorkQueue → WorkQueue) : Indexing Unit :=
  modify fun i => { i with queue := f i.queue }

/-- Asks for a table. -/
def addTable (name : String) : Indexing Unit := onQueue fun q => q.add (.text name) .unknown .null

/-- Asks for tables, one after the other. -/
def addTables (names : List String) : Indexing Unit := names.forM addTable

/-- Asks for what the elements of a document name. -/
def addElements (v : Value) : Indexing Unit := do
  (← v.elements).forM fun element => do
    let key ← (← get).queue.keyOf element
    onQueue fun q => q.add key .unknown .null

/-- Takes the front table of the queue if it waits. -/
def takeItem : Indexing (Option (Value × Work)) := do
  let i ← get
  let (item, queue) := i.queue.takeWaiting
  set { i with queue }
  return item

/-- Marks a table as done. -/
def finishItem (key : String) : Indexing Unit := do
  let i ← get
  let queue ← i.queue.finish (.text key)
  set { i with queue }

/-- Asks for a table that was looked for, if it was found. -/
def addFound (found : Except Fault (Option String)) : Indexing Unit := do
  addTables (← found).toList

/-- Asks for the first table of the database that is the library every suite uses. -/
def addBuiltin (database : String) : Indexing Unit := do
  addFound ((← get).world.store.builtinTable? database)

/-- The name of the table of the library that a file of markup describes, if it describes one. -/
def markupTable? (w : World) (file : String) : Except Fault (Option String) := do
  let root ← w.readMarkup file
  if (← World.needAttribute root "type") == "library" then
    return some (← TableName.ofLibrary (← World.needAttribute root "name"))
  else return none

/-- Asks for the tables of the libraries that are described in markup below a folder. -/
def addMarkupLibraries (path : String) : Indexing Unit := do
  let files ← (← get).world.store.findFiles path "xml"
  files.forM fun file => do addFound (markupTable? (← get).world file)

/-- Asks for the tables of the libraries that are described in markup, if there is a folder for
them. -/
def addMarkup : Option String → Indexing Unit
  | some path => if path.isEmpty then pure () else addMarkupLibraries path
  | none => pure ()

/-- The table of an imported library, if the library can be built. -/
def libraryTable? (w : World) (library arguments : Value) : Except Fault (Option LibraryTable) :=
  match w.buildLibraryNamed library arguments with
  | .ok t => .ok (some t)
  | .error fault => if fault.isData then .ok none else .error fault

/-- The name of the table of an imported library and its alias, if the library can be built. -/
def libraryEntry? (w : World) (v : Value) : Except Fault (Option (String × Value)) := do
  let path ← v.field "library_path"
  let library ← if path.truthy then pure path else v.field "library_name"
  let arguments ← v.field "library_arguments"
  match ← libraryTable? w library arguments with
  | none => return none
  | some t => return some (← TableName.ofLibrary t.moduleName, ← v.field "library_alias")

/-- The name of the table of an imported library, if the library can be built; its alias is
remembered. -/
def libraryImport (v : Value) : Indexing (Option String) := do
  match ← libraryEntry? (← get).world v with
  | none => return none
  | some entry =>
    modify fun i => { i with aliases := i.aliases ++ [entry] }
    return some entry.1

/-- The names of the tables of the libraries that a table imports. -/
def libraryImports (v : Value) : Indexing (List String) := do
  let found ← (← (← v.field "libraries").elements).mapM libraryImport
  return found.filterMap id

/-- The name of the table of a variable file import. -/
def variableImport (v : Value) : Except Fault String := do
  TableName.ofPath (← firstKey v)

/-- The name of the table of a resource import. -/
def resourceImport (v : Value) : Except Fault String := do
  TableName.ofPath (← v.asText)

/-- The names of the tables of the variable files and resources that a table imports. -/
def fileImports (v : Value) : Except Fault (List String) := do
  let variableFiles ←
    if ← v.has "variable_files" then
      (← (← v.field "variable_files").elements).mapM variableImport
    else pure []
  let resources ←
    if ← v.has "resources" then (← (← v.field "resources").elements).mapM resourceImport
    else pure []
  return variableFiles ++ resources

/-- The names of the tables that a table imports. -/
def imports (v : Value) : Indexing (List String) := do
  let libraries ← if ← v.has "libraries" then libraryImports v else pure []
  return libraries ++ (← fileImports v)

/-- What a table with a document contributes. What it imports is put into the queue. -/
def indexDocument (v : Value) (table : String) : Indexing IndexPart := do
  let facts ← tableFacts v
  let records := (← get).records facts.keywords table facts.object
  addTables (← imports v)
  finishItem table
  return ⟨records, facts.varNames⟩

/-- What a table of the database contributes if its data is sound. -/
def indexSound (database table : String) : Indexing IndexPart := do
  let (v, _) ← (← get).world.store.readTable (Path.join database table)
  indexDocument v table

/-- What a table of the database contributes: nothing if there is a fault in its data. -/
def indexTable (database table : String) : Indexing IndexPart :=
  Routine.forgiving {} (indexSound database table)

/-- What an item of the queue contributes, with the name of its table. -/
def indexItem (database : String) (item : Value × Work) : Indexing (String × IndexPart) := do
  let table ← item.1.textOnly
  return (table, ← indexTable database table)

/-- The waiting tables in the order in which they are read, each with what it contributes. -/
def indexItems (database : String) : Indexing (List (String × IndexPart)) := do
  return (← Routine.drain takeItem (indexItem database)).map Prod.snd

/-- Asks for what every index starts from. -/
def addShared (database : String) (markup : Option String) : Indexing Unit := do
  addBuiltin database
  addMarkup markup

/-- Fills the queue with what the index of a table starts from. -/
def addRoots (database table : String) (markup : Option String) : Indexing Unit := do
  onQueue fun _ => WorkQueue.empty
  addTable table
  addShared database markup

/-- The tables that the index of a table is made from, each with what it contributes. -/
def visits (database table : String) (markup : Option String) :
    Indexing (List (String × IndexPart)) := do
  addRoots database table markup
  indexItems database

/-- The index of a table. -/
def indexFor (database table : String) (markup : Option String) : Indexing IndexPart := do
  return IndexPart.concat ((← visits database table markup).map Prod.snd)

/-- Writes the index of a table. -/
def writeIndex (database table : String) (markup : Option String) : Indexing Unit := do
  let path := (← get).pathOf table
  let part ← indexFor database table markup
  let i ← get
  let store ← i.world.store.writeDocument path part.document
  set { i with world := { i.world with store }, aliases := [] }

/-- Goes through what every index starts from and then fails, since no table is named. -/
def failUnnamed (database : String) (markup : Option String) : Indexing Unit := do
  onQueue fun _ => WorkQueue.empty
  addShared database markup
  let _ ← indexItems database
  throw .wrongKind

end Indexing

end KeywordCatalog
