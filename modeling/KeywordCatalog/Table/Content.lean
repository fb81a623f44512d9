import KeywordCatalog.Table.Name
import KeywordCatalog.Text.Case
import KeywordCatalog.WorkQueue

/-!
# Tables

What the catalog records of a suite or resource, of a variable file and of a library, and the
document that each of them is written as. A table asks for further tables: those of the libraries,
variable files and resources that it imports.
-/

namespace KeywordCatalog

/-- A keyword of a suite or resource. -/
structure UserKeyword where
  name : String
  arguments : Value
  documentation : Value
  tags : Value
deriving DecidableEq, Repr

/-- The import of a library, by name and, for a library in a file, by path. -/
structure LibraryImport where
  name : String
  byname : Value
  arguments : Value
  path : Option String
deriving DecidableEq, Repr

/-- The import of a variable file. -/
structure VariableImport where
  path : String
  arguments : Value
deriving DecidableEq, Repr

/-- A keyword of a library, with the file in which it is defined. -/
structure LibraryKeyword where
  name : String
  arguments : Value
  documentation : Value
  tags : List Value
  file : Option String
deriving DecidableEq, Repr

/-- What is recorded of a suite or resource. -/
structure RobotTable where
  fileName : String
  filePath : String
  keywords : List (String × UserKeyword)
  varNames : List Value
  resources : List String
  libraries : List LibraryImport
  variableFiles : List VariableImport
deriving DecidableEq, Repr

/-- What is recorded of a variable file. -/
structure VariableTable where
  fileName : String
  filePath : String
  varNames : List Value
deriving DecidableEq, Repr

/-- What is recorded of a library. -/
structure LibraryTable where
  moduleName : String
  arguments : List Value
  filePath : Option String
  fileName : Option String
  keywords : List (String × LibraryKeyword)
deriving DecidableEq, Repr

/-- What the catalog records of one item. -/
inductive Table
  | robot (t : RobotTable)
  | variableFile (t : VariableTable)
  | library (t : LibraryTable)
deriving DecidableEq, Repr

/-- The key under which a keyword stands in its table. -/
def keywordKey (name : List Char) : List Char :=
  (Text.lower name).map fun c => if c == ' ' then '_' else c

/-- The document of a keyword of a suite or resource. -/
def UserKeyword.document (k : UserKeyword) : Value :=
  .object
    [("keyword_arguments", k.arguments), ("documentation", k.documentation), ("tags", k.tags),
     ("keyword_name", .text k.name)]

/-- The document of a library import. -/
def LibraryImport.document (i : LibraryImport) : Value :=
  .object
    [("library_name", .text i.name), ("library_alias", i.byname),
     ("library_arguments", i.arguments), ("library_path", Value.ofText? i.path)]

/-- The document of a variable file import. -/
def VariableImport.document (i : VariableImport) : Value :=
  .object [(i.path, .object [("variable_file_arguments", i.arguments)])]

/-- The document of a library keyword. -/
def LibraryKeyword.document (k : LibraryKeyword) : Value :=
  .object
    [("keyword_name", .text k.name), ("tags", .list k.tags), ("keyword_arguments", k.arguments),
     ("documentation", k.documentation), ("keyword_file", Value.ofText? k.file)]

/-- The document of a suite or resource. -/
def RobotTable.document (t : RobotTable) : Value :=
  .object
    [("file_name", .text t.fileName), ("file_path", .text t.filePath),
     ("keywords", .object (t.keywords.map fun (key, k) => (key, k.document))),
     ("variables", .list t.varNames), ("resources", Value.texts t.resources),
     ("libraries", .list (t.libraries.map LibraryImport.document)),
     ("variable_files", .list (t.variableFiles.map VariableImport.document))]

/-- The document of a variable file. -/
def VariableTable.document (t : VariableTable) : Value :=
  .object
    [("file_name", .text t.fileName), ("file_path", .text t.filePath),
     ("variables", .list t.varNames)]

/-- The document of a library. -/
def LibraryTable.document (t : LibraryTable) : Value :=
  .object
    (("arguments", .list t.arguments)
      :: (t.filePath.map fun p => ("file_path", Value.text p)).toList
      ++ (t.fileName.map fun n => ("file_name", Value.text n)).toList
      ++ [("library_module", .text t.moduleName),
        ("keywords", .object (t.keywords.map fun (key, k) => (key, k.document)))])

namespace Table

/-- The document that a table is written as. -/
def document : Table → Value
  | .robot t => t.document
  | .variableFile t => t.document
  | .library t => t.document

/-- The file name of a table in the database. -/
def fileName : Table → Except Fault String
  | .robot t => TableName.ofPath t.filePath
  | .variableFile t => TableName.ofPath t.filePath
  | .library t => TableName.ofLibrary t.moduleName

end Table

/-- An item that is to be put into the work queue. -/
structure Request where
  key : Value
  kind : ItemKind
  arguments : Value
deriving DecidableEq, Repr

/-- Puts the items of requests into a queue, one after the other. -/
def WorkQueue.addAll (q : WorkQueue) (requests : List Request) : WorkQueue :=
  requests.foldl (fun q r => q.add r.key r.kind r.arguments) q

/-- What a library import is known by: its path, and its name if it has none. -/
def LibraryImport.key (i : LibraryImport) : String :=
  match i.path with
  | some path => if path.isEmpty then i.name else path
  | none => i.name

/-- The items that a suite or resource imports. -/
def RobotTable.requests (t : RobotTable) : List Request :=
  t.libraries.map (fun i => ⟨.text i.key, .library, i.arguments⟩)
    ++ t.variableFiles.map (fun i => ⟨.text i.path, .variableFile, i.arguments⟩)
    ++ t.resources.map (fun path => ⟨.text path, .resource, .null⟩)

/-- The items that a table imports. -/
def Table.requests : Table → List Request
  | .robot t => t.requests
  | .variableFile _ | .library _ => []

end KeywordCatalog
