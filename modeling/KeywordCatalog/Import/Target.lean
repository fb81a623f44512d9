import KeywordCatalog.Catalog
import KeywordCatalog.Table.Name
import KeywordCatalog.Text.Case

/-!
# Where an import leads

The file that an imported name means. A resource, or a library in a file of code, is found from the
folder of the importing file; any other library has a table, and the file is that of its first
keyword.
-/

namespace KeywordCatalog.Import

open Text

/-- The path of an imported file, from the folder of the importing file. -/
def filePath (s : Store) (name openFile : String) : String :=
  Path.absolute s.cwd (Path.join (Path.parent openFile) name)

/-- The file of the first keyword of a table. -/
def firstKeywordFile (table : Value) : Except Fault Value := do
  match (← table.fields).lookup "keywords" with
  | none => throw .missingMember
  | some keywords =>
    match ← keywords.fields with
    | [] => throw .outOfRange
    | (_, keyword) :: _ => keyword.field "keyword_file"

/-- The file that a library leads to by its table. -/
def libraryFile (s : Store) (name tables : String) : Except Fault Value := do
  let table ← TableName.ofLibrary name
  firstKeywordFile (← s.readDocument (Path.join tables table))

/-- Whether a name ends with an extension. -/
def hasEnding (name : List Char) (ending : String) : Bool := ending.toList.isSuffixOf name

/-- Whether an import names a file: a resource in upper or lower case, or code. -/
def namesFile (name : String) : Bool :=
  hasEnding (lower name.toList) ".robot" || hasEnding name.toList ".py"

/-- The file that an imported name leads to. -/
def target (s : Store) (name openFile tables : String) : Except Fault Value :=
  if namesFile name then .ok (.text (filePath s name openFile)) else libraryFile s name tables

/-- The text to insert for the import of a file: the path from the folder of the importing file. -/
def relativeName (s : Store) (file openFile : String) : String :=
  let path := Path.relative s.cwd file (Path.parent openFile)
  String.ofList (path.toList.map fun c => if c == '\\' then '/' else c)

end KeywordCatalog.Import
