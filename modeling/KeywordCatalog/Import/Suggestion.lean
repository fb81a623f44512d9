import KeywordCatalog.Catalog
import KeywordCatalog.Document.Display
import KeywordCatalog.Import.Line

/-!
# Suggested imports

What the database offers for an import: the names and paths of the libraries, resources or variable
files that have a table. A table with a module is a library, one with variable files is a suite or
resource, one without keywords is a variable file. The library that every suite uses is not offered.
-/

namespace KeywordCatalog.Import

/-- The kind of import with a written name. -/
def Kind.ofValue (v : Value) : Except Fault Kind :=
  if v.same (.text "library") then .ok .library
  else if v.same (.text "variable_file") then .ok .variableFile
  else if v.same (.text "resource_file") then .ok .resource
  else .error (.refused (.importType v.shown))

/-- The name and the path of a library. -/
def suggestLibrary (table : Value) : Except Fault Value := do
  let library ← table.field "library_module"
  if ← table.has "file_path" then return .list [library, ← table.field "file_path"]
  else return .list [library, library]

/-- The name and the path of a file, null if the table has no path. -/
def suggestFile (table : Value) : Except Fault Value := do
  if ← table.has "file_path" then
    return .list [← table.field "file_name", ← table.field "file_path"]
  else return .null

/-- What a table offers for an import of a kind. -/
def suggest (kind : Kind) (table : Value) : Except Fault (List Value) := do
  match kind with
  | .library =>
    if ← table.has "library_module" then
      if ← (← table.field "library_module").has "BuiltIn" then return []
      else return [← suggestLibrary table]
    else return []
  | .resource => if ← table.has "variable_files" then return [← suggestFile table] else return []
  | .variableFile => if ← table.has "keywords" then return [] else return [← suggestFile table]

/-- What the tables of a database offer for an import of a kind. -/
def suggestions (s : Store) (database : String) (kind : Kind) : Except Fault (List Value) := do
  let found ← (← s.names database).mapM fun name => do
    suggest kind (← s.readDocument (Path.join database name))
  return found.flatten

end KeywordCatalog.Import
