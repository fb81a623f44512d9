import KeywordCatalog.Digest
import KeywordCatalog.Fault
import KeywordCatalog.Path
import KeywordCatalog.Text.Half

/-!
# Names of tables

A table is a file of the database. Its name starts with the end of the name of what it describes,
so that a reader recognises it, and goes on with the digest of the whole, so that it is unlike any
other. The index of a table has the table's name with a word in front.
-/

namespace KeywordCatalog.TableName

/-- The number of characters that a table shows of a name. -/
def shownLength : Nat := 100

/-- The end of a name that a table shows. -/
def tail (name : List Char) : List Char := name.drop (name.length - shownLength)

/-- A table's name from the name that it shows and the text that tells it from others. -/
def compose (shown : List Char) (whole : String) : String :=
  String.ofList shown ++ "-" ++ digest whole ++ ".json"

/-- The name of the table of a file. -/
def ofFile (path : String) : String := compose (tail (Path.nameChars path.toList)) path

/-- The name of the table of a file whose path may have no bytes. -/
def ofPath (path : String) : Except Fault String :=
  if Text.hasBytes path.toList then .ok (ofFile path) else .error .unencodable

/-- The name of the table of a library. Only names that end in plain characters can be shown. -/
def ofLibrary (name : String) : Except Fault String :=
  let shown := tail name.toList
  if !Text.hasBytes name.toList then .error .unencodable
  else if shown.all fun c => c.toNat < 128 then .ok (compose shown name) else .error .badEncoding

/-- The name of the index of a table. -/
def index (table : String) : String := "index-" ++ table

end KeywordCatalog.TableName
