import KeywordCatalog.Catalog
import KeywordCatalog.Keyword.Equality
import KeywordCatalog.Keyword.SearchPattern
import KeywordCatalog.Table.Name

/-!
# Looking keywords up

What the database knows of a keyword that is used in a file. The index of the file tells which table
the keyword is in: the first record counts whose keyword the name means, among the records of an
object if one is given. The table then has the documentation of the keyword, or the place where it
is defined: for a keyword of a suite or resource the file of the table, for a library keyword the
file that the table has for it.
-/

namespace KeywordCatalog

/-- The folders of the database and the file that keywords are used in. -/
structure Lookup where
  store : Store
  tables : String
  indexes : String
  openFile : String

/-- The table and the name of a keyword, and the object of the last record looked at. -/
structure Found where
  table : Value
  keyword : Value
  object : Value
deriving DecidableEq, Repr

/-- A search pattern and the file to search. -/
structure Place where
  pattern : Option String
  file : Value
deriving DecidableEq, Repr

/-- The place of a keyword that is not known. -/
def Place.unknown : Place := ⟨none, .null⟩

/-- Whether a path ends with an extension. Only a text is a path. -/
def hasExtension (path extension : Value) : Except Fault (Option Bool) :=
  match path with
  | .text p => do
    let e ← extension.textOnly
    return some (e.toList.isSuffixOf p.toList)
  | _ => .ok none

/-- The first key of a table's keywords that a keyword means, if one is there. -/
def firstNamed (keyword : Value) : List Value → Except Fault (Option Value)
  | [] => .ok none
  | key :: rest => do
    if ← Keyword.isNamedBy keyword key then return some key else firstNamed keyword rest

/-- The entry of a table's keywords under a key. -/
def keywordEntry (keywords key : Value) : Except Fault Value := do
  keywords.field (← key.textOnly)

/-- The documentation of a keyword in the table at a path. -/
def Store.documentation (s : Store) (path : String) (keyword : Value) : Except Fault Value := do
  let keywords ← (← s.readDocument path).field "keywords"
  match ← firstNamed keyword (← keywords.elements) with
  | some key => (← keywordEntry keywords key).field "documentation"
  | none => return .null

/-- The file that a library table has for the first of some keys that a keyword means; the library
must be the object asked for, if one is. -/
def keywordFileIn (keywords library object keyword : Value) : List Value → Except Fault Value
  | [] => .ok .null
  | key :: rest => do
    if ← Keyword.isNamedBy keyword key then
      if !object.truthy || object.same library then
        return ← (← keywordEntry keywords key).field "keyword_file"
    keywordFileIn keywords library object keyword rest

/-- The file of a keyword in the library table at a path. -/
def Store.keywordFile (s : Store) (path : String) (object keyword : Value) :
    Except Fault Value := do
  let table ← s.readDocument path
  let keywords ← table.field "keywords"
  let library ← table.field "library_module"
  keywordFileIn keywords library object keyword (← keywords.elements)

/-- The place of a keyword in the library table at a path. -/
def Store.libraryPlace (s : Store) (path : String) (object : Value) (keyword : String) :
    Except Fault Place := do
  let file ← s.keywordFile path object (.text keyword)
  return ⟨some (Keyword.libraryPattern keyword), file⟩

namespace Lookup

/-- Whether a record may be meant when an object is given: its object or its alias is that one. With
no object every record may. -/
def isOf (object : Option String) (name byname : Value) : Bool :=
  match object with
  | none => true
  | some o => o.isEmpty || (Value.text o).same byname || (Value.text o).same name

/-- The first of some records that a keyword means. `last` is the object of the record before
them. -/
def findIn (object : Option String) (keyword : String) :
    Value → List Value → Except Fault Found
  | last, [] => .ok ⟨.null, .null, last⟩
  | _, record :: rest => do
    let candidate ← record.item 0
    let byname ← record.item 4
    let table ← record.item 3
    let name ← record.item 2
    if isOf object name byname then
      if ← Keyword.isNamedBy (.text keyword) candidate then return ⟨table, candidate, name⟩
    findIn object keyword name rest

@[simp] theorem findIn_nil (object : Option String) (keyword : String) (last : Value) :
    findIn object keyword last [] = .ok ⟨.null, .null, last⟩ := rfl

@[simp] theorem isOf_none (name byname : Value) : isOf none name byname = true := rfl

/-- The index of the open file. -/
def indexPath (l : Lookup) : Except Fault String := do
  let table ← TableName.ofPath (Path.tidy l.store.cwd l.openFile)
  return Path.join l.indexes (TableName.index table)

/-- The table of a keyword, by the index of the open file. -/
def find (l : Lookup) (object : Option String) (keyword : String) : Except Fault Found := do
  findIn object keyword .null (← l.store.indexedKeywords (← l.indexPath))

/-- The path of a table. -/
def tablePath (l : Lookup) (table : Value) : Except Fault String := do
  return Path.join l.tables (← table.textOnly)

/-- The documentation of a keyword, null if it is not known. -/
def documentation (l : Lookup) (object : Option String) (keyword : String) :
    Except Fault Value := do
  let found ← l.find object keyword
  if found.table.truthy then l.store.documentation (← l.tablePath found.table) found.keyword
  else return .null

/-- The place where a keyword is defined. Files with the given extension are suites and resources.
-/
def place (l : Lookup) (extension : Value) (object : Option String) (keyword : String) :
    Except Fault Place := do
  let found ← l.find object keyword
  if !found.table.truthy then return .unknown
  let path ← l.tablePath found.table
  let table ← l.store.readDocument path
  let file ← if ← table.has "file_path" then table.field "file_path" else pure .null
  let keyword ← found.keyword.asText
  if (← hasExtension file extension) == some true then
    return ⟨some (Keyword.resourcePattern keyword), file⟩
  else l.store.libraryPlace path found.object keyword

end Lookup

end KeywordCatalog
