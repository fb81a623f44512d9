import KeywordCatalog.Catalog
import KeywordCatalog.Completion.Item
import KeywordCatalog.Completion.Query

/-!
# Completion lists

The items that an index offers for what is being typed. Without an object every keyword that fits is
offered, and behind it the library or resource that it comes from, each of these once. With an
object only the keywords of that object are offered.
-/

namespace KeywordCatalog.Completion

/-- How items are written: the cell separator, and whether arguments go on the keyword's line. -/
structure Format where
  cell : Value
  single : Bool

/-- Whether a pattern is found in a document that must be a text. -/
def fits (p : Pattern) (v : Value) : Except Fault Bool := do p.occursIn (← v.textOnly)

/-- The fields of a keyword record that completion looks at. -/
structure Record where
  keyword : Value
  arguments : Value
  object : Value
  byname : Value

/-- The fields of a record in an index. -/
def Record.ofValue (v : Value) : Except Fault Record := do
  return ⟨← v.item 0, ← v.item 1, ← v.item 2, ← v.item 4⟩

/-- The item of a keyword that fits, with its source. -/
def offerKeyword (p : Pattern) (format : Format) (r : Record) (source : Value) :
    Except Fault (List Item) := do
  let keyword ← r.keyword.textOnly
  if ← p.occursIn keyword then
    return [← Item.ofKeyword keyword r.arguments format.cell source format.single]
  else return []

/-- The object of a record to offer: the alias if it fits, otherwise the name if that fits. -/
def objectOf (p : Pattern) (r : Record) : Except Fault (Option String) := do
  if r.byname.truthy then
    let name ← r.byname.textOnly
    if ← p.occursIn name then return some name
  let name ← r.object.textOnly
  return if ← p.occursIn name then some name else none

/-- The items of the records when no object is given; `seen` are the objects offered before. -/
def offerAll (p : Pattern) (format : Format) : List String → List Value → Except Fault (List Item)
  | _, [] => .ok []
  | seen, v :: rest => do
    let r ← Record.ofValue v
    let keyword ← offerKeyword p format r r.object
    match ← objectOf p r with
    | some name =>
      if seen.contains name then return keyword ++ (← offerAll p format seen rest)
      else
        return keyword ++ Item.ofObject name :: (← offerAll p format (seen ++ [name]) rest)
    | none => return keyword ++ (← offerAll p format seen rest)

/-- The items of a record for an object, which is the record's object or its alias. -/
def offerOf (p : Pattern) (format : Format) (object : String) (v : Value) :
    Except Fault (List Item) := do
  let r ← Record.ofValue v
  let named (source : Value) := source.same (.text object) && !source.same r.keyword
  if named r.object then offerKeyword p format r r.object
  else if named r.byname then offerKeyword p format r r.byname
  else return []

/-- The keywords that an index offers. -/
def offerKeywords (s : Store) (index typed : String) (object : Option String) (format : Format) :
    Except Fault (List Item) := do
  let p ← Pattern.compile (keywordPattern typed)
  let records ← s.indexedKeywords index
  let items ←
    match object.filter (!·.isEmpty) with
    | none => offerAll p format [] records
    | some name => (records.mapM (offerOf p format name)).map List.flatten
  return items ++ (withName? typed object).toList

/-- The variables that an index offers. -/
def offerVariables (s : Store) (index typed : String) : Except Fault (List Item) := do
  let p ← Pattern.compile (variablePattern typed)
  let varNames ← s.indexedVariables index
  let items ← varNames.mapM fun v => do
    let name ← v.textOnly
    return if ← p.occursIn name then [Item.ofVariable name (isBareSigil typed)] else []
  return items.flatten

/-- The list for what is being typed: variables if there is a sigil in it, keywords otherwise. -/
def offer (s : Store) (index typed : String) (object : Option String) (format : Format) :
    Except Fault (List Item) :=
  if typed.toList.any Variable.isSigil then offerVariables s index typed
  else offerKeywords s index typed object format

end KeywordCatalog.Completion
