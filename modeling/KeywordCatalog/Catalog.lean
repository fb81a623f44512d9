import KeywordCatalog.Document.Access
import KeywordCatalog.Document.Reader
import KeywordCatalog.Document.Writer
import KeywordCatalog.Store

/-!
# Stored documents

Reading the documents of the database: a whole file, and the keywords and variables of an index. A
document that has more levels than can be read is not written.
-/

namespace KeywordCatalog

/-- The document in the file at a path. -/
def Store.readDocument (s : Store) (path : String) : Except Fault Value := do
  Value.parse (← s.read path)

/-- Writes a document on one line into the file at a path. -/
def Store.writeDocument (s : Store) (path : String) (v : Value) : Except Fault Store := do
  let written ← s.write path v.render
  if Document.levelLimit < v.levels then throw .tooDeep
  return written

/-- The keyword records of the index at a path. -/
def Store.indexedKeywords (s : Store) (path : String) : Except Fault (List Value) := do
  ((← s.readDocument path).field "keywords") >>= Value.elements

/-- The variables of the index at a path. -/
def Store.indexedVariables (s : Store) (path : String) : Except Fault (List Value) := do
  ((← s.readDocument path).field "variables") >>= Value.elements

end KeywordCatalog
