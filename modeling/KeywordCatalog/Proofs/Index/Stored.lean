import KeywordCatalog.Index
import KeywordCatalog.Proofs.Store

/-!
# Stored indexes

The document of an index has a list for each record and a list of the variables. It is faithful if the
parts of the records and the variables are (`IndexPart.faithful_document`), so an index that is stored
is read back with its records (`Store.indexedKeywords_of_readRaw`).
-/

namespace KeywordCatalog

theorem KeywordRecord.faithful_document {r : KeywordRecord} (hkeyword : r.keyword.Faithful)
    (harguments : r.arguments.Faithful) (hobject : r.object.Faithful) (hbyname : r.byname.Faithful) :
    r.document.Faithful := by
  refine .list ?_
  simp only [List.forall_mem_cons]
  exact ⟨hkeyword, harguments, hobject, .text _, hbyname, nofun⟩

variable {part : IndexPart}

theorem IndexPart.faithful_document (hkeywords : ∀ r ∈ part.keywords, r.document.Faithful)
    (hvarNames : ∀ v ∈ part.varNames, v.Faithful) : part.document.Faithful := by
  refine .object (by simp) ?_
  simp only [List.forall_mem_cons]
  exact ⟨.list (List.forall_mem_map.2 hkeywords), .list hvarNames, nofun⟩

theorem Store.indexedKeywords_of_readRaw {s : Store} {path : String} (h : part.document.Faithful)
    (hlevels : part.document.levels ≤ Document.levelLimit)
    (hraw : s.readRaw path = .ok part.document.render) :
    s.indexedKeywords path = .ok (part.keywords.map KeywordRecord.document) := by
  rw [Store.indexedKeywords, Store.readDocument_of_readRaw h hlevels hraw]
  rfl

end KeywordCatalog
