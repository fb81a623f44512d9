import Mathlib.Data.List.Nodup
import KeywordCatalog.Index
import KeywordCatalog.Proofs.Document.RoundTrip
import KeywordCatalog.Proofs.Keyword.Names
import KeywordCatalog.Proofs.Table.Building

/-!
# The document of a suite or resource

The document of a table holds an entry for every keyword of the model, in order, if the names of the
keywords have different bare forms (`Model.Nameable`). It is read back as it was written if what the
framework answered with can be written (`Model.Faithful`), and an index finds the names of the
keywords in it.
-/

namespace KeywordCatalog

namespace KeywordInfo

/-- The name of a keyword; empty if it is no text. -/
def title (k : KeywordInfo) : String := k.name.asText.toOption.getD ""

/-- The key under which a keyword stands in its table. -/
def key (k : KeywordInfo) : String := String.ofList (keywordKey k.title.toList)

/-- The entry of a keyword in its table. -/
def entry (k : KeywordInfo) : String × UserKeyword :=
  (k.key, ⟨k.title, k.arguments, k.documentation, k.tags⟩)

end KeywordInfo

namespace Model

/-- A model whose keywords have plain names with different bare forms. -/
structure Nameable (m : Model) : Prop where
  plain : ∀ k ∈ m.keywords, k.name = .text k.title ∧ Keyword.IsPlain k.title
  apart : (m.keywords.map fun k => Keyword.bare k.title).Nodup

/-- A model of documents that are read back as they are written. -/
structure Faithful (m : Model) : Prop where
  keywords : ∀ k ∈ m.keywords, k.arguments.Faithful ∧ k.documentation.Faithful ∧ k.tags.Faithful
  varNames : ∀ v ∈ m.varNames, v.Faithful
  imports : ∀ i ∈ m.imports, i.byname.Faithful ∧ i.arguments.Faithful

variable {m : Model}

theorem Nameable.nodup_keys (h : m.Nameable) : (m.keywords.map KeywordInfo.key).Nodup := by
  have hbare : (m.keywords.map KeywordInfo.key).map Keyword.bare =
      m.keywords.map fun k => Keyword.bare k.title := by
    rw [List.map_map]
    refine List.map_congr_left fun k hk => ?_
    have hkey := Keyword.bareChars_keywordKey (h.plain k hk).2.ascii
    simp [Keyword.bare, KeywordInfo.key, hkey]
  exact List.Nodup.of_map Keyword.bare (hbare ▸ h.apart)

end Model

namespace World

variable {w : World} {path : String} {m : Model} {t : RobotTable}

theorem foldlM_put_entries {all : List KeywordInfo} {found : List (String × UserKeyword)}
    (hnames : ∀ k ∈ all, k.name = .text k.title)
    (hkeys : ((found ++ all.map KeywordInfo.entry).map Prod.fst).Nodup) :
    all.foldlM (fun found k => do
      let name ← k.name.asText
      let key := String.ofList (keywordKey name.toList)
      return Ordered.put key ⟨name, k.arguments, k.documentation, k.tags⟩ found) found =
        (.ok (found ++ all.map KeywordInfo.entry) : Except Fault _) := by
  induction all generalizing found with
  | nil => simp [pure, Except.pure]
  | cons k all ih =>
    obtain ⟨hname, hall⟩ := List.forall_mem_cons.1 hnames
    have hnew : k.key ∉ found.map Prod.fst := by
      rw [List.map_append, List.nodup_append] at hkeys
      exact fun hmem => hkeys.2.2 k.key hmem k.key (by simp [KeywordInfo.entry]) rfl
    have hput : Ordered.put k.key k.entry.2 found = found ++ [k.entry] :=
      Ordered.put_of_notMem hnew _
    have hrest := ih hall (show ((found ++ [k.entry] ++ all.map KeywordInfo.entry).map Prod.fst).Nodup
      by simpa using hkeys)
    rw [← hput] at hrest
    rw [List.foldlM_cons, hname, List.map_cons, List.append_cons, ← hput]
    exact hrest

/-- The keywords of a table are those of the model, in order. -/
theorem userKeywords_of_nameable (h : m.Nameable) :
    userKeywords m.keywords = .ok (m.keywords.map KeywordInfo.entry) := by
  refine foldlM_put_entries (fun k hk => (h.plain k hk).1) ?_
  rw [List.nil_append, List.map_map]
  exact h.nodup_keys

theorem Holds.keywords_eq (h : Holds w path m t) (hm : m.Nameable) :
    t.keywords = m.keywords.map KeywordInfo.entry :=
  Except.ok.inj (h.keywords.symm.trans (userKeywords_of_nameable hm))

/-! ### What is written -/

theorem libraryImport_settings {folder : String} {i : ImportInfo} {l : LibraryImport}
    (h : w.libraryImport folder i = .ok l) : l.byname = i.byname ∧ l.arguments = i.arguments := by
  obtain ⟨name, -, h⟩ := Outcome.bind_eq_ok.1 h
  dsimp only at h
  split at h
  · split at h <;> rw [← Except.ok.inj h] <;> exact ⟨rfl, rfl⟩
  · rw [← Except.ok.inj h]
    exact ⟨rfl, rfl⟩

theorem variableImport_settings {i : ImportInfo} {v : VariableImport}
    (h : w.variableImport path i = .ok v) : v.arguments = i.arguments := by
  obtain ⟨name, -, h⟩ := Outcome.bind_eq_ok.1 h
  rw [← Except.ok.inj h]

end World

theorem UserKeyword.faithful_document {k : UserKeyword} (harguments : k.arguments.Faithful)
    (hdocumentation : k.documentation.Faithful) (htags : k.tags.Faithful) :
    k.document.Faithful := by
  refine .object (by simp) ?_
  simp only [List.forall_mem_cons]
  exact ⟨harguments, hdocumentation, htags, .text _, nofun⟩

theorem LibraryImport.faithful_document {l : LibraryImport} (hbyname : l.byname.Faithful)
    (harguments : l.arguments.Faithful) : l.document.Faithful := by
  refine .object (by simp) ?_
  simp only [List.forall_mem_cons]
  exact ⟨.text _, hbyname, harguments, Value.faithful_ofText? _, nofun⟩

theorem VariableImport.faithful_document {v : VariableImport} (h : v.arguments.Faithful) :
    v.document.Faithful := by
  have hinner : (Value.object [("variable_file_arguments", v.arguments)]).Faithful :=
    .object (List.nodup_singleton _) (List.forall_mem_singleton.2 h)
  exact .object (List.nodup_singleton _) (List.forall_mem_singleton.2 hinner)

namespace World

variable {w : World} {path : String} {m : Model} {t : RobotTable}

/-- The table of a faithful model is read back as it is written if its keywords are. -/
theorem Holds.faithful_of_keywords (h : Holds w path m t) (hm : m.Faithful)
    (hkeywords : (Value.object (t.keywords.map fun e => (e.1, e.2.document))).Faithful) :
    t.document.Faithful := by
  have hvarNames : (Value.list t.varNames).Faithful := by
    rw [h.varNames]
    exact .list fun v hv => hm.varNames v (List.mem_of_mem_filter hv)
  have hlibraries : (Value.list (t.libraries.map LibraryImport.document)).Faithful := by
    refine .list fun v hv => ?_
    obtain ⟨l, hl, rfl⟩ := List.mem_map.1 hv
    obtain ⟨i, hi, himport⟩ := h.libraries l hl
    obtain ⟨hbyname, harguments⟩ := libraryImport_settings himport
    refine LibraryImport.faithful_document ?_ ?_
    · rw [hbyname]
      exact (hm.imports i hi).1
    · rw [harguments]
      exact (hm.imports i hi).2
  have hfiles : (Value.list (t.variableFiles.map VariableImport.document)).Faithful := by
    refine .list fun v hv => ?_
    obtain ⟨f, hf, rfl⟩ := List.mem_map.1 hv
    obtain ⟨i, hi, himport⟩ := h.variableFiles f hf
    refine VariableImport.faithful_document ?_
    rw [variableImport_settings himport]
    exact (hm.imports i hi).2
  refine .object (by simp) ?_
  simp only [List.forall_mem_cons]
  exact ⟨.text _, .text _, hkeywords, hvarNames, Value.faithful_texts _, hlibraries, hfiles, nofun⟩

theorem Holds.faithful_document (h : Holds w path m t) (hnames : m.Nameable) (hm : m.Faithful) :
    t.document.Faithful := by
  refine h.faithful_of_keywords hm ?_
  rw [h.keywords_eq hnames]
  refine .object ?_ fun f hf => ?_
  · rw [List.map_map, List.map_map]
    exact hnames.nodup_keys
  · obtain ⟨e, he, rfl⟩ := List.mem_map.1 hf
    obtain ⟨k, hk, rfl⟩ := List.mem_map.1 he
    obtain ⟨harguments, hdocumentation, htags⟩ := hm.keywords k hk
    exact UserKeyword.faithful_document harguments hdocumentation htags

end World

/-! ### What an index finds in it -/

namespace RobotTable

variable {t : RobotTable} {facts : TableFacts}

/-- The name of the object that a table describes: the name of its file up to the first dot. -/
def stem (t : RobotTable) : String := String.ofList (Text.cutAt '.' t.fileName.toList).1

theorem objectName_document {object : Value} (h : objectName t.document = .ok object) :
    object = .text t.stem := by
  have hlibrary : t.document.has "library_module" = .ok false := rfl
  have hfile : t.document.field "file_name" = .ok (.text t.fileName) := rfl
  unfold objectName at h
  simp only [hlibrary, hfile, Outcome.ok_bind, Bool.false_eq_true, if_false, Value.asText_text,
    pure_bind] at h
  split at h
  · exact (Except.ok.inj h).symm
  · cases h

theorem tableKeywords_document {keywords : List (Value × Value)}
    (h : tableKeywords t.document = .ok keywords) :
    keywords.map Prod.fst = t.keywords.map fun e => .text e.2.name := by
  have hhas : t.document.has "keywords" = .ok true := rfl
  have hfield : t.document.field "keywords" =
      .ok (.object (t.keywords.map fun e => (e.1, e.2.document))) := rfl
  unfold tableKeywords at h
  simp only [hhas, hfield, Outcome.ok_bind, if_true, Value.fields] at h
  have hpairs : List.Forall₂ (fun e pair => pair.1 = .text e.2.name) t.keywords keywords := by
    refine (List.forall₂_map_left_iff.1 (Outcome.mapM_eq_ok.1 h)).imp fun e pair hpair => ?_
    obtain ⟨_, ⟨⟩, hpair⟩ := Outcome.bind_eq_ok.1 hpair
    obtain ⟨_, ⟨⟩, hpair⟩ := Outcome.bind_eq_ok.1 hpair
    obtain ⟨arguments, -, ⟨⟩⟩ := Outcome.bind_eq_ok.1 hpair
    rfl
  rw [← List.forall₂_eq_eq_eq, List.forall₂_map_left_iff, List.forall₂_map_right_iff]
  exact hpairs.flip

/-- An index finds the names of the keywords, and the name of the file as that of their object. -/
theorem tableFacts_document (h : tableFacts t.document = .ok facts) :
    facts.keywords.map Prod.fst = t.keywords.map (fun e => .text e.2.name) ∧
      (t.keywords ≠ [] → facts.object = .text t.stem) := by
  obtain ⟨varNames, -, h⟩ := Outcome.bind_eq_ok.1 h
  obtain ⟨keywords, hkeywords, h⟩ := Outcome.bind_eq_ok.1 h
  have hnames := tableKeywords_document hkeywords
  dsimp only at h
  split at h
  · rename_i hempty
    cases h
    refine ⟨hnames, fun hne => absurd ?_ hne⟩
    rw [List.isEmpty_iff.1 hempty] at hnames
    exact List.map_eq_nil_iff.1 hnames.symm
  · obtain ⟨object, hobject, ⟨⟩⟩ := Outcome.bind_eq_ok.1 h
    exact ⟨hnames, fun _ => objectName_document hobject⟩

end RobotTable

end KeywordCatalog
