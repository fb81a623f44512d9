import KeywordCatalog.Proofs.Table.Document

/-!
# Tables that read back

A table is put together along many ways: a suite or resource from its model, a library from its
description, its code or its name, a variable file from its variables. Whichever way it takes, the
document of the table is faithful if the answers of the framework are (`Framework.Faithful`), so the
table is read back as it was written (`faithful_of_buildTable`).
-/

namespace KeywordCatalog

/-- A framework whose answers are read back as they are written. -/
structure Framework.Faithful (f : Framework) : Prop where
  models : ∀ e ∈ f.resources ++ f.suites ++ f.folders, e.2.Faithful
  libraries : ∀ e ∈ f.libraries, ∀ k ∈ e.2,
    k.arguments.Faithful ∧ k.documentation.Faithful ∧ k.tags.Faithful
  variableFiles : ∀ e ∈ f.variableFiles, ∀ v ∈ e.2, v.Faithful

theorem LibraryKeyword.faithful_document {k : LibraryKeyword} (harguments : k.arguments.Faithful)
    (hdocumentation : k.documentation.Faithful) (htags : ∀ v ∈ k.tags, v.Faithful) :
    k.document.Faithful := by
  refine .object (by simp) ?_
  simp only [List.forall_mem_cons]
  exact ⟨.text _, .list htags, harguments, hdocumentation, Value.faithful_ofText? _, nofun⟩

open Document

/-- Entries whose documents are the fields of a faithful object. -/
def FaithfulEntries {α : Type} (document : α → Value) (entries : List (String × α)) : Prop :=
  FaithfulFields (entries.map fun e => (e.1, document e.2))

namespace FaithfulEntries

variable {α : Type} {document : α → Value} {entries : List (String × α)} {a : α}

theorem nil : FaithfulEntries document [] := ⟨List.nodup_nil, nofun⟩

theorem put (h : FaithfulEntries document entries) (key : String) (ha : (document a).Faithful) :
    FaithfulEntries document (Ordered.put key a entries) := by
  rw [FaithfulEntries, map_put document]
  exact FaithfulFields.put h key ha

theorem object (h : FaithfulEntries document entries) :
    (Value.object (entries.map fun e => (e.1, document e.2))).Faithful :=
  .object h.nodup h.faithful

end FaithfulEntries

namespace World

variable {w : World} {path : String} {m : Model}

/-! ### Suites and resources -/

theorem faithfulEntries_userKeywords {all : List KeywordInfo}
    {keywords : List (String × UserKeyword)} (h : userKeywords all = .ok keywords)
    (hall : ∀ k ∈ all, k.arguments.Faithful ∧ k.documentation.Faithful ∧ k.tags.Faithful) :
    FaithfulEntries UserKeyword.document keywords := by
  refine Outcome.foldlM_preserves (fun k hk found more hstep hfound => ?_) h .nil
  obtain ⟨name, -, ⟨⟩⟩ := Outcome.bind_eq_ok.1 hstep
  obtain ⟨harguments, hdocumentation, htags⟩ := hall k hk
  exact hfound.put _ (UserKeyword.faithful_document harguments hdocumentation htags)

theorem Holds.faithful {t : RobotTable} (h : Holds w path m t) (hm : m.Faithful) :
    t.document.Faithful :=
  h.faithful_of_keywords hm (faithfulEntries_userKeywords h.keywords hm.keywords).object

theorem faithful_of_robotModel (hw : w.framework.Faithful) (h : w.robotModel path = .ok m) :
    m.Faithful := by
  rcases mem_of_robotModel h with hmem | hmem
  · exact hw.models _ (List.mem_append_left _ hmem)
  · exact hw.models _ (List.mem_append_right _ hmem)

/-! ### Variable files -/

theorem faithful_sortNames {names sorted : List Value} (h : sortNames names = .ok sorted)
    (hnames : ∀ v ∈ names, v.Faithful) : ∀ v ∈ sorted, v.Faithful := by
  unfold sortNames at h
  split at h
  · cases h
    exact hnames
  · cases h
    exact hnames
  · split at h
    · cases h
      exact fun v hv => hnames v (List.mem_mergeSort.1 hv)
    · obtain ⟨texts, -, ⟨⟩⟩ := Outcome.bind_eq_ok.1 h
      intro v hv
      obtain ⟨s, -, rfl⟩ := List.mem_map.1 hv
      exact .text s

theorem faithful_of_buildVariables {b : Builder} {t : VariableTable} (hw : w.framework.Faithful)
    (h : ((w.buildVariables path).exec b).1 = .ok t) : t.document.Faithful := by
  obtain ⟨_, _, h⟩ := Building.exec_bind_eq_ok.1 h
  obtain ⟨names, hnames, ⟨⟩⟩ := Building.exec_bind_eq_ok.1 h
  rw [Building.exec_lift] at hnames
  have hfaithful : ∀ v ∈ (w.framework.variableFiles.lookup path).getD [], v.Faithful := by
    cases hlookup : w.framework.variableFiles.lookup path with
    | none => exact nofun
    | some found => exact hw.variableFiles _ (mem_of_lookup hlookup)
  refine .object (by simp) ?_
  simp only [List.forall_mem_cons]
  exact ⟨.text _, .text _, .list (faithful_sortNames hnames hfaithful), nofun⟩

/-! ### Libraries -/

theorem faithful_libraryKeyword {code : List (String × Attribute)} {named : List (Value × String)}
    {k : KeywordInfo} {keyword : LibraryKeyword} (h : w.libraryKeyword code named k = .ok keyword)
    (hk : k.arguments.Faithful ∧ k.documentation.Faithful ∧ k.tags.Faithful) :
    keyword.document.Faithful := by
  obtain ⟨harguments, hdocumentation, htags⟩ := hk
  obtain ⟨tags, hitems, h⟩ := Outcome.bind_eq_ok.1 h
  obtain ⟨key, -, h⟩ := Outcome.bind_eq_ok.1 h
  have hall := htags.elements hitems
  dsimp only at h
  split at h
  · obtain ⟨source, -, h⟩ := Outcome.bind_eq_ok.1 h
    obtain ⟨name, -, ⟨⟩⟩ := Outcome.bind_eq_ok.1 h
    exact LibraryKeyword.faithful_document harguments hdocumentation hall
  · obtain ⟨name, -, h⟩ := Outcome.bind_eq_ok.1 h
    obtain ⟨source, -, ⟨⟩⟩ := Outcome.bind_eq_ok.1 h
    exact LibraryKeyword.faithful_document harguments hdocumentation hall

theorem faithfulEntries_codeKeywords {library : String} {arguments : List Value}
    {keywords : List (String × LibraryKeyword)} (hw : w.framework.Faithful)
    (h : w.codeKeywords library arguments = .ok keywords) :
    FaithfulEntries LibraryKeyword.document keywords := by
  obtain ⟨query, -, h⟩ := Outcome.bind_eq_ok.1 h
  dsimp only at h
  split at h
  · cases h
  · rename_i all hall
    obtain ⟨named, -, h⟩ := Outcome.bind_eq_ok.1 h
    refine Outcome.foldlM_preserves (fun k hk found more hstep hfound => ?_) h .nil
    obtain ⟨keyword, hkeyword, ⟨⟩⟩ := Outcome.bind_eq_ok.1 hstep
    have hanswer := hw.libraries _ (mem_of_lookup hall) k hk
    exact hfound.put _ (faithful_libraryKeyword hkeyword hanswer)

theorem faithful_markupKeyword {e : Markup.Element} {keyword : LibraryKeyword}
    (h : markupKeyword e = .ok keyword) : keyword.document.Faithful := by
  obtain ⟨name, -, h⟩ := Outcome.bind_eq_ok.1 h
  have htexts (children : List Markup.Element) :
      ∀ v ∈ children.map fun d => Value.ofText? d.text, v.Faithful := by
    intro v hv
    obtain ⟨d, -, rfl⟩ := List.mem_map.1 hv
    exact Value.faithful_ofText? _
  dsimp only at h
  split at h
  · cases h
  · cases h
    exact LibraryKeyword.faithful_document (.list (htexts _)) (Value.faithful_ofText? _) (htexts _)

theorem faithfulEntries_markupLibrary {name : String} {keywords : List (String × LibraryKeyword)}
    (h : w.markupLibrary path = .ok (name, keywords)) :
    FaithfulEntries LibraryKeyword.document keywords := by
  obtain ⟨root, -, h⟩ := Outcome.bind_eq_ok.1 h
  split at h
  · obtain ⟨given, -, h⟩ := Outcome.bind_eq_ok.1 h
    obtain ⟨found, hfound, ⟨⟩⟩ := Outcome.bind_eq_ok.1 h
    refine Outcome.foldlM_preserves (fun e _ before after hstep hbefore => ?_) hfound .nil
    obtain ⟨keyword, hkeyword, ⟨⟩⟩ := Outcome.bind_eq_ok.1 hstep
    exact hbefore.put _ (faithful_markupKeyword hkeyword)
  · obtain ⟨given, -, h⟩ := Outcome.bind_eq_ok.1 h
    cases h

theorem faithful_argumentList {v : Value} {arguments : List Value} (hv : v.Faithful)
    (h : argumentList v = .ok arguments) : ∀ a ∈ arguments, a.Faithful := by
  unfold argumentList at h
  split at h
  · exact hv.elements h
  · cases h
    exact nofun

theorem faithful_libraryTable {t : LibraryTable} (harguments : ∀ a ∈ t.arguments, a.Faithful)
    (hkeywords : FaithfulEntries LibraryKeyword.document t.keywords) :
    t.document.Faithful := by
  have hobject := hkeywords.object
  obtain ⟨moduleName, arguments, filePath, fileName, keywords⟩ := t
  cases filePath <;> cases fileName <;> refine .object (by simp) ?_ <;>
    simp [Value.Faithful.text, Value.Faithful.list harguments, hobject]

theorem faithful_of_buildLibrary {name : String} {arguments : Value} {t : LibraryTable}
    (hw : w.framework.Faithful) (harguments : arguments.Faithful)
    (h : w.buildLibrary name arguments = .ok t) : t.document.Faithful := by
  obtain ⟨items, hitems, h⟩ := Outcome.bind_eq_ok.1 h
  have hitems := faithful_argumentList harguments hitems
  dsimp only at h
  split at h
  · split at h
    · obtain ⟨⟨title, keywords⟩, hkeywords, h⟩ := Outcome.bind_eq_ok.1 h
      rw [← Except.ok.inj h]
      exact faithful_libraryTable hitems (faithfulEntries_markupLibrary hkeywords)
    · split at h
      · obtain ⟨keywords, hkeywords, h⟩ := Outcome.bind_eq_ok.1 h
        rw [← Except.ok.inj h]
        exact faithful_libraryTable hitems (faithfulEntries_codeKeywords hw hkeywords)
      · cases h
  · obtain ⟨keywords, hkeywords, h⟩ := Outcome.bind_eq_ok.1 h
    rw [← Except.ok.inj h]
    exact faithful_libraryTable hitems (faithfulEntries_codeKeywords hw hkeywords)

/-- **Every table that is built of faithful answers is read back as it is written.** -/
theorem faithful_of_buildTable {key : Value} {work : Work} {t : Table} (hw : w.framework.Faithful)
    (harguments : work.arguments.Faithful) (h : w.buildTable key work = .ok t) :
    t.document.Faithful := by
  cases builds_of_buildTable h with
  | robot _ hmodel hholds => exact hholds.faithful (faithful_of_robotModel hw hmodel)
  | library _ hbuild => exact faithful_of_buildLibrary hw harguments hbuild
  | variableFile hkind _ =>
    simp only [buildTable, hkind] at h
    obtain ⟨v, hv, ⟨⟩⟩ := Outcome.map_eq_ok.1 h
    exact faithful_of_buildVariables hw hv

end World

end KeywordCatalog
