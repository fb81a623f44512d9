import KeywordCatalog.Proofs.Document.RoundTrip
import KeywordCatalog.Proofs.Index.Closure
import KeywordCatalog.Proofs.Index.Stored

/-!
# The document of an index

An index is made of documents that were read from tables, so it is read back as it is written.
-/

namespace KeywordCatalog

theorem Argument.faithful_of_indexedAll {arguments : Value} {forms : List Value}
    (h : Argument.indexedAll arguments = .ok forms) : ∀ v ∈ forms, v.Faithful := by
  obtain ⟨elements, -, hforms⟩ := Outcome.bind_eq_ok.1 h
  intro v hv
  obtain ⟨a, -, ha⟩ := Outcome.exists_of_mapM_eq_ok hforms hv
  unfold indexedValue at ha
  split at ha
  · cases ha
    exact .text _
  · obtain ⟨_ | _, -, ha⟩ := Outcome.bind_eq_ok.1 ha <;> cases ha

namespace TableFacts

/-- What a table says of itself in documents that are read back as they are written. -/
structure Faithful (facts : TableFacts) : Prop where
  varNames : ∀ v ∈ facts.varNames, v.Faithful
  keywords : ∀ k ∈ facts.keywords, k.1.Faithful ∧ k.2.Faithful
  object : facts.object.Faithful

end TableFacts

variable {v : Value} {facts : TableFacts}

theorem faithful_of_tableVariables {names : List Value} (hv : v.Faithful)
    (h : tableVariables v = .ok names) : ∀ w ∈ names, w.Faithful := by
  obtain ⟨_ | _, -, h⟩ := Outcome.bind_eq_ok.1 h
  · cases h
    exact nofun
  · obtain ⟨listed, hlisted, h⟩ := Outcome.bind_eq_ok.1 h
    exact (hv.field hlisted).elements h

theorem faithful_of_tableKeywords {keywords : List (Value × Value)} (hv : v.Faithful)
    (h : tableKeywords v = .ok keywords) : ∀ k ∈ keywords, k.1.Faithful ∧ k.2.Faithful := by
  obtain ⟨_ | _, -, h⟩ := Outcome.bind_eq_ok.1 h
  · cases h
    exact nofun
  · obtain ⟨table, htable, h⟩ := Outcome.bind_eq_ok.1 h
    obtain ⟨fields, hfields, h⟩ := Outcome.bind_eq_ok.1 h
    intro k hk
    obtain ⟨⟨key, entry⟩, hmem, hentry⟩ := Outcome.exists_of_mapM_eq_ok h hk
    have hfaithful : entry.Faithful := (hv.field htable).fields hfields _ hmem
    obtain ⟨name, hname, hentry⟩ := Outcome.bind_eq_ok.1 hentry
    obtain ⟨arguments, -, hentry⟩ := Outcome.bind_eq_ok.1 hentry
    obtain ⟨forms, hforms, ⟨⟩⟩ := Outcome.bind_eq_ok.1 hentry
    exact ⟨hfaithful.field hname, .list (Argument.faithful_of_indexedAll hforms)⟩

theorem faithful_of_objectName {object : Value} (hv : v.Faithful)
    (h : objectName v = .ok object) : object.Faithful := by
  have hgiven {name : Value} (hname : name.Faithful)
      (h : (if name.truthy then pure name else throw (.refused .nameless) : Except Fault Value) =
        .ok object) : object.Faithful := by
    split at h
    · cases h
      exact hname
    · cases h
  obtain ⟨_ | _, -, h⟩ := Outcome.bind_eq_ok.1 h
  · obtain ⟨_, -, h⟩ := Outcome.bind_eq_ok.1 h
    obtain ⟨file, -, h⟩ := Outcome.bind_eq_ok.1 h
    exact hgiven (.text _) h
  · obtain ⟨name, hname, h⟩ := Outcome.bind_eq_ok.1 h
    exact hgiven (hv.field hname) h

theorem faithful_of_tableFacts (hv : v.Faithful) (h : tableFacts v = .ok facts) :
    facts.Faithful := by
  obtain ⟨varNames, hvarNames, h⟩ := Outcome.bind_eq_ok.1 h
  obtain ⟨keywords, hkeywords, h⟩ := Outcome.bind_eq_ok.1 h
  have hnames := faithful_of_tableVariables hv hvarNames
  have hrecords := faithful_of_tableKeywords hv hkeywords
  dsimp only at h
  split at h
  · cases h
    exact ⟨hnames, hrecords, .null⟩
  · obtain ⟨object, hobject, ⟨⟩⟩ := Outcome.bind_eq_ok.1 h
    exact ⟨hnames, hrecords, faithful_of_objectName hv hobject⟩

theorem Store.faithful_of_readTable {s : Store} {path : String} {similar : Bool}
    (h : s.readTable path = .ok (v, similar)) : v.Faithful := by
  unfold Store.readTable at h
  split at h
  · obtain ⟨w, hparse, ⟨⟩⟩ := Outcome.bind_eq_ok.1 h
    exact Value.faithful_of_parse hparse
  · split at h
    · obtain ⟨other, -, h⟩ := Outcome.bind_eq_ok.1 h
      obtain ⟨w, hread, ⟨⟩⟩ := Outcome.bind_eq_ok.1 h
      obtain ⟨text, -, hparse⟩ := Outcome.bind_eq_ok.1 hread
      exact Value.faithful_of_parse hparse
    · cases h

namespace Indexing

variable {w : World} {database name : String} {i : Index} {aliases : List (String × Value)}

theorem faithful_of_tableReading {names : List String}
    (h : tableReading w database name = .ok (facts, names)) : facts.Faithful := by
  obtain ⟨⟨v, similar⟩, hread, h⟩ := Outcome.bind_eq_ok.1 h
  obtain ⟨facts', hfacts, h⟩ := Outcome.bind_eq_ok.1 h
  obtain ⟨names', -, ⟨⟩⟩ := Outcome.bind_eq_ok.1 h
  exact faithful_of_tableFacts (Store.faithful_of_readTable hread) hfacts

/-- Aliases that are read back as they are written. -/
def FaithfulAliases (aliases : List (String × Value)) : Prop := ∀ a ∈ aliases, a.2.Faithful

theorem faithful_of_imported {entry : String × Value} (hv : v.Faithful)
    (h : libraryEntry? w v = .ok (some entry)) : entry.2.Faithful := by
  obtain ⟨path, -, h⟩ := Outcome.bind_eq_ok.1 h
  dsimp only at h
  split at h
  all_goals
    obtain ⟨library, -, h⟩ := Outcome.bind_eq_ok.1 h
    obtain ⟨arguments, -, h⟩ := Outcome.bind_eq_ok.1 h
    obtain ⟨_ | t, -, h⟩ := Outcome.bind_eq_ok.1 h
    · cases h
    · obtain ⟨table, -, h⟩ := Outcome.bind_eq_ok.1 h
      obtain ⟨byname, hbyname, ⟨⟩⟩ := Outcome.bind_eq_ok.1 h
      exact hv.field hbyname

theorem faithfulAliases_readLibraries {items : List Value} (h : ∀ v ∈ items, v.Faithful) :
    FaithfulAliases (readLibraries w items).1 := by
  induction items with
  | nil => exact nofun
  | cons v rest ih =>
    obtain ⟨hv, hrest⟩ := List.forall_mem_cons.1 h
    unfold readLibraries
    split
    · exact nofun
    · exact ih hrest
    · rename_i entry hentry
      exact List.forall_mem_cons.2 ⟨faithful_of_imported hv hentry, ih hrest⟩

theorem faithfulAliases_tableAliases : FaithfulAliases (tableAliases w database name) := by
  unfold tableAliases
  split
  · exact nofun
  · rename_i v similar hread
    split
    · exact nofun
    · unfold libraryEntries
      split
      · exact nofun
      · exact nofun
      · split
        · exact nofun
        · rename_i items hitems
          obtain ⟨listed, hlisted, hitems⟩ := Outcome.bind_eq_ok.1 hitems
          exact faithfulAliases_readLibraries
            (((Store.faithful_of_readTable hread).field hlisted).elements hitems)

theorem faithfulAliases_knownAliases (h : FaithfulAliases i.aliases) (names : List String) :
    FaithfulAliases (knownAliases i database names) := by
  intro a ha
  rcases List.mem_append.1 ha with ha | ha
  · exact h a ha
  · obtain ⟨name, -, ha⟩ := List.mem_flatMap.1 ha
    exact faithfulAliases_tableAliases a ha

theorem faithful_firstAlias (h : FaithfulAliases aliases) (table : String) :
    (firstAlias aliases table).Faithful := by
  unfold firstAlias
  cases hfirst : (aliases.filter fun a => a.1 == table && a.2.truthy).head? with
  | none => exact .null
  | some a => exact h a (List.mem_of_mem_filter (List.mem_of_mem_head? hfirst))

/-! ### Records -/

/-- What a table contributes to an index: records of its keywords, all of its own object. -/
structure RecordOf (w : World) (database : String) (r : KeywordRecord) (facts : TableFacts) :
    Prop where
  reading : ∃ names, tableReading w database r.table = .ok (facts, names)
  keyword : (r.keyword, r.arguments) ∈ facts.keywords
  object : r.object = facts.object

theorem recordOf_of_mem_contribution {r : KeywordRecord}
    (h : r ∈ (contribution w database aliases name).keywords) :
    r.table = name ∧ r.byname = firstAlias aliases name ∧ ∃ facts, RecordOf w database r facts := by
  unfold contribution at h
  split at h
  · rename_i facts names hread
    obtain ⟨k, hk, rfl⟩ := List.mem_map.1 h
    exact ⟨rfl, rfl, facts, ⟨names, hread⟩, hk, rfl⟩
  · cases h

theorem faithful_record {r : KeywordRecord} (h : RecordOf w database r facts)
    (hbyname : r.byname.Faithful) : r.document.Faithful := by
  obtain ⟨names, hread⟩ := h.reading
  have hfacts := faithful_of_tableReading hread
  obtain ⟨hkeyword, harguments⟩ := hfacts.keywords _ h.keyword
  exact KeywordRecord.faithful_document hkeyword harguments (h.object ▸ hfacts.object) hbyname

theorem faithful_of_mem_varNames (h : v ∈ (contribution w database aliases name).varNames) :
    v.Faithful := by
  unfold contribution at h
  split at h
  · rename_i facts names hread
    exact (faithful_of_tableReading hread).varNames v h
  · cases h

variable {roots : List String} {visited : List (String × IndexPart)} {s : Index}

theorem Visited.part_of_mem (h : Visited i database roots visited s) {own : IndexPart}
    (hmem : (name, own) ∈ visited) :
    ∃ names, own = contribution i.world database (knownAliases i database names) name := by
  obtain ⟨before, after, hsplit⟩ := List.append_of_mem hmem
  exact ⟨_, h.part before name own after hsplit⟩

theorem Visited.recordOf (h : Visited i database roots visited s) {r : KeywordRecord}
    (hr : r ∈ (IndexPart.concat (visited.map Prod.snd)).keywords) :
    ∃ names facts, r.byname = firstAlias (knownAliases i database names) r.table ∧
      RecordOf i.world database r facts := by
  obtain ⟨own, hown, hr⟩ := List.mem_flatMap.1 hr
  obtain ⟨⟨name, own⟩, hmem, rfl⟩ := List.mem_map.1 hown
  obtain ⟨names, rfl⟩ := h.part_of_mem hmem
  obtain ⟨htable, hbyname, facts, hrecord⟩ := recordOf_of_mem_contribution hr
  exact ⟨names, facts, htable ▸ hbyname, hrecord⟩

/-- A table that was visited and can be read has a record for each of its keywords. -/
theorem Visited.exists_record (h : Visited i database roots visited s)
    (hname : name ∈ visited.map Prod.fst) {names : List String}
    (hread : tableReading i.world database name = .ok (facts, names)) {k : Value × Value}
    (hk : k ∈ facts.keywords) :
    ∃ r ∈ (IndexPart.concat (visited.map Prod.snd)).keywords,
      r.keyword = k.1 ∧ r.table = name ∧ r.object = facts.object := by
  obtain ⟨⟨name, own⟩, hmem, rfl⟩ := List.mem_map.1 hname
  obtain ⟨known, hown⟩ := h.part_of_mem hmem
  have hrecord : ⟨k.1, k.2, facts.object, name, firstAlias (knownAliases i database known) name⟩ ∈
      own.keywords := by
    rw [hown, contribution_of_ok hread]
    exact List.mem_map.2 ⟨k, hk, rfl⟩
  exact ⟨_, List.mem_flatMap.2 ⟨own, List.mem_map.2 ⟨_, hmem, rfl⟩, hrecord⟩, rfl, rfl, rfl⟩

/-- An index that is made from tables is read back as it is written. -/
theorem Visited.faithful_document (h : Visited i database roots visited s)
    (haliases : FaithfulAliases i.aliases) :
    (IndexPart.concat (visited.map Prod.snd)).document.Faithful := by
  refine IndexPart.faithful_document (fun r hr => ?_) fun v hv => ?_
  · obtain ⟨names, facts, hbyname, hrecord⟩ := h.recordOf hr
    refine faithful_record hrecord ?_
    rw [hbyname]
    exact faithful_firstAlias (faithfulAliases_knownAliases haliases names) _
  · obtain ⟨own, hown, hv⟩ := List.mem_flatMap.1 hv
    obtain ⟨⟨name, own⟩, hmem, rfl⟩ := List.mem_map.1 hown
    obtain ⟨names, rfl⟩ := h.part_of_mem hmem
    exact faithful_of_mem_varNames hv

/-- Writing the index of a table visits the tables of its import closure and writes what they
contribute. -/
theorem exec_writeIndex_eq_ok {table : String} {markup : Option String} {i' : Index}
    (h : (writeIndex database table markup).exec i = some (.ok (), i')) :
    ∃ roots visited s, (∀ name, name ∈ roots ↔ IsRoot i.world database table markup name) ∧
      Visited i database roots visited s ∧ s.queue.waiting = [] ∧
      i.world.store.writeDocument (i.pathOf table)
        (IndexPart.concat (visited.map Prod.snd)).document = .ok i'.world.store := by
  obtain ⟨_, _, ⟨⟩, h⟩ := Routine.exec_bind_eq_ok.1 h
  obtain ⟨part, i₁, hindex, h⟩ := Routine.exec_bind_eq_ok.1 h
  obtain ⟨visited, _, hvisits, ⟨⟩⟩ := Routine.exec_bind_eq_ok.1 hindex
  obtain ⟨roots, s, hroots, hvisited, hwaiting, hworld⟩ := visited_of_exec_visits hvisits
  obtain ⟨_, _, ⟨⟩, h⟩ := Routine.exec_bind_eq_ok.1 h
  obtain ⟨store, _, hwrite, ⟨⟩⟩ := Routine.exec_bind_eq_ok.1 h
  rw [Routine.exec_lift, Option.some.injEq, Prod.mk.injEq] at hwrite
  refine ⟨roots, visited, s, hroots, hvisited, hwaiting, ?_⟩
  rw [hworld] at hwrite
  rw [← hvisited.world]
  exact hwrite.1

end Indexing

end KeywordCatalog
