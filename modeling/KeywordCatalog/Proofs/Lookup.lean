import KeywordCatalog.Lookup
import KeywordCatalog.Proofs.Index.Document
import KeywordCatalog.Proofs.Scan.File

/-!
# Finding what a file defines

A keyword that a file defines is found through the index of the file: the index has a record with its
name, the record leads to the table of the file, and the table has the entry of the keyword.
-/

namespace KeywordCatalog

open Keyword

/-! ### Tables -/

variable {m : Model} {k l : KeywordInfo}

theorem Model.Nameable.eq_of_bareChars (h : m.Nameable) (hk : k ∈ m.keywords) (hl : l ∈ m.keywords)
    (hbare : bareChars k.title.toList = bareChars l.title.toList) : k = l :=
  List.inj_on_of_nodup_map h.apart hk hl (by rw [bare, bare, hbare])

/-- The keys of a table lead from the name of a keyword to the keyword's own key. -/
theorem firstNamed_keys {all : List KeywordInfo} (hplain : ∀ l ∈ all, IsPlain l.title)
    (hapart : ∀ l ∈ all, bareChars k.title.toList = bareChars l.title.toList → k = l)
    (hk : k ∈ all) :
    firstNamed (.text k.title) (all.map fun l => .text l.key) = .ok (some (.text k.key)) := by
  induction all with
  | nil => cases hk
  | cons l rest ih =>
    obtain ⟨hl, hrest⟩ := List.forall_mem_cons.1 hplain
    have hnamed : isNamedBy (.text k.title) (.text l.key) =
        .ok (bareChars k.title.toList == bareChars l.title.toList) := by
      rw [isNamedBy_text, KeywordInfo.key, hl.isNamed_key]
    simp only [List.map_cons, firstNamed, hnamed, Outcome.ok_bind, beq_iff_eq]
    split
    · rename_i hbare
      rw [hapart l List.mem_cons_self hbare]
      rfl
    · rename_i hbare
      refine ih hrest (fun l' hl' => hapart l' (List.mem_cons_of_mem _ hl')) ?_
      rcases List.mem_cons.1 hk with rfl | hk
      · exact absurd rfl hbare
      · exact hk

namespace World.Holds

variable {w : World} {path : String} {t : RobotTable}

theorem keywords_document (h : Holds w path m t) (hnames : m.Nameable) :
    t.document.field "keywords" =
      .ok (.object (m.keywords.map fun k => (k.key, k.entry.2.document))) := by
  have hfield : t.document.field "keywords" =
      .ok (.object (t.keywords.map fun e => (e.1, e.2.document))) := rfl
  rw [hfield, h.keywords_eq hnames, List.map_map]
  rfl

/-- A table has the documentation of each of its keywords. -/
theorem documentation_eq (h : Holds w path m t) (hnames : m.Nameable) (hk : k ∈ m.keywords)
    {s : Store} {tablePath : String} (hread : s.readDocument tablePath = .ok t.document) :
    s.documentation tablePath (.text k.title) = .ok k.documentation := by
  have hfirst := firstNamed_keys (fun l hl => (hnames.plain l hl).2)
    (fun l hl => hnames.eq_of_bareChars hk hl) hk
  have hlookup : (m.keywords.map fun k => (k.key, k.entry.2.document)).lookup k.key =
      some k.entry.2.document := by
    refine Ordered.lookup_of_mem ?_ (List.mem_map.2 ⟨k, hk, rfl⟩)
    rw [List.map_map]
    exact hnames.nodup_keys
  have hentry : (Value.object (m.keywords.map fun k => (k.key, k.entry.2.document))).field k.key =
      .ok k.entry.2.document := by
    rw [Value.field, hlookup]
  have hown : k.entry.2.document.field "documentation" = .ok k.documentation := rfl
  have helements : (Value.object (m.keywords.map fun k => (k.key, k.entry.2.document))).elements =
      .ok (m.keywords.map fun k => .text k.key) := by
    rw [Value.elements, List.map_map]
    rfl
  unfold Store.documentation
  simp only [hread, h.keywords_document hnames, helements, hfirst, Outcome.ok_bind, keywordEntry,
    Value.textOnly_text, hentry, hown]

/-- A table of a file with an extension leads to the file. -/
theorem place_eq (h : Holds w path m t) {l : Lookup} {object : Option String} {keyword : String}
    {found : Found} {table title extension : String}
    (hfound : l.find object keyword = .ok found) (htable : found.table = .text table)
    (hname : table ≠ "") (htitle : found.keyword = .text title)
    (hread : l.store.readDocument (Path.join l.tables table) = .ok t.document)
    (hextension : endsWith (w.tidy path) extension = true) :
    l.place (.text extension) object keyword =
      .ok ⟨some (Keyword.resourcePattern title), .text (w.tidy path)⟩ := by
  have hhas : t.document.has "file_path" = .ok true := rfl
  have hfile : t.document.field "file_path" = .ok (.text (w.tidy path)) := by
    rw [← h.filePath]
    rfl
  have hsuffix : hasExtension (.text (w.tidy path)) (.text extension) = .ok (some true) := by
    rw [← hextension]
    rfl
  have htruthy : (Value.text table).truthy = true := by simpa using hname
  unfold Lookup.place
  simp only [hfound, Outcome.ok_bind, htable, htruthy, Bool.not_true, Bool.false_eq_true, if_false,
    Lookup.tablePath, Value.textOnly_text, pure_bind, hread, hhas, if_true, hfile, htitle,
    Value.asText_text, hsuffix, beq_self_eq_true]
  rfl

end World.Holds

/-! ### Indexes -/

namespace KeywordRecord

variable (r : KeywordRecord)

theorem item_keyword : r.document.item 0 = .ok r.keyword := rfl

theorem item_object : r.document.item 2 = .ok r.object := rfl

theorem item_table : r.document.item 3 = .ok (.text r.table) := rfl

theorem item_byname : r.document.item 4 = .ok r.byname := rfl

end KeywordRecord

namespace Lookup

variable {object : Option String} {keyword table : String} {candidate name last : Value}
  {records : List KeywordRecord}

/-- The record that is found is the first one that is looked at and has the name. -/
theorem findIn_documents
    (hothers : ∀ r ∈ records, isOf object r.object r.byname = true →
      isNamedBy (.text keyword) r.keyword = .ok false ∨
        r.table = table ∧ r.keyword = candidate ∧ r.object = name)
    (hcandidate : isNamedBy (.text keyword) candidate = .ok true)
    (hfound : ∃ r ∈ records, isOf object r.object r.byname = true ∧ r.keyword = candidate) :
    findIn object keyword last (records.map KeywordRecord.document) =
      .ok ⟨.text table, candidate, name⟩ := by
  induction records generalizing last with
  | nil =>
    obtain ⟨r, hr, -⟩ := hfound
    cases hr
  | cons r rest ih =>
    obtain ⟨hr, hrest⟩ := List.forall_mem_cons.1 hothers
    simp only [List.map_cons, findIn, r.item_keyword, r.item_byname, r.item_table, r.item_object,
      Outcome.ok_bind]
    obtain ⟨r', hr', hof', hkeyword'⟩ := hfound
    split
    · rename_i hof
      rcases hr hof with hnot | ⟨rfl, rfl, rfl⟩
      · simp only [hnot, Outcome.ok_bind, Bool.false_eq_true, if_false]
        refine ih hrest ⟨r', ?_, hof', hkeyword'⟩
        rcases List.mem_cons.1 hr' with rfl | hr'
        · rw [hkeyword', hcandidate] at hnot
          cases hnot
        · exact hr'
      · simp only [hcandidate, Outcome.ok_bind, if_true]
        rfl
    · rename_i hof
      refine ih hrest ⟨r', ?_, hof', hkeyword'⟩
      rcases List.mem_cons.1 hr' with rfl | hr'
      · exact absurd hof' hof
      · exact hr'

theorem find_eq_findIn {l : Lookup} {records : List Value}
    (htable : TableName.ofPath (Path.tidy l.store.cwd l.openFile) = .ok table)
    (hrecords : l.store.indexedKeywords (Path.join l.indexes (TableName.index table)) =
      .ok records) :
    l.find object keyword = findIn object keyword .null records := by
  rw [find, indexPath, htable, Outcome.ok_bind, pure_bind, hrecords, Outcome.ok_bind]

theorem same_text_eq_true {text : String} {v : Value} :
    (Value.text text).same v = true ↔ v = .text text := by
  cases v with
  | text s =>
    rw [Value.same_text, beq_iff_eq, Value.text.injEq]
    exact eq_comm
  | _ => simp [Value.same]

theorem isOf_some_eq_true {o : String} (ho : o ≠ "") {byname : Value} :
    isOf (some o) name byname = true ↔ byname = .text o ∨ name = .text o := by
  simp [isOf, ho, same_text_eq_true]

end Lookup

namespace Indexing

variable {i s : Index} {w : World} {database path table : String} {t : RobotTable}
  {roots : List String} {visited : List (String × IndexPart)} {facts : TableFacts}
  {names : List String}

/-- The records of a file's table are those of the keywords that the file defines. -/
theorem record_of_table (hholds : World.Holds w path m t) (hnames : m.Nameable)
    (hfacts : tableFacts t.document = .ok facts) {pair : Value × Value}
    (hpair : pair ∈ facts.keywords) :
    facts.object = .text t.stem ∧ ∃ l ∈ m.keywords, pair.1 = .text l.title := by
  obtain ⟨htitles, hobject⟩ := RobotTable.tableFacts_document hfacts
  have hmem : pair.1 ∈ t.keywords.map fun e => Value.text e.2.name :=
    htitles ▸ List.mem_map_of_mem hpair
  obtain ⟨e, he, htitle⟩ := List.mem_map.1 hmem
  refine ⟨hobject (List.ne_nil_of_mem he), ?_⟩
  rw [hholds.keywords_eq hnames] at he
  obtain ⟨l, hl, rfl⟩ := List.mem_map.1 he
  exact ⟨l, hl, htitle.symm⟩

theorem exists_pair_of_table (hholds : World.Holds w path m t) (hnames : m.Nameable)
    (hfacts : tableFacts t.document = .ok facts) (hk : k ∈ m.keywords) :
    ∃ pair ∈ facts.keywords, pair.1 = .text k.title := by
  have htitles := (RobotTable.tableFacts_document hfacts).1
  have hmem : Value.text k.title ∈ facts.keywords.map Prod.fst := by
    rw [htitles, hholds.keywords_eq hnames, List.map_map]
    exact List.mem_map.2 ⟨k, hk, rfl⟩
  exact List.mem_map.1 hmem

/-- The index of a file leads from the name of a keyword that the file defines to the file's own
table, if no record of another table is looked at. -/
theorem Visited.findIn_eq (hvisited : Visited i database roots visited s)
    (htable : table ∈ visited.map Prod.fst)
    (hread : tableReading i.world database table = .ok (facts, names))
    (hholds : World.Holds w path m t) (hnames : m.Nameable)
    (hfacts : tableFacts t.document = .ok facts) (hstem : t.stem ≠ "")
    (hothers : ∀ r ∈ (IndexPart.concat (visited.map Prod.snd)).keywords, r.table ≠ table →
      r.object ≠ .text t.stem ∧ r.byname ≠ .text t.stem)
    (hk : k ∈ m.keywords) :
    Lookup.findIn (some t.stem) k.title .null
        ((IndexPart.concat (visited.map Prod.snd)).keywords.map KeywordRecord.document) =
      .ok ⟨.text table, .text k.title, .text t.stem⟩ := by
  have hnamed {l : KeywordInfo} (hl : l ∈ m.keywords) :
      isNamedBy (.text k.title) (.text l.title) =
        .ok (bareChars k.title.toList == bareChars l.title.toList) := by
    rw [isNamedBy_text, (hnames.plain l hl).2.isNamed_eq]
  refine Lookup.findIn_documents (fun r hr hof => ?_) (by rw [hnamed hk, beq_self_eq_true]) ?_
  · have hown : r.table = table := by
      by_contra hne
      obtain ⟨hobject, hbyname⟩ := hothers r hr hne
      rcases (Lookup.isOf_some_eq_true hstem).1 hof with h | h
      · exact hbyname h
      · exact hobject h
    obtain ⟨_, facts', -, ⟨names', hread'⟩, hkeyword, hobject⟩ := hvisited.recordOf hr
    rw [hown, hread] at hread'
    cases hread'
    obtain ⟨hstem', l, hl, htitle⟩ := record_of_table hholds hnames hfacts hkeyword
    have hrkeyword : r.keyword = .text l.title := htitle
    rw [hrkeyword, hnamed hl]
    by_cases hbare : bareChars k.title.toList = bareChars l.title.toList
    · obtain rfl := hnames.eq_of_bareChars hk hl hbare
      exact .inr ⟨hown, rfl, hobject.trans hstem'⟩
    · exact .inl (by rw [beq_eq_false_iff_ne.2 hbare])
  · obtain ⟨pair, hpair, htitle⟩ := exists_pair_of_table hholds hnames hfacts hk
    obtain ⟨r, hr, hkeyword, -, hobject⟩ := hvisited.exists_record htable hread hpair
    have hstem' := (record_of_table hholds hnames hfacts hpair).1
    refine ⟨r, hr, ?_, hkeyword.trans htitle⟩
    rw [Lookup.isOf_some_eq_true hstem]
    exact .inr (hobject.trans hstem')

end Indexing

/-! ### From the file to the editor -/

theorem Store.readTable_of_readDocument {s : Store} {path : String} {v : Value}
    (h : s.readDocument path = .ok v) : s.readTable path = .ok (v, false) := by
  obtain ⟨text, hread, hparse⟩ := Outcome.bind_eq_ok.1 h
  unfold Store.readTable
  rw [hread]
  simp only [hparse, Outcome.ok_bind]
  rfl

theorem Store.readTable_of_locate {s : Store} {path : String} {fault : Fault}
    (h : s.locate path = .error fault) (hdata : fault.isData = true) :
    s.readTable path = .error fault := by
  have hread : s.read path = .error fault := by
    rw [Store.read, Store.readRaw, Store.find, h]
    rfl
  have hstorage : fault.isStorage = false := by cases fault <;> first | rfl | cases hdata
  unfold Store.readTable
  rw [hread]
  simp only [hstorage, Bool.false_eq_true, if_false]
  rfl

/-- The spelling of a path has the extension of the path. -/
theorem endsWith_tidy {cwd path extension : String} (hslash : '/' ∉ extension.toList)
    (h : endsWith path extension = true) : endsWith (Path.tidy cwd path) extension = true := by
  have hname : extension.toList <:+ Path.nameChars path.toList :=
    Path.suffix_nameChars hslash (List.isSuffixOf_iff_suffix.1 h)
  rw [endsWith, List.isSuffixOf_iff_suffix, Path.tidy, String.toList_ofList]
  exact hname.trans (Path.nameChars_suffix_tidyChars _ _)

namespace Indexing

open Routine

variable {w : World} {queue : WorkQueue} {scanned : Scan} {i i' : Index} {markup : Option String}
  {l : Lookup} {path database table stem : String} {facts : TableFacts} {names : List String}
  {v : Value}

/-- A table that is read after the file was scanned is the table of the file. -/
theorem tableFacts_of_scanFile (hhas : w.store.has path = true) (hmodel : w.robotModel path = .ok m)
    (hfaithful : m.Faithful) (hnames : m.Nameable)
    (hscan : (Scanning.scanFile path database).exec ⟨w, queue⟩ = some (.ok (), scanned))
    (htable : TableName.ofPath (w.tidy path) = .ok table)
    (hstore : i.world.store = scanned.world.store)
    (hread : tableReading i.world database table = .ok (facts, names)) :
    ∃ w' t, World.Holds w' path m t ∧ w'.tidy path = w.tidy path ∧
      i.world.store.cwd = w.store.cwd ∧
      i.world.store.readDocument (Path.join database table) = .ok t.document ∧
      tableFacts t.document = .ok facts := by
  have hplace (fault : Fault) (hdata : fault.isData = true) :
      scanned.world.store.locate (Path.join database table) ≠ .error fault := by
    intro hlocate
    rw [← hstore] at hlocate
    rw [tableReading, Store.readTable_of_locate hlocate hdata] at hread
    cases hread
  obtain ⟨w', t, hholds, htidy, hcwd, hdocument⟩ :=
    Scanning.readDocument_of_scanFile (s := ⟨w, queue⟩) hhas hmodel hfaithful hnames htable hplace
      hscan
  rw [← hstore] at hdocument hcwd
  refine ⟨w', t, hholds, htidy, hcwd, hdocument, ?_⟩
  rw [tableReading, Store.readTable_of_readDocument hdocument, Outcome.ok_bind] at hread
  obtain ⟨facts', hfacts, hread⟩ := Outcome.bind_eq_ok.1 hread
  obtain ⟨names', -, ⟨⟩⟩ := Outcome.bind_eq_ok.1 hread
  exact hfacts

/-- The index of a table is there to be read after it was written, and the table still is. -/
theorem indexedKeywords_of_writeIndex (hplain : Path.IsPlain table.toList)
    (haliases : FaithfulAliases i.aliases)
    (hindex : (writeIndex database table markup).exec i = some (.ok (), i'))
    (hdocument : i.world.store.readDocument (Path.join database table) = .ok v) :
    (∃ roots visited s, Visited i database roots visited s ∧ table ∈ visited.map Prod.fst ∧
      i'.world.store.indexedKeywords (i.pathOf table) =
        .ok ((IndexPart.concat (visited.map Prod.snd)).keywords.map KeywordRecord.document)) ∧
    i'.world.store.readDocument (Path.join database table) = .ok v ∧
    i'.world.store.cwd = i.world.store.cwd := by
  obtain ⟨roots, visited, s, hroots, hvisited, hwaiting, hwrite⟩ := exec_writeIndex_eq_ok hindex
  have hname := TableName.isPlain_index hplain
  have hpath := Store.isPlain_name_join hname i.target
  refine ⟨⟨roots, visited, s, hvisited, ?_, ?_⟩, ?_, Store.cwd_writeDocument hpath hwrite⟩
  · exact (hvisited.mem_iff hwaiting hroots table).2 (.root (.inl rfl))
  · have hindexed := Store.readDocument_writeDocument (hvisited.faithful_document haliases) hpath
      hwrite
    rw [Store.indexedKeywords, Index.pathOf, hindexed]
    rfl
  · refine Store.readDocument_writeDocument_of_name_ne hpath
      (Store.isPlain_name_join hplain database) ?_ hwrite hdocument
    rw [Store.name_join_of_isPlain hplain, Store.name_join_of_isPlain hname]
    exact (TableName.index_ne table).symm

/-- **What a file defines is what is found.** After a file was scanned and the index of its table was
written, each of its keywords is found under the name of the file, with its documentation and, for a
file with the given extension, with the place where it is defined. -/
theorem lookup_defined (hhas : w.store.has path = true) (hmodel : w.robotModel path = .ok m)
    (hfaithful : m.Faithful) (hnames : m.Nameable)
    (hscan : (Scanning.scanFile path database).exec ⟨w, queue⟩ = some (.ok (), scanned))
    (htable : TableName.ofPath (w.tidy path) = .ok table)
    (hstore : i.world.store = scanned.world.store) (haliases : FaithfulAliases i.aliases)
    (hread : ∃ reading, tableReading i.world database table = .ok reading)
    (hindex : (writeIndex database table markup).exec i = some (.ok (), i'))
    (hstem : stem = String.ofList (Text.cutAt '.' (Path.name path).toList).1) (hne : stem ≠ "")
    (hothers : ∀ records, i'.world.store.indexedKeywords (i.pathOf table) = .ok records →
      ∀ r ∈ records, r.item 3 ≠ .ok (.text table) →
        r.item 2 ≠ .ok (.text stem) ∧ r.item 4 ≠ .ok (.text stem))
    (hlookup : l = ⟨i'.world.store, database, i.target, path⟩) (hk : k ∈ m.keywords) :
    l.documentation (some stem) k.title = .ok k.documentation ∧
      ∀ extension, endsWith (w.tidy path) extension = true ∨
          '/' ∉ extension.toList ∧ endsWith path extension = true →
        l.place (.text extension) (some stem) k.title =
          .ok ⟨some (resourcePattern k.title), .text (w.tidy path)⟩ := by
  obtain ⟨⟨facts, names⟩, hread⟩ := hread
  have hplain : Path.IsPlain table.toList := TableName.isPlain_ofPath htable
  have hnonempty : table ≠ "" := fun e => hplain.1 (by simp [e])
  obtain ⟨w', t, hholds, htidy, hcwd, hdocument, hfacts⟩ :=
    tableFacts_of_scanFile hhas hmodel hfaithful hnames hscan htable hstore hread
  obtain ⟨⟨roots, visited, s, hvisited, hvisit, hrecords⟩, hkept, hcwd'⟩ :=
    indexedKeywords_of_writeIndex hplain haliases hindex hdocument
  obtain rfl : t.stem = stem := by rw [hstem, ← hholds.fileName, RobotTable.stem]
  have hfind : l.find (some t.stem) k.title = .ok ⟨.text table, .text k.title, .text t.stem⟩ := by
    have hpath : TableName.ofPath (Path.tidy l.store.cwd l.openFile) = .ok table := by
      rw [← htable, hlookup, World.tidy, ← hcwd, ← hcwd']
    have hindexed : l.store.indexedKeywords (Path.join l.indexes (TableName.index table)) =
        i'.world.store.indexedKeywords (i.pathOf table) := by
      rw [hlookup]
      rfl
    rw [Lookup.find_eq_findIn hpath (hindexed.trans hrecords)]
    refine hvisited.findIn_eq hvisit hread hholds hnames hfacts hne (fun r hr hother => ?_) hk
    have hitems := hothers _ hrecords r.document (List.mem_map_of_mem hr)
    rw [r.item_table, r.item_object, r.item_byname] at hitems
    simpa using hitems (by simpa using hother)
  have hkept' : l.store.readDocument (Path.join l.tables table) = .ok t.document := by
    rw [hlookup]
    exact hkept
  constructor
  · have htruthy : (Value.text table).truthy = true := by simpa using hnonempty
    unfold Lookup.documentation
    simp only [hfind, Outcome.ok_bind, htruthy, if_true, Lookup.tablePath, Value.textOnly_text,
      pure_bind]
    exact hholds.documentation_eq hnames hk hkept'
  · intro extension hextension
    rw [← htidy] at hextension ⊢
    refine hholds.place_eq hfind rfl hnonempty rfl hkept' ?_
    rcases hextension with hends | ⟨hslash, hends⟩
    · exact hends
    · exact endsWith_tidy hslash hends

/-- What comes of a table that is read under its own name. -/
theorem tableReading_of_readDocument (hread : w.store.readDocument (Path.join database table) = .ok v)
    (hfacts : tableFacts v = .ok facts) (hnames : importNames w v = .ok names) :
    tableReading w database table = .ok (facts, names) ∧
      tableAliases w database table = (libraryEntries w v).1 := by
  have htable := Store.readTable_of_readDocument hread
  constructor
  · rw [tableReading, htable, Outcome.ok_bind]
    dsimp only
    rw [hfacts, Outcome.ok_bind, hnames]
    rfl
  · unfold tableAliases
    rw [htable]
    dsimp only
    rw [hfacts]

/-! ### A resource and a library with a keyword of the same name -/

/-- The model of a resource with two keywords. -/
def sampleModel : Model where
  keywords := [⟨.text "My Kw", .list [.text "$\x7bx\x7d"], .text "mine", .list []⟩,
    ⟨.text "Other", .list [], .text "another", .list []⟩]

/-- The table of a library that has a keyword with the name of the resource's first one. -/
def sampleLibrary : Value :=
  .object [("library_module", .text "BuiltIn"), ("keywords", .object [("my_kw", .object
    [("keyword_name", .text "My Kw"), ("keyword_arguments", .list [])])])]

def sampleWorld : World where
  store :=
    { cwd := "/"
      entries := [(["ws"], .folder), (["ws", "a.robot"], .file ""), (["db"], .folder),
        (["db", "BuiltIn"], .file sampleLibrary.render)] }
  framework := { resources := [("/ws/a.robot", sampleModel)] }

def sampleTable : RobotTable :=
  { fileName := "a.robot", filePath := "/ws/a.robot",
    keywords := sampleModel.keywords.map KeywordInfo.entry, varNames := [], resources := [],
    libraries := [], variableFiles := [] }

def sampleName : String := "a.robot-d953a49a215d74a053f4c96c6ac04059.json"

/-- The store after the resource was scanned. -/
def sampleScanned : Store :=
  sampleWorld.store.put ["db", sampleName] (.file sampleTable.document.render)

def sampleIndex : Index :=
  { world := { sampleWorld with store := sampleScanned }, target := "/db" }

def sampleRecords : List KeywordRecord :=
  [⟨.text "My Kw", .list [], .text "BuiltIn", "BuiltIn", .null⟩,
    ⟨.text "My Kw", .list [.text "x"], .text "a", sampleName, .null⟩,
    ⟨.text "Other", .list [], .text "a", sampleName, .null⟩]

/-- The store after the index of the resource was written. -/
def sampleIndexed : Store :=
  sampleScanned.put ["db", TableName.index sampleName]
    (.file (IndexPart.document ⟨sampleRecords, []⟩).render)

theorem faithful_sampleModel : sampleModel.Faithful := by
  refine ⟨?_, nofun, nofun⟩
  simp only [sampleModel, List.forall_mem_cons]
  exact ⟨⟨.list (List.forall_mem_singleton.2 (.text _)), .text _, .list nofun⟩,
    ⟨.list nofun, .text _, .list nofun⟩, nofun⟩

theorem nameable_sampleModel : sampleModel.Nameable := by
  have hplain : IsPlain "My Kw" ∧ IsPlain "Other" :=
    ⟨⟨by decide, by decide, by decide⟩, ⟨by decide, by decide, by decide⟩⟩
  refine ⟨?_, by decide⟩
  simp only [sampleModel, List.forall_mem_cons]
  exact ⟨⟨rfl, hplain.1⟩, ⟨rfl, hplain.2⟩, nofun⟩

theorem ofPath_sample : TableName.ofPath (sampleWorld.tidy "/ws/a.robot") = .ok sampleName := by
  decide +kernel

theorem writeDocument_sample :
    sampleWorld.store.writeDocument (Path.join "/db" sampleName) sampleTable.document =
      .ok sampleScanned := by
  have hplain := Store.isPlain_name_join (TableName.isPlain_ofPath ofPath_sample) "/db"
  exact Store.writeDocument_eq_ok.2 ⟨(Store.write_eq_ok hplain).2
    ⟨["db", sampleName], rfl, by decide, rfl⟩, by decide⟩

theorem storedFile_sample : Scanning.storedFile sampleWorld "/ws/a.robot" "/db" =
    .ok sampleScanned := by
  have hbuilt : sampleWorld.buildTable (.text "/ws/a.robot") ⟨.waiting, .unknown, .null⟩ =
      .ok (.robot sampleTable) := rfl
  have hname : (Table.robot sampleTable).fileName = .ok sampleName := ofPath_sample
  simp only [Scanning.storedFile, hbuilt, hname, Outcome.ok_bind]
  exact writeDocument_sample

theorem builtinTable?_sample : sampleScanned.builtinTable? "/db" = .ok (some "BuiltIn") := by
  have hnames : sampleScanned.names "/db" = .ok ["BuiltIn", sampleName] :=
    Store.names_of_sorted rfl rfl rfl (by decide)
  rw [Store.builtinTable?, hnames]
  rfl

/-- The facts of the library and of the resource. -/
def libraryFacts : TableFacts := ⟨[], [(.text "My Kw", .list [])], .text "BuiltIn"⟩

def resourceFacts : TableFacts :=
  ⟨[], [(.text "My Kw", .list [.text "x"]), (.text "Other", .list [])], .text "a"⟩

theorem readDocument_library :
    sampleScanned.readDocument (Path.join "/db" "BuiltIn") = .ok sampleLibrary := by
  have hfaithful : sampleLibrary.Faithful := by
    refine .object (by simp) (List.forall_mem_cons.2 ⟨.text _, List.forall_mem_singleton.2 ?_⟩)
    refine .object (by simp) (List.forall_mem_singleton.2 ?_)
    exact .object (by simp) (List.forall_mem_cons.2 ⟨.text _, List.forall_mem_singleton.2 (.list nofun)⟩)
  exact Store.readDocument_of_readRaw hfaithful (by decide)
    (Store.readRaw_eq_ok.2 ⟨["db", "BuiltIn"], rfl, rfl⟩)

theorem readDocument_resource :
    sampleScanned.readDocument (Path.join "/db" sampleName) = .ok sampleTable.document := by
  have hplain := Store.isPlain_name_join (TableName.isPlain_ofPath ofPath_sample) "/db"
  have hholds : World.Holds sampleWorld "/ws/a.robot" sampleModel sampleTable :=
    World.holds_of_robotTable (b := {}) rfl
  exact Store.readDocument_writeDocument
    (hholds.faithful_document nameable_sampleModel faithful_sampleModel) hplain writeDocument_sample

theorem tableReading_library :
    tableReading sampleIndex.world "/db" "BuiltIn" = .ok (libraryFacts, []) ∧
      tableAliases sampleIndex.world "/db" "BuiltIn" = [] := by
  have hfacts : tableFacts sampleLibrary = .ok libraryFacts := rfl
  have hnames : importNames sampleIndex.world sampleLibrary = .ok [] := rfl
  obtain ⟨hreading, haliases⟩ := tableReading_of_readDocument (w := sampleIndex.world)
    readDocument_library hfacts hnames
  exact ⟨hreading, haliases⟩

theorem tableReading_resource :
    tableReading sampleIndex.world "/db" sampleName = .ok (resourceFacts, []) ∧
      tableAliases sampleIndex.world "/db" sampleName = [] := by
  have hfacts : tableFacts sampleTable.document = .ok resourceFacts := rfl
  have hnames : importNames sampleIndex.world sampleTable.document = .ok [] := rfl
  obtain ⟨hreading, haliases⟩ := tableReading_of_readDocument (w := sampleIndex.world)
    readDocument_resource hfacts hnames
  exact ⟨hreading, haliases⟩

/-- A table without imports is read while no alias is known. -/
theorem exec_indexItem_sample {name : String} (work : Work) {facts : TableFacts}
    {queue queue' : WorkQueue}
    (h : tableReading sampleIndex.world "/db" name = .ok (facts, []) ∧
      tableAliases sampleIndex.world "/db" name = [])
    (hq : queue.finish (.text name) = .ok queue') :
    (indexItem "/db" (.text name, work)).exec { sampleIndex with queue } =
      some (.ok (name, ⟨recordsOf facts name .null, facts.varNames⟩),
        { sampleIndex with queue := queue' }) := by
  rw [exec_indexItem_of_ok (s := { sampleIndex with queue }) h.1 hq]
  simp only [h.2]
  rfl

/-- The index of the resource is made from the library and the resource. -/
theorem exec_indexFor_sample :
    ∃ queue, (indexFor "/db" sampleName none).exec sampleIndex =
      some (.ok ⟨sampleRecords, []⟩, { sampleIndex with queue }) :=
  ⟨_, exec_bind_eq_ok.2 ⟨_, _, exec_visits_of_rounds builtinTable?_sample ⟨[_, _], _,
    .round rfl (exec_indexItem_sample _ tableReading_library rfl)
      (.round rfl (exec_indexItem_sample _ tableReading_resource rfl) (.start _)), rfl, rfl⟩, rfl⟩⟩

theorem writeDocument_sampleIndex :
    sampleScanned.writeDocument (sampleIndex.pathOf sampleName)
      (IndexPart.document ⟨sampleRecords, []⟩) = .ok sampleIndexed := by
  have hplain := Store.isPlain_name_join
    (TableName.isPlain_index (TableName.isPlain_ofPath ofPath_sample)) "/db"
  exact Store.writeDocument_eq_ok.2 ⟨(Store.write_eq_ok hplain).2
    ⟨["db", TableName.index sampleName], rfl, by decide, rfl⟩, by decide⟩

theorem indexedKeywords_sample :
    sampleIndexed.indexedKeywords (sampleIndex.pathOf sampleName) =
      .ok (sampleRecords.map KeywordRecord.document) := by
  have hplain := Store.isPlain_name_join
    (TableName.isPlain_index (TableName.isPlain_ofPath ofPath_sample)) "/db"
  have hfaithful : (IndexPart.document ⟨sampleRecords, []⟩).Faithful := by
    refine IndexPart.faithful_document ?_ nofun
    simp only [sampleRecords, List.forall_mem_cons]
    exact ⟨KeywordRecord.faithful_document (.text _) (.list nofun) (.text _) .null,
      KeywordRecord.faithful_document (.text _)
        (.list (List.forall_mem_singleton.2 (.text _))) (.text _) .null,
      KeywordRecord.faithful_document (.text _) (.list nofun) (.text _) .null, nofun⟩
  have hread : sampleIndexed.readDocument (sampleIndex.pathOf sampleName) = _ :=
    Store.readDocument_writeDocument hfaithful hplain writeDocument_sampleIndex
  rw [Store.indexedKeywords, hread]
  rfl

/-- The keyword that the library has as well is found under the name of the resource, with the
documentation and the place that it has there. -/
theorem lookup_defined_sample :
    ∃ scanned i', (Scanning.scanFile "/ws/a.robot" "/db").exec ⟨sampleWorld, {}⟩ =
        some (.ok (), scanned) ∧
      (writeIndex "/db" sampleName none).exec { world := scanned.world, target := "/db" } =
        some (.ok (), i') ∧
      Lookup.documentation ⟨i'.world.store, "/db", "/db", "/ws/a.robot"⟩ (some "a") "My Kw" =
        .ok (.text "mine") ∧
      Lookup.place ⟨i'.world.store, "/db", "/db", "/ws/a.robot"⟩ (.text "robot") (some "a") "My Kw" =
        .ok ⟨some (resourcePattern "My Kw"), .text "/ws/a.robot"⟩ := by
  have hscan := Scanning.exec_scanFile_of_storedFile (s := ⟨sampleWorld, {}⟩) rfl storedFile_sample
  obtain ⟨queue, hindexFor⟩ := exec_indexFor_sample
  let i' : Index :=
    { sampleIndex with queue, aliases := [], world := { sampleWorld with store := sampleIndexed } }
  have hindex : (writeIndex "/db" sampleName none).exec sampleIndex = some (.ok (), i') := by
    refine exec_bind_eq_ok.2 ⟨_, _, rfl, exec_bind_eq_ok.2 ⟨_, _, hindexFor,
      exec_bind_eq_ok.2 ⟨_, _, rfl, exec_bind_eq_ok.2
        ⟨sampleIndexed, { sampleIndex with queue }, ?_, rfl⟩⟩⟩⟩
    rw [exec_lift]
    exact congrArg (fun written => some (written, _)) writeDocument_sampleIndex
  have hhas : sampleWorld.store.has "/ws/a.robot" = true := rfl
  have hstem : "a" = String.ofList (Text.cutAt '.' (Path.name "/ws/a.robot").toList).1 := rfl
  have hothers : ∀ records, i'.world.store.indexedKeywords (sampleIndex.pathOf sampleName) =
      .ok records → ∀ r ∈ records, r.item 3 ≠ .ok (.text sampleName) →
        r.item 2 ≠ .ok (.text "a") ∧ r.item 4 ≠ .ok (.text "a") := by
    intro records hrecords
    rw [show i'.world.store = sampleIndexed from rfl, indexedKeywords_sample] at hrecords
    obtain rfl := Except.ok.inj hrecords
    decide
  obtain ⟨hdocumentation, hplace⟩ := lookup_defined (i := sampleIndex) hhas rfl
    faithful_sampleModel nameable_sampleModel hscan ofPath_sample rfl nofun
    ⟨_, tableReading_resource.1⟩ hindex hstem (by decide) hothers rfl (List.head_mem (by decide))
  exact ⟨_, i', hscan, hindex, hdocumentation, hplace "robot" (.inl rfl)⟩

end Indexing

end KeywordCatalog
