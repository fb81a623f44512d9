import KeywordCatalog.Lookup
import KeywordCatalog.Proofs.Index.Document
import KeywordCatalog.Proofs.Store
import KeywordCatalog.Proofs.Storeless

/-!
# Where the records of an index come from

A record of an index names a table, and a lookup opens that table. The record was made from the
document of the table if the table is a file of the database. If it is not, the record was made from
the document of a table with a similar name (`Store.IsSource`), and it names a table that cannot be
opened: on these records, and on no others, a lookup fails with a fault of the store
(`Indexing.lookup_fails_iff`).
-/

namespace KeywordCatalog

open Outcome

/-! ### Tables -/

namespace Store

variable {s : Store} {path : String} {v : Value} {similar : Bool} {fault : Fault}

theorem read_eq_ok_iff_hasFile : (∃ text, s.read path = .ok text) ↔ s.hasFile path = true := by
  unfold read readRaw hasFile
  rcases s.find path with fault | _ | text <;> simp [Except.map]

theorem hasFile_eq_false_of_read (h : s.read path = .error fault) : s.hasFile path = false := by
  rw [Bool.eq_false_iff]
  intro hfile
  obtain ⟨text, hread⟩ := read_eq_ok_iff_hasFile.2 hfile
  rw [h] at hread
  cases hread

/-- Whether a document is that of the table at a path: of its own file if there is one, else of a
file with a similar name. -/
def IsSource (s : Store) (path : String) (v : Value) : Prop :=
  s.hasFile path = true ∧ s.readDocument path = .ok v ∨
    s.hasFile path = false ∧
      ∃ other, s.similarTable path = .ok other ∧ s.readDocument other = .ok v

theorem isSource_of_readTable (h : s.readTable path = .ok (v, similar)) : s.IsSource path v := by
  unfold readTable at h
  split at h
  · rename_i text hread
    obtain ⟨_, hparse, ⟨⟩⟩ := bind_eq_ok.1 h
    refine .inl ⟨read_eq_ok_iff_hasFile.1 ⟨text, hread⟩, ?_⟩
    rw [readDocument, hread]
    exact hparse
  · rename_i fault hread
    split at h
    · obtain ⟨other, hother, h⟩ := bind_eq_ok.1 h
      obtain ⟨_, hdocument, ⟨⟩⟩ := bind_eq_ok.1 h
      exact .inr ⟨hasFile_eq_false_of_read hread, other, hother, hdocument⟩
    · cases h

end Store

/-- Whether the keywords of a table have an entry for a keyword with a name. -/
def DefinesKeyword (table name : Value) : Prop :=
  ∃ entries key entry, table.field "keywords" = .ok (.object entries) ∧ (key, entry) ∈ entries ∧
    entry.field "keyword_name" = .ok name

theorem definesKeyword_of_tableFacts {v : Value} {facts : TableFacts} {keyword : Value × Value}
    (h : tableFacts v = .ok facts) (hkeyword : keyword ∈ facts.keywords) :
    DefinesKeyword v keyword.1 := by
  obtain ⟨varNames, -, h⟩ := bind_eq_ok.1 h
  obtain ⟨keywords, hkeywords, h⟩ := bind_eq_ok.1 h
  obtain rfl : facts.keywords = keywords := by
    dsimp only at h
    split at h
    · cases h
      rfl
    · obtain ⟨object, -, ⟨⟩⟩ := bind_eq_ok.1 h
      rfl
  obtain ⟨_ | _, -, hkeywords⟩ := bind_eq_ok.1 hkeywords
  · rw [← Except.ok.inj hkeywords] at hkeyword
    cases hkeyword
  · obtain ⟨table, htable, hkeywords⟩ := bind_eq_ok.1 hkeywords
    obtain ⟨entries, hentries, hkeywords⟩ := bind_eq_ok.1 hkeywords
    obtain ⟨⟨key, entry⟩, hmem, hentry⟩ := exists_of_mapM_eq_ok hkeywords hkeyword
    obtain ⟨name, hname, hentry⟩ := bind_eq_ok.1 hentry
    obtain ⟨_, -, hentry⟩ := bind_eq_ok.1 hentry
    obtain ⟨_, -, ⟨⟩⟩ := bind_eq_ok.1 hentry
    have hobject : table = .object entries := by
      cases table <;> cases hentries
      rfl
    exact ⟨entries, key, entry, hobject ▸ htable, hmem, hname⟩

/-! ### Lookups -/

theorem storeless_firstNamed (keyword : Value) (keys : List Value) :
    Storeless (firstNamed keyword keys) := by
  induction keys with
  | nil => exact storeless_ok _
  | cons key rest ih =>
    refine (Keyword.storeless_isNamedBy keyword key).bind fun named => ?_
    split
    · exact storeless_pure _
    · exact ih

theorem storeless_keywordEntry (keywords key : Value) : Storeless (keywordEntry keywords key) :=
  key.storeless_textOnly.bind fun _ => keywords.storeless_field _

theorem storeless_keywordFileIn (keywords library object keyword : Value) (keys : List Value) :
    Storeless (keywordFileIn keywords library object keyword keys) := by
  induction keys with
  | nil => exact storeless_ok _
  | cons key rest ih =>
    refine (Keyword.storeless_isNamedBy keyword key).bind fun named => ?_
    dsimp only
    split
    · split
      · exact (storeless_keywordEntry keywords key).bind fun _ => Value.storeless_field _ _
      · exact ih
    · exact ih

theorem storeless_hasExtension (path extension : Value) :
    Storeless (hasExtension path extension) := by
  unfold hasExtension
  split
  · exact extension.storeless_textOnly.bind fun _ => storeless_pure _
  · exact storeless_ok _

/-- A computation that goes on from a document has the fault of opening it, or one that does not
come from the store. -/
theorem Store.readDocument_bind_eq_error {α : Type} {s : Store} {path : String} {fault : Fault}
    {after : Value → Except Fault α} (hafter : ∀ v, s.readDocument path = .ok v → Storeless (after v))
    (hfault : fault.isStorage = true) :
    s.readDocument path >>= after = .error fault ↔ s.read path = .error fault := by
  rw [Store.readDocument] at hafter ⊢
  cases hread : s.read path with
  | error other => simp
  | ok text =>
    have hstoreless : Storeless (Value.parse text >>= after) :=
      (Value.storeless_parse text).bind_of_ok fun v hv => hafter v (by rw [hread]; exact hv)
    have hnot : Value.parse text >>= after ≠ .error fault := fun h => by
      simp [hstoreless fault h] at hfault
    simpa using hnot

theorem Store.documentation_eq_error_iff {s : Store} {path : String} {keyword : Value}
    {fault : Fault} (hfault : fault.isStorage = true) :
    s.documentation path keyword = .error fault ↔ s.read path = .error fault := by
  refine readDocument_bind_eq_error (fun table _ => ?_) hfault
  refine (table.storeless_field _).bind fun keywords => keywords.storeless_elements.bind fun keys =>
    (storeless_firstNamed keyword keys).bind fun found => ?_
  cases found with
  | none => exact storeless_pure _
  | some key => exact (storeless_keywordEntry keywords key).bind fun _ => Value.storeless_field _ _

theorem Store.storeless_libraryPlace {s : Store} {path : String} {table : Value}
    (h : s.readDocument path = .ok table) (object : Value) (keyword : String) :
    Storeless (s.libraryPlace path object keyword) := by
  unfold Store.libraryPlace Store.keywordFile
  rw [h]
  refine Storeless.bind ?_ fun _ => storeless_pure _
  exact (table.storeless_field _).bind fun keywords => (table.storeless_field _).bind fun library =>
    keywords.storeless_elements.bind fun keys => storeless_keywordFileIn _ _ _ _ _

namespace Lookup

variable {l : Lookup} {object : Option String} {keyword table : String} {candidate name : Value}
  {records : List KeywordRecord} {fault : Fault}

/-- The record that a lookup finds is one of the index, and finding it does not open a table. -/
theorem findIn_records (object : Option String) (keyword : String) (records : List KeywordRecord)
    (last : Value) :
    Storeless (findIn object keyword last (records.map KeywordRecord.document)) ∧
      ∀ found, findIn object keyword last (records.map KeywordRecord.document) = .ok found →
        found.table = .null ∨ ∃ r ∈ records, found = ⟨.text r.table, r.keyword, r.object⟩ := by
  induction records generalizing last with
  | nil => exact ⟨storeless_ok _, fun found h => .inl (Except.ok.inj h ▸ rfl)⟩
  | cons r rest ih =>
    obtain ⟨hstoreless, hfound⟩ := ih r.object
    have hrest (found : Found)
        (h : findIn object keyword r.object (rest.map KeywordRecord.document) = .ok found) :
        found.table = .null ∨ ∃ r' ∈ r :: rest, found = ⟨.text r'.table, r'.keyword, r'.object⟩ :=
      (hfound found h).imp_right fun ⟨r', hr', e⟩ => ⟨r', List.mem_cons_of_mem _ hr', e⟩
    have hstep : findIn object keyword last ((r :: rest).map KeywordRecord.document) =
        (if isOf object r.object r.byname then do
          if ← Keyword.isNamedBy (.text keyword) r.keyword then
            return ⟨.text r.table, r.keyword, r.object⟩
          findIn object keyword r.object (rest.map KeywordRecord.document)
        else findIn object keyword r.object (rest.map KeywordRecord.document)) := rfl
    rw [hstep]
    split
    · refine ⟨(Keyword.storeless_isNamedBy _ _).bind fun named => ?_, fun found h => ?_⟩
      · split
        · exact storeless_pure _
        · exact hstoreless
      · obtain ⟨_ | _, -, h⟩ := bind_eq_ok.1 h
        · exact hrest found h
        · exact .inr ⟨r, List.mem_cons_self, (Except.ok.inj h).symm⟩
    · exact ⟨hstoreless, hrest⟩

/-- The lookup has an index with the given records. -/
def Serves (l : Lookup) (records : List KeywordRecord) : Prop :=
  ∃ path, l.indexPath = .ok path ∧
    l.store.indexedKeywords path = .ok (records.map KeywordRecord.document)

theorem serves_of_indexedKeywords {table : String}
    (hname : TableName.ofPath (Path.tidy l.store.cwd l.openFile) = .ok table)
    (h : l.store.indexedKeywords (Path.join l.indexes (TableName.index table)) =
      .ok (records.map KeywordRecord.document)) : l.Serves records :=
  ⟨_, by rw [indexPath, hname]; rfl, h⟩

theorem Serves.find_eq (h : l.Serves records) :
    l.find object keyword =
      findIn object keyword .null (records.map KeywordRecord.document) := by
  obtain ⟨path, hpath, hrecords⟩ := h
  rw [find, hpath, ok_bind, hrecords, ok_bind]

theorem documentation_of_find (h : l.find object keyword = .ok ⟨.text table, candidate, name⟩)
    (htable : table ≠ "") (hfault : fault.isStorage = true) :
    l.documentation object keyword = .error fault ↔
      l.store.read (Path.join l.tables table) = .error fault := by
  have htruthy : (Value.text table).truthy = true := by simpa using htable
  rw [documentation, h, ok_bind]
  simp only [htruthy, if_true, tablePath, Value.textOnly_text, ok_bind, pure_bind]
  exact Store.documentation_eq_error_iff hfault

theorem place_of_find {extension : Value}
    (h : l.find object keyword = .ok ⟨.text table, candidate, name⟩) (htable : table ≠ "")
    (hfault : fault.isStorage = true) :
    l.place extension object keyword = .error fault ↔
      l.store.read (Path.join l.tables table) = .error fault := by
  have htruthy : (Value.text table).truthy = true := by simpa using htable
  rw [place, h, ok_bind]
  simp only [htruthy, Bool.not_true, Bool.false_eq_true, if_false, tablePath, Value.textOnly_text,
    ok_bind, pure_bind]
  refine Store.readDocument_bind_eq_error (fun v hv => ?_) hfault
  have hlast (file : Value) : Storeless (do
      let keyword ← candidate.asText
      if (← hasExtension file extension) == some true then
        return ⟨some (Keyword.resourcePattern keyword), file⟩
      else l.store.libraryPlace (Path.join l.tables table) name keyword) := by
    refine candidate.storeless_asText.bind fun keyword =>
      (storeless_hasExtension file extension).bind fun found => ?_
    split
    · exact storeless_pure _
    · exact Store.storeless_libraryPlace hv name keyword
  refine (v.storeless_has _).bind fun found => ?_
  split
  · exact (v.storeless_field _).bind hlast
  · exact hlast .null

/-- The record that a lookup finds names a table that cannot be opened. -/
def Dangles (l : Lookup) (records : List KeywordRecord) (object : Option String) (keyword : String)
    (fault : Fault) : Prop :=
  ∃ r ∈ records, r.table ≠ "" ∧
    l.find object keyword = .ok ⟨.text r.table, r.keyword, r.object⟩ ∧
    l.store.read (Path.join l.tables r.table) = .error fault

theorem Serves.find_cases (h : l.Serves records) (object : Option String) (keyword : String) :
    (∃ fault, fault.isStorage = false ∧ l.find object keyword = .error fault) ∨
      (∃ found, l.find object keyword = .ok found ∧ found.table.truthy = false) ∨
      ∃ r ∈ records, r.table ≠ "" ∧
        l.find object keyword = .ok ⟨.text r.table, r.keyword, r.object⟩ := by
  obtain ⟨hstoreless, hfound⟩ := findIn_records object keyword records .null
  rw [← h.find_eq] at hstoreless hfound
  cases hfind : l.find object keyword with
  | error fault => exact .inl ⟨fault, hstoreless fault hfind, rfl⟩
  | ok found =>
    rcases hfound found hfind with hnull | ⟨r, hr, rfl⟩
    · exact .inr (.inl ⟨found, rfl, by rw [hnull]; rfl⟩)
    · by_cases htable : r.table = ""
      · exact .inr (.inl ⟨_, rfl, by rw [htable]; rfl⟩)
      · exact .inr (.inr ⟨r, hr, htable, rfl⟩)

/-- What opens the table that is found fails with a fault of the store just on a record that
dangles. -/
theorem Serves.eq_error_iff_dangles (h : l.Serves records) (hfault : fault.isStorage = true)
    {α : Type} {answer : Except Fault α}
    (herror : ∀ other, l.find object keyword = .error other → answer = .error other)
    (hnone : ∀ found, l.find object keyword = .ok found → found.table.truthy = false →
      Storeless answer)
    (hopen : ∀ table candidate name, table ≠ "" →
      l.find object keyword = .ok ⟨.text table, candidate, name⟩ →
      (answer = .error fault ↔ l.store.read (Path.join l.tables table) = .error fault)) :
    answer = .error fault ↔ l.Dangles records object keyword fault := by
  constructor
  · intro hanswer
    rcases h.find_cases object keyword with
      ⟨other, hother, hfind⟩ | ⟨found, hfind, htable⟩ | ⟨r, hr, htable, hfind⟩
    · obtain rfl : other = fault := Except.error.inj ((herror other hfind).symm.trans hanswer)
      simp [hother] at hfault
    · simp [hnone found hfind htable fault hanswer] at hfault
    · exact ⟨r, hr, htable, hfind, (hopen _ _ _ htable hfind).1 hanswer⟩
  · rintro ⟨r, hr, htable, hfind, hread⟩
    exact (hopen _ _ _ htable hfind).2 hread

theorem Serves.documentation_eq_error_iff (h : l.Serves records) (hfault : fault.isStorage = true) :
    l.documentation object keyword = .error fault ↔ l.Dangles records object keyword fault := by
  refine h.eq_error_iff_dangles hfault (fun other hfind => ?_) (fun found hfind htable => ?_)
    (fun table candidate name htable hfind => documentation_of_find hfind htable hfault)
  · rw [documentation, hfind, error_bind]
  · rw [documentation, hfind, ok_bind]
    simp only [htable, Bool.false_eq_true, if_false]
    exact storeless_pure _

theorem Serves.place_eq_error_iff (h : l.Serves records) (hfault : fault.isStorage = true)
    {extension : Value} :
    l.place extension object keyword = .error fault ↔
      l.Dangles records object keyword fault := by
  refine h.eq_error_iff_dangles hfault (fun other hfind => ?_) (fun found hfind htable => ?_)
    (fun table candidate name htable hfind => place_of_find hfind htable hfault)
  · rw [place, hfind, error_bind]
  · rw [place, hfind, ok_bind]
    simp only [htable, Bool.not_false, if_true]
    exact storeless_pure _

end Lookup

namespace Indexing

variable {i i' s : Index} {database table : String} {markup : Option String}
  {roots : List String} {visited : List (String × IndexPart)}

/-- A record comes from a document that has its keyword. -/
theorem Visited.exists_source (h : Visited i database roots visited s) {r : KeywordRecord}
    (hr : r ∈ (IndexPart.concat (visited.map Prod.snd)).keywords) :
    ∃ v, i.world.store.IsSource (Path.join database r.table) v ∧ DefinesKeyword v r.keyword := by
  obtain ⟨_, facts, -, ⟨names, hreading⟩, hkeyword, -⟩ := h.recordOf hr
  obtain ⟨⟨v, similar⟩, hread, hreading⟩ := bind_eq_ok.1 hreading
  obtain ⟨_, hfacts, hreading⟩ := bind_eq_ok.1 hreading
  obtain ⟨_, -, ⟨⟩⟩ := bind_eq_ok.1 hreading
  exact ⟨v, Store.isSource_of_readTable hread, definesKeyword_of_tableFacts hfacts hkeyword⟩

/-- **Lookups fail on records of missing tables only.** Every record of an index was made from a
document that has its keyword: the document of the table that it names if that is a file, else the
document of a file with a similar name. As long as no file is lost, a lookup that has the index
fails with a fault of the store just if the record that it finds names a table that cannot be
opened, and then the table was no file when the index was made. -/
theorem lookup_fails_iff {part : IndexPart}
    (h : (indexFor database table markup).exec i = some (.ok part, i')) :
    (∀ r ∈ part.keywords, ∃ v, i.world.store.IsSource (Path.join database r.table) v ∧
      DefinesKeyword v r.keyword) ∧
    ∀ l : Lookup, l.tables = database → l.Serves part.keywords →
      (∀ path, i.world.store.hasFile path = true → l.store.hasFile path = true) →
      ∀ object keyword extension fault, fault.isStorage = true →
        (l.documentation object keyword = .error fault ↔
          l.Dangles part.keywords object keyword fault) ∧
        (l.place extension object keyword = .error fault ↔
          l.Dangles part.keywords object keyword fault) ∧
        (l.Dangles part.keywords object keyword fault → ∃ r ∈ part.keywords,
          l.find object keyword = .ok ⟨.text r.table, r.keyword, r.object⟩ ∧
          i.world.store.hasFile (Path.join database r.table) = false) := by
  obtain ⟨visited, _, hvisits, ⟨⟩⟩ := Routine.exec_bind_eq_ok.1 h
  obtain ⟨roots, s, -, hvisited, -, -⟩ := visited_of_exec_visits hvisits
  refine ⟨fun r hr => hvisited.exists_source hr, ?_⟩
  rintro l rfl hserves hfiles object keyword extension fault hfault
  refine ⟨hserves.documentation_eq_error_iff hfault, hserves.place_eq_error_iff hfault, ?_⟩
  rintro ⟨r, hr, -, hfind, hread⟩
  refine ⟨r, hr, hfind, Bool.eq_false_iff.2 fun hfile => ?_⟩
  have hkept := hfiles _ hfile
  rw [Store.hasFile_eq_false_of_read hread] at hkept
  cases hkept

/-- The record of a keyword of the resource `/r`. -/
def movedRecord : KeywordRecord := ⟨.text "Kw", .list [], .text "r", selfTable, .null⟩

/-- The document of the index of the resource. -/
def movedDocument : Value := IndexPart.document ⟨[movedRecord], []⟩

/-- The document of the table of the resource. -/
def movedTable : Value :=
  .object [("file_name", .text "r"), ("keywords", .object [("kw", .object
    [("keyword_name", .text "Kw"), ("keyword_arguments", .list [])])])]

/-- A database that has the table of the resource under the name of another place only, and the
index of the resource. -/
def movedStore : Store where
  cwd := "/"
  entries := [(["db"], .folder), (["db", "r-0.json"], .file movedTable.render), (["ix"], .folder),
    (["ix", TableName.index selfTable], .file movedDocument.render)]

def movedIndex : Index := { world := ⟨movedStore, {}⟩, target := "/ix" }

def movedLookup : Lookup := ⟨movedStore, "/db", "/ix", "/r"⟩

theorem names_movedStore : movedStore.names "/db" = .ok ["r-0.json"] :=
  Store.names_of_sorted rfl rfl rfl (by decide)

theorem tableReading_moved : tableReading movedIndex.world "/db" selfTable =
    .ok (⟨[], [(.text "Kw", .list [])], .text "r"⟩, []) := by
  have hread : movedStore.read (Path.join "/db" selfTable) = .error (.storage .absent) := rfl
  have hfolder : movedStore.has (Path.parent (Path.join "/db" selfTable)) = true := rfl
  have hsimilar : movedStore.similarTable (Path.join "/db" selfTable) = .ok "/db/r-0.json" := by
    have hnames : movedStore.names (Path.parent (Path.join "/db" selfTable)) = .ok ["r-0.json"] :=
      names_movedStore
    simp only [Store.similarTable, hfolder, if_true, hnames, ok_bind]
    rfl
  have hfaithful : movedTable.Faithful := by
    refine .object (by simp) ?_
    simp only [List.forall_mem_cons]
    refine ⟨.text _, .object (by simp) (List.forall_mem_singleton.2 (.object (by simp) ?_)), nofun⟩
    simp only [List.forall_mem_cons]
    exact ⟨.text _, .list nofun, nofun⟩
  have hdocument : movedStore.readDocument "/db/r-0.json" = .ok movedTable :=
    Store.readDocument_of_readRaw hfaithful (by decide)
      (Store.readRaw_eq_ok.2 ⟨["db", "r-0.json"], rfl, rfl⟩)
  have hfacts : tableFacts movedTable = .ok ⟨[], [(.text "Kw", .list [])], .text "r"⟩ := rfl
  have hnames : importNames movedIndex.world movedTable = .ok [] := rfl
  have htable : movedStore.readTable (Path.join "/db" selfTable) = .ok (movedTable, true) := by
    simp only [Store.readTable, hread, Fault.isStorage, if_true, hsimilar, ok_bind, hdocument]
    rfl
  have hreading : movedIndex.world.store.readTable (Path.join "/db" selfTable) =
      .ok (movedTable, true) := htable
  simp only [tableReading, hreading, ok_bind, hfacts, hnames]
  rfl

theorem exec_indexFor_moved :
    ∃ i', (indexFor "/db" selfTable none).exec movedIndex =
      some (.ok ⟨[movedRecord], []⟩, i') := by
  have hbuiltin : movedIndex.world.store.builtinTable? "/db" = .ok none := by
    have hnames : movedIndex.world.store.names "/db" = .ok ["r-0.json"] := names_movedStore
    simp only [Store.builtinTable?, hnames, ok_bind]
    rfl
  have hround : (indexItem "/db" (.text selfTable, ⟨.waiting, .unknown, .null⟩)).exec
      { movedIndex with queue := ⟨[(.text selfTable, ⟨.taken, .unknown, .null⟩)]⟩ } = _ :=
    exec_indexItem_of_ok tableReading_moved rfl
  exact ⟨_, Routine.exec_bind_eq_ok.2 ⟨_, _, exec_visits_of_rounds hbuiltin
    ⟨[_], _, .round rfl hround (.start _), rfl, rfl⟩, rfl⟩⟩

theorem ofPath_selfTable : TableName.ofPath (Path.tidy "/" "/r") = .ok selfTable := by
  decide +kernel

theorem serves_movedLookup : movedLookup.Serves [movedRecord] := by
  have hfaithful : movedDocument.Faithful :=
    IndexPart.faithful_document (List.forall_mem_singleton.2
      (KeywordRecord.faithful_document (.text _) (.list nofun) (.text _) .null)) nofun
  exact Lookup.serves_of_indexedKeywords ofPath_selfTable
    (Store.indexedKeywords_of_readRaw hfaithful (by decide)
      (Store.readRaw_eq_ok.2 ⟨["ix", TableName.index selfTable], rfl, rfl⟩))

/-- The index of a resource whose table is only there under a similar name: its record leads to a
table that is not there, for the documentation of the keyword as for its place. -/
theorem lookup_fails_iff_moved :
    (∃ i', (indexFor "/db" selfTable none).exec movedIndex =
      some (.ok ⟨[movedRecord], []⟩, i')) ∧
    movedLookup.Serves [movedRecord] ∧
    movedLookup.documentation none "Kw" = .error (.storage .absent) ∧
    movedLookup.place (.text "robot") none "Kw" = .error (.storage .absent) := by
  obtain ⟨i', hindex⟩ := exec_indexFor_moved
  obtain ⟨-, hlookup⟩ := lookup_fails_iff hindex
  obtain ⟨hdocumentation, hplace, -⟩ := hlookup movedLookup rfl serves_movedLookup
    (fun _ hfile => hfile) none "Kw" (.text "robot") (.storage .absent) rfl
  have hdangles : movedLookup.Dangles [movedRecord] none "Kw" (.storage .absent) := by
    refine ⟨movedRecord, List.mem_cons_self, by decide, ?_, rfl⟩
    rw [serves_movedLookup.find_eq]
    rfl
  exact ⟨⟨i', hindex⟩, serves_movedLookup, hdocumentation.2 hdangles, hplace.2 hdangles⟩

end Indexing

end KeywordCatalog
