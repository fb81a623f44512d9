import KeywordCatalog.Proofs.Index.Source
import KeywordCatalog.Proofs.Lookup
import KeywordCatalog.Proofs.Store.Listing

/-!
# Documentation and place of a library keyword

The documentation of a keyword and the place where it is defined are looked up by two searches each:
for the record of the keyword in an index, and for its key in the table that the record names. What
a search comes to is said by `FirstOf`: the first element that passes a test, none, or the fault of
a test that comes before any element that passes. A name with embedded arguments that make no search
pattern is such a fault, and it hides all that comes after it.

Both lookups come to the same entry of a library table, and where one of them fails the other one
fails as well (`Lookup.Serves.library_lookups_agree`).
-/

namespace KeywordCatalog

open Outcome Keyword

/-! ### Searches -/

section FirstOf

variable {α : Type} {test : α → Except Fault Bool} {xs : List α}

/-- What a search for the first element that passes a test comes to. -/
inductive FirstOf (test : α → Except Fault Bool) (xs : List α) : Except Fault (Option α) → Prop
  | absent (hall : ∀ x ∈ xs, test x = .ok false) : FirstOf test xs (.ok none)
  | found (before after : List α) {x : α} (hxs : xs = before ++ x :: after)
      (hbefore : ∀ y ∈ before, test y = .ok false) (hx : test x = .ok true) :
      FirstOf test xs (.ok (some x))
  | fails (before after : List α) {x : α} {fault : Fault} (hxs : xs = before ++ x :: after)
      (hbefore : ∀ y ∈ before, test y = .ok false) (hx : test x = .error fault) :
      FirstOf test xs (.error fault)

/-- A search comes to something. -/
theorem exists_firstOf (test : α → Except Fault Bool) (xs : List α) :
    ∃ result, FirstOf test xs result := by
  induction xs with
  | nil => exact ⟨_, .absent nofun⟩
  | cons x rest ih =>
    rcases hx : test x with fault | _ | _
    · exact ⟨_, .fails [] rest rfl nofun hx⟩
    · obtain ⟨result, hresult⟩ := ih
      cases hresult with
      | absent hall => exact ⟨_, .absent (List.forall_mem_cons.2 ⟨hx, hall⟩)⟩
      | found before after hrest hbefore hy =>
        exact ⟨_, .found (x :: before) after (by rw [hrest]; rfl)
          (List.forall_mem_cons.2 ⟨hx, hbefore⟩) hy⟩
      | fails before after hrest hbefore hy =>
        exact ⟨_, .fails (x :: before) after (by rw [hrest]; rfl)
          (List.forall_mem_cons.2 ⟨hx, hbefore⟩) hy⟩
    · exact ⟨_, .found [] rest rfl nofun hx⟩

end FirstOf

/-! ### Tables -/

/-- The field of the entry that a search came to, null if it came to none. -/
def entryField (name : String) : Option (String × Value) → Except Fault Value
  | some (_, entry) => entry.field name
  | none => .ok .null

/-- Whether a document is the table of a library with the given entries: it is that of the object,
and it has no file with the extension of suites and resources. -/
structure Value.IsLibraryTable (v object : Value) (extension : String)
    (entries : List (String × Value)) : Prop where
  keywords : v.field "keywords" = .ok (.object entries)
  library : ∃ library, v.field "library_module" = .ok library ∧ object.same library = true
  file : ∀ path, v.field "file_path" = .ok (.text path) → endsWith path extension = false

namespace Value

theorem eq_text_of_asText {v : Value} {text : String} (h : v.asText = .ok text) :
    v = .text text := by
  cases v <;> cases h
  rfl

theorem exists_eq_object_of_field {v w : Value} {key : String} (h : v.field key = .ok w) :
    ∃ fields, v = .object fields := by
  cases v with
  | object fields => exact ⟨fields, rfl⟩
  | _ => cases h

/-- A library table does not pass for the table of a suite or a resource. -/
theorem IsLibraryTable.file_cases {v name : Value} {extension : String}
    {entries : List (String × Value)} (h : v.IsLibraryTable name extension entries) :
    v.has "file_path" = .ok false ∨ v.has "file_path" = .ok true ∧ ∃ file shown,
      v.field "file_path" = .ok file ∧ hasExtension file (.text extension) = .ok shown ∧
        (shown == some true) = false := by
  obtain ⟨fields, rfl⟩ := exists_eq_object_of_field h.keywords
  cases hhas : fields.any fun f => f.1 == "file_path" with
  | false => exact .inl (by rw [has, hhas])
  | true =>
    refine .inr ⟨by rw [has, hhas], ?_⟩
    obtain ⟨pair, hpair, hkey⟩ := List.any_eq_true.1 hhas
    obtain ⟨file, hlookup⟩ := Ordered.exists_lookup (List.mem_map.2 ⟨pair, hpair, eq_of_beq hkey⟩)
    have hfield : (object fields).field "file_path" = .ok file := by
      rw [field, hlookup]
    refine ⟨file, ?_⟩
    cases file with
    | text path =>
      refine ⟨some (endsWith path extension), hfield, rfl, ?_⟩
      rw [h.file path hfield]
      rfl
    | _ => exact ⟨none, hfield, rfl, rfl⟩

end Value

section Tables

variable {keyword library object : Value} {keywords : Value}

/-- Keys that a keyword does not mean are passed over. -/
theorem firstNamed_append {before : List Value} (rest : List Value)
    (h : ∀ key ∈ before, isNamedBy keyword key = .ok false) :
    firstNamed keyword (before ++ rest) = firstNamed keyword rest := by
  induction before with
  | nil => rfl
  | cons key others ih =>
    obtain ⟨hkey, hothers⟩ := List.forall_mem_cons.1 h
    rw [List.cons_append, firstNamed, hkey]
    exact ih hothers

/-- In the table of the library that is asked for, the file is that of the first key that the
keyword means. -/
theorem keywordFileIn_eq_firstNamed (h : object.same library = true) (keys : List Value) :
    keywordFileIn keywords library object keyword keys = (do
      match ← firstNamed keyword keys with
      | some key => (← keywordEntry keywords key).field "keyword_file"
      | none => return .null) := by
  induction keys with
  | nil => rfl
  | cons key rest ih =>
    rw [keywordFileIn, firstNamed]
    rcases isNamedBy keyword key with fault | _ | _
    · rfl
    · exact ih
    · simp only [ok_bind, if_true, h, Bool.or_true]
      rfl

variable {title : String} {entries : List (String × Value)}
  {result : Except Fault (Option (String × Value))}

/-- What the entries under the keys come to that a search through the keys finds. A key that is
there twice counts where it is first, in the search and for its entry. -/
theorem firstNamed_bind_field (h : FirstOf (fun e => isNamed title e.1) entries result)
    (name : String) :
    (do
      match ← firstNamed (.text title) (entries.map fun e => .text e.1) with
      | some key => (← keywordEntry (.object entries) key).field name
      | none => return .null) = result >>= entryField name := by
  have hskip {before : List (String × Value)}
      (hbefore : ∀ e ∈ before, isNamed title e.1 = .ok false) (rest : List Value) :
      firstNamed (.text title) (before.map (fun e => .text e.1) ++ rest) =
        firstNamed (.text title) rest := by
    refine firstNamed_append rest fun key hkey => ?_
    obtain ⟨e, he, rfl⟩ := List.mem_map.1 hkey
    exact hbefore e he
  cases h with
  | absent hall =>
    rw [← List.append_nil (entries.map _), hskip hall]
    rfl
  | @found before after e hentries hbefore he =>
    have hfirst : firstNamed (.text title) (entries.map fun e => .text e.1) =
        .ok (some (.text e.1)) := by
      rw [hentries, List.map_append, hskip hbefore, List.map_cons, firstNamed, isNamedBy_text, he]
      rfl
    have hlookup : entries.lookup e.1 = some e.2 := by
      -- a key before the first that is meant is another key
      have hnew : before.lookup e.1 = none := by
        refine List.lookup_eq_none_iff.2 fun e' he' => bne_iff_ne.2 fun hkey => ?_
        have hnot := hbefore e' he'
        rw [← hkey, he] at hnot
        cases hnot
      rw [hentries, List.lookup_append, hnew, Option.none_or, List.lookup_cons, beq_self_eq_true]
    have hentry : keywordEntry (.object entries) (.text e.1) = .ok e.2 := by
      rw [keywordEntry, Value.textOnly_text, ok_bind, Value.field, hlookup]
    rw [hfirst, ok_bind]
    simp only [hentry, ok_bind]
    rfl
  | fails before after hentries hbefore he =>
    rw [hentries, List.map_append, hskip hbefore, List.map_cons, firstNamed, isNamedBy_text, he]
    rfl

variable {s : Store} {path : String} {v : Value}

theorem Store.documentation_of_firstOf (hread : s.readDocument path = .ok v)
    (hkeywords : v.field "keywords" = .ok (.object entries))
    (h : FirstOf (fun e => isNamed title e.1) entries result) :
    s.documentation path (.text title) = result >>= entryField "documentation" := by
  rw [documentation, hread, ok_bind, hkeywords, ok_bind, Value.elements, ok_bind]
  exact firstNamed_bind_field h _

theorem Store.keywordFile_of_firstOf (hread : s.readDocument path = .ok v)
    (hkeywords : v.field "keywords" = .ok (.object entries))
    (hlibrary : v.field "library_module" = .ok library) (hobject : object.same library = true)
    (h : FirstOf (fun e => isNamed title e.1) entries result) :
    s.keywordFile path object (.text title) = result >>= entryField "keyword_file" := by
  rw [keywordFile, hread, ok_bind, hkeywords, ok_bind, hlibrary, ok_bind, Value.elements, ok_bind,
    keywordFileIn_eq_firstNamed hobject]
  exact firstNamed_bind_field h _

/-- A path without a last name leads to a folder. -/
theorem Store.readDocument_ne_ok (hname : Path.name path = "") : s.readDocument path ≠ .ok v := by
  intro h
  obtain ⟨place, text, hplace, hentry, -⟩ := readDocument_eq_ok.1 h
  obtain ⟨-, hwalk⟩ := locate_eq_ok.1 hplace
  obtain ⟨others, hnames⟩ := exists_namesOf_concat (Path.join s.cwd path)
  rw [hnames, name_join, hname, walk_append] at hwalk
  obtain ⟨other, -, hlast⟩ := bind_eq_ok.1 hwalk
  have hfolder := entry?_of_walk_cons hlast
  rw [eq_of_walk_slashes (k := 1) hlast, hfolder] at hentry
  cases hentry

end Tables

/-! ### Records -/

namespace KeywordRecord

/-- Whether a record may be meant when an object is given: its object or its alias is that one. With
no object every record may. -/
def IsOf (r : KeywordRecord) (object : Option String) : Prop :=
  ∀ o ∈ object, o ≠ "" → r.object = .text o ∨ r.byname = .text o

instance (r : KeywordRecord) (object : Option String) : Decidable (r.IsOf object) :=
  inferInstanceAs (Decidable (∀ o ∈ object, o ≠ "" → r.object = .text o ∨ r.byname = .text o))

/-- Whether a record is of an object and a keyword means its keyword. -/
def isMeant (object : Option String) (keyword : String) (r : KeywordRecord) : Except Fault Bool :=
  if r.IsOf object then isNamedBy (.text keyword) r.keyword else .ok false

theorem isOf_eq_true {r : KeywordRecord} {object : Option String} :
    Lookup.isOf object r.object r.byname = true ↔ r.IsOf object := by
  cases object with
  | none => simp [IsOf]
  | some o =>
    by_cases ho : o = ""
    · simp [Lookup.isOf, IsOf, ho]
    · simp [Lookup.isOf_some_eq_true ho, IsOf, ho, or_comm]

/-- The keyword of a record that is meant is a text. -/
theorem exists_keyword_eq_text {r : KeywordRecord} {object : Option String} {keyword : String}
    (h : r.isMeant object keyword = .ok true) : ∃ title, r.keyword = .text title := by
  unfold isMeant at h
  split at h
  · obtain ⟨_, -, h⟩ := bind_eq_ok.1 h
    obtain ⟨_, -, h⟩ := bind_eq_ok.1 h
    obtain ⟨title, htitle, -⟩ := bind_eq_ok.1 h
    exact ⟨title, Value.eq_text_of_asText htitle⟩
  · cases h

end KeywordRecord

namespace Lookup

variable {l : Lookup} {object : Option String} {keyword : String} {records : List KeywordRecord}
  {r : KeywordRecord} {last : Value} {fault : Fault}

theorem findIn_cons (rest : List Value) :
    findIn object keyword last (r.document :: rest) = (do
      if ← r.isMeant object keyword then return ⟨.text r.table, r.keyword, r.object⟩
      findIn object keyword r.object rest) := by
  rw [findIn, r.item_keyword, ok_bind, r.item_byname, ok_bind, r.item_table, ok_bind, r.item_object,
    ok_bind, KeywordRecord.isMeant]
  by_cases hof : r.IsOf object
  · rw [if_pos (KeywordRecord.isOf_eq_true.2 hof), if_pos hof]
  · rw [if_neg (KeywordRecord.isOf_eq_true.not.2 hof), if_neg hof]
    rfl

/-- Records that are not meant are passed over. -/
theorem exists_findIn_append {before : List KeywordRecord} (rest : List KeywordRecord)
    (h : ∀ r ∈ before, r.isMeant object keyword = .ok false) (last : Value) :
    ∃ last', findIn object keyword last ((before ++ rest).map KeywordRecord.document) =
      findIn object keyword last' (rest.map KeywordRecord.document) := by
  induction before generalizing last with
  | nil => exact ⟨last, rfl⟩
  | cons r others ih =>
    obtain ⟨hr, hothers⟩ := List.forall_mem_cons.1 h
    obtain ⟨last', hlast⟩ := ih hothers r.object
    refine ⟨last', ?_⟩
    rw [List.cons_append, List.map_cons, findIn_cons, hr]
    exact hlast

/-- What is found by the search through the records of an index. -/
theorem Serves.find_of_firstOf (h : l.Serves records) {result : Except Fault (Option KeywordRecord)}
    (hfirst : FirstOf (·.isMeant object keyword) records result) :
    ∃ last, l.find object keyword = result.map fun
      | some r => ⟨.text r.table, r.keyword, r.object⟩
      | none => ⟨.null, .null, last⟩ := by
  rw [h.find_eq]
  cases hfirst with
  | absent hall =>
    obtain ⟨last, hlast⟩ := exists_findIn_append [] hall .null
    rw [List.append_nil] at hlast
    exact ⟨last, hlast⟩
  | found before after hrecords hbefore hr =>
    obtain ⟨last, hlast⟩ := exists_findIn_append _ hbefore .null
    rw [hrecords, hlast, List.map_cons, findIn_cons, hr]
    exact ⟨.null, rfl⟩
  | fails before after hrecords hbefore hr =>
    obtain ⟨last, hlast⟩ := exists_findIn_append _ hbefore .null
    rw [hrecords, hlast, List.map_cons, findIn_cons, hr]
    exact ⟨.null, rfl⟩

section

variable {table title extension : String} {name v : Value} {entries : List (String × Value)}

/-- The place of a library keyword is looked up in the table of its library. -/
theorem place_of_isLibraryTable
    (h : l.find object keyword = .ok ⟨.text table, .text title, name⟩) (htable : table ≠ "")
    (hread : l.store.readDocument (Path.join l.tables table) = .ok v)
    (hv : v.IsLibraryTable name extension entries) :
    l.place (.text extension) object keyword =
      l.store.libraryPlace (Path.join l.tables table) name title := by
  have htruthy : (Value.text table).truthy = true := by simpa using htable
  rw [place, h, ok_bind]
  simp only [htruthy, Bool.not_true, Bool.false_eq_true, if_false, tablePath, Value.textOnly_text,
    Value.asText_text, ok_bind, pure_bind, hread]
  rcases hv.file_cases with hhas | ⟨hhas, file, shown, hfile, hshown, hne⟩
  · have hnull : hasExtension .null (.text extension) = .ok none := rfl
    simp [hhas, hnull]
  · simp only [hhas, ok_bind, if_true, hfile, hshown, hne, Bool.false_eq_true, if_false]

/-- What the two lookups come to on the table of a library. -/
theorem lookups_of_isLibraryTable {entry : Except Fault (Option (String × Value))}
    (h : l.find object keyword = .ok ⟨.text table, .text title, name⟩) (htable : table ≠ "")
    (hread : l.store.readDocument (Path.join l.tables table) = .ok v)
    (hv : v.IsLibraryTable name extension entries)
    (hentry : FirstOf (fun e => isNamed title e.1) entries entry) :
    l.documentation object keyword = entry >>= entryField "documentation" ∧
      l.place (.text extension) object keyword =
        (entry >>= entryField "keyword_file").map (Place.mk (some (libraryPattern title))) := by
  have htruthy : (Value.text table).truthy = true := by simpa using htable
  obtain ⟨library, hlibrary, hsame⟩ := hv.library
  constructor
  · rw [documentation, h, ok_bind]
    simp only [htruthy, if_true, tablePath, Value.textOnly_text, ok_bind, pure_bind]
    exact Store.documentation_of_firstOf hread hv.keywords hentry
  · rw [place_of_isLibraryTable h htable hread hv, Store.libraryPlace,
      Store.keywordFile_of_firstOf hread hv.keywords hlibrary hsame hentry]
    rfl

end

/-- **Documentation and place come from the same entry.** If no record is meant, neither is known.
If the search through the records fails, so do both lookups. If it comes to a record and the
record's table is that of its library, then both lookups read the entry that the search through the
keys of the table comes to. -/
theorem Serves.library_lookups_agree (h : l.Serves records) (object : Option String)
    (keyword extension : String) :
    (∃ found, FirstOf (·.isMeant object keyword) records found) ∧
    ∀ found, FirstOf (·.isMeant object keyword) records found →
      match found with
      | .error fault =>
        l.documentation object keyword = .error fault ∧
          l.place (.text extension) object keyword = .error fault
      | .ok none =>
        l.documentation object keyword = .ok .null ∧
          l.place (.text extension) object keyword = .ok .unknown
      | .ok (some r) => ∃ title, r.keyword = .text title ∧ ∀ v entries,
        l.store.readDocument (Path.join l.tables r.table) = .ok v →
        v.IsLibraryTable r.object extension entries →
          (∃ entry, FirstOf (fun e => isNamed title e.1) entries entry) ∧
          ∀ entry, FirstOf (fun e => isNamed title e.1) entries entry →
            l.documentation object keyword = entry >>= entryField "documentation" ∧
            l.place (.text extension) object keyword =
              (entry >>= entryField "keyword_file").map
                (Place.mk (some (libraryPattern title))) := by
  refine ⟨exists_firstOf _ _, fun found hfirst => ?_⟩
  obtain ⟨last, hfind⟩ := h.find_of_firstOf hfirst
  cases hfirst with
  | absent hall =>
    dsimp only
    rw [documentation, place, hfind]
    exact ⟨rfl, rfl⟩
  | fails before after hrecords hbefore hr =>
    dsimp only
    rw [documentation, place, hfind]
    exact ⟨rfl, rfl⟩
  | @found before after r hrecords hbefore hr =>
    obtain ⟨title, htitle⟩ := KeywordRecord.exists_keyword_eq_text hr
    refine ⟨title, htitle, fun v entries hread hv => ⟨exists_firstOf _ _, fun entry hentry => ?_⟩⟩
    -- a record without the name of a table counts as none, but such a name leads to no document
    have htable : r.table ≠ "" := by
      intro hempty
      exact Store.readDocument_ne_ok (by rw [hempty, Store.name_join]; rfl) hread
    have hfound : l.find object keyword = .ok ⟨.text r.table, .text title, r.object⟩ := by
      rw [hfind, ← htitle]
      rfl
    exact lookups_of_isLibraryTable hfound htable hread hv hentry

/-! ### An index with a name that makes no search pattern -/

/-- The record of a keyword of a resource whose name makes no search pattern. -/
def brokenRecord : KeywordRecord :=
  ⟨.text "Open ( $\x7bx\x7d", .list [], .text "res", "res.json", .null⟩

/-- The record of a keyword of a library with an alias. -/
def helloRecord : KeywordRecord := ⟨.text "Say Hello", .list [], .text "Lib", "Lib.json", .text "L"⟩

def helloEntry : Value :=
  .object [("documentation", .text "greets"), ("keyword_file", .text "/py/Lib.py")]

/-- The table of the library. -/
def helloTable : Value :=
  .object [("library_module", .text "Lib"), ("keywords", .object [("say_hello", helloEntry)])]

/-- The document of the index of the file `/r`. -/
def helloDocument : Value := IndexPart.document ⟨[brokenRecord, helloRecord], []⟩

def helloStore : Store where
  cwd := "/"
  entries := [(["db"], .folder), (["db", "Lib.json"], .file helloTable.render), (["ix"], .folder),
    (["ix", TableName.index Indexing.selfTable], .file helloDocument.render)]

def helloLookup : Lookup := ⟨helloStore, "/db", "/ix", "/r"⟩

theorem readDocument_helloTable :
    helloLookup.store.readDocument (Path.join "/db" "Lib.json") = .ok helloTable := by
  have hfaithful : helloTable.Faithful := by
    refine .object (by simp) ?_
    simp only [List.forall_mem_cons]
    refine ⟨.text _, .object (by simp) (List.forall_mem_singleton.2 (.object (by simp) ?_)), nofun⟩
    simp only [List.forall_mem_cons]
    exact ⟨.text _, .text _, nofun⟩
  exact Store.readDocument_of_readRaw hfaithful (by decide)
    (Store.readRaw_eq_ok.2 ⟨["db", "Lib.json"], rfl, rfl⟩)

theorem serves_helloLookup : helloLookup.Serves [brokenRecord, helloRecord] := by
  have hfaithful : helloDocument.Faithful := by
    refine IndexPart.faithful_document ?_ nofun
    simp only [List.forall_mem_cons]
    exact ⟨KeywordRecord.faithful_document (.text _) (.list nofun) (.text _) .null,
      KeywordRecord.faithful_document (.text _) (.list nofun) (.text _) (.text _), nofun⟩
  exact serves_of_indexedKeywords Indexing.ofPath_selfTable
    (Store.indexedKeywords_of_readRaw hfaithful (by decide)
      (Store.readRaw_eq_ok.2 ⟨["ix", TableName.index Indexing.selfTable], rfl, rfl⟩))

/-- Under the alias of the library its keyword is found, with the documentation and the file of one
entry. Without an object both lookups fail on the record before it. -/
theorem library_lookups_agree_alias :
    helloLookup.Serves [brokenRecord, helloRecord] ∧
    helloLookup.documentation (some "L") "say hello" = .ok (.text "greets") ∧
    helloLookup.place (.text "robot") (some "L") "say hello" =
      .ok ⟨some (libraryPattern "Say Hello"), .text "/py/Lib.py"⟩ ∧
    helloLookup.documentation none "say hello" = .error .badPattern ∧
    helloLookup.place (.text "robot") none "say hello" = .error .badPattern := by
  obtain ⟨-, halias⟩ := serves_helloLookup.library_lookups_agree (some "L") "say hello" "robot"
  obtain ⟨-, hnone⟩ := serves_helloLookup.library_lookups_agree none "say hello" "robot"
  have hrecord : FirstOf (·.isMeant (some "L") "say hello") [brokenRecord, helloRecord]
      (.ok (some helloRecord)) :=
    .found [brokenRecord] [] rfl (by simp only [List.forall_mem_singleton]; rfl) rfl
  have hfault : FirstOf (·.isMeant none "say hello") [brokenRecord, helloRecord]
      (.error .badPattern) :=
    .fails [] [helloRecord] rfl nofun rfl
  have htable : helloTable.IsLibraryTable helloRecord.object "robot" [("say_hello", helloEntry)] :=
    ⟨rfl, ⟨.text "Lib", rfl, rfl⟩, nofun⟩
  have hentry : FirstOf (fun e => isNamed "Say Hello" e.1) [("say_hello", helloEntry)]
      (.ok (some ("say_hello", helloEntry))) :=
    .found [] [] rfl nofun rfl
  obtain ⟨title, htitle, hlibrary⟩ := halias _ hrecord
  obtain rfl : title = "Say Hello" := (Value.text.inj htitle).symm
  obtain ⟨hdocumentation, hplace⟩ := (hlibrary _ _ readDocument_helloTable htable).2 _ hentry
  exact ⟨serves_helloLookup, hdocumentation, hplace, (hnone _ hfault).1, (hnone _ hfault).2⟩

end Lookup

end KeywordCatalog
