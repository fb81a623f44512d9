import KeywordCatalog.Proofs.Index.Alike
import KeywordCatalog.Proofs.Store.Renewal

/-!
# Indexes and where they are kept

Indexes are kept in a folder apart from the database. The name of a table can have slashes and lead
into this folder, but an index is no table, and indexing fails on it. So an index that can be made is
the same whichever other indexes are there (`Indexing.exec_indexFor_clear`).

The folder may also hold tables from before. Then an index is the same as without them if no name
that is reached has slashes, and the libraries are found alike (`Indexing.exec_indexFor_emptied`).
-/

namespace KeywordCatalog

open Outcome

theorem Fault.isStorage_of_isData {fault : Fault} (h : fault.isData = true) :
    fault.isStorage = false := by
  cases fault <;> simp_all [Fault.isData, Fault.isStorage]

/-! ### Tables in a folder -/

namespace Store

variable {s s' : Store} {place : Location} {path folder name : String}

/-- Whether the table at a path is read from a file in a folder. -/
def ReadsInside (s : Store) (place : Location) (path : String) : Prop :=
  ∃ other text, Inside place other ∧ s.entry? other = some (.file text) ∧
    (s.readTable path).map Prod.fst = Value.parse (String.ofList (unifyBreaks text.toList))

theorem Meets.exists_read (h : s.Meets place path) :
    ∃ other text, Inside place other ∧ s.entry? other = some (.file text) ∧
      s.read path = .ok (String.ofList (unifyBreaks text.toList)) := by
  obtain ⟨other, text, hinside, hother, hentry⟩ := h
  refine ⟨other, text, hinside, hentry, ?_⟩
  rw [read, readRaw_eq_ok.2 ⟨other, hother, hentry⟩]
  rfl

theorem readsInside_of_similar {fault : Fault} {other : String} (hread : s.read path = .error fault)
    (hfault : fault.isStorage = true) (hsimilar : s.similarTable path = .ok other)
    (hmeets : s.Meets place other) : s.ReadsInside place path := by
  obtain ⟨l, text, hinside, hentry, hother⟩ := hmeets.exists_read
  refine ⟨l, text, hinside, hentry, ?_⟩
  rw [readTable_of_storage hread hfault, readSimilar, hsimilar, ok_bind, readDocument, hother, ok_bind]
  cases Value.parse (String.ofList (unifyBreaks text.toList)) <;> rfl

theorem Meets.readsInside (h : s.Meets place path) : s.ReadsInside place path := by
  obtain ⟨other, text, hinside, hentry, hread⟩ := h.exists_read
  refine ⟨other, text, hinside, hentry, ?_⟩
  rw [readTable_of_read hread]
  cases Value.parse (String.ofList (unifyBreaks text.toList)) <;> rfl

theorem readSimilar_of_empty
    (h : s.has (Path.parent path) = true → s.names (Path.parent path) = .ok []) :
    s.readSimilar path = .error (.refused (.noSimilarTable path)) := by
  rw [readSimilar, similarTable_eq]
  split
  · rename_i hhas
    rw [h hhas]
    rfl
  · rfl

/-- What stands in for a missing table of the folder itself: nothing, or a file in it. -/
theorem readSimilar_of_locate (hplain : s.HasPlainNames)
    (hlocate : s.locate (Path.parent path) = .ok place) (hfolder : s.entry? place = some .folder) :
    (∃ fault, s.readSimilar path = .error fault) ∨
      ∃ other, s.similarTable path = .ok other ∧ s.Meets place other := by
  have hhas : s.has (Path.parent path) = true := has_iff.2 ⟨_, find_eq_ok.2 ⟨place, hlocate, hfolder⟩⟩
  cases hsimilar : s.similarTable path with
  | error fault => exact Or.inl ⟨fault, by rw [readSimilar, hsimilar]; rfl⟩
  | ok other =>
    cases hread : s.readDocument other with
    | error fault =>
      exact Or.inl ⟨fault, by rw [readSimilar, hsimilar, ok_bind, hread]; rfl⟩
    | ok v =>
      obtain ⟨l, text, hl, hentry, -⟩ := readDocument_eq_ok.1 hread
      obtain ⟨listed, name, hnames, hname, rfl⟩ := similarTable_eq_ok hsimilar
      obtain ⟨_, -, -, hlisted⟩ := names_eq_ok hnames
      obtain ⟨e, he, hmem⟩ := hlisted name hname
      obtain rfl := eq_concat_of_locate_join hlocate hfolder (hplain e he name hmem) hl hentry
      exact Or.inr ⟨_, rfl, _, text, inside_append.2 (by simp), hl, hentry⟩

/-- What stands in for a missing table is read alike without what a folder holds, unless the reading
fails or comes upon a file in the folder. -/
theorem HoldsFiles.readSimilar_clear (h : s.HoldsFiles place) (hplain : s.HasPlainNames)
    (hfolder : s.entry? place = some .folder) (path : String) :
    Alike (s.readSimilar path) ((s.clear place).readSimilar path) ∨
      (∃ other, s.similarTable path = .ok other ∧ s.Meets place other) ∨
      ∃ fault, s.readSimilar path = .error fault ∧ fault.isData = false := by
  by_cases hmeets : s.Meets place (Path.parent path)
  · -- a file stands where the folder of the table should be
    obtain ⟨l, text, -, hl, hentry⟩ := hmeets
    have hfind : s.find (Path.parent path) = .ok (.file text) := find_eq_ok.2 ⟨l, hl, hentry⟩
    refine Or.inr (Or.inr ⟨.storage .notFolder, ?_, rfl⟩)
    rw [readSimilar, similarTable_eq, if_pos (has_iff.2 ⟨_, hfind⟩), names, hfind]
    rfl
  have hfind := h.find_clear hmeets
  have hhas := has_of_alike hfind
  by_cases hout : ∀ l, s.locate (Path.parent path) = .ok l → ¬place <+: l
  · have hsimilar := similarTable_alike hhas (h.names_clear hout)
    cases hs : s.similarTable path with
    | error fault =>
      rw [readSimilar, readSimilar]
      exact Or.inl (hsimilar.bind fun other hother => by rw [hs] at hother; cases hother)
    | ok other =>
      by_cases hother : s.Meets place other
      · exact Or.inr (Or.inl ⟨other, rfl, hother⟩)
      · refine Or.inl (hsimilar.bind fun other' hother' => ?_)
        obtain rfl : other = other' := Except.ok.inj (hs.symm.trans hother')
        exact (readDocument_alike (h.find_clear hother)).map _
  · -- the folder of the table is the cleared one, or should be in it
    push Not at hout
    obtain ⟨l, hl, hbelow⟩ := hout
    by_cases hsame : l = place
    · subst hsame
      have hnone : (s.clear l).readSimilar path = .error (.refused (.noSimilarTable path)) :=
        readSimilar_of_empty fun _ => h.names_clear_self hl hfolder
      rcases readSimilar_of_locate hplain hl hfolder with ⟨fault, hfault⟩ | hother
      · cases hdata : fault.isData with
        | true =>
          rw [hfault, hnone]
          exact Or.inl (.error hdata (Fault.isStorage_of_isData hdata))
        | false => exact Or.inr (Or.inr ⟨fault, hfault, hdata⟩)
      · exact Or.inr (Or.inl hother)
    · have hgone := h.has_clear_of_inside hl ⟨hbelow, hsame⟩
      rw [readSimilar_of_empty (by simp [hhas, hgone]), readSimilar_of_empty (by simp [hgone])]
      exact Or.inl (.refl _)

/-- A table is read alike without what a folder holds, unless the reading fails or comes upon a file
in the folder. -/
theorem HoldsFiles.readTable_clear (h : s.HoldsFiles place) (hplain : s.HasPlainNames)
    (hfolder : s.entry? place = some .folder) (path : String) :
    Alike (s.readTable path) ((s.clear place).readTable path) ∨
      s.ReadsInside place path ∨ ∃ fault, s.readTable path = .error fault ∧ fault.isData = false := by
  by_cases hmeets : s.Meets place path
  · exact Or.inr (Or.inl hmeets.readsInside)
  have hread := read_alike (h.find_clear hmeets)
  by_cases hlost : ∃ fault, s.read path = .error fault ∧ fault.isStorage = true
  · obtain ⟨fault, hfault, hstorage⟩ := hlost
    rcases h.readSimilar_clear hplain hfolder path with
      halike | ⟨other, hother, hmeets'⟩ | ⟨fault', hsimilar, hdata⟩
    · exact Or.inl (readTable_alike hread fun _ _ _ => halike)
    · exact Or.inr (Or.inl (readsInside_of_similar hfault hstorage hother hmeets'))
    · exact Or.inr (Or.inr ⟨fault', by rw [readTable_of_storage hfault hstorage, hsimilar], hdata⟩)
  · exact Or.inl (readTable_alike hread fun fault hfault hstorage =>
      absurd ⟨fault, hfault, hstorage⟩ hlost)

theorem WellNamed.hasPlainNames (h : s.WellNamed) : s.HasPlainNames :=
  fun e he name hname => (h e he name hname).2.2.2

/-- The tables of a shared folder are read alike. -/
theorem SharesFolder.readTable_alike (h : SharesFolder s s' folder place) (hnamed : s.WellNamed)
    (hname : Path.IsPlain name.toList) :
    Alike (s.readTable (Path.join folder name)) (s'.readTable (Path.join folder name)) := by
  refine Store.readTable_alike (read_alike (h.find_join_alike hname)) fun _ _ _ => ?_
  have hparent := h.parent_join hname.2.2.2
  have hhas : s.has (Path.parent (Path.join folder name)) =
      s'.has (Path.parent (Path.join folder name)) := by
    rw [has_iff.2 ⟨_, find_eq_ok.2 ⟨place, hparent.locate, h.entry⟩⟩,
      has_iff.2 ⟨_, find_eq_ok.2 ⟨place, hparent.locate', h.entry'⟩⟩]
  refine (similarTable_alike hhas (.of_eq hparent.names.symm)).bind fun other hother => ?_
  obtain ⟨listed, similar, hlisted, hmem, rfl⟩ := similarTable_eq_ok hother
  obtain ⟨-, -, -, hnames⟩ := names_eq_ok hlisted
  obtain ⟨e, he, hsimilar⟩ := hnames similar hmem
  exact (readDocument_alike (hparent.find_join_alike (hnamed e he similar hsimilar))).map _

/-! ### Indexes in a folder -/

/-- Whether a folder holds nothing but written indexes. -/
def HoldsIndexes (s : Store) (place : Location) : Prop :=
  ∀ other entry, Inside place other → s.entry? other = some entry →
    ∃ part : IndexPart, part.document.Faithful ∧ part.document.levels ≤ Document.levelLimit ∧
      entry = .file part.document.render

theorem HoldsIndexes.holdsFiles (h : s.HoldsIndexes place) : s.HoldsFiles place := by
  intro other hinside hentry
  obtain ⟨_, -, -, ⟨⟩⟩ := h other _ hinside hentry

/-- A table that is read from a folder of indexes is an index. -/
theorem HoldsIndexes.exists_index {path : String} (h : s.HoldsIndexes place)
    (hread : s.ReadsInside place path) :
    ∃ (part : IndexPart) (similar : Bool), s.readTable path = .ok (part.document, similar) := by
  obtain ⟨other, text, hinside, hentry, hparse⟩ := hread
  obtain ⟨part, hfaithful, hlevels, ⟨⟩⟩ := h other _ hinside hentry
  rw [unifyBreaks_render hfaithful, Value.parse_render hfaithful hlevels] at hparse
  cases hfound : s.readTable path with
  | error fault =>
    rw [hfound] at hparse
    cases hparse
  | ok found =>
    rw [hfound] at hparse
    exact ⟨part, found.2, by rw [← Except.ok.inj hparse]⟩

end Store

namespace Indexing

variable {x y : World} {i i' : Index} {database name table : String} {markup : Option String}
  {place : Location}

/-- An index is no table: its keywords are a list. -/
theorem tableFacts_document (part : IndexPart) :
    tableFacts part.document = .error .missingMember := rfl

/-- A world without what a folder holds. -/
def clear (w : World) (place : Location) : World := { w with store := w.store.clear place }

/-- Where indexing does not read: the database and the libraries that are described in markup are
apart from a place. -/
structure Spares (s : Store) (place : Location) (database : String) (markup : Option String) :
    Prop where
  database : ∀ other, s.locate database = .ok other → Store.Apart place other
  markup : ∀ path, markup = some path → path ≠ "" →
    Store.Apart place (Store.placeOf (Store.namesOf (Path.absolute s.cwd path)))

theorem Spares.locate_markup {s : Store} {path : String} {other : Location}
    (h : Spares s place database (some path)) (hne : path ≠ "") (hcwd : Path.isAbsolute s.cwd = true)
    (hother : s.locate (Path.absolute s.cwd path) = .ok other) : Store.Apart place other := by
  rw [Store.eq_placeOf_of_locate hcwd hother]
  exact h.markup path rfl hne

theorem builtinTable?_alike {s s' : Store} (h : Alike (s.names database) (s'.names database)) :
    Alike (s.builtinTable? database) (s'.builtinTable? database) := h.bind fun _ _ => .refl _

theorem markupTable?_alike {file : String} (h : Alike (x.store.find file) (y.store.find file)) :
    Alike (markupTable? x file) (markupTable? y file) :=
  (World.readMarkup_alike h).bind fun _ _ => .refl _

/-- Indexing starts alike without what a folder of files holds. -/
theorem startsAlike_clear (hsound : x.store.Sound) (hfiles : x.store.HoldsFiles place)
    (hspares : Spares x.store place database markup) :
    StartsAlike x (clear x place) database markup := by
  constructor
  · exact builtinTable?_alike (hfiles.names_clear fun other hother =>
      (hspares.database other hother).1)
  · rintro path rfl hne
    exact hfiles.findFiles_clear "xml" fun other => hspares.locate_markup hne hsound.cwd
  · rintro path files file rfl hne hfound hfile
    have hmeets : ¬x.store.Meets place file := Store.not_meets_of_mem_findFiles hsound.named
      (fun other => hspares.locate_markup hne hsound.cwd) hfound hfile
    exact markupTable?_alike (hfiles.find_clear hmeets)

/-- A table is read alike without what a folder of indexes holds if its reading is no fault other
than in the data. -/
theorem readAlike_clear (hplain : x.store.HasPlainNames) (hfolder : x.store.entry? place = some .folder)
    (hindexes : x.store.HoldsIndexes place)
    (hfault : ∀ fault, tableReading x database name = .error fault → fault.isData = true)
    (hlibraries : ∀ library other, ImportsLibrary (clear x place) database name library →
      (clear x place).store.locate library = .ok other → ¬Store.Inside place other) :
    ReadAlike x (clear x place) database name := by
  have hfiles := hindexes.holdsFiles
  rcases hfiles.readTable_clear hplain hfolder (Path.join database name) with
    hread | hinside | ⟨fault, hread, hdata⟩
  · refine readAlike_of_readTable rfl hread fun library himports => hfiles.find_clear ?_
    rintro ⟨other, text, hother, hlocate, -⟩
    obtain ⟨v, similar, items, item, hv, hitem⟩ := himports
    exact hlibraries library other ⟨v, similar, items, item, hread.eq_ok hv, hitem⟩
      (hfiles.locate_clear_iff.1 hlocate) hother
  · -- an index in place of a table would have ended the run
    obtain ⟨part, similar, hread⟩ := hindexes.exists_index hinside
    have hreading : tableReading x database name = .error .missingMember := by
      rw [tableReading, hread, ok_bind]
      dsimp only
      rw [tableFacts_document]
      rfl
    cases hfault _ hreading
  · have hreading : tableReading x database name = .error fault := by
      rw [tableReading, hread]
      rfl
    rw [hfault _ hreading] at hdata
    cases hdata

/-- Whether no library that is imported for the index of a table lies in a folder. -/
def LibrariesOutside (w : World) (place : Location) (database table : String)
    (markup : Option String) : Prop :=
  ∀ name, Reached (IsRoot w database table markup) (Imports w database) name →
    ∀ library other, ImportsLibrary w database name library →
      w.store.locate library = .ok other → ¬Store.Inside place other

/-- **An index does not depend on other indexes.** If the index of a table can be made while a folder
that is spared holds some indexes, the same index is made without them. -/
theorem exec_indexFor_clear {part : IndexPart} (hsound : i.world.store.Sound)
    (hfolder : i.world.store.entry? place = some .folder)
    (hindexes : i.world.store.HoldsIndexes place)
    (hspares : Spares i.world.store place database markup)
    (hlibraries : LibrariesOutside (clear i.world place) place database table markup)
    (h : (indexFor database table markup).exec i = some (.ok part, i')) :
    (indexFor database table markup).exec { i with world := clear i.world place } =
      some (.ok part, { i' with world := clear i.world place }) := by
  obtain ⟨visited, _, hvisits, ⟨⟩⟩ := Routine.exec_bind_eq_ok.1 h
  obtain ⟨roots, s, hroots, hvisited, hwaiting, -⟩ := visited_of_exec_visits hvisits
  refine exec_indexFor_of_alike h (startsAlike_clear hsound hindexes.holdsFiles hspares)
    fun name hreached hreached' => ?_
  obtain ⟨v, hv, rfl⟩ := List.mem_map.1 ((hvisited.mem_iff hwaiting hroots name).2 hreached)
  exact readAlike_clear hsound.named.hasPlainNames hfolder hindexes (hvisited.sound v hv)
    (hlibraries v.1 hreached')

/-! ### A folder with tables from before -/

/-- Indexing starts alike after a folder was emptied that is spared. -/
theorem startsAlike_emptied {other : Location} (hsound : y.store.Sound)
    (hspares : Spares y.store place database markup) (hempty : y.store.Emptied place x.store)
    (hshares : x.store.SharesFolder y.store database other) : StartsAlike x y database markup := by
  have hmarkup {path : String} (hpath : markup = some path) (hne : path ≠ "") (other : Location)
      (hother : y.store.locate (Path.absolute y.store.cwd path) = .ok other) :
      Store.Apart place other := by
    subst hpath
    exact hspares.locate_markup hne hsound.cwd hother
  constructor
  · exact builtinTable?_alike (.of_eq hshares.names.symm)
  · intro path hpath hne
    exact hempty.findFiles hsound.cwd (hmarkup hpath hne) "xml"
  · intro path files file hpath hne hfiles hfile
    rw [hempty.findFiles hsound.cwd (hmarkup hpath hne)] at hfiles
    exact markupTable?_alike (hempty.find_alike_of_mem hsound (hmarkup hpath hne) hfiles hfile)

/-- **An index does not depend on what was in a folder.** If the index of a table can be made after a
folder was emptied that is spared, the same index is made before that, as long as no name that is
reached has slashes and libraries are found alike. -/
theorem exec_indexFor_emptied {part : IndexPart} (hframework : y.framework = i.world.framework)
    (hsound : y.store.Sound) (hnamed : i.world.store.WellNamed)
    (hspares : Spares y.store place database markup)
    (hempty : y.store.Emptied place i.world.store)
    (hreached : ∀ name, Reached (IsRoot i.world database table markup) (Imports i.world database) name →
      Path.IsPlain name.toList ∧ ∀ library, ImportsLibrary i.world database name library →
        Alike (i.world.store.find library) (y.store.find library))
    (h : (indexFor database table markup).exec i = some (.ok part, i')) :
    (indexFor database table markup).exec { i with world := y } =
      some (.ok part, { i' with world := y }) := by
  obtain ⟨listed, hlisted⟩ : ∃ listed, i.world.store.names database = .ok listed := by
    obtain ⟨visited, _, hvisits, ⟨⟩⟩ := Routine.exec_bind_eq_ok.1 h
    obtain ⟨⟨⟩, i₀, hroots, -⟩ := Routine.exec_bind_eq_ok.1 hvisits
    exact exists_names_of_exec_addRoots hroots
  obtain ⟨other, hother, hfolder, -⟩ := Store.names_eq_ok hlisted
  have hapart := hspares.database other
    (Store.locate_of_keepsFolders hempty.keeps.keepsFolders hother)
  have hshares := hempty.sharesFolder hapart hother hfolder
  refine exec_indexFor_of_alike h (startsAlike_emptied hsound hspares hempty hshares)
    fun name hname _ => ?_
  obtain ⟨hplain, hlibraries⟩ := hreached name hname
  exact readAlike_of_readTable hframework (hshares.readTable_alike hnamed hplain) hlibraries

end Indexing

end KeywordCatalog
