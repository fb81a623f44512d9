import KeywordCatalog.Proofs.Index.Ending
import KeywordCatalog.Proofs.Store.Outside

/-!
# What an index depends on

An index is made of what is read of its tables. It is the same in two worlds if indexing starts alike
in them and the tables that can be reached are read alike (`Indexing.exec_indexFor_of_alike`); and a
table is read alike if its document is, and if the libraries that it imports are found alike. What a
library has for keywords has no part in this, only what it is called.
-/

namespace KeywordCatalog

open Outcome

/-! ### Tables -/

namespace Store

variable {s s' : Store} {place : Location} {path text : String}

/-- The file of a folder with some names that is similar to a path; of several the last. -/
def pickSimilar (path : String) (names : List String) : Except Fault String :=
  match (names.filter fun name =>
    (Text.cutAt '-' (Path.nameChars path.toList)).1.isPrefixOf name.toList).getLast? with
  | some name => .ok (Path.join (Path.parent path) name)
  | none => .error (.refused (.noSimilarTable path))

theorem similarTable_eq : s.similarTable path =
    (if s.has (Path.parent path) then s.names (Path.parent path) else .ok []) >>=
      pickSimilar path := by
  unfold similarTable
  dsimp only
  split <;> rfl

theorem similarTable_alike (hhas : s.has (Path.parent path) = s'.has (Path.parent path))
    (hnames : Alike (s.names (Path.parent path)) (s'.names (Path.parent path))) :
    Alike (s.similarTable path) (s'.similarTable path) := by
  rw [similarTable_eq, similarTable_eq, hhas]
  split
  · exact hnames.bind fun _ _ => .refl _
  · exact .refl _

theorem readTable_of_read (h : s.read path = .ok text) :
    s.readTable path = (Value.parse text).map (·, false) := by
  rw [readTable, h]
  dsimp only
  cases Value.parse text <;> rfl

/-- What is read in place of a table that is not there. -/
def readSimilar (s : Store) (path : String) : Except Fault (Value × Bool) :=
  s.similarTable path >>= fun other => (s.readDocument other).map (·, true)

theorem readTable_of_storage {fault : Fault} (h : s.read path = .error fault)
    (hfault : fault.isStorage = true) : s.readTable path = s.readSimilar path := by
  rw [readTable, h, readSimilar]
  dsimp only
  rw [if_pos hfault]
  cases s.similarTable path with
  | error => rfl
  | ok other =>
    simp only [ok_bind]
    cases s.readDocument other <;> rfl

/-- Tables are read alike if their files are, and what stands in for missing ones. -/
theorem readTable_alike (hread : Alike (s.read path) (s'.read path))
    (hsimilar : ∀ fault, s.read path = .error fault → fault.isStorage = true →
      Alike (s.readSimilar path) (s'.readSimilar path)) :
    Alike (s.readTable path) (s'.readTable path) := by
  cases hs : s.read path with
  | ok text =>
    rw [readTable_of_read hs, readTable_of_read (hread.eq_ok hs)]
    exact .refl _
  | error f =>
    rw [hs] at hread
    cases hs' : s'.read path with
    | ok text =>
      rw [hs'] at hread
      cases hread
    | error g =>
      rw [hs'] at hread
      obtain ⟨hdata, hstorage⟩ : f.isData = g.isData ∧ f.isStorage = g.isStorage := by
        cases hread with
        | error hdata hstorage => exact ⟨hdata, hstorage⟩
      cases hf : f.isStorage with
      | true =>
        rw [readTable_of_storage hs hf, readTable_of_storage hs' (hstorage ▸ hf)]
        exact hsimilar f hs hf
      | false =>
        have hg : g.isStorage = false := hstorage ▸ hf
        simp only [readTable, hs, hs', hf, hg]
        exact .error hdata hstorage

end Store

/-! ### Libraries -/

namespace World

variable {x y : World} {library : String}

theorem faultOf_attributeFile (name : String) (found : Attribute) :
    faultOf (x.attributeFile name found) = faultOf (y.attributeFile name found) := by
  unfold attributeFile
  split
  · simp
  · split
    · split <;> simp
    · split <;> simp
  · rfl
  · rfl
  · rfl

theorem faultOf_keywordFile (code : List (String × Attribute)) (function : String) :
    faultOf (x.keywordFile code function) = faultOf (y.keywordFile code function) := by
  unfold keywordFile
  dsimp only
  split
  · exact faultOf_attributeFile _ _
  · rfl

theorem faultOf_libraryKeyword (code : List (String × Attribute)) (named : List (Value × String))
    (k : KeywordInfo) :
    faultOf (x.libraryKeyword code named k) = faultOf (y.libraryKeyword code named k) := by
  unfold libraryKeyword
  dsimp only
  refine faultOf_bind rfl fun tags tags' _ _ => faultOf_bind rfl fun key key' hkey hkey' => ?_
  rw [hkey] at hkey'
  cases hkey'
  split
  · exact faultOf_bind (faultOf_keywordFile _ _) fun _ _ _ _ => faultOf_bind rfl (by simp)
  · refine faultOf_bind rfl fun name name' hname hname' => ?_
    rw [hname] at hname'
    cases hname'
    exact faultOf_bind (faultOf_keywordFile _ _) (by simp)

/-- The store has no part in whether the keywords of a library can be told. -/
theorem faultOf_codeKeywords (hframework : y.framework = x.framework) (arguments : List Value) :
    faultOf (x.codeKeywords library arguments) = faultOf (y.codeKeywords library arguments) := by
  unfold codeKeywords
  rw [hframework]
  refine faultOf_bind rfl fun query query' hquery hquery' => ?_
  rw [hquery] at hquery'
  cases hquery'
  split
  · rfl
  · refine faultOf_bind rfl fun named named' hnamed hnamed' => ?_
    rw [hnamed] at hnamed'
    cases hnamed'
    refine faultOf_foldlM (fun _ _ k => faultOf_bind (faultOf_libraryKeyword _ _ k) ?_) _ _ _
    simp

theorem readMarkup_alike {path : String} (h : Alike (x.store.find path) (y.store.find path)) :
    Alike (x.readMarkup path) (y.readMarkup path) :=
  (Store.readRaw_alike h).bind fun _ _ => .refl _

theorem markupLibrary_alike {path : String} (h : Alike (x.readMarkup path) (y.readMarkup path)) :
    Alike (x.markupLibrary path) (y.markupLibrary path) := h.bind fun _ _ => .refl _

/-- What a library is called depends on the store only by what is found under its own path. -/
theorem buildLibrary_alike (hframework : y.framework = x.framework)
    (h : Alike (x.store.find library) (y.store.find library)) (arguments : Value) :
    Alike ((x.buildLibrary library arguments).map LibraryTable.moduleName)
      ((y.buildLibrary library arguments).map LibraryTable.moduleName) := by
  unfold buildLibrary
  rw [Store.hasFile_of_alike h]
  cases argumentList arguments with
  | error => exact .error rfl rfl
  | ok given =>
    have hcode : faultOf (x.codeKeywords library given) = faultOf (y.codeKeywords library given) :=
      faultOf_codeKeywords hframework given
    simp only [ok_bind]
    split
    · split
      · simp only [map_bind]
        exact (markupLibrary_alike (readMarkup_alike h)).bind fun _ _ => .ok _
      split
      · simp only [map_bind]
        exact alike_bind_of_faultOf hcode fun _ _ => .ok _
      · exact .error rfl rfl
    · simp only [map_bind]
      exact alike_bind_of_faultOf hcode fun _ _ => .ok _

theorem buildLibraryNamed_alike {library : Value} (hframework : y.framework = x.framework)
    (h : ∀ name, library = .text name → Alike (x.store.find name) (y.store.find name))
    (arguments : Value) :
    Alike ((x.buildLibraryNamed library arguments).map LibraryTable.moduleName)
      ((y.buildLibraryNamed library arguments).map LibraryTable.moduleName) := by
  unfold buildLibraryNamed
  split
  · rename_i name
    exact buildLibrary_alike hframework (h name rfl) arguments
  · rename_i hother
    have hnamed : x.store.hasNamed library = y.store.hasNamed library := by
      unfold Store.hasNamed
      split
      · rename_i name
        exact absurd rfl (hother name)
      · rfl
      · rfl
      · rfl
    rw [hnamed]
    exact .refl _

end World

namespace Indexing

variable {x y : World}

/-- What an import of a library in a table is looked for by. -/
def importedLibrary (v : Value) : Except Fault Value := do
  let path ← v.field "library_path"
  if path.truthy then pure path else v.field "library_name"

theorem libraryTable?_alike {library : Value} (hframework : y.framework = x.framework)
    (h : ∀ name, library = .text name → Alike (x.store.find name) (y.store.find name))
    (arguments : Value) :
    Alike ((libraryTable? x library arguments).map (Option.map LibraryTable.moduleName))
      ((libraryTable? y library arguments).map (Option.map LibraryTable.moduleName)) := by
  have hbuilt := World.buildLibraryNamed_alike hframework h arguments
  unfold libraryTable?
  cases hx : x.buildLibraryNamed library arguments with
  | ok t => cases hy : y.buildLibraryNamed library arguments with
    | ok t' =>
      rw [hx, hy] at hbuilt
      have hname : t'.moduleName = t.moduleName := Except.ok.inj (hbuilt.eq_ok rfl)
      simp only [Except.map, Option.map_some, hname]
      exact .ok _
    | error g =>
      rw [hx, hy] at hbuilt
      cases hbuilt
  | error f => cases hy : y.buildLibraryNamed library arguments with
    | ok t' =>
      rw [hx, hy] at hbuilt
      cases hbuilt
    | error g =>
      rw [hx, hy] at hbuilt
      obtain ⟨hdata, hstorage⟩ : f.isData = g.isData ∧ f.isStorage = g.isStorage := by
        cases hbuilt with
        | error hdata hstorage => exact ⟨hdata, hstorage⟩
      simp only [hdata]
      split
      · exact .ok _
      · exact .error hdata hstorage

/-- The name of the table of a library with a name, and the alias that a table gives it. -/
def entryOf (v : Value) : Option String → Except Fault (Option (String × Value))
  | none => return none
  | some name => do return some (← TableName.ofLibrary name, ← v.field "library_alias")

theorem libraryEntry?_eq (w : World) (v : Value) : libraryEntry? w v =
    importedLibrary v >>= fun library => v.field "library_arguments" >>= fun arguments =>
      (libraryTable? w library arguments).map (Option.map LibraryTable.moduleName) >>= entryOf v := by
  unfold libraryEntry? importedLibrary
  cases v.field "library_path" with
  | error => rfl
  | ok path =>
    simp only [ok_bind]
    split
    all_goals
      refine bind_congr fun library => bind_congr fun arguments => ?_
      rcases libraryTable? w library arguments with _ | _ | t <;> rfl

/-- What an import of a library comes to depends on the store only by what is found under the path
or name of the library. -/
theorem libraryEntry?_alike {v : Value} (hframework : y.framework = x.framework)
    (h : ∀ name, importedLibrary v = .ok (.text name) → Alike (x.store.find name) (y.store.find name)) :
    Alike ( libraryEntry? x v) ( libraryEntry? y v) := by
  rw [libraryEntry?_eq, libraryEntry?_eq]
  refine (Alike.refl _).bind fun library hlibrary => (Alike.refl _).bind fun arguments _ => ?_
  have hfound : ∀ name, library = .text name → Alike (x.store.find name) (y.store.find name) :=
    fun name hname => h name (hname ▸ hlibrary)
  exact (libraryTable?_alike hframework hfound arguments).bind fun _ _ => .refl _

/-- The imports of libraries in the document of a table. -/
def librarySettings (v : Value) : Except Fault (List Value) := v.field "libraries" >>= Value.elements

theorem readLibraries_alike {items : List Value}
    (h : ∀ v ∈ items, Alike ( libraryEntry? x v) ( libraryEntry? y v)) :
    (readLibraries x items).1 = (readLibraries y items).1 ∧
      ((readLibraries x items).2 = none ∧ (readLibraries y items).2 = none ∨
        ∃ f g : Fault, (readLibraries x items).2 = some f ∧ (readLibraries y items).2 = some g ∧
          f.isData = g.isData ∧ f.isStorage = g.isStorage) := by
  induction items with
  | nil => exact ⟨rfl, Or.inl ⟨rfl, rfl⟩⟩
  | cons v rest ih =>
    obtain ⟨hv, hrest⟩ := List.forall_mem_cons.1 h
    obtain ⟨hentries, hfault⟩ := ih hrest
    unfold readLibraries
    generalize libraryEntry? x v = entry at hv
    generalize libraryEntry? y v = entry' at hv
    cases hv with
    | error hdata hstorage => exact ⟨rfl, Or.inr ⟨_, _, rfl, rfl, hdata, hstorage⟩⟩
    | ok found =>
      cases found with
      | none => exact ⟨hentries, hfault⟩
      | some entry => exact ⟨by simp only [hentries], hfault⟩

theorem importNames_alike {v : Value} (h : ∀ items, librarySettings v = .ok items →
      ∀ item ∈ items, Alike ( libraryEntry? x item) ( libraryEntry? y item)) :
    (libraryEntries x v).1 = (libraryEntries y v).1 ∧
      Alike (importNames x v) (importNames y v) := by
  unfold importNames libraryEntries
  rcases v.has "libraries" with fault | _ | _
  · exact ⟨rfl, .refl _⟩
  · exact ⟨rfl, .refl _⟩
  · dsimp only
    cases hitems : v.field "libraries" >>= Value.elements with
    | error fault => exact ⟨rfl, .refl _⟩
    | ok items =>
      obtain ⟨hentries, hfault⟩ := readLibraries_alike (h items hitems)
      dsimp only
      generalize readLibraries x items = read at hentries hfault
      generalize readLibraries y items = read' at hentries hfault
      obtain ⟨entries, fault?⟩ := read
      obtain ⟨entries', fault'?⟩ := read'
      obtain rfl : entries = entries' := hentries
      refine ⟨rfl, ?_⟩
      rcases hfault with ⟨rfl, rfl⟩ | ⟨f, g, rfl, rfl, hdata, hstorage⟩
      · exact .refl _
      · exact .error hdata hstorage

/-! ### Worlds in which tables are read alike -/

variable {i i' : Index} {database name table : String} {markup : Option String}

/-- Whether a table is read alike in two worlds. -/
structure ReadAlike (x y : World) (database name : String) : Prop where
  reading : Alike (tableReading x database name) (tableReading y database name)
  aliases : tableAliases x database name = tableAliases y database name

/-- Whether a table is read and imports a library by a path or a name. -/
def ImportsLibrary (w : World) (database name library : String) : Prop :=
  ∃ v similar items item, w.store.readTable (Path.join database name) = .ok (v, similar) ∧
    librarySettings v = .ok items ∧ item ∈ items ∧ importedLibrary item = .ok (.text library)

theorem readAlike_of_readTable (hframework : y.framework = x.framework)
    (hread : Alike (x.store.readTable (Path.join database name))
      (y.store.readTable (Path.join database name)))
    (hlibraries : ∀ library, ImportsLibrary x database name library →
      Alike (x.store.find library) (y.store.find library)) :
    ReadAlike x y database name := by
  have himports {v : Value} {similar : Bool}
      (hv : x.store.readTable (Path.join database name) = .ok (v, similar)) :=
    importNames_alike fun items hitems item hitem =>
      libraryEntry?_alike hframework fun library hlibrary =>
        hlibraries library ⟨v, similar, items, item, hv, hitems, hitem, hlibrary⟩
  constructor
  · exact hread.bind fun ⟨v, similar⟩ hv => (Alike.refl _).bind fun facts _ =>
      (himports hv).2.bind fun _ _ => .refl _
  · unfold tableAliases
    cases hv : x.store.readTable (Path.join database name) with
    | error fault =>
      obtain ⟨other, hother, -⟩ := hread.eq_error hv
      rw [hother]
    | ok read =>
      obtain ⟨v, similar⟩ := read
      rw [hread.eq_ok hv]
      dsimp only
      split
      · rfl
      · exact (himports hv).1

/-- What a table contributes does not depend on the world as long as the table is read alike. -/
theorem exec_indexTable_of_alike {part : IndexPart} (hread : ReadAlike i.world y database name)
    (h : (indexTable database name).exec i = some (.ok part, i')) :
    (indexTable database name).exec { i with world := y } =
      some (.ok part, { i' with world := y }) := by
  refine exec_indexTable_eq_ok.2 ?_
  rcases exec_indexTable_eq_ok.1 h with
    ⟨facts, names, queue, hok, hfinish, rfl, rfl⟩ | ⟨fault, hdata, herror, rfl, rfl⟩
  · refine Or.inl ⟨facts, names, queue, hread.reading.eq_ok hok, hfinish, rfl, ?_⟩
    rw [hread.aliases]
  · obtain ⟨other, hother, hsame⟩ := hread.reading.eq_error herror
    refine Or.inr ⟨other, hsame.trans hdata, hother, rfl, ?_⟩
    rw [hread.aliases]

theorem exec_indexItem_of_alike {item : Value × Work} {part : IndexPart}
    (hread : ReadAlike i.world y database name)
    (h : (indexItem database item).exec i = some (.ok (name, part), i')) :
    (indexItem database item).exec { i with world := y } =
      some (.ok (name, part), { i' with world := y }) := by
  obtain ⟨hname, htable⟩ := exec_indexItem_eq_ok.1 h
  exact exec_indexItem_eq_ok.2 ⟨hname, exec_indexTable_of_alike hread htable⟩

/-- The rounds of indexing are the same in a world in which their tables are read alike. -/
theorem rounds_of_alike {log : List ((Value × Work) × String × IndexPart)}
    (h : Routine.Rounds takeItem (indexItem database) i log i')
    (hread : ∀ e ∈ log, ReadAlike i.world y database e.2.1) :
    Routine.Rounds takeItem (indexItem database) { i with world := y } log
      { i' with world := y } := by
  induction h with
  | start i => exact .start _
  | @round i i₁ i₂ i₃ item read log htake hwork _ ih =>
    obtain ⟨name, part⟩ := read
    obtain ⟨queue, htaken, rfl⟩ := exec_takeItem_eq_ok.1 htake
    obtain ⟨hfirst, hrest⟩ := List.forall_mem_cons.1 hread
    have hworld : i₂.world = i.world := (tableRead_of_exec (exec_indexItem_eq_ok.1 hwork).2).world
    have hwork' := exec_indexItem_of_alike (i := { i with queue }) hfirst hwork
    exact .round (exec_takeItem_eq_ok.2 ⟨queue, htaken, rfl⟩) hwork' (ih (by rwa [hworld]))

/-- Whether indexing starts alike in two worlds. -/
structure StartsAlike (x y : World) (database : String) (markup : Option String) : Prop where
  builtin : Alike (x.store.builtinTable? database) (y.store.builtinTable? database)
  files : ∀ path, markup = some path → path ≠ "" →
    x.store.findFiles path "xml" = y.store.findFiles path "xml"
  markup : ∀ path files file, markup = some path → path ≠ "" →
    x.store.findFiles path "xml" = .ok files → file ∈ files →
    Alike (markupTable? x file) (markupTable? y file)

theorem exec_addFound_of_alike {found found' : Except Fault (Option String)}
    (hfound : Alike found found') (h : (addFound found).exec i = some (.ok (), i')) :
    (addFound found').exec { i with world := y } = some (.ok (), { i' with world := y }) := by
  obtain ⟨name?, hname, rfl⟩ := exec_addFound_eq_ok.1 h
  exact exec_addFound_eq_ok.2 ⟨name?, hfound.eq_ok hname, rfl⟩

theorem exec_addMarkupTables_of_alike {files : List String}
    (hfiles : ∀ file ∈ files, Alike (markupTable? i.world file) (markupTable? y file))
    (h : (files.forM fun file => do addFound (markupTable? (← get).world file) :
      Indexing Unit).exec i = some (.ok (), i')) :
    (files.forM fun file => do addFound (markupTable? (← get).world file) :
      Indexing Unit).exec { i with world := y } = some (.ok (), { i' with world := y }) := by
  induction files generalizing i with
  | nil =>
    cases h
    rfl
  | cons file rest ih =>
    obtain ⟨hfile, hrest⟩ := List.forall_mem_cons.1 hfiles
    obtain ⟨⟨⟩, i₁, hfirst, hlater⟩ := Routine.exec_bind_eq_ok.1 h
    rw [Routine.exec_bind, Routine.exec_get] at hfirst
    have hworld : i₁.world = i.world := by
      obtain ⟨name?, -, rfl⟩ := exec_addFound_eq_ok.1 hfirst
      rfl
    refine Routine.exec_bind_eq_ok.2 ⟨(), { i₁ with world := y }, ?_, ih (by rwa [hworld]) hlater⟩
    rw [Routine.exec_bind, Routine.exec_get]
    exact exec_addFound_of_alike hfile hfirst

theorem exec_addMarkup_of_alike (hstart : StartsAlike i.world y database markup)
    (h : (addMarkup markup).exec i = some (.ok (), i')) :
    (addMarkup markup).exec { i with world := y } = some (.ok (), { i' with world := y }) := by
  cases markup with
  | none =>
    cases h
    rfl
  | some path =>
    rw [addMarkup] at h ⊢
    split
    · rename_i hempty
      rw [if_pos hempty] at h
      cases h
      rfl
    · rename_i hempty
      have hne : path ≠ "" := by simpa using hempty
      rw [if_neg hempty] at h
      unfold addMarkupLibraries at h ⊢
      rw [Routine.exec_bind, Routine.exec_get, Option.bind_some] at h ⊢
      simp only [Routine.exec_lift_bind, ← hstart.files path rfl hne] at h ⊢
      cases hfiles : i.world.store.findFiles path "xml" with
      | error fault =>
        rw [hfiles] at h
        cases h
      | ok files =>
        rw [hfiles] at h
        exact exec_addMarkupTables_of_alike
          (fun file hfile => hstart.markup path files file rfl hne hfiles hfile) h

theorem exec_addRoots_of_alike (hstart : StartsAlike i.world y database markup)
    (h : (addRoots database table markup).exec i = some (.ok (), i')) :
    (addRoots database table markup).exec { i with world := y } =
      some (.ok (), { i' with world := y }) := by
  obtain ⟨⟨⟩, i₁, ⟨⟩, h⟩ := Routine.exec_bind_eq_ok.1 h
  obtain ⟨⟨⟩, i₂, ⟨⟩, h⟩ := Routine.exec_bind_eq_ok.1 h
  obtain ⟨⟨⟩, i₃, hbuiltin, hmarkup⟩ := Routine.exec_bind_eq_ok.1 h
  rw [addBuiltin, Routine.exec_bind, Routine.exec_get] at hbuiltin
  have hworld : i₃.world = i.world := by
    obtain ⟨name?, -, rfl⟩ := exec_addFound_eq_ok.1 hbuiltin
    rfl
  refine Routine.exec_bind_eq_ok.2 ⟨(), _, rfl, Routine.exec_bind_eq_ok.2 ⟨(), _, rfl,
    Routine.exec_bind_eq_ok.2 ⟨(), { i₃ with world := y }, ?_,
      exec_addMarkup_of_alike (hworld ▸ hstart) hmarkup⟩⟩⟩
  rw [addBuiltin, Routine.exec_bind, Routine.exec_get]
  exact exec_addFound_of_alike hstart.builtin hbuiltin

theorem StartsAlike.isRoot (hstart : StartsAlike x y database markup)
    (h : IsRoot x database table markup name) : IsRoot y database table markup name := by
  rcases h with hself | hbuiltin | ⟨path, files, file, hpath, hne, hfiles, hfile, htable⟩
  · exact Or.inl hself
  · exact Or.inr (Or.inl (hstart.builtin.eq_ok hbuiltin))
  · refine Or.inr (Or.inr ⟨path, files, file, hpath, hne, ?_, hfile, ?_⟩)
    · rw [← hstart.files path hpath hne, hfiles]
    · exact (hstart.markup path files file hpath hne hfiles hfile).eq_ok htable

/-- What is reached in a world is reached in another one if the tables on the way are read alike. -/
theorem reached_of_alike (hstart : StartsAlike x y database markup)
    (hread : ∀ name, Reached (IsRoot x database table markup) (Imports x database) name →
      Reached (IsRoot y database table markup) (Imports y database) name → ReadAlike x y database name)
    (h : Reached (IsRoot x database table markup) (Imports x database) name) :
    Reached (IsRoot y database table markup) (Imports y database) name := by
  induction h with
  | root hroot => exact .root (hstart.isRoot hroot)
  | @lead name other hname hleads ih =>
    -- the table above is reached in both worlds, so its imports are the same
    obtain ⟨facts, names, hfacts, hother⟩ := hleads
    exact .lead ih ⟨facts, names, (hread name hname ih).reading.eq_ok hfacts, hother⟩

/-- **An index depends on what its tables are read as.** If the index of a table can be made in a
world, the same index is made in every world in which indexing starts alike and in which the tables
that can be reached are read alike. -/
theorem exec_indexFor_of_alike {part : IndexPart}
    (h : (indexFor database table markup).exec i = some (.ok part, i'))
    (hstart : StartsAlike i.world y database markup)
    (hread : ∀ name, Reached (IsRoot i.world database table markup) (Imports i.world database) name →
      Reached (IsRoot y database table markup) (Imports y database) name →
      ReadAlike i.world y database name) :
    (indexFor database table markup).exec { i with world := y } =
      some (.ok part, { i' with world := y }) := by
  obtain ⟨visited, _, hvisits, ⟨⟩⟩ := Routine.exec_bind_eq_ok.1 h
  obtain ⟨roots, s, hnames, hvisited, hwaiting, -⟩ := visited_of_exec_visits hvisits
  obtain ⟨⟨⟩, i₀, hroots, hitems⟩ := Routine.exec_bind_eq_ok.1 hvisits
  obtain ⟨log, _, hdrain, ⟨⟩⟩ := Routine.exec_bind_eq_ok.1 hitems
  obtain ⟨i₂, hrounds, hend⟩ := Routine.exists_rounds_of_exec_drain hdrain
  have hworld : i₀.world = i.world := by
    obtain ⟨names, -, rfl⟩ := exec_addRoots_eq_ok hroots
    rfl
  -- the tables of the rounds are reached, so they are read alike and the rounds can be gone again
  have hrounds' := rounds_of_alike hrounds (y := y) fun e he => by
    rw [hworld]
    have hreached := (hvisited.mem_iff hwaiting hnames _).1
      (List.mem_map_of_mem (List.mem_map_of_mem he))
    exact hread _ hreached (reached_of_alike hstart hread hreached)
  refine Routine.exec_bind_eq_ok.2 ⟨_, _, Routine.exec_bind_eq_ok.2 ⟨(), _,
    exec_addRoots_of_alike hstart hroots, Routine.exec_bind_eq_ok.2 ⟨log, _,
      Routine.exec_drain_eq_ok_iff.2 ⟨_, hrounds', ?_⟩, rfl⟩⟩, rfl⟩
  obtain ⟨queue, htaken, rfl⟩ := exec_takeItem_eq_ok.1 hend
  exact exec_takeItem_eq_ok.2 ⟨queue, htaken, rfl⟩

end Indexing

end KeywordCatalog
