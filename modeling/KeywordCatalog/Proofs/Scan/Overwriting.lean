import KeywordCatalog.Proofs.Scan.Rescan

/-!
# Tables that share a file

Tables are files of the database, and the last one that is written to a file is the one that stays.
A file has the name of the subject of its table (`Table.subject`): the path of a suite, resource or
variable file, and the module of a library. So as long as digests are told apart, a table is only
overwritten by a table of the same subject (`Scanning.scanWith_keeps_last`). Files have paths of
their own, but a module is not told from another one of the same name in another folder.
-/

namespace KeywordCatalog

open Routine

/-- What a table is about, and told from others by. -/
def Table.subject : Table → String
  | .robot t => t.filePath
  | .variableFile t => t.filePath
  | .library t => t.moduleName

theorem Table.exists_shown {t : Table} {name : String} (h : t.fileName = .ok name) :
    ∃ shown, TableName.compose shown t.subject = name := by
  cases t with
  | robot t => exact ⟨_, (TableName.ofPath_eq_ok.1 h).2⟩
  | variableFile t => exact ⟨_, (TableName.ofPath_eq_ok.1 h).2⟩
  | library t => exact ⟨_, TableName.compose_of_ofLibrary h⟩

/-- The last name of a table's name shows less of the same subject. -/
theorem TableName.exists_name_compose (shown : List Char) (whole : String) :
    ∃ shown', Path.name (compose shown whole) = compose shown' whole := by
  have hslash : '/' ∉ "-".toList ++ ((digest whole).toList ++ ".json".toList) := by
    simp [slash_notMem_digest]
  obtain ⟨front, hends, hfront⟩ := Path.exists_append_nameChars shown
  refine ⟨Path.nameChars shown, String.toList_injective ?_⟩
  have hchars : (compose shown whole).toList =
      front ++ (Path.nameChars shown ++ ("-".toList ++ ((digest whole).toList ++ ".json".toList))) := by
    simp only [compose, String.toList_append, String.toList_ofList, ← List.append_assoc, ← hfront]
  rw [Path.name, String.toList_ofList, hchars, Path.nameChars_append hends]
  · simp [compose]
  · rw [List.mem_append, not_or]
    exact ⟨Path.not_mem_nameChars shown, hslash⟩

namespace World

variable {w : World} {key : Value} {work : Work} {t : Table}

/-- What the table of an item is about. A file is known by its path. A library in a file is known by
the name that its description gives, or by the name of the file of code, and any other library by its
own name. -/
inductive IsAbout (w : World) (work : Work) : Value → String → Prop
  | file {path : String} : work.kind ≠ .library → IsAbout w work (.text path) (w.tidy path)
  | description {path name : String} {root : Markup.Element} :
    work.kind = .library → w.store.hasFile path = true → endsWith path ".xml" = true →
      w.readMarkup path = .ok root → root.attribute? "name" = some name →
      IsAbout w work (.text path) name
  | code {path : String} :
    work.kind = .library → w.store.hasFile path = true → endsWith path ".py" = true →
      IsAbout w work (.text path) (Path.stem (Path.name path))
  | module {name : String} :
    work.kind = .library → w.store.hasFile name = false → IsAbout w work (.text name) name

theorem needAttribute_eq_ok {e : Markup.Element} {name value : String} :
    needAttribute e name = .ok value ↔ e.attribute? name = some value := by
  unfold needAttribute
  split <;> simp_all

theorem name_of_markupLibrary {path name : String} {keywords : List (String × LibraryKeyword)}
    (h : w.markupLibrary path = .ok (name, keywords)) :
    ∃ root, w.readMarkup path = .ok root ∧ root.attribute? "name" = some name := by
  obtain ⟨root, hroot, h⟩ := Outcome.bind_eq_ok.1 h
  refine ⟨root, hroot, needAttribute_eq_ok.1 ?_⟩
  split at h
  · obtain ⟨name', hname, h⟩ := Outcome.bind_eq_ok.1 h
    obtain ⟨keywords', -, h⟩ := Outcome.bind_eq_ok.1 h
    cases h
    exact hname
  · obtain ⟨_, -, h⟩ := Outcome.bind_eq_ok.1 h
    cases h

theorem isAbout_of_buildLibrary {library : String} {arguments : Value} {l : LibraryTable}
    (hkind : work.kind = .library) (h : w.buildLibrary library arguments = .ok l) :
    IsAbout w work (.text library) l.moduleName := by
  obtain ⟨given, -, h⟩ := Outcome.bind_eq_ok.1 h
  split at h
  · rename_i hfile
    dsimp only at h
    split at h
    · rename_i hending
      obtain ⟨⟨name, keywords⟩, hmarkup, h⟩ := Outcome.bind_eq_ok.1 h
      obtain ⟨root, hroot, hname⟩ := name_of_markupLibrary hmarkup
      rw [← Except.ok.inj h]
      exact .description hkind hfile hending hroot hname
    split at h
    · rename_i hending
      obtain ⟨keywords, -, h⟩ := Outcome.bind_eq_ok.1 h
      rw [← Except.ok.inj h]
      exact .code hkind hfile hending
    · cases h
  · rename_i hfile
    obtain ⟨keywords, -, h⟩ := Outcome.bind_eq_ok.1 h
    rw [← Except.ok.inj h]
    exact .module hkind (by simpa using hfile)

theorem isAbout_of_buildTable (h : w.buildTable key work = .ok t) : IsAbout w work key t.subject := by
  cases builds_of_buildTable h with
  | robot hkind _ hholds =>
    rw [Table.subject, hholds.filePath]
    exact .file hkind
  | library hkind hbuilt => exact isAbout_of_buildLibrary hkind hbuilt
  | variableFile hkind hpath =>
    rw [Table.subject, hpath]
    exact .file (by simp [hkind])

end World

namespace Scanning

variable {source : TableSource} {workspace extension database : String} {markup : Option String}
  {w v : World} {s s₁ s' : Scan} {t t' : Table} {place : Location}
  {log : List ((Value × Work) × Except Fault Table)}

/-- Where a table goes: its file name leads there from the database. -/
def placeOf (s : Store) (database : String) (t : Table) : Except Fault Location := do
  s.locate (Path.join database (← t.fileName))

/-- The tables that were built. -/
def tablesOf (log : List ((Value × Work) × Except Fault Table)) : List Table :=
  log.filterMap fun e => e.2.toOption

/-- The last one of some tables that goes to a place. -/
def lastAt (s : Store) (database : String) (place : Location) (tables : List Table) : Option Table :=
  (tables.filter fun t => placeOf s database t = .ok place).getLast?

theorem lastAt_concat (s : Store) (tables : List Table) :
    lastAt s database place (tables ++ [t]) =
      if placeOf s database t = .ok place then some t else lastAt s database place tables := by
  rw [lastAt, List.filter_append]
  split
  · rename_i ht
    simp [ht]
  · rename_i ht
    simp [ht, lastAt]

theorem placeOf_eq_ok {s : Store} : placeOf s database t = .ok place ↔
    ∃ name, t.fileName = .ok name ∧ s.locate (Path.join database name) = .ok place :=
  Outcome.bind_eq_ok

/-- Tables that go to one place have subjects with one digest. -/
theorem digest_subject_of_placeOf {s : Store} (h : placeOf s database t = .ok place)
    (h' : placeOf s database t' = .ok place) : digest t.subject = digest t'.subject := by
  obtain ⟨name, hname, hplace⟩ := placeOf_eq_ok.1 h
  obtain ⟨name', hname', hplace'⟩ := placeOf_eq_ok.1 h'
  obtain ⟨folder, hlast⟩ := Store.locate_concat (isPlain_of_fileName hname) hplace
  obtain ⟨folder', hlast'⟩ := Store.locate_concat (isPlain_of_fileName hname') hplace'
  obtain ⟨shown, rfl⟩ := Table.exists_shown hname
  obtain ⟨shown', rfl⟩ := Table.exists_shown hname'
  rw [Store.name_join] at hlast hlast'
  obtain ⟨less, hless⟩ := TableName.exists_name_compose shown t.subject
  obtain ⟨less', hless'⟩ := TableName.exists_name_compose shown' t'.subject
  have hnames := congrArg List.getLast? (hlast.symm.trans hlast')
  rw [List.getLast?_concat, List.getLast?_concat, Option.some.injEq, hless, hless'] at hnames
  exact (TableName.compose_eq_iff.1 hnames).2

theorem storedTable_of_placeOf {s : Store} (h : placeOf s database t = .ok place)
    (hfree : s.entry? place ≠ some .folder) (hlevels : t.document.levels ≤ Document.levelLimit) :
    storedTable s database t = .ok (s.put place (.file t.document.render)) := by
  obtain ⟨name, hname, hplace⟩ := placeOf_eq_ok.1 h
  have hwrite : s.write (Path.join database name) t.document.render = .ok _ :=
    (Store.write_eq_ok (isPlain_of_fileName hname)).2 ⟨place, hplace, hfree, rfl⟩
  exact storedTable_eq_ok.2 ⟨name, hname, Store.writeDocument_eq_ok.2 ⟨hwrite, hlevels⟩⟩

/-- A table that cannot be stored has no place. -/
theorem placeOf_of_unstorable (h : Unstorable database t) (s : Store) :
    placeOf s database t ≠ .ok place := by
  obtain ⟨fault, -, hfault⟩ := h
  intro hplace
  obtain ⟨name, hname, hlocate⟩ := placeOf_eq_ok.1 hplace
  rcases hfault with hfault | ⟨name', hname', hfault⟩
  · rw [hname] at hfault
    cases hfault
  · rw [hname] at hname'
    cases hname'
    rw [hfault s] at hlocate
    cases hlocate

/-- Storing a table puts its document at its place and changes nothing else. -/
theorem entry?_of_storedTable {s s' : Store} (h : storedTable s database t = .ok s') :
    s'.entry? place = if placeOf s database t = .ok place then some (.file t.document.render)
      else s.entry? place := by
  obtain ⟨name, hname, hwrite⟩ := storedTable_eq_ok.1 h
  have hplain : Path.IsPlain (Path.name (Path.join database name)).toList := isPlain_of_fileName hname
  obtain ⟨written, hwritten, -, rfl⟩ :=
    (Store.write_eq_ok hplain).1 (Store.writeDocument_eq_ok.1 hwrite).1
  obtain ⟨folder, hlast⟩ := Store.locate_concat hplain hwritten
  have hplace : placeOf s database t = .ok written := placeOf_eq_ok.2 ⟨name, hname, hwritten⟩
  by_cases hsame : place = written
  · subst hsame
    rw [if_pos hplace, Store.entry?_put_self (by simp [hlast])]
  · rw [Store.entry?_put_of_ne hsame, if_neg]
    rw [hplace]
    exact fun e => hsame (Except.ok.inj e).symm

/-- What a scan that started in a world has written when it stands in another one: the store is as it
was, but for the places of the tables that were built, and each of these holds the last table that
goes there. A table without a place cannot be stored at all. -/
structure Written (source : TableSource) (v : World) (database : String)
    (log : List ((Value × Work) × Except Fault Table)) (u : World) : Prop where
  framework : u.framework = v.framework
  stores : v.store.StoresData u.store
  entry : ∀ place, u.store.entry? place =
    (lastAt v.store database place (tablesOf log)).elim ( v.store.entry? place)
      fun t => some (.file t.document.render)
  placed : ∀ t ∈ tablesOf log, (∃ place, placeOf v.store database t = .ok place) ∨
    Unstorable database t
  built : ∀ e ∈ log, ∃ u : World, u.framework = v.framework ∧ v.store.StoresData u.store ∧
    e.2 = source u e.1.1 e.1.2

theorem written_start (source : TableSource) (v : World) (database : String) :
    Written source v database [] v := by
  refine ⟨rfl, .refl _, fun place => ?_, ?_, ?_⟩
  · simp [tablesOf, lastAt]
  · simp [tablesOf]
  · simp

theorem tablesOf_concat_ok (item : Value × Work) :
    tablesOf (log ++ [(item, .ok t)]) = tablesOf log ++ [t] := by
  simp [tablesOf, Except.toOption]

theorem tablesOf_concat_error (item : Value × Work) (fault : Fault) :
    tablesOf (log ++ [(item, .error fault)]) = tablesOf log := by
  simp [tablesOf, Except.toOption]

theorem placeOf_congr {s s' : Store} (h : s.AlikeButData s') :
    placeOf s' database t = .ok place ↔ placeOf s database t = .ok place := by
  simp only [placeOf_eq_ok, h.locate_iff]

section Round

variable {u u' : World} {item : Value × Work} {built : Except Fault Table}

theorem Written.built_concat (h : Written source v database log u)
    (hbuilt : built = source u item.1 item.2) :
    ∀ e ∈ log ++ [(item, built)], ∃ u : World, u.framework = v.framework ∧
      v.store.StoresData u.store ∧ e.2 = source u e.1.1 e.1.2 := by
  intro e he
  rcases List.mem_append.1 he with he | he
  · exact h.built e he
  · rw [List.mem_singleton] at he
    subst he
    exact ⟨u, h.framework, h.stores, hbuilt⟩

/-- A table that is stored becomes the last one at its place. -/
theorem Written.store {store : Store} (h : Written source v database log u)
    (hbuilt : .ok t = source u item.1 item.2) (hstored : storedTable u.store database t = .ok store) :
    Written source v database (log ++ [(item, .ok t)]) { u with store } := by
  obtain ⟨name, hname, hwrite⟩ := storedTable_eq_ok.1 hstored
  obtain ⟨place₀, hplace₀, -, -⟩ :=
    (Store.write_eq_ok (isPlain_of_fileName hname)).1 (Store.writeDocument_eq_ok.1 hwrite).1
  refine ⟨h.framework, h.stores.trans (storesData_of_storedTable hstored), fun place => ?_,
    fun t' ht' => ?_, h.built_concat hbuilt⟩
  · rw [entry?_of_storedTable hstored, tablesOf_concat_ok, lastAt_concat, h.entry]
    by_cases hplace : placeOf v.store database t = .ok place
    · rw [if_pos hplace, if_pos ((placeOf_congr h.stores.alike).2 hplace)]
      rfl
    · rw [if_neg hplace, if_neg fun e => hplace ((placeOf_congr h.stores.alike).1 e)]
  · rw [tablesOf_concat_ok, List.mem_append, List.mem_singleton] at ht'
    rcases ht' with ht' | rfl
    · exact h.placed t' ht'
    · exact Or.inl ⟨place₀, (placeOf_congr h.stores.alike).1 (placeOf_eq_ok.2 ⟨name, hname, hplace₀⟩)⟩

/-- A fault in the data leaves everything as it is. -/
theorem Written.spare {fault : Fault} (h : Written source v database log u)
    (hbuilt : built = source u item.1 item.2) (hdata : fault.isData = true)
    (hstored : (built >>= storedTable u.store database) = .error fault) :
    Written source v database (log ++ [(item, built)]) u := by
  cases built with
  | error fault' =>
    refine ⟨h.framework, h.stores, ?_, ?_, h.built_concat hbuilt⟩
    · rw [tablesOf_concat_error]
      exact h.entry
    · rw [tablesOf_concat_error]
      exact h.placed
  | ok t =>
    -- a fault of the data in storing is one of the file name, so the table has no place anywhere
    obtain ⟨hnone, -⟩ := unstorable_of_storedTable hstored hdata
    refine ⟨h.framework, h.stores, fun place => ?_, fun t' ht' => ?_, h.built_concat hbuilt⟩
    · rw [tablesOf_concat_ok, lastAt_concat, if_neg (placeOf_of_unstorable hnone _), h.entry]
    · rw [tablesOf_concat_ok, List.mem_append, List.mem_singleton] at ht'
      rcases ht' with ht' | rfl
      · exact h.placed t' ht'
      · exact Or.inr hnone

theorem Written.round (h : Written source v database log s.world)
    (htake : takeItem.exec s = some (.ok (some item), s₁))
    (hscan : (scanItem source database item).exec s₁ = some (.ok built, s')) :
    Written source v database (log ++ [(item, built)]) s'.world := by
  obtain ⟨-, hworld⟩ := exec_takeItem_eq_ok.1 htake
  obtain ⟨hbuilt, -⟩ := exec_scanItem_eq_ok hscan
  obtain ⟨hframework, hstored⟩ := stored_of_scanItem hscan
  rw [hworld] at hbuilt hframework hstored
  rcases hstored with hstored | ⟨fault, hdata, hstored, hsame⟩
  · obtain ⟨t, rfl, hstored⟩ := Outcome.bind_eq_ok.1 hstored
    have hworld' : s'.world = ⟨s'.world.store, s.world.framework⟩ := by rw [← hframework]
    rw [hworld']
    exact h.store hbuilt hstored
  · have hworld' : s'.world = s.world := by
      obtain ⟨⟨store, framework⟩, queue⟩ := s'
      cases hframework
      cases hsame
      rfl
    rw [hworld']
    exact h.spare hbuilt hdata hstored

end Round

theorem written_of_rounds (h : Rounds takeItem (scanItem source database) s log s') :
    Written source s.world database log s'.world :=
  h.preserves (fun log s' => Written source s.world database log s'.world)
    (written_start source s.world database) fun _ _ _ _ _ _ hs htake hscan => hs.round htake hscan

/-- A scan that goes well has written its tables. -/
theorem written_of_exec_scanWith
    (hfresh : (freshDatabase database).exec ⟨w, {}⟩ = some (.ok (), ⟨v, {}⟩))
    (hscan : (scanWith source workspace extension database markup).exec ⟨w, {}⟩ =
      some (.ok log, s')) :
    Written source v database log s'.world := by
  obtain ⟨s, s₁, hroots, hrounds, hend⟩ := exists_rounds_of_exec_scanWith hfresh hscan
  obtain ⟨-, hworld⟩ := exec_takeItem_eq_ok.1 hend
  obtain ⟨requests, -, -, rfl⟩ := exec_addRoots_eq_ok hroots
  rw [hworld]
  exact written_of_rounds hrounds

theorem lastAt_append_cons {s : Store} (h : placeOf s database t = .ok place)
    (before after : List Table) :
    ∃ last ∈ t :: after, lastAt s database place (before ++ t :: after) = some last ∧
      lastAt s database place (t :: after) = some last ∧ placeOf s database last = .ok place := by
  have hne : (t :: after).filter (fun t => decide (placeOf s database t = .ok place)) ≠ [] := by
    simp [h]
  obtain ⟨last, hlast⟩ := Option.ne_none_iff_exists'.1 (List.getLast?_eq_none_iff.not.2 hne)
  obtain ⟨hmem, hplace⟩ := List.mem_filter.1 (List.mem_of_getLast? hlast)
  refine ⟨last, hmem, ?_, hlast, by simpa using hplace⟩
  rw [lastAt, List.filter_append, List.getLast?_append_of_ne_nil _ hne, hlast]

/-- An empty path is no database. -/
theorem database_ne_empty {q : WorkQueue}
    (hfresh : (freshDatabase database).exec ⟨w, q⟩ = some (.ok (), s)) : database ≠ "" := by
  rintro rfl
  have hmade {s₁ : Scan} : (onStore (Store.makeFolder "" false)).exec s₁ ≠ some (.ok (), s) := by
    intro hmake
    obtain ⟨store, hstore, -⟩ := exec_onStore_eq_ok.1 hmake
    obtain ⟨place, hplace, -⟩ :=
      Store.find_eq_ok.1 (Store.find_bare_of_makeFolder hstore (by decide +kernel))
    exact (Store.locate_eq_ok.1 hplace).1.2.2.1 rfl
  obtain ⟨_, _, ⟨⟩, h⟩ := exec_bind_eq_ok.1 hfresh
  dsimp only at h
  split at h
  · obtain ⟨⟨⟩, s₁, -, hmake⟩ := exec_bind_eq_ok.1 h
    exact hmade hmake
  · exact hmade h

/-- **A scan that goes well leaves at each place the last table that goes there.** Let `v` be the
world with the emptied database, and let the digests of the subjects be told apart. Then every table
of the scan has a place, unless it cannot be stored at all; and what is there at the end is the last
table of this place, which has the same subject. So a table stays if no later one has its subject and
other data. A table whose name has no slash lies in the database. If the tables are built from what
is stored, they are about the paths of files and the names of modules. -/
theorem scanWith_keeps_last
    (hfresh : (freshDatabase database).exec ⟨w, {}⟩ = some (.ok (), ⟨v, {}⟩))
    (hscan : (scanWith source workspace extension database markup).exec ⟨w, {}⟩ =
      some (.ok log, s'))
    (hdigest : ∀ t ∈ tablesOf log, ∀ t' ∈ tablesOf log, digest t.subject = digest t'.subject →
      t.subject = t'.subject) :
    (∀ t ∈ tablesOf log, (∃ place, placeOf v.store database t = .ok place) ∨
      Unstorable database t) ∧
    (∀ before item t after place, log = before ++ (item, .ok t) :: after →
      placeOf v.store database t = .ok place →
      (∃ last, lastAt v.store database place (t :: tablesOf after) = some last ∧
        last.subject = t.subject ∧
        s'.world.store.entry? place = some (.file last.document.render)) ∧
      ((∀ t' ∈ tablesOf after, t'.subject = t.subject → t'.document = t.document) →
        s'.world.store.entry? place = some (.file t.document.render)) ∧
      ∀ name, t.fileName = .ok name → '/' ∉ name.toList →
        ∃ folder, s'.world.store.locate database = .ok folder ∧ place = folder ++ [name]) ∧
    (source = World.buildTable → ∀ key work t, ((key, work), .ok t) ∈ log →
      ∃ u : World, u.framework = v.framework ∧ v.store.StoresData u.store ∧
        u.IsAbout work key t.subject) := by
  have hwritten := written_of_exec_scanWith hfresh hscan
  refine ⟨hwritten.placed, fun before item t after place hlog hplace => ?_,
    fun hsource key work t hlog => ?_⟩
  · have htables : tablesOf log = tablesOf before ++ t :: tablesOf after := by
      simp [tablesOf, hlog, Except.toOption]
    obtain ⟨last, hmem, hlast, hlast', hplace'⟩ :=
      lastAt_append_cons hplace (tablesOf before) (tablesOf after)
    -- tables that meet at a place have names with one digest
    have hsubject : last.subject = t.subject := by
      refine hdigest last ?_ t ?_ (digest_subject_of_placeOf hplace' hplace)
      · rw [htables]
        exact List.mem_append_right _ hmem
      · simp [htables]
    have hentry : s'.world.store.entry? place = some (.file last.document.render) := by
      rw [hwritten.entry, htables, hlast]
      rfl
    refine ⟨⟨last, hlast', hsubject, hentry⟩, fun hsame => ?_, fun name hname hslash => ?_⟩
    · rcases List.mem_cons.1 hmem with rfl | hmem
      · exact hentry
      · rw [hentry, hsame last hmem hsubject]
    · obtain ⟨name', hname', hlocate⟩ := placeOf_eq_ok.1 hplace
      rw [hname] at hname'
      cases hname'
      have hplain : Path.IsPlain name.toList := by
        have hjson : Path.IsPlain (Path.name (Path.join database name)).toList :=
          isPlain_of_fileName hname
        rwa [Store.name_join, Path.name, Path.nameChars_of_not_mem hslash, String.ofList_toList]
          at hjson
      obtain ⟨folder, hfolder, -, rfl⟩ :=
        Store.exists_locate_of_join (database_ne_empty hfresh) hplain hlocate
      exact ⟨folder, hwritten.stores.alike.locate_iff.2 hfolder, rfl⟩
  · obtain ⟨u, hframework, hstores, hbuilt⟩ := hwritten.built _ hlog
    subst hsource
    exact ⟨u, hframework, hstores, World.isAbout_of_buildTable hbuilt.symm⟩

/-- A library by its file. -/
def importOf (path : String) : ImportInfo := ⟨.text "Library", .text path, .null, .list []⟩

/-- A keyword without arguments. -/
def keywordNamed (name : String) : KeywordInfo := ⟨.text name, .list [], .text "", .list []⟩

/-- A suite that imports two libraries of the same name. -/
def twinFramework : Framework where
  resources := [("/ws/a.robot", { imports := [importOf "/x/lib.py", importOf "/y/lib.py"] })]
  libraries := [("/x/lib.py", [keywordNamed "one"]), ("/y/lib.py", [keywordNamed "two"])]

/-- The workspace next to the folders of two libraries. -/
def twinStore : Store where
  cwd := "/"
  entries := smallStore.entries ++ [(["x"], .folder), (["x", "lib.py"], .file ""), (["y"], .folder),
    (["y", "lib.py"], .file "")]

/-- The same with an empty database. -/
def twinDatabase : Store := { twinStore with entries := twinStore.entries ++ [(["db"], .folder)] }

/-- The table of the suite. -/
def twinSuite : Table := .robot
  { fileName := "a.robot", filePath := "/ws/a.robot", keywords := [], varNames := [], resources := [],
    libraries := [⟨"lib.py", .null, .list [], some "/x/lib.py"⟩,
      ⟨"lib.py", .null, .list [], some "/y/lib.py"⟩],
    variableFiles := [] }

/-- The table of one of the libraries. -/
def twinLibrary (path keyword : String) : Table := .library
  { moduleName := "lib", arguments := [], filePath := some path, fileName := some "lib.py",
    keywords := [(keyword, ⟨keyword, .list [], .text "", [], none⟩)] }

/-- The file that both libraries share. -/
def twinTable : String := "lib-e8acc63b1e238f3255c900eed37254b8.json"

/-- The store after some tables were written. -/
def twinWritten (tables : List (String × Table)) : Store :=
  tables.foldl (fun s (name, t) => s.put ["db", name] (.file t.document.render)) twinDatabase

theorem exec_freshDatabase_twin : (freshDatabase "/db").exec ⟨⟨twinStore, twinFramework⟩, {}⟩ =
    some (.ok (), ⟨⟨twinDatabase, twinFramework⟩, {}⟩) := by
  have hhas : twinStore.has "/db" = false := by decide +kernel
  have hmake : (Store.makeFolder "/db" false).run twinStore = (.ok (), twinDatabase) := by
    have hmade : ((Store.makeFolder "/db" false).run twinStore).1 = .ok () := by decide +kernel
    have hstore : ((Store.makeFolder "/db" false).run twinStore).2 = twinDatabase := by
      decide +kernel
    exact Prod.ext hmade hstore
  unfold freshDatabase
  rw [exec_bind, exec_get, Option.bind_some]
  simp only [hhas, Bool.false_eq_true, if_false, exec_onStore, hmake]

/-- A library in the queue. -/
abbrev twinItem (path : String) (progress : Progress) : Value × Work :=
  (.text path, ⟨progress, .library, .list []⟩)

/-- What the scan of the workspace goes through. -/
def twinLog : List ((Value × Work) × Except Fault Table) :=
  [(fileItem .waiting, .ok twinSuite),
   (twinItem "/y/lib.py" .waiting, .ok (twinLibrary "/y/lib.py" "two")),
   (twinItem "/x/lib.py" .waiting, .ok (twinLibrary "/x/lib.py" "one")),
   (libraryItem .waiting, .error (.refused (.noLibrary "BuiltIn")))]

theorem exec_scanWith_twin : ∃ s', (scanWith World.buildTable "/ws" "robot" "/db" none).exec
    ⟨⟨twinStore, twinFramework⟩, {}⟩ = some (.ok twinLog, s') := by
  have hneed : (needWorkspace "/ws").exec ⟨⟨twinStore, twinFramework⟩, {}⟩ =
      some (.ok (), ⟨⟨twinStore, twinFramework⟩, {}⟩) :=
    exec_needWorkspace_of_has (by decide +kernel) (by decide +kernel)
  have hfound : twinDatabase.findFiles "/ws" "robot" = .ok ["/ws/a.robot"] :=
    findFiles_of_single rfl (by decide +kernel) (by decide +kernel) (by decide +kernel)
  have hroots : (addRoots "/ws" "robot" none).exec ⟨⟨twinDatabase, twinFramework⟩, {}⟩ =
      some (.ok (), ⟨⟨twinDatabase, twinFramework⟩, ⟨[fileItem .waiting, libraryItem .waiting]⟩⟩) := by
    have htidy : Path.tidy twinDatabase.cwd "/ws/a.robot" = "/ws/a.robot" := by decide +kernel
    rw [exec_addRoots_of_found (w := ⟨twinDatabase, twinFramework⟩) hfound]
    simp only [List.map_cons, List.map_nil, World.tidy, htidy]
    rfl
  have hsuite : (scanItem World.buildTable "/db" (fileItem .waiting)).exec
      ⟨⟨twinDatabase, twinFramework⟩, ⟨[libraryItem .waiting, fileItem .taken]⟩⟩ =
        some (.ok (.ok twinSuite), ⟨⟨twinWritten [(smallTable, twinSuite)], twinFramework⟩,
          ⟨[twinItem "/y/lib.py" .waiting, twinItem "/x/lib.py" .waiting, libraryItem .waiting,
            fileItem .done]⟩⟩) :=
    exec_scanItem_of_stored (by decide +kernel)
      (storedTable_of_placeOf (by decide +kernel) (by decide +kernel) (by decide +kernel)) rfl
  have hfirst : (scanItem World.buildTable "/db" (twinItem "/y/lib.py" .waiting)).exec
      ⟨⟨twinWritten [(smallTable, twinSuite)], twinFramework⟩,
        ⟨[twinItem "/x/lib.py" .waiting, libraryItem .waiting, fileItem .done,
          twinItem "/y/lib.py" .taken]⟩⟩ =
        some (.ok (.ok (twinLibrary "/y/lib.py" "two")),
          ⟨⟨twinWritten [(smallTable, twinSuite), (twinTable, twinLibrary "/y/lib.py" "two")],
            twinFramework⟩,
          ⟨[twinItem "/x/lib.py" .waiting, libraryItem .waiting, fileItem .done,
            twinItem "/y/lib.py" .done]⟩⟩) :=
    exec_scanItem_of_stored (by decide +kernel)
      (storedTable_of_placeOf (by decide +kernel) (by decide +kernel) (by decide +kernel)) rfl
  have hsecond : (scanItem World.buildTable "/db" (twinItem "/x/lib.py" .waiting)).exec
      ⟨⟨twinWritten [(smallTable, twinSuite), (twinTable, twinLibrary "/y/lib.py" "two")],
        twinFramework⟩,
        ⟨[libraryItem .waiting, fileItem .done, twinItem "/y/lib.py" .done,
          twinItem "/x/lib.py" .taken]⟩⟩ =
        some (.ok (.ok (twinLibrary "/x/lib.py" "one")),
          ⟨⟨twinWritten [(smallTable, twinSuite), (twinTable, twinLibrary "/y/lib.py" "two"),
            (twinTable, twinLibrary "/x/lib.py" "one")], twinFramework⟩,
          ⟨[libraryItem .waiting, fileItem .done, twinItem "/y/lib.py" .done,
            twinItem "/x/lib.py" .done]⟩⟩) :=
    exec_scanItem_of_stored (by decide +kernel)
      (storedTable_of_placeOf (by decide +kernel) (by decide +kernel) (by decide +kernel)) rfl
  exact ⟨_, exec_scanWith_of_rounds hneed exec_freshDatabase_twin hroots
    (.round rfl hsuite (.round rfl hfirst (.round rfl hsecond
      (.round rfl (exec_scanItem_of_data rfl rfl rfl) (.start _))))) rfl⟩

/-- Two libraries of the same name in different folders share a file, and the keywords of the one
that is scanned first are lost. -/
theorem scanWith_keeps_last_twin :
    ∃ s', (scanWith World.buildTable "/ws" "robot" "/db" none).exec
        ⟨⟨twinStore, twinFramework⟩, {}⟩ = some (.ok twinLog, s') ∧
      s'.world.store.entry? ["db", twinTable] =
        some (.file (twinLibrary "/x/lib.py" "one").document.render) ∧
      (twinLibrary "/x/lib.py" "one").document.render ≠
        (twinLibrary "/y/lib.py" "two").document.render ∧
      World.IsAbout ⟨twinDatabase, twinFramework⟩ (twinItem "/y/lib.py" .waiting).2
        (.text "/y/lib.py") "lib" := by
  obtain ⟨s', hscan⟩ := exec_scanWith_twin
  have htables : tablesOf twinLog =
      [twinSuite, twinLibrary "/y/lib.py" "two", twinLibrary "/x/lib.py" "one"] := rfl
  have hdigest : ∀ t ∈ tablesOf twinLog, ∀ t' ∈ tablesOf twinLog,
      digest t.subject = digest t'.subject → t.subject = t'.subject := by
    rw [htables]
    decide +kernel
  have hplace (path keyword : String) : placeOf twinDatabase "/db" (twinLibrary path keyword) =
      .ok ["db", twinTable] := by
    have hname : TableName.ofLibrary "lib" = .ok twinTable := by decide +kernel
    exact placeOf_eq_ok.2 ⟨twinTable, hname, by decide +kernel⟩
  obtain ⟨-, hlast, -⟩ := scanWith_keeps_last exec_freshDatabase_twin hscan hdigest
  obtain ⟨⟨last, hlastAt, -, hentry⟩, -, -⟩ := hlast [(fileItem .waiting, .ok twinSuite)]
    (twinItem "/y/lib.py" .waiting) _ _ ["db", twinTable] rfl (hplace _ _)
  have hlater : lastAt twinDatabase "/db" ["db", twinTable]
      [twinLibrary "/y/lib.py" "two", twinLibrary "/x/lib.py" "one"] =
        some (twinLibrary "/x/lib.py" "one") := by
    simp [lastAt, hplace]
  rw [Option.some.inj (hlastAt.symm.trans hlater)] at hentry
  exact ⟨s', hscan, hentry, by decide +kernel, .code rfl (by decide +kernel) (by decide +kernel)⟩

end Scanning

end KeywordCatalog
