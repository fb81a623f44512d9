import KeywordCatalog.CommandLine.Task
import KeywordCatalog.Proofs.Index.Frame

/-!
# All indexes at once

The indexes of all tables are made in a folder that is made anew for them. The tables may be taken in
any order: whichever indexes are there already, each index comes out as if it were the only one that
is made in the empty folder (`Task.Filled`).
-/

namespace KeywordCatalog

open Outcome

namespace Task

variable {w w' v : World} {database indexes table path name : String}
  {modules tables order : List String} {markup : Option String} {place : Location}
  {part : IndexPart}

/-! ### Making the folder of indexes anew -/

/-- Makes a folder anew. -/
def renew (path : String) : Running Unit := do
  if (← get).store.has path then onStore (Store.removeFolder path)
  onStore (Store.makeFolder path false)

theorem exec_onStore {α : Type} (work : Store.Storing α) (w : World) :
    (onStore work).exec w = some ((work.run w.store).1, { w with store := (work.run w.store).2 }) := by
  change Routine.exec (liftM (work.run w.store).1) { w with store := (work.run w.store).2 } = _
  exact Routine.exec_lift _ _

theorem exec_onStore_eq_ok {work : Store.Storing Unit} :
    (onStore work).exec w = some (.ok (), w') ↔
      ∃ store, work.run w.store = (.ok (), store) ∧ w' = { w with store } := by
  rw [exec_onStore]
  generalize ExceptT.run work w.store = outcome
  obtain ⟨result, store⟩ := outcome
  constructor
  · intro h
    cases h
    exact ⟨store, rfl, rfl⟩
  · rintro ⟨_, ⟨⟩, rfl⟩
    rfl

theorem exec_renew_eq_ok (h : (renew path).exec w = some (.ok (), v)) :
    ∃ emptied made, (w.store.has path = true ∧
        (Store.removeFolder path).run w.store = (.ok (), emptied) ∨
        w.store.has path = false ∧ emptied = w.store) ∧
      (Store.makeFolder path false).run emptied = (.ok (), made) ∧ v = { w with store := made } := by
  unfold renew at h
  rw [Routine.exec_bind, Routine.exec_get, Option.bind_some] at h
  dsimp only at h
  split at h
  · rename_i hhas
    obtain ⟨⟨⟩, u, hfirst, hsecond⟩ := Routine.exec_bind_eq_ok.1 h
    obtain ⟨emptied, hremove, rfl⟩ := exec_onStore_eq_ok.1 hfirst
    obtain ⟨made, hmake, rfl⟩ := exec_onStore_eq_ok.1 hsecond
    exact ⟨emptied, made, Or.inl ⟨hhas, hremove⟩, hmake, rfl⟩
  · rename_i hhas
    obtain ⟨made, hmake, rfl⟩ := exec_onStore_eq_ok.1 h
    exact ⟨w.store, made, Or.inr ⟨by simpa using hhas, rfl⟩, hmake, rfl⟩

theorem exec_run_indexAll (htables : w.store.names database = .ok tables)
    (hrenew : (renew indexes).exec w = some (.ok (), v)) :
    (run (.indexAll database indexes modules markup)).exec w =
      (indexTables database indexes markup tables).exec v := by
  rw [run, Routine.exec_bind, Routine.exec_get, Option.bind_some]
  dsimp only
  rw [Routine.exec_lift_bind, htables]
  dsimp only
  rw [Routine.exec_bind, Routine.exec_get, Option.bind_some]
  unfold renew at hrenew
  rw [Routine.exec_bind, Routine.exec_get, Option.bind_some] at hrenew
  dsimp only at hrenew ⊢
  split at hrenew
  · rename_i hhas
    obtain ⟨⟨⟩, u, hremove, hmake⟩ := Routine.exec_bind_eq_ok.1 hrenew
    rw [if_pos hhas, Routine.exec_bind_of_ok hremove, Routine.exec_bind_of_ok hmake]
  · rename_i hhas
    rw [if_neg hhas, Routine.exec_bind_of_ok hrenew]

/-- What making a folder anew leaves of a world. -/
structure Renewed (w v : World) (path : String) (place : Location) : Prop where
  framework : v.framework = w.framework
  sound : v.store.Sound
  folder : v.store.entry? place = some .folder
  empty : ∀ other, Store.Inside place other → v.store.entry? other = none
  change : w.store.has path = true ∧ w.store.Emptied place v.store ∨
    w.store.has path = false ∧ w.store.Founds v.store ∧
      (Store.makeFolder path false).run w.store = (.ok (), v.store)

theorem renewed_of_exec (hsound : w.store.Sound)
    (htail : (Store.splitLast path).2 = "." → Store.Straight w.store.cwd path)
    (hrenew : (renew path).exec w = some (.ok (), v)) (hplace : v.store.locate path = .ok place) :
    Renewed w v path place := by
  obtain ⟨emptied, made, hcases, hmake, rfl⟩ := exec_renew_eq_ok hrenew
  rcases hcases with ⟨hhas, hremove⟩ | ⟨hhas, rfl⟩
  · obtain ⟨other, hother, -, hdot, rfl⟩ := Store.run_removeFolder_eq_ok hremove
    obtain ⟨hkeeps, hagree⟩ := Store.agreeApart_of_emptied hremove hmake hother
    have hsame := Store.locate_of_keepsFolders hkeeps.keepsFolders hplace
    rw [hother] at hsame
    cases hsame
    obtain ⟨hmade, hfolder, hempty⟩ :=
      (hsound.without place).makeFolder hmake (fun htail => absurd htail hdot) hplace
    exact ⟨rfl, hmade, hfolder, hempty,
      Or.inl ⟨hhas, hkeeps, hagree, fun _ => Store.entry?_of_prefix hplace hfolder⟩⟩
  · obtain ⟨hmade, hfolder, hempty⟩ :=
      hsound.makeFolder hmake (fun hdot => ⟨htail hdot, hhas⟩) hplace
    have hfounds := Store.founds_makeFolder path false w.store
    rw [hmake] at hfounds
    exact ⟨rfl, hmade, hfolder, hempty, Or.inr ⟨hhas, hfounds, hmake⟩⟩

/-- Outside of a folder that was made anew nothing changes, but folders may be made on the way to one
that was not there. -/
theorem Renewed.outside (h : Renewed w v path place) (hplace : v.store.locate path = .ok place)
    {other : Location} (hother : ¬place <+: other) :
    v.store.entry? other = w.store.entry? other ∨
      w.store.has path = false ∧ w.store.entry? other = none ∧ v.store.entry? other = some .folder ∧
        (Store.Straight w.store.cwd path → other <+: place) := by
  rcases h.change with ⟨-, hempty⟩ | ⟨hhas, hfounds, hmake⟩
  · left
    by_cases habove : other <+: place
    · rw [hempty.above other habove, hempty.keeps.entry other _ (hempty.above other habove)]
    · exact hempty.agree.entry_eq ⟨hother, habove⟩
  · rcases hfounds.entry other with hsame | ⟨hnone, hfolder⟩
    · exact Or.inl hsame
    · refine Or.inr ⟨hhas, hnone, hfolder, fun hstraight => ?_⟩
      by_contra habove
      rw [Store.entry?_of_straight hstraight hmake hplace habove, hnone] at hfolder
      cases hfolder

theorem Renewed.spares (h : Renewed w v path place)
    (htables : w.store.names database = .ok tables)
    (hspares : Indexing.Spares w.store place database markup) :
    Indexing.Spares v.store place database markup := by
  rcases h.change with ⟨-, hempty⟩ | ⟨-, hfounds, -⟩
  · refine ⟨fun other hother => hspares.database other ?_, ?_⟩
    · exact Store.locate_of_keepsFolders hempty.keeps.keepsFolders hother
    · rw [hempty.agree.cwd]
      exact hspares.markup
  · obtain ⟨folder, hfolder, -⟩ := Store.names_eq_ok htables
    refine ⟨fun other hother => ?_, ?_⟩
    · have hsame := Store.locate_of_keepsFolders hfounds.keeps.keepsFolders hfolder
      rw [hother] at hsame
      cases hsame
      exact hspares.database _ hfolder
    · rw [hfounds.cwd]
      exact hspares.markup

/-! ### Making one index -/

/-- What indexing starts from in a world. -/
def started (w : World) (indexes : String) : Index := { world := w, target := indexes }

/-- Making an index only reads. -/
theorem world_of_exec_indexFor {i' : Index}
    (h : (Indexing.indexFor database table markup).exec (started w indexes) = some (.ok part, i')) :
    i'.world = w := by
  obtain ⟨visited, _, hvisits, ⟨⟩⟩ := Routine.exec_bind_eq_ok.1 h
  obtain ⟨_, s, -, hvisited, -, hlast⟩ := Indexing.visited_of_exec_visits hvisits
  rw [hlast]
  exact hvisited.world

/-- The index of a table is made in the world and written to its place. -/
theorem exec_indexing_eq_ok :
    (indexing indexes (Indexing.writeIndex database table markup)).exec w = some (.ok (), w') ↔
      ∃ part i' store, (Indexing.indexFor database table markup).exec (started w indexes) =
          some (.ok part, i') ∧
        w.store.writeDocument (Path.join indexes (TableName.index table)) part.document = .ok store ∧
        w' = { w with store } := by
  have hexec : (indexing indexes (Indexing.writeIndex database table markup)).exec w =
      ((Indexing.writeIndex database table markup).exec (started w indexes)).map
        fun (result, i) => (result, i.world) := rfl
  rw [hexec]
  constructor
  · intro h
    obtain ⟨⟨result, i⟩, hwrite, heq⟩ := Option.map_eq_some_iff.1 h
    cases heq
    obtain ⟨_, _, ⟨⟩, hwrite⟩ := Routine.exec_bind_eq_ok.1 hwrite
    obtain ⟨part, i₁, hindex, hwrite⟩ := Routine.exec_bind_eq_ok.1 hwrite
    obtain ⟨_, _, ⟨⟩, hwrite⟩ := Routine.exec_bind_eq_ok.1 hwrite
    obtain ⟨store, _, hstore, ⟨⟩⟩ := Routine.exec_bind_eq_ok.1 hwrite
    have hworld := world_of_exec_indexFor hindex
    rw [Routine.exec_lift, Option.some.injEq, Prod.mk.injEq, hworld] at hstore
    obtain ⟨hstore, rfl⟩ := hstore
    exact ⟨part, _, store, hindex, hstore, by rw [hworld]⟩
  · rintro ⟨part, i', store, hindex, hstore, rfl⟩
    have hworld := world_of_exec_indexFor hindex
    refine Option.map_eq_some_iff.2 ⟨(.ok (),
      { i' with world := { i'.world with store }, aliases := [] }), ?_, by rw [hworld]⟩
    refine Routine.exec_bind_eq_ok.2 ⟨_, _, rfl, Routine.exec_bind_eq_ok.2 ⟨part, i', hindex,
      Routine.exec_bind_eq_ok.2 ⟨_, _, rfl, Routine.exec_bind_eq_ok.2 ⟨store, i', ?_, rfl⟩⟩⟩⟩
    rw [Routine.exec_lift, hworld]
    exact congrArg (fun result => some (result, i')) hstore

/-- Whether an index is made for a table in a world and can be written to its place. -/
structure Makes (w : World) (database indexes table : String) (markup : Option String)
    (place : Location) (part : IndexPart) : Prop where
  index : ∃ i', (Indexing.indexFor database table markup).exec (started w indexes) =
    some (.ok part, i')
  levels : part.document.levels ≤ Document.levelLimit
  locate : w.store.locate (Path.join indexes (TableName.index table)) =
    .ok (place ++ [TableName.index table])

theorem Makes.unique {other : IndexPart} (h : Makes w database indexes table markup place part)
    (h' : Makes w database indexes table markup place other) : other = part := by
  obtain ⟨i', hindex⟩ := h.index
  obtain ⟨i'', hindex'⟩ := h'.index
  rw [hindex] at hindex'
  cases hindex'
  rfl

theorem Makes.faithful (h : Makes w database indexes table markup place part) :
    part.document.Faithful := by
  obtain ⟨i', hindex⟩ := h.index
  obtain ⟨visited, _, hvisits, ⟨⟩⟩ := Routine.exec_bind_eq_ok.1 hindex
  obtain ⟨_, s, -, hvisited, -⟩ := Indexing.visited_of_exec_visits hvisits
  exact hvisited.faithful_document nofun

theorem writeDocument_index (hplain : Path.IsPlain table.toList) {s store : Store} {v : Value} :
    s.writeDocument (Path.join indexes (TableName.index table)) v = .ok store ↔
      ∃ other, s.locate (Path.join indexes (TableName.index table)) = .ok other ∧
        s.entry? other ≠ some .folder ∧ v.levels ≤ Document.levelLimit ∧
        store = s.put other (.file v.render) := by
  have hname := Store.isPlain_name_join (TableName.isPlain_index hplain) indexes
  rw [Store.writeDocument_eq_ok, Store.write_eq_ok hname]
  constructor
  · rintro ⟨⟨other, hother, hentry, rfl⟩, hlevels⟩
    exact ⟨other, hother, hentry, hlevels, rfl⟩
  · rintro ⟨other, hother, hentry, hlevels, rfl⟩
    exact ⟨⟨other, hother, hentry, rfl⟩, hlevels⟩

/-! ### Index after index -/

/-- Whether a folder is there for the indexes of a database. -/
structure Ready (v : World) (database indexes : String) (markup : Option String)
    (place : Location) : Prop where
  locate : v.store.locate indexes = .ok place
  folder : v.store.entry? place = some .folder
  spares : Indexing.Spares v.store place database markup

/-- What is true when the indexes of some tables were made in an empty folder: they are there as they
come out in the world with the empty folder, and nothing else has changed. -/
structure Filled (v : World) (database indexes : String) (markup : Option String)
    (place : Location) (done : List String) (w : World) : Prop where
  sound : w.store.Sound
  cleared : Indexing.clear w place = v
  made : ∀ table ∈ done, ∃ part, Makes v database indexes table markup place part
  files : ∀ other entry, Store.Inside place other → ( w.store.entry? other = some entry ↔
    ∃ table ∈ done, ∃ part, other = place ++ [TableName.index table] ∧
      Makes v database indexes table markup place part ∧ entry = .file part.document.render)

namespace Filled

variable {done : List String}

theorem holdsIndexes (h : Filled v database indexes markup place done w) :
    w.store.HoldsIndexes place := by
  intro other entry hinside hentry
  obtain ⟨table, -, part, -, hmakes, rfl⟩ := (h.files other entry hinside).1 hentry
  exact ⟨part, hmakes.faithful, hmakes.levels, rfl⟩

theorem store_eq (h : Filled v database indexes markup place done w) :
    v.store = w.store.clear place := by
  rw [← h.cleared]
  rfl

theorem locate_iff (h : Filled v database indexes markup place done w) {other : Location} :
    w.store.locate path = .ok other ↔ v.store.locate path = .ok other := by
  rw [h.store_eq]
  exact h.holdsIndexes.holdsFiles.locate_clear_iff

theorem entry_eq (h : Filled v database indexes markup place done w) {other : Location}
    (hother : ¬Store.Inside place other) : w.store.entry? other = v.store.entry? other := by
  rw [h.store_eq, Store.entry?_clear_of_not_inside hother]

theorem spares (h : Filled v database indexes markup place done w)
    (hspares : Indexing.Spares v.store place database markup) :
    Indexing.Spares w.store place database markup := by
  refine ⟨fun other hother => hspares.database other (h.locate_iff.1 hother), ?_⟩
  have hcwd : w.store.cwd = v.store.cwd := by
    rw [h.store_eq]
    rfl
  rw [hcwd]
  exact hspares.markup

theorem start (hsound : v.store.Sound)
    (hempty : ∀ other, Store.Inside place other → v.store.entry? other = none) :
    Filled v database indexes markup place [] v := by
  refine ⟨hsound, ?_, nofun, fun other entry hinside => ?_⟩
  · rw [Indexing.clear, Store.clear_eq_self hempty]
  · simp [hempty other hinside]

/-- The index of a table that was taken is there. -/
theorem exists_file (h : Filled v database indexes markup place done w) (htable : table ∈ done) :
    ∃ part, Makes v database indexes table markup place part ∧
      w.store.entry? (place ++ [TableName.index table]) = some (.file part.document.render) := by
  obtain ⟨part, hmakes⟩ := h.made table htable
  have hinside : Store.Inside place (place ++ [TableName.index table]) :=
    Store.inside_append.2 (List.cons_ne_nil _ _)
  exact ⟨part, hmakes, (h.files _ _ hinside).2 ⟨table, htable, part, rfl, hmakes, rfl⟩⟩

/-- One more index is made as if it were the only one. -/
theorem makes (h : Filled v database indexes markup place done w)
    (hready : Ready v database indexes markup place) (hplain : Path.IsPlain table.toList)
    (hlibraries : Indexing.LibrariesOutside v place database table markup)
    (hexec : (indexing indexes (Indexing.writeIndex database table markup)).exec w =
      some (.ok (), w')) :
    ∃ part, Makes v database indexes table markup place part ∧
      w' = ⟨w.store.put (place ++ [TableName.index table]) (.file part.document.render),
        w.framework⟩ := by
  obtain ⟨part, i', store, hindex, hwrite, rfl⟩ := exec_indexing_eq_ok.1 hexec
  obtain ⟨other, hother, hentry, hlevels, rfl⟩ := (writeDocument_index hplain).1 hwrite
  have hother' := h.locate_iff.1 hother
  have hne : indexes ≠ "" := (Store.locate_eq_ok.1 hready.locate).1.2.2.1
  obtain ⟨above, habove, -, rfl⟩ :=
    Store.exists_locate_of_join hne (TableName.isPlain_index hplain) hother'
  rw [hready.locate] at habove
  cases habove
  have hfolder : w.store.entry? place = some .folder := by
    rw [h.entry_eq fun hinside => hinside.2 rfl, hready.folder]
  -- the indexes that are there have no part in it, so it is made in `v` as well
  have hmade := Indexing.exec_indexFor_clear (i := started w indexes) h.sound hfolder
    h.holdsIndexes (h.spares hready.spares) (by rw [started, h.cleared]; exact hlibraries) hindex
  rw [started, h.cleared] at hmade
  exact ⟨part, ⟨⟨_, hmade⟩, hlevels, hother'⟩, rfl⟩

theorem step (h : Filled v database indexes markup place done w)
    (hready : Ready v database indexes markup place) (hplain : Path.IsPlain table.toList)
    (hlibraries : Indexing.LibrariesOutside v place database table markup)
    (hexec : (indexing indexes (Indexing.writeIndex database table markup)).exec w =
      some (.ok (), w')) :
    Filled v database indexes markup place (done ++ [table]) w' := by
  obtain ⟨part, hmakes, rfl⟩ := h.makes hready hplain hlibraries hexec
  have hinside : Store.Inside place (place ++ [TableName.index table]) :=
    Store.inside_append.2 (List.cons_ne_nil _ _)
  have hnofolder : w.store.entry? (place ++ [TableName.index table]) ≠ some .folder :=
    h.holdsIndexes.holdsFiles _ hinside
  refine ⟨h.sound.put (h.locate_iff.2 hmakes.locate) hnofolder, ?_, fun table' hmem => ?_,
    fun other entry hother => ?_⟩
  · rw [← h.cleared, Indexing.clear, Indexing.clear, Store.clear_put hinside]
  · rcases List.mem_append.1 hmem with hmem | hmem
    · exact h.made table' hmem
    · rw [List.mem_singleton.1 hmem]
      exact ⟨part, hmakes⟩
  · -- only the place of this index changes, and no other table has it
    by_cases hsame : other = place ++ [TableName.index table]
    · subst hsame
      rw [Store.entry?_put_self (by simp), Option.some.injEq]
      constructor
      · rintro rfl
        exact ⟨table, by simp, part, rfl, hmakes, rfl⟩
      · rintro ⟨table', -, part', heq, hmakes', rfl⟩
        have hindex := List.append_cancel_left heq
        rw [List.singleton_inj] at hindex
        obtain rfl := TableName.index_injective hindex
        rw [hmakes.unique hmakes']
    · rw [Store.entry?_put_of_ne hsame, h.files other entry hother]
      constructor
      · rintro ⟨table', hmem, hrest⟩
        exact ⟨table', List.mem_append_left _ hmem, hrest⟩
      · rintro ⟨table', hmem, part', rfl, hrest⟩
        rcases List.mem_append.1 hmem with hmem | hmem
        · exact ⟨table', hmem, part', rfl, hrest⟩
        · rw [List.mem_singleton.1 hmem] at hsame
          exact absurd rfl hsame

/-- However the tables are ordered, their indexes fill the folder. -/
theorem run (h : Filled v database indexes markup place done w)
    (hready : Ready v database indexes markup place)
    (htables : ∀ table ∈ order, Path.IsPlain table.toList ∧
      Indexing.LibrariesOutside v place database table markup)
    (hexec : (indexTables database indexes markup order).exec w = some (.ok (), w')) :
    Filled v database indexes markup place (done ++ order) w' := by
  induction order generalizing w done with
  | nil =>
    cases hexec
    rwa [List.append_nil]
  | cons table rest ih =>
    obtain ⟨⟨hplain, hlibraries⟩, hrest⟩ := List.forall_mem_cons.1 htables
    obtain ⟨⟨⟩, w₁, hfirst, hlater⟩ := Routine.exec_bind_eq_ok.1 hexec
    have hstep := ih (h.step hready hplain hlibraries hfirst) hrest hlater
    rwa [List.append_assoc] at hstep

end Filled

/-! ### One index alone -/

/-- Whether a task leaves a file with a text at a place. -/
def Leaves (task : Task) (w : World) (place : Location) (text : String) : Prop :=
  ∃ w', (run task).exec w = some (.ok (), w') ∧ w'.store.entry? place = some (.file text)

theorem exec_run_indexOne (hhas : w.store.has indexes = true) :
    (run (.indexOne database (some table) indexes modules markup)).exec w =
      (indexing indexes (Indexing.writeIndex database table markup)).exec w := by
  have hneed : (needIndexes indexes).exec w = some (.ok (), w) := by
    unfold needIndexes
    rw [Routine.exec_bind, Routine.exec_get, Option.bind_some]
    simp [hhas]
  rw [run, Routine.exec_bind_of_ok hneed]

theorem exec_run_indexOne_of_absent (hhas : w.store.has indexes = false)
    (hframework : v.framework = w.framework)
    (hmake : (Store.makeFolder indexes false).run w.store = (.ok (), v.store)) :
    (run (.indexOne database (some table) indexes modules markup)).exec w =
      (indexing indexes (Indexing.writeIndex database table markup)).exec v := by
  have hmade : (onStore (Store.makeFolder indexes false)).exec w = some (.ok (), v) :=
    exec_onStore_eq_ok.2 ⟨v.store, hmake, by rw [← hframework]⟩
  have hneed : (needIndexes indexes).exec w = some (.ok (), v) := by
    unfold needIndexes
    rw [Routine.exec_bind, Routine.exec_get, Option.bind_some]
    simpa only [hhas, Bool.not_false, if_true] using hmade
  rw [run, Routine.exec_bind_of_ok hneed]

theorem Makes.exists_exec (h : Makes w database indexes table markup place part)
    (hplain : Path.IsPlain table.toList)
    (hentry : w.store.entry? (place ++ [TableName.index table]) ≠ some .folder) :
    ∃ w', (indexing indexes (Indexing.writeIndex database table markup)).exec w = some (.ok (), w') ∧
      w'.store.entry? (place ++ [TableName.index table]) = some (.file part.document.render) := by
  obtain ⟨i', hindex⟩ := h.index
  exact ⟨_, exec_indexing_eq_ok.2 ⟨part, i', _, hindex,
    (writeDocument_index hplain).2 ⟨_, h.locate, hentry, h.levels, rfl⟩, rfl⟩,
    Store.entry?_put_self (by simp)⟩

/-- Whether what was in the folder of indexes has no part in the index of a table: no folder is in its
place, no name that is reached has slashes, and libraries are found as they are without it. -/
structure Undisturbed (w v : World) (place : Location) (database table : String)
    (markup : Option String) : Prop where
  file : w.store.entry? (place ++ [TableName.index table]) ≠ some .folder
  reached : ∀ name, Reached (Indexing.IsRoot v database table markup) (Indexing.Imports v database)
      name →
    Path.IsPlain name.toList ∧ ∀ library, Indexing.ImportsLibrary v database name library →
      Alike (v.store.find library) (w.store.find library)

/-- What is made in an emptied folder is made before it was emptied. -/
theorem Makes.of_emptied (h : Makes v database indexes table markup place part)
    (hframework : v.framework = w.framework) (hsound : w.store.Sound) (hmade : v.store.Sound)
    (hspares : Indexing.Spares w.store place database markup)
    (hempty : w.store.Emptied place v.store)
    (hundisturbed : Undisturbed w v place database table markup) :
    Makes w database indexes table markup place part := by
  obtain ⟨i', hindex⟩ := h.index
  exact ⟨⟨_, Indexing.exec_indexFor_emptied (i := started v indexes) hframework.symm hsound hmade.named
      hspares hempty hundisturbed.reached hindex⟩, h.levels,
    Store.locate_of_keepsFolders hempty.keeps.keepsFolders h.locate⟩

/-- An index that is made in a folder made anew is left by the task that makes it alone, in that world
and, if nothing disturbs it, in the world before. -/
theorem Makes.leaves (h : Makes v database indexes table markup place part)
    (hplain : Path.IsPlain table.toList) (hsound : w.store.Sound)
    (hplace : v.store.locate indexes = .ok place) (hrenewed : Renewed w v indexes place)
    (hspares : Indexing.Spares w.store place database markup) :
    Leaves (.indexOne database (some table) indexes modules markup) v
        (place ++ [TableName.index table]) part.document.render ∧
      (w.store.has indexes = false ∨ Undisturbed w v place database table markup →
        Leaves (.indexOne database (some table) indexes modules markup) w
          (place ++ [TableName.index table]) part.document.render) := by
  have hinside : Store.Inside place (place ++ [TableName.index table]) :=
    Store.inside_append.2 (List.cons_ne_nil _ _)
  have hempty := hrenewed.empty _ hinside
  obtain ⟨u, hexec, hentry⟩ := h.exists_exec hplain (by rw [hempty]; nofun)
  have hhas : v.store.has indexes = true :=
    Store.has_iff.2 ⟨_, Store.find_eq_ok.2 ⟨place, hplace, hrenewed.folder⟩⟩
  refine ⟨⟨u, by rw [exec_run_indexOne hhas, hexec], hentry⟩, fun hcases => ?_⟩
  rcases hrenewed.change with ⟨hthere, hemptied⟩ | ⟨habsent, -, hmake⟩
  · rcases hcases with habsent | hundisturbed
    · rw [hthere] at habsent
      cases habsent
    · have hmakes := h.of_emptied hrenewed.framework hsound hrenewed.sound hspares hemptied
        hundisturbed
      obtain ⟨u, hexec, hentry⟩ := hmakes.exists_exec hplain hundisturbed.file
      exact ⟨u, by rw [exec_run_indexOne hthere, hexec], hentry⟩
  · exact ⟨u, by rw [exec_run_indexOne_of_absent habsent hrenewed.framework hmake, hexec], hentry⟩

/-- **Making all indexes is making each one alone, in any order.** The folder of indexes is made anew,
in `v`, and then the tables are taken, in any order. If all goes well, the folder holds exactly one
file for each table of the database; it has the text that making this index alone leaves in the new
folder, and also in the world before unless something that was in the folder disturbs it. Outside of
the folder nothing has changed, but folders may have been made on the way to one that was not there.
A path that ends in a dot must not step back, or one of these can be in the folder itself. -/
theorem indexAll_eq_indexOne (hsound : w.store.Sound)
    (htail : (Store.splitLast indexes).2 = "." → Store.Straight w.store.cwd indexes)
    (htables : w.store.names database = .ok tables)
    (hrenew : (renew indexes).exec w = some (.ok (), v))
    (hplace : v.store.locate indexes = .ok place)
    (hspares : Indexing.Spares w.store place database markup)
    (hlibraries : ∀ table ∈ tables, Indexing.LibrariesOutside v place database table markup)
    (horder : order.Perm tables)
    (hrun : (indexTables database indexes markup order).exec v = some (.ok (), w')) :
    (run (.indexAll database indexes modules markup)).exec w =
        (indexTables database indexes markup tables).exec v ∧
      (∀ other, Store.Inside place other → ( w'.store.entry? other ≠ none ↔
        ∃ table ∈ tables, other = place ++ [TableName.index table])) ∧
      (∀ table ∈ tables, ∃ text,
        w'.store.entry? (place ++ [TableName.index table]) = some (.file text) ∧
        Leaves (.indexOne database (some table) indexes modules markup) v
          (place ++ [TableName.index table]) text ∧
        (w.store.has indexes = false ∨ Undisturbed w v place database table markup →
          Leaves (.indexOne database (some table) indexes modules markup) w
            (place ++ [TableName.index table]) text)) ∧
      ∀ other, ¬place <+: other → w'.store.entry? other = w.store.entry? other ∨
        w.store.has indexes = false ∧ w.store.entry? other = none ∧
          w'.store.entry? other = some .folder ∧
          (Store.Straight w.store.cwd indexes → other <+: place) := by
  have hrenewed := renewed_of_exec hsound htail hrenew hplace
  have hready : Ready v database indexes markup place :=
    ⟨hplace, hrenewed.folder, hrenewed.spares htables hspares⟩
  have hplain : ∀ table ∈ tables, Path.IsPlain table.toList := by
    intro table htable
    obtain ⟨-, -, -, hlisted⟩ := Store.names_eq_ok htables
    obtain ⟨e, he, hmem⟩ := hlisted table htable
    exact hsound.named e he table hmem
  have hfilled := (Filled.start hrenewed.sound hrenewed.empty).run hready
    (fun table htable => ⟨hplain table (horder.mem_iff.1 htable),
      hlibraries table (horder.mem_iff.1 htable)⟩) hrun
  rw [List.nil_append] at hfilled
  refine ⟨exec_run_indexAll htables hrenew, fun other hother => ?_, fun table htable => ?_,
    fun other hother => ?_⟩
  · constructor
    · intro hentry
      obtain ⟨entry, hentry⟩ := Option.ne_none_iff_exists'.1 hentry
      obtain ⟨table, htable, _, heq, -⟩ := (hfilled.files other entry hother).1 hentry
      exact ⟨table, horder.mem_iff.1 htable, heq⟩
    · rintro ⟨table, htable, rfl⟩
      obtain ⟨part, -, hfile⟩ := hfilled.exists_file (horder.mem_iff.2 htable)
      rw [hfile]
      nofun
  · obtain ⟨part, hmakes, hfile⟩ := hfilled.exists_file (horder.mem_iff.2 htable)
    exact ⟨part.document.render, hfile,
      hmakes.leaves (hplain table htable) hsound hplace hrenewed hspares⟩
  · rw [hfilled.entry_eq fun hinside => hother hinside.1]
    exact hrenewed.outside hplace hother

/-! ### Two tables and an index from before -/

theorem reached_lone {facts : TableFacts} (hbuiltin : w.store.builtinTable? database = .ok none)
    (hread : Indexing.tableReading w database table = .ok (facts, []))
    (h : Reached (Indexing.IsRoot w database table none) (Indexing.Imports w database) name) :
    name = table := by
  induction h with
  | root hroot =>
    rcases hroot with hself | hlibrary | ⟨_, _, _, ⟨⟩, -⟩
    · exact hself
    · rw [hbuiltin] at hlibrary
      cases hlibrary
  | lead _ himports ih =>
    obtain ⟨_, _, hother, hmem⟩ := himports
    rw [ih, hread] at hother
    cases hother
    cases hmem

theorem exec_indexFor_lone {facts : TableFacts}
    (hbuiltin : w.store.builtinTable? database = .ok none)
    (hread : Indexing.tableReading w database table = .ok (facts, [])) :
    ∃ i', (Indexing.indexFor database table none).exec (started w indexes) =
      some (.ok ⟨Indexing.recordsOf facts table .null, facts.varNames⟩, i') := by
  have hfinish : WorkQueue.finish ⟨[(.text table, ⟨.taken, .unknown, .null⟩)]⟩ (.text table) =
      .ok ⟨[(.text table, ⟨.done, .unknown, .null⟩)]⟩ := by
    simp [WorkQueue.finish, Ordered.put]
  have hvisits : ∃ i', (Indexing.visits database table none).exec (started w indexes) =
      some (.ok [(table, ⟨Indexing.recordsOf facts table .null, facts.varNames⟩)], i') :=
    ⟨_, Indexing.exec_visits_of_rounds hbuiltin ⟨[_], _,
      .round rfl (Indexing.exec_indexItem_of_ok hread hfinish) (.start _), rfl, rfl⟩⟩
  obtain ⟨i', hvisits⟩ := hvisits
  refine ⟨i', Routine.exec_bind_eq_ok.2 ⟨_, _, hvisits, ?_⟩⟩
  simp [IndexPart.concat]

/-- A database with two tables. -/
def twoTables : List (Location × Entry) :=
  [(["db"], .folder), (["db", "t"], .file "\x7b\"variables\": [\"x\"]\x7d"),
    (["db", "u"], .file "\x7b\"variables\": [\"y\"]\x7d")]

/-- A folder of indexes next to the database, with a file from before. -/
def staleWorld : World :=
  ⟨⟨"/", twoTables ++ [(["ix"], .folder), (["ix", "index-old"], .file "[]")]⟩, {}⟩

/-- The folder made anew. -/
def renewedWorld : World := ⟨⟨"/", twoTables ++ [(["ix"], .folder)]⟩, {}⟩

/-- The index of a table with one variable. -/
def oneVariable (name : String) : IndexPart := ⟨[], [.text name]⟩

/-- The world after the index of the second table was made. -/
def secondWorld : World :=
  ⟨renewedWorld.store.put ["ix", "index-u"] (.file (oneVariable "y").document.render), {}⟩

theorem sound_staleWorld : staleWorld.store.Sound := by
  refine ⟨rfl, ?_, by decide⟩
  unfold Store.WellNamed Path.IsPlain
  decide

theorem exec_renew_staleWorld : (renew "/ix").exec staleWorld = some (.ok (), renewedWorld) := by
  have hhas : staleWorld.store.has "/ix" = true := rfl
  have hremove : (onStore (Store.removeFolder "/ix")).exec staleWorld =
      some (.ok (), ⟨⟨"/", twoTables⟩, {}⟩) := by
    have hremoved : ((Store.removeFolder "/ix").run staleWorld.store).1 = .ok () := rfl
    have hstore : ((Store.removeFolder "/ix").run staleWorld.store).2 = ⟨"/", twoTables⟩ := rfl
    exact exec_onStore_eq_ok.2 ⟨_, Prod.ext hremoved hstore, rfl⟩
  have hmake : (onStore (Store.makeFolder "/ix" false)).exec ⟨⟨"/", twoTables⟩, {}⟩ =
      some (.ok (), renewedWorld) := by
    have hmade : ((Store.makeFolder "/ix" false).run ⟨"/", twoTables⟩).1 = .ok () := rfl
    have hstore : ((Store.makeFolder "/ix" false).run ⟨"/", twoTables⟩).2 = renewedWorld.store :=
      rfl
    exact exec_onStore_eq_ok.2 ⟨_, Prod.ext hmade hstore, rfl⟩
  unfold renew
  rw [Routine.exec_bind, Routine.exec_get, Option.bind_some]
  dsimp only
  rw [if_pos hhas, Routine.exec_bind_of_ok hremove, hmake]

theorem isPlain_two : ∀ table ∈ ["t", "u"], Path.IsPlain table.toList := by
  unfold Path.IsPlain
  decide

theorem builtinTable?_two {s : Store} (h : s.names "/db" = .ok ["t", "u"]) :
    s.builtinTable? "/db" = .ok none := by
  rw [Store.builtinTable?, h]
  rfl

theorem names_staleWorld : staleWorld.store.names "/db" = .ok ["t", "u"] :=
  Store.names_of_sorted rfl rfl rfl (by decide)

theorem builtinTable?_renewedWorld : renewedWorld.store.builtinTable? "/db" = .ok none :=
  builtinTable?_two (Store.names_of_sorted rfl rfl rfl (by decide))

/-- The two tables have a variable each and import nothing. -/
theorem tableReading_renewedWorld {table : String} (htable : table ∈ ["t", "u"]) :
    ∃ name, renewedWorld.store.readTable (Path.join "/db" table) =
        .ok (.object [("variables", .list [.text name])], false) ∧
      Indexing.tableReading renewedWorld "/db" table = .ok (⟨[.text name], [], .null⟩, []) := by
  simp only [List.mem_cons, List.not_mem_nil, or_false] at htable
  rcases htable with rfl | rfl
  · exact ⟨"x", by decide +kernel, by decide +kernel⟩
  · exact ⟨"y", by decide +kernel, by decide +kernel⟩

/-- For the index of a table only that table is read, and no library is imported. -/
theorem reached_renewedWorld {table name : String} (htable : table ∈ ["t", "u"])
    (h : Reached (Indexing.IsRoot renewedWorld "/db" table none) (Indexing.Imports renewedWorld "/db")
      name) :
    name ∈ ["t", "u"] ∧ ∀ library, ¬Indexing.ImportsLibrary renewedWorld "/db" name library := by
  obtain ⟨_, hread, hreading⟩ := tableReading_renewedWorld htable
  obtain rfl := reached_lone builtinTable?_renewedWorld hreading h
  refine ⟨htable, fun library => ?_⟩
  rintro ⟨v, similar, items, item, hv, hitems, -⟩
  rw [hread] at hv
  cases hv
  cases hitems

theorem exec_indexTables_renewedWorld :
    ∃ w', (indexTables "/db" "/ix" none ["u", "t"]).exec renewedWorld = some (.ok (), w') := by
  have hfirst : ∃ i', (Indexing.indexFor "/db" "u" none).exec (started renewedWorld "/ix") =
      some (.ok (oneVariable "y"), i') := by
    have hread : Indexing.tableReading renewedWorld "/db" "u" =
        .ok (⟨[.text "y"], [], .null⟩, []) := by decide +kernel
    exact exec_indexFor_lone builtinTable?_renewedWorld hread
  have hsecond : ∃ i', (Indexing.indexFor "/db" "t" none).exec (started secondWorld "/ix") =
      some (.ok (oneVariable "x"), i') := by
    have hbuiltin : secondWorld.store.builtinTable? "/db" = .ok none :=
      builtinTable?_two (Store.names_of_sorted rfl rfl rfl (by decide))
    have hread : Indexing.tableReading secondWorld "/db" "t" =
        .ok (⟨[.text "x"], [], .null⟩, []) := by decide +kernel
    exact exec_indexFor_lone hbuiltin hread
  obtain ⟨i', hfirst⟩ := hfirst
  obtain ⟨i'', hsecond⟩ := hsecond
  have hwrite : renewedWorld.store.writeDocument (Path.join "/ix" (TableName.index "u"))
      (oneVariable "y").document = .ok secondWorld.store :=
    (writeDocument_index (isPlain_two _ (by simp))).2 ⟨["ix", "index-u"],
      rfl, by decide, by decide, rfl⟩
  have hwrite' : secondWorld.store.writeDocument (Path.join "/ix" (TableName.index "t"))
      (oneVariable "x").document = .ok (secondWorld.store.put ["ix", "index-t"]
        (.file (oneVariable "x").document.render)) :=
    (writeDocument_index (isPlain_two _ (by simp))).2 ⟨["ix", "index-t"],
      rfl, by decide, by decide, rfl⟩
  refine ⟨_, Routine.exec_bind_eq_ok.2 ⟨(), secondWorld,
    exec_indexing_eq_ok.2 ⟨_, _, _, hfirst, hwrite, rfl⟩, Routine.exec_bind_eq_ok.2 ⟨(), _,
      exec_indexing_eq_ok.2 ⟨_, _, _, hsecond, hwrite', rfl⟩, rfl⟩⟩⟩

/-- Two tables in the order opposite to the listing, and a file from before in the folder. -/
theorem indexAll_eq_indexOne_stale :
    ∃ w', (indexTables "/db" "/ix" none ["u", "t"]).exec renewedWorld = some (.ok (), w') ∧
      (run (.indexAll "/db" "/ix" [] none)).exec staleWorld =
        (indexTables "/db" "/ix" none ["t", "u"]).exec renewedWorld ∧
      (∀ other, Store.Inside ["ix"] other → ( w'.store.entry? other ≠ none ↔
        ∃ table ∈ ["t", "u"], other = ["ix"] ++ [TableName.index table])) ∧
      (∀ table ∈ ["t", "u"], ∃ text,
        w'.store.entry? (["ix"] ++ [TableName.index table]) = some (.file text) ∧
        Leaves (.indexOne "/db" (some table) "/ix" [] none) staleWorld
          (["ix"] ++ [TableName.index table]) text) ∧
      ∀ other, ¬["ix"] <+: other → w'.store.entry? other = staleWorld.store.entry? other := by
  obtain ⟨w', hrun⟩ := exec_indexTables_renewedWorld
  have hplace : renewedWorld.store.locate "/ix" = .ok ["ix"] := by decide +kernel
  have hhas : staleWorld.store.has "/ix" = true := by decide +kernel
  have hspares : Indexing.Spares staleWorld.store ["ix"] "/db" none := by
    have hdatabase : staleWorld.store.locate "/db" = .ok ["db"] := by decide +kernel
    refine ⟨fun other hother => ?_, nofun⟩
    rw [hdatabase] at hother
    cases hother
    decide
  have hlibraries : ∀ table ∈ ["t", "u"],
      Indexing.LibrariesOutside renewedWorld ["ix"] "/db" table none :=
    fun table htable name hname library other himports =>
      absurd himports ((reached_renewedWorld htable hname).2 library)
  have hundisturbed : ∀ table ∈ ["t", "u"],
      Undisturbed staleWorld renewedWorld ["ix"] "/db" table none := by
    intro table htable
    refine ⟨?_, fun name hname => ?_⟩
    · revert table
      decide +kernel
    · obtain ⟨hmem, hnone⟩ := reached_renewedWorld htable hname
      exact ⟨isPlain_two name hmem, fun library himports => absurd himports (hnone library)⟩
  obtain ⟨hprogram, hfolder, htexts, houtside⟩ := indexAll_eq_indexOne sound_staleWorld
    (by decide +kernel) names_staleWorld exec_renew_staleWorld hplace hspares hlibraries
    (List.Perm.swap "t" "u" []) hrun
  refine ⟨w', hrun, hprogram, hfolder, fun table htable => ?_, fun other hother => ?_⟩
  · obtain ⟨text, hentry, -, hleaves⟩ := htexts table htable
    exact ⟨text, hentry, hleaves (Or.inr (hundisturbed table htable))⟩
  · rcases houtside other hother with hsame | ⟨habsent, -⟩
    · exact hsame
    · rw [hhas] at habsent
      cases habsent

end Task

end KeywordCatalog
