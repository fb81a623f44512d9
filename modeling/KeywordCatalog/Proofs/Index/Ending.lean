import KeywordCatalog.Proofs.Index.Source
import KeywordCatalog.Proofs.Store.Listing
import Mathlib.Data.List.Perm.Subperm

/-!
# Indexing ends

Whatever the tables hold, the loop of indexing ends, with an index or with a fault. It takes up each
name once, and a name that it takes up is one that the index starts from or that some document in
the store imports; the store is finite, so the loop has finitely many rounds.

Nearly all of these documents lie in the database. A table is looked for under the path of the
database and its name, and a name without slashes leads to a file of the database, also when the
table is found under a similar name (`Store.holdsDocument_of_readTable`). The table of a library
can have a name with slashes, though, and such a name leads out of the database: see
`Indexing.indexFor_ends`.
-/

namespace KeywordCatalog

open Routine

namespace Store

variable {s : Store} {folder : String} {listed : List String} {v : Value}

/-- Whether the names of places have no slashes. -/
def HasPlainNames (s : Store) : Prop := ∀ e ∈ s.entries, ∀ name ∈ e.1, '/' ∉ name.toList

instance (s : Store) : Decidable s.HasPlainNames :=
  inferInstanceAs (Decidable (∀ e ∈ s.entries, ∀ name ∈ e.1, '/' ∉ name.toList))

theorem names_eq_ok (h : s.names folder = .ok listed) :
    ∃ place, s.locate folder = .ok place ∧ s.entry? place = some .folder ∧
      ∀ name ∈ listed, ∃ e ∈ s.entries, name ∈ e.1 := by
  unfold Store.names find at h
  cases hlocate : s.locate folder with
  | error fault => rw [hlocate] at h; cases h
  | ok place =>
    rw [hlocate] at h
    dsimp only at h
    rcases hentry : s.entry? place with _ | _ | text
    · rw [hentry] at h; cases h
    · rw [hentry] at h
      cases h
      refine ⟨place, rfl, hentry, fun name hname => ?_⟩
      rw [List.mem_mergeSort, childNames, List.mem_filterMap] at hname
      obtain ⟨e, he, hlast⟩ := hname
      split at hlast
      · exact ⟨e, he, List.mem_of_getLast? hlast⟩
      · cases hlast
    · rw [hentry] at h; cases h

/-- A similar table is another file of the same folder. -/
theorem similarTable_eq_ok {path other : String} (h : s.similarTable path = .ok other) :
    ∃ listed name, s.names (Path.parent path) = .ok listed ∧ name ∈ listed ∧
      other = Path.join (Path.parent path) name := by
  unfold similarTable at h
  dsimp only at h
  split at h
  · obtain ⟨listed, hlisted, h⟩ := Outcome.bind_eq_ok.1 h
    split at h
    · rename_i name hlast
      cases h
      exact ⟨listed, name, hlisted, List.mem_of_mem_filter (List.mem_of_getLast? hlast), rfl⟩
    · cases h
  · cases h

/-- **A table whose name has no slashes is read from a file of the database.** -/
theorem holdsDocument_of_readTable {database name : String} {similar : Bool}
    (hplain : s.HasPlainNames) (hdatabase : s.names database = .ok listed)
    (hname : '/' ∉ name.toList) (h : s.readTable (Path.join database name) = .ok (v, similar)) :
    s.HoldsDocument database v := by
  obtain ⟨place, hplace, hfolder, -⟩ := names_eq_ok hdatabase
  rcases isSource_of_readTable h with ⟨-, hread⟩ | ⟨-, other, hother, hread⟩
  · exact holdsDocument_of_readDocument hplace hfolder hname hread
  · obtain ⟨files, file, hfiles, hfile, rfl⟩ := similarTable_eq_ok hother
    obtain ⟨place', hplace', hfolder', hentries⟩ := names_eq_ok hfiles
    obtain ⟨e, he, hmem⟩ := hentries file hfile
    have hsame := locate_parent_join hplace hname
    obtain ⟨place₁, held, text, hplace₁, hheld⟩ :=
      holdsDocument_of_readDocument hplace' hfolder' (hplain e he file hmem) hread
    exact ⟨place₁, held, text, by rw [hplace, ← hsame, hplace₁], hheld⟩

end Store

namespace Indexing

variable {w : World} {i : Index} {database table : String} {markup : Option String}

/-! ### Each round has an end -/

theorem ends_get {σ : Type} : Ends (get : Routine σ σ) := fun _ => ⟨_, rfl⟩

theorem ends_indexItem (database : String) (item : Value × Work) :
    Ends (indexItem database item) := by
  have hsound (name : String) : Ends (indexSound database name) := by
    intro s
    rw [exec_indexSound]
    rcases tableReading s.world database name with fault | ⟨facts, names⟩
    · exact ⟨_, rfl⟩
    · dsimp only
      cases (s.queue.addAll (names.map tableRequest)).finish (.text name) <;> exact ⟨_, rfl⟩
  exact (Ends.lift _).bind fun name => ((hsound name).forgiving _).bind fun _ => .pure _

theorem ends_addFound (found : Except Fault (Option String)) : Ends (addFound found) :=
  (Ends.lift _).bind fun _ _ => ⟨_, exec_addTables _⟩

theorem ends_addRoots (database table : String) (markup : Option String) :
    Ends (addRoots database table markup) := by
  have hmarkup : Ends (addMarkup markup) := by
    cases markup with
    | none => exact .pure _
    | some path =>
      rw [addMarkup]
      split
      · exact .pure _
      · exact ends_get.bind fun _ => (Ends.lift _).bind fun files =>
          Ends.forM (fun _ => ends_get.bind fun _ => ends_addFound _) files
  exact Ends.bind (fun _ => ⟨_, rfl⟩) fun _ => Ends.bind (fun _ => ⟨_, rfl⟩) fun _ =>
    (ends_get.bind fun _ => ends_addFound _).bind fun _ => hmarkup

/-! ### Names that are imported -/

/-- Whether a document imports a table. -/
def DocumentImports (w : World) (v : Value) (name : String) : Prop :=
  ∃ names, importNames w v = .ok names ∧ name ∈ names

/-- The names of the tables that a text imports, read as a document. -/
def textImports (w : World) (text : String) : List String :=
  match Value.parse (String.ofList (Store.unifyBreaks text.toList)) >>= importNames w with
  | .ok names => names
  | .error _ => []

/-- The names of the tables that are imported anywhere in the store. -/
def storedImports (w : World) : List String :=
  w.store.entries.flatMap fun e =>
    match e.2 with
    | .file text => textImports w text
    | .folder => []

theorem exists_document_of_imports {name other : String} (h : Imports w database name other) :
    ∃ v similar, w.store.readTable (Path.join database name) = .ok (v, similar) ∧
      DocumentImports w v other := by
  obtain ⟨facts, names, hread, hother⟩ := h
  obtain ⟨⟨v, similar⟩, hv, hread⟩ := Outcome.bind_eq_ok.1 hread
  obtain ⟨_, -, hread⟩ := Outcome.bind_eq_ok.1 hread
  obtain ⟨_, hnames, ⟨⟩⟩ := Outcome.bind_eq_ok.1 hread
  exact ⟨v, similar, hv, names, hnames, hother⟩

theorem mem_storedImports {path name : String} {v : Value} (h : w.store.readDocument path = .ok v)
    (hname : DocumentImports w v name) : name ∈ storedImports w := by
  obtain ⟨place, text, -, hentry, hparse⟩ := Store.readDocument_eq_ok.1 h
  obtain ⟨names, hnames, hmem⟩ := hname
  have hstored : (place, Entry.file text) ∈ w.store.entries := by
    cases place with
    | nil => cases hentry
    | cons first rest =>
      obtain ⟨before, after, hentries, -⟩ := List.lookup_eq_some_iff.1 hentry
      exact hentries ▸ List.mem_append_right _ List.mem_cons_self
  refine List.mem_flatMap.2 ⟨_, hstored, ?_⟩
  show name ∈ textImports w text
  rw [textImports, hparse, Outcome.ok_bind, hnames]
  exact hmem

theorem mem_storedImports_of_imports {name other : String} (h : Imports w database name other) :
    other ∈ storedImports w := by
  obtain ⟨v, similar, hread, himports⟩ := exists_document_of_imports h
  rcases Store.isSource_of_readTable hread with ⟨-, hdocument⟩ | ⟨-, path, -, hdocument⟩
  · exact mem_storedImports hdocument himports
  · exact mem_storedImports hdocument himports

/-! ### Names that are taken up -/

variable {roots : List String} {visited : List (String × IndexPart)} {s s₁ : Index}
  {log : List ((Value × Work) × String × IndexPart)}

/-- What the queue knows was there at the start or is imported by a table that was visited. -/
theorem Visited.cases_of_mem_keys (h : Visited i database roots visited s) {key : Value}
    (hkey : key ∈ s.queue.keys) :
    ∃ name, key = .text name ∧
      (name ∈ roots ∨ ∃ v ∈ visited, Imports i.world database v.1 name) := by
  rcases (h.explored.known key).1 hkey with hroot | ⟨visit, hvisit, hmem⟩
  · obtain ⟨name, hname, rfl⟩ := List.mem_map.1 hroot
    exact ⟨name, rfl, Or.inl hname⟩
  · obtain ⟨v, hv, rfl⟩ := List.mem_map.1 hvisit
    obtain ⟨name, hname, rfl⟩ := List.mem_map.1 hmem
    exact ⟨name, rfl, Or.inr ⟨v, hv, mem_leadsTo.1 hname⟩⟩

theorem Visited.mem_keys (h : Visited i database roots visited s) {v : String × IndexPart}
    (hv : v ∈ visited) : .text v.1 ∈ s.queue.keys := by
  refine ((h.explored.visited (.text v.1)).1 ?_).1
  rw [List.map_map]
  exact List.mem_map.2 ⟨v, hv, rfl⟩

/-- There are no more visits than names to start from and names imported in the store. -/
theorem Visited.length_le (h : Visited i database roots visited s) :
    visited.length ≤ (roots ++ storedImports i.world).length := by
  have hsubset : visited.map Prod.fst ⊆ roots ++ storedImports i.world := by
    intro name hname
    obtain ⟨v, hv, rfl⟩ := List.mem_map.1 hname
    obtain ⟨name, hkey, hcases⟩ := h.cases_of_mem_keys (h.mem_keys hv)
    cases hkey
    rcases hcases with hroot | ⟨visit, -, himports⟩
    · exact List.mem_append_left _ hroot
    · exact List.mem_append_right _ (mem_storedImports_of_imports himports)
  simpa using (List.subperm_of_subset h.nodup hsubset).length_le

/-- **Indexing ends**, with an index or with a fault. -/
theorem ends_indexFor (database table : String) (markup : Option String) :
    Ends (indexFor database table markup) := by
  have hvisits : Ends (visits database table markup) := by
    intro i
    obtain ⟨⟨result, i₀⟩, hroots⟩ := ends_addRoots database table markup i
    rw [visits, exec_bind, hroots]
    cases result with
    | error fault => exact ⟨_, rfl⟩
    | ok _ =>
      obtain ⟨roots, -, rfl⟩ := exec_addRoots_eq_ok hroots
      have hbound (log s) (hrounds : Rounds takeItem (indexItem database)
          { i with queue := WorkQueue.empty.addAll (roots.map tableRequest) } log s) :
          log.length < (roots ++ storedImports i.world).length + 1 := by
        have hle := (visited_of_rounds hrounds).length_le
        rw [List.length_map] at hle
        exact Nat.lt_succ_of_le hle
      obtain ⟨⟨result, s⟩, hended⟩ := exists_exec_drain_of_length_lt
        (fun _ => ⟨_, exec_takeItem⟩) (ends_indexItem database) _ hbound
      simp only [Option.bind_some, indexItems, exec_bind, hended]
      cases result <;> exact ⟨_, rfl⟩
  exact hvisits.bind fun _ => .pure _

/-- A round is about the table that the item is named after. -/
theorem key_of_rounds {s₀ : Index} (h : Rounds takeItem (indexItem database) s₀ log s) :
    log.map (fun e => e.1.1) = log.map fun e => .text e.2.1 := by
  induction h with
  | start => rfl
  | round _ hwork _ ih =>
    rw [List.map_cons, List.map_cons, ih, (exec_indexItem_eq_ok.1 hwork).1]

/-- The keys that the loop of indexing has taken up at some moment, each for a round; the round of
the last one may come to no end. -/
def TakenUp (i : Index) (database table : String) (markup : Option String) (keys : List Value) :
    Prop :=
  ∃ i₀ log s item s₁, (addRoots database table markup).exec i = some (.ok (), i₀) ∧
    Rounds takeItem (indexItem database) i₀ log s ∧
    takeItem.exec s = some (.ok (some item), s₁) ∧ keys = log.map (fun e => e.1.1) ++ [item.1]

theorem exists_names_of_exec_addRoots {i₀ : Index}
    (h : (addRoots database table markup).exec i = some (.ok (), i₀)) :
    ∃ listed, i.world.store.names database = .ok listed := by
  obtain ⟨⟨⟩, i₁, ⟨⟩, h⟩ := exec_bind_eq_ok.1 h
  obtain ⟨⟨⟩, i₂, ⟨⟩, h⟩ := exec_bind_eq_ok.1 h
  obtain ⟨⟨⟩, i₃, hbuiltin, -⟩ := exec_bind_eq_ok.1 h
  rw [addBuiltin, exec_bind, exec_get] at hbuiltin
  obtain ⟨name?, hname, -⟩ := exec_addFound_eq_ok.1 hbuiltin
  obtain ⟨listed, hlisted, -⟩ := Outcome.bind_eq_ok.1 hname
  exact ⟨listed, hlisted⟩

/-- The keys that were taken up are those of the visited tables and a new one, all from the
queue. -/
theorem exists_visited_of_takenUp {keys : List Value} (h : TakenUp i database table markup keys) :
    ∃ roots visited s, (∀ name, name ∈ roots ↔ IsRoot i.world database table markup name) ∧
      Visited i database roots visited s ∧ keys.Nodup ∧ (∀ key ∈ keys, key ∈ s.queue.keys) ∧
      ∀ v ∈ visited, .text v.1 ∈ keys := by
  obtain ⟨i₀, log, s, item, s₁, hroots, hrounds, htake, rfl⟩ := h
  obtain ⟨roots, hmem, rfl⟩ := exec_addRoots_eq_ok hroots
  have hvisited := visited_of_rounds hrounds
  have hwaits : item.1 ∈ s.queue.waiting := by
    obtain ⟨queue, htaken, -⟩ := exec_takeItem_eq_ok.1 htake
    rw [WorkQueue.waiting_of_take htaken]
    exact List.mem_cons_self
  -- the rounds are those of an exploration whose visits are known by their keys
  have hkeys : log.map (fun e => e.1.1) = ((log.map Prod.snd).map fun v =>
      (Value.text v.1, (leadsTo i.world database v.1).map Value.text)).map Prod.fst := by
    rw [key_of_rounds hrounds, List.map_map, List.map_map]
    rfl
  refine ⟨roots, log.map Prod.snd, s, hmem, hvisited, ?_, fun key hkey => ?_, fun v hv => ?_⟩
  · rw [hkeys, List.nodup_append]
    refine ⟨hvisited.explored.nodup, List.nodup_singleton _, fun key hkey other hother => ?_⟩
    rw [List.mem_singleton.1 hother]
    rintro rfl
    exact ((hvisited.explored.visited _).1 hkey).2 hwaits
  · rcases List.mem_append.1 hkey with hkey | hkey
    · rw [hkeys] at hkey
      exact ((hvisited.explored.visited key).1 hkey).1
    · rw [List.mem_singleton.1 hkey]
      exact WorkQueue.waiting_subset_keys hwaits
  · refine List.mem_append_left _ ?_
    rw [hkeys, List.map_map]
    exact List.mem_map.2 ⟨v, hv, rfl⟩

/-- **Indexing ends, and takes up no name twice.** Every name that it takes up is one that the index
starts from or that is imported by a document of the database, or else by a document that was read
under a name with slashes. -/
theorem indexFor_ends (i : Index) (database table : String) (markup : Option String) :
    (∃ ended, (indexFor database table markup).exec i = some ended) ∧
    (i.world.store.HasPlainNames → ∀ keys, TakenUp i database table markup keys →
      keys.Nodup ∧ ∀ key ∈ keys, ∃ name, key = .text name ∧
        (IsRoot i.world database table markup name ∨
          ∃ v, DocumentImports i.world v name ∧
            (i.world.store.HoldsDocument database v ∨
              ∃ other similar, .text other ∈ keys ∧ '/' ∈ other.toList ∧
                i.world.store.readTable (Path.join database other) = .ok (v, similar)))) := by
  refine ⟨ends_indexFor database table markup i, fun hplain keys htaken => ?_⟩
  obtain ⟨listed, hlisted⟩ : ∃ listed, i.world.store.names database = .ok listed := by
    obtain ⟨_, _, _, _, _, hroots, -⟩ := htaken
    exact exists_names_of_exec_addRoots hroots
  obtain ⟨roots, visited, s, hroots, hvisited, hnodup, hknown, hread⟩ :=
    exists_visited_of_takenUp htaken
  refine ⟨hnodup, fun key hkey => ?_⟩
  obtain ⟨name, rfl, hroot | ⟨v, hv, himports⟩⟩ := hvisited.cases_of_mem_keys (hknown key hkey)
  · exact ⟨name, rfl, Or.inl ((hroots name).1 hroot)⟩
  · obtain ⟨document, similar, hdocument, himported⟩ := exists_document_of_imports himports
    refine ⟨name, rfl, Or.inr ⟨document, himported, ?_⟩⟩
    by_cases hslash : '/' ∈ v.1.toList
    · exact Or.inr ⟨v.1, similar, hread v hv, hslash, hdocument⟩
    · exact Or.inl (Store.holdsDocument_of_readTable hplain hlisted hslash hdocument)

/-- An empty database, and next to it a table that imports the resource `/r`. -/
def outsideIndex : Index where
  world := {
    store := {
      cwd := "/"
      entries := [(["db"], .folder), (["p"], .folder),
        (["p", "t"], .file "\x7b\"resources\": [\"/r\"]\x7d")] }
    framework := {} }
  target := "/db"

theorem builtinTable?_outsideIndex : outsideIndex.world.store.builtinTable? "/db" = .ok none := by
  have hnames : outsideIndex.world.store.names "/db" = .ok [] :=
    Store.names_of_sorted rfl rfl rfl .nil
  rw [Store.builtinTable?, hnames]
  rfl

theorem takenUp_outsideIndex :
    TakenUp outsideIndex "/db" "../p/t" none [.text "../p/t", .text selfTable] := by
  have hreading : tableReading outsideIndex.world "/db" "../p/t" =
      .ok (⟨[], [], .null⟩, [selfTable]) := by
    decide +kernel
  exact ⟨_, _, _, (.text selfTable, ⟨.waiting, .unknown, .null⟩), _,
    exec_addRoots_of_builtin builtinTable?_outsideIndex,
    .round rfl (exec_indexItem_of_ok hreading rfl) (.start _), rfl, rfl⟩

theorem not_holdsDocument_outsideIndex (v : Value) :
    ¬ outsideIndex.world.store.HoldsDocument "/db" v := by
  rintro ⟨place, name, text, hplace, hentry, -⟩
  have hlocate : outsideIndex.world.store.locate "/db" = .ok ["db"] := rfl
  rw [hlocate] at hplace
  cases hplace
  simp [outsideIndex, Store.entry?, List.lookup_cons] at hentry

/-- A name with slashes leads to a document outside the database, and from there to a name that no
document of the database imports. -/
theorem indexFor_ends_outside :
    outsideIndex.world.store.HasPlainNames ∧
    TakenUp outsideIndex "/db" "../p/t" none [.text "../p/t", .text selfTable] ∧
    [Value.text "../p/t", .text selfTable].Nodup ∧
    (∀ v, ¬ outsideIndex.world.store.HoldsDocument "/db" v) ∧
    ∃ other v similar, '/' ∈ other.toList ∧ DocumentImports outsideIndex.world v selfTable ∧
      outsideIndex.world.store.readTable (Path.join "/db" other) = .ok (v, similar) := by
  have hplain : outsideIndex.world.store.HasPlainNames := by decide
  obtain ⟨hnodup, hnames⟩ :=
    (indexFor_ends outsideIndex "/db" "../p/t" none).2 hplain _ takenUp_outsideIndex
  refine ⟨hplain, takenUp_outsideIndex, hnodup, not_holdsDocument_outsideIndex, ?_⟩
  obtain ⟨name, hname, hcases⟩ := hnames (.text selfTable) (by simp)
  obtain rfl := Value.text.inj hname
  rcases hcases with hroot | ⟨v, himports, hheld | ⟨other, similar, -, hslash, hread⟩⟩
  · rcases hroot with htable | hbuiltin | ⟨_, _, _, hmarkup, -⟩
    · exact absurd htable (by decide)
    · rw [builtinTable?_outsideIndex] at hbuiltin
      cases hbuiltin
    · cases hmarkup
  · exact absurd hheld (not_holdsDocument_outsideIndex v)
  · exact ⟨other, v, similar, hslash, himports, hread⟩

end Indexing

end KeywordCatalog
