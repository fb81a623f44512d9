import KeywordCatalog.Proofs.Scan.Closure
import KeywordCatalog.Proofs.Scan.File
import KeywordCatalog.Proofs.Store.Database
import KeywordCatalog.Proofs.Table.Spelling

/-!
# The scan of a file and the scan of its workspace

A file can be scanned on its own, under any spelling of its path, or in the scan of a workspace,
which empties the database and knows the file by its tidy spelling. Both write the same table
(`Scanning.scanFile_eq_rescan`): emptying the database and writing other tables changes neither the
places that paths lead to nor the files of code (`Scanning.Underway`), so the same table is built and
it goes to the same place.
-/

namespace KeywordCatalog

open Routine

namespace Scanning

variable {workspace extension database path : String} {markup : Option String} {w v u : World}
  {s s₁ s' : Scan} {key : Value}

/-! ### Tables in stores that are alike -/

/-- Whether a table cannot be stored: it has no file name, or one that no path can end with. -/
def Unstorable (database : String) (t : Table) : Prop :=
  ∃ fault : Fault, fault.isData = true ∧ (t.fileName = .error fault ∨
    ∃ name, t.fileName = .ok name ∧ ∀ s : Store, s.locate (Path.join database name) = .error fault)

theorem isPlain_of_fileName {t : Table} {name : String} (h : t.fileName = .ok name) :
    Path.IsPlain (Path.name (Path.join database name)).toList :=
  (Store.isPlain_name_of_json (Table.endsWith_fileName h)).1

theorem storedTable_eq_ok {store store' : Store} {t : Table} :
    storedTable store database t = .ok store' ↔ ∃ name, t.fileName = .ok name ∧
      store.writeDocument (Path.join database name) t.document = .ok store' :=
  Outcome.bind_eq_ok

theorem storesData_of_storedTable {store store' : Store} {t : Table}
    (h : storedTable store database t = .ok store') : store.StoresData store' := by
  obtain ⟨name, hname, hwrite⟩ := storedTable_eq_ok.1 h
  exact Store.storesData_of_writeDocument (Table.endsWith_fileName hname) hwrite

/-- A table whose data is at fault cannot be stored anywhere. -/
theorem unstorable_of_storedTable {store : Store} {t : Table} {fault : Fault}
    (h : storedTable store database t = .error fault) (hdata : fault.isData = true) :
    Unstorable database t ∧ ∀ other : Store, storedTable other database t = .error fault := by
  unfold storedTable at h ⊢
  cases hname : t.fileName with
  | error fault' =>
    rw [hname] at h
    cases h
    exact ⟨⟨fault, hdata, Or.inl hname⟩, fun _ => rfl⟩
  | ok name =>
    rw [hname] at h
    have hplain : Path.IsPlain (Path.name (Path.join database name)).toList :=
      isPlain_of_fileName hname
    have hplace := Store.locate_eq_error_of_writeDocument hplain h hdata
    exact ⟨⟨fault, hdata, Or.inr ⟨name, hname, hplace⟩⟩,
      fun other => Store.writeDocument_of_locate hplain (hplace other) _⟩

/-! ### The rounds of a scan -/

theorem exec_onStore_eq_ok {work : Store.Storing Unit} :
    (onStore work).exec s = some (.ok (), s') ↔ ∃ store, work.run s.world.store = (.ok (), store) ∧
      s' = { s with world := { s.world with store } } := by
  rw [exec_onStore]
  generalize work.run s.world.store = ended
  obtain ⟨result, store⟩ := ended
  rw [Option.some.injEq, Prod.mk.injEq]
  constructor
  · rintro ⟨rfl, rfl⟩
    exact ⟨store, rfl, rfl⟩
  · rintro ⟨_, hended, rfl⟩
    cases hended
    exact ⟨rfl, rfl⟩

/-- The world with an emptied database is alike to the one in which a single file is scanned. -/
theorem exists_openedFor {q : WorkQueue} (hdata : w.store.HoldsData database)
    (h : (freshDatabase database).exec ⟨w, q⟩ = some (.ok (), ⟨v, q⟩)) :
    ∃ u, openedFor w database = .ok u ∧ u.store.AlikeButData v.store ∧
      v.framework = w.framework := by
  obtain ⟨_, _, ⟨⟩, h⟩ := exec_bind_eq_ok.1 h
  dsimp only at h
  split at h
  · rename_i hhas
    obtain ⟨⟨⟩, s₁, hremove, hmake⟩ := exec_bind_eq_ok.1 h
    obtain ⟨emptied, hemptied, rfl⟩ := exec_onStore_eq_ok.1 hremove
    obtain ⟨made, hmade, hv⟩ := exec_onStore_eq_ok.1 hmake
    obtain rfl : v = ⟨made, w.framework⟩ := (Scan.mk.inj hv).1
    exact ⟨w, if_pos hhas, Store.alikeButData_of_emptied hdata hemptied hmade, rfl⟩
  · rename_i hhas
    obtain ⟨made, hmade, hv⟩ := exec_onStore_eq_ok.1 h
    obtain rfl : v = ⟨made, w.framework⟩ := (Scan.mk.inj hv).1
    refine ⟨⟨made, w.framework⟩, ?_, .refl _, rfl⟩
    rw [openedFor, if_neg hhas, show (Store.makeFolder database false).run w.store = _ from hmade]
    rfl

/-- What stays true in a scan that started from a world and from an item of unknown kind. -/
structure Underway (v : World) (key : Value) (s : Scan) : Prop where
  framework : s.world.framework = v.framework
  stores : v.store.StoresData s.world.store
  known : key ∈ s.queue.keys
  kind : s.queue.OfKind key .unknown

theorem underway_start (hroots : (addRoots workspace extension markup).exec ⟨v, {}⟩ = some (.ok (), s))
    (hroot : IsRoot v workspace extension markup key) (hbuiltin : key ≠ .text "BuiltIn")
    (hmarkup : ∀ file, InMarkup v markup file → key ≠ .text file) : Underway v key s := by
  obtain ⟨requests, hmem, hkinds, rfl⟩ := exec_addRoots_eq_ok hroots
  refine ⟨rfl, .refl _, WorkQueue.mem_keys_addAll.2 (Or.inr ((hmem key).2 hroot)), ?_⟩
  have hempty : WorkQueue.OfKind {} key .unknown := nofun
  refine hempty.addAll (Or.inr fun r hr hkey => ?_)
  rcases hkinds r hr with hkind | hlibrary | ⟨file, hfile, hlibrary⟩
  · exact hkind
  · exact absurd (hkey.symm.trans hlibrary) hbuiltin
  · exact absurd (hkey.symm.trans hlibrary) (hmarkup file hfile)

theorem Underway.round {source : TableSource} {item : Value × Work} {built : Except Fault Table}
    (h : Underway v key s) (htake : takeItem.exec s = some (.ok (some item), s₁))
    (hscan : (scanItem source database item).exec s₁ = some (.ok built, s')) :
    Underway v key s' := by
  obtain ⟨hqueue, hworld⟩ := exec_takeItem_eq_ok.1 htake
  obtain ⟨-, hfinish⟩ := exec_scanItem_eq_ok hscan
  obtain ⟨hframework, hstored⟩ := stored_of_scanItem hscan
  have hknown : key ∈ s₁.queue.keys := (WorkQueue.keys_perm_of_take hqueue).mem_iff.2 h.known
  refine ⟨by rw [hframework, hworld, h.framework], h.stores.trans ?_, ?_, ?_⟩
  · rw [hworld] at hstored
    rcases hstored with hstored | ⟨fault, -, -, hsame⟩
    · obtain ⟨table, -, hstored⟩ := Outcome.bind_eq_ok.1 hstored
      exact storesData_of_storedTable hstored
    · rw [hsame]
      exact .refl _
  · rw [WorkQueue.keys_of_finish hfinish]
    exact WorkQueue.mem_keys_addAll.2 (Or.inl hknown)
  · exact ((h.kind.of_take hqueue).addAll (Or.inl hknown)).of_finish hfinish

theorem Underway.rounds {source : TableSource} {log : List ((Value × Work) × Except Fault Table)}
    (h : Underway v key s) (hrounds : Rounds takeItem (scanItem source database) s log s') :
    Underway v key s' :=
  hrounds.preserves (fun _ s => Underway v key s) h fun _ _ _ _ _ _ hs htake hscan =>
    hs.round htake hscan

/-- A round of the scan of a workspace that starts in a world with an emptied database: its item,
what is built from the item, and the stores before and after it. -/
def HasRound (workspace extension database : String) (markup : Option String) (v : World)
    (key : Value) (built : Except Fault Table) (before after : Store) : Prop :=
  ∃ s log r r₁ r' work, (addRoots workspace extension markup).exec ⟨v, {}⟩ = some (.ok (), s) ∧
    Rounds takeItem (scanItem World.buildTable database) s log r ∧
    takeItem.exec r = some (.ok (some (key, work)), r₁) ∧
    (scanItem World.buildTable database (key, work)).exec r₁ = some (.ok built, r') ∧
    before = r.world.store ∧ after = r'.world.store

/-- A file that can be scanned on its own, under any spelling of its path, and with its workspace:
the database holds tables only and can be emptied, which gives the world `v`; there the file is one
of the workspace, and it describes no library; and the framework reads it as the same under both
spellings. -/
structure Rescannable (workspace extension database : String) (markup : Option String)
    (w v : World) (path : String) : Prop where
  cwd : Path.isAbsolute w.store.cwd = true
  data : w.store.HoldsData database
  fresh : (freshDatabase database).exec ⟨w, {}⟩ = some (.ok (), ⟨v, {}⟩)
  found : ∃ files file, v.store.findFiles workspace extension = .ok files ∧ file ∈ files ∧
    v.tidy file = w.tidy path
  noLibrary : ¬InMarkup v markup (w.tidy path)
  has : w.store.has path = true
  hasTidy : v.store.has (w.tidy path) = true
  model : w.robotModel path = w.robotModel (w.tidy path)

theorem Rescannable.isRoot (h : Rescannable workspace extension database markup w v path) :
    IsRoot v workspace extension markup (.text (w.tidy path)) := by
  obtain ⟨files, file, hfiles, hfile, htidy⟩ := h.found
  exact Or.inr (Or.inr ⟨files, file, hfiles, hfile, by rw [htidy]⟩)

theorem Rescannable.underway (h : Rescannable workspace extension database markup w v path)
    (hroots : (addRoots workspace extension markup).exec ⟨v, {}⟩ = some (.ok (), s)) :
    Underway v (.text (w.tidy path)) s := by
  refine underway_start hroots h.isRoot (fun hbuiltin => ?_) fun file hfile hkey => ?_
  · have habsolute : Path.isAbsolute (w.tidy path) = true := Path.isAbsolute_tidy h.cwd path
    rw [Value.text.inj hbuiltin] at habsolute
    cases habsolute
  · exact h.noLibrary (Value.text.inj hkey ▸ hfile)

/-- A scan that goes well has a round for the file. -/
theorem Rescannable.exists_round (h : Rescannable workspace extension database markup w v path)
    (hscan : (scan workspace extension database markup).exec ⟨w, {}⟩ = some (.ok (), s')) :
    ∃ built before after,
      HasRound workspace extension database markup v (.text (w.tidy path)) built before after := by
  obtain ⟨log, _, hscan, -⟩ := exec_bind_eq_ok.1 hscan
  obtain ⟨s, s₁, hroots, hrounds, hend⟩ := exists_rounds_of_exec_scanWith h.fresh hscan
  have hmem := (mem_log_iff_of_ended hroots hrounds hend (.text (w.tidy path))).2 (.root h.isRoot)
  obtain ⟨⟨⟨key, work⟩, built⟩, hlog, hkey⟩ := List.mem_map.1 hmem
  obtain rfl : key = .text (w.tidy path) := hkey
  obtain ⟨before, r, r₁, r', hbefore, htake, hitem⟩ := hrounds.of_mem hlog
  exact ⟨built, _, _, s, before, r, r₁, r', work, hroots, hbefore, htake, hitem, rfl, rfl⟩

/-! ### The same table -/

theorem buildTable_of_unknown {work : Work} (h : work.kind = .unknown) (w : World) (key : Value) :
    w.buildTable key work = w.buildTable key ⟨.waiting, .unknown, .null⟩ := by
  simp only [World.buildTable, h]

/-- The data of a file that is there is never at fault. -/
theorem buildTable_ne_error {fault : Fault} (hhas : w.store.has path = true)
    (hdata : fault.isData = true) :
    w.buildTable (.text path) ⟨.waiting, .unknown, .null⟩ ≠ .error fault := by
  have hnamed : w.buildTable (.text path) ⟨.waiting, .unknown, .null⟩ =
      ((w.buildRobot path).exec {}).1.map .robot := rfl
  have havoids := World.avoids_buildRobot hhas hdata {}
  rw [hnamed]
  cases hrobot : ((w.buildRobot path).exec {}).1 with
  | error fault' =>
    rintro ⟨⟩
    exact havoids hrobot
  | ok t => exact nofun

/-- The table of a file is the same in a scan that is underway as in a world that is alike to the one
in which the scan started. -/
theorem Underway.buildTable_eq {r : Scan} (hunderway : Underway v key r)
    (halike : u.store.AlikeButData v.store) (hframework : v.framework = u.framework)
    (hcwd : Path.isAbsolute u.store.cwd = true) (hhas : u.store.has path = true)
    (hhas' : v.store.has (u.tidy path) = true)
    (hmodel : u.robotModel path = u.robotModel (u.tidy path)) :
    r.world.buildTable (.text (u.tidy path)) ⟨.waiting, .unknown, .null⟩ =
      u.buildTable (.text path) ⟨.waiting, .unknown, .null⟩ := by
  have hstores := halike.trans hunderway.stores.alike
  have hworlds : World.AlikeForImports u r.world :=
    ⟨hstores.cwd, hunderway.framework.trans hframework, fun _ => hstores.hasFile_code⟩
  exact World.buildTable_tidy hworlds hcwd hhas (hunderway.stores.has hhas') hmodel

/-- The round of a file builds what is built when the file is scanned on its own, in a store that is
alike. -/
theorem Rescannable.round_eq (h : Rescannable workspace extension database markup w v path)
    {built : Except Fault Table} {before after : Store}
    (hround : HasRound workspace extension database markup v (.text (w.tidy path)) built before
      after) :
    ∃ u, openedFor w database = .ok u ∧ u.store.AlikeButData before ∧
      built = u.buildTable (.text path) ⟨.waiting, .unknown, .null⟩ ∧
      ((built >>= storedTable before database) = .ok after ∨
        ∃ fault : Fault, fault.isData = true ∧
          (built >>= storedTable before database) = .error fault ∧ after = before) := by
  obtain ⟨s, log, r, r₁, r', work, hroots, hrounds, htake, hitem, rfl, rfl⟩ := hround
  obtain ⟨u, hopen, halike, hframework⟩ := exists_openedFor h.data h.fresh
  obtain ⟨hfounds, hframework'⟩ := founds_of_openedFor hopen
  have hunderway := (h.underway hroots).rounds hrounds
  obtain ⟨hqueue, hworld⟩ := exec_takeItem_eq_ok.1 htake
  obtain ⟨rest, hitems, -, -⟩ := WorkQueue.takeWaiting_some hqueue
  have hkind : work.kind = .unknown := hunderway.kind work (by simp [hitems])
  obtain ⟨hbuilt, -⟩ := exec_scanItem_eq_ok hitem
  obtain ⟨-, hstored⟩ := stored_of_scanItem hitem
  have htidy : u.tidy path = w.tidy path := by rw [World.tidy, hfounds.cwd, World.tidy]
  have hsame (asked : String) : u.robotModel asked = w.robotModel asked := by
    unfold World.robotModel World.resourceModel
    rw [hframework']
  have hmodel : u.robotModel path = u.robotModel (u.tidy path) := by
    rw [htidy, hsame, hsame, h.model]
  have htable := hunderway.buildTable_eq halike (hframework.trans hframework'.symm)
    (by rw [hfounds.cwd, h.cwd]) (Store.has_of_keeps hfounds.keeps h.has) (by rw [htidy, h.hasTidy])
    hmodel
  rw [hworld] at hbuilt hstored
  rw [htidy] at htable
  refine ⟨u, hopen, halike.trans hunderway.stores.alike, ?_, hstored⟩
  rw [hbuilt, ← htable]
  exact buildTable_of_unknown hkind r.world _

/-- How a table is recorded: it is written under its name and every other file stays as it is, or it
cannot be stored and every file stays as it is. -/
def Records (database : String) (t : Table) (s s' : Store) : Prop :=
  (∃ name, t.fileName = .ok name ∧ s.Writes s' (Path.join database name) t.document) ∨
    Unstorable database t ∧ s.SameFiles s'

theorem records_of_storedTable {t : Table} {store store' : Store}
    (h : storedTable store database t = .ok store') : Records database t store store' := by
  obtain ⟨name, hname, hwrite⟩ := storedTable_eq_ok.1 h
  exact Or.inl ⟨name, hname, Store.writes_of_writeDocument (isPlain_of_fileName hname) hwrite⟩

theorem Records.of_sameFiles {t : Table} {store store' store'' : Store} (h : store.SameFiles store')
    (h' : Records database t store' store'') : Records database t store store'' := by
  rcases h' with ⟨name, hname, hwrites⟩ | ⟨hnone, hsame⟩
  · exact Or.inl ⟨name, hname, h.writes hwrites⟩
  · exact Or.inr ⟨hnone, fun place text => (hsame place text).trans (h place text)⟩

/-- **A file that is scanned on its own gets the table that the scan of its workspace writes for
it.** The scan of the workspace has a round for the file if it goes well. Whenever it has one, a
table is built in it, and the scan of the file, under whatever spelling, goes well and records the
same table. Every other file stays as it is; and so do all files if the data is at fault when the
table is built. -/
theorem scanFile_eq_rescan (workspace extension database : String) (markup : Option String)
    (w : World) (path : String) :
    (∀ v, Rescannable workspace extension database markup w v path →
      (∀ s', (scan workspace extension database markup).exec ⟨w, {}⟩ = some (.ok (), s') →
        ∃ built before after,
          HasRound workspace extension database markup v (.text (w.tidy path)) built before after) ∧
      ∀ built before after,
        HasRound workspace extension database markup v (.text (w.tidy path)) built before after →
        ∃ table s', built = .ok table ∧ Records database table before after ∧
          (scanFile path database).exec ⟨w, {}⟩ = some (.ok (), s') ∧
          Records database table w.store s'.world.store) ∧
    ∀ u fault, openedFor w database = .ok u →
      u.buildTable (.text path) ⟨.waiting, .unknown, .null⟩ = .error fault → fault.isData = true →
      ∃ s', (scanFile path database).exec ⟨w, {}⟩ = some (.ok (), s') ∧
        w.store.SameFiles s'.world.store := by
  refine ⟨fun v h => ⟨fun s' => h.exists_round, fun built before after hround => ?_⟩,
    fun u fault hopen hbuilt hdata => ?_⟩
  · obtain ⟨u, hopen, halike, rfl, hstored⟩ := h.round_eq hround
    obtain ⟨hfounds, -⟩ := founds_of_openedFor hopen
    have hsame := hfounds.sameFiles
    cases hbuilt : u.buildTable (.text path) ⟨.waiting, .unknown, .null⟩ with
    | error fault =>
      rw [hbuilt] at hstored
      rcases hstored with hstored | ⟨_, hdata, ⟨⟩, -⟩
      · cases hstored
      · exact absurd hbuilt (buildTable_ne_error (Store.has_of_keeps hfounds.keeps h.has) hdata)
    | ok table =>
      rw [hbuilt] at hstored
      rcases hstored with hstored | ⟨fault, hdata, hstored, rfl⟩
      · obtain ⟨name, hname, hwrite⟩ := storedTable_eq_ok.1 hstored
        obtain ⟨store, hstore⟩ := halike.exists_writeDocument (isPlain_of_fileName hname) hwrite
        have hfile : storedTable u.store database table = .ok store :=
          storedTable_eq_ok.2 ⟨name, hname, hstore⟩
        refine ⟨table, ⟨{ u with store }, {}⟩, rfl, records_of_storedTable hstored,
          exec_scanFile_eq_ok.2 ⟨u, hopen, Or.inl ⟨store, ?_, rfl⟩⟩,
          (records_of_storedTable hfile).of_sameFiles hsame⟩
        rw [storedFile_eq, hbuilt]
        exact hfile
      · obtain ⟨hnone, hfile⟩ := unstorable_of_storedTable hstored hdata
        refine ⟨table, ⟨u, {}⟩, rfl, Or.inr ⟨hnone, .refl _⟩,
          exec_scanFile_eq_ok.2 ⟨u, hopen, Or.inr ⟨fault, hdata, ?_, rfl⟩⟩,
          Or.inr ⟨hnone, hsame⟩⟩
        rw [storedFile_eq, hbuilt]
        exact hfile u.store
  · obtain ⟨hfounds, -⟩ := founds_of_openedFor hopen
    refine ⟨⟨u, {}⟩, exec_scanFile_eq_ok.2 ⟨u, hopen, Or.inr ⟨fault, hdata, ?_, rfl⟩⟩,
      hfounds.sameFiles⟩
    rw [storedFile_eq, hbuilt]
    rfl

/-- A model that imports the file itself, by a path from its folder. -/
def selfModel : Model where
  imports := [⟨.text "Resource", .text "../ws/a.robot", .null, .null⟩]

/-- A spelling of the file by a detour. -/
def detour : String := "ws/../ws/a.robot"

/-- The file under two spellings. -/
def detourFramework : Framework where
  resources := [("/ws/a.robot", selfModel), (detour, selfModel)]

/-- A workspace next to a database with an old table. -/
def detourWorld : World where
  store := { smallDatabase with
    entries := smallDatabase.entries ++ [(["db", "old.json"], .file "")] }
  framework := detourFramework

/-- The table of the file. -/
def selfTable : RobotTable :=
  { fileName := "a.robot", filePath := "/ws/a.robot", keywords := [], varNames := [],
    resources := ["/ws/a.robot"], libraries := [], variableFiles := [] }

theorem holdsData_detour : detourWorld.store.HoldsData "/db" := by
  have hlocate : detourWorld.store.locate "/db" = .ok ["db"] := by decide +kernel
  rintro place hplace (_ | ⟨name, rest⟩) entry hbelow hentry
  · exact absurd rfl hbelow
  rw [hlocate] at hplace
  cases hplace
  have hlookup : detourWorld.store.entries.lookup ("db" :: name :: rest) = some entry := hentry
  simp only [detourWorld, smallDatabase, smallStore, List.cons_append, List.nil_append,
    List.lookup_cons, List.lookup_nil] at hlookup
  split at hlookup
  · simp_all
  split at hlookup
  · simp_all
  split at hlookup
  · simp_all
  split at hlookup
  · rename_i hold
    obtain ⟨rfl, rfl⟩ : name = "old.json" ∧ rest = [] := by simpa using hold
    cases hlookup
    exact ⟨_, _, rfl, by decide, rfl⟩
  · cases hlookup

theorem exec_freshDatabase_detour : (freshDatabase "/db").exec ⟨detourWorld, {}⟩ =
    some (.ok (), ⟨⟨smallDatabase, detourFramework⟩, {}⟩) := by
  have hhas : detourWorld.store.has "/db" = true := by decide +kernel
  have hremove : (Store.removeFolder "/db").run detourWorld.store = (.ok (), smallStore) := by
    have hremoved : ((Store.removeFolder "/db").run detourWorld.store).1 = .ok () := by
      decide +kernel
    have hstore : ((Store.removeFolder "/db").run detourWorld.store).2 = smallStore := by
      decide +kernel
    exact Prod.ext hremoved hstore
  unfold freshDatabase
  rw [exec_bind, exec_get, Option.bind_some]
  simp only [hhas, if_true]
  exact exec_bind_eq_ok.2 ⟨(), _, exec_onStore_eq_ok.2 ⟨_, hremove, rfl⟩,
    exec_onStore_eq_ok.2 ⟨_, run_makeFolder_small, rfl⟩⟩

theorem rescannable_detour : Rescannable "/ws" "robot" "/db" none detourWorld
    ⟨smallDatabase, detourFramework⟩ detour where
  cwd := rfl
  data := holdsData_detour
  fresh := exec_freshDatabase_detour
  found := ⟨_, "/ws/a.robot", findFiles_smallDatabase, List.mem_singleton_self _, by decide +kernel⟩
  noLibrary := by simp [InMarkup]
  has := by decide +kernel
  hasTidy := by decide +kernel
  model := by decide +kernel

theorem storedTable_detour : storedTable smallDatabase "/db" (.robot selfTable) =
    .ok (smallDatabase.put ["db", smallTable] (.file selfTable.document.render)) := by
  decide +kernel

/-- The world after the round of the file. -/
def scannedWorld : World where
  store := smallDatabase.put ["db", smallTable] (.file selfTable.document.render)
  framework := detourFramework

/-- The file in the queue. -/
abbrev fileItem (progress : Progress) : Value × Work :=
  (.text "/ws/a.robot", ⟨progress, .unknown, .null⟩)

/-- The library that every suite uses in the queue. -/
abbrev libraryItem (progress : Progress) : Value × Work :=
  (.text "BuiltIn", ⟨progress, .library, .list []⟩)

theorem exec_scanItem_file : (scanItem World.buildTable "/db" (fileItem .waiting)).exec
    ⟨⟨smallDatabase, detourFramework⟩, ⟨[libraryItem .waiting, fileItem .taken]⟩⟩ =
      some (.ok (.ok (.robot selfTable)),
        ⟨scannedWorld, ⟨[libraryItem .waiting, fileItem .done]⟩⟩) := by
  have hbuilt : World.buildTable ⟨smallDatabase, detourFramework⟩ (fileItem .waiting).1
      (fileItem .waiting).2 = .ok (.robot selfTable) := rfl
  exact exec_scanItem_of_stored hbuilt storedTable_detour rfl

theorem exec_scanItem_library : (scanItem World.buildTable "/db" (libraryItem .waiting)).exec
    ⟨scannedWorld, ⟨[fileItem .done, libraryItem .taken]⟩⟩ =
      some (.ok (.error (.refused (.noLibrary "BuiltIn"))),
        ⟨scannedWorld, ⟨[fileItem .done, libraryItem .done]⟩⟩) :=
  exec_scanItem_of_data rfl rfl rfl

/-- The scan of the workspace goes well. -/
theorem exec_scan_detour :
    ∃ s', (scan "/ws" "robot" "/db" none).exec ⟨detourWorld, {}⟩ = some (.ok (), s') := by
  have hneed : (needWorkspace "/ws").exec ⟨detourWorld, {}⟩ = some (.ok (), ⟨detourWorld, {}⟩) :=
    exec_needWorkspace_of_has (by decide +kernel) (by decide +kernel)
  exact ⟨_, exec_bind_eq_ok.2 ⟨_, _, exec_scanWith_of_rounds hneed exec_freshDatabase_detour
    (exec_addRoots_small _)
    (.round rfl exec_scanItem_file (.round rfl exec_scanItem_library (.start _))) rfl, rfl⟩⟩

/-- A file that is scanned by a detour next to an old table, and a file that is not there. -/
theorem scanFile_eq_rescan_detour :
    Rescannable "/ws" "robot" "/db" none detourWorld ⟨smallDatabase, detourFramework⟩ detour ∧
    (∃ built before after table s', HasRound "/ws" "robot" "/db" none
        ⟨smallDatabase, detourFramework⟩ (.text (detourWorld.tidy detour)) built before after ∧
      built = .ok table ∧ Records "/db" table before after ∧
      (scanFile detour "/db").exec ⟨detourWorld, {}⟩ = some (.ok (), s') ∧
      Records "/db" table detourWorld.store s'.world.store) ∧
    ∃ s', (scanFile "/ws/b.robot" "/db").exec ⟨detourWorld, {}⟩ = some (.ok (), s') ∧
      detourWorld.store.SameFiles s'.world.store := by
  obtain ⟨s', hscan⟩ := exec_scan_detour
  obtain ⟨hsame, -⟩ := scanFile_eq_rescan "/ws" "robot" "/db" none detourWorld detour
  obtain ⟨-, hfault⟩ := scanFile_eq_rescan "/ws" "robot" "/db" none detourWorld "/ws/b.robot"
  obtain ⟨hround, hrecords⟩ := hsame _ rescannable_detour
  obtain ⟨built, before, after, hround⟩ := hround s' hscan
  obtain ⟨table, s'', hbuilt, hrecord⟩ := hrecords built before after hround
  refine ⟨rescannable_detour, ⟨built, before, after, table, s'', hround, hbuilt, hrecord⟩, ?_⟩
  exact hfault detourWorld (.refused (.noFile "/ws/b.robot")) (if_pos (by decide +kernel)) rfl rfl

end Scanning

end KeywordCatalog
