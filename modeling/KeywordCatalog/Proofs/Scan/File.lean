import KeywordCatalog.Proofs.Scan.Round
import KeywordCatalog.Proofs.Store
import KeywordCatalog.Proofs.Table.Document
import KeywordCatalog.Proofs.Table.Name

/-!
# The scan of a single file

Scanning a file that is there writes the table of what the framework reads it as. The data of the
file is never at fault, so the table is missing only if its path cannot be the path of a file.
-/

namespace KeywordCatalog

open Routine

namespace Scanning

variable {path database table : String} {s s₁ s' : Scan} {m : Model} {fault : Fault}

/-- The store after the table of a file was written. -/
def storedFile (w : World) (path database : String) : Except Fault Store := do
  let table ← w.buildTable (.text path) ⟨.waiting, .unknown, .null⟩
  let name ← table.fileName
  w.store.writeDocument (Path.join database name) table.document

theorem storedFile_eq (w : World) (path database : String) : storedFile w path database =
    w.buildTable (.text path) ⟨.waiting, .unknown, .null⟩ >>= storedTable w.store database := rfl

theorem exec_storedFile (path database : String) (s : Scan) : (do
      let table ← World.buildTable (← get).world (.text path) ⟨.waiting, .unknown, .null⟩
      storeTable database table : Scanning Unit).exec s =
    some (storedAs s (storedFile s.world path database)) := by
  rw [exec_bind, exec_get, Option.bind_some, storedFile_eq]
  dsimp only
  rw [exec_lift_bind]
  cases s.world.buildTable (.text path) ⟨.waiting, .unknown, .null⟩ with
  | error fault => rfl
  | ok table => exact exec_storeTable database table

/-- The world in which a single file is scanned: the database is made if it is missing. -/
def openedFor (w : World) (database : String) : Except Fault World :=
  if w.store.has database then .ok w
  else ((Store.makeFolder database false).run w.store).1.map fun _ =>
    { w with store := ((Store.makeFolder database false).run w.store).2 }

theorem founds_of_openedFor {w u : World} (h : openedFor w database = .ok u) :
    w.store.Founds u.store ∧ u.framework = w.framework := by
  have hfounds := Store.founds_makeFolder database false w.store
  unfold openedFor at h
  split at h
  · cases h
    exact ⟨.refl _, rfl⟩
  · generalize (Store.makeFolder database false).run w.store = made at h hfounds
    obtain ⟨fault | _, store⟩ := made <;> cases h
    exact ⟨hfounds, rfl⟩

/-- A scan that goes well makes the database if it is missing, and writes the table of the file
unless its data is at fault. -/
theorem exec_scanFile_eq_ok : (scanFile path database).exec s = some (.ok (), s') ↔
    ∃ u, openedFor s.world database = .ok u ∧
      ((∃ store, storedFile u path database = .ok store ∧ s' = ⟨{ u with store }, s.queue⟩) ∨
        ∃ fault : Fault, fault.isData = true ∧ storedFile u path database = .error fault ∧
          s' = ⟨u, s.queue⟩) := by
  have hopen : (scanFile path database).exec s = some (.ok (), s') ↔
      ∃ u, openedFor s.world database = .ok u ∧ (forgiving () (do
        let table ← World.buildTable (← get).world (.text path) ⟨.waiting, .unknown, .null⟩
        storeTable database table) : Scanning Unit).exec ⟨u, s.queue⟩ = some (.ok (), s') := by
    unfold scanFile openedFor
    rw [exec_bind, exec_get, Option.bind_some]
    dsimp only
    cases s.world.store.has database with
    | true => simp
    | false =>
      simp only [Bool.not_false, if_true, Bool.false_eq_true, if_false]
      rw [exec_bind, exec_onStore, Option.bind_some]
      generalize (Store.makeFolder database false).run s.world.store = made
      obtain ⟨fault | _, store⟩ := made <;> simp [Except.map]
  simp only [hopen, exec_forgiving_storedAs (exec_storedFile path database _)]

/-- The table of a file is written into a database that is there. -/
theorem exec_scanFile_of_storedFile {store : Store} (hhas : s.world.store.has database = true)
    (h : storedFile s.world path database = .ok store) :
    (scanFile path database).exec s =
      some (.ok (), { s with world := { s.world with store } }) :=
  exec_scanFile_eq_ok.2 ⟨s.world, if_pos hhas, Or.inl ⟨store, h, rfl⟩⟩

/-- The table of a file that is there holds what the framework's model says of the file. -/
theorem holds_of_storedFile {w : World} {built : Except Fault Store}
    (hhas : w.store.has path = true) (hmodel : w.robotModel path = .ok m)
    (hbuilt : storedFile w path database = built)
    (hfault : ∀ fault, built = .error fault → fault.isData = true) :
    ∃ t, World.Holds w path m t ∧ built = (do
      let name ← TableName.ofPath (w.tidy path)
      w.store.writeDocument (Path.join database name) t.document) := by
  have hnamed : w.buildTable (.text path) ⟨.waiting, .unknown, .null⟩ =
      ((w.buildRobot path).exec {}).1.map .robot := rfl
  rw [storedFile, hnamed] at hbuilt
  cases hrobot : ((w.buildRobot path).exec {}).1 with
  | error fault =>
    rw [hrobot] at hbuilt
    exact absurd hrobot (World.avoids_buildRobot hhas (hfault fault hbuilt.symm) {})
  | ok t =>
    rw [hrobot] at hbuilt
    obtain ⟨m', hm', hholds⟩ := World.holds_of_buildRobot hrobot
    obtain rfl : m = m' := Except.ok.inj (hmodel.symm.trans hm')
    refine ⟨t, hholds, ?_⟩
    rw [← hbuilt, ← hholds.filePath]
    rfl

/-- **The scan of a file that is there writes the table of what the framework reads it as**, if the
path of the table can lead anywhere. -/
theorem readDocument_of_scanFile (hhas : s.world.store.has path = true)
    (hmodel : s.world.robotModel path = .ok m) (hfaithful : m.Faithful) (hnames : m.Nameable)
    (htable : TableName.ofPath (s.world.tidy path) = .ok table)
    (hplace : ∀ fault, fault.isData = true →
      s'.world.store.locate (Path.join database table) ≠ .error fault)
    (h : (scanFile path database).exec s = some (.ok (), s')) :
    ∃ w t, World.Holds w path m t ∧ w.tidy path = s.world.tidy path ∧
      s'.world.store.cwd = s.world.store.cwd ∧
      s'.world.store.readDocument (Path.join database table) = .ok t.document := by
  obtain ⟨w, hopen, h⟩ := exec_scanFile_eq_ok.1 h
  obtain ⟨hfounds, hframework⟩ := founds_of_openedFor hopen
  have hkeeps := hfounds.keeps
  have htidy : w.tidy path = s.world.tidy path := by rw [World.tidy, hkeeps.cwd, World.tidy]
  have hhas' : w.store.has path = true := Store.has_of_keeps hkeeps hhas
  have hmodel' : w.robotModel path = .ok m := by
    rw [← hmodel]
    unfold World.robotModel World.resourceModel
    rw [hframework]
  have hname := Store.isPlain_name_join (TableName.isPlain_ofPath htable) database
  rcases h with ⟨store, hstored, rfl⟩ | ⟨fault, hdata, hstored, rfl⟩
  · obtain ⟨t, hholds, hwrite⟩ := holds_of_storedFile hhas' hmodel' hstored nofun
    rw [htidy, htable] at hwrite
    exact ⟨w, t, hholds, htidy, (Store.cwd_writeDocument hname hwrite.symm).trans hkeeps.cwd,
      Store.readDocument_writeDocument (hholds.faithful_document hnames hfaithful) hname
        hwrite.symm⟩
  · obtain ⟨t, -, hwrite⟩ := holds_of_storedFile hhas' hmodel' hstored (by
      rintro _ ⟨⟩
      exact hdata)
    rw [htidy, htable] at hwrite
    exact absurd (Store.locate_eq_error_of_writeDocument hname hwrite.symm hdata _)
      (hplace fault hdata)

end Scanning

end KeywordCatalog
