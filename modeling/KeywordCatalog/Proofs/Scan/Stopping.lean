import KeywordCatalog.Proofs.Scan.Finite

/-!
# What stops a scan

A fault in the data of one item does not end a scan: the scan goes on with the next item, and every
item that can be reached has its round. Any other fault ends it, and what waits in the queue then is
left without a table (`Scanning.scan_stops_iff`). The framework's own fault is one of these: a file
that it takes neither for a resource nor for a suite ends the scan.
-/

namespace KeywordCatalog

open Routine

/-- Building a table fails with the framework's fault exactly for a file that is there and that the
framework takes neither for a resource nor for a suite. -/
theorem World.buildTable_eq_framework {w : World} {path : String} {work : Work}
    (hlibrary : work.kind ≠ .library) (hvariables : work.kind ≠ .variableFile) :
    w.buildTable (.text path) work = .error .framework ↔
      w.store.has path = true ∧ w.robotModel path = .error .framework := by
  have hbuild : w.buildTable (.text path) work = (w.buildRobotNamed (.text path)).map .robot := by
    unfold buildTable
    split
    · rfl
    · rfl
    · rfl
    · contradiction
    · contradiction
  rw [hbuild, ← buildRobot_eq_framework (b := {})]
  change Except.map _ ((w.buildRobot path).exec {}).1 = _ ↔ _
  cases ((w.buildRobot path).exec {}).1 <;> simp [Except.map]

namespace Scanning

variable {source : TableSource} {workspace extension database : String} {markup : Option String}
  {w v u : World} {s s₁ s₂ s' : Scan} {item : Value × Work} {fault : Fault}
  {log : List ((Value × Work) × Except Fault Table)}

/-- Whether a scan takes up an item in a world, after some rounds from a state on. -/
def TakesUp (source : TableSource) (database : String) (s : Scan) (item : Value × Work)
    (u : World) : Prop :=
  ∃ log s₁ s₂, Rounds takeItem (scanItem source database) s log s₁ ∧
    takeItem.exec s₁ = some (.ok (some item), s₂) ∧ s₁.world = u

/-- The store after the table of an item was built in a world and stored. -/
def afterItem (source : TableSource) (database : String) (u : World) (item : Value × Work) :
    Except Fault Store :=
  source u item.1 item.2 >>= storedTable u.store database

theorem exists_finish_of_take (h : takeItem.exec s = some (.ok (some item), s₁))
    (requests : List Request) : ∃ queue, (s₁.queue.addAll requests).finish item.1 = .ok queue := by
  obtain ⟨htake, -⟩ := exec_takeItem_eq_ok.1 h
  exact WorkQueue.exists_finish
    (WorkQueue.mem_keys_addAll.2 (Or.inl (WorkQueue.mem_keys_of_take htake)))

/-- The rounds of a scan end with a fault exactly when an item is taken up that meets it, and nothing
is written from then on. -/
theorem exec_scanItems_eq_error :
    (∃ queue, (scanItems source database).exec s = some (.error fault, ⟨u, queue⟩)) ↔
      ∃ item, TakesUp source database s item u ∧ afterItem source database u item = .error fault ∧
        fault.isData = false := by
  constructor
  · rintro ⟨queue, h⟩
    obtain ⟨log, s₁, hrounds, htake | ⟨item, s₂, htake, hround⟩⟩ :=
      exists_rounds_isEnd h
    · cases htake
    · obtain ⟨-, hworld⟩ := exec_takeItem_eq_ok.1 htake
      obtain ⟨queue', hfinish⟩ := exists_finish_of_take htake _
      obtain ⟨hstored, hdata, hended⟩ := (exec_scanItem_eq_error hfinish).1 hround
      cases hended
      exact ⟨item, ⟨log, s₁, s₂, hrounds, htake, hworld.symm⟩, hstored, hdata⟩
  · rintro ⟨item, ⟨log, s₁, s₂, hrounds, htake, rfl⟩, hstored, hdata⟩
    obtain ⟨-, hworld⟩ := exec_takeItem_eq_ok.1 htake
    obtain ⟨queue, hfinish⟩ := exists_finish_of_take htake _
    rw [← hworld] at hstored
    have hround := (exec_scanItem_eq_error hfinish).2 ⟨hstored, hdata, rfl⟩
    refine ⟨queue, exec_drain_eq_error_iff.2 ⟨log, s₁, hrounds, Or.inr ⟨item, s₂, htake, ?_⟩⟩⟩
    rw [hround, ← hworld]

/-- Every round that was gone through took up its item, and built what it built there. -/
theorem takesUp_of_mem (hrounds : Rounds takeItem (scanItem source database) s log s')
    {built : Except Fault Table} (he : (item, built) ∈ log) :
    ∃ u, TakesUp source database s item u ∧ built = source u item.1 item.2 := by
  obtain ⟨before, s₁, s₂, s₃, hbefore, htake, hround⟩ := hrounds.of_mem he
  obtain ⟨-, hworld⟩ := exec_takeItem_eq_ok.1 htake
  obtain ⟨hbuilt, -⟩ := exec_scanItem_eq_ok hround
  exact ⟨s₁.world, ⟨before, s₁, s₂, hbefore, htake, rfl⟩, hworld ▸ hbuilt⟩

section Start

variable (hneed : (needWorkspace workspace).exec ⟨w, {}⟩ = some (.ok (), ⟨w, {}⟩))
  (hfresh : (freshDatabase database).exec ⟨w, {}⟩ = some (.ok (), ⟨v, {}⟩))
  (hroots : (addRoots workspace extension markup).exec ⟨v, {}⟩ = some (.ok (), s))
include hneed hfresh hroots

/-- A scan whose start goes well goes on with its rounds. -/
theorem exec_scanWith_of_roots :
    (scanWith source workspace extension database markup).exec ⟨w, {}⟩ =
      (scanItems source database).exec s := by
  unfold scanWith
  rw [exec_bind_of_ok hneed, exec_bind_of_ok hfresh, exec_bind_of_ok hroots]

theorem exec_scan_eq_error : (scan workspace extension database markup).exec ⟨w, {}⟩ =
    some (.error fault, s') ↔ (scanItems World.buildTable database).exec s =
      some (.error fault, s') := by
  unfold scan
  rw [exec_bind, exec_scanWith_of_roots hneed hfresh hroots]
  rcases (scanItems World.buildTable database).exec s with _ | ⟨_ | _, _⟩ <;> simp

/-- A scan of what is stored ends. -/
theorem exists_exec_scan : ∃ ended, (scan workspace extension database markup).exec ⟨w, {}⟩ =
    some ended := by
  have hfinite : {key | InClosure World.buildTable workspace extension database markup v key}.Finite :=
    finite_closure hroots
  obtain ⟨⟨result, s'⟩, hitems⟩ := exists_exec_drain_of_length_lt ends_takeItem
    (fun item => ends_scanItem) (hfinite.toFinset.card + 1) fun log s' h =>
      Nat.lt_succ_of_le (length_le_of_rounds hroots h hfinite)
  have hscan : (scanWith World.buildTable workspace extension database markup).exec ⟨w, {}⟩ =
      some (result, s') := (exec_scanWith_of_roots hneed hfresh hroots).trans hitems
  unfold scan
  rw [exec_bind, hscan, Option.bind_some]
  cases result <;> exact ⟨_, rfl⟩

end Start

/-- **A scan is stopped by a fault that is not one of the data, and by nothing else.** Let `v` be the
world with the emptied database, in which the scan starts from `s`. The scan ends; and it ends with a
fault, leaving a world `u`, exactly if it takes up an item in `u` that it cannot build or store the
table of, the data not being at fault. Otherwise it gets through, and each item that can be reached
has its round: its data is at fault, or it has a table that cannot be stored at all or that is
stored, unless a later table has the same place. A file that is there and that the framework takes
neither for a resource nor for a suite stops the scan. -/
theorem scan_stops_iff
    (hneed : (needWorkspace workspace).exec ⟨w, {}⟩ = some (.ok (), ⟨w, {}⟩))
    (hfresh : (freshDatabase database).exec ⟨w, {}⟩ = some (.ok (), ⟨v, {}⟩))
    (hroots : (addRoots workspace extension markup).exec ⟨v, {}⟩ = some (.ok (), s)) :
    (∃ ended, (scan workspace extension database markup).exec ⟨w, {}⟩ = some ended) ∧
    (∀ fault u, (∃ queue, (scan workspace extension database markup).exec ⟨w, {}⟩ =
        some (.error fault, ⟨u, queue⟩)) ↔
      ∃ item, TakesUp World.buildTable database s item u ∧
        afterItem World.buildTable database u item = .error fault ∧ fault.isData = false) ∧
    ((∀ item u fault, TakesUp World.buildTable database s item u →
        afterItem World.buildTable database u item = .error fault → fault.isData = true) →
      ∃ log s', (scanWith World.buildTable workspace extension database markup).exec ⟨w, {}⟩ =
          some (.ok log, s') ∧
        (scan workspace extension database markup).exec ⟨w, {}⟩ = some (.ok (), s') ∧
        ∀ key, InClosure World.buildTable workspace extension database markup v key →
          ∃ work built, ((key, work), built) ∈ log ∧
            ((∃ fault, built = .error fault ∧ fault.isData = true) ∨
              ∃ t, built = .ok t ∧ (Unstorable database t ∨
                ∃ place last, placeOf v.store database t = .ok place ∧
                  lastAt v.store database place (tablesOf log) = some last ∧
                  s'.world.store.entry? place = some (.file last.document.render)))) ∧
    ∀ path work u, work.kind ≠ .library → work.kind ≠ .variableFile →
      TakesUp World.buildTable database s (.text path, work) u → u.store.has path = true →
      u.robotModel path = .error .framework →
      ∃ queue, (scan workspace extension database markup).exec ⟨w, {}⟩ =
        some (.error .framework, ⟨u, queue⟩) := by
  have hstops (fault : Fault) (u : World) :
      (∃ queue, (scan workspace extension database markup).exec ⟨w, {}⟩ =
        some (.error fault, ⟨u, queue⟩)) ↔
      ∃ item, TakesUp World.buildTable database s item u ∧
        afterItem World.buildTable database u item = .error fault ∧ fault.isData = false := by
    rw [← exec_scanItems_eq_error]
    exact exists_congr fun queue => exec_scan_eq_error hneed hfresh hroots
  have hends : ∃ ended, (scan workspace extension database markup).exec ⟨w, {}⟩ = some ended :=
    exists_exec_scan hneed hfresh hroots
  refine ⟨hends, hstops, fun hspared => ?_,
    fun path work u hlibrary hvariables htakes hhas hmodel => ?_⟩
  · obtain ⟨⟨_ | ⟨⟨⟩⟩, s'⟩, hscan⟩ := hends
    · -- a fault at the end would be that of an item, which is one of the data
      obtain ⟨item, htakes, hstored, hdata⟩ := (hstops _ s'.world).1 ⟨s'.queue, hscan⟩
      rw [hspared item _ _ htakes hstored] at hdata
      cases hdata
    obtain ⟨log, s₁, hwith, ⟨⟩⟩ := exec_bind_eq_ok.1 hscan
    refine ⟨log, s', hwith, hscan, fun key hkey => ?_⟩
    have hwritten := written_of_exec_scanWith hfresh hwith
    rw [exec_scanWith_of_roots hneed hfresh hroots] at hwith
    obtain ⟨s₁, hrounds, hend⟩ := exists_rounds_of_exec_drain hwith
    obtain ⟨⟨⟨key, work⟩, built⟩, he, rfl⟩ :=
      List.mem_map.1 ((mem_log_iff_of_ended hroots hrounds hend key).2 hkey)
    refine ⟨work, built, he, ?_⟩
    obtain ⟨u, htakes, hbuilt⟩ := takesUp_of_mem hrounds he
    cases built with
    | error fault =>
      refine Or.inl ⟨fault, rfl, hspared _ u fault htakes ?_⟩
      rw [afterItem, ← hbuilt]
      rfl
    | ok t =>
      refine Or.inr ⟨t, rfl, ?_⟩
      have ht : t ∈ tablesOf log := List.mem_filterMap.2 ⟨_, he, rfl⟩
      rcases hwritten.placed t ht with ⟨place, hplace⟩ | hnone
      · obtain ⟨before, after, htables⟩ := List.append_of_mem ht
        obtain ⟨last, -, hlast, -, -⟩ := lastAt_append_cons hplace before after
        rw [← htables] at hlast
        refine Or.inr ⟨place, last, hplace, hlast, ?_⟩
        rw [hwritten.entry, hlast]
        rfl
      · exact Or.inl hnone
  · refine (hstops _ u).2 ⟨_, htakes, ?_, rfl⟩
    rw [afterItem, (World.buildTable_eq_framework hlibrary hvariables).2 ⟨hhas, hmodel⟩]
    rfl

/-- A framework that knows the library that every suite uses and takes no file for a suite. -/
def brokenFramework : Framework where
  libraries := [("BuiltIn", [keywordNamed "one"])]

/-- A file that the framework cannot read keeps the library that every suite uses from getting a
table. -/
theorem scan_stops_iff_broken :
    (∃ queue, (scan "/ws" "robot" "/db" none).exec ⟨⟨smallStore, brokenFramework⟩, {}⟩ =
      some (.error .framework, ⟨⟨smallDatabase, brokenFramework⟩, queue⟩)) ∧
    InClosure World.buildTable "/ws" "robot" "/db" none ⟨smallDatabase, brokenFramework⟩
      (.text "BuiltIn") ∧
    ∃ t, World.buildTable ⟨smallDatabase, brokenFramework⟩ (.text "BuiltIn")
      (libraryItem .waiting).2 = .ok t := by
  have hneed : (needWorkspace "/ws").exec ⟨⟨smallStore, brokenFramework⟩, {}⟩ =
      some (.ok (), ⟨⟨smallStore, brokenFramework⟩, {}⟩) :=
    exec_needWorkspace_of_has (by decide +kernel) (by decide +kernel)
  obtain ⟨-, -, -, hstops⟩ := scan_stops_iff hneed (exec_freshDatabase_small brokenFramework)
    (exec_addRoots_small brokenFramework)
  refine ⟨?_, .root (Or.inl rfl), _, rfl⟩
  exact hstops "/ws/a.robot" (fileItem .waiting).2 _ nofun nofun ⟨[], _, _, .start _, rfl, rfl⟩
    (by decide +kernel) (by decide +kernel)

end Scanning

end KeywordCatalog
