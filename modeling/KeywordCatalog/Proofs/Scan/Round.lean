import KeywordCatalog.Proofs.Outcome
import KeywordCatalog.Proofs.Rounds
import KeywordCatalog.Scan

/-!
# One round of a scan

A round builds the table of an item, puts what the table imports into the queue, writes the table
and marks the item as done. `exec_scanItem_eq_ok` says what a round leaves in the queue if it does
not fail: whatever becomes of the table, what it imports is asked for and the item is done. Every
round has an end (`ends_scanItem`).
-/

namespace KeywordCatalog

open Routine

namespace Scanning

variable {source : TableSource} {database : String} {s s₁ s' : Scan} {item : Value × Work}
  {built : Except Fault Table}

/-- The items that are asked for by what was built. -/
def requestsOf : Except Fault Table → List Request
  | .ok table => table.requests
  | .error _ => []

theorem exec_takeItem_eq_ok {item? : Option (Value × Work)} :
    takeItem.exec s = some (.ok item?, s') ↔
      s.queue.takeWaiting = (item?, s'.queue) ∧ s'.world = s.world := by
  have hexec : takeItem.exec s =
      some (.ok s.queue.takeWaiting.1, ⟨s.world, s.queue.takeWaiting.2⟩) := rfl
  obtain ⟨world', queue'⟩ := s'
  rw [hexec, Option.some.injEq, Prod.mk.injEq, Except.ok.injEq, Scan.mk.injEq, Prod.ext_iff]
  constructor
  · rintro ⟨hitem, hworld, hqueue⟩
    exact ⟨⟨hitem, hqueue⟩, hworld.symm⟩
  · rintro ⟨⟨hitem, hqueue⟩, hworld⟩
    exact ⟨hitem, hworld.symm, hqueue⟩

theorem exec_finishItem (key : Value) :
    (finishItem key).exec s =
      match s.queue.finish key with
      | .ok queue => some (.ok (), { s with queue })
      | .error fault => some (.error fault, s) := by
  unfold finishItem
  simp only [exec_bind, exec_get, Option.bind_some, exec_lift]
  cases s.queue.finish key <;> rfl

/-- Work on the store ends and leaves the queue as it is. -/
theorem exec_onStore {α : Type} (work : Store.Storing α) :
    (onStore work).exec s =
      some ((work.run s.world.store).1,
        { s with world := { s.world with store := (work.run s.world.store).2 } }) := by
  unfold onStore
  rw [exec_bind, exec_get, Option.bind_some]
  change (set _ >>= fun _ => liftM (work.run s.world.store).1 : Scanning α).exec s = _
  rw [exec_bind, exec_set, Option.bind_some]
  exact exec_lift _ _

theorem exec_writeTable (database name : String) (content : Value) :
    (writeTable database name content).exec s =
      match s.world.store.writeDocument (Path.join database name) content with
      | .ok store => some (.ok (), { s with world := { s.world with store } })
      | .error fault => some (.error fault, s) := by
  have hrun : (Store.update fun store => store.writeDocument (Path.join database name) content).run
      s.world.store =
        ((liftM (s.world.store.writeDocument (Path.join database name) content) :
          Store.Storing Store) >>= fun store => set store).run s.world.store := rfl
  unfold writeTable
  rw [exec_onStore, hrun]
  cases s.world.store.writeDocument (Path.join database name) content <;> rfl

/-- The store after a table was written into the database. -/
def storedTable (s : Store) (database : String) (t : Table) : Except Fault Store := do
  s.writeDocument (Path.join database (← t.fileName)) t.document

/-- How work on the store ends that changes it or fails. -/
def storedAs (s : Scan) : Except Fault Store → Except Fault Unit × Scan
  | .ok store => (.ok (), { s with world := { s.world with store } })
  | .error fault => (.error fault, s)

theorem exec_storeTable (database : String) (table : Table) :
    (storeTable database table).exec s =
      some (storedAs s (storedTable s.world.store database table)) := by
  unfold storeTable storedTable
  rw [exec_lift_bind]
  cases table.fileName with
  | error fault => rfl
  | ok name =>
    simp only [exec_writeTable, Outcome.ok_bind]
    cases s.world.store.writeDocument (Path.join database name) table.document <;> rfl

/-- Whatever becomes of the table, what it asks for is in the queue. -/
theorem exec_recordTable (database : String) (built : Except Fault Table) :
    (recordTable database built).exec s =
      some (storedAs ⟨s.world, s.queue.addAll (requestsOf built)⟩
        (built >>= storedTable s.world.store database)) := by
  unfold recordTable
  rw [exec_lift_bind]
  cases built with
  | error fault => rfl
  | ok table => exact exec_storeTable (s := { s with queue := s.queue.addAll table.requests }) _ _

theorem queue_storedAs (s : Scan) (stored : Except Fault Store) :
    (storedAs s stored).2.queue = s.queue := by
  cases stored <;> rfl

/-- Forgiving work changes the store, or leaves it as it is if the data is at fault. -/
theorem exec_forgiving_storedAs {work : Scanning Unit} {stored : Except Fault Store}
    (hwork : work.exec s = some (storedAs s₁ stored)) :
    (forgiving () work).exec s = some (.ok (), s') ↔
      (∃ store, stored = .ok store ∧ s' = { s₁ with world := { s₁.world with store } }) ∨
      ∃ fault : Fault, fault.isData = true ∧ stored = .error fault ∧ s' = s₁ := by
  rw [exec_forgiving_eq_ok, hwork]
  cases stored with
  | error fault =>
    constructor
    · rintro (h | ⟨_, hdata, ⟨⟩, -⟩)
      · cases h
      · exact Or.inr ⟨fault, hdata, rfl, rfl⟩
    · rintro (⟨_, ⟨⟩, -⟩ | ⟨_, hdata, ⟨⟩, rfl⟩)
      exact Or.inr ⟨fault, hdata, rfl, rfl⟩
  | ok store =>
    constructor
    · rintro (⟨⟨⟩⟩ | ⟨_, _, h, -⟩)
      · exact Or.inl ⟨store, rfl, rfl⟩
      · cases h
    · rintro (⟨_, ⟨⟩, rfl⟩ | ⟨_, _, h, -⟩)
      · exact Or.inl rfl
      · cases h

/-- What a round that does not fail does to the world: it writes the table, or leaves everything as
it is if the data is at fault. -/
theorem stored_of_scanItem (h : (scanItem source database item).exec s = some (.ok built, s')) :
    s'.world.framework = s.world.framework ∧
      ((built >>= storedTable s.world.store database) = .ok s'.world.store ∨
        ∃ fault : Fault, fault.isData = true ∧
          (built >>= storedTable s.world.store database) = .error fault ∧
          s'.world.store = s.world.store) := by
  obtain ⟨_, _, ⟨⟩, h⟩ := exec_bind_eq_ok.1 h
  obtain ⟨⟨⟩, s₁, hround, ⟨⟩⟩ := exec_bind_eq_ok.1 h
  obtain ⟨s₂, hrecord, hfinish⟩ := exec_thenAlways_eq_ok.1 hround
  have hworld : s'.world = s₂.world := by
    rw [exec_finishItem] at hfinish
    split at hfinish <;> cases hfinish
    rfl
  rw [hworld]
  rcases (exec_forgiving_storedAs (exec_recordTable _ _)).1 hrecord with
    ⟨store, hstored, rfl⟩ | ⟨fault, hdata, hstored, rfl⟩
  · exact ⟨rfl, Or.inl hstored⟩
  · exact ⟨rfl, Or.inr ⟨fault, hdata, hstored, rfl⟩⟩

/-- A round that does not fail asks for what the built table imports and marks the item as done. -/
theorem exec_scanItem_eq_ok
    (h : (scanItem source database item).exec s = some (.ok built, s')) :
    built = source s.world item.1 item.2 ∧
      (s.queue.addAll (requestsOf built)).finish item.1 = .ok s'.queue := by
  obtain ⟨_, _, ⟨⟩, h⟩ := exec_bind_eq_ok.1 h
  obtain ⟨⟨⟩, s₁, hround, ⟨⟩⟩ := exec_bind_eq_ok.1 h
  refine ⟨rfl, ?_⟩
  obtain ⟨s₂, hrecord, hfinish⟩ := exec_thenAlways_eq_ok.1 hround
  have hs₂ : s₂.queue = s.queue.addAll (requestsOf (source s.world item.1 item.2)) := by
    rcases exec_forgiving_eq_ok.1 hrecord with hr | ⟨_, _, hr, _⟩ <;>
      rw [exec_recordTable, Option.some.injEq] at hr <;>
      exact (congrArg (fun ended => ended.2.queue) hr).symm.trans (queue_storedAs _ _)
  rw [exec_finishItem, hs₂] at hfinish
  cases hf : (s.queue.addAll (requestsOf (source s.world item.1 item.2))).finish item.1 with
  | error fault => rw [hf] at hfinish; cases hfinish
  | ok queue =>
    rw [hf] at hfinish
    cases hfinish
    rfl

/-- How a round goes on when its table was recorded or its data was at fault. -/
theorem exec_scanItem_of_record {queue : WorkQueue} (hbuilt : source s.world item.1 item.2 = built)
    (h : (forgiving () (recordTable database built)).exec s = some (.ok (), s₁))
    (hf : s₁.queue.finish item.1 = .ok queue) :
    (scanItem source database item).exec s = some (.ok built, { s₁ with queue }) := by
  subst hbuilt
  refine exec_bind_eq_ok.2 ⟨s, s, rfl, exec_bind_eq_ok.2 ⟨(), _, ?_, rfl⟩⟩
  exact exec_thenAlways_eq_ok.2 ⟨s₁, h, by rw [exec_finishItem, hf]⟩

/-- A round whose table is stored. -/
theorem exec_scanItem_of_stored {table : Table} {store : Store} {queue : WorkQueue}
    (hbuilt : source s.world item.1 item.2 = .ok table)
    (hstored : storedTable s.world.store database table = .ok store)
    (hfinish : (s.queue.addAll table.requests).finish item.1 = .ok queue) :
    (scanItem source database item).exec s =
      some (.ok (.ok table), ⟨{ s.world with store }, queue⟩) :=
  exec_scanItem_of_record hbuilt
    ((exec_forgiving_storedAs (exec_recordTable _ _)).2 (Or.inl ⟨store, hstored, rfl⟩)) hfinish

/-- A round that finds the data at fault. -/
theorem exec_scanItem_of_data {fault : Fault} {queue : WorkQueue}
    (hbuilt : source s.world item.1 item.2 = .error fault) (hdata : fault.isData = true)
    (hfinish : s.queue.finish item.1 = .ok queue) :
    (scanItem source database item).exec s = some (.ok (.error fault), { s with queue }) :=
  exec_scanItem_of_record hbuilt
    ((exec_forgiving_storedAs (exec_recordTable _ _)).2 (Or.inr ⟨fault, hdata, rfl, rfl⟩)) hfinish

/-- A round that fails for another reason than its data. -/
theorem exec_scanItem_of_error {fault : Fault} {queue : WorkQueue}
    (h : (source s.world item.1 item.2 >>= storedTable s.world.store database) = .error fault)
    (hdata : fault.isData = false)
    (hfinish : (s.queue.addAll (requestsOf (source s.world item.1 item.2))).finish item.1 =
      .ok queue) :
    (scanItem source database item).exec s = some (.error fault, { s with queue }) := by
  have hrecord := exec_recordTable (s := s) database (source s.world item.1 item.2)
  rw [h] at hrecord
  have hfinished : (finishItem item.1).exec
      ⟨s.world, s.queue.addAll (requestsOf (source s.world item.1 item.2))⟩ =
        some (.ok (), { s with queue }) := by rw [exec_finishItem, hfinish]
  have hround : (thenAlways (forgiving () (recordTable database (source s.world item.1 item.2)))
      (finishItem item.1)).exec s = some (.error fault, { s with queue }) :=
    exec_thenAlways_of_error (exec_forgiving_of_error hrecord hdata) hfinished
  simp only [scanItem, exec_bind, exec_get, Option.bind_some, hround]

/-- A round fails exactly if building or storing the table does, and the data is not at fault. -/
theorem exec_scanItem_eq_error {fault : Fault} {queue : WorkQueue}
    (hfinish : (s.queue.addAll (requestsOf (source s.world item.1 item.2))).finish item.1 =
      .ok queue) :
    (scanItem source database item).exec s = some (.error fault, s') ↔
      (source s.world item.1 item.2 >>= storedTable s.world.store database) = .error fault ∧
        fault.isData = false ∧ s' = { s with queue } := by
  constructor
  · intro h
    cases hstored : source s.world item.1 item.2 >>= storedTable s.world.store database with
    | ok store =>
      have hround := exec_scanItem_of_record rfl ((exec_forgiving_storedAs
        (exec_recordTable (s := s) database _)).2 (Or.inl ⟨store, hstored, rfl⟩)) hfinish
      rw [h] at hround
      cases hround
    | error fault' =>
      cases hdata : fault'.isData with
      | true =>
        have hround := exec_scanItem_of_record rfl ((exec_forgiving_storedAs
          (exec_recordTable (s := s) database _)).2 (Or.inr ⟨fault', hdata, hstored, rfl⟩)) hfinish
        rw [h] at hround
        cases hround
      | false =>
        have hround := exec_scanItem_of_error hstored hdata hfinish
        rw [h] at hround
        cases hround
        exact ⟨rfl, hdata, rfl⟩
  · rintro ⟨hstored, hdata, rfl⟩
    exact exec_scanItem_of_error hstored hdata hfinish

theorem ends_takeItem : Ends takeItem := fun _ => ⟨_, rfl⟩

theorem ends_finishItem (key : Value) : Ends (finishItem key) := by
  intro s
  rw [exec_finishItem]
  cases s.queue.finish key <;> exact ⟨_, rfl⟩

theorem ends_scanItem : Ends (scanItem source database item) := by
  refine Ends.bind (fun s => ⟨_, rfl⟩) fun s => ?_
  have hrecord : Ends (recordTable database (source s.world item.1 item.2)) :=
    fun _ => ⟨_, exec_recordTable _ _⟩
  exact ((hrecord.forgiving ()).thenAlways (ends_finishItem _)).bind fun _ => .pure _

end Scanning

end KeywordCatalog
