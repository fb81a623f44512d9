import KeywordCatalog.Index
import KeywordCatalog.Proofs.Exploration
import KeywordCatalog.Proofs.Outcome

/-!
# What reading a table does to an index

Reading a table means to find its document, to take its keywords and variables from it and to follow
its imports. `Indexing.tableReading` is what comes of that as a function of the world, and
`exec_indexTable_eq_ok` says what the reading leaves in the state of the index: the imported tables
in the queue, the table marked as done, and the aliases of the imported libraries remembered. A
table with a fault in its data leaves only the aliases that were remembered before the fault.
-/

namespace KeywordCatalog

open Routine

namespace Indexing

/-- The tables and aliases of imported libraries up to the first import that is faulty, and that
fault. -/
def readLibraries (w : World) : List Value → List (String × Value) × Option Fault
  | [] => ([], none)
  | v :: rest =>
    match libraryEntry? w v with
    | .error fault => ([], some fault)
    | .ok none => readLibraries w rest
    | .ok (some entry) => (entry :: (readLibraries w rest).1, (readLibraries w rest).2)

/-- The tables and aliases of the libraries that a document imports up to the first fault, and that
fault. -/
def libraryEntries (w : World) (v : Value) : List (String × Value) × Option Fault :=
  match v.has "libraries" with
  | .error fault => ([], some fault)
  | .ok false => ([], none)
  | .ok true =>
    match v.field "libraries" >>= Value.elements with
    | .error fault => ([], some fault)
    | .ok items => readLibraries w items

/-- The names of the tables that a document imports. -/
def importNames (w : World) (v : Value) : Except Fault (List String) :=
  match libraryEntries w v with
  | (_, some fault) => .error fault
  | (entries, none) => (fileImports v).map (entries.map Prod.fst ++ ·)

/-- What a table of the database says of itself, and the names of the tables that it imports. -/
def tableReading (w : World) (database name : String) :
    Except Fault (TableFacts × List String) := do
  let (v, _) ← w.store.readTable (Path.join database name)
  let facts ← tableFacts v
  return (facts, ← importNames w v)

/-- The aliases that are remembered when a table of the database is read. -/
def tableAliases (w : World) (database name : String) : List (String × Value) :=
  match w.store.readTable (Path.join database name) with
  | .error _ => []
  | .ok (v, _) =>
    match tableFacts v with
    | .error _ => []
    | .ok _ => (libraryEntries w v).1

/-- The request for a table. -/
def tableRequest (name : String) : Request := ⟨.text name, .unknown, .null⟩

variable {i i' : Index} {v : Value}

@[simp] theorem exec_onQueue (f : WorkQueue → WorkQueue) :
    (onQueue f).exec i = some (.ok (), { i with queue := f i.queue }) := rfl

@[simp] theorem exec_takeItem :
    takeItem.exec i = some (.ok i.queue.takeWaiting.1, { i with queue := i.queue.takeWaiting.2 }) :=
  rfl

theorem exec_takeItem_eq_ok {item? : Option (Value × Work)} :
    takeItem.exec i = some (.ok item?, i') ↔
      ∃ queue, i.queue.takeWaiting = (item?, queue) ∧ i' = { i with queue } := by
  rw [exec_takeItem, Option.some.injEq, Prod.mk.injEq, Except.ok.injEq]
  constructor
  · rintro ⟨rfl, rfl⟩
    exact ⟨_, rfl, rfl⟩
  · rintro ⟨queue, htake, rfl⟩
    rw [htake]
    exact ⟨rfl, rfl⟩

theorem exec_finishItem (name : String) :
    (finishItem name).exec i =
      match i.queue.finish (.text name) with
      | .ok queue => some (.ok (), { i with queue })
      | .error fault => some (.error fault, i) := by
  unfold finishItem
  simp only [exec_bind, exec_get, Option.bind_some, exec_lift]
  cases i.queue.finish (.text name) <;> rfl

theorem exec_addTables (names : List String) :
    (addTables names).exec i =
      some (.ok (), { i with queue := i.queue.addAll (names.map tableRequest) }) := by
  unfold addTables
  induction names generalizing i with
  | nil => rfl
  | cons name rest ih =>
    change (addTable name >>= fun _ => rest.forM addTable).exec i = _
    rw [exec_bind]
    exact ih

theorem exec_libraryImport :
    (libraryImport v).exec i =
      match libraryEntry? i.world v with
      | .error fault => some (.error fault, i)
      | .ok none => some (.ok none, i)
      | .ok (some entry) => some (.ok (some entry.1), { i with aliases := i.aliases ++ [entry] }) := by
  unfold libraryImport
  simp only [exec_bind, exec_get, Option.bind_some, exec_lift]
  rcases libraryEntry? i.world v with fault | _ | entry <;> rfl

/-- Going through library imports remembers their aliases up to the first fault. -/
theorem exec_mapM_libraryImport (items : List Value) :
    ∃ found : List (Option String),
      (items.mapM libraryImport).exec i =
        some ((match (readLibraries i.world items).2 with
          | none => .ok found
          | some fault => .error fault),
          { i with aliases := i.aliases ++ (readLibraries i.world items).1 }) ∧
      ((readLibraries i.world items).2 = none →
        found.filterMap id = (readLibraries i.world items).1.map Prod.fst) := by
  induction items generalizing i with
  | nil => exact ⟨[], by simp [readLibraries], fun _ => rfl⟩
  | cons v rest ih =>
    simp only [List.mapM_cons, exec_bind, exec_libraryImport, readLibraries]
    rcases libraryEntry? i.world v with fault | _ | entry
    · exact ⟨[], by simp, by simp⟩
    · obtain ⟨found, hexec, hfound⟩ := ih (i := i)
      simp only [Option.bind_some, hexec]
      cases hf : (readLibraries i.world rest).2 with
      | none => exact ⟨none :: found, rfl, fun _ => by simpa using hfound hf⟩
      | some fault => exact ⟨[], rfl, by simp⟩
    · obtain ⟨found, hexec, hfound⟩ := ih (i := { i with aliases := i.aliases ++ [entry] })
      simp only [Option.bind_some, hexec, List.append_assoc, List.singleton_append]
      cases hf : (readLibraries i.world rest).2 with
      | none =>
        refine ⟨some entry.1 :: found, rfl, fun _ => ?_⟩
        have := hfound hf
        simpa using this
      | some fault => exact ⟨[], rfl, by simp⟩

theorem exec_libraryImports :
    (libraryImports v).exec i =
      match v.field "libraries" >>= Value.elements with
      | .error fault => some (.error fault, i)
      | .ok items =>
        some ((match (readLibraries i.world items).2 with
          | none => .ok ((readLibraries i.world items).1.map Prod.fst)
          | some fault => .error fault),
          { i with aliases := i.aliases ++ (readLibraries i.world items).1 }) := by
  unfold libraryImports
  rw [exec_lift_bind]
  rcases v.field "libraries" with fault | listed
  · rfl
  simp only [exec_lift_bind, Outcome.ok_bind]
  rcases listed.elements with fault | items
  · rfl
  obtain ⟨found, hexec, hfound⟩ := exec_mapM_libraryImport (i := i) items
  simp only [exec_bind, hexec, Option.bind_some]
  rcases hr : readLibraries i.world items with ⟨entries, _ | fault⟩
  · simpa [hr] using hfound
  · rfl

theorem exec_imports :
    (imports v).exec i =
      some (importNames i.world v,
        { i with aliases := i.aliases ++ (libraryEntries i.world v).1 }) := by
  unfold imports importNames libraryEntries
  rw [exec_lift_bind]
  rcases v.has "libraries" with fault | _ | _
  · simp
  · simp only [Bool.false_eq_true, if_false, pure_bind, exec_lift_bind, List.append_nil]
    cases fileImports v <;> rfl
  · simp only [if_true, exec_bind, exec_libraryImports]
    rcases v.field "libraries" >>= Value.elements with fault | items
    · simp
    · simp only [Option.bind_some, exec_lift]
      rcases readLibraries i.world items with ⟨entries, _ | fault⟩
      · cases fileImports v <;> rfl
      · rfl

theorem exec_indexDocument (table : String) :
    (indexDocument v table).exec i =
      match tableFacts v with
      | .error fault => some (.error fault, i)
      | .ok facts =>
        let read := { i with aliases := i.aliases ++ (libraryEntries i.world v).1 }
        match importNames i.world v with
        | .error fault => some (.error fault, read)
        | .ok names =>
          let queue := i.queue.addAll (names.map tableRequest)
          match queue.finish (.text table) with
          | .error fault => some (.error fault, { read with queue })
          | .ok queue =>
            some (.ok ⟨i.records facts.keywords table facts.object, facts.varNames⟩,
              { read with queue }) := by
  unfold indexDocument
  rw [exec_lift_bind]
  rcases tableFacts v with fault | facts
  · rfl
  simp only [exec_bind, exec_get, Option.bind_some, exec_imports]
  rcases importNames i.world v with fault | names
  · rfl
  simp only [exec_addTables, exec_finishItem, Option.bind_some]
  cases (i.queue.addAll (names.map tableRequest)).finish (.text table) <;> rfl

theorem exec_indexSound (database name : String) :
    (indexSound database name).exec i =
      let read := { i with aliases := i.aliases ++ tableAliases i.world database name }
      match tableReading i.world database name with
      | .error fault => some (.error fault, read)
      | .ok (facts, names) =>
        let queue := i.queue.addAll (names.map tableRequest)
        match queue.finish (.text name) with
        | .error fault => some (.error fault, { read with queue })
        | .ok queue =>
          some (.ok ⟨i.records facts.keywords name facts.object, facts.varNames⟩,
            { read with queue }) := by
  unfold indexSound tableReading tableAliases
  simp only [exec_bind, exec_get, exec_lift, Option.bind_some]
  rcases i.world.store.readTable (Path.join database name) with fault | ⟨v, similar⟩
  · simp
  simp only [exec_indexDocument, Outcome.ok_bind]
  rcases tableFacts v with fault | facts
  · simp
  cases importNames i.world v <;> rfl

/-- A table with sound data is read, its imports are asked for and it is done; one with a fault in
its data adds nothing. -/
theorem exec_indexTable_eq_ok {database name : String} {part : IndexPart} :
    (indexTable database name).exec i = some (.ok part, i') ↔
      (∃ facts names queue,
        tableReading i.world database name = .ok (facts, names) ∧
        (i.queue.addAll (names.map tableRequest)).finish (.text name) = .ok queue ∧
        part = ⟨i.records facts.keywords name facts.object, facts.varNames⟩ ∧
        i' = { i with queue, aliases := i.aliases ++ tableAliases i.world database name }) ∨
      ∃ fault : Fault, fault.isData = true ∧
        tableReading i.world database name = .error fault ∧ part = {} ∧
        i' = { i with aliases := i.aliases ++ tableAliases i.world database name } := by
  rw [indexTable, exec_forgiving_eq_ok, exec_indexSound]
  rcases tableReading i.world database name with fault | ⟨facts, names⟩
  · constructor
    · rintro (⟨⟨⟩⟩ | ⟨_, hdata, ⟨⟩, rfl⟩)
      exact Or.inr ⟨fault, hdata, rfl, rfl, rfl⟩
    · rintro (⟨_, _, _, ⟨⟩, _⟩ | ⟨_, hdata, ⟨⟩, rfl, rfl⟩)
      exact Or.inr ⟨fault, hdata, rfl, rfl⟩
  · cases hf : (i.queue.addAll (names.map tableRequest)).finish (.text name) with
    | error fault =>
      have hdata := WorkQueue.isData_of_finish hf
      simp [hf, hdata]
    | ok queue =>
      constructor
      · rintro (h | ⟨_, _, h, _⟩) <;> simp only [hf] at h <;> cases h
        exact Or.inl ⟨facts, names, queue, rfl, hf, rfl, rfl⟩
      · rintro (⟨_, _, q, ⟨⟩, hq, rfl, rfl⟩ | ⟨_, _, ⟨⟩, _⟩)
        obtain rfl : queue = q := Except.ok.inj (hf.symm.trans hq)
        exact Or.inl (by simp only [hf])

/-- An item of the queue is the name of the table that is read for it. -/
theorem exec_indexItem_eq_ok {database : String} {item : Value × Work} {read : String × IndexPart} :
    (indexItem database item).exec i = some (.ok read, i') ↔
      item.1 = .text read.1 ∧ (indexTable database read.1).exec i = some (.ok read.2, i') := by
  constructor
  · intro h
    obtain ⟨name, _, hname, h⟩ := exec_bind_eq_ok.1 h
    obtain ⟨part, _, htable, ⟨⟩⟩ := exec_bind_eq_ok.1 h
    rw [exec_lift, Option.some.injEq, Prod.mk.injEq] at hname
    obtain ⟨hname, rfl⟩ := hname
    exact ⟨Value.eq_text_of_textOnly hname, htable⟩
  · rintro ⟨hname, htable⟩
    refine exec_bind_eq_ok.2 ⟨read.1, i, ?_, exec_bind_eq_ok.2 ⟨read.2, _, htable, rfl⟩⟩
    rw [hname, exec_lift, Value.textOnly_text]

end Indexing

end KeywordCatalog
