import KeywordCatalog.Proofs.Index.Reading
import KeywordCatalog.Proofs.Rounds
import KeywordCatalog.Proofs.Store.Listing

/-!
# An index is made from the import closure

The index of a table is made from the tables that can be reached from it, from the library that
every suite uses and from the libraries described in markup: `Indexing.IsRoot` says where an index
starts and `Indexing.Imports` where a table leads. Each of these tables is read once, and what they
contribute is put together in the order in which they are read. A table with a fault in its data
contributes nothing and leads nowhere.

What a table contributes depends on the tables read before it: its keywords go by the first alias
that these gave to the library.
-/

namespace KeywordCatalog

open Routine

namespace Indexing

/-- Whether a table is that of a library described in markup below a folder. -/
def InMarkup (w : World) (markup : Option String) (name : String) : Prop :=
  ∃ path files file, markup = some path ∧ path ≠ "" ∧ w.store.findFiles path "xml" = .ok files ∧
    file ∈ files ∧ markupTable? w file = .ok (some name)

/-- Whether the index of a table starts from a table: it is that table itself, the library that
every suite uses, or a library described in markup. -/
def IsRoot (w : World) (database table : String) (markup : Option String) (name : String) : Prop :=
  name = table ∨ w.store.builtinTable? database = .ok (some name) ∨ InMarkup w markup name

/-- Whether a table can be read and imports another one. -/
def Imports (w : World) (database name other : String) : Prop :=
  ∃ facts names, tableReading w database name = .ok (facts, names) ∧ other ∈ names

/-- The records of the keywords that a table has, for a library with an alias. -/
def recordsOf (facts : TableFacts) (table : String) (byname : Value) : List KeywordRecord :=
  facts.keywords.map fun (keyword, arguments) => ⟨keyword, arguments, facts.object, table, byname⟩

/-- The first alias of a table that is not empty. -/
def firstAlias (aliases : List (String × Value)) (table : String) : Value :=
  ((aliases.filter fun a => a.1 == table && a.2.truthy).head?.map Prod.snd).getD .null

/-- What a table contributes that is read when some aliases are known. -/
def contribution (w : World) (database : String) (aliases : List (String × Value))
    (name : String) : IndexPart :=
  match tableReading w database name with
  | .ok (facts, _) => ⟨recordsOf facts name (firstAlias aliases name), facts.varNames⟩
  | .error _ => {}

/-- The names of the tables that a table leads to. -/
def leadsTo (w : World) (database name : String) : List String :=
  match tableReading w database name with
  | .ok (_, names) => names
  | .error _ => []

variable {w : World} {database table : String} {markup : Option String} {i i' : Index}

theorem leadsTo_of_ok {name : String} {facts : TableFacts} {names : List String}
    (h : tableReading w database name = .ok (facts, names)) : leadsTo w database name = names := by
  unfold leadsTo
  rw [h]

theorem leadsTo_of_error {name : String} {fault : Fault}
    (h : tableReading w database name = .error fault) : leadsTo w database name = [] := by
  unfold leadsTo
  rw [h]

theorem contribution_of_ok {name : String} {facts : TableFacts} {names : List String}
    (h : tableReading w database name = .ok (facts, names)) (aliases : List (String × Value)) :
    contribution w database aliases name =
      ⟨recordsOf facts name (firstAlias aliases name), facts.varNames⟩ := by
  unfold contribution
  rw [h]

theorem contribution_of_error {name : String} {fault : Fault}
    (h : tableReading w database name = .error fault) (aliases : List (String × Value)) :
    contribution w database aliases name = {} := by
  unfold contribution
  rw [h]

theorem mem_leadsTo {name other : String} :
    other ∈ leadsTo w database name ↔ Imports w database name other := by
  unfold leadsTo Imports
  rcases tableReading w database name with fault | ⟨facts, names⟩ <;> simp

theorem records_eq (facts : TableFacts) :
    i.records facts.keywords table facts.object =
      recordsOf facts table (firstAlias i.aliases table) := by
  have halias : i.aliasOf table = firstAlias i.aliases table := by
    unfold Index.aliasOf firstAlias
    rw [List.head?_filter]
    cases i.aliases.find? fun a => a.1 == table && a.2.truthy <;> rfl
  rw [Index.records, recordsOf, halias]

/-! ### Where an index starts -/

theorem exec_addFound_eq_ok {found : Except Fault (Option String)} :
    (addFound found).exec i = some (.ok (), i') ↔ ∃ name?, found = .ok name? ∧
      i' = { i with queue := i.queue.addAll (name?.toList.map tableRequest) } := by
  unfold addFound
  rw [exec_lift_bind]
  cases found <;> simp [exec_addTables, eq_comm]

/-- Going through files of markup asks for the tables of the libraries that they describe. -/
theorem exec_addMarkupTables_eq_ok (files : List String)
    (h : (files.forM fun file => do addFound (markupTable? (← get).world file) :
      Indexing Unit).exec i = some (.ok (), i')) :
    ∃ names : List String,
      (∀ name, name ∈ names ↔ ∃ file ∈ files, markupTable? i.world file = .ok (some name)) ∧
      i' = { i with queue := i.queue.addAll (names.map tableRequest) } := by
  induction files generalizing i with
  | nil =>
    cases h
    exact ⟨[], by simp, rfl⟩
  | cons file rest ih =>
    obtain ⟨⟨⟩, i₁, hfile, hrest⟩ := exec_bind_eq_ok.1 h
    rw [exec_bind, exec_get] at hfile
    obtain ⟨name?, hm, rfl⟩ := exec_addFound_eq_ok.1 hfile
    obtain ⟨names, hnames, rfl⟩ := ih hrest
    refine ⟨name?.toList ++ names, fun name => ?_, by rw [List.map_append, WorkQueue.addAll_append]⟩
    rw [List.mem_append, hnames]
    simp [hm, eq_comm]

theorem exec_addMarkupLibraries_eq_ok {path : String} (hp : path ≠ "")
    (h : (addMarkupLibraries path).exec i = some (.ok (), i')) :
    ∃ names : List String, (∀ name, name ∈ names ↔ InMarkup i.world (some path) name) ∧
      i' = { i with queue := i.queue.addAll (names.map tableRequest) } := by
  unfold addMarkupLibraries at h
  rw [exec_bind, exec_get, Option.bind_some] at h
  simp only [exec_lift_bind] at h
  cases hf : i.world.store.findFiles path "xml" with
  | error fault => rw [hf] at h; cases h
  | ok files =>
    rw [hf] at h
    obtain ⟨names, hnames, rfl⟩ := exec_addMarkupTables_eq_ok files h
    refine ⟨names, fun name => ?_, rfl⟩
    simp [hnames, InMarkup, hf, hp]

theorem exec_addMarkup_eq_ok (h : (addMarkup markup).exec i = some (.ok (), i')) :
    ∃ names : List String, (∀ name, name ∈ names ↔ InMarkup i.world markup name) ∧
      i' = { i with queue := i.queue.addAll (names.map tableRequest) } := by
  cases markup with
  | none =>
    cases h
    exact ⟨[], by simp [InMarkup], rfl⟩
  | some path =>
    by_cases hp : path = ""
    · subst hp
      cases h
      exact ⟨[], by simp [InMarkup], rfl⟩
    · have hempty : path.isEmpty = false := by simpa using hp
      simp only [addMarkup, hempty, Bool.false_eq_true, if_false] at h
      exact exec_addMarkupLibraries_eq_ok hp h

/-- The queue is filled with the tables that the index starts from. -/
theorem exec_addRoots_eq_ok (h : (addRoots database table markup).exec i = some (.ok (), i')) :
    ∃ names : List String, (∀ name, name ∈ names ↔ IsRoot i.world database table markup name) ∧
      i' = { i with queue := WorkQueue.empty.addAll (names.map tableRequest) } := by
  obtain ⟨⟨⟩, i₁, ⟨⟩, h⟩ := exec_bind_eq_ok.1 h
  obtain ⟨⟨⟩, i₂, ⟨⟩, h⟩ := exec_bind_eq_ok.1 h
  obtain ⟨⟨⟩, i₃, hbuiltin, h⟩ := exec_bind_eq_ok.1 h
  rw [addBuiltin, exec_bind, exec_get] at hbuiltin
  obtain ⟨name?, hname, rfl⟩ := exec_addFound_eq_ok.1 hbuiltin
  obtain ⟨names, hnames, rfl⟩ := exec_addMarkup_eq_ok h
  refine ⟨table :: name?.toList ++ names, fun name => ?_, ?_⟩
  · have hname : i.world.store.builtinTable? database = .ok name? := hname
    rw [List.mem_append, List.mem_cons, hnames, Option.mem_toList, IsRoot, hname, Except.ok.injEq,
      or_assoc]
  · rw [List.map_append, WorkQueue.addAll_append]
    rfl

/-! ### Round after round -/

/-- The aliases that are known after some tables were read. -/
def knownAliases (i : Index) (database : String) (names : List String) : List (String × Value) :=
  i.aliases ++ names.flatMap (tableAliases i.world database)

/-- What is true when some tables were visited, starting in a state with some tables to start
from. -/
structure Visited (i : Index) (database : String) (roots : List String)
    (visited : List (String × IndexPart)) (s : Index) : Prop where
  world : s.world = i.world
  aliases : s.aliases = knownAliases i database (visited.map Prod.fst)
  explored : WorkQueue.Explored (roots.map Value.text)
    (visited.map fun v => (.text v.1, (leadsTo i.world database v.1).map Value.text)) s.queue
  part : ∀ before name part after, visited = before ++ (name, part) :: after →
    part = contribution i.world database (knownAliases i database (before.map Prod.fst)) name
  sound : ∀ v ∈ visited, ∀ fault, tableReading i.world database v.1 = .error fault →
    fault.isData = true

variable {roots : List String} {visited : List (String × IndexPart)} {s s₁ s₂ : Index}

theorem knownAliases_append (names : List String) (name : String) :
    knownAliases i database (names ++ [name]) =
      knownAliases i database names ++ tableAliases i.world database name := by
  simp [knownAliases]

/-- What is known of a table that was read. -/
structure TableRead (s : Index) (database name : String) (part : IndexPart) (s' : Index) :
    Prop where
  world : s'.world = s.world
  aliases : s'.aliases = s.aliases ++ tableAliases s.world database name
  part : part = contribution s.world database s.aliases name
  grown : s.queue.InOrder → .text name ∈ s.queue.keys → .text name ∉ s.queue.waiting →
    WorkQueue.GrownBy ((leadsTo s.world database name).map Value.text) s.queue s'.queue
  sound : ∀ fault, tableReading s.world database name = .error fault → fault.isData = true

theorem tableRead_of_exec {name : String} {part : IndexPart}
    (h : (indexTable database name).exec s = some (.ok part, s₁)) :
    TableRead s database name part s₁ := by
  rcases exec_indexTable_eq_ok.1 h with
    ⟨facts, names, queue, hread, hfinish, rfl, rfl⟩ | ⟨fault, hdata, hread, rfl, rfl⟩
  · refine ⟨rfl, rfl, ?_, fun hq hk hw => ?_, fun fault hf => ?_⟩
    · rw [contribution_of_ok hread, records_eq]
    · have hgrown := (hq.grownBy_addAll (names.map tableRequest)).finish hfinish hk hw
      rw [List.map_map] at hgrown
      rw [leadsTo_of_ok hread]
      exact hgrown
    · rw [hread] at hf
      cases hf
  · refine ⟨rfl, rfl, (contribution_of_error hread _).symm, fun hq _ _ => ?_, fun fault' hf => ?_⟩
    · rw [leadsTo_of_error hread]
      exact WorkQueue.GrownBy.refl hq
    · rw [hread] at hf
      cases hf
      exact hdata

theorem visited_start (h : s.world = i.world) (ha : s.aliases = i.aliases)
    (hq : s.queue = WorkQueue.empty.addAll (roots.map tableRequest)) :
    Visited i database roots [] s where
  world := h
  aliases := by simp [ha, knownAliases]
  explored := by
    have hstart := WorkQueue.explored_start (roots.map tableRequest)
    rw [← hq, List.map_map] at hstart
    exact hstart
  part := by simp
  sound := by simp

/-- Reading the item at the front of the queue is one more visit. -/
theorem Visited.round {item : Value × Work} {read : String × IndexPart}
    (h : Visited i database roots visited s) (hn : takeItem.exec s = some (.ok (some item), s₁))
    (hw : (indexItem database item).exec s₁ = some (.ok read, s₂)) :
    Visited i database roots (visited ++ [read]) s₂ := by
  obtain ⟨key, work⟩ := item
  obtain ⟨name, part⟩ := read
  obtain ⟨queue, htake, rfl⟩ := exec_takeItem_eq_ok.1 hn
  obtain ⟨rfl, htable⟩ := exec_indexItem_eq_ok.1 hw
  have hread := tableRead_of_exec htable
  have hgrown := hread.grown (h.explored.inOrder.of_take htake) (WorkQueue.mem_keys_of_take htake)
    (WorkQueue.not_mem_waiting_of_take h.explored.inOrder htake)
  obtain ⟨hworld, haliases, hpart, -, hsound⟩ := hread
  simp only [h.world, h.aliases] at hworld haliases hpart hsound hgrown
  refine ⟨hworld, ?_, ?_, ?_, ?_⟩
  · rw [haliases, List.map_append, List.map_cons, List.map_nil, knownAliases_append]
  · rw [List.map_append]
    exact h.explored.visit htake hgrown
  · intro before name' part' after hsplit
    rcases List.eq_nil_or_concat after with rfl | ⟨after, last, rfl⟩
    · obtain ⟨rfl, hlast⟩ := List.append_inj' hsplit rfl
      cases hlast
      exact hpart
    · rw [List.concat_eq_append, ← List.cons_append, ← List.append_assoc] at hsplit
      exact h.part before name' part' after (List.append_inj' hsplit rfl).1
  · intro v hv
    rcases List.mem_append.1 hv with hv | hv
    · exact h.sound v hv
    · rw [List.mem_singleton] at hv
      subst hv
      exact hsound

theorem Visited.nodup (h : Visited i database roots visited s) :
    (visited.map Prod.fst).Nodup := by
  have hkeys := h.explored.nodup
  rw [List.map_map] at hkeys
  have hcomp : (visited.map Prod.fst).map Value.text = visited.map fun v => Value.text v.1 := by
    rw [List.map_map]
    rfl
  exact List.Nodup.of_map Value.text (hcomp ▸ hkeys)

/-- Every round is one more visit. -/
theorem visited_of_rounds {log : List ((Value × Work) × String × IndexPart)}
    (h : Rounds takeItem (indexItem database)
      { i with queue := WorkQueue.empty.addAll (roots.map tableRequest) } log s) :
    Visited i database roots (log.map Prod.snd) s :=
  h.preserves (fun log s => Visited i database roots (log.map Prod.snd) s)
    (visited_start rfl rfl rfl) (by
      intro log s₁ item s₂ read s₃ hv hn hw
      rw [List.map_append]
      exact hv.round hn hw)

/-- Tables are visited in rounds, starting with the roots. -/
theorem exists_rounds_of_exec_visits
    (h : (visits database table markup).exec i = some (.ok visited, i')) :
    ∃ (roots : List String) (log : List ((Value × Work) × String × IndexPart)) (s : Index),
      (∀ name, name ∈ roots ↔ IsRoot i.world database table markup name) ∧
      Rounds takeItem (indexItem database)
        { i with queue := WorkQueue.empty.addAll (roots.map tableRequest) } log s ∧
      visited = log.map Prod.snd ∧ takeItem.exec s = some (.ok none, i') := by
  obtain ⟨⟨⟩, s₀, hroots, h⟩ := exec_bind_eq_ok.1 h
  obtain ⟨roots, hmem, rfl⟩ := exec_addRoots_eq_ok hroots
  obtain ⟨log, _, hdrain, ⟨⟩⟩ := exec_bind_eq_ok.1 h
  obtain ⟨s, hrounds, hend⟩ := exists_rounds_of_exec_drain hdrain
  exact ⟨roots, log, s, hmem, hrounds, rfl, hend⟩

/-- The tables are visited until none waits. -/
theorem visited_of_exec_visits
    (h : (visits database table markup).exec i = some (.ok visited, i')) :
    ∃ roots s, (∀ name, name ∈ roots ↔ IsRoot i.world database table markup name) ∧
      Visited i database roots visited s ∧ s.queue.waiting = [] ∧
      i' = { s with queue := i'.queue } := by
  obtain ⟨roots, log, s, hmem, hrounds, rfl, hend⟩ := exists_rounds_of_exec_visits h
  have hvisited := visited_of_rounds hrounds
  obtain ⟨queue, htake, rfl⟩ := exec_takeItem_eq_ok.1 hend
  exact ⟨roots, s, hmem, hvisited, hvisited.explored.inOrder.waiting_eq_nil htake, rfl⟩

/-- When no table waits, the visited ones are those that can be reached. -/
theorem Visited.mem_iff (h : Visited i database roots visited s) (hw : s.queue.waiting = [])
    (hroots : ∀ name, name ∈ roots ↔ IsRoot i.world database table markup name) (name : String) :
    name ∈ visited.map Prod.fst ↔
      Reached (IsRoot i.world database table markup) (Imports i.world database) name := by
  have hinj : Function.Injective Value.text := fun a b hab => Value.text.inj hab
  have hmem := h.explored.mem_visited_iff
    (fun key other => ∃ a b, Imports i.world database a b ∧ .text a = key ∧ .text b = other) hw (by
      intro visit hvisit other
      obtain ⟨v, -, rfl⟩ := List.mem_map.1 hvisit
      simp [mem_leadsTo]) (.text name)
  rw [← Reached.map_iff hinj]
  simpa [hroots, Function.comp_def] using hmem

/-- **An index is made from its import closure.** If the index of a table can be made, the tables
visited for it are exactly those reached from where it starts, each once; each contributes its
keywords and variables in its turn, and one that cannot be read has a fault in its data. -/
theorem indexFor_eq_closure {part : IndexPart}
    (h : (indexFor database table markup).exec i = some (.ok part, i')) :
    ∃ visited, (visits database table markup).exec i = some (.ok visited, i') ∧
      (visited.map Prod.fst).Nodup ∧
      (∀ name, name ∈ visited.map Prod.fst ↔
        Reached (IsRoot i.world database table markup) (Imports i.world database) name) ∧
      part.keywords = visited.flatMap (fun v => v.2.keywords) ∧
      part.varNames = visited.flatMap (fun v => v.2.varNames) ∧
      (∀ before name own after, visited = before ++ (name, own) :: after →
        own = contribution i.world database (knownAliases i database (before.map Prod.fst)) name) ∧
      ∀ v ∈ visited, ∀ fault, tableReading i.world database v.1 = .error fault →
        fault.isData = true := by
  obtain ⟨visited, _, hvisits, ⟨⟩⟩ := exec_bind_eq_ok.1 h
  obtain ⟨roots, s, hroots, hv, hw, -⟩ := visited_of_exec_visits hvisits
  refine ⟨visited, hvisits, hv.nodup, hv.mem_iff hw hroots, ?_, ?_, hv.part, hv.sound⟩
  · simp [IndexPart.concat, List.flatMap_map]
  · simp [IndexPart.concat, List.flatMap_map]

/-- Without markup an index starts from its table and the table of the library that every suite
uses. -/
theorem exec_addRoots_of_builtin {name? : Option String}
    (h : i.world.store.builtinTable? database = .ok name?) :
    (addRoots database table none).exec i = some (.ok (),
      { i with queue := WorkQueue.empty.addAll ((table :: name?.toList).map tableRequest) }) := by
  refine exec_bind_eq_ok.2 ⟨(), _, rfl, exec_bind_eq_ok.2 ⟨(), _, rfl,
    exec_bind_eq_ok.2 ⟨(), _, ?_, rfl⟩⟩⟩
  rw [addBuiltin, exec_bind, exec_get]
  exact exec_addFound_eq_ok.2 ⟨name?, h, rfl⟩

theorem exec_visits_of_rounds {name? : Option String}
    (h : i.world.store.builtinTable? database = .ok name?)
    (hrounds : ∃ log s, Rounds takeItem (indexItem database)
      { i with queue := WorkQueue.empty.addAll ((table :: name?.toList).map tableRequest) } log s ∧
      takeItem.exec s = some (.ok none, i') ∧ visited = log.map Prod.snd) :
    (visits database table none).exec i = some (.ok visited, i') := by
  obtain ⟨log, s, hrounds, hend, rfl⟩ := hrounds
  exact exec_bind_eq_ok.2 ⟨(), _, exec_addRoots_of_builtin h,
    exec_bind_eq_ok.2 ⟨log, _, exec_drain_eq_ok_iff.2 ⟨s, hrounds, hend⟩, rfl⟩⟩

/-- A table that can be read is read, and is done. -/
theorem exec_indexItem_of_ok {name : String} {work : Work} {facts : TableFacts}
    {names : List String} {queue : WorkQueue}
    (h : tableReading s.world database name = .ok (facts, names))
    (hq : (s.queue.addAll (names.map tableRequest)).finish (.text name) = .ok queue) :
    (indexItem database (.text name, work)).exec s =
      some (.ok (name, ⟨recordsOf facts name (firstAlias s.aliases name), facts.varNames⟩),
        { s with queue, aliases := s.aliases ++ tableAliases s.world database name }) := by
  rw [← records_eq]
  exact exec_indexItem_eq_ok.2
    ⟨rfl, exec_indexTable_eq_ok.2 (Or.inl ⟨facts, names, queue, h, hq, rfl, rfl⟩)⟩

theorem exec_indexItem_of_error {name : String} {work : Work} {fault : Fault}
    (h : tableReading s.world database name = .error fault) (hd : fault.isData = true) :
    (indexItem database (.text name, work)).exec s =
      some (.ok (name, {}),
        { s with aliases := s.aliases ++ tableAliases s.world database name }) :=
  exec_indexItem_eq_ok.2 ⟨rfl, exec_indexTable_eq_ok.2 (Or.inr ⟨fault, hd, h, rfl, rfl⟩)⟩

/-- The table of the resource `/r`. -/
def selfTable : String := "r-84a91929c5ae7f4e7a4c33c1b98454f2.json"

/-- A database with a faulty library and a suite that imports a resource, which imports itself. -/
def cyclicStore : Store where
  cwd := "/"
  entries := [(["db"], .folder), (["db", "BuiltIn"], .file "["),
    (["db", selfTable], .file "\x7b\"resources\": [\"/r\"], \"variables\": [\"y\"]\x7d"),
    (["db", "t"], .file "\x7b\"resources\": [\"/r\"], \"variables\": [\"x\"]\x7d")]

def cyclicIndex : Index := { world := ⟨cyclicStore, {}⟩, target := "/db" }

theorem builtinTable?_cyclicStore : cyclicStore.builtinTable? "/db" = .ok (some "BuiltIn") := by
  have hnames : cyclicStore.names "/db" = .ok ["BuiltIn", selfTable, "t"] :=
    Store.names_of_sorted rfl rfl rfl (by decide)
  rw [Store.builtinTable?, hnames]
  rfl

theorem exec_visits_cyclicIndex :
    ∃ i', (visits "/db" "t" none).exec cyclicIndex =
      some (.ok [("BuiltIn", {}), ("t", ⟨[], [.text "x"]⟩), (selfTable, ⟨[], [.text "y"]⟩)], i') := by
  have hbroken : tableReading cyclicIndex.world "/db" "BuiltIn" = .error .badDocument := by
    decide +kernel
  have hsuite : tableReading cyclicIndex.world "/db" "t" =
      .ok (⟨[.text "x"], [], .null⟩, [selfTable]) := by
    decide +kernel
  have hself : tableReading cyclicIndex.world "/db" selfTable =
      .ok (⟨[.text "y"], [], .null⟩, [selfTable]) := by
    decide +kernel
  exact ⟨_, exec_visits_of_rounds builtinTable?_cyclicStore ⟨[_, _, _], _,
    .round rfl (exec_indexItem_of_error hbroken rfl)
      (.round rfl (exec_indexItem_of_ok hsuite rfl)
        (.round rfl (exec_indexItem_of_ok hself rfl) (.start _))), rfl, rfl⟩⟩

/-- The closure of a suite with a resource that imports itself, next to a faulty library. -/
theorem indexFor_eq_closure_cyclic :
    ∃ i', (indexFor "/db" "t" none).exec cyclicIndex =
        some (.ok ⟨[], [.text "x", .text "y"]⟩, i') ∧
      ∀ name, Reached (IsRoot cyclicIndex.world "/db" "t" none) (Imports cyclicIndex.world "/db")
        name ↔ name ∈ ["BuiltIn", "t", selfTable] := by
  obtain ⟨i', hvisits⟩ := exec_visits_cyclicIndex
  have hindex : (indexFor "/db" "t" none).exec cyclicIndex =
      some (.ok ⟨[], [.text "x", .text "y"]⟩, i') := exec_bind_eq_ok.2 ⟨_, _, hvisits, rfl⟩
  obtain ⟨visited, hvisits', -, hreached, -⟩ := indexFor_eq_closure hindex
  obtain rfl := Except.ok.inj (Prod.mk.inj (Option.some.inj (hvisits'.symm.trans hvisits))).1
  exact ⟨i', hindex, fun name => (hreached name).symm⟩

end Indexing

end KeywordCatalog
