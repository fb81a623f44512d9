import KeywordCatalog.Proofs.Index.Document

/-!
# The aliases of libraries

A library can be imported under an alias (`Indexing.ImportsAs`), and the records of its keywords carry
one. The records are made when the table of the library is read, so they only know the aliases that
were given by tables read before (`Indexing.byname_of_earlier`). A table that is no root is read after
one that imports it, so the order of the imports does not matter for a library that nobody imports
without an alias, and it does for any other.
-/

namespace KeywordCatalog

open Routine

namespace Indexing

variable {w : World} {database table name library : String} {markup : Option String} {i i' : Index}
  {byname : Value}

/-! ### Imports under an alias -/

/-- Whether a table imports a library under an alias: its document can be read and lists the import,
the library can be built and its table has the name `library`, and no import that is listed before is
at fault. -/
def ImportsAs (w : World) (database name library : String) (byname : Value) : Prop :=
  ∃ v similar facts before item after,
    w.store.readTable (Path.join database name) = .ok (v, similar) ∧ tableFacts v = .ok facts ∧
    v.has "libraries" = .ok true ∧
    v.field "libraries" >>= Value.elements = .ok (before ++ item :: after) ∧
    (∀ other ∈ before, ∃ entry?, libraryEntry? w other = .ok entry?) ∧
    libraryEntry? w item = .ok (some (library, byname))

theorem mem_readLibraries {items : List Value} :
    (library, byname) ∈ (readLibraries w items).1 ↔
      ∃ before item after, items = before ++ item :: after ∧
        (∀ other ∈ before, ∃ entry?, libraryEntry? w other = .ok entry?) ∧
        libraryEntry? w item = .ok (some (library, byname)) := by
  induction items with
  | nil => simp [readLibraries]
  | cons v rest ih =>
    have hlater {found : Option (String × Value)} (hv : libraryEntry? w v = .ok found) :
        (∃ before item after, v :: rest = before ++ item :: after ∧
          (∀ other ∈ before, ∃ entry?, libraryEntry? w other = .ok entry?) ∧
          libraryEntry? w item = .ok (some (library, byname))) ↔
        found = some (library, byname) ∨ (library, byname) ∈ (readLibraries w rest).1 := by
      rw [ih]
      constructor
      · rintro ⟨_ | ⟨first, before⟩, item, after, hsplit, hbefore, hitem⟩
        · obtain ⟨rfl, rfl⟩ := List.cons.inj hsplit
          exact Or.inl (Except.ok.inj (hv.symm.trans hitem))
        · obtain ⟨rfl, rfl⟩ := List.cons.inj hsplit
          exact Or.inr ⟨before, item, after, rfl,
            fun other hother => hbefore other (List.mem_cons_of_mem _ hother), hitem⟩
      · rintro (rfl | ⟨before, item, after, rfl, hbefore, hitem⟩)
        · exact ⟨[], v, rest, rfl, fun _ hother => absurd hother List.not_mem_nil, hv⟩
        · exact ⟨v :: before, item, after, rfl,
            List.forall_mem_cons.2 ⟨⟨found, hv⟩, hbefore⟩, hitem⟩
    rw [readLibraries]
    rcases hv : libraryEntry? w v with fault | _ | entry
    · refine ⟨fun hmem => absurd hmem List.not_mem_nil, ?_⟩
      rintro ⟨_ | ⟨first, before⟩, item, after, hsplit, hbefore, hitem⟩
      · obtain ⟨rfl, rfl⟩ := List.cons.inj hsplit
        rw [hv] at hitem
        cases hitem
      · obtain ⟨rfl, rfl⟩ := List.cons.inj hsplit
        obtain ⟨found, hfirst⟩ := hbefore v List.mem_cons_self
        rw [hv] at hfirst
        cases hfirst
    · rw [hlater hv]
      simp
    · rw [hlater hv, List.mem_cons, Option.some.injEq, eq_comm]

/-- The aliases that are remembered when a table is read are those under which it imports
libraries. -/
theorem mem_tableAliases :
    (library, byname) ∈ tableAliases w database name ↔ ImportsAs w database name library byname := by
  unfold tableAliases ImportsAs libraryEntries
  rcases w.store.readTable (Path.join database name) with fault | ⟨v, similar⟩
  · simp
  rcases hfacts : tableFacts v with fault | facts
  · simp [hfacts]
  simp only [hfacts]
  rcases hhas : v.has "libraries" with fault | _ | _
  · simp [hhas]
  · simp [hhas]
  simp only
  rcases hitems : v.field "libraries" >>= Value.elements with fault | items
  · simp [hitems]
  simp only [mem_readLibraries]
  constructor
  · rintro ⟨before, item, after, rfl, hbefore, hitem⟩
    exact ⟨v, similar, facts, before, item, after, rfl, hfacts, hhas, hitems, hbefore, hitem⟩
  · rintro ⟨_, _, _, before, item, after, ⟨⟩, -, -, hlisted, hbefore, hitem⟩
    rw [hitems] at hlisted
    exact ⟨before, item, after, Except.ok.inj hlisted, hbefore, hitem⟩

/-! ### What is known when a table is read -/

/-- An alias is given if it is not empty. -/
theorem firstAlias_cases (aliases : List (String × Value)) (library : String) :
    (∃ byname, byname.truthy = true ∧ (library, byname) ∈ aliases ∧
      firstAlias aliases library = byname) ∨
    firstAlias aliases library = .null ∧
      ∀ byname, (library, byname) ∈ aliases → byname.truthy = false := by
  unfold firstAlias
  cases hfirst : (aliases.filter fun a => a.1 == library && a.2.truthy).head? with
  | none =>
    refine Or.inr ⟨rfl, fun byname hmem => ?_⟩
    have hnone := List.filter_eq_nil_iff.1 (List.head?_eq_none_iff.1 hfirst) _ hmem
    simpa using hnone
  | some a =>
    obtain ⟨hmem, ha⟩ := List.mem_filter.1 (List.mem_of_mem_head? hfirst)
    obtain ⟨hname, htruthy⟩ : a.1 = library ∧ a.2.truthy = true := by simpa using ha
    exact Or.inl ⟨a.2, htruthy, hname ▸ hmem, rfl⟩

theorem mem_knownAliases (hfresh : i.aliases = []) {names : List String} :
    (library, byname) ∈ knownAliases i database names ↔
      ∃ name ∈ names, ImportsAs i.world database name library byname := by
  simp [knownAliases, hfresh, mem_tableAliases]

/-- The records of a visited table carry the first alias that the tables visited before gave it. -/
theorem Visited.byname_of_record {roots : List String} {visited before after : List (String × IndexPart)}
    {name : String} {own : IndexPart} {s : Index} {r : KeywordRecord}
    (h : Visited i database roots visited s) (hfresh : i.aliases = [])
    (hsplit : visited = before ++ (name, own) :: after) (hr : r ∈ own.keywords) :
    r.table = name ∧
      (r.byname.truthy = true ∧ (∃ v ∈ before, ImportsAs i.world database v.1 name r.byname) ∨
        r.byname = .null ∧ ∀ v ∈ before, ∀ byname,
          ImportsAs i.world database v.1 name byname → byname.truthy = false) := by
  rw [h.part before name own after hsplit] at hr
  obtain ⟨htable, hfirst, -⟩ := recordOf_of_mem_contribution hr
  refine ⟨htable, ?_⟩
  rw [hfirst]
  rcases firstAlias_cases (knownAliases i database (before.map Prod.fst)) name with
    ⟨byname, htruthy, hmem, hgiven⟩ | ⟨hnull, hempty⟩
  · obtain ⟨other, hother, himports⟩ := (mem_knownAliases hfresh).1 hmem
    obtain ⟨v, hv, rfl⟩ := List.mem_map.1 hother
    rw [hgiven]
    exact Or.inl ⟨htruthy, v, hv, himports⟩
  · exact Or.inr ⟨hnull, fun v hv byname himports =>
      hempty byname ((mem_knownAliases hfresh).2 ⟨v.1, List.mem_map_of_mem hv, himports⟩)⟩

/-! ### The order of the visits -/

/-- Whether every visited table is a root, or imported by one that was visited before. -/
def LedTo (w : World) (database : String) (roots : List String)
    (visited : List (String × IndexPart)) : Prop :=
  ∀ before name own after, visited = before ++ (name, own) :: after →
    name ∈ roots ∨ ∃ v ∈ before, Imports w database v.1 name

variable {roots : List String} {visited : List (String × IndexPart)} {s s₁ s₂ : Index}

/-- What waits in the queue was asked for. -/
theorem LedTo.round {item : Value × Work} {read : String × IndexPart}
    (h : LedTo i.world database roots visited) (hvisited : Visited i database roots visited s)
    (hn : takeItem.exec s = some (.ok (some item), s₁))
    (hw : (indexItem database item).exec s₁ = some (.ok read, s₂)) :
    LedTo i.world database roots (visited ++ [read]) := by
  obtain ⟨hkey, -⟩ := exec_indexItem_eq_ok.1 hw
  obtain ⟨queue, htake, -⟩ := exec_takeItem_eq_ok.1 hn
  have hknown : item.1 ∈ s.queue.keys :=
    (WorkQueue.keys_perm_of_take htake).mem_iff.1 (WorkQueue.mem_keys_of_take htake)
  rw [hkey, hvisited.explored.known] at hknown
  intro before name own after hsplit
  -- only the table of this round is new; what the queue knew of it says who asked for it
  rcases List.eq_nil_or_concat after with rfl | ⟨after, last, rfl⟩
  · obtain ⟨rfl, hlast⟩ := List.append_inj' hsplit rfl
    cases hlast
    rcases hknown with hroot | ⟨visit, hvisit, hasked⟩
    · obtain ⟨root, hmem, hsame⟩ := List.mem_map.1 hroot
      obtain rfl : root = name := Value.text.inj hsame
      exact Or.inl hmem
    · obtain ⟨v, hv, rfl⟩ := List.mem_map.1 hvisit
      obtain ⟨other, hother, hsame⟩ := List.mem_map.1 hasked
      obtain rfl : other = name := Value.text.inj hsame
      exact Or.inr ⟨v, hv, mem_leadsTo.1 hother⟩
  · rw [List.concat_eq_append, ← List.cons_append, ← List.append_assoc] at hsplit
    exact h before name own after (List.append_inj' hsplit rfl).1

theorem ledTo_of_rounds {log : List ((Value × Work) × String × IndexPart)}
    (h : Rounds takeItem (indexItem database)
      { i with queue := WorkQueue.empty.addAll (roots.map tableRequest) } log s) :
    LedTo i.world database roots (log.map Prod.snd) := by
  have hstart : LedTo i.world database roots [] := by simp [LedTo]
  refine (h.preserves (fun log s => Visited i database roots (log.map Prod.snd) s ∧
    LedTo i.world database roots (log.map Prod.snd)) ⟨visited_start rfl rfl rfl, hstart⟩ ?_).2
  rintro log s₁ item s₂ read s₃ ⟨hvisited, hled⟩ hn hw
  rw [List.map_append]
  exact ⟨hvisited.round hn hw, hled.round hvisited hn hw⟩

/-- **The records of a library know the aliases that were given before it was read.** Let no aliases
be known when the index of a table is made. The records of a visited table all carry an alias that is
not empty, under which a table visited before imports it, or none if there is no such table. If the
visited table is no root, and every visited table that imports it does so under an alias that is not
empty, they carry one. -/
theorem byname_of_earlier {part : IndexPart} (hfresh : i.aliases = [])
    (h : (indexFor database table markup).exec i = some (.ok part, i')) :
    ∃ visited, (visits database table markup).exec i = some (.ok visited, i') ∧
      part.keywords = visited.flatMap (fun v => v.2.keywords) ∧
      ∀ before name own after, visited = before ++ (name, own) :: after →
        (∀ r ∈ own.keywords, r.table = name ∧
          (r.byname.truthy = true ∧ (∃ v ∈ before, ImportsAs i.world database v.1 name r.byname) ∨
            r.byname = .null ∧ ∀ v ∈ before, ∀ byname,
              ImportsAs i.world database v.1 name byname → byname.truthy = false)) ∧
        (¬IsRoot i.world database table markup name →
          (∀ v ∈ visited, Imports i.world database v.1 name →
            ∃ byname, byname.truthy = true ∧ ImportsAs i.world database v.1 name byname) →
          ∀ r ∈ own.keywords, r.byname.truthy = true) := by
  obtain ⟨visited, _, hvisits, ⟨⟩⟩ := exec_bind_eq_ok.1 h
  obtain ⟨roots, log, s, hroots, hrounds, rfl, -⟩ := exists_rounds_of_exec_visits hvisits
  have hvisited := visited_of_rounds hrounds
  have hled := ledTo_of_rounds hrounds
  refine ⟨_, hvisits, by simp [IndexPart.concat, List.flatMap_map], fun before name own after hsplit =>
    ⟨fun r hr => hvisited.byname_of_record hfresh hsplit hr, fun hroot hall r hr => ?_⟩⟩
  rcases (hvisited.byname_of_record hfresh hsplit hr).2 with ⟨htruthy, -⟩ | ⟨-, hempty⟩
  · exact htruthy
  · -- the table is no root, so one that was visited before imports it, under an alias
    rcases hled before name own after hsplit with hname | ⟨v, hv, himports⟩
    · exact absurd ((hroots name).1 hname) hroot
    · have hmem : v ∈ log.map Prod.snd := hsplit ▸ List.mem_append_left _ hv
      obtain ⟨byname, htruthy, hgiven⟩ := hall v hmem himports
      rw [hempty v hv byname hgiven] at htruthy
      cases htruthy

/-- What reading a sound document does. -/
theorem exec_indexItem_of_document {v : Value} {similar : Bool} {facts : TableFacts}
    {entries : List (String × Value)} {files : List String} {queue : WorkQueue} {work : Work}
    (hread : s.world.store.readTable (Path.join database name) = .ok (v, similar))
    (hfacts : tableFacts v = .ok facts) (hentries : libraryEntries s.world v = (entries, none))
    (hfiles : fileImports v = .ok files)
    (hqueue : (s.queue.addAll ((entries.map Prod.fst ++ files).map tableRequest)).finish (.text name) =
      .ok queue) :
    (indexItem database (.text name, work)).exec s =
      some (.ok (name, ⟨recordsOf facts name (firstAlias s.aliases name), facts.varNames⟩),
        { s with queue, aliases := s.aliases ++ entries }) := by
  have hnames : importNames s.world v = .ok (entries.map Prod.fst ++ files) := by
    rw [importNames, hentries, hfiles]
    rfl
  have hreading : tableReading s.world database name =
      .ok (facts, entries.map Prod.fst ++ files) := by
    rw [tableReading, hread]
    exact Outcome.bind_eq_ok.2 ⟨_, rfl, Outcome.bind_eq_ok.2 ⟨facts, hfacts,
      Outcome.bind_eq_ok.2 ⟨_, hnames, rfl⟩⟩⟩
  have haliases : tableAliases s.world database name = entries := by
    unfold tableAliases
    rw [hread]
    dsimp only
    rw [hfacts]
    dsimp only
    rw [hentries]
  rw [exec_indexItem_of_ok hreading hqueue, haliases]

/-- The table of the resource `/a`, which imports a library under an alias. -/
def aliasedTable : String := "a-0639767f3e9eaad729b54037a7e2abf5.json"

/-- The table of the resource `/b`, which imports the library without one. -/
def plainTable : String := "b-97aa0bb188b55dc66927a8de59418743.json"

/-- The table of the library. -/
def sharedLibrary : String := "L-d20caec3b48a1eef164cb4ca81ba2587.json"

/-- The text of a table that imports the library. -/
def importText (byname : String) : String :=
  "\x7b\"libraries\": [\x7b\"library_name\": \"L\", \"library_path\": null, "
    ++ "\"library_arguments\": [], \"library_alias\": " ++ byname ++ "\x7d]\x7d"

/-- A suite whose resources import a library with and without an alias. -/
def sharedStore : Store where
  cwd := "/"
  entries := [(["db"], .folder),
    (["db", sharedLibrary], .file ("\x7b\"library_module\": \"L\", \"keywords\": \x7b\"k\": "
      ++ "\x7b\"keyword_name\": \"K\", \"keyword_arguments\": []\x7d\x7d\x7d")),
    (["db", aliasedTable], .file (importText "\"x\"")), (["db", plainTable], .file (importText "null")),
    (["db", "t"], .file "\x7b\"resources\": [\"/a\", \"/b\"]\x7d")]

def sharedIndex : Index :=
  { world := ⟨sharedStore, { libraries := [("L", [])] }⟩, target := "/db" }

/-- The record of the keyword of the library. -/
def sharedRecord (byname : Value) : KeywordRecord :=
  ⟨.text "K", .list [], .text "L", sharedLibrary, byname⟩

theorem builtinTable?_sharedStore : sharedStore.builtinTable? "/db" = .ok none := by
  have hnames : sharedStore.names "/db" = .ok [sharedLibrary, aliasedTable, plainTable, "t"] :=
    Store.names_of_sorted rfl rfl rfl (by decide)
  rw [Store.builtinTable?, hnames]
  rfl

/-- The import of the library. -/
def importItem (byname : Value) : Value :=
  .object [("library_name", .text "L"), ("library_path", .null), ("library_arguments", .list []),
    ("library_alias", byname)]

/-- The document of a table that imports the library. -/
def importDocument (byname : Value) : Value := .object [("libraries", .list [importItem byname])]

theorem readTable_aliased : sharedIndex.world.store.readTable (Path.join "/db" aliasedTable) =
    .ok (importDocument (.text "x"), false) := by decide +kernel

/-- The library can be built, whatever its alias. -/
theorem libraryEntry?_importItem (byname : Value) :
    libraryEntry? sharedIndex.world (importItem byname) = .ok (some (sharedLibrary, byname)) := by
  have hbuilt : libraryTable? sharedIndex.world (.text "L") (.list []) =
      .ok (some ⟨"L", [], none, none, []⟩) := by decide +kernel
  have hname : TableName.ofLibrary "L" = .ok sharedLibrary := by decide +kernel
  exact Outcome.bind_eq_ok.2 ⟨.null, rfl, Outcome.bind_eq_ok.2 ⟨.text "L", rfl,
    Outcome.bind_eq_ok.2 ⟨.list [], rfl, Outcome.bind_eq_ok.2 ⟨_, hbuilt,
      Outcome.bind_eq_ok.2 ⟨_, hname, rfl⟩⟩⟩⟩⟩

theorem libraryEntries_importDocument (byname : Value) :
    libraryEntries sharedIndex.world (importDocument byname) = ([(sharedLibrary, byname)], none) := by
  have hlisted : (importDocument byname).has "libraries" = .ok true := rfl
  rw [libraryEntries, hlisted]
  change readLibraries sharedIndex.world [importItem byname] = _
  rw [readLibraries, libraryEntry?_importItem]
  rfl

theorem exec_visits_sharedIndex :
    ∃ i', (visits "/db" "t" none).exec sharedIndex =
      some (.ok [("t", {}), (plainTable, {}), (sharedLibrary, ⟨[sharedRecord .null], []⟩),
        (aliasedTable, {})], i') := by
  have hsuite : sharedIndex.world.store.readTable (Path.join "/db" "t") =
      .ok (.object [("resources", .list [.text "/a", .text "/b"])], false) := by decide +kernel
  have hplain : sharedIndex.world.store.readTable (Path.join "/db" plainTable) =
      .ok (importDocument .null, false) := by decide +kernel
  have hlibrary : sharedIndex.world.store.readTable (Path.join "/db" sharedLibrary) =
      .ok (.object [("library_module", .text "L"), ("keywords", .object [("k",
        .object [("keyword_name", .text "K"), ("keyword_arguments", .list [])])])], false) := by
    decide +kernel
  have hfiles : fileImports (.object [("resources", .list [.text "/a", .text "/b"])]) =
      .ok [aliasedTable, plainTable] := by decide +kernel
  exact ⟨_, exec_visits_of_rounds builtinTable?_sharedStore ⟨[_, _, _, _], _,
    .round rfl (exec_indexItem_of_document hsuite rfl rfl hfiles rfl)
      (.round rfl (exec_indexItem_of_document hplain rfl (libraryEntries_importDocument _) rfl rfl)
        (.round rfl (exec_indexItem_of_document hlibrary rfl rfl rfl rfl)
          (.round rfl (exec_indexItem_of_document readTable_aliased rfl
            (libraryEntries_importDocument _) rfl rfl) (.start _)))), rfl, rfl⟩⟩

/-- A library that is imported under an alias, and without one by a table that is read before: its
record has no alias. -/
theorem byname_of_earlier_shared :
    ∃ i' visited, (indexFor "/db" "t" none).exec sharedIndex =
        some (.ok ⟨[sharedRecord .null], []⟩, i') ∧
      (visits "/db" "t" none).exec sharedIndex = some (.ok visited, i') ∧
      aliasedTable ∈ visited.map Prod.fst ∧
      ImportsAs sharedIndex.world "/db" aliasedTable sharedLibrary (.text "x") ∧
      ∀ name ∈ ["t", plainTable], ∀ byname,
        ImportsAs sharedIndex.world "/db" name sharedLibrary byname → byname.truthy = false := by
  obtain ⟨i', hvisits⟩ := exec_visits_sharedIndex
  have hindex : (indexFor "/db" "t" none).exec sharedIndex =
      some (.ok ⟨[sharedRecord .null], []⟩, i') := exec_bind_eq_ok.2 ⟨_, _, hvisits, rfl⟩
  have himports : ImportsAs sharedIndex.world "/db" aliasedTable sharedLibrary (.text "x") :=
    ⟨_, _, ⟨[], [], .null⟩, [], _, [], readTable_aliased, rfl, rfl, rfl, nofun,
      libraryEntry?_importItem _⟩
  obtain ⟨visited, hvisits', -, hbyname⟩ := byname_of_earlier rfl hindex
  obtain rfl := Except.ok.inj (Prod.mk.inj (Option.some.inj (hvisits'.symm.trans hvisits))).1
  refine ⟨i', _, hindex, hvisits, by simp, himports, fun name hname => ?_⟩
  obtain ⟨hrecords, -⟩ := hbyname [("t", {}), (plainTable, {})] sharedLibrary _ _ rfl
  rcases (hrecords (sharedRecord .null) (by simp)).2 with ⟨htruthy, -⟩ | ⟨-, hempty⟩
  · cases htruthy
  · exact hempty (name, {}) (by simpa using hname)

end Indexing

end KeywordCatalog
