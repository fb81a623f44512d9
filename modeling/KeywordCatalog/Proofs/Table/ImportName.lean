import KeywordCatalog.Proofs.Index.Reading
import KeywordCatalog.Proofs.Table.Building
import KeywordCatalog.Proofs.Table.Name

/-!
# The names of imported tables

A scan names a table by what it describes, and an index looks for a table by what the table that
imports it says (`Indexing.importName?`). Both names are put together from a part that is shown and
the digest of a whole text, so they are the same exactly if the shown parts and the digests are
(`TableName.compose_eq_iff`). `Indexing.NameFits` says when that is so.
-/

namespace KeywordCatalog

namespace Indexing

variable {w : World} {r : Request} {t : RobotTable}

/-- The name of the table that an index looks for because of a request. A library is named by its
module and so must be built, a file by its path. -/
def importName? (w : World) (r : Request) : Except Fault (Option String) :=
  match r.kind with
  | .library => do
    match ← libraryTable? w r.key r.arguments with
    | none => return none
    | some t => return some (← TableName.ofLibrary t.moduleName)
  | _ => do return some (← TableName.ofPath (← r.key.textOnly))

theorem key_cases (i : LibraryImport) :
    (Value.ofText? i.path).truthy = true ∧ Value.ofText? i.path = .text i.key ∨
      (Value.ofText? i.path).truthy = false ∧ i.name = i.key := by
  unfold LibraryImport.key
  rcases i.path with _ | path
  · exact Or.inr ⟨rfl, rfl⟩
  · by_cases h : path.isEmpty <;> simp [Value.ofText?, Value.truthy, h]

theorem aliased_name (found : Except Fault (Option LibraryTable)) (byname : Value) :
    (do
      match ← found with
      | none => return none
      | some t => return some (← TableName.ofLibrary t.moduleName, byname)) =
      Option.map (·, byname) <$> (do
        match ← found with
        | none => return none
        | some t => return some (← TableName.ofLibrary t.moduleName)) := by
  rcases found with fault | _ | t
  · rfl
  · rfl
  · simp only [Outcome.ok_bind]
    cases TableName.ofLibrary t.moduleName <;> rfl

theorem libraryEntry?_document (i : LibraryImport) :
    libraryEntry? w i.document =
      Option.map (·, i.byname) <$> importName? w ⟨.text i.key, .library, i.arguments⟩ := by
  have hpath : i.document.field "library_path" = .ok (Value.ofText? i.path) := rfl
  have hname : i.document.field "library_name" = .ok (.text i.name) := rfl
  have harguments : i.document.field "library_arguments" = .ok i.arguments := rfl
  have hbyname : i.document.field "library_alias" = .ok i.byname := rfl
  unfold libraryEntry?
  rcases key_cases i with ⟨htruthy, hkey⟩ | ⟨htruthy, hkey⟩
  · simp only [hpath, harguments, hbyname, htruthy, Outcome.ok_bind, if_true, pure_bind]
    rw [hkey]
    exact aliased_name _ i.byname
  · simp only [hpath, hname, harguments, hbyname, htruthy, hkey, Outcome.ok_bind, if_false,
      Bool.false_eq_true]
    exact aliased_name _ i.byname

/-- Reading library imports gives the names of the libraries that can be built. -/
theorem importName?_libraries (all : List LibraryImport) :
    (List.filterMap id <$> (all.map fun i => ⟨.text i.key, .library, i.arguments⟩).mapM
        (importName? w) : Except Fault (List String)) =
      match readLibraries w (all.map LibraryImport.document) with
      | (_, some fault) => .error fault
      | (entries, none) => .ok (entries.map Prod.fst) := by
  induction all with
  | nil => rfl
  | cons i rest ih =>
    simp only [List.map_cons, List.mapM_cons, readLibraries, libraryEntry?_document]
    rcases importName? w ⟨.text i.key, .library, i.arguments⟩ with fault | found
    · rfl
    simp only [Outcome.ok_bind, Outcome.ok_map]
    generalize (rest.map fun i => (⟨.text i.key, .library, i.arguments⟩ : Request)).mapM
      (importName? w) = names at ih ⊢
    generalize readLibraries w (rest.map LibraryImport.document) = read at ih ⊢
    rcases names with fault | names <;> rcases read with ⟨entries, _ | fault'⟩ <;>
      rcases found with _ | name <;> simp_all

/-- Files are named by their paths. -/
theorem importName?_files {α : Type} (request : α → Request) (path : α → String) (all : List α)
    (h : ∀ a, importName? w (request a) = some <$> TableName.ofPath (path a)) :
    (List.filterMap id <$> (all.map request).mapM (importName? w) : Except Fault (List String)) =
      all.mapM fun a => TableName.ofPath (path a) := by
  induction all with
  | nil => rfl
  | cons a rest ih =>
    simp only [List.map_cons, List.mapM_cons, h, ← ih]
    rcases TableName.ofPath (path a) with fault | name
    · rfl
    rcases (rest.map request).mapM (importName? w) with fault | names
    · rfl
    · simp [pure, Except.pure]

theorem fileImports_document :
    fileImports t.document = do
      let variableFiles ← t.variableFiles.mapM fun i => TableName.ofPath i.path
      let resources ← t.resources.mapM TableName.ofPath
      return variableFiles ++ resources := by
  have hvariables : t.document.has "variable_files" = .ok true := rfl
  have hresources : t.document.has "resources" = .ok true := rfl
  have hlisted : t.document.field "variable_files" =
      .ok (.list (t.variableFiles.map VariableImport.document)) := rfl
  have hnamed : t.document.field "resources" = .ok (.list (t.resources.map .text)) := rfl
  unfold fileImports
  simp only [hvariables, hresources, hlisted, hnamed, Outcome.ok_bind, if_true,
    Value.elements_list, List.mapM_map]
  rfl

/-- The names of the tables that an index looks for because of a table are those of the table's
requests. -/
theorem importNames_document :
    importNames w t.document = List.filterMap id <$> t.requests.mapM (importName? w) := by
  have hhas : t.document.has "libraries" = .ok true := rfl
  have hlisted : t.document.field "libraries" >>= Value.elements =
      .ok (t.libraries.map LibraryImport.document) := rfl
  have hlibraries := importName?_libraries (w := w) t.libraries
  have hvariables := importName?_files (w := w)
    (fun i : VariableImport => ⟨.text i.path, .variableFile, i.arguments⟩) VariableImport.path
    t.variableFiles fun _ => rfl
  have hresources := importName?_files (w := w) (fun path => ⟨.text path, .resource, .null⟩) id
    t.resources fun _ => rfl
  unfold importNames libraryEntries
  simp only [hhas, hlisted, fileImports_document, RobotTable.requests, List.mapM_append,
    ← hvariables]
  rw [show t.resources.mapM TableName.ofPath = _ from hresources.symm]
  generalize readLibraries w (t.libraries.map LibraryImport.document) = read at hlibraries ⊢
  generalize (t.libraries.map _).mapM (importName? w) = libraries at hlibraries ⊢
  generalize (t.variableFiles.map _).mapM (importName? w) = variableFiles
  generalize (t.resources.map _).mapM (importName? w) = resources
  rcases read with ⟨entries, _ | fault⟩
  · rcases libraries with fault | libraries
    · cases hlibraries
    · have hnames : libraries.filterMap id = entries.map Prod.fst := Except.ok.inj hlibraries
      rcases variableFiles with fault | variableFiles
      · rfl
      · rcases resources with fault | resources
        · rfl
        · simpa [Except.map, pure, Except.pure] using hnames.symm
  · rcases libraries with fault | libraries
    · cases hlibraries
      rfl
    · cases hlibraries

end Indexing

namespace World

variable {w : World} {path q : String} {model : Model} {t : RobotTable} {r : Request} {work : Work}
  {T : Table}

/-- The table of a file is named by the spelling of its path. -/
theorem fileName_of_buildTable (h : w.buildTable (.text q) work = .ok T) :
    (∃ l, T = .library l) ∨ (∀ l, T ≠ .library l) ∧ T.fileName = TableName.ofPath (w.tidy q) := by
  cases builds_of_buildTable h with
  | robot _ _ hholds => exact Or.inr ⟨nofun, congrArg TableName.ofPath hholds.filePath⟩
  | library => exact Or.inl ⟨_, rfl⟩
  | variableFile _ hpath => exact Or.inr ⟨nofun, congrArg TableName.ofPath hpath⟩

/-- What a table asks for has a text as its key. Files are asked for by absolute paths, and by tidy
ones unless a resource is imported by an absolute path. -/
theorem Holds.request (hcwd : Path.isAbsolute w.store.cwd = true) (h : Holds w path model t)
    (hr : r ∈ t.requests) : ∃ q, r.key = .text q ∧ r.kind ∈ [.library, .variableFile, .resource] ∧
      (r.kind ≠ .library → Path.isAbsolute q = true) ∧
      (r.kind = .variableFile → w.tidy q = q) ∧
      (r.kind = .resource → w.tidy q = q ∨
        ∃ i ∈ model.imports, i.kind = .text "Resource" ∧ i.name = .text q) := by
  obtain ⟨i, hi, himported⟩ := (h.mem_requests r).1 hr
  cases himported with
  | library hkind hl => exact ⟨_, rfl, by simp⟩
  | @variableFile v hkind hv =>
    obtain ⟨name, hname, hpath⟩ := variableImport_eq_ok hv
    refine ⟨v.path, rfl, by simp, fun _ => ?_, fun _ => ?_, nofun⟩
    · rw [hpath]
      exact Path.isAbsolute_tidy hcwd _
    · rw [hpath]
      exact Path.tidy_tidy hcwd _ _
  | @resource name hkind hname =>
    refine ⟨w.resourcePath path name, rfl, by simp, fun _ => ?_, nofun, fun _ => ?_⟩
    · unfold resourcePath
      split
      · assumption
      · exact Path.isAbsolute_tidy hcwd _
    · unfold resourcePath
      split
      · exact Or.inr ⟨i, hi, hkind, hname⟩
      · exact Or.inl (Path.tidy_tidy hcwd _ _)

end World

namespace Indexing

variable {w : World} {r : Request} {l : LibraryTable} {q stored : String} {T : Table}

theorem importName?_of_library (hkind : r.kind = .library)
    (hl : w.buildLibraryNamed r.key r.arguments = .ok l) :
    importName? w r = some <$> TableName.ofLibrary l.moduleName := by
  unfold importName? libraryTable?
  simp only [hkind, hl, Outcome.ok_bind]
  rfl

theorem importName?_of_file (hkind : r.kind ≠ .library) (hq : r.key = .text q) :
    importName? w r = some <$> TableName.ofPath q := by
  unfold importName?
  split
  · contradiction
  · simp only [hq, Value.textOnly_text, Outcome.ok_bind]
    rfl

/-- When the name that an index works out for a request with the key `q` is that of the table which
was built for `q`; `l` is the library that the index builds if the request is for a library. A table
that was built as what it was asked for has the same name, except for a resource with a path whose
spelling makes a difference to the digest. -/
def NameFits (w : World) (l : LibraryTable) (r : Request) (q : String) : Table → Prop
  | .library built =>
    r.kind = .library ∨
      Text.hasBytes q.toList = true ∧
        TableName.tail (Path.nameChars q.toList) = TableName.tail built.moduleName.toList ∧
        digest q = digest built.moduleName
  | _ =>
    match r.kind with
    | .library =>
      (∃ name, TableName.ofLibrary l.moduleName = .ok name) ∧
        TableName.tail l.moduleName.toList = TableName.tail (Path.nameChars q.toList) ∧
        digest l.moduleName = digest (w.tidy q)
    | .resource => Text.hasBytes q.toList = true ∧ digest q = digest (w.tidy q)
    | _ => True

theorem importName?_eq_iff_of_library (hq : r.key = .text q) {built : LibraryTable}
    (hstored : TableName.ofLibrary built.moduleName = .ok stored)
    (hlibrary : r.kind = .library → w.buildLibraryNamed r.key r.arguments = .ok l ∧
      built.moduleName = l.moduleName) (w' : World) :
    importName? w r = .ok (some stored) ↔ NameFits w' l r q (.library built) := by
  unfold NameFits
  by_cases hkind : r.kind = .library
  · obtain ⟨hl, hmodule⟩ := hlibrary hkind
    rw [importName?_of_library hkind hl, ← hmodule, hstored]
    simp [hkind]
  · rw [importName?_of_file hkind hq, Outcome.map_eq_ok]
    simp only [Option.some.injEq, exists_eq_right, hkind, false_or, TableName.ofPath_eq_ok,
      ← TableName.compose_of_ofLibrary hstored, TableName.compose_eq_iff]

theorem importName?_eq_iff_of_file {w' : World} (hq : r.key = .text q)
    (hkinds : r.kind ∈ [.library, .variableFile, .resource])
    (htidy : r.kind = .variableFile → w'.tidy q = q)
    (hlibrary : r.kind = .library → w.buildLibraryNamed r.key r.arguments = .ok l)
    (hT : ∀ built, T ≠ .library built) (hstored : TableName.ofPath (w'.tidy q) = .ok stored) :
    importName? w r = .ok (some stored) ↔ NameFits w' l r q T := by
  obtain ⟨hbytes, hcompose⟩ := TableName.ofPath_eq_ok.1 hstored
  rw [show Path.nameChars (w'.tidy q).toList = Path.nameChars q.toList from
    Path.nameChars_tidy _ _] at hcompose
  have hfits : NameFits w' l r q T ↔
      match r.kind with
      | .library =>
        (∃ name, TableName.ofLibrary l.moduleName = .ok name) ∧
          TableName.tail l.moduleName.toList = TableName.tail (Path.nameChars q.toList) ∧
          digest l.moduleName = digest (w'.tidy q)
      | .resource => Text.hasBytes q.toList = true ∧ digest q = digest (w'.tidy q)
      | _ => True := by
    cases T with
    | library built => exact absurd rfl (hT built)
    | robot _ => rfl
    | variableFile _ => rfl
  rw [hfits]
  simp only [List.mem_cons, List.not_mem_nil, or_false] at hkinds
  rcases hkinds with hkind | hkind | hkind
  · rw [importName?_of_library hkind (hlibrary hkind), Outcome.map_eq_ok]
    simp only [Option.some.injEq, exists_eq_right, hkind]
    rw [TableName.ofLibrary_eq_ok, ← hcompose, TableName.compose_eq_iff]
  · rw [importName?_of_file (by simp [hkind]) hq, ← htidy hkind, hstored]
    simp [hkind]
  · rw [importName?_of_file (by simp [hkind]) hq, Outcome.map_eq_ok]
    simp only [Option.some.injEq, exists_eq_right, hkind, TableName.ofPath_eq_ok, ← hcompose,
      TableName.compose_eq_iff, true_and]

/-- **The name that an index works out for an import of a table is the name under which a scan stores
what is imported, unless the import is a resource under an absolute path that is not tidy, or the
scan met the same path as a library and as a file.** -/
theorem importName?_eq_stored_iff {i : Index} {w w' : World} {path : String} {b : Builder}
    {t : RobotTable} {work : Work} (hcwd : Path.isAbsolute w.store.cwd = true)
    (ht : ((w.buildRobot path).exec b).1 = .ok t) (hr : r ∈ t.requests)
    (hT : w'.buildTable r.key work = .ok T) (hstored : T.fileName = .ok stored)
    (hlibrary : r.kind = .library → i.world.buildLibraryNamed r.key r.arguments = .ok l ∧
      ∀ built, T = .library built → built.moduleName = l.moduleName) :
    ((imports t.document).exec i).map Prod.fst =
        some (List.filterMap id <$> t.requests.mapM (importName? i.world)) ∧
      ∃ q, r.key = .text q ∧
        (importName? i.world r = .ok (some stored) ↔ NameFits w' l r q T) ∧
        (r.kind = .resource → w'.tidy q ≠ q → Path.isAbsolute q = true ∧
          ∃ model, w.robotModel path = .ok model ∧
            ∃ setting ∈ model.imports, setting.kind = .text "Resource" ∧ setting.name = .text q) := by
  obtain ⟨model, hmodel, hholds⟩ := World.holds_of_buildRobot ht
  obtain ⟨q, hq, hkinds, habsolute, hvariables, hresource⟩ := hholds.request hcwd hr
  -- files are asked for by absolute paths, so both worlds know them by the same spelling
  have htidy (hfile : r.kind ≠ .library) : w'.tidy q = w.tidy q :=
    Path.tidy_of_absolute (habsolute hfile) _ _
  refine ⟨by rw [exec_imports, importNames_document]; rfl, q, hq, ?_, fun hkind huntidy => ?_⟩
  · rw [hq] at hT
    rcases World.fileName_of_buildTable hT with ⟨built, rfl⟩ | ⟨hfile, hname⟩
    · exact importName?_eq_iff_of_library hq hstored
        (fun hkind => ⟨(hlibrary hkind).1, (hlibrary hkind).2 built rfl⟩) w'
    · refine importName?_eq_iff_of_file hq hkinds (fun hkind => ?_)
        (fun hkind => (hlibrary hkind).1) hfile (hname ▸ hstored)
      rw [htidy (by simp [hkind]), hvariables hkind]
  · have hfile : r.kind ≠ .library := by simp [hkind]
    rw [htidy hfile] at huntidy
    exact ⟨habsolute hfile, model, hmodel, (hresource hkind).resolve_left huntidy⟩

/-- A workspace with a suite that imports a library, and a resource by a path with a detour. -/
def detour : World where
  store :=
    { cwd := "/",
      entries := [(["ws"], .folder), (["ws", "a.robot"], .file ""), (["ws", "r.robot"], .file "")] }
  framework :=
    { resources :=
        [("/ws/a.robot",
          { imports := [⟨.text "Library", .text "Lib", .null, .list []⟩,
              ⟨.text "Resource", .text "/ws/../ws/r.robot", .null, .list []⟩] }),
         ("/ws/../ws/r.robot", {})],
      libraries := [("Lib", [])] }

/-- The table of the suite. -/
def detourTable : RobotTable :=
  { fileName := "a.robot", filePath := "/ws/a.robot", keywords := [], varNames := [],
    resources := ["/ws/../ws/r.robot"], libraries := [⟨"Lib", .null, .list [], none⟩],
    variableFiles := [] }

/-- The table of the resource. -/
def detourResource : RobotTable :=
  { fileName := "r.robot", filePath := "/ws/r.robot", keywords := [], varNames := [],
    resources := [], libraries := [], variableFiles := [] }

/-- The table of the library. -/
def detourLibrary : LibraryTable :=
  { moduleName := "Lib", arguments := [], filePath := none, fileName := none, keywords := [] }

/-- A library is looked for under the name of its table, and a resource that was imported by a path
with a detour under another one. -/
theorem importName?_eq_stored_iff_detour :
    (∃ stored, (Table.library detourLibrary).fileName = .ok stored ∧
      importName? detour ⟨.text "Lib", .library, .list []⟩ = .ok (some stored)) ∧
    ∃ stored, (Table.robot detourResource).fileName = .ok stored ∧
      importName? detour ⟨.text "/ws/../ws/r.robot", .resource, .null⟩ ≠ .ok (some stored) := by
  have hcwd : Path.isAbsolute detour.store.cwd = true := by decide +kernel
  have ht : ((detour.buildRobot "/ws/a.robot").exec {}).1 = .ok detourTable := by decide +kernel
  have hlibrary : detour.buildLibraryNamed (.text "Lib") (.list []) = .ok detourLibrary := by
    decide +kernel
  constructor
  · have hT : detour.buildTable (.text "Lib") ⟨.taken, .library, .list []⟩ =
        .ok (.library detourLibrary) := by decide +kernel
    refine ⟨_, rfl, ?_⟩
    obtain ⟨-, q, -, hiff, -⟩ :=
      importName?_eq_stored_iff (i := ⟨detour, "/index", {}, []⟩)
        (r := ⟨.text "Lib", .library, .list []⟩) hcwd ht (by decide +kernel) hT rfl
        fun _ => ⟨hlibrary, by rintro _ ⟨⟩; rfl⟩
    exact hiff.2 (Or.inl rfl)
  · have hT : detour.buildTable (.text "/ws/../ws/r.robot") ⟨.taken, .resource, .null⟩ =
        .ok (.robot detourResource) := by decide +kernel
    have hstored : (Table.robot detourResource).fileName = .ok (TableName.ofFile "/ws/r.robot") := by
      decide +kernel
    refine ⟨_, hstored, ?_⟩
    obtain ⟨-, q, hq, hiff, -⟩ :=
      importName?_eq_stored_iff (i := ⟨detour, "/index", {}, []⟩) (l := detourLibrary)
        (r := ⟨.text "/ws/../ws/r.robot", .resource, .null⟩) hcwd ht (by decide +kernel) hT hstored
        nofun
    cases hq
    have hdigest : digest "/ws/../ws/r.robot" ≠ digest (detour.tidy "/ws/../ws/r.robot") := by
      decide +kernel
    exact fun hsame => hdigest (hiff.1 hsame).2

end Indexing

end KeywordCatalog
