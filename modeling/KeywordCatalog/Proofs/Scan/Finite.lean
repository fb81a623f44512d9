import KeywordCatalog.Proofs.Scan.Overwriting

/-!
# What a scan can reach

A scan follows imports, and a path that is imported can be longer than the path of the file that
imports it. Still the scan can reach finitely many items only. The framework has finitely many models,
so there are finitely many import settings and finitely many folders that files with a model lie in,
and what an import setting asks for depends on the folder of its file (`World.importCandidates`).
-/

namespace KeywordCatalog

/-- The folder above the tidy spelling of a file is told by the folder above the file. -/
theorem Path.parent_tidy (cwd p : String) :
    parent (tidy cwd p) = parent (join (absolute cwd (parent p)) "") := by
  have hname := isAbsoluteChars_of_not_mem (not_mem_nameChars p.toList)
  simp only [parent, tidy, join, absolute, tidyChars, String.toList_ofList]
  rw [joinChars_eq_append hname, parentChars_append endsFolder_joinChars_nil (not_mem_nameChars _)]
  have hempty := parentChars_append (b := []) (endsFolder_joinChars_nil
    (a := absoluteChars cwd.toList (parentChars p.toList))) List.not_mem_nil
  rw [List.append_nil] at hempty
  exact congrArg String.ofList hempty.symm

namespace World

variable {w : World} {path : String} {model : Model} {i : ImportInfo} {r : Request} {key : Value}
  {work : Work} {t : Table}

/-- The folders of the files that the framework can have models of. -/
def importFolders (f : Framework) : List String :=
  (f.resources ++ f.suites).map (fun a => Path.parent a.1) ++ f.folders.map Prod.fst

/-- The import settings that the framework knows. -/
def importSettings (f : Framework) : List ImportInfo :=
  (f.resources ++ f.suites ++ f.folders).flatMap fun a => a.2.imports

/-- What an import setting with a name can ask for in a file of a folder: the name as it is, the file
of code that it leads to from the folder or from where it is spelled, or another file. -/
def importCandidates (cwd folder name : String) : List String :=
  let code := Path.absolute cwd
    (Path.join (Path.parent (Path.join (Path.absolute cwd folder) "")) name)
  [name, Path.name name, Path.tidy cwd name, Path.name code, code,
    Path.tidy cwd (Path.join folder name)]

/-- What import settings can ask for. -/
def importKeys (cwd : String) (f : Framework) : List Value :=
  (importFolders f).flatMap fun folder => (importSettings f).flatMap fun i =>
    match i.name with
    | .text name => (importCandidates cwd folder name).map .text
    | _ => []

theorem mem_importFolders (h : w.robotModel path = .ok model) :
    Path.parent path ∈ importFolders w.framework := by
  rcases mem_of_robotModel h with hmem | hmem
  · exact List.mem_append_left _ (List.mem_map.2 ⟨_, hmem, rfl⟩)
  · exact List.mem_append_right _ (List.mem_map.2 ⟨_, hmem, rfl⟩)

theorem mem_importSettings (h : w.robotModel path = .ok model) (hi : i ∈ model.imports) :
    i ∈ importSettings w.framework := by
  rcases mem_of_robotModel h with hmem | hmem
  · exact List.mem_flatMap.2 ⟨(path, model), List.mem_append_left _ hmem, hi⟩
  · exact List.mem_flatMap.2 ⟨(Path.parent path, model), List.mem_append_right _ hmem, hi⟩

theorem key_of_libraryImport {l : LibraryImport}
    (h : w.libraryImport (Path.parent (w.tidy path)) i = .ok l) :
    ∃ name, i.name = .text name ∧
      l.key ∈ importCandidates w.store.cwd (Path.parent path) name := by
  have hfolder : Path.parent (w.tidy path) =
      Path.parent (Path.join (Path.absolute w.store.cwd (Path.parent path)) "") :=
    Path.parent_tidy _ _
  obtain ⟨name, hname, h⟩ := Outcome.bind_eq_ok.1 h
  have htext : i.name = .text name := by
    revert hname
    cases i.name <;> simp [Value.asText]
  refine ⟨name, htext, ?_⟩
  rw [hfolder] at h
  unfold LibraryImport.key importCandidates
  split at h
  · split at h
    · rw [← Except.ok.inj h]
      dsimp only
      split <;> simp [World.tidy]
    · rw [← Except.ok.inj h]
      dsimp only
      split <;> simp
  · rw [← Except.ok.inj h]
    simp

/-- An import setting asks for one of its candidates. -/
theorem Imported.mem_candidates (h : Imported w path i r) : ∃ name, i.name = .text name ∧
    ∃ key ∈ importCandidates w.store.cwd (Path.parent path) name, r.key = .text key := by
  cases h with
  | library _ hl =>
    obtain ⟨name, hname, hkey⟩ := key_of_libraryImport hl
    exact ⟨name, hname, _, hkey, rfl⟩
  | variableFile _ hv =>
    obtain ⟨name, hname, hpath⟩ := variableImport_eq_ok hv
    refine ⟨name, hname, _, ?_, rfl⟩
    rw [hpath]
    simp [importCandidates, World.tidy]
  | resource _ hname =>
    refine ⟨_, hname, _, ?_, rfl⟩
    unfold resourcePath
    split <;> simp [importCandidates, World.tidy]

/-- What a table asks for is told by the framework and the folder that relative paths start from. -/
theorem mem_importKeys (h : w.buildTable key work = .ok t) (hr : r ∈ t.requests) :
    r.key ∈ importKeys w.store.cwd w.framework := by
  cases builds_of_buildTable h with
  | robot _ hmodel hholds =>
    obtain ⟨i, hi, himported⟩ := (hholds.mem_requests r).1 hr
    obtain ⟨name, hname, key, hkey, hrequest⟩ := himported.mem_candidates
    refine List.mem_flatMap.2 ⟨_, mem_importFolders hmodel,
      List.mem_flatMap.2 ⟨i, mem_importSettings hmodel hi, ?_⟩⟩
    rw [hname, hrequest]
    exact List.mem_map_of_mem hkey
  | library => cases hr
  | variableFile => cases hr

end World

namespace Scanning

variable {workspace extension database : String} {markup : Option String} {v : World} {s : Scan}

/-- **A scan that builds tables from what is stored can reach finitely many items only.** -/
theorem finite_closure
    (hroots : (addRoots workspace extension markup).exec ⟨v, {}⟩ = some (.ok (), s)) :
    {key | InClosure World.buildTable workspace extension database markup v key}.Finite := by
  obtain ⟨requests, hmem, -, rfl⟩ := exec_addRoots_eq_ok hroots
  refine (List.finite_toSet (requests.map Request.key ++
    World.importKeys v.store.cwd v.framework)).subset fun key hkey => ?_
  refine List.mem_append.2 ?_
  cases hkey with
  | root hroot => exact Or.inl ((hmem key).2 hroot)
  | lead _ hleads =>
    obtain ⟨s₀, log, s', work, table, hroots', hrounds, he, hother⟩ := hleads
    rw [hroots] at hroots'
    cases hroots'
    -- the worlds of the rounds differ from `v` in what they store only
    obtain ⟨u, hframework, hstores, hbuilt⟩ := (written_of_rounds hrounds).built _ he
    obtain ⟨r, hr, rfl⟩ := List.mem_map.1 hother
    have hkeys := World.mem_importKeys hbuilt.symm hr
    rw [hframework, hstores.alike.cwd] at hkeys
    exact Or.inr hkeys

end Scanning

end KeywordCatalog
