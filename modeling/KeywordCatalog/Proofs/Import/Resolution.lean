import KeywordCatalog.Editor.Import
import KeywordCatalog.Proofs.Path.Relative
import KeywordCatalog.Proofs.Store.Database
import KeywordCatalog.Proofs.Table.Spelling

/-!
# Where the name of an import leads

The name of an imported file is resolved in two places: by the editor, which opens the file, and by
the scan, which records the file in the table of the importing file. The editor makes the whole path
absolute, the scan leaves the last part alone, and the scan knows the importing file under its tidy
spelling only. For the name of a resource both lead to the same file (`Import.target_eq_filePath`),
since such a name ends with a part that is no dot.

The text that the editor inserts for a file is the path from the folder of the open file, and it
leads back to the file in both places (`Editor.insertImport_resolves`).
-/

namespace KeywordCatalog

open Text

/-! ### Names of resources -/

namespace Text

/-- The lower case form of a text ends with the last character if that has no case. -/
theorem getLast?_lowerAfter {c : Char} (hsigma : c ≠ 'Σ') (hdotted : c ≠ 'İ') (hc : lowerChar c = c)
    (before front : List Char) : (lowerAfter before (front ++ [c])).getLast? = some c := by
  induction front generalizing before with
  | nil => simp [lowerAfter, hsigma, hdotted, hc]
  | cons x rest ih =>
    have hne : lowerAfter (x :: before) (rest ++ [c]) ≠ [] := by
      intro hempty
      have hlast := ih (x :: before)
      simp [hempty] at hlast
    rw [List.cons_append, lowerAfter, Path.getLast?_append_of_ne_nil hne]
    exact ih (x :: before)

end Text

namespace Import

variable {w : World} {name : String} {i : ImportInfo} {b : Builder}

/-- The name of a resource ends with a part that is no dot. -/
theorem isPlain_of_hasEnding (h : hasEnding (lower name.toList) ".robot" = true) :
    Path.IsPlain (Path.nameChars name.toList) := by
  have hlast : (lower name.toList).getLast? = some 't' := by
    obtain ⟨front, hfront⟩ := List.isSuffixOf_iff_suffix.1 h
    rw [← hfront, Path.getLast?_append_of_ne_nil (by decide)]
    decide
  -- a slash or a dot at the end would stay there in lower case
  have hends {c : Char} (hsigma : c ≠ 'Σ') (hdotted : c ≠ 'İ') (hc : lowerChar c = c)
      (hne : c ≠ 't') : name.toList.getLast? ≠ some c := by
    intro he
    obtain ⟨front, hfront⟩ := List.getLast?_eq_some_iff.1 he
    rw [hfront, lower, getLast?_lowerAfter hsigma hdotted hc, Option.some.injEq] at hlast
    exact hne hlast
  have hslash : name.toList.getLast? ≠ some '/' := by
    apply hends <;> decide
  have hdot : name.toList.getLast? ≠ some '.' := by
    apply hends <;> decide
  obtain ⟨front, hfolder, hfront⟩ := Path.exists_append_nameChars name.toList
  have hne : Path.nameChars name.toList ≠ [] := by
    intro hempty
    rw [hempty, List.append_nil] at hfront
    rcases hfolder with hnil | hfolder
    · rw [hfront, hnil] at hlast
      cases hlast
    · exact hslash (hfront ▸ hfolder)
  have hname : (Path.nameChars name.toList).getLast? ≠ some '.' := by
    intro he
    rw [hfront, Path.getLast?_append_of_ne_nil hne] at hdot
    exact hdot he
  refine ⟨hne, ?_, ?_, Path.not_mem_nameChars _⟩
  · intro hone
    exact hname (by rw [hone]; rfl)
  · intro htwo
    exact hname (by rw [htwo]; rfl)

/-- The file of a resource is known under the path that its name leads to. -/
theorem filePath_eq_tidy (hcwd : Path.isAbsolute w.store.cwd = true)
    (hname : hasEnding (lower name.toList) ".robot" = true) (tab : String) :
    filePath w.store name tab = w.tidy (Path.join (Path.parent tab) name) := by
  have hplain : Path.IsPlain (Path.nameChars (Path.join (Path.parent tab) name).toList) := by
    rw [Path.join, String.toList_ofList, Path.nameChars_joinChars]
    exact isPlain_of_hasEnding hname
  rw [filePath, World.tidy, Path.absolute, Path.tidy, Path.tidyChars_eq_absoluteChars hcwd hplain]

/-- What a scan records for an import is spelled as the file is known, or absolute. -/
theorem tidy_resourcePath (hcwd : Path.isAbsolute w.store.cwd = true) (tab name : String) :
    w.tidy (w.resourcePath tab name) = w.tidy (Path.join (Path.parent tab) name) := by
  unfold World.resourcePath
  split
  · rename_i habsolute
    rw [Path.join, Path.joinChars_absolute _ habsolute, String.ofList_toList]
  · exact Path.tidy_tidy hcwd _ _

theorem exec_resourceImport (hname : i.name = .text name) (tab : String) (b : Builder) :
    ((w.resourceImport tab i).exec b).1 = .ok (w.resourcePath tab name) := by
  rw [World.resourceImport, hname, Value.textOnly_text, Building.exec_bind]
  simp only [Building.exec_lift]
  split
  · rw [Building.exec_bind]
    rfl
  · rfl

/-- **The editor opens the file that a scan records.** The name of a resource leads from an open
file, however that is spelled, to the spelling of what the scan of the open file's tidy spelling
gives for the name, and this is the path in the table of the resource. -/
theorem target_eq_filePath (hcwd : Path.isAbsolute w.store.cwd = true)
    (hname : hasEnding (lower name.toList) ".robot" = true) (hi : i.name = .text name)
    (tab tables : String) (b : Builder) :
    ∃ found, ((w.resourceImport (w.tidy tab) i).exec b).1 = .ok found ∧
      target w.store name tab tables = .ok (.text (w.tidy found)) ∧
      ∀ (w' : World) (work : Work) (t : RobotTable), w'.store.cwd = w.store.cwd →
        w'.buildTable (.text found) work = .ok (.robot t) →
        target w.store name tab tables = t.document.field "file_path" := by
  have htarget : target w.store name tab tables =
      .ok (.text (w.tidy (w.resourcePath (w.tidy tab) name))) := by
    have hfile : namesFile name = true := by rw [namesFile, hname, Bool.true_or]
    rw [target, if_pos hfile, filePath_eq_tidy hcwd hname,
      World.resourcePath_tidy (.refl w) hcwd, tidy_resourcePath hcwd]
  refine ⟨w.resourcePath (w.tidy tab) name, exec_resourceImport hi _ b, htarget, ?_⟩
  intro w' work t hsame hbuilt
  cases World.builds_of_buildTable hbuilt with
  | robot _ _ hholds =>
    have htidy (path : String) : w'.tidy path = w.tidy path := by
      rw [World.tidy, hsame, World.tidy]
    rw [htarget, ← htidy, ← hholds.filePath]
    rfl

/-- A resource that the framework has a model of. -/
def resourceWorld : World where
  store := { cwd := "/ws", entries := [(["lib"], .folder), (["lib", "r.ROBOT"], .file "")] }
  framework := { resources := [("/lib/r.ROBOT", {})] }

/-- From a file with a relative path, a name with detours leads to the path in the table of the
resource. -/
theorem target_eq_filePath_detour :
    Path.isAbsolute resourceWorld.store.cwd = true ∧
    hasEnding (lower "..//.././lib/r.ROBOT".toList) ".robot" = true ∧
    ∃ t, resourceWorld.buildTable (.text "/lib/r.ROBOT") ⟨.waiting, .resource, .null⟩ =
        .ok (.robot t) ∧
      target resourceWorld.store "..//.././lib/r.ROBOT" "suite/./a.robot" "/db" =
        .ok (.text "/lib/r.ROBOT") ∧
      t.document.field "file_path" = .ok (.text "/lib/r.ROBOT") := by
  let i : ImportInfo := ⟨.text "Resource", .text "..//.././lib/r.ROBOT", .null, .null⟩
  obtain ⟨found, hfound, htarget, hstored⟩ := target_eq_filePath (w := resourceWorld) (i := i) rfl
    (by decide) rfl "suite/./a.robot" "/db" {}
  have hname : found = "/lib/r.ROBOT" := by
    have hcomputed : ((resourceWorld.resourceImport (resourceWorld.tidy "suite/./a.robot") i).exec
        {}).1 = .ok "/lib/r.ROBOT" := by decide
    exact Except.ok.inj (hfound.symm.trans hcomputed)
  subst hname
  have htidy : resourceWorld.tidy "/lib/r.ROBOT" = "/lib/r.ROBOT" := by decide
  rw [htidy] at htarget
  have hbuilt : ∃ t, resourceWorld.buildTable (.text "/lib/r.ROBOT") ⟨.waiting, .resource, .null⟩ =
      .ok (.robot t) := ⟨_, rfl⟩
  obtain ⟨t, ht⟩ := hbuilt
  exact ⟨rfl, by decide, t, ht, htarget, (hstored resourceWorld _ t rfl ht).symm.trans htarget⟩

end Import

/-! ### Names that are inserted -/

namespace Editing

variable {α β : Type} {work : Editing α} {after : α → Editing β} {s : Session}

/-- How the work of a command ends. -/
def exec (work : Editing α) (s : Session) : Except Fault α × Session := (work.run.run s).run

theorem exec_bind : exec (work >>= after) s =
    match exec work s with
    | (.ok a, s') => exec (after a) s'
    | (.error fault, s') => (.error fault, s') := by
  refine (Outcome.run_bind work after s).trans ?_
  unfold exec
  rcases (work.run.run s).run with ⟨_ | _, _⟩ <;> rfl

@[simp] theorem exec_lift (x : Except Fault α) : exec (liftM x) s = (x, s) := by
  cases x <;> rfl

@[simp] theorem exec_get : exec get s = (.ok s, s) := rfl

end Editing

namespace Editor

open Editing

variable {e : Editor} {s : Session} {file tab : String} {label point : Value}

/-- What is inserted for a file that is there is the path from the folder of the open file. -/
theorem exec_insertImport (hview : e.view.file = some tab) (hfile : s.store.has file = true) :
    (e.insertImport (.object [("select", .list [label, .text file]), ("point", point)])).exec s =
      (.ok (), { s with events :=
        s.events ++ [.insert point (.text (Import.relativeName s.store file tab))] }) := by
  have hselect : (Value.object [("select", .list [label, .text file]), ("point", point)]).field
      "select" = .ok (.list [label, .text file]) := rfl
  have hitem : (Value.list [label, .text file]).item 1 = .ok (.text file) := rfl
  have hthere : s.store.hasNamed (.text file) = .ok true := by rw [Store.hasNamed, hfile]
  have htext : e.importText s.store (.text file) =
      .ok (.text (Import.relativeName s.store file tab)) := by
    rw [importText, hview]
    rfl
  unfold insertImport
  simp only [exec_bind, exec_lift, exec_get, hselect, hitem, hthere, htext, if_true]
  rfl

/-- A text without backslashes is inserted as it is. -/
theorem toList_relativeName {s : Store}
    (h : '\\' ∉ Path.relativeChars s.cwd.toList file.toList (Path.parentChars tab.toList)) :
    (Import.relativeName s file tab).toList =
      Path.relativeChars s.cwd.toList file.toList (Path.parentChars tab.toList) := by
  have hkeep : ∀ c ∈ Path.relativeChars s.cwd.toList file.toList (Path.parentChars tab.toList),
      (if c == '\\' then '/' else c) = c := by
    intro c hc
    have hne : c ≠ '\\' := fun he => h (he ▸ hc)
    simp [hne]
  simp only [Import.relativeName, Path.relative, Path.parent, String.toList_ofList]
  rw [List.map_congr_left hkeep, List.map_id']

/-- **The name that is inserted for a file leads to the file.** For an open file and a file that is
there, both with paths in normal form from the root, the text that is inserted leads from the open
file to the file, in the editor and in a scan of the open file, unless the file is the folder of the
open file or above it. -/
theorem insertImport_resolves (htab : Path.IsRooted tab.toList)
    (hrooted : Path.IsRooted file.toList) (hview : e.view.file = some tab)
    (hfile : s.store.hasFile file = true) (hslashes : '\\' ∉ file.toList)
    (hoff : ¬Path.AtOrAbove file.toList (Path.parent tab).toList) (label point : Value) :
    ∃ text, (e.insertImport
        (.object [("select", .list [label, .text file]), ("point", point)])).exec s =
        (.ok (), { s with events := s.events ++ [.insert point (.text text)] }) ∧
      (∀ s' : Store, Import.filePath s' text tab = file) ∧
      ∀ (w : World) (i : ImportInfo) (b : Builder), i.name = .text text →
        ((w.resourceImport tab i).exec b).1 = .ok file := by
  have hthere : s.store.has file = true := by
    obtain ⟨place, text, hplace, htext⟩ := Store.hasFile_iff.1 hfile
    exact Store.has_iff.2 ⟨_, Store.find_eq_ok.2 ⟨place, hplace, htext⟩⟩
  obtain ⟨goal, hgoal, hpath⟩ := hrooted.exists_parts
  obtain ⟨found, hfound, htabPath⟩ := htab.exists_parts
  have horigin : ∀ part ∈ found.dropLast, Path.IsPlain part := fun part hpart =>
    hfound part (List.dropLast_subset found hpart)
  have hfolder : Path.parentChars tab.toList = Path.fromRoot found.dropLast := by
    rw [htabPath, Path.parentChars_fromRoot hfound]
  have hplainText : '\\' ∉
      Path.relativeChars s.store.cwd.toList file.toList (Path.parentChars tab.toList) := by
    rw [hfolder]
    rw [hpath] at hslashes ⊢
    exact fun h => hslashes
      (Path.mem_of_mem_relativeChars horigin hgoal (by decide) (by decide) h)
  have htext := toList_relativeName hplainText
  rw [hfolder, hpath] at htext
  refine ⟨Import.relativeName s.store file tab, exec_insertImport hview hthere, ?_, ?_⟩
  · intro s'
    simp only [Import.filePath, Path.absolute, Path.join, Path.parent, String.toList_ofList, htext,
      hfolder, Path.absoluteChars_relativeChars _ _ horigin hgoal]
    rw [← hpath, String.ofList_toList]
  · intro w i b hi
    have hrelative : Path.isAbsolute (Import.relativeName s.store file tab) = false := by
      rw [Path.isAbsolute, htext]
      exact Path.isAbsoluteChars_relativeChars _ horigin hgoal
    rw [Path.parent, String.toList_ofList, hfolder, hpath] at hoff
    rw [Import.exec_resourceImport hi, World.resourcePath, hrelative]
    simp only [Bool.false_eq_true, if_false, World.tidy, Path.tidy, Path.join, Path.parent,
      String.toList_ofList, htext, hfolder, Path.tidyChars_relativeChars _ _ horigin hgoal hoff]
    rw [← hpath, String.ofList_toList]

/-- An editor with a suite. -/
def suiteEditor : Editor where
  settings := { package := ⟨"/pkg"⟩ }
  view := { file := some "/ws/suite/a.robot" }

/-- A session with a resource in a folder beside that of the suite. -/
def besideSession : Session where
  store := { cwd := "/", entries := [(["ws"], .folder), (["ws", "suites"], .folder),
    (["ws", "suites", "r.robot"], .file "")] }

/-- The name of one folder starts with the name of the other, and the way still goes up and down. -/
theorem insertImport_resolves_beside :
    Path.IsRooted "/ws/suite/a.robot".toList ∧ Path.IsRooted "/ws/suites/r.robot".toList ∧
    besideSession.store.hasFile "/ws/suites/r.robot" = true ∧
    ¬Path.AtOrAbove "/ws/suites/r.robot".toList (Path.parent "/ws/suite/a.robot").toList ∧
    ∃ text, (suiteEditor.insertImport (.object [("select",
        .list [.text "r.robot", .text "/ws/suites/r.robot"]), ("point", .int 12)])).exec
        besideSession =
          (.ok (), { besideSession with events := [.insert (.int 12) (.text text)] }) ∧
      Import.filePath besideSession.store text "/ws/suite/a.robot" = "/ws/suites/r.robot" ∧
      ((World.resourceImport ⟨besideSession.store, {}⟩ "/ws/suite/a.robot"
        ⟨.text "Resource", .text text, .null, .null⟩).exec {}).1 = .ok "/ws/suites/r.robot" := by
  have htab : Path.IsRooted "/ws/suite/a.robot".toList := ⟨by decide, by decide, by decide⟩
  have hfile : Path.IsRooted "/ws/suites/r.robot".toList := ⟨by decide, by decide, by decide⟩
  obtain ⟨text, hrun, hopened, hscanned⟩ := insertImport_resolves (e := suiteEditor)
    (s := besideSession) htab hfile rfl (by decide) (by decide) (by decide) (.text "r.robot")
    (.int 12)
  exact ⟨htab, hfile, by decide, by decide, text, hrun, hopened _, hscanned _ _ _ rfl⟩

end Editor

end KeywordCatalog
