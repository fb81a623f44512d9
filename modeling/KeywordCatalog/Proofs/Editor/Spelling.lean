import KeywordCatalog.Editor.Keyword
import KeywordCatalog.Proofs.Import.Suggestion
import KeywordCatalog.Proofs.Table.ImportName

/-!
# One name for all spellings of a file

Two paths spell one file if they end in one name and their folders are one folder, and exactly then
they have one tidy spelling (`Path.tidy_eq_iff`). The scanner, the index and the commands of the editor
all take the name of a table from the tidy spelling, so they agree on it for every spelling of the file
(`World.namesTable_of_sameFile`). The one way around is a resource that is imported by an absolute path
that is not tidy.
-/

namespace KeywordCatalog

namespace Path

/-- Whether two paths spell one file in a working folder. -/
structure SameFile (cwd p q : String) : Prop where
  name : name q = name p
  folder : absolute cwd (parent q) = absolute cwd (parent p)

theorem tidy_eq_iff {cwd p q : String} (hcwd : isAbsolute cwd = true) :
    tidy cwd q = tidy cwd p ↔ SameFile cwd p q := by
  have hparent (p : String) : parent (tidy cwd p) = absolute cwd (parent p) := by
    simp only [tidy, parent, absolute, String.toList_ofList]
    exact congrArg String.ofList
      (parentChars_joinChars (isNormal_absoluteChars hcwd) (not_mem_nameChars _))
  constructor
  · intro h
    exact ⟨by rw [← name_tidy cwd q, h, name_tidy], by rw [← hparent q, h, hparent]⟩
  · rintro ⟨hname, hfolder⟩
    have hjoin (p : String) : tidy cwd p = join (absolute cwd (parent p)) (name p) := by
      simp only [tidy, tidyChars, join, absolute, parent, name, String.toList_ofList]
    rw [hjoin, hjoin, hname, hfolder]

end Path

namespace Editor

open Editing

variable {e : Editor} {s : Session} {file : String}

/-- The index of a table, if it is there. -/
def indexOf? (e : Editor) (store : Store) (table : String) : Except Fault (Option String) := do
  let path := Path.join (← e.settings.indexes) (TableName.index table)
  return if store.has path then some path else none

theorem exec_index? (hfile : e.view.file = some file) : e.index?.exec s =
    (do e.indexOf? s.store (← TableName.ofPath (Path.tidy s.store.cwd file)), s) := by
  have hopen : e.openFile = .ok file := by rw [openFile, hfile]
  rw [index?, hopen, exec_bind, exec_lift]
  dsimp only
  rw [exec_bind, exec_get]
  dsimp only
  rw [exec_bind, exec_lift]
  cases TableName.ofPath (Path.tidy s.store.cwd file) with
  | error fault => rfl
  | ok table =>
    dsimp only
    rw [exec_bind, exec_lift, Outcome.ok_bind, indexOf?]
    cases e.settings.indexes <;> rfl

/-- Makes the index of a table whose name may be a fault. -/
def indexTable (e : Editor) (name : Except Fault String) : Editing Unit := do
  let log ← e.settings.log
  makeLogFolder log
  let table ← name
  e.addBuiltinVariables (← e.settings.tables)
  openLog log
  e.launch (← e.settings.indexOne table)
  e.showIndexFailure
  e.endIndex

/-- The folder of the log can be made before the open file is looked at. -/
theorem exec_indexOpenFile (hfile : e.view.file = some file) (hne : file ≠ "") :
    e.indexOpenFile.exec s =
      (e.indexTable (TableName.ofPath (Path.tidy s.store.cwd file))).exec s := by
  rw [indexOpenFile, indexTable, exec_bind, exec_bind, exec_lift]
  cases e.settings.log with
  | error fault => rfl
  | ok log =>
    dsimp only
    rw [exec_bind, exec_bind, makeLogFolder, exec_onStore]
    have hcwd := (Store.founds_makeFolder (Path.parent log) true s.store).cwd
    generalize (Store.makeFolder (Path.parent log) true).run s.store = ended at hcwd ⊢
    obtain ⟨fault | _, store⟩ := ended
    · rfl
    · dsimp only at hcwd ⊢
      rw [← hcwd]
      split
      · rename_i hnone
        rw [hfile] at hnone
        cases hnone
      · rename_i hempty
        rw [hfile] at hempty
        exact absurd (Option.some.inj hempty) hne
      · rename_i hsome
        obtain rfl : file = _ := Option.some.inj (hfile.symm.trans hsome)
        rw [exec_bind, exec_get]

end Editor

namespace World

variable {w : World} {p q : String}

/-- Whether the scanner, the index and the editor know a file with a given spelling by one name. -/
structure NamesTable (w : World) (q : String) (name : Except Fault String) : Prop where
  /-- The table of a suite, resource or variable file is stored under the name. -/
  stored : ∀ work t, w.buildTable (.text q) work = .ok t → (∀ l, t ≠ .library l) → t.fileName = name
  /-- An import of the file as a resource is indexed under the name. -/
  resource : ∀ tab i n b, Path.join (Path.parent tab) n = q → i.name = .text n →
    (Path.isAbsolute n = true → w.tidy n = n) →
    ∃ found, ((w.resourceImport tab i).exec b).1 = .ok found ∧
      Indexing.resourceImport (.text found) = name
  /-- An import of the file as a variable file is indexed under the name. -/
  variableFile : ∀ tab i n, Path.join (Path.parent tab) n = q → i.name = .text n →
    ∃ found, w.variableImport tab i = .ok found ∧ Indexing.variableImport found.document = name
  /-- The name leads to the index of the open file, -/
  lookup : ∀ l : Lookup, l.store.cwd = w.store.cwd → l.openFile = q →
    l.indexPath = do return Path.join l.indexes (TableName.index (← name))
  /-- which the commands at the cursor use, -/
  index : ∀ (e : Editor) (s : Session), s.store.cwd = w.store.cwd → e.view.file = some q →
    e.index?.exec s = (do e.indexOf? s.store (← name), s)
  /-- and it is made for the table with the name. -/
  indexed : ∀ (e : Editor) (s : Session), s.store.cwd = w.store.cwd → e.view.file = some q →
    q ≠ "" → e.indexOpenFile.exec s = (e.indexTable name).exec s

theorem namesTable_tidy (hcwd : Path.isAbsolute w.store.cwd = true) (q : String) :
    w.NamesTable q (TableName.ofPath (w.tidy q)) where
  stored work t h hfile := ((fileName_of_buildTable h).resolve_left fun ⟨l, hl⟩ => hfile l hl).2
  resource tab i n b hq hname htidy := by
    have htext (path : String) : Indexing.resourceImport (.text path) = TableName.ofPath path := rfl
    have hpath : w.resourcePath tab n = w.tidy q := by
      rw [← hq, ← Import.tidy_resourcePath hcwd, resourcePath]
      split
      · rename_i habsolute
        exact (htidy habsolute).symm
      · exact (Path.tidy_tidy hcwd _ _).symm
    exact ⟨_, Import.exec_resourceImport hname tab b, by rw [htext, hpath]⟩
  variableFile tab i n hq hname := by
    have hdocument (v : VariableImport) :
        Indexing.variableImport v.document = TableName.ofPath v.path := rfl
    refine ⟨⟨w.tidy q, i.arguments⟩, ?_, hdocument _⟩
    rw [variableImport, hname, Value.textOnly_text, Outcome.ok_bind, hq]
    rfl
  lookup l hl hopen := by rw [Lookup.indexPath, hl, hopen, tidy]
  index e s hs hopen := by rw [e.exec_index? hopen, hs, tidy]
  indexed e s hs hopen hne := by rw [e.exec_indexOpenFile hopen hne, hs, tidy]

/-- **A file has one table name for all its spellings.** A tidy path is spelled as it is, what is looked
for in the folder of a file is found alike for its tidy spelling, and the scanner, the index and the
editor take the name of the table from the tidy spelling, whichever spelling they come upon. -/
theorem namesTable_of_sameFile (hcwd : Path.isAbsolute w.store.cwd = true) (p : String) :
    w.tidy (w.tidy p) = w.tidy p ∧
      (∀ n, w.tidy (Path.join (Path.parent (w.tidy p)) n) = w.tidy (Path.join (Path.parent p) n)) ∧
      ∀ q, (w.tidy q = w.tidy p ↔ Path.SameFile w.store.cwd p q) ∧
        (Path.SameFile w.store.cwd p q → w.NamesTable q (TableName.ofPath (w.tidy p))) := by
  refine ⟨Path.tidy_tidy hcwd _ p, fun n => Path.tidy_join hcwd p n, fun q =>
    ⟨Path.tidy_eq_iff hcwd, fun h => ?_⟩⟩
  have hsame : w.tidy q = w.tidy p := (Path.tidy_eq_iff hcwd).2 h
  rw [← hsame]
  exact namesTable_tidy hcwd q

/-- A resource that is spelled with detours from the working folder has the name of the table that is
built for it. -/
theorem namesTable_of_sameFile_detour :
    Path.isAbsolute Import.resourceWorld.store.cwd = true ∧
      Path.SameFile "/ws" ".././/lib/x/../r.ROBOT" "/lib/r.ROBOT" ∧
      ∃ t, Import.resourceWorld.buildTable (.text "/lib/r.ROBOT") ⟨.waiting, .resource, .null⟩ =
          .ok t ∧
        t.fileName = TableName.ofPath (Import.resourceWorld.tidy ".././/lib/x/../r.ROBOT") := by
  have hsame : Path.SameFile "/ws" ".././/lib/x/../r.ROBOT" "/lib/r.ROBOT" :=
    ⟨by decide, by decide⟩
  have hbuilt : ∃ t, Import.resourceWorld.buildTable (.text "/lib/r.ROBOT")
      ⟨.waiting, .resource, .null⟩ = .ok (.robot t) := ⟨_, rfl⟩
  obtain ⟨t, ht⟩ := hbuilt
  obtain ⟨-, -, hnames⟩ :=
    @namesTable_of_sameFile Import.resourceWorld rfl ".././/lib/x/../r.ROBOT"
  exact ⟨rfl, hsame, _, ht, ((hnames _).2 hsame).stored _ _ ht nofun⟩

end World

end KeywordCatalog
