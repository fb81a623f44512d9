import KeywordCatalog.Editor.Keyword
import KeywordCatalog.Proofs.Cell.Split

/-!
# The keyword under the cursor

There is a cell under the cursor if a character that is not blank stands beside the cursor, or one
space away from it (`Cell.touches`). A cell is all that is needed for a keyword, known or not, if the
index can be read (`Cell.exists_keywordAt`). Without a cell, asking for the keyword fails, and so does
the jump to it (`Cell.keywordAt_ok_iff`): the message that there is no keyword is not shown.
-/

namespace KeywordCatalog

open Text Keyword Pattern

namespace Cell

variable {text line cell : List Char} {column : Int}

/-! ### Whether there is a cell -/

/-- Whether a text starts with a character that is not blank, or with a space and such a character. -/
def touches : List Char → Bool
  | [] => false
  | c :: rest => !isBlank c || c == ' ' && rest.head?.any (!isBlank ·)

theorem before?_eq_none : before? text = none ↔ touches (dropFinalBreak text).reverse = false := by
  rw [before?]
  cases (dropFinalBreak text).reverse with
  | nil => simp [touches]
  | cons c rest =>
    simp only [touches]
    split_ifs <;> simp_all

theorem after?_eq_none : after? text = none ↔ touches text = false := by
  cases text with
  | nil => simp [after?, touches]
  | cons c rest =>
    simp only [after?, touches]
    split_ifs <;> simp_all

/-- There is no cell if the texts on both sides of the cursor do not touch it. -/
theorem chars?_eq_none : chars? line column = none ↔
    touches (dropFinalBreak (upTo column line)).reverse = false ∧
      touches (startingAt column line) = false := by
  rw [chars?, ← before?_eq_none, ← after?_eq_none]
  cases before? (upTo column line) <;> cases after? (startingAt column line) <;> simp

/-! ### The characters of a cell -/

theorem isBlank_break : isBlank '\n' = true := by decide

theorem break_notMem_backwards (text : List Char) : '\n' ∉ backwards text := by
  induction text with
  | nil => simp [backwards]
  | cons d text ih => grind [backwards, isBlank_break]

theorem break_notMem_forwards (n : Nat) (text : List Char) : '\n' ∉ forwards n text := by
  induction text generalizing n with
  | nil => simp [forwards]
  | cons d text ih => grind [forwards, isBlank_break]

theorem break_notMem_chars? (h : chars? line column = some cell) : '\n' ∉ cell := by
  have hleft : ∀ left, before? (upTo column line) = some left → '\n' ∉ left := by
    intro left hleft
    rw [before?] at hleft
    grind [break_notMem_backwards]
  have hright : ∀ right, after? (startingAt column line) = some right → '\n' ∉ right := by
    intro right hright
    rw [after?.eq_def] at hright
    grind [break_notMem_forwards]
  rw [chars?] at h
  split at h <;> simp only [Option.some.injEq, reduceCtorEq] at h <;> subst h
  · rename_i left right hbefore hafter
    refine List.not_mem_append (hleft left hbefore) fun hmem => hright right hafter ?_
    exact List.mem_reverse.1 ((List.dropWhile_suffix _).subset (List.mem_reverse.1 hmem))
  · exact hright _ ‹_›
  · exact hleft _ ‹_›

/-- Whether the names of a record have no signs of a pattern besides dots. -/
structure NamedRecord.IsSpelled (r : NamedRecord) : Prop where
  keyword : ∀ c ∈ r.keyword.toList, isSpellable c = true
  object : ∀ c ∈ r.object.toList, isSpellable c = true
  byname : ∀ name ∈ r.byname, ∀ c ∈ name.toList, isSpellable c = true

theorem NamedRecord.IsSpelled.isUsable {r : NamedRecord} (h : r.IsSpelled) : r.IsUsable where
  object := h.object
  byname := h.byname
  keyword text := by
    have hdollar : r.keyword.toList.contains '$' = false := by
      simpa using fun hmem => absurd (h.keyword _ hmem) (by decide)
    exact ⟨_, by rw [isNamed, hdollar]; rfl⟩

/-- Where there is a cell, there is a keyword, which may be empty. -/
theorem exists_keywordAt {s : Store} {index line cell : String} {column : Int}
    {records : List NamedRecord}
    (hindex : s.indexedKeywords index = .ok (records.map fun r => r.toRecord.document))
    (hrecords : ∀ r ∈ records, r.IsSpelled) (hcell : at? line column = some cell) :
    ∃ found, keywordAt s index line column = .ok found := by
  obtain ⟨chars, hchars, rfl⟩ := Option.map_eq_some_iff.1 hcell
  have hbreak : '\n' ∉ (String.ofList chars).toList := by
    rw [String.toList_ofList]
    exact break_notMem_chars? hchars
  obtain ⟨found, hsplit, -⟩ :=
    exists_split_eq hindex (fun r hr => (hrecords r hr).isUsable) hbreak
  rw [keywordAt, hcell]
  dsimp only
  split
  · rw [hsplit]
    exact ⟨_, rfl⟩
  · exact ⟨_, rfl⟩

end Cell

namespace Editor

/-- Whether a jump gets as far as asking for the keyword under the cursor: all settings can be read, the
open file has an index, and the line is no import. -/
structure ReachesKeyword (e : Editor) (session : Session) (l : Lookup) (extension : Value)
    (index : String) : Prop where
  tables : e.settings.tables = .ok l.tables
  indexes : e.settings.indexes = .ok l.indexes
  separator : ∃ separator, e.view.separator = .ok separator
  extension : e.settings.get .extension = .ok extension
  file : e.view.file = some l.openFile
  index : e.index?.run session = (.ok (some index), session)
  line : Import.isImport e.view.line = false
  store : l.store = session.store

theorem ReachesKeyword.run_jump {e : Editor} {session : Session} {l : Lookup} {extension : Value}
    {index : String} (h : e.ReachesKeyword session l extension index) :
    e.jump.run session = (e.openKeyword l extension index).run session := by
  obtain ⟨separator, hseparator⟩ := h.separator
  have hfile : e.openFile = .ok l.openFile := by rw [openFile, h.file]
  have hindex : (e.index?.run.run session).run = (.ok (some index), session) := h.index
  obtain ⟨store, tables, indexes, file⟩ := l
  obtain rfl := h.store
  rw [jump, h.tables, h.indexes, hseparator, h.extension, hfile]
  refine (Outcome.run_bind e.index? _ session).trans ?_
  rw [hindex, h.line]
  exact Outcome.run_bind get _ session

theorem run_index? {e : Editor} {session : Session} {file table indexes : String}
    (hfile : e.view.file = some file)
    (htable : TableName.ofPath (Path.tidy session.store.cwd file) = .ok table)
    (hindexes : e.settings.indexes = .ok indexes)
    (hhas : session.store.has (Path.join indexes (TableName.index table)) = true) :
    e.index?.run session = (.ok (some (Path.join indexes (TableName.index table))), session) := by
  have hopen : e.openFile = .ok file := by rw [openFile, hfile]
  have hget : ((get : Editing Session).run.run session).run = (.ok session, session) := rfl
  rw [index?, hopen, hindexes]
  refine (Outcome.run_bind (liftM (Except.ok file)) _ session).trans ?_
  refine (Outcome.run_bind get _ session).trans ?_
  rw [hget]
  dsimp only
  rw [htable]
  exact congrArg (fun found => (Except.ok found, session)) (if_pos hhas)

theorem run_openKeyword_error {e : Editor} {session : Session} {index : String} {fault : Fault}
    (h : Cell.keywordAt session.store index e.line e.view.column = .error fault) (l : Lookup)
    (extension : Value) : (e.openKeyword l extension index).run session = (.error fault, session) := by
  have hkeyword : ((e.keyword index).run.run session).run = (.error fault, session) := by
    change ((liftM (Cell.keywordAt session.store index e.line e.view.column) : Editing _).run
      session) = _
    rw [h]
    rfl
  refine (Outcome.run_bind (e.keyword index) _ session).trans ?_
  rw [hkeyword]

end Editor

namespace Cell

/-- **By an index that can be read there is a keyword under the cursor exactly if a cell touches the
cursor.** Without a cell, asking for the keyword fails, and a jump that gets so far ends with the same
fault and asks nothing of the editor. -/
theorem keywordAt_ok_iff {s : Store} {index : String} {records : List NamedRecord}
    (hindex : s.indexedKeywords index = .ok (records.map fun r => r.toRecord.document))
    (hrecords : ∀ r ∈ records, r.IsSpelled) (line : String) (column : Int) :
    ((∃ found, keywordAt s index line column = .ok found) ↔ at? line column ≠ none) ∧
    (at? line column = none ↔ touches (dropFinalBreak (upTo column line.toList)).reverse = false ∧
      touches (startingAt column line.toList) = false) ∧
    (at? line column = none → keywordAt s index line column = .error .wrongKind ∧
      ∀ (e : Editor) (session : Session) (l : Lookup) (extension : Value),
        e.ReachesKeyword session l extension index → session.store = s → e.line = line →
          e.view.column = column → e.jump.run session = (.error .wrongKind, session)) := by
  have hfault (hnone : at? line column = none) :
      keywordAt s index line column = .error .wrongKind := by
    rw [keywordAt, hnone]
    rfl
  refine ⟨⟨?_, fun hcell => ?_⟩, ?_, fun hnone => ⟨hfault hnone, ?_⟩⟩
  · rintro ⟨found, hfound⟩ hnone
    cases (hfault hnone).symm.trans hfound
  · obtain ⟨cell, hcell⟩ := Option.ne_none_iff_exists'.1 hcell
    exact exists_keywordAt hindex hrecords hcell
  · rw [at?, Option.map_eq_none_iff, chars?_eq_none]
  · rintro e session l extension hreaches rfl rfl rfl
    rw [hreaches.run_jump, Editor.run_openKeyword_error (hfault hnone)]

/-- The editor with the cursor in a line of a file. -/
def indentEditor (cursor : Nat) : Editor where
  settings := { package := ⟨"/p"⟩ }
  view := { file := some "/r", text := "    Lib.Foo", cursor }

/-- The table of that file. -/
def indentTable : String := "r-84a91929c5ae7f4e7a4c33c1b98454f2.json"

/-- A session in which the file has an index. -/
def indentSession : Session where
  store :=
    { cwd := "/"
      entries := [(["p"], .folder), (["p", "database"], .folder),
        (["p", "database", "index"], .folder),
        (["p", "database", "index", TableName.index indentTable], .file libraryIndex.render)] }

/-- Two columns of one line: no cell touches the first, from which a jump fails, and the second is in a
cell. -/
theorem keywordAt_ok_iff_indent :
    (indentEditor 2).jump.run indentSession = (.error .wrongKind, indentSession) ∧
      ∃ found, keywordAt indentSession.store
        (Path.join "/p/database/index" (TableName.index indentTable)) "    Lib.Foo" 5 = .ok found := by
  have hspelled : ∀ r ∈ [libraryRecord], r.IsSpelled := by
    refine List.forall_mem_singleton.2 ⟨List.all_eq_true.1 (by decide),
      List.all_eq_true.1 (by decide), ?_⟩
    rintro _ ⟨⟩
    exact List.all_eq_true.1 (by decide)
  have htable : TableName.ofPath (Path.tidy "/" "/r") = .ok indentTable := by decide +kernel
  have hraw : indentSession.store.readRaw
      (Path.join "/p/database/index" (TableName.index indentTable)) = .ok libraryIndex.render :=
    Store.readRaw_eq_ok.2
      ⟨["p", "database", "index", TableName.index indentTable], rfl, rfl⟩
  have hreaches : (indentEditor 2).ReachesKeyword indentSession
      ⟨indentSession.store, "/p/database/scanner", "/p/database/index", "/r"⟩ .null
      (Path.join "/p/database/index" (TableName.index indentTable)) :=
    ⟨rfl, rfl, ⟨_, rfl⟩, rfl, rfl, Editor.run_index? rfl htable rfl (by decide), by decide, rfl⟩
  have hcolumn := keywordAt_ok_iff (indexedKeywords_libraryIndex hraw) hspelled "    Lib.Foo"
  exact ⟨((hcolumn 2).2.2 (by decide)).2 _ _ _ _ hreaches rfl rfl rfl, (hcolumn 5).1.2 (by decide)⟩

end Cell

end KeywordCatalog
