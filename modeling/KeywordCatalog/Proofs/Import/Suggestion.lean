import KeywordCatalog.Editor.Database
import KeywordCatalog.Proofs.Document.Indented
import KeywordCatalog.Proofs.Import.Resolution
import KeywordCatalog.Proofs.Store.Outside
import KeywordCatalog.Proofs.Table.Faithful

/-!
# Suggested imports

A table does not say what it is the table of; an import is suggested by the presence and absence of
fields. For every table that was built, these fields say what it was built as, also after variables
were put into it (`Table.IsTextOf`). So the three kinds of suggestions divide the tables of a
database: each table is suggested once, in the order of the database, for imports of its own kind,
except that a library is not if its name has the one that every suite uses in it
(`suggestions_eq`).
-/

namespace KeywordCatalog

open Document

/-! ### Documents that differ in their variables -/

/-- Objects with the same fields apart from their variables. -/
inductive SameApart : Value → Value → Prop
  | object {fields others : List (String × Value)} :
    (∀ key, key ≠ "variables" → fields.lookup key = others.lookup key) →
      SameApart (.object fields) (.object others)

theorem any_key_eq_isSome_lookup (key : String) (fields : List (String × Value)) :
    (fields.any fun f => f.1 == key) = (fields.lookup key).isSome := by
  induction fields with
  | nil => rfl
  | cons f fields ih =>
    rw [List.any_cons, List.lookup_cons, ih, BEq.comm]
    cases key == f.1 <;> rfl

namespace SameApart

variable {v w : Value} {key : String}

theorem has_eq (h : SameApart v w) (hkey : key ≠ "variables") : v.has key = w.has key := by
  cases h with
  | object hlookup =>
    simp only [Value.has, any_key_eq_isSome_lookup, hlookup key hkey]

theorem field_eq (h : SameApart v w) (hkey : key ≠ "variables") : v.field key = w.field key := by
  cases h with
  | object hlookup => simp only [Value.field, hlookup key hkey]

theorem withVariables {varNames changed : Value} (h : SameApart v w)
    (hchanged : Editing.withVariables v varNames = .ok changed) : SameApart changed w := by
  cases h with
  | object hlookup =>
    cases hchanged
    refine .object fun key hkey => ?_
    rw [Ordered.lookup_put_of_ne hkey, hlookup key hkey]

/-- Suggestions do not depend on variables. -/
theorem suggest_eq (h : SameApart v w) (kind : Import.Kind) :
    Import.suggest kind v = Import.suggest kind w := by
  have hpath := h.has_eq (show "file_path" ≠ "variables" by decide)
  have hpath' := h.field_eq (show "file_path" ≠ "variables" by decide)
  have hlibrary := h.has_eq (show "library_module" ≠ "variables" by decide)
  have hlibrary' := h.field_eq (show "library_module" ≠ "variables" by decide)
  have hname := h.field_eq (show "file_name" ≠ "variables" by decide)
  have hkeywords := h.has_eq (show "keywords" ≠ "variables" by decide)
  have hfiles := h.has_eq (show "variable_files" ≠ "variables" by decide)
  simp only [Import.suggest, Import.suggestLibrary, Import.suggestFile, hpath, hpath', hlibrary,
    hlibrary', hname, hkeywords, hfiles]

end SameApart

/-! ### What tables suggest -/

namespace Table

variable {t : Table}

/-- The kind of import that a table is suggested for, by what it was built as. -/
def kind : Table → Import.Kind
  | .robot _ => .resource
  | .variableFile _ => .variableFile
  | .library _ => .library

/-- Whether a table is suggested at all. -/
def isOffered : Table → Bool
  | .library t => !Text.contains "BuiltIn".toList t.moduleName.toList
  | .robot _ | .variableFile _ => true

/-- The name and the path that a table is suggested with; a library that is no file has its name for
a path. -/
def offer : Table → String × String
  | .robot t => (t.fileName, t.filePath)
  | .variableFile t => (t.fileName, t.filePath)
  | .library t => (t.moduleName, t.filePath.getD t.moduleName)

/-- The document of a suggestion. -/
def suggestion (t : Table) : Value := Value.texts [t.offer.1, t.offer.2]

theorem sameApart_document (t : Table) : SameApart t.document t.document := by
  cases t <;> exact .object fun _ _ => rfl

theorem document_library (t : LibraryTable) :
    t.document.has "library_module" = .ok true ∧ t.document.has "variable_files" = .ok false ∧
      t.document.has "keywords" = .ok true ∧
      t.document.field "library_module" = .ok (.text t.moduleName) ∧
      Import.suggestLibrary t.document = .ok (library t).suggestion := by
  obtain ⟨moduleName, arguments, filePath, fileName, keywords⟩ := t
  cases filePath <;> cases fileName <;> exact ⟨rfl, rfl, rfl, rfl, rfl⟩

theorem suggest_library (t : LibraryTable) (kind : Import.Kind) :
    Import.suggest kind t.document = .ok (if kind = .library ∧ (library t).isOffered
      then [(library t).suggestion] else []) := by
  obtain ⟨hlibrary, hfiles, hkeywords, hname, hsuggest⟩ := document_library t
  have hbuiltin : (Value.text t.moduleName).has "BuiltIn" = .ok !(library t).isOffered := by
    simp [Value.has, isOffered]
  cases kind with
  | resource =>
    simp only [Import.suggest, hfiles, Outcome.ok_bind]
    rfl
  | variableFile =>
    simp only [Import.suggest, hkeywords, Outcome.ok_bind]
    rfl
  | library =>
    simp only [Import.suggest, hlibrary, hname, hbuiltin, hsuggest, Outcome.ok_bind, if_true]
    cases (library t).isOffered <;> rfl

/-- The fields of a table say what it was built as. -/
theorem suggest_document (t : Table) (kind : Import.Kind) :
    Import.suggest kind t.document =
      .ok (if kind = t.kind ∧ t.isOffered then [t.suggestion] else []) := by
  cases t with
  | robot t => cases kind <;> rfl
  | variableFile t => cases kind <;> rfl
  | library t => exact suggest_library t kind

/-! ### Tables of a database -/

/-- A table that was built from answers of the framework that can be written. -/
def IsBuilt (t : Table) : Prop :=
  ∃ w key work, World.buildTable w key work = .ok t ∧ w.framework.Faithful ∧
    work.arguments.Faithful

/-- The texts of a table: the one that it is written as, and those that putting variables into a
table with one of its texts leaves. -/
inductive IsTextOf (t : Table) : String → Prop
  | written : t.document.levels ≤ levelLimit → IsTextOf t t.document.render
  | extended {s : Store} {path text : String} {table varNames changed : Value} :
    IsTextOf t text → s.readRaw path = .ok text → s.readDocument path = .ok table →
      varNames.Faithful → varNames.levels < levelLimit →
      Editing.withVariables table varNames = .ok changed → IsTextOf t changed.renderIndented

end Table

theorem fieldLevels_put (key : String) (v : Value) (fields : List (String × Value)) :
    Value.fieldLevels (Ordered.put key v fields) ≤ max (Value.fieldLevels fields) v.levels := by
  induction fields with
  | nil => simp [Value.fieldLevels]
  | cons f fields ih =>
    rw [Ordered.put]
    split
    · simp only [Value.fieldLevels]
      omega
    · simp only [Value.fieldLevels]
      omega

/-- A document that can stand for a table. -/
structure StandsFor (v : Value) (t : Table) : Prop where
  same : SameApart v t.document
  faithful : v.Faithful
  levels : v.levels ≤ levelLimit

/-- Variables do not change what a document stands for. -/
theorem StandsFor.withVariables {t : Table} {v varNames changed : Value} (h : StandsFor v t)
    (hnames : varNames.Faithful) (hlevels : varNames.levels < levelLimit)
    (hchanged : Editing.withVariables v varNames = .ok changed) : StandsFor changed t := by
  obtain ⟨hsame, hfaithful, hbefore⟩ := h
  refine ⟨hsame.withVariables hchanged, ?_, ?_⟩
  · cases hfaithful with
    | object hkeys hfields =>
      cases hchanged
      have hput := FaithfulFields.put ⟨hkeys, hfields⟩ "variables" hnames
      exact .object hput.nodup hput.faithful
    | _ => cases hchanged
  · cases v with
    | object fields =>
      cases hchanged
      have hput := fieldLevels_put "variables" varNames fields
      simp only [Value.levels] at hbefore ⊢
      omega
    | _ => cases hchanged

namespace Store

variable {s : Store} {path : String} {v : Value}

theorem readDocument_of_readIndented (hv : v.Faithful) (hlevels : v.levels ≤ levelLimit)
    (h : s.readRaw path = .ok v.renderIndented) : s.readDocument path = .ok v := by
  have hread : s.read path = .ok v.renderIndented := by
    rw [read, h, Except.map, Value.renderIndented, String.toList_ofList,
      unifyBreaks_of_notMem (return_notMem_writeIndented hv 0)]
  rw [readDocument, hread]
  exact Value.parse_renderIndented hv hlevels

end Store

/-- Every text of a table is read as a document that stands for the table. -/
theorem Table.IsTextOf.readDocument {t : Table} {text : String} (h : t.IsTextOf text)
    (ht : t.document.Faithful) {s : Store} {path : String} (hraw : s.readRaw path = .ok text) :
    ∃ v, s.readDocument path = .ok v ∧ StandsFor v t := by
  induction h generalizing s path with
  | written hlevels =>
    exact ⟨_, Store.readDocument_of_readRaw ht hlevels hraw, t.sameApart_document, ht, hlevels⟩
  | extended _ hbefore hread hnames hlevels hchanged ih =>
    obtain ⟨v, hv, hstands⟩ := ih hbefore
    -- the variables were put into the document that the text before them is read as
    obtain rfl := Except.ok.inj (hread.symm.trans hv)
    have hafter := hstands.withVariables hnames hlevels hchanged
    exact ⟨_, Store.readDocument_of_readIndented hafter.faithful hafter.levels hraw, hafter⟩

/-- A table that was built, at a path where one of its texts is stored. -/
structure Store.HoldsTable (s : Store) (path : String) (t : Table) : Prop where
  built : t.IsBuilt
  text : ∃ text, s.readRaw path = .ok text ∧ t.IsTextOf text

theorem Store.HoldsTable.readDocument {s : Store} {path : String} {t : Table}
    (h : s.HoldsTable path t) : ∃ v, s.readDocument path = .ok v ∧ StandsFor v t := by
  obtain ⟨w, key, work, hbuild, hw, harguments⟩ := h.built
  obtain ⟨text, hraw, htext⟩ := h.text
  exact htext.readDocument (World.faithful_of_buildTable hw harguments hbuild) hraw

/-! ### How tables come to be there -/

/-- A table that was built is there after it was written. -/
theorem Store.holdsTable_of_writeDocument {s s' : Store} {path : String} {t : Table}
    (hplain : Path.IsPlain (Path.name path).toList) (ht : t.IsBuilt)
    (h : s.writeDocument path t.document = .ok s') : s'.HoldsTable path t := by
  obtain ⟨hwrite, hlevels⟩ := Store.writeDocument_eq_ok.1 h
  exact ⟨ht, _, Store.readRaw_write hplain hwrite, .written hlevels⟩

namespace Editing

variable {s s' : Session}

theorem exec_lift_bind_eq_ok {α β : Type} {x : Except Fault α} {after : α → Editing β} {b : β} :
    ((liftM x : Editing α) >>= after).exec s = (.ok b, s') ↔
      ∃ a, x = .ok a ∧ (after a).exec s = (.ok b, s') := by
  rw [exec_bind, exec_lift]
  cases x <;> simp

/-- Work on the store leaves the requests as they are. -/
theorem exec_onStore {α : Type} (work : Store.Storing α) :
    (onStore work).exec s = ((work.run s.store).1, { s with store := (work.run s.store).2 }) := by
  unfold onStore
  rw [exec_bind, exec_get]
  change (set _ >>= fun _ => liftM (work.run s.store).1 : Editing α).exec s = _
  rw [exec_bind]
  exact exec_lift _

theorem exec_onStore_update_eq_ok {f : Store → Except Fault Store}
    (h : (onStore (Store.update f)).exec s = (.ok (), s')) : f s.store = .ok s'.store := by
  have hrun : (Store.update f).run s.store =
      ((liftM (f s.store) : Store.Storing Store) >>= fun store => set store).run s.store := rfl
  rw [exec_onStore, hrun] at h
  cases hf : f s.store with
  | error fault =>
    rw [hf] at h
    cases h
  | ok store =>
    rw [hf] at h
    cases h
    rfl

end Editing

/-- The name of the table that variables are put into. -/
def builtinTable : String := "BuiltIn-ca8f2e8d70641ce17b9b304086c19657.json"

theorem ofLibrary_builtin : TableName.ofLibrary "BuiltIn" = .ok builtinTable := by decide +kernel

theorem isPlain_builtinTable : Path.IsPlain builtinTable.toList := by
  refine ⟨?_, ?_, ?_, ?_⟩ <;> decide

/-- A table is still there after the variables that are always there were put into it. -/
theorem Editor.holdsTable_addBuiltinVariables {e : Editor} {tables : String} {s s' : Session}
    {t : Table} {varNames : Value} (ht : s.store.HoldsTable (Path.join tables builtinTable) t)
    (hget : e.settings.get .builtinVariables = .ok varNames) (hnames : varNames.Faithful)
    (hlevels : varNames.levels < levelLimit)
    (h : (e.addBuiltinVariables tables).exec s = (.ok (), s')) :
    s'.store.HoldsTable (Path.join tables builtinTable) t := by
  obtain ⟨hbuilt, text, hraw, htext⟩ := ht
  unfold Editor.addBuiltinVariables at h
  rw [ofLibrary_builtin, hget] at h
  obtain ⟨_, ⟨⟩, h⟩ := Editing.exec_lift_bind_eq_ok.1 h
  rw [Editing.exec_bind, Editing.exec_get] at h
  obtain ⟨table, hread, h⟩ := Editing.exec_lift_bind_eq_ok.1 h
  obtain ⟨_, ⟨⟩, h⟩ := Editing.exec_lift_bind_eq_ok.1 h
  obtain ⟨changed, hchanged, h⟩ := Editing.exec_lift_bind_eq_ok.1 h
  have hwrite := Editing.exec_onStore_update_eq_ok h
  have hplain := Store.isPlain_name_join isPlain_builtinTable tables
  exact ⟨hbuilt, _, Store.readRaw_write hplain hwrite,
    .extended htext hraw hread hnames hlevels hchanged⟩

namespace Import

variable {s : Store} {database : String} {names : List String} {tables : List Table}

theorem suggest_readDocument {path : String} {t : Table} (h : s.HoldsTable path t) (kind : Kind) :
    (do suggest kind (← s.readDocument path)) =
      .ok (if kind = t.kind ∧ t.isOffered then [t.suggestion] else []) := by
  obtain ⟨v, hv, hstands⟩ := h.readDocument
  rw [hv, Outcome.ok_bind, hstands.same.suggest_eq, t.suggest_document]

theorem flatten_suggested (kind : Kind) (tables : List Table) :
    (tables.map fun t => if kind = t.kind ∧ t.isOffered then [t.suggestion] else []).flatten =
      (tables.filter fun t => kind = t.kind ∧ t.isOffered).map Table.suggestion := by
  induction tables with
  | nil => rfl
  | cons t tables ih =>
    rw [List.map_cons, List.flatten_cons, ih, List.filter_cons]
    by_cases h : kind = t.kind ∧ t.isOffered = true <;> simp [h]

/-- **Suggestions divide the tables of a database by what they were built as.** -/
theorem suggestions_eq (hnames : s.names database = .ok names)
    (htables : List.Forall₂ (fun name t => s.HoldsTable (Path.join database name) t) names tables)
    (kind : Kind) :
    suggestions s database kind =
      .ok ((tables.filter fun t => kind = t.kind ∧ t.isOffered).map Table.suggestion) := by
  have hfound := Outcome.mapM_eq_ok.2 (List.forall₂_map_right_iff.2
    (htables.imp fun name t h => suggest_readDocument h kind))
  rw [suggestions, hnames, Outcome.ok_bind, hfound, Outcome.ok_bind, flatten_suggested]
  rfl

/-! A resource, a variable file and two libraries, the table of one of them with variables. -/

def mixedFramework : Framework where
  resources := [("/ws/r.robot", {})]
  libraries := [("BuiltIn", []), ("Lib", [])]
  variableFiles := [("/ws/v.py", [.text "x"])]

/-- What is stored before there are tables. -/
def mixedWorld : World where
  store := { cwd := "/", entries := [(["ws"], .folder), (["ws", "r.robot"], .file "")] }
  framework := mixedFramework

def builtinLibrary : LibraryTable := ⟨"BuiltIn", [], none, none, []⟩

def plainLibrary : LibraryTable := ⟨"Lib", [], none, none, []⟩

def plainResource : RobotTable := ⟨"r.robot", "/ws/r.robot", [], [], [], [], []⟩

def plainVariables : VariableTable := ⟨"v.py", "/ws/v.py", [.text "x"]⟩

def mixedTables : List Table :=
  [.library builtinLibrary, .library plainLibrary, .robot plainResource,
    .variableFile plainVariables]

/-- The table of the library that every suite uses, with a variable. -/
def extendedBuiltin : Value :=
  .object [("arguments", .list []), ("library_module", .text "BuiltIn"), ("keywords", .object []),
    ("variables", .list [.text "y"])]

def mixedStore : Store where
  cwd := "/"
  entries := [(["db"], .folder), (["db", "b"], .file extendedBuiltin.renderIndented),
    (["db", "l"], .file plainLibrary.document.render),
    (["db", "r"], .file plainResource.document.render),
    (["db", "v"], .file plainVariables.document.render)]

theorem faithful_mixedFramework : mixedFramework.Faithful := by
  have hmodel : Model.Faithful {} := ⟨nofun, nofun, nofun⟩
  refine ⟨?_, ?_, ?_⟩
  · simpa [mixedFramework] using hmodel
  · simp [mixedFramework]
  · simpa [mixedFramework] using Value.Faithful.text "x"

theorem names_mixedStore : mixedStore.names "/db" = .ok ["b", "l", "r", "v"] :=
  Store.names_of_sorted rfl rfl rfl (by decide)

theorem isBuilt_mixed (key : Value) (kind : ItemKind) {t : Table}
    (h : mixedWorld.buildTable key ⟨.waiting, kind, .null⟩ = .ok t) : t.IsBuilt :=
  ⟨_, _, _, h, faithful_mixedFramework, .null⟩

theorem isTextOf_extendedBuiltin :
    (Table.library builtinLibrary).IsTextOf extendedBuiltin.renderIndented := by
  have hlevels : builtinLibrary.document.levels ≤ levelLimit := by decide
  have hnames : (Value.list [.text "y"]).Faithful := .list (List.forall_mem_singleton.2 (.text "y"))
  have hraw : (mixedStore.put ["db", "b"] (.file builtinLibrary.document.render)).readRaw "/db/b" =
      .ok builtinLibrary.document.render := Store.readRaw_eq_ok.2 ⟨["db", "b"], rfl, rfl⟩
  have hfaithful := World.faithful_of_buildTable faithful_mixedFramework .null
    (show mixedWorld.buildTable (.text "BuiltIn") ⟨.waiting, .library, .null⟩ =
      .ok (.library builtinLibrary) from rfl)
  exact .extended (.written hlevels) hraw (Store.readDocument_of_readRaw hfaithful hlevels hraw)
    hnames (by decide) rfl

theorem holdsTables_mixedStore : List.Forall₂
    (fun name t => mixedStore.HoldsTable (Path.join "/db" name) t) ["b", "l", "r", "v"]
    mixedTables := by
  have hread {name text : String} (h : mixedStore.entry? ["db", name] = some (.file text))
      (hlocate : mixedStore.locate (Path.join "/db" name) = .ok ["db", name]) :
      mixedStore.readRaw (Path.join "/db" name) = .ok text :=
    Store.readRaw_eq_ok.2 ⟨_, hlocate, h⟩
  refine .cons ⟨isBuilt_mixed (.text "BuiltIn") .library rfl, _, hread rfl rfl,
    isTextOf_extendedBuiltin⟩ ?_
  refine .cons ⟨isBuilt_mixed (.text "Lib") .library rfl, _, hread rfl rfl,
    .written (by decide)⟩ ?_
  refine .cons ⟨isBuilt_mixed (.text "/ws/r.robot") .resource rfl, _, hread rfl rfl,
    .written (by decide)⟩ ?_
  exact .cons ⟨isBuilt_mixed (.text "/ws/v.py") .variableFile rfl, _, hread rfl rfl,
    .written (by decide)⟩ .nil

theorem suggestions_mixedStore :
    suggestions mixedStore "/db" .library = .ok [Value.texts ["Lib", "Lib"]] ∧
      suggestions mixedStore "/db" .resource = .ok [Value.texts ["r.robot", "/ws/r.robot"]] ∧
      suggestions mixedStore "/db" .variableFile = .ok [Value.texts ["v.py", "/ws/v.py"]] :=
  ⟨suggestions_eq names_mixedStore holdsTables_mixedStore .library,
    suggestions_eq names_mixedStore holdsTables_mixedStore .resource,
    suggestions_eq names_mixedStore holdsTables_mixedStore .variableFile⟩

end Import

end KeywordCatalog
