import KeywordCatalog.Proofs.Outcome
import KeywordCatalog.Scan

/-!
# What a built table holds

The table of a suite or resource holds the name and the spelling of its path, the keywords of the
model by their keys, and an import for every import setting of the model (`World.Imported`). The
model is what the framework reads the file as: a resource, or else a suite (`World.robotModel`).
-/

namespace KeywordCatalog

namespace Building

variable {α β : Type} {work : Building α} {after : α → Building β} {b b' : Builder} {a : α} {c : β}

/-- How work of a builder ends. -/
def exec (work : Building α) (b : Builder) : Except Fault α × Builder := (work.run.run b).run

@[simp] theorem exec_pure : exec (pure a) b = (.ok a, b) := rfl

@[simp] theorem exec_lift (x : Except Fault α) : exec (liftM x) b = (x, b) := by
  cases x <;> rfl

theorem exec_bind : exec (work >>= after) b =
    match exec work b with
    | (.ok a, b') => exec (after a) b'
    | (.error fault, b') => (.error fault, b') := by
  refine (Outcome.run_bind work after b).trans ?_
  unfold exec
  rcases (work.run.run b).run with ⟨_ | _, _⟩ <;> rfl

theorem exec_bind_eq_ok : (exec (work >>= after) b).1 = .ok c ↔
    ∃ a, (exec work b).1 = .ok a ∧ (exec (after a) (exec work b).2).1 = .ok c := by
  rw [exec_bind]
  rcases exec work b with ⟨_ | a, b'⟩ <;> simp

theorem exec_bind_eq_error {fault : Fault} : (exec (work >>= after) b).1 = .error fault ↔
    (exec work b).1 = .error fault ∨
      ∃ a, (exec work b).1 = .ok a ∧ (exec (after a) (exec work b).2).1 = .error fault := by
  rw [exec_bind]
  rcases exec work b with ⟨_ | a, b'⟩ <;> simp

theorem exec_tryCatch (rescue : Fault → Building α) : exec (tryCatch work rescue) b =
    match exec work b with
    | (.ok a, b') => (.ok a, b')
    | (.error fault, b') => exec (rescue fault) b' := by
  refine (Outcome.run_tryCatch work rescue b).trans ?_
  unfold exec
  rcases (work.run.run b).run with ⟨_ | _, _⟩ <;> rfl

/-- Work that never ends in a fault. -/
def Avoids (fault : Fault) (work : Building α) : Prop := ∀ b, (exec work b).1 ≠ .error fault

variable {fault : Fault}

theorem avoids_pure : Avoids fault (pure a : Building α) := fun _ => by simp

theorem avoids_lift {x : Except Fault α} (h : x ≠ .error fault) :
    Avoids fault (liftM x : Building α) := fun _ => by simpa using h

theorem avoids_notify (notice : String) : Avoids fault (notify notice) := nofun

theorem Avoids.bind (h : Avoids fault work) (hafter : ∀ a, Avoids fault (after a)) :
    Avoids fault (work >>= after) := by
  intro b
  have hb := h b
  rw [exec_bind]
  generalize exec work b = outcome at hb ⊢
  rcases outcome with ⟨_ | a, b'⟩
  · simpa using hb
  · exact hafter a b'

theorem Avoids.rescue {rescue : Fault → Building α} (h : Avoids fault work)
    (hrescue : ∀ other ≠ fault, Avoids fault (rescue other)) :
    Avoids fault (tryCatch work rescue) := by
  intro b
  have hb := h b
  rw [exec_tryCatch]
  generalize exec work b = outcome at hb ⊢
  rcases outcome with ⟨other | a, b'⟩
  · exact hrescue other (fun e => hb (by simp [e])) b'
  · exact nofun

theorem avoids_foldlM {f : β → α → Building β} (h : ∀ c a, Avoids fault (f c a)) (xs : List α)
    (c : β) : Avoids fault (xs.foldlM f c) := by
  induction xs generalizing c with
  | nil => exact avoids_pure
  | cons x xs ih =>
    rw [List.foldlM_cons]
    exact (h c x).bind ih

end Building

namespace World

variable {w : World} {path : String} {model : Model} {t t' : RobotTable} {b : Builder}

/-- A request that an import setting of the file at a path gives rise to. -/
inductive Imported (w : World) (path : String) (i : ImportInfo) : Request → Prop
  | library {l : LibraryImport} :
    i.kind = .text "Library" → w.libraryImport (Path.parent (w.tidy path)) i = .ok l →
      Imported w path i ⟨.text l.key, .library, l.arguments⟩
  | variableFile {v : VariableImport} :
    i.kind = .text "Variables" → w.variableImport path i = .ok v →
      Imported w path i ⟨.text v.path, .variableFile, v.arguments⟩
  | resource {name : String} :
    i.kind = .text "Resource" → i.name = .text name →
      Imported w path i ⟨.text (w.resourcePath path name), .resource, .null⟩

variable {i : ImportInfo} {r r' : Request}

/-- An import setting asks for one thing at most. -/
theorem Imported.unique (h : Imported w path i r) (h' : Imported w path i r') : r = r' := by
  cases h with
  | library hkind hl =>
    cases h' with
    | library _ hl' =>
      rw [hl] at hl'
      cases hl'
      rfl
    | variableFile hkind' => simp [hkind] at hkind'
    | resource hkind' => simp [hkind] at hkind'
  | variableFile hkind hv =>
    cases h' with
    | library hkind' => simp [hkind] at hkind'
    | variableFile _ hv' =>
      rw [hv] at hv'
      cases hv'
      rfl
    | resource hkind' => simp [hkind] at hkind'
  | resource hkind hname =>
    cases h' with
    | library hkind' => simp [hkind] at hkind'
    | variableFile hkind' => simp [hkind] at hkind'
    | resource _ hname' =>
      rw [hname] at hname'
      cases hname'
      rfl

theorem resourceImport_eq_ok {found : String}
    (h : ((w.resourceImport path i).exec b).1 = .ok found) :
    ∃ name, i.name = .text name ∧ found = w.resourcePath path name := by
  obtain ⟨name, hname, h⟩ := Building.exec_bind_eq_ok.1 h
  rw [Building.exec_lift] at hname
  refine ⟨name, Value.eq_text_of_textOnly hname, ?_⟩
  dsimp only at h
  split at h
  · obtain ⟨_, _, h⟩ := Building.exec_bind_eq_ok.1 h
    exact (Except.ok.inj h).symm
  · exact (Except.ok.inj h).symm

theorem variableImport_eq_ok {v : VariableImport} (h : w.variableImport path i = .ok v) :
    ∃ name, i.name = .text name ∧ v.path = w.tidy (Path.join (Path.parent path) name) := by
  obtain ⟨name, hname, h⟩ := Outcome.bind_eq_ok.1 h
  have hv : (⟨w.tidy (Path.join (Path.parent path) name), i.arguments⟩ : VariableImport) = v :=
    Except.ok.inj h
  exact ⟨name, Value.eq_text_of_textOnly hname, by rw [← hv]⟩

/-- What one import setting does to a table. -/
inductive Adds (w : World) (path : String) (i : ImportInfo) (t : RobotTable) : RobotTable → Prop
  | library {l : LibraryImport} :
    i.kind = .text "Library" → w.libraryImport (Path.parent (w.tidy path)) i = .ok l →
      Adds w path i t { t with libraries := t.libraries ++ [l] }
  | variableFile {v : VariableImport} :
    i.kind = .text "Variables" → w.variableImport path i = .ok v →
      Adds w path i t { t with variableFiles := t.variableFiles ++ [v] }
  | resource {name : String} :
    i.kind = .text "Resource" → i.name = .text name →
      Adds w path i t { t with resources := t.resources ++ [w.resourcePath path name] }
  | other :
    i.kind ≠ .text "Library" → i.kind ≠ .text "Variables" → i.kind ≠ .text "Resource" →
      Adds w path i t t

theorem adds_of_addImport (h : ((w.addImport path t i).exec b).1 = .ok t') :
    Adds w path i t t' := by
  unfold addImport at h
  simp only [beq_iff_eq] at h
  split at h
  · rename_i hkind
    obtain ⟨l, hl, h⟩ := Building.exec_bind_eq_ok.1 h
    cases h
    rw [Building.exec_lift] at hl
    exact .library hkind hl
  split at h
  · rename_i hkind
    obtain ⟨found, hfound, h⟩ := Building.exec_bind_eq_ok.1 h
    obtain ⟨name, hname, rfl⟩ := resourceImport_eq_ok hfound
    cases h
    exact .resource hkind hname
  split at h
  · rename_i hkind
    obtain ⟨v, hv, h⟩ := Building.exec_bind_eq_ok.1 h
    cases h
    rw [Building.exec_lift] at hv
    exact .variableFile hkind hv
  · rename_i hlibrary hresource hvariables
    cases h
    exact .other hlibrary hvariables hresource

/-- An import setting adds what it asks for to a table, and nothing else. -/
theorem Adds.mem_requests (h : Adds w path i t t') :
    r ∈ t'.requests ↔ r ∈ t.requests ∨ Imported w path i r := by
  have himported {r₀} (h₀ : Imported w path i r₀) : Imported w path i r ↔ r = r₀ :=
    ⟨fun h => h.unique h₀, fun e => e ▸ h₀⟩
  cases h with
  | library hkind hl =>
    rw [himported (.library hkind hl)]
    simp only [RobotTable.requests, List.map_append, List.map_cons, List.map_nil,
      List.mem_append, List.mem_singleton]
    tauto
  | variableFile hkind hv =>
    rw [himported (.variableFile hkind hv)]
    simp only [RobotTable.requests, List.map_append, List.map_cons, List.map_nil,
      List.mem_append, List.mem_singleton]
    tauto
  | resource hkind hname =>
    rw [himported (.resource hkind hname)]
    simp only [RobotTable.requests, List.map_append, List.map_cons, List.map_nil,
      List.mem_append, List.mem_singleton]
    tauto
  | other hlibrary hvariables hresource =>
    have : ¬Imported w path i r := by
      rintro (⟨hkind, -⟩ | ⟨hkind, -⟩ | ⟨hkind, -⟩) <;> contradiction
    simp [this]

theorem Adds.sameContent (h : Adds w path i t t') :
    t'.fileName = t.fileName ∧ t'.filePath = t.filePath ∧ t'.keywords = t.keywords ∧
      t'.varNames = t.varNames := by
  cases h <;> exact ⟨rfl, rfl, rfl, rfl⟩

/-- A table that holds what a model says of the file at a path. -/
structure Holds (w : World) (path : String) (model : Model) (t : RobotTable) : Prop where
  fileName : t.fileName = Path.name path
  filePath : t.filePath = w.tidy path
  keywords : userKeywords model.keywords = .ok t.keywords
  varNames : t.varNames = model.varNames.filter (· != .null)
  libraries : ∀ l ∈ t.libraries,
    ∃ i ∈ model.imports, w.libraryImport (Path.parent (w.tidy path)) i = .ok l
  variableFiles : ∀ v ∈ t.variableFiles, ∃ i ∈ model.imports, w.variableImport path i = .ok v
  mem_requests : ∀ r, r ∈ t.requests ↔ ∃ i ∈ model.imports, Imported w path i r

theorem mem_requests_of_addImports {imports : List ImportInfo}
    (h : ((imports.foldlM (w.addImport path) t).exec b).1 = .ok t') :
    (t'.fileName = t.fileName ∧ t'.filePath = t.filePath ∧ t'.keywords = t.keywords ∧
      t'.varNames = t.varNames) ∧
    ∀ r, r ∈ t'.requests ↔ r ∈ t.requests ∨ ∃ i ∈ imports, Imported w path i r := by
  induction imports generalizing t b with
  | nil =>
    cases h
    simp
  | cons i imports ih =>
    rw [List.foldlM_cons] at h
    obtain ⟨t₁, hadd, hrest⟩ := Building.exec_bind_eq_ok.1 h
    have hadds := adds_of_addImport hadd
    obtain ⟨hname, hpath, hkeywords, hnames⟩ := hadds.sameContent
    have ⟨hsame, hrequests⟩ := ih hrest
    rw [hname, hpath, hkeywords, hnames] at hsame
    refine ⟨hsame, fun r => ?_⟩
    rw [hrequests, hadds.mem_requests, List.exists_mem_cons_iff, or_assoc]

/-- What every import setting preserves is preserved by all of them. -/
theorem preserved_of_addImports {P : RobotTable → Prop} {imports : List ImportInfo}
    (hadds : ∀ i ∈ imports, ∀ t t', Adds w path i t t' → P t → P t')
    (h : ((imports.foldlM (w.addImport path) t).exec b).1 = .ok t') (ht : P t) : P t' := by
  induction imports generalizing t b with
  | nil =>
    cases h
    exact ht
  | cons i imports ih =>
    rw [List.foldlM_cons] at h
    obtain ⟨t₁, hadd, hrest⟩ := Building.exec_bind_eq_ok.1 h
    have ht₁ := hadds i List.mem_cons_self t t₁ (adds_of_addImport hadd) ht
    exact ih (fun j hj => hadds j (List.mem_cons_of_mem _ hj)) hrest ht₁

/-- Where the libraries and variable files of a table come from. -/
def ComesFrom (w : World) (path : String) (imports : List ImportInfo) (t : RobotTable) : Prop :=
  (∀ l ∈ t.libraries, ∃ i ∈ imports, w.libraryImport (Path.parent (w.tidy path)) i = .ok l) ∧
    ∀ v ∈ t.variableFiles, ∃ i ∈ imports, w.variableImport path i = .ok v

theorem ComesFrom.add {imports : List ImportInfo} (h : ComesFrom w path imports t)
    (hi : i ∈ imports) (hadds : Adds w path i t t') : ComesFrom w path imports t' := by
  obtain ⟨hlibraries, hfiles⟩ := h
  cases hadds with
  | library _ hl =>
    refine ⟨fun l' hl' => ?_, hfiles⟩
    rcases List.mem_append.1 hl' with hl' | hl'
    · exact hlibraries l' hl'
    · exact ⟨i, hi, List.mem_singleton.1 hl' ▸ hl⟩
  | variableFile _ hv =>
    refine ⟨hlibraries, fun v' hv' => ?_⟩
    rcases List.mem_append.1 hv' with hv' | hv'
    · exact hfiles v' hv'
    · exact ⟨i, hi, List.mem_singleton.1 hv' ▸ hv⟩
  | resource => exact ⟨hlibraries, hfiles⟩
  | other => exact ⟨hlibraries, hfiles⟩

theorem holds_of_robotTable (h : ((w.robotTable path model).exec b).1 = .ok t) :
    Holds w path model t := by
  obtain ⟨keywords, hkeywords, h⟩ := Building.exec_bind_eq_ok.1 h
  rw [Building.exec_lift] at hkeywords
  obtain ⟨⟨hname, hpath, hsame, hnames⟩, hrequests⟩ := mem_requests_of_addImports h
  have hfrom : ComesFrom w path model.imports t :=
    preserved_of_addImports (fun i hi t₁ t₂ hadds ht₁ => ht₁.add hi hadds) h ⟨nofun, nofun⟩
  refine ⟨hname, hpath, hsame ▸ hkeywords, hnames, hfrom.1, hfrom.2, fun r => ?_⟩
  rw [hrequests]
  simp [RobotTable.requests]

section

variable {fault : Fault} (hkind : fault ≠ .wrongKind) (hmember : fault ≠ .missingMember)

include hkind

theorem avoids_resourceImport : Building.Avoids fault (w.resourceImport path i) := by
  refine (Building.avoids_lift ?_).bind fun name => ?_
  · cases i.name <;> simp [Value.textOnly, hkind.symm]
  · dsimp only
    split
    · exact (Building.avoids_notify _).bind fun _ => Building.avoids_pure
    · exact Building.avoids_pure

theorem variableImport_ne_error : w.variableImport path i ≠ .error fault := by
  refine Outcome.bind_ne_error ?_ fun name => nofun
  cases i.name <;> simp [Value.textOnly, hkind.symm]

omit hkind

include hmember

theorem libraryImport_ne_error (folder : String) : w.libraryImport folder i ≠ .error fault := by
  refine Outcome.bind_ne_error ?_ fun name => ?_
  · cases i.name <;> simp [Value.asText, hmember.symm]
  · split
    · split <;> nofun
    · nofun

theorem userKeywords_ne_error (all : List KeywordInfo) : userKeywords all ≠ .error fault := by
  refine Outcome.foldlM_ne_error (fun found k => ?_) all []
  refine Outcome.bind_ne_error ?_ fun name => nofun
  cases k.name <;> simp [Value.asText, hmember.symm]

include hkind

theorem avoids_addImport : Building.Avoids fault (w.addImport path t i) := by
  unfold addImport
  split
  · exact (Building.avoids_lift (libraryImport_ne_error hmember _)).bind fun _ =>
      Building.avoids_pure
  split
  · exact (avoids_resourceImport hkind).bind fun _ => Building.avoids_pure
  split
  · exact (Building.avoids_lift (variableImport_ne_error hkind)).bind fun _ => Building.avoids_pure
  · exact Building.avoids_pure

/-- A model can only fail to make a table because a name in it is no text. -/
theorem avoids_robotTable : Building.Avoids fault (w.robotTable path model) :=
  (Building.avoids_lift (userKeywords_ne_error hmember _)).bind fun _ =>
    Building.avoids_foldlM (fun _ _ => avoids_addImport hkind hmember) _ _

end

/-- What the framework reads a file as: a resource, and a suite if it takes it for none. -/
def robotModel (w : World) (path : String) : Except Fault Model :=
  match w.resourceModel path with
  | .error .framework => Framework.answer w.framework.suites path
  | outcome => outcome

theorem mem_of_lookup {α : Type} {key : String} {a : α} {pairs : List (String × α)}
    (h : pairs.lookup key = some a) : (key, a) ∈ pairs := by
  obtain ⟨before, after, rfl, -⟩ := List.lookup_eq_some_iff.1 h
  simp

theorem answer_eq_ok {answers : List (String × Model)} {asked : String}
    (h : Framework.answer answers asked = .ok model) : (asked, model) ∈ answers := by
  unfold Framework.answer at h
  split at h
  · rename_i found hlookup
    cases h
    exact mem_of_lookup hlookup
  · cases h

/-- A model is that of the file as a resource or as a suite, or that of its folder. -/
theorem mem_of_robotModel (h : w.robotModel path = .ok model) :
    (path, model) ∈ w.framework.resources ++ w.framework.suites ∨
      (Path.parent path, model) ∈ w.framework.folders := by
  unfold robotModel at h
  split at h
  · exact Or.inl (List.mem_append_right _ (answer_eq_ok h))
  · unfold resourceModel at h
    split at h
    · exact Or.inr (answer_eq_ok h)
    · exact Or.inl (List.mem_append_left _ (answer_eq_ok h))

theorem buildFrom_eq_ok {asked : Except Fault Model}
    (h : ((do
      Building.visit path
      w.needPath path
      w.robotTable path (← asked) : Building RobotTable).exec b).1 = .ok t) :
    ∃ model, asked = .ok model ∧ Holds w path model t := by
  obtain ⟨_, _, h⟩ := Building.exec_bind_eq_ok.1 h
  obtain ⟨_, _, h⟩ := Building.exec_bind_eq_ok.1 h
  obtain ⟨model, hmodel, h⟩ := Building.exec_bind_eq_ok.1 h
  rw [Building.exec_lift] at hmodel
  exact ⟨model, hmodel, holds_of_robotTable h⟩

theorem needPath_eq_ok : w.needPath path = .ok () ↔ w.store.has path = true := by
  unfold needPath
  split <;> simp_all

theorem needPath_ne_framework : w.needPath path ≠ .error .framework := by
  unfold needPath
  split <;> nofun

/-- The framework's fault with a file that is there comes from its model alone. -/
theorem buildFrom_eq_framework {asked : Except Fault Model} :
    ((do
      Building.visit path
      w.needPath path
      w.robotTable path (← asked) : Building RobotTable).exec b).1 = .error .framework ↔
      w.store.has path = true ∧ asked = .error .framework := by
  constructor
  · intro h
    rcases Building.exec_bind_eq_error.1 h with hvisit | ⟨_, _, h⟩
    · cases hvisit
    rcases Building.exec_bind_eq_error.1 h with hneed | ⟨_, hneed, h⟩
    · rw [Building.exec_lift] at hneed
      exact absurd hneed needPath_ne_framework
    rw [Building.exec_lift] at hneed
    refine ⟨needPath_eq_ok.1 hneed, ?_⟩
    rcases Building.exec_bind_eq_error.1 h with hasked | ⟨model, _, h⟩
    · rwa [Building.exec_lift] at hasked
    · have havoids : Building.Avoids .framework (w.robotTable path model) :=
        avoids_robotTable nofun nofun
      exact absurd h (havoids _)
  · rintro ⟨hhas, rfl⟩
    refine Building.exec_bind_eq_error.2 (Or.inr ⟨(), rfl, ?_⟩)
    refine Building.exec_bind_eq_error.2 (Or.inr ⟨(), ?_, ?_⟩)
    · rw [Building.exec_lift]
      exact needPath_eq_ok.2 hhas
    · exact Building.exec_bind_eq_error.2 (Or.inl rfl)

theorem resourceModel_of_error (h : ((w.buildResource path).exec b).1 = .error .framework) :
    w.resourceModel path = .error .framework :=
  (buildFrom_eq_framework.1 h).2

theorem robotModel_eq_framework : w.robotModel path = .error .framework ↔
    w.resourceModel path = .error .framework ∧
      Framework.answer w.framework.suites path = .error .framework := by
  unfold robotModel
  split
  · rename_i hresource
    simp [hresource]
  · rename_i hother
    exact ⟨fun h => absurd h hother, fun h => absurd h.1 hother⟩

/-- Building the table of a file fails with the framework's fault exactly if the file is there and
the framework takes it neither for a resource nor for a suite. -/
theorem buildRobot_eq_framework : ((w.buildRobot path).exec b).1 = .error .framework ↔
    w.store.has path = true ∧ w.robotModel path = .error .framework := by
  rw [buildRobot, Building.exec_tryCatch, robotModel_eq_framework]
  have hresource : ((w.buildResource path).exec b).1 = .error .framework ↔
      w.store.has path = true ∧ w.resourceModel path = .error .framework := buildFrom_eq_framework
  generalize (w.buildResource path).exec b = outcome at hresource ⊢
  rcases outcome with ⟨fault | t, b'⟩
  · by_cases hfault : fault = .framework
    · subst hfault
      have ⟨hhas, hmodel⟩ := hresource.1 rfl
      exact buildFrom_eq_framework.trans (by simp [hmodel])
    · have hne : (fault == Fault.framework) = false := by simpa using hfault
      simp only [hne]
      refine ⟨fun h => absurd (Except.error.inj h) hfault, fun ⟨hhas, hmodel, _⟩ => ?_⟩
      exact absurd (Except.error.inj (hresource.2 ⟨hhas, hmodel⟩)) hfault
  · refine ⟨nofun, fun ⟨hhas, hmodel, _⟩ => ?_⟩
    cases hresource.2 ⟨hhas, hmodel⟩

/-- **A table that is built of a file holds what the framework's model says of the file.** -/
theorem holds_of_buildRobot (h : ((w.buildRobot path).exec b).1 = .ok t) :
    ∃ model, w.robotModel path = .ok model ∧ Holds w path model t := by
  rw [buildRobot, Building.exec_tryCatch] at h
  rcases hresource : (w.buildResource path).exec b with ⟨fault | t₁, b'⟩
  · simp only [hresource] at h
    split at h
    · rename_i hfault
      obtain rfl := eq_of_beq hfault
      have hmodel := resourceModel_of_error (congrArg Prod.fst hresource)
      obtain ⟨model, hsuite, hholds⟩ := buildFrom_eq_ok h
      exact ⟨model, by rw [robotModel, hmodel]; exact hsuite, hholds⟩
    · cases h
  · simp only [hresource] at h
    cases h
    obtain ⟨model, hmodel, hholds⟩ := buildFrom_eq_ok (congrArg Prod.fst hresource)
    exact ⟨model, by rw [robotModel, hmodel], hholds⟩

theorem answer_ne_error {answers : List (String × Model)} {fault : Fault} (hfault : fault ≠ .framework)
    (asked : String) : Framework.answer answers asked ≠ .error fault := by
  unfold Framework.answer
  split
  · exact nofun
  · simpa using hfault.symm

/-- The data of a file that is there is never at fault: building its table fails for other reasons
only. -/
theorem avoids_buildRobot {fault : Fault} (hhas : w.store.has path = true)
    (hdata : fault.isData = true) : Building.Avoids fault (w.buildRobot path) := by
  have hkind : fault ≠ .wrongKind := by
    rintro rfl
    cases hdata
  have hmember : fault ≠ .missingMember := by
    rintro rfl
    cases hdata
  have hframework : fault ≠ .framework := by
    rintro rfl
    cases hdata
  have hpath : w.needPath path ≠ .error fault := by simp [needPath, hhas]
  have hfrom {asked : Except Fault Model} (hasked : asked ≠ .error fault) :
      Building.Avoids fault (do
        Building.visit path
        w.needPath path
        w.robotTable path (← asked)) :=
    Building.Avoids.bind nofun fun _ => (Building.avoids_lift hpath).bind fun _ =>
      (Building.avoids_lift hasked).bind fun _ => avoids_robotTable hkind hmember
  have hresource : w.resourceModel path ≠ .error fault := by
    unfold resourceModel
    split <;> exact answer_ne_error hframework _
  refine (hfrom hresource).rescue fun other hother => ?_
  split
  · exact hfrom (answer_ne_error hframework _)
  · intro b h
    exact hother (Except.error.inj h)

/-- The table of a variable file holds the spelling of its path. -/
theorem filePath_of_buildVariables {v : VariableTable}
    (h : ((w.buildVariables path).exec b).1 = .ok v) : v.filePath = w.tidy path := by
  obtain ⟨_, _, h⟩ := Building.exec_bind_eq_ok.1 h
  obtain ⟨names, _, h⟩ := Building.exec_bind_eq_ok.1 h
  have hv : (⟨Path.name path, w.tidy path, names⟩ : VariableTable) = v := Except.ok.inj h
  rw [← hv]

/-- How an item comes to its table. The item is a text, and its kind says whether it is the path of a
file that the framework has a model of, the name of a library, or the path of a variable file. -/
inductive Builds (w : World) (work : Work) : Value → Table → Prop
  | robot {path : String} {model : Model} {t : RobotTable} :
    work.kind ≠ .library → w.robotModel path = .ok model → Holds w path model t →
      Builds w work (.text path) (.robot t)
  | library {name : String} {l : LibraryTable} :
    work.kind = .library → w.buildLibrary name work.arguments = .ok l →
      Builds w work (.text name) (.library l)
  | variableFile {path : String} {v : VariableTable} :
    work.kind = .variableFile → v.filePath = w.tidy path →
      Builds w work (.text path) (.variableFile v)

theorem builds_of_buildTable {key : Value} {work : Work} {table : Table}
    (h : w.buildTable key work = .ok table) : Builds w work key table := by
  have hrobot (hkind : work.kind ≠ .library)
      (h : (w.buildRobotNamed key).map Table.robot = .ok table) : Builds w work key table := by
    obtain ⟨found, hfound, rfl⟩ := Outcome.map_eq_ok.1 h
    unfold buildRobotNamed at hfound
    split at hfound
    · obtain ⟨model, hmodel, hholds⟩ := holds_of_buildRobot hfound
      exact .robot hkind hmodel hholds
    · obtain ⟨there, -, hfound⟩ := Outcome.bind_eq_ok.1 hfound
      split at hfound <;> cases hfound
  unfold buildTable at h
  split at h
  · exact hrobot (by simp_all) h
  · exact hrobot (by simp_all) h
  · exact hrobot (by simp_all) h
  · rename_i hkind
    obtain ⟨found, hfound, rfl⟩ := Outcome.map_eq_ok.1 h
    unfold buildLibraryNamed at hfound
    split at hfound
    · exact .library hkind hfound
    · obtain ⟨_, -, hfound⟩ := Outcome.bind_eq_ok.1 hfound
      obtain ⟨_, -, hfound⟩ := Outcome.bind_eq_ok.1 hfound
      cases hfound
  · rename_i hkind
    obtain ⟨found, hfound, rfl⟩ := Outcome.map_eq_ok.1 h
    obtain ⟨path, hpath, hfound⟩ := Outcome.bind_eq_ok.1 hfound
    obtain rfl := Value.eq_text_of_textOnly hpath
    exact .variableFile hkind (filePath_of_buildVariables hfound)

end World

end KeywordCatalog
