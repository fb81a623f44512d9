import KeywordCatalog.Proofs.Path.Folder
import KeywordCatalog.Proofs.Table.Building

/-!
# Tables and the spelling of paths

A file can be spelled in many ways, and its table is built from the spelling it comes with. The
table is the same for all of them: it shows the name and the tidy spelling of the file, and an import
leads to the same path from every spelling (`Path.tidy_join`). Only the model that the framework
gives for the file can make a difference (`World.buildTable_tidy`).

What a builder keeps between tables does not matter for a table (`Building.Agrees`).
-/

namespace KeywordCatalog

namespace Building

variable {α β : Type} {x y z : Building α}

/-- Work with the same result, whatever was kept before. -/
def Agrees (x y : Building α) : Prop := ∀ b b', (x.exec b).1 = (y.exec b').1

theorem Agrees.symm (h : Agrees x y) : Agrees y x := fun b b' => (h b' b).symm

theorem Agrees.trans (h : Agrees x y) (h' : Agrees y z) : Agrees x z := fun b b' =>
  (h b b).trans (h' b b')

theorem agrees_pure (a : α) : Agrees (pure a) (pure a) := fun _ _ => rfl

theorem agrees_lift (x : Except Fault α) : Agrees (liftM x) (liftM x) := fun _ _ => by
  rw [exec_lift, exec_lift]

theorem Agrees.bind {f g : α → Building β} (h : Agrees x y) (hafter : ∀ a, Agrees (f a) (g a)) :
    Agrees (x >>= f) (y >>= g) := by
  intro b b'
  have hsame := h b b'
  rw [exec_bind, exec_bind]
  generalize x.exec b = ended, y.exec b' = ended' at hsame ⊢
  obtain ⟨fault | a, b₁⟩ := ended <;> obtain ⟨fault' | a', b₁'⟩ := ended'
  · exact congrArg Except.error (Except.error.inj hsame)
  · cases hsame
  · cases hsame
  · obtain rfl : a = a' := Except.ok.inj hsame
    exact hafter a b₁ b₁'

theorem agrees_foldlM {f g : β → α → Building β} (h : ∀ c a, Agrees (f c a) (g c a)) (xs : List α)
    (c : β) : Agrees (xs.foldlM f c) (xs.foldlM g c) := by
  induction xs generalizing c with
  | nil => exact agrees_pure c
  | cons x xs ih =>
    rw [List.foldlM_cons, List.foldlM_cons]
    exact (h c x).bind ih

/-- Work without a result of its own can be left out. -/
theorem Agrees.skip {first : Building Unit} (hfirst : Agrees first (pure ())) (h : Agrees x y) :
    Agrees (first >>= fun _ => x) y := by
  have hboth := hfirst.bind fun _ => h
  rwa [pure_bind] at hboth

/-- A notice does not change the result. -/
theorem agrees_notify (notice : String) : Agrees (notify notice) (pure ()) := fun _ _ => rfl

end Building

namespace World

open Building

/-- Worlds in which imports lead to the same: the working folder, what the framework says, and the
files of code are the same. -/
structure AlikeForImports (w w' : World) : Prop where
  cwd : w'.store.cwd = w.store.cwd
  framework : w'.framework = w.framework
  code : ∀ name, endsWith name ".py" = true → w'.store.hasFile name = w.store.hasFile name

variable {w w' : World} {path : String} {model : Model}

theorem AlikeForImports.tidy (h : AlikeForImports w w') (path : String) :
    w'.tidy path = w.tidy path := by
  rw [World.tidy, h.cwd, World.tidy]

theorem AlikeForImports.robotModel (h : AlikeForImports w w') (path : String) :
    w'.robotModel path = w.robotModel path := by
  unfold World.robotModel World.resourceModel
  rw [h.framework]

theorem AlikeForImports.libraryImport (h : AlikeForImports w w') (folder : String)
    (i : ImportInfo) : w'.libraryImport folder i = w.libraryImport folder i := by
  unfold World.libraryImport
  cases i.name.asText with
  | error fault => rfl
  | ok name =>
    simp only [Outcome.ok_bind, h.tidy, h.cwd]
    split
    · rename_i hcode
      rw [h.code name hcode]
    · rfl

section

variable (h : AlikeForImports w w') (hcwd : Path.isAbsolute w.store.cwd = true)
include h hcwd

theorem tidy_join (path name : String) :
    w'.tidy (Path.join (Path.parent (w.tidy path)) name) =
      w.tidy (Path.join (Path.parent path) name) := by
  rw [h.tidy]
  exact Path.tidy_join hcwd path name

theorem resourcePath_tidy (path name : String) :
    w'.resourcePath (w.tidy path) name = w.resourcePath path name := by
  rw [resourcePath, resourcePath, tidy_join h hcwd]

theorem agrees_resourceImport (path : String) (i : ImportInfo) :
    Agrees (w'.resourceImport (w.tidy path) i) (w.resourceImport path i) := by
  have hresult (v : World) (q : String) : Agrees (v.resourceImport q i)
      (liftM i.name.textOnly >>= fun name => pure (v.resourcePath q name)) := by
    refine (agrees_lift _).bind fun name => ?_
    dsimp only
    split
    · exact (agrees_notify _).skip (agrees_pure _)
    · exact agrees_pure _
  refine (hresult w' (w.tidy path)).trans (Agrees.symm ?_)
  simp only [resourcePath_tidy h hcwd]
  exact hresult w path

theorem agrees_addImport (path : String) (t : RobotTable) (i : ImportInfo) :
    Agrees (w'.addImport (w.tidy path) t i) (w.addImport path t i) := by
  have htidy : w'.tidy (w.tidy path) = w.tidy path := by
    rw [h.tidy]
    exact Path.tidy_tidy hcwd _ path
  have hvariables : w'.variableImport (w.tidy path) i = w.variableImport path i := by
    simp only [variableImport, tidy_join h hcwd]
  unfold addImport
  rw [htidy, h.libraryImport, hvariables]
  split
  · exact (agrees_lift _).bind fun _ => agrees_pure _
  split
  · exact (agrees_resourceImport h hcwd path i).bind fun _ => agrees_pure _
  split
  · exact (agrees_lift _).bind fun _ => agrees_pure _
  · exact agrees_pure t

/-- A model makes the same table for all spellings of a file. -/
theorem agrees_robotTable (path : String) (model : Model) :
    Agrees (w'.robotTable (w.tidy path) model) (w.robotTable path model) := by
  have htidy : w'.tidy (w.tidy path) = w.tidy path := by
    rw [h.tidy]
    exact Path.tidy_tidy hcwd _ path
  have hname : Path.name (w.tidy path) = Path.name path := Path.name_tidy _ path
  unfold robotTable
  rw [htidy, hname]
  exact (agrees_lift _).bind fun _ => agrees_foldlM (agrees_addImport h hcwd path) _ _

end

theorem AlikeForImports.refl (w : World) : AlikeForImports w w := ⟨rfl, rfl, fun _ _ => rfl⟩

section

variable (hcwd : Path.isAbsolute w.store.cwd = true) (hhas : w.store.has path = true)
include hcwd hhas

theorem agrees_buildFrom (asked : Except Fault Model) :
    Agrees (do
      Building.visit path
      w.needPath path
      w.robotTable path (← asked)) (do w.robotTable path (← asked)) := by
  have hvisit : Agrees (Building.visit path) (pure ()) := fun _ _ => rfl
  have hneed : w.needPath path = .ok () := if_pos hhas
  have htable (model : Model) : Agrees (w.robotTable path model) (w.robotTable path model) :=
    have hspelled := agrees_robotTable (AlikeForImports.refl w) hcwd path model
    hspelled.symm.trans hspelled
  refine hvisit.skip (Agrees.skip ?_ ((agrees_lift asked).bind htable))
  rw [hneed]
  exact agrees_pure ()

/-- The table of a file that is there is made from what the framework reads the file as. -/
theorem agrees_buildRobot :
    Agrees (w.buildRobot path) (do w.robotTable path (← w.robotModel path)) := by
  intro b b'
  have hresource := agrees_buildFrom hcwd hhas (w.resourceModel path) b b'
  rw [buildRobot, exec_tryCatch]
  change ((w.buildResource path).exec b).1 = _ at hresource
  generalize hended : (w.buildResource path).exec b = ended at hresource
  cases hmodel : w.resourceModel path with
  | ok model =>
    have hread : w.robotModel path = .ok model := by rw [robotModel, hmodel]
    rw [hmodel] at hresource
    rw [hread, ← hresource]
    obtain ⟨fault | t, b₁⟩ := ended
    · have havoids : Avoids .framework (w.robotTable path model) := avoids_robotTable (by decide) (by decide)
      have hfault : fault ≠ .framework := by
        rintro rfl
        rw [exec_bind, exec_lift] at hresource
        exact havoids b' hresource.symm
      simp only [beq_iff_eq, hfault, if_false]
      rfl
    · rfl
  | error fault =>
    obtain rfl : fault = .framework := by
      by_contra hfault
      revert hmodel
      unfold resourceModel
      split <;> exact answer_ne_error hfault _
    have hread : w.robotModel path = Framework.answer w.framework.suites path := by
      rw [robotModel, hmodel]
    rw [hmodel] at hresource
    obtain ⟨fault | t, b₁⟩ := ended
    · obtain rfl : fault = .framework := Except.error.inj hresource
      rw [hread]
      exact agrees_buildFrom hcwd hhas _ b₁ b'
    · cases hresource

end

/-- **The table of a file does not depend on how the file is spelled**, if what the framework reads
it as does not. -/
theorem buildTable_tidy (h : AlikeForImports w w') (hcwd : Path.isAbsolute w.store.cwd = true)
    (hhas : w.store.has path = true) (hhas' : w'.store.has (w.tidy path) = true)
    (hmodel : w.robotModel path = w.robotModel (w.tidy path)) :
    w'.buildTable (.text (w.tidy path)) ⟨.waiting, .unknown, .null⟩ =
      w.buildTable (.text path) ⟨.waiting, .unknown, .null⟩ := by
  have hsame : Agrees (do w'.robotTable (w.tidy path) (← w'.robotModel (w.tidy path)))
      (do w.robotTable path (← w.robotModel path)) := by
    rw [h.robotModel, ← hmodel]
    exact (agrees_lift _).bind (agrees_robotTable h hcwd path)
  have hbuilt := ((agrees_buildRobot (h.cwd ▸ hcwd) hhas').trans hsame).trans
    (agrees_buildRobot hcwd hhas).symm
  exact congrArg (Except.map Table.robot) (hbuilt {} {})

end World

end KeywordCatalog
