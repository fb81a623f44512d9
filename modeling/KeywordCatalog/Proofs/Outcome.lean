import Mathlib.Data.List.Forall2
import KeywordCatalog.Fault

/-!
# Outcomes

What becomes of a computation that may fail, step by step.
-/

namespace KeywordCatalog.Outcome

variable {α β γ : Type} {fault : Fault}

@[simp] theorem ok_bind (a : α) (f : α → Except Fault β) : Except.ok a >>= f = f a := rfl

@[simp] theorem error_bind (f : α → Except Fault β) : Except.error fault >>= f = .error fault := rfl

@[simp] theorem ok_map (f : α → β) (a : α) : f <$> (Except.ok a : Except Fault α) = .ok (f a) := rfl

@[simp] theorem error_map (f : α → β) : f <$> (Except.error fault : Except Fault α) = .error fault :=
  rfl

theorem bind_eq_ok {x : Except Fault α} {f : α → Except Fault β} {b : β} :
    x >>= f = .ok b ↔ ∃ a, x = .ok a ∧ f a = .ok b := by
  cases x <;> simp

theorem map_eq_ok {x : Except Fault α} {f : α → β} {b : β} :
    f <$> x = .ok b ↔ ∃ a, x = .ok a ∧ f a = b := by
  cases x <;> simp

/-- A computation goes well on every element of a list or fails as a whole. -/
theorem mapM_eq_ok {f : α → Except Fault β} {xs : List α} {ys : List β} :
    xs.mapM f = .ok ys ↔ List.Forall₂ (fun x y => f x = .ok y) xs ys := by
  induction xs generalizing ys with
  | nil => cases ys <;> simp [pure, Except.pure]
  | cons x xs ih =>
    simp only [List.mapM_cons, bind_eq_ok, ih]
    constructor
    · rintro ⟨y, hy, rest, hrest, ⟨⟩⟩
      exact .cons hy hrest
    · rintro (_ | ⟨hy, hrest⟩)
      exact ⟨_, hy, _, hrest, rfl⟩

theorem exists_of_mapM_eq_ok {f : α → Except Fault β} {xs : List α} {ys : List β} {y : β}
    (h : xs.mapM f = .ok ys) (hy : y ∈ ys) : ∃ x ∈ xs, f x = .ok y := by
  have hpairs := mapM_eq_ok.1 h
  clear h
  induction hpairs with
  | nil => cases hy
  | cons hfirst _ ih =>
    rcases List.mem_cons.1 hy with rfl | hy
    · exact ⟨_, List.mem_cons_self, hfirst⟩
    · obtain ⟨x, hx, hfx⟩ := ih hy
      exact ⟨x, List.mem_cons_of_mem _ hx, hfx⟩

theorem bind_ne_error {x : Except Fault α} {f : α → Except Fault β} (hx : x ≠ .error fault)
    (hf : ∀ a, f a ≠ .error fault) : x >>= f ≠ .error fault := by
  cases x with
  | error fault' => simpa using hx
  | ok a => exact hf a

theorem foldlM_ne_error {f : β → α → Except Fault β} (hf : ∀ b a, f b a ≠ .error fault)
    (xs : List α) (b : β) : xs.foldlM f b ≠ .error fault := by
  induction xs generalizing b with
  | nil => simp [pure, Except.pure]
  | cons x xs ih =>
    rw [List.foldlM_cons]
    exact bind_ne_error (hf b x) ih

/-- What every step of a computation along a list preserves is preserved by all of it. -/
theorem foldlM_preserves {P : β → Prop} {f : β → α → Except Fault β} {xs : List α} {b c : β}
    (hf : ∀ a ∈ xs, ∀ b c, f b a = .ok c → P b → P c) (h : xs.foldlM f b = .ok c) (hb : P b) :
    P c := by
  induction xs generalizing b with
  | nil =>
    cases h
    exact hb
  | cons x xs ih =>
    rw [List.foldlM_cons] at h
    obtain ⟨b', hx, hrest⟩ := bind_eq_ok.1 h
    exact ih (fun a ha => hf a (List.mem_cons_of_mem _ ha)) hrest
      (hf x List.mem_cons_self b b' hx hb)

/-! ### Outcomes that count as the same -/

/-- Whether two computations have the same result, or both fail for a cause of the same family. -/
inductive Alike : Except Fault α → Except Fault α → Prop
  | ok (a : α) : Alike (.ok a) (.ok a)
  | error {f g : Fault} : f.isData = g.isData → f.isStorage = g.isStorage →
    Alike (.error f) (.error g)

section Alike

variable {x y : Except Fault α}

theorem Alike.refl (x : Except Fault α) : Alike x x := by
  cases x with
  | error f => exact .error rfl rfl
  | ok a => exact .ok a

theorem Alike.of_eq (h : x = y) : Alike x y := h ▸ .refl x

theorem Alike.bind {f g : α → Except Fault β} (h : Alike x y)
    (hf : ∀ a, x = .ok a → Alike (f a) (g a)) : Alike (x >>= f) (y >>= g) := by
  cases h with
  | ok a => exact hf a rfl
  | error hdata hstorage => exact .error hdata hstorage

theorem Alike.map (h : Alike x y) (f : α → β) : Alike (x.map f) (y.map f) := by
  cases h with
  | ok a => exact .ok (f a)
  | error hdata hstorage => exact .error hdata hstorage

theorem Alike.eq_ok {a : α} (h : Alike x y) (hx : x = .ok a) : y = .ok a := by
  cases h with
  | ok a => exact hx
  | error => cases hx

theorem Alike.eq_error (h : Alike x y) (hx : x = .error fault) :
    ∃ other : Fault, y = .error other ∧ other.isData = fault.isData := by
  cases h with
  | ok a => cases hx
  | error hdata => exact ⟨_, rfl, by rw [← Except.error.inj hx, hdata]⟩

end Alike

/-- The fault of a computation, if it fails. -/
def faultOf : Except Fault α → Option Fault
  | .error fault => some fault
  | .ok _ => none

@[simp] theorem faultOf_ok (a : α) : faultOf (.ok a) = none := rfl

@[simp] theorem faultOf_pure (a : α) : faultOf (pure a) = none := rfl

@[simp] theorem faultOf_error : faultOf (.error fault : Except Fault α) = some fault := rfl

theorem faultOf_bind {α' β' : Type} {x : Except Fault α} {y : Except Fault α'}
    {f : α → Except Fault β} {g : α' → Except Fault β'} (h : faultOf x = faultOf y)
    (hf : ∀ a b, x = .ok a → y = .ok b → faultOf (f a) = faultOf (g b)) :
    faultOf (x >>= f) = faultOf (y >>= g) := by
  cases x with
  | error => cases y with
    | error => exact h
    | ok => cases h
  | ok a => cases y with
    | error => cases h
    | ok b => exact hf a b rfl rfl

theorem faultOf_foldlM {β' : Type} {f : β → α → Except Fault β} {g : β' → α → Except Fault β'}
    (h : ∀ b c a, faultOf (f b a) = faultOf (g c a)) (xs : List α) (b : β) (c : β') :
    faultOf (xs.foldlM f b) = faultOf (xs.foldlM g c) := by
  induction xs generalizing b c with
  | nil => rfl
  | cons x xs ih =>
    rw [List.foldlM_cons, List.foldlM_cons]
    exact faultOf_bind (h b c x) fun b' c' _ _ => ih b' c'

theorem alike_bind_of_faultOf {α' : Type} {x : Except Fault α} {y : Except Fault α'}
    {f : α → Except Fault β} {g : α' → Except Fault β} (h : faultOf x = faultOf y)
    (hf : ∀ a b, Alike (f a) (g b)) : Alike (x >>= f) (y >>= g) := by
  cases x with
  | error => cases y with
    | error =>
      cases h
      exact .error rfl rfl
    | ok => cases h
  | ok a => cases y with
    | error => cases h
    | ok b => exact hf a b

theorem map_bind (x : Except Fault α) (f : α → Except Fault β) (g : β → γ) :
    (x >>= f).map g = x >>= fun a => (f a).map g := by
  cases x <;> rfl

/-! ### Work on a state -/

section

variable {σ : Type}

theorem run_bind (work : ExceptT Fault (StateM σ) α) (after : α → ExceptT Fault (StateM σ) β)
    (s : σ) : ((work >>= after).run.run s).run =
      match (work.run.run s).run with
      | (.ok a, s') => ((after a).run.run s').run
      | (.error fault, s') => (.error fault, s') := by
  simp only [ExceptT.run_bind, StateT.run_bind, Id.run_bind]
  rcases (work.run.run s).run with ⟨_ | _, _⟩ <;> rfl

theorem run_tryCatch (work : ExceptT Fault (StateM σ) α)
    (rescue : Fault → ExceptT Fault (StateM σ) α) (s : σ) :
    ((tryCatch work rescue : ExceptT Fault (StateM σ) α).run.run s).run =
      match (work.run.run s).run with
      | (.ok a, s') => (.ok a, s')
      | (.error fault, s') => ((rescue fault).run.run s').run := by
  rw [ExceptT.run_tryCatch, StateT.run_bind, Id.run_bind]
  rcases (work.run.run s).run with ⟨_ | _, _⟩ <;> rfl

end

end KeywordCatalog.Outcome
