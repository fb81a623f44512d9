import KeywordCatalog.Fault

/-!
# Routines

A routine works on a state. It may fail, and then the state keeps what was done before; and it may
go on forever, and then it has no result.

`Routine.drain` is the one loop of the catalog: it asks for the next thing to work on, works on it,
and ends when there is none. It answers with everything that it worked on, in order.
-/

namespace KeywordCatalog

/-- Work on a state, which may fail and still leaves its traces. Work that never ends has no
result. -/
abbrev Routine (σ : Type) := ExceptT Fault (StateT σ Option)

namespace Routine

variable {σ τ α β : Type}

/-- How a routine ends that starts in a state: with a result or a fault, and in which state. -/
def exec (work : Routine σ α) (s : σ) : Option (Except Fault α × σ) := (ExceptT.run work).run s

/-- Works on what comes next until nothing does, starting in a state. -/
def drainFrom (next : Routine σ (Option α)) (work : α → Routine σ β) (s : σ) :
    Option (Except Fault (List (α × β)) × σ) := do
  match ← next.exec s with
  | (.error fault, s) => return (.error fault, s)
  | (.ok none, s) => return (.ok [], s)
  | (.ok (some a), s) =>
    match ← (work a).exec s with
    | (.error fault, s) => return (.error fault, s)
    | (.ok b, s) =>
      -- `apply` puts the call into the definition without its place in the text
      let (rest, s) ← by
        apply drainFrom
        · exact next
        · exact work
        · exact s
      return (Except.map ((a, b) :: ·) rest, s)
partial_fixpoint

/-- Works on what comes next until nothing does: all that came, each with what the work made of
it. -/
def drain (next : Routine σ (Option α)) (work : α → Routine σ β) : Routine σ (List (α × β)) :=
  ExceptT.mk (drainFrom next work)

/-- Works on a state that is made from another one and put back into it. -/
def within (enter : τ → σ) (leave : σ → τ) (work : Routine σ α) : Routine τ α :=
  ExceptT.mk fun t => (work.exec (enter t)).map fun (result, s) => (result, leave s)

/-- Work with a result of its own for the case of a fault in the data. -/
def forgiving (spare : α) (work : Routine σ α) : Routine σ α :=
  tryCatch work fun fault => if fault.isData then pure spare else throw fault

/-- Does some work and then, whether it failed or not, some more. -/
def thenAlways (work after : Routine σ Unit) : Routine σ Unit := do
  tryCatch work fun fault => do
    after
    throw fault
  after

@[simp] theorem exec_pure (a : α) (s : σ) : (pure a : Routine σ α).exec s = some (.ok a, s) := rfl

@[simp] theorem exec_throw (fault : Fault) (s : σ) :
    (throw fault : Routine σ α).exec s = some (.error fault, s) := rfl

@[simp] theorem exec_get (s : σ) : (get : Routine σ σ).exec s = some (.ok s, s) := rfl

@[simp] theorem exec_set (s t : σ) : (set t : Routine σ PUnit).exec s = some (.ok ⟨⟩, t) := rfl

@[simp] theorem exec_modify (f : σ → σ) (s : σ) :
    (modify f : Routine σ PUnit).exec s = some (.ok ⟨⟩, f s) := rfl

@[simp] theorem exec_lift (x : Except Fault α) (s : σ) :
    (liftM x : Routine σ α).exec s = some (x, s) := by
  cases x <;> rfl

theorem exec_bind (work : Routine σ α) (after : α → Routine σ β) (s : σ) :
    (work >>= after).exec s = (work.exec s).bind fun
      | (.ok a, s') => (after a).exec s'
      | (.error fault, s') => some (.error fault, s') := by
  simp only [exec, ExceptT.run_bind, StateT.run_bind]
  cases (ExceptT.run work).run s with
  | none => rfl
  | some ended =>
    obtain ⟨result, s'⟩ := ended
    cases result <;> rfl

theorem exec_bind_of_ok {work : Routine σ α} {after : α → Routine σ β} {s s₁ : σ} {a : α}
    (h : work.exec s = some (.ok a, s₁)) : (work >>= after).exec s = (after a).exec s₁ := by
  rw [exec_bind, h, Option.bind_some]

theorem exec_tryCatch (work : Routine σ α) (rescue : Fault → Routine σ α) (s : σ) :
    (tryCatch work rescue : Routine σ α).exec s = (work.exec s).bind fun
      | (.ok a, s') => some (.ok a, s')
      | (.error fault, s') => (rescue fault).exec s' := by
  rw [exec, ExceptT.run_tryCatch, StateT.run_bind, exec]
  cases (ExceptT.run work).run s with
  | none => rfl
  | some ended =>
    obtain ⟨result, s'⟩ := ended
    cases result <;> rfl

/-- A part that reads its result off data goes on with the rest or ends with the fault. -/
theorem exec_lift_bind (x : Except Fault α) (after : α → Routine σ β) (s : σ) :
    (liftM x >>= after : Routine σ β).exec s =
      match x with
      | .ok a => (after a).exec s
      | .error fault => some (.error fault, s) := by
  rw [exec_bind, exec_lift]
  cases x <;> rfl

/-- What comes out of two routines in a row comes out of the second one. -/
theorem exec_bind_eq_ok {work : Routine σ α} {after : α → Routine σ β} {s s' : σ} {b : β} :
    (work >>= after).exec s = some (.ok b, s') ↔
      ∃ a s₁, work.exec s = some (.ok a, s₁) ∧ (after a).exec s₁ = some (.ok b, s') := by
  rw [exec_bind]
  cases h : work.exec s with
  | none => simp
  | some ended =>
    obtain ⟨result, s₁⟩ := ended
    cases result with
    | error fault => simp
    | ok a =>
      constructor
      · exact fun h' => ⟨a, s₁, rfl, h'⟩
      · rintro ⟨_, _, ⟨⟩, h'⟩
        exact h'

/-- Forgiving work has its own result, or its spare one after a fault in the data. -/
theorem exec_forgiving_eq_ok {work : Routine σ α} {spare a : α} {s s' : σ} :
    (forgiving spare work).exec s = some (.ok a, s') ↔
      work.exec s = some (.ok a, s') ∨
        ∃ fault : Fault, fault.isData = true ∧ work.exec s = some (.error fault, s') ∧ a = spare := by
  rw [forgiving, exec_tryCatch]
  cases work.exec s with
  | none => simp
  | some ended =>
    obtain ⟨result, s₁⟩ := ended
    cases result with
    | ok b => simp
    | error fault =>
      change (if fault.isData then pure spare else throw fault : Routine σ α).exec s₁ = _ ↔ _
      split
      · rename_i hd
        constructor
        · rintro ⟨⟩
          exact Or.inr ⟨fault, hd, rfl, rfl⟩
        · rintro (⟨⟨⟩⟩ | ⟨_, _, ⟨⟩, rfl⟩)
          rfl
      · rename_i hd
        constructor
        · rintro ⟨⟩
        · rintro (⟨⟨⟩⟩ | ⟨_, hd', ⟨⟩, _⟩)
          exact absurd hd' hd

theorem exec_forgiving_of_error {work : Routine σ α} {spare : α} {fault : Fault} {s s' : σ}
    (h : work.exec s = some (.error fault, s')) (hdata : fault.isData = false) :
    (forgiving spare work).exec s = some (.error fault, s') := by
  rw [forgiving, exec_tryCatch, h]
  simp only [Option.bind_some, hdata, Bool.false_eq_true, if_false, exec_throw]

theorem exec_thenAlways_of_error {work after : Routine σ Unit} {fault : Fault} {s s₁ s₂ : σ}
    (h : work.exec s = some (.error fault, s₁)) (ha : after.exec s₁ = some (.ok (), s₂)) :
    (thenAlways work after).exec s = some (.error fault, s₂) := by
  simp only [thenAlways, exec_bind, exec_tryCatch, h, Option.bind_some, ha, exec_throw]

theorem exec_thenAlways_eq_ok {work after : Routine σ Unit} {s s' : σ} :
    (thenAlways work after).exec s = some (.ok (), s') ↔
      ∃ s₁, work.exec s = some (.ok (), s₁) ∧ after.exec s₁ = some (.ok (), s') := by
  rw [thenAlways, exec_bind_eq_ok, exec_tryCatch]
  constructor
  · rintro ⟨⟨⟩, s₁, h, ha⟩
    cases hw : work.exec s with
    | none => rw [hw] at h; cases h
    | some ended =>
      obtain ⟨result, s₂⟩ := ended
      rw [hw] at h
      cases result with
      | ok _ =>
        cases h
        exact ⟨_, rfl, ha⟩
      | error fault =>
        -- what is done afterwards cannot undo the fault
        obtain ⟨_, _, _, ⟨⟩⟩ := exec_bind_eq_ok.1 h
  · rintro ⟨s₁, hw, ha⟩
    exact ⟨(), s₁, by rw [hw]; rfl, ha⟩

end Routine

end KeywordCatalog
