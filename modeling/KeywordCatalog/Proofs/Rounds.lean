import KeywordCatalog.Routine
import Mathlib.Data.List.Basic

/-!
# Rounds of a loop

`Routine.Rounds next work s log s'` says that the loop `drain next work`, started in `s`, has gone
through the rounds of `log` and stands in `s'`. A loop that ends has gone through some rounds after
which nothing comes next (`exec_drain_eq_ok_iff`); a loop whose rounds are bounded in number ends
(`exists_exec_drain_of_length_lt`), with a result or with a fault. What every round preserves holds after any
number of rounds (`Rounds.preserves`).
-/

namespace KeywordCatalog.Routine

variable {σ α β : Type} {next : Routine σ (Option α)} {work : α → Routine σ β}

/-- Whether work has an end wherever it starts. -/
def Ends (w : Routine σ α) : Prop := ∀ s, ∃ ended, w.exec s = some ended

theorem Ends.pure (a : α) : Ends (Pure.pure a : Routine σ α) := fun _ => ⟨_, rfl⟩

theorem Ends.throw (fault : Fault) : Ends (MonadExcept.throw fault : Routine σ α) :=
  fun _ => ⟨_, rfl⟩

theorem Ends.lift (x : Except Fault α) : Ends (liftM x : Routine σ α) := fun _ => ⟨_, exec_lift _ _⟩

theorem Ends.bind {w : Routine σ α} {after : α → Routine σ β} (hw : Ends w)
    (ha : ∀ a, Ends (after a)) : Ends (w >>= after) := by
  intro s
  obtain ⟨⟨result, s₁⟩, h⟩ := hw s
  rw [exec_bind, h]
  cases result with
  | ok a => exact ha a s₁
  | error fault => exact ⟨_, rfl⟩

/-- If two routines in a row do not fail, the first one has a result and the second one goes on from
there. -/
theorem Ends.exists_ok {w : Routine σ α} {after : α → Routine σ β} {s : σ} (hw : Ends w)
    (hok : ∀ fault s', (w >>= after).exec s ≠ some (.error fault, s')) :
    ∃ a s₁, w.exec s = some (.ok a, s₁) ∧ (w >>= after).exec s = (after a).exec s₁ := by
  obtain ⟨⟨result, s₁⟩, h⟩ := hw s
  cases result with
  | ok a => exact ⟨a, s₁, h, by rw [exec_bind, h]; rfl⟩
  | error fault => exact absurd (by rw [exec_bind, h]; rfl) (hok fault s₁)

theorem Ends.forM {f : α → Routine σ PUnit} (hf : ∀ a, Ends (f a)) (xs : List α) :
    Ends (xs.forM f) := by
  induction xs with
  | nil => exact .pure _
  | cons x xs ih => exact (hf x).bind fun _ => ih

theorem Ends.tryCatch {w : Routine σ α} {rescue : Fault → Routine σ α} (hw : Ends w)
    (hr : ∀ fault, Ends (rescue fault)) : Ends (MonadExcept.tryCatch w rescue) := by
  intro s
  obtain ⟨⟨result, s₁⟩, h⟩ := hw s
  rw [exec_tryCatch, h]
  cases result with
  | ok a => exact ⟨_, rfl⟩
  | error fault => exact hr fault s₁

theorem Ends.forgiving {w : Routine σ α} (hw : Ends w) (spare : α) : Ends (forgiving spare w) := by
  refine hw.tryCatch fun fault => ?_
  split
  · exact .pure _
  · exact .throw _

theorem Ends.thenAlways {w after : Routine σ Unit} (hw : Ends w) (ha : Ends after) :
    Ends (thenAlways w after) :=
  (hw.tryCatch fun fault => ha.bind fun _ => .throw fault).bind fun _ => ha

/-- Rounds of a loop from its start on. -/
inductive Rounds (next : Routine σ (Option α)) (work : α → Routine σ β) :
    σ → List (α × β) → σ → Prop
  | start (s : σ) : Rounds next work s [] s
  | round {s s₁ s₂ s₃ : σ} {a : α} {b : β} {log : List (α × β)} :
    next.exec s = some (.ok (some a), s₁) → (work a).exec s₁ = some (.ok b, s₂) →
      Rounds next work s₂ log s₃ → Rounds next work s ((a, b) :: log) s₃

/-- What holds before the first round and is kept by every round holds after all rounds. -/
theorem Rounds.preserves {s s' : σ} {log : List (α × β)} (P : List (α × β) → σ → Prop)
    (h : Rounds next work s log s') (h0 : P [] s)
    (hs : ∀ log s₁ a s₂ b s₃, P log s₁ → next.exec s₁ = some (.ok (some a), s₂) →
      (work a).exec s₂ = some (.ok b, s₃) → P (log ++ [(a, b)]) s₃) : P log s' := by
  -- the rounds are listed from the first on, so the invariant is carried with those already done
  suffices hgo : ∀ done, P done s → P (done ++ log) s' by simpa using hgo [] h0
  clear h0
  induction h with
  | start s => intro done hd; simpa using hd
  | round hn hw _ ih =>
    intro done hd
    have := ih (done ++ [(_, _)]) (hs done _ _ _ _ _ hd hn hw)
    simpa using this

/-- What was gone through was so in a round of its own. -/
theorem Rounds.of_mem {s s' : σ} {log : List (α × β)} {a : α} {b : β}
    (h : Rounds next work s log s') (hmem : (a, b) ∈ log) :
    ∃ before s₁ s₂ s₃, Rounds next work s before s₁ ∧ next.exec s₁ = some (.ok (some a), s₂) ∧
      (work a).exec s₂ = some (.ok b, s₃) := by
  induction h with
  | start s => cases hmem
  | round hn hw _ ih =>
    rcases List.mem_cons.1 hmem with hsame | hmem
    · cases hsame
      exact ⟨[], _, _, _, .start _, hn, hw⟩
    · obtain ⟨before, s₁, s₂, s₃, hbefore, hn', hw'⟩ := ih hmem
      exact ⟨_, s₁, s₂, s₃, .round hn hw hbefore, hn', hw'⟩

/-- After the last round there are no more. -/
theorem Rounds.prefix_of_ended {s s₁ s₂ s' : σ} {log₁ log₂ : List (α × β)}
    (h₁ : Rounds next work s log₁ s₁) (he : next.exec s₁ = some (.ok none, s'))
    (h₂ : Rounds next work s log₂ s₂) : log₂ <+: log₁ := by
  induction h₁ generalizing log₂ with
  | start s =>
    cases h₂ with
    | start => exact List.nil_prefix
    | round hn' => rw [he] at hn'; cases hn'
  | round hn hw _ ih =>
    cases h₂ with
    | start => exact List.nil_prefix
    | round hn' hw' h' =>
      rw [hn] at hn'
      cases hn'
      rw [hw] at hw'
      cases hw'
      exact (List.prefix_cons_inj _).2 (ih he h')

theorem exec_drain_of_none {s s' : σ} (h : next.exec s = some (.ok none, s')) :
    (drain next work).exec s = some (.ok [], s') := by
  show drainFrom next work s = _
  rw [drainFrom, h]
  rfl

theorem exec_drain_of_fault {s s' : σ} {fault : Fault} (h : next.exec s = some (.error fault, s')) :
    (drain next work).exec s = some (.error fault, s') := by
  show drainFrom next work s = _
  rw [drainFrom, h]
  rfl

theorem exec_drain_of_work_fault {s s₁ s' : σ} {a : α} {fault : Fault}
    (hn : next.exec s = some (.ok (some a), s₁))
    (hw : (work a).exec s₁ = some (.error fault, s')) :
    (drain next work).exec s = some (.error fault, s') := by
  show drainFrom next work s = _
  rw [drainFrom, hn]
  show ((work a).exec s₁).bind _ = _
  rw [hw]
  rfl

theorem exec_drain_of_round {s s₁ s₂ : σ} {a : α} {b : β}
    (hn : next.exec s = some (.ok (some a), s₁)) (hw : (work a).exec s₁ = some (.ok b, s₂)) :
    (drain next work).exec s =
      ((drain next work).exec s₂).map fun ended => (ended.1.map ((a, b) :: ·), ended.2) := by
  show drainFrom next work s = (drainFrom next work s₂).map _
  rw [drainFrom, hn]
  show ((work a).exec s₁).bind _ = _
  rw [hw]
  show (drainFrom next work s₂).bind _ = _
  cases drainFrom next work s₂ <;> rfl

/-- How a loop ends in a state when the rounds of `log` are done: nothing comes next, or what comes
next is a fault, that of the next round included. -/
def IsEnd (next : Routine σ (Option α)) (work : α → Routine σ β) (log : List (α × β)) (s : σ) :
    Except Fault (List (α × β)) × σ → Prop
  | (.ok result, s') => result = log ∧ next.exec s = some (.ok none, s')
  | (.error fault, s') => next.exec s = some (.error fault, s') ∨
      ∃ a s₁, next.exec s = some (.ok (some a), s₁) ∧ (work a).exec s₁ = some (.error fault, s')

/-- The end of a loop comes after finitely many rounds. -/
theorem exists_rounds_isEnd {s : σ} {ended : Except Fault (List (α × β)) × σ}
    (h : (drain next work).exec s = some ended) :
    ∃ log s₁, Rounds next work s log s₁ ∧ IsEnd next work log s₁ ended := by
  refine drainFrom.partial_correctness next work
    (fun s ended => ∃ log s₁, Rounds next work s log s₁ ∧ IsEnd next work log s₁ ended)
    ?_ s _ h
  intro rec ih s ended he
  cases hn : next.exec s with
  | none => rw [hn] at he; cases he
  | some came =>
    obtain ⟨came, s₁⟩ := came
    rw [hn] at he
    rcases came with fault | _ | a
    · cases he
      exact ⟨[], s, .start s, Or.inl hn⟩
    · cases he
      exact ⟨[], s, .start s, rfl, hn⟩
    · change ((work a).exec s₁).bind _ = _ at he
      cases hw : (work a).exec s₁ with
      | none => rw [hw] at he; cases he
      | some made =>
        obtain ⟨made, s₂⟩ := made
        rw [hw] at he
        rcases made with fault | b
        · cases he
          exact ⟨[], s, .start s, Or.inr ⟨a, s₁, hn, hw⟩⟩
        · change (rec s₂).bind _ = _ at he
          cases hr : rec s₂ with
          | none => rw [hr] at he; cases he
          | some rest =>
            obtain ⟨rest, s₃⟩ := rest
            rw [hr] at he
            obtain ⟨log, s₄, hrounds, hend⟩ := ih s₂ _ hr
            refine ⟨(a, b) :: log, s₄, .round hn hw hrounds, ?_⟩
            rcases rest with fault | rest
            · cases he
              exact hend
            · cases he
              exact ⟨congrArg _ hend.1, hend.2⟩

/-- The result of a loop comes from finitely many rounds. -/
theorem exists_rounds_of_exec_drain {s s' : σ} {log : List (α × β)}
    (h : (drain next work).exec s = some (.ok log, s')) :
    ∃ s₁, Rounds next work s log s₁ ∧ next.exec s₁ = some (.ok none, s') := by
  obtain ⟨_, s₁, hrounds, rfl, hend⟩ := exists_rounds_isEnd h
  exact ⟨s₁, hrounds, hend⟩

/-- **A loop ends after the rounds after which nothing comes next.** -/
theorem exec_drain_eq_ok_iff {s s' : σ} {log : List (α × β)} :
    (drain next work).exec s = some (.ok log, s') ↔
      ∃ s₁, Rounds next work s log s₁ ∧ next.exec s₁ = some (.ok none, s') := by
  refine ⟨exists_rounds_of_exec_drain, ?_⟩
  rintro ⟨s₁, hrounds, hend⟩
  induction hrounds with
  | start s => exact exec_drain_of_none hend
  | round hn hw _ ih => rw [exec_drain_of_round hn hw, ih hend]; rfl

/-- **A loop ends with a fault after the rounds after which one comes.** -/
theorem exec_drain_eq_error_iff {s s' : σ} {fault : Fault} :
    (drain next work).exec s = some (.error fault, s') ↔
      ∃ log s₁, Rounds next work s log s₁ ∧ (next.exec s₁ = some (.error fault, s') ∨
        ∃ a s₂, next.exec s₁ = some (.ok (some a), s₂) ∧
          (work a).exec s₂ = some (.error fault, s')) := by
  refine ⟨exists_rounds_isEnd, ?_⟩
  rintro ⟨log, s₁, hrounds, hend⟩
  induction hrounds with
  | start s =>
    rcases hend with hn | ⟨a, s₂, hn, hw⟩
    · exact exec_drain_of_fault hn
    · exact exec_drain_of_work_fault hn hw
  | round hn hw _ ih => rw [exec_drain_of_round hn hw, ih hend]; rfl

/-- A loop whose rounds have an end fails or ends at once, or it goes through a round. -/
theorem exec_drain_cases (hnext : Ends next) (hwork : ∀ a, Ends (work a)) (s : σ) :
    (∃ fault s', (drain next work).exec s = some (.error fault, s')) ∨
    (∃ s', (drain next work).exec s = some (.ok [], s')) ∨
    ∃ a s₁ b s₂, next.exec s = some (.ok (some a), s₁) ∧ (work a).exec s₁ = some (.ok b, s₂) := by
  obtain ⟨⟨came, s₁⟩, hn⟩ := hnext s
  rcases came with fault | _ | a
  · exact Or.inl ⟨_, _, exec_drain_of_fault hn⟩
  · exact Or.inr (Or.inl ⟨_, exec_drain_of_none hn⟩)
  · obtain ⟨⟨made, s₂⟩, hw⟩ := hwork a s₁
    rcases made with fault | b
    · exact Or.inl ⟨_, _, exec_drain_of_work_fault hn hw⟩
    · exact Or.inr (Or.inr ⟨a, s₁, b, s₂, hn, hw⟩)

/-- **A loop ends if its rounds are bounded in number**, each round having an end. -/
theorem exists_exec_drain_of_length_lt (hnext : Ends next) (hwork : ∀ a, Ends (work a)) (bound : ℕ)
    {s : σ} (hbound : ∀ log s', Rounds next work s log s' → log.length < bound) :
    ∃ ended, (drain next work).exec s = some ended := by
  induction bound generalizing s with
  | zero => exact absurd (hbound [] s (.start s)) (Nat.not_lt_zero _)
  | succ bound ih =>
    rcases exec_drain_cases hnext hwork s with
      ⟨fault, s', hf⟩ | ⟨s', he⟩ | ⟨a, s₁, b, s₂, hn, hw⟩
    · exact ⟨_, hf⟩
    · exact ⟨_, he⟩
    · obtain ⟨ended, hended⟩ := ih (s := s₂)
        (fun log s' hl => Nat.lt_of_succ_lt_succ (hbound _ _ (.round hn hw hl)))
      exact ⟨_, by rw [exec_drain_of_round hn hw, hended]; rfl⟩

/-- A loop with a bounded number of rounds has a result if it does not fail. -/
theorem exists_exec_drain_of_bounded (hnext : Ends next) (hwork : ∀ a, Ends (work a)) (bound : ℕ)
    {s : σ}
    (hok : ∀ fault s', (drain next work).exec s ≠ some (.error fault, s'))
    (hbound : ∀ log s', Rounds next work s log s' → log.length < bound) :
    ∃ log s', (drain next work).exec s = some (.ok log, s') := by
  obtain ⟨⟨result, s'⟩, hended⟩ := exists_exec_drain_of_length_lt hnext hwork bound hbound
  cases result with
  | ok log => exact ⟨log, s', hended⟩
  | error fault => exact absurd hended (hok fault s')

end KeywordCatalog.Routine
