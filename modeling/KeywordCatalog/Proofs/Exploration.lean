import KeywordCatalog.Proofs.Queue

/-!
# Exploring by a work queue

Whoever takes item after item from a queue and asks for further items on the way sees everything
that can be reached from the first items, and sees it once. `Reached root leads` is what can be
reached; `Explored roots log q` is the invariant of the exploration: `q` holds the roots and what
was asked for in `log`, and the items of `q` that do not wait are those that `log` has gone through.

A round keeps the invariant (`Explored.visit`); when nothing waits any more, exactly the reachable
items were gone through (`Explored.mem_visited_iff`).
-/

namespace KeywordCatalog

/-- What can be reached from roots. -/
inductive Reached {α : Type} (root : α → Prop) (leads : α → α → Prop) : α → Prop
  | root {a : α} : root a → Reached root leads a
  | lead {a b : α} : Reached root leads a → leads a b → Reached root leads b

theorem Reached.mono {α : Type} {root root' : α → Prop} {leads leads' : α → α → Prop}
    (hroot : ∀ a, root a → root' a) (hleads : ∀ a b, leads a b → leads' a b) {a : α}
    (h : Reached root leads a) : Reached root' leads' a := by
  induction h with
  | root hr => exact .root (hroot _ hr)
  | lead _ hl ih => exact .lead ih (hleads _ _ hl)

/-- What can be reached from images of roots by images of leads. -/
theorem Reached.map_iff {α β : Type} {root : α → Prop} {leads : α → α → Prop} {f : α → β}
    (hf : Function.Injective f) {a : α} :
    Reached (fun b => ∃ a, root a ∧ f a = b) (fun b b' => ∃ a a', leads a a' ∧ f a = b ∧ f a' = b')
      (f a) ↔ Reached root leads a := by
  constructor
  · intro h
    generalize hb : f a = b at h
    induction h generalizing a with
    | root hr =>
      obtain ⟨a', hr, rfl⟩ := hr
      exact .root (hf hb ▸ hr)
    | lead _ hl ih =>
      obtain ⟨a₁, a₂, hl, rfl, rfl⟩ := hl
      exact .lead (ih rfl) (hf hb ▸ hl)
  · intro h
    induction h with
    | root hr => exact .root ⟨_, hr, rfl⟩
    | lead _ hl ih => exact .lead ih ⟨_, _, hl, rfl, rfl⟩

/-- Whether a key was asked for when another one was gone through. -/
def AskedIn (log : List (Value × List Value)) (key other : Value) : Prop :=
  ∃ asked, (key, asked) ∈ log ∧ other ∈ asked

namespace WorkQueue

/-- A queue in order that differs from another one by waiting items. -/
structure GrownBy (asked : List Value) (q q' : WorkQueue) : Prop where
  inOrder : q'.InOrder
  keys : ∀ key, key ∈ q'.keys ↔ key ∈ q.keys ∨ key ∈ asked
  waiting : ∀ key, key ∈ q'.waiting ↔ key ∈ q.waiting ∨ key ∉ q.keys ∧ key ∈ asked

variable {q q₁ q₂ q' : WorkQueue} {asked : List Value}

theorem GrownBy.refl (h : q.InOrder) : GrownBy [] q q := ⟨h, by simp, by simp⟩

theorem InOrder.grownBy_addAll (h : q.InOrder) (requests : List Request) :
    GrownBy (requests.map Request.key) q (q.addAll requests) :=
  ⟨h.addAll requests, fun _ => mem_keys_addAll, fun _ => mem_waiting_addAll⟩

/-- A mark on an item that did not wait before does not count. -/
theorem GrownBy.finish {key : Value} (h : GrownBy asked q q₁) (hf : q₁.finish key = .ok q₂)
    (hk : key ∈ q.keys) (hw : key ∉ q.waiting) : GrownBy asked q q₂ := by
  have hw₁ : key ∉ q₁.waiting := by
    rw [h.waiting]
    rintro (hwaits | ⟨hnew, -⟩)
    · exact hw hwaits
    · exact hnew hk
  exact ⟨h.inOrder.of_finish hf hw₁, by rw [keys_of_finish hf]; exact h.keys,
    by rw [waiting_of_finish hf hw₁]; exact h.waiting⟩

/-- The invariant of an exploration. -/
structure Explored (roots : List Value) (log : List (Value × List Value)) (q : WorkQueue) :
    Prop where
  inOrder : q.InOrder
  known : ∀ key, key ∈ q.keys ↔ key ∈ roots ∨ ∃ visit ∈ log, key ∈ visit.2
  reached : ∀ key ∈ q.keys, Reached (· ∈ roots) (AskedIn log) key
  visited : ∀ key, key ∈ log.map Prod.fst ↔ key ∈ q.keys ∧ key ∉ q.waiting
  nodup : (log.map Prod.fst).Nodup

variable {roots : List Value} {log : List (Value × List Value)}

/-- The invariant holds before the first item is taken. -/
theorem explored_start (requests : List Request) :
    Explored (requests.map Request.key) [] (empty.addAll requests) := by
  have hgrown := inOrder_empty.grownBy_addAll requests
  have hkeys (key : Value) : key ∈ (empty.addAll requests).keys ↔ key ∈ requests.map Request.key := by
    simpa using hgrown.keys key
  refine ⟨hgrown.inOrder, by simpa using hkeys, fun key hk => .root ((hkeys key).1 hk), ?_,
    List.nodup_nil⟩
  intro key
  have hwaiting := hgrown.waiting key
  rw [hkeys]
  simp only [keys_empty, waiting_empty, List.not_mem_nil, not_false_eq_true, true_and,
    false_or] at hwaiting
  simp [hwaiting]

/-- A round takes an item and lets the queue grow by what it asks for. -/
theorem Explored.visit {item : Value × Work} (h : Explored roots log q)
    (ht : q.takeWaiting = (some item, q₁)) (hg : GrownBy asked q₁ q₂) :
    Explored roots (log ++ [(item.1, asked)]) q₂ := by
  have hperm : ∀ key, key ∈ q₁.keys ↔ key ∈ q.keys := fun key => (keys_perm_of_take ht).mem_iff
  have hwait : q.waiting = item.1 :: q₁.waiting := waiting_of_take ht
  have hitem : item.1 ∈ q.waiting := by rw [hwait]; exact List.mem_cons_self
  have hmono : ∀ key, Reached (· ∈ roots) (AskedIn log) key →
      Reached (· ∈ roots) (AskedIn (log ++ [(item.1, asked)])) key := fun key =>
    Reached.mono (fun _ hr => hr) fun _ _ ⟨names, hn, hm⟩ =>
      ⟨names, List.mem_append_left _ hn, hm⟩
  refine ⟨hg.inOrder, ?_, ?_, ?_, ?_⟩
  · intro key
    rw [hg.keys, hperm, h.known]
    simp [or_assoc, or_and_right, exists_or]
  · intro key hk
    rw [hg.keys, hperm] at hk
    rcases hk with hk | hk
    · exact hmono key (h.reached key hk)
    · exact .lead (hmono item.1 (h.reached _ (waiting_subset_keys hitem)))
        ⟨asked, List.mem_append_right _ (List.mem_singleton.2 rfl), hk⟩
  · intro key
    rw [hg.keys, hg.waiting, hperm, List.map_append, List.mem_append, h.visited, hwait]
    simp only [List.map_cons, List.map_nil, List.mem_cons]
    by_cases hkey : key = item.1
    · subst hkey
      have hnot := not_mem_waiting_of_take h.inOrder ht
      have hin := waiting_subset_keys hitem
      tauto
    · tauto
  · rw [List.map_append, List.nodup_append]
    refine ⟨h.nodup, List.nodup_singleton _, ?_⟩
    intro a ha b hb hab
    rw [List.map_cons, List.map_nil, List.mem_singleton] at hb
    subst hb hab
    exact ((h.visited _).1 ha).2 hitem

/-- When nothing waits, everything that the queue knows was gone through. -/
theorem Explored.mem_visited (h : Explored roots log q) (hw : q.waiting = []) (key : Value) :
    key ∈ log.map Prod.fst ↔ key ∈ q.keys := by
  rw [h.visited, hw]
  simp

/-- **When nothing waits, exactly what can be reached was gone through.** -/
theorem Explored.mem_visited_iff (h : Explored roots log q) (leads : Value → Value → Prop)
    (hw : q.waiting = []) (hleads : ∀ visit ∈ log, ∀ key, key ∈ visit.2 ↔ leads visit.1 key)
    (key : Value) : key ∈ log.map Prod.fst ↔ Reached (· ∈ roots) leads key := by
  constructor
  · intro hk
    refine (h.reached key ((h.mem_visited hw key).1 hk)).mono (fun _ hr => hr) ?_
    rintro a b ⟨asked, hvisit, hb⟩
    exact (hleads _ hvisit b).1 hb
  · intro hr
    induction hr with
    | root hr => exact (h.mem_visited hw _).2 ((h.known _).2 (Or.inl hr))
    | @lead a b _ hl ih =>
      obtain ⟨visit, hvisit, rfl⟩ := List.mem_map.1 ih
      exact (h.mem_visited hw _).2 ((h.known _).2 (Or.inr ⟨visit, hvisit, (hleads _ hvisit b).2 hl⟩))

/-- What was gone through is what can be reached by what was asked for on the way. -/
theorem Explored.mem_visited_iff_asked (h : Explored roots log q) (hw : q.waiting = [])
    (key : Value) : key ∈ log.map Prod.fst ↔ Reached (· ∈ roots) (AskedIn log) key := by
  refine h.mem_visited_iff (AskedIn log) hw (fun visit hvisit other => ?_) key
  refine ⟨fun hb => ⟨visit.2, hvisit, hb⟩, ?_⟩
  rintro ⟨asked, hasked, hb⟩
  have hsame : (visit.1, asked) = visit := List.inj_on_of_nodup_map h.nodup hasked hvisit rfl
  rwa [← hsame]

end WorkQueue

end KeywordCatalog
