import KeywordCatalog.Table.Content
import Mathlib.Data.List.Nodup
import Mathlib.Data.List.Perm.Basic

/-!
# The order of the work queue

A queue is in order if no key stands in it twice and everything that waits stands before everything
that was taken or is done (`WorkQueue.InOrder`). Every operation keeps a queue in order; a mark as
done does so for an item that does not wait. In a queue that is in order, no item waits as soon as
the front item does not (`takeWaiting_none`), which is how a loop knows that it is through.

Each operation is described by what it does to the keys and to the waiting keys.
-/

namespace KeywordCatalog

namespace Ordered

variable {α β : Type} [BEq α] [LawfulBEq α]

theorem has_iff {key : α} {pairs : List (α × β)} :
    has key pairs = true ↔ key ∈ pairs.map Prod.fst := by
  simp only [has, List.any_eq_true, beq_iff_eq, List.mem_map]

/-- A put under a key that is there changes one pair and leaves it in its place. -/
theorem put_of_lookup {key : α} {v : β} {pairs : List (α × β)} (h : pairs.lookup key = some v) :
    ∃ l r, pairs = l ++ (key, v) :: r ∧ ∀ value, put key value pairs = l ++ (key, value) :: r := by
  induction pairs with
  | nil => cases h
  | cons pair rest ih =>
    obtain ⟨k, u⟩ := pair
    rw [List.lookup_cons] at h
    by_cases hk : key = k
    · subst hk
      simp only [beq_self_eq_true, Option.some.injEq] at h
      subst h
      exact ⟨[], rest, rfl, fun value => by simp [put]⟩
    · have hk' : (key == k) = false := by simpa using hk
      rw [hk'] at h
      obtain ⟨l, r, rfl, hput⟩ := ih h
      have hk'' : (k == key) = false := by simpa using fun e => hk e.symm
      exact ⟨(k, u) :: l, r, rfl, fun value => by simp [put, hk'', hput]⟩

theorem exists_lookup {key : α} {pairs : List (α × β)} (h : key ∈ pairs.map Prod.fst) :
    ∃ v, pairs.lookup key = some v := by
  rw [← has_iff] at h
  cases hl : pairs.lookup key with
  | some v => exact ⟨v, rfl⟩
  | none =>
    rw [List.lookup_eq_none_iff] at hl
    obtain ⟨p, hp, he⟩ := List.any_eq_true.1 h
    exact absurd (beq_iff_eq.1 he).symm (by simpa using hl p hp)

end Ordered

namespace WorkQueue

/-- The keys of the items, from the first to the last. -/
def keys (q : WorkQueue) : List Value := q.items.map Prod.fst

/-- The keys of the items that wait, from the first to the last. -/
def waiting (q : WorkQueue) : List Value :=
  (q.items.filter fun item => item.2.progress == .waiting).map Prod.fst

/-- No key stands in the queue twice, and what waits stands before all else. -/
structure InOrder (q : WorkQueue) : Prop where
  nodup : q.keys.Nodup
  waitingFirst : q.items.Pairwise fun a b => b.2.progress = .waiting → a.2.progress = .waiting

variable {q q' : WorkQueue} {key : Value}

theorem waiting_subset_keys (h : key ∈ q.waiting) : key ∈ q.keys := by
  obtain ⟨item, hitem, rfl⟩ := List.mem_map.1 h
  exact List.mem_map_of_mem (List.mem_of_mem_filter hitem)

theorem has_iff : q.has key = true ↔ key ∈ q.keys := Ordered.has_iff

@[simp] theorem keys_empty : empty.keys = [] := rfl

@[simp] theorem waiting_empty : empty.waiting = [] := rfl

theorem inOrder_empty : empty.InOrder := ⟨List.nodup_nil, List.Pairwise.nil⟩

/-! ### Asking for items -/

theorem add_eq (kind : ItemKind) (arguments : Value) : q.add key kind arguments =
    if key ∈ q.keys then q else ⟨(key, ⟨.waiting, kind, arguments⟩) :: q.items⟩ := by
  simp only [add, has_iff]

theorem keys_add (kind : ItemKind) (arguments : Value) :
    (q.add key kind arguments).keys = if key ∈ q.keys then q.keys else key :: q.keys := by
  rw [add_eq, apply_ite keys]
  rfl

theorem waiting_add (kind : ItemKind) (arguments : Value) :
    (q.add key kind arguments).waiting = if key ∈ q.keys then q.waiting else key :: q.waiting := by
  rw [add_eq, apply_ite waiting]
  rfl

theorem InOrder.add (h : q.InOrder) (key : Value) (kind : ItemKind) (arguments : Value) :
    (q.add key kind arguments).InOrder := by
  constructor
  · rw [keys_add]
    split
    · exact h.nodup
    · exact List.nodup_cons.2 ⟨‹_›, h.nodup⟩
  · unfold WorkQueue.add
    split
    · exact h.waitingFirst
    · exact List.pairwise_cons.2 ⟨fun _ _ _ => rfl, h.waitingFirst⟩

theorem addAll_append (q : WorkQueue) (r₁ r₂ : List Request) :
    q.addAll (r₁ ++ r₂) = (q.addAll r₁).addAll r₂ := List.foldl_append

theorem mem_keys_addAll {requests : List Request} :
    key ∈ (q.addAll requests).keys ↔ key ∈ q.keys ∨ key ∈ requests.map Request.key := by
  induction requests generalizing q with
  | nil => simp [addAll]
  | cons r rest ih =>
    have hstep : q.addAll (r :: rest) = (q.add r.key r.kind r.arguments).addAll rest := rfl
    rw [hstep, ih, keys_add, List.map_cons, List.mem_cons]
    by_cases h : r.key ∈ q.keys
    · rw [if_pos h]
      constructor
      · rintro (hq | hr)
        · exact Or.inl hq
        · exact Or.inr (Or.inr hr)
      · rintro (hq | rfl | hr)
        · exact Or.inl hq
        · exact Or.inl h
        · exact Or.inr hr
    · rw [if_neg h, List.mem_cons]
      tauto

theorem mem_waiting_addAll {requests : List Request} :
    key ∈ (q.addAll requests).waiting ↔
      key ∈ q.waiting ∨ key ∉ q.keys ∧ key ∈ requests.map Request.key := by
  induction requests generalizing q with
  | nil => simp [addAll]
  | cons r rest ih =>
    have hstep : q.addAll (r :: rest) = (q.add r.key r.kind r.arguments).addAll rest := rfl
    rw [hstep, ih, keys_add, waiting_add, List.map_cons, List.mem_cons]
    by_cases h : r.key ∈ q.keys
    · rw [if_pos h, if_pos h]
      have : key = r.key → key ∈ q.keys := fun e => e ▸ h
      tauto
    · rw [if_neg h, if_neg h, List.mem_cons, List.mem_cons]
      have : key = r.key → key ∉ q.keys := fun e => e ▸ h
      tauto

theorem InOrder.addAll (h : q.InOrder) (requests : List Request) :
    (q.addAll requests).InOrder := by
  induction requests generalizing q with
  | nil => exact h
  | cons r rest ih => exact ih (h.add r.key r.kind r.arguments)

/-! ### Taking items -/

/-- What a queue looks like from which an item was taken. -/
theorem takeWaiting_some {item : Value × Work} (h : q.takeWaiting = (some item, q')) :
    ∃ rest, q.items = item :: rest ∧ item.2.progress = .waiting ∧
      q'.items = rest ++ [(item.1, { item.2 with progress := .taken })] := by
  unfold takeWaiting take at h
  cases hi : q.items with
  | nil => simp [hi] at h
  | cons front rest =>
    obtain ⟨k, w⟩ := front
    simp only [hi, Prod.mk.injEq, Option.ite_none_right_eq_some, beq_iff_eq,
      Option.some.injEq] at h
    obtain ⟨⟨hw, rfl⟩, rfl⟩ := h
    exact ⟨rest, rfl, hw, rfl⟩

/-- What a queue looks like from which no item could be taken. -/
theorem takeWaiting_none (h : q.takeWaiting = (none, q')) :
    q.items = [] ∧ q' = q ∨ ∃ front rest, q.items = front :: rest ∧
      front.2.progress ≠ .waiting ∧
      q'.items = rest ++ [(front.1, { front.2 with progress := .taken })] := by
  unfold takeWaiting take at h
  cases hi : q.items with
  | nil =>
    simp only [hi, Prod.mk.injEq, true_and] at h
    exact Or.inl ⟨rfl, h.symm⟩
  | cons front rest =>
    obtain ⟨k, w⟩ := front
    simp only [hi, Prod.mk.injEq, ite_eq_right_iff, beq_iff_eq, reduceCtorEq, imp_false] at h
    obtain ⟨hw, rfl⟩ := h
    exact Or.inr ⟨(k, w), rest, rfl, hw, rfl⟩

section Taken

variable {item : Value × Work}

theorem keys_perm_of_take (h : q.takeWaiting = (some item, q')) : q'.keys.Perm q.keys := by
  obtain ⟨rest, hq, -, hq'⟩ := takeWaiting_some h
  simp only [keys, hq, hq', List.map_append, List.map_cons, List.map_nil]
  exact List.perm_append_singleton _ _

theorem waiting_of_take (h : q.takeWaiting = (some item, q')) :
    q.waiting = item.1 :: q'.waiting := by
  obtain ⟨rest, hq, hw, hq'⟩ := takeWaiting_some h
  simp [waiting, hq, hq', hw]

theorem mem_keys_of_take (h : q.takeWaiting = (some item, q')) : item.1 ∈ q'.keys := by
  refine (keys_perm_of_take h).mem_iff.2 (waiting_subset_keys ?_)
  rw [waiting_of_take h]
  exact List.mem_cons_self

theorem InOrder.of_take (hq : q.InOrder) (h : q.takeWaiting = (some item, q')) : q'.InOrder := by
  refine ⟨(keys_perm_of_take h).nodup_iff.2 hq.nodup, ?_⟩
  obtain ⟨rest, he, -, he'⟩ := takeWaiting_some h
  have hrest := hq.waitingFirst
  rw [he, List.pairwise_cons] at hrest
  rw [he']
  refine List.pairwise_append.2 ⟨hrest.2, List.pairwise_singleton _ _, ?_⟩
  intro a _ b hb hwaits
  rw [List.mem_singleton] at hb
  subst hb
  cases hwaits

theorem not_mem_waiting_of_take (hq : q.InOrder) (h : q.takeWaiting = (some item, q')) :
    item.1 ∉ q'.waiting := by
  have hsub : q.waiting.Sublist q.keys := (List.filter_sublist).map _
  have hnodup := hsub.nodup hq.nodup
  rw [waiting_of_take h] at hnodup
  exact (List.nodup_cons.1 hnodup).1

end Taken

/-- If no item could be taken, none waits. -/
theorem InOrder.waiting_eq_nil (hq : q.InOrder) (h : q.takeWaiting = (none, q')) :
    q.waiting = [] := by
  rcases takeWaiting_none h with ⟨hi, -⟩ | ⟨front, rest, hi, hw, -⟩
  · simp [waiting, hi]
  · have hfirst := hq.waitingFirst
    rw [hi, List.pairwise_cons] at hfirst
    simp only [waiting, List.map_eq_nil_iff, List.filter_eq_nil_iff, beq_iff_eq, hi]
    intro item hitem hwaits
    rcases List.mem_cons.1 hitem with rfl | hrest
    · exact hw hwaits
    · exact hw (hfirst.1 item hrest hwaits)

theorem keys_perm_of_take_none (h : q.takeWaiting = (none, q')) : q'.keys.Perm q.keys := by
  rcases takeWaiting_none h with ⟨-, rfl⟩ | ⟨front, rest, hq, -, hq'⟩
  · exact List.Perm.refl _
  · simp only [keys, hq, hq', List.map_append, List.map_cons, List.map_nil]
    exact List.perm_append_singleton _ _

/-! ### Marking items as done -/

theorem finish_eq_ok (h : q.finish key = .ok q') :
    ∃ l work r, q.items = l ++ (key, work) :: r ∧
      q'.items = l ++ (key, { work with progress := .done }) :: r := by
  unfold finish at h
  cases hl : q.items.lookup key with
  | none => rw [hl] at h; cases h
  | some work =>
    rw [hl] at h
    cases h
    obtain ⟨l, r, hq, hput⟩ := Ordered.put_of_lookup hl
    exact ⟨l, work, r, hq, hput _⟩

/-- A mark on an item that is not there is no fault of the data. -/
theorem isData_of_finish {fault : Fault} (h : q.finish key = .error fault) :
    fault.isData = false := by
  unfold finish at h
  cases hl : q.items.lookup key <;> rw [hl] at h <;> cases h
  rfl

theorem exists_finish (h : key ∈ q.keys) : ∃ q', q.finish key = .ok q' := by
  obtain ⟨work, hl⟩ := Ordered.exists_lookup h
  exact ⟨_, by simp only [finish, hl]; rfl⟩

theorem keys_of_finish (h : q.finish key = .ok q') : q'.keys = q.keys := by
  obtain ⟨l, work, r, hq, hq'⟩ := finish_eq_ok h
  simp [keys, hq, hq']

theorem waiting_of_finish (h : q.finish key = .ok q') (hk : key ∉ q.waiting) :
    q'.waiting = q.waiting := by
  obtain ⟨l, work, r, hq, hq'⟩ := finish_eq_ok h
  have hw : work.progress ≠ .waiting := by
    intro hw
    exact hk (by simp [waiting, hq, hw])
  simp [waiting, hq, hq', hw]

theorem InOrder.of_finish (hq : q.InOrder) (h : q.finish key = .ok q') (hk : key ∉ q.waiting) :
    q'.InOrder := by
  refine ⟨by rw [keys_of_finish h]; exact hq.nodup, ?_⟩
  obtain ⟨l, work, r, he, he'⟩ := finish_eq_ok h
  have hw : work.progress ≠ .waiting := by
    intro hw
    exact hk (by simp [waiting, he, hw])
  have hfirst := hq.waitingFirst
  rw [he, List.pairwise_append, List.pairwise_cons] at hfirst
  obtain ⟨hl, ⟨hkey, hr⟩, hcross⟩ := hfirst
  rw [he', List.pairwise_append, List.pairwise_cons]
  refine ⟨hl, ⟨fun b hb hwaits => absurd (hkey b hb hwaits) hw, hr⟩, ?_⟩
  intro a ha b hb hwaits
  rcases List.mem_cons.1 hb with rfl | hb
  · cases hwaits
  · exact hcross a ha b (List.mem_cons_of_mem _ hb) hwaits

/-! ### The kind of an item -/

/-- Whether what the queue knows under a key is of a kind. -/
def OfKind (q : WorkQueue) (key : Value) (kind : ItemKind) : Prop :=
  ∀ work, (key, work) ∈ q.items → work.kind = kind

/-- An item that is in the queue keeps its kind, whatever is asked for. -/
theorem OfKind.addAll {kind : ItemKind} {requests : List Request} (h : q.OfKind key kind)
    (hnew : key ∈ q.keys ∨ ∀ r ∈ requests, r.key = key → r.kind = kind) :
    (q.addAll requests).OfKind key kind := by
  induction requests generalizing q with
  | nil => exact h
  | cons r rest ih =>
    refine ih (q := q.add r.key r.kind r.arguments) (fun work hwork => ?_) ?_
    · unfold WorkQueue.add at hwork
      split at hwork
      · exact h work hwork
      · rename_i hhas
        rcases List.mem_cons.1 hwork with hsame | hwork
        · cases hsame
          exact (hnew.resolve_left fun hkey => hhas (has_iff.2 hkey)) r List.mem_cons_self rfl
        · exact h work hwork
    · refine hnew.imp (fun hkey => ?_) fun hkind r' hr' => hkind r' (List.mem_cons_of_mem _ hr')
      rw [keys_add]
      split
      · exact hkey
      · exact List.mem_cons_of_mem _ hkey

theorem OfKind.of_take {item : Value × Work} {kind : ItemKind} (h : q.OfKind key kind)
    (ht : q.takeWaiting = (some item, q')) : q'.OfKind key kind := by
  obtain ⟨rest, hq, -, hq'⟩ := takeWaiting_some ht
  intro work hwork
  rw [hq', List.mem_append, List.mem_singleton] at hwork
  rcases hwork with hwork | hsame
  · exact h work (by rw [hq]; exact List.mem_cons_of_mem _ hwork)
  · cases hsame
    exact h item.2 (by rw [hq]; exact List.mem_cons_self)

theorem OfKind.of_finish {other : Value} {kind : ItemKind} (h : q.OfKind key kind)
    (hf : q.finish other = .ok q') : q'.OfKind key kind := by
  obtain ⟨l, work, r, hq, hq'⟩ := finish_eq_ok hf
  intro work' hwork
  rw [hq', List.mem_append, List.mem_cons] at hwork
  rcases hwork with hwork | hsame | hwork
  · exact h work' (by rw [hq]; exact List.mem_append_left _ hwork)
  · cases hsame
    exact h work (by simp [hq])
  · exact h work' (by simp [hq, hwork])

/-! ### Between rounds -/

/-- Whatever was taken and is not done has a key with a property. -/
def TakenOnly (q : WorkQueue) (P : Value → Prop) : Prop :=
  ∀ item ∈ q.items, item.2.progress = .taken → P item.1

/-- Every item waits or is done. -/
def Settled (q : WorkQueue) : Prop := q.TakenOnly fun _ => False

theorem settled_empty : empty.Settled := fun _ hitem => nomatch hitem

theorem TakenOnly.addAll {P : Value → Prop} (h : q.TakenOnly P) (requests : List Request) :
    (q.addAll requests).TakenOnly P := by
  induction requests generalizing q with
  | nil => exact h
  | cons r rest ih =>
    refine ih ?_
    beta_reduce
    unfold WorkQueue.add
    split
    · exact h
    · intro item hitem htaken
      rcases List.mem_cons.1 hitem with rfl | hitem
      · cases htaken
      · exact h item hitem htaken

theorem Settled.of_take {item : Value × Work} (h : q.Settled)
    (ht : q.takeWaiting = (some item, q')) : q'.TakenOnly (· = item.1) := by
  obtain ⟨rest, hq, -, hq'⟩ := takeWaiting_some ht
  intro other hother htaken
  rw [hq', List.mem_append, List.mem_singleton] at hother
  rcases hother with hother | rfl
  · exact (h other (by rw [hq]; exact List.mem_cons_of_mem _ hother) htaken).elim
  · rfl

/-- The mark as done settles a queue in which nothing else was taken. -/
theorem TakenOnly.settled (h : q.TakenOnly (· = key)) (hn : q.keys.Nodup)
    (hf : q.finish key = .ok q') : q'.Settled := by
  obtain ⟨l, work, r, hq, hq'⟩ := finish_eq_ok hf
  rw [keys, hq, List.map_append, List.map_cons, List.nodup_append, List.nodup_cons] at hn
  obtain ⟨-, ⟨hr, -⟩, hl⟩ := hn
  intro item hitem htaken
  rw [hq', List.mem_append, List.mem_cons] at hitem
  rcases hitem with hitem | rfl | hitem
  · have hkey := h item (by rw [hq]; exact List.mem_append_left _ hitem) htaken
    exact hl item.1 (List.mem_map_of_mem hitem) key List.mem_cons_self hkey
  · cases htaken
  · have hkey : item.1 = key := h item (by simp [hq, hitem]) htaken
    have hmem : item.1 ∈ r.map Prod.fst := List.mem_map_of_mem hitem
    rw [hkey] at hmem
    exact hr hmem

/-- When no item can be taken from a settled queue, all are done but the one that was moved to the
back. -/
theorem Settled.of_take_none (h : q.Settled) (ho : q.InOrder) (hne : q.items ≠ [])
    (ht : q.takeWaiting = (none, q')) :
    ∃ items last, q'.items = items ++ [last] ∧ (∀ item ∈ items, item.2.progress = .done) ∧
      last.2.progress = .taken := by
  have hwaiting := ho.waiting_eq_nil ht
  rcases takeWaiting_none ht with ⟨hnil, -⟩ | ⟨front, rest, hq, -, hq'⟩
  · exact absurd hnil hne
  · refine ⟨rest, _, hq', fun item hitem => ?_, rfl⟩
    have hitem : item ∈ q.items := by rw [hq]; exact List.mem_cons_of_mem _ hitem
    cases hp : item.2.progress with
    | waiting =>
      have hwaits : item.1 ∈ q.waiting :=
        List.mem_map_of_mem (List.mem_filter.2 ⟨hitem, by rw [hp]; rfl⟩)
      rw [hwaiting] at hwaits
      cases hwaits
    | taken => exact (h item hitem hp).elim
    | done => rfl

end WorkQueue

end KeywordCatalog
