import KeywordCatalog.Proofs.Outcome
import KeywordCatalog.Proofs.Queue
import KeywordCatalog.Routine

/-!
# Histories of a work queue

A work queue is used by five calls: an item is asked for, the front item is taken, an item is
marked as done, an item is put at the back as done, or everything is cleared. A history
(`WorkQueue.history`) is any sequence of calls on a new queue in which no item that waits is marked
as done in its place.

What one call can do is said once (`WorkQueue.Effect`, `WorkQueue.effect_of_perform`). From it one
invariant follows (`WorkQueue.Kept`), and from the invariant what a history guarantees: the keys are
apart, what waits stands before all else, the item that is taken is the one that was asked for last,
nothing is handed out twice before the queue is cleared, and a call that is refused changes nothing.

Keys are compared as documents are: a truth value is the key that its number is. Two documents are
one key if they have the same slot (`Value.slot`).
-/

namespace KeywordCatalog

namespace Value

variable {a b c : Value}

/-- Whether a document can be the key of an item. -/
def CanKey : Value → Prop
  | .list _ | .object _ => False
  | _ => True

instance : DecidablePred CanKey
  | .list _ | .object _ => .isFalse id
  | .null | .bool _ | .int _ | .real _ | .text _ => .isTrue trivial

/-- What a document is as a key: a truth value is its number. -/
def slot : Value → Value
  | .bool b => .int (ofTruth b)
  | v => v

/-- Two keys are equal if they have the same slot. -/
theorem same_iff_slot (ha : a.CanKey) (hb : b.CanKey) : a.same b = true ↔ a.slot = b.slot := by
  cases a <;> cases b
  case bool.bool x y => cases x <;> cases y <;> decide
  all_goals simp_all [same, slot, CanKey]

theorem CanKey.same_self (h : a.CanKey) : a.same a = true := (same_iff_slot h h).2 rfl

end Value

namespace WorkQueue

variable {q q' : WorkQueue} {key v : Value} {fault : Fault}

/-! ### Calls -/

/-- A call on a queue. -/
inductive Call
  | add (key kind arguments : Value)
  | take
  | finish (key : Value)
  | force (key : Value)
  | clear
deriving DecidableEq

/-- What a call gives back: an item if one was taken. -/
abbrev Answer := Except Fault (Option (Value × Work))

/-- Puts another queue in the place of this one, unless that fails. -/
def change (f : WorkQueue → Except Fault WorkQueue) : Routine WorkQueue (Option (Value × Work)) := do
  set (← f (← get))
  return none

/-- Makes a call on the queue. -/
def Call.perform : Call → Routine WorkQueue (Option (Value × Work))
  | .add key kind arguments => change fun q => q.addNamed key kind arguments
  | .take => do
    let (item, q) := (← get).take
    set q
    return item
  | .finish key => change fun q => q.finishNamed key
  | .force key => change fun q => q.forceNamed key
  | .clear => change fun _ => .ok empty

/-- Whether a call may be made: an item that waits is not marked as done in its place. -/
def Call.Allowed (q : WorkQueue) : Call → Prop
  | .finish key => ∀ item ∈ q.items, item.1.same key = true → item.2.progress ≠ .waiting
  | _ => True

instance (q : WorkQueue) : DecidablePred (Call.Allowed q)
  | .finish key =>
    List.decidableBAll
      (fun item : Value × Work => item.1.same key = true → item.2.progress ≠ .waiting) q.items
  | .add .. | .take | .force _ | .clear => .isTrue trivial

/-- When a call is refused, and with which fault. -/
inductive Refuses (q : WorkQueue) : Call → Fault → Prop
  | kind {key kind arguments : Value} (h : ItemKind.ofValue? kind = none) :
    Refuses q (.add key kind arguments) (.refused (.queueType kind.shown))
  | addKey {key kind arguments : Value} (h : ItemKind.ofValue? kind ≠ none) (hkey : ¬key.CanKey) :
    Refuses q (.add key kind arguments) .wrongKind
  | finishKey {key : Value} (hkey : ¬key.CanKey) : Refuses q (.finish key) .wrongKind
  | absent {key : Value} (hkey : key.CanKey) (h : ∀ item ∈ q.items, item.1.same key = false) :
    Refuses q (.finish key) (.missingKey key)
  | forceKey {key : Value} (hkey : ¬key.CanKey) : Refuses q (.force key) .wrongKind

/-- The queue with its front item moved to the back and marked as taken. -/
def rotated (item : Value × Work) (rest : List (Value × Work)) : WorkQueue :=
  ⟨rest ++ [(item.1, { item.2 with progress := .taken })]⟩

/-- The queue with an item at the back that is done, in place of whatever had its key. -/
def forcedTo (q : WorkQueue) (key : Value) : WorkQueue :=
  ⟨(q.items.filter fun item => !item.1.same key) ++ [(key, ⟨.done, .unknown, .null⟩)]⟩

/-- What a call does: the answer to it and the queue after it. -/
inductive Effect (q : WorkQueue) : Call → Answer → WorkQueue → Prop
  | refused {call : Call} {fault : Fault} (h : Refuses q call fault) : Effect q call (.error fault) q
  | known {key kind arguments : Value} {item : Value × Work} (hitem : item ∈ q.items)
    (hsame : item.1.same key = true) : Effect q (.add key kind arguments) (.ok none) q
  | added {key kind arguments : Value} (what : ItemKind) (hkey : key.CanKey)
    (hnew : ∀ item ∈ q.items, item.1.same key = false) :
    Effect q (.add key kind arguments) (.ok none) (q.add key what arguments)
  | took {item : Value × Work} {rest : List (Value × Work)} (hitems : q.items = item :: rest) :
    Effect q .take (.ok (some item)) (rotated item rest)
  | nothing (hitems : q.items = []) : Effect q .take (.ok none) q
  | finished {key known : Value} {q' : WorkQueue} (hsame : known.same key = true)
    (h : q.finish known = .ok q') : Effect q (.finish key) (.ok none) q'
  | forced {key : Value} (hkey : key.CanKey) :
    Effect q (.force key) (.ok none) (q.forcedTo key)
  | cleared : Effect q .clear (.ok none) empty

/-- No two items have one key, and no item has a key that cannot be one. -/
structure Apart (q : WorkQueue) : Prop where
  canKey : ∀ key ∈ q.keys, key.CanKey
  nodup : (q.keys.map Value.slot).Nodup

theorem exec_change (f : WorkQueue → Except Fault WorkQueue) (q : WorkQueue) :
    (change f).exec q =
      match f q with
      | .ok q' => some (.ok none, q')
      | .error fault => some (.error fault, q) := by
  rw [change, Routine.exec_bind, Routine.exec_get, Option.bind_some]
  dsimp only
  rw [Routine.exec_lift_bind]
  cases f q <;> rfl

theorem exec_take (q : WorkQueue) : Call.take.perform.exec q = some (.ok q.take.1, q.take.2) := rfl

/-- The key that a document names is an equal one of the queue, or the document itself if there is
none. -/
theorem keyOf_of_canKey (hv : v.CanKey) :
    (∃ item ∈ q.items, item.1.same v = true ∧ q.keyOf v = .ok item.1) ∨
      (∀ item ∈ q.items, item.1.same v = false) ∧ q.keyOf v = .ok v := by
  have hkeyOf : q.keyOf v =
      .ok (((q.items.find? fun item => item.1.same v).map Prod.fst).getD v) := by
    cases v with
    | list | object => exact hv.elim
    | _ => rfl
  cases hfind : q.items.find? fun item => item.1.same v with
  | some item =>
    refine .inl ⟨item, List.mem_of_find?_eq_some hfind, ?_, ?_⟩
    · simpa using List.find?_some hfind
    · rw [hkeyOf, hfind]
      rfl
  | none =>
    refine .inr ⟨fun item hitem => ?_, ?_⟩
    · simpa using List.find?_eq_none.1 hfind item hitem
    · rw [hkeyOf, hfind]
      rfl

theorem keyOf_of_not_canKey (hv : ¬v.CanKey) : q.keyOf v = .error .wrongKind := by
  cases v with
  | list | object => rfl
  | _ => exact absurd trivial hv

theorem notMem_keys_of_new (hv : v.CanKey) (hnew : ∀ item ∈ q.items, item.1.same v = false) :
    v ∉ q.keys := by
  intro hmem
  obtain ⟨item, hitem, rfl⟩ := List.mem_map.1 hmem
  exact absurd hv.same_self (by simp [hnew item hitem])

/-- In a queue whose keys are apart, the items that are left without a key are those with other
keys. -/
theorem Apart.remove_keyOf (hq : q.Apart) (hv : v.CanKey) (h : q.keyOf v = .ok key) :
    Ordered.remove v (Ordered.remove key q.items) =
      q.items.filter fun item => !item.1.same v := by
  unfold Ordered.remove
  rw [List.filter_filter]
  refine List.filter_congr fun item hitem => ?_
  have hmem : item.1 ∈ q.keys := List.mem_map_of_mem hitem
  have hitemKey := hq.canKey _ hmem
  suffices heq : (item.1 = v ∨ item.1 = key) ↔ item.1.same v = true by
    rw [Bool.eq_iff_iff]
    simp only [Bool.and_eq_true, Bool.not_eq_true', ← Bool.not_eq_true, beq_iff_eq, ← heq]
    tauto
  rcases keyOf_of_canKey (q := q) hv with ⟨other, hother, hsame, hkeyOf⟩ | ⟨hnew, hkeyOf⟩
  · obtain rfl : other.1 = key := Except.ok.inj (hkeyOf.symm.trans h)
    have hotherMem : other.1 ∈ q.keys := List.mem_map_of_mem hother
    have hslot := (Value.same_iff_slot (hq.canKey _ hotherMem) hv).1 hsame
    rw [Value.same_iff_slot hitemKey hv]
    constructor
    · rintro (e | e) <;> rw [e]
      exact hslot
    · exact fun e => .inr (List.inj_on_of_nodup_map hq.nodup hmem hotherMem (e.trans hslot.symm))
  · obtain rfl : v = key := Except.ok.inj (hkeyOf.symm.trans h)
    have hne : item.1 ≠ v := fun e => notMem_keys_of_new hv hnew (e ▸ hmem)
    simp [hne, hnew item hitem]

theorem finish_of_new (hkey : key.CanKey) (hnew : ∀ item ∈ q.items, item.1.same key = false) :
    q.finish key = .error (.missingKey key) := by
  have hlookup : q.items.lookup key = none := by
    rw [List.lookup_eq_none_iff]
    intro item hitem
    have hne : item.1 ≠ key := fun e =>
      notMem_keys_of_new hkey hnew (e ▸ List.mem_map_of_mem hitem)
    simpa using hne.symm
  simp only [finish, hlookup]

/-- A call that is refused leaves the queue as it was. -/
theorem Refuses.perform {call : Call} (h : Refuses q call fault) :
    call.perform.exec q = some (.error fault, q) := by
  cases h with
  | kind h => simp only [Call.perform, exec_change, addNamed, h]
  | @addKey key kind arguments h hkey =>
    obtain ⟨what, hwhat⟩ := Option.ne_none_iff_exists'.1 h
    simp only [Call.perform, exec_change, addNamed, hwhat, keyOf_of_not_canKey hkey, Except.map]
  | finishKey hkey =>
    simp only [Call.perform, exec_change, finishNamed, keyOf_of_not_canKey hkey,
      Outcome.error_bind]
  | absent hkey h =>
    rcases keyOf_of_canKey (q := q) hkey with ⟨item, hitem, hsame, -⟩ | ⟨hnew, hk⟩
    · rw [h item hitem] at hsame
      cases hsame
    · simp only [Call.perform, exec_change, finishNamed, hk, Outcome.ok_bind,
        finish_of_new hkey hnew]
  | forceKey hkey =>
    simp only [Call.perform, exec_change, forceNamed, keyOf_of_not_canKey hkey,
      Outcome.error_bind]

/-- Every call is answered, with the effect that it has. -/
theorem exists_effect (hq : q.Apart) (call : Call) :
    ∃ answer q', call.perform.exec q = some (answer, q') ∧ Effect q call answer q' := by
  have hrefused {fault : Fault} (h : Refuses q call fault) :
      ∃ answer q', call.perform.exec q = some (answer, q') ∧ Effect q call answer q' :=
    ⟨_, _, h.perform, .refused h⟩
  cases call with
  | add key kind arguments =>
    cases hkind : ItemKind.ofValue? kind with
    | none => exact hrefused (.kind hkind)
    | some what =>
      by_cases hkey : key.CanKey
      · simp only [Call.perform, exec_change, addNamed, hkind]
        rcases keyOf_of_canKey (q := q) hkey with ⟨item, hitem, hsame, hk⟩ | ⟨hnew, hk⟩
        · have hhas : q.has item.1 = true := has_iff.2 (List.mem_map_of_mem hitem)
          exact ⟨_, _, by simp only [hk, Except.map, add_of_has hhas], .known hitem hsame⟩
        · exact ⟨_, _, by simp only [hk, Except.map], .added what hkey hnew⟩
      · exact hrefused (.addKey (by simp [hkind]) hkey)
  | take =>
    cases hitems : q.items with
    | nil =>
      have htake : q.take = (none, q) := by simp only [take, hitems]
      exact ⟨.ok none, q, by rw [exec_take, htake], .nothing hitems⟩
    | cons item rest =>
      have htake : q.take = (some item, rotated item rest) := by simp only [take, hitems, rotated]
      exact ⟨_, _, by rw [exec_take, htake], .took hitems⟩
  | finish key =>
    by_cases hkey : key.CanKey
    · rcases keyOf_of_canKey (q := q) hkey with ⟨item, hitem, hsame, hk⟩ | ⟨hnew, -⟩
      · obtain ⟨q', hq'⟩ := exists_finish (q := q) (List.mem_map_of_mem hitem)
        refine ⟨_, _, ?_, .finished hsame hq'⟩
        simp only [Call.perform, exec_change, finishNamed, hk, Outcome.ok_bind, hq']
      · exact hrefused (.absent hkey hnew)
    · exact hrefused (.finishKey hkey)
  | force key =>
    by_cases hkey : key.CanKey
    · obtain ⟨known, hk⟩ : ∃ known, q.keyOf key = .ok known := by
        rcases keyOf_of_canKey (q := q) hkey with ⟨item, -, -, hk⟩ | ⟨-, hk⟩
        · exact ⟨_, hk⟩
        · exact ⟨_, hk⟩
      refine ⟨_, _, ?_, .forced hkey⟩
      simp only [Call.perform, exec_change, forceNamed, hk, Outcome.ok_bind, force,
        hq.remove_keyOf hkey hk]
      rfl
    · exact hrefused (.forceKey hkey)
  | clear => exact ⟨_, _, rfl, .cleared⟩

theorem effect_of_perform (hq : q.Apart) {call : Call} {answer : Answer}
    (h : call.perform.exec q = some (answer, q')) : Effect q call answer q' := by
  obtain ⟨_, _, h', heffect⟩ := exists_effect hq call
  cases h.symm.trans h'
  exact heffect

theorem perform_eq_error_iff (hq : q.Apart) {call : Call} :
    call.perform.exec q = some (.error fault, q') ↔ Refuses q call fault ∧ q' = q := by
  constructor
  · intro h
    cases effect_of_perform hq h with
    | refused hrefuses => exact ⟨hrefuses, rfl⟩
  · rintro ⟨h, rfl⟩
    exact h.perform

/-! ### Histories -/

/-- A call that was made: the queue that it found, the answer to it and the queue that it left. -/
structure Event where
  call : Call
  before : WorkQueue
  answer : Answer
  after : WorkQueue

/-- Makes calls one after the other, as long as each of them may be made: all calls that were made,
the last one first, and the queue after them. -/
def history : List Call → List Event → WorkQueue → Option (List Event × WorkQueue)
  | [], past, q => some (past, q)
  | call :: calls, past, q =>
    if call.Allowed q then
      match call.perform.exec q with
      | some (answer, q') => history calls (⟨call, q, answer, q'⟩ :: past) q'
      | none => none
    else none

/-- The keys that were put into the queue since it was cleared, the last one first. A key that is
asked for again is not put into it. -/
def insertions : List Event → List Value
  | [] => []
  | e :: past =>
    match e.call with
    | .clear => []
    | .add key _ _ => if e.after = e.before then insertions past else key :: insertions past
    | _ => insertions past

/-- The keys of the items that were handed out as waiting since the queue was cleared, the last one
first. -/
def handedOut : List Event → List Value
  | [] => []
  | e :: past =>
    match e.call, e.answer with
    | .clear, _ => []
    | .take, .ok (some item) =>
      if item.2.progress = .waiting then item.1 :: handedOut past else handedOut past
    | _, _ => handedOut past

/-- What the calls that were made guarantee of a queue. -/
structure Disciplined (past : List Event) (q : WorkQueue) : Prop where
  /-- No two items have one key. -/
  distinct : q.keys.Pairwise fun a b => a.same b = false
  /-- What waits stands before all else. -/
  waitingFirst : q.items.Pairwise fun a b => b.2.progress = .waiting → a.2.progress = .waiting
  /-- An item that waits is handed out as long as there is one. -/
  take_waiting_iff :
    (∃ item q', Call.take.perform.exec q = some (.ok (some item), q') ∧
      item.2.progress = .waiting) ↔ ∃ item ∈ q.items, item.2.progress = .waiting
  /-- It is the one that was put into the queue last: all others that wait were put there before
  it. -/
  take_latest : ∀ item q', Call.take.perform.exec q = some (.ok (some item), q') →
    item.2.progress = .waiting → item ∈ q.items ∧ ∃ later earlier,
      insertions past = later ++ item.1 :: earlier ∧ item.1 ∉ later ∧ item.1 ∉ earlier ∧
        ∀ other ∈ q.items, other.2.progress = .waiting → other ≠ item →
          other.1 ∈ earlier ∧ other.1 ∉ later
  /-- No item was handed out as waiting twice. -/
  once : (handedOut past).Pairwise fun a b => a.same b = false
  /-- Every call is answered. -/
  answered : ∀ call : Call, ∃ answer q', call.perform.exec q = some (answer, q')
  /-- A call is refused for the kind or the key alone, and then it leaves the queue as it was. -/
  refused_iff : ∀ (call : Call) (fault : Fault) (q' : WorkQueue),
    call.perform.exec q = some (.error fault, q') ↔ Refuses q call fault ∧ q' = q

/-- The keys of a queue as slots. -/
def slots (q : WorkQueue) : List Value := q.keys.map Value.slot

/-- What holds between the keys that were put into a queue, those that were handed out and those
that are in it. -/
structure Kept (asked given : List Value) (q : WorkQueue) : Prop where
  apart : q.Apart
  inOrder : q.InOrder
  waiting_sublist : q.waiting.Sublist asked
  asked_nodup : (asked.map Value.slot).Nodup
  asked_known : ∀ key ∈ asked, key.CanKey ∧ key.slot ∈ q.slots
  given_nodup : (given.map Value.slot).Nodup
  given_known : ∀ key ∈ given, key.CanKey ∧ key.slot ∈ q.slots
  given_not_waiting : ∀ key ∈ given, key.slot ∉ q.waiting.map Value.slot

theorem kept_empty : Kept [] [] empty where
  apart := ⟨nofun, List.nodup_nil⟩
  inOrder := inOrder_empty
  waiting_sublist := .slnil
  asked_nodup := List.nodup_nil
  asked_known := nofun
  given_nodup := List.nodup_nil
  given_known := nofun
  given_not_waiting := nofun

section Kept

variable {asked given : List Value}

theorem waiting_sublist_keys (q : WorkQueue) : q.waiting.Sublist q.keys :=
  List.filter_sublist.map _

/-- A queue that knows no fewer keys and in which no other item waits keeps what held before. -/
theorem Kept.mono (h : Kept asked given q) (hapart : q'.Apart) (horder : q'.InOrder)
    (hslots : q.slots ⊆ q'.slots) (hwaiting : q'.waiting.Sublist q.waiting) :
    Kept asked given q' where
  apart := hapart
  inOrder := horder
  waiting_sublist := hwaiting.trans h.waiting_sublist
  asked_nodup := h.asked_nodup
  asked_known key hkey := ⟨(h.asked_known key hkey).1, hslots (h.asked_known key hkey).2⟩
  given_nodup := h.given_nodup
  given_known key hkey := ⟨(h.given_known key hkey).1, hslots (h.given_known key hkey).2⟩
  given_not_waiting key hkey hmem :=
    h.given_not_waiting key hkey ((hwaiting.map Value.slot).subset hmem)

/-- A key that waits no longer may be handed out. -/
theorem Kept.give (h : Kept asked given q) (hapart : q'.Apart) (horder : q'.InOrder)
    (hslots : q.slots ⊆ q'.slots) (hwaiting : q.waiting = key :: q'.waiting) :
    Kept asked (key :: given) q' := by
  have hwaits : key ∈ q.waiting := by simp [hwaiting]
  have hnodup : (q.waiting.map Value.slot).Nodup :=
    ((waiting_sublist_keys q).map Value.slot).nodup h.apart.nodup
  rw [hwaiting, List.map_cons, List.nodup_cons] at hnodup
  have hkept := h.mono hapart horder hslots (hwaiting ▸ List.sublist_cons_self _ _)
  refine { hkept with given_nodup := ?_, given_known := ?_, given_not_waiting := ?_ }
  · rw [List.map_cons, List.nodup_cons]
    refine ⟨fun hmem => ?_, h.given_nodup⟩
    obtain ⟨other, hother, hslot⟩ := List.mem_map.1 hmem
    exact h.given_not_waiting other hother (hslot ▸ List.mem_map_of_mem hwaits)
  · refine List.forall_mem_cons.2 ⟨⟨?_, hslots ?_⟩, hkept.given_known⟩
    · exact h.apart.canKey key (waiting_subset_keys hwaits)
    · exact List.mem_map_of_mem (waiting_subset_keys hwaits)
  · exact List.forall_mem_cons.2 ⟨hnodup.1, hkept.given_not_waiting⟩

/-- A new key comes to those that were put into the queue. -/
theorem Kept.added (h : Kept asked given q) (hkey : key.CanKey)
    (hnew : ∀ item ∈ q.items, item.1.same key = false) (what : ItemKind) (arguments : Value) :
    Kept (key :: asked) given (q.add key what arguments) := by
  have hslot : key.slot ∉ q.slots := by
    intro hmem
    obtain ⟨known, hknown, hslot⟩ := List.mem_map.1 hmem
    obtain ⟨item, hitem, rfl⟩ := List.mem_map.1 hknown
    have hsame := (Value.same_iff_slot (h.apart.canKey _ hknown) hkey).2 hslot
    rw [hnew item hitem] at hsame
    cases hsame
  have hmem := notMem_keys_of_new hkey hnew
  have hkeys : (q.add key what arguments).keys = key :: q.keys := by rw [keys_add, if_neg hmem]
  have hwaiting : (q.add key what arguments).waiting = key :: q.waiting := by
    rw [waiting_add, if_neg hmem]
  have hslots : (q.add key what arguments).slots = key.slot :: q.slots := by
    rw [slots, hkeys]
    rfl
  have hsub : q.slots ⊆ (q.add key what arguments).slots := by
    rw [hslots]
    exact List.subset_cons_self _ _
  have hknown {other : Value} (hother : other.CanKey ∧ other.slot ∈ q.slots) :
      other.CanKey ∧ other.slot ∈ (q.add key what arguments).slots := ⟨hother.1, hsub hother.2⟩
  constructor
  · refine ⟨?_, ?_⟩
    · rw [hkeys]
      exact List.forall_mem_cons.2 ⟨hkey, h.apart.canKey⟩
    · rw [hkeys]
      exact List.nodup_cons.2 ⟨hslot, h.apart.nodup⟩
  · exact h.inOrder.add key what arguments
  · rw [hwaiting]
    exact h.waiting_sublist.cons_cons key
  · refine List.nodup_cons.2 ⟨fun hasked => ?_, h.asked_nodup⟩
    obtain ⟨other, hother, hother'⟩ := List.mem_map.1 hasked
    exact hslot (hother' ▸ (h.asked_known other hother).2)
  · refine List.forall_mem_cons.2 ⟨⟨hkey, ?_⟩, fun other hother => hknown (h.asked_known other hother)⟩
    rw [hslots]
    exact List.mem_cons_self
  · exact h.given_nodup
  · exact fun other hother => hknown (h.given_known other hother)
  · intro other hother
    rw [hwaiting, List.map_cons, List.mem_cons]
    rintro (e | hwaits)
    · exact hslot (e ▸ (h.given_known other hother).2)
    · exact h.given_not_waiting other hother hwaits

end Kept

/-! ### The front item moved to the back -/

section Rotated

variable {item : Value × Work} {rest : List (Value × Work)}

theorem keys_rotated (hitems : q.items = item :: rest) : (rotated item rest).keys.Perm q.keys := by
  simp only [keys, rotated, hitems, List.map_append, List.map_cons, List.map_nil]
  exact List.perm_append_singleton _ _

theorem waiting_rotated (hitems : q.items = item :: rest) :
    q.waiting =
      (if item.2.progress = .waiting then [item.1] else []) ++ (rotated item rest).waiting := by
  by_cases hw : item.2.progress = .waiting <;> simp [waiting, rotated, hitems, hw]

theorem apart_of_perm (h : q.Apart) (hperm : q'.keys.Perm q.keys) : q'.Apart :=
  ⟨fun key hkey => h.canKey key (hperm.mem_iff.1 hkey), (hperm.map Value.slot).nodup_iff.2 h.nodup⟩

theorem inOrder_rotated (h : q.InOrder) (hitems : q.items = item :: rest) :
    (rotated item rest).InOrder := by
  refine ⟨(keys_rotated hitems).nodup_iff.2 h.nodup, ?_⟩
  have hrest := h.waitingFirst
  rw [hitems, List.pairwise_cons] at hrest
  refine List.pairwise_append.2 ⟨hrest.2, List.pairwise_singleton _ _, ?_⟩
  intro a _ b hb hwaits
  obtain rfl := List.mem_singleton.1 hb
  cases hwaits

end Rotated

/-! ### An item put at the back as done -/

section Forced

theorem keys_forcedTo : (q.forcedTo key).keys =
    (q.keys.filter fun known => !known.same key) ++ [key] := by
  simp [keys, forcedTo, List.filter_map, Function.comp_def]

theorem waiting_forcedTo : (q.forcedTo key).waiting.Sublist q.waiting := by
  have hdone : (q.forcedTo key).waiting =
      ((q.items.filter fun item => !item.1.same key).filter
        fun item => item.2.progress == .waiting).map Prod.fst := by
    simp [waiting, forcedTo]
  rw [hdone]
  exact (List.filter_sublist.filter _).map _

theorem Apart.forcedTo (h : q.Apart) (hkey : key.CanKey) : (q.forcedTo key).Apart := by
  constructor
  · rw [keys_forcedTo]
    intro known hknown
    rcases List.mem_append.1 hknown with hknown | hknown
    · exact h.canKey known (List.mem_of_mem_filter hknown)
    · exact List.mem_singleton.1 hknown ▸ hkey
  · rw [keys_forcedTo, List.map_append, List.nodup_append]
    refine ⟨(List.filter_sublist.map _).nodup h.nodup, List.nodup_singleton _, ?_⟩
    intro a ha b hb e
    obtain ⟨known, hknown, rfl⟩ := List.mem_map.1 ha
    obtain rfl := List.mem_singleton.1 hb
    obtain ⟨hmem, hother⟩ := List.mem_filter.1 hknown
    rw [(Value.same_iff_slot (h.canKey known hmem) hkey).2 e] at hother
    cases hother

theorem slots_subset_forcedTo (h : q.Apart) (hkey : key.CanKey) :
    q.slots ⊆ (q.forcedTo key).slots := by
  intro place hplace
  obtain ⟨known, hknown, rfl⟩ := List.mem_map.1 hplace
  rw [slots, keys_forcedTo, List.map_append, List.mem_append]
  by_cases hsame : known.same key = true
  · rw [(Value.same_iff_slot (h.canKey known hknown) hkey).1 hsame]
    exact .inr List.mem_cons_self
  · exact .inl (List.mem_map_of_mem (List.mem_filter.2 ⟨hknown, by simp [hsame]⟩))

theorem inOrder_forcedTo (h : q.InOrder) (hapart : (q.forcedTo key).Apart) :
    (q.forcedTo key).InOrder := by
  refine ⟨hapart.nodup.of_map, ?_⟩
  refine List.pairwise_append.2 ⟨h.waitingFirst.filter _, List.pairwise_singleton _ _, ?_⟩
  intro a _ b hb hwaits
  obtain rfl := List.mem_singleton.1 hb
  cases hwaits

end Forced

/-! ### What a history guarantees -/

theorem Kept.step {past : List Event} {call : Call} {answer : Answer}
    (h : Kept (insertions past) (handedOut past) q) (hallowed : call.Allowed q)
    (heffect : Effect q call answer q') :
    Kept (insertions (⟨call, q, answer, q'⟩ :: past))
      (handedOut (⟨call, q, answer, q'⟩ :: past)) q' := by
  cases heffect with
  | refused hrefuses =>
    cases hrefuses
    case kind | addKey => simpa [insertions, handedOut] using h
    all_goals exact h
  | known => simpa [insertions, handedOut] using h
  | @added key kind arguments what hkey hnew =>
    have hne : q.add key what arguments ≠ q := by
      intro e
      have hkeys := congrArg keys e
      rw [keys_add, if_neg (notMem_keys_of_new hkey hnew)] at hkeys
      exact List.cons_ne_self _ _ hkeys
    simpa [insertions, handedOut, hne] using h.added hkey hnew what arguments
  | @took item rest hitems =>
    have hperm := keys_rotated hitems
    have hapart := apart_of_perm h.apart hperm
    have horder := inOrder_rotated h.inOrder hitems
    have hslots : q.slots ⊆ (rotated item rest).slots := (hperm.map Value.slot).symm.subset
    have hwaiting := waiting_rotated hitems
    by_cases hwaits : item.2.progress = .waiting
    · rw [if_pos hwaits] at hwaiting
      simpa [insertions, handedOut, hwaits] using h.give hapart horder hslots hwaiting
    · rw [if_neg hwaits, List.nil_append] at hwaiting
      have hkept := h.mono hapart horder hslots (hwaiting ▸ List.Sublist.refl _)
      simpa [insertions, handedOut, hwaits] using hkept
  | nothing => exact h
  | @finished key known q' hsame hfinish =>
    have hknown : known ∉ q.waiting := by
      intro hmem
      obtain ⟨item, hitem, rfl⟩ := List.mem_map.1 hmem
      obtain ⟨hitem, hwaits⟩ := List.mem_filter.1 hitem
      exact hallowed item hitem hsame (beq_iff_eq.1 hwaits)
    have hkeys := keys_of_finish hfinish
    refine h.mono (apart_of_perm h.apart (hkeys ▸ List.Perm.refl _))
      (h.inOrder.of_finish hfinish hknown) ?_ ?_
    · rw [slots, slots, hkeys]
      exact List.Subset.refl _
    · rw [waiting_of_finish hfinish hknown]
  | forced hkey =>
    have hapart := h.apart.forcedTo hkey
    exact h.mono hapart (inOrder_forcedTo h.inOrder hapart) (slots_subset_forcedTo h.apart hkey)
      waiting_forcedTo
  | cleared => exact kept_empty

/-- What is kept by every call is kept by all of them. -/
theorem Kept.history {calls : List Call} {past past' : List Event}
    (h : Kept (insertions past) (handedOut past) q)
    (hcalls : history calls past q = some (past', q')) :
    Kept (insertions past') (handedOut past') q' := by
  induction calls generalizing past q with
  | nil =>
    cases hcalls
    exact h
  | cons call calls ih =>
    unfold WorkQueue.history at hcalls
    split at hcalls
    · rename_i hallowed
      split at hcalls
      · rename_i hperform
        exact ih (h.step hallowed (effect_of_perform h.apart hperform)) hcalls
      · cases hcalls
    · cases hcalls

/-- Keys with different slots are apart. -/
theorem pairwise_not_same {keys : List Value} (hkeys : ∀ key ∈ keys, key.CanKey)
    (h : (keys.map Value.slot).Nodup) : keys.Pairwise fun a b => a.same b = false := by
  refine (List.pairwise_map.1 h).imp_of_mem fun ha hb hne => ?_
  rw [← Bool.not_eq_true, Value.same_iff_slot (hkeys _ ha) (hkeys _ hb)]
  exact hne

theorem took_of_perform (hq : q.Apart) {item : Value × Work}
    (h : Call.take.perform.exec q = some (.ok (some item), q')) :
    ∃ rest, q.items = item :: rest := by
  cases effect_of_perform hq h with
  | took hitems => exact ⟨_, hitems⟩

/-- The first of the keys that wait was put into the queue last. -/
theorem Kept.latest {asked given : List Value} {item : Value × Work} {rest : List (Value × Work)}
    (h : Kept asked given q) (hitems : q.items = item :: rest)
    (hwaits : item.2.progress = .waiting) :
    ∃ later earlier, asked = later ++ item.1 :: earlier ∧ item.1 ∉ later ∧ item.1 ∉ earlier ∧
      ∀ other ∈ q.items, other.2.progress = .waiting → other ≠ item →
        other.1 ∈ earlier ∧ other.1 ∉ later := by
  have hwaiting := waiting_rotated hitems
  rw [if_pos hwaits] at hwaiting
  have hsub := h.waiting_sublist
  rw [hwaiting] at hsub
  obtain ⟨front, back, rfl, hfront, hrest⟩ := List.cons_sublist_iff.1 hsub
  obtain ⟨later, between, rfl⟩ := List.append_of_mem hfront
  have hnodup := h.asked_nodup.of_map
  rw [List.append_assoc, List.cons_append] at hnodup ⊢
  obtain ⟨-, hback, hapart⟩ := List.nodup_append.1 hnodup
  have hlater {key : Value} (hkey : key ∈ item.1 :: (between ++ back)) : key ∉ later :=
    fun hmem => hapart key hmem key hkey rfl
  refine ⟨later, between ++ back, rfl, hlater List.mem_cons_self, (List.nodup_cons.1 hback).1, ?_⟩
  intro other hother hotherWaits hne
  have hmem : other.1 ∈ q.waiting :=
    List.mem_map_of_mem (List.mem_filter.2 ⟨hother, beq_iff_eq.2 hotherWaits⟩)
  have hkey : other.1 ≠ item.1 := fun e =>
    hne (List.inj_on_of_nodup_map h.inOrder.nodup hother (by simp [hitems]) e)
  rw [hwaiting] at hmem
  have hearlier : other.1 ∈ between ++ back :=
    List.mem_append_right _ (hrest.subset (List.mem_of_ne_of_mem hkey hmem))
  exact ⟨hearlier, hlater (List.mem_cons_of_mem _ hearlier)⟩

/-- Whatever calls are made on a new queue, as long as no item that waits is marked as done in its
place: the keys are apart, what waits stands first and is handed out last in first out, once, and a
call that is refused changes nothing. -/
theorem disciplined_history {calls : List Call} {past : List Event}
    (h : history calls [] empty = some (past, q)) : Disciplined past q := by
  have hstart : Kept (insertions []) (handedOut []) empty := kept_empty
  have hkept := hstart.history h
  refine ⟨pairwise_not_same hkept.apart.canKey hkept.apart.nodup, hkept.inOrder.waitingFirst, ?_, ?_,
    pairwise_not_same (fun key hkey => (hkept.given_known key hkey).1) hkept.given_nodup, ?_,
    fun call fault q' => perform_eq_error_iff hkept.apart⟩
  · constructor
    · rintro ⟨item, q', htake, hwaits⟩
      obtain ⟨rest, hitems⟩ := took_of_perform hkept.apart htake
      exact ⟨item, by simp [hitems], hwaits⟩
    · rintro ⟨item, hitem, hwaits⟩
      obtain ⟨front, rest, hitems⟩ := List.exists_cons_of_ne_nil (List.ne_nil_of_mem hitem)
      have hfirst := hkept.inOrder.waitingFirst
      rw [hitems, List.pairwise_cons] at hfirst
      refine ⟨front, rotated front rest, ?_, ?_⟩
      · rw [exec_take]
        simp only [take, hitems, rotated]
      · rw [hitems, List.mem_cons] at hitem
        rcases hitem with rfl | hitem
        · exact hwaits
        · exact hfirst.1 item hitem hwaits
  · intro item q' htake hwaits
    obtain ⟨rest, hitems⟩ := took_of_perform hkept.apart htake
    exact ⟨by simp [hitems], hkept.latest hitems hwaits⟩
  · intro call
    obtain ⟨answer, q', hperform, -⟩ := exists_effect hkept.apart call
    exact ⟨answer, q', hperform⟩

/-- Two items are asked for, and the later one is taken and marked as done by its number. It is
asked for again, the other one is put at the back, and of two calls for a third one the first is
refused. -/
def sampleCalls : List Call :=
  [.add (.text "a") (.text "resource") .null, .add (.bool true) .null .null, .take,
    .finish (.int 1), .add (.int 1) .null .null, .force (.text "a"),
    .add (.text "b") (.text "folder") .null, .add (.text "b") (.text "library") (.list [])]

theorem disciplined_history_sample : ∃ past q, history sampleCalls [] empty = some (past, q) ∧
    insertions past = [.text "b", .bool true, .text "a"] ∧ handedOut past = [.bool true] ∧
    q.keys = [.text "b", .bool true, .text "a"] ∧ q.waiting = [.text "b"] ∧ Disciplined past q := by
  have hrun : (history sampleCalls [] empty).map
      (fun ended => (insertions ended.1, handedOut ended.1, ended.2.keys, ended.2.waiting)) =
        some ([.text "b", .bool true, .text "a"], [.bool true],
          [.text "b", .bool true, .text "a"], [.text "b"]) := by decide
  obtain ⟨⟨past, q⟩, hcalls, hresult⟩ := Option.map_eq_some_iff.1 hrun
  simp only [Prod.mk.injEq] at hresult
  obtain ⟨hasked, hgiven, hkeys, hwaiting⟩ := hresult
  exact ⟨past, q, hcalls, hasked, hgiven, hkeys, hwaiting, disciplined_history hcalls⟩

end WorkQueue

end KeywordCatalog
