/-!
# Ordered maps

Maps as lists of pairs in the order in which their keys were first put there. A key that is put
again keeps its place and takes the new value.
-/

namespace KeywordCatalog.Ordered

variable {α β : Type} [BEq α]

/-- Puts a value under a key, in place of the one that is there or else at the end. -/
def put (key : α) (value : β) : List (α × β) → List (α × β)
  | [] => [(key, value)]
  | (k, v) :: rest => if k == key then (k, value) :: rest else (k, v) :: put key value rest

/-- Whether a key is there. -/
def has (key : α) (pairs : List (α × β)) : Bool := pairs.any fun p => p.1 == key

/-- The pairs without a key. -/
def remove (key : α) (pairs : List (α × β)) : List (α × β) := pairs.filter fun p => !(p.1 == key)

/-- The map of pairs that are put there one after the other. -/
def ofList (pairs : List (α × β)) : List (α × β) := pairs.foldl (fun m p => put p.1 p.2 m) []

@[simp] theorem put_nil (key : α) (value : β) : put key value [] = [(key, value)] := rfl

variable [LawfulBEq α]

theorem lookup_put_self (key : α) (value : β) (pairs : List (α × β)) :
    (put key value pairs).lookup key = some value := by
  induction pairs with
  | nil => simp
  | cons pair rest ih =>
    obtain ⟨k, v⟩ := pair
    by_cases h : k = key
    · simp [put, h]
    · have h' : (key == k) = false := by simpa using fun e => h e.symm
      simp [put, h, List.lookup_cons, h', ih]

theorem lookup_put_of_ne {key other : α} (h : other ≠ key) (value : β) (pairs : List (α × β)) :
    (put key value pairs).lookup other = pairs.lookup other := by
  induction pairs with
  | nil => simp [h]
  | cons pair rest ih =>
    obtain ⟨k, v⟩ := pair
    by_cases hk : k = key
    · subst hk
      have h' : (other == k) = false := by simpa using h
      simp [put, List.lookup_cons, h']
    · simp [put, hk, List.lookup_cons, ih]

theorem lookup_of_mem {key : α} {value : β} {pairs : List (α × β)}
    (hkeys : (pairs.map Prod.fst).Nodup) (h : (key, value) ∈ pairs) :
    pairs.lookup key = some value := by
  induction pairs with
  | nil => cases h
  | cons pair rest ih =>
    obtain ⟨k, v⟩ := pair
    obtain ⟨hk, hrest⟩ := List.nodup_cons.1 hkeys
    rcases List.mem_cons.1 h with hpair | hmem
    · cases hpair
      simp
    · have hne : key ≠ k := fun e => hk (List.mem_map.2 ⟨_, hmem, e⟩)
      have h' : (key == k) = false := by simpa using hne
      simp [List.lookup_cons, h', ih hrest hmem]

theorem put_of_notMem {key : α} {pairs : List (α × β)} (h : key ∉ pairs.map Prod.fst)
    (value : β) : put key value pairs = pairs ++ [(key, value)] := by
  induction pairs with
  | nil => rfl
  | cons pair rest ih =>
    simp only [List.map_cons, List.mem_cons, not_or] at h
    simp [put, Ne.symm h.1, ih h.2]

theorem filter_put {key : α} (keep : α → Bool) (h : keep key = false) (value : β)
    (pairs : List (α × β)) :
    (put key value pairs).filter (fun p => keep p.1) = pairs.filter fun p => keep p.1 := by
  induction pairs with
  | nil => simp [h]
  | cons pair rest ih =>
    obtain ⟨k, v⟩ := pair
    by_cases hk : k = key
    · subst hk
      simp [put, h]
    · simp [put, hk, List.filter_cons, ih]

end KeywordCatalog.Ordered
