import KeywordCatalog.Pattern.Compiled

/-!
# What every match has

A search passes over texts that lack characters which every match has. Nothing is lost by that:
`Node.run_passes` says that a tree which matches has taken characters that pass its tests
(`Node.needs`) in their order, and `Pattern.search_eq` that a compiled pattern finds in a text what
its tree finds there.
-/

namespace KeywordCatalog.Pattern

section InOrder

theorem passesInOrder_nil (text : List Char) : passesInOrder [] text = true := by
  cases text <;> rfl

theorem passesInOrder_tail {test : CharTest} {tests : List CharTest} :
    ∀ {text : List Char}, passesInOrder (test :: tests) text = true →
      passesInOrder tests text = true
  | [], h => by simp [passesInOrder] at h
  | c :: rest, h => by
    have later : ∀ {more : List CharTest}, passesInOrder more rest = true →
        passesInOrder more (c :: rest) = true := by
      intro more hm
      cases more with
      | nil => rfl
      | cons t ts =>
        by_cases ht : t.accepts c = true
        · simpa [passesInOrder, ht] using passesInOrder_tail hm
        · simpa [passesInOrder, ht] using hm
    by_cases ht : test.accepts c = true
    · exact later (by simpa [passesInOrder, ht] using h)
    · exact later (passesInOrder_tail (by simpa [passesInOrder, ht] using h))

theorem passesInOrder_cons {tests : List CharTest} {text : List Char} (c : Char)
    (h : passesInOrder tests text = true) : passesInOrder tests (c :: text) = true := by
  cases tests with
  | nil => rfl
  | cons t ts =>
    by_cases ht : t.accepts c = true
    · simpa [passesInOrder, ht] using passesInOrder_tail h
    · simpa [passesInOrder, ht] using h

theorem passesInOrder_append {first rest : List CharTest} {before after : List Char}
    (h : passesInOrder first before = true) (h' : passesInOrder rest after = true) :
    passesInOrder (first ++ rest) (before ++ after) = true := by
  induction before generalizing first with
  | nil =>
    cases first with
    | nil => simpa using h'
    | cons t ts => simp [passesInOrder] at h
  | cons c before ih =>
    cases first with
    | nil => exact passesInOrder_cons c (ih (passesInOrder_nil before))
    | cons t ts =>
      by_cases ht : t.accepts c = true
      · simpa [passesInOrder, ht] using ih (by simpa [passesInOrder, ht] using h)
      · have hi : passesInOrder (t :: ts ++ rest) (before ++ after) = true :=
          ih (by simpa [passesInOrder, ht] using h)
        rw [List.cons_append] at hi
        simpa [passesInOrder, ht] using hi

end InOrder

/-- The way from a place to another one takes characters that pass some tests in their order. -/
def Passage (tests : List CharTest) (p q : Place) : Prop :=
  ∃ taken, p.after = taken ++ q.after ∧ passesInOrder tests taken = true

namespace Passage

theorem refl (p : Place) : Passage [] p p := ⟨[], rfl, rfl⟩

theorem trans {first rest : List CharTest} {p q r : Place} (h : Passage first p q)
    (h' : Passage rest q r) : Passage (first ++ rest) p r := by
  obtain ⟨taken, e, ht⟩ := h
  obtain ⟨taken', e', ht'⟩ := h'
  exact ⟨taken ++ taken', by rw [e, e', List.append_assoc], passesInOrder_append ht ht'⟩

theorem weaken {tests : List CharTest} {p q : Place} (h : Passage tests p q) :
    Passage [] p q := by
  obtain ⟨taken, e, -⟩ := h
  exact ⟨taken, e, passesInOrder_nil taken⟩

theorem ofTake {test : CharTest} {p q : Place} (h : p.take test.accepts = some q) :
    Passage [test] p q := by
  unfold Place.take at h
  split at h
  · simp at h
  · rename_i x rest hx
    split at h
    · rename_i hp
      obtain rfl := Option.some.inj h
      exact ⟨[x], by simp [hx], by simp [passesInOrder, hp]⟩
    · simp at h

theorem ofTakeAny {test : Char → Bool} {p q : Place} (h : p.take test = some q) :
    Passage [] p q := by
  unfold Place.take at h
  split at h
  · simp at h
  · rename_i x rest hx
    split at h
    · obtain rfl := Option.some.inj h
      exact ⟨[x], by simp [hx], rfl⟩
    · simp at h

theorem ofTakeText {rule : CaseRule} {text : List Char} {p q : Place}
    (h : Place.takeText rule text p = some q) : Passage [] p q := by
  induction text generalizing p with
  | nil =>
    obtain rfl := Option.some.inj h
    exact refl _
  | cons x text ih =>
    rw [Place.takeText] at h
    split at h
    · rename_i p' hp
      exact (ofTakeAny hp).trans (ih h)
    · simp at h

end Passage

/-- A way to match reaches every end through a place that the rest goes on from, and passes some
tests up to there. -/
def Way.Passes (tests : List CharTest) (way : Way) : Prop :=
  ∀ ⦃p : Place⦄ ⦃m : Marks⦄ ⦃k : Rest⦄ ⦃stop : Place⦄ ⦃left : Marks⦄,
    way p m k = .found stop left → ∃ q m', Passage tests p q ∧ k q m' = .found stop left

/-- What is passed on a way after another one comes after what is passed on that one. -/
theorem Way.Passes.trans {first rest : List CharTest} {way way' : Way} (h : Way.Passes first way)
    (h' : Way.Passes rest way') :
    Way.Passes (first ++ rest) fun p m k => way p m fun p' m' => way' p' m' k := by
  intro p m k stop left hfound
  obtain ⟨q, m', hq, hk⟩ := h hfound
  obtain ⟨r, m'', hr, hk⟩ := h' hk
  exact ⟨r, m'', hq.trans hr, hk⟩

theorem Way.Passes.weaken {tests : List CharTest} {way : Way} (h : Way.Passes tests way) :
    Way.Passes [] way := by
  intro p m k stop left hfound
  obtain ⟨q, m', hq, hk⟩ := h hfound
  exact ⟨q, m', hq.weaken, hk⟩

theorem Outcome.orElse_found {inside : Bool} {saved : Marks} {first : Outcome}
    {next : Marks → Outcome} {stop : Place} {left : Marks}
    (h : first.orElse inside saved next = .found stop left) :
    first = .found stop left ∨ ∃ m, next m = .found stop left := by
  unfold Outcome.orElse at h
  split at h
  · exact .inl h
  · exact .inr ⟨_, h⟩

theorem Outcome.thenDo_found {first : Outcome} {k : Rest} {stop : Place} {left : Marks}
    (h : first.thenDo k = .found stop left) :
    ∃ p m, first = .found p m ∧ k p m = .found stop left := by
  unfold Outcome.thenDo at h
  split at h
  · exact ⟨_, _, rfl, h⟩
  · simp at h

theorem firstOf_found {inside : Bool} {saved : Marks} {k : Rest} {places : List Place} {m : Marks}
    {stop : Place} {left : Marks} (h : firstOf inside saved k places m = .found stop left) :
    ∃ q ∈ places, ∃ m', k q m' = .found stop left := by
  induction places generalizing m with
  | nil => simp [firstOf] at h
  | cons p places ih =>
    rw [firstOf] at h
    rcases Outcome.orElse_found h with h | ⟨m', h⟩
    · exact ⟨p, by simp, m, h⟩
    · obtain ⟨q, hq, hk⟩ := ih h
      exact ⟨q, by simp [hq], hk⟩

theorem spans_eq (test : CharTest) (n : Nat) (p : Place) (others : List Place) :
    ∃ further, p.spans test.accepts n others = further ++ p :: others ∧
      ∀ q ∈ further, Passage [test] p q := by
  induction n generalizing p others with
  | zero => exact ⟨[], rfl, by simp⟩
  | succ n ih =>
    rw [Place.spans]
    cases hp : p.take test.accepts with
    | none => exact ⟨[], rfl, by simp⟩
    | some p' =>
      obtain ⟨further, e, hf⟩ := ih p' (p :: others)
      refine ⟨further ++ [p'], by simp [e], ?_⟩
      intro q hq
      have h1 := Passage.ofTake hp
      rcases List.mem_append.mp hq with hq | hq
      · exact (h1.trans (hf q hq).weaken)
      · obtain rfl := List.mem_singleton.mp hq
        exact h1

theorem spanRounds_passes (inside : Bool) (test : CharTest) (least : Nat) (most : Option Nat)
    (greed : Greed) :
    Way.Passes (if least == 0 then [] else [test])
      (spanRounds inside test.accepts least most greed) := by
  intro p m k stop left h
  obtain ⟨further, e, hf⟩ := spans_eq test (most.getD p.after.length) p []
  have all : ∀ q ∈ (if least == 0 then further ++ [p]
      else (further ++ [p]).take ((further ++ [p]).length - least)),
      Passage (if least == 0 then [] else [test]) p q := by
    intro q hq
    by_cases hl : (least == 0) = true
    · simp only [hl, if_true] at hq ⊢
      rcases List.mem_append.mp hq with hq | hq
      · exact (hf q hq).weaken
      · obtain rfl := List.mem_singleton.mp hq
        exact Passage.refl _
    · simp only [hl] at hq ⊢
      have hl' : least ≠ 0 := by simpa using hl
      have hlen : (further ++ [p]).length - least ≤ further.length := by simp; omega
      simp only [Bool.false_eq_true, if_false] at hq ⊢
      rw [List.take_append_of_le_length hlen] at hq
      exact hf q (List.mem_of_mem_take hq)
  unfold spanRounds at h
  simp only [e] at h
  split at h
  · simp at h
  · rename_i furthest nearer hs
    have hall : ∀ q ∈ furthest :: nearer, Passage (if least == 0 then [] else [test]) p q := by
      intro q hq
      exact all q (by rw [hs]; exact hq)
    cases greed with
    | greedy =>
      obtain ⟨q, hq, m', hk⟩ := firstOf_found h
      exact ⟨q, m', hall q hq, hk⟩
    | lazy =>
      obtain ⟨q, hq, m', hk⟩ := firstOf_found h
      exact ⟨q, m', hall q (List.mem_reverse.mp hq), hk⟩
    | possessive => exact ⟨furthest, m, hall furthest (by simp), h⟩

section Rounds

variable {body : Way} {tests : List CharTest} {least : Nat} {most : Option Nat}

theorem greedyRounds_passes (hb : Way.Passes tests body) (fuel count : Nat) (last : Option Nat) :
    Way.Passes [] (greedyRounds body least most fuel count last) := by
  induction fuel generalizing count last with
  | zero => exact fun p m k stop left h => ⟨p, m, Passage.refl p, h⟩
  | succ fuel ih =>
    intro p m k stop left h
    rw [greedyRounds] at h
    split at h
    · exact (hb.trans (ih _ _)).weaken h
    · split at h
      · rcases Outcome.orElse_found h with h | ⟨m', h⟩
        · exact (hb.trans (ih _ _)).weaken h
        · exact ⟨p, m', Passage.refl p, h⟩
      · exact ⟨p, m, Passage.refl p, h⟩

theorem greedyRounds_needs (hb : Way.Passes tests body) (fuel : Nat) :
    Way.Passes (if least == 0 then [] else tests)
      (greedyRounds body least most (fuel + 1) 0 none) := by
  intro p m k stop left h
  by_cases hl : least = 0
  · simpa [hl] using greedyRounds_passes hb _ _ _ h
  · rw [greedyRounds, if_pos (by omega)] at h
    simpa [hl] using hb.trans (greedyRounds_passes hb _ _ _) h

theorem lazyRounds_passes (hb : Way.Passes tests body) (inside : Bool) (fuel count : Nat)
    (last : Option Nat) : Way.Passes [] (lazyRounds inside body least most fuel count last) := by
  induction fuel generalizing count last with
  | zero => exact fun p m k stop left h => ⟨p, m, Passage.refl p, h⟩
  | succ fuel ih =>
    intro p m k stop left h
    rw [lazyRounds] at h
    split at h
    · exact (hb.trans (ih _ _)).weaken h
    · rcases Outcome.orElse_found h with h | ⟨m', h⟩
      · exact ⟨p, m, Passage.refl p, h⟩
      · split at h
        · exact (hb.trans (ih _ _)).weaken h
        · simp at h

theorem lazyRounds_needs (hb : Way.Passes tests body) (inside : Bool) (fuel : Nat) :
    Way.Passes (if least == 0 then [] else tests)
      (lazyRounds inside body least most (fuel + 1) 0 none) := by
  intro p m k stop left h
  by_cases hl : least = 0
  · simpa [hl] using lazyRounds_passes hb inside _ _ _ h
  · rw [lazyRounds, if_pos (by omega)] at h
    simpa [hl] using hb.trans (lazyRounds_passes hb inside _ _ _) h

/-- A way whose rest is nothing ends where it gets to. -/
theorem Way.Passes.alone (hb : Way.Passes tests body) {p : Place} {m : Marks} {q : Place}
    {left : Marks} (h : body p m .found = .found q left) : Passage tests p q := by
  obtain ⟨r, m', hr, hk⟩ := hb h
  injection hk with hq
  exact hq ▸ hr

theorem possessiveRounds_passes (hb : Way.Passes tests body) (fuel count : Nat)
    (last : Option Nat) {p : Place} {m : Marks} {q : Place} {left : Marks}
    (h : possessiveRounds body least most fuel count last p m = .found q left) :
    Passage [] p q := by
  induction fuel generalizing count last p m with
  | zero =>
    rw [possessiveRounds] at h
    injection h with h
    exact h ▸ Passage.refl p
  | succ fuel ih =>
    rw [possessiveRounds] at h
    split at h
    · split at h
      · rename_i p' m' hp
        exact (hb.alone hp).weaken.trans (ih _ _ h)
      · simp at h
    · split at h
      · split at h
        · rename_i p' m' hp
          exact (hb.alone hp).weaken.trans (ih _ _ h)
        · injection h with h
          exact h ▸ Passage.refl p
      · injection h with h
        exact h ▸ Passage.refl p

theorem possessiveRounds_needs (hb : Way.Passes tests body) (fuel : Nat) {p : Place} {m : Marks}
    {q : Place} {left : Marks}
    (h : possessiveRounds body least most (fuel + 1) 0 none p m = .found q left) :
    Passage (if least == 0 then [] else tests) p q := by
  by_cases hl : least = 0
  · simpa [hl] using possessiveRounds_passes hb _ _ _ h
  · rw [possessiveRounds, if_pos (by omega)] at h
    split at h
    · rename_i p' m' hp
      simpa [hl] using (hb.alone hp).trans (possessiveRounds_passes hb _ _ _ h)
    · simp at h

end Rounds

/-- A tree that matches has taken characters that pass its tests. -/
theorem Node.run_passes (node : Node) (inside : Bool) :
    Way.Passes node.needs (node.run inside) := by
  induction node generalizing inside with
  | empty => exact fun p m k stop left h => ⟨p, m, Passage.refl p, h⟩
  | one test =>
    intro p m k stop left h
    rw [Node.run] at h
    split at h
    · rename_i p' hp
      exact ⟨p', m, Passage.ofTake hp, h⟩
    · simp at h
  | anchor place =>
    intro p m k stop left h
    rw [Node.run] at h
    split at h
    · exact ⟨p, m, Passage.refl p, h⟩
    · simp at h
  | seq a b iha ihb =>
    intro p m k stop left h
    rw [Node.run] at h
    exact (iha inside).trans (ihb inside) h
  | alt a b iha ihb =>
    intro p m k stop left h
    rw [Node.run] at h
    rcases Outcome.orElse_found h with h | ⟨m', h⟩
    · exact (iha inside).weaken h
    · rcases Outcome.orElse_found h with h | ⟨m'', h⟩
      · exact (ihb inside).weaken h
      · simp at h
  | scope body ih => exact fun p m k stop left h => ih inside h
  | capture number body ih =>
    intro p m k stop left h
    rw [Node.run] at h
    obtain ⟨q, m', hq, hk⟩ := ih inside h
    exact ⟨q, _, hq, hk⟩
  | again rule number =>
    intro p m k stop left h
    rw [Node.run] at h
    split at h
    · split at h
      · rename_i p' hp
        exact ⟨p', m, Passage.ofTakeText hp, h⟩
      · simp at h
    · simp at h
  | span least most greed test =>
    intro p m k stop left h
    rw [Node.run] at h
    exact spanRounds_passes inside test least most greed h
  | repeated least most greed body ih =>
    intro p m k stop left h
    cases greed with
    | greedy =>
      rw [Node.run] at h
      exact greedyRounds_needs (ih true) (least + p.after.length + 1) h
    | lazy =>
      rw [Node.run] at h
      exact lazyRounds_needs (ih true) inside (least + p.after.length + 1) h
    | possessive =>
      rw [Node.run] at h
      obtain ⟨q, m', hq, hk⟩ := Outcome.thenDo_found h
      exact ⟨q, m', possessiveRounds_needs (ih inside)
        (least + p.after.length + 1) hq, hk⟩
  | atomic body ih =>
    intro p m k stop left h
    rw [Node.run] at h
    obtain ⟨q, m', hq, hk⟩ := Outcome.thenDo_found h
    exact ⟨q, m', (ih inside).alone hq, hk⟩
  | ahead negated body ih =>
    intro p m k stop left h
    cases negated with
    | false =>
      rw [Node.run] at h
      obtain ⟨q, m', hq, hk⟩ := Outcome.thenDo_found h
      exact ⟨p, m', Passage.refl p, hk⟩
    | true =>
      rw [Node.run] at h
      split at h
      · simp at h
      · exact ⟨p, _, Passage.refl p, h⟩
  | behind width negated body ih =>
    intro p m k stop left h
    rw [Node.run] at h
    split at h
    · split at h
      · exact ⟨p, m, Passage.refl p, h⟩
      · simp at h
    · split at h
      · split at h
        · simp at h
        · exact ⟨p, _, Passage.refl p, h⟩
      · split at h
        · exact ⟨p, _, Passage.refl p, h⟩
        · simp at h
  | given number yes no ihy ihn =>
    intro p m k stop left h
    rw [Node.run] at h
    split at h
    · exact (ihy inside).weaken h
    · exact (ihn inside).weaken h

theorem Node.passesInOrder_of_matchAt {node : Node} {p : Place} {m : Match}
    (h : node.matchAt p = some m) : passesInOrder node.needs p.after = true := by
  unfold Node.matchAt at h
  split at h
  · rename_i stop marks hr
    obtain ⟨taken, e, ht⟩ := (node.run_passes false).alone hr
    rw [e]
    simpa using passesInOrder_append ht (passesInOrder_nil stop.after)
  · simp at h

theorem Node.passesInOrder_of_searchFrom {node : Node} {mayStart : List Char → Bool} {pos : Nat}
    {before text : List Char} {m : Match} (h : node.searchFrom mayStart pos before text = some m) :
    passesInOrder node.needs text = true := by
  induction text generalizing pos before with
  | nil =>
    rw [Node.searchFrom] at h
    split at h
    · exact Node.passesInOrder_of_matchAt h
    · simp at h
  | cons x rest ih =>
    rw [Node.searchFrom] at h
    split at h
    · rename_i m' hm
      split at hm
      · exact Node.passesInOrder_of_matchAt hm
      · simp at hm
    · exact passesInOrder_cons x (ih h)

end KeywordCatalog.Pattern

namespace KeywordCatalog

/-- A pattern whose tests are those of its tree finds what the tree finds. -/
theorem Pattern.search_eq {p : Pattern} (h : p.needs = p.tree.needs) (text : List Char) :
    p.search text =
      if text.length < p.least then none else p.tree.searchFrom p.mayStart 0 [] text := by
  unfold Pattern.search
  by_cases hl : text.length < p.least
  · simp [hl]
  · cases hs : p.tree.searchFrom p.mayStart 0 [] text with
    | none => simp [hl]
    | some m =>
      have := Pattern.Node.passesInOrder_of_searchFrom hs
      simp [hl, h, this]

end KeywordCatalog
