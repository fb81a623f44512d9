import KeywordCatalog.Proofs.Pattern.Found

/-!
# The first match

A search goes through the places of a text from the start, so a match that it finds is the first one:
the tree takes no part of the text that starts before it (`IsRegular.exists_find_first`).

A pattern whose first test is a class leaves out the places where that test fails. This changes
nothing if the test passes wherever the tree can take something (`find_anywhere`).
-/

namespace KeywordCatalog.Pattern

variable {node : Node} {mayStart : List Char → Bool} {pos : Nat} {before text : List Char}
  {found : Match} {c : Pattern}

/-- A search that may start anywhere has failed at all places before its match. -/
theorem Node.searchFrom_first (hstart : ∀ rest, mayStart rest = true)
    (hfound : node.searchFrom mayStart pos before text = some found) :
    ∃ skipped rest, text = skipped ++ rest ∧
      node.matchAt ⟨pos + skipped.length, skipped.reverse ++ before, rest⟩ = some found ∧
      ∀ earlier later, text = earlier ++ later → earlier.length < skipped.length →
        node.matchAt ⟨pos + earlier.length, earlier.reverse ++ before, later⟩ = none := by
  induction text generalizing pos before with
  | nil =>
    rw [Node.searchFrom, if_pos (hstart [])] at hfound
    exact ⟨[], [], rfl, hfound, fun earlier later _ hlt => absurd hlt (Nat.not_lt_zero _)⟩
  | cons x text ih =>
    rw [Node.searchFrom, if_pos (hstart _)] at hfound
    split at hfound
    · rename_i found' hmatch
      cases hfound
      exact ⟨[], x :: text, rfl, hmatch, fun earlier later _ hlt => absurd hlt (Nat.not_lt_zero _)⟩
    · rename_i hmatch
      obtain ⟨skipped, rest, rfl, hfound', hfirst⟩ := ih hfound
      refine ⟨x :: skipped, rest, rfl, ?_, fun earlier later htext hlt => ?_⟩
      · rw [← hfound', List.length_cons, Nat.add_right_comm, Nat.add_assoc, List.reverse_cons,
          List.append_assoc]
        rfl
      · cases earlier with
        | nil =>
          obtain rfl : x :: (skipped ++ rest) = later := htext
          exact hmatch
        | cons y earlier =>
          obtain ⟨rfl, htext'⟩ := List.cons.inj htext
          rw [← hfirst earlier later htext' (Nat.lt_of_succ_lt_succ hlt), List.length_cons,
            Nat.add_right_comm, Nat.add_assoc, List.reverse_cons, List.append_assoc]
          rfl

/-- **A regular pattern finds the first part of a text that its tree can take.** -/
theorem IsRegular.exists_find_first (h : c.IsRegular) (text : List Char) :
    ∃ found, c.find text = .ok found ∧
      (found = none → ∀ skipped taken rest, text = skipped ++ taken ++ rest →
        ¬c.tree.Takes skipped.reverse taken rest) ∧
      ∀ m ∈ found, ∃ skipped taken rest, text = skipped ++ taken ++ rest ∧
        m.IsTaken c.tree skipped taken rest ∧
        ∀ earlier other later, text = earlier ++ other ++ later →
          c.tree.Takes earlier.reverse other later → skipped.length ≤ earlier.length := by
  refine ⟨_, h.find_eq text, fun hnone skipped taken rest htext htakes => ?_, fun m hm => ?_⟩
  · have hsome : (c.tree.searchFrom c.mayStart 0 [] text).isSome = true :=
      (Node.isSome_searchFrom h.tree h.mayStart).2
        ⟨skipped, taken, rest, htext, by rwa [List.append_nil]⟩
    rw [hnone] at hsome
    cases hsome
  · obtain ⟨skipped, rest, rfl, hmatch, hfirst⟩ := Node.searchFrom_first h.mayStart hm
    rw [Nat.zero_add, List.append_nil] at hmatch
    obtain ⟨taken, rest', rfl, htaken⟩ := Node.isTaken_of_matchAt h.tree hmatch
    refine ⟨skipped, taken, rest', by rw [List.append_assoc], htaken, ?_⟩
    intro earlier other later htext htakes
    by_contra hlt
    -- the tree would have matched at the earlier place
    have hnone := hfirst earlier (other ++ later) (by rw [htext, List.append_assoc])
      (Nat.lt_of_not_le hlt)
    have hsome : (c.tree.matchAt ⟨0 + earlier.length, earlier.reverse ++ [],
        other ++ later⟩).isSome = true :=
      (Node.isSome_matchAt h.tree).2 ⟨other, later, rfl, by rwa [List.append_nil]⟩
    rw [hnone] at hsome
    cases hsome

/-! ### Patterns that start with a class -/

/-- A pattern that is searched for at all places. -/
def anywhere (c : Pattern) : Pattern := { c with entry := none }

theorem Node.searchFrom_anywhere (h : node.IsRegular)
    (hstart : ∀ before taken rest, node.Takes before taken rest → mayStart (taken ++ rest) = true) :
    node.searchFrom mayStart pos before text = node.searchFrom (fun _ => true) pos before text := by
  have hplace (pos : Nat) (before rest : List Char) :
      (if mayStart rest then node.matchAt ⟨pos, before, rest⟩ else none) =
        node.matchAt ⟨pos, before, rest⟩ := by
    split
    · rfl
    · rename_i hnot
      cases hmatch : node.matchAt ⟨pos, before, rest⟩ with
      | none => rfl
      | some found =>
        obtain ⟨taken, rest', hrest, htakes, -⟩ := Node.exists_takes_of_matchAt h hmatch
        obtain rfl : rest = taken ++ rest' := hrest
        exact absurd (hstart _ _ _ htakes) hnot
  induction text generalizing pos before with
  | nil =>
    rw [Node.searchFrom, Node.searchFrom, hplace]
    rfl
  | cons x text ih =>
    rw [Node.searchFrom, Node.searchFrom, hplace, ih]
    rfl

theorem find_anywhere (h : c.tree.IsRegular)
    (hstart : ∀ before taken rest, c.tree.Takes before taken rest →
      c.mayStart (taken ++ rest) = true) (text : List Char) :
    c.find text = c.anywhere.find text := by
  have hsearch : c.search text = c.anywhere.search text := by
    have hfrom := @Node.searchFrom_anywhere c.tree c.mayStart 0 [] text h hstart
    rw [search, search, hfrom]
    rfl
  rw [find, find, hsearch]

theorem exists_compileWith_anywhere {o : Options} {text : List Char} {s : State} {hi : Nat}
    (h : parseWith o text = .ok s) (htree : s.tree.IsRegular) (hnumbered : s.tree.Numbered 0 hi) :
    ∃ c, compileWith o text = .ok c ∧ c.tree = s.tree ∧ c.anywhere.IsRegular ∧
      (c.entry = none ∨ c.entry = entryTest? s.options.narrow s.tree) := by
  refine ⟨_, by rw [compileWith, h]; rfl, rfl, ?_, ?_⟩
  · exact ⟨htree, ⟨hi, hnumbered⟩, rfl, ⟨_, rfl⟩, rfl⟩
  · dsimp only
    split
    · exact Or.inl rfl
    · exact Or.inr rfl

end KeywordCatalog.Pattern
