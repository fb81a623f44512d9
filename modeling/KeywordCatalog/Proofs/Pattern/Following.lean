import KeywordCatalog.Proofs.Pattern.Spelled

/-!
# What follows a text

The pattern of a text in parentheses and of a group for the rest of the line finds the first place
where the text stands and something follows it. In a text of one line, the group has then taken what
follows the first occurrence (`exists_compile_following`).
-/

namespace KeywordCatalog.Text

variable {part text rest : List Char}

/-- What follows the first occurrence of a part in a text. -/
def afterFirst (part : List Char) : List Char → Option (List Char)
  | [] => if part.isEmpty then some [] else none
  | c :: rest =>
    if part.isPrefixOf (c :: rest) then some ((c :: rest).drop part.length)
    else afterFirst part rest

theorem afterFirst_append (part rest : List Char) : afterFirst part (part ++ rest) = some rest := by
  cases htext : part ++ rest with
  | nil =>
    obtain ⟨rfl, rfl⟩ := List.append_eq_nil_iff.1 htext
    rfl
  | cons c tail =>
    rw [afterFirst, ← htext, if_pos (by simp), List.drop_left]

theorem afterFirst_eq_none_of_length_lt (h : text.length < part.length) :
    afterFirst part text = none := by
  induction text with
  | nil => simp [afterFirst, List.ne_nil_of_length_pos h]
  | cons c text ih =>
    have hprefix : ¬ part <+: c :: text := fun hprefix => absurd hprefix.length_le (Nat.not_le.2 h)
    have hshort : text.length < part.length := Nat.lt_of_succ_lt h
    rw [afterFirst, if_neg (by simpa using hprefix), ih hshort]

end KeywordCatalog.Text

namespace KeywordCatalog.Pattern

open Text

variable {p : Place} {m : Marks} {k : Rest} {node : Node} {inside : Bool} {nodes : List Node}
  {text : List Char}

theorem Node.run_row_cons : (Node.row (node :: nodes)).run inside p m k =
    node.run inside p m fun p' m' => (Node.row nodes).run inside p' m' k := by
  cases nodes <;> rfl

/-- A row of letters goes past its text, if that is what is there. -/
theorem Node.run_row_letters (text : List Char) :
    (Node.row (text.map (letterNode .exact) ++ nodes)).run inside p m k =
      if text <+: p.after then
        (Node.row nodes).run inside (p.past text (p.after.drop text.length)) m k
      else .failed m := by
  induction text generalizing p with
  | nil => simp
  | cons c text ih =>
    rw [List.map_cons, List.cons_append, Node.run_row_cons, letterNode, Node.run]
    cases hafter : p.after with
    | nil =>
      have hnone : p.take (CharTest.letter .exact false (codeOf c)).accepts = none := by
        simp [Place.take, hafter]
      rw [hnone, if_neg (by simp)]
    | cons d after =>
      by_cases hcd : c = d
      · subst hcd
        have hsome : p.take (CharTest.letter .exact false (codeOf c)).accepts =
            some (p.past [c] after) := by
          simp [Place.take, hafter, accepts_letter_exact, Place.past]
        rw [hsome]
        simp only [ih, List.cons_prefix_cons, true_and, Place.past_past]
        rfl
      · have hnone : p.take (CharTest.letter .exact false (codeOf c)).accepts = none := by
          simp [Place.take, hafter, accepts_letter_exact, hcd]
        rw [hnone, if_neg (by simp [hcd])]

/-- The furthest place that is reached when every character passes. -/
theorem Place.reach_eq_concat {test : Char → Bool} (h : ∀ c ∈ p.after, test c = true) :
    ∃ nearer, p.reach test p.after.length = nearer ++ [p.past p.after []] ∧
      nearer.length = p.after.length := by
  obtain ⟨pos, before, after⟩ := p
  induction after generalizing pos before with
  | nil => exact ⟨[], rfl, rfl⟩
  | cons c after ih =>
    obtain ⟨hc, h⟩ := List.forall_mem_cons.1 h
    obtain ⟨nearer, hreach, hlength⟩ := ih (pos + 1) (c :: before) h
    refine ⟨⟨pos, before, c :: after⟩ :: nearer, ?_, by simp [hlength]⟩
    have htake : Place.take ⟨pos, before, c :: after⟩ test = some ⟨pos + 1, c :: before, after⟩ := by
      simp [Place.take, hc]
    simp only [List.length_cons, Place.reach, htake, hreach, List.cons_append]
    simp [Place.past, Nat.add_assoc, Nat.add_comm 1]

/-- A group for the rest of the line takes all of it, if there is some. -/
theorem Node.run_group_rest {number : Nat} (h : '\n' ∉ p.after) :
    (Node.capture number (.span 1 none .greedy (.dot false))).run inside p m .found =
      if p.after = [] then .failed (m.openGroup number p)
      else .found (p.past p.after [])
        ((m.openGroup number p).closeGroup number (p.past p.after [])) := by
  have htest : ∀ c ∈ p.after, (CharTest.dot false).accepts c = true := by
    intro c hc
    have : c ≠ '\n' := fun e => h (e ▸ hc)
    simp [CharTest.accepts, this]
  obtain ⟨nearer, hreach, hlength⟩ := p.reach_eq_concat htest
  have hspans : p.spans (CharTest.dot false).accepts p.after.length [] =
      p.past p.after [] :: nearer.reverse := by
    simp [Place.spans_eq_reach, hreach]
  simp only [Node.run, spanRounds, Option.getD_none, hspans]
  by_cases hnil : p.after = []
  · have : nearer = [] := by simpa [hnil] using hlength
    simp [hnil, this]
  · have hpos : 0 < nearer.length := hlength ▸ List.length_pos_iff.2 hnil
    obtain ⟨n, hn⟩ := Nat.exists_eq_succ_of_ne_zero hpos.ne'
    simp [hnil, hn, firstOf, Outcome.orElse]

/-- The tree for a part and a group for the rest of the line. -/
def followingTree (part : List Char) : Node :=
  Node.row (part.map (letterNode .exact) ++ [.capture 1 (.span 1 none .greedy (.dot false))])

theorem matchAt_followingTree (part : List Char) (h : '\n' ∉ p.after) :
    ((followingTree part).matchAt p).map (·.group? 1) =
      if part <+: p.after ∧ p.after.drop part.length ≠ [] then
        some (some (p.after.drop part.length))
      else none := by
  let q : Place := p.past part (p.after.drop part.length)
  have hline : '\n' ∉ q.after := fun hmem => h (List.mem_of_mem_drop hmem)
  have hrest : (Node.row [.capture 1 (.span 1 none .greedy (.dot false))]).run false q [] .found =
      _ := Node.run_group_rest hline
  rw [Node.matchAt, followingTree, Node.run_row_letters, hrest]
  by_cases hpart : part <+: p.after
  · rw [if_pos hpart]
    by_cases hnil : q.after = []
    · rw [if_pos hnil, if_neg fun hboth => hboth.2 hnil]
      rfl
    · rw [if_neg hnil, if_pos ⟨hpart, hnil⟩]
      have htext : q.textTo (q.past q.after []) = q.after := by
        simp [Place.textTo, Place.past]
      exact congrArg (fun text => some (some text)) htext
  · rw [if_neg hpart, if_neg fun hboth => hpart hboth.1]
    rfl

/-- The search finds what follows the first occurrence of the part, if that is not empty. -/
theorem searchFrom_followingTree {mayStart : List Char → Bool} (hstart : ∀ text, mayStart text = true)
    (part : List Char) (h : '\n' ∉ text) (pos : Nat) (before : List Char) :
    ((followingTree part).searchFrom mayStart pos before text).map (·.group? 1) =
      ((afterFirst part text).filter (· ≠ [])).map some := by
  induction text generalizing pos before with
  | nil =>
    rw [Node.searchFrom, if_pos (hstart _), matchAt_followingTree part h, if_neg (by simp)]
    cases part <;> rfl
  | cons c text ih =>
    have hmatch := matchAt_followingTree (p := ⟨pos, before, c :: text⟩) part h
    have hlater := ih (fun hmem => h (List.mem_cons_of_mem _ hmem)) (pos + 1) (c :: before)
    rw [Node.searchFrom, if_pos (hstart _), afterFirst]
    by_cases hpart : part <+: c :: text
    · rw [if_pos (by simpa using hpart)]
      by_cases hnil : (c :: text).drop part.length = []
      · -- the part is all that is left, so it does not stand any later
        have hshort : text.length < part.length := by
          have := List.drop_eq_nil_iff.1 hnil
          exact this
        rw [afterFirst_eq_none_of_length_lt hshort] at hlater
        rw [if_neg fun hboth => hboth.2 hnil, Option.map_eq_none_iff] at hmatch
        rw [hmatch, hnil]
        exact hlater
      · rw [if_pos ⟨hpart, hnil⟩, Option.map_eq_some_iff] at hmatch
        obtain ⟨found, hfound, hgroup⟩ := hmatch
        rw [hfound, Option.filter_some, if_pos (by simpa using hnil)]
        exact congrArg some hgroup
    · rw [if_neg fun hboth => hpart hboth.1, Option.map_eq_none_iff] at hmatch
      rw [hmatch, if_neg (by simpa using hpart)]
      exact hlater

/-- The pattern for a part in parentheses and a group for the rest of the line. -/
def followingPattern (part : List Char) : List Char :=
  "(?:".toList ++ (part.flatMap spelling ++ ')' :: "(.+)".toList)

theorem parseWith_followingPattern {part : List Char} (hpart : ∀ c ∈ part, isSpellable c = true) :
    ∃ s, parseWith {} (followingPattern part) = .ok s ∧ s.tree = followingTree part := by
  have husual : Options.IsUsual {} := ⟨rfl, rfl⟩
  have hdepth : 0 < State.levelLimit := by decide
  let held : State := (State.initial {}).add [.parens (part.map (letterNode .exact))]
  have hparens : (State.initial {}).LeadsTo ("(?:".toList ++ (part.flatMap spelling ++ [')'])) held :=
    (Spells.spelled husual hpart).parens husual rfl hdepth
  have hgroup : held.LeadsTo "(.+)".toList (held.addGroup (.span 1 none .greedy (.dot false))) :=
    ((SpellsTest.dot husual).many husual).group husual rfl hdepth
  have hway := (hparens.trans hgroup (endsRepetition_cons (by decide) _)).read_eq
  simp only [List.append_assoc, List.singleton_append] at hway
  have hreads := ((State.Reads.initial {}).add [.parens (part.map (letterNode .exact))]).addGroup
    (.span 1 none .greedy (.dot false))
  obtain ⟨hparse, htree⟩ := hreads.parseWith_eq hway
  exact ⟨_, hparse, by simpa [Item.row, followingTree] using htree⟩

/-- **The pattern finds what follows the first occurrence of its part**, if that is not empty. -/
theorem exists_compile_following {part : List Char} (hpart : ∀ c ∈ part, isSpellable c = true)
    (hne : part ≠ []) : ∃ c, compileWith {} (followingPattern part) = .ok c ∧
      ∀ text, '\n' ∉ text → ∃ found, c.find text = .ok found ∧
        found.map (·.group? 1) = ((afterFirst part text).filter (· ≠ [])).map some := by
  obtain ⟨s, hparse, htree⟩ := parseWith_followingPattern hpart
  have hregular : (followingTree part).IsRegular :=
    Node.isRegular_row (List.forall_mem_append.2
      ⟨Node.isRegular_letters _ _, by simp [Node.IsRegular]⟩)
  have hnumbered : (followingTree part).Numbered 0 2 :=
    Node.numbered_letters ⟨Nat.one_pos, Nat.le_refl _, Nat.le_refl _, Nat.one_lt_two⟩
  have hfirst (rule : CaseRule) (negated : Bool) (items : List ClassItem) :
      (followingTree part).firstTest? ≠ some (.oneOf rule negated items) := by
    obtain ⟨d, rest, rfl⟩ := List.exists_cons_of_ne_nil hne
    rw [followingTree, List.map_cons, List.cons_append, Node.firstTest?_row_cons]
    simp [letterNode, Node.firstTest?]
  rw [← htree] at hregular hnumbered hfirst
  obtain ⟨c, hcompile, hctree, hc⟩ := exists_compileWith hparse hregular hnumbered hfirst
  refine ⟨c, hcompile, fun text htext => ⟨_, hc.find_eq text, ?_⟩⟩
  rw [hctree, htree]
  exact searchFrom_followingTree hc.mayStart part htext 0 []

end KeywordCatalog.Pattern
