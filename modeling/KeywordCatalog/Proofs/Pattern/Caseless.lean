import KeywordCatalog.Proofs.Pattern.Spelled

/-!
# Patterns that ignore case

A pattern that starts with the option for letter case and goes on with a row of pieces is read as that
row (`parseWith_caselessRow`), and one with a group around the pieces as that group
(`parseWith_caselessGroup`).

In a chain every letter has a gap before it, which takes any characters but line breaks. So a chain
takes the texts in which its letters are spread (`Text.Spread`, `Node.takes_chainRow`). In a text
without line breaks the letters are spread exactly if they are scattered over it
(`Text.startsSpread_iff_isScattered`).
-/

namespace KeywordCatalog.Text

variable {c : Char} {chars more text : List Char}

/-- Whether a character is a letter, upper and lower case being the same. -/
def alike (letter c : Char) : Bool := sameCode (codeOf letter) (codeOf c)

theorem alike_refl (c : Char) : alike c c = true := by
  unfold alike sameCode
  split
  · exact beq_self_eq_true _
  · split
    · exact Bool.or_eq_true_iff.2 (Or.inl (beq_self_eq_true _))
    · exact beq_self_eq_true _

/-- Whether a character is a sign that case does not change. -/
def isSign (c : Char) : Bool := codeOf c < 128 && !isCasedCode (codeOf c)

theorem isSign_of_mem {c : Char} (hc : c ∈ ['$', '\x7b', '\x7d', '@', '&', '(']) :
    isSign c = true := by
  have hsigns : ['$', '\x7b', '\x7d', '@', '&', '('].all isSign = true := by decide +kernel
  exact List.all_eq_true.1 hsigns c hc

theorem lowerCode_inj_of_uncased {m n : Nat} (hm : m < 128) (hn : n < 128)
    (huncased : isCasedCode m = false) (h : lowerCode m = lowerCode n) : m = n := by
  have hletters : ∀ k < 128, isCasedCode k = false → ¬(65 ≤ k ∧ k ≤ 90) ∧ ¬(97 ≤ k ∧ k ≤ 122) := by
    decide +kernel
  obtain ⟨hupper, hlower⟩ := hletters m hm huncased
  simp only [lowerCode, hm, hn, if_true, Bool.and_eq_true, decide_eq_true_eq] at h
  split_ifs at h <;> omega

theorem sameCode_iff_eq {m n : Nat} (hm : m < 128) (huncased : isCasedCode m = false) :
    sameCode m n = true ↔ m = n := by
  by_cases hn : n < 128
  · have hboth : (decide (m < 128) && decide (n < 128)) = true := by simp [hm, hn]
    rw [sameCode, if_pos hboth, beq_iff_eq]
    exact ⟨lowerCode_inj_of_uncased hm hn huncased, congrArg lowerCode⟩
  · have hboth : ¬(decide (m < 128) && decide (n < 128)) = true := by simp [hn]
    have hcased : ¬isCasedCode m = true := by simp [huncased]
    rw [sameCode, if_neg hboth, if_neg hcased, beq_iff_eq]

/-- A sign is like itself only. -/
theorem alike_iff_eq {d : Char} (hc : isSign c = true) : alike c d = true ↔ c = d := by
  obtain ⟨hlt, huncased⟩ := Bool.and_eq_true_iff.1 hc
  rw [alike, sameCode_iff_eq (of_decide_eq_true hlt) (by simpa using huncased)]
  exact Pattern.codeOf_inj

/-- Whether some letters stand in a text, one after the other. -/
def IsScattered (chars text : List Char) : Prop :=
  ∃ part, part.Sublist text ∧ List.Forall₂ (fun c d => alike c d = true) chars part

/-- Whether a text is made of some letters, each with a gap before it in which no line ends. -/
def Spread : List Char → List Char → Prop
  | [], text => text = []
  | c :: chars, text =>
    ∃ gap d rest, text = gap ++ d :: rest ∧ '\n' ∉ gap ∧ alike c d = true ∧ Spread chars rest

/-- Whether some letters are spread over the start of a text. -/
def startsSpread : List Char → List Char → Bool
  | [], _ => true
  | _ :: _, [] => false
  | c :: chars, d :: text =>
    (alike c d && startsSpread chars text) || (d != '\n' && startsSpread (c :: chars) text)

/-- Whether some letters are spread over a part of a text. -/
def hasSpread (chars text : List Char) : Bool := text.tails.any (startsSpread chars)

theorem startsSpread_iff :
    startsSpread chars text = true ↔ ∃ taken rest, text = taken ++ rest ∧ Spread chars taken := by
  fun_induction startsSpread chars text with
  | case1 text => exact ⟨fun _ => ⟨[], text, rfl, rfl⟩, fun _ => rfl⟩
  | case2 c chars => simp [Spread]
  | case3 c chars d text ih ih' =>
    rw [Bool.or_eq_true, Bool.and_eq_true, Bool.and_eq_true, ih, ih', bne_iff_ne]
    constructor
    · rintro (⟨hd, taken, rest, rfl, h⟩ | ⟨hd, taken, rest, rfl, gap, e, last, rfl, hgap, h⟩)
      · exact ⟨d :: taken, rest, rfl, [], d, taken, rfl, List.not_mem_nil, hd, h⟩
      · refine ⟨d :: (gap ++ e :: last), rest, rfl, d :: gap, e, last, rfl, ?_, h⟩
        simp [hgap, hd.symm]
    · rintro ⟨taken, rest, htext, gap, e, last, rfl, hgap, he, h⟩
      cases gap with
      | nil =>
        obtain ⟨rfl, rfl⟩ := List.cons.inj htext
        exact Or.inl ⟨he, last, rest, rfl, h⟩
      | cons b gap =>
        obtain ⟨rfl, rfl⟩ := List.cons.inj htext
        obtain ⟨hb, hgap⟩ := not_or.1 (mt List.mem_cons.2 hgap)
        exact Or.inr ⟨Ne.symm hb, _, rest, rfl, gap, e, last, rfl, hgap, he, h⟩

theorem hasSpread_iff : hasSpread chars text = true ↔
    ∃ skipped taken rest, text = skipped ++ taken ++ rest ∧ Spread chars taken := by
  simp only [hasSpread, List.any_eq_true, List.mem_tails, startsSpread_iff]
  constructor
  · rintro ⟨_, ⟨skipped, rfl⟩, taken, rest, rfl, h⟩
    exact ⟨skipped, taken, rest, by rw [List.append_assoc], h⟩
  · rintro ⟨skipped, taken, rest, rfl, h⟩
    exact ⟨taken ++ rest, ⟨skipped, by rw [List.append_assoc]⟩, taken, rest, rfl, h⟩

theorem spread_append : Spread (chars ++ more) text ↔
    ∃ first second, text = first ++ second ∧ Spread chars first ∧ Spread more second := by
  induction chars generalizing text with
  | nil =>
    constructor
    · intro h
      exact ⟨[], text, rfl, rfl, h⟩
    · rintro ⟨first, second, rfl, rfl, h⟩
      exact h
  | cons c chars ih =>
    simp only [List.cons_append, Spread, ih]
    constructor
    · rintro ⟨gap, d, _, rfl, hgap, hd, first, second, rfl, h, h'⟩
      exact ⟨gap ++ d :: first, second, by simp, ⟨gap, d, first, rfl, hgap, hd, h⟩, h'⟩
    · rintro ⟨_, second, rfl, ⟨gap, d, first, rfl, hgap, hd, h⟩, h'⟩
      exact ⟨gap, d, first ++ second, by simp, hgap, hd, first, second, rfl, h, h'⟩

/-- Letters that are spread over a text are so without the last ones of them. -/
theorem hasSpread_of_append (h : hasSpread (chars ++ more) text = true) :
    hasSpread chars text = true := by
  obtain ⟨skipped, taken, rest, rfl, hspread⟩ := hasSpread_iff.1 h
  obtain ⟨first, second, rfl, hfirst, -⟩ := spread_append.1 hspread
  exact hasSpread_iff.2 ⟨skipped, first, second ++ rest, by simp, hfirst⟩

theorem isScattered_nil : IsScattered [] text := ⟨[], List.nil_sublist text, .nil⟩

theorem not_isScattered_nil : ¬IsScattered (c :: chars) [] := by
  rintro ⟨part, hpart, hchars⟩
  obtain rfl := List.sublist_nil.1 hpart
  cases hchars

theorem isScattered_cons_cons {d : Char} : IsScattered (c :: chars) (d :: text) ↔
    (alike c d = true ∧ IsScattered chars text) ∨ IsScattered (c :: chars) text := by
  constructor
  · rintro ⟨part, hpart, hchars⟩
    cases hpart with
    | cons _ hpart => exact Or.inr ⟨part, hpart, hchars⟩
    | cons_cons _ hpart =>
      obtain ⟨hc, hchars⟩ := List.forall₂_cons.1 hchars
      exact Or.inl ⟨hc, _, hpart, hchars⟩
  · rintro (⟨hc, part, hpart, hchars⟩ | ⟨part, hpart, hchars⟩)
    · exact ⟨d :: part, hpart.cons_cons d, .cons hc hchars⟩
    · exact ⟨part, hpart.cons d, hchars⟩

/-- A sign at the end of a text stands for itself. -/
theorem isScattered_concat (hc : isSign c = true) :
    IsScattered (chars ++ [c]) (text ++ [c]) ↔ IsScattered chars text := by
  constructor
  · rintro ⟨part, hpart, hpairs⟩
    have hfirst := List.forall₂_take_append _ _ _ hpairs.flip
    obtain ⟨d, last, hd, hlast, hdrop⟩ :=
      List.forall₂_cons_right_iff.1 (List.forall₂_drop_append _ _ _ hpairs.flip)
    obtain rfl := List.forall₂_nil_right_iff.1 hlast
    obtain rfl := (alike_iff_eq hc).1 hd
    rw [← List.take_append_drop chars.length part, hdrop, List.append_sublist_append_right] at hpart
    exact ⟨_, hpart, hfirst.flip⟩
  · rintro ⟨part, hpart, hpairs⟩
    exact ⟨part ++ [c], (List.append_sublist_append_right _).2 hpart,
      List.rel_append hpairs (.cons ((alike_iff_eq hc).2 rfl) .nil)⟩

instance decidableIsScattered : (chars text : List Char) → Decidable (IsScattered chars text)
  | [], _ => .isTrue isScattered_nil
  | _ :: _, [] => .isFalse not_isScattered_nil
  | c :: chars, _ :: text =>
    have := decidableIsScattered chars text
    have := decidableIsScattered (c :: chars) text
    decidable_of_iff _ isScattered_cons_cons.symm

/-- Where no line ends, letters are spread over a start of the text if they are scattered over it. -/
theorem startsSpread_iff_isScattered (h : '\n' ∉ text) :
    startsSpread chars text = true ↔ IsScattered chars text := by
  fun_induction startsSpread chars text with
  | case1 text => exact iff_of_true rfl isScattered_nil
  | case2 c chars => exact iff_of_false Bool.false_ne_true not_isScattered_nil
  | case3 c chars d text ih ih' =>
    obtain ⟨hd, htext⟩ := not_or.1 (mt List.mem_cons.2 h)
    have hgap : (d != '\n') = true := bne_iff_ne.2 (Ne.symm hd)
    rw [Bool.or_eq_true, Bool.and_eq_true, Bool.and_eq_true, ih htext, ih' htext,
      isScattered_cons_cons, and_iff_right hgap]

end KeywordCatalog.Text

namespace KeywordCatalog.Pattern

open Text

variable {s : State} {text before taken rest : List Char} {nodes : List Node}

/-! ### Reading -/

/-- The options of a pattern that ignores case. -/
def caselessOptions : Options := { ignoreCase := true }

theorem caselessOptions_isUsual : caselessOptions.IsUsual := ⟨rfl, rfl⟩

/-- The state after the option has been read. -/
def caselessState : State := (State.initial {}).turnOn ['i']

theorem leadsTo_caselessState : (State.initial {}).LeadsTo "(?i)".toList caselessState := by
  change (State.initial {}).LeadsTo ('(' :: ['?', 'i', ')']) caselessState
  exact .single (Or.inl (by decide)) (by decide) fun rest _ => rfl

/-- A row of pieces after the option is read as that row. -/
theorem parseWith_caselessRow (h : Spells caselessOptions text nodes) :
    ∃ s, parseWith {} ("(?i)".toList ++ text) = .ok s ∧ s.tree = Node.row nodes := by
  have hway := leadsTo_caselessState.trans (h.leadsTo caselessState rfl (by decide))
    h.endsRepetition
  refine ⟨caselessState.add (nodes.map .node), ?_, ?_⟩
  · rw [parseWith, hway.read_eq]
    rfl
  · have hcurrent : (caselessState.add (nodes.map .node)).level.currentRow = nodes :=
      (State.currentRow_add _ _).trans (flatMap_row_node nodes)
    exact congrArg Node.row hcurrent

/-- A group of pieces after the option is read as that group. -/
theorem parseWith_caselessGroup (h : Spells caselessOptions text nodes) :
    ∃ s, parseWith {} ("(?i)".toList ++ ('(' :: (text ++ [')']))) = .ok s ∧
      s.tree = .capture 1 (Node.row nodes) := by
  have hgroup : caselessState.LeadsTo ('(' :: (text ++ [')']))
      (caselessState.addGroup (Node.row nodes)) :=
    h.group caselessOptions_isUsual rfl (by decide)
  have hway := leadsTo_caselessState.trans hgroup (endsRepetition_cons (by decide) _)
  refine ⟨caselessState.addGroup (Node.row nodes), ?_, rfl⟩
  rw [parseWith, hway.read_eq]
  rfl

/-! ### Chains -/

/-- Any characters but line breaks. -/
def gapNode : Node := .span 0 none .greedy (.dot false)

/-- A letter after a gap for each of some characters. -/
def chainRow (chars : List Char) : List Node :=
  chars.flatMap fun c => [gapNode, letterNode .all c]

theorem chainRow_cons (c : Char) (chars : List Char) :
    chainRow (c :: chars) = gapNode :: letterNode .all c :: chainRow chars := rfl

theorem isPiece_chainRow (chars : List Char) : ∀ node ∈ chainRow chars, node.IsPiece := by
  intro node hnode
  obtain ⟨c, -, hnode⟩ := List.mem_flatMap.1 hnode
  rcases List.mem_pair.1 hnode with rfl | rfl
  · trivial
  · exact isPiece_letterNode .all c

theorem spells_gap : Spells caselessOptions ['.', '*'] [gapNode] :=
  (SpellsTest.dot caselessOptions_isUsual).anyNumber caselessOptions_isUsual

theorem spells_letter {c : Char} (hc : isLiteral c = true) :
    Spells caselessOptions [c] [letterNode .all c] :=
  (SpellsTest.letter caselessOptions_isUsual hc).spells

/-- A sign after a backslash. -/
theorem spells_sign {c : Char} (hc : c ∈ ['$', '\x7b', '\x7d', '@', '&', '(']) :
    Spells caselessOptions ['\\', c] [letterNode .all c] :=
  (SpellsTest.escaped caselessOptions_isUsual hc).spells

theorem spells_chain {chars : List Char} (h : ∀ c ∈ chars, isLiteral c = true) :
    Spells caselessOptions (chars.flatMap fun c => ['.', '*', c]) (chainRow chars) :=
  .flatMap fun c hc => spells_gap.append (spells_letter (h c hc))

theorem takes_gapNode : gapNode.Takes before taken rest ↔ '\n' ∉ taken := by
  constructor
  · rintro ⟨-, -, htaken⟩ hbreak
    exact absurd (htaken _ hbreak) (by decide)
  · intro hbreak
    refine ⟨Nat.zero_le _, nofun, fun c hc => ?_⟩
    have hne : c ≠ '\n' := by
      rintro rfl
      exact hbreak hc
    simpa [CharTest.accepts] using hne

theorem takes_letterNode {c : Char} : (letterNode .all c).Takes before taken rest ↔
    ∃ d, alike c d = true ∧ taken = [d] := by
  simp [letterNode, Node.Takes, CharTest.accepts, CaseRule.same, alike]

/-- Letters take a text that is like them, letter by letter. -/
theorem takes_lettersRow {chars : List Char} :
    (Node.row (chars.map (letterNode .all) ++ nodes)).Takes before taken rest ↔
      ∃ part more, taken = part ++ more ∧ List.Forall₂ (fun c d => alike c d = true) chars part ∧
        (Node.row nodes).Takes (part.reverse ++ before) more rest := by
  have htests : chars.map (letterNode .all) =
      (chars.map fun c => CharTest.letter .all false (codeOf c)).map .one := by
    rw [List.map_map]
    rfl
  rw [htests, Node.takes_row_tests]
  simp only [List.forall₂_map_left_iff]
  simp [CharTest.accepts, CaseRule.same, alike]

/-- A chain takes the texts in which its letters are spread. -/
theorem takes_chainRow {chars : List Char} :
    (Node.row (chainRow chars)).Takes before taken rest ↔ Spread chars taken := by
  induction chars generalizing before taken with
  | nil => exact Iff.rfl
  | cons c chars ih =>
    simp only [chainRow_cons, Node.takes_row_cons, takes_gapNode, takes_letterNode, ih]
    constructor
    · rintro ⟨gap, _, rfl, hgap, _, last, rfl, ⟨d, hd, rfl⟩, h⟩
      exact ⟨gap, d, last, rfl, hgap, hd, h⟩
    · rintro ⟨gap, d, last, rfl, hgap, hd, h⟩
      exact ⟨gap, d :: last, rfl, hgap, [d], last, rfl, ⟨d, hd, rfl⟩, h⟩

/-! ### Rows that start with a sign -/

theorem takes_signRow {c : Char} (hc : isSign c = true) :
    (Node.row (letterNode .all c :: nodes)).Takes before taken rest ↔
      ∃ tail, taken = c :: tail ∧ (Node.row nodes).Takes (c :: before) tail rest := by
  simp only [Node.takes_row_cons, takes_letterNode, alike_iff_eq hc]
  constructor
  · rintro ⟨_, tail, rfl, ⟨_, rfl, rfl⟩, h⟩
    exact ⟨tail, rfl, h⟩
  · rintro ⟨tail, rfl, h⟩
    exact ⟨[c], tail, rfl, ⟨c, rfl, rfl⟩, h⟩

theorem exists_compile_signRow {c : Char} (hc : c ∈ ['$', '\x7b', '\x7d', '@', '&', '('])
    (h : Spells caselessOptions text nodes) (hpieces : ∀ node ∈ nodes, node.IsPiece) :
    ∃ p, compileWith {} ("(?i)".toList ++ (['\\', c] ++ text)) = .ok p ∧
      p.tree = Node.row (letterNode .all c :: nodes) ∧ p.IsRegular := by
  have hrow : Spells caselessOptions (['\\', c] ++ text) (letterNode .all c :: nodes) :=
    (spells_sign hc).append h
  obtain ⟨s, hparse, htree⟩ := parseWith_caselessRow hrow
  have hpieces' : ∀ node ∈ letterNode .all c :: nodes, node.IsPiece :=
    List.forall_mem_cons.2 ⟨isPiece_letterNode .all c, hpieces⟩
  obtain ⟨p, hp, hptree, hregular⟩ := exists_compileWith hparse
    (htree ▸ Node.isRegular_row fun node hnode => (hpieces' node hnode).isRegular)
    (htree ▸ Node.numbered_pieces hpieces' 0)
    (fun rule negated items heq => by rw [htree, Node.firstTest?_row_cons] at heq; cases heq)
  exact ⟨p, hp, hptree.trans htree, hregular⟩

/-! ### Chains in a group -/

/-- **A chain in a group is found in the texts that have its letters spread over a part of them.** -/
theorem exists_compile_chain {chars : List Char} (h : ∀ c ∈ chars, isLiteral c = true) :
    ∃ p, compileWith {} ("(?i)".toList ++
        ('(' :: ((chars.flatMap fun c => ['.', '*', c]) ++ [')']))) = .ok p ∧
      ∀ text, p.occursIn text = .ok (hasSpread chars text.toList) := by
  obtain ⟨s, hparse, htree⟩ := parseWith_caselessGroup (spells_chain h)
  have hpieces := isPiece_chainRow chars
  have hnumbered : (Node.capture 1 (Node.row (chainRow chars))).Numbered 0 2 :=
    ⟨by decide, by decide, Node.numbered_pieces hpieces _, by decide⟩
  have hfirst : (Node.capture 1 (Node.row (chainRow chars))).firstTest? = none := by
    cases chars <;> rfl
  obtain ⟨p, hp, hptree, hregular⟩ := exists_compileWith hparse
    (htree ▸ Node.isRegular_row fun node hnode => (hpieces node hnode).isRegular)
    (htree ▸ hnumbered) (fun rule negated items heq => by rw [htree, hfirst] at heq; cases heq)
  refine ⟨p, hp, fun text => ?_⟩
  obtain ⟨found, hfound, hiff⟩ := hregular.occursIn_iff text
  have htakes (skipped taken rest : List Char) :
      p.tree.Takes skipped.reverse taken rest ↔ Spread chars taken := by
    rw [hptree, htree]
    exact takes_chainRow
  simp only [htakes, ← hasSpread_iff] at hiff
  rw [hfound, Bool.eq_iff_iff.2 hiff]

end KeywordCatalog.Pattern
