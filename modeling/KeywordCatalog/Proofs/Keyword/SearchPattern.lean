import KeywordCatalog.Keyword.SearchPattern
import KeywordCatalog.Proofs.Keyword.Words
import KeywordCatalog.Proofs.Pattern.Spelled
import Mathlib.Data.Bool.AllAny

/-!
# Reading the search patterns of a keyword

The search patterns of a keyword are put together from the patterns of its words with a divider after
each of them, and the last divider is stripped off again (`stripEnd_joined`). What is left is read as
a row: the trees of the words with a gap between two of them (`wordsRow`).

If the words are made of letters and digits, this row takes the texts that the words spell
(`takes_wordsRow`). The pattern for a resource has the row between two line anchors
(`exists_compile_resourcePattern`).
-/

namespace KeywordCatalog.Keyword

open Text Pattern

variable {c d : Char} {set : String} {divider word last name text before taken rest : List Char}
  {init : List (List Char)} {isGap : Char → Bool} {test : CharTest}

/-! ### Stripping the last divider -/

theorem stripEnd_append (hdivider : ∀ c ∈ divider, set.toList.contains c = true)
    (htext : ∃ c ∈ text.getLast?, set.toList.contains c = false) :
    stripEnd set (text ++ divider) = text := by
  obtain ⟨c, hc, hset⟩ := htext
  obtain ⟨before, rfl⟩ := List.getLast?_eq_some_iff.1 hc
  have hreverse : ∀ c ∈ divider.reverse, set.toList.contains c = true :=
    fun c hc => hdivider c (List.mem_reverse.1 hc)
  rw [stripEnd, dropTrailing, List.reverse_append, List.dropWhile_append_of_pos hreverse,
    List.reverse_append, List.reverse_singleton, List.singleton_append,
    List.dropWhile_cons_of_neg (by simpa using hset)]
  simp

/-- The words of a name with a divider between them. -/
def wordsText (divider : List Char) (form : List Char → List Char) (init : List (List Char))
    (last : List Char) : List Char :=
  init.flatMap (fun word => form word ++ divider) ++ form last

theorem wordsText_congr {form form' : List Char → List Char}
    (h : ∀ word ∈ init ++ [last], form word = form' word) :
    wordsText divider form init last = wordsText divider form' init last := by
  obtain ⟨hinit, hlast⟩ := List.forall_mem_append.1 h
  rw [wordsText, wordsText, hlast last (List.mem_singleton_self last),
    List.flatMap_congr fun word hword => by rw [hinit word hword]]

/-- Without its last divider, the text for a name has the dividers between its words. -/
theorem stripEnd_joined {divider : String} {form : List Char → List Char} (start : List Char)
    (hwords : words name = init ++ [last])
    (hdivider : ∀ c ∈ divider.toList, set.toList.contains c = true)
    (hlast : ∃ c ∈ (form last).getLast?, set.toList.contains c = false) :
    stripEnd set (start ++ joined divider form name) =
      start ++ wordsText divider.toList form init last := by
  have hjoined : start ++ joined divider form name =
      start ++ wordsText divider.toList form init last ++ divider.toList := by
    simp [joined, hwords, wordsText]
  rw [hjoined]
  refine stripEnd_append hdivider ?_
  obtain ⟨c, hc, hset⟩ := hlast
  refine ⟨c, ?_, hset⟩
  rw [Option.mem_def] at hc ⊢
  rw [wordsText, ← List.append_assoc, List.getLast?_append, hc]
  rfl

/-! ### Rows of words -/

/-- The trees of words with a gap between two of them. -/
def wordsRow (gap : Node) (trees : List Char → List Node) (init : List (List Char))
    (last : List Char) : List Node :=
  init.flatMap (fun word => trees word ++ [gap]) ++ trees last

/-- The letters of a word. -/
def letterTrees (word : List Char) : List Node := (lower word).map (letterNode .all)

/-- A divider that may be there or not. -/
def optionalGap (test : CharTest) : Node := .span 0 (some 1) .greedy test

theorem isPiece_optionalGap (test : CharTest) : (optionalGap test).IsPiece := trivial

theorem spells_wordsText {form : List Char → List Char} {gap : Node} {trees : List Char → List Node}
    (hinit : ∀ word ∈ init, Spells lineOptions (form word ++ divider) (trees word ++ [gap]))
    (hlast : Spells lineOptions (form last) (trees last)) :
    Spells lineOptions (wordsText divider form init last) (wordsRow gap trees init last) :=
  (Spells.flatMap hinit).append hlast

theorem wordsRow_congr {gap : Node} {trees trees' : List Char → List Node}
    (h : ∀ word ∈ init ++ [last], trees word = trees' word) :
    wordsRow gap trees init last = wordsRow gap trees' init last := by
  obtain ⟨hinit, hlast⟩ := List.forall_mem_append.1 h
  rw [wordsRow, wordsRow, hlast last (List.mem_singleton_self last),
    List.flatMap_congr fun word hword => by rw [hinit word hword]]

theorem isPiece_wordsRow {gap : Node} {trees : List Char → List Node} (hgap : gap.IsPiece)
    (htrees : ∀ word ∈ init ++ [last], ∀ node ∈ trees word, node.IsPiece) :
    ∀ node ∈ wordsRow gap trees init last, node.IsPiece := by
  obtain ⟨hinit, hlast⟩ := List.forall_mem_append.1 htrees
  refine List.forall_mem_append.2 ⟨fun node hnode => ?_, hlast last (List.mem_singleton_self last)⟩
  obtain ⟨word, hword, hnode⟩ := List.mem_flatMap.1 hnode
  rcases List.mem_append.1 hnode with hnode | hnode
  · exact hinit word hword node hnode
  · exact List.mem_singleton.1 hnode ▸ hgap

/-! ### What words take -/

theorem toNat_lowerChar (hc : c.toNat < 128) : (lowerChar c).toNat = lowerCode c.toNat :=
  forall_ascii (P := fun c => (lowerChar c).toNat = lowerCode c.toNat) (by decide) hc

/-- A letter in lower case accepts the letter in both cases. -/
theorem accepts_lower_letter (hc : c.toNat < 128) (hd : d.toNat < 128) :
    (CharTest.letter .all false (codeOf (lowerChar c))).accepts d = true ↔
      lowerChar d = lowerChar c := by
  obtain ⟨hascii, hlower, -⟩ := lowerChar_ascii hc
  have hsame : (CharTest.letter .all false (codeOf (lowerChar c))).accepts d = true ↔
      lowerCode (lowerChar c).toNat = lowerCode d.toNat := by
    simp [CharTest.accepts, CaseRule.same, sameCode, codeOf_of_lt hascii, codeOf_of_lt hd, hascii, hd]
  rw [hsame, ← toNat_lowerChar hascii, ← toNat_lowerChar hd, hlower, eq_comm]
  constructor
  · intro h
    rw [← Char.ofNat_toNat (lowerChar d), h, Char.ofNat_toNat]
  · intro h
    rw [h]

theorem takes_letterTrees (hword : IsAscii word) (htaken : IsAscii taken) :
    (Node.row (letterTrees word)).Takes before taken rest ↔
      taken.map lowerChar = word.map lowerChar := by
  have hforall : List.Forall₂ (fun test c => test.accepts c = true)
      (word.map fun c => CharTest.letter .all false (codeOf (lowerChar c))) taken ↔
        taken.map lowerChar = word.map lowerChar := by
    induction word generalizing taken with
    | nil => rw [List.map_nil, List.forall₂_nil_left_iff, List.map_nil, List.map_eq_nil_iff]
    | cons c word ih =>
      obtain ⟨hc, hword⟩ := List.forall_mem_cons.1 hword
      cases taken with
      | nil => simp
      | cons d taken =>
        obtain ⟨hd, htaken⟩ := List.forall_mem_cons.1 htaken
        rw [List.map_cons, List.forall₂_cons, ih hword htaken, accepts_lower_letter hc hd,
          List.map_cons, List.map_cons, List.cons.injEq]
  have hrow : letterTrees word =
      (word.map fun c => CharTest.letter .all false (codeOf (lowerChar c))).map .one ++ [] := by
    rw [letterTrees, lower_of_isAscii hword, List.map_map, List.map_map, List.append_nil]
    rfl
  rw [hrow, Node.takes_row_tests, ← hforall]
  constructor
  · rintro ⟨first, _, rfl, hfirst, rfl⟩
    simpa using hfirst
  · intro h
    exact ⟨taken, [], by simp, h, rfl⟩

/-- **The row of words takes the texts that the words spell.** -/
theorem takes_wordsRow (htest : ∀ c, c.toNat < 128 → (test.accepts c = true ↔ isGap c = true))
    (hwords : ∀ word ∈ init ++ [last], IsAscii word) (htaken : IsAscii taken) :
    (Node.row (wordsRow (optionalGap test) letterTrees init last)).Takes before taken rest ↔
      Spelled isGap init last taken := by
  have hpart {first second : List Char} (h : IsAscii (first ++ second)) :
      IsAscii first ∧ IsAscii second :=
    List.forall_mem_append.1 h
  induction init generalizing before taken with
  | nil => exact takes_letterTrees (hwords last (by simp)) htaken
  | cons word init ih =>
    obtain ⟨hword, hwords⟩ := List.forall_mem_cons.1 hwords
    have hrow : wordsRow (optionalGap test) letterTrees (word :: init) last =
        letterTrees word ++ (optionalGap test :: wordsRow (optionalGap test) letterTrees init last) := by
      simp [wordsRow]
    rw [hrow, Node.takes_row_append]
    constructor
    · rintro ⟨first, _, rfl, hfirst, hrest⟩
      obtain ⟨gap, more, rfl, ⟨-, hlength, hgap⟩, hmore⟩ := Node.takes_row_cons.1 hrest
      obtain ⟨hfirstAscii, hrestAscii⟩ := hpart htaken
      obtain ⟨hgapAscii, hmoreAscii⟩ := hpart hrestAscii
      refine ⟨first, gap, more, rfl, (takes_letterTrees hword hfirstAscii).1 hfirst,
        hlength 1 rfl, fun c hc => (htest c (hgapAscii c hc)).1 (hgap c hc),
        (ih hwords hmoreAscii).1 hmore⟩
    · rintro ⟨first, gap, more, rfl, hfirst, hlength, hgap, hmore⟩
      obtain ⟨hfirstAscii, hrestAscii⟩ := hpart htaken
      obtain ⟨hgapAscii, hmoreAscii⟩ := hpart hrestAscii
      refine ⟨first, gap ++ more, rfl, (takes_letterTrees hword hfirstAscii).2 hfirst,
        Node.takes_row_cons.2 ⟨gap, more, rfl, ⟨Nat.zero_le _, ?_, ?_⟩,
          (ih hwords hmoreAscii).2 hmore⟩⟩
      · rintro _ ⟨⟩
        exact hlength
      · exact fun c hc => (htest c (hgapAscii c hc)).2 (hgap c hc)

/-! ### Dividers -/

/-- The test for a space or a low line. -/
def dividerTest : CharTest := .oneOf .all false [.char (codeOf '_'), .char (codeOf ' ')]

theorem spellsTest_divider : SpellsTest lineOptions ['[', '_', ' ', ']'] dividerTest :=
  .ofClass lineOptions_isUsual fun rest => by
    have hclass : classTest lineOptions.rule false [.char (codeOf '_'), .char (codeOf ' ')] =
        dividerTest := by decide
    simp [readClass, readMembers, readMember, hclass]

theorem accepts_dividerTest : dividerTest.accepts c = true ↔ isDivider c = true := by
  have hplain : ([.char (codeOf '_'), .char (codeOf ' ')] : List ClassItem).any
      (ClassItem.isCased .all) = false := by decide
  simp only [dividerTest, CharTest.accepts, hplain, Bool.false_eq_true, if_false, List.any_cons,
    List.any_nil, ClassItem.has, Bool.bne_false, Bool.or_false, Bool.or_eq_true, beq_iff_eq,
    codeOf_inj, isDivider]
  rw [or_comm, @eq_comm _ c, @eq_comm _ c]

/-! ### Words of letters and digits -/

theorem isAscii_of_isAlphanum (h : ∀ c ∈ word, c.isAlphanum = true) : IsAscii word :=
  isAscii_of_isSimpleChar fun c hc => Bool.or_eq_true_iff.2 (Or.inl (h c hc))

theorem isBareChar_of_mem_lower (h : ∀ c ∈ word, c.isAlphanum = true) (hc : c ∈ lower word) :
    isBareChar c = true := by
  have hascii := isAscii_of_isAlphanum h
  rw [lower_of_isAscii hascii] at hc
  obtain ⟨d, hd, rfl⟩ := List.mem_map.1 hc
  exact forall_ascii (P := fun d => d.isAlphanum = true → isBareChar (lowerChar d) = true)
    (by decide) (hascii d hd) (h d hd)

theorem isLiteral_of_mem_lower (h : ∀ c ∈ word, c.isAlphanum = true) (hc : c ∈ lower word) :
    isLiteral c = true :=
  (isBareChar_spec (isBareChar_of_mem_lower h hc)).2.2.2.1

theorem exists_getLast_lower (h : ∀ c ∈ word, c.isAlphanum = true) (hword : word ≠ [])
    (hset : ∀ c ∈ set.toList, isBareChar c = false) :
    ∃ c ∈ (lower word).getLast?, set.toList.contains c = false := by
  have hlower : lower word ≠ [] := by
    rw [lower_of_isAscii (isAscii_of_isAlphanum h)]
    simpa using hword
  refine ⟨(lower word).getLast hlower, List.getLast?_eq_some_getLast hlower, ?_⟩
  rw [Bool.eq_false_iff, ne_eq, List.contains_iff_mem]
  intro hmem
  have hbare := isBareChar_of_mem_lower h (List.getLast_mem hlower)
  rw [hset _ hmem] at hbare
  cases hbare

/-- A text in lower case without signs is read letter by letter. -/
theorem spells_letterTrees (h : ∀ c ∈ lower word, isLiteral c = true) :
    Spells lineOptions (lower word) (letterTrees word) :=
  .letters lineOptions_isUsual h

/-- Words of letters and digits are read letter by letter. -/
theorem spells_letterWords {gap : Node} (hdivider : Spells lineOptions divider [gap])
    (hwords : ∀ word ∈ init ++ [last], ∀ c ∈ word, c.isAlphanum = true) :
    Spells lineOptions (wordsText divider lower init last) (wordsRow gap letterTrees init last) := by
  have hspells : ∀ word ∈ init ++ [last], Spells lineOptions (lower word) (letterTrees word) :=
    fun word hword => spells_letterTrees fun c => isLiteral_of_mem_lower (hwords word hword)
  refine spells_wordsText (fun word hword => ?_) (hspells last (by simp))
  exact (hspells word (List.mem_append_left _ hword)).append hdivider

theorem isPiece_letterWords {gap : Node} (hgap : gap.IsPiece) (init : List (List Char))
    (last : List Char) : ∀ node ∈ wordsRow gap letterTrees init last, node.IsPiece :=
  isPiece_wordsRow hgap fun word _ => isPiece_letters .all (lower word)

/-! ### The pattern for a resource -/

theorem mem_of_hasArgument (h : hasArgument word = true) : '$' ∈ word ∧ '\x7d' ∈ word := by
  have hline (line : List Char) (hline : lineHasArgument line = true) : '$' ∈ line ∧ '\x7d' ∈ line := by
    induction line with
    | nil => cases hline
    | cons c line ih =>
      rw [lineHasArgument, Bool.or_eq_true] at hline
      rcases hline with hstart | hline
      · unfold startsWithArgument at hstart
        split at hstart
        · rename_i d rest heq
          obtain ⟨rfl, rfl⟩ := List.cons.inj heq
          have hclose : '\x7d' ∈ rest := List.contains_iff_mem.1 hstart
          exact ⟨List.mem_cons_self, by simp [hclose]⟩
        · cases hstart
      · exact ⟨List.mem_cons_of_mem c (ih hline).1, List.mem_cons_of_mem c (ih hline).2⟩
  rw [hasArgument, List.any_eq_true] at h
  obtain ⟨line, hmem, hargument⟩ := h
  obtain ⟨hdollar, hclose⟩ := hline line hargument
  exact ⟨(forall_mem_of_mem_splitOnP hmem _ hdollar).1, (forall_mem_of_mem_splitOnP hmem _ hclose).1⟩

theorem hasArgument_eq_false (h : '$' ∉ word) : hasArgument word = false :=
  Bool.eq_false_iff.2 fun hargument => h (mem_of_hasArgument hargument).1

theorem wordPattern_of_isAlphanum (h : ∀ c ∈ word, c.isAlphanum = true) :
    wordPattern word = lower word := by
  have hdollar : '$' ∉ word := fun hmem => absurd (h '$' hmem) (by decide)
  rw [wordPattern, hasArgument_eq_false hdollar, if_neg Bool.false_ne_true]

/-- The divider of a pattern for a resource. -/
def resourceDivider : List Char := ['[', '_', ' ', ']', '?']

theorem spells_resourceDivider : Spells lineOptions resourceDivider [optionalGap dividerTest] :=
  spellsTest_divider.optional lineOptions_isUsual

/-- The row of a pattern for a resource stands between the line anchors. -/
def lineRow (nodes : List Node) : List Node :=
  .anchor (.lineStart true) :: (nodes ++ [.anchor (.lineEnd true)])

/-- The pattern for a resource is the row of its words between the line anchors. -/
theorem exists_compile_resourcePattern {name : String} {nodes : List Node}
    (hwords : words name.toList = init ++ [last])
    (hlast : ∃ c ∈ (wordPattern last).getLast?, resourceDivider.contains c = false)
    (hspells : Spells lineOptions (wordsText resourceDivider wordPattern init last) nodes)
    (hpieces : ∀ node ∈ nodes, node.IsPiece) :
    ∃ p, Pattern.compile (resourcePattern name) = .ok p ∧ p.tree = Node.row (lineRow nodes) ∧
      p.IsRegular := by
  have hstart : Spells lineOptions ['^'] [.anchor (.lineStart true)] :=
    .lineStart lineOptions_isUsual
  have hend : Spells lineOptions ['$'] [.anchor (.lineEnd true)] := .lineEnd lineOptions_isUsual
  have hline : Spells lineOptions
      (['^'] ++ (wordsText resourceDivider wordPattern init last ++ ['$'])) (lineRow nodes) :=
    hstart.append (hspells.append hend)
  have hpiecesLine : ∀ node ∈ lineRow nodes, node.IsPiece := by
    intro node hnode
    rcases List.mem_cons.1 hnode with rfl | hnode
    · trivial
    · rcases List.mem_append.1 hnode with hnode | hnode
      · exact hpieces node hnode
      · obtain rfl := List.mem_singleton.1 hnode
        trivial
  have htext : (resourcePattern name).toList = "(?im)".toList ++
      (['^'] ++ (wordsText resourceDivider wordPattern init last ++ ['$'])) := by
    have hstrip : stripEnd "[_ ]?" ("(?im)^".toList ++ joined "[_ ]?" wordPattern name.toList) =
        "(?im)^".toList ++ wordsText resourceDivider wordPattern init last :=
      stripEnd_joined _ hwords (List.all_iff_forall_prop.1 (by decide)) hlast
    rw [resourcePattern, String.toList_ofList, hstrip]
    simp [resourceDivider]
  rw [Pattern.compile, htext]
  exact exists_compile_row hline hpiecesLine rfl

end KeywordCatalog.Keyword
