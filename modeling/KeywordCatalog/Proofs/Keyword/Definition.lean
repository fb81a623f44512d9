import KeywordCatalog.Proofs.Keyword.SearchPattern

/-!
# Finding the function of a library keyword

The search pattern for a library keyword is a choice between two groups: the head of a function whose
name is spelled by the words of the keyword, and a decorator that gives the name. A text with the
head of the function is found, whether its words are joined by low lines or by nothing; and a match
of the first group is the head of a function that is named like the keyword
(`exists_find_libraryPattern`).
-/

namespace KeywordCatalog.Keyword

open Text Pattern

variable {last name text before taken rest : List Char} {init parts : List (List Char)}

/-! ### The two groups -/

/-- The test for the low line between two words. -/
def lowLineTest : CharTest := .letter .all false (codeOf '_')

/-- The test for a quotation mark. -/
def quoteTest : CharTest := .oneOf .all false [.char (codeOf '\''), .char (codeOf '"')]

theorem spellsTest_quote : SpellsTest lineOptions ['[', '\\', '\'', '"', ']'] quoteTest :=
  .ofClass lineOptions_isUsual fun rest => by
    have hclass : classTest lineOptions.rule false [.char (codeOf '\''), .char (codeOf '"')] =
        quoteTest := by decide
    simp [readClass, readMembers, readMember, controlCode?, category?, startsCode, isOctal, hclass]

/-- The head of a function that is named by words. -/
def functionText (init : List (List Char)) (last : List Char) : List Char :=
  "def ".toList ++ (wordsText ['_', '?'] lower init last ++ ['\\', '('])

def functionRow (init : List (List Char)) (last : List Char) : List Node :=
  letterTrees "def ".toList ++ (wordsRow (optionalGap lowLineTest) letterTrees init last ++
    [letterNode .all '('])

/-- A decorator that gives words as the name. -/
def decoratorText (init : List (List Char)) (last : List Char) : List Char :=
  ['\\', '@'] ++ ("keyword".toList ++ (['.', '+'] ++ ("name=".toList ++
    (['[', '\\', '\'', '"', ']'] ++ wordsText ['[', '_', ' ', ']'] lower init last))))

def decoratorRow (init : List (List Char)) (last : List Char) : List Node :=
  [letterNode .all '@'] ++ (letterTrees "keyword".toList ++ ([.span 1 none .greedy (.dot false)] ++
    (letterTrees "name=".toList ++ ([.one quoteTest] ++
      wordsRow (.one dividerTest) letterTrees init last))))

/-- A text in lower case is read letter by letter. -/
theorem spells_fixed (hlower : lower text = text) (h : ∀ c ∈ text, isLiteral c = true) :
    Spells lineOptions text (letterTrees text) := by
  have hspells : Spells lineOptions (lower text) (letterTrees text) :=
    spells_letterTrees (hlower.symm ▸ h)
  rwa [hlower] at hspells

section Reading

variable (hwords : ∀ word ∈ init ++ [last], ∀ c ∈ word, c.isAlphanum = true)

include hwords

theorem spells_functionText :
    Spells lineOptions (functionText init last) (functionRow init last) := by
  have hgap : Spells lineOptions ['_', '?'] [optionalGap lowLineTest] :=
    (SpellsTest.letter lineOptions_isUsual rfl).optional lineOptions_isUsual
  have hopen : SpellsTest lineOptions ['\\', '('] (.letter .all false (codeOf '(')) :=
    .escaped lineOptions_isUsual (by decide)
  have hdef : Spells lineOptions "def ".toList (letterTrees "def ".toList) :=
    spells_fixed rfl (List.all_iff_forall_prop.1 (by decide))
  exact hdef.append ((spells_letterWords hgap hwords).append hopen.spells)

theorem spells_decoratorText :
    Spells lineOptions (decoratorText init last) (decoratorRow init last) := by
  have hat : SpellsTest lineOptions ['\\', '@'] (.letter .all false (codeOf '@')) :=
    .escaped lineOptions_isUsual (by decide)
  have hkeyword : Spells lineOptions "keyword".toList (letterTrees "keyword".toList) :=
    spells_fixed rfl (List.all_iff_forall_prop.1 (by decide))
  have hdots : Spells lineOptions ['.', '+'] [.span 1 none .greedy (.dot false)] :=
    (SpellsTest.dot lineOptions_isUsual).many lineOptions_isUsual
  have hequals : Spells lineOptions "name=".toList (letterTrees "name=".toList) :=
    spells_fixed rfl (List.all_iff_forall_prop.1 (by decide))
  have hname := spells_letterWords spellsTest_divider.spells hwords
  exact hat.spells.append
    (hkeyword.append (hdots.append (hequals.append (spellsTest_quote.spells.append hname))))

end Reading

theorem isPiece_functionRow : ∀ node ∈ functionRow init last, node.IsPiece := by
  simp only [functionRow, List.forall_mem_append, List.forall_mem_singleton]
  exact ⟨isPiece_letters .all _, isPiece_letterWords (isPiece_optionalGap _) init last,
    isPiece_letterNode .all '('⟩

theorem isPiece_decoratorRow : ∀ node ∈ decoratorRow init last, node.IsPiece := by
  have hgap : (Node.one dividerTest).IsPiece := trivial
  simp only [decoratorRow, List.forall_mem_append, List.forall_mem_singleton]
  exact ⟨isPiece_letterNode .all '@', isPiece_letters .all _, trivial, isPiece_letters .all _, trivial,
    isPiece_letterWords hgap init last⟩

/-- The pattern for a library keyword without embedded arguments is a choice between two groups. -/
theorem toList_libraryPattern (hdollar : '$' ∉ name) (hwords : words name = init ++ [last])
    (hlast : last ≠ []) (halnum : ∀ c ∈ last, c.isAlphanum = true) :
    (libraryPattern (String.ofList name)).toList =
      groupsText (functionText init last) (decoratorText init last) := by
  have hfunction : stripEnd "_?" ("(?im)(def ".toList ++ joined "_?" lower name) =
      "(?im)(def ".toList ++ wordsText ['_', '?'] lower init last :=
    stripEnd_joined _ hwords (List.all_iff_forall_prop.1 (by decide))
      (exists_getLast_lower halnum hlast (List.all_iff_forall_prop.1 (by decide)))
  have hdecorator : stripEnd "[_ ]" (decoratorStart ++ joined "[_ ]" lower name) =
      decoratorStart ++ wordsText ['[', '_', ' ', ']'] lower init last :=
    stripEnd_joined _ hwords (List.all_iff_forall_prop.1 (by decide))
      (exists_getLast_lower halnum hlast (List.all_iff_forall_prop.1 (by decide)))
  have hhead : "(?im)(def ".toList = "(?im)".toList ++ '(' :: "def ".toList := by decide
  have hbar : "\\()|".toList = ['\\', '(', ')', '|'] := by decide
  have hstart : decoratorStart = '(' :: ['\\', '@'] ++ ("keyword".toList ++ (['.', '+'] ++
      ("name=".toList ++ ['[', '\\', '\'', '"', ']']))) := by decide
  rw [libraryPattern, String.toList_ofList, String.toList_ofList, hasArgument_eq_false hdollar,
    if_neg Bool.false_ne_true, libraryPatternPlain, hfunction, hdecorator, hhead, hbar, hstart]
  unfold groupsText functionText decoratorText
  simp only [List.append_assoc, List.cons_append, List.nil_append]

/-! ### What the first group takes -/

theorem accepts_lowLineTest {c : Char} (hc : c.toNat < 128) :
    lowLineTest.accepts c = true ↔ (c == '_') = true :=
  forall_ascii (P := fun c => lowLineTest.accepts c = true ↔ (c == '_') = true) (by decide) hc

theorem accepts_parenthesis {c : Char} (hc : c.toNat < 128) :
    (CharTest.letter .all false (codeOf '(')).accepts c = true ↔ c = '(' :=
  forall_ascii (P := fun c => (CharTest.letter .all false (codeOf '(')).accepts c = true ↔ c = '(')
    (by decide) hc

/-- The first group takes the head of a function whose name is spelled by the words. -/
theorem takes_functionRow (hwords : ∀ word ∈ init ++ [last], IsAscii word) (htaken : IsAscii taken) :
    (Node.row (functionRow init last)).Takes before taken rest ↔
      ∃ start n, taken = start ++ n ++ ['('] ∧ lower start = "def ".toList ∧
        Spelled (· == '_') init last n := by
  have hdef : "def ".toList.map lowerChar = "def ".toList := by decide
  have htest : ∀ c : Char, c.toNat < 128 → (lowLineTest.accepts c = true ↔ (c == '_') = true) :=
    fun c => accepts_lowLineTest
  rw [functionRow, Node.takes_row_append]
  simp only [Node.takes_row_append]
  constructor
  · rintro ⟨start, _, rfl, hstart, n, last, rfl, hn, hlast⟩
    obtain ⟨hstartAscii, hrestAscii⟩ := List.forall_mem_append.1 htaken
    obtain ⟨hnAscii, hlastAscii⟩ := List.forall_mem_append.1 hrestAscii
    obtain ⟨c, hc, rfl⟩ := hlast
    obtain rfl := (accepts_parenthesis (hlastAscii c (by simp))).1 hc
    refine ⟨start, n, by simp, ?_, (takes_wordsRow htest hwords hnAscii).1 hn⟩
    rw [lower_of_isAscii hstartAscii, (takes_letterTrees (by decide) hstartAscii).1 hstart, hdef]
  · rintro ⟨start, n, rfl, hstart, hn⟩
    rw [List.append_assoc] at htaken
    obtain ⟨hstartAscii, hrestAscii⟩ := List.forall_mem_append.1 htaken
    obtain ⟨hnAscii, -⟩ := List.forall_mem_append.1 hrestAscii
    rw [lower_of_isAscii hstartAscii, ← hdef] at hstart
    refine ⟨start, n ++ ['('], by simp, (takes_letterTrees (by decide) hstartAscii).2 hstart,
      n, ['('], rfl, (takes_wordsRow htest hwords hnAscii).2 hn, ?_⟩
    exact ⟨'(', (accepts_parenthesis (by decide)).2 rfl, rfl⟩

/-! ### Names of words -/

section Parts

variable {first : List (List Char)} {part gap : List Char} {c : Char}
  (hparts : ∀ word ∈ first ++ [part], ∀ c ∈ word, c.isAlphanum = true)

include hparts

theorem isAlphanum_or_eq_space (hc : c ∈ [' '].intercalate (first ++ [part])) :
    c.isAlphanum = true ∨ c = ' ' := by
  rw [intercalate_concat, List.mem_append, List.mem_flatMap] at hc
  rcases hc with ⟨word, hword, hc⟩ | hc
  · rcases List.mem_append.1 hc with hc | hc
    · exact Or.inl (hparts word (List.mem_append_left _ hword) c hc)
    · exact Or.inr (List.mem_singleton.1 hc)
  · exact Or.inl (hparts part (by simp) c hc)

theorem isSimpleChar_of_mem_intercalate (hc : c ∈ [' '].intercalate (first ++ [part])) :
    isSimpleChar c = true := by
  rcases isAlphanum_or_eq_space hparts hc with halnum | rfl
  · exact Bool.or_eq_true_iff.2 (Or.inl halnum)
  · rfl

theorem notMem_intercalate (hc : c.isAlphanum = false) (hspace : c ≠ ' ') :
    c ∉ [' '].intercalate (first ++ [part]) := by
  intro hmem
  rcases isAlphanum_or_eq_space hparts hmem with halnum | heq
  · rw [hc] at halnum
    cases halnum
  · exact hspace heq

theorem exists_getLast_intercalate (hpart : part ≠ []) :
    ∃ c ∈ ([' '].intercalate (first ++ [part])).getLast?, c.isAlphanum = true := by
  refine ⟨part.getLast hpart, ?_, hparts part (by simp) _ (List.getLast_mem hpart)⟩
  rw [intercalate_concat, List.getLast?_append, List.getLast?_eq_some_getLast hpart]
  rfl

theorem replaceGaps_intercalate :
    replaceGaps gap ([' '].intercalate (first ++ [part])) = gap.intercalate (first ++ [part]) := by
  have hword : ∀ word ∈ first ++ [part], replaceGaps gap word = word := fun word hword =>
    replaceGaps_eq_self fun c hc => isDivider_eq_false (hparts word hword c hc)
  have happend (a b : List Char) : replaceGaps gap (a ++ b) = replaceGaps gap a ++ replaceGaps gap b :=
    List.flatMap_append
  have hspace : replaceGaps gap [' '] = gap := List.append_nil gap
  obtain ⟨hfirst, hpart⟩ := List.forall_mem_append.1 hword
  rw [intercalate_concat, intercalate_concat, happend, hpart part (List.mem_singleton_self part)]
  congr 1
  rw [replaceGaps, List.flatMap_assoc]
  refine List.flatMap_congr fun word hmem => ?_
  rw [← replaceGaps, happend, hfirst word hmem, hspace]

theorem intercalate_map_lower (hgap : gap.map lowerChar = gap) :
    gap.intercalate ((first ++ [part]).map lower) =
      (gap.intercalate (first ++ [part])).map lowerChar := by
  have hlower : (first ++ [part]).map lower =
      first.map (List.map lowerChar) ++ [part.map lowerChar] := by
    rw [List.map_congr_left fun word hword => lower_of_isAscii
      (isAscii_of_isAlphanum (hparts word hword)), List.map_append]
    rfl
  rw [hlower, intercalate_concat, intercalate_concat, List.map_append, List.map_flatMap,
    List.flatMap_map]
  simp [hgap]

/-- The words of a name spell its parts in lower case, joined by a low line or by nothing. -/
theorem Spelled.joined_lower (h : Spelled isDivider init last ([' '].intercalate (first ++ [part])))
    (hwords : ∀ word ∈ init ++ [last], ∀ c ∈ word, c.isAlphanum = true)
    (hgap : gap ∈ [['_'], []]) :
    Spelled (· == '_') init last (gap.intercalate ((first ++ [part]).map lower)) ∧
      IsAscii (gap.intercalate ((first ++ [part]).map lower)) := by
  have hline : gap.length ≤ 1 ∧ (∀ c ∈ gap, (c == '_') = true) ∧ gap.map lowerChar = gap ∧
      IsAscii gap := by
    rcases List.mem_cons.1 hgap with rfl | hgap
    · exact ⟨le_rfl, by simp, by decide, by decide⟩
    · obtain rfl := List.mem_singleton.1 hgap
      exact ⟨Nat.zero_le 1, nofun, rfl, nofun⟩
  obtain ⟨hlength, hgaps, hlower, hgapAscii⟩ := hline
  have hspelled : Spelled (· == '_') init last (gap.intercalate (first ++ [part])) :=
    replaceGaps_intercalate hparts ▸ h.replaceGaps hwords hlength hgaps
  have hascii : IsAscii (gap.intercalate (first ++ [part])) := by
    rw [intercalate_concat]
    intro c hc
    rw [List.mem_append, List.mem_flatMap] at hc
    rcases hc with ⟨word, hword, hc⟩ | hc
    · have hwordAscii := isAscii_of_isAlphanum (hparts word (List.mem_append_left _ hword))
      exact hwordAscii.append hgapAscii c hc
    · exact isAscii_of_isAlphanum (hparts part (by simp)) c hc
  rw [intercalate_map_lower hparts hlower]
  have hmap : IsAscii ((gap.intercalate (first ++ [part])).map lowerChar) :=
    lower_of_isAscii hascii ▸ isAscii_lower hascii
  refine ⟨hspelled.of_map_eq hmap ?_ fun c hc => Bool.or_eq_true_iff.2 (Or.inr hc), hmap⟩
  rw [List.map_map]
  exact List.map_congr_left fun c hc => (lowerChar_ascii (hascii c hc)).2.1

end Parts

/-- Without one of the dividers, the bare form is the form without the other. -/
theorem bareChars_eq_filter {d e : Char} (hd : ∀ c, isDivider c = (c == d || c == e))
    (hname : IsAscii name) (hmem : d ∉ name) : bareChars name = (lower name).filter (· != e) := by
  rw [bareChars]
  refine List.filter_congr fun c hc => ?_
  rw [lower_of_isAscii hname] at hc
  obtain ⟨x, hx, rfl⟩ := List.mem_map.1 hc
  have hdivider : isDivider d = true := by simp [hd]
  have hne : lowerChar x ≠ d := by
    intro heq
    rw [lowerChar_eq_divider hdivider (hname x hx)] at heq
    exact hmem (heq ▸ hx)
  simp [hd, hne, bne]

theorem notMem_space_of_spelled (h : Spelled (· == '_') init last text)
    (hwords : ∀ word ∈ init ++ [last], ∀ c ∈ word, c.isAlphanum = true) : ' ' ∉ text := by
  intro hmem
  rcases h.forall_mem ' ' hmem with hline | ⟨word, hword, d, hd, hlower⟩
  · exact absurd hline (by decide)
  · have hnot := isDivider_eq_false_of_lowerChar (hwords word hword d hd) hlower
    exact absurd hnot (by decide)

/-- **The pattern for a library keyword finds its function.** A text with the head of a function that
has the words of the keyword as its name, joined by low lines or by nothing, is found; and a match of
the first group is the head of a function with the name of the keyword, low lines and spaces aside. -/
theorem exists_find_libraryPattern (hparts : parts ≠ [])
    (hwords : ∀ word ∈ parts, word ≠ [] ∧ ∀ c ∈ word, c.isAlphanum = true) :
    ∃ p, Pattern.compile (libraryPattern (String.ofList ([' '].intercalate parts))) = .ok p ∧
      ∀ text, IsAscii text → ∃ found, p.find text = .ok found ∧
        ((∃ gap ∈ [['_'], []], "def ".toList ++ gap.intercalate (parts.map lower) ++ ['('] <:+: text) →
          found.isSome = true) ∧
        ∀ m ∈ found, (m.group? 1).isSome = true → ∃ start n, m.text = start ++ n ++ ['('] ∧
          m.text <:+: text ∧ lower start = "def ".toList ∧
          (lower n).filter (· != '_') = (lower ([' '].intercalate parts)).filter (· != ' ') := by
  obtain ⟨first, part, rfl⟩ := (List.eq_nil_or_concat' parts).resolve_left hparts
  have hletters : ∀ word ∈ first ++ [part], ∀ c ∈ word, c.isAlphanum = true :=
    fun word hword => (hwords word hword).2
  have hsimple : ∀ c ∈ [' '].intercalate (first ++ [part]), isSimpleChar c = true :=
    fun c => isSimpleChar_of_mem_intercalate hletters
  have hnameAscii := isAscii_of_isSimpleChar hsimple
  -- the words of the name spell it, and both groups are made of them
  obtain ⟨init, last, hnameWords, hne, halnum, hspelled⟩ := exists_words hsimple
    (exists_getLast_intercalate hletters (hwords part (by simp)).1)
  have hascii : ∀ word ∈ init ++ [last], IsAscii word :=
    fun word hword => isAscii_of_isAlphanum (halnum word hword)
  obtain ⟨p, hp, htree, hregular⟩ := exists_compile_groups (spells_functionText halnum)
    (spells_decoratorText halnum) isPiece_functionRow isPiece_decoratorRow
  have hpattern := toList_libraryPattern (notMem_intercalate hletters rfl (by decide)) hnameWords hne
    (halnum last (by simp))
  refine ⟨p, by rw [Pattern.compile, hpattern, hp], fun text htext => ?_⟩
  obtain ⟨found, hfind, hsome, -⟩ := hregular.exists_find text
  refine ⟨found, hfind, ?_, ?_⟩
  · rintro ⟨gap, hgap, skipped, rest, rfl⟩
    obtain ⟨hjoined, hjoinedAscii⟩ := hspelled.joined_lower hletters halnum hgap
    have hhead : IsAscii ("def ".toList ++ gap.intercalate ((first ++ [part]).map lower) ++ ['(']) :=
      (IsAscii.append (by decide) hjoinedAscii).append (by decide)
    refine hsome.2 ⟨skipped, _, rest, rfl, ?_⟩
    rw [htree]
    exact Or.inl ((takes_functionRow hascii hhead).2 ⟨_, _, rfl, by decide +kernel, hjoined⟩)
  · intro m hm hgroup
    obtain rfl : found = some m := hm
    obtain ⟨skipped, taken, rest, rfl, htaken⟩ := hregular.isTaken_first htree hfind hgroup
    have htakenAscii : IsAscii taken := fun c hc => htext c (by simp [hc])
    obtain ⟨start, n, rfl, hstart, hn⟩ := (takes_functionRow hascii htakenAscii).1 htaken.takes
    have hnAscii : IsAscii n := fun c hc => htakenAscii c (by simp [hc])
    have hbare : bareChars n = bareChars ([' '].intercalate (first ++ [part])) := by
      rw [hn.bareChars_eq (fun c hc => Bool.or_eq_true_iff.2 (Or.inr hc)) hnAscii hascii,
        hspelled.bareChars_eq (fun _ => id) hnameAscii hascii]
    refine ⟨start, n, htaken.text, ⟨skipped, rest, by rw [htaken.text]⟩, hstart, ?_⟩
    rwa [bareChars_eq_filter (d := ' ') (fun _ => rfl) hnAscii (notMem_space_of_spelled hn halnum),
      bareChars_eq_filter (d := '_') (fun _ => Bool.or_comm _ _) hnameAscii
        (notMem_intercalate hletters rfl (by decide))] at hbare

/-- The head of a function stands behind other text, and its match is one of the first group. -/
theorem exists_find_libraryPattern_page :
    ["Open".toList, "Page2".toList] ≠ [] ∧
      (∀ word ∈ ["Open".toList, "Page2".toList], word ≠ [] ∧ ∀ c ∈ word, c.isAlphanum = true) ∧
      ∃ p m, Pattern.compile (libraryPattern (String.ofList
          ([' '].intercalate ["Open".toList, "Page2".toList]))) = .ok p ∧
        p.find "  def open_page2(self)".toList = .ok (some m) ∧ (m.group? 1).isSome = true ∧
        ∃ start n, m.text = start ++ n ++ ['('] ∧ lower start = "def ".toList ∧
          (lower n).filter (· != '_') = "openpage2".toList := by
  have hparts : ["Open".toList, "Page2".toList] ≠ [] := by simp
  have hwords : ∀ word ∈ ["Open".toList, "Page2".toList],
      word ≠ [] ∧ ∀ c ∈ word, c.isAlphanum = true := by
    simp only [List.forall_mem_cons]
    exact ⟨⟨by decide, List.all_iff_forall_prop.1 (by decide)⟩,
      ⟨by decide, List.all_iff_forall_prop.1 (by decide)⟩, nofun⟩
  obtain ⟨p, hp, hall⟩ := exists_find_libraryPattern hparts hwords
  obtain ⟨found, hfind, hsome, hmatch⟩ := hall "  def open_page2(self)".toList (by decide)
  obtain ⟨m, rfl⟩ := Option.isSome_iff_exists.1 (hsome ⟨['_'], by decide, by decide +kernel⟩)
  have hgroup : (((Pattern.compile (libraryPattern (String.ofList
      ([' '].intercalate ["Open".toList, "Page2".toList])))).bind
        fun p => p.find "  def open_page2(self)".toList).map fun found =>
          found.any fun m => (m.group? 1).isSome).toOption = some true := by
    decide +kernel
  rw [hp, Except.bind, hfind] at hgroup
  have hgroup : (m.group? 1).isSome = true := Option.some.inj hgroup
  obtain ⟨start, n, htext, -, hstart, hn⟩ := hmatch m rfl hgroup
  have hname : (lower ([' '].intercalate ["Open".toList, "Page2".toList])).filter (· != ' ') =
      "openpage2".toList := by decide +kernel
  exact ⟨hparts, hwords, p, m, hp, hfind, hgroup, start, n, htext, hstart, hn.trans hname⟩

end KeywordCatalog.Keyword
