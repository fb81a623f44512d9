import KeywordCatalog.Proofs.Keyword.SearchPattern

/-!
# Search patterns for names with embedded arguments

A name is divided into words at every space and low line, also at those inside of an embedded
argument. A word is then a fragment of the name: letters and digits, with the brace that closes an
argument or without it, a whole argument, or the opening of an argument that was cut.

Only a whole argument becomes the pattern of an argument. The opening of a cut argument stands in the
pattern as it is, where its dollar sign is the end of a line, so no text can match
(`not_takes_opening`). If no fragment is such an opening, the pattern takes the name itself
(`takes_closedWords`).
-/

namespace KeywordCatalog.Text

/-- What is left without the characters at the start that pass a test starts with the first one that
does not. -/
theorem exists_dropWhile {test : Char → Bool} {word : List Char} (h : word.all test = false)
    (rest : List Char) :
    ∃ d ∈ word, test d = false ∧ ∃ after, (word ++ rest).dropWhile test = d :: after := by
  induction word with
  | nil => cases h
  | cons c word ih =>
    by_cases hc : test c = true
    · have hword : word.all test = false := by simpa [hc] using h
      obtain ⟨d, hd, htest, after, hdrop⟩ := ih hword
      refine ⟨d, List.mem_cons_of_mem c hd, htest, after, ?_⟩
      rw [List.cons_append, List.dropWhile_cons_of_pos hc, hdrop]
    · refine ⟨c, List.mem_cons_self, Bool.eq_false_iff.2 hc, word ++ rest, ?_⟩
      rw [List.cons_append, List.dropWhile_cons_of_neg hc]

end KeywordCatalog.Text

namespace KeywordCatalog.Pattern

variable {before taken rest : List Char}

/-- A brace starts no count, if after the digits there is neither a comma nor a closing brace. -/
theorem State.readCount_eq_brace {s : State} {c : Char} {after : List Char}
    (h : rest.dropWhile Char.isDigit = c :: after) (hbrace : c ≠ '\x7d') (hcomma : c ≠ ',') :
    s.readCount rest = .ok (s.pushCode (Text.codeOf '\x7b'), rest) := by
  have hcode : Text.codeOf '\x7b' = '\x7b'.toNat := by decide
  rw [hcode]
  unfold readCount
  simp only [h]
  split
  · rename_i heq
    exact absurd (List.cons.inj heq).1 hbrace
  · rename_i heq
    exact absurd (List.cons.inj heq).1 hcomma
  · rfl

/-- Nothing can be taken by a letter that stands right after the end of a line. -/
theorem Node.not_takes_letter_after_end {c : Char} (hc : c.toNat < 128) (hlower : Text.lowerChar c = c)
    (hbreak : c ≠ '\n') (nodes more : List Node) :
    ¬(Node.row (nodes ++ .anchor (.lineEnd true) :: letterNode .all c :: more)).Takes
      before taken rest := by
  rw [Node.takes_row_append]
  rintro ⟨first, _, rfl, -, hrow⟩
  obtain ⟨_, second, rfl, ⟨rfl, hend⟩, hrow⟩ := Node.takes_row_cons.1 hrow
  obtain ⟨_, third, rfl, ⟨d, hd, rfl⟩, -⟩ := Node.takes_row_cons.1 hrow
  -- what comes next is a line break, which the letter does not accept
  rcases (holds_lineEnd _ _).1 hend with hnil | hhead
  · simp at hnil
  · obtain rfl : d = '\n' := by simpa using hhead
    rw [Keyword.accepts_letter hc hlower (by decide) (by decide)] at hd
    exact hbreak hd

end KeywordCatalog.Pattern

namespace KeywordCatalog.Keyword

open Text Pattern

variable {c : Char} {word start name last before taken rest : List Char}
  {init : List (List Char)}

/-! ### Fragments -/

/-- An embedded argument as it is written. -/
def argumentText (name : List Char) : List Char := '$' :: '\x7b' :: (name ++ ['\x7d'])

/-- The opening of an embedded argument that was cut. -/
def openingText (start : List Char) : List Char := '$' :: '\x7b' :: start

/-- A letter, a digit or the brace that closes an argument. -/
def isFragmentChar (c : Char) : Bool := c.isAlphanum || c == '\x7d'

/-- A fragment of a name that opens no argument without closing it. -/
inductive IsClosed : List Char → Prop
  | letters {word : List Char} (h : ∀ c ∈ word, isFragmentChar c = true) : IsClosed word
  | argument {name : List Char} (hname : name ≠ []) (h : ∀ c ∈ name, c.isAlphanum = true) :
    IsClosed (argumentText name)

/-- A fragment of a name: the opening of an argument, or a fragment that opens none. -/
def IsFragment (word : List Char) : Prop :=
  IsClosed word ∨ ∃ start, (∀ c ∈ start, c.isAlphanum = true) ∧ word = openingText start

theorem isFragmentChar_spec (h : isFragmentChar c = true) :
    c.toNat < 128 ∧ c ≠ '$' ∧ c ≠ '\n' ∧ isLiteral (lowerChar c) = true ∧
      resourceDivider.contains (lowerChar c) = false := by
  have hascii : c.toNat < 128 := by
    rw [isFragmentChar, Bool.or_eq_true, beq_iff_eq] at h
    rcases h with h | rfl
    · exact toNat_lt_of_isSimpleChar (Bool.or_eq_true_iff.2 (Or.inl h))
    · decide
  refine ⟨hascii, ?_⟩
  exact forall_ascii (P := fun c => isFragmentChar c = true → c ≠ '$' ∧ c ≠ '\n' ∧
    isLiteral (lowerChar c) = true ∧ resourceDivider.contains (lowerChar c) = false)
    (by decide +kernel) hascii h

theorem isFragmentChar_of_isAlphanum (h : c.isAlphanum = true) : isFragmentChar c = true :=
  Bool.or_eq_true_iff.2 (Or.inl h)

theorem isAscii_of_isFragmentChar (h : ∀ c ∈ word, isFragmentChar c = true) : IsAscii word :=
  fun c hc => (isFragmentChar_spec (h c hc)).1

/-! ### Which fragments have an argument -/

theorem newline_notMem_argumentText (h : ∀ c ∈ name, c.isAlphanum = true) :
    '\n' ∉ argumentText name := by
  rw [argumentText, List.mem_cons, List.mem_cons, List.mem_append, List.mem_singleton]
  rintro (heq | heq | hmem | heq)
  · exact absurd heq (by decide)
  · exact absurd heq (by decide)
  · exact absurd (h '\n' hmem) (by decide)
  · exact absurd heq (by decide)

theorem hasArgument_argumentText (hname : name ≠ []) (h : ∀ c ∈ name, c.isAlphanum = true) :
    hasArgument (argumentText name) = true := by
  have hbreak := newline_notMem_argumentText h
  obtain ⟨c, name, rfl⟩ := List.exists_cons_of_ne_nil hname
  rw [hasArgument, lines, List.splitOn_eq_singleton hbreak]
  simp [argumentText, lineHasArgument, startsWithArgument]

/-! ### The trees of a fragment -/

/-- The trees of an embedded argument. -/
def argumentTrees : List Node :=
  [letterNode .all '$', letterNode .all '\x7b', .span 1 none .greedy (.dot false),
    letterNode .all '\x7d']

/-- The tree of a character as it is read in a pattern: a dollar sign is the end of a line. -/
def signNode (c : Char) : Node := if c = '$' then .anchor (.lineEnd true) else letterNode .all c

/-- The trees of a fragment. -/
def fragmentTrees (word : List Char) : List Node :=
  if hasArgument word then argumentTrees else (lower word).map signNode

theorem isPiece_fragmentTrees (word : List Char) : ∀ node ∈ fragmentTrees word, node.IsPiece := by
  intro node hnode
  rw [fragmentTrees] at hnode
  split at hnode
  · simp only [argumentTrees, List.mem_cons, List.not_mem_nil, or_false] at hnode
    rcases hnode with rfl | rfl | rfl | rfl <;> trivial
  · obtain ⟨c, -, rfl⟩ := List.mem_map.1 hnode
    rw [signNode]
    split <;> trivial

theorem hasArgument_letters (h : ∀ c ∈ word, isFragmentChar c = true) : hasArgument word = false := by
  by_contra hargument
  rw [Bool.not_eq_false] at hargument
  exact (isFragmentChar_spec (h '$' (mem_of_hasArgument hargument).1)).2.1 rfl

theorem isLiteral_of_mem_lower_letters (h : ∀ c ∈ word, isFragmentChar c = true)
    (hc : c ∈ lower word) : isLiteral c = true := by
  rw [lower_of_isAscii (isAscii_of_isFragmentChar h)] at hc
  obtain ⟨d, hd, rfl⟩ := List.mem_map.1 hc
  exact (isFragmentChar_spec (h d hd)).2.2.2.1

theorem fragmentTrees_letters (h : ∀ c ∈ word, isFragmentChar c = true) :
    fragmentTrees word = letterTrees word := by
  have hliteral : ∀ c ∈ lower word, c ≠ '$' :=
    fun c hc => isLiteral_ne (isLiteral_of_mem_lower_letters h hc) rfl
  rw [fragmentTrees, hasArgument_letters h, if_neg Bool.false_ne_true, letterTrees]
  exact List.map_congr_left fun c hc => if_neg (hliteral c hc)

/-! ### Reading a fragment -/

theorem spells_argumentPattern : Spells lineOptions argumentPattern argumentTrees := by
  have hsign {c : Char} (hc : c ∈ ['$', '\x7b', '\x7d', '@', '&', '(']) :
      Spells lineOptions ['\\', c] [letterNode .all c] :=
    (SpellsTest.escaped lineOptions_isUsual hc).spells
  have hdots : Spells lineOptions ['.', '+'] [.span 1 none .greedy (.dot false)] :=
    (SpellsTest.dot lineOptions_isUsual).many lineOptions_isUsual
  exact (hsign (by decide)).append ((hsign (by decide)).append (hdots.append (hsign (by decide))))

theorem IsClosed.spells (h : IsClosed word) :
    Spells lineOptions (wordPattern word) (fragmentTrees word) := by
  cases h with
  | letters h =>
    rw [wordPattern, hasArgument_letters h, if_neg Bool.false_ne_true, fragmentTrees_letters h]
    exact spells_letterTrees fun c => isLiteral_of_mem_lower_letters h
  | argument hname h =>
    rw [wordPattern, fragmentTrees, hasArgument_argumentText hname h, if_pos rfl, if_pos rfl]
    exact spells_argumentPattern

section Opening

variable (h : ∀ c ∈ start, c.isAlphanum = true)

include h

theorem lower_openingText : lower (openingText start) = openingText (lower start) := by
  have hascii := isAscii_of_isAlphanum h
  have hopening : IsAscii (openingText start) :=
    List.forall_mem_cons.2 ⟨by decide, List.forall_mem_cons.2 ⟨by decide, hascii⟩⟩
  rw [lower_of_isAscii hopening, lower_of_isAscii hascii]
  rfl

theorem hasArgument_openingText : hasArgument (openingText start) = false := by
  by_contra hargument
  rw [Bool.not_eq_false] at hargument
  have hclose := (mem_of_hasArgument hargument).2
  rw [openingText, List.mem_cons, List.mem_cons] at hclose
  rcases hclose with heq | heq | hmem
  · exact absurd heq (by decide)
  · exact absurd heq (by decide)
  · exact absurd (h _ hmem) (by decide)

theorem fragmentTrees_openingText : fragmentTrees (openingText start) =
    .anchor (.lineEnd true) :: letterNode .all '\x7b' :: letterTrees start := by
  have hletters : fragmentTrees start = letterTrees start :=
    fragmentTrees_letters fun c hc => isFragmentChar_of_isAlphanum (h c hc)
  rw [fragmentTrees, hasArgument_letters fun c hc => isFragmentChar_of_isAlphanum (h c hc),
    if_neg Bool.false_ne_true] at hletters
  rw [fragmentTrees, hasArgument_openingText h, if_neg Bool.false_ne_true, lower_openingText h,
    openingText, List.map_cons, List.map_cons, hletters]
  rfl

/-- An opening and the divider after it are read as they stand. -/
theorem spells_openingText :
    Spells lineOptions (wordPattern (openingText start) ++ resourceDivider)
      (fragmentTrees (openingText start) ++ [optionalGap dividerTest]) := by
  have hletters : Spells lineOptions (lower start) (letterTrees start) :=
    spells_letterTrees fun c => isLiteral_of_mem_lower h
  have hrest := hletters.append spells_resourceDivider
  have hend : Spells lineOptions ['$'] [.anchor (.lineEnd true)] := .lineEnd lineOptions_isUsual
  have hbrace : Spells lineOptions ('\x7b' :: (lower start ++ resourceDivider))
      (letterNode .all '\x7b' :: (letterTrees start ++ [optionalGap dividerTest])) := by
    refine Spells.brace lineOptions_isUsual (fun s rest _ => ?_) hrest
    -- the digits of the opening end at a letter or at the bracket of the divider
    have hbracket : (lower start ++ ['[']).all Char.isDigit = false := by simp
    obtain ⟨d, hd, -, after, hdrop⟩ := exists_dropWhile hbracket (['_', ' ', ']', '?'] ++ rest)
    have hne {e : Char} (he : isBareChar e = false) (hbracket : e ≠ '[') : d ≠ e := by
      rintro rfl
      rcases List.mem_append.1 hd with hmem | hmem
      · rw [isBareChar_of_mem_lower h hmem] at he
        cases he
      · exact hbracket (List.mem_singleton.1 hmem)
    rw [List.append_assoc] at hdrop ⊢
    exact State.readCount_eq_brace hdrop (hne rfl (by decide)) (hne rfl (by decide))
  rw [wordPattern, hasArgument_openingText h, if_neg Bool.false_ne_true, lower_openingText h,
    fragmentTrees_openingText h]
  exact hend.append hbrace

end Opening

theorem IsFragment.spells (h : IsFragment word) :
    Spells lineOptions (wordPattern word ++ resourceDivider)
      (fragmentTrees word ++ [optionalGap dividerTest]) := by
  rcases h with h | ⟨start, hstart, rfl⟩
  · exact h.spells.append spells_resourceDivider
  · exact spells_openingText hstart

theorem IsClosed.exists_getLast (h : IsClosed word) (hword : word ≠ []) :
    ∃ c ∈ (wordPattern word).getLast?, resourceDivider.contains c = false := by
  cases h with
  | letters h =>
    have hlower := lower_of_isAscii (isAscii_of_isFragmentChar h)
    rw [wordPattern, hasArgument_letters h, if_neg Bool.false_ne_true, hlower]
    refine ⟨lowerChar (word.getLast hword), ?_,
      (isFragmentChar_spec (h _ (List.getLast_mem hword))).2.2.2.2⟩
    rw [List.getLast?_map, List.getLast?_eq_some_getLast hword]
    rfl
  | argument hname h =>
    rw [wordPattern, hasArgument_argumentText hname h, if_pos rfl]
    exact ⟨'\x7d', by decide, by decide⟩

/-- The pattern for a name whose words are fragments is the row of the fragments. -/
theorem exists_compile_fragments (hwords : words name = init ++ [last])
    (hinit : ∀ word ∈ init, IsFragment word) (hlast : IsClosed last) (hne : last ≠ []) :
    ∃ p, Pattern.compile (resourcePattern (String.ofList name)) = .ok p ∧
      p.tree = Node.row (lineRow (wordsRow (optionalGap dividerTest) fragmentTrees init last)) ∧
      p.IsRegular :=
  exists_compile_resourcePattern (by rw [String.toList_ofList, hwords]) (hlast.exists_getLast hne)
    (spells_wordsText (fun word hword => (hinit word hword).spells) hlast.spells)
    (isPiece_wordsRow (isPiece_optionalGap _) fun word _ => isPiece_fragmentTrees word)

/-! ### What a row of fragments takes -/

/-- **Nothing can be taken by a row with the opening of a cut argument.** -/
theorem not_takes_opening (h : ∀ c ∈ start, c.isAlphanum = true) (hmem : openingText start ∈ init) :
    ¬(Node.row (wordsRow (optionalGap dividerTest) fragmentTrees init last)).Takes
      before taken rest := by
  obtain ⟨first, more, rfl⟩ := List.append_of_mem hmem
  have hrow : wordsRow (optionalGap dividerTest) fragmentTrees (first ++ openingText start :: more)
      last = first.flatMap (fun word => fragmentTrees word ++ [optionalGap dividerTest]) ++
        .anchor (.lineEnd true) :: letterNode .all '\x7b' :: (letterTrees start ++
          optionalGap dividerTest ::
            wordsRow (optionalGap dividerTest) fragmentTrees more last) := by
    simp [wordsRow, fragmentTrees_openingText h]
  rw [hrow]
  exact Node.not_takes_letter_after_end (by decide) (by decide) (by decide) _ _

theorem IsClosed.takes (h : IsClosed word) (before rest : List Char) :
    (Node.row (fragmentTrees word)).Takes before word rest := by
  cases h with
  | letters h =>
    have hascii := isAscii_of_isFragmentChar h
    rw [fragmentTrees_letters h]
    exact (takes_letterTrees hascii hascii).2 rfl
  | argument hname h =>
    have hsign (c : Char) (hc : c.toNat < 128) (hlower : lowerChar c = c) (before rest : List Char) :
        (letterNode .all c).Takes before [c] rest :=
      ⟨c, (accepts_letter hc hlower hc hlower).2 rfl, rfl⟩
    rw [fragmentTrees, hasArgument_argumentText hname h, if_pos rfl, argumentTrees]
    refine Node.takes_row_cons.2 ⟨['$'], _, rfl, hsign '$' (by decide) (by decide) _ _,
      Node.takes_row_cons.2 ⟨['\x7b'], _, rfl, hsign '\x7b' (by decide) (by decide) _ _,
        Node.takes_row_cons.2 ⟨_, ['\x7d'], rfl, ⟨?_, nofun, fun c hc => ?_⟩,
          Node.takes_row_cons.2 ⟨['\x7d'], [], rfl, hsign '\x7d' (by decide) (by decide) _ _, rfl⟩⟩⟩⟩
    · exact List.length_pos_iff.2 hname
    · have hbreak : c ≠ '\n' := by
        rintro rfl
        exact absurd (h '\n' hc) (by decide)
      simpa [CharTest.accepts] using hbreak

/-- A row of fragments that open no argument takes the fragments with spaces between them. -/
theorem takes_closedWords (h : ∀ word ∈ init ++ [last], IsClosed word) (before rest : List Char) :
    (Node.row (wordsRow (optionalGap dividerTest) fragmentTrees init last)).Takes before
      ([' '].intercalate (init ++ [last])) rest := by
  induction init generalizing before with
  | nil =>
    rw [List.nil_append, List.intercalate_singleton]
    exact (h last (by simp)).takes before rest
  | cons word init ih =>
    obtain ⟨hword, h⟩ := List.forall_mem_cons.1 h
    obtain ⟨next, others, hnext⟩ := List.exists_cons_of_ne_nil (l := init ++ [last]) (by simp)
    have hrow : wordsRow (optionalGap dividerTest) fragmentTrees (word :: init) last =
        fragmentTrees word ++
          (optionalGap dividerTest :: wordsRow (optionalGap dividerTest) fragmentTrees init last) := by
      simp [wordsRow]
    have hgap : dividerTest.accepts ' ' = true := accepts_dividerTest.2 rfl
    rw [hrow, List.cons_append, hnext, List.intercalate_cons_cons, ← hnext, List.append_assoc,
      Node.takes_row_append]
    refine ⟨word, _, rfl, hword.takes _ _, Node.takes_row_cons.2 ⟨[' '], _, rfl, ?_, ih h _⟩⟩
    refine ⟨Nat.zero_le _, ?_, by simpa using hgap⟩
    rintro _ ⟨⟩
    exact Nat.le_refl 1

/-! ### Names made of words and arguments -/

/-- A part of a name: a word or an embedded argument. -/
inductive Part
  | word (letters : List Char)
  | argument (name : List Char)

namespace Part

/-- A part as it is written. -/
def text : Part → List Char
  | .word letters => letters
  | .argument name => argumentText name

/-- Whether a word has letters and digits, and an argument a simple name. -/
def IsProper : Part → Prop
  | .word letters => letters ≠ [] ∧ ∀ c ∈ letters, c.isAlphanum = true
  | .argument name => name ≠ [] ∧ ∀ c ∈ name, isSimpleChar c = true

/-- Whether a part is not divided. -/
def IsWhole (part : Part) : Prop := ∀ c ∈ part.text, isDivider c = false

instance (part : Part) : Decidable part.IsWhole :=
  List.decidableBAll (fun c => isDivider c = false) part.text

/-- The name that is made of parts. -/
def written (parts : List Part) : List Char := [' '].intercalate (parts.map text)

variable {part : Part} {parts : List Part}

theorem isDivider_argumentText (h : c ∈ argumentText name) : c ∈ name ∨ isDivider c = false := by
  rw [argumentText, List.mem_cons, List.mem_cons, List.mem_append, List.mem_singleton] at h
  rcases h with rfl | rfl | h | rfl
  · exact Or.inr rfl
  · exact Or.inr rfl
  · exact Or.inl h
  · exact Or.inr rfl

/-- A part that is not divided is a closed fragment. -/
theorem IsProper.isClosed (h : part.IsProper) (hwhole : part.IsWhole) :
    IsClosed part.text ∧ part.text ≠ [] := by
  cases part with
  | word letters =>
    exact ⟨.letters fun c hc => isFragmentChar_of_isAlphanum (h.2 c hc), h.1⟩
  | argument name =>
    refine ⟨.argument h.1 fun c hc => ?_, List.cons_ne_nil _ _⟩
    have hdivider : isDivider c = false := hwhole c (by simp [text, argumentText, hc])
    simpa [isSimpleChar, hdivider] using h.2 c hc

/-- An argument whose name is divided is cut: its first fragment opens it, its last one closes it. -/
theorem exists_splitOnP_argumentText (hc : c ∈ name) (hdivider : isDivider c = true) :
    ∃ start pieces closing, name.splitOnP isDivider = start :: (pieces ++ [closing]) ∧
      (argumentText name).splitOnP isDivider =
        openingText start :: pieces ++ [closing ++ ['\x7d']] := by
  obtain ⟨first, second, rfl⟩ := List.append_of_mem hc
  obtain ⟨start, pieces, hfirst⟩ :=
    List.exists_cons_of_ne_nil (List.splitOnP_ne_nil isDivider first)
  obtain ⟨pieces', closing, hsecond⟩ := (List.eq_nil_or_concat' (second.splitOnP isDivider)).resolve_left
    (List.splitOnP_ne_nil isDivider second)
  have hname : (first ++ c :: second).splitOnP isDivider =
      start :: (pieces ++ pieces') ++ [closing] := by
    rw [List.splitOnP_append_cons first second hdivider, hfirst, hsecond]
    simp
  have hbrace : ['\x7d'].splitOnP isDivider = [['\x7d']] := rfl
  have hopen : ['$', '\x7b'].splitOnP isDivider = [] ++ [['$', '\x7b']] := rfl
  refine ⟨start, pieces ++ pieces', closing, by simpa using hname, ?_⟩
  exact splitOnP_append hopen (splitOnP_append hname hbrace)

/-- The fragments of a part. If the part is divided, one of them opens an argument. -/
theorem IsProper.exists_fragments (h : part.IsProper) :
    ∃ init last, part.text.splitOnP isDivider = init ++ [last] ∧ (∀ word ∈ init, IsFragment word) ∧
      IsClosed last ∧ last ≠ [] ∧
      (¬part.IsWhole → ∃ start, (∀ c ∈ start, c.isAlphanum = true) ∧ openingText start ∈ init) := by
  by_cases hwhole : part.IsWhole
  · obtain ⟨hclosed, hne⟩ := h.isClosed hwhole
    exact ⟨[], part.text, List.splitOnP_eq_singleton hwhole, nofun, hclosed, hne, absurd hwhole⟩
  · cases part with
    | word letters => exact absurd (fun c hc => isDivider_eq_false (h.2 c hc)) hwhole
    | argument name =>
      obtain ⟨c, hc, hdivider⟩ : ∃ c ∈ name, isDivider c = true := by
        by_contra hnone
        refine hwhole fun c hc => ?_
        rcases isDivider_argumentText hc with hmem | hfalse
        · exact Bool.eq_false_iff.2 fun hdivider => hnone ⟨c, hmem, hdivider⟩
        · exact hfalse
      obtain ⟨start, pieces, closing, hname, hsplit⟩ := exists_splitOnP_argumentText hc hdivider
      have hletters : ∀ word ∈ start :: (pieces ++ [closing]), ∀ c ∈ word, c.isAlphanum = true := by
        intro word hword c hc
        obtain ⟨hmem, hdivider⟩ := forall_mem_of_mem_splitOnP (hname ▸ hword) c hc
        simpa [isSimpleChar, hdivider] using h.2 c hmem
      obtain ⟨hstart, hletters⟩ := List.forall_mem_cons.1 hletters
      obtain ⟨hpieces, hclosing⟩ := List.forall_mem_append.1 hletters
      refine ⟨openingText start :: pieces, closing ++ ['\x7d'], hsplit, ?_, ?_, by simp,
        fun _ => ⟨start, hstart, List.mem_cons_self⟩⟩
      · refine List.forall_mem_cons.2 ⟨Or.inr ⟨start, hstart, rfl⟩, fun word hword => Or.inl ?_⟩
        exact .letters fun c hc => isFragmentChar_of_isAlphanum (hpieces word hword c hc)
      · have hbrace : ∀ c ∈ ['\x7d'], isFragmentChar c = true :=
          List.forall_mem_singleton.2 (by decide)
        refine .letters (List.forall_mem_append.2 ⟨fun c hc => ?_, hbrace⟩)
        exact isFragmentChar_of_isAlphanum (hclosing closing (List.mem_singleton_self closing) c hc)

/-! ### The words of a name made of parts -/

theorem splitOnP_written (hparts : parts ≠ []) :
    (written parts).splitOnP isDivider = parts.flatMap fun part => part.text.splitOnP isDivider := by
  induction parts with
  | nil => exact absurd rfl hparts
  | cons part parts ih =>
    cases parts with
    | nil => simp [written]
    | cons next parts =>
      have hcons : written (part :: next :: parts) = part.text ++ ' ' :: written (next :: parts) := by
        rw [written, List.map_cons, List.map_cons, List.intercalate_cons_cons, ← List.map_cons,
          List.append_assoc]
        rfl
      rw [hcons, List.splitOnP_append_cons _ _ rfl, ih (List.cons_ne_nil next parts)]
      rfl

/-- The words of a divided name are fragments. If a part of it is divided, one of them opens an
argument. -/
theorem exists_words_written (hparts : parts ≠ []) (h : ∀ part ∈ parts, part.IsProper)
    (hdivided : ∃ c ∈ written parts, isDivider c = true) :
    ∃ init last, words (written parts) = init ++ [last] ∧ (∀ word ∈ init, IsFragment word) ∧
      IsClosed last ∧ last ≠ [] ∧ ((∃ part ∈ parts, ¬part.IsWhole) →
        ∃ start, (∀ c ∈ start, c.isAlphanum = true) ∧ openingText start ∈ init) := by
  rw [words_of_divider hdivided, splitOnP_written hparts]
  obtain ⟨first, part, rfl⟩ := (List.eq_nil_or_concat' parts).resolve_left hparts
  obtain ⟨hfirst, hpart⟩ := List.forall_mem_append.1 h
  obtain ⟨init, last, hsplit, hinit, hlast, hne, hopen⟩ :=
    (hpart part (List.mem_singleton_self part)).exists_fragments
  refine ⟨first.flatMap (fun part => part.text.splitOnP isDivider) ++ init, last, ?_, ?_, hlast, hne, ?_⟩
  · rw [List.flatMap_append, List.flatMap_singleton, hsplit, List.append_assoc]
  · refine List.forall_mem_append.2 ⟨fun word hword => ?_, hinit⟩
    obtain ⟨other, hother, hword⟩ := List.mem_flatMap.1 hword
    obtain ⟨init', last', hsplit', hinit', hlast', -⟩ := (hfirst other hother).exists_fragments
    rw [hsplit'] at hword
    rcases List.mem_append.1 hword with hword | hword
    · exact hinit' word hword
    · exact Or.inl (List.mem_singleton.1 hword ▸ hlast')
  · rintro ⟨other, hother, hcut⟩
    rcases List.mem_append.1 hother with hother | hother
    · obtain ⟨init', last', hsplit', -, -, -, hopen'⟩ := (hfirst other hother).exists_fragments
      obtain ⟨start, hstart, hmem⟩ := hopen' hcut
      refine ⟨start, hstart, List.mem_append_left _ (List.mem_flatMap.2 ⟨other, hother, ?_⟩)⟩
      rw [hsplit']
      exact List.mem_append_left _ hmem
    · obtain rfl := List.mem_singleton.1 hother
      obtain ⟨start, hstart, hmem⟩ := hopen hcut
      exact ⟨start, hstart, List.mem_append_right _ hmem⟩

/-- Whether the words of a name are its parts: no part is divided, and a name that is one argument has
no small letters. -/
def AreWords (parts : List Part) : Prop :=
  (∀ part ∈ parts, part.IsWhole) ∧ (2 ≤ parts.length ∨ isUpperCase (written parts) = true)

theorem AreWords.words_written (h : AreWords parts) (hparts : parts ≠ []) :
    words (written parts) = parts.map text := by
  obtain ⟨hwhole, hlength⟩ := h
  by_cases hdivided : ∃ c ∈ written parts, isDivider c = true
  · rw [words_of_divider hdivided, splitOnP_written hparts,
      List.flatMap_congr fun part hpart => List.splitOnP_eq_singleton (hwhole part hpart),
      ← List.map_eq_flatMap]
  · have hnone : ∀ c ∈ written parts, isDivider c = false :=
      fun c hc => Bool.eq_false_iff.2 fun hdivider => hdivided ⟨c, hc, hdivider⟩
    match parts, hparts with
    | [part], _ =>
      have hupper : isUpperCase (written [part]) = true := hlength.resolve_left (by simp)
      rw [words_of_no_divider hnone, if_pos hupper]
      simp [written]
    | part :: next :: parts, _ =>
      -- two parts have a space between them
      have hspace : ' ' ∈ written (part :: next :: parts) := by
        rw [written, List.map_cons, List.map_cons, List.intercalate_cons_cons]
        simp
      exact absurd (hnone ' ' hspace) (by decide)

/-- The words of one argument with small letters do not have its opening. -/
theorem exists_words_argumentText (hname : name ≠ []) (h : ∀ c ∈ name, c.isAlphanum = true)
    (hupper : isUpperCase (argumentText name) = false) :
    ∃ init last, words (argumentText name) = init ++ [last] ∧ last ≠ [] ∧
      (∀ word ∈ init ++ [last], ∀ c ∈ word, isFragmentChar c = true) ∧
      (init ++ [last]).flatten = name ++ ['\x7d'] := by
  obtain ⟨c, name, rfl⟩ := List.exists_cons_of_ne_nil hname
  have hnone : ∀ d ∈ argumentText (c :: name), isDivider d = false := by
    intro d hd
    rcases isDivider_argumentText hd with hmem | hfalse
    · exact isDivider_eq_false (h d hmem)
    · exact hfalse
  have hcamel : camelWords none (argumentText (c :: name)) =
      camelWords (some [c]) (name ++ ['\x7d']) :=
    camelWords_cons (h c List.mem_cons_self) (name ++ ['\x7d'])
  have hflatten := flatten_camelWords [c] (name ++ ['\x7d'])
  obtain ⟨init, last, hwords⟩ :=
    (List.eq_nil_or_concat' (camelWords (some [c]) (name ++ ['\x7d']))).resolve_left
      fun hnil => by rw [hnil] at hflatten; cases hflatten
  rw [hwords] at hflatten
  refine ⟨init, last, ?_, ?_, fun word hword d hd => ?_, hflatten⟩
  · rw [words_of_no_divider hnone, hupper, if_neg Bool.false_ne_true, hcamel, hwords]
  · have hmem : last ∈ camelWords (some [c]) (name ++ ['\x7d']) := by simp [hwords]
    exact ne_nil_of_mem_camelWords (List.cons_ne_nil c []) hmem
  · have hmem : d ∈ (c :: name) ++ ['\x7d'] := hflatten ▸ List.mem_flatten.2 ⟨word, hword, hd⟩
    rcases List.mem_append.1 hmem with hmem | hmem
    · exact isFragmentChar_of_isAlphanum (h d hmem)
    · obtain rfl := List.mem_singleton.1 hmem
      rfl

/-! ### What the pattern of a name finds -/

theorem mem_written (hpart : part ∈ parts) (hc : c ∈ part.text) : c ∈ written parts := by
  obtain ⟨first, rest, rfl⟩ := List.append_of_mem hpart
  rw [written, List.map_append, List.map_cons, intercalate_append_cons]
  simp [hc]

/-- If the words of a name are its parts, the line that is the name is found. -/
theorem AreWords.exists_find (hwords : AreWords parts) (hparts : parts ≠ [])
    (h : ∀ part ∈ parts, part.IsProper) :
    ∃ p, Pattern.compile (resourcePattern (String.ofList (written parts))) = .ok p ∧
      ∀ text, written parts ∈ lines text → ∃ m, p.find text = .ok (some m) := by
  have htexts := hwords.words_written hparts
  have hclosed : ∀ part ∈ parts, IsClosed part.text ∧ part.text ≠ [] :=
    fun part hpart => (h part hpart).isClosed (hwords.1 part hpart)
  obtain ⟨first, part, rfl⟩ := (List.eq_nil_or_concat' parts).resolve_left hparts
  have hsplit : (first ++ [part]).map text = first.map text ++ [part.text] := List.map_append
  have hall : ∀ word ∈ first.map text ++ [part.text], IsClosed word := by
    intro word hword
    obtain ⟨other, hother, rfl⟩ := List.mem_map.1 (hsplit ▸ hword)
    exact (hclosed other hother).1
  obtain ⟨p, hp, htree, hregular⟩ := exists_compile_fragments (htexts.trans hsplit)
    (fun word hword => Or.inl (hall word (List.mem_append_left _ hword)))
    (hclosed part (by simp)).1 (hclosed part (by simp)).2
  refine ⟨p, hp, fun text htext => ?_⟩
  obtain ⟨before, after, rfl, hline⟩ := mem_lines_iff.1 htext
  obtain ⟨found, hfind, hsome, -⟩ := hregular.exists_find (before ++ written (first ++ [part]) ++ after)
  have hfound : found.isSome = true := by
    refine hsome.2 ⟨before, _, after, rfl, ?_⟩
    rw [htree]
    refine Node.takes_between_anchors.2 ⟨hline.starts, hline.ends, ?_⟩
    rw [written, hsplit]
    exact takes_closedWords hall before.reverse after
  obtain ⟨m, rfl⟩ := Option.isSome_iff_exists.1 hfound
  exact ⟨m, hfind⟩

/-- If a part of a name is divided, its pattern finds nothing in any text. -/
theorem exists_find_of_divided (h : ∀ part ∈ parts, part.IsProper)
    (hcut : ∃ part ∈ parts, ¬part.IsWhole) :
    ∃ p, Pattern.compile (resourcePattern (String.ofList (written parts))) = .ok p ∧
      ∀ text, p.find text = .ok none := by
  obtain ⟨part, hpart, hdivided⟩ := hcut
  have hparts : parts ≠ [] := List.ne_nil_of_mem hpart
  have hdivider : ∃ c ∈ written parts, isDivider c = true := by
    by_contra hnone
    refine hdivided fun c hc => Bool.eq_false_iff.2 fun hdivider => hnone ?_
    exact ⟨c, mem_written hpart hc, hdivider⟩
  obtain ⟨init, last, hwords, hinit, hlast, hne, hopen⟩ := exists_words_written hparts h hdivider
  obtain ⟨start, hstart, hmem⟩ := hopen ⟨part, hpart, hdivided⟩
  obtain ⟨p, hp, htree, hregular⟩ := exists_compile_fragments hwords hinit hlast hne
  refine ⟨p, hp, fun text => hregular.find_eq_none fun skipped taken rest _ htakes => ?_⟩
  rw [htree] at htakes
  exact not_takes_opening hstart hmem (Node.takes_between_anchors.1 htakes).2.2

/-- The pattern of one argument with small letters does not find the argument. -/
theorem exists_find_argumentText (hname : name ≠ []) (h : ∀ c ∈ name, c.isAlphanum = true)
    (hupper : isUpperCase (argumentText name) = false) :
    ∃ p, Pattern.compile (resourcePattern (String.ofList (argumentText name))) = .ok p ∧
      p.find (argumentText name) = .ok none := by
  obtain ⟨init, last, hwords, hne, hletters, hflatten⟩ := exists_words_argumentText hname h hupper
  have hclosed : ∀ word ∈ init ++ [last], IsClosed word :=
    fun word hword => .letters (hletters word hword)
  obtain ⟨p, hp, htree, hregular⟩ := exists_compile_fragments hwords
    (fun word hword => Or.inl (hclosed word (List.mem_append_left _ hword)))
    (hclosed last (by simp)) hne
  refine ⟨p, hp, hregular.find_eq_none fun skipped taken rest htext htakes => ?_⟩
  rw [htree] at htakes
  obtain ⟨hstarts, hends, hrow⟩ := Node.takes_between_anchors.1 htakes
  have hbreak := newline_notMem_argumentText h
  rw [htext] at hbreak
  obtain rfl : taken = argumentText name := (eq_of_unbroken hbreak hstarts hends).trans htext.symm
  -- the words have the letters of the name and its last brace, and nothing of the opening
  have hnameAscii := isAscii_of_isAlphanum h
  have hclosingAscii : IsAscii (name ++ ['\x7d']) := hnameAscii.append (by decide)
  have hopeningAscii : IsAscii ['$', '\x7b'] := by decide
  have hargumentAscii : IsAscii (argumentText name) := hopeningAscii.append hclosingAscii
  have hascii : ∀ word ∈ init ++ [last], IsAscii word :=
    fun word hword => isAscii_of_isFragmentChar (hletters word hword)
  rw [wordsRow_congr fun word hword => fragmentTrees_letters (hletters word hword),
    takes_wordsRow (fun c _ => accepts_dividerTest) hascii hargumentAscii] at hrow
  have hargument : argumentText name = ['$', '\x7b'] ++ (name ++ ['\x7d']) := rfl
  have hbare := hrow.bareChars_eq (fun _ => id) hargumentAscii hascii
  rw [hflatten, hargument, bareChars_append hopeningAscii hclosingAscii] at hbare
  have hlength := congrArg List.length hbare
  have hopening : (bareChars ['$', '\x7b']).length = 2 := by decide +kernel
  rw [List.length_append, hopening] at hlength
  omega

/-- If no part is divided and still the words are not the parts, the name is one argument, which is
not found. -/
theorem exists_find_of_not_areWords (h : ∀ part ∈ parts, part.IsProper)
    (hname : .argument name ∈ parts) (hwhole : ∀ part ∈ parts, part.IsWhole)
    (hwords : ¬AreWords parts) :
    ∃ p, Pattern.compile (resourcePattern (String.ofList (written parts))) = .ok p ∧
      p.find (written parts) = .ok none := by
  obtain ⟨hlength, hupper⟩ := not_or.1 fun h => hwords ⟨hwhole, h⟩
  obtain rfl : parts = [.argument name] := by
    match parts, hname with
    | [part], hname => rw [List.mem_singleton.1 hname]
    | _ :: _ :: _, _ => exact absurd (by simp) hlength
  have hwritten : written [.argument name] = argumentText name := by simp [written, text]
  have hproper : name ≠ [] ∧ ∀ c ∈ name, isSimpleChar c = true := h _ (List.mem_singleton_self _)
  have hletters : ∀ c ∈ name, c.isAlphanum = true := by
    intro c hc
    have hdivider : isDivider c = false :=
      hwhole _ (List.mem_singleton_self _) c (by simp [text, argumentText, hc])
    simpa [isSimpleChar, hdivider] using hproper.2 c hc
  rw [hwritten] at hupper ⊢
  exact exists_find_argumentText hproper.1 hletters (Bool.eq_false_iff.2 hupper)

end Part

end KeywordCatalog.Keyword
