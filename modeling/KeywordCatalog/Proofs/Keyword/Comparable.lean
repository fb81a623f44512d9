import KeywordCatalog.Proofs.Keyword.Fragments

/-!
# Names that can be compared

A name is plain outside of its arguments, if it is made of texts without signs of a pattern and of
embedded arguments (`IsPlainOutside`). Made bare, it is of the same kind, whatever letters it has: the
lower case form of a character that is no sign has no signs.

Such a name is read as a row of letters and of groups. An argument whose name has other characters
than words have stays as it is; its dollar sign is then the end of a line and its brace starts no
count. So the comparison of a keyword with the name always has a result
(`IsPlainOutside.exists_isNamed`).
-/

namespace KeywordCatalog.Text

variable {c : Char} {before rest word : List Char}

/-! ### Lower case beyond the first 128 characters -/

theorem Shifts.apply_eq_or_mem (shifts : Shifts) (n : Nat) :
    shifts.apply n = n ∨ ∃ row ∈ shifts, row.1 ≤ n ∧ n ≤ row.2.1 ∧
      shifts.apply n = (n + row.2.2.2).toNat := by
  induction shifts with
  | nil => exact Or.inl rfl
  | cons row shifts ih =>
    obtain ⟨first, last, step, shift⟩ := row
    rw [Shifts.apply]
    split
    · rename_i hon
      rw [Bool.and_eq_true, Bool.and_eq_true, decide_eq_true_eq, decide_eq_true_eq] at hon
      exact Or.inr ⟨_, List.mem_cons_self, hon.1.1, hon.1.2, rfl⟩
    · rcases ih with heq | ⟨row, hrow, hfirst, hlast, heq⟩
      · exact Or.inl heq
      · exact Or.inr ⟨row, List.mem_cons_of_mem _ hrow, hfirst, hlast, heq⟩

/-- Only two characters beyond the first 128 have their lower case form among these. -/
theorem lowerCode_of_le {n : Nat} (hn : 128 ≤ n) :
    128 ≤ lowerCode n ∨ lowerCode n = 'i'.toNat ∨ lowerCode n = 'k'.toNat := by
  have hrows : ∀ row ∈ lowerShifts, row.2.1 < 128 ∨ (128 : Int) ≤ row.1 + row.2.2.2 ∨
      row.1 = row.2.1 ∧ (row.1 + row.2.2.2 = ('i'.toNat : Int) ∨
        row.1 + row.2.2.2 = ('k'.toNat : Int)) := by
    decide +kernel
  rw [lowerCode, if_neg (Nat.not_lt.2 hn)]
  rcases lowerShifts.apply_eq_or_mem n with heq | ⟨row, hrow, hfirst, hlast, heq⟩
  · exact Or.inl (heq.symm ▸ hn)
  · rw [heq]
    rcases hrows row hrow with hsmall | hlarge | ⟨hone, hi | hk⟩
    · omega
    · exact Or.inl (by omega)
    · exact Or.inr (Or.inl (by omega))
    · exact Or.inr (Or.inr (by omega))

/-- A set of characters that has the lower case forms of its members: it is closed among the first
128 characters and has all the others. -/
structure IsLowerClosed (test : Char → Bool) : Prop where
  ascii : ∀ n < 128, test (Char.ofNat n) = true → test (lowerChar (Char.ofNat n)) = true
  beyond : ∀ c : Char, 128 ≤ c.toNat → test c = true
  letters : test 'i' = true ∧ test 'k' = true ∧ test (Char.ofNat 0) = true

theorem IsLowerClosed.lowerChar {test : Char → Bool} (h : IsLowerClosed test) (hc : test c = true) :
    test (lowerChar c) = true := by
  by_cases hascii : c.toNat < 128
  · have hlower := h.ascii c.toNat hascii
    rw [Char.ofNat_toNat] at hlower
    exact hlower hc
  · rw [Text.lowerChar]
    rcases lowerCode_of_le (Nat.not_lt.1 hascii) with hle | hi | hk
    · by_cases hvalid : (lowerCode c.toNat).isValidChar
      · have hcode : (Char.ofNat (lowerCode c.toNat)).toNat = lowerCode c.toNat := by
          rw [Char.ofNat, dif_pos hvalid]
          rfl
        exact h.beyond _ (hcode.symm ▸ hle)
      · -- what is no character is kept as the first one
        have hzero : Char.ofNat (lowerCode c.toNat) = Char.ofNat 0 := by
          rw [Char.ofNat, dif_neg hvalid]
          rfl
        rw [hzero]
        exact h.letters.2.2
    · rw [hi]
      exact h.letters.1
    · rw [hk]
      exact h.letters.2.1

/-- The start of a text is put into lower case, whatever follows it, within a set that has the lower
case forms. -/
theorem IsLowerClosed.exists_lowerAfter {test : Char → Bool} (h : IsLowerClosed test)
    (hword : ∀ c ∈ word, test c = true) (before rest : List Char) :
    ∃ low, lowerAfter before (word ++ rest) = low ++ lowerAfter (word.reverse ++ before) rest ∧
      ∀ c ∈ low, test c = true := by
  induction word generalizing before with
  | nil => exact ⟨[], rfl, nofun⟩
  | cons c word ih =>
    obtain ⟨hc, hword⟩ := List.forall_mem_cons.1 hword
    obtain ⟨low, hlow, htest⟩ := ih hword (c :: before)
    have hform : ∃ form, lowerAfter before (c :: (word ++ rest)) =
        form ++ lowerAfter (c :: before) (word ++ rest) ∧ ∀ d ∈ form, test d = true := by
      refine ⟨_, rfl, fun d hd => ?_⟩
      split at hd
      · refine h.beyond d ?_
        rw [List.mem_singleton.1 hd]
        split <;> decide
      · split at hd
        · rcases List.mem_cons.1 hd with rfl | hd
          · exact h.letters.1
          · exact h.beyond d (by rw [List.mem_singleton.1 hd]; decide)
        · rw [List.mem_singleton.1 hd]
          exact h.lowerChar hc
    obtain ⟨form, hform, hdone⟩ := hform
    refine ⟨form ++ low, ?_, List.forall_mem_append.2 ⟨hdone, htest⟩⟩
    rw [List.cons_append, hform, hlow, List.reverse_cons, List.append_assoc, List.append_assoc]
    rfl

end KeywordCatalog.Text

namespace KeywordCatalog.Keyword

open Text Pattern

variable {c : Char} {name : List Char} {part : Part} {parts : List Part}

/-! ### Names that are plain outside of their arguments -/

/-- A character that can stand in an argument as it is: no sign of a pattern, and none that ends an
argument or stands in a count. -/
def isNameChar (c : Char) : Bool := isLiteral c && c != '\x7d' && c != ','

/-- Whether a part has no signs of a pattern besides the signs of an argument. -/
def Part.IsPlain : Part → Prop
  | .word letters => ∀ c ∈ letters, isLiteral c = true
  | .argument name => ∀ c ∈ name, isNameChar c = true

/-- Whether a name is made of texts without signs of a pattern, and of arguments. -/
def IsPlainOutside (keyword : List Char) : Prop :=
  ∃ parts : List Part, keyword = parts.flatMap Part.text ∧ ∀ part ∈ parts, part.IsPlain

theorem isNameChar_iff : isNameChar c = true ↔ isLiteral c = true ∧ c ≠ '\x7d' ∧ c ≠ ',' := by
  simp [isNameChar, and_assoc]

theorem isNameChar_of_le (hc : 128 ≤ c.toNat) : isNameChar c = true := by
  have hne {d : Char} (hd : d.toNat < 128) : c ≠ d := by
    rintro rfl
    omega
  have hsigns : ∀ d ∈ "\\|)([.^$*+?\x7b".toList, d.toNat < 128 :=
    List.all_iff_forall_prop.1 (by decide)
  rw [isNameChar_iff]
  refine ⟨?_, hne (by decide), hne (by decide)⟩
  rw [isLiteral, Bool.not_eq_true', Bool.eq_false_iff, ne_eq, List.contains_iff_mem]
  exact fun hmem => hne (hsigns c hmem) rfl

theorem isLowerClosed_isNameChar : IsLowerClosed isNameChar where
  ascii := by decide +kernel
  beyond _ := isNameChar_of_le
  letters := by decide

theorem isLowerClosed_isLiteral : IsLowerClosed isLiteral where
  ascii := by decide +kernel
  beyond _ hc := (isNameChar_iff.1 (isNameChar_of_le hc)).1
  letters := by decide

/-! ### Plain parts stay plain -/

namespace Part

/-- A plain part in lower case is a plain part, whatever stands around it. -/
theorem IsPlain.exists_lowerAfter (h : part.IsPlain) (before rest : List Char) :
    ∃ part' : Part, part'.IsPlain ∧ lowerAfter before (part.text ++ rest) =
      part'.text ++ lowerAfter (part.text.reverse ++ before) rest := by
  cases part with
  | word letters =>
    obtain ⟨low, hlow, hliteral⟩ := isLowerClosed_isLiteral.exists_lowerAfter h before rest
    exact ⟨.word low, hliteral, hlow⟩
  | argument name =>
    have hsign {c : Char} (hc : c.toNat < 128) (hlower : lowerChar c = c) (before rest : List Char) :
        lowerAfter before (c :: rest) = c :: lowerAfter (c :: before) rest := by
      have hsigma : c ≠ 'Σ' := by
        rintro rfl
        exact absurd hc (by decide)
      have hdotted : c ≠ 'İ' := by
        rintro rfl
        exact absurd hc (by decide)
      simp [lowerAfter, hsigma, hdotted, hlower]
    obtain ⟨low, hlow, hname⟩ := isLowerClosed_isNameChar.exists_lowerAfter h
      ('\x7b' :: '$' :: before) ('\x7d' :: rest)
    refine ⟨.argument low, hname, ?_⟩
    have htext : text (.argument name) ++ rest = '$' :: '\x7b' :: (name ++ '\x7d' :: rest) := by
      simp [text, argumentText]
    rw [htext, hsign (by decide) (by decide), hsign (by decide) (by decide), hlow,
      hsign (by decide) (by decide)]
    simp [text, argumentText]

/-- A part without dividers. -/
def undivided : Part → Part
  | .word letters => .word (letters.filter (!isDivider ·))
  | .argument name => .argument (name.filter (!isDivider ·))

theorem text_undivided (part : Part) : part.undivided.text = part.text.filter (!isDivider ·) := by
  cases part with
  | word letters => rfl
  | argument name =>
    have hsigns : isDivider '$' = false ∧ isDivider '\x7b' = false ∧ isDivider '\x7d' = false := by
      decide
    simp [undivided, text, argumentText, hsigns]

theorem IsPlain.undivided (h : part.IsPlain) : part.undivided.IsPlain := by
  cases part with
  | word letters => exact fun c hc => h c (List.mem_of_mem_filter hc)
  | argument name => exact fun c hc => h c (List.mem_of_mem_filter hc)

end Part

/-- The bare form of a name that is plain outside of its arguments is such a name. -/
theorem IsPlainOutside.bareChars {keyword : List Char} (h : IsPlainOutside keyword) :
    IsPlainOutside (bareChars keyword) := by
  have hlower (parts : List Part) (h : ∀ part ∈ parts, part.IsPlain) (before : List Char) :
      ∃ low : List Part, lowerAfter before (parts.flatMap Part.text) = low.flatMap Part.text ∧
        ∀ part ∈ low, part.IsPlain := by
    induction parts generalizing before with
    | nil => exact ⟨[], rfl, nofun⟩
    | cons part parts ih =>
      obtain ⟨hpart, h⟩ := List.forall_mem_cons.1 h
      obtain ⟨part', hpart', htext⟩ := hpart.exists_lowerAfter before (parts.flatMap Part.text)
      obtain ⟨low, hlow, hplain⟩ := ih h (part.text.reverse ++ before)
      refine ⟨part' :: low, ?_, List.forall_mem_cons.2 ⟨hpart', hplain⟩⟩
      rw [List.flatMap_cons, htext, hlow, List.flatMap_cons]
  obtain ⟨parts, rfl, hparts⟩ := h
  obtain ⟨low, hlow, hplain⟩ := hlower parts hparts []
  refine ⟨low.map Part.undivided, ?_, fun part hpart => ?_⟩
  · rw [Keyword.bareChars, lower, hlow, List.filter_flatMap, List.flatMap_map]
    exact List.flatMap_congr fun part _ => part.text_undivided.symm
  · obtain ⟨other, hother, rfl⟩ := List.mem_map.1 hpart
    exact (hplain other hother).undivided

/-! ### The pattern of a plain name -/

namespace Part

/-- A part in the pattern of a name. An argument whose name has other characters than words have
stays as it is. -/
def embedded : Part → List Char
  | .word letters => letters
  | .argument name =>
    if name.all isArgumentChar then caseMark ++ valueGroup else argumentText name

/-- A part in the pattern of a name, without its mark. -/
def unmarked : Part → List Char
  | .word letters => letters
  | .argument name => if name.all isArgumentChar then valueGroup else argumentText name

theorem dollar_notMem_of_isNameChar (h : ∀ c ∈ name, isNameChar c = true) : '$' ∉ name :=
  fun hmem => absurd (h '$' hmem) (by decide)

/-- An argument with another character in its name is none for the pattern. -/
theorem becomes_argumentText (h : ∀ c ∈ name, isNameChar c = true)
    (hname : name.all isArgumentChar = false) :
    Becomes argumentAt (argumentText name) (argumentText name) := by
  have hnone (rest : List Char) :
      argumentAt ('$' :: ('\x7b' :: (name ++ ['\x7d']) ++ rest)) = none := by
    obtain ⟨d, hd, -, after, hdrop⟩ := exists_dropWhile hname ('\x7d' :: rest)
    have hbrace : d ≠ '\x7d' := (isNameChar_iff.1 (h d hd)).2.1
    rw [List.cons_append, List.append_assoc, List.singleton_append, argumentAt]
    simp only [hdrop]
    split
    · rename_i heq
      exact absurd (List.cons.inj heq).1 hbrace
    · rfl
  have hothers : Becomes argumentAt ('\x7b' :: (name ++ ['\x7d'])) ('\x7b' :: (name ++ ['\x7d'])) := by
    refine .of_forall_none fun c hc => argumentAt_of_ne ?_
    rintro rfl
    simp [dollar_notMem_of_isNameChar h] at hc
  intro rest
  calc
    substitute argumentAt ('$' :: ('\x7b' :: (name ++ ['\x7d']) ++ rest))
      = '$' :: substitute argumentAt ('\x7b' :: (name ++ ['\x7d']) ++ rest) := by
        rw [substitute, substituteFrom, hnone]
        rfl
    _ = argumentText name ++ substitute argumentAt rest := by rw [hothers]; rfl

theorem IsPlain.becomes_embedded (h : part.IsPlain) : Becomes argumentAt part.text part.embedded := by
  cases part with
  | word letters =>
    refine .of_forall_none fun c hc => argumentAt_of_ne ?_
    exact isLiteral_ne (h c hc) rfl
  | argument name =>
    rw [embedded]
    split
    · rename_i hname
      exact becomes_argument (List.all_eq_true.1 hname)
    · rename_i hname
      exact becomes_argumentText h (Bool.eq_false_iff.2 hname)

theorem IsPlain.becomes_unmarked (h : part.IsPlain) : Becomes markAt part.embedded part.unmarked := by
  cases part with
  | word letters => exact becomes_markless fun c hc => isLiteral_ne (h c hc) rfl
  | argument name =>
    rw [embedded, unmarked]
    split
    · exact becomes_caseMark.append becomes_valueGroup
    · refine becomes_markless fun c hc => ?_
      rw [argumentText, List.mem_cons, List.mem_cons, List.mem_append, List.mem_singleton] at hc
      rcases hc with rfl | rfl | hc | rfl
      · decide
      · decide
      · exact isLiteral_ne (isNameChar_iff.1 (h c hc)).1 rfl
      · decide

/-! ### Reading the pattern -/

/-- The test on the characters of an argument. -/
def valueTest (o : Options) : CharTest := .oneOf o.rule false [.category .blank o.narrow true]

theorem spells_value {o : Options} (ho : o.IsUsual) :
    Spells o ['\\', 'S', '+'] [.span 1 none .greedy (valueTest o)] := by
  have htest : SpellsTest o ['\\', 'S'] (valueTest o) := by
    refine ⟨'\\', ['S'], rfl, by decide, by decide, by decide, fun s rest hs => ?_⟩
    have hescape : s.step '\\' ('S' :: rest) = s.readEscape ('S' :: rest) := by
      unfold State.step
      simp [hs, ho.spaced]
    rw [List.singleton_append, hescape]
    unfold State.readEscape
    rw [hs]
    rfl
  exact htest.many ho

/-- An argument that stays as it is: the end of a line, and letters. -/
theorem spells_argumentText {o : Options} (ho : o.IsUsual) (h : ∀ c ∈ name, isNameChar c = true)
    (hname : name.all isArgumentChar = false) :
    Spells o (argumentText name) (.anchor (.lineEnd o.everyLine) :: letterNode o.rule '\x7b' ::
      (name ++ ['\x7d']).map (letterNode o.rule)) := by
  have hdigits : name.all Char.isDigit = false := by
    by_contra hall
    rw [Bool.not_eq_false, List.all_eq_true] at hall
    refine Bool.eq_false_iff.1 hname (List.all_eq_true.2 fun c hc => ?_)
    have hdigit := hall c hc
    have hascii : c.toNat < 128 :=
      toNat_lt_of_isSimpleChar (by simp [isSimpleChar, Char.isAlphanum, hdigit])
    exact forall_ascii (P := fun c => c.isDigit = true → isArgumentChar c = true) (by decide +kernel)
      hascii hdigit
  have hletters : Spells o (name ++ ['\x7d']) ((name ++ ['\x7d']).map (letterNode o.rule)) := by
    have hbrace : ∀ c ∈ ['\x7d'], isLiteral c = true :=
      List.forall_mem_singleton.2 (by decide)
    refine .letters ho (List.forall_mem_append.2 ⟨fun c hc => ?_, hbrace⟩)
    exact (isNameChar_iff.1 (h c hc)).1
  refine (Spells.lineEnd ho).append (Spells.brace ho (fun s rest _ => ?_) hletters)
  obtain ⟨d, hd, -, after, hdrop⟩ := exists_dropWhile hdigits (['\x7d'] ++ rest)
  obtain ⟨-, hbrace, hcomma⟩ := isNameChar_iff.1 (h d hd)
  rw [List.append_assoc]
  exact State.readCount_eq_brace hdrop hbrace hcomma

/-- Trees for the groups from a number on that a search can start with, whatever comes first. -/
structure IsGroupRow (count : Nat) (nodes : List Node) : Prop where
  regular : ∀ node ∈ nodes, node.IsRegular
  first : ∀ node ∈ nodes, ∀ rule negated items, node.firstTest? ≠ some (.oneOf rule negated items)
  numbered : ∃ hi, (Node.row nodes).Numbered (Marks.startEntry (count + 1)) hi

theorem IsGroupRow.nil (count : Nat) : IsGroupRow count [] := ⟨nofun, nofun, _, Nat.le_refl _⟩

theorem IsGroupRow.one_cons {count : Nat} {nodes : List Node} {node : Node}
    (h : IsGroupRow count nodes) (hpiece : node.IsPiece)
    (hfirst : ∀ rule negated items, node.firstTest? ≠ some (.oneOf rule negated items)) :
    IsGroupRow count (node :: nodes) where
  regular := List.forall_mem_cons.2 ⟨hpiece.isRegular, h.regular⟩
  first := List.forall_mem_cons.2 ⟨hfirst, h.first⟩
  numbered := by
    obtain ⟨hi, hnumbered⟩ := h.numbered
    exact ⟨hi, Node.numbered_row_cons (hpiece.numbered _) hnumbered⟩

theorem IsGroupRow.letters {count : Nat} {nodes : List Node} (h : IsGroupRow count nodes)
    (rule : CaseRule) (text : List Char) :
    IsGroupRow count (text.map (letterNode rule) ++ nodes) := by
  induction text with
  | nil => exact h
  | cons c text ih =>
    exact ih.one_cons (isPiece_letterNode rule c) (by simp [letterNode, Node.firstTest?])

theorem IsGroupRow.group {count : Nat} {nodes : List Node} (h : IsGroupRow (count + 1) nodes)
    (test : CharTest) :
    IsGroupRow count (.capture (count + 1) (.span 1 none .greedy test) :: nodes) where
  regular := List.forall_mem_cons.2 ⟨by simp [Node.IsRegular], h.regular⟩
  first := List.forall_mem_cons.2 ⟨by simp [Node.firstTest?], h.first⟩
  numbered := by
    obtain ⟨hi, hnumbered⟩ := h.numbered
    have hentries : Marks.endEntry (count + 1) < Marks.startEntry (count + 1 + 1) := by
      simp only [Marks.startEntry, Marks.endEntry]
      omega
    exact ⟨hi, Node.numbered_row_cons
      ⟨Nat.succ_pos _, Nat.le_refl _, Nat.le_refl _, hentries⟩ hnumbered⟩

theorem IsPlain.endsRepetition (h : part.IsPlain) : EndsRepetition part.unmarked := by
  cases part with
  | word letters => exact endsRepetition_literals h
  | argument name =>
    rw [unmarked]
    split <;> exact endsRepetition_cons (by decide) _

/-- A plain part is read as trees that go before the trees of the following parts. -/
theorem IsPlain.exists_leadsTo {o : Options} (ho : o.IsUsual) (h : part.IsPlain) {s : State}
    {row : List Node} {count : Nat} (hs : s.Reads o row count) :
    ∃ (s' : State) (nodes : List Node) (count' : Nat), s.LeadsTo part.unmarked s' ∧
      s'.Reads o (row ++ nodes) count' ∧
      ∀ more, IsGroupRow count' more → IsGroupRow count (nodes ++ more) := by
  have hdepth : s.outer.length < State.levelLimit := by
    rw [hs.outer]
    decide
  have hspells {text : List Char} {nodes : List Node} (htext : Spells o text nodes) :
      s.LeadsTo text (s.add (nodes.map .node)) ∧
        (s.add (nodes.map .node)).Reads o (row ++ nodes) count := by
    have hadd := hs.add (nodes.map .node)
    rw [flatMap_row_node] at hadd
    exact ⟨htext.leadsTo s hs.options (Nat.le_of_lt hdepth), hadd⟩
  cases part with
  | word letters =>
    obtain ⟨hway, hreads⟩ := hspells (.letters ho h)
    exact ⟨_, _, count, hway, hreads, fun more hmore => hmore.letters _ _⟩
  | argument name =>
    rw [unmarked]
    split
    · exact ⟨_, _, count + 1, (spells_value ho).group ho hs.options hdepth, hs.addGroup _,
        fun more hmore => hmore.group _⟩
    · rename_i hname
      obtain ⟨hway, hreads⟩ := hspells (spells_argumentText ho h (Bool.eq_false_iff.2 hname))
      refine ⟨_, _, count, hway, hreads, fun more hmore => ?_⟩
      refine ((hmore.letters _ _).one_cons (isPiece_letterNode _ _) ?_).one_cons trivial nofun
      simp [letterNode, Node.firstTest?]

theorem exists_leadsTo {o : Options} (ho : o.IsUsual) (h : ∀ part ∈ parts, part.IsPlain) {s : State}
    {row : List Node} {count : Nat} (hs : s.Reads o row count) :
    ∃ (s' : State) (nodes : List Node) (count' : Nat), s.LeadsTo (parts.flatMap unmarked) s' ∧
      s'.Reads o (row ++ nodes) count' ∧ IsGroupRow count nodes ∧
      EndsRepetition (parts.flatMap unmarked) := by
  induction parts generalizing s row count with
  | nil =>
    refine ⟨s, [], count, .refl s, ?_, .nil count, by simp [EndsRepetition]⟩
    rwa [List.append_nil]
  | cons part parts ih =>
    obtain ⟨hpart, h⟩ := List.forall_mem_cons.1 h
    obtain ⟨s₁, first, count₁, hway₁, hs₁, hrow⟩ := hpart.exists_leadsTo ho hs
    obtain ⟨s₂, more, count₂, hway₂, hs₂, hmore, hends⟩ := ih h hs₁
    refine ⟨s₂, first ++ more, count₂, hway₁.trans hway₂ hends, ?_, hrow more hmore,
      hpart.endsRepetition.append hends⟩
    rwa [← List.append_assoc]

end Part

/-- The pattern of a bare name that is plain outside of its arguments is a regular one. -/
theorem IsPlainOutside.exists_compileMarked {keyword : List Char} (h : IsPlainOutside keyword) :
    ∃ p, compileMarked (embeddedPattern keyword) = .ok p ∧ p.IsRegular := by
  obtain ⟨parts, rfl, hparts⟩ := h
  have hembedded : embeddedPattern (parts.flatMap Part.text) = parts.flatMap Part.embedded :=
    (Becomes.flatMap fun part hpart => (hparts part hpart).becomes_embedded).substitute_eq
  have herased : erase caseMark (parts.flatMap Part.embedded) = parts.flatMap Part.unmarked :=
    (Becomes.flatMap fun part hpart => (hparts part hpart).becomes_unmarked).substitute_eq
  rw [hembedded, compileMarked, herased]
  obtain ⟨s, nodes, count, hway, hs, hrow, -⟩ :=
    Part.exists_leadsTo (o := { ignoreCase := contains caseMark (parts.flatMap Part.embedded) })
      ⟨rfl, rfl⟩ hparts (State.Reads.initial _)
  obtain ⟨hparse, htree⟩ := hs.parseWith_eq hway.read_eq
  rw [List.nil_append] at htree
  obtain ⟨hi, hnumbered⟩ := hrow.numbered
  have hfirst : ∀ rule negated items, s.tree.firstTest? ≠ some (.oneOf rule negated items) := by
    rw [htree]
    cases nodes with
    | nil =>
      intro rule negated items heq
      cases heq
    | cons node nodes =>
      rw [Node.firstTest?_row_cons]
      exact hrow.first node List.mem_cons_self
  obtain ⟨p, hp, -, hregular⟩ := exists_compileWith hparse (htree ▸ Node.isRegular_row hrow.regular)
    (htree ▸ hnumbered) hfirst
  exact ⟨p, hp, hregular⟩

/-- **Every keyword can be compared with a name that is plain outside of its arguments.** -/
theorem IsPlainOutside.exists_isNamed {candidate : String} (h : IsPlainOutside candidate.toList)
    (keyword : String) : ∃ named, isNamed keyword candidate = .ok named := by
  rw [isNamed]
  split
  · obtain ⟨p, hp, hregular⟩ := h.bareChars.exists_compileMarked
    obtain ⟨named, hnamed, -⟩ := hregular.occursIn_iff (bare keyword)
    refine ⟨named, ?_⟩
    rw [isInstance, hp]
    exact hnamed
  · exact ⟨_, rfl⟩

end KeywordCatalog.Keyword
