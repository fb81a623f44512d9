import KeywordCatalog.Keyword.Words
import KeywordCatalog.Proofs.Keyword.Embedded
import KeywordCatalog.Proofs.Pattern.Line

/-!
# The words of a name

However a name is divided into words, the words stand in the name one after the other, with nothing or
one divider between two of them. `Spelled isGap init last text` says that a text is made of the words
`init` and `last` in this way, letter case aside; `isGap` tells the dividers that may stand between
them.

A name that ends with a letter or a digit is spelled by its own words, and the last of them is not
empty (`exists_words`). All texts that are spelled by the same words have the same bare form
(`Spelled.bareChars_eq`).
-/

namespace KeywordCatalog.Text

variable {α : Type} {test : α → Bool}

theorem nil_intercalate (parts : List (List α)) :
    ([] : List α).intercalate parts = parts.flatten := by
  induction parts with
  | nil => rfl
  | cons part parts ih =>
    cases parts with
    | nil => simp
    | cons next parts =>
      rw [List.intercalate_cons_cons, ih]
      simp

/-- Parts that are put together join the last part of the first and the first part of the second. -/
theorem splitOnP_append {first second : List α} {init : List (List α)} {last head : List α}
    {tail : List (List α)} (hfirst : first.splitOnP test = init ++ [last])
    (hsecond : second.splitOnP test = head :: tail) :
    (first ++ second).splitOnP test = init ++ (last ++ head) :: tail := by
  induction first generalizing init last with
  | nil =>
    rw [List.splitOnP_nil] at hfirst
    obtain ⟨rfl, rfl⟩ : init = [] ∧ last = [] := by
      cases init with
      | nil => simpa using hfirst.symm
      | cons part init => simp at hfirst
    exact hsecond
  | cons a first ih =>
    rw [List.cons_append, List.splitOnP_cons_eq_if_modifyHead]
    rw [List.splitOnP_cons_eq_if_modifyHead] at hfirst
    split at hfirst
    · rename_i ha
      cases init with
      | nil => exact absurd (List.cons.inj hfirst).2 (List.splitOnP_ne_nil test first)
      | cons part init =>
        obtain ⟨rfl, hothers⟩ : [] = part ∧ first.splitOnP test = init ++ [last] :=
          List.cons.inj hfirst
        rw [if_pos ha, ih hothers]
        rfl
    · rename_i ha
      rw [if_neg ha]
      obtain ⟨part, others, hsplit⟩ := List.exists_cons_of_ne_nil (List.splitOnP_ne_nil test first)
      rw [hsplit, List.modifyHead_cons] at hfirst
      cases init with
      | nil =>
        obtain ⟨rfl, rfl⟩ := List.cons.inj hfirst
        rw [ih (show first.splitOnP test = [] ++ [part] from hsplit)]
        rfl
      | cons word init =>
        obtain ⟨rfl, rfl⟩ := List.cons.inj hfirst
        rw [ih (show first.splitOnP test = (part :: init) ++ [last] from hsplit)]
        rfl

end KeywordCatalog.Text

namespace KeywordCatalog.Keyword

open Text Pattern

variable {c : Char} {isGap : Char → Bool} {init : List (List Char)} {word last name text : List Char}

/-! ### Letters and dividers -/

theorem isDivider_eq_false (hc : c.isAlphanum = true) : isDivider c = false := by
  by_contra h
  rw [Bool.not_eq_false, isDivider, Bool.or_eq_true, beq_iff_eq, beq_iff_eq] at h
  rcases h with rfl | rfl <;> exact absurd hc (by decide)

/-- A divider has no other case. -/
theorem lowerChar_eq_divider {d : Char} (hd : isDivider d = true) (hc : c.toNat < 128) :
    lowerChar c = d ↔ c = d := by
  have hc := forall_ascii (P := fun c => (lowerChar c = ' ' ↔ c = ' ') ∧ (lowerChar c = '_' ↔ c = '_'))
    (by decide) hc
  rw [isDivider, Bool.or_eq_true, beq_iff_eq, beq_iff_eq] at hd
  rcases hd with rfl | rfl
  · exact hc.1
  · exact hc.2

theorem eq_of_lowerChar_eq {d : Char} (hd : isDivider d = true) (hc : c.toNat < 128)
    (h : lowerChar c = lowerChar d) : c = d := by
  have hdivider : d.toNat < 128 := toNat_lt_of_isSimpleChar (Bool.or_eq_true_iff.2 (Or.inr hd))
  rw [(lowerChar_eq_divider hd hdivider).2 rfl] at h
  exact (lowerChar_eq_divider hd hc).1 h

theorem isDivider_eq_false_of_lowerChar {d : Char} (hd : d.isAlphanum = true)
    (h : lowerChar c = lowerChar d) : isDivider c = false := by
  by_contra hc
  rw [Bool.not_eq_false] at hc
  have hsimple : isSimpleChar d = true := Bool.or_eq_true_iff.2 (Or.inl hd)
  have heq : d = c := eq_of_lowerChar_eq hc (toNat_lt_of_isSimpleChar hsimple) h.symm
  rw [← heq, isDivider_eq_false hd] at hc
  cases hc

/-- A text with another gap in place of each divider. -/
def replaceGaps (gap text : List Char) : List Char :=
  text.flatMap fun c => if isDivider c then gap else [c]

theorem replaceGaps_eq_self {gap : List Char} (h : ∀ c ∈ text, isDivider c = false) :
    replaceGaps gap text = text := by
  rw [replaceGaps, List.flatMap_congr fun c hc => by rw [h c hc, if_neg Bool.false_ne_true],
    List.flatMap_singleton']

/-! ### Texts that are spelled by words -/

/-- Whether a text is made of words, letter case aside, with at most one of some dividers between two
of them. -/
def Spelled (isGap : Char → Bool) : List (List Char) → List Char → List Char → Prop
  | [], last, text => text.map lowerChar = last.map lowerChar
  | word :: init, last, text => ∃ first gap more, text = first ++ (gap ++ more) ∧
    first.map lowerChar = word.map lowerChar ∧ gap.length ≤ 1 ∧ (∀ c ∈ gap, isGap c = true) ∧
    Spelled isGap init last more

namespace Spelled

/-- Words with the same divider, or none, between all of them. -/
theorem intercalate {gap : List Char} (hlength : gap.length ≤ 1) (hgap : ∀ c ∈ gap, isGap c = true)
    (init : List (List Char)) (last : List Char) :
    Spelled isGap init last (gap.intercalate (init ++ [last])) := by
  induction init with
  | nil => simp [Spelled]
  | cons word init ih =>
    obtain ⟨next, others, hnext⟩ := List.exists_cons_of_ne_nil (l := init ++ [last]) (by simp)
    rw [hnext] at ih
    rw [List.cons_append, hnext, List.intercalate_cons_cons, List.append_assoc]
    exact ⟨word, gap, _, rfl, rfl, hlength, hgap, ih⟩

/-- Words with nothing between them. -/
theorem flatten (init : List (List Char)) (last : List Char) :
    Spelled isGap init last (init ++ [last]).flatten := by
  rw [← nil_intercalate]
  have hlength : ([] : List Char).length ≤ 1 := Nat.zero_le 1
  exact intercalate hlength nofun init last

/-- Other gaps may stand in place of the dividers. -/
theorem replaceGaps {gap : List Char} (h : Spelled isDivider init last text)
    (hwords : ∀ word ∈ init ++ [last], ∀ c ∈ word, c.isAlphanum = true) (hlength : gap.length ≤ 1)
    (hgap : ∀ c ∈ gap, isGap c = true) : Spelled isGap init last (replaceGaps gap text) := by
  have hletters {word first : List Char} (hword : ∀ c ∈ word, c.isAlphanum = true)
      (hfirst : first.map lowerChar = word.map lowerChar) :
      Keyword.replaceGaps gap first = first := by
    refine replaceGaps_eq_self fun c hc => ?_
    obtain ⟨d, hd, hcd⟩ := List.mem_map.1 (hfirst ▸ List.mem_map_of_mem hc)
    exact isDivider_eq_false_of_lowerChar (hword d hd) hcd.symm
  induction init generalizing text with
  | nil =>
    rw [hletters (hwords last (by simp)) h]
    exact h
  | cons word init ih =>
    obtain ⟨first, divider, more, rfl, hfirst, hdivider, hdividers, hmore⟩ := h
    obtain ⟨hword, hwords⟩ := List.forall_mem_cons.1 hwords
    refine ⟨first, Keyword.replaceGaps gap divider, Keyword.replaceGaps gap more, ?_, hfirst, ?_, ?_,
      ih hmore hwords⟩
    · nth_rewrite 2 [← hletters hword hfirst]
      simp [Keyword.replaceGaps]
    · match divider, hdivider with
      | [], _ => exact Nat.zero_le 1
      | [c], _ => simpa [Keyword.replaceGaps, hdividers c (by simp)] using hlength
    · intro c hc
      obtain ⟨d, hd, hc⟩ := List.mem_flatMap.1 hc
      rw [hdividers d hd, if_pos rfl] at hc
      exact hgap c hc

/-- Letter case does not count. -/
theorem of_map_eq (h : Spelled isGap init last text) {text' : List Char} (hascii : IsAscii text')
    (htext : text'.map lowerChar = text.map lowerChar)
    (hgap : ∀ c, isGap c = true → isDivider c = true) : Spelled isGap init last text' := by
  induction init generalizing text text' with
  | nil => exact htext.trans h
  | cons word init ih =>
    obtain ⟨first, gap, more, rfl, hfirst, hlength, hgaps, hmore⟩ := h
    rw [List.map_append, List.map_append] at htext
    obtain ⟨first', rest', rfl, hfirst', hrest'⟩ := List.map_eq_append_iff.1 htext
    obtain ⟨gap', more', rfl, hgap', hmore'⟩ := List.map_eq_append_iff.1 hrest'
    obtain ⟨-, hascii⟩ := List.forall_mem_append.1 hascii
    obtain ⟨hgapAscii, hmoreAscii⟩ := List.forall_mem_append.1 hascii
    refine ⟨first', gap', more', rfl, hfirst'.trans hfirst, ?_, ?_, ih hmore hmoreAscii hmore'⟩
    · have := congrArg List.length hgap'
      rw [List.length_map, List.length_map] at this
      omega
    · intro d hd
      obtain ⟨c, hc, hcd⟩ := List.mem_map.1 (hgap' ▸ List.mem_map_of_mem hd)
      have heq : d = c := eq_of_lowerChar_eq (hgap c (hgaps c hc)) (hgapAscii d hd) hcd.symm
      exact heq ▸ hgaps c hc

/-- The characters of a spelled text are dividers or, letter case aside, those of its words. -/
theorem forall_mem (h : Spelled isGap init last text) :
    ∀ c ∈ text, isGap c = true ∨ ∃ word ∈ init ++ [last], ∃ d ∈ word, lowerChar c = lowerChar d := by
  have hword {word first : List Char} (hfirst : first.map lowerChar = word.map lowerChar) {c : Char}
      (hc : c ∈ first) : ∃ d ∈ word, lowerChar c = lowerChar d := by
    obtain ⟨d, hd, hcd⟩ := List.mem_map.1 (hfirst ▸ List.mem_map_of_mem hc)
    exact ⟨d, hd, hcd.symm⟩
  induction init generalizing text with
  | nil => exact fun c hc => Or.inr ⟨last, List.mem_singleton_self last, hword h hc⟩
  | cons word init ih =>
    obtain ⟨first, gap, more, rfl, hfirst, -, hgaps, hmore⟩ := h
    intro c hc
    rcases List.mem_append.1 hc with hc | hc
    · exact Or.inr ⟨word, List.mem_cons_self, hword hfirst hc⟩
    · rcases List.mem_append.1 hc with hc | hc
      · exact Or.inl (hgaps c hc)
      · rcases ih hmore c hc with hgap | ⟨other, hother, hd⟩
        · exact Or.inl hgap
        · exact Or.inr ⟨other, List.mem_cons_of_mem word hother, hd⟩

theorem bareChars_gap {gap : List Char} (h : ∀ c ∈ gap, isDivider c = true) : bareChars gap = [] := by
  have hascii : IsAscii gap :=
    fun c hc => toNat_lt_of_isSimpleChar (Bool.or_eq_true_iff.2 (Or.inr (h c hc)))
  rw [bareChars_of_isAscii hascii, List.filter_eq_nil_iff]
  intro d hd
  obtain ⟨c, hc, rfl⟩ := List.mem_map.1 hd
  have hc := h c hc
  simp only [isDivider, Bool.or_eq_true, beq_iff_eq] at hc
  rcases hc with rfl | rfl <;> decide

/-- A spelled text has the bare form of its words. -/
theorem bareChars_eq (h : Spelled isGap init last text)
    (hgap : ∀ c, isGap c = true → isDivider c = true) (htext : IsAscii text)
    (hwords : ∀ word ∈ init ++ [last], IsAscii word) :
    bareChars text = bareChars (init ++ [last]).flatten := by
  induction init generalizing text with
  | nil =>
    rw [bareChars_of_isAscii htext, show text.map lowerChar = last.map lowerChar from h,
      ← bareChars_of_isAscii (hwords last (by simp))]
    simp
  | cons word init ih =>
    obtain ⟨first, gap, more, rfl, hfirst, -, hgaps, hmore⟩ := h
    obtain ⟨hword, hwords⟩ := List.forall_mem_cons.1 hwords
    have hflatten : IsAscii (init ++ [last]).flatten := by
      intro c hc
      obtain ⟨other, hother, hc⟩ := List.mem_flatten.1 hc
      exact hwords other hother c hc
    have hfirstAscii : IsAscii first := fun c hc => htext c (List.mem_append_left _ hc)
    have hrest : IsAscii (gap ++ more) := fun c hc => htext c (List.mem_append_right _ hc)
    have hgapAscii : IsAscii gap := fun c hc => hrest c (List.mem_append_left _ hc)
    have hmoreAscii : IsAscii more := fun c hc => hrest c (List.mem_append_right _ hc)
    calc bareChars (first ++ (gap ++ more))
        = bareChars first ++ (bareChars gap ++ bareChars more) := by
          rw [bareChars_append hfirstAscii hrest, bareChars_append hgapAscii hmoreAscii]
      _ = bareChars word ++ bareChars (init ++ [last]).flatten := by
          rw [bareChars_gap fun c hc => hgap c (hgaps c hc), ih hmore hmoreAscii hwords,
            bareChars_of_isAscii hfirstAscii, hfirst, ← bareChars_of_isAscii hword,
            List.nil_append]
      _ = bareChars (word :: init ++ [last]).flatten := by
          rw [← bareChars_append hword hflatten]
          rfl

end Spelled

/-! ### Words between dividers -/

/-- Dividing at spaces and then at low lines is dividing at both. -/
theorem flatMap_splitOn (name : List Char) :
    ((name.splitOn ' ').flatMap fun part => part.splitOn '_') = name.splitOnP isDivider := by
  induction name with
  | nil => rfl
  | cons c name ih =>
    obtain ⟨first, others, hsplit⟩ := List.exists_cons_of_ne_nil (List.splitOn_ne_nil ' ' name)
    rw [hsplit, List.flatMap_cons] at ih
    obtain ⟨head, tail, hhead⟩ := List.exists_cons_of_ne_nil (List.splitOn_ne_nil '_' first)
    rw [List.splitOn_cons_eq_if_modifyHead, List.splitOnP_cons_eq_if_modifyHead, hsplit, ← ih]
    by_cases hspace : c = ' '
    · simp [hspace, isDivider]
    · by_cases hline : c = '_'
      · simp [hline, isDivider, List.splitOn_cons_eq_if_modifyHead, hhead]
      · simp [hspace, hline, isDivider, List.splitOn_cons_eq_if_modifyHead, hhead]

theorem words_of_divider (h : ∃ c ∈ name, isDivider c = true) :
    words name = name.splitOnP isDivider := by
  obtain ⟨c, hc, hdivider⟩ := h
  have hcontains : (name.contains '_' || name.contains ' ') = true := by
    simp only [isDivider, Bool.or_eq_true, beq_iff_eq] at hdivider
    rcases hdivider with rfl | rfl <;> simp [hc]
  rw [words, if_pos hcontains, flatMap_splitOn]

theorem words_of_no_divider (h : ∀ c ∈ name, isDivider c = false) :
    words name = if isUpperCase name then [name] else camelWords none name := by
  have hcontains : (name.contains '_' || name.contains ' ') = false := by
    have hspace : ' ' ∉ name := fun hmem => by simpa [isDivider] using h ' ' hmem
    have hline : '_' ∉ name := fun hmem => by simpa [isDivider] using h '_' hmem
    simp [hspace, hline]
  rw [words, hcontains, if_neg Bool.false_ne_true]

/-- A name is spelled by the words between its dividers. -/
theorem spelled_splitOnP (h : name.splitOnP isDivider = init ++ [last]) :
    Spelled isDivider init last name := by
  induction name generalizing init last with
  | nil =>
    rw [List.splitOnP_nil] at h
    cases init with
    | nil =>
      obtain rfl : [] = last := by simpa using h
      rfl
    | cons word init => simp at h
  | cons c name ih =>
    rw [List.splitOnP_cons_eq_if_modifyHead] at h
    split at h
    · rename_i hc
      cases init with
      | nil => exact absurd (List.cons.inj h).2 (List.splitOnP_ne_nil isDivider name)
      | cons word init =>
        obtain ⟨rfl, hrest⟩ : [] = word ∧ name.splitOnP isDivider = init ++ [last] :=
          List.cons.inj h
        exact ⟨[], [c], name, rfl, rfl, Nat.le_refl 1, by simpa using hc, ih hrest⟩
    · obtain ⟨part, others, hsplit⟩ := List.exists_cons_of_ne_nil
        (List.splitOnP_ne_nil isDivider name)
      rw [hsplit, List.modifyHead_cons] at h
      cases init with
      | nil =>
        obtain ⟨rfl, rfl⟩ := List.cons.inj h
        have hrest : Spelled isDivider [] part name := ih hsplit
        exact congrArg (lowerChar c :: ·) hrest
      | cons word init =>
        obtain ⟨rfl, rfl⟩ := List.cons.inj h
        obtain ⟨first, gap, more, rfl, hfirst, hrest⟩ := 
          ih (show name.splitOnP isDivider = (part :: init) ++ [last] from hsplit)
        exact ⟨c :: first, gap, more, rfl, congrArg (lowerChar c :: ·) hfirst, hrest⟩

/-! ### Words between capitals and digits -/

/-- Reading words of a name without dividers keeps all the characters in their order. -/
theorem flatten_camelWords (current name : List Char) :
    (camelWords (some current) name).flatten = current.reverse ++ name := by
  induction name generalizing current with
  | nil => simp [camelWords]
  | cons c name ih =>
    rw [camelWords]
    split
    · rw [List.flatten_cons, ih]
      simp
    · rw [ih]
      simp

/-- None of the words is empty. -/
theorem ne_nil_of_mem_camelWords {current name : List Char} (hcurrent : current ≠ [])
    (h : word ∈ camelWords (some current) name) : word ≠ [] := by
  induction name generalizing current with
  | nil =>
    rw [camelWords, List.mem_singleton] at h
    simpa [h] using hcurrent
  | cons c name ih =>
    rw [camelWords] at h
    split at h
    · rcases List.mem_cons.1 h with rfl | h
      · simpa using hcurrent
      · exact ih (List.cons_ne_nil c []) h
    · exact ih (List.cons_ne_nil c current) h

theorem camelWords_cons (hc : c.isAlphanum = true) (name : List Char) :
    camelWords none (c :: name) = camelWords (some [c]) name := by
  rw [camelWords, if_pos hc]

/-! ### Words of a simple name -/

/-- **A simple name that ends with a letter or a digit is spelled by its words.** They are made of
letters and digits, and the last one is not empty. -/
theorem exists_words (h : ∀ c ∈ name, isSimpleChar c = true)
    (hlast : ∃ c ∈ name.getLast?, c.isAlphanum = true) :
    ∃ init last, words name = init ++ [last] ∧ last ≠ [] ∧
      (∀ word ∈ init ++ [last], ∀ c ∈ word, c.isAlphanum = true) ∧
      Spelled isDivider init last name := by
  obtain ⟨c, hc, halnum⟩ := hlast
  obtain ⟨before, rfl⟩ := List.getLast?_eq_some_iff.1 hc
  have hletter {d : Char} (hd : d ∈ before ++ [c]) (hdivider : isDivider d = false) :
      d.isAlphanum = true := by
    simpa [isSimpleChar, hdivider] using h d hd
  by_cases hdivided : ∃ d ∈ before ++ [c], isDivider d = true
  · -- the last character stands in the last word
    obtain ⟨init, part, hbefore⟩ : ∃ init part, before.splitOnP isDivider = init ++ [part] := by
      rcases List.eq_nil_or_concat (before.splitOnP isDivider) with hnil | ⟨init, part, hsplit⟩
      · exact absurd hnil (List.splitOnP_ne_nil isDivider before)
      · exact ⟨init, part, by simpa using hsplit⟩
    have hsingle : [c].splitOnP isDivider = [[c]] := by
      simp [List.splitOnP_cons_eq_if_modifyHead, isDivider_eq_false halnum]
    have hsplit : (before ++ [c]).splitOnP isDivider = init ++ [part ++ [c]] :=
      splitOnP_append hbefore hsingle
    refine ⟨init, part ++ [c], ?_, by simp, fun word hword d hd => ?_, spelled_splitOnP hsplit⟩
    · rw [words_of_divider hdivided, hsplit]
    · obtain ⟨hmem, hdivider⟩ := forall_mem_of_mem_splitOnP (hsplit ▸ hword) d hd
      exact hletter hmem hdivider
  · have hnone : ∀ d ∈ before ++ [c], isDivider d = false :=
      fun d hd => Bool.eq_false_iff.2 fun hdivider => hdivided ⟨d, hd, hdivider⟩
    have hall : ∀ d ∈ before ++ [c], d.isAlphanum = true := fun d hd => hletter hd (hnone d hd)
    rw [words_of_no_divider hnone]
    split
    · exact ⟨[], before ++ [c], rfl, by simp, by simpa using hall, rfl⟩
    · obtain ⟨d, rest, hname⟩ := List.exists_cons_of_ne_nil (l := before ++ [c]) (by simp)
      rw [hname] at hall ⊢
      have hd : d.isAlphanum = true := hall d List.mem_cons_self
      have hflatten : (camelWords (some [d]) rest).flatten = d :: rest := flatten_camelWords [d] rest
      obtain ⟨init, last, hwords⟩ : ∃ init last, camelWords (some [d]) rest = init ++ [last] := by
        rcases List.eq_nil_or_concat (camelWords (some [d]) rest) with hnil | ⟨init, last, hsplit⟩
        · rw [hnil] at hflatten
          cases hflatten
        · exact ⟨init, last, by simpa using hsplit⟩
      rw [hwords] at hflatten
      refine ⟨init, last, by rw [camelWords_cons hd, hwords], ?_, fun word hword e he => ?_, ?_⟩
      · have hmem : last ∈ camelWords (some [d]) rest := by simp [hwords]
        exact ne_nil_of_mem_camelWords (List.cons_ne_nil d []) hmem
      · exact hall e (hflatten ▸ List.mem_flatten.2 ⟨word, hword, he⟩)
      · rw [← hflatten]
        exact Spelled.flatten init last

end KeywordCatalog.Keyword
