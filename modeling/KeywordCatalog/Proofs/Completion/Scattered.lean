import KeywordCatalog.Proofs.Completion.Keywords
import KeywordCatalog.Proofs.Keyword.Embedded
import KeywordCatalog.Proofs.Pattern.Line
import Mathlib.Data.List.DropRight

/-!
# Typed characters in a line

The pattern for what is typed has a gap before each character, and no gap goes past the end of a line.
So the pattern is found in a text exactly if the typed characters stand in their order in one of its
lines, upper and lower case being the same (`occursIn_keywordPattern`).
-/

namespace KeywordCatalog.Text

variable {chars text part : List Char}

/-- A part in which no line ends is in one of the lines. -/
theorem exists_mem_lines_infix (hpart : '\n' ∉ part) (skipped rest : List Char) :
    ∃ line ∈ lines (skipped ++ part ++ rest), part <:+: line := by
  let inLine : Char → Bool := (· != '\n')
  have htext : skipped ++ part ++ rest = skipped.rdropWhile inLine ++
      (skipped.rtakeWhile inLine ++ part ++ rest.takeWhile inLine) ++ rest.dropWhile inLine := by
    conv_lhs => rw [← skipped.rdropWhile_append_rtakeWhile (p := inLine),
      ← rest.takeWhile_append_dropWhile (p := inLine)]
    simp only [List.append_assoc]
  refine ⟨_, mem_lines_iff.2 ⟨_, _, htext, ?_, ?_, ?_⟩, ⟨_, _, rfl⟩⟩
  · intro hbreak
    rcases List.mem_append.1 hbreak with hbreak | hbreak
    · rcases List.mem_append.1 hbreak with hbreak | hbreak
      · exact absurd (List.mem_rtakeWhile_imp hbreak) (by decide)
      · exact hpart hbreak
    · exact absurd (List.mem_takeWhile_imp hbreak) (by decide)
  · by_cases hnil : skipped.rdropWhile inLine = []
    · exact Or.inl hnil
    · have hlast := List.rdropWhile_last_not inLine skipped hnil
      rw [List.getLast?_eq_some_getLast hnil, Option.some.injEq]
      exact Or.inr (by simpa [inLine] using hlast)
  · have hhead := List.head?_dropWhile_not inLine rest
    cases hrest : rest.dropWhile inLine with
    | nil => exact Or.inl rfl
    | cons c rest' =>
      rw [hrest] at hhead
      exact Or.inr (by simpa [inLine] using hhead)

theorem Spread.unbroken (h : Spread chars text) (hchars : ∀ c ∈ chars, alike c '\n' = false) :
    '\n' ∉ text := by
  induction chars generalizing text with
  | nil =>
    obtain rfl : text = [] := h
    exact List.not_mem_nil
  | cons c chars ih =>
    obtain ⟨gap, d, rest, rfl, hgap, hd, hrest⟩ := h
    obtain ⟨hc, hchars⟩ := List.forall_mem_cons.1 hchars
    have hne : '\n' ≠ d := by
      rintro rfl
      rw [hc] at hd
      cases hd
    simp [hgap, hne, ih hrest hchars]

/-- Letters are spread over a part of a text if they are scattered over one of its lines. -/
theorem hasSpread_iff_exists_line (hchars : ∀ c ∈ chars, alike c '\n' = false) :
    hasSpread chars text = true ↔ ∃ line ∈ lines text, IsScattered chars line := by
  constructor
  · intro h
    obtain ⟨skipped, taken, rest, rfl, hspread⟩ := hasSpread_iff.1 h
    have hunbroken := hspread.unbroken hchars
    obtain ⟨line, hline, hinfix⟩ := exists_mem_lines_infix hunbroken skipped rest
    obtain ⟨part, hpart, hpairs⟩ := (startsSpread_iff_isScattered hunbroken).1
      (startsSpread_iff.2 ⟨taken, [], (List.append_nil _).symm, hspread⟩)
    exact ⟨line, hline, part, hpart.trans hinfix.sublist, hpairs⟩
  · rintro ⟨line, hline, hscattered⟩
    obtain ⟨before, after, rfl, hwhole⟩ := mem_lines_iff.1 hline
    obtain ⟨taken, rest, rfl, hspread⟩ := startsSpread_iff.1
      ((startsSpread_iff_isScattered hwhole.unbroken).2 hscattered)
    exact hasSpread_iff.2 ⟨before, taken, rest ++ after, by simp, hspread⟩

end KeywordCatalog.Text

namespace KeywordCatalog.Completion

open Text

theorem isSimpleChar_spec {c : Char} (hc : Keyword.isSimpleChar c = true) :
    Pattern.isLiteral c = true ∧ alike c '\n' = false :=
  Keyword.forall_ascii (P := fun c => Keyword.isSimpleChar c = true →
    Pattern.isLiteral c = true ∧ alike c '\n' = false) (by decide)
    (Keyword.toNat_lt_of_isSimpleChar hc) hc

/-- **The pattern for what is typed is found in the texts that have a line over which the typed
characters are scattered**, upper and lower case being the same. -/
theorem occursIn_keywordPattern {typed : String}
    (htyped : ∀ c ∈ typed.toList, Keyword.isSimpleChar c = true) :
    ∃ p, Pattern.compile (keywordPattern typed) = .ok p ∧ ∀ text : String,
      p.occursIn text = .ok (decide (∃ line ∈ lines text.toList, IsScattered typed.toList line)) := by
  obtain ⟨p, hp, hfinds⟩ :=
    exists_compile_keywordPattern fun c hc => (isSimpleChar_spec (htyped c hc)).1
  refine ⟨p, hp, fun text => ?_⟩
  have hspread : hasSpread typed.toList text.toList = true ↔ _ :=
    hasSpread_iff_exists_line fun c hc => (isSimpleChar_spec (htyped c hc)).2
  rw [hfinds text, suits, Bool.eq_iff_iff.2 (hspread.trans (decide_eq_true_iff).symm)]

/-- Characters that are typed without regard to case are found within a line, and not over two of
them. -/
theorem occursIn_keywordPattern_page :
    (∀ c ∈ "oN p_1".toList, Keyword.isSimpleChar c = true) ∧
    ∃ p, Pattern.compile (keywordPattern "oN p_1") = .ok p ∧
      p.occursIn "Go\nOpen Page_No1" = .ok true ∧ p.occursIn "Open\n Page_No1" = .ok false := by
  have htyped : ∀ c ∈ "oN p_1".toList, Keyword.isSimpleChar c = true :=
    List.all_eq_true.1 rfl
  obtain ⟨p, hp, hfound⟩ := occursIn_keywordPattern htyped
  refine ⟨htyped, p, hp, (hfound _).trans (congrArg _ ?_), (hfound _).trans (congrArg _ ?_)⟩
  · rfl
  · rfl

end KeywordCatalog.Completion
