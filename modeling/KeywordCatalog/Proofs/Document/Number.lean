import Mathlib.Algebra.Group.Nat.Defs
import Mathlib.Data.List.Induction
import Mathlib.Data.List.TakeWhile
import KeywordCatalog.Document.Reader
import KeywordCatalog.Document.Writer

/-!
# Written numbers

A number is written by its digits, with a fraction and an exponent if it has them. The readers of
these parts take off exactly the part that is there if the text after it does not go on with it
(`EndsNumber`), and what they take off is such a part.
-/

namespace KeywordCatalog.Document

open Text

/-- Digits that do not start with a zero, or a zero. -/
def IsWholePart (digits : List Char) : Prop :=
  digits ≠ [] ∧ (∀ c ∈ digits, c.isDigit = true) ∧ (digits.head? = some '0' → digits = ['0'])

/-- Digits after a point, or nothing. -/
def IsFraction (part : List Char) : Prop :=
  part = [] ∨ ∃ digits, part = '.' :: digits ∧ digits ≠ [] ∧ ∀ c ∈ digits, c.isDigit = true

/-- Digits after a letter and a sign, or nothing. -/
def IsExponent (part : List Char) : Prop :=
  part = [] ∨ ∃ e sign digits, part = e :: (sign ++ digits) ∧ (e = 'e' ∨ e = 'E') ∧
    (sign = [] ∨ sign = ['+'] ∨ sign = ['-']) ∧ digits ≠ [] ∧ ∀ c ∈ digits, c.isDigit = true

/-- A text that does not start with a digit. -/
def EndsDigits (rest : List Char) : Prop := ∀ c ∈ rest.head?, c.isDigit = false

/-- A text that does not go on with a number. -/
def EndsNumber (rest : List Char) : Prop :=
  ∀ c ∈ rest.head?, c.isDigit = false ∧ c ≠ '.' ∧ c ≠ 'e' ∧ c ≠ 'E'

variable {digits part rest text whole : List Char}

theorem EndsNumber.endsDigits (h : EndsNumber rest) : EndsDigits rest := fun c hc => (h c hc).1

theorem takeWhile_digits (hdigits : ∀ c ∈ digits, c.isDigit = true) (hrest : EndsDigits rest) :
    (digits ++ rest).takeWhile Char.isDigit = digits ∧
      (digits ++ rest).dropWhile Char.isDigit = rest := by
  rw [List.takeWhile_append_of_pos hdigits, List.dropWhile_append_of_pos hdigits]
  cases rest with
  | nil => simp
  | cons c rest =>
    have hc : c.isDigit = false := hrest c rfl
    simp [hc]

theorem readWhole_append (hwhole : IsWholePart whole) (hrest : EndsDigits rest) :
    readWhole (whole ++ rest) = some (whole, rest) := by
  obtain ⟨hne, hdigits, hzero⟩ := hwhole
  cases whole with
  | nil => exact absurd rfl hne
  | cons c whole =>
    have hc : c.isDigit = true := hdigits c List.mem_cons_self
    by_cases h : c = '0'
    · subst h
      cases hzero rfl
      rfl
    · have htail := takeWhile_digits (fun d hd => hdigits d (List.mem_cons_of_mem _ hd)) hrest
      simp only [List.cons_append, readWhole, beq_iff_eq, h, if_false, hc, if_true, htail.1, htail.2]

theorem readWhole_eq_some (h : readWhole text = some (whole, rest)) :
    text = whole ++ rest ∧ IsWholePart whole := by
  cases text with
  | nil => cases h
  | cons c text =>
    simp only [readWhole, beq_iff_eq] at h
    split at h
    · rename_i hc
      cases h
      exact ⟨by rw [hc]; rfl, by simp, by simp, fun _ => rfl⟩
    · rename_i hzero
      split at h
      · rename_i hc
        cases h
        refine ⟨by simp, by simp, ?_, fun hhead => ?_⟩
        · intro d hd
          rcases List.mem_cons.1 hd with rfl | hd
          · exact hc
          · exact List.mem_takeWhile_imp hd
        · exact absurd (Option.some.inj hhead) hzero
      · cases h

theorem readFraction_append (hpart : IsFraction part) (hrest : EndsDigits rest)
    (hpoint : rest.head? ≠ some '.') : readFraction (part ++ rest) = (part, rest) := by
  rcases hpart with rfl | ⟨digits, rfl, hne, hdigits⟩
  · cases rest with
    | nil => rfl
    | cons c rest =>
      have hc : c ≠ '.' := fun e => hpoint (congrArg some e)
      simp [readFraction, hc]
  · have hspan := takeWhile_digits hdigits hrest
    simp [readFraction, hspan.1, hspan.2, hne]

theorem isFraction_of_readFraction (h : readFraction text = (part, rest)) :
    text = part ++ rest ∧ IsFraction part := by
  unfold readFraction at h
  split at h
  · rename_i tail
    dsimp only at h
    split at h
    · cases h
      exact ⟨rfl, Or.inl rfl⟩
    · rename_i hne
      cases h
      refine ⟨by simp, Or.inr ⟨_, rfl, by simpa using hne, fun c hc => ?_⟩⟩
      exact List.mem_takeWhile_imp hc
  · cases h
    exact ⟨rfl, Or.inl rfl⟩

theorem readExponent_append (hpart : IsExponent part) (hrest : EndsNumber rest) :
    readExponent (part ++ rest) = (part, rest) := by
  rcases hpart with rfl | ⟨e, sign, digits, rfl, he, hsign, hne, hdigits⟩
  · cases rest with
    | nil => rfl
    | cons c rest =>
      obtain ⟨-, -, hc, hc'⟩ := hrest c rfl
      simp [readExponent, hc, hc']
  · have hspan := takeWhile_digits hdigits hrest.endsDigits
    have hmark : (e == 'e' || e == 'E') = true := by
      rcases he with rfl | rfl <;> rfl
    obtain ⟨d, digits', rfl⟩ := List.exists_cons_of_ne_nil hne
    have hd : d.isDigit = true := hdigits d List.mem_cons_self
    have hplus : d ≠ '+' := by
      rintro rfl
      revert hd
      decide
    have hminus : d ≠ '-' := by
      rintro rfl
      revert hd
      decide
    rcases hsign with rfl | rfl | rfl <;>
      simp_all [readExponent]

theorem isExponent_of_readExponent (h : readExponent text = (part, rest)) :
    text = part ++ rest ∧ IsExponent part := by
  unfold readExponent at h
  split at h
  · rename_i e tail
    split at h
    · rename_i he
      have hmark : e = 'e' ∨ e = 'E' := by simpa using he
      have hsplit : ∃ sign after, tail = sign ++ after ∧
          (sign = [] ∨ sign = ['+'] ∨ sign = ['-']) ∧
          (if (after.takeWhile Char.isDigit).isEmpty then ([], e :: tail)
            else (e :: sign ++ after.takeWhile Char.isDigit, after.dropWhile Char.isDigit)) =
              (part, rest) := by
        dsimp only at h
        split at h
        · exact ⟨['+'], _, rfl, by simp, h⟩
        · exact ⟨['-'], _, rfl, by simp, h⟩
        · exact ⟨[], _, rfl, by simp, h⟩
      obtain ⟨sign, after, rfl, hsign, h⟩ := hsplit
      split at h
      · cases h
        exact ⟨rfl, Or.inl rfl⟩
      · rename_i hne
        cases h
        refine ⟨by simp, Or.inr ⟨e, sign, _, rfl, hmark, hsign, by simpa using hne, fun c hc => ?_⟩⟩
        exact List.mem_takeWhile_imp hc
    · cases h
      exact ⟨rfl, Or.inl rfl⟩
  · cases h
    exact ⟨rfl, Or.inl rfl⟩

/-- The parts of a number without its sign. -/
structure Numeral where
  whole : List Char
  fraction : List Char
  exponent : List Char
  isWholePart : IsWholePart whole
  isFraction : IsFraction fraction
  isExponent : IsExponent exponent

namespace Numeral

/-- The number as it is written. -/
def written (n : Numeral) : List Char := n.whole ++ n.fraction ++ n.exponent

/-- Whether a number has neither a fraction nor an exponent. -/
def IsInteger (n : Numeral) : Prop := n.fraction = [] ∧ n.exponent = []

instance (n : Numeral) : Decidable n.IsInteger := inferInstanceAs (Decidable (_ ∧ _))

/-- The document that a number writes. -/
def value (n : Numeral) (negative : Bool) : Value :=
  if n.IsInteger then .int (if negative then -(decimal n.whole : Int) else decimal n.whole)
  else .real (String.ofList (if negative then '-' :: n.written else n.written))

theorem value_of_isInteger {n : Numeral} (h : n.IsInteger) (negative : Bool) :
    n.value negative = .int (if negative then -(decimal n.whole : Int) else decimal n.whole) :=
  if_pos h

theorem value_of_not_isInteger {n : Numeral} (h : ¬n.IsInteger) (negative : Bool) :
    n.value negative = .real (String.ofList (if negative then '-' :: n.written else n.written)) :=
  if_neg h

theorem isEmpty_and_isEmpty (n : Numeral) :
    (n.fraction.isEmpty && n.exponent.isEmpty) = true ↔ n.IsInteger := by
  simp [IsInteger]

end Numeral

theorem head?_exponent_append (hpart : IsExponent part) (hrest : EndsNumber rest) :
    EndsDigits (part ++ rest) ∧ (part ++ rest).head? ≠ some '.' := by
  rcases hpart with rfl | ⟨e, sign, digits, rfl, he, -⟩
  · exact ⟨hrest.endsDigits, fun h => (hrest '.' h).2.1 rfl⟩
  · refine ⟨fun c hc => ?_, fun h => ?_⟩
    · cases hc
      rcases he with rfl | rfl <;> rfl
    · cases h
      simp at he

theorem endsDigits_fraction_append (hpart : IsFraction part) (hrest : EndsDigits rest) :
    EndsDigits (part ++ rest) := by
  rcases hpart with rfl | ⟨digits, rfl, -⟩
  · exact hrest
  · intro c hc
    cases hc
    rfl

/-- A written number reads back as the document that it writes. -/
theorem readUnsigned_written (n : Numeral) (negative : Bool) (hrest : EndsNumber rest)
    (hlimit : n.IsInteger → n.whole.length ≤ digitLimit) :
    readUnsigned negative (n.written ++ rest) = .ok (n.value negative, rest) := by
  obtain ⟨hexponent, hpoint⟩ := head?_exponent_append n.isExponent hrest
  have hwhole : readWhole (n.written ++ rest) =
      some (n.whole, n.fraction ++ (n.exponent ++ rest)) := by
    rw [Numeral.written, List.append_assoc, List.append_assoc]
    exact readWhole_append n.isWholePart (endsDigits_fraction_append n.isFraction hexponent)
  have hfraction := readFraction_append n.isFraction hexponent hpoint
  have hend := readExponent_append n.isExponent hrest
  simp only [readUnsigned, hwhole, hfraction, hend]
  by_cases hinteger : n.IsInteger
  · have hshort : ¬digitLimit < n.whole.length := Nat.not_lt.2 (hlimit hinteger)
    rw [if_pos (n.isEmpty_and_isEmpty.2 hinteger), if_neg hshort, Numeral.value_of_isInteger hinteger]
  · rw [if_neg (mt n.isEmpty_and_isEmpty.1 hinteger), Numeral.value_of_not_isInteger hinteger]
    rfl

/-- What is read as a number without its sign is a written number. -/
theorem readUnsigned_eq_ok {negative : Bool} {v : Value}
    (h : readUnsigned negative text = .ok (v, rest)) :
    ∃ n : Numeral, text = n.written ++ rest ∧ v = n.value negative ∧
      (n.IsInteger → n.whole.length ≤ digitLimit) := by
  unfold readUnsigned at h
  split at h
  · cases h
  · rename_i whole tail hwhole
    obtain ⟨rfl, hw⟩ := readWhole_eq_some hwhole
    rcases hfraction : readFraction tail with ⟨fraction, tail₁⟩
    rcases hexponent : readExponent tail₁ with ⟨exponent, tail₂⟩
    obtain ⟨rfl, hf⟩ := isFraction_of_readFraction hfraction
    obtain ⟨rfl, he⟩ := isExponent_of_readExponent hexponent
    simp only [hfraction, hexponent] at h
    obtain ⟨n, rfl, rfl, rfl⟩ : ∃ n : Numeral, n.whole = whole ∧ n.fraction = fraction ∧
        n.exponent = exponent := ⟨⟨whole, fraction, exponent, hw, hf, he⟩, rfl, rfl, rfl⟩
    by_cases hinteger : n.IsInteger
    · rw [if_pos (n.isEmpty_and_isEmpty.2 hinteger)] at h
      split at h
      · cases h
      · rename_i hshort
        cases h
        refine ⟨n, by simp [Numeral.written], ?_, fun _ => Nat.not_lt.1 hshort⟩
        rw [Numeral.value_of_isInteger hinteger]
    · rw [if_neg (mt n.isEmpty_and_isEmpty.1 hinteger)] at h
      cases h
      refine ⟨n, by simp [Numeral.written], ?_, fun h => absurd h hinteger⟩
      rw [Numeral.value_of_not_isInteger hinteger]
      rfl

/-! ### Integers -/

theorem decimal_eq_ofDigitChars (digits : List Char) :
    decimal digits = Nat.ofDigitChars 10 digits 0 := by
  simp only [decimal, Nat.ofDigitChars_eq_foldl, Nat.mul_comm]

theorem decimal_toDigits (n : Nat) : decimal (Nat.toDigits 10 n) = n := by
  rw [decimal_eq_ofDigitChars, Nat.ofDigitChars_ten_toDigits]

theorem head?_toDigits_ne_zero {n : Nat} (h : 0 < n) : (Nat.toDigits 10 n).head? ≠ some '0' := by
  induction n using Nat.strong_induction_on with
  | h n ih =>
    rw [Nat.toDigits_eq_if (by decide)]
    split
    · simp [Nat.pos_iff_ne_zero.1 h]
    · have hhead := ih (n / 10) (by omega) (by omega)
      obtain ⟨c, digits, hdigits⟩ :=
        List.exists_cons_of_ne_nil (Nat.toDigits_ne_nil (n := n / 10) (b := 10))
      rw [hdigits] at hhead ⊢
      exact hhead

theorem isWholePart_toDigits (n : Nat) : IsWholePart (Nat.toDigits 10 n) := by
  refine ⟨Nat.toDigits_ne_nil, fun c hc => Nat.isDigit_of_mem_toDigits (by decide) (by decide) hc,
    fun hzero => ?_⟩
  rcases Nat.eq_zero_or_pos n with rfl | hpos
  · exact Nat.toDigits_zero 10
  · exact absurd hzero (head?_toDigits_ne_zero hpos)

theorem decimal_lt (hdigits : ∀ c ∈ digits, c.isDigit = true) :
    decimal digits < 10 ^ digits.length := by
  induction digits using List.reverseRecOn with
  | nil => simp [decimal]
  | append_singleton digits d ih =>
    have hd : d.toNat - '0'.toNat < 10 := by
      have hdigit := hdigits d (by simp)
      simp only [Char.isDigit, Bool.and_eq_true, decide_eq_true_eq] at hdigit
      have hle : d.toNat ≤ '9'.toNat := hdigit.2
      have h9 : '9'.toNat = 57 := rfl
      have h0 : '0'.toNat = 48 := rfl
      omega
    have hdecimal : decimal (digits ++ [d]) = decimal digits * 10 + (d.toNat - '0'.toNat) := by
      simp [decimal]
    have hlt := ih fun c hc => hdigits c (List.mem_append_left _ hc)
    rw [hdecimal, List.length_append, List.length_singleton, Nat.pow_succ]
    omega

/-- The number that digits write has no more digits than these. -/
theorem length_toDigits_decimal (hwhole : IsWholePart whole) :
    (Nat.toDigits 10 (decimal whole)).length ≤ whole.length := by
  obtain ⟨hne, hdigits, -⟩ := hwhole
  exact (Nat.length_toDigits_le_iff (by decide) (List.length_pos_iff.2 hne)).2 (decimal_lt hdigits)

/-- A natural number in its parts. -/
def Numeral.ofNat (n : Nat) : Numeral :=
  ⟨Nat.toDigits 10 n, [], [], isWholePart_toDigits n, Or.inl rfl, Or.inl rfl⟩

/-! ### Numbers among other documents -/

/-- A number with a fraction or an exponent, or one of the words that stand for numbers. -/
def IsReal (literal : List Char) : Prop :=
  (∃ n : Numeral, ¬n.IsInteger ∧ (literal = n.written ∨ literal = '-' :: n.written)) ∨
    literal = "NaN".toList ∨ literal = "Infinity".toList ∨ literal = "-Infinity".toList

theorem Numeral.exists_cons (n : Numeral) : ∃ d tail, n.written = d :: tail ∧ d.isDigit = true := by
  obtain ⟨hne, hdigits, -⟩ := n.isWholePart
  obtain ⟨d, tail, hwhole⟩ := List.exists_cons_of_ne_nil hne
  exact ⟨d, tail ++ n.fraction ++ n.exponent, by simp [written, hwhole],
    hdigits d (by simp [hwhole])⟩

theorem ne_of_isDigit {d : Char} (hd : d.isDigit = true) (c : Char) (hc : c.isDigit = false) :
    d ≠ c := by
  rintro rfl
  rw [hd] at hc
  cases hc

theorem readWord_eq (text : List Char) :
    readWord text =
      (words.map fun w => (w.1.toList, w.2)).findSome? fun w =>
        if w.1.isPrefixOf text then some (w.2, text.drop w.1.length) else none := by
  rw [List.findSome?_map]
  rfl

theorem wordChars_eq : (words.map fun w => (w.1.toList, w.2)) =
    [(['n', 'u', 'l', 'l'], .null), (['t', 'r', 'u', 'e'], .bool true),
      (['f', 'a', 'l', 's', 'e'], .bool false), (['N', 'a', 'N'], .real "NaN"),
      (['I', 'n', 'f', 'i', 'n', 'i', 't', 'y'], .real "Infinity"),
      (['-', 'I', 'n', 'f', 'i', 'n', 'i', 't', 'y'], .real "-Infinity")] := by
  decide +kernel

theorem readWord_digit {d : Char} (hd : d.isDigit = true) (tail : List Char) :
    readWord (d :: tail) = none := by
  have hne (c : Char) (hc : c.isDigit = false) : (c == d) = false := by
    simpa using (ne_of_isDigit hd c hc).symm
  rw [readWord_eq, wordChars_eq]
  simp only [List.findSome?_cons, List.findSome?_nil, List.isPrefixOf, hne 'n' rfl, hne 't' rfl,
    hne 'f' rfl, hne 'N' rfl, hne 'I' rfl, hne '-' rfl, Bool.false_and, Bool.false_eq_true, if_false]

theorem readWord_minus {d : Char} (hd : d.isDigit = true) (tail : List Char) :
    readWord ('-' :: d :: tail) = none := by
  rw [readWord_eq, wordChars_eq]
  simp [(ne_of_isDigit hd 'I' rfl).symm]

/-- The words that stand for documents read back as them. -/
theorem readWord_word {word : String} {v : Value} (h : (word, v) ∈ words) (rest : List Char) :
    readWord (word.toList ++ rest) = some (v, rest) := by
  have hchars : (word.toList, v) ∈ words.map fun w => (w.1.toList, w.2) :=
    List.mem_map_of_mem (f := fun w : String × Value => (w.1.toList, w.2)) h
  rw [readWord_eq]
  rw [wordChars_eq] at hchars ⊢
  simp only [List.mem_cons, Prod.mk.injEq, List.not_mem_nil, or_false] at hchars
  rcases hchars with ⟨hw, rfl⟩ | ⟨hw, rfl⟩ | ⟨hw, rfl⟩ | ⟨hw, rfl⟩ | ⟨hw, rfl⟩ | ⟨hw, rfl⟩ <;>
    rw [hw] <;> rfl

theorem readPlain_word {word : String} {v : Value} (h : (word, v) ∈ words) (fuel : Nat)
    (rest : List Char) : readPlain fuel (word.toList ++ rest) = .ok (v, rest) := by
  have hread := readWord_word h rest
  unfold readPlain
  split
  · rename_i heq
    rw [heq] at hread
    simp [readWord, words] at hread
  · rw [hread]

theorem readPlain_of_readWord_none {c : Char} {fuel : Nat} (hquote : c ≠ '"')
    (hword : readWord (c :: text) = none) :
    readPlain fuel (c :: text) =
      if c = '-' then readUnsigned true text else readUnsigned false (c :: text) := by
  unfold readPlain
  split
  · rename_i heq
    exact absurd (List.cons.inj heq).1 hquote
  · rw [hword]
    dsimp only
    split
    · rename_i heq
      cases heq
      rfl
    · rename_i hminus
      rw [if_neg]
      rintro rfl
      exact hminus text rfl

/-- A number with its sign reads back as the document that it writes. -/
theorem readPlain_written (n : Numeral) (negative : Bool) (fuel : Nat) (hrest : EndsNumber rest)
    (hlimit : n.IsInteger → n.whole.length ≤ digitLimit) :
    readPlain fuel ((if negative then '-' :: n.written else n.written) ++ rest) =
      .ok (n.value negative, rest) := by
  have hread := readUnsigned_written n negative hrest hlimit
  obtain ⟨d, tail, hwritten, hd⟩ := n.exists_cons
  rw [hwritten] at hread ⊢
  cases negative with
  | true =>
    simp only [if_true, List.cons_append] at hread ⊢
    rw [readPlain_of_readWord_none (by decide) (readWord_minus hd _), if_pos rfl]
    exact hread
  | false =>
    simp only [Bool.false_eq_true, if_false, List.cons_append] at hread ⊢
    have hminus : d ≠ '-' := ne_of_isDigit hd _ rfl
    rw [readPlain_of_readWord_none (ne_of_isDigit hd _ rfl) (readWord_digit hd _), if_neg hminus]
    exact hread

theorem readPlain_writeInt (i : Int) (fuel : Nat) (hrest : EndsNumber rest)
    (hlimit : (Nat.toDigits 10 i.natAbs).length ≤ digitLimit) :
    readPlain fuel (writeInt i ++ rest) = .ok (.int i, rest) := by
  have hread (negative : Bool) :=
    readPlain_written (Numeral.ofNat i.natAbs) negative fuel hrest fun _ => hlimit
  have hvalue (negative : Bool) : (Numeral.ofNat i.natAbs).value negative =
      .int (if negative then -(i.natAbs : Int) else i.natAbs) := by
    rw [Numeral.value_of_isInteger ⟨rfl, rfl⟩]
    simp only [Numeral.ofNat, decimal_toDigits]
  have hwritten : (Numeral.ofNat i.natAbs).written = Nat.toDigits 10 i.natAbs := by
    simp [Numeral.written, Numeral.ofNat]
  simp only [hvalue, hwritten] at hread
  cases i with
  | ofNat n => exact hread false
  | negSucc n => exact hread true

theorem readPlain_real {literal : String} (h : IsReal literal.toList) (fuel : Nat)
    (hrest : EndsNumber rest) :
    readPlain fuel (literal.toList ++ rest) = .ok (.real literal, rest) := by
  have hliteral : String.ofList literal.toList = literal := String.ofList_toList
  rcases h with ⟨n, hreal, h | h⟩ | h | h | h
  · have hread := readPlain_written n false fuel hrest fun hinteger => absurd hinteger hreal
    rw [Numeral.value_of_not_isInteger hreal] at hread
    simp only [Bool.false_eq_true, if_false, ← h, hliteral] at hread
    exact hread
  · have hread := readPlain_written n true fuel hrest fun hinteger => absurd hinteger hreal
    rw [Numeral.value_of_not_isInteger hreal] at hread
    simp only [if_true, ← h, hliteral] at hread
    exact hread
  all_goals
    rw [String.toList_inj.1 h]
    exact readPlain_word (by simp [words]) fuel rest

end KeywordCatalog.Document
