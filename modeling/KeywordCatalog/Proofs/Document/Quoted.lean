import KeywordCatalog.Document.Reader
import KeywordCatalog.Document.Writer

/-!
# Written texts

Every text reads back as itself from between its quotes. A character is written as it is, by a short
escape or by its code units. The only case in which a reader looks further than the character is a
first half of a pair, and what is written after it never starts with the second half
(`KeepsHalf`).
-/

namespace KeywordCatalog.Document

open Text

variable {n : Nat} {c : Char} {rest : List Char}

/-! ### Code units -/

theorem readUnit_unitDigits (hn : n < 0x10000) (rest : List Char) :
    readUnit (unitDigits n ++ rest) = some (n, rest) := by
  have h (k : Nat) : hexDigit? (hexChar (k % 16)) = some (k % 16) :=
    hexDigit?_hexChar _ (Nat.mod_lt _ (by decide))
  simp only [unitDigits, List.cons_append, List.nil_append, readUnit, h]
  congr 2
  omega

theorem toNat_valid (c : Char) : c.toNat < 0xD800 ∨ 0xDFFF < c.toNat ∧ c.toNat < 0x110000 := c.valid

theorem isHalf_iff : isHalf n = true ↔ 0xD800 ≤ n ∧ n < 0xE000 := by
  simp only [isHalf, isHighHalf, isLowHalf, Bool.or_eq_true, Bool.and_eq_true, decide_eq_true_eq]
  omega

theorem not_isHalf_toNat (c : Char) : isHalf c.toNat = false := by
  rw [Bool.eq_false_iff, ne_eq, isHalf_iff]
  have hvalid := toNat_valid c
  omega

/-- A character is the one that its code point is kept as. -/
theorem charOf_codeOf (c : Char) : charOf (codeOf c) = c := by
  unfold codeOf charOf
  split
  · rename_i hhalf
    have hbounds := isHalf_iff.1 hhalf
    rw [show halfShift + (c.toNat - halfShift) = c.toNat by omega, Char.ofNat_toNat]
  · rw [not_isHalf_toNat, if_neg Bool.false_ne_true, Char.ofNat_toNat]

theorem codeOf_eq_toNat (h : 0x10000 ≤ codeOf c) : codeOf c = c.toNat := by
  unfold codeOf at h ⊢
  split at h
  · rename_i hhalf
    have hbounds := isHalf_iff.1 hhalf
    omega
  · rename_i hhalf
    rw [if_neg hhalf]

/-- A text in front of which a first half stays alone. -/
def KeepsHalf (rest : List Char) : Prop :=
  ∀ tail, rest = '\\' :: 'u' :: tail →
    ∃ low after, readUnit tail = some (low, after) ∧ isLowHalf low = false

theorem readQuotedChar_writeUnit (hn : n < 0x10000)
    (hkeeps : isHighHalf n = true → KeepsHalf rest) :
    readQuotedChar (writeUnit n ++ rest) = some (charOf n, rest) := by
  have hunit := readUnit_unitDigits hn rest
  simp only [writeUnit, List.cons_append, readQuotedChar, readCoded, hunit]
  split
  · rename_i hhigh
    split
    · rename_i tail
      obtain ⟨low, after, hlow, hnot⟩ := hkeeps hhigh tail rfl
      rw [hlow]
      simp [hnot]
    · rfl
  · rfl

theorem readQuotedChar_pair {high low : Nat} (hhigh : isHighHalf high = true)
    (hlow : isLowHalf low = true) (rest : List Char) :
    readQuotedChar (writeUnit high ++ writeUnit low ++ rest) = some (pairChar high low, rest) := by
  have hbounds : high < 0x10000 ∧ low < 0x10000 := by
    simp only [isHighHalf, isLowHalf, Bool.and_eq_true, decide_eq_true_eq] at hhigh hlow
    omega
  have hfirst := readUnit_unitDigits hbounds.1 ('\\' :: 'u' :: (unitDigits low ++ rest))
  have hsecond := readUnit_unitDigits hbounds.2 rest
  simp only [writeUnit, List.cons_append, List.append_assoc, readQuotedChar, readCoded, hfirst, hhigh,
    if_true, hsecond, hlow]

theorem readQuotedChar_writePair (h : 0x10000 ≤ c.toNat) (rest : List Char) :
    readQuotedChar (writePair c.toNat ++ rest) = some (c, rest) := by
  have hvalid := toNat_valid c
  obtain ⟨k, hk⟩ := Nat.exists_eq_add_of_le h
  have hhigh : isHighHalf (0xD800 + k / 0x400) = true := by
    simp only [isHighHalf, Bool.and_eq_true, decide_eq_true_eq]
    omega
  have hlow : isLowHalf (0xDC00 + k % 0x400) = true := by
    simp only [isLowHalf, Bool.and_eq_true, decide_eq_true_eq]
    omega
  have hpair : pairChar (0xD800 + k / 0x400) (0xDC00 + k % 0x400) = c := by
    rw [pairChar, Nat.add_sub_cancel_left, Nat.add_sub_cancel_left, Nat.add_assoc,
      Nat.mul_comm, Nat.div_add_mod, ← hk, Char.ofNat_toNat]
  rw [writePair, hk, Nat.add_sub_cancel_left, readQuotedChar_pair hhigh hlow, hpair]

/-! ### Characters and texts -/

theorem readQuotedChar_writeCoded (hkeeps : isHighHalf (codeOf c) = true → KeepsHalf rest) :
    readQuotedChar (writeCoded c ++ rest) = some (c, rest) := by
  unfold writeCoded
  split
  · rename_i hsmall
    rw [readQuotedChar_writeUnit hsmall hkeeps, charOf_codeOf]
  · rename_i hlarge
    have hcode := codeOf_eq_toNat (Nat.not_lt.1 hlarge)
    rw [hcode] at hlarge ⊢
    exact readQuotedChar_writePair (Nat.not_lt.1 hlarge) rest

theorem readQuotedChar_writeChar (hkeeps : isHighHalf (codeOf c) = true → KeepsHalf rest) :
    readQuotedChar (writeChar c ++ rest) = some (c, rest) := by
  unfold writeChar
  split
  case h_8 hquote hslash hn hr ht hf hb =>
    split
    · rename_i hprint
      have hvalue : 32 ≤ c.toNat ∧ c.toNat < 127 := by simpa using hprint
      have hlow : ¬c.toNat < 32 := Nat.not_lt.2 hvalue.1
      have hescape : c ≠ '\\' := hslash
      have hplain : (c == '\\' || decide (c.toNat < 32)) = false := by simp [hescape, hlow]
      simp only [List.cons_append, List.nil_append]
      unfold readQuotedChar
      split
      · simp_all
      · simp_all
      · simp_all
      · simp_all
    · exact readQuotedChar_writeCoded hkeeps
  all_goals rfl

theorem keepsHalf_writeUnit (hn : n < 0x10000) (hlow : isLowHalf n = false) (rest : List Char) :
    KeepsHalf (writeUnit n ++ rest) := by
  intro tail htail
  obtain rfl : unitDigits n ++ rest = tail := (List.cons.inj (List.cons.inj htail).2).2
  exact ⟨n, rest, readUnit_unitDigits hn rest, hlow⟩

theorem keepsHalf_writePair {code : Nat} (h : code < 0x110000) (rest : List Char) :
    KeepsHalf (writePair code ++ rest) := by
  rw [writePair, List.append_assoc]
  refine keepsHalf_writeUnit (by omega) ?_ _
  simp only [isLowHalf, Bool.and_eq_false_iff, decide_eq_false_iff_not]
  omega

theorem keepsHalf_writeChar (hlow : isLowHalf (codeOf c) = false) (rest : List Char) :
    KeepsHalf (writeChar c ++ rest) := by
  unfold writeChar
  split
  case h_8 =>
    split
    · intro tail htail
      simp_all
    · unfold writeCoded
      split
      · rename_i hsmall
        exact keepsHalf_writeUnit hsmall hlow rest
      · rename_i hlarge
        rw [codeOf_eq_toNat (Nat.not_lt.1 hlarge)]
        have hvalid := toNat_valid c
        exact keepsHalf_writePair (by omega) rest
  all_goals
    intro tail htail
    simp at htail

/-- The first of some written characters, with what tells that it does not end the text. -/
theorem readQuoted_append {piece tail : List Char} {fuel : Nat} (hne : piece ≠ [])
    (hquote : piece.head? ≠ some '"') (hread : readQuotedChar (piece ++ tail) = some (c, tail)) :
    readQuoted (fuel + 1) (piece ++ tail) =
      (readQuoted fuel tail).map fun (xs, after) => (c :: xs, after) := by
  obtain ⟨d, rest, rfl⟩ := List.exists_cons_of_ne_nil hne
  have hd : d ≠ '"' := fun e => hquote (congrArg some e)
  rw [List.cons_append] at hread ⊢
  simp [readQuoted, hd, hread]

theorem head?_writeChar (c : Char) : writeChar c ≠ [] ∧ (writeChar c).head? ≠ some '"' := by
  unfold writeChar
  split
  case h_8 hquote _ _ _ _ _ _ =>
    split
    · exact ⟨by simp, fun h => hquote (Option.some.inj h)⟩
    · unfold writeCoded
      split <;> simp [writePair, writeUnit]
  all_goals simp

theorem keepsHalf_writeChars {cs : List Char}
    (hlow : ∀ d ∈ cs.head?, isLowHalf (codeOf d) = false) (rest : List Char) :
    KeepsHalf (writeChars cs ++ '"' :: rest) := by
  cases cs with
  | nil =>
    intro tail htail
    simp [writeChars] at htail
  | cons d cs =>
    simp only [writeChars, List.append_assoc]
    split
    · have hvalid := toNat_valid d
      exact keepsHalf_writePair (by omega) _
    · exact keepsHalf_writeChar (hlow d rfl) _

theorem any_of_mem {p : Char → Bool} {o : Option Char} (hc : c ∈ o) (hp : p c = true) :
    o.any p = true := by
  obtain rfl := Option.mem_def.1 hc
  exact hp

theorem le_toNat_of_isHighHalf (h : isHighHalf (codeOf c) = true) : 0x10000 ≤ c.toNat := by
  have hcode : 0xD800 ≤ codeOf c ∧ codeOf c < 0xDC00 := by
    simpa only [isHighHalf, Bool.and_eq_true, decide_eq_true_eq] using h
  have hvalid := toNat_valid c
  unfold codeOf at hcode
  split at hcode
  · have hshift : halfShift = 0xD0000 := rfl
    omega
  · omega

/-- Every text reads back as itself from between its quotes. -/
theorem readQuoted_writeChars (cs rest : List Char) {fuel : Nat} (hfuel : cs.length < fuel) :
    readQuoted fuel (writeChars cs ++ '"' :: rest) = some (cs, rest) := by
  obtain ⟨fuel, rfl⟩ := Nat.exists_eq_add_one_of_ne_zero (Nat.ne_zero_of_lt hfuel)
  induction cs generalizing fuel with
  | nil => rfl
  | cons c cs ih =>
    have htail := ih (fuel - 1) (by simp at hfuel; omega)
    rw [Nat.sub_add_cancel (by simp at hfuel; omega)] at htail
    simp only [writeChars, List.append_assoc]
    split
    · rename_i hjoins
      have hhigh : isHighHalf (codeOf c) = true := (Bool.and_eq_true _ _ ▸ hjoins).1
      rw [readQuoted_append (by simp [writePair, writeUnit]) (by simp [writePair, writeUnit])
        (readQuotedChar_writePair (le_toNat_of_isHighHalf hhigh) _), htail]
      rfl
    · rename_i hjoins
      have hkeeps (hhigh : isHighHalf (codeOf c) = true) :
          KeepsHalf (writeChars cs ++ '"' :: rest) :=
        keepsHalf_writeChars (fun d hd => Bool.eq_false_iff.2 fun hlow =>
          hjoins (Bool.and_eq_true_iff.2 ⟨hhigh, any_of_mem hd hlow⟩)) rest
      rw [readQuoted_append (head?_writeChar c).1 (head?_writeChar c).2
        (readQuotedChar_writeChar hkeeps), htail]
      rfl

end KeywordCatalog.Document
