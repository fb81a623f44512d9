import KeywordCatalog.Keyword.Equality
import KeywordCatalog.Table.Content

/-!
# Plain keyword names

A plain name is made of the first 128 characters, has no arguments in it and does not start with a
dot when it is made bare. Such a name is meant by exactly the names with the same bare form, and so
is the key under which it stands in its table.
-/

namespace KeywordCatalog.Keyword

open Text

variable {c : Char} {name : List Char} {keyword candidate : String}

/-- Whether a text is made of the first 128 characters. -/
def IsAscii (name : List Char) : Prop := ∀ c ∈ name, c.toNat < 128

instance (name : List Char) : Decidable (IsAscii name) :=
  List.decidableBAll (fun c : Char => c.toNat < 128) name

/-- What holds at the first 128 code points holds of the characters of a text made of them. -/
theorem forall_ascii {P : Char → Prop} (h : ∀ n < 128, P (Char.ofNat n)) (hc : c.toNat < 128) :
    P c := by
  have hcode := h c.toNat hc
  rwa [Char.ofNat_toNat] at hcode

/-- A name that means a keyword by its bare form alone. -/
structure IsPlain (name : String) : Prop where
  ascii : IsAscii name.toList
  noArgument : '$' ∉ name.toList
  noDot : (bareChars name.toList).head? ≠ some '.'

theorem lowerChar_ascii (hc : c.toNat < 128) : (lowerChar c).toNat < 128 ∧
    lowerChar (lowerChar c) = lowerChar c ∧ (lowerChar c = '$' → c = '$') :=
  forall_ascii (P := fun c => (lowerChar c).toNat < 128 ∧ lowerChar (lowerChar c) = lowerChar c ∧
    (lowerChar c = '$' → c = '$')) (by decide +kernel) hc

theorem lower_of_isAscii (h : IsAscii name) : lower name = name.map lowerChar := by
  have hafter (before : List Char) : lowerAfter before name = name.map lowerChar := by
    induction name generalizing before with
    | nil => rfl
    | cons c rest ih =>
      have hc : c.toNat < 128 := h c List.mem_cons_self
      have hsigma : c ≠ 'Σ' := by
        rintro rfl
        exact absurd hc (by decide)
      have hdotted : c ≠ 'İ' := by
        rintro rfl
        exact absurd hc (by decide)
      simp [lowerAfter, hsigma, hdotted, ih fun d hd => h d (List.mem_cons_of_mem _ hd)]
  exact hafter []

theorem bareChars_of_isAscii (h : IsAscii name) :
    bareChars name = (name.map lowerChar).filter (!isDivider ·) := by
  rw [bareChars, lower_of_isAscii h]

theorem IsAscii.append {first second : List Char} (hfirst : IsAscii first)
    (hsecond : IsAscii second) : IsAscii (first ++ second) :=
  fun c hc => (List.mem_append.1 hc).elim (hfirst c) (hsecond c)

theorem bareChars_append {first second : List Char} (hfirst : IsAscii first)
    (hsecond : IsAscii second) :
    bareChars (first ++ second) = bareChars first ++ bareChars second := by
  rw [bareChars_of_isAscii (hfirst.append hsecond), bareChars_of_isAscii hfirst,
    bareChars_of_isAscii hsecond, List.map_append, List.filter_append]

theorem isAscii_lower (h : IsAscii name) : IsAscii (lower name) := by
  rw [lower_of_isAscii h]
  intro d hd
  obtain ⟨c, hc, rfl⟩ := List.mem_map.1 hd
  exact (lowerChar_ascii (h c hc)).1

theorem isAscii_keywordKey (h : IsAscii name) : IsAscii (keywordKey name) := by
  intro d hd
  obtain ⟨c, hc, rfl⟩ := List.mem_map.1 hd
  split
  · decide
  · exact isAscii_lower h c hc

theorem lower_keywordKey (h : IsAscii name) : lower (keywordKey name) = keywordKey name := by
  rw [lower_of_isAscii (isAscii_keywordKey h), keywordKey, lower_of_isAscii h]
  simp only [List.map_map]
  refine List.map_congr_left fun c hc => ?_
  simp only [Function.comp_apply]
  split
  · decide
  · exact (lowerChar_ascii (h c hc)).2.1

/-- The key of a keyword has the same bare form as its name. -/
theorem bareChars_keywordKey (h : IsAscii name) : bareChars (keywordKey name) = bareChars name := by
  rw [bareChars, lower_keywordKey h, bareChars, keywordKey]
  induction lower name with
  | nil => rfl
  | cons c rest ih =>
    rw [List.map_cons, List.filter_cons, List.filter_cons, ih]
    by_cases hc : c = ' '
    · simp [hc, isDivider]
    · simp [hc]

theorem dollar_notMem_keywordKey (h : IsAscii name) (hname : '$' ∉ name) :
    '$' ∉ keywordKey name := by
  rw [keywordKey, lower_of_isAscii h, List.map_map]
  intro hmem
  obtain ⟨c, hc, heq⟩ := List.mem_map.1 hmem
  simp only [Function.comp_apply] at heq
  split at heq
  · cases heq
  · exact hname ((lowerChar_ascii (h c hc)).2.2 heq ▸ hc)

theorem isNamed_eq_ok (hcandidate : '$' ∉ candidate.toList)
    (hdot : (bareChars candidate.toList).head? ≠ some '.') :
    isNamed keyword candidate = .ok (bareChars keyword.toList == bareChars candidate.toList) := by
  have hdrop : (bareChars candidate.toList).dropWhile (· == '.') = bareChars candidate.toList := by
    cases hbare : bareChars candidate.toList with
    | nil => rfl
    | cons d rest =>
      have hd : d ≠ '.' := fun e => hdot (by rw [hbare, e]; rfl)
      simp [hd]
  have hnone : candidate.toList.contains '$' = false := by simpa using hcandidate
  rw [isNamed, hnone, if_neg Bool.false_ne_true, hasName, hdrop]

/-- A plain name is meant by the names with the same bare form. -/
theorem IsPlain.isNamed_eq (h : IsPlain candidate) (keyword : String) :
    isNamed keyword candidate = .ok (bareChars keyword.toList == bareChars candidate.toList) :=
  isNamed_eq_ok h.noArgument h.noDot

/-- The key of a plain name is meant by the names with the same bare form. -/
theorem IsPlain.isNamed_key (h : IsPlain candidate) (keyword : String) :
    isNamed keyword (String.ofList (keywordKey candidate.toList)) =
      .ok (bareChars keyword.toList == bareChars candidate.toList) := by
  have hbare := bareChars_keywordKey h.ascii
  rw [isNamed_eq_ok, String.toList_ofList, hbare]
  · rw [String.toList_ofList]
    exact dollar_notMem_keywordKey h.ascii h.noArgument
  · rw [String.toList_ofList, hbare]
    exact h.noDot

end KeywordCatalog.Keyword
