import KeywordCatalog.Editor.Keyword
import KeywordCatalog.Proofs.Outcome
import Mathlib.Data.List.TakeWhile

/-!
# Names in import lines

A line is recognised as an import by its first word and a gap after it (`exists_isImportOf`). The
name that it imports is looked for after that word: it follows the gap, and a pipe in the gap is left
out (`exists_isNameAfter`). A line can be recognised and have nothing but blanks after its word; then
there is no name (`name?_eq_none`), and opening what the line imports fails (`name?_of_isImport`).
-/

namespace KeywordCatalog.Import

open Text

variable {line text rest name : List Char} {c : Char}

/-! ### The words of imports -/

/-- Whether a text is the word of an import, in upper or lower case. -/
def IsImportWord (text : List Char) : Prop :=
  ∃ word ∈ ["library", "resource"], List.Forall₂ (fun x c => sameLetter x c = true) word.toList text

theorem afterWord_eq_some {word : List Char} : afterWord word text = some rest ↔
    ∃ first, List.Forall₂ (fun x c => sameLetter x c = true) word first ∧ text = first ++ rest := by
  induction word generalizing text with
  | nil => simp only [afterWord_nil, List.forall₂_nil_left_iff, exists_eq_left, List.nil_append,
      Option.some.injEq]
  | cons x word ih =>
    cases text with
    | nil => simp [afterWord, List.forall₂_cons_left_iff]
    | cons c text =>
      rw [afterWord]
      simp only [List.forall₂_cons_left_iff]
      constructor
      · intro h
        obtain ⟨hc, h⟩ := Option.ite_none_right_eq_some.1 h
        obtain ⟨first, hfirst, rfl⟩ := ih.1 h
        exact ⟨c :: first, ⟨c, first, hc, hfirst, rfl⟩, rfl⟩
      · rintro ⟨_, ⟨d, first, hd, hfirst, rfl⟩, heq⟩
        obtain ⟨rfl, rfl⟩ := List.cons.inj heq
        rw [if_pos hd]
        exact ih.2 ⟨first, hfirst, rfl⟩

/-- No letter of the words is blank. -/
theorem isBlank_of_sameLetter {x : Char} (hx : x ∈ "libraryresource".toList)
    (h : sameLetter x c = true) : isBlank c = false := by
  have hall : (blankRanges.all fun r => (List.range (r.2 + 1 - r.1)).all fun k =>
      "libraryresource".toList.all fun x => !sameCode x.toNat (r.1 + k)) = true := by
    decide +kernel
  simp only [List.all_eq_true, List.mem_range, Bool.not_eq_true'] at hall
  refine Bool.eq_false_iff.2 fun hblank => ?_
  obtain ⟨r, hr, hrange⟩ := List.any_eq_true.1 hblank
  simp only [Bool.and_eq_true, decide_eq_true_eq] at hrange
  have hcode := hall r hr (c.toNat - r.1) (by omega) x hx
  rw [Nat.add_sub_cancel' hrange.1] at hcode
  exact Bool.false_ne_true (hcode.symm.trans h)

theorem IsImportWord.isBlank (h : IsImportWord text) : ∀ c ∈ text, isBlank c = false := by
  obtain ⟨word, hword, hletters⟩ := h
  have hall : (["library", "resource"].all fun word => word.toList.all
      ("libraryresource".toList.contains ·)) = true := by decide
  have hin : ∀ x ∈ word.toList, x ∈ "libraryresource".toList := fun x hx => by
    simpa using List.all_eq_true.1 (List.all_eq_true.1 hall word hword) x hx
  generalize word.toList = letters at hletters hin
  induction hletters with
  | nil => nofun
  | cons hc _ ih =>
    obtain ⟨hx, hin⟩ := List.forall_mem_cons.1 hin
    exact List.forall_mem_cons.2 ⟨isBlank_of_sameLetter hx hc, ih hin⟩

/-- The first letters of the words are told apart in every case. -/
theorem lowerCode_of_sameLetter {x : Char} (hx : x = 'l' ∨ x = 'r') (h : sameLetter x c = true) :
    lowerCode c.toNat = x.toNat := by
  have hplain : ∀ x, x = 'l' ∨ x = 'r' → lowerCode x.toNat = x.toNat ∧ isCasedCode x.toNat = true ∧
      variantsOf x.toNat = [] := by
    rintro _ (rfl | rfl) <;> decide +kernel
  obtain ⟨hlower, hcased, hvariants⟩ := hplain x hx
  simp only [sameLetter, sameCode, hcased, hlower, hvariants] at h
  split at h
  · exact (beq_iff_eq.1 h).symm
  · simpa using h

/-- The text after the word of an import is found, whichever word it is. -/
theorem IsImportWord.afterOneOf (h : IsImportWord text) (rest : List Char) :
    afterOneOf ["resource", "library"] (text ++ rest) = some rest := by
  obtain ⟨word, hword, hletters⟩ := h
  have hafter : afterWord word.toList (text ++ rest) = some rest :=
    afterWord_eq_some.2 ⟨text, hletters, rfl⟩
  rcases List.mem_cons.1 hword with rfl | hword
  · -- a text that starts with an l is no resource
    have hresource : afterWord "resource".toList (text ++ rest) = none := by
      obtain ⟨c, tail, hc, -, rfl⟩ := List.forall₂_cons_left_iff.1 hletters
      have hr : ¬sameLetter 'r' c = true := fun hr => absurd
        ((lowerCode_of_sameLetter (Or.inl rfl) hc).symm.trans
          (lowerCode_of_sameLetter (Or.inr rfl) hr)) (by decide)
      exact if_neg hr
    rw [Import.afterOneOf, List.findSome?_cons, hresource, List.findSome?_cons, hafter]
  · obtain rfl := List.mem_singleton.1 hword
    rw [Import.afterOneOf, List.findSome?_cons, hafter]

/-- A text that starts with another character than a first letter has the name of its tail. -/
theorem name?_cons (hl : sameLetter 'l' c = false) (hr : sameLetter 'r' c = false) :
    name? (c :: text) = name? text := by
  have hwords : afterOneOf ["resource", "library"] (c :: text) = none := by
    have hresource : afterWord "resource".toList (c :: text) = none := if_neg (Bool.eq_false_iff.1 hr)
    have hlibrary : afterWord "library".toList (c :: text) = none := if_neg (Bool.eq_false_iff.1 hl)
    rw [afterOneOf, List.findSome?_cons, hresource, List.findSome?_cons, hlibrary]
    rfl
  rw [name?, hwords]
  rfl

/-! ### The name after the word -/

/-- Whether a name is the one after the word of an import: the first text without blanks after a gap of
blanks and pipes. -/
structure IsNameAfter (rest name : List Char) : Prop where
  nonempty : name ≠ []
  filled : ∀ c ∈ name, isBlank c = false
  place : ∃ gap after, rest = gap ++ name ++ after ∧ gap ≠ [] ∧
    (∀ c ∈ gap, isBlank c = true ∨ c = '|') ∧ ∀ c ∈ after.head?, isBlank c = true

theorem head_dropWhile (h : text.dropWhile isBlank = c :: rest) : isBlank c = false := by
  have hc := List.head?_dropWhile_not isBlank text
  rw [h] at hc
  exact hc

theorem nameAfter_of_blank (h : ∀ c ∈ rest, isBlank c = true) : nameAfter rest = none := by
  have hdrop : rest.dropWhile isBlank = [] := List.dropWhile_eq_nil_iff.2 h
  rw [nameAfter, hdrop]
  split <;> rfl

theorem isNameAfter_takeWhile {gap : List Char} (hc : isBlank c = false) (hgap : gap ≠ [])
    (hblank : ∀ d ∈ gap, isBlank d = true ∨ d = '|') :
    IsNameAfter (gap ++ c :: rest) ((c :: rest).takeWhile (!isBlank ·)) where
  nonempty := by simp [hc]
  filled d hd := by simpa using List.mem_takeWhile_imp hd
  place := by
    refine ⟨gap, (c :: rest).dropWhile (!isBlank ·), ?_, hgap, hblank, fun d hd => ?_⟩
    · rw [List.append_assoc, List.takeWhile_append_dropWhile]
    · have hend := List.head?_dropWhile_not (!isBlank ·) (c :: rest)
      rw [Option.mem_def.1 hd] at hend
      simpa using hend

/-- A blank and something else after it is enough for a name. -/
theorem exists_isNameAfter (hhead : rest.head?.any isBlank = true)
    (hfilled : ¬∀ c ∈ rest, isBlank c = true) :
    ∃ name, nameAfter rest = some name ∧ IsNameAfter rest name := by
  obtain ⟨c, tail, hdrop⟩ := List.exists_cons_of_ne_nil (mt List.dropWhile_eq_nil_iff.1 hfilled)
  have hsplit := List.takeWhile_append_dropWhile (p := isBlank) (l := rest)
  have hblanks : ∀ d ∈ rest.takeWhile isBlank, isBlank d = true ∨ d = '|' :=
    fun d hd => Or.inl (List.mem_takeWhile_imp hd)
  have hne : rest.takeWhile isBlank ≠ [] := by
    obtain ⟨d, more, rfl⟩ : ∃ d more, rest = d :: more := by
      cases rest with
      | nil => cases hhead
      | cons d more => exact ⟨d, more, rfl⟩
    rw [List.takeWhile_cons_of_pos (by simpa using hhead)]
    exact List.cons_ne_nil _ _
  rw [hdrop] at hsplit
  rw [nameAfter, if_neg (by simp [hhead]), hdrop]
  by_cases hpipe : c = '|' ∧ tail.head?.any isBlank = true ∧ tail.dropWhile isBlank ≠ []
  · -- the name is looked for after the pipe and the blanks after it
    obtain ⟨rfl, hblank, hmore⟩ := hpipe
    obtain ⟨d, more, hd⟩ := List.exists_cons_of_ne_nil hmore
    have hgap : ∀ e ∈ rest.takeWhile isBlank ++ '|' :: tail.takeWhile isBlank,
        isBlank e = true ∨ e = '|' := by
      simp only [List.forall_mem_append, List.forall_mem_cons]
      exact ⟨hblanks, Or.inr trivial, fun e he => Or.inl (List.mem_takeWhile_imp he)⟩
    have htail := List.takeWhile_append_dropWhile (p := isBlank) (l := tail)
    refine ⟨(d :: more).takeWhile (!isBlank ·), by simp [hblank, hd, head_dropWhile hd], ?_⟩
    rw [hd] at htail
    rw [← hsplit, ← htail]
    simpa using isNameAfter_takeWhile (head_dropWhile hd)
      (List.append_ne_nil_of_left_ne_nil hne _) hgap
  · refine ⟨(c :: tail).takeWhile (!isBlank ·), ?_,
      hsplit ▸ isNameAfter_takeWhile (head_dropWhile hdrop) hne hblanks⟩
    have hc := head_dropWhile hdrop
    dsimp only
    split
    · rename_i hcons
      obtain ⟨rfl, rfl⟩ := List.cons.inj hcons
      have hafter : (if tail.head?.any isBlank = true then tail.dropWhile isBlank else []) = [] := by
        split
        · exact not_not.1 fun hmore => hpipe ⟨rfl, ‹_›, hmore⟩
        · rfl
      simp [hafter, hc]
    · simp [hc]

theorem nameAfter_eq_none_iff (hhead : rest.head?.any isBlank = true) :
    nameAfter rest = none ↔ ∀ c ∈ rest, isBlank c = true := by
  refine ⟨fun hnone => ?_, nameAfter_of_blank⟩
  by_contra hfilled
  obtain ⟨name, hname, -⟩ := exists_isNameAfter hhead hfilled
  cases hnone.symm.trans hname

/-- There is no name where blanks are followed by blanks only. -/
theorem name?_eq_none (h : text.Pairwise fun c d => isBlank c = true → isBlank d = true) :
    name? text = none := by
  induction text with
  | nil => rfl
  | cons c text ih =>
    have hafter : ∀ rest, afterOneOf ["resource", "library"] (c :: text) = some rest →
        nameAfter rest = none := by
      intro rest hrest
      obtain ⟨word, -, hword⟩ := List.exists_of_findSome?_eq_some hrest
      obtain ⟨first, -, htext⟩ := afterWord_eq_some.1 hword
      have hpairs := h.sublist (htext ▸ List.sublist_append_right first rest)
      by_cases hhead : rest.head?.any isBlank = true
      · obtain ⟨d, tail, rfl⟩ : ∃ d tail, rest = d :: tail := by
          cases rest with
          | nil => cases hhead
          | cons d tail => exact ⟨d, tail, rfl⟩
        refine nameAfter_of_blank (List.forall_mem_cons.2 ⟨by simpa using hhead, fun e he => ?_⟩)
        exact (List.pairwise_cons.1 hpairs).1 e he (by simpa using hhead)
      · exact if_pos (by simpa using hhead)
    rw [name?]
    cases hfound : afterOneOf ["resource", "library"] (c :: text) with
    | none => exact ih (List.pairwise_cons.1 h).2
    | some rest =>
      rw [Option.bind_some, hafter rest hfound]
      exact ih (List.pairwise_cons.1 h).2

/-! ### Lines -/

/-- Whether a line is an import with some text after its word. The word starts the line or follows a
pipe and a blank, and two blanks or a blank and a pipe follow it. -/
structure IsImportOf (line rest : List Char) : Prop where
  parts : ∃ lead word, line = lead ++ word ++ rest ∧ IsImportWord word ∧
    (lead = [] ∨ ∃ c, isBlank c = true ∧ lead = ['|', c])
  gap : startsWithGap rest = true

theorem head_of_startsWithGap (h : startsWithGap rest = true) : rest.head?.any isBlank = true := by
  match rest, h with
  | _ :: _ :: _, h => exact (Bool.and_eq_true_iff.1 h).1

theorem exists_of_startsWithImport (h : startsWithImport text = true) :
    ∃ word rest, text = word ++ rest ∧ IsImportWord word ∧ startsWithGap rest = true := by
  have hone {word : String} (hword : word ∈ ["library", "resource"])
      (h : (afterOneOf [word] text).any startsWithGap = true) :
      ∃ word rest, text = word ++ rest ∧ IsImportWord word ∧ startsWithGap rest = true := by
    obtain ⟨rest, hafter, hgap⟩ := (Option.any_eq_true _ _).1 h
    obtain ⟨other, hother, hrest⟩ := List.exists_of_findSome?_eq_some hafter
    obtain rfl := List.mem_singleton.1 hother
    obtain ⟨first, hfirst, htext⟩ := afterWord_eq_some.1 hrest
    exact ⟨first, rest, htext, ⟨other, hword, hfirst⟩, hgap⟩
  rcases Bool.or_eq_true_iff.1 h with h | h
  · exact hone (by simp) h
  · exact hone (by simp) h

theorem exists_isImportOf (h : isImport line = true) : ∃ rest, IsImportOf line rest := by
  rcases Bool.or_eq_true_iff.1 h with h | h
  · split at h
    · obtain ⟨hblank, h⟩ := Bool.and_eq_true_iff.1 h
      obtain ⟨word, rest, rfl, hword, hgap⟩ := exists_of_startsWithImport h
      exact ⟨rest, ⟨['|', _], word, rfl, hword, Or.inr ⟨_, hblank, rfl⟩⟩, hgap⟩
    · cases h
  · obtain ⟨word, rest, rfl, hword, hgap⟩ := exists_of_startsWithImport h
    exact ⟨rest, ⟨[], word, rfl, hword, Or.inl rfl⟩, hgap⟩

/-- The name in a line is the one after the word. -/
theorem IsImportOf.name?_eq (h : IsImportOf line rest) : name? line = nameAfter rest := by
  obtain ⟨⟨lead, word, rfl, hword, hlead⟩, hgap⟩ := h
  have hline : name? (lead ++ word ++ rest) = name? (word ++ rest) := by
    rcases hlead with rfl | ⟨c, hc, rfl⟩
    · rfl
    · have hother {x : Char} (hx : x ∈ "libraryresource".toList) : sameLetter x c = false :=
        Bool.eq_false_iff.2 fun hsame => by simp [isBlank_of_sameLetter hx hsame] at hc
      exact (name?_cons (by decide) (by decide)).trans
        (name?_cons (hother (by decide)) (hother (by decide)))
  rw [hline]
  cases hname : nameAfter rest with
  | none =>
    -- nothing but blanks follows the word, which has no blanks itself
    have hblank := (nameAfter_eq_none_iff (head_of_startsWithGap hgap)).1 hname
    refine name?_eq_none (List.pairwise_append.2 ⟨?_, ?_, fun c hc d hd _ => hblank d hd⟩)
    · exact List.pairwise_of_forall_mem_list fun c hc d _ hcb => by simp [hword.isBlank c hc] at hcb
    · exact List.pairwise_of_forall_mem_list fun c _ d hd _ => hblank d hd
  | some name =>
    have hafter := hword.afterOneOf rest
    obtain ⟨c, tail, hcons⟩ : ∃ c tail, word ++ rest = c :: tail :=
      List.exists_cons_of_ne_nil fun hnil => by simp_all [afterOneOf, afterWord]
    rw [hcons] at hafter ⊢
    rw [name?, hafter, Option.bind_some, hname]

/-- **A line that is recognised as an import has a name to import exactly if something other than blanks
follows its word**, and the name is what follows the word then. Without a name, opening what the line
imports fails and asks nothing of the editor. -/
theorem name?_of_isImport (h : isImport line = true) :
    ∃ rest, IsImportOf line rest ∧ (name? line = none ↔ ∀ c ∈ rest, isBlank c = true) ∧
      (∀ name, name? line = some name → IsNameAfter rest name) ∧
      ((∀ c ∈ rest, isBlank c = true) → ∀ (e : Editor) (file tables : String) (session : Session),
        e.view.line = line →
          (e.openImport file tables).run session = (.error .missingMember, session)) := by
  obtain ⟨rest, hrest⟩ := exists_isImportOf h
  have hhead := head_of_startsWithGap hrest.gap
  rw [hrest.name?_eq, nameAfter_eq_none_iff hhead]
  refine ⟨rest, hrest, Iff.rfl, fun name hname => ?_, fun hblank e file tables session hline => ?_⟩
  · have hfilled : ¬∀ c ∈ rest, isBlank c = true := fun hblank => by
      cases (nameAfter_of_blank hblank).symm.trans hname
    obtain ⟨other, hother, hafter⟩ := exists_isNameAfter hhead hfilled
    exact Option.some.inj (hother.symm.trans hname) ▸ hafter
  · rw [Editor.openImport, hline, hrest.name?_eq, nameAfter_of_blank hblank]
    rfl

/-- A line without a name, and one with a name after a pipe. -/
theorem name?_of_isImport_blank :
    (isImport "Library  ".toList = true ∧ name? "Library  ".toList = none ∧
      ∃ rest, IsImportOf "Library  ".toList rest ∧ ∀ c ∈ rest, isBlank c = true) ∧
    isImport "| RESOURCE | a.robot".toList = true ∧
      ∃ rest, IsImportOf "| RESOURCE | a.robot".toList rest ∧ IsNameAfter rest "a.robot".toList := by
  have hkernel : isImport "Library  ".toList = true ∧ name? "Library  ".toList = none ∧
      isImport "| RESOURCE | a.robot".toList = true ∧
      name? "| RESOURCE | a.robot".toList = some "a.robot".toList := by
    decide +kernel
  obtain ⟨hblank, hnone, hpipe, hname⟩ := hkernel
  obtain ⟨rest, hrest, hnone_iff, -⟩ := name?_of_isImport hblank
  obtain ⟨rest', hrest', -, hafter, -⟩ := name?_of_isImport hpipe
  exact ⟨⟨hblank, hnone, rest, hrest, hnone_iff.1 hnone⟩, hpipe, rest', hrest', hafter _ hname⟩

end KeywordCatalog.Import
