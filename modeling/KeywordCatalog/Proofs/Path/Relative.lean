import KeywordCatalog.Proofs.Path.Folder

/-!
# Paths from a folder to a file

The path from a folder to a file goes up from the folder until the two have their start in common
(`Path.commonLength`), and then down to the file. Inside the folder it means the file again
(`Path.absoluteChars_relativeChars`), whatever the two have in common.

A file is known under a spelling that leaves its name alone, so this spelling is the absolute path
only if the name is no dot (`Path.tidyChars_eq_absoluteChars`). The path from a folder has such a
name unless it leads to the folder itself or to a folder above it (`Path.AtOrAbove`).
-/

namespace KeywordCatalog.Path

open Text

variable {p a b cwd name : List Char} {stack found origin goal : List (List Char)}

/-! ### Paths with plain names -/

theorem intercalate_append (hfound : found ≠ []) (hgoal : goal ≠ []) :
    ['/'].intercalate (found ++ goal) =
      ['/'].intercalate found ++ '/' :: ['/'].intercalate goal := by
  induction found with
  | nil => exact absurd rfl hfound
  | cons first rest ih =>
    by_cases hrest : rest = []
    · subst hrest
      rw [List.singleton_append, List.intercalate_cons_of_ne_nil hgoal,
        List.intercalate_singleton]
      simp
    · rw [List.cons_append, List.intercalate_cons_of_ne_nil (by simp [hrest]), ih hrest,
        List.intercalate_cons_of_ne_nil hrest]
      simp

theorem mem_intercalate {c : Char} (hc : c ≠ '/') :
    c ∈ ['/'].intercalate found ↔ ∃ part ∈ found, c ∈ part := by
  induction found with
  | nil => simp [List.intercalate]
  | cons first rest ih =>
    by_cases hrest : rest = []
    · simp [hrest]
    · simp [List.intercalate_cons_of_ne_nil hrest, hc, ih]

/-- A path in normal form with a plain part after it. -/
theorem joinChars_of_isPlain {k : ℕ} (hk : k = 1 ∨ k = 2) (h : ∀ part ∈ found, IsPlain part)
    (hname : '/' ∉ name) :
    joinChars (List.replicate k '/' ++ ['/'].intercalate found) name =
      List.replicate k '/' ++ ['/'].intercalate (found ++ [name]) := by
  rw [joinChars_eq_append (isAbsoluteChars_of_not_mem hname)]
  rcases List.eq_nil_or_concat found with rfl | ⟨others, last, rfl⟩
  · -- slashes only: nothing is put between them and the name
    rcases hk with rfl | rfl <;> simp [joinChars, isAbsoluteChars, List.intercalate]
  · rw [List.concat_eq_append] at h ⊢
    obtain ⟨hne, -, -, hslash⟩ := h last (by simp)
    obtain ⟨front, -, hfront⟩ := exists_intercalate_concat others last
    have hlast : (List.replicate k '/' ++ ['/'].intercalate (others ++ [last])).getLast? ≠
        some '/' := by
      rw [hfront, ← List.append_assoc, getLast?_append_of_ne_nil hne]
      exact fun h => hslash (List.mem_of_getLast? h)
    have hne' : List.replicate k '/' ++ ['/'].intercalate (others ++ [last]) ≠ [] := by
      rcases hk with rfl | rfl <;> simp
    have hparts : others ++ [last] ≠ [] := by simp
    rw [intercalate_append hparts (by simp),
      List.intercalate_singleton, ← List.append_assoc]
    generalize List.replicate k '/' ++ ['/'].intercalate (others ++ [last]) = folder at hlast hne' ⊢
    simp [joinChars, isAbsoluteChars, hlast, hne']

theorem isNormal_joinChars (ha : IsNormal a) (hname : IsPlain name) :
    IsNormal (joinChars a name) := by
  obtain ⟨k, found, hk, hplain, rfl⟩ := ha
  refine ⟨k, found ++ [name], hk, ?_, joinChars_of_isPlain hk hplain hname.2.2.2⟩
  intro part hpart
  rcases List.mem_append.1 hpart with hpart | hpart
  · exact hplain part hpart
  · rwa [List.mem_singleton.1 hpart]

/-- A file whose name is no dot is known under its absolute path. -/
theorem tidyChars_eq_absoluteChars (hcwd : isAbsoluteChars cwd = true)
    (hname : IsPlain (nameChars p)) : tidyChars cwd p = absoluteChars cwd p := by
  obtain ⟨front, hends, hfront⟩ := exists_append_nameChars p
  have hslash : '/' ∉ nameChars p := hname.2.2.2
  have hrelative : isAbsoluteChars (nameChars p) = false := isAbsoluteChars_of_not_mem hslash
  have hjoin : joinChars front (nameChars p) = p := by
    rw [joinChars_eq_append hrelative, joinChars_nil_of_endsFolder hends, ← hfront]
  have hfolder := isAbsoluteChars_joinChars (p := front) hcwd
  calc tidyChars cwd p
      = tidyChars cwd (front ++ nameChars p) := by rw [← hfront]
    _ = joinChars (normalizeChars (joinChars cwd front)) (nameChars p) :=
      tidyChars_append hcwd hends hslash
    _ = normalizeChars (joinChars (normalizeChars (joinChars cwd front)) (nameChars p)) :=
      (normalizeChars_of_isNormal
        (isNormal_joinChars (isNormal_normalizeChars hfolder) hname)).symm
    _ = normalizeChars (joinChars (joinChars cwd front) (nameChars p)) :=
      normalizeChars_joinChars hfolder hrelative
    _ = absoluteChars cwd p := by
      rw [← joinChars_joinChars _ _ hrelative, hjoin, absoluteChars]

/-! ### Paths from the root -/

/-- The path that leads from the root through some parts. -/
def fromRoot (found : List (List Char)) : List Char := '/' :: ['/'].intercalate found

/-- Whether a path starts with one slash and is its own normal form. -/
structure IsRooted (p : List Char) : Prop where
  absolute : isAbsoluteChars p = true
  single : ¬['/', '/'] <+: p
  normal : normalizeChars p = p

theorem IsRooted.exists_parts (h : IsRooted p) :
    ∃ found, (∀ part ∈ found, IsPlain part) ∧ p = fromRoot found := by
  obtain ⟨k, found, rfl | rfl, hplain, hp⟩ := h.normal ▸ isNormal_normalizeChars h.absolute
  · exact ⟨found, hplain, hp⟩
  · exact absurd ⟨_, hp.symm⟩ h.single

theorem isNormal_fromRoot (h : ∀ part ∈ found, IsPlain part) : IsNormal (fromRoot found) :=
  ⟨1, found, Or.inl rfl, h, rfl⟩

theorem stackOf_fromRoot (h : ∀ part ∈ found, IsPlain part) :
    stackOf (fromRoot found) = found.reverse := by
  have habsolute : isAbsoluteChars (fromRoot found) = true := rfl
  have hparts : plainParts (fromRoot found) = found :=
    plainParts_of_isPlain 1 h (by rw [roots_of_isPlain (Or.inl rfl) h]; rfl)
  rw [← List.reverse_injective.eq_iff, List.reverse_reverse, ← plainParts_of_absolute habsolute,
    hparts]

theorem namedParts_fromRoot (h : ∀ part ∈ found, IsPlain part) :
    namedParts (fromRoot found) = found := by
  have hslash : ∀ part ∈ found, '/' ∉ part := fun part hpart => (h part hpart).2.2.2
  have hparts : parts (fromRoot found) = [] :: parts (['/'].intercalate found) :=
    parts_append [] _
  by_cases hempty : found = []
  · subst hempty
    rfl
  · rw [namedParts, hparts, parts, List.splitOn_intercalate '/' hslash hempty]
    simpa using fun part hpart => (h part hpart).1

theorem parentChars_fromRoot (h : ∀ part ∈ found, IsPlain part) :
    parentChars (fromRoot found) = fromRoot found.dropLast := by
  rcases List.eq_nil_or_concat found with rfl | ⟨others, last, rfl⟩
  · rfl
  · rw [List.concat_eq_append] at h ⊢
    have hothers : ∀ part ∈ others, IsPlain part := fun part hpart =>
      h part (List.mem_append_left _ hpart)
    have hlast : '/' ∉ last := (h last (by simp)).2.2.2
    have hjoin : joinChars (fromRoot others) last = fromRoot (others ++ [last]) :=
      joinChars_of_isPlain (Or.inl rfl) hothers hlast
    rw [← hjoin, parentChars_joinChars (isNormal_fromRoot hothers) hlast, List.dropLast_concat]

/-- Going up from a folder takes parts off its path. -/
theorem foldl_pushPart_above (rooted : Bool) (h : ∀ part ∈ stack, IsPlain part) {n : ℕ}
    (hn : n ≤ stack.length) :
    (List.replicate n above).foldl (pushPart rooted) stack = stack.drop n := by
  induction n generalizing stack with
  | zero => rfl
  | succ n ih =>
    cases stack with
    | nil => simp at hn
    | cons top rest =>
      have htop : top ≠ above := (h top List.mem_cons_self).2.2.1
      have hpush : pushPart rooted (top :: rest) above = rest := by
        have hdots : (above.isEmpty || above == ['.']) = false := rfl
        simp [pushPart, hdots, htop]
      rw [List.replicate_succ, List.foldl_cons, hpush, List.drop_succ_cons]
      exact ih (fun part hpart => h part (List.mem_cons_of_mem _ hpart)) (by simpa using hn)

theorem commonLength_le (origin goal : List (List Char)) :
    commonLength origin goal ≤ origin.length := by
  fun_induction commonLength origin goal with
  | case1 first rest other rest' heq ih => simpa using ih
  | case2 => exact Nat.zero_le _
  | case3 => exact Nat.zero_le _

theorem take_commonLength (origin goal : List (List Char)) :
    origin.take (commonLength origin goal) = goal.take (commonLength origin goal) := by
  fun_induction commonLength origin goal with
  | case1 first rest other rest' heq ih =>
    rw [List.take_succ_cons, List.take_succ_cons, ih, beq_iff_eq.1 heq]
  | case2 => rfl
  | case3 => rfl

/-! ### The way from a folder to a file -/

/-- The parts of the way from one path to another: up to what they have in common, and down. -/
def wayParts (origin goal : List (List Char)) : List (List Char) :=
  List.replicate (origin.length - commonLength origin goal) above ++
    goal.drop (commonLength origin goal)

theorem relativeChars_fromRoot (cwd : List Char) (horigin : ∀ part ∈ origin, IsPlain part)
    (hgoal : ∀ part ∈ goal, IsPlain part) :
    relativeChars cwd (fromRoot goal) (fromRoot origin) =
      if (wayParts origin goal).isEmpty then ['.']
      else ['/'].intercalate (wayParts origin goal) := by
  rw [relativeChars, absoluteChars_of_isNormal (isNormal_fromRoot horigin),
    absoluteChars_of_isNormal (isNormal_fromRoot hgoal), namedParts_fromRoot horigin,
    namedParts_fromRoot hgoal]
  rfl

/-- The way from one path to another leads to the parts of the other. -/
theorem foldl_pushPart_wayParts (horigin : ∀ part ∈ origin, IsPlain part)
    (hgoal : ∀ part ∈ goal, IsPlain part) :
    (wayParts origin goal).foldl (pushPart true) origin.reverse = goal.reverse := by
  have hup : ∀ part ∈ origin.reverse, IsPlain part := fun part hpart =>
    horigin part (List.mem_reverse.1 hpart)
  have hdown : ∀ part ∈ goal.drop (commonLength origin goal), IsPlain part := fun part hpart =>
    hgoal part (List.mem_of_mem_drop hpart)
  have hshared : origin.reverse.drop (origin.length - commonLength origin goal) =
      (goal.take (commonLength origin goal)).reverse := by
    rw [List.drop_reverse, ← take_commonLength]
    have hle := commonLength_le origin goal
    rw [show origin.length - (origin.length - commonLength origin goal) =
      commonLength origin goal by omega]
  rw [wayParts, List.foldl_append, foldl_pushPart_above true hup (by simp),
    foldl_pushPart_of_isPlain true hdown, hshared, ← List.reverse_append, List.take_append_drop]

theorem mem_wayParts {part : List Char} (hgoal : ∀ part ∈ goal, IsPlain part)
    (hpart : part ∈ wayParts origin goal) : part ≠ [] ∧ '/' ∉ part := by
  rcases List.mem_append.1 hpart with hpart | hpart
  · rw [List.eq_of_mem_replicate hpart]
    decide
  · have hplain := hgoal part (List.mem_of_mem_drop hpart)
    exact ⟨hplain.1, hplain.2.2.2⟩

/-- The parts of the path from a folder to a file are those of the way; a single dot stands for the
way from a folder to itself. -/
theorem parts_relativeChars (cwd : List Char) (horigin : ∀ part ∈ origin, IsPlain part)
    (hgoal : ∀ part ∈ goal, IsPlain part) :
    parts (relativeChars cwd (fromRoot goal) (fromRoot origin)) =
      if wayParts origin goal = [] then [['.']] else wayParts origin goal := by
  rw [relativeChars_fromRoot cwd horigin hgoal]
  by_cases hempty : wayParts origin goal = []
  · simp [hempty, parts, List.splitOn_cons_eq_if_modifyHead]
  · simp only [List.isEmpty_iff, hempty, if_false]
    exact List.splitOn_intercalate '/' (fun part hpart => (mem_wayParts hgoal hpart).2) hempty

theorem isAbsoluteChars_relativeChars (cwd : List Char) (horigin : ∀ part ∈ origin, IsPlain part)
    (hgoal : ∀ part ∈ goal, IsPlain part) :
    isAbsoluteChars (relativeChars cwd (fromRoot goal) (fromRoot origin)) = false := by
  have hparts := parts_relativeChars cwd horigin hgoal
  generalize relativeChars cwd (fromRoot goal) (fromRoot origin) = way at hparts ⊢
  cases way with
  | nil => rfl
  | cons c rest =>
    by_contra hslash
    obtain rfl : c = '/' := by simpa [isAbsoluteChars] using hslash
    -- the part before the slash would be empty
    have hfirst : parts ('/' :: rest) = [] :: parts rest := parts_append [] rest
    rw [hfirst] at hparts
    split at hparts
    · simp at hparts
    · have hmem : [] ∈ wayParts origin goal := hparts ▸ List.mem_cons_self
      exact (mem_wayParts hgoal hmem).1 rfl

/-- **The path from a folder to a file leads from the folder to the file.** -/
theorem absoluteChars_relativeChars (cwd cwd' : List Char) (horigin : ∀ part ∈ origin, IsPlain part)
    (hgoal : ∀ part ∈ goal, IsPlain part) :
    absoluteChars cwd' (joinChars (fromRoot origin)
      (relativeChars cwd (fromRoot goal) (fromRoot origin))) = fromRoot goal := by
  have habsolute : isAbsoluteChars (fromRoot origin) = true := rfl
  have hne : fromRoot origin ≠ [] := List.cons_ne_nil _ _
  have hrelative := isAbsoluteChars_relativeChars cwd horigin hgoal
  have hroots : roots (fromRoot origin) = 1 := roots_of_isPlain (Or.inl rfl) horigin
  have hstack : stackOf (joinChars (fromRoot origin)
      (relativeChars cwd (fromRoot goal) (fromRoot origin))) = goal.reverse := by
    rw [stackOf_joinChars hne hrelative, stackOf_fromRoot horigin,
      parts_relativeChars cwd horigin hgoal, ← foldl_pushPart_wayParts horigin hgoal]
    split
    · rename_i hempty
      rw [hempty]
      rfl
    · rfl
  have hjoined := isAbsoluteChars_joinChars
    (p := relativeChars cwd (fromRoot goal) (fromRoot origin)) habsolute
  rw [absoluteChars, joinChars_absolute cwd' hjoined, normalizeChars_of_absolute hjoined,
    roots_joinChars habsolute hrelative, hroots, hstack, List.reverse_reverse]
  rfl

/-- The way to a file has only the characters of the file's path, dots and slashes. -/
theorem mem_of_mem_relativeChars {c : Char} (horigin : ∀ part ∈ origin, IsPlain part)
    (hgoal : ∀ part ∈ goal, IsPlain part) (hslash : c ≠ '/') (hdot : c ≠ '.')
    (h : c ∈ relativeChars cwd (fromRoot goal) (fromRoot origin)) : c ∈ fromRoot goal := by
  rw [relativeChars_fromRoot cwd horigin hgoal] at h
  split at h
  · exact absurd (List.mem_singleton.1 h) hdot
  · obtain ⟨part, hpart, hc⟩ := (mem_intercalate hslash).1 h
    rcases List.mem_append.1 hpart with hpart | hpart
    · rw [List.eq_of_mem_replicate hpart] at hc
      simp [above, hdot] at hc
    · exact List.mem_cons_of_mem _
        ((mem_intercalate hslash).2 ⟨part, List.mem_of_mem_drop hpart, hc⟩)

/-! ### Folders above a folder -/

/-- Whether a path is that of a folder or of a folder above it, both paths being in normal form. -/
def AtOrAbove (a b : List Char) : Prop := a = b ∨ joinChars a [] <+: b

instance : Decidable (AtOrAbove a b) := inferInstanceAs (Decidable (_ ∨ _))

theorem atOrAbove_of_isPrefix (h : ∀ part ∈ goal, IsPlain part) (hstart : goal <+: origin) :
    AtOrAbove (fromRoot goal) (fromRoot origin) := by
  obtain ⟨rest, rfl⟩ := hstart
  by_cases hrest : rest = []
  · exact Or.inl (by rw [hrest, List.append_nil])
  · refine Or.inr ?_
    have hslash : '/' ∉ ([] : List Char) := List.not_mem_nil
    have hjoin : joinChars (fromRoot goal) [] = '/' :: ['/'].intercalate (goal ++ [[]]) :=
      joinChars_of_isPlain (Or.inl rfl) h hslash
    rw [hjoin, fromRoot, List.cons_prefix_cons]
    refine ⟨rfl, ?_⟩
    by_cases hgoal : goal = []
    · simp [hgoal]
    · rw [intercalate_append hgoal (by simp), intercalate_append hgoal hrest]
      simp

/-- The way to a file that is not above its start ends with the name of the file. -/
theorem exists_wayParts_concat (h : ¬goal <+: origin) :
    ∃ front last, last ∈ goal ∧ wayParts origin goal = front ++ [last] := by
  have hdown : goal.drop (commonLength origin goal) ≠ [] := by
    intro hempty
    have hgoal := List.take_append_drop (commonLength origin goal) goal
    rw [hempty, List.append_nil, ← take_commonLength] at hgoal
    exact h (hgoal ▸ List.take_prefix _ _)
  rcases List.eq_nil_or_concat (goal.drop (commonLength origin goal)) with
    hnil | ⟨others, last, hlast⟩
  · exact absurd hnil hdown
  · rw [List.concat_eq_append] at hlast
    refine ⟨List.replicate (origin.length - commonLength origin goal) above ++ others, last, ?_, ?_⟩
    · exact List.mem_of_mem_drop (hlast ▸ List.mem_append_right _ List.mem_cons_self)
    · rw [wayParts, hlast, List.append_assoc]

/-- The path from a folder to a file ends with a plain name unless it only goes up. -/
theorem isPlain_nameChars_relativeChars (cwd : List Char) (horigin : ∀ part ∈ origin, IsPlain part)
    (hgoal : ∀ part ∈ goal, IsPlain part) (h : ¬AtOrAbove (fromRoot goal) (fromRoot origin)) :
    IsPlain (nameChars (relativeChars cwd (fromRoot goal) (fromRoot origin))) := by
  have hstart : ¬goal <+: origin := fun hp => h (atOrAbove_of_isPrefix hgoal hp)
  obtain ⟨front, last, hlast, hway⟩ := exists_wayParts_concat hstart
  obtain ⟨others, hothers⟩ :=
    exists_parts_concat (relativeChars cwd (fromRoot goal) (fromRoot origin))
  rw [parts_relativeChars cwd horigin hgoal, if_neg (by simp [hway]), hway] at hothers
  have hname := List.append_inj_right' hothers rfl
  rw [← List.singleton_inj.1 hname]
  exact hgoal last hlast

/-- **The path from a folder to a file leads to the spelling of the file** unless the file is the
folder or above it. -/
theorem tidyChars_relativeChars (cwd cwd' : List Char) (horigin : ∀ part ∈ origin, IsPlain part)
    (hgoal : ∀ part ∈ goal, IsPlain part) (h : ¬AtOrAbove (fromRoot goal) (fromRoot origin)) :
    tidyChars cwd' (joinChars (fromRoot origin)
      (relativeChars cwd (fromRoot goal) (fromRoot origin))) = fromRoot goal := by
  have habsolute : isAbsoluteChars (fromRoot origin) = true := rfl
  have hroot : isAbsoluteChars ['/'] = true := rfl
  have hname := isPlain_nameChars_relativeChars cwd horigin hgoal h
  rw [← nameChars_joinChars (fromRoot origin)] at hname
  rw [tidyChars_of_absolute (isAbsoluteChars_joinChars habsolute) ['/'],
    tidyChars_eq_absoluteChars hroot hname, absoluteChars_relativeChars cwd _ horigin hgoal]

end KeywordCatalog.Path
