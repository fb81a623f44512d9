import KeywordCatalog.Proofs.Path
import Mathlib.Data.List.DropRight

/-!
# Paths inside a folder

The path of a folder can end with slashes, and it can go through other folders and come back. What
is inside the folder is the same for all of these spellings: the path above a file is the folder
without slashes (`Path.exists_folder`), and a name that is looked for inside the folder of a file
leads to the same spelling whether the file is spelled as it came or tidily (`Path.tidy_join`).
-/

namespace KeywordCatalog.Path

variable {p a b name : List Char}

theorem parts_append (p b : List Char) : parts (p ++ '/' :: b) = parts p ++ parts b := by
  induction p with
  | nil => simp [parts, List.splitOn_cons_eq_if_modifyHead]
  | cons c rest ih =>
    obtain ⟨first, others, hrest⟩ := List.exists_cons_of_ne_nil (List.splitOn_ne_nil '/' rest)
    rw [parts, parts, List.cons_append, List.splitOn_cons_eq_if_modifyHead,
      List.splitOn_cons_eq_if_modifyHead, ← parts, ih, parts, hrest]
    split <;> simp

theorem parts_append_name (hname : '/' ∉ name) : parts (p ++ '/' :: name) = parts p ++ [name] := by
  rw [parts_append, show parts name = [name] from List.splitOn_eq_singleton hname]

theorem parts_append_slashes (p : List Char) (k : Nat) :
    parts (p ++ List.replicate k '/') = parts p ++ List.replicate k [] := by
  induction k with
  | zero => simp
  | succ k ih =>
    have hname : '/' ∉ ([] : List Char) := List.not_mem_nil
    rw [List.replicate_succ', ← List.append_assoc, parts_append_name hname, ih,
      List.replicate_succ', List.append_assoc]

/-- The parts of a normal form are empty or plain. -/
theorem isPlain_of_mem_parts {part : List Char} (h : IsNormal p) (hpart : part ∈ parts p) :
    part = [] ∨ IsPlain part := by
  obtain ⟨k, found, -, hplain, rfl⟩ := h
  induction k with
  | zero =>
    cases found with
    | nil => exact Or.inl (List.mem_singleton.1 hpart)
    | cons first rest =>
      have hslash : ∀ part ∈ first :: rest, '/' ∉ part := fun part hmem => (hplain part hmem).2.2.2
      rw [List.replicate_zero, List.nil_append, parts,
        List.splitOn_intercalate '/' hslash (List.cons_ne_nil _ _)] at hpart
      exact Or.inr (hplain part hpart)
  | succ k ih =>
    rw [List.replicate_succ, List.cons_append, ← List.nil_append ('/' :: _), parts_append,
      List.mem_append] at hpart
    rcases hpart with hempty | hpart
    · exact Or.inl (List.mem_singleton.1 hempty)
    · exact ih hpart

theorem joinChars_append (ha : a ≠ []) : joinChars p (a ++ b) = joinChars p a ++ b := by
  obtain ⟨c, rest, rfl⟩ := List.exists_cons_of_ne_nil ha
  have habsolute : isAbsoluteChars (c :: rest ++ b) = isAbsoluteChars (c :: rest) := rfl
  unfold joinChars
  rw [habsolute]
  split
  · rfl
  split <;> simp

theorem joinChars_append_absolute (p a : List Char) (hb : isAbsoluteChars b = true) :
    joinChars p (a ++ b) = (if a = [] then [] else joinChars p a) ++ b := by
  split
  · rename_i hempty
    rw [hempty]
    exact joinChars_absolute p hb
  · rename_i hne
    exact joinChars_append hne

theorem exists_append_slashes (p : List Char) :
    ∃ k, p = Text.dropTrailing (· == '/') p ++ List.replicate k '/' := by
  have hslashes : ∀ c ∈ p.reverse.takeWhile (· == '/'), c = '/' := fun c hc => by
    simpa using List.mem_takeWhile_imp hc
  refine ⟨(p.reverse.takeWhile (· == '/')).length, ?_⟩
  rw [← List.reverse_replicate, ← List.eq_replicate_length.2 hslashes, Text.dropTrailing,
    ← List.reverse_append, List.takeWhile_append_dropWhile, List.reverse_reverse]

theorem dropTrailing_append_slashes (p : List Char) (k : Nat) :
    Text.dropTrailing (· == '/') (Text.dropTrailing (· == '/') p ++ List.replicate k '/') =
      Text.dropTrailing (· == '/') p := by
  have hslashes : ∀ c ∈ List.replicate k '/', (c == '/') = true := fun c hc => by
    simpa using List.eq_of_mem_replicate hc
  simp only [Text.dropTrailing, List.reverse_append, List.reverse_replicate, List.reverse_reverse,
    List.dropWhile_append_of_pos hslashes, List.dropWhile_idempotent (· == '/')]

theorem getLast?_dropTrailing (p : List Char) :
    (Text.dropTrailing (· == '/') p).getLast? ≠ some '/' := by
  intro hlast
  have hne : Text.dropTrailing (· == '/') p ≠ [] := by
    intro hempty
    simp [hempty] at hlast
  have hnot := List.rdropWhile_last_not (· == '/') p hne
  rw [List.getLast?_eq_some_getLast hne, Option.some.injEq] at hlast
  exact hnot (beq_iff_eq.2 hlast)

theorem getLast?_append_of_ne_nil (ha : a ≠ []) : (p ++ a).getLast? = a.getLast? := by
  simp [List.getLast?_append, List.getLast?_eq_some_getLast ha]

theorem exists_joinChars_eq_append (p a : List Char) : ∃ front, joinChars p a = front ++ a := by
  cases ha : isAbsoluteChars a with
  | true => exact ⟨[], joinChars_absolute p ha⟩
  | false => exact ⟨_, joinChars_eq_append ha⟩

/-- The path of a folder is some path with slashes at its end; what is in the folder has at least
one slash there, and the path above it has none unless there is nothing else. -/
theorem exists_folder (ha : a ≠ []) : ∃ k m, a = Text.dropTrailing (· == '/') a ++ List.replicate k '/' ∧
    ∀ name, '/' ∉ name →
      joinChars a name = Text.dropTrailing (· == '/') a ++ List.replicate m '/' ++ '/' :: name ∧
      parentChars (joinChars a name) =
        if (Text.dropTrailing (· == '/') a).isEmpty then a else Text.dropTrailing (· == '/') a := by
  obtain ⟨k, hk⟩ := exists_append_slashes a
  generalize hbase : Text.dropTrailing (· == '/') a = base at hk
  have hdrop (n : Nat) : Text.dropTrailing (· == '/') (base ++ List.replicate n '/') = base := by
    rw [← hbase, dropTrailing_append_slashes]
  obtain ⟨m, hm⟩ : ∃ m, joinChars a [] = base ++ List.replicate m '/' ++ ['/'] ∧
      (base = [] → joinChars a [] = a) := by
    cases k with
    | zero =>
      have hbase' : a = base := by simpa using hk
      have hlast : a.getLast? ≠ some '/' := hbase' ▸ hbase ▸ getLast?_dropTrailing a
      have hjoin : joinChars a [] = a ++ ['/'] := by simp [joinChars, isAbsoluteChars, hlast, ha]
      exact ⟨0, by simpa [← hbase'] using hjoin, fun hempty => absurd (hbase'.trans hempty) ha⟩
    | succ k =>
      have hlast : a = base ++ List.replicate k '/' ++ ['/'] := by
        rw [hk, List.replicate_succ', List.append_assoc]
      have hjoin : joinChars a [] = a := by
        rw [hlast]
        simp [joinChars, isAbsoluteChars]
      exact ⟨k, hjoin.trans hlast, fun _ => hjoin⟩
  refine ⟨k, m, hk, fun name hname => ?_⟩
  have hjoin : joinChars a name = joinChars a [] ++ name :=
    joinChars_eq_append (isAbsoluteChars_of_not_mem hname)
  refine ⟨by simp [hjoin, hm.1], ?_⟩
  have hslashes : joinChars a [] = base ++ List.replicate (m + 1) '/' := by
    rw [hm.1, List.replicate_succ', List.append_assoc]
  rw [hjoin, parentChars_append endsFolder_joinChars_nil hname]
  rw [hslashes, hdrop, ← hslashes]
  by_cases hempty : base = []
  · simp [hempty, hm.2 hempty]
  · simp [hempty]

/-! ### Normal forms of joined paths -/

/-- The stack of parts that a path leaves. -/
def stackOf (p : List Char) : List (List Char) := (parts p).foldl (pushPart true) []

theorem stackOf_append (a b : List Char) :
    stackOf (a ++ '/' :: b) = (parts b).foldl (pushPart true) (stackOf a) := by
  rw [stackOf, parts_append, List.foldl_append, stackOf]

theorem stackOf_append_slashes (a : List Char) (k : Nat) :
    stackOf (a ++ List.replicate k '/') = stackOf a := by
  rw [stackOf, parts_append_slashes, List.foldl_append, ← stackOf]
  induction k with
  | zero => rfl
  | succ k ih =>
    rw [List.replicate_succ, List.foldl_cons]
    exact ih

theorem stackOf_joinChars (ha : a ≠ []) (hb : isAbsoluteChars b = false) :
    stackOf (joinChars a b) = (parts b).foldl (pushPart true) (stackOf a) := by
  rw [joinChars, if_neg (by simp [hb])]
  split
  · rename_i hlast
    obtain ⟨front, rfl⟩ : ∃ front, a = front ++ ['/'] := by
      have hlast : a.getLast? = some '/' := by simpa [ha] using hlast
      exact List.getLast?_eq_some_iff.1 hlast
    have hfront : stackOf (front ++ ['/']) = stackOf front := stackOf_append_slashes front 1
    rw [List.append_assoc, List.singleton_append, stackOf_append, hfront]
  · exact stackOf_append a b

/-- What follows a path does not change the slashes at its start. -/
theorem roots_append (ha : isAbsoluteChars a = true)
    (hb : isAbsoluteChars b = false ∨ a.getLast? ≠ some '/') : roots (a ++ b) = roots a := by
  obtain ⟨rest, rfl⟩ : ∃ rest, a = '/' :: rest := by
    cases a with
    | nil => cases ha
    | cons c rest => exact ⟨rest, by simpa [isAbsoluteChars] using ha⟩
  have hhead (hslash : ('/' :: rest).getLast? = some '/') : b = [] ∨ ∃ c tail, b = c :: tail ∧ c ≠ '/' := by
    cases b with
    | nil => exact Or.inl rfl
    | cons c tail =>
      exact Or.inr ⟨c, tail, rfl, by simpa [isAbsoluteChars] using hb.resolve_right (not_not_intro hslash)⟩
  rcases rest with _ | ⟨d, _ | ⟨e, rest⟩⟩
  · rcases hhead rfl with rfl | ⟨c, tail, rfl, hc⟩
    · rfl
    · simp [roots, hc]
  · by_cases hd : d = '/'
    · subst hd
      rcases hhead rfl with rfl | ⟨c, tail, rfl, hc⟩
      · rfl
      · simp [roots, hc]
    · simp [roots, hd]
  · by_cases hd : d = '/' <;> by_cases he : e = '/' <;> simp [roots, hd, he]

/-- What is inside a folder starts with the slashes of the folder. -/
theorem roots_joinChars (ha : isAbsoluteChars a = true) (hb : isAbsoluteChars b = false) :
    roots (joinChars a b) = roots a := by
  rw [joinChars, if_neg (by simp [hb])]
  split
  · exact roots_append ha (Or.inl hb)
  · rename_i hlast
    exact roots_append ha (Or.inr fun e => hlast (by simp [e]))

theorem plainParts_of_absolute (h : isAbsoluteChars p = true) :
    plainParts p = (stackOf p).reverse := by
  have hrooted : (roots p != 0) = true := by
    rcases roots_of_absolute h with hr | hr <;> rw [hr] <;> rfl
  rw [plainParts, hrooted, stackOf]

theorem normalizeChars_of_absolute (h : isAbsoluteChars p = true) :
    normalizeChars p = List.replicate (roots p) '/' ++ ['/'].intercalate (stackOf p).reverse := by
  rw [normalizeChars, plainParts_of_absolute h]
  refine if_neg ?_
  rcases roots_of_absolute h with hr | hr <;> simp [hr]

/-- A path and its normal form leave the same parts and start with the same slashes. -/
theorem normalizeChars_same (h : isAbsoluteChars p = true) :
    stackOf (normalizeChars p) = stackOf p ∧ roots (normalizeChars p) = roots p := by
  have hplain : ∀ part ∈ (stackOf p).reverse, IsPlain part := fun part hpart =>
    isPlain_foldl_pushPart (by simp) (fun q hq => not_mem_of_mem_parts hq) part
      (List.mem_reverse.1 hpart)
  have hroots : roots (normalizeChars p) = roots p := by
    rw [normalizeChars_of_absolute h, roots_of_isPlain (roots_of_absolute h) hplain]
  have habsolute := isAbsoluteChars_of_isNormal (isNormal_normalizeChars h)
  refine ⟨List.reverse_injective ?_, hroots⟩
  rw [← plainParts_of_absolute habsolute, normalizeChars_of_absolute h]
  refine plainParts_of_isPlain _ hplain ?_
  rw [roots_of_isPlain (roots_of_absolute h) hplain]
  rcases roots_of_absolute h with hr | hr <;> rw [hr] <;> rfl

/-- What is inside a folder can be looked for inside the normal form of the folder. -/
theorem normalizeChars_joinChars (ha : isAbsoluteChars a = true) (hb : isAbsoluteChars b = false) :
    normalizeChars (joinChars (normalizeChars a) b) = normalizeChars (joinChars a b) := by
  obtain ⟨hstack, hroots⟩ := normalizeChars_same ha
  have hnormal := isAbsoluteChars_of_isNormal (isNormal_normalizeChars ha)
  have hne {q : List Char} (hq : isAbsoluteChars q = true) : q ≠ [] := by
    rintro rfl
    cases hq
  rw [normalizeChars_of_absolute (isAbsoluteChars_joinChars hnormal),
    normalizeChars_of_absolute (isAbsoluteChars_joinChars ha), roots_joinChars hnormal hb,
    roots_joinChars ha hb, hroots, stackOf_joinChars (hne hnormal) hb, stackOf_joinChars (hne ha) hb,
    hstack]

/-! ### Files inside a folder -/

theorem joinChars_nil_of_endsFolder (h : EndsFolder a) : joinChars a [] = a := by
  rcases h with rfl | h
  · rfl
  · simp [joinChars, isAbsoluteChars, h]

theorem joinChars_append_nil (ha : a ≠ []) (p : List Char) :
    joinChars (p ++ a) [] = p ++ joinChars a [] := by
  have hempty : isAbsoluteChars [] = false := rfl
  simp only [joinChars, hempty, Bool.false_eq_true, if_false, getLast?_append_of_ne_nil ha,
    Bool.or_eq_true, List.isEmpty_iff, List.append_eq_nil_iff, ha, and_false, false_or]
  split <;> simp

theorem isAbsoluteChars_append (ha : a ≠ []) : isAbsoluteChars (a ++ b) = isAbsoluteChars a := by
  obtain ⟨c, rest, rfl⟩ := List.exists_cons_of_ne_nil ha
  rfl

theorem joinChars_joinChars (p a : List Char) (hb : isAbsoluteChars b = false) :
    joinChars p (joinChars a b) = joinChars (joinChars p a) b := by
  cases habsolute : isAbsoluteChars a with
  | true =>
    rw [joinChars_absolute p (isAbsoluteChars_joinChars habsolute), joinChars_absolute p habsolute]
  | false =>
    by_cases hempty : a = []
    · rw [hempty, joinChars_nil, joinChars_eq_append hb, joinChars_eq_append (a := joinChars p []) hb,
        joinChars_nil_of_endsFolder endsFolder_joinChars_nil]
    · have hfolder : ∃ rest, joinChars a [] = a ++ rest := by
        unfold joinChars
        split
        · contradiction
        split
        · exact ⟨_, rfl⟩
        · exact ⟨_, rfl⟩
      obtain ⟨rest, hrest⟩ := hfolder
      have hne : joinChars a [] ≠ [] := by simp [hrest, hempty]
      have hrelative : isAbsoluteChars (joinChars a []) = false := by
        rw [hrest, isAbsoluteChars_append hempty, habsolute]
      calc joinChars p (joinChars a b)
          = joinChars p [] ++ joinChars a [] ++ b := by
            rw [joinChars_eq_append hb, joinChars_append hne, joinChars_eq_append hrelative]
        _ = joinChars (joinChars p a) b := by
            rw [joinChars_eq_append (a := joinChars p a) hb, joinChars_eq_append habsolute,
              joinChars_append_nil hempty]

/-- The spelling of a file in a folder: the folder made absolute and normalised, and the name. -/
theorem tidyChars_append (hcwd : isAbsoluteChars cwd = true) (ha : EndsFolder a)
    (hname : '/' ∉ name) : tidyChars cwd (a ++ name) = joinChars (absoluteChars cwd a) name := by
  rw [tidyChars, nameChars_append ha hname, parentChars_append ha hname]
  split
  · rfl
  rename_i hbare
  obtain ⟨k, hk⟩ := exists_append_slashes a
  generalize hbase : Text.dropTrailing (· == '/') a = base at hk hbare ⊢
  have hne : base ≠ [] := by simpa using hbare
  have hlast : base.getLast? ≠ some '/' := hbase ▸ getLast?_dropTrailing a
  have hjoin : joinChars cwd a = joinChars cwd base ++ List.replicate k '/' := by
    rw [hk, joinChars_append hne]
  have hlast' : (joinChars cwd base).getLast? ≠ some '/' := by
    obtain ⟨front, hfront⟩ := exists_joinChars_eq_append cwd base
    rwa [hfront, getLast?_append_of_ne_nil hne]
  have habsolute := isAbsoluteChars_joinChars (p := base) hcwd
  rw [absoluteChars, absoluteChars, hjoin, normalizeChars_of_absolute habsolute,
    normalizeChars_of_absolute (hjoin ▸ isAbsoluteChars_joinChars hcwd),
    roots_append habsolute (Or.inr hlast'), stackOf_append_slashes]

/-- What is looked for inside a folder can be looked for inside its absolute path. -/
theorem tidyChars_joinChars (hcwd : isAbsoluteChars cwd = true) (a b : List Char) :
    tidyChars cwd (joinChars (absoluteChars cwd a) b) = tidyChars cwd (joinChars a b) := by
  cases hb : isAbsoluteChars b with
  | true => rw [joinChars_absolute _ hb, joinChars_absolute _ hb]
  | false =>
    obtain ⟨front, hends, hfront⟩ := exists_append_nameChars b
    have hrelative : isAbsoluteChars front = false := by
      by_cases hempty : front = []
      · rw [hempty]
        rfl
      · rw [hfront, isAbsoluteChars_append hempty] at hb
        exact hb
    have hsplit (q : List Char) : joinChars q b = joinChars q front ++ nameChars b := by
      rw [joinChars_eq_append hb, joinChars_eq_append hrelative, List.append_assoc, ← hfront]
    have hspelled (q : List Char) : tidyChars cwd (joinChars q b) =
        joinChars (normalizeChars (joinChars (joinChars cwd q) front)) (nameChars b) := by
      have hfolder : EndsFolder (joinChars q front) := by
        rw [joinChars_eq_append hrelative]
        exact hends.append endsFolder_joinChars_nil
      rw [hsplit, tidyChars_append hcwd hfolder (not_mem_nameChars b), absoluteChars,
        joinChars_joinChars _ _ hrelative]
    have hnormal := isAbsoluteChars_of_isNormal (isNormal_absoluteChars (p := a) hcwd)
    rw [hspelled, hspelled, joinChars_absolute cwd hnormal, absoluteChars,
      normalizeChars_joinChars (isAbsoluteChars_joinChars hcwd) hrelative]

/-- **What is looked for in the folder of a file is found alike for all spellings of the file.** -/
theorem tidy_join {cwd : String} (hcwd : isAbsolute cwd = true) (p name : String) :
    tidy cwd (join (parent (tidy cwd p)) name) = tidy cwd (join (parent p) name) := by
  have hparent : parentChars (tidyChars cwd.toList p.toList) =
      absoluteChars cwd.toList (parentChars p.toList) :=
    parentChars_joinChars (isNormal_absoluteChars hcwd) (not_mem_nameChars _)
  simp only [tidy, join, parent, String.toList_ofList, hparent, tidyChars_joinChars hcwd]

end KeywordCatalog.Path
