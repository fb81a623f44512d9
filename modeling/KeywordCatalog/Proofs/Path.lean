import KeywordCatalog.Path
import Mathlib.Data.List.TakeWhile

/-!
# The spelling of paths

A path in normal form starts with one or two slashes, followed by plain parts: parts that are not
empty and are no dots (`Path.IsNormal`). Normalising an absolute path gives a normal form, and a
normal form is normalised already. From this it follows that the spelling under which a file is
known is its own spelling, whatever the working folder (`Path.tidy_tidy`), and that it keeps the
name of the file (`Path.name_tidy`).
-/

namespace KeywordCatalog.Path

open Text

/-- Whether a part stands for itself in a path. -/
def IsPlain (part : List Char) : Prop := part ≠ [] ∧ part ≠ ['.'] ∧ part ≠ above ∧ '/' ∉ part

/-- Whether a path is in normal form. -/
def IsNormal (p : List Char) : Prop :=
  ∃ k parts, (k = 1 ∨ k = 2) ∧ (∀ part ∈ parts, IsPlain part) ∧
    p = List.replicate k '/' ++ ['/'].intercalate parts

variable {p a b cwd part : List Char} {stack found : List (List Char)}

/-! ### Normal forms -/

theorem pushPart_of_isPlain (rooted : Bool) (h : IsPlain part) :
    pushPart rooted stack part = part :: stack := by
  obtain ⟨hne, hdot, habove, -⟩ := h
  simp [pushPart, hne, hdot, habove]

theorem foldl_pushPart_of_isPlain (rooted : Bool) (h : ∀ part ∈ found, IsPlain part) :
    found.foldl (pushPart rooted) stack = found.reverse ++ stack := by
  induction found generalizing stack with
  | nil => rfl
  | cons part rest ih =>
    rw [List.foldl_cons, pushPart_of_isPlain rooted (h part List.mem_cons_self),
      ih fun q hq => h q (List.mem_cons_of_mem _ hq)]
    simp

/-- At the root, only plain parts get onto the stack. -/
theorem isPlain_pushPart (hs : ∀ q ∈ stack, IsPlain q) (hp : '/' ∉ part) :
    ∀ q ∈ pushPart true stack part, IsPlain q := by
  unfold pushPart
  split
  · exact hs
  · rename_i hdots
    split
    · cases stack with
      | nil => simp
      | cons top rest =>
        have htop := hs top List.mem_cons_self
        simp only [beq_iff_eq, htop.2.2.1, if_false]
        exact fun q hq => hs q (List.mem_cons_of_mem _ hq)
    · rename_i habove
      intro q hq
      rcases List.mem_cons.1 hq with rfl | hq
      · simp only [Bool.or_eq_true, List.isEmpty_iff, beq_iff_eq, not_or] at hdots
        exact ⟨hdots.1, hdots.2, by simpa using habove, hp⟩
      · exact hs q hq

theorem isPlain_foldl_pushPart (hs : ∀ q ∈ stack, IsPlain q) (hp : ∀ part ∈ found, '/' ∉ part) :
    ∀ q ∈ found.foldl (pushPart true) stack, IsPlain q := by
  induction found generalizing stack with
  | nil => exact hs
  | cons part rest ih =>
    exact ih (isPlain_pushPart hs (hp part List.mem_cons_self))
      fun q hq => hp q (List.mem_cons_of_mem _ hq)

theorem not_mem_of_mem_parts (h : part ∈ parts p) : '/' ∉ part := by
  induction p generalizing part with
  | nil =>
    rw [parts, List.splitOn_nil, List.mem_singleton] at h
    simp [h]
  | cons c rest ih =>
    rw [parts, List.splitOn_cons_eq_if_modifyHead] at h
    split at h
    · rcases List.mem_cons.1 h with rfl | h
      · simp
      · exact ih h
    · rename_i hc
      obtain ⟨first, others, hsplit⟩ := List.exists_cons_of_ne_nil (List.splitOn_ne_nil '/' rest)
      rw [hsplit, List.modifyHead_cons] at h
      have hmem : ∀ q ∈ first :: others, '/' ∉ q := fun q hq => ih (by rwa [parts, hsplit])
      rcases List.mem_cons.1 h with rfl | h
      · have hfirst := hmem first List.mem_cons_self
        simp only [beq_iff_eq] at hc
        simp [hfirst, Ne.symm hc]
      · exact hmem part (List.mem_cons_of_mem _ h)

theorem roots_of_absolute (h : isAbsoluteChars p = true) : roots p = 1 ∨ roots p = 2 := by
  rcases p with _ | ⟨c, rest⟩
  · simp [isAbsoluteChars] at h
  · obtain rfl : c = '/' := by simpa [isAbsoluteChars] using h
    unfold roots
    split <;> simp_all

theorem isNormal_normalizeChars (h : isAbsoluteChars p = true) : IsNormal (normalizeChars p) := by
  have hroots := roots_of_absolute h
  refine ⟨roots p, plainParts p, hroots, ?_, ?_⟩
  · intro part hpart
    have hrooted : (roots p != 0) = true := by
      rcases hroots with hr | hr <;> rw [hr] <;> rfl
    unfold plainParts at hpart
    rw [hrooted, List.mem_reverse] at hpart
    exact isPlain_foldl_pushPart (by simp) (fun q hq => not_mem_of_mem_parts hq) part hpart
  · unfold normalizeChars
    refine if_neg ?_
    rcases hroots with hr | hr <;> simp [hr]

theorem isAbsoluteChars_of_isNormal (h : IsNormal p) : isAbsoluteChars p = true := by
  obtain ⟨k, found, rfl | rfl, -, rfl⟩ := h <;> rfl

/-- The parts of a normal form are an empty part for each slash at its start, and its plain parts;
without plain parts there is one more empty part. -/
theorem plainParts_of_isPlain (k : ℕ) (h : ∀ part ∈ found, IsPlain part)
    (hr : (roots (List.replicate k '/' ++ ['/'].intercalate found) != 0) = true) :
    plainParts (List.replicate k '/' ++ ['/'].intercalate found) = found := by
  have hslashes : ∀ k, (parts (List.replicate k '/' ++ ['/'].intercalate found)).foldl
      (pushPart true) [] = found.reverse := by
    intro k
    induction k with
    | zero =>
      cases hfound : found with
      | nil => rfl
      | cons first rest =>
        rw [← hfound, List.replicate_zero, List.nil_append, parts,
          List.splitOn_intercalate '/' (fun part hpart => (h part hpart).2.2.2) (by simp [hfound]),
          foldl_pushPart_of_isPlain true h, List.append_nil]
    | succ k ih =>
      rw [List.replicate_succ, List.cons_append, parts, List.splitOn_cons_eq_if_modifyHead]
      exact ih
  rw [plainParts, hr, hslashes k, List.reverse_reverse]

theorem roots_of_isPlain {k : ℕ} (hk : k = 1 ∨ k = 2) (h : ∀ part ∈ found, IsPlain part) :
    roots (List.replicate k '/' ++ ['/'].intercalate found) = k := by
  have hhead : ['/'].intercalate found = [] ∨ ∃ c rest, c ≠ '/' ∧
      ['/'].intercalate found = c :: rest := by
    cases found with
    | nil => exact Or.inl rfl
    | cons first rest =>
      obtain ⟨hne, -, -, hslash⟩ := h first List.mem_cons_self
      obtain ⟨c, tail, rfl⟩ := List.exists_cons_of_ne_nil hne
      refine Or.inr ⟨c, ?_⟩
      cases rest with
      | nil => exact ⟨tail, fun hc => hslash (by simp [hc]), by simp [List.intercalate]⟩
      | cons second others =>
        exact ⟨tail ++ '/' :: ['/'].intercalate (second :: others),
          fun hc => hslash (by simp [hc]), by simp⟩
  rcases hk with rfl | rfl <;> rcases hhead with hnil | ⟨c, rest, hc, hcons⟩
  · rw [hnil]
    rfl
  · rw [hcons]
    simp [roots, hc]
  · rw [hnil]
    rfl
  · rw [hcons]
    simp [roots, hc]

/-- A normal form is normalised already. -/
theorem normalizeChars_of_isNormal (h : IsNormal p) : normalizeChars p = p := by
  obtain ⟨k, found, hk, hplain, rfl⟩ := h
  have hroots := roots_of_isPlain hk hplain
  have hrooted : (k != 0) = true := by rcases hk with rfl | rfl <;> rfl
  unfold normalizeChars
  rw [plainParts_of_isPlain k hplain (by rw [hroots, hrooted]), hroots]
  refine if_neg ?_
  rcases hk with rfl | rfl <;> simp

/-! ### Names and folders -/

theorem not_mem_nameChars (p : List Char) : '/' ∉ nameChars p := by
  intro h
  rw [nameChars, trailing, List.mem_reverse] at h
  simpa using List.mem_takeWhile_imp h

/-- Whether a path is empty or ends with a slash. -/
def EndsFolder (p : List Char) : Prop := p = [] ∨ p.getLast? = some '/'

theorem nameChars_append (ha : EndsFolder a) (hb : '/' ∉ b) : nameChars (a ++ b) = b := by
  have hall : ∀ c ∈ b.reverse, (c != '/') = true := by
    intro c hc
    simpa using fun e : c = '/' => hb (e ▸ List.mem_reverse.1 hc)
  have hstop : a.reverse.takeWhile (· != '/') = [] := by
    rcases ha with rfl | ha
    · rfl
    · rw [← List.head?_reverse] at ha
      cases hr : a.reverse with
      | nil => rfl
      | cons c rest =>
        rw [hr, List.head?_cons, Option.some.injEq] at ha
        simp [ha]
  rw [nameChars, trailing, List.reverse_append, List.takeWhile_append_of_pos hall, hstop,
    List.append_nil, List.reverse_reverse]

theorem parentChars_append (ha : EndsFolder a) (hb : '/' ∉ b) :
    parentChars (a ++ b) =
      if (dropTrailing (· == '/') a).isEmpty then a else dropTrailing (· == '/') a := by
  have hhead : (a ++ b).take ((a ++ b).length - b.length) = a := by simp
  rw [parentChars, nameChars_append ha hb, hhead]

theorem isAbsoluteChars_of_not_mem (hb : '/' ∉ b) : isAbsoluteChars b = false := by
  cases b with
  | nil => rfl
  | cons c rest => simpa [isAbsoluteChars] using fun e : c = '/' => hb (by simp [e])

theorem joinChars_eq_append (hb : isAbsoluteChars b = false) :
    joinChars a b = joinChars a [] ++ b := by
  have hempty : isAbsoluteChars [] = false := rfl
  simp only [joinChars, hb, hempty, Bool.false_eq_true, if_false]
  split <;> simp

theorem endsFolder_joinChars_nil : EndsFolder (joinChars a []) := by
  have hempty : isAbsoluteChars [] = false := rfl
  simp only [joinChars, hempty, Bool.false_eq_true, if_false]
  split
  · rename_i h
    simpa [EndsFolder] using h
  · exact Or.inr (by simp)

theorem EndsFolder.append (h : EndsFolder b) (ha : EndsFolder a) : EndsFolder (a ++ b) := by
  rcases h with rfl | h
  · simpa using ha
  · exact Or.inr (by simp [List.getLast?_append, h])

theorem exists_append_nameChars (p : List Char) :
    ∃ front, EndsFolder front ∧ p = front ++ nameChars p := by
  refine ⟨(p.reverse.dropWhile (· != '/')).reverse, ?_, ?_⟩
  · rcases List.eq_nil_or_concat (p.reverse.dropWhile (· != '/')).reverse with hnil | ⟨_, c, hfront⟩
    · exact Or.inl hnil
    · rw [List.concat_eq_append] at hfront
      have hhead : (p.reverse.dropWhile (· != '/')).head? = some c := by
        rw [← List.getLast?_reverse, hfront, List.getLast?_concat]
      have hc := List.head?_dropWhile_not (· != '/') p.reverse
      rw [hhead] at hc
      exact Or.inr (by rw [hfront, List.getLast?_concat]; simpa using hc)
  · rw [nameChars, trailing, ← List.reverse_append, List.takeWhile_append_dropWhile,
      List.reverse_reverse]

/-- Putting a folder in front of a path leaves the name of the path. -/
theorem nameChars_joinChars (a b : List Char) : nameChars (joinChars a b) = nameChars b := by
  cases hb : isAbsoluteChars b with
  | true => rw [joinChars_absolute a hb]
  | false =>
    obtain ⟨front, hends, hfront⟩ := exists_append_nameChars b
    have hsplit : joinChars a [] ++ b = joinChars a [] ++ front ++ nameChars b := by
      rw [List.append_assoc, ← hfront]
    rw [joinChars_eq_append hb, hsplit]
    exact nameChars_append (hends.append endsFolder_joinChars_nil) (not_mem_nameChars b)

theorem nameChars_of_not_mem (hb : '/' ∉ b) : nameChars b = b := nameChars_append (Or.inl rfl) hb

theorem exists_intercalate_concat (others : List (List Char)) (last : List Char) :
    ∃ front, EndsFolder front ∧ ['/'].intercalate (others ++ [last]) = front ++ last := by
  induction others with
  | nil => exact ⟨[], Or.inl rfl, by simp⟩
  | cons first rest ih =>
    obtain ⟨front, hends, hfront⟩ := ih
    refine ⟨first ++ ['/'] ++ front, hends.append (Or.inr (by simp)), ?_⟩
    rw [List.cons_append, List.intercalate_cons_of_ne_nil (by simp), hfront]
    simp

/-- The last part of a path is its name. -/
theorem exists_parts_concat (p : List Char) : ∃ others, parts p = others ++ [nameChars p] := by
  rcases List.eq_nil_or_concat (parts p) with hnil | ⟨others, last, hparts⟩
  · exact absurd hnil (List.splitOn_ne_nil '/' p)
  · rw [List.concat_eq_append] at hparts
    obtain ⟨front, hends, hfront⟩ := exists_intercalate_concat others last
    have hlast : '/' ∉ last := not_mem_of_mem_parts (p := p) (by simp [hparts])
    have hp : p = front ++ last := by
      rw [← hfront, ← hparts]
      exact (List.intercalate_splitOn '/').symm
    exact ⟨others, by rw [hparts, hp, nameChars_append hends hlast]⟩

/-- A normal form is made of slashes only or ends with a plain part. -/
theorem IsNormal.cases (h : IsNormal p) :
    (∃ k, p = List.replicate k '/' ∧ p ≠ []) ∨ ∃ start c, p = start ++ [c] ∧ c ≠ '/' := by
  obtain ⟨k, found, hk, hplain, rfl⟩ := h
  rcases List.eq_nil_or_concat found with rfl | ⟨others, last, rfl⟩
  · refine Or.inl ⟨k, by simp [List.intercalate], ?_⟩
    rcases hk with rfl | rfl <;> simp
  · obtain ⟨hne, -, -, hslash⟩ := hplain last (by simp)
    obtain ⟨start, c, rfl⟩ : ∃ start c, last = start ++ [c] := by
      rcases List.eq_nil_or_concat last with rfl | ⟨start, c, rfl⟩
      · exact absurd rfl hne
      · exact ⟨start, c, by simp⟩
    have hc : c ≠ '/' := fun e => hslash (by simp [e])
    obtain ⟨front, -, hfront⟩ := exists_intercalate_concat others (start ++ [c])
    exact Or.inr ⟨List.replicate k '/' ++ front ++ start, c, by simp [hfront], hc⟩

/-- A file in a folder has that folder above it. -/
theorem parentChars_joinChars (ha : IsNormal a) (hb : '/' ∉ b) :
    parentChars (joinChars a b) = a := by
  rw [joinChars_eq_append (isAbsoluteChars_of_not_mem hb),
    parentChars_append endsFolder_joinChars_nil hb]
  have hempty : isAbsoluteChars [] = false := rfl
  rcases ha.cases with ⟨k, rfl, hne⟩ | ⟨start, c, rfl, hc⟩
  · have hjoin : joinChars (List.replicate k '/') [] = List.replicate k '/' := by
      cases k with
      | zero => rfl
      | succ k => simp [joinChars, hempty, List.getLast?_replicate]
    rw [hjoin]
    simp [dropTrailing]
  · have hjoin : joinChars (start ++ [c]) [] = start ++ [c] ++ ['/'] := by
      simp [joinChars, hempty, hc]
    rw [hjoin]
    simp [dropTrailing, hc]

/-! ### The spelling of files -/

theorem isAbsoluteChars_joinChars (h : isAbsoluteChars cwd = true) :
    isAbsoluteChars (joinChars cwd p) = true := by
  unfold joinChars
  split
  · assumption
  · obtain ⟨c, rest, rfl⟩ : ∃ c rest, cwd = c :: rest := by
      cases cwd with
      | nil => simp [isAbsoluteChars] at h
      | cons c rest => exact ⟨c, rest, rfl⟩
    split <;> exact h

theorem isNormal_absoluteChars (h : isAbsoluteChars cwd = true) : IsNormal (absoluteChars cwd p) :=
  isNormal_normalizeChars (isAbsoluteChars_joinChars h)

theorem absoluteChars_of_isNormal (h : IsNormal p) : absoluteChars cwd p = p := by
  rw [absoluteChars, joinChars_absolute cwd (isAbsoluteChars_of_isNormal h),
    normalizeChars_of_isNormal h]

theorem nameChars_tidyChars : nameChars (tidyChars cwd p) = nameChars p :=
  (nameChars_joinChars _ _).trans (nameChars_of_not_mem (not_mem_nameChars p))

theorem nameChars_suffix_tidyChars (cwd p : List Char) : nameChars p <:+ tidyChars cwd p := by
  rw [tidyChars, joinChars_eq_append (isAbsoluteChars_of_not_mem (not_mem_nameChars p))]
  exact List.suffix_append _ _

/-- An end of a path without slashes is an end of its name. -/
theorem suffix_nameChars {ending : List Char} (hslash : '/' ∉ ending) (h : ending <:+ p) :
    ending <:+ nameChars p := by
  obtain ⟨front, rfl⟩ := h
  obtain ⟨folder, hends, hfolder⟩ := exists_append_nameChars front
  have hname : nameChars (front ++ ending) = nameChars front ++ ending := by
    have hsplit : front ++ ending = folder ++ (nameChars front ++ ending) := by
      rw [← List.append_assoc, ← hfolder]
    rw [hsplit]
    exact nameChars_append hends (by simp [not_mem_nameChars, hslash])
  rw [hname]
  exact List.suffix_append _ _

/-- The spelling of a file is its own spelling. -/
theorem tidyChars_tidyChars (h : isAbsoluteChars cwd = true) (cwd' : List Char) :
    tidyChars cwd' (tidyChars cwd p) = tidyChars cwd p := by
  have hnormal : IsNormal (absoluteChars cwd (parentChars p)) := isNormal_absoluteChars h
  have hparent : parentChars (tidyChars cwd p) = absoluteChars cwd (parentChars p) :=
    parentChars_joinChars hnormal (not_mem_nameChars p)
  calc tidyChars cwd' (tidyChars cwd p)
      = joinChars (absoluteChars cwd' (parentChars (tidyChars cwd p)))
          (nameChars (tidyChars cwd p)) := rfl
    _ = joinChars (absoluteChars cwd (parentChars p)) (nameChars p) := by
      rw [hparent, absoluteChars_of_isNormal hnormal, nameChars_tidyChars]

theorem isAbsoluteChars_of_isPrefix (hp : isAbsoluteChars p = true) (h : a <+: p) (hne : a ≠ []) :
    isAbsoluteChars a = true := by
  obtain ⟨rest, rfl⟩ := h
  cases a with
  | nil => exact absurd rfl hne
  | cons c a => exact hp

/-- The folder of a path is at its start. -/
theorem parentChars_isPrefix : parentChars p <+: p := by
  have hhead : p.take (p.length - (nameChars p).length) <+: p := List.take_prefix _ _
  have hbare : dropTrailing (· == '/') (p.take (p.length - (nameChars p).length)) <+:
      p.take (p.length - (nameChars p).length) := by
    unfold dropTrailing
    rw [← List.reverse_suffix, List.reverse_reverse]
    exact List.dropWhile_suffix _
  unfold parentChars
  dsimp only
  split
  · exact hhead
  · exact hbare.trans hhead

theorem parentChars_ne_nil (h : isAbsoluteChars p = true) : parentChars p ≠ [] := by
  intro hnil
  have hlength : p.length ≤ (nameChars p).length := by
    unfold parentChars at hnil
    dsimp only at hnil
    split at hnil
    · rw [List.take_eq_nil_iff] at hnil
      rcases hnil with hnil | rfl
      · omega
      · exact Nat.zero_le _
    · simp_all
  -- the name is an end of the path and has no slash, so it is not the whole path
  have hsuffix : nameChars p <:+ p := by
    unfold nameChars trailing
    rw [← List.reverse_prefix, List.reverse_reverse]
    exact List.takeWhile_prefix _
  have hwhole : nameChars p = p := hsuffix.eq_of_length_le hlength
  have hslash := not_mem_nameChars p
  rw [hwhole] at hslash
  cases p with
  | nil => simp [isAbsoluteChars] at h
  | cons c rest =>
    obtain rfl : c = '/' := by simpa [isAbsoluteChars] using h
    exact hslash List.mem_cons_self

/-- The working folder does not matter for a path that starts at the root. -/
theorem tidyChars_of_absolute (h : isAbsoluteChars p = true) (cwd' : List Char) :
    tidyChars cwd p = tidyChars cwd' p := by
  have hparent : isAbsoluteChars (parentChars p) = true :=
    isAbsoluteChars_of_isPrefix h parentChars_isPrefix (parentChars_ne_nil h)
  unfold tidyChars absoluteChars
  rw [joinChars_absolute cwd hparent, joinChars_absolute cwd' hparent]

theorem tidy_tidy {cwd : String} (h : isAbsolute cwd = true) (cwd' p : String) :
    tidy cwd' (tidy cwd p) = tidy cwd p := by
  unfold tidy
  rw [String.toList_ofList, tidyChars_tidyChars h]

theorem isAbsolute_tidy {cwd : String} (h : isAbsolute cwd = true) (p : String) :
    isAbsolute (tidy cwd p) = true := by
  unfold isAbsolute tidy
  rw [String.toList_ofList]
  exact isAbsoluteChars_joinChars (isAbsoluteChars_of_isNormal (isNormal_absoluteChars h))

theorem tidy_of_absolute {p : String} (h : isAbsolute p = true) (cwd cwd' : String) :
    tidy cwd p = tidy cwd' p :=
  congrArg String.ofList (tidyChars_of_absolute h _)

theorem nameChars_tidy (cwd p : String) : nameChars (tidy cwd p).toList = nameChars p.toList := by
  rw [tidy, String.toList_ofList, nameChars_tidyChars]

theorem name_tidy (cwd p : String) : name (tidy cwd p) = name p :=
  congrArg String.ofList (nameChars_tidy cwd p)

end KeywordCatalog.Path
