import KeywordCatalog.Proofs.Pattern.Found

/-!
# Whole lines

A line of a text stands between line breaks or the ends of the text (`mem_lines_iff`). A row of trees
between the two line anchors takes a text exactly if the row takes it and the text is bounded like a
line (`Node.takes_between_anchors`).
-/

namespace KeywordCatalog.Text

variable {line text before after : List Char}

/-- Whether a line stands between two parts of a text. -/
structure IsLine (before line after : List Char) : Prop where
  unbroken : '\n' ∉ line
  starts : before = [] ∨ before.getLast? = some '\n'
  ends : after = [] ∨ after.head? = some '\n'

theorem forall_mem_of_mem_splitOnP {α : Type} {test : α → Bool} {part items : List α}
    (h : part ∈ items.splitOnP test) : ∀ a ∈ part, a ∈ items ∧ test a = false := by
  induction items generalizing part with
  | nil =>
    rw [List.splitOnP_nil, List.mem_singleton] at h
    simp [h]
  | cons b items ih =>
    have later (hpart : part ∈ items.splitOnP test) : ∀ a ∈ part, a ∈ b :: items ∧ test a = false :=
      fun a ha => ⟨List.mem_cons_of_mem b (ih hpart a ha).1, (ih hpart a ha).2⟩
    rw [List.splitOnP_cons_eq_if_modifyHead] at h
    split at h
    · rcases List.mem_cons.1 h with rfl | h
      · nofun
      · exact later h
    · rename_i hb
      obtain ⟨first, others, hsplit⟩ := List.exists_cons_of_ne_nil (List.splitOnP_ne_nil test items)
      rw [hsplit, List.modifyHead_cons] at h
      rcases List.mem_cons.1 h with rfl | h
      · have hfirst := ih (hsplit ▸ List.mem_cons_self)
        rw [List.forall_mem_cons]
        refine ⟨⟨List.mem_cons_self, by simpa using hb⟩, fun a ha => ?_⟩
        exact ⟨List.mem_cons_of_mem b (hfirst a ha).1, (hfirst a ha).2⟩
      · exact later (hsplit ▸ List.mem_cons_of_mem first h)

/-- A part among others that are joined has the parts before and after it around it. -/
theorem intercalate_append_cons {α : Type} (gap : List α) (first : List (List α)) (part : List α)
    (rest : List (List α)) : gap.intercalate (first ++ part :: rest) =
      first.flatMap (· ++ gap) ++ part ++ rest.flatMap (gap ++ ·) := by
  have hrest (part : List α) : gap.intercalate (part :: rest) = part ++ rest.flatMap (gap ++ ·) := by
    induction rest generalizing part with
    | nil => simp
    | cons next rest ih => rw [List.intercalate_cons_cons, ih next]; simp
  induction first with
  | nil => exact hrest part
  | cons other first ih =>
    obtain ⟨next, others, hnext⟩ := List.exists_cons_of_ne_nil (l := first ++ part :: rest) (by simp)
    rw [hnext] at ih
    rw [List.cons_append, hnext, List.intercalate_cons_cons, ih]
    simp

theorem intercalate_concat {α : Type} (gap : List α) (first : List (List α)) (part : List α) :
    gap.intercalate (first ++ [part]) = first.flatMap (· ++ gap) ++ part := by
  rw [intercalate_append_cons, List.flatMap_nil, List.append_nil]

theorem mem_lines_iff :
    line ∈ lines text ↔ ∃ before after, text = before ++ line ++ after ∧ IsLine before line after := by
  constructor
  · intro h
    obtain ⟨first, rest, hlines⟩ := List.append_of_mem h
    have htext : text = ['\n'].intercalate (lines text) := (List.intercalate_splitOn '\n').symm
    rw [hlines, intercalate_append_cons] at htext
    refine ⟨_, _, htext, ?_, ?_, ?_⟩
    · intro hbreak
      have hnot := (forall_mem_of_mem_splitOnP h '\n' hbreak).2
      simp at hnot
    · rcases List.eq_nil_or_concat first with rfl | ⟨first, last, rfl⟩
      · exact Or.inl rfl
      · exact Or.inr (by simp)
    · cases rest with
      | nil => exact Or.inl rfl
      | cons next rest => exact Or.inr (by simp)
  · rintro ⟨before, after, rfl, hline⟩
    have hafter : line ∈ lines (line ++ after) := by
      rcases hline.ends with rfl | hends
      · rw [List.append_nil, lines, List.splitOn_eq_singleton hline.unbroken]
        exact List.mem_singleton_self line
      · obtain ⟨rest, rfl⟩ := List.head?_eq_some_iff.1 hends
        rw [lines, List.splitOn_append_cons_self, List.splitOn_eq_singleton hline.unbroken]
        exact List.mem_append_left _ (List.mem_singleton_self line)
    rcases hline.starts with rfl | hstarts
    · exact hafter
    · obtain ⟨first, rfl⟩ := List.getLast?_eq_some_iff.1 hstarts
      rw [lines, List.append_assoc, List.append_assoc, List.singleton_append,
        List.splitOn_append_cons_self]
      exact List.mem_append_right _ hafter

/-- The only part of an unbroken text that is bounded like a line is the whole text. -/
theorem eq_of_unbroken (hunbroken : '\n' ∉ before ++ line ++ after)
    (hstarts : before = [] ∨ before.getLast? = some '\n')
    (hends : after = [] ∨ after.head? = some '\n') : line = before ++ line ++ after := by
  obtain rfl : before = [] := by
    refine hstarts.resolve_right fun hbreak => hunbroken ?_
    simp [List.mem_of_getLast? hbreak]
  obtain rfl : after = [] := by
    refine hends.resolve_right fun hbreak => hunbroken ?_
    simp [List.mem_of_mem_head? hbreak]
  simp

end KeywordCatalog.Text

namespace KeywordCatalog.Pattern

open Text

variable {skipped taken rest : List Char} {nodes : List Node}

theorem holds_lineStart (pos : Nat) : (Anchor.lineStart true).holds ⟨pos, skipped.reverse, rest⟩ = true ↔
    skipped = [] ∨ skipped.getLast? = some '\n' := by
  simp [Anchor.holds]

theorem holds_lineEnd (pos : Nat) (before : List Char) :
    (Anchor.lineEnd true).holds ⟨pos, before, rest⟩ = true ↔ rest = [] ∨ rest.head? = some '\n' := by
  -- a line break that ends the text is a line break
  have hlast : rest = ['\n'] → rest.head? = some '\n' := by
    rintro rfl
    rfl
  simp only [Anchor.holds, Bool.true_and, Bool.or_eq_true, List.isEmpty_iff, beq_iff_eq]
  constructor
  · rintro ((hnil | hbreak) | hhead)
    · exact Or.inl hnil
    · exact Or.inr (hlast hbreak)
    · exact Or.inr hhead
  · rintro (hnil | hhead)
    · exact Or.inl (Or.inl hnil)
    · exact Or.inr hhead

/-- A row between line anchors takes a text that is bounded like a line. -/
theorem Node.takes_between_anchors :
    (Node.row (.anchor (.lineStart true) :: (nodes ++ [.anchor (.lineEnd true)]))).Takes
        skipped.reverse taken rest ↔
      (skipped = [] ∨ skipped.getLast? = some '\n') ∧ (rest = [] ∨ rest.head? = some '\n') ∧
        (Node.row nodes).Takes skipped.reverse taken rest := by
  rw [Node.takes_row_cons]
  simp only [Node.takes_row_append]
  constructor
  · rintro ⟨_, _, rfl, ⟨rfl, hstart⟩, first, second, rfl, hrow, rfl, hend⟩
    simp only [List.append_nil] at hend hrow ⊢
    exact ⟨(holds_lineStart _).1 hstart, (holds_lineEnd _ _).1 hend, hrow⟩
  · rintro ⟨hstart, hend, hrow⟩
    refine ⟨[], taken, rfl, ⟨rfl, (holds_lineStart _).2 hstart⟩, taken, [], by simp, hrow, rfl, ?_⟩
    exact (holds_lineEnd _ _).2 hend

end KeywordCatalog.Pattern
