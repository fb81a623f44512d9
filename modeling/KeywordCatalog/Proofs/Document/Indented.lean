import KeywordCatalog.Proofs.Document.RoundTrip

/-!
# Documents on several lines

Spacing between the parts of a document is skipped, so a document whose parts stand on lines of
their own reads back as itself like one on a single line (`parse_renderIndented`), at whatever level
of indentation it starts.
-/

namespace KeywordCatalog

namespace Document

variable {v : Value} {room : Nat}

theorem isGap_breakTo (level : Nat) : IsGap (breakTo level) := by
  intro c hc
  rcases List.mem_cons.1 hc with rfl | hc
  · rfl
  · rw [List.eq_of_mem_replicate hc]
    rfl

theorem return_notMem_breakTo (level : Nat) : '\r' ∉ breakTo level := by
  simp [breakTo, List.mem_replicate]

theorem writeIndentedItems_eq (level : Nat) (items : List Value) :
    writeIndentedItems level items =
      moreParts (breakTo level) (items.map (writeIndented level)) := by
  induction items with
  | nil => rfl
  | cons v items ih =>
    rw [writeIndentedItems, List.map_cons, moreParts_cons, ih, List.append_assoc]

theorem writeIndentedFields_eq (level : Nat) (fields : List (String × Value)) :
    writeIndentedFields level fields = moreParts (breakTo level)
      (fields.map fun f => writeField f.1 (writeIndented level f.2)) := by
  induction fields with
  | nil => rfl
  | cons f fields ih =>
    rw [writeIndentedFields, List.map_cons, moreParts_cons, ih]
    simp [writeField]

/-- A faithful document reads back as itself from its parts on several lines, whatever follows. -/
theorem readsAs_writeIndented (h : v.Faithful) (hlevels : v.levels ≤ room) (level : Nat) :
    ReadsAs room v (writeIndented level v) := by
  induction h generalizing room level with
  | null => exact readsAs_of_levels .null rfl
  | bool b => exact readsAs_of_levels (.bool b) rfl
  | int hlimit => exact readsAs_of_levels (.int hlimit) rfl
  | real hreal => exact readsAs_of_levels (.real hreal) rfl
  | text s => exact readsAs_of_levels (.text s) rfl
  | @list items _ ih =>
    rw [Value.levels] at hlevels
    obtain ⟨room, rfl⟩ : ∃ k, room = k + 1 := ⟨room - 1, by omega⟩
    have hitems : ∀ w ∈ items, ReadsAs room w (writeIndented (level + 1) w) := fun w hw =>
      ih w hw (by have := levels_le_itemLevels hw; omega) _
    cases items with
    | nil => exact readsAs_nil
    | cons v items =>
      have hread := readsAs_list (isGap_breakTo (level + 1)) (isGap_breakTo (level + 1))
        (isGap_breakTo level) (forall₂_readsAs hitems)
      rw [← writeIndentedItems_eq] at hread
      simpa only [writeIndented, List.append_assoc] using hread
  | @object fields hkeys _ ih =>
    rw [Value.levels] at hlevels
    obtain ⟨room, rfl⟩ : ∃ k, room = k + 1 := ⟨room - 1, by omega⟩
    have hfields : ∀ f ∈ fields, ReadsAs room f.2 (writeIndented (level + 1) f.2) := fun f hf =>
      ih f hf (by have := levels_le_fieldLevels hf; omega) _
    cases fields with
    | nil => exact readsAs_empty
    | cons f fields =>
      have hread := readsAs_object (isGap_breakTo (level + 1)) (isGap_breakTo (level + 1))
        (isGap_breakTo level) hkeys (forall₂_readsAsField hfields)
      rw [← writeIndentedFields_eq] at hread
      simpa only [writeIndented, writeField, List.cons_append, List.append_assoc] using hread

/-- The line breaks of a document on several lines are none that reading would replace. -/
theorem return_notMem_writeIndented (h : v.Faithful) (level : Nat) :
    '\r' ∉ writeIndented level v := by
  induction h generalizing level with
  | null => exact return_notMem_write .null
  | bool b => exact return_notMem_write (.bool b)
  | int hlimit => exact return_notMem_write (.int hlimit)
  | real hreal => exact return_notMem_write (.real hreal)
  | text s => exact return_notMem_writeText s
  | @list items _ ih =>
    cases items with
    | nil => simp [writeIndented]
    | cons v items =>
      obtain ⟨hv, hitems⟩ := List.forall_mem_cons.1 ih
      have hmore : '\r' ∉ writeIndentedItems (level + 1) items := by
        rw [writeIndentedItems_eq]
        exact return_notMem_moreParts (return_notMem_breakTo _)
          (List.forall_mem_map.2 fun w hw => hitems w hw (level + 1))
      simp [writeIndented, return_notMem_breakTo, hv, hmore]
  | @object fields _ _ ih =>
    cases fields with
    | nil => simp [writeIndented]
    | cons f fields =>
      obtain ⟨hv, hfields⟩ := List.forall_mem_cons.1 ih
      have hmore : '\r' ∉ writeIndentedFields (level + 1) fields := by
        rw [writeIndentedFields_eq]
        exact return_notMem_moreParts (return_notMem_breakTo _)
          (List.forall_mem_map.2 fun g hg =>
            return_notMem_writeField g.1 (hfields g hg (level + 1)))
      simp [writeIndented, return_notMem_breakTo, return_notMem_writeText, hv, hmore]

end Document

open Document

/-- **A faithful document reads back as itself from its parts on several lines.** -/
theorem Value.parse_renderIndented {v : Value} (h : v.Faithful) (hlevels : v.levels ≤ levelLimit) :
    Value.parse v.renderIndented = .ok v := by
  rw [Value.parse, Value.renderIndented, String.toList_ofList]
  exact (readsAs_writeIndented h hlevels 0).ofChars

end KeywordCatalog
