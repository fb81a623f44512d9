import KeywordCatalog.Cell
import Mathlib.Data.List.Chain

/-!
# Cells of a line

A line is a row of cells with two or more spaces between them. With the cursor at the end of a cell,
the cell is found. With the cursor further left, the cells after it that are two spaces apart are found
with it (`Row.run`), since two spaces do not end the part after the cursor (`forwards_cellsAfter`), as
they do in front of the cursor (`backwards_spaces`).
-/

namespace KeywordCatalog.Cell

open Text

/-- Whether a text has no blanks but single spaces. -/
structure IsSpaced (text : List Char) : Prop where
  chars : ∀ c ∈ text, c = ' ' ∨ isBlank c = false
  single : text.IsChain fun c d => c = ' ' → d ≠ ' '

/-- Whether a text is a cell: it is not empty, has no blanks but single spaces and neither starts nor
ends with a space. -/
structure IsCell (text : List Char) : Prop extends IsSpaced text where
  ne_nil : text ≠ []
  head : text.head? ≠ some ' '
  last : text.getLast? ≠ some ' '

variable {c : Char} {text rest : List Char}

instance : Decidable (IsCell text) :=
  decidable_of_iff ((text.all fun c => c == ' ' || !isBlank c) = true ∧
      text.IsChain (fun c d => c = ' ' → d ≠ ' ') ∧ text ≠ [] ∧ text.head? ≠ some ' ' ∧
      text.getLast? ≠ some ' ') <| by
    constructor
    · rintro ⟨hchars, hsingle, hne, hhead, hlast⟩
      exact ⟨⟨by simpa using hchars, hsingle⟩, hne, hhead, hlast⟩
    · intro h
      exact ⟨by simpa using h.chars, h.single, h.ne_nil, h.head, h.last⟩

namespace IsSpaced

theorem reverse (h : IsSpaced text) : IsSpaced text.reverse where
  chars c hc := h.chars c (List.mem_reverse.1 hc)
  single := List.isChain_reverse.2 (h.single.imp fun _ _ hcd hd hc => hcd hc hd)

theorem take (h : IsSpaced text) (k : Nat) : IsSpaced (text.take k) :=
  ⟨fun c hc => h.chars c (List.mem_of_mem_take hc), h.single.take k⟩

theorem drop (h : IsSpaced text) (k : Nat) : IsSpaced (text.drop k) :=
  ⟨fun c hc => h.chars c (List.mem_of_mem_drop hc), h.single.drop k⟩

theorem tail (h : IsSpaced (c :: text)) : IsSpaced text := h.drop 1

theorem eq_space (h : IsSpaced (c :: text)) (hc : isBlank c = true) : c = ' ' :=
  (h.chars c List.mem_cons_self).resolve_right (by simp [hc])

/-- A space is followed by a character that is not blank, unless it ends the text. -/
theorem exists_cons_of_space (h : IsSpaced (' ' :: text)) (hlast : (' ' :: text).getLast? ≠ some ' ') :
    ∃ d tail, text = d :: tail ∧ isBlank d = false := by
  cases text with
  | nil => exact absurd rfl hlast
  | cons d tail =>
    have hd : d ≠ ' ' := (List.isChain_cons_cons.1 h.single).1 rfl
    exact ⟨d, tail, rfl, (h.chars d (by simp)).resolve_left hd⟩

end IsSpaced

theorem IsCell.exists_cons (h : IsCell text) : ∃ c rest, text = c :: rest ∧ isBlank c = false := by
  obtain ⟨c, rest, rfl⟩ := List.exists_cons_of_ne_nil h.ne_nil
  exact ⟨c, rest, rfl, (h.chars c List.mem_cons_self).resolve_left fun hc => h.head (hc ▸ rfl)⟩

theorem IsCell.exists_getLast? (h : IsCell text) :
    ∃ c, text.getLast? = some c ∧ isBlank c = false := by
  have hlast := List.getLast?_eq_some_getLast h.ne_nil
  refine ⟨_, hlast, (h.chars _ (List.getLast_mem h.ne_nil)).resolve_left fun hc => h.last ?_⟩
  rw [hlast, hc]

/-- What is dropped from the end of a text that ends with a character of a cell. -/
theorem dropTrailing_append {p : Char → Bool} {ending : List Char}
    (hlast : ∃ c, text.getLast? = some c ∧ isBlank c = false)
    (hp : ∀ c, isBlank c = false → p c = false) (hending : ∀ c ∈ ending, p c = true) :
    dropTrailing p (text ++ ending) = text := by
  obtain ⟨c, hlast, hc⟩ := hlast
  obtain ⟨rest, hrest⟩ := List.head?_eq_some_iff.1 (List.head?_reverse.trans hlast)
  rw [dropTrailing, List.reverse_append, List.dropWhile_append_of_pos (by simpa using hending), hrest,
    List.dropWhile_cons_of_neg (by simp [hp c hc]), ← hrest, List.reverse_reverse]

/-! ### Before the cursor -/

theorem backwards_append (h : IsSpaced text) (hlast : text.getLast? ≠ some ' ') :
    backwards (text ++ rest) = text ++ backwards rest := by
  induction text with
  | nil => rfl
  | cons c text ih =>
    have htail : backwards (text ++ rest) = text ++ backwards rest := by
      refine ih h.tail fun heq => hlast ?_
      rw [List.getLast?_cons, heq]
      rfl
    rw [List.cons_append, backwards]
    by_cases hc : isBlank c = true
    · obtain rfl := h.eq_space hc
      obtain ⟨d, tail, rfl, hd⟩ := h.exists_cons_of_space hlast
      simp [isBlank_space, hd, ← htail]
    · simp [hc, htail]

theorem backwards_spaces {n : Nat} (hn : 2 ≤ n) : backwards (List.replicate n ' ' ++ rest) = [] := by
  obtain ⟨m, rfl⟩ := Nat.exists_eq_add_of_le' hn
  rw [List.replicate_succ, List.replicate_succ, List.cons_append, List.cons_append, backwards]
  simp [isBlank_space]

/-- What stands before the cursor is read backwards and must not be empty. -/
theorem before?_eq (h : '\n' ∉ text) :
    before? text =
      if backwards text.reverse = [] then none else some (backwards text.reverse).reverse := by
  have hbreak : dropFinalBreak text = text := by
    rw [dropFinalBreak]
    split
    · exact absurd (List.mem_of_getLast? ‹_›) h
    · rfl
  rw [before?, hbreak]
  cases text.reverse with
  | nil => rfl
  | cons c rest =>
    simp only [backwards]
    split_ifs <;> simp_all

/-! ### After the cursor -/

theorem forwards_append (h : IsSpaced text) (hne : text ≠ []) (hlast : text.getLast? ≠ some ' ')
    {n : Nat} (hn : n = 0 ∨ text.head? ≠ some ' ') :
    forwards n (text ++ rest) = text ++ forwards 0 rest := by
  induction text generalizing n with
  | nil => exact absurd rfl hne
  | cons c text ih =>
    have htail (m : Nat) (hne : text ≠ []) (hm : m = 0 ∨ text.head? ≠ some ' ') :
        forwards m (text ++ rest) = text ++ forwards 0 rest := by
      refine ih h.tail hne (fun heq => hlast ?_) hm
      rw [List.getLast?_cons, heq]
      rfl
    rw [List.cons_append, forwards]
    by_cases hc : isBlank c = true
    · obtain rfl := h.eq_space hc
      obtain rfl : n = 0 := hn.resolve_right (by simp)
      obtain ⟨d, tail, rfl, hd⟩ := h.exists_cons_of_space hlast
      have hspace : d ≠ ' ' := by
        rintro rfl
        exact absurd hd (by decide)
      rw [htail 1 (by simp) (Or.inr (by simpa using hspace))]
      simp [isBlank_space]
    · cases text with
      | nil => simp [hc]
      | cons d tail =>
        rw [htail 0 (by simp) (Or.inl rfl)]
        simp [hc]

/-- Cells, each after a number of spaces. -/
def cellsAfter (cells : List (Nat × List Char)) : List Char :=
  cells.flatMap fun next => List.replicate next.1 ' ' ++ next.2

/-- After a cell, the part after the cursor goes on with the cells that are two spaces apart, and then
takes one space at most. -/
theorem forwards_cellsAfter {cells : List (Nat × List Char)}
    (h : ∀ next ∈ cells, 2 ≤ next.1 ∧ IsCell next.2) :
    ∃ ending, (ending = [] ∨ ending = [' ']) ∧
      forwards 0 (cellsAfter cells) = cellsAfter (cells.takeWhile (·.1 == 2)) ++ ending := by
  induction cells with
  | nil => exact ⟨[], Or.inl rfl, rfl⟩
  | cons next cells ih =>
    obtain ⟨gap, cell⟩ := next
    obtain ⟨⟨hgap : 2 ≤ gap, hcell : IsCell cell⟩, hcells⟩ := List.forall_mem_cons.1 h
    have hcons (cells : List (Nat × List Char)) : cellsAfter ((gap, cell) :: cells) =
        List.replicate gap ' ' ++ cell ++ cellsAfter cells := rfl
    by_cases htwo : gap = 2
    · subst htwo
      obtain ⟨ending, hending, hforwards⟩ := ih hcells
      obtain ⟨c, rest, hrest, hc⟩ := hcell.exists_cons
      have hnext : forwards 2 (cell ++ cellsAfter cells) = cell ++ forwards 0 (cellsAfter cells) :=
        forwards_append hcell.toIsSpaced hcell.ne_nil hcell.last (Or.inr hcell.head)
      refine ⟨ending, hending, ?_⟩
      rw [List.takeWhile_cons_of_pos rfl, hcons, hcons, List.append_assoc, List.append_assoc,
        List.append_assoc, ← hforwards, ← hnext, hrest]
      simp [forwards, isBlank_space, hc, List.replicate_succ]
    · obtain ⟨more, rfl⟩ := Nat.exists_eq_add_of_le' (show 3 ≤ gap by omega)
      refine ⟨[' '], Or.inr rfl, ?_⟩
      rw [List.takeWhile_cons_of_neg (by simp), hcons, List.replicate_succ, List.replicate_succ,
        List.replicate_succ]
      simp [forwards, isBlank_space, cellsAfter]

theorem after?_append (h : IsSpaced text) (hne : text ≠ []) (hlast : text.getLast? ≠ some ' ') :
    after? (text ++ rest) = some (text ++ forwards 0 rest) := by
  obtain ⟨c, text, rfl⟩ := List.exists_cons_of_ne_nil hne
  have hwhole : forwards 0 (c :: text ++ rest) = c :: text ++ forwards 0 rest :=
    forwards_append h hne hlast (Or.inl rfl)
  rw [List.cons_append, after?]
  by_cases hc : isBlank c = true
  · obtain rfl := h.eq_space hc
    obtain ⟨d, tail, rfl, hd⟩ := h.exists_cons_of_space hlast
    have htail : forwards 0 (d :: tail ++ rest) = d :: tail ++ forwards 0 rest :=
      forwards_append h.tail (by simp) (by simpa [List.getLast?_cons_cons] using hlast) (Or.inl rfl)
    simp [isBlank_space, hd, ← htail]
  · simp [hc, ← hwhole]

theorem after?_cellsAfter {cells : List (Nat × List Char)}
    (h : ∀ next ∈ cells, 2 ≤ next.1 ∧ IsCell next.2) : after? (cellsAfter cells) = none := by
  cases cells with
  | nil => rfl
  | cons next cells =>
    obtain ⟨more, hmore⟩ := Nat.exists_eq_add_of_le' (h next List.mem_cons_self).1
    rw [cellsAfter, List.flatMap_cons, hmore, List.replicate_succ, List.replicate_succ]
    simp [after?, isBlank_space]

/-! ### Rows -/

/-- A line of cells with two or more spaces between them, after an indent, seen from one of the
cells. -/
structure Row where
  indent : Nat
  /-- The cells before it, each with the number of spaces after it. -/
  before : List (List Char × Nat)
  cell : List Char
  /-- The cells after it, each with the number of spaces before it. -/
  after : List (Nat × List Char)
  isCell_before : ∀ earlier ∈ before, IsCell earlier.1 ∧ 2 ≤ earlier.2
  isCell : IsCell cell
  isCell_after : ∀ next ∈ after, 2 ≤ next.1 ∧ IsCell next.2

namespace Row

/-- What stands before the cell. -/
def start (r : Row) : List Char :=
  List.replicate r.indent ' ' ++ r.before.flatMap fun earlier =>
    earlier.1 ++ List.replicate earlier.2 ' '

/-- The whole line. -/
def line (r : Row) : List Char := r.start ++ r.cell ++ cellsAfter r.after

/-- The cell with those after it that are two spaces apart. -/
def run (r : Row) : List Char := r.cell ++ cellsAfter (r.after.takeWhile (·.1 == 2))

variable (r : Row)

theorem backwards_start : backwards r.start.reverse = [] := by
  rcases List.eq_nil_or_concat' r.before with hnone | ⟨init, last, hlast⟩
  · rw [start, hnone, List.flatMap_nil, List.append_nil, List.reverse_replicate]
    rcases r.indent with _ | _ | n
    · rfl
    · rfl
    · rw [← List.append_nil (List.replicate _ _)]
      exact backwards_spaces (Nat.le_add_left 2 n)
  · have hgap : 2 ≤ last.2 := (r.isCell_before last (by simp [hlast])).2
    rw [start, hlast, List.flatMap_append, List.flatMap_singleton, ← List.append_assoc,
      ← List.append_assoc, List.reverse_append, List.reverse_replicate]
    exact backwards_spaces hgap

theorem break_notMem_start : '\n' ∉ r.start := by
  simp only [start, List.mem_append, List.mem_replicate, List.mem_flatMap]
  rintro (⟨-, h⟩ | ⟨earlier, hmem, h | ⟨-, h⟩⟩)
  · cases h
  · rcases (r.isCell_before earlier hmem).1.chars _ h with h | h <;> cases h
  · cases h

theorem before?_start (k : Nat) : before? (r.start ++ r.cell.take k) =
    if r.cell.take k = [] then none else some (r.cell.take k) := by
  have hbreak : '\n' ∉ r.start ++ r.cell.take k := by
    simp only [List.mem_append, not_or]
    refine ⟨r.break_notMem_start, fun hmem => ?_⟩
    rcases r.isCell.chars _ (List.mem_of_mem_take hmem) with h | h <;> cases h
  have hbackwards : backwards (r.start ++ r.cell.take k).reverse = (r.cell.take k).reverse := by
    have hlast : (r.cell.take k).reverse.getLast? ≠ some ' ' := by
      rw [List.getLast?_reverse, List.head?_take]
      split
      · simp
      · exact r.isCell.head
    rw [List.reverse_append, backwards_append (r.isCell.take k).reverse hlast, r.backwards_start,
      List.append_nil]
  rw [before?_eq hbreak, hbackwards, List.reverse_reverse]
  simp only [List.reverse_eq_nil_iff]

/-- Where the cursor stands left of the end of the cell, the run is found from there on. -/
theorem after?_drop {k : Nat} (hk : k < r.cell.length) :
    ∃ ending, (ending = [] ∨ ending = [' ']) ∧
      after? (r.cell.drop k ++ cellsAfter r.after) = some (r.run.drop k ++ ending) := by
  obtain ⟨ending, hending, hforwards⟩ := forwards_cellsAfter r.isCell_after
  have hlast : (r.cell.drop k).getLast? ≠ some ' ' := by
    rw [List.getLast?_drop, if_neg (by omega)]
    exact r.isCell.last
  refine ⟨ending, hending, ?_⟩
  rw [after?_append (r.isCell.drop k) (by simpa using hk) hlast, hforwards, run,
    List.drop_append_of_le_length hk.le, List.append_assoc]

/-- The run ends as a cell does. -/
theorem getLast?_run : ∃ c, r.run.getLast? = some c ∧ isBlank c = false := by
  rw [run]
  rcases List.eq_nil_or_concat' (r.after.takeWhile (·.1 == 2)) with hnone | ⟨init, last, hlast⟩
  · rw [hnone, cellsAfter, List.flatMap_nil, List.append_nil]
    exact r.isCell.exists_getLast?
  · have hmem : last ∈ r.after := (List.takeWhile_sublist (·.1 == 2)).subset (by simp [hlast])
    obtain ⟨c, hc, hblank⟩ := (r.isCell_after last hmem).2.exists_getLast?
    refine ⟨c, ?_, hblank⟩
    rw [hlast, cellsAfter, List.flatMap_append, List.flatMap_singleton, List.getLast?_append,
      List.getLast?_append, List.getLast?_append, hc]
    rfl

/-- The run is the cell alone exactly if the next cell is not two spaces apart. -/
theorem run_eq_cell_iff : r.run = r.cell ↔ ∀ next ∈ r.after.head?, next.1 ≠ 2 := by
  rw [run, List.append_right_eq_self]
  cases r.after with
  | nil => simp [cellsAfter]
  | cons next cells =>
    by_cases htwo : next.1 = 2 <;> simp [cellsAfter, htwo]

theorem upTo_line {k : Nat} (hk : k ≤ r.cell.length) :
    upTo (r.start.length + k : Nat) r.line = r.start ++ r.cell.take k ∧
      startingAt (r.start.length + k : Nat) r.line = r.cell.drop k ++ cellsAfter r.after := by
  have hbound : bound r.line.length (r.start.length + k : Nat) = r.start.length + k := by
    rw [bound_natCast, line]
    simp only [List.length_append]
    omega
  rw [upTo, startingAt, hbound, line, List.append_assoc, List.take_length_add_append,
    List.drop_length_add_append, List.take_append_of_le_length hk, List.drop_append_of_le_length hk]
  exact ⟨rfl, rfl⟩

/-- What is found with the cursor in the cell: the cell or the run, and one space at most. -/
theorem chars?_line {k : Nat} (hk : k ≤ r.cell.length) :
    ∃ ending, (ending = [] ∨ ending = [' ']) ∧ chars? r.line (r.start.length + k : Nat) =
      some ((if k = r.cell.length then r.cell else r.run) ++ ending) := by
  obtain ⟨hleft, hright⟩ := r.upTo_line hk
  rw [chars?, hleft, hright, r.before?_start]
  rcases hk.eq_or_lt with rfl | hlt
  · refine ⟨[], Or.inl rfl, ?_⟩
    rw [List.take_length, List.drop_length, List.nil_append, after?_cellsAfter r.isCell_after,
      if_neg r.isCell.ne_nil, if_pos rfl, List.append_nil]
  · obtain ⟨ending, hending, hafter⟩ := r.after?_drop hlt
    rw [hafter, if_neg hlt.ne]
    by_cases hfirst : k = 0
    · subst hfirst
      exact ⟨ending, hending, rfl⟩
    · -- the part before the cursor is in the cell, and spaces after it are dropped
      have hlength : r.cell.length ≤ r.run.length := by simp [run]
      have htake : r.cell.take k = r.run.take k := by
        rw [run, List.take_append_of_le_length hk]
      have hdrop : ∃ c, (r.run.drop k).getLast? = some c ∧ isBlank c = false := by
        rw [List.getLast?_drop, if_neg (by omega)]
        exact r.getLast?_run
      have hblank : ∀ c ∈ ending, isBlank c = true := by
        rcases hending with rfl | rfl <;> simp [isBlank_space]
      have hne : r.cell.take k ≠ [] := by
        rw [ne_eq, List.take_eq_nil_iff, not_or]
        exact ⟨hfirst, r.isCell.ne_nil⟩
      refine ⟨[], Or.inl rfl, ?_⟩
      rw [if_neg hne]
      dsimp only
      rw [dropTrailing_append hdrop (fun _ hc => hc) hblank, htake, List.take_append_drop,
        List.append_nil]

/-- **Up to spaces at the end, the cell under the cursor is found with those after it that are two
spaces apart, or alone if the cursor is at its end.** -/
theorem at?_line_iff {k : Nat} (hk : k ≤ r.cell.length) :
    ∃ found, at? (String.ofList r.line) (r.start.length + k : Nat) = some (String.ofList found) ∧
      dropTrailing (· == ' ') found = (if k = r.cell.length then r.cell else r.run) ∧
      (dropTrailing (· == ' ') found = r.cell ↔
        k = r.cell.length ∨ ∀ next ∈ r.after.head?, next.1 ≠ 2) := by
  obtain ⟨ending, hending, hchars⟩ := r.chars?_line hk
  have hspace (c : Char) (hc : isBlank c = false) : (c == ' ') = false := by
    rw [beq_eq_false_iff_ne]
    rintro rfl
    exact absurd hc (by decide)
  have htrimmed : dropTrailing (· == ' ') ((if k = r.cell.length then r.cell else r.run) ++ ending) =
      if k = r.cell.length then r.cell else r.run := by
    refine dropTrailing_append ?_ hspace ?_
    · split
      · exact r.isCell.exists_getLast?
      · exact r.getLast?_run
    · rcases hending with rfl | rfl <;> simp
  refine ⟨_, by rw [at?, String.toList_ofList, hchars, Option.map_some], htrimmed, ?_⟩
  rw [htrimmed, ← r.run_eq_cell_iff]
  split <;> simp [*]

/-- A row with a cell that is two spaces apart from the next one. -/
def pairRow : Row where
  indent := 4
  before := [("Run Keyword".toList, 4)]
  cell := "Log".toList
  after := [(2, "Some Text".toList), (3, "x".toList)]
  isCell_before := List.forall_mem_singleton.2 (by decide)
  isCell := by decide
  isCell_after := List.forall_mem_cons.2 ⟨by decide, List.forall_mem_singleton.2 (by decide)⟩

/-- The cell is found with the cursor at its end, and not with the cursor in it. -/
theorem at?_line_iff_pair :
    (∃ found, at? "    Run Keyword    Log  Some Text   x" 20 = some (String.ofList found) ∧
      dropTrailing (· == ' ') found = "Log  Some Text".toList) ∧
    ∃ found, at? "    Run Keyword    Log  Some Text   x" 22 = some (String.ofList found) ∧
      dropTrailing (· == ' ') found = "Log".toList := by
  obtain ⟨inside, hinside, hrun, -⟩ := pairRow.at?_line_iff (show 1 ≤ pairRow.cell.length by decide)
  obtain ⟨ending, hending, -, hcell⟩ := pairRow.at?_line_iff (le_refl pairRow.cell.length)
  exact ⟨⟨inside, hinside, hrun⟩, ending, hending, hcell.2 (Or.inl rfl)⟩

end Row

end KeywordCatalog.Cell
