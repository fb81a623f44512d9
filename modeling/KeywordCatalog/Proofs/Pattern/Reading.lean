import KeywordCatalog.Pattern.Compiled

/-!
# Reading patterns

What the constructs of a simple pattern are read as: characters that stand for themselves or are
escaped, parentheses that only hold such characters together, and a group that keeps what a repeated
test takes. Each of them adds its items to the current branch. A pattern of nothing else is read as
one row of trees (`State.Reads`), and this row is its tree (`State.Reads.parseWith_eq`).
-/

namespace KeywordCatalog.Pattern

open Text

variable {s s' : State} {c : Char} {text rest rest' : List Char}

/-- Whether a character stands for itself in a pattern. -/
def isLiteral (c : Char) : Bool := !"\\|)([.^$*+?\x7b".toList.contains c

/-- Whether a character can be spelled in a pattern: it stands for itself, or it is a dot. -/
def isSpellable (c : Char) : Bool := c == '.' || isLiteral c

/-- A character as it is spelled in a pattern; a dot needs a backslash. -/
def spelling (c : Char) : List Char := if c == '.' then ['\\', '.'] else [c]

/-- The tree of a character that is meant as itself. -/
def letterNode (rule : CaseRule) (c : Char) : Node := .one (.letter rule false (codeOf c))

theorem isHalf_iff {n : Nat} : isHalf n = true ↔ 0xD800 ≤ n ∧ n < 0xE000 := by
  simp only [isHalf, isHighHalf, isLowHalf, Bool.or_eq_true, Bool.and_eq_true, decide_eq_true_eq]
  omega

/-- Different characters are kept for different code points. -/
theorem codeOf_inj {c d : Char} : codeOf c = codeOf d ↔ c = d := by
  constructor
  · intro h
    -- a character is kept for its own code point or for a half, and no character is a half
    have hcode (e : Char) : (codeOf e = e.toNat ∧ (codeOf e < 0xD800 ∨ 0xE000 ≤ codeOf e)) ∨
        (codeOf e + halfShift = e.toNat ∧ 0xD800 ≤ codeOf e ∧ codeOf e < 0xE000) := by
      rw [codeOf]
      split
      · rename_i hhalf
        have := isHalf_iff.1 hhalf
        exact Or.inr ⟨Nat.sub_add_cancel (by omega), this⟩
      · exact Or.inl ⟨rfl, e.valid.imp id fun he => Nat.lt_of_succ_le he.1⟩
    have hnat : c.toNat = d.toNat := by
      have hc := hcode c
      have hd := hcode d
      rw [h] at hc
      omega
    rw [← Char.ofNat_toNat c, ← Char.ofNat_toNat d, hnat]
  · rintro rfl
    rfl

theorem accepts_letter_exact {c d : Char} :
    (CharTest.letter .exact false (codeOf c)).accepts d = true ↔ c = d := by
  simp [CharTest.accepts, CaseRule.same, codeOf_inj]

namespace State

/-! ### Constructs -/

/-- The state with more items on the current branch. -/
def add (s : State) (items : List Item) : State :=
  { s with level := { s.level with items := items.reverse ++ s.level.items } }

@[simp] theorem add_nil (s : State) : s.add [] = s := rfl

theorem add_add (s : State) (items more : List Item) :
    (s.add items).add more = s.add (items ++ more) := by
  simp [add]

theorem currentRow_add (s : State) (items : List Item) :
    (s.add items).level.currentRow = s.level.currentRow ++ items.flatMap Item.row := by
  simp [add, Level.currentRow]

/-- A construct takes one round. -/
theorem read_of_step (hc : c ≠ ')' ∨ s.outer ≠ []) (hstep : s.step c rest = .ok (s', rest'))
    (hdepth : s'.outer.length ≤ levelLimit) (fuel : Nat) :
    s.read (fuel + 1) (c :: rest) = s'.read fuel rest' := by
  have hends : (c == ')' && s.outer.isEmpty) = false := by
    rcases hc with hc | hc <;> simp [hc]
  rw [read, hends, if_neg Bool.false_ne_true, hstep]
  exact if_neg (Nat.not_lt.2 hdepth)

theorem exists_step_spelling (hc : isSpellable c = true) :
    ∃ d tail, spelling c = d :: tail ∧ (d ≠ ')' ∧ d ≠ '?' ∧ d ≠ '+') ∧
      ∀ (s : State) (rest : List Char), s.options.spaced = false →
        s.step d (tail ++ rest) = .ok (s.add [.node (letterNode s.options.rule c)], rest) := by
  by_cases hdot : c = '.'
  · subst hdot
    refine ⟨'\\', ['.'], rfl, by decide, fun s rest hspaced => ?_⟩
    unfold step
    simp only [hspaced, Bool.false_and, Bool.false_eq_true, if_false]
    rfl
  · have hliteral : isLiteral c = true := by simpa [isSpellable, hdot] using hc
    have hnot (d : Char) (hd : isLiteral d = false) : c ≠ d := by
      rintro rfl
      rw [hliteral] at hd
      cases hd
    refine ⟨c, [], by simp [spelling, hdot], ⟨hnot _ rfl, hnot _ rfl, hnot _ rfl⟩,
      fun s rest hspaced => ?_⟩
    unfold step
    simp only [hspaced, Bool.false_and, Bool.false_eq_true, if_false, List.nil_append]
    split
    all_goals first
      | rfl
      | exact absurd rfl (hnot _ rfl)

/-- A text that is spelled is read as its letters. -/
theorem read_letters (hspaced : s.options.spaced = false) (hdepth : s.outer.length ≤ levelLimit)
    (htext : ∀ c ∈ text, isSpellable c = true) (fuel : Nat) (rest : List Char) :
    s.read (text.length + fuel) (text.flatMap spelling ++ rest) =
      (s.add (text.map fun c => .node (letterNode s.options.rule c))).read fuel rest := by
  induction text generalizing s with
  | nil => simp
  | cons c text ih =>
    obtain ⟨hc, htext⟩ := List.forall_mem_cons.1 htext
    obtain ⟨d, tail, hspelling, hd, hstep⟩ := exists_step_spelling hc
    have hrest := ih (s := s.add [.node (letterNode s.options.rule c)]) hspaced hdepth htext
    rw [List.flatMap_cons, hspelling, List.append_assoc, List.cons_append, List.length_cons,
      Nat.add_right_comm, read_of_step (Or.inl hd.1) (hstep s _ hspaced) hdepth, hrest, add_add]
    rfl

/-- The state with one more group that keeps text, around a tree. -/
def addGroup (s : State) (body : Node) : State :=
  { s.add [.node (.capture (s.groups.length + 1) body)] with
    groups := s.groups ++ [⟨none, some (body.width s.groupWidth)⟩] }

theorem modify_concat (groups : List Group) (g : Group) (f : Group → Group) :
    (groups ++ [g]).modify groups.length f = groups ++ [f g] := by
  induction groups with
  | nil => rfl
  | cons first groups ih => simp [ih]

/-- A group around a repeated test, which is read from the text after the opening parenthesis. -/
theorem read_group {test : CharTest} (hspaced : s.options.spaced = false)
    (hrepeated : s.options.unrepeated = false) (hdepth : s.outer.length < levelLimit)
    (hc : c ≠ '?') (hclose : c ≠ ')')
    (hstep : ∀ (t : State) (rest : List Char), t.options = s.options →
      t.step c (text ++ rest) = .ok (t.add [.node (.one test)], rest)) (fuel : Nat)
    (rest : List Char) :
    s.read (fuel + 4) ('(' :: c :: (text ++ ('+' :: ')' :: rest))) =
      (s.addGroup (.span 1 none .greedy test)).read fuel rest := by
  have hspaced' : s.level.options.spaced = false := hspaced
  have hrepeated' : s.level.options.unrepeated = false := hrepeated
  have hopen : s.step '(' (c :: (text ++ ('+' :: ')' :: rest))) =
      .ok (s.openCapture none, c :: (text ++ ('+' :: ')' :: rest))) := by
    unfold step
    simp [hspaced, readOpening, hc]
  have htest := hstep (s.openCapture none) ('+' :: ')' :: rest) rfl
  have hplus : ((s.openCapture none).add [.node (.one test)]).step '+' (')' :: rest) =
      .ok ((s.openCapture none).add [.node (.span 1 none .greedy test)], ')' :: rest) := by
    simp [step, repeatLast, openCapture, openLevel, add, State.options, Item.row, Node.isRepetition,
      Node.rounds_one, hspaced', hrepeated']
  have hend : ((s.openCapture none).add [.node (.span 1 none .greedy test)]).step ')' rest =
      .ok (s.addGroup (.span 1 none .greedy test), rest) := by
    simp [step, close, openCapture, openLevel, add, addGroup, pushItem, State.options, Level.row,
      Level.currentRow, Except.map, Item.row, Node.width, modify_concat, hspaced']
  rw [read_of_step (Or.inl (by decide)) hopen hdepth, read_of_step (Or.inl hclose) htest hdepth,
    read_of_step (Or.inl (by decide)) hplus hdepth]
  exact read_of_step (Or.inr (List.cons_ne_nil _ _)) hend (Nat.le_of_lt hdepth) fuel

/-! ### Rows -/

/-- What has been read is a row of trees, with a number of groups that keep text. -/
structure Reads (s : State) (o : Options) (row : List Node) (count : Nat) : Prop where
  options : s.level.options = o
  branches : s.level.branches = []
  row : s.level.currentRow = row
  outer : s.outer = []
  groups : s.groups.length = count
  flags : s.flags = []
  awaited : s.awaited = []
  balanced : s.unbalanced = false
  sound : s.flawed = false

namespace Reads

variable {o : Options} {row : List Node} {count : Nat}

theorem initial (o : Options) : (State.initial o).Reads o [] 0 :=
  ⟨rfl, rfl, rfl, rfl, rfl, rfl, rfl, rfl, rfl⟩

theorem add (h : s.Reads o row count) (items : List Item) :
    (s.add items).Reads o (row ++ items.flatMap Item.row) count :=
  { h with row := by rw [currentRow_add, h.row] }

theorem addGroup (h : s.Reads o row count) (body : Node) :
    (s.addGroup body).Reads o (row ++ [.capture (count + 1) body]) (count + 1) := by
  have hitems := h.add [.node (.capture (s.groups.length + 1) body)]
  refine { hitems with row := ?_, groups := ?_ }
  · rw [← h.groups]
    exact hitems.row
  · simp [State.addGroup, h.groups]

/-- A pattern that is read as a row has that row for its tree. -/
theorem parseWith_eq {text : List Char} (h : s.Reads o row count)
    (hread : (State.initial o).read text.length text = .ok s) :
    parseWith o text = .ok s ∧ s.tree = Node.row row := by
  constructor
  · rw [parseWith, hread]
    simp [finish, areClashing, h.outer, h.flags, h.awaited, h.balanced, h.sound]
  · rw [tree, Level.row, h.branches, h.row]
    rfl

end Reads

end State

end KeywordCatalog.Pattern
