import KeywordCatalog.Proofs.Pattern.Regular

/-!
# Patterns that are spelled piece by piece

A pattern is often put together from pieces: letters, escaped signs, classes, anchors and repetitions
of a single test. `Spells o text nodes` says that a piece, read under the options `o`, puts a row of
trees on the current branch, whatever piece follows. Pieces are put one after the other
(`Spells.append`), and around a row of pieces there can be a group (`Spells.group`) or parentheses
that keep nothing (`Spells.parens`).

What follows a piece must not change it: after a repetition mark, a second mark would change its
greed. No piece starts with such a mark (`EndsRepetition`).

The last section is about patterns that start with the options for letter case and for lines, and go
on with one row or with a choice between two groups (`exists_compile_row`, `exists_compile_groups`).
-/

namespace KeywordCatalog.Pattern

open Text

variable {s s' s'' : State} {o : Options} {c : Char} {text first second more tail : List Char}
  {nodes row : List Node} {test : CharTest}

/-- Whether a text leaves a repetition mark before it as it is. -/
def EndsRepetition (rest : List Char) : Prop := ∀ c ∈ rest.head?, c ≠ '?' ∧ c ≠ '+'

theorem endsRepetition_cons (hc : c ≠ '?' ∧ c ≠ '+') (rest : List Char) :
    EndsRepetition (c :: rest) := by
  intro d hd
  obtain rfl := Option.some.inj hd
  exact hc

theorem EndsRepetition.append (h : EndsRepetition first) (h' : EndsRepetition second) :
    EndsRepetition (first ++ second) := by
  cases first with
  | nil => exact h'
  | cons c first => exact endsRepetition_cons (h c rfl) _

theorem isLiteral_ne (h : isLiteral c = true) {d : Char} (hd : isLiteral d = false) : c ≠ d := by
  rintro rfl
  rw [h] at hd
  cases hd

theorem endsRepetition_literals (h : ∀ c ∈ text, isLiteral c = true) : EndsRepetition text := by
  intro c hc
  have hliteral := h c (List.mem_of_mem_head? hc)
  exact ⟨isLiteral_ne hliteral rfl, isLiteral_ne hliteral rfl⟩

/-! ### Ways through a text -/

namespace State

/-- Whether reading a text leads from one state to another, whatever follows the text. -/
def LeadsTo (s : State) (text : List Char) (s' : State) : Prop :=
  ∀ rest fuel, EndsRepetition rest → (text ++ rest).length ≤ fuel →
    ∃ left, rest.length ≤ left ∧ s.read fuel (text ++ rest) = s'.read left rest

theorem LeadsTo.refl (s : State) : s.LeadsTo [] s :=
  fun _ fuel _ hfuel => ⟨fuel, hfuel, rfl⟩

theorem LeadsTo.trans (h : s.LeadsTo first s') (h' : s'.LeadsTo second s'')
    (hsecond : EndsRepetition second) : s.LeadsTo (first ++ second) s'' := by
  intro rest fuel hrest hfuel
  rw [List.append_assoc] at hfuel ⊢
  obtain ⟨left, hleft, hread⟩ := h (second ++ rest) fuel (hsecond.append hrest) hfuel
  obtain ⟨left', hleft', hread'⟩ := h' rest left hrest hleft
  exact ⟨left', hleft', hread.trans hread'⟩

/-- A step takes its construct, and the way goes on from the state after it. -/
theorem LeadsTo.of_step (hc : c ≠ ')' ∨ s.outer ≠ []) (hdepth : s'.outer.length ≤ levelLimit)
    (hstep : ∀ rest, EndsRepetition rest →
      s.step c (tail ++ (more ++ rest)) = .ok (s', more ++ rest))
    (h : s'.LeadsTo more s'') : s.LeadsTo (c :: (tail ++ more)) s'' := by
  intro rest fuel hrest hfuel
  simp only [List.cons_append, List.length_cons, List.length_append, List.append_assoc] at hfuel ⊢
  obtain ⟨fuel, rfl⟩ : ∃ fuel', fuel = fuel' + 1 := ⟨fuel - 1, by omega⟩
  obtain ⟨left, hleft, hread⟩ := h rest fuel hrest (by rw [List.length_append]; omega)
  exact ⟨left, hleft, (read_of_step hc (hstep rest hrest) hdepth fuel).trans hread⟩

/-- A construct alone. -/
theorem LeadsTo.single (hc : c ≠ ')' ∨ s.outer ≠ []) (hdepth : s'.outer.length ≤ levelLimit)
    (hstep : ∀ rest, EndsRepetition rest → s.step c (tail ++ rest) = .ok (s', rest)) :
    s.LeadsTo (c :: tail) s' := by
  have h : s.LeadsTo (c :: (tail ++ [])) s' := .of_step hc hdepth hstep (.refl s')
  rwa [List.append_nil] at h

/-- A way through the whole text ends the reading. -/
theorem LeadsTo.read_eq (h : s.LeadsTo text s') : s.read text.length text = .ok s' := by
  obtain ⟨left, -, hread⟩ := h [] text.length (by simp [EndsRepetition]) (by simp)
  rw [List.append_nil] at hread
  exact hread.trans (read_nil left s')

end State

/-! ### Pieces -/

/-- Whether a text, read under some options, puts a row of trees on the current branch, and leaves a
repetition before it as it is. -/
structure Spells (o : Options) (text : List Char) (nodes : List Node) : Prop where
  endsRepetition : EndsRepetition text
  leadsTo : ∀ s : State, s.options = o → s.outer.length ≤ State.levelLimit →
    s.LeadsTo text (s.add (nodes.map .node))

/-- Whether options leave blanks and repetitions as they are. -/
structure Options.IsUsual (o : Options) : Prop where
  spaced : o.spaced = false
  unrepeated : o.unrepeated = false

namespace Spells

theorem nil : Spells o [] [] where
  endsRepetition := by simp [EndsRepetition]
  leadsTo := fun s _ _ => .refl s

theorem append {more : List Node} (h : Spells o first nodes) (h' : Spells o second more) :
    Spells o (first ++ second) (nodes ++ more) where
  endsRepetition := h.endsRepetition.append h'.endsRepetition
  leadsTo := by
    intro s hs hdepth
    have hway := (h.leadsTo s hs hdepth).trans (h'.leadsTo (s.add (nodes.map .node)) hs hdepth)
      h'.endsRepetition
    rwa [State.add_add, ← List.map_append] at hway

/-- Pieces for the members of a list. -/
theorem flatMap {α : Type} {items : List α} {texts : α → List Char} {trees : α → List Node}
    (h : ∀ a ∈ items, Spells o (texts a) (trees a)) :
    Spells o (items.flatMap texts) (items.flatMap trees) := by
  induction items with
  | nil => exact nil
  | cons a items ih =>
    obtain ⟨ha, h⟩ := List.forall_mem_cons.1 h
    rw [List.flatMap_cons, List.flatMap_cons]
    exact ha.append (ih h)

end Spells

/-- A mark repeats the test that stands before it, as often as possible. -/
theorem State.repeatLast_test {least : Nat} {most : Option Nat} {rest : List Char}
    (hunrepeated : s.options.unrepeated = false) (hrest : EndsRepetition rest) :
    (s.push (.one test)).repeatLast least most rest =
      .ok (s.push (.span least most .greedy test), rest) := by
  have hunrepeated' : s.level.options.unrepeated = false := hunrepeated
  cases rest with
  | nil =>
    simp [repeatLast, push, pushItem, State.options, hunrepeated', Node.isRepetition, Item.row,
      Node.rounds_one]
  | cons c rest =>
    obtain ⟨hquestion, hplus⟩ := hrest c rfl
    simp [repeatLast, push, pushItem, State.options, hunrepeated', Node.isRepetition, Item.row,
      Node.rounds_one, hquestion, hplus]

/-- A parenthesis without a question mark after it opens a group. -/
theorem State.step_open {rest : List Char} (hspaced : s.options.spaced = false)
    (hrest : ∀ c ∈ rest.head?, c ≠ '?') :
    s.step '(' rest = .ok (s.openCapture none, rest) := by
  unfold step
  cases rest with
  | nil => simp [hspaced, readOpening]
  | cons c rest =>
    have hc : c ≠ '?' := hrest c rfl
    simp [hspaced, readOpening, hc]

/-- A group that is still open has no width. -/
theorem State.groupWidth_openCapture (s : State) (name : Option (List Char)) :
    (s.openCapture name).groupWidth = s.groupWidth := by
  funext number
  have hgroups : (s.openCapture name).groups = s.groups ++ [⟨name, none⟩] := rfl
  rw [groupWidth, groupWidth, hgroups]
  rcases Nat.lt_trichotomy (number - 1) s.groups.length with hlt | heq | hgt
  · rw [List.getElem?_append_left hlt]
  · simp [heq]
  · rw [List.getElem?_eq_none (by simp; omega), List.getElem?_eq_none (by omega)]

theorem flatMap_row_node (nodes : List Node) : (nodes.map Item.node).flatMap Item.row = nodes := by
  induction nodes with
  | nil => rfl
  | cons node nodes ih =>
    rw [List.map_cons, List.flatMap_cons, ih]
    rfl

theorem State.step_close (hspaced : s.options.spaced = false) (nodes : List Node)
    (rest : List Char) : ((s.openCapture none).add (nodes.map .node)).step ')' rest =
      .ok (s.addGroup (Node.row nodes), rest) := by
  have hspaced' : s.level.options.spaced = false := hspaced
  have hwidth : ((s.openCapture none).add (nodes.map .node)).groupWidth = s.groupWidth :=
    s.groupWidth_openCapture none
  have hrow : ((s.openCapture none).add (nodes.map .node)).level.row = nodes := by
    have hcurrent : ((s.openCapture none).add (nodes.map .node)).level.currentRow = nodes :=
      (currentRow_add _ _).trans (flatMap_row_node nodes)
    rw [Level.row, hcurrent]
    rfl
  unfold step close
  rw [hrow, hwidth]
  simp [State.options, openCapture, openLevel, add, addGroup, pushItem, Except.map, modify_concat,
    hspaced']

/-- Whether a text is one construct that puts a test on the current branch, whatever follows it. -/
def SpellsTest (o : Options) (text : List Char) (test : CharTest) : Prop :=
  ∃ c tail, text = c :: tail ∧ c ≠ ')' ∧ c ≠ '?' ∧ c ≠ '+' ∧
    ∀ (s : State) (rest : List Char), s.options = o →
      s.step c (tail ++ rest) = .ok (s.push (.one test), rest)

namespace SpellsTest

theorem endsRepetition (h : SpellsTest o text test) : EndsRepetition text := by
  obtain ⟨c, tail, rfl, -, hquestion, hplus, -⟩ := h
  exact endsRepetition_cons ⟨hquestion, hplus⟩ tail

theorem spells (h : SpellsTest o text test) : Spells o text [.one test] := by
  refine ⟨h.endsRepetition, fun s hs hdepth => ?_⟩
  obtain ⟨c, tail, rfl, hc, -, -, hstep⟩ := h
  exact .single (Or.inl hc) hdepth fun rest _ => hstep s rest hs

section Signs

variable (ho : o.IsUsual)

include ho

/-- A letter, or a dot after a backslash. -/
theorem spelled (hc : isSpellable c = true) :
    SpellsTest o (spelling c) (.letter o.rule false (codeOf c)) := by
  obtain ⟨d, tail, hspelling, ⟨hclose, hquestion, hplus⟩, hstep⟩ := State.exists_step_spelling hc
  refine ⟨d, tail, hspelling, hclose, hquestion, hplus, fun s rest hs => ?_⟩
  rw [hstep s rest (hs ▸ ho.spaced), hs]
  rfl

theorem letter (hc : isLiteral c = true) :
    SpellsTest o [c] (.letter o.rule false (codeOf c)) := by
  have hdot : c ≠ '.' := isLiteral_ne hc rfl
  have hspelling : spelling c = [c] := by simp [spelling, hdot]
  exact hspelling ▸ spelled ho (by simp [isSpellable, hc])

/-- A sign of a pattern stands for itself after a backslash. -/
theorem escaped (hc : c ∈ ['$', '\x7b', '\x7d', '@', '&', '(']) :
    SpellsTest o ['\\', c] (.letter o.rule false (codeOf c)) := by
  refine ⟨'\\', [c], rfl, by decide, by decide, by decide, fun s rest hs => ?_⟩
  have hspaced : s.options.spaced = false := hs ▸ ho.spaced
  have hstep : s.step '\\' (c :: rest) = s.readEscape (c :: rest) := by
    unfold State.step
    simp [hspaced]
  have hescape : s.readEscape (c :: rest) = .ok (s.pushCode (codeOf c), rest) := by
    simp only [List.mem_cons, List.not_mem_nil, or_false] at hc
    rcases hc with rfl | rfl | rfl | rfl | rfl | rfl <;> rfl
  rw [List.singleton_append, hstep, hescape, State.pushCode, hs]

theorem dot : SpellsTest o ['.'] (.dot o.dotBreaks) := by
  refine ⟨'.', [], rfl, by decide, by decide, by decide, fun s rest hs => ?_⟩
  unfold State.step
  simp [hs, ho.spaced]

/-- A class whose members and closing bracket are read from a text. -/
theorem ofClass (h : ∀ rest, readClass o.rule o.narrow (text ++ rest) = some (test, rest)) :
    SpellsTest o ('[' :: text) test := by
  refine ⟨'[', text, rfl, by decide, by decide, by decide, fun s rest hs => ?_⟩
  unfold State.step
  simp [hs, ho.spaced, h, orMalformed, bind, Except.bind, pure, Except.pure]

/-- A repetition mark after a test. -/
theorem repeated {least : Nat} {most : Option Nat} (h : SpellsTest o text test) (hc : c ≠ ')')
    (hmark : ∀ (s : State) (rest : List Char), s.options = o →
      s.step c rest = s.repeatLast least most rest) :
    Spells o (text ++ [c]) [.span least most .greedy test] := by
  obtain ⟨d, tail, rfl, hd, hquestion, hplus, hstep⟩ := h
  refine ⟨endsRepetition_cons ⟨hquestion, hplus⟩ _, fun s hs hdepth => ?_⟩
  have hdepth₁ : (s.push (.one test)).outer.length ≤ State.levelLimit := hdepth
  have hmarked : (s.push (.one test)).LeadsTo [c] (s.push (.span least most .greedy test)) := by
    refine .single (Or.inl hc) hdepth fun rest hrest => ?_
    rw [List.nil_append, hmark (s.push (.one test)) rest hs]
    exact State.repeatLast_test (by rw [hs, ho.unrepeated]) hrest
  exact .of_step (Or.inl hd) hdepth₁ (fun rest _ => hstep s ([c] ++ rest) hs) hmarked

theorem optional (h : SpellsTest o text test) :
    Spells o (text ++ ['?']) [.span 0 (some 1) .greedy test] := by
  refine h.repeated ho (by decide) fun s rest hs => ?_
  unfold State.step
  simp [hs, ho.spaced]

theorem many (h : SpellsTest o text test) :
    Spells o (text ++ ['+']) [.span 1 none .greedy test] := by
  refine h.repeated ho (by decide) fun s rest hs => ?_
  unfold State.step
  simp [hs, ho.spaced]

theorem anyNumber (h : SpellsTest o text test) :
    Spells o (text ++ ['*']) [.span 0 none .greedy test] := by
  refine h.repeated ho (by decide) fun s rest hs => ?_
  unfold State.step
  simp [hs, ho.spaced]

end Signs

end SpellsTest

namespace Spells

/-- Letters that stand for themselves. -/
theorem letters (ho : o.IsUsual) (h : ∀ c ∈ text, isLiteral c = true) :
    Spells o text (text.map (letterNode o.rule)) := by
  have hrow : Spells o (text.flatMap fun c => [c]) (text.flatMap fun c => [letterNode o.rule c]) :=
    flatMap fun c hc => (SpellsTest.letter ho (h c hc)).spells
  rwa [List.flatMap_singleton', ← List.map_eq_flatMap] at hrow

/-- Letters and dots, as they are spelled. -/
theorem spelled (ho : o.IsUsual) (h : ∀ c ∈ text, isSpellable c = true) :
    Spells o (text.flatMap spelling) (text.map (letterNode o.rule)) := by
  rw [List.map_eq_flatMap]
  exact flatMap fun c hc => (SpellsTest.spelled ho (h c hc)).spells

/-- A sign that puts one tree on the branch. -/
theorem ofSign {node : Node} (hc : c ≠ ')' ∧ c ≠ '?' ∧ c ≠ '+')
    (hstep : ∀ (s : State) (rest : List Char), s.options = o →
      s.step c rest = .ok (s.push node, rest)) : Spells o [c] [node] :=
  ⟨endsRepetition_cons hc.2 [], fun s hs hdepth =>
    .single (Or.inl hc.1) hdepth fun rest _ => hstep s rest hs⟩

theorem lineStart (ho : o.IsUsual) : Spells o ['^'] [.anchor (.lineStart o.everyLine)] := by
  refine ofSign (by decide) fun s rest hs => ?_
  unfold State.step
  simp [hs, ho.spaced]

theorem lineEnd (ho : o.IsUsual) : Spells o ['$'] [.anchor (.lineEnd o.everyLine)] := by
  refine ofSign (by decide) fun s rest hs => ?_
  unfold State.step
  simp [hs, ho.spaced]

/-- A brace that starts no count stands for itself. -/
theorem brace (ho : o.IsUsual)
    (hcount : ∀ (s : State) (rest : List Char), EndsRepetition rest →
      s.readCount (text ++ rest) = .ok (s.pushCode (codeOf '\x7b'), text ++ rest))
    (h : Spells o text nodes) : Spells o ('\x7b' :: text) (letterNode o.rule '\x7b' :: nodes) := by
  refine ⟨endsRepetition_cons (by decide) text, fun s hs hdepth => ?_⟩
  let s₁ := s.push (letterNode o.rule '\x7b')
  have hway : s.LeadsTo ('\x7b' :: ([] ++ text)) (s₁.add (nodes.map .node)) := by
    have hdepth₁ : s₁.outer.length ≤ State.levelLimit := hdepth
    refine .of_step (Or.inl (by decide)) hdepth₁ (fun rest hrest => ?_) (h.leadsTo s₁ hs hdepth)
    have hstep : s.step '\x7b' (text ++ rest) = s.readCount (text ++ rest) := by
      unfold State.step
      simp [hs, ho.spaced]
    rw [List.nil_append, hstep, hcount s rest hrest, State.pushCode, hs]
    rfl
  rw [List.nil_append] at hway
  have hadd : s₁.add (nodes.map .node) = s.add ((letterNode o.rule '\x7b' :: nodes).map .node) := by
    simp [s₁, State.push, State.pushItem, State.add]
  rwa [hadd] at hway

/-- A group around a row of pieces. -/
theorem group (ho : o.IsUsual) (h : Spells o text nodes) (hs : s.options = o)
    (hdepth : s.outer.length < State.levelLimit) :
    s.LeadsTo ('(' :: (text ++ [')'])) (s.addGroup (Node.row nodes)) := by
  have hspaced : s.options.spaced = false := hs ▸ ho.spaced
  have hclose : EndsRepetition [')'] := endsRepetition_cons (by decide) []
  have hopened : s.LeadsTo ['('] (s.openCapture none) :=
    .single (Or.inl (by decide)) hdepth fun rest hrest =>
      State.step_open hspaced fun c hc => (hrest c hc).1
  have hclosed : ((s.openCapture none).add (nodes.map .node)).LeadsTo [')']
      (s.addGroup (Node.row nodes)) :=
    .single (Or.inr (List.cons_ne_nil _ _)) (Nat.le_of_lt hdepth) fun rest _ =>
      State.step_close hspaced nodes rest
  have hinside := (h.leadsTo (s.openCapture none) hs hdepth).trans hclosed hclose
  exact hopened.trans hinside (h.endsRepetition.append hclose)

/-- Parentheses that only hold a row of pieces together. -/
theorem parens (ho : o.IsUsual) (h : Spells o text nodes) (hs : s.options = o)
    (hdepth : s.outer.length < State.levelLimit) :
    s.LeadsTo ("(?:".toList ++ (text ++ [')'])) (s.add [.parens nodes]) := by
  have hspaced : s.options.spaced = false := hs ▸ ho.spaced
  have hclose : EndsRepetition [')'] := endsRepetition_cons (by decide) []
  have hopened : s.LeadsTo ('(' :: ['?', ':']) (s.openLevel .plain s.options) := by
    refine .single (Or.inl (by decide)) hdepth fun rest _ => ?_
    unfold State.step
    simp only [hspaced, Bool.false_and, Bool.false_eq_true, if_false]
    rfl
  have hclosed : ((s.openLevel .plain s.options).add (nodes.map .node)).LeadsTo [')']
      (s.add [.parens nodes]) := by
    refine .single (Or.inr (List.cons_ne_nil _ _)) (Nat.le_of_lt hdepth) fun rest _ => ?_
    have hspaced' : s.level.options.spaced = false := hspaced
    simpa [State.step, State.close, State.openLevel, State.add, State.pushItem, State.options,
      Level.row, Level.currentRow, Except.map, hspaced'] using flatMap_row_node nodes
  have hinside := (h.leadsTo (s.openLevel .plain s.options) hs hdepth).trans hclosed hclose
  exact hopened.trans hinside (h.endsRepetition.append hclose)

end Spells

/-! ### Compiling -/

/-- A test, an anchor or a greedy repetition of a test. -/
def Node.IsPiece : Node → Prop
  | .one _ | .anchor _ | .span _ _ .greedy _ => True
  | _ => False

theorem Node.IsPiece.isRegular {node : Node} (h : node.IsPiece) : node.IsRegular := by
  unfold IsPiece at h
  split at h
  · trivial
  · trivial
  · exact Greed.noConfusion
  · cases h

theorem Node.IsPiece.numbered {node : Node} (h : node.IsPiece) (lo : Nat) : node.Numbered lo lo := by
  unfold IsPiece at h
  split at h
  · exact Nat.le_refl lo
  · exact Nat.le_refl lo
  · exact Nat.le_refl lo
  · cases h

theorem Node.numbered_pieces (h : ∀ node ∈ nodes, node.IsPiece) (lo : Nat) :
    (Node.row nodes).Numbered lo lo := by
  induction nodes with
  | nil => exact Nat.le_refl lo
  | cons node nodes ih =>
    obtain ⟨hnode, h⟩ := List.forall_mem_cons.1 h
    exact Node.numbered_row_cons (hnode.numbered lo) (ih h)

theorem isPiece_letterNode (rule : CaseRule) (c : Char) : (letterNode rule c).IsPiece := trivial

theorem isPiece_letters (rule : CaseRule) (text : List Char) :
    ∀ node ∈ text.map (letterNode rule), node.IsPiece := by
  intro node hnode
  obtain ⟨c, -, rfl⟩ := List.mem_map.1 hnode
  exact isPiece_letterNode rule c

/-- The options of a pattern that ignores case and has line anchors at every line. -/
def lineOptions : Options := { ignoreCase := true, everyLine := true }

theorem lineOptions_isUsual : lineOptions.IsUsual := ⟨rfl, rfl⟩

/-- The state after the options have been read. -/
def lineState : State := (State.initial {}).turnOn ['i', 'm']

theorem leadsTo_lineState : (State.initial {}).LeadsTo "(?im)".toList lineState := by
  change (State.initial {}).LeadsTo ('(' :: ['?', 'i', 'm', ')']) lineState
  exact .single (Or.inl (by decide)) (by decide) fun rest _ => rfl

/-- A row of pieces after the options is read as that row. -/
theorem exists_compile_row {first : Node} (h : Spells lineOptions text (first :: nodes))
    (hpieces : ∀ node ∈ first :: nodes, node.IsPiece) (hfirst : first.firstTest? = none) :
    ∃ p, compileWith {} ("(?im)".toList ++ text) = .ok p ∧ p.tree = Node.row (first :: nodes) ∧
      p.IsRegular := by
  have hway := leadsTo_lineState.trans (h.leadsTo lineState rfl (by decide)) h.endsRepetition
  have hparse : parseWith {} ("(?im)".toList ++ text) =
      .ok (lineState.add ((first :: nodes).map .node)) := by
    rw [parseWith, hway.read_eq]
    rfl
  have htree : (lineState.add ((first :: nodes).map .node)).tree = Node.row (first :: nodes) := by
    have hcurrent : (lineState.add ((first :: nodes).map .node)).level.currentRow = first :: nodes :=
      (State.currentRow_add _ _).trans (flatMap_row_node _)
    exact congrArg Node.row hcurrent
  have hset : ∀ rule negated items, (lineState.add ((first :: nodes).map .node)).tree.firstTest? ≠
      some (.oneOf rule negated items) := by
    intro rule negated items heq
    rw [htree, Node.firstTest?_row_cons, hfirst] at heq
    cases heq
  obtain ⟨p, hp, hptree, hregular⟩ := exists_compileWith hparse
    (htree ▸ Node.isRegular_row fun node hnode => (hpieces node hnode).isRegular)
    (htree ▸ Node.numbered_pieces hpieces 0) hset
  exact ⟨p, hp, hptree.trans htree, hregular⟩

/-- The text of a choice between two groups, after the options. -/
def groupsText (first second : List Char) : List Char :=
  "(?im)".toList ++ ('(' :: (first ++ [')']) ++ ('|' :: '(' :: (second ++ [')'])))

/-- Two groups of pieces after the options are read as a choice between them. -/
theorem exists_compile_groups {nodes' : List Node} (h : Spells lineOptions first nodes)
    (h' : Spells lineOptions second nodes') (hpieces : ∀ node ∈ nodes, node.IsPiece)
    (hpieces' : ∀ node ∈ nodes', node.IsPiece) :
    ∃ p, compileWith {} (groupsText first second) = .ok p ∧
      p.tree = .alt (.capture 1 (Node.row nodes)) (.capture 2 (Node.row nodes')) ∧
      p.IsRegular := by
  let s₁ := lineState.addGroup (Node.row nodes)
  let s₂ : State :=
    { s₁ with level := { s₁.level with branches := [s₁.level.currentRow], items := [] } }
  let s₃ := s₂.addGroup (Node.row nodes')
  have hbar : s₁.LeadsTo ['|'] s₂ :=
    .single (Or.inl (by decide)) (Nat.zero_le _) fun rest _ => rfl
  have hdepth : 0 < State.levelLimit := by decide
  have hgroup : lineState.LeadsTo ('(' :: (first ++ [')'])) s₁ :=
    h.group lineOptions_isUsual rfl hdepth
  have hgroup' : s₂.LeadsTo ('(' :: (second ++ [')'])) s₃ :=
    h'.group lineOptions_isUsual rfl hdepth
  have hway : (State.initial {}).LeadsTo (groupsText first second) s₃ :=
    leadsTo_lineState.trans
      (hgroup.trans (hbar.trans hgroup' (endsRepetition_cons (by decide) _))
        (endsRepetition_cons (by decide) _)) (endsRepetition_cons (by decide) _)
  have hparse : parseWith {} (groupsText first second) = .ok s₃ := by
    rw [parseWith, hway.read_eq]
    rfl
  have htree : s₃.tree = .alt (.capture 1 (Node.row nodes)) (.capture 2 (Node.row nodes')) := rfl
  have hregular {nodes : List Node} (hpieces : ∀ node ∈ nodes, node.IsPiece) :
      (Node.row nodes).IsRegular :=
    Node.isRegular_row fun node hnode => (hpieces node hnode).isRegular
  have hnumbered : s₃.tree.Numbered 0 4 := by
    rw [htree]
    exact ⟨⟨by decide, by decide, Node.numbered_pieces hpieces _, by decide⟩,
      ⟨by decide, by decide, Node.numbered_pieces hpieces' _, by decide⟩⟩
  have hset : ∀ rule negated items, s₃.tree.firstTest? ≠ some (.oneOf rule negated items) := by
    intro rule negated items heq
    rw [htree] at heq
    cases heq
  obtain ⟨p, hp, hptree, hp'⟩ := exists_compileWith hparse
    (htree ▸ ⟨hregular hpieces, hregular hpieces'⟩) hnumbered hset
  exact ⟨p, hp, hptree.trans htree, hp'⟩

end KeywordCatalog.Pattern
