import KeywordCatalog.Proofs.Completion.Variables
import KeywordCatalog.Proofs.Pattern.Leftmost

/-!
# Variables around the cursor

What is completed at the cursor is looked for in the cell: the word up to the cursor and the whole line
after it. The pattern for it is a variable that has the typed text as its name, whatever the case, and
the first such variable is found (`exists_compile_variableRow`), also if the cursor is in another one.

Only if the cell has no such variable, the first sigil in a window of three characters around the
cursor is taken (`exists_query`). The window can start with another sigil (`head?_window_concat`), and
at the first column it is not around the cursor at all (`head?_window_start`).
-/

namespace KeywordCatalog.Completion

open Text Pattern

variable {name cell text : List Char} {line typed : String} {column : Nat}

/-! ### The first variable with a name -/

/-- Whether a text is a variable with a name, upper and lower case being the same. -/
def IsVariableNamed (name text : List Char) : Prop :=
  ∃ sigil part, Variable.isSigil sigil = true ∧
    List.Forall₂ (fun c d => alike c d = true) name part ∧
    text = sigil :: '\x7b' :: (part ++ ['\x7d'])

/-- Whether a variable with a name is in a cell. -/
def HasVariable (name cell : List Char) : Prop :=
  ∃ skipped text rest, cell = skipped ++ text ++ rest ∧ IsVariableNamed name text

/-- Whether a text is the first variable in a cell that has a name. -/
def IsFirstVariable (name cell text : List Char) : Prop :=
  IsVariableNamed name text ∧ ∃ skipped rest, cell = skipped ++ text ++ rest ∧
    ∀ earlier other later, cell = earlier ++ other ++ later → IsVariableNamed name other →
      skipped.length ≤ earlier.length

theorem IsVariableNamed.length_eq (h : IsVariableNamed name text) :
    text.length = name.length + 3 := by
  obtain ⟨sigil, part, -, hpart, rfl⟩ := h
  simp [hpart.length_eq]

theorem IsFirstVariable.hasVariable (h : IsFirstVariable name cell text) : HasVariable name cell := by
  obtain ⟨hname, skipped, rest, htext, -⟩ := h
  exact ⟨skipped, text, rest, htext, hname⟩

/-- No two variables are the first. -/
theorem IsFirstVariable.eq {other : List Char} (h : IsFirstVariable name cell text)
    (h' : IsFirstVariable name cell other) : text = other := by
  obtain ⟨hname, skipped, rest, htext, hfirst⟩ := h
  obtain ⟨hname', skipped', rest', htext', hfirst'⟩ := h'
  have hlength : skipped.length = skipped'.length :=
    Nat.le_antisymm (hfirst _ _ _ htext' hname') (hfirst' _ _ _ htext hname)
  rw [htext, List.append_assoc, List.append_assoc] at htext'
  obtain ⟨-, hrest⟩ := List.append_inj htext' hlength
  exact (List.append_inj hrest (hname.length_eq.trans hname'.length_eq.symm)).1

/-! ### The pattern -/

/-- The members of the class of sigils. -/
def sigilItems : List ClassItem := [.char (codeOf '$'), .char (codeOf '@'), .char (codeOf '&')]

theorem isCased_sigilItems (rule : CaseRule) :
    sigilItems.any (ClassItem.isCased rule) = false := by
  cases rule with
  | exact => rfl
  | latin => decide
  | all => decide +kernel

theorem accepts_sigilItems (rule : CaseRule) (c : Char) :
    (CharTest.oneOf rule false sigilItems).accepts c = Variable.isSigil c := by
  have hsame (d : Char) : (codeOf d == codeOf c) = (c == d) := by
    rw [Bool.eq_iff_iff, beq_iff_eq, beq_iff_eq, codeOf_inj, eq_comm]
  rw [CharTest.accepts, isCased_sigilItems, if_neg Bool.false_ne_true]
  simp [sigilItems, ClassItem.has, hsame, Variable.isSigil, Bool.or_assoc]

/-- The class of sigils. -/
def sigilTest : CharTest := .oneOf .all false sigilItems

theorem accepts_sigilTest (c : Char) : sigilTest.accepts c = Variable.isSigil c :=
  accepts_sigilItems .all c

theorem spellsTest_sigil :
    SpellsTest caselessOptions ['[', '\\', '$', '\\', '@', '\\', '&', ']'] sigilTest :=
  .ofClass caselessOptions_isUsual fun rest => by
    have hclass : classTest caselessOptions.rule false sigilItems = sigilTest := by
      have hrule : caselessOptions.rule = .all := rfl
      simp [classTest, sigilItems, sigilTest, List.eraseDups_cons, codeOf_inj, hrule]
    rw [sigilItems] at hclass
    simp [readClass, readMembers, readMember, controlCode?, category?, startsCode, isOctal, hclass]

/-- The row of a variable with a name. -/
def variableRow (name : List Char) : List Node :=
  .one sigilTest :: letterNode .all '\x7b' :: (name.map (letterNode .all) ++ [letterNode .all '\x7d'])

theorem takes_variableRow {before taken rest : List Char} :
    (Node.row (variableRow name)).Takes before taken rest ↔ IsVariableNamed name taken := by
  have hopening : isSign '\x7b' = true := isSign_of_mem (by decide)
  have hclosing : isSign '\x7d' = true := isSign_of_mem (by decide)
  simp only [variableRow, @Node.takes_row_cons (.one sigilTest), takes_signRow hopening,
    takes_lettersRow, takes_signRow hclosing]
  constructor
  · rintro ⟨_, _, rfl, ⟨sigil, hsigil, rfl⟩, _, rfl, part, _, rfl, hpart, _, rfl, rfl⟩
    exact ⟨sigil, part, accepts_sigilTest sigil ▸ hsigil, hpart, rfl⟩
  · rintro ⟨sigil, part, hsigil, hpart, rfl⟩
    exact ⟨[sigil], _, rfl, ⟨sigil, accepts_sigilTest sigil ▸ hsigil, rfl⟩, _, rfl, part, _, rfl,
      hpart, [], rfl, rfl⟩

theorem spells_variableRow (hname : ∀ c ∈ name, isLiteral c = true) :
    Spells caselessOptions (['[', '\\', '$', '\\', '@', '\\', '&', ']'] ++ (['\\', '\x7b'] ++
      (name ++ ['\\', '\x7d']))) (variableRow name) := by
  exact spellsTest_sigil.spells.append ((spells_sign (by decide)).append
    ((Spells.letters caselessOptions_isUsual hname).append (spells_sign (by decide))))

theorem isPiece_variableRow (name : List Char) : ∀ node ∈ variableRow name, node.IsPiece := by
  refine List.forall_mem_cons.2 ⟨trivial, List.forall_mem_cons.2 ⟨trivial, ?_⟩⟩
  exact List.forall_mem_append.2 ⟨isPiece_letters .all name, List.forall_mem_singleton.2 trivial⟩

/-- A match can start at a sigil only. -/
theorem entryTest?_variableRow (narrow : Bool) :
    entryTest? narrow (Node.row (variableRow name)) = some (.oneOf .exact false sigilItems) := by
  have hfirst : (Node.row (variableRow name)).firstTest? = some (.oneOf .all false sigilItems) :=
    Node.firstTest?_row_cons
  have hplain : startsPlainly .all sigilItems = true := by
    have hcased := isCased_sigilItems .all
    simp [sigilItems, ClassItem.isCased] at hcased
    simp [startsPlainly, sigilItems, hcased]
  rw [entryTest?, hfirst]
  dsimp only
  rw [if_pos hplain]
  rfl

/-- The pattern finds the first variable with the name. -/
theorem exists_compile_variableRow (htyped : ∀ c ∈ typed.toList, isLiteral c = true) :
    ∃ p, Pattern.compile ("(?i)[\\$\\@\\&]\\\x7b" ++ typed ++ "\\\x7d") = .ok p ∧
      ∀ cell, ∃ found, p.find cell = .ok found ∧
        (found = none → ¬HasVariable typed.toList cell) ∧
        ∀ m ∈ found, IsFirstVariable typed.toList cell m.text := by
  obtain ⟨s, hparse, htree⟩ := parseWith_caselessRow (spells_variableRow htyped)
  have hpieces := isPiece_variableRow typed.toList
  obtain ⟨p, hp, hptree, hregular, hentry⟩ := exists_compileWith_anywhere hparse
    (htree ▸ Node.isRegular_row fun node hnode => (hpieces node hnode).isRegular)
    (htree ▸ Node.numbered_pieces hpieces 0)
  have htakes {before taken rest : List Char} :
      p.tree.Takes before taken rest ↔ IsVariableNamed typed.toList taken := by
    rw [hptree, htree]
    exact takes_variableRow
  have hstart (before taken rest : List Char) (h : p.tree.Takes before taken rest) :
      p.mayStart (taken ++ rest) = true := by
    obtain ⟨sigil, part, hsigil, -, rfl⟩ := htakes.1 h
    rw [htree, entryTest?_variableRow] at hentry
    rcases hentry with hentry | hentry
    · simp [mayStart, hentry]
    · simp [mayStart, hentry, accepts_sigilItems, hsigil]
  refine ⟨p, ?_, fun cell => ?_⟩
  · have htext : ("(?i)[\\$\\@\\&]\\\x7b" ++ typed ++ "\\\x7d").toList = "(?i)".toList ++
        (['[', '\\', '$', '\\', '@', '\\', '&', ']'] ++ (['\\', '\x7b'] ++
          (typed.toList ++ ['\\', '\x7d']))) := by
      simp
    rw [Pattern.compile, htext]
    exact hp
  · obtain ⟨found, hfound, hnone, hfirst⟩ := hregular.exists_find_first cell
    refine ⟨found, (find_anywhere (c := p) hregular.tree hstart cell).trans hfound, ?_, ?_⟩
    · rintro rfl ⟨skipped, text, rest, htext, hname⟩
      exact hnone rfl skipped text rest htext (htakes.2 hname)
    · intro m hm
      obtain ⟨skipped, taken, rest, htext, htaken, hleast⟩ := hfirst m hm
      rw [htaken.text]
      exact ⟨htakes.1 htaken.takes, skipped, rest, htext, fun earlier other later hother hname =>
        hleast earlier other later hother (htakes.2 hname)⟩

/-! ### The cell and the window -/

/-- The text in which a variable is looked for: the word up to the cursor and all of the line after
it. -/
def cellAt (line : String) (column : Int) : List Char :=
  Line.wordBefore line.toList column ++ Line.restFrom line.toList column

/-- The first variable of the cell is completed, wherever the cursor is in the cell. Where there is
none, it is the first sigil in a window of three characters. -/
theorem exists_query {column : Int} (htyped : ∀ c ∈ typed.toList, isLiteral c = true) :
    ∃ completed size, query line column typed = .ok (.ofList completed, size) ∧
      (IsFirstVariable typed.toList (cellAt line column) completed ∨
        ¬HasVariable typed.toList (cellAt line column) ∧ completed =
          (sigilIn (between (column - 2) (column + 1) line.toList)).getD typed.toList) := by
  obtain ⟨p, hp, hfind⟩ := exists_compile_variableRow htyped
  obtain ⟨found, hfound, hnone, hfirst⟩ := hfind (cellAt line column)
  rw [cellAt] at hfound
  unfold query
  rw [hp, Outcome.ok_bind, hfound, Outcome.ok_bind]
  cases found with
  | none => exact ⟨_, _, rfl, Or.inr ⟨hnone rfl, rfl⟩⟩
  | some m => exact ⟨_, _, rfl, Or.inl (hfirst m rfl)⟩

theorem exists_sigilIn {c : Char} (hc : Variable.isSigil c = true) (rest : List Char) :
    ∃ tail, sigilIn (c :: rest) = some (c :: tail) := by
  unfold sigilIn
  rw [if_pos hc]
  split <;> exact ⟨_, rfl⟩

theorem between_natCast (i j : Nat) (text : List Char) :
    between i j text = (text.take j).drop i := by
  have htake : text.take (min j text.length) = text.take j := by
    rw [List.take_eq_take_iff]
    omega
  rw [between, bound_natCast, bound_natCast, htake]
  rcases Nat.le_total i text.length with hle | hle
  · rw [Nat.min_eq_left hle]
  · have hlength : (text.take j).length ≤ text.length := (List.take_sublist j text).length_le
    rw [Nat.min_eq_right hle, List.drop_of_length_le hlength,
      List.drop_of_length_le (hlength.trans hle)]

/-- At the first column the left bound of the window is negative, so it is counted from the end of the
line, and the sigil is in the window only if nothing or the same sigil follows. -/
theorem head?_window_start {after : List Char} {sigil : Char}
    (hsigil : Variable.isSigil sigil = true) :
    ((sigilIn (between (-1) 2 (sigil :: after))).getD []).head? = some sigil ↔
      after = [] ∨ after = [sigil] := by
  match after with
  | [] =>
    obtain ⟨tail, htail⟩ := exists_sigilIn hsigil []
    have hwindow : between (-1) 2 [sigil] = [sigil] := rfl
    rw [hwindow, htail]
    simp
  | [d] =>
    have hwindow : between (-1) 2 [sigil, d] = [d] := rfl
    rw [hwindow]
    cases hd : Variable.isSigil d with
    | true =>
      obtain ⟨tail, htail⟩ := exists_sigilIn hd []
      rw [htail]
      simp
    | false =>
      have hne : d ≠ sigil := by
        rintro rfl
        rw [hd] at hsigil
        cases hsigil
      have hnone : sigilIn [d] = none := by simp [sigilIn, hd]
      rw [hnone]
      simpa using hne
  | d :: e :: after =>
    have hwindow : between (-1) 2 (sigil :: d :: e :: after) = [] := by
      have hend : bound (after.length + 3) 2 = 2 := (bound_natCast _ 2).trans (by omega)
      simp [between, bound_neg_one, hend]
    rw [hwindow]
    simp [sigilIn]

/-- Further on, the window starts with the character before the sigil. -/
theorem head?_window_concat {init after : List Char} {d sigil : Char}
    (hsigil : Variable.isSigil sigil = true) :
    ((sigilIn (between (init.length : Nat) (init.length + 3 : Nat)
        (init ++ d :: sigil :: after))).getD []).head? = some sigil ↔
      (Variable.isSigil d = true → d = sigil) := by
  have hwindow : between (init.length : Nat) (init.length + 3 : Nat) (init ++ d :: sigil :: after) =
      d :: sigil :: after.take 1 := by
    rw [between_natCast]
    simp [List.take_append]
  rw [hwindow]
  cases hd : Variable.isSigil d with
  | true =>
    obtain ⟨tail, htail⟩ := exists_sigilIn hd (sigil :: after.take 1)
    rw [htail]
    simp
  | false =>
    obtain ⟨tail, htail⟩ := exists_sigilIn hsigil (after.take 1)
    have hskip : sigilIn (d :: sigil :: after.take 1) = some (sigil :: tail) := by
      rw [← htail]
      conv_lhs => unfold sigilIn
      rw [hd, if_neg Bool.false_ne_true]
    rw [hskip]
    simp

theorem head?_window {before after : List Char} {sigil : Char}
    (hsigil : Variable.isSigil sigil = true) :
    ((sigilIn (between ((before.length + 1 : Nat) - 2) ((before.length + 1 : Nat) + 1)
        (before ++ sigil :: after))).getD []).head? = some sigil ↔
      (before = [] → after = [] ∨ after = [sigil]) ∧
        ∀ d ∈ before.getLast?, Variable.isSigil d = true → d = sigil := by
  obtain rfl | ⟨init, d, rfl⟩ := before.eq_nil_or_concat
  · exact (head?_window_start hsigil).trans (by simp)
  · have hstart : ((init.concat d).length + 1 : Nat) - 2 = (init.length : Int) := by
      rw [List.length_concat]
      omega
    have hend : ((init.concat d).length + 1 : Nat) + 1 = ((init.length + 3 : Nat) : Int) := by
      rw [List.length_concat]
      omega
    rw [hstart, hend, List.concat_append, head?_window_concat hsigil]
    simp

theorem trailing_append {test : Char → Bool} {word : List Char}
    (hword : ∀ c ∈ word, test c = true) (before : List Char) :
    trailing test (before ++ word) = trailing test before ++ word := by
  have hword' : ∀ c ∈ word.reverse, test c = true := fun c hc => hword c (List.mem_reverse.1 hc)
  rw [trailing, List.reverse_append, List.takeWhile_append_of_pos hword', List.reverse_append,
    List.reverse_reverse, trailing]

theorem dropFinalBreak_append {word : List Char} (hword : word ≠ []) (hbreak : '\n' ∉ word)
    (before : List Char) : dropFinalBreak (before ++ word) = before ++ word := by
  unfold dropFinalBreak
  split
  · rename_i hlast
    rw [List.getLast?_append_of_ne_nil _ hword] at hlast
    exact absurd (List.mem_of_getLast? hlast) hbreak
  · rfl

/-- The characters right before the cursor are in the cell if none of them is blank. -/
theorem cellAt_append {before word after : List Char} (hword : ∀ c ∈ word, isBlank c = false)
    (hempty : word ≠ []) (hline : line.toList = before ++ word ++ after) :
    ∃ skipped, cellAt line (before.length + word.length : Nat) = skipped ++ word ++ after := by
  have hbreak : '\n' ∉ word := fun hmem => absurd (hword _ hmem) (by decide)
  have hbound : bound line.toList.length (before.length + word.length : Nat) =
      (before ++ word).length := by
    rw [bound_natCast, hline]
    simp
  have hbefore : Line.wordBefore line.toList (before.length + word.length : Nat) =
      trailing (!isBlank ·) before ++ word := by
    rw [Line.wordBefore, upTo, hbound, hline, List.take_left, dropFinalBreak_append hempty hbreak,
      trailing_append (by simpa using hword)]
  refine ⟨trailing (!isBlank ·) before, ?_⟩
  rw [cellAt, hbefore, Line.restFrom, startingAt, hbound, hline, List.drop_left]

/-! ### What is completed -/

/-- Whether a character is a letter, a digit or a low line of plain text. -/
def isAsciiWord (c : Char) : Bool := c.toNat < 128 && isWordChar c

theorem isAsciiWord_spec {c : Char} (hc : isAsciiWord c = true) :
    isLiteral c = true ∧ isBlank c = false := by
  obtain ⟨hlt, hword⟩ := Bool.and_eq_true_iff.1 hc
  exact isWordChar_ascii (of_decide_eq_true hlt) hword

/-- A variable around the cursor is in the cell. -/
theorem hasVariable_cellAt {before after : List Char} {sigil : Char}
    (htyped : ∀ c ∈ typed.toList, isAsciiWord c = true)
    (hline : line.toList = before ++ sigil :: '\x7b' :: (typed.toList ++ '\x7d' :: after))
    (hcolumn : column = before.length + 2 + typed.toList.length)
    (hsigil : Variable.isSigil sigil = true) : HasVariable typed.toList (cellAt line column) := by
  have hword : ∀ c ∈ sigil :: '\x7b' :: typed.toList, isBlank c = false := by
    refine List.forall_mem_cons.2 ⟨?_, List.forall_mem_cons.2 ⟨rfl, fun c hc => ?_⟩⟩
    · have hsigils : ['$', '@', '&'].all (!isBlank ·) = true := rfl
      simpa using List.all_eq_true.1 hsigils sigil (isSigil_iff.1 hsigil)
    · exact (isAsciiWord_spec (htyped c hc)).2
  have hline' : line.toList = before ++ (sigil :: '\x7b' :: typed.toList) ++ '\x7d' :: after := by
    simp [hline]
  obtain ⟨skipped, hcell⟩ := cellAt_append hword (List.cons_ne_nil _ _) hline'
  have hcolumn' : column = before.length + (sigil :: '\x7b' :: typed.toList).length := by
    simp only [List.length_cons]
    omega
  refine ⟨skipped, sigil :: '\x7b' :: (typed.toList ++ ['\x7d']), after, ?_, sigil, typed.toList,
    hsigil, List.forall₂_same.2 fun c _ => alike_refl c, rfl⟩
  rw [hcolumn', hcell]
  simp

/-- **The first variable with the typed name is completed, not the one at the cursor.** A sigil right
before the cursor is completed exactly if the first variable without a name in the cell has it, or
there is no such variable and the window shows it first. A variable around the cursor is completed
exactly if it is the first one in the cell with its name. -/
theorem query_variable (htyped : ∀ c ∈ typed.toList, isAsciiWord c = true) :
    ∃ completed size, query line column typed = .ok (.ofList completed, size) ∧
      (∀ before sigil after, line.toList = before ++ sigil :: after → column = before.length + 1 →
        Variable.isSigil sigil = true → typed = "" →
        (completed.head? = some sigil ↔
          (∃ text, IsFirstVariable [] (cellAt line column) text ∧ text.head? = some sigil) ∨
          ¬HasVariable [] (cellAt line column) ∧ (before = [] → after = [] ∨ after = [sigil]) ∧
            ∀ d ∈ before.getLast?, Variable.isSigil d = true → d = sigil)) ∧
      ∀ before sigil after,
        line.toList = before ++ sigil :: '\x7b' :: (typed.toList ++ '\x7d' :: after) →
        column = before.length + 2 + typed.toList.length → Variable.isSigil sigil = true →
        IsFirstVariable typed.toList (cellAt line column) completed ∧
          (completed = sigil :: '\x7b' :: (typed.toList ++ ['\x7d']) ↔
            IsFirstVariable typed.toList (cellAt line column)
              (sigil :: '\x7b' :: (typed.toList ++ ['\x7d']))) := by
  obtain ⟨completed, size, hquery, hcompleted⟩ :=
    @exists_query line typed column fun c hc => (isAsciiWord_spec (htyped c hc)).1
  refine ⟨completed, size, hquery, ?_, ?_⟩
  · rintro before sigil after hline rfl hsigil rfl
    rcases hcompleted with hfirst | ⟨hnone, rfl⟩
    · constructor
      · exact fun hhead => Or.inl ⟨completed, hfirst, hhead⟩
      · rintro (⟨text, htext, hhead⟩ | ⟨hnone, -⟩)
        · rwa [hfirst.eq htext]
        · exact absurd hfirst.hasVariable hnone
    · rw [hline]
      refine (head?_window hsigil).trans ⟨fun h => Or.inr ⟨hnone, h⟩, ?_⟩
      rintro (⟨text, htext, -⟩ | ⟨-, h⟩)
      · exact absurd htext.hasVariable hnone
      · exact h
  · intro before sigil after hline hcolumn hsigil
    have hthere := hasVariable_cellAt htyped hline hcolumn hsigil
    have hfirst := hcompleted.resolve_right fun hnone => hnone.1 hthere
    refine ⟨hfirst, fun heq => heq ▸ hfirst, fun h => hfirst.eq h⟩

/-- Of two variables with one name the first is completed with the cursor in the second, and a sigil
at the start of a line is not completed. -/
theorem query_variable_second :
    (∃ size, query "@\x7bx\x7d$\x7bx\x7d" (7 : Nat) "x" = .ok ("@\x7bx\x7d", size)) ∧
    ∃ completed size, query "$ at start" (1 : Nat) "" = .ok (String.ofList completed, size) ∧
      completed.head? ≠ some '$' := by
  constructor
  · obtain ⟨completed, size, hquery, -, haround⟩ :=
      @query_variable "@\x7bx\x7d$\x7bx\x7d" "x" 7
        (List.all_eq_true.1 (by decide +kernel))
    obtain ⟨hfirst, -⟩ := haround ['@', '\x7b', 'x', '\x7d'] '$' [] rfl rfl rfl
    have hfirst' : IsFirstVariable ['x'] (cellAt "@\x7bx\x7d$\x7bx\x7d" (7 : Nat))
        ['@', '\x7b', 'x', '\x7d'] := by
      refine ⟨⟨'@', ['x'], rfl, .cons (alike_refl _) .nil, rfl⟩, [], ['$', '\x7b', 'x', '\x7d'], ?_,
        fun _ _ _ _ _ => Nat.zero_le _⟩
      rfl
    obtain rfl := hfirst.eq hfirst'
    exact ⟨size, hquery⟩
  · obtain ⟨completed, size, hquery, hsigil, -⟩ := @query_variable "$ at start" "" 1 nofun
    refine ⟨completed, size, hquery, fun hhead => ?_⟩
    have hcell : cellAt "$ at start" (1 : Nat) = "$ at start".toList := rfl
    have hnone : ¬HasVariable [] (cellAt "$ at start" (1 : Nat)) := by
      rintro ⟨skipped, _, rest, htext, sigil, part, -, -, rfl⟩
      have hbrace : '\x7b' ∈ cellAt "$ at start" (1 : Nat) := by rw [htext]; simp
      rw [hcell] at hbrace
      exact absurd hbrace (by decide)
    rcases (hsigil [] '$' " at start".toList rfl rfl rfl rfl).1 hhead with ⟨text, hfirst, -⟩ | h
    · exact hnone hfirst.hasVariable
    · exact absurd (h.2.1 rfl) (by decide)

end KeywordCatalog.Completion
