import KeywordCatalog.Proofs.Keyword.Names
import KeywordCatalog.Proofs.Pattern.Regular

/-!
# Names with embedded arguments

A template is a name with arguments in it. Made bare, it is a search pattern that is read as a row:
the letters of its literals, and between them a group for each argument (`argumentRow`). This row
takes the texts that fill the template: the bare literals in their order, with a value that is not
empty in place of every argument (`takes_argumentRow`).

The pattern is searched for and not anchored, so a template names a keyword exactly if *some part* of
the bare keyword fills it (`isNamed_iff_exists_part`).
-/

namespace KeywordCatalog.Text

variable {find : List Char → Option (Nat × List Char)} {c : Char} {part part' form form' : List Char}

/-- Whether a part of a text is replaced by a form, whatever stands after it. -/
def Becomes (find : List Char → Option (Nat × List Char)) (part form : List Char) : Prop :=
  ∀ rest, substitute find (part ++ rest) = form ++ substitute find rest

namespace Becomes

theorem substitute_eq (h : Becomes find part form) : substitute find part = form := by
  simpa [substitute, substituteFrom] using h []

theorem append (h : Becomes find part form) (h' : Becomes find part' form') :
    Becomes find (part ++ part') (form ++ form') := by
  intro rest
  rw [List.append_assoc, h, h', List.append_assoc]

theorem flatMap {α : Type} {items : List α} {parts forms : α → List Char}
    (h : ∀ a ∈ items, Becomes find (parts a) (forms a)) :
    Becomes find (items.flatMap parts) (items.flatMap forms) := by
  induction items with
  | nil => exact fun _ => rfl
  | cons a items ih =>
    rw [List.flatMap_cons, List.flatMap_cons]
    exact (h a List.mem_cons_self).append (ih fun b hb => h b (List.mem_cons_of_mem _ hb))

theorem of_none (h : ∀ rest, find (c :: rest) = none) : Becomes find [c] [c] := by
  intro rest
  rw [List.singleton_append, substitute, substituteFrom, h]
  rfl

theorem of_forall_none (h : ∀ c ∈ part, ∀ rest, find (c :: rest) = none) :
    Becomes find part part := by
  rw [← List.flatMap_singleton' part]
  exact flatMap fun c hc => of_none (h c hc)

theorem of_some (h : ∀ rest, find (c :: (part ++ rest)) = some (part.length + 1, form)) :
    Becomes find (c :: part) form := by
  have hskip (skipped rest : List Char) :
      substituteFrom find skipped.length (skipped ++ rest) = substitute find rest := by
    induction skipped with
    | nil => rfl
    | cons d skipped ih => rw [List.length_cons, List.cons_append, substituteFrom, ih]
  intro rest
  rw [List.cons_append, substitute, substituteFrom, h]
  exact congrArg (form ++ ·) (hskip part rest)

end Becomes

theorem contains_append (part before after : List Char) :
    contains part (before ++ (part ++ after)) = true := by
  induction before with
  | nil =>
    cases part with
    | nil => cases after <;> simp [contains]
    | cons c part => simp [contains]
  | cons c before ih => simp [contains, ih]

end KeywordCatalog.Text

namespace KeywordCatalog.Keyword

open Text Pattern

variable {c d : Char} {before taken rest literal keyword : List Char} {literals : List (List Char)}

/-! ### Templates -/

/-- Whether a character can stand in a simple name: a letter, a digit or a divider. -/
def isSimpleChar (c : Char) : Bool := c.isAlphanum || isDivider c

/-- A name with embedded arguments: the literal before the first argument, and for each argument its
name and the literal after it. -/
structure Template where
  opening : List Char
  arguments : List (List Char × List Char)

namespace Template

/-- A template as it is written. -/
def written (t : Template) : List Char :=
  t.opening ++ t.arguments.flatMap fun a => '$' :: '\x7b' :: (a.1 ++ '\x7d' :: a.2)

/-- Whether a template has arguments, and its names and literals are simple. -/
structure IsSimple (t : Template) : Prop where
  embedded : t.arguments ≠ []
  opening : ∀ c ∈ t.opening, isSimpleChar c = true
  names : ∀ a ∈ t.arguments, ∀ c ∈ a.1, isSimpleChar c = true
  literals : ∀ a ∈ t.arguments, ∀ c ∈ a.2, isSimpleChar c = true

end Template

/-- Whether a text is made of values that are not empty, each of them followed by its literal. -/
def Filled : List (List Char) → List Char → Prop
  | [], text => text = []
  | literal :: literals, text =>
    ∃ value more, value ≠ [] ∧ text = value ++ (literal ++ more) ∧ Filled literals more

/-- Whether a bare text is a template with a value that is not empty for every argument. -/
def Template.Fills (t : Template) (text : List Char) : Prop :=
  ∃ more, text = bareChars t.opening ++ more ∧
    Filled (t.arguments.map fun a => bareChars a.2) more

/-! ### Bare characters -/

/-- A lower case letter or a digit of the first 128 characters. -/
def isBareChar (c : Char) : Bool := c.isLower || c.isDigit

theorem toNat_lt_of_isSimpleChar (h : isSimpleChar c = true) : c.toNat < 128 := by
  rw [isSimpleChar, Bool.or_eq_true] at h
  rcases h with h | h
  · change (decide (65 ≤ c.val ∧ c.val ≤ 90) || (97 ≤ c.val && c.val ≤ 122) ||
      (48 ≤ c.val && c.val ≤ 57)) = true at h
    simp only [Bool.or_eq_true, Bool.and_eq_true, decide_eq_true_eq, UInt32.le_iff_toNat_le] at h
    change ((65 ≤ c.toNat ∧ c.toNat ≤ 90) ∨ (97 ≤ c.toNat ∧ c.toNat ≤ 122)) ∨
      (48 ≤ c.toNat ∧ c.toNat ≤ 57) at h
    omega
  · simp only [isDivider, Bool.or_eq_true, beq_iff_eq] at h
    rcases h with rfl | rfl <;> decide

theorem isAscii_of_isSimpleChar (h : ∀ c ∈ literal, isSimpleChar c = true) : IsAscii literal :=
  fun c hc => toNat_lt_of_isSimpleChar (h c hc)

theorem isBareChar_lowerChar (h : isSimpleChar c = true)
    (hdivider : isDivider (lowerChar c) = false) :
    isBareChar (lowerChar c) = true := by
  have hbare := forall_ascii (P := fun c => isSimpleChar c = true →
    isDivider (lowerChar c) = false → isBareChar (lowerChar c) = true) (by decide)
    (toNat_lt_of_isSimpleChar h)
  exact hbare h hdivider

theorem isBareChar_of_mem_bareChars (h : ∀ c ∈ literal, isSimpleChar c = true)
    (hc : c ∈ bareChars literal) : isBareChar c = true := by
  rw [bareChars_of_isAscii (isAscii_of_isSimpleChar h), List.mem_filter] at hc
  obtain ⟨d, hd, rfl⟩ := List.mem_map.1 hc.1
  exact isBareChar_lowerChar (h d hd) (by simpa using hc.2)

/-- What a bare character is not: a sign of a pattern or of an argument. -/
theorem isBareChar_spec (h : isBareChar c = true) : c.toNat < 128 ∧ lowerChar c = c ∧
    isArgumentChar c = true ∧ isLiteral c = true ∧ c ≠ '$' ∧ c ≠ '(' ∧ c ≠ '.' := by
  have hsimple : isSimpleChar c = true := by
    have halpha : (c.isUpper || c.isLower || c.isDigit) = true := by
      rw [Bool.or_assoc]
      exact Bool.or_eq_true_iff.2 (Or.inr h)
    exact Bool.or_eq_true_iff.2 (Or.inl halpha)
  exact forall_ascii (P := fun c => isBareChar c = true → c.toNat < 128 ∧ lowerChar c = c ∧
    isArgumentChar c = true ∧ isLiteral c = true ∧ c ≠ '$' ∧ c ≠ '(' ∧ c ≠ '.')
    (by decide) (toNat_lt_of_isSimpleChar hsimple) h

/-- A text in which a search without regard to case is a search for the same characters, and no
character is blank. -/
def IsValueText (text : List Char) : Prop :=
  ∀ c ∈ text, c.toNat < 128 ∧ lowerChar c = c ∧ isBlank c = false

theorem IsValueText.of_append {first second : List Char} (h : IsValueText (first ++ second)) :
    IsValueText first ∧ IsValueText second :=
  ⟨fun c hc => h c (List.mem_append_left _ hc), fun c hc => h c (List.mem_append_right _ hc)⟩

theorem isValueText_bareChars (h : ∀ c ∈ keyword, 32 ≤ c.toNat ∧ c.toNat ≤ 126) :
    IsValueText (bareChars keyword) := by
  have hascii : IsAscii keyword := fun c hc => Nat.lt_of_le_of_lt (h c hc).2 (by decide)
  have hall : ∀ n < 127, 32 ≤ n → isDivider (lowerChar (Char.ofNat n)) = false →
      isBlank (lowerChar (Char.ofNat n)) = false := by
    decide
  intro c hc
  rw [bareChars_of_isAscii hascii, List.mem_filter] at hc
  obtain ⟨d, hd, rfl⟩ := List.mem_map.1 hc.1
  have hspec := lowerChar_ascii (hascii d hd)
  have hblank := hall d.toNat (Nat.lt_succ_of_le (h d hd).2) (h d hd).1
  rw [Char.ofNat_toNat] at hblank
  exact ⟨hspec.1, hspec.2.1, hblank (by simpa using hc.2)⟩

/-! ### The pattern of a template -/

/-- The pattern of an argument: a group of characters that are not blank. -/
def valueGroup : List Char := "(\\S+)".toList

theorem argumentAt_of_ne (hc : c ≠ '$') (rest : List Char) : argumentAt (c :: rest) = none := by
  unfold argumentAt
  split
  · rename_i heq
    exact absurd (List.cons.inj heq).1 hc
  · rfl

theorem argumentAt_argument {name : List Char} (h : ∀ c ∈ name, isArgumentChar c = true)
    (rest : List Char) : argumentAt ('$' :: '\x7b' :: (name ++ '\x7d' :: rest)) =
      some (name.length + 3, caseMark ++ valueGroup) := by
  have hbrace : isArgumentChar '\x7d' = false := by decide
  have htake : (name ++ '\x7d' :: rest).takeWhile isArgumentChar = name := by
    rw [List.takeWhile_append_of_pos h, List.takeWhile_cons_of_neg (by simp [hbrace]),
      List.append_nil]
  have hdrop : (name ++ '\x7d' :: rest).dropWhile isArgumentChar = '\x7d' :: rest := by
    rw [List.dropWhile_append_of_pos h, List.dropWhile_cons_of_neg (by simp [hbrace])]
  simp only [argumentAt, htake, hdrop]
  rfl

/-- An argument becomes a group with a mark before it. -/
theorem becomes_argument {name : List Char} (h : ∀ c ∈ name, isArgumentChar c = true) :
    Becomes argumentAt ('$' :: '\x7b' :: (name ++ ['\x7d'])) (caseMark ++ valueGroup) :=
  .of_some fun rest => by simpa using argumentAt_argument h rest

/-! ### Marks that are erased -/

/-- The mark at the start of a text: its length, and nothing that stands for it. -/
def markAt (rest : List Char) : Option (Nat × List Char) :=
  if caseMark.isPrefixOf rest then some (caseMark.length, []) else none

theorem toList_caseMark : caseMark = ['(', '?', 'i', ')'] := rfl

theorem becomes_markless (h : ∀ c ∈ literal, c ≠ '(') : Becomes markAt literal literal := by
  refine .of_forall_none fun c hc rest => ?_
  simp [markAt, toList_caseMark, (h c hc).symm]

theorem becomes_caseMark : Becomes markAt caseMark [] := by
  rw [toList_caseMark]
  exact .of_some fun rest => by simp [markAt, toList_caseMark]

theorem becomes_valueGroup : Becomes markAt valueGroup valueGroup := by
  -- only the parenthesis could start a mark, and no question mark is after it
  intro rest
  have hopen : markAt ('(' :: (['\\', 'S', '+', ')'] ++ rest)) = none := by
    simp [markAt, toList_caseMark]
  have hafter : Becomes markAt ['\\', 'S', '+', ')'] ['\\', 'S', '+', ')'] :=
    becomes_markless (by simp)
  calc
    substitute markAt ('(' :: (['\\', 'S', '+', ')'] ++ rest))
      = '(' :: substitute markAt (['\\', 'S', '+', ')'] ++ rest) := by
        rw [substitute, substituteFrom, hopen]
        rfl
    _ = valueGroup ++ substitute markAt rest := by rw [hafter]; rfl

namespace Template

variable {t : Template}

/-- A template with its names and literals made bare. -/
def bare (t : Template) : Template :=
  ⟨bareChars t.opening, t.arguments.map fun a => (bareChars a.1, bareChars a.2)⟩

/-- Whether the names and literals of a template are bare. -/
structure IsBare (t : Template) : Prop where
  opening : ∀ c ∈ t.opening, isBareChar c = true
  arguments : ∀ a ∈ t.arguments, ∀ c ∈ a.1 ++ a.2, isBareChar c = true

/-- The literals of a template with a pattern in place of every argument. -/
def pattern (t : Template) (argument : List Char) : List Char :=
  t.opening ++ t.arguments.flatMap fun a => argument ++ a.2

theorem IsSimple.isBare (h : t.IsSimple) : t.bare.IsBare where
  opening _ hc := isBareChar_of_mem_bareChars h.opening hc
  arguments := by
    intro a ha c hc
    obtain ⟨b, hb, rfl⟩ := List.mem_map.1 ha
    rcases List.mem_append.1 hc with hc | hc
    · exact isBareChar_of_mem_bareChars (h.names b hb) hc
    · exact isBareChar_of_mem_bareChars (h.literals b hb) hc

theorem IsSimple.isAscii_argument (h : t.IsSimple) {a : List Char × List Char}
    (ha : a ∈ t.arguments) : IsAscii a.1 ∧ IsAscii a.2 :=
  ⟨isAscii_of_isSimpleChar (h.names a ha), isAscii_of_isSimpleChar (h.literals a ha)⟩

theorem bareChars_arguments {arguments : List (List Char × List Char)}
    (h : ∀ a ∈ arguments, IsAscii a.1 ∧ IsAscii a.2) :
    IsAscii (arguments.flatMap fun a => '$' :: '\x7b' :: (a.1 ++ '\x7d' :: a.2)) ∧
      bareChars (arguments.flatMap fun a => '$' :: '\x7b' :: (a.1 ++ '\x7d' :: a.2)) =
        arguments.flatMap fun a =>
          '$' :: '\x7b' :: (bareChars a.1 ++ '\x7d' :: bareChars a.2) := by
  induction arguments with
  | nil => exact ⟨by simp [IsAscii], rfl⟩
  | cons a arguments ih =>
    obtain ⟨hname, hliteral⟩ := h a List.mem_cons_self
    obtain ⟨hascii, hbare⟩ := ih fun b hb => h b (List.mem_cons_of_mem _ hb)
    have hopen : IsAscii ['$', '\x7b'] := by decide
    have hclose : IsAscii ['\x7d'] := by decide
    have hargument : IsAscii (['$', '\x7b'] ++ (a.1 ++ (['\x7d'] ++ a.2))) :=
      hopen.append (hname.append (hclose.append hliteral))
    refine ⟨hargument.append hascii, ?_⟩
    have hbareArgument : bareChars (['$', '\x7b'] ++ (a.1 ++ (['\x7d'] ++ a.2))) =
        '$' :: '\x7b' :: (bareChars a.1 ++ '\x7d' :: bareChars a.2) := by
      rw [bareChars_append hopen (hname.append (hclose.append hliteral)),
        bareChars_append hname (hclose.append hliteral), bareChars_append hclose hliteral]
      rfl
    rw [List.flatMap_cons, List.flatMap_cons, ← hbare, ← hbareArgument]
    exact bareChars_append hargument hascii

/-- A template is made bare part by part. -/
theorem IsSimple.bareChars_written (h : t.IsSimple) : bareChars t.written = t.bare.written := by
  obtain ⟨hascii, hbare⟩ := bareChars_arguments fun a ha => h.isAscii_argument ha
  rw [written, bareChars_append (isAscii_of_isSimpleChar h.opening) hascii, hbare, written, bare,
    List.flatMap_map]

theorem IsBare.forall_mem (h : t.IsBare) {a : List Char × List Char} (ha : a ∈ t.arguments) :
    (∀ c ∈ a.1, isBareChar c = true) ∧ ∀ c ∈ a.2, isBareChar c = true :=
  List.forall_mem_append.1 (h.arguments a ha)

/-- The pattern of a bare template has a group, with a mark before it, for every argument. -/
theorem IsBare.embeddedPattern_written (h : t.IsBare) :
    embeddedPattern t.written = t.pattern (caseMark ++ valueGroup) := by
  have hliteral {literal : List Char} (hliteral : ∀ c ∈ literal, isBareChar c = true) :
      Becomes argumentAt literal literal :=
    .of_forall_none fun c hc => argumentAt_of_ne (isBareChar_spec (hliteral c hc)).2.2.2.2.1
  refine ((hliteral h.opening).append (.flatMap fun a ha => ?_)).substitute_eq
  obtain ⟨hname, hafter⟩ := h.forall_mem ha
  have hargument : Becomes argumentAt ('$' :: '\x7b' :: (a.1 ++ ['\x7d']))
      (caseMark ++ valueGroup) :=
    becomes_argument fun c hc => (isBareChar_spec (hname c hc)).2.2.1
  simpa using hargument.append (hliteral hafter)

/-- Without the marks, the pattern of a bare template has a group for every argument. -/
theorem IsBare.erase_pattern (h : t.IsBare) :
    erase caseMark (t.pattern (caseMark ++ valueGroup)) = t.pattern valueGroup := by
  have hliteral {literal : List Char} (hliteral : ∀ c ∈ literal, isBareChar c = true) :
      Becomes markAt literal literal :=
    becomes_markless fun c hc => (isBareChar_spec (hliteral c hc)).2.2.2.2.2.1
  refine ((hliteral h.opening).append (.flatMap fun a ha => ?_)).substitute_eq
  simpa using (becomes_caseMark.append becomes_valueGroup).append (hliteral (h.forall_mem ha).2)

end Template

/-! ### The row of a template -/

/-- The options of a pattern that ignores case. -/
def marked : Options := { ignoreCase := true }

/-- The test on the characters of an argument. -/
def argumentTest : CharTest := .oneOf .all false [.category .blank false true]

/-- The trees of the arguments from a group on, each with the letters of the literal after it. -/
def argumentRow : Nat → List (List Char) → List Node
  | _, [] => []
  | count, literal :: literals =>
    .capture (count + 1) (.span 1 none .greedy argumentTest) ::
      (literal.map (letterNode .all) ++ argumentRow (count + 1) literals)

theorem flatMap_spelling (h : ∀ c ∈ literal, isBareChar c = true) :
    literal.flatMap spelling = literal := by
  refine (List.flatMap_congr fun c hc => ?_).trans (List.flatMap_singleton' literal)
  simp [spelling, (isBareChar_spec (h c hc)).2.2.2.2.2.2]

theorem reads_literal {s : State} {row : List Node} {count : Nat} (hs : s.Reads marked row count)
    (h : ∀ c ∈ literal, isBareChar c = true) (fuel : Nat) (rest : List Char) :
    ∃ s' : State, s'.Reads marked (row ++ literal.map (letterNode .all)) count ∧
      s.read (literal.length + fuel) (literal ++ rest) = s'.read fuel rest := by
  have hspellable : ∀ c ∈ literal, isSpellable c = true := by
    intro c hc
    simp [isSpellable, (isBareChar_spec (h c hc)).2.2.2.1]
  have hspaced : s.options.spaced = false := by rw [State.options, hs.options]; rfl
  have hrule : s.options.rule = .all := by rw [State.options, hs.options]; rfl
  have hread := State.read_letters hspaced (by simp [hs.outer]) hspellable fuel rest
  rw [flatMap_spelling h] at hread
  refine ⟨_, ?_, hread⟩
  have hadd := hs.add (literal.map fun c => .node (letterNode s.options.rule c))
  rwa [List.flatMap_map, show (literal.flatMap fun c =>
    Item.row (.node (letterNode s.options.rule c))) = literal.map (letterNode .all) by
      rw [hrule, List.map_eq_flatMap]; rfl] at hadd

theorem reads_argument {s : State} {row : List Node} {count : Nat} (hs : s.Reads marked row count)
    (fuel : Nat) (rest : List Char) :
    ∃ s' : State, s'.Reads marked (row ++ [.capture (count + 1) (.span 1 none .greedy argumentTest)])
        (count + 1) ∧
      s.read (fuel + 4) (valueGroup ++ rest) = s'.read fuel rest := by
  have hoptions : s.options = marked := hs.options
  have hstep (t : State) (rest : List Char) (ht : t.options = s.options) :
      t.step '\\' (['S'] ++ rest) = .ok (t.add [.node (.one argumentTest)], rest) := by
    rw [hoptions] at ht
    have hescape : t.step '\\' ('S' :: rest) = t.readEscape ('S' :: rest) := by
      unfold State.step
      rw [ht]
      rfl
    rw [List.singleton_append, hescape]
    unfold State.readEscape
    rw [ht]
    rfl
  exact ⟨_, hs.addGroup _, State.read_group (by rw [hoptions]; rfl) (by rw [hoptions]; rfl)
    (by simp [hs.outer, State.levelLimit]) (by decide) (by decide) hstep fuel rest⟩

/-- The pattern of a bare template is read as the letters of its opening and the trees of its
arguments. -/
theorem reads_arguments {s : State} {row : List Node} {count fuel : Nat}
    (hs : s.Reads marked row count) (h : ∀ literal ∈ literals, ∀ c ∈ literal, isBareChar c = true)
    (hfuel : (literals.flatMap (valueGroup ++ ·)).length ≤ fuel) :
    ∃ s' : State, s'.Reads marked (row ++ argumentRow count literals) (count + literals.length) ∧
      s.read fuel (literals.flatMap (valueGroup ++ ·)) = .ok s' := by
  induction literals generalizing s row count fuel with
  | nil => exact ⟨s, by simpa [argumentRow] using hs, by cases fuel <;> rfl⟩
  | cons literal literals ih =>
    obtain ⟨hliteral, h⟩ := List.forall_mem_cons.1 h
    have hfive : valueGroup.length = 5 := rfl
    simp only [List.flatMap_cons, List.length_append, hfive] at hfuel
    obtain ⟨left, rfl⟩ : ∃ left, fuel = literal.length + left + 4 :=
      ⟨fuel - (literal.length + 4), by omega⟩
    obtain ⟨s₁, hs₁, hread₁⟩ := reads_argument hs (literal.length + left)
      (literal ++ literals.flatMap (valueGroup ++ ·))
    obtain ⟨s₂, hs₂, hread₂⟩ := reads_literal hs₁ hliteral left
      (literals.flatMap (valueGroup ++ ·))
    have hleft : (literals.flatMap (valueGroup ++ ·)).length ≤ left := by omega
    obtain ⟨s₃, hs₃, hread₃⟩ := ih hs₂ h hleft
    refine ⟨s₃, ?_, ?_⟩
    · have hcount : count + (literal :: literals).length = count + 1 + literals.length := by
        rw [List.length_cons, Nat.add_right_comm, Nat.add_assoc]
      rw [hcount]
      simpa [argumentRow] using hs₃
    · rw [List.flatMap_cons, List.append_assoc, hread₁, hread₂, hread₃]

theorem isRegular_argumentRow (count : Nat) (literals : List (List Char)) :
    ∀ node ∈ argumentRow count literals, node.IsRegular := by
  induction literals generalizing count with
  | nil => simp [argumentRow]
  | cons literal literals ih =>
    rw [argumentRow, List.forall_mem_cons, List.forall_mem_append]
    exact ⟨by simp [Node.IsRegular], Node.isRegular_letters _ _, ih _⟩

theorem numbered_argumentRow (count : Nat) (literals : List (List Char)) :
    ∃ hi, (Node.row (argumentRow count literals)).Numbered (Marks.startEntry (count + 1)) hi := by
  induction literals generalizing count with
  | nil => exact ⟨_, Nat.le_refl _⟩
  | cons literal literals ih =>
    obtain ⟨hi, hrow⟩ := ih (count + 1)
    refine ⟨hi, Node.numbered_row_cons ?_ (Node.numbered_letters hrow)⟩
    have hentries : Marks.endEntry (count + 1) < Marks.startEntry (count + 1 + 1) := by
      simp only [Marks.startEntry, Marks.endEntry]
      omega
    exact ⟨Nat.succ_pos _, Nat.le_refl _, Nat.le_refl _, hentries⟩

theorem firstTest?_row (rule : CaseRule) (negated : Bool) (items : List ClassItem) (count : Nat)
    (literal : List Char) (literals : List (List Char)) :
    (Node.row (literal.map (letterNode .all) ++ argumentRow count literals)).firstTest? ≠
      some (.oneOf rule negated items) := by
  cases literal with
  | cons c literal =>
    rw [List.map_cons, List.cons_append, Node.firstTest?_row_cons]
    simp [letterNode, Node.firstTest?]
  | nil =>
    cases literals with
    | nil => simp [argumentRow, Node.firstTest?]
    | cons literal literals =>
      rw [List.map_nil, List.nil_append, argumentRow, Node.firstTest?_row_cons]
      simp [Node.firstTest?]

/-! ### What a template takes -/

theorem codeOf_of_lt (hc : c.toNat < 128) : codeOf c = c.toNat := by
  have hzero : c.toNat - halfShift = 0 := by
    have : halfShift = 0xD0000 := rfl
    omega
  rw [codeOf, hzero]
  rfl

theorem accepts_letter (hc : c.toNat < 128) (hlower : lowerChar c = c) (hd : d.toNat < 128)
    (hlower' : lowerChar d = d) :
    (CharTest.letter .all false (codeOf c)).accepts d = true ↔ c = d := by
  have hsame : (CharTest.letter .all false (codeOf c)).accepts d = true ↔
      lowerCode c.toNat = lowerCode d.toNat := by
    simp [CharTest.accepts, CaseRule.same, sameCode, codeOf_of_lt hc, codeOf_of_lt hd, hc, hd]
  rw [hsame]
  constructor
  · intro hcodes
    rw [← hlower, ← hlower', lowerChar, hcodes, lowerChar]
  · rintro rfl
    rfl

theorem accepts_argumentTest (hc : c.toNat < 128) (hblank : isBlank c = false) :
    argumentTest.accepts c = true := by
  simp [argumentTest, CharTest.accepts, ClassItem.isCased, ClassItem.has, Category.has,
    codeOf_of_lt hc, hblank]

theorem forall₂_letters {text : List Char} (h : ∀ c ∈ literal, isBareChar c = true)
    (htext : IsValueText text) :
    List.Forall₂ (fun test c => test.accepts c = true)
      (literal.map fun c => CharTest.letter .all false (codeOf c)) text ↔ literal = text := by
  induction literal generalizing text with
  | nil => rw [List.map_nil, List.forall₂_nil_left_iff, eq_comm]
  | cons c literal ih =>
    obtain ⟨hc, h⟩ := List.forall_mem_cons.1 h
    cases text with
    | nil => simp
    | cons d text =>
      obtain ⟨hd, htext⟩ := List.forall_mem_cons.1 htext
      obtain ⟨hascii, hlower, -⟩ := isBareChar_spec hc
      rw [List.map_cons, List.forall₂_cons, ih h htext, accepts_letter hascii hlower hd.1 hd.2.1,
        List.cons.injEq]

theorem takes_letters {nodes : List Node} (h : ∀ c ∈ literal, isBareChar c = true)
    (htaken : IsValueText taken) :
    (Node.row (literal.map (letterNode .all) ++ nodes)).Takes before taken rest ↔
      ∃ more, taken = literal ++ more ∧
        (Node.row nodes).Takes (literal.reverse ++ before) more rest := by
  have hnodes : literal.map (letterNode .all) =
      (literal.map fun c => CharTest.letter .all false (codeOf c)).map .one := by
    rw [List.map_map]
    rfl
  rw [hnodes, Node.takes_row_tests]
  constructor
  · rintro ⟨first, second, rfl, htests, hsecond⟩
    obtain rfl := (forall₂_letters h htaken.of_append.1).1 htests
    exact ⟨second, rfl, hsecond⟩
  · rintro ⟨more, rfl, hmore⟩
    exact ⟨literal, more, rfl, (forall₂_letters h htaken.of_append.1).2 rfl, hmore⟩

/-- The trees of the arguments take the texts that are filled with values. -/
theorem takes_argumentRow {count : Nat} (h : ∀ literal ∈ literals, ∀ c ∈ literal, isBareChar c = true)
    (htaken : IsValueText taken) :
    (Node.row (argumentRow count literals)).Takes before taken rest ↔ Filled literals taken := by
  induction literals generalizing count before taken with
  | nil => exact Iff.rfl
  | cons literal literals ih =>
    obtain ⟨hliteral, h⟩ := List.forall_mem_cons.1 h
    rw [argumentRow, Node.takes_row_cons]
    constructor
    · rintro ⟨value, second, rfl, ⟨hvalue, -, -⟩, hsecond⟩
      obtain ⟨more, rfl, hmore⟩ := (takes_letters hliteral htaken.of_append.2).1 hsecond
      have hrest := (ih h htaken.of_append.2.of_append.2).1 hmore
      exact ⟨value, more, List.length_pos_iff.1 hvalue, rfl, hrest⟩
    · rintro ⟨value, more, hvalue, rfl, hmore⟩
      obtain ⟨hvalueText, hrest⟩ := htaken.of_append
      refine ⟨value, literal ++ more, rfl, ⟨List.length_pos_iff.2 hvalue, by simp, ?_⟩,
        (takes_letters hliteral hrest).2 ⟨more, rfl, (ih h hrest.of_append.2).2 hmore⟩⟩
      exact fun c hc => accepts_argumentTest (hvalueText c hc).1 (hvalueText c hc).2.2

theorem Template.IsBare.exists_compileMarked {t : Template} (h : t.IsBare)
    (harguments : t.arguments ≠ []) : ∃ p, compileMarked (embeddedPattern t.written) = .ok p ∧
      p.IsRegular ∧ p.tree = Node.row
        (t.opening.map (letterNode .all) ++ argumentRow 0 (t.arguments.map Prod.snd)) := by
  have hmarked : contains caseMark (t.pattern (caseMark ++ valueGroup)) = true := by
    obtain ⟨a, arguments, heq⟩ := List.exists_cons_of_ne_nil harguments
    rw [Template.pattern, heq, List.flatMap_cons, List.append_assoc, List.append_assoc]
    exact contains_append _ _ _
  have hliterals : ∀ literal ∈ t.arguments.map Prod.snd, ∀ c ∈ literal, isBareChar c = true := by
    intro literal hliteral
    obtain ⟨a, ha, rfl⟩ := List.mem_map.1 hliteral
    exact (h.forall_mem ha).2
  have hpattern : t.pattern valueGroup =
      t.opening ++ (t.arguments.map Prod.snd).flatMap (valueGroup ++ ·) := by
    rw [Template.pattern, List.flatMap_map]
  obtain ⟨s₁, hs₁, hread₁⟩ := reads_literal (State.Reads.initial marked) h.opening
    ((t.arguments.map Prod.snd).flatMap (valueGroup ++ ·)).length
    ((t.arguments.map Prod.snd).flatMap (valueGroup ++ ·))
  obtain ⟨s₂, hs₂, hread₂⟩ := reads_arguments hs₁ hliterals (Nat.le_refl _)
  have hread : (State.initial marked).read (t.pattern valueGroup).length
      (t.pattern valueGroup) = .ok s₂ := by
    rw [hpattern, List.length_append, hread₁, hread₂]
  obtain ⟨hparse, htree⟩ := hs₂.parseWith_eq hread
  obtain ⟨hi, hnumbered⟩ := numbered_argumentRow 0 (t.arguments.map Prod.snd)
  have hregular : ∀ node ∈ t.opening.map (letterNode .all) ++
      argumentRow 0 (t.arguments.map Prod.snd), node.IsRegular := by
    exact List.forall_mem_append.2 ⟨Node.isRegular_letters _ _, isRegular_argumentRow 0 _⟩
  rw [compileMarked, h.embeddedPattern_written, hmarked, h.erase_pattern]
  obtain ⟨p, hp, hptree, hpregular⟩ := exists_compileWith hparse
    (htree ▸ Node.isRegular_row hregular) (htree ▸ Node.numbered_letters hnumbered)
    (htree ▸ fun rule negated items => firstTest?_row rule negated items 0 _ _)
  exact ⟨p, hp, hpregular, hptree.trans htree⟩

theorem Template.IsSimple.takes_iff_fills {t : Template} (ht : t.IsSimple)
    (htaken : IsValueText taken) :
    (Node.row (t.bare.opening.map (letterNode .all) ++
      argumentRow 0 (t.bare.arguments.map Prod.snd))).Takes before taken rest ↔ t.Fills taken := by
  have hliterals : ∀ literal ∈ t.bare.arguments.map Prod.snd, ∀ c ∈ literal, isBareChar c = true := by
    intro literal hliteral
    obtain ⟨a, ha, rfl⟩ := List.mem_map.1 hliteral
    exact (ht.isBare.forall_mem ha).2
  have hmap : t.bare.arguments.map Prod.snd = t.arguments.map fun a => bareChars a.2 := by
    rw [Template.bare, List.map_map]
    rfl
  rw [takes_letters ht.isBare.opening htaken, Template.Fills, ← hmap]
  refine exists_congr fun more => and_congr_right fun hmore => ?_
  exact takes_argumentRow hliterals (hmore ▸ htaken).of_append.2

/-- **A template names the keywords of whose bare form some part fills it**, and not only those whose
whole bare form does. -/
theorem isNamed_iff_exists_part (t : Template) (ht : t.IsSimple) (keyword : String)
    (hkeyword : ∀ c ∈ keyword.toList, 32 ≤ c.toNat ∧ c.toNat ≤ 126) :
    ∃ named, isNamed keyword (String.ofList t.written) = .ok named ∧
      (named = true ↔ ∃ part, part <:+: bareChars keyword.toList ∧ t.Fills part) := by
  have hdollar : t.written.contains '$' = true := by
    obtain ⟨a, arguments, heq⟩ := List.exists_cons_of_ne_nil ht.embedded
    simp [Template.written, heq]
  have hvalue := isValueText_bareChars hkeyword
  obtain ⟨p, hp, hregular, htree⟩ :=
    ht.isBare.exists_compileMarked (by simpa [Template.bare] using ht.embedded)
  obtain ⟨named, hnamed, hiff⟩ := hregular.occursIn_iff (bare keyword)
  refine ⟨named, ?_, hiff.trans ?_⟩
  · rw [isNamed, String.toList_ofList, hdollar, if_pos rfl, isInstance, String.toList_ofList,
      ht.bareChars_written, hp]
    exact hnamed
  · rw [htree, bare, String.toList_ofList]
    constructor
    · rintro ⟨skipped, part, rest, heq, htakes⟩
      have hpart := (heq ▸ hvalue).of_append.1.of_append.2
      exact ⟨part, ⟨skipped, rest, heq.symm⟩, (ht.takes_iff_fills hpart).1 htakes⟩
    · rintro ⟨part, ⟨skipped, rest, heq⟩, hfills⟩
      have hpart := (heq ▸ hvalue).of_append.1.of_append.2
      exact ⟨skipped, part, rest, heq.symm, (ht.takes_iff_fills hpart).2 hfills⟩

/-- A keyword with more text after an instance is named by the template, though it is no instance as
a whole. -/
theorem isNamed_beyond_instance :
    isNamed "Do the thing now please" "Do $\x7bx\x7d now" = .ok true ∧
      ¬ Template.Fills ⟨"Do ".toList, [("x".toList, " now".toList)]⟩
        (bareChars "Do the thing now please".toList) := by
  constructor
  · have hsimple : Template.IsSimple ⟨"Do ".toList, [("x".toList, " now".toList)]⟩ := by
      refine ⟨by decide, List.all_eq_true.1 (by decide), List.forall_mem_singleton.2 ?_,
        List.forall_mem_singleton.2 ?_⟩ <;> exact List.all_eq_true.1 (by decide)
    obtain ⟨named, hnamed, hiff⟩ := isNamed_iff_exists_part _ hsimple "Do the thing now please"
      (by simp)
    have htrue : named = true :=
      hiff.2 ⟨"dothethingnow".toList, ⟨[], "please".toList, by decide⟩, "thethingnow".toList,
        by decide, "thething".toList, [], by decide, by decide, rfl⟩
    rw [htrue] at hnamed
    exact hnamed
  · rintro ⟨more, htext, value, rest, -, rfl, rfl⟩
    have hlast : (bareChars "Do the thing now please".toList).getLast? =
        (bareChars " now".toList).getLast? := by
      rw [htext, List.append_nil, List.getLast?_append, List.getLast?_append]
      rfl
    exact absurd hlast (by decide)

end KeywordCatalog.Keyword
