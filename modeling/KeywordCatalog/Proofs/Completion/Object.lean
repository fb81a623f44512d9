import KeywordCatalog.Proofs.Completion.Query

/-!
# The object before the cursor

The pattern for an object before the cursor is a blank, a group of characters that are not blank, a
dot and what is typed, up to the end of the line. So what the group takes reaches back to the last
blank before the cursor, and there is only one way to take it (`ObjectSplit.unique`). The search finds
the object exactly if the text before the cursor can be split so (`objectBefore_iff`).
-/

namespace KeywordCatalog.Line

open Text Pattern Completion

variable {chars taken before rest : List Char} {nodes : List Node} {line typed : String}
  {column : Nat}

/-! ### Blanks and letters -/

/-- The class of the blank characters, or of all others. -/
def blankTest (negated : Bool) : CharTest := .oneOf .exact negated [.category .blank false false]

theorem isBlank_eq_false {c : Char} (hc : 12288 < c.toNat) : isBlank c = false := by
  simp [isBlank, blankRanges, Ranges.has]
  omega

theorem isBlank_ofNat_codeOf (c : Char) : isBlank (Char.ofNat (codeOf c)) = isBlank c := by
  unfold codeOf
  split
  · rename_i hhalf
    have hcode := isHalf_iff.1 hhalf
    have hlow : isBlank c = false := isBlank_eq_false (by omega)
    have hinvalid : ¬(c.toNat - halfShift).isValidChar := by
      simp only [Nat.isValidChar]
      omega
    rw [hlow, Char.ofNat, dif_neg hinvalid]
    rfl
  · rw [Char.ofNat_toNat]

theorem accepts_blankTest (negated : Bool) (c : Char) :
    (blankTest negated).accepts c = (isBlank c != negated) := by
  simp [blankTest, CharTest.accepts, ClassItem.isCased, ClassItem.has, Category.has,
    isBlank_ofNat_codeOf]

theorem spellsTest_blank : SpellsTest {} ['\\', 's'] (blankTest false) := by
  refine ⟨'\\', ['s'], rfl, by decide, by decide, by decide, fun s rest hs => ?_⟩
  unfold State.step
  rw [hs]
  unfold State.readEscape
  rw [hs]
  rfl

theorem spellsTest_notBlank : SpellsTest {} ['[', '^', '\\', 's', ']'] (blankTest true) :=
  .ofClass ⟨rfl, rfl⟩ fun rest => by
    simp [readClass, readMembers, readMember, controlCode?, category?, classTest, blankTest,
      List.eraseDups_cons]
    rfl

/-- Letters take their own text. -/
theorem takes_exactLetters :
    (Node.row (chars.map (letterNode .exact) ++ nodes)).Takes before taken rest ↔
      ∃ more, taken = chars ++ more ∧
        (Node.row nodes).Takes (chars.reverse ++ before) more rest := by
  induction chars generalizing taken before with
  | nil => simp
  | cons c chars ih =>
    simp only [List.map_cons, List.cons_append, Node.takes_row_cons, ih]
    constructor
    · rintro ⟨_, _, rfl, ⟨d, hd, rfl⟩, more, rfl, hmore⟩
      obtain rfl := accepts_letter_exact.1 hd
      exact ⟨more, rfl, by simpa using hmore⟩
    · rintro ⟨more, rfl, hmore⟩
      exact ⟨[c], _, rfl, ⟨c, accepts_letter_exact.2 rfl, rfl⟩, more, rfl, by simpa using hmore⟩

/-! ### Splitting before the object -/

/-- The text before the cursor as what comes before a blank, the object after it, a dot and what is
typed. -/
structure ObjectSplit (typed text before : List Char) (blank : Char) (object : List Char) : Prop where
  border : isBlank blank = true
  nonempty : object ≠ []
  solid : ∀ c ∈ object, isBlank c = false
  parts : text = before ++ blank :: (object ++ '.' :: typed)

/-- The object starts after the last blank, so there is one way to split a text. -/
theorem ObjectSplit.unique {typed text before' object object' : List Char} {blank blank' : Char}
    (htyped : ∀ c ∈ typed, isBlank c = false) (h : ObjectSplit typed text before blank object)
    (h' : ObjectSplit typed text before' blank' object') :
    before = before' ∧ blank = blank' ∧ object = object' := by
  have hlast {before object : List Char} {blank : Char}
      (h : ObjectSplit typed text before blank object) :
      trailing (!isBlank ·) text = object ++ '.' :: typed := by
    have hsolid : ∀ c ∈ object ++ '.' :: typed, (!isBlank c) = true := by
      simp only [Bool.not_eq_true']
      exact List.forall_mem_append.2 ⟨h.solid, List.forall_mem_cons.2 ⟨rfl, htyped⟩⟩
    rw [h.parts, List.append_cons, trailing_append hsolid]
    simp [trailing, h.border]
  have hobject : object = object' := List.append_cancel_right ((hlast h).symm.trans (hlast h'))
  subst hobject
  have hparts := h.parts.symm.trans h'.parts
  rw [List.append_cons, List.append_cons before'] at hparts
  obtain ⟨hbefore, hblank⟩ := List.append_inj' (List.append_cancel_right hparts) rfl
  exact ⟨hbefore, List.head_eq_of_cons_eq hblank, rfl⟩

/-! ### The pattern -/

/-- The trees after the group of the object: a dot, what is typed, and the end of the line. -/
def afterObject (typed : List Char) : Node :=
  Node.row (('.' :: typed).map (letterNode .exact) ++ [.anchor (.lineEnd false)])

theorem takes_afterObject {typed : List Char} : (afterObject typed).Takes before taken rest ↔
    taken = '.' :: typed ∧ (rest = [] ∨ rest = ['\n']) := by
  have hholds (before : List Char) :
      (Anchor.lineEnd false).holds ⟨before.length, before, rest⟩ = true ↔
        rest = [] ∨ rest = ['\n'] := by
    simp [Anchor.holds]
  rw [afterObject, takes_exactLetters]
  constructor
  · rintro ⟨_, rfl, rfl, hend⟩
    exact ⟨List.append_nil _, (hholds _).1 hend⟩
  · rintro ⟨rfl, hend⟩
    exact ⟨[], (List.append_nil _).symm, rfl, (hholds _).2 hend⟩

theorem isPiece_afterObject (typed : List Char) :
    ∀ node ∈ ('.' :: typed).map (letterNode .exact) ++ [.anchor (.lineEnd false)], node.IsPiece :=
  List.forall_mem_append.2 ⟨isPiece_letters .exact _, List.forall_mem_singleton.2 trivial⟩

theorem numbered_afterObject (typed : List Char) (lo : Nat) : (afterObject typed).Numbered lo lo :=
  Node.numbered_pieces (isPiece_afterObject typed) lo

/-- The tree for an object before a dot and what is typed. -/
def objectTree (typed : List Char) : Node :=
  .seq (.one (blankTest false))
    (.seq (.capture 1 (.span 1 none .greedy (blankTest true))) (afterObject typed))

theorem isRegular_objectTree (typed : List Char) : (objectTree typed).IsRegular :=
  ⟨trivial, Greed.noConfusion,
    Node.isRegular_row fun node hnode => (isPiece_afterObject typed node hnode).isRegular⟩

theorem ObjectSplit.takes {typed text object : List Char} {blank : Char}
    (h : ObjectSplit typed text before blank object) :
    (objectTree typed).Takes before.reverse (blank :: (object ++ '.' :: typed)) [] := by
  have hblank : (blankTest false).accepts blank = true := by simp [accepts_blankTest, h.border]
  have hsolid : ∀ c ∈ object, (blankTest true).accepts c = true := fun c hc => by
    simp [accepts_blankTest, h.solid c hc]
  exact ⟨[blank], _, rfl, ⟨blank, hblank, rfl⟩, object, _, rfl,
    ⟨List.length_pos_of_ne_nil h.nonempty, nofun, hsolid⟩, takes_afterObject.2 ⟨rfl, Or.inl rfl⟩⟩

/-- The group of a match is the object of a split. -/
theorem exists_split_of_matchAt {typed skipped : List Char} {pos : Nat} {found : Match}
    (hbreak : '\n' ∉ rest)
    (hfound : (objectTree typed).matchAt ⟨pos, skipped.reverse, rest⟩ = some found) :
    ∃ blank object, ObjectSplit typed (skipped ++ rest) skipped blank object ∧
      found.group? 1 = some object := by
  obtain ⟨_, object, _, rest, rfl, ⟨blank, hblank, rfl⟩, ⟨hlength, -, hsolid⟩, hlast, hgroup⟩ :=
    Node.exists_group_of_matchAt (isRegular_objectTree typed) Nat.one_pos (Nat.le_refl _)
      (numbered_afterObject typed 2) hfound
  obtain ⟨rfl, rfl | rfl⟩ := takes_afterObject.1 hlast
  · simp only [accepts_blankTest] at hblank hsolid
    refine ⟨blank, object, ⟨by simpa using hblank, List.ne_nil_of_length_pos hlength,
      by simpa using hsolid, ?_⟩, hgroup⟩
    simp
  · simp at hbreak

theorem parseWith_objectPattern {typed : List Char} (htyped : ∀ c ∈ typed, isLiteral c = true) :
    ∃ s, parseWith {} ("(?:\\s)([^\\s]+)(?:\\.".toList ++ (typed ++ [')', '$'])) = .ok s ∧
      s.tree = objectTree typed ∧ s.options.narrow = false := by
  have husual : Options.IsUsual {} := ⟨rfl, rfl⟩
  have hdepth : 0 < State.levelLimit := by decide
  have hspelling : typed.flatMap spelling = typed := by
    refine (List.flatMap_congr fun c hc => ?_).trans (List.flatMap_singleton' typed)
    simp [spelling, isLiteral_ne (htyped c hc) (d := '.') rfl]
  have hletters : ∀ c ∈ '.' :: typed, isSpellable c = true :=
    List.forall_mem_cons.2 ⟨rfl, fun c hc => by simp [isSpellable, htyped c hc]⟩
  let s₁ : State := (State.initial {}).add [.parens [.one (blankTest false)]]
  let s₂ : State := s₁.addGroup (.span 1 none .greedy (blankTest true))
  let s₃ : State := s₂.add [.parens (('.' :: typed).map (letterNode .exact))]
  let s₄ : State := s₃.add [.node (.anchor (.lineEnd false))]
  have hblank : (State.initial {}).LeadsTo "(?:\\s)".toList s₁ :=
    spellsTest_blank.spells.parens husual rfl hdepth
  have hgroup : s₁.LeadsTo "([^\\s]+)".toList s₂ :=
    (spellsTest_notBlank.many husual).group husual rfl hdepth
  have hparens : s₂.LeadsTo ("(?:".toList ++ (('.' :: typed).flatMap spelling ++ [')'])) s₃ :=
    (Spells.spelled husual hletters).parens husual rfl hdepth
  have hend : s₃.LeadsTo ['$'] s₄ := (Spells.lineEnd husual).leadsTo s₃ rfl (Nat.zero_le _)
  have hway := (((hblank.trans hgroup (endsRepetition_cons (by decide) _)).trans hparens
    (endsRepetition_cons (by decide) _)).trans hend (endsRepetition_cons (by decide) _)).read_eq
  have hreads := ((((State.Reads.initial {}).add [.parens [.one (blankTest false)]]).addGroup
    (.span 1 none .greedy (blankTest true))).add
      [.parens (('.' :: typed).map (letterNode .exact))]).add [.node (.anchor (.lineEnd false))]
  rw [List.flatMap_cons, hspelling] at hway
  obtain ⟨hparse, htree⟩ := hreads.parseWith_eq hway
  refine ⟨s₄, ?_, ?_, rfl⟩
  · rw [← hparse]
    simp [spelling]
  · rw [htree]
    simp [Item.row, Node.row, objectTree, afterObject]

/-- The pattern finds the object of a line. -/
theorem exists_compile_object (htyped : ∀ c ∈ typed.toList, isLiteral c = true) :
    ∃ p, Pattern.compile ("(?:\\s)([^\\s]+)(?:\\." ++ typed ++ ")$") = .ok p ∧
      ∀ text, '\n' ∉ text → ∃ found, p.find text = .ok found ∧
        (found = none → ∀ before blank object, ¬ObjectSplit typed.toList text before blank object) ∧
        ∀ m ∈ found, ∃ before blank object, ObjectSplit typed.toList text before blank object ∧
          m.group? 1 = some object := by
  obtain ⟨s, hparse, htree, hnarrow⟩ := parseWith_objectPattern htyped
  have hnumbered : (objectTree typed.toList).Numbered 0 2 :=
    ⟨0, Nat.le_refl 0, 2, ⟨Nat.one_pos, Nat.le_refl _, Nat.le_refl _, Nat.one_lt_two⟩,
      numbered_afterObject typed.toList 2⟩
  obtain ⟨p, hp, hptree, hanywhere, hentry⟩ :=
    exists_compileWith_anywhere hparse (htree ▸ isRegular_objectTree typed.toList) (htree ▸ hnumbered)
  rw [htree] at hptree hentry
  -- the class at the start leaves out no place where there is a match
  have hstart (before taken rest : List Char) (h : p.tree.Takes before taken rest) :
      p.mayStart (taken ++ rest) = true := by
    rw [hptree] at h
    obtain ⟨_, _, rfl, ⟨blank, hblank, rfl⟩, -⟩ := h
    rw [hnarrow] at hentry
    rcases hentry with hentry | hentry
    · simp [mayStart, hentry]
    · have htest : p.entry = some (blankTest false) := hentry
      simp [mayStart, htest, hblank]
  refine ⟨p, ?_, fun text htext => ⟨_, (find_anywhere (c := p) hanywhere.tree hstart text).trans
    (hanywhere.find_eq text), ?_, fun m hm => ?_⟩⟩
  · rw [← hp, Pattern.compile]
    congr 1
    simp
  · intro hnone before blank object hsplit
    have htakes := hsplit.takes
    rw [← hptree, ← List.append_nil before.reverse] at htakes
    have hsome : (p.anywhere.tree.searchFrom p.anywhere.mayStart 0 [] text).isSome = true :=
      (Node.isSome_searchFrom hanywhere.tree hanywhere.mayStart).2
        ⟨before, _, [], hsplit.parts.trans (List.append_nil _).symm, htakes⟩
    rw [hnone] at hsome
    cases hsome
  · obtain ⟨skipped, rest, rfl, hmatch⟩ := Node.exists_matchAt_of_searchFrom hm
    rw [List.append_nil] at hmatch
    have hrest : '\n' ∉ rest := fun hmem => htext (List.mem_append_right _ hmem)
    obtain ⟨blank, object, hsplit⟩ := exists_split_of_matchAt hrest (hptree ▸ hmatch)
    exact ⟨skipped, blank, object, hsplit⟩

/-! ### The object of a line -/

theorem upTo_natCast (column : Nat) (text : List Char) : upTo column text = text.take column := by
  rw [upTo, bound_natCast, List.take_eq_take_iff]
  omega

/-- **The object before the cursor is what stands between the last blank before the cursor and a dot
with what is typed after it.** No other text is found for it, nothing is found exactly if the text
before the cursor does not end so, and that text can be split in one way only. -/
theorem objectBefore_iff (hline : '\n' ∉ line.toList)
    (htyped : ∀ c ∈ typed.toList, isAsciiWord c = true) :
    ∃ found, objectBefore line typed column = .ok found ∧
      (∀ object, found = some object ↔ ∃ before blank,
        ObjectSplit typed.toList (line.toList.take column) before blank object.toList) ∧
      (found = none ↔ ∀ before blank object,
        ¬ObjectSplit typed.toList (line.toList.take column) before blank object) ∧
      ∀ before blank object before' blank' object',
        ObjectSplit typed.toList (line.toList.take column) before blank object →
        ObjectSplit typed.toList (line.toList.take column) before' blank' object' →
        before = before' ∧ blank = blank' ∧ object = object' := by
  have hsolid : ∀ c ∈ typed.toList, isBlank c = false := fun c hc =>
    (isAsciiWord_spec (htyped c hc)).2
  have hbreak : '\n' ∉ line.toList.take column := fun hmem => hline (List.mem_of_mem_take hmem)
  obtain ⟨p, hp, hfind⟩ := exists_compile_object fun c hc => (isAsciiWord_spec (htyped c hc)).1
  obtain ⟨found, hfound, hnone, hsome⟩ := hfind _ hbreak
  refine ⟨_, by rw [objectBefore, hp, Outcome.ok_bind, upTo_natCast, hfound]; rfl, ?_⟩
  cases found with
  | none =>
    refine ⟨fun object => ⟨nofun, ?_⟩, ⟨fun _ => hnone rfl, fun _ => rfl⟩,
      fun _ _ _ _ _ _ h _ => absurd h (hnone rfl _ _ _)⟩
    rintro ⟨before, blank, hsplit⟩
    exact absurd hsplit (hnone rfl before blank _)
  | some m =>
    obtain ⟨before, blank, object, hsplit, hgroup⟩ := hsome m rfl
    have hvalue : ((some m).bind (·.group? 1)).map String.ofList = some (.ofList object) := by
      rw [Option.bind_some, hgroup, Option.map_some]
    rw [hvalue]
    refine ⟨fun other => ⟨?_, ?_⟩, ⟨nofun, fun h => absurd hsplit (h before blank object)⟩,
      fun _ _ _ _ _ _ h h' => h.unique hsolid h'⟩
    · rintro ⟨⟩
      exact ⟨before, blank, by simpa using hsplit⟩
    · rintro ⟨before', blank', hsplit'⟩
      rw [(hsplit.unique hsolid hsplit').2.2, String.ofList_toList]

/-- Of two cells with dots the last one is taken, up to its last dot, and a cell at the start of the
line is no object. -/
theorem objectBefore_iff_cells :
    objectBefore "    first.one  second.part.ru" "ru" (80 : Nat) = .ok (some "second.part") ∧
      objectBefore "first.one" "" (6 : Nat) = .ok none := by
  constructor
  · obtain ⟨found, hfound, hsome, -⟩ :=
      @objectBefore_iff "    first.one  second.part.ru" "ru" 80 (by decide)
        (List.all_eq_true.1 rfl)
    have hsolid : ∀ c ∈ "second.part".toList, isBlank c = false := fun c hc =>
      Bool.eq_false_iff.2 (List.any_eq_false.1 rfl c hc)
    rw [hfound, (hsome "second.part").2 ⟨"    first.one ".toList, ' ', rfl, by decide, hsolid, rfl⟩]
  · obtain ⟨found, hfound, -, hnone, -⟩ :=
      @objectBefore_iff "first.one" "" 6 (by decide) nofun
    have hsolid : "first.".toList.any isBlank = false := rfl
    rw [hfound, hnone.2 fun before blank object hsplit => ?_]
    have hparts : "first.".toList = before ++ blank :: (object ++ ['.']) := hsplit.parts
    have hborder := hsplit.border
    exact List.any_eq_false.1 hsolid blank (by simp [hparts]) hborder

end KeywordCatalog.Line
