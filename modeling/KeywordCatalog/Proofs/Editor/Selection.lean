import KeywordCatalog.Editor.Keyword
import KeywordCatalog.Proofs.Keyword.Fragments

/-!
# Selecting a keyword

The search pattern for a resource selects the line of a keyword. For a name of letters, digits and
dividers it finds every line that is the name in some letter case, and a region that it selects is a
whole line with the bare form of the name (`selectFirst_resourcePattern`).

A name with embedded arguments is divided like any other. Its line is found if its words are its
parts; otherwise not even the text that is the name alone is found (`selectFirst_embedded`).
-/

namespace KeywordCatalog.Editor

open Text Pattern Keyword

variable {pattern text : String} {p : Pattern}

/-- The requests that select a region of the open file. -/
def selecting (start stop : Nat) : List Event :=
  [.clearSelection, .select stop start, .reveal stop start]

/-- What comes of selecting a match. -/
def selected (session : Session) : Option Match → Except Fault Unit × Session
  | none => (.error .missingMember, session)
  | some found => (.ok (),
      { session with events := session.events ++ selecting found.start.pos found.stop.pos })

theorem run_selectFirst {found? : Option Match} (hcompile : Pattern.compile pattern = .ok p)
    (hfind : p.find text.toList = .ok found?) (session : Session) :
    (selectFirst pattern text).run session = selected session found? := by
  unfold selectFirst
  rw [hcompile]
  change (((liftM (p.find text.toList) : Editing _) >>= fun r => _).run session) = _
  rw [hfind]
  cases found? with
  | none => rfl
  | some found =>
    have hevents : session.events ++ selecting found.start.pos found.stop.pos =
        session.events ++ [.clearSelection] ++ [.select found.stop.pos found.start.pos] ++
          [.reveal found.stop.pos found.start.pos] := by
      simp [selecting]
    rw [selected, hevents]
    rfl

/-! ### Names of letters, digits and dividers -/

/-- A text that is spelled by words of letters and digits stands on one line. -/
theorem newline_notMem_of_spelled {init : List (List Char)} {last taken : List Char}
    (h : Spelled isDivider init last taken)
    (hwords : ∀ word ∈ init ++ [last], ∀ c ∈ word, c.isAlphanum = true) : '\n' ∉ taken := by
  intro hmem
  rcases h.forall_mem '\n' hmem with hdivider | ⟨word, hword, d, hd, hlower⟩
  · exact absurd hdivider (by decide)
  · have hbare : isBareChar (lowerChar d) = true := by
      refine isBareChar_of_mem_lower (hwords word hword) ?_
      rw [lower_of_isAscii (isAscii_of_isAlphanum (hwords word hword))]
      exact List.mem_map_of_mem hd
    rw [← hlower] at hbare
    exact absurd hbare (by decide)

/-- **The pattern for a resource finds the lines of a keyword and nothing else.** If some line of a
text is the name in some letter case, a region is selected; and a region that is selected is a whole
line that has the bare form of the name. -/
theorem selectFirst_resourcePattern {name : String}
    (hname : ∀ c ∈ name.toList, isSimpleChar c = true)
    (hlast : ∃ c ∈ name.toList.getLast?, c.isAlphanum = true) (htext : IsAscii text.toList)
    (session : Session) :
    ∃ p found, Pattern.compile (resourcePattern name) = .ok p ∧ p.find text.toList = .ok found ∧
      ((∃ line ∈ lines text.toList, lower line = lower name.toList) → found.isSome = true) ∧
      (found = none →
        (selectFirst (resourcePattern name) text).run session = (.error .missingMember, session)) ∧
      ∀ m ∈ found, ∃ before after, text.toList = before ++ m.text ++ after ∧
        IsLine before m.text after ∧ bareChars m.text = bareChars name.toList ∧
        (selectFirst (resourcePattern name) text).run session = (.ok (), { session with
          events := session.events ++ selecting before.length (before.length + m.text.length) }) := by
  obtain ⟨init, last, hwords, hne, halnum, hspelled⟩ := exists_words hname hlast
  have hascii : ∀ word ∈ init ++ [last], IsAscii word :=
    fun word hword => isAscii_of_isAlphanum (halnum word hword)
  have hnameAscii : IsAscii name.toList := isAscii_of_isSimpleChar hname
  have htakes {before taken rest : List Char} (htaken : IsAscii taken) :
      (Node.row (wordsRow (optionalGap dividerTest) letterTrees init last)).Takes before taken rest ↔
        Spelled isDivider init last taken :=
    takes_wordsRow (fun c _ => accepts_dividerTest) hascii htaken
  -- the pattern is the row of the words between line anchors
  have hform : wordsText resourceDivider wordPattern init last =
      wordsText resourceDivider lower init last :=
    wordsText_congr fun word hword => wordPattern_of_isAlphanum (halnum word hword)
  have hspells : Spells lineOptions (wordsText resourceDivider wordPattern init last) _ :=
    hform ▸ spells_letterWords spells_resourceDivider halnum
  have hlast : ∃ c ∈ (wordPattern last).getLast?, resourceDivider.contains c = false := by
    rw [wordPattern_of_isAlphanum (halnum last (by simp))]
    have hset : ∀ c ∈ "[_ ]?".toList, isBareChar c = false :=
      List.all_iff_forall_prop.1 (by decide)
    exact exists_getLast_lower (halnum last (by simp)) hne hset
  obtain ⟨p, hp, htree, hregular⟩ := exists_compile_resourcePattern hwords hlast hspells
    (isPiece_letterWords (isPiece_optionalGap _) init last)
  obtain ⟨found, hfind, hsome, hfound⟩ := hregular.exists_find text.toList
  rw [htree] at hsome hfound
  refine ⟨p, found, hp, hfind, ?_, ?_, ?_⟩
  · rintro ⟨line, hline, hlower⟩
    obtain ⟨before, after, htextEq, hisLine⟩ := mem_lines_iff.1 hline
    have hlineAscii : IsAscii line := fun c hc => htext c (by simp [htextEq, hc])
    rw [lower_of_isAscii hlineAscii, lower_of_isAscii hnameAscii] at hlower
    refine hsome.2 ⟨before, line, after, htextEq, Node.takes_between_anchors.2
      ⟨hisLine.starts, hisLine.ends, (htakes hlineAscii).2 ?_⟩⟩
    exact hspelled.of_map_eq hlineAscii hlower fun _ => id
  · rintro rfl
    exact run_selectFirst hp hfind session
  · intro m hm
    obtain ⟨before, taken, after, htextEq, htaken⟩ := hfound m hm
    obtain ⟨hstarts, hends, hrow⟩ := Node.takes_between_anchors.1 htaken.takes
    have htakenAscii : IsAscii taken := fun c hc => htext c (by simp [htextEq, hc])
    have htakenSpelled : Spelled isDivider init last taken := (htakes htakenAscii).1 hrow
    obtain rfl : found = some m := hm
    rw [run_selectFirst hp hfind, selected, htaken.start, htaken.stop, htaken.text]
    refine ⟨before, after, htextEq,
      ⟨newline_notMem_of_spelled htakenSpelled halnum, hstarts, hends⟩, ?_, rfl⟩
    rw [htakenSpelled.bareChars_eq (fun _ => id) htakenAscii hascii,
      hspelled.bareChars_eq (fun _ => id) hnameAscii hascii]

/-- The keyword is found on the third line, in another letter case and with other dividers. -/
theorem selectFirst_resourcePattern_third :
    (∀ c ∈ "Open_Page 2".toList, isSimpleChar c = true) ∧
      (∃ c ∈ "Open_Page 2".toList.getLast?, c.isAlphanum = true) ∧
      IsAscii "Log\n open page 2\nOPEN_PAGE 2\nEnd".toList ∧
      ∃ before line after, "Log\n open page 2\nOPEN_PAGE 2\nEnd".toList = before ++ line ++ after ∧
        IsLine before line after ∧ bareChars line = bareChars "Open_Page 2".toList ∧
        (selectFirst (resourcePattern "Open_Page 2") "Log\n open page 2\nOPEN_PAGE 2\nEnd").run
          ⟨⟨"/ws", []⟩, []⟩ =
            (.ok (), ⟨⟨"/ws", []⟩, selecting before.length (before.length + line.length)⟩) := by
  have hname : ∀ c ∈ "Open_Page 2".toList, isSimpleChar c = true :=
    List.all_iff_forall_prop.1 (by decide)
  have hlast : ∃ c ∈ "Open_Page 2".toList.getLast?, c.isAlphanum = true := ⟨'2', by decide, by decide⟩
  have htext : IsAscii "Log\n open page 2\nOPEN_PAGE 2\nEnd".toList := by decide
  obtain ⟨_, found, -, -, hsome, -, hfound⟩ :=
    selectFirst_resourcePattern hname hlast htext ⟨⟨"/ws", []⟩, []⟩
  obtain ⟨m, hm⟩ := Option.isSome_iff_exists.1
    (hsome ⟨"OPEN_PAGE 2".toList, by decide, by decide +kernel⟩)
  obtain ⟨before, after, hparts, hline, hbare, hrun⟩ := hfound m hm
  exact ⟨hname, hlast, htext, before, m.text, after, hparts, hline, hbare, hrun⟩

/-! ### Names with embedded arguments -/

/-- **The line of a name with embedded arguments is found if the words of the name are its parts.**
Otherwise the name is not found even if it is the whole text; and if one of its arguments is divided,
nothing is found in any text. -/
theorem selectFirst_embedded {parts : List Part} (hparts : ∀ part ∈ parts, part.IsProper)
    (hembedded : ∃ name, .argument name ∈ parts) (session : Session) :
    ∃ p, Pattern.compile (resourcePattern (String.ofList (Part.written parts))) = .ok p ∧
      (Part.AreWords parts → ∀ text : String, Part.written parts ∈ lines text.toList →
        ∃ m, p.find text.toList = .ok (some m) ∧
          (selectFirst (resourcePattern (String.ofList (Part.written parts))) text).run session =
            (.ok (), { session with
              events := session.events ++ selecting m.start.pos m.stop.pos })) ∧
      (¬Part.AreWords parts → p.find (Part.written parts) = .ok none ∧
        (selectFirst (resourcePattern (String.ofList (Part.written parts)))
          (String.ofList (Part.written parts))).run session = (.error .missingMember, session)) ∧
      ((∃ part ∈ parts, ¬part.IsWhole) → ∀ text, p.find text = .ok none) := by
  obtain ⟨name, hname⟩ := hembedded
  have hne : parts ≠ [] := List.ne_nil_of_mem hname
  have hmissing {p : Pattern}
      (hp : Pattern.compile (resourcePattern (String.ofList (Part.written parts))) = .ok p)
      (hfind : p.find (Part.written parts) = .ok none) :
      (selectFirst (resourcePattern (String.ofList (Part.written parts)))
        (String.ofList (Part.written parts))).run session = (.error .missingMember, session) :=
    run_selectFirst hp (by rw [String.toList_ofList, hfind]) session
  by_cases hcut : ∃ part ∈ parts, ¬part.IsWhole
  · obtain ⟨p, hp, hfind⟩ := Part.exists_find_of_divided hparts hcut
    refine ⟨p, hp, fun hwords => ?_, fun _ => ⟨hfind _, hmissing hp (hfind _)⟩, fun _ => hfind⟩
    obtain ⟨part, hpart, hdivided⟩ := hcut
    exact absurd (hwords.1 part hpart) hdivided
  · by_cases hwords : Part.AreWords parts
    · obtain ⟨p, hp, hfind⟩ := hwords.exists_find hne hparts
      refine ⟨p, hp, fun _ text htext => ?_, absurd hwords, fun h => absurd h hcut⟩
      obtain ⟨m, hm⟩ := hfind text.toList htext
      exact ⟨m, hm, run_selectFirst hp hm session⟩
    · have hwhole : ∀ part ∈ parts, part.IsWhole := by
        simpa only [not_exists, not_and, not_not] using hcut
      obtain ⟨p, hp, hfind⟩ := Part.exists_find_of_not_areWords hparts hname hwhole hwords
      exact ⟨p, hp, fun h => absurd h hwords, fun _ => ⟨hfind, hmissing hp hfind⟩,
        fun h => absurd h hcut⟩

/-- A name with one argument between two words. -/
def argumentParts (argument : String) : List Part :=
  [.word "Do".toList, .argument argument.toList, .word "now".toList]

/-- With a space in its argument the name is not found where it is the whole text; without it the
name is found on the second line. -/
theorem selectFirst_embedded_divided :
    (∀ part ∈ argumentParts "my arg", part.IsProper) ∧
      (∃ name, .argument name ∈ argumentParts "my arg") ∧
      Part.written (argumentParts "my arg") = "Do $\x7bmy arg\x7d now".toList ∧
      (selectFirst (resourcePattern (String.ofList (Part.written (argumentParts "my arg"))))
        (String.ofList (Part.written (argumentParts "my arg")))).run ⟨⟨"/ws", []⟩, []⟩ =
          (.error .missingMember, ⟨⟨"/ws", []⟩, []⟩) ∧
      ((selectFirst (resourcePattern (String.ofList (Part.written (argumentParts "my"))))
        "Log\nDo $\x7bmy\x7d now").run ⟨⟨"/ws", []⟩, []⟩).1 = .ok () := by
  have hparts (argument : String) (hname : argument.toList ≠ [])
      (h : ∀ c ∈ argument.toList, isSimpleChar c = true) :
      ∀ part ∈ argumentParts argument, part.IsProper := by
    simp only [argumentParts, List.forall_mem_cons]
    exact ⟨⟨by decide, List.all_iff_forall_prop.1 (by decide)⟩, ⟨hname, h⟩,
      ⟨by decide, List.all_iff_forall_prop.1 (by decide)⟩, nofun⟩
  have hembedded (argument : String) : ∃ name, .argument name ∈ argumentParts argument :=
    ⟨argument.toList, by simp [argumentParts]⟩
  have hdivided : ¬Part.AreWords (argumentParts "my arg") := by
    rintro ⟨hwhole, -⟩
    exact absurd (hwhole (.argument "my arg".toList) (by simp [argumentParts])) (by decide)
  have hwords : Part.AreWords (argumentParts "my") := by
    refine ⟨?_, Or.inl (by decide)⟩
    simp only [argumentParts, List.forall_mem_cons]
    exact ⟨by decide, by decide, by decide, nofun⟩
  have hproper := hparts "my arg" (by decide) (List.all_iff_forall_prop.1 (by decide))
  obtain ⟨_, -, -, hmissing, -⟩ := selectFirst_embedded hproper (hembedded _) ⟨⟨"/ws", []⟩, []⟩
  have hproper' := hparts "my" (by decide) (List.all_iff_forall_prop.1 (by decide))
  obtain ⟨_, -, hfound, -⟩ := selectFirst_embedded hproper' (hembedded _) ⟨⟨"/ws", []⟩, []⟩
  obtain ⟨m, -, hrun⟩ := hfound hwords "Log\nDo $\x7bmy\x7d now" (by decide)
  exact ⟨hproper, hembedded _, by decide, (hmissing hdivided).2, by rw [hrun]⟩

end KeywordCatalog.Editor
