import KeywordCatalog.Cell
import KeywordCatalog.Proofs.Index.Stored
import KeywordCatalog.Proofs.Keyword.Embedded
import KeywordCatalog.Proofs.Pattern.Following

/-!
# Telling object and keyword apart

A record of an index is tried under one of its names: its object name if the cell starts with that,
otherwise its byname if the cell starts with that. It matches if what follows the first occurrence of
this name and a dot is its keyword (`NamedRecord.Matches`). Going through the index keeps the last
one among the matches with the longest names (`exists_split_eq`).

So a keyword is not always reached by a name of its object and its own name: the record may be tried
under the other name, and a longer name that matches further on in the cell suppresses it
(`split_qualified_iff`).
-/

namespace KeywordCatalog.Cell

open Text Keyword Pattern

/-- The split of a cell under an object name: what follows the first occurrence of the name and a dot,
if that is not empty and is named by a keyword. -/
def splitUnder? (cell object keyword : String) : Option Split :=
  (afterFirst (object.toList ++ ['.']) cell.toList).bind fun text =>
    if text ≠ [] ∧ isNamed (String.ofList text) keyword = .ok true then
      some ⟨object, String.ofList text⟩
    else none

theorem splitUnder?_eq_some {cell object keyword : String} {found : Split} :
    splitUnder? cell object keyword = some found ↔ found.object = object ∧
      afterFirst (object.toList ++ ['.']) cell.toList = some found.keyword.toList ∧
      found.keyword ≠ "" ∧ isNamed found.keyword keyword = .ok true := by
  have hempty (text : List Char) : String.ofList text = "" ↔ text = [] := by
    rw [← String.toList_inj, String.toList_ofList]
    rfl
  rw [splitUnder?, Option.bind_eq_some_iff]
  constructor
  · rintro ⟨text, htext, h⟩
    obtain ⟨⟨hne, hnamed⟩, hfound⟩ := Option.ite_none_right_eq_some.1 h
    obtain rfl := Option.some.inj hfound
    exact ⟨rfl, by rw [htext, String.toList_ofList], fun heq => hne ((hempty text).1 heq), hnamed⟩
  · rintro ⟨rfl, htext, hne, hnamed⟩
    refine ⟨found.keyword.toList, htext, ?_⟩
    rw [String.ofList_toList, if_pos ⟨fun heq => hne ((hempty _).2 heq ▸ by simp), hnamed⟩]

/-- The pattern of an object is the one for the object and a dot. -/
theorem toList_afterObjectPattern (object : String) :
    (afterObjectPattern object).toList = followingPattern (object.toList ++ ['.']) := by
  have hescaped : (fun c : Char => if c == '.' then ['\\', '.'] else [c]) = spelling := rfl
  simp only [afterObjectPattern, hescaped, String.toList_append, String.toList_ofList,
    followingPattern, List.flatMap_append, List.append_assoc]
  rfl

theorem splitAt_eq {cell object keyword : String}
    (hobject : ∀ c ∈ object.toList, isSpellable c = true) (hcell : '\n' ∉ cell.toList)
    (hnamed : ∀ text, ∃ named, isNamed text keyword = .ok named) :
    splitAt cell object (.text keyword) = .ok (splitUnder? cell object keyword) := by
  have hpart : ∀ c ∈ object.toList ++ ['.'], isSpellable c = true :=
    List.forall_mem_append.2 ⟨hobject, List.forall_mem_singleton.2 rfl⟩
  obtain ⟨p, hp, hfind⟩ := exists_compile_following hpart (by simp)
  obtain ⟨m?, hm, hgroup⟩ := hfind cell.toList hcell
  have hcompile : Pattern.compile (afterObjectPattern object) = .ok p := by
    rw [Pattern.compile, toList_afterObjectPattern, hp]
  rw [splitAt, hcompile, Outcome.ok_bind, hm, Outcome.ok_bind, splitUnder?]
  cases m? with
  | none =>
    -- nothing is found, and an empty keyword makes no split whatever names it
    have hnone := Option.map_eq_none_iff.1 hgroup.symm
    have hafter : ((afterFirst (object.toList ++ ['.']) cell.toList).bind fun text =>
        if text ≠ [] ∧ isNamed (String.ofList text) keyword = .ok true then
          some (⟨object, String.ofList text⟩ : Split)
        else none) = none := by
      cases hafter : afterFirst (object.toList ++ ['.']) cell.toList with
      | none => rfl
      | some text =>
        have hnil : text = [] := by simpa [hafter, Option.filter_some] using hnone
        simp [hnil]
    obtain ⟨named, hempty⟩ := hnamed ""
    simp only [isNamedBy_text, hempty, Outcome.ok_bind, hafter]
    cases named <;> rfl
  | some m =>
    obtain ⟨text, hfilter, htext⟩ := Option.map_eq_some_iff.1 hgroup.symm
    obtain ⟨hafter, hne⟩ := Option.filter_eq_some_iff.1 hfilter
    have hne : text ≠ [] := by simpa using hne
    obtain ⟨named, hnamed⟩ := hnamed (String.ofList text)
    simp only [← htext, Option.map_some, Value.ofText?, isNamedBy_text, hnamed, Outcome.ok_bind,
      hafter, Option.bind_some]
    cases named with
    | false =>
      rw [if_neg (by simp), if_neg (by simp)]
      rfl
    | true => simp [hne]

/-! ### Records -/

/-- A keyword record whose names are texts. -/
structure NamedRecord where
  keyword : String
  arguments : Value
  object : String
  table : String
  byname : Option String

namespace NamedRecord

variable {r : NamedRecord} {cell name : String} {found : Split}

/-- The record as an index has it. -/
def toRecord (r : NamedRecord) : KeywordRecord :=
  ⟨.text r.keyword, r.arguments, .text r.object, r.table, Value.ofText? r.byname⟩

/-- The name under which a record is tried: the object name, or else the byname, whichever the cell
starts with. -/
def nameIn? (r : NamedRecord) (cell : String) : Option String :=
  if r.object.toList <+: cell.toList then some r.object
  else r.byname.filter fun name => name ≠ "" ∧ name.toList <+: cell.toList

/-- The split of a cell by a record alone. -/
def split? (r : NamedRecord) (cell : String) : Option Split :=
  (r.nameIn? cell).bind fun name => splitUnder? cell name r.keyword

/-- Whether a record matches a cell: what follows the first occurrence of its name and a dot is not
empty and is named by its keyword. -/
structure Matches (r : NamedRecord) (cell : String) (found : Split) : Prop where
  object : r.nameIn? cell = some found.object
  keyword : afterFirst (found.object.toList ++ ['.']) cell.toList = some found.keyword.toList
  nonempty : found.keyword ≠ ""
  named : isNamed found.keyword r.keyword = .ok true

theorem split?_eq_some : r.split? cell = some found ↔ r.Matches cell found := by
  rw [split?, Option.bind_eq_some_iff]
  constructor
  · rintro ⟨name, hname, h⟩
    obtain ⟨rfl, hkeyword, hne, hnamed⟩ := splitUnder?_eq_some.1 h
    exact ⟨hname, hkeyword, hne, hnamed⟩
  · rintro ⟨hname, hkeyword, hne, hnamed⟩
    exact ⟨found.object, hname, splitUnder?_eq_some.2 ⟨rfl, hkeyword, hne, hnamed⟩⟩

end NamedRecord

/-- The better one of two splits, where the second comes later. -/
def Split.improve (best : Split) : Option Split → Split
  | some found => if best.object.length ≤ found.object.length then found else best
  | none => best

/-- What is needed of a record to be tried: its names can be spelled in a pattern, and its keyword is
one that can be compared. -/
structure NamedRecord.IsUsable (r : NamedRecord) : Prop where
  object : ∀ c ∈ r.object.toList, isSpellable c = true
  byname : ∀ name ∈ r.byname, ∀ c ∈ name.toList, isSpellable c = true
  keyword : ∀ text, ∃ named, isNamed text r.keyword = .ok named

/-- Trying a name that is not shorter than the best one improves the best split by the one under that
name; a shorter name could not improve it. -/
theorem improve_splitUnder? {cell name keyword : String} (best : Split)
    (hname : ∀ c ∈ name.toList, isSpellable c = true) (hcell : '\n' ∉ cell.toList)
    (hnamed : ∀ text, ∃ named, isNamed text keyword = .ok named) :
    (if best.object.length ≤ name.length then do
        return (← splitAt cell name (.text keyword)).getD best
      else return best : Except Fault Split) =
      .ok (best.improve (splitUnder? cell name keyword)) := by
  rw [splitAt_eq hname hcell hnamed]
  cases hsplit : splitUnder? cell name keyword with
  | none => split <;> rfl
  | some found =>
    obtain ⟨rfl, -⟩ := splitUnder?_eq_some.1 hsplit
    rw [Split.improve]
    split <;> rfl

/-- A record improves the best split so far by its own. -/
theorem betterSplit_eq {r : NamedRecord} {cell : String} (hr : r.IsUsable)
    (hcell : '\n' ∉ cell.toList) (best : Split) :
    betterSplit cell best r.toRecord.document = .ok (best.improve (r.split? cell)) := by
  have hitems : betterSplit cell best r.toRecord.document =
      if r.object.toList.isPrefixOf cell.toList then
        if best.object.length ≤ r.object.length then do
          return (← splitAt cell r.object (.text r.keyword)).getD best
        else return best
      else if (Value.ofText? r.byname).truthy then do
        let name ← (Value.ofText? r.byname).textOnly
        if name.toList.isPrefixOf cell.toList then
          if best.object.length ≤ name.length then do
            return (← splitAt cell name (.text r.keyword)).getD best
          else return best
        else return best
      else return best := rfl
  rw [hitems, NamedRecord.split?, NamedRecord.nameIn?]
  by_cases hobject : r.object.toList <+: cell.toList
  · rw [if_pos (by simpa using hobject), if_pos hobject]
    exact improve_splitUnder? best hr.object hcell hr.keyword
  · rw [if_neg (by simpa using hobject), if_neg hobject]
    cases hbyname : r.byname with
    | none => rfl
    | some name =>
      by_cases hempty : name = ""
      · subst hempty
        rfl
      · have htruthy : (Value.ofText? (some name)).truthy = true := by
          simpa [Value.ofText?, Value.truthy] using hempty
        rw [if_pos htruthy, Value.ofText?, Value.textOnly_text, Outcome.ok_bind, Option.filter_some]
        by_cases hname : name.toList <+: cell.toList
        · have htried : decide (name ≠ "" ∧ name.toList <+: cell.toList) = true := by
            simp [hempty, hname]
          rw [if_pos (by simpa using hname), if_pos htried]
          exact improve_splitUnder? best (hr.byname name hbyname) hcell hr.keyword
        · rw [if_neg (by simpa using hname), if_neg (by simp [hname])]
          rfl

/-- Going through an index improves the split record by record. -/
theorem foldlM_betterSplit {records : List NamedRecord} {cell : String}
    (hrecords : ∀ r ∈ records, r.IsUsable) (hcell : '\n' ∉ cell.toList) (best : Split) :
    (records.map fun r => r.toRecord.document).foldlM (betterSplit cell) best =
      .ok ((records.map (·.split? cell)).foldl Split.improve best) := by
  induction records generalizing best with
  | nil => rfl
  | cons r records ih =>
    obtain ⟨hr, hrecords⟩ := List.forall_mem_cons.1 hrecords
    rw [List.map_cons, List.foldlM_cons, betterSplit_eq hr hcell, Outcome.ok_bind, ih hrecords]
    rfl

/-! ### The best split -/

/-- Whether a split is the last one of those with the longest objects. -/
def IsLastLongest (found : Split) (splits : List (Option Split)) : Prop :=
  ∃ before after, splits = before ++ some found :: after ∧
    (∀ other, some other ∈ before → other.object.length ≤ found.object.length) ∧
    ∀ other, some other ∈ after → other.object.length < found.object.length

theorem IsLastLongest.cons {found : Split} {splits : List (Option Split)} {split? : Option Split}
    (h : IsLastLongest found splits)
    (hsplit : ∀ split ∈ split?, split.object.length ≤ found.object.length) :
    IsLastLongest found (split? :: splits) := by
  obtain ⟨before, after, rfl, hbefore, hafter⟩ := h
  refine ⟨split? :: before, after, rfl, fun other hother => ?_, hafter⟩
  rcases List.mem_cons.1 hother with rfl | hother
  · exact hsplit other rfl
  · exact hbefore other hother

theorem IsLastLongest.mem {found : Split} {splits : List (Option Split)}
    (h : IsLastLongest found splits) : some found ∈ splits := by
  obtain ⟨before, after, rfl, -⟩ := h
  simp

theorem IsLastLongest.length_le {found other : Split} {splits : List (Option Split)}
    (h : IsLastLongest found splits) (hother : some other ∈ splits) :
    other.object.length ≤ found.object.length := by
  obtain ⟨before, after, rfl, hbefore, hafter⟩ := h
  rcases List.mem_append.1 hother with hother | hother
  · exact hbefore other hother
  · rcases List.mem_cons.1 hother with heq | hother
    · rw [Option.some.inj heq]
    · exact Nat.le_of_lt (hafter other hother)

/-- The splits improve on the first one if one of them is as long, and then the last of the longest
is left. -/
theorem foldl_improve (splits : List (Option Split)) (best : Split) :
    (splits.foldl Split.improve best = best ∧
        ∀ other, some other ∈ splits → other.object.length < best.object.length) ∨
      (best.object.length ≤ (splits.foldl Split.improve best).object.length ∧
        IsLastLongest (splits.foldl Split.improve best) splits) := by
  induction splits generalizing best with
  | nil => exact Or.inl ⟨rfl, nofun⟩
  | cons split? splits ih =>
    rw [List.foldl_cons]
    cases split? with
    | none =>
      rcases ih best with ⟨heq, hshorter⟩ | ⟨hle, hlast⟩
      · exact Or.inl ⟨heq, by simpa using hshorter⟩
      · exact Or.inr ⟨hle, hlast.cons nofun⟩
    | some split =>
      by_cases hlonger : best.object.length ≤ split.object.length
      · rw [Split.improve, if_pos hlonger]
        rcases ih split with ⟨heq, hshorter⟩ | ⟨hle, hlast⟩
        · rw [heq]
          exact Or.inr ⟨hlonger, [], splits, rfl, nofun, hshorter⟩
        · exact Or.inr ⟨hlonger.trans hle, hlast.cons (by simpa using hle)⟩
      · rw [Split.improve, if_neg hlonger]
        rcases ih best with ⟨heq, hshorter⟩ | ⟨hle, hlast⟩
        · refine Or.inl ⟨heq, ?_⟩
          simpa using ⟨Nat.lt_of_not_le hlonger, hshorter⟩
        · have hshorter : split.object.length ≤ _ := (Nat.le_of_not_le hlonger).trans hle
          exact Or.inr ⟨hle, hlast.cons (by simpa using hshorter)⟩

/-- The split of a cell by an index: the last one of the longest matches, and nothing if no record
matches. -/
theorem exists_split_eq {s : Store} {index cell : String} {records : List NamedRecord}
    (hindex : s.indexedKeywords index = .ok (records.map fun r => r.toRecord.document))
    (hrecords : ∀ r ∈ records, r.IsUsable) (hcell : '\n' ∉ cell.toList) :
    ∃ found, split s index cell = .ok found ∧
      ((found = ⟨"", ""⟩ ∧ ∀ r ∈ records, ∀ other, ¬ r.Matches cell other) ∨
        IsLastLongest found (records.map (·.split? cell))) := by
  refine ⟨(records.map (·.split? cell)).foldl Split.improve ⟨"", ""⟩, ?_, ?_⟩
  · rw [split, hindex, Outcome.ok_bind, foldlM_betterSplit hrecords hcell]
  · rcases foldl_improve (records.map (·.split? cell)) ⟨"", ""⟩ with ⟨heq, hshorter⟩ | ⟨-, hlast⟩
    · refine Or.inl ⟨heq, fun r hr other hmatch => ?_⟩
      have hmem : some other ∈ records.map (·.split? cell) :=
        List.mem_map.2 ⟨r, hr, NamedRecord.split?_eq_some.2 hmatch⟩
      exact Nat.not_lt_zero _ (hshorter other hmem)
    · exact Or.inr hlast

theorem IsLastLongest.exists_matches {found : Split} {records : List NamedRecord} {cell : String}
    (h : IsLastLongest found (records.map (·.split? cell))) :
    (∃ r ∈ records, r.Matches cell found) ∧ ∀ q ∈ records, ∀ other, q.Matches cell other →
      other.object.length ≤ found.object.length := by
  obtain ⟨r, hr, hsplit⟩ := List.mem_map.1 h.mem
  refine ⟨⟨r, hr, NamedRecord.split?_eq_some.1 hsplit⟩, fun q hq other hmatch => ?_⟩
  exact h.length_le (List.mem_map.2 ⟨q, hq, NamedRecord.split?_eq_some.2 hmatch⟩)

/-! ### Qualified names -/

/-- Whether a character can stand in the names of a library, a resource or a keyword. -/
def isWordedChar (c : Char) : Bool := isSimpleChar c || c == '.'

theorem isWordedChar_spec {c : Char} (h : isWordedChar c = true) :
    isSpellable c = true ∧ c ≠ '$' ∧ c ≠ '\n' := by
  have hall : ∀ n < 128, isWordedChar (Char.ofNat n) = true → isSpellable (Char.ofNat n) = true ∧
      Char.ofNat n ≠ '$' ∧ Char.ofNat n ≠ '\n' := by
    decide +kernel
  have hlt : c.toNat < 128 := by
    rcases Bool.or_eq_true_iff.1 h with hc | hc
    · exact toNat_lt_of_isSimpleChar hc
    · rw [beq_iff_eq.1 hc]
      decide
  have hc := hall c.toNat hlt
  rw [Char.ofNat_toNat] at hc
  exact hc h

namespace NamedRecord

variable {r : NamedRecord} {cell name : String} {found : Split}

/-- The names of a record's object: its own name, and the byname if there is one. -/
def names (r : NamedRecord) : List String := r.object :: r.byname.toList.filter (· ≠ "")

/-- Whether all the names of a record are made of letters, digits, dividers and dots. -/
structure IsWorded (r : NamedRecord) : Prop where
  keyword : ∀ c ∈ r.keyword.toList, isWordedChar c = true
  object : ∀ c ∈ r.object.toList, isWordedChar c = true
  byname : ∀ name ∈ r.byname, ∀ c ∈ name.toList, isWordedChar c = true

theorem IsWorded.isNamed_eq (h : r.IsWorded) (text : String) :
    isNamed text r.keyword = .ok (hasName text r.keyword) := by
  have hdollar : r.keyword.toList.contains '$' = false := by
    simpa using fun hmem => (isWordedChar_spec (h.keyword _ hmem)).2.1 rfl
  rw [isNamed, hdollar]
  rfl

theorem IsWorded.isUsable (h : r.IsWorded) : r.IsUsable where
  object c hc := (isWordedChar_spec (h.object c hc)).1
  byname name hname c hc := (isWordedChar_spec (h.byname name hname c hc)).1
  keyword text := ⟨_, h.isNamed_eq text⟩

theorem IsWorded.of_mem_names (h : r.IsWorded) (hname : name ∈ r.names) :
    ∀ c ∈ name.toList, isWordedChar c = true := by
  rcases List.mem_cons.1 hname with rfl | hname
  · exact h.object
  · exact h.byname name (Option.mem_toList.1 (List.mem_of_mem_filter hname))

theorem prefix_of_nameIn? (h : r.nameIn? cell = some name) : name.toList <+: cell.toList := by
  rw [nameIn?] at h
  split at h
  · rename_i hobject
    exact Option.some.inj h ▸ hobject
  · obtain ⟨-, hname⟩ := Option.filter_eq_some_iff.1 h
    exact (of_decide_eq_true hname).2

theorem toList_qualified (name keyword : String) :
    (name ++ "." ++ keyword).toList = name.toList ++ ['.'] ++ keyword.toList := by
  simp

/-- A match whose object and a dot start the cell divides the cell. -/
theorem Matches.append_eq_iff (h : r.Matches cell found) :
    found.object ++ "." ++ found.keyword = cell ↔ found.object.toList ++ ['.'] <+: cell.toList := by
  constructor
  · rintro rfl
    rw [toList_qualified]
    exact List.prefix_append _ _
  · rintro ⟨rest, hrest⟩
    have hkeyword := h.keyword
    rw [← hrest, afterFirst_append, Option.some.injEq] at hkeyword
    rw [← String.toList_inj, toList_qualified, ← hkeyword, hrest]

theorem nameIn?_of_mem_names (hname : name ∈ r.names) (hcell : name.toList <+: cell.toList) :
    r.nameIn? cell = some name ↔ name = r.object ∨ ¬ r.object.toList <+: cell.toList := by
  rw [nameIn?]
  rcases List.mem_cons.1 hname with rfl | hbyname
  · simp [hcell]
  · obtain ⟨hmem, hne⟩ := List.mem_filter.1 hbyname
    have hbyname : r.byname = some name := Option.mem_toList.1 hmem
    split
    · rename_i hobject
      simp [hobject, eq_comm]
    · rename_i hobject
      simp [hobject, hbyname, Option.filter_some, hcell, of_decide_eq_true hne]

theorem hasName_self (keyword : String) :
    hasName keyword keyword = true ↔ (bareChars keyword.toList).head? ≠ some '.' := by
  rw [hasName, beq_iff_eq]
  cases hbare : bareChars keyword.toList with
  | nil => simp
  | cons c rest =>
    by_cases hdot : c = '.'
    · subst hdot
      have hshorter : (('.' :: rest).dropWhile (· == '.')).length < ('.' :: rest).length := by
        rw [List.dropWhile_cons_of_pos (by simp), List.length_cons]
        exact Nat.lt_succ_of_le (List.dropWhile_suffix _).length_le
      simp only [List.head?_cons, ne_eq, not_true_eq_false, iff_false]
      exact fun heq => hshorter.ne' (congrArg List.length heq)
    · simp [hdot]

/-- A record matches its own qualified name exactly if it is tried under the name that is given, and
its bare keyword does not start with a dot. -/
theorem IsWorded.matches_own_iff (h : r.IsWorded) (hkeyword : r.keyword ≠ "")
    (hname : name ∈ r.names) :
    r.Matches (name ++ "." ++ r.keyword) ⟨name, r.keyword⟩ ↔
      (name = r.object ∨ ¬ r.object.toList <+: (name ++ "." ++ r.keyword).toList) ∧
        (bareChars r.keyword.toList).head? ≠ some '.' := by
  have hcell : name.toList <+: (name ++ "." ++ r.keyword).toList := by
    rw [toList_qualified, List.append_assoc]
    exact List.prefix_append _ _
  have hafter : afterFirst (name.toList ++ ['.']) (name ++ "." ++ r.keyword).toList =
      some r.keyword.toList := by
    rw [toList_qualified, afterFirst_append]
  rw [← nameIn?_of_mem_names hname hcell, ← hasName_self]
  constructor
  · intro hmatch
    exact ⟨hmatch.object, Except.ok.inj ((h.isNamed_eq r.keyword).symm.trans hmatch.named)⟩
  · rintro ⟨htried, hown⟩
    exact ⟨htried, hafter, hkeyword, by rw [h.isNamed_eq, hown]⟩

end NamedRecord

/-- **A keyword is reached by a qualified name exactly if the longest name that matches the cell is at
least as long as the one that is given and stands at the start of the cell with a dot after it.** The
record itself matches under the given name unless it is tried under its other name, or its bare
keyword starts with a dot. -/
theorem split_qualified_iff {s : Store} {index : String} {records : List NamedRecord}
    (hindex : s.indexedKeywords index = .ok (records.map fun r => r.toRecord.document))
    (hrecords : ∀ r ∈ records, r.IsWorded) {r : NamedRecord} (hr : r ∈ records)
    (hkeyword : r.keyword ≠ "") {name : String} (hname : name ∈ r.names) :
    ∃ found, split s index (name ++ "." ++ r.keyword) = .ok found ∧
      ((found.keyword ≠ "" ∧ name.length ≤ found.object.length ∧
          found.object ++ "." ++ found.keyword = name ++ "." ++ r.keyword) ↔
        ∃ r' ∈ records, ∃ longest, r'.Matches (name ++ "." ++ r.keyword) longest ∧
          (∀ q ∈ records, ∀ other, q.Matches (name ++ "." ++ r.keyword) other →
            other.object.length ≤ longest.object.length) ∧
          name.length ≤ longest.object.length ∧
          longest.object.toList ++ ['.'] <+: (name ++ "." ++ r.keyword).toList) ∧
      (r.Matches (name ++ "." ++ r.keyword) ⟨name, r.keyword⟩ ↔
        (name = r.object ∨ ¬ r.object.toList <+: (name ++ "." ++ r.keyword).toList) ∧
          (bareChars r.keyword.toList).head? ≠ some '.') := by
  have hworded := hrecords r hr
  have hline : '\n' ∉ (name ++ "." ++ r.keyword).toList := by
    have hall : ∀ c ∈ name.toList ++ ['.'] ++ r.keyword.toList, isWordedChar c = true := by
      simp only [List.forall_mem_append]
      exact ⟨⟨hworded.of_mem_names hname, List.forall_mem_singleton.2 rfl⟩, hworded.keyword⟩
    rw [NamedRecord.toList_qualified]
    exact fun hmem => (isWordedChar_spec (hall _ hmem)).2.2 rfl
  obtain ⟨found, hsplit, hfound⟩ :=
    exists_split_eq hindex (fun q hq => (hrecords q hq).isUsable) hline
  refine ⟨found, hsplit, ?_, hworded.matches_own_iff hkeyword hname⟩
  rcases hfound with ⟨rfl, hnone⟩ | hlast
  · -- nothing is reached, and nothing matches
    constructor
    · rintro ⟨hne, -⟩
      exact absurd rfl hne
    · rintro ⟨r', hr', longest, hmatch, -⟩
      exact absurd hmatch (hnone r' hr' longest)
  · obtain ⟨⟨r', hr', hmatch⟩, hlongest⟩ := hlast.exists_matches
    constructor
    · rintro ⟨-, hlength, hcell⟩
      exact ⟨r', hr', found, hmatch, hlongest, hlength, hmatch.append_eq_iff.1 hcell⟩
    · rintro ⟨q, hq, longest, hmatch', hlongest', hlength, hdot⟩
      -- both names start the cell and are of the same length
      have hle := hlongest q hq longest hmatch'
      have hge := hlongest' r' hr' found hmatch
      have hobject : longest.object.toList = found.object.toList :=
        (List.prefix_of_prefix_length_le (NamedRecord.prefix_of_nameIn? hmatch'.object)
          (NamedRecord.prefix_of_nameIn? hmatch.object) hle).eq_of_length (hle.antisymm hge)
      rw [hobject] at hdot
      exact ⟨hmatch.nonempty, hlength.trans hle, hmatch.append_eq_iff.2 hdot⟩

/-! ### A byname that starts with the object name -/

theorem NamedRecord.faithful_document (r : NamedRecord) (h : r.arguments.Faithful) :
    r.toRecord.document.Faithful :=
  KeywordRecord.faithful_document (.text _) h (.text _) (Value.faithful_ofText? _)

/-- A keyword of a library whose byname starts with its own name. -/
def libraryRecord : NamedRecord := ⟨"Foo", .list [], "Lib", "Lib.json", some "Library"⟩

/-- The document of an index with this keyword only. -/
def libraryIndex : Value := IndexPart.document ⟨[libraryRecord.toRecord], []⟩

def libraryStore : Store where
  cwd := "/"
  entries := [(["index.json"], .file libraryIndex.render)]

theorem indexedKeywords_libraryIndex {s : Store} {path : String}
    (hraw : s.readRaw path = .ok libraryIndex.render) :
    s.indexedKeywords path = .ok ([libraryRecord].map fun r => r.toRecord.document) := by
  have hfaithful : libraryIndex.Faithful :=
    IndexPart.faithful_document
      (List.forall_mem_singleton.2 (libraryRecord.faithful_document (.list nofun))) nofun
  exact Store.indexedKeywords_of_readRaw hfaithful (by decide) hraw

theorem indexedKeywords_libraryStore : libraryStore.indexedKeywords "/index.json" =
    .ok ([libraryRecord].map fun r => r.toRecord.document) :=
  indexedKeywords_libraryIndex (Store.readRaw_eq_ok.2 ⟨["index.json"], rfl, rfl⟩)

/-- The keyword is reached by the name of its library, but not by the byname: there the record is
tried under the library's own name, after which no dot stands. -/
theorem split_qualified_byname :
    (∃ found, split libraryStore "/index.json" "Lib.Foo" = .ok found ∧
      found.keyword ≠ "" ∧ "Lib".length ≤ found.object.length ∧
      found.object ++ "." ++ found.keyword = "Lib.Foo") ∧
    ∃ found, split libraryStore "/index.json" "Library.Foo" = .ok found ∧
      ¬ (found.keyword ≠ "" ∧ "Library".length ≤ found.object.length ∧
        found.object ++ "." ++ found.keyword = "Library.Foo") := by
  have hworded : ∀ r ∈ [libraryRecord], r.IsWorded := by
    refine List.forall_mem_singleton.2 ⟨List.all_eq_true.1 (by decide),
      List.all_eq_true.1 (by decide), ?_⟩
    rintro _ ⟨⟩
    exact List.all_eq_true.1 (by decide)
  constructor
  · obtain ⟨found, hsplit, hreached, hown⟩ := split_qualified_iff indexedKeywords_libraryStore
      hworded List.mem_cons_self (by decide) (show "Lib" ∈ libraryRecord.names by decide)
    have hmatch := hown.2 ⟨Or.inl rfl, by decide⟩
    refine ⟨found, hsplit, hreached.2 ⟨libraryRecord, List.mem_cons_self, _, hmatch, ?_, by decide,
      by decide⟩⟩
    intro q hq other hother
    obtain rfl := List.mem_singleton.1 hq
    rw [Option.some.inj (hother.object.symm.trans hmatch.object)]
  · obtain ⟨found, hsplit, hreached, -⟩ := split_qualified_iff indexedKeywords_libraryStore
      hworded List.mem_cons_self (by decide) (show "Library" ∈ libraryRecord.names by decide)
    refine ⟨found, hsplit, fun h => ?_⟩
    obtain ⟨r, hr, longest, hmatch, -⟩ := hreached.1 h
    obtain rfl := List.mem_singleton.1 hr
    have hname : libraryRecord.nameIn? "Library.Foo" = some "Lib" := by decide
    have hobject : longest.object = "Lib" := Option.some.inj (hmatch.object.symm.trans hname)
    have hafter := hmatch.keyword
    rw [hobject] at hafter
    exact absurd hafter (by rw [show afterFirst _ _ = none by decide]; nofun)

end KeywordCatalog.Cell
