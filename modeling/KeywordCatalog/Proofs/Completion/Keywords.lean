import KeywordCatalog.Completion.Offer
import KeywordCatalog.Proofs.Pattern.Caseless
import KeywordCatalog.Proofs.Store

/-!
# The keywords that are offered

A name suits what is typed if the typed characters are spread over a part of it (`suits`); this is
what the pattern for the typed text asks (`exists_compile_keywordPattern`).

Going through an index without an object, every record adds its keyword if that suits, and the name
under which its object is offered if no record before it has added this name (`offerAll_cons`). So the
list is made of the keywords that suit, of the names in the order in which they first occur, and of
the words that give a library another name (`offerKeywords_exact`). With an object, the list has the
keywords of that object only.
-/

namespace KeywordCatalog.Completion

open Text Pattern

variable {p : Pattern} {typed cell : String} {single : Bool} {seen : List String}
  {values : List Value} {format : Format}

/-! ### Names that suit what is typed -/

/-- Whether a name has the typed characters in their order, with no line break between them. -/
def suits (typed name : String) : Bool := hasSpread typed.toList name.toList

/-- Whether a pattern is found in the names that suit what is typed. -/
def Finds (p : Pattern) (typed : String) : Prop := ∀ name, p.occursIn name = .ok (suits typed name)

theorem exists_compile_keywordPattern (htyped : ∀ c ∈ typed.toList, isLiteral c = true) :
    ∃ p, Pattern.compile (keywordPattern typed) = .ok p ∧ Finds p typed := by
  obtain ⟨p, hp, hfinds⟩ := exists_compile_chain htyped
  have htext : (keywordPattern typed).toList = "(?i)".toList ++
      ('(' :: ((typed.toList.flatMap fun c => ['.', '*', c]) ++ [')'])) := by
    unfold keywordPattern
    rw [String.toList_ofList]
    rfl
  refine ⟨p, ?_, hfinds⟩
  rw [Pattern.compile, htext]
  exact hp

/-! ### Going through an index -/

/-- The name of an object, if it was not offered before. -/
def fresh (seen : List String) (name : Option String) : List String :=
  (name.filter fun name => !seen.contains name).toList

theorem mem_fresh {name : String} {offered : Option String} :
    name ∈ fresh seen offered ↔ offered = some name ∧ name ∉ seen := by
  simp [fresh, Option.mem_toList, Option.filter_eq_some_iff]

@[simp] theorem fresh_none : fresh seen none = [] := rfl

theorem fresh_some (name : String) :
    fresh seen (some name) = if name ∈ seen then [] else [name] := by
  by_cases h : name ∈ seen <;> simp [fresh, Option.filter_some, h]

/-- What one record adds to the list. -/
theorem offerAll_cons (v : Value) : offerAll p format seen (v :: values) = (do
    let r ← Record.ofValue v
    let keyword ← offerKeyword p format r r.object
    let object ← objectOf p r
    let rest ← offerAll p format (seen ++ fresh seen object) values
    return keyword ++ (fresh seen object).map Item.ofObject ++ rest) := by
  rw [offerAll]
  refine bind_congr fun r => bind_congr fun keyword => bind_congr fun object => ?_
  cases object with
  | none => simp
  | some name =>
    by_cases h : name ∈ seen <;> simp [fresh_some, h]

section Finds

variable {r : Record} {name : String} (hp : Finds p typed) (hobject : r.object = .text name)

include hp hobject

/-- The object of a record without a byname is offered under its own name. -/
theorem Finds.objectOf_own (hbyname : r.byname.truthy = false) :
    objectOf p r = .ok (if suits typed name then some name else none) := by
  rw [objectOf, hbyname, if_neg Bool.false_ne_true, hobject, Value.textOnly_text, Outcome.ok_bind, hp,
    Outcome.ok_bind]
  rfl

/-- The object of a record with a byname is offered under that, if it suits. -/
theorem Finds.objectOf_byname {byname : String} (hbyname : r.byname = .text byname)
    (hempty : byname ≠ "") : objectOf p r = .ok (if suits typed byname then some byname
      else if suits typed name then some name else none) := by
  have htruthy : r.byname.truthy = true := by simpa [hbyname] using hempty
  rw [objectOf, htruthy, if_pos rfl, hbyname, Value.textOnly_text, Outcome.ok_bind, hp,
    Outcome.ok_bind, hobject, Value.textOnly_text, Outcome.ok_bind, hp, Outcome.ok_bind]
  split <;> rfl

end Finds

/-! ### Records of texts -/

/-- A keyword record of which the fields that completion looks at are texts. -/
structure TextRecord where
  keyword : String
  arguments : List String
  object : String
  byname : Option String

namespace TextRecord

/-- The fields as an index has them. -/
def fields (r : TextRecord) : Record :=
  ⟨.text r.keyword, .texts r.arguments, .text r.object, .ofText? r.byname⟩

/-- The text that is inserted for a keyword. -/
def insertion (r : TextRecord) (cell : String) (single : Bool) : String :=
  if single then
    String.ofList (escapeArguments r.keyword.toList) ++ String.join (r.arguments.map (cell ++ ·))
  else
    String.ofList (dropTrailing (· == '\n') (escapeArguments r.keyword.toList ++
      (if r.arguments.isEmpty then [] else ['\n']) ++
      r.arguments.flatMap fun a => (continuation ++ cell ++ a ++ "\n").toList))

/-- The item of a keyword, with its source. -/
def item (r : TextRecord) (cell : String) (single : Bool) (source : String) : Item :=
  ⟨r.keyword ++ "\t" ++ source, r.insertion cell single⟩

/-- The name under which the object of a record is offered: the byname if it is not empty and suits
what is typed, otherwise the object's own name if that suits. -/
def offered? (typed : String) (r : TextRecord) : Option String :=
  (r.byname.filter fun name => name ≠ "" ∧ suits typed name).or
    (if suits typed r.object then some r.object else none)

variable (r : TextRecord)

theorem oneLine_texts : oneLine r.keyword (.texts r.arguments) (.text cell) =
    .ok (r.insertion cell true) := by
  have hshown : (r.arguments.map Value.text).map (fun a => (Value.text cell).shown ++ a.shown) =
      r.arguments.map (cell ++ ·) := by
    simp
  rw [oneLine, Value.texts, Value.elements_list, Outcome.ok_bind, hshown]
  rfl

theorem manyLines_texts : manyLines r.keyword (.texts r.arguments) (.text cell) =
    .ok (r.insertion cell false) := by
  rw [manyLines, Value.texts, Value.elements_list, Outcome.ok_bind, insertion,
    if_neg Bool.false_ne_true]
  cases hr : r.arguments with
  | nil => simp [Value.truthy, pure, Except.pure]
  | cons a arguments => simp [Value.truthy, pure, Except.pure, List.flatMap_map]

theorem ofKeyword_eq (source : String) :
    Item.ofKeyword r.keyword (.texts r.arguments) (.text cell) (.text source) single =
      .ok (r.item cell single source) := by
  cases single with
  | true => rw [Item.ofKeyword, if_pos rfl, oneLine_texts]; rfl
  | false => rw [Item.ofKeyword, if_neg Bool.false_ne_true, manyLines_texts]; rfl

theorem offerKeyword_eq (hp : Finds p typed) (source : String) :
    offerKeyword p ⟨.text cell, single⟩ r.fields (.text source) =
      .ok (if suits typed r.keyword then [r.item cell single source] else []) := by
  have hkeyword : r.fields.keyword.textOnly = .ok r.keyword := rfl
  rw [offerKeyword, hkeyword, Outcome.ok_bind, hp, Outcome.ok_bind]
  split
  · rw [fields, ofKeyword_eq]
    rfl
  · rfl

theorem objectOf_eq (hp : Finds p typed) : objectOf p r.fields = .ok (r.offered? typed) := by
  cases hbyname : r.byname with
  | none =>
    rw [hp.objectOf_own rfl (by rw [fields, hbyname]; rfl), offered?, hbyname]
    rfl
  | some name =>
    by_cases hempty : name = ""
    · rw [hp.objectOf_own rfl (by rw [fields, hbyname, hempty]; rfl), offered?, hbyname]
      simp [hempty, Option.filter_some]
    · rw [hp.objectOf_byname rfl (by rw [fields, hbyname]; rfl) hempty, offered?, hbyname]
      by_cases hsuits : suits typed name = true <;> simp [hempty, hsuits, Option.filter_some]

end TextRecord

/-! ### Entries -/

/-- An entry of the list for records: a keyword, or the name of an object. -/
inductive Entry
  | keyword (item : Item)
  | object (name : String)

namespace Entry

/-- The item of an entry. -/
def item : Entry → Item
  | .keyword item => item
  | .object name => .ofObject name

/-- The item of an entry that is a keyword. -/
def keyword? : Entry → Option Item
  | .keyword item => some item
  | .object _ => none

/-- The name of an entry that is an object. -/
def object? : Entry → Option String
  | .keyword _ => none
  | .object name => some name

end Entry

/-- The entries for records, `seen` being the names that were offered before. -/
def entries (typed cell : String) (single : Bool) : List String → List TextRecord → List Entry
  | _, [] => []
  | seen, r :: records =>
    (if suits typed r.keyword then [.keyword (r.item cell single r.object)] else []) ++
      (fresh seen (r.offered? typed)).map .object ++
      entries typed cell single (seen ++ fresh seen (r.offered? typed)) records

variable {records : List TextRecord}

theorem offerAll_eq_entries (hp : Finds p typed)
    (hvalues : values.mapM Record.ofValue = .ok (records.map TextRecord.fields)) :
    offerAll p ⟨.text cell, single⟩ seen values =
      .ok ((entries typed cell single seen records).map Entry.item) := by
  have hpairs := Outcome.mapM_eq_ok.1 hvalues
  clear hvalues
  induction records generalizing values seen with
  | nil =>
    cases hpairs
    rfl
  | cons r records ih =>
    cases hpairs with
    | cons hr hpairs =>
      have hkeyword : offerKeyword p ⟨.text cell, single⟩ r.fields r.fields.object =
          .ok (if suits typed r.keyword then [r.item cell single r.object] else []) :=
        r.offerKeyword_eq hp r.object
      rw [offerAll_cons, hr, Outcome.ok_bind, hkeyword, Outcome.ok_bind, r.objectOf_eq hp,
        Outcome.ok_bind, ih hpairs, Outcome.ok_bind, entries, List.map_append, List.map_append,
        List.map_map]
      split <;> rfl

theorem filterMap_keyword?_entries :
    (entries typed cell single seen records).filterMap Entry.keyword? =
      (records.filter fun r => suits typed r.keyword).map fun r => r.item cell single r.object := by
  induction records generalizing seen with
  | nil => rfl
  | cons r records ih =>
    rw [entries, List.filterMap_append, List.filterMap_append, ih, List.filter_cons]
    split <;> simp [Entry.keyword?]

theorem filterMap_object?_entries_cons (r : TextRecord) :
    (entries typed cell single seen (r :: records)).filterMap Entry.object? =
      fresh seen (r.offered? typed) ++
        (entries typed cell single (seen ++ fresh seen (r.offered? typed)) records).filterMap
          Entry.object? := by
  have hkeyword : (if suits typed r.keyword then
      [Entry.keyword (r.item cell single r.object)] else []).filterMap Entry.object? = [] := by
    split <;> rfl
  have hobject : ((fresh seen (r.offered? typed)).map Entry.object).filterMap Entry.object? =
      fresh seen (r.offered? typed) := by
    rw [List.filterMap_map]
    exact List.filterMap_some
  rw [entries, List.filterMap_append, List.filterMap_append, hkeyword, hobject, List.nil_append]

/-- The objects are the names in the order in which they first occur. -/
theorem filterMap_object?_entries :
    (entries typed cell single seen records).filterMap Entry.object? =
      ((records.filterMap (TextRecord.offered? typed)).filter (!seen.contains ·)).eraseDups := by
  induction records generalizing seen with
  | nil => rfl
  | cons r records ih =>
    rw [filterMap_object?_entries_cons, ih, List.filterMap_cons]
    cases r.offered? typed with
    | none => simp
    | some name =>
      by_cases hname : name ∈ seen
      · simp [fresh_some, hname]
      · -- a name that is new is the first one of those that are left
        have hlater : (fun other => !(seen ++ [name]).contains other) =
            fun other => !(other == name) && !seen.contains other := by
          funext other
          by_cases hother : other = name <;> simp [hother]
        simp only [fresh_some, hname, if_false, List.filter_cons]
        rw [hlater, if_pos (by simp [hname]), List.eraseDups_cons, List.filter_filter]
        rfl

/-- No object is offered twice. -/
theorem nodup_filterMap_object?_entries :
    ((entries typed cell single seen records).filterMap Entry.object?).Nodup ∧
      ∀ name ∈ (entries typed cell single seen records).filterMap Entry.object?, name ∉ seen := by
  induction records generalizing seen with
  | nil => exact ⟨List.nodup_nil, nofun⟩
  | cons r records ih =>
    obtain ⟨hnodup, hlater⟩ := @ih (seen ++ fresh seen (r.offered? typed))
    have hfresh : (fresh seen (r.offered? typed)).Nodup := by
      cases r.offered? typed with
      | none => exact List.nodup_nil
      | some name => rw [fresh_some]; split <;> simp
    rw [filterMap_object?_entries_cons]
    refine ⟨List.nodup_append.2 ⟨hfresh, hnodup, ?_⟩, fun name hname => ?_⟩
    · rintro name hname _ hlast rfl
      exact hlater name hlast (List.mem_append_right _ hname)
    · rcases List.mem_append.1 hname with hname | hname
      · exact (mem_fresh.1 hname).2
      · exact fun hseen => hlater name hname (List.mem_append_left _ hseen)

/-! ### The list -/

/-- The words that give a library another name, as they are offered. -/
def withNameItem : Item := ⟨"WITH NAME\tWITH NAME", "WITH NAME"⟩

theorem withName?_toList {object : Option String} (hobject : object.all String.isEmpty = true) :
    (withName? typed object).toList =
      if typed.toList <+: withName.toList then [withNameItem] else [] := by
  rw [withName?, hobject, Bool.true_and]
  simp only [List.isPrefixOf_iff_prefix]
  split <;> rfl

theorem flatten_map_ite {α β : Type} (test : α → Prop) [DecidablePred test] (f : α → β)
    (xs : List α) :
    (xs.map fun x => if test x then [f x] else []).flatten = (xs.filter fun x => test x).map f := by
  induction xs with
  | nil => rfl
  | cons x xs ih =>
    rw [List.map_cons, List.flatten_cons, ih, List.filter_cons]
    by_cases hx : test x <;> simp [hx]

/-- Whether a source is the given object, and not of the same name as the keyword. -/
theorem isNamed_iff {source : Value} {keyword name : String} :
    (source.same (.text name) && !source.same (.text keyword)) = true ↔
      source = .text name ∧ keyword ≠ name := by
  cases source with
  | text other =>
    simp only [Value.same_text, Bool.and_eq_true, Bool.not_eq_true', beq_iff_eq, beq_eq_false_iff_ne,
      Value.text.injEq, ne_eq]
    constructor
    · rintro ⟨rfl, hne⟩
      exact ⟨rfl, Ne.symm hne⟩
    · rintro ⟨rfl, hne⟩
      exact ⟨rfl, Ne.symm hne⟩
  | _ => simp [Value.same]

/-- A record of an object adds its keyword if that suits and is not named like the object. -/
theorem offerOf_eq (hp : Finds p typed) {r : TextRecord} {v : Value}
    (hr : Record.ofValue v = .ok r.fields) (name : String) :
    offerOf p ⟨.text cell, single⟩ name v =
      .ok (if suits typed r.keyword ∧ r.keyword ≠ name ∧ (r.object = name ∨ r.byname = some name)
        then [r.item cell single name] else []) := by
  have hkeyword {source : Value} (hsource : source = .text name) :
      offerKeyword p ⟨.text cell, single⟩ r.fields source =
        .ok (if suits typed r.keyword then [r.item cell single name] else []) :=
    hsource ▸ r.offerKeyword_eq hp name
  have hbyname : r.fields.byname = .text name ↔ r.byname = some name := by
    cases hr : r.byname <;> simp [TextRecord.fields, Value.ofText?, hr]
  have hobject : r.fields.object = .text name ↔ r.object = name := by simp [TextRecord.fields]
  rw [offerOf, hr, Outcome.ok_bind]
  simp only [show r.fields.keyword = .text r.keyword from rfl, isNamed_iff]
  split
  · rename_i h
    rw [hkeyword h.1]
    simp [h.2, hobject.1 h.1]
  · rename_i h
    split
    · rename_i h'
      rw [hkeyword h'.1]
      simp [h'.2, hbyname.1 h'.1]
    · rename_i h'
      rw [hobject] at h
      rw [hbyname] at h'
      rw [if_neg (by tauto)]
      rfl

/-- The list for the keywords of an object. -/
theorem offerKeywords_of_object {s : Store} {index name : String}
    (hindex : s.indexedKeywords index = .ok values)
    (hvalues : values.mapM Record.ofValue = .ok (records.map TextRecord.fields))
    (htyped : ∀ c ∈ typed.toList, isLiteral c = true) (hname : name ≠ "") :
    offerKeywords s index typed (some name) ⟨.text cell, single⟩ =
      .ok ((records.filter fun r => suits typed r.keyword ∧ r.keyword ≠ name ∧
        (r.object = name ∨ r.byname = some name)).map fun r => r.item cell single name) := by
  obtain ⟨p, hp, hfinds⟩ := exists_compile_keywordPattern htyped
  have hempty : name.isEmpty = false := by simpa using hname
  have hsome : (some name).filter (!·.isEmpty) = some name := by
    simp [Option.filter_some, hempty]
  have hwithName : withName? typed (some name) = none := by simp [withName?, hempty]
  have hoffered : values.mapM (offerOf p ⟨.text cell, single⟩ name) = .ok (records.map fun r =>
      if suits typed r.keyword ∧ r.keyword ≠ name ∧ (r.object = name ∨ r.byname = some name)
        then [r.item cell single name] else []) := by
    rw [Outcome.mapM_eq_ok, List.forall₂_map_right_iff]
    have hpairs := List.forall₂_map_right_iff.1 (Outcome.mapM_eq_ok.1 hvalues)
    exact hpairs.imp fun v r hr => offerOf_eq hfinds hr name
  rw [offerKeywords, hp, Outcome.ok_bind, hindex, Outcome.ok_bind, hsome, hwithName]
  dsimp only
  rw [hoffered, Except.map, flatten_map_ite, Outcome.ok_bind, Option.toList_none, List.append_nil]
  rfl

/-- The list without an object. -/
theorem offerKeywords_of_none {s : Store} {index : String} {object : Option String}
    (hindex : s.indexedKeywords index = .ok values)
    (hvalues : values.mapM Record.ofValue = .ok (records.map TextRecord.fields))
    (htyped : ∀ c ∈ typed.toList, isLiteral c = true) (hobject : object.all String.isEmpty = true) :
    offerKeywords s index typed object ⟨.text cell, single⟩ =
      .ok ((entries typed cell single [] records).map Entry.item ++
        if typed.toList <+: withName.toList then [withNameItem] else []) := by
  obtain ⟨p, hp, hfinds⟩ := exists_compile_keywordPattern htyped
  have hnone : object.filter (!·.isEmpty) = none := by
    cases object with
    | none => rfl
    | some name =>
      have hname : name.isEmpty = true := hobject
      simp [Option.filter_some, hname]
  rw [offerKeywords, hp, Outcome.ok_bind, hindex, Outcome.ok_bind, hnone]
  dsimp only
  rw [offerAll_eq_entries hfinds hvalues, Outcome.ok_bind, withName?_toList hobject]
  rfl

/-- A keyword that suits what is typed is in the list for every name of its object, unless it is named
like the object. -/
theorem exists_item_of_object {s : Store} {index name : String} {r : TextRecord}
    (hindex : s.indexedKeywords index = .ok values)
    (hvalues : values.mapM Record.ofValue = .ok (records.map TextRecord.fields))
    (htyped : ∀ c ∈ typed.toList, isLiteral c = true) (hr : r ∈ records)
    (hname : r.object = name ∨ r.byname = some name) (hkeyword : r.keyword ≠ name)
    (hsuits : suits typed r.keyword = true) :
    ∃ items source, offerKeywords s index typed (some name) ⟨.text cell, single⟩ = .ok items ∧
      r.item cell single source ∈ items := by
  by_cases hempty : name = ""
  · -- an object without a name counts as no object
    have hobject : (some name).all String.isEmpty = true := by simp [hempty]
    refine ⟨_, r.object, offerKeywords_of_none hindex hvalues htyped hobject, ?_⟩
    have hmem : r.item cell single r.object ∈
        (entries typed cell single [] records).filterMap Entry.keyword? := by
      rw [filterMap_keyword?_entries]
      exact List.mem_map.2 ⟨r, List.mem_filter.2 ⟨hr, hsuits⟩, rfl⟩
    obtain ⟨entry, hentry, hitem⟩ := List.mem_filterMap.1 hmem
    refine List.mem_append_left _ (List.mem_map.2 ⟨entry, hentry, ?_⟩)
    cases entry with
    | keyword item => exact Option.some.inj hitem
    | object name => cases hitem
  · refine ⟨_, name, offerKeywords_of_object hindex hvalues htyped hempty, ?_⟩
    exact List.mem_map.2 ⟨r, List.mem_filter.2 ⟨hr, by simp [hsuits, hkeyword, hname]⟩, rfl⟩

/-- **Keyword completion loses and duplicates nothing.** Without an object the list has the keywords
that suit what is typed, the names of their objects, each once and in the order in which they first
occur, and in the end the words that give a library another name, if they start with what is typed.
With an object it has the keywords of that object which suit and are not named like it, so an object
that was offered leads to its keywords. -/
theorem offerKeywords_exact {s : Store} {index : String}
    (hindex : s.indexedKeywords index = .ok values)
    (hvalues : values.mapM Record.ofValue = .ok (records.map TextRecord.fields))
    (htyped : ∀ c ∈ typed.toList, isLiteral c = true) :
    (∃ p, Pattern.compile (keywordPattern typed) = .ok p ∧
      ∀ name, p.occursIn name = .ok (suits typed name)) ∧
    (∀ object : Option String, object.all String.isEmpty = true → ∃ entries : List Entry,
      offerKeywords s index typed object ⟨.text cell, single⟩ = .ok (entries.map Entry.item ++
        if typed.toList <+: "WITH NAME".toList then [withNameItem] else []) ∧
      entries.filterMap Entry.keyword? = (records.filter fun r => suits typed r.keyword).map
        (fun r => r.item cell single r.object) ∧
      (entries.filterMap Entry.object?).Nodup ∧
      entries.filterMap Entry.object? =
        (records.filterMap (TextRecord.offered? typed)).eraseDups ∧
      ∀ name ∈ entries.filterMap Entry.object?, ∀ r ∈ records,
        (r.object = name ∨ r.byname = some name) → r.keyword ≠ name →
        ∀ next : String, (∀ c ∈ next.toList, isLiteral c = true) → suits next r.keyword = true →
        ∃ items source, offerKeywords s index next (some name) ⟨.text cell, single⟩ = .ok items ∧
          r.item cell single source ∈ items) ∧
    ∀ name ≠ "", offerKeywords s index typed (some name) ⟨.text cell, single⟩ =
      .ok ((records.filter fun r => suits typed r.keyword ∧ r.keyword ≠ name ∧
        (r.object = name ∨ r.byname = some name)).map fun r => r.item cell single name) := by
  refine ⟨exists_compile_keywordPattern htyped, fun object hobject => ?_, fun name hname => ?_⟩
  · refine ⟨entries typed cell single [] records,
      offerKeywords_of_none hindex hvalues htyped hobject, filterMap_keyword?_entries,
      nodup_filterMap_object?_entries.1, ?_, ?_⟩
    · rw [filterMap_object?_entries]
      simp
    · intro name _ r hr hname hkeyword next hnext hsuits
      exact exists_item_of_object hindex hvalues hnext hr hname hkeyword hsuits
  · exact offerKeywords_of_object hindex hvalues htyped hname

/-! ### A library with a byname -/

namespace TextRecord

/-- The document of a record, with the table that it comes from. -/
def document (r : TextRecord) (table : String) : Value :=
  .list [.text r.keyword, .texts r.arguments, .text r.object, .text table, .ofText? r.byname]

theorem faithful_document (r : TextRecord) (table : String) : (r.document table).Faithful := by
  refine .list ?_
  simp only [List.forall_mem_cons]
  exact ⟨.text _, Value.faithful_texts _, .text _, .text _, Value.faithful_ofText? _, nofun⟩

theorem mapM_document (records : List TextRecord) (table : String) :
    (records.map (·.document table)).mapM Record.ofValue = .ok (records.map fields) := by
  rw [Outcome.mapM_eq_ok, List.forall₂_map_left_iff, List.forall₂_map_right_iff]
  exact List.forall₂_same.2 fun r _ => rfl

end TextRecord

/-- The document of an index. -/
def indexOf (records : List TextRecord) (table : String) (names : List String) : Value :=
  .object [("keywords", .list (records.map (·.document table))), ("variables", .texts names)]

/-- A store that has nothing but an index. -/
def storeOf (index : Value) : Store where
  cwd := "/"
  entries := [(["index.json"], .file index.render)]

theorem readDocument_storeOf {table : String} {names : List String}
    (hlevels : (indexOf records table names).levels ≤ Document.levelLimit) :
    (storeOf (indexOf records table names)).readDocument "/index.json" =
      .ok (indexOf records table names) := by
  refine Store.readDocument_of_readRaw ?_ hlevels
    (Store.readRaw_eq_ok.2 ⟨["index.json"], rfl, rfl⟩)
  refine .object (by simp) ?_
  simp only [List.forall_mem_cons]
  exact ⟨.list (List.forall_mem_map.2 fun r _ => r.faithful_document table),
    Value.faithful_texts names, nofun⟩

theorem indexedKeywords_storeOf {table : String} {names : List String}
    (hlevels : (indexOf records table names).levels ≤ Document.levelLimit) :
    (storeOf (indexOf records table names)).indexedKeywords "/index.json" =
      .ok (records.map (·.document table)) := by
  rw [Store.indexedKeywords, readDocument_storeOf hlevels]
  rfl

/-- Two keywords of a library with a byname, the second of which is named like the library. -/
def pageRecords : List TextRecord :=
  [⟨"Open Page", ["url"], "Library", some "Lib"⟩, ⟨"Library", [], "Library", some "Lib"⟩]

def pageStore : Store := storeOf (indexOf pageRecords "Library.json" [])

theorem indexedKeywords_pageStore : pageStore.indexedKeywords "/index.json" =
    .ok (pageRecords.map (·.document "Library.json")) :=
  indexedKeywords_storeOf (by decide)

/-- The byname is offered once, and both names of the library lead to its first keyword. -/
theorem offerKeywords_exact_page :
    (∃ entries : List Entry,
      offerKeywords pageStore "/index.json" "Lib" none ⟨.text "    ", true⟩ =
        .ok (entries.map Entry.item) ∧
      entries.filterMap Entry.keyword? = [⟨"Library\tLibrary", "Library"⟩] ∧
      entries.filterMap Entry.object? = ["Lib"]) ∧
    offerKeywords pageStore "/index.json" "page" (some "Lib") ⟨.text "    ", true⟩ =
      .ok [⟨"Open Page\tLib", "Open Page    url"⟩] ∧
    offerKeywords pageStore "/index.json" "" (some "Library") ⟨.text "    ", true⟩ =
      .ok [⟨"Open Page\tLibrary", "Open Page    url"⟩] := by
  have hexact (typed : String) (htyped : ∀ c ∈ typed.toList, isLiteral c = true) :=
    @offerKeywords_exact typed "    " true _ _ _ _ indexedKeywords_pageStore
      (TextRecord.mapM_document pageRecords "Library.json") htyped
  refine ⟨?_, ?_, ?_⟩
  · obtain ⟨-, hnone, -⟩ := hexact "Lib" (List.all_eq_true.1 (by decide))
    obtain ⟨entries, hoffer, hkeywords, -, hobjects, -⟩ := hnone none rfl
    refine ⟨entries, ?_, ?_, ?_⟩
    · rw [hoffer, if_neg (by decide), List.append_nil]
    · rw [hkeywords]
      decide +kernel
    · rw [hobjects]
      decide +kernel
  · obtain ⟨-, -, hobject⟩ := hexact "page" (List.all_eq_true.1 (by decide))
    rw [hobject "Lib" (by decide)]
    decide +kernel
  · obtain ⟨-, -, hobject⟩ := hexact "" nofun
    rw [hobject "Library" (by decide)]
    decide +kernel

end KeywordCatalog.Completion
