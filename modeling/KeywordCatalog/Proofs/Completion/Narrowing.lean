import KeywordCatalog.Proofs.Completion.Keywords

/-!
# Typing on

A name that suits a longer text suits what was typed before (`suits_of_push`), so typing one more
character takes keywords away and adds none. The names of objects are another matter: a record whose
byname no longer suits offers its object under the object's own name, which was not offered for it
before (`Record.Uncovers`). All other items of the longer text were there before, in the same order
(`offerKeywords_push`).
-/

namespace KeywordCatalog.Completion

open Text Pattern

variable {p q : Pattern} {typed longer : String} {c : Char} {seen seen' : List String}
  {values : List Value} {items : List Item} {format : Format} {r : Record}

theorem suits_of_push {name : String} (h : suits (typed.push c) name = true) :
    suits typed name = true := by
  rw [suits, String.toList_push] at h
  exact hasSpread_of_append h

/-- Whether a record offers its object under the object's own name for a longer text, since its byname
suits only what was typed before. -/
def Record.Uncovers (r : Record) (typed longer name : String) : Prop :=
  r.object = .text name ∧ suits longer name = true ∧ ∃ byname, r.byname = .text byname ∧
    byname ≠ "" ∧ suits typed byname = true ∧ suits longer byname = false

/-- Whether one of the records uncovers a name. -/
def IsUncovered (values : List Value) (typed longer name : String) : Prop :=
  ∃ v ∈ values, ∃ r, Record.ofValue v = .ok r ∧ r.Uncovers typed longer name

/-- One list of items narrows another: it keeps some of the items in their order, and has the names of
objects that are uncovered besides. -/
inductive Narrows (uncovered : String → Prop) : List Item → List Item → Prop
  | nil : Narrows uncovered [] []
  | keep {kept items : List Item} (item : Item) (h : Narrows uncovered kept items) :
    Narrows uncovered (item :: kept) (item :: items)
  | drop {kept items : List Item} (item : Item) (h : Narrows uncovered kept items) :
    Narrows uncovered kept (item :: items)
  | uncover {kept items : List Item} {name : String} (hname : uncovered name)
    (h : Narrows uncovered kept items) : Narrows uncovered (.ofObject name :: kept) items

namespace Narrows

variable {uncovered other : String → Prop} {kept kept' items items' : List Item}

theorem of_sublist (h : kept.Sublist items) : Narrows uncovered kept items := by
  induction h with
  | slnil => exact .nil
  | cons item _ ih => exact .drop item ih
  | cons_cons item _ ih => exact .keep item ih

theorem append (h : Narrows uncovered kept items) (h' : Narrows uncovered kept' items') :
    Narrows uncovered (kept ++ kept') (items ++ items') := by
  induction h with
  | nil => exact h'
  | keep item _ ih => exact .keep item ih
  | drop item _ ih => exact .drop item ih
  | uncover hname _ ih => exact .uncover hname ih

theorem mono (himp : ∀ name, uncovered name → other name) (h : Narrows uncovered kept items) :
    Narrows other kept items := by
  induction h with
  | nil => exact .nil
  | keep item _ ih => exact .keep item ih
  | drop item _ ih => exact .drop item ih
  | uncover hname _ ih => exact .uncover (himp _ hname) ih

/-- Where nothing is uncovered, the items were all there before. -/
theorem sublist (hnone : ∀ name, ¬uncovered name) (h : Narrows uncovered kept items) :
    kept.Sublist items := by
  induction h with
  | nil => exact .slnil
  | keep item _ ih => exact ih.cons_cons item
  | drop item _ ih => exact ih.cons item
  | uncover hname => exact absurd hname (hnone _)

end Narrows

/-- If an object is offered or passed over without a fault, a byname that is there is a text. -/
theorem exists_byname_of_objectOf {offered : Option String} (htruthy : r.byname.truthy = true)
    (h : objectOf p r = .ok offered) : ∃ byname, r.byname = .text byname ∧ byname ≠ "" := by
  rw [objectOf, htruthy, if_pos rfl] at h
  obtain ⟨byname, htext, -⟩ := Outcome.bind_eq_ok.1 h
  have hbyname := Value.eq_text_of_textOnly htext
  refine ⟨byname, hbyname, ?_⟩
  rintro rfl
  rw [hbyname] at htruthy
  exact absurd htruthy (by decide)

section Finds

variable (hp : Finds p typed) (hq : Finds q longer)
  (hlonger : ∀ name, suits longer name = true → suits typed name = true)

include hp hq hlonger

/-! ### One record -/

/-- The keyword of a record stays or goes. -/
theorem offerKeyword_narrows {source : Value} (h : offerKeyword p format r source = .ok items) :
    ∃ kept, offerKeyword q format r source = .ok kept ∧ kept.Sublist items := by
  rw [offerKeyword] at h ⊢
  obtain ⟨keyword, hkeyword, h⟩ := Outcome.bind_eq_ok.1 h
  rw [hp, Outcome.ok_bind] at h
  rw [hkeyword, Outcome.ok_bind, hq, Outcome.ok_bind]
  by_cases hsuits : suits longer keyword = true
  · rw [if_pos (hlonger keyword hsuits)] at h
    rw [if_pos hsuits]
    exact ⟨items, h, List.Sublist.refl items⟩
  · rw [if_neg hsuits]
    exact ⟨[], rfl, List.nil_sublist items⟩

theorem offerOf_narrows {object : String} {v : Value} (h : offerOf p format object v = .ok items) :
    ∃ kept, offerOf q format object v = .ok kept ∧ kept.Sublist items := by
  rw [offerOf] at h ⊢
  obtain ⟨r, hr, h⟩ := Outcome.bind_eq_ok.1 h
  rw [hr, Outcome.ok_bind]
  dsimp only at h ⊢
  -- which source the record is offered with does not depend on what is typed
  split_ifs at h ⊢
  · exact offerKeyword_narrows hp hq hlonger h
  · exact offerKeyword_narrows hp hq hlonger h
  · exact ⟨items, h, List.Sublist.refl items⟩

/-- The object of a record is offered under the name as before, unless that no longer suits; then it
is not offered, or its own name is uncovered. -/
theorem objectOf_narrows {offered : Option String} (hobject : ∃ name, r.object = .text name)
    (h : objectOf p r = .ok offered) :
    ∃ kept, objectOf q r = .ok kept ∧
      (∀ name ∈ kept, suits longer name = true ∧
        (name ∈ offered ∨ r.Uncovers typed longer name)) ∧
      ∀ name ∈ offered, suits longer name = true → name ∈ kept := by
  obtain ⟨name, hname⟩ := hobject
  cases htruthy : r.byname.truthy with
  | false =>
    rw [hp.objectOf_own hname htruthy, Except.ok.injEq] at h
    subst h
    refine ⟨_, hq.objectOf_own hname htruthy, ?_, ?_⟩
    · intro other hother
      obtain ⟨hsuits, ⟨⟩⟩ := Option.ite_none_right_eq_some.1 hother
      exact ⟨hsuits, Or.inl (if_pos (hlonger _ hsuits))⟩
    · intro other hother hsuits
      obtain ⟨-, ⟨⟩⟩ := Option.ite_none_right_eq_some.1 hother
      exact if_pos hsuits
  | true =>
    obtain ⟨byname, hbyname, hempty⟩ := exists_byname_of_objectOf htruthy h
    rw [hp.objectOf_byname hname hbyname hempty, Except.ok.injEq] at h
    subst h
    refine ⟨_, hq.objectOf_byname hname hbyname hempty, ?_⟩
    cases hsuits : suits longer byname with
    | true =>
      rw [if_pos (hlonger byname hsuits), if_pos rfl]
      refine ⟨?_, fun _ hother _ => hother⟩
      rintro _ ⟨⟩
      exact ⟨hsuits, Or.inl rfl⟩
    | false =>
      rw [if_neg Bool.false_ne_true]
      refine ⟨fun other hother => ?_, fun other hother hother' => ?_⟩
      · obtain ⟨hown, ⟨⟩⟩ := Option.ite_none_right_eq_some.1 hother
        refine ⟨hown, ?_⟩
        cases htyped : suits typed byname with
        | true => exact Or.inr ⟨hname, hown, byname, hbyname, hempty, htyped, hsuits⟩
        | false => exact Or.inl (if_pos (hlonger _ hown))
      · cases htyped : suits typed byname with
        | true =>
          rw [htyped, if_pos rfl] at hother
          cases hother
          rw [hsuits] at hother'
          exact absurd hother' Bool.false_ne_true
        | false =>
          rw [htyped, if_neg Bool.false_ne_true] at hother
          obtain ⟨-, ⟨⟩⟩ := Option.ite_none_right_eq_some.1 hother
          exact if_pos hother'

/-! ### Going through an index -/

omit hp hq hlonger in
/-- The names of one record, where a name that still suits was seen if it was before. -/
theorem narrows_fresh {offered kept : Option String}
    (hseen : ∀ name ∈ seen, suits longer name = true → name ∈ seen')
    (hkept : ∀ name ∈ kept, suits longer name = true ∧
      (name ∈ offered ∨ r.Uncovers typed longer name)) :
    Narrows (r.Uncovers typed longer) ((fresh seen' kept).map Item.ofObject)
      ((fresh seen offered).map Item.ofObject) := by
  cases kept with
  | none => exact .of_sublist (List.nil_sublist _)
  | some name =>
    rw [fresh_some]
    split
    · exact .of_sublist (List.nil_sublist _)
    · rename_i hnew
      obtain ⟨hsuits, hoffered | huncovers⟩ := hkept name rfl
      · have hold : name ∉ seen := fun h => hnew (hseen name h hsuits)
        obtain rfl := hoffered
        rw [fresh_some, if_neg hold]
        exact .of_sublist (List.Sublist.refl _)
      · exact .uncover huncovers (.of_sublist (List.nil_sublist _))

/-- Going through an index for a longer text narrows the list. A name that still suits is among those
that were offered if it was before, so that it is not offered at a later record. -/
theorem offerAll_narrows (hseen : ∀ name ∈ seen, suits longer name = true → name ∈ seen')
    (hobjects : ∀ v ∈ values, ∀ r, Record.ofValue v = .ok r → ∃ name, r.object = .text name)
    (h : offerAll p format seen values = .ok items) :
    ∃ kept, offerAll q format seen' values = .ok kept ∧
      Narrows (IsUncovered values typed longer) kept items := by
  induction values generalizing seen seen' items with
  | nil =>
    cases h
    exact ⟨[], rfl, .nil⟩
  | cons v values ih =>
    rw [offerAll_cons] at h
    obtain ⟨r, hr, h⟩ := Outcome.bind_eq_ok.1 h
    obtain ⟨keyword, hkeyword, h⟩ := Outcome.bind_eq_ok.1 h
    obtain ⟨offered, hoffered, h⟩ := Outcome.bind_eq_ok.1 h
    obtain ⟨rest, hrest, ⟨⟩⟩ := Outcome.bind_eq_ok.1 h
    obtain ⟨keyword', hkeyword', hsublist⟩ := offerKeyword_narrows hp hq hlonger hkeyword
    obtain ⟨kept, hkept, hnames, hstill⟩ :=
      objectOf_narrows hp hq hlonger (hobjects v List.mem_cons_self r hr) hoffered
    have hseen' : ∀ name ∈ seen ++ fresh seen offered, suits longer name = true →
        name ∈ seen' ++ fresh seen' kept := by
      intro name hname hsuits
      by_cases hold : name ∈ seen'
      · exact List.mem_append_left _ hold
      · rcases List.mem_append.1 hname with hname | hname
        · exact absurd (hseen name hname hsuits) hold
        · exact List.mem_append_right _
            (mem_fresh.2 ⟨hstill name (mem_fresh.1 hname).1 hsuits, hold⟩)
    obtain ⟨rest', hrest', hnarrows⟩ :=
      ih hseen' (fun w hw => hobjects w (List.mem_cons_of_mem _ hw)) hrest
    refine ⟨keyword' ++ (fresh seen' kept).map Item.ofObject ++ rest', ?_, ?_⟩
    · rw [offerAll_cons, hr, Outcome.ok_bind, hkeyword', Outcome.ok_bind, hkept, Outcome.ok_bind,
        hrest', Outcome.ok_bind]
      rfl
    · refine ((Narrows.of_sublist hsublist).append ?_).append ?_
      · exact (narrows_fresh hseen hnames).mono fun name hname =>
          ⟨v, List.mem_cons_self, r, hr, hname⟩
      · refine hnarrows.mono ?_
        rintro name ⟨w, hw, huncovers⟩
        exact ⟨w, List.mem_cons_of_mem _ hw, huncovers⟩

/-- The keywords of an object go or stay. -/
theorem mapM_offerOf_narrows {object : String} {lists : List (List Item)}
    (h : values.mapM (offerOf p format object) = .ok lists) :
    ∃ kept, values.mapM (offerOf q format object) = .ok kept ∧
      kept.flatten.Sublist lists.flatten := by
  have hpairs := Outcome.mapM_eq_ok.1 h
  clear h
  induction hpairs with
  | nil => exact ⟨[], rfl, .slnil⟩
  | cons hfirst _ ih =>
    obtain ⟨first, hfirst', hsublist⟩ := offerOf_narrows hp hq hlonger hfirst
    obtain ⟨kept, hkept, hrest⟩ := ih
    refine ⟨first :: kept, ?_, hsublist.append hrest⟩
    exact Outcome.mapM_eq_ok.2 (.cons hfirst' (Outcome.mapM_eq_ok.1 hkept))

end Finds

/-! ### The list -/

theorem withName?_push_sublist (object : Option String) :
    (withName? (typed.push c) object).toList.Sublist (withName? typed object).toList := by
  have hstarts : (typed.push c).toList.isPrefixOf withName.toList = true →
      typed.toList.isPrefixOf withName.toList = true := by
    rw [List.isPrefixOf_iff_prefix, List.isPrefixOf_iff_prefix, String.toList_push]
    exact (List.prefix_append _ _).trans
  unfold withName?
  cases object.all String.isEmpty with
  | false => exact List.Sublist.refl _
  | true =>
    cases hlonger : (typed.push c).toList.isPrefixOf withName.toList with
    | false => exact List.nil_sublist _
    | true => rw [hstarts hlonger]

/-- **Typing on narrows the list, but for objects whose byname no longer suits.** The items for one
more character are items that were offered before, in the same order, and the names of objects that
are uncovered. So they are a sublist where no name is uncovered, and wherever an object is given. -/
theorem offerKeywords_push {s : Store} {index : String} {object : Option String}
    (htyped : ∀ d ∈ typed.toList, isLiteral d = true) (hc : isLiteral c = true)
    (hindex : s.indexedKeywords index = .ok values)
    (hobjects : ∀ v ∈ values, ∀ r, Record.ofValue v = .ok r → ∃ name, r.object = .text name)
    (hoffer : offerKeywords s index typed object format = .ok items) :
    ∃ kept, offerKeywords s index (typed.push c) object format = .ok kept ∧
      Narrows (IsUncovered values typed (typed.push c)) kept items ∧
      ((∀ name, ¬IsUncovered values typed (typed.push c) name) → kept.Sublist items) ∧
      (object.all String.isEmpty = false → kept.Sublist items) := by
  have hlonger : ∀ d ∈ (typed.push c).toList, isLiteral d = true := by
    rw [String.toList_push]
    exact List.forall_mem_append.2 ⟨htyped, List.forall_mem_singleton.2 hc⟩
  obtain ⟨p, hp, hfinds⟩ := exists_compile_keywordPattern htyped
  obtain ⟨q, hq, hfinds'⟩ := exists_compile_keywordPattern hlonger
  have hwithName := @withName?_push_sublist typed c object
  rw [offerKeywords, hp, Outcome.ok_bind, hindex, Outcome.ok_bind] at hoffer
  rw [offerKeywords, hq, Outcome.ok_bind, hindex, Outcome.ok_bind]
  cases hobject : object.filter (!·.isEmpty) with
  | none =>
    have hempty : object.all String.isEmpty = true := by
      cases object with
      | none => rfl
      | some name => simpa [Option.filter_some] using hobject
    rw [hobject] at hoffer
    obtain ⟨shorter, hshorter, ⟨⟩⟩ := Outcome.bind_eq_ok.1 hoffer
    obtain ⟨kept, hkept, hnarrows⟩ := offerAll_narrows hfinds hfinds' (fun _ => suits_of_push)
      (fun _ h => absurd h List.not_mem_nil) hobjects hshorter
    have hlist := hnarrows.append (.of_sublist hwithName)
    refine ⟨_, ?_, hlist, fun hnone => hlist.sublist hnone, fun h => ?_⟩
    · dsimp only
      rw [hkept, Outcome.ok_bind]
      rfl
    · rw [hempty] at h
      cases h
  | some name =>
    rw [hobject] at hoffer
    obtain ⟨shorter, hshorter, ⟨⟩⟩ := Outcome.bind_eq_ok.1 hoffer
    obtain ⟨lists, hlists, rfl⟩ := Outcome.map_eq_ok.1 hshorter
    obtain ⟨kept, hkept, hsublist⟩ :=
      mapM_offerOf_narrows hfinds hfinds' (fun _ => suits_of_push) hlists
    have hlist := hsublist.append hwithName
    refine ⟨_, ?_, .of_sublist hlist, fun _ => hlist, fun _ => hlist⟩
    dsimp only
    rw [hkept]
    rfl

/-! ### A byname that is typed over -/

theorem exists_object_pageRecords : ∀ v ∈ pageRecords.map (·.document "Library.json"), ∀ r,
    Record.ofValue v = .ok r → ∃ name, r.object = .text name := by
  intro v hv r hr
  obtain ⟨page, -, rfl⟩ := List.mem_map.1 hv
  obtain rfl : page.fields = r := Except.ok.inj hr
  exact ⟨page.object, rfl⟩

/-- What the library with a byname offers while its byname is typed. -/
theorem offerKeywords_pageStore_byname :
    offerKeywords pageStore "/index.json" "Lib" none ⟨.text "    ", true⟩ =
      .ok [.ofObject "Lib", ⟨"Library\tLibrary", "Library"⟩] := by
  rw [offerKeywords_of_none indexedKeywords_pageStore (TextRecord.mapM_document pageRecords _)
    (List.all_eq_true.1 (by decide)) rfl]
  decide +kernel

/-- The keywords of a library are narrowed. -/
theorem offerKeywords_push_page :
    (∃ kept, offerKeywords pageStore "/index.json" ("Lib".push 'r') none ⟨.text "    ", true⟩ =
        .ok kept ∧
      Narrows (IsUncovered (pageRecords.map (·.document "Library.json")) "Lib" "Libr") kept
        [.ofObject "Lib", ⟨"Library\tLibrary", "Library"⟩]) ∧
    ∃ kept, offerKeywords pageStore "/index.json" ("Pag".push 'e') (some "Lib")
        ⟨.text "    ", true⟩ = .ok kept ∧
      kept.Sublist [⟨"Open Page\tLib", "Open Page    url"⟩] := by
  constructor
  · obtain ⟨kept, hkept, hnarrows, -⟩ := offerKeywords_push (c := 'r')
      (List.all_eq_true.1 (by decide)) (by decide) indexedKeywords_pageStore
      exists_object_pageRecords offerKeywords_pageStore_byname
    exact ⟨kept, hkept, hnarrows⟩
  · have hoffer : offerKeywords pageStore "/index.json" "Pag" (some "Lib") ⟨.text "    ", true⟩ =
        .ok [⟨"Open Page\tLib", "Open Page    url"⟩] := by
      rw [offerKeywords_of_object indexedKeywords_pageStore
        (TextRecord.mapM_document pageRecords _) (List.all_eq_true.1 (by decide)) (by decide)]
      decide +kernel
    obtain ⟨kept, hkept, -, -, hsublist⟩ := offerKeywords_push (c := 'e')
      (List.all_eq_true.1 (by decide)) (by decide) indexedKeywords_pageStore
      exists_object_pageRecords hoffer
    exact ⟨kept, hkept, hsublist rfl⟩

/-- With one more character the byname does not suit any more, and the name of the library, which was
not offered before, is. -/
theorem not_sublist_page :
    ∃ shorter longer,
      offerKeywords pageStore "/index.json" "Lib" none ⟨.text "    ", true⟩ = .ok shorter ∧
      offerKeywords pageStore "/index.json" ("Lib".push 'r') none ⟨.text "    ", true⟩ =
        .ok longer ∧
      ¬longer.Sublist shorter := by
  refine ⟨_, [.ofObject "Library", ⟨"Library\tLibrary", "Library"⟩],
    offerKeywords_pageStore_byname, ?_, by decide +kernel⟩
  rw [offerKeywords_of_none indexedKeywords_pageStore (TextRecord.mapM_document pageRecords _)
    (List.all_eq_true.1 (by decide)) rfl]
  decide +kernel

end KeywordCatalog.Completion
