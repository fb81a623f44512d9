import KeywordCatalog.Proofs.Completion.Keywords
import KeywordCatalog.Proofs.Keyword.Names

/-!
# The variables that are offered

For a variable that is being typed, the variables of an index are offered that have the typed sigil
and whose names have the typed letters scattered over them, and inserting an item completes what is
typed to the variable (`offer_variables`).

The pattern for the typed text starts with the sigil. A variable has a sigil at its start only, so the
rest of the pattern must take a start of what follows the sigil there. This is the opening brace and,
if the closing brace is typed too, a name over which the letters are scattered (`exists_body`).
-/

namespace KeywordCatalog.Completion

open Text Pattern

/-! ### Variables and what is typed of them -/

/-- Whether a character can be in a name: it ends no line, and is no sigil or brace. -/
def isNameChar (c : Char) : Bool :=
  c != '\n' && !Variable.isSigil c && c != '\x7b' && c != '\x7d'

theorem isSigil_iff {c : Char} : Variable.isSigil c = true ↔ c ∈ ['$', '@', '&'] := by
  simp [Variable.isSigil, or_assoc]

/-- A variable in whose name there are no signs of variables. -/
structure PlainVariable where
  sigil : Char
  name : String
  isSigil_sigil : Variable.isSigil sigil = true
  isNameChar_name : ∀ c ∈ name.toList, isNameChar c = true
deriving DecidableEq

namespace PlainVariable

variable (v : PlainVariable)

/-- What follows the sigil. -/
def braced : List Char := '\x7b' :: (v.name.toList ++ ['\x7d'])

/-- A variable as it is written. -/
def written : String := String.ofList (v.sigil :: v.braced)

theorem toList_written : v.written.toList = v.sigil :: v.braced := String.toList_ofList

theorem name_ne {c d : Char} (hc : isNameChar c = false) (hd : d ∈ v.name.toList) : d ≠ c := by
  rintro rfl
  rw [v.isNameChar_name d hd] at hc
  cases hc

theorem isSigil_braced {c : Char} (hc : c ∈ v.braced) : Variable.isSigil c = false := by
  rcases List.mem_cons.1 hc with rfl | hc
  · rfl
  · rcases List.mem_append.1 hc with hc | hc
    · have hname := v.isNameChar_name c hc
      cases hsigil : Variable.isSigil c with
      | false => rfl
      | true => simp [isNameChar, hsigil] at hname
    · obtain rfl := List.mem_singleton.1 hc
      rfl

/-- The only sigil of a variable is at its start. -/
theorem written_eq_append {c : Char} {skipped tail : List Char} (hc : Variable.isSigil c = true) :
    v.written.toList = skipped ++ c :: tail ↔ skipped = [] ∧ c = v.sigil ∧ tail = v.braced := by
  rw [toList_written]
  constructor
  · intro h
    cases skipped with
    | nil =>
      obtain ⟨rfl, rfl⟩ := List.cons.inj h
      exact ⟨rfl, rfl, rfl⟩
    | cons d skipped =>
      obtain ⟨-, hbraced⟩ := List.cons.inj h
      have hmem : c ∈ v.braced := by rw [hbraced]; simp
      rw [v.isSigil_braced hmem] at hc
      cases hc
  · rintro ⟨rfl, rfl, rfl⟩
    rfl

end PlainVariable

/-- What is typed of a variable, with the part of the name in it: the sigil, then also the opening
brace, then both braces with a part of the name between them. -/
inductive StartsVariable (sigil : Char) : List Char → String → Prop
  | bare : StartsVariable sigil [] (.ofList [sigil])
  | opened : StartsVariable sigil [] (.ofList [sigil, '\x7b'])
  | closed {part : List Char} (hpart : ∀ c ∈ part, isWordChar c = true) :
    StartsVariable sigil part (.ofList (sigil :: '\x7b' :: (part ++ ['\x7d'])))

theorem isWordChar_ascii {c : Char} (hlt : c.toNat < 128) :
    isWordChar c = true → isLiteral c = true ∧ isBlank c = false :=
  @Keyword.forall_ascii c (fun c => isWordChar c = true → isLiteral c = true ∧ isBlank c = false)
    (by decide +kernel) hlt

theorem isLiteral_of_isWordChar {c : Char} (hc : isWordChar c = true) : isLiteral c = true := by
  by_cases hlt : c.toNat < 128
  · exact (isWordChar_ascii hlt hc).1
  · -- the characters with a meaning are all among the first ones
    have hsigns : ("\\|)([.^$*+?\x7b".toList.all fun d => d.toNat < 128) = true := by decide
    rw [isLiteral, Bool.not_eq_true', ← Bool.not_eq_true, List.contains_iff_mem]
    exact fun hmem => hlt (of_decide_eq_true (List.all_eq_true.1 hsigns c hmem))

/-! ### The patterns -/

section Body

variable {sigil : Char} {part : List Char} {typed : String}

theorem flatMap_gap (part : List Char) : '.' :: '*' :: part.flatMap (fun c => [c, '.', '*']) =
    part.flatMap (fun c => ['.', '*', c]) ++ ['.', '*'] := by
  induction part with
  | nil => rfl
  | cons c part ih => rw [List.flatMap_cons, List.flatMap_cons, List.append_assoc, ← ih]; rfl

theorem bound_neg_one (n : Nat) : bound (n + 1) (-1) = n := by
  rw [bound, if_pos (by omega)]
  omega

theorem between_braces (sigil : Char) (part : List Char) :
    between 2 (-1) (sigil :: '\x7b' :: (part ++ ['\x7d'])) = part := by
  have hstart : bound (part.length + 3) 2 = 2 := (bound_natCast _ 2).trans (by omega)
  simp [between, bound_neg_one, hstart]

theorem toList_variablePattern_bare : (variablePattern (.ofList [sigil])).toList =
    "(?i)".toList ++ (['\\', sigil] ++ ['.', '*']) := by
  have hchars : (String.ofList [sigil]).toList = [sigil] := String.toList_ofList
  unfold variablePattern
  rw [String.toList_ofList, hchars]
  rfl

theorem toList_variablePattern_opened : (variablePattern (.ofList [sigil, '\x7b'])).toList =
    "(?i)".toList ++ (['\\', sigil] ++ (['\\', '\x7b'] ++ ['.', '*'])) := by
  have hchars : (String.ofList [sigil, '\x7b']).toList = [sigil, '\x7b'] := String.toList_ofList
  unfold variablePattern
  rw [String.toList_ofList, hchars]
  rfl

/-- The pattern for a part of a name in braces is a chain up to the closing brace. -/
theorem toList_variablePattern_closed :
    (variablePattern (.ofList (sigil :: '\x7b' :: (part ++ ['\x7d'])))).toList =
      "(?i)".toList ++ (['\\', sigil] ++ (['\\', '\x7b'] ++
        (part.flatMap (fun c => ['.', '*', c]) ++ (['.', '*'] ++ ['\\', '\x7d'])))) := by
  have hchars : (String.ofList (sigil :: '\x7b' :: (part ++ ['\x7d']))).toList =
      sigil :: '\x7b' :: (part ++ ['\x7d']) := String.toList_ofList
  unfold variablePattern
  rw [String.toList_ofList, hchars, between_braces, ← List.append_assoc (part.flatMap _),
    ← flatMap_gap]
  cases part with
  | nil => rfl
  | cons c part =>
    have hlength : (sigil :: '\x7b' :: (c :: part ++ ['\x7d'])).length = part.length + 4 := by simp
    rw [hlength]
    rfl

/-- After the sigil, the pattern takes the braces and a name over which the letters are scattered. -/
theorem exists_body (h : StartsVariable sigil part typed) :
    ∃ text nodes, (variablePattern typed).toList = "(?i)".toList ++ (['\\', sigil] ++ text) ∧
      Spells caselessOptions text nodes ∧ (∀ node ∈ nodes, node.IsPiece) ∧
      ∀ (v : PlainVariable) (before : List Char),
        (∃ taken rest, v.braced = taken ++ rest ∧ (Node.row nodes).Takes before taken rest) ↔
          IsScattered part v.name.toList := by
  have hopening : isSign '\x7b' = true := isSign_of_mem (by decide)
  have hclosing : isSign '\x7d' = true := isSign_of_mem (by decide)
  cases h with
  | bare =>
    refine ⟨['.', '*'], [gapNode], toList_variablePattern_bare, spells_gap, ?_, fun v before => ?_⟩
    · exact List.forall_mem_singleton.2 trivial
    · refine iff_of_true ⟨[], v.braced, rfl, ?_⟩ isScattered_nil
      exact Node.takes_row_cons.2 ⟨[], [], rfl, takes_gapNode.2 List.not_mem_nil, rfl⟩
  | opened =>
    refine ⟨['\\', '\x7b'] ++ ['.', '*'], [letterNode .all '\x7b', gapNode],
      toList_variablePattern_opened, (spells_sign (by decide)).append spells_gap, ?_, fun v before => ?_⟩
    · exact List.forall_mem_cons.2 ⟨trivial, List.forall_mem_singleton.2 trivial⟩
    · refine iff_of_true ⟨['\x7b'], _, rfl, ?_⟩ isScattered_nil
      refine (takes_signRow hopening).2 ⟨[], rfl, ?_⟩
      exact Node.takes_row_cons.2 ⟨[], [], rfl, takes_gapNode.2 List.not_mem_nil, rfl⟩
  | closed hpart =>
    have hchain := spells_chain fun c hc => isLiteral_of_isWordChar (hpart c hc)
    have hspells := (spells_sign (c := '\x7b') (by decide)).append
      (hchain.append (spells_gap.append (spells_sign (c := '\x7d') (by decide))))
    have hnodes : [letterNode .all '\x7b'] ++
        (chainRow part ++ ([gapNode] ++ [letterNode .all '\x7d'])) =
          letterNode .all '\x7b' :: chainRow (part ++ ['\x7d']) := by
      simp [chainRow]
    rw [hnodes] at hspells
    refine ⟨_, _, toList_variablePattern_closed, hspells, ?_, fun v before => ?_⟩
    · exact List.forall_mem_cons.2 ⟨trivial, isPiece_chainRow _⟩
    · have hbreak : '\n' ∉ v.name.toList ++ ['\x7d'] := by
        simpa using fun h => v.name_ne rfl h rfl
      rw [← isScattered_concat hclosing, ← startsSpread_iff_isScattered hbreak, startsSpread_iff]
      simp only [takes_signRow hopening, takes_chainRow]
      constructor
      · rintro ⟨_, rest, htext, taken, rfl, hspread⟩
        exact ⟨taken, rest, (List.cons.inj htext).2, hspread⟩
      · rintro ⟨taken, rest, htext, hspread⟩
        exact ⟨'\x7b' :: taken, rest, congrArg (List.cons '\x7b') htext, taken, rfl, hspread⟩

theorem mem_signs_of_isSigil (h : Variable.isSigil sigil = true) :
    sigil ∈ ['$', '\x7b', '\x7d', '@', '&', '('] :=
  (by decide : ['$', '@', '&'] ⊆ ['$', '\x7b', '\x7d', '@', '&', '(']) (isSigil_iff.1 h)

/-- The pattern is found in the variables that have the sigil and the letters. -/
theorem exists_compile_variablePattern (hsigil : Variable.isSigil sigil = true)
    (htyped : StartsVariable sigil part typed) :
    ∃ p, Pattern.compile (variablePattern typed) = .ok p ∧ ∀ v : PlainVariable,
      p.occursIn v.written = .ok (decide (v.sigil = sigil ∧ IsScattered part v.name.toList)) := by
  obtain ⟨text, nodes, htext, hspells, hpieces, hbody⟩ := exists_body htyped
  have hsign := mem_signs_of_isSigil hsigil
  obtain ⟨p, hp, htree, hregular⟩ := exists_compile_signRow hsign hspells hpieces
  refine ⟨p, ?_, fun v => ?_⟩
  · rw [Pattern.compile, htext]
    exact hp
  · obtain ⟨found, hfound, hiff⟩ := hregular.occursIn_iff v.written
    have hmatch : found = true ↔ v.sigil = sigil ∧ IsScattered part v.name.toList := by
      rw [hiff, htree, ← hbody v [sigil]]
      simp only [takes_signRow (isSign_of_mem hsign)]
      constructor
      · rintro ⟨skipped, _, rest, hwritten, tail, rfl, htakes⟩
        rw [List.append_assoc, List.cons_append, v.written_eq_append hsigil] at hwritten
        obtain ⟨rfl, hv, hrest⟩ := hwritten
        exact ⟨hv.symm, tail, rest, hrest.symm, htakes⟩
      · rintro ⟨rfl, tail, rest, hrest, htakes⟩
        refine ⟨[], v.sigil :: tail, rest, ?_, tail, rfl, htakes⟩
        rw [v.toList_written, hrest]
        rfl
    rw [hfound, Bool.eq_iff_iff.2 (hmatch.trans decide_eq_true_iff.symm)]

end Body

/-! ### The list -/

variable {s : Store} {index typed : String} {sigil : Char} {part : List Char}
  {known : List PlainVariable}

/-- Whether inserting an item completes what is typed to a variable. -/
structure Item.Completes (item : Item) (sigil : Char) (typed : String) (v : PlainVariable) :
    Prop where
  trigger : item.trigger = v.written
  bare : typed = .ofList [sigil] → String.ofList [sigil] ++ item.insertion = v.written
  braced : typed ≠ .ofList [sigil] →
    String.ofList [sigil, '\x7b'] ++ item.insertion ++ String.ofList ['\x7d'] = v.written

section Typed

variable (hsigil : Variable.isSigil sigil = true) (htyped : StartsVariable sigil part typed)

include hsigil htyped

theorem StartsVariable.any_isSigil : typed.toList.any Variable.isSigil = true := by
  cases htyped <;> simp [hsigil]

/-- The opening brace is typed unless the sigil is all that is. -/
theorem StartsVariable.isBareSigil_iff : isBareSigil typed = true ↔ typed = .ofList [sigil] := by
  have hbrace : '\x7b' ≠ sigil := by
    rintro rfl
    exact absurd hsigil (by decide)
  rw [isBareSigil, String.contains_char_eq, Bool.not_eq_true', decide_eq_false_iff_not]
  cases htyped with
  | bare => exact iff_of_true (by simpa using hbrace) rfl
  | opened => exact iff_of_false (by simp) fun h => by simpa using congrArg String.toList h
  | closed => exact iff_of_false (by simp) fun h => by simpa using congrArg String.toList h

/-- What is inserted follows the sigil if only that is typed, and stands between the braces
otherwise. -/
theorem completes_ofVariable {v : PlainVariable} (hv : v.sigil = sigil) :
    (Item.ofVariable v.written (isBareSigil typed)).Completes sigil typed v := by
  subst hv
  refine ⟨rfl, fun hbare => ?_, fun hbraced => ?_⟩
  · rw [(htyped.isBareSigil_iff hsigil).2 hbare, ← String.toList_inj]
    simp [Item.ofVariable, PlainVariable.toList_written]
  · have hnot : isBareSigil typed = false :=
      Bool.eq_false_iff.2 (mt (htyped.isBareSigil_iff hsigil).1 hbraced)
    have hinserted : (Item.ofVariable v.written false).insertion = v.name := by
      rw [Item.ofVariable, if_neg Bool.false_ne_true, v.toList_written, PlainVariable.braced,
        between_braces, String.ofList_toList]
    rw [hnot, hinserted, ← String.toList_inj]
    simp [PlainVariable.toList_written, PlainVariable.braced]

end Typed

theorem offer_eq_map (hindex : s.indexedVariables index = .ok (known.map fun v => .text v.written))
    (hsigil : Variable.isSigil sigil = true) (htyped : StartsVariable sigil part typed)
    (object : Option String) (format : Format) :
    offer s index typed object format =
      .ok ((known.filter fun v => v.sigil = sigil ∧ IsScattered part v.name.toList).map
        fun v => .ofVariable v.written (isBareSigil typed)) := by
  obtain ⟨p, hp, hfound⟩ := exists_compile_variablePattern hsigil htyped
  have hoffered : (known.map fun v => Value.text v.written).mapM (fun v => do
        let name ← v.textOnly
        return if ← p.occursIn name then [Item.ofVariable name (isBareSigil typed)] else []) =
      .ok (known.map fun v => if v.sigil = sigil ∧ IsScattered part v.name.toList then
        [Item.ofVariable v.written (isBareSigil typed)] else []) := by
    rw [Outcome.mapM_eq_ok, List.forall₂_map_left_iff, List.forall₂_map_right_iff]
    refine List.forall₂_same.2 fun v _ => ?_
    rw [Value.textOnly_text, Outcome.ok_bind, hfound, Outcome.ok_bind]
    simp only [decide_eq_true_eq]
    rfl
  rw [offer, if_pos (htyped.any_isSigil hsigil), offerVariables, hp, Outcome.ok_bind, hindex,
    Outcome.ok_bind, hoffered, Outcome.ok_bind, flatten_map_ite]
  rfl

/-- **The right variables are offered, and inserting one reproduces it.** The items are, in their
order in the index, those of the variables that have the typed sigil and the typed letters in their
names. What is typed and what is inserted make the variable. -/
theorem offer_variables
    (hindex : s.indexedVariables index = .ok (known.map fun v => .text v.written))
    (hsigil : Variable.isSigil sigil = true) (htyped : StartsVariable sigil part typed)
    (object : Option String) (format : Format) :
    ∃ items, offer s index typed object format = .ok items ∧
      List.Forall₂ (fun v item => item.Completes sigil typed v)
        (known.filter fun v => v.sigil = sigil ∧ IsScattered part v.name.toList) items := by
  refine ⟨_, offer_eq_map hindex hsigil htyped object format, ?_⟩
  rw [List.forall₂_map_right_iff]
  refine List.forall₂_same.2 fun v hv => ?_
  have hv' : v.sigil = sigil ∧ IsScattered part v.name.toList := by
    simpa using (List.mem_filter.1 hv).2
  exact completes_ofVariable hsigil htyped hv'.1

/-! ### Addresses and users -/

theorem indexedVariables_storeOf {records : List TextRecord} {table : String} {names : List String}
    (hlevels : (indexOf records table names).levels ≤ Document.levelLimit) :
    (storeOf (indexOf records table names)).indexedVariables "/index.json" =
      .ok (names.map .text) := by
  rw [Store.indexedVariables, readDocument_storeOf hlevels]
  rfl

/-- A variable for one value. -/
def urlVariable : PlainVariable := ⟨'$', "URL", rfl, List.all_eq_true.1 (by decide)⟩

/-- A variable for a list. -/
def urlsVariable : PlainVariable := ⟨'@', "urls", rfl, List.all_eq_true.1 (by decide)⟩

/-- A variable whose name has a blank. -/
def userVariable : PlainVariable := ⟨'$', "user list", rfl, List.all_eq_true.1 (by decide)⟩

def siteStore : Store :=
  storeOf (indexOf [] "" ["$\x7bURL\x7d", "@\x7burls\x7d", "$\x7buser list\x7d"])

/-- The letters are found in both names with the sigil, whatever their case. -/
theorem offer_variables_site : ∃ url user,
    offer siteStore "/index.json" "$\x7bul\x7d" none ⟨.text "    ", true⟩ = .ok [url, user] ∧
    url.Completes '$' "$\x7bul\x7d" urlVariable ∧ user.Completes '$' "$\x7bul\x7d" userVariable := by
  have hindex : siteStore.indexedVariables "/index.json" =
      .ok ([urlVariable, urlsVariable, userVariable].map fun v => .text v.written) :=
    indexedVariables_storeOf (by decide)
  have htyped : StartsVariable '$' ['u', 'l'] "$\x7bul\x7d" :=
    .closed (List.all_eq_true.1 (by decide +kernel))
  have hfilter : [urlVariable, urlsVariable, userVariable].filter (fun v =>
      v.sigil = '$' ∧ IsScattered ['u', 'l'] v.name.toList) = [urlVariable, userVariable] := by
    decide +kernel
  obtain ⟨items, hoffer, hitems⟩ := offer_variables hindex rfl htyped none ⟨.text "    ", true⟩
  rw [hfilter] at hitems
  obtain ⟨url, rest, hurl, hrest, rfl⟩ := List.forall₂_cons_left_iff.1 hitems
  obtain ⟨user, rest, huser, hnil, rfl⟩ := List.forall₂_cons_left_iff.1 hrest
  obtain rfl := List.forall₂_nil_left_iff.1 hnil
  exact ⟨url, user, hoffer, hurl, huser⟩

end KeywordCatalog.Completion
