import KeywordCatalog.Index.Arguments
import KeywordCatalog.Proofs.Outcome

/-!
# The forms of arguments

Each argument of a keyword has its own form in an index, whatever stands beside it
(`Argument.indexedAll_texts`). The name of a variable is what stands between its first and its last
brace, so braces and sigils in it are kept (`Argument.braced?_variable`).
-/

namespace KeywordCatalog

namespace Text

variable {mark : Char} {text : List Char}

theorem cutAt_of_notMem (h : mark ∉ text) : cutAt mark text = (text, none) := by
  induction text with
  | nil => rfl
  | cons c rest ih =>
    obtain ⟨hc, hrest⟩ := not_or.1 (mt List.mem_cons.2 h)
    rw [cutAt, if_neg (by simpa using Ne.symm hc), ih hrest]

theorem cutAt_append (h : mark ∉ text) (rest : List Char) :
    cutAt mark (text ++ mark :: rest) = (text, some rest) := by
  induction text with
  | nil => simp [cutAt]
  | cons c text ih =>
    obtain ⟨hc, htext⟩ := not_or.1 (mt List.mem_cons.2 h)
    rw [List.cons_append, cutAt, if_neg (by simpa using Ne.symm hc), ih htext]

theorem cutAt_fst (mark : Char) (text : List Char) :
    (cutAt mark text).1 = text.takeWhile (· != mark) := by
  induction text with
  | nil => rfl
  | cons c rest ih => by_cases hc : c = mark <;> simp [cutAt, hc, ih]

theorem beforeLast_concat (mark : Char) (text : List Char) :
    beforeLast mark (text ++ [mark]) = some text := by
  induction text with
  | nil => simp [beforeLast]
  | cons c rest ih => rw [List.cons_append, beforeLast, ih]

end Text

namespace Argument

open Text

/-- A variable with a name. -/
def variableChars (sigil : Char) (name : List Char) : List Char :=
  sigil :: '\x7b' :: (name ++ ['\x7d'])

theorem equals_notMem_variable {sigil : Char} {name : List Char}
    (hsigil : Variable.isSigil sigil = true) (hname : '=' ∉ name) :
    '=' ∉ variableChars sigil name := by
  have hne : '=' ≠ sigil := by
    rintro rfl
    exact absurd hsigil (by decide)
  simp [variableChars, hne, hname]

/-- The braces of a variable reach to the end, whatever braces its name has. -/
theorem braced?_variable {sigil : Char} {name : List Char} (hsigil : Variable.isSigil sigil = true)
    (hname : name ≠ []) (hline : '\n' ∉ name) : braced? (variableChars sigil name) = some name := by
  have hwhole : (name ++ ['\x7d']).takeWhile (· != '\n') = name ++ ['\x7d'] := by
    have hinside : ∀ c ∈ name, (c != '\n') = true := by
      intro c hc
      rw [bne_iff_ne]
      rintro rfl
      exact hline hc
    rw [List.takeWhile_append_of_pos hinside]
    rfl
  obtain ⟨x, inner, rfl⟩ := List.exists_cons_of_ne_nil hname
  rw [variableChars, braced?, if_pos hsigil, List.head?_cons]
  simp only [List.drop_succ_cons, List.drop_zero, hwhole, beforeLast_concat]

/-- Without a sigil and a brace after it there is no variable. -/
theorem braced?_eq_none {text : List Char}
    (h : ∀ sigil, Variable.isSigil sigil = true → ¬[sigil, '\x7b'] <:+: text) :
    braced? text = none := by
  induction text with
  | nil => rfl
  | cons c rest ih =>
    have hrest := ih fun sigil hsigil hinfix => h sigil hsigil (List.infix_cons hinfix)
    rw [braced?]
    split
    · rename_i hbrace
      obtain ⟨hsigil, hhead⟩ := Option.ite_none_right_eq_some.1 hbrace
      obtain ⟨tail, rfl⟩ := List.head?_eq_some_iff.1 hhead
      exact absurd ⟨[], tail, rfl⟩ (h c hsigil)
    · exact hrest

/-- The form of a variable without a default. -/
theorem indexed_variable {sigil : Char} {name : List Char} (hsigil : Variable.isSigil sigil = true)
    (hname : name ≠ []) (hequals : '=' ∉ name) (hline : '\n' ∉ name) :
    indexed (variableChars sigil name) =
      (if sigil = '$' then [] else if sigil = '@' then ['*'] else ['*', '*']) ++ name := by
  rw [indexed, split, cutAt_of_notMem (equals_notMem_variable hsigil hequals)]
  simp only [braced?_variable hsigil hname hline]
  rw [variableChars, List.head?_cons]
  split_ifs with hvalue hlist
  · rw [hvalue]
    rfl
  · rw [hlist]
    rfl
  · split
    · exact absurd (Option.some.inj ‹_›) hvalue
    · exact absurd (Option.some.inj ‹_›) hlist
    · rfl

theorem indexed_preset {name preset : List Char} (hname : name ≠ []) (hequals : '=' ∉ name)
    (hline : '\n' ∉ name) (hpreset : preset ≠ []) :
    indexed (variableChars '$' name ++ '=' :: preset) = name ++ '=' :: preset := by
  obtain ⟨d, rest, rfl⟩ := List.exists_cons_of_ne_nil hpreset
  have hsigil : Variable.isSigil '$' = true := by decide
  rw [indexed, split, cutAt_append (equals_notMem_variable hsigil hequals)]
  simp only [braced?_variable hsigil hname hline]
  rfl

theorem indexed_of_noVariable {argument : List Char}
    (h : ∀ sigil, Variable.isSigil sigil = true →
      ¬[sigil, '\x7b'] <:+: argument.takeWhile (· != '=')) :
    indexed argument = argument.takeWhile (· != '=') := by
  rw [← cutAt_fst] at h ⊢
  rw [indexed, split]
  simp only [braced?_eq_none h]

/-- The forms of texts are texts, one for each and in the same order. -/
theorem indexedAll_texts (arguments : List String) :
    indexedAll (.list (arguments.map .text)) =
      .ok (arguments.map fun argument => .text (String.ofList (indexed argument.toList))) := by
  rw [indexedAll, Value.elements_list, Outcome.ok_bind, Outcome.mapM_eq_ok, List.forall₂_map_left_iff,
    List.forall₂_map_right_iff, List.forall₂_same]
  intro argument _
  rfl

/-- **Every argument of a keyword has a form of its own.** A variable is kept by its name, with its
default if it has one, lists and dictionaries with stars in front; any other argument is kept up to its
first equals sign. -/
theorem indexedAll_pointwise :
    (∀ arguments : List String, indexedAll (.list (arguments.map .text)) =
      .ok (arguments.map fun argument => .text (String.ofList (indexed argument.toList)))) ∧
    (∀ name : List Char, name ≠ [] → '=' ∉ name → '\n' ∉ name →
      indexed (variableChars '$' name) = name ∧
      (∀ preset, preset ≠ [] →
        indexed (variableChars '$' name ++ '=' :: preset) = name ++ '=' :: preset) ∧
      indexed (variableChars '@' name) = '*' :: name ∧
      indexed (variableChars '&' name) = '*' :: '*' :: name) ∧
    ∀ argument : List Char, (∀ sigil, Variable.isSigil sigil = true →
        ¬[sigil, '\x7b'] <:+: argument.takeWhile (· != '=')) →
      indexed argument = argument.takeWhile (· != '=') := by
  refine ⟨indexedAll_texts, fun name hname hequals hline => ⟨?_, ?_, ?_, ?_⟩, ?_⟩
  · exact indexed_variable (by decide) hname hequals hline
  · exact fun preset hpreset => indexed_preset hname hequals hline hpreset
  · exact indexed_variable (by decide) hname hequals hline
  · exact indexed_variable (by decide) hname hequals hline
  · exact fun argument hargument => indexed_of_noVariable hargument

/-- A name with braces and a sigil and a default that is a variable, beside an argument that is no
variable and has one as its default. -/
theorem indexedAll_pointwise_nested :
    indexedAll (.list [.text "$\x7ba\x7d@\x7bb\x7d=$\x7bTrue\x7d", .text "*rest=$\x7bNone\x7d"]) =
      .ok [.text "a\x7d@\x7bb=$\x7bTrue\x7d", .text "*rest"] := by
  obtain ⟨hall, hvariable, hother⟩ := indexedAll_pointwise
  have hfirst := (hvariable "a\x7d@\x7bb".toList (by decide) (by decide) (by decide)).2.1
    "$\x7bTrue\x7d".toList (by decide)
  have hsecond := hother "*rest=$\x7bNone\x7d".toList fun sigil _ hinfix => by
    have hmem : '\x7b' ∈ "*rest".toList := hinfix.subset (by simp)
    exact absurd hmem (by decide)
  refine (hall ["$\x7ba\x7d@\x7bb\x7d=$\x7bTrue\x7d", "*rest=$\x7bNone\x7d"]).trans ?_
  rw [List.map_cons, List.map_cons, List.map_nil, hsecond]
  exact congrArg (fun form => Except.ok [Value.text (String.ofList form), .text "*rest"]) hfirst

end Argument

end KeywordCatalog
