import KeywordCatalog.Proofs.Completion.Keywords
import KeywordCatalog.Proofs.Pattern.Line

/-!
# Inserted text

A keyword is inserted with a backslash before each dollar sign from the first opening of an embedded
argument to the last closing brace after it (`IsEscaped`, `isEscaped_escapeLine`). No opening that a
closing brace follows is then without a backslash (`IsEscaped.exists_backslash`), and the keyword can
be told from the escaped one (`IsEscaped.eq`).

In the form with many lines each argument is on a line of its own. The lines are joined by a break
after each of them, of which the last one is taken away again (`insertion_many`), so going through the
lines gives the keyword and the arguments back (`ofKeyword_formats`).
-/

namespace KeywordCatalog.Text

variable {mark : Char} {text inner after : List Char}

theorem beforeLast_eq_none : beforeLast mark text = none ↔ mark ∉ text := by
  induction text with
  | nil => simp [beforeLast]
  | cons c text ih =>
    rw [beforeLast, List.mem_cons, not_or, ← ih]
    cases beforeLast mark text with
    | some head => simp
    | none => by_cases hc : c = mark <;> simp [hc, Ne.symm]

theorem beforeLast_eq_some : beforeLast mark text = some inner ↔
    ∃ after, text = inner ++ mark :: after ∧ mark ∉ after := by
  constructor
  · intro h
    induction text generalizing inner with
    | nil => cases h
    | cons c text ih =>
      rw [beforeLast] at h
      cases hrest : beforeLast mark text with
      | some head =>
        rw [hrest] at h
        cases h
        obtain ⟨after, rfl, hafter⟩ := ih hrest
        exact ⟨after, rfl, hafter⟩
      | none =>
        obtain ⟨rfl, rfl⟩ : c = mark ∧ [] = inner := by simpa [hrest] using h
        exact ⟨text, rfl, beforeLast_eq_none.1 hrest⟩
  · rintro ⟨after, rfl, hafter⟩
    induction inner with
    | nil => simp [beforeLast, beforeLast_eq_none.2 hafter]
    | cons c inner ih => rw [List.cons_append, beforeLast, ih]

/-- What stands before the last mark is told by the text. -/
theorem eq_of_append_mark {inner' after' : List Char}
    (h : inner ++ mark :: after = inner' ++ mark :: after') (hafter : mark ∉ after)
    (hafter' : mark ∉ after') : inner = inner' := by
  have hsome := beforeLast_eq_some.2 ⟨after', h, hafter'⟩
  rw [beforeLast_eq_some.2 ⟨after, rfl, hafter⟩] at hsome
  exact Option.some.inj hsome

end KeywordCatalog.Text

namespace KeywordCatalog.Completion

open Text

variable {keyword escaped before inner after text other : List Char}

/-! ### Escaped dollar signs -/

theorem escapeDollars_cons (c : Char) (text : List Char) :
    escapeDollars (c :: text) = if c = '$' then '\\' :: '$' :: escapeDollars text
      else c :: escapeDollars text := by
  by_cases hc : c = '$' <;> simp [escapeDollars, hc]

/-- Every dollar sign has a backslash before it. -/
theorem exists_backslash_of_escapeDollars (h : escapeDollars text = before ++ '$' :: after) :
    ∃ front, before = front ++ ['\\'] := by
  induction text generalizing before with
  | nil => simp [escapeDollars] at h
  | cons c text ih =>
    rw [escapeDollars_cons] at h
    split at h
    · match before, h with
      | [d], h =>
        obtain ⟨rfl, -⟩ := List.cons.inj h
        exact ⟨[], rfl⟩
      | d :: e :: before, h =>
        obtain ⟨front, rfl⟩ := ih (List.cons.inj (List.cons.inj h).2).2
        exact ⟨d :: e :: front, rfl⟩
    · rename_i hc
      cases before with
      | nil => exact absurd (List.cons.inj h).1 hc
      | cons d before =>
        obtain ⟨front, rfl⟩ := ih (List.cons.inj h).2
        exact ⟨d :: front, rfl⟩

theorem mem_of_mem_escapeDollars {c : Char} (hc : c ≠ '\\') (h : c ∈ escapeDollars text) :
    c ∈ text := by
  induction text with
  | nil => exact h
  | cons d text ih =>
    rw [escapeDollars_cons] at h
    split at h <;> grind

/-- A text without the backslashes right before its dollar signs. -/
def unescapeDollars : List Char → List Char
  | '\\' :: '$' :: rest => '$' :: unescapeDollars rest
  | c :: rest => c :: unescapeDollars rest
  | [] => []

theorem unescapeDollars_escapeDollars (text : List Char) :
    unescapeDollars (escapeDollars text) = text := by
  induction text with
  | nil => rfl
  | cons c text ih =>
    rw [escapeDollars_cons]
    split
    · rename_i hc
      rw [unescapeDollars, ih, hc]
    · rw [unescapeDollars.eq_2 c _ fun rest _ hrest => ?_, ih]
      -- no escaped text starts with a dollar sign
      obtain ⟨front, hfront⟩ := @exists_backslash_of_escapeDollars [] _ _ hrest
      simp at hfront

/-! ### Escaped keywords -/

/-- A keyword cut at the first opening of an embedded argument and at the last closing brace after
it. -/
structure IsCut (keyword before inner after : List Char) : Prop where
  parts : keyword = before ++ '$' :: '\x7b' :: (inner ++ '\x7d' :: after)
  first : ∀ earlier later, keyword = earlier ++ '$' :: '\x7b' :: later →
    before.length ≤ earlier.length
  last : '\x7d' ∉ after

/-- A cut keyword with its dollar signs between the cuts escaped. -/
def escapedCut (before inner after : List Char) : List Char :=
  before ++ (escapeDollars ('$' :: '\x7b' :: inner) ++ '\x7d' :: after)

/-- Whether a text is a keyword with a backslash before each dollar sign from the first opening of an
embedded argument to the last closing brace after it, or the keyword itself if it has no two such
places. -/
def IsEscaped (keyword escaped : List Char) : Prop :=
  (∃ before inner after, IsCut keyword before inner after ∧ escaped = escapedCut before inner after) ∨
    (∀ earlier later, keyword = earlier ++ '$' :: '\x7b' :: later → '\x7d' ∉ later) ∧
      escaped = keyword

theorem IsCut.cons {c : Char} (h : IsCut keyword before inner after)
    (hc : ∀ rest, c :: keyword ≠ '$' :: '\x7b' :: rest) :
    IsCut (c :: keyword) (c :: before) inner after := by
  refine ⟨congrArg (c :: ·) h.parts, fun earlier later hlater => ?_, h.last⟩
  cases earlier with
  | nil => exact absurd hlater (hc later)
  | cons d earlier =>
    have := h.first earlier later (List.cons.inj hlater).2
    simpa using this

/-- **The keyword is escaped line by line as it should be.** -/
theorem isEscaped_escapeLine (keyword : List Char) : IsEscaped keyword (escapeLine keyword) := by
  induction keyword with
  | nil => exact Or.inr ⟨by simp, rfl⟩
  | cons c keyword ih =>
    by_cases hopening : ∃ rest, c :: keyword = '$' :: '\x7b' :: rest
    · obtain ⟨rest, hrest⟩ := hopening
      rw [hrest]
      cases hlast : beforeLast '\x7d' rest with
      | some inner =>
        obtain ⟨after, rfl, hafter⟩ := beforeLast_eq_some.1 hlast
        refine Or.inl ⟨[], inner, after, ⟨rfl, fun _ _ _ => Nat.zero_le _, hafter⟩, ?_⟩
        rw [escapeLine, hlast]
        simp [escapedCut]
      | none =>
        have hnone := beforeLast_eq_none.1 hlast
        refine Or.inr ⟨fun earlier later hlater => ?_, by rw [escapeLine, hlast]⟩
        have hsuffix : later <:+ '$' :: '\x7b' :: rest := ⟨earlier ++ ['$', '\x7b'], by simp [hlater]⟩
        intro hbrace
        simpa [hnone] using hsuffix.subset hbrace
    · have hopening : ∀ rest, c :: keyword ≠ '$' :: '\x7b' :: rest := not_exists.1 hopening
      have hline : escapeLine (c :: keyword) = c :: escapeLine keyword := by
        refine escapeLine.eq_3 c keyword fun rest hc hrest => hopening rest ?_
        rw [hc, hrest]
      rw [hline]
      rcases ih with ⟨before, inner, after, hcut, hescaped⟩ | ⟨hnone, hescaped⟩
      · exact Or.inl ⟨c :: before, inner, after, hcut.cons hopening, congrArg (c :: ·) hescaped⟩
      · refine Or.inr ⟨fun earlier later hlater => ?_, congrArg (c :: ·) hescaped⟩
        cases earlier with
        | nil => exact absurd hlater (hopening later)
        | cons d earlier => exact hnone earlier later (List.cons.inj hlater).2

/-- In the escaped text there is no opening up to the backslash of the first one. -/
theorem IsCut.length_lt (h : IsCut keyword before inner after) {earlier later : List Char}
    (hlater : escapedCut before inner after = earlier ++ '$' :: '\x7b' :: later) :
    before.length < earlier.length := by
  rw [escapedCut, escapeDollars_cons, if_pos rfl, List.append_eq_append_iff] at hlater
  rcases hlater with ⟨middle, rfl, hmiddle⟩ | ⟨middle, rfl, hmiddle⟩
  · cases middle with
    | nil => cases hmiddle
    | cons c middle => simp
  · rcases middle with _ | ⟨c, _ | ⟨d, middle⟩⟩
    · cases hmiddle
    · cases hmiddle
    · -- the opening would stand before the first one of the keyword
      simp only [List.cons_append, List.cons.injEq] at hmiddle
      obtain ⟨rfl, rfl, -⟩ := hmiddle
      have hfirst := h.first earlier _ (by rw [h.parts, List.append_assoc]; rfl)
      rw [List.length_append, List.length_cons] at hfirst
      omega

theorem IsEscaped.exists_backslash (h : IsEscaped keyword escaped)
    (hopening : escaped = before ++ '$' :: '\x7b' :: after) (hclosing : '\x7d' ∈ after) :
    ∃ front, before = front ++ ['\\'] := by
  rcases h with ⟨start, inner, rest, hcut, rfl⟩ | ⟨hnone, rfl⟩
  · have hlt := hcut.length_lt hopening
    rw [escapedCut, List.append_eq_append_iff] at hopening
    rcases hopening with ⟨middle, rfl, hmiddle⟩ | ⟨middle, rfl, -⟩
    · rcases List.append_eq_append_iff.1 hmiddle with ⟨tail, rfl, htail⟩ | ⟨tail, htail, hrest⟩
      · -- no closing brace follows the last one
        cases tail with
        | nil => cases htail
        | cons c tail =>
          obtain ⟨-, htail⟩ := List.cons.inj htail
          exact absurd (by rw [htail]; simp [hclosing]) hcut.last
      · cases tail with
        | nil => cases hrest
        | cons c tail =>
          obtain ⟨rfl, -⟩ := List.cons.inj hrest
          obtain ⟨front, rfl⟩ := exists_backslash_of_escapeDollars htail
          exact ⟨start ++ front, by simp⟩
    · simp only [List.length_append] at hlt
      omega
  · exact absurd hclosing (hnone before after hopening)

/-- No two keywords are escaped to the same text. -/
theorem IsEscaped.eq (h : IsEscaped keyword escaped) (h' : IsEscaped other escaped) :
    keyword = other := by
  have hopening (before inner after : List Char) : escapedCut before inner after =
      before ++ ['\\'] ++ '$' :: '\x7b' :: (escapeDollars inner ++ '\x7d' :: after) := by
    simp [escapedCut, escapeDollars_cons]
  rcases h with ⟨before, inner, after, hcut, rfl⟩ | ⟨hnone, rfl⟩ <;>
    rcases h' with ⟨before', inner', after', hcut', heq⟩ | ⟨hnone', heq⟩
  · have hlength : before.length = before'.length := by
      have hle := hcut.length_lt (heq.trans (hopening _ _ _))
      have hle' := hcut'.length_lt (heq.symm.trans (hopening _ _ _))
      simp only [List.length_append, List.length_singleton] at hle hle'
      omega
    obtain ⟨rfl, hrest⟩ := List.append_inj heq hlength
    have hsame : escapeDollars ('$' :: '\x7b' :: inner) = escapeDollars ('$' :: '\x7b' :: inner') :=
      eq_of_append_mark hrest hcut.last hcut'.last
    rw [hsame] at hrest
    obtain ⟨rfl, rfl⟩ : inner = inner' ∧ after = after' := by
      have hinner := congrArg unescapeDollars hsame
      simp only [unescapeDollars_escapeDollars] at hinner
      simpa using And.intro hinner (List.append_cancel_left hrest)
    rw [hcut.parts, hcut'.parts]
  · exact absurd (by simp) (hnone' _ _ (heq.symm.trans (hopening _ _ _)))
  · exact absurd (by simp) (hnone _ _ (heq.trans (hopening _ _ _)))
  · exact heq

theorem IsEscaped.mem {c : Char} (h : IsEscaped keyword escaped) (hc : c ≠ '\\')
    (hmem : c ∈ escaped) : c ∈ keyword := by
  rcases h with ⟨before, inner, after, hcut, rfl⟩ | ⟨-, rfl⟩
  · have hinner := @mem_of_mem_escapeDollars ('$' :: '\x7b' :: inner) c hc
    simp only [escapedCut, List.mem_append, List.mem_cons] at hmem hinner
    simp only [hcut.parts, List.mem_append, List.mem_cons]
    grind
  · exact hmem

/-! ### Formats -/

/-- The line of an argument. -/
def argumentLine (cell a : String) : List Char := (continuation ++ cell ++ a).toList

theorem dropTrailing_eq_self (h : text.getLast? ≠ some '\n') :
    dropTrailing (· == '\n') text = text := by
  rcases List.eq_nil_or_concat text with rfl | ⟨front, c, rfl⟩
  · rfl
  · have hc : c ≠ '\n' := by simpa using h
    simp [dropTrailing, hc]

/-- The break that ends the last line is taken away, and no other one. -/
theorem insertion_many {r : TextRecord} {cell : String}
    (hkeyword : '\n' ∉ escapeArguments r.keyword.toList)
    (harguments : ∀ a ∈ r.arguments, '\n' ∉ argumentLine cell a) :
    (r.insertion cell false).toList = escapeArguments r.keyword.toList ++
      r.arguments.flatMap fun a => '\n' :: argumentLine cell a := by
  have hshift (arguments : List String) :
      '\n' :: arguments.flatMap (fun a => (continuation ++ cell ++ a ++ "\n").toList) =
        (arguments.flatMap fun a => '\n' :: argumentLine cell a) ++ ['\n'] := by
    induction arguments with
    | nil => rfl
    | cons a arguments ih =>
      simp only [List.flatMap_cons, List.append_assoc, ← ih]
      simp [argumentLine]
  rw [TextRecord.insertion, if_neg Bool.false_ne_true, String.toList_ofList]
  rcases List.eq_nil_or_concat r.arguments with hnil | ⟨init, last, hlast⟩
  · rw [hnil]
    simpa using dropTrailing_eq_self fun hbreak => hkeyword (List.mem_of_getLast? hbreak)
  · have hsome : r.arguments.isEmpty = false := by simp [hlast]
    have hbroken : '\n' ∉ argumentLine cell last := harguments last (by simp [hlast])
    have hne : argumentLine cell last ≠ [] := by simp [argumentLine, continuation]
    rw [hsome, if_neg Bool.false_ne_true, List.append_assoc, List.singleton_append, hshift,
      ← List.append_assoc, dropTrailing, List.reverse_append]
    refine dropTrailing_eq_self fun hbreak => hbroken (List.mem_of_getLast? ?_)
    have hsplit : escapeArguments r.keyword.toList ++
        (r.arguments.flatMap fun a => '\n' :: argumentLine cell a) =
        escapeArguments r.keyword.toList ++ (init.flatMap fun a => '\n' :: argumentLine cell a) ++
          ['\n'] ++ argumentLine cell last := by
      simp [hlast]
    rwa [hsplit, List.getLast?_append_of_ne_nil _ hne] at hbreak

/-- **A keyword is inserted with its embedded arguments escaped, in one line with a separator before
each argument, or with a line for each argument, from which keyword and arguments can be read
back.** -/
theorem ofKeyword_formats {keyword cell : String} {arguments : List String}
    (hkeyword : '\n' ∉ keyword.toList) (hcell : '\n' ∉ cell.toList)
    (harguments : ∀ a ∈ arguments, '\n' ∉ a.toList) (source : String) :
    ∃ (escaped : List Char) (single many : String), IsEscaped keyword.toList escaped ∧
      Item.ofKeyword keyword (.texts arguments) (.text cell) (.text source) true =
        .ok ⟨keyword ++ "\t" ++ source, single⟩ ∧
      single.toList = escaped ++ arguments.flatMap (fun a => cell.toList ++ a.toList) ∧
      Item.ofKeyword keyword (.texts arguments) (.text cell) (.text source) false =
        .ok ⟨keyword ++ "\t" ++ source, many⟩ ∧
      many.toList = escaped ++
        arguments.flatMap (fun a => '\n' :: ("...".toList ++ cell.toList ++ a.toList)) ∧
      lines many.toList =
        escaped :: arguments.map (fun a => "...".toList ++ cell.toList ++ a.toList) ∧
      (∀ other, IsEscaped other escaped → other = keyword.toList) ∧
      ∀ before after, escaped = before ++ '$' :: '\x7b' :: after → '\x7d' ∈ after →
        before.getLast? = some '\\' := by
  let r : TextRecord := ⟨keyword, arguments, "", none⟩
  have hescaped : IsEscaped keyword.toList (escapeLine keyword.toList) := isEscaped_escapeLine _
  have hline : escapeArguments keyword.toList = escapeLine keyword.toList := by
    simp [escapeArguments, lines, List.splitOn_eq_singleton hkeyword]
  have hunbroken : '\n' ∉ escapeArguments keyword.toList := by
    rw [hline]
    exact fun hbreak => hkeyword (hescaped.mem (by decide) hbreak)
  have hargument (a : String) :
      argumentLine cell a = "...".toList ++ cell.toList ++ a.toList := by
    simp [argumentLine, continuation]
  have hlines : ∀ a ∈ arguments, '\n' ∉ "...".toList ++ cell.toList ++ a.toList := fun a ha => by
    simp [hcell, harguments a ha]
  have hmany := insertion_many (r := r) hunbroken fun a ha => hargument a ▸ hlines a ha
  simp only [hargument] at hmany
  refine ⟨escapeArguments keyword.toList, _, _, hline ▸ hescaped, r.ofKeyword_eq source, ?_,
    r.ofKeyword_eq source, hmany, ?_, fun other hother => ?_,
    fun before after hopening hclosing => ?_⟩
  · simp [TextRecord.insertion, r, String.toList_join, List.flatMap_map]
  · have hjoined := intercalate_append_cons ['\n'] [] (escapeArguments keyword.toList)
      (arguments.map fun a => "...".toList ++ cell.toList ++ a.toList)
    rw [List.flatMap_map] at hjoined
    rw [hmany, lines]
    refine (congrArg _ hjoined.symm).trans (List.splitOn_intercalate '\n' ?_ (List.cons_ne_nil _ _))
    rw [List.nil_append, List.forall_mem_cons, List.forall_mem_map]
    exact ⟨hunbroken, hlines⟩
  · exact (hescaped.eq (hline ▸ hother)).symm
  · obtain ⟨front, rfl⟩ := hescaped.exists_backslash (hline ▸ hopening) hclosing
    exact List.getLast?_concat

/-- A keyword with a dollar sign outside its embedded arguments, with an argument inside another one,
and with an empty argument at the end. -/
theorem ofKeyword_formats_payment :
    '\n' ∉ "5$ $\x7ba$\x7bb\x7d\x7d $".toList ∧ (∀ a ∈ ["$\x7b1\x7d", ""], '\n' ∉ a.toList) ∧
    IsEscaped "5$ $\x7ba$\x7bb\x7d\x7d $".toList "5$ \\$\x7ba\\$\x7bb\x7d\x7d $".toList ∧
    Item.ofKeyword "5$ $\x7ba$\x7bb\x7d\x7d $" (.texts ["$\x7b1\x7d", ""]) (.text "  ")
        (.text "Pay") false = .ok ⟨"5$ $\x7ba$\x7bb\x7d\x7d $\tPay",
          "5$ \\$\x7ba\\$\x7bb\x7d\x7d $\n...  $\x7b1\x7d\n...  "⟩ := by
  have hkeyword : '\n' ∉ "5$ $\x7ba$\x7bb\x7d\x7d $".toList := by decide
  have harguments : ∀ a ∈ ["$\x7b1\x7d", ""], '\n' ∉ a.toList := by decide
  have hcell : '\n' ∉ "  ".toList := by decide
  obtain ⟨escaped, single, many, hescaped, -, -, hmany, -, hlines, -⟩ :=
    ofKeyword_formats hkeyword hcell harguments "Pay"
  have hvalue := hmany.symm.trans (TextRecord.ofKeyword_eq ⟨_, _, "", none⟩ "Pay")
  obtain rfl : many = "5$ \\$\x7ba\\$\x7bb\x7d\x7d $\n...  $\x7b1\x7d\n...  " :=
    (Item.mk.inj (Except.ok.inj hvalue)).2.trans rfl
  have hfirst : some "5$ \\$\x7ba\\$\x7bb\x7d\x7d $".toList = some escaped :=
    congrArg List.head? hlines
  exact ⟨hkeyword, harguments, Option.some.inj hfirst ▸ hescaped, hmany⟩

end KeywordCatalog.Completion
