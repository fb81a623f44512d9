import KeywordCatalog.Pattern.Needs
import KeywordCatalog.Proofs.Pattern.Reading
import Mathlib.Data.List.Forall2
import Mathlib.Data.List.Infix

/-!
# Regular trees

A tree is regular if it is made of tests, anchors, rows, choices, groups and repetitions of a single
test that can give back. Whether such a tree matches does not depend on the groups that were marked
before, so it has a language: the texts that it can take between what stands before and after them
(`Node.Takes`).

The matcher tries all the ways that there are (`Node.run_isFound`): a search in a text finds a match
exactly if some part of the text is in the language (`Node.isSome_searchFrom`). If the groups of the
tree are numbered in their order and none is inside another one (`Node.Numbered`), then no match is
tangled (`Node.isTangled_of_matchAt`), and a compiled pattern answers what the language says
(`IsRegular.occursIn_iff`).
-/

namespace KeywordCatalog.Pattern

variable {p q : Place} {m : Marks} {k : Rest} {node a b : Node} {test : Char → Bool}
  {inside : Bool} {before taken rest : List Char}

/-- The place after a text, given the text that is left there. -/
def Place.past (p : Place) (taken rest : List Char) : Place :=
  ⟨p.pos + taken.length, taken.reverse ++ p.before, rest⟩

@[simp] theorem Place.past_nil (p : Place) : p.past [] p.after = p := rfl

theorem Place.past_past (p : Place) (first second rest rest' : List Char) :
    (p.past first rest').past second rest = p.past (first ++ second) rest := by
  simp [Place.past, Nat.add_assoc]

namespace Node

/-- Whether what a tree takes does not depend on groups, and every way to take it is tried. -/
def IsRegular : Node → Prop
  | .empty | .one _ | .anchor _ => True
  | .seq a b | .alt a b => a.IsRegular ∧ b.IsRegular
  | .scope body | .capture _ body => body.IsRegular
  | .span _ _ greed _ => greed ≠ .possessive
  | _ => False

/-- Whether a tree can take a text between what is before it, the nearest character first, and what
is after it. -/
def Takes : Node → List Char → List Char → List Char → Prop
  | .empty, _, taken, _ => taken = []
  | .one test, _, taken, _ => ∃ c, test.accepts c = true ∧ taken = [c]
  | .anchor place, before, taken, rest => taken = [] ∧ place.holds ⟨before.length, before, rest⟩
  | .seq a b, before, taken, rest => ∃ first second, taken = first ++ second ∧
    a.Takes before first (second ++ rest) ∧ b.Takes (first.reverse ++ before) second rest
  | .alt a b, before, taken, rest => a.Takes before taken rest ∨ b.Takes before taken rest
  | .scope body, before, taken, rest | .capture _ body, before, taken, rest =>
    body.Takes before taken rest
  | .span least most _ test, _, taken, _ =>
    least ≤ taken.length ∧ (∀ n ∈ most, taken.length ≤ n) ∧ ∀ c ∈ taken, test.accepts c = true
  | _, _, _, _ => False

end Node

/-! ### Repetitions of a test -/

theorem Place.take_eq_some :
    p.take test = some q ↔ ∃ c rest, test c = true ∧ p.after = c :: rest ∧ q = p.past [c] rest := by
  unfold Place.take
  split
  · rename_i hafter
    simp [hafter]
  · rename_i c rest hafter
    rw [hafter]
    constructor
    · intro h
      split at h
      · rename_i hc
        exact ⟨c, rest, hc, rfl, (Option.some.inj h).symm⟩
      · cases h
    · rintro ⟨c', rest', hc, hcons, rfl⟩
      obtain ⟨rfl, rfl⟩ := List.cons.inj hcons
      rw [if_pos hc]
      rfl

/-- The places after up to `n` characters that pass a test, the nearest first. -/
def Place.reach (test : Char → Bool) : Nat → Place → List Place
  | 0, p => [p]
  | n + 1, p =>
    match p.take test with
    | some q => p :: reach test n q
    | none => [p]

theorem Place.spans_eq_reach (n : Nat) (p : Place) (others : List Place) :
    p.spans test n others = (p.reach test n).reverse ++ others := by
  induction n generalizing p others with
  | zero => rfl
  | succ n ih =>
    rw [Place.spans, Place.reach]
    cases p.take test with
    | none => rfl
    | some q => simp [ih]

theorem Place.mem_drop_reach_succ {n least : Nat} : q ∈ (p.reach test (n + 1)).drop least ↔
    (least = 0 ∧ q = p) ∨ ∃ r, p.take test = some r ∧ q ∈ (r.reach test n).drop (least - 1) := by
  rw [Place.reach]
  cases p.take test <;> cases least <;> simp

theorem Place.mem_drop_reach {n least : Nat} : q ∈ (p.reach test n).drop least ↔
    ∃ taken rest, p.after = taken ++ rest ∧ q = p.past taken rest ∧ least ≤ taken.length ∧
      taken.length ≤ n ∧ ∀ c ∈ taken, test c = true := by
  induction n generalizing p least with
  | zero =>
    rw [Place.reach]
    constructor
    · intro h
      cases least with
      | zero => exact ⟨[], p.after, rfl, by simpa using h, by simp, by simp, by simp⟩
      | succ least => simp at h
    · rintro ⟨taken, rest, hafter, rfl, hleast, hn, -⟩
      obtain rfl : taken = [] := List.length_eq_zero_iff.1 (by omega)
      obtain rfl : least = 0 := by simpa using hleast
      obtain rfl : rest = p.after := by simpa using hafter.symm
      simp
  | succ n ih =>
    rw [Place.mem_drop_reach_succ]
    constructor
    · rintro (⟨rfl, rfl⟩ | ⟨r, hr, hq⟩)
      · exact ⟨[], q.after, rfl, rfl, by simp, by simp, by simp⟩
      · obtain ⟨c, rest', hc, hafter, rfl⟩ := Place.take_eq_some.1 hr
        obtain ⟨taken, rest, hafter', rfl, hleast, hn, htest⟩ := ih.1 hq
        obtain rfl : rest' = taken ++ rest := hafter'
        refine ⟨c :: taken, rest, by simp [hafter], ?_, ?_, ?_, ?_⟩
        · rw [Place.past_past, List.singleton_append]
        · simpa using Nat.sub_le_iff_le_add.1 hleast
        · simpa using hn
        · simpa [hc] using htest
    · rintro ⟨taken, rest, hafter, rfl, hleast, hn, htest⟩
      cases taken with
      | nil =>
        refine Or.inl ⟨by simpa using hleast, ?_⟩
        rw [← show p.after = rest from hafter, Place.past_nil]
      | cons c taken =>
        obtain ⟨hc, htest⟩ := List.forall_mem_cons.1 htest
        refine Or.inr ⟨p.past [c] (taken ++ rest), Place.take_eq_some.2 ⟨c, _, hc, hafter, rfl⟩, ?_⟩
        refine ih.2 ⟨taken, rest, rfl, ?_, ?_, ?_, htest⟩
        · rw [Place.past_past, List.singleton_append]
        · exact Nat.sub_le_iff_le_add.2 (by simpa using hleast)
        · simpa using hn

/-- The places that a repetition of a test can lead to. -/
theorem mem_take_spans (least : Nat) (most : Option Nat) {all : List Place}
    (h : all = p.spans test (most.getD p.after.length) []) :
    q ∈ (if least == 0 then all else all.take (all.length - least)) ↔
      ∃ taken rest, p.after = taken ++ rest ∧ q = p.past taken rest ∧ least ≤ taken.length ∧
        (∀ n ∈ most, taken.length ≤ n) ∧ ∀ c ∈ taken, test c = true := by
  have hall : (if least == 0 then all else all.take (all.length - least)) =
      ((p.reach test (most.getD p.after.length)).drop least).reverse := by
    rw [List.reverse_drop, h, Place.spans_eq_reach, List.append_nil, List.length_reverse]
    split
    · rename_i hleast
      rw [show least = 0 by simpa using hleast]
      simp
    · rfl
  have hmost {taken rest : List Char} (hafter : p.after = taken ++ rest) :
      taken.length ≤ most.getD p.after.length ↔ ∀ n ∈ most, taken.length ≤ n := by
    cases most <;> simp [hafter]
  rw [hall, List.mem_reverse, Place.mem_drop_reach]
  refine exists_congr fun taken => exists_congr fun rest => and_congr_right fun hafter => ?_
  rw [hmost hafter]

/-! ### The matcher tries all ways -/

/-- Whether something was found. -/
def Outcome.isFound : Outcome → Bool
  | .found .. => true
  | .failed _ => false

theorem Outcome.isFound_orElse {first : Outcome} {saved : Marks} {next : Marks → Outcome} {P : Prop}
    (hnext : ∀ left, (next left).isFound = true ↔ P) :
    (first.orElse inside saved next).isFound = true ↔ first.isFound = true ∨ P := by
  cases first with
  | found => simp [Outcome.orElse, Outcome.isFound]
  | failed left =>
    rw [Outcome.orElse, hnext]
    simp [Outcome.isFound]

theorem isFound_firstOf {P : Place → Prop} {saved : Marks} {places : List Place}
    (hk : ∀ q m, (k q m).isFound = true ↔ P q) :
    (firstOf inside saved k places m).isFound = true ↔ ∃ q ∈ places, P q := by
  induction places generalizing m with
  | nil => simp [firstOf, Outcome.isFound]
  | cons p places ih =>
    rw [firstOf, Outcome.isFound_orElse fun _ => ih, hk]
    simp

theorem isFound_spanRounds {P : Place → Prop} {least : Nat} {most : Option Nat} {greed : Greed}
    (hgreed : greed ≠ .possessive) (hk : ∀ q m, (k q m).isFound = true ↔ P q) :
    (spanRounds inside test least most greed p m k).isFound = true ↔
      ∃ taken rest, p.after = taken ++ rest ∧
        (least ≤ taken.length ∧ (∀ n ∈ most, taken.length ≤ n) ∧ ∀ c ∈ taken, test c = true) ∧
        P (p.past taken rest) := by
  have hmem (q : Place) := mem_take_spans (p := p) (q := q) least most
    (rfl : p.spans test (most.getD p.after.length) [] = _)
  unfold spanRounds
  dsimp only
  generalize (if least == 0 then _ else _) = places at hmem ⊢
  have hplaces : (∃ q ∈ places, P q) ↔ ∃ taken rest, p.after = taken ++ rest ∧
      (least ≤ taken.length ∧ (∀ n ∈ most, taken.length ≤ n) ∧ ∀ c ∈ taken, test c = true) ∧
      P (p.past taken rest) := by
    constructor
    · rintro ⟨q, hq, hP⟩
      obtain ⟨taken, rest, hafter, rfl, hfits⟩ := (hmem q).1 hq
      exact ⟨taken, rest, hafter, hfits, hP⟩
    · rintro ⟨taken, rest, hafter, hfits, hP⟩
      exact ⟨_, (hmem _).2 ⟨taken, rest, hafter, rfl, hfits⟩, hP⟩
  rw [← hplaces]
  cases places with
  | nil => simp [Outcome.isFound]
  | cons furthest nearer =>
    cases greed with
    | greedy => exact isFound_firstOf hk
    | lazy =>
      dsimp only
      rw [isFound_firstOf hk]
      simp only [List.mem_reverse]
    | possessive => exact absurd rfl hgreed

theorem Node.isFound_one {P : Place → Prop} {test : CharTest}
    (hk : ∀ q m, (k q m).isFound = true ↔ P q) :
    ((Node.one test).run inside p m k).isFound = true ↔
      ∃ taken rest, p.after = taken ++ rest ∧ (Node.one test).Takes p.before taken rest ∧
        P (p.past taken rest) := by
  rw [Node.run]
  constructor
  · intro hfound
    split at hfound
    · rename_i q hq
      obtain ⟨c, rest, hc, hafter, rfl⟩ := Place.take_eq_some.1 hq
      exact ⟨[c], rest, hafter, ⟨c, hc, rfl⟩, (hk _ _).1 hfound⟩
    · cases hfound
  · rintro ⟨taken, rest, hafter, ⟨c, hc, rfl⟩, hp⟩
    rw [Place.take_eq_some.2 ⟨c, rest, hc, hafter, rfl⟩]
    exact (hk _ _).2 hp

theorem Node.isFound_anchor {P : Place → Prop} {place : Anchor}
    (hk : ∀ q m, (k q m).isFound = true ↔ P q) :
    ((Node.anchor place).run inside p m k).isFound = true ↔
      ∃ taken rest, p.after = taken ++ rest ∧ (Node.anchor place).Takes p.before taken rest ∧
        P (p.past taken rest) := by
  have hholds : place.holds p = place.holds ⟨p.before.length, p.before, p.after⟩ := by
    cases place <;> rfl
  rw [Node.run]
  constructor
  · intro hfound
    split at hfound
    · rename_i hp
      exact ⟨[], p.after, rfl, ⟨rfl, hholds ▸ hp⟩, (hk _ _).1 hfound⟩
    · cases hfound
  · rintro ⟨taken, rest, hafter, ⟨rfl, hp⟩, hP⟩
    rw [List.nil_append] at hafter
    rw [← hafter, ← hholds] at hp
    rw [← hafter, Place.past_nil] at hP
    rw [if_pos hp]
    exact (hk _ _).2 hP

/-- A regular tree matches exactly if it can take a text after which the rest matches. -/
theorem Node.run_isFound {P : Place → Prop} (h : node.IsRegular)
    (hk : ∀ q m, (k q m).isFound = true ↔ P q) :
    (node.run inside p m k).isFound = true ↔
      ∃ taken rest, p.after = taken ++ rest ∧ node.Takes p.before taken rest ∧
        P (p.past taken rest) := by
  -- the rest after a part of the tree is again a rest of which the places are known
  induction node generalizing inside p m k P with
  | empty =>
    rw [Node.run, hk]
    constructor
    · intro hp
      exact ⟨[], p.after, rfl, rfl, hp⟩
    · rintro ⟨taken, rest, hafter, rfl, hp⟩
      rw [List.nil_append] at hafter
      rwa [← hafter, Place.past_nil] at hp
  | one test => exact Node.isFound_one hk
  | anchor place => exact Node.isFound_anchor hk
  | seq a b iha ihb =>
    have hb (q : Place) (m' : Marks) : (b.run inside q m' k).isFound = true ↔ _ := ihb h.2 hk
    rw [Node.run, iha h.1 hb]
    constructor
    · rintro ⟨first, rest', hafter, ha, second, rest, hafter', hb, hp⟩
      obtain rfl : rest' = second ++ rest := hafter'
      refine ⟨first ++ second, rest, by rw [hafter, List.append_assoc], ?_, ?_⟩
      · exact ⟨first, second, rfl, ha, hb⟩
      · rwa [Place.past_past] at hp
    · rintro ⟨taken, rest, hafter, ⟨first, second, rfl, ha, hb⟩, hp⟩
      refine ⟨first, second ++ rest, by rw [hafter, List.append_assoc], ha, second, rest, rfl, hb, ?_⟩
      rwa [Place.past_past]
  | alt a b iha ihb =>
    have hlast (left : Marks) : (Outcome.failed left).isFound = true ↔ False := by
      simp [Outcome.isFound]
    have hb (left : Marks) : ((b.run inside p left k).orElse inside m .failed).isFound = true ↔ _ :=
      (Outcome.isFound_orElse hlast).trans ((iff_of_eq (or_false _)).trans (ihb h.2 hk))
    rw [Node.run, Outcome.isFound_orElse hb, iha h.1 hk]
    simp only [Node.Takes, or_and_right, and_or_left, exists_or]
  | scope body ih => exact ih h hk
  | capture number body ih => exact ih h fun q m' => hk q _
  | span least most greed test => exact isFound_spanRounds h hk
  | again => cases h
  | repeated => cases h
  | atomic => cases h
  | ahead => cases h
  | behind => cases h
  | given => cases h

theorem Node.isSome_matchAt (h : node.IsRegular) : (node.matchAt p).isSome = true ↔
    ∃ taken rest, p.after = taken ++ rest ∧ node.Takes p.before taken rest := by
  have hall (q : Place) (m : Marks) : (Outcome.found q m).isFound = true ↔ True := by
    simp [Outcome.isFound]
  have hfound : (node.run false p [] .found).isFound = true ↔ _ := Node.run_isFound h hall
  simp only [and_true] at hfound
  rw [← hfound, Node.matchAt]
  cases node.run false p [] .found <;> simp [Outcome.isFound]

/-- A search that may start anywhere finds a match exactly if a part of the text can be taken. -/
theorem Node.isSome_searchFrom {mayStart : List Char → Bool} (h : node.IsRegular)
    (hstart : ∀ text, mayStart text = true) {pos : Nat} {text : List Char} :
    (node.searchFrom mayStart pos before text).isSome = true ↔
      ∃ skipped taken rest, text = skipped ++ taken ++ rest ∧
        node.Takes (skipped.reverse ++ before) taken rest := by
  induction text generalizing pos before with
  | nil =>
    rw [Node.searchFrom, if_pos (hstart []), Node.isSome_matchAt h]
    constructor
    · rintro ⟨taken, rest, htext, htakes⟩
      exact ⟨[], taken, rest, htext, htakes⟩
    · rintro ⟨skipped, taken, rest, htext, htakes⟩
      obtain ⟨rfl, rfl, rfl⟩ : skipped = [] ∧ taken = [] ∧ rest = [] := by simpa using htext.symm
      exact ⟨[], [], rfl, htakes⟩
  | cons x text ih =>
    have hcases : (node.searchFrom mayStart pos before (x :: text)).isSome = true ↔
        (node.matchAt ⟨pos, before, x :: text⟩).isSome = true ∨
          (node.searchFrom mayStart (pos + 1) (x :: before) text).isSome = true := by
      rw [Node.searchFrom, if_pos (hstart _)]
      cases node.matchAt ⟨pos, before, x :: text⟩ <;> simp
    rw [hcases, ih, Node.isSome_matchAt h]
    constructor
    · rintro (⟨taken, rest, htext, htakes⟩ | ⟨skipped, taken, rest, rfl, htakes⟩)
      · exact ⟨[], taken, rest, htext, htakes⟩
      · exact ⟨x :: skipped, taken, rest, rfl, by simpa using htakes⟩
    · rintro ⟨skipped, taken, rest, htext, htakes⟩
      cases skipped with
      | nil => exact Or.inl ⟨taken, rest, htext, htakes⟩
      | cons y skipped =>
        obtain ⟨rfl, rfl⟩ : x = y ∧ text = skipped ++ taken ++ rest := by simpa using htext
        exact Or.inr ⟨skipped, taken, rest, rfl, by simpa using htakes⟩

/-- A tree takes at least as many characters as its width says. -/
theorem Node.Takes.width_le (groups : Nat → Nat × Nat) (h : node.Takes before taken rest) :
    (node.width groups).1 ≤ taken.length := by
  induction node generalizing before taken rest with
  | empty => simp [Node.width]
  | one test =>
    obtain ⟨c, -, rfl⟩ := h
    simp [Node.width]
  | anchor place => simp [Node.width]
  | seq a b iha ihb =>
    obtain ⟨first, second, rfl, ha, hb⟩ := h
    have := iha ha
    have := ihb hb
    simp only [Node.width, List.length_append]
    omega
  | alt a b iha ihb =>
    simp only [Node.width]
    rcases h with h | h
    · exact (Nat.min_le_left _ _).trans (iha h)
    · exact (Nat.min_le_right _ _).trans (ihb h)
  | scope body ih => exact ih h
  | capture number body ih => exact ih h
  | span least most greed test =>
    simp only [Node.width, roundsWidth, Nat.one_mul]
    exact (Nat.min_le_left _ _).trans h.1
  | again => cases h
  | repeated => cases h
  | atomic => cases h
  | ahead => cases h
  | behind => cases h
  | given => cases h

/-! ### Marks that are in order -/

namespace Marks

variable {entry number : Nat} {saved left : Marks}

theorem length_put : (m.put entry p).length = max m.length (entry + 1) := by
  fun_induction put entry p m <;> grind

theorem prefix_put (h : m.length ≤ entry) : m <+: m.put entry p := by
  fun_induction put entry p m <;> simp_all

theorem place?_put {other : Nat} :
    (m.put entry p).place? other = if other = entry then some p else m.place? other := by
  unfold place?
  fun_induction put entry p m generalizing other <;> cases other <;> simp_all

theorem place?_eq_none (h : m.length ≤ entry) : m.place? entry = none := by
  simp [place?, List.getElem?_eq_none h]

/-- Marks that were only added to are put back as they were. -/
theorem back_of_prefix (h : saved <+: left) : back inside saved left = saved := by
  obtain ⟨added, rfl⟩ := h
  cases inside <;> simp [back]

/-- Whether no group is marked to end before it starts. -/
def InOrder (m : Marks) : Prop :=
  ∀ ⦃number start stop⦄, m.ends? number = some (start, stop) → start.pos ≤ stop.pos

theorem ends?_eq_some {start stop : Place} : m.ends? number = some (start, stop) ↔
    m.place? (startEntry number) = some start ∧ m.place? (endEntry number) = some stop := by
  unfold ends?
  cases m.place? (startEntry number) <;> cases m.place? (endEntry number) <;> simp

theorem inOrder_nil : InOrder [] := by
  intro number start stop h
  simp [ends?, place?] at h

/-- A group that is marked to end after its start puts nothing out of order. -/
theorem InOrder.group (h : m.InOrder) {m' : Marks} (hnumber : 0 < number)
    (hstart : m'.place? (startEntry number) = some p)
    (hstop : ∀ stop, m'.place? (endEntry number) = some stop → p.pos ≤ stop.pos)
    (hother : ∀ entry, entry ≠ startEntry number → entry ≠ endEntry number →
      m'.place? entry = m.place? entry) : m'.InOrder := by
  intro other start stop hends
  obtain ⟨hs, ht⟩ := ends?_eq_some.1 hends
  by_cases hsame : other = number
  · subst hsame
    rw [hstart] at hs
    cases hs
    exact hstop stop ht
  by_cases hzero : other = 0
  · subst hzero
    exact (Option.some.inj (hs.symm.trans ht) ▸ Nat.le_refl _)
  · have hentries : ∀ entry, entry = startEntry other ∨ entry = endEntry other →
        entry ≠ startEntry number ∧ entry ≠ endEntry number := by
      intro entry hentry
      simp only [startEntry, endEntry] at hentry ⊢
      omega
    rw [hother _ (hentries _ (Or.inl rfl)).1 (hentries _ (Or.inl rfl)).2] at hs
    rw [hother _ (hentries _ (Or.inr rfl)).1 (hentries _ (Or.inr rfl)).2] at ht
    exact h (ends?_eq_some.2 ⟨hs, ht⟩)

theorem length_openGroup (hnumber : 0 < number) (hlength : m.length ≤ startEntry number) :
    (m.openGroup number p).length = endEntry number := by
  rw [openGroup, length_put]
  simp only [startEntry, endEntry] at hlength ⊢
  omega

theorem InOrder.openGroup (h : m.InOrder) (hnumber : 0 < number)
    (hlength : m.length ≤ startEntry number) : (m.openGroup number p).InOrder := by
  refine h.group hnumber (p := p) (by simp [Marks.openGroup, place?_put]) (fun stop hstop => ?_)
    (fun entry hentry _ => by simp [Marks.openGroup, place?_put, hentry])
  rw [place?_eq_none (length_openGroup hnumber hlength).le] at hstop
  cases hstop

theorem InOrder.closeGroup (h : m.InOrder) (hnumber : 0 < number) (hpos : p.pos ≤ q.pos) :
    ((m.openGroup number p).closeGroup number q).InOrder := by
  have hne : startEntry number ≠ endEntry number := by
    simp only [startEntry, endEntry]
    omega
  refine h.group hnumber (p := p) (by simp [Marks.openGroup, Marks.closeGroup, place?_put, hne])
    (fun stop hstop => ?_)
    (fun entry hstart hend => by simp [Marks.openGroup, Marks.closeGroup, place?_put, hstart, hend])
  rw [Marks.closeGroup, place?_put, if_pos rfl] at hstop
  exact Option.some.inj hstop ▸ hpos

end Marks

/-- Whether the groups of a tree have their marks at entries from `lo` on and before `hi`, in their
order, and none is inside another one. -/
def Node.Numbered : Node → Nat → Nat → Prop
  | .seq a b, lo, hi => ∃ mid, a.Numbered lo mid ∧ b.Numbered mid hi
  | .alt a b, lo, hi => a.Numbered lo hi ∧ b.Numbered lo hi
  | .scope body, lo, hi => body.Numbered lo hi
  | .capture number body, lo, hi => 0 < number ∧ lo ≤ Marks.startEntry number ∧
    body.Numbered (Marks.endEntry number) (Marks.endEntry number) ∧ Marks.endEntry number < hi
  | _, lo, hi => lo ≤ hi

theorem Node.Numbered.mono {lo hi hi' : Nat} (h : node.Numbered lo hi) (hle : hi ≤ hi') :
    node.Numbered lo hi' := by
  induction node generalizing lo with
  | seq a b _ ihb =>
    obtain ⟨mid, ha, hb⟩ := h
    exact ⟨mid, ha, ihb hb⟩
  | alt a b iha ihb => exact ⟨iha h.1, ihb h.2⟩
  | scope body ih => exact ih h
  | capture number body => exact ⟨h.1, h.2.1, h.2.2.1, h.2.2.2.trans_le hle⟩
  | _ => exact Nat.le_trans h hle

/-- Whether a failure only added to the marks, and a success left them in order. -/
def Outcome.Keeps (m : Marks) : Outcome → Prop
  | .found _ left => left.InOrder
  | .failed left => m <+: left

section Keeps

variable {m' saved : Marks} {first : Outcome} {next : Marks → Outcome} {places : List Place}
  {lo hi : Nat}

theorem Outcome.Keeps.mono (h : first.Keeps m') (hm : m <+: m') : first.Keeps m := by
  cases first with
  | found => exact h
  | failed left => exact hm.trans h

theorem Outcome.Keeps.orElse (h : first.Keeps m) (hnext : (next m).Keeps m) :
    (first.orElse inside m next).Keeps m := by
  cases first with
  | found => exact h
  | failed left =>
    rw [Outcome.orElse, Marks.back_of_prefix h]
    exact hnext

theorem keeps_firstOf (h : ∀ q ∈ places, (k q m).Keeps m) :
    (firstOf inside m k places m).Keeps m := by
  induction places with
  | nil => exact List.prefix_refl m
  | cons p places ih =>
    obtain ⟨hp, hplaces⟩ := List.forall_mem_cons.1 h
    exact hp.orElse (ih hplaces)

theorem keeps_spanRounds {least : Nat} {most : Option Nat} {greed : Greed}
    (h : ∀ q, p.pos ≤ q.pos → (k q m).Keeps m) :
    (spanRounds inside test least most greed p m k).Keeps m := by
  have hplaces : ∀ q ∈ (if least == 0 then p.spans test (most.getD p.after.length) []
      else (p.spans test (most.getD p.after.length) []).take
        ((p.spans test (most.getD p.after.length) []).length - least)), (k q m).Keeps m := by
    intro q hq
    obtain ⟨taken, rest, -, rfl, -⟩ := (mem_take_spans least most rfl).1 hq
    exact h _ (Nat.le_add_right _ _)
  unfold spanRounds
  dsimp only
  generalize (if least == 0 then _ else _) = places at hplaces ⊢
  cases places with
  | nil => exact List.prefix_refl m
  | cons furthest nearer =>
    cases greed with
    | greedy => exact keeps_firstOf hplaces
    | lazy => exact keeps_firstOf fun q hq => hplaces q (List.mem_reverse.1 hq)
    | possessive => exact hplaces furthest List.mem_cons_self

/-- A tree whose groups are numbered in order keeps the marks in order, and what it leaves after a
failure is what was there before it, with more behind it. -/
theorem Node.run_keeps (h : node.IsRegular) (hnumbered : node.Numbered lo hi)
    (hlength : m.length ≤ lo) (horder : m.InOrder)
    (hk : ∀ (q : Place) (m' : Marks), p.pos ≤ q.pos → m <+: m' →
      m'.length ≤ hi → m'.InOrder → (k q m').Keeps m') : (node.run inside p m k).Keeps m := by
  induction node generalizing inside p m k lo hi with
  | empty => exact hk p m le_rfl (List.prefix_refl m) (hlength.trans hnumbered) horder
  | one test =>
    rw [Node.run]
    split
    · rename_i q hq
      obtain ⟨c, rest, -, -, rfl⟩ := Place.take_eq_some.1 hq
      exact hk _ m (Nat.le_add_right _ _) (List.prefix_refl m) (hlength.trans hnumbered) horder
    · exact List.prefix_refl m
  | anchor place =>
    rw [Node.run]
    split
    · exact hk p m le_rfl (List.prefix_refl m) (hlength.trans hnumbered) horder
    · exact List.prefix_refl m
  | seq a b iha ihb =>
    obtain ⟨mid, ha, hb⟩ := hnumbered
    refine iha h.1 ha hlength horder fun q m' hpos hm hlength' horder' => ?_
    exact ihb h.2 hb hlength' horder' fun r m'' hpos' hm' =>
      hk r m'' (hpos.trans hpos') (hm.trans hm')
  | alt a b iha ihb =>
    refine (iha h.1 hnumbered.1 hlength horder hk).orElse ?_
    exact (ihb h.2 hnumbered.2 hlength horder hk).orElse (List.prefix_refl m)
  | scope body ih => exact ih h hnumbered hlength horder hk
  | capture number body ih =>
    obtain ⟨hnumber, hlo, hbody, hhi⟩ := hnumbered
    have hopen := Marks.length_openGroup (p := p) hnumber (hlength.trans hlo)
    have hadded : m <+: m.openGroup number p := Marks.prefix_put (hlength.trans hlo)
    refine (ih h hbody hopen.le (horder.openGroup hnumber (hlength.trans hlo))
      fun q m' hpos hm hlength' _ => ?_).mono hadded
    -- inside the group nothing is marked, so its end is added right behind its start
    obtain rfl : m.openGroup number p = m' := hm.eq_of_length_le (hlength'.trans hopen.ge)
    have hclosed : m.openGroup number p <+: (m.openGroup number p).closeGroup number q :=
      Marks.prefix_put hopen.le
    refine (hk q _ hpos (hadded.trans hclosed) ?_ (horder.closeGroup hnumber hpos)).mono hclosed
    rw [Marks.closeGroup, Marks.length_put, hopen]
    omega
  | span least most greed test =>
    exact keeps_spanRounds fun q hpos =>
      hk q m hpos (List.prefix_refl m) (hlength.trans hnumbered) horder
  | again => cases h
  | repeated => cases h
  | atomic => cases h
  | ahead => cases h
  | behind => cases h
  | given => cases h

end Keeps

/-- A match of a tree whose groups are numbered in order is not tangled. -/
theorem Node.isTangled_of_matchAt {hi : Nat} {found : Match} (h : node.IsRegular)
    (hnumbered : node.Numbered 0 hi) (hfound : node.matchAt p = some found) :
    found.isTangled = false := by
  have hkeeps : (node.run false p [] .found).Keeps [] :=
    Node.run_keeps h hnumbered (Nat.zero_le 0) Marks.inOrder_nil fun _ _ _ _ _ horder => horder
  unfold Node.matchAt at hfound
  split at hfound
  · rename_i stop marks hrun
    cases hfound
    rw [hrun] at hkeeps
    simp only [Match.isTangled, List.any_eq_false, Option.any_eq_true, not_exists, not_and]
    rintro i - ⟨start, stop⟩ hends
    have := hkeeps hends
    simpa using this
  · cases hfound

theorem Node.isTangled_of_searchFrom {hi pos : Nat} {mayStart : List Char → Bool} {found : Match}
    {text : List Char} (h : node.IsRegular) (hnumbered : node.Numbered 0 hi)
    (hfound : node.searchFrom mayStart pos before text = some found) : found.isTangled = false := by
  induction text generalizing pos before with
  | nil =>
    rw [Node.searchFrom] at hfound
    split at hfound
    · exact Node.isTangled_of_matchAt h hnumbered hfound
    · cases hfound
  | cons x text ih =>
    rw [Node.searchFrom] at hfound
    split at hfound
    · rename_i hmatch
      split at hmatch
      · cases hfound
        exact Node.isTangled_of_matchAt h hnumbered hmatch
      · cases hmatch
    · exact ih hfound

/-! ### Rows -/

section Row

variable {nodes : List Node} {lo mid hi : Nat}

theorem Node.isRegular_row (h : ∀ node ∈ nodes, node.IsRegular) : (Node.row nodes).IsRegular := by
  fun_induction Node.row nodes with
  | case1 => trivial
  | case2 item => exact h item List.mem_cons_self
  | case3 item items _ ih =>
    exact ⟨h item List.mem_cons_self, ih fun node hnode => h node (List.mem_cons_of_mem _ hnode)⟩

theorem Node.takes_row_cons : (Node.row (node :: nodes)).Takes before taken rest ↔
    ∃ first second, taken = first ++ second ∧ node.Takes before first (second ++ rest) ∧
      (Node.row nodes).Takes (first.reverse ++ before) second rest := by
  cases nodes with
  | cons next nodes => exact Iff.rfl
  | nil =>
    constructor
    · intro h
      exact ⟨taken, [], by simp, by simpa using h, rfl⟩
    · rintro ⟨first, second, rfl, h, rfl⟩
      simpa using h

/-- Two rows one after the other take what each of them takes. -/
theorem Node.takes_row_append {more : List Node} :
    (Node.row (nodes ++ more)).Takes before taken rest ↔
      ∃ first second, taken = first ++ second ∧ (Node.row nodes).Takes before first (second ++ rest) ∧
        (Node.row more).Takes (first.reverse ++ before) second rest := by
  induction nodes generalizing before taken with
  | nil =>
    constructor
    · intro h
      exact ⟨[], taken, rfl, rfl, h⟩
    · rintro ⟨first, second, rfl, rfl, h⟩
      exact h
  | cons node nodes ih =>
    simp only [List.cons_append, Node.takes_row_cons, ih]
    constructor
    · rintro ⟨first, _, rfl, hnode, second, third, rfl, hnodes, hmore⟩
      refine ⟨first ++ second, third, by simp, ⟨first, second, rfl, ?_, hnodes⟩, ?_⟩
      · rwa [List.append_assoc] at hnode
      · rwa [List.reverse_append, List.append_assoc]
    · rintro ⟨_, third, rfl, ⟨first, second, rfl, hnode, hnodes⟩, hmore⟩
      refine ⟨first, second ++ third, by simp, ?_, second, third, rfl, hnodes, ?_⟩
      · rwa [List.append_assoc]
      · rwa [List.reverse_append, List.append_assoc] at hmore

theorem Node.numbered_row_cons (h : node.Numbered lo mid) (hrow : (Node.row nodes).Numbered mid hi) :
    (Node.row (node :: nodes)).Numbered lo hi := by
  cases nodes with
  | cons next nodes => exact ⟨mid, h, hrow⟩
  | nil => exact h.mono hrow

theorem Node.firstTest?_row_cons : (Node.row (node :: nodes)).firstTest? = node.firstTest? := by
  cases nodes <;> rfl

theorem Node.isRegular_letters (rule : CaseRule) (text : List Char) :
    ∀ node ∈ text.map (letterNode rule), node.IsRegular := by
  intro node hnode
  obtain ⟨c, -, rfl⟩ := List.mem_map.1 hnode
  trivial

theorem Node.numbered_letters {rule : CaseRule} {text : List Char}
    (h : (Node.row nodes).Numbered lo hi) :
    (Node.row (text.map (letterNode rule) ++ nodes)).Numbered lo hi := by
  induction text with
  | nil => exact h
  | cons c text ih => exact Node.numbered_row_cons (Nat.le_refl lo) ih

/-- A row of tests takes as many characters, each of which passes its test. -/
theorem Node.takes_row_tests {tests : List CharTest} :
    (Node.row (tests.map .one ++ nodes)).Takes before taken rest ↔
      ∃ first second, taken = first ++ second ∧
        List.Forall₂ (fun test c => test.accepts c = true) tests first ∧
        (Node.row nodes).Takes (first.reverse ++ before) second rest := by
  induction tests generalizing before taken with
  | nil =>
    constructor
    · intro h
      exact ⟨[], taken, rfl, .nil, h⟩
    · rintro ⟨first, second, rfl, ⟨⟩, h⟩
      exact h
  | cons test tests ih =>
    rw [List.map_cons, List.cons_append, Node.takes_row_cons]
    constructor
    · rintro ⟨first, second, rfl, ⟨c, hc, rfl⟩, h⟩
      obtain ⟨first, second, rfl, htests, h⟩ := ih.1 h
      exact ⟨c :: first, second, rfl, .cons hc htests, by simpa using h⟩
    · rintro ⟨first, second, rfl, htests, h⟩
      cases htests with
      | @cons _ c _ first hc htests =>
        exact ⟨[c], first ++ second, rfl, ⟨c, hc, rfl⟩,
          ih.2 ⟨first, second, rfl, htests, by simpa using h⟩⟩

end Row

/-! ### Compiled patterns -/

/-- A compiled pattern that searches for what a regular tree takes, and starts anywhere. -/
structure IsRegular (c : Pattern) : Prop where
  tree : c.tree.IsRegular
  numbered : ∃ hi, c.tree.Numbered 0 hi
  needs : c.needs = c.tree.needs
  least : ∃ groups, c.least = (c.tree.width groups).1
  entry : c.entry = none

theorem exists_compileWith {o : Options} {text : List Char} {s : State} {hi : Nat}
    (h : parseWith o text = .ok s) (htree : s.tree.IsRegular) (hnumbered : s.tree.Numbered 0 hi)
    (hfirst : ∀ rule negated items, s.tree.firstTest? ≠ some (.oneOf rule negated items)) :
    ∃ c, compileWith o text = .ok c ∧ c.tree = s.tree ∧ c.IsRegular := by
  have hentry (narrow : Bool) : entryTest? narrow s.tree = none := by
    unfold entryTest?
    split
    · rename_i honeOf
      exact absurd honeOf (hfirst _ _ _)
    · rfl
  refine ⟨_, by rw [compileWith, h]; rfl, rfl, htree, ⟨hi, hnumbered⟩, rfl, ⟨_, rfl⟩, ?_⟩
  simp [hentry]

variable {c : Pattern}

theorem IsRegular.mayStart (h : c.IsRegular) (text : List Char) : c.mayStart text = true := by
  simp [Pattern.mayStart, h.entry]

/-- A regular pattern finds what its tree finds. -/
theorem IsRegular.find_eq (h : c.IsRegular) (text : List Char) :
    c.find text = .ok (c.tree.searchFrom c.mayStart 0 [] text) := by
  obtain ⟨hi, hnumbered⟩ := h.numbered
  obtain ⟨groups, hleast⟩ := h.least
  have hsearch : c.search text = c.tree.searchFrom c.mayStart 0 [] text := by
    rw [Pattern.search_eq h.needs]
    split
    · rename_i hshort
      cases hfound : c.tree.searchFrom c.mayStart 0 [] text with
      | none => rfl
      | some found =>
        -- a text that is too short has no part that is long enough
        have hsome : (c.tree.searchFrom c.mayStart 0 [] text).isSome = true := by rw [hfound]; rfl
        obtain ⟨skipped, taken, rest, rfl, htakes⟩ :=
          (Node.isSome_searchFrom h.tree h.mayStart).1 hsome
        have := htakes.width_le groups
        simp only [List.length_append, hleast] at hshort
        omega
    · rfl
  rw [find, hsearch]
  split
  · rename_i found hfound
    rw [Node.isTangled_of_searchFrom h.tree hnumbered hfound, hfound]
    rfl
  · rename_i hfound
    rw [hfound]

/-- **A regular pattern occurs in a text exactly if its tree can take a part of the text.** -/
theorem IsRegular.occursIn_iff (h : c.IsRegular) (text : String) : ∃ found,
    c.occursIn text = .ok found ∧
      (found = true ↔ ∃ skipped taken rest, text.toList = skipped ++ taken ++ rest ∧
        c.tree.Takes skipped.reverse taken rest) := by
  refine ⟨(c.tree.searchFrom c.mayStart 0 [] text.toList).isSome, ?_, ?_⟩
  · rw [occursIn, h.find_eq]
    rfl
  · rw [Node.isSome_searchFrom h.tree h.mayStart]
    simp only [List.append_nil]

end KeywordCatalog.Pattern
