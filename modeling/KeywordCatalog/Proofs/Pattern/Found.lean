import KeywordCatalog.Proofs.Pattern.Regular

/-!
# Where a match is found

A regular tree that matches from a place has taken a text from there (`Node.exists_takes_of_run`), so
a search that finds something finds a part of the text that the tree can take: the positions of the
match are those of the part (`IsRegular.exists_find`).

Of a choice, the second tree is tried only after the first has failed, and then from the same marks
(`Node.matchAt_alt`). The marks of groups that a tree does not have stay as they are, whatever ways are
tried (`Node.run_spares`), so the groups of a match tell which tree of a choice it comes from.
-/

namespace KeywordCatalog.Pattern

variable {p q stop : Place} {m left : Marks} {k : Rest} {node a b : Node} {test : Char → Bool}
  {inside : Bool} {before text : List Char} {found : Match}

/-! ### What a match has taken -/

theorem exists_takes_of_spanRounds {least : Nat} {most : Option Nat} {greed : Greed}
    (hrun : spanRounds inside test least most greed p m k = .found stop left) :
    ∃ taken rest m', p.after = taken ++ rest ∧
      (least ≤ taken.length ∧ (∀ n ∈ most, taken.length ≤ n) ∧ ∀ c ∈ taken, test c = true) ∧
      k (p.past taken rest) m' = .found stop left := by
  have hmem (q : Place) := mem_take_spans (p := p) (q := q) least most
    (rfl : p.spans test (most.getD p.after.length) [] = _)
  unfold spanRounds at hrun
  dsimp only at hrun
  generalize (if least == 0 then _ else _) = places at hmem hrun
  -- the rest was found to match after one of the places that the repetition can lead to
  have hplaces : ∃ q ∈ places, ∃ m', k q m' = .found stop left := by
    cases places with
    | nil => cases hrun
    | cons furthest nearer =>
      cases greed with
      | greedy => exact firstOf_found hrun
      | lazy =>
        obtain ⟨q, hq, m', hk⟩ := firstOf_found hrun
        exact ⟨q, List.mem_reverse.1 hq, m', hk⟩
      | possessive => exact ⟨furthest, List.mem_cons_self, m, hrun⟩
  obtain ⟨q, hq, m', hk⟩ := hplaces
  obtain ⟨taken, rest, hafter, rfl, hfits⟩ := (hmem q).1 hq
  exact ⟨taken, rest, m', hafter, hfits, hk⟩

/-- A regular tree that matches has taken a text after which the rest matches. -/
theorem Node.exists_takes_of_run (h : node.IsRegular)
    (hrun : node.run inside p m k = .found stop left) :
    ∃ taken rest m', p.after = taken ++ rest ∧ node.Takes p.before taken rest ∧
      k (p.past taken rest) m' = .found stop left := by
  induction node generalizing inside p m k stop left with
  | empty => exact ⟨[], p.after, m, rfl, rfl, hrun⟩
  | one test =>
    rw [Node.run] at hrun
    split at hrun
    · rename_i q hq
      obtain ⟨c, rest, hc, hafter, rfl⟩ := Place.take_eq_some.1 hq
      exact ⟨[c], rest, m, hafter, ⟨c, hc, rfl⟩, hrun⟩
    · cases hrun
  | anchor place =>
    rw [Node.run] at hrun
    split at hrun
    · rename_i hp
      have hholds : place.holds ⟨p.before.length, p.before, p.after⟩ = true := by
        rw [← hp]
        cases place <;> rfl
      exact ⟨[], p.after, m, rfl, ⟨rfl, hholds⟩, hrun⟩
    · cases hrun
  | seq a b iha ihb =>
    rw [Node.run] at hrun
    obtain ⟨first, rest', m₁, hafter, ha, hrun⟩ := iha h.1 hrun
    obtain ⟨second, rest, m₂, hafter', hb, hk⟩ := ihb h.2 hrun
    obtain rfl : rest' = second ++ rest := hafter'
    refine ⟨first ++ second, rest, m₂, by rw [hafter, List.append_assoc], ?_, ?_⟩
    · exact ⟨first, second, rfl, ha, hb⟩
    · rwa [Place.past_past] at hk
  | alt a b iha ihb =>
    rw [Node.run] at hrun
    rcases Outcome.orElse_found hrun with hrun | ⟨m', hrun⟩
    · obtain ⟨taken, rest, m', hafter, ha, hk⟩ := iha h.1 hrun
      exact ⟨taken, rest, m', hafter, Or.inl ha, hk⟩
    · rcases Outcome.orElse_found hrun with hrun | ⟨m'', hrun⟩
      · obtain ⟨taken, rest, m', hafter, hb, hk⟩ := ihb h.2 hrun
        exact ⟨taken, rest, m', hafter, Or.inr hb, hk⟩
      · cases hrun
  | scope body ih => exact ih h hrun
  | capture number body ih =>
    obtain ⟨taken, rest, m', hafter, hbody, hk⟩ := ih h hrun
    exact ⟨taken, rest, _, hafter, hbody, hk⟩
  | span least most greed test => exact exists_takes_of_spanRounds hrun
  | again => cases h
  | repeated => cases h
  | atomic => cases h
  | ahead => cases h
  | behind => cases h
  | given => cases h

/-- A match starts where it was looked for and ends after what the tree has taken. -/
theorem Node.exists_takes_of_matchAt (h : node.IsRegular) (hfound : node.matchAt p = some found) :
    ∃ taken rest, p.after = taken ++ rest ∧ node.Takes p.before taken rest ∧
      found.start = p ∧ found.stop = p.past taken rest := by
  unfold Node.matchAt at hfound
  split at hfound
  · rename_i stop marks hrun
    cases hfound
    obtain ⟨taken, rest, m', hafter, htakes, hk⟩ := Node.exists_takes_of_run h hrun
    cases hk
    exact ⟨taken, rest, hafter, htakes, rfl, rfl⟩
  · cases hfound

/-- A search finds its match at some place after what it has skipped. -/
theorem Node.exists_matchAt_of_searchFrom {mayStart : List Char → Bool} {pos : Nat}
    (hfound : node.searchFrom mayStart pos before text = some found) :
    ∃ skipped rest, text = skipped ++ rest ∧
      node.matchAt ⟨pos + skipped.length, skipped.reverse ++ before, rest⟩ = some found := by
  induction text generalizing pos before with
  | nil =>
    rw [Node.searchFrom] at hfound
    split at hfound
    · exact ⟨[], [], rfl, hfound⟩
    · cases hfound
  | cons x text ih =>
    rw [Node.searchFrom] at hfound
    split at hfound
    · rename_i found' hmatch
      cases hfound
      split at hmatch
      · exact ⟨[], x :: text, rfl, hmatch⟩
      · cases hmatch
    · obtain ⟨skipped, rest, rfl, hmatch⟩ := ih hfound
      refine ⟨x :: skipped, rest, rfl, ?_⟩
      rw [← hmatch]
      congr 2
      · rw [List.length_cons]
        omega
      · simp

/-- Whether a match is a part of a text that a tree can take. -/
structure Match.IsTaken (found : Match) (node : Node) (skipped taken rest : List Char) : Prop where
  takes : node.Takes skipped.reverse taken rest
  start : found.start.pos = skipped.length
  stop : found.stop.pos = skipped.length + taken.length
  text : found.text = taken

theorem Node.isTaken_of_matchAt {skipped rest : List Char} (h : node.IsRegular)
    (hfound : node.matchAt ⟨skipped.length, skipped.reverse, rest⟩ = some found) :
    ∃ taken rest', rest = taken ++ rest' ∧ found.IsTaken node skipped taken rest' := by
  obtain ⟨taken, rest', hafter, htakes, hstart, hstop⟩ := Node.exists_takes_of_matchAt h hfound
  obtain rfl : rest = taken ++ rest' := hafter
  refine ⟨taken, rest', rfl, htakes, by rw [hstart], by rw [hstop]; rfl, ?_⟩
  rw [Match.text, hstart, hstop, Place.textTo]
  simp [Place.past]

/-- **A regular pattern finds a match exactly if its tree can take a part of the text, and the match
is such a part.** -/
theorem IsRegular.exists_find {c : Pattern} (h : c.IsRegular) (text : List Char) :
    ∃ found, c.find text = .ok found ∧
      (found.isSome = true ↔ ∃ skipped taken rest, text = skipped ++ taken ++ rest ∧
        c.tree.Takes skipped.reverse taken rest) ∧
      ∀ m ∈ found, ∃ skipped taken rest, text = skipped ++ taken ++ rest ∧
        m.IsTaken c.tree skipped taken rest := by
  refine ⟨_, h.find_eq text, ?_, fun m hm => ?_⟩
  · rw [Node.isSome_searchFrom h.tree h.mayStart]
    simp only [List.append_nil]
  · obtain ⟨skipped, rest, rfl, hmatch⟩ := Node.exists_matchAt_of_searchFrom hm
    rw [Nat.zero_add, List.append_nil] at hmatch
    obtain ⟨taken, rest', rfl, htaken⟩ := Node.isTaken_of_matchAt h.tree hmatch
    exact ⟨skipped, taken, rest', by rw [List.append_assoc], htaken⟩

theorem IsRegular.find_eq_none {c : Pattern} (h : c.IsRegular)
    (hnone : ∀ skipped taken rest, text = skipped ++ taken ++ rest →
      ¬c.tree.Takes skipped.reverse taken rest) : c.find text = .ok none := by
  obtain ⟨found, hfind, hsome, -⟩ := h.exists_find text
  cases found with
  | none => exact hfind
  | some m =>
    obtain ⟨skipped, taken, rest, htext, htakes⟩ := hsome.1 rfl
    exact absurd htakes (hnone skipped taken rest htext)

/-! ### Which tree of a choice has matched -/

/-- The second tree of a choice is tried where the first has failed, as if it stood alone. -/
theorem Node.matchAt_alt : (Node.alt a b).matchAt p = (a.matchAt p).or (b.matchAt p) := by
  simp only [Node.matchAt, Node.run]
  cases a.run false p [] .found with
  | found stop marks => rfl
  | failed left =>
    -- no marks were there before, so none are left
    have hback : Marks.back false [] left = [] := rfl
    simp only [Outcome.orElse, hback]
    cases b.run false p [] .found <;> rfl

/-- Whether an entry has a given mark at the end, or none, however it comes out. -/
def Outcome.Spares (entry : Nat) (mark : Option Place) : Outcome → Prop
  | .found _ left | .failed left => left.place? entry = mark

section Spares

variable {entry lo hi : Nat} {mark : Option Place} {saved : Marks} {first : Outcome} {next : Marks → Outcome}
  {places : List Place}

theorem Marks.place?_back (hsaved : saved.place? entry = mark) (hleft : left.place? entry = mark) :
    (Marks.back inside saved left).place? entry = mark := by
  unfold Marks.back
  split
  · exact hsaved
  · rw [Marks.place?] at hleft ⊢
    rw [List.getElem?_take]
    split
    · exact hleft
    · rename_i hlength
      rw [Marks.place?, List.getElem?_eq_none (Nat.le_of_not_lt hlength)] at hsaved
      exact hsaved

theorem Outcome.Spares.orElse (h : first.Spares entry mark) (hsaved : saved.place? entry = mark)
    (hnext : ∀ m : Marks, m.place? entry = mark → (next m).Spares entry mark) :
    (first.orElse inside saved next).Spares entry mark := by
  cases first with
  | found => exact h
  | failed left => exact hnext _ (Marks.place?_back hsaved h)

theorem spares_firstOf (hsaved : saved.place? entry = mark) (hm : m.place? entry = mark)
    (hk : ∀ (q : Place) (m' : Marks), m'.place? entry = mark → (k q m').Spares entry mark) :
    (firstOf inside saved k places m).Spares entry mark := by
  induction places generalizing m with
  | nil => exact hm
  | cons p places ih => exact (hk p m hm).orElse hsaved fun m' hm' => ih hm'

theorem spares_spanRounds {least : Nat} {most : Option Nat} {greed : Greed}
    (hm : m.place? entry = mark)
    (hk : ∀ (q : Place) (m' : Marks), m'.place? entry = mark → (k q m').Spares entry mark) :
    (spanRounds inside test least most greed p m k).Spares entry mark := by
  unfold spanRounds
  dsimp only
  split
  · exact hm
  · cases greed with
    | greedy => exact spares_firstOf hm hm hk
    | lazy => exact spares_firstOf hm hm hk
    | possessive => exact hk _ m hm

theorem Node.Numbered.le (h : node.Numbered lo hi) : lo ≤ hi := by
  induction node generalizing lo hi with
  | seq a b iha ihb =>
    obtain ⟨mid, ha, hb⟩ := h
    exact (iha ha).trans (ihb hb)
  | alt a b iha _ => exact iha h.1
  | scope body ih => exact ih h
  | capture number body =>
    obtain ⟨-, hlo, -, hhi⟩ := h
    simp only [Marks.startEntry, Marks.endEntry] at hlo hhi
    omega
  | _ => exact h

/-- A tree leaves the entries before those of its groups as they are, if the rest does. -/
theorem Node.run_spares (h : node.IsRegular) (hnumbered : node.Numbered lo hi) (hlo : entry < lo)
    (hm : m.place? entry = mark)
    (hk : ∀ (q : Place) (m' : Marks), m'.place? entry = mark → (k q m').Spares entry mark) :
    (node.run inside p m k).Spares entry mark := by
  induction node generalizing inside p m k lo hi with
  | empty => exact hk p m hm
  | one test =>
    rw [Node.run]
    split
    · exact hk _ m hm
    · exact hm
  | anchor place =>
    rw [Node.run]
    split
    · exact hk p m hm
    · exact hm
  | seq a b iha ihb =>
    obtain ⟨mid, ha, hb⟩ := hnumbered
    exact iha h.1 ha hlo hm fun q m' hm' => ihb h.2 hb (hlo.trans_le ha.le) hm' hk
  | alt a b iha ihb =>
    refine (iha h.1 hnumbered.1 hlo hm hk).orElse hm fun m' hm' => ?_
    exact (ihb h.2 hnumbered.2 hlo hm' hk).orElse hm fun m'' hm'' => hm''
  | scope body ih => exact ih h hnumbered hlo hm hk
  | capture number body ih =>
    obtain ⟨-, hstart, hbody, -⟩ := hnumbered
    have hentries : entry ≠ Marks.startEntry number ∧ entry < Marks.endEntry number := by
      simp only [Marks.startEntry, Marks.endEntry] at hstart ⊢
      omega
    refine ih h hbody hentries.2 ?_ fun q m' hm' => hk q _ ?_
    · rw [Marks.openGroup, Marks.place?_put, if_neg hentries.1, hm]
    · rw [Marks.closeGroup, Marks.place?_put, if_neg hentries.2.ne, hm']
  | span least most greed test => exact spares_spanRounds hm hk
  | again => cases h
  | repeated => cases h
  | atomic => cases h
  | ahead => cases h
  | behind => cases h
  | given => cases h

end Spares

/-- A match of a tree has no text for a group whose entries are before those of the tree. -/
theorem Node.group?_eq_none {number lo hi : Nat} (h : node.IsRegular)
    (hnumbered : node.Numbered lo hi) (hlo : Marks.endEntry number < lo)
    (hfound : node.matchAt p = some found) : found.group? number = none := by
  have hspares : (node.run false p [] .found).Spares (Marks.endEntry number) none :=
    Node.run_spares h hnumbered hlo (by simp [Marks.place?]) fun q m' hm' => hm'
  unfold Node.matchAt at hfound
  split at hfound
  · rename_i stop marks hrun
    cases hfound
    rw [hrun] at hspares
    have hopen : marks.place? (Marks.endEntry number) = none := hspares
    rw [Match.group?, Marks.ends?, hopen]
    cases marks.place? (Marks.startEntry number) <;> rfl
  · cases hfound

/-- **A match between whose first and last tree there is a group has for the group what its body has
taken.** -/
theorem Node.exists_group_of_matchAt {body : Node} {number mid hi : Nat}
    (h : (Node.seq a (.seq (.capture number body) b)).IsRegular) (hnumber : 0 < number)
    (hbody : body.Numbered (Marks.endEntry number) mid) (hb : b.Numbered (Marks.endEntry number + 1) hi)
    (hfound : (Node.seq a (.seq (.capture number body) b)).matchAt p = some found) :
    ∃ first taken last rest, p.after = first ++ (taken ++ (last ++ rest)) ∧
      a.Takes p.before first (taken ++ (last ++ rest)) ∧
      body.Takes (first.reverse ++ p.before) taken (last ++ rest) ∧
      b.Takes (taken.reverse ++ (first.reverse ++ p.before)) last rest ∧
      found.group? number = some taken := by
  obtain ⟨ha, (hregular : body.IsRegular), hregular'⟩ := h
  have hentries : Marks.startEntry number < Marks.endEntry number := by
    simp only [Marks.startEntry, Marks.endEntry]
    omega
  unfold Node.matchAt at hfound
  split at hfound
  · rename_i stop marks hrun
    cases hfound
    obtain ⟨first, rest₁, m₁, hafter, hfirst, hgroup⟩ := Node.exists_takes_of_run ha hrun
    let q := p.past first rest₁
    change body.run false q (m₁.openGroup number q) (fun q' m' =>
      b.run false q' (m'.closeGroup number q') .found) = .found stop marks at hgroup
    obtain ⟨taken, rest₂, m₂, hafter₂, htaken, hlast⟩ := Node.exists_takes_of_run hregular hgroup
    obtain ⟨last, rest, m₃, hafter₃, htakes, -⟩ := Node.exists_takes_of_run hregular' hlast
    obtain rfl : rest₂ = last ++ rest := hafter₃
    obtain rfl : rest₁ = taken ++ (last ++ rest) := hafter₂
    -- what comes after a mark of the group leaves it as it is
    have hstart : (Outcome.found stop marks).Spares (Marks.startEntry number) (some q) := by
      rw [← hgroup]
      refine Node.run_spares hregular hbody hentries ?_ fun q' m' hm' =>
        Node.run_spares hregular' hb (Nat.lt_succ_of_lt hentries) ?_ fun _ _ hm => hm
      · rw [Marks.openGroup, Marks.place?_put, if_pos rfl]
      · rw [Marks.closeGroup, Marks.place?_put, if_neg hentries.ne, hm']
    have hstop : (Outcome.found stop marks).Spares (Marks.endEntry number)
        (some (q.past taken (last ++ rest))) := by
      rw [← hlast]
      refine Node.run_spares hregular' hb (Nat.lt_succ_self _) ?_ fun _ _ hm => hm
      rw [Marks.closeGroup, Marks.place?_put, if_pos rfl]
    refine ⟨first, taken, last, rest, hafter, hfirst, htaken, htakes, ?_⟩
    have htext : q.textTo (q.past taken (last ++ rest)) = taken := by
      simp [q, Place.textTo, Place.past]
    rw [Match.group?, Marks.ends?, show marks.place? _ = _ from hstart,
      show marks.place? _ = _ from hstop]
    exact congrArg some htext
  · cases hfound

/-- **A match of a choice between two groups that has text for the first group was taken by the
first.** -/
theorem IsRegular.isTaken_first {c : Pattern} {first second : Node} (h : c.IsRegular)
    (htree : c.tree = .alt (.capture 1 first) (.capture 2 second)) {text : List Char}
    (hfind : c.find text = .ok (some found)) (hgroup : (found.group? 1).isSome = true) :
    ∃ skipped taken rest, text = skipped ++ taken ++ rest ∧
      found.IsTaken (.capture 1 first) skipped taken rest := by
  have hregular := h.tree
  obtain ⟨hi, hnumbered⟩ := h.numbered
  rw [htree] at hregular hnumbered
  rw [h.find_eq, Except.ok.injEq] at hfind
  obtain ⟨skipped, rest, rfl, hmatch⟩ := Node.exists_matchAt_of_searchFrom hfind
  rw [Nat.zero_add, List.append_nil, htree, Node.matchAt_alt, Option.or_eq_some_iff] at hmatch
  rcases hmatch with hmatch | ⟨-, hmatch⟩
  · obtain ⟨taken, rest', rfl, htaken⟩ := Node.isTaken_of_matchAt hregular.1 hmatch
    exact ⟨skipped, taken, rest', by rw [List.append_assoc], htaken⟩
  · -- the second group has its marks behind those of the first, which stay open
    have hsecond : (Node.capture 2 second).Numbered 2 hi := by
      obtain ⟨hnumber, -, hbody, hhi⟩ := hnumbered.2
      exact ⟨hnumber, Nat.le_refl _, hbody, hhi⟩
    rw [Node.group?_eq_none hregular.2 hsecond (by decide) hmatch] at hgroup
    cases hgroup

end KeywordCatalog.Pattern
