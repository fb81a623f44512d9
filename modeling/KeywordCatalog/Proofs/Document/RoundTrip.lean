import KeywordCatalog.Document.Access
import KeywordCatalog.Proofs.Document.Number
import KeywordCatalog.Proofs.Document.Quoted
import KeywordCatalog.Proofs.Outcome

/-!
# Written documents

A document is faithful if its numbers have a written form and no object in it has a key twice. These
are the documents that can be read (`faithful_of_parse`). A list or an object is read from the texts
of its parts whatever spacing stands between them (`readsAs_list`, `readsAs_object`), so a faithful
document reads back as itself from what it is written as, if it does not have too many levels
(`parse_render`).
-/

namespace KeywordCatalog

open Document

/-- Documents that are read back as themselves from what they are written as. -/
inductive Value.Faithful : Value → Prop
  | null : Faithful .null
  | bool (b : Bool) : Faithful (.bool b)
  | int {n : Int} : (Nat.toDigits 10 n.natAbs).length ≤ Text.digitLimit → Faithful (.int n)
  | real {literal : String} : IsReal literal.toList → Faithful (.real literal)
  | text (s : String) : Faithful (.text s)
  | list {items : List Value} : (∀ v ∈ items, Faithful v) → Faithful (.list items)
  | object {fields : List (String × Value)} :
    (fields.map Prod.fst).Nodup → (∀ f ∈ fields, Faithful f.2) → Faithful (.object fields)

namespace Document

variable {v : Value} {items : List Value} {fields : List (String × Value)}
  {rest text gap opening closing : List Char} {parts : List (List Char)} {fuel room : Nat}
  {c d : Char}

/-! ### First characters -/

/-- Whether a character can start a document that is neither a list nor an object. -/
def startsPlain (c : Char) : Bool := c.isAlphanum || c == '-' || c == '"'

theorem ne_of_startsPlain (hc : startsPlain c = true) (hd : startsPlain d = false) : c ≠ d := by
  rintro rfl
  rw [hc] at hd
  cases hd

theorem startsPlain_of_isDigit (hd : d.isDigit = true) : startsPlain d = true := by
  simp [startsPlain, Char.isAlphanum, hd]

theorem isSpacing_of_startsPlain (hc : startsPlain c = true) : isSpacing c = false := by
  have hne (d : Char) (hd : startsPlain d = false) : (c == d) = false := by
    simpa using ne_of_startsPlain hc hd
  simp only [isSpacing, hne ' ' rfl, hne '\t' rfl, hne '\n' rfl, hne '\r' rfl, Bool.or_self]

theorem head?_writeInt (n : Int) : ∃ c tail, writeInt n = c :: tail ∧ startsPlain c = true := by
  cases n with
  | ofNat n =>
    obtain ⟨hne, hdigits, -⟩ := isWholePart_toDigits n
    obtain ⟨d, tail, hwhole⟩ := List.exists_cons_of_ne_nil hne
    exact ⟨d, tail, hwhole, startsPlain_of_isDigit (hdigits d (by simp [hwhole]))⟩
  | negSucc n => exact ⟨'-', Nat.toDigits 10 (n + 1), rfl, rfl⟩

theorem IsReal.exists_cons (h : IsReal text) :
    ∃ c tail, text = c :: tail ∧ startsPlain c = true := by
  rcases h with ⟨n, -, h | h⟩ | h | h | h
  · obtain ⟨d, tail, hwritten, hd⟩ := n.exists_cons
    exact ⟨d, tail, h.trans hwritten, startsPlain_of_isDigit hd⟩
  · exact ⟨'-', n.written, h, rfl⟩
  · exact ⟨'N', ['a', 'N'], h, rfl⟩
  · exact ⟨'I', "nfinity".toList, h, rfl⟩
  · exact ⟨'-', "Infinity".toList, h, rfl⟩

theorem exists_cons_write_of_levels (h : v.Faithful) (hlevels : v.levels = 0) :
    ∃ c tail, write v = c :: tail ∧ startsPlain c = true := by
  cases h with
  | null => exact ⟨'n', "ull".toList, rfl, rfl⟩
  | bool b =>
    cases b with
    | true => exact ⟨'t', "rue".toList, rfl, rfl⟩
    | false => exact ⟨'f', "alse".toList, rfl, rfl⟩
  | int => exact head?_writeInt _
  | real hreal => exact hreal.exists_cons
  | text s => exact ⟨'"', writeChars s.toList ++ ['"'], rfl, rfl⟩
  | list => cases hlevels
  | object => cases hlevels

theorem skipSpacing_cons (h : isSpacing c = false) (tail : List Char) :
    skipSpacing (c :: tail) = c :: tail := by
  simp [skipSpacing, h]

/-! ### Documents without parts -/

theorem length_le_length_writeChars (cs : List Char) : cs.length ≤ (writeChars cs).length := by
  induction cs with
  | nil => exact Nat.le_refl 0
  | cons c cs ih =>
    have hchar : 0 < (writeChar c).length := List.length_pos_iff.2 (head?_writeChar c).1
    simp only [writeChars, List.length_append, List.length_cons]
    split
    · simp only [writePair, writeUnit, List.length_append, List.length_cons]
      omega
    · omega

theorem readText_writeText (s : String) (rest : List Char) (hfuel : (writeText s).length ≤ fuel) :
    readText fuel (writeChars s.toList ++ '"' :: rest) = some (s, rest) := by
  have hlength := length_le_length_writeChars s.toList
  simp only [writeText, List.length_cons, List.length_append, List.length_nil] at hfuel
  rw [readText, readQuoted_writeChars s.toList rest (by omega)]
  simp

theorem readPlain_write (h : v.Faithful) (hlevels : v.levels = 0)
    (hfuel : (write v).length ≤ fuel) (hrest : EndsNumber rest) :
    readPlain fuel (write v ++ rest) = .ok (v, rest) := by
  cases h with
  | null => exact readPlain_word (by simp [words]) fuel rest
  | bool b => cases b <;> exact readPlain_word (by simp [words]) fuel rest
  | int hlimit => exact readPlain_writeInt _ fuel hrest hlimit
  | real hreal => exact readPlain_real hreal fuel hrest
  | text s =>
    have hread := readText_writeText s rest hfuel
    simp only [write, writeText, List.cons_append, List.append_assoc, List.nil_append, readPlain,
      hread]
    rfl
  | list => cases hlevels
  | object => cases hlevels

theorem readValue_of_startsPlain (hc : startsPlain c = true) (tail : List Char) :
    readValue (fuel + 1) room (c :: tail) = readPlain fuel (c :: tail) := by
  have hlist : c ≠ '[' := ne_of_startsPlain hc rfl
  have hobject : c ≠ '\x7b' := ne_of_startsPlain hc rfl
  rw [readValue] <;> simp_all

/-! ### Lists and objects -/

/-- Spacing between the parts of a document. -/
def IsGap (gap : List Char) : Prop := ∀ c ∈ gap, isSpacing c = true

theorem isGap_nil : IsGap [] := nofun

theorem isGap_blank : IsGap [' '] := by simp [IsGap, isSpacing]

theorem skipSpacing_gap (hgap : IsGap gap) (hc : isSpacing c = false) (tail : List Char) :
    skipSpacing (gap ++ c :: tail) = c :: tail := by
  rw [skipSpacing, List.dropWhile_append_of_pos hgap]
  exact skipSpacing_cons hc tail

theorem endsNumber_cons (hdigit : c.isDigit = false) (hpoint : c ≠ '.') (he : c ≠ 'e')
    (hE : c ≠ 'E') (tail : List Char) : EndsNumber (c :: tail) := by
  intro d hd
  obtain rfl := Option.some.inj hd
  exact ⟨hdigit, hpoint, he, hE⟩

theorem endsNumber_comma (tail : List Char) : EndsNumber (',' :: tail) :=
  endsNumber_cons rfl (by decide) (by decide) (by decide) tail

theorem endsNumber_gap (hgap : IsGap gap) (h : EndsNumber rest) : EndsNumber (gap ++ rest) := by
  cases gap with
  | nil => exact h
  | cons c gap =>
    have hc : isSpacing c = true := hgap c List.mem_cons_self
    simp only [isSpacing, Bool.or_eq_true, beq_iff_eq] at hc
    rcases hc with ((rfl | rfl) | rfl) | rfl <;>
      exact endsNumber_cons rfl (by decide) (by decide) (by decide) _

/-- A text that is read as a document, with room for a number of levels, whatever follows it. It
starts neither with spacing nor with the end of a list. -/
structure ReadsAs (room : Nat) (v : Value) (text : List Char) : Prop where
  starts : ∃ c tail, text = c :: tail ∧ isSpacing c = false ∧ c ≠ ']'
  reads : ∀ fuel rest, 2 * text.length ≤ fuel → EndsNumber rest →
    readValue fuel room (text ++ rest) = .ok (v, rest)

theorem ReadsAs.skipSpacing (h : ReadsAs room v text) (hgap : IsGap gap) (rest : List Char) :
    skipSpacing (gap ++ (text ++ rest)) = text ++ rest := by
  obtain ⟨c, tail, rfl, hc, -⟩ := h.starts
  exact skipSpacing_gap hgap hc (tail ++ rest)

/-- The parts of a list or an object after its first one. -/
def moreParts (gap : List Char) (parts : List (List Char)) : List Char :=
  parts.flatMap fun part => ',' :: (gap ++ part)

theorem moreParts_cons (gap part : List Char) (parts : List (List Char)) :
    moreParts gap (part :: parts) = ',' :: (gap ++ (part ++ moreParts gap parts)) := by
  simp [moreParts]

theorem readItems_parts (hgap : IsGap gap) (hclosing : IsGap closing)
    (h : List.Forall₂ (ReadsAs room) (v :: items) (text :: parts)) (rest : List Char)
    (hfuel : 2 * (text ++ moreParts gap parts).length < fuel) :
    readItems fuel room (text ++ (moreParts gap parts ++ (closing ++ ']' :: rest))) =
      .ok (v :: items, rest) := by
  obtain ⟨fuel, rfl⟩ := Nat.exists_eq_add_one_of_ne_zero (Nat.ne_zero_of_lt hfuel)
  rw [List.forall₂_cons] at h
  obtain ⟨hv, h⟩ := h
  rw [List.length_append] at hfuel
  induction h generalizing v text fuel with
  | nil =>
    have hread := hv.reads fuel (closing ++ ']' :: rest) (by omega)
      (endsNumber_gap hclosing (endsNumber_cons rfl (by decide) (by decide) (by decide) rest))
    have hend : moreParts gap [] = [] := rfl
    rw [hend, List.nil_append, readItems, hread]
    simp only [skipSpacing_gap (c := ']') hclosing rfl]
  | @cons w part items parts hw _ ih =>
    rw [moreParts_cons] at hfuel ⊢
    simp only [List.length_cons, List.length_append] at hfuel
    obtain ⟨fuel, rfl⟩ : ∃ k, fuel = k + 1 := ⟨fuel - 1, by omega⟩
    have htail := ih fuel (by omega) hw
    have hspacing := hw.skipSpacing hgap (moreParts gap parts ++ (closing ++ ']' :: rest))
    simp only [List.cons_append, List.append_assoc]
    rw [readItems, hv.reads (fuel + 1) _ (by omega) (endsNumber_comma _)]
    simp only [skipSpacing_cons (c := ',') rfl, hspacing, htail]
    rfl

/-- A field from its key and what its document is written as. -/
def writeField (key : String) (text : List Char) : List Char := writeText key ++ ':' :: ' ' :: text

/-- A text that is read as a field. -/
def ReadsAsField (room : Nat) (f : String × Value) (part : List Char) : Prop :=
  ∃ text, part = writeField f.1 text ∧ ReadsAs room f.2 text

theorem readKey_writeField (key : String) (h : ReadsAs room v text) (rest : List Char)
    (hfuel : (writeText key).length ≤ fuel) :
    readKey fuel (writeField key text ++ rest) = .ok (key, text ++ rest) := by
  have hread := readText_writeText key (':' :: ' ' :: (text ++ rest)) hfuel
  have hspacing : Document.skipSpacing (' ' :: (text ++ rest)) = text ++ rest :=
    h.skipSpacing isGap_blank rest
  simp only [writeField, writeText, List.cons_append, List.append_assoc, List.nil_append, readKey,
    hread, skipSpacing_cons (c := ':') rfl, hspacing]

theorem length_writeField (key : String) (text : List Char) :
    (writeField key text).length = (writeText key).length + text.length + 2 := by
  simp [writeField, Nat.add_assoc]

theorem key_notMem_of_nodup {f : String × Value} {before : List (String × Value)}
    (h : ((before ++ f :: fields).map Prod.fst).Nodup) : f.1 ∉ before.map Prod.fst := by
  rw [List.map_append, List.nodup_append] at h
  exact fun hmem => h.2.2 f.1 hmem f.1 (by simp) rfl

theorem skipSpacing_writeField (hgap : IsGap gap) (key : String) (text rest : List Char) :
    skipSpacing (gap ++ (writeField key text ++ rest)) = writeField key text ++ rest :=
  skipSpacing_gap hgap rfl _

theorem readFields_parts {f : String × Value} {before : List (String × Value)}
    {part : List Char} (hgap : IsGap gap) (hclosing : IsGap closing)
    (h : List.Forall₂ (ReadsAsField room) (f :: fields) (part :: parts))
    (hkeys : ((before ++ f :: fields).map Prod.fst).Nodup) (rest : List Char)
    (hfuel : 2 * (part ++ moreParts gap parts).length < fuel) :
    readFields fuel room before (part ++ (moreParts gap parts ++ (closing ++ '\x7d' :: rest))) =
      .ok (before ++ f :: fields, rest) := by
  obtain ⟨fuel, rfl⟩ := Nat.exists_eq_add_one_of_ne_zero (Nat.ne_zero_of_lt hfuel)
  rw [List.forall₂_cons] at h
  obtain ⟨⟨text, rfl, hv⟩, h⟩ := h
  rw [List.length_append] at hfuel
  -- no key comes twice, so each field is put behind those that were read before it
  induction h generalizing f text before fuel with
  | nil =>
    have hlength := length_writeField f.1 text
    have hnew := key_notMem_of_nodup hkeys
    have hend : moreParts gap [] = [] := rfl
    have hread := hv.reads fuel (closing ++ '\x7d' :: rest) (by omega)
      (endsNumber_gap hclosing (endsNumber_cons rfl (by decide) (by decide) (by decide) rest))
    rw [hend, List.nil_append, readFields, readKey_writeField f.1 hv _ (by omega)]
    simp only [hread, Ordered.put_of_notMem hnew, skipSpacing_gap (c := '\x7d') hclosing rfl]
  | @cons g part fields parts hg _ ih =>
    have hlength := length_writeField f.1 text
    have hnew := key_notMem_of_nodup hkeys
    obtain ⟨text', rfl, hw⟩ := hg
    rw [moreParts_cons] at hfuel ⊢
    simp only [List.length_cons, List.length_append] at hfuel
    obtain ⟨fuel, rfl⟩ : ∃ k, fuel = k + 1 := ⟨fuel - 1, by omega⟩
    have hkeys' : ((before ++ [f] ++ g :: fields).map Prod.fst).Nodup := by simpa using hkeys
    have htail := ih hkeys' fuel text' hw (by omega)
    have hspacing := skipSpacing_writeField hgap g.1 text'
      (moreParts gap parts ++ (closing ++ '\x7d' :: rest))
    simp only [List.cons_append, List.append_assoc]
    rw [readFields, readKey_writeField f.1 hv _ (by omega)]
    simp only [hv.reads (fuel + 1) _ (by omega) (endsNumber_comma _), Ordered.put_of_notMem hnew,
      skipSpacing_cons (c := ',') rfl, hspacing, htail]
    simp

theorem readValue_list (h : skipSpacing text = c :: rest) (hc : c ≠ ']') :
    readValue (fuel + 1) (room + 1) ('[' :: text) =
      (readItems fuel room (c :: rest)).map fun (items, tail) => (.list items, tail) := by
  rw [readValue, h]
  split
  · rename_i heq
    exact absurd (List.cons.inj heq).1 hc
  · rfl

theorem readValue_object (h : skipSpacing text = c :: rest) (hc : c ≠ '\x7d') :
    readValue (fuel + 1) (room + 1) ('\x7b' :: text) =
      (readFields fuel room [] (c :: rest)).map fun (fields, tail) => (.object fields, tail) := by
  rw [readValue, h]
  split
  · rename_i heq
    exact absurd (List.cons.inj heq).1 hc
  · rfl

theorem readsAs_nil : ReadsAs (room + 1) (.list []) ['[', ']'] := by
  refine ⟨⟨'[', [']'], rfl, rfl, by decide⟩, fun fuel rest hfuel _ => ?_⟩
  obtain ⟨fuel, rfl⟩ : ∃ k, fuel = k + 1 := ⟨fuel - 1, by simp at hfuel; omega⟩
  rfl

theorem readsAs_list (hopening : IsGap opening) (hgap : IsGap gap) (hclosing : IsGap closing)
    (h : List.Forall₂ (ReadsAs room) (v :: items) (text :: parts)) :
    ReadsAs (room + 1) (.list (v :: items))
      ('[' :: (opening ++ (text ++ (moreParts gap parts ++ (closing ++ [']']))))) := by
  refine ⟨⟨'[', _, rfl, rfl, by decide⟩, fun fuel rest hfuel _ => ?_⟩
  simp only [List.length_cons, List.length_append] at hfuel
  obtain ⟨fuel, rfl⟩ : ∃ k, fuel = k + 1 := ⟨fuel - 1, by omega⟩
  have hv := (List.forall₂_cons.1 h).1
  have hread : readItems fuel room _ = _ :=
    readItems_parts hgap hclosing h rest (by rw [List.length_append]; omega)
  have hspacing := hv.skipSpacing hopening (moreParts gap parts ++ (closing ++ ']' :: rest))
  obtain ⟨c, tail, rfl, -, hend⟩ := hv.starts
  simp only [List.cons_append, List.append_assoc, List.nil_append] at hread hspacing ⊢
  rw [readValue_list hspacing hend, hread]
  rfl

theorem readsAs_empty : ReadsAs (room + 1) (.object []) ['\x7b', '\x7d'] := by
  refine ⟨⟨'\x7b', ['\x7d'], rfl, rfl, by decide⟩, fun fuel rest hfuel _ => ?_⟩
  obtain ⟨fuel, rfl⟩ : ∃ k, fuel = k + 1 := ⟨fuel - 1, by simp at hfuel; omega⟩
  rfl

theorem readsAs_object {f : String × Value} (hopening : IsGap opening) (hgap : IsGap gap)
    (hclosing : IsGap closing) (hkeys : ((f :: fields).map Prod.fst).Nodup)
    (h : List.Forall₂ (ReadsAsField room) (f :: fields) (text :: parts)) :
    ReadsAs (room + 1) (.object (f :: fields))
      ('\x7b' :: (opening ++ (text ++ (moreParts gap parts ++ (closing ++ ['\x7d']))))) := by
  refine ⟨⟨'\x7b', _, rfl, rfl, by decide⟩, fun fuel rest hfuel _ => ?_⟩
  simp only [List.length_cons, List.length_append] at hfuel
  obtain ⟨fuel, rfl⟩ : ∃ k, fuel = k + 1 := ⟨fuel - 1, by omega⟩
  have hread : readFields fuel room [] _ = _ :=
    readFields_parts hgap hclosing h hkeys rest (by rw [List.length_append]; omega)
  obtain ⟨value, rfl, -⟩ := (List.forall₂_cons.1 h).1
  have hspacing := skipSpacing_writeField hopening f.1 value
    (moreParts gap parts ++ (closing ++ '\x7d' :: rest))
  simp only [writeField, writeText, List.cons_append, List.append_assoc, List.nil_append]
    at hread hspacing ⊢
  rw [readValue_object hspacing (by decide), hread]
  rfl

theorem levels_le_itemLevels (h : v ∈ items) : v.levels ≤ Value.itemLevels items := by
  induction items with
  | nil => cases h
  | cons w items ih =>
    rcases List.mem_cons.1 h with rfl | h
    · exact Nat.le_max_left ..
    · exact Nat.le_trans (ih h) (Nat.le_max_right ..)

theorem levels_le_fieldLevels {f : String × Value} (h : f ∈ fields) :
    f.2.levels ≤ Value.fieldLevels fields := by
  induction fields with
  | nil => cases h
  | cons g fields ih =>
    rcases List.mem_cons.1 h with rfl | h
    · exact Nat.le_max_left ..
    · exact Nat.le_trans (ih h) (Nat.le_max_right ..)

/-- A document without parts reads back as itself, whatever follows it. -/
theorem readsAs_of_levels (h : v.Faithful) (hlevels : v.levels = 0) : ReadsAs room v (write v) := by
  obtain ⟨c, tail, hwrite, hc⟩ := exists_cons_write_of_levels h hlevels
  refine ⟨⟨c, tail, hwrite, isSpacing_of_startsPlain hc, ne_of_startsPlain hc rfl⟩,
    fun fuel rest hfuel hrest => ?_⟩
  have hlength : 0 < (write v).length := by simp [hwrite]
  obtain ⟨fuel, rfl⟩ : ∃ k, fuel = k + 1 := ⟨fuel - 1, by omega⟩
  have hread : readPlain fuel (write v ++ rest) = .ok (v, rest) :=
    readPlain_write h hlevels (by omega) hrest
  rw [hwrite, List.cons_append] at hread ⊢
  rw [readValue_of_startsPlain hc, hread]

/-- A text that is read as a document with anything after it is read as that document alone. -/
theorem ReadsAs.ofChars (h : ReadsAs levelLimit v text) : Value.ofChars text = .ok v := by
  have hread := h.reads (2 * text.length + 2) [] (by omega) nofun
  have hstart := h.skipSpacing isGap_nil []
  rw [List.nil_append, List.append_nil] at hstart
  rw [List.append_nil] at hread
  rw [Value.ofChars, hstart, hread]
  rfl

/-- The texts of items are read as these items. -/
theorem forall₂_readsAs {form : Value → List Char} (h : ∀ w ∈ items, ReadsAs room w (form w)) :
    List.Forall₂ (ReadsAs room) items (items.map form) := by
  rw [List.forall₂_map_right_iff, List.forall₂_same]
  exact h

theorem forall₂_readsAsField {form : Value → List Char}
    (h : ∀ f ∈ fields, ReadsAs room f.2 (form f.2)) :
    List.Forall₂ (ReadsAsField room) fields (fields.map fun f => writeField f.1 (form f.2)) := by
  rw [List.forall₂_map_right_iff, List.forall₂_same]
  exact fun f hf => ⟨form f.2, rfl, h f hf⟩

theorem writeMoreItems_eq (items : List Value) :
    writeMoreItems items = moreParts [' '] (items.map write) := by
  induction items with
  | nil => rfl
  | cons v items ih =>
    rw [writeMoreItems, List.map_cons, moreParts_cons, ih]
    rfl

theorem writeMoreFields_eq (fields : List (String × Value)) :
    writeMoreFields fields = moreParts [' '] (fields.map fun f => writeField f.1 (write f.2)) := by
  induction fields with
  | nil => rfl
  | cons f fields ih =>
    rw [writeMoreFields, List.map_cons, moreParts_cons, ih]
    simp [writeField]

/-- A faithful document on one line reads back as itself, whatever follows it. -/
theorem readsAs_write (h : v.Faithful) (hlevels : v.levels ≤ room) : ReadsAs room v (write v) := by
  induction h generalizing room with
  | null => exact readsAs_of_levels .null rfl
  | bool b => exact readsAs_of_levels (.bool b) rfl
  | int hlimit => exact readsAs_of_levels (.int hlimit) rfl
  | real hreal => exact readsAs_of_levels (.real hreal) rfl
  | text s => exact readsAs_of_levels (.text s) rfl
  | @list items _ ih =>
    rw [Value.levels] at hlevels
    obtain ⟨room, rfl⟩ : ∃ k, room = k + 1 := ⟨room - 1, by omega⟩
    have hitems : ∀ w ∈ items, ReadsAs room w (write w) := fun w hw =>
      ih w hw (by have := levels_le_itemLevels hw; omega)
    cases items with
    | nil => exact readsAs_nil
    | cons v items =>
      have hread := readsAs_list isGap_nil isGap_blank isGap_nil (forall₂_readsAs hitems)
      rw [← writeMoreItems_eq] at hread
      simpa only [write, writeItems, List.nil_append, List.append_assoc] using hread
  | @object fields hkeys _ ih =>
    rw [Value.levels] at hlevels
    obtain ⟨room, rfl⟩ : ∃ k, room = k + 1 := ⟨room - 1, by omega⟩
    have hfields : ∀ f ∈ fields, ReadsAs room f.2 (write f.2) := fun f hf =>
      ih f hf (by have := levels_le_fieldLevels hf; omega)
    cases fields with
    | nil => exact readsAs_empty
    | cons f fields =>
      have hread := readsAs_object isGap_nil isGap_blank isGap_nil hkeys
        (forall₂_readsAsField hfields)
      rw [← writeMoreFields_eq] at hread
      simpa only [write, writeFields, writeField, List.nil_append, List.cons_append,
        List.append_assoc] using hread

/-! ### One line -/

theorem return_notMem_digits {digits : List Char} (h : ∀ d ∈ digits, d.isDigit = true) :
    '\r' ∉ digits := fun hmem => absurd (h _ hmem) (by decide)

theorem return_notMem_unitDigits (n : Nat) : '\r' ∉ unitDigits n := by
  have hhex : ∀ k < 16, '\r' ≠ Text.hexChar k := by decide
  have hdigit (k : Nat) : '\r' ≠ Text.hexChar (k % 16) := hhex _ (Nat.mod_lt _ (by decide))
  simp only [unitDigits, List.mem_cons, List.not_mem_nil, or_false, not_or]
  exact ⟨hdigit _, hdigit _, hdigit _, hdigit _⟩

theorem return_notMem_writeUnit (n : Nat) : '\r' ∉ writeUnit n := by
  simp [writeUnit, return_notMem_unitDigits]

theorem return_notMem_writePair (n : Nat) : '\r' ∉ writePair n := by
  simp [writePair, return_notMem_writeUnit]

theorem return_notMem_writeChar (c : Char) : '\r' ∉ writeChar c := by
  unfold writeChar
  split
  case h_8 hreturn _ _ _ =>
    split
    · simpa using Ne.symm hreturn
    · unfold writeCoded
      split
      · exact return_notMem_writeUnit _
      · exact return_notMem_writePair _
  all_goals decide

theorem return_notMem_writeChars (cs : List Char) : '\r' ∉ writeChars cs := by
  induction cs with
  | nil => exact List.not_mem_nil
  | cons c cs ih =>
    rw [writeChars, List.mem_append, not_or]
    refine ⟨?_, ih⟩
    split
    · exact return_notMem_writePair _
    · exact return_notMem_writeChar c

theorem return_notMem_writeText (s : String) : '\r' ∉ writeText s := by
  simp [writeText, return_notMem_writeChars]

theorem Numeral.return_notMem (n : Numeral) : '\r' ∉ n.written := by
  have hfraction : '\r' ∉ n.fraction := by
    rcases n.isFraction with h | ⟨digits, h, -, hdigits⟩
    · simp [h]
    · simp [h, return_notMem_digits hdigits]
  have hexponent : '\r' ∉ n.exponent := by
    rcases n.isExponent with h | ⟨e, sign, digits, h, he, hsign, -, hdigits⟩
    · simp [h]
    · have hdigits := return_notMem_digits hdigits
      rcases he with rfl | rfl <;> rcases hsign with rfl | rfl | rfl <;> simp [h, hdigits]
  simp [Numeral.written, return_notMem_digits n.isWholePart.2.1, hfraction, hexponent]

theorem return_notMem_writeInt (n : Int) : '\r' ∉ writeInt n := by
  have hdigits (k : Nat) : '\r' ∉ Nat.toDigits 10 k :=
    return_notMem_digits (isWholePart_toDigits k).2.1
  cases n <;> simp [writeInt, hdigits]

theorem IsReal.return_notMem (h : IsReal text) : '\r' ∉ text := by
  rcases h with ⟨n, -, rfl | rfl⟩ | rfl | rfl | rfl
  · exact n.return_notMem
  · simp [n.return_notMem]
  all_goals decide +kernel

theorem return_notMem_writeField (key : String) (h : '\r' ∉ text) : '\r' ∉ writeField key text := by
  simp [writeField, return_notMem_writeText, h]

theorem return_notMem_moreParts (hgap : '\r' ∉ gap) (h : ∀ part ∈ parts, '\r' ∉ part) :
    '\r' ∉ moreParts gap parts := by
  simpa [moreParts, hgap] using h

/-- A written document has no line break that reading would replace. -/
theorem return_notMem_write (h : v.Faithful) : '\r' ∉ write v := by
  induction h with
  | null => decide +kernel
  | bool b => cases b <;> decide +kernel
  | int => exact return_notMem_writeInt _
  | real hreal => exact hreal.return_notMem
  | text s => exact return_notMem_writeText s
  | @list items _ ih =>
    cases items with
    | nil => decide
    | cons v items =>
      obtain ⟨hv, hitems⟩ := List.forall_mem_cons.1 ih
      have hmore : '\r' ∉ writeMoreItems items := by
        rw [writeMoreItems_eq]
        exact return_notMem_moreParts (by decide) (List.forall_mem_map.2 hitems)
      simp [write, writeItems, hv, hmore]
  | @object fields _ _ ih =>
    cases fields with
    | nil => decide
    | cons f fields =>
      obtain ⟨hv, hfields⟩ := List.forall_mem_cons.1 ih
      have hmore : '\r' ∉ writeMoreFields fields := by
        rw [writeMoreFields_eq]
        exact return_notMem_moreParts (by decide)
          (List.forall_mem_map.2 fun g hg => return_notMem_writeField g.1 (hfields g hg))
      simp [write, writeFields, return_notMem_writeText, hv, hmore]

/-! ### Documents that are read -/

theorem faithful_value (n : Numeral) (negative : Bool)
    (hlimit : n.IsInteger → n.whole.length ≤ Text.digitLimit) : (n.value negative).Faithful := by
  by_cases hinteger : n.IsInteger
  · rw [Numeral.value_of_isInteger hinteger]
    have hlength := length_toDigits_decimal n.isWholePart
    refine .int (Nat.le_trans ?_ (Nat.le_trans hlength (hlimit hinteger)))
    cases negative <;> simp
  · rw [Numeral.value_of_not_isInteger hinteger]
    refine .real (.inl ⟨n, hinteger, ?_⟩)
    cases negative <;> simp

theorem faithful_of_readWord (h : readWord text = some (v, rest)) : v.Faithful := by
  obtain ⟨⟨word, w⟩, hmem, hfound⟩ := List.exists_of_findSome?_eq_some h
  have hword : w = v := by
    dsimp only at hfound
    split at hfound <;> cases hfound
    rfl
  subst hword
  simp only [words, List.mem_cons, Prod.mk.injEq, List.not_mem_nil, or_false] at hmem
  rcases hmem with ⟨-, rfl⟩ | ⟨-, rfl⟩ | ⟨-, rfl⟩ | ⟨-, rfl⟩ | ⟨-, rfl⟩ | ⟨-, rfl⟩
  · exact .null
  · exact .bool true
  · exact .bool false
  · exact .real (.inr (.inl rfl))
  · exact .real (.inr (.inr (.inl rfl)))
  · exact .real (.inr (.inr (.inr rfl)))

theorem faithful_of_readUnsigned {negative : Bool}
    (h : readUnsigned negative text = .ok (v, rest)) : v.Faithful := by
  obtain ⟨n, -, rfl, hlimit⟩ := readUnsigned_eq_ok h
  exact faithful_value n negative hlimit

theorem faithful_of_readPlain (h : readPlain fuel text = .ok (v, rest)) : v.Faithful := by
  unfold readPlain at h
  split at h
  · rename_i tail
    cases hread : readText fuel tail with
    | none => simp [hread, orMalformed, malformed] at h
    | some found =>
      simp only [hread, Option.map_some, orMalformed, Except.ok.injEq, Prod.mk.injEq] at h
      rw [← h.1]
      exact .text _
  · split at h
    · rename_i found hword
      cases h
      exact faithful_of_readWord hword
    · split at h
      · exact faithful_of_readUnsigned h
      · exact faithful_of_readUnsigned h

/-- Fields that a faithful object can have. -/
structure FaithfulFields (fields : List (String × Value)) : Prop where
  nodup : (fields.map Prod.fst).Nodup
  faithful : ∀ f ∈ fields, f.2.Faithful

theorem mem_keys_put {key k : String} {v : Value} (h : k ∈ (Ordered.put key v fields).map Prod.fst) :
    k = key ∨ k ∈ fields.map Prod.fst := by
  induction fields with
  | nil => simpa using h
  | cons f fields ih =>
    rw [Ordered.put] at h
    split at h
    · exact .inr h
    · rcases List.mem_cons.1 h with rfl | h
      · exact .inr List.mem_cons_self
      · exact (ih h).imp_right (List.mem_cons_of_mem _)

theorem FaithfulFields.put (h : FaithfulFields fields) (key : String) (hv : v.Faithful) :
    FaithfulFields (Ordered.put key v fields) := by
  induction fields with
  | nil => exact ⟨by simp, by simpa using hv⟩
  | cons f fields ih =>
    obtain ⟨hnotin, hnodup⟩ := List.nodup_cons.1 h.nodup
    have hfields : FaithfulFields fields :=
      ⟨hnodup, fun g hg => h.faithful g (List.mem_cons_of_mem _ hg)⟩
    rw [Ordered.put]
    split
    · refine ⟨h.nodup, fun g hg => ?_⟩
      rcases List.mem_cons.1 hg with rfl | hg
      · exact hv
      · exact hfields.faithful g hg
    · rename_i hne
      refine ⟨List.nodup_cons.2 ⟨fun hmem => ?_, (ih hfields).nodup⟩, fun g hg => ?_⟩
      · rcases mem_keys_put hmem with heq | hmem
        · exact hne (beq_iff_eq.2 heq)
        · exact hnotin hmem
      · rcases List.mem_cons.1 hg with rfl | hg
        · exact h.faithful _ List.mem_cons_self
        · exact (ih hfields).faithful g hg

theorem map_put {α : Type} (f : α → Value) (key : String) (a : α) (pairs : List (String × α)) :
    (Ordered.put key a pairs).map (fun e => (e.1, f e.2)) =
      Ordered.put key (f a) (pairs.map fun e => (e.1, f e.2)) := by
  induction pairs with
  | nil => rfl
  | cons pair pairs ih =>
    rw [Ordered.put, List.map_cons, Ordered.put]
    split
    · rfl
    · rw [List.map_cons, ih]

/-- What the readers of documents, items and fields answer with is faithful. -/
theorem faithful_of_reading (fuel : Nat) :
    (∀ {room text v rest}, readValue fuel room text = .ok (v, rest) → v.Faithful) ∧
    (∀ {room text items rest}, readItems fuel room text = .ok (items, rest) →
      ∀ v ∈ items, v.Faithful) ∧
    (∀ {room before text fields rest}, readFields fuel room before text = .ok (fields, rest) →
      FaithfulFields before → FaithfulFields fields) := by
  induction fuel with
  | zero => exact ⟨nofun, nofun, nofun⟩
  | succ fuel ih =>
    obtain ⟨ihvalue, ihitems, ihfields⟩ := ih
    refine ⟨fun {room text v rest} h => ?_, fun {room text items rest} h => ?_,
      fun {room before text fields rest} h hbefore => ?_⟩
    · unfold readValue at h
      split at h
      · cases h
      · split at h
        · cases h
          exact .list nofun
        · obtain ⟨⟨items, tail⟩, hitems, heq⟩ := Outcome.map_eq_ok.1 h
          cases heq
          exact .list (ihitems hitems)
      · cases h
      · split at h
        · cases h
          exact .object .nil nofun
        · obtain ⟨⟨fields, tail⟩, hfields, heq⟩ := Outcome.map_eq_ok.1 h
          cases heq
          have hfaithful := ihfields hfields ⟨.nil, nofun⟩
          exact .object hfaithful.nodup hfaithful.faithful
      · exact faithful_of_readPlain h
    · unfold readItems at h
      split at h
      · cases h
      · rename_i v tail hvalue
        split at h
        · obtain ⟨⟨items, tail⟩, hitems, heq⟩ := Outcome.map_eq_ok.1 h
          cases heq
          exact List.forall_mem_cons.2 ⟨ihvalue hvalue, ihitems hitems⟩
        · cases h
          exact List.forall_mem_singleton.2 (ihvalue hvalue)
        · cases h
    · unfold readFields at h
      split at h
      · cases h
      · rename_i key tail hkey
        split at h
        · cases h
        · rename_i v tail hvalue
          have hput := hbefore.put key (ihvalue hvalue)
          dsimp only at h
          split at h
          · exact ihfields h hput
          · cases h
            exact hput
          · cases h

end Document

/-- Every document that is read is faithful. -/
theorem Value.faithful_of_parse {text : String} {v : Value} (h : Value.parse text = .ok v) :
    v.Faithful := by
  obtain ⟨⟨w, rest⟩, hread, h⟩ := Outcome.bind_eq_ok.1 h
  dsimp only at h
  split at h
  · cases h
    exact (faithful_of_reading _).1 hread
  · cases h

/-- **A faithful document reads back as itself from its written form.** -/
theorem Value.parse_render {v : Value} (h : v.Faithful) (hlevels : v.levels ≤ levelLimit) :
    Value.parse v.render = .ok v := by
  rw [Value.parse, Value.render, String.toList_ofList]
  exact (readsAs_write h hlevels).ofChars

/-! ### Parts of faithful documents -/

namespace Value

variable {v w : Value} {key : String} {items : List Value}

theorem faithful_ofText? (s : Option String) : (ofText? s).Faithful := by
  cases s with
  | none => exact .null
  | some s => exact .text s

theorem faithful_texts (items : List String) : (texts items).Faithful :=
  .list (List.forall_mem_map.2 fun s _ => .text s)

theorem Faithful.field (hv : v.Faithful) (h : v.field key = .ok w) : w.Faithful := by
  cases hv with
  | object _ hfields =>
    unfold Value.field at h
    dsimp only at h
    split at h
    · rename_i found hlookup
      cases h
      obtain ⟨before, after, rfl, -⟩ := List.lookup_eq_some_iff.1 hlookup
      exact hfields (key, w) (by simp)
    · cases h
  | _ => cases h

theorem Faithful.elements (hv : v.Faithful) (h : v.elements = .ok items) :
    ∀ w ∈ items, w.Faithful := by
  cases hv with
  | list hitems =>
    cases h
    exact hitems
  | text s =>
    cases h
    intro w hw
    obtain ⟨c, -, rfl⟩ := List.mem_map.1 hw
    exact .text _
  | object =>
    cases h
    intro w hw
    obtain ⟨f, -, rfl⟩ := List.mem_map.1 hw
    exact .text _
  | _ => cases h

theorem Faithful.fields {all : List (String × Value)} (hv : v.Faithful) (h : v.fields = .ok all) :
    ∀ f ∈ all, f.2.Faithful := by
  cases hv with
  | object _ hfields =>
    cases h
    exact hfields
  | _ => cases h

end Value

end KeywordCatalog
