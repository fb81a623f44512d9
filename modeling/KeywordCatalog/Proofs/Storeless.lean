import KeywordCatalog.Keyword.Equality
import KeywordCatalog.Document.Reader
import KeywordCatalog.Proofs.Outcome

/-!
# Faults that do not come from the store

A computation is storeless if none of its faults comes from the store. Taking a document apart,
reading one from a text, and comparing the names of keywords are storeless: whatever is wrong with
the text of a table or with a search pattern, it is not reported as a file that cannot be opened.
-/

namespace KeywordCatalog

namespace Outcome

variable {α β : Type} {x : Except Fault α} {fault : Fault}

/-- No fault of a computation comes from the store. -/
def Storeless (x : Except Fault α) : Prop := ∀ fault, x = .error fault → fault.isStorage = false

@[simp] theorem storeless_ok (a : α) : Storeless (.ok a) := nofun

@[simp] theorem storeless_pure (a : α) : Storeless (pure a) := nofun

@[simp] theorem storeless_error : Storeless (.error fault : Except Fault α) ↔
    fault.isStorage = false :=
  ⟨fun h => h fault rfl, fun h _ e => Except.error.inj e ▸ h⟩

theorem Storeless.bind_of_ok {f : α → Except Fault β} (h : Storeless x)
    (hf : ∀ a, x = .ok a → Storeless (f a)) : Storeless (x >>= f) := by
  cases x with
  | error fault => exact storeless_error.2 (h fault rfl)
  | ok a => exact hf a rfl

theorem Storeless.bind {f : α → Except Fault β} (h : Storeless x) (hf : ∀ a, Storeless (f a)) :
    Storeless (x >>= f) := h.bind_of_ok fun a _ => hf a

theorem Storeless.map (h : Storeless x) (f : α → β) : Storeless (x.map f) := by
  cases x with
  | error fault => exact storeless_error.2 (h fault rfl)
  | ok a => exact storeless_ok _

end Outcome

open Outcome

/-! ### Documents -/

namespace Value

theorem storeless_field (v : Value) (key : String) : Storeless (v.field key) := by
  unfold field
  (repeat' split) <;> simp [Fault.isStorage]

theorem storeless_elements (v : Value) : Storeless v.elements := by
  cases v <;> simp [elements, Fault.isStorage]

theorem storeless_has (v : Value) (part : String) : Storeless (v.has part) := by
  cases v <;> simp [has, Fault.isStorage]

theorem storeless_asText (v : Value) : Storeless v.asText := by
  cases v <;> simp [asText, Fault.isStorage]

theorem storeless_textOnly (v : Value) : Storeless v.textOnly := by
  cases v <;> simp [textOnly, Fault.isStorage]

end Value

namespace Document

@[simp] theorem storeless_malformed {α : Type} : Storeless (malformed : Reading α) := by
  simp [malformed, Fault.isStorage]

@[simp] theorem storeless_orMalformed {α : Type} (found : Option (α × List Char)) :
    Storeless (orMalformed found) := by
  cases found <;> simp [orMalformed]

theorem storeless_readUnsigned (negative : Bool) (text : List Char) :
    Storeless (readUnsigned negative text) := by
  unfold readUnsigned
  (repeat' split) <;> simp [Fault.isStorage]

theorem storeless_readPlain (fuel : Nat) (text : List Char) : Storeless (readPlain fuel text) := by
  unfold readPlain
  (repeat' split) <;> simp [storeless_readUnsigned]

theorem storeless_readKey (fuel : Nat) (text : List Char) : Storeless (readKey fuel text) := by
  unfold readKey
  (repeat' split) <;> simp

/-- Reading a document, the items of a list or the fields of an object. -/
theorem storeless_readValue (fuel : Nat) :
    (∀ room text, Storeless (readValue fuel room text)) ∧
      (∀ room text, Storeless (readItems fuel room text)) ∧
      ∀ room fields text, Storeless (readFields fuel room fields text) := by
  induction fuel with
  | zero => simp [readValue, readItems, readFields]
  | succ fuel ih =>
    obtain ⟨hvalue, hitems, hfields⟩ := ih
    refine ⟨fun room text => ?_, fun room text => ?_, fun room fields text => ?_⟩
    · unfold readValue
      (repeat' split) <;>
        simp [Fault.isStorage, (hitems _ _).map, (hfields _ _ _).map, storeless_readPlain]
    · unfold readItems
      split
      · rename_i hfault
        exact storeless_error.2 (hvalue _ _ _ hfault)
      · (repeat' split) <;> simp [(hitems _ _).map]
    · unfold readFields
      split
      · rename_i hfault
        exact storeless_error.2 (storeless_readKey _ _ _ hfault)
      · split
        · rename_i hfault
          exact storeless_error.2 (hvalue _ _ _ hfault)
        · (repeat' split) <;> simp [hfields]

end Document

theorem Value.storeless_parse (text : String) : Storeless (Value.parse text) := by
  refine ((Document.storeless_readValue _).1 _ _).bind fun read => ?_
  dsimp only
  split
  · exact storeless_pure _
  · exact storeless_error.2 rfl

/-! ### Patterns -/

namespace Pattern

@[simp] theorem storeless_malformed {α : Type} : Storeless (malformed : Except Fault α) := by
  simp [malformed, Fault.isStorage]

@[simp] theorem storeless_orMalformed {α : Type} (found : Option α) :
    Storeless (orMalformed found) := by
  cases found <;> simp [orMalformed]

theorem storeless_readRounds (digits : List Char) : Storeless (readRounds digits) := by
  unfold readRounds
  (repeat' split) <;> simp [Fault.isStorage]

namespace State

variable (s : State)

theorem storeless_nextBranch : Storeless s.nextBranch := by
  unfold nextBranch
  split <;> simp

theorem storeless_close : Storeless s.close := by
  unfold close
  (repeat' split) <;> simp

theorem storeless_repeatLast (least : Nat) (most : Option Nat) (rest : List Char) :
    Storeless (s.repeatLast least most rest) := by
  unfold repeatLast
  dsimp only
  (repeat' split) <;> simp

theorem storeless_repeatCounted (lo : List Char) (hi : Option (List Char)) (rest : List Char) :
    Storeless (s.repeatCounted lo hi rest) := by
  unfold repeatCounted
  split
  · simp
  refine (storeless_readRounds lo).bind fun least => ?_
  split
  · exact s.storeless_repeatLast _ _ _
  refine (storeless_readRounds _).bind fun most => ?_
  split
  · simp
  · exact s.storeless_repeatLast _ _ _

theorem storeless_readCount (rest : List Char) : Storeless (s.readCount rest) := by
  unfold readCount
  dsimp only
  (repeat' split) <;> simp [storeless_repeatCounted]

theorem storeless_refer (number : Nat) (rest : List Char) : Storeless (s.refer number rest) := by
  unfold refer
  split <;> simp

theorem storeless_readNumber (d : Char) (rest : List Char) : Storeless (s.readNumber d rest) := by
  unfold readNumber
  dsimp only
  (repeat' split) <;> simp [storeless_refer]

theorem storeless_readEscape (text : List Char) : Storeless (s.readEscape text) := by
  unfold readEscape
  (repeat' split) <;> simp [storeless_readNumber]
  exact (storeless_orMalformed _).bind fun _ => storeless_pure _

theorem storeless_openScope (on off rest : List Char) : Storeless (s.openScope on off rest) := by
  unfold openScope
  split <;> simp

theorem storeless_readOptions (text : List Char) : Storeless (s.readOptions text) := by
  unfold readOptions
  dsimp only
  (repeat' split) <;> simp [storeless_openScope]

theorem storeless_openGiven (text : List Char) : Storeless (s.openGiven text) := by
  unfold openGiven
  refine (storeless_orMalformed _).bind fun rest => (storeless_orMalformed _).bind fun found => ?_
  dsimp only
  split <;> simp

theorem storeless_openNamed (text : List Char) : Storeless (s.openNamed text) := by
  unfold openNamed
  refine (storeless_orMalformed _).bind fun rest => ?_
  split <;> simp

theorem storeless_referNamed (text : List Char) : Storeless (s.referNamed text) := by
  unfold referNamed
  refine (storeless_orMalformed _).bind fun rest => ?_
  split
  · exact (storeless_orMalformed _).bind fun number => s.storeless_refer number rest
  · simp

theorem storeless_readOpening (text : List Char) : Storeless (s.readOpening text) := by
  unfold readOpening
  split <;> simp [(storeless_orMalformed _).map, storeless_openGiven, storeless_openNamed,
    storeless_referNamed, storeless_readOptions]

theorem storeless_step (c : Char) (rest : List Char) : Storeless (s.step c rest) := by
  unfold step
  dsimp only
  (repeat' split) <;> simp [(storeless_orMalformed _).map, storeless_readEscape,
    s.storeless_nextBranch.map, s.storeless_close.map, storeless_readOpening, storeless_repeatLast,
    storeless_readCount]
  exact (storeless_orMalformed _).bind fun _ => storeless_pure _

theorem storeless_read (fuel : Nat) (s : State) (text : List Char) :
    Storeless (s.read fuel text) := by
  induction fuel generalizing s text with
  | zero => cases text <;> simp [read]
  | succ fuel ih =>
    cases text with
    | nil => simp
    | cons c rest =>
      unfold read
      split
      · simp
      split
      · split
        · simp [Fault.isStorage]
        · exact ih _ _
      · rename_i hfault
        exact storeless_error.2 (s.storeless_step c rest _ hfault)

theorem storeless_finish : Storeless s.finish := by
  unfold finish
  (repeat' split) <;> simp [Fault.isStorage]

end State

theorem storeless_parseWith (o : Options) (text : List Char) : Storeless (parseWith o text) := by
  unfold parseWith
  split
  · exact State.storeless_finish _
  · rename_i hfault
    exact storeless_error.2 (State.storeless_read _ _ _ _ hfault)

theorem storeless_find (p : Pattern) (text : List Char) : Storeless (p.find text) := by
  unfold find
  (repeat' split) <;> simp [Fault.isStorage]

end Pattern

theorem Keyword.storeless_isNamed (keyword candidate : String) :
    Storeless (Keyword.isNamed keyword candidate) := by
  unfold Keyword.isNamed
  split
  · refine Storeless.bind ?_ fun p => (p.storeless_find _).map _
    exact (Pattern.storeless_parseWith _ _).bind fun _ => storeless_pure _
  · exact storeless_ok _

theorem Keyword.storeless_isNamedBy (keyword candidate : Value) :
    Storeless (Keyword.isNamedBy keyword candidate) :=
  (candidate.storeless_has _).bind fun _ => keyword.storeless_asText.bind fun _ =>
    candidate.storeless_asText.bind fun _ => Keyword.storeless_isNamed _ _

end KeywordCatalog
