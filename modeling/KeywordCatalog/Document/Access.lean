import KeywordCatalog.Fault
import KeywordCatalog.Text.Basic

/-!
# Taking documents apart

Tables and indexes come from files, so nothing about their shape is known until they are looked
at. Each function here asks one thing of a document and fails with the cause if the document is not
made for it: an item by its position, a field by its key, the elements to go through, membership,
and the use as a text.
-/

namespace KeywordCatalog.Value

open Text

/-- The document at a position of a list, or the character at a position of a text; a negative
position counts from the end. -/
def item (v : Value) (i : Int) : Except Fault Value :=
  let pick (items : List Value) : Except Fault Value :=
    let n := if i < 0 then i + items.length else i
    if n < 0 then .error .outOfRange
    else
      match items[n.toNat]? with
      | some w => .ok w
      | none => .error .outOfRange
  match v with
  | .list items => pick items
  | .text s => pick (s.toList.map fun c => .text (String.singleton c))
  | .object _ => .error (.missingKey (.int i))
  | _ => .error .wrongKind

/-- The document under a key of an object. -/
def field (v : Value) (key : String) : Except Fault Value :=
  match v with
  | .object fields =>
    match fields.lookup key with
    | some w => .ok w
    | none => .error (.missingKey (.text key))
  | _ => .error .wrongKind

/-- The documents to go through: the items of a list, the characters of a text, the keys of an
object. -/
def elements : Value → Except Fault (List Value)
  | .list items => .ok items
  | .text s => .ok (s.toList.map fun c => .text (String.singleton c))
  | .object fields => .ok (fields.map fun f => .text f.1)
  | _ => .error .wrongKind

/-- Whether a text is a key of an object, an item of a list or a part of a text. -/
def has (v : Value) (part : String) : Except Fault Bool :=
  match v with
  | .object fields => .ok (fields.any fun f => f.1 == part)
  | .list items => .ok (items.any (·.same (.text part)))
  | .text s => .ok (contains part.toList s.toList)
  | _ => .error .wrongKind

/-- The fields of an object. -/
def fields : Value → Except Fault (List (String × Value))
  | .object fields => .ok fields
  | _ => .error .missingMember

/-- The text that a document is. -/
def asText : Value → Except Fault String
  | .text s => .ok s
  | _ => .error .missingMember

/-- The text that a document is, where a text is put together with it or searched for in it. -/
def textOnly : Value → Except Fault String
  | .text s => .ok s
  | _ => .error .wrongKind

@[simp] theorem asText_text (s : String) : (text s).asText = .ok s := rfl

@[simp] theorem textOnly_text (s : String) : (text s).textOnly = .ok s := rfl

theorem eq_text_of_textOnly {v : Value} {s : String} (h : v.textOnly = .ok s) : v = .text s := by
  cases v <;> cases h
  rfl

@[simp] theorem elements_list (items : List Value) : (list items).elements = .ok items := rfl

end KeywordCatalog.Value
