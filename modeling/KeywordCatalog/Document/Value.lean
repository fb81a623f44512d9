/-!
# Documents

The values that tables and indexes are written as: null, truth values, numbers, texts, lists and
objects. The fields of an object stand in the order in which they were first put there.

`Value.same` is the equality of the catalog: truth values count as the numbers zero and one, and
the order of an object's fields does not matter.
-/

namespace KeywordCatalog

/-- A document. -/
inductive Value
  | null
  | bool (b : Bool)
  | int (n : Int)
  /-- A number with a fraction or an exponent, as it is written. -/
  | real (literal : String)
  | text (s : String)
  | list (items : List Value)
  | object (fields : List (String × Value))
deriving Repr, Inhabited

namespace Value

mutual

/-- Decides whether two documents are identical. -/
def decEq : (a b : Value) → Decidable (a = b)
  | .null, .null => .isTrue rfl
  | .bool a, .bool b => if h : a = b then .isTrue (by rw [h]) else .isFalse (by simpa using h)
  | .int a, .int b => if h : a = b then .isTrue (by rw [h]) else .isFalse (by simpa using h)
  | .real a, .real b => if h : a = b then .isTrue (by rw [h]) else .isFalse (by simpa using h)
  | .text a, .text b => if h : a = b then .isTrue (by rw [h]) else .isFalse (by simpa using h)
  | .list a, .list b =>
    match decEqItems a b with
    | .isTrue h => .isTrue (by rw [h])
    | .isFalse h => .isFalse (by simpa using h)
  | .object a, .object b =>
    match decEqFields a b with
    | .isTrue h => .isTrue (by rw [h])
    | .isFalse h => .isFalse (by simpa using h)
  | .null, .bool _ | .null, .int _ | .null, .real _ | .null, .text _ | .null, .list _
  | .null, .object _ | .bool _, .null | .bool _, .int _ | .bool _, .real _ | .bool _, .text _
  | .bool _, .list _ | .bool _, .object _ | .int _, .null | .int _, .bool _ | .int _, .real _
  | .int _, .text _ | .int _, .list _ | .int _, .object _ | .real _, .null | .real _, .bool _
  | .real _, .int _ | .real _, .text _ | .real _, .list _ | .real _, .object _ | .text _, .null
  | .text _, .bool _ | .text _, .int _ | .text _, .real _ | .text _, .list _ | .text _, .object _
  | .list _, .null | .list _, .bool _ | .list _, .int _ | .list _, .real _ | .list _, .text _
  | .list _, .object _ | .object _, .null | .object _, .bool _ | .object _, .int _
  | .object _, .real _ | .object _, .text _ | .object _, .list _ => .isFalse nofun

/-- Decides whether two lists of documents are identical. -/
def decEqItems : (a b : List Value) → Decidable (a = b)
  | [], [] => .isTrue rfl
  | a :: as, b :: bs =>
    match decEq a b, decEqItems as bs with
    | .isTrue h, .isTrue hs => .isTrue (by rw [h, hs])
    | .isFalse h, _ => .isFalse (by simp [h])
    | _, .isFalse h => .isFalse (by simp [h])
  | [], _ :: _ | _ :: _, [] => .isFalse nofun

/-- Decides whether two lists of fields are identical. -/
def decEqFields : (a b : List (String × Value)) → Decidable (a = b)
  | [], [] => .isTrue rfl
  | (k, a) :: as, (l, b) :: bs =>
    if hk : k = l then
      match decEq a b, decEqFields as bs with
      | .isTrue h, .isTrue hs => .isTrue (by rw [h, hs, hk])
      | .isFalse h, _ => .isFalse (by simp [h])
      | _, .isFalse h => .isFalse (by simp [h])
    else .isFalse (by simp [hk])
  | [], _ :: _ | _ :: _, [] => .isFalse nofun

end

instance : DecidableEq Value := decEq

/-- The number that a truth value counts as. -/
def ofTruth (b : Bool) : Int := if b then 1 else 0

mutual

/-- Whether two documents are equal. -/
def same : Value → Value → Bool
  | .null, .null => true
  | .bool a, .bool b => a == b
  | .bool a, .int b => ofTruth a == b
  | .int a, .bool b => a == ofTruth b
  | .int a, .int b => a == b
  | .real a, .real b => a == b
  | .text a, .text b => a == b
  | .list a, .list b => sameItems a b
  | .object a, .object b => a.length == b.length && sameFields a b
  | _, _ => false

/-- Whether two lists of documents are equal. -/
def sameItems : List Value → List Value → Bool
  | [], [] => true
  | a :: as, b :: bs => a.same b && sameItems as bs
  | _, _ => false

/-- Whether every field of one list occurs in another with an equal document. -/
def sameFields : List (String × Value) → List (String × Value) → Bool
  | [], _ => true
  | (key, v) :: rest, other =>
    (match other.lookup key with
      | some w => v.same w
      | none => false) && sameFields rest other

end

/-- Whether a document counts as true: null, zero and everything empty do not. -/
def truthy : Value → Bool
  | .null => false
  | .bool b => b
  | .int n => n != 0
  | .real literal => literal.toList.any fun c => '1' ≤ c && c ≤ '9'
  | .text s => !s.isEmpty
  | .list items => !items.isEmpty
  | .object fields => !fields.isEmpty

mutual

/-- The number of lists and objects that stand inside each other in a document. -/
def levels : Value → Nat
  | .list items => itemLevels items + 1
  | .object fields => fieldLevels fields + 1
  | _ => 0

/-- The largest number of levels of some documents. -/
def itemLevels : List Value → Nat
  | [] => 0
  | v :: rest => max v.levels (itemLevels rest)

/-- The largest number of levels of some fields. -/
def fieldLevels : List (String × Value) → Nat
  | [] => 0
  | (_, v) :: rest => max v.levels (fieldLevels rest)

end

/-- A list of texts. -/
def texts (items : List String) : Value := .list (items.map .text)

/-- A text that may be missing. -/
def ofText? : Option String → Value
  | some s => .text s
  | none => .null

@[simp] theorem same_text (a b : String) : (text a).same (text b) = (a == b) := rfl

@[simp] theorem truthy_null : null.truthy = false := rfl

@[simp] theorem truthy_text (s : String) : (text s).truthy = !s.isEmpty := rfl

end Value

end KeywordCatalog
