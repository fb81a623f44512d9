/-!
# Marks of groups

While a pattern is matched, the place where a group opens and the place where it closes are marked.
The marks stand in one list: group `k` has the entries `2 k - 2` for its start and `2 k - 1` for its
end, and the list reaches as far as the last entry that was marked.

Both marks of a group are set on their own. So inside its second round a group has its new start and
its old end; it counts as set only if the end is not before the start (`Marks.span?`).

Ways to match that fail may leave marks behind. A choice inside a repetition puts back all the marks
it started with, any other choice only forgets the entries that were added (`Marks.back`).
-/

namespace KeywordCatalog.Pattern

/-- A place in a text. -/
structure Place where
  /-- The number of characters before the place. -/
  pos : Nat
  /-- The characters before the place, the nearest first. -/
  before : List Char
  /-- The characters after the place. -/
  after : List Char
deriving DecidableEq, Repr

/-- The text from one place to a later one. -/
def Place.textTo (p later : Place) : List Char := p.after.take (later.pos - p.pos)

/-- The marks of groups. -/
abbrev Marks := List (Option Place)

namespace Marks

/-- The marks with a place at an entry; entries in between are left open. -/
def put : Nat → Place → Marks → Marks
  | 0, p, [] => [some p]
  | 0, p, _ :: rest => some p :: rest
  | n + 1, p, [] => none :: put n p []
  | n + 1, p, m :: rest => m :: put n p rest

/-- The entry for the start of a group. -/
def startEntry (number : Nat) : Nat := 2 * number - 2

/-- The entry for the end of a group. -/
def endEntry (number : Nat) : Nat := 2 * number - 1

/-- Marks the start of a group. -/
def openGroup (number : Nat) (p : Place) (m : Marks) : Marks := m.put (startEntry number) p

/-- Marks the end of a group. -/
def closeGroup (number : Nat) (p : Place) (m : Marks) : Marks := m.put (endEntry number) p

/-- The place at an entry. -/
def place? (m : Marks) (entry : Nat) : Option Place := (m[entry]?).join

/-- The start and the end of a group, if both are marked. -/
def ends? (m : Marks) (number : Nat) : Option (Place × Place) :=
  match m.place? (startEntry number), m.place? (endEntry number) with
  | some start, some stop => some (start, stop)
  | _, _ => none

/-- The start and the end of a group that counts as set. -/
def span? (m : Marks) (number : Nat) : Option (Place × Place) :=
  (m.ends? number).filter fun (start, stop) => start.pos ≤ stop.pos

/-- The marks after a way to match has failed, `saved` being those before it and `left` those that
it left. -/
def back (inside : Bool) (saved left : Marks) : Marks :=
  if inside then saved else left.take saved.length

@[simp] theorem back_inside (saved left : Marks) : back true saved left = saved := rfl

@[simp] theorem put_nil_zero (p : Place) : put 0 p [] = [some p] := rfl

end Marks

end KeywordCatalog.Pattern
