/-!
# Texts as lists of characters

Cuts with signed bounds, searching, stripping and joining. A text is a list of code points, and
every position and length counts code points.
-/

namespace KeywordCatalog.Text

/-- The position that a signed bound means in a text of length `n`: a negative bound counts from
the end, and a bound outside the text is moved to its nearer end. -/
def bound (n : Nat) (i : Int) : Nat :=
  if i < 0 then (i + n).toNat else min i.toNat n

/-- The text before a signed bound. -/
def upTo (i : Int) (text : List Char) : List Char := text.take (bound text.length i)

/-- The text from a signed bound on. -/
def startingAt (i : Int) (text : List Char) : List Char := text.drop (bound text.length i)

/-- The text between two signed bounds, empty if they are not in order. -/
def between (i j : Int) (text : List Char) : List Char :=
  (text.take (bound text.length j)).drop (bound text.length i)

/-- Whether `part` occurs in a text. -/
def contains (part : List Char) : List Char → Bool
  | [] => part.isEmpty
  | c :: rest => part.isPrefixOf (c :: rest) || contains part rest

/-- A text without the characters at its end that satisfy `p`. -/
def dropTrailing (p : Char → Bool) (text : List Char) : List Char :=
  (text.reverse.dropWhile p).reverse

/-- A text without the characters at both ends that satisfy `p`. -/
def trim (p : Char → Bool) (text : List Char) : List Char :=
  dropTrailing p (text.dropWhile p)

/-- The longest end of a text whose characters satisfy `p`. -/
def trailing (p : Char → Bool) (text : List Char) : List Char :=
  (text.reverse.takeWhile p).reverse

/-- A text without the line break that may end it. -/
def dropFinalBreak (text : List Char) : List Char :=
  match text.getLast? with
  | some '\n' => text.dropLast
  | _ => text

/-- The part of a text before the first `mark`, and the part after it if the mark occurs. -/
def cutAt (mark : Char) : List Char → List Char × Option (List Char)
  | [] => ([], none)
  | c :: rest =>
    if c == mark then ([], some rest)
    else let (head, tail) := cutAt mark rest; (c :: head, tail)

/-- The part of a text before the last `mark`, if the mark occurs. -/
def beforeLast (mark : Char) : List Char → Option (List Char)
  | [] => none
  | c :: rest =>
    match beforeLast mark rest with
    | some head => some (c :: head)
    | none => if c == mark then some [] else none

/-- The lines of a text, without the breaks between them. -/
def lines (text : List Char) : List (List Char) := text.splitOn '\n'

/-- A text with something else in place of every piece that `find` sees, after some characters
that are skipped. A piece is given by its length, which counts as one if it is zero, and by what
stands for it. -/
def substituteFrom (find : List Char → Option (Nat × List Char)) : Nat → List Char → List Char
  | _, [] => []
  | skip + 1, _ :: rest => substituteFrom find skip rest
  | 0, c :: rest =>
    match find (c :: rest) with
    | some (length, form) => form ++ substituteFrom find (length - 1) rest
    | none => c :: substituteFrom find 0 rest

/-- A text with something else in place of every piece that `find` sees. -/
def substitute (find : List Char → Option (Nat × List Char)) (text : List Char) : List Char :=
  substituteFrom find 0 text

/-- A text without the occurrences of `part`. -/
def erase (part text : List Char) : List Char :=
  substitute (fun rest => if part.isPrefixOf rest then some (part.length, []) else none) text

@[simp] theorem bound_zero (n : Nat) : bound n 0 = 0 := by simp [bound]

theorem bound_natCast (n i : Nat) : bound n i = min i n := by
  rw [bound, if_neg (by omega), Int.toNat_natCast]

end KeywordCatalog.Text
