/-!
# Sets and maps of code points

A character property is a list of code point ranges; a character map is a list of strided runs that
share one displacement. `Ranges.has` and `Shifts.apply` look a character up.
-/

namespace KeywordCatalog.Text

/-- Closed ranges of code points, by their first and last members. -/
abbrev Ranges := List (Nat × Nat)

/-- Ranges from a code point on, by how many code points lie before each range and how many in it. -/
def Ranges.after (start : Nat) : List Nat → Ranges
  | gap :: size :: rest =>
    (start + gap, start + gap + size - 1) :: Ranges.after (start + gap + size) rest
  | _ => []

/-- Whether a code point lies in one of the ranges. -/
def Ranges.has (ranges : Ranges) (n : Nat) : Bool :=
  ranges.any fun r => r.1 ≤ n && n ≤ r.2

/-- Whether one of the ranges shares a code point with the closed range from `lo` to `hi`. -/
def Ranges.meets (ranges : Ranges) (lo hi : Nat) : Bool :=
  ranges.any fun r => r.1 ≤ hi && lo ≤ r.2

/-- Runs `(first, last, step, displacement)` of code points that a map moves alike. -/
abbrev Shifts := List (Nat × Nat × Nat × Int)

/-- Shifts from a code point on, each by how many code points lie before its run, the step of the run,
how many code points lie on it, and their displacement. -/
def Shifts.after (start : Nat) : List (Nat × Nat × Nat × Int) → Shifts
  | [] => []
  | (gap, step, size, shift) :: rest =>
    let last := start + gap + step * (size - 1)
    (start + gap, last, step, shift) :: Shifts.after (last + 1) rest

/-- The image of a code point; one on no run stays as it is. -/
def Shifts.apply : Shifts → Nat → Nat
  | [], n => n
  | (first, last, step, shift) :: rest, n =>
    if first ≤ n && n ≤ last && (n - first) % step == 0 then (n + shift).toNat
    else Shifts.apply rest n

/-- The code points on the runs that the map moves to `m`. -/
def Shifts.sources (shifts : Shifts) (m : Nat) : List Nat :=
  shifts.filterMap fun (first, last, step, shift) =>
    let n := (m - shift).toNat
    if (n : Int) + shift == m && first ≤ n && n ≤ last && (n - first) % step == 0 then some n
    else none

@[simp] theorem Shifts.apply_nil (n : Nat) : Shifts.apply [] n = n := rfl

end KeywordCatalog.Text
