/-! # Ranges of code points

A set of characters given by its maximal intervals, in ascending order, with membership by
bisection. -/

namespace NegativeCompile.Text

/-- A set of code points as closed intervals in ascending order. -/
structure Ranges where
  /-- The intervals, each as its first and last code point. -/
  intervals : Array (Nat × Nat)

namespace Ranges

/-- Bisects the intervals with index from `low` to below `high`. -/
def containsBetween (table : Ranges) (code low high : Nat) : Bool :=
  if low < high then
    let middle := (low + high) / 2
    match table.intervals[middle]? with
    | none => false
    | some (first, last) =>
      if code < first then table.containsBetween code low middle
      else if last < code then table.containsBetween code (middle + 1) high
      else true
  else false
termination_by high - low

/-- Whether a code point lies in one of the intervals. -/
def contains (table : Ranges) (code : Nat) : Bool :=
  table.containsBetween code 0 table.intervals.size

/-- Whether some code point from `first` to `last` lies in one of the intervals. -/
def meets (table : Ranges) (first last : Nat) : Bool :=
  table.intervals.any fun (low, high) => low ≤ last && first ≤ high

end Ranges

end NegativeCompile.Text
