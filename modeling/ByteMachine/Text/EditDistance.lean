import ByteMachine.Text.Basic

/-!
# Edit distance

The distance between two texts is the least number of single characters to insert, delete or
replace that turns one into the other.  It is computed row by row: a row holds the distances of one
beginning of the longer text from every beginning of the shorter one.
-/

namespace ByteMachine
namespace Text

/-- The rest of a row, where `left` is the entry before it and the list pairs each character of the
shorter text with the two entries above it, first the one up to its left. -/
def distanceRowFrom (c : Char) (left : Nat) : Text → List Nat → List Nat
  | d :: text, corner :: above :: row =>
      let entry := min (min (above + 1) (left + 1)) (corner + if c = d then 0 else 1)
      entry :: distanceRowFrom c entry text (above :: row)
  | _, _ => []

/-- The row after one more character `c` of the longer text. -/
def distanceRow (shorter : Text) (row : List Nat) (c : Char) : List Nat :=
  match row with
  | [] => []
  | corner :: _ => (corner + 1) :: distanceRowFrom c (corner + 1) shorter row

/-- The last row for a longer and a shorter text. -/
def lastDistanceRow (longer shorter : Text) : List Nat :=
  longer.foldl (distanceRow shorter) (List.range (shorter.length + 1))

/-- The edit distance of two texts. -/
def editDistance (first second : Text) : Nat :=
  if first.length < second.length then (lastDistanceRow second first).getLastD 0
  else (lastDistanceRow first second).getLastD 0

end Text
end ByteMachine
