import ByteMachine.Text.Order

/-!
# Resemblance of texts

Two texts resemble each other by the characters they share: a longest common piece, and after it
the pieces shared by what stands before it and by what stands after it.  The share of these
characters in both texts together is compared as a fraction, so that nothing is rounded.
-/

namespace ByteMachine
namespace Text

/-- Number of characters with which both texts start. -/
def commonStart : Text → Text → Nat
  | c :: left, d :: right => if c = d then commonStart left right + 1 else 0
  | _, _ => 0

/-- A piece that two texts share. -/
structure SharedPiece where
  /-- Where it starts in the first text. -/
  left : Nat
  /-- Where it starts in the second text. -/
  right : Nat
  /-- Its length. -/
  size : Nat
  deriving DecidableEq, Repr

/-- The first one of the longest pieces. -/
def longestOf (pieces : List SharedPiece) : SharedPiece :=
  pieces.foldl (fun best piece => if best.size < piece.size then piece else best) ⟨0, 0, 0⟩

/-- The longest piece that two texts share; of several the one that starts first in the first text,
and of these the one that starts first in the second. -/
def longestShared (left right : Text) : SharedPiece :=
  longestOf <|
    (List.range left.length).flatMap fun i =>
      (List.range right.length).map fun j =>
        ⟨i, j, commonStart (left.drop i) (right.drop j)⟩

/-- Number of characters in shared pieces; each round takes a piece out of the first text. -/
def sharedWithin : Nat → Text → Text → Nat
  | 0, _, _ => 0
  | rounds + 1, left, right =>
      let piece := longestShared left right
      if piece.size = 0 then 0
      else
        piece.size +
          sharedWithin rounds (left.take piece.left) (right.take piece.right) +
          sharedWithin rounds (left.drop (piece.left + piece.size))
            (right.drop (piece.right + piece.size))

/-- Number of characters that two texts share. -/
def shared (left right : Text) : Nat :=
  sharedWithin left.length left right

/-- Whether at least three fifths of both texts are shared.  No more than the shorter one can be, so
that texts of very different lengths need not be compared. -/
def resembles (candidate text : Text) : Bool :=
  let both := 3 * (candidate.length + text.length)
  both ≤ 10 * min candidate.length text.length && both ≤ 10 * shared candidate text

/-- Whether the first of two candidates comes after the second: it resembles the text less, or as
much and its name comes first. -/
def isWorse (text left right : Text) : Bool :=
  let leftShare := shared left text * (right.length + text.length)
  let rightShare := shared right text * (left.length + text.length)
  leftShare < rightShare || (leftShare == rightShare && left.precedes right)

/-- The candidates that resemble a text most, at most three of them and the best first. -/
def closest (text : Text) (candidates : List Text) : List Text :=
  ((candidates.filter (resembles · text)).mergeSort fun left right =>
    !isWorse text left right).take 3

end Text
end ByteMachine
