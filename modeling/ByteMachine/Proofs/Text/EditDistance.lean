import ByteMachine.Text.EditDistance

/-!
# Edit distances row by row

The rows that are computed for two texts hold the differences of a beginning of the one from the
beginnings of the other, where the difference of two texts is told by what becomes of their last
characters.  Texts that are one edit apart differ by at most one.
-/

namespace ByteMachine
namespace Text

/-! ## Differences -/

/-- The least number of single characters to insert, delete or replace that turns one text into
another, where both are given last character first: the last character of either text is an extra
one, or those of both belong together. -/
def difference : Text → Text → Nat
  | [], right => right.length
  | left, [] => left.length
  | c :: left, d :: right =>
      min (min (difference left (d :: right) + 1) (difference (c :: left) right + 1))
        (difference left right + if c = d then 0 else 1)
termination_by left right => left.length + right.length

theorem difference_nil_left (right : Text) : difference [] right = right.length := by
  rw [difference]

theorem difference_nil_right (left : Text) : difference left [] = left.length := by
  cases left <;> simp [difference]

theorem difference_cons_cons (c d : Char) (left right : Text) :
    difference (c :: left) (d :: right) =
      min (min (difference left (d :: right) + 1) (difference (c :: left) right + 1))
        (difference left right + if c = d then 0 else 1) := by
  rw [difference]

theorem difference_cons_left_le (c : Char) (left right : Text) :
    difference (c :: left) right ≤ difference left right + 1 := by
  cases right with
  | nil => simp [difference_nil_right]
  | cons d right =>
      rw [difference_cons_cons]
      exact Nat.le_trans (Nat.min_le_left _ _) (Nat.min_le_left _ _)

theorem difference_cons_right_le (d : Char) (left right : Text) :
    difference left (d :: right) ≤ difference left right + 1 := by
  cases left with
  | nil => simp [difference_nil_left]
  | cons c left =>
      rw [difference_cons_cons]
      exact Nat.le_trans (Nat.min_le_left _ _) (Nat.min_le_right _ _)

theorem difference_cons_cons_le (c d : Char) (left right : Text) :
    difference (c :: left) (d :: right) ≤ difference left right + if c = d then 0 else 1 := by
  rw [difference_cons_cons]
  exact Nat.min_le_right _ _

theorem difference_append_le (text left right : Text) :
    difference (text ++ left) (text ++ right) ≤ difference left right := by
  induction text with
  | nil => exact Nat.le_refl _
  | cons c rest induction =>
      have matched := difference_cons_cons_le c c (rest ++ left) (rest ++ right)
      rw [if_pos rfl] at matched
      exact Nat.le_trans matched induction

theorem difference_self (text : Text) : difference text text = 0 := by
  have same := difference_append_le text [] []
  rw [List.append_nil, difference_nil_left] at same
  exact Nat.le_zero.mp same

/-! ## Rows -/

/-- The row for a beginning of the longer text from some place on: its differences from the beginnings
of the shorter text, of which one has been passed and the rest is still to come. -/
def differences (front passed : Text) : Text → List Nat
  | [] => [difference front passed]
  | d :: rest => difference front passed :: differences front (d :: passed) rest

theorem differences_eq_cons (front passed rest : Text) :
    differences front passed rest =
      difference front passed :: (differences front passed rest).tail := by
  cases rest <;> rfl

/-- The first row counts the characters that have been passed. -/
theorem differences_nil (passed rest : Text) :
    differences [] passed rest = List.range' passed.length (rest.length + 1) := by
  induction rest generalizing passed with
  | nil =>
      rw [differences, difference_nil_left]
      rfl
  | cons d rest induction =>
      rw [differences, induction, difference_nil_left, List.length_cons]
      rfl

theorem distanceRowFrom_eq (c : Char) (front passed rest : Text) :
    distanceRowFrom c (difference (c :: front) passed) rest (differences front passed rest) =
      (differences (c :: front) passed rest).tail := by
  induction rest generalizing passed with
  | nil => rfl
  | cons d rest induction =>
      have next := induction (d :: passed)
      rw [differences_eq_cons front (d :: passed), difference_cons_cons] at next
      rw [differences, differences_eq_cons front (d :: passed), distanceRowFrom, next, differences,
        List.tail_cons, differences_eq_cons (c :: front), difference_cons_cons, List.tail_cons]

theorem distanceRow_eq (c : Char) (front shorter : Text) :
    distanceRow shorter (differences front [] shorter) c = differences (c :: front) [] shorter := by
  have first : difference (c :: front) [] = difference front [] + 1 := by
    rw [difference_nil_right, difference_nil_right, List.length_cons]
  have row := distanceRowFrom_eq c front [] shorter
  rw [first, differences_eq_cons front] at row
  rw [differences_eq_cons front, distanceRow, row, differences_eq_cons (c :: front), first]
  rfl

theorem lastDistanceRow_eq (longer shorter : Text) :
    lastDistanceRow longer shorter = differences longer.reverse [] shorter := by
  have all (front : Text) : longer.foldl (distanceRow shorter) (differences front [] shorter) =
      differences (longer.reverse ++ front) [] shorter := by
    induction longer generalizing front with
    | nil => rfl
    | cons c rest induction =>
        rw [List.foldl_cons, distanceRow_eq, induction, List.reverse_cons, List.append_assoc]
        rfl
  rw [lastDistanceRow, List.range_eq_range']
  have rows := all []
  rw [differences_nil, List.append_nil] at rows
  exact rows

theorem getLastD_differences (front passed rest : Text) :
    (differences front passed rest).getLastD 0 = difference front (rest.reverse ++ passed) := by
  induction rest generalizing passed with
  | nil => rfl
  | cons d rest induction =>
      have next := induction (d :: passed)
      rw [differences_eq_cons] at next
      rw [differences, differences_eq_cons front (d :: passed), List.getLastD_cons,
        List.reverse_cons, List.append_assoc]
      exact next

/-- The last entry of the last row is the difference of the texts. -/
theorem editDistance_eq (first second : Text) :
    editDistance first second =
      if first.length < second.length then difference second.reverse first.reverse
      else difference first.reverse second.reverse := by
  rw [editDistance, lastDistanceRow_eq, lastDistanceRow_eq, getLastD_differences,
    getLastD_differences, List.append_nil, List.append_nil]

/-! ## Single edits -/

/-- One text is turned into another by inserting, deleting or replacing one character. -/
inductive OneEdit : Text → Text → Prop
  /-- A character is inserted. -/
  | insert (front back : Text) (c : Char) : OneEdit (front ++ back) (front ++ c :: back)
  /-- A character is deleted. -/
  | delete (front back : Text) (c : Char) : OneEdit (front ++ c :: back) (front ++ back)
  /-- A character is replaced. -/
  | replace (front back : Text) (c d : Char) : OneEdit (front ++ c :: back) (front ++ d :: back)

namespace OneEdit

variable {left right : Text}

theorem symm (edit : OneEdit left right) : OneEdit right left := by
  cases edit with
  | insert front back c => exact delete front back c
  | delete front back c => exact insert front back c
  | replace front back c d => exact replace front back d c

theorem map (edit : OneEdit left right) (f : Char → Char) :
    OneEdit (left.map f) (right.map f) := by
  cases edit with
  | insert front back c =>
      rw [List.map_append, List.map_append, List.map_cons]
      exact insert _ _ _
  | delete front back c =>
      rw [List.map_append, List.map_append, List.map_cons]
      exact delete _ _ _
  | replace front back c d =>
      rw [List.map_append, List.map_append, List.map_cons, List.map_cons]
      exact replace _ _ _ _

/-- The lengths of the texts differ by at most one. -/
theorem length_le (edit : OneEdit left right) : left.length ≤ right.length + 1 := by
  cases edit <;> simp only [List.length_append, List.length_cons] <;> omega

theorem reverse (edit : OneEdit left right) : OneEdit left.reverse right.reverse := by
  have reversed (front back : Text) (c : Char) :
      (front ++ c :: back).reverse = back.reverse ++ c :: front.reverse := by
    rw [List.reverse_append, List.reverse_cons, List.append_assoc]
    rfl
  cases edit with
  | insert front back c =>
      rw [reversed, List.reverse_append]
      exact insert _ _ _
  | delete front back c =>
      rw [reversed, List.reverse_append]
      exact delete _ _ _
  | replace front back c d =>
      rw [reversed, reversed]
      exact replace _ _ _ _

theorem difference_le (edit : OneEdit left right) : difference left right ≤ 1 := by
  cases edit with
  | insert front back c =>
      have inserted := difference_cons_right_le c back back
      rw [difference_self] at inserted
      exact Nat.le_trans (difference_append_le _ _ _) inserted
  | delete front back c =>
      have deleted := difference_cons_left_le c back back
      rw [difference_self] at deleted
      exact Nat.le_trans (difference_append_le _ _ _) deleted
  | replace front back c d =>
      have replaced := difference_cons_cons_le c d back back
      rw [difference_self] at replaced
      refine Nat.le_trans (difference_append_le _ _ _) (Nat.le_trans replaced ?_)
      split <;> omega

/-- Texts that are one edit apart have at most that distance. -/
theorem editDistance_le (edit : OneEdit left right) : editDistance left right ≤ 1 := by
  rw [editDistance_eq]
  split
  · exact edit.symm.reverse.difference_le
  · exact edit.reverse.difference_le

end OneEdit
end Text
end ByteMachine
