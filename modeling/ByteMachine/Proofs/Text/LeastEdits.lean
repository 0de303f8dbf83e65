import ByteMachine.Proofs.Text.EditDistance
import Mathlib.Order.Bounds.Basic

/-!
# The edit distance as a least number of edits

A sequence of single edits turns one text into another.  The difference of two texts is the length of
a shortest such sequence: the alignment of the texts that it stands for can be carried out edit by
edit, and no edit changes a difference by more than one, because differences satisfy the triangle
inequality.  The edit distance is the difference, and so it is a metric.
-/

namespace ByteMachine
namespace Text

/-! ## Differences of three texts -/

/-- What becomes of the first characters of two texts. -/
theorem difference_cases (c d : Char) (left right : Text) :
    difference (c :: left) (d :: right) = difference left (d :: right) + 1 ∨
      difference (c :: left) (d :: right) = difference (c :: left) right + 1 ∨
      difference (c :: left) (d :: right) = difference left right + if c = d then 0 else 1 := by
  rw [difference_cons_cons]
  omega

/-- A text is no longer than another one and their difference together. -/
theorem length_le_difference (left right : Text) :
    left.length ≤ right.length + difference left right ∧
      right.length ≤ left.length + difference left right := by
  induction left, right using difference.induct with
  | case1 right => simp [difference_nil_left]
  | case2 left => simp [difference_nil_right]
  | case3 c left d right dropLeft dropRight dropBoth =>
      simp only [List.length_cons] at dropLeft dropRight ⊢
      obtain same | same | same := difference_cases c d left right <;> rw [same]
      · omega
      · omega
      · omega

theorem difference_le_length (left right : Text) :
    difference left right ≤ left.length + right.length := by
  induction left with
  | nil => rw [difference_nil_left, List.length_nil, Nat.zero_add]
  | cons c left induction =>
      have drop := difference_cons_left_le c left right
      rw [List.length_cons]
      omega

/-- A detour by a third text makes no difference smaller. -/
theorem difference_triangle : (left middle right : Text) →
    difference left right ≤ difference left middle + difference middle right
  | [], middle, right => by
      rw [difference_nil_left, difference_nil_left]
      exact (length_le_difference middle right).2
  | left, middle, [] => by
      rw [difference_nil_right, difference_nil_right, Nat.add_comm]
      exact (length_le_difference left middle).1
  | left, [], right => by
      rw [difference_nil_right, difference_nil_left]
      exact difference_le_length left right
  | c :: left, e :: middle, d :: right => by
      -- Each of the two differences drops a first character; the triangle of what is left over
      -- bounds the third difference, once the same characters are dropped there.
      have dropLeft := difference_cons_left_le c left (d :: right)
      have dropRight := difference_cons_right_le d (c :: left) right
      have dropBoth := difference_cons_cons_le c d left right
      obtain toMiddle | toMiddle | toMiddle := difference_cases c e left middle
      · have rest := difference_triangle left (e :: middle) (d :: right)
        omega
      · obtain fromMiddle | fromMiddle | fromMiddle := difference_cases e d middle right
        · have rest := difference_triangle (c :: left) middle (d :: right)
          omega
        · have rest := difference_triangle (c :: left) (e :: middle) right
          omega
        · have rest := difference_triangle (c :: left) middle right
          omega
      · obtain fromMiddle | fromMiddle | fromMiddle := difference_cases e d middle right
        · have rest := difference_triangle left middle (d :: right)
          omega
        · have rest := difference_triangle (c :: left) (e :: middle) right
          omega
        · have rest := difference_triangle left middle right
          have replaced : (if c = d then 0 else 1) ≤
              (if c = e then 0 else 1) + if e = d then 0 else 1 := by
            split_ifs <;> simp_all
          omega
termination_by left middle right => left.length + middle.length + right.length

/-! ## Sequences of edits -/

namespace OneEdit

variable {left right : Text}

theorem cons (c : Char) (edit : OneEdit left right) : OneEdit (c :: left) (c :: right) := by
  cases edit with
  | insert front back d => exact insert (c :: front) back d
  | delete front back d => exact delete (c :: front) back d
  | replace front back d e => exact replace (c :: front) back d e

end OneEdit

/-- One text is turned into another by a number of single edits, one after the other. -/
inductive Edits : Nat → Text → Text → Prop
  /-- Nothing is edited. -/
  | none (text : Text) : Edits 0 text text
  /-- One more edit is made. -/
  | next {count : Nat} {left middle right : Text} (edits : Edits count left middle)
      (edit : OneEdit middle right) : Edits (count + 1) left right

namespace Edits

variable {count more : Nat} {left middle right : Text}

theorem trans (edits : Edits count left middle) (others : Edits more middle right) :
    Edits (count + more) left right := by
  induction others with
  | none => exact edits
  | next _ edit induction => exact (induction edits).next edit

/-- An edit that is made before all others. -/
theorem first (edit : OneEdit left middle) (edits : Edits count middle right) :
    Edits (count + 1) left right := by
  have all := ((none left).next edit).trans edits
  rwa [Nat.zero_add, Nat.add_comm] at all

theorem symm (edits : Edits count left right) : Edits count right left := by
  induction edits with
  | none text => exact none text
  | next _ edit induction => exact first edit.symm induction

theorem cons (c : Char) (edits : Edits count left right) :
    Edits count (c :: left) (c :: right) := by
  induction edits with
  | none => exact none _
  | next _ edit induction => exact induction.next (edit.cons c)

theorem reverse (edits : Edits count left right) : Edits count left.reverse right.reverse := by
  induction edits with
  | none => exact none _
  | next _ edit induction => exact induction.next edit.reverse

/-- A text is written out character by character. -/
theorem of_nil (text : Text) : Edits text.length [] text := by
  induction text with
  | nil => exact none []
  | cons c rest induction => exact induction.next (.insert [] rest c)

/-- The difference of two texts is made up for by as many edits. -/
theorem of_difference (left right : Text) : Edits (difference left right) left right := by
  induction left, right using difference.induct with
  | case1 right =>
      rw [difference_nil_left]
      exact of_nil right
  | case2 left =>
      rw [difference_nil_right]
      exact (of_nil left).symm
  | case3 c left d right dropLeft dropRight dropBoth =>
      obtain same | same | same := difference_cases c d left right <;> rw [same]
      · exact first (.delete [] left c) dropLeft
      · exact dropRight.next (.insert [] right d)
      · split
        next matched =>
          rw [matched]
          exact dropBoth.cons d
        next => exact (dropBoth.cons c).next (.replace [] right c d)

/-- Fewer edits than the difference do not turn one text into the other. -/
theorem difference_le (edits : Edits count left right) : difference left right ≤ count := by
  induction edits with
  | none text => exact Nat.le_of_eq (difference_self text)
  | next _ edit induction =>
      exact Nat.le_trans (difference_triangle _ _ _) (Nat.add_le_add induction edit.difference_le)

end Edits

theorem isLeast_difference (left right : Text) :
    IsLeast {count | Edits count left right} (difference left right) :=
  ⟨Edits.of_difference left right, fun _ edits => edits.difference_le⟩

theorem difference_comm (left right : Text) : difference left right = difference right left :=
  Nat.le_antisymm (Edits.of_difference right left).symm.difference_le
    (Edits.of_difference left right).symm.difference_le

theorem difference_reverse (left right : Text) :
    difference left.reverse right.reverse = difference left right := by
  have back := (Edits.of_difference left.reverse right.reverse).reverse
  rw [List.reverse_reverse, List.reverse_reverse] at back
  exact Nat.le_antisymm (Edits.of_difference left right).reverse.difference_le back.difference_le

/-- Neither the order of the two texts nor the end from which they are read matters. -/
theorem editDistance_eq_difference (left right : Text) :
    editDistance left right = difference left right := by
  rw [editDistance_eq, difference_reverse, difference_reverse, difference_comm right left, ite_self]

/-- The edit distance of two texts is the least number of single characters to insert, delete or
replace that turns one into the other.  It is therefore symmetric, zero only for equal texts, at least
the difference of their lengths, and no larger than the way by a third text. -/
theorem editDistance_counts_edits (left right : Text) :
    IsLeast {count | Edits count left right} (editDistance left right) ∧
      editDistance left right = editDistance right left ∧
      (editDistance left right = 0 ↔ left = right) ∧
      ((left.length : Int) - right.length).natAbs ≤ editDistance left right ∧
      ∀ middle, editDistance left right ≤ editDistance left middle + editDistance middle right := by
  simp only [editDistance_eq_difference]
  refine ⟨isLeast_difference left right, difference_comm left right, ⟨?_, ?_⟩, ?_,
    fun middle => difference_triangle left middle right⟩
  · intro zero
    have edits := Edits.of_difference left right
    rw [zero] at edits
    cases edits
    rfl
  · rintro rfl
    exact difference_self left
  · obtain ⟨leftLength, rightLength⟩ := length_le_difference left right
    omega

/-- Two replaced letters and one that is added are as few edits as there can be. -/
theorem editDistance_counts_edits_of_kitten :
    IsLeast {count | Edits count "kitten".toList "sitting".toList} 3 ∧
      ¬Edits 2 "kitten".toList "sitting".toList := by
  have least := (editDistance_counts_edits "kitten".toList "sitting".toList).1
  have three : editDistance "kitten".toList "sitting".toList = 3 := rfl
  rw [three] at least
  exact ⟨least, fun fewer => absurd (least.2 fewer) (by decide)⟩

end Text
end ByteMachine
