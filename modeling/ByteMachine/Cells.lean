import ByteMachine.Byte

/-!
# Cells addressed by bit vectors

One value for each vector of a given number of bits, so that an index is always in range and an
integer index is taken modulo the number of cells.
-/

namespace ByteMachine

/-- One value for each vector of `width` bits. -/
structure Cells (α : Type) (width : Nat) where
  /-- The values in the order of their indices. -/
  values : Vector α (Nat.pow 2 width)
  deriving DecidableEq

namespace Cells

variable {α : Type} {width : Nat}

/-- Cells that all hold the same value. -/
def fill (width : Nat) (value : α) : Cells α width :=
  ⟨Vector.replicate (Nat.pow 2 width) value⟩

/-- The value at an index. -/
def read (cells : Cells α width) (index : BitVec width) : α :=
  have inRange := index.isLt
  cells.values[index.toNat]

/-- The cells after one of them was given a value. -/
def write (cells : Cells α width) (index : BitVec width) (value : α) : Cells α width :=
  ⟨cells.values.set index.toNat value index.isLt⟩

/-- The values in the order of their indices. -/
def toList (cells : Cells α width) : List α :=
  cells.values.toList

/-- The indices in ascending order. -/
def indices (width : Nat) : List (BitVec width) :=
  (List.range (Nat.pow 2 width)).map (BitVec.ofNat width)

@[simp]
theorem read_fill (value : α) (index : BitVec width) : (fill width value).read index = value := by
  simp [read, fill]

@[simp]
theorem read_write_self (cells : Cells α width) (index : BitVec width) (value : α) :
    (cells.write index value).read index = value := by
  simp [read, write]

theorem read_write_of_ne (cells : Cells α width) {index other : BitVec width} (value : α)
    (distinct : other ≠ index) : (cells.write index value).read other = cells.read other := by
  have apart : index.toNat ≠ other.toNat := fun same => distinct (BitVec.eq_of_toNat_eq same.symm)
  simp [read, write, apart]

theorem read_write (cells : Cells α width) (index other : BitVec width) (value : α) :
    (cells.write index value).read other = if other = index then value else cells.read other := by
  split
  next same => simp [same]
  next distinct => exact cells.read_write_of_ne value distinct

/-- Cells are determined by what is read from them. -/
theorem ext_read {left right : Cells α width}
    (agree : ∀ index, left.read index = right.read index) : left = right := by
  obtain ⟨leftValues⟩ := left
  obtain ⟨rightValues⟩ := right
  congr 1
  apply Vector.ext
  intro position inRange
  have same : (BitVec.ofNat width position).toNat = position :=
    (BitVec.toNat_ofNat position width).trans (Nat.mod_eq_of_lt inRange)
  simpa only [read, same] using agree (BitVec.ofNat width position)

end Cells
end ByteMachine
