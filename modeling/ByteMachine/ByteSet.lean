import ByteMachine.Byte
import ByteMachine.Cells

/-!
# Sets of addresses

A set of bytes has a mark for each of the 256 bytes, so that it lists its members in ascending
order.
-/

namespace ByteMachine

/-- A set of bytes. -/
structure ByteSet where
  /-- Whether a byte is a member. -/
  marks : Cells Bool 8
  deriving DecidableEq

namespace ByteSet

/-- The set without members. -/
def empty : ByteSet :=
  ⟨Cells.fill 8 false⟩

/-- Whether a byte is a member. -/
def contains (set : ByteSet) (byte : Byte) : Bool :=
  set.marks.read byte

/-- The set with one more member. -/
def insert (set : ByteSet) (byte : Byte) : ByteSet :=
  ⟨set.marks.write byte true⟩

/-- The set without one of its members. -/
def erase (set : ByteSet) (byte : Byte) : ByteSet :=
  ⟨set.marks.write byte false⟩

/-- The members in ascending order. -/
def toList (set : ByteSet) : List Byte :=
  (Cells.indices 8).filter set.contains

@[simp]
theorem contains_empty (byte : Byte) : empty.contains byte = false := by
  simp [contains, empty]

@[simp]
theorem contains_insert (set : ByteSet) (byte other : Byte) :
    (set.insert byte).contains other = (other == byte || set.contains other) := by
  by_cases same : other = byte <;> simp [contains, insert, Cells.read_write, same]

@[simp]
theorem contains_erase (set : ByteSet) (byte other : Byte) :
    (set.erase byte).contains other = (other != byte && set.contains other) := by
  by_cases same : other = byte <;> simp [contains, erase, Cells.read_write, same]

/-- A set without marks is empty. -/
theorem eq_empty {set : ByteSet} (noMarks : ∀ mark ∈ set.marks.toList, mark = false) :
    set = empty := by
  obtain ⟨marks⟩ := set
  congr 1
  apply Cells.ext_read
  intro byte
  rw [Cells.read_fill]
  exact noMarks _ (Vector.mem_toList_iff.mpr (Vector.getElem_mem _))

end ByteSet
end ByteMachine
