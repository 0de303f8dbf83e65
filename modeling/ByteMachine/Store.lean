import ByteMachine.Cells
import ByteMachine.Word

/-!
# Stores of bytes

Memory has a byte for each of its 256 addresses, the register file one for each of its sixteen
registers.  Everything that changes several cells is a list of single writes, in the order in which
they are made, so that the final contents and the sequence of changes come from the same list.  Cells
and bytes may be given as integers of any size, which are taken modulo the size of the store and
modulo 256.
-/

namespace ByteMachine

/-- One byte for each vector of `width` bits. -/
abbrev Store (width : Nat) := Cells Byte width

/-- The main memory of 256 bytes. -/
abbrev Memory := Store 8

/-- The sixteen registers. -/
abbrev Registers := Store 4

namespace Store

variable {width : Nat}

/-- A change of one cell. -/
structure Write (width : Nat) where
  /-- The cell that is written. -/
  index : BitVec width
  /-- The byte written to it. -/
  value : Byte
  deriving DecidableEq, Repr

/-- The store whose bytes are all zero. -/
def zero (width : Nat) : Store width :=
  Cells.fill width 0

/-- The store after one write that is given as data. -/
def apply (store : Store width) (change : Write width) : Store width :=
  store.write change.index change.value

/-- The store after a list of writes, the first one made first. -/
def applyAll (store : Store width) (changes : List (Write width)) : Store width :=
  changes.foldl apply store

/-- The writes that set every cell to zero. -/
def clearing (width : Nat) : List (Write width) :=
  (Cells.indices width).map fun index => ⟨index, 0⟩

/-- The writes that put bytes into consecutive cells from an index on. -/
def loading (index : BitVec width) : List Byte → List (Write width)
  | [] => []
  | byte :: rest => ⟨index, byte⟩ :: loading (index + 1) rest

/-- The write of a number to the cell that a number names. -/
def Write.ofNumbers (index value : Int) : Write width :=
  ⟨.ofInt width index, .ofInt 8 value⟩

/-- The writes that put numbers into consecutive cells from the one on that a number names. -/
def loadingNumbers (index : Int) (data : List Int) : List (Write width) :=
  loading (.ofInt width index) (data.map (.ofInt 8))

/-- The writes that put words into consecutive pairs of cells from an index on. -/
def loadingWords (index : BitVec width) : List Word → List (Write width)
  | [] => []
  | word :: rest =>
      ⟨index, word.first⟩ :: ⟨index + 1, word.second⟩ :: loadingWords (index + 2) rest

/-- The writes that put words into consecutive pairs of cells from the cell on that a number names. -/
def loadingWordsAt (index : Int) (words : List Word) : List (Write width) :=
  loadingWords (.ofInt width index) words

/-- The byte in the cell that a number names. -/
def readAt (store : Store width) (index : Int) : Byte :=
  store.read (.ofInt width index)

/-- The word in the cell at an index and the cell after it. -/
def word (store : Store width) (index : BitVec width) : Word :=
  ⟨store.read index, store.read (index + 1)⟩

/-- The word in the cell that a number names and the cell after it. -/
def wordAt (store : Store width) (index : Int) : Word :=
  store.word (.ofInt width index)

end Store

/-- A register and its byte, as it is shown. -/
def registerCell (index : Nat) (value : Byte) : Text :=
  'R' :: Text.hexDigits index ++ '=' :: value.hex

/-- Bytes as the cells of registers numbered from zero. -/
def registerCells (values : List Byte) : List Text :=
  values.zipIdx.map fun cell => registerCell cell.2 cell.1

/-- All registers on one line. -/
def Store.describe {width : Nat} (registers : Store width) : Text :=
  "RegisterFile(".toList ++ Text.join [' '] (registerCells registers.toList) ++ [')']

end ByteMachine
