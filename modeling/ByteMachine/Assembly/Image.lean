import ByteMachine.Assembly.Operand
import ByteMachine.Assembly.SymbolTable
import ByteMachine.Cells
import ByteMachine.Word

/-!
# Images

An image is the memory as a source fills it: 256 cells, an origin at which the next cell is filled,
and the extent, one more than the highest address filled or moved to.  A cell holds a byte or a
label whose address is not known yet, together with the place where the label is used.  An image is
read out when all labels are defined; a label that is not is reported at the first cell that holds
one.
-/

namespace ByteMachine

/-- What a cell of an image holds. -/
inductive ImageCell
  /-- A byte. -/
  | literal (value : Byte)
  /-- The address of a label, to be found out later, and the place where it is used. -/
  | pending (name : Text) (location : Option Location) (sourceLine : Option Text)
  deriving DecidableEq, Repr

namespace ImageCell

/-- The cell for a reference made at a place. -/
def ofReference (location : Option Location) (sourceLine : Option Text) :
    Reference Byte → ImageCell
  | .known value => literal value
  | .pending name => pending name location sourceLine

/-- The label that a cell waits for. -/
def pendingName? : ImageCell → Option Text
  | literal _ => none
  | pending name _ _ => some name

/-- The byte of a cell once all labels are defined. -/
def resolve (symbols : SymbolTable) : ImageCell → Except Diagnostic Byte
  | literal value => .ok value
  | pending name location sourceLine =>
      match symbols.find? name with
      | some address => .ok address
      | none =>
          .error ⟨.undefinedSymbol name none (symbols.similar name), location, sourceLine⟩

end ImageCell

/-- The memory as a source fills it. -/
structure Image where
  /-- The cells, of which some are not filled. -/
  cells : Cells (Option ImageCell) 8
  /-- The address at which the next cell is filled. -/
  origin : Byte
  /-- One more than the highest address filled, or the highest origin. -/
  extent : Nat
  deriving DecidableEq

/-- Why there is no byte at an address. -/
inductive ReadFault
  /-- The address lies before the first cell. -/
  | outside
  /-- The cell waits for a label that is not defined. -/
  | unresolved (diagnostic : Diagnostic)
  deriving DecidableEq, Repr

namespace Image

/-- The image in which nothing is filled. -/
def empty : Image :=
  ⟨Cells.fill 8 none, 0, 0⟩

/-- The image after the cell at the origin is filled; the origin goes on to the next address. -/
def put (image : Image) (cell : ImageCell) : Image :=
  { cells := image.cells.write image.origin (some cell)
    origin := image.origin + 1
    extent := max image.extent (image.origin.toNat + 1) }

/-- The image with another origin. -/
def moveTo (image : Image) (origin : Byte) : Image :=
  { image with origin, extent := max image.extent origin.toNat }

/-- The image with its origin at an address that is given as an integer of any size. -/
def setOrigin (image : Image) (origin : Int) : Image :=
  image.moveTo (.ofInt 8 origin)

/-- The labels that cells wait for, in the order of addresses. -/
def pendingNames (image : Image) : List Text :=
  image.cells.toList.filterMap fun cell => cell.bind ImageCell.pendingName?

/-- The byte in a cell; one that is not filled is zero. -/
def cellByte (image : Image) (symbols : SymbolTable) (address : Byte) : Except Diagnostic Byte :=
  match image.cells.read address with
  | none => .ok 0
  | some cell => cell.resolve symbols

/-- The byte at an address.  Past the last cell there are zeros; a negative address counts back from
the end, as far as there are cells. -/
def byteAt (image : Image) (symbols : SymbolTable) (address : Int) : Except ReadFault Byte :=
  if 256 ≤ address then .ok 0
  else if address < -256 then .error .outside
  else (image.cellByte symbols (BitVec.ofInt 8 address)).mapError .unresolved

/-- The number of bytes read out: the extent, rounded up to an even number. -/
def size (image : Image) : Nat :=
  image.extent + image.extent % 2

/-- The bytes of the image. -/
def bytes (image : Image) (symbols : SymbolTable) : Except Diagnostic (List Byte) :=
  (List.range image.size).mapM fun (address : Nat) =>
    if 256 ≤ address then .ok 0 else image.cellByte symbols (BitVec.ofNat 8 address)

/-- The words of the image. -/
def words (image : Image) (symbols : SymbolTable) : Except Diagnostic (List Word) :=
  Word.ofBytes <$> image.bytes symbols

end Image
end ByteMachine
