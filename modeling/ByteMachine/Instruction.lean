import ByteMachine.Mnemonic
import ByteMachine.Word

/-!
# Instructions

An instruction is what one statement of the assembly language says: an operation with its registers
and, where the second byte of the word is an address or a value, an operand of a type `α`.  While a
source is read the operand may still be a label; in a word it is a byte.  Every instruction has a
word, but not every word has an instruction: a word whose unused nibbles are not zero, or whose
operation is none, is written as data.
-/

namespace ByteMachine

/-- An operation that puts a combination of two registers into a third one. -/
inductive Combination
  | integerAdd
  | floatAdd
  | and
  | or
  | xor
  deriving DecidableEq, Repr

namespace Combination

/-- The operation of a word. -/
def operation : Combination → Operation
  | integerAdd => .integerAdd
  | floatAdd => .floatAdd
  | and => .and
  | or => .or
  | xor => .xor

/-- The mnemonic of a statement. -/
def mnemonic : Combination → Mnemonic
  | integerAdd => .addi
  | floatAdd => .addf
  | and => .and
  | or => .or
  | xor => .xor

end Combination

/-- What one statement says, with operands of type `α` for addresses and values. -/
inductive Instruction (α : Type)
  /-- `r` becomes a value. -/
  | loadValue (r : Nibble) (value : α)
  /-- `r` becomes the byte at an address. -/
  | loadCell (r : Nibble) (address : α)
  /-- `r` becomes the byte at the address in `s`. -/
  | loadIndirect (r s : Nibble)
  /-- The byte at an address becomes `r`. -/
  | storeCell (r : Nibble) (address : α)
  /-- The byte at the address in `s` becomes `r`. -/
  | storeIndirect (r s : Nibble)
  /-- `r` becomes `s`. -/
  | move (r s : Nibble)
  /-- `r` becomes a combination of `s` and `t`. -/
  | combine (combination : Combination) (r s t : Nibble)
  /-- `r` is rotated right. -/
  | rotate (r count : Nibble)
  /-- Execution goes on at an address. -/
  | jump (target : α)
  /-- Execution goes on at an address if `r` equals register zero. -/
  | jumpEqual (r : Nibble) (target : α)
  /-- Execution goes on at an address if `r`, signed, is at most register zero. -/
  | jumpLessEqual (r : Nibble) (target : α)
  /-- Execution ends. -/
  | halt
  deriving DecidableEq, Repr

namespace Instruction

variable {α β : Type}

/-- The operation of the instruction's word. -/
def operation : Instruction α → Operation
  | loadValue .. => .immediateLoad
  | loadCell .. => .directLoad
  | loadIndirect .. => .indirectLoad
  | storeCell .. => .directStore
  | storeIndirect .. => .indirectStore
  | move .. => .move
  | combine combination .. => combination.operation
  | rotate .. => .rotate
  | jump .. => .jumpEqual
  | jumpEqual .. => .jumpEqual
  | jumpLessEqual .. => .jumpLessEqual
  | halt => .halt

/-- The first register nibble of the instruction's word. -/
def r : Instruction α → Nibble
  | loadValue r _ | loadCell r _ | storeCell r _ | combine _ r _ _ | rotate r _ => r
  | jumpEqual r _ | jumpLessEqual r _ => r
  | loadIndirect .. | storeIndirect .. | move .. | jump .. | halt => 0

/-- The first byte of the instruction's word. -/
def first (instruction : Instruction α) : Byte :=
  Byte.ofNibbles instruction.operation.code instruction.r

/-- The second byte of the instruction's word: an operand, or two nibbles taken as one. -/
def second (ofByte : Byte → α) : Instruction α → α
  | loadValue _ operand | loadCell _ operand | storeCell _ operand => operand
  | jump operand | jumpEqual _ operand | jumpLessEqual _ operand => operand
  | loadIndirect r s | storeIndirect r s | move r s => ofByte (Byte.ofNibbles r s)
  | combine _ _ s t => ofByte (Byte.ofNibbles s t)
  | rotate _ count => ofByte (Byte.ofNibbles 0 count)
  | halt => ofByte 0

/-- The word of an instruction whose operand is known. -/
def word (instruction : Instruction Byte) : Word :=
  ⟨instruction.first, instruction.second id⟩

/-- The instruction with its operand changed. -/
def map (change : α → β) : Instruction α → Instruction β
  | loadValue r value => loadValue r (change value)
  | loadCell r address => loadCell r (change address)
  | loadIndirect r s => loadIndirect r s
  | storeCell r address => storeCell r (change address)
  | storeIndirect r s => storeIndirect r s
  | move r s => move r s
  | combine combination r s t => combine combination r s t
  | rotate r count => rotate r count
  | jump target => jump (change target)
  | jumpEqual r target => jumpEqual r (change target)
  | jumpLessEqual r target => jumpLessEqual r (change target)
  | halt => halt

/-- The mnemonic of the instruction's statement. -/
def mnemonic : Instruction α → Mnemonic
  | loadValue .. | loadCell .. | loadIndirect .. => .load
  | storeCell .. | storeIndirect .. => .store
  | move .. => .move
  | combine combination .. => combination.mnemonic
  | rotate .. => .ror
  | jump .. => .jmp
  | jumpEqual .. => .jmpeq
  | jumpLessEqual .. => .jmple
  | halt => .halt

end Instruction

/-- A register as it is written. -/
def registerName (register : Nibble) : Text :=
  'R' :: register.hex

/-- A byte as it is written. -/
def byteNumeral (byte : Byte) : Text :=
  '0' :: 'x' :: byte.hex

/-- A text between square brackets. -/
def bracketed (text : Text) : Text :=
  '[' :: text ++ [']']

namespace Instruction

/-- The operands of the instruction's statement. -/
def operands : Instruction Byte → List Text
  | loadValue r value => [registerName r, byteNumeral value]
  | loadCell r address => [registerName r, bracketed (byteNumeral address)]
  | loadIndirect r s => [registerName r, bracketed (registerName s)]
  | storeCell r address => [registerName r, bracketed (byteNumeral address)]
  | storeIndirect r s => [registerName r, bracketed (registerName s)]
  | move r s => [registerName r, registerName s]
  | combine _ r s t => [registerName r, registerName s, registerName t]
  | rotate r count => [registerName r, Text.decimalNat count.toNat]
  | jump target => [byteNumeral target]
  | jumpEqual r target => [registerName r, byteNumeral target]
  | jumpLessEqual r target => [registerName r, byteNumeral target]
  | halt => []

/-- The statement of an instruction. -/
def text (instruction : Instruction Byte) : Text :=
  match instruction.operands with
  | [] => instruction.mnemonic.name
  | operands => instruction.mnemonic.name ++ ' ' :: Text.join [','] operands

end Instruction

namespace Word

/-- The instruction of a word, if it has one.  A jump on equality of register zero with itself is
the unconditional jump. -/
def instruction? (word : Word) : Option (Instruction Byte) :=
  match word.operation with
  | .noOperation => none
  | .directLoad => some (.loadCell word.r word.address)
  | .immediateLoad => some (.loadValue word.r word.address)
  | .directStore => some (.storeCell word.r word.address)
  | .move => if word.r = 0 then some (.move word.x word.y) else none
  | .integerAdd => some (.combine .integerAdd word.r word.x word.y)
  | .floatAdd => some (.combine .floatAdd word.r word.x word.y)
  | .or => some (.combine .or word.r word.x word.y)
  | .and => some (.combine .and word.r word.x word.y)
  | .xor => some (.combine .xor word.r word.x word.y)
  | .rotate => if word.x = 0 then some (.rotate word.r word.y) else none
  | .jumpEqual =>
      if word.r = 0 then some (.jump word.address) else some (.jumpEqual word.r word.address)
  | .halt => if word.r = 0 ∧ word.second = 0 then some .halt else none
  | .indirectLoad => if word.r = 0 then some (.loadIndirect word.x word.y) else none
  | .indirectStore => if word.r = 0 then some (.storeIndirect word.x word.y) else none
  | .jumpLessEqual => some (.jumpLessEqual word.r word.address)

/-- The bytes of a word as a data statement. -/
def dataText (word : Word) : Text :=
  Mnemonic.db.name ++ ' ' :: Text.join [','] [byteNumeral word.first, byteNumeral word.second]

/-- The statement that assembles to a word: its instruction, or else its bytes as data. -/
def text (word : Word) : Text :=
  match word.instruction? with
  | some instruction => instruction.text
  | none => word.dataText

end Word
end ByteMachine
