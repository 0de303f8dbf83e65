import ByteMachine.Byte

/-!
# Instruction words

An instruction word is two bytes.  The upper half of the first byte selects the operation, its
lower half names a register `r`; the second byte is read either as two further register numbers `x`
and `y` or as a whole, as an address or a value.
-/

namespace ByteMachine

/-- What a word does, selected by its first four bits. -/
inductive Operation
  | noOperation
  | directLoad
  | immediateLoad
  | directStore
  | move
  | integerAdd
  | floatAdd
  | or
  | and
  | xor
  | rotate
  | jumpEqual
  | halt
  | indirectLoad
  | indirectStore
  | jumpLessEqual
  deriving DecidableEq, Repr

namespace Operation

/-- The four bits that select an operation. -/
def code : Operation → Nibble
  | noOperation => 0x0
  | directLoad => 0x1
  | immediateLoad => 0x2
  | directStore => 0x3
  | move => 0x4
  | integerAdd => 0x5
  | floatAdd => 0x6
  | or => 0x7
  | and => 0x8
  | xor => 0x9
  | rotate => 0xA
  | jumpEqual => 0xB
  | halt => 0xC
  | indirectLoad => 0xD
  | indirectStore => 0xE
  | jumpLessEqual => 0xF

/-- The operation that four bits select. -/
def ofCode (code : Nibble) : Operation :=
  match code.toNat with
  | 0x0 => noOperation
  | 0x1 => directLoad
  | 0x2 => immediateLoad
  | 0x3 => directStore
  | 0x4 => move
  | 0x5 => integerAdd
  | 0x6 => floatAdd
  | 0x7 => or
  | 0x8 => and
  | 0x9 => xor
  | 0xA => rotate
  | 0xB => jumpEqual
  | 0xC => halt
  | 0xD => indirectLoad
  | 0xE => indirectStore
  | _ => jumpLessEqual

@[simp]
theorem ofCode_code (operation : Operation) : ofCode operation.code = operation := by
  cases operation <;> rfl

@[simp]
theorem code_ofCode (bits : Nibble) : (ofCode bits).code = bits := by
  revert bits
  decide

/-- The operations whose second byte is an address or a value. -/
def takesAddress : Operation → Bool
  | directLoad | immediateLoad | directStore | jumpEqual | jumpLessEqual => true
  | _ => false

end Operation

/-- Two bytes that the machine executes together. -/
structure Word where
  /-- Operation and first register number. -/
  first : Byte
  /-- Two register numbers, or an address or value. -/
  second : Byte
  deriving DecidableEq, Repr

namespace Word

/-- The word of the given operation code and operand nibbles. -/
def ofNibbles (code r x y : Nibble) : Word :=
  ⟨Byte.ofNibbles code r, Byte.ofNibbles x y⟩

/-- The operation that the word performs. -/
def operation (word : Word) : Operation :=
  Operation.ofCode word.first.high

/-- The first register number. -/
def r (word : Word) : Nibble :=
  word.first.low

/-- The second register number. -/
def x (word : Word) : Nibble :=
  word.second.high

/-- The third register number. -/
def y (word : Word) : Nibble :=
  word.second.low

/-- The address or value. -/
def address (word : Word) : Byte :=
  word.second

/-- The word as four hexadecimal digits. -/
def hex (word : Word) : Text :=
  word.first.hex ++ word.second.hex

/-- The bytes of a word. -/
def bytes (word : Word) : List Byte :=
  [word.first, word.second]

/-- The bytes of a sequence of words. -/
def joinBytes (words : List Word) : List Byte :=
  words.flatMap bytes

/-- A sequence of bytes taken two by two; an odd last byte is followed by zero. -/
def ofBytes : List Byte → List Word
  | [] => []
  | [byte] => [⟨byte, 0⟩]
  | first :: second :: rest => ⟨first, second⟩ :: ofBytes rest

end Word
end ByteMachine
