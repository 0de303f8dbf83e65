import ByteMachine.Assembly.Operand
import ByteMachine.Instruction

/-!
# Statements

A statement is an instruction whose operand may be a label, a run of data bytes, or a new origin.
It is read from a mnemonic and its operands; each mnemonic expects operands of a certain shape, and
what it says when they have another shape depends on the mnemonic alone.
-/

namespace ByteMachine

/-- A statement of the assembly language. -/
inductive Statement
  /-- An instruction, whose operand may be a label. -/
  | instruction (body : Instruction Target)
  /-- Bytes to be put down as they are. -/
  | data (bytes : List Byte)
  /-- An address at which to go on. -/
  | origin (address : Byte)
  deriving DecidableEq, Repr

namespace Mnemonic

/-- What is said when the operands of a mnemonic have another shape than it expects. -/
def expectation : Mnemonic → Text
  | load => "Expected a register followed by a value, [address] or [register].".toList
  | store => "Expected a register followed by [address] or [register].".toList
  | move => "Expected two registers.".toList
  | addi | addf | and | or | xor => "Expected three registers.".toList
  | ror => "Expected a register and a number.".toList
  | jmp => "Expected a single address.".toList
  | jmpeq => "Expected a register (optionally 'R=R0') and an address.".toList
  | jmple => "Expected a register (optionally 'R<=R0') and an address.".toList
  | db => "Expected a number or string literal.".toList
  | org => "Expected a single number.".toList
  | halt => "Expected no operands.".toList

end Mnemonic

namespace Statement

open Operand

/-- The largest count of a rotation. -/
def maxRotation : Nat := 15

/-- A rotation, whose count has to fit a nibble. -/
def rotation (r : Nibble) (count : Byte) : Except (Fault Cause) (Instruction Target) :=
  if maxRotation < count.toNat then .error (.reported (.range count.toNat maxRotation))
  else .ok (.rotate r (BitVec.ofNat 4 count.toNat))

/-- The register of a conditional jump: alone, or compared with register zero. -/
def comparedRegister? (operator text : Text) : Option Nibble :=
  let sides := Text.cutAt operator text
  match sides.2 with
  | none => register? .absent (Text.trim sides.1)
  | some right =>
      if Text.trim right = ['R', '0'] then register? .absent (Text.trim sides.1) else none

/-- A load from whichever of its three sources the second operand is. -/
def readLoad (r : Nibble) (source : Text) :
    Except OverlongNumeral (Option (Instruction Target)) := do
  match ← target? .absent source with
  | some value => return some (.loadValue r value)
  | none =>
      match ← target? .present source with
      | some address => return some (.loadCell r address)
      | none => return (register? .present source).map (.loadIndirect r)

/-- A store to whichever of its two destinations the second operand is. -/
def readStore (r : Nibble) (destination : Text) :
    Except OverlongNumeral (Option (Instruction Target)) := do
  match ← target? .present destination with
  | some address => return some (.storeCell r address)
  | none => return (register? .present destination).map (.storeIndirect r)

/-- A combination of two registers into a third one. -/
def readCombination (combination : Combination) : List Text → Option (Instruction Target)
  | [first, second, third] => do
      let r ← register? .absent first
      let s ← register? .absent second
      let t ← register? .absent third
      return .combine combination r s t
  | _ => none

/-- A conditional jump; both operands are read even if the first is no register. -/
def readJump (operator : Text) (jump : Nibble → Target → Instruction Target) :
    List Text → Except OverlongNumeral (Option (Instruction Target))
  | [compared, target] => do
      let target ← target? .absent target
      return do jump (← comparedRegister? operator compared) (← target)
  | _ => .ok none

/-- The bytes of one operand of a data statement. -/
def readDatum (text : Text) : Except OverlongNumeral (Option (List Byte)) := do
  match ← Numeral.read? text with
  | some byte => return some [byte]
  | none => return (string? text).map fun chars => chars.map fun c => BitVec.ofNat 8 c.toNat

/-- The bytes of the operands of a data statement, up to the first that is neither a number nor a
string. -/
def readData : List Text → Except OverlongNumeral (Option (List Byte))
  | [] => .ok (some [])
  | text :: rest => do
      match ← readDatum text with
      | none => return none
      | some bytes => return (← readData rest).map (bytes ++ ·)

/-- What a reader found, where an overlong numeral is a fault of its own and operands of another
shape are reported by the mnemonic. -/
def expecting {α : Type} (mnemonic : Mnemonic) : Except OverlongNumeral (Option α) →
    Except (Fault Cause) α
  | .error numeral => .error (.overlong numeral)
  | .ok none => .error (.reported (.operands mnemonic.expectation none))
  | .ok (some found) => .ok found

/-- The instruction or directive that a mnemonic and its operands say. -/
def read (mnemonic : Mnemonic) (operands : List Text) : Except (Fault Cause) Statement :=
  match mnemonic with
  | .load =>
      instruction <$> expecting .load (match operands with
        | [first, source] =>
            match register? .absent first with
            | some r => readLoad r source
            | none => .ok none
        | _ => .ok none)
  | .store =>
      instruction <$> expecting .store (match operands with
        | [first, destination] =>
            match register? .absent first with
            | some r => readStore r destination
            | none => .ok none
        | _ => .ok none)
  | .move =>
      instruction <$> expecting .move (.ok (match operands with
        | [first, second] => do
            let r ← register? .absent first
            let s ← register? .absent second
            return .move r s
        | _ => none))
  | .addi => instruction <$> expecting .addi (.ok (readCombination .integerAdd operands))
  | .addf => instruction <$> expecting .addf (.ok (readCombination .floatAdd operands))
  | .and => instruction <$> expecting .and (.ok (readCombination .and operands))
  | .or => instruction <$> expecting .or (.ok (readCombination .or operands))
  | .xor => instruction <$> expecting .xor (.ok (readCombination .xor operands))
  | .ror => do
      let found ← expecting .ror (match operands with
        | [first, second] => do
            let count ← Numeral.read? second
            return do return ((← register? .absent first), (← count))
        | _ => .ok none)
      instruction <$> rotation found.1 found.2
  | .jmp =>
      instruction <$> expecting .jmp (match operands with
        | [target] => do return (← target? .absent target).map .jump
        | _ => .ok none)
  | .jmpeq => instruction <$> expecting .jmpeq (readJump ['='] .jumpEqual operands)
  | .jmple => instruction <$> expecting .jmple (readJump ['<', '='] .jumpLessEqual operands)
  | .db => data <$> expecting .db (if operands = [] then .ok none else readData operands)
  | .org =>
      origin <$> expecting .org (match operands with
        | [address] => Numeral.read? address
        | _ => .ok none)
  | .halt => instruction <$> expecting .halt (.ok (if operands = [] then some .halt else none))

/-- The statement of a mnemonic as it is written, which may name none. -/
def ofParts (mnemonic : Text) (operands : List Text) : Except (Fault Cause) Statement :=
  match Mnemonic.ofText? mnemonic with
  | some mnemonic => read mnemonic operands
  | none => .error (.reported (.mnemonic mnemonic))

/-- The contents of the cells that a statement fills, in order. -/
def cells : Statement → List Target
  | .instruction body => [.value body.first, body.second .value]
  | .data bytes => bytes.map .value
  | .origin _ => []

end Statement
end ByteMachine
