import ByteMachine.Entries
import ByteMachine.Instruction

/-!
# Disassembly

Words are shown with their addresses, their bytes, their statements and, where a word has an address
operand, the name of that address.  As source, the statements stand one on a line, each after the
name of its own address if there is one, so that the source assembles to the same words.
-/

namespace ByteMachine

/-- Names of addresses. -/
structure AddressNames where
  /-- The addresses and their names. -/
  entries : List (Int × Text)
  deriving DecidableEq, Repr

namespace AddressNames

/-- The names of a list of pairs, of which the last one counts for each address. -/
def ofList (pairs : List (Int × Text)) : AddressNames :=
  ⟨Entries.putAll [] pairs⟩

/-- The name of an address. -/
def find? (names : AddressNames) (address : Byte) : Option Text :=
  names.entries.lookup (address.toNat : Int)

/-- The names with one more, given to an address modulo the size of the memory. -/
def add (names : AddressNames) (address : Byte) (name : Text) : AddressNames :=
  ⟨Entries.put (address.toNat : Int) name names.entries⟩

/-- The names with those of a list of pairs, of which the last one counts for each integer. -/
def addAll (names : AddressNames) (pairs : List (Int × Text)) : AddressNames :=
  (ofList pairs).entries.foldl (fun names pair => names.add (BitVec.ofInt 8 pair.1) pair.2) names

end AddressNames

/-- A word as it is shown. -/
structure DisassembledWord where
  /-- The address of its first byte. -/
  address : Byte
  /-- The word. -/
  word : Word
  /-- The name of its operand address; empty when there is none. -/
  comment : Text
  deriving DecidableEq, Repr

namespace DisassembledWord

/-- The statement of the word. -/
def statement (shown : DisassembledWord) : Text :=
  shown.word.text

/-- The line that shows the word. -/
def text (shown : DisassembledWord) : Text :=
  '$' :: shown.address.hex ++ ": ".toList ++ Byte.spacedHex shown.word.bytes ++ [' ', ' '] ++
    if shown.comment = [] then shown.statement
    else Text.padEnd 20 shown.statement ++ " ; ".toList ++ shown.comment

end DisassembledWord

/-- The first `count` items, or, for a negative count, all but the last `-count`. -/
def takeCount {α : Type} (count : Option Int) (items : List α) : List α :=
  match count with
  | none => items
  | some (.ofNat n) => items.take n
  | some (.negSucc n) => items.take (items.length - (n + 1))

namespace AddressNames

/-- A word at an address. -/
def disassembleWord (names : AddressNames) (word : Word) (address : Byte) : DisassembledWord :=
  ⟨address, word,
    if word.operation.takesAddress then (names.find? word.address).getD [] else []⟩

/-- Words at consecutive addresses. -/
def disassembleWords (names : AddressNames) (address : Byte) : List Word → List DisassembledWord
  | [] => []
  | word :: rest =>
      names.disassembleWord word address :: names.disassembleWords (address + 2) rest

/-- Bytes at consecutive addresses, up to a number of words. -/
def disassemble (names : AddressNames) (bytes : List Byte) (start : Byte) (count : Option Int) :
    List DisassembledWord :=
  names.disassembleWords start (takeCount count (Word.ofBytes bytes))

/-- The lines that show bytes at consecutive addresses. -/
def disassembleText (names : AddressNames) (bytes : List Byte) (start : Byte)
    (count : Option Int) : Text :=
  Text.joinLines ((names.disassemble bytes start count).map DisassembledWord.text)

/-- The line of source for a word. -/
def sourceLine (names : AddressNames) (shown : DisassembledWord) : Text :=
  match (names.find? shown.address).getD [] with
  | [] => shown.statement
  | label => label ++ ": ".toList ++ shown.statement

/-- The source for bytes from address zero on. -/
def source (names : AddressNames) (bytes : List Byte) : Text :=
  Text.joinLines ((names.disassemble bytes 0 none).map names.sourceLine) ++ ['\n']

end AddressNames
end ByteMachine
