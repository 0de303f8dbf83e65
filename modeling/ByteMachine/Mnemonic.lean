import ByteMachine.Text.LowerCase

/-!
# Mnemonics

The fifteen words that open a statement: thirteen instructions and the two directives `db` and
`org`.  They are read in any letter case.
-/

namespace ByteMachine

/-- A word that opens a statement. -/
inductive Mnemonic
  | load
  | store
  | move
  | addi
  | addf
  | and
  | or
  | xor
  | ror
  | jmp
  | jmpeq
  | jmple
  | db
  | org
  | halt
  deriving DecidableEq, Repr

namespace Mnemonic

/-- The mnemonics. -/
def all : List Mnemonic :=
  [load, store, move, addi, addf, and, or, xor, ror, jmp, jmpeq, jmple, db, org, halt]

/-- A mnemonic in lower case. -/
def name : Mnemonic → Text
  | load => "load".toList
  | store => "store".toList
  | move => "move".toList
  | addi => "addi".toList
  | addf => "addf".toList
  | and => "and".toList
  | or => "or".toList
  | xor => "xor".toList
  | ror => "ror".toList
  | jmp => "jmp".toList
  | jmpeq => "jmpeq".toList
  | jmple => "jmple".toList
  | db => "db".toList
  | org => "org".toList
  | halt => "halt".toList

/-- The mnemonic that a word spells in any letter case. -/
def ofText? (text : Text) : Option Mnemonic :=
  all.find? fun mnemonic => mnemonic.name == text.lower

end Mnemonic
end ByteMachine
