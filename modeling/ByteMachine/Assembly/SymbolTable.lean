import ByteMachine.Byte
import ByteMachine.Entries
import ByteMachine.Text.EditDistance
import ByteMachine.Text.LowerCase
import ByteMachine.Text.Order

/-!
# Symbol tables

A symbol table gives each defined label the address of its last definition, and keeps the labels in
the order of their first one.  For a label that is not defined it finds defined labels much like it:
equal up to letter case, or of nearly the same length and at most two edits away.
-/

namespace ByteMachine

/-- Labels with their addresses, in the order of first definition. -/
structure SymbolTable where
  /-- The labels and their addresses. -/
  entries : List (Text × Byte)
  deriving DecidableEq, Repr

namespace SymbolTable

/-- The table without labels. -/
def empty : SymbolTable :=
  ⟨[]⟩

/-- The address of a label. -/
def find? (table : SymbolTable) (name : Text) : Option Byte :=
  table.entries.lookup name

/-- The table after a definition; a label that has an entry keeps its place. -/
def define (table : SymbolTable) (name : Text) (address : Byte) : SymbolTable :=
  ⟨Entries.put name address table.entries⟩

/-- Number of labels. -/
def size (table : SymbolTable) : Nat :=
  table.entries.length

/-- The labels in the order of first definition. -/
def names (table : SymbolTable) : List Text :=
  table.entries.map Prod.fst

/-- The labels and their addresses in the order of code points. -/
def sorted (table : SymbolTable) : List (Text × Byte) :=
  table.entries.mergeSort fun left right => !right.1.precedes left.1

/-- Whether one name is much like another. -/
def isSimilar (name other : Text) : Bool :=
  other.lower == name.lower ||
    (other.length ≤ name.length + 1 && name.length ≤ other.length + 1 &&
      Text.editDistance name.lower other.lower ≤ 2)

/-- The first three labels that are much like a name. -/
def similar (table : SymbolTable) (name : Text) : List Text :=
  (table.names.filter (isSimilar name)).take 3

end SymbolTable
end ByteMachine
