import ByteMachine.Assembly.Program

/-!
# Listings

A listing shows for each line with a label or a statement its number, its address, the first four
bytes it fills and its source, and after that the labels in the order of their names.
-/

namespace ByteMachine
namespace ListingEntry

/-- The bytes of a line in the code of its program, if the code reaches that far. -/
def bytes? (entry : ListingEntry) (code : List Byte) : Option (List Byte) :=
  (List.range entry.size).mapM fun (offset : Nat) =>
    code[(entry.address + BitVec.ofNat 8 offset).toNat]?

/-- The bytes of a line as far as they are shown. -/
def shownBytes (entry : ListingEntry) (bytes : List Byte) : Text :=
  Byte.spacedHex (bytes.take 4) ++ if 4 < entry.size then " ..".toList else []

/-- The line in the listing. -/
def text (entry : ListingEntry) (bytes : List Byte) : Text :=
  Text.padStart ' ' 4 (Text.decimalInt entry.line) ++ [' ', ' '] ++ entry.address.hex ++
    [' ', ' '] ++ Text.padEnd 14 (entry.shownBytes bytes) ++ [' ', ' '] ++ entry.source

/-- The line in the listing of a program with some code, if its bytes can be read. -/
def text? (code : List Byte) (entry : ListingEntry) : Option Text :=
  (entry.bytes? code).map entry.text

end ListingEntry

/-- The labels and their addresses, one on a line. -/
def SymbolTable.listing (symbols : SymbolTable) : List Text :=
  symbols.sorted.map fun entry => Text.padEnd 20 entry.1 ++ [' ', '$'] ++ entry.2.hex

/-- What stands below the lines of a listing. -/
def SymbolTable.appendix (symbols : SymbolTable) : List Text :=
  if symbols.size = 0 then [] else [] :: "Symbols:".toList :: symbols.listing

/-- The lines of the listing of a program, if the bytes of all of them can be read. -/
def Program.listingLines? (program : Program) : Option (List Text) :=
  (program.layout.entries.toList.mapM (ListingEntry.text? program.code)).map
    (· ++ program.layout.symbols.appendix)

namespace Assembler

/-- The listing of the last run, if the bytes of its lines can be read. -/
def listing? (assembler : Assembler) : Option Text :=
  match assembler.program with
  | none => some []
  | some program => program.listingLines?.map fun lines => Text.joinLines lines ++ ['\n']

/-- The labels of the last run, as they are written to a file. -/
def symbolListing (assembler : Assembler) : Text :=
  Text.joinLines assembler.symbols.listing ++ ['\n']

end Assembler
end ByteMachine
