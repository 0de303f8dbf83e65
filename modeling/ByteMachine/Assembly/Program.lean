import ByteMachine.Assembly.Image
import ByteMachine.Assembly.SourceLine
import ByteMachine.Text.Lines

/-!
# Assembling

A source is taken line by line.  First every line that is not blank is read by itself, and the first
one that cannot be read is reported.  Then the lines are laid out in order: a label gets the current
origin as its address, and a statement fills cells, a label operand with its address if it is
defined by then and else with a reference that is resolved at the end.  So whether a line can be
read does not depend on the lines around it.
-/

namespace ByteMachine

/-- A line of source that was read, with its place. -/
structure PlacedLine where
  /-- Where the line stands; the column is that of its first character that is no blank. -/
  location : Location
  /-- The line without the blanks at its end. -/
  source : Text
  /-- The label defined on the line. -/
  label : Option Text
  /-- The statement of the line. -/
  statement : Option Statement
  deriving DecidableEq, Repr

namespace PlacedLine

/-- The place of a line of source. -/
def place (file : Text) (number : Nat) (text : Text) : Location :=
  ⟨file, number, text.length - (Text.trimStart text).length + 1⟩

/-- The line with the given number, read. -/
def read (file : Text) (number : Nat) (text : Text) : Except (Fault Diagnostic) PlacedLine :=
  let location := place file number text
  let source := Text.trimEnd text
  let located := Except.mapError <| Fault.map fun cause : Cause =>
    ⟨cause, some location, some source⟩
  located <| do
    let line ← (SourceLine.ofText text).mapError .reported
    let statement ← line.statement
    return ⟨location, source, line.label, statement⟩

end PlacedLine

/-- The lines of a source that are not blank, each with its number. -/
def numberedLines (source : Text) : List (Nat × Text) :=
  ((Text.lines source).zipIdx 1).filterMap fun line =>
    if Text.trim line.1 = [] then none else some (line.2, line.1)

/-- A line in the listing of a program. -/
structure ListingEntry where
  /-- Number of the line in the source. -/
  line : Int
  /-- Address of the first cell that the line fills. -/
  address : Byte
  /-- Number of cells that the line fills. -/
  size : Nat
  /-- The line without the blanks at its end. -/
  source : Text
  deriving DecidableEq, Repr

/-- What has been laid out of a source. -/
structure Layout where
  /-- The labels defined so far. -/
  symbols : SymbolTable
  /-- The cells filled so far. -/
  image : Image
  /-- The lines with a label or a statement, in order. -/
  entries : Array ListingEntry
  deriving DecidableEq

namespace Layout

/-- The layout of no lines. -/
def empty : Layout :=
  ⟨SymbolTable.empty, Image.empty, #[]⟩

/-- The layout with a label defined at the origin. -/
def define (layout : Layout) (label : Option Text) : Layout :=
  match label with
  | none => layout
  | some name => { layout with symbols := layout.symbols.define name layout.image.origin }

/-- The layout with one more cell filled by an operand used on the given line. -/
def fill (line : PlacedLine) (layout : Layout) (target : Target) : Layout :=
  { layout with
    image := layout.image.put
      (ImageCell.ofReference (some line.location) (some line.source)
        (target.resolve id layout.symbols.find?)) }

/-- The layout with one more line in the listing. -/
def list (line : PlacedLine) (address : Byte) (size : Nat) (layout : Layout) : Layout :=
  { layout with
    entries := layout.entries.push ⟨line.location.line, address, size, line.source⟩ }

/-- The layout after the statement of a line.  The size in the listing is the distance that the
origin moved, modulo the size of the memory. -/
def perform (layout : Layout) (line : PlacedLine) : Layout :=
  match line.statement with
  | none => if line.label.isSome then layout.list line layout.image.origin 0 else layout
  | some (.origin address) =>
      list line address 0 { layout with image := layout.image.moveTo address }
  | some statement =>
      let filled := statement.cells.foldl (fill line) layout
      filled.list line layout.image.origin (filled.image.origin - layout.image.origin).toNat

/-- The layout after one more line. -/
def add (layout : Layout) (line : PlacedLine) : Layout :=
  (layout.define line.label).perform line

end Layout

/-- A program that was assembled. -/
structure Program where
  /-- Its labels, cells and listing. -/
  layout : Layout
  /-- Its words, from address zero on. -/
  words : List Word
  deriving DecidableEq

namespace Program

/-- The bytes of a program. -/
def code (program : Program) : List Byte :=
  Word.joinBytes program.words

/-- The program of a source, whose name is used in reports. -/
def assemble (file source : Text) : Except (Fault Diagnostic) Program := do
  let lines ← (numberedLines source).mapM fun line => PlacedLine.read file line.1 line.2
  let layout := lines.foldl Layout.add Layout.empty
  let words ← (layout.image.words layout.symbols).mapError .reported
  return ⟨layout, words⟩

end Program

/-- The name of a source that comes from no file. -/
def inputName : Text :=
  "<input>".toList

/-- An assembler keeps the program of its last run, if that succeeded. -/
structure Assembler where
  /-- The program of the last run. -/
  program : Option Program
  deriving DecidableEq

namespace Assembler

/-- An assembler that has not run. -/
def fresh : Assembler :=
  ⟨none⟩

/-- A run of the assembler.  The program of the run before is dropped at the start; the new one is kept
when the run comes to its end. -/
def run (file source : Text) : EStateM (Fault Diagnostic) Assembler (List Word) := do
  set fresh
  let layout ← (numberedLines source).foldlM
    (fun layout line => return layout.add (← ofExcept (PlacedLine.read file line.1 line.2)))
    Layout.empty
  let words ← ofExcept ((layout.image.words layout.symbols).mapError .reported)
  set (⟨some ⟨layout, words⟩⟩ : Assembler)
  return words

/-- What comes out of a run of the assembler, and the assembler afterwards. -/
def assemble (assembler : Assembler) (file source : Text) :
    Except (Fault Diagnostic) (List Word) × Assembler :=
  match EStateM.run (run file source) assembler with
  | .ok words after => (.ok words, after)
  | .error fault after => (.error fault, after)

/-- The words of the last run. -/
def words (assembler : Assembler) : List Word :=
  (assembler.program.map Program.words).getD []

/-- The bytes of the last run. -/
def code (assembler : Assembler) : List Byte :=
  Word.joinBytes assembler.words

/-- The labels of the last run. -/
def symbols (assembler : Assembler) : SymbolTable :=
  (assembler.program.map (·.layout.symbols)).getD SymbolTable.empty

end Assembler
end ByteMachine
