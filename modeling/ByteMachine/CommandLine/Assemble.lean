import ByteMachine.Assembly.Listing
import ByteMachine.Assembly.Remarks
import ByteMachine.CommandLine.Tool
import ByteMachine.Dump

/-!
# The assembler as a tool

The tool assembles a source file.  It writes the code, a listing and the labels to the files it is
told to write, in this order, and shows the code when it is not written.  Nothing is written or
shown before the source is assembled.
-/

namespace ByteMachine

/-- The options of the assembler. -/
inductive AssembleOption
  | output
  | listing
  | symbols
  | verbose
  deriving DecidableEq, Repr

/-- The files that an assembler works with and what it has printed. -/
structure Desk where
  /-- The files. -/
  files : Files
  /-- What was printed. -/
  terminal : Terminal

namespace AssembleTool

/-- What the tool says about itself. -/
def declaration : Declaration AssembleOption where
  name := "simasm".toList
  version := toolVersion
  operand := inputOperand
  help := (["",
    "  Assemble Simple Simulator source code.",
    "",
    "  INPUT_FILE is the assembly source file (.asm) to assemble.",
    "",
    "  The output is the raw machine code, two bytes per instruction, starting at",
    "  address 00.",
    "",
    "  Examples:",
    "      simasm count.asm                 # Print hex dump",
    "      simasm count.asm -o count.bin    # Write raw bytes",
    "      simasm count.asm -l count.lst    # Also write a listing",
    "",
    "Options:",
    "  -o, --output FILE   Output binary file (default: print hex dump)",
    "  -l, --listing FILE  Generate listing file",
    "  -s, --symbols FILE  Generate symbol file",
    "  -v, --verbose       Enable verbose output",
    "  --version           Show the version and exit.",
    "  --help              Show this message and exit."] : List String).map String.toList
  forms :=
    [⟨.output, some 'o', "--output".toList, .file⟩,
      ⟨.listing, some 'l', "--listing".toList, .file⟩,
      ⟨.symbols, some 's', "--symbols".toList, .file⟩,
      ⟨.verbose, some 'v', "--verbose".toList, .flag⟩]

/-- What can be done with the files and the terminal. -/
abbrev Work (α : Type) := EStateM ToolFailure Desk α

/-- Prints something. -/
def print (change : Terminal → Terminal) : Work Unit :=
  modify fun desk => { desk with terminal := change desk.terminal }

/-- Assembles a source and prints the remarks on it. -/
def assemble (verbose : Bool) (file source : Text) : Work Program := do
  for remark in Program.remarks file source do
    print (Terminal.log verbose .debug remark.text)
  match Program.assemble file source with
  | .ok program => return program
  | .error fault => throw (.ofFault fault)

/-- The listing of an assembler as it is written to a file. -/
def listingBytes (assembler : Assembler) : Work (List Byte) :=
  match assembler.listing? with
  | some listing => return Text.encodeUtf8 listing
  | none => throw (.internal "index out of range".toList)

/-- Writes a file under the name it is given. -/
def write (verbose : Bool) (file : Text) (bytes : List Byte) : Work Unit := do
  match (← get).files.write file bytes with
  | .ok files =>
      modify fun desk => { desk with files }
      print (Terminal.log verbose .debug ("Wrote ".toList ++ file))
  | .error .missing => throw (.file (PathFault.missing.message (Text.escaped file)))
  | .error fault => throw (.internal (fault.message (Text.escaped file)))

/-- A number of bytes as it is said. -/
def bytesText (code : List Byte) : Text :=
  Text.decimalNat code.length ++ " bytes".toList

section Printing

variable (platform : Platform)

/-- Prints a line on the output if much is to be said. -/
def say (verbose : Bool) (text : Text) : Work Unit :=
  if verbose then print (platform.say text) else return

/-- Writes a file if it has a name; only then it is found out what it will hold. -/
def writeNamed (verbose : Bool) (file : Option Text) (content : Work (List Byte)) (what : Text) :
    Work Unit := do
  match file with
  | none => return
  | some file =>
      let file := plainPath file
      write verbose file (← content)
      say platform verbose ("Wrote ".toList ++ what ++ " to ".toList ++ file)

/-- Writes and shows what is asked for of a program. -/
def deliver (chosen : Arguments AssembleOption) (program : Program) : Work Unit := do
  let verbose := chosen.has .verbose
  let assembler : Assembler := ⟨some program⟩
  let code := program.code
  match chosen.file? .output with
  | some file => writeNamed platform verbose (some file) (return code) (bytesText code)
  | none => print (platform.say (hexDump code))
  writeNamed platform verbose (chosen.file? .listing) (listingBytes assembler) "listing".toList
  writeNamed platform verbose (chosen.file? .symbols)
    (return Text.encodeUtf8 assembler.symbolListing) "symbols".toList
  say platform verbose ("Assembly complete: ".toList ++ Text.decimalNat (code.length / 2) ++
    " instructions (".toList ++ bytesText code ++ [')'])
  say platform verbose
    ("Defined ".toList ++ Text.decimalNat assembler.symbols.size ++ " symbols".toList)

/-- The work of the assembler on a source file. -/
def work (chosen : Arguments AssembleOption) : Work Unit := do
  let verbose := chosen.has .verbose
  let file := plainPath chosen.input
  say platform verbose ("Assembling ".toList ++ file ++ "...".toList)
  print (Terminal.log verbose .debug ("Assembling ".toList ++ file))
  match readSource (← get).files file with
  | .ok source => deliver platform chosen (← assemble verbose file source)
  | .error failure => throw failure

/-- The outcome of assembling a source file. -/
def outcome (files : Files) (chosen : Arguments AssembleOption) : Outcome :=
  match EStateM.run (work platform chosen) ⟨files, .blank⟩ with
  | .ok _ desk => ⟨.success, desk.terminal, desk.files⟩
  | .error failure desk => platform.failed (chosen.has .verbose) failure desk.terminal desk.files

/-- What the assembler leaves behind. -/
def run (given : List Text) (files : Files) : Outcome :=
  platform.call declaration files given (outcome platform files)

end Printing

end AssembleTool
end ByteMachine
