import ByteMachine.CommandLine.Assemble
import ByteMachine.CommandLine.Conventions
import ByteMachine.CommandLine.Simulate

/-!
# The command line

The first argument names a tool, the rest are its arguments.  The files that the arguments may name
are looked at beforehand, and what the tool leaves behind is printed and written.
-/

namespace ByteMachine
namespace CommandLine

/-- The bytes of a file. -/
def ofByteArray (bytes : ByteArray) : List Byte :=
  bytes.toList.map fun byte => byte.toBitVec

/-- Bytes as they are written to a file. -/
def toByteArray (bytes : List Byte) : ByteArray :=
  ⟨(bytes.map UInt8.ofBitVec).toArray⟩

/-- What stands at a path, if anything can be read there.  A directory is found by its being no file
that can be read. -/
def look (path : Path) : IO (Option FileNode) := do
  try return some (.file (ofByteArray (← IO.FS.readBinFile (String.ofList path.text))))
  catch
    | .inappropriateType .. => return some .directory
    | _ => return none

/-- The ends of a text. -/
def ends : Text → List Text
  | [] => []
  | c :: rest => (c :: rest) :: ends rest

/-- The paths that arguments may name: an argument may end with a path. -/
def mentionedPaths (arguments : List Text) : List Path :=
  (arguments.flatMap ends).flatMap passedPaths

/-- The files that arguments may name. -/
def survey (arguments : List Text) : IO Files := do
  let entries ← (mentionedPaths arguments).eraseDups.filterMapM fun path => do
    return (← look path).map fun node => (path, node)
  return ⟨entries⟩

/-- The value of a variable of the environment. -/
def environmentValue (name : Text) : IO (Option Text) := do
  return (← IO.getEnv (String.ofList name)).map String.toList

/-- The variables of the environment that settings depend on. -/
def environment : IO (Text → Option Text) := do
  let maxSteps ← environmentValue Settings.maxStepsVariable
  let clearMemory ← environmentValue Settings.clearMemoryVariable
  return fun name =>
    if name = Settings.maxStepsVariable then maxSteps
    else if name = Settings.clearMemoryVariable then clearMemory
    else none

/-- Prints and writes what a tool leaves behind. -/
def settle (before : Files) (outcome : Outcome) : IO UInt32 := do
  for change in outcome.files.changedSince before do
    IO.FS.writeBinFile (String.ofList change.1.text) (toByteArray change.2)
  (← IO.getStdout).putStr (String.ofList outcome.terminal.output.toList)
  (← IO.getStderr).putStr (String.ofList outcome.terminal.messages.toList)
  return outcome.exitCode.number.toUInt32

/-- Calls a tool with its arguments. -/
def call (tool : Text) (arguments : List Text) : IO UInt32 := do
  let files ← survey arguments
  let platform := Platform.conventional
  if tool = AssembleTool.declaration.name then
    settle files (AssembleTool.run platform arguments files)
  else if tool = SimulateTool.declaration.name then
    settle files (SimulateTool.run platform arguments files (← environment))
  else
    (← IO.getStderr).putStrLn "The first argument has to be simasm or simrun."
    return 2

end CommandLine
end ByteMachine

/-- Calls the tool that the first argument names with the arguments after it. -/
def main (arguments : List String) : IO UInt32 :=
  let texts := arguments.map String.toList
  ByteMachine.CommandLine.call (texts.headD []) texts.tail
