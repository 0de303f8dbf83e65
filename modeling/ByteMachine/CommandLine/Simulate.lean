import ByteMachine.Assembly.Remarks
import ByteMachine.CommandLine.Tool
import ByteMachine.Dump
import ByteMachine.Instruction
import ByteMachine.Simulator

/-!
# The simulator as a tool

The tool assembles a source file, loads it and runs it.  What the program prints goes to the output
at once; at the end the registers, the program counter and the number of steps follow.  When asked
to, the tool prints every instruction as it is fetched.
-/

namespace ByteMachine

/-- The options of the simulator. -/
inductive SimulateOption
  | maxSteps
  | trace
  | verbose
  deriving DecidableEq, Repr

namespace SimulateTool

/-- What the tool says about itself. -/
def declaration : Declaration SimulateOption where
  name := "simrun".toList
  version := toolVersion
  operand := inputOperand
  help := (["",
    "  Assemble and run a Simple Simulator program.",
    "",
    "  INPUT_FILE is the assembly source file (.asm) to run.",
    "",
    "  Examples:",
    "      simrun hello.asm               # Run, echo output",
    "      simrun --trace count.asm       # Show each instruction",
    "",
    "Options:",
    "  --max-steps INTEGER RANGE  Maximum instructions to execute (default: 10000)",
    "                             [x>=1]",
    "  --trace                    Print every instruction as it is fetched",
    "  -v, --verbose              Enable verbose output",
    "  --version                  Show the version and exit.",
    "  --help                     Show this message and exit."] : List String).map String.toList
  forms :=
    [⟨.maxSteps, none, "--max-steps".toList, .integer 1⟩,
      ⟨.trace, none, "--trace".toList, .flag⟩,
      ⟨.verbose, some 'v', "--verbose".toList, .flag⟩]

/-- What can be done with the simulator and the terminal. -/
abbrev Work (α : Type) := Simulator.Activity Terminal α

/-- Prints something. -/
def print (change : Terminal → Terminal) : Work Unit :=
  Simulator.Activity.changeHost change

/-- The line of the trace for a word that was fetched from an address. -/
def traceLine (address : Byte) (word : Word) : Text :=
  '$' :: address.hex ++ ": ".toList ++ word.hex ++ "  ".toList ++ word.text

/-- The line of the log for the machine's coming to a halt. -/
def haltLine (address : Byte) : Text :=
  "HALT at $".toList ++ address.hex

/-- The description of a stop; there is none of a stop that lacks a number to be named. -/
def describe (stop : Stop) : Work Text :=
  match stop.text? with
  | some text => return text
  | none =>
      Action.fail (.raised "unsupported format string passed to NoneType.__format__".toList)

/-- The settings of the environment, of which an option replaces one. -/
def settings (chosen : Arguments SimulateOption) (environment : Text → Option Text) : Settings :=
  let settings := Settings.ofEnvironment environment
  match chosen.integer? .maxSteps with
  | some maxSteps => { settings with maxSteps }
  | none => settings

/-- The failure of the tool for what can go wrong with a simulator. -/
def failure : Interruption Failure → ToolFailure
  | .failed (.refused fault) => .ofFault fault
  | .failed (.raised message) => .internal message
  | .unfinished => .internal "unfinished".toList

section Printing

variable (platform : Platform)

/-- What the tool prints while the machine runs.  A word is announced before the program counter is
advanced past it, and a halt is logged after that. -/
def hear (trace verbose : Bool) : Simulator.Hearer Terminal
  | .output byte => print (platform.put [Simulator.character byte])
  | .instructionChanged word => do
      if trace then
        let address := (← Action.machine).counter
        print (platform.report (traceLine address word))
  | .counterChanged counter => do
      if (← Action.machine).instruction.operation = .halt then
        print (Terminal.log verbose .debug (haltLine (counter - 2)))
  | _ => return

/-- Assembles a source, loads its program, and prints what there is to say about it. -/
def load (verbose : Bool) (hear : Simulator.Hearer Terminal) (file source : Text) : Work Unit := do
  for remark in Program.remarks file source do
    print (Terminal.log verbose .debug remark.text)
  let words ← Simulator.assembleAndLoad hear file source
  let count := Text.decimalNat words.length ++ " instructions".toList
  if (← Action.surroundings).settings.clearsMemory then
    print (Terminal.log verbose .debug "Clearing memory".toList)
  print (Terminal.log verbose .debug ("Loaded ".toList ++ count))
  print (Terminal.log verbose .info ("Loaded ".toList ++ file ++ ": ".toList ++ count))
  if verbose then print (platform.report ("Loaded ".toList ++ count))

/-- Runs the program and prints what there is to say about the run. -/
def execute (verbose : Bool) (hear : Simulator.Hearer Terminal) : Work Stop := do
  let limit := Text.decimalInt (← Action.surroundings).settings.maxSteps
  print (Terminal.log verbose .debug
    ("Run from $".toList ++ (← Action.machine).counter.hex ++ " (max_steps=".toList ++ limit ++
      [')']))
  let stop ← Simulator.run hear none
  let description ← describe stop
  print (Terminal.log verbose .debug
    ("Run stopped after ".toList ++ Text.decimalInt stop.steps ++ " steps: ".toList ++ description))
  if stop.reason = .stepLimit then
    print (Terminal.log verbose .warning
      ("Program did not halt within ".toList ++ limit ++ " steps".toList))
  return stop

/-- Ends the line that the program has printed last. -/
def endOutput : Work Unit := do
  let output := (← Action.surroundings).output
  if output ≠ [] ∧ output.getLast? ≠ some '\n' then print (platform.say [])

/-- Prints the state of the machine after a run. -/
def conclude (stop : Stop) : Work Unit := do
  endOutput platform
  if stop.reason ≠ .halt then
    print (platform.report ("Stopped: ".toList ++ (← describe stop)))
  let machine ← Action.machine
  print (platform.say (registerDump machine.registers.toList))
  print (platform.say
    ("PC=".toList ++ machine.counter.hex ++ " steps=".toList ++ Text.decimalInt stop.steps))

/-- The work of the simulator on a source. -/
def simulate (trace verbose : Bool) (file source : Text) : Work Unit := do
  let hear := Simulator.collecting (hear platform trace verbose)
  load platform verbose hear file source
  conclude platform (← execute verbose hear)

/-- The outcome of simulating a source file. -/
def outcome (files : Files) (environment : Text → Option Text) (chosen : Arguments SimulateOption) :
    Outcome :=
  let verbose := chosen.has .verbose
  let file := plainPath chosen.input
  let terminal :=
    if verbose then platform.report ("Assembling ".toList ++ file ++ "...".toList) .blank
    else .blank
  match readSource files file with
  | .error failure => platform.failed verbose failure terminal files
  | .ok source =>
      let world := Simulator.world (settings chosen environment) terminal
      let simulation := simulate platform (chosen.has .trace) verbose file source
      match EStateM.run simulation world with
      | .ok _ world => ⟨.success, world.surroundings.host, files⟩
      | .error interruption world =>
          platform.failed verbose (failure interruption) world.surroundings.host files

/-- What the simulator leaves behind. -/
def run (given : List Text) (files : Files) (environment : Text → Option Text) : Outcome :=
  platform.call declaration files given (outcome platform files environment)

end Printing

end SimulateTool
end ByteMachine
