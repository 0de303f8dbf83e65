import ByteMachine.CommandLine.Platform
import ByteMachine.Text.ControlSequence
import ByteMachine.Text.Digit
import ByteMachine.Text.Quoted
import ByteMachine.Text.Resemblance

/-!
# Conventions for command lines

A platform for the tools to run on.  An argument that starts with a dash and goes on is an option: a
long one with two dashes, which may carry its value after an equals sign, or several short ones of
one character each, of which the last may carry its value right after it.  A value that is not
carried is the next argument.  Options and operands may be mixed; after two dashes alone there are
operands only.  Two options that every tool has ask for its version and for help.
-/

namespace ByteMachine
namespace Conventions

/-- An option of a tool: one that every tool has, or one of its own. -/
inductive Choice (ο : Type)
  /-- Asks for the version. -/
  | version
  /-- Asks how the tool is used. -/
  | help
  /-- An option of this tool. -/
  | own (option : ο)
  deriving DecidableEq, Repr

/-- What is wrong with arguments. -/
inductive UsageError
  /-- There is no such option; `similar` are options much like it. -/
  | unknownOption (name : Text) (similar : List Text)
  /-- An option has no value that needs one. -/
  | missingValue (option : Text)
  /-- An option has a value that takes none. -/
  | unexpectedValue (option : Text)
  /-- The operand is missing. -/
  | missingOperand (operand : Text)
  /-- A value is not what a parameter needs. -/
  | invalidValue (parameter reason : Text)
  /-- There are too many operands. -/
  | extraOperands (operands : List Text)
  deriving DecidableEq, Repr

namespace UsageError

/-- What is said about options much like an unknown one. -/
def suggestion : List Text → Text
  | [] => []
  | [name] => " Did you mean ".toList ++ name ++ ['?']
  | names =>
      " (Possible options: ".toList ++
        Text.join [',', ' '] (names.mergeSort fun left right => !right.precedes left) ++ [')']

/-- What is said about an error. -/
def text : UsageError → Text
  | unknownOption name similar => "No such option: ".toList ++ name ++ suggestion similar
  | missingValue option =>
      "Option ".toList ++ Text.escaped option ++ " requires an argument.".toList
  | unexpectedValue option =>
      "Option ".toList ++ Text.escaped option ++ " does not take a value.".toList
  | missingOperand operand => "Missing argument ".toList ++ Text.quoted operand ++ ['.']
  | invalidValue parameter reason =>
      "Invalid value for ".toList ++ parameter ++ ": ".toList ++ reason
  | extraOperands operands =>
      (match operands with
        | [_] => "Got unexpected extra argument (".toList
        | _ => "Got unexpected extra arguments (".toList) ++
        Text.join [' '] operands ++ [')']

/-- Whether the usage of the tool is shown before the error. -/
def showsUsage : UsageError → Bool
  | missingValue _ | unexpectedValue _ => false
  | _ => true

end UsageError

/-! ## Options and operands -/

/-- The options and operands among some arguments. -/
structure Parts (ο : Type) where
  /-- The options with their values, in the order in which they are written. -/
  given : List (Choice ο × Option Text)
  /-- The operands in the order in which they are written. -/
  operands : List Text

/-- What an argument with options says, which may end with an option whose value comes next. -/
structure OptionReading (ο : Type) where
  /-- The options that are complete, with their values. -/
  given : List (Choice ο × Option Text)
  /-- The option that still needs its value, and its name. -/
  awaiting : Option (Choice ο × Text)

section Reading

variable {ο : Type}

/-- The options of a tool and those that every tool has. -/
def allForms (forms : List (OptionForm ο)) : List (OptionForm (Choice ο)) :=
  forms.map (fun form => ⟨.own form.option, form.short, form.long, form.kind⟩) ++
    [⟨.version, none, "--version".toList, .flag⟩, ⟨.help, none, "--help".toList, .flag⟩]

/-- Whether an argument has options and is no operand. -/
def hasOptions : Text → Bool
  | '-' :: _ :: _ => true
  | _ => false

/-- The options of short names in a row. -/
def readShort (forms : List (OptionForm (Choice ο))) (given : List (Choice ο × Option Text)) :
    Text → Except UsageError (OptionReading ο)
  | [] => .ok ⟨given, none⟩
  | name :: rest =>
      match forms.find? fun form => form.short == some name with
      | none => .error (.unknownOption ['-', name] [])
      | some form =>
          if form.kind = .flag then readShort forms (given ++ [(form.option, none)]) rest
          else if rest = [] then .ok ⟨given, some (form.option, ['-', name])⟩
          else .ok ⟨given ++ [(form.option, some rest)], none⟩

/-- The option of a long name. -/
def readLong (form : OptionForm (Choice ο)) (value : Option Text) :
    Except UsageError (OptionReading ο) :=
  match value with
  | some value =>
      if form.kind = .flag then .error (.unexpectedValue form.long)
      else .ok ⟨[(form.option, some value)], none⟩
  | none =>
      if form.kind = .flag then .ok ⟨[(form.option, none)], none⟩
      else .ok ⟨[], some (form.option, form.long)⟩

/-- The options of an argument. -/
def readOptions (forms : List (OptionForm (Choice ο))) (argument : Text) :
    Except UsageError (OptionReading ο) :=
  let name := Text.cut '=' argument
  match forms.find? fun form => form.long == name.1 with
  | some form => readLong form name.2
  | none =>
      match argument with
      | '-' :: '-' :: _ =>
          .error (.unknownOption name.1 (Text.closest name.1 (forms.map OptionForm.long)))
      | _ => readShort forms [] argument.tail

/-- The parts of arguments, read after those that are read already. -/
def readAfter (forms : List (OptionForm (Choice ο))) (done : Parts ο) :
    List Text → Except UsageError (Parts ο)
  | [] => .ok done
  | argument :: rest =>
      if argument = ['-', '-'] then .ok { done with operands := done.operands ++ rest }
      else if hasOptions argument then
        match readOptions forms argument with
        | .error error => .error error
        | .ok reading =>
            let given := done.given ++ reading.given
            match reading.awaiting with
            | none => readAfter forms { done with given } rest
            | some (option, name) =>
                match rest with
                | [] => .error (.missingValue name)
                | value :: rest =>
                    readAfter forms { done with given := given ++ [(option, some value)] } rest
      else readAfter forms { done with operands := done.operands ++ [argument] } rest

namespace Parts

variable [DecidableEq ο] (parts : Parts ο)

/-- The request for a version or for help that comes first. -/
def common? : Option (Choice ο) :=
  (parts.given.find? fun entry => entry.1 = .version || entry.1 = .help).map Prod.fst

/-- Whether an option is given. -/
def has (option : ο) : Bool :=
  parts.given.any fun entry => entry.1 = .own option

/-- The value of an option; the last one counts. -/
def value? (option : ο) : Option Text :=
  (parts.given.reverse.find? fun entry => entry.1 = .own option).bind Prod.snd

/-- The forms of the options that are given, each once, in the order in which they first occur. -/
def forms (all : List (OptionForm ο)) : List (OptionForm ο) :=
  (parts.given.map Prod.fst).eraseDups.filterMap fun choice =>
    all.find? fun form => .own form.option = choice

/-- What a tool is called with for an operand. -/
def arguments (input : Text) : Arguments ο where
  input := input
  file? := parts.value?
  integer? option := (parts.value? option).bind Text.toInt?
  has := parts.has

end Parts
end Reading

/-! ## Values -/

/-- The names of a parameter in a message. -/
def parameterNames (names : List Text) : Text :=
  Text.join " / ".toList (names.map Text.quoted)

/-- Checks that a value names no directory and, if it has to, that it names something. -/
def checkFileName (files : Files) (parameter : Text) (required : Bool) (value : Text) :
    Except UsageError Unit :=
  let reason (fault : String) := "File ".toList ++ Text.escaped value ++ fault.toList
  match files.find? value with
  | none =>
      if required then .error (.invalidValue parameter (reason " does not exist.")) else .ok ()
  | some .directory => .error (.invalidValue parameter (reason " is a directory."))
  | some (.file _) => .ok ()

/-- Checks that a value is an integer that is not less than a bound. -/
def checkInteger (parameter : Text) (least : Int) (value : Text) : Except UsageError Unit :=
  match Text.toInt? value with
  | none =>
      .error (.invalidValue parameter
        (Text.escaped value ++ " is not a valid integer range.".toList))
  | some number =>
      if number < least then
        .error (.invalidValue parameter
          (Text.decimalInt number ++ " is not in the range x>=".toList ++ Text.decimalInt least ++
            ['.']))
      else .ok ()

/-- Checks the value of an option. -/
def checkValue {ο : Type} (files : Files) (form : OptionForm ο) (value : Text) :
    Except UsageError Unit :=
  let parameter :=
    parameterNames ((form.short.toList.map fun name => ['-', name]) ++ [form.long])
  match form.kind with
  | .file => checkFileName files parameter false value
  | .integer least => checkInteger parameter least value
  | .flag => .ok ()

/-! ## Replies -/

section Replies

variable {ο : Type} (tool : Declaration ο)

/-- A line as it is printed. -/
def line (text : Text) : Text :=
  (text ++ ['\n']).withoutSequences

/-- The line that shows how a tool is called. -/
def usage : Text :=
  "Usage: ".toList ++ tool.name ++ " [OPTIONS] ".toList ++ tool.operand

/-- The line that tells where to find help. -/
def advice : Text :=
  "Try '".toList ++ tool.name ++ " --help' for help.".toList

/-- The line with the version. -/
def versionLine : Text :=
  tool.name ++ ", version ".toList ++ tool.version

/-- The reply to invalid arguments. -/
def refuse (error : UsageError) : Reply ο :=
  let shown := if error.showsUsage then line (Text.joinLines [usage tool, advice tool, []]) else []
  .answer .invalidArguments
    (Terminal.blank.addMessages (shown ++ line ("Error: ".toList ++ error.text)))

/-- The reply to a request that all tools answer. -/
def inform : Choice ο → Option (Reply ο)
  | .version => some (.answer .success (Terminal.blank.addOutput (line (versionLine tool))))
  | .help =>
      some (.answer .success
        (Terminal.blank.addOutput (line (Text.joinLines (usage tool :: tool.help)))))
  | .own _ => none

variable [DecidableEq ο]

/-- The arguments for a tool with one operand.  The values of options are checked in the order of the
options, then the operand. -/
def accept (files : Files) (parts : Parts ο) : Except UsageError (Arguments ο) := do
  (parts.forms tool.forms).forM fun form =>
    match parts.value? form.option with
    | some value => checkValue files form value
    | none => .ok ()
  match parts.operands with
  | [] => .error (.missingOperand tool.operand)
  | input :: more =>
      checkFileName files (Text.quoted tool.operand) true input
      if more = [] then return parts.arguments input else .error (.extraOperands more)

/-- The reply to some arguments.  Nothing is checked when the version or help is asked for. -/
def reply (files : Files) (given : List Text) : Reply ο :=
  match readAfter (allForms tool.forms) ⟨[], []⟩ given with
  | .error error => refuse tool error
  | .ok parts =>
      match parts.common?.bind (inform tool) with
      | some informed => informed
      | none =>
          match accept tool files parts with
          | .ok arguments => .call arguments
          | .error error => refuse tool error

end Replies

/-- What is told of where a failure comes from: no more than that it was traced. -/
def trace (_ : ToolFailure) : Text :=
  "Traceback (most recent call last):\n".toList

end Conventions

/-- The platform of the conventions. -/
def Platform.conventional : Platform where
  read tool files given := Conventions.reply tool files given
  shown := Text.withoutSequences
  traceback := Conventions.trace

end ByteMachine
