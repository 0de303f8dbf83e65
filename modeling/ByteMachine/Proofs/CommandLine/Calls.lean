import ByteMachine.CommandLine.Assemble
import ByteMachine.CommandLine.Conventions
import ByteMachine.Proofs.Outcome

/-!
# Calling a tool

By the conventions for command lines, a tool is called when its options have valid values and its
operand names a file.  Every choice of the files that the assembler is to write, and of whether much
is to be said, can be put into arguments.
-/

namespace ByteMachine
namespace Conventions

variable {ο : Type} [DecidableEq ο] {tool : Declaration ο} {files : Files} {given : List Text}
  {parts : Parts ο} {input : Text}

theorem checkFileName_eq_ok {name : Text} (free : files.find? name ≠ some .directory)
    (parameter : Text) : checkFileName files parameter false name = .ok () := by
  rw [checkFileName]
  cases found : files.find? name with
  | none => rfl
  | some node =>
      cases node with
      | file bytes => rfl
      | directory => exact absurd found free

theorem accept_eq_ok (valid : ∀ form ∈ tool.forms, ∀ value,
      parts.value? form.option = some value → checkValue files form value = .ok ())
    (operand : parts.operands = [input]) {bytes : List Byte}
    (isFile : files.find? input = some (.file bytes)) :
    accept tool files parts = .ok (parts.arguments input) := by
  refine bind_eq_ok_iff.mpr ⟨(), forM_eq_ok fun form isForm => ?_, ?_⟩
  · obtain ⟨choice, -, found⟩ := List.mem_filterMap.mp isForm
    cases isValue : parts.value? form.option with
    | none => rfl
    | some value => exact valid form (List.mem_of_find?_eq_some found) value isValue
  · have isThere : checkFileName files (Text.quoted tool.operand) true input = .ok () := by
      rw [checkFileName, isFile]
    rw [operand]
    change checkFileName files (Text.quoted tool.operand) true input >>= _ = _
    rw [isThere]
    rfl

/-- A tool is called when nothing is asked for that all tools answer, the values of its options are
valid, and its operand names a file. -/
theorem reply_eq_call (read : readAfter (allForms tool.forms) ⟨[], []⟩ given = .ok parts)
    (notCommon : parts.common? = none)
    (valid : ∀ form ∈ tool.forms, ∀ value, parts.value? form.option = some value →
      checkValue files form value = .ok ())
    (operand : parts.operands = [input]) {bytes : List Byte}
    (isFile : files.find? input = some (.file bytes)) :
    Platform.conventional.read tool files given = .call (parts.arguments input) := by
  change reply tool files given = _
  rw [reply, read]
  simp only [notCommon, Option.bind_none, accept_eq_ok valid operand isFile]

end Conventions

namespace AssembleTool

open Conventions

/-- A short option with its value, if there is one. -/
def shortOption (name : Char) (value : Option Text) : List Text :=
  match value with
  | none => []
  | some value => [['-', name], value]

/-- A command line with a choice of options and an input file. -/
def commandLine (output listing symbols : Option Text) (verbose : Bool) (input : Text) : List Text :=
  shortOption 'o' output ++ shortOption 'l' listing ++ shortOption 's' symbols ++
    (if verbose then [['-', 'v']] else []) ++ [['-', '-'], input]

/-- The parts of such a command line. -/
def parts (output listing symbols : Option Text) (verbose : Bool) (input : Text) :
    Parts AssembleOption where
  given :=
    output.toList.map (fun file => (.own .output, some file)) ++
      listing.toList.map (fun file => (.own .listing, some file)) ++
      symbols.toList.map (fun file => (.own .symbols, some file)) ++
      if verbose then [(.own .verbose, none)] else []
  operands := [input]

section

variable (output listing symbols : Option Text) (verbose : Bool) (input : Text)

theorem readAfter_commandLine :
    readAfter (allForms declaration.forms) ⟨[], []⟩
        (commandLine output listing symbols verbose input) =
      .ok (parts output listing symbols verbose input) := by
  cases output <;> cases listing <;> cases symbols <;> cases verbose <;> rfl

theorem common?_parts : (parts output listing symbols verbose input).common? = none := by
  cases output <;> cases listing <;> cases symbols <;> cases verbose <;> rfl

theorem value?_parts (option : AssembleOption) :
    (parts output listing symbols verbose input).value? option =
      (match option with
        | .output => output
        | .listing => listing
        | .symbols => symbols
        | .verbose => none) := by
  cases option <;> cases output <;> cases listing <;> cases symbols <;> cases verbose <;> rfl

end

variable {files : Files} {input : Text}

theorem checkValue_eq_ok {form : OptionForm AssembleOption} (declared : form ∈ declaration.forms)
    {value : Text} (free : files.find? value ≠ some .directory) :
    checkValue files form value = .ok () := by
  simp only [declaration, List.mem_cons, List.not_mem_nil, or_false] at declared
  obtain rfl | rfl | rfl | rfl := declared
  · exact checkFileName_eq_ok free _
  · exact checkFileName_eq_ok free _
  · exact checkFileName_eq_ok free _
  · rfl

/-- Every choice of options can be asked for, as long as no directory is to be written. -/
theorem read_commandLine {output listing symbols : Option Text} (verbose : Bool)
    {bytes : List Byte} (isFile : files.find? input = some (.file bytes))
    (free : ∀ file ∈ output.toList ++ listing.toList ++ symbols.toList,
      files.find? file ≠ some .directory) :
    Platform.conventional.read declaration files
        (commandLine output listing symbols verbose input) =
      .call ((parts output listing symbols verbose input).arguments input) := by
  simp only [List.mem_append, Option.mem_toList] at free
  refine reply_eq_call (readAfter_commandLine _ _ _ _ _) (common?_parts _ _ _ _ _) ?_ rfl isFile
  intro form declared value isValue
  refine checkValue_eq_ok declared ?_
  rw [value?_parts] at isValue
  generalize form.option = option at isValue
  cases option with
  | output => exact free value (.inl (.inl isValue))
  | listing => exact free value (.inl (.inr isValue))
  | symbols => exact free value (.inr isValue)
  | verbose => cases isValue

end AssembleTool
end ByteMachine
