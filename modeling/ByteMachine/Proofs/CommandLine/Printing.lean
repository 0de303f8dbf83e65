import ByteMachine.CommandLine.Conventions
import ByteMachine.Dump
import ByteMachine.Proofs.Assembly.Operands
import Mathlib.Data.List.Basic

/-!
# What is printed

All that is known of how a platform prints is that a text without an escape character is printed as
it is, and so is a single character.  Numerals and dumps are such texts.  What is printed follows what
was printed before on the same stream, and leaves the other stream as it is.
-/

namespace ByteMachine

namespace Text

/-- A text has no escape character. -/
def IsClear (text : Text) : Prop :=
  escapeCharacter ∉ text

instance (text : Text) : Decidable (IsClear text) :=
  inferInstanceAs (Decidable (escapeCharacter ∉ text))

@[simp]
theorem isClear_nil : IsClear [] :=
  List.not_mem_nil

@[simp]
theorem isClear_cons {c : Char} {text : Text} :
    IsClear (c :: text) ↔ c ≠ escapeCharacter ∧ IsClear text := by
  rw [IsClear, IsClear, List.mem_cons, not_or, ne_comm]

@[simp]
theorem isClear_append {text more : Text} : IsClear (text ++ more) ↔ IsClear text ∧ IsClear more := by
  rw [IsClear, IsClear, IsClear, List.mem_append, not_or]

theorem isClear_join {separator : Text} {texts : List Text} (between : IsClear separator)
    (each : ∀ text ∈ texts, IsClear text) : IsClear (join separator texts) := by
  intro member
  obtain inSeparator | ⟨text, isText, inside⟩ := mem_join member
  · exact between inSeparator
  · exact each text isText inside

theorem IsPlain.isClear {text : Text} (plain : IsPlain text) : IsClear text :=
  plain.not_mem (by decide)

theorem IsClear.withoutSequences_eq {text : Text} (clear : IsClear text) :
    withoutSequences text = text := by
  rw [withoutSequences]
  induction text with
  | nil => rfl
  | cons c rest induction =>
      obtain ⟨solid, clearRest⟩ := isClear_cons.mp clear
      rw [withoutSequencesAfter, if_neg (by simp), if_neg (by simp), if_neg solid,
        induction clearRest]
      rfl

theorem withoutSequences_singleton (c : Char) : withoutSequences [c] = [c] := by
  by_cases escape : c = escapeCharacter
  · rw [escape]
    rfl
  · exact IsClear.withoutSequences_eq (isClear_cons.mpr ⟨escape, isClear_nil⟩)

/-! ## Numerals and dumps -/

theorem isPlain_hexDigits (n : Nat) : IsPlain (hexDigits n) := by
  induction n using Nat.strongRecOn with
  | ind n induction =>
      have last := Operand.isAlphanum_hexDigit (Nat.mod_lt n (by decide : 0 < 16))
      rw [hexDigits]
      split
      next small => simpa [IsPlain, Nat.mod_eq_of_lt small] using last
      next large =>
        intro c member
        rw [List.mem_append, List.mem_singleton] at member
        obtain inFront | rfl := member
        · exact induction (n / 16) (by omega) c inFront
        · exact last

theorem isPlain_hexNat (width n : Nat) : IsPlain (hexNat width n) := by
  intro c member
  rw [hexNat, padStart, List.mem_append] at member
  obtain padding | digit := member
  · rw [List.eq_of_mem_replicate padding]
    rfl
  · exact isPlain_hexDigits n c digit

theorem isPlain_decimalNat (n : Nat) : IsPlain (decimalNat n) := by
  intro c member
  have digit := Nat.isDigit_of_mem_toDigits (by decide) (by decide) member
  rw [Char.isAlphanum, digit, Bool.or_true]

theorem isClear_decimalInt (n : Int) : IsClear (decimalInt n) := by
  cases n with
  | ofNat n => exact (isPlain_decimalNat n).isClear
  | negSucc n => exact isClear_cons.mpr ⟨by decide, (isPlain_decimalNat (n + 1)).isClear⟩

end Text

theorem Byte.isClear_hex (byte : Byte) : byte.hex.IsClear :=
  (Text.isPlain_hexNat 2 byte.toNat).isClear

theorem isClear_hexDump (bytes : List Byte) : (hexDump bytes).IsClear := by
  refine Text.isClear_join (by decide) fun row isRow => ?_
  obtain ⟨⟨part, offset⟩, -, rfl⟩ := List.mem_map.mp isRow
  rw [dumpRow, Text.isClear_append, Text.isClear_append]
  refine ⟨⟨(Text.isPlain_hexNat _ _).isClear, by decide⟩, Text.isClear_join (by decide) ?_⟩
  intro pair isPair
  obtain ⟨bytes, -, rfl⟩ := List.mem_map.mp isPair
  intro member
  obtain ⟨byte, -, inside⟩ := List.mem_flatMap.mp member
  exact byte.isClear_hex inside

theorem flatten_rows {α : Type} (width : Nat) (items : List α) : (rows width items).flatten = items := by
  induction items using rows.induct width with
  | case1 => rw [rows, List.flatten_nil]
  | case2 item rest induction =>
      rw [rows, List.flatten_cons, induction, List.cons_append, List.take_append_drop]

theorem isClear_registerDump (values : List Byte) : (registerDump values).IsClear := by
  refine Text.isClear_join (by decide) fun line isLine => ?_
  obtain ⟨row, isRow, rfl⟩ := List.mem_map.mp isLine
  refine Text.isClear_join (by decide) fun cell inRow => ?_
  have isCell : cell ∈ registerCells values := by
    rw [← flatten_rows 7 (registerCells values)]
    exact List.mem_flatten_of_mem isRow inRow
  obtain ⟨⟨value, index⟩, -, rfl⟩ := List.mem_map.mp isCell
  have clear := (Text.isPlain_hexDigits index).isClear
  simp only [registerCell, Text.isClear_append, Text.isClear_cons]
  exact ⟨⟨by decide, clear⟩, by decide, value.isClear_hex⟩

/-! ## Platforms -/

namespace Platform

variable {platform : Platform}

/-- Only control sequences may be left out by a platform that prints, and a control sequence begins
with an escape character and goes on. -/
structure Faithful (platform : Platform) : Prop where
  /-- A text without escape characters is printed as it is. -/
  shown_of_isClear : ∀ text : Text, text.IsClear → platform.shown text = text
  /-- A single character is printed as it is. -/
  shown_singleton : ∀ c : Char, platform.shown [c] = [c]

theorem conventional_faithful : conventional.Faithful where
  shown_of_isClear _ := Text.IsClear.withoutSequences_eq
  shown_singleton := Text.withoutSequences_singleton

/-- Lines as a platform prints them. -/
def printed (platform : Platform) (lines : List Text) : Text :=
  lines.flatMap fun line => platform.shown (line ++ ['\n'])

theorem printed_nil : platform.printed [] = [] := rfl

theorem printed_singleton (line : Text) : platform.printed [line] = platform.shown (line ++ ['\n']) :=
  List.flatMap_singleton _ _

theorem printed_append (lines more : List Text) :
    platform.printed (lines ++ more) = platform.printed lines ++ platform.printed more :=
  List.flatMap_append

/-- Lines without escape characters are printed as they are. -/
theorem Faithful.printed_of_clear (faithful : platform.Faithful) {lines : List Text}
    (clear : ∀ line ∈ lines, line.IsClear) :
    platform.printed lines = lines.flatMap fun line => line ++ ['\n'] := by
  refine List.flatMap_congr fun line isLine => faithful.shown_of_isClear _ ?_
  exact Text.isClear_append.mpr ⟨clear line isLine, by decide⟩

theorem Faithful.printed_singleton_of_clear (faithful : platform.Faithful) {line : Text}
    (clear : line.IsClear) : platform.printed [line] = line ++ ['\n'] := by
  rw [faithful.printed_of_clear (List.forall_mem_singleton.mpr clear), List.flatMap_singleton]

section

variable (text : Text) (terminal : Terminal)

@[simp]
theorem output_put : (platform.put text terminal).output.toList =
    terminal.output.toList ++ platform.shown text :=
  Array.toList_appendList

@[simp]
theorem output_say : (platform.say text terminal).output.toList =
    terminal.output.toList ++ platform.printed [text] := by
  rw [say, output_put, printed_singleton]

@[simp]
theorem messages_say : (platform.say text terminal).messages = terminal.messages := rfl

@[simp]
theorem messages_report : (platform.report text terminal).messages.toList =
    terminal.messages.toList ++ platform.printed [text] := by
  rw [printed_singleton]
  exact Array.toList_appendList

/-- What is printed about a failure after its message: where it comes from, if the tool itself has
failed and much is to be said. -/
def traced (platform : Platform) (verbose : Bool) : ToolFailure → Text
  | .internal message => if verbose then platform.traceback (.internal message) else []
  | _ => []

variable {verbose : Bool} {kind : Text} {failure : ToolFailure} {terminal : Terminal}

theorem messages_reportFailure :
    (platform.reportFailure verbose kind failure terminal).messages.toList =
      terminal.messages.toList ++
        (platform.printed [failure.text kind] ++ platform.traced verbose failure) := by
  have reported : (platform.report (failure.text kind) terminal).messages.toList = _ :=
    messages_report _ _
  rw [← List.append_assoc, ← reported]
  cases failure with
  | internal message =>
      cases verbose with
      | true => exact Array.toList_appendList
      | false => exact (List.append_nil _).symm
  | _ => exact (List.append_nil _).symm

theorem output_reportFailure :
    (platform.reportFailure verbose kind failure terminal).output = terminal.output := by
  cases failure with
  | internal message => cases verbose <;> rfl
  | _ => rfl

end
end Platform

/-! ## The log -/

namespace LogLevel

/-- Lines of the log as they are printed, if their level is shown. -/
def logged (level : LogLevel) (verbose : Bool) (lines : List Text) : Text :=
  if level.isShown verbose then
    lines.flatMap fun line => level.name ++ ": ".toList ++ line ++ ['\n']
  else []

theorem logged_append (level : LogLevel) (verbose : Bool) (lines more : List Text) :
    level.logged verbose (lines ++ more) = level.logged verbose lines ++ level.logged verbose more := by
  rw [logged, logged, logged]
  split
  · exact List.flatMap_append
  · rfl

end LogLevel

namespace Terminal

variable (text : Text) (terminal : Terminal)

@[simp]
theorem output_log (verbose : Bool) (level : LogLevel) :
    (terminal.log verbose level text).output = terminal.output := by
  rw [log]
  split <;> rfl

@[simp]
theorem messages_log (verbose : Bool) (level : LogLevel) :
    (terminal.log verbose level text).messages.toList =
      terminal.messages.toList ++ level.logged verbose [text] := by
  rw [log, LogLevel.logged]
  split
  · rw [List.flatMap_singleton]
    exact Array.toList_appendList
  · exact (List.append_nil _).symm

end Terminal
end ByteMachine
