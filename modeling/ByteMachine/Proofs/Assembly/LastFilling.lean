import ByteMachine.Proofs.Assembly.LabelResolution
import ByteMachine.Proofs.Assembly.LineReading
import Mathlib.Data.List.Induction

/-!
# What is left in the cells

The last line that fills a cell decides what the cell holds at the end of the source: a byte, or a
label operand.  A cell fails to have a byte exactly when it holds an operand whose label no line
defines.  When no label is defined twice, an operand is looked up among all definitions, no matter
what was known on its own line; so the last filling and the definitions tell the byte of the cell.
-/

namespace ByteMachine

/-! ## Images -/

namespace Image

variable {α β : Type}

/-- What is put last into a cell when values are put down one after another from an address on. -/
def lastPut (cell address : Byte) : List α → Option α
  | [] => none
  | value :: rest =>
      (lastPut cell (address + 1) rest).or (if cell = address then some value else none)

theorem lastPut_map (f : α → β) (cell address : Byte) (values : List α) :
    lastPut cell address (values.map f) = (lastPut cell address values).map f := by
  induction values generalizing address with
  | nil => rfl
  | cons value rest induction =>
      rw [List.map_cons, lastPut, lastPut, induction, Option.map_or]
      split <;> rfl

theorem exists_of_lastPut {cell address : Byte} {values : List α} {value : α}
    (put : lastPut cell address values = some value) :
    ∃ offset, values[offset]? = some value ∧ cell = address + BitVec.ofNat 8 offset := by
  induction values generalizing address with
  | nil => cases put
  | cons first rest induction =>
      rw [lastPut, Option.or_eq_some_iff] at put
      obtain later | ⟨-, here⟩ := put
      · obtain ⟨offset, there, same⟩ := induction later
        refine ⟨offset + 1, there, ?_⟩
        rw [same]
        apply BitVec.eq_of_toNat_eq
        simp
        omega
      · obtain ⟨same, isFirst⟩ := Option.ite_none_right_eq_some.mp here
        exact ⟨0, isFirst, by simpa using same⟩

theorem read_putAll (image : Image) (cells : List ImageCell) (cell : Byte) :
    (image.putAll cells).cells.read cell =
      (lastPut cell image.origin cells).or (image.cells.read cell) := by
  induction cells generalizing image with
  | nil => rfl
  | cons first rest induction =>
      rw [putAll_cons, induction, lastPut, Option.or_assoc, put, Cells.read_write]
      split <;> rfl

end Image

/-! ## Lines -/

namespace PlacedLine

/-- What a line at an address puts into a cell, if it fills it. -/
def filling (cell address : Byte) (line : PlacedLine) : Option Target :=
  line.statement.bind fun statement => Image.lastPut cell address statement.cells

/-- The last line that fills a cell and what it puts there, among lines of which the first one is at
an address. -/
def lastFilling (cell address : Byte) : List PlacedLine → Option (PlacedLine × Target)
  | [] => none
  | line :: rest =>
      (lastFilling cell (line.next address) rest).or
        ((line.filling cell address).map fun target => (line, target))

theorem mem_filled_of_filling {cell address : Byte} {line : PlacedLine} {target : Target}
    (puts : line.filling cell address = some target) : cell ∈ line.filled address := by
  obtain ⟨statement, isStatement, put⟩ := Option.bind_eq_some_iff.mp puts
  obtain ⟨offset, there, same⟩ := Image.exists_of_lastPut put
  obtain ⟨small, -⟩ := List.getElem?_eq_some_iff.mp there
  rw [filled, isStatement]
  exact List.mem_map.mpr ⟨offset, List.mem_range.mpr small, same.symm⟩

theorem lastFilling_append (cell address : Byte) (lines more : List PlacedLine) :
    lastFilling cell address (lines ++ more) =
      (lastFilling cell (cursor address lines) more).or (lastFilling cell address lines) := by
  induction lines generalizing address with
  | nil => simp [lastFilling]
  | cons line rest induction =>
      rw [List.cons_append, lastFilling, induction, lastFilling, Option.or_assoc, cursor_cons]

/-- The line that fills a cell last, where it stands among the others. -/
theorem exists_of_lastFilling {cell address : Byte} {lines : List PlacedLine} {line : PlacedLine}
    {target : Target} (last : lastFilling cell address lines = some (line, target)) :
    ∃ before after, lines = before ++ line :: after ∧
      line.filling cell (cursor address before) = some target := by
  induction lines generalizing address with
  | nil => cases last
  | cons first rest induction =>
      rw [lastFilling, Option.or_eq_some_iff] at last
      obtain later | ⟨-, here⟩ := last
      · obtain ⟨before, after, rfl, puts⟩ := induction later
        exact ⟨first :: before, after, rfl, puts⟩
      · obtain ⟨put, puts, same⟩ := Option.map_eq_some_iff.mp here
        cases same
        exact ⟨[], rest, rfl, puts⟩

theorem mem_filledBy_of_lastFilling {cell address : Byte} {lines : List PlacedLine}
    {line : PlacedLine} {target : Target}
    (last : lastFilling cell address lines = some (line, target)) :
    cell ∈ filledBy address lines := by
  induction lines generalizing address with
  | nil => cases last
  | cons first rest induction =>
      rw [lastFilling, Option.or_eq_some_iff] at last
      rw [filledBy, List.mem_append]
      obtain later | ⟨-, here⟩ := last
      · exact .inr (induction later)
      · obtain ⟨put, puts, -⟩ := Option.map_eq_some_iff.mp here
        exact .inl (mem_filled_of_filling puts)

/-- At the end of the source a line still refers to a label in a cell: it is the last line that
fills the cell, and puts the label operand there. -/
def Refers (lines : List PlacedLine) (cell : Byte) (line : PlacedLine) (name : Text) : Prop :=
  lastFilling cell 0 lines = some (line, .label name)

/-- A reference dangles: it is still there at the end of the source, and no line defines its
label. -/
def Dangles (lines : List PlacedLine) (cell : Byte) (line : PlacedLine) (name : Text) : Prop :=
  Refers lines cell line name ∧ ∀ other ∈ lines, other.label ≠ some name

/-- The byte of a cell when no label is defined twice; a cell that is not filled is zero. -/
def byteOf? (lines : List PlacedLine) (cell : Byte) : Option Byte :=
  match lastFilling cell 0 lines with
  | none => some 0
  | some last => last.2.byte? fun name => lastDefinition name 0 lines

end PlacedLine

/-! ## Layouts -/

namespace Layout

open PlacedLine

theorem read_add (layout : Layout) (line : PlacedLine) (cell : Byte) :
    (layout.add line).image.cells.read cell =
      ((line.filling cell layout.image.origin).map
        (cellOf (layout.add line).symbols line)).or (layout.image.cells.read cell) := by
  rw [image_add, imageAfter, filling]
  cases line.statement with
  | none => rfl
  | some statement =>
      cases statement with
      | instruction body => rw [Image.read_putAll, Image.lastPut_map, Option.bind_some]
      | data bytes => rw [Image.read_putAll, Image.lastPut_map, Option.bind_some]
      | origin target => rfl

theorem ofLines_append (lines more : List PlacedLine) :
    ofLines (lines ++ more) = more.foldl add (ofLines lines) :=
  List.foldl_append

/-- A cell holds what was put there last, as far as the label was known on that line. -/
theorem exists_read_ofLines (lines : List PlacedLine) (cell : Byte) :
    ∃ known later, lines = known ++ later ∧
      (ofLines lines).image.cells.read cell =
        (lastFilling cell 0 lines).map fun last =>
          cellOf (ofLines known).symbols last.1 last.2 := by
  induction lines using List.reverseRecOn with
  | nil => exact ⟨[], [], rfl, Cells.read_fill none cell⟩
  | append_singleton lines line induction =>
      have origin := origin_ofLines lines
      rw [lastFilling_append, lastFilling, lastFilling, Option.none_or, ofLines_append,
        List.foldl_cons, List.foldl_nil, read_add, origin]
      cases filling cell (cursor 0 lines) line with
      | none =>
          obtain ⟨known, later, split, read⟩ := induction
          refine ⟨known, later ++ [line], by rw [split, List.append_assoc], ?_⟩
          exact read
      | some target =>
          refine ⟨lines ++ [line], [], (List.append_nil _).symm, ?_⟩
          rw [ofLines_append]
          rfl

/-- The report on an operand whose label is not defined. -/
def undefinedReport (lines : List PlacedLine) (line : PlacedLine) (name : Text) : Diagnostic :=
  ⟨.undefinedSymbol name none ((ofLines lines).symbols.similar name), some line.location,
    some line.source⟩

theorem resolve_cellOf_eq_error_iff {known later : List PlacedLine} {line : PlacedLine}
    {target : Target} {report : Diagnostic} :
    (cellOf (ofLines known).symbols line target).resolve (ofLines (known ++ later)).symbols =
        .error report ↔
      ∃ name, target = .label name ∧ lastDefinition name 0 (known ++ later) = none ∧
        report = undefinedReport (known ++ later) line name := by
  cases target with
  | value byte =>
      constructor
      · intro failed
        cases failed
      · rintro ⟨name, ⟨⟩, -⟩
  | label name =>
      rw [cellOf, Target.resolve, find?_ofLines]
      cases defined : lastDefinition name 0 known with
      | some address =>
          constructor
          · intro failed
            cases failed
          · rintro ⟨other, ⟨⟩, absent, -⟩
            rw [lastDefinition_append, defined, Option.or_eq_none_iff] at absent
            cases absent.2
      | none =>
          change (ImageCell.pending name _ _).resolve _ = _ ↔ _
          rw [ImageCell.resolve, find?_ofLines]
          cases final : lastDefinition name 0 (known ++ later) with
          | some address =>
              constructor
              · intro failed
                cases failed
              · rintro ⟨other, ⟨⟩, absent, -⟩
                rw [final] at absent
                cases absent
          | none =>
              constructor
              · intro failed
                exact ⟨name, rfl, final, (Except.error.inj failed).symm⟩
              · rintro ⟨other, ⟨⟩, -, rfl⟩
                rfl

/-- A cell fails to have a byte exactly when a reference dangles in it. -/
theorem cellByte_eq_error_iff {lines : List PlacedLine} {cell : Byte} {report : Diagnostic} :
    (ofLines lines).image.cellByte (ofLines lines).symbols cell = .error report ↔
      ∃ line name, Dangles lines cell line name ∧ report = undefinedReport lines line name := by
  obtain ⟨known, later, split, read⟩ := exists_read_ofLines lines cell
  rw [Image.cellByte, read]
  cases last : lastFilling cell 0 lines with
  | none =>
      constructor
      · intro failed
        cases failed
      · rintro ⟨line, name, dangles, -⟩
        rw [Dangles, Refers, last] at dangles
        cases dangles.1
  | some there =>
      obtain ⟨line, target⟩ := there
      have resolved := @resolve_cellOf_eq_error_iff known later line target report
      rw [← split] at resolved
      simp only [Option.map_some, resolved, Dangles, Refers, last, lastDefinition_eq_none_iff,
        Option.some.injEq, Prod.mk.injEq]
      constructor
      · rintro ⟨name, rfl, absent, same⟩
        exact ⟨line, name, ⟨⟨rfl, rfl⟩, absent⟩, same⟩
      · rintro ⟨other, name, ⟨⟨rfl, isLabel⟩, absent⟩, same⟩
        exact ⟨name, isLabel, absent, same⟩

/-- When no label is defined twice, the last filling and the definitions tell the byte of a cell. -/
theorem cellByte_eq_ok_iff {lines : List PlacedLine}
    (unique : ∀ name, lines.countP (fun line => line.label = some name) ≤ 1) {cell byte : Byte} :
    (ofLines lines).image.cellByte (ofLines lines).symbols cell = .ok byte ↔
      byteOf? lines cell = some byte := by
  have only {byte : Byte}
      (has : (ofLines lines).image.cellByte (ofLines lines).symbols cell = .ok byte) :
      byteOf? lines cell = some byte := by
    obtain ⟨known, later, split, read⟩ := exists_read_ofLines lines cell
    rw [Image.cellByte, read] at has
    rw [byteOf?]
    cases last : lastFilling cell 0 lines with
    | none =>
        rw [last] at has
        exact congrArg some (Except.ok.inj has)
    | some there =>
        rw [last] at has
        change (cellOf (ofLines known).symbols there.1 there.2).resolve _ = _ at has
        rw [split] at has
        have resolved := byte?_of_resolve_cellOf has
        have address : labelAddress known later = fun name => lastDefinition name 0 lines := by
          funext name
          rw [labelAddress_eq_lastDefinition (split ▸ unique name), split]
        rwa [address] at resolved
  refine ⟨only, fun told => ?_⟩
  cases result : (ofLines lines).image.cellByte (ofLines lines).symbols cell with
  | ok other => rw [Option.some.inj ((only result).symm.trans told)]
  | error report =>
      obtain ⟨line, name, ⟨last, absent⟩, -⟩ := cellByte_eq_error_iff.mp result
      have here : lastFilling cell 0 lines = some (line, .label name) := last
      have defined : lastDefinition name 0 lines = some byte := by rwa [byteOf?, here] at told
      rw [lastDefinition_eq_none_iff.mpr absent] at defined
      cases defined

end Layout

/-! ## Bytes of a program -/

/-- The bytes of an image fail as those of the first of its cells that fails. -/
theorem Image.bytes_eq_error_iff {image : Image} (within : image.WithinExtent)
    {symbols : SymbolTable} {report : Diagnostic} :
    image.bytes symbols = .error report ↔
      ∃ cell, image.cellByte symbols cell = .error report ∧
        ∀ lower < cell, ∃ byte, image.cellByte symbols lower = .ok byte := by
  have bound := size_le within
  have byteOf (cell : Byte) :
      (if 256 ≤ cell.toNat then Except.ok 0 else
        image.cellByte symbols (BitVec.ofNat 8 cell.toNat)) = image.cellByte symbols cell := by
    rw [if_neg (Nat.not_le.mpr cell.isLt), BitVec.ofNat_toNat, BitVec.setWidth_eq]
  have toNat {index : Nat} (small : index < 256) : (BitVec.ofNat 8 index).toNat = index := by
    rw [BitVec.toNat_ofNat]
    exact Nat.mod_eq_of_lt small
  rw [Image.bytes, mapM_range_eq_error_iff]
  constructor
  · rintro ⟨index, small, failed, each⟩
    have inMemory : index < 256 := by omega
    rw [if_neg (by omega)] at failed
    refine ⟨BitVec.ofNat 8 index, failed, fun lower less => ?_⟩
    have earlier := each lower.toNat (by rw [BitVec.lt_def, toNat inMemory] at less; exact less)
    rwa [byteOf] at earlier
  · rintro ⟨cell, failed, each⟩
    have filled : image.cells.read cell ≠ none := by
      intro empty
      rw [cellByte, empty] at failed
      cases failed
    have below := within.filled cell filled
    refine ⟨cell.toNat, ?_, by rw [byteOf]; exact failed, fun earlier less => ?_⟩
    · rw [size]
      omega
    · have inMemory : earlier < 256 := Nat.lt_trans less cell.isLt
      rw [if_neg (by omega)]
      exact each _ (BitVec.lt_def.mpr (by rw [toNat inMemory]; exact less))

namespace Layout

open PlacedLine

theorem exists_cellByte_iff {lines : List PlacedLine} {cell : Byte} :
    (∃ byte, (ofLines lines).image.cellByte (ofLines lines).symbols cell = .ok byte) ↔
      ∀ line name, ¬ Dangles lines cell line name := by
  constructor
  · rintro ⟨byte, has⟩ line name dangles
    have failed := cellByte_eq_error_iff.mpr ⟨line, name, dangles, rfl⟩
    rw [has] at failed
    cases failed
  · intro sound
    cases result : (ofLines lines).image.cellByte (ofLines lines).symbols cell with
    | ok byte => exact ⟨byte, rfl⟩
    | error report =>
        obtain ⟨line, name, dangles, -⟩ := cellByte_eq_error_iff.mp result
        exact absurd dangles (sound line name)

/-- The bytes of a layout fail at the lowest cell in which a reference dangles. -/
theorem bytes_eq_error_iff {lines : List PlacedLine} {report : Diagnostic} :
    (ofLines lines).image.bytes (ofLines lines).symbols = .error report ↔
      ∃ cell line name, Dangles lines cell line name ∧
        (∀ lower < cell, ∀ other label, ¬ Dangles lines lower other label) ∧
        report = undefinedReport lines line name := by
  rw [Image.bytes_eq_error_iff (withinExtent_ofLines lines)]
  simp only [exists_cellByte_iff, cellByte_eq_error_iff]
  constructor
  · rintro ⟨cell, ⟨line, name, dangles, same⟩, lowest⟩
    exact ⟨cell, line, name, dangles, lowest, same⟩
  · rintro ⟨cell, line, name, dangles, lowest, same⟩
    exact ⟨cell, ⟨line, name, dangles, same⟩, lowest⟩

end Layout

namespace Program

open PlacedLine

/-- A source fails as its lines are read, or else at the lowest cell in which a reference
dangles. -/
theorem assemble_eq_error_iff {file source : Text} {fault : Fault Diagnostic} :
    assemble file source = .error fault ↔
      readLines file source = .error fault ∨
        ∃ lines, readLines file source = .ok lines ∧
          ∃ cell line name, Dangles lines cell line name ∧
            (∀ lower < cell, ∀ other label, ¬ Dangles lines lower other label) ∧
            fault = .reported (Layout.undefinedReport lines line name) := by
  rw [assemble, bind_eq_error_iff]
  refine or_congr Iff.rfl (exists_congr fun lines => and_congr Iff.rfl ?_)
  constructor
  · intro failed
    obtain noWords | ⟨words, -, impossible⟩ := bind_eq_error_iff.mp failed
    · obtain ⟨report, noBytes, same⟩ := mapError_eq_error_iff.mp noWords
      obtain ⟨cell, line, name, dangles, lowest, rfl⟩ :=
        Layout.bytes_eq_error_iff.mp (map_eq_error_iff.mp noBytes)
      exact ⟨cell, line, name, dangles, lowest, same.symm⟩
    · cases impossible
  · rintro ⟨cell, line, name, dangles, lowest, rfl⟩
    have noBytes := Layout.bytes_eq_error_iff.mpr ⟨cell, line, name, dangles, lowest, rfl⟩
    refine bind_eq_error_iff.mpr (.inl (mapError_eq_error_iff.mpr ⟨_, ?_, rfl⟩))
    exact map_eq_error_iff.mpr noBytes

/-- When all lines of a source can be read, it fails at most for a label that is not defined. -/
theorem isUndefinedSymbol_of_readLines_eq_ok {file source : Text} {lines : List PlacedLine}
    {fault : Fault Diagnostic} (read : readLines file source = .ok lines)
    (failed : assemble file source = .error fault) : fault.isUndefinedSymbol = true := by
  obtain unread | ⟨_, -, cell, line, name, -, -, rfl⟩ := assemble_eq_error_iff.mp failed
  · rw [read] at unread
    cases unread
  · rfl

end Program
end ByteMachine
