import ByteMachine.Assembly.Program
import ByteMachine.Proofs.Outcome

/-!
# Where lines are placed

The address at which a line is placed, the cells that it fills and the address of a label are told
by the lines alone.  The layout of a source agrees with them: its origin is the address of the next
line, a cell keeps its contents through lines that do not fill it, and the symbol table has the last
definition of each label.
-/

namespace ByteMachine

/-! ## Addresses of lines -/

namespace Statement

/-- The address that comes after a statement at an address. -/
def next (address : Byte) : Statement → Byte
  | origin target => target
  | statement => address + BitVec.ofNat 8 statement.cells.length

/-- The addresses of the cells that a statement at an address fills. -/
def filled (address : Byte) (statement : Statement) : List Byte :=
  (List.range statement.cells.length).map fun offset => address + BitVec.ofNat 8 offset

end Statement

namespace PlacedLine

/-- The address that comes after a line at an address. -/
def next (address : Byte) (line : PlacedLine) : Byte :=
  match line.statement with
  | none => address
  | some statement => statement.next address

/-- The addresses of the cells that a line at an address fills. -/
def filled (address : Byte) (line : PlacedLine) : List Byte :=
  match line.statement with
  | none => []
  | some statement => statement.filled address

/-- The address that comes after lines of which the first one is at an address. -/
def cursor (address : Byte) (lines : List PlacedLine) : Byte :=
  lines.foldl next address

/-- The addresses of the cells that lines fill of which the first one is at an address. -/
def filledBy (address : Byte) : List PlacedLine → List Byte
  | [] => []
  | line :: rest => line.filled address ++ filledBy (line.next address) rest

/-- The address of the last line that defines a label, among lines of which the first one is at an
address. -/
def lastDefinition (name : Text) (address : Byte) : List PlacedLine → Option Byte
  | [] => none
  | line :: rest =>
      (lastDefinition name (line.next address) rest).or
        (if line.label = some name then some address else none)

@[simp]
theorem cursor_nil (address : Byte) : cursor address [] = address := rfl

@[simp]
theorem cursor_cons (address : Byte) (line : PlacedLine) (rest : List PlacedLine) :
    cursor address (line :: rest) = cursor (line.next address) rest := rfl

theorem next_of_statement {line : PlacedLine} {statement : Statement} (address : Byte)
    (isStatement : line.statement = some statement)
    (noOrigin : ∀ target, statement ≠ .origin target) :
    line.next address = address + BitVec.ofNat 8 statement.cells.length := by
  rw [next, isStatement]
  cases statement with
  | instruction body => rfl
  | data bytes => rfl
  | origin target => exact absurd rfl (noOrigin target)

theorem cursor_append (address : Byte) (lines more : List PlacedLine) :
    cursor address (lines ++ more) = cursor (cursor address lines) more :=
  List.foldl_append

theorem lastDefinition_append (name : Text) (address : Byte) (lines more : List PlacedLine) :
    lastDefinition name address (lines ++ more) =
      (lastDefinition name (cursor address lines) more).or (lastDefinition name address lines) := by
  induction lines generalizing address with
  | nil => simp [lastDefinition]
  | cons line rest induction =>
      rw [List.cons_append, lastDefinition, induction, lastDefinition, Option.or_assoc,
        cursor_cons]

end PlacedLine

/-- A line is read by taking it apart and reading its statement. -/
theorem PlacedLine.read_eq_ok_iff {file text : Text} {number : Nat} {line : PlacedLine} :
    read file number text = .ok line ↔
      ∃ parts statement, SourceLine.ofText text = .ok parts ∧ parts.statement = .ok statement ∧
        line = ⟨place file number text, Text.trimEnd text, parts.label, statement⟩ := by
  rw [read, mapError_eq_ok_iff]
  constructor
  · intro found
    obtain ⟨parts, ofText, found⟩ := bind_eq_ok_iff.mp found
    obtain ⟨statement, isStatement, same⟩ := bind_eq_ok_iff.mp found
    exact ⟨parts, statement, mapError_eq_ok_iff.mp ofText, isStatement, (Except.ok.inj same).symm⟩
  · rintro ⟨parts, statement, ofText, isStatement, rfl⟩
    apply bind_eq_ok_iff.mpr
    refine ⟨parts, mapError_eq_ok_iff.mpr ofText, ?_⟩
    exact bind_eq_ok_iff.mpr ⟨statement, isStatement, rfl⟩

/-! ## Symbol tables -/

namespace Entries

variable {κ α : Type} [DecidableEq κ]

theorem lookup_put [BEq κ] [LawfulBEq κ] (key other : κ) (value : α) (entries : List (κ × α)) :
    (put key value entries).lookup other =
      if other = key then some value else entries.lookup other := by
  induction entries with
  | nil =>
      by_cases same : other = key
      · simp [put, same]
      · simp [put, same, List.lookup_cons, beq_eq_false_iff_ne.mpr same]
  | cons entry rest induction =>
      obtain ⟨present, old⟩ := entry
      by_cases replaced : present = key
      · subst replaced
        by_cases same : other = present
        · simp [put, same]
        · simp [put, same, List.lookup_cons, beq_eq_false_iff_ne.mpr same]
      · rw [put, if_neg replaced]
        by_cases found : other = present
        · subst found
          simp [replaced]
        · simp [List.lookup_cons, beq_eq_false_iff_ne.mpr found, induction]

theorem mem_keys_put {key other : κ} {value : α} {entries : List (κ × α)} :
    other ∈ (put key value entries).map Prod.fst ↔ other = key ∨ other ∈ entries.map Prod.fst := by
  induction entries with
  | nil => simp [put]
  | cons entry rest induction =>
      rw [put]
      split
      next replaced =>
        rw [List.map_cons, List.map_cons, List.mem_cons, List.mem_cons, replaced, or_self_left]
      next =>
        rw [List.map_cons, List.map_cons, List.mem_cons, List.mem_cons, induction, or_left_comm]

theorem nodup_keys_put (key : κ) (value : α) {entries : List (κ × α)}
    (nodup : (entries.map Prod.fst).Nodup) : ((put key value entries).map Prod.fst).Nodup := by
  induction entries with
  | nil => simp [put]
  | cons entry rest induction =>
      rw [List.map_cons, List.nodup_cons] at nodup
      rw [put]
      split
      next replaced =>
        rw [List.map_cons, List.nodup_cons, ← replaced]
        exact nodup
      next kept =>
        rw [List.map_cons, List.nodup_cons, mem_keys_put, not_or]
        exact ⟨⟨kept, nodup.1⟩, induction nodup.2⟩

theorem lookup_eq_some_iff_mem [BEq κ] [LawfulBEq κ] {key : κ} {value : α}
    {entries : List (κ × α)} (nodup : (entries.map Prod.fst).Nodup) :
    entries.lookup key = some value ↔ (key, value) ∈ entries := by
  induction entries with
  | nil => simp
  | cons entry rest induction =>
      obtain ⟨present, old⟩ := entry
      rw [List.map_cons, List.nodup_cons] at nodup
      by_cases found : key = present
      · subst found
        have absent : (key, value) ∉ rest := fun member =>
          nodup.1 (List.mem_map.mpr ⟨_, member, rfl⟩)
        simp [absent, eq_comm]
      · simp [List.lookup_cons, beq_eq_false_iff_ne.mpr found, found, induction nodup.2]

end Entries

namespace SymbolTable

theorem mem_entries_iff {table : SymbolTable} (nodup : table.names.Nodup) {name : Text}
    {address : Byte} : (name, address) ∈ table.entries ↔ table.find? name = some address :=
  (Entries.lookup_eq_some_iff_mem nodup).symm

theorem find?_define (table : SymbolTable) (name other : Text) (address : Byte) :
    (table.define name address).find? other =
      if other = name then some address else table.find? other :=
  Entries.lookup_put name other address table.entries

end SymbolTable

/-! ## Images -/

namespace Image

/-- The image after cells were filled one after another. -/
def putAll (image : Image) (cells : List ImageCell) : Image :=
  cells.foldl put image

@[simp]
theorem putAll_nil (image : Image) : image.putAll [] = image := rfl

@[simp]
theorem putAll_cons (image : Image) (cell : ImageCell) (rest : List ImageCell) :
    image.putAll (cell :: rest) = (image.put cell).putAll rest := rfl

theorem putAll_append (image : Image) (cells more : List ImageCell) :
    image.putAll (cells ++ more) = (image.putAll cells).putAll more :=
  List.foldl_append

theorem origin_putAll (image : Image) (cells : List ImageCell) :
    (image.putAll cells).origin = image.origin + BitVec.ofNat 8 cells.length := by
  induction cells generalizing image with
  | nil => simp
  | cons cell rest induction =>
      rw [putAll_cons, induction]
      apply BitVec.eq_of_toNat_eq
      simp [put]
      omega

theorem read_putAll_of_not_mem (image : Image) (cells : List ImageCell) {address : Byte}
    (apart : ∀ offset < cells.length, address ≠ image.origin + BitVec.ofNat 8 offset) :
    (image.putAll cells).cells.read address = image.cells.read address := by
  induction cells generalizing image with
  | nil => rfl
  | cons cell rest induction =>
      have here : address ≠ image.origin := by simpa using apart 0 (by simp)
      rw [putAll_cons, induction]
      · exact image.cells.read_write_of_ne _ here
      · intro offset small same
        refine apart (offset + 1) (by simpa using small) ?_
        rw [same]
        apply BitVec.eq_of_toNat_eq
        simp [put]
        omega

/-- Every cell that is filled lies below the extent, which does not exceed the memory. -/
structure WithinExtent (image : Image) : Prop where
  /-- A filled cell lies below the extent. -/
  filled : ∀ address, image.cells.read address ≠ none → address.toNat < image.extent
  /-- The extent is at most the size of the memory. -/
  bounded : image.extent ≤ 256

theorem withinExtent_empty : empty.WithinExtent where
  filled := by simp [empty]
  bounded := by simp [empty]

theorem WithinExtent.put {image : Image} (within : image.WithinExtent) (cell : ImageCell) :
    (image.put cell).WithinExtent where
  filled address present := by
    rw [Image.put, Cells.read_write] at present
    split at present
    next same =>
      rw [same]
      exact Nat.le_max_right _ _
    next => exact Nat.lt_of_lt_of_le (within.filled address present) (Nat.le_max_left _ _)
  bounded := Nat.max_le.mpr ⟨within.bounded, image.origin.isLt⟩

theorem WithinExtent.putAll {image : Image} (within : image.WithinExtent)
    (cells : List ImageCell) : (image.putAll cells).WithinExtent := by
  induction cells generalizing image with
  | nil => exact within
  | cons cell rest induction => exact induction (within.put cell)

theorem WithinExtent.moveTo {image : Image} (within : image.WithinExtent) (origin : Byte) :
    (image.moveTo origin).WithinExtent where
  filled address present :=
    Nat.lt_of_lt_of_le (within.filled address present) (Nat.le_max_left _ _)
  bounded := Nat.max_le.mpr ⟨within.bounded, Nat.le_of_lt origin.isLt⟩

end Image

/-! ## Layouts -/

namespace Layout

/-- The cell that an operand fills when its line is laid out. -/
def cellOf (symbols : SymbolTable) (line : PlacedLine) (target : Target) : ImageCell :=
  ImageCell.ofReference (some line.location) (some line.source) (target.resolve id symbols.find?)

theorem foldl_fill (layout : Layout) (line : PlacedLine) (targets : List Target) :
    targets.foldl (fill line) layout =
      { layout with image := layout.image.putAll (targets.map (cellOf layout.symbols line)) } := by
  induction targets generalizing layout with
  | nil => rfl
  | cons target rest induction => exact induction (layout.fill line target)

/-- What a line does to the image when its labels are looked up in the given table. -/
def imageAfter (symbols : SymbolTable) (line : PlacedLine) (image : Image) : Image :=
  match line.statement with
  | none => image
  | some (.origin address) => image.moveTo address
  | some statement => image.putAll (statement.cells.map (cellOf symbols line))

@[simp]
theorem image_define (layout : Layout) (label : Option Text) :
    (layout.define label).image = layout.image := by
  cases label <;> rfl

theorem symbols_add (layout : Layout) (line : PlacedLine) :
    (layout.add line).symbols = (layout.define line.label).symbols := by
  obtain ⟨location, source, label, statement⟩ := line
  rcases statement with _ | body | bytes | target
  · cases label <;> rfl
  · rfl
  · simp only [add, perform, foldl_fill, list]
  · rfl

theorem image_add (layout : Layout) (line : PlacedLine) :
    (layout.add line).image = imageAfter (layout.add line).symbols line layout.image := by
  rw [symbols_add, ← layout.image_define line.label]
  obtain ⟨location, source, label, statement⟩ := line
  rcases statement with _ | body | bytes | target
  · cases label <;> rfl
  · rfl
  · simp only [add, perform, foldl_fill, list, imageAfter]
  · rfl

theorem image_add_of_statement (layout : Layout) {line : PlacedLine} {statement : Statement}
    (isStatement : line.statement = some statement)
    (noOrigin : ∀ address, statement ≠ .origin address) :
    (layout.add line).image =
      layout.image.putAll (statement.cells.map (cellOf (layout.add line).symbols line)) := by
  rw [image_add, imageAfter, isStatement]
  cases statement with
  | instruction body => rfl
  | data bytes => rfl
  | origin address => exact absurd rfl (noOrigin address)

theorem find?_define (layout : Layout) (label : Option Text) (name : Text) :
    (layout.define label).symbols.find? name =
      if label = some name then some layout.image.origin else layout.symbols.find? name := by
  cases label with
  | none => rfl
  | some defined =>
      simp only [define, SymbolTable.find?_define, Option.some.injEq, eq_comm]

theorem origin_add (layout : Layout) (line : PlacedLine) :
    (layout.add line).image.origin = line.next layout.image.origin := by
  rw [image_add]
  obtain ⟨location, source, label, statement⟩ := line
  rcases statement with _ | body | bytes | target
  · rfl
  · simp only [imageAfter, Image.origin_putAll, List.length_map, PlacedLine.next, Statement.next]
  · simp only [imageAfter, Image.origin_putAll, List.length_map, PlacedLine.next, Statement.next]
  · rfl

theorem read_add_of_not_mem (layout : Layout) (line : PlacedLine) {address : Byte}
    (apart : address ∉ line.filled layout.image.origin) :
    (layout.add line).image.cells.read address = layout.image.cells.read address := by
  have kept (statement : Statement) (apart : address ∉ statement.filled layout.image.origin) :
      (layout.image.putAll (statement.cells.map (cellOf (layout.add line).symbols line))).cells.read
        address = layout.image.cells.read address := by
    apply Image.read_putAll_of_not_mem
    intro offset small same
    rw [List.length_map] at small
    exact apart (List.mem_map.mpr ⟨offset, List.mem_range.mpr small, same.symm⟩)
  rw [image_add, imageAfter]
  rw [PlacedLine.filled] at apart
  split
  next => rfl
  next => rfl
  next statement _ isStatement =>
    rw [isStatement] at apart
    exact kept statement apart

theorem withinExtent_add {layout : Layout} (within : layout.image.WithinExtent)
    (line : PlacedLine) : (layout.add line).image.WithinExtent := by
  rw [image_add, imageAfter]
  split
  · exact within
  · exact within.moveTo _
  · exact within.putAll _

/-- An instruction fills the cell at the origin with its first byte and the one after it with its
second byte or with its label. -/
theorem read_add_instruction (layout : Layout) {line : PlacedLine} {body : Instruction Target}
    (isInstruction : line.statement = some (.instruction body)) :
    (layout.add line).image.cells.read layout.image.origin = some (.literal body.first) ∧
      (layout.add line).image.cells.read (layout.image.origin + 1) =
        some (cellOf (layout.add line).symbols line (body.second .value)) := by
  have apart : layout.image.origin ≠ layout.image.origin + 1 := by
    intro same
    have step := congrArg BitVec.toNat same
    rw [BitVec.toNat_add] at step
    simp at step
    omega
  rw [image_add, imageAfter, isInstruction]
  constructor
  · exact (Cells.read_write_of_ne _ _ apart).trans (Cells.read_write_self ..)
  · exact Cells.read_write_self ..

/-- The layout of lines. -/
def ofLines (lines : List PlacedLine) : Layout :=
  lines.foldl add empty

theorem origin_foldl_add (layout : Layout) (lines : List PlacedLine) :
    (lines.foldl add layout).image.origin = PlacedLine.cursor layout.image.origin lines := by
  induction lines generalizing layout with
  | nil => rfl
  | cons line rest induction =>
      rw [List.foldl_cons, induction, origin_add, PlacedLine.cursor_cons]

theorem read_foldl_add_of_not_mem (layout : Layout) (lines : List PlacedLine) {address : Byte}
    (apart : address ∉ PlacedLine.filledBy layout.image.origin lines) :
    (lines.foldl add layout).image.cells.read address = layout.image.cells.read address := by
  induction lines generalizing layout with
  | nil => rfl
  | cons line rest induction =>
      rw [PlacedLine.filledBy, List.mem_append, not_or] at apart
      rw [List.foldl_cons, induction, read_add_of_not_mem layout line apart.1]
      rw [origin_add]
      exact apart.2

theorem find?_foldl_add (layout : Layout) (lines : List PlacedLine) (name : Text) :
    (lines.foldl add layout).symbols.find? name =
      (PlacedLine.lastDefinition name layout.image.origin lines).or
        (layout.symbols.find? name) := by
  induction lines generalizing layout with
  | nil => rfl
  | cons line rest induction =>
      rw [List.foldl_cons, induction, origin_add, symbols_add, find?_define,
        PlacedLine.lastDefinition, Option.or_assoc]
      split <;> rfl

theorem origin_ofLines (lines : List PlacedLine) :
    (ofLines lines).image.origin = PlacedLine.cursor 0 lines :=
  origin_foldl_add empty lines

/-- The symbol table has the address of the last definition of each label. -/
theorem find?_ofLines (lines : List PlacedLine) (name : Text) :
    (ofLines lines).symbols.find? name = PlacedLine.lastDefinition name 0 lines :=
  (find?_foldl_add empty lines name).trans Option.or_none

theorem withinExtent_ofLines (lines : List PlacedLine) :
    (ofLines lines).image.WithinExtent := by
  have all (layout : Layout) (within : layout.image.WithinExtent) :
      (lines.foldl add layout).image.WithinExtent := by
    induction lines generalizing layout with
    | nil => exact within
    | cons line rest induction => exact induction _ (withinExtent_add within line)
  exact all empty Image.withinExtent_empty

/-- Each label has a single entry in the symbol table. -/
theorem nodup_names_ofLines (lines : List PlacedLine) : (ofLines lines).symbols.names.Nodup := by
  have all (layout : Layout) (nodup : layout.symbols.names.Nodup) :
      (lines.foldl add layout).symbols.names.Nodup := by
    induction lines generalizing layout with
    | nil => exact nodup
    | cons line rest induction =>
        refine induction _ ?_
        rw [symbols_add]
        cases line.label with
        | none => exact nodup
        | some name => exact Entries.nodup_keys_put name layout.image.origin nodup
  exact all empty List.nodup_nil

theorem ofLines_append_cons (before after : List PlacedLine) (line : PlacedLine) :
    ofLines (before ++ line :: after) = after.foldl add ((ofLines before).add line) := by
  rw [ofLines, List.foldl_append, List.foldl_cons]
  rfl

end Layout

/-! ## Bytes of a program -/

namespace Image

theorem size_le {image : Image} (within : image.WithinExtent) : image.size ≤ 256 := by
  have bounded := within.bounded
  rw [size]
  omega

/-- The bytes of an image are those of its cells below the extent, rounded up to an even number. -/
theorem bytes_eq_ok_iff {image : Image} (within : image.WithinExtent) {symbols : SymbolTable}
    {bytes : List Byte} :
    image.bytes symbols = .ok bytes ↔
      bytes.length = image.size ∧
        ∀ (index : Nat) (small : index < bytes.length),
          image.cellByte symbols (BitVec.ofNat 8 index) = .ok bytes[index] := by
  have bound := size_le within
  have byteOf (index : Nat) (small : index < image.size) :
      (if 256 ≤ index then Except.ok 0 else image.cellByte symbols (BitVec.ofNat 8 index)) =
        image.cellByte symbols (BitVec.ofNat 8 index) := if_neg (by omega)
  rw [Image.bytes, mapM_eq_ok_iff, List.forall₂_iff_get]
  simp only [List.length_range, List.get_eq_getElem, List.getElem_range]
  constructor
  · rintro ⟨sameLength, agree⟩
    refine ⟨sameLength.symm, fun index small => ?_⟩
    have inSize : index < image.size := by omega
    rw [← byteOf index inSize]
    exact agree index inSize small
  · rintro ⟨sameLength, agree⟩
    refine ⟨sameLength.symm, fun index inSize small => ?_⟩
    rw [byteOf index inSize]
    exact agree index small

end Image

namespace Word

theorem joinBytes_ofBytes {bytes : List Byte} (even : bytes.length % 2 = 0) :
    joinBytes (ofBytes bytes) = bytes := by
  fun_induction ofBytes bytes with
  | case1 => rfl
  | case2 byte => simp at even
  | case3 first second rest induction =>
      have restEven : rest.length % 2 = 0 := by
        simp only [List.length_cons] at even
        omega
      exact congrArg (first :: second :: ·) (induction restEven)

theorem ofBytes_joinBytes (words : List Word) : ofBytes (joinBytes words) = words := by
  induction words with
  | nil => rfl
  | cons word rest induction => exact congrArg (word :: ·) induction

theorem length_joinBytes (words : List Word) : (joinBytes words).length = 2 * words.length := by
  induction words with
  | nil => rfl
  | cons word rest induction =>
      change (joinBytes rest).length + 1 + 1 = 2 * (rest.length + 1)
      omega

theorem length_ofBytes (bytes : List Byte) :
    2 * (ofBytes bytes).length = bytes.length + bytes.length % 2 := by
  fun_induction ofBytes bytes with
  | case1 => rfl
  | case2 byte => rfl
  | case3 first second rest induction =>
      simp only [List.length_cons]
      omega

end Word

namespace Program

/-- The lines of a source that are not blank, each of them read. -/
def readLines (file source : Text) : Except (Fault Diagnostic) (List PlacedLine) :=
  (numberedLines source).mapM fun line => PlacedLine.read file line.1 line.2

theorem assemble_eq_ok_iff {file source : Text} {program : Program} :
    assemble file source = .ok program ↔
      ∃ lines, readLines file source = .ok lines ∧ program.layout = Layout.ofLines lines ∧
        program.layout.image.words program.layout.symbols = .ok program.words := by
  constructor
  · intro assembled
    obtain ⟨lines, read, assembled⟩ := bind_eq_ok_iff.mp assembled
    obtain ⟨words, found, same⟩ := bind_eq_ok_iff.mp assembled
    cases same
    exact ⟨lines, read, rfl, mapError_eq_ok_iff.mp found⟩
  · rintro ⟨lines, read, same, found⟩
    obtain ⟨layout, words⟩ := program
    obtain rfl : layout = Layout.ofLines lines := same
    apply bind_eq_ok_iff.mpr
    refine ⟨lines, read, ?_⟩
    exact bind_eq_ok_iff.mpr ⟨words, mapError_eq_ok_iff.mpr found, rfl⟩

/-- The bytes of a program are those of its image. -/
theorem bytes_of_assemble {file source : Text} {program : Program}
    (assembled : assemble file source = .ok program) :
    program.layout.image.bytes program.layout.symbols = .ok program.code := by
  obtain ⟨lines, -, layout, words⟩ := assemble_eq_ok_iff.mp assembled
  have within : program.layout.image.WithinExtent :=
    layout ▸ Layout.withinExtent_ofLines lines
  obtain ⟨bytes, found, ofBytes⟩ := map_eq_ok_iff.mp words
  have even : bytes.length % 2 = 0 := by
    rw [((Image.bytes_eq_ok_iff within).mp found).1, Image.size]
    omega
  rw [found, code, ← ofBytes, Word.joinBytes_ofBytes even]

/-- A filled cell of an assembled program has its byte at the address of the cell. -/
theorem code_of_read {file source : Text} {program : Program}
    (assembled : assemble file source = .ok program) {address : Byte} {cell : ImageCell}
    (filled : program.layout.image.cells.read address = some cell) :
    ∃ byte, program.code[address.toNat]? = some byte ∧
      cell.resolve program.layout.symbols = .ok byte := by
  obtain ⟨lines, -, layout, -⟩ := assemble_eq_ok_iff.mp assembled
  have within : program.layout.image.WithinExtent :=
    layout ▸ Layout.withinExtent_ofLines lines
  obtain ⟨length, bytes⟩ := (Image.bytes_eq_ok_iff within).mp (bytes_of_assemble assembled)
  have below : address.toNat < program.code.length := by
    have := within.filled address (by rw [filled]; exact Option.some_ne_none cell)
    rw [length, Image.size]
    omega
  refine ⟨program.code[address.toNat], List.getElem?_eq_getElem below, ?_⟩
  rw [← bytes address.toNat below, Image.cellByte, BitVec.ofNat_toNat, BitVec.setWidth_eq, filled]

end Program
end ByteMachine
