import ByteMachine.Assembly.Listing
import ByteMachine.Proofs.Assembly.LastFilling
import ByteMachine.Proofs.Assembly.StatementReading

/-!
# What a listing accounts for

A listing has an entry for each line with a label or a statement.  The size in an entry is found out
from the origin before and after the line, so it is the number of cells that the line fills only as
far as a byte can count them.  But it never exceeds that number, and so every byte that a listing
shows lies in a cell that was filled; and the code reaches as far as the filled cells do.
-/

namespace ByteMachine

namespace Image

theorem lastPut_eq_none_iff {α : Type} {cell address : Byte} {values : List α} :
    lastPut cell address values = none ↔
      ∀ offset < values.length, cell ≠ address + BitVec.ofNat 8 offset := by
  induction values generalizing address with
  | nil => simp [lastPut]
  | cons value rest induction =>
      have shift (offset : Nat) :
          address + 1 + BitVec.ofNat 8 offset = address + BitVec.ofNat 8 (offset + 1) := by
        apply BitVec.eq_of_toNat_eq
        simp
        omega
      rw [lastPut, Option.or_eq_none_iff, induction, ite_eq_right_iff]
      simp only [shift, reduceCtorEq, imp_false]
      constructor
      · rintro ⟨later, here⟩ offset small
        cases offset with
        | zero => simpa using here
        | succ offset => exact later offset (Nat.lt_of_succ_lt_succ small)
      · intro apart
        exact ⟨fun offset small => apart (offset + 1) (Nat.succ_lt_succ small),
          by simpa using apart 0 (Nat.zero_lt_succ _)⟩

theorem mem_of_lastPut {α : Type} {cell address : Byte} {values : List α} {value : α}
    (put : lastPut cell address values = some value) : value ∈ values := by
  induction values generalizing address with
  | nil => cases put
  | cons first rest induction =>
      rw [lastPut, Option.or_eq_some_iff] at put
      obtain later | ⟨-, here⟩ := put
      · exact List.mem_cons_of_mem first (induction later)
      · obtain ⟨-, same⟩ := Option.ite_none_right_eq_some.mp here
        rw [Option.some.inj same]
        exact List.mem_cons_self

end Image

namespace PlacedLine

/-! ## Cells of a line -/

/-- What a line puts into the cells that it fills, in order. -/
def emitted (line : PlacedLine) : List Target :=
  line.statement.elim [] Statement.cells

theorem mem_filled_iff {cell address : Byte} {line : PlacedLine} :
    cell ∈ line.filled address ↔
      ∃ offset < line.emitted.length, cell = address + BitVec.ofNat 8 offset := by
  rw [filled, emitted]
  cases line.statement with
  | none => simp
  | some statement =>
      simp only [Option.elim_some, Statement.filled, List.mem_map, List.mem_range, eq_comm]

theorem emitted_of_origin {line : PlacedLine} {target : Byte}
    (isOrigin : line.statement = some (.origin target)) : line.emitted = [] := by
  rw [emitted, isOrigin]
  rfl

theorem ne_origin_of_lt {line : PlacedLine} {offset : Nat} (small : offset < line.emitted.length)
    (target : Byte) : line.statement ≠ some (.origin target) := by
  intro isOrigin
  rw [emitted_of_origin isOrigin] at small
  cases small

theorem filling_eq (cell address : Byte) (line : PlacedLine) :
    line.filling cell address = Image.lastPut cell address line.emitted := by
  rw [filling, emitted]
  cases line.statement <;> rfl

theorem filling_eq_none_iff {cell address : Byte} {line : PlacedLine} :
    line.filling cell address = none ↔ cell ∉ line.filled address := by
  rw [filling_eq, Image.lastPut_eq_none_iff, mem_filled_iff]
  simp

/-- The cells that lines fill are those that are filled last by one of them. -/
theorem lastFilling_eq_none_iff {cell address : Byte} {lines : List PlacedLine} :
    lastFilling cell address lines = none ↔ cell ∉ filledBy address lines := by
  induction lines generalizing address with
  | nil => simp [lastFilling, filledBy]
  | cons line rest induction =>
      rw [lastFilling, Option.or_eq_none_iff, induction, Option.map_eq_none_iff,
        filling_eq_none_iff, filledBy, List.mem_append, not_or, and_comm]

/-- What is said of a line and those before it holds somewhere among lines if it holds of the first
one or somewhere among the others. -/
theorem exists_split_cons_iff {first : PlacedLine} {rest : List PlacedLine}
    {holds : List PlacedLine → PlacedLine → Prop} :
    (∃ before line after, first :: rest = before ++ line :: after ∧ holds before line) ↔
      holds [] first ∨
        ∃ before line after, rest = before ++ line :: after ∧ holds (first :: before) line := by
  constructor
  · rintro ⟨before, line, after, split, here⟩
    cases before with
    | nil =>
        cases split
        exact .inl here
    | cons other before =>
        cases split
        exact .inr ⟨before, line, after, rfl, here⟩
  · rintro (here | ⟨before, line, after, rfl, there⟩)
    · exact ⟨[], first, rest, rfl, here⟩
    · exact ⟨first :: before, line, after, rfl, there⟩

theorem mem_filledBy_iff {cell address : Byte} {lines : List PlacedLine} :
    cell ∈ filledBy address lines ↔
      ∃ before line after, lines = before ++ line :: after ∧
        cell ∈ line.filled (cursor address before) := by
  induction lines generalizing address with
  | nil => simp [filledBy]
  | cons line rest induction =>
      rw [filledBy, List.mem_append, induction, exists_split_cons_iff]
      rfl

/-! ## Entries of a listing -/

/-- A line is listed if it has a label or a statement. -/
def isListed (line : PlacedLine) : Bool :=
  line.label.isSome || line.statement.isSome

theorem isListed_of_statement {line : PlacedLine} {statement : Statement}
    (isStatement : line.statement = some statement) : line.isListed = true := by
  rw [isListed, isStatement, Option.isSome_some, Bool.or_true]

/-- The entry of a line at an address: the size is counted in a byte, and the address of a line that
sets the origin is the one that it sets. -/
def entry (address : Byte) (line : PlacedLine) : ListingEntry where
  line := line.location.line
  address :=
    match line.statement with
    | some (.origin target) => target
    | _ => address
  size := line.emitted.length % 256
  source := line.source

/-- The entries of lines of which the first one is at an address. -/
def entriesFrom (address : Byte) : List PlacedLine → List ListingEntry
  | [] => []
  | line :: rest =>
      (if line.isListed then [line.entry address] else []) ++ entriesFrom (line.next address) rest

theorem entriesFrom_append (address : Byte) (lines more : List PlacedLine) :
    entriesFrom address (lines ++ more) =
      entriesFrom address lines ++ entriesFrom (cursor address lines) more := by
  induction lines generalizing address with
  | nil => rfl
  | cons line rest induction =>
      rw [List.cons_append, entriesFrom, induction, entriesFrom, List.append_assoc, cursor_cons]

theorem length_entriesFrom (address : Byte) (lines : List PlacedLine) :
    (entriesFrom address lines).length = lines.countP isListed := by
  induction lines generalizing address with
  | nil => rfl
  | cons line rest induction =>
      rw [entriesFrom, List.length_append, induction, List.countP_cons, Nat.add_comm]
      split <;> rfl

/-- A line that is listed has its entry behind those of the lines before it. -/
theorem getElem?_entriesFrom {address : Byte} {before after : List PlacedLine} {line : PlacedLine}
    (listed : line.isListed = true) :
    (entriesFrom address (before ++ line :: after))[before.countP isListed]? =
      some (line.entry (cursor address before)) := by
  rw [entriesFrom_append, ← length_entriesFrom address before, List.getElem?_append_right
    (Nat.le_refl _), Nat.sub_self, entriesFrom, if_pos listed]
  rfl

theorem mem_entriesFrom_iff {address : Byte} {lines : List PlacedLine} {entry : ListingEntry} :
    entry ∈ entriesFrom address lines ↔
      ∃ before line after, lines = before ++ line :: after ∧ line.isListed = true ∧
        entry = line.entry (cursor address before) := by
  induction lines generalizing address with
  | nil => simp [entriesFrom]
  | cons line rest induction =>
      rw [entriesFrom, List.mem_append, induction, exists_split_cons_iff]
      refine or_congr ?_ Iff.rfl
      cases line.isListed <;> simp

theorem map_source_entriesFrom (address : Byte) (lines : List PlacedLine) :
    (entriesFrom address lines).map (fun entry => (entry.line, entry.source)) =
      (lines.filter isListed).map fun line => (line.location.line, line.source) := by
  induction lines generalizing address with
  | nil => rfl
  | cons line rest induction =>
      rw [entriesFrom, List.map_append, induction, List.filter_cons]
      split <;> rfl

theorem address_entry {line : PlacedLine}
    (noOrigin : ∀ target, line.statement ≠ some (.origin target)) (address : Byte) :
    (line.entry address).address = address := by
  rw [entry]
  split
  next target isOrigin => exact absurd isOrigin (noOrigin target)
  next => rfl

/-- The cells of an entry are cells that its line fills. -/
theorem mem_filled_of_entry {line : PlacedLine} {address : Byte} {offset : Nat}
    (small : offset < (line.entry address).size) :
    (line.entry address).address + BitVec.ofNat 8 offset ∈ line.filled address := by
  have inside : offset < line.emitted.length := Nat.lt_of_lt_of_le small (Nat.mod_le _ _)
  rw [address_entry (ne_origin_of_lt inside)]
  exact mem_filled_iff.mpr ⟨offset, inside, rfl⟩

/-- A line that fills fewer cells than a byte can count fills no others. -/
theorem exists_entry_of_mem_filled {line : PlacedLine} {address cell : Byte}
    (few : line.emitted.length < 256) (filled : cell ∈ line.filled address) :
    line.isListed = true ∧
      ∃ offset < (line.entry address).size,
        cell = (line.entry address).address + BitVec.ofNat 8 offset := by
  obtain ⟨offset, small, same⟩ := mem_filled_iff.mp filled
  have listed : line.isListed = true := by
    cases isStatement : line.statement with
    | none =>
        rw [emitted, isStatement] at small
        cases small
    | some statement => exact isListed_of_statement isStatement
  refine ⟨listed, offset, ?_, ?_⟩
  · rw [entry, Nat.mod_eq_of_lt few]
    exact small
  · rw [address_entry (ne_origin_of_lt small)]
    exact same

/-- Together the entries of lines that fill few cells have the cells that the lines fill. -/
theorem exists_entry_iff {lines : List PlacedLine} {address cell : Byte}
    (few : ∀ line ∈ lines, line.emitted.length < 256) :
    (∃ entry ∈ entriesFrom address lines, ∃ offset < entry.size,
        cell = entry.address + BitVec.ofNat 8 offset) ↔ cell ∈ filledBy address lines := by
  rw [mem_filledBy_iff]
  constructor
  · rintro ⟨entry, member, offset, small, rfl⟩
    obtain ⟨before, line, after, split, -, rfl⟩ := mem_entriesFrom_iff.mp member
    exact ⟨before, line, after, split, mem_filled_of_entry small⟩
  · rintro ⟨before, line, after, split, filled⟩
    have present : line ∈ lines := by simp [split]
    obtain ⟨listed, inside⟩ := exists_entry_of_mem_filled (few line present) filled
    exact ⟨_, mem_entriesFrom_iff.mpr ⟨before, line, after, split, listed, rfl⟩, inside⟩

end PlacedLine

/-! ## Layouts -/

namespace Layout

open PlacedLine

theorem entries_define (layout : Layout) (label : Option Text) :
    (layout.define label).entries = layout.entries := by
  cases label <;> rfl

/-- The distance that the origin moves while cells are filled is their number, counted in a byte. -/
theorem distance_putAll (image : Image) (cells : List ImageCell) :
    ((image.putAll cells).origin - image.origin).toNat = cells.length % 256 := by
  rw [Image.origin_putAll, BitVec.add_comm, BitVec.add_sub_cancel, BitVec.toNat_ofNat]

theorem entries_add (layout : Layout) (line : PlacedLine) :
    (layout.add line).entries.toList =
      layout.entries.toList ++ if line.isListed then [line.entry layout.image.origin] else [] := by
  -- The definition of the label comes first and changes neither the entries nor the image.
  rw [add, ← layout.entries_define line.label, ← layout.image_define line.label]
  obtain ⟨location, source, label, statement⟩ := line
  rcases statement with _ | body | bytes | target
  · cases label with
    | none => exact (List.append_nil _).symm
    | some name => exact Array.toList_push
  · rw [if_pos (isListed_of_statement rfl)]
    simp only [perform, foldl_fill, list, distance_putAll, List.length_map]
    exact Array.toList_push
  · rw [if_pos (isListed_of_statement rfl)]
    simp only [perform, foldl_fill, list, distance_putAll, List.length_map]
    exact Array.toList_push
  · rw [if_pos (isListed_of_statement rfl)]
    exact Array.toList_push

theorem entries_foldl_add (layout : Layout) (lines : List PlacedLine) :
    (lines.foldl add layout).entries.toList =
      layout.entries.toList ++ entriesFrom layout.image.origin lines := by
  induction lines generalizing layout with
  | nil => exact (List.append_nil _).symm
  | cons line rest induction =>
      rw [List.foldl_cons, induction, entries_add, origin_add, entriesFrom, List.append_assoc]

theorem entries_ofLines (lines : List PlacedLine) :
    (ofLines lines).entries.toList = entriesFrom 0 lines :=
  entries_foldl_add empty lines

theorem read_ofLines_ne_none_iff {lines : List PlacedLine} {cell : Byte} :
    (ofLines lines).image.cells.read cell ≠ none ↔ cell ∈ filledBy 0 lines := by
  obtain ⟨known, later, -, read⟩ := exists_read_ofLines lines cell
  rw [read, ne_eq, Option.map_eq_none_iff, lastFilling_eq_none_iff, not_not]

end Layout

/-! ## Programs -/

namespace Program

open PlacedLine

/-- What a listing shows of a line of source by itself, if it has a label or a mnemonic: its number,
and the line without the blanks at its end. -/
def listed? (line : Nat × Text) : Option (Int × Text) :=
  match SourceLine.ofText line.2 with
  | .ok parts =>
      if parts.label.isSome || parts.mnemonic.isSome then some (line.1, Text.trimEnd line.2)
      else none
  | .error _ => none

variable {file source : Text} {program : Program} {lines : List PlacedLine}

theorem listed?_of_read {number : Nat} {text : Text} {line : PlacedLine}
    (read : PlacedLine.read file number text = .ok line) :
    listed? (number, text) =
      if line.isListed then some (line.location.line, line.source) else none := by
  obtain ⟨parts, statement, ofText, isStatement, rfl⟩ := PlacedLine.read_eq_ok_iff.mp read
  have same : parts.mnemonic.isSome = statement.isSome := by
    rw [SourceLine.statement] at isStatement
    cases isMnemonic : parts.mnemonic with
    | none =>
        rw [isMnemonic] at isStatement
        cases isStatement
        rfl
    | some word =>
        obtain ⟨_, found, -, -, rfl⟩ := SourceLine.exists_read_of_statement isMnemonic isStatement
        rfl
  simp only [listed?, ofText, isListed, same]
  rfl

theorem filterMap_listed?_of_readLines (read : readLines file source = .ok lines) :
    (numberedLines source).filterMap listed? =
      (lines.filter isListed).map fun line => (line.location.line, line.source) := by
  replace read := mapM_eq_ok_iff.mp read
  generalize numberedLines source = numbered at read
  induction read with
  | nil => rfl
  | @cons _ line _ _ first _ induction =>
      rw [List.filterMap_cons, listed?_of_read first, List.filter_cons, induction]
      cases line.isListed <;> rfl

/-- A source assembles if its lines can be read and none of them has a label for an operand. -/
theorem exists_assemble_of_forall (read : readLines file source = .ok lines)
    (noLabel : ∀ line ∈ lines, ∀ name, Target.label name ∉ line.emitted) :
    ∃ program, assemble file source = .ok program := by
  cases result : assemble file source with
  | ok program => exact ⟨program, rfl⟩
  | error fault =>
      obtain unread | ⟨same, sameRead, cell, line, name, ⟨refers, -⟩, -, -⟩ :=
        assemble_eq_error_iff.mp result
      · rw [read] at unread
        cases unread
      · obtain rfl : lines = same := Except.ok.inj (read.symm.trans sameRead)
        obtain ⟨before, after, split, puts⟩ := exists_of_lastFilling refers
        rw [filling_eq] at puts
        exact absurd (Image.mem_of_lastPut puts) (noLabel line (by simp [split]) name)

/-- Each cell of an entry has a byte in the code. -/
theorem exists_byte_of_entry (assembled : assemble file source = .ok program)
    {entry : ListingEntry} (member : entry ∈ program.layout.entries) {offset : Nat}
    (small : offset < entry.size) :
    ∃ byte, program.code[(entry.address + BitVec.ofNat 8 offset).toNat]? = some byte := by
  obtain ⟨lines, -, layout, -⟩ := assemble_eq_ok_iff.mp assembled
  rw [← Array.mem_toList_iff, layout, Layout.entries_ofLines, mem_entriesFrom_iff] at member
  obtain ⟨before, line, after, split, -, rfl⟩ := member
  have written := mem_filledBy_iff.mpr ⟨before, line, after, split, mem_filled_of_entry small⟩
  have filled := Layout.read_ofLines_ne_none_iff.mpr written
  rw [← layout] at filled
  obtain ⟨cell, isCell⟩ := Option.ne_none_iff_exists'.mp filled
  obtain ⟨byte, there, -⟩ := code_of_read assembled isCell
  exact ⟨byte, there⟩

/-- The bytes of an entry can be read, and they are those in its cells. -/
theorem exists_bytes_of_entry (assembled : assemble file source = .ok program)
    {entry : ListingEntry} (member : entry ∈ program.layout.entries) :
    ∃ bytes, entry.bytes? program.code = some bytes ∧ bytes.length = entry.size ∧
      ∀ offset < entry.size,
        ∃ byte, program.code[(entry.address + BitVec.ofNat 8 offset).toNat]? = some byte ∧
          bytes[offset]? = some byte := by
  obtain ⟨bytes, each⟩ := exists_forall₂_iff.mpr fun offset inside =>
    exists_byte_of_entry assembled member (List.mem_range.mp inside)
  have size : bytes.length = entry.size := by rw [← each.length_eq, List.length_range]
  refine ⟨bytes, mapM_eq_some_of_forall₂ each, size, fun offset small => ?_⟩
  have inside : offset < bytes.length := size ▸ small
  have here := each.get (by simpa using small) inside
  simp only [List.get_eq_getElem, List.getElem_range] at here
  exact ⟨_, here, List.getElem?_eq_getElem inside⟩

/-- The listing can be made: a line for each entry, and below them the labels. -/
theorem exists_listing (assembled : assemble file source = .ok program) :
    ∃ shown,
      List.Forall₂ (fun entry line =>
        ∃ bytes, entry.bytes? program.code = some bytes ∧ line = entry.text bytes)
          program.layout.entries.toList shown ∧
      (Assembler.mk (some program)).listing? =
        some (Text.joinLines (shown ++ program.layout.symbols.appendix) ++ ['\n']) := by
  have each : ∀ entry ∈ program.layout.entries.toList,
      ∃ line bytes, entry.bytes? program.code = some bytes ∧ line = entry.text bytes := by
    intro entry member
    obtain ⟨bytes, read, -⟩ := exists_bytes_of_entry assembled (Array.mem_toList_iff.mp member)
    exact ⟨_, bytes, read, rfl⟩
  obtain ⟨shown, lines⟩ := exists_forall₂_iff.mpr each
  have texts : program.layout.entries.toList.mapM (ListingEntry.text? program.code) = some shown := by
    refine mapM_eq_some_of_forall₂ (lines.imp ?_)
    rintro entry line ⟨bytes, read, rfl⟩
    rw [ListingEntry.text?, read, Option.map_some]
  refine ⟨shown, lines, ?_⟩
  simp only [Assembler.listing?, listingLines?, texts, Option.map_some]

/-- A listing never reads a byte from beyond the code.  It shows the entries with their bytes and then
the labels.  The entries are those of the lines with a label or a mnemonic, in order.  On a line that
does not set the origin the address is the origin at its start, which is also the address of a label
that is defined there last, and the size is the number of cells filled, if there are fewer than 256.
If no line fills more, the cells of the entries together are the cells that the program fills. -/
theorem listing_accounts (assembled : assemble file source = .ok program) :
    (∀ entry ∈ program.layout.entries,
      ∃ bytes, entry.bytes? program.code = some bytes ∧ bytes.length = entry.size ∧
        ∀ offset < entry.size,
          ∃ byte, program.code[(entry.address + BitVec.ofNat 8 offset).toNat]? = some byte ∧
            bytes[offset]? = some byte) ∧
    (∃ shown,
      List.Forall₂ (fun entry line =>
        ∃ bytes, entry.bytes? program.code = some bytes ∧ line = entry.text bytes)
          program.layout.entries.toList shown ∧
      (Assembler.mk (some program)).listing? =
        some (Text.joinLines (shown ++ program.layout.symbols.appendix) ++ ['\n'])) ∧
    program.layout.entries.toList.map (fun entry => (entry.line, entry.source)) =
      (numberedLines source).filterMap listed? ∧
    ∃ lines, readLines file source = .ok lines ∧
      (∀ before line after, lines = before ++ line :: after → line.isListed = true →
        ∃ entry, program.layout.entries[before.countP isListed]? = some entry ∧
          entry.line = line.location.line ∧ entry.source = line.source ∧
          ((∀ target, line.statement ≠ some (.origin target)) →
            entry.address = (Layout.ofLines before).image.origin ∧
            (line.emitted.length < 256 → entry.size = line.emitted.length) ∧
            ∀ name, line.label = some name → (∀ later ∈ after, later.label ≠ some name) →
              program.layout.symbols.find? name = some entry.address)) ∧
      ((∀ line ∈ lines, line.emitted.length < 256) →
        ∀ cell, (∃ entry ∈ program.layout.entries, ∃ offset < entry.size,
            cell = entry.address + BitVec.ofNat 8 offset) ↔
          program.layout.image.cells.read cell ≠ none) := by
  obtain ⟨lines, read, layout, -⟩ := assemble_eq_ok_iff.mp assembled
  have entries : program.layout.entries.toList = entriesFrom 0 lines := by
    rw [layout, Layout.entries_ofLines]
  refine ⟨fun entry => exists_bytes_of_entry assembled, exists_listing assembled, ?_, lines, read, ?_,
    ?_⟩
  · rw [entries, map_source_entriesFrom, filterMap_listed?_of_readLines read]
  · rintro before line after rfl listed
    refine ⟨line.entry (cursor 0 before), ?_, rfl, rfl, fun noOrigin => ?_⟩
    · rw [← Array.getElem?_toList, entries, getElem?_entriesFrom listed]
    rw [address_entry noOrigin, Layout.origin_ofLines]
    refine ⟨rfl, fun few => Nat.mod_eq_of_lt few, fun name labelled last => ?_⟩
    rw [layout, Layout.find?_ofLines, lastDefinition_append, lastDefinition, if_pos labelled,
      lastDefinition_eq_none_iff.mpr last]
    rfl
  · intro few cell
    have filled : program.layout.image.cells.read cell ≠ none ↔ cell ∈ filledBy 0 lines := by
      rw [layout, Layout.read_ofLines_ne_none_iff]
    simp only [← Array.mem_toList_iff, entries, filled]
    exact exists_entry_iff few

/-- A line that fills the last cell of the memory and the first one, before a label by itself. -/
theorem listing_accounts_of_wrap :
    ∃ program, assemble inputName "org 0xFF\na: db 1,2\nb:".toList = .ok program ∧
      (∃ entry, program.layout.entries[1]? = some entry ∧ entry.address = 0xFF ∧ entry.size = 2 ∧
        ∃ bytes byte, entry.bytes? program.code = some bytes ∧ program.code[0]? = some byte ∧
          bytes[1]? = some byte) ∧
      program.layout.symbols.find? "b".toList = some 1 ∧
      program.layout.image.cells.read 0 ≠ none := by
  have known : readLines inputName "org 0xFF\na: db 1,2\nb:".toList = .ok
      [⟨⟨inputName, 1, 1⟩, "org 0xFF".toList, none, some (.origin 0xFF)⟩,
        ⟨⟨inputName, 2, 1⟩, "a: db 1,2".toList, some ['a'], some (.data [1, 2])⟩,
        ⟨⟨inputName, 3, 1⟩, "b:".toList, some ['b'], none⟩] := rfl
  obtain ⟨program, assembled⟩ :=
    exists_assemble_of_forall known (by simp [emitted, Statement.cells])
  obtain ⟨shown, -, -, lines, read, placed, together⟩ := listing_accounts assembled
  obtain rfl := Except.ok.inj (known.symm.trans read)
  obtain ⟨entry, isEntry, -, -, here⟩ := placed [_] _ _ rfl rfl
  obtain ⟨address, size, -⟩ := here (by simp)
  obtain ⟨labelEntry, -, -, -, there⟩ := placed [_, _] _ [] rfl rfl
  obtain ⟨labelAddress, -, defined⟩ := there (by simp)
  have member : entry ∈ program.layout.entries := Array.mem_of_getElem? isEntry
  have sizeTwo : entry.size = 2 := size (by decide)
  obtain ⟨bytes, isRead, -, each⟩ := shown entry member
  obtain ⟨byte, second, isByte⟩ := each 1 (by omega)
  have wraps : entry.address + BitVec.ofNat 8 1 = 0 := by
    rw [address]
    rfl
  have label := defined _ rfl (by simp)
  rw [labelAddress] at label
  rw [wraps] at second
  refine ⟨program, assembled,
    ⟨entry, isEntry, address, sizeTwo, bytes, byte, isRead, second, isByte⟩, label, ?_⟩
  exact (together (by decide) 0).mp ⟨entry, member, 1, by omega, wraps.symm⟩

end Program
end ByteMachine
