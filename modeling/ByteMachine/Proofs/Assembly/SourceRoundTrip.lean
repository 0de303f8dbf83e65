import ByteMachine.Proofs.Assembly.Placement
import ByteMachine.Proofs.Assembly.Statements
import Mathlib.Tactic.Tauto

/-!
# Source written for bytes

The source that is written for at most 256 bytes assembles to the words of these bytes.  Its labels
are the names of the addresses of words, and a name that stands for several of them belongs to the
highest one.
-/

namespace ByteMachine

/-! ## The line of a word -/

namespace AddressNames

/-- Every name is empty or can be defined as a label. -/
def AreLabels (names : AddressNames) : Prop :=
  ∀ entry ∈ names.entries, entry.2 = [] ∨ Operand.isLabelName entry.2 = true

/-- The label on the line of the word at an address. -/
def label? (names : AddressNames) (address : Byte) : Option Text :=
  (names.find? address).filter (· ≠ [])

theorem label?_eq_some_iff {names : AddressNames} {address : Byte} {name : Text} :
    names.label? address = some name ↔ names.find? address = some name ∧ name ≠ [] := by
  rw [label?, Option.filter_eq_some_iff, decide_eq_true_iff]

theorem isLabelName_of_label? {names : AddressNames} (valid : names.AreLabels) {address : Byte}
    {name : Text} (labelled : names.label? address = some name) :
    Operand.isLabelName name = true := by
  obtain ⟨found, present⟩ := label?_eq_some_iff.mp labelled
  obtain ⟨before, after, entries, -⟩ := List.lookup_eq_some_iff.mp found
  have member : ((address.toNat : Int), name) ∈ names.entries := by
    rw [entries]
    simp
  exact (valid _ member).resolve_left present

theorem sourceLine_of_label? {names : AddressNames} {shown : DisassembledWord} :
    names.sourceLine shown =
      match names.label? shown.address with
      | none => shown.word.text
      | some name => name ++ ':' :: ([' '] ++ shown.word.text) := by
  rw [sourceLine, label?]
  cases names.find? shown.address with
  | none => rfl
  | some name =>
      cases name with
      | nil => rfl
      | cons c rest =>
          have kept : Option.filter (fun name => decide (name ≠ [])) (some (c :: rest)) =
              some (c :: rest) := rfl
          rw [kept, Option.getD_some]
          simp [DisassembledWord.statement]

/-- The line of a word is taken apart into its label, its mnemonic and its operands. -/
theorem ofText_sourceLine {names : AddressNames} (valid : names.AreLabels)
    (shown : DisassembledWord) :
    SourceLine.ofText (names.sourceLine shown) =
      .ok ⟨names.label? shown.address, some shown.word.mnemonic.name, shown.word.operands, []⟩ := by
  have noComment : ';' ∉ shown.word.text :=
    shown.word.not_mem_text rfl (by simp) (by simp)
  have noLabel : ':' ∉ shown.word.text :=
    shown.word.not_mem_text rfl (by simp) (by simp)
  rw [sourceLine_of_label?]
  cases labelled : names.label? shown.address with
  | none =>
      have body := shown.word.ofBody_text none [] (by simp)
      rw [List.nil_append] at body
      exact (SourceLine.ofText_of_unlabelled noComment noLabel).trans (congrArg _ body)
  | some name =>
      have body := shown.word.ofBody_text (some name) [' '] (by simp [Text.isBlank])
      have uncommented : ';' ∉ [' '] ++ shown.word.text := by simp [noComment]
      exact (SourceLine.ofText_of_labelled (isLabelName_of_label? valid labelled)
        uncommented).trans (congrArg _ body)

theorem isLineBreak_sourceLine {names : AddressNames} (valid : names.AreLabels)
    (shown : DisassembledWord) : ∀ c ∈ names.sourceLine shown, Text.isLineBreak c = false := by
  intro c member
  rw [sourceLine_of_label?] at member
  cases labelled : names.label? shown.address with
  | none =>
      rw [labelled] at member
      exact shown.word.isLineBreak_text c member
  | some name =>
      rw [labelled] at member
      simp only [List.mem_append, List.mem_cons] at member
      rcases member with named | rfl | (rfl | impossible) | written
      · exact Operand.isLineBreak_of_isLabelChar
          (Operand.isLabelChar_of_mem (isLabelName_of_label? valid labelled) named)
      · rfl
      · rfl
      · cases impossible
      · exact shown.word.isLineBreak_text c written

theorem trim_sourceLine_ne_nil (names : AddressNames) (shown : DisassembledWord) :
    Text.trim (names.sourceLine shown) ≠ [] := by
  obtain ⟨c, member, solid⟩ := shown.word.exists_solid_mem_text
  refine Text.trim_ne_nil (c := c) ?_ solid
  rw [sourceLine_of_label?]
  split
  · exact member
  · simp [member]

/-- A line that was read is the line of a word at its address. -/
def IsLineOf (names : AddressNames) (shown : DisassembledWord) (line : PlacedLine) : Prop :=
  line.label = names.label? shown.address ∧ line.statement = some shown.word.statement

theorem exists_read_sourceLine {names : AddressNames} (valid : names.AreLabels) (file : Text)
    (number : Nat) (shown : DisassembledWord) :
    ∃ line, PlacedLine.read file number (names.sourceLine shown) = .ok line ∧
      names.IsLineOf shown line := by
  have read : Statement.ofParts shown.word.mnemonic.name shown.word.operands =
      .ok shown.word.statement := by
    rw [Statement.ofParts, Mnemonic.ofText?_name]
    exact shown.word.read_operands
  refine ⟨⟨_, _, names.label? shown.address, some shown.word.statement⟩,
    PlacedLine.read_eq_ok_iff.mpr ⟨_, _, ofText_sourceLine valid shown, ?_, rfl⟩, rfl, rfl⟩
  rw [SourceLine.statement]
  simp [read]

/-- Consecutive lines of words are read as the lines of these words. -/
theorem exists_mapM_read {names : AddressNames} (valid : names.AreLabels) (file : Text)
    (number : Nat) (words : List DisassembledWord) :
    ∃ lines, (((words.map names.sourceLine).zipIdx number).map fun line => (line.2, line.1)).mapM
        (fun line => PlacedLine.read file line.1 line.2) = .ok lines ∧
      List.Forall₂ names.IsLineOf words lines := by
  induction words generalizing number with
  | nil => exact ⟨[], rfl, .nil⟩
  | cons shown rest induction =>
      obtain ⟨line, read, isLine⟩ := exists_read_sourceLine valid file number shown
      obtain ⟨lines, readRest, areLines⟩ := induction (number + 1)
      refine ⟨line :: lines, ?_, .cons isLine areLines⟩
      rw [List.map_cons, List.zipIdx_cons, List.map_cons, mapM_eq_ok_iff]
      exact .cons read (mapM_eq_ok_iff.mp readRest)

theorem numberedLines_source {names : AddressNames} (valid : names.AreLabels)
    (words : List DisassembledWord) :
    numberedLines (Text.joinLines (words.map names.sourceLine) ++ ['\n']) =
      ((words.map names.sourceLine).zipIdx 1).map fun line => (line.2, line.1) := by
  have keepAll (lines : List (Text × Nat)) (solid : ∀ line ∈ lines, Text.trim line.1 ≠ []) :
      (lines.filterMap fun line => if Text.trim line.1 = [] then none else some (line.2, line.1)) =
        lines.map fun line => (line.2, line.1) := by
    induction lines with
    | nil => rfl
    | cons line rest induction =>
        rw [List.filterMap_cons, if_neg (solid line (by simp)), List.map_cons,
          induction fun other member => solid other (by simp [member])]
  cases words with
  | nil => rfl
  | cons shown rest =>
      rw [numberedLines, Text.lines_joinLines (by simp), keepAll]
      · intro line member
        obtain ⟨word, -, same⟩ := List.mem_map.mp (List.fst_mem_of_mem_zipIdx member)
        rw [← same]
        exact names.trim_sourceLine_ne_nil word
      · intro text member
        obtain ⟨word, -, rfl⟩ := List.mem_map.mp member
        exact isLineBreak_sourceLine valid word

/-- The source for bytes is read as the lines of their words. -/
theorem exists_readLines_source {names : AddressNames} (valid : names.AreLabels) (file : Text)
    (bytes : List Byte) :
    ∃ lines, Program.readLines file (names.source bytes) = .ok lines ∧
      List.Forall₂ names.IsLineOf (names.disassembleWords 0 (Word.ofBytes bytes)) lines := by
  rw [Program.readLines, source, numberedLines_source valid]
  exact exists_mapM_read valid file 1 _

end AddressNames

/-! ## The image of consecutive words -/

/-- The image has the given bytes from address zero on and goes on behind them. -/
structure Image.Holds (image : Image) (bytes : List Byte) : Prop where
  /-- The next cell is the one behind the bytes. -/
  origin : image.origin = BitVec.ofNat 8 bytes.length
  /-- No cell behind the bytes was reached. -/
  extent : image.extent = bytes.length
  /-- Each byte stands in the cell of its index. -/
  cells : ∀ (index : Nat) (small : index < bytes.length),
    image.cells.read (BitVec.ofNat 8 index) = some (.literal bytes[index])

namespace Image.Holds

variable {image : Image} {bytes : List Byte}

theorem put (holds : image.Holds bytes) (byte : Byte) (room : bytes.length < 256) :
    (image.put (.literal byte)).Holds (bytes ++ [byte]) where
  origin := by
    rw [Image.put, holds.origin, List.length_append, List.length_singleton, BitVec.ofNat_add]
    rfl
  extent := by
    have address : (BitVec.ofNat 8 bytes.length).toNat = bytes.length :=
      Nat.mod_eq_of_lt room
    rw [Image.put, holds.origin, address, holds.extent, List.length_append, List.length_singleton]
    exact Nat.max_eq_right (Nat.le_succ _)
  cells index small := by
    rw [List.length_append, List.length_singleton] at small
    rw [Image.put, holds.origin, Cells.read_write]
    by_cases last : index = bytes.length
    · subst last
      rw [if_pos rfl, List.getElem_concat_length rfl]
    · have distinct : BitVec.ofNat 8 index ≠ BitVec.ofNat 8 bytes.length := by
        intro same
        have values := congrArg BitVec.toNat same
        rw [BitVec.toNat_ofNat, BitVec.toNat_ofNat] at values
        omega
      have earlier : index < bytes.length := by omega
      rw [if_neg distinct, holds.cells index earlier, List.getElem_append_left earlier]

/-- An image that holds an even number of bytes is read out as these bytes. -/
theorem bytes_eq (holds : image.Holds bytes) (within : image.WithinExtent)
    (even : bytes.length % 2 = 0) (symbols : SymbolTable) : image.bytes symbols = .ok bytes := by
  rw [Image.bytes_eq_ok_iff within, Image.size, holds.extent, even]
  refine ⟨rfl, fun index small => ?_⟩
  rw [Image.cellByte, holds.cells index small]
  rfl

end Image.Holds

namespace AddressNames

variable {names : AddressNames}

/-- Lines of words continue the bytes that the image holds. -/
theorem holds_foldl_add {layout : Layout} {bytes : List Byte} {words : List Word} {address : Byte}
    {lines : List PlacedLine} (holds : layout.image.Holds bytes)
    (room : bytes.length + 2 * words.length ≤ 256)
    (areLines : List.Forall₂ names.IsLineOf (names.disassembleWords address words) lines) :
    (lines.foldl Layout.add layout).image.Holds (bytes ++ Word.joinBytes words) := by
  induction words generalizing layout bytes address lines with
  | nil =>
      cases areLines
      simpa [Word.joinBytes] using holds
  | cons word rest induction =>
      obtain _ | ⟨isLine, areRest⟩ := areLines
      rename_i line more
      rw [List.length_cons] at room
      have isStatement : line.statement = some word.statement := isLine.2
      have filled : (layout.add line).image =
          (layout.image.put (.literal word.first)).put (.literal word.second) := by
        rw [layout.image_add_of_statement isStatement word.statement_ne_origin,
          word.cells_statement]
        rfl
      have step : (layout.add line).image.Holds (bytes ++ [word.first] ++ [word.second]) := by
        rw [filled]
        exact (holds.put word.first (by omega)).put word.second (by simp; omega)
      have continued := induction step (by simp; omega) areRest
      rw [List.foldl_cons]
      simpa [Word.joinBytes, Word.bytes] using continued

/-! ## The labels of consecutive words -/

/-- The address is that of one of consecutive words, and it has the name. -/
def NamesWord (names : AddressNames) (start : Byte) (count : Nat) (name : Text) (address : Byte) :
    Prop :=
  start.toNat ≤ address.toNat ∧ address.toNat < start.toNat + 2 * count ∧
    address.toNat % 2 = start.toNat % 2 ∧ names.label? address = some name

theorem namesWord_succ {start address : Byte} {count : Nat} {name : Text}
    (room : start.toNat + 2 * (count + 1) ≤ 256) :
    names.NamesWord start (count + 1) name address ↔
      (address = start ∧ names.label? start = some name) ∨
        names.NamesWord (start + 2) count name address := by
  have second : (start + 2).toNat = (start.toNat + 2) % 256 := by
    rw [BitVec.toNat_add]
    rfl
  have bound := address.isLt
  constructor
  · rintro ⟨above, below, parity, named⟩
    by_cases first : address = start
    · exact .inl ⟨first, first ▸ named⟩
    · have apart : address.toNat ≠ start.toNat := fun same => first (BitVec.eq_of_toNat_eq same)
      exact .inr ⟨by omega, by omega, by omega, named⟩
  · rintro (⟨rfl, named⟩ | ⟨above, below, parity, named⟩)
    · exact ⟨le_refl _, by omega, rfl, named⟩
    · exact ⟨by omega, by omega, by omega, named⟩

/-- The last definition of a label among the lines of words is at the highest address that has this
name. -/
theorem lastDefinition_of_areLines {words : List Word} {start : Byte} {lines : List PlacedLine}
    (room : start.toNat + 2 * words.length ≤ 256)
    (areLines : List.Forall₂ names.IsLineOf (names.disassembleWords start words) lines)
    (name : Text) :
    match PlacedLine.lastDefinition name start lines with
    | none => ∀ address, ¬names.NamesWord start words.length name address
    | some highest => names.NamesWord start words.length name highest ∧
        ∀ address, names.NamesWord start words.length name address →
          address.toNat ≤ highest.toNat := by
  induction words generalizing start lines with
  | nil =>
      cases areLines
      intro address named
      have := named.1
      have := named.2.1
      simp at this
      omega
  | cons word rest induction =>
      obtain _ | ⟨isLine, areRest⟩ := areLines
      rename_i line more
      rw [List.length_cons] at room
      have isStatement : line.statement = some word.statement := isLine.2
      have label : line.label = names.label? start := isLine.1
      have next : line.next start = start + 2 := by
        rw [PlacedLine.next_of_statement start isStatement word.statement_ne_origin,
          word.cells_statement]
        rfl
      have restRoom : (start + 2).toNat + 2 * rest.length ≤ 256 := by
        rw [BitVec.toNat_add]
        simp
        omega
      have later := induction restRoom areRest
      rw [PlacedLine.lastDefinition, next, label, List.length_cons]
      -- The name of the first word counts only if no later word has it.
      cases last : PlacedLine.lastDefinition name (start + 2) more with
      | some highest =>
          rw [last] at later
          have highestNamed := (namesWord_succ room).mpr (.inr later.1)
          refine ⟨highestNamed, fun address named => ?_⟩
          rcases (namesWord_succ room).mp named with ⟨rfl, -⟩ | namedLater
          · exact highestNamed.1
          · exact later.2 address namedLater
      | none =>
          rw [last] at later
          by_cases named : names.label? start = some name
          · rw [if_pos named]
            refine ⟨(namesWord_succ room).mpr (.inl ⟨rfl, named⟩), fun address other => ?_⟩
            rcases (namesWord_succ room).mp other with ⟨rfl, -⟩ | namedLater
            · exact le_refl _
            · exact absurd namedLater (later address)
          · rw [if_neg named]
            intro address other
            rcases (namesWord_succ room).mp other with ⟨-, first⟩ | namedLater
            · exact named first
            · exact later address namedLater

/-- The entries of the symbol table are the names of the addresses of words, each with the highest
address that it names. -/
theorem mem_entries_iff_of_areLines {words : List Word} {lines : List PlacedLine}
    (room : 2 * words.length ≤ 256)
    (areLines : List.Forall₂ names.IsLineOf (names.disassembleWords 0 words) lines)
    {name : Text} {address : Byte} :
    (name, address) ∈ (Layout.ofLines lines).symbols.entries ↔
      names.NamesWord 0 words.length name address ∧
        ∀ other, names.NamesWord 0 words.length name other → other.toNat ≤ address.toNat := by
  have last := lastDefinition_of_areLines (by simpa using room) areLines name
  rw [SymbolTable.mem_entries_iff (Layout.nodup_names_ofLines lines), Layout.find?_ofLines]
  cases defined : PlacedLine.lastDefinition name 0 lines with
  | none =>
      rw [defined] at last
      constructor
      · intro impossible
        cases impossible
      · rintro ⟨named, -⟩
        exact absurd named (last address)
  | some highest =>
      rw [defined] at last
      constructor
      · rintro ⟨⟩
        exact last
      · rintro ⟨named, greatest⟩
        have above := greatest highest last.1
        have below := last.2 address named
        exact congrArg some (BitVec.eq_of_toNat_eq (by omega))

end AddressNames

namespace Program

/-- The source written for at most 256 bytes assembles to their words, and the entries of the symbol
table are the names of the addresses of words, each with the highest address that it names. -/
theorem assemble_source (names : AddressNames) (valid : names.AreLabels) (bytes : List Byte)
    (fits : bytes.length ≤ 256) (file : Text) :
    ∃ program, assemble file (names.source bytes) = .ok program ∧
      program.words = Word.ofBytes bytes ∧
      program.layout.symbols.names.Nodup ∧
      ∀ name address, (name, address) ∈ program.layout.symbols.entries ↔
        (name ≠ [] ∧ names.find? address = some name ∧ address.toNat % 2 = 0 ∧
          address.toNat < bytes.length + bytes.length % 2) ∧
        ∀ other : Byte, names.find? other = some name → other.toNat % 2 = 0 →
          other.toNat < bytes.length + bytes.length % 2 → other.toNat ≤ address.toNat := by
  obtain ⟨lines, read, areLines⟩ := AddressNames.exists_readLines_source valid file bytes
  have length := Word.length_ofBytes bytes
  have room : 2 * (Word.ofBytes bytes).length ≤ 256 := by omega
  have empty : Layout.empty.image.Holds [] := ⟨rfl, rfl, fun _ small => nomatch small⟩
  have holds : (Layout.ofLines lines).image.Holds (Word.joinBytes (Word.ofBytes bytes)) :=
    AddressNames.holds_foldl_add empty (by simpa using room) areLines
  have even : (Word.joinBytes (Word.ofBytes bytes)).length % 2 = 0 := by
    rw [Word.length_joinBytes]
    omega
  have words : (Layout.ofLines lines).image.words (Layout.ofLines lines).symbols =
      .ok (Word.ofBytes bytes) := by
    rw [Image.words, holds.bytes_eq (Layout.withinExtent_ofLines lines) even]
    exact congrArg Except.ok (Word.ofBytes_joinBytes _)
  refine ⟨⟨Layout.ofLines lines, Word.ofBytes bytes⟩,
    assemble_eq_ok_iff.mpr ⟨lines, read, rfl, words⟩, rfl, Layout.nodup_names_ofLines lines, ?_⟩
  intro name address
  have namesWord (address : Byte) :
      names.NamesWord 0 (Word.ofBytes bytes).length name address ↔
        name ≠ [] ∧ names.find? address = some name ∧ address.toNat % 2 = 0 ∧
          address.toNat < bytes.length + bytes.length % 2 := by
    rw [AddressNames.NamesWord, AddressNames.label?_eq_some_iff, length]
    simp
    tauto
  rw [AddressNames.mem_entries_iff_of_areLines room areLines, ← namesWord]
  apply and_congr_right
  intro named
  have present : name ≠ [] := ((namesWord address).mp named).1
  constructor
  · intro greatest other found parity small
    exact greatest other ((namesWord other).mpr ⟨present, found, parity, small⟩)
  · intro greatest other otherNamed
    obtain ⟨-, found, parity, small⟩ := (namesWord other).mp otherNamed
    exact greatest other found parity small

/-- An odd number of bytes, of which one pair is no instruction, and a name that is used twice. -/
theorem assemble_source_repeated_name :
    let names : AddressNames := ⟨[(0, ['a']), (2, ['b']), (4, ['a']), (6, ['c']), (-2, [])]⟩
    let bytes : List Byte := [0xB0, 0x02, 0x0F, 0x10, 0xC0]
    names.AreLabels ∧ bytes.length ≤ 256 ∧
      ∃ program, assemble inputName (names.source bytes) = .ok program ∧
        program.words = [⟨0xB0, 0x02⟩, ⟨0x0F, 0x10⟩, ⟨0xC0, 0x00⟩] ∧
        (['a'], 4) ∈ program.layout.symbols.entries ∧
        (['a'], 0) ∉ program.layout.symbols.entries := by
  intro names bytes
  have valid : names.AreLabels := by
    unfold AddressNames.AreLabels
    decide
  have fits : bytes.length ≤ 256 := by decide
  obtain ⟨program, assembled, words, -, entries⟩ := assemble_source names valid bytes fits inputName
  refine ⟨valid, fits, program, assembled, words, ?_, ?_⟩
  · rw [entries]
    decide
  · rw [entries]
    decide

end Program
end ByteMachine
