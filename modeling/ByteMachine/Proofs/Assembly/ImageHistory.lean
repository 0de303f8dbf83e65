import ByteMachine.Proofs.Assembly.LastFilling

/-!
# Images by their history

An image is made from the empty one by filling the cell at the origin and by moving the origin to some
integer.  What is read out of it is told by this history alone: a cell has the byte that was written
there last, and there are as many bytes as the addresses that were written or moved to ask for, which
are never more than memory has.
-/

namespace ByteMachine

theorem Cells.mem_toList_of_read {α : Type} {width : Nat} (cells : Cells α width)
    (index : BitVec width) : cells.read index ∈ cells.toList := by
  rw [read, toList, Vector.mem_toList_iff]
  exact Vector.getElem_mem index.isLt

namespace Image

/-! ## Histories -/

/-- Something that is done to an image. -/
inductive Change
  /-- The cell at the origin is filled. -/
  | put (cell : ImageCell)
  /-- The origin is moved to an address, for which any integer stands. -/
  | moveTo (address : Int)
  deriving DecidableEq, Repr

/-- The image after a change. -/
def change (image : Image) : Change → Image
  | .put cell => image.put cell
  | .moveTo address => image.setOrigin address

/-- The image that is made by a list of changes. -/
def ofChanges (changes : List Change) : Image :=
  changes.foldl change empty

/-- The cells that are written by changes of which the first one is made at an origin, each with its
address. -/
def writes (origin : Byte) : List Change → List (Byte × ImageCell)
  | [] => []
  | .put cell :: rest => (origin, cell) :: writes (origin + 1) rest
  | .moveTo address :: rest => writes (BitVec.ofInt 8 address) rest

/-- How far changes reach of which the first one is made at an origin: one more than each address that
is written, and each origin that is set. -/
def bounds (origin : Byte) : List Change → List Nat
  | [] => []
  | .put _ :: rest => (origin.toNat + 1) :: bounds (origin + 1) rest
  | .moveTo address :: rest =>
      (BitVec.ofInt 8 address).toNat :: bounds (BitVec.ofInt 8 address) rest

/-- What was written last at an address. -/
def lastWrite (address : Byte) : List (Byte × ImageCell) → Option ImageCell
  | [] => none
  | write :: rest => (lastWrite address rest).or (if write.1 = address then some write.2 else none)

theorem foldl_put (image : Image) (cells : List ImageCell) :
    (cells.map Change.put).foldl change image = image.putAll cells := by
  rw [List.foldl_map]
  rfl

/-! ## What changes make of an image -/

theorem writes_append (image : Image) (changes more : List Change) :
    writes image.origin (changes ++ more) =
      writes image.origin changes ++ writes (changes.foldl change image).origin more := by
  induction changes generalizing image with
  | nil => rfl
  | cons first rest induction =>
      cases first with
      | put cell => exact congrArg _ (induction (image.put cell))
      | moveTo address => exact induction (image.setOrigin address)

/-- Cells that are filled without the origin being moved between them have consecutive addresses. -/
theorem writes_puts (origin : Byte) (cells : List ImageCell) :
    writes origin (cells.map .put) =
      cells.zipIdx.map fun put => (origin + BitVec.ofNat 8 put.2, put.1) := by
  have all (start : Nat) : writes (origin + BitVec.ofNat 8 start) (cells.map .put) =
      (cells.zipIdx start).map fun put => (origin + BitVec.ofNat 8 put.2, put.1) := by
    induction cells generalizing start with
    | nil => rfl
    | cons cell rest induction =>
        have step : origin + BitVec.ofNat 8 start + 1 = origin + BitVec.ofNat 8 (start + 1) := by
          apply BitVec.eq_of_toNat_eq
          simp
          omega
        rw [List.map_cons, writes, step, induction, List.zipIdx_cons, List.map_cons]
  have first := all 0
  rwa [BitVec.add_zero] at first

theorem read_foldl_change (image : Image) (changes : List Change) (address : Byte) :
    (changes.foldl change image).cells.read address =
      (lastWrite address (writes image.origin changes)).or (image.cells.read address) := by
  induction changes generalizing image with
  | nil => rfl
  | cons first rest induction =>
      rw [List.foldl_cons, induction]
      cases first with
      | put cell =>
          rw [writes, lastWrite, Option.or_assoc]
          congr 1
          change (image.cells.write image.origin (some cell)).read address = _
          rw [Cells.read_write]
          by_cases here : address = image.origin
          · rw [if_pos here, if_pos here.symm, Option.some_or]
          · rw [if_neg here, if_neg (Ne.symm here), Option.none_or]
      | moveTo target => rfl

theorem extent_foldl_change (image : Image) (changes : List Change) :
    (changes.foldl change image).extent =
      max image.extent ((bounds image.origin changes).foldr max 0) := by
  induction changes generalizing image with
  | nil => exact (Nat.max_zero _).symm
  | cons first rest induction =>
      rw [List.foldl_cons, induction]
      cases first with
      | put cell => exact Nat.max_assoc _ _ _
      | moveTo target => exact Nat.max_assoc _ _ _

theorem WithinExtent.foldl_change {image : Image} (within : image.WithinExtent)
    (changes : List Change) : (changes.foldl change image).WithinExtent := by
  induction changes generalizing image with
  | nil => exact within
  | cons first rest induction =>
      cases first with
      | put cell => exact induction (within.put cell)
      | moveTo address => exact induction (within.moveTo _)

/-! ## Images made from nothing -/

theorem withinExtent_ofChanges (changes : List Change) : (ofChanges changes).WithinExtent :=
  withinExtent_empty.foldl_change changes

theorem extent_ofChanges (changes : List Change) :
    (ofChanges changes).extent = (bounds 0 changes).foldr max 0 :=
  (extent_foldl_change empty changes).trans (Nat.zero_max _)

theorem read_ofChanges (changes : List Change) (address : Byte) :
    (ofChanges changes).cells.read address = lastWrite address (writes 0 changes) := by
  rw [ofChanges, read_foldl_change]
  exact (congrArg _ (Cells.read_fill none address)).trans Option.or_none

/-- Cells that are filled one after another in the course of a history. -/
theorem writes_ofChanges (before after : List Change) (cells : List ImageCell) :
    writes 0 (before ++ (cells.map .put ++ after)) =
      writes 0 before ++
        ((cells.zipIdx.map fun put =>
            ((ofChanges before).origin + BitVec.ofNat 8 put.2, put.1)) ++
          writes ((ofChanges before).origin + BitVec.ofNat 8 cells.length) after) := by
  have filled := writes_append (ofChanges before) (cells.map .put) after
  rw [writes_puts, foldl_put, origin_putAll] at filled
  exact (writes_append empty before _).trans (congrArg _ filled)

/-! ## What is read out -/

/-- Every cell has a byte when each label that a cell waits for is defined. -/
theorem exists_cellByte {image : Image} {symbols : SymbolTable}
    (defined : ∀ name ∈ image.pendingNames, symbols.find? name ≠ none) (address : Byte) :
    ∃ byte, image.cellByte symbols address = .ok byte := by
  rw [cellByte]
  cases filled : image.cells.read address with
  | none => exact ⟨0, rfl⟩
  | some cell =>
      cases cell with
      | literal value => exact ⟨value, rfl⟩
      | pending name location sourceLine =>
          have waits : name ∈ image.pendingNames :=
            List.mem_filterMap.mpr ⟨_, image.cells.mem_toList_of_read address, by rw [filled]; rfl⟩
          obtain ⟨value, found⟩ := Option.ne_none_iff_exists'.mp (defined name waits)
          exact ⟨value, by simp only [ImageCell.resolve, found]⟩

theorem exists_bytes {image : Image} (within : image.WithinExtent) {symbols : SymbolTable}
    (defined : ∀ name ∈ image.pendingNames, symbols.find? name ≠ none) :
    ∃ bytes, image.bytes symbols = .ok bytes := by
  cases result : image.bytes symbols with
  | ok bytes => exact ⟨bytes, rfl⟩
  | error report =>
      obtain ⟨address, failed, -⟩ := (bytes_eq_error_iff within).mp result
      obtain ⟨byte, has⟩ := exists_cellByte defined address
      rw [failed] at has
      cases has

theorem length_words_le {image : Image} (within : image.WithinExtent) {symbols : SymbolTable}
    {words : List Word} (found : image.words symbols = .ok words) : words.length ≤ 128 := by
  obtain ⟨bytes, read, rfl⟩ := map_eq_ok_iff.mp found
  have length := ((bytes_eq_ok_iff within).mp read).1
  have bound := size_le within
  have pairs := Word.length_ofBytes bytes
  omega

end Image

/-! ## Images of sources -/

namespace Layout

/-- The image of lines is made by filling cells and moving the origin. -/
theorem exists_image_ofLines (lines : List PlacedLine) :
    ∃ changes, (ofLines lines).image = Image.ofChanges changes := by
  have all (layout : Layout) (earlier : List Image.Change)
      (made : layout.image = Image.ofChanges earlier) :
      ∃ changes, (lines.foldl add layout).image = Image.ofChanges changes := by
    induction lines generalizing layout earlier with
    | nil => exact ⟨earlier, made⟩
    | cons line rest induction =>
        have more : ∃ changes : List Image.Change,
            (layout.add line).image = changes.foldl Image.change layout.image := by
          rw [image_add, imageAfter]
          split
          next => exact ⟨[], rfl⟩
          next address _ => exact ⟨[.moveTo address.toNat], by simp [Image.change, Image.setOrigin]⟩
          next => exact ⟨_, (Image.foldl_put _ _).symm⟩
        obtain ⟨changes, made'⟩ := more
        refine induction _ (earlier ++ changes) ?_
        rw [made', made, Image.ofChanges, Image.ofChanges, List.foldl_append]
  exact all empty [] rfl

end Layout

namespace Image

/-- An image has as many bytes as its history reaches far, rounded up to an even number.  Each of them
is what was written last at its address, or zero when nothing was.  Cells that are filled one after
another are at consecutive addresses, and there are never more than 256 bytes, so that the words of
a program are at most 128. -/
theorem bytes_ofChanges :
    (∀ (changes : List Change) (symbols : SymbolTable),
      let image := ofChanges changes
      let extent := (bounds 0 changes).foldr max 0
      extent ≤ 256 ∧
      (∀ (before after : List Change) (cells : List ImageCell),
        changes = before ++ (cells.map .put ++ after) →
          let origin := (ofChanges before).origin
          writes 0 changes =
            writes 0 before ++
              ((cells.zipIdx.map fun put => (origin + BitVec.ofNat 8 put.2, put.1)) ++
                writes (origin + BitVec.ofNat 8 cells.length) after)) ∧
      (∀ words, image.words symbols = .ok words → words.length ≤ 128) ∧
      ((∀ name ∈ image.pendingNames, symbols.find? name ≠ none) →
        ∃ bytes,
          image.bytes symbols = .ok bytes ∧
          image.words symbols = .ok (Word.ofBytes bytes) ∧
          bytes.length = extent + extent % 2 ∧
          ∀ (index : Nat) (small : index < bytes.length),
            match lastWrite (BitVec.ofNat 8 index) (writes 0 changes) with
            | none => bytes[index] = 0
            | some cell => cell.resolve symbols = .ok bytes[index])) ∧
    ∀ file source program, Program.assemble file source = .ok program →
      (∃ changes, program.layout.image = ofChanges changes) ∧ program.words.length ≤ 128 := by
  constructor
  · intro changes symbols image extent
    have within : image.WithinExtent := withinExtent_ofChanges changes
    have reach : image.extent = extent := extent_ofChanges changes
    refine ⟨reach ▸ within.bounded, ?_, fun words => length_words_le within, fun defined => ?_⟩
    · rintro before after cells rfl
      exact writes_ofChanges before after cells
    · obtain ⟨bytes, found⟩ := exists_bytes within defined
      obtain ⟨length, agree⟩ := (bytes_eq_ok_iff within).mp found
      refine ⟨bytes, found, map_eq_ok_iff.mpr ⟨bytes, found, rfl⟩, ?_, fun index small => ?_⟩
      · rw [length, size, reach]
      · have byte := agree index small
        rw [cellByte, read_ofChanges] at byte
        cases written : lastWrite (BitVec.ofNat 8 index) (writes 0 changes) with
        | none =>
            rw [written] at byte
            exact (Except.ok.inj byte).symm
        | some cell =>
            rw [written] at byte
            exact byte
  · intro file source program assembled
    obtain ⟨lines, -, layout, words⟩ := Program.assemble_eq_ok_iff.mp assembled
    have within : program.layout.image.WithinExtent := layout ▸ Layout.withinExtent_ofLines lines
    exact ⟨layout ▸ Layout.exists_image_ofLines lines, length_words_le within words⟩

/-- The first of two cells is the last one of memory, and the second one, for a label, is the first one.
Of two bytes at the address 4 the later one remains. -/
theorem bytes_of_wrapping :
    let changes : List Change :=
      [.moveTo 511, .put (.literal 1), .put (.pending ['x'] none none), .moveTo (-253),
        .put (.literal 2), .put (.literal 3), .moveTo 4, .put (.literal 4)]
    let symbols := SymbolTable.empty.define ['x'] 9
    (∀ name ∈ (ofChanges changes).pendingNames, symbols.find? name ≠ none) ∧
      ∃ bytes, (ofChanges changes).bytes symbols = .ok bytes ∧ bytes.length = 256 ∧
        bytes[0]? = some 9 ∧ bytes[3]? = some 2 ∧ bytes[4]? = some 4 ∧ bytes[255]? = some 1 := by
  intro changes symbols
  have defined : ∀ name ∈ (ofChanges changes).pendingNames, symbols.find? name ≠ none := by
    decide +kernel
  obtain ⟨bytes, found, -, length, agree⟩ := (bytes_ofChanges.1 changes symbols).2.2.2 defined
  have whole : bytes.length = 256 := length.trans (by decide)
  have byteAt (index : Nat) (small : index < 256) {cell : ImageCell} {byte : Byte}
      (written : lastWrite (BitVec.ofNat 8 index) (writes 0 changes) = some cell)
      (resolved : cell.resolve symbols = .ok byte) : bytes[index]? = some byte := by
    have read := agree index (by omega)
    rw [written] at read
    rw [List.getElem?_eq_getElem (by omega)]
    exact congrArg some (Except.ok.inj (read.symm.trans resolved))
  exact ⟨defined, bytes, found, whole, byteAt 0 (by omega) rfl rfl, byteAt 3 (by omega) rfl rfl,
    byteAt 4 (by omega) rfl rfl, byteAt 255 (by omega) rfl rfl⟩

end Image
end ByteMachine
