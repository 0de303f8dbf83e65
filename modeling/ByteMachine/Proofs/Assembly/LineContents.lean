import ByteMachine.Proofs.Assembly.LastFilling

/-!
# Programs by what their lines say

The words and the labels of a program depend only on what its lines say, one after another: their
labels and statements.  Neither the places of the lines nor the blank lines between them count.
-/

namespace ByteMachine

/-! ## Extents -/

/-- One more than the highest address among so many cells from an address on. -/
def Image.reach (address : Byte) : Nat → Nat
  | 0 => 0
  | more + 1 => max (address.toNat + 1) (reach (address + 1) more)

theorem Image.extent_putAll (image : Image) (cells : List ImageCell) :
    (image.putAll cells).extent = max image.extent (reach image.origin cells.length) := by
  induction cells generalizing image with
  | nil => exact (Nat.max_zero _).symm
  | cons cell rest induction =>
      rw [putAll_cons, induction, List.length_cons, reach, ← Nat.max_assoc]
      rfl

namespace PlacedLine

/-- How far a line at an address extends an image: up to its highest cell, or the new origin. -/
def reach (address : Byte) (line : PlacedLine) : Nat :=
  match line.statement with
  | none => 0
  | some (.origin target) => target.toNat
  | some statement => Image.reach address statement.cells.length

/-- How far lines extend an image of which the first one is at an address. -/
def reachBy (address : Byte) : List PlacedLine → Nat
  | [] => 0
  | line :: rest => max (line.reach address) (reachBy (line.next address) rest)

theorem reachBy_append (address : Byte) (lines more : List PlacedLine) :
    reachBy address (lines ++ more) =
      max (reachBy address lines) (reachBy (cursor address lines) more) := by
  induction lines generalizing address with
  | nil => exact (Nat.zero_max _).symm
  | cons line rest induction =>
      rw [List.cons_append, reachBy, induction, reachBy, Nat.max_assoc, cursor_cons]

end PlacedLine

namespace Layout

open PlacedLine

theorem extent_add (layout : Layout) (line : PlacedLine) :
    (layout.add line).image.extent =
      max layout.image.extent (line.reach layout.image.origin) := by
  rw [image_add, imageAfter, reach]
  cases line.statement with
  | none => exact (Nat.max_zero _).symm
  | some statement =>
      cases statement with
      | instruction body => rw [Image.extent_putAll, List.length_map]
      | data bytes => rw [Image.extent_putAll, List.length_map]
      | origin target => rfl

theorem extent_foldl_add (layout : Layout) (lines : List PlacedLine) :
    (lines.foldl add layout).image.extent =
      max layout.image.extent (reachBy layout.image.origin lines) := by
  induction lines generalizing layout with
  | nil => exact (Nat.max_zero _).symm
  | cons line rest induction =>
      rw [List.foldl_cons, induction, extent_add, origin_add, reachBy, Nat.max_assoc]

/-- The extent of a layout is told by its lines. -/
theorem extent_ofLines (lines : List PlacedLine) :
    (ofLines lines).image.extent = reachBy 0 lines :=
  (extent_foldl_add empty lines).trans (Nat.zero_max _)

end Layout

/-! ## Words -/

/-- Images of the same extent with the same bytes have the same words. -/
theorem Image.words_eq_ok_iff_of_bytes {left right : Image} {symbols other : SymbolTable}
    (leftWithin : left.WithinExtent) (rightWithin : right.WithinExtent)
    (extent : left.extent = right.extent)
    (bytes : ∀ cell byte,
      left.cellByte symbols cell = .ok byte ↔ right.cellByte other cell = .ok byte)
    {words : List Word} : left.words symbols = .ok words ↔ right.words other = .ok words := by
  have size : left.size = right.size := by rw [Image.size, Image.size, extent]
  simp only [Image.words, map_eq_ok_iff, bytes_eq_ok_iff leftWithin, bytes_eq_ok_iff rightWithin,
    bytes, size]

/-! ## Layouts that match -/

/-- What a cell holds, without the place where a label is used. -/
def ImageCell.reference : ImageCell → Reference Byte
  | literal value => .known value
  | pending name _ _ => .pending name

theorem ImageCell.resolve_eq_ok_iff {cell : ImageCell} {symbols : SymbolTable} {byte : Byte} :
    cell.resolve symbols = .ok byte ↔
      match cell.reference with
      | .known value => value = byte
      | .pending name => symbols.find? name = some byte := by
  cases cell with
  | literal value => simp [resolve, reference]
  | pending name location source =>
      simp only [resolve, reference]
      cases symbols.find? name with
      | none => simp
      | some address => simp

namespace Layout

open PlacedLine

theorem reference_cellOf (symbols : SymbolTable) (line : PlacedLine) (target : Target) :
    (cellOf symbols line target).reference = target.resolve id symbols.find? := by
  rw [cellOf]
  cases target.resolve id symbols.find? with
  | known value => rfl
  | pending name => rfl

/-- Layouts that differ at most in the places at which labels are used and in their listings. -/
structure Matches (left right : Layout) : Prop where
  /-- The labels have the same addresses. -/
  symbols : left.symbols = right.symbols
  /-- The origins are the same. -/
  origin : left.image.origin = right.image.origin
  /-- The extents are the same. -/
  extent : left.image.extent = right.image.extent
  /-- The cells hold the same bytes and wait for the same labels. -/
  references : ∀ cell, (left.image.cells.read cell).map ImageCell.reference =
    (right.image.cells.read cell).map ImageCell.reference

theorem Matches.add {left right : Layout} (same : left.Matches right) {line other : PlacedLine}
    (contents : line.contents = other.contents) : (left.add line).Matches (right.add other) := by
  obtain ⟨label, statement⟩ := Prod.mk.inj contents
  have symbols : (left.add line).symbols = (right.add other).symbols := by
    rw [symbols_add, symbols_add, label]
    cases other.label with
    | none => exact same.symbols
    | some name => simp only [define, same.symbols, same.origin]
  refine ⟨symbols, ?_, ?_, fun cell => ?_⟩
  · rw [origin_add, origin_add, same.origin, next, next, statement]
  · rw [extent_add, extent_add, same.extent, same.origin, reach, reach, statement]
  · rw [read_add, read_add, Option.map_or, Option.map_or, Option.map_map, Option.map_map,
      same.references, same.origin, filling, filling, statement]
    congr 2
    funext target
    rw [Function.comp_apply, Function.comp_apply, reference_cellOf, reference_cellOf, symbols]

theorem Matches.cellByte_eq_ok_iff {left right : Layout} (same : left.Matches right)
    {cell byte : Byte} :
    left.image.cellByte left.symbols cell = .ok byte ↔
      right.image.cellByte right.symbols cell = .ok byte := by
  have references := same.references cell
  rw [Image.cellByte, Image.cellByte, same.symbols]
  cases held : left.image.cells.read cell with
  | none =>
      rw [held] at references
      rw [Option.map_eq_none_iff.mp references.symm]
  | some content =>
      rw [held] at references
      obtain ⟨other, holds, reference⟩ := Option.map_eq_some_iff.mp references.symm
      rw [holds]
      change content.resolve _ = _ ↔ other.resolve _ = _
      rw [ImageCell.resolve_eq_ok_iff, ImageCell.resolve_eq_ok_iff, reference]

theorem matches_of_eq {left right : Layout} (symbols : left.symbols = right.symbols)
    (image : left.image = right.image) : left.Matches right :=
  ⟨symbols, by rw [image], by rw [image], fun _ => by rw [image]⟩

theorem Matches.trans {left middle right : Layout} (first : left.Matches middle)
    (second : middle.Matches right) : left.Matches right where
  symbols := first.symbols.trans second.symbols
  origin := first.origin.trans second.origin
  extent := first.extent.trans second.extent
  references cell := (first.references cell).trans (second.references cell)

/-- Layouts still match after lines that say the same. -/
theorem Matches.foldl_add {left right : Layout} (start : left.Matches right)
    {lines more : List PlacedLine} (same : lines.map contents = more.map contents) :
    (lines.foldl Layout.add left).Matches (more.foldl Layout.add right) := by
  induction lines generalizing more left right with
  | nil =>
      obtain rfl : more = [] := List.map_eq_nil_iff.mp same.symm
      exact start
  | cons line rest induction =>
      obtain ⟨other, others, rfl, first, later⟩ := List.map_eq_cons_iff.mp same.symm
      exact induction (start.add first.symm) later.symm

/-- Lines that say the same lead to layouts that match. -/
theorem ofLines_matches {lines more : List PlacedLine}
    (same : lines.map contents = more.map contents) : (ofLines lines).Matches (ofLines more) :=
  (matches_of_eq rfl rfl).foldl_add same

/-- Lines of which the layouts match have the same words, if they have any. -/
theorem Matches.words_eq_ok_iff {lines more : List PlacedLine}
    (matching : (ofLines lines).Matches (ofLines more)) {words : List Word} :
    (ofLines lines).image.words (ofLines lines).symbols = .ok words ↔
      (ofLines more).image.words (ofLines more).symbols = .ok words :=
  Image.words_eq_ok_iff_of_bytes (withinExtent_ofLines lines) (withinExtent_ofLines more)
    matching.extent fun _ _ => matching.cellByte_eq_ok_iff

/-- Lines that say the same have the same words, if they have any. -/
theorem words_eq_ok_iff_of_contents {lines more : List PlacedLine}
    (same : lines.map contents = more.map contents) {words : List Word} :
    (ofLines lines).image.words (ofLines lines).symbols = .ok words ↔
      (ofLines more).image.words (ofLines more).symbols = .ok words :=
  (ofLines_matches same).words_eq_ok_iff

end Layout

/-! ## Lines that are not blank -/

namespace Text

/-- The lines of a text that are not blank. -/
def solidLines (text : Text) : List Text :=
  (lines text).filter fun line => trim line ≠ []

/-- The first text and, below it, the second one. -/
def above (upper lower : Text) : Text :=
  if upper.getLast?.all isLineBreak then upper ++ lower else upper ++ '\n' :: lower

/-- A line without breaks in front of a text that starts with a break. -/
theorem solidLines_line_append {line : Text} {mark : Char} (rest : Text)
    (clean : ∀ c ∈ line, isLineBreak c = false) (isBreak : isLineBreak mark = true) :
    solidLines (line ++ mark :: rest) =
      ([line].filter fun line => trim line ≠ []) ++ solidLines rest := by
  have opens : ∃ more, lines (mark :: rest) = [] :: more ∧
      (more.filter fun line => trim line ≠ []) = solidLines rest := by
    by_cases pair : mark = '\r' ∧ ∃ after, rest = '\n' :: after
    · obtain ⟨rfl, after, rfl⟩ := pair
      exact ⟨lines after, rfl, rfl⟩
    · refine ⟨lines rest, ?_, rfl⟩
      rw [lines]
      · rw [isBreak, if_pos rfl]
      · exact fun after isReturn isPair => pair ⟨isReturn, after, isPair⟩
  obtain ⟨more, opens, same⟩ := opens
  rw [solidLines, lines_append clean opens, ← same, ← List.filter_append]
  rfl

theorem solidLines_append_cons (upper lower : Text) {mark : Char}
    (isBreak : isLineBreak mark = true) :
    solidLines (upper ++ mark :: lower) = solidLines upper ++ solidLines lower := by
  -- The induction moves the characters of a line in front of the breaks to its left.
  have all (line : Text) (clean : ∀ c ∈ line, isLineBreak c = false) :
      solidLines (line ++ upper ++ mark :: lower) =
        solidLines (line ++ upper) ++ solidLines lower := by
    induction upper generalizing line with
    | nil =>
        have single : solidLines line = [line].filter fun line => trim line ≠ [] := by
          cases line with
          | nil => rfl
          | cons first rest => rw [solidLines, lines_of_forall (by simp) clean]
        rw [List.append_nil, solidLines_line_append lower clean isBreak, single]
    | cons c rest induction =>
        cases inner : isLineBreak c with
        | true =>
            rw [List.append_assoc, List.cons_append, solidLines_line_append _ clean inner,
              solidLines_line_append rest clean inner, List.append_assoc]
            exact congrArg _ (induction [] (by simp))
        | false =>
            have cleanMore : ∀ other ∈ line ++ [c], isLineBreak other = false := by
              simp only [List.forall_mem_append, List.forall_mem_singleton]
              exact ⟨clean, inner⟩
            simpa using induction (line ++ [c]) cleanMore
  exact all [] (by simp)

/-- A text above another one has the lines of both that are not blank. -/
theorem solidLines_above (upper lower : Text) :
    solidLines (above upper lower) = solidLines upper ++ solidLines lower := by
  rw [above]
  obtain rfl | ⟨front, last, rfl⟩ := List.eq_nil_or_concat upper
  · rfl
  · rw [List.concat_eq_append, List.getLast?_concat, Option.all_some]
    split
    next isBreak =>
      rw [List.append_assoc, List.singleton_append, solidLines_append_cons front lower isBreak,
        solidLines_append_cons front [] isBreak]
      simp [solidLines, lines]
    next => exact solidLines_append_cons _ lower rfl

end Text

theorem map_snd_numberedLines (source : Text) :
    (numberedLines source).map Prod.snd = Text.solidLines source := by
  have all (texts : List Text) (start : Nat) :
      ((texts.zipIdx start).filterMap fun line =>
        if Text.trim line.1 = [] then none else some (line.2, line.1)).map Prod.snd =
      texts.filter fun line => Text.trim line ≠ [] := by
    induction texts generalizing start with
    | nil => rfl
    | cons text rest induction =>
        rw [List.zipIdx_cons, List.filterMap_cons, List.filter_cons, ← induction (start + 1)]
        by_cases blank : Text.trim text = []
        · simp [blank]
        · simp [blank]
  exact all (Text.lines source) 1

namespace Program

open PlacedLine

/-- The lines of a source can be read when each line that is not blank says something, and they say
just that. -/
theorem exists_readLines_iff {file source : Text} {said : List (Option Text × Option Statement)} :
    (∃ lines, readLines file source = .ok lines ∧ lines.map contents = said) ↔
      (Text.solidLines source).mapM SourceLine.contents? = .ok said := by
  have all (numbered : List (Nat × Text)) :
      (∃ lines, List.Forall₂ (fun line placed => PlacedLine.read file line.1 line.2 = .ok placed)
        numbered lines ∧ lines.map contents = said) ↔
      List.Forall₂ (fun line said => SourceLine.contents? line.2 = .ok said) numbered said := by
    induction numbered generalizing said with
    | nil => simp [eq_comm]
    | cons line rest induction =>
        constructor
        · rintro ⟨_, ⟨⟩ | ⟨first, later⟩, rfl⟩
          exact .cons (exists_read_iff.mp ⟨_, first, rfl⟩) (induction.mp ⟨_, later, rfl⟩)
        · rintro (⟨⟩ | ⟨first, later⟩)
          obtain ⟨placed, read, rfl⟩ := exists_read_iff.mpr first
          obtain ⟨lines, reads, rfl⟩ := induction.mpr later
          exact ⟨placed :: lines, .cons read reads, rfl⟩
  simp only [readLines, mapM_eq_ok_iff, ← map_snd_numberedLines, List.forall₂_map_left_iff]
  exact all (numberedLines source)

/-- Whether a source is assembled, and to which words and labels, is told by what its lines say. -/
theorem exists_assemble_iff {file source : Text} {words : List Word} {symbols : SymbolTable} :
    (∃ program, assemble file source = .ok program ∧ program.words = words ∧
        program.layout.symbols = symbols) ↔
      ∃ lines : List PlacedLine,
        (Text.solidLines source).mapM SourceLine.contents? = .ok (lines.map contents) ∧
          (Layout.ofLines lines).symbols = symbols ∧
            (Layout.ofLines lines).image.words symbols = .ok words := by
  constructor
  · rintro ⟨program, assembled, rfl, rfl⟩
    obtain ⟨lines, read, layout, found⟩ := assemble_eq_ok_iff.mp assembled
    rw [layout] at found ⊢
    exact ⟨lines, exists_readLines_iff.mp ⟨lines, read, rfl⟩, rfl, found⟩
  · rintro ⟨lines, said, rfl, found⟩
    obtain ⟨placed, read, same⟩ := exists_readLines_iff.mpr said
    have placedWords := (Layout.words_eq_ok_iff_of_contents same).mpr found
    exact ⟨⟨Layout.ofLines placed, words⟩, assemble_eq_ok_iff.mpr ⟨placed, read, rfl, placedWords⟩,
      rfl, (Layout.ofLines_matches same).symbols⟩

end Program
end ByteMachine
