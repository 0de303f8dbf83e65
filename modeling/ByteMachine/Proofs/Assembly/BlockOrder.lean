import ByteMachine.Proofs.Assembly.LineContents

/-!
# Blocks in either order

When the first line of a block that says anything sets the origin, then what the block fills and
defines does not depend on the address at which it starts.  Two such blocks that define different
labels and fill different cells give the same program in either order, although a reference that is
looked up at once in one order waits for its label in the other.
-/

namespace ByteMachine

/-! ## Blocks with an origin -/

namespace PlacedLine

/-- The first line that says anything sets the origin, and defines no label. -/
def OpensAtOrigin (lines : List PlacedLine) : Prop :=
  ∃ target, (lines.map contents).find? (· ≠ (none, none)) = some (none, some (.origin target))

/-- What does not depend on the address at a line that sets the origin does not depend on it for a
block that opens with such a line. -/
theorem OpensAtOrigin.eq_of_forall {α : Type} {f : Byte → List PlacedLine → α}
    (skip : ∀ address line rest, line.contents = (none, none) →
      f address (line :: rest) = f address rest)
    (start : ∀ address other line rest target, line.contents = (none, some (.origin target)) →
      f address (line :: rest) = f other (line :: rest))
    {lines : List PlacedLine} (opens : OpensAtOrigin lines) (address other : Byte) :
    f address lines = f other lines := by
  induction lines with
  | nil =>
      obtain ⟨target, found⟩ := opens
      cases found
  | cons line rest induction =>
      obtain ⟨target, found⟩ := opens
      rw [List.map_cons, List.find?_cons] at found
      by_cases silent : line.contents = (none, none)
      · rw [skip address line rest silent, skip other line rest silent]
        exact induction ⟨target, by simpa [silent] using found⟩
      · exact start address other line rest target (by simpa [silent] using found)

section Opening

variable {lines : List PlacedLine}

theorem OpensAtOrigin.lastDefinition_eq (opens : OpensAtOrigin lines) (name : Text)
    (address other : Byte) :
    lastDefinition name address lines = lastDefinition name other lines := by
  refine opens.eq_of_forall (f := lastDefinition name) ?_ ?_ address other
  · intro address line rest silent
    obtain ⟨label, statement⟩ := Prod.mk.inj silent
    simp [lastDefinition, next, label, statement]
  · intro address other line rest target isOrigin
    obtain ⟨label, statement⟩ := Prod.mk.inj isOrigin
    simp [lastDefinition, next, Statement.next, label, statement]

theorem OpensAtOrigin.lastFilling_eq (opens : OpensAtOrigin lines) (cell address other : Byte) :
    lastFilling cell address lines = lastFilling cell other lines := by
  refine opens.eq_of_forall (f := lastFilling cell) ?_ ?_ address other
  · intro address line rest silent
    obtain ⟨-, statement⟩ := Prod.mk.inj silent
    simp [lastFilling, next, filling, statement]
  · intro address other line rest target isOrigin
    obtain ⟨-, statement⟩ := Prod.mk.inj isOrigin
    simp [lastFilling, next, filling, Statement.next, Statement.cells, Image.lastPut, statement]

theorem OpensAtOrigin.reachBy_eq (opens : OpensAtOrigin lines) (address other : Byte) :
    reachBy address lines = reachBy other lines := by
  refine opens.eq_of_forall (f := reachBy) ?_ ?_ address other
  · intro address line rest silent
    obtain ⟨-, statement⟩ := Prod.mk.inj silent
    simp [reachBy, next, reach, statement]
  · intro address other line rest target isOrigin
    obtain ⟨-, statement⟩ := Prod.mk.inj isOrigin
    simp [reachBy, next, reach, Statement.next, statement]

end Opening

theorem lastDefinition_eq_none_of_not_mem {name : Text} {address : Byte} {lines : List PlacedLine}
    (absent : name ∉ lines.filterMap (·.label)) : lastDefinition name address lines = none :=
  lastDefinition_eq_none_iff.mpr fun line member isLabel =>
    absent (List.mem_filterMap.mpr ⟨line, member, isLabel⟩)

theorem lastFilling_eq_none_of_not_mem {cell address : Byte} {lines : List PlacedLine}
    (absent : cell ∉ filledBy address lines) : lastFilling cell address lines = none := by
  by_contra present
  obtain ⟨⟨line, target⟩, last⟩ := Option.ne_none_iff_exists'.mp present
  exact absent (mem_filledBy_of_lastFilling last)

/-- Two blocks that do not get in each other's way. -/
structure Separate (upper lower : List PlacedLine) : Prop where
  /-- The first block has an origin of its own. -/
  upperOpens : OpensAtOrigin upper
  /-- The second block has an origin of its own. -/
  lowerOpens : OpensAtOrigin lower
  /-- No label is defined on more than one line. -/
  labels : ((upper ++ lower).filterMap (·.label)).Nodup
  /-- No cell is filled by both blocks. -/
  cells : ∀ cell ∈ filledBy 0 upper, cell ∉ filledBy 0 lower

namespace Separate

variable {upper lower : List PlacedLine}

theorem symm (separate : Separate upper lower) : Separate lower upper where
  upperOpens := separate.lowerOpens
  lowerOpens := separate.upperOpens
  labels := by
    have labels := separate.labels
    rw [List.filterMap_append] at labels ⊢
    exact List.nodup_append_comm.mp labels
  cells cell isLower isUpper := separate.cells cell isUpper isLower

theorem countP_label_le (separate : Separate upper lower) (name : Text) :
    (upper ++ lower).countP (fun line => line.label = some name) ≤ 1 := by
  have once := List.nodup_iff_count_le_one.mp separate.labels name
  rw [List.count, List.countP_filterMap] at once
  refine Nat.le_trans (Nat.le_of_eq (List.countP_congr fun line _ => ?_)) once
  cases line.label <;> simp

theorem lastDefinition_comm (separate : Separate upper lower) (name : Text) :
    lastDefinition name 0 (upper ++ lower) = lastDefinition name 0 (lower ++ upper) := by
  rw [lastDefinition_append, lastDefinition_append, separate.lowerOpens.lastDefinition_eq name _ 0,
    separate.upperOpens.lastDefinition_eq name (cursor 0 lower) 0]
  have labels := separate.labels
  rw [List.filterMap_append, List.nodup_append'] at labels
  by_cases isUpper : name ∈ upper.filterMap (·.label)
  · rw [lastDefinition_eq_none_of_not_mem (labels.2.2 isUpper), Option.none_or, Option.or_none]
  · rw [lastDefinition_eq_none_of_not_mem isUpper, Option.none_or, Option.or_none]

theorem lastFilling_comm (separate : Separate upper lower) (cell : Byte) :
    lastFilling cell 0 (upper ++ lower) = lastFilling cell 0 (lower ++ upper) := by
  rw [lastFilling_append, lastFilling_append, separate.lowerOpens.lastFilling_eq cell _ 0,
    separate.upperOpens.lastFilling_eq cell (cursor 0 lower) 0]
  by_cases isUpper : cell ∈ filledBy 0 upper
  · rw [lastFilling_eq_none_of_not_mem (separate.cells cell isUpper), Option.none_or,
      Option.or_none]
  · rw [lastFilling_eq_none_of_not_mem isUpper, Option.none_or, Option.or_none]

theorem byteOf?_comm (separate : Separate upper lower) (cell : Byte) :
    byteOf? (upper ++ lower) cell = byteOf? (lower ++ upper) cell := by
  rw [byteOf?, byteOf?, separate.lastFilling_comm]
  simp only [separate.lastDefinition_comm]

theorem reachBy_comm (separate : Separate upper lower) :
    reachBy 0 (upper ++ lower) = reachBy 0 (lower ++ upper) := by
  rw [reachBy_append, reachBy_append, separate.lowerOpens.reachBy_eq _ 0,
    separate.upperOpens.reachBy_eq (cursor 0 lower) 0, Nat.max_comm]

end Separate
end PlacedLine

namespace Layout

open PlacedLine

/-- Blocks that do not get in each other's way have the same words in either order. -/
theorem words_eq_ok_iff_of_separate {upper lower : List PlacedLine}
    (separate : Separate upper lower) {words : List Word} :
    (ofLines (upper ++ lower)).image.words (ofLines (upper ++ lower)).symbols = .ok words ↔
      (ofLines (lower ++ upper)).image.words (ofLines (lower ++ upper)).symbols = .ok words := by
  refine Image.words_eq_ok_iff_of_bytes (withinExtent_ofLines _) (withinExtent_ofLines _) ?_ ?_
  · rw [extent_ofLines, extent_ofLines, separate.reachBy_comm]
  · intro cell byte
    rw [cellByte_eq_ok_iff separate.countP_label_le,
      cellByte_eq_ok_iff separate.symm.countP_label_le, separate.byteOf?_comm]

end Layout

namespace Program

open PlacedLine Text

variable {file upper lower : Text}

/-- A source above another one is assembled as the lines of both, one after the other. -/
theorem exists_assemble_above_iff {words : List Word} {symbols : SymbolTable} :
    (∃ program, assemble file (above upper lower) = .ok program ∧ program.words = words ∧
        program.layout.symbols = symbols) ↔
      ∃ first second, readLines file upper = .ok first ∧ readLines file lower = .ok second ∧
        (Layout.ofLines (first ++ second)).symbols = symbols ∧
          (Layout.ofLines (first ++ second)).image.words symbols = .ok words := by
  rw [exists_assemble_iff, solidLines_above]
  simp only [mapM_append_eq_ok_iff]
  constructor
  · rintro ⟨lines, ⟨_, _, saidUpper, saidLower, same⟩, rfl, found⟩
    obtain ⟨first, readUpper, rfl⟩ := exists_readLines_iff.mpr saidUpper
    obtain ⟨second, readLower, rfl⟩ := exists_readLines_iff.mpr saidLower
    rw [← List.map_append] at same
    have symbols := (Layout.ofLines_matches same).symbols
    rw [Layout.words_eq_ok_iff_of_contents same, symbols] at *
    exact ⟨first, second, readUpper, readLower, symbols.symm, symbols ▸ found⟩
  · rintro ⟨first, second, readUpper, readLower, rfl, found⟩
    refine ⟨first ++ second, ⟨_, _, ?_, ?_, List.map_append⟩, rfl, found⟩
    · exact exists_readLines_iff.mp ⟨first, readUpper, rfl⟩
    · exact exists_readLines_iff.mp ⟨second, readLower, rfl⟩

theorem exists_assemble_swap
    (separate : ∀ first second, readLines file upper = .ok first →
      readLines file lower = .ok second → Separate first second)
    {program : Program} (assembled : assemble file (above upper lower) = .ok program) :
    ∃ swapped, assemble file (above lower upper) = .ok swapped ∧ program.words = swapped.words ∧
      ∀ name, program.layout.symbols.find? name = swapped.layout.symbols.find? name := by
  obtain ⟨first, second, readUpper, readLower, symbols, found⟩ :=
    exists_assemble_above_iff.mp ⟨program, assembled, rfl, rfl⟩
  have apart := separate first second readUpper readLower
  rw [← symbols, Layout.words_eq_ok_iff_of_separate apart] at found
  obtain ⟨swapped, other, words, swappedSymbols⟩ :=
    exists_assemble_above_iff.mpr ⟨second, first, readLower, readUpper, rfl, found⟩
  refine ⟨swapped, other, words.symm, fun name => ?_⟩
  rw [← symbols, swappedSymbols, Layout.find?_ofLines, Layout.find?_ofLines,
    apart.lastDefinition_comm]

/-- Two blocks that do not get in each other's way are assembled in one order exactly when they are
in the other, and then to the same words and with the same addresses of the labels. -/
theorem blocks_in_either_order
    (separate : ∀ first second, readLines file upper = .ok first →
      readLines file lower = .ok second → Separate first second) :
    ((∃ program, assemble file (above upper lower) = .ok program) ↔
        ∃ program, assemble file (above lower upper) = .ok program) ∧
      ∀ program swapped, assemble file (above upper lower) = .ok program →
        assemble file (above lower upper) = .ok swapped →
          program.words = swapped.words ∧
            ∀ name, program.layout.symbols.find? name = swapped.layout.symbols.find? name := by
  refine ⟨⟨?_, ?_⟩, fun program swapped assembled other => ?_⟩
  · rintro ⟨program, assembled⟩
    obtain ⟨swapped, other, -⟩ := exists_assemble_swap separate assembled
    exact ⟨swapped, other⟩
  · rintro ⟨program, assembled⟩
    have separateSwapped : ∀ first second, readLines file lower = .ok first →
        readLines file upper = .ok second → Separate first second :=
      fun first second readLower readUpper => (separate second first readUpper readLower).symm
    obtain ⟨swapped, other, -⟩ := exists_assemble_swap separateSwapped assembled
    exact ⟨swapped, other⟩
  · obtain ⟨found, foundOther, same⟩ := exists_assemble_swap separate assembled
    obtain rfl := Except.ok.inj (foundOther.symm.trans other)
    exact same

/-- Two blocks that refer to each other: in one order the first reference waits for its label, in
the other order the second one does. -/
theorem blocks_with_mutual_references :
    let upper := "; code\norg 0x10\nstart: load R1,[table]\njmp start".toList
    let lower := "org 4\ntable: db 1\njmp start\n".toList
    ∃ program swapped, assemble inputName (above upper lower) = .ok program ∧
      assemble inputName (above lower upper) = .ok swapped ∧ program.words = swapped.words ∧
        program.layout.symbols.find? "start".toList = swapped.layout.symbols.find? "start".toList ∧
          swapped.layout.symbols.find? "start".toList = some 0x10 := by
  intro upper lower
  let code : List PlacedLine :=
    [⟨⟨inputName, 1, 1⟩, "; code".toList, none, none⟩,
      ⟨⟨inputName, 2, 1⟩, "org 0x10".toList, none, some (.origin 0x10)⟩,
      ⟨⟨inputName, 3, 1⟩, "start: load R1,[table]".toList, some "start".toList,
        some (.instruction (.loadCell 1 (.label "table".toList)))⟩,
      ⟨⟨inputName, 4, 1⟩, "jmp start".toList, none,
        some (.instruction (.jump (.label "start".toList)))⟩]
  let data : List PlacedLine :=
    [⟨⟨inputName, 1, 1⟩, "org 4".toList, none, some (.origin 4)⟩,
      ⟨⟨inputName, 2, 1⟩, "table: db 1".toList, some "table".toList, some (.data [1])⟩,
      ⟨⟨inputName, 3, 1⟩, "jmp start".toList, none,
        some (.instruction (.jump (.label "start".toList)))⟩]
  have readUpper : readLines inputName upper = .ok code := rfl
  have readLower : readLines inputName lower = .ok data := rfl
  have separate : ∀ first second, readLines inputName upper = .ok first →
      readLines inputName lower = .ok second → Separate first second := by
    intro first second isFirst isSecond
    obtain rfl := Except.ok.inj (readUpper.symm.trans isFirst)
    obtain rfl := Except.ok.inj (readLower.symm.trans isSecond)
    exact ⟨⟨0x10, rfl⟩, ⟨4, rfl⟩, by decide, by decide⟩
  have either := blocks_in_either_order separate
  have succeeds : ∃ program, assemble inputName (above upper lower) = .ok program := ⟨_, rfl⟩
  obtain ⟨program, assembled⟩ := succeeds
  obtain ⟨swapped, other⟩ := either.1.mp ⟨program, assembled⟩
  obtain ⟨words, symbols⟩ := either.2 program swapped assembled other
  refine ⟨program, swapped, assembled, other, words, symbols _, ?_⟩
  rw [← symbols]
  cases assembled
  rfl

end Program
end ByteMachine
