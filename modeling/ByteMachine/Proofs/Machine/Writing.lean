import ByteMachine.Proofs.Machine.Step

/-!
# Writes from outside

Cells are cleared and loaded by single writes, each of which is announced.  Bytes that are loaded do
not overwrite one another as long as there are no more of them than cells.
-/

namespace ByteMachine

namespace Store

theorem read_applyAll_zeros {width : Nat} (store : Store width) (indices : List (BitVec width))
    (cell : BitVec width) :
    (store.applyAll (indices.map fun index => ⟨index, 0⟩)).read cell =
      if cell ∈ indices then 0 else store.read cell := by
  induction indices generalizing store with
  | nil => simp [applyAll]
  | cons index rest induction =>
      have first : (store.applyAll ((index :: rest).map fun index => ⟨index, 0⟩)) =
          applyAll (store.write index 0) (rest.map fun index => ⟨index, 0⟩) := rfl
      rw [first, induction, Cells.read_write]
      by_cases later : cell ∈ rest <;> by_cases here : cell = index <;> simp [later, here]

/-- When every cell is set to zero, each of them is. -/
theorem read_applyAll_clearing {width : Nat} (store : Store width) (cell : BitVec width) :
    (store.applyAll (clearing width)).read cell = 0 := by
  have everywhere : cell ∈ Cells.indices width :=
    List.mem_map.mpr ⟨cell.toNat, List.mem_range.mpr cell.isLt, by simp⟩
  rw [clearing, read_applyAll_zeros, if_pos everywhere]

theorem applyAll_clearing {width : Nat} (store : Store width) :
    store.applyAll (clearing width) = zero width := by
  apply Cells.ext_read
  intro cell
  rw [read_applyAll_clearing, zero, Cells.read_fill]

/-- A byte that is loaded is in its cell, and other cells are as before. -/
theorem read_applyAll_loading (memory : Memory) (start : Byte) {bytes : List Byte}
    (fits : bytes.length ≤ 256) (cell : Byte) :
    (memory.applyAll (loading start bytes)).read cell =
      bytes[(cell - start).toNat]?.getD (memory.read cell) := by
  induction bytes generalizing memory start with
  | nil => rfl
  | cons byte rest induction =>
      have first : memory.applyAll (loading start (byte :: rest)) =
          applyAll (memory.write start byte) (loading (start + 1) rest) := rfl
      rw [List.length_cons] at fits
      rw [first, induction _ _ (by omega)]
      by_cases here : cell = start
      · -- the bytes that follow would have to go all around to come back here
        have past : rest.length ≤ (cell - (start + 1)).toNat := by
          subst here
          bv_omega
        have zero : (cell - start).toNat = 0 := by
          subst here
          bv_omega
        rw [List.getElem?_eq_none past, zero, here, Cells.read_write_self]
        rfl
      · have next : (cell - start).toNat = (cell - (start + 1)).toNat + 1 := by
          bv_omega
        rw [next, List.getElem?_cons_succ, Cells.read_write_of_ne _ _ here]

theorem loadingWords_eq (start : Byte) (words : List Word) :
    loadingWords start words = loading start (Word.joinBytes words) := by
  induction words generalizing start with
  | nil => rfl
  | cons word rest induction =>
      have two : start + 1 + 1 = start + 2 := by bv_omega
      rw [loadingWords, induction, ← two]
      rfl

end Store

/-- The notices of writes to memory. -/
def Machine.writeNotices (changes : List (Store.Write 8)) : List Notice :=
  changes.map fun change => .memoryChanged change.index change.value

namespace Action

open Machine

variable {ε σ : Type} {kept : List Notice → Mode → Bool → σ → Prop} {hear : Listener ε σ}
  (tracks : hear.Tracks kept)
include tracks

theorem announces_writeMemory (changes : List (Store.Write 8)) (machine : Machine) :
    Announces kept (writeMemory hear changes) machine ()
      { machine with memory := machine.memory.applyAll changes } (writeNotices changes) := by
  induction changes generalizing machine with
  | nil => exact announces_pure () machine
  | cons change rest induction =>
      exact (announces_change tracks _ (fun _ => rfl) rfl).bind_of_one (induction _)

theorem announces_writeRegisters (changes : List (Store.Write 4)) (machine : Machine) :
    Announces kept (writeRegisters hear changes) machine ()
      { machine with registers := machine.registers.applyAll changes }
      (changes.map fun change => .registerChanged change.index change.value) := by
  induction changes generalizing machine with
  | nil => exact announces_pure () machine
  | cons change rest induction =>
      exact (announces_change tracks _ (fun _ => rfl) rfl).bind_of_one (induction _)

theorem announces_setCounter (counter : Byte) (machine : Machine) :
    Announces kept (setCounter hear counter) machine () { machine with counter }
      [.counterChanged counter] :=
  announces_change tracks _ (fun _ => rfl) rfl

end Action
end ByteMachine
