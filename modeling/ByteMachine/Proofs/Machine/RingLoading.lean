import ByteMachine.Proofs.Assembly.Placement
import ByteMachine.Proofs.Machine.NoticeStream
import ByteMachine.Proofs.Machine.Writing

/-!
# Loading around memory

Memory is a ring: what is loaded past its last cell goes on at the first one, and data that is longer
than memory overwrites itself.  So a cell holds the last datum that was loaded into it.  Words are
loaded by a loop of their own, which makes the same writes as loading their bytes.
-/

namespace ByteMachine

namespace Store

variable {width : Nat} {store : Store width}

/-! ## The last write to a cell -/

theorem applyAll_append (store : Store width) (changes more : List (Write width)) :
    store.applyAll (changes ++ more) = (store.applyAll changes).applyAll more :=
  List.foldl_append

/-- Writes to other cells leave a cell as it is. -/
theorem read_applyAll_of_forall_ne {changes : List (Write width)} {cell : BitVec width}
    (elsewhere : ∀ change ∈ changes, change.index ≠ cell) :
    (store.applyAll changes).read cell = store.read cell := by
  induction changes generalizing store with
  | nil => rfl
  | cons change rest induction =>
      rw [List.forall_mem_cons] at elsewhere
      have later : ((store.apply change).applyAll rest).read cell = (store.apply change).read cell :=
        induction elsewhere.2
      exact later.trans (Cells.read_write_of_ne _ _ elsewhere.1.symm)

/-- A cell holds what was written to it last. -/
theorem read_applyAll_of_last {changes : List (Write width)} {place : Nat} {change : Write width}
    (there : changes[place]? = some change)
    (last : ∀ later, place < later → ∀ other, changes[later]? = some other →
      other.index ≠ change.index) :
    (store.applyAll changes).read change.index = change.value := by
  obtain ⟨inside, isChange⟩ := List.getElem?_eq_some_iff.mp there
  have split : changes = changes.take place ++ change :: changes.drop (place + 1) := by
    rw [← isChange, ← List.drop_eq_getElem_cons inside, List.take_append_drop]
  have untouched : ∀ other ∈ changes.drop (place + 1), other.index ≠ change.index := by
    intro other member
    obtain ⟨position, found⟩ := List.mem_iff_getElem?.mp member
    rw [List.getElem?_drop] at found
    exact last _ (by omega) other found
  have written (before : Store width) :
      (applyAll before (change :: changes.drop (place + 1))).read change.index = change.value :=
    (read_applyAll_of_forall_ne untouched).trans (Cells.read_write_self _ _ _)
  rw [split, applyAll_append]
  exact written _

/-! ## The writes of a loading -/

theorem getElem?_loading (start : BitVec width) (bytes : List Byte) (offset : Nat) :
    (loading start bytes)[offset]? =
      bytes[offset]?.map fun byte => ⟨start + BitVec.ofNat width offset, byte⟩ := by
  induction bytes generalizing start offset with
  | nil => rfl
  | cons byte rest induction =>
      cases offset with
      | zero =>
          rw [loading, List.getElem?_cons_zero, List.getElem?_cons_zero, Option.map_some,
            BitVec.add_zero]
      | succ offset =>
          have further : start + 1 + BitVec.ofNat width offset =
              start + BitVec.ofNat width (offset + 1) := by
            rw [BitVec.ofNat_add, BitVec.add_assoc]
            exact congrArg (start + ·) (BitVec.add_comm _ _)
          rw [loading, List.getElem?_cons_succ, List.getElem?_cons_succ, induction, further]

theorem getElem?_loadingNumbers (start : Int) (data : List Int) (offset : Nat) :
    (loadingNumbers start data : List (Write 8))[offset]? =
      data[offset]?.map fun value => .ofNumbers (start + offset) value := by
  have index : BitVec.ofInt 8 start + BitVec.ofNat 8 offset = .ofInt 8 (start + offset) := by
    rw [BitVec.ofInt_add, BitVec.ofInt_natCast]
  rw [loadingNumbers, getElem?_loading, List.getElem?_map, Option.map_map, index]
  rfl

/-- A number is loaded into a cell when the address at which loading starts and the place of the
number in its list add up to the address of the cell, modulo the number of cells. -/
def Lands (start : Int) (offset : Nat) (cell : Byte) : Prop :=
  (start + offset) % 256 = cell.toNat

theorem lands_iff {start : Int} {offset : Nat} {cell : Byte} :
    Lands start offset cell ↔ .ofInt 8 (start + offset) = cell := by
  rw [Lands, ← Byte.toNat_ofInt, Int.ofNat_inj, BitVec.toNat_inj]

/-- A cell holds the last number that was loaded into it. -/
theorem read_loadingNumbers_of_last (memory : Memory) {start : Int} {data : List Int} {cell : Byte}
    {offset : Nat} {value : Int} (there : data[offset]? = some value)
    (lands : Lands start offset cell)
    (last : ∀ later, offset < later → later < data.length → ¬Lands start later cell) :
    (memory.applyAll (loadingNumbers start data)).read cell = .ofInt 8 value := by
  have isWrite : (loadingNumbers start data : List (Write 8))[offset]? =
      some (.ofNumbers (start + offset) value) := by
    rw [getElem?_loadingNumbers, there, Option.map_some]
  rw [← lands_iff.mp lands]
  refine read_applyAll_of_last isWrite fun later isLater other found same => ?_
  rw [getElem?_loadingNumbers] at found
  obtain ⟨datum, present, rfl⟩ := Option.map_eq_some_iff.mp found
  obtain ⟨inside, -⟩ := List.getElem?_eq_some_iff.mp present
  exact last later isLater inside (lands_iff.mpr (same.trans (lands_iff.mp lands)))

/-- A cell into which nothing is loaded is as before. -/
theorem read_loadingNumbers_of_none (memory : Memory) {start : Int} {data : List Int} {cell : Byte}
    (none : ∀ offset < data.length, ¬Lands start offset cell) :
    (memory.applyAll (loadingNumbers start data)).read cell = memory.read cell := by
  apply read_applyAll_of_forall_ne
  intro change member same
  obtain ⟨offset, found⟩ := List.mem_iff_getElem?.mp member
  rw [getElem?_loadingNumbers] at found
  obtain ⟨value, present, rfl⟩ := Option.map_eq_some_iff.mp found
  obtain ⟨inside, -⟩ := List.getElem?_eq_some_iff.mp present
  exact none offset inside (lands_iff.mpr same)

/-- The addresses and the values of the writes, in their order. -/
theorem numbers_loadingNumbers (start : Int) (data : List Int) :
    (loadingNumbers start data).map
        (fun change : Write 8 => ((change.index.toNat : Int), (change.value.toNat : Int))) =
      data.mapIdx fun offset value => ((start + offset) % 256, value % 256) := by
  apply List.ext_getElem?
  intro offset
  rw [List.getElem?_map, getElem?_loadingNumbers, List.getElem?_mapIdx, Option.map_map]
  simp only [Function.comp_def, Write.ofNumbers, Byte.toNat_ofInt]

/-! ## Words -/

theorem getElem?_joinBytes {words : List Word} {place : Nat} {word : Word}
    (there : words[place]? = some word) :
    (Word.joinBytes words)[2 * place]? = some word.first ∧
      (Word.joinBytes words)[2 * place + 1]? = some word.second := by
  induction words generalizing place with
  | nil => cases there
  | cons head rest induction =>
      have bytes : Word.joinBytes (head :: rest) =
          head.first :: head.second :: Word.joinBytes rest := rfl
      rw [bytes]
      cases place with
      | zero =>
          cases there
          exact ⟨rfl, rfl⟩
      | succ place => exact induction there

/-- A word that was loaded is fetched from its address, if memory has room for all the words. -/
theorem wordAt_applyAll_loadingWordsAt (memory : Memory) (start : Int) {words : List Word}
    (fits : words.length ≤ 128) {place : Nat} {word : Word} (there : words[place]? = some word) :
    (memory.applyAll (loadingWordsAt start words)).wordAt (start + 2 * place) = word := by
  obtain ⟨inside, -⟩ := List.getElem?_eq_some_iff.mp there
  have room : (Word.joinBytes words).length ≤ 256 := by
    rw [Word.length_joinBytes]
    omega
  have address : BitVec.ofInt 8 (start + 2 * place) =
      BitVec.ofInt 8 start + BitVec.ofNat 8 (2 * place) := by
    rw [BitVec.ofInt_add, ← BitVec.ofInt_natCast]
    rfl
  have distance : (BitVec.ofInt 8 start + BitVec.ofNat 8 (2 * place) - BitVec.ofInt 8 start).toNat =
      2 * place := by
    bv_omega
  have nextDistance : (BitVec.ofInt 8 start + BitVec.ofNat 8 (2 * place) + 1 -
      BitVec.ofInt 8 start).toNat = 2 * place + 1 := by
    bv_omega
  obtain ⟨first, second⟩ := getElem?_joinBytes there
  rw [wordAt, Store.word, loadingWordsAt, loadingWords_eq, address, read_applyAll_loading _ _ room,
    read_applyAll_loading _ _ room, distance, nextDistance, first, second]
  rfl

/-- Words are loaded as their bytes are. -/
theorem loadingWordsAt_eq (start : Int) (words : List Word) :
    (loadingWordsAt start words : List (Write 8)) =
      loadingNumbers start ((Word.joinBytes words).map fun byte => (byte.toNat : Int)) := by
  rw [loadingWordsAt, loadingWords_eq, loadingNumbers, List.map_map]
  simp only [Function.comp_def, Byte.ofInt_toNat, List.map_id']

end Store

namespace Action

open Store

variable {ε σ : Type}

/-- What hears every notice and changes nothing hears of every write once, in order. -/
theorem writeMemory_of_records {hear : Listener ε σ} {heard : σ → List Notice}
    (records : hear.Records heard) (changes : List (Write 8)) (world : World σ) :
    ∃ others, writeMemory hear changes world =
        .ok () ⟨{ world.machine with memory := world.machine.memory.applyAll changes }, others⟩ ∧
      heard others = heard world.surroundings ++ Machine.writeNotices changes := by
  induction changes generalizing world with
  | nil => exact ⟨world.surroundings, rfl, (List.append_nil _).symm⟩
  | cons change rest induction =>
      let written : World σ := ⟨{ world.machine with
        memory := world.machine.memory.write change.index change.value }, world.surroundings⟩
      obtain ⟨between, announced, putDown⟩ :=
        records (.memoryChanged change.index change.value) written
      obtain ⟨others, done, putDownMore⟩ := induction ⟨written.machine, between⟩
      have sets : setMemory hear change.index change.value world =
          .ok () ⟨written.machine, between⟩ := announced
      refine ⟨others, (bind_of_ok sets).trans done, ?_⟩
      rw [putDownMore, putDown, List.append_assoc]
      rfl

/-- After a list of numbers of any length was loaded at an address of any size, a cell holds the last
number that was loaded into it, modulo 256, and a cell into which none was loaded is as before.  There
is one write for each number, in their order, with the address and the value modulo 256, and it is
announced once.  Loading words makes the same writes as loading their bytes; when they fit into
memory, each is fetched from its address afterwards. -/
theorem last_loaded_wins (memory : Memory) (start : Int) (data : List Int) (words : List Word) :
    (∀ (cell : Byte) (offset : Nat) (value : Int), data[offset]? = some value → Lands start offset cell →
      (∀ later, offset < later → later < data.length → ¬Lands start later cell) →
        ((memory.applyAll (loadingNumbers start data)).read cell).toNat = value % 256) ∧
    (∀ cell, (∀ offset < data.length, ¬Lands start offset cell) →
      (memory.applyAll (loadingNumbers start data)).read cell = memory.read cell) ∧
    (loadingNumbers start data).map
        (fun change : Write 8 => ((change.index.toNat : Int), (change.value.toNat : Int))) =
      data.mapIdx (fun offset value => ((start + offset) % 256, value % 256)) ∧
    (∀ {ε σ : Type} (hear : Listener ε σ) (heard : σ → List Notice), hear.Records heard →
      ∀ world : World σ, world.machine.memory = memory →
        ∃ others, loadBytes hear start data world =
            .ok () ⟨{ world.machine with memory := memory.applyAll (loadingNumbers start data) },
              others⟩ ∧
          heard others = heard world.surroundings ++
            (loadingNumbers start data).map fun change =>
              .memoryChanged change.index change.value) ∧
    (loadingWordsAt start words : List (Write 8)) =
      loadingNumbers start ((Word.joinBytes words).map fun byte => (byte.toNat : Int)) ∧
    (words.length ≤ 128 → ∀ (place : Nat) word, words[place]? = some word →
      (memory.applyAll (loadingWordsAt start words)).wordAt (start + 2 * place) = word) := by
  refine ⟨?_, ?_, numbers_loadingNumbers start data, ?_, loadingWordsAt_eq start words, ?_⟩
  · intro cell offset value there lands last
    rw [read_loadingNumbers_of_last memory there lands last, Byte.toNat_ofInt]
  · exact fun cell => read_loadingNumbers_of_none memory
  · rintro ε σ hear heard records world rfl
    exact writeMemory_of_records records _ world
  · exact fun fits place word => wordAt_applyAll_loadingWordsAt memory start fits

/-- One number more than there are cells is loaded from the last cell on, which is so written twice, and
a word is split between the last cell and the first. -/
theorem last_loaded_wins_in_last_cell :
    let memory := Store.zero 8
    let data : List Int := List.replicate 256 5 ++ [-249]
    let words : List Word := [⟨0x21, 0x41⟩, ⟨0xC0, 0x00⟩]
    let hear : Listener Empty (List Notice) := fun notice world =>
      .ok () ⟨world.machine, world.surroundings ++ [notice]⟩
    data[256]? = some (-249) ∧ Lands (-1) 256 0xFF ∧ words.length ≤ 128 ∧ hear.Records id ∧
      ((memory.applyAll (loadingNumbers (-1) data)).read 0xFF).toNat = 7 ∧
      (memory.applyAll (loadingWordsAt (-1) words)).wordAt (-1) = ⟨0x21, 0x41⟩ ∧
      ∃ world, loadBytes hear (-1) [300, 44] ⟨Machine.fresh 0, []⟩ = .ok () world ∧
        world.surroundings = [.memoryChanged 0xFF 44, .memoryChanged 0 44] := by
  intro memory data words hear
  have there : data[256]? = some (-249) := by
    rw [List.getElem?_append_right (Nat.le_of_eq List.length_replicate), List.length_replicate]
    rfl
  have length : data.length = 257 := by
    rw [List.length_append, List.length_replicate]
    rfl
  have lands : Lands (-1) 256 0xFF := rfl
  have records : hear.Records id := fun _ _ => ⟨_, rfl, rfl⟩
  have last : ∀ later, 256 < later → later < data.length → ¬Lands (-1) later 0xFF := by
    intro later above below
    omega
  obtain ⟨holds, -, -, -, -, fetches⟩ := last_loaded_wins memory (-1) data words
  obtain ⟨-, -, -, announces, -, -⟩ := last_loaded_wins memory (-1) [300, 44] []
  obtain ⟨others, loaded, heard⟩ := announces hear id records ⟨Machine.fresh 0, []⟩ rfl
  have seven : (((memory.applyAll (loadingNumbers (-1) data)).read 0xFF).toNat : Int) = (7 : Nat) :=
    holds 0xFF 256 _ there lands last
  exact ⟨there, lands, by decide, records, Int.ofNat_inj.mp seven, fetches (by decide) 0 _ rfl, _,
    loaded, heard⟩

end Action
end ByteMachine
