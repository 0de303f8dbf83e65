import ByteMachine.Proofs.Machine.Step
import Mathlib.Algebra.Group.Nat.Defs
import Mathlib.Logic.Function.Basic

/-!
# The instruction table

The table of instructions is about numbers: registers and cells hold numbers below 256, sums are taken
modulo 256, a rotation moves a remainder in front of a quotient, and a number from 128 on is a negative
one where the sign counts.  A step of the machine does to the numbers what the table says for the first
half of the first byte fetched, and changes one register or one cell at most.
-/

namespace ByteMachine

/-! ## The table -/

/-- A machine in numbers.  Registers are numbered modulo 16, and cells modulo 256. -/
structure Numbers where
  /-- What the registers hold. -/
  register : Nat → Nat
  /-- What the memory cells hold. -/
  cell : Nat → Nat
  /-- Address of the next instruction. -/
  counter : Nat
  /-- The two bytes of the instruction that was fetched last. -/
  instruction : Nat × Nat
  /-- Whether a program is running. -/
  running : Bool

namespace Numbers

/-- One register gets a number. -/
def setRegister (numbers : Numbers) (register value : Nat) : Numbers :=
  { numbers with
    register := fun other => if other % 16 = register then value else numbers.register other }

/-- One cell gets a number. -/
def setCell (numbers : Numbers) (address value : Nat) : Numbers :=
  { numbers with
    cell := fun other => if other % 256 = address then value else numbers.cell other }

/-- Eight bits rotated to the right: those that drop out at the end stand in front of the others. -/
def rotated (count value : Nat) : Nat :=
  value % 2 ^ (count % 8) * 2 ^ (8 - count % 8) + value / 2 ^ (count % 8)

/-- The number for which eight bits stand in two's complement. -/
def signed (value : Nat) : Int :=
  if value < 128 then value else value - 256

/-- The exact sum of two floating-point numbers, coded. -/
def floatSum (left right : Nat) : Nat :=
  let sum := Minifloat.value (BitVec.ofNat 8 left) + Minifloat.value (BitVec.ofNat 8 right)
  (Minifloat.encode (.dyadic sum (-8))).toNat

/-- What an instruction does, by the half byte that selects its operation. -/
def perform (numbers : Numbers) (code r x y address : Nat) : Numbers :=
  match code with
  | 0x1 => numbers.setRegister r (numbers.cell address)
  | 0x2 => numbers.setRegister r address
  | 0x3 => numbers.setCell address (numbers.register r)
  | 0x4 => numbers.setRegister x (numbers.register y)
  | 0x5 => numbers.setRegister r ((numbers.register x + numbers.register y) % 256)
  | 0x6 => numbers.setRegister r (floatSum (numbers.register x) (numbers.register y))
  | 0x7 => numbers.setRegister r (numbers.register x ||| numbers.register y)
  | 0x8 => numbers.setRegister r (numbers.register x &&& numbers.register y)
  | 0x9 => numbers.setRegister r (numbers.register x ^^^ numbers.register y)
  | 0xA => numbers.setRegister r (rotated y (numbers.register r))
  | 0xB =>
      if numbers.register r = numbers.register 0 then { numbers with counter := address }
      else numbers
  | 0xC => { numbers with running := false }
  | 0xD => numbers.setRegister x (numbers.cell (numbers.register y))
  | 0xE => numbers.setCell (numbers.register y) (numbers.register x)
  | 0xF =>
      if signed (numbers.register r) ≤ signed (numbers.register 0) then
        { numbers with counter := address }
      else numbers
  | _ => numbers

/-- One step: the two bytes at the counter are fetched, the counter goes on to the next two, and the
instruction is performed. -/
def next (numbers : Numbers) : Numbers :=
  let first := numbers.cell numbers.counter
  let second := numbers.cell (numbers.counter + 1)
  { numbers with
    instruction := (first, second)
    counter := (numbers.counter + 2) % 256 }.perform
      (first / 16) (first % 16) (second / 16) (second % 16) second

end Numbers

/-! ## Bytes as numbers -/

theorem Byte.toNat_high (byte : Byte) : byte.high.toNat = byte.toNat / 16 := by
  have bound := byte.isLt
  rw [high, BitVec.extractLsb'_toNat, Nat.shiftRight_eq_div_pow]
  omega

theorem Byte.toNat_low (byte : Byte) : byte.low.toNat = byte.toNat % 16 := by
  rw [low, BitVec.extractLsb'_toNat, Nat.shiftRight_zero]

theorem Operation.toNat_code (word : Word) :
    word.operation.code.toNat = word.first.toNat / 16 := by
  rw [Word.operation, code_ofCode, Byte.toNat_high]

theorem toNat_rotateRight (byte : Byte) (count : Nat) :
    (byte.rotateRight count).toNat = Numbers.rotated count byte.toNat := by
  obtain ⟨shift, isShift⟩ : ∃ shift, shift = count % 8 := ⟨_, rfl⟩
  have few : shift < 8 := by omega
  have size : 2 ^ 8 = 2 ^ shift * 2 ^ (8 - shift) := by
    rw [← Nat.pow_add]
    congr 1
    omega
  have quotient : byte.toNat / 2 ^ shift < 2 ^ (8 - shift) := by
    rw [Nat.div_lt_iff_lt_mul (Nat.two_pow_pos _), Nat.mul_comm, ← size]
    exact byte.isLt
  rw [BitVec.toNat_rotateRight, ← isShift, Nat.shiftRight_eq_div_pow, Nat.shiftLeft_eq, size,
    Nat.mul_mod_mul_right, Numbers.rotated, ← isShift, Nat.or_comm, Nat.mul_comm (_ % _)]
  exact (Nat.two_pow_add_eq_or_of_lt quotient _).symm

theorem toInt_eq_signed (byte : Byte) : byte.toInt = Numbers.signed byte.toNat := by
  rw [BitVec.toInt_eq_toNat_cond, Numbers.signed]
  split <;> split <;> omega

theorem toNat_floatAdd (left right : Byte) :
    (Minifloat.add left right).toNat = Numbers.floatSum left.toNat right.toNat := by
  rw [Numbers.floatSum, BitVec.ofNat_toNat, BitVec.ofNat_toNat, BitVec.setWidth_eq,
    BitVec.setWidth_eq, Minifloat.encode, Minifloat.unitsOf, if_pos (by omega)]
  exact congrArg (fun units => (Minifloat.ofMagnitude _ units).toNat) (Nat.mul_one _).symm

namespace Machine

/-- The numbers in a machine. -/
def numbers (machine : Machine) : Numbers where
  register index := (machine.registers.read (BitVec.ofNat 4 index)).toNat
  cell address := (machine.memory.read (BitVec.ofNat 8 address)).toNat
  counter := machine.counter.toNat
  instruction := (machine.instruction.first.toNat, machine.instruction.second.toNat)
  running := machine.mode = .running

theorem register_numbers (machine : Machine) (index : Nibble) :
    machine.numbers.register index.toNat = (machine.register index).toNat := by
  simp only [numbers, register, BitVec.ofNat_toNat, BitVec.setWidth_eq]

theorem cell_numbers (machine : Machine) (address : Byte) :
    machine.numbers.cell address.toNat = (machine.memory.read address).toNat := by
  simp only [numbers, BitVec.ofNat_toNat, BitVec.setWidth_eq]

theorem ofNat_eq_iff {width : Nat} (index : Nat) (other : BitVec width) :
    BitVec.ofNat width index = other ↔ index % 2 ^ width = other.toNat := by
  rw [← BitVec.toNat_inj, BitVec.toNat_ofNat]

theorem toNat_read_write {width : Nat} (store : Store width) (address : BitVec width) (value : Byte)
    (index : Nat) :
    ((store.write address value).read (BitVec.ofNat width index)).toNat =
      if index % 2 ^ width = address.toNat then value.toNat
      else (store.read (BitVec.ofNat width index)).toNat := by
  rw [Cells.read_write, apply_ite BitVec.toNat]
  exact if_congr (ofNat_eq_iff index address) rfl rfl

theorem numbers_setRegister (machine : Machine) (register : Nibble) (value : Byte) :
    (machine.apply (.setRegister register value)).numbers =
      machine.numbers.setRegister register.toNat value.toNat :=
  congrArg (fun register => { machine.numbers with register })
    (funext (toNat_read_write machine.registers register value))

theorem numbers_store (machine : Machine) (address value : Byte) :
    (machine.apply (.store address value)).numbers =
      machine.numbers.setCell address.toNat value.toNat :=
  congrArg (fun cell => { machine.numbers with cell })
    (funext (toNat_read_write machine.memory address value))

theorem numbers_fetch (machine : Machine) :
    machine.fetch.numbers =
      { machine.numbers with
        instruction := (machine.fetched.first.toNat, machine.fetched.second.toNat)
        counter := (machine.counter.toNat + 2) % 256 } := by
  rw [numbers, fetch]
  simp only [BitVec.toNat_add]
  rfl

/-- What the table says of a word is the effect of the word. -/
theorem numbers_apply_effect (machine : Machine) (word : Word) :
    (machine.apply (machine.effect word)).numbers =
      machine.numbers.perform word.operation.code.toNat word.r.toNat word.x.toNat word.y.toNat
        word.address.toNat := by
  have zero : machine.numbers.register 0 = (machine.register 0).toNat := machine.register_numbers 0
  rw [effect]
  cases word.operation with
  | noOperation => rfl
  | directLoad =>
      rw [numbers_setRegister, ← cell_numbers]
      rfl
  | immediateLoad =>
      rw [numbers_setRegister]
      rfl
  | directStore =>
      rw [numbers_store, ← register_numbers]
      rfl
  | move =>
      rw [numbers_setRegister, ← register_numbers]
      rfl
  | integerAdd =>
      rw [numbers_setRegister, BitVec.toNat_add, ← register_numbers, ← register_numbers]
      rfl
  | floatAdd =>
      rw [numbers_setRegister, toNat_floatAdd, ← register_numbers, ← register_numbers]
      rfl
  | or =>
      rw [numbers_setRegister, BitVec.toNat_or, ← register_numbers, ← register_numbers]
      rfl
  | and =>
      rw [numbers_setRegister, BitVec.toNat_and, ← register_numbers, ← register_numbers]
      rfl
  | xor =>
      rw [numbers_setRegister, BitVec.toNat_xor, ← register_numbers, ← register_numbers]
      rfl
  | rotate =>
      rw [numbers_setRegister, toNat_rotateRight, ← register_numbers]
      rfl
  | jumpEqual =>
      have equal : machine.register word.r = machine.register 0 ↔
          machine.numbers.register word.r.toNat = machine.numbers.register 0 := by
        rw [zero, register_numbers, BitVec.toNat_inj]
      simp only [equal]
      exact apply_ite (fun effect => (machine.apply effect).numbers) _ _ _
  | halt => rfl
  | indirectLoad =>
      rw [numbers_setRegister, ← cell_numbers, ← register_numbers]
      rfl
  | indirectStore =>
      rw [numbers_store, ← register_numbers, ← register_numbers]
      rfl
  | jumpLessEqual =>
      have atMost : (machine.register word.r).sle (machine.register 0) = true ↔
          Numbers.signed (machine.numbers.register word.r.toNat) ≤
            Numbers.signed (machine.numbers.register 0) := by
        rw [zero, register_numbers, BitVec.sle_iff_toInt_le, toInt_eq_signed, toInt_eq_signed]
      simp only [atMost]
      exact apply_ite (fun effect => (machine.apply effect).numbers) _ _ _

/-- A step is the step of the table. -/
theorem numbers_next (machine : Machine) : machine.next.numbers = machine.numbers.next := by
  have first : machine.numbers.cell machine.numbers.counter = machine.fetched.first.toNat :=
    machine.cell_numbers machine.counter
  have second : machine.numbers.cell (machine.numbers.counter + 1) =
      machine.fetched.second.toNat := by
    have address : BitVec.ofNat 8 (machine.counter.toNat + 1) = machine.counter + 1 := by
      rw [BitVec.ofNat_add, BitVec.ofNat_toNat, BitVec.setWidth_eq]
      rfl
    simp only [numbers, address]
    rfl
  have performed := machine.fetch.numbers_apply_effect machine.fetched
  rw [Operation.toNat_code, Word.r, Word.x, Word.y, Byte.toNat_low, Byte.toNat_high,
    Byte.toNat_low, numbers_fetch] at performed
  rw [Numbers.next, first, second]
  exact performed

/-! ## What a step leaves alone -/

/-- Of the registers and cells of two machines one differs at most. -/
def DiffersInOne (left right : Machine) : Prop :=
  (left.memory = right.memory ∧
      ∃ register, ∀ other ≠ register, left.registers.read other = right.registers.read other) ∨
    left.registers = right.registers ∧
      ∃ address, ∀ other ≠ address, left.memory.read other = right.memory.read other

theorem differsInOne_apply (machine : Machine) (effect : Effect) :
    (machine.apply effect).DiffersInOne machine := by
  cases effect with
  | nothing | jump | halt => exact .inl ⟨rfl, 0, fun _ _ => rfl⟩
  | setRegister register value =>
      exact .inl ⟨rfl, register, fun other distinct =>
        machine.registers.read_write_of_ne value distinct⟩
  | store address value =>
      exact .inr ⟨rfl, address, fun other distinct =>
        machine.memory.read_write_of_ne value distinct⟩

theorem sets_noteWrite (control : StopControl) (address value : Int) :
    (control.noteWrite address value).breakpoints = control.breakpoints ∧
      (control.noteWrite address value).watchpoints = control.watchpoints := by
  rw [StopControl.noteWrite]
  split <;> exact ⟨rfl, rfl⟩

theorem sets_apply (machine : Machine) (effect : Effect) :
    (machine.apply effect).control.breakpoints = machine.control.breakpoints ∧
      (machine.apply effect).control.watchpoints = machine.control.watchpoints := by
  cases effect with
  | store address value =>
      simp only [apply]
      split
      next => exact sets_noteWrite machine.control address.toNat value.toNat
      next => exact ⟨rfl, rfl⟩
  | nothing | setRegister | jump | halt => exact ⟨rfl, rfl⟩

end Machine

namespace Action

variable {ε σ : Type} {hear : Listener ε σ}

/-- One step does what the table says.  In passive surroundings it ends on every machine, with the
instruction fetched; the numbers in the machine are then those that the table gives, and they differ
from those before in one register or one cell at most, while the addresses at which a run stops and the
address at which characters are printed stay the same. -/
theorem step_follows_table (passive : hear.Passive) (world : World σ) :
    ∃ final, Returns (step hear) world final.instruction final ∧
      final.numbers = world.machine.numbers.next ∧
      final.DiffersInOne world.machine ∧
      final.control.breakpoints = world.machine.control.breakpoints ∧
      final.control.watchpoints = world.machine.control.watchpoints ∧
      final.outputAddress = world.machine.outputAddress := by
  have returns := returns_step passive world
  rw [← world.machine.instruction_next] at returns
  refine ⟨world.machine.next, returns, world.machine.numbers_next, ?_⟩
  have one := world.machine.fetch.differsInOne_apply (world.machine.effect world.machine.fetched)
  have sets := world.machine.fetch.sets_apply (world.machine.effect world.machine.fetched)
  refine ⟨one, sets.1, sets.2, ?_⟩
  rw [Machine.next]
  cases world.machine.effect world.machine.fetched <;> rfl

/-- An instruction in the last cell and the first one stores a register over its own first byte. -/
theorem step_follows_table_over_itself :
    let machine : Machine :=
      { Machine.fresh Machine.defaultOutput with
        registers := (Store.zero 4).write 5 0x7B
        memory := (Store.zero 8).applyAll (Store.loading 0xFF [0x35, 0xFF])
        counter := 0xFF }
    let hear : Listener Empty Unit := fun _ => pure ()
    hear.Passive ∧ ∃ final, Returns (step hear) ⟨machine, ()⟩ ⟨0x35, 0xFF⟩ final ∧
      final.counter = 1 ∧ final.memory.read 0xFF = 0x7B ∧ final.memory.read 0 = 0xFF ∧
        final.registers = machine.registers := by
  intro machine hear
  have passive : hear.Passive := fun _ world => ⟨world.surroundings, rfl⟩
  obtain ⟨final, returns, table, one, -⟩ := step_follows_table passive ⟨machine, ()⟩
  have cell (address : Byte) :
      (final.memory.read address).toNat = machine.numbers.next.cell address.toNat := by
    rw [← final.cell_numbers, table]
  have counter : final.counter = 1 := by
    refine BitVec.eq_of_toNat_eq ((congrArg Numbers.counter table).trans ?_)
    decide +kernel
  have overwritten : final.memory.read 0xFF = 0x7B := by
    refine BitVec.eq_of_toNat_eq ((cell 0xFF).trans ?_)
    decide +kernel
  have kept : final.memory.read 0 = 0xFF := by
    refine BitVec.eq_of_toNat_eq ((cell 0).trans ?_)
    decide +kernel
  have fetched : final.instruction = ⟨0x35, 0xFF⟩ := by
    have bytes := congrArg Numbers.instruction table
    have fetchedBytes : machine.numbers.next.instruction = (0x35, 0xFF) := by decide +kernel
    obtain ⟨first, second⟩ := Prod.mk.inj (bytes.trans fetchedBytes)
    exact congrArg₂ Word.mk (BitVec.eq_of_toNat_eq first) (BitVec.eq_of_toNat_eq second)
  have registers : final.registers = machine.registers := by
    rcases one with ⟨sameMemory, -⟩ | ⟨sameRegisters, -⟩
    · have before : machine.memory.read 0xFF = 0x35 := by decide +kernel
      rw [sameMemory, before] at overwritten
      contradiction
    · exact sameRegisters
  exact ⟨passive, final, fetched ▸ returns, counter, overwritten, kept, registers⟩

end Action
end ByteMachine
