import ByteMachine.Proofs.Assembly.AssemblerRuns
import ByteMachine.Proofs.Assembly.Placement
import ByteMachine.Proofs.Machine.Writing
import ByteMachine.Proofs.Simulator.Spectators

/-!
# Loading a source

A source is assembled before anything is written, so that one that is refused leaves the simulator as
it is, but for the assembler, and no listener hears of it.  A program that was assembled is not longer
than memory, so that when it is loaded every byte gets a cell of its own.
-/

namespace ByteMachine

/-- A program fits into memory. -/
theorem Program.length_code_le {file source : Text} {program : Program}
    (assembled : Program.assemble file source = .ok program) : program.code.length ≤ 256 := by
  obtain ⟨lines, -, layout, -⟩ := assemble_eq_ok_iff.mp assembled
  have within : program.layout.image.WithinExtent :=
    layout ▸ Layout.withinExtent_ofLines lines
  rw [((Image.bytes_eq_ok_iff within).mp (bytes_of_assemble assembled)).1]
  exact Image.size_le within

/-- Memory after a program was loaded, which may be cleared first. -/
def Store.loaded (memory : Memory) (clears : Bool) (words : List Word) : Memory :=
  let cleared := if clears then memory.applyAll (clearing 8) else memory
  cleared.applyAll (loadingWords 0 words)

/-- After loading, memory has the bytes of the program from address zero on, and what lies behind is
zero or as before. -/
theorem Store.read_loaded (memory : Memory) (clears : Bool) {words : List Word}
    (fits : (Word.joinBytes words).length ≤ 256) (cell : Byte) :
    (loaded memory clears words).read cell =
      (Word.joinBytes words)[cell.toNat]?.getD (if clears then 0 else memory.read cell) := by
  have first : cell - 0 = cell := BitVec.sub_zero cell
  rw [loaded, loadingWords_eq, read_applyAll_loading _ _ fits, first]
  cases clears with
  | true => exact congrArg _ (read_applyAll_clearing memory cell)
  | false => rfl

namespace Simulator

open ByteMachine.Action

variable {σ : Type} {hear : Hearer σ}

/-! ## Assembling -/

theorem assemble_of_error {file source : Text} {fault : Fault Diagnostic}
    (refused : Program.assemble file source = .error fault) (world : World (Simulator σ)) :
    assemble file source world =
      .error (.failed (.refused fault))
        ⟨world.machine, { world.surroundings with assembler := ⟨none⟩ }⟩ := by
  have outcome : world.surroundings.assembler.assemble file source = (.error fault, ⟨none⟩) := by
    rw [Assembler.assemble_eq, refused]
    rfl
  have read : (surroundings : Activity σ (Simulator σ)) world = .ok world.surroundings world := rfl
  rw [assemble, bind_of_ok read, outcome]
  rfl

theorem assemble_of_ok {file source : Text} {program : Program}
    (assembled : Program.assemble file source = .ok program) (world : World (Simulator σ)) :
    assemble file source world =
      .ok program.words
        ⟨world.machine, { world.surroundings with assembler := ⟨some program⟩ }⟩ := by
  have outcome : world.surroundings.assembler.assemble file source =
      (.ok program.words, ⟨some program⟩) := by
    rw [Assembler.assemble_eq, assembled]
  have read : (surroundings : Activity σ (Simulator σ)) world = .ok world.surroundings world := rfl
  rw [assemble, bind_of_ok read, outcome]
  rfl

/-! ## Loading -/

/-- The notices of loading a program. -/
def loadNotices (clears : Bool) (words : List Word) : List Notice :=
  (if clears then Machine.writeNotices (Store.clearing 8) else []) ++
    (Machine.writeNotices (Store.loadingWords 0 words) ++ [.counterChanged 0])

theorem load_of_tracks {kept : List Notice → Mode → Bool → Simulator σ → Prop}
    (tracks : hear.Tracks kept) (words : List Word) {world : World (Simulator σ)}
    {heard : List Notice} (keeps : kept heard world.machine.mode false world.surroundings) :
    let clears := world.surroundings.settings.clearsMemory
    ∃ asked simulator,
      load hear words world =
        .ok () ⟨({ world.machine with
          memory := Store.loaded world.machine.memory clears words
          counter := 0 } : Machine).withRequest asked, simulator⟩ ∧
      kept (heard ++ loadNotices clears words) world.machine.mode asked simulator := by
  intro clears
  have loads (machine : Machine) : Announces kept (do loadWords hear words; resetCounter hear) machine
      () { machine with memory := machine.memory.applyAll (Store.loadingWords 0 words), counter := 0 }
      (Machine.writeNotices (Store.loadingWords 0 words) ++ [.counterChanged 0]) :=
    (announces_writeMemory tracks _ machine).bind (announces_setCounter tracks 0 _)
  have loadsAfter (changes : List (Store.Write 8)) (machine : Machine) : Announces kept (do
        writeMemory hear changes
        loadWords hear words
        resetCounter hear) machine ()
      { machine with
        memory := (machine.memory.applyAll changes).applyAll (Store.loadingWords 0 words)
        counter := 0 }
      (Machine.writeNotices changes ++
        (Machine.writeNotices (Store.loadingWords 0 words) ++ [.counterChanged 0])) :=
    (announces_writeMemory tracks changes machine).bind (loads _)
  have read : (surroundings : Activity σ (Simulator σ)) world = .ok world.surroundings world := rfl
  rw [load, bind_of_ok read, Store.loaded, loadNotices]
  by_cases clearing : world.surroundings.settings.clearsMemory = true
  · simp only [clears, if_pos clearing]
    exact (loadsAfter (Store.clearing 8) world.machine).from_world heard keeps
  · simp only [clears, if_neg clearing, List.nil_append]
    exact (loads world.machine).from_world heard keeps

/-! ## Refusals -/

section NeverRefuses

variable {α β : Type}

/-- Whatever the activity may fail for, it is not a source that cannot be assembled. -/
def NeverRefuses (activity : Activity σ α) : Prop :=
  ∀ world fault final, activity world ≠ .error (.failed (.refused fault)) final

theorem neverRefuses_pure (value : α) : NeverRefuses (pure value : Activity σ α) :=
  fun _ _ _ => nofun

theorem neverRefuses_changeMachine (change : Machine → Machine) :
    NeverRefuses (changeMachine change : Activity σ Unit) :=
  fun _ _ _ => nofun

theorem NeverRefuses.bind {activity : Activity σ α} {rest : α → Activity σ β}
    (first : NeverRefuses activity) (second : ∀ value, NeverRefuses (rest value)) :
    NeverRefuses (activity >>= rest) := by
  intro world fault final failed
  cases result : activity world with
  | ok value between =>
      rw [bind_of_ok result] at failed
      exact second value between fault final failed
  | error failure between =>
      rw [bind_of_error rest result] at failed
      cases failed
      exact first world fault final result

theorem NeverRefuses.forM {items : List α} {act : α → Activity σ PUnit}
    (each : ∀ item, NeverRefuses (act item)) : NeverRefuses (items.forM act) := by
  induction items with
  | nil => exact neverRefuses_pure _
  | cons item rest induction => exact (each item).bind fun _ => induction

theorem neverRefuses_load (hears : ∀ notice, NeverRefuses (hear notice)) (words : List Word) :
    NeverRefuses (load hear words) := by
  have announced (change : Machine → Machine) (notice : Notice) :
      NeverRefuses (do changeMachine change; hear notice) :=
    (neverRefuses_changeMachine change).bind fun _ => hears notice
  have writes (changes : List (Store.Write 8)) : NeverRefuses (writeMemory hear changes) :=
    NeverRefuses.forM fun _ => announced _ _
  have loads : NeverRefuses (do loadWords hear words; resetCounter hear) :=
    (writes _).bind fun _ => announced _ _
  refine NeverRefuses.bind (fun _ _ _ => nofun) fun simulator => ?_
  split
  next => exact (writes _).bind fun _ => loads
  next => exact loads

theorem neverRefuses_collecting (hears : ∀ notice, NeverRefuses (hear notice)) (notice : Notice) :
    NeverRefuses (collecting hear notice) := by
  cases notice with
  | output byte => exact NeverRefuses.bind (fun _ _ _ => nofun) fun _ => hears _
  | _ => exact hears _

end NeverRefuses

/-! ## All or nothing -/

theorem printed_writeNotices (changes : List (Store.Write 8)) :
    (Machine.writeNotices changes).filterMap Notice.printed? = [] := by
  rw [Machine.writeNotices, List.filterMap_map]
  exact List.filterMap_eq_nil_iff.mpr fun _ _ => rfl

theorem printed_loadNotices (clears : Bool) (words : List Word) :
    (loadNotices clears words).filterMap Notice.printed? = [] := by
  rw [loadNotices, List.filterMap_append, List.filterMap_append, printed_writeNotices]
  cases clears with
  | true =>
      rw [if_pos rfl, printed_writeNotices]
      rfl
  | false => rfl

/-- A source that cannot be assembled is refused before any listener is called, and nothing but the
assembler has changed; a source is refused only if it cannot be assembled, unless a listener says so.
When it is assembled and the listeners let the machine alone, memory has the bytes of the program from
address zero on, what lies behind is zero if memory is cleared and else as before, the counter is
zero, and nothing else of the machine and of the output has changed. -/
theorem assembleAndLoad_all_or_nothing (hear : Hearer σ) (file source : Text)
    (world : World (Simulator σ)) :
    (∀ fault, Program.assemble file source = .error fault →
      assembleAndLoad (collecting hear) file source world =
        .error (.failed (.refused fault))
          ⟨world.machine, { world.surroundings with assembler := ⟨none⟩ }⟩) ∧
    ((∀ notice, NeverRefuses (hear notice)) → ∀ fault final,
      assembleAndLoad (collecting hear) file source world = .error (.failed (.refused fault)) final →
        Program.assemble file source = .error fault) ∧
    ∀ calm, hear.Spectates calm False → calm world.surroundings.host →
      ∀ program, Program.assemble file source = .ok program →
        ∃ final, assembleAndLoad (collecting hear) file source world = .ok program.words final ∧
          final.machine = { world.machine with memory := final.machine.memory, counter := 0 } ∧
          (∀ cell, final.machine.memory.read cell =
            program.code[cell.toNat]?.getD
              (if world.surroundings.settings.clearsMemory then 0
              else world.machine.memory.read cell)) ∧
          final.surroundings.output = world.surroundings.output := by
  refine ⟨?_, ?_, ?_⟩
  · intro fault refused
    exact bind_of_error _ (assemble_of_error refused world)
  · intro hears fault final failed
    cases outcome : Program.assemble file source with
    | error other =>
        rw [assembleAndLoad, bind_of_error _ (assemble_of_error outcome world)] at failed
        cases failed
        rfl
    | ok program =>
        rw [assembleAndLoad, bind_of_ok (assemble_of_ok outcome world)] at failed
        have loads := neverRefuses_load (neverRefuses_collecting hears) program.words
        exact absurd failed (loads.bind (fun _ => neverRefuses_pure _) _ _ _)
  · intro calm spectates isCalm program assembled
    let between : World (Simulator σ) :=
      ⟨world.machine, { world.surroundings with assembler := ⟨some program⟩ }⟩
    have keeps : Spectated calm False between.surroundings.output [] false between.surroundings :=
      spectated_self False isCalm
    obtain ⟨asked, simulator, loaded, spectated⟩ :=
      load_of_tracks (tracks_collecting spectates between.surroundings.output) program.words keeps
    obtain rfl := spectated.unasked
    rw [Machine.withRequest_false] at loaded
    refine ⟨_, (bind_of_ok (assemble_of_ok assembled world)).trans (bind_of_ok loaded), rfl, ?_, ?_⟩
    · exact Store.read_loaded _ _ (Program.length_code_le assembled)
    · rw [spectated.output, List.nil_append, printed_loadNotices]
      exact List.append_nil _

/-- Behind a loaded program a byte is left, and a source with a dangling label leaves everything. -/
theorem load_halt_or_refuse_jump :
    let hear : Hearer (List Notice) := fun notice world =>
      .ok () ⟨world.machine,
        { world.surroundings with host := world.surroundings.host ++ [notice] }⟩
    let world : World (Simulator (List Notice)) :=
      ⟨{ Machine.fresh Machine.defaultOutput with memory := (Store.zero 8).write 4 7, counter := 6 },
        ⟨⟨10, false, Machine.defaultOutput⟩, Assembler.fresh, #['A'], []⟩⟩
    hear.Spectates (fun _ => True) False ∧
      (∃ final, assembleAndLoad (collecting hear) inputName "halt".toList world =
          .ok [⟨0xC0, 0x00⟩] final ∧
        final.machine.memory.read 0 = 0xC0 ∧ final.machine.memory.read 4 = 7 ∧
        final.machine.counter = 0 ∧ final.surroundings.output = ['A']) ∧
      ∃ fault, assembleAndLoad (collecting hear) inputName "jmp gone".toList world =
        .error (.failed (.refused fault)) world := by
  intro hear world
  have spectates : hear.Spectates (fun _ => True) False :=
    fun _ _ _ => ⟨0, _, rfl, trivial, Nat.not_lt_zero 0⟩
  have halts : ∃ program, Program.assemble inputName "halt".toList = .ok program ∧
      program.words = [⟨0xC0, 0x00⟩] := ⟨_, rfl, rfl⟩
  have dangles : ∃ fault, Program.assemble inputName "jmp gone".toList = .error fault := ⟨_, rfl⟩
  obtain ⟨program, assembled, words⟩ := halts
  obtain ⟨fault, refused⟩ := dangles
  obtain ⟨final, loaded, machine, memory, output⟩ :=
    (assembleAndLoad_all_or_nothing hear inputName "halt".toList world).2.2 _ spectates trivial
      program assembled
  rw [words] at loaded
  rw [Program.code, words] at memory
  refine ⟨spectates, ⟨final, loaded, memory 0, memory 4, ?_, output⟩, fault, ?_⟩
  · rw [machine]
  · exact (assembleAndLoad_all_or_nothing hear inputName "jmp gone".toList world).1 fault refused

end Simulator
end ByteMachine
