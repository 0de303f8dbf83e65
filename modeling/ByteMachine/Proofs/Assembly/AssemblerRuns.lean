import ByteMachine.Assembly.Listing
import ByteMachine.Proofs.Outcome

/-!
# Runs of an assembler

An assembler reads a line and lays it out before it reads the next one, which comes to the same as
reading all lines first.  Nothing is left of the runs before: an assembler that has run any number of
times, whatever came of it, works and answers as a new one.
-/

namespace ByteMachine
namespace Assembler

/-! ## One run -/

theorem bind_apply {α β : Type} (first : EStateM (Fault Diagnostic) Assembler α)
    (next : α → EStateM (Fault Diagnostic) Assembler β) (assembler : Assembler) :
    (first >>= next) assembler =
      match first assembler with
      | .ok value after => next value after
      | .error fault after => .error fault after := by
  simp only [bind, EStateM.bind]
  cases first assembler <;> rfl

/-- Laying out each line as soon as it is read is laying out all of them once they are read. -/
theorem foldlM_add (file : Text) (lines : List (Nat × Text)) (layout : Layout)
    (assembler : Assembler) :
    lines.foldlM (m := EStateM (Fault Diagnostic) Assembler)
        (fun layout line => return layout.add (← ofExcept (PlacedLine.read file line.1 line.2)))
        layout assembler =
      match lines.mapM fun line => PlacedLine.read file line.1 line.2 with
      | .ok placed => .ok (placed.foldl Layout.add layout) assembler
      | .error fault => .error fault assembler := by
  induction lines generalizing layout with
  | nil => rfl
  | cons line rest induction =>
      rw [List.foldlM_cons, List.mapM_cons]
      cases PlacedLine.read file line.1 line.2 with
      | error fault => rfl
      | ok placed =>
          refine (induction (layout.add placed)).trans ?_
          cases rest.mapM fun line => PlacedLine.read file line.1 line.2 <;> rfl

/-- A run does not depend on the assembler, and leaves one that keeps what the run came to. -/
theorem assemble_eq (assembler : Assembler) (file source : Text) :
    assembler.assemble file source =
      match Program.assemble file source with
      | .ok program => (.ok program.words, ⟨some program⟩)
      | .error fault => (.error fault, fresh) := by
  let ending (layout : Layout) : EStateM (Fault Diagnostic) Assembler (List Word) := do
    let words ← ofExcept ((layout.image.words layout.symbols).mapError .reported)
    set (⟨some ⟨layout, words⟩⟩ : Assembler)
    return words
  have begun : run file source assembler =
      ((numberedLines source).foldlM
        (fun layout line => return layout.add (← ofExcept (PlacedLine.read file line.1 line.2)))
        Layout.empty >>= ending) fresh := rfl
  rw [assemble, EStateM.run, begun, bind_apply, foldlM_add, Program.assemble]
  cases (numberedLines source).mapM fun line => PlacedLine.read file line.1 line.2 with
  | error fault => rfl
  | ok placed =>
      simp only [ending, bind, Except.bind]
      cases (Image.words _ _).mapError Fault.reported with
      | error fault => rfl
      | ok words => rfl

/-! ## Many runs -/

/-- The assembler after runs on sources, each with its name. -/
def after (assembler : Assembler) (runs : List (Text × Text)) : Assembler :=
  runs.foldl (fun assembler run => (assembler.assemble run.1 run.2).2) assembler

/-- An assembler has no memory of the runs before: after any of them, a run comes to the same as the
first run of a new assembler, and the words, the bytes, the labels and the listing are the same
afterwards.  They are empty when the run failed. -/
theorem assemble_after (runs : List (Text × Text)) (file source : Text) :
    let last := (fresh.after runs).assemble file source
    let alone := fresh.assemble file source
    (last.1 = alone.1 ∧ last.2.words = alone.2.words ∧ last.2.code = alone.2.code ∧
        last.2.symbols = alone.2.symbols ∧ last.2.listing? = alone.2.listing?) ∧
      (∀ words, last.1 = .ok words → last.2.words = words) ∧
        ∀ fault, last.1 = .error fault → last.2.words = [] ∧ last.2.code = [] ∧
          last.2.symbols = SymbolTable.empty ∧ last.2.listing? = some [] := by
  intro last alone
  have same : last = alone := (assemble_eq _ file source).trans (assemble_eq fresh file source).symm
  refine ⟨by simp only [same, and_self], ?_⟩
  have result : alone = _ := assemble_eq fresh file source
  rw [same, result]
  cases Program.assemble file source with
  | ok program =>
      refine ⟨fun words found => Except.ok.inj found, fun fault impossible => ?_⟩
      cases impossible
  | error fault =>
      refine ⟨fun words impossible => ?_, fun _ _ => ⟨rfl, rfl, rfl, rfl⟩⟩
      cases impossible

/-- A label that was defined in the run before is unknown, and nothing is left of the program. -/
theorem assemble_after_label :
    let used := fresh.after [(inputName, "jmp x".toList), (inputName, "x: halt".toList)]
    let last := used.assemble inputName "jmp x".toList
    (∃ fault, last.1 = .error fault) ∧ used.words = [⟨0xC0, 0x00⟩] ∧ last.2.words = [] ∧
      last.2.symbols = SymbolTable.empty ∧ last.2.listing? = some [] := by
  intro used last
  obtain ⟨same, -, empty⟩ := assemble_after
    [(inputName, "jmp x".toList), (inputName, "x: halt".toList)] inputName "jmp x".toList
  have failed : ∃ fault, last.1 = .error fault := ⟨_, same.1.trans rfl⟩
  obtain ⟨fault, isFault⟩ := failed
  obtain ⟨words, -, symbols, listing⟩ := empty fault isFault
  exact ⟨⟨fault, isFault⟩, rfl, words, symbols, listing⟩

end Assembler
end ByteMachine
