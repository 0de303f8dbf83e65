import ByteMachine.Proofs.Machine.Requests
import ByteMachine.Simulator

/-!
# Listeners that leave a simulator alone

Listeners of a simulator may keep what they like in their own surroundings.  As long as they do
nothing else, except perhaps ask the machine to stop, the output of the simulator grows by the
characters that its machine announces, and by nothing else.
-/

namespace ByteMachine

/-- The byte that a notice says is printed. -/
def Notice.printed? : Notice → Option Byte
  | .output byte => some byte
  | _ => none

namespace Simulator

variable {σ : Type}

/-- As long as the surroundings of a simulator are calm, they do not fail, they change nothing of the
simulator, and they remain calm.  To the machine they do nothing, except that they may ask it to stop
if this is allowed. -/
def Hearer.Spectates (hear : Hearer σ) (calm : σ → Prop) (mayAsk : Prop) : Prop :=
  ∀ notice world, calm world.surroundings.host → ∃ times host,
    hear notice world =
      .ok () ⟨Machine.askedToStop^[times] world.machine, { world.surroundings with host }⟩ ∧
    calm host ∧ (0 < times → mayAsk)

/-- What can be told of a simulator whose surroundings spectate, when it has heard some notices after a
text was printed. -/
structure Spectated (calm : σ → Prop) (mayAsk : Prop) (text : Text) (heard : List Notice)
    (asked : Bool) (simulator : Simulator σ) : Prop where
  /-- The characters of the notices have been added to the text. -/
  output : simulator.output = text ++ (heard.filterMap Notice.printed?).map character
  /-- The surroundings are calm. -/
  isCalm : calm simulator.host
  /-- The machine has been asked to stop only if this is allowed. -/
  allowed : asked = true → mayAsk

variable {hear : Hearer σ} {calm : σ → Prop} {mayAsk : Prop}

theorem spectated_self (mayAsk : Prop) {simulator : Simulator σ} (isCalm : calm simulator.host) :
    Spectated calm mayAsk simulator.output [] false simulator :=
  ⟨(List.append_nil _).symm, isCalm, nofun⟩

theorem Spectated.unasked {text : Text} {heard : List Notice} {asked : Bool}
    {simulator : Simulator σ} (spectated : Spectated calm False text heard asked simulator) :
    asked = false :=
  Bool.eq_false_iff.mpr spectated.allowed

/-- A character is kept before others hear of it. -/
theorem collecting_eq (spectates : hear.Spectates calm mayAsk) (notice : Notice)
    (world : World (Simulator σ)) (isCalm : calm world.surroundings.host) :
    ∃ times simulator,
      collecting hear notice world =
        .ok () ⟨Machine.askedToStop^[times] world.machine, simulator⟩ ∧
      simulator.output = world.surroundings.output ++ notice.printed?.toList.map character ∧
      calm simulator.host ∧ (0 < times → mayAsk) := by
  cases notice with
  | output byte =>
      let printing : World (Simulator σ) :=
        ⟨world.machine, { world.surroundings with
          printed := world.surroundings.printed.push (character byte) }⟩
      obtain ⟨times, host, heard, calmly⟩ := spectates (.output byte) printing isCalm
      exact ⟨times, _, heard, Array.toList_push, calmly⟩
  | _ =>
      obtain ⟨times, host, heard, calmly⟩ := spectates _ world isCalm
      exact ⟨times, _, heard, (List.append_nil _).symm, calmly⟩

theorem tracks_collecting (spectates : hear.Spectates calm mayAsk) (text : Text) :
    (collecting hear).Tracks fun heard _ => Spectated calm mayAsk text heard where
  hears {heard asked simulator machine} notice keeps := by
    obtain ⟨times, others, done, output, isCalm, allowed⟩ :=
      collecting_eq spectates notice ⟨machine.withRequest asked, simulator⟩ keeps.isCalm
    rw [Machine.askedToStop_iterate_withRequest] at done
    refine ⟨_, others, done, ?_, isCalm, ?_⟩
    · rw [output, keeps.output, List.filterMap_append, List.map_append, List.append_assoc]
      cases notice <;> rfl
    · intro again
      rw [Bool.or_eq_true, decide_eq_true_iff] at again
      exact again.elim keeps.allowed fun asks => allowed asks.1
  rests keeps := keeps

/-- When requests are allowed, there is nothing to be told of them. -/
theorem tracks_collecting_asking (spectates : hear.Spectates calm True) (text : Text) :
    (collecting hear).Tracks fun heard _ _ => Spectated calm True text heard false where
  hears notice keeps := by
    obtain ⟨again, others, done, spectated⟩ := (tracks_collecting spectates text).hears notice
      ⟨keeps.output, keeps.isCalm, fun _ => trivial⟩
    exact ⟨again, others, done, spectated.output, spectated.isCalm, nofun⟩
  rests keeps := keeps

end Simulator
end ByteMachine
