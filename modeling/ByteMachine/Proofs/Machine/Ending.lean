import ByteMachine.Proofs.Machine.Step

/-!
# How actions end

An action ends in a world, whether it returns or fails, and what must hold of a machine afterwards is
often to be shown of both endings alike.  A cleanup starts from whatever world the action before it
ends in.  A property of worlds that every part of an action preserves holds in the world in which the
action ends.
-/

namespace ByteMachine
namespace Action

variable {ε σ α β : Type}

/-- The world in which an action ends, whether it returns or fails. -/
def ended (action : Action ε σ α) (world : World σ) : World σ :=
  match action world with
  | .ok _ final => final
  | .error _ final => final

theorem ended_of_ok {action : Action ε σ α} {world final : World σ} {value : α}
    (done : action world = .ok value final) : action.ended world = final := by
  rw [ended, done]

theorem ended_of_error {action : Action ε σ α} {world final : World σ} {failure : Interruption ε}
    (failed : action world = .error failure final) : action.ended world = final := by
  rw [ended, failed]

theorem ended_bind_of_ok (action : Action ε σ α) (rest : α → Action ε σ β)
    {world between : World σ} {value : α} (done : action world = .ok value between) :
    (action >>= rest).ended world = (rest value).ended between := by
  rw [ended, bind_of_ok done, ended]

theorem ended_bind_of_error (action : Action ε σ α) (rest : α → Action ε σ β)
    {world between : World σ} {failure : Interruption ε}
    (failed : action world = .error failure between) :
    (action >>= rest).ended world = between :=
  ended_of_error (bind_of_error rest failed)

/-- What is made of the value of an action does not change the world. -/
theorem ended_bind_pure (action : Action ε σ α) (f : α → β) (world : World σ) :
    (action >>= fun value => pure (f value)).ended world = action.ended world := by
  cases result : action world with
  | ok value final =>
      rw [ended_bind_of_ok action _ result, ended_of_ok result]
      rfl
  | error failure final => rw [ended_bind_of_error action _ result, ended_of_error result]

theorem ended_finally (action : Action ε σ α) (cleanup : Action ε σ Unit) (world : World σ) :
    (tryFinally action cleanup).ended world = cleanup.ended (action.ended world) := by
  simp only [ended, tryFinally, tryFinally', Functor.map, EStateM.map]
  cases action world with
  | ok value between =>
      simp only
      cases cleanup between <;> rfl
  | error failure between =>
      simp only
      cases cleanup between <;> rfl

/-- The action ends in a world: it returns, or it fails for a reason of its own, but it does not go on
for longer than is waited for. -/
def Completes (action : Action ε σ α) (world final : World σ) : Prop :=
  (∃ value, action world = .ok value final) ∨ ∃ failure, action world = .error (.failed failure) final

theorem Completes.ended_eq {action : Action ε σ α} {world final : World σ}
    (completes : Completes action world final) : action.ended world = final := by
  obtain ⟨value, done⟩ | ⟨failure, failed⟩ := completes
  · exact ended_of_ok done
  · exact ended_of_error failed

theorem Completes.eq_of_ok {action : Action ε σ α} {world between final : World σ} {value : α}
    (completes : Completes action world final) (done : action world = .ok value between) :
    final = between := by
  rw [← completes.ended_eq, ended_of_ok done]

theorem completes_of_returns {action : Action ε σ α} {world : World σ}
    (returns : (match action world with
      | .ok _ _ => true
      | .error _ _ => false) = true) : Completes action world (action.ended world) := by
  cases result : action world with
  | ok value final =>
      rw [ended_of_ok result]
      exact .inl ⟨value, result⟩
  | error failure final =>
      rw [result] at returns
      cases returns

theorem not_completes_of_unfinished {action : Action ε σ α} {world between final : World σ}
    (unfinished : action world = .error .unfinished between) : ¬Completes action world final := by
  rintro (⟨value, done⟩ | ⟨failure, failed⟩)
  · rw [unfinished] at done
    cases done
  · rw [unfinished] at failed
    cases failed

/-- From a world with the property the action ends in one. -/
def Preserves (property : World σ → Prop) (action : Action ε σ α) : Prop :=
  ∀ world, property world → property (action.ended world)

section Preserves

variable {property : World σ → Prop}

theorem preserves_pure (value : α) : Preserves property (pure value : Action ε σ α) :=
  fun _ holds => holds

theorem preserves_throw (failure : Interruption ε) :
    Preserves property (throw failure : Action ε σ α) :=
  fun _ holds => holds

theorem preserves_get : Preserves property (get : Action ε σ (World σ)) :=
  fun _ holds => holds

theorem preserves_machine : Preserves property (machine : Action ε σ Machine) :=
  fun _ holds => holds

/-- What follows an action need only preserve a property that holds when the action ends. -/
theorem property_ended_bind (property : World σ → Prop) {action : Action ε σ α}
    {rest : α → Action ε σ β} {world : World σ} (first : property (action.ended world))
    (second : ∀ value, Preserves property (rest value)) :
    property ((action >>= rest).ended world) := by
  cases result : action world with
  | ok value between =>
      rw [ended_of_ok result] at first
      rw [ended_bind_of_ok action rest result]
      exact second value between first
  | error failure between =>
      rw [ended_of_error result] at first
      rw [ended_bind_of_error action rest result]
      exact first

theorem Preserves.bind {action : Action ε σ α} {rest : α → Action ε σ β}
    (first : Preserves property action) (second : ∀ value, Preserves property (rest value)) :
    Preserves property (action >>= rest) :=
  fun world holds => property_ended_bind property (first world holds) second

theorem Preserves.finally {action : Action ε σ α} {cleanup : Action ε σ Unit}
    (first : Preserves property action) (second : Preserves property cleanup) :
    Preserves property (tryFinally action cleanup) := by
  intro world holds
  rw [ended_finally]
  exact second _ (first world holds)

theorem tryCatch_apply (action : Action ε σ α) (handler : Interruption ε → Action ε σ α)
    (world : World σ) :
    tryCatch action handler world =
      match action world with
      | .ok value final => .ok value final
      | .error failure between => handler failure between := by
  change EStateM.tryCatch action handler world = _
  delta EStateM.tryCatch
  cases action world <;> rfl

theorem Preserves.tryCatch {action : Action ε σ α} {handler : Interruption ε → Action ε σ α}
    (first : Preserves property action)
    (second : ∀ failure, Preserves property (handler failure)) :
    Preserves property (tryCatch action handler) := by
  intro world holds
  have held := first world holds
  cases result : action world with
  | ok value between =>
      rw [ended_of_ok result] at held
      rw [ended, tryCatch_apply, result]
      exact held
  | error failure between =>
      rw [ended_of_error result] at held
      rw [ended, tryCatch_apply, result]
      exact second failure between held

theorem Preserves.forM {items : List α} {act : α → Action ε σ PUnit}
    (each : ∀ item, Preserves property (act item)) : Preserves property (items.forM act) := by
  induction items with
  | nil => exact preserves_pure _
  | cons item rest induction => exact (each item).bind fun _ => induction

/-- The world after actions that are carried out one after the other, each of which may fail. -/
def endedAll (actions : List (Action ε σ Unit)) (world : World σ) : World σ :=
  actions.foldl (fun world action => action.ended world) world

theorem endedAll_preserves (property : World σ → Prop) {actions : List (Action ε σ Unit)}
    (each : ∀ action ∈ actions, Preserves property action) {world : World σ}
    (holds : property world) : property (endedAll actions world) := by
  induction actions generalizing world with
  | nil => exact holds
  | cons action rest induction =>
      rw [List.forall_mem_cons] at each
      exact induction each.2 (each.1 world holds)

end Preserves
end Action
end ByteMachine
