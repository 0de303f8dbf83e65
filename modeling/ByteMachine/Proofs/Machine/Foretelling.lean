import ByteMachine.Proofs.Machine.FirstStop

/-!
# Runs that are told beforehand

What a run with a number of instructions allowed comes to, in surroundings that make no request, is
told by the machine on which it starts, whoever listens.  The word that was fetched last, the mode and
the stop that was recorded last have no part in it: the first fetch, the start and the end of the run
replace them.
-/

namespace ByteMachine

namespace Machine

/-! ## The past of a machine -/

/-- The machine with another stop recorded last. -/
def withLast (machine : Machine) (last : Option Stop) : Machine :=
  { machine with control := { machine.control with last } }

/-- The machine with another past: another word fetched last, another mode, and another stop recorded
last. -/
def withPast (machine : Machine) (word : Word) (mode : Mode) (last : Option Stop) : Machine :=
  { machine with instruction := word, mode, control := { machine.control with last } }

theorem noteWrite_withLast (control : StopControl) (last : Option Stop) (address value : Int) :
    ({ control with last } : StopControl).noteWrite address value =
      { control.noteWrite address value with last } := by
  by_cases watched : StopControl.isMember control.watchpoints address <;>
    simp [StopControl.noteWrite, watched]

theorem check_withLast (control : StopControl) (last : Option Stop) (address : Int)
    (breakpoints : Bool) :
    ({ control with last } : StopControl).check address breakpoints =
      ((control.check address breakpoints).1,
        { (control.check address breakpoints).2 with last }) := by
  obtain ⟨marked, watched, requested, hit, before⟩ := control
  cases requested with
  | true => rfl
  | false =>
      cases hit with
      | some stop => rfl
      | none =>
          change (if breakpoints && StopControl.isMember marked address then _ else _) = _
          simp only [StopControl.check]
          cases breakpoints && StopControl.isMember marked address <;> rfl

theorem next_withLast (machine : Machine) (last : Option Stop) :
    (machine.withLast last).next = machine.next.withLast last := by
  change (machine.fetch.withLast last).apply (machine.effect machine.fetched) = _
  rw [next]
  cases machine.effect machine.fetched with
  | store address value =>
      simp only [apply, withLast, noteWrite_withLast]
      split <;> rfl
  | _ => rfl

/-- A step replaces the word that was fetched before. -/
theorem next_withPast (machine : Machine) (word : Word) (mode : Mode) (last : Option Stop) :
    (machine.withPast word mode last).next =
      ({ machine with mode } : Machine).next.withLast last :=
  next_withLast { machine with mode } last

/-- With nothing pending nothing stops a run before its first instruction. -/
theorem check_first {control : StopControl} (noRequest : control.requested = false)
    (noHit : control.hit = none) (address : Int) : control.check address false = (none, control) := by
  simp [StopControl.check, noRequest, noHit]

end Machine

/-- Surroundings that make no request, and of which something can be told. -/
structure Listener.Follows {ε σ : Type} (hear : Listener ε σ)
    (kept : List Notice → Bool → σ → Prop) : Prop where
  /-- It can be told whatever the mode is. -/
  tracks : hear.Tracks fun heard _ => kept heard
  /-- They make no request. -/
  unasked : ∀ {heard asked surroundings}, kept heard asked surroundings → asked = false

namespace Action

open Machine

variable {ε α : Type}

/-- The action ends with a value, leaves a machine and makes some notices, whichever surroundings that
make no request listen to it. -/
def Foretold (action : ∀ {σ : Type}, Listener ε σ → Action ε σ α) (machine : Machine) (value : α)
    (final : Machine) (notices : List Notice) : Prop :=
  ∀ {σ : Type} {hear : Listener ε σ} {kept : List Notice → Bool → σ → Prop}, hear.Follows kept →
    Announces (fun heard _ => kept heard) (action hear) machine value final notices

section Follows

variable {σ : Type} {hear : Listener ε σ} {kept : List Notice → Bool → σ → Prop}

theorem Announces.finally {kept : List Notice → Mode → Bool → σ → Prop} {action : Action ε σ α}
    {cleanup : Action ε σ Unit} {machine between : Machine} {value : α} {final : Machine}
    {notices more : List Notice} (first : Announces kept action machine value between notices)
    (second : Announces kept cleanup between () final more) :
    Announces kept (tryFinally action cleanup) machine value final (notices ++ more) := by
  intro heard asked surroundings keeps
  obtain ⟨again, others, done, keeps⟩ := first heard asked surroundings keeps
  obtain ⟨last, rest, cleaned, keeps⟩ := second _ _ _ keeps
  refine ⟨last, rest, finally_of_ok done cleaned, ?_⟩
  rw [← List.append_assoc]
  exact keeps

variable (follows : hear.Follows kept)
include follows

/-- In a world the action ends without a request. -/
theorem Announces.unasked {action : Action ε σ α} {world : World σ} {value : α} {final : Machine}
    {notices heard : List Notice}
    (announces : Announces (fun heard _ => kept heard) action world.machine value final notices)
    (keeps : kept heard false world.surroundings) :
    ∃ others, action world = .ok value ⟨final, others⟩ ∧ kept (heard ++ notices) false others := by
  obtain ⟨asked, others, done, keeps⟩ := announces.from_world heard keeps
  obtain rfl := follows.unasked keeps
  rw [withRequest_false] at done
  exact ⟨others, done, keeps⟩

theorem announces_changeControl (change : StopControl → StopControl) (machine : Machine) :
    Announces (fun heard _ => kept heard) (changeControl change : Action ε σ Unit) machine ()
      { machine with control := change machine.control } [] := by
  intro heard asked surroundings keeps
  obtain rfl := follows.unasked keeps
  rw [withRequest_false, List.append_nil]
  exact ⟨false, surroundings, by rw [withRequest_false]; rfl, keeps⟩

theorem announces_takeStopAfter (limit : Option Int) {steps : Nat} {machine : Machine}
    {found : Option Stop} {left : StopControl}
    (checked : machine.control.check machine.counter.toNat (decide (0 < steps)) = (found, left)) :
    Announces (fun heard _ => kept heard) (takeStopAfter limit steps : Action ε σ (Option Stop))
      machine (found.or (machine.atLimit? limit steps)) { machine with control := left } [] := by
  intro heard asked surroundings keeps
  obtain rfl := follows.unasked keeps
  rw [withRequest_false, List.append_nil]
  refine ⟨false, surroundings, ?_, keeps⟩
  rw [takeStopAfter_of_check checked, withRequest_false]

theorem announces_settle (machine : Machine) :
    Announces (fun heard _ => kept heard) (settle hear) machine () machine.settled
      (machine.modeNotices .idle) :=
  (announces_changeControl follows StopControl.clearPending machine).bind_of_silent
    (announces_setMode follows.tracks .idle _ id)

section Round

variable {limit : Option Int} {steps : Nat} {machine ready : Machine}
  (taken : Announces (fun heard _ => kept heard)
    (takeStopAfter limit steps : Action ε σ (Option Stop)) machine none ready [])
include taken

/-- A round of a run in which a halt instruction is executed is the last one. -/
theorem announces_runFrom_of_halt (fuel : Nat) (halts : ready.fetched.operation = .halt) :
    Announces (fun heard _ => kept heard) (runFrom hear limit (fuel + 1) steps) machine
      ((Stop.halted (ready.next.counter - 2).toNat).after (steps + 1 : Nat)) ready.next
      ready.stepNotices := by
  apply taken.bind_of_silent
  apply (announces_step follows.tracks ready).bind_silent
  simp only [if_pos halts]
  exact .of_machine fun _ => announces_pure _ _

/-- Every other round is a step, after which the run goes on. -/
theorem announces_runFrom_of_step {fuel : Nat} (goesOn : ready.fetched.operation ≠ .halt)
    {stop : Stop} {final : Machine} {notices : List Notice}
    (rest : Announces (fun heard _ => kept heard) (runFrom hear limit fuel (steps + 1)) ready.next
      stop final notices) :
    Announces (fun heard _ => kept heard) (runFrom hear limit (fuel + 1) steps) machine stop final
      (ready.stepNotices ++ notices) := by
  apply taken.bind_of_silent
  apply (announces_step follows.tracks ready).bind
  simp only [if_neg goesOn]
  exact rest

end Round
end Follows

/-! ## The loop of a run -/

/-- What a loop comes to from machines of different pasts is told by what they have in common, when
nothing stops it before the first round and what it comes to after this round can be told. -/
theorem exists_foretold_round {ι : Type} {limit : Option Int} {fuel steps : Nat}
    {start : ι → Machine} {ready : Machine} (word : ι → Word) (last : ι → Option Stop)
    (taken : ∀ past {σ : Type} {hear : Listener ε σ} {kept : List Notice → Bool → σ → Prop},
      hear.Follows kept → Announces (fun heard _ => kept heard)
        (takeStopAfter limit steps : Action ε σ (Option Stop)) (start past) none
        (ready.withPast (word past) ready.mode (last past)) [])
    (rest : ready.fetched.operation ≠ .halt →
      ∃ (stop : Stop) (final : Machine) (notices : List Notice), ∀ last,
        Foretold (ε := ε) (fun hear => runFrom hear limit fuel (steps + 1))
          (ready.next.withLast last) stop (final.withLast last) notices) :
    ∃ (stop : Stop) (final : Machine) (notices : List Notice), ∀ past,
      Foretold (ε := ε) (fun hear => runFrom hear limit (fuel + 1) steps) (start past) stop
        (final.withLast (last past)) notices := by
  by_cases halts : ready.fetched.operation = .halt
  · refine ⟨(Stop.halted (ready.next.counter - 2).toNat).after (steps + 1 : Nat), ready.next,
      ready.stepNotices, fun past _ _ _ follows => ?_⟩
    have round := announces_runFrom_of_halt follows (taken past follows) fuel halts
    rw [next_withPast] at round
    exact round
  · obtain ⟨stop, final, notices, told⟩ := rest halts
    refine ⟨stop, final, ready.stepNotices ++ notices, fun past _ _ _ follows => ?_⟩
    apply announces_runFrom_of_step follows (taken past follows) halts
    rw [next_withPast]
    exact told _ follows

/-- The loop of a run with rounds enough for the instructions allowed is told by its machine. -/
theorem exists_foretold_runFrom {allowed : Int} {fuel steps : Nat}
    (room : (allowed - steps).toNat < fuel) (machine : Machine) :
    ∃ (stop : Stop) (final : Machine) (notices : List Notice), ∀ last,
      Foretold (ε := ε) (fun hear => runFrom hear (some allowed) fuel steps)
        (machine.withLast last) stop (final.withLast last) notices := by
  induction fuel generalizing steps machine with
  | zero => exact absurd room (Nat.not_lt_zero _)
  | succ fuel induction =>
      obtain ⟨found, left, checked⟩ : ∃ found left,
          machine.control.check machine.counter.toNat (decide (0 < steps)) = (found, left) :=
        ⟨_, _, rfl⟩
      have checkedWithLast (last : Option Stop) :
          (machine.withLast last).control.check (machine.withLast last).counter.toNat
            (decide (0 < steps)) = (found, { left with last }) := by
        rw [← (Prod.mk.inj checked).1, ← (Prod.mk.inj checked).2]
        exact check_withLast _ _ _ _
      let ready : Machine := { machine with control := left }
      have taken (last : Option Stop) {σ : Type} {hear : Listener ε σ}
          {kept : List Notice → Bool → σ → Prop} (follows : hear.Follows kept) :
          Announces (fun heard _ => kept heard)
            (takeStopAfter (some allowed) steps : Action ε σ (Option Stop)) (machine.withLast last)
            (found.or (machine.atLimit? (some allowed) steps)) (ready.withLast last) [] :=
        announces_takeStopAfter follows (some allowed) (checkedWithLast last)
      cases due : found.or (machine.atLimit? (some allowed) steps) with
      | some stop =>
          refine ⟨stop.after steps, ready, [], fun last _ _ _ follows => ?_⟩
          have stops := taken last follows
          rw [due] at stops
          exact stops.bind_of_silent (announces_pure _ _)
      | none =>
          rw [due] at taken
          have more : steps < allowed := by
            simpa [atLimit?] using (Option.or_eq_none_iff.mp due).2
          exact exists_foretold_round (fun _ => machine.instruction) id taken fun _ =>
            @induction (steps + 1) (by omega) ready.next

/-! ## Runs -/

/-- The loop of a run is told by its machine apart from the word that was fetched last, when it has
begun and nothing is pending. -/
theorem exists_foretold_loop {allowed : Int} (positive : 1 ≤ allowed) {machine : Machine}
    (noRequest : machine.control.requested = false) (noHit : machine.control.hit = none) :
    ∃ (stop : Stop) (final : Machine) (notices : List Notice), ∀ past : Word × Option Stop,
      Foretold (ε := ε) (fun hear => runFrom hear (some allowed) (allowed.toNat + 1) 0)
        (machine.withPast past.1 machine.mode past.2) stop (final.withLast past.2) notices := by
  apply exists_foretold_round Prod.fst Prod.snd
  · intro past σ hear kept follows
    have below : machine.atLimit? (some allowed) 0 = none := by
      simp [atLimit?]
      omega
    have checked : (machine.withPast past.1 machine.mode past.2).control.check
        (machine.withPast past.1 machine.mode past.2).counter.toNat (decide (0 < 0)) =
          (none, (machine.withPast past.1 machine.mode past.2).control) :=
      @check_first (machine.withPast past.1 machine.mode past.2).control noRequest noHit _
    have first := announces_takeStopAfter follows (some allowed) checked
    rw [Option.none_or] at first
    exact below ▸ first
  · intro _
    exact @exists_foretold_runFrom ε allowed allowed.toNat 1 (by omega) machine.next

/-- A run that may execute an instruction, with nothing pending when it starts, is told by its machine
apart from the past, and nothing is left of the past but whether the start was announced. -/
theorem exists_foretold_run {allowed : Int} (positive : 1 ≤ allowed) {machine : Machine}
    (noRequest : machine.control.requested = false) (noHit : machine.control.hit = none)
    (patience : Nat) :
    ∃ (stop : Stop) (final : Machine) (notices : List Notice), ∀ word mode last,
      Foretold (ε := ε) (fun hear => run hear patience (some allowed))
        (machine.withPast word mode last) stop final
        ((machine.withPast word mode last).modeNotices .running ++ notices) := by
  obtain ⟨stop, between, notices, told⟩ :=
    @exists_foretold_loop ε allowed positive { machine with mode := .running } noRequest noHit
  let final : Machine :=
    { between.settled with control := between.settled.control.record stop }
  refine ⟨stop, final, notices ++ between.modeNotices .idle,
    fun word mode last σ hear kept follows => ?_⟩
  have settles := announces_settle follows (between.withLast last)
  have records : Announces (fun heard _ => kept heard)
      (do changeControl fun control => control.record stop
          return stop : Action ε σ Stop) (between.withLast last).settled stop final [] :=
    (announces_changeControl follows _ _).bind_of_silent (announces_pure _ _)
  apply (announces_setMode follows.tracks .running _ id).bind
  exact ((told (word, last) follows).finally settles).bind_silent records

end Action
end ByteMachine
