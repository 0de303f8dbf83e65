import ByteMachine.Machine.StopCommand

/-!
# What stops a run, told by a history

What the control of stops answers when it is checked depends on all that was asked of it before.  A
request, a watched write and a member of one of the two sets are each something that begins at some
time and lasts until something else ends it.  A single command begins and ends what the history says
that it does; hence the control always holds what lasts, and a check reports the first that there is
of a request, the latest watched write and a breakpoint.
-/

namespace ByteMachine

/-! ## What lasts -/

/-- Something has begun before now, and nothing that has come after it ends it. -/
def Since (begins ends : Nat → Prop) (now : Nat) : Prop :=
  ∃ time < now, begins time ∧ ∀ later < now, time < later → ¬ends later

theorem not_since_zero (begins ends : Nat → Prop) : ¬Since begins ends 0 :=
  fun ⟨_, past, _⟩ => Nat.not_lt_zero _ past

theorem since_succ {begins ends : Nat → Prop} {now : Nat} :
    Since begins ends (now + 1) ↔ begins now ∨ (Since begins ends now ∧ ¬ends now) := by
  constructor
  · rintro ⟨time, past, begun, lasts⟩
    obtain earlier | rfl := Nat.lt_succ_iff_lt_or_eq.mp past
    · refine .inr ⟨⟨time, earlier, begun, fun later before => lasts later (by omega)⟩, ?_⟩
      exact lasts now (Nat.lt_succ_self now) earlier
    · exact .inl begun
  · rintro (begun | ⟨⟨time, past, begun, lasts⟩, goesOn⟩)
    · exact ⟨now, Nat.lt_succ_self now, begun, fun later before after => by omega⟩
    · refine ⟨time, by omega, begun, fun later before after => ?_⟩
      obtain earlier | rfl := Nat.lt_succ_iff_lt_or_eq.mp before
      · exact lasts later earlier after
      · exact goesOn

/-- What lasts in spite of an end has begun anew after it. -/
theorem Since.exists_after {begins ends : Nat → Prop} {now time : Nat}
    (since : Since begins ends now) (past : time < now) (ended : ends time) (noBegin : ¬begins time) :
    ∃ later, time < later ∧ later < now ∧ begins later := by
  obtain ⟨latest, before, begun, lasts⟩ := since
  refine ⟨latest, ?_, before, begun⟩
  obtain earlier | rfl | later := Nat.lt_trichotomy latest time
  · exact absurd ended (lasts time past earlier)
  · exact absurd begun noBegin
  · exact later

/-- What has been asked of a fresh control of stops, the earliest command first. -/
abbrev StopHistory := List StopCommand

namespace StopHistory

section Definitions

variable (history : StopHistory)

/-- The control before the command that is given at some time. -/
def controlAt (time : Nat) : StopControl :=
  StopControl.fresh.obeyAll (history.take time)

/-- The command given at some time is a check, and it reports a stop. -/
def Reports (time : Nat) (stop : Stop) : Prop :=
  ∃ address breakpoints, history[time]? = some (.check address breakpoints) ∧
    ((history.controlAt time).check address breakpoints).1 = some stop

/-- The command given at some time is a check, and it reports a stop for some reason. -/
def StopsFor (time : Nat) (reason : StopReason) : Prop :=
  ∃ stop, history.Reports time stop ∧ stop.reason = reason

/-- The command given at some time is one with an address, for which any number stands that is this
address modulo 256. -/
def Gives (command : Int → StopCommand) (time : Nat) (address : Int) : Prop :=
  ∃ number, history[time]? = some (command number) ∧ number % 256 = address

/-- An address has been added to a set, and since then neither been removed from it nor has the set
been cleared. -/
def IsMarked (add remove : Int → StopCommand) (clear : StopCommand) (address : Int) : Nat → Prop :=
  Since (history.Gives add · address) fun time =>
    history.Gives remove time address ∨ history[time]? = some clear ∨
      history[time]? = some .clearAll

/-- An address has a breakpoint. -/
def HasBreakpoint (address : Int) : Nat → Prop :=
  history.IsMarked .addBreakpoint .removeBreakpoint .clearBreakpoints address

/-- The cell at an address is watched. -/
def IsWatched (address : Int) : Nat → Prop :=
  history.IsMarked .addWatchpoint .removeWatchpoint .clearWatchpoints address

/-- A stop has been asked for, and since then neither taken back nor dropped nor reported. -/
def IsRequested : Nat → Prop :=
  Since (fun time => history[time]? = some .request) fun time =>
    history[time]? = some .clearRequest ∨ history[time]? = some .clearPending ∨
      history[time]? = some .clearAll ∨ history.StopsFor time .userInterrupt

/-- At some time a value is written to a cell that is watched then. -/
def WritesWatched (time : Nat) (address value : Int) : Prop :=
  history[time]? = some (.noteWrite address value) ∧ history.IsWatched address time

/-- A value has been written to a watched cell, and since then no watched cell has been written, and
no such write dropped or reported. -/
def IsHit (address value : Int) : Nat → Prop :=
  Since (history.WritesWatched · address value) fun time =>
    (∃ address value, history.WritesWatched time address value) ∨
      history[time]? = some .clearPending ∨ history[time]? = some .clearAll ∨
      history.StopsFor time .memoryWrite

/-- An answer to a check before the instruction at an address reports a request, or else the latest
write of a watched cell, or else, if this is asked for, a breakpoint. -/
structure IsDue (time : Nat) (address : Int) (breakpoints : Bool) (answer : Option Stop) : Prop where
  /-- A request is reported whenever there is one. -/
  interrupted : answer = some (.interrupted address) ↔ history.IsRequested time
  /-- A write is reported if there is no request. -/
  atWrite : ∀ cell value, answer = some (.atWrite cell value) ↔
    ¬history.IsRequested time ∧ history.IsHit cell value time
  /-- A breakpoint is reported if there is nothing else. -/
  atBreakpoint : answer = some (.atBreakpoint address) ↔
    ¬history.IsRequested time ∧ (∀ cell value, ¬history.IsHit cell value time) ∧
      breakpoints = true ∧ history.HasBreakpoint address time
  /-- Otherwise nothing is reported. -/
  nothing : answer = none ↔
    ¬history.IsRequested time ∧ (∀ cell value, ¬history.IsHit cell value time) ∧
      ¬(breakpoints = true ∧ history.HasBreakpoint address time)

end Definitions

end StopHistory

/-! ## What a command begins and ends -/

theorem Stop.atWrite_inj {address value otherAddress otherValue : Int} :
    atWrite address value = atWrite otherAddress otherValue ↔
      address = otherAddress ∧ value = otherValue := by
  constructor
  · intro same
    cases same
    exact ⟨rfl, rfl⟩
  · rintro ⟨rfl, rfl⟩
    rfl

namespace StopControl

variable {set : ByteSet} {number address : Int}

theorem isMember_iff :
    isMember set address = true ↔ ∃ byte : Byte, (byte.toNat : Int) = address ∧ set.contains byte := by
  simp only [isMember, Bool.and_eq_true, decide_eq_true_iff]
  constructor
  · rintro ⟨⟨natural, small⟩, marked⟩
    refine ⟨_, ?_, marked⟩
    rw [Byte.toNat_ofInt]
    omega
  · rintro ⟨byte, rfl, marked⟩
    have small := byte.isLt
    exact ⟨by omega, by rwa [Byte.ofInt_toNat]⟩

theorem isMember_empty : isMember .empty address = false := by
  simp [isMember]

theorem isMember_insert :
    isMember (set.insert (.ofInt 8 number)) address = true ↔
      number % 256 = address ∨ isMember set address = true := by
  rw [← Byte.toNat_ofInt]
  simp only [isMember_iff, ByteSet.contains_insert, Bool.or_eq_true, beq_iff_eq, and_or_left,
    exists_or, exists_eq_right]

theorem isMember_erase :
    isMember (set.erase (.ofInt 8 number)) address = true ↔
      isMember set address = true ∧ ¬number % 256 = address := by
  rw [← Byte.toNat_ofInt]
  simp only [isMember_iff, ByteSet.contains_erase, Bool.and_eq_true, bne_iff_ne]
  constructor
  · rintro ⟨other, rfl, apart, marked⟩
    refine ⟨⟨other, rfl, marked⟩, fun same => apart ?_⟩
    exact (BitVec.eq_of_toNat_eq (Int.ofNat.inj same)).symm
  · rintro ⟨⟨other, rfl, marked⟩, apart⟩
    exact ⟨other, rfl, fun same => apart (by rw [same]), marked⟩

/-- What a check reports and leaves. -/
theorem check_cases (control : StopControl) (address : Int) (breakpoints : Bool) :
    (control.requested = true ∧
        control.check address breakpoints = (some (.interrupted address), control.clearRequest)) ∨
      (control.requested = false ∧ ∃ stop, control.hit = some stop ∧
        control.check address breakpoints = (some stop, { control with hit := none })) ∨
      (control.requested = false ∧ control.hit = none ∧
        control.check address breakpoints =
          (if breakpoints = true ∧ isMember control.breakpoints address = true then
            some (.atBreakpoint address)
          else none, control)) := by
  rw [check]
  cases control.requested with
  | true => exact .inl ⟨rfl, rfl⟩
  | false =>
      cases pending : control.hit with
      | some stop => exact .inr (.inl ⟨rfl, stop, rfl, rfl⟩)
      | none =>
          refine .inr (.inr ⟨rfl, rfl, ?_⟩)
          simp only [Bool.false_eq_true, if_false, Bool.and_eq_true]
          split <;> rfl

/-- A check changes only what is pending. -/
theorem exists_check_eq (control : StopControl) (address : Int) (breakpoints : Bool) :
    ∃ requested hit, (control.check address breakpoints).2 = { control with requested, hit } := by
  obtain ⟨-, same⟩ | ⟨-, _, -, same⟩ | ⟨-, -, same⟩ := check_cases control address breakpoints <;>
    rw [same] <;> exact ⟨_, _, rfl⟩

theorem exists_noteWrite_eq (control : StopControl) (address value : Int) :
    ∃ hit, control.noteWrite address value = { control with hit } := by
  rw [noteWrite]
  split <;> exact ⟨_, rfl⟩

/-- A command that is a check reports a stop. -/
def Tells (control : StopControl) (command : StopCommand) (stop : Stop) : Prop :=
  ∃ address breakpoints, command = .check address breakpoints ∧
    (control.check address breakpoints).1 = some stop

theorem tells_check_iff {control : StopControl} {address : Int} {breakpoints : Bool} {stop : Stop} :
    control.Tells (.check address breakpoints) stop ↔
      (control.check address breakpoints).1 = some stop := by
  constructor
  · rintro ⟨_, _, same, told⟩
    cases same
    exact told
  · exact fun told => ⟨address, breakpoints, rfl, told⟩

/-- A set of the control is changed by commands to add an address, to remove one and to clear it, and
by no others but the one to clear everything. -/
def Governs (members : StopControl → ByteSet) (add remove : Int → StopCommand)
    (clear : StopCommand) : Prop :=
  ∀ control command address,
    isMember (members (control.obey command).2) address = true ↔
      (∃ number, command = add number ∧ number % 256 = address) ∨
        (isMember (members control) address = true ∧
          ¬((∃ number, command = remove number ∧ number % 256 = address) ∨
            command = clear ∨ command = .clearAll))

theorem governs_breakpoints :
    Governs breakpoints .addBreakpoint .removeBreakpoint .clearBreakpoints := by
  intro control command address
  cases command with
  | addBreakpoint number => simp [obey, addBreakpoint, isMember_insert]
  | removeBreakpoint number => simp [obey, removeBreakpoint, isMember_erase]
  | clearBreakpoints => simp [obey, clearBreakpoints, isMember_empty]
  | clearAll => simp [obey, fresh, isMember_empty]
  | check place marked =>
      obtain ⟨_, _, same⟩ := exists_check_eq control place marked
      simp [obey, same]
  | noteWrite place value =>
      obtain ⟨_, same⟩ := exists_noteWrite_eq control place value
      simp [obey, same]
  | _ => simp [obey, addWatchpoint, removeWatchpoint, clearWatchpoints, request, clearRequest,
      clearPending, record]

theorem governs_watchpoints :
    Governs watchpoints .addWatchpoint .removeWatchpoint .clearWatchpoints := by
  intro control command address
  cases command with
  | addWatchpoint number => simp [obey, addWatchpoint, isMember_insert]
  | removeWatchpoint number => simp [obey, removeWatchpoint, isMember_erase]
  | clearWatchpoints => simp [obey, clearWatchpoints, isMember_empty]
  | clearAll => simp [obey, fresh, isMember_empty]
  | check place marked =>
      obtain ⟨_, _, same⟩ := exists_check_eq control place marked
      simp [obey, same]
  | noteWrite place value =>
      obtain ⟨_, same⟩ := exists_noteWrite_eq control place value
      simp [obey, same]
  | _ => simp [obey, addBreakpoint, removeBreakpoint, clearBreakpoints, request, clearRequest,
      clearPending, record]

theorem requested_obey (control : StopControl) (command : StopCommand) :
    (control.obey command).2.requested = true ↔
      command = .request ∨
        (control.requested = true ∧
          ¬(command = .clearRequest ∨ command = .clearPending ∨ command = .clearAll ∨
            ∃ stop, control.Tells command stop ∧ stop.reason = .userInterrupt)) := by
  cases command with
  | check place marked =>
      obtain ⟨requested, same⟩ | ⟨noRequest, stop, -, same⟩ | ⟨noRequest, -, same⟩ :=
        check_cases control place marked
      · simp [obey, same, clearRequest, tells_check_iff, Stop.interrupted]
      · simp [obey, same, noRequest]
      · simp [obey, same, noRequest]
  | clearAll => simp [obey, fresh]
  | noteWrite place value =>
      obtain ⟨_, same⟩ := exists_noteWrite_eq control place value
      simp [obey, same, Tells]
  | _ => simp [obey, addBreakpoint, removeBreakpoint, clearBreakpoints, addWatchpoint,
      removeWatchpoint, clearWatchpoints, request, clearRequest, clearPending, record, Tells]

theorem hit_obey {control : StopControl}
    (isWrite : ∀ stop ∈ control.hit, stop.reason = .memoryWrite) (command : StopCommand)
    (address value : Int) :
    (control.obey command).2.hit = some (.atWrite address value) ↔
      (command = .noteWrite address value ∧ isMember control.watchpoints address = true) ∨
        (control.hit = some (.atWrite address value) ∧
          ¬((∃ address value, command = .noteWrite address value ∧
                isMember control.watchpoints address = true) ∨
            command = .clearPending ∨ command = .clearAll ∨
            ∃ stop, control.Tells command stop ∧ stop.reason = .memoryWrite)) := by
  cases command with
  | check place marked =>
      obtain ⟨requested, same⟩ | ⟨noRequest, stop, pending, same⟩ | ⟨noRequest, none, same⟩ :=
        check_cases control place marked
      · simp [obey, same, clearRequest, tells_check_iff, Stop.interrupted]
      · simp [obey, same, tells_check_iff, isWrite stop pending]
      · simp [obey, same, none]
  | clearAll => simp [obey, fresh]
  | noteWrite place written =>
      rw [obey, noteWrite]
      split
      next watched =>
        constructor
        · intro same
          obtain ⟨rfl, rfl⟩ := Stop.atWrite_inj.mp (Option.some.inj same)
          exact .inl ⟨rfl, watched⟩
        · rintro (⟨same, -⟩ | ⟨-, lasts⟩)
          · cases same
            rfl
          · exact absurd (.inl ⟨place, written, rfl, watched⟩) lasts
      next unwatched =>
        constructor
        · intro pending
          refine .inr ⟨pending, ?_⟩
          rintro (⟨_, _, same, watched⟩ | same | same | ⟨_, ⟨_, _, same, -⟩, -⟩) <;> cases same
          exact unwatched watched
        · rintro (⟨same, watched⟩ | ⟨pending, -⟩)
          · cases same
            exact absurd watched unwatched
          · exact pending
  | _ => simp [obey, addBreakpoint, removeBreakpoint, clearBreakpoints, addWatchpoint,
      removeWatchpoint, clearWatchpoints, request, clearRequest, clearPending, record, Tells]

/-- What is pending besides a request is a write. -/
def HoldsWrite (control : StopControl) : Prop :=
  ∀ stop ∈ control.hit, ∃ address value, stop = .atWrite address value

theorem holdsWrite_obey {control : StopControl} (holds : control.HoldsWrite)
    (command : StopCommand) : (control.obey command).2.HoldsWrite := by
  cases command with
  | check place marked =>
      obtain ⟨-, same⟩ | ⟨-, stop, -, same⟩ | ⟨-, -, same⟩ := check_cases control place marked
      · simpa [obey, same, HoldsWrite, clearRequest] using holds
      · simp [obey, same, HoldsWrite]
      · simpa [obey, same, HoldsWrite] using holds
  | noteWrite place value =>
      rw [obey, noteWrite]
      split
      next =>
        rintro stop ⟨⟩
        exact ⟨place, value, rfl⟩
      next => exact holds
  | clearPending => exact nofun
  | clearAll => exact nofun
  | _ => exact holds

end StopControl

/-! ## What a history leaves -/

namespace StopHistory

open StopControl

variable {history : StopHistory} {time : Nat} {command : StopCommand}

theorem controlAt_succ (found : history[time]? = some command) :
    history.controlAt (time + 1) = ((history.controlAt time).obey command).2 := by
  rw [controlAt, List.take_add_one, found, obeyAll, List.foldl_append]
  rfl

theorem exists_command (within : time + 1 ≤ history.length) :
    ∃ command, history[time]? = some command :=
  ⟨history[time], List.getElem?_eq_getElem within⟩

theorem reports_iff (found : history[time]? = some command) {stop : Stop} :
    history.Reports time stop ↔ (history.controlAt time).Tells command stop := by
  simp only [Reports, Tells, found, Option.some.injEq]

theorem gives_iff (found : history[time]? = some command) {form : Int → StopCommand}
    {address : Int} :
    history.Gives form time address ↔ ∃ number, command = form number ∧ number % 256 = address := by
  simp only [Gives, found, Option.some.injEq]

/-- A set of the control has the members that the history has marked. -/
theorem isMember_controlAt_iff {members : StopControl → ByteSet} {add remove : Int → StopCommand}
    {clear : StopCommand} (governs : Governs members add remove clear)
    (unmarked : members .fresh = .empty) (within : time ≤ history.length) {address : Int} :
    isMember (members (history.controlAt time)) address = true ↔
      history.IsMarked add remove clear address time := by
  induction time with
  | zero =>
      rw [controlAt, List.take_zero]
      simp [obeyAll, unmarked, isMember_empty, IsMarked, not_since_zero]
  | succ time induction =>
      obtain ⟨command, found⟩ := exists_command within
      rw [controlAt_succ found, governs, induction (by omega), IsMarked, since_succ, ← IsMarked,
        gives_iff found, gives_iff found, found, Option.some.injEq, Option.some.injEq]

theorem hasBreakpoint_iff (within : time ≤ history.length) {address : Int} :
    isMember (history.controlAt time).breakpoints address = true ↔
      history.HasBreakpoint address time :=
  isMember_controlAt_iff governs_breakpoints rfl within

theorem isWatched_iff (within : time ≤ history.length) {address : Int} :
    isMember (history.controlAt time).watchpoints address = true ↔
      history.IsWatched address time :=
  isMember_controlAt_iff governs_watchpoints rfl within

theorem isRequested_iff (within : time ≤ history.length) :
    (history.controlAt time).requested = true ↔ history.IsRequested time := by
  induction time with
  | zero =>
      rw [controlAt, List.take_zero]
      simp [obeyAll, fresh, IsRequested, not_since_zero]
  | succ time induction =>
      obtain ⟨command, found⟩ := exists_command within
      rw [controlAt_succ found, requested_obey, induction (by omega), IsRequested, since_succ,
        ← IsRequested]
      simp only [StopsFor, reports_iff found, found, Option.some.injEq]

theorem holdsWrite_controlAt (history : StopHistory) (time : Nat) :
    (history.controlAt time).HoldsWrite := by
  rw [controlAt, obeyAll]
  generalize history.take time = past
  have start : fresh.HoldsWrite := nofun
  generalize fresh = control at start
  induction past generalizing control with
  | nil => exact start
  | cons command rest induction => exact induction _ (holdsWrite_obey start command)

theorem writesWatched_iff (found : history[time]? = some command) {address value : Int} :
    history.WritesWatched time address value ↔ command = .noteWrite address value ∧
      isMember (history.controlAt time).watchpoints address = true := by
  have within := (List.getElem?_eq_some_iff.mp found).1
  rw [WritesWatched, found, Option.some.injEq, isWatched_iff (by omega)]

theorem isHit_iff (within : time ≤ history.length) {address value : Int} :
    (history.controlAt time).hit = some (.atWrite address value) ↔
      history.IsHit address value time := by
  induction time with
  | zero =>
      rw [controlAt, List.take_zero]
      simp [obeyAll, fresh, IsHit, not_since_zero]
  | succ time induction =>
      obtain ⟨command, found⟩ := exists_command within
      have isWrite : ∀ stop ∈ (history.controlAt time).hit, stop.reason = .memoryWrite := by
        intro stop pending
        obtain ⟨_, _, rfl⟩ := history.holdsWrite_controlAt time stop pending
        rfl
      rw [controlAt_succ found, hit_obey isWrite, induction (by omega), IsHit, since_succ, ← IsHit]
      simp only [StopsFor, writesWatched_iff found, reports_iff found, found, Option.some.injEq]

/-! ## What a check reports -/

theorem isDue_check (within : time ≤ history.length) (address : Int) (breakpoints : Bool) :
    history.IsDue time address breakpoints
      ((history.controlAt time).check address breakpoints).1 := by
  obtain ⟨requested, same⟩ | ⟨noRequest, stop, pending, same⟩ | ⟨noRequest, none, same⟩ :=
    check_cases (history.controlAt time) address breakpoints
  · constructor <;>
      simp [← isRequested_iff within, requested, same, Stop.interrupted, Stop.atWrite,
        Stop.atBreakpoint]
  · obtain ⟨cell, value, rfl⟩ := history.holdsWrite_controlAt time stop pending
    constructor <;>
      simp [← isRequested_iff within, ← isHit_iff within, noRequest, pending, same,
        Stop.interrupted, Stop.atWrite, Stop.atBreakpoint]
  · constructor <;>
      simp [← isRequested_iff within, ← isHit_iff within, ← hasBreakpoint_iff within, noRequest,
        none, same, Stop.interrupted, Stop.atWrite, Stop.atBreakpoint]

/-- What is reported is a request or a write that lasts, or a breakpoint. -/
theorem reports_cases {stop : Stop} (reports : history.Reports time stop) :
    (∃ address, stop = .interrupted address ∧ history.IsRequested time) ∨
      (∃ cell value, stop = .atWrite cell value ∧ history.IsHit cell value time) ∨
      ∃ address, stop = .atBreakpoint address := by
  obtain ⟨address, breakpoints, found, told⟩ := reports
  have within := Nat.le_of_lt (List.getElem?_eq_some_iff.mp found).1
  obtain ⟨requested, same⟩ | ⟨-, hit, pending, same⟩ | ⟨-, -, same⟩ :=
    check_cases (history.controlAt time) address breakpoints <;> rw [same] at told
  · exact .inl ⟨address, (Option.some.inj told).symm, (isRequested_iff within).mp requested⟩
  · obtain rfl := Option.some.inj told
    obtain ⟨cell, value, rfl⟩ := history.holdsWrite_controlAt time hit pending
    exact .inr (.inl ⟨cell, value, rfl, (isHit_iff within).mp pending⟩)
  · obtain ⟨-, same⟩ := Option.ite_none_right_eq_some.mp told
    exact .inr (.inr ⟨address, (Option.some.inj same).symm⟩)

theorem isRequested_of_stopsFor (stops : history.StopsFor time .userInterrupt) :
    history.IsRequested time := by
  obtain ⟨stop, reports, reason⟩ := stops
  obtain ⟨_, -, requested⟩ | ⟨_, _, rfl, -⟩ | ⟨_, rfl⟩ := reports_cases reports
  · exact requested
  · cases reason
  · cases reason

theorem isHit_of_reports {stop : Stop} (reports : history.Reports time stop)
    (reason : stop.reason = .memoryWrite) :
    ∃ cell value, stop = .atWrite cell value ∧ history.IsHit cell value time := by
  obtain ⟨_, rfl, -⟩ | hit | ⟨_, rfl⟩ := reports_cases reports
  · cases reason
  · exact hit
  · cases reason

/-- What a check answers is told by what was asked of the control before: a request that lasts comes
first, then the latest write of a watched cell if it lasts, then a breakpoint, and a write passed over
for a request stays.  Between two reports of a request there is a new request, and between two
reports of writes there is the write that the second one reports. -/
theorem check_follows_history (history : StopHistory) (address : Int) (breakpoints : Bool) :
    history.IsDue history.length address breakpoints
        ((StopControl.fresh.obeyAll history).check address breakpoints).1 ∧
      (∀ first second, first < second → history.StopsFor first .userInterrupt →
        history.StopsFor second .userInterrupt →
        ∃ time, first < time ∧ time < second ∧ history[time]? = some .request) ∧
      ∀ first second stop, first < second → history.StopsFor first .memoryWrite →
        history.Reports second stop → stop.reason = .memoryWrite →
        ∃ time cell value, first < time ∧ time < second ∧ stop = .atWrite cell value ∧
          history.WritesWatched time cell value := by
  refine ⟨?_, ?_, ?_⟩
  · have due := history.isDue_check (Nat.le_refl _) address breakpoints
    rwa [controlAt, List.take_length] at due
  · intro first second earlier reported again
    have requested := isRequested_of_stopsFor again
    refine requested.exists_after earlier (.inr (.inr (.inr reported))) fun request => ?_
    obtain ⟨_, ⟨_, _, isCheck, -⟩, -⟩ := reported
    rw [isCheck] at request
    cases request
  · intro first second stop earlier reported again reason
    obtain ⟨cell, value, same, hit⟩ := isHit_of_reports again reason
    obtain ⟨time, after, before, written⟩ :=
      hit.exists_after earlier (.inr (.inr (.inr reported))) fun ⟨write, _⟩ => by
        obtain ⟨_, ⟨_, _, isCheck, -⟩, -⟩ := reported
        rw [isCheck] at write
        cases write
    exact ⟨time, cell, value, after, before, same, written⟩

/-- A write and a request are reported one after the other, each once; a second request is reported
because it is new. -/
theorem check_follows_history_of_two_requests :
    let history : StopHistory := [.addWatchpoint 0x110, .addBreakpoint 4,
      .noteWrite 0x10 7, .request, .check 4 true, .request, .check 4 true, .check 4 true]
    history.StopsFor 4 .userInterrupt ∧ history.StopsFor 6 .userInterrupt ∧
      history.Reports 7 (.atWrite 0x10 7) ∧
      (StopControl.fresh.obeyAll history).check 4 true =
        (some (.atBreakpoint 4), StopControl.fresh.obeyAll history) ∧
      ¬history.IsRequested 8 ∧ history.HasBreakpoint 4 8 ∧
      ∃ time, 4 < time ∧ time < 6 ∧ history[time]? = some .request := by
  intro history
  have first : history.StopsFor 4 .userInterrupt := ⟨_, ⟨4, true, rfl, rfl⟩, rfl⟩
  have second : history.StopsFor 6 .userInterrupt := ⟨_, ⟨4, true, rfl, rfl⟩, rfl⟩
  have third : history.Reports 7 (.atWrite 0x10 7) := ⟨4, true, rfl, rfl⟩
  have last : (StopControl.fresh.obeyAll history).check 4 true =
      (some (.atBreakpoint 4), StopControl.fresh.obeyAll history) := rfl
  obtain ⟨due, requests, -⟩ := check_follows_history history 4 true
  obtain ⟨noRequest, -, -, marked⟩ := due.atBreakpoint.mp (congrArg Prod.fst last)
  exact ⟨first, second, third, last, noRequest, marked, requests 4 6 (by decide) first second⟩

end StopHistory
end ByteMachine
