import Ucanlab.Protocols.J1939.AddressClaim

/-!
What a call of the address claiming engine does to its claim, and the safety of
contention: a lower NAME takes the address away, and the null address is never
claimed.
-/

namespace Ucanlab.J1939

open Ucanlab EventRun

/-- The call begins a claim and leaves its window to a later one. -/
def ClaimEvent.unarmed (event : ClaimEvent) : Bool :=
  match event.op with
  | .startClaiming autoArmTimer => !autoArmTimer
  | _ => false

namespace AddressClaimEngine

/-- The call turns the claim in progress into a claimed address. -/
def finalizes (engine : AddressClaimEngine) (event : ClaimEvent) : Bool :=
  decide (engine.state = .claiming ∧ engine.currentAddress ≠ nullAddress) &&
    match event.op with
    | .timer generation =>
        decide (generation = engine.claimGeneration ∧
          engine.claimWindowDeadlineNs ≤ event.clock.now + claimToleranceNs)
    | .confirmClaimed => decide (engine.claimWindowDeadlineNs ≤ event.clock.now)
    | _ => false

def Rearmed (window : Nat) (before after : AddressClaimEngine) : Prop :=
  after.claimWindowDeadlineNs = before.claimWindowDeadlineNs ∨
    after.claimWindowDeadlineNs = window + claimConfirmWindowNs

/-- What a call does to the claim, short of completing it, with the notes it leaves.
A claim begins with its window armed unless the call leaves that for later. -/
inductive Changes (unarmed : Bool) (window : Nat) (before after : AddressClaimEngine) :
    List ClaimNote → Prop where
  | kept (state : after.state = before.state)
      (address : after.currentAddress = before.currentAddress)
      (deadline : Rearmed window before after) : Changes unarmed window before after []
  | withdrawn (state : after.state = .uninitialized)
      (address : after.currentAddress = before.currentAddress) :
      Changes unarmed window before after []
  | defended (state : after.state = before.state)
      (address : after.currentAddress = before.currentAddress)
      (deadline : Rearmed window before after) :
      Changes unarmed window before after [.defended before.currentAddress]
  | begun (state : after.state = .claiming)
      (armed : unarmed = false → after.claimWindowDeadlineNs = window + claimConfirmWindowNs) :
      Changes unarmed window before after [.broadcast after.currentAddress]
  | moved (state : after.state = .claiming)
      (armed : after.claimWindowDeadlineNs = window + claimConfirmWindowNs) :
      Changes unarmed window before after
        [.lost before.currentAddress, .fallback after.currentAddress]
  | gaveUp (state : after.state = .cannotClaim) (address : after.currentAddress = nullAddress) :
      Changes unarmed window before after [.lost before.currentAddress]

theorem Changes.trans_same {unarmed : Bool} {window : Nat} {before middle after : AddressClaimEngine}
    {notes : List ClaimNote} (changes : Changes unarmed window middle after notes)
    (state : middle.state = before.state) (address : middle.currentAddress = before.currentAddress)
    (deadline : middle.claimWindowDeadlineNs = before.claimWindowDeadlineNs) :
    Changes unarmed window before after notes := by
  have rearmed (later : Rearmed window middle after) : Rearmed window before after :=
    later.imp_left (fun same => same.trans deadline)
  cases changes with
  | kept sameState sameAddress later =>
      exact .kept (sameState.trans state) (sameAddress.trans address) (rearmed later)
  | withdrawn newState sameAddress => exact .withdrawn newState (sameAddress.trans address)
  | defended sameState sameAddress later =>
      rw [address]
      exact .defended (sameState.trans state) (sameAddress.trans address) (rearmed later)
  | begun newState armed => exact .begun newState armed
  | moved newState armed =>
      rw [address]
      exact .moved newState armed
  | gaveUp newState newAddress =>
      rw [address]
      exact .gaveUp newState newAddress

section Calls

variable {engine : AddressClaimEngine} {event : ClaimEvent} {unarmed : Bool} {window : Nat}

theorem Changes.same : Changes unarmed window engine engine [] := .kept rfl rfl (Or.inl rfl)

theorem startClaiming_changes (engine : AddressClaimEngine) (clock : ClaimClock)
    (autoArmTimer : Bool) :
    Changes (!autoArmTimer) clock.window engine (engine.startClaiming clock autoArmTimer).1
      (engine.startClaiming clock autoArmTimer).2.1 := by
  cases autoArmTimer with
  | false => exact .begun rfl nofun
  | true => exact .begun rfl (fun _ => rfl)

theorem loseContention_changes (engine : AddressClaimEngine) (clock : ClaimClock) :
    Changes unarmed clock.window engine (engine.loseContention clock).1
      (engine.loseContention clock).2.1 := by
  unfold loseContention
  split
  · dsimp only
    split
    · exact .moved rfl rfl
    · exact .gaveUp rfl rfl
  · exact .gaveUp rfl rfl

theorem handleContention_changes (engine : AddressClaimEngine) (clock : ClaimClock)
    (sourceAddress : Nat) (otherName : J1939Name) :
    Changes unarmed clock.window engine (engine.handleContention clock sourceAddress otherName).1
      (engine.handleContention clock sourceAddress otherName).2.1 := by
  unfold handleContention
  split
  · exact .same
  · dsimp only
    split
    · exact .defended rfl rfl (Or.inr rfl)
    · exact (loseContention_changes engine.cancelPendingClaimTimer clock).trans_same rfl rfl rfl

theorem handleClaim_changes (engine : AddressClaimEngine) (clock : ClaimClock)
    (sourceAddress : Nat) (otherName : J1939Name) :
    Changes unarmed clock.window engine (engine.handleClaim clock sourceAddress otherName).1
      (engine.handleClaim clock sourceAddress otherName).2.1 := by
  unfold handleClaim
  split
  · exact .same
  · rename_i counted passed
    obtain ⟨bucket, _, same⟩ := Option.map_eq_some_iff.mp passed
    rw [← same]
    exact (handleContention_changes _ clock sourceAddress otherName).trans_same rfl rfl rfl

theorem handleRxFrame_changes (engine : AddressClaimEngine) (clock : ClaimClock)
    (frame : CanFrame) :
    Changes false clock.window engine (engine.handleRxFrame clock frame).1
      (engine.handleRxFrame clock frame).2.1 := by
  unfold handleRxFrame
  split
  · exact .same
  · dsimp only
    split
    · exact .same
    · split
      · exact .same
      · split
        · unfold handleCommanded
          dsimp only
          split
          · exact .same
          · split
            · exact .same
            · exact (startClaiming_changes _ clock true).trans_same rfl rfl rfl
        · split
          · exact .same
          · split
            · exact .same
            · exact handleClaim_changes engine clock _ _

theorem cases_of_due {due : Prop} [Decidable due]
    (finalized : engine.finalizes event =
      (decide (engine.state = .claiming ∧ engine.currentAddress ≠ nullAddress) && decide due))
    (performed : perform engine event = if due then engine.finalizeClaim else (engine, [])) :
    (engine.finalizes event = true ∧ perform engine event =
        ({ engine with state := .claimed }, [.confirmed engine.currentAddress])) ∨
      (engine.finalizes event = false ∧
        Changes unarmed window engine (perform engine event).1 (perform engine event).2) := by
  rw [finalized, performed]
  by_cases arrived : due
  · rw [if_pos arrived]
    unfold finalizeClaim
    by_cases ready : engine.state = .claiming ∧ engine.currentAddress ≠ nullAddress
    · rw [if_pos ready]
      exact Or.inl ⟨by rw [decide_eq_true ready, decide_eq_true arrived]; rfl, rfl⟩
    · rw [if_neg ready]
      exact Or.inr ⟨by rw [decide_eq_false ready]; rfl, .same⟩
  · rw [if_neg arrived]
    exact Or.inr ⟨by rw [decide_eq_false arrived, Bool.and_false], .same⟩

theorem perform_cases (engine : AddressClaimEngine) (event : ClaimEvent) :
    (engine.finalizes event = true ∧ perform engine event =
        ({ engine with state := .claimed }, [.confirmed engine.currentAddress])) ∨
      (engine.finalizes event = false ∧ Changes event.unarmed event.clock.window engine
        (perform engine event).1 (perform engine event).2) := by
  obtain ⟨clock, op⟩ := event
  cases op with
  | setPreferredAddress address =>
      exact Or.inr ⟨Bool.and_false _, .kept rfl rfl (Or.inl rfl)⟩
  | startClaiming autoArmTimer =>
      exact Or.inr ⟨Bool.and_false _, startClaiming_changes engine clock autoArmTimer⟩
  | onClaimTransmitted =>
      refine Or.inr ⟨Bool.and_false _, ?_⟩
      unfold perform onClaimTransmitted
      dsimp only
      split
      · exact .kept rfl rfl (Or.inr rfl)
      · exact .same
  | onClaimTransmissionFailed =>
      refine Or.inr ⟨Bool.and_false _, ?_⟩
      unfold perform onClaimTransmissionFailed
      dsimp only
      split
      · exact .withdrawn rfl rfl
      · exact .kept rfl rfl (Or.inl rfl)
  | cancelPendingClaimTimer =>
      exact Or.inr ⟨Bool.and_false _, .kept rfl rfl (Or.inl rfl)⟩
  | handleRxFrame frame =>
      exact Or.inr ⟨Bool.and_false _, handleRxFrame_changes engine clock frame⟩
  | timer generation =>
      refine @cases_of_due _ _ _ _ (generation = engine.claimGeneration ∧
        engine.claimWindowDeadlineNs ≤ clock.now + claimToleranceNs) inferInstance rfl ?_
      unfold perform confirmClaimedGuarded
      dsimp only
      by_cases current : generation = engine.claimGeneration
      · by_cases early : clock.now + claimToleranceNs < engine.claimWindowDeadlineNs
        · rw [if_neg (not_not.mpr current), if_pos early,
            if_neg (fun due => Nat.not_le_of_lt early due.2)]
        · rw [if_neg (not_not.mpr current), if_neg early,
            if_pos ⟨current, Nat.le_of_not_lt early⟩]
      · rw [if_pos current, if_neg (fun due => current due.1)]
  | confirmClaimed =>
      refine @cases_of_due _ _ _ _ (engine.claimWindowDeadlineNs ≤ clock.now) inferInstance rfl ?_
      unfold perform confirmClaimed
      dsimp only
      by_cases early : clock.now < engine.claimWindowDeadlineNs
      · rw [if_pos early, if_neg (Nat.not_le_of_lt early)]
      · rw [if_neg early, if_pos (Nat.le_of_not_lt early)]

end Calls

structure ContendedBy (engine : AddressClaimEngine) (frame : CanFrame) : Prop where
  extended : frame.isExtended = true
  long : 8 ≤ frame.data.length
  claims : (parseJ1939Id frame.arbitrationId).pgn = pgnAddressClaim
  ours : (parseJ1939Id frame.arbitrationId).sourceAddress = engine.currentAddress
  lower : (J1939Name.fromBytes frame.data).toInt64 < engine.name.toInt64

def gateOpen (engine : AddressClaimEngine) (now : Nat) : Bool :=
  (nextBucket now (engine.claimRate.get? engine.currentAddress)).isSome

section Contention

variable {engine : AddressClaimEngine} {clock : ClaimClock} {frame : CanFrame}
  {sourceAddress : Nat} {otherName : J1939Name}

theorem contains_liveAddressTable {entry : ClaimEntry} (recorded : (sourceAddress, entry) ∈
    engine.addressTable) (scanned : clock.scan < entry.2) (viewed : clock.view < entry.2) :
    (engine.liveAddressTable clock).addressTable.contains sourceAddress = true := by
  have scan : (sourceAddress, entry) ∈ (engine.pruneAddressTable clock.scan).addressTable :=
    List.mem_filter.mpr ⟨recorded, decide_eq_true scanned⟩
  have view : (sourceAddress, entry) ∈ (engine.liveAddressTable clock).addressTable :=
    List.mem_filter.mpr ⟨scan, decide_eq_true viewed⟩
  exact Dict.contains_iff.mpr (Dict.mem_keys view)

theorem loseContention_leaves (notNull : engine.currentAddress ≠ nullAddress)
    (seen : (engine.liveAddressTable clock).addressTable.contains engine.currentAddress = true) :
    (engine.loseContention clock).1.currentAddress ≠ engine.currentAddress := by
  unfold loseContention
  split
  · dsimp only
    split
    · rename_i candidate found
      have free := List.find?_some found
      intro same
      change candidate = engine.currentAddress at same
      rw [same, seen] at free
      exact absurd free (by decide)
    · exact notNull.symm
  · exact notNull.symm

theorem handleContention_leaves (ours : sourceAddress = engine.currentAddress)
    (notNull : engine.currentAddress ≠ nullAddress)
    (lower : otherName.toInt64 < engine.name.toInt64)
    (seen : (engine.cancelPendingClaimTimer.liveAddressTable clock).addressTable.contains
      engine.currentAddress = true) :
    (engine.handleContention clock sourceAddress otherName).1.currentAddress ≠
      engine.currentAddress := by
  unfold handleContention
  have contends : ¬ (sourceAddress ≠ engine.currentAddress ∨ sourceAddress = nullAddress) := by
    rintro (other | null)
    · exact other ours
    · exact notNull (ours.symm.trans null)
  rw [if_neg contends]
  dsimp only
  rw [if_neg (Nat.not_lt_of_lt lower)]
  exact @loseContention_leaves engine.cancelPendingClaimTimer clock notNull seen

theorem handleRxFrame_leaves (contended : engine.ContendedBy frame) (ordered : clock.Ordered)
    (notNull : engine.currentAddress ≠ nullAddress) (passes : engine.gateOpen clock.now = true)
    (timely : clock.view < clock.now + addressTableTtlNs) :
    (engine.handleRxFrame clock frame).1.currentAddress ≠ engine.currentAddress := by
  obtain ⟨extended, long, claims, ours, lower⟩ := contended
  obtain ⟨bucket, next⟩ := Option.isSome_iff_exists.mp passes
  have handled : engine.handleRxFrame clock frame =
      engine.handleClaim clock engine.currentAddress (J1939Name.fromBytes frame.data) := by
    unfold handleRxFrame
    rw [if_neg (by rw [extended]; simp; omega)]
    dsimp only
    have notCommanded : ¬ (pgnAddressClaim = pgnCommandedAddress ∧ frame.data.length = 9) :=
      fun both => absurd both.1 (by decide)
    rw [claims, ours, if_neg (by decide), if_neg (by omega), if_neg notCommanded,
      if_neg (not_not.mpr rfl), if_neg (Nat.ne_of_lt lower)]
  rw [handled]
  unfold handleClaim checkClaimRateLimit
  rw [next]
  dsimp only [Option.map_some]
  refine handleContention_leaves rfl notNull lower ?_
  refine contains_liveAddressTable (Dict.mem_of_get? (Dict.get?_set_self _ _ _)) ?_ timely
  exact Nat.lt_of_le_of_lt ordered.2.1 timely

end Contention

end AddressClaimEngine

section Runs

open AddressClaimEngine

variable {used next : ClaimUse} {event : ClaimEvent} {events : List ClaimEvent}
  {name : J1939Name} {preferredAddress : Nat} {channel : ChannelId}

theorem operate_some (operated : operate used event = some next) :
    used.time ≤ event.clock.now ∧ event.clock.Ordered ∧ next.time = event.clock.window ∧
      next.engine = (perform used.engine event).1 ∧
      next.notes = ((perform used.engine event).2.map
        (fun note => (event.clock.now, note))).reverse ++ used.notes := by
  unfold operate at operated
  split at operated
  · rename_i runs
    cases operated
    exact ⟨runs.1, runs.2, rfl, rfl, rfl⟩
  · cases operated

def NullUnclaimed (engine : AddressClaimEngine) : Prop :=
  ¬ (engine.state = .claimed ∧ engine.currentAddress = nullAddress)

theorem NullUnclaimed.changes {before after : AddressClaimEngine} {notes : List ClaimNote}
    {unarmed : Bool} {window : Nat} (safe : NullUnclaimed before)
    (changes : Changes unarmed window before after notes) : NullUnclaimed after := by
  rintro ⟨claimed, null⟩
  cases changes with
  | kept state address _ => exact safe ⟨state.symm.trans claimed, address.symm.trans null⟩
  | withdrawn state _ => exact absurd (state.symm.trans claimed) (by decide)
  | defended state address _ => exact safe ⟨state.symm.trans claimed, address.symm.trans null⟩
  | begun state _ => exact absurd (state.symm.trans claimed) (by decide)
  | moved state _ => exact absurd (state.symm.trans claimed) (by decide)
  | gaveUp state _ => exact absurd (state.symm.trans claimed) (by decide)

theorem NullUnclaimed.perform {engine : AddressClaimEngine} (safe : NullUnclaimed engine)
    (event : ClaimEvent) : NullUnclaimed (perform engine event).1 := by
  rcases perform_cases engine event with ⟨finalized, performed⟩ | ⟨_, changes⟩
  · rw [performed]
    rintro ⟨_, null⟩
    exact (of_decide_eq_true ((Bool.and_eq_true _ _).mp finalized).1).2 null
  · exact safe.changes changes

/-- In every run the null address is never claimed; and from any state at all, a
claim of our address by a lower NAME that passes the gate drives us off it. -/
theorem contention_safe
    (ran : run operate (ClaimUse.start name preferredAddress channel) events = some used) :
    ¬ (used.engine.state = .claimed ∧ used.engine.currentAddress = nullAddress) ∧
      ∀ (engine : AddressClaimEngine) (clock : ClaimClock) (frame : CanFrame),
        engine.ContendedBy frame → clock.Ordered → engine.currentAddress ≠ nullAddress →
        engine.gateOpen clock.now = true → clock.view < clock.now + addressTableTtlNs →
          (engine.handleRxFrame clock frame).1.currentAddress ≠ engine.currentAddress := by
  have kept (state : ClaimUse) (event : ClaimEvent) (next : ClaimUse)
      (safe : NullUnclaimed state.engine) (operated : operate state event = some next) :
      NullUnclaimed next.engine := by
    rw [(operate_some operated).2.2.2.1]
    exact safe.perform event
  have initial : NullUnclaimed (ClaimUse.start name preferredAddress channel).engine :=
    fun both => nomatch both.1
  exact ⟨run_invariant kept initial ran, fun engine clock frame => handleRxFrame_leaves⟩

end Runs

/-- A diagnostic tool that takes any address; the number decides among several. -/
def toolFields (identityNumber : Nat) : NameFields where
  arbitraryAddressCapable := true
  industryGroup := 1
  vehicleSystemInstance := 0
  vehicleSystem := 0
  function := 128
  identityNumber := identityNumber

def toolName : J1939Name := ⟨toolFields 100, by decide⟩

def lowerName : J1939Name := ⟨toolFields 50, by decide⟩

def higherName : J1939Name := ⟨toolFields 200, by decide⟩

def claimChannel : ChannelId := ⟨"can0", can0_valid⟩

def claimOf (name : J1939Name) (address : Nat) : CanFrame :=
  (AddressClaimEngine.init name address claimChannel).claimFrame address

def toolStart : ClaimUse := ClaimUse.start toolName defaultPreferredAddress claimChannel

def claimedEvents : List ClaimEvent :=
  [⟨ClaimClock.at 0, .startClaiming true⟩, ⟨ClaimClock.at 250000000, .timer 1⟩]

def useAfter (events : List ClaimEvent) : ClaimUse := (run operate toolStart events).getD toolStart

theorem contention_safe_taken : run operate toolStart claimedEvents = some (useAfter claimedEvents) ∧
    (useAfter claimedEvents).engine.isAddressClaimed = true ∧
    ((useAfter claimedEvents).engine.handleRxFrame (ClaimClock.at 300000000)
      (claimOf lowerName 0xF9)).1.currentAddress ≠ (useAfter claimedEvents).engine.currentAddress := by
  have ran : run operate toolStart claimedEvents = some (useAfter claimedEvents) := by decide
  have contended : (useAfter claimedEvents).engine.ContendedBy (claimOf lowerName 0xF9) :=
    ⟨by decide, by decide, by decide, by decide, by decide⟩
  exact ⟨ran, by decide, (contention_safe ran).2 _ _ _ contended (by decide) (by decide)
    (by decide) (by decide)⟩

def floodEvents : List ClaimEvent :=
  claimedEvents ++ (List.range 8).map (fun index =>
    ⟨ClaimClock.at (300000000 + index), .handleRxFrame (claimOf higherName 0xF9)⟩)

/-- The ninth claim of the address in a second is dropped, also by a lower NAME. -/
theorem flood_keeps_address : run operate toolStart floodEvents = some (useAfter floodEvents) ∧
    (useAfter floodEvents).engine.ContendedBy (claimOf lowerName 0xF9) ∧
    (useAfter floodEvents).engine.currentAddress ≠ nullAddress ∧
    ((useAfter floodEvents).engine.handleRxFrame (ClaimClock.at 300000008)
      (claimOf lowerName 0xF9)).1.currentAddress = (useAfter floodEvents).engine.currentAddress :=
  ⟨by decide +kernel, ⟨by decide +kernel, by decide +kernel, by decide +kernel, by decide +kernel,
    by decide +kernel⟩, by decide +kernel, by decide +kernel⟩

end Ucanlab.J1939

/-!
The claim window over whole runs: an address is claimed for good only behind its
own window. A claim that begins without its timer is measured against the deadline
of an earlier one.
-/

namespace Ucanlab.J1939

open Ucanlab EventRun AddressClaimEngine

/-- When the claim for the address in progress was started, in notes with the latest
one first; `none` where contention was lost since, or another claim started. -/
def begunAt (address : Nat) : List (Nat × ClaimNote) → Option Nat
  | [] => none
  | (time, note) :: older =>
      match note with
      | .broadcast other | .fallback other => if other = address then some time else none
      | .lost _ => none
      | .defended _ | .confirmed _ => begunAt address older

def Elapsed (start now : Nat) : Prop := start + claimConfirmWindowNs ≤ now + claimToleranceNs

/-- Where the call brings the engine to a claimed address, the claim for this very
address was started a window ago, and no contention was lost since. -/
def ReachesInTime (used : ClaimUse) (event : ClaimEvent) : Prop :=
  used.engine.state ≠ .claimed → (perform used.engine event).1.state = .claimed →
    ∃ start, begunAt (perform used.engine event).1.currentAddress used.notes = some start ∧
      Elapsed start event.clock.now

/-- A call that completes a claim on a deadline set before the claim was started
comes no sooner than the claim's own window ends. -/
def OwnDeadline (used : ClaimUse) (event : ClaimEvent) : Prop :=
  used.engine.finalizes event = true →
    ∀ start, begunAt used.engine.currentAddress used.notes = some start →
      used.engine.claimWindowDeadlineNs < start + claimConfirmWindowNs →
        Elapsed start event.clock.now

def Begun (used : ClaimUse) : Prop :=
  used.engine.state = .claiming →
    ∃ start, begunAt used.engine.currentAddress used.notes = some start

section Window

variable {used next : ClaimUse} {event : ClaimEvent} {before after : AddressClaimEngine}
  {notes : List (Nat × ClaimNote)} {added : List ClaimNote} {time window start : Nat}
  {unarmed : Bool}

def noted (time : Nat) (added : List ClaimNote) (notes : List (Nat × ClaimNote)) :
    List (Nat × ClaimNote) :=
  (added.map (fun note => (time, note))).reverse ++ notes

/-- A claim in progress behind a call was started by it, with its window armed unless
the call leaves that for later, or was in progress before. -/
theorem begunAt_of_changes (changes : Changes unarmed window before after added)
    (claiming : after.state = .claiming) :
    (begunAt after.currentAddress (noted time added notes) = some time ∧
        (unarmed = false → after.claimWindowDeadlineNs = window + claimConfirmWindowNs)) ∨
      (before.state = .claiming ∧ begunAt after.currentAddress (noted time added notes) =
          begunAt before.currentAddress notes ∧ Rearmed window before after) := by
  cases changes with
  | kept state address deadline =>
      refine Or.inr ⟨state.symm.trans claiming, ?_, deadline⟩
      rw [address]
      rfl
  | withdrawn state _ => exact absurd (state.symm.trans claiming) (by decide)
  | defended state address deadline =>
      refine Or.inr ⟨state.symm.trans claiming, ?_, deadline⟩
      rw [address]
      rfl
  | begun _ armed => exact Or.inl ⟨if_pos rfl, armed⟩
  | moved _ armed => exact Or.inl ⟨if_pos rfl, fun _ => armed⟩
  | gaveUp state _ => exact absurd (state.symm.trans claiming) (by decide)

theorem begun_kept (begun : Begun used) (operated : operate used event = some next) :
    Begun next := by
  obtain ⟨_, _, _, engine, notes⟩ := operate_some operated
  intro claiming
  rw [engine] at claiming ⊢
  rw [notes]
  rcases perform_cases used.engine event with ⟨_, performed⟩ | ⟨_, changes⟩
  · rw [performed] at claiming
    cases claiming
  · have either := @begunAt_of_changes _ _ used.notes _ event.clock.now _ _ changes claiming
    rcases either with ⟨now, _⟩ | ⟨already, same, _⟩
    · exact ⟨_, now⟩
    · obtain ⟨start, earlier⟩ := begun already
      exact ⟨start, same.trans earlier⟩

theorem elapsed_of_finalizes {engine : AddressClaimEngine} (finalized : engine.finalizes event = true)
    (own : start + claimConfirmWindowNs ≤ engine.claimWindowDeadlineNs) :
    Elapsed start event.clock.now := by
  have due : engine.claimWindowDeadlineNs ≤ event.clock.now + claimToleranceNs := by
    have second := ((Bool.and_eq_true _ _).mp finalized).2
    split at second
    · exact (of_decide_eq_true second).2
    · exact Nat.le_trans (of_decide_eq_true second) (Nat.le_add_right _ _)
    · cases second
  exact Nat.le_trans own due

theorem reachesInTime_iff (begun : Begun used) : ReachesInTime used event ↔ OwnDeadline used event := by
  constructor
  · intro reaches finalized start earlier _
    have ready := of_decide_eq_true ((Bool.and_eq_true _ _).mp finalized).1
    rcases perform_cases used.engine event with ⟨_, performed⟩ | ⟨idle, _⟩
    · unfold ReachesInTime at reaches
      rw [performed] at reaches
      obtain ⟨other, same, elapsed⟩ := reaches (by rw [ready.1]; decide) rfl
      rw [earlier] at same
      cases same
      exact elapsed
    · rw [finalized] at idle
      cases idle
  · intro own unclaimed claimed
    rcases perform_cases used.engine event with ⟨finalized, performed⟩ | ⟨_, changes⟩
    · have ready := of_decide_eq_true ((Bool.and_eq_true _ _).mp finalized).1
      obtain ⟨start, earlier⟩ := begun ready.1
      rw [performed]
      refine ⟨start, earlier, ?_⟩
      by_cases stale : used.engine.claimWindowDeadlineNs < start + claimConfirmWindowNs
      · exact own finalized start earlier stale
      · exact elapsed_of_finalizes finalized (Nat.le_of_not_lt stale)
    · generalize (perform used.engine event).2 = added at changes
      cases changes with
      | kept state _ _ => exact absurd (state.symm.trans claimed) unclaimed
      | withdrawn state _ => exact absurd (state.symm.trans claimed) (by decide)
      | defended state _ _ => exact absurd (state.symm.trans claimed) unclaimed
      | begun state _ => exact absurd (state.symm.trans claimed) (by decide)
      | moved state _ => exact absurd (state.symm.trans claimed) (by decide)
      | gaveUp state _ => exact absurd (state.symm.trans claimed) (by decide)

end Window

section Runs

variable {name : J1939Name} {preferredAddress : Nat} {channel : ChannelId}
  {events : List ClaimEvent} {last : ClaimUse}

theorem begun_start : Begun (ClaimUse.start name preferredAddress channel) := fun claiming =>
  nomatch claiming

/-- In every run, all addresses are claimed in time if and only if no call completes
a claim in its window on the deadline of an earlier one. -/
theorem claims_in_time_iff (name : J1939Name) (preferredAddress : Nat) (channel : ChannelId)
    (events : List ClaimEvent) :
    Meets operate ReachesInTime (ClaimUse.start name preferredAddress channel) events ↔
      Meets operate OwnDeadline (ClaimUse.start name preferredAddress channel) events := by
  have kept {condition : ClaimUse → ClaimEvent → Prop} (state : ClaimUse) (event : ClaimEvent)
      (next : ClaimUse) (begun : Begun state) (_ : condition state event)
      (operated : operate state event = some next) : Begun next :=
    begun_kept begun operated
  constructor
  · intro reaches
    exact (reaches.with_invariant kept begun_start).imp
      fun _ _ both => (reachesInTime_iff both.1).mp both.2
  · intro own
    exact (own.with_invariant kept begun_start).imp
      fun _ _ both => (reachesInTime_iff both.1).mpr both.2

end Runs

def unarmedStart : ClaimEvent := ⟨ClaimClock.at 0, .startClaiming false⟩

def earlyConfirm : ClaimEvent := ⟨ClaimClock.at 1, .confirmClaimed⟩

/-- The deadline of an engine that never armed its timer is zero, and a claim that was
started without it is confirmed at once. -/
theorem unarmed_claim_skips_window :
    (run operate toolStart [unarmedStart, earlyConfirm]).map
        (fun used => used.engine.isAddressClaimed) = some true ∧
      ¬ Meets operate ReachesInTime toolStart [unarmedStart, earlyConfirm] := by
  refine ⟨by decide, fun meets => ?_⟩
  have started : operate toolStart unarmedStart = some (useAfter [unarmedStart]) := by decide
  obtain ⟨reaches, _⟩ := meets.2 _ started
  obtain ⟨start, begun, elapsed⟩ := reaches (by decide) (by decide)
  have zero : begunAt defaultPreferredAddress (useAfter [unarmedStart]).notes = some 0 := by decide
  cases zero.symm.trans begun
  unfold Elapsed claimConfirmWindowNs claimToleranceNs at elapsed
  exact absurd elapsed (by decide)

end Ucanlab.J1939
