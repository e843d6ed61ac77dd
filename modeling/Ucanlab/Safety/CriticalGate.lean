import Ucanlab.Safety.Sealing
import Ucanlab.Safety.SingleUse

/-!
The gate of critical frames over whole runs: what was known of the physical
speed and of the confirmation when a critical frame was validated, and that
updates of the display mirror change nothing but the mirror.
-/

namespace Ucanlab.Safety

open Ucanlab E2E EventRun

section Samples

/-- The sample a step records for the interlock, with its time. -/
def World.sampleOf (world : World) : Event → Option (SpeedValue × Nat)
  | .updateSpeed speed source =>
      if source = "physical" then some (speed, world.now) else none
  | _ => none

/-- The physical samples a run records, the latest first. -/
def physicalSamples (digests : Digests) : World → List Event → List (SpeedValue × Nat)
  | _, [] => []
  | world, event :: rest =>
      match world.step digests event with
      | none => []
      | some next => physicalSamples digests next rest ++ (world.sampleOf event).toList

def SpeedChannel.Shows (channel : SpeedChannel) : List (SpeedValue × Nat) → Prop
  | [] => channel.lastUpdateNs = 0
  | (speed, time) :: _ =>
      channel.physicalKmh = (if speed.credible then speed else .nan) ∧
        channel.lastUpdateNs = if speed.credible then time else 0

theorem perform_speed (gateway : Gateway) {op : GatewayOp}
    (other : ∀ speed source now, op ≠ .updateVehicleSpeed speed source now) :
    (gateway.perform op).speed = gateway.speed := by
  cases op with
  | updateVehicleSpeed speed source now => exact absurd rfl (other speed source now)
  | rebindWhitelist change =>
      exact rebindWhitelist_keeps gateway change Gateway.speed (fun _ _ _ => rfl)
  | notifyLinkFault kind plane =>
      exact notifyLinkFault_keeps gateway kind plane Gateway.speed (fun _ _ => rfl)
  | _ => rfl

/-- Only `update_vehicle_speed` touches the speed channels. -/
theorem speed_step {digests : Digests} {world next : World} {event : Event}
    (stepped : world.step digests event = some next)
    (other : ∀ speed source, event ≠ .updateSpeed speed source) :
    next.gateway.speed = world.gateway.speed := by
  cases kind : World.isCallStep event with
  | false =>
      obtain ⟨ops, performed, origins⟩ := World.step_performs stepped kind
      rw [performed]
      apply performAll_keeps _ Gateway.speed
      intro gateway op member
      apply perform_speed
      intro speed source now same
      have origin := origins op member
      rw [same] at origin
      exact other speed source origin
  | true =>
      cases event with
      | validate id owner request clock =>
          obtain ⟨_, _, ⟨_, refused, rfl⟩ | ⟨gateway, _, passed, rfl⟩⟩ :=
            World.step_validate stepped
          · exact (validateLocked_error refused).frame.keeps Gateway.speed
              (fun _ _ _ _ _ _ => rfl)
          · obtain ⟨facts⟩ := validateLocked_ok passed
            change gateway.speed = world.gateway.speed
            rw [facts.result, burn_keeps _ _ _ Gateway.speed (fun _ => rfl)]
            exact facts.frame.keeps Gateway.speed (fun _ _ _ _ _ _ => rfl)
      | guard id =>
          obtain ⟨_, _, _, rfl⟩ := World.step_guard stepped
          rfl
      | dispatch id =>
          obtain ⟨_, _, _, _, ⟨_, rfl⟩ | ⟨_, rfl⟩⟩ := World.step_dispatch stepped
          · rfl
          · rfl
      | rollback id =>
          obtain ⟨_, _, _, _, rfl⟩ := World.step_rollback stepped
          rfl
      | _ => cases kind

theorem shows_step {digests : Digests} {world next : World} {event : Event}
    {samples : List (SpeedValue × Nat)} (stepped : world.step digests event = some next)
    (shows : world.gateway.speed.Shows samples) :
    next.gateway.speed.Shows ((world.sampleOf event).toList ++ samples) := by
  by_cases update : ∃ speed source, event = .updateSpeed speed source
  · obtain ⟨speed, source, rfl⟩ := update
    cases stepped
    by_cases physical : source = "physical"
    · subst physical
      exact world.gateway.speed.update_physical speed world.now
    · have nothing : world.sampleOf (.updateSpeed speed source) = none := if_neg physical
      obtain ⟨sameSpeed, sameTime⟩ := world.gateway.speed.update_other speed physical world.now
      rw [nothing, Option.toList_none, List.nil_append]
      change (world.gateway.speed.update speed source world.now).Shows samples
      cases samples with
      | nil => exact sameTime.trans shows
      | cons latest older => exact ⟨sameSpeed.trans shows.1, sameTime.trans shows.2⟩
  · have other : ∀ speed source, event ≠ .updateSpeed speed source :=
      fun speed source same => update ⟨speed, source, same⟩
    have nothing : world.sampleOf event = none := by
      cases event with
      | updateSpeed speed source => exact absurd rfl (other speed source)
      | _ => rfl
    rw [nothing, speed_step stepped other]
    exact shows

theorem shows_run {digests : Digests} {world last : World} {events : List Event}
    {samples : List (SpeedValue × Nat)} (ran : run (World.step digests) world events = some last)
    (shows : world.gateway.speed.Shows samples) :
    last.gateway.speed.Shows (physicalSamples digests world events ++ samples) := by
  induction events generalizing world samples with
  | nil =>
      cases ran
      exact shows
  | cons event rest ih =>
      obtain ⟨next, stepped, tail⟩ := run_cons_some ran
      have later := ih tail (shows_step stepped shows)
      rw [← List.append_assoc] at later
      simpa only [physicalSamples, stepped] using later

theorem sample_of_speedStage {channel : SpeedChannel} {now : Nat}
    {samples : List (SpeedValue × Nat)} (shows : channel.Shows samples)
    (passed : speedStage channel now = none) :
    ∃ value time older, samples = (.finite value, time) :: older ∧ 0 ≤ value ∧
      value ≤ speedNoiseThresholdKmh ∧ now - time ≤ speedValidityTimeoutNs := by
  have checks : channel.isStale now speedValidityTimeoutNs = false ∧ channel.isMoving = false := by
    unfold speedStage at passed
    split at passed
    · cases passed
    · rename_i fresh
      split at passed
      · cases passed
      · rename_i still
        exact ⟨by simpa using fresh, by simpa using still⟩
  have standstill := channel.standstill_of_checks now checks.1 checks.2
  cases samples with
  | nil => exact absurd shows standstill.recorded
  | cons latest older =>
      obtain ⟨speed, time⟩ := latest
      obtain ⟨shown, recorded⟩ := shows
      cases credible : speed.credible with
      | false =>
          rw [credible] at recorded
          exact absurd recorded standstill.recorded
      | true =>
          rw [credible, if_pos rfl] at shown recorded
          obtain ⟨value, reading, above, below⟩ := standstill.slow
          have fresh := standstill.fresh
          rw [recorded] at fresh
          rw [shown] at reading
          subst reading
          exact ⟨value, time, older, rfl, above, below, fresh⟩

end Samples

section Display

def Gateway.withSpeed (gateway : Gateway) (channel : SpeedChannel) : Gateway :=
  { gateway with speed := channel }

def Rejection.withSpeed (rejection : Rejection) (channel : SpeedChannel) : Rejection :=
  { rejection with gateway := rejection.gateway.withSpeed channel }

def World.withSpeed (world : World) (channel : SpeedChannel) : World :=
  { world with gateway := world.gateway.withSpeed channel }

/-- The interlock cannot tell the two channels apart. -/
structure SpeedChannel.SamePhysical (left right : SpeedChannel) : Prop where
  physicalKmh : left.physicalKmh = right.physicalKmh
  lastUpdateNs : left.lastUpdateNs = right.lastUpdateNs

variable {gateway : Gateway} {channel : SpeedChannel}

theorem speedStage_congr {left right : SpeedChannel} (same : left.SamePhysical right) (now : Nat) :
    speedStage left now = speedStage right now := by
  unfold speedStage SpeedChannel.isStale SpeedChannel.isMoving
  rw [same.physicalKmh, same.lastUpdateNs]

theorem whitelistStage_withSpeed (frame : CanFrame) (now : Nat) :
    whitelistStage (gateway.withSpeed channel) frame now =
      (whitelistStage gateway frame now).map (fun rejection => rejection.withSpeed channel) := by
  unfold whitelistStage
  simp only [apply_ite (Option.map (fun rejection => Rejection.withSpeed rejection channel)),
    Option.map_none, Option.map_some]
  rfl

theorem admission_withSpeed {digests : Digests} {plane : TxPlane} {clock : Clock}
    {request : TxRequest} {critical : Bool} (same : channel.SamePhysical gateway.speed) :
    admission digests (gateway.withSpeed channel) plane clock request critical =
      (admission digests gateway plane clock request critical).mapError
        (fun rejection => rejection.withSpeed channel) := by
  have interlock : speedStage (gateway.withSpeed channel).speed clock.start =
      speedStage gateway.speed clock.start := speedStage_congr same clock.start
  have confirmation : confirmationStage digests (gateway.withSpeed channel) request clock.verify =
      confirmationStage digests gateway request clock.verify := rfl
  unfold admission
  rw [whitelistStage_withSpeed, interlock, confirmation]
  dsimp only [Gateway.withSpeed]
  split
  · rfl
  · split
    · rfl
    · split
      · rfl
      · cases whitelistStage gateway request.frame clock.start with
        | some rejection => rfl
        | none =>
            dsimp only [Option.map_none]
            split
            · rfl
            · split
              · rfl
              · split <;> rfl

def outcomeWithSpeed {Value : Type} (channel : SpeedChannel) :
    Except Rejection (Gateway × Value) → Except Rejection (Gateway × Value)
  | .error rejection => .error (rejection.withSpeed channel)
  | .ok (after, value) => .ok (after.withSpeed channel, value)

theorem laneStage_withSpeed (lane : Lane) (totalStamp : SlidingWindow.Stamp) (clock : Clock)
    (owner : Nat) (inbound : Bool) :
    laneStage (gateway.withSpeed channel) lane totalStamp clock owner inbound =
      outcomeWithSpeed channel (laneStage gateway lane totalStamp clock owner inbound) := by
  unfold laneStage
  simp only [apply_ite (outcomeWithSpeed channel)]
  rfl

theorem rateStage_withSpeed (clock : Clock) (owner : Nat) (request : TxRequest) :
    rateStage (gateway.withSpeed channel) clock owner request =
      outcomeWithSpeed channel (rateStage gateway clock owner request) := by
  unfold rateStage
  cases Lane.ofCategory request.budgetCategory with
  | none => rfl
  | some lane =>
      simp only [apply_ite (outcomeWithSpeed channel), ← laneStage_withSpeed]
      rfl

theorem sealStage_withSpeed (frame : CanFrame) :
    (gateway.withSpeed channel).sealStage frame =
      ((gateway.sealStage frame).1.withSpeed channel, (gateway.sealStage frame).2) := by
  unfold Gateway.sealStage
  dsimp only [Gateway.withSpeed]
  split <;> rfl

theorem burn_withSpeed (pending : Option (Bytes × Nat)) (now : Nat) :
    (gateway.withSpeed channel).burn pending now = (gateway.burn pending now).withSpeed channel := by
  unfold Gateway.burn
  split <;> rfl

theorem validateLocked_withSpeed {digests : Digests} {plane : TxPlane} {clock : Clock}
    {owner : Nat} {request : TxRequest} (same : channel.SamePhysical gateway.speed) :
    (gateway.withSpeed channel).validateLocked digests plane clock owner request =
      outcomeWithSpeed channel
        (gateway.validateLocked digests plane clock owner request) := by
  have treated : isTreatedCritical (gateway.withSpeed channel) request =
      isTreatedCritical gateway request := rfl
  unfold Gateway.validateLocked
  dsimp only
  rw [treated, admission_withSpeed same, rateStage_withSpeed]
  cases admission digests gateway plane clock request (isTreatedCritical gateway request) with
  | error rejection => rfl
  | ok pending =>
      cases rateStage gateway clock owner request with
      | error rejection => rfl
      | ok result =>
          obtain ⟨charged, charge⟩ := result
          dsimp only [Except.mapError, outcomeWithSpeed]
          rw [sealStage_withSpeed]
          obtain ⟨counted, stamped⟩ := charged.sealStage request.frame
          cases stamped with
          | error cause => rfl
          | ok frame =>
              dsimp only
              rw [burn_withSpeed]

theorem rebindWhitelist_withSpeed (change : WhitelistChange) :
    (gateway.withSpeed channel).rebindWhitelist change =
      ((gateway.rebindWhitelist change).1.withSpeed channel,
        (gateway.rebindWhitelist change).2) := by
  unfold Gateway.rebindWhitelist
  dsimp only [Gateway.withSpeed]
  split <;> rfl

theorem notifyLinkFault_withSpeed (kind : LinkFaultKind) (plane : TxPlane) :
    (gateway.withSpeed channel).notifyLinkFault kind plane =
      ((gateway.notifyLinkFault kind plane).1.withSpeed channel,
        (gateway.notifyLinkFault kind plane).2) := by
  have latches : (gateway.withSpeed channel).currentLatches plane.estop =
      gateway.currentLatches plane.estop := rfl
  unfold Gateway.notifyLinkFault
  dsimp only
  rw [latches]
  split <;> rfl

namespace World

def SameButDisplay (left right : World) : Prop :=
  ∃ channel, channel.SamePhysical left.gateway.speed ∧ right = left.withSpeed channel

theorem SameButDisplay.refl (world : World) : world.SameButDisplay world :=
  ⟨world.gateway.speed, ⟨rfl, rfl⟩, rfl⟩

theorem SameButDisplay.symm {left right : World} (same : left.SameButDisplay right) :
    right.SameButDisplay left := by
  obtain ⟨channel, physical, rfl⟩ := same
  exact ⟨left.gateway.speed, ⟨physical.physicalKmh.symm, physical.lastUpdateNs.symm⟩, rfl⟩

theorem SameButDisplay.trans {left middle right : World} (first : left.SameButDisplay middle)
    (second : middle.SameButDisplay right) : left.SameButDisplay right := by
  obtain ⟨near, nearSame, rfl⟩ := first
  obtain ⟨far, farSame, rfl⟩ := second
  exact ⟨far, ⟨farSame.physicalKmh.trans nearSame.physicalKmh,
    farSame.lastUpdateNs.trans nearSame.lastUpdateNs⟩, rfl⟩

def isDisplayUpdate : Event → Bool
  | .updateSpeed _ source => source != "physical"
  | _ => false

theorem displayUpdate_step {digests : Digests} {world next : World} {event : Event}
    (display : isDisplayUpdate event = true) (stepped : world.step digests event = some next) :
    world.SameButDisplay next := by
  cases event with
  | updateSpeed speed source =>
      cases stepped
      have other : source ≠ "physical" := by simpa [isDisplayUpdate] using display
      obtain ⟨sameSpeed, sameTime⟩ := world.gateway.speed.update_other speed other world.now
      exact ⟨world.gateway.speed.update speed source world.now, ⟨sameSpeed, sameTime⟩, rfl⟩
  | _ => cases display

theorem validate_withSpeed {digests : Digests} {world : World} {channel : SpeedChannel}
    (same : channel.SamePhysical world.gateway.speed) (id owner : Nat) (request : TxRequest)
    (clock : Clock) :
    (world.withSpeed channel).validate digests id owner request clock =
      (world.validate digests id owner request clock).map (fun next => next.withSpeed channel) := by
  have locked : (world.withSpeed channel).gateway.validateLocked digests
      (world.withSpeed channel).plane clock owner request =
      outcomeWithSpeed channel
        (world.gateway.validateLocked digests world.plane clock owner request) :=
    validateLocked_withSpeed same
  unfold World.validate
  rw [locked]
  rw [apply_ite (Option.map (fun next : World => next.withSpeed channel))]
  cases world.gateway.validateLocked digests world.plane clock owner request with
  | error rejection => rfl
  | ok result => rfl

theorem runCallback_withSpeed (world : World) (channel : SpeedChannel) (scheduled : Callback) :
    (world.withSpeed channel).runCallback scheduled =
      (world.runCallback scheduled).withSpeed channel := by
  cases scheduled with
  | estopSupervisor =>
      simp only [runCallback]
      cases present : world.supervisor with
      | none =>
          have other : (world.withSpeed channel).supervisor = none := present
          rw [other]
      | some supervisor =>
          have other : (world.withSpeed channel).supervisor = some supervisor := present
          rw [other]
          dsimp only
          rw [apply_ite (fun next : World => next.withSpeed channel)]
          rfl
  | _ => rfl

theorem step_withSpeed {digests : Digests} {world : World} {channel : SpeedChannel}
    (same : channel.SamePhysical world.gateway.speed) {event : Event}
    (other : ∀ speed source, event ≠ .updateSpeed speed source) :
    (world.withSpeed channel).step digests event =
      (world.step digests event).map (fun next => next.withSpeed channel) := by
  cases event with
  | validate id owner request clock => exact validate_withSpeed same id owner request clock
  | guard id =>
      simp only [step, guard]
      rw [show (world.withSpeed channel).calls id = world.calls id from rfl]
      cases world.calls id with
      | none => rfl
      | some call =>
          dsimp only
          rw [apply_ite (Option.map (fun next : World => next.withSpeed channel))]
          rfl
  | dispatch id =>
      simp only [step, dispatch]
      rw [show (world.withSpeed channel).calls id = world.calls id from rfl]
      cases world.calls id with
      | none => rfl
      | some call =>
          dsimp only
          simp only [apply_ite (Option.map (fun next : World => next.withSpeed channel))]
          rfl
  | rollback id =>
      simp only [step, rollback]
      rw [show (world.withSpeed channel).calls id = world.calls id from rfl]
      cases world.calls id with
      | none => rfl
      | some call =>
          dsimp only
          cases call.stage <;> rfl
  | fire index nonce =>
      simp only [step, fire]
      rw [show (world.withSpeed channel).parked[index]? = world.parked[index]? from rfl]
      cases world.parked[index]? <;> rfl
  | callback index =>
      simp only [step, callback]
      rw [show (world.withSpeed channel).callbacks[index]? = world.callbacks[index]? from rfl]
      cases world.callbacks[index]? with
      | none => rfl
      | some scheduled =>
          exact congrArg some (runCallback_withSpeed
            { world with callbacks := world.callbacks.eraseIdx index } channel scheduled)
  | resetPublish =>
      simp only [step, resetPublish]
      rw [apply_ite (Option.map (fun next : World => next.withSpeed channel))]
      rfl
  | rebindBus bus =>
      simp only [step, rebindBus]
      rw [apply_ite (Option.map (fun next : World => next.withSpeed channel))]
      rfl
  | rebindWhitelist change =>
      simp only [step, rebindWhitelist]
      rw [apply_ite (Option.map (fun next : World => next.withSpeed channel))]
      change (if world.rebinding then none else some { world.withSpeed channel with
        gateway := ((world.gateway.withSpeed channel).rebindWhitelist change).1
        rebinding := ((world.gateway.withSpeed channel).rebindWhitelist change).2.isNone }) = _
      rw [rebindWhitelist_withSpeed]
      rfl
  | rebindPublish =>
      simp only [step, rebindPublish]
      rw [apply_ite (Option.map (fun next : World => next.withSpeed channel))]
      rfl
  | transition target reason =>
      simp only [step, transition]
      rw [show (world.withSpeed channel).supervisor = world.supervisor from rfl]
      cases world.supervisor <;> rfl
  | triggerFault reason =>
      simp only [step, triggerFault]
      rw [show (world.withSpeed channel).supervisor = world.supervisor from rfl]
      cases world.supervisor <;> rfl
  | notifyLinkFault kind reason =>
      simp only [step, notifyLinkFault]
      change some ({ world.withSpeed channel with
        gateway := ((world.gateway.withSpeed channel).notifyLinkFault kind world.plane).1
        parked :=
          if ((world.gateway.withSpeed channel).notifyLinkFault kind world.plane).2 then
            world.parked ++ [{ trigger := kind.source, reason := .reported reason }]
          else world.parked } : World) = _
      rw [notifyLinkFault_withSpeed]
      rfl
  | updateSpeed speed source => exact absurd rfl (other speed source)
  | _ => rfl

theorem sameButDisplay_step {digests : Digests} {left right next : World} {event : Event}
    (same : left.SameButDisplay right) (physical : isDisplayUpdate event = false)
    (stepped : left.step digests event = some next) :
    ∃ next', right.step digests event = some next' ∧ next.SameButDisplay next' := by
  obtain ⟨channel, alike, rfl⟩ := same
  by_cases update : ∃ speed source, event = .updateSpeed speed source
  · obtain ⟨speed, source, rfl⟩ := update
    cases stepped
    have source_eq : source = "physical" := by simpa [isDisplayUpdate] using physical
    subst source_eq
    have forgets : channel.update speed "physical" left.now =
        left.gateway.speed.update speed "physical" left.now := rfl
    refine ⟨_, rfl, left.gateway.speed.update speed "physical" left.now, ⟨rfl, rfl⟩, ?_⟩
    rw [← forgets]
    rfl
  · have other : ∀ speed source, event ≠ .updateSpeed speed source :=
      fun speed source same => update ⟨speed, source, same⟩
    refine ⟨next.withSpeed channel, ?_, channel, ?_, rfl⟩
    · rw [step_withSpeed alike other, stepped]
      rfl
    · rw [speed_step stepped other]
      exact alike

theorem run_of_same_but_display {digests : Digests} {world last : World}
    {events others : List Event}
    (same : events.filter (fun event => !isDisplayUpdate event) =
      others.filter (fun event => !isDisplayUpdate event))
    (ran : run (step digests) world events = some last) :
    ∃ last', run (step digests) world others = some last' ∧ last.SameButDisplay last' := by
  refine run_alike_of_filter_eq SameButDisplay isDisplayUpdate (fun _ _ => SameButDisplay.symm)
    (fun _ _ _ => SameButDisplay.trans) SameButDisplay.refl ?_
    (fun _ _ _ => displayUpdate_step) (fun _ _ _ _ => sameButDisplay_step) same ran
  intro state event display
  cases event with
  | updateSpeed speed source => exact ⟨_, rfl⟩
  | _ => cases display

end World

end Display

/-- What a critical frame had when it was validated: a fresh physical sample
near standstill as the latest one, the operator's confirmation and, where the
gateway demands a token, an authentic one for its identifier that was neither
expired nor used by another call. -/
structure GatePassed (digests : Digests) (before : World) (samples : List (SpeedValue × Nat))
    (clock : Clock) (request : TxRequest) (sent : CanFrame) : Prop where
  sample : ∃ value time older, samples = (.finite value, time) :: older ∧ 0 ≤ value ∧
    value ≤ speedNoiseThresholdKmh ∧ clock.start ≤ time + speedValidityTimeoutNs
  confirmed : request.userConfirmed = true
  token : before.gateway.confirmationSecret.isSome = true →
    before.gateway.allowLegacyBooleanConfirm = false →
    ∃ token payload, request.confirmationToken = some token ∧
      parseConfirmationToken digests before.gateway.confirmationSecret token = .ok payload ∧
      payloadArbitrationId payload = sent.arbitrationId ∧
      clock.verify ≤ payloadExpiry payload ∧
      (∀ id, ¬ before.PendingBurn id payload) ∧ payload ∉ before.dispatchedPayloads

/-- An accepted call finds room for its token, and its sealing keeps the
criticality of its frame. -/
def GateSafe (digests : Digests) (world : World) (event : Event) : Prop :=
  BurnsSafely digests world event ∧
    ∀ id owner request clock accepted, event = .validate id owner request clock →
      world.gateway.validateLocked digests world.plane clock owner request = .ok accepted →
      SealingKeepsCriticality world.gateway request

theorem gatePassed_of_validated {digests : Digests} {before : World} {after : Gateway}
    {owner : Nat} {request : TxRequest} {clock : Clock} {reservation : Reservation}
    {samples : List (SpeedValue × Nat)} (tracked : before.TokensTracked)
    (shows : before.gateway.speed.Shows samples) (started : before.now ≤ clock.start)
    (facts : Validated digests before.gateway before.plane clock owner request after reservation)
    (critical : isTreatedCritical before.gateway request = true) :
    GatePassed digests before samples clock request reservation.frame := by
  obtain ⟨operator, verified, legacy, _⟩ :=
    confirmationStage_ok (facts.admitted.confirmed critical)
  refine ⟨?_, operator, ?_⟩
  · obtain ⟨value, time, older, latest, above, below, fresh⟩ :=
      sample_of_speedStage shows (facts.admitted.interlock critical)
    exact ⟨value, time, older, latest, above, below, Nat.sub_le_iff_le_add'.mp fresh⟩
  · intro demanded strict
    obtain ⟨secret, configured⟩ := Option.isSome_iff_exists.mp demanded
    cases presented : request.confirmationToken with
    | none =>
        rw [legacy demanded presented] at strict
        cases strict
    | some token =>
        obtain ⟨payload, expiry, _, checked⟩ := verified secret token configured presented
        have unspent : ¬ before.Spent payload := by
          rintro (used | passed)
          · exact checked.unused used
          · have unexpired := checked.unexpired
            have verifyAfter := clock.verifyAfter
            omega
        refine ⟨token, payload, rfl, checked.authentic, ?_, checked.unexpired, ?_, ?_⟩
        · rw [checked.arbitrationId]
          exact (sealStage_ok facts.stamped).stream.arbitrationId.symm
        · exact fun id pending => unspent (tracked.pending id payload pending)
        · exact fun dispatched => unspent (tracked.dispatched payload dispatched)

def SentThroughGate (digests : Digests) (initial : World) (events : List Event)
    (transmission : Transmission) : Prop :=
  ∃ front back owner request clock before after,
    events = front ++ .validate transmission.id owner request clock :: back ∧
      run (World.step digests) initial front = some before ∧
      before.gateway.validateLocked digests before.plane clock owner request =
        .ok (after, transmission.reservation) ∧
      (transmission.reservation.isCriticalCommand = true ∨
          frameIsCritical before.gateway.whitelistConfig.whitelist
            transmission.reservation.frame = true →
        GatePassed digests before (physicalSamples digests initial front) clock request
          transmission.reservation.frame)

/-- In a run whose calls find room for their tokens and keep the criticality of
what they seal, every critical frame on the wire passed the gate, and updates of
the display mirror decide nothing. -/
theorem critical_frames_pass_gate (digests : Digests) (initial last : World)
    (events : List Event) (start : initial.Initial)
    (safe : Meets (World.step digests) (GateSafe digests) initial events)
    (ran : run (World.step digests) initial events = some last) :
    (∀ transmission ∈ last.wire, SentThroughGate digests initial events transmission) ∧
      ∀ others, events.filter (fun event => !World.isDisplayUpdate event) =
          others.filter (fun event => !World.isDisplayUpdate event) →
        ∃ last', run (World.step digests) initial others = some last' ∧
          last.SameButDisplay last' := by
  refine ⟨?_, fun others same => World.run_of_same_but_display same ran⟩
  intro transmission member
  obtain ⟨front, back, owner, request, clock, before, after, split, frontRan, passed⟩ :=
    World.sent_was_validated start ran member
  refine ⟨front, back, owner, request, clock, before, after, split, frontRan, passed, ?_⟩
  intro critical
  rw [split] at safe ran
  obtain ⟨frontSafe, hereSafe⟩ := meets_append safe frontRan
  obtain ⟨middle, frontRan', backRan⟩ := run_append_some ran
  rw [frontRan] at frontRan'
  cases frontRan'
  obtain ⟨next, accepted, _⟩ := run_cons_some backRan
  obtain ⟨_, started, _⟩ := World.step_validate accepted
  have tracked : before.TokensTracked := run_invariant_of_meets
    (fun _ _ _ tracked safe stepped => World.tokensTracked_step tracked safe.1 stepped)
    start.tokensTracked frontSafe frontRan
  have silent : initial.gateway.speed.Shows [] := by
    rw [start.speed]
    rfl
  have shows := shows_run frontRan silent
  rw [List.append_nil] at shows
  obtain ⟨facts⟩ := validateLocked_ok passed
  apply gatePassed_of_validated tracked shows started facts
  rcases critical with flagged | derived
  · rw [← facts.critical]
    exact flagged
  · exact facts.critical_iff.mpr
      (hereSafe.1.2 transmission.id owner request clock _ rfl passed) derived

section Bench

theorem sealingKeepsCriticality_of_noPackager {gateway : Gateway} {request : TxRequest}
    (absent : gateway.e2ePackager = none) : SealingKeepsCriticality gateway request := by
  intro bytes written
  unfold Gateway.sealedBytes at written
  rw [absent] at written
  cases written

theorem singleSend_gateSafe :
    Meets (World.step benchDigests) (GateSafe benchDigests) confirmedBench singleSend := by
  apply singleSend_burnsSafely.and
  refine ⟨fun _ _ _ _ _ => nofun, fun ticked tick => ?_⟩
  refine ⟨fun _ _ _ _ _ => nofun, fun sampled sample => ?_⟩
  refine ⟨?_, fun _ _ => ?_⟩
  · intro _ _ _ _ _ _ _
    cases tick
    cases sample
    exact sealingKeepsCriticality_of_noPackager rfl
  refine ⟨fun _ _ _ _ _ => nofun, fun _ _ => ?_⟩
  exact ⟨fun _ _ _ _ _ => nofun, fun _ _ => trivial⟩

/-- The same run with a reading on the dashboard only. -/
def displayedSend : List Event :=
  .updateSpeed (.finite 80) "display" :: singleSend

theorem critical_frames_pass_gate_reset :
    (∀ transmission ∈ spentWorld.wire,
        SentThroughGate benchDigests confirmedBench singleSend transmission) ∧
      ∃ last', run (World.step benchDigests) confirmedBench displayedSend = some last' ∧
        spentWorld.SameButDisplay last' := by
  obtain ⟨sent, indifferent⟩ := critical_frames_pass_gate benchDigests confirmedBench spentWorld
    singleSend (World.bench_initial _ _ _) singleSend_gateSafe
    (Option.some_get singleSend_isSome).symm
  exact ⟨sent, indifferent displayedSend rfl⟩

/-- A frame sealing has made critical is sent without a single speed sample. -/
theorem disguised_session_skips_gate :
    ¬ ∀ (events : List Event) (last : World),
      run (World.step nullDigests) sealBench events = some last →
        ∀ transmission ∈ last.wire,
          SentThroughGate nullDigests sealBench events transmission := by
  intro always
  have sends : (run (World.step nullDigests) sealBench disguisedSend).map
      (fun world => world.wire.map (fun transmission =>
        frameIsCritical sealBench.gateway.whitelistConfig.whitelist
          transmission.reservation.frame)) = some [true] := by
    decide +kernel
  obtain ⟨last, ran, wire⟩ := Option.map_eq_some_iff.mp sends
  obtain ⟨transmission, sent, critical⟩ := List.map_eq_singleton_iff.mp wire
  have member : transmission ∈ last.wire := by
    rw [sent]
    exact List.mem_singleton_self transmission
  obtain ⟨front, back, owner, request, clock, before, after, split, frontRan, _, passes⟩ :=
    always disguisedSend last ran transmission member
  cases front with
  | nil =>
      cases frontRan
      obtain ⟨_, _, _, nothing, _⟩ := (passes (Or.inr critical)).sample
      cases nothing
  | cons first rest =>
      -- the only validation of the run is its first event
      have late : Event.validate transmission.id owner request clock ∈
          [Event.guard 0, Event.dispatch 0] := by
        rw [(List.cons.inj split).2]
        exact List.mem_append_right rest (List.mem_cons_self ..)
      rcases List.mem_cons.mp late with same | late
      · cases same
      · cases List.mem_singleton.mp late

end Bench

end Ucanlab.Safety
