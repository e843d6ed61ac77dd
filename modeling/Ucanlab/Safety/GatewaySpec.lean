import Ucanlab.Safety.Gateway

/-!
What each policy stage can do, said once: the facts a passed stage establishes,
the states a refusing stage leaves, and the outcome of the locked phase.
-/

namespace Ucanlab.Safety

open Ucanlab E2E SlidingWindow

/-- What the first five stages established. -/
structure Admitted (digests : Digests) (gateway : Gateway) (plane : TxPlane) (clock : Clock)
    (request : TxRequest) (critical : Bool) (pending : Option (Bytes × Nat)) : Prop where
  sane : frameSanity request.frame = none
  permitted : txPermission plane clock.start = none
  policy : readOnlyStage gateway.readOnlyPolicy request.frame critical clock.start = none
  allowed : whitelistStage gateway request.frame clock.start = none
  interlock : critical = true → speedStage gateway.speed clock.start = none
  confirmed : critical = true →
    confirmationStage digests gateway request clock.verify = .ok pending
  plain : critical = false → pending = none

theorem admission_ok {digests : Digests} {gateway : Gateway} {plane : TxPlane} {clock : Clock}
    {request : TxRequest} {critical : Bool} {pending : Option (Bytes × Nat)}
    (admitted : admission digests gateway plane clock request critical = .ok pending) :
    Admitted digests gateway plane clock request critical pending := by
  unfold admission at admitted
  dsimp only at admitted
  split at admitted
  · cases admitted
  · rename_i sane
    split at admitted
    · cases admitted
    · rename_i permitted
      split at admitted
      · cases admitted
      · rename_i policy
        split at admitted
        · cases admitted
        · rename_i allowed
          cases flag : critical with
          | false =>
              subst flag
              cases admitted
              exact ⟨sane, permitted, policy, allowed, nofun, nofun, fun _ => rfl⟩
          | true =>
              subst flag
              rw [if_neg (by decide)] at admitted
              split at admitted
              · cases admitted
              · rename_i interlock
                split at admitted
                · cases admitted
                · rename_i confirmed
                  cases admitted
                  exact ⟨sane, permitted, policy, allowed, fun _ => interlock,
                    fun _ => confirmed, nofun⟩

/-- Refusals of the first five stages: none of them is about a rate, and none
touches more of the gateway than the miss streak. -/
structure AdmissionRefused (gateway : Gateway) (now : Nat) (rejection : Rejection) : Prop where
  state : rejection.gateway = gateway ∨ rejection.gateway = gateway.recordMiss now
  refusal : rejection.refusal ≠ .envelopeExceeded ∧ rejection.refusal ≠ .rateExceeded
  requests : ∀ event ∈ rejection.requests, event.trigger ≠ .rateLimitOverflow

theorem AdmissionRefused.quiet (gateway : Gateway) (now : Nat) {refusal : Refusal}
    (kind : refusal ≠ .envelopeExceeded ∧ refusal ≠ .rateExceeded) :
    AdmissionRefused gateway now { refusal := refusal, gateway := gateway, requests := [] } :=
  ⟨Or.inl rfl, kind, fun _ member => absurd member List.not_mem_nil⟩

theorem frameSanity_kind {frame : CanFrame} {refusal : Refusal}
    (refused : frameSanity frame = some refusal) :
    refusal ≠ .envelopeExceeded ∧ refusal ≠ .rateExceeded := by
  unfold frameSanity at refused
  split at refused
  · cases refused
    exact ⟨nofun, nofun⟩
  · split at refused
    · cases refused
      exact ⟨nofun, nofun⟩
    · split at refused
      · cases refused
        exact ⟨nofun, nofun⟩
      · cases refused

theorem txPermission_kind {plane : TxPlane} {now : Nat} {refusal : Refusal}
    (refused : txPermission plane now = some refusal) :
    refusal ≠ .envelopeExceeded ∧ refusal ≠ .rateExceeded := by
  unfold txPermission at refused
  split at refused
  · cases refused
    exact ⟨nofun, nofun⟩
  · split at refused
    · cases refused
      exact ⟨nofun, nofun⟩
    · split at refused
      · cases refused
        exact ⟨nofun, nofun⟩
      · cases refused

theorem readOnlyStage_kind {policy : Option ReadOnlyPolicy} {frame : CanFrame} {critical : Bool}
    {now : Nat} {refusal : Refusal}
    (refused : readOnlyStage policy frame critical now = some refusal) :
    refusal ≠ .envelopeExceeded ∧ refusal ≠ .rateExceeded := by
  unfold readOnlyStage at refused
  split at refused
  · cases refused
  · split at refused
    · cases refused
      exact ⟨nofun, nofun⟩
    · split at refused
      · cases refused
        exact ⟨nofun, nofun⟩
      · cases refused

theorem whitelistStage_refused {gateway : Gateway} {frame : CanFrame} {now : Nat}
    {rejection : Rejection} (refused : whitelistStage gateway frame now = some rejection) :
    AdmissionRefused gateway now rejection := by
  unfold whitelistStage at refused
  split at refused
  · cases refused
  · split at refused
    · cases refused
      exact AdmissionRefused.quiet gateway now ⟨nofun, nofun⟩
    · split at refused
      · cases refused
      · cases refused
        refine ⟨Or.inr rfl, ⟨nofun, nofun⟩, ?_⟩
        intro event member
        dsimp only at member
        split at member
        · rw [List.mem_singleton.mp member]
          exact nofun
        · exact absurd member List.not_mem_nil

theorem speedStage_refused {channel : SpeedChannel} {now : Nat} {refusal : Refusal}
    {event : EStopEvent} (refused : speedStage channel now = some (refusal, event)) :
    (refusal ≠ .envelopeExceeded ∧ refusal ≠ .rateExceeded) ∧
      event.trigger = .speedInterlockBreach := by
  unfold speedStage at refused
  split at refused
  · cases refused
    exact ⟨⟨nofun, nofun⟩, rfl⟩
  · split at refused
    · cases refused
      exact ⟨⟨nofun, nofun⟩, rfl⟩
    · cases refused

theorem admission_error {digests : Digests} {gateway : Gateway} {plane : TxPlane} {clock : Clock}
    {request : TxRequest} {critical : Bool} {rejection : Rejection}
    (refused : admission digests gateway plane clock request critical = .error rejection) :
    AdmissionRefused gateway clock.start rejection := by
  unfold admission at refused
  dsimp only at refused
  split at refused
  · rename_i failed
    cases refused
    exact AdmissionRefused.quiet _ _ (frameSanity_kind failed)
  · split at refused
    · rename_i failed
      cases refused
      exact AdmissionRefused.quiet _ _ (txPermission_kind failed)
    · split at refused
      · rename_i failed
        cases refused
        exact AdmissionRefused.quiet _ _ (readOnlyStage_kind failed)
      · split at refused
        · rename_i failed
          cases refused
          exact whitelistStage_refused failed
        · split at refused
          · cases refused
          · split at refused
            · rename_i failed
              cases refused
              obtain ⟨kind, source⟩ := speedStage_refused failed
              refine ⟨Or.inl rfl, kind, ?_⟩
              intro event member
              rw [List.mem_singleton.mp member, source]
              exact nofun
            · split at refused
              · cases refused
                exact AdmissionRefused.quiet _ _ ⟨nofun, nofun⟩
              · cases refused

inductive LaneCharged (gateway : Gateway) (clock : Clock) (owner : Nat) :
    Lane → Gateway → Meter → Prop where
  | window (room : gateway.laneFull clock.start = false) :
      LaneCharged gateway clock owner .default (gateway.chargeLane clock.start owner)
        (.window (gateway.ledger.nextStamp clock.start owner))
  | bucket (lane : Lane) (categorised : lane ≠ .default)
      (level : gateway.bucketDry lane clock.bucket = false) :
      LaneCharged gateway clock owner lane (gateway.drawBucket lane clock.bucket)
        (.bucket lane gateway.ledger.budgetGeneration)

theorem laneStage_ok {gateway after : Gateway} {lane : Lane} {totalStamp : Stamp} {clock : Clock}
    {owner : Nat} {inbound : Bool} {charge : Charge}
    (charged : laneStage gateway lane totalStamp clock owner inbound = .ok (after, charge)) :
    charge.totalStamp = totalStamp ∧ LaneCharged gateway clock owner lane after charge.meter := by
  unfold laneStage at charged
  split at charged
  · rename_i standard
    split at charged
    · cases charged
    · rename_i room
      cases charged
      rw [standard]
      exact ⟨rfl, .window (by simpa using room)⟩
  · rename_i categorised
    split at charged
    · cases charged
    · rename_i level
      cases charged
      exact ⟨rfl, .bucket lane categorised (by simpa using level)⟩

inductive LaneRefused (gateway : Gateway) (clock : Clock) (inbound : Bool) :
    Lane → Rejection → Prop where
  | window (full : gateway.laneFull clock.start = true) :
      LaneRefused gateway clock inbound .default {
        refusal := .rateExceeded
        gateway := gateway.overLane clock.start
        requests := overloadRequests
          (.rateOverload (gateway.overLane clock.start).rateOverloadStreak)
          (gateway.overLane clock.start).rateOverloadStreak inbound }
  | bucket (lane : Lane) (categorised : lane ≠ .default)
      (dry : gateway.bucketDry lane clock.bucket = true) :
      LaneRefused gateway clock inbound lane {
        refusal := .budgetExhausted lane (gateway.ledger.budgets lane).capacity
        gateway := gateway.drawBucket lane clock.bucket
        requests := [] }

theorem laneStage_error {gateway : Gateway} {lane : Lane} {totalStamp : Stamp} {clock : Clock}
    {owner : Nat} {inbound : Bool} {rejection : Rejection}
    (refused : laneStage gateway lane totalStamp clock owner inbound = .error rejection) :
    LaneRefused gateway clock inbound lane rejection := by
  unfold laneStage at refused
  split at refused
  · rename_i standard
    split at refused
    · rename_i full
      cases refused
      rw [standard]
      exact .window full
    · cases refused
  · rename_i categorised
    split at refused
    · rename_i dry
      cases refused
      exact .bucket lane categorised dry
    · cases refused

structure RateCharged (gateway : Gateway) (clock : Clock) (owner : Nat) (request : TxRequest)
    (after : Gateway) (charge : Charge) (lane : Lane) : Prop where
  category : Lane.ofCategory request.budgetCategory = some lane
  room : gateway.envelopeFull clock.start = false
  lanePurpose : gateway.simulationMisused lane request.frame = false
  totalStamp : charge.totalStamp = (gateway.ledger.pruneTotal clock.start).nextStamp clock.start owner
  lane : LaneCharged (gateway.chargeEnvelope clock.start owner) clock owner lane after charge.meter

theorem rateStage_ok {gateway after : Gateway} {clock : Clock} {owner : Nat} {request : TxRequest}
    {charge : Charge} (charged : rateStage gateway clock owner request = .ok (after, charge)) :
    ∃ lane, RateCharged gateway clock owner request after charge lane := by
  unfold rateStage at charged
  split at charged
  · cases charged
  · rename_i lane category
    split at charged
    · cases charged
    · rename_i room
      split at charged
      · cases charged
      · rename_i purpose
        obtain ⟨stamp, lanePart⟩ := laneStage_ok charged
        exact ⟨lane, category, by simpa using room, by simpa using purpose, stamp, lanePart⟩

inductive RateRefused (gateway : Gateway) (clock : Clock) (owner : Nat) (request : TxRequest) :
    Rejection → Prop where
  | category (unknown : Lane.ofCategory request.budgetCategory = none) :
      RateRefused gateway clock owner request {
        refusal := .unknownCategory request.budgetCategory
        gateway := gateway
        requests := [] }
  | envelope (lane : Lane) (known : Lane.ofCategory request.budgetCategory = some lane)
      (full : gateway.envelopeFull clock.start = true) :
      RateRefused gateway clock owner request {
        refusal := .envelopeExceeded
        gateway := gateway.overEnvelope clock.start
        requests := overloadRequests
          (.envelopeOverload (gateway.overEnvelope clock.start).totalOverloadStreak)
          (gateway.overEnvelope clock.start).totalOverloadStreak request.inboundTriggered }
  | simulation (lane : Lane) (known : Lane.ofCategory request.budgetCategory = some lane)
      (room : gateway.envelopeFull clock.start = false)
      (misused : gateway.simulationMisused lane request.frame = true) :
      RateRefused gateway clock owner request {
        refusal := .simulationReserved request.frame.source gateway.bus.interface
        gateway := gateway.withinEnvelope clock.start
        requests := [] }
  | lane (lane : Lane) (known : Lane.ofCategory request.budgetCategory = some lane)
      (room : gateway.envelopeFull clock.start = false)
      (purpose : gateway.simulationMisused lane request.frame = false) (rejection : Rejection)
      (refused : LaneRefused (gateway.chargeEnvelope clock.start owner) clock
        request.inboundTriggered lane rejection) :
      RateRefused gateway clock owner request rejection

theorem rateStage_error {gateway : Gateway} {clock : Clock} {owner : Nat} {request : TxRequest}
    {rejection : Rejection} (refused : rateStage gateway clock owner request = .error rejection) :
    RateRefused gateway clock owner request rejection := by
  unfold rateStage at refused
  split at refused
  · rename_i unknown
    cases refused
    exact .category unknown
  · rename_i lane known
    split at refused
    · rename_i full
      cases refused
      exact .envelope lane known full
    · rename_i room
      split at refused
      · rename_i misused
        cases refused
        exact .simulation lane known (by simpa using room) misused
      · rename_i purpose
        exact .lane lane known (by simpa using room) (by simpa using purpose) rejection
          (laneStage_error refused)

structure Sealed (gateway after : Gateway) (frame sealed : CanFrame) : Prop where
  state : ∃ packager, after = { gateway with e2ePackager := packager }
  stream : SameStream frame sealed

theorem sealStage_packager (gateway : Gateway) (frame : CanFrame) :
    ∃ packager, (gateway.sealStage frame).1 = { gateway with e2ePackager := packager } := by
  unfold Gateway.sealStage
  split
  · exact ⟨_, rfl⟩
  · exact ⟨gateway.e2ePackager, rfl⟩

theorem sealStage_ok {gateway after : Gateway} {frame sealed : CanFrame}
    (passed : gateway.sealStage frame = (after, .ok sealed)) :
    Sealed gateway after frame sealed := by
  obtain ⟨packager, replaced⟩ := sealStage_packager gateway frame
  rw [passed] at replaced
  refine ⟨⟨packager, replaced⟩, ?_⟩
  unfold Gateway.sealStage at passed
  split at passed
  · exact Packager.package_sameStream (congrArg Prod.snd passed)
  · cases passed
    exact SameStream.refl frame

/-- A passed locked phase: every stage passed, the charges were taken, the
frame sealed and the token burned. -/
structure Validated (digests : Digests) (gateway : Gateway) (plane : TxPlane) (clock : Clock)
    (owner : Nat) (request : TxRequest) (after : Gateway) (reservation : Reservation) where
  pending : Option (Bytes × Nat)
  lane : Lane
  charged : Gateway
  counted : Gateway
  admitted : Admitted digests gateway plane clock request (isTreatedCritical gateway request)
    pending
  rate : RateCharged gateway clock owner request charged reservation.charge lane
  stamped : charged.sealStage request.frame = (counted, .ok reservation.frame)
  result : after = counted.burn pending clock.burn
  critical : reservation.isCriticalCommand = isTreatedCritical gateway request
  burned : reservation.burnedPayload = pending.map Prod.fst
  estopSnapshot : reservation.estopSnapshot = plane.estop.engaged
  fenceSnapshot : reservation.fenceSnapshot = plane.estop.txFence

theorem validateLocked_ok {digests : Digests} {gateway after : Gateway} {plane : TxPlane}
    {clock : Clock} {owner : Nat} {request : TxRequest} {reservation : Reservation}
    (passed : gateway.validateLocked digests plane clock owner request =
      .ok (after, reservation)) :
    Nonempty (Validated digests gateway plane clock owner request after reservation) := by
  unfold Gateway.validateLocked at passed
  dsimp only at passed
  split at passed
  · cases passed
  · rename_i pending admitted
    split at passed
    · cases passed
    · rename_i charged charge rate
      obtain ⟨lane, rateFacts⟩ := rateStage_ok rate
      split at passed
      · cases passed
      · rename_i counted frame stamped
        cases passed
        exact ⟨{
          pending := pending
          lane := lane
          charged := charged
          counted := counted
          admitted := admission_ok admitted
          rate := rateFacts
          stamped := stamped
          result := rfl
          critical := rfl
          burned := rfl
          estopSnapshot := rfl
          fenceSnapshot := rfl }⟩

theorem validateLocked_admitted {digests : Digests} {gateway after : Gateway} {plane : TxPlane}
    {clock : Clock} {owner : Nat} {request : TxRequest} {reservation : Reservation}
    (passed : gateway.validateLocked digests plane clock owner request =
      .ok (after, reservation)) :
    ∃ pending, admission digests gateway plane clock request (isTreatedCritical gateway request) =
      .ok pending := by
  unfold Gateway.validateLocked at passed
  dsimp only at passed
  split at passed
  · cases passed
  · rename_i pending admitted
    exact ⟨pending, admitted⟩

/-- Every way the locked phase refuses. -/
inductive ValidationRefused (digests : Digests) (gateway : Gateway) (plane : TxPlane)
    (clock : Clock) (owner : Nat) (request : TxRequest) : Rejection → Prop where
  | admission (rejection : Rejection)
      (refused : AdmissionRefused gateway clock.start rejection) :
      ValidationRefused digests gateway plane clock owner request rejection
  | rate (pending : Option (Bytes × Nat)) (rejection : Rejection)
      (admitted : Admitted digests gateway plane clock request (isTreatedCritical gateway request)
        pending)
      (refused : RateRefused gateway clock owner request rejection) :
      ValidationRefused digests gateway plane clock owner request rejection
  | stamping (lane : Lane) (charged counted : Gateway) (charge : Charge) (cause : PackageError)
      (rate : RateCharged gateway clock owner request charged charge lane)
      (failed : charged.sealStage request.frame = (counted, .error cause)) :
      ValidationRefused digests gateway plane clock owner request {
        refusal := .e2eStampFailed cause
        gateway := counted.rollback charge none
        requests := [] }

theorem validateLocked_refused_at {digests : Digests} {gateway : Gateway} {plane : TxPlane}
    {clock : Clock} {owner : Nat} {request : TxRequest} {rejection : Rejection}
    (refused : gateway.validateLocked digests plane clock owner request = .error rejection) :
    admission digests gateway plane clock request (isTreatedCritical gateway request) =
        .error rejection ∨
      ∃ pending, admission digests gateway plane clock request
            (isTreatedCritical gateway request) = .ok pending ∧
        (rateStage gateway clock owner request = .error rejection ∨
          ∃ charged charge counted cause,
            rateStage gateway clock owner request = .ok (charged, charge) ∧
              charged.sealStage request.frame = (counted, .error cause) ∧
              rejection = {
                refusal := .e2eStampFailed cause
                gateway := counted.rollback charge none
                requests := [] }) := by
  unfold Gateway.validateLocked at refused
  dsimp only at refused
  split at refused
  · rename_i failed
    cases refused
    exact Or.inl failed
  · rename_i pending admitted
    refine Or.inr ⟨pending, admitted, ?_⟩
    split at refused
    · rename_i failed
      cases refused
      exact Or.inl failed
    · rename_i charged charge rate
      split at refused
      · rename_i counted cause failed
        cases refused
        exact Or.inr ⟨charged, charge, counted, cause, rate, failed, rfl⟩
      · cases refused

theorem validateLocked_error {digests : Digests} {gateway : Gateway} {plane : TxPlane}
    {clock : Clock} {owner : Nat} {request : TxRequest} {rejection : Rejection}
    (refused : gateway.validateLocked digests plane clock owner request = .error rejection) :
    ValidationRefused digests gateway plane clock owner request rejection := by
  rcases validateLocked_refused_at refused with early | ⟨pending, admitted, late | stamping⟩
  · exact .admission _ (admission_error early)
  · exact .rate pending _ (admission_ok admitted) (rateStage_error late)
  · obtain ⟨charged, charge, counted, cause, rate, failed, rfl⟩ := stamping
    obtain ⟨lane, rateFacts⟩ := rateStage_ok rate
    exact .stamping lane charged counted charge cause rateFacts failed

section Frames

/-- The fields the rate stage may change. -/
def RateFrame (gateway after : Gateway) : Prop :=
  ∃ ledger rateStreak totalStreak, after = { gateway with
    ledger := ledger
    rateOverloadStreak := rateStreak
    totalOverloadStreak := totalStreak }

theorem LaneCharged.frame {gateway after : Gateway} {clock : Clock} {owner : Nat} {lane : Lane}
    {meter : Meter} (charged : LaneCharged gateway clock owner lane after meter) :
    RateFrame gateway after := by
  cases charged with
  | window room => exact ⟨_, _, gateway.totalOverloadStreak, rfl⟩
  | bucket _ categorised level =>
      exact ⟨_, gateway.rateOverloadStreak, gateway.totalOverloadStreak, rfl⟩

theorem RateFrame.chargeEnvelope {gateway after : Gateway} (now owner : Nat)
    (frame : RateFrame (gateway.chargeEnvelope now owner) after) : RateFrame gateway after := by
  obtain ⟨ledger, rateStreak, totalStreak, rfl⟩ := frame
  exact ⟨ledger, rateStreak, totalStreak, rfl⟩

theorem RateCharged.frame {gateway after : Gateway} {clock : Clock} {owner : Nat}
    {request : TxRequest} {charge : Charge} {lane : Lane}
    (charged : RateCharged gateway clock owner request after charge lane) :
    RateFrame gateway after :=
  RateFrame.chargeEnvelope clock.start owner charged.lane.frame

theorem RateRefused.frame {gateway : Gateway} {clock : Clock} {owner : Nat} {request : TxRequest}
    {rejection : Rejection} (refused : RateRefused gateway clock owner request rejection) :
    RateFrame gateway rejection.gateway := by
  cases refused with
  | category unknown =>
      exact ⟨gateway.ledger, gateway.rateOverloadStreak, gateway.totalOverloadStreak, rfl⟩
  | envelope lane known full => exact ⟨_, gateway.rateOverloadStreak, _, rfl⟩
  | simulation lane known room misused => exact ⟨_, gateway.rateOverloadStreak, _, rfl⟩
  | lane lane known room purpose _ lanePart =>
      cases lanePart with
      | window full =>
          exact RateFrame.chargeEnvelope clock.start owner ⟨_, _, _, rfl⟩
      | bucket _ categorised dry =>
          exact RateFrame.chargeEnvelope clock.start owner ⟨_, _, _, rfl⟩

/-- The fields a refusal under the lock may change. -/
def RefusalFrame (gateway after : Gateway) : Prop :=
  ∃ ledger rateStreak totalStreak missStreak lastMissNs packager, after = { gateway with
    ledger := ledger
    rateOverloadStreak := rateStreak
    totalOverloadStreak := totalStreak
    whitelistMissStreak := missStreak
    whitelistLastMissNs := lastMissNs
    e2ePackager := packager }

theorem RateFrame.refusal {gateway after : Gateway} (frame : RateFrame gateway after) :
    RefusalFrame gateway after := by
  obtain ⟨ledger, rateStreak, totalStreak, rfl⟩ := frame
  exact ⟨ledger, rateStreak, totalStreak, gateway.whitelistMissStreak,
    gateway.whitelistLastMissNs, gateway.e2ePackager, rfl⟩

/-- A refusal under the lock burns no token and touches no policy, interlock or
whitelist. -/
theorem ValidationRefused.frame {digests : Digests} {gateway : Gateway} {plane : TxPlane}
    {clock : Clock} {owner : Nat} {request : TxRequest} {rejection : Rejection}
    (refused : ValidationRefused digests gateway plane clock owner request rejection) :
    RefusalFrame gateway rejection.gateway := by
  cases refused with
  | admission _ early =>
      rcases early.state with same | missed
      · rw [same]
        exact ⟨gateway.ledger, gateway.rateOverloadStreak, gateway.totalOverloadStreak,
          gateway.whitelistMissStreak, gateway.whitelistLastMissNs, gateway.e2ePackager, rfl⟩
      · rw [missed]
        exact ⟨gateway.ledger, gateway.rateOverloadStreak, gateway.totalOverloadStreak, _, _,
          gateway.e2ePackager, rfl⟩
  | rate pending _ admitted late => exact late.frame.refusal
  | stamping lane charged counted charge cause rate failed =>
      obtain ⟨ledger, rateStreak, totalStreak, rfl⟩ := rate.frame
      obtain ⟨packager, replaced⟩ := sealStage_packager
        { gateway with
          ledger := ledger
          rateOverloadStreak := rateStreak
          totalOverloadStreak := totalStreak } request.frame
      rw [failed] at replaced
      dsimp only at replaced
      subst replaced
      exact ⟨_, rateStreak, totalStreak, gateway.whitelistMissStreak,
        gateway.whitelistLastMissNs, packager, rfl⟩

/-- The fields an accepted locked phase may change before the burn. -/
theorem Validated.frame {digests : Digests} {gateway : Gateway} {plane : TxPlane} {clock : Clock}
    {owner : Nat} {request : TxRequest} {after : Gateway} {reservation : Reservation}
    (facts : Validated digests gateway plane clock owner request after reservation) :
    RefusalFrame gateway facts.counted := by
  obtain ⟨ledger, rateStreak, totalStreak, same⟩ := facts.rate.frame
  obtain ⟨packager, replaced⟩ := (sealStage_ok facts.stamped).state
  rw [replaced, same]
  exact ⟨ledger, rateStreak, totalStreak, gateway.whitelistMissStreak,
    gateway.whitelistLastMissNs, packager, rfl⟩

theorem RefusalFrame.consumed {gateway after : Gateway} (frame : RefusalFrame gateway after) :
    after.consumedConfirmations = gateway.consumedConfirmations := by
  obtain ⟨_, _, _, _, _, _, rfl⟩ := frame
  rfl

theorem sealStage_of_rateFrame {gateway charged : Gateway} (frame : RateFrame gateway charged)
    (submitted : CanFrame) :
    (charged.sealStage submitted).2 = (gateway.sealStage submitted).2 := by
  obtain ⟨ledger, rateStreak, totalStreak, rfl⟩ := frame
  unfold Gateway.sealStage
  dsimp only
  split <;> rfl

theorem Validated.sealed {digests : Digests} {gateway after : Gateway} {plane : TxPlane}
    {clock : Clock} {owner : Nat} {request : TxRequest} {reservation : Reservation}
    (facts : Validated digests gateway plane clock owner request after reservation) :
    (gateway.sealStage request.frame).2 = .ok reservation.frame := by
  have same := sealStage_of_rateFrame facts.rate.frame request.frame
  rw [facts.stamped] at same
  exact same.symm

end Frames

def burnConsumed (consumed : ReplayStore Bytes) (pending : Option (Bytes × Nat)) (now : Nat) :
    ReplayStore Bytes :=
  match pending with
  | none => consumed
  | some (payload, expiry) => consumeConfirmation consumed payload expiry now

theorem burn_eq (gateway : Gateway) (pending : Option (Bytes × Nat)) (now : Nat) :
    gateway.burn pending now = { gateway with
      consumedConfirmations := burnConsumed gateway.consumedConfirmations pending now } := by
  cases pending with
  | none => rfl
  | some entry => rfl

theorem confirmationStage_ok {digests : Digests} {gateway : Gateway} {request : TxRequest}
    {now : Nat} {pending : Option (Bytes × Nat)}
    (confirmed : confirmationStage digests gateway request now = .ok pending) :
    request.userConfirmed = true ∧
      (∀ secret token, gateway.confirmationSecret = some secret →
        request.confirmationToken = some token →
        ∃ payload expiry, pending = some (payload, expiry) ∧
          Verified digests gateway.confirmationSecret gateway.consumedConfirmations token
            request.frame request.confirmationContext now payload expiry) ∧
      (gateway.confirmationSecret.isSome = true → request.confirmationToken = none →
        gateway.allowLegacyBooleanConfirm = true) ∧
      (gateway.confirmationSecret = none ∨ request.confirmationToken = none → pending = none) := by
  unfold confirmationStage at confirmed
  dsimp only at confirmed
  cases secret : gateway.confirmationSecret with
  | none =>
      rw [secret] at confirmed
      dsimp only at confirmed
      split at confirmed
      · cases confirmed
      · rename_i operator
        split at confirmed
        · cases confirmed
        · cases confirmed
          exact ⟨by simpa using operator, nofun, nofun, fun _ => rfl⟩
  | some key =>
      rw [secret] at confirmed
      cases token : request.confirmationToken with
      | none =>
          rw [token] at confirmed
          dsimp only at confirmed
          split at confirmed
          · cases confirmed
          · rename_i operator
            split at confirmed
            · cases confirmed
            · rename_i legacy
              cases confirmed
              refine ⟨by simpa using operator, nofun, fun _ _ => ?_, fun _ => rfl⟩
              simpa using legacy
      | some presented =>
          rw [token] at confirmed
          dsimp only at confirmed
          split at confirmed
          · cases confirmed
          · rename_i verdict
            split at verdict
            · cases verdict
            · rename_i verified checked
              cases verdict
              split at confirmed
              · cases confirmed
              · rename_i operator
                split at confirmed
                · cases confirmed
                · cases confirmed
                  refine ⟨by simpa using operator, ?_, nofun, ?_⟩
                  · intro _ _ _ same
                    cases same
                    exact ⟨verified.1, verified.2, rfl,
                      (verifyConfirmationToken_ok_iff digests ..).mp checked⟩
                  · rintro (missing | missing) <;> cases missing

theorem Validated.burn_cases {digests : Digests} {gateway : Gateway} {plane : TxPlane}
    {clock : Clock} {owner : Nat} {request : TxRequest} {after : Gateway}
    {reservation : Reservation}
    (facts : Validated digests gateway plane clock owner request after reservation) :
    ((isTreatedCritical gateway request = false ∨ gateway.confirmationSecret = none ∨
          request.confirmationToken = none) ∧
        reservation.burnedPayload = none ∧
        after.consumedConfirmations = gateway.consumedConfirmations) ∨
      ∃ payload token, isTreatedCritical gateway request = true ∧
        gateway.confirmationSecret.isSome = true ∧ request.confirmationToken = some token ∧
        reservation.burnedPayload = some payload ∧
        Verified digests gateway.confirmationSecret gateway.consumedConfirmations token
          request.frame request.confirmationContext clock.verify payload
          (payloadExpiry payload) ∧
        after.consumedConfirmations = consumeConfirmation gateway.consumedConfirmations payload
          (payloadExpiry payload) clock.burn := by
  have consumed : after.consumedConfirmations =
      burnConsumed gateway.consumedConfirmations facts.pending clock.burn := by
    have result := congrArg Gateway.consumedConfirmations facts.result
    rw [burn_eq, facts.frame.consumed] at result
    exact result
  have idle : facts.pending = none → reservation.burnedPayload = none ∧
      after.consumedConfirmations = gateway.consumedConfirmations := by
    intro plain
    rw [plain] at consumed
    exact ⟨by rw [facts.burned, plain]; rfl, consumed⟩
  cases critical : isTreatedCritical gateway request with
  | false => exact Or.inl ⟨Or.inl rfl, idle (facts.admitted.plain critical)⟩
  | true =>
      obtain ⟨_, verified, _, absent⟩ := confirmationStage_ok (facts.admitted.confirmed critical)
      cases secret : gateway.confirmationSecret with
      | none => exact Or.inl ⟨Or.inr (Or.inl rfl), idle (absent (Or.inl secret))⟩
      | some key =>
          cases token : request.confirmationToken with
          | none => exact Or.inl ⟨Or.inr (Or.inr rfl), idle (absent (Or.inr token))⟩
          | some presented =>
              obtain ⟨payload, expiry, burned, checked⟩ := verified key presented secret token
              have sameExpiry := checked.expiry
              subst sameExpiry
              rw [burned] at consumed
              rw [secret] at checked
              exact Or.inr ⟨payload, presented, rfl, rfl, rfl, by rw [facts.burned, burned]; rfl,
                checked, consumed⟩

end Ucanlab.Safety
