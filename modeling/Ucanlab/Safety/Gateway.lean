import Ucanlab.Safety.Confirmation
import Ucanlab.Safety.E2E.Packager
import Ucanlab.Safety.EStop
import Ucanlab.Safety.ReadOnlyPolicy
import Ucanlab.Safety.Supervisor
import Ucanlab.Safety.TxBudget

/-!
The transmit gateway: its state, the policy stages a frame passes under the
gateway lock, the reservation a validated frame holds until it is dispatched,
and the other operations on the gateway.
-/

namespace Ucanlab.Safety

open Ucanlab E2E SlidingWindow

def rateEstopAfter : Nat := 5
def whitelistEstopAfter : Nat := 5
def whitelistMissStreakWindowNs : Nat := 1000000000

structure Bus where
  identity : Nat
  interface : Option String
  isVirtualBus : Bool
  deriving DecidableEq, Repr

def Bus.isVirtual (bus : Bus) : Bool :=
  bus.interface == some "virtual" || bus.isVirtualBus

def isSynthetic (frame : CanFrame) : Bool :=
  frame.source == .virtual || frame.source == .synthetic

inductive LinkFaultKind where
  | busOff
  | hardwareDisconnect
  | communicationTimeout
  deriving DecidableEq, Repr

def LinkFaultKind.source : LinkFaultKind → EStopTriggerSource
  | .busOff => .busOffDetected
  | .hardwareDisconnect => .hardwareDisconnect
  | .communicationTimeout => .communicationTimeout

structure Gateway where
  bus : Bus
  whitelistConfig : WhitelistConfig
  whitelistBypassForTesting : Bool
  e2ePackager : Option Packager
  e2eProfiles : Nat → Option E2EProfileConfig
  confirmationSecret : Option Bytes
  allowLegacyBooleanConfirm : Bool
  consumedConfirmations : ReplayStore Bytes
  whitelistMissStreak : Nat
  whitelistLastMissNs : Nat
  rateOverloadStreak : Nat
  totalOverloadStreak : Nat
  ledger : TxLedger
  speed : SpeedChannel
  linkFaultLatched : List LinkFaultKind
  linkFaultEpoch : Nat
  readOnlyPolicy : Option ReadOnlyPolicy

/-- The constructor's arguments besides the bus and the components it consults. -/
structure GatewayOptions where
  whitelistIds : Option (List Nat) := none
  whitelistMasks : Option (List (Int × Int)) := none
  e2ePackager : Option Packager := none
  e2eProfiles : Nat → Option E2EProfileConfig := fun _ => none
  confirmationSecret : Option Bytes := none
  allowLegacyBooleanConfirm : Bool := false
  whitelistSupersetAllowed : Bool := false

/-- The state the constructor leaves once the masks are accepted. -/
def Gateway.configured (bus : Bus) (config : WhitelistConfig) (options : GatewayOptions)
    (epoch now : Nat) : Gateway where
  bus := bus
  whitelistConfig := config
  whitelistBypassForTesting := false
  e2ePackager := options.e2ePackager
  e2eProfiles := options.e2eProfiles
  confirmationSecret := options.confirmationSecret
  allowLegacyBooleanConfirm := options.allowLegacyBooleanConfirm
  consumedConfirmations := ReplayStore.empty
  whitelistMissStreak := 0
  whitelistLastMissNs := 0
  rateOverloadStreak := 0
  totalOverloadStreak := 0
  ledger := TxLedger.new now
  speed := SpeedChannel.initial
  linkFaultLatched := []
  linkFaultEpoch := epoch
  readOnlyPolicy := none

def Gateway.new (bus : Bus) (estop : EStop) (options : GatewayOptions) (now : Nat) :
    Except MaskError Gateway :=
  match WhitelistConfig.new options.whitelistIds options.whitelistMasks
      options.whitelistSupersetAllowed with
  | .error e => .error e
  | .ok config => .ok (Gateway.configured bus config options estop.epoch now)

/-- `for_testing`: a gateway whose whitelist stage is bypassed. -/
def Gateway.forTesting (gateway : Gateway) : Gateway :=
  { gateway with whitelistBypassForTesting := true }

structure TxRequest where
  frame : CanFrame
  isCriticalCommand : Bool := false
  userConfirmed : Bool := false
  budgetCategory : String := "default"
  confirmationToken : Option TokenInput := none
  inboundTriggered : Bool := false
  confirmationContext : Option Bytes := none

/-- The readings of the monotonic clock one validation takes, in their order. -/
structure Clock where
  start : Nat
  verify : Nat
  bucket : Nat
  burn : Nat
  verifyAfter : start ≤ verify
  bucketAfter : verify ≤ bucket
  burnAfter : bucket ≤ burn

def Clock.at (now : Nat) : Clock where
  start := now
  verify := now
  bucket := now
  burn := now
  verifyAfter := Nat.le_refl _
  bucketAfter := Nat.le_refl _
  burnAfter := Nat.le_refl _

/-- The components whose state the second stage consults. -/
structure TxPlane where
  supervisor : Option Supervisor
  watchdog : Option Watchdog
  estop : EStop

inductive Refusal where
  | idOutOfRange (arbitrationId maxId : Nat)
  | classicPayload (length : Nat)
  | fdPayload (length : Nat)
  | safetyState (state : SafetyState)
  | leaseExpired
  | estopActive
  | readOnlyViolation (violation : Option ReadOnlyViolation)
  | whitelistEmpty
  | whitelistViolation (arbitrationId : Nat)
  | speedStale
  | speedMoving (speed : SpeedValue)
  | confirmation (failure : ConfirmationFailure)
  | unknownCategory (category : String)
  | envelopeExceeded
  | simulationReserved (source : FrameSource) (interface : Option String)
  | rateExceeded
  | budgetExhausted (lane : Lane) (capacity : Nat)
  | e2eStampFailed (cause : PackageError)
  | fenceInvalidated
  deriving DecidableEq, Repr

/-- The code of the exception; a critical command under a read-only policy is
reported as such. -/
def Refusal.code : Refusal → String
  | .idOutOfRange _ _ | .classicPayload _ | .fdPayload _ => "INVALID_FRAME_SANITY"
  | .safetyState _ => "SAFETY_STATE_BLOCKED"
  | .leaseExpired => "WATCHDOG_LEASE_EXPIRED"
  | .estopActive => "ESTOP_ACTIVE"
  | .readOnlyViolation _ => "READ_ONLY_VIOLATION"
  | .whitelistEmpty => "WHITELIST_FAIL_CLOSED"
  | .whitelistViolation _ => "WHITELIST_VIOLATION"
  | .speedStale => "SPEED_DATA_STALE"
  | .speedMoving _ => "SPEED_INTERLOCK_ACTIVE"
  | .confirmation _ => "CONFIRMATION_REQUIRED"
  | .unknownCategory _ | .simulationReserved _ _ => "INVALID_FRAME_SANITY"
  | .envelopeExceeded | .rateExceeded | .budgetExhausted _ _ => "RATE_LIMIT_EXCEEDED"
  | .e2eStampFailed _ => "E2E_STAMP_FAILED"
  | .fenceInvalidated => "ESTOP_TX_FENCE_INVALIDATED"

/-- A refusal under the gateway lock: the state it leaves and the engagements
it parks until the lock is released. -/
structure Rejection where
  refusal : Refusal
  gateway : Gateway
  requests : List EStopEvent

/-- A validated frame on its way to the bus. -/
structure Reservation where
  frame : CanFrame
  isCriticalCommand : Bool
  charge : Charge
  burnedPayload : Option Bytes
  estopSnapshot : Bool
  fenceSnapshot : Nat

section Stages

def frameSanity (frame : CanFrame) : Option Refusal :=
  if ¬ frame.arbitrationId ≤ maxId frame.isExtended then
    some (.idOutOfRange frame.arbitrationId (maxId frame.isExtended))
  else if ¬ frame.isFd ∧ frame.data.length > 8 then some (.classicPayload frame.data.length)
  else if frame.isFd ∧ frame.data.length > 64 then some (.fdPayload frame.data.length)
  else none

def txPermission (plane : TxPlane) (now : Nat) : Option Refusal :=
  match plane.supervisor.filter (fun supervisor => !supervisor.isTxPermitted) with
  | some supervisor => some (.safetyState supervisor.state)
  | none =>
      if plane.watchdog.any (fun watchdog => !watchdog.isLeaseValid now) then some .leaseExpired
      else if plane.estop.engaged then some .estopActive
      else none

def readOnlyStage (policy : Option ReadOnlyPolicy) (frame : CanFrame) (critical : Bool)
    (now : Nat) : Option Refusal :=
  match policy with
  | none => none
  | some active =>
      match active.violation frame now with
      | some violation => some (.readOnlyViolation (some violation))
      | none => if critical then some (.readOnlyViolation none) else none

def decayedMissStreak (streak lastMissNs now : Nat) : Nat :=
  if now - lastMissNs > whitelistMissStreakWindowNs then 0 else streak

def Gateway.recordMiss (gateway : Gateway) (now : Nat) : Gateway :=
  let lastMissNs := if gateway.whitelistLastMissNs = 0 then now else gateway.whitelistLastMissNs
  { gateway with
    whitelistMissStreak := decayedMissStreak gateway.whitelistMissStreak lastMissNs now + 1
    whitelistLastMissNs := now }

def whitelistStage (gateway : Gateway) (frame : CanFrame) (now : Nat) : Option Rejection :=
  if gateway.whitelistBypassForTesting then none
  else if gateway.whitelistConfig.whitelist.isEmpty then
    some { refusal := .whitelistEmpty, gateway := gateway, requests := [] }
  else if gateway.whitelistConfig.whitelist.authorizes frame.arbitrationId then none
  else
    let missed := gateway.recordMiss now
    some {
      refusal := .whitelistViolation frame.arbitrationId
      gateway := missed
      requests :=
        if missed.whitelistMissStreak ≥ whitelistEstopAfter then
          [{ trigger := .unauthorizedPayload
             reason := .whitelistStreak frame.arbitrationId missed.whitelistMissStreak }]
        else []
    }

/-- An engagement decided by the interlock reports the physical speed; a zero
reading is reported as the default. -/
def speedStage (channel : SpeedChannel) (now : Nat) : Option (Refusal × EStopEvent) :=
  if channel.isStale now speedValidityTimeoutNs then
    some (.speedStale, {
      trigger := .speedInterlockBreach
      reason := .speedStale
      systemSpeedKmh := channel.physicalKmh })
  else if channel.isMoving then
    some (.speedMoving channel.physicalKmh, {
      trigger := .speedInterlockBreach
      reason := .speedMoving channel.physicalKmh
      systemSpeedKmh := channel.physicalKmh })
  else none

/-- The token is verified here and consumed only at the point of no return. -/
def confirmationStage (digests : Digests) (gateway : Gateway) (request : TxRequest) (now : Nat) :
    Except ConfirmationFailure (Option (Bytes × Nat)) :=
  let presented : Except ConfirmationFailure (Option (Bytes × Nat)) :=
    match gateway.confirmationSecret, request.confirmationToken with
    | some _, some token =>
        match verifyConfirmationToken digests gateway.confirmationSecret
            gateway.consumedConfirmations token request.frame request.confirmationContext now with
        | .error e => .error e
        | .ok verified => .ok (some verified)
    | _, _ => .ok none
  match presented with
  | .error e => .error e
  | .ok pending =>
      if ¬ request.userConfirmed then .error .operatorMissing
      else if gateway.confirmationSecret.isSome ∧ request.confirmationToken.isNone ∧
          ¬ gateway.allowLegacyBooleanConfirm then .error .tokenRequired
      else .ok pending

/-- Stages 1 to 5; passing them leaves the gateway as it was. -/
def admission (digests : Digests) (gateway : Gateway) (plane : TxPlane) (clock : Clock)
    (request : TxRequest) (critical : Bool) : Except Rejection (Option (Bytes × Nat)) :=
  let refuse (refusal : Refusal) : Except Rejection (Option (Bytes × Nat)) :=
    .error { refusal := refusal, gateway := gateway, requests := [] }
  match frameSanity request.frame with
  | some refusal => refuse refusal
  | none =>
  match txPermission plane clock.start with
  | some refusal => refuse refusal
  | none =>
  match readOnlyStage gateway.readOnlyPolicy request.frame critical clock.start with
  | some refusal => refuse refusal
  | none =>
  match whitelistStage gateway request.frame clock.start with
  | some rejection => .error rejection
  | none =>
  if ¬ critical then .ok none
  else
    match speedStage gateway.speed clock.start with
    | some (refusal, event) =>
        .error { refusal := refusal, gateway := gateway, requests := [event] }
    | none =>
        match confirmationStage digests gateway request clock.verify with
        | .error failure => refuse (.confirmation failure)
        | .ok pending => .ok pending

/-- The window over all lanes has no room. -/
def Gateway.envelopeFull (gateway : Gateway) (now : Nat) : Bool :=
  decide ((gateway.ledger.pruneTotal now).txTotalTimestamps.length ≥ maxTotalTxPerSec)

def Gateway.laneFull (gateway : Gateway) (now : Nat) : Bool :=
  decide ((gateway.ledger.pruneLane now).txTimestamps.length ≥ maxTxRatePerSec)

def Gateway.bucketDry (gateway : Gateway) (lane : Lane) (now : Nat) : Bool :=
  !((gateway.ledger.budgets lane).tryConsume now 1).2

def Gateway.simulationMisused (gateway : Gateway) (lane : Lane) (frame : CanFrame) : Bool :=
  lane == .simulation && !(gateway.bus.isVirtual && isSynthetic frame)

def Gateway.overEnvelope (gateway : Gateway) (now : Nat) : Gateway :=
  { gateway with
    ledger := gateway.ledger.pruneTotal now
    totalOverloadStreak := gateway.totalOverloadStreak + 1 }

def Gateway.withinEnvelope (gateway : Gateway) (now : Nat) : Gateway :=
  { gateway with
    ledger := gateway.ledger.pruneTotal now
    totalOverloadStreak := 0 }

def Gateway.chargeEnvelope (gateway : Gateway) (now owner : Nat) : Gateway :=
  { gateway.withinEnvelope now with
    ledger := (gateway.ledger.pruneTotal now).reserveTotal now owner }

def Gateway.overLane (gateway : Gateway) (now : Nat) : Gateway :=
  { gateway with
    ledger := gateway.ledger.pruneLane now
    rateOverloadStreak := gateway.rateOverloadStreak + 1 }

def Gateway.chargeLane (gateway : Gateway) (now owner : Nat) : Gateway :=
  { gateway with
    ledger := (gateway.ledger.pruneLane now).reserveLane now owner
    rateOverloadStreak := 0 }

def Gateway.drawBucket (gateway : Gateway) (lane : Lane) (now : Nat) : Gateway :=
  { gateway with
    ledger := gateway.ledger.setBudget lane ((gateway.ledger.budgets lane).tryConsume now 1).1 }

/-- Responses to inbound traffic are counted but never escalate. -/
def overloadRequests (reason : EStopReason) (streak : Nat) (inboundTriggered : Bool) :
    List EStopEvent :=
  if streak ≥ rateEstopAfter ∧ ¬ inboundTriggered then
    [{ trigger := .rateLimitOverflow, reason := reason }]
  else []

/-- The meter of the lane itself, after the envelope has been charged. -/
def laneStage (gateway : Gateway) (lane : Lane) (totalStamp : Stamp) (clock : Clock)
    (owner : Nat) (inboundTriggered : Bool) : Except Rejection (Gateway × Charge) :=
  if lane = .default then
    if gateway.laneFull clock.start then
      let refused := gateway.overLane clock.start
      .error {
        refusal := .rateExceeded
        gateway := refused
        requests := overloadRequests (.rateOverload refused.rateOverloadStreak)
          refused.rateOverloadStreak inboundTriggered
      }
    else
      .ok (gateway.chargeLane clock.start owner,
        { totalStamp := totalStamp, meter := .window (gateway.ledger.nextStamp clock.start owner) })
  else if gateway.bucketDry lane clock.bucket then
    .error {
      refusal := .budgetExhausted lane (gateway.ledger.budgets lane).capacity
      gateway := gateway.drawBucket lane clock.bucket
      requests := []
    }
  else
    .ok (gateway.drawBucket lane clock.bucket,
      { totalStamp := totalStamp, meter := .bucket lane gateway.ledger.budgetGeneration })

/-- Stage 6. The stamp over all lanes is taken before the lane's own meter. -/
def rateStage (gateway : Gateway) (clock : Clock) (owner : Nat) (request : TxRequest) :
    Except Rejection (Gateway × Charge) :=
  match Lane.ofCategory request.budgetCategory with
  | none =>
      .error { refusal := .unknownCategory request.budgetCategory, gateway := gateway,
               requests := [] }
  | some lane =>
      if gateway.envelopeFull clock.start then
        let refused := gateway.overEnvelope clock.start
        .error {
          refusal := .envelopeExceeded
          gateway := refused
          requests := overloadRequests (.envelopeOverload refused.totalOverloadStreak)
            refused.totalOverloadStreak request.inboundTriggered
        }
      else if gateway.simulationMisused lane request.frame then
        .error {
          refusal := .simulationReserved request.frame.source gateway.bus.interface
          gateway := gateway.withinEnvelope clock.start
          requests := []
        }
      else
        laneStage (gateway.chargeEnvelope clock.start owner) lane
          ((gateway.ledger.pruneTotal clock.start).nextStamp clock.start owner) clock owner
          request.inboundTriggered

def Gateway.sealStage (gateway : Gateway) (frame : CanFrame) :
    Gateway × Except PackageError CanFrame :=
  match gateway.e2ePackager, gateway.e2eProfiles frame.arbitrationId with
  | some packager, some profile =>
      let packaged := packager.package frame profile none
      ({ gateway with e2ePackager := some packaged.1 }, packaged.2)
  | _, _ => (gateway, .ok frame)

def Gateway.rollback (gateway : Gateway) (charge : Charge) (burnedPayload : Option Bytes) :
    Gateway :=
  { gateway with
    ledger := gateway.ledger.rollback charge
    consumedConfirmations := refundConfirmation gateway.consumedConfirmations burnedPayload }

def Gateway.burn (gateway : Gateway) (pending : Option (Bytes × Nat)) (now : Nat) : Gateway :=
  match pending with
  | none => gateway
  | some (payload, expiry) =>
      { gateway with
        consumedConfirmations :=
          consumeConfirmation gateway.consumedConfirmations payload expiry now }

/-- The caller's flag can only tighten what the frame's own bytes say. -/
def isTreatedCritical (gateway : Gateway) (request : TxRequest) : Bool :=
  request.isCriticalCommand ||
    frameIsCritical gateway.whitelistConfig.whitelist request.frame

/-- The locked phase of `validate_and_transmit`. -/
def Gateway.validateLocked (digests : Digests) (gateway : Gateway) (plane : TxPlane)
    (clock : Clock) (owner : Nat) (request : TxRequest) :
    Except Rejection (Gateway × Reservation) :=
  let critical := isTreatedCritical gateway request
  match admission digests gateway plane clock request critical with
  | .error rejection => .error rejection
  | .ok pending =>
      match rateStage gateway clock owner request with
      | .error rejection => .error rejection
      | .ok (charged, charge) =>
          match charged.sealStage request.frame with
          | (counted, .error cause) =>
              .error {
                refusal := .e2eStampFailed cause
                gateway := counted.rollback charge none
                requests := []
              }
          | (counted, .ok frame) =>
              .ok (counted.burn pending clock.burn, {
                frame := frame
                isCriticalCommand := critical
                charge := charge
                burnedPayload := pending.map Prod.fst
                estopSnapshot := plane.estop.engaged
                fenceSnapshot := plane.estop.txFence
              })

def Reservation.guardRefuses (reservation : Reservation) (estop : EStop) : Bool :=
  reservation.estopSnapshot || estop.engaged

/-- Phase 3: the check under the send lock. -/
def Reservation.fenceRefuses (reservation : Reservation) (estop : EStop) : Bool :=
  reservation.fenceSnapshot != estop.txFence || estop.engaged

end Stages

namespace Gateway

def updateVehicleSpeed (gateway : Gateway) (speed : SpeedValue) (source : String) (now : Nat) :
    Gateway :=
  { gateway with speed := gateway.speed.update speed source now }

/-- The gateway's part of the callback on an engagement. -/
def onEstopTriggered (gateway : Gateway) : Gateway :=
  { gateway with
    ledger := gateway.ledger.clearLane
    rateOverloadStreak := 0
    whitelistMissStreak := 0
    whitelistLastMissNs := 0 }

def onSafetyStateChanged (gateway : Gateway) (newState : SafetyState) : Gateway :=
  { gateway with
    ledger := if newState = .fault then gateway.ledger.clearLane else gateway.ledger
    readOnlyPolicy := if newState.withdrawsTx then none else gateway.readOnlyPolicy }

def installReadOnlyPolicy (gateway : Gateway) (policy : ReadOnlyPolicy) : Gateway :=
  { gateway with readOnlyPolicy := some policy }

def clearReadOnlyPolicy (gateway : Gateway) : Gateway :=
  { gateway with readOnlyPolicy := none }

/-- The section of `rebind_bus` under the gateway lock. -/
def rebindBus (gateway : Gateway) (bus : Bus) (now : Nat) : Gateway :=
  { gateway with
    bus := bus
    ledger := gateway.ledger.rebind now
    rateOverloadStreak := 0
    totalOverloadStreak := 0
    whitelistMissStreak := 0
    whitelistLastMissNs := 0 }

/-- A refused mask list raises after the identifiers were replaced and before
the streak is reset. -/
def rebindWhitelist (gateway : Gateway) (change : WhitelistChange) :
    Gateway × Option MaskError :=
  match gateway.whitelistConfig.rebind change with
  | (config, some e) => ({ gateway with whitelistConfig := config }, some e)
  | (config, none) =>
      ({ gateway with
          whitelistConfig := config
          whitelistMissStreak := 0
          whitelistLastMissNs := 0 }, none)

def registerE2eProfile (gateway : Gateway) (arbitrationId : Nat) (profile : E2EProfileConfig) :
    Gateway :=
  { gateway with
    e2ePackager := some (gateway.e2ePackager.getD Packager.fresh)
    e2eProfiles := fun other =>
      if other = arbitrationId then some profile else gateway.e2eProfiles other }

def currentLatches (gateway : Gateway) (estop : EStop) : List LinkFaultKind :=
  if estop.epoch ≠ gateway.linkFaultEpoch then [] else gateway.linkFaultLatched

/-- The section of `_notify_link_fault` under the gateway lock; `true` when an
engagement is to follow. -/
def notifyLinkFault (gateway : Gateway) (kind : LinkFaultKind) (plane : TxPlane) :
    Gateway × Bool :=
  let latched := gateway.currentLatches plane.estop
  if kind ∈ latched then
    ({ gateway with linkFaultLatched := latched, linkFaultEpoch := plane.estop.epoch }, false)
  else
    ({ gateway with
        linkFaultLatched := kind :: latched
        linkFaultEpoch := plane.estop.epoch },
      !plane.estop.engaged && plane.supervisor.all Supervisor.isTxPermitted)

def clearLinkFault (gateway : Gateway) (kind : LinkFaultKind) : Gateway :=
  { gateway with linkFaultLatched := gateway.linkFaultLatched.filter (fun other => other ≠ kind) }

end Gateway

end Ucanlab.Safety
