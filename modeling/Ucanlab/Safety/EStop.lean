import Ucanlab.Core.CanFrame

/-!
The two speed channels of the gateway: the physical one, which the interlock
reads, and the display mirror.
-/

namespace Ucanlab.Safety

inductive SpeedValue where
  | nan
  | infinite (positive : Bool)
  | finite (value : ℚ)
  deriving DecidableEq, Repr

def speedNoiseThresholdKmh : ℚ := 1 / 2
def speedMaxPlausibleKmh : ℚ := 300
def speedValidityTimeoutNs : Nat := 1000000000

/-- `speed > limit`, which is false for NaN. -/
def SpeedValue.exceeds (speed : SpeedValue) (limit : ℚ) : Bool :=
  match speed with
  | .nan => false
  | .infinite positive => positive
  | .finite value => decide (limit < value)

/-- A physical sample that is neither corrupted nor out of range. -/
def SpeedValue.credible (speed : SpeedValue) : Bool :=
  match speed with
  | .finite value => decide (0 ≤ value ∧ value ≤ speedMaxPlausibleKmh)
  | _ => false

def SpeedValue.displayable (speed : SpeedValue) : Bool :=
  match speed with
  | .finite value => decide (0 ≤ value)
  | _ => false

/-- Freshness is only ever recorded together with a credible value. -/
structure SpeedChannel where
  physicalKmh : SpeedValue
  displayKmh : SpeedValue
  lastUpdateNs : Nat
  backed : lastUpdateNs ≠ 0 → physicalKmh.credible = true
  deriving DecidableEq

namespace SpeedChannel

def initial : SpeedChannel where
  physicalKmh := .finite 0
  displayKmh := .finite 0
  lastUpdateNs := 0
  backed := fun recorded => absurd rfl recorded

/-- Any source but `"physical"` writes the display mirror only. -/
def update (channel : SpeedChannel) (speed : SpeedValue) (source : String) (now : Nat) :
    SpeedChannel :=
  if source ≠ "physical" then
    { channel with displayKmh := if speed.displayable then speed else .nan }
  else if credible : speed.credible = true then
    {
      physicalKmh := speed
      displayKmh := speed
      lastUpdateNs := now
      backed := fun _ => credible
    }
  else
    {
      physicalKmh := .nan
      displayKmh := .nan
      lastUpdateNs := 0
      backed := fun recorded => absurd rfl recorded
    }

def isStale (channel : SpeedChannel) (now maxAgeNs : Nat) : Bool :=
  decide (channel.lastUpdateNs = 0 ∨ now - channel.lastUpdateNs > maxAgeNs)

def isMoving (channel : SpeedChannel) : Bool :=
  channel.physicalKmh.exceeds speedNoiseThresholdKmh

/-- The reading a critical command needs. -/
structure Standstill (channel : SpeedChannel) (now : Nat) : Prop where
  recorded : channel.lastUpdateNs ≠ 0
  fresh : now - channel.lastUpdateNs ≤ speedValidityTimeoutNs
  slow : ∃ value : ℚ, channel.physicalKmh = .finite value ∧ 0 ≤ value ∧
    value ≤ speedNoiseThresholdKmh

theorem standstill_of_checks (channel : SpeedChannel) (now : Nat)
    (fresh : channel.isStale now speedValidityTimeoutNs = false)
    (still : channel.isMoving = false) : channel.Standstill now := by
  simp only [isStale, decide_eq_false_iff_not, not_or, Nat.not_lt] at fresh
  have credible := channel.backed fresh.1
  refine ⟨fresh.1, fresh.2, ?_⟩
  unfold isMoving at still
  cases value : channel.physicalKmh with
  | nan =>
      rw [value] at credible
      cases credible
  | infinite positive =>
      rw [value] at credible
      cases credible
  | finite speed =>
      rw [value] at credible still
      simp only [SpeedValue.credible, decide_eq_true_eq] at credible
      simp only [SpeedValue.exceeds, decide_eq_false_iff_not, not_lt] at still
      exact ⟨speed, rfl, credible.1, still⟩

theorem update_other (channel : SpeedChannel) (speed : SpeedValue) {source : String}
    (other : source ≠ "physical") (now : Nat) :
    (channel.update speed source now).physicalKmh = channel.physicalKmh ∧
      (channel.update speed source now).lastUpdateNs = channel.lastUpdateNs := by
  unfold update
  rw [if_pos other]
  exact ⟨rfl, rfl⟩

theorem update_physical (channel : SpeedChannel) (speed : SpeedValue) (now : Nat) :
    (channel.update speed "physical" now).physicalKmh =
        (if speed.credible then speed else .nan) ∧
      (channel.update speed "physical" now).lastUpdateNs =
        (if speed.credible then now else 0) := by
  unfold update
  rw [if_neg (not_not.mpr rfl)]
  split
  · exact ⟨rfl, rfl⟩
  · exact ⟨rfl, rfl⟩

end SpeedChannel

end Ucanlab.Safety

/-!
The emergency stop: engagement, the challenge that clears it, the reset epoch
and the transmit fence. A reset has two critical sections, the verification
that disengages and the later publication of the fence.
-/

namespace Ucanlab.Safety

open Ucanlab

inductive EStopTriggerSource where
  | userUiButton
  | busOffDetected
  | keepaliveTimeout
  | speedInterlockBreach
  | hardwareDisconnect
  | rateLimitOverflow
  | unauthorizedPayload
  | temperatureOverheat
  | processTermination
  | communicationTimeout
  deriving DecidableEq, Repr

/-- The gateway's own reasons, and those of other callers. -/
inductive EStopReason where
  | whitelistStreak (arbitrationId streak : Nat)
  | speedStale
  | speedMoving (speed : SpeedValue)
  | envelopeOverload (streak : Nat)
  | rateOverload (streak : Nat)
  | reported (text : String)
  deriving DecidableEq, Repr

structure EStopEvent where
  trigger : EStopTriggerSource
  reason : EStopReason
  systemSpeedKmh : SpeedValue := .finite 0
  deriving DecidableEq, Repr

structure EStopChallenge where
  epoch : Nat
  nonce : Bytes
  timestampNs : Nat
  maxAgeNs : Nat
  deriving DecidableEq, Repr

def EStopChallenge.isExpired (challenge : EStopChallenge) (now : Nat) : Bool :=
  decide (now - challenge.timestampNs > challenge.maxAgeNs)

structure EStop where
  engaged : Bool
  epoch : Nat
  txFence : Nat
  challenge : Option EStopChallenge
  consumedNonces : List Bytes
  lastEvent : Option EStopEvent
  failedResetAttempts : Nat
  resetBackoffUntilNs : Nat
  maxTokenAgeNs : Nat
  deriving DecidableEq

namespace EStop

def maxConsumedNonces : Nat := 1024
def resetBackoffBaseNs : Nat := 200000000
def resetBackoffCapNs : Nat := 5000000000

def new (maxTokenAgeNs : Nat) : EStop where
  engaged := false
  epoch := 0
  txFence := 0
  challenge := none
  consumedNonces := []
  lastEvent := none
  failedResetAttempts := 0
  resetBackoffUntilNs := 0
  maxTokenAgeNs := maxTokenAgeNs

def challengeOnTrigger (estop : EStop) (now : Nat) (nonce : Bytes) : EStopChallenge :=
  let fresh : EStopChallenge := {
    epoch := estop.epoch
    nonce := nonce
    timestampNs := now
    maxAgeNs := estop.maxTokenAgeNs
  }
  match estop.challenge with
  | none => fresh
  | some active => if ¬ estop.engaged ∨ active.isExpired now then fresh else active

/-- The critical section of `trigger`; `nonce` stands for the random bytes. -/
def trigger (estop : EStop) (event : EStopEvent) (now : Nat) (nonce : Bytes) : EStop :=
  { estop with
    engaged := true
    challenge := some (estop.challengeOnTrigger now nonce)
    lastEvent := some event
    txFence := estop.txFence + 1 }

def advanceTxFence (estop : EStop) : EStop := { estop with txFence := estop.txFence + 1 }

def resetFailure (estop : EStop) (now : Nat) : EStop :=
  let attempts := estop.failedResetAttempts + 1
  { estop with
    failedResetAttempts := attempts
    resetBackoffUntilNs :=
      if attempts ≥ 2 then
        now + min (resetBackoffBaseNs * 2 ^ min (attempts - 2) 5) resetBackoffCapNs
      else estop.resetBackoffUntilNs }

/-- What the checks on a presented reset token come to. -/
inductive ResetVerdict where
  | granted
  | denied
  | expired
  deriving DecidableEq, Repr

inductive ResetOutcome where
  | notEngaged
  | refused
  | disengaged
  deriving DecidableEq, Repr

def recordConsumedNonce (nonces : List Bytes) (nonce : Bytes) : List Bytes :=
  let kept := if nonce ∈ nonces then nonces else nonces ++ [nonce]
  kept.drop (kept.length - maxConsumedNonces)

/-- Phase 1 of `reset`. -/
def resetVerify (estop : EStop) (verdict : ResetVerdict) (now : Nat) : EStop × ResetOutcome :=
  if ¬ estop.engaged then (estop, .notEngaged)
  else
    match estop.challenge with
    | none => (estop.resetFailure now, .refused)
    | some challenge =>
        match verdict with
        | .denied => (estop.resetFailure now, .refused)
        | .expired => ({ estop with challenge := none }.resetFailure now, .refused)
        | .granted =>
            ({ estop with
                engaged := false
                challenge := none
                epoch := estop.epoch + 1
                consumedNonces := recordConsumedNonce estop.consumedNonces challenge.nonce
                failedResetAttempts := 0
                resetBackoffUntilNs := 0 }, .disengaged)

/-- Phase 2 of `reset`, under the send lock. -/
def resetPublish (estop : EStop) : EStop := estop.advanceTxFence

/-- Phase 1 never touches the fence; it either disengages into the next epoch
or leaves engagement and epoch alone. -/
theorem resetVerify_cases (estop : EStop) (verdict : ResetVerdict) (now : Nat) :
    (estop.resetVerify verdict now).1.txFence = estop.txFence ∧
      (((estop.resetVerify verdict now).2 = .disengaged ∧ estop.engaged = true ∧
          (estop.resetVerify verdict now).1.engaged = false ∧
          (estop.resetVerify verdict now).1.epoch = estop.epoch + 1) ∨
        ((estop.resetVerify verdict now).2 ≠ .disengaged ∧
          (estop.resetVerify verdict now).1.engaged = estop.engaged ∧
          (estop.resetVerify verdict now).1.epoch = estop.epoch)) := by
  unfold resetVerify
  split
  · exact ⟨rfl, Or.inr ⟨nofun, rfl, rfl⟩⟩
  · rename_i engaged
    split
    · exact ⟨rfl, Or.inr ⟨nofun, rfl, rfl⟩⟩
    · cases verdict with
      | granted => exact ⟨rfl, Or.inl ⟨rfl, by simpa using engaged, rfl, rfl⟩⟩
      | denied => exact ⟨rfl, Or.inr ⟨nofun, rfl, rfl⟩⟩
      | expired => exact ⟨rfl, Or.inr ⟨nofun, rfl, rfl⟩⟩

end EStop

end Ucanlab.Safety
