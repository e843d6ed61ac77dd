import Ucanlab.Core.PyText
import Ucanlab.Lib.ReplayStore

/-!
Confirmation tokens of critical commands: minting, verification and the table
of consumed payloads.
-/

namespace Ucanlab.Safety

open Ucanlab

inductive TokenInput where
  | bytes (raw : Bytes)
  | text (chars : List Char)
  | other
  deriving DecidableEq

inductive ConfirmationFailure where
  | malformed
  | noSecret
  | invalid
  | arbitrationMismatch
  | payloadMismatch
  | actionMismatch
  | actionNotVerified
  | lacksActionBinding
  | expired
  | alreadyConsumed
  | operatorMissing
  | tokenRequired
  deriving DecidableEq, Repr

def ConfirmationFailure.message : ConfirmationFailure → String
  | .malformed => "Critical command rejected: malformed confirmation token"
  | .noSecret => "Critical command rejected: no confirmation secret configured"
  | .invalid => "Critical command rejected: invalid confirmation token"
  | .arbitrationMismatch => "Critical command rejected: confirmation token arbitration mismatch"
  | .payloadMismatch => "Critical command rejected: confirmation token payload mismatch"
  | .actionMismatch => "Critical command rejected: confirmation token action mismatch"
  | .actionNotVerified =>
      "Critical command rejected: confirmation token action binding not verified"
  | .lacksActionBinding => "Critical command rejected: confirmation token lacks action binding"
  | .expired => "Critical command rejected: confirmation token expired"
  | .alreadyConsumed => "Critical command rejected: confirmation token already consumed"
  | .operatorMissing => "Critical command rejected: Operator dual-confirmation missing"
  | .tokenRequired =>
      "Critical command rejected: confirmation token required " ++
        "(a confirmation secret is configured on this gateway)"

def confirmBaseLen : Nat := 4 + 8 + 16
def confirmBindLen : Nat := 4 + 8 + 16 + 8 + 8

def consumedConfirmationsMax : Nat := 1024

def payloadArbitrationId (payload : Bytes) : Nat := natFromBytes (payload.take 4)

def payloadExpiry (payload : Bytes) : Nat := natFromBytes ((payload.drop 4).take 8)

variable (digests : Digests)

def confirmationPayloadHash (data : Bytes) : Bytes := (digests.sha256 data).take 8

def confirmationContextHash (context : Option Bytes) : Bytes :=
  match context with
  | none => List.replicate 8 0x00
  | some raw => (digests.sha256 raw).take 8

inductive IssueFailure where
  | notConfigured
  | payloadUnbound
  deriving DecidableEq, Repr

def IssueFailure.code : IssueFailure → String
  | .notConfigured => "CONFIRMATION_NOT_CONFIGURED"
  | .payloadUnbound => "CONFIRMATION_PAYLOAD_UNBOUND"

/-- The lifetime is at least one second; `nonce` stands for the random bytes. -/
def issueConfirmationToken (secret : Option Bytes) (arbitrationId ttlNs now : Nat) (nonce : Bytes)
    (payloadHash : Option Bytes) (context : Option Bytes) : Except IssueFailure Bytes :=
  match secret with
  | none => .error .notConfigured
  | some key =>
      let base := natToBytes 4 arbitrationId ++ natToBytes 8 (now + max 1000000000 ttlNs) ++ nonce
      match payloadHash with
      | none =>
          if context.isSome then .error .payloadUnbound
          else .ok (base ++ digests.hmacSha256 key base)
      | some hash =>
          let bound := hash.take 8 ++ List.replicate (8 - (hash.take 8).length) 0x00
          let payload := base ++ bound ++ confirmationContextHash digests context
          .ok (payload ++ digests.hmacSha256 key payload)

def tokenBytes (token : TokenInput) : Except ConfirmationFailure Bytes :=
  match token with
  | .bytes raw => .ok raw
  | .text chars =>
      match bytesFromHex (pyStrip chars) with
      | none => .error .malformed
      | some raw => .ok raw
  | .other => .error .malformed

def parseConfirmationToken (secret : Option Bytes) (token : TokenInput) :
    Except ConfirmationFailure Bytes :=
  match tokenBytes token with
  | .error e => .error e
  | .ok raw =>
      if ¬ (raw.length = confirmBaseLen + 32 ∨ raw.length = confirmBindLen + 32) then
        .error .malformed
      else
        let payload := raw.take (raw.length - 32)
        let mac := raw.drop (raw.length - 32)
        match secret with
        | none => .error .noSecret
        | some key =>
            if mac = digests.hmacSha256 key payload then .ok payload else .error .invalid

/-- The payload and context binding; `none` when the token may be used here. -/
def bindingFailure (payload data : Bytes) (expectedContext : Option Bytes) :
    Option ConfirmationFailure :=
  if payload.length = confirmBindLen then
    if (payload.drop 28).take 8 ≠ confirmationPayloadHash digests data then
      some .payloadMismatch
    else
      match expectedContext with
      | none => some .actionNotVerified
      | some context =>
          if (payload.drop 36).take 8 ≠ confirmationContextHash digests (some context) then
            some .actionMismatch
          else none
  else if expectedContext.isSome then some .lacksActionBinding
  else none

/-- `_verify_confirmation_token` without consuming; `now` is its own reading of
the clock. -/
def verifyConfirmationToken (secret : Option Bytes) (consumed : ReplayStore Bytes)
    (token : TokenInput) (frame : CanFrame) (expectedContext : Option Bytes) (now : Nat) :
    Except ConfirmationFailure (Bytes × Nat) :=
  match parseConfirmationToken digests secret token with
  | .error e => .error e
  | .ok payload =>
      if payloadArbitrationId payload ≠ frame.arbitrationId then .error .arbitrationMismatch
      else
        match bindingFailure digests payload frame.data expectedContext with
        | some failure => .error failure
        | none =>
            if now > payloadExpiry payload then .error .expired
            else if payload ∈ consumed then .error .alreadyConsumed
            else .ok (payload, payloadExpiry payload)

def consumeConfirmation (consumed : ReplayStore Bytes) (payload : Bytes) (expiry now : Nat) :
    ReplayStore Bytes :=
  consumed.record consumedConfirmationsMax payload expiry now

def refundConfirmation (consumed : ReplayStore Bytes) (payload : Option Bytes) :
    ReplayStore Bytes :=
  match payload with
  | none => consumed
  | some spent => consumed.erase spent

structure Verified (secret : Option Bytes) (consumed : ReplayStore Bytes) (token : TokenInput)
    (frame : CanFrame) (expectedContext : Option Bytes) (now : Nat) (payload : Bytes)
    (expiry : Nat) : Prop where
  authentic : parseConfirmationToken digests secret token = .ok payload
  arbitrationId : payloadArbitrationId payload = frame.arbitrationId
  binding : bindingFailure digests payload frame.data expectedContext = none
  unexpired : now ≤ payloadExpiry payload
  unused : payload ∉ consumed
  expiry : expiry = payloadExpiry payload

theorem verifyConfirmationToken_ok_iff (secret : Option Bytes) (consumed : ReplayStore Bytes)
    (token : TokenInput) (frame : CanFrame) (expectedContext : Option Bytes) (now : Nat)
    (payload : Bytes) (expiry : Nat) :
    verifyConfirmationToken digests secret consumed token frame expectedContext now =
        .ok (payload, expiry) ↔
      Verified digests secret consumed token frame expectedContext now payload expiry := by
  constructor
  · intro accepted
    unfold verifyConfirmationToken at accepted
    split at accepted
    · cases accepted
    · rename_i parsed parsing
      split at accepted
      · cases accepted
      · rename_i sameId
        split at accepted
        · cases accepted
        · rename_i bound
          split at accepted
          · cases accepted
          · rename_i unexpired
            split at accepted
            · cases accepted
            · rename_i unused
              cases accepted
              exact ⟨parsing, not_not.mp sameId, bound, Nat.le_of_not_lt unexpired, unused, rfl⟩
  · rintro ⟨authentic, arbitrationId, binding, unexpired, unused, rfl⟩
    unfold verifyConfirmationToken
    rw [authentic]
    dsimp only
    rw [if_neg (not_not.mpr arbitrationId), binding]
    dsimp only
    rw [if_neg (Nat.not_lt.mpr unexpired), if_neg unused]

theorem verifyConfirmationToken_not_ok {secret : Option Bytes} {consumed : ReplayStore Bytes}
    {payload : Bytes} {now : Nat} (spent : payload ∈ consumed ∨ payloadExpiry payload < now)
    (token : TokenInput) (frame : CanFrame) (expectedContext : Option Bytes) (expiry : Nat) :
    verifyConfirmationToken digests secret consumed token frame expectedContext now ≠
      .ok (payload, expiry) := by
  intro accepted
  have verified := (verifyConfirmationToken_ok_iff digests ..).mp accepted
  rcases spent with used | old
  · exact verified.unused used
  · have unexpired := verified.unexpired
    omega

end Ucanlab.Safety
