import Ucanlab.Lib.ExpiryTable
import Ucanlab.Core.PyNumber
import Ucanlab.Safety.Supervisor

/-!
Operator tokens for arming the transmit path: their text form, the table of the
burnt ones, and the supervisor operations that spend them.
-/

namespace Ucanlab.Safety

open Ucanlab

inductive ArmAuthError where
  | malformed
  | invalid
  | expired
  | replayed
  | required
  | notConfigured
  deriving DecidableEq, Repr

def ArmAuthError.code : ArmAuthError → String
  | .malformed => "ARM_AUTH_INVALID"
  | .invalid => "ARM_AUTH_INVALID"
  | .expired => "ARM_AUTH_EXPIRED"
  | .replayed => "ARM_AUTH_REPLAYED"
  | .required => "ARM_AUTH_REQUIRED"
  | .notConfigured => "ARM_AUTH_NOT_CONFIGURED"

def ArmAuthError.message (operation : String) : ArmAuthError → String
  | .malformed => "TX authorization rejected: malformed auth token"
  | .invalid => "TX authorization rejected: invalid auth token"
  | .expired => "TX authorization rejected: auth token expired"
  | .replayed => "TX authorization rejected: auth token already consumed"
  | .required =>
      operation ++ " rejected: auth_token is required (a supervisor auth_secret is configured)"
  | .notConfigured =>
      operation ++ " rejected: this supervisor is declared as an authenticated " ++
        "deployment (require_arm_auth=True) but no auth_secret is configured, so " ++
        "the operator authorization gate cannot be satisfied (fail-closed). " ++
        "Configure auth_secret, or build the supervisor without " ++
        "require_arm_auth to keep it unauthenticated."

def armExpiry (payload : Bytes) : Nat := natFromBytes (payload.take 8)

def armPayload (expiryNs : Nat) (nonce : Bytes) : Bytes := natToBytes 8 expiryNs ++ nonce

abbrev ConsumedArmTokens := ExpiryTable Bytes armExpiry

structure ArmTokenFields where
  expiryNs : Nat
  nonce : Bytes
  mac : Bytes
  deriving DecidableEq, Repr

def ArmTokenFields.payload (fields : ArmTokenFields) : Bytes :=
  armPayload fields.expiryNs fields.nonce

/-- The fields of a token text; `none` when it is malformed. -/
def readArmToken (text : List Char) : Option ArmTokenFields :=
  match (pyStrip text).splitOn '.' with
  | [expiryText, nonceHex, macHex] =>
      match pyInt 10 expiryText, bytesFromHex nonceHex, bytesFromHex macHex with
      | some expiry, some nonce, some mac =>
          if ¬ (0 ≤ expiry ∧ expiry < 2 ^ 64) then none
          else if nonce.length ≠ 16 ∨ mac.length ≠ 32 then none
          else some ⟨expiry.toNat, nonce, mac⟩
      | _, _, _ => none
  | _ => none

/-- `issue_arm_token`; the lifetime is at least one second and `nonce` stands for
the random bytes. An expiry beyond eight bytes is not minted. -/
def issueArmToken (digests : Digests) (secret : Option Bytes) (ttlNs now : Nat) (nonce : Bytes) :
    Except ArmAuthError (Option (List Char)) :=
  match secret with
  | none => .error .notConfigured
  | some key =>
      let expiryNs := now + max 1000000000 ttlNs
      if expiryNs < 2 ^ 64 then
        let mac := digests.hmacSha256 key (armPayload expiryNs nonce)
        .ok (some (decimalText expiryNs ++ '.' :: hexText nonce ++ '.' :: hexText mac))
      else .ok none

/-- The part of the verification before the lock: text, code and expiry. -/
def authenticateArmToken (digests : Digests) (key : Bytes) (text : List Char) (now : Nat) :
    Except ArmAuthError Bytes :=
  match readArmToken text with
  | none => .error .malformed
  | some fields =>
      if fields.mac ≠ digests.hmacSha256 key fields.payload then .error .invalid
      else if now > fields.expiryNs then .error .expired
      else .ok fields.payload

/-- The two operations behind the authorization gate. -/
inductive TxOperation where
  | armTx
  | activateTx
  deriving DecidableEq, Repr

def TxOperation.name : TxOperation → String
  | .armTx => "arm_tx"
  | .activateTx => "activate_tx"

def TxOperation.target : TxOperation → SafetyState
  | .armTx => .armedTx
  | .activateTx => .active

structure ArmConfig where
  authSecret : Option Bytes
  allowUnauthenticatedArm : Bool
  requireArmAuth : Bool
  deriving DecidableEq

inductive ConfigError where
  | bootState (initial : SafetyState)
  | testOnly
  | contradiction
  | secretMissing
  deriving DecidableEq, Repr

structure ArmSupervisor where
  core : Supervisor
  config : ArmConfig
  consumed : ConsumedArmTokens

structure StopReading where
  protectionDowngraded : Bool
  isEngaged : Bool
  deriving DecidableEq, Repr

/-- What `time.get_clock_info` answers; the resolution is in seconds, with its
text in the fault reason. -/
inductive ClockInfo where
  | unavailable (error : String)
  | available (monotonic adjustable : Bool) (resolution : ℚ) (rendered : String)
  deriving DecidableEq

def ClockInfo.fault : ClockInfo → Option String
  | .unavailable error =>
      some ("CLOCK_UNAVAILABLE: monotonic clock check failed (" ++ error ++ ")")
  | .available monotonic adjustable resolution rendered =>
      if ¬ monotonic then some "CLOCK_NOT_MONOTONIC: system clock reported non-monotonic"
      else if adjustable then some "CLOCK_ADJUSTABLE: system clock is adjustable"
      else if resolution > 1 / 20 then
        some ("CLOCK_COARSE: resolution " ++ rendered ++ "s > 0.050s")
      else none

inductive ArmError where
  | protectionDowngraded
  | clockIntegrity
  | auth (error : ArmAuthError)
  | transition (error : TransitionError)
  deriving DecidableEq, Repr

def ArmError.code : ArmError → String
  | .protectionDowngraded => "ESTOP_PROTECTION_DOWNGRADED"
  | .clockIntegrity => "CLOCK_INTEGRITY_VIOLATION"
  | .auth error => error.code
  | .transition error => error.code

/-- The payload a call holds, what its transition did and what it raises. -/
structure ArmResult where
  pending : Option Bytes
  moved : TransitionOutcome
  error : Option ArmError
  deriving DecidableEq

def ArmResult.armed (result : ArmResult) : Option Bytes :=
  match result.moved with
  | .moved .passive .armedTx none => result.pending
  | _ => none

/-- The clock readings of one call, in the order in which it takes them. -/
structure ArmReadings where
  gate : Nat
  expiry : Nat
  lookup : Nat
  transition : Nat
  burn : Nat
  deriving DecidableEq, Repr

def ArmReadings.ordered (readings : ArmReadings) (since : Nat) : Prop :=
  since ≤ readings.gate ∧ readings.gate ≤ readings.expiry ∧ readings.expiry ≤ readings.lookup ∧
    readings.lookup ≤ readings.transition ∧ readings.transition ≤ readings.burn

instance (readings : ArmReadings) (since : Nat) : Decidable (readings.ordered since) :=
  inferInstanceAs (Decidable (_ ∧ _))

namespace ArmSupervisor

/-- The constructor; `testMode` is the acknowledgement in the environment. -/
def create (initial : SafetyState) (estopBound : Bool) (config : ArmConfig) (testMode : Bool)
    (now : Nat) : Except ConfigError ArmSupervisor :=
  if initial = .armedTx ∨ initial = .active then .error (.bootState initial)
  else if config.allowUnauthenticatedArm ∧ ¬ testMode then .error .testOnly
  else if config.requireArmAuth ∧ config.allowUnauthenticatedArm then .error .contradiction
  else if config.requireArmAuth ∧ config.authSecret = none then .error .secretMissing
  else .ok ⟨Supervisor.new initial estopBound now, config, .empty⟩

/-- The checks of `arm_tx` before the authorization: the emergency stop keeps its
protection and the clock is safe. An unsafe clock is answered with its fault. -/
def gateError (armory : ArmSupervisor) (stop : StopReading) (clock : ClockInfo) :
    Option (ArmError × Option String) :=
  if armory.core.estopBound ∧ stop.protectionDowngraded then
    some (.protectionDowngraded, none)
  else
    match clock.fault with
    | some reason => some (.clockIntegrity, some reason)
    | none => none

/-- `_require_arm_authorization` up to the lock; a payload still has to be looked
up. -/
def authenticate (digests : Digests) (armory : ArmSupervisor) (token : Option (List Char))
    (now : Nat) : Except ArmAuthError (Option Bytes) :=
  match armory.config.authSecret with
  | some key =>
      match token with
      | none => if armory.config.allowUnauthenticatedArm then .ok none else .error .required
      | some text => (authenticateArmToken digests key text now).map some
  | none => if armory.config.requireArmAuth then .error .notConfigured else .ok none

def prune (armory : ArmSupervisor) (now : Nat) : ArmSupervisor :=
  { armory with consumed := armory.consumed.prune now }

/-- The locked part of the verification; it does not consume. -/
def lookup (armory : ArmSupervisor) (payload : Bytes) (now : Nat) :
    ArmSupervisor × Option ArmAuthError :=
  let pruned := armory.prune now
  if payload ∈ pruned.consumed then (pruned, some .replayed) else (pruned, none)

def transitionTo (armory : ArmSupervisor) (stop : StopReading) (target : SafetyState)
    (reason : String) (now : Nat) : ArmSupervisor × TransitionOutcome :=
  let (core, outcome) := armory.core.transitionTo stop.isEngaged target reason now
  ({ armory with core := core }, outcome)

def burn (armory : ArmSupervisor) (payload : Bytes) (now : Nat) :
    ArmSupervisor × Option ArmAuthError :=
  let pruned := armory.prune now
  if payload ∈ pruned.consumed then (pruned, some .replayed)
  else ({ pruned with consumed := pruned.consumed.record payload }, none)

def triggerFault (armory : ArmSupervisor) (reason : String) (now : Nat) : ArmSupervisor :=
  { armory with core := (armory.core.triggerFault false reason now).1 }

def enterPassiveMode (armory : ArmSupervisor) (stop : StopReading) (reason : String) (now : Nat) :
    ArmSupervisor × TransitionOutcome :=
  armory.transitionTo stop .passive reason now

def transitionError : TransitionOutcome → Option TransitionError
  | .unchanged => none
  | .refused error => some error
  | .moved _ _ error => error

def spend (armory : ArmSupervisor) (operation : TxOperation) (reason : String)
    (pending : Option Bytes) (stop : StopReading) (readings : ArmReadings) :
    ArmSupervisor × ArmResult :=
  let (entered, moved) := armory.transitionTo stop operation.target reason readings.transition
  match transitionError moved with
  | some error => (entered, ⟨pending, moved, some (.transition error)⟩)
  | none =>
      match pending with
      | none => (entered, ⟨none, moved, none⟩)
      | some payload =>
          let (burnt, error) := entered.burn payload readings.burn
          (burnt, ⟨some payload, moved, error.map .auth⟩)

/-- A whole call of `arm_tx` or `activate_tx`. -/
def authorizeTx (digests : Digests) (armory : ArmSupervisor) (operation : TxOperation)
    (reason : String) (token : Option (List Char)) (stop : StopReading) (clock : ClockInfo)
    (readings : ArmReadings) : ArmSupervisor × ArmResult :=
  match armory.gateError stop clock with
  | some (error, fault) =>
      let faulted := match fault with
        | some reason => armory.triggerFault reason readings.gate
        | none => armory
      (faulted, ⟨none, .unchanged, some error⟩)
  | none =>
      match armory.authenticate digests token readings.expiry with
      | .error error => (armory, ⟨none, .unchanged, some (.auth error)⟩)
      | .ok none => armory.spend operation reason none stop readings
      | .ok (some payload) =>
          match armory.lookup payload readings.lookup with
          | (pruned, some error) => (pruned, ⟨none, .unchanged, some (.auth error)⟩)
          | (pruned, none) => pruned.spend operation reason (some payload) stop readings

end ArmSupervisor

theorem armExpiry_armPayload {expiryNs : Nat} (fits : expiryNs < 2 ^ 64) (nonce : Bytes) :
    armExpiry (armPayload expiryNs nonce) = expiryNs := by
  unfold armExpiry armPayload
  rw [List.take_left' (natToBytes_length 8 expiryNs)]
  exact natFromBytes_natToBytes 8 fits

theorem readArmToken_fits {text : List Char} {fields : ArmTokenFields}
    (read : readArmToken text = some fields) : fields.expiryNs < 2 ^ 64 := by
  unfold readArmToken at read
  split at read
  · split at read
    · split at read
      · cases read
      · rename_i bounds
        split at read
        · cases read
        · cases read
          have within := not_not.mp bounds
          dsimp only
          omega
    · cases read
  · cases read

theorem authenticateArmToken_live {digests : Digests} {key : Bytes} {text : List Char} {now : Nat}
    {payload : Bytes} (authentic : authenticateArmToken digests key text now = .ok payload) :
    now ≤ armExpiry payload := by
  unfold authenticateArmToken at authentic
  split at authentic
  · cases authentic
  · rename_i fields read
    split at authentic
    · cases authentic
    · split at authentic
      · cases authentic
      · rename_i live
        cases authentic
        unfold ArmTokenFields.payload
        rw [armExpiry_armPayload (readArmToken_fits read)]
        exact Nat.le_of_not_lt live

namespace ArmSupervisor

variable {digests : Digests} {armory : ArmSupervisor} {operation : TxOperation} {reason : String}
  {token : Option (List Char)} {stop : StopReading} {clock : ClockInfo} {readings : ArmReadings}
  {payload other : Bytes} {now : Nat}

theorem authenticate_live (authentic : armory.authenticate digests token now = .ok (some payload)) :
    now ≤ armExpiry payload := by
  unfold authenticate at authentic
  split at authentic
  · split at authentic
    · split at authentic
      · cases authentic
      · cases authentic
    · rename_i key _ _ text
      cases answer : authenticateArmToken digests key text now with
      | error error =>
          rw [answer] at authentic
          cases authentic
      | ok read =>
          rw [answer] at authentic
          cases authentic
          exact authenticateArmToken_live answer
  · split at authentic
    · cases authentic
    · cases authentic

theorem prune_keeps (present : other ∈ armory.consumed) (live : now ≤ armExpiry other) :
    other ∈ (armory.prune now).consumed :=
  (ExpiryTable.mem_prune _ _ _).mpr ⟨present, live⟩

theorem lookup_refused (present : payload ∈ armory.consumed.prune now) :
    armory.lookup payload now = (armory.prune now, some .replayed) := if_pos present

theorem lookup_granted (absent : payload ∉ armory.consumed.prune now) :
    armory.lookup payload now = (armory.prune now, none) := if_neg absent

theorem mem_burn (armory : ArmSupervisor) (payload : Bytes) (now : Nat) :
    payload ∈ (armory.burn payload now).1.consumed := by
  unfold burn
  dsimp only
  split
  · rename_i present
    exact present
  · exact (ExpiryTable.mem_record _ _ _).mpr (Or.inr rfl)

theorem burn_keeps (present : other ∈ armory.consumed) (live : now ≤ armExpiry other) :
    other ∈ (armory.burn payload now).1.consumed := by
  have kept := prune_keeps present live
  unfold burn
  dsimp only
  split
  · exact kept
  · exact (ExpiryTable.mem_record _ _ _).mpr (Or.inl kept)

theorem transitionTo_arms_iff {target : SafetyState} :
    (armory.transitionTo stop target reason now).2 = .moved .passive .armedTx none ↔
      target = .armedTx ∧ armory.core.state = .passive ∧
        ¬ (armory.core.estopBound = true ∧ stop.isEngaged = true) := by
  change (armory.core.transitionTo stop.isEngaged target reason now).2 = _ ↔ _
  unfold Supervisor.transitionTo
  dsimp only
  constructor
  · intro moved
    split at moved
    · cases moved
    · split at moved
      · cases moved
      · rename_i open'
        split at moved
        · injection moved with _ _ raised
          cases raised
        · injection moved with source reached
          refine ⟨reached, source, ?_⟩
          rintro ⟨bound, engaged⟩
          exact open' ⟨bound, engaged, by rw [reached]; decide⟩
  · rintro ⟨rfl, source, released⟩
    rw [source, if_neg (by decide), if_neg (fun barred => released ⟨barred.1, barred.2.1⟩),
      if_neg (by decide)]

theorem spend_armed_iff :
    (armory.spend operation reason (some payload) stop readings).2.armed = some other ↔
      payload = other ∧ operation = .armTx ∧ armory.core.state = .passive ∧
        ¬ (armory.core.estopBound = true ∧ stop.isEngaged = true) := by
  have arms := @transitionTo_arms_iff armory reason stop readings.transition operation.target
  have target : operation.target = .armedTx ↔ operation = .armTx := by
    cases operation <;> decide
  rw [target] at arms
  rw [← arms]
  unfold spend
  generalize armory.transitionTo stop operation.target reason readings.transition = outcome
  obtain ⟨entered, moved⟩ := outcome
  dsimp only
  constructor
  · intro armed
    split at armed
    · rename_i error raised
      unfold ArmResult.armed at armed
      split at armed
      · rename_i quiet
        dsimp only at quiet
        rw [quiet] at raised
        cases raised
      · cases armed
    · unfold ArmResult.armed at armed
      split at armed
      · rename_i quiet
        cases armed
        exact ⟨rfl, quiet⟩
      · cases armed
  · rintro ⟨rfl, rfl⟩
    rfl

theorem spend_unpaid_armed :
    (armory.spend operation reason none stop readings).2.armed = none := by
  unfold spend
  generalize armory.transitionTo stop operation.target reason readings.transition = outcome
  obtain ⟨entered, moved⟩ := outcome
  dsimp only
  split
  · unfold ArmResult.armed
    split <;> rfl
  · unfold ArmResult.armed
    split <;> rfl

theorem spend_keeps {pending : Option Bytes} (present : other ∈ armory.consumed)
    (live : readings.burn ≤ armExpiry other) :
    other ∈ (armory.spend operation reason pending stop readings).1.consumed := by
  have kept : other ∈
      (armory.transitionTo stop operation.target reason readings.transition).1.consumed := present
  unfold spend
  generalize armory.transitionTo stop operation.target reason readings.transition = outcome at kept
  obtain ⟨entered, moved⟩ := outcome
  dsimp only at kept ⊢
  split
  · exact kept
  · split
    · exact kept
    · exact burn_keeps kept live

theorem spend_burns
    (armed : (armory.spend operation reason (some payload) stop readings).2.armed = some payload) :
    payload ∈ (armory.spend operation reason (some payload) stop readings).1.consumed := by
  obtain ⟨_, rfl, source, released⟩ := spend_armed_iff.mp armed
  have quiet : (armory.transitionTo stop .armedTx reason readings.transition).2 =
      .moved .passive .armedTx none := transitionTo_arms_iff.mpr ⟨rfl, source, released⟩
  unfold spend
  change (armory.transitionTo stop TxOperation.armTx.target reason readings.transition).2 = _
    at quiet
  generalize armory.transitionTo stop TxOperation.armTx.target reason readings.transition = outcome
    at quiet
  obtain ⟨entered, moved⟩ := outcome
  dsimp only at quiet ⊢
  rw [quiet]
  exact mem_burn entered payload readings.burn

end ArmSupervisor

end Ucanlab.Safety
