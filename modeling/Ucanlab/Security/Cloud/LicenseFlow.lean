import Ucanlab.Security.License.Validator

/-!
The cloud ticket flow: the high-water mark that its constructor loads, and the
verification of a ticket, which seals the mark before it looks at the deadlines.
-/

namespace Ucanlab.Cloud

open Ucanlab.License

structure LicenseFlow (Key : Type) where
  bootRealtime : ℚ
  bootMonotonic : ℚ
  hwmPath : Bool
  trustedKeys : Dict String Key
  lastKnownClockTs : ℚ

/-- The arguments of the constructor and the clocks it reads. -/
structure Boot (Key : Type) where
  publicKey : Key
  trustedKeys : Dict String Key := []
  bootRealtime : Option ℚ := none
  bootMonotonic : Option ℚ := none
  hwmPath : Bool := true
  now : ℚ
  monotonic : ℚ
  replies : Replies

structure TicketCall where
  token : List Char
  expectedDeviceId : Option String := none
  registeredDeviceId : Option String
  isOffline : Bool := false
  now : ℚ
  monotonic : ℚ
  replies : Replies

structure CloudLicenseClaims where
  licenseId : String
  organizationId : String
  deviceId : String
  tier : String
  features : List String
  issuedAt : PyNumber
  expiresAt : PyNumber
  offlineUntil : PyNumber
  keyId : String
  nonce : String
  deriving DecidableEq, Repr

structure Ticket where
  payload : Bytes
  signature : Bytes
  claims : CloudLicenseClaims
  deriving DecidableEq, Repr

/-! ## The mark -/

section Mark

variable (digests : Digests)

def keyUnavailable : Raised :=
  .license .hwmKeyUnavailable
    "License HWM integrity key unavailable; refusing to treat HWM as trustworthy."

def hmacKey (secrets : Option Vault) (replies : Replies) : Option Vault × Except Raised Bytes :=
  match secrets with
  | none => (none, .error keyUnavailable)
  | some vault =>
      match vault.hmacKey with
      | some key => (some vault, .ok key)
      | none =>
          let derived := digests.sha256 (utf8Bytes "ucanlab-license-hwm".toList ++ replies.fresh)
          let stored := some (vault.storeKey derived replies.keyStore)
          match replies.keyStore with
          | .stored => (stored, .ok derived)
          | .refused | .lost => (stored, .error keyUnavailable)
          | .altered other =>
              if other = derived then (stored, .ok derived)
              else
                (stored, .error (.license .hwmKeyUnavailable
                  "License HWM integrity key is not stably persisted; refusing to treat HWM as trustworthy."))

def legacyKeys (secrets : Option Vault) : List Bytes := (secrets.bind Vault.legacyKey).toList

def hwmReadKeys (secrets : Option Vault) (replies : Replies) :
    Option Vault × Except Raised (List Bytes) :=
  match hmacKey digests secrets replies with
  | (secrets, .error raised) => (secrets, .error raised)
  | (secrets, .ok key) => (secrets, .ok (key :: legacyKeys secrets))

def unavailable (message : String) : Raised := .license .hwmUnavailable message

/-- What the constructor makes of an error behind the file. The text of an error of `int`
follows its message. -/
def loadError : Raised → Raised
  | .license _ _ => unavailable "License HWM file integrity check failed"
  | .valueError => unavailable "License HWM file could not be read or parsed"
  | raised => raised

def markOf (fallback : ℚ) (record : HwmRecord) : Except Raised ℚ :=
  if floatOverflow ≤ record.hwmTs.natAbs then .error .overflowError
  else if record.hwmTs ≤ 0 then .error (unavailable "License HWM file integrity check failed")
  else .ok (max fallback record.hwmTs)

def wasInitialized (secrets : Option Vault) : Bool := (secrets.map Vault.initialized).getD false

def loadPersistentHwm (hwmPath : Bool) (storage : Storage) (fallback : ℚ) (replies : Replies) :
    Storage × Except Raised ℚ :=
  if ¬hwmPath then (storage, .ok fallback)
  else
    match storage.file with
    | .missing =>
        if wasInitialized storage.secrets then
          (storage, .error (unavailable
            "License HWM file is missing after previous initialization (fail-closed)"))
        else (storage, .ok fallback)
    | .unreadable => (storage, .error (unavailable "License HWM file could not be read or parsed"))
    | .notUtf8 => (storage, .error (unavailable "License HWM file integrity check failed"))
    | .text content =>
        match hwmReadKeys digests storage.secrets replies with
        | (secrets, .error raised) =>
            ({ storage with secrets := secrets }, .error (loadError raised))
        | (secrets, .ok keys) =>
            match parseHwmText digests content keys with
            | .error raised => ({ storage with secrets := secrets }, .error (loadError raised))
            | .ok record => ({ storage with secrets := secrets }, markOf fallback record)

def storeMarker (secrets : Option Vault) (stored : Bool) : Option Vault :=
  secrets.map (fun vault => if stored then { vault with initialized := true } else vault)

variable {Key : Type}

def createFlow (storage : Storage) (boot : Boot Key) :
    Storage × Except Raised (LicenseFlow Key) :=
  let bootRealtime := boot.bootRealtime.getD boot.now
  match loadPersistentHwm digests boot.hwmPath storage bootRealtime boot.replies with
  | (storage, .error raised) => (storage, .error raised)
  | (storage, .ok mark) =>
      (storage, .ok {
        bootRealtime := bootRealtime
        bootMonotonic := boot.bootMonotonic.getD boot.monotonic
        hwmPath := boot.hwmPath
        trustedKeys := if boot.trustedKeys = [] then [("v1", boot.publicKey)] else boot.trustedKeys
        lastKnownClockTs := mark })

/-- The second number of the file is the clock anchor from before the call. -/
def LicenseFlow.persistHwm (flow : LicenseFlow Key) (storage : Storage) (ts : ℚ)
    (replies : Replies) : Storage × Except Raised Unit :=
  if ¬flow.hwmPath then (storage, .ok ())
  else
    match hmacKey digests storage.secrets replies with
    | (secrets, .error raised) => ({ storage with secrets := secrets }, .error raised)
    | (secrets, .ok key) =>
        match sealHwm digests storage.file (pyTrunc ts) (pyTrunc flow.lastKnownClockTs) key
          replies.disk with
        | (file, .error raised) => ({ file := file, secrets := secrets }, .error raised)
        | (file, .ok _) =>
            ({ file := file, secrets := storeMarker secrets replies.markerStored }, .ok ())

end Mark

/-! ## The ticket -/

def requiredFields : List String :=
  ["iss", "aud", "kid", "license_id", "organization_id", "device_id", "tier", "features", "iat",
    "exp", "offline_until", "schema_version", "nonce"]

def maxTicketStringChars : Nat := 256

def maxTicketFeatures : Nat := 128

def malformedSchema (message : String) : Raised := .license .malformedSchema message

def holdsText (data : Dict String Json) (field expected : String) : Bool :=
  match data.get? field with
  | some (.text value) => decide (value = expected)
  | _ => false

/-- Whether the value is in the set of the supported revisions, which holds 1 alone; a list
or a dictionary cannot be looked up. -/
def schemaSupported : Json → Except Raised Bool
  | .list _ | .dict _ => .error .typeError
  | .number value => .ok (decide (value.toRat = 1))
  | .bool value => .ok value
  | _ => .ok false

def ticketString (data : Dict String Json) (field : String) : Except Raised String :=
  match data.get? field with
  | some (.text value) => do
      require (pyStrip value.toList ≠ [])
        (malformedSchema s!"Cloud ticket field '{field}' must be a non-empty string")
      require (value.length ≤ maxTicketStringChars)
        (malformedSchema
          s!"Cloud ticket field '{field}' exceeds {maxTicketStringChars} characters")
      return value
  | _ => .error (malformedSchema s!"Cloud ticket field '{field}' must be a non-empty string")

def ticketFeature : Json → Except Raised String
  | .text item => do
      require (item.length ≤ maxTicketStringChars)
        (malformedSchema "Cloud ticket 'features' entries must be bounded strings")
      return item
  | _ => .error (malformedSchema "Cloud ticket 'features' entries must be bounded strings")

def ticketFeatures (data : Dict String Json) : Except Raised (List String) :=
  match data.get? "features" with
  | some (.list features) => do
      require (features.length ≤ maxTicketFeatures)
        (malformedSchema
          s!"Cloud ticket declares {features.length} features (max {maxTicketFeatures})")
      features.mapM ticketFeature
  | _ => .error (malformedSchema "Cloud ticket 'features' must be a list")

def ticketNumber (data : Dict String Json) (field : String) : Except Raised PyNumber :=
  match data.get? field with
  | some (.number value) => do
      let asFloat ← value.toFloat
      require (0 ≤ asFloat) (malformedSchema s!"Cloud ticket '{field}' must be non-negative")
      return value
  | _ => .error (malformedSchema s!"Cloud ticket '{field}' must be a finite number")

/-- A string that is only asked to be there. -/
def plainString (data : Dict String Json) (field : String) (raised : Raised) :
    Except Raised String :=
  match data.get? field with
  | some (.text value) => do
      require (value ≠ "") raised
      return value
  | _ => .error raised

def padBase64 (text : List Char) : List Char :=
  text ++ List.replicate ((4 - text.length % 4) % 4) '='

section Ticket

variable {Key : Type} (codec : TicketCodec Key)

def readClaims (payload : Bytes) : Except Raised CloudLicenseClaims := do
  let data ← parseLicenseJson codec payload "ticket payload"
  require (requiredFields.all (fun field => data.contains field))
    (.license .incompleteSchema "Incomplete cloud ticket schema")
  let _ ← parseLicenseClaims codec payload "cloud ticket payload"
    ["license_id", "organization_id", "device_id", "tier"] "iat" "exp"
  require (holdsText data "iss" "universal-can-cloud" ∧ holdsText data "aud" "diagnostic-desktop-app")
    (.license .issuerMismatch "Ticket issuer/audience mismatch")
  let version := (data.get? "schema_version").getD .null
  let versionText := codec.repr version
  let supported ← schemaSupported version
  require supported (.license .unsupportedSchemaVersion
    s!"Unsupported cloud ticket schema_version {versionText}")
  let licenseId ← ticketString data "license_id"
  let organizationId ← ticketString data "organization_id"
  let deviceId ← ticketString data "device_id"
  let tier ← ticketString data "tier"
  let kid ← plainString data "kid" (malformedSchema "Cloud ticket 'kid' must be a non-empty string")
  let features ← ticketFeatures data
  let issuedAt ← ticketNumber data "iat"
  let expiresAt ← ticketNumber data "exp"
  let offlineUntil ← ticketNumber data "offline_until"
  let nonce ← plainString data "nonce"
    (.license .missingNonce "Cloud ticket carries no anti-replay nonce")
  return {
    licenseId := licenseId
    organizationId := organizationId
    deviceId := deviceId
    tier := tier
    features := features
    issuedAt := issuedAt
    expiresAt := expiresAt
    offlineUntil := offlineUntil
    keyId := kid
    nonce := nonce }

def readTicket (token : List Char) : Except Raised Ticket :=
  match (pyStrip token).splitOn '.' with
  | [payloadPart, signaturePart] =>
      match codec.urlsafeB64decode (padBase64 payloadPart),
        codec.urlsafeB64decode (padBase64 signaturePart) with
      | some payload, some signature => do
          let claims ← readClaims codec payload
          return { payload := payload, signature := signature, claims := claims }
      | _, _ => .error (.license .ticketDecodeError "Cloud ticket base64 decode failed")
  | _ => .error (.license .invalidTicketFormat "Invalid cloud ticket format")

def LicenseFlow.resolveKey (flow : LicenseFlow Key) (kid : String) : Except Raised Key :=
  match flow.trustedKeys.get? kid with
  | some key => .ok key
  | none =>
      .error (.license .unknownKeyId
        s!"Cloud ticket references unknown signing key id '{kid}' — update the application to trust this key.")

def TicketCall.targetDeviceId (call : TicketCall) : Option String :=
  match call.expectedDeviceId.filter (· ≠ "") with
  | some expected => some expected
  | none => call.registeredDeviceId.filter (· ≠ "")

def checkDevice (call : TicketCall) (deviceId : String) : Except Raised Unit :=
  match call.targetDeviceId with
  | none =>
      .error (.license .noDeviceId
        "No registered device id on record — register this device before verifying a cloud ticket (device binding cannot be skipped).")
  | some target =>
      require (deviceId = target) (.license .deviceMismatch
        s!"Cloud license ticket device mismatch: ticket is bound to {deviceId}, but current device is {target}.")

def clockSkew : ℚ := 1

def maxClockDrift : ℚ := 60

def LicenseFlow.checkClock (flow : LicenseFlow Key) (call : TicketCall) : Except Raised Unit := do
  require (¬ call.now < flow.lastKnownClockTs - clockSkew)
    (.license .clockRollbackDetected
      "System clock manipulation detected. License validation halted.")
  let monoElapsed := call.monotonic - flow.bootMonotonic
  let realElapsed := call.now - flow.bootRealtime
  require (¬ maxClockDrift < |monoElapsed - realElapsed|)
    (.license .clockMonotonicMismatch
      "System clock manipulation detected (monotonic counter mismatch).")

/-- The checks in front of the mark. -/
def LicenseFlow.vet (flow : LicenseFlow Key) (call : TicketCall) : Except Raised Ticket := do
  let ticket ← readTicket codec call.token
  let key ← flow.resolveKey ticket.claims.keyId
  require (codec.verify key ticket.signature ticket.payload)
    (.license .invalidSignature "Cloud license ticket signature is invalid.")
  checkDevice call ticket.claims.deviceId
  flow.checkClock call
  return ticket

/-- The checks behind the mark; the mode chooses the message alone. -/
def Ticket.checkDeadlines (ticket : Ticket) (call : TicketCall) :
    Except Raised CloudLicenseClaims := do
  require (¬ ticket.claims.expiresAt.toRat < call.now)
    (.license .licenseExpired "Cloud license ticket has expired.")
  let graceDeadline := min ticket.claims.expiresAt.toRat ticket.claims.offlineUntil.toRat
  require (¬ graceDeadline < call.now)
    (.license .offlineGraceExpired
      (if call.isOffline then "Cloud offline grace period has expired."
       else "Cloud license grace deadline has passed (offline_until exceeded)."))
  return ticket.claims

def LicenseFlow.verifyCloudTicket (digests : Digests) (flow : LicenseFlow Key) (storage : Storage)
    (call : TicketCall) : LicenseFlow Key × Storage × Except Raised CloudLicenseClaims :=
  match flow.vet codec call with
  | .error raised => (flow, storage, .error raised)
  | .ok ticket =>
      let nextHwm := max flow.lastKnownClockTs call.now
      match flow.persistHwm digests storage nextHwm call.replies with
      | (storage, .error raised) => (flow, storage, .error raised)
      | (storage, .ok _) =>
          ({ flow with lastKnownClockTs := nextHwm }, storage, ticket.checkDeadlines call)

end Ticket

/-! ## What the calls come to -/

section Specs

variable {Key : Type} {codec : TicketCodec Key} {digests : Digests} {flow : LicenseFlow Key}
  {storage later : Storage} {secrets : Option Vault} {vault : Vault} {key : Bytes} {replies : Replies}
  {call : TicketCall} {ticket : Ticket} {claims : CloudLicenseClaims}

theorem hmacKey_of_key (held : vault.hmacKey = some key) :
    hmacKey digests (some vault) replies = (some vault, .ok key) := by
  unfold hmacKey
  dsimp only
  rw [held]

theorem hmacKey_ok (ok : (hmacKey digests secrets replies).2 = .ok key) :
    ∃ vault, (hmacKey digests secrets replies).1 = some vault ∧ vault.hmacKey = some key := by
  unfold hmacKey at ok ⊢
  cases secrets with
  | none => cases ok
  | some vault =>
      dsimp only at ok ⊢
      cases held : vault.hmacKey with
      | some present =>
          rw [held] at ok
          cases ok
          exact ⟨vault, rfl, held⟩
      | none =>
          rw [held] at ok
          dsimp only at ok ⊢
          cases reply : replies.keyStore with
          | stored =>
              rw [reply] at ok
              cases ok
              exact ⟨_, rfl, rfl⟩
          | refused =>
              rw [reply] at ok
              cases ok
          | lost =>
              rw [reply] at ok
              cases ok
          | altered other =>
              rw [reply] at ok
              dsimp only at ok ⊢
              split at ok
              · rename_i same
                cases ok
                rw [if_pos same]
                exact ⟨_, rfl, congrArg some same⟩
              · cases ok

theorem LicenseFlow.persistHwm_ok {ts : ℚ} {done : Unit} (wired : flow.hwmPath = true)
    (ok : flow.persistHwm digests storage ts replies = (later, .ok done)) :
    ∃ vault key body, (hmacKey digests storage.secrets replies).1 = some vault ∧
      vault.hmacKey = some key ∧
      formatHwmText digests (pyTrunc ts) (pyTrunc flow.lastKnownClockTs) key = some body ∧
      later = { file := .text body, secrets := storeMarker (some vault) replies.markerStored } := by
  unfold persistHwm at ok
  rw [if_neg (not_not.mpr wired)] at ok
  split at ok
  · cases ok
  · rename_i secrets key keyed
    split at ok
    · cases ok
    · rename_i file _ written
      obtain ⟨body, formatted, rfl⟩ := sealHwm_ok written
      obtain ⟨vault, held, found⟩ := hmacKey_ok (congrArg Prod.snd keyed)
      rw [keyed] at held
      dsimp only at held
      rw [held] at ok
      cases ok
      refine ⟨vault, key, body, ?_, found, formatted, rfl⟩
      rw [keyed]
      exact held

theorem LicenseFlow.persistHwm_error {ts : ℚ} {raised : Raised}
    (failed : flow.persistHwm digests storage ts replies = (later, .error raised)) :
    later = { storage with secrets := (hmacKey digests storage.secrets replies).1 } := by
  unfold persistHwm at failed
  split at failed
  · cases failed
  · split at failed
    · rename_i keyed
      cases failed
      rw [keyed]
    · rename_i keyed
      rw [keyed]
      split at failed
      · rename_i written
        cases failed
        rw [sealHwm_error written]
      · cases failed

theorem LicenseFlow.vet_ok : flow.vet codec call = .ok ticket ↔
    readTicket codec call.token = .ok ticket ∧
      (∃ key, flow.trustedKeys.get? ticket.claims.keyId = some key ∧
        codec.verify key ticket.signature ticket.payload = true) ∧
      call.targetDeviceId = some ticket.claims.deviceId ∧
      flow.lastKnownClockTs - clockSkew ≤ call.now ∧
      |(call.monotonic - flow.bootMonotonic) - (call.now - flow.bootRealtime)| ≤ maxClockDrift := by
  have resolve : ∀ {kid : String} {key : Key},
      flow.resolveKey kid = .ok key ↔ flow.trustedKeys.get? kid = some key := by
    intro kid key
    unfold resolveKey
    cases flow.trustedKeys.get? kid with
    | none => simp
    | some held => simp
  have device : ∀ {deviceId : String} {done : Unit},
      checkDevice call deviceId = .ok done ↔ call.targetDeviceId = some deviceId := by
    intro deviceId done
    unfold checkDevice
    cases call.targetDeviceId with
    | none => simp
    | some target =>
        dsimp only
        rw [require_ok, Option.some.injEq]
        exact eq_comm
  unfold vet checkClock
  simp only [bind_ok, require_ok, resolve, device, not_lt, exists_const]
  constructor
  · rintro ⟨found, read, key, held, verified, bound, clock, same⟩
    cases same
    exact ⟨read, ⟨key, held, verified⟩, bound, clock⟩
  · rintro ⟨read, ⟨key, held, verified⟩, bound, clock⟩
    exact ⟨ticket, read, key, held, verified, bound, clock, rfl⟩

theorem LicenseFlow.verifyCloudTicket_cases (codec : TicketCodec Key) (digests : Digests)
    (flow : LicenseFlow Key) (storage : Storage) (call : TicketCall) :
    (∃ raised, flow.vet codec call = .error raised ∧
      flow.verifyCloudTicket codec digests storage call = (flow, storage, .error raised)) ∨
    (∃ ticket raised, flow.vet codec call = .ok ticket ∧
      flow.verifyCloudTicket codec digests storage call =
        (flow, { storage with secrets := (hmacKey digests storage.secrets call.replies).1 },
          .error raised)) ∨
    ∃ ticket later, flow.vet codec call = .ok ticket ∧
      flow.persistHwm digests storage (max flow.lastKnownClockTs call.now) call.replies =
        (later, .ok ()) ∧
      flow.verifyCloudTicket codec digests storage call =
        ({ flow with lastKnownClockTs := max flow.lastKnownClockTs call.now }, later,
          ticket.checkDeadlines call) := by
  unfold verifyCloudTicket
  cases admitted : flow.vet codec call with
  | error raised => exact Or.inl ⟨raised, rfl, rfl⟩
  | ok ticket =>
      refine Or.inr ?_
      dsimp only
      split
      · rename_i after raised persisted
        refine Or.inl ⟨ticket, raised, rfl, ?_⟩
        rw [persistHwm_error persisted]
      · rename_i after _ persisted
        exact Or.inr ⟨ticket, after, rfl, persisted, rfl⟩

theorem LicenseFlow.verifyCloudTicket_ok
    (ok : (flow.verifyCloudTicket codec digests storage call).2.2 = .ok claims) :
    ∃ ticket later, flow.vet codec call = .ok ticket ∧
      flow.persistHwm digests storage (max flow.lastKnownClockTs call.now) call.replies =
        (later, .ok ()) ∧
      ticket.checkDeadlines call = .ok claims := by
  rcases flow.verifyCloudTicket_cases codec digests storage call with
    ⟨_, _, ran⟩ | ⟨_, _, _, ran⟩ | ⟨ticket, later, admitted, persisted, ran⟩
  · rw [ran] at ok
    cases ok
  · rw [ran] at ok
    cases ok
  · rw [ran] at ok
    exact ⟨ticket, later, admitted, persisted, ok⟩

theorem Ticket.checkDeadlines_ok : ticket.checkDeadlines call = .ok claims ↔
    call.now ≤ min ticket.claims.expiresAt.toRat ticket.claims.offlineUntil.toRat ∧
      claims = ticket.claims := by
  unfold checkDeadlines
  simp only [bind_ok, require_ok, not_lt, exists_const]
  constructor
  · rintro ⟨_, grace, same⟩
    cases same
    exact ⟨grace, rfl⟩
  · rintro ⟨grace, rfl⟩
    exact ⟨grace.trans (min_le_left _ _), grace, rfl⟩

theorem loadPersistentHwm_ok {fallback mark : ℚ}
    (ok : (loadPersistentHwm digests true storage fallback replies).2 = .ok mark) :
    (storage.file = .missing ∧ wasInitialized storage.secrets = false ∧ mark = fallback) ∨
    ∃ content secrets keys record, storage.file = .text content ∧
      hwmReadKeys digests storage.secrets replies = (secrets, .ok keys) ∧
      parseHwmText digests content keys = .ok record ∧ 0 < record.hwmTs ∧
      mark = max fallback record.hwmTs := by
  unfold loadPersistentHwm at ok
  rw [if_neg (not_not.mpr rfl)] at ok
  split at ok
  · rename_i missing
    split at ok
    · cases ok
    · rename_i fresh
      cases ok
      exact Or.inl ⟨missing, Bool.eq_false_iff.mpr fresh, rfl⟩
  · cases ok
  · cases ok
  · rename_i content found
    split at ok
    · cases ok
    · rename_i secrets keys read
      split at ok
      · cases ok
      · rename_i record parsed
        unfold markOf at ok
        dsimp only at ok
        split at ok
        · cases ok
        · split at ok
          · cases ok
          · rename_i positive
            cases ok
            exact Or.inr ⟨content, secrets, keys, record, found, read, parsed, not_le.mp positive, rfl⟩

theorem hwmReadKeys_of_key (held : vault.hmacKey = some key) :
    hwmReadKeys digests (some vault) replies = (some vault, .ok (key :: legacyKeys (some vault))) := by
  unfold hwmReadKeys
  rw [hmacKey_of_key held]

theorem loadPersistentHwm_storage {file : HwmFile} {fallback : ℚ} {hwmPath : Bool}
    (held : vault.hmacKey = some key) :
    (loadPersistentHwm digests hwmPath { file := file, secrets := some vault } fallback replies).1 =
      { file := file, secrets := some vault } := by
  unfold loadPersistentHwm
  rw [hwmReadKeys_of_key held]
  split
  · rfl
  · split
    · split <;> rfl
    · rfl
    · rfl
    · dsimp only
      split <;> rfl

theorem createFlow_storage {file : HwmFile} {boot : Boot Key} (held : vault.hmacKey = some key) :
    (createFlow digests { file := file, secrets := some vault } boot).1 =
      { file := file, secrets := some vault } := by
  unfold createFlow
  dsimp only
  split
  · rename_i loaded
    exact (congrArg Prod.fst loaded).symm.trans (loadPersistentHwm_storage held)
  · rename_i loaded
    exact (congrArg Prod.fst loaded).symm.trans (loadPersistentHwm_storage held)

theorem createFlow_ok {boot : Boot Key} (ok : (createFlow digests storage boot).2 = .ok flow) :
    flow.hwmPath = boot.hwmPath ∧
      (loadPersistentHwm digests boot.hwmPath storage (boot.bootRealtime.getD boot.now)
        boot.replies).2 = .ok flow.lastKnownClockTs := by
  unfold createFlow at ok
  dsimp only at ok
  split at ok
  · cases ok
  · rename_i loaded
    cases ok
    exact ⟨rfl, congrArg Prod.snd loaded⟩

end Specs

/-! ## A ticket as the cloud sends it -/

/-- The text of the payload, field by field. -/
def samplePayload : Bytes :=
  utf8Bytes (['\x7b'] ++ List.intercalate [','] ([
    "\"iss\":\"universal-can-cloud\"", "\"aud\":\"diagnostic-desktop-app\"", "\"kid\":\"v1\"",
    "\"license_id\":\"L1\"", "\"organization_id\":\"O1\"", "\"device_id\":\"D1\"", "\"tier\":\"PRO\"",
    "\"features\":[\"dtc\"]", "\"iat\":0", "\"exp\":9000", "\"offline_until\":8000",
    "\"schema_version\":1", "\"nonce\":\"n1\""].map String.toList) ++ ['\x7d'])

def sampleData : Dict String Json :=
  [("iss", .text "universal-can-cloud"), ("aud", .text "diagnostic-desktop-app"),
    ("kid", .text "v1"), ("license_id", .text "L1"), ("organization_id", .text "O1"),
    ("device_id", .text "D1"), ("tier", .text "PRO"), ("features", .list [.text "dtc"]),
    ("iat", .number (.int 0)), ("exp", .number (.int 9000)),
    ("offline_until", .number (.int 8000)), ("schema_version", .number (.int 1)),
    ("nonce", .text "n1")]

def sampleSignature : Bytes := List.replicate 64 7

def samplePayloadText : List Char :=
  ["eyJpc3Mi", "OiJ1bml2", "ZXJzYWwt", "Y2FuLWNs", "b3VkIiwi", "YXVkIjoi", "ZGlhZ25v",
    "c3RpYy1k", "ZXNrdG9w", "LWFwcCIs", "ImtpZCI6", "InYxIiwi", "bGljZW5z", "ZV9pZCI6",
    "IkwxIiwi", "b3JnYW5p", "emF0aW9u", "X2lkIjoi", "TzEiLCJk", "ZXZpY2Vf", "aWQiOiJE",
    "MSIsInRp", "ZXIiOiJQ", "Uk8iLCJm", "ZWF0dXJl", "cyI6WyJk", "dGMiXSwi", "aWF0Ijow",
    "LCJleHAi", "OjkwMDAs", "Im9mZmxp", "bmVfdW50", "aWwiOjgw", "MDAsInNj", "aGVtYV92",
    "ZXJzaW9u", "IjoxLCJu", "b25jZSI6", "Im4xIn0="].flatMap
    String.toList

def sampleSignatureText : List Char :=
  (List.replicate 21 ['B', 'w', 'c', 'H']).flatten ++ ['B', 'w', '=', '=']

def sampleToken : List Char := samplePayloadText ++ '.' :: sampleSignatureText

def sampleCodec : TicketCodec Unit where
  urlsafeB64decode text := if text.head? = some 'e' then some samplePayload else some sampleSignature
  loads _ := .ok (.dict sampleData)
  verify _ signature _ := decide (signature = sampleSignature)
  canonicalize _ := none
  lower text := text.map Char.toLower
  repr _ := "1"
  gmtime _ := ""

def sampleDigests : Digests where
  hmacSha256 _ _ := List.replicate 32 0
  sha256 _ := List.replicate 32 0
  hmacLength := blankHmac_length
  shaLength := blankSha_length

def sampleReplies : Replies := { fresh := List.replicate 32 1 }

def sampleBoot (now : ℚ) : Boot Unit :=
  { publicKey := (), now := now, monotonic := now, replies := sampleReplies }

def sampleCall (now : ℚ) : TicketCall where
  token := sampleToken
  registeredDeviceId := some "D1"
  now := now
  monotonic := now
  replies := sampleReplies

end Ucanlab.Cloud
