import Ucanlab.Lib.Dict
import Ucanlab.Security.License.HwmFormat

/-!
The payload of a signed license: the values of its JSON text and the schema that
the ticket flow and the token validator share. Numbers are exact: the rounding of
floats is not part of the model.
-/

namespace Ucanlab.License

inductive PyNumber where
  | int (value : Int)
  | float (value : ℚ)
  deriving DecidableEq, Repr

def PyNumber.toRat : PyNumber → ℚ
  | .int value => value
  | .float value => value

/-- What the JSON decoder makes; the literals for NaN and the infinities are refused, but a
large exponent still gives an infinity. -/
inductive Json where
  | null
  | bool (value : Bool)
  | number (value : PyNumber)
  | infinity (negative : Bool)
  | text (value : String)
  | list (items : List Json)
  | dict (entries : List (String × Json))

def Json.typeName : Json → String
  | null => "NoneType"
  | bool _ => "bool"
  | number (.int _) => "int"
  | number (.float _) => "float"
  | infinity _ => "float"
  | text _ => "str"
  | list _ => "list"
  | dict _ => "dict"

/-- `int` of a float. -/
def pyTrunc (value : ℚ) : Int := if 0 ≤ value then ⌊value⌋ else ⌈value⌉

/-- From here on `float` of an integer overflows. -/
def floatOverflow : Nat := 2 ^ 1024 - 2 ^ 970

def PyNumber.toFloat : PyNumber → Except Raised ℚ
  | .int value => if floatOverflow ≤ value.natAbs then .error .overflowError else .ok value
  | .float value => .ok value

/-- What the source takes from libraries: base 64, the JSON decoder with the text of its
error, the signature scheme, small letters, and the texts of values and dates in messages;
and the canonical form that the validator tries as well. -/
structure TicketCodec (Key : Type) where
  urlsafeB64decode : List Char → Option Bytes
  loads : Bytes → Except String Json
  verify : Key → Bytes → Bytes → Bool
  canonicalize : Dict String Json → Option Bytes
  lower : List Char → List Char
  repr : Json → String
  gmtime : Int → String

def maxClaimStringChars : Nat := 256

def maxClaimFeatures : Nat := 128

def malformedPayload (message : String) : Raised := .license .malformedPayload message

def boundedString (data : Dict String Json) (field : String) : Except Raised String :=
  match data.get? field with
  | some (.text value) => do
      require (pyStrip value.toList ≠ [])
        (malformedPayload s!"License payload field '{field}' must be a non-empty string")
      require (value.length ≤ maxClaimStringChars)
        (malformedPayload
          s!"License payload field '{field}' exceeds {maxClaimStringChars} characters")
      return value
  | _ => .error (malformedPayload s!"License payload field '{field}' must be a non-empty string")

def finiteNumber (data : Dict String Json) (field : String) : Except Raised Int :=
  match data.get? field with
  | some (.number value) => do
      let asFloat ← value.toFloat
      require (0 ≤ asFloat)
        (malformedPayload s!"License payload field '{field}' must be non-negative")
      return pyTrunc asFloat
  | some (.infinity _) =>
      .error (malformedPayload
        s!"License payload field '{field}' is not finite; refusing a non-expiring license")
  | other =>
      .error (malformedPayload
        s!"License payload field '{field}' must be a number, got {(other.getD .null).typeName}")

def boundedFeature : Json → Except Raised String
  | .text item => do
      require (item ≠ "" ∧ item.length ≤ maxClaimStringChars)
        (malformedPayload "License payload 'features' entries must be non-empty bounded strings")
      return item
  | _ =>
      .error (malformedPayload
        "License payload 'features' entries must be non-empty bounded strings")

def boundedFeatures (data : Dict String Json) : Except Raised (List String) :=
  match data.get? "features" with
  | none => .ok []
  | some (.list raw) => do
      require (raw.length ≤ maxClaimFeatures)
        (malformedPayload
          s!"License payload declares {raw.length} features (max {maxClaimFeatures})")
      raw.mapM boundedFeature
  | some other =>
      .error (malformedPayload s!"License payload 'features' must be a list, got {other.typeName}")

structure LicenseClaims where
  features : List String
  issuedAt : Option Int
  expiresAt : Option Int
  strings : Dict String String
  deriving DecidableEq, Repr

section Parse

variable {Key : Type} (codec : TicketCodec Key)

def parseLicenseJson (payload : Bytes) (origin : String) : Except Raised (Dict String Json) :=
  match codec.loads payload with
  | .error reason => .error (malformedPayload s!"Malformed {origin}: {reason}")
  | .ok (.dict entries) => .ok entries
  | .ok other =>
      .error (malformedPayload s!"{origin} must be a JSON object, got {other.typeName}")

def parseLicenseClaims (payload : Bytes) (origin : String) (requiredStrings : List String)
    (issueField expiryField : String) : Except Raised LicenseClaims := do
  let data ← parseLicenseJson codec payload origin
  let missing := requiredStrings.filter (fun field => !data.contains field)
  let names := String.intercalate ", " missing
  require (missing = [])
    (malformedPayload s!"Malformed {origin} (incomplete schema; missing: {names})")
  let features ← boundedFeatures data
  -- a number is read where it is there or asked for
  let number := fun (field : String) =>
    if data.contains field ∨ field ∈ requiredStrings then (finiteNumber data field).map some
    else .ok none
  let issuedAt ← number issueField
  let expiresAt ← number expiryField
  let named := requiredStrings.filter (fun field => field ≠ issueField ∧ field ≠ expiryField)
  let strings ← named.mapM (fun field => (boundedString data field).map (fun value => (field, value)))
  return { features := features, issuedAt := issuedAt, expiresAt := expiresAt, strings := strings }

end Parse

theorem pyTrunc_mono {lower upper : ℚ} (le : lower ≤ upper) : pyTrunc lower ≤ pyTrunc upper := by
  unfold pyTrunc
  split
  · rename_i positive
    rw [if_pos (positive.trans le)]
    exact Int.floor_le_floor le
  · rename_i negative
    split
    · rename_i positive
      exact (Int.ceil_le.mpr (by simpa using (not_le.mp negative).le)).trans (Int.floor_nonneg.mpr positive)
    · exact Int.ceil_le_ceil le

@[simp]
theorem pyTrunc_intCast (value : Int) : pyTrunc value = value := by
  unfold pyTrunc
  split
  · exact Int.floor_intCast value
  · exact Int.ceil_intCast value

end Ucanlab.License

/-!
The validator of license tokens: what its constructor takes from the sealed file,
and the verification of a token, which seals the file again before the claims of
the token are read.
-/

namespace Ucanlab.License

def maxOfflineGraceSec : Int := 7 * 24 * 3600

def issuedAtSkewToleranceSec : Int := 300

structure LicenseValidator (Key : Type) where
  publicKey : Key
  hardwareFingerprint : String
  lastOnlineSyncTs : Int
  lastKnownClockTs : Int
  highWaterMarkPath : Bool
  bootRealtime : Option Int
  bootMonotonic : Option ℚ
  allowWildcard : Bool
  requireHwmPersistence : Bool
  degradeToReadOnlyOnOffline : Bool
  hwmKey : Bytes

/-- The arguments of the constructor and what it asks the system: the clock, twice where
the file is set aside, whether the build is frozen, and whether the file could be renamed. -/
structure ValidatorStart (Key : Type) where
  publicKey : Key
  hardwareFingerprint : String
  lastOnlineSyncTs : Option Int := none
  lastKnownClockTs : Option Int := none
  highWaterMarkPath : Bool := true
  bootRealtime : Option Int := none
  bootMonotonic : Option ℚ := none
  allowWildcardLicense : Option Bool := none
  requireHwmPersistence : Bool := false
  degradeToReadOnlyOnOffline : Bool := false
  nowWallNs : Int
  floorWallNs : Int
  frozen : Bool := false
  quarantined : Bool := true
  replies : Replies

structure LicensePayload where
  userId : String
  tier : String
  hardwareFingerprint : String
  issuedAt : Int
  expiresAt : Int
  features : List String
  isReadOnly : Bool := false
  deriving DecidableEq, Repr

structure TokenCall where
  token : List Char
  nowWallNs : Int
  monotonic : ℚ
  replies : Replies

def wallSeconds (ns : Int) : Int := ns / 1000000000

/-- `value or default` on integers. -/
def orDefault (value : Option Int) (default : Int) : Int := (value.filter (· ≠ 0)).getD default

section Start

variable {Key : Type} (digests : Digests)

def loadHwmKey (vault : Vault) (replies : Replies) : Vault × Except Raised Bytes :=
  match vault.hmacKey with
  | some key => (vault, .ok key)
  | none =>
      let stored := vault.storeKey replies.fresh replies.keyStore
      match replies.keyStore with
      | .refused => (stored, .error .vaultError)
      | _ =>
          match stored.hmacKey with
          | some key => (stored, .ok key)
          | none => (stored, .error .vaultError)

def ValidatorStart.givenSync (start : ValidatorStart Key) : Int :=
  orDefault start.lastOnlineSyncTs (wallSeconds start.nowWallNs)

def conservativeGraceFloor (wallNs : Int) : Int := max 0 (wallSeconds wallNs - maxOfflineGraceSec)

def ValidatorStart.validator (start : ValidatorStart Key) (hwmKey : Bytes) : LicenseValidator Key where
  publicKey := start.publicKey
  hardwareFingerprint := start.hardwareFingerprint
  lastOnlineSyncTs := start.givenSync
  lastKnownClockTs := orDefault start.lastKnownClockTs (wallSeconds start.nowWallNs)
  highWaterMarkPath := start.highWaterMarkPath
  bootRealtime := start.bootRealtime
  bootMonotonic := start.bootMonotonic
  allowWildcard := start.allowWildcardLicense = some true
  requireHwmPersistence := start.requireHwmPersistence
  degradeToReadOnlyOnOffline := start.degradeToReadOnlyOnOffline
  hwmKey := hwmKey

/-- What a verified file adds. -/
def LicenseValidator.adopt (validator : LicenseValidator Key) (record : HwmRecord) :
    LicenseValidator Key :=
  { validator with
    lastOnlineSyncTs := (record.syncTs.filter (0 < ·)).getD validator.lastOnlineSyncTs
    lastKnownClockTs := max validator.lastKnownClockTs record.hwmTs }

/-- The validator on the file that it finds; a file whose tag does not verify is renamed
and nothing of it is kept. -/
def LicenseValidator.loadFile (validator : LicenseValidator Key) (start : ValidatorStart Key)
    (keys : List Bytes) (file : HwmFile) : HwmFile × Except Raised (LicenseValidator Key) :=
  if ¬ validator.highWaterMarkPath then (file, .ok validator)
  else
    match file with
    | .missing => (file, .ok validator)
    | .unreadable => (file, .error .osError)
    | .notUtf8 => (file, .error (.license .hwmCorrupt "Corrupted HWM file (not valid UTF-8)"))
    | .text content =>
        match parseHwmText digests content keys with
        | .ok record => (file, .ok (validator.adopt record))
        | .error (.license .hwmMacMismatch _) =>
            if start.quarantined then
              (.missing, .ok { validator with
                lastOnlineSyncTs := conservativeGraceFloor start.floorWallNs })
            else (file, .error (.license .hwmTampered "High water mark tampered"))
        | .error raised => (file, .error raised)

/-- The constructor; a process without a vault does not get this far. -/
def createValidator (storage : Storage) (start : ValidatorStart Key) :
    Storage × Except Raised (LicenseValidator Key) :=
  if start.allowWildcardLicense = some true ∧ start.frozen then
    (storage, .error (.license .wildcardForbidden "Wildcard licenses are disabled in frozen builds."))
  else
    match storage.secrets with
    | none => (storage, .error .vaultError)
    | some vault =>
        match loadHwmKey vault start.replies with
        | (vault, .error raised) => ({ storage with secrets := some vault }, .error raised)
        | (vault, .ok key) =>
            let (file, built) := (start.validator key).loadFile digests start
              (key :: vault.legacyKey.toList) storage.file
            ({ file := file, secrets := some vault }, built)

end Start

/-! ## The verification of a token -/

def indeterminateFingerprint : String := "INDETERMINATE_HARDWARE"

def indeterminateMarkers : List String :=
  ["UNKNOWN_CPU", "UNKNOWN_DISK", "UNKNOWN_BIOS", "UNKNOWN_MAC", "FALLBACK-", "NON_WIN32-",
    indeterminateFingerprint]

def criticalWords : List String := ["flash", "write", "tx", "actuator", "calibration"]

section Verify

variable {Key : Type} (codec : TicketCodec Key) (digests : Digests)

def isIndeterminateFingerprint (fingerprint : String) : Bool :=
  let fp := codec.lower (pyStrip fingerprint.toList)
  if fingerprint = "" then true
  else if fp = [] ∨ fp = ['*'] then false
  else if fp = codec.lower indeterminateFingerprint.toList then false
  else indeterminateMarkers.any (fun marker => decide (codec.lower marker.toList <:+: fp))

def LicenseValidator.checkClock (validator : LicenseValidator Key) (call : TokenCall) :
    Except Raised Unit := do
  let now := wallSeconds call.nowWallNs
  require (¬ now < validator.lastKnownClockTs)
    (.license .clockRollbackDetected
      "System clock manipulation detected. License validation halted.")
  match validator.bootRealtime, validator.bootMonotonic with
  | some bootRealtime, some bootMonotonic =>
      let monoElapsed := call.monotonic - bootMonotonic
      let realElapsed : ℚ := now - bootRealtime
      require (¬ 60 < |monoElapsed - realElapsed|)
        (.license .clockMonotonicMismatch
          "System clock manipulation detected (monotonic counter mismatch).")
  | _, _ => .ok ()

def readToken (token : List Char) : Except Raised (Bytes × Bytes) :=
  match (pyStrip token).splitOn '.' with
  | [payloadPart, signaturePart] =>
      match codec.urlsafeB64decode payloadPart, codec.urlsafeB64decode signaturePart with
      | some payload, some signature => .ok (payload, signature)
      | _, _ => .error (.license .tokenDecodeError "Failed to decode license base64")
  | _ => .error (.license .invalidTokenFormat "Invalid license token format")

def LicenseValidator.signed (validator : LicenseValidator Key) (payload signature : Bytes) : Bool :=
  codec.verify validator.publicKey signature payload ||
    match parseLicenseJson codec payload "JCS fallback payload" with
    | .error _ => false
    | .ok data =>
        match codec.canonicalize data with
        | none => false
        | some canonical => codec.verify validator.publicKey signature canonical

/-- The checks in front of the mark. -/
def LicenseValidator.vet (validator : LicenseValidator Key) (call : TokenCall) :
    Except Raised Bytes := do
  validator.checkClock call
  let (payload, signature) ← readToken codec call.token
  require (validator.signed codec payload signature)
    (.license .invalidSignature "License token signature is invalid or has been tampered with.")
  return payload

def LicenseValidator.persist (validator : LicenseValidator Key) (file : HwmFile) (call : TokenCall) :
    HwmFile × Except Raised Unit :=
  if validator.highWaterMarkPath then
    sealHwm digests file (wallSeconds call.nowWallNs) validator.lastOnlineSyncTs validator.hwmKey
      call.replies.disk
  else if validator.requireHwmPersistence then
    (file, .error (.license .hwmPersistFailed
      "License anti-rollback requires a persistent high-water mark, but no high_water_mark_path is configured (fail-closed)."))
  else (file, .ok ())

def readPayload (payload : Bytes) : Except Raised LicensePayload := do
  let claims ← parseLicenseClaims codec payload "license JSON payload"
    ["user_id", "tier", "hardware_fingerprint", "issued_at", "expires_at"] "issued_at" "expires_at"
  match claims.strings.get? "user_id", claims.strings.get? "tier",
    claims.strings.get? "hardware_fingerprint", claims.issuedAt, claims.expiresAt with
  | some userId, some tier, some hardwareFingerprint, some issuedAt, some expiresAt =>
      return {
        userId := userId
        tier := tier
        hardwareFingerprint := hardwareFingerprint
        issuedAt := issuedAt
        expiresAt := expiresAt
        features := claims.features }
  | _, _, _, _, _ => .error .keyError

def LicensePayload.degraded (payload : LicensePayload) : LicensePayload :=
  { payload with
    tier := "READ_ONLY"
    features := payload.features.filter (fun feature =>
      !criticalWords.any (fun word => decide (word.toList <:+: codec.lower feature.toList)))
    isReadOnly := true }

def LicenseValidator.checkPayload (validator : LicenseValidator Key) (payload : LicensePayload)
    (now : Int) : Except Raised LicensePayload := do
  require (¬ isIndeterminateFingerprint codec validator.hardwareFingerprint)
    (.license .hardwareIndeterminate
      "Hardware identity could not be determined on this machine; license cannot be verified.")
  require (¬ isIndeterminateFingerprint codec payload.hardwareFingerprint)
    (.license .hardwareIndeterminate
      "License token carries an indeterminate hardware id; cannot verify.")
  require (payload.hardwareFingerprint = validator.hardwareFingerprint ∨
      (payload.hardwareFingerprint = "*" ∧ validator.allowWildcard))
    (.license .hardwareMismatch "License is locked to a different machine hardware ID.")
  require (¬ now + issuedAtSkewToleranceSec < payload.issuedAt)
    (.license .licenseFutureDated
      "License issue date is in the future beyond the permitted clock skew; refusing a not-yet-valid license (fail-closed).")
  let expiry := codec.gmtime payload.expiresAt
  require (¬ payload.expiresAt < now) (.license .licenseExpired s!"License expired at {expiry}.")
  if maxOfflineGraceSec < now - validator.lastOnlineSyncTs then
    if validator.degradeToReadOnlyOnOffline then
      return payload.degraded codec
    else
      .error (.license .offlineGraceExpired
        "7-day offline grace period has expired. Please connect to the internet to re-validate.")
  else return payload

def LicenseValidator.verifyToken (validator : LicenseValidator Key) (storage : Storage)
    (call : TokenCall) : LicenseValidator Key × Storage × Except Raised LicensePayload :=
  match validator.vet codec call with
  | .error raised => (validator, storage, .error raised)
  | .ok payload =>
      match validator.persist digests storage.file call with
      | (file, .error raised) => (validator, { storage with file := file }, .error raised)
      | (file, .ok _) =>
          let now := wallSeconds call.nowWallNs
          ({ validator with lastKnownClockTs := now }, { storage with file := file },
            (readPayload codec payload).bind (fun read => validator.checkPayload codec read now))

end Verify

end Ucanlab.License
