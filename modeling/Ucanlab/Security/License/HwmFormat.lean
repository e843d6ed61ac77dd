import Ucanlab.Core.PyNumber

/-!
The sealed file of the high-water mark of the license clock, shared by the ticket
flow and the token validator, and the vault that keeps its key. Only the two of
them outlive a process.
-/

namespace Ucanlab.License

inductive LicenseCode where
  | hwmCorrupt
  | hwmMacMismatch
  | hwmPersistFailed
  | hwmTampered
  | hwmKeyUnavailable
  | hwmUnavailable
  | unknownKeyId
  | invalidTicketFormat
  | ticketDecodeError
  | malformedPayload
  | incompleteSchema
  | issuerMismatch
  | unsupportedSchemaVersion
  | malformedSchema
  | missingNonce
  | invalidSignature
  | noDeviceId
  | deviceMismatch
  | clockRollbackDetected
  | clockMonotonicMismatch
  | licenseExpired
  | offlineGraceExpired
  | wildcardForbidden
  | invalidTokenFormat
  | tokenDecodeError
  | hardwareIndeterminate
  | hardwareMismatch
  | licenseFutureDated
  deriving DecidableEq, Repr

def LicenseCode.text : LicenseCode → String
  | hwmCorrupt => "HWM_CORRUPT"
  | hwmMacMismatch => "HWM_MAC_MISMATCH"
  | hwmPersistFailed => "HWM_PERSIST_FAILED"
  | hwmTampered => "HWM_TAMPERED"
  | hwmKeyUnavailable => "HWM_KEY_UNAVAILABLE"
  | hwmUnavailable => "HWM_UNAVAILABLE"
  | unknownKeyId => "UNKNOWN_KEY_ID"
  | invalidTicketFormat => "INVALID_TICKET_FORMAT"
  | ticketDecodeError => "TICKET_DECODE_ERROR"
  | malformedPayload => "MALFORMED_PAYLOAD"
  | incompleteSchema => "INCOMPLETE_SCHEMA"
  | issuerMismatch => "ISSUER_MISMATCH"
  | unsupportedSchemaVersion => "UNSUPPORTED_SCHEMA_VERSION"
  | malformedSchema => "MALFORMED_SCHEMA"
  | missingNonce => "MISSING_NONCE"
  | invalidSignature => "INVALID_SIGNATURE"
  | noDeviceId => "NO_DEVICE_ID"
  | deviceMismatch => "DEVICE_MISMATCH"
  | clockRollbackDetected => "CLOCK_ROLLBACK_DETECTED"
  | clockMonotonicMismatch => "CLOCK_MONOTONIC_MISMATCH"
  | licenseExpired => "LICENSE_EXPIRED"
  | offlineGraceExpired => "OFFLINE_GRACE_EXPIRED"
  | wildcardForbidden => "WILDCARD_FORBIDDEN"
  | invalidTokenFormat => "INVALID_TOKEN_FORMAT"
  | tokenDecodeError => "TOKEN_DECODE_ERROR"
  | hardwareIndeterminate => "HARDWARE_INDETERMINATE"
  | hardwareMismatch => "HARDWARE_MISMATCH"
  | licenseFutureDated => "LICENSE_FUTURE_DATED"

/-- What a call can raise: a license error, or an error of the language that the source
does not catch. -/
inductive Raised where
  | license (code : LicenseCode) (message : String)
  | valueError
  | typeError
  | overflowError
  | keyError
  | osError
  | vaultError
  deriving DecidableEq, Repr

def require (condition : Prop) [Decidable condition] (raised : Raised) : Except Raised Unit :=
  if condition then .ok () else .error raised

section Checks

variable {α β : Type} {raised : Raised}

theorem require_ok {condition : Prop} [Decidable condition] {done : Unit} :
    require condition raised = .ok done ↔ condition := by
  unfold require
  split
  · rename_i met
    exact ⟨fun _ => met, fun _ => rfl⟩
  · rename_i unmet
    exact ⟨fun passed => (nomatch passed), fun met => absurd met unmet⟩

theorem bind_ok {check : Except Raised α} {next : α → Except Raised β} {result : β} :
    check >>= next = .ok result ↔ ∃ value, check = .ok value ∧ next value = .ok result := by
  cases check with
  | error early =>
      constructor
      · exact fun passed => nomatch passed
      · rintro ⟨value, passed, _⟩
        cases passed
  | ok value =>
      constructor
      · exact fun passed => ⟨value, rfl, passed⟩
      · rintro ⟨other, same, passed⟩
        cases same
        exact passed

theorem toOption_eq_some {result : Except Raised α} {value : α} :
    result.toOption = some value ↔ result = .ok value := by
  cases result with
  | error early => exact iff_of_false (fun found => nomatch found) (fun same => nomatch same)
  | ok held =>
      constructor
      · exact fun found => congrArg Except.ok (Option.some.inj found)
      · rintro ⟨⟩
        rfl

end Checks

/-! ## The text of the file -/

/-- The characters of `str.isdigit` that are not decimal digits: superscripts, circled
digits and the like. `int` raises on them. -/
def loneDigits : List (Nat × Nat) :=
  [(0xB2, 0xB3), (0xB9, 0xB9), (0x1369, 0x1371), (0x19DA, 0x19DA), (0x2070, 0x2070),
    (0x2074, 0x2079), (0x2080, 0x2089), (0x2460, 0x2468), (0x2474, 0x247C), (0x2488, 0x2490),
    (0x24EA, 0x24EA), (0x24F5, 0x24FD), (0x24FF, 0x24FF), (0x2776, 0x277E), (0x2780, 0x2788),
    (0x278A, 0x2792), (0x10A40, 0x10A43), (0x10E60, 0x10E68), (0x11052, 0x1105A),
    (0x1F100, 0x1F10A)]

def isDigitChar (c : Char) : Bool :=
  (unicodeDigit c).isSome ||
    loneDigits.any (fun range => decide (range.1 ≤ c.toNat ∧ c.toNat ≤ range.2))

/-- `str.isdigit`. -/
def isDigitText (text : List Char) : Bool := !text.isEmpty && text.all isDigitChar

/-- The most digits that `int` and `str` convert. -/
def intMaxStrDigits : Nat := 4300

/-- `int` on a text that passed `isdigit`. -/
def intOfDigits (text : List Char) : Option Int :=
  if intMaxStrDigits < text.length then none else pyInt 10 text

/-- `str` of an integer. -/
def intText (value : Int) : Option (List Char) :=
  let digits := decimalText value.natAbs
  if intMaxStrDigits < digits.length then none
  else some (if value < 0 then '-' :: digits else digits)

def splitFirst (mark : Char) : List Char → Option (List Char × List Char)
  | [] => none
  | c :: rest =>
      if c = mark then some ([], rest)
      else (splitFirst mark rest).map (fun parts => (c :: parts.1, parts.2))

def splitLast (mark : Char) (text : List Char) : Option (List Char × List Char) :=
  (splitFirst mark text.reverse).map (fun parts => (parts.2.reverse, parts.1.reverse))

def utf8Bytes (text : List Char) : Bytes := text.flatMap String.utf8EncodeChar

/-- A parsed file whose integrity tag was verified. -/
structure HwmRecord where
  hwmTs : Int
  syncTs : Option Int
  legacy : Bool
  deriving DecidableEq, Repr

def macHexLen : Nat := 64

section Format

variable (digests : Digests)

def hwmMac (key : Bytes) (tsPart : List Char) : List Char :=
  hexText (digests.hmacSha256 key (utf8Bytes tsPart))

def canonicalTsPart (hwmTs syncTs : Int) : Option (List Char) :=
  match intText hwmTs, intText syncTs with
  | some hwm, some sync => some (hwm ++ ':' :: sync)
  | _, _ => none

/-- The body of the file; `none` where `str` raises. -/
def formatHwmText (hwmTs syncTs : Int) (key : Bytes) : Option (List Char) :=
  (canonicalTsPart hwmTs syncTs).map (fun tsPart => tsPart ++ '.' :: hwmMac digests key tsPart)

def corruptFormat : Raised :=
  .license .hwmCorrupt "Corrupted HWM file (invalid format)"

/-- The end of the parser: the tag, then the first number. `compare_digest` refuses a
text outside ASCII. -/
def verifyMac (tsPart macStr hwmStr : List Char) (syncTs : Option Int) (legacy : Bool)
    (keys : List Bytes) : Except Raised HwmRecord :=
  if keys ≠ [] ∧ ¬ macStr.all (fun c => decide (c.toNat < 0x80)) then .error .typeError
  else if keys.any (fun key => decide (macStr = hwmMac digests key tsPart)) then
    match intOfDigits hwmStr with
    | none => .error .valueError
    | some hwmTs => .ok { hwmTs := hwmTs, syncTs := syncTs, legacy := legacy }
  else .error (.license .hwmMacMismatch "HWM integrity check failed")

def parseHwmText (text : List Char) (keys : List Bytes) : Except Raised HwmRecord :=
  match splitLast '.' (pyStrip text) with
  | none => .error (.license .hwmCorrupt "Corrupted HWM file (missing HMAC)")
  | some (tsPart, macStr) =>
      if macStr.length ≠ macHexLen ∨ tsPart = [] then .error corruptFormat
      else
        match splitFirst ':' tsPart with
        | some (hwmStr, syncStr) =>
            if ¬ (isDigitText hwmStr ∧ isDigitText syncStr) then .error corruptFormat
            else
              match intOfDigits syncStr with
              | none => .error .valueError
              | some syncTs => verifyMac digests tsPart macStr hwmStr (some syncTs) false keys
        | none =>
            if ¬ isDigitText tsPart then .error corruptFormat
            else verifyMac digests tsPart macStr tsPart none true keys

end Format

/-! ## What outlives a process -/

inductive HwmFile where
  | missing
  | unreadable
  | notUtf8
  | text (content : List Char)
  deriving DecidableEq, Repr

/-- The secrets under the names of the key, of the old key and of the marker; `none` for a
secret that is absent or cannot be read. -/
structure Vault where
  hmacKey : Option Bytes := none
  legacyKey : Option Bytes := none
  initialized : Bool := false
  deriving DecidableEq, Repr

structure Storage where
  file : HwmFile := .missing
  secrets : Option Vault := some {}
  deriving DecidableEq, Repr

/-- What comes of storing a key: it is there; the vault raises; it cannot be read back; or
another value comes back. -/
inductive KeyStore where
  | stored
  | refused
  | lost
  | altered (other : Bytes)
  deriving DecidableEq, Repr

inductive DiskWrite where
  | written
  | noDirectory
  | failed (error : String)
  deriving DecidableEq, Repr

/-- What the operating system answers during one call: the bytes of `os.urandom` and the
outcome of the writes. -/
structure Replies where
  fresh : Bytes
  keyStore : KeyStore := .stored
  markerStored : Bool := true
  disk : DiskWrite := .written
  deriving DecidableEq, Repr

def Vault.storeKey (vault : Vault) (key : Bytes) : KeyStore → Vault
  | .stored => { vault with hmacKey := some key }
  | .refused => vault
  | .lost => { vault with hmacKey := none }
  | .altered other => { vault with hmacKey := some other }

/-- The file is replaced whole or stays as it was. -/
def sealHwm (digests : Digests) (file : HwmFile) (hwmTs syncTs : Int) (key : Bytes) :
    DiskWrite → HwmFile × Except Raised Unit
  | .noDirectory => (file, .error .osError)
  | .failed error =>
      match formatHwmText digests hwmTs syncTs key with
      | none => (file, .error .valueError)
      | some _ =>
          (file, .error (.license .hwmPersistFailed
            s!"Failed to persist license high-water mark (fail-closed): {error}"))
  | .written =>
      match formatHwmText digests hwmTs syncTs key with
      | none => (file, .error .valueError)
      | some body => (.text body, .ok ())

/-! ## Reading back what was sealed -/

section RoundTrip

variable {digests : Digests} {mark : Char} {front back text body : List Char} {value hwmTs syncTs : Int}
  {key : Bytes} {keys : List Bytes} {record : HwmRecord}

theorem splitFirst_of_notMem (absent : mark ∉ front) :
    splitFirst mark (front ++ mark :: back) = some (front, back) := by
  induction front with
  | nil => exact if_pos rfl
  | cons c rest ih =>
      obtain ⟨other, later⟩ := not_or.mp (fun member => absent (List.mem_cons.mpr member))
      rw [List.cons_append, splitFirst, if_neg (Ne.symm other), ih later]
      rfl

theorem splitLast_of_notMem (absent : mark ∉ back) :
    splitLast mark (front ++ mark :: back) = some (front, back) := by
  have reversed : (front ++ mark :: back).reverse = back.reverse ++ mark :: front.reverse := by
    simp
  unfold splitLast
  rw [reversed, splitFirst_of_notMem (fun member => absent (List.mem_reverse.mp member))]
  simp

theorem intText_some (found : intText value = some text) :
    (decimalText value.natAbs).length ≤ intMaxStrDigits ∧
      text = if value < 0 then '-' :: decimalText value.natAbs else decimalText value.natAbs := by
  unfold intText at found
  dsimp only at found
  split at found
  · cases found
  · rename_i short
    cases found
    exact ⟨Nat.le_of_not_lt short, rfl⟩

theorem intText_isDigit (found : intText value = some text) (digits : isDigitText text = true) :
    0 ≤ value ∧ intOfDigits text = some value := by
  obtain ⟨short, rfl⟩ := intText_some found
  split at digits
  · rename_i negative
    have minus : isDigitText ('-' :: decimalText value.natAbs) = false := by
      have sign : isDigitChar '-' = false := by decide
      unfold isDigitText
      rw [List.all_cons, sign, Bool.false_and, Bool.and_false]
    exact absurd (minus.symm.trans digits) Bool.false_ne_true
  · rename_i positive
    rw [if_neg positive]
    refine ⟨Int.not_lt.mp positive, ?_⟩
    unfold intOfDigits
    rw [if_neg (Nat.not_lt.mpr short), pyInt_decimalText,
      Int.natAbs_of_nonneg (Int.not_lt.mp positive)]

theorem mem_intText {c : Char} (found : intText value = some text) (member : c ∈ text) :
    c = '-' ∨ 0x30 ≤ c.toNat ∧ c.toNat ≤ 0x39 := by
  obtain ⟨_, rfl⟩ := intText_some found
  split at member
  · rcases List.mem_cons.mp member with sign | later
    · exact Or.inl sign
    · exact Or.inr (decimalText_ascii later)
  · exact Or.inr (decimalText_ascii member)

theorem notMem_intText {c : Char} (found : intText value = some text) (other : c = ':' ∨ c = '.') :
    c ∉ text := by
  intro member
  rcases other with rfl | rfl <;> rcases mem_intText found member with sign | digit
  · exact absurd sign (by decide)
  · exact absurd digit (by decide)
  · exact absurd sign (by decide)
  · exact absurd digit (by decide)

theorem formatHwmText_some (found : formatHwmText digests hwmTs syncTs key = some body) :
    ∃ hwm sync, intText hwmTs = some hwm ∧ intText syncTs = some sync ∧
      body = (hwm ++ ':' :: sync) ++ '.' :: hwmMac digests key (hwm ++ ':' :: sync) := by
  unfold formatHwmText canonicalTsPart at found
  split at found
  · rename_i hwm sync hwmText syncText
    cases found
    exact ⟨hwm, sync, hwmText, syncText, rfl⟩
  · cases found

theorem notSpace_of_digit {c : Char} (digit : 0x30 ≤ c.toNat ∧ c.toNat ≤ 0x39) :
    isPySpace c = false := by
  unfold isPySpace
  simp only [Bool.or_eq_false_iff, Bool.and_eq_false_iff, decide_eq_false_iff_not,
    beq_eq_false_iff_ne]
  omega

theorem pyStrip_formatted (found : formatHwmText digests hwmTs syncTs key = some body) :
    pyStrip body = body := by
  obtain ⟨hwm, sync, hwmText, syncText, rfl⟩ := formatHwmText_some found
  apply strip_of_all
  intro c member
  have number : ∀ {value : Int} {text : List Char}, intText value = some text → c ∈ text →
      isPySpace c = false := by
    intro value text written isIn
    rcases mem_intText written isIn with sign | digit
    · rw [sign]
      decide
    · exact notSpace_of_digit digit
  rcases List.mem_append.mp member with ts | rest
  · rcases List.mem_append.mp ts with inHwm | inSync
    · exact number hwmText inHwm
    · rcases List.mem_cons.mp inSync with colon | later
      · rw [colon]
        decide
      · exact number syncText later
  · rcases List.mem_cons.mp rest with dot | inMac
    · rw [dot]
      decide
    · obtain ⟨digit, rfl⟩ := digitChar_of_mem_hexText inMac
      exact (digitChar_hex digit).2.1

theorem hwmMac_length (key : Bytes) (tsPart : List Char) :
    (hwmMac digests key tsPart).length = macHexLen := by
  unfold hwmMac
  rw [hexText_length, digests.hmacLength]
  rfl

theorem notMem_hwmMac (key : Bytes) (tsPart : List Char) : '.' ∉ hwmMac digests key tsPart := by
  have hexDigits : ∀ digit : Fin 16, '.' ≠ Nat.digitChar digit.val := by decide
  intro member
  obtain ⟨digit, same⟩ := digitChar_of_mem_hexText member
  exact hexDigits digit same

theorem parseHwmText_formatted {hwm sync : List Char} (hwmText : intText hwmTs = some hwm)
    (syncText : intText syncTs = some sync)
    (found : formatHwmText digests hwmTs syncTs key = some body) (keys : List Bytes) :
    parseHwmText digests body keys =
      if ¬ (isDigitText hwm ∧ isDigitText sync) then .error corruptFormat
      else
        match intOfDigits sync with
        | none => .error .valueError
        | some syncTs =>
            verifyMac digests (hwm ++ ':' :: sync) (hwmMac digests key (hwm ++ ':' :: sync)) hwm
              (some syncTs) false keys := by
  have stripped := pyStrip_formatted found
  have shape : body = (hwm ++ ':' :: sync) ++ '.' :: hwmMac digests key (hwm ++ ':' :: sync) := by
    unfold formatHwmText canonicalTsPart at found
    rw [hwmText, syncText] at found
    cases found
    rfl
  unfold parseHwmText
  rw [stripped, shape, splitLast_of_notMem (notMem_hwmMac key _)]
  dsimp only
  rw [if_neg (by simp [hwmMac_length]), splitFirst_of_notMem (notMem_intText hwmText (Or.inl rfl))]

theorem parseHwmText_sealed (found : formatHwmText digests hwmTs syncTs key = some body)
    (parsed : parseHwmText digests body keys = .ok record) :
    record.hwmTs = hwmTs ∧ record.syncTs = some syncTs := by
  obtain ⟨hwm, sync, hwmText, syncText, _⟩ := formatHwmText_some found
  rw [parseHwmText_formatted hwmText syncText found] at parsed
  split at parsed
  · cases parsed
  · rename_i digits
    obtain ⟨hwmDigits, syncDigits⟩ := not_not.mp digits
    rw [(intText_isDigit syncText syncDigits).2] at parsed
    dsimp only at parsed
    unfold verifyMac at parsed
    split at parsed
    · cases parsed
    · split at parsed
      · rw [(intText_isDigit hwmText hwmDigits).2] at parsed
        cases parsed
        exact ⟨rfl, rfl⟩
      · cases parsed

theorem sealHwm_ok {file after : HwmFile} {disk : DiskWrite} {done : Unit}
    (ok : sealHwm digests file hwmTs syncTs key disk = (after, .ok done)) :
    ∃ body, formatHwmText digests hwmTs syncTs key = some body ∧ after = .text body := by
  unfold sealHwm at ok
  split at ok
  · cases ok
  · split at ok <;> cases ok
  · split at ok
    · cases ok
    · rename_i body formatted
      cases ok
      exact ⟨body, formatted, rfl⟩

theorem sealHwm_error {file after : HwmFile} {disk : DiskWrite}
    {raised : Raised} (failed : sealHwm digests file hwmTs syncTs key disk = (after, .error raised)) :
    after = file := by
  unfold sealHwm at failed
  split at failed
  · cases failed
    rfl
  · split at failed <;> cases failed <;> rfl
  · split at failed <;> cases failed
    rfl

end RoundTrip

end Ucanlab.License
