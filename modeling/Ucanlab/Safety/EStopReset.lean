import Ucanlab.Core.PyNumber
import Ucanlab.Safety.EStop

/-!
The reset of the emergency stop in full: the token an operator presents, the
checks on it in their order, and what each refusal leaves behind.
-/

namespace Ucanlab.Safety

open Ucanlab

def maxTokenStringLen : Nat := 512
def nonceHexLen : Nat := 32
def sigHexLen : Nat := 64
def maxTokenEpoch : Int := 2 ^ 63 - 1
def maxTokenTimestampNs : Int := 2 ^ 63 - 1
def estopResetAction : List Char := "ESTOP_RESET".toList
def allowedTokenActions : List (List Char) := [estopResetAction]

def EStopChallenge.serializeForSignature (challenge : EStopChallenge) : Bytes :=
  asciiBytes (decimalText challenge.epoch ++ ':' :: hexText challenge.nonce ++
    ':' :: decimalText challenge.timestampNs ++ ':' :: estopResetAction)

structure EmergencyStopToken where
  epoch : Int
  nonce : List Char
  timestampNs : Int
  action : List Char
  signature : List Char
  deriving DecidableEq, Repr

inductive TokenField where
  | epoch
  | nonce
  | timestamp
  | action
  | signature
  deriving DecidableEq, Repr

namespace EmergencyStopToken

/-- The first field out of its bounds, which are the same for the token object
and for its text. -/
def brokenField (token : EmergencyStopToken) : Option TokenField :=
  if ¬ (0 ≤ token.epoch ∧ token.epoch ≤ maxTokenEpoch) then some .epoch
  else if token.nonce.length ≠ nonceHexLen ∨ ¬ isHex token.nonce then some .nonce
  else if ¬ (0 ≤ token.timestampNs ∧ token.timestampNs ≤ maxTokenTimestampNs) then some .timestamp
  else if token.action ∉ allowedTokenActions then some .action
  else if token.signature.length ≠ sigHexLen ∨ ¬ isHex token.signature then some .signature
  else none

inductive FormatError where
  | tooLong (length : Nat)
  | fieldCount (count : Nat)
  | malformed
  | field (broken : TokenField)
  deriving DecidableEq, Repr

def fromTokenString (text : List Char) : Except FormatError EmergencyStopToken :=
  let raw := pyStrip text
  if raw.length > maxTokenStringLen then .error (.tooLong raw.length)
  else
    match raw.splitOn ':' with
    | [epochText, nonce, timestampText, action, signature] =>
        match pyInt 10 epochText, pyInt 10 timestampText with
        | some epoch, some timestamp =>
            let token : EmergencyStopToken := ⟨epoch, nonce, timestamp, action, signature⟩
            match token.brokenField with
            | some broken => .error (.field broken)
            | none => .ok token
        | _, _ => .error .malformed
    | parts => .error (.fieldCount parts.length)

end EmergencyStopToken

/-- What a caller may present. -/
inductive AuthorizationToken where
  | structured (token : EmergencyStopToken)
  | text (chars : List Char)
  | other
  deriving DecidableEq, Repr

inductive ResetDenial where
  | noActiveChallenge
  | field (broken : TokenField)
  | invalidToken
  | tooLong
  | malformed (error : EmergencyStopToken.FormatError)
  | unsupportedType
  | replayed
  | epochMismatch
  | action
  | nonceMismatch
  | expired
  | timestampExpired
  | rateLimited
  | signatureFormat
  deriving DecidableEq, Repr

/-- The fields of the presented token. A text without a colon is a bare
signature and takes the other fields from the challenge. -/
def readToken (challenge : EStopChallenge) (token : AuthorizationToken) :
    Except ResetDenial EmergencyStopToken :=
  match token with
  | .structured token =>
      match token.brokenField with
      | some broken => .error (.field broken)
      | none => .ok token
  | .text chars =>
      let text := pyStrip chars
      if text = [] then .error .invalidToken
      else if text.length > maxTokenStringLen then .error .tooLong
      else if ':' ∈ text then
        match EmergencyStopToken.fromTokenString text with
        | .error error => .error (.malformed error)
        | .ok token => .ok token
      else
        .ok {
          epoch := challenge.epoch
          nonce := hexText challenge.nonce
          timestampNs := challenge.timestampNs
          action := estopResetAction
          signature := text }
  | .other => .error .unsupportedType

def EStopChallenge.outdated (challenge : EStopChallenge) (now : Nat) (timestampNs : Int) : Bool :=
  decide ((now : Int) - timestampNs > challenge.maxAgeNs ∨ (now : Int) - timestampNs < 0)

def looksWellFormedSignature (signature : List Char) : Bool :=
  decide ((pyStrip signature).length = sigHexLen) && isHex (pyStrip signature)

def presentedSignature (token : EmergencyStopToken) : Option Bytes :=
  bytesFromHex (pyStrip token.signature)

def EmergencyStopToken.names (token : EmergencyStopToken) (challenge : EStopChallenge) : Bool :=
  decide (token.epoch = challenge.epoch ∧ token.action = estopResetAction ∧
    token.nonce.map Char.toLower = hexText challenge.nonce)

namespace EStop

/-- How the checks on a presented token end: with a verdict, or because the
secret is not loaded, which is raised without being recorded as a failure. -/
inductive ResetCheck where
  | granted
  | denied (denial : ResetDenial)
  | expired (denial : ResetDenial)
  | noSecret
  deriving DecidableEq, Repr

section Checks

variable (digests : Digests)

def checkSignature (estop : EStop) (secret : Option Bytes) (challenge : EStopChallenge)
    (token : EmergencyStopToken) (now : Nat) : ResetCheck :=
  if now < estop.resetBackoffUntilNs ∧ ¬ looksWellFormedSignature token.signature then
    .denied .rateLimited
  else
    match secret with
    | none => .noSecret
    | some key =>
        match presentedSignature token with
        | none => .denied .signatureFormat
        | some presented =>
            if presented = digests.hmacSha256 key challenge.serializeForSignature then .granted
            else if now < estop.resetBackoffUntilNs then .denied .rateLimited
            else .denied .invalidToken

def checkFields (estop : EStop) (secret : Option Bytes) (challenge : EStopChallenge)
    (token : EmergencyStopToken) (now : Nat) : ResetCheck :=
  if challenge.nonce ∈ estop.consumedNonces then .denied .replayed
  else if token.epoch ≠ challenge.epoch ∨ token.epoch ≠ estop.epoch then .denied .epochMismatch
  else if token.action ≠ estopResetAction then .denied .action
  else if token.nonce.map Char.toLower ≠ hexText challenge.nonce then .denied .nonceMismatch
  else if challenge.outdated now challenge.timestampNs then .expired .expired
  else if challenge.outdated now token.timestampNs then .expired .timestampExpired
  else estop.checkSignature digests secret challenge token now

def checkToken (estop : EStop) (secret : Option Bytes) (challenge : EStopChallenge)
    (token : AuthorizationToken) (now : Nat) : ResetCheck :=
  match readToken challenge token with
  | .error denial => .denied denial
  | .ok fields => estop.checkFields digests secret challenge fields now

inductive ResetResult where
  | notEngaged
  | refused (denial : ResetDenial)
  | noSecret
  | disengaged
  deriving DecidableEq, Repr

/-- Phase 1 of `reset`. The checks share one reading of the clock, the recording
of a failure takes another. -/
def reset (estop : EStop) (secret : Option Bytes) (token : AuthorizationToken) (now later : Nat) :
    EStop × ResetResult :=
  if ¬ estop.engaged then (estop, .notEngaged)
  else
    match estop.challenge with
    | none => (estop.resetFailure later, .refused .noActiveChallenge)
    | some challenge =>
        match estop.checkToken digests secret challenge token now with
        | .granted => ((estop.resetVerify .granted later).1, .disengaged)
        | .denied denial => ((estop.resetVerify .denied later).1, .refused denial)
        | .expired denial => ((estop.resetVerify .expired later).1, .refused denial)
        | .noSecret => (estop, .noSecret)

end Checks

section Challenges

/-- `reissue_challenge`; it raises unless engaged. -/
def reissueChallenge (estop : EStop) (now : Nat) (nonce : Bytes) : Option EStop :=
  if ¬ estop.engaged then none
  else
    some { estop with
      challenge := some {
        epoch := estop.epoch
        nonce := nonce
        timestampNs := now
        maxAgeNs := estop.maxTokenAgeNs } }

/-- `request_reset_challenge`: a live challenge is handed out again. -/
def requestResetChallenge (estop : EStop) (now later : Nat) (nonce : Bytes) : EStop :=
  if ¬ estop.engaged then estop
  else
    match estop.challenge with
    | none => (estop.reissueChallenge later nonce).getD estop
    | some active =>
        if active.isExpired now then (estop.reissueChallenge later nonce).getD estop else estop

/-- `create_reset_token` for a challenge, as the reset authority mints it. -/
def mint (digests : Digests) (key : Bytes) (challenge : EStopChallenge) : EmergencyStopToken where
  epoch := challenge.epoch
  nonce := hexText challenge.nonce
  timestampNs := challenge.timestampNs
  action := estopResetAction
  signature := hexText (digests.hmacSha256 key challenge.serializeForSignature)

end Challenges

section Outcomes

variable {digests : Digests} {estop : EStop} {secret : Option Bytes} {challenge : EStopChallenge}
  {token : AuthorizationToken} {now later : Nat}

structure Authenticates (digests : Digests) (estop : EStop) (key : Bytes)
    (challenge : EStopChallenge) (token : AuthorizationToken) (now : Nat) : Prop where
  active : estop.challenge = some challenge
  unconsumed : challenge.nonce ∉ estop.consumedNonces
  current : challenge.epoch = estop.epoch
  unexpired : challenge.outdated now challenge.timestampNs = false
  signed : ∃ fields, readToken challenge token = .ok fields ∧ fields.names challenge = true ∧
    challenge.outdated now fields.timestampNs = false ∧
    presentedSignature fields = some (digests.hmacSha256 key challenge.serializeForSignature)

theorem checkSignature_granted {fields : EmergencyStopToken}
    (granted : estop.checkSignature digests secret challenge fields now = .granted) :
    ∃ key, secret = some key ∧ presentedSignature fields =
      some (digests.hmacSha256 key challenge.serializeForSignature) := by
  unfold checkSignature at granted
  split at granted
  · cases granted
  · split at granted
    · cases granted
    · rename_i key
      split at granted
      · cases granted
      · rename_i presented decoded
        split at granted
        · rename_i same
          exact ⟨key, rfl, decoded.trans (congrArg some same)⟩
        · split at granted <;> cases granted

theorem checkToken_granted (active : estop.challenge = some challenge)
    (granted : estop.checkToken digests secret challenge token now = .granted) :
    ∃ key, secret = some key ∧ Authenticates digests estop key challenge token now := by
  unfold checkToken at granted
  split at granted
  · cases granted
  · rename_i fields read
    unfold checkFields at granted
    split at granted
    · cases granted
    · rename_i unconsumed
      split at granted
      · cases granted
      · rename_i epochs
        split at granted
        · cases granted
        · rename_i action
          split at granted
          · cases granted
          · rename_i nonce
            split at granted
            · cases granted
            · rename_i unexpired
              split at granted
              · cases granted
              · rename_i recent
                obtain ⟨key, loaded, signed⟩ := checkSignature_granted granted
                obtain ⟨named, current⟩ := not_or.mp epochs
                have named := not_not.mp named
                have current := not_not.mp current
                refine ⟨key, loaded, active, unconsumed, by omega, Bool.eq_false_iff.mpr unexpired,
                  fields, read, ?_, Bool.eq_false_iff.mpr recent, signed⟩
                exact decide_eq_true ⟨named, not_not.mp action, not_not.mp nonce⟩

/-- What phase 1 leaves of the stop when it does not disengage: all but the
failure counters and perhaps the challenge. -/
structure Refused (before after : EStop) : Prop where
  engaged : after.engaged = before.engaged
  epoch : after.epoch = before.epoch
  txFence : after.txFence = before.txFence
  consumedNonces : after.consumedNonces = before.consumedNonces
  maxTokenAgeNs : after.maxTokenAgeNs = before.maxTokenAgeNs
  challenge : after.challenge = before.challenge ∨ after.challenge = none

theorem Refused.resetFailure (before : EStop) (later : Nat) :
    Refused before (before.resetFailure later) :=
  ⟨rfl, rfl, rfl, rfl, rfl, Or.inl rfl⟩

/-- What phase 1 does when it disengages. -/
structure Disengaged (digests : Digests) (before after : EStop) (secret : Option Bytes)
    (token : AuthorizationToken) (now : Nat) : Prop where
  was : before.engaged = true
  engaged : after.engaged = false
  epoch : after.epoch = before.epoch + 1
  txFence : after.txFence = before.txFence
  challenge : after.challenge = none
  maxTokenAgeNs : after.maxTokenAgeNs = before.maxTokenAgeNs
  authentic : ∃ key challenge, secret = some key ∧
    Authenticates digests before key challenge token now

theorem resetVerify_active (engaged : estop.engaged = true)
    (active : estop.challenge = some challenge) (later : Nat) :
    (estop.resetVerify .denied later).1 = estop.resetFailure later ∧
      (estop.resetVerify .expired later).1 = { estop with challenge := none }.resetFailure later ∧
      (estop.resetVerify .granted later).1 = { estop with
        engaged := false
        challenge := none
        epoch := estop.epoch + 1
        consumedNonces := recordConsumedNonce estop.consumedNonces challenge.nonce
        failedResetAttempts := 0
        resetBackoffUntilNs := 0 } := by
  unfold resetVerify
  rw [if_neg (not_not_intro engaged), if_neg (not_not_intro engaged),
    if_neg (not_not_intro engaged), active]
  exact ⟨rfl, rfl, rfl⟩

theorem reset_cases (digests : Digests) (estop : EStop) (secret : Option Bytes)
    (token : AuthorizationToken) (now later : Nat) :
    ((estop.reset digests secret token now later).2 = .disengaged ∧
        Disengaged digests estop (estop.reset digests secret token now later).1 secret token now) ∨
      ((estop.reset digests secret token now later).2 ≠ .disengaged ∧
        Refused estop (estop.reset digests secret token now later).1) := by
  unfold reset
  split
  · exact Or.inr ⟨nofun, rfl, rfl, rfl, rfl, rfl, Or.inl rfl⟩
  · rename_i on
    have engaged : estop.engaged = true := not_not.mp on
    split
    · exact Or.inr ⟨nofun, Refused.resetFailure estop later⟩
    · rename_i challenge active
      obtain ⟨denied, expired, granted⟩ := resetVerify_active engaged active later
      split
      · rename_i verdict
        obtain ⟨key, loaded, authentic⟩ := checkToken_granted active verdict
        rw [granted]
        exact Or.inl ⟨rfl, engaged, rfl, rfl, rfl, rfl, rfl, key, challenge, loaded, authentic⟩
      · rw [denied]
        exact Or.inr ⟨nofun, Refused.resetFailure estop later⟩
      · rw [expired]
        exact Or.inr ⟨nofun, rfl, rfl, rfl, rfl, rfl, Or.inr rfl⟩
      · exact Or.inr ⟨nofun, rfl, rfl, rfl, rfl, rfl, Or.inl rfl⟩

theorem readToken_signature {left right : EStopChallenge} {leftFields rightFields : EmergencyStopToken}
    (leftRead : readToken left token = .ok leftFields)
    (rightRead : readToken right token = .ok rightFields) :
    leftFields.signature = rightFields.signature := by
  unfold readToken at leftRead rightRead
  cases token with
  | structured token =>
      dsimp only at leftRead rightRead
      split at leftRead
      · cases leftRead
      · rename_i sound
        rw [sound] at rightRead
        cases leftRead
        cases rightRead
        rfl
  | text chars =>
      dsimp only at leftRead rightRead
      split at leftRead
      · cases leftRead
      · rename_i nonempty
        rw [if_neg nonempty] at rightRead
        split at leftRead
        · cases leftRead
        · rename_i short
          rw [if_neg short] at rightRead
          split at leftRead
          · rename_i structured
            rw [if_pos structured] at rightRead
            split at leftRead
            · cases leftRead
            · rename_i fields parsed
              rw [parsed] at rightRead
              cases leftRead
              cases rightRead
              rfl
          · rename_i bare
            rw [if_neg bare] at rightRead
            cases leftRead
            cases rightRead
            rfl
  | other => cases leftRead

def Discards (challenge : EStopChallenge) (token : AuthorizationToken) (now : Nat) : Prop :=
  ∃ fields, readToken challenge token = .ok fields ∧ fields.names challenge = true ∧
    challenge.outdated now fields.timestampNs = true

theorem checkSignature_not_expired {fields : EmergencyStopToken} (denial : ResetDenial) :
    estop.checkSignature digests secret challenge fields now ≠ .expired denial := by
  unfold checkSignature
  split
  · exact nofun
  · split
    · exact nofun
    · split
      · exact nofun
      · split
        · exact nofun
        · split
          · exact nofun
          · exact nofun

theorem checkToken_expired_iff (unconsumed : challenge.nonce ∉ estop.consumedNonces)
    (current : challenge.epoch = estop.epoch)
    (recent : challenge.outdated now challenge.timestampNs = false) :
    (∃ denial, estop.checkToken digests secret challenge token now = .expired denial) ↔
      Discards challenge token now := by
  unfold checkToken Discards
  cases read : readToken challenge token with
  | error denial => exact ⟨nofun, nofun⟩
  | ok fields =>
      have epochs : (fields.epoch ≠ challenge.epoch ∨ fields.epoch ≠ estop.epoch) ↔
          fields.epoch ≠ challenge.epoch := by
        rw [current, or_self]
      unfold checkFields
      dsimp only
      rw [if_neg unconsumed]
      constructor
      · rintro ⟨denial, answer⟩
        split at answer
        · cases answer
        · rename_i epoch
          split at answer
          · cases answer
          · rename_i action
            split at answer
            · cases answer
            · rename_i nonce
              rw [recent, if_neg Bool.false_ne_true] at answer
              split at answer
              · rename_i outdated
                refine ⟨fields, rfl, decide_eq_true ?_, outdated⟩
                exact ⟨not_not.mp (fun other => epoch (epochs.mpr other)), not_not.mp action,
                  not_not.mp nonce⟩
              · exact absurd answer (checkSignature_not_expired denial)
      · rintro ⟨other, same, named, outdated⟩
        cases same
        obtain ⟨epoch, action, nonce⟩ := of_decide_eq_true named
        refine ⟨.timestampExpired, ?_⟩
        rw [if_neg (fun other => epochs.mp other epoch), if_neg (not_not_intro action),
          if_neg (not_not_intro nonce), recent, if_neg Bool.false_ne_true, if_pos outdated]

theorem checkToken_mint {key : Bytes} (unconsumed : challenge.nonce ∉ estop.consumedNonces)
    (current : challenge.epoch = estop.epoch)
    (recent : challenge.outdated now challenge.timestampNs = false)
    (read : readToken challenge token = .ok (mint digests key challenge)) :
    estop.checkToken digests (some key) challenge token now = .granted := by
  have lower : (hexText challenge.nonce).map Char.toLower = hexText challenge.nonce := by
    refine (List.map_congr_left ?_).trans (List.map_id _)
    intro c member
    obtain ⟨value, rfl⟩ := digitChar_of_mem_hexText member
    have every : ∀ value : Fin 16, (Nat.digitChar value.val).toLower = Nat.digitChar value.val := by
      decide
    exact every value
  have code := digests.hmacLength key challenge.serializeForSignature
  have nonempty : digests.hmacSha256 key challenge.serializeForSignature ≠ [] := by
    intro empty
    rw [empty] at code
    cases code
  have shaped : looksWellFormedSignature (mint digests key challenge).signature = true := by
    change (decide ((pyStrip (hexText _)).length = sigHexLen) && isHex (pyStrip (hexText _))) = true
    rw [pyStrip_hexText, hexText_length, code, isHex_hexText nonempty]
    rfl
  have presented : presentedSignature (mint digests key challenge) =
      some (digests.hmacSha256 key challenge.serializeForSignature) := by
    unfold presentedSignature
    change bytesFromHex (pyStrip (hexText _)) = _
    rw [pyStrip_hexText, bytesFromHex_hexText]
  have epochs : ¬ (((mint digests key challenge).epoch ≠ challenge.epoch) ∨
      (mint digests key challenge).epoch ≠ estop.epoch) := by
    rw [← current, or_self]
    exact not_not_intro rfl
  have action : ¬ (mint digests key challenge).action ≠ estopResetAction := not_not_intro rfl
  have nonce : ¬ (mint digests key challenge).nonce.map Char.toLower ≠ hexText challenge.nonce :=
    not_not_intro lower
  have stamped : challenge.outdated now (mint digests key challenge).timestampNs = false := recent
  unfold checkToken
  rw [read]
  dsimp only
  unfold checkFields
  rw [if_neg unconsumed, if_neg epochs, if_neg action, if_neg nonce, recent,
    if_neg Bool.false_ne_true, stamped, if_neg Bool.false_ne_true]
  unfold checkSignature
  rw [if_neg (fun limited => limited.2 shaped)]
  dsimp only
  rw [presented]
  exact if_pos rfl

structure Live (estop : EStop) (challenge : EStopChallenge) : Prop where
  engaged : estop.engaged = true
  active : estop.challenge = some challenge
  current : challenge.epoch = estop.epoch
  unconsumed : challenge.nonce ∉ estop.consumedNonces

structure Lost (estop : EStop) : Prop where
  engaged : estop.engaged = true
  gone : estop.challenge = none

theorem Lost.reset (lost : estop.Lost) (digests : Digests) (secret : Option Bytes)
    (token : AuthorizationToken) (now later : Nat) :
    estop.reset digests secret token now later =
      (estop.resetFailure later, .refused .noActiveChallenge) := by
  unfold EStop.reset
  rw [if_neg (not_not_intro lost.engaged), lost.gone]

theorem Lost.resetFailure (lost : estop.Lost) (later : Nat) : (estop.resetFailure later).Lost :=
  ⟨lost.engaged, lost.gone⟩

theorem Live.resetFailure (live : estop.Live challenge) (later : Nat) :
    (estop.resetFailure later).Live challenge :=
  ⟨live.engaged, live.active, live.current, live.unconsumed⟩

theorem Live.reset (live : estop.Live challenge) (digests : Digests) (secret : Option Bytes)
    (token : AuthorizationToken) {now : Nat} (later : Nat)
    (recent : challenge.outdated now challenge.timestampNs = false)
    (failed : (estop.reset digests secret token now later).1.engaged = true) :
    (Discards challenge token now ∧ (estop.reset digests secret token now later).1.Lost) ∨
      (¬ Discards challenge token now ∧
        (estop.reset digests secret token now later).1.Live challenge) := by
  have answered : (∃ denial, estop.checkToken digests secret challenge token now =
      .expired denial) ↔ Discards challenge token now :=
    checkToken_expired_iff live.unconsumed live.current recent
  obtain ⟨denied, expired, granted⟩ := resetVerify_active live.engaged live.active later
  unfold EStop.reset at failed ⊢
  rw [if_neg (not_not_intro live.engaged), live.active] at failed ⊢
  dsimp only at failed ⊢
  cases answer : estop.checkToken digests secret challenge token now with
  | granted =>
      rw [answer] at failed
      dsimp only at failed
      rw [granted] at failed
      cases failed
  | denied denial =>
      rw [answer] at answered
      dsimp only
      rw [denied]
      exact Or.inr ⟨(fun discards => nomatch (answered.mpr discards)), live.resetFailure later⟩
  | expired denial =>
      rw [answer] at answered
      dsimp only
      rw [expired]
      exact Or.inl ⟨answered.mp ⟨denial, rfl⟩, live.engaged, rfl⟩
  | noSecret =>
      rw [answer] at answered
      exact Or.inr ⟨(fun discards => nomatch (answered.mpr discards)), live⟩

theorem Live.reset_mint {key : Bytes} (live : estop.Live challenge) (later : Nat)
    (recent : challenge.outdated now challenge.timestampNs = false)
    (read : readToken challenge token = .ok (mint digests key challenge)) :
    (estop.reset digests (some key) token now later).2 = .disengaged := by
  have granted := checkToken_mint live.unconsumed live.current recent read
  unfold EStop.reset
  rw [if_neg (not_not_intro live.engaged), live.active]
  dsimp only
  rw [granted]

end Outcomes

end EStop

end Ucanlab.Safety
