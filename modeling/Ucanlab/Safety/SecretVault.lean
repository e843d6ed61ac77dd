import Ucanlab.Core.CanFrame
import Ucanlab.Lib.Base64
import Ucanlab.Lib.JsonRoundTrip

/-!
The encrypted file of the Linux secret vault: the header, salt and nonce in front of the sealed
JSON text of all secrets. Every operation reads the whole file and writes it anew; reading and
writing may fail on their own. The text is read without floats, which the vault never writes.
-/

namespace Ucanlab.Safety.SecretVault

open CodePoint (ofChar text)
open JsonText

def maxSecretBytes : Nat := 4096

def maxSecretCount : Nat := 256

def maxSecretFileBytes : Nat := 1024 * 1024

/-- `UCANSEC1`. -/
def magicHeader : Bytes := [0x55, 0x43, 0x41, 0x4E, 0x53, 0x45, 0x43, 0x31]

def saltBytes : Nat := 16

def nonceBytes : Nat := 12

def tagBytes : Nat := 16

inductive VaultError where
  | security (message : Text) (code : String)
  | keyError (message : Text)
  deriving DecidableEq, Repr

/-- What can be wrong with a text that was sealed. -/
inductive ReadFault where
  | unicodeDecode
  | json
  | attribute
  | unicodeEncode
  | base64
  deriving DecidableEq, Repr

structure Machine (Key : Type) where
  deriveEncryptionKey : Bytes → Key
  encrypt : Key → Bytes → Bytes → Bytes → Bytes
  decrypt : Key → Bytes → Bytes → Bytes → Option Bytes
  describe : ReadFault → Text

structure Machine.Ideal {Key : Type} (machine : Machine Key) : Prop where
  opens : ∀ key nonce sealed bound,
    machine.decrypt key nonce (machine.encrypt key nonce sealed bound) bound = some sealed
  tagged : ∀ key nonce sealed bound,
    (machine.encrypt key nonce sealed bound).length = sealed.length + tagBytes

/-- How the reading of an existing file goes. -/
inductive Reading where
  | fine
  | statFailed (reason : Text)
  | readFailed (reason : Text)
  deriving DecidableEq, Repr

/-- How the writing of the new file goes; the last two happen behind its replacement. -/
inductive Writing where
  | fine
  | notCreated (reason : Text)
  | failed (reason : Text)
  | tooOpen (mode : Nat)
  | unverified (reason : Text)
  deriving DecidableEq, Repr

/-- What one operation meets: the random bytes it draws and the fate of its file accesses. -/
structure Attempt where
  salt : Bytes
  nonce : Bytes
  reading : Reading
  writing : Writing
  saltLength : salt.length = saltBytes
  nonceLength : nonce.length = nonceBytes

abbrev Secrets := Dict Text Bytes

def wording (message : String) : Text := text message.toList

def securityError : String := "SECURITY_ERROR"

section Codec

/-- `json.dumps` as it is without arguments. -/
def dumpsStyle : Style where
  escape := escapeAscii
  commaGap := [ofChar ' ']
  colonGap := [ofChar ' ']
  commaBlank := List.forall_mem_singleton.mpr (by decide)
  colonBlank := List.forall_mem_singleton.mpr (by decide)

def decodeAscii (bytes : Bytes) : Text := bytes.map (fun byte => Fin.ofNat 0x110000 byte.toNat)

def encodeAscii (chars : Text) : Except ReadFault Bytes :=
  if chars.all (fun point => point.val < 0x80) then
    .ok (chars.map (fun point => UInt8.ofNat point.val))
  else .error .unicodeEncode

def versionKey : Text := text ['v', 'e', 'r', 's', 'i', 'o', 'n']

def secretsKey : Text := text ['s', 'e', 'c', 'r', 'e', 't', 's']

def serializedSecret (entry : Text × Bytes) : Text × Value :=
  (entry.1, .str (decodeAscii (Base64.encode entry.2)))

def payloadValue (secrets : Secrets) : Value :=
  .dict [(versionKey, .int 1), (secretsKey, .dict (secrets.map serializedSecret))]

def readSecret (entry : Text × Value) : Except ReadFault (Text × Bytes) :=
  match entry.2 with
  | .str chars => do
      let ascii ← encodeAscii chars
      match Base64.decode ascii with
      | some secret => return (entry.1, secret)
      | none => .error .base64
  | _ => .error .attribute

def readSecrets (payload : Value) : Except ReadFault Secrets :=
  match payload with
  | .dict top =>
      match Dict.get? top secretsKey with
      | none => .ok []
      | some (.dict raw) => raw.mapM readSecret
      | some _ => .error .attribute
  | _ => .error .attribute

def readPayload (decrypted : Bytes) : Except ReadFault Secrets :=
  match CodePoint.decodeUtf8 decrypted with
  | none => .error .unicodeDecode
  | some chars =>
      match read chars with
      | none => .error .json
      | some payload => readSecrets payload

end Codec

section Operations

variable {Key : Type} (machine : Machine Key)

def tooLarge (size : Nat) : VaultError :=
  .security (wording s!"Secret store file exceeds {maxSecretFileBytes} byte limit (" ++ digits size ++
    wording " bytes)") "SECRET_STORE_TOO_LARGE"

def unreadable (reason : Text) : VaultError :=
  .security (wording "Failed to read secret store: " ++ reason) securityError

/-- The body of an existing file that could be read. -/
def loadRaw (rawData : Bytes) : Except VaultError Secrets :=
  if rawData = [] then .ok []
  else if rawData.length < magicHeader.length + saltBytes + nonceBytes + tagBytes then
    .error (.security (wording "Secret store file is corrupted or too short") securityError)
  else if rawData.take magicHeader.length ≠ magicHeader then
    .error (.security (wording "Invalid secret store magic header") securityError)
  else
    let salt := (rawData.drop magicHeader.length).take saltBytes
    let nonce := (rawData.drop (magicHeader.length + saltBytes)).take nonceBytes
    let ciphertext := rawData.drop (magicHeader.length + saltBytes + nonceBytes)
    match machine.decrypt (machine.deriveEncryptionKey salt) nonce ciphertext (magicHeader ++ salt) with
    | none =>
        .error (.security
          (wording "Decryption failed: corrupted keyfile or invalid authentication tag") securityError)
    | some decrypted =>
        match readPayload decrypted with
        | .ok secrets => .ok secrets
        | .error fault => .error (unreadable (machine.describe fault))

def loadAllSecrets (reading : Reading) : Option Bytes → Except VaultError Secrets
  | none => .ok []
  | some rawData =>
      match reading with
      | .statFailed reason =>
          .error (.security (wording "Secret store stat failed: " ++ reason) securityError)
      | .fine =>
          if maxSecretFileBytes < rawData.length then .error (tooLarge rawData.length)
          else loadRaw machine rawData
      | .readFailed reason =>
          if maxSecretFileBytes < rawData.length then .error (tooLarge rawData.length)
          else .error (unreadable reason)

def sealedFile (attempt : Attempt) (payload : Bytes) : Bytes :=
  magicHeader ++ attempt.salt ++ attempt.nonce ++
    machine.encrypt (machine.deriveEncryptionKey attempt.salt) attempt.nonce payload
      (magicHeader ++ attempt.salt)

def permissionsUnenforceable (message : Text) : VaultError :=
  .security message "SECRET_PERMISSIONS_UNENFORCEABLE"

/-- `03o`. -/
def octal (mode : Nat) : Text := text (List.leftpad 3 '0' (Nat.toDigits 8 mode))

/-- What the operation reports and the file it leaves. -/
def saveAllSecrets (attempt : Attempt) (file : Option Bytes) (secrets : Secrets) :
    Except VaultError Unit × Option Bytes :=
  match CodePoint.encodeUtf8 (dumpsStyle.write (payloadValue secrets)) with
  | none => (.error (.security (wording "Failed to save secret store: " ++
      machine.describe .unicodeEncode) securityError), file)
  | some payload =>
      let replaced := some (sealedFile machine attempt payload)
      match attempt.writing with
      | .fine => (.ok (), replaced)
      | .notCreated reason =>
          (.error (permissionsUnenforceable
            (wording "Could not create secret store with 0600 permissions: " ++ reason)), file)
      | .failed reason =>
          (.error (.security (wording "Failed to save secret store: " ++ reason) securityError), file)
      | .tooOpen mode =>
          (.error (permissionsUnenforceable (wording "Secret store permissions too open (0o" ++
            octal mode ++ wording "), refusing world/group-readable secret file")), replaced)
      | .unverified reason =>
          (.error (permissionsUnenforceable
            (wording "Could not verify secret store permissions: " ++ reason)), replaced)

def checkSecretBounds (name : Text) (secret : Bytes) (count : Nat) : Except VaultError Unit :=
  if maxSecretBytes < secret.length then
    .error (.security (wording "Secret '" ++ name ++ wording s!"' exceeds {maxSecretBytes} byte limit (" ++
      digits secret.length ++ wording " bytes)") "SECRET_TOO_LARGE")
  else if maxSecretCount < count then
    .error (.security (wording s!"Secret store exceeds {maxSecretCount} entries") "SECRET_STORE_FULL")
  else .ok ()

def notFound (name : Text) : VaultError :=
  .keyError (wording "Secret '" ++ name ++ wording "' not found in LinuxSecretBackend")

def getSecret (reading : Reading) (file : Option Bytes) (name : Text) : Except VaultError Bytes :=
  match loadAllSecrets machine reading file with
  | .error raised => .error raised
  | .ok secrets =>
      match secrets.get? name with
      | some secret => .ok secret
      | none => .error (notFound name)

def storeSecret (attempt : Attempt) (file : Option Bytes) (name : Text) (secret : Bytes) :
    Except VaultError Unit × Option Bytes :=
  match loadAllSecrets machine attempt.reading file with
  | .error raised => (.error raised, file)
  | .ok secrets =>
      match checkSecretBounds name secret (secrets.length + if secrets.contains name then 0 else 1) with
      | .error raised => (.error raised, file)
      | .ok () => saveAllSecrets machine attempt file (secrets.set name secret)

def deleteSecret (attempt : Attempt) (file : Option Bytes) (name : Text) :
    Except VaultError Unit × Option Bytes :=
  match loadAllSecrets machine attempt.reading file with
  | .error raised => (.error raised, file)
  | .ok secrets =>
      if secrets.contains name then saveAllSecrets machine attempt file (secrets.erase name)
      else (.error (notFound name), file)

end Operations

section PayloadRoundTrip

theorem escapeAscii_letter :
    ∀ value < 64, escapeAscii (Fin.ofNat 0x110000 (Base64.letter value).toNat) =
        [Fin.ofNat 0x110000 (Base64.letter value).toNat] ∧
      (Base64.letter value).toNat < 0x80 := by decide

theorem escapeAscii_base64 {secret : Bytes} {char : UInt8} (member : char ∈ Base64.encode secret) :
    escapeAscii (Fin.ofNat 0x110000 char.toNat) = [Fin.ofNat 0x110000 char.toNat] ∧
      char.toNat < 0x80 := by
  rcases Base64.mem_encode member with rfl | ⟨value, small, rfl⟩
  · decide
  · exact escapeAscii_letter value small

theorem val_decodeAscii (char : UInt8) : (Fin.ofNat 0x110000 char.toNat).val = char.toNat :=
  Nat.mod_eq_of_lt (Nat.lt_trans char.toNat_lt (by decide))

theorem ascii_decodeAscii (secret : Bytes) :
    ∀ point ∈ decodeAscii (Base64.encode secret), point.val < 0x80 := by
  intro point member
  obtain ⟨char, isIn, rfl⟩ := List.mem_map.mp member
  rw [val_decodeAscii]
  exact (escapeAscii_base64 isIn).2

theorem encodeAscii_decodeAscii (secret : Bytes) :
    encodeAscii (decodeAscii (Base64.encode secret)) = .ok (Base64.encode secret) := by
  have ascii : (decodeAscii (Base64.encode secret)).all (fun point => point.val < 0x80) = true :=
    List.all_eq_true.mpr
      (fun point member => decide_eq_true (ascii_decodeAscii secret point member))
  rw [encodeAscii, if_pos ascii, decodeAscii, List.map_map]
  refine congrArg Except.ok ((List.map_congr_left ?_).trans (List.map_id _))
  intro char _
  change UInt8.ofNat (Fin.ofNat 0x110000 char.toNat).val = char
  rw [val_decodeAscii, UInt8.ofNat_toNat]

theorem readSecret_serialized (entry : Text × Bytes) :
    readSecret (serializedSecret entry) = .ok entry := by
  obtain ⟨name, secret⟩ := entry
  simp only [readSecret, serializedSecret, encodeAscii_decodeAscii]
  change (match Base64.decode (Base64.encode secret) with
    | some secret => Except.ok (name, secret)
    | none => Except.error ReadFault.base64) = _
  rw [Base64.decode_encode]

theorem readSecrets_payload (secrets : Secrets) : readSecrets (payloadValue secrets) = .ok secrets := by
  have each : (secrets.map serializedSecret).mapM readSecret = .ok secrets := by
    induction secrets with
    | nil => rfl
    | cons entry rest ih =>
        rw [List.map_cons, List.mapM_cons, readSecret_serialized, ih]
        rfl
  have other : versionKey ≠ secretsKey := by decide
  simp only [readSecrets, payloadValue, Dict.get?, if_neg other, if_true, each]

def NamesUnpaired (secrets : Secrets) : Prop := ∀ entry ∈ secrets, Unpaired entry.1

theorem legibly_payload {secrets : Secrets} (distinct : secrets.keys.Nodup)
    (unpaired : NamesUnpaired secrets) : dumpsStyle.Legibly (payloadValue secrets) := by
  have ascii {chars : Text} (small : ∀ point ∈ chars, point.val < 0x80) : dumpsStyle.Legible chars :=
    legible_ascii rfl (unpaired_of_ascii small)
  have inner : dumpsStyle.Legibly (.dict (secrets.map serializedSecret)) := by
    refine Value.all_dict.mpr ⟨?_, ?_⟩
    · rw [List.map_map]
      exact distinct
    · intro entry member
      obtain ⟨origin, isIn, rfl⟩ := List.mem_map.mp member
      exact ⟨legible_ascii rfl (unpaired origin isIn), ascii (ascii_decodeAscii origin.2)⟩
  have keys : [versionKey, secretsKey].Nodup := by decide
  refine Value.all_dict.mpr ⟨keys, ?_⟩
  intro entry member
  rcases List.mem_cons.mp member with rfl | later
  · exact ⟨ascii (ascii_text (List.all_iff_forall_prop.mp rfl)), trivial⟩
  · rw [List.mem_singleton.mp later]
    exact ⟨ascii (ascii_text (List.all_iff_forall_prop.mp rfl)), inner⟩

theorem ascii_payload (secrets : Secrets) :
    ∀ point ∈ dumpsStyle.write (payloadValue secrets), point.val < 0x80 := by
  have strings (chars : Text) : ∀ point ∈ chars.flatMap dumpsStyle.escape, point.val < 0x80 := by
    intro point member
    obtain ⟨origin, _, within⟩ := List.mem_flatMap.mp member
    exact ascii_escapeAscii origin point within
  refine write_allowed (fun _ small => small) _ (Value.all_dict.mpr ⟨trivial, ?_⟩)
  intro entry member
  rcases List.mem_cons.mp member with rfl | later
  · exact ⟨strings _, trivial⟩
  · rw [List.mem_singleton.mp later]
    refine ⟨strings _, Value.all_dict.mpr ⟨trivial, ?_⟩⟩
    intro inner isIn
    obtain ⟨origin, _, rfl⟩ := List.mem_map.mp isIn
    exact ⟨strings _, strings _⟩

def payloadBytes (secrets : Secrets) : Bytes :=
  (dumpsStyle.write (payloadValue secrets)).map (fun point => UInt8.ofNat point.val)

theorem encodeUtf8_payload (secrets : Secrets) :
    CodePoint.encodeUtf8 (dumpsStyle.write (payloadValue secrets)) = some (payloadBytes secrets) :=
  CodePoint.encodeUtf8_ascii (ascii_payload secrets)

theorem readPayload_bytes {secrets : Secrets} (distinct : secrets.keys.Nodup)
    (unpaired : NamesUnpaired secrets) : readPayload (payloadBytes secrets) = .ok secrets := by
  have decoded := CodePoint.decodeUtf8_encodeUtf8 (encodeUtf8_payload secrets)
  simp only [readPayload, decoded, read_write (legibly_payload distinct unpaired),
    readSecrets_payload]

end PayloadRoundTrip

section Sizes

def escapedLength (point : CodePoint) : Nat :=
  if (shortEscape point).isSome then 2
  else if 0x20 ≤ point.val ∧ point.val ≤ 0x7E then 1
  else if point.val ≤ 0xFFFF then 6
  else 12

def entrySize (entry : Text × Bytes) : Nat :=
  (entry.1.map escapedLength).sum + 4 * ((entry.2.length + 2) / 3) + 6

def vaultSize (secrets : Secrets) : Nat :=
  81 + (secrets.map entrySize).sum + 2 * (secrets.length - 1)

theorem length_escapeAscii (point : CodePoint) : (escapeAscii point).length = escapedLength point := by
  cases short : shortEscape point with
  | some mark => simp only [escapeAscii, escapedLength, short, Option.isSome_some, if_true,
      List.length_cons, List.length_nil]
  | none =>
      simp only [escapeAscii, escapedLength, short, Option.isSome_none, Bool.false_eq_true, if_false]
      split
      · rfl
      · by_cases small : point.val ≤ 0xFFFF
        · rw [CodePoint.utf16_small small, if_pos small]
          rfl
        · rw [CodePoint.utf16_large small, if_neg small]
          rfl

theorem length_serialized (entry : Text × Bytes) :
    (dumpsStyle.writeEntry (serializedSecret entry)).length = entrySize entry := by
  obtain ⟨name, secret⟩ := entry
  have names : (name.flatMap dumpsStyle.escape).length = (name.map escapedLength).sum := by
    rw [List.length_flatMap]
    exact congrArg List.sum (List.map_congr_left (fun point _ => length_escapeAscii point))
  have bare : (decodeAscii (Base64.encode secret)).flatMap dumpsStyle.escape =
      decodeAscii (Base64.encode secret) := by
    unfold decodeAscii
    rw [List.flatMap_map, List.map_eq_flatMap]
    exact List.flatMap_congr (fun char member => (escapeAscii_base64 member).1)
  rw [length_writeEntry]
  unfold serializedSecret entrySize
  rw [names, Style.write, Style.quoted, bare]
  simp only [decodeAscii, List.length_cons, List.length_append, List.length_map,
    Base64.length_encode, dumpsStyle, List.length_nil]
  omega

theorem length_payload (secrets : Secrets) :
    (payloadBytes secrets).length + 52 = vaultSize secrets := by
  have sizes : ((secrets.map serializedSecret).map dumpsStyle.writeEntry).map List.length =
      secrets.map entrySize := by
    rw [List.map_map, List.map_map]
    exact List.map_congr_left (fun entry _ => length_serialized entry)
  have inner : (dumpsStyle.write (.dict (secrets.map serializedSecret))).length =
      (secrets.map entrySize).sum + 2 * (secrets.length - 1) + 2 := by
    rw [Style.write_dict, List.length_cons, List.length_append, length_joined, sizes,
      List.length_map, List.length_map]
    rfl
  have keys : (versionKey.flatMap dumpsStyle.escape).length = 7 ∧
      (secretsKey.flatMap dumpsStyle.escape).length = 7 := by decide
  have number : (dumpsStyle.write (.int 1)).length = 1 := by
    rw [Style.write]
    decide
  have outer : (payloadBytes secrets).length =
      (dumpsStyle.writeEntry (versionKey, .int 1)).length +
        (dumpsStyle.writeEntry (secretsKey, .dict (secrets.map serializedSecret))).length + 4 := by
    unfold payloadBytes payloadValue
    rw [List.length_map, Style.write_dict, List.length_cons, List.length_append, length_joined]
    rfl
  rw [outer, length_writeEntry, length_writeEntry, keys.1, keys.2, number, inner]
  unfold vaultSize
  change 7 + 1 + 3 + 1 + (7 + 1 + 3 + _) + 4 + 52 = _
  omega

end Sizes

section FileRoundTrip

variable {Key : Type} {machine : Machine Key}

theorem length_sealedFile (ideal : machine.Ideal) (attempt : Attempt) (secrets : Secrets) :
    (sealedFile machine attempt (payloadBytes secrets)).length = vaultSize secrets := by
  have payload := length_payload secrets
  unfold sealedFile
  rw [List.length_append, List.length_append, List.length_append, ideal.tagged,
    attempt.saltLength, attempt.nonceLength]
  change 8 + 16 + 12 + (_ + 16) = _
  omega

theorem load_sealedFile (ideal : machine.Ideal) (attempt : Attempt) {secrets : Secrets}
    (distinct : secrets.keys.Nodup) (unpaired : NamesUnpaired secrets)
    (fits : vaultSize secrets ≤ maxSecretFileBytes) :
    loadAllSecrets machine .fine (some (sealedFile machine attempt (payloadBytes secrets))) =
      .ok secrets := by
  have size := length_sealedFile ideal attempt secrets
  have large : 81 ≤ vaultSize secrets := by
    unfold vaultSize
    omega
  have least : magicHeader.length + saltBytes + nonceBytes + tagBytes = 52 := rfl
  have saltAt := attempt.saltLength
  have nonceAt := attempt.nonceLength
  have some : sealedFile machine attempt (payloadBytes secrets) ≠ [] := by
    intro empty
    rw [empty] at size
    exact absurd size (by rw [List.length_nil]; omega)
  have whole : sealedFile machine attempt (payloadBytes secrets) =
      magicHeader ++ (attempt.salt ++ (attempt.nonce ++
        machine.encrypt (machine.deriveEncryptionKey attempt.salt) attempt.nonce
          (payloadBytes secrets) (magicHeader ++ attempt.salt))) := by
    simp only [sealedFile, List.append_assoc]
  have header : (sealedFile machine attempt (payloadBytes secrets)).take magicHeader.length =
      magicHeader := by
    rw [whole, List.take_left]
  have behind : (sealedFile machine attempt (payloadBytes secrets)).drop magicHeader.length =
      attempt.salt ++ (attempt.nonce ++
        machine.encrypt (machine.deriveEncryptionKey attempt.salt) attempt.nonce
          (payloadBytes secrets) (magicHeader ++ attempt.salt)) := by
    rw [whole, List.drop_left]
  have behindSalt : (sealedFile machine attempt (payloadBytes secrets)).drop
      (magicHeader.length + saltBytes) = attempt.nonce ++
        machine.encrypt (machine.deriveEncryptionKey attempt.salt) attempt.nonce
          (payloadBytes secrets) (magicHeader ++ attempt.salt) := by
    rw [← List.drop_drop, behind, ← saltAt, List.drop_left]
  have behindNonce : (sealedFile machine attempt (payloadBytes secrets)).drop
      (magicHeader.length + saltBytes + nonceBytes) =
        machine.encrypt (machine.deriveEncryptionKey attempt.salt) attempt.nonce
          (payloadBytes secrets) (magicHeader ++ attempt.salt) := by
    rw [← List.drop_drop, behindSalt, ← nonceAt, List.drop_left]
  have salt : (attempt.salt ++ (attempt.nonce ++
      machine.encrypt (machine.deriveEncryptionKey attempt.salt) attempt.nonce
        (payloadBytes secrets) (magicHeader ++ attempt.salt))).take saltBytes = attempt.salt := by
    rw [← saltAt, List.take_left]
  have nonce : (attempt.nonce ++
      machine.encrypt (machine.deriveEncryptionKey attempt.salt) attempt.nonce
        (payloadBytes secrets) (magicHeader ++ attempt.salt)).take nonceBytes = attempt.nonce := by
    rw [← nonceAt, List.take_left]
  simp only [loadAllSecrets, size, if_neg (Nat.not_lt.mpr fits), loadRaw, if_neg some, least,
    if_neg (by omega : ¬ vaultSize secrets < 52), header, ne_eq, not_true_eq_false, if_false,
    behind, behindSalt, behindNonce, salt, nonce, ideal.opens, readPayload_bytes distinct unpaired]

theorem load_tooLarge {rawData : Bytes} (large : maxSecretFileBytes < rawData.length) :
    loadAllSecrets machine .fine (some rawData) = .error (tooLarge rawData.length) := by
  simp only [loadAllSecrets, if_pos large]

end FileRoundTrip

end Ucanlab.Safety.SecretVault
