import Ucanlab.Safety.ArmToken
import Ucanlab.Safety.Confirmation

/-!
Tokens as they are minted against tokens as they are checked: for which frames, actions and times
a minted token is good.
-/

namespace Ucanlab.Safety

open Ucanlab

variable {digests : Digests} {key nonce : Bytes} {ttlNs now : Nat}

section Arming

theorem readArmToken_minted (fields : ArmTokenFields) (fits : fields.expiryNs < 2 ^ 64)
    (random : fields.nonce.length = 16) (sealing : fields.mac.length = 32) :
    readArmToken (decimalText fields.expiryNs ++ '.' :: hexText fields.nonce ++
      '.' :: hexText fields.mac) = some fields := by
  have digit {c : Char} (member : c ∈ decimalText fields.expiryNs) :
      c ≠ '.' ∧ isPySpace c = false := by
    have ascii := decimalText_ascii member
    refine ⟨fun dot => absurd (dot ▸ ascii.1) (by decide), ?_⟩
    unfold isPySpace
    simp only [Bool.or_eq_false_iff, Bool.and_eq_false_iff, decide_eq_false_iff_not,
      beq_eq_false_iff_ne]
    omega
  have noDot : ∀ value : Fin 16, Nat.digitChar value.val ≠ '.' := by decide
  have hex {bytes : Bytes} {c : Char} (member : c ∈ hexText bytes) :
      c ≠ '.' ∧ isPySpace c = false := by
    obtain ⟨value, rfl⟩ := digitChar_of_mem_hexText member
    exact ⟨noDot value, (digitChar_hex value).2.1⟩
  have joined : decimalText fields.expiryNs ++ '.' :: hexText fields.nonce ++
      '.' :: hexText fields.mac = ['.'].intercalate
        [decimalText fields.expiryNs, hexText fields.nonce, hexText fields.mac] := by
    simp [List.intercalate]
  have split : (['.'].intercalate [decimalText fields.expiryNs, hexText fields.nonce,
      hexText fields.mac]).splitOn '.' = [decimalText fields.expiryNs, hexText fields.nonce,
        hexText fields.mac] := by
    apply List.splitOn_intercalate
    · simp only [List.forall_mem_cons, List.not_mem_nil, false_imp_iff, implies_true, and_true]
      exact ⟨fun dot => (digit dot).1 rfl, fun dot => (hex dot).1 rfl, fun dot => (hex dot).1 rfl⟩
    · exact List.cons_ne_nil _ _
  have stripped : pyStrip (decimalText fields.expiryNs ++ '.' :: hexText fields.nonce ++
      '.' :: hexText fields.mac) = decimalText fields.expiryNs ++ '.' :: hexText fields.nonce ++
        '.' :: hexText fields.mac := by
    apply strip_of_all
    intro c member
    simp only [List.mem_append, List.mem_cons] at member
    rcases member with (number | rfl | inNonce) | rfl | inMac
    · exact (digit number).2
    · decide
    · exact (hex inNonce).2
    · decide
    · exact (hex inMac).2
  unfold readArmToken
  rw [stripped, joined, split]
  dsimp only
  rw [pyInt_decimalText, bytesFromHex_hexText, bytesFromHex_hexText]
  dsimp only
  rw [if_neg (not_not.mpr ⟨Int.natCast_nonneg _, by exact_mod_cast fits⟩),
    if_neg (not_or.mpr ⟨not_not.mpr random, not_not.mpr sealing⟩), Int.toNat_natCast]

def stillDigests : Digests where
  hmacSha256 := fun _ _ => List.replicate 32 0
  sha256 := fun _ => List.replicate 32 0
  hmacLength := blankHmac_length
  shaLength := blankSha_length

/-- A minted arm token is accepted up to its expiry and refused as expired afterwards. -/
theorem armToken_accepted {text : List Char} (random : nonce.length = 16)
    (minted : issueArmToken digests (some key) ttlNs now nonce = .ok (some text)) (later : Nat) :
    authenticateArmToken digests key text later =
      if now + max 1000000000 ttlNs < later then .error .expired
      else .ok (armPayload (now + max 1000000000 ttlNs) nonce) := by
  unfold issueArmToken at minted
  dsimp only at minted
  split at minted
  · rename_i fits
    cases minted
    unfold authenticateArmToken
    rw [readArmToken_minted ⟨_, nonce, _⟩ fits random (digests.hmacLength _ _)]
    exact if_neg (not_not.mpr rfl)
  · cases minted

theorem armToken_accepted_late : ∃ text,
    issueArmToken stillDigests (some []) 0 0 (List.replicate 16 0) = .ok (some text) ∧
      authenticateArmToken stillDigests [] text 2000000000 = .error .expired :=
  ⟨_, rfl, (@armToken_accepted stillDigests [] (List.replicate 16 0) 0 0 _ rfl rfl
    2000000000).trans (if_pos (by decide))⟩

end Arming

section Confirming

variable {arbitrationId : Nat} {payloadHash context : Option Bytes} {token payload : Bytes}

/-- What a minted confirmation binds: nothing but the identifier, or the payload of the frame and
the action. -/
def BoundTo (digests : Digests) (payloadHash context : Option Bytes) (data : Bytes)
    (expectedContext : Option Bytes) : Prop :=
  match payloadHash with
  | none => expectedContext = none
  | some hash =>
      hash.take 8 ++ List.replicate (8 - (hash.take 8).length) 0x00 =
          confirmationPayloadHash digests data ∧
        ∃ action, expectedContext = some action ∧
          confirmationContextHash digests context = confirmationContextHash digests (some action)

theorem confirmationContextHash_length (context : Option Bytes) :
    (confirmationContextHash digests context).length = 8 := by
  cases context with
  | none => rfl
  | some raw =>
      unfold confirmationContextHash
      rw [List.length_take, digests.shaLength]
      rfl

/-- The payload of a minted token: the identifier, the expiry and the nonce, then what it binds. -/
structure Minted (digests : Digests) (arbitrationId expiryNs : Nat)
    (payloadHash context : Option Bytes) (payload : Bytes) : Prop where
  length : payload.length = confirmBaseLen ∨ payload.length = confirmBindLen
  arbitrationId : payloadArbitrationId payload = arbitrationId
  expiry : payloadExpiry payload = expiryNs
  binding : ∀ data expectedContext, bindingFailure digests payload data expectedContext = none ↔
    BoundTo digests payloadHash context data expectedContext

theorem confirmationBase_read {expiryNs : Nat} {raw rest : Bytes} (random : nonce.length = 16)
    (wide : arbitrationId < 256 ^ 4) (fits : expiryNs < 256 ^ 8)
    (shape : raw = natToBytes 4 arbitrationId ++ natToBytes 8 expiryNs ++ nonce ++ rest) :
    raw.length = 28 + rest.length ∧ payloadArbitrationId raw = arbitrationId ∧
      payloadExpiry raw = expiryNs ∧ raw.drop 28 = rest := by
  have length : (natToBytes 4 arbitrationId ++ natToBytes 8 expiryNs ++ nonce).length = 28 := by
    rw [List.length_append, List.length_append, natToBytes_length, natToBytes_length, random]
  have identifier := natToBytes_length 4 arbitrationId
  rw [shape]
  refine ⟨by rw [List.length_append, length], ?_, ?_, List.drop_left' length⟩
  · unfold payloadArbitrationId
    rw [List.append_assoc, List.append_assoc, List.take_left' identifier,
      natFromBytes_natToBytes 4 wide]
  · unfold payloadExpiry
    rw [List.append_assoc, List.append_assoc, List.drop_left' identifier,
      List.take_left' (natToBytes_length 8 expiryNs), natFromBytes_natToBytes 8 fits]

theorem issueConfirmationToken_minted (random : nonce.length = 16)
    (wide : arbitrationId < 256 ^ 4) (fits : now + max 1000000000 ttlNs < 256 ^ 8)
    (minted : issueConfirmationToken digests (some key) arbitrationId ttlNs now nonce payloadHash
      context = .ok token) :
    ∃ payload, token = payload ++ digests.hmacSha256 key payload ∧
      Minted digests arbitrationId (now + max 1000000000 ttlNs) payloadHash context payload := by
  cases payloadHash with
  | none =>
      unfold issueConfirmationToken at minted
      dsimp only at minted
      split at minted
      · cases minted
      · cases minted
        obtain ⟨length, identifier, expiry, -⟩ :=
          confirmationBase_read random wide fits (List.append_nil _).symm
        refine ⟨_, rfl, Or.inl length, identifier, expiry, fun data expectedContext => ?_⟩
        unfold bindingFailure
        rw [if_neg (by rw [length]; decide)]
        cases expectedContext with
        | none => exact ⟨fun _ => rfl, fun _ => rfl⟩
        | some action => exact ⟨fun same => (by cases same), fun same => (by cases same)⟩
  | some hash =>
      cases minted
      have eight : (hash.take 8 ++ List.replicate (8 - (hash.take 8).length) 0x00).length = 8 := by
        rw [List.length_append, List.length_replicate, List.length_take]
        omega
      have sixteen : ((hash.take 8 ++ List.replicate (8 - (hash.take 8).length) 0x00) ++
          confirmationContextHash digests context).length = 16 := by
        rw [List.length_append, eight, confirmationContextHash_length]
      obtain ⟨length, identifier, expiry, bound⟩ := confirmationBase_read random wide fits
        (List.append_assoc _ (hash.take 8 ++ List.replicate (8 - (hash.take 8).length) 0x00)
          (confirmationContextHash digests context))
      rw [sixteen] at length
      change _ = confirmBindLen at length
      refine ⟨_, rfl, Or.inr length, identifier, expiry, fun data expectedContext => ?_⟩
      have action := congrArg (List.drop 8) bound
      rw [List.drop_drop, List.drop_left' eight] at action
      unfold bindingFailure BoundTo
      rw [if_pos length, bound, List.take_left' eight, action,
        List.take_of_length_le (Nat.le_of_eq (confirmationContextHash_length context))]
      split
      · rename_i other
        exact ⟨fun same => (by cases same), fun both => absurd both.1 other⟩
      · rename_i same
        cases expectedContext with
        | none =>
            refine ⟨fun impossible => (by cases impossible), ?_⟩
            rintro ⟨_, _, impossible, _⟩
            cases impossible
        | some wanted =>
            dsimp only
            split
            · rename_i other
              refine ⟨fun impossible => (by cases impossible), ?_⟩
              rintro ⟨_, _, named, alike⟩
              cases named
              exact absurd alike other
            · rename_i alike
              exact ⟨fun _ => ⟨not_not.mp same, wanted, rfl, not_not.mp alike⟩, fun _ => rfl⟩

/-- A minted confirmation token is good for exactly the frames with its identifier, payload and
action, up to its expiry, until it is spent. -/
theorem confirmationToken_verifies (random : nonce.length = 16) (wide : arbitrationId < 256 ^ 4)
    (fits : now + max 1000000000 ttlNs < 256 ^ 8)
    (minted : issueConfirmationToken digests (some key) arbitrationId ttlNs now nonce payloadHash
      context = .ok token)
    {given : TokenInput} (readable : tokenBytes given = .ok token) (consumed : ReplayStore Bytes)
    (frame : CanFrame) (expectedContext : Option Bytes) (later : Nat) :
    verifyConfirmationToken digests (some key) consumed given frame expectedContext later =
        .ok (token.take (token.length - 32), now + max 1000000000 ttlNs) ↔
      frame.arbitrationId = arbitrationId ∧
        BoundTo digests payloadHash context frame.data expectedContext ∧
        later ≤ now + max 1000000000 ttlNs ∧ token.take (token.length - 32) ∉ consumed := by
  obtain ⟨payload, rfl, shape⟩ := issueConfirmationToken_minted random wide fits minted
  have size : (payload ++ digests.hmacSha256 key payload).length - 32 = payload.length := by
    rw [List.length_append, digests.hmacLength, Nat.add_sub_cancel]
  have parsed : parseConfirmationToken digests (some key) given = .ok payload := by
    unfold parseConfirmationToken
    rw [readable]
    dsimp only
    rw [size, List.take_left, List.drop_left, if_neg, if_pos rfl]
    rw [List.length_append, digests.hmacLength]
    exact not_not.mpr (shape.length.imp (congrArg (· + 32)) (congrArg (· + 32)))
  rw [size, List.take_left, verifyConfirmationToken_ok_iff]
  constructor
  · rintro ⟨_, sameId, bound, unexpired, unused, _⟩
    rw [shape.expiry] at unexpired
    exact ⟨sameId.symm.trans shape.arbitrationId, (shape.binding _ _).mp bound, unexpired, unused⟩
  · rintro ⟨sameId, bound, unexpired, unused⟩
    exact ⟨parsed, shape.arbitrationId.trans sameId.symm, (shape.binding _ _).mpr bound,
      shape.expiry.symm ▸ unexpired, unused, shape.expiry.symm⟩

def plainRequest : CanFrame where
  channelId := "can0"
  arbitrationId := 0x1A5
  dlc := 1
  data := [0x3E]
  valid := by decide

theorem confirmationToken_verifies_plain : ∃ token,
    issueConfirmationToken stillDigests (some []) 0x1A5 0 0 (List.replicate 16 0) none none =
        .ok token ∧
      verifyConfirmationToken stillDigests (some []) .empty (.bytes token) plainRequest none 5 =
        .ok (token.take (token.length - 32), 1000000000) :=
  ⟨_, rfl, (@confirmationToken_verifies stillDigests [] (List.replicate 16 0) 0 0 0x1A5 none none _
    rfl (by decide) (by decide) rfl (.bytes _) rfl .empty plainRequest none 5).mpr
    ⟨rfl, rfl, by decide, List.not_mem_nil⟩⟩

end Confirming

end Ucanlab.Safety
