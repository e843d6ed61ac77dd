import Ucanlab.Core.PyNumber

/-!
The J1939-73 messages of a read session: freeze frames (DM4), the request for stored test results
(DM7) and the results (DM30), and the identification messages. The readings of a freeze frame are
the values before they are rounded for display.
-/

namespace Ucanlab.J1939

def na1Byte : Nat := 0xFB
def na2Byte : Nat := 0xFB00

/-- A required parameter: where it stands behind the trouble code, and its scale. -/
structure Dm4Field where
  position : Nat
  size : Nat
  name : String
  scale : Rat
  offset : Rat

def dm4Fields : List Dm4Field := [
  ⟨1, 1, "BoostPressure", 2, 0⟩,
  ⟨2, 2, "EngineSpeed", 1 / 8, 0⟩,
  ⟨4, 1, "EngineLoad", 1, 0⟩,
  ⟨5, 1, "CoolantTemp", 1, -40⟩,
  ⟨6, 2, "VehicleSpeed", 1 / 256, 0⟩]

def dm4RequiredLen : Nat := 12

def spnFmi (b0 b1 b2 : UInt8) : Nat × Nat :=
  (b0.toNat ||| (b1.toNat <<< 8) ||| ((b2.toNat &&& 0xE0) <<< 11), b2.toNat &&& 0x1F)

structure FreezeFrame where
  spn : Nat
  fmi : Nat
  occurrenceCount : Nat
  readings : List (String × Rat)
  manufacturerBytes : Nat
  deriving DecidableEq

def dtcText (spn fmi : Nat) : List Char :=
  "SPN ".toList ++ decimalText spn ++ " FMI ".toList ++ decimalText fmi

def Dm4Field.reading (field : Dm4Field) (params : Bytes) : Option (String × Rat) :=
  let raw := littleEndian ((params.drop field.position).take field.size)
  if raw ≥ (if field.size = 1 then na1Byte else na2Byte) then none
  else some (field.name, raw * field.scale + field.offset)

def decodeFreezeFrame (body : Bytes) : Option FreezeFrame :=
  if body.take 4 = [0, 0, 0, 0] ∨ body.take 4 = [0xFF, 0xFF, 0xFF, 0xFF] then none
  else if (body.getD 3 0).toNat >>> 7 ≠ 0 then none
  else
    let code := spnFmi (body.getD 0 0) (body.getD 1 0) (body.getD 2 0)
    some {
      spn := code.1
      fmi := code.2
      occurrenceCount := (body.getD 3 0).toNat &&& 0x7F
      readings := dm4Fields.filterMap (fun field => field.reading (body.drop 4))
      manufacturerBytes := body.length - dm4RequiredLen }

/-- Every round takes a length byte at least, so the fuel is never used up before the payload. -/
def decodeDm4From : Nat → Bytes → List FreezeFrame
  | _, [] => []
  | 0, _ => []
  | fuel + 1, first :: rest =>
      let length := first.toNat
      if length = 0xFF ∨ length < dm4RequiredLen ∨ length > rest.length then []
      else
        (decodeFreezeFrame (rest.take length)).toList ++ decodeDm4From fuel (rest.drop length)

def decodeDm4 (payload : Bytes) : List FreezeFrame := decodeDm4From payload.length payload

structure ScaledTestResult where
  spn : Nat
  fmi : Nat
  tid : Nat
  slot : Nat
  rawValue : Nat
  rawMax : Option Nat
  rawMin : Option Nat
  deriving DecidableEq

def ScaledTestResult.passed (result : ScaledTestResult) : Bool :=
  (match result.rawMin with
    | none => true
    | some low => decide (result.rawValue ≥ low)) &&
  (match result.rawMax with
    | none => true
    | some high => decide (result.rawValue ≤ high))

def limitOf (raw : Nat) : Option Nat := if raw ≥ na2Byte then none else some raw

def decodeDm30Record (record : Bytes) : Option ScaledTestResult :=
  let code := spnFmi (record.getD 1 0) (record.getD 2 0) (record.getD 3 0)
  let value := littleEndian ((record.drop 6).take 2)
  if value ≥ na2Byte ∨ code.1 = 0 then none
  else some {
    spn := code.1
    fmi := code.2
    tid := (record.getD 0 0).toNat
    slot := littleEndian ((record.drop 4).take 2)
    rawValue := value
    rawMax := limitOf (littleEndian ((record.drop 8).take 2))
    rawMin := limitOf (littleEndian ((record.drop 10).take 2)) }

def decodeDm30 (payload : Bytes) : List ScaledTestResult :=
  (List.range (payload.length / 12)).filterMap (fun index =>
    decodeDm30Record ((payload.drop (index * 12)).take 12))

section Identification

def isPadding (byte : UInt8) : Bool := decide (byte = 0x00 ∨ byte = 0xFF ∨ byte = 0x20)

def asciiField (raw : Bytes) : Option (List Char) :=
  let cleaned := ((raw.dropWhile isPadding).reverse.dropWhile isPadding).reverse
  if cleaned = [] ∨ cleaned.any (fun byte => decide (byte < 0x20 ∨ byte > 0x7E)) then none
  else some (cleaned.map (fun byte => Char.ofNat byte.toNat))

structure Calibration where
  calId : List Char
  cvn : List Char
  deriving DecidableEq

/-- `bytes.hex().upper()`. -/
def upperHexText (bytes : Bytes) : List Char := (hexText bytes).map Char.toUpper

end Identification

end Ucanlab.J1939

/-!
Active and previously active trouble codes (DM1, DM2): the lamps, the four-byte records behind
them, and what of a payload counts as a truncated record.
-/

namespace Ucanlab.J1939

def pgnDm1 : Nat := 65226

inductive LampStatus where
  | off
  | on
  | error
  | notAvailable
  deriving DecidableEq, Repr

def LampStatus.ofBits (bits : Nat) : LampStatus :=
  match bits % 4 with
  | 0 => .off
  | 1 => .on
  | 2 => .error
  | _ => .notAvailable

structure DiagnosticTroubleCode where
  spn : Nat
  fmi : Nat
  occurrenceCount : Nat
  conversionMethod : Nat := 0
  sourceAddress : Nat := 0
  conversionMethodSupported : Bool := true
  deriving DecidableEq, Repr

namespace DiagnosticTroubleCode

def isSupported (dtc : DiagnosticTroubleCode) : Bool := dtc.conversionMethodSupported

/-- The record of the first four bytes; fewer raise. -/
def fromBytes (dtcBytes : Bytes) (sourceAddress : Nat) : Option DiagnosticTroubleCode :=
  match dtcBytes with
  | b0 :: b1 :: b2 :: b3 :: _ =>
      let code := spnFmi b0 b1 b2
      let conversionMethod := (b3.toNat >>> 7) &&& 0x01
      some {
        spn := code.1
        fmi := code.2
        occurrenceCount := b3.toNat &&& 0x7F
        conversionMethod := conversionMethod
        sourceAddress := sourceAddress
        conversionMethodSupported := conversionMethod == 0 }
  | _ => none

end DiagnosticTroubleCode

structure DmMessage where
  pgn : Nat
  sourceAddress : Nat
  malfunctionIndicatorLamp : LampStatus
  redStopLamp : LampStatus
  amberWarningLamp : LampStatus
  protectLamp : LampStatus
  dtcs : List DiagnosticTroubleCode
  timestampNs : Int
  malformed : Bool := false
  deriving DecidableEq, Repr

def parseSlot (dtcPayload : Bytes) (sourceAddress index : Nat) : Option DiagnosticTroubleCode :=
  let chunk := (dtcPayload.drop (index * 4)).take 4
  if chunk = [0, 0, 0, 0] ∨ chunk = [0xFF, 0xFF, 0xFF, 0xFF] then none
  else (DiagnosticTroubleCode.fromBytes chunk sourceAddress).filter (fun dtc => dtc.spn != 0)

def parseDm1OrDm2 (data : Bytes) (pgn sourceAddress : Nat) (timestampNs : Int) : Option DmMessage :=
  match data with
  | b0 :: _ :: dtcPayload =>
      let lamps := b0.toNat
      let numDtcs := dtcPayload.length / 4
      let tail := dtcPayload.drop (numDtcs * 4)
      some {
        pgn := pgn
        sourceAddress := sourceAddress
        malfunctionIndicatorLamp := LampStatus.ofBits ((lamps >>> 6) &&& 0x03)
        redStopLamp := LampStatus.ofBits ((lamps >>> 4) &&& 0x03)
        amberWarningLamp := LampStatus.ofBits ((lamps >>> 2) &&& 0x03)
        protectLamp := LampStatus.ofBits (lamps &&& 0x03)
        dtcs := (List.range numDtcs).filterMap (parseSlot dtcPayload sourceAddress)
        timestampNs := timestampNs
        malformed := tail.any (· != 0xFF) }
  | _ => none

/-- The four bytes of a trouble code as the standard lays them out. -/
structure DtcRecord where
  b0 : UInt8
  b1 : UInt8
  b2 : UInt8
  b3 : UInt8
  deriving DecidableEq, Repr

namespace DtcRecord

def bytes (entry : DtcRecord) : Bytes := [entry.b0, entry.b1, entry.b2, entry.b3]

/-- The suspect parameter number: 19 bits, the upper three in the third byte. -/
def spn (entry : DtcRecord) : Nat :=
  entry.b0.toNat + 256 * entry.b1.toNat + 65536 * (entry.b2.toNat / 32)

def fmi (entry : DtcRecord) : Nat := entry.b2.toNat % 32

def conversionMethod (entry : DtcRecord) : Nat := entry.b3.toNat / 128

/-- An empty slot instead of a trouble code. -/
def isPlaceholder (entry : DtcRecord) : Bool :=
  entry.bytes == [0, 0, 0, 0] || entry.bytes == [0xFF, 0xFF, 0xFF, 0xFF] || entry.spn == 0

def decoded (sourceAddress : Nat) (entry : DtcRecord) : DiagnosticTroubleCode where
  spn := entry.spn
  fmi := entry.fmi
  occurrenceCount := entry.b3.toNat % 128
  conversionMethod := entry.conversionMethod
  sourceAddress := sourceAddress
  conversionMethodSupported := entry.conversionMethod == 0

end DtcRecord

def dtcRecords : Bytes → List DtcRecord
  | b0 :: b1 :: b2 :: b3 :: rest => ⟨b0, b1, b2, b3⟩ :: dtcRecords rest
  | _ => []

theorem dtcRecords_short {rest : Bytes}
    (short : ∀ b0 b1 b2 b3 more, rest = b0 :: b1 :: b2 :: b3 :: more → False) :
    rest.length / 4 = 0 ∧ dtcRecords rest = [] := by
  rcases rest with _ | ⟨b0, _ | ⟨b1, _ | ⟨b2, _ | ⟨b3, rest⟩⟩⟩⟩
  · exact ⟨Nat.div_eq_of_lt (by decide : 0 < 4), rfl⟩
  · exact ⟨Nat.div_eq_of_lt (by decide : 1 < 4), rfl⟩
  · exact ⟨Nat.div_eq_of_lt (by decide : 2 < 4), rfl⟩
  · exact ⟨Nat.div_eq_of_lt (by decide : 3 < 4), rfl⟩
  · exact absurd rfl (short b0 b1 b2 b3 rest)

theorem spnFmi_fields (entry : DtcRecord) :
    spnFmi entry.b0 entry.b1 entry.b2 = (entry.spn, entry.fmi) := by
  have upper : (entry.b2.toNat &&& 0xE0) = 32 * (entry.b2.toNat / 32) := by
    have bound := entry.b2.toNat_lt
    generalize entry.b2.toNat = byte at bound
    revert byte
    decide +kernel
  have first := entry.b0.toNat_lt
  have second := entry.b1.toNat_lt
  have third : entry.b2.toNat &&& 0x1F = entry.b2.toNat % 32 :=
    Nat.and_two_pow_sub_one_eq_mod entry.b2.toNat 5
  unfold spnFmi DtcRecord.spn DtcRecord.fmi
  rw [upper, third]
  have low : entry.b0.toNat ||| entry.b1.toNat <<< 8 = entry.b1.toNat * 2 ^ 8 + entry.b0.toNat := by
    rw [Nat.or_comm, ← Nat.shiftLeft_add_eq_or_of_lt first, Nat.shiftLeft_eq]
  have high : (32 * (entry.b2.toNat / 32)) <<< 11 = (entry.b2.toNat / 32) <<< 16 := by
    rw [Nat.shiftLeft_eq, Nat.shiftLeft_eq]
    omega
  have spn : entry.b0.toNat ||| entry.b1.toNat <<< 8 ||| (32 * (entry.b2.toNat / 32)) <<< 11 =
      entry.b0.toNat + 256 * entry.b1.toNat + 65536 * (entry.b2.toNat / 32) := by
    rw [low, high, Nat.or_comm,
      ← Nat.shiftLeft_add_eq_or_of_lt (by omega : entry.b1.toNat * 2 ^ 8 + entry.b0.toNat < 2 ^ 16),
      Nat.shiftLeft_eq]
    omega
  rw [spn]

theorem fromBytes_entry (entry : DtcRecord) (sourceAddress : Nat) :
    DiagnosticTroubleCode.fromBytes entry.bytes sourceAddress = some (entry.decoded sourceAddress) := by
  have bound := entry.b3.toNat_lt
  have count : entry.b3.toNat &&& 0x7F = entry.b3.toNat % 2 ^ 7 :=
    Nat.and_two_pow_sub_one_eq_mod entry.b3.toNat 7
  have method : (entry.b3.toNat >>> 7) &&& 0x01 = entry.b3.toNat / 128 := by
    rw [Nat.shiftRight_eq_div_pow]
    have one : entry.b3.toNat / 2 ^ 7 &&& 0x01 = entry.b3.toNat / 2 ^ 7 % 2 ^ 1 :=
      Nat.and_two_pow_sub_one_eq_mod _ 1
    rw [one]
    omega
  unfold DiagnosticTroubleCode.fromBytes DtcRecord.bytes
  dsimp only
  rw [spnFmi_fields, count, method]
  rfl

theorem parseSlot_entry (entry : DtcRecord) (rest : Bytes) (sourceAddress : Nat) :
    parseSlot (entry.bytes ++ rest) sourceAddress 0 =
      if entry.isPlaceholder then none else some (entry.decoded sourceAddress) := by
  have chunk : ((entry.bytes ++ rest).drop (0 * 4)).take 4 = entry.bytes := rfl
  unfold parseSlot DtcRecord.isPlaceholder
  dsimp only
  rw [chunk, fromBytes_entry]
  by_cases zeros : entry.bytes = [0, 0, 0, 0]
  · rw [if_pos (Or.inl zeros), zeros]
    rfl
  · by_cases ones : entry.bytes = [0xFF, 0xFF, 0xFF, 0xFF]
    · rw [if_pos (Or.inr ones), ones]
      rfl
    · rw [if_neg (by rintro (same | same); exacts [zeros same, ones same]), beq_false_of_ne zeros,
        beq_false_of_ne ones]
      change (if entry.spn != 0 then some (entry.decoded sourceAddress) else none) = _
      by_cases empty : entry.spn = 0
      · rw [empty]
        rfl
      · rw [bne_iff_ne.mpr empty, beq_false_of_ne empty]
        rfl

theorem parseSlots_eq (dtcPayload : Bytes) (sourceAddress : Nat) :
    (List.range (dtcPayload.length / 4)).filterMap (parseSlot dtcPayload sourceAddress) =
      ((dtcRecords dtcPayload).filter (fun entry => !entry.isPlaceholder)).map
        (DtcRecord.decoded sourceAddress) := by
  induction dtcPayload using dtcRecords.induct with
  | case1 b0 b1 b2 b3 rest ih =>
      have count : (b0 :: b1 :: b2 :: b3 :: rest).length / 4 = rest.length / 4 + 1 := by
        simp only [List.length_cons]
        omega
      have later : (fun index => parseSlot (b0 :: b1 :: b2 :: b3 :: rest) sourceAddress (index + 1)) =
          parseSlot rest sourceAddress := by
        funext index
        unfold parseSlot
        rw [Nat.add_mul]
        rfl
      have first : parseSlot (b0 :: b1 :: b2 :: b3 :: rest) sourceAddress 0 =
          if (⟨b0, b1, b2, b3⟩ : DtcRecord).isPlaceholder then none
          else some (DtcRecord.decoded sourceAddress ⟨b0, b1, b2, b3⟩) :=
        parseSlot_entry ⟨b0, b1, b2, b3⟩ rest sourceAddress
      change (fun index => parseSlot _ sourceAddress (Nat.succ index)) = _ at later
      rw [count, List.range_succ_eq_map, List.filterMap_cons, List.filterMap_map, first,
        Function.comp_def, later, ih]
      change _ = ((⟨b0, b1, b2, b3⟩ :: dtcRecords rest).filter _).map _
      rw [List.filter_cons]
      cases (⟨b0, b1, b2, b3⟩ : DtcRecord).isPlaceholder with
      | true => rfl
      | false => rfl
  | case2 rest short =>
      obtain ⟨few, nothing⟩ := dtcRecords_short short
      rw [few, nothing]
      rfl

theorem parseDm1OrDm2_dtcs (data : Bytes) (long : 2 ≤ data.length) (pgn sourceAddress : Nat)
    (timestampNs : Int) :
    ∃ message, parseDm1OrDm2 data pgn sourceAddress timestampNs = some message ∧
      message.dtcs = ((dtcRecords (data.drop 2)).filter (fun entry => !entry.isPlaceholder)).map
        (DtcRecord.decoded sourceAddress) := by
  rcases data with _ | ⟨b0, _ | ⟨b1, dtcPayload⟩⟩
  · cases long
  · exact absurd long (Nat.not_succ_le_self 1)
  · exact ⟨_, rfl, parseSlots_eq dtcPayload sourceAddress⟩

end Ucanlab.J1939
