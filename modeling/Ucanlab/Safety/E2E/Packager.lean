import Mathlib.Data.Int.Bitwise
import Ucanlab.Safety.E2E.Crc

/-!
End-to-end protection profiles: the configuration with the checks of its
constructor, the rolling counter and the checksum of a payload.
-/

namespace Ucanlab.Safety.E2E

open Ucanlab

inductive E2EProfileType where
  | autosarProfile1
  | autosarProfile1A
  | autosarProfile1B
  | autosarProfile1C
  | autosarProfile2
  | saeJ1850
  | toyota
  | vagMqb
  | volvo
  | custom
  deriving DecidableEq, Repr

inductive ProfileError where
  | maxPayloadLen (value : Int)
  | counterModulo (value : Int)
  | maxDeltaCounter (value : Int)
  | crcByteOffset (value : Int)
  | counterByteOffset (value : Int)
  | offsetsExceedPayload (crcByteOffset counterByteOffset maxPayloadLen : Int)
  | equalOffsets (offset : Int)
  | counterBitShift (value : Int)
  | counterBitMask (value : Int)
  | maskShiftMisaligned (mask shift : Int)
  | maskNotContiguous (mask : Int)
  | moduloExceedsMask (modulo capacity : Int)
  deriving DecidableEq, Repr

structure E2EProfileFields where
  profileType : E2EProfileType
  crcByteOffset : Int := 0
  counterByteOffset : Int := 1
  counterBitMask : Int := 0x0F
  counterBitShift : Int := 0
  counterModulo : Int := 16
  maxDeltaCounter : Int := 2
  dataId : Int := 0
  dataIdMode : String := "1C"
  dataIdList : Option (List Int) := none
  includeCanIdInCrc : Bool := false
  includeDlcInCrc : Bool := true
  customPolynomial : Int := polynomial0x1d
  customInit : Int := defaultCrcInit
  customFinalXor : Int := defaultCrcXor
  maxPayloadLen : Int := 8
  deriving DecidableEq, Repr

def validPayloadLens : List Int := [8, 12, 16, 20, 24, 32, 48, 64]

/-- The checks of `__post_init__` in its order; `none` when all of them pass. -/
def E2EProfileFields.postInit (f : E2EProfileFields) : Option ProfileError :=
  if ¬ f.maxPayloadLen ∈ validPayloadLens then some (.maxPayloadLen f.maxPayloadLen)
  else if f.counterModulo ≤ 0 then some (.counterModulo f.counterModulo)
  else if f.maxDeltaCounter ≤ 0 then some (.maxDeltaCounter f.maxDeltaCounter)
  else if f.crcByteOffset < 0 then some (.crcByteOffset f.crcByteOffset)
  else if f.counterByteOffset < 0 then some (.counterByteOffset f.counterByteOffset)
  else if max f.crcByteOffset f.counterByteOffset ≥ f.maxPayloadLen then
    some (.offsetsExceedPayload f.crcByteOffset f.counterByteOffset f.maxPayloadLen)
  else if f.crcByteOffset = f.counterByteOffset then some (.equalOffsets f.crcByteOffset)
  else if ¬ (0 ≤ f.counterBitShift ∧ f.counterBitShift ≤ 7) then
    some (.counterBitShift f.counterBitShift)
  else if ¬ (1 ≤ f.counterBitMask ∧ f.counterBitMask ≤ 0xFF) then
    some (.counterBitMask f.counterBitMask)
  else
    let mask := f.counterBitMask.toNat
    let shift := f.counterBitShift.toNat
    let shiftedMask := mask >>> shift
    if mask &&& (1 <<< shift) = 0 then
      some (.maskShiftMisaligned f.counterBitMask f.counterBitShift)
    else if shiftedMask &&& (shiftedMask + 1) ≠ 0 then some (.maskNotContiguous f.counterBitMask)
    else if f.counterModulo > shiftedMask + 1 then
      some (.moduloExceedsMask f.counterModulo (shiftedMask + 1))
    else none

structure E2EProfileConfig extends E2EProfileFields where
  valid : toE2EProfileFields.postInit = none
  deriving DecidableEq

namespace E2EProfileConfig

def crcOffset (config : E2EProfileConfig) : Nat := config.crcByteOffset.toNat

def counterOffset (config : E2EProfileConfig) : Nat := config.counterByteOffset.toNat

def mask (config : E2EProfileConfig) : Nat := config.counterBitMask.toNat

def shift (config : E2EProfileConfig) : Nat := config.counterBitShift.toNat

def modulo (config : E2EProfileConfig) : Nat := config.counterModulo.toNat

end E2EProfileConfig

/-- Every way sealing a payload raises. -/
inductive PackageError where
  | counterRewind (current requested expected : Int)
  | counterOffset (length offset : Nat)
  | crcOffset (length offset : Nat)
  | emptyPayload
  | dataIdList
  | dataIdOverflow (dataId : Int)
  | frame (cause : FrameError)
  deriving DecidableEq, Repr

def extractCounter (data : Bytes) (config : E2EProfileConfig) : Except PackageError Nat :=
  match data[config.counterOffset]? with
  | none => .error (.counterOffset data.length config.counterOffset)
  | some raw => .ok ((raw.toNat &&& config.mask) >>> config.shift)

def counterByte (current : UInt8) (counter : Nat) (config : E2EProfileConfig) : UInt8 :=
  let cleared := current &&& ~~~ UInt8.ofNat config.mask
  let shifted := ((counter % config.modulo) <<< config.shift) &&& config.mask
  cleared ||| UInt8.ofNat shifted

def injectCounter (data : Bytes) (counter : Nat) (config : E2EProfileConfig) :
    Except PackageError Bytes :=
  match data[config.counterOffset]? with
  | none => .error (.counterOffset data.length config.counterOffset)
  | some current => .ok (data.set config.counterOffset (counterByte current counter config))

def injectCrc (data : Bytes) (crc : UInt8) (config : E2EProfileConfig) :
    Except PackageError Bytes :=
  if data.length ≤ config.crcOffset then .error (.crcOffset data.length config.crcOffset)
  else .ok (data.set config.crcOffset crc)

def dataIdLow (config : E2EProfileConfig) : UInt8 := UInt8.ofInt config.dataId

def dataIdHigh (config : E2EProfileConfig) : UInt8 := UInt8.ofInt (config.dataId >>> 8)

def profile1Checksum (protectedData : Bytes) (config : E2EProfileConfig) : UInt8 :=
  let mode := if config.dataIdMode = "" then "1C" else config.dataIdMode.toUpper
  if mode = "1A" then calculateCrc8_0x1d (protectedData ++ [dataIdLow config])
  else if mode = "1B" then
    calculateCrc8_0x1d (dataIdLow config :: protectedData) ^^^ dataIdHigh config
  else calculateCrc8_0x1d (dataIdLow config :: dataIdHigh config :: protectedData)

def toyotaChecksum (protectedData : Bytes) (config : E2EProfileConfig) (arbitrationId dlc : Nat) :
    UInt8 :=
  protectedData.foldl (fun total byte => total + byte) 0 +
    (if config.includeCanIdInCrc then
      UInt8.ofNat (arbitrationId >>> 8) + UInt8.ofNat arbitrationId else 0) +
    (if config.includeDlcInCrc then UInt8.ofNat dlc else 0)

def computeChecksum (data : Bytes) (config : E2EProfileConfig) (arbitrationId dlc : Nat) :
    Except PackageError UInt8 :=
  if data.length = 0 then .error .emptyPayload
  else
    let protectedData := data.eraseIdx config.crcOffset
    match config.profileType with
    | .autosarProfile1 | .autosarProfile1A | .autosarProfile1B | .autosarProfile1C =>
        .ok (profile1Checksum protectedData config)
    | .autosarProfile2 =>
        match config.dataIdList with
        | none => .error .dataIdList
        | some dataIds =>
            if dataIds.length ≠ 16 then .error .dataIdList
            else
              match extractCounter data config with
              | .error e => .error e
              | .ok counter =>
                  .ok (calculateCrc8_0x2f
                    (protectedData ++ [UInt8.ofInt (dataIds.getD (counter % 16) 0)]))
    | .saeJ1850 => .ok (calculateCrc8SaeJ1850 protectedData)
    | .toyota => .ok (toyotaChecksum protectedData config arbitrationId dlc)
    | .vagMqb =>
        if 0 ≤ config.dataId ∧ config.dataId < 65536 then
          .ok (calculateCrc8_0x2f (protectedData ++ [dataIdLow config, dataIdHigh config]))
        else .error (.dataIdOverflow config.dataId)
    | .volvo => .ok (~~~ protectedData.foldl (fun total byte => total + byte) 0)
    | .custom =>
        .ok (calculateCrc8 protectedData config.customPolynomial config.customInit
          config.customFinalXor)

structure E2EProfileConfig.Consistent (config : E2EProfileConfig) : Prop where
  positive : 0 < config.modulo
  offsets : config.crcOffset ≠ config.counterOffset
  byteMask : config.mask ≤ 255
  contiguous : (config.mask >>> config.shift) &&& (config.mask >>> config.shift + 1) = 0
  fits : config.modulo ≤ config.mask >>> config.shift + 1

theorem E2EProfileConfig.consistent (config : E2EProfileConfig) : config.Consistent := by
  have valid := config.valid
  unfold E2EProfileFields.postInit at valid
  obtain ⟨_, valid⟩ := check_eq_none_iff.mp valid
  obtain ⟨positive, valid⟩ := check_eq_none_iff.mp valid
  obtain ⟨_, valid⟩ := check_eq_none_iff.mp valid
  obtain ⟨crcOffset, valid⟩ := check_eq_none_iff.mp valid
  obtain ⟨counterOffset, valid⟩ := check_eq_none_iff.mp valid
  obtain ⟨_, valid⟩ := check_eq_none_iff.mp valid
  obtain ⟨offsets, valid⟩ := check_eq_none_iff.mp valid
  obtain ⟨_, valid⟩ := check_eq_none_iff.mp valid
  obtain ⟨mask, valid⟩ := check_eq_none_iff.mp valid
  obtain ⟨_, valid⟩ := check_eq_none_iff.mp valid
  obtain ⟨contiguous, valid⟩ := check_eq_none_iff.mp valid
  obtain ⟨fits, _⟩ := check_eq_none_iff.mp valid
  refine ⟨?_, ?_, ?_, not_not.mp contiguous, ?_⟩
  · change 0 < config.counterModulo.toNat
    omega
  · change config.crcByteOffset.toNat ≠ config.counterByteOffset.toNat
    omega
  · change config.counterBitMask.toNat ≤ 255
    omega
  · change config.counterModulo.toNat ≤
      config.counterBitMask.toNat >>> config.counterBitShift.toNat + 1
    omega

theorem modulo_cast (profile : E2EProfileConfig) :
    (profile.modulo : Int) = profile.counterModulo := by
  have positive : 0 < profile.counterModulo.toNat := profile.consistent.positive
  change ((profile.counterModulo.toNat : Nat) : Int) = _
  omega

theorem and_eq_self_of_contiguous {value limit : Nat} (contiguous : limit &&& (limit + 1) = 0)
    (within : value ≤ limit) : value &&& limit = value := by
  obtain ⟨width, power⟩ : (limit + 1).isPowerOfTwo := by
    rw [← Nat.ne_zero_and_sub_one_eq_zero_iff_isPowerOfTwo, Nat.add_sub_cancel, Nat.and_comm]
    exact ⟨Nat.succ_ne_zero limit, contiguous⟩
  have same : limit = 2 ^ width - 1 := by omega
  rw [same, Nat.and_two_pow_sub_one_eq_mod]
  exact Nat.mod_eq_of_lt (by omega)

theorem clear_or_and (current mask written : UInt8) :
    ((current &&& ~~~ mask) ||| written) &&& mask = written &&& mask := by
  apply UInt8.toBitVec_inj.mp
  simp only [UInt8.toBitVec_and, UInt8.toBitVec_or, UInt8.toBitVec_not]
  ext bit
  simp only [BitVec.getElem_and, BitVec.getElem_or, BitVec.getElem_not]
  cases current.toBitVec[bit] <;> cases mask.toBitVec[bit] <;> cases written.toBitVec[bit] <;> rfl

theorem counterByte_read (config : E2EProfileConfig) (current : UInt8) {counter : Nat}
    (small : counter < config.modulo) :
    ((counterByte current counter config).toNat &&& config.mask) >>> config.shift = counter := by
  obtain ⟨_, _, byteMask, contiguous, fits⟩ := config.consistent
  unfold counterByte
  rw [Nat.mod_eq_of_lt small]
  have kept : (((current &&& ~~~ UInt8.ofNat config.mask) |||
      UInt8.ofNat ((counter <<< config.shift) &&& config.mask)).toNat &&& config.mask) =
        (counter <<< config.shift) &&& config.mask := by
    have shifted : (counter <<< config.shift) &&& config.mask ≤ config.mask := Nat.and_le_right
    have wide : (UInt8.ofNat config.mask).toNat = config.mask := by
      rw [UInt8.toNat_ofNat']
      omega
    have written : (UInt8.ofNat ((counter <<< config.shift) &&& config.mask)).toNat =
        (counter <<< config.shift) &&& config.mask := by
      rw [UInt8.toNat_ofNat']
      omega
    have masked := congrArg UInt8.toNat (clear_or_and current (UInt8.ofNat config.mask)
      (UInt8.ofNat ((counter <<< config.shift) &&& config.mask)))
    rw [UInt8.toNat_and, UInt8.toNat_and, wide, written] at masked
    rw [masked, Nat.and_assoc, Nat.and_self]
  rw [kept, Nat.shiftRight_and_distrib, Nat.shiftLeft_shiftRight]
  exact and_eq_self_of_contiguous contiguous (by omega)

end Ucanlab.Safety.E2E

/-!
The outbound packager: a rolling counter for each stream and the sealing of a
frame with counter and checksum.
-/

namespace Ucanlab.Safety.E2E

open Ucanlab

def e2ePadByte : UInt8 := 0xCC

def ensureMinLen (payload : Bytes) (minLen : Nat) : Bytes :=
  payload ++ List.replicate (minLen - payload.length) e2ePadByte

def E2EProfileConfig.minLen (profile : E2EProfileConfig) : Nat :=
  max profile.crcOffset profile.counterOffset + 1

abbrev StreamKey := String × Nat

structure Packager where
  counters : StreamKey → Option Int

def Packager.fresh : Packager where
  counters := fun _ => none

def Packager.setStream (packager : Packager) (key : StreamKey) (value : Int) : Packager where
  counters := fun other => if other = key then some value else packager.counters other

/-- The counter `_resolve_counter` takes when the caller supplies none. -/
def Packager.nextCounter (packager : Packager) (key : StreamKey) (profile : E2EProfileConfig) :
    Int :=
  ((packager.counters key).getD (-1) + 1) % profile.counterModulo

/-- An explicit counter may jump forward but neither repeat nor go back. -/
def Packager.resolveCounter (packager : Packager) (key : StreamKey) (profile : E2EProfileConfig)
    (counter : Option Int) : Except PackageError (Int × Packager) :=
  match counter with
  | none =>
      let used := packager.nextCounter key profile
      .ok (used, packager.setStream key used)
  | some requested =>
      let normalized := requested % profile.counterModulo
      match packager.counters key with
      | none => .ok (normalized, packager.setStream key normalized)
      | some current =>
          let expected := (current + 1) % profile.counterModulo
          if normalized ≠ expected ∧ normalized ≤ current ∧
              ¬ (current = profile.counterModulo - 1 ∧ normalized = 0) then
            .error (.counterRewind current normalized expected)
          else .ok (normalized, packager.setStream key normalized)

/-- The code of the sealed frame: the frame's own unless padding outgrew it. -/
def effectiveDlc (length dlc : Nat) : Except FrameError Nat :=
  match dlcToLength dlc with
  | .error e => .error e
  | .ok capacity => if length > capacity then lengthToDlc length else .ok dlc

/-- Counter, code and checksum in the order `package` writes them. -/
def sealPayload (frame : CanFrame) (profile : E2EProfileConfig) (counter : Nat) :
    Except PackageError (Bytes × Nat) :=
  let padded := ensureMinLen frame.data profile.minLen
  match injectCounter padded counter profile with
  | .error e => .error e
  | .ok counted =>
      match effectiveDlc counted.length frame.dlc with
      | .error e => .error (.frame e)
      | .ok dlc =>
          match computeChecksum counted profile frame.arbitrationId dlc with
          | .error e => .error e
          | .ok crc =>
              match injectCrc counted crc profile with
              | .error e => .error e
              | .ok bytes => .ok (bytes, dlc)

/-- The error state is not carried over. -/
def sealedFields (frame : CanFrame) (bytes : Bytes) : FrameFields where
  channelId := frame.channelId
  arbitrationId := frame.arbitrationId
  dlc := frame.dlc
  data := bytes
  isExtended := frame.isExtended
  isFd := frame.isFd
  brs := frame.brs
  esi := frame.esi
  direction := .tx
  source := frame.source

def sealFrame (frame : CanFrame) (profile : E2EProfileConfig) (counter : Nat) :
    Except PackageError CanFrame :=
  match sealPayload frame profile counter with
  | .error e => .error e
  | .ok (bytes, dlc) =>
      match CanFrame.create (sealedFields frame bytes) (some dlc) with
      | .error e => .error (.frame e)
      | .ok sealed => .ok sealed

/-- The counter is spent before the payload is sealed, so a failure keeps it. -/
def Packager.package (packager : Packager) (frame : CanFrame) (profile : E2EProfileConfig)
    (counter : Option Int) : Packager × Except PackageError CanFrame :=
  match packager.resolveCounter (frame.channelId, frame.arbitrationId) profile counter with
  | .error e => (packager, .error e)
  | .ok (used, counted) => (counted, sealFrame frame profile used.toNat)

structure SameStream (frame sealed : CanFrame) : Prop where
  channelId : sealed.channelId = frame.channelId
  arbitrationId : sealed.arbitrationId = frame.arbitrationId
  isExtended : sealed.isExtended = frame.isExtended
  isFd : sealed.isFd = frame.isFd

theorem SameStream.refl (frame : CanFrame) : SameStream frame frame := ⟨rfl, rfl, rfl, rfl⟩

theorem create_some_fields {f : FrameFields} {code : Nat} {frame : CanFrame}
    (built : CanFrame.create f (some code) = .ok frame) :
    frame.toFrameFields = { f with dlc := code } := by
  unfold CanFrame.create at built
  split at built
  · cases built
  · exact CanFrame.new_fields built

theorem sealFrame_ok {frame sealed : CanFrame} {profile : E2EProfileConfig} {counter : Nat}
    (ok : sealFrame frame profile counter = .ok sealed) :
    SameStream frame sealed ∧
      ∃ dlc, sealPayload frame profile counter = .ok (sealed.data, dlc) := by
  unfold sealFrame at ok
  split at ok
  · cases ok
  · rename_i bytes dlc payload
    split at ok
    · cases ok
    · rename_i built created
      cases ok
      have fields := create_some_fields created
      refine ⟨⟨?_, ?_, ?_, ?_⟩, dlc, ?_⟩
      · rw [fields]
        rfl
      · rw [fields]
        rfl
      · rw [fields]
        rfl
      · rw [fields]
        rfl
      · rw [payload, fields]
        rfl

theorem Packager.package_sameStream {packager : Packager} {frame sealed : CanFrame}
    {profile : E2EProfileConfig} {counter : Option Int}
    (ok : (packager.package frame profile counter).2 = .ok sealed) : SameStream frame sealed := by
  unfold Packager.package at ok
  split at ok
  · cases ok
  · exact (sealFrame_ok ok).1

end Ucanlab.Safety.E2E
