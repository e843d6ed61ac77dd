import Ucanlab.Engine.Buffer.RollingDisk

/-!
The admission check lets through exactly the frames that have a record, and a chunk of
admitted frames gives them back.
-/

namespace Ucanlab.Engine.RollingDisk

open Ucanlab StructFormat

theorem utf8Decode_utf8Encode (text : String) : utf8Decode (utf8Encode text) = some text := by
  unfold utf8Decode utf8Encode
  rw [Array.toArray_toList]
  exact dif_pos text.isValidUTF8

structure Admissible (frame : RecordedFrame) : Prop where
  channel : (utf8Encode frame.frame.channelId).length ≤ channelIdSize
  data : frame.frame.data.length ≤ dataSize
  sequence : isI64 frame.sequence = true
  timestampNs : isU64 frame.timestampNs = true
  hardwareTimestampNs : frame.hardwareTimestampNs.any (fun value => !isU64 value) = false
  hostTimestampNs : frame.hostTimestampNs.any (fun value => !isU64 value) = false

theorem checkFrame_eq_none_iff (frame : RecordedFrame) :
    checkFrame frame = none ↔ Admissible frame := by
  unfold checkFrame
  rw [check_eq_none_iff, check_eq_none_iff, check_eq_none_iff, check_eq_none_iff,
    check_eq_none_iff, check_eq_none_iff, not_not, not_not, Nat.not_lt, Nat.not_lt,
    Bool.not_eq_true, Bool.not_eq_true]
  constructor
  · rintro ⟨channel, data, sequence, timestampNs, hardware, host, _⟩
    exact ⟨channel, data, sequence, timestampNs, hardware, host⟩
  · rintro ⟨channel, data, sequence, timestampNs, hardware, host⟩
    exact ⟨channel, data, sequence, timestampNs, hardware, host, rfl⟩

theorem checkedU64_ok_iff {value result : Int} {fieldName : String} :
    checkedU64 value fieldName = .ok result ↔ isU64 value = true ∧ value = result := by
  unfold checkedU64
  cases fits : isU64 value <;> simp

/-- A timestamp that is there fits, and one that is not there is written as zero. -/
theorem checkedOptionalU64_ok_iff {value : Option Int} {result : Int} {fieldName : String} :
    checkedOptionalU64 value fieldName = .ok result ↔
      value.any (fun value => !isU64 value) = false ∧ value.getD 0 = result := by
  unfold checkedOptionalU64
  cases value with
  | none => simp
  | some value => simp [checkedU64_ok_iff]

theorem checkedU64_ok {value : Int} (fits : isU64 value = true) (fieldName : String) :
    checkedU64 value fieldName = .ok value :=
  checkedU64_ok_iff.mpr ⟨fits, rfl⟩

theorem checkedOptionalU64_ok {value : Option Int}
    (fits : value.any (fun value => !isU64 value) = false) (fieldName : String) :
    checkedOptionalU64 value fieldName = .ok (value.getD 0) :=
  checkedOptionalU64_ok_iff.mpr ⟨fits, rfl⟩

theorem frameFlags_bits (isExtended isFd brs esi isTx hasHardware hasHost : Bool) :
    let flags := frameFlags isExtended isFd brs esi isTx hasHardware hasHost
    flags < 128 ∧ flags &&& flagReservedMask = 0 ∧
      decide (flags &&& 0x01 ≠ 0) = isExtended ∧ decide (flags &&& 0x02 ≠ 0) = isFd ∧
      decide (flags &&& 0x04 ≠ 0) = brs ∧ decide (flags &&& 0x08 ≠ 0) = esi ∧
      decide (flags &&& 0x10 ≠ 0) = isTx ∧ decide (flags &&& 0x20 ≠ 0) = hasHardware ∧
      decide (flags &&& 0x40 ≠ 0) = hasHost := by
  revert isExtended isFd brs esi isTx hasHardware hasHost
  decide

theorem isU64_fits {value : Int} (fits : isU64 value = true) :
    (Field.unsigned 8).Fits value := by
  obtain ⟨nonneg, below⟩ := of_decide_eq_true fits
  obtain ⟨value, rfl⟩ := Int.eq_ofNat_of_zero_le nonneg
  apply Field.fits_unsigned
  omega

theorem isI64_fits {value : Int} (fits : isI64 value = true) : (Field.signed 8).Fits value := by
  obtain ⟨lower, upper⟩ := of_decide_eq_true fits
  apply Field.fits_signed
  · omega
  · omega

theorem optional_fits {value : Option Int} (fits : value.any (fun value => !isU64 value) = false) :
    (Field.unsigned 8).Fits (value.getD 0) := by
  cases value with
  | none => exact ⟨Int.le_refl 0, by decide⟩
  | some value =>
      apply isU64_fits
      simpa using fits

theorem Admissible.values_fit {frame : RecordedFrame} (admissible : Admissible frame) :
    Fits frameFormat (frameValues frame (utf8Encode frame.frame.channelId) frame.timestampNs
      (frame.hardwareTimestampNs.getD 0) (frame.hostTimestampNs.getD 0)) := by
  have formed := frame.frame.wellFormed
  have channel := admissible.channel
  have data := admissible.data
  have flags := (frameFlags_bits frame.frame.isExtended frame.frame.isFd frame.frame.brs
    frame.frame.esi (frame.frame.direction == .tx) frame.hardwareTimestampNs.isSome
    frame.hostTimestampNs.isSome).1
  have identifier : frame.frame.arbitrationId ≤ 0x1FFFFFFF := by
    have bound := formed.arbitrationId
    unfold maxId at bound
    split at bound <;> omega
  have dlc := formed.dlc
  have errorState : errorStateToCode frame.frame.errorState ≤ 2 := by
    cases frame.frame.errorState <;> decide
  have source : sourceToCode frame.frame.source ≤ 4 := by
    cases frame.frame.source <;> decide
  unfold channelIdSize at channel
  unfold dataSize at data
  have channelFill : (utf8Encode frame.frame.channelId ++ List.replicate
      (channelIdSize - (utf8Encode frame.frame.channelId).length) 0).length = 32 := by
    rw [List.length_append, List.length_replicate]
    exact Nat.add_sub_of_le channel
  have dataFill : (frame.frame.data ++ List.replicate
      (dataSize - frame.frame.data.length) 0xCC).length = 64 := by
    rw [List.length_append, List.length_replicate]
    exact Nat.add_sub_of_le data
  exact ⟨Field.fits_unsigned (by omega), isU64_fits admissible.timestampNs,
    optional_fits admissible.hardwareTimestampNs, optional_fits admissible.hostTimestampNs,
    isI64_fits admissible.sequence, Field.fits_unsigned (by omega),
    Field.fits_unsigned (by omega), Field.fits_unsigned (by omega),
    Field.fits_unsigned (by omega), Field.fits_unsigned (by omega),
    Field.fits_unsigned (Nat.zero_lt_succ _), Field.fits_bytes channelFill,
    Field.fits_unsigned (by omega), Field.fits_bytes dataFill, trivial⟩

theorem structPack_eq {format : List Field} {values : Values format} {raw : Bytes}
    (packed : pack format values = some raw) : structPack format values = .ok raw := by
  unfold structPack
  rw [packed]

theorem serializeFrame_of_admissible {frame : RecordedFrame} (admissible : Admissible frame) :
    ∃ raw, serializeFrame frame = .ok raw ∧ raw.length = frameSize ∧
      unpack frameFormat raw =
        some (frameValues frame (utf8Encode frame.frame.channelId) frame.timestampNs
          (frame.hardwareTimestampNs.getD 0) (frame.hostTimestampNs.getD 0)) := by
  obtain ⟨raw, packed, length, unpacked⟩ := unpack_pack admissible.values_fit
  refine ⟨raw, ?_, length, unpacked⟩
  have hardware := checkedOptionalU64_ok admissible.hardwareTimestampNs "hardware_timestamp_ns"
  have host := checkedOptionalU64_ok admissible.hostTimestampNs "host_timestamp_ns"
  have timestamp := checkedU64_ok admissible.timestampNs "timestamp_ns"
  unfold serializeFrame
  dsimp only
  rw [if_neg (Nat.not_lt.mpr admissible.channel), if_neg (Nat.not_lt.mpr admissible.data),
    if_neg (not_not_intro admissible.sequence), hardware]
  dsimp only
  rw [host]
  dsimp only
  rw [timestamp]
  exact structPack_eq packed

theorem admissible_of_serializeFrame {frame : RecordedFrame} {raw : Bytes}
    (serialized : serializeFrame frame = .ok raw) : Admissible frame := by
  unfold serializeFrame at serialized
  dsimp only at serialized
  split at serialized
  · cases serialized
  · rename_i channel
    split at serialized
    · cases serialized
    · rename_i data
      split at serialized
      · cases serialized
      · rename_i sequence
        split at serialized
        · cases serialized
        · rename_i hardware
          split at serialized
          · cases serialized
          · rename_i host
            split at serialized
            · cases serialized
            · rename_i timestamp
              exact {
                channel := Nat.not_lt.mp channel
                data := Nat.not_lt.mp data
                sequence := not_not.mp sequence
                timestampNs := (checkedU64_ok_iff.mp timestamp).1
                hardwareTimestampNs := (checkedOptionalU64_ok_iff.mp hardware).1
                hostTimestampNs := (checkedOptionalU64_ok_iff.mp host).1 }

theorem codeToErrorState_errorStateToCode (errorState : ErrorState) :
    codeToErrorState (errorStateToCode errorState) = some errorState := by
  cases errorState <;> rfl

theorem codeToSource_sourceToCode (source : FrameSource) :
    codeToSource (sourceToCode source) = some source := by
  cases source <;> rfl

theorem optional_back (value : Option Int) :
    (if value.isSome = true then some (value.getD 0) else none) = value := by
  cases value <;> rfl

theorem deserializeFrame_of_values {frame : RecordedFrame} (admissible : Admissible frame)
    {raw : Bytes} (unpacked : unpack frameFormat raw =
      some (frameValues frame (utf8Encode frame.frame.channelId) frame.timestampNs
        (frame.hardwareTimestampNs.getD 0) (frame.hostTimestampNs.getD 0))) :
    deserializeFrame raw = .ok frame := by
  have built := CanFrame.new_of_valid frame.frame.toFrameFields frame.frame.valid
  obtain ⟨_, reserved, isExtended, isFd, brs, esi, isTx, hasHardware, hasHost⟩ :=
    frameFlags_bits frame.frame.isExtended frame.frame.isFd frame.frame.brs frame.frame.esi
      (frame.frame.direction == .tx) frame.hardwareTimestampNs.isSome
      frame.hostTimestampNs.isSome
  unfold deserializeFrame
  rw [unpacked]
  unfold frameValues
  dsimp only
  rw [Int.toNat_natCast]
  generalize frameFlags frame.frame.isExtended frame.frame.isFd frame.frame.brs frame.frame.esi
    (frame.frame.direction == .tx) frame.hardwareTimestampNs.isSome
    frame.hostTimestampNs.isSome = flags at *
  have direction : (if flags &&& 0x10 ≠ 0 then Direction.tx else .rx) = frame.frame.direction := by
    rw [← Bool.cond_decide, isTx]
    cases frame.frame.direction <;> rfl
  have hardware : (if flags &&& 0x20 ≠ 0 then some (frame.hardwareTimestampNs.getD 0) else none) =
      frame.hardwareTimestampNs := by
    rw [← Bool.cond_decide, hasHardware, Bool.cond_eq_ite]
    exact optional_back frame.hardwareTimestampNs
  have host : (if flags &&& 0x40 ≠ 0 then some (frame.hostTimestampNs.getD 0) else none) =
      frame.hostTimestampNs := by
    rw [← Bool.cond_decide, hasHost, Bool.cond_eq_ite]
    exact optional_back frame.hostTimestampNs
  have channel : ¬ (((utf8Encode frame.frame.channelId).length : Int) > channelIdSize) := by
    have bound := admissible.channel
    omega
  have data : ¬ ((frame.frame.data.length : Int) > dataSize) := by
    have bound := admissible.data
    omega
  rw [if_neg (not_not_intro reserved), if_neg (not_not_intro rfl), if_neg channel, if_neg data]
  simp only [Int.toNat_natCast, List.take_left]
  rw [utf8Decode_utf8Encode, codeToErrorState_errorStateToCode, codeToSource_sourceToCode,
    direction, isExtended, isFd, brs, esi, hardware, host]
  dsimp only
  rw [built]

theorem serializeFrames_of_admissible {frames : List RecordedFrame}
    (admissible : ∀ frame ∈ frames, Admissible frame) :
    ∃ raws : List Bytes, serializeFrames frames = .ok raws.flatten ∧
      raws.length = frames.length ∧ (∀ raw ∈ raws, raw.length = frameSize) ∧
      deserializeFrames raws = .ok frames := by
  induction frames with
  | nil => exact ⟨[], rfl, rfl, nofun, rfl⟩
  | cons frame rest ih =>
      have first := admissible frame List.mem_cons_self
      obtain ⟨raw, serialized, length, unpacked⟩ := serializeFrame_of_admissible first
      obtain ⟨raws, later, count, lengths, back⟩ :=
        ih (fun other member => admissible other (List.mem_cons_of_mem frame member))
      refine ⟨raw :: raws, ?_, ?_, ?_, ?_⟩
      · unfold serializeFrames
        rw [serialized, later]
        rfl
      · rw [List.length_cons, List.length_cons, count]
      · intro other member
        rcases List.mem_cons.mp member with rfl | member
        · exact length
        · exact lengths other member
      · unfold deserializeFrames
        rw [deserializeFrame_of_values first unpacked, back]

theorem flatten_length {raws : List Bytes} (lengths : ∀ raw ∈ raws, raw.length = frameSize) :
    raws.flatten.length = raws.length * frameSize := by
  induction raws with
  | nil => simp
  | cons raw rest ih =>
      have first := lengths raw List.mem_cons_self
      have later := ih (fun other member => lengths other (List.mem_cons_of_mem raw member))
      rw [List.flatten_cons, List.length_append, later, first, List.length_cons, Nat.succ_mul,
        Nat.add_comm]

theorem frameSize_eq : frameSize = 141 := rfl

theorem bodyRecords_flatten {raws : List Bytes}
    (lengths : ∀ raw ∈ raws, raw.length = frameSize) : bodyRecords raws.flatten = raws := by
  have count : (raws.flatten.length + (frameSize - 1)) / frameSize = raws.length := by
    rw [flatten_length lengths, frameSize_eq]
    omega
  unfold bodyRecords
  rw [count]
  clear count
  induction raws with
  | nil => rfl
  | cons raw rest ih =>
      have first := lengths raw List.mem_cons_self
      have later := ih (fun other member => lengths other (List.mem_cons_of_mem raw member))
      rw [List.length_cons, List.range_succ_eq_map, List.map_cons, List.flatten_cons, Nat.zero_mul,
        List.drop_zero, ← first, List.take_left, List.map_map]
      congr 1
      refine Eq.trans (List.map_congr_left ?_) later
      intro index _
      have place : (index + 1) * raw.length = raw.length + index * raw.length := by
        rw [Nat.succ_mul, Nat.add_comm]
      rw [Function.comp_apply, Nat.succ_eq_add_one, place, ← List.drop_drop, List.drop_left, first]

theorem header_of_count {count : Nat} (small : count ≤ 0xFFFFFFFF) {mac : Bytes}
    (full : mac.length = 32) :
    ∃ front, structPack headerPrefixFormat
        (chunkMagic, chunkVersion, 0, (count : Int), (frameSize : Int), ()) = .ok front ∧
      front.length = headerPrefixSize ∧
      unpack headerFormat (front ++ mac) =
        some (chunkMagic, chunkVersion, 0, (count : Int), (frameSize : Int), mac, ()) := by
  have version : (Field.unsigned 1).Fits chunkVersion := ⟨by decide, by decide⟩
  have flags : (Field.unsigned 1).Fits 0 := ⟨by decide, by decide⟩
  have counted : (Field.unsigned 4).Fits (count : Int) := Field.fits_unsigned (by omega)
  have size : (Field.unsigned 2).Fits (frameSize : Int) := Field.fits_unsigned (by decide)
  have fits : Fits headerPrefixFormat
      (chunkMagic, chunkVersion, 0, (count : Int), (frameSize : Int), ()) :=
    ⟨rfl, version, flags, counted, size, trivial⟩
  have whole : Fits headerFormat
      (chunkMagic, chunkVersion, 0, (count : Int), (frameSize : Int), mac, ()) :=
    ⟨rfl, version, flags, counted, size, full, trivial⟩
  obtain ⟨front, packed, length, _⟩ := unpack_pack fits
  obtain ⟨raw, packedWhole, _, unpacked⟩ := unpack_pack whole
  refine ⟨front, structPack_eq packed, length, ?_⟩
  have last : (Field.bytes 32).pack mac = some mac := congrArg some (packBytes_of_length full)
  have joined := pack_snoc packed last
  have same : some raw = some (front ++ mac) := packedWhole.symm.trans joined
  cases same
  exact unpacked

theorem serializeChunk_eq {digests : Digests} {frames : List RecordedFrame} {key : Bytes}
    (secret : key.length = keySize) (small : frames.length ≤ 0xFFFFFFFF) {body front : Bytes}
    (serialized : serializeFrames frames = .ok body)
    (packed : structPack headerPrefixFormat
      (chunkMagic, chunkVersion, 0, (frames.length : Int), (frameSize : Int), ()) = .ok front) :
    serializeChunk digests frames key =
      .ok (front ++ digests.hmacSha256 key (front ++ body) ++ body) := by
  unfold serializeChunk
  rw [if_neg (not_not_intro secret), if_neg (Nat.not_lt.mpr small), serialized, packed]
  rfl

theorem deserializeChunk_eq {digests : Digests} {key front mac body : Bytes} {count : Nat}
    (secret : key.length = keySize) (frontLength : front.length = headerPrefixSize)
    (macLength : mac.length = 32)
    (unpacked : unpack headerFormat (front ++ mac) =
      some (chunkMagic, chunkVersion, 0, (count : Int), (frameSize : Int), mac, ()))
    (length : body.length = count * frameSize)
    (authentic : digests.hmacSha256 key (front ++ body) = mac) :
    deserializeChunk digests (front ++ mac ++ body) key =
      deserializeFrames (bodyRecords body) := by
  have headerLength : (front ++ mac).length = headerSize := by
    rw [List.length_append, frontLength, macLength]
    rfl
  have frontTake : (front ++ mac ++ body).take headerPrefixSize = front := by
    rw [← frontLength, List.append_assoc, List.take_left]
  have headerTake : (front ++ mac ++ body).take headerSize = front ++ mac := by
    rw [← headerLength, List.take_left]
  have bodyDrop : (front ++ mac ++ body).drop headerSize = body := by
    rw [← headerLength, List.drop_left]
  have total : (front ++ mac ++ body).length = headerSize + count * frameSize := by
    rw [List.length_append, headerLength, length]
  have counted : ((front ++ mac ++ body).length : Int) =
      headerSize + (count : Int) * frameSize := by
    rw [total, Int.natCast_add, Int.natCast_mul]
  unfold deserializeChunk
  rw [if_neg (not_not_intro secret), if_neg (by omega), frontTake, headerTake, bodyDrop, unpacked]
  dsimp only
  rw [if_neg (not_not_intro rfl), if_neg (not_not_intro rfl), if_neg (not_not_intro rfl),
    if_neg (not_not_intro rfl), if_neg (not_not_intro counted), if_neg (not_not_intro authentic)]

theorem deserializeChunk_serializeChunk (digests : Digests) {frames : List RecordedFrame}
    {key : Bytes} (secret : key.length = keySize)
    (small : frames.length ≤ 0xFFFFFFFF) (admissible : ∀ frame ∈ frames, Admissible frame) :
    ∃ raw, serializeChunk digests frames key = .ok raw ∧
      raw.length = headerSize + frames.length * frameSize ∧
      deserializeChunk digests raw key = .ok frames := by
  obtain ⟨raws, serialized, count, lengths, back⟩ := serializeFrames_of_admissible admissible
  have length := flatten_length lengths
  have slices := bodyRecords_flatten lengths
  rw [count] at length
  generalize raws.flatten = body at serialized length slices
  -- The front of the header does not depend on the digest behind it.
  obtain ⟨front, packed, frontLength, _⟩ := header_of_count small (digests.hmacLength key body)
  have macLength := digests.hmacLength key (front ++ body)
  obtain ⟨other, packedOther, _, unpacked⟩ := header_of_count small macLength
  have same : front = other := by
    rw [packed] at packedOther
    exact Except.ok.inj packedOther
  subst same
  refine ⟨_, serializeChunk_eq secret small serialized packed, ?_, ?_⟩
  · rw [List.length_append, List.length_append, frontLength, macLength, length]
    rfl
  · rw [deserializeChunk_eq secret frontLength macLength unpacked length rfl, slices, back]

theorem serializeChunk_ok_conditions {digests : Digests} {frames : List RecordedFrame}
    {key raw : Bytes} (serialized : serializeChunk digests frames key = .ok raw) :
    key.length = keySize ∧ frames.length ≤ 0xFFFFFFFF := by
  unfold serializeChunk at serialized
  split at serialized
  · cases serialized
  · rename_i secret
    split at serialized
    · cases serialized
    · rename_i small
      exact ⟨not_not.mp secret, Nat.not_lt.mp small⟩

theorem admissible_iff_serializes (frame : RecordedFrame) :
    Admissible frame ↔ ∃ raw, serializeFrame frame = .ok raw := by
  constructor
  · intro admissible
    obtain ⟨raw, serialized, _⟩ := serializeFrame_of_admissible admissible
    exact ⟨raw, serialized⟩
  · rintro ⟨raw, serialized⟩
    exact admissible_of_serializeFrame serialized

/-- The admission check passes exactly the frames that have a record. A list of admitted frames
has a chunk, but for the limits of the format on the key and on the count, and the chunk gives
the list back. -/
theorem frame_codec_faithful (digests : Digests) :
    (∀ frame, checkFrame frame = none ↔ ∃ raw, serializeFrame frame = .ok raw) ∧
    ∀ (frames : List RecordedFrame) (key : Bytes),
      (∀ frame ∈ frames, checkFrame frame = none) →
      ((∃ raw, serializeChunk digests frames key = .ok raw) ↔
        key.length = keySize ∧ frames.length ≤ 0xFFFFFFFF) ∧
      ∀ raw, serializeChunk digests frames key = .ok raw →
        deserializeChunk digests raw key = .ok frames := by
  constructor
  · intro frame
    rw [checkFrame_eq_none_iff, admissible_iff_serializes]
  · intro frames key admitted
    have admissible : ∀ frame ∈ frames, Admissible frame :=
      fun frame member => (checkFrame_eq_none_iff frame).mp (admitted frame member)
    constructor
    · constructor
      · rintro ⟨raw, serialized⟩
        exact serializeChunk_ok_conditions serialized
      · rintro ⟨secret, small⟩
        obtain ⟨raw, serialized, _⟩ :=
          deserializeChunk_serializeChunk digests secret small admissible
        exact ⟨raw, serialized⟩
    · intro raw serialized
      obtain ⟨secret, small⟩ := serializeChunk_ok_conditions serialized
      obtain ⟨other, serializedOther, _, back⟩ :=
        deserializeChunk_serializeChunk digests secret small admissible
      rw [serialized] at serializedOther
      cases serializedOther
      exact back

def blankDigests : Digests where
  hmacSha256 := fun _ _ => List.replicate 32 0
  sha256 := fun _ => List.replicate 32 0
  hmacLength := blankHmac_length
  shaLength := blankSha_length

def injectedFrame : RecordedFrame where
  frame := {
    channelId := "can0"
    arbitrationId := 0x18DAF110
    dlc := 9
    data := [0x02, 0x3E, 0x00, 0xCC, 0xCC, 0xCC, 0xCC, 0xCC, 0xCC]
    isExtended := true
    isFd := true
    brs := true
    direction := .tx
    errorState := .passive
    source := .injected
    valid := by decide }
  timestampNs := 1
  hostTimestampNs := some 2
  sequence := -1

theorem frame_codec_faithful_injected :
    ∃ raw, serializeChunk blankDigests [injectedFrame] (List.replicate 32 0) = .ok raw ∧
      deserializeChunk blankDigests raw (List.replicate 32 0) = .ok [injectedFrame] := by
  have admitted : ∀ frame ∈ [injectedFrame], checkFrame frame = none := by
    intro frame member
    rw [List.mem_singleton.mp member]
    rfl
  obtain ⟨exists_iff, back⟩ :=
    (frame_codec_faithful blankDigests).2 [injectedFrame] (List.replicate 32 0) admitted
  obtain ⟨raw, serialized⟩ := exists_iff.mpr ⟨List.length_replicate, by decide⟩
  exact ⟨raw, serialized, back raw serialized⟩

end Ucanlab.Engine.RollingDisk
