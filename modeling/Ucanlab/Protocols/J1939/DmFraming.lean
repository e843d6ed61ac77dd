import Ucanlab.Protocols.J1939.Diagnostics

/-!
The records of DM4 and DM30 payloads against what is decoded: freeze frames, each behind its length
and perhaps followed by padding, and test results of twelve bytes.
-/

namespace Ucanlab.J1939

open Ucanlab

def word (low high : UInt8) : Nat := low.toNat + 256 * high.toNat

/-- A freeze frame as the standard lays it out; its length byte leaves room for this many bytes of
the manufacturer. -/
structure Dm4Record where
  code : DtcRecord
  torqueMode : UInt8
  boost : UInt8
  speedLow : UInt8
  speedHigh : UInt8
  load : UInt8
  coolant : UInt8
  vehicleLow : UInt8
  vehicleHigh : UInt8
  manufacturer : Bytes
  fits : manufacturer.length ≤ 242

def Dm4Field.notAvailable (field : Dm4Field) : Nat := if field.size = 1 then na1Byte else na2Byte

namespace Dm4Record

variable (record : Dm4Record)

def params : Bytes :=
  [record.torqueMode, record.boost, record.speedLow, record.speedHigh, record.load, record.coolant,
    record.vehicleLow, record.vehicleHigh] ++ record.manufacturer

def body : Bytes := record.code.bytes ++ record.params

def encode : Bytes := UInt8.ofNat record.body.length :: record.body

def parameters : List (Dm4Field × Nat) :=
  dm4Fields.zip [record.boost.toNat, word record.speedLow record.speedHigh, record.load.toNat,
    record.coolant.toNat, word record.vehicleLow record.vehicleHigh]

def reported : Bool :=
  record.code.bytes != [0, 0, 0, 0] && record.code.conversionMethod == 0

def reading (parameter : Dm4Field × Nat) : Option (String × Rat) :=
  if parameter.2 < parameter.1.notAvailable then
    some (parameter.1.name, parameter.2 * parameter.1.scale + parameter.1.offset)
  else none

def frame : FreezeFrame where
  spn := record.code.spn
  fmi := record.code.fmi
  occurrenceCount := record.code.b3.toNat % 128
  readings := record.parameters.filterMap reading
  manufacturerBytes := record.manufacturer.length

end Dm4Record

/-- A test result as the standard lays it out. -/
structure Dm30Record where
  tid : UInt8
  b0 : UInt8
  b1 : UInt8
  b2 : UInt8
  slotLow : UInt8
  slotHigh : UInt8
  valueLow : UInt8
  valueHigh : UInt8
  maxLow : UInt8
  maxHigh : UInt8
  minLow : UInt8
  minHigh : UInt8

namespace Dm30Record

variable (record : Dm30Record)

def bytes : Bytes :=
  [record.tid, record.b0, record.b1, record.b2, record.slotLow, record.slotHigh, record.valueLow,
    record.valueHigh, record.maxLow, record.maxHigh, record.minLow, record.minHigh]

/-- The identification in the layout of DM1, without an occurrence count. -/
def code : DtcRecord := ⟨record.b0, record.b1, record.b2, 0⟩

def value : Nat := word record.valueLow record.valueHigh

def maximum : Nat := word record.maxLow record.maxHigh

def minimum : Nat := word record.minLow record.minHigh

def completed : Bool := decide (record.value < na2Byte) && record.code.spn != 0

def result : ScaledTestResult where
  spn := record.code.spn
  fmi := record.code.fmi
  tid := record.tid.toNat
  slot := word record.slotLow record.slotHigh
  rawValue := record.value
  rawMax := limitOf record.maximum
  rawMin := limitOf record.minimum

end Dm30Record

section FreezeFrames

theorem littleEndian_one (low : UInt8) : littleEndian [low] = low.toNat := by
  simp [littleEndian]

theorem littleEndian_two (low high : UInt8) : littleEndian [low, high] = word low high := by
  simp [littleEndian, word]

theorem method_eq (byte : UInt8) : byte.toNat >>> 7 = byte.toNat / 128 :=
  Nat.shiftRight_eq_div_pow ..

theorem Dm4Record.body_length (record : Dm4Record) :
    record.body.length = 12 + record.manufacturer.length := by
  unfold body params
  rw [List.length_append, List.length_append]
  change 4 + (8 + record.manufacturer.length) = _
  omega

theorem Dm4Field.reading_eq (field : Dm4Field) (params : Bytes) :
    field.reading params =
      Dm4Record.reading (field, littleEndian ((params.drop field.position).take field.size)) := by
  unfold Dm4Field.reading Dm4Record.reading
  change (if littleEndian ((params.drop field.position).take field.size) ≥ field.notAvailable then _
    else _) = _
  by_cases available :
      littleEndian ((params.drop field.position).take field.size) < field.notAvailable
  · rw [if_neg (Nat.not_le.mpr available), if_pos available]
  · rw [if_pos (Nat.le_of_not_lt available), if_neg available]

theorem Dm4Record.readings_eq (record : Dm4Record) :
    dm4Fields.filterMap (fun field => field.reading record.params) =
      record.parameters.filterMap reading := by
  have raws : record.parameters = dm4Fields.map (fun field =>
      (field, littleEndian ((record.params.drop field.position).take field.size))) := by
    unfold parameters
    rw [← littleEndian_one, ← littleEndian_one, ← littleEndian_one, ← littleEndian_two,
      ← littleEndian_two]
    rfl
  rw [raws, List.filterMap_map]
  congr 1
  funext field
  exact field.reading_eq record.params

theorem Dm4Record.decode_body (record : Dm4Record) :
    decodeFreezeFrame record.body = if record.reported then some record.frame else none := by
  have first : record.body.take 4 = record.code.bytes := rfl
  have rest : record.body.drop 4 = record.params := rfl
  have method : (record.body.getD 3 0).toNat >>> 7 = record.code.conversionMethod := method_eq _
  have count : (record.body.getD 3 0).toNat &&& 0x7F = record.code.b3.toNat % 128 :=
    Nat.and_two_pow_sub_one_eq_mod record.code.b3.toNat 7
  have size : record.body.length - dm4RequiredLen = record.manufacturer.length := by
    rw [record.body_length]
    exact Nat.add_sub_cancel_left 12 record.manufacturer.length
  have code : spnFmi (record.body.getD 0 0) (record.body.getD 1 0) (record.body.getD 2 0) =
      (record.code.spn, record.code.fmi) := spnFmi_fields record.code
  unfold decodeFreezeFrame
  dsimp only
  rw [first, rest, method, count, size, code, record.readings_eq]
  unfold reported
  by_cases zeros : record.code.bytes = [0, 0, 0, 0]
  · rw [if_pos (Or.inl zeros), zeros]
    rfl
  · by_cases plain : record.code.conversionMethod = 0
    · have noOnes : record.code.bytes ≠ [0xFF, 0xFF, 0xFF, 0xFF] := by
        intro ones
        have last : record.code.b3 = 0xFF := by
          injection ones with _ ones
          injection ones with _ ones
          injection ones with _ ones
          injection ones
        unfold DtcRecord.conversionMethod at plain
        rw [last] at plain
        exact absurd plain (by decide)
      rw [if_neg (by rintro (same | same); exacts [zeros same, noOnes same]),
        if_neg (not_not_intro plain), bne_iff_ne.mpr zeros, beq_iff_eq.mpr plain]
      rfl
    · have other : (record.code.conversionMethod == 0) = false := beq_false_of_ne plain
      rw [if_pos plain, ite_self, other, Bool.and_false]
      rfl

theorem decodeDm4From_eq {fuel : Nat} {payload : Bytes} (enough : payload.length ≤ fuel) :
    decodeDm4From fuel payload = decodeDm4 payload := by
  have both (left right : Nat) (payload : Bytes) (first : payload.length ≤ left)
      (second : payload.length ≤ right) :
      decodeDm4From left payload = decodeDm4From right payload := by
    induction left generalizing right payload with
    | zero =>
        rw [List.eq_nil_of_length_eq_zero (Nat.le_zero.mp first)]
        cases right <;> rfl
    | succ left ih =>
        cases payload with
        | nil => cases right <;> rfl
        | cons byte rest =>
            cases right with
            | zero => cases second
            | succ right =>
                unfold decodeDm4From
                dsimp only
                have less : (rest.drop byte.toNat).length ≤ rest.length := by
                  rw [List.length_drop]
                  exact Nat.sub_le ..
                rw [ih right (rest.drop byte.toNat) (less.trans (Nat.le_of_succ_le_succ first))
                  (less.trans (Nat.le_of_succ_le_succ second))]
  exact both fuel payload.length payload enough (Nat.le_refl _)

theorem decodeDm4_cons (byte : UInt8) (rest : Bytes) :
    decodeDm4 (byte :: rest) =
      if byte.toNat = 0xFF ∨ byte.toNat < dm4RequiredLen ∨ byte.toNat > rest.length then []
      else
        (decodeFreezeFrame (rest.take byte.toNat)).toList ++ decodeDm4 (rest.drop byte.toNat) := by
  have later : decodeDm4From rest.length (rest.drop byte.toNat) =
      decodeDm4 (rest.drop byte.toNat) := by
    refine decodeDm4From_eq ?_
    rw [List.length_drop]
    exact Nat.sub_le ..
  rw [← later]
  rfl

theorem decodeDm4_encode (record : Dm4Record) (rest : Bytes) :
    decodeDm4 (record.encode ++ rest) =
      (if record.reported then [record.frame] else []) ++ decodeDm4 rest := by
  have fits := record.fits
  have size := record.body_length
  have length : (UInt8.ofNat record.body.length).toNat = record.body.length :=
    UInt8.toNat_ofNat_of_lt' (show record.body.length < 256 by omega)
  change decodeDm4 (UInt8.ofNat record.body.length :: (record.body ++ rest)) = _
  have whole : ¬(record.body.length = 0xFF ∨ record.body.length < dm4RequiredLen ∨
      record.body.length > (record.body ++ rest).length) := by
    rw [List.length_append]
    unfold dm4RequiredLen
    omega
  rw [decodeDm4_cons, length, if_neg whole, List.take_left, List.drop_left, record.decode_body]
  cases record.reported with
  | true => rfl
  | false => rfl

theorem decodeDm4_records (records : List Dm4Record) (rest : Bytes) :
    decodeDm4 (records.flatMap Dm4Record.encode ++ rest) =
      (records.filter Dm4Record.reported).map Dm4Record.frame ++ decodeDm4 rest := by
  induction records with
  | nil => rfl
  | cons record records ih =>
      rw [List.flatMap_cons, List.append_assoc, decodeDm4_encode, ih, List.filter_cons]
      cases record.reported with
      | true => rfl
      | false => rfl

theorem decodeDm4_padding (count : Nat) : decodeDm4 (List.replicate count 0xFF) = [] := by
  cases count with
  | zero => rfl
  | succ count =>
      rw [List.replicate_succ, decodeDm4_cons]
      exact if_pos (Or.inl rfl)

theorem exists_record {body : Bytes} (long : 12 ≤ body.length) (short : body.length ≤ 254) :
    ∃ record : Dm4Record, record.body = body := by
  rcases body with _ | ⟨b0, _ | ⟨b1, _ | ⟨b2, _ | ⟨b3, _ | ⟨b4, _ | ⟨b5, _ | ⟨b6, _ | ⟨b7, _ | ⟨b8,
    _ | ⟨b9, _ | ⟨b10, _ | ⟨b11, rest⟩⟩⟩⟩⟩⟩⟩⟩⟩⟩⟩⟩
  case cons.cons.cons.cons.cons.cons.cons.cons.cons.cons.cons.cons =>
    refine ⟨⟨⟨b0, b1, b2, b3⟩, b4, b5, b6, b7, b8, b9, b10, b11, rest, ?_⟩, rfl⟩
    simp only [List.length_cons] at short
    omega
  all_goals
    simp only [List.length_cons, List.length_nil] at long
    omega

theorem decodeDm4_contained (payload : Bytes) :
    ∃ (records : List Dm4Record) (rest : Bytes),
      payload = records.flatMap Dm4Record.encode ++ rest ∧
      decodeDm4 payload = (records.filter Dm4Record.reported).map Dm4Record.frame := by
  have contained (limit : Nat) (payload : Bytes) (bound : payload.length ≤ limit) :
      ∃ (records : List Dm4Record) (rest : Bytes),
      payload = records.flatMap Dm4Record.encode ++ rest ∧
        decodeDm4 payload = (records.filter Dm4Record.reported).map Dm4Record.frame := by
    induction limit generalizing payload with
    | zero => exact ⟨[], payload, rfl, by rw [List.eq_nil_of_length_eq_zero (Nat.le_zero.mp bound)]; rfl⟩
    | succ limit ih =>
        cases payload with
        | nil => exact ⟨[], [], rfl, rfl⟩
        | cons byte rest =>
            rw [decodeDm4_cons]
            split
            · exact ⟨[], byte :: rest, rfl, rfl⟩
            · rename_i framed
              obtain ⟨notPadding, long, inside⟩ :
                  byte.toNat ≠ 0xFF ∧ 12 ≤ byte.toNat ∧ byte.toNat ≤ rest.length := by
                unfold dm4RequiredLen at framed
                omega
              have below := byte.toNat_lt
              have taken : (rest.take byte.toNat).length = byte.toNat := by
                rw [List.length_take]
                omega
              obtain ⟨record, body⟩ : ∃ record : Dm4Record, record.body = rest.take byte.toNat :=
                exists_record (by omega) (by omega)
              have fewer : (rest.drop byte.toNat).length ≤ limit := by
                rw [List.length_drop]
                rw [List.length_cons] at bound
                omega
              obtain ⟨records, tail, split, decoded⟩ := ih (rest.drop byte.toNat) fewer
              refine ⟨record :: records, tail, ?_, ?_⟩
              · have head : record.encode = byte :: rest.take byte.toNat := by
                  unfold Dm4Record.encode
                  rw [body, taken, UInt8.ofNat_toNat]
                rw [List.flatMap_cons, List.append_assoc, ← split, head, List.cons_append,
                  List.take_append_drop]
              · rw [decoded, ← body, record.decode_body, List.filter_cons]
                cases record.reported with
                | true => rfl
                | false => rfl
  exact contained payload.length payload (Nat.le_refl _)

theorem Dm4Record.reading_iff (record : Dm4Record) {field : Dm4Field} {raw : Nat}
    (member : (field, raw) ∈ record.parameters) :
    field.name ∈ record.frame.readings.map Prod.fst ↔ raw < field.notAvailable := by
  have names : (record.parameters.map (fun parameter => parameter.1.name)).Nodup := by
    change (dm4Fields.map Dm4Field.name).Nodup
    decide
  constructor
  · intro listed
    obtain ⟨entry, kept, same⟩ := List.mem_map.mp listed
    obtain ⟨other, found, read⟩ := List.mem_filterMap.mp kept
    unfold reading at read
    split at read
    · rename_i available
      cases read
      have equal : other = (field, raw) := List.inj_on_of_nodup_map names found member same
      rwa [equal] at available
    · cases read
  · intro available
    exact List.mem_map.mpr ⟨(field.name, raw * field.scale + field.offset),
      List.mem_filterMap.mpr ⟨(field, raw), member, if_pos available⟩, rfl⟩

end FreezeFrames

section TestResults

theorem Dm30Record.decode_bytes (record : Dm30Record) :
    decodeDm30Record record.bytes = if record.completed then some record.result else none := by
  have code : spnFmi record.b0 record.b1 record.b2 = (record.code.spn, record.code.fmi) :=
    spnFmi_fields record.code
  change (if littleEndian [record.valueLow, record.valueHigh] ≥ na2Byte ∨
      (spnFmi record.b0 record.b1 record.b2).1 = 0 then none
    else some (⟨(spnFmi record.b0 record.b1 record.b2).1, (spnFmi record.b0 record.b1 record.b2).2,
      record.tid.toNat, littleEndian [record.slotLow, record.slotHigh],
      littleEndian [record.valueLow, record.valueHigh],
      limitOf (littleEndian [record.maxLow, record.maxHigh]),
      limitOf (littleEndian [record.minLow, record.minHigh])⟩ : ScaledTestResult)) = _
  rw [code, littleEndian_two, littleEndian_two, littleEndian_two, littleEndian_two]
  unfold completed
  by_cases available : record.value < na2Byte
  · by_cases none : record.code.spn = 0
    · rw [if_pos (Or.inr none), none, bne_self_eq_false, Bool.and_false]
      rfl
    · have neither : ¬(word record.valueLow record.valueHigh ≥ na2Byte ∨ record.code.spn = 0) :=
        fun either => either.elim (Nat.not_le.mpr available) none
      rw [if_neg neither, decide_eq_true available, bne_iff_ne.mpr none]
      rfl
  · have beyond : word record.valueLow record.valueHigh ≥ na2Byte ∨ record.code.spn = 0 :=
      Or.inl (Nat.le_of_not_lt available)
    rw [if_pos beyond, decide_eq_false available, Bool.false_and]
    rfl

theorem decodeDm30_bytes (record : Dm30Record) (rest : Bytes) :
    decodeDm30 (record.bytes ++ rest) =
      (if record.completed then [record.result] else []) ++ decodeDm30 rest := by
  have count : (record.bytes ++ rest).length / 12 = rest.length / 12 + 1 := by
    rw [List.length_append, Nat.add_comm]
    exact Nat.add_div_right rest.length (Nat.succ_pos 11)
  have later : (fun index => decodeDm30Record
      (((record.bytes ++ rest).drop (Nat.succ index * 12)).take 12)) =
        fun index => decodeDm30Record ((rest.drop (index * 12)).take 12) := by
    funext index
    rw [Nat.succ_mul]
    rfl
  have first : decodeDm30Record (((record.bytes ++ rest).drop (0 * 12)).take 12) =
      if record.completed then some record.result else none := record.decode_bytes
  unfold decodeDm30
  rw [count, List.range_succ_eq_map, List.filterMap_cons, List.filterMap_map, first,
    Function.comp_def, later]
  cases record.completed with
  | true => rfl
  | false => rfl

theorem decodeDm30_records (records : List Dm30Record) (rest : Bytes) :
    decodeDm30 (records.flatMap Dm30Record.bytes ++ rest) =
      (records.filter Dm30Record.completed).map Dm30Record.result ++ decodeDm30 rest := by
  induction records with
  | nil => rfl
  | cons record records ih =>
      rw [List.flatMap_cons, List.append_assoc, decodeDm30_bytes, ih, List.filter_cons]
      cases record.completed with
      | true => rfl
      | false => rfl

theorem decodeDm30_short {payload : Bytes} (short : payload.length < 12) :
    decodeDm30 payload = [] := by
  unfold decodeDm30
  rw [Nat.div_eq_of_lt short]
  rfl

theorem exists_dm30Records (payload : Bytes) :
    ∃ (records : List Dm30Record) (rest : Bytes),
      payload = records.flatMap Dm30Record.bytes ++ rest ∧ rest.length < 12 := by
  have split (limit : Nat) (payload : Bytes) (bound : payload.length ≤ limit) :
      ∃ (records : List Dm30Record) (rest : Bytes),
        payload = records.flatMap Dm30Record.bytes ++ rest ∧ rest.length < 12 := by
    induction limit generalizing payload with
    | zero =>
        exact ⟨[], payload, rfl, Nat.lt_of_le_of_lt bound (Nat.succ_pos 11)⟩
    | succ limit ih =>
        rcases payload with _ | ⟨b0, _ | ⟨b1, _ | ⟨b2, _ | ⟨b3, _ | ⟨b4, _ | ⟨b5, _ | ⟨b6, _ | ⟨b7,
          _ | ⟨b8, _ | ⟨b9, _ | ⟨b10, _ | ⟨b11, rest⟩⟩⟩⟩⟩⟩⟩⟩⟩⟩⟩⟩
        case cons.cons.cons.cons.cons.cons.cons.cons.cons.cons.cons.cons =>
          have fewer : rest.length ≤ limit := by
            simp only [List.length_cons] at bound
            omega
          obtain ⟨records, tail, whole, short⟩ := ih rest fewer
          exact ⟨⟨b0, b1, b2, b3, b4, b5, b6, b7, b8, b9, b10, b11⟩ :: records, tail,
            congrArg ([b0, b1, b2, b3, b4, b5, b6, b7, b8, b9, b10, b11] ++ ·) whole, short⟩
        all_goals exact ⟨[], _, rfl, by simp⟩
  exact split payload.length payload (Nat.le_refl _)

theorem decodeDm30_contained (payload : Bytes) :
    ∃ (records : List Dm30Record) (rest : Bytes),
      payload = records.flatMap Dm30Record.bytes ++ rest ∧ rest.length < 12 ∧
        decodeDm30 payload = (records.filter Dm30Record.completed).map Dm30Record.result := by
  obtain ⟨records, rest, whole, short⟩ := exists_dm30Records payload
  refine ⟨records, rest, whole, short, ?_⟩
  rw [whole, decodeDm30_records, decodeDm30_short short, List.append_nil]

theorem limitOf_verdict (raw : Nat) (fits : Nat → Bool) :
    (match limitOf raw with
      | none => true
      | some limit => fits limit) = true ↔ (raw < na2Byte → fits raw = true) := by
  by_cases available : raw < na2Byte
  · have limit : limitOf raw = some raw := if_neg (Nat.not_le.mpr available)
    rw [limit]
    exact ⟨fun fitting _ => fitting, fun fitting => fitting available⟩
  · have limit : limitOf raw = none := if_pos (Nat.le_of_not_lt available)
    rw [limit]
    exact iff_of_true rfl (fun below => absurd below available)

/-- The verdict is about the limits that are available. -/
theorem Dm30Record.passed_iff (record : Dm30Record) :
    record.result.passed = true ↔
      (record.minimum < na2Byte → record.minimum ≤ record.value) ∧
        (record.maximum < na2Byte → record.value ≤ record.maximum) := by
  have lower := limitOf_verdict record.minimum (fun low => decide (record.value ≥ low))
  have upper := limitOf_verdict record.maximum (fun high => decide (record.value ≤ high))
  rw [decide_eq_true_iff] at lower upper
  exact Bool.and_eq_true_iff.trans (and_congr lower upper)

end TestResults

/-- Both payloads are decoded record by record: the padding and a record that is cut short give
nothing. -/
theorem dmResults_framed :
    (∀ (records : List Dm4Record) (padding : Nat),
        decodeDm4 (records.flatMap Dm4Record.encode ++ List.replicate padding 0xFF) =
          (records.filter Dm4Record.reported).map Dm4Record.frame) ∧
      (∀ (record : Dm4Record) (field : Dm4Field) (raw : Nat), (field, raw) ∈ record.parameters →
        (field.name ∈ record.frame.readings.map Prod.fst ↔ raw < field.notAvailable)) ∧
      (∀ records : List Dm30Record,
        decodeDm30 (records.flatMap Dm30Record.bytes) =
          (records.filter Dm30Record.completed).map Dm30Record.result) ∧
      (∀ record : Dm30Record, record.result.passed = true ↔
        (record.minimum < na2Byte → record.minimum ≤ record.value) ∧
          (record.maximum < na2Byte → record.value ≤ record.maximum)) ∧
      (∀ payload, ∃ (records : List Dm4Record) (rest : Bytes),
        payload = records.flatMap Dm4Record.encode ++ rest ∧
          decodeDm4 payload = (records.filter Dm4Record.reported).map Dm4Record.frame) ∧
      (∀ payload, ∃ (records : List Dm30Record) (rest : Bytes),
        payload = records.flatMap Dm30Record.bytes ++ rest ∧ rest.length < 12 ∧
          decodeDm30 payload = (records.filter Dm30Record.completed).map Dm30Record.result) ∧
      ∀ (payload : Bytes) (more : Nat),
        decodeDm4From (payload.length + more) payload = decodeDm4 payload := by
  refine ⟨?_, ?_, ?_, Dm30Record.passed_iff, decodeDm4_contained, decodeDm30_contained, ?_⟩
  · intro records padding
    rw [decodeDm4_records, decodeDm4_padding, List.append_nil]
  · intro record field raw member
    exact record.reading_iff member
  · intro records
    have whole := decodeDm30_records records []
    have nothing : decodeDm30 [] = [] := decodeDm30_short (Nat.succ_pos 11)
    rwa [nothing, List.append_nil, List.append_nil] at whole
  · intro payload more
    exact decodeDm4From_eq (Nat.le_add_right ..)

end Ucanlab.J1939
