import Ucanlab.Engine.Diagnosis.ObdReader

/-!
Calibration identifiers and verification numbers of a passenger car. The identifiers are filtered
before they are joined to the numbers by their place in the list, so an identifier that is dropped
moves the numbers of the ones behind it.
-/

namespace Ucanlab.Obd

open J1939 (asciiField upperHexText)

def itemsAnswer (infotype : UInt8) (parts : List Bytes) : Bytes :=
  0x49 :: infotype :: UInt8.ofNat parts.length :: parts.flatten

theorem chunks_flatten {size : Nat} {parts : List Bytes}
    (sized : ∀ part ∈ parts, part.length = size) :
    (List.range parts.length).map (fun index => (parts.flatten.drop (index * size)).take size) =
      parts := by
  induction parts with
  | nil => rfl
  | cons part parts ih =>
      have long := sized part List.mem_cons_self
      have later (index : Nat) :
          ((part :: parts).flatten.drop ((index + 1) * size)).take size =
            (parts.flatten.drop (index * size)).take size := by
        rw [List.flatten_cons, Nat.add_mul, Nat.one_mul, Nat.add_comm, ← List.drop_drop, ← long,
          List.drop_left]
      rw [List.length_cons, List.range_succ_eq_map, List.map_cons, List.map_map, Nat.zero_mul,
        List.drop_zero, List.flatten_cons, ← long, List.take_left]
      congr 1
      rw [long]
      refine Eq.trans (List.map_congr_left (fun index _ => ?_))
        (ih (fun other member => sized other (List.mem_cons_of_mem _ member)))
      exact later index

theorem items_answer {infotype size : Nat} {parts : List Bytes} (known : infotype < 256)
    (positive : 0 < size) (sized : ∀ part ∈ parts, part.length = size)
    (few : parts.length < 256) :
    items (itemsAnswer (UInt8.ofNat infotype) parts) infotype size = .ok parts := by
  have length : parts.flatten.length = parts.length * size := by
    rw [List.length_flatten, List.map_congr_left sized, List.map_const', List.sum_replicate_nat]
  have echoed : (UInt8.ofNat infotype).toNat = infotype := by
    rw [UInt8.toNat_ofNat', Nat.mod_eq_of_lt known]
  have count : (UInt8.ofNat parts.length).toNat = parts.length := by
    rw [UInt8.toNat_ofNat', Nat.mod_eq_of_lt few]
  unfold items itemsAnswer
  dsimp only
  rw [if_neg (by rw [echoed]; exact fun either => either.elim (fun odd => odd rfl) (fun odd => odd rfl)),
    count, length, Nat.mul_div_cancel _ positive, Nat.min_self, chunks_flatten sized]

end Ucanlab.Obd

namespace Ucanlab.Diagnosis

open Ucanlab Obd J1939 Dialogue

section Places

variable {α β γ : Type}

theorem zipIdx_filterMap_iff (items : List α) (choose : α → Option β) (entry : Nat → γ)
    (first place : Nat) :
    ((items.filterMap choose).zipIdx first).map (fun item => (item.1, entry item.2)) =
        (items.zipIdx place).filterMap (fun item =>
          (choose item.1).map (fun chosen => (chosen, entry item.2))) ↔
      ∀ k item, items[k]? = some item → (choose item).isSome = true →
        entry (first + ((items.take k).filterMap choose).length) = entry (place + k) := by
  induction items generalizing first place with
  | nil => exact ⟨fun _ _ _ absent => (nomatch absent), fun _ => rfl⟩
  | cons head items ih =>
      have shift (k : Nat) : place + 1 + k = place + (k + 1) := by omega
      rw [List.zipIdx_cons, List.filterMap_cons, List.filterMap_cons]
      cases chosen : choose head with
      | none =>
          dsimp only [Option.map_none]
          rw [ih first (place + 1)]
          constructor
          · intro aligned k item found some
            cases k with
            | zero =>
                cases found
                rw [chosen] at some
                cases some
            | succ k =>
                rw [List.take_succ_cons, List.filterMap_cons, chosen, ← shift]
                exact aligned k item found some
          · intro aligned k item found some
            have later := aligned (k + 1) item found some
            rw [List.take_succ_cons, List.filterMap_cons, chosen, ← shift] at later
            exact later
      | some value =>
          dsimp only [Option.map_some]
          rw [List.zipIdx_cons, List.map_cons, List.cons.injEq, ih (first + 1) (place + 1)]
          constructor
          · rintro ⟨here, aligned⟩ k item found some
            cases k with
            | zero => exact (Prod.mk.inj here).2
            | succ k =>
                have later := aligned k item found some
                rw [List.take_succ_cons, List.filterMap_cons, chosen, List.length_cons, ← shift,
                  ← later]
                congr 1
                omega
          · intro aligned
            constructor
            · exact Prod.ext rfl (aligned 0 head rfl (by rw [chosen]; rfl))
            · intro k item found some
              have later := aligned (k + 1) item found some
              rw [List.take_succ_cons, List.filterMap_cons, chosen, List.length_cons, ← shift] at later
              rw [← later]
              congr 1
              omega

end Places

namespace ObdRead

variable {read : ObdRead} {ecu : ObdEcu}

section Steps

variable {α β : Type} {program : CarReader α} {next : α → CarReader β} {soFar : β} {value : α}
  {decode : Bytes → Except ResponseError α} {unanswered : α} {infotype : Nat} {raw : Bytes}
  {state after : CarState}

theorem orKeep_of_ok (ran : program state = (.ok value, after)) :
    orKeep soFar program next state = next value after := by
  unfold orKeep
  refine (bind_of_ok (show _ = (Except.ok (some value), after) from ?_)).trans rfl
  unfold Dialogue.catching
  rw [bind_of_ok ran]
  rfl

theorem orKeep_of_value (ran : program state = (.error .value, after)) :
    orKeep soFar program next state = (.ok soFar, after) := by
  unfold orKeep
  refine (bind_of_ok (show _ = (Except.ok none, after) from ?_)).trans rfl
  unfold Dialogue.catching
  rw [bind_of_error ran]
  rfl

theorem ask_of_result
    (answered : asked (read.pollVehicleInfoOnce ecu infotype) state = (.ok (.result raw), after)) :
    read.ask ecu infotype decode unanswered state =
      (match decode raw with
        | .ok result => .ok result
        | .error _ => .error .value, after) := bind_of_ok answered

theorem ask_of_none {outcome : Asked Bytes} (silent : ∀ raw, outcome ≠ .result raw)
    (answered : asked (read.pollVehicleInfoOnce ecu infotype) state = (.ok outcome, after)) :
    read.ask ecu infotype decode unanswered state = (.ok unanswered, after) := by
  cases outcome with
  | result raw => exact absurd rfl (silent raw)
  | timedOut => exact bind_of_ok answered
  | rejected => exact bind_of_ok answered

end Steps

/-- An answer that ends the identity read where it has come to. -/
def malformed {α : Type} (decode : Bytes → Except ResponseError α) : Asked Bytes → Bool
  | .result raw =>
      match decode raw with
      | .error _ => true
      | .ok _ => false
  | _ => false

theorem ask_cases {α : Type} {decode : Bytes → Except ResponseError α} {unanswered : α}
    {infotype : Nat} {state after : CarState} {outcome : Asked Bytes}
    (answered : asked (read.pollVehicleInfoOnce ecu infotype) state = (.ok outcome, after)) :
    (malformed decode outcome = true ∧
        read.ask ecu infotype decode unanswered state = (.error .value, after)) ∨
      (malformed decode outcome = false ∧
        ∃ value, read.ask ecu infotype decode unanswered state = (.ok value, after)) := by
  cases outcome with
  | timedOut =>
      refine Or.inr ⟨rfl, unanswered, ask_of_none ?_ answered⟩
      intro raw same
      cases same
  | rejected =>
      refine Or.inr ⟨rfl, unanswered, ask_of_none ?_ answered⟩
      intro raw same
      cases same
  | result raw =>
      have asks := @ask_of_result read ecu α decode unanswered infotype raw state after answered
      cases decodes : decode raw with
      | error error =>
          rw [decodes] at asks
          refine Or.inl ⟨?_, asks⟩
          simp only [malformed, decodes]
      | ok value =>
          rw [decodes] at asks
          refine Or.inr ⟨?_, value, asks⟩
          simp only [malformed, decodes]

end ObdRead

/-- The answers of one controller to the four questions of an identity read: well-formed ones with
the calibration identifiers and their verification numbers, and to the other two whatever it says.
The numbers are asked for where an identifier could be read. -/
structure IdentityAnswers (read : ObdRead) (ecu : ObdEcu) (ids cvns : List Bytes)
    (start : CarState) where
  vin : Asked Bytes
  name : Asked Bytes
  afterVin : CarState
  afterIds : CarState
  afterCvns : CarState
  last : CarState
  idSizes : ∀ id ∈ ids, id.length = 16
  idCount : ids.length < 256
  cvnSizes : ∀ cvn ∈ cvns, cvn.length = 4
  cvnCount : cvns.length < 256
  vinAsked : ObdRead.asked (read.pollVehicleInfoOnce ecu infotypeVin) start = (.ok vin, afterVin)
  idsAsked : ObdRead.asked (read.pollVehicleInfoOnce ecu infotypeCalId) afterVin =
    (.ok (.result (itemsAnswer 0x04 ids)), afterIds)
  cvnsAsked : ObdRead.asked (read.pollVehicleInfoOnce ecu infotypeCvn) afterIds =
    (.ok (.result (itemsAnswer 0x06 cvns)), afterCvns)
  nameAsked : ObdRead.asked (read.pollVehicleInfoOnce ecu infotypeEcuName)
    (if ids.filterMap asciiField = [] then afterIds else afterCvns) = (.ok name, last)

/-- The verification number at a place, empty where there is none. -/
def cvnAt (cvns : List Bytes) (k : Nat) : List Char := (cvns.map upperHexText).getD k []

/-- Each readable identifier with the number at its own place. -/
def pairedCalibrations (ids cvns : List Bytes) : List Calibration :=
  ids.zipIdx.filterMap (fun item =>
    (asciiField item.1).map (fun calId => { calId := calId, cvn := cvnAt cvns item.2 }))

namespace IdentityAnswers

variable {read : ObdRead} {ecu : ObdEcu} {ids cvns : List Bytes} {start : CarState}

theorem readVehicleIdentity_calibrations (answers : IdentityAnswers read ecu ids cvns start) :
    ∃ identity last, read.readVehicleIdentity ecu start = (.ok identity, last) ∧
      identity.calibrations = if ObdRead.malformed decodeVin answers.vin then [] else
        ObdRead.calibrationsOf (ids.filterMap asciiField) (cvns.map upperHexText) := by
  unfold ObdRead.readVehicleIdentity
  rcases @ObdRead.ask_cases read ecu _ decodeVin none _ _ _ _ answers.vinAsked with
    ⟨bad, vinAsks⟩ | ⟨good, vin, vinAsks⟩
  · rw [ObdRead.orKeep_of_value vinAsks, if_pos bad]
    exact ⟨_, _, rfl, rfl⟩
  · have idsDecode : decodeCalIds (itemsAnswer 0x04 ids) = .ok (ids.filterMap asciiField) := by
      have parts := items_answer (by decide : infotypeCalId < 256) (by decide : 0 < 16)
        answers.idSizes answers.idCount
      change items (itemsAnswer 0x04 ids) infotypeCalId 16 = .ok ids at parts
      unfold decodeCalIds
      rw [parts]
    have cvnsDecode : decodeCvns (itemsAnswer 0x06 cvns) = .ok (cvns.map upperHexText) := by
      have parts := items_answer (by decide : infotypeCvn < 256) (by decide : 0 < 4)
        answers.cvnSizes answers.cvnCount
      change items (itemsAnswer 0x06 cvns) infotypeCvn 4 = .ok cvns at parts
      unfold decodeCvns
      rw [parts]
    have idsAsks := @ObdRead.ask_of_result read ecu _ decodeCalIds [] _ _ _ _ answers.idsAsked
    have cvnsAsks := @ObdRead.ask_of_result read ecu _ decodeCvns [] _ _ _ _ answers.cvnsAsked
    rw [idsDecode] at idsAsks
    rw [cvnsDecode] at cvnsAsks
    rw [good, if_neg Bool.false_ne_true, ObdRead.orKeep_of_ok vinAsks,
      ObdRead.orKeep_of_ok idsAsks]
    have named := answers.nameAsked
    by_cases unread : ids.filterMap asciiField = []
    · rw [if_pos unread] at named
      rw [unread, if_pos rfl]
      have skipped : (pure [] : CarReader (List (List Char))) answers.afterIds =
          (.ok [], answers.afterIds) := rfl
      rw [ObdRead.orKeep_of_ok skipped]
      rcases @ObdRead.ask_cases read ecu _ decodeEcuName none _ _ _ _ named with
        ⟨-, nameAsks⟩ | ⟨-, name, nameAsks⟩
      · rw [ObdRead.orKeep_of_value nameAsks]
        exact ⟨_, _, rfl, rfl⟩
      · rw [ObdRead.orKeep_of_ok nameAsks]
        exact ⟨_, _, rfl, rfl⟩
    · rw [if_neg unread] at named
      rw [if_neg unread, ObdRead.orKeep_of_ok cvnsAsks]
      rcases @ObdRead.ask_cases read ecu _ decodeEcuName none _ _ _ _ named with
        ⟨-, nameAsks⟩ | ⟨-, name, nameAsks⟩
      · rw [ObdRead.orKeep_of_value nameAsks]
        exact ⟨_, _, rfl, rfl⟩
      · rw [ObdRead.orKeep_of_ok nameAsks]
        exact ⟨_, _, rfl, rfl⟩

def readableBefore (ids : List Bytes) (k : Nat) : Nat := ((ids.take k).filterMap asciiField).length

theorem calibrationsOf_eq_iff (ids cvns : List Bytes) :
    ObdRead.calibrationsOf (ids.filterMap asciiField) (cvns.map upperHexText) =
        pairedCalibrations ids cvns ↔
      ∀ k id, ids[k]? = some id → (asciiField id).isSome = true →
        cvnAt cvns (readableBefore ids k) = cvnAt cvns k := by
  have aligned := zipIdx_filterMap_iff ids asciiField (cvnAt cvns) 0 0
  simp only [Nat.zero_add] at aligned
  refine Iff.trans ?_ aligned
  have actual : ObdRead.calibrationsOf (ids.filterMap asciiField) (cvns.map upperHexText) =
      (((ids.filterMap asciiField).zipIdx 0).map (fun item => (item.1, cvnAt cvns item.2))).map
        (fun pair => ({ calId := pair.1, cvn := pair.2 } : Calibration)) := by
    rw [List.map_map]
    rfl
  have expected : pairedCalibrations ids cvns =
      ((ids.zipIdx 0).filterMap (fun item =>
        (asciiField item.1).map (fun chosen => (chosen, cvnAt cvns item.2)))).map
        (fun pair => ({ calId := pair.1, cvn := pair.2 } : Calibration)) := by
    rw [List.map_filterMap]
    unfold pairedCalibrations
    simp only [Option.map_map, Function.comp_def]
  rw [actual, expected]
  apply List.map_inj_right
  rintro ⟨calId, cvn⟩ ⟨other, number⟩ same
  cases same
  rfl

/-- Every readable identifier is reported with the number at its place, and nothing else, exactly if
each of them has the number that stands behind the readable ones, and the vehicle number was not
answered with two bytes alone. -/
theorem calibrations_paired_iff (answers : IdentityAnswers read ecu ids cvns start) :
    (∃ identity last, read.readVehicleIdentity ecu start = (.ok identity, last) ∧
        identity.calibrations = pairedCalibrations ids cvns) ↔
      ∀ k id, ids[k]? = some id → (asciiField id).isSome = true →
        ObdRead.malformed decodeVin answers.vin = false ∧
          cvnAt cvns (readableBefore ids k) = cvnAt cvns k := by
  obtain ⟨identity, last, ran, reported⟩ := answers.readVehicleIdentity_calibrations
  have only : (∃ identity last, read.readVehicleIdentity ecu start = (.ok identity, last) ∧
      identity.calibrations = pairedCalibrations ids cvns) ↔
      identity.calibrations = pairedCalibrations ids cvns := by
    constructor
    · rintro ⟨other, reached, same, paired⟩
      rw [ran] at same
      cases same
      exact paired
    · intro paired
      exact ⟨identity, last, ran, paired⟩
  rw [only, reported]
  cases bad : ObdRead.malformed decodeVin answers.vin with
  | false =>
      rw [if_neg Bool.false_ne_true, calibrationsOf_eq_iff]
      exact forall₂_congr (fun k id => imp_congr_right (fun _ => imp_congr_right (fun _ =>
        (and_iff_right rfl).symm)))
  | true =>
      rw [if_pos rfl]
      constructor
      · intro none k id found readable
        obtain ⟨calId, chosen⟩ := Option.isSome_iff_exists.mp readable
        have member : (id, k) ∈ ids.zipIdx := List.mk_mem_zipIdx_iff_getElem?.mpr found
        have entry : ({ calId := calId, cvn := cvnAt cvns k } : Calibration) ∈
            pairedCalibrations ids cvns :=
          List.mem_filterMap.mpr ⟨(id, k), member, by rw [chosen]; rfl⟩
        rw [← none] at entry
        cases entry
      · intro readable
        symm
        apply List.filterMap_eq_nil_iff.mpr
        rintro ⟨id, k⟩ member
        have found := List.mk_mem_zipIdx_iff_getElem?.mp member
        rw [Option.map_eq_none_iff, ← Option.not_isSome_iff_eq_none]
        intro chosen
        exact nomatch (readable k id found chosen).1

end IdentityAnswers

section Cars

def engineFrames (frames : List Bytes) : List ObdArrival :=
  frames.filterMap (fun data =>
    match CanFrame.new { channelId := "can0", arbitrationId := 0x7E8, dlc := 8, data := data } with
    | .ok frame => some ⟨0, 0, 0, frame⟩
    | .error _ => none)

def answeringCar (calIds cvns : List Bytes) : ObdRead where
  port := { refuses := fun _ _ => none }
  bus := fun log =>
    match ((handed log).getLast?.map (fun frame => frame.data.getD 2 0)).getD 0 with
    | 0x04 => engineFrames calIds
    | 0x06 => engineFrames cvns
    | _ => []
  channelId := "can0"
  decode := fun _ _ => ⟨false, [], none⟩

def engineEcu : ObdEcu :=
  ⟨0x7E0, 0x7E8, "Motor kontrol ünitesi", "Engine control unit", engine_permitted⟩

def asksStart (read : ObdRead) : CarState := { link := read.transportFor engineEcu }

def oneCalibration : ObdRead :=
  answeringCar [[0x10, 0x13, 0x49, 0x04, 0x01, 0x43, 0x41, 0x4C],
      [0x21, 0x2D, 0x31, 0x00, 0x00, 0x00, 0x00, 0x00],
      [0x22, 0x00, 0x00, 0x00, 0x00, 0x00, 0x00, 0x55]]
    [[0x07, 0x49, 0x06, 0x01, 0x12, 0x34, 0x56, 0x78]]

/-- The answers, from the runs of the four questions. -/
def answersOf (read : ObdRead) (ids cvns : List Bytes) (vin name : Asked Bytes)
    (sizes : (∀ id ∈ ids, id.length = 16) ∧ ids.length < 256 ∧ (∀ cvn ∈ cvns, cvn.length = 4) ∧
      cvns.length < 256)
    (readable : ids.filterMap asciiField ≠ [])
    (ran : let asks := fun infotype state =>
        ObdRead.asked (read.pollVehicleInfoOnce engineEcu infotype) state
      let afterVin := (asks infotypeVin (asksStart read)).2
      let afterIds := (asks infotypeCalId afterVin).2
      let afterCvns := (asks infotypeCvn afterIds).2
      (asks infotypeVin (asksStart read)).1 = .ok vin ∧
        (asks infotypeCalId afterVin).1 = .ok (.result (itemsAnswer 0x04 ids)) ∧
        (asks infotypeCvn afterIds).1 = .ok (.result (itemsAnswer 0x06 cvns)) ∧
        (asks infotypeEcuName afterCvns).1 = .ok name) :
    IdentityAnswers read engineEcu ids cvns (asksStart read) where
  vin := vin
  name := name
  afterVin := _
  afterIds := _
  afterCvns := _
  last := _
  idSizes := sizes.1
  idCount := sizes.2.1
  cvnSizes := sizes.2.2.1
  cvnCount := sizes.2.2.2
  vinAsked := Prod.ext ran.1 rfl
  idsAsked := Prod.ext ran.2.1 rfl
  cvnsAsked := Prod.ext ran.2.2.1 rfl
  nameAsked := by
    rw [if_neg readable]
    exact Prod.ext ran.2.2.2 rfl

theorem calibrations_paired_one :
    ∃ identity last, oneCalibration.readVehicleIdentity engineEcu (asksStart oneCalibration) =
        (.ok identity, last) ∧
      identity.calibrations =
        pairedCalibrations [[0x43, 0x41, 0x4C, 0x2D, 0x31, 0, 0, 0, 0, 0, 0, 0, 0, 0, 0, 0]]
          [[0x12, 0x34, 0x56, 0x78]] := by
  refine (IdentityAnswers.calibrations_paired_iff (answersOf oneCalibration _ _ .timedOut .timedOut
    (by decide) (by decide) (by decide +kernel))).mpr ?_
  intro k id found _
  cases k with
  | zero => exact ⟨rfl, rfl⟩
  | succ k => cases found

/-- An unreadable identifier in front of `CAL-2`. -/
def blankFirst : ObdRead :=
  answeringCar [[0x10, 0x23, 0x49, 0x04, 0x02, 0x00, 0x00, 0x00],
      [0x21, 0x00, 0x00, 0x00, 0x00, 0x00, 0x00, 0x00],
      [0x22, 0x00, 0x00, 0x00, 0x00, 0x00, 0x00, 0x43],
      [0x23, 0x41, 0x4C, 0x2D, 0x32, 0x00, 0x00, 0x00],
      [0x24, 0x00, 0x00, 0x00, 0x00, 0x00, 0x00, 0x00],
      [0x25, 0x00, 0x55, 0x55, 0x55, 0x55, 0x55, 0x55]]
    [[0x10, 0x0B, 0x49, 0x06, 0x02, 0x11, 0x11, 0x11],
      [0x21, 0x11, 0x22, 0x22, 0x22, 0x22, 0x55, 0x55]]

/-- `CAL-2` is reported with the number of the identifier in front of it. -/
theorem blank_first_shifts_number :
    ¬ ∀ (read : ObdRead) (ecu : ObdEcu) (ids cvns : List Bytes) (start : CarState)
      (answers : IdentityAnswers read ecu ids cvns start),
        answers.vin = .timedOut → ∃ identity last,
          read.readVehicleIdentity ecu start = (.ok identity, last) ∧
            identity.calibrations = pairedCalibrations ids cvns := by
  intro paired
  obtain ⟨identity, last, ran, same⟩ := paired blankFirst engineEcu
    [List.replicate 16 0, [0x43, 0x41, 0x4C, 0x2D, 0x32, 0, 0, 0, 0, 0, 0, 0, 0, 0, 0, 0]]
    [[0x11, 0x11, 0x11, 0x11], [0x22, 0x22, 0x22, 0x22]] (asksStart blankFirst)
    (answersOf blankFirst _ _ .timedOut .timedOut (by decide) (by decide) (by decide +kernel)) rfl
  have reported : (blankFirst.readVehicleIdentity engineEcu (asksStart blankFirst)).1 =
      .ok { calibrations := [⟨['C', 'A', 'L', '-', '2'], ['1', '1', '1', '1', '1', '1', '1', '1']⟩] } := by
    decide +kernel
  rw [ran] at reported
  cases reported
  exact absurd same (by decide +kernel)

end Cars

end Ucanlab.Diagnosis
