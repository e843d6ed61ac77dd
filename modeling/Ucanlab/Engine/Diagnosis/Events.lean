import Mathlib.Data.List.TakeWhile
import Ucanlab.Protocols.J1939.Diagnostics

/-!
Observed trouble codes as diagnostic events. The knowledge base supplies the severity only.
-/

namespace Ucanlab.Engine.Diagnosis

open Ucanlab Ucanlab.J1939

inductive Severity where
  | unknown
  | info
  | low
  | medium
  | high
  | criticalStop
  deriving DecidableEq, Repr

/-- The allowlist, by the texts of its members. -/
def Severity.ofText (text : String) : Option Severity :=
  if text = "UNKNOWN" then some .unknown
  else if text = "INFO" then some .info
  else if text = "LOW" then some .low
  else if text = "MEDIUM" then some .medium
  else if text = "HIGH" then some .high
  else if text = "CRITICAL_STOP" then some .criticalStop
  else none

inductive DiagnosticDomain where
  | heavyDuty
  | passenger
  | marine
  | industrial
  | agriculture
  deriving DecidableEq, Repr

inductive EventStatus where
  | active
  | history
  | pending
  deriving DecidableEq, Repr

inductive EventError where
  | emptyCode
  | negativeTimestamp
  deriving DecidableEq, Repr

structure DiagnosticEvent where
  timestampNs : Int
  code : List Char
  domain : DiagnosticDomain
  severity : Severity
  status : EventStatus
  deriving DecidableEq, Repr

/-- The checks of `__post_init__`. -/
def DiagnosticEvent.new (event : DiagnosticEvent) : Except EventError DiagnosticEvent :=
  if pyStrip event.code = [] then .error .emptyCode
  else if event.timestampNs < 0 then .error .negativeTimestamp
  else .ok event

structure SpnEntry where
  faultMatrix : List Char → Option (Option String)

/-- The parameters of the knowledge base, by the texts of their keys. -/
abbrev SpnDatabase := List Char → Option SpnEntry

def kbSeverity (raw : Option String) : Severity :=
  match raw with
  | none => .unknown
  | some text => if text = "" then .unknown else (Severity.ofText text).getD .unknown

def SpnDatabase.severity (spnDb : SpnDatabase) (spn fmi : Nat) : Severity :=
  match spnDb ("SPN_".toList ++ decimalText spn) with
  | none => .unknown
  | some entry =>
      match entry.faultMatrix (decimalText fmi) with
      | none => .unknown
      | some raw => kbSeverity raw

def dtcEvent (spnDb : SpnDatabase) (timestampNs : Int) (dtc : DiagnosticTroubleCode) :
    Option DiagnosticEvent :=
  if dtc.spn = 0 ∨ dtc.spn = 0xFF then none
  else
    (DiagnosticEvent.new {
      timestampNs := timestampNs
      code := dtcText dtc.spn dtc.fmi
      domain := .heavyDuty
      severity := spnDb.severity dtc.spn dtc.fmi
      status := .active }).toOption

def dm1ToEvents (spnDb : SpnDatabase) (dtcs : List DiagnosticTroubleCode) (timestampNs : Int) :
    List DiagnosticEvent :=
  dtcs.filterMap (dtcEvent spnDb timestampNs)

/-- Decoding a payload and turning its trouble codes into events. -/
def dm1Events (spnDb : SpnDatabase) (data : Bytes) (sourceAddress : Nat) (timestampNs : Int) :
    Option (List DiagnosticEvent) :=
  (parseDm1OrDm2 data pgnDm1 sourceAddress 0).map
    (fun message => dm1ToEvents spnDb message.dtcs timestampNs)

/-- The faults a payload reports: its records that are no placeholders and use the supported
conversion method. -/
def reportedFaults (data : Bytes) : List DtcRecord :=
  (dtcRecords (data.drop 2)).filter
    (fun entry => !entry.isPlaceholder && entry.conversionMethod == 0)

def getsEvent (timestampNs : Int) (entry : DtcRecord) : Bool :=
  !entry.isPlaceholder && (entry.spn != 0xFF && decide (0 ≤ timestampNs))

section Events

variable {spnDb : SpnDatabase} {timestampNs : Int}

/-- The number in front of the failure mode can be read back. -/
theorem dtcText_spn {spn fmi other otherFmi : Nat} (same : dtcText spn fmi = dtcText other otherFmi) :
    spn = other := by
  have digits (value rest : Nat) :
      ((dtcText value rest).drop 4).takeWhile Char.isDigit = decimalText value := by
    unfold dtcText
    rw [List.append_assoc, List.append_assoc]
    change (decimalText value ++ ' ' :: ("FMI ".toList ++ decimalText rest)).takeWhile Char.isDigit = _
    rw [List.takeWhile_append_of_pos (fun c member => decimalText_isDigit member)]
    exact List.append_nil _
  apply decimalText_injective
  rw [← digits spn fmi, same, digits]

theorem pyStrip_dtcText (spn fmi : Nat) : pyStrip (dtcText spn fmi) ≠ [] := by
  intro empty
  unfold pyStrip at empty
  have kept : (dtcText spn fmi).dropWhile isPySpace = dtcText spn fmi := rfl
  rw [kept, List.reverse_eq_nil_iff, List.dropWhile_eq_nil_iff] at empty
  exact absurd (empty 'S' (List.mem_reverse.mpr List.mem_cons_self)) (by decide)

theorem dtcEvent_decoded (sourceAddress : Nat) {entry : DtcRecord} (code : entry.isPlaceholder = false) :
    dtcEvent spnDb timestampNs (entry.decoded sourceAddress) =
      if getsEvent timestampNs entry then
        some ⟨timestampNs, dtcText entry.spn entry.fmi, .heavyDuty,
          spnDb.severity entry.spn entry.fmi, .active⟩
      else none := by
  have filled : entry.spn ≠ 0 := by
    intro empty
    unfold DtcRecord.isPlaceholder at code
    rw [empty] at code
    simp at code
  have spn : (entry.decoded sourceAddress).spn = entry.spn := rfl
  have fmi : (entry.decoded sourceAddress).fmi = entry.fmi := rfl
  unfold dtcEvent getsEvent
  rw [spn, fmi, code]
  by_cases last : entry.spn = 0xFF
  · rw [if_pos (Or.inr last), last]
    rfl
  · rw [if_neg (not_or.mpr ⟨filled, last⟩), bne_iff_ne.mpr last]
    unfold DiagnosticEvent.new
    rw [if_neg (pyStrip_dtcText _ _)]
    by_cases early : timestampNs < 0
    · rw [if_pos early, decide_eq_false (Int.not_le.mpr early)]
      rfl
    · rw [if_neg early, decide_eq_true (Int.not_lt.mp early)]
      rfl

theorem dm1Events_eq {data : Bytes} (long : 2 ≤ data.length) (sourceAddress : Nat) :
    dm1Events spnDb data sourceAddress timestampNs =
      some (((dtcRecords (data.drop 2)).filter (getsEvent timestampNs)).map (fun entry =>
        ⟨timestampNs, dtcText entry.spn entry.fmi, .heavyDuty,
          spnDb.severity entry.spn entry.fmi, .active⟩)) := by
  obtain ⟨message, parsed, dtcs⟩ := parseDm1OrDm2_dtcs data long pgnDm1 sourceAddress 0
  unfold dm1Events dm1ToEvents
  rw [parsed, Option.map_some, dtcs, List.filterMap_map]
  refine congrArg some ?_
  generalize dtcRecords (data.drop 2) = records
  induction records with
  | nil => rfl
  | cons entry records ih =>
      rw [List.filter_cons, List.filter_cons]
      cases placeholder : entry.isPlaceholder with
      | true =>
          have skipped : getsEvent timestampNs entry = false := by
            unfold getsEvent
            rw [placeholder]
            rfl
          rw [skipped]
          exact ih
      | false =>
          change (entry :: records.filter _).filterMap _ = _
          rw [List.filterMap_cons, Function.comp_apply, dtcEvent_decoded sourceAddress placeholder, ih]
          cases getsEvent timestampNs entry with
          | true => rfl
          | false => rfl

end Events

/-- The events are the reported faults just when every record with a trouble code uses the
supported conversion method or names the parameter 255, and not both. -/
theorem dm1_events_exact_iff (spnDb : SpnDatabase) (data : Bytes) (long : 2 ≤ data.length)
    (sourceAddress : Nat) (timestampNs : Int) :
    (∃ events, dm1Events spnDb data sourceAddress timestampNs = some events ∧
        events.map (fun event => (event.status, event.code)) =
          (reportedFaults data).map (fun entry => (.active, dtcText entry.spn entry.fmi))) ↔
      ∀ entry ∈ dtcRecords (data.drop 2), entry.isPlaceholder = false →
        (entry.conversionMethod = 0 ↔ entry.spn ≠ 0xFF ∧ 0 ≤ timestampNs) := by
  rw [dm1Events_eq long]
  unfold reportedFaults
  generalize dtcRecords (data.drop 2) = records
  have pointwise : (∀ entry ∈ records, entry.isPlaceholder = false →
      (entry.conversionMethod = 0 ↔ entry.spn ≠ 0xFF ∧ 0 ≤ timestampNs)) ↔
      ∀ entry ∈ records, getsEvent timestampNs entry =
        (!entry.isPlaceholder && entry.conversionMethod == 0) := by
    refine forall₂_congr (fun entry _ => ?_)
    unfold getsEvent
    cases entry.isPlaceholder with
    | true => exact ⟨fun _ => rfl, fun _ placeholder => absurd placeholder (by decide)⟩
    | false =>
        have supported : (entry.conversionMethod == 0) = true ↔ entry.conversionMethod = 0 :=
          beq_iff_eq
        have named : (entry.spn != 0xFF && decide (0 ≤ timestampNs)) = true ↔
            entry.spn ≠ 0xFF ∧ 0 ≤ timestampNs := by
          rw [Bool.and_eq_true, bne_iff_ne, decide_eq_true_eq]
        constructor
        · intro agree
          exact Bool.eq_iff_iff.mpr (named.trans ((agree rfl).symm.trans supported.symm))
        · intro same _
          exact supported.symm.trans ((Bool.eq_iff_iff.mp same.symm).trans named)
  rw [pointwise]
  constructor
  · rintro ⟨events, made, listed⟩
    cases made
    rw [List.map_map] at listed
    -- no other record is written like one that names the parameter 255
    have covered : ∀ entry ∈ records, (!entry.isPlaceholder && entry.conversionMethod == 0) = true →
        getsEvent timestampNs entry = true := by
      intro entry member reported
      have text : (EventStatus.active, dtcText entry.spn entry.fmi) ∈
          (records.filter (fun entry => !entry.isPlaceholder && entry.conversionMethod == 0)).map
            (fun entry => (EventStatus.active, dtcText entry.spn entry.fmi)) :=
        List.mem_map_of_mem (List.mem_filter.mpr ⟨member, reported⟩)
      rw [← listed] at text
      obtain ⟨other, found, same⟩ := List.mem_map.mp text
      have gets := (List.mem_filter.mp found).2
      have spn := dtcText_spn (Prod.ext_iff.mp same).2
      unfold getsEvent at gets ⊢
      rw [(Bool.and_eq_true_iff.mp reported).1, ← spn]
      exact (Bool.and_eq_true_iff.mp gets).2
    have nested : (records.filter (getsEvent timestampNs)).filter
        (fun entry => !entry.isPlaceholder && entry.conversionMethod == 0) =
        records.filter (fun entry => !entry.isPlaceholder && entry.conversionMethod == 0) := by
      rw [List.filter_filter]
      refine List.filter_congr (fun entry member => ?_)
      cases reported : (!entry.isPlaceholder && entry.conversionMethod == 0) with
      | true => rw [covered entry member reported, Bool.and_self]
      | false => rw [Bool.false_and]
    have long := congrArg List.length listed
    rw [List.length_map, List.length_map, ← nested] at long
    have equal := List.filter_sublist.eq_of_length long.symm
    rw [nested] at equal
    intro entry member
    have mine := @List.mem_filter _ (getsEvent timestampNs) records entry
    rw [← equal, List.mem_filter, and_iff_right member, and_iff_right member] at mine
    exact Bool.eq_iff_iff.mpr mine.symm
  · intro agree
    refine ⟨_, rfl, ?_⟩
    rw [List.map_map, List.filter_congr agree]
    rfl

/-- A fault, an empty slot and the fill bytes of a single frame. -/
theorem dm1_events_exact_sample :
    ∃ events, dm1Events (fun _ => none) [0x40, 0xFF, 0x54, 0, 0x04, 1, 0, 0, 0, 0, 0xFF, 0xFF] 0 7 =
        some events ∧
      events.map (fun event => (event.status, event.code)) = [(.active, "SPN 84 FMI 4".toList)] := by
  obtain ⟨events, made, listed⟩ := (dm1_events_exact_iff (fun _ => none)
    [0x40, 0xFF, 0x54, 0, 0x04, 1, 0, 0, 0, 0, 0xFF, 0xFF] (by decide) 0 7).mpr (by decide)
  exact ⟨events, made, listed⟩

/-- An unsupported record becomes an event, and the fault of parameter 255 becomes none. -/
theorem unsupported_record_becomes_event :
    (parseDm1OrDm2 [0x40, 0xFF, 0x54, 0, 0x04, 0x81] pgnDm1 0 0).map
        (fun message => message.dtcs.map DiagnosticTroubleCode.isSupported) = some [false] ∧
      (dm1Events (fun _ => none) [0x40, 0xFF, 0x54, 0, 0x04, 0x81] 0 7).map
        (List.map DiagnosticEvent.code) = some ["SPN 84 FMI 4".toList] ∧
      reportedFaults [0x40, 0xFF, 0x54, 0, 0x04, 0x81] = [] ∧
      dm1Events (fun _ => none) [0x40, 0xFF, 0xFF, 0, 0x04, 1] 0 7 = some [] ∧
      reportedFaults [0x40, 0xFF, 0xFF, 0, 0x04, 1] = [⟨0xFF, 0, 0x04, 1⟩] :=
  ⟨by decide, by decide, by decide, by decide, by decide⟩

end Ucanlab.Engine.Diagnosis
