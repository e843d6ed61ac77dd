import Ucanlab.Protocols.J1939.Diagnostics

/-!
The active trouble codes of a DM1 payload as the offline assistant decodes them, against the
decoder of the diagnostic service.
-/

namespace Ucanlab.Engine.Ai

open Ucanlab J1939

inductive MentionOrigin where
  | text
  | input
  | dm1
  deriving DecidableEq, Repr

inductive CodeStatus where
  | active
  | history
  | pending
  deriving DecidableEq, Repr

structure SpnMention where
  spn : Int
  fmi : Option Int
  origin : MentionOrigin
  occurrenceCount : Option Int := none
  note : String := ""
  status : CodeStatus := .active
  deriving DecidableEq, Repr

structure Dm1Lamps where
  mil : Bool
  redStop : Bool
  amberWarning : Bool
  protect : Bool
  deriving DecidableEq, Repr

inductive Dm1Payload where
  | bytes (raw : Bytes)
  | numbers (values : List Int)
  | text (text : List Char)
  | other

/-- The digits without `0x`, white space, commas, colons and dashes. -/
def cleanedHex : List Char → List Char
  | [] => []
  | '0' :: mark :: rest =>
      if mark = 'x' ∨ mark = 'X' then cleanedHex rest else '0' :: cleanedHex (mark :: rest)
  | c :: rest =>
      if isPySpace c ∨ c = ',' ∨ c = ':' ∨ c = '-' then cleanedHex rest else c :: cleanedHex rest

def payloadBytes : Dm1Payload → Option Bytes
  | .bytes raw => some raw
  | .numbers values =>
      if ∀ value ∈ values, 0 ≤ value ∧ value ≤ 255 then
        some (values.map (fun value => UInt8.ofNat value.toNat))
      else none
  | .text text =>
      let cleaned := cleanedHex text
      if cleaned ≠ [] ∧ cleaned.length % 2 = 0 ∧ cleaned.all (fun c => (hexDigit c).isSome) then
        hexPairs cleaned
      else none
  | .other => none

/-- `range(start, stop, step)`. -/
def pyRange (start stop step : Nat) : List Nat :=
  (List.range ((stop - start + step - 1) / step)).map (fun index => start + step * index)

def legacyNote : String := "dm1_conversion_method_1_legacy"

/-- The record at an offset, none for an empty slot. -/
def decodeRecord (raw : Bytes) (i : Nat) : Option SpnMention :=
  let b2 := (raw.getD i 0).toNat
  let b3 := (raw.getD (i + 1) 0).toNat
  let b4 := (raw.getD (i + 2) 0).toNat
  let b5 := (raw.getD (i + 3) 0).toNat
  let spn := b2 ||| (b3 <<< 8) ||| ((b4 &&& 0xE0) <<< 11)
  let fmi := b4 &&& 0x1F
  let cm := (b5 >>> 7) &&& 0x1
  let oc := b5 &&& 0x7F
  if spn = 0 ∨ spn = 0x7FFFF then none
  else
    some {
      spn := spn
      fmi := some fmi
      origin := .dm1
      occurrenceCount := if oc ≠ 0x7F then some oc else none
      note := if cm = 1 then legacyNote else "" }

def mentionNote (mention : SpnMention) : Option String :=
  if mention.note ≠ "" then some (mention.note ++ ":SPN" ++ toString mention.spn) else none

def decodeDm1Payload (payload : Dm1Payload) :
    Option Dm1Lamps × List SpnMention × List String :=
  match payloadBytes payload with
  | none => (none, [], ["dm1_unreadable_payload"])
  | some raw =>
      if raw.length < 6 then (none, [], ["dm1_unreadable_payload"])
      else
        let lamp := (raw.getD 0 0).toNat
        let mentions := (pyRange 2 (raw.length - 3) 4).filterMap (decodeRecord raw)
        (some {
            mil := decide ((lamp >>> 6) &&& 0x3 = 1)
            redStop := decide ((lamp >>> 4) &&& 0x3 = 1)
            amberWarning := decide ((lamp >>> 2) &&& 0x3 = 1)
            protect := decide (lamp &&& 0x3 = 1) },
          mentions, mentions.filterMap mentionNote)

/-- SPN, FMI, occurrence count and whether the conversion method is 1. -/
abbrev CodeView := Int × Int × Int × Bool

def SpnMention.view (mention : SpnMention) : CodeView :=
  (mention.spn, mention.fmi.getD 0, mention.occurrenceCount.getD 127,
    decide (mention.note = legacyNote))

def dtcView (dtc : DiagnosticTroubleCode) : CodeView :=
  (dtc.spn, dtc.fmi, dtc.occurrenceCount, decide (dtc.conversionMethod = 1))

def spnAllOnes : Nat := 0x7FFFF

def kept (entry : DtcRecord) : Bool := decide (entry.spn ≠ 0 ∧ entry.spn ≠ spnAllOnes)

def mentionOf (entry : DtcRecord) : SpnMention where
  spn := entry.spn
  fmi := some entry.fmi
  origin := .dm1
  occurrenceCount := if entry.b3.toNat % 128 ≠ 0x7F then some (entry.b3.toNat % 128 : Nat) else none
  note := if entry.conversionMethod = 1 then legacyNote else ""

theorem decodeRecord_entry {raw : Bytes} {i : Nat} {entry : DtcRecord}
    (found : (raw.drop i).take 4 = entry.bytes) :
    decodeRecord raw i = if kept entry then some (mentionOf entry) else none := by
  have byte (offset : Nat) (inside : offset < 4) :
      raw.getD (i + offset) 0 = entry.bytes.getD offset 0 := by
    rw [← found, List.getD_eq_getElem?_getD, List.getD_eq_getElem?_getD,
      List.getElem?_take_of_lt inside, List.getElem?_drop]
  have first : raw.getD i 0 = entry.b0 := byte 0 (by decide)
  have second : raw.getD (i + 1) 0 = entry.b1 := byte 1 (by decide)
  have third : raw.getD (i + 2) 0 = entry.b2 := byte 2 (by decide)
  have fourth : raw.getD (i + 3) 0 = entry.b3 := byte 3 (by decide)
  have code := spnFmi_fields entry
  unfold spnFmi at code
  have spn := congrArg Prod.fst code
  have fmi := congrArg Prod.snd code
  dsimp only at spn fmi
  have count : entry.b3.toNat &&& 0x7F = entry.b3.toNat % 128 :=
    Nat.and_two_pow_sub_one_eq_mod entry.b3.toNat 7
  have bound := entry.b3.toNat_lt
  have method : (entry.b3.toNat >>> 7) &&& 0x1 = entry.conversionMethod := by
    have one : (entry.b3.toNat >>> 7) &&& 0x1 = (entry.b3.toNat >>> 7) % 2 ^ 1 :=
      Nat.and_two_pow_sub_one_eq_mod _ 1
    rw [one, Nat.shiftRight_eq_div_pow]
    unfold DtcRecord.conversionMethod
    omega
  unfold decodeRecord
  dsimp only
  rw [first, second, third, fourth, spn, fmi, count, method]
  by_cases empty : entry.spn = 0 ∨ entry.spn = 0x7FFFF
  · have passed : ¬ kept entry = true := by
      intro keeps
      obtain ⟨zero, ones⟩ := of_decide_eq_true keeps
      exact empty.elim zero ones
    rw [if_pos empty, if_neg passed]
  · have keeps : kept entry = true :=
      decide_eq_true ⟨fun zero => empty (Or.inl zero), fun ones => empty (Or.inr ones)⟩
    rw [if_neg empty, if_pos keeps]
    rfl

section Records

variable {α : Type} {decode : Bytes → Nat → Option α} {choose : DtcRecord → Option α}

theorem filterMap_records (reads : ∀ {raw : Bytes} {i : Nat} {entry : DtcRecord},
      (raw.drop i).take 4 = entry.bytes → decode raw i = choose entry) (front rest : Bytes) :
    (List.range (rest.length / 4)).filterMap
        (fun index => decode (front ++ rest) (front.length + 4 * index)) =
      (dtcRecords rest).filterMap choose := by
  induction rest using dtcRecords.induct generalizing front with
  | case1 b0 b1 b2 b3 rest ih =>
      have count : (b0 :: b1 :: b2 :: b3 :: rest).length / 4 = rest.length / 4 + 1 := by
        simp only [List.length_cons]
        omega
      have first : decode (front ++ b0 :: b1 :: b2 :: b3 :: rest) (front.length + 4 * 0) =
          choose ⟨b0, b1, b2, b3⟩ := by
        apply reads
        rw [Nat.mul_zero, Nat.add_zero, List.drop_left]
        rfl
      have later (index : Nat) :
          decode (front ++ b0 :: b1 :: b2 :: b3 :: rest) (front.length + 4 * (index + 1)) =
            decode (front ++ [b0, b1, b2, b3] ++ rest)
              ((front ++ [b0, b1, b2, b3]).length + 4 * index) := by
        rw [List.append_assoc, List.length_append]
        have place : front.length + 4 * (index + 1) =
            front.length + [b0, b1, b2, b3].length + 4 * index := by
          simp only [List.length_cons, List.length_nil]
          omega
        rw [place]
        rfl
      rw [count, List.range_succ_eq_map, List.filterMap_cons, List.filterMap_map, first,
        Function.comp_def]
      simp only [Nat.succ_eq_add_one, later, ih]
      change _ = (⟨b0, b1, b2, b3⟩ :: dtcRecords rest).filterMap choose
      rw [List.filterMap_cons]
  | case2 rest short =>
      obtain ⟨few, nothing⟩ := dtcRecords_short short
      rw [few, nothing]
      rfl

theorem pyRange_records (reads : ∀ {raw : Bytes} {i : Nat} {entry : DtcRecord},
      (raw.drop i).take 4 = entry.bytes → decode raw i = choose entry) (b0 b1 : UInt8)
    (rest : Bytes) :
    (pyRange 2 ((b0 :: b1 :: rest).length - 3) 4).filterMap (decode (b0 :: b1 :: rest)) =
      (dtcRecords rest).filterMap choose := by
  have count : ((b0 :: b1 :: rest).length - 3 - 2 + 4 - 1) / 4 = rest.length / 4 := by
    simp only [List.length_cons]
    omega
  unfold pyRange
  rw [count, List.filterMap_map]
  exact filterMap_records reads [b0, b1] rest

end Records

theorem kept_le {entry : DtcRecord} (keeps : kept entry = true) : entry.isPlaceholder = false := by
  obtain ⟨zero, ones⟩ := of_decide_eq_true keeps
  unfold DtcRecord.isPlaceholder
  rw [Bool.or_eq_false_iff, Bool.or_eq_false_iff]
  refine ⟨⟨?_, ?_⟩, beq_false_of_ne zero⟩
  · apply beq_false_of_ne
    intro zeros
    obtain ⟨b0, b1, b2, b3⟩ := entry
    cases zeros
    exact zero rfl
  · apply beq_false_of_ne
    intro filled
    obtain ⟨b0, b1, b2, b3⟩ := entry
    cases filled
    exact ones rfl

theorem kept_iff (entry : DtcRecord) :
    kept entry = true ↔ entry.isPlaceholder = false ∧
      (entry.spn = spnAllOnes → entry.bytes = [0xFF, 0xFF, 0xFF, 0xFF]) := by
  constructor
  · intro keeps
    exact ⟨kept_le keeps, fun ones => absurd ones (of_decide_eq_true keeps).2⟩
  · rintro ⟨present, filled⟩
    unfold DtcRecord.isPlaceholder at present
    rw [Bool.or_eq_false_iff, Bool.or_eq_false_iff] at present
    refine decide_eq_true ⟨ne_of_beq_false present.2, ?_⟩
    intro ones
    exact ne_of_beq_false present.1.2 (filled ones)

theorem view_mentionOf (entry : DtcRecord) (sourceAddress : Nat) :
    (mentionOf entry).view = dtcView (entry.decoded sourceAddress) := by
  have bound := entry.b3.toNat_lt
  have count : (if entry.b3.toNat % 128 ≠ 0x7F then some ((entry.b3.toNat % 128 : Nat) : Int)
      else none).getD 127 = (entry.b3.toNat % 128 : Nat) := by
    by_cases absent : entry.b3.toNat % 128 = 0x7F
    · rw [if_neg (not_not_intro absent), absent]
      rfl
    · rw [if_pos absent]
      rfl
  have method : decide ((if entry.conversionMethod = 1 then legacyNote else "") = legacyNote) =
      decide (entry.conversionMethod = 1) := by
    by_cases legacy : entry.conversionMethod = 1
    · rw [if_pos legacy, decide_eq_true legacy]
      rfl
    · rw [if_neg legacy, decide_eq_false legacy]
      rfl
  unfold SpnMention.view mentionOf dtcView DtcRecord.decoded
  dsimp only
  rw [count, method]
  rfl

theorem lamp_on (bits : Nat) :
    decide (bits &&& 0x3 = 1) = true ↔ LampStatus.ofBits (bits &&& 0x03) = .on := by
  have small : bits &&& 0x03 < 4 := Nat.and_lt_two_pow bits (by decide : 3 < 2 ^ 2)
  generalize bits &&& 0x03 = state at small ⊢
  interval_cases state
  all_goals decide

theorem map_filter_eq_iff {α β : Type} (items : List α) {fewer more : α → Bool}
    (part : ∀ item, fewer item = true → more item = true) (f : α → β) :
    (items.filter fewer).map f = (items.filter more).map f ↔
      ∀ item ∈ items, more item = true → fewer item = true := by
  have again : (items.filter more).filter fewer = items.filter fewer := by
    rw [List.filter_filter]
    apply List.filter_congr
    intro item _
    cases passes : fewer item with
    | false => rfl
    | true => exact part item passes
  constructor
  · intro same item member passes
    have lengths := congrArg List.length same
    rw [List.length_map, List.length_map, ← again, List.length_filter_eq_length_iff] at lengths
    exact lengths item (List.mem_filter.mpr ⟨member, passes⟩)
  · intro all
    rw [← again, List.filter_eq_self.mpr]
    intro item member
    obtain ⟨isIn, passes⟩ := List.mem_filter.mp member
    exact all item isIn passes

theorem agree_on_iff (entry : DtcRecord) :
    ((!entry.isPlaceholder) = true → kept entry = true) ↔
      (entry.spn = spnAllOnes → entry.bytes = [0xFF, 0xFF, 0xFF, 0xFF]) := by
  constructor
  · intro agree ones
    by_contra partly
    have present : (!entry.isPlaceholder) = true := by
      unfold DtcRecord.isPlaceholder
      rw [Bool.not_eq_true', Bool.or_eq_false_iff, Bool.or_eq_false_iff]
      refine ⟨⟨?_, beq_false_of_ne partly⟩, ?_⟩
      · apply beq_false_of_ne
        intro zeros
        obtain ⟨b0, b1, b2, b3⟩ := entry
        cases zeros
        exact absurd ones (by decide)
      · rw [ones]
        rfl
    exact (of_decide_eq_true (agree present)).2 ones
  · intro filled present
    exact (kept_iff entry).mpr ⟨Bool.not_eq_true' _ ▸ present, filled⟩

def decodersAgree (raw : Bytes) (message : DmMessage) : Prop :=
  ∃ lamps mentions notes, decodeDm1Payload (.bytes raw) = (some lamps, mentions, notes) ∧
    mentions.map SpnMention.view = message.dtcs.map dtcView ∧
    (lamps.mil = true ↔ message.malfunctionIndicatorLamp = .on) ∧
    (lamps.redStop = true ↔ message.redStopLamp = .on) ∧
    (lamps.amberWarning = true ↔ message.amberWarningLamp = .on) ∧
    (lamps.protect = true ↔ message.protectLamp = .on)

theorem decodeDm1Payload_mentions (b0 b1 : UInt8) (rest : Bytes) :
    (pyRange 2 ((b0 :: b1 :: rest).length - 3) 4).filterMap (decodeRecord (b0 :: b1 :: rest)) =
      ((dtcRecords rest).filter kept).map mentionOf := by
  rw [pyRange_records (fun found => decodeRecord_entry found), ← List.filterMap_eq_map,
    List.filterMap_filter]
  rfl

/-- The decoders agree on a payload of six bytes or more exactly if every complete record with an
SPN of all ones is a slot filled with ones. -/
theorem dm1_decoders_agree_iff (raw : Bytes) (long : 6 ≤ raw.length) (pgn sourceAddress : Nat)
    (timestampNs : Int) :
    ∃ message, parseDm1OrDm2 raw pgn sourceAddress timestampNs = some message ∧
      (decodersAgree raw message ↔
        ∀ entry ∈ dtcRecords (raw.drop 2), entry.spn = spnAllOnes →
          entry.bytes = [0xFF, 0xFF, 0xFF, 0xFF]) := by
  obtain ⟨message, parsed, dtcs⟩ :=
    parseDm1OrDm2_dtcs raw (by omega) pgn sourceAddress timestampNs
  refine ⟨message, parsed, ?_⟩
  rcases raw with _ | ⟨b0, _ | ⟨b1, rest⟩⟩
  · exact absurd long (by decide)
  · exact absurd long (by simp)
  · have decoded : decodeDm1Payload (.bytes (b0 :: b1 :: rest)) =
        (some {
            mil := decide ((b0.toNat >>> 6) &&& 0x3 = 1)
            redStop := decide ((b0.toNat >>> 4) &&& 0x3 = 1)
            amberWarning := decide ((b0.toNat >>> 2) &&& 0x3 = 1)
            protect := decide (b0.toNat &&& 0x3 = 1) },
          ((dtcRecords rest).filter kept).map mentionOf,
          (((dtcRecords rest).filter kept).map mentionOf).filterMap mentionNote) := by
      unfold decodeDm1Payload payloadBytes
      dsimp only
      rw [if_neg (Nat.not_lt.mpr long), decodeDm1Payload_mentions]
      rfl
    have same : (((dtcRecords rest).filter kept).map mentionOf).map SpnMention.view =
        ((dtcRecords rest).filter kept).map (dtcView ∘ DtcRecord.decoded sourceAddress) := by
      rw [List.map_map]
      exact List.map_congr_left (fun entry _ => view_mentionOf entry sourceAddress)
    have part (entry : DtcRecord) (keeps : kept entry = true) : (!entry.isPlaceholder) = true := by
      rw [kept_le keeps]
      rfl
    have lists := map_filter_eq_iff (dtcRecords rest) part (dtcView ∘ DtcRecord.decoded sourceAddress)
    have condition : (∀ entry ∈ dtcRecords rest,
        (!entry.isPlaceholder) = true → kept entry = true) ↔
        ∀ entry ∈ dtcRecords rest, entry.spn = spnAllOnes →
          entry.bytes = [0xFF, 0xFF, 0xFF, 0xFF] :=
      forall₂_congr (fun entry _ => agree_on_iff entry)
    change _ ↔ ∀ entry ∈ dtcRecords rest, _
    rw [← condition, ← lists]
    unfold decodersAgree
    rw [dtcs, List.map_map]
    cases parsed
    constructor
    · rintro ⟨lamps, mentions, notes, result, agree, -⟩
      rw [decoded] at result
      cases result
      exact same.symm.trans agree
    · intro agree
      exact ⟨_, _, _, decoded, same.trans agree, lamp_on _, lamp_on _, lamp_on _, lamp_on _⟩

theorem dm1_decoders_agree_three :
    ∃ message, parseDm1OrDm2 [0x54, 0xFF, 0x54, 0x00, 0x04, 0x81, 0xFF, 0xFF, 0xFF, 0xFF, 0x00] 65226
        0 0 = some message ∧
      decodersAgree [0x54, 0xFF, 0x54, 0x00, 0x04, 0x81, 0xFF, 0xFF, 0xFF, 0xFF, 0x00] message := by
  obtain ⟨message, parsed, agree⟩ := dm1_decoders_agree_iff
    [0x54, 0xFF, 0x54, 0x00, 0x04, 0x81, 0xFF, 0xFF, 0xFF, 0xFF, 0x00] (by decide) 65226 0 0
  exact ⟨message, parsed, agree.mpr (by decide)⟩

/-- SPN 524287 with FMI 4 in an else filled slot: a trouble code for the service alone. -/
theorem all_ones_spn_splits_decoders :
    ¬ ∀ raw : Bytes, 6 ≤ raw.length → ∀ message, parseDm1OrDm2 raw 65226 0 0 = some message →
      decodersAgree raw message := by
  intro agree
  obtain ⟨lamps, mentions, notes, result, lists, -⟩ :=
    agree [0x00, 0xFF, 0xFF, 0xFF, 0xE4, 0x01, 0xFF, 0xFF] (by decide) _ rfl
  have none : mentions = [] := by
    cases result
    rfl
  rw [none] at lists
  exact absurd lists (by decide)

end Ucanlab.Engine.Ai
