import Ucanlab.Engine.Discovery.ChecksumDetector
import Ucanlab.Engine.Discovery.Segmenter

/-!
The signal database of discovered hypotheses. The most certain hypotheses get their bits first, and a
signal is the bits of its hypothesis in the numbering of the database. Names, units and comments are
left out.
-/

namespace Ucanlab.Engine.Discovery

open Ucanlab BitLayout

structure DbcSignal where
  start : Nat
  length : Nat
  byteOrder : ByteOrder
  isSigned : Bool
  scale : Rat
  offset : Rat
  minimum : Option Rat
  maximum : Option Rat
  deriving DecidableEq

def DbcSignal.decode (signal : DbcSignal) (payload : Bytes) : Option Rat :=
  (match signal.byteOrder with
    | .little => little payload signal.length signal.start
    | .big => big payload signal.length signal.start).map (fun raw =>
      ((if signal.isSigned then signed signal.length raw else (raw : Int) : Int) : Rat) *
        signal.scale + signal.offset)

structure DbcMessage where
  frameId : Nat
  length : Nat
  isExtendedFrame : Bool
  signals : List DbcSignal
  deriving DecidableEq

structure SignalReport where
  arbitrationId : Nat
  isExtended : Bool
  dlc : Nat
  hypotheses : List SignalHypothesis
  deriving DecidableEq

namespace DbcBuilder

/-- The order of `(approved, confidence, length)`; hypotheses that are equal in it keep theirs. -/
def ranksBelow (first second : SignalHypothesis) : Bool :=
  let approved := fun hypothesis : SignalHypothesis =>
    if hypothesis.status = .approved then 1 else 0
  decide (approved first < approved second ∨ approved first = approved second ∧
    (first.confidence < second.confidence ∨ first.confidence = second.confidence ∧
      first.length < second.length))

structure Placed where
  hypotheses : List SignalHypothesis := []
  occupiedBits : List Nat := []

def place (msgLen : Nat) (approvedOnly : Bool) (placed : Placed) (hyp : SignalHypothesis) :
    Placed :=
  let hypBits := List.range' hyp.startBit hyp.length
  if approvedOnly ∧ hyp.status ≠ .approved then placed
  else if hypBits.any (fun bit => decide (bit ∈ placed.occupiedBits)) then placed
  else if hyp.startBit + hyp.length > msgLen * 8 then placed
  else
    { hypotheses := placed.hypotheses ++ [hyp]
      occupiedBits := placed.occupiedBits ++ hypBits }

def signalOf (hyp : SignalHypothesis) : DbcSignal where
  start := if hyp.isLittleEndian then hyp.startBit else hyp.startBit + 7
  length := hyp.length
  byteOrder := if hyp.isLittleEndian then .little else .big
  isSigned := hyp.isSigned
  scale := hyp.factor
  offset := hyp.offset
  minimum := hyp.minValue
  maximum := hyp.maxValue

def msgLen (report : SignalReport) : Nat := max 1 report.dlc

def placedHypotheses (approvedOnly : Bool) (report : SignalReport) : List SignalHypothesis :=
  let sortedHyps := report.hypotheses.insertionSort (fun first second => ranksBelow first second = false)
  (sortedHyps.foldl (place (msgLen report) approvedOnly) {}).hypotheses

def buildMessage (approvedOnly : Bool) (report : SignalReport) : Option DbcMessage :=
  let signals := (placedHypotheses approvedOnly report).map signalOf
  if signals = [] then none
  else some {
    frameId := report.arbitrationId
    length := msgLen report
    isExtendedFrame := report.isExtended || decide (report.arbitrationId > 0x7FF)
    signals := signals }

def buildDatabase (reports : List SignalReport) (approvedOnly : Bool) : List DbcMessage :=
  reports.filterMap (buildMessage approvedOnly)

end DbcBuilder

def findings (payloads : List Bytes) (dlc : Nat) (occupiedSpans : List (Nat × Nat)) : List Finding :=
  CounterDetector.detect payloads dlc ++ ChecksumDetector.detect payloads dlc ++
    Segmenter.segment payloads dlc occupiedSpans

/-- The signal gives the value that was evaluated, of each payload that was long enough for it, and
the values of a physical signal are within its bounds. -/
def DecodesAsDiscovered (payloads : List Bytes) (finding : Finding) (signal : DbcSignal) : Prop :=
  ∀ payload ∈ payloads, ∀ value, finding.evaluated payload = some value →
    signal.decode payload = some (value : Rat) ∧
      (finding.hypothesis.htype = .signal → ∃ lowest highest, signal.minimum = some lowest ∧
        signal.maximum = some highest ∧ lowest ≤ (value : Rat) ∧ (value : Rat) ≤ highest)

/-- A checksum that was found with its most significant byte first, over bytes that do not read the
same backwards. -/
def StoredBackwards (payloads : List Bytes) (hypothesis : SignalHypothesis) : Prop :=
  hypothesis.htype = .checksum ∧ hypothesis.byteOrder = some .big ∧ ∃ payload ∈ payloads,
    hypothesis.startBit / 8 + hypothesis.length / 8 ≤ payload.length ∧
      ((payload.drop (hypothesis.startBit / 8)).take (hypothesis.length / 8)).reverse ≠
        (payload.drop (hypothesis.startBit / 8)).take (hypothesis.length / 8)

section Decoding

open DbcBuilder

variable {payloads : List Bytes} {finding : Finding} {payload : Bytes}

theorem decode_signalOf {hyp : SignalHypothesis} (factor : hyp.factor = 1) (offset : hyp.offset = 0)
    (payload : Bytes) : (signalOf hyp).decode payload =
      (if hyp.isLittleEndian then little payload hyp.length hyp.startBit
        else big payload hyp.length (hyp.startBit + 7)).map (fun raw : Nat =>
          ((if hyp.isSigned then signed hyp.length raw else (raw : Int) : Int) : Rat)) := by
  unfold DbcSignal.decode signalOf
  rw [factor, offset]
  cases hyp.isLittleEndian with
  | true => simp
  | false => simp

theorem decode_plain {hyp : SignalHypothesis} (plain : Plain hyp) (payload : Bytes) :
    (signalOf hyp).decode payload =
      (little payload hyp.length hyp.startBit).map (fun raw : Nat => ((raw : Int) : Rat)) := by
  rw [decode_signalOf plain.factor plain.offset, plain.isLittleEndian, plain.isSigned]
  rfl

theorem counter_decodes {field : CounterDetector.Field}
    (found : CounterDetector.evaluateField payloads field = some finding) (payload : Bytes) :
    (signalOf finding.hypothesis).decode payload =
      (finding.evaluated payload).map (fun value : Int => (value : Rat)) := by
  obtain ⟨-, start, length, order, unsigned, factor, offset, evaluated⟩ :=
    CounterDetector.evaluateField_finding found
  rw [decode_signalOf factor offset, start, length, order, unsigned, evaluated]
  unfold CounterDetector.Field.extract
  dsimp only
  rw [extractBits_eq, Option.map_map]
  cases field.byteOrder with
  | little => rfl
  | big => rfl

theorem decode_plain_bytes {hyp : SignalHypothesis} (plain : Plain hyp) {index width : Nat}
    (start : hyp.startBit = index * 8) (length : hyp.length = width * 8)
    (long : index + width ≤ payload.length) : (signalOf hyp).decode payload =
      some (((littleEndian ((payload.drop index).take width) : Nat) : Int) : Rat) := by
  rw [decode_plain plain, start, length, Nat.mul_comm index, Nat.mul_comm width, little_bytes long]
  rfl

theorem take_one {index : Nat} (inside : index < payload.length) :
    (payload.drop index).take 1 = [payload.getD index 0] := by
  rw [List.drop_eq_getElem_cons inside, List.take_succ_cons, List.take_zero,
    List.getD_eq_getElem _ _ inside]

theorem take_two {index : Nat} (inside : index + 1 < payload.length) :
    (payload.drop index).take 2 = [payload.getD index 0, payload.getD (index + 1) 0] := by
  have first : index < payload.length := by omega
  rw [List.drop_eq_getElem_cons first, List.take_succ_cons, take_one inside,
    List.getD_eq_getElem _ _ first]

theorem byte_decodes {hyp : SignalHypothesis} (plain : Plain hyp) {index : Nat}
    (start : hyp.startBit = index * 8) (length : hyp.length = 8) (inside : index < payload.length) :
    (signalOf hyp).decode payload = some (((payload.getD index 0).toNat : Int) : Rat) := by
  rw [decode_plain_bytes plain start (show hyp.length = 1 * 8 from length) inside, take_one inside]
  rfl

theorem packed_decodes {byteIdx bitOffset : Nat}
    (found : Segmenter.evaluatePacked12bitSignal payloads byteIdx bitOffset = some finding)
    (payload : Bytes) : (signalOf finding.hypothesis).decode payload =
      (finding.evaluated payload).map (fun value : Int => (value : Rat)) := by
  obtain ⟨plain, -, start, length, evaluated, -⟩ :=
    Segmenter.evaluatePacked12bitSignal_finding found
  rw [decode_plain plain, start, length, evaluated]
  change _ = (Option.map Int.ofNat (CounterDetector.extractBits payload _ 12 .little)).map _
  rw [extractBits_eq, Option.map_map]
  rfl

theorem leWord_eq {byteIdx : Nat} (inside : byteIdx + 1 < payload.length) :
    Segmenter.leWord payload byteIdx = littleEndian ((payload.drop byteIdx).take 2) := by
  have low := (payload.getD byteIdx 0).toNat_lt
  rw [take_two inside]
  unfold Segmenter.leWord
  rw [Nat.or_comm, BitField.shiftLeft_or_eq (show _ < 2 ^ 8 from low), Nat.add_comm, Nat.mul_comm]
  rfl

theorem beWord_eq {byteIdx : Nat} (inside : byteIdx + 1 < payload.length) :
    Segmenter.beWord payload byteIdx = natFromBytes ((payload.drop byteIdx).take 2) := by
  have low := (payload.getD (byteIdx + 1) 0).toNat_lt
  rw [take_two inside]
  unfold Segmenter.beWord natFromBytes
  rw [BitField.shiftLeft_or_eq (show _ < 2 ^ 8 from low), List.foldl_cons, List.foldl_cons,
    List.foldl_nil, Nat.zero_mul, Nat.zero_add]
  rfl

theorem word_decodes {byteIdx : Nat}
    (found : Segmenter.evaluate16bitSignal payloads byteIdx = some finding) {value : Int}
    (evaluated : finding.evaluated payload = some value) :
    (signalOf finding.hypothesis).decode payload = some (value : Rat) := by
  obtain ⟨isLe, isSigned, order, sign, factor, offset, -, start, length, evaluates, -⟩ :=
    Segmenter.evaluate16bitSignal_finding found
  rw [evaluates] at evaluated
  dsimp only at evaluated
  split at evaluated
  · rename_i inside
    have long : byteIdx + 2 ≤ payload.length := inside
    rw [decode_signalOf factor offset, order, sign, start, length, Nat.mul_comm byteIdx,
      show 16 = 8 * 2 from rfl, little_bytes long, big_bytes long]
    cases evaluated
    rw [leWord_eq inside, beWord_eq inside]
    cases isLe with
    | true => cases isSigned with
      | true => rfl
      | false => rfl
    | false => cases isSigned with
      | true => rfl
      | false => rfl
  · cases evaluated

theorem storedBytes_eq {start width : Nat} {byteOrder : ByteOrder} {stored : Nat}
    (evaluated : ChecksumDetector.storedBytes start width byteOrder payload = some stored) :
    start + width ≤ payload.length ∧
      stored = match byteOrder with
        | .little => littleEndian ((payload.drop start).take width)
        | .big => littleEndian ((payload.drop start).take width).reverse := by
  unfold ChecksumDetector.storedBytes at evaluated
  split at evaluated
  · cases evaluated
  · rename_i long
    refine ⟨Nat.not_lt.mp long, ?_⟩
    cases byteOrder with
    | little =>
        cases evaluated
        rfl
    | big =>
        cases evaluated
        exact foldl_bytes_reverse _

theorem littleEndian_reverse_eq (bytes : Bytes) :
    littleEndian bytes.reverse = littleEndian bytes ↔ bytes.reverse = bytes := by
  constructor
  · exact foldr_bytes_injective List.length_reverse
  · exact congrArg littleEndian

theorem multibyte_decodes_iff {start width : Nat} {model : CrcModel} {coveredIndices : List Nat}
    {byteOrder : ByteOrder}
    (found : ChecksumDetector.evaluateMultibyteChecksum payloads start width model coveredIndices
      byteOrder = some finding) :
    (∀ payload ∈ payloads, ∀ value, finding.evaluated payload = some value →
      (signalOf finding.hypothesis).decode payload = some (value : Rat)) ↔
      ¬ StoredBackwards payloads finding.hypothesis := by
  obtain ⟨plain, checksum, startBit, length, order, evaluates⟩ :=
    ChecksumDetector.evaluateMultibyteChecksum_finding found
  have byte : finding.hypothesis.startBit / 8 = start := by omega
  have bytes : finding.hypothesis.length / 8 = width := by omega
  unfold StoredBackwards
  rw [byte, bytes, order, evaluates]
  constructor
  · rintro decodes ⟨-, big, payload, member, long, differ⟩
    cases big
    have stored : ChecksumDetector.storedBytes start width .big payload =
        some (natFromBytes ((payload.drop start).take width)) := by
      unfold ChecksumDetector.storedBytes
      rw [if_neg (Nat.not_lt.mpr long)]
    have decoded := decodes payload member _ (congrArg (Option.map Int.ofNat) stored)
    rw [decode_plain_bytes plain startBit length long] at decoded
    refine differ ((littleEndian_reverse_eq _).mp ?_)
    have same := Int.ofNat.inj (Rat.intCast_injective (Option.some.inj decoded))
    exact (same.trans (foldl_bytes_reverse _)).symm
  · intro forwards payload member value evaluated
    obtain ⟨stored, read, rfl⟩ := Option.map_eq_some_iff.mp evaluated
    obtain ⟨long, same⟩ := storedBytes_eq read
    rw [decode_plain_bytes plain startBit length long, same]
    cases byteOrder with
    | little => rfl
    | big =>
        have mirrored : ((payload.drop start).take width).reverse = (payload.drop start).take width := by
          by_contra differ
          exact forwards ⟨checksum, rfl, payload, member, long, differ⟩
        dsimp only
        rw [mirrored]
        rfl

theorem decodesAsDiscovered_iff {dlc : Nat} {occupiedSpans : List (Nat × Nat)}
    (emitted : finding ∈ findings payloads dlc occupiedSpans) :
    DecodesAsDiscovered payloads finding (signalOf finding.hypothesis) ↔
      ¬ StoredBackwards payloads finding.hypothesis := by
  have faithful (other : finding.hypothesis.byteOrder = some .big →
        finding.hypothesis.htype ≠ .checksum)
      (decodes : ∀ payload ∈ payloads, ∀ value, finding.evaluated payload = some value →
        (signalOf finding.hypothesis).decode payload = some (value : Rat))
      (bounded : finding.hypothesis.htype = .signal → Segmenter.Bounded payloads finding) :
      DecodesAsDiscovered payloads finding (signalOf finding.hypothesis) ↔
        ¬ StoredBackwards payloads finding.hypothesis := by
    refine iff_of_true ?_ (fun backwards => other backwards.2.1 backwards.1)
    intro payload member value evaluated
    exact ⟨decodes payload member value evaluated,
      fun physical => bounded physical payload member value evaluated⟩
  rcases List.mem_append.mp emitted with first | segmented
  · rcases List.mem_append.mp first with counted | checked
    · obtain ⟨field, found⟩ := CounterDetector.mem_detect counted
      have counter := (CounterDetector.evaluateField_finding found).1
      refine faithful (fun _ => ?_) (fun payload _ value evaluated => ?_) (fun physical => ?_)
      · rw [counter]
        exact nofun
      · rw [counter_decodes found, evaluated]
        rfl
      · rw [counter] at physical
        cases physical
    · rcases ChecksumDetector.mem_detect checked with
        ⟨targetByte, coveredIndices, algorithm, found⟩ | ⟨start, width, model, coveredIndices,
          byteOrder, found⟩
      · obtain ⟨plain, checksum, startBit, length, none, evaluates⟩ :=
          ChecksumDetector.evaluateChecksum_finding found
        refine faithful (fun big => ?_) (fun payload _ value evaluated => ?_) (fun physical => ?_)
        · rw [none] at big
          cases big
        · obtain ⟨inside, rfl⟩ := evaluates payload value evaluated
          exact byte_decodes plain startBit length inside
        · rw [checksum] at physical
          cases physical
      · have checksum := (ChecksumDetector.evaluateMultibyteChecksum_finding found).2.1
        rw [← multibyte_decodes_iff found]
        constructor
        · exact fun decodes payload member value evaluated =>
            (decodes payload member value evaluated).1
        · intro decodes payload member value evaluated
          refine ⟨decodes payload member value evaluated, fun physical => ?_⟩
          rw [checksum] at physical
          cases physical
  · rcases Segmenter.mem_segment segmented with
      ⟨byteIdx, found⟩ | ⟨byteIdx, bitOffset, found⟩ | ⟨byteIdx, found⟩
    · obtain ⟨isLe, isSigned, -, -, -, -, other, -, -, -, bounded⟩ :=
        Segmenter.evaluate16bitSignal_finding found
      exact faithful (fun _ => other) (fun payload _ value evaluated => word_decodes found evaluated)
        bounded
    · obtain ⟨plain, physical, -, -, -, bounded⟩ :=
        Segmenter.evaluatePacked12bitSignal_finding found
      refine faithful (fun _ => ?_) (fun payload _ value evaluated => ?_) (fun _ => bounded)
      · rw [physical]
        exact nofun
      · rw [packed_decodes found, evaluated]
        rfl
    · obtain ⟨plain, other, start, length, evaluates, bounded⟩ :=
        Segmenter.evaluate8bitSignal_finding found
      refine faithful (fun _ => other) (fun payload _ value evaluated => ?_) bounded
      rw [evaluates] at evaluated
      dsimp only at evaluated
      split at evaluated
      · rename_i inside
        cases evaluated
        exact byte_decodes plain start length inside
      · cases evaluated

end Decoding

section Database

open DbcBuilder

theorem signalOf_mem_buildMessage {approvedOnly : Bool} {report : SignalReport}
    {hyp : SignalHypothesis} (turned : hyp ∈ placedHypotheses approvedOnly report) :
    ∃ message, buildMessage approvedOnly report = some message ∧ signalOf hyp ∈ message.signals := by
  have member : signalOf hyp ∈ (placedHypotheses approvedOnly report).map signalOf :=
    List.mem_map_of_mem turned
  have present : ¬ (placedHypotheses approvedOnly report).map signalOf = [] :=
    List.ne_nil_of_mem member
  exact ⟨_, if_neg present, member⟩

/-- The signal of an emitted hypothesis, whatever its status has become, decodes as discovered unless
the hypothesis is a checksum that was stored backwards. -/
theorem discovered_signals_decode_iff {payloads : List Bytes} {dlc : Nat}
    {occupiedSpans : List (Nat × Nat)} {finding : Finding}
    (emitted : finding ∈ findings payloads dlc occupiedSpans) {status : HypothesisStatus}
    {approvedOnly : Bool} {report : SignalReport}
    (turned : { finding.hypothesis with status := status } ∈ placedHypotheses approvedOnly report) :
    ∃ message, buildMessage approvedOnly report = some message ∧ ∃ signal ∈ message.signals,
      signal = signalOf { finding.hypothesis with status := status } ∧
        (DecodesAsDiscovered payloads finding signal ↔
          ¬ StoredBackwards payloads finding.hypothesis) := by
  obtain ⟨message, built, member⟩ := signalOf_mem_buildMessage turned
  exact ⟨message, built, _, member, rfl, decodesAsDiscovered_iff emitted⟩

/-- A count, a constant and the CRC-16/XMODEM of both, most significant byte first. -/
def trailingCrcPayloads : List Bytes := [
  [0, 16, 0x12, 0x31], [1, 16, 0x21, 0x00], [2, 16, 0x74, 0x53], [3, 16, 0x47, 0x62],
  [4, 16, 0xDE, 0xF5], [5, 16, 0xED, 0xC4], [6, 16, 0xB8, 0x97], [7, 16, 0x8B, 0xA6],
  [8, 16, 0x9B, 0x98], [9, 16, 0xA8, 0xA9]]

def trailingCrc : SignalHypothesis where
  htype := .checksum
  startBit := 16
  length := 16
  byteOrder := some .big
  confidence := 1

def trailingCrcReport : SignalReport where
  arbitrationId := 0x123
  isExtended := false
  dlc := 4
  hypotheses := [trailingCrc]

theorem trailingCrc_found : ∃ finding ∈ ChecksumDetector.detect trailingCrcPayloads 4,
    finding.hypothesis = trailingCrc ∧ finding.evaluated [0, 16, 0x12, 0x31] = some 0x1231 := by
  have xmodem : (ChecksumDetector.evaluateMultibyteChecksum trailingCrcPayloads 2 2
      (.create "CRC-16/XMODEM" 0x1021 16 0x00 0x00 false false) [0, 1] .big).any (fun finding =>
        decide (finding.hypothesis = trailingCrc) &&
          decide (finding.evaluated [0, 16, 0x12, 0x31] = some 0x1231)) = true := by decide +kernel
  obtain ⟨finding, found, both⟩ := (Option.any_eq_true _ _).mp xmodem
  obtain ⟨same, evaluated⟩ := Bool.and_eq_true_iff.mp both
  refine ⟨finding, ?_, of_decide_eq_true same, of_decide_eq_true evaluated⟩
  refine ChecksumDetector.crc16_mem_detect (Nat.le_refl 10) (Nat.le_refl 4) ?_ found
  exact List.mem_cons_of_mem _ List.mem_cons_self

theorem discovered_signals_decode_iff_crc :
    ∃ finding ∈ findings trailingCrcPayloads 4 [], finding.hypothesis = trailingCrc ∧
      ∃ message, buildMessage false trailingCrcReport = some message ∧ ∃ signal ∈ message.signals,
        DecodesAsDiscovered trailingCrcPayloads finding signal ↔
          ¬ StoredBackwards trailingCrcPayloads trailingCrc := by
  obtain ⟨finding, checked, same, -⟩ := trailingCrc_found
  have emitted : finding ∈ findings trailingCrcPayloads 4 [] :=
    List.mem_append_left _ (List.mem_append_right _ checked)
  have turned : { finding.hypothesis with status := .candidate } ∈
      placedHypotheses false trailingCrcReport := by
    rw [same]
    decide +kernel
  obtain ⟨message, built, signal, member, -, decodes⟩ := discovered_signals_decode_iff emitted turned
  rw [same] at decodes
  exact ⟨finding, emitted, same, message, built, signal, member, decodes⟩

/-- The signal of the checksum gives `0x3112` of the payload that carries `0x1231`. -/
theorem trailing_crc_decodes_swapped :
    ∃ finding ∈ findings trailingCrcPayloads 4 [],
      signalOf finding.hypothesis ∈ ((buildMessage false trailingCrcReport).map
        DbcMessage.signals).getD [] ∧
      ∃ payload ∈ trailingCrcPayloads, finding.evaluated payload = some 0x1231 ∧
        (signalOf finding.hypothesis).decode payload = some 0x3112 := by
  obtain ⟨finding, checked, same, evaluated⟩ := trailingCrc_found
  refine ⟨finding, List.mem_append_left _ (List.mem_append_right _ checked), ?_,
    [0, 16, 0x12, 0x31], List.mem_cons_self, evaluated, ?_⟩
  · rw [same]
    decide +kernel
  · rw [same]
    decide +kernel

end Database

end Ucanlab.Engine.Discovery
