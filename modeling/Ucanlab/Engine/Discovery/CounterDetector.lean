import Mathlib.Data.List.Sort
import Ucanlab.Engine.Discovery.DiscoveryEngine
import Ucanlab.Lib.Binary64
import Ucanlab.Lib.BitField
import Ucanlab.Lib.BitLayout

/-!
Hypotheses about the payloads of an identifier, and the detection of rolling counters. The texts of
a hypothesis and the parameters that only describe it are left out.
-/

namespace Ucanlab.Engine.Discovery

open Ucanlab Binary64 BitLayout

inductive HypothesisType where
  | counter
  | checksum
  | signal
  | constant
  deriving DecidableEq, Repr

inductive ByteOrder where
  | little
  | big
  deriving DecidableEq, Repr

/-- A hypothesis with what the detectors say of its bits; `byteOrder` is the parameter of that
name. -/
structure SignalHypothesis extends Hypothesis where
  htype : HypothesisType
  isLittleEndian : Bool := true
  isSigned : Bool := false
  byteOrder : Option ByteOrder := none
  confidence : Rat
  factor : Rat := 1
  offset : Rat := 0
  minValue : Option Rat := none
  maxValue : Option Rat := none
  deriving DecidableEq

structure Plain (hypothesis : SignalHypothesis) : Prop where
  isLittleEndian : hypothesis.isLittleEndian = true
  isSigned : hypothesis.isSigned = false
  factor : hypothesis.factor = 1
  offset : hypothesis.offset = 0

/-- A hypothesis with the raw value that its detector took from each payload, where the payload was
long enough for it. -/
structure Finding where
  hypothesis : SignalHypothesis
  evaluated : Bytes → Option Int

/-- `hypotheses.sort(key=lambda h: h.confidence, reverse=True)`. -/
def byConfidence (findings : List Finding) : List Finding :=
  findings.insertionSort (fun first second =>
    second.hypothesis.confidence ≤ first.hypothesis.confidence)

namespace CounterDetector

/-- The bits from the most significant one at `position` on, put behind `val`. -/
def extractBig (payload : Bytes) : Nat → Nat → Nat → Option Nat
  | 0, _, val => some val
  | length + 1, position, val =>
      match payload[position / 8]? with
      | none => none
      | some byte =>
          extractBig payload length (if position % 8 ≠ 0 then position - 1 else position + 15)
            ((val <<< 1) ||| ((byte.toNat >>> (position % 8)) &&& 1))

/-- The bits from the least significant one at `position` on, put into `val` from `shift` on. -/
def extractLittle (payload : Bytes) : Nat → Nat → Nat → Nat → Option Nat
  | 0, _, _, val => some val
  | length + 1, position, shift, val =>
      match payload[position / 8]? with
      | none => none
      | some byte =>
          extractLittle payload length (position + 1) (shift + 1)
            (val ||| (((byte.toNat >>> (position % 8)) &&& 1) <<< shift))

def extractBits (payload : Bytes) (startBit length : Nat) : ByteOrder → Option Nat
  | .big => extractBig payload length startBit 0
  | .little => extractLittle payload length startBit 0 0

/-- A slice of bits to evaluate. -/
structure Field where
  startBit : Nat
  length : Nat
  modulus : Nat
  byteOrder : ByteOrder := .little

def Field.extract (field : Field) (payload : Bytes) : Option Nat :=
  let extractStart := if field.byteOrder ≠ .big then field.startBit else field.startBit + 7
  extractBits payload extractStart field.length field.byteOrder

/-- The steps by one and the repetitions in a series. -/
def transitions (modulus : Nat) (values : List Nat) : Nat × Nat :=
  (values.zip values.tail).foldl (fun counts pair =>
    if pair.2 = (pair.1 + 1) % modulus then (counts.1 + 1, counts.2)
    else if pair.2 = pair.1 then (counts.1, counts.2 + 1)
    else counts) (0, 0)

def evaluateField (payloads : List Bytes) (field : Field) : Option Finding :=
  let values := payloads.filterMap field.extract
  if values.length < 10 then none
  else
    let (validSteps, staticRepeats) := transitions field.modulus values
    let totalTransitions := values.length - 1
    let activeTransitions := totalTransitions - staticRepeats
    if activeTransitions < 5 then none
    else
      let stepRatio := quotient validSteps activeTransitions
      let overallCompliance := quotient (validSteps + staticRepeats) totalTransitions
      if stepRatio ≥ nearest (9 / 10) ∧ validSteps ≥ 5 then
        some {
          hypothesis := {
            htype := .counter
            startBit := field.startBit
            length := field.length
            isLittleEndian := decide (field.byteOrder ≠ .big)
            byteOrder := some field.byteOrder
            confidence := fourPlaces (nearest (nearest (stepRatio * nearest (4 / 5)) +
              nearest (overallCompliance * nearest (1 / 5)))) }
          evaluated := fun payload => (field.extract payload).map Int.ofNat }
      else none

structure Scan where
  found : List Finding := []
  tested : List (Nat × Nat × ByteOrder) := []

def Field.span (field : Field) : Nat × Nat × ByteOrder :=
  (field.startBit, field.length, field.byteOrder)

def scanField (payloads : List Bytes) (scan : Scan) (field : Field) : Scan where
  found := scan.found ++ (evaluateField payloads field).toList
  tested := field.span :: scan.tested

def scanUntested (payloads : List Bytes) (scan : Scan) (field : Field) : Scan :=
  if field.span ∈ scan.tested then scan else scanField payloads scan field

def byteFields (dlc : Nat) : List Field :=
  (List.range dlc).map (fun byteIdx => { startBit := byteIdx * 8, length := 8, modulus := 256 })

def wordFields (dlc : Nat) : List Field :=
  (List.range (dlc - 1)).flatMap (fun byteIdx => [
    { startBit := byteIdx * 8, length := 16, modulus := 65536 },
    { startBit := byteIdx * 8, length := 16, modulus := 65536, byteOrder := .big }])

def nibbleFields (dlc : Nat) : List Field :=
  (List.range dlc).flatMap (fun byteIdx => [
    { startBit := byteIdx * 8, length := 4, modulus := 16 },
    { startBit := byteIdx * 8 + 4, length := 4, modulus := 16 }])

def smallFields (dlc : Nat) : List Field :=
  (List.range dlc).flatMap (fun byteIdx => [(2, 4), (3, 8), (6, 64)].flatMap (fun kind =>
    (List.range (8 / kind.1)).map (fun step =>
      { startBit := byteIdx * 8 + step * kind.1, length := kind.1, modulus := kind.2 })))

def packedFields (dlc : Nat) : List Field :=
  (List.range (dlc - 1)).flatMap (fun byteIdx => [0, 4].map (fun bitOffset =>
    { startBit := byteIdx * 8 + bitOffset, length := 12, modulus := 4096 }))

def detect (payloads : List Bytes) (dlc : Nat) : List Finding :=
  if payloads.length < 10 ∨ dlc = 0 then []
  else
    let aligned := (byteFields dlc ++ wordFields dlc ++ nibbleFields dlc).foldl
      (scanField payloads) {}
    let scan := (smallFields dlc ++ packedFields dlc).foldl (scanUntested payloads) aligned
    byConfidence scan.found

end CounterDetector

section Extraction

open CounterDetector

theorem bitAt_eq (payload : Bytes) (position : Nat) :
    bitAt payload position = (payload[position / 8]?).map
      (fun byte => (byte.toNat >>> (position % 8)) &&& 1) := by
  unfold bitAt
  congr 1
  funext byte
  rw [Nat.and_one_is_mod, Nat.shiftRight_eq_div_pow]

theorem bitAt_lt {payload : Bytes} {position bit : Nat} (found : bitAt payload position = some bit) :
    bit < 2 := by
  obtain ⟨byte, -, rfl⟩ := Option.map_eq_some_iff.mp found
  exact Nat.mod_lt _ (by decide)

theorem extractLittle_eq (payload : Bytes) (length position shift : Nat) {val : Nat}
    (below : val < 2 ^ shift) : extractLittle payload length position shift val =
      (little payload length position).map (fun rest => val + 2 ^ shift * rest) := by
  induction length generalizing position shift val with
  | zero => exact congrArg some (Nat.add_zero val).symm
  | succ length ih =>
      have here := bitAt_eq payload position
      unfold extractLittle little
      cases found : payload[position / 8]? with
      | none =>
          rw [found] at here
          rw [here]
          rfl
      | some byte =>
          rw [found] at here
          rw [here]
          have bit := bitAt_lt here
          dsimp only [Option.map_some] at bit ⊢
          generalize (byte.toNat >>> (position % 8)) &&& 1 = low at bit ⊢
          have joined : val ||| (low <<< shift) = val + 2 ^ shift * low := by
            rw [Nat.or_comm, BitField.shiftLeft_or_eq below, Nat.mul_comm, Nat.add_comm]
          have small : val + 2 ^ shift * low < 2 ^ (shift + 1) := by
            have filled : 2 ^ shift * low ≤ 2 ^ shift * 1 :=
              Nat.mul_le_mul_left _ (Nat.le_of_lt_succ bit)
            rw [Nat.pow_succ]
            omega
          rw [joined, ih (position + 1) (shift + 1) small, Option.map_map]
          congr 1
          funext rest
          change val + 2 ^ shift * low + 2 ^ (shift + 1) * rest = val + 2 ^ shift * (low + 2 * rest)
          rw [Nat.pow_succ, Nat.mul_add, Nat.add_assoc, Nat.mul_assoc]

theorem extractBig_eq (payload : Bytes) (length position val : Nat) :
    extractBig payload length position val =
      (big payload length position).map (fun rest => val * 2 ^ length + rest) := by
  induction length generalizing position val with
  | zero =>
      rw [Nat.pow_zero, Nat.mul_one]
      rfl
  | succ length ih =>
      have here := bitAt_eq payload position
      unfold extractBig big
      cases found : payload[position / 8]? with
      | none =>
          rw [found] at here
          rw [here]
          rfl
      | some byte =>
          rw [found] at here
          rw [here]
          have bit := bitAt_lt here
          dsimp only [Option.map_some] at bit ⊢
          generalize (byte.toNat >>> (position % 8)) &&& 1 = high at bit ⊢
          have joined : (val <<< 1) ||| high = val * 2 + high :=
            BitField.shiftLeft_or_eq bit
          rw [joined, ih, Option.map_map]
          congr 1
          funext rest
          change (val * 2 + high) * 2 ^ length + rest = val * 2 ^ (length + 1) +
            (high * 2 ^ length + rest)
          rw [Nat.pow_succ', Nat.add_mul, Nat.mul_assoc, Nat.add_assoc]

theorem extractBits_eq (payload : Bytes) (startBit length : Nat) (byteOrder : ByteOrder) :
    extractBits payload startBit length byteOrder =
      match byteOrder with
      | .little => little payload length startBit
      | .big => big payload length startBit := by
  cases byteOrder with
  | little =>
      refine (extractLittle_eq payload length startBit 0 (by decide)).trans ?_
      simp
  | big =>
      refine (extractBig_eq payload length startBit 0).trans ?_
      simp

end Extraction

namespace CounterDetector

section Scanning

variable {payloads : List Bytes}

theorem mem_byConfidence {finding : Finding} {findings : List Finding} :
    finding ∈ byConfidence findings ↔ finding ∈ findings :=
  List.mem_insertionSort _

theorem mem_foldl_scan {step : Scan → Field → Scan}
    (grows : ∀ scan field, ∀ finding ∈ (step scan field).found,
      finding ∈ scan.found ∨ evaluateField payloads field = some finding)
    {fields : List Field} {scan : Scan} {finding : Finding}
    (member : finding ∈ (fields.foldl step scan).found) :
    finding ∈ scan.found ∨ ∃ field ∈ fields, evaluateField payloads field = some finding := by
  induction fields generalizing scan with
  | nil => exact Or.inl member
  | cons field rest ih =>
      rcases ih member with early | ⟨later, inside, found⟩
      · rcases grows scan field finding early with old | new
        · exact Or.inl old
        · exact Or.inr ⟨field, List.mem_cons_self, new⟩
      · exact Or.inr ⟨later, List.mem_cons_of_mem _ inside, found⟩

theorem mem_scanField (scan : Scan) (field : Field) :
    ∀ finding ∈ (scanField payloads scan field).found,
      finding ∈ scan.found ∨ evaluateField payloads field = some finding := by
  intro finding member
  exact (List.mem_append.mp member).imp id Option.mem_toList.mp

theorem mem_scanUntested (scan : Scan) (field : Field) :
    ∀ finding ∈ (scanUntested payloads scan field).found,
      finding ∈ scan.found ∨ evaluateField payloads field = some finding := by
  intro finding member
  unfold scanUntested at member
  split at member
  · exact Or.inl member
  · exact mem_scanField scan field finding member

theorem mem_detect {dlc : Nat} {finding : Finding} (member : finding ∈ detect payloads dlc) :
    ∃ field, evaluateField payloads field = some finding := by
  unfold detect at member
  split at member
  · cases member
  · rcases mem_foldl_scan mem_scanUntested (mem_byConfidence.mp member) with
      early | ⟨field, -, found⟩
    · rcases mem_foldl_scan mem_scanField early with nothing | ⟨field, -, found⟩
      · cases nothing
      · exact ⟨field, found⟩
    · exact ⟨field, found⟩

theorem evaluateField_finding {field : Field} {finding : Finding}
    (found : evaluateField payloads field = some finding) :
    finding.hypothesis.htype = .counter ∧ finding.hypothesis.startBit = field.startBit ∧
      finding.hypothesis.length = field.length ∧
      finding.hypothesis.isLittleEndian = decide (field.byteOrder ≠ .big) ∧
      finding.hypothesis.isSigned = false ∧ finding.hypothesis.factor = 1 ∧
      finding.hypothesis.offset = 0 ∧
      finding.evaluated = fun payload => (field.extract payload).map Int.ofNat := by
  unfold evaluateField at found
  dsimp only at found
  split at found
  · cases found
  · split at found
    · cases found
    · split at found
      · cases found
        exact ⟨rfl, rfl, rfl, rfl, rfl, rfl, rfl, rfl⟩
      · cases found

end Scanning

end CounterDetector

end Ucanlab.Engine.Discovery
