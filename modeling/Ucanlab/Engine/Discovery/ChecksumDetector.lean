import Ucanlab.Core.PyText
import Ucanlab.Engine.Discovery.CounterDetector

/-!
The detection of checksums: residuals and the catalogue of cyclic checksums of 8, 16 and 32 bits,
the wider ones stored in either byte order.
-/

namespace Ucanlab.Engine.Discovery

open Ucanlab Binary64

structure CrcModel where
  name : String
  width : Nat
  poly : Nat
  init : Nat
  xorout : Nat
  refin : Bool
  refout : Bool
  table : List Nat
  deriving DecidableEq

namespace CrcModel

def reflect (val bits : Nat) : Nat :=
  (List.range bits).foldl (fun res i =>
    if (val >>> i) &&& 1 ≠ 0 then res ||| (1 <<< (bits - 1 - i)) else res) 0

def tableRound (poly width : Nat) (refin : Bool) (crc : Nat) : Nat :=
  if refin then
    if crc &&& 0x01 ≠ 0 then (crc >>> 1) ^^^ reflect poly width else crc >>> 1
  else
    let crc := crc <<< 1
    if crc &&& ((1 <<< (width - 1)) <<< 1) ≠ 0 then crc ^^^ poly else crc

def tableRounds (poly width : Nat) (refin : Bool) : Nat → Nat → Nat
  | 0, crc => crc
  | rounds + 1, crc => tableRounds poly width refin rounds (tableRound poly width refin crc)

def generateTable (poly width : Nat) (refin : Bool) : List Nat :=
  (List.range 256).map (fun byte =>
    tableRounds poly width refin 8 (if refin then byte else byte <<< (width - 8)) &&&
      ((1 <<< width) - 1))

def create (name : String) (poly width init xorout : Nat) (refin refout : Bool) : CrcModel where
  name := name
  width := width
  poly := poly
  init := init
  xorout := xorout
  refin := refin
  refout := refout
  table := generateTable poly width refin

def mask (model : CrcModel) : Nat := (1 <<< model.width) - 1

def step (model : CrcModel) (crc : Nat) (byte : UInt8) : Nat :=
  if model.refin then
    ((crc >>> 8) ^^^ model.table.getD ((crc ^^^ byte.toNat) &&& 0xFF) 0) &&& model.mask
  else
    ((crc <<< 8) &&& model.mask) ^^^
      model.table.getD (((crc >>> (model.width - 8)) ^^^ byte.toNat) &&& 0xFF) 0

def calculate (model : CrcModel) (data : Bytes) : Nat :=
  let crc := data.foldl model.step model.init
  let crc := if model.refout ≠ model.refin then reflect crc model.width else crc
  (crc ^^^ model.xorout) &&& model.mask

end CrcModel

namespace ChecksumDetector

def crc8Models : List CrcModel := [
  .create "CRC-8/AUTOSAR" 0x2F 8 0xFF 0xFF false false,
  .create "CRC-8/SAE-J1850" 0x1D 8 0xFF 0xFF false false,
  .create "CRC-8/SMBUS" 0x07 8 0x00 0x00 false false,
  .create "CRC-8/MAXIM-DOW" 0x31 8 0x00 0x00 true true,
  .create "CRC-8/HITAG" 0x1D 8 0xFF 0x00 false false,
  .create "CRC-8/GSM-A" 0x1D 8 0x00 0x00 false false]

def crc16Models : List CrcModel := [
  .create "CRC-16/CCITT-FALSE" 0x1021 16 0xFFFF 0x00 false false,
  .create "CRC-16/XMODEM" 0x1021 16 0x00 0x00 false false,
  .create "CRC-16/KERMIT" 0x1021 16 0x00 0x00 true true,
  .create "CRC-16/IBM-ARC" 0x8005 16 0x00 0x00 true true,
  .create "CRC-16/MODBUS" 0x8005 16 0xFFFF 0x00 true true]

def crc32Models : List CrcModel :=
  [.create "CRC-32/ISO-HDLC" 0x04C11DB7 32 0xFFFFFFFF 0xFFFFFFFF true true]

structure Algorithm where
  name : String
  calculator : Bytes → Nat

def sum (data : Bytes) : Nat := (data.map UInt8.toNat).sum

def simpleAlgorithms : List Algorithm := [
  ⟨"XOR-8", fun data => data.foldl (fun total byte => total ^^^ byte.toNat) 0⟩,
  ⟨"SUM-8", fun data => sum data &&& 0xFF⟩,
  ⟨"ONES_COMP_SUM-8", fun data => (0xFF - (sum data &&& 0xFF)) &&& 0xFF⟩,
  ⟨"NIBBLE_SUM-8", fun data =>
    (data.map (fun byte => (byte.toNat &&& 0x0F) + (byte.toNat >>> 4))).sum &&& 0xFF⟩]

def arithmeticChecksumConfidenceCap : Rat := nearest (85 / 100)

def cappedAlgorithms : List String := ["XOR-8", "SUM-8", "ONES_COMP_SUM-8", "NIBBLE_SUM-8"]

def covered (payload : Bytes) (coveredIndices : List Nat) : Bytes :=
  coveredIndices.map (fun index => payload.getD index 0)

/-- How many payloads carry the checksum, and how many are long enough to. -/
def matchCounts (payloads : List Bytes) (stored : Bytes → Option Nat) (expected : Bytes → Nat) :
    Nat × Nat :=
  let compared := payloads.filterMap (fun payload =>
    (stored payload).map (fun actual => decide (actual = expected payload)))
  (compared.count true, compared.length)

def evaluateChecksum (payloads : List Bytes) (targetByte : Nat) (coveredIndices : List Nat)
    (algorithm : Algorithm) : Option Finding :=
  let stored := fun payload : Bytes =>
    if payload.length ≤ max targetByte (coveredIndices.foldl max 0) then none
    else some (payload.getD targetByte 0).toNat
  let (matched, total) := matchCounts payloads stored
    (fun payload => algorithm.calculator (covered payload coveredIndices) &&& 0xFF)
  if total < 10 then none
  else
    let matchRatio := quotient matched total
    if matchRatio ≥ nearest (9 / 10) then
      let confidence := fourPlaces matchRatio
      some {
        hypothesis := {
          htype := .checksum
          startBit := targetByte * 8
          length := 8
          confidence :=
            if algorithm.name ∈ cappedAlgorithms ∧ confidence ≥ arithmeticChecksumConfidenceCap then
              fourPlaces (nearest (arithmeticChecksumConfidenceCap - nearest (1 / 100)))
            else confidence }
        evaluated := fun payload => (stored payload).map Int.ofNat }
    else none

/-- `int.from_bytes(p[start : start + width], byte_order)` of a payload that is long enough. -/
def storedBytes (start width : Nat) (byteOrder : ByteOrder) (payload : Bytes) : Option Nat :=
  if payload.length < start + width then none
  else
    match byteOrder with
    | .big => some (natFromBytes ((payload.drop start).take width))
    | .little => some (littleEndian ((payload.drop start).take width))

def evaluateMultibyteChecksum (payloads : List Bytes) (start width : Nat) (model : CrcModel)
    (coveredIndices : List Nat) (byteOrder : ByteOrder) : Option Finding :=
  let (matched, total) := matchCounts payloads (storedBytes start width byteOrder)
    (fun payload => model.calculate (covered payload coveredIndices))
  if total < 10 then none
  else
    let matchRatio := quotient matched total
    if matchRatio ≥ nearest (9 / 10) then
      some {
        hypothesis := {
          htype := .checksum
          startBit := start * 8
          length := width * 8
          byteOrder := some byteOrder
          confidence := fourPlaces matchRatio }
        evaluated := fun payload => (storedBytes start width byteOrder payload).map Int.ofNat }
    else none

/-- The last byte, the first, the one before the last and the second, each once. -/
def candidatePositions (dlc : Nat) : List Nat :=
  ([dlc - 1, 0] ++ if dlc ≥ 3 then [dlc - 2, 1] else []).foldl
    (fun positions position =>
      if position ∈ positions then positions else positions ++ [position]) []

def byteChecksums (payloads : List Bytes) (dlc : Nat) : List Finding :=
  (candidatePositions dlc).flatMap (fun targetByte =>
    (simpleAlgorithms ++ crc8Models.map (fun model => Algorithm.mk model.name model.calculate)).filterMap
      (evaluateChecksum payloads targetByte
        ((List.range dlc).filter (fun index => decide (index ≠ targetByte)))))

def trailingChecksums (payloads : List Bytes) (dlc width : Nat) (models : List CrcModel) :
    List Finding :=
  models.flatMap (fun model => [ByteOrder.big, .little].filterMap
    (evaluateMultibyteChecksum payloads (dlc - width) width model (List.range (dlc - width))))

def detect (payloads : List Bytes) (dlc : Nat) : List Finding :=
  if payloads.length < 10 ∨ dlc < 2 then []
  else
    byConfidence (byteChecksums payloads dlc ++
      (if dlc ≥ 4 then trailingChecksums payloads dlc 2 crc16Models else []) ++
      (if dlc ≥ 6 then trailingChecksums payloads dlc 4 crc32Models else []))

section Found

variable {payloads : List Bytes} {finding : Finding}

theorem evaluateChecksum_finding {targetByte : Nat} {coveredIndices : List Nat}
    {algorithm : Algorithm}
    (found : evaluateChecksum payloads targetByte coveredIndices algorithm = some finding) :
    Plain finding.hypothesis ∧ finding.hypothesis.htype = .checksum ∧
      finding.hypothesis.startBit = targetByte * 8 ∧ finding.hypothesis.length = 8 ∧
      finding.hypothesis.byteOrder = none ∧
      ∀ payload value, finding.evaluated payload = some value →
        targetByte < payload.length ∧ value = (payload.getD targetByte 0).toNat := by
  unfold evaluateChecksum at found
  dsimp only at found
  split at found
  · cases found
  · split at found
    · cases found
      refine ⟨⟨rfl, rfl, rfl, rfl⟩, rfl, rfl, rfl, rfl, ?_⟩
      intro payload value evaluated
      obtain ⟨actual, stored, rfl⟩ := Option.map_eq_some_iff.mp evaluated
      split at stored
      · cases stored
      · cases stored
        exact ⟨by omega, rfl⟩
    · cases found

theorem evaluateMultibyteChecksum_finding {start width : Nat} {model : CrcModel}
    {coveredIndices : List Nat} {byteOrder : ByteOrder}
    (found : evaluateMultibyteChecksum payloads start width model coveredIndices byteOrder =
      some finding) :
    Plain finding.hypothesis ∧ finding.hypothesis.htype = .checksum ∧
      finding.hypothesis.startBit = start * 8 ∧ finding.hypothesis.length = width * 8 ∧
      finding.hypothesis.byteOrder = some byteOrder ∧
      finding.evaluated = fun payload =>
        (storedBytes start width byteOrder payload).map Int.ofNat := by
  unfold evaluateMultibyteChecksum at found
  dsimp only at found
  split at found
  · cases found
  · split at found
    · cases found
      exact ⟨⟨rfl, rfl, rfl, rfl⟩, rfl, rfl, rfl, rfl, rfl⟩
    · cases found

theorem mem_detect {dlc : Nat} (member : finding ∈ detect payloads dlc) :
    (∃ targetByte coveredIndices algorithm,
      evaluateChecksum payloads targetByte coveredIndices algorithm = some finding) ∨
    ∃ start width model coveredIndices byteOrder,
      evaluateMultibyteChecksum payloads start width model coveredIndices byteOrder =
        some finding := by
  have trailing {width : Nat} {models : List CrcModel}
      (member : finding ∈ trailingChecksums payloads dlc width models) :
      ∃ start width model coveredIndices byteOrder,
        evaluateMultibyteChecksum payloads start width model coveredIndices byteOrder =
          some finding := by
    obtain ⟨model, -, either⟩ := List.mem_flatMap.mp member
    obtain ⟨byteOrder, -, found⟩ := List.mem_filterMap.mp either
    exact ⟨_, _, model, _, byteOrder, found⟩
  unfold detect at member
  split at member
  · cases member
  · rcases List.mem_append.mp (CounterDetector.mem_byConfidence.mp member) with first | last
    · rcases List.mem_append.mp first with byte | last
      · obtain ⟨targetByte, -, either⟩ := List.mem_flatMap.mp byte
        obtain ⟨algorithm, -, found⟩ := List.mem_filterMap.mp either
        exact Or.inl ⟨targetByte, _, algorithm, found⟩
      · split at last
        · exact Or.inr (trailing last)
        · cases last
    · split at last
      · exact Or.inr (trailing last)
      · cases last

theorem crc16_mem_detect {dlc : Nat} (long : 10 ≤ payloads.length) (wide : 4 ≤ dlc)
    {model : CrcModel} (listed : model ∈ crc16Models) {byteOrder : ByteOrder}
    (found : evaluateMultibyteChecksum payloads (dlc - 2) 2 model (List.range (dlc - 2)) byteOrder =
      some finding) : finding ∈ detect payloads dlc := by
  have either : byteOrder ∈ [ByteOrder.big, .little] := by
    cases byteOrder with
    | big => exact List.mem_cons_self
    | little => exact List.mem_cons_of_mem _ List.mem_cons_self
  have trailing : finding ∈ trailingChecksums payloads dlc 2 crc16Models :=
    List.mem_flatMap.mpr ⟨model, listed, List.mem_filterMap.mpr ⟨byteOrder, either, found⟩⟩
  unfold detect
  rw [if_neg (by omega), if_pos wide]
  exact CounterDetector.mem_byConfidence.mpr
    (List.mem_append_left _ (List.mem_append_right _ trailing))

end Found

end ChecksumDetector

end Ucanlab.Engine.Discovery
