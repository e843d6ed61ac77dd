import Ucanlab.Engine.Discovery.CounterDetector

/-!
The segmentation of the bytes that are left into physical signals: pairs of bytes in the byte order
and the sign that their series suggest, twelve packed bits, and single bytes.
-/

namespace Ucanlab.Engine.Discovery.Segmenter

open Ucanlab Binary64 BitLayout

/-- `_extract_bits_lsb0`. -/
def extractBitsLsb0 (payload : Bytes) (startBit length : Nat) : Option Nat :=
  CounterDetector.extractLittle payload length startBit 0 0

def leWord (payload : Bytes) (byteIdx : Nat) : Nat :=
  (payload.getD byteIdx 0).toNat ||| ((payload.getD (byteIdx + 1) 0).toNat <<< 8)

def beWord (payload : Bytes) (byteIdx : Nat) : Nat :=
  ((payload.getD byteIdx 0).toNat <<< 8) ||| (payload.getD (byteIdx + 1) 0).toNat

def bounds (values : List Int) : Option (Int × Int) :=
  match values.min?, values.max? with
  | some minV, some maxV => some (minV, maxV)
  | _, _ => none

def uniqueCount (values : List Nat) : Nat := values.dedup.length

def evaluatePacked12bitSignal (payloads : List Bytes) (byteIdx bitOffset : Nat) : Option Finding :=
  let startBit := byteIdx * 8 + bitOffset
  let evaluated := fun payload : Bytes => (extractBitsLsb0 payload startBit 12).map Int.ofNat
  let values := payloads.filterMap evaluated
  if values.length < 5 then none
  else
    match bounds values with
    | none => none
    | some (minV, maxV) =>
        if maxV = minV then none
        else some {
          hypothesis := {
            htype := .signal
            startBit := startBit
            length := 12
            minValue := some minV
            maxValue := some maxV
            confidence := nearest (70 / 100)
            byteOrder := some .little }
          evaluated := evaluated }

/-- The part of the steps of a series that do not go down. -/
def monotonicRatio (values : List Nat) : Rat :=
  if values.length < 2 then 0
  else
    quotient ((values.zip values.tail).countP (fun pair => decide (pair.2 ≥ pair.1)))
      (values.length - 1)

/-- The smoother byte order, or the one whose first byte is the busier where both are as smooth. -/
def isLittle (payloads : List Bytes) (byteIdx b0Unique b1Unique : Nat) : Bool :=
  let leMono := monotonicRatio (payloads.map (fun payload => leWord payload byteIdx))
  let beMono := monotonicRatio (payloads.map (fun payload => beWord payload byteIdx))
  let difference := nearest (leMono - beMono)
  if (if difference < 0 then -difference else difference) ≥ nearest (5 / 100) then
    decide (leMono > beMono)
  else decide (b0Unique ≥ b1Unique)

/-- The high bytes run up to `0xFF` and the values across the sign. -/
def looksSigned (values : List Nat) : Bool :=
  match bounds (values.map Int.ofNat) with
  | none => false
  | some (minV, maxV) =>
      decide (minV < 0x8000) && values.any (fun value => decide (value >>> 8 = 0xFF)) &&
        decide (maxV - minV > 0x8000)

def reinterpret (isSigned : Bool) (value : Nat) : Int :=
  if isSigned then (if value ≥ 0x8000 then (value : Int) - 0x10000 else value) else value

def evaluate16bitSignal (payloads : List Bytes) (byteIdx : Nat) : Option Finding :=
  let long := payloads.filter (fun payload => decide (payload.length > byteIdx + 1))
  let rawB0 := long.map (fun payload => (payload.getD byteIdx 0).toNat)
  let rawB1 := long.map (fun payload => (payload.getD (byteIdx + 1) 0).toNat)
  if rawB0.length < 5 then none
  else
    let b0Unique := uniqueCount rawB0
    let b1Unique := uniqueCount rawB1
    if b0Unique = 1 ∧ b1Unique = 1 then
      some {
        hypothesis := {
          htype := .constant
          startBit := byteIdx * 8
          length := 16
          confidence := nearest (95 / 100) }
        evaluated := fun payload =>
          if payload.length > byteIdx + 1 then some (leWord payload byteIdx : Int) else none }
    else
      let isLe := isLittle long byteIdx b0Unique b1Unique
      let word := fun payload => if isLe then leWord payload byteIdx else beWord payload byteIdx
      let isSigned := looksSigned (long.map word)
      let values := long.map (fun payload => reinterpret isSigned (word payload))
      match bounds values with
      | none => none
      | some (minV, maxV) =>
          some {
            hypothesis := {
              htype := .signal
              startBit := byteIdx * 8
              length := 16
              isLittleEndian := isLe
              isSigned := isSigned
              minValue := some minV
              maxValue := some maxV
              confidence := if maxV - minV > 0 then nearest (85 / 100) else nearest (50 / 100) }
            evaluated := fun payload =>
              if payload.length > byteIdx + 1 then some (reinterpret isSigned (word payload))
              else none }

def evaluate8bitSignal (payloads : List Bytes) (byteIdx : Nat) : Option Finding :=
  let evaluated := fun payload : Bytes =>
    if payload.length > byteIdx then some ((payload.getD byteIdx 0).toNat : Int) else none
  let rawBytes := payloads.filterMap evaluated
  match bounds rawBytes with
  | none => none
  | some (minV, maxV) =>
      if rawBytes.dedup.length = 1 then
        some {
          hypothesis := {
            htype := .constant
            startBit := byteIdx * 8
            length := 8
            confidence := nearest (95 / 100) }
          evaluated := evaluated }
      else
        some {
          hypothesis := {
            htype := .signal
            startBit := byteIdx * 8
            length := 8
            minValue := some minV
            maxValue := some maxV
            confidence := nearest (75 / 100) }
          evaluated := evaluated }

/-- The search for pairs of bytes, with the bytes that it leaves. A round moves on by a byte at
least, so there are rounds enough for all bytes. -/
def findPairs (payloads : List Bytes) (dlc : Nat) :
    Nat → Nat → (Nat → Bool) → List Finding × (Nat → Bool)
  | 0, _, available => ([], available)
  | rounds + 1, byteIdx, available =>
      if byteIdx < dlc - 1 then
        match
          if available byteIdx && available (byteIdx + 1) then evaluate16bitSignal payloads byteIdx
          else none with
        | some sig16 =>
            let left := fun index =>
              available index && decide (index ≠ byteIdx) && decide (index ≠ byteIdx + 1)
            match findPairs payloads dlc rounds (byteIdx + 2) left with
            | (rest, last) => (sig16 :: rest, last)
        | none => findPairs payloads dlc rounds (byteIdx + 1) available
      else ([], available)

def segment (payloads : List Bytes) (dlc : Nat) (occupiedSpans : List (Nat × Nat)) : List Finding :=
  if payloads.length < 5 ∨ dlc = 0 then []
  else
    let occupied := fun bit => occupiedSpans.any (fun span =>
      decide (span.1 ≤ bit ∧ bit < span.1 + span.2))
    let available := fun byteIdx => !((List.range 8).any (fun bit => occupied (byteIdx * 8 + bit)))
    let (pairs, left) := findPairs payloads dlc dlc 0 available
    let packed := (List.range (dlc - 1)).flatMap (fun byteIdx => [0, 4].filterMap (fun bitOffset =>
      if (List.range 12).any (fun bit => occupied (byteIdx * 8 + bitOffset + bit)) then none
      else evaluatePacked12bitSignal payloads byteIdx bitOffset))
    let single := (List.range dlc).filterMap (fun byteIdx =>
      if left byteIdx then evaluate8bitSignal payloads byteIdx else none)
    pairs ++ packed ++ single

section Found

variable {payloads : List Bytes} {finding : Finding}

theorem bounds_spec {values : List Int} {minV maxV : Int} (bounded : bounds values = some (minV, maxV)) :
    ∀ value ∈ values, minV ≤ value ∧ value ≤ maxV := by
  unfold bounds at bounded
  split at bounded
  · rename_i lowest highest
    cases bounded
    intro value member
    exact ⟨(List.min?_eq_some_iff.mp lowest).2 value member,
      (List.max?_eq_some_iff.mp highest).2 value member⟩
  · cases bounded

def Bounded (payloads : List Bytes) (finding : Finding) : Prop :=
  ∀ payload ∈ payloads, ∀ value, finding.evaluated payload = some value →
    ∃ minV maxV : Rat, finding.hypothesis.minValue = some minV ∧
      finding.hypothesis.maxValue = some maxV ∧ minV ≤ value ∧ (value : Rat) ≤ maxV

theorem bounded_of_bounds {minV maxV : Int}
    (bounded : bounds (payloads.filterMap finding.evaluated) = some (minV, maxV))
    (low : finding.hypothesis.minValue = some (minV : Rat))
    (high : finding.hypothesis.maxValue = some (maxV : Rat)) : Bounded payloads finding := by
  intro payload member value evaluated
  have listed : value ∈ payloads.filterMap finding.evaluated :=
    List.mem_filterMap.mpr ⟨payload, member, evaluated⟩
  obtain ⟨above, below⟩ := bounds_spec bounded value listed
  exact ⟨minV, maxV, low, high, Rat.intCast_le_intCast.mpr above, Rat.intCast_le_intCast.mpr below⟩

theorem evaluatePacked12bitSignal_finding {byteIdx bitOffset : Nat}
    (found : evaluatePacked12bitSignal payloads byteIdx bitOffset = some finding) :
    Plain finding.hypothesis ∧ finding.hypothesis.htype = .signal ∧
      finding.hypothesis.startBit = byteIdx * 8 + bitOffset ∧ finding.hypothesis.length = 12 ∧
      (finding.evaluated = fun payload =>
        (extractBitsLsb0 payload (byteIdx * 8 + bitOffset) 12).map Int.ofNat) ∧
      Bounded payloads finding := by
  unfold evaluatePacked12bitSignal at found
  dsimp only at found
  split at found
  · cases found
  · split at found
    · cases found
    · rename_i bounded
      split at found
      · cases found
      · cases found
        exact ⟨⟨rfl, rfl, rfl, rfl⟩, rfl, rfl, rfl, rfl, bounded_of_bounds bounded rfl rfl⟩

theorem evaluate8bitSignal_finding {byteIdx : Nat}
    (found : evaluate8bitSignal payloads byteIdx = some finding) :
    Plain finding.hypothesis ∧ finding.hypothesis.htype ≠ .checksum ∧
      finding.hypothesis.startBit = byteIdx * 8 ∧ finding.hypothesis.length = 8 ∧
      (finding.evaluated = fun payload =>
        if payload.length > byteIdx then some ((payload.getD byteIdx 0).toNat : Int) else none) ∧
      (finding.hypothesis.htype = .signal → Bounded payloads finding) := by
  unfold evaluate8bitSignal at found
  dsimp only at found
  split at found
  · cases found
  · rename_i bounded
    split at found
    · cases found
      exact ⟨⟨rfl, rfl, rfl, rfl⟩, nofun, rfl, rfl, rfl, nofun⟩
    · cases found
      exact ⟨⟨rfl, rfl, rfl, rfl⟩, nofun, rfl, rfl, rfl, fun _ => bounded_of_bounds bounded rfl rfl⟩

theorem filterMap_of_filter {α β : Type} (long : α → Prop) [DecidablePred long] (value : α → β)
    (items : List α) :
    items.filterMap (fun item => if long item then some (value item) else none) =
      (items.filter (fun item => decide (long item))).map value := by
  induction items with
  | nil => rfl
  | cons item rest ih =>
      by_cases fits : long item
      · simp only [List.filterMap_cons, List.filter_cons, if_pos fits, decide_eq_true fits,
          if_true, List.map_cons, ih]
      · simp only [List.filterMap_cons, List.filter_cons, if_neg fits, decide_eq_false fits,
          Bool.false_eq_true, if_false, ih]

theorem evaluate16bitSignal_finding {byteIdx : Nat}
    (found : evaluate16bitSignal payloads byteIdx = some finding) :
    ∃ isLe isSigned, finding.hypothesis.isLittleEndian = isLe ∧
      finding.hypothesis.isSigned = isSigned ∧ finding.hypothesis.factor = 1 ∧
      finding.hypothesis.offset = 0 ∧ finding.hypothesis.htype ≠ .checksum ∧
      finding.hypothesis.startBit = byteIdx * 8 ∧ finding.hypothesis.length = 16 ∧
      (finding.evaluated = fun payload =>
        if payload.length > byteIdx + 1 then
          some (reinterpret isSigned (if isLe then leWord payload byteIdx else beWord payload byteIdx))
        else none) ∧
      (finding.hypothesis.htype = .signal → Bounded payloads finding) := by
  unfold evaluate16bitSignal at found
  dsimp only at found
  split at found
  · cases found
  · split at found
    · cases found
      exact ⟨true, false, rfl, rfl, rfl, rfl, nofun, rfl, rfl, rfl, nofun⟩
    · split at found
      · cases found
      · rename_i bounded
        cases found
        refine ⟨_, _, rfl, rfl, rfl, rfl, nofun, rfl, rfl, rfl, fun _ => ?_⟩
        refine bounded_of_bounds ?_ rfl rfl
        rw [filterMap_of_filter]
        exact bounded

theorem mem_findPairs {dlc rounds byteIdx : Nat} {available : Nat → Bool}
    (member : finding ∈ (findPairs payloads dlc rounds byteIdx available).1) :
    ∃ index, evaluate16bitSignal payloads index = some finding := by
  induction rounds generalizing byteIdx available with
  | zero => cases member
  | succ rounds ih =>
      unfold findPairs at member
      split at member
      · split at member
        · rename_i sig16 evaluated
          rcases List.mem_cons.mp member with same | later
          · split at evaluated
            · exact ⟨byteIdx, same ▸ evaluated⟩
            · cases evaluated
          · exact ih later
        · exact ih member
      · cases member

theorem mem_segment {dlc : Nat} {occupiedSpans : List (Nat × Nat)}
    (member : finding ∈ segment payloads dlc occupiedSpans) :
    (∃ byteIdx, evaluate16bitSignal payloads byteIdx = some finding) ∨
      (∃ byteIdx bitOffset, evaluatePacked12bitSignal payloads byteIdx bitOffset = some finding) ∨
      ∃ byteIdx, evaluate8bitSignal payloads byteIdx = some finding := by
  unfold segment at member
  split at member
  · cases member
  · dsimp only at member
    rcases List.mem_append.mp member with first | single
    · rcases List.mem_append.mp first with pair | packed
      · exact Or.inl (mem_findPairs pair)
      · obtain ⟨byteIdx, -, either⟩ := List.mem_flatMap.mp packed
        obtain ⟨bitOffset, -, found⟩ := List.mem_filterMap.mp either
        split at found
        · cases found
        · exact Or.inr (Or.inl ⟨byteIdx, bitOffset, found⟩)
    · obtain ⟨byteIdx, -, found⟩ := List.mem_filterMap.mp single
      split at found
      · exact Or.inr (Or.inr ⟨byteIdx, found⟩)
      · cases found

end Found

end Ucanlab.Engine.Discovery.Segmenter

/-!
What the segmentation covers: hypotheses on whole bytes that share no bit with each other or with
what is occupied, and one of them over every free byte that some payload contains.
-/

namespace Ucanlab.Engine.Discovery.Segmenter

open Ucanlab BitLayout

def Covers (finding : Finding) (bit : Nat) : Prop :=
  finding.hypothesis.startBit ≤ bit ∧ bit < finding.hypothesis.startBit + finding.hypothesis.length

def Apart (first second : Finding) : Prop :=
  ∀ bit, ¬ (Covers first bit ∧ Covers second bit)

def Occupied (occupiedSpans : List (Nat × Nat)) (bit : Nat) : Prop :=
  ∃ span ∈ occupiedSpans, span.1 ≤ bit ∧ bit < span.1 + span.2

def Free (occupiedSpans : List (Nat × Nat)) (byteIdx : Nat) : Prop :=
  ∀ bit, bit < 8 → ¬ Occupied occupiedSpans (byteIdx * 8 + bit)

def byteAligned (finding : Finding) : Bool :=
  finding.hypothesis.length == 8 || finding.hypothesis.length == 16

section Search

variable {payloads : List Bytes} {finding : Finding} {dlc byteIdx : Nat} {available : Nat → Bool}

structure PairsFound (dlc byteIdx : Nat) (available : Nat → Bool)
    (result : List Finding × (Nat → Bool)) : Prop where
  placed : ∀ pair ∈ result.1, ∃ index, byteIdx ≤ index ∧ index + 1 < dlc ∧
    available index = true ∧ available (index + 1) = true ∧
    pair.hypothesis.startBit = index * 8 ∧ pair.hypothesis.length = 16
  apart : result.1.Pairwise Apart
  left : ∀ index, result.2 index = true ↔
    available index = true ∧ ∀ pair ∈ result.1, ¬ Covers pair (index * 8)

theorem PairsFound.nothing : PairsFound dlc byteIdx available ([], available) where
  placed _ member := absurd member List.not_mem_nil
  apart := List.Pairwise.nil
  left _ := ⟨fun free => ⟨free, fun _ member => absurd member List.not_mem_nil⟩, And.left⟩

theorem PairsFound.skip {result : List Finding × (Nat → Bool)}
    (found : PairsFound dlc (byteIdx + 1) available result) :
    PairsFound dlc byteIdx available result where
  placed := by
    intro pair member
    obtain ⟨index, beyond, rest⟩ := found.placed pair member
    exact ⟨index, by omega, rest⟩
  apart := found.apart
  left := found.left

theorem PairsFound.take {sig16 : Finding} {rest : List Finding} {last : Nat → Bool}
    (inside : byteIdx + 1 < dlc) (first : available byteIdx = true)
    (second : available (byteIdx + 1) = true)
    (start : sig16.hypothesis.startBit = byteIdx * 8) (length : sig16.hypothesis.length = 16)
    (found : PairsFound dlc (byteIdx + 2) (fun index =>
      available index && decide (index ≠ byteIdx) && decide (index ≠ byteIdx + 1)) (rest, last)) :
    PairsFound dlc byteIdx available (sig16 :: rest, last) where
  placed := by
    intro pair member
    rcases List.mem_cons.mp member with same | later
    · exact ⟨byteIdx, Nat.le_refl _, inside, first, second, same ▸ start, same ▸ length⟩
    · obtain ⟨index, beyond, within, free, next, rest⟩ := found.placed pair later
      simp only [Bool.and_eq_true] at free next
      exact ⟨index, by omega, within, free.1.1, next.1.1, rest⟩
  apart := by
    refine List.pairwise_cons.mpr ⟨?_, found.apart⟩
    intro pair later bit both
    obtain ⟨index, beyond, -, -, -, begins, wide⟩ := found.placed pair later
    obtain ⟨⟨-, below⟩, above, -⟩ := both
    omega
  left := by
    intro index
    rw [found.left index]
    simp only [Bool.and_eq_true, decide_eq_true_eq, List.forall_mem_cons]
    have covers : Covers sig16 (index * 8) ↔ index = byteIdx ∨ index = byteIdx + 1 := by
      unfold Covers
      omega
    rw [covers]
    tauto

theorem findPairs_found (rounds : Nat) :
    PairsFound dlc byteIdx available (findPairs payloads dlc rounds byteIdx available) := by
  induction rounds generalizing byteIdx available with
  | zero => exact .nothing
  | succ rounds ih =>
      unfold findPairs
      split
      · rename_i more
        split
        · rename_i sig16 evaluated
          split at evaluated
          · rename_i both
            obtain ⟨first, second⟩ := Bool.and_eq_true_iff.mp both
            obtain ⟨-, -, -, -, -, -, -, start, length, -⟩ := evaluate16bitSignal_finding evaluated
            exact .take (by omega) first second start length ih
          · cases evaluated
        · exact .skip ih
      · exact .nothing

theorem evaluate8bitSignal_contained {payload : Bytes} (member : payload ∈ payloads)
    (contained : byteIdx < payload.length) :
    ∃ found, evaluate8bitSignal payloads byteIdx = some found := by
  have listed : ((payload.getD byteIdx 0).toNat : Int) ∈ payloads.filterMap (fun payload =>
      if payload.length > byteIdx then some ((payload.getD byteIdx 0).toNat : Int) else none) :=
    List.mem_filterMap.mpr ⟨payload, member, if_pos contained⟩
  unfold evaluate8bitSignal
  dsimp only
  split
  · rename_i unbounded
    have nonempty := List.ne_nil_of_mem listed
    unfold bounds at unbounded
    split at unbounded
    · cases unbounded
    · rename_i missing
      obtain ⟨minV, lowest⟩ := Option.isSome_iff_exists.mp (List.isSome_min?_of_ne_nil nonempty)
      obtain ⟨maxV, highest⟩ := Option.isSome_iff_exists.mp (List.isSome_max?_of_ne_nil nonempty)
      exact absurd highest (missing minV maxV lowest)
  · split
    · exact ⟨_, rfl⟩
    · exact ⟨_, rfl⟩

end Search

section Phases

variable {payloads : List Bytes} {finding : Finding} {dlc : Nat} {occupiedSpans : List (Nat × Nat)}

def occupiedBit (occupiedSpans : List (Nat × Nat)) (bit : Nat) : Bool :=
  occupiedSpans.any (fun span => decide (span.1 ≤ bit ∧ bit < span.1 + span.2))

def freeByte (occupiedSpans : List (Nat × Nat)) (byteIdx : Nat) : Bool :=
  !((List.range 8).any (fun bit => occupiedBit occupiedSpans (byteIdx * 8 + bit)))

def pairSearch (payloads : List Bytes) (dlc : Nat) (occupiedSpans : List (Nat × Nat)) :
    List Finding × (Nat → Bool) :=
  findPairs payloads dlc dlc 0 (freeByte occupiedSpans)

def packedFields (payloads : List Bytes) (dlc : Nat) (occupiedSpans : List (Nat × Nat)) :
    List Finding :=
  (List.range (dlc - 1)).flatMap (fun byteIdx => [0, 4].filterMap (fun bitOffset =>
    if (List.range 12).any (fun bit => occupiedBit occupiedSpans (byteIdx * 8 + bitOffset + bit)) then
      none
    else evaluatePacked12bitSignal payloads byteIdx bitOffset))

def singleBytes (payloads : List Bytes) (dlc : Nat) (left : Nat → Bool) : List Finding :=
  (List.range dlc).filterMap (fun byteIdx =>
    if left byteIdx then evaluate8bitSignal payloads byteIdx else none)

theorem segment_phases (enough : 5 ≤ payloads.length) (positive : 0 < dlc) :
    segment payloads dlc occupiedSpans =
      (pairSearch payloads dlc occupiedSpans).1 ++ packedFields payloads dlc occupiedSpans ++
        singleBytes payloads dlc (pairSearch payloads dlc occupiedSpans).2 := by
  unfold segment
  rw [if_neg (by omega)]
  rfl

theorem enough_of_mem (member : finding ∈ segment payloads dlc occupiedSpans) :
    5 ≤ payloads.length ∧ 0 < dlc := by
  unfold segment at member
  split at member
  · cases member
  · omega

@[simp] theorem occupiedBit_iff (bit : Nat) :
    occupiedBit occupiedSpans bit = true ↔ Occupied occupiedSpans bit := by
  simp [occupiedBit, Occupied]

theorem freeByte_iff (byteIdx : Nat) :
    freeByte occupiedSpans byteIdx = true ↔ Free occupiedSpans byteIdx := by
  simp [freeByte, Free, ← Bool.not_eq_true]

theorem pairSearch_found :
    PairsFound dlc 0 (freeByte occupiedSpans) (pairSearch payloads dlc occupiedSpans) :=
  findPairs_found dlc

theorem mem_packedFields (member : finding ∈ packedFields payloads dlc occupiedSpans) :
    ∃ byteIdx bitOffset, byteIdx + 1 < dlc ∧ bitOffset ≤ 4 ∧
      (∀ bit, bit < 12 → ¬ Occupied occupiedSpans (byteIdx * 8 + bitOffset + bit)) ∧
      finding.hypothesis.startBit = byteIdx * 8 + bitOffset ∧ finding.hypothesis.length = 12 := by
  obtain ⟨byteIdx, inside, either⟩ := List.mem_flatMap.mp member
  obtain ⟨bitOffset, offset, found⟩ := List.mem_filterMap.mp either
  rw [List.mem_range] at inside
  split at found
  · cases found
  · rename_i free
    obtain ⟨-, -, start, length, -⟩ := evaluatePacked12bitSignal_finding found
    refine ⟨byteIdx, bitOffset, by omega, ?_, ?_, start, length⟩
    · rcases List.mem_pair.mp offset with rfl | rfl
      · exact Nat.zero_le 4
      · exact Nat.le_refl 4
    · intro bit below taken
      exact free (List.any_eq_true.mpr
        ⟨bit, List.mem_range.mpr below, (occupiedBit_iff _).mpr taken⟩)

theorem mem_singleBytes {left : Nat → Bool} (member : finding ∈ singleBytes payloads dlc left) :
    ∃ byteIdx, byteIdx < dlc ∧ left byteIdx = true ∧
      finding.hypothesis.startBit = byteIdx * 8 ∧ finding.hypothesis.length = 8 := by
  obtain ⟨byteIdx, inside, found⟩ := List.mem_filterMap.mp member
  split at found
  · rename_i free
    obtain ⟨-, -, start, length, -⟩ := evaluate8bitSignal_finding found
    exact ⟨byteIdx, List.mem_range.mp inside, free, start, length⟩
  · cases found

theorem singleBytes_apart (left : Nat → Bool) :
    (singleBytes payloads dlc left).Pairwise Apart := by
  refine List.pairwise_filterMap.mpr (List.pairwise_lt_range.imp ?_)
  intro first second below one oneFound other otherFound bit both
  split at oneFound
  · split at otherFound
    · obtain ⟨-, -, oneStart, oneLength, -⟩ := evaluate8bitSignal_finding oneFound
      obtain ⟨-, -, otherStart, -⟩ := evaluate8bitSignal_finding otherFound
      obtain ⟨⟨-, under⟩, above, -⟩ := both
      omega
    · cases otherFound
  · cases oneFound

theorem pair_single_apart {pair single : Finding}
    (paired : pair ∈ (pairSearch payloads dlc occupiedSpans).1)
    (alone : single ∈ singleBytes payloads dlc (pairSearch payloads dlc occupiedSpans).2) :
    Apart pair single := by
  obtain ⟨byteIdx, -, left, start, length⟩ := mem_singleBytes alone
  obtain ⟨-, outside⟩ := (pairSearch_found.left byteIdx).mp left
  obtain ⟨index, -, -, -, -, begins, wide⟩ := pairSearch_found.placed pair paired
  intro bit both
  refine outside pair paired ?_
  unfold Covers at both ⊢
  omega

theorem byteAligned_apart :
    ((segment payloads dlc occupiedSpans).filter byteAligned).Pairwise Apart := by
  by_cases emits : 5 ≤ payloads.length ∧ 0 < dlc
  · have packed : (packedFields payloads dlc occupiedSpans).filter byteAligned = [] := by
      refine List.filter_eq_nil_iff.mpr (fun finding member => ?_)
      obtain ⟨-, -, -, -, -, -, length⟩ := mem_packedFields member
      simp [byteAligned, length]
    rw [segment_phases emits.1 emits.2, List.filter_append, List.filter_append, packed,
      List.append_nil]
    refine List.pairwise_append.mpr ⟨?_, ?_, ?_⟩
    · exact pairSearch_found.apart.filter _
    · exact (singleBytes_apart _).filter _
    · intro pair paired single alone
      exact pair_single_apart (List.mem_of_mem_filter paired) (List.mem_of_mem_filter alone)
  · have silent : segment payloads dlc occupiedSpans = [] :=
      List.eq_nil_iff_forall_not_mem.mpr (fun finding member => emits (enough_of_mem member))
    rw [silent]
    exact List.Pairwise.nil

theorem not_occupied_of_free {byteIdx bit : Nat} (free : Free occupiedSpans byteIdx)
    (above : byteIdx * 8 ≤ bit) (below : bit < byteIdx * 8 + 8) : ¬ Occupied occupiedSpans bit := by
  have inside := free (bit - byteIdx * 8) (by omega)
  rwa [Nat.add_sub_cancel' above] at inside

theorem segment_placed (member : finding ∈ segment payloads dlc occupiedSpans) :
    (byteAligned finding = true → 8 ∣ finding.hypothesis.startBit) ∧
      ∀ bit, Covers finding bit → ¬ Occupied occupiedSpans bit ∧ bit < dlc * 8 := by
  obtain ⟨enough, positive⟩ := enough_of_mem member
  rw [segment_phases enough positive] at member
  rcases List.mem_append.mp member with first | single
  · rcases List.mem_append.mp first with pair | packed
    · obtain ⟨index, -, inside, free, next, start, length⟩ := pairSearch_found.placed finding pair
      refine ⟨fun _ => ⟨index, by omega⟩, fun bit covered => ?_⟩
      unfold Covers at covered
      refine ⟨?_, by omega⟩
      by_cases lower : bit < index * 8 + 8
      · exact not_occupied_of_free ((freeByte_iff index).mp free) (by omega) lower
      · exact not_occupied_of_free ((freeByte_iff (index + 1)).mp next) (by omega) (by omega)
    · obtain ⟨byteIdx, bitOffset, inside, offset, free, start, length⟩ := mem_packedFields packed
      refine ⟨fun aligned => ?_, fun bit covered => ?_⟩
      · simp [byteAligned, length] at aligned
      · unfold Covers at covered
        have unoccupied := free (bit - (byteIdx * 8 + bitOffset)) (by omega)
        rw [Nat.add_sub_cancel' (by omega)] at unoccupied
        exact ⟨unoccupied, by omega⟩
  · obtain ⟨byteIdx, inside, left, start, length⟩ := mem_singleBytes single
    obtain ⟨free, -⟩ := (pairSearch_found.left byteIdx).mp left
    refine ⟨fun _ => ⟨byteIdx, by omega⟩, fun bit covered => ?_⟩
    unfold Covers at covered
    exact ⟨not_occupied_of_free ((freeByte_iff byteIdx).mp free) (by omega) (by omega), by omega⟩

theorem segment_reaches {byteIdx : Nat} {payload : Bytes} (enough : 5 ≤ payloads.length)
    (inside : byteIdx < dlc) (free : Free occupiedSpans byteIdx) (member : payload ∈ payloads)
    (contained : byteIdx < payload.length) :
    ∃ finding ∈ segment payloads dlc occupiedSpans, byteAligned finding = true ∧
      ∀ bit, bit < 8 → Covers finding (byteIdx * 8 + bit) := by
  rw [segment_phases enough (by omega)]
  by_cases left : (pairSearch payloads dlc occupiedSpans).2 byteIdx = true
  · obtain ⟨found, evaluated⟩ := evaluate8bitSignal_contained member contained
    obtain ⟨-, -, start, length, -⟩ := evaluate8bitSignal_finding evaluated
    have single : found ∈ singleBytes payloads dlc (pairSearch payloads dlc occupiedSpans).2 :=
      List.mem_filterMap.mpr ⟨byteIdx, List.mem_range.mpr inside, by rw [if_pos left, evaluated]⟩
    refine ⟨found, List.mem_append_right _ single, by simp [byteAligned, length],
      fun bit below => ?_⟩
    unfold Covers
    omega
  · rw [pairSearch_found.left byteIdx, not_and] at left
    have paired := left ((freeByte_iff byteIdx).mpr free)
    push Not at paired
    obtain ⟨pair, found, covers⟩ := paired
    obtain ⟨index, -, -, -, -, start, length⟩ := pairSearch_found.placed pair found
    refine ⟨pair, List.mem_append_left _ (List.mem_append_left _ found),
      by simp [byteAligned, length], fun bit below => ?_⟩
    unfold Covers at covers ⊢
    omega

end Phases

theorem segment_covers (payloads : List Bytes) (dlc : Nat) (occupiedSpans : List (Nat × Nat)) :
    ((segment payloads dlc occupiedSpans).filter byteAligned).Pairwise Apart ∧
      (∀ finding ∈ segment payloads dlc occupiedSpans,
        (byteAligned finding = true → 8 ∣ finding.hypothesis.startBit) ∧
          ∀ bit, Covers finding bit → ¬ Occupied occupiedSpans bit ∧ bit < dlc * 8) ∧
      (5 ≤ payloads.length → ∀ byteIdx < dlc, Free occupiedSpans byteIdx →
        (∃ payload ∈ payloads, byteIdx < payload.length) →
          ∃ finding ∈ segment payloads dlc occupiedSpans, byteAligned finding = true ∧
            ∀ bit, bit < 8 → Covers finding (byteIdx * 8 + bit)) := by
  refine ⟨byteAligned_apart, fun finding member => segment_placed member, ?_⟩
  rintro enough byteIdx inside free ⟨payload, member, contained⟩
  exact segment_reaches enough inside free member contained

/-- Four payloads are too few for a hypothesis on the byte that they all contain. -/
theorem segment_few_uncovered :
    ¬ ∀ (payloads : List Bytes) (dlc : Nat) (occupiedSpans : List (Nat × Nat)),
      ∀ byteIdx < dlc, Free occupiedSpans byteIdx →
        (∃ payload ∈ payloads, byteIdx < payload.length) →
          ∃ finding ∈ segment payloads dlc occupiedSpans, byteAligned finding = true ∧
            ∀ bit, bit < 8 → Covers finding (byteIdx * 8 + bit) := by
  intro covered
  have free : Free [] 0 := fun bit _ taken => by
    obtain ⟨span, member, -⟩ := taken
    cases member
  obtain ⟨finding, member, -⟩ :=
    covered [[1], [2], [3], [4]] 1 [] 0 (by decide) free ⟨[1], by decide, by decide⟩
  cases member

end Ucanlab.Engine.Discovery.Segmenter
