import Ucanlab.Engine.Discovery.ChecksumDetector
import Ucanlab.Lib.CyclicCode

/-!
The checksums by table against the definition that takes the data bit by bit. A reflected model
reflects its polynomial but not its initial value.
-/

namespace Ucanlab.Engine.Discovery.CrcModel

open Ucanlab CyclicCode

def parameters (model : CrcModel) : Parameters model.width where
  poly := BitVec.ofNat model.width model.poly
  init := BitVec.ofNat model.width model.init
  xorout := BitVec.ofNat model.width model.xorout
  refin := model.refin
  refout := model.refout

def bitSerial (model : CrcModel) (data : Bytes) : Nat :=
  (model.parameters.bitSerial (data.map UInt8.toBitVec)).toNat

def Symmetric (model : CrcModel) : Prop :=
  reflect model.init model.width = model.init % 2 ^ model.width ∧
    model.init / 2 ^ model.width % 256 = 0

section Registers

variable {width : Nat}

theorem ofNat_shiftRight (value count : Nat) (clear : value / 2 ^ width % 2 ^ count = 0) :
    BitVec.ofNat width (value >>> count) = BitVec.ofNat width value >>> count := by
  apply BitVec.eq_of_getLsbD_eq
  intro index inside
  rw [BitVec.getLsbD_ofNat, BitVec.getLsbD_ushiftRight, BitVec.getLsbD_ofNat, Nat.testBit_shiftRight,
    decide_eq_true inside, Bool.true_and]
  by_cases within : count + index < width
  · rw [decide_eq_true within, Bool.true_and]
  · have above : (value / 2 ^ width % 2 ^ count).testBit (count + index - width) = false := by
      rw [clear, Nat.zero_testBit]
    rw [Nat.testBit_mod_two_pow, decide_eq_true (by omega), Bool.true_and,
      Nat.testBit_div_two_pow] at above
    have place : width + (count + index - width) = count + index := by omega
    rw [decide_eq_false within, Bool.false_and]
    rwa [Nat.add_comm, place] at above

theorem ofNat_shiftLeft (value count : Nat) :
    BitVec.ofNat width (value <<< count) = BitVec.ofNat width value <<< count := by
  apply BitVec.eq_of_getLsbD_eq
  intro index inside
  rw [BitVec.getLsbD_ofNat, BitVec.getLsbD_shiftLeft, BitVec.getLsbD_ofNat, Nat.testBit_shiftLeft]
  by_cases low : index < count
  · simp [low]
  · have within : index - count < width := by omega
    simp [low, within, inside, Nat.le_of_not_lt low]

theorem ofNat_and_mask (value : Nat) :
    BitVec.ofNat width (value &&& ((1 <<< width) - 1)) = BitVec.ofNat width value := by
  rw [Nat.one_shiftLeft, Nat.and_two_pow_sub_one_eq_mod]
  apply BitVec.eq_of_toNat_eq
  rw [BitVec.toNat_ofNat, BitVec.toNat_ofNat, Nat.mod_mod]

theorem reflect_testBit (val bits index : Nat) :
    (reflect val bits).testBit index = (decide (index < bits) && val.testBit (bits - 1 - index)) := by
  have folded (places : List Nat) (within : ∀ place ∈ places, place < bits) (res : Nat) :
      (places.foldl (fun res i =>
        if (val >>> i) &&& 1 ≠ 0 then res ||| (1 <<< (bits - 1 - i)) else res) res).testBit index =
      (res.testBit index || places.any (fun i => val.testBit i && decide (bits - 1 - i = index))) := by
    induction places generalizing res with
    | nil => simp
    | cons place rest ih =>
        have set : ((val >>> place) &&& 1 ≠ 0) ↔ val.testBit place = true := by
          rw [Nat.testBit, bne_iff_ne, Nat.and_comm]
        rw [List.foldl_cons, ih (fun other member => within other (List.mem_cons_of_mem _ member)),
          List.any_cons]
        cases bit : val.testBit place with
        | true =>
            rw [if_pos (set.mpr bit), Nat.testBit_or, Nat.one_shiftLeft, Nat.testBit_two_pow,
              Bool.or_assoc, Bool.true_and]
        | false =>
            rw [if_neg (fun high => Bool.false_ne_true (bit.symm.trans (set.mp high))),
              Bool.false_and, Bool.false_or]
  unfold reflect
  rw [folded _ (fun place member => List.mem_range.mp member), Nat.zero_testBit, Bool.false_or,
    Bool.eq_iff_iff, List.any_eq_true, Bool.and_eq_true, decide_eq_true_iff]
  constructor
  · rintro ⟨place, member, both⟩
    obtain ⟨bit, same⟩ := Bool.and_eq_true_iff.mp both
    have inside := List.mem_range.mp member
    have same := of_decide_eq_true same
    refine ⟨by omega, ?_⟩
    rw [show bits - 1 - index = place by omega]
    exact bit
  · rintro ⟨inside, bit⟩
    refine ⟨bits - 1 - index, List.mem_range.mpr (by omega), ?_⟩
    rw [bit, Bool.true_and]
    exact decide_eq_true (by omega)

theorem ofNat_reflect (value : Nat) :
    BitVec.ofNat width (reflect value width) = (BitVec.ofNat width value).reverse := by
  apply BitVec.eq_of_getLsbD_eq
  intro index inside
  have other : width - 1 - index < width := by omega
  rw [BitVec.getLsbD_ofNat, reflect_testBit, BitVec.getLsbD_reverse, BitVec.getMsbD_eq_getLsbD,
    BitVec.getLsbD_ofNat, decide_eq_true inside, decide_eq_true other, Bool.true_and, Bool.true_and]

theorem reflect_lt (value : Nat) : reflect value width < 2 ^ width := by
  apply Nat.lt_pow_two_of_testBit
  intro index beyond
  rw [reflect_testBit, decide_eq_false (by omega), Bool.false_and]

end Registers

section Tables

variable {width : Nat}

theorem and_one_ne_zero (value : Nat) : value &&& 0x01 ≠ 0 ↔ value.testBit 0 = true := by
  rw [Nat.testBit, Nat.shiftRight_zero, bne_iff_ne, Nat.and_comm]

theorem and_above_ne_zero (positive : 0 < width) (value : Nat) :
    (value <<< 1) &&& ((1 <<< (width - 1)) <<< 1) ≠ 0 ↔ value.testBit (width - 1) = true := by
  have above : (1 <<< (width - 1)) <<< 1 = 2 ^ width := by
    rw [← Nat.shiftLeft_add, Nat.sub_add_cancel positive, Nat.one_shiftLeft]
  rw [above, Nat.and_two_pow, Nat.testBit_shiftLeft, decide_eq_true (by omega), Bool.true_and]
  have place := Nat.two_pow_pos width
  cases value.testBit (width - 1)
  · simp
  · simp

theorem tableRound_high (positive : 0 < width) (poly crc : Nat) :
    BitVec.ofNat width (tableRound poly width false crc) =
      shift (BitVec.ofNat width poly) (BitVec.ofNat width crc) := by
  have leads : (BitVec.ofNat width crc).msb = crc.testBit (width - 1) := by
    rw [BitVec.msb_eq_getLsbD_last, BitVec.getLsbD_ofNat, decide_eq_true (by omega), Bool.true_and]
  unfold tableRound shift
  rw [if_neg Bool.false_ne_true, leads, ← ofNat_shiftLeft]
  by_cases high : crc.testBit (width - 1) = true
  · rw [if_pos ((and_above_ne_zero positive crc).mpr high), if_pos high, BitVec.ofNat_xor]
  · rw [if_neg (fun set => high ((and_above_ne_zero positive crc).mp set)), if_neg high]

theorem tableRound_low (poly : Nat) {crc : Nat} (fits : crc < 2 ^ width) (positive : 0 < width) :
    BitVec.ofNat width (tableRound poly width true crc) =
        shiftLow (BitVec.ofNat width poly) (BitVec.ofNat width crc) ∧
      tableRound poly width true crc < 2 ^ width := by
  have first : (BitVec.ofNat width crc).getLsbD 0 = crc.testBit 0 := by
    rw [BitVec.getLsbD_ofNat, decide_eq_true positive, Bool.true_and]
  have moved : BitVec.ofNat width (crc >>> 1) = BitVec.ofNat width crc >>> 1 :=
    ofNat_shiftRight crc 1 (by rw [Nat.div_eq_of_lt fits, Nat.zero_mod])
  have half : crc >>> 1 < 2 ^ width := Nat.lt_of_le_of_lt (Nat.shiftRight_le crc 1) fits
  unfold tableRound shiftLow
  rw [if_pos rfl, first]
  by_cases low : crc.testBit 0 = true
  · rw [if_pos ((and_one_ne_zero crc).mpr low), if_pos low, BitVec.ofNat_xor, moved, ofNat_reflect]
    exact ⟨rfl, Nat.xor_lt_two_pow half (reflect_lt poly)⟩
  · rw [if_neg (fun set => low ((and_one_ne_zero crc).mp set)), if_neg low]
    exact ⟨moved, half⟩

theorem tableRounds_high (positive : 0 < width) (poly count crc : Nat) :
    BitVec.ofNat width (tableRounds poly width false count crc) =
      shifts (BitVec.ofNat width poly) count (BitVec.ofNat width crc) := by
  induction count generalizing crc with
  | zero => rfl
  | succ count ih =>
      change BitVec.ofNat width (tableRounds poly width false count _) = _
      rw [ih, tableRound_high positive]
      rfl

theorem tableRounds_low (positive : 0 < width) (poly count : Nat) {crc : Nat}
    (fits : crc < 2 ^ width) :
    BitVec.ofNat width (tableRounds poly width true count crc) =
      shiftsLow (BitVec.ofNat width poly) count (BitVec.ofNat width crc) := by
  induction count generalizing crc with
  | zero => rfl
  | succ count ih =>
      obtain ⟨round, below⟩ := tableRound_low poly fits positive
      change BitVec.ofNat width (tableRounds poly width true count _) = _
      rw [ih below, round]
      rfl

theorem generateTable_getD (poly width : Nat) (refin : Bool) {index : Nat} (inside : index < 256) :
    BitVec.ofNat width ((generateTable poly width refin).getD index 0) =
      BitVec.ofNat width
        (tableRounds poly width refin 8 (if refin then index else index <<< (width - 8))) := by
  unfold generateTable
  rw [List.getD_eq_getElem?_getD, List.getElem?_map, List.getElem?_range inside, Option.map_some,
    Option.getD_some, ofNat_and_mask]

end Tables

section Steps

variable {name : String} {poly width init xorout : Nat} {refout : Bool}

/-- The index of a lookup, as the word that it is. -/
theorem ofNat_and_byte (value : Nat) : BitVec.ofNat 8 (value &&& 0xFF) = BitVec.ofNat 8 value :=
  ofNat_and_mask value

theorem and_byte_lt (value : Nat) : value &&& 0xFF < 256 := by
  rw [show (0xFF : Nat) = 2 ^ 8 - 1 from rfl, Nat.and_two_pow_sub_one_eq_mod]
  exact Nat.mod_lt value (Nat.two_pow_pos 8)

theorem setWidth_ofNat {narrow : Nat} (fit : narrow ≤ width) (value : Nat) :
    (BitVec.ofNat width value).setWidth narrow = BitVec.ofNat narrow value := by
  apply BitVec.eq_of_toNat_eq
  rw [BitVec.toNat_setWidth, BitVec.toNat_ofNat, BitVec.toNat_ofNat,
    Nat.mod_mod_of_dvd value (Nat.pow_dvd_pow 2 fit)]

theorem setWidth_index {index : Nat} (inside : index < 256) :
    (BitVec.ofNat 8 index).setWidth width = BitVec.ofNat width index := by
  apply BitVec.eq_of_toNat_eq
  rw [BitVec.toNat_setWidth, BitVec.toNat_ofNat, BitVec.toNat_ofNat, Nat.mod_eq_of_lt inside]

theorem head_ofNat (wide : 8 ≤ width) (crc : Nat) :
    head 8 (BitVec.ofNat width crc) = BitVec.ofNat 8 (crc >>> (width - 8)) := by
  apply BitVec.eq_of_getLsbD_eq
  intro index inside
  unfold head
  rw [BitVec.getLsbD_setWidth, BitVec.getLsbD_ushiftRight, BitVec.getLsbD_ofNat,
    BitVec.getLsbD_ofNat, Nat.testBit_shiftRight, decide_eq_true inside,
    decide_eq_true (by omega), Bool.true_and]

theorem ofNat_byte (byte : UInt8) : BitVec.ofNat 8 byte.toNat = byte.toBitVec :=
  BitVec.ofNat_toNat 8 byte.toBitVec |>.trans (BitVec.setWidth_eq byte.toBitVec)

theorem step_high (wide : 8 ≤ width) (crc : Nat) (byte : UInt8) :
    BitVec.ofNat width ((create name poly width init xorout false refout).step crc byte) =
      tableStep (fun index => shifts (BitVec.ofNat width poly) 8 (leading index))
        (BitVec.ofNat width crc) byte.toBitVec := by
  have index : head 8 (BitVec.ofNat width crc) ^^^ byte.toBitVec =
      BitVec.ofNat 8 (((crc >>> (width - 8)) ^^^ byte.toNat) &&& 0xFF) := by
    rw [ofNat_and_byte, BitVec.ofNat_xor, head_ofNat wide, ofNat_byte]
  have below := and_byte_lt ((crc >>> (width - 8)) ^^^ byte.toNat)
  change BitVec.ofNat width (((crc <<< 8) &&& ((1 <<< width) - 1)) ^^^
    (generateTable poly width false).getD (((crc >>> (width - 8)) ^^^ byte.toNat) &&& 0xFF) 0) = _
  unfold tableStep
  dsimp only
  rw [BitVec.ofNat_xor, ofNat_and_mask, ofNat_shiftLeft, generateTable_getD _ _ _ below,
    if_neg Bool.false_ne_true, tableRounds_high (by omega), index]
  unfold leading
  rw [ofNat_shiftLeft, setWidth_index below]

theorem step_low (wide : 8 ≤ width) (crc : Nat) (byte : UInt8) :
    BitVec.ofNat width ((create name poly width init xorout true refout).step crc byte) =
      BitVec.ofNat width (crc >>> 8) ^^^ shiftsLow (BitVec.ofNat width poly) 8
        (((BitVec.ofNat width crc).setWidth 8 ^^^ byte.toBitVec).setWidth width) := by
  have index : (BitVec.ofNat width crc).setWidth 8 ^^^ byte.toBitVec =
      BitVec.ofNat 8 ((crc ^^^ byte.toNat) &&& 0xFF) := by
    rw [ofNat_and_byte, BitVec.ofNat_xor, setWidth_ofNat wide, ofNat_byte]
  have below := and_byte_lt (crc ^^^ byte.toNat)
  have fits : (crc ^^^ byte.toNat) &&& 0xFF < 2 ^ width :=
    Nat.lt_of_lt_of_le below (Nat.pow_le_pow_right Nat.two_pos wide)
  change BitVec.ofNat width (((crc >>> 8) ^^^
    (generateTable poly width true).getD ((crc ^^^ byte.toNat) &&& 0xFF) 0) &&&
      ((1 <<< width) - 1)) = _
  rw [ofNat_and_mask, BitVec.ofNat_xor, generateTable_getD _ _ _ below, if_pos rfl,
    tableRounds_low (by omega) _ _ fits, index, setWidth_index below]

theorem foldl_high (wide : 8 ≤ width) (data : Bytes) (crc : Nat) :
    BitVec.ofNat width (data.foldl (create name poly width init xorout false refout).step crc) =
      feed (BitVec.ofNat width poly) (BitVec.ofNat width crc)
        ((data.map UInt8.toBitVec).flatMap wordBits) := by
  rw [← foldl_tableStep wide]
  induction data generalizing crc with
  | nil => rfl
  | cons byte rest ih =>
      rw [List.foldl_cons, ih, step_high wide]
      rfl

theorem step_low_lt (crc : Nat) (byte : UInt8) :
    (create name poly width init xorout true refout).step crc byte < 2 ^ width := by
  change (_ &&& ((1 <<< width) - 1)) < 2 ^ width
  rw [Nat.one_shiftLeft, Nat.and_two_pow_sub_one_eq_mod]
  exact Nat.mod_lt _ (Nat.two_pow_pos width)

theorem foldl_low (wide : 8 ≤ width) (data : Bytes) {crc : Nat} {register : BitVec width}
    (opposite : BitVec.ofNat width crc = register.reverse) (clear : crc / 2 ^ width % 256 = 0) :
    BitVec.ofNat width (data.foldl (create name poly width init xorout true refout).step crc) =
      (feed (BitVec.ofNat width poly) register
        ((data.map UInt8.toBitVec).flatMap (fun word => wordBits word.reverse))).reverse := by
  rw [← foldl_tableStepLow wide, ← opposite]
  clear opposite
  induction data generalizing crc with
  | nil => rfl
  | cons byte rest ih =>
      have above : (create name poly width init xorout true refout).step crc byte / 2 ^ width % 256 =
          0 := by
        rw [Nat.div_eq_of_lt (step_low_lt crc byte), Nat.zero_mod]
      rw [List.foldl_cons, ih above, step_low wide, ofNat_shiftRight crc 8 clear]
      rfl

end Steps

section Results

variable {name : String} {poly width init xorout : Nat} {refin refout : Bool}

theorem calculate_eq (data : Bytes) :
    (create name poly width init xorout refin refout).calculate data =
      ((if refout ≠ refin then
          (BitVec.ofNat width
            (data.foldl (create name poly width init xorout refin refout).step init)).reverse
        else BitVec.ofNat width
          (data.foldl (create name poly width init xorout refin refout).step init)) ^^^
        BitVec.ofNat width xorout).toNat := by
  unfold calculate
  change (((if refout ≠ refin then reflect _ width else _) ^^^ xorout) &&& ((1 <<< width) - 1)) = _
  rw [Nat.one_shiftLeft, Nat.and_two_pow_sub_one_eq_mod, ← BitVec.toNat_ofNat, BitVec.ofNat_xor,
    apply_ite (BitVec.ofNat width), ofNat_reflect]
  rfl

/-- An unreflected model computes the definition. -/
theorem calculate_high (wide : 8 ≤ width) (data : Bytes) :
    (create name poly width init xorout false refout).calculate data =
      (create name poly width init xorout false refout).bitSerial data := by
  rw [calculate_eq, foldl_high wide]
  cases refout
  · rfl
  · rfl

theorem symmetric_iff :
    (create name poly width init xorout refin refout).Symmetric ↔
      (BitVec.ofNat width init).reverse = BitVec.ofNat width init ∧ init / 2 ^ width % 256 = 0 := by
  have same : reflect init width = init % 2 ^ width ↔
      (BitVec.ofNat width init).reverse = BitVec.ofNat width init := by
    rw [← BitVec.toNat_inj, ← ofNat_reflect, BitVec.toNat_ofNat, BitVec.toNat_ofNat,
      Nat.mod_eq_of_lt (reflect_lt init)]
  unfold Symmetric
  exact and_congr same Iff.rfl

theorem calculate_low (wide : 8 ≤ width)
    (symmetric : (create name poly width init xorout true refout).Symmetric) (data : Bytes) :
    (create name poly width init xorout true refout).calculate data =
      (create name poly width init xorout true refout).bitSerial data := by
  obtain ⟨palindrome, clear⟩ := symmetric_iff.mp symmetric
  rw [calculate_eq, foldl_low wide data palindrome.symm clear]
  cases refout
  · exact congrArg (fun register => (register ^^^ BitVec.ofNat width xorout).toNat)
      (BitVec.reverse_reverse_eq)
  · rfl

theorem low_register_eq (wide : 8 ≤ width) {data : Bytes}
    (agrees : (create name poly width init xorout true refout).calculate data =
      (create name poly width init xorout true refout).bitSerial data) :
    BitVec.ofNat width (data.foldl (create name poly width init xorout true refout).step init) =
      (data.map UInt8.toBitVec).foldl
        (tableStepLow (fun index => shiftsLow (BitVec.ofNat width poly) 8 (index.setWidth width)))
        (BitVec.ofNat width init).reverse := by
  rw [foldl_tableStepLow wide]
  rw [calculate_eq] at agrees
  have registers := (BitVec.xor_left_inj _).mp (BitVec.eq_of_toNat_eq agrees)
  cases refout with
  | false =>
      rw [← BitVec.reverse_reverse_eq (x := BitVec.ofNat width (data.foldl _ init))]
      exact congrArg BitVec.reverse registers
  | true => exact registers

/-- The empty data shows an initial value that reads differently, and a single byte one that
reaches above the register. -/
theorem symmetric_of_calculate (wide : 8 ≤ width)
    (agrees : ∀ data, (create name poly width init xorout true refout).calculate data =
      (create name poly width init xorout true refout).bitSerial data) :
    (create name poly width init xorout true refout).Symmetric := by
  have palindrome : BitVec.ofNat width init = (BitVec.ofNat width init).reverse :=
    low_register_eq wide (agrees [])
  have single := low_register_eq wide (agrees [0])
  rw [List.foldl_cons, List.foldl_nil, step_low wide, List.map_singleton, List.foldl_cons,
    List.foldl_nil, ← palindrome] at single
  have moved : BitVec.ofNat width (init >>> 8) = BitVec.ofNat width init >>> 8 :=
    (BitVec.xor_left_inj _).mp single
  refine symmetric_iff.mpr ⟨palindrome.symm, Nat.eq_of_testBit_eq ?_⟩
  intro index
  rw [show (256 : Nat) = 2 ^ 8 from rfl, Nat.testBit_mod_two_pow, Nat.testBit_div_two_pow,
    Nat.zero_testBit]
  by_cases inside : index < 8
  · have bit := congrArg (fun register => register.getLsbD (width - 8 + index)) moved
    rw [BitVec.getLsbD_ofNat, BitVec.getLsbD_ushiftRight, BitVec.getLsbD_ofNat,
      Nat.testBit_shiftRight, decide_eq_true (by omega), decide_eq_false (by omega), Bool.true_and,
      Bool.false_and, show 8 + (width - 8 + index) = width + index by omega] at bit
    rw [Nat.add_comm index, bit, Bool.and_false]
  · rw [decide_eq_false inside, Bool.false_and]

/-- The table computes the definition on every data exactly where the data is not reflected or the
initial value is symmetric. -/
theorem calculate_eq_bitSerial_iff (name : String) (bytes poly init xorout : Nat)
    (refin refout : Bool) :
    (∀ data : Bytes,
        (create name poly (8 * (bytes + 1)) init xorout refin refout).calculate data =
          (create name poly (8 * (bytes + 1)) init xorout refin refout).bitSerial data) ↔
      (refin = true → (create name poly (8 * (bytes + 1)) init xorout refin refout).Symmetric) := by
  have wide : 8 ≤ 8 * (bytes + 1) := by omega
  cases refin with
  | false =>
      constructor
      · intro _ reflected
        cases reflected
      · intro _
        exact calculate_high wide
  | true =>
      constructor
      · intro agrees _
        exact symmetric_of_calculate wide agrees
      · intro symmetric
        exact calculate_low wide (symmetric rfl)

/-- The checksum of sixteen bits whose initial value, `0xC6C6`, reads `0x6363` from the other end. -/
theorem calculate_asymmetric :
    (create "CRC-16" 0x1021 16 0xC6C6 0x0000 true true).calculate
        [0x31, 0x32, 0x33, 0x34, 0x35, 0x36, 0x37, 0x38, 0x39] ≠
      (create "CRC-16" 0x1021 16 0xC6C6 0x0000 true true).bitSerial
        [0x31, 0x32, 0x33, 0x34, 0x35, 0x36, 0x37, 0x38, 0x39] := by
  decide +kernel

end Results

end Ucanlab.Engine.Discovery.CrcModel
