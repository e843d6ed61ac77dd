import Mathlib.Data.List.Basic

/-!
Polynomial division by a register of any width, most significant bit first. The division is linear,
and with a polynomial whose constant term is one no short burst of errors leaves the register alone.
-/

namespace CyclicCode

variable {width : Nat} {poly : BitVec width}

def shift (poly register : BitVec width) : BitVec width :=
  if register.msb then (register <<< 1) ^^^ poly else register <<< 1

def shifts (poly : BitVec width) : Nat → BitVec width → BitVec width
  | 0, register => register
  | count + 1, register => shifts poly count (shift poly register)

def top (bit : Bool) : BitVec width :=
  if bit then BitVec.twoPow width (width - 1) else BitVec.ofNat width 0

def step (poly register : BitVec width) (bit : Bool) : BitVec width :=
  shift poly (register ^^^ top bit)

def feed (poly register : BitVec width) (bits : List Bool) : BitVec width :=
  bits.foldl (step poly) register

/-- The bits from the most significant place on. -/
def aligned : List Bool → BitVec width
  | [] => BitVec.ofNat width 0
  | bit :: rest => top bit ^^^ (aligned rest >>> 1)

def Burst (limit : Nat) (errors : List Bool) : Prop :=
  ∃ before middle after, errors = List.replicate before false ++ middle ++ List.replicate after false ∧
    middle.length ≤ limit ∧ true ∈ middle

section Linear

theorem xor_cancel (left right common : BitVec width) :
    (left ^^^ common) ^^^ (right ^^^ common) = left ^^^ right := by
  rw [BitVec.xor_assoc, BitVec.xor_comm right common, ← BitVec.xor_assoc common common right,
    BitVec.xor_self, BitVec.zero_xor]

theorem shift_xor (left right : BitVec width) :
    shift poly (left ^^^ right) = shift poly left ^^^ shift poly right := by
  unfold shift
  rw [BitVec.msb_xor, BitVec.shiftLeft_xor_distrib]
  cases left.msb <;> cases right.msb
  · rfl
  · exact BitVec.xor_assoc ..
  · change (left <<< 1 ^^^ right <<< 1) ^^^ poly = (left <<< 1 ^^^ poly) ^^^ right <<< 1
    rw [BitVec.xor_assoc, BitVec.xor_assoc, BitVec.xor_comm poly]
  · exact (xor_cancel ..).symm

theorem top_xor (left right : Bool) :
    (top (left ^^ right) : BitVec width) = top left ^^^ top right := by
  cases left <;> cases right <;> simp [top]

theorem shift_zero : shift poly (BitVec.ofNat width 0) = BitVec.ofNat width 0 := by
  unfold shift
  rw [if_neg (by simp)]
  simp

/-- The division of a sum is the sum of the divisions. -/
theorem feed_xor (left right : BitVec width) (bits errors : List Bool)
    (same : bits.length = errors.length) :
    feed poly (left ^^^ right) (List.zipWith xor bits errors) =
      feed poly left bits ^^^ feed poly right errors := by
  induction bits generalizing errors left right with
  | nil =>
      rw [List.eq_nil_of_length_eq_zero same.symm]
      rfl
  | cons bit rest ih =>
      cases errors with
      | nil => cases same
      | cons error errors =>
          change feed poly (shift poly ((left ^^^ right) ^^^ top (bit ^^ error))) _ =
            feed poly (shift poly (left ^^^ top bit)) rest ^^^
              feed poly (shift poly (right ^^^ top error)) errors
          rw [← ih _ _ errors (Nat.succ.inj same), ← shift_xor, top_xor]
          congr 2
          rw [BitVec.xor_assoc, BitVec.xor_assoc, ← BitVec.xor_assoc right,
            BitVec.xor_comm right (top bit), BitVec.xor_assoc]

end Linear

section Alignment

theorem top_getMsbD (bit : Bool) {index : Nat} (inside : index < width) :
    (top bit : BitVec width).getMsbD index = (bit && decide (index = 0)) := by
  cases bit with
  | false => simp [top]
  | true =>
      have highest : width - (width - 1) - 1 = 0 := by omega
      change (BitVec.twoPow width (width - 1)).getMsbD index = _
      rw [BitVec.getMsbD_twoPow, highest, decide_eq_true (by omega : width - 1 < width)]

theorem aligned_getMsbD (bits : List Bool) (index : Nat) (inside : index < width) :
    (aligned bits : BitVec width).getMsbD index = bits.getD index false := by
  induction bits generalizing index with
  | nil => simp [aligned]
  | cons bit rest ih =>
      unfold aligned
      rw [BitVec.getMsbD_xor, BitVec.getMsbD_ushiftRight, top_getMsbD bit inside]
      cases index with
      | zero => simp
      | succ index =>
          rw [Nat.add_sub_cancel, ih index (by omega)]
          simp [inside]

theorem aligned_msb_ushiftRight (register : BitVec width) : (register >>> 1).msb = false := by
  rw [BitVec.msb_eq_getMsbD_zero, BitVec.getMsbD_ushiftRight]
  simp

theorem shift_aligned {bits : List Bool} (few : bits.length < width) :
    shift poly (aligned bits >>> 1) = aligned bits := by
  unfold shift
  rw [aligned_msb_ushiftRight, if_neg Bool.false_ne_true]
  apply BitVec.eq_of_getMsbD_eq
  intro index inside
  rw [BitVec.getMsbD_shiftLeft, BitVec.getMsbD_ushiftRight]
  by_cases last : index + 1 < width
  · simp [last]
  · have beyond : bits.length ≤ index := by omega
    rw [aligned_getMsbD bits index inside, List.getD_eq_getElem?_getD,
      List.getElem?_eq_none beyond]
    simp [last]

theorem feed_eq_shifts (bits : List Bool) (fit : bits.length ≤ width) (register : BitVec width) :
    feed poly register bits = shifts poly bits.length (register ^^^ aligned bits) := by
  induction bits generalizing register with
  | nil =>
      change register = register ^^^ BitVec.ofNat width 0
      exact (BitVec.xor_zero).symm
  | cons bit rest ih =>
      change feed poly (shift poly (register ^^^ top bit)) rest =
        shifts poly rest.length (shift poly (register ^^^ (top bit ^^^ aligned rest >>> 1)))
      rw [ih (Nat.le_of_succ_le fit), ← BitVec.xor_assoc, shift_xor (register ^^^ top bit),
        shift_aligned (Nat.lt_of_succ_le fit)]

theorem aligned_ne_zero {bits : List Bool} (fit : bits.length ≤ width) (some' : true ∈ bits) :
    (aligned bits : BitVec width) ≠ BitVec.ofNat width 0 := by
  obtain ⟨index, inside, set⟩ := List.mem_iff_getElem.mp some'
  intro zero
  have bit := aligned_getMsbD bits index (Nat.lt_of_lt_of_le inside fit)
  rw [zero, List.getD_eq_getElem?_getD, List.getElem?_eq_getElem inside, Option.getD_some, set] at bit
  simp at bit

end Alignment

section Bursts

theorem shift_eq_zero (odd : poly.getLsbD 0 = true) {register : BitVec width}
    (gone : shift poly register = BitVec.ofNat width 0) : register = BitVec.ofNat width 0 := by
  unfold shift at gone
  cases leads : register.msb with
  | true =>
      rw [leads, if_pos rfl] at gone
      have bit := congrArg (fun value => value.getLsbD 0) gone
      simp [odd] at bit
  | false =>
      rw [leads, if_neg Bool.false_ne_true] at gone
      apply BitVec.eq_of_getMsbD_eq
      intro index inside
      cases index with
      | zero =>
          rw [← BitVec.msb_eq_getMsbD_zero, leads]
          simp
      | succ index =>
          have bit := congrArg (fun value => value.getMsbD index) gone
          rw [BitVec.getMsbD_shiftLeft] at bit
          rw [bit]
          simp

theorem shifts_eq_zero (odd : poly.getLsbD 0 = true) (count : Nat) {register : BitVec width}
    (gone : shifts poly count register = BitVec.ofNat width 0) :
    register = BitVec.ofNat width 0 := by
  induction count generalizing register with
  | zero => exact gone
  | succ count ih => exact shift_eq_zero odd (ih gone)

theorem shifts_zero (count : Nat) :
    shifts poly count (BitVec.ofNat width 0) = BitVec.ofNat width 0 := by
  induction count with
  | zero => rfl
  | succ count ih =>
      change shifts poly count (shift poly (BitVec.ofNat width 0)) = BitVec.ofNat width 0
      rw [shift_zero, ih]

theorem feed_replicate (count : Nat) (register : BitVec width) :
    feed poly register (List.replicate count false) = shifts poly count register := by
  induction count generalizing register with
  | zero => rfl
  | succ count ih =>
      change feed poly (shift poly (register ^^^ BitVec.ofNat width 0)) (List.replicate count false) = _
      rw [ih, BitVec.xor_zero]
      rfl

theorem feed_append (register : BitVec width) (front back : List Bool) :
    feed poly register (front ++ back) = feed poly (feed poly register front) back :=
  List.foldl_append

theorem feed_burst (odd : poly.getLsbD 0 = true) {errors : List Bool}
    (burst : Burst width errors) :
    feed poly (BitVec.ofNat width 0) errors ≠ BitVec.ofNat width 0 := by
  obtain ⟨before, middle, after, rfl, fit, some'⟩ := burst
  intro gone
  rw [feed_append, feed_append, feed_replicate, feed_replicate, shifts_zero,
    feed_eq_shifts middle fit, BitVec.zero_xor] at gone
  exact aligned_ne_zero fit some' (shifts_eq_zero odd _ (shifts_eq_zero odd _ gone))

theorem Burst.surrounded {limit : Nat} {errors : List Bool} (burst : Burst limit errors)
    (before after : Nat) :
    Burst limit (List.replicate before false ++ errors ++ List.replicate after false) := by
  obtain ⟨front, middle, back, rfl, fit, some'⟩ := burst
  refine ⟨before + front, middle, back + after, ?_, fit, some'⟩
  simp only [List.replicate_add, List.append_assoc]

end Bursts

end CyclicCode

/-!
Polynomial division a word at a time. The leading bits of the register select what a table holds for
them, and the rest only moves; a register that keeps its bits in the opposite order does the same
from its other end.
-/

namespace CyclicCode

variable {width length : Nat} {poly : BitVec width}

def wordBits (word : BitVec length) : List Bool := (List.range length).map word.getMsbD

def leading (word : BitVec length) : BitVec width := word.setWidth width <<< (width - length)

/-- The word in the most significant places. -/
def head (length : Nat) (register : BitVec width) : BitVec length :=
  (register >>> (width - length)).setWidth length

def tableStep (table : BitVec length → BitVec width) (register : BitVec width)
    (word : BitVec length) : BitVec width :=
  register <<< length ^^^ table (head length register ^^^ word)

def shiftLow (poly register : BitVec width) : BitVec width :=
  if register.getLsbD 0 then register >>> 1 ^^^ poly.reverse else register >>> 1

def shiftsLow (poly : BitVec width) : Nat → BitVec width → BitVec width
  | 0, register => register
  | count + 1, register => shiftsLow poly count (shiftLow poly register)

def tableStepLow (table : BitVec length → BitVec width) (register : BitVec width)
    (word : BitVec length) : BitVec width :=
  register >>> length ^^^ table (register.setWidth length ^^^ word)

/-- A cyclic checksum by its parameters, as catalogues list them. -/
structure Parameters (width : Nat) where
  poly : BitVec width
  init : BitVec width
  xorout : BitVec width
  refin : Bool
  refout : Bool

namespace Parameters

def inputBits (parameters : Parameters width) (word : BitVec length) : List Bool :=
  wordBits (if parameters.refin then word.reverse else word)

def bitSerial (parameters : Parameters width) (data : List (BitVec length)) : BitVec width :=
  let register := feed parameters.poly parameters.init (data.flatMap parameters.inputBits)
  (if parameters.refout then register.reverse else register) ^^^ parameters.xorout

end Parameters

section Words

theorem wordBits_length (word : BitVec length) : (wordBits word).length = length := by
  unfold wordBits
  rw [List.length_map, List.length_range]

theorem wordBits_getD (word : BitVec length) (index : Nat) :
    (wordBits word).getD index false = word.getMsbD index := by
  unfold wordBits
  rw [List.getD_eq_getElem?_getD, List.getElem?_map]
  by_cases inside : index < length
  · rw [List.getElem?_range inside]
    rfl
  · rw [List.getElem?_eq_none (by rw [List.length_range]; omega)]
    exact (BitVec.getMsbD_of_ge word index (by omega)).symm

theorem leading_getMsbD (fit : length ≤ width) (word : BitVec length) (index : Nat) :
    (leading word : BitVec width).getMsbD index = word.getMsbD index := by
  unfold leading
  rw [BitVec.getMsbD_shiftLeft, BitVec.getMsbD_setWidth]
  by_cases inside : index < length
  · have reached : width - length ≤ index + (width - length) := by omega
    have back : index + (width - length) + length - width = index := by omega
    simp [back, reached]
  · rw [BitVec.getMsbD_of_ge word index (by omega)]
    simp
    exact BitVec.getMsbD_of_ge word _ (by omega)

theorem aligned_wordBits (fit : length ≤ width) (word : BitVec length) :
    (aligned (wordBits word) : BitVec width) = leading word := by
  apply BitVec.eq_of_getMsbD_eq
  intro index inside
  rw [aligned_getMsbD _ _ inside, wordBits_getD, leading_getMsbD fit]

theorem head_getMsbD (fit : length ≤ width) (register : BitVec width) {index : Nat}
    (inside : index < length) : (head length register).getMsbD index = register.getMsbD index := by
  unfold head
  rw [BitVec.getMsbD_setWidth, BitVec.getMsbD_ushiftRight]
  have back : index + width - length - (width - length) = index := by omega
  have reached : length ≤ index + width := by omega
  have below : index + width - length < width := by omega
  have past : ¬index + width - length < width - length := by omega
  simp [back, reached, below, past]

theorem head_xor (left right : BitVec width) :
    head length (left ^^^ right) = head length left ^^^ head length right := by
  unfold head
  rw [BitVec.ushiftRight_xor_distrib, BitVec.setWidth_xor]

theorem head_leading (fit : length ≤ width) (word : BitVec length) :
    head length (leading word : BitVec width) = word := by
  apply BitVec.eq_of_getMsbD_eq
  intro index inside
  rw [head_getMsbD fit _ inside, leading_getMsbD fit]

theorem leading_shiftLeft (fit : length ≤ width) (word : BitVec length) :
    (leading word : BitVec width) <<< length = BitVec.ofNat width 0 := by
  apply BitVec.eq_of_getMsbD_eq
  intro index inside
  rw [BitVec.getMsbD_shiftLeft, leading_getMsbD fit, BitVec.getMsbD_of_ge word _ (by omega)]
  simp

end Words

section Tables

theorem shifts_xor (count : Nat) (left right : BitVec width) :
    shifts poly count (left ^^^ right) = shifts poly count left ^^^ shifts poly count right := by
  induction count generalizing left right with
  | zero => rfl
  | succ count ih =>
      change shifts poly count (shift poly (left ^^^ right)) = _
      rw [shift_xor, ih]
      rfl

/-- Where the leading places are empty the register only moves. -/
theorem shifts_of_clear (count : Nat) {register : BitVec width}
    (clear : ∀ index < count, register.getMsbD index = false) :
    shifts poly count register = register <<< count := by
  induction count generalizing register with
  | zero => exact (BitVec.shiftLeft_zero register).symm
  | succ count ih =>
      have first : register.msb = false := by
        rw [BitVec.msb_eq_getMsbD_zero]
        exact clear 0 (Nat.succ_pos count)
      have moved : shift poly register = register <<< 1 := by
        unfold shift
        rw [first, if_neg Bool.false_ne_true]
      change shifts poly count (shift poly register) = _
      rw [moved, ih, ← BitVec.shiftLeft_add, Nat.add_comm]
      intro index inside
      rw [BitVec.getMsbD_shiftLeft, Nat.add_comm]
      exact clear (1 + index) (by omega)

theorem shifts_head (fit : length ≤ width) (register : BitVec width) :
    shifts poly length register =
      register <<< length ^^^ shifts poly length (leading (head length register)) := by
  have clear : ∀ index < length,
      (register ^^^ leading (head length register)).getMsbD index = false := by
    intro index inside
    rw [BitVec.getMsbD_xor, leading_getMsbD fit, head_getMsbD fit register inside, Bool.xor_self]
  have moves : shifts poly length _ = _ := shifts_of_clear length clear
  rw [BitVec.shiftLeft_xor_distrib, leading_shiftLeft fit, BitVec.xor_zero, shifts_xor] at moves
  rw [← moves, BitVec.xor_assoc, BitVec.xor_self, BitVec.xor_zero]

theorem feed_wordBits (fit : length ≤ width) (register : BitVec width) (word : BitVec length) :
    feed poly register (wordBits word) =
      tableStep (fun index => shifts poly length (leading index)) register word := by
  rw [feed_eq_shifts _ (Nat.le_trans (Nat.le_of_eq (wordBits_length word)) fit),
    aligned_wordBits fit, wordBits_length, shifts_head fit, head_xor, head_leading fit,
    BitVec.shiftLeft_xor_distrib, leading_shiftLeft fit, BitVec.xor_zero]
  rfl

theorem foldl_tableStep (fit : length ≤ width) (data : List (BitVec length))
    (register : BitVec width) :
    data.foldl (tableStep (fun index => shifts poly length (leading index))) register =
      feed poly register (data.flatMap wordBits) := by
  induction data generalizing register with
  | nil => rfl
  | cons word rest ih =>
      rw [List.foldl_cons, ih, List.flatMap_cons, feed_append, feed_wordBits fit]

end Tables

section Reflection

theorem reverse_xor (left right : BitVec width) :
    (left ^^^ right).reverse = left.reverse ^^^ right.reverse := by
  apply BitVec.eq_of_getLsbD_eq
  intro index _
  rw [BitVec.getLsbD_reverse, BitVec.getMsbD_xor, BitVec.getLsbD_xor, BitVec.getLsbD_reverse,
    BitVec.getLsbD_reverse]

theorem reverse_shiftLeft (register : BitVec width) (count : Nat) :
    (register <<< count).reverse = register.reverse >>> count := by
  apply BitVec.eq_of_getLsbD_eq
  intro index _
  rw [BitVec.getLsbD_reverse, BitVec.getMsbD_shiftLeft, BitVec.getLsbD_ushiftRight,
    BitVec.getLsbD_reverse, Nat.add_comm]

theorem shiftLow_reverse (register : BitVec width) :
    shiftLow poly register.reverse = (shift poly register).reverse := by
  unfold shiftLow shift
  rw [BitVec.getLsbD_reverse, ← BitVec.msb_eq_getMsbD_zero, apply_ite BitVec.reverse, reverse_xor,
    reverse_shiftLeft]

theorem shiftsLow_reverse (count : Nat) (register : BitVec width) :
    shiftsLow poly count register.reverse = (shifts poly count register).reverse := by
  induction count generalizing register with
  | zero => rfl
  | succ count ih =>
      change shiftsLow poly count (shiftLow poly register.reverse) = _
      rw [shiftLow_reverse, ih]
      rfl

theorem reverse_leading (fit : length ≤ width) (word : BitVec length) :
    (leading word : BitVec width).reverse = word.reverse.setWidth width := by
  apply BitVec.eq_of_getLsbD_eq
  intro index inside
  rw [BitVec.getLsbD_reverse, leading_getMsbD fit, BitVec.getLsbD_setWidth, BitVec.getLsbD_reverse,
    decide_eq_true inside, Bool.true_and]

theorem reverse_head (fit : length ≤ width) (register : BitVec width) :
    (head length register).reverse = register.reverse.setWidth length := by
  apply BitVec.eq_of_getLsbD_eq
  intro index inside
  rw [BitVec.getLsbD_reverse, head_getMsbD fit register inside, BitVec.getLsbD_setWidth,
    BitVec.getLsbD_reverse, decide_eq_true inside, Bool.true_and]

theorem tableStepLow_reverse (fit : length ≤ width) (register : BitVec width)
    (word : BitVec length) :
    tableStepLow (fun index => shiftsLow poly length (index.setWidth width)) register.reverse word =
      (feed poly register (wordBits word.reverse)).reverse := by
  have index : leading (head length register ^^^ word.reverse) =
      ((register.reverse.setWidth length ^^^ word).setWidth width).reverse := by
    rw [← BitVec.reverse_reverse_eq (x := (leading _ : BitVec width)), reverse_leading fit,
      reverse_xor, reverse_head fit, BitVec.reverse_reverse_eq]
  rw [feed_wordBits fit]
  unfold tableStep tableStepLow
  dsimp only
  rw [index, reverse_xor, reverse_shiftLeft, ← shiftsLow_reverse, BitVec.reverse_reverse_eq]

theorem foldl_tableStepLow (fit : length ≤ width) (data : List (BitVec length))
    (register : BitVec width) :
    data.foldl (tableStepLow (fun index => shiftsLow poly length (index.setWidth width)))
        register.reverse =
      (feed poly register (data.flatMap (fun word => wordBits word.reverse))).reverse := by
  induction data generalizing register with
  | nil => rfl
  | cons word rest ih =>
      rw [List.foldl_cons, tableStepLow_reverse fit, ih, List.flatMap_cons, feed_append]

end Reflection

end CyclicCode
