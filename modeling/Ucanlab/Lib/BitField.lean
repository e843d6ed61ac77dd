import Mathlib.Data.Nat.Bitwise

/-!
Fields of bits in a natural number, as quotients and remainders: reading a field
by shift and mask, clearing what is below it, and joining it to a smaller number. Several fields
next to each other are packed into one number, the lowest first.
-/

namespace BitField

theorem shiftRight_and_eq (value offset width : Nat) :
    (value >>> offset) &&& (2 ^ width - 1) = value / 2 ^ offset % 2 ^ width := by
  rw [Nat.and_two_pow_sub_one_eq_mod, Nat.shiftRight_eq_div_pow]

theorem shiftLeft_or_eq {high low width : Nat} (small : low < 2 ^ width) :
    (high <<< width) ||| low = high * 2 ^ width + low := by
  rw [← Nat.shiftLeft_add_eq_or_of_lt small, Nat.shiftLeft_eq]

/-- A mask moved up is a field read in place. -/
theorem and_shiftLeft_eq (value offset width : Nat) :
    value &&& ((2 ^ width - 1) <<< offset) =
      value / 2 ^ offset % 2 ^ width * 2 ^ offset := by
  have moved : value &&& ((2 ^ width - 1) <<< offset) =
      ((value >>> offset) &&& (2 ^ width - 1)) <<< offset := by
    apply Nat.eq_of_testBit_eq
    intro bit
    simp only [Nat.testBit_and, Nat.testBit_shiftLeft, Nat.testBit_shiftRight]
    by_cases low : bit < offset
    · simp [show ¬ bit ≥ offset by omega]
    · rw [show offset + (bit - offset) = bit by omega]
      simp [show bit ≥ offset by omega]
  rw [moved, shiftRight_and_eq, Nat.shiftLeft_eq]

def pack : List (Nat × Nat) → Nat
  | [] => 0
  | (width, value) :: rest => value + 2 ^ width * pack rest

def unpack : List Nat → Nat → List Nat
  | [], _ => []
  | width :: widths, value => value % 2 ^ width :: unpack widths (value / 2 ^ width)

theorem unpack_pack {fields : List (Nat × Nat)} (fit : ∀ field ∈ fields, field.2 < 2 ^ field.1) :
    unpack (fields.map Prod.fst) (pack fields) = fields.map Prod.snd := by
  induction fields with
  | nil => rfl
  | cons field rest ih =>
      have small := fit field List.mem_cons_self
      have low : (field.2 + 2 ^ field.1 * pack rest) % 2 ^ field.1 = field.2 := by
        rw [Nat.add_mul_mod_self_left, Nat.mod_eq_of_lt small]
      have high : (field.2 + 2 ^ field.1 * pack rest) / 2 ^ field.1 = pack rest := by
        rw [Nat.add_mul_div_left _ _ (Nat.two_pow_pos field.1), Nat.div_eq_of_lt small, Nat.zero_add]
      change (field.2 + 2 ^ field.1 * pack rest) % 2 ^ field.1 ::
        unpack (rest.map Prod.fst) ((field.2 + 2 ^ field.1 * pack rest) / 2 ^ field.1) =
          field.2 :: rest.map Prod.snd
      rw [low, high, ih (fun other member => fit other (List.mem_cons_of_mem _ member))]

theorem pack_unpack (widths : List Nat) (value : Nat) :
    pack (widths.zip (unpack widths value)) = value % 2 ^ widths.sum := by
  induction widths generalizing value with
  | nil => exact (Nat.mod_one value).symm
  | cons width widths ih =>
      change value % 2 ^ width + 2 ^ width * pack (widths.zip (unpack widths (value / 2 ^ width))) =
        value % 2 ^ (width + widths.sum)
      rw [ih, Nat.pow_add, Nat.mod_mul]

/-- A field below the others is joined to them by a disjunction. -/
theorem pack_cons {width value : Nat} (small : value < 2 ^ width) (rest : List (Nat × Nat)) :
    pack ((width, value) :: rest) = (pack rest <<< width) ||| value := by
  rw [shiftLeft_or_eq small, Nat.mul_comm, Nat.add_comm]
  rfl

end BitField
