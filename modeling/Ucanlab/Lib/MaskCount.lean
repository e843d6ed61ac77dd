import Mathlib.Data.Nat.Count
import Mathlib.Tactic.Ring

/-!
How many words of a given width a bit mask admits. A word `x` matches `value`
under `mask` when `x &&& mask = value`: every set bit of the mask fixes one bit
of the word, so a value inside the mask leaves the other bits free and a value
outside it is never matched.
-/

namespace MaskCount

/-- Set bits among the lowest `width`. -/
def onesBelow : Nat → Nat → Nat
  | 0, _ => 0
  | width + 1, mask => mask % 2 + onesBelow width (mask / 2)

def popCount (mask : Nat) : Nat := onesBelow (mask.log2 + 1) mask

def Submask (value mask : Nat) : Prop := value &&& mask = value

instance (value mask : Nat) : Decidable (Submask value mask) :=
  inferInstanceAs (Decidable (value &&& mask = value))

/-- The number of words below `2 ^ width` that match. -/
def matchCount (width mask value : Nat) : Nat :=
  Nat.count (fun word => word &&& mask = value) (2 ^ width)

theorem onesBelow_le (width mask : Nat) : onesBelow width mask ≤ width := by
  induction width generalizing mask with
  | zero => exact Nat.le_refl 0
  | succ width ih =>
      have rest := ih (mask / 2)
      have bit := Nat.mod_lt mask (show 0 < 2 by decide)
      simp only [onesBelow]
      omega

theorem onesBelow_zero (width : Nat) : onesBelow width 0 = 0 := by
  induction width with
  | zero => rfl
  | succ width ih => simp only [onesBelow, Nat.zero_mod, Nat.zero_div, ih]

theorem onesBelow_eq_of_lt (short long mask : Nat) (fits : mask < 2 ^ short)
    (order : short ≤ long) : onesBelow long mask = onesBelow short mask := by
  induction short generalizing long mask with
  | zero =>
      have zero : mask = 0 := by simpa using fits
      rw [zero, onesBelow_zero, onesBelow_zero]
  | succ short ih =>
      obtain ⟨more, rfl⟩ : ∃ more, long = more + 1 := ⟨long - 1, by omega⟩
      have half : mask / 2 < 2 ^ short := by
        rw [Nat.pow_succ] at fits
        omega
      simp only [onesBelow, ih more (mask / 2) half (by omega)]

theorem popCount_eq_onesBelow (width mask : Nat) (fits : mask < 2 ^ width) :
    popCount mask = onesBelow width mask := by
  unfold popCount
  by_cases zero : mask = 0
  · rw [zero, onesBelow_zero, onesBelow_zero]
  · have order : mask.log2 + 1 ≤ width := by
      have below := (Nat.log2_lt zero).mpr fits
      omega
    exact (onesBelow_eq_of_lt _ _ _ Nat.lt_log2_self order).symm

theorem onesBelow_mod (width mask : Nat) :
    onesBelow width (mask % 2 ^ width) = onesBelow width mask := by
  induction width generalizing mask with
  | zero => rfl
  | succ width ih =>
      have low : mask % 2 ^ (width + 1) % 2 = mask % 2 :=
        Nat.mod_mod_of_dvd _ ⟨2 ^ width, by rw [Nat.pow_succ, Nat.mul_comm]⟩
      have high : mask % 2 ^ (width + 1) / 2 = mask / 2 % 2 ^ width := by
        rw [Nat.pow_succ, Nat.mul_comm, Nat.mod_mul_right_div_self]
      simp only [onesBelow, low, high, ih]

private theorem count_double (p : Nat → Prop) [DecidablePred p] (n : Nat) :
    Nat.count p (2 * n) =
      Nat.count (fun y => p (2 * y)) n + Nat.count (fun y => p (2 * y + 1)) n := by
  induction n with
  | zero => simp
  | succ n ih =>
      rw [show 2 * (n + 1) = 2 * n + 1 + 1 by ring, Nat.count_succ, Nat.count_succ, ih,
        Nat.count_succ, Nat.count_succ]
      omega

private theorem and_eq_iff (word mask value : Nat) :
    word &&& mask = value ↔
      word / 2 &&& mask / 2 = value / 2 ∧ (word &&& mask) % 2 = value % 2 := by
  constructor
  · intro same
    rw [← Nat.and_div_two, same]
    exact ⟨rfl, rfl⟩
  · rintro ⟨high, low⟩
    rw [← Nat.and_div_two] at high
    omega

private theorem even_and_mod (word mask : Nat) : (2 * word &&& mask) % 2 = 0 := by
  have notOdd : ¬ (2 * word &&& mask) % 2 = 1 := by
    rw [Nat.and_mod_two_eq_one]
    omega
  omega

private theorem odd_and_mod (word mask : Nat) : ((2 * word + 1) &&& mask) % 2 = mask % 2 := by
  have odd : ((2 * word + 1) &&& mask) % 2 = 1 ↔ mask % 2 = 1 := by
    rw [Nat.and_mod_two_eq_one]
    omega
  omega

theorem submask_iff (value mask : Nat) :
    Submask value mask ↔ Submask (value / 2) (mask / 2) ∧ (value % 2 = 1 → mask % 2 = 1) := by
  unfold Submask
  rw [and_eq_iff]
  apply and_congr_right
  intro _
  have bit := Nat.and_mod_two_eq_one (a := value) (b := mask)
  omega

/-- A submask leaves exactly the unmasked bits free; any other value is never
matched. -/
theorem matchCount_eq (width mask value : Nat) :
    matchCount width mask value =
      if Submask value mask ∧ value < 2 ^ width then 2 ^ (width - onesBelow width mask) else 0 := by
  induction width generalizing mask value with
  | zero =>
      by_cases zero : value = 0
      · subst value
        have inside : Submask 0 mask ∧ 0 < 2 ^ 0 := ⟨Nat.zero_and mask, by decide⟩
        rw [if_pos inside, matchCount, Nat.pow_zero, Nat.count_succ, Nat.count_zero,
          if_pos (Nat.zero_and mask)]
        rfl
      · have large : ¬ (Submask value mask ∧ value < 2 ^ 0) := by
          rintro ⟨_, small⟩
          simp only [Nat.pow_zero] at small
          omega
        have unmatched : ¬ (0 &&& mask = value) := by
          rw [Nat.zero_and]
          exact Ne.symm zero
        rw [if_neg large, matchCount, Nat.pow_zero, Nat.count_succ, Nat.count_zero,
          if_neg unmatched]
  | succ width ih =>
      have bound : value < 2 ^ (width + 1) ↔ value / 2 < 2 ^ width := by
        rw [Nat.pow_succ]
        omega
      have evenHalf : ∀ word, 2 * word / 2 = word := fun word => by omega
      have oddHalf : ∀ word, (2 * word + 1) / 2 = word := fun word => by omega
      have evens : Nat.count (fun word => 2 * word &&& mask = value) (2 ^ width) =
          if value % 2 = 0 then matchCount width (mask / 2) (value / 2) else 0 := by
        by_cases even : value % 2 = 0
        · simp only [matchCount, and_eq_iff (2 * _) mask value, evenHalf, even_and_mod, even,
            and_true, if_true]
        · have odd : ¬ 0 = value % 2 := fun same => even same.symm
          simp [and_eq_iff (2 * _) mask value, even_and_mod, odd, even]
      have odds : Nat.count (fun word => (2 * word + 1) &&& mask = value) (2 ^ width) =
          if value % 2 = mask % 2 then matchCount width (mask / 2) (value / 2) else 0 := by
        by_cases same : value % 2 = mask % 2
        · simp only [matchCount, and_eq_iff (2 * _ + 1) mask value, oddHalf, odd_and_mod, same,
            and_true, if_true]
        · have different : ¬ mask % 2 = value % 2 := fun equal => same equal.symm
          simp [and_eq_iff (2 * _ + 1) mask value, odd_and_mod, different, same]
      have step : matchCount (width + 1) mask value =
          (if value % 2 = 0 then matchCount width (mask / 2) (value / 2) else 0) +
            (if value % 2 = mask % 2 then matchCount width (mask / 2) (value / 2) else 0) := by
        rw [← evens, ← odds, matchCount, Nat.pow_succ, Nat.mul_comm]
        exact count_double (fun word => word &&& mask = value) (2 ^ width)
      have rest := onesBelow_le width (mask / 2)
      have power : 2 ^ (width + 1 - onesBelow width (mask / 2)) =
          2 ^ (width - onesBelow width (mask / 2)) + 2 ^ (width - onesBelow width (mask / 2)) := by
        rw [Nat.sub_add_comm rest, Nat.pow_succ]
        omega
      have inner : (Submask value mask ∧ value < 2 ^ (width + 1)) ↔
          (Submask (value / 2) (mask / 2) ∧ value / 2 < 2 ^ width) ∧
            (value % 2 = 1 → mask % 2 = 1) := by
        rw [submask_iff value mask, bound]
        exact and_right_comm
      simp only [step, ih, inner, onesBelow]
      rcases Nat.mod_two_eq_zero_or_one value with even | odd <;>
        rcases Nat.mod_two_eq_zero_or_one mask with clear | set
      · simp only [even, clear, if_true, Nat.zero_add]
        by_cases inside : Submask (value / 2) (mask / 2) ∧ value / 2 < 2 ^ width
        · simp only [inside.1, inside.2, and_self, if_true, Nat.zero_ne_one, false_implies, power]
        · simp only [inside, if_false, Nat.zero_ne_one, false_implies, and_true]
      · simp only [even, set, if_true, Nat.zero_ne_one, if_false, Nat.add_zero, false_implies,
          and_true, Nat.add_comm 1, Nat.add_sub_add_right]
      · simp only [odd, clear, Nat.one_ne_zero, if_false, Nat.zero_ne_one, true_implies,
          and_false]
      · simp only [odd, set, Nat.one_ne_zero, if_false, if_true, Nat.zero_add, true_implies,
          and_true, Nat.add_comm 1, Nat.add_sub_add_right]

end MaskCount
