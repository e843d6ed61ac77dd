import Mathlib.Data.List.Basic

/-!
Base 64 with the standard alphabet. The decoder is the lenient one: it skips characters outside
the alphabet and ends at the padding that completes a group.
-/

namespace Base64

def letter (value : Nat) : UInt8 :=
  if value < 26 then UInt8.ofNat (0x41 + value)
  else if value < 52 then UInt8.ofNat (0x61 + (value - 26))
  else if value < 62 then UInt8.ofNat (0x30 + (value - 52))
  else if value = 62 then 0x2B
  else 0x2F

def padding : UInt8 := 0x3D

def sextet (char : UInt8) : Option Nat :=
  if 0x41 ≤ char.toNat ∧ char.toNat ≤ 0x5A then some (char.toNat - 0x41)
  else if 0x61 ≤ char.toNat ∧ char.toNat ≤ 0x7A then some (char.toNat - 0x61 + 26)
  else if 0x30 ≤ char.toNat ∧ char.toNat ≤ 0x39 then some (char.toNat - 0x30 + 52)
  else if char = 0x2B then some 62
  else if char = 0x2F then some 63
  else none

def encode : List UInt8 → List UInt8
  | [] => []
  | [first] => [letter (first.toNat / 4), letter (first.toNat % 4 * 16), padding, padding]
  | [first, second] =>
      [letter (first.toNat / 4), letter (first.toNat % 4 * 16 + second.toNat / 16),
        letter (second.toNat % 16 * 4), padding]
  | first :: second :: third :: rest =>
      letter (first.toNat / 4) :: letter (first.toNat % 4 * 16 + second.toNat / 16) ::
        letter (second.toNat % 16 * 4 + third.toNat / 64) :: letter (third.toNat % 64) :: encode rest

/-- The decoder at a position in a group of four, with the bits left over of the character
before and the paddings since. -/
def decodeFrom (position left pads : Nat) : List UInt8 → Option (List UInt8)
  | [] => if position = 0 then some [] else none
  | char :: rest =>
      if char = padding then
        if 2 ≤ position then
          if 4 ≤ position + (pads + 1) then some [] else decodeFrom position left (pads + 1) rest
        else decodeFrom position left pads rest
      else
        match sextet char with
        | none => decodeFrom position left pads rest
        | some value =>
            if position = 0 then decodeFrom 1 value 0 rest
            else if position = 1 then
              (decodeFrom 2 (value % 16) 0 rest).map (UInt8.ofNat (left * 4 + value / 16) :: ·)
            else if position = 2 then
              (decodeFrom 3 (value % 4) 0 rest).map (UInt8.ofNat (left * 16 + value / 4) :: ·)
            else (decodeFrom 0 0 0 rest).map (UInt8.ofNat (left * 64 + value) :: ·)

def decode (chars : List UInt8) : Option (List UInt8) := decodeFrom 0 0 0 chars

example : decode [0x5A, 0x67, 0x0A, 0x3D, 0x3D, 0x41] = some [0x66] := by decide

theorem sextet_letter : ∀ value < 64, sextet (letter value) = some value := by decide

theorem letter_ne_padding : ∀ value < 64, letter value ≠ padding := by decide

section Steps

variable {value left pads : Nat} (rest : List UInt8)

theorem decodeFrom_zero (small : value < 64) :
    decodeFrom 0 left pads (letter value :: rest) = decodeFrom 1 value 0 rest := by
  simp only [decodeFrom, if_neg (letter_ne_padding value small), sextet_letter value small, if_true]

theorem decodeFrom_one (small : value < 64) :
    decodeFrom 1 left pads (letter value :: rest) =
      (decodeFrom 2 (value % 16) 0 rest).map (UInt8.ofNat (left * 4 + value / 16) :: ·) := by
  simp only [decodeFrom, if_neg (letter_ne_padding value small), sextet_letter value small,
    if_neg Nat.one_ne_zero, if_true]

theorem decodeFrom_two (small : value < 64) :
    decodeFrom 2 left pads (letter value :: rest) =
      (decodeFrom 3 (value % 4) 0 rest).map (UInt8.ofNat (left * 16 + value / 4) :: ·) := by
  have noZero : ¬ (2 : Nat) = 0 := by decide
  have noOne : ¬ (2 : Nat) = 1 := by decide
  simp only [decodeFrom, if_neg (letter_ne_padding value small), sextet_letter value small,
    if_neg noZero, if_neg noOne, if_true]

theorem decodeFrom_three (small : value < 64) :
    decodeFrom 3 left pads (letter value :: rest) =
      (decodeFrom 0 0 0 rest).map (UInt8.ofNat (left * 64 + value) :: ·) := by
  have noZero : ¬ (3 : Nat) = 0 := by decide
  have noOne : ¬ (3 : Nat) = 1 := by decide
  have noTwo : ¬ (3 : Nat) = 2 := by decide
  simp only [decodeFrom, if_neg (letter_ne_padding value small), sextet_letter value small,
    if_neg noZero, if_neg noOne, if_neg noTwo]

end Steps

theorem ofNat_eq {value : Nat} {byte : UInt8} (same : value = byte.toNat) :
    UInt8.ofNat value = byte := by
  rw [same, UInt8.ofNat_toNat]

theorem decode_encode (bytes : List UInt8) : decode (encode bytes) = some bytes := by
  unfold decode
  induction bytes using encode.induct with
  | case1 => rfl
  | case2 first =>
      have bound := first.toNat_lt
      have whole : first.toNat / 4 * 4 + first.toNat % 4 * 16 / 16 = first.toNat := by omega
      rw [encode, decodeFrom_zero _ (by omega), decodeFrom_one _ (by omega), ofNat_eq whole]
      rfl
  | case3 first second =>
      have bound := first.toNat_lt
      have bound' := second.toNat_lt
      have whole : first.toNat / 4 * 4 + (first.toNat % 4 * 16 + second.toNat / 16) / 16 =
          first.toNat := by omega
      have whole' : (first.toNat % 4 * 16 + second.toNat / 16) % 16 * 16 +
          second.toNat % 16 * 4 / 4 = second.toNat := by omega
      rw [encode, decodeFrom_zero _ (by omega), decodeFrom_one _ (by omega),
        decodeFrom_two _ (by omega), ofNat_eq whole, ofNat_eq whole']
      rfl
  | case4 first second third rest ih =>
      have bound := first.toNat_lt
      have bound' := second.toNat_lt
      have bound'' := third.toNat_lt
      have whole : first.toNat / 4 * 4 + (first.toNat % 4 * 16 + second.toNat / 16) / 16 =
          first.toNat := by omega
      have whole' : (first.toNat % 4 * 16 + second.toNat / 16) % 16 * 16 +
          (second.toNat % 16 * 4 + third.toNat / 64) / 4 = second.toNat := by omega
      have whole'' : (second.toNat % 16 * 4 + third.toNat / 64) % 4 * 64 + third.toNat % 64 =
          third.toNat := by omega
      rw [encode, decodeFrom_zero _ (by omega), decodeFrom_one _ (by omega),
        decodeFrom_two _ (by omega), decodeFrom_three _ (by omega), ih, ofNat_eq whole,
        ofNat_eq whole', ofNat_eq whole'']
      rfl

theorem length_encode (bytes : List UInt8) :
    (encode bytes).length = 4 * ((bytes.length + 2) / 3) := by
  induction bytes using encode.induct with
  | case1 => rfl
  | case2 first => simp only [encode, List.length_cons, List.length_nil]
  | case3 first second => simp only [encode, List.length_cons, List.length_nil]
  | case4 first second third rest ih =>
      simp only [encode, List.length_cons, ih]
      omega

theorem mem_encode {bytes : List UInt8} {char : UInt8} (member : char ∈ encode bytes) :
    char = padding ∨ ∃ value < 64, char = letter value := by
  induction bytes using encode.induct with
  | case1 => cases member
  | case2 first =>
      have bound := first.toNat_lt
      simp only [encode, List.mem_cons, List.not_mem_nil, or_false, or_self] at member
      rcases member with rfl | rfl | rfl
      · exact Or.inr ⟨_, by omega, rfl⟩
      · exact Or.inr ⟨_, by omega, rfl⟩
      · exact Or.inl rfl
  | case3 first second =>
      have bound := first.toNat_lt
      have bound' := second.toNat_lt
      simp only [encode, List.mem_cons, List.not_mem_nil, or_false] at member
      rcases member with rfl | rfl | rfl | rfl
      · exact Or.inr ⟨_, by omega, rfl⟩
      · exact Or.inr ⟨_, by omega, rfl⟩
      · exact Or.inr ⟨_, by omega, rfl⟩
      · exact Or.inl rfl
  | case4 first second third rest ih =>
      have bound := first.toNat_lt
      have bound' := second.toNat_lt
      have bound'' := third.toNat_lt
      simp only [encode, List.mem_cons] at member
      rcases member with rfl | rfl | rfl | rfl | later
      · exact Or.inr ⟨_, by omega, rfl⟩
      · exact Or.inr ⟨_, by omega, rfl⟩
      · exact Or.inr ⟨_, by omega, rfl⟩
      · exact Or.inr ⟨_, by omega, rfl⟩
      · exact ih later

end Base64
