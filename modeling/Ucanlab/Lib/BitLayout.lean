import Mathlib.Algebra.Group.Nat.Defs
import Mathlib.Algebra.Group.Int.Defs
import Mathlib.Data.List.Basic

/-!
Bit fields in a string of bytes, as signal databases number them. Position `8 * k + i` is bit `i` of
byte `k`. A little-endian field begins at its least significant bit and goes up; a big-endian one
begins at its most significant bit and goes down, from bit 0 of a byte to bit 7 of the next.
-/

namespace BitLayout

def bitAt (bytes : List UInt8) (position : Nat) : Option Nat :=
  (bytes[position / 8]?).map (fun byte => byte.toNat / 2 ^ (position % 8) % 2)

def below (position : Nat) : Nat := if position % 8 ≠ 0 then position - 1 else position + 15

def little (bytes : List UInt8) : Nat → Nat → Option Nat
  | 0, _ => some 0
  | length + 1, position =>
      match bitAt bytes position with
      | none => none
      | some bit => (little bytes length (position + 1)).map (fun rest => bit + 2 * rest)

def big (bytes : List UInt8) : Nat → Nat → Option Nat
  | 0, _ => some 0
  | length + 1, position =>
      match bitAt bytes position with
      | none => none
      | some bit => (big bytes length (below position)).map (fun rest => bit * 2 ^ length + rest)

def signed (length value : Nat) : Int :=
  if 2 ^ (length - 1) ≤ value then (value : Int) - 2 ^ length else value

section Bytes

variable {bytes : List UInt8} {index : Nat} {byte : UInt8}

theorem bitAt_byte (found : bytes[index]? = some byte) {bit : Nat} (inside : bit < 8) :
    bitAt bytes (8 * index + bit) = some (byte.toNat / 2 ^ bit % 2) := by
  unfold bitAt
  rw [show (8 * index + bit) / 8 = index by omega, show (8 * index + bit) % 8 = bit by omega,
    found]
  rfl

theorem little_succ {position bit : Nat} (found : bitAt bytes position = some bit) (length : Nat) :
    little bytes (length + 1) position =
      (little bytes length (position + 1)).map (fun rest => bit + 2 * rest) := by
  change (match bitAt bytes position with
    | none => none
    | some bit => (little bytes length (position + 1)).map (fun rest => bit + 2 * rest)) = _
  rw [found]

theorem big_succ {position bit : Nat} (found : bitAt bytes position = some bit) (length : Nat) :
    big bytes (length + 1) position =
      (big bytes length (below position)).map (fun rest => bit * 2 ^ length + rest) := by
  change (match bitAt bytes position with
    | none => none
    | some bit => (big bytes length (below position)).map (fun rest => bit * 2 ^ length + rest)) = _
  rw [found]

theorem little_byte (found : bytes[index]? = some byte) (length : Nat) {count bit : Nat}
    (inside : bit + count = 8) :
    little bytes (length + count) (8 * index + bit) =
      (little bytes length (8 * index + 8)).map
        (fun rest => byte.toNat / 2 ^ bit % 2 ^ count + 2 ^ count * rest) := by
  induction count generalizing bit with
  | zero =>
      rw [Nat.add_zero, show bit = 8 by omega]
      simp [Nat.mod_one]
  | succ count ih =>
      have next := ih (show bit + 1 + count = 8 by omega)
      rw [← Nat.add_assoc, little_succ (bitAt_byte found (by omega)), Nat.add_assoc (8 * index), next,
        Option.map_map]
      congr 1
      funext rest
      have quotient : byte.toNat / 2 ^ (bit + 1) = byte.toNat / 2 ^ bit / 2 := by
        rw [Nat.pow_succ, Nat.div_div_eq_div_mul]
      have remainder : byte.toNat / 2 ^ bit % 2 ^ (count + 1) =
          byte.toNat / 2 ^ bit % 2 + 2 * (byte.toNat / 2 ^ bit / 2 % 2 ^ count) := by
        rw [Nat.pow_succ, Nat.mul_comm (2 ^ count) 2, Nat.mod_mul]
      change byte.toNat / 2 ^ bit % 2 +
        2 * (byte.toNat / 2 ^ (bit + 1) % 2 ^ count + 2 ^ count * rest) = _
      rw [quotient, remainder, Nat.pow_succ, Nat.mul_add, ← Nat.add_assoc, ← Nat.mul_assoc,
        Nat.mul_comm (2 ^ count) 2]

theorem big_byte (found : bytes[index]? = some byte) (length : Nat) {bit : Nat}
    (inside : bit < 8) :
    big bytes (length + (bit + 1)) (8 * index + bit) =
      (big bytes length (8 * (index + 1) + 7)).map
        (fun rest => byte.toNat % 2 ^ (bit + 1) * 2 ^ length + rest) := by
  induction bit with
  | zero =>
      rw [big_succ (bitAt_byte found inside)]
      have next : below (8 * index + 0) = 8 * (index + 1) + 7 := by
        unfold below
        rw [if_neg (by omega)]
        omega
      rw [next, Nat.pow_zero, Nat.div_one, show 2 ^ (0 + 1) = 2 from rfl]
  | succ bit ih =>
      have next : below (8 * index + (bit + 1)) = 8 * index + bit := by
        unfold below
        rw [if_pos (by omega)]
        omega
      rw [← Nat.add_assoc, big_succ (bitAt_byte found inside), next, ih (by omega), Option.map_map]
      congr 1
      funext rest
      have split : byte.toNat % 2 ^ (bit + 1 + 1) =
          byte.toNat % 2 ^ (bit + 1) + 2 ^ (bit + 1) * (byte.toNat / 2 ^ (bit + 1) % 2) := by
        rw [Nat.pow_succ, Nat.mod_mul]
      change byte.toNat / 2 ^ (bit + 1) % 2 * 2 ^ (length + (bit + 1)) +
        (byte.toNat % 2 ^ (bit + 1) * 2 ^ length + rest) = _
      rw [split, Nat.add_mul, Nat.pow_add 2 length (bit + 1), Nat.mul_comm (2 ^ (bit + 1)),
        Nat.mul_assoc, Nat.mul_comm (2 ^ (bit + 1)) (2 ^ length)]
      omega

theorem foldl_bytes (init : Nat) (bytes : List UInt8) :
    bytes.foldl (fun total byte => total * 256 + byte.toNat) init =
      init * 256 ^ bytes.length + bytes.foldl (fun total byte => total * 256 + byte.toNat) 0 := by
  induction bytes generalizing init with
  | nil => simp
  | cons byte rest ih =>
      rw [List.foldl_cons, List.foldl_cons, ih, ih (0 * 256 + byte.toNat), List.length_cons,
        Nat.zero_mul, Nat.zero_add, Nat.add_mul, Nat.pow_succ', Nat.mul_assoc, Nat.add_assoc]

end Bytes

section WholeBytes

variable {bytes : List UInt8}

theorem drop_take_succ {index count : Nat} (inside : index + (count + 1) ≤ bytes.length) :
    ∃ byte, bytes[index]? = some byte ∧
      (bytes.drop index).take (count + 1) = byte :: (bytes.drop (index + 1)).take count := by
  have here : index < bytes.length := by omega
  refine ⟨bytes[index], List.getElem?_eq_getElem here, ?_⟩
  rw [List.drop_eq_getElem_cons here, List.take_succ_cons]

theorem little_bytes {index count : Nat} (inside : index + count ≤ bytes.length) :
    little bytes (8 * count) (8 * index) =
      some (((bytes.drop index).take count).foldr (fun byte total => byte.toNat + 256 * total)
        0) := by
  induction count generalizing index with
  | zero => rfl
  | succ count ih =>
      obtain ⟨byte, found, whole⟩ := drop_take_succ inside
      have small := byte.toNat_lt
      have first := little_byte found (8 * count) (show 0 + 8 = 8 from rfl)
      have rest := ih (show index + 1 + count ≤ bytes.length by omega)
      rw [Nat.pow_zero, Nat.div_one, Nat.mod_eq_of_lt small] at first
      rw [whole, List.foldr_cons]
      change little bytes (8 * count + 8) (8 * index + 0) = _
      rw [first, show 8 * index + 8 = 8 * (index + 1) by omega, rest]
      rfl

theorem big_bytes {index count : Nat} (inside : index + count ≤ bytes.length) :
    big bytes (8 * count) (8 * index + 7) =
      some (((bytes.drop index).take count).foldl (fun total byte => total * 256 + byte.toNat)
        0) := by
  induction count generalizing index with
  | zero => rfl
  | succ count ih =>
      obtain ⟨byte, found, whole⟩ := drop_take_succ inside
      have small := byte.toNat_lt
      have first := big_byte found (8 * count) (show 7 < 8 by decide)
      have rest := ih (show index + 1 + count ≤ bytes.length by omega)
      have remaining : ((bytes.drop (index + 1)).take count).length = count := by
        rw [List.length_take, List.length_drop]
        omega
      rw [Nat.mod_eq_of_lt small] at first
      rw [whole, List.foldl_cons, foldl_bytes, remaining, Nat.zero_mul, Nat.zero_add]
      change big bytes (8 * count + (7 + 1)) (8 * index + 7) = _
      rw [first, rest, Option.map_some, Nat.pow_mul]

theorem foldl_bytes_reverse (bytes : List UInt8) :
    bytes.foldl (fun total byte => total * 256 + byte.toNat) 0 =
      bytes.reverse.foldr (fun byte total => byte.toNat + 256 * total) 0 := by
  rw [List.foldr_reverse]
  congr 1
  funext total byte
  rw [Nat.mul_comm, Nat.add_comm]

theorem foldr_bytes_injective {first second : List UInt8} (length : first.length = second.length)
    (same : first.foldr (fun byte total => byte.toNat + 256 * total) 0 =
      second.foldr (fun byte total => byte.toNat + 256 * total) 0) : first = second := by
  induction first generalizing second with
  | nil => exact (List.length_eq_zero_iff.mp length.symm).symm
  | cons byte rest ih =>
      cases second with
      | nil => cases length
      | cons other others =>
          rw [List.foldr_cons, List.foldr_cons] at same
          have small := byte.toNat_lt
          have otherSmall := other.toNat_lt
          have low : byte.toNat = other.toNat := by omega
          have high := ih (Nat.succ.inj length) (by omega)
          rw [UInt8.toNat_inj.mp low, high]

end WholeBytes

section Positions

variable {bytes : List UInt8} {index position : Nat}

end Positions

end BitLayout
