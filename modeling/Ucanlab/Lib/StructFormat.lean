import Mathlib.Algebra.GroupWithZero.Nat
import Mathlib.Algebra.Group.Int.Defs
import Mathlib.Data.List.Basic

/-!
Packed records of fixed width, little-endian: unsigned and signed integers that have to fit
their width, and runs of bytes that are filled up or cut off to theirs. Packing values that
fit and unpacking gives the values back.
-/

namespace StructFormat

/-- The digits of a number to base 256, the lowest first. -/
def lowBytes : Nat → Nat → List UInt8
  | 0, _ => []
  | width + 1, value => UInt8.ofNat (value % 256) :: lowBytes width (value / 256)

def lowValue : List UInt8 → Nat
  | [] => 0
  | byte :: rest => byte.toNat + 256 * lowValue rest

@[simp]
theorem lowBytes_length (width value : Nat) : (lowBytes width value).length = width := by
  induction width generalizing value with
  | zero => rfl
  | succ width ih => simp [lowBytes, ih]

theorem lowValue_lowBytes (width value : Nat) :
    lowValue (lowBytes width value) = value % 256 ^ width := by
  induction width generalizing value with
  | zero => simp [lowBytes, lowValue, Nat.mod_one]
  | succ width ih =>
      have digit : (UInt8.ofNat (value % 256)).toNat = value % 256 := by
        rw [UInt8.toNat_ofNat']
        omega
      rw [lowBytes, lowValue, digit, ih, Nat.pow_succ', Nat.mod_mul]

def packUnsigned (width : Nat) (value : Int) : Option (List UInt8) :=
  if 0 ≤ value ∧ value < 256 ^ width then some (lowBytes width value.toNat) else none

/-- The two's complement of an integer that fits its width. -/
def packSigned (width : Nat) (value : Int) : Option (List UInt8) :=
  if -(256 ^ width : Int) ≤ 2 * value ∧ 2 * value < 256 ^ width then
    some (lowBytes width (value % 256 ^ width).toNat)
  else none

def packBytes (width : Nat) (value : List UInt8) : List UInt8 :=
  (value ++ List.replicate (width - value.length) 0).take width

def unpackSigned (width : Nat) (raw : List UInt8) : Int :=
  if 2 * (lowValue raw : Int) < 256 ^ width then lowValue raw else lowValue raw - 256 ^ width

theorem lowValue_toNat {width : Nat} {value : Int} (nonneg : 0 ≤ value)
    (below : value < 256 ^ width) : (lowValue (lowBytes width value.toNat) : Int) = value := by
  have small : value.toNat < 256 ^ width := by
    apply Int.ofNat_lt.mp
    rw [Int.toNat_of_nonneg nonneg]
    simpa using below
  rw [lowValue_lowBytes, Nat.mod_eq_of_lt small]
  exact Int.toNat_of_nonneg nonneg

theorem unpackSigned_lowBytes {width : Nat} {value : Int}
    (fits : -(256 ^ width : Int) ≤ 2 * value ∧ 2 * value < 256 ^ width) :
    unpackSigned width (lowBytes width (value % 256 ^ width).toNat) = value := by
  have positive : (0 : Int) < 256 ^ width := Int.pow_pos (by decide)
  have read := lowValue_toNat (Int.emod_nonneg value (Int.ne_of_gt positive))
    (Int.emod_lt_of_pos value positive)
  obtain ⟨lower, upper⟩ := fits
  unfold unpackSigned
  rw [read]
  generalize (256 : Int) ^ width = limit at positive lower upper
  by_cases negative : value < 0
  · have wrapped : value % limit = value + limit := by
      rw [← Int.add_emod_right]
      exact Int.emod_eq_of_lt (by omega) (by omega)
    rw [wrapped, if_neg (by omega)]
    omega
  · rw [Int.emod_eq_of_lt (by omega) (by omega), if_pos upper]

theorem packUnsigned_length {width : Nat} {value : Int} {raw : List UInt8}
    (packed : packUnsigned width value = some raw) : raw.length = width := by
  unfold packUnsigned at packed
  split at packed
  · cases packed
    exact lowBytes_length _ _
  · cases packed

theorem packSigned_length {width : Nat} {value : Int} {raw : List UInt8}
    (packed : packSigned width value = some raw) : raw.length = width := by
  unfold packSigned at packed
  split at packed
  · cases packed
    exact lowBytes_length _ _
  · cases packed

theorem packBytes_length (width : Nat) (value : List UInt8) :
    (packBytes width value).length = width := by
  simp [packBytes]
  omega

theorem packBytes_of_length {width : Nat} {value : List UInt8} (full : value.length = width) :
    packBytes width value = value := by
  simp [packBytes, ← full]

inductive Field where
  | unsigned (width : Nat)
  | signed (width : Nat)
  | bytes (width : Nat)
  deriving DecidableEq

namespace Field

def width : Field → Nat
  | unsigned width => width
  | signed width => width
  | bytes width => width

abbrev Value : Field → Type
  | unsigned _ => Int
  | signed _ => Int
  | bytes _ => List UInt8

def Fits : (field : Field) → field.Value → Prop
  | unsigned width, value => 0 ≤ value ∧ value < 256 ^ width
  | signed width, value => -(256 ^ width : Int) ≤ 2 * value ∧ 2 * value < 256 ^ width
  | bytes width, value => List.length value = width

theorem fits_unsigned {width : Nat} {value : Nat} (below : value < 256 ^ width) :
    (unsigned width).Fits (value : Int) := by
  have limit : (value : Int) < ((256 ^ width : Nat) : Int) := Int.ofNat_lt.mpr below
  rw [Int.natCast_pow] at limit
  exact ⟨Int.natCast_nonneg value, limit⟩

theorem fits_signed {width : Nat} {value : Int} (lower : -(256 ^ width : Int) ≤ 2 * value)
    (upper : 2 * value < 256 ^ width) : (signed width).Fits value :=
  ⟨lower, upper⟩

theorem fits_bytes {width : Nat} {value : List UInt8} (full : value.length = width) :
    (bytes width).Fits value := full

def pack : (field : Field) → field.Value → Option (List UInt8)
  | unsigned width, value => packUnsigned width value
  | signed width, value => packSigned width value
  | bytes width, value => some (packBytes width value)

def unpack : (field : Field) → List UInt8 → field.Value
  | unsigned _, raw => Int.ofNat (lowValue raw)
  | signed width, raw => unpackSigned width raw
  | bytes _, raw => raw

theorem pack_length {field : Field} {value : field.Value} {raw : List UInt8}
    (packed : field.pack value = some raw) : raw.length = field.width := by
  cases field with
  | unsigned width => exact packUnsigned_length packed
  | signed width => exact packSigned_length packed
  | bytes width =>
      cases packed
      exact packBytes_length width value

theorem pack_of_fits {field : Field} {value : field.Value} (fits : field.Fits value) :
    ∃ raw, field.pack value = some raw ∧ field.unpack raw = value := by
  cases field with
  | unsigned width => exact ⟨_, if_pos fits, lowValue_toNat fits.1 fits.2⟩
  | signed width => exact ⟨_, if_pos fits, unpackSigned_lowBytes fits⟩
  | bytes width => exact ⟨_, rfl, packBytes_of_length fits⟩

end Field

/-- The values of a format, one behind the other. -/
abbrev Values : List Field → Type
  | [] => Unit
  | field :: rest => field.Value × Values rest

def Values.snoc : {format : List Field} → Values format → {field : Field} → field.Value →
    Values (format ++ [field])
  | [], _, _, value => (value, ())
  | _ :: _, values, _, value => (values.1, Values.snoc values.2 value)

def size (format : List Field) : Nat := (format.map Field.width).sum

def Fits : (format : List Field) → Values format → Prop
  | [], _ => True
  | field :: rest, values => field.Fits values.1 ∧ Fits rest values.2

def pack : (format : List Field) → Values format → Option (List UInt8)
  | [], _ => some []
  | field :: rest, values =>
      match field.pack values.1, pack rest values.2 with
      | some raw, some later => some (raw ++ later)
      | _, _ => none

theorem pack_snoc {format : List Field} {values : Values format} {raw : List UInt8}
    (packed : pack format values = some raw) {field : Field} {value : field.Value}
    {last : List UInt8} (packedLast : field.pack value = some last) :
    pack (format ++ [field]) (values.snoc value) = some (raw ++ last) := by
  induction format generalizing raw with
  | nil =>
      cases packed
      change (match field.pack value, some [] with
        | some raw, some later => some (raw ++ later)
        | _, _ => none) = _
      rw [packedLast]
      simp
  | cons head rest ih =>
      obtain ⟨first, others⟩ := values
      unfold pack at packed
      cases front : head.pack first with
      | none =>
          rw [front] at packed
          cases packed
      | some front' =>
          cases later : pack rest others with
          | none =>
              rw [front, later] at packed
              cases packed
          | some later' =>
              rw [front, later] at packed
              cases packed
              change (match head.pack first, pack (rest ++ [field]) (Values.snoc others value) with
                | some raw, some later => some (raw ++ later)
                | _, _ => none) = _
              rw [front, ih later]
              simp

def read : (format : List Field) → List UInt8 → Values format
  | [], _ => ()
  | field :: rest, raw =>
      (field.unpack (raw.take field.width), read rest (raw.drop field.width))

def unpack (format : List Field) (raw : List UInt8) : Option (Values format) :=
  if raw.length = size format then some (read format raw) else none

theorem pack_of_fits {format : List Field} {values : Values format} (fits : Fits format values) :
    ∃ raw, pack format values = some raw ∧ raw.length = size format ∧ read format raw = values := by
  induction format with
  | nil => exact ⟨[], rfl, rfl, rfl⟩
  | cons field rest ih =>
      obtain ⟨head, tail⟩ := values
      obtain ⟨raw, packed, unpacked⟩ := Field.pack_of_fits fits.1
      obtain ⟨later, packedLater, length, readLater⟩ := ih fits.2
      have width := Field.pack_length packed
      refine ⟨raw ++ later, ?_, ?_, ?_⟩
      · unfold pack
        rw [packed, packedLater]
      · simp [size, width, length]
      · unfold read
        rw [← width, List.take_left, List.drop_left, unpacked, readLater]

theorem unpack_pack {format : List Field} {values : Values format} (fits : Fits format values) :
    ∃ raw, pack format values = some raw ∧ raw.length = size format ∧
      unpack format raw = some values := by
  obtain ⟨raw, packed, length, back⟩ := pack_of_fits fits
  refine ⟨raw, packed, length, ?_⟩
  unfold unpack
  rw [if_pos length, back]

end StructFormat
