import Ucanlab.Core.PyText
import Ucanlab.Lib.BitField
import Ucanlab.Lib.BitLayout

/-!
The 64-bit NAME of a J1939 device. A NAME is the argument record of its
constructor together with the proof that the constructor's checks passed.
-/

namespace Ucanlab.J1939

open Ucanlab

structure NameFields where
  arbitraryAddressCapable : Bool
  industryGroup : Nat
  vehicleSystemInstance : Nat
  vehicleSystem : Nat
  reserved : Nat := 0
  function : Nat := 0
  functionInstance : Nat := 0
  ecuInstance : Nat := 0
  manufacturerCode : Nat := 0
  identityNumber : Nat := 0
  deriving DecidableEq, Repr

structure NameField where
  fieldName : String
  width : Nat
  value : Nat

namespace NameFields

/-- The fields in the order of the checks. -/
def numeric (f : NameFields) : List NameField :=
  [⟨"industry_group", 3, f.industryGroup⟩,
    ⟨"vehicle_system_instance", 4, f.vehicleSystemInstance⟩,
    ⟨"vehicle_system", 7, f.vehicleSystem⟩,
    ⟨"reserved", 1, f.reserved⟩,
    ⟨"function", 8, f.function⟩,
    ⟨"function_instance", 5, f.functionInstance⟩,
    ⟨"ecu_instance", 3, f.ecuInstance⟩,
    ⟨"manufacturer_code", 11, f.manufacturerCode⟩,
    ⟨"identity_number", 21, f.identityNumber⟩]

def postInit (f : NameFields) : Option NameField :=
  f.numeric.find? (fun field => decide (¬ field.value ≤ 2 ^ field.width - 1))

end NameFields

structure J1939Name extends NameFields where
  valid : toNameFields.postInit = none
  deriving DecidableEq

namespace J1939Name

def toInt64 (name : J1939Name) : Nat :=
  ((if name.arbitraryAddressCapable then 1 else 0) <<< 63) |||
    ((name.industryGroup &&& 0x07) <<< 60) ||| ((name.vehicleSystemInstance &&& 0x0F) <<< 56) |||
    ((name.vehicleSystem &&& 0x7F) <<< 49) ||| ((name.reserved &&& 0x01) <<< 48) |||
    ((name.function &&& 0xFF) <<< 40) ||| ((name.functionInstance &&& 0x1F) <<< 35) |||
    ((name.ecuInstance &&& 0x07) <<< 32) ||| ((name.manufacturerCode &&& 0x07FF) <<< 21) |||
    (name.identityNumber &&& 0x1FFFFF)

/-- `int.to_bytes(8, "little")`. -/
def toBytes (name : J1939Name) : Bytes := (natToBytes 8 name.toInt64).reverse

theorem toBytes_length (name : J1939Name) : name.toBytes.length = 8 := by
  unfold toBytes
  rw [List.length_reverse, natToBytes_length]

def int64Fields (val : Nat) : NameFields where
  arbitraryAddressCapable := decide ((val >>> 63) &&& 0x01 ≠ 0)
  industryGroup := (val >>> 60) &&& 0x07
  vehicleSystemInstance := (val >>> 56) &&& 0x0F
  vehicleSystem := (val >>> 49) &&& 0x7F
  reserved := (val >>> 48) &&& 0x01
  function := (val >>> 40) &&& 0xFF
  functionInstance := (val >>> 35) &&& 0x1F
  ecuInstance := (val >>> 32) &&& 0x07
  manufacturerCode := (val >>> 21) &&& 0x07FF
  identityNumber := val &&& 0x1FFFFF

/-- What is masked to a width fits it. -/
theorem int64Fields_valid (val : Nat) : (int64Fields val).postInit = none := by
  refine List.find?_eq_none.mpr fun field member => ?_
  rw [decide_eq_true_eq, not_not]
  unfold NameFields.numeric int64Fields at member
  simp only [List.mem_cons, List.not_mem_nil, or_false] at member
  rcases member with rfl | rfl | rfl | rfl | rfl | rfl | rfl | rfl | rfl
  all_goals exact Nat.and_le_right

def fromInt64 (val : Nat) : J1939Name := ⟨int64Fields val, int64Fields_valid val⟩

/-- `from_bytes`, for at least the eight bytes it needs. -/
def fromBytes (data : Bytes) : J1939Name := fromInt64 (littleEndian (data.take 8))

end J1939Name

end Ucanlab.J1939

/-!
The NAME as a number and as eight bytes. The ten fields fill the 64 bits, so both codecs lose
nothing in either direction, and the order of the decoded NAMEs is the order of the numbers sent.
-/

namespace Ucanlab.J1939

open Ucanlab BitField

def nameWidths : List Nat := [21, 11, 3, 5, 8, 1, 7, 4, 3, 1]

def NameFields.packed (f : NameFields) : List (Nat × Nat) :=
  f.numeric.reverse.map (fun field => (field.width, field.value)) ++
    [(1, if f.arbitraryAddressCapable then 1 else 0)]

namespace NameFields

variable {f g : NameFields}

theorem packed_widths (f : NameFields) : f.packed.map Prod.fst = nameWidths := rfl

theorem packed_injective (same : f.packed = g.packed) : f = g := by
  cases f
  cases g
  unfold packed numeric at same
  simp only [List.reverse_cons, List.reverse_nil, List.nil_append, List.cons_append,
    List.map_cons, List.map_nil, List.cons.injEq, Prod.mk.injEq, true_and, and_true] at same
  obtain ⟨identity, manufacturer, ecu, instanceOf, function, reserved, system, systemInstance,
    industry, capable⟩ := same
  subst identity manufacturer ecu instanceOf function reserved system systemInstance industry
  congr 1
  rename_i left _ _ _ _ _ _ _ _ _ right
  cases left with
  | false =>
      cases right with
      | false => rfl
      | true => exact absurd capable Nat.zero_ne_one
  | true =>
      cases right with
      | false => exact absurd capable Nat.one_ne_zero
      | true => rfl

/-- What the constructor lets through fits its widths. -/
theorem packed_fit (valid : f.postInit = none) : ∀ field ∈ f.packed, field.2 < 2 ^ field.1 := by
  intro field member
  rcases List.mem_append.mp member with numbered | capable
  · obtain ⟨source, isIn, rfl⟩ := List.mem_map.mp numbered
    have checked := List.find?_eq_none.mp valid source (List.mem_reverse.mp isIn)
    rw [decide_eq_true_eq, not_not] at checked
    have positive := Nat.two_pow_pos source.width
    exact Nat.lt_of_le_sub_one positive checked
  · rw [List.mem_singleton.mp capable]
    dsimp only
    split
    · exact Nat.one_lt_two
    · exact Nat.two_pos

end NameFields

namespace J1939Name

theorem toInt64_eq_pack (name : J1939Name) : name.toInt64 = pack name.packed := by
  have fit := NameFields.packed_fit name.valid
  have shape : name.packed = [(21, name.identityNumber), (11, name.manufacturerCode),
      (3, name.ecuInstance), (5, name.functionInstance), (8, name.function), (1, name.reserved),
      (7, name.vehicleSystem), (4, name.vehicleSystemInstance), (3, name.industryGroup),
      (1, if name.arbitraryAddressCapable then 1 else 0)] := rfl
  rw [shape] at fit ⊢
  simp only [List.forall_mem_cons] at fit
  obtain ⟨identity, manufacturer, ecu, instanceOf, function, reserved, system, systemInstance,
    industry, capable, -⟩ := fit
  have whole {width value : Nat} (small : value < 2 ^ width) : value &&& (2 ^ width - 1) = value := by
    rw [Nat.and_two_pow_sub_one_eq_mod, Nat.mod_eq_of_lt small]
  rw [pack_cons identity, pack_cons manufacturer, pack_cons ecu, pack_cons instanceOf,
    pack_cons function, pack_cons reserved, pack_cons system, pack_cons systemInstance,
    pack_cons industry, pack_cons capable]
  have masks := And.intro (whole industry) (And.intro (whole systemInstance)
    (And.intro (whole system) (And.intro (whole reserved) (And.intro (whole function)
      (And.intro (whole instanceOf) (And.intro (whole ecu) (And.intro (whole manufacturer)
        (whole identity))))))))
  simp only [Nat.reducePow, Nat.reduceSub] at masks
  unfold toInt64
  simp only [masks, pack, Nat.zero_shiftLeft, Nat.zero_or, Nat.shiftLeft_or_distrib,
    ← Nat.shiftLeft_add, Nat.reduceAdd]

theorem int64Fields_packed (val : Nat) :
    (int64Fields val).packed = nameWidths.zip (unpack nameWidths val) := by
  have field (offset width : Nat) :
      (val >>> offset) &&& (2 ^ width - 1) = val / 2 ^ offset % 2 ^ width :=
    shiftRight_and_eq val offset width
  have bit : (if decide ((val >>> 63) &&& (2 ^ 1 - 1) ≠ 0) then 1 else 0) =
      val / 2 ^ 63 % 2 ^ 1 := by
    rw [field]
    have small : val / 2 ^ 63 % 2 ^ 1 < 2 := Nat.mod_lt _ Nat.two_pos
    generalize val / 2 ^ 63 % 2 ^ 1 = capable at small ⊢
    by_cases zero : capable = 0
    · rw [zero]
      rfl
    · rw [if_pos (decide_eq_true zero)]
      omega
  have shape : (int64Fields val).packed = [(21, (val >>> 0) &&& (2 ^ 21 - 1)),
      (11, (val >>> 21) &&& (2 ^ 11 - 1)), (3, (val >>> 32) &&& (2 ^ 3 - 1)),
      (5, (val >>> 35) &&& (2 ^ 5 - 1)), (8, (val >>> 40) &&& (2 ^ 8 - 1)),
      (1, (val >>> 48) &&& (2 ^ 1 - 1)), (7, (val >>> 49) &&& (2 ^ 7 - 1)),
      (4, (val >>> 56) &&& (2 ^ 4 - 1)), (3, (val >>> 60) &&& (2 ^ 3 - 1)),
      (1, if decide ((val >>> 63) &&& (2 ^ 1 - 1) ≠ 0) then 1 else 0)] := rfl
  rw [shape, bit]
  simp only [field, nameWidths, unpack, List.zip_cons_cons, List.zip_nil_right,
    Nat.div_div_eq_div_mul, ← Nat.pow_add, Nat.reduceAdd, Nat.pow_zero, Nat.div_one]

theorem fromInt64_toInt64 (name : J1939Name) : fromInt64 name.toInt64 = name := by
  have kept : (int64Fields name.toInt64).packed = name.packed := by
    rw [int64Fields_packed, toInt64_eq_pack, ← NameFields.packed_widths name.toNameFields,
      unpack_pack (NameFields.packed_fit name.valid)]
    exact List.zip_of_prod rfl rfl
  have fields : int64Fields name.toInt64 = name.toNameFields := NameFields.packed_injective kept
  unfold fromInt64
  cases name
  congr 1

theorem toInt64_fromInt64 (val : Nat) : (fromInt64 val).toInt64 = val % 2 ^ 64 := by
  rw [toInt64_eq_pack]
  change pack (int64Fields val).packed = _
  rw [int64Fields_packed]
  exact pack_unpack nameWidths val

theorem littleEndian_toBytes (name : J1939Name) : littleEndian name.toBytes = name.toInt64 := by
  have small : name.toInt64 < 256 ^ 8 := by
    rw [← fromInt64_toInt64 name, toInt64_fromInt64]
    exact Nat.mod_lt _ (Nat.two_pow_pos 64)
  have turned : natFromBytes (natToBytes 8 name.toInt64) = littleEndian name.toBytes :=
    BitLayout.foldl_bytes_reverse _
  rw [← turned]
  exact natFromBytes_natToBytes 8 small

theorem fromBytes_toBytes (name : J1939Name) (rest : Bytes) :
    fromBytes (name.toBytes ++ rest) = name := by
  unfold fromBytes
  rw [← toBytes_length name, List.take_left, littleEndian_toBytes, fromInt64_toInt64]

/-- Nothing is lost in either direction, and the contention of two NAMEs compares the numbers that
their holders sent. -/
theorem name_codec_lossless :
    (∀ name : J1939Name,
      fromBytes name.toBytes = name ∧ fromInt64 name.toInt64 = name) ∧
    (∀ val : UInt64, (int64Fields val.toNat).postInit = none ∧
      (fromInt64 val.toNat).toInt64 = val.toNat) ∧
    ∀ (name other : J1939Name) (rest : Bytes),
      (name.toInt64 < (fromBytes (other.toBytes ++ rest)).toInt64 ↔
        littleEndian name.toBytes < littleEndian other.toBytes) ∧
      ((fromBytes (other.toBytes ++ rest)).toInt64 = name.toInt64 ↔ other.toBytes = name.toBytes) := by
  refine ⟨fun name => ⟨?_, fromInt64_toInt64 name⟩, fun val => ⟨int64Fields_valid _, ?_⟩,
    fun name other rest => ⟨?_, ?_⟩⟩
  · have read := fromBytes_toBytes name []
    rwa [List.append_nil] at read
  · rw [toInt64_fromInt64]
    exact Nat.mod_eq_of_lt val.toNat_lt
  · rw [fromBytes_toBytes, littleEndian_toBytes, littleEndian_toBytes]
  · rw [fromBytes_toBytes]
    constructor
    · intro same
      unfold toBytes
      rw [same]
    · intro same
      rw [← littleEndian_toBytes, same, littleEndian_toBytes]

end J1939Name

end Ucanlab.J1939
