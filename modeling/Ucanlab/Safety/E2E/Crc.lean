import Ucanlab.Core.CanFrame
import Ucanlab.Lib.CyclicCode

/-!
Table-driven CRC-8 of the end-to-end protection profiles.
-/

namespace Ucanlab.Safety.E2E

open Ucanlab

def polynomial0x1d : Int := 0x1D
def polynomial0x2f : Int := 0x2F
def defaultCrcInit : Int := 0xFF
def defaultCrcXor : Int := 0xFF

def crc8Shift (poly curr : UInt8) : UInt8 :=
  if curr &&& 0x80 ≠ 0 then (curr <<< 1) ^^^ poly else curr <<< 1

def crc8Shifts (poly : UInt8) : Nat → UInt8 → UInt8
  | 0, curr => curr
  | count + 1, curr => crc8Shifts poly count (crc8Shift poly curr)

def generateCrc8Table (poly : Int) : List UInt8 :=
  (List.range 256).map (fun byte => crc8Shifts (UInt8.ofInt poly) 8 (UInt8.ofNat byte))

def crc8Table0x1d : List UInt8 :=
  [
    0x00, 0x1D, 0x3A, 0x27, 0x74, 0x69, 0x4E, 0x53, 0xE8, 0xF5, 0xD2, 0xCF, 0x9C, 0x81, 0xA6, 0xBB,
    0xCD, 0xD0, 0xF7, 0xEA, 0xB9, 0xA4, 0x83, 0x9E, 0x25, 0x38, 0x1F, 0x02, 0x51, 0x4C, 0x6B, 0x76,
    0x87, 0x9A, 0xBD, 0xA0, 0xF3, 0xEE, 0xC9, 0xD4, 0x6F, 0x72, 0x55, 0x48, 0x1B, 0x06, 0x21, 0x3C,
    0x4A, 0x57, 0x70, 0x6D, 0x3E, 0x23, 0x04, 0x19, 0xA2, 0xBF, 0x98, 0x85, 0xD6, 0xCB, 0xEC, 0xF1,
    0x13, 0x0E, 0x29, 0x34, 0x67, 0x7A, 0x5D, 0x40, 0xFB, 0xE6, 0xC1, 0xDC, 0x8F, 0x92, 0xB5, 0xA8,
    0xDE, 0xC3, 0xE4, 0xF9, 0xAA, 0xB7, 0x90, 0x8D, 0x36, 0x2B, 0x0C, 0x11, 0x42, 0x5F, 0x78, 0x65,
    0x94, 0x89, 0xAE, 0xB3, 0xE0, 0xFD, 0xDA, 0xC7, 0x7C, 0x61, 0x46, 0x5B, 0x08, 0x15, 0x32, 0x2F,
    0x59, 0x44, 0x63, 0x7E, 0x2D, 0x30, 0x17, 0x0A, 0xB1, 0xAC, 0x8B, 0x96, 0xC5, 0xD8, 0xFF, 0xE2,
    0x26, 0x3B, 0x1C, 0x01, 0x52, 0x4F, 0x68, 0x75, 0xCE, 0xD3, 0xF4, 0xE9, 0xBA, 0xA7, 0x80, 0x9D,
    0xEB, 0xF6, 0xD1, 0xCC, 0x9F, 0x82, 0xA5, 0xB8, 0x03, 0x1E, 0x39, 0x24, 0x77, 0x6A, 0x4D, 0x50,
    0xA1, 0xBC, 0x9B, 0x86, 0xD5, 0xC8, 0xEF, 0xF2, 0x49, 0x54, 0x73, 0x6E, 0x3D, 0x20, 0x07, 0x1A,
    0x6C, 0x71, 0x56, 0x4B, 0x18, 0x05, 0x22, 0x3F, 0x84, 0x99, 0xBE, 0xA3, 0xF0, 0xED, 0xCA, 0xD7,
    0x35, 0x28, 0x0F, 0x12, 0x41, 0x5C, 0x7B, 0x66, 0xDD, 0xC0, 0xE7, 0xFA, 0xA9, 0xB4, 0x93, 0x8E,
    0xF8, 0xE5, 0xC2, 0xDF, 0x8C, 0x91, 0xB6, 0xAB, 0x10, 0x0D, 0x2A, 0x37, 0x64, 0x79, 0x5E, 0x43,
    0xB2, 0xAF, 0x88, 0x95, 0xC6, 0xDB, 0xFC, 0xE1, 0x5A, 0x47, 0x60, 0x7D, 0x2E, 0x33, 0x14, 0x09,
    0x7F, 0x62, 0x45, 0x58, 0x0B, 0x16, 0x31, 0x2C, 0x97, 0x8A, 0xAD, 0xB0, 0xE3, 0xFE, 0xD9, 0xC4]

def crc8Table0x2f : List UInt8 :=
  [
    0x00, 0x2F, 0x5E, 0x71, 0xBC, 0x93, 0xE2, 0xCD, 0x57, 0x78, 0x09, 0x26, 0xEB, 0xC4, 0xB5, 0x9A,
    0xAE, 0x81, 0xF0, 0xDF, 0x12, 0x3D, 0x4C, 0x63, 0xF9, 0xD6, 0xA7, 0x88, 0x45, 0x6A, 0x1B, 0x34,
    0x73, 0x5C, 0x2D, 0x02, 0xCF, 0xE0, 0x91, 0xBE, 0x24, 0x0B, 0x7A, 0x55, 0x98, 0xB7, 0xC6, 0xE9,
    0xDD, 0xF2, 0x83, 0xAC, 0x61, 0x4E, 0x3F, 0x10, 0x8A, 0xA5, 0xD4, 0xFB, 0x36, 0x19, 0x68, 0x47,
    0xE6, 0xC9, 0xB8, 0x97, 0x5A, 0x75, 0x04, 0x2B, 0xB1, 0x9E, 0xEF, 0xC0, 0x0D, 0x22, 0x53, 0x7C,
    0x48, 0x67, 0x16, 0x39, 0xF4, 0xDB, 0xAA, 0x85, 0x1F, 0x30, 0x41, 0x6E, 0xA3, 0x8C, 0xFD, 0xD2,
    0x95, 0xBA, 0xCB, 0xE4, 0x29, 0x06, 0x77, 0x58, 0xC2, 0xED, 0x9C, 0xB3, 0x7E, 0x51, 0x20, 0x0F,
    0x3B, 0x14, 0x65, 0x4A, 0x87, 0xA8, 0xD9, 0xF6, 0x6C, 0x43, 0x32, 0x1D, 0xD0, 0xFF, 0x8E, 0xA1,
    0xE3, 0xCC, 0xBD, 0x92, 0x5F, 0x70, 0x01, 0x2E, 0xB4, 0x9B, 0xEA, 0xC5, 0x08, 0x27, 0x56, 0x79,
    0x4D, 0x62, 0x13, 0x3C, 0xF1, 0xDE, 0xAF, 0x80, 0x1A, 0x35, 0x44, 0x6B, 0xA6, 0x89, 0xF8, 0xD7,
    0x90, 0xBF, 0xCE, 0xE1, 0x2C, 0x03, 0x72, 0x5D, 0xC7, 0xE8, 0x99, 0xB6, 0x7B, 0x54, 0x25, 0x0A,
    0x3E, 0x11, 0x60, 0x4F, 0x82, 0xAD, 0xDC, 0xF3, 0x69, 0x46, 0x37, 0x18, 0xD5, 0xFA, 0x8B, 0xA4,
    0x05, 0x2A, 0x5B, 0x74, 0xB9, 0x96, 0xE7, 0xC8, 0x52, 0x7D, 0x0C, 0x23, 0xEE, 0xC1, 0xB0, 0x9F,
    0xAB, 0x84, 0xF5, 0xDA, 0x17, 0x38, 0x49, 0x66, 0xFC, 0xD3, 0xA2, 0x8D, 0x40, 0x6F, 0x1E, 0x31,
    0x76, 0x59, 0x28, 0x07, 0xCA, 0xE5, 0x94, 0xBB, 0x21, 0x0E, 0x7F, 0x50, 0x9D, 0xB2, 0xC3, 0xEC,
    0xD8, 0xF7, 0x86, 0xA9, 0x64, 0x4B, 0x3A, 0x15, 0x8F, 0xA0, 0xD1, 0xFE, 0x33, 0x1C, 0x6D, 0x42]

def crc8WithTable (table : List UInt8) (initVal finalXor : UInt8) (data : Bytes) : UInt8 :=
  data.foldl (fun crc byte => table.getD (crc ^^^ byte).toNat 0) initVal ^^^ finalXor

/-- `calculate_crc8` without an explicit table; the cache of generated tables
does not change its result. -/
def calculateCrc8 (data : Bytes) (poly initVal finalXor : Int) : UInt8 :=
  let table :=
    if poly = polynomial0x1d then crc8Table0x1d
    else if poly = polynomial0x2f then crc8Table0x2f
    else generateCrc8Table poly
  crc8WithTable table (UInt8.ofInt initVal) (UInt8.ofInt finalXor) data

def calculateCrc8_0x1d (data : Bytes) : UInt8 :=
  crc8WithTable crc8Table0x1d (UInt8.ofInt defaultCrcInit) (UInt8.ofInt defaultCrcXor) data

def calculateCrc8_0x2f (data : Bytes) : UInt8 :=
  crc8WithTable crc8Table0x2f (UInt8.ofInt defaultCrcInit) (UInt8.ofInt defaultCrcXor) data

def calculateCrc8SaeJ1850 (data : Bytes) : UInt8 := calculateCrc8_0x1d data

end Ucanlab.Safety.E2E

/-!
The table-driven checksum as the division of the bits of its bytes, and what a burst of errors does
to it.
-/

namespace Ucanlab.Safety.E2E

open Ucanlab CyclicCode

def byteBits (byte : UInt8) : List Bool := (List.range 8).map (fun index => byte.toBitVec.getMsbD index)

def bitsOf (bytes : Bytes) : List Bool := bytes.flatMap byteBits

def corrupt (bytes errors : Bytes) : Bytes := List.zipWith (fun byte error => byte ^^^ error) bytes errors

def TableOf (table : List UInt8) (poly : UInt8) : Prop :=
  ∀ byte : UInt8, table.getD byte.toNat 0 = crc8Shifts poly 8 byte

section Division

theorem crc8Shift_toBitVec (poly curr : UInt8) :
    (crc8Shift poly curr).toBitVec = shift poly.toBitVec curr.toBitVec := by
  have leads : ∀ register : BitVec 8, (register &&& 0x80#8 = 0#8 ↔ register.msb = false) := by
    decide
  unfold crc8Shift shift
  by_cases low : curr &&& 0x80 = 0
  · have bits : curr.toBitVec &&& 0x80#8 = 0#8 := congrArg UInt8.toBitVec low
    rw [if_neg (not_not_intro low), (leads _).mp bits, if_neg Bool.false_ne_true]
    rfl
  · have high : curr.toBitVec.msb = true := by
      rw [← Bool.not_eq_false]
      intro clear
      exact low (UInt8.toBitVec_inj.mp ((leads _).mpr clear))
    rw [if_pos low, high, if_pos rfl]
    rfl

theorem crc8Shifts_toBitVec (poly : UInt8) (count : Nat) (curr : UInt8) :
    (crc8Shifts poly count curr).toBitVec = shifts poly.toBitVec count curr.toBitVec := by
  induction count generalizing curr with
  | zero => rfl
  | succ count ih =>
      change (crc8Shifts poly count (crc8Shift poly curr)).toBitVec = _
      rw [ih, crc8Shift_toBitVec]
      rfl

theorem byteBits_length (byte : UInt8) : (byteBits byte).length = 8 := rfl

theorem bitsOf_cons (byte : UInt8) (rest : Bytes) : bitsOf (byte :: rest) = byteBits byte ++ bitsOf rest :=
  List.flatMap_cons

theorem bitsOf_append (front back : Bytes) : bitsOf (front ++ back) = bitsOf front ++ bitsOf back :=
  List.flatMap_append

theorem bitsOf_length (bytes : Bytes) : (bitsOf bytes).length = 8 * bytes.length := by
  induction bytes with
  | nil => rfl
  | cons byte rest ih =>
      rw [bitsOf_cons, List.length_append, ih, byteBits_length, List.length_cons]
      omega

theorem aligned_byteBits (byte : UInt8) : aligned (byteBits byte) = byte.toBitVec := by
  apply BitVec.eq_of_getMsbD_eq
  intro index inside
  rw [aligned_getMsbD _ _ inside]
  unfold byteBits
  rw [List.getD_eq_getElem?_getD, List.getElem?_map, List.getElem?_range inside]
  rfl

theorem feed_byteBits (poly byte : UInt8) (register : BitVec 8) :
    feed poly.toBitVec register (byteBits byte) =
      shifts poly.toBitVec 8 (register ^^^ byte.toBitVec) := by
  rw [feed_eq_shifts _ (Nat.le_of_eq (byteBits_length byte)), aligned_byteBits, byteBits_length]

theorem foldl_table {table : List UInt8} {poly : UInt8} (tabled : TableOf table poly) (data : Bytes)
    (initVal : UInt8) :
    (data.foldl (fun crc byte => table.getD (crc ^^^ byte).toNat 0) initVal).toBitVec =
      feed poly.toBitVec initVal.toBitVec (bitsOf data) := by
  induction data generalizing initVal with
  | nil => rfl
  | cons byte rest ih =>
      rw [List.foldl_cons, ih, bitsOf_cons, feed_append, feed_byteBits, tabled,
        crc8Shifts_toBitVec, UInt8.toBitVec_xor]

theorem byteBits_xor (byte error : UInt8) :
    byteBits (byte ^^^ error) = List.zipWith xor (byteBits byte) (byteBits error) := by
  unfold byteBits
  rw [List.zipWith_map, List.zipWith_self, UInt8.toBitVec_xor]
  refine List.map_congr_left ?_
  intro index _
  exact BitVec.getMsbD_xor

theorem bitsOf_corrupt (bytes errors : Bytes) (same : errors.length = bytes.length) :
    bitsOf (corrupt bytes errors) = List.zipWith xor (bitsOf bytes) (bitsOf errors) := by
  induction bytes generalizing errors with
  | nil => rfl
  | cons byte rest ih =>
      cases errors with
      | nil => cases same
      | cons error errors =>
          change bitsOf ((byte ^^^ error) :: corrupt rest errors) = _
          rw [bitsOf_cons, bitsOf_cons, bitsOf_cons, ih errors (Nat.succ.inj same), byteBits_xor,
            List.zipWith_append]
          exact (byteBits_length byte).trans (byteBits_length error).symm

theorem bitsOf_zeros (count : Nat) :
    bitsOf (List.replicate count 0) = List.replicate (8 * count) false := by
  induction count with
  | zero => rfl
  | succ count ih =>
      rw [List.replicate_succ, bitsOf_cons, ih, Nat.mul_succ, Nat.add_comm, List.replicate_add]
      rfl

end Division

theorem crc8WithTable_burst {table : List UInt8} {poly : UInt8} (tabled : TableOf table poly)
    (odd : poly.toBitVec.getLsbD 0 = true) (initVal finalXor : UInt8) {data errors : Bytes}
    (same : errors.length = data.length) (burst : Burst 8 (bitsOf errors)) :
    crc8WithTable table initVal finalXor (corrupt data errors) ≠
      crc8WithTable table initVal finalXor data := by
  intro unchanged
  unfold crc8WithTable at unchanged
  have registers := congrArg UInt8.toBitVec ((UInt8.xor_left_inj finalXor).mp unchanged)
  have lengths : (bitsOf data).length = (bitsOf errors).length := by
    rw [bitsOf_length, bitsOf_length, same]
  rw [foldl_table tabled, foldl_table tabled, bitsOf_corrupt data errors same,
    show initVal.toBitVec = initVal.toBitVec ^^^ 0#8 from BitVec.xor_zero.symm,
    feed_xor _ _ _ _ lengths, BitVec.xor_zero] at registers
  exact feed_burst odd burst ((BitVec.xor_right_inj _).mp (registers.trans BitVec.xor_zero.symm))

section Tables

theorem tableOf_generated (poly : Int) : TableOf (generateCrc8Table poly) (UInt8.ofInt poly) := by
  intro byte
  unfold generateCrc8Table
  rw [List.getD_eq_getElem?_getD, List.getElem?_map, List.getElem?_range byte.toNat_lt,
    Option.map_some, Option.getD_some, UInt8.ofNat_toNat]

theorem crc8Table0x1d_eq : crc8Table0x1d = generateCrc8Table polynomial0x1d := by decide +kernel

theorem crc8Table0x2f_eq : crc8Table0x2f = generateCrc8Table polynomial0x2f := by decide +kernel

theorem tableOf_0x1d : TableOf crc8Table0x1d 0x1D :=
  crc8Table0x1d_eq ▸ tableOf_generated polynomial0x1d

theorem tableOf_0x2f : TableOf crc8Table0x2f 0x2F :=
  crc8Table0x2f_eq ▸ tableOf_generated polynomial0x2f

end Tables

end Ucanlab.Safety.E2E
