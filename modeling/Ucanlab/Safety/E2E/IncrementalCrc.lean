import Ucanlab.Lib.Dict
import Ucanlab.Safety.E2E.Crc

/-!
The checksum by table, with the cache of the tables already generated, against the division bit by
bit, and its continuation over a further part of the data.
-/

namespace Ucanlab.Safety.E2E

open Ucanlab CyclicCode

/-- The division bit by bit, without a table. -/
def calculateCrc8Bitwise (data : Bytes) (poly initVal finalXor : Int) : UInt8 :=
  data.foldl (fun crc byte => crc8Shifts (UInt8.ofInt poly) 8 (crc ^^^ byte)) (UInt8.ofInt initVal) ^^^
    UInt8.ofInt finalXor

/-- The final value is taken off before the further data and put on again after it. -/
def calculateCrc8Update (currentCrc : Int) (data : Bytes) (table : List UInt8) (finalXor : Int) :
    UInt8 :=
  crc8WithTable table (UInt8.ofInt currentCrc ^^^ UInt8.ofInt finalXor) (UInt8.ofInt finalXor) data

/-- `_CRC8_TABLE_CACHE`: the generated table of each polynomial asked for so far. -/
abbrev Crc8TableCache := Dict Int (List UInt8)

namespace Crc8TableCache

/-- The table that a call without one of its own uses, and the cache after it. -/
def tableFor (cache : Crc8TableCache) (poly : Int) : List UInt8 × Crc8TableCache :=
  if poly = polynomial0x1d then (crc8Table0x1d, cache)
  else if poly = polynomial0x2f then (crc8Table0x2f, cache)
  else
    match cache.get? poly with
    | some cached => (cached, cache)
    | none => (generateCrc8Table poly, cache.set poly (generateCrc8Table poly))

/-- `calculate_crc8` with the cache it reads and fills. -/
def calculateCrc8 (cache : Crc8TableCache) (data : Bytes) (poly initVal finalXor : Int)
    (table : Option (List UInt8)) : UInt8 × Crc8TableCache :=
  let (table, cache) :=
    match table with
    | some table => (table, cache)
    | none => cache.tableFor poly
  (crc8WithTable table (UInt8.ofInt initVal) (UInt8.ofInt finalXor) data, cache)

structure Call where
  data : Bytes
  poly : Int
  initVal : Int
  finalXor : Int
  table : Option (List UInt8)

def after (calls : List Call) : Crc8TableCache :=
  calls.foldl (fun cache call =>
    (cache.calculateCrc8 call.data call.poly call.initVal call.finalXor call.table).2) []

def Generated (cache : Crc8TableCache) : Prop :=
  ∀ poly table, cache.get? poly = some table → table = generateCrc8Table poly

section Cache

variable {cache : Crc8TableCache}

theorem Generated.set (generated : Generated cache) (poly : Int) :
    Generated (Dict.set cache poly (generateCrc8Table poly)) := by
  intro other table found
  by_cases same : other = poly
  · subst same
    rw [Dict.get?_set_self] at found
    exact (Option.some.inj found).symm
  · rw [Dict.get?_set_ne _ same] at found
    exact generated other table found

theorem Generated.tableFor (generated : Generated cache) (poly : Int) :
    (cache.tableFor poly).1 = generateCrc8Table poly ∧ Generated (cache.tableFor poly).2 := by
  unfold Crc8TableCache.tableFor
  by_cases first : poly = polynomial0x1d
  · rw [if_pos first]
    exact ⟨first ▸ crc8Table0x1d_eq, generated⟩
  · rw [if_neg first]
    by_cases second : poly = polynomial0x2f
    · rw [if_pos second]
      exact ⟨second ▸ crc8Table0x2f_eq, generated⟩
    · rw [if_neg second]
      cases found : cache.get? poly with
      | some cached => exact ⟨generated poly cached found, generated⟩
      | none => exact ⟨rfl, generated.set poly⟩

theorem Generated.afterCall (generated : Generated cache) (data : Bytes)
    (poly initVal finalXor : Int) (table : Option (List UInt8)) :
    Generated (cache.calculateCrc8 data poly initVal finalXor table).2 := by
  cases table with
  | some table => exact generated
  | none => exact (generated.tableFor poly).2

theorem after_generated (calls : List Call) : Generated (after calls) := by
  have run (cache : Crc8TableCache) (generated : Generated cache) :
      Generated (calls.foldl (fun cache call =>
        (cache.calculateCrc8 call.data call.poly call.initVal call.finalXor call.table).2) cache) := by
    induction calls generalizing cache with
    | nil => exact generated
    | cons call rest ih => exact ih _ (generated.afterCall _ _ _ _ _)
  exact run [] (fun _ _ found => nomatch found)

theorem Generated.calculateCrc8_fst (generated : Generated cache) (data : Bytes)
    (poly initVal finalXor : Int) :
    (cache.calculateCrc8 data poly initVal finalXor none).1 =
      crc8WithTable (generateCrc8Table poly) (UInt8.ofInt initVal) (UInt8.ofInt finalXor) data := by
  change crc8WithTable (cache.tableFor poly).1 _ _ data = _
  rw [(generated.tableFor poly).1]

end Cache

end Crc8TableCache

section Division

variable {table : List UInt8} {poly : UInt8}

theorem TableOf.foldl (tabled : TableOf table poly) (data : Bytes) (initVal : UInt8) :
    data.foldl (fun crc byte => table.getD (crc ^^^ byte).toNat 0) initVal =
      data.foldl (fun crc byte => crc8Shifts poly 8 (crc ^^^ byte)) initVal := by
  congr 1
  funext crc byte
  exact tabled _

theorem generated_bitwise (data : Bytes) (poly initVal finalXor : Int) :
    crc8WithTable (generateCrc8Table poly) (UInt8.ofInt initVal) (UInt8.ofInt finalXor) data =
      calculateCrc8Bitwise data poly initVal finalXor := by
  unfold crc8WithTable calculateCrc8Bitwise
  rw [(tableOf_generated poly).foldl]

/-- The register of the second part starts where the first part left it. -/
theorem crc8WithTable_append (table : List UInt8) (initVal finalXor : UInt8) (front back : Bytes) :
    crc8WithTable table (crc8WithTable table initVal finalXor front ^^^ finalXor) finalXor back =
      crc8WithTable table initVal finalXor (front ++ back) := by
  unfold crc8WithTable
  rw [List.foldl_append, UInt8.xor_assoc, UInt8.xor_self, UInt8.xor_zero]

theorem ofInt_toNat (byte : UInt8) : UInt8.ofInt byte.toNat = byte := by
  apply UInt8.toNat_inj.mp
  have below := byte.toNat_lt
  change (((byte.toNat : Int) % 256).toNat) % 256 = byte.toNat
  omega

end Division

/-- After any calls, the checksum by table is the one of the division bit by bit, and going on from
the checksum of a first part gives that of the whole. -/
theorem calculateCrc8_incremental (calls : List Crc8TableCache.Call) (poly initVal finalXor : Int)
    (data more : Bytes) :
    ((Crc8TableCache.after calls).calculateCrc8 data poly initVal finalXor none).1 =
        calculateCrc8Bitwise data poly initVal finalXor ∧
      calculateCrc8Update
          ((Crc8TableCache.after calls).calculateCrc8 data poly initVal finalXor none).1.toNat more
          ((Crc8TableCache.after calls).tableFor poly).1 finalXor =
        ((Crc8TableCache.after calls).calculateCrc8 (data ++ more) poly initVal finalXor none).1 := by
  have generated := Crc8TableCache.after_generated calls
  refine ⟨?_, ?_⟩
  · rw [generated.calculateCrc8_fst]
    exact generated_bitwise data poly initVal finalXor
  · unfold calculateCrc8Update
    rw [ofInt_toNat, (generated.tableFor poly).1, generated.calculateCrc8_fst,
      generated.calculateCrc8_fst]
    exact crc8WithTable_append ..

end Ucanlab.Safety.E2E
