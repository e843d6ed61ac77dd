import Ucanlab.Lib.BitField

/-!
The 29-bit J1939 identifier: priority, the two data pages, PDU format, PDU
specific and source address. In PDU1 format the PDU specific byte is the
destination and no part of the parameter group number.
-/

namespace Ucanlab.J1939

open BitField

structure J1939Id where
  pgn : Nat
  sourceAddress : Nat
  destinationAddress : Option Nat
  priority : Nat
  deriving DecidableEq, Repr

def pduFormat (arbitrationId : Nat) : Nat := (arbitrationId >>> 16) &&& 0xFF

def pduSpecific (arbitrationId : Nat) : Nat := (arbitrationId >>> 8) &&& 0xFF

def parseJ1939Id (arbitrationId : Nat) : J1939Id :=
  let priority := (arbitrationId >>> 26) &&& 0x07
  let edp := (arbitrationId >>> 25) &&& 0x01
  let dp := (arbitrationId >>> 24) &&& 0x01
  let pf := pduFormat arbitrationId
  let ps := pduSpecific arbitrationId
  let sa := arbitrationId &&& 0xFF
  if pf < 240 then
    { pgn := (edp <<< 17) ||| (dp <<< 16) ||| (pf <<< 8)
      sourceAddress := sa
      destinationAddress := some ps
      priority := priority }
  else
    { pgn := (edp <<< 17) ||| (dp <<< 16) ||| (pf <<< 8) ||| ps
      sourceAddress := sa
      destinationAddress := none
      priority := priority }

/-- The destination has a place in PDU1 format only. -/
def buildJ1939Id (pgn sa : Nat) (da : Option Nat) (priority : Nat) : Nat :=
  let priority := priority &&& 0x07
  let edp := (pgn >>> 17) &&& 0x01
  let dp := (pgn >>> 16) &&& 0x01
  let pf := (pgn >>> 8) &&& 0xFF
  let ps := pgn &&& 0xFF
  let targetDa := da.getD 0xFF &&& 0xFF
  (priority <<< 26) ||| (edp <<< 25) ||| (dp <<< 24) ||| (pf <<< 16) |||
    ((if pf < 240 then targetDa else ps) <<< 8) ||| (sa &&& 0xFF)

theorem pduFormat_eq (arbitrationId : Nat) :
    pduFormat arbitrationId = arbitrationId / 65536 % 256 :=
  shiftRight_and_eq arbitrationId 16 8

theorem pduSpecific_eq (arbitrationId : Nat) :
    pduSpecific arbitrationId = arbitrationId / 256 % 256 :=
  shiftRight_and_eq arbitrationId 8 8

theorem pages_or_format (arbitrationId : Nat) :
    (((arbitrationId >>> 25) &&& 0x01) <<< 17) ||| (((arbitrationId >>> 24) &&& 0x01) <<< 16) |||
      (pduFormat arbitrationId <<< 8) = arbitrationId / 65536 % 1024 * 256 := by
  have edp : (arbitrationId >>> 25) &&& 0x01 = arbitrationId / 33554432 % 2 :=
    shiftRight_and_eq arbitrationId 25 1
  have dp : (arbitrationId >>> 24) &&& 0x01 = arbitrationId / 16777216 % 2 :=
    shiftRight_and_eq arbitrationId 24 1
  have format := pduFormat_eq arbitrationId
  have low : pduFormat arbitrationId <<< 8 < 2 ^ 16 := by
    rw [Nat.shiftLeft_eq]
    omega
  have middle : ((arbitrationId >>> 24) &&& 0x01) * 2 ^ 16 + pduFormat arbitrationId <<< 8 <
      2 ^ 17 := by
    omega
  rw [Nat.or_assoc, shiftLeft_or_eq low, shiftLeft_or_eq middle, Nat.shiftLeft_eq, edp, dp, format]
  omega

theorem parseJ1939Id_pgn_of_pdu1 {arbitrationId : Nat} (pdu1 : pduFormat arbitrationId < 240) :
    (parseJ1939Id arbitrationId).pgn = arbitrationId / 65536 % 1024 * 256 := by
  unfold parseJ1939Id
  dsimp only
  rw [if_pos pdu1]
  exact pages_or_format arbitrationId

theorem parseJ1939Id_pgn_of_pdu2 {arbitrationId : Nat} (pdu2 : ¬ pduFormat arbitrationId < 240) :
    (parseJ1939Id arbitrationId).pgn = arbitrationId / 256 % 262144 := by
  have specific := pduSpecific_eq arbitrationId
  have small : pduSpecific arbitrationId < 2 ^ 8 := by omega
  have shifted : arbitrationId / 65536 % 1024 * 256 = (arbitrationId / 65536 % 1024) <<< 8 :=
    (Nat.shiftLeft_eq _ 8).symm
  have joined : ((arbitrationId / 65536 % 1024) <<< 8) ||| pduSpecific arbitrationId =
      arbitrationId / 65536 % 1024 * 2 ^ 8 + arbitrationId / 256 % 256 := by
    rw [shiftLeft_or_eq small, specific]
  have parsed : (parseJ1939Id arbitrationId).pgn =
      (((arbitrationId >>> 25) &&& 0x01) <<< 17) ||| (((arbitrationId >>> 24) &&& 0x01) <<< 16) |||
        (pduFormat arbitrationId <<< 8) ||| pduSpecific arbitrationId := by
    unfold parseJ1939Id
    dsimp only
    rw [if_neg pdu2]
  rw [pages_or_format, shifted, joined] at parsed
  omega

theorem buildJ1939Id_lt (pgn sa : Nat) (da : Option Nat) (priority : Nat) :
    buildJ1939Id pgn sa da priority < 2 ^ 29 := by
  have field (value mask width place : Nat) (low : mask < 2 ^ width) (fits : width + place ≤ 29) :
      (value &&& mask) <<< place < 2 ^ 29 := by
    have masked : value &&& mask < 2 ^ width := Nat.lt_of_le_of_lt Nat.and_le_right low
    rw [Nat.shiftLeft_eq]
    calc (value &&& mask) * 2 ^ place < 2 ^ width * 2 ^ place :=
          Nat.mul_lt_mul_of_pos_right masked (Nat.two_pow_pos place)
      _ = 2 ^ (width + place) := (Nat.pow_add 2 width place).symm
      _ ≤ 2 ^ 29 := Nat.pow_le_pow_right (by decide) fits
  have source : sa &&& 0xFF < 2 ^ 29 := Nat.lt_of_le_of_lt Nat.and_le_right (by decide)
  have specific : (if (pgn >>> 8) &&& 0xFF < 240 then da.getD 0xFF &&& 0xFF else pgn &&& 0xFF) <<< 8 <
      2 ^ 29 := by
    split
    · exact field _ 0xFF 8 8 (by decide) (by decide)
    · exact field _ 0xFF 8 8 (by decide) (by decide)
  unfold buildJ1939Id
  exact Nat.or_lt_two_pow (Nat.or_lt_two_pow (Nat.or_lt_two_pow (Nat.or_lt_two_pow (Nat.or_lt_two_pow
    (field priority 0x07 3 26 (by decide) (by decide))
    (field (pgn >>> 17) 0x01 1 25 (by decide) (by decide)))
    (field (pgn >>> 16) 0x01 1 24 (by decide) (by decide)))
    (field (pgn >>> 8) 0xFF 8 16 (by decide) (by decide))) specific) source

end Ucanlab.J1939
