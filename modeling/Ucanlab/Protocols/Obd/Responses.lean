import Ucanlab.Protocols.J1939.Diagnostics

/-!
The answers of the J1979 read services: trouble codes, on-board monitor results (mode 06) and
vehicle information (mode 09). The values of a monitor result stay raw, their display scaling is
left out.
-/

namespace Ucanlab.Obd

open J1939 (asciiField upperHexText)

/-- `format(nibble, "X")`. -/
def upperDigit (nibble : Nat) : Char := (Nat.digitChar nibble).toUpper

def decodeDtcPair (a b : UInt8) : List Char :=
  [['P', 'C', 'B', 'U'].getD ((a.toNat >>> 6) &&& 0x03) 'P',
    Nat.digitChar ((a.toNat >>> 4) &&& 0x03), upperDigit (a.toNat &&& 0x0F),
    upperDigit ((b.toNat >>> 4) &&& 0x0F), upperDigit (b.toNat &&& 0x0F)]

example : decodeDtcPair 0xC1 0x00 = ['U', '0', '1', '0', '0'] := by decide

/-- The codes that are there, of those that are announced. -/
def decodeDtcs (count : Nat) (pairs : Bytes) : List (List Char) :=
  (List.range (min count (pairs.length / 2))).map (fun index =>
    decodeDtcPair (pairs.getD (2 * index) 0) (pairs.getD (2 * index + 1) 0))

/-- An answer that is none of the service. -/
inductive ResponseError where
  | mode06
  | mode09 (infotype : Nat)
  deriving DecidableEq, Repr

section Mode06

structure Mode06Test where
  mid : Nat
  tid : Nat
  uasid : Nat
  rawValue : Int
  rawMin : Int
  rawMax : Int
  deriving DecidableEq

end Mode06

section Mode09

def infotypeVin : Nat := 0x02
def infotypeCalId : Nat := 0x04
def infotypeCvn : Nat := 0x06
def infotypeEcuName : Nat := 0x0A

/-- The data items of an answer, of those that are announced. -/
def items (payload : Bytes) (infotype size : Nat) : Except ResponseError (List Bytes) :=
  match payload with
  | service :: echoed :: count :: body =>
      if service ≠ 0x49 ∨ echoed.toNat ≠ infotype then .error (.mode09 infotype)
      else .ok ((List.range (min count.toNat (body.length / size))).map (fun index =>
        (body.drop (index * size)).take size))
  | _ => .error (.mode09 infotype)

def decodeVin (payload : Bytes) : Except ResponseError (Option (List Char)) :=
  match payload with
  | service :: echoed :: _ :: body =>
      if service ≠ 0x49 ∨ echoed.toNat ≠ infotypeVin then .error (.mode09 infotypeVin)
      else .ok (asciiField body)
  | _ => .error (.mode09 infotypeVin)

def decodeCalIds (payload : Bytes) : Except ResponseError (List (List Char)) :=
  match items payload infotypeCalId 16 with
  | .error error => .error error
  | .ok parts => .ok (parts.filterMap asciiField)

def decodeCvns (payload : Bytes) : Except ResponseError (List (List Char)) :=
  match items payload infotypeCvn 4 with
  | .error error => .error error
  | .ok parts => .ok (parts.map upperHexText)

/-- `text.strip("-")`. -/
def stripDashes (text : List Char) : List Char :=
  ((text.dropWhile (fun c => c == '-')).reverse.dropWhile (fun c => c == '-')).reverse

def decodeEcuName (payload : Bytes) : Except ResponseError (Option (List Char)) :=
  match items payload infotypeEcuName 20 with
  | .error error => .error error
  | .ok [] => .ok none
  | .ok (name :: _) =>
      let parts := (name.splitOn 0x00).filterMap asciiField
      let joined := ['-'].intercalate (parts.map stripDashes)
      .ok (if joined = [] then none else some joined)

end Mode09

end Ucanlab.Obd
