import Ucanlab.Core.CanFrame

/-!
The text and byte conversions the source takes from the language: stripping,
hexadecimal and integers in either byte order.
-/

namespace Ucanlab

instance lawfulChars : LawfulBEq (List Char) := inferInstance

/-- What `str.strip` removes. -/
def isPySpace (c : Char) : Bool :=
  let n := c.toNat
  (0x09 ≤ n && n ≤ 0x0D) || (0x1C ≤ n && n ≤ 0x20) || n == 0x85 || n == 0xA0 || n == 0x1680 ||
    (0x2000 ≤ n && n ≤ 0x200A) || n == 0x2028 || n == 0x2029 || n == 0x202F || n == 0x205F ||
    n == 0x3000

def pyStrip (text : List Char) : List Char :=
  ((text.dropWhile isPySpace).reverse.dropWhile isPySpace).reverse

/-- What `bytes.fromhex` skips between two bytes. -/
def isAsciiSpace (c : Char) : Bool :=
  (0x09 ≤ c.toNat && c.toNat ≤ 0x0D) || c.toNat == 0x20

def hexDigit (c : Char) : Option Nat :=
  let n := c.toNat
  if 0x30 ≤ n ∧ n ≤ 0x39 then some (n - 0x30)
  else if 0x41 ≤ n ∧ n ≤ 0x46 then some (n - 0x41 + 10)
  else if 0x61 ≤ n ∧ n ≤ 0x66 then some (n - 0x61 + 10)
  else none

def bytesFromHex : List Char → Option Bytes
  | [] => some []
  | [c] => if isAsciiSpace c then some [] else none
  | c :: d :: rest =>
      if isAsciiSpace c then bytesFromHex (d :: rest)
      else
        match hexDigit c, hexDigit d, bytesFromHex rest with
        | some high, some low, some bytes => some (UInt8.ofNat (16 * high + low) :: bytes)
        | _, _, _ => none

/-- The boundaries of `str.splitlines`. -/
def isLineBreak (c : Char) : Bool :=
  let n := c.toNat
  (0x0A ≤ n && n ≤ 0x0D) || (0x1C ≤ n && n ≤ 0x1E) || n == 0x85 || n == 0x2028 || n == 0x2029

def splitLinesFrom (line : List Char) : List Char → List (List Char)
  | [] => if line = [] then [] else [line]
  | '\r' :: '\n' :: rest => line :: splitLinesFrom [] rest
  | c :: rest =>
      if isLineBreak c then line :: splitLinesFrom [] rest else splitLinesFrom (line ++ [c]) rest

def pySplitLines (text : List Char) : List (List Char) := splitLinesFrom [] text

inductive UnhexError where
  | notAscii
  | oddLength
  | digit
  deriving DecidableEq, Repr

def UnhexError.text : UnhexError → String
  | .notAscii => "string argument should contain only ASCII characters"
  | .oddLength => "Odd-length string"
  | .digit => "Non-hexadecimal digit found"

def hexPairs : List Char → Option Bytes
  | high :: low :: rest =>
      match hexDigit high, hexDigit low, hexPairs rest with
      | some h, some l, some bytes => some (UInt8.ofNat (16 * h + l) :: bytes)
      | _, _, _ => none
  | _ => some []

/-- `binascii.unhexlify` on a text. -/
def unhexlify (text : List Char) : Except UnhexError Bytes :=
  if ¬ text.all (fun c => c.toNat < 128) then .error .notAscii
  else if text.length % 2 ≠ 0 then .error .oddLength
  else
    match hexPairs text with
    | none => .error .digit
    | some bytes => .ok bytes

theorem hexDigit_lt {c : Char} {value : Nat} (found : hexDigit c = some value) : value < 16 := by
  unfold hexDigit at found
  dsimp only at found
  split at found
  · cases found
    omega
  · split at found
    · cases found
      omega
    · split at found
      · cases found
        omega
      · cases found

theorem hexPairs_length {text : List Char} {bytes : Bytes} (found : hexPairs text = some bytes) :
    text.length / 2 = bytes.length := by
  induction text using hexPairs.induct generalizing bytes with
  | case1 high low rest h l tail later lowDigit highDigit ih =>
      unfold hexPairs at found
      rw [highDigit, lowDigit, later] at found
      cases found
      have shorter := ih later
      simp only [List.length_cons]
      omega
  | case2 high low rest unread ih =>
      unfold hexPairs at found
      split at found
      · rename_i highDigit lowDigit later
        exact absurd later (unread _ _ _ highDigit lowDigit)
      · cases found
  | case3 text short =>
      match text, short with
      | [], _ =>
          cases found
          rfl
      | [_], _ =>
          cases found
          simp
      | high :: low :: rest, short => exact absurd rfl (short high low rest)

theorem unhexlify_length {text : List Char} {bytes : Bytes} (ok : unhexlify text = .ok bytes) :
    text.length = 2 * bytes.length := by
  unfold unhexlify at ok
  split at ok
  · cases ok
  · split at ok
    · cases ok
    · rename_i even
      split at ok
      · cases ok
      · rename_i found
        cases ok
        have pairs := hexPairs_length found
        omega

theorem unhexlify_first {high low : Char} {text : List Char} {bytes : Bytes}
    (ok : unhexlify (high :: low :: text) = .ok bytes) :
    (bytes.getD 0 0).toNat = 16 * (hexDigit high).getD 0 + (hexDigit low).getD 0 := by
  unfold unhexlify at ok
  split at ok
  · cases ok
  · split at ok
    · cases ok
    · split at ok
      · cases ok
      · rename_i found
        cases ok
        unfold hexPairs at found
        split at found
        · rename_i h l tail highDigit lowDigit _
          cases found
          have highSmall := hexDigit_lt highDigit
          have lowSmall := hexDigit_lt lowDigit
          rw [highDigit, lowDigit, List.getD_cons_zero, Option.getD_some, Option.getD_some,
            UInt8.toNat_ofNat', Nat.mod_eq_of_lt (by omega)]
        · cases found

/-- `int.from_bytes(..., "big")`. -/
def natFromBytes (bytes : Bytes) : Nat :=
  bytes.foldl (fun total byte => total * 256 + byte.toNat) 0

/-- `int.to_bytes(width, "big")` for values that fit. -/
def natToBytes : Nat → Nat → Bytes
  | 0, _ => []
  | width + 1, value => natToBytes width (value / 256) ++ [UInt8.ofNat (value % 256)]

@[simp] theorem natToBytes_length (width value : Nat) : (natToBytes width value).length = width := by
  induction width generalizing value with
  | zero => rfl
  | succ width ih =>
      unfold natToBytes
      rw [List.length_append, List.length_singleton, ih]

theorem natFromBytes_natToBytes (width : Nat) {value : Nat} (fits : value < 256 ^ width) :
    natFromBytes (natToBytes width value) = value := by
  induction width generalizing value with
  | zero =>
      have zero : value = 0 := by
        rw [Nat.pow_zero] at fits
        omega
      rw [zero]
      rfl
  | succ width ih =>
      have high : value / 256 < 256 ^ width := by
        rw [Nat.pow_succ] at fits
        exact Nat.div_lt_of_lt_mul (Nat.mul_comm _ _ ▸ fits)
      have low : (UInt8.ofNat (value % 256)).toNat = value % 256 := by
        rw [UInt8.toNat_ofNat']
        omega
      unfold natToBytes natFromBytes
      rw [List.foldl_append]
      change natFromBytes (natToBytes width (value / 256)) * 256 +
        (UInt8.ofNat (value % 256)).toNat = value
      rw [ih high, low]
      omega

/-- `int.from_bytes(..., "little")`. -/
def littleEndian (bytes : Bytes) : Nat :=
  bytes.foldr (fun byte total => byte.toNat + 256 * total) 0

theorem littleEndian_lt (bytes : Bytes) : littleEndian bytes < 256 ^ bytes.length := by
  induction bytes with
  | nil => exact Nat.one_pos
  | cons byte rest ih =>
      have digit := byte.toNat_lt
      change byte.toNat + 256 * littleEndian rest < 256 ^ (rest.length + 1)
      rw [Nat.pow_succ]
      omega

structure Digests where
  hmacSha256 : Bytes → Bytes → Bytes
  sha256 : Bytes → Bytes
  hmacLength : ∀ key message, (hmacSha256 key message).length = 32
  shaLength : ∀ message, (sha256 message).length = 32

theorem blankHmac_length (_ _ : Bytes) : (List.replicate 32 (0 : UInt8)).length = 32 := rfl

theorem blankSha_length (_ : Bytes) : (List.replicate 32 (0 : UInt8)).length = 32 := rfl

end Ucanlab
