import Mathlib.Algebra.GroupWithZero.Nat
import Mathlib.Data.List.Basic

/-!
Texts as sequences of code points. Surrogates count as code points: such a text has no UTF-8
form, and two of them may share their UTF-16 form. Without surrogates both forms can be read
back.
-/

abbrev CodePoint := Fin 0x110000

instance codePointsNonempty : NeZero 0x110000 := ⟨by decide⟩

namespace CodePoint

def ofChar (c : Char) : CodePoint :=
  ⟨c.toNat, by
    have valid := c.valid
    unfold UInt32.isValidChar Nat.isValidChar at valid
    change c.val.toNat < 1114112
    omega⟩

def text (chars : List Char) : List CodePoint := chars.map ofChar

def IsHigh (point : CodePoint) : Prop := 0xD800 ≤ point.val ∧ point.val < 0xDC00

def IsLow (point : CodePoint) : Prop := 0xDC00 ≤ point.val ∧ point.val < 0xE000

def IsSurrogate (point : CodePoint) : Prop := 0xD800 ≤ point.val ∧ point.val < 0xE000

instance (point : CodePoint) : Decidable point.IsHigh := inferInstanceAs (Decidable (_ ∧ _))

instance (point : CodePoint) : Decidable point.IsLow := inferInstanceAs (Decidable (_ ∧ _))

instance (point : CodePoint) : Decidable point.IsSurrogate := inferInstanceAs (Decidable (_ ∧ _))

def hasSurrogate (points : List CodePoint) : Bool :=
  points.any (fun point => decide point.IsSurrogate)

theorem hasSurrogate_eq_false {points : List CodePoint} :
    hasSurrogate points = false ↔ ∀ point ∈ points, ¬ point.IsSurrogate := by
  simp [hasSurrogate]

section Utf16

def utf16 (point : CodePoint) : List Nat :=
  if point.val ≤ 0xFFFF then [point.val]
  else [0xD800 + (point.val - 0x10000) >>> 10, 0xDC00 + ((point.val - 0x10000) &&& 0x3FF)]

theorem utf16_small {point : CodePoint} (small : point.val ≤ 0xFFFF) :
    point.utf16 = [point.val] := if_pos small

theorem utf16_large {point : CodePoint} (large : ¬ point.val ≤ 0xFFFF) :
    point.utf16 =
      [0xD800 + (point.val - 0x10000) / 0x400, 0xDC00 + (point.val - 0x10000) % 0x400] := by
  have high := Nat.shiftRight_eq_div_pow (point.val - 0x10000) 10
  have low := Nat.and_two_pow_sub_one_eq_mod (point.val - 0x10000) 10
  refine (if_neg large).trans ?_
  rw [high]
  exact congrArg (fun unit => [0xD800 + (point.val - 0x10000) / 0x400, 0xDC00 + unit]) low

theorem utf16_ne_nil (point : CodePoint) : point.utf16 ≠ [] := by
  unfold utf16
  split
  · exact List.cons_ne_nil _ _
  · exact List.cons_ne_nil _ _

theorem utf16_cases (point : CodePoint) :
    (point.val ≤ 0xFFFF ∧ point.utf16 = [point.val]) ∨
      ∃ high low, point.utf16 = [high, low] ∧ 0xD800 ≤ high ∧ high < 0xDC00 ∧
        0xDC00 ≤ low ∧ low < 0xE000 ∧
        point.val = 0x10000 + (high - 0xD800) * 0x400 + (low - 0xDC00) := by
  by_cases small : point.val ≤ 0xFFFF
  · exact Or.inl ⟨small, utf16_small small⟩
  · have bound := point.isLt
    refine Or.inr ⟨_, _, utf16_large small, ?_, ?_, ?_, ?_, ?_⟩ <;> omega

theorem utf16_prefix {left right : CodePoint} (plainLeft : ¬ left.IsSurrogate)
    (plainRight : ¬ right.IsSurrogate) {leftRest rightRest : List Nat}
    (same : left.utf16 ++ leftRest = right.utf16 ++ rightRest) :
    left = right ∧ leftRest = rightRest := by
  unfold IsSurrogate at plainLeft plainRight
  rcases left.utf16_cases with ⟨smallLeft, unitsLeft⟩ | ⟨highLeft, lowLeft, unitsLeft, pairLeft⟩ <;>
    rcases right.utf16_cases with
      ⟨smallRight, unitsRight⟩ | ⟨highRight, lowRight, unitsRight, pairRight⟩ <;>
    rw [unitsLeft, unitsRight] at same
  · obtain ⟨head, tail⟩ := List.cons.inj same
    exact ⟨Fin.ext head, tail⟩
  · have head := (List.cons.inj same).1
    omega
  · have head := (List.cons.inj same).1
    omega
  · obtain ⟨first, rest⟩ := List.cons.inj same
    obtain ⟨second, tail⟩ := List.cons.inj rest
    obtain ⟨_, _, _, _, leftVal⟩ := pairLeft
    obtain ⟨_, _, _, _, rightVal⟩ := pairRight
    refine ⟨Fin.ext ?_, tail⟩
    rw [leftVal, rightVal, first, second]

def utf16Text (points : List CodePoint) : List Nat := points.flatMap utf16

theorem utf16Text_injective {left right : List CodePoint}
    (plainLeft : ∀ point ∈ left, ¬ point.IsSurrogate)
    (plainRight : ∀ point ∈ right, ¬ point.IsSurrogate)
    (same : utf16Text left = utf16Text right) : left = right := by
  induction left generalizing right with
  | nil =>
      cases right with
      | nil => rfl
      | cons point rest => exact absurd (List.append_eq_nil_iff.mp same.symm).1 point.utf16_ne_nil
  | cons point rest ih =>
      cases right with
      | nil => exact absurd (List.append_eq_nil_iff.mp same).1 point.utf16_ne_nil
      | cons other later =>
          obtain ⟨head, tail⟩ := utf16_prefix (plainLeft point List.mem_cons_self)
            (plainRight other List.mem_cons_self) same
          rw [head, ih (fun later member => plainLeft later (List.mem_cons_of_mem _ member))
            (fun later member => plainRight later (List.mem_cons_of_mem _ member)) tail]

end Utf16

section Utf8

/-- The bytes of UTF-8 by the shortest form, also for a surrogate. -/
def utf8 (point : CodePoint) : List Nat :=
  if point.val < 0x80 then [point.val]
  else if point.val < 0x800 then [0xC0 + point.val / 0x40, 0x80 + point.val % 0x40]
  else if point.val < 0x10000 then
    [0xE0 + point.val / 0x1000, 0x80 + point.val / 0x40 % 0x40, 0x80 + point.val % 0x40]
  else
    [0xF0 + point.val / 0x40000, 0x80 + point.val / 0x1000 % 0x40, 0x80 + point.val / 0x40 % 0x40,
      0x80 + point.val % 0x40]

def encodeUtf8 (points : List CodePoint) : Option (List UInt8) :=
  if hasSurrogate points then none
  else some ((points.flatMap utf8).map UInt8.ofNat)

def scalar (least value : Nat) : Option CodePoint :=
  if bounded : value < 0x110000 then
    if value < least ∨ IsSurrogate ⟨value, bounded⟩ then none else some ⟨value, bounded⟩
  else none

def continued : Nat → Nat → List UInt8 → Option (Nat × List UInt8)
  | 0, value, bytes => some (value, bytes)
  | _ + 1, _, [] => none
  | count + 1, value, byte :: rest =>
      if 0x80 ≤ byte.toNat ∧ byte.toNat < 0xC0 then
        continued count (value * 0x40 + (byte.toNat - 0x80)) rest
      else none

def takeCodePoint : List UInt8 → Option (CodePoint × List UInt8)
  | [] => none
  | lead :: rest =>
      let read (count least offset : Nat) : Option (CodePoint × List UInt8) := do
        let (value, rest) ← continued count (lead.toNat - offset) rest
        let point ← scalar least value
        return (point, rest)
      if lead.toNat < 0x80 then read 0 0 0
      else if lead.toNat < 0xC0 then none
      else if lead.toNat < 0xE0 then read 1 0x80 0xC0
      else if lead.toNat < 0xF0 then read 2 0x800 0xE0
      else if lead.toNat < 0xF8 then read 3 0x10000 0xF0
      else none

def decodeUtf8From : Nat → List UInt8 → Option (List CodePoint)
  | _, [] => some []
  | 0, _ :: _ => none
  | fuel + 1, bytes => do
      let (point, rest) ← takeCodePoint bytes
      let later ← decodeUtf8From fuel rest
      return point :: later

def decodeUtf8 (bytes : List UInt8) : Option (List CodePoint) := decodeUtf8From bytes.length bytes

theorem scalar_val {point : CodePoint} {least : Nat} (plain : ¬ point.IsSurrogate)
    (shortest : least ≤ point.val) : scalar least point.val = some point := by
  unfold scalar
  rw [dif_pos point.isLt, if_neg]
  rintro (short | surrogate)
  · omega
  · exact plain surrogate

theorem toNat_ofNat {value : Nat} (small : value < 256) : (UInt8.ofNat value).toNat = value := by
  rw [UInt8.toNat_ofNat', Nat.mod_eq_of_lt small]

theorem continued_succ {count value low : Nat} {rest : List UInt8} (small : low < 0x40) :
    continued (count + 1) value (UInt8.ofNat (0x80 + low) :: rest) =
      continued count (value * 0x40 + low) rest := by
  rw [continued, toNat_ofNat (by omega), if_pos (by omega), Nat.add_sub_cancel_left]

theorem takeCodePoint_utf8 {point : CodePoint} (plain : ¬ point.IsSurrogate) (rest : List UInt8) :
    takeCodePoint (point.utf8.map UInt8.ofNat ++ rest) = some (point, rest) := by
  have bound := point.isLt
  unfold utf8
  split
  · rename_i one
    have lead := @toNat_ofNat point.val (by omega)
    simp only [List.map_cons, List.map_nil, List.cons_append, List.nil_append, takeCodePoint, lead,
      if_pos one, continued, Nat.sub_zero, Option.bind_eq_bind, Option.bind_some,
      scalar_val plain (Nat.zero_le _)]
    rfl
  split
  · rename_i one two
    have lead := @toNat_ofNat (0xC0 + point.val / 0x40) (by omega)
    have whole : point.val / 0x40 * 0x40 + point.val % 0x40 = point.val := by omega
    simp only [List.map_cons, List.map_nil, List.cons_append, List.nil_append, takeCodePoint, lead]
    rw [if_neg (by omega), if_neg (by omega), if_pos (by omega), Nat.add_sub_cancel_left,
      continued_succ (by omega), whole]
    simp only [continued, Option.bind_eq_bind, Option.bind_some,
      scalar_val plain (Nat.le_of_not_lt one)]
    rfl
  split
  · rename_i one two three
    have lead := @toNat_ofNat (0xE0 + point.val / 0x1000) (by omega)
    have whole : (point.val / 0x1000 * 0x40 + point.val / 0x40 % 0x40) * 0x40 + point.val % 0x40 =
        point.val := by omega
    simp only [List.map_cons, List.map_nil, List.cons_append, List.nil_append, takeCodePoint, lead]
    rw [if_neg (by omega), if_neg (by omega), if_neg (by omega), if_pos (by omega),
      Nat.add_sub_cancel_left, continued_succ (by omega), continued_succ (by omega), whole]
    simp only [continued, Option.bind_eq_bind, Option.bind_some,
      scalar_val plain (Nat.le_of_not_lt two)]
    rfl
  · rename_i one two three
    have lead := @toNat_ofNat (0xF0 + point.val / 0x40000) (by omega)
    have whole : ((point.val / 0x40000 * 0x40 + point.val / 0x1000 % 0x40) * 0x40 +
        point.val / 0x40 % 0x40) * 0x40 + point.val % 0x40 = point.val := by omega
    simp only [List.map_cons, List.map_nil, List.cons_append, List.nil_append, takeCodePoint, lead]
    rw [if_neg (by omega), if_neg (by omega), if_neg (by omega), if_neg (by omega),
      if_pos (by omega), Nat.add_sub_cancel_left, continued_succ (by omega),
      continued_succ (by omega), continued_succ (by omega), whole]
    simp only [continued, Option.bind_eq_bind, Option.bind_some,
      scalar_val plain (Nat.le_of_not_lt three)]
    rfl

theorem utf8_length_pos (point : CodePoint) : 0 < point.utf8.length := by
  unfold utf8
  split
  · exact Nat.zero_lt_succ _
  split
  · exact Nat.zero_lt_succ _
  split <;> exact Nat.zero_lt_succ _

theorem decodeUtf8From_flatMap {points : List CodePoint}
    (plain : ∀ point ∈ points, ¬ point.IsSurrogate) {fuel : Nat}
    (enough : (points.flatMap utf8).length ≤ fuel) :
    decodeUtf8From fuel ((points.flatMap utf8).map UInt8.ofNat) = some points := by
  induction points generalizing fuel with
  | nil => cases fuel <;> rfl
  | cons point rest ih =>
      have some := point.utf8_length_pos
      rw [List.flatMap_cons, List.length_append] at enough
      rw [List.flatMap_cons, List.map_append]
      cases fuel with
      | zero => omega
      | succ fuel =>
          have later := @ih (fun other member => plain other (List.mem_cons_of_mem _ member))
            fuel (by omega)
          have first := takeCodePoint_utf8 (plain point List.mem_cons_self)
            ((rest.flatMap utf8).map UInt8.ofNat)
          cases bytes : point.utf8.map UInt8.ofNat ++ (rest.flatMap utf8).map UInt8.ofNat with
          | nil => rw [bytes] at first; cases first
          | cons lead tail =>
              rw [bytes] at first
              simp only [decodeUtf8From, first, Option.bind_eq_bind, Option.bind_some, later]
              rfl

theorem decodeUtf8_encodeUtf8 {points : List CodePoint} {bytes : List UInt8}
    (written : encodeUtf8 points = some bytes) : decodeUtf8 bytes = some points := by
  unfold encodeUtf8 at written
  split at written
  · cases written
  · rename_i plain
    cases written
    exact decodeUtf8From_flatMap (hasSurrogate_eq_false.mp (Bool.eq_false_iff.mpr plain))
      (Nat.le_of_eq (List.length_map ..).symm)

theorem encodeUtf8_exists {points : List CodePoint} (plain : hasSurrogate points = false) :
    ∃ bytes, encodeUtf8 points = some bytes := by
  rw [encodeUtf8, plain]
  exact ⟨_, rfl⟩

theorem encodeUtf8_ascii {points : List CodePoint} (ascii : ∀ point ∈ points, point.val < 0x80) :
    encodeUtf8 points = some (points.map (fun point => UInt8.ofNat point.val)) := by
  have plain : hasSurrogate points = false := by
    refine hasSurrogate_eq_false.mpr ?_
    intro point member surrogate
    have small := ascii point member
    have large := surrogate.1
    omega
  rw [encodeUtf8, plain]
  refine congrArg some ?_
  clear plain
  induction points with
  | nil => rfl
  | cons point rest ih =>
      have one : point.utf8 = [point.val] := if_pos (ascii point List.mem_cons_self)
      rw [List.flatMap_cons, List.map_append, one,
        ih (fun other member => ascii other (List.mem_cons_of_mem _ member))]
      rfl

end Utf8

end CodePoint
