import Mathlib.Data.Bool.AllAny
import Ucanlab.Lib.CodePoints
import Ucanlab.Lib.Dict

/-!
The values of JSON texts without fractions, and the writer of their texts. A style says how
the characters of a string are escaped and how much space stands after a comma and a colon.
-/

namespace JsonText

open CodePoint (ofChar text)

abbrev Text := List CodePoint

inductive Value where
  | null
  | bool (truth : Bool)
  | int (number : Int)
  | str (chars : Text)
  | list (items : List Value)
  | dict (entries : List (Text × Value))

@[elab_as_elim, induction_eliminator]
theorem Value.induction {motive : Value → Prop} (null : motive .null)
    (bool : ∀ truth, motive (.bool truth)) (int : ∀ number, motive (.int number))
    (str : ∀ chars, motive (.str chars))
    (list : ∀ items, (∀ item ∈ items, motive item) → motive (.list items))
    (dict : ∀ entries, (∀ entry ∈ entries, motive entry.2) → motive (.dict entries))
    (value : Value) : motive value := by
  refine @Value.rec motive (fun items => ∀ item ∈ items, motive item)
    (fun entries => ∀ entry ∈ entries, motive entry.2) (fun entry => motive entry.2)
    null bool int str list dict ?_ ?_ ?_ ?_ ?_ value
  · exact fun item member => nomatch member
  · intro first rest head tail item member
    rcases List.mem_cons.mp member with same | later
    · exact same ▸ head
    · exact tail item later
  · exact fun entry member => nomatch member
  · intro first rest head tail entry member
    rcases List.mem_cons.mp member with same | later
    · exact same ▸ head
    · exact tail entry later
  · exact fun _ _ held => held

section Conditions

mutual

def Value.All (onText : Text → Prop) (onInt : Int → Prop) (onKeys : List Text → Prop) :
    Value → Prop
  | .null => True
  | .bool _ => True
  | .int number => onInt number
  | .str chars => onText chars
  | .list items => itemsAll onText onInt onKeys items
  | .dict entries => onKeys (entries.map Prod.fst) ∧ entriesAll onText onInt onKeys entries

def itemsAll (onText : Text → Prop) (onInt : Int → Prop) (onKeys : List Text → Prop) :
    List Value → Prop
  | [] => True
  | item :: rest => item.All onText onInt onKeys ∧ itemsAll onText onInt onKeys rest

def entriesAll (onText : Text → Prop) (onInt : Int → Prop) (onKeys : List Text → Prop) :
    List (Text × Value) → Prop
  | [] => True
  | (key, value) :: rest =>
      (onText key ∧ value.All onText onInt onKeys) ∧ entriesAll onText onInt onKeys rest

end

variable {onText : Text → Prop} {onInt : Int → Prop} {onKeys : List Text → Prop}

theorem itemsAll_iff {items : List Value} :
    itemsAll onText onInt onKeys items ↔ ∀ item ∈ items, item.All onText onInt onKeys := by
  induction items with
  | nil => simp [itemsAll]
  | cons item rest ih => simp [itemsAll, ih]

theorem entriesAll_iff {entries : List (Text × Value)} :
    entriesAll onText onInt onKeys entries ↔
      ∀ entry ∈ entries, onText entry.1 ∧ entry.2.All onText onInt onKeys := by
  induction entries with
  | nil => simp [entriesAll]
  | cons entry rest ih =>
      obtain ⟨key, value⟩ := entry
      simp [entriesAll, ih]

@[simp]
theorem Value.all_list {items : List Value} :
    (Value.list items).All onText onInt onKeys ↔ ∀ item ∈ items, item.All onText onInt onKeys := by
  rw [Value.All, itemsAll_iff]

@[simp]
theorem Value.all_dict {entries : List (Text × Value)} :
    (Value.dict entries).All onText onInt onKeys ↔ onKeys (entries.map Prod.fst) ∧
      ∀ entry ∈ entries, onText entry.1 ∧ entry.2.All onText onInt onKeys := by
  rw [Value.All, entriesAll_iff]

theorem Value.All.imp {onText' : Text → Prop} {onInt' : Int → Prop} {onKeys' : List Text → Prop}
    (texts : ∀ {chars}, onText chars → onText' chars)
    (ints : ∀ {number}, onInt number → onInt' number)
    (keys : ∀ {keys}, onKeys keys → (∀ key ∈ keys, onText key) → onKeys' keys) {value : Value}
    (all : value.All onText onInt onKeys) : value.All onText' onInt' onKeys' := by
  induction value with
  | null => trivial
  | bool truth => trivial
  | int number => exact ints all
  | str chars => exact texts all
  | list items ih =>
      have each := Value.all_list.mp all
      exact Value.all_list.mpr (fun item member => ih item member (each item member))
  | dict entries ih =>
      obtain ⟨here, each⟩ := Value.all_dict.mp all
      refine Value.all_dict.mpr ⟨keys here ?_, fun entry member =>
        ⟨texts (each entry member).1, ih entry member (each entry member).2⟩⟩
      intro key member
      obtain ⟨entry, isIn, rfl⟩ := List.mem_map.mp member
      exact (each entry isIn).1

theorem Value.All.and_keys {value : Value} (all : value.All onText onInt (fun _ => True))
    (distinct : value.All (fun _ => True) (fun _ => True) onKeys) :
    value.All onText onInt onKeys := by
  induction value with
  | null => trivial
  | bool truth => trivial
  | int number => exact all
  | str chars => exact all
  | list items ih =>
      have each := Value.all_list.mp all
      have apart := Value.all_list.mp distinct
      exact Value.all_list.mpr
        (fun item member => ih item member (each item member) (apart item member))
  | dict entries ih =>
      have each := (Value.all_dict.mp all).2
      obtain ⟨here, apart⟩ := Value.all_dict.mp distinct
      exact Value.all_dict.mpr ⟨here, fun entry member =>
        ⟨(each entry member).1, ih entry member (each entry member).2 (apart entry member).2⟩⟩

/-- No dict holds a key twice. -/
def Value.Distinct (value : Value) : Prop := value.All (fun _ => True) (fun _ => True) List.Nodup

end Conditions

section Write

def isSpace (point : CodePoint) : Bool :=
  point.val = 0x20 || point.val = 0x09 || point.val = 0x0A || point.val = 0x0D

structure Style where
  escape : CodePoint → Text
  commaGap : Text
  colonGap : Text
  commaBlank : ∀ point ∈ commaGap, isSpace point = true
  colonBlank : ∀ point ∈ colonGap, isSpace point = true

def quote : CodePoint := ofChar '"'

def backslash : CodePoint := ofChar '\\'

def digits (number : Nat) : Text := text (Nat.toDigits 10 number)

def writeInt (number : Int) : Text :=
  if number < 0 then ofChar '-' :: digits number.natAbs else digits number.natAbs

def joined (separator : Text) : List Text → Text
  | [] => []
  | [part] => part
  | part :: next :: rest => part ++ separator ++ joined separator (next :: rest)

namespace Style

variable (style : Style)

def quoted (chars : Text) : Text := quote :: (chars.flatMap style.escape ++ [quote])

def comma : Text := ofChar ',' :: style.commaGap

def colon : Text := ofChar ':' :: style.colonGap

mutual

def write : Value → Text
  | .null => text ['n', 'u', 'l', 'l']
  | .bool true => text ['t', 'r', 'u', 'e']
  | .bool false => text ['f', 'a', 'l', 's', 'e']
  | .int number => writeInt number
  | .str chars => style.quoted chars
  | .list items => ofChar '[' :: (joined style.comma (writeItems items) ++ [ofChar ']'])
  | .dict entries => ofChar '\x7b' :: (joined style.comma (writeEntries entries) ++ [ofChar '\x7d'])

def writeItems : List Value → List Text
  | [] => []
  | item :: rest => write item :: writeItems rest

def writeEntries : List (Text × Value) → List Text
  | [] => []
  | (key, value) :: rest => (style.quoted key ++ style.colon ++ write value) :: writeEntries rest

end

def writeEntry (entry : Text × Value) : Text :=
  style.quoted entry.1 ++ style.colon ++ style.write entry.2

theorem writeItems_eq (items : List Value) : style.writeItems items = items.map style.write := by
  induction items with
  | nil => rfl
  | cons item rest ih => exact congrArg (style.write item :: ·) ih

theorem writeEntries_eq (entries : List (Text × Value)) :
    style.writeEntries entries = entries.map style.writeEntry := by
  induction entries with
  | nil => rfl
  | cons entry rest ih => exact congrArg (style.writeEntry entry :: ·) ih

theorem write_list (items : List Value) :
    style.write (.list items) =
      ofChar '[' :: (joined style.comma (items.map style.write) ++ [ofChar ']']) := by
  rw [write, writeItems_eq]

theorem write_dict (entries : List (Text × Value)) :
    style.write (.dict entries) =
      ofChar '\x7b' :: (joined style.comma (entries.map style.writeEntry) ++ [ofChar '\x7d']) := by
  rw [write, writeEntries_eq]

end Style

end Write

section Characters

theorem mem_joined {separator : Text} {parts : List Text} {point : CodePoint}
    (member : point ∈ joined separator parts) :
    point ∈ separator ∨ ∃ part ∈ parts, point ∈ part := by
  induction parts with
  | nil => cases member
  | cons part rest ih =>
      cases rest with
      | nil => exact Or.inr ⟨part, List.mem_cons_self, member⟩
      | cons next rest =>
          rw [joined, List.mem_append, List.mem_append] at member
          rcases member with (here | between) | later
          · exact Or.inr ⟨part, List.mem_cons_self, here⟩
          · exact Or.inl between
          · exact (ih later).imp_right
              (fun ⟨found, isIn, within⟩ => ⟨found, List.mem_cons_of_mem _ isIn, within⟩)

theorem length_joined (separator : Text) (parts : List Text) :
    (joined separator parts).length =
      (parts.map List.length).sum + separator.length * (parts.length - 1) := by
  induction parts with
  | nil => rfl
  | cons part rest ih =>
      cases rest with
      | nil => exact (Nat.add_zero _).symm
      | cons next rest =>
          rw [joined, List.length_append, List.length_append, ih]
          simp only [List.map_cons, List.sum_cons, List.length_cons, Nat.add_sub_cancel]
          rw [Nat.mul_succ]
          omega

variable {style : Style} {allowed : CodePoint → Prop}

theorem length_writeEntry (entry : Text × Value) :
    (style.writeEntry entry).length =
      (entry.1.flatMap style.escape).length + style.colonGap.length + 3 +
        (style.write entry.2).length := by
  simp only [Style.writeEntry, Style.quoted, Style.colon, List.length_append, List.length_cons,
    List.length_nil]
  omega

theorem ascii_text {chars : List Char} (ascii : ∀ c ∈ chars, c.toNat < 0x80) :
    ∀ point ∈ text chars, point.val < 0x80 := by
  intro point member
  obtain ⟨c, isIn, rfl⟩ := List.mem_map.mp member
  exact ascii c isIn

theorem ascii_gap {gap : Text} (blank : ∀ point ∈ gap, isSpace point = true) :
    ∀ point ∈ gap, point.val < 0x80 := by
  intro point member
  have space := blank point member
  unfold isSpace at space
  simp only [Bool.or_eq_true, decide_eq_true_eq] at space
  omega

theorem ascii_writeInt (number : Int) : ∀ point ∈ writeInt number, point.val < 0x80 := by
  have small (value : Nat) : ∀ point ∈ digits value, point.val < 0x80 := by
    refine ascii_text ?_
    intro c member
    have digit := Nat.isDigit_of_mem_toDigits (by decide) (by decide) member
    unfold Char.isDigit at digit
    rw [Bool.and_eq_true, decide_eq_true_eq, decide_eq_true_eq] at digit
    have bound : c.toNat ≤ 0x39 := digit.2
    omega
  unfold writeInt
  split
  · intro point member
    rcases List.mem_cons.mp member with rfl | later
    · decide
    · exact small _ point later
  · exact small _

theorem write_allowed (ascii : ∀ point, point.val < 0x80 → allowed point) (value : Value)
    (strings : value.All (fun chars => ∀ point ∈ chars.flatMap style.escape, allowed point)
      (fun _ => True) (fun _ => True)) :
    ∀ point ∈ style.write value, allowed point := by
  have quoted {chars : Text} (inner : ∀ point ∈ chars.flatMap style.escape, allowed point) :
      ∀ point ∈ style.quoted chars, allowed point := by
    intro point member
    rw [Style.quoted, List.mem_cons, List.mem_append, List.mem_singleton] at member
    rcases member with rfl | within | rfl
    · exact ascii quote (by decide)
    · exact inner point within
    · exact ascii quote (by decide)
  have comma : ∀ point ∈ style.comma, allowed point := by
    intro point member
    rcases List.mem_cons.mp member with rfl | gap
    · exact ascii _ (by decide)
    · exact ascii point (ascii_gap style.commaBlank point gap)
  have colon : ∀ point ∈ style.colon, allowed point := by
    intro point member
    rcases List.mem_cons.mp member with rfl | gap
    · exact ascii _ (by decide)
    · exact ascii point (ascii_gap style.colonBlank point gap)
  have bracketed {first last : CodePoint} {parts : List Text} (opening : first.val < 0x80)
      (closing : last.val < 0x80) (each : ∀ part ∈ parts, ∀ point ∈ part, allowed point) :
      ∀ point ∈ first :: (joined style.comma parts ++ [last]), allowed point := by
    intro point member
    rw [List.mem_cons, List.mem_append, List.mem_singleton] at member
    rcases member with rfl | within | rfl
    · exact ascii _ opening
    · rcases mem_joined within with between | ⟨part, isIn, inside⟩
      · exact comma point between
      · exact each part isIn point inside
    · exact ascii _ closing
  induction value with
  | null => exact fun point member => ascii point (ascii_text (List.all_iff_forall_prop.mp rfl) point member)
  | bool truth =>
      cases truth with
      | true => exact fun point member => ascii point (ascii_text (List.all_iff_forall_prop.mp rfl) point member)
      | false => exact fun point member => ascii point (ascii_text (List.all_iff_forall_prop.mp rfl) point member)
  | int number => exact fun point member => ascii point (ascii_writeInt number point member)
  | str chars => exact quoted strings
  | list items ih =>
      have each := Value.all_list.mp strings
      rw [style.write_list]
      refine bracketed (by decide) (by decide) ?_
      intro part member
      obtain ⟨item, isIn, rfl⟩ := List.mem_map.mp member
      exact ih item isIn (each item isIn)
  | dict entries ih =>
      have each := (Value.all_dict.mp strings).2
      rw [style.write_dict]
      refine bracketed (by decide) (by decide) ?_
      intro part member point inside
      obtain ⟨entry, isIn, rfl⟩ := List.mem_map.mp member
      rw [Style.writeEntry, List.mem_append, List.mem_append] at inside
      rcases inside with (key | between) | held
      · exact quoted (each entry isIn).1 point key
      · exact colon point between
      · exact ih entry isIn (each entry isIn).2 point held

end Characters

section Escapes

def shortEscape (point : CodePoint) : Option CodePoint :=
  if point = quote then some quote
  else if point = backslash then some backslash
  else if point = 0x08 then some (ofChar 'b')
  else if point = 0x0C then some (ofChar 'f')
  else if point = 0x0A then some (ofChar 'n')
  else if point = 0x0D then some (ofChar 'r')
  else if point = 0x09 then some (ofChar 't')
  else none

def hexChar (digit : Nat) : CodePoint := ofChar (Nat.digitChar digit)

def escapeUnit (unit : Nat) : Text :=
  [backslash, ofChar 'u', hexChar (unit / 0x1000 % 0x10), hexChar (unit / 0x100 % 0x10),
    hexChar (unit / 0x10 % 0x10), hexChar (unit % 0x10)]

/-- Only what a string must not hold bare is escaped. -/
def escapePlain (point : CodePoint) : Text :=
  match shortEscape point with
  | some mark => [backslash, mark]
  | none => if point.val < 0x20 then escapeUnit point.val else [point]

def escapeAscii (point : CodePoint) : Text :=
  match shortEscape point with
  | some mark => [backslash, mark]
  | none =>
      if 0x20 ≤ point.val ∧ point.val ≤ 0x7E then [point] else point.utf16.flatMap escapeUnit

theorem shortEscape_none {point : CodePoint} (long : shortEscape point = none) :
    point ≠ quote ∧ point ≠ backslash := by
  constructor
  · rintro rfl
    exact absurd long (by decide)
  · rintro rfl
    exact absurd long (by decide)

theorem ascii_escapeUnit (unit : Nat) : ∀ point ∈ escapeUnit unit, point.val < 0x80 := by
  have hex (value : Nat) : (hexChar (value % 0x10)).val < 0x80 := by
    have all : ∀ digit < 0x10, (hexChar digit).val < 0x80 := by decide
    exact all _ (Nat.mod_lt value (by decide))
  unfold escapeUnit
  simp only [List.forall_mem_cons, hex, true_and]
  exact ⟨by decide, by decide, fun _ member => nomatch member⟩

theorem ascii_shortEscape {point mark : CodePoint} (short : shortEscape point = some mark) :
    mark.val < 0x80 := by
  unfold shortEscape at short
  repeat
    split at short
    · cases short
      decide
  cases short

theorem escapePlain_cases (point : CodePoint) :
    (∃ mark, shortEscape point = some mark ∧ escapePlain point = [backslash, mark]) ∨
      (point.val < 0x20 ∧ escapePlain point = escapeUnit point.val) ∨
      (¬ point.val < 0x20 ∧ point ≠ quote ∧ point ≠ backslash ∧ escapePlain point = [point]) := by
  unfold escapePlain
  cases short : shortEscape point with
  | some mark => exact Or.inl ⟨mark, rfl, rfl⟩
  | none =>
      obtain ⟨noQuote, noSlash⟩ := shortEscape_none short
      by_cases control : point.val < 0x20
      · exact Or.inr (Or.inl ⟨control, if_pos control⟩)
      · exact Or.inr (Or.inr ⟨control, noQuote, noSlash, if_neg control⟩)

theorem escapeAscii_cases (point : CodePoint) :
    (∃ mark, shortEscape point = some mark ∧ escapeAscii point = [backslash, mark]) ∨
      escapeAscii point = point.utf16.flatMap escapeUnit ∨
      (0x20 ≤ point.val ∧ point.val ≤ 0x7E ∧ point ≠ quote ∧ point ≠ backslash ∧
        escapeAscii point = [point]) := by
  unfold escapeAscii
  cases short : shortEscape point with
  | some mark => exact Or.inl ⟨mark, rfl, rfl⟩
  | none =>
      obtain ⟨noQuote, noSlash⟩ := shortEscape_none short
      by_cases printable : 0x20 ≤ point.val ∧ point.val ≤ 0x7E
      · exact Or.inr (Or.inr ⟨printable.1, printable.2, noQuote, noSlash, if_pos printable⟩)
      · exact Or.inr (Or.inl (if_neg printable))

theorem mem_escapePlain {point found : CodePoint} (member : found ∈ escapePlain point) :
    found.val < 0x80 ∨ found = point := by
  rcases escapePlain_cases point with ⟨mark, short, spelled⟩ | ⟨_, spelled⟩ | ⟨_, _, _, spelled⟩ <;>
    rw [spelled] at member
  · rw [List.mem_cons, List.mem_singleton] at member
    rcases member with rfl | rfl
    · exact Or.inl (by decide)
    · exact Or.inl (ascii_shortEscape short)
  · exact Or.inl (ascii_escapeUnit _ found member)
  · exact Or.inr (List.mem_singleton.mp member)

theorem ascii_escapeAscii (point : CodePoint) : ∀ found ∈ escapeAscii point, found.val < 0x80 := by
  intro found member
  rcases escapeAscii_cases point with ⟨mark, short, spelled⟩ | spelled | ⟨_, bound, _, _, spelled⟩ <;>
    rw [spelled] at member
  · rw [List.mem_cons, List.mem_singleton] at member
    rcases member with rfl | rfl
    · decide
    · exact ascii_shortEscape short
  · obtain ⟨unit, _, within⟩ := List.mem_flatMap.mp member
    exact ascii_escapeUnit unit found within
  · rw [List.mem_singleton.mp member]
    omega

end Escapes

end JsonText
