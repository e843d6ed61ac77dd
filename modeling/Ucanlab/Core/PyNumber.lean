import Ucanlab.Core.PyText
import Ucanlab.Lib.Binary64

/-!
Integers as the source writes them to text and reads them back: `int` with a
base, decimal and hexadecimal text.
-/

namespace Ucanlab

def decimalZeros : List Nat :=
  [0x30, 0x660, 0x6F0, 0x7C0, 0x966, 0x9E6, 0xA66, 0xAE6, 0xB66, 0xBE6, 0xC66, 0xCE6, 0xD66, 0xDE6,
    0xE50, 0xED0, 0xF20, 0x1040, 0x1090, 0x17E0, 0x1810, 0x1946, 0x19D0, 0x1A80, 0x1A90, 0x1B50,
    0x1BB0, 0x1C40, 0x1C50, 0xA620, 0xA8D0, 0xA900, 0xA9D0, 0xA9F0, 0xAA50, 0xABF0, 0xFF10, 0x104A0,
    0x10D30, 0x11066, 0x110F0, 0x11136, 0x111D0, 0x112F0, 0x11450, 0x114D0, 0x11650, 0x116C0,
    0x11730, 0x118E0, 0x11950, 0x11C50, 0x11D50, 0x11DA0, 0x11F50, 0x16A60, 0x16AC0, 0x16B50,
    0x1D7CE, 0x1D7D8, 0x1D7E2, 0x1D7EC, 0x1D7F6, 0x1E140, 0x1E2F0, 0x1E4F0, 0x1E950, 0x1FBF0]

def unicodeDigit (c : Char) : Option Nat :=
  (decimalZeros.find? (fun first => decide (first ≤ c.toNat ∧ c.toNat < first + 10))).map
    (fun first => c.toNat - first)

/-- `\d`. -/
def decimalChar (c : Char) : Bool := (unicodeDigit c).isSome

/-- A digit of `int`: of any script, or a Latin letter in base 16. -/
def pyDigit (base : Nat) (c : Char) : Option Nat :=
  match hexDigit c with
  | some value => if value < base then some value else none
  | none => unicodeDigit c

/-- Digits, with single underscores between them. -/
def pyDigits (base : Nat) : Bool → List Char → Nat → Option Nat
  | afterDigit, [], total => if afterDigit then some total else none
  | afterDigit, c :: rest, total =>
      if c = '_' then
        if afterDigit then pyDigits base false rest total else none
      else
        match pyDigit base c with
        | none => none
        | some value => pyDigits base true rest (total * base + value)

def pyIntStrip (text : List Char) : List Char :=
  let space := if text.all (fun c => decide (c.toNat < 0x80)) then isAsciiSpace else isPySpace
  ((text.dropWhile space).reverse.dropWhile space).reverse

def dropHexPrefix (base : Nat) (text : List Char) : List Char :=
  match base, text with
  | 16, '0' :: mark :: rest =>
      if mark = 'x' ∨ mark = 'X' then
        match rest with
        | '_' :: more => more
        | _ => rest
      else text
  | _, _ => text

/-- `int(text, base)` for the bases 10 and 16. -/
def pyInt (base : Nat) (text : List Char) : Option Int :=
  match pyIntStrip text with
  | '-' :: rest => (pyDigits base false (dropHexPrefix base rest) 0).map (fun value => -(value : Int))
  | '+' :: rest => (pyDigits base false (dropHexPrefix base rest) 0).map (fun value => (value : Int))
  | rest => (pyDigits base false (dropHexPrefix base rest) 0).map (fun value => (value : Int))

def isHex (text : List Char) : Bool := (pyInt 16 text).isSome

def decimalText (value : Nat) : List Char := Nat.toDigits 10 value

/-- `bytes.hex`. -/
def hexText (bytes : Bytes) : List Char :=
  bytes.flatMap (fun byte => [Nat.digitChar (byte.toNat / 16), Nat.digitChar (byte.toNat % 16)])

def asciiBytes (text : List Char) : Bytes := text.map (fun c => UInt8.ofNat c.toNat)

example : pyInt 10 ['٣', '_', '0'] = some 30 := by decide

example : pyInt 16 [' ', '-', '0', 'x', '_', '1', 'f'] = some (-31) := by decide

theorem decimalText_injective {left right : Nat} (same : decimalText left = decimalText right) :
    left = right := by
  have read := congrArg (fun text => Nat.ofDigitChars 10 text 0) same
  unfold decimalText at read
  simpa only [Nat.ofDigitChars_ten_toDigits] using read

theorem decimalText_isDigit {value : Nat} {c : Char} (member : c ∈ decimalText value) :
    c.isDigit = true :=
  Nat.isDigit_of_mem_toDigits (by decide) (by decide) member

theorem decimalText_ascii {value : Nat} {c : Char} (member : c ∈ decimalText value) :
    0x30 ≤ c.toNat ∧ c.toNat ≤ 0x39 := by
  have digit := decimalText_isDigit member
  unfold Char.isDigit at digit
  rw [Bool.and_eq_true, decide_eq_true_eq, decide_eq_true_eq] at digit
  exact digit

theorem asciiBytes_read {text : List Char} (ascii : ∀ c ∈ text, c.toNat < 256) :
    (asciiBytes text).map (fun byte => Char.ofNat byte.toNat) = text := by
  unfold asciiBytes
  rw [List.map_map]
  refine (List.map_congr_left ?_).trans (List.map_id text)
  intro c member
  have small := ascii c member
  change Char.ofNat (UInt8.ofNat c.toNat).toNat = c
  rw [UInt8.toNat_ofNat', Nat.mod_eq_of_lt small, Char.ofNat_toNat]

theorem decimalText_before_colon {left right : Nat} {leftRest rightRest : List Char}
    (same : asciiBytes (decimalText left ++ ':' :: leftRest) =
      asciiBytes (decimalText right ++ ':' :: rightRest)) : left = right := by
  have noColon : ∀ value : Nat, ∀ byte ∈ asciiBytes (decimalText value),
      (byte != 0x3A) = true := by
    intro value byte member
    obtain ⟨c, isIn, rfl⟩ := List.mem_map.mp member
    have digit := decimalText_ascii isIn
    refine bne_iff_ne.mpr ?_
    intro colon
    have code := congrArg UInt8.toNat colon
    rw [UInt8.toNat_ofNat', Nat.mod_eq_of_lt (by omega)] at code
    change c.toNat = 58 at code
    omega
  have ascii : ∀ value : Nat, ∀ c ∈ decimalText value, c.toNat < 256 := by
    intro value c member
    have digit := decimalText_ascii member
    omega
  have number : ∀ (value : Nat) (rest : List Char),
      (asciiBytes (decimalText value ++ ':' :: rest)).takeWhile (· != 0x3A) =
        asciiBytes (decimalText value) := by
    intro value rest
    have split : asciiBytes (decimalText value ++ ':' :: rest) =
        asciiBytes (decimalText value) ++ 0x3A :: asciiBytes rest := List.map_append
    rw [split, List.takeWhile_append_of_pos (noColon value)]
    exact List.append_nil _
  have numbers := congrArg (List.takeWhile (· != 0x3A)) same
  rw [number, number] at numbers
  have texts := congrArg (List.map (fun byte : UInt8 => Char.ofNat byte.toNat)) numbers
  rw [asciiBytes_read (ascii left), asciiBytes_read (ascii right)] at texts
  exact decimalText_injective texts

theorem digitChar_hex : ∀ value : Fin 16,
    hexDigit (Nat.digitChar value.val) = some value.val ∧
      isPySpace (Nat.digitChar value.val) = false ∧ isAsciiSpace (Nat.digitChar value.val) = false ∧
      pyDigit 16 (Nat.digitChar value.val) = some value.val ∧
      Nat.digitChar value.val ∉ ['_', '-', '+', 'x', 'X', ':'] := by
  decide

theorem digitChar_of_mem_hexText {bytes : Bytes} {c : Char} (member : c ∈ hexText bytes) :
    ∃ value : Fin 16, c = Nat.digitChar value.val := by
  obtain ⟨byte, _, digit⟩ := List.mem_flatMap.mp member
  have small := byte.toNat_lt
  rcases List.mem_cons.mp digit with high | low
  · exact ⟨⟨byte.toNat / 16, by omega⟩, high⟩
  · exact ⟨⟨byte.toNat % 16, by omega⟩, List.mem_singleton.mp low⟩

theorem hexText_length (bytes : Bytes) : (hexText bytes).length = 2 * bytes.length := by
  induction bytes with
  | nil => rfl
  | cons byte rest ih =>
      unfold hexText at ih ⊢
      rw [List.flatMap_cons, List.length_append, ih]
      simp only [List.length_cons, List.length_nil]
      omega

theorem dropWhile_of_all {α : Type} {test : α → Bool} {items : List α}
    (none : ∀ item ∈ items, test item = false) : items.dropWhile test = items := by
  cases items with
  | nil => rfl
  | cons first rest =>
      rw [List.dropWhile_cons, none first List.mem_cons_self]
      rfl

theorem strip_of_all {space : Char → Bool} {text : List Char}
    (none : ∀ c ∈ text, space c = false) :
    ((text.dropWhile space).reverse.dropWhile space).reverse = text := by
  rw [dropWhile_of_all none, dropWhile_of_all (fun c member => none c (List.mem_reverse.mp member)),
    List.reverse_reverse]

theorem pyStrip_hexText (bytes : Bytes) : pyStrip (hexText bytes) = hexText bytes := by
  apply strip_of_all
  intro c member
  obtain ⟨value, rfl⟩ := digitChar_of_mem_hexText member
  exact (digitChar_hex value).2.1

theorem bytesFromHex_hexText (bytes : Bytes) : bytesFromHex (hexText bytes) = some bytes := by
  induction bytes with
  | nil => rfl
  | cons byte rest ih =>
      have small := byte.toNat_lt
      obtain ⟨high, _, notSpace, _⟩ := digitChar_hex ⟨byte.toNat / 16, by omega⟩
      have low := (digitChar_hex ⟨byte.toNat % 16, by omega⟩).1
      change bytesFromHex (Nat.digitChar (byte.toNat / 16) :: Nat.digitChar (byte.toNat % 16) ::
        hexText rest) = some (byte :: rest)
      rw [bytesFromHex, notSpace, high, low, ih]
      dsimp only
      rw [if_neg Bool.false_ne_true, Nat.div_add_mod, UInt8.ofNat_toNat]

theorem pyDigits_hexText {text : List Char} (total : Nat)
    (digits : ∀ c ∈ text, ∃ value : Fin 16, c = Nat.digitChar value.val) :
    (pyDigits 16 true text total).isSome = true := by
  induction text generalizing total with
  | nil => rfl
  | cons c rest ih =>
      obtain ⟨value, rfl⟩ := digits c List.mem_cons_self
      obtain ⟨_, _, _, digit, marks⟩ := digitChar_hex value
      rw [pyDigits, if_neg (fun mark => marks (by rw [mark]; decide)), digit]
      exact ih _ (fun c member => digits c (List.mem_cons_of_mem _ member))

theorem pyIntStrip_hexText (bytes : Bytes) : pyIntStrip (hexText bytes) = hexText bytes := by
  unfold pyIntStrip
  dsimp only
  apply strip_of_all
  intro c member
  obtain ⟨value, rfl⟩ := digitChar_of_mem_hexText member
  obtain ⟨_, space, asciiSpace, _⟩ := digitChar_hex value
  split
  · exact asciiSpace
  · exact space

theorem dropHexPrefix_hexText {text : List Char}
    (digits : ∀ c ∈ text, ∃ value : Fin 16, c = Nat.digitChar value.val) :
    dropHexPrefix 16 text = text := by
  unfold dropHexPrefix
  split
  · rename_i mark rest _
    obtain ⟨value, same⟩ := digits mark (List.mem_cons_of_mem _ List.mem_cons_self)
    obtain ⟨_, _, _, _, marks⟩ := digitChar_hex value
    refine if_neg ?_
    rintro (small | large)
    · exact marks (by rw [← same, small]; decide)
    · exact marks (by rw [← same, large]; decide)
  · rfl

theorem isHex_hexText {bytes : Bytes} (nonempty : bytes ≠ []) : isHex (hexText bytes) = true := by
  have digits : ∀ c ∈ hexText bytes, ∃ value : Fin 16, c = Nat.digitChar value.val :=
    fun c member => digitChar_of_mem_hexText member
  have read : (pyDigits 16 false (hexText bytes) 0).isSome = true := by
    cases text : hexText bytes with
    | nil =>
        have length := hexText_length bytes
        rw [text, List.length_nil] at length
        exact absurd (List.length_eq_zero_iff.mp (by omega)) nonempty
    | cons c rest =>
        rw [text] at digits
        obtain ⟨value, rfl⟩ := digits c List.mem_cons_self
        obtain ⟨_, _, _, digit, marks⟩ := digitChar_hex value
        rw [pyDigits, if_neg (fun mark => marks (by rw [mark]; decide)), digit]
        exact pyDigits_hexText _ (fun c member => digits c (List.mem_cons_of_mem _ member))
  have unsigned : ∀ mark ∈ ['-', '+'], ∀ rest, hexText bytes ≠ mark :: rest := by
    intro mark sign rest same
    obtain ⟨value, rfl⟩ := digits mark (by rw [same]; exact List.mem_cons_self)
    obtain ⟨_, _, _, _, marks⟩ := digitChar_hex value
    rcases List.mem_cons.mp sign with minus | plus
    · exact marks (by rw [minus]; decide)
    · exact marks (by rw [List.mem_singleton.mp plus]; decide)
  unfold isHex pyInt
  rw [pyIntStrip_hexText]
  split
  · rename_i rest same
    exact absurd same (unsigned '-' (by decide) rest)
  · rename_i rest same
    exact absurd same (unsigned '+' (by decide) rest)
  · rw [dropHexPrefix_hexText digits]
    obtain ⟨value, some⟩ := Option.isSome_iff_exists.mp read
    rw [some]
    rfl

theorem pyDigit_of_isDigit {c : Char} (digit : 0x30 ≤ c.toNat ∧ c.toNat ≤ 0x39) :
    pyDigit 10 c = some (c.toNat - 0x30) := by
  unfold pyDigit hexDigit
  dsimp only
  rw [if_pos digit]
  exact if_pos (by omega)

/-- On ASCII digits alone `int` reads the number they spell. -/
theorem pyDigits_ten {text : List Char} (total : Nat)
    (digits : ∀ c ∈ text, 0x30 ≤ c.toNat ∧ c.toNat ≤ 0x39) :
    pyDigits 10 true text total = some (Nat.ofDigitChars 10 text total) := by
  induction text generalizing total with
  | nil => rfl
  | cons c rest ih =>
      have digit := digits c List.mem_cons_self
      have letter : c ≠ '_' := by
        rintro rfl
        exact absurd digit (by decide)
      rw [pyDigits, if_neg letter, pyDigit_of_isDigit digit, Nat.ofDigitChars_cons]
      change pyDigits 10 true rest (total * 10 + (c.toNat - 0x30)) = _
      rw [ih _ (fun later member => digits later (List.mem_cons_of_mem _ member)), Nat.mul_comm]
      rfl

theorem pyIntStrip_of_digits {text : List Char}
    (digits : ∀ c ∈ text, 0x30 ≤ c.toNat ∧ c.toNat ≤ 0x39) : pyIntStrip text = text := by
  unfold pyIntStrip
  dsimp only
  apply strip_of_all
  intro c member
  have digit := digits c member
  have ascii : isAsciiSpace c = false := by
    unfold isAsciiSpace
    simp only [Bool.or_eq_false_iff, Bool.and_eq_false_iff, decide_eq_false_iff_not,
      beq_eq_false_iff_ne]
    omega
  have wide : isPySpace c = false := by
    unfold isPySpace
    simp only [Bool.or_eq_false_iff, Bool.and_eq_false_iff, decide_eq_false_iff_not,
      beq_eq_false_iff_ne]
    omega
  split
  · exact ascii
  · exact wide

theorem pyInt_decimalText (value : Nat) : pyInt 10 (decimalText value) = some (value : Int) := by
  have digits : ∀ c ∈ decimalText value, 0x30 ≤ c.toNat ∧ c.toNat ≤ 0x39 :=
    fun c member => decimalText_ascii member
  have spelled : Nat.ofDigitChars 10 (decimalText value) 0 = value := Nat.ofDigitChars_ten_toDigits
  unfold pyInt
  rw [pyIntStrip_of_digits digits]
  cases text : decimalText value with
  | nil => exact absurd text Nat.toDigits_ne_nil
  | cons first rest =>
      rw [text] at digits spelled
      have digit := digits first List.mem_cons_self
      have minus : first ≠ '-' := by
        rintro rfl
        exact absurd digit (by decide)
      have plus : first ≠ '+' := by
        rintro rfl
        exact absurd digit (by decide)
      have letter : first ≠ '_' := by
        rintro rfl
        exact absurd digit (by decide)
      have read : pyDigits 10 false (first :: rest) 0 = some value := by
        rw [pyDigits, if_neg letter, pyDigit_of_isDigit digit]
        change pyDigits 10 true rest (0 * 10 + (first.toNat - 0x30)) = _
        rw [pyDigits_ten _ (fun c member => digits c (List.mem_cons_of_mem _ member)), ← spelled,
          Nat.ofDigitChars_cons, Nat.mul_comm 10 0]
        rfl
      split
      · rename_i same
        exact absurd (List.cons.inj same).1 minus
      · rename_i same
        exact absurd (List.cons.inj same).1 plus
      · have sign : dropHexPrefix 10 (first :: rest) = first :: rest := rfl
        rw [sign, read]
        rfl

end Ucanlab

/-!
Doubles as `float` reads them from text.
-/

namespace Ucanlab

open Binary64

def asciiDigits (text : List Char) : List Char :=
  text.map (fun c =>
    match unicodeDigit c with
    | some value => Nat.digitChar value
    | none => c)

def dropUnderscores : Bool → List Char → Option (List Char)
  | _, [] => some []
  | afterDigit, c :: rest =>
      if c = '_' then
        match rest with
        | [] => none
        | next :: _ =>
            if afterDigit && next.isDigit then dropUnderscores false rest else none
      else (dropUnderscores c.isDigit rest).map (c :: ·)

def readSign : List Char → Bool × List Char
  | '-' :: rest => (true, rest)
  | '+' :: rest => (false, rest)
  | rest => (false, rest)

def digitsValue (digits : List Char) : Nat := Nat.ofDigitChars 10 digits 0

def readExponent : List Char → Option Int
  | [] => some 0
  | mark :: rest =>
      let (negative, digits) := readSign rest
      if (mark = 'e' ∨ mark = 'E') ∧ digits ≠ [] ∧ digits.all Char.isDigit then
        some (if negative then -(digitsValue digits : Int) else digitsValue digits)
      else none

def readDecimal (text : List Char) : Option Double :=
  let (whole, rest) := text.span Char.isDigit
  let (fraction, rest) :=
    match rest with
    | '.' :: more => more.span Char.isDigit
    | _ => ([], rest)
  if whole = [] ∧ fraction = [] then none
  else
    (readExponent rest).map (fun (exponent : Int) =>
      toDouble (digitsValue (whole ++ fraction) * (10 : Rat) ^ (exponent - fraction.length)))

def readMagnitude (text : List Char) : Option Double :=
  let word := text.map Char.toLower
  if word = ['i', 'n', 'f'] ∨ word = ['i', 'n', 'f', 'i', 'n', 'i', 't', 'y'] then
    some (.infinite false)
  else if word = ['n', 'a', 'n'] then some .nan
  else readDecimal text

/-- What `float` strips: the white space of ASCII, and any other beyond it. -/
def isFloatSpace (c : Char) : Bool := isAsciiSpace c || (decide (0x80 ≤ c.toNat) && isPySpace c)

/-- `float(text)`. -/
def pyFloat (text : List Char) : Option Double :=
  let stripped := ((text.dropWhile isFloatSpace).reverse.dropWhile isFloatSpace).reverse
  match dropUnderscores false (asciiDigits stripped) with
  | none => none
  | some number =>
      let (negative, magnitude) := readSign number
      (readMagnitude magnitude).map (fun value => if negative then value.neg else value)

example : pyFloat [' ', '-', '1', '_', '0', '.', '2', '5', 'e', '1'] = some (.finite (-205 / 2)) := by
  decide +kernel

example : pyFloat ['1', 'e', '3', '0', '9'] = some (.infinite false) := by decide +kernel

end Ucanlab
