import Mathlib.Data.List.Chain
import Ucanlab.Lib.JsonReader

/-!
The round trip of JSON texts: what a style writes is read back, if the reader gives back each of
its strings. With bare characters it always does, with escapes alone it joins a high surrogate to
a low one behind it.
-/

namespace JsonText

open CodePoint (ofChar text)

section StringRoundTrip

theorem hexDigit_hexChar : ∀ digit < 0x10, hexDigit (hexChar digit) = some digit := by decide

theorem readHex4_unit {unit : Nat} (small : unit < 0x10000) (rest : Text) :
    readHex4 (hexChar (unit / 0x1000 % 0x10) :: hexChar (unit / 0x100 % 0x10) ::
      hexChar (unit / 0x10 % 0x10) :: hexChar (unit % 0x10) :: rest) = some (unit, rest) := by
  have digit (value : Nat) : hexDigit (hexChar (value % 0x10)) = some (value % 0x10) :=
    hexDigit_hexChar _ (Nat.mod_lt value (by decide))
  have whole : ((unit / 0x1000 % 0x10 * 0x10 + unit / 0x100 % 0x10) * 0x10 +
      unit / 0x10 % 0x10) * 0x10 + unit % 0x10 = unit := by omega
  simp only [readHex4, digit, Option.bind_eq_bind, Option.bind_some, whole]
  rfl

theorem shortEscape_some {point mark : CodePoint} (short : shortEscape point = some mark) :
    unescape mark = some point ∧ mark ≠ ofChar 'u' := by
  unfold shortEscape at short
  split at short
  · rename_i same
    cases short
    exact ⟨by rw [same]; rfl, by decide⟩
  split at short
  · rename_i same
    cases short
    exact ⟨by rw [same]; rfl, by decide⟩
  split at short
  · rename_i same
    cases short
    exact ⟨by rw [same]; rfl, by decide⟩
  split at short
  · rename_i same
    cases short
    exact ⟨by rw [same]; rfl, by decide⟩
  split at short
  · rename_i same
    cases short
    exact ⟨by rw [same]; rfl, by decide⟩
  split at short
  · rename_i same
    cases short
    exact ⟨by rw [same]; rfl, by decide⟩
  split at short
  · rename_i same
    cases short
    exact ⟨by rw [same]; rfl, by decide⟩
  · cases short

theorem readEscape_short {point mark : CodePoint} (short : shortEscape point = some mark)
    (rest : Text) : readEscape (mark :: rest) = some (point, rest) := by
  obtain ⟨back, other⟩ := shortEscape_some short
  rw [readEscape, if_neg other, back, Option.map_some]

theorem readBody_quote (fuel : Nat) (rest : Text) :
    readBody (fuel + 1) (quote :: rest) = some ([], rest) := by
  rw [readBody, if_pos rfl]

theorem readBody_bare {point : CodePoint} (noQuote : point ≠ quote) (noSlash : point ≠ backslash)
    (printable : ¬ point.val < 0x20) {fuel : Nat} {rest later tail : Text}
    (onward : readBody fuel rest = some (later, tail)) :
    readBody (fuel + 1) (point :: rest) = some (point :: later, tail) := by
  rw [readBody, if_neg noQuote, if_neg noSlash, if_neg printable, onward]
  rfl

theorem readBody_escape {point : CodePoint} {fuel : Nat} {rest behind later tail : Text}
    (escaped : readEscape rest = some (point, behind))
    (onward : readBody fuel behind = some (later, tail)) :
    readBody (fuel + 1) (backslash :: rest) = some (point :: later, tail) := by
  have noQuote : backslash ≠ quote := by decide
  simp only [readBody, if_neg noQuote, if_true, escaped, Option.bind_eq_bind, Option.bind_some,
    onward]
  rfl

def Style.Legible (style : Style) (chars : Text) : Prop :=
  ∀ (fuel : Nat) (rest : Text), (chars.flatMap style.escape).length < fuel →
    readBody fuel (chars.flatMap style.escape ++ quote :: rest) = some (chars, rest)

theorem readEscape_unit {point : CodePoint} (small : point.val < 0x10000) (rest : Text)
    (alone : point.IsHigh → readLow rest = none) :
    readEscape ((escapeUnit point.val).tail ++ rest) = some (point, rest) := by
  have back : Fin.ofNat 0x110000 point.val = point := Fin.ofNat_val_eq_self point
  simp only [escapeUnit, List.tail_cons, List.cons_append, List.nil_append, readEscape, if_true,
    readHex4_unit small rest, Option.bind_eq_bind, Option.bind_some, back]
  split
  · rename_i high
    simp only [alone high]
    rfl
  · rfl

theorem legible_plain {style : Style} (escape : style.escape = escapePlain) (chars : Text) :
    style.Legible chars := by
  unfold Style.Legible
  rw [escape]
  induction chars with
  | nil =>
      intro fuel rest enough
      cases fuel with
      | zero => exact absurd enough (Nat.not_lt_zero _)
      | succ fuel => exact readBody_quote fuel rest
  | cons point chars ih =>
      intro fuel rest enough
      rw [List.flatMap_cons, List.length_append] at enough
      rw [List.flatMap_cons, List.append_assoc]
      cases fuel with
      | zero => exact absurd enough (Nat.not_lt_zero _)
      | succ fuel =>
          rcases escapePlain_cases point with
            ⟨mark, short, spelled⟩ | ⟨control, spelled⟩ | ⟨printable, noQuote, noSlash, spelled⟩
          · rw [spelled, List.length_cons, List.length_singleton] at enough
            rw [spelled]
            exact readBody_escape (readEscape_short short _) (ih fuel rest (by omega))
          · have noHigh : ¬ point.IsHigh := fun high => by have large := high.1; omega
            rw [spelled] at enough ⊢
            change 6 + _ < _ at enough
            exact readBody_escape
              (readEscape_unit (by omega) _ (fun high => absurd high noHigh))
              (ih fuel rest (by omega))
          · rw [spelled, List.length_singleton] at enough
            rw [spelled]
            exact readBody_bare noQuote noSlash printable (ih fuel rest (by omega))

def Unpaired (chars : Text) : Prop := List.IsChain (fun high low => high.IsHigh → ¬ low.IsLow) chars

theorem readLow_of_ne {first : CodePoint} (other : first ≠ backslash) (rest : Text) :
    readLow (first :: rest) = none := by
  cases rest with
  | nil => rfl
  | cons mark rest => exact if_neg (fun both => other both.1)

theorem readLow_of_mark {mark : CodePoint} (other : mark ≠ ofChar 'u') (rest : Text) :
    readLow (backslash :: mark :: rest) = none := if_neg (fun both => other both.2)

theorem readLow_unit {unit : Nat} (small : unit < 0x10000) (rest : Text) :
    readLow (escapeUnit unit ++ rest) =
      if 0xDC00 ≤ unit ∧ unit < 0xE000 then some (unit, rest) else none := by
  simp only [escapeUnit, List.cons_append, List.nil_append, readLow, and_self, if_true,
    readHex4_unit small rest, Option.filter, Bool.and_eq_true, decide_eq_true_eq]

theorem readLow_ascii {chars : Text} (noLow : ∀ point ∈ chars.head?, ¬ point.IsLow)
    (rest : Text) : readLow (chars.flatMap escapeAscii ++ quote :: rest) = none := by
  cases chars with
  | nil => exact readLow_of_ne (by decide) rest
  | cons point chars =>
      have here : ¬ point.IsLow := noLow point rfl
      rw [List.flatMap_cons, List.append_assoc]
      rcases escapeAscii_cases point with
        ⟨mark, short, spelled⟩ | spelled | ⟨_, _, _, noSlash, spelled⟩
      · rw [spelled]
        exact readLow_of_mark (shortEscape_some short).2 _
      · rw [spelled]
        rcases point.utf16_cases with
          ⟨small, units⟩ | ⟨high, low, units, _, highBound, _⟩
        · rw [units, List.flatMap_cons, List.append_assoc, readLow_unit (by omega)]
          exact if_neg here
        · rw [units, List.flatMap_cons, List.append_assoc, readLow_unit (by omega),
            if_neg (fun within => by omega)]
      · rw [spelled]
        exact readLow_of_ne noSlash _

theorem readEscape_pair {point : CodePoint} (large : ¬ point.val ≤ 0xFFFF) (rest : Text) :
    ∃ high low, point.utf16 = [high, low] ∧
      readEscape ((escapeUnit high).tail ++ (escapeUnit low ++ rest)) = some (point, rest) := by
  rcases point.utf16_cases with ⟨small, _⟩ | ⟨high, low, units, high1, high2, low1, low2, whole⟩
  · exact absurd small large
  · refine ⟨high, low, units, ?_⟩
    have back : Fin.ofNat 0x110000 (0x10000 + (high - 0xD800) * 0x400 + (low - 0xDC00)) = point := by
      rw [← whole]
      exact Fin.ofNat_val_eq_self point
    have behind := @readLow_unit low (by omega) rest
    rw [if_pos ⟨low1, low2⟩] at behind
    simp only [escapeUnit, List.tail_cons, List.cons_append, List.nil_append] at behind ⊢
    simp only [readEscape, if_true, readHex4_unit (by omega : high < 0x10000),
      Option.bind_eq_bind, Option.bind_some, if_pos (And.intro high1 high2), behind, back]
    rfl

theorem unpaired_of_ascii {chars : Text} (ascii : ∀ point ∈ chars, point.val < 0x80) :
    Unpaired chars := by
  induction chars with
  | nil => exact List.IsChain.nil
  | cons point chars ih =>
      refine List.isChain_cons.mpr ⟨fun _ _ high => ?_, ih (List.forall_mem_cons.mp ascii).2⟩
      have small := ascii point List.mem_cons_self
      have large := high.1
      omega

theorem legible_ascii {style : Style} (escape : style.escape = escapeAscii) {chars : Text}
    (unpaired : Unpaired chars) : style.Legible chars := by
  unfold Style.Legible
  rw [escape]
  induction chars with
  | nil =>
      intro fuel rest enough
      cases fuel with
      | zero => exact absurd enough (Nat.not_lt_zero _)
      | succ fuel => exact readBody_quote fuel rest
  | cons point chars ih =>
      intro fuel rest enough
      obtain ⟨apart, later⟩ := List.isChain_cons.mp unpaired
      have onward := ih later
      rw [List.flatMap_cons, List.length_append] at enough
      rw [List.flatMap_cons, List.append_assoc]
      cases fuel with
      | zero => exact absurd enough (Nat.not_lt_zero _)
      | succ fuel =>
          rcases escapeAscii_cases point with
            ⟨mark, short, spelled⟩ | spelled | ⟨low, _, noQuote, noSlash, spelled⟩
          · rw [spelled, List.length_cons, List.length_singleton] at enough
            rw [spelled]
            exact readBody_escape (readEscape_short short _) (onward fuel rest (by omega))
          · by_cases small : point.val ≤ 0xFFFF
            · rw [CodePoint.utf16_small small, List.flatMap_singleton] at spelled
              rw [spelled] at enough ⊢
              change 6 + _ < _ at enough
              refine readBody_escape (readEscape_unit (by omega) _ ?_) (onward fuel rest (by omega))
              exact fun high => readLow_ascii (fun next first => apart next first high) rest
            · obtain ⟨high, low, units, escaped⟩ := readEscape_pair small
                (chars.flatMap escapeAscii ++ quote :: rest)
              rw [units, List.flatMap_cons, List.flatMap_singleton] at spelled
              rw [spelled] at enough ⊢
              rw [List.append_assoc]
              change 12 + _ < _ at enough
              exact readBody_escape escaped (onward fuel rest (by omega))
          · rw [spelled, List.length_singleton] at enough
            rw [spelled]
            exact readBody_bare noQuote noSlash (Nat.not_lt.mpr low) (onward fuel rest (by omega))

end StringRoundTrip

section NumberRoundTrip

theorem digits_isDigit {number : Nat} {point : CodePoint} (member : point ∈ digits number) :
    isDigit point = true := by
  obtain ⟨c, isIn, rfl⟩ := List.mem_map.mp member
  have digit := Nat.isDigit_of_mem_toDigits (by decide) (by decide) isIn
  unfold Char.isDigit at digit
  rw [Bool.and_eq_true, decide_eq_true_eq, decide_eq_true_eq] at digit
  unfold isDigit
  rw [Bool.and_eq_true, decide_eq_true_eq, decide_eq_true_eq]
  exact digit

theorem digitsValue_digits (number : Nat) : digitsValue (digits number) = number := by
  have spelled := Nat.ofDigitChars_ten_toDigits (n := number)
  rw [Nat.ofDigitChars_eq_foldl] at spelled
  unfold digitsValue digits text
  rw [List.foldl_map]
  exact spelled

theorem digits_first {number : Nat} (positive : number ≠ 0) :
    ∃ first rest, digits number = first :: rest ∧ first ≠ ofChar '0' := by
  induction number using Nat.strongRecOn with
  | ind number ih =>
      unfold digits text at ih ⊢
      by_cases small : number < 10
      · have other : ∀ digit < 10, digit ≠ 0 → ofChar (Nat.digitChar digit) ≠ ofChar '0' := by decide
        rw [Nat.toDigits_of_lt_base small]
        exact ⟨_, [], rfl, other number small positive⟩
      · obtain ⟨first, rest, spelled, other⟩ := ih (number / 10) (by omega) (by omega)
        rw [Nat.toDigits_of_base_le (by decide) (Nat.le_of_not_lt small), List.map_append, spelled]
        exact ⟨first, _, rfl, other⟩

def NumberEnds (rest : Text) : Prop :=
  ∀ point ∈ rest.head?, isDigit point = false ∧ point ≠ ofChar '.' ∧ point ≠ ofChar 'e' ∧
    point ≠ ofChar 'E'

theorem wholeNumber_of_ends {rest : Text} (ends : NumberEnds rest) (number : Nat) :
    wholeNumber number rest = some (number, rest) := by
  cases rest with
  | nil => rfl
  | cons point rest =>
      obtain ⟨_, noPoint, noSmall, noLarge⟩ := ends point rfl
      refine if_neg ?_
      rintro (same | same | same)
      · exact noPoint same
      · exact noSmall same
      · exact noLarge same

theorem readNat_digits {rest : Text} (ends : NumberEnds rest) (number : Nat) :
    readNat (digits number ++ rest) = some (number, rest) := by
  by_cases zero : number = 0
  · have spelled : digits 0 = [ofChar '0'] := by
      unfold digits
      rw [Nat.toDigits_zero]
      rfl
    rw [zero, spelled, List.singleton_append, readNat, if_pos rfl]
    exact wholeNumber_of_ends ends 0
  · obtain ⟨first, tail, spelled, other⟩ := digits_first zero
    have taken : (digits number ++ rest).takeWhile isDigit = digits number := by
      rw [List.takeWhile_append_of_pos (fun point member => digits_isDigit member)]
      cases rest with
      | nil => exact List.append_nil _
      | cons point rest =>
          rw [List.takeWhile_cons_of_neg (by rw [(ends point rfl).1]; exact Bool.false_ne_true)]
          exact List.append_nil _
    have left : (digits number ++ rest).dropWhile isDigit = rest := by
      rw [List.dropWhile_append_of_pos (fun point member => digits_isDigit member)]
      cases rest with
      | nil => rfl
      | cons point rest =>
          exact List.dropWhile_cons_of_neg (by rw [(ends point rfl).1]; exact Bool.false_ne_true)
    have digit : isDigit first = true := digits_isDigit (spelled ▸ List.mem_cons_self)
    have value := digitsValue_digits number
    rw [spelled, List.cons_append] at taken left
    rw [spelled] at value
    rw [spelled, List.cons_append, readNat, if_neg other, if_pos digit, taken, left, value]
    exact wholeNumber_of_ends ends number

theorem readInt_writeInt {rest : Text} (ends : NumberEnds rest) (number : Int) :
    readInt (writeInt number ++ rest) = some (.int number, rest) := by
  unfold writeInt
  split
  · rename_i negative
    have whole : -((number.natAbs : Nat) : Int) = number := by omega
    rw [List.cons_append, readInt, if_pos rfl, readNat_digits ends, Option.map_some, whole]
  · rename_i positive
    have whole : ((number.natAbs : Nat) : Int) = number := by omega
    have read := readNat_digits ends number.natAbs
    cases spelled : digits number.natAbs with
    | nil =>
        have empty := List.map_eq_nil_iff.mp spelled
        exact absurd empty Nat.toDigits_ne_nil
    | cons first tail =>
        have digit : isDigit first = true := digits_isDigit (spelled ▸ List.mem_cons_self)
        have noSign : first ≠ ofChar '-' := by
          rintro rfl
          exact absurd digit (by decide)
        rw [spelled, List.cons_append] at read
        rw [List.cons_append, readInt, if_neg noSign, read, Option.map_some, whole]

theorem writeInt_first (number : Int) :
    ∃ first rest, writeInt number = first :: rest ∧ (first = ofChar '-' ∨ isDigit first = true) := by
  unfold writeInt
  split
  · exact ⟨_, _, rfl, Or.inl rfl⟩
  · cases spelled : digits number.natAbs with
    | nil => exact absurd (List.map_eq_nil_iff.mp spelled) Nat.toDigits_ne_nil
    | cons first rest =>
        exact ⟨first, rest, rfl, Or.inr (digits_isDigit (spelled ▸ List.mem_cons_self))⟩

theorem digit_ne {first : CodePoint} (numeric : first = ofChar '-' ∨ isDigit first = true)
    {c : Char} (other : ¬ (0x30 ≤ c.toNat ∧ c.toNat ≤ 0x39) ∧ c.toNat ≠ 0x2D) : first ≠ ofChar c := by
  intro same
  have value : first.val = c.toNat := congrArg Fin.val same
  rcases numeric with sign | digit
  · have dash : first.val = 0x2D := congrArg Fin.val sign
    omega
  · unfold isDigit at digit
    rw [Bool.and_eq_true, decide_eq_true_eq, decide_eq_true_eq] at digit
    omega

end NumberRoundTrip

section ValueRoundTrip

theorem dictOf_distinct {pairs : List (Text × Value)} (distinct : (pairs.map Prod.fst).Nodup) :
    dictOf pairs = pairs := by
  have build (done : List (Text × Value)) (apart : ((done ++ pairs).map Prod.fst).Nodup) :
      pairs.foldl (fun dict pair => Dict.set dict pair.1 pair.2) done = done ++ pairs := by
    clear distinct
    induction pairs generalizing done with
    | nil => exact (List.append_nil done).symm
    | cons pair rest ih =>
        have fresh : pair.1 ∉ Dict.keys done := by
          intro present
          rw [List.map_append, List.nodup_append] at apart
          exact apart.2.2 pair.1 present pair.1 List.mem_cons_self rfl
        have whole : done ++ pair :: rest = done ++ [(pair.1, pair.2)] ++ rest := by
          rw [List.append_assoc]
          rfl
        rw [List.foldl_cons, Dict.set_of_absent _ fresh, whole]
        exact ih _ (whole ▸ apart)
  exact build [] distinct

def Solid (points : Text) : Prop :=
  ∃ first rest, points = first :: rest ∧ isSpace first = false

theorem Solid.append {points : Text} (solid : Solid points) (rest : Text) :
    Solid (points ++ rest) := by
  obtain ⟨first, tail, begins, token⟩ := solid
  exact ⟨first, tail ++ rest, by rw [begins, List.cons_append], token⟩

theorem skipSpace_gap {gap points : Text} (blank : ∀ point ∈ gap, isSpace point = true)
    (solid : Solid points) : skipSpace (gap ++ points) = points := by
  obtain ⟨first, rest, begins, token⟩ := solid
  unfold skipSpace
  rw [List.dropWhile_append_of_pos blank, begins]
  exact List.dropWhile_cons_of_neg (by rw [token]; exact Bool.false_ne_true)

theorem skipSpace_solid {points : Text} (solid : Solid points) : skipSpace points = points :=
  @skipSpace_gap [] points (fun _ member => nomatch member) solid

theorem joined_first (separator : Text) {part : Text} {first : CodePoint} {tail : Text}
    (begins : part = first :: tail) (rest : List Text) :
    ∃ later, joined separator (part :: rest) = first :: later := by
  cases rest with
  | nil => exact ⟨tail, begins⟩
  | cons next rest => exact ⟨tail ++ separator ++ joined separator (next :: rest), begins ▸ rfl⟩

theorem solid_joined (separator : Text) {part : Text} (solid : Solid part) (rest : List Text) :
    Solid (joined separator (part :: rest)) := by
  obtain ⟨first, tail, begins, token⟩ := solid
  obtain ⟨later, onward⟩ := joined_first separator begins rest
  exact ⟨first, later, onward, token⟩

theorem numberEnds_cons {point : CodePoint} {rest : Text}
    (ends : isDigit point = false ∧ point ≠ ofChar '.' ∧ point ≠ ofChar 'e' ∧ point ≠ ofChar 'E') :
    NumberEnds (point :: rest) := by
  intro first same
  cases same
  exact ends

section First

variable (style : Style)

theorem write_first (value : Value) :
    ∃ first rest, style.write value = first :: rest ∧ isSpace first = false ∧
      first ≠ ofChar ']' := by
  cases value with
  | null => exact ⟨_, _, rfl, by decide, by decide⟩
  | bool truth => cases truth <;> exact ⟨_, _, rfl, by decide, by decide⟩
  | str chars => exact ⟨_, _, rfl, by decide, by decide⟩
  | list items => exact ⟨_, _, style.write_list items, by decide, by decide⟩
  | dict entries => exact ⟨_, _, style.write_dict entries, by decide, by decide⟩
  | int number =>
      obtain ⟨first, rest, spelled, numeric⟩ := writeInt_first number
      refine ⟨first, rest, spelled, ?_, digit_ne numeric (by decide)⟩
      rcases numeric with rfl | digit
      · decide
      · unfold isDigit at digit
        rw [Bool.and_eq_true, decide_eq_true_eq, decide_eq_true_eq] at digit
        unfold isSpace
        simp only [Bool.or_eq_false_iff, decide_eq_false_iff_not]
        omega

theorem solid_write (value : Value) : Solid (style.write value) := by
  obtain ⟨first, rest, begins, token, _⟩ := write_first style value
  exact ⟨first, rest, begins, token⟩

theorem solid_writeEntry (entry : Text × Value) : Solid (style.writeEntry entry) :=
  ⟨quote, _, rfl, by decide⟩

end First

variable {style : Style}

theorem skipSpace_comma (rest : Text) :
    skipSpace (style.comma ++ rest) = ofChar ',' :: (style.commaGap ++ rest) :=
  skipSpace_solid ⟨ofChar ',', _, rfl, by decide⟩

theorem numberEnds_comma (rest : Text) : NumberEnds (style.comma ++ rest) :=
  numberEnds_cons (by decide)

def Style.Reads (style : Style) (value : Value) : Prop :=
  ∀ (fuel : Nat) (rest : Text), 2 * (style.write value).length ≤ fuel → NumberEnds rest →
    readValue fuel (style.write value ++ rest) = some (value, rest)

section Items

theorem readItems_item {item : Value} (reads : style.Reads item) {fuel : Nat} {rest : Text}
    (enough : 2 * (style.write item).length ≤ fuel) (ends : NumberEnds rest) :
    readItems (fuel + 1) (style.write item ++ rest) =
      match skipSpace rest with
      | [] => none
      | next :: later =>
          if next = ofChar ']' then some ([item], later)
          else if next = ofChar ',' then
            (readItems fuel (skipSpace later)).map (fun found => (item :: found.1, found.2))
          else none := by
  simp only [readItems, reads fuel rest enough ends, Option.bind_eq_bind, Option.bind_some]
  cases skipSpace rest with
  | nil => rfl
  | cons next later =>
      simp only
      split
      · rfl
      split
      · cases readItems fuel (skipSpace later) <;> rfl
      · rfl

theorem readItems_joined {items : List Value} (present : items ≠ [])
    (each : ∀ item ∈ items, style.Reads item) (fuel : Nat) (rest : Text)
    (enough : 2 * (joined style.comma (items.map style.write)).length < fuel) :
    readItems fuel (joined style.comma (items.map style.write) ++ ofChar ']' :: rest) =
      some (items, rest) := by
  induction items generalizing fuel with
  | nil => exact absurd rfl present
  | cons item items ih =>
      have here := each item List.mem_cons_self
      cases fuel with
      | zero => exact absurd enough (Nat.not_lt_zero _)
      | succ fuel =>
          cases items with
          | nil =>
              have closing : skipSpace (ofChar ']' :: rest) = ofChar ']' :: rest :=
                skipSpace_solid ⟨_, _, rfl, by decide⟩
              refine (readItems_item here (Nat.le_of_lt_succ enough)
                (numberEnds_cons (by decide))).trans ?_
              simp only [closing, if_true]
          | cons next items =>
              have listed : joined style.comma ((item :: next :: items).map style.write) =
                  style.write item ++ style.comma ++
                    joined style.comma ((next :: items).map style.write) := rfl
              have solid := solid_joined style.comma (solid_write style next) (items.map style.write)
              have gap := skipSpace_gap style.commaBlank (solid.append (ofChar ']' :: rest))
              have comma : 0 < style.comma.length := Nat.zero_lt_succ _
              have more : ofChar ',' ≠ ofChar ']' := by decide
              rw [listed, List.length_append, List.length_append] at enough
              have others := ih (List.cons_ne_nil _ _)
                (fun other member => each other (List.mem_cons_of_mem _ member)) fuel (by omega)
              rw [List.map_cons] at others
              rw [listed, List.append_assoc, List.append_assoc,
                readItems_item here (by omega) (numberEnds_comma _), skipSpace_comma, List.map_cons]
              simp only [if_neg more, if_true, gap, others, Option.map_some]

end Items

section Entries

theorem writeEntry_eq (entry : Text × Value) (rest : Text) :
    style.writeEntry entry ++ rest =
      quote :: (entry.1.flatMap style.escape ++ quote :: (ofChar ':' ::
        (style.colonGap ++ (style.write entry.2 ++ rest)))) := by
  simp only [Style.writeEntry, Style.quoted, Style.colon, List.cons_append, List.append_assoc,
    List.nil_append]

theorem readEntries_entry {entry : Text × Value} (legible : style.Legible entry.1)
    (reads : style.Reads entry.2) {fuel : Nat} {rest : Text}
    (enough : 2 * (style.write entry.2).length ≤ fuel) (ends : NumberEnds rest) :
    readEntries (fuel + 1) (style.writeEntry entry ++ rest) =
      match skipSpace rest with
      | [] => none
      | next :: later =>
          if next = ofChar '\x7d' then some ([entry], later)
          else if next = ofChar ',' then
            (readEntries fuel (skipSpace later)).map (fun found => (entry :: found.1, found.2))
          else none := by
  obtain ⟨key, value⟩ := entry
  have body := legible (key.flatMap style.escape ++ quote :: (ofChar ':' ::
    (style.colonGap ++ (style.write value ++ rest)))).length
    (ofChar ':' :: (style.colonGap ++ (style.write value ++ rest)))
    (by rw [List.length_append, List.length_cons]; exact Nat.lt_add_of_pos_right (Nat.succ_pos _))
  have colon : skipSpace (ofChar ':' :: (style.colonGap ++ (style.write value ++ rest))) =
      ofChar ':' :: (style.colonGap ++ (style.write value ++ rest)) :=
    skipSpace_solid ⟨_, _, rfl, by decide⟩
  have gap := skipSpace_gap style.colonBlank ((solid_write style value).append rest)
  rw [writeEntry_eq]
  simp only [readEntries, if_true, body, colon, gap, reads fuel rest enough ends,
    Option.bind_eq_bind, Option.bind_some]
  cases skipSpace rest with
  | nil => rfl
  | cons next later =>
      simp only
      split
      · rfl
      split
      · cases readEntries fuel (skipSpace later) <;> rfl
      · rfl

theorem readEntries_joined {entries : List (Text × Value)} (present : entries ≠ [])
    (each : ∀ entry ∈ entries, style.Legible entry.1 ∧ style.Reads entry.2) (fuel : Nat)
    (rest : Text) (enough : 2 * (joined style.comma (entries.map style.writeEntry)).length < fuel) :
    readEntries fuel (joined style.comma (entries.map style.writeEntry) ++ ofChar '\x7d' :: rest) =
      some (entries, rest) := by
  induction entries generalizing fuel with
  | nil => exact absurd rfl present
  | cons entry entries ih =>
      obtain ⟨legible, reads⟩ := each entry List.mem_cons_self
      have longer : (style.writeEntry entry).length = _ := length_writeEntry entry
      cases fuel with
      | zero => exact absurd enough (Nat.not_lt_zero _)
      | succ fuel =>
          cases entries with
          | nil =>
              have closing : skipSpace (ofChar '\x7d' :: rest) = ofChar '\x7d' :: rest :=
                skipSpace_solid ⟨_, _, rfl, by decide⟩
              change 2 * (style.writeEntry entry).length < _ at enough
              refine (readEntries_entry legible reads (by omega)
                (numberEnds_cons (by decide))).trans ?_
              simp only [closing, if_true]
          | cons next entries =>
              have listed : joined style.comma ((entry :: next :: entries).map style.writeEntry) =
                  style.writeEntry entry ++ style.comma ++
                    joined style.comma ((next :: entries).map style.writeEntry) := rfl
              have solid := solid_joined style.comma (solid_writeEntry style next)
                (entries.map style.writeEntry)
              have gap := skipSpace_gap style.commaBlank (solid.append (ofChar '\x7d' :: rest))
              have comma : 0 < style.comma.length := Nat.zero_lt_succ _
              have more : ofChar ',' ≠ ofChar '\x7d' := by decide
              rw [listed, List.length_append, List.length_append] at enough
              have others := ih (List.cons_ne_nil _ _)
                (fun other member => each other (List.mem_cons_of_mem _ member)) fuel (by omega)
              rw [List.map_cons] at others
              rw [listed, List.append_assoc, List.append_assoc,
                readEntries_entry legible reads (by omega) (numberEnds_comma _), skipSpace_comma,
                List.map_cons]
              simp only [if_neg more, if_true, gap, others, Option.map_some]

end Entries

theorem readWord_text (word : Text) (value : Value) (rest : Text) :
    readWord word value (word ++ rest) = some (value, rest) := by
  unfold readWord
  rw [if_pos (List.isPrefixOf_iff_prefix.mpr (List.prefix_append word rest)), List.drop_left]

theorem reads_int (number : Int) : style.Reads (.int number) := by
  intro fuel rest enough ends
  obtain ⟨first, tail, spelled, numeric⟩ := writeInt_first number
  have read := readInt_writeInt ends number
  have written : style.write (.int number) = writeInt number := by rw [Style.write]
  rw [written] at enough ⊢
  rw [spelled] at enough read ⊢
  cases fuel with
  | zero => exact absurd enough (Nat.not_succ_le_zero _)
  | succ fuel =>
      have noQuote : first ≠ quote := digit_ne numeric (by decide)
      rw [List.cons_append] at read ⊢
      rw [readValue, if_neg noQuote, if_neg (digit_ne numeric (by decide)),
        if_neg (digit_ne numeric (by decide)), if_neg (digit_ne numeric (by decide)),
        if_neg (digit_ne numeric (by decide)), if_neg (digit_ne numeric (by decide)), read]

theorem reads_str {chars : Text} (legible : style.Legible chars) : style.Reads (.str chars) := by
  intro fuel rest enough _
  have written : style.write (.str chars) ++ rest =
      quote :: (chars.flatMap style.escape ++ quote :: rest) := by
    rw [Style.write, Style.quoted, List.cons_append, List.append_assoc, List.singleton_append]
  rw [written]
  cases fuel with
  | zero =>
      rw [Style.write] at enough
      exact absurd enough (Nat.not_succ_le_zero _)
  | succ fuel =>
      rw [readValue, if_pos rfl, legible _ rest (by rw [List.length_append, List.length_cons]; omega),
        Option.map_some]

theorem reads_list {items : List Value} (each : ∀ item ∈ items, style.Reads item) :
    style.Reads (.list items) := by
  intro fuel rest enough _
  rw [style.write_list] at enough ⊢
  rw [List.length_cons, List.length_append] at enough
  cases fuel with
  | zero => exact absurd enough (by omega)
  | succ fuel =>
      have noQuote : ofChar '[' ≠ quote := by decide
      have noDict : ofChar '[' ≠ ofChar '\x7b' := by decide
      rw [List.cons_append, List.append_assoc, List.singleton_append, readValue, if_neg noQuote,
        if_neg noDict, if_pos rfl]
      cases items with
      | nil => rfl
      | cons item items =>
          have read := readItems_joined (List.cons_ne_nil item items) each fuel rest (by omega)
          obtain ⟨first, tail, begins, token, other⟩ := write_first style item
          obtain ⟨later, onward⟩ := joined_first style.comma begins
            (items.map style.write)
          have skipped : skipSpace (first :: (later ++ ofChar ']' :: rest)) =
              first :: (later ++ ofChar ']' :: rest) := skipSpace_solid ⟨_, _, rfl, token⟩
          rw [List.map_cons, onward, List.cons_append] at read ⊢
          simp only [skipped, if_neg other, read, Option.map_some]

theorem reads_dict {entries : List (Text × Value)} (distinct : (entries.map Prod.fst).Nodup)
    (each : ∀ entry ∈ entries, style.Legible entry.1 ∧ style.Reads entry.2) :
    style.Reads (.dict entries) := by
  intro fuel rest enough _
  rw [style.write_dict] at enough ⊢
  rw [List.length_cons, List.length_append] at enough
  cases fuel with
  | zero => exact absurd enough (by omega)
  | succ fuel =>
      have noQuote : ofChar '\x7b' ≠ quote := by decide
      rw [List.cons_append, List.append_assoc, List.singleton_append, readValue, if_neg noQuote,
        if_pos rfl]
      cases entries with
      | nil => rfl
      | cons entry entries =>
          have read := readEntries_joined (List.cons_ne_nil entry entries) each fuel rest (by omega)
          have opening : quote ≠ ofChar '\x7d' := by decide
          obtain ⟨later, onward⟩ := joined_first style.comma
            (rfl : style.writeEntry entry = quote :: _) (entries.map style.writeEntry)
          have skipped : skipSpace (quote :: (later ++ ofChar '\x7d' :: rest)) =
              quote :: (later ++ ofChar '\x7d' :: rest) := skipSpace_solid ⟨_, _, rfl, by decide⟩
          rw [List.map_cons, onward, List.cons_append] at read ⊢
          simp only [skipped, if_neg opening, read, Option.map_some, dictOf_distinct distinct]

def Style.Legibly (style : Style) (value : Value) : Prop :=
  value.All style.Legible (fun _ => True) List.Nodup

theorem reads_write (value : Value) (legible : style.Legibly value) : style.Reads value := by
  induction value with
  | null =>
      intro fuel rest enough _
      cases fuel with
      | zero => exact absurd enough (Nat.not_succ_le_zero _)
      | succ fuel => exact readWord_text (text ['n', 'u', 'l', 'l']) .null rest
  | bool truth =>
      intro fuel rest enough _
      cases truth with
      | true =>
          cases fuel with
          | zero => exact absurd enough (Nat.not_succ_le_zero _)
          | succ fuel => exact readWord_text (text ['t', 'r', 'u', 'e']) (.bool true) rest
      | false =>
          cases fuel with
          | zero => exact absurd enough (Nat.not_succ_le_zero _)
          | succ fuel => exact readWord_text (text ['f', 'a', 'l', 's', 'e']) (.bool false) rest
  | int number => exact reads_int number
  | str chars => exact reads_str legible
  | list items ih =>
      have each := Value.all_list.mp legible
      exact reads_list (fun item member => ih item member (each item member))
  | dict entries ih =>
      obtain ⟨distinct, each⟩ := Value.all_dict.mp legible
      exact reads_dict distinct (fun entry member =>
        ⟨(each entry member).1, ih entry member (each entry member).2⟩)

theorem read_write {value : Value} (legible : style.Legibly value) :
    read (style.write value) = some value := by
  have reads := reads_write value legible (2 * (style.write value).length) [] (Nat.le_refl _)
    (fun _ member => nomatch member)
  rw [List.append_nil] at reads
  unfold read
  rw [skipSpace_solid (solid_write style value), reads]
  rfl

end ValueRoundTrip

end JsonText
