import Ucanlab.Lib.JsonOrder
import Ucanlab.Lib.JsonRoundTrip
import Ucanlab.Security.License.Validator

/-!
The canonical JSON bytes that license signatures are computed over, for values without floats.
A value is refused where a text holds a surrogate or a number has no float. Otherwise its bytes
are read back as the value with the keys of every dict in the order of their UTF-16 units, which
no reordering of the dicts changes.
-/

namespace Ucanlab.License.Jcs

open CodePoint (ofChar text)
open JsonText

inductive JcsError where
  | security (message code : String)
  | overflowError
  | unicodeEncodeError
  deriving DecidableEq, Repr

def surrogateIn (place : String) : JcsError :=
  .security s!"RFC 8785 rejects lone surrogates in {place}" "JCS_SURROGATE_ERROR"

/-- `json.dumps(val, ensure_ascii=False)` with no space between the tokens. -/
def jcsStyle : Style where
  escape := escapePlain
  commaGap := []
  colonGap := []
  commaBlank := fun _ member => nomatch member
  colonBlank := fun _ member => nomatch member

def utf16SortKey (chars : Text) : List Nat := CodePoint.utf16Text chars

def formatNumber (number : Int) : Except JcsError Text :=
  if floatOverflow ≤ number.natAbs then .error .overflowError else .ok (writeInt number)

def canonicalizeText (place : String) (chars : Text) : Except JcsError Text :=
  if CodePoint.hasSurrogate chars then .error (surrogateIn place)
  else .ok (jcsStyle.quoted chars)

/-- One turn of the loop over the sorted keys. -/
def objectPart (entry : Text × Except JcsError Text) : Except JcsError Text := do
  let key ← canonicalizeText "keys" entry.1
  let value ← entry.2
  return key ++ [ofChar ':'] ++ value

mutual

def canonicalizeValue : Value → Except JcsError Text
  | .null => .ok (text ['n', 'u', 'l', 'l'])
  | .bool true => .ok (text ['t', 'r', 'u', 'e'])
  | .bool false => .ok (text ['f', 'a', 'l', 's', 'e'])
  | .int number => formatNumber number
  | .str chars => canonicalizeText "strings" chars
  | .list items => do
      let items ← canonicalizeItems items
      return ofChar '[' :: (joined [ofChar ','] items ++ [ofChar ']'])
  | .dict entries => do
      let parts ← (sortByRank utf16SortKey (canonicalizeEntries entries)).mapM objectPart
      return ofChar '\x7b' :: (joined [ofChar ','] parts ++ [ofChar '\x7d'])

def canonicalizeItems : List Value → Except JcsError (List Text)
  | [] => .ok []
  | item :: rest => do
      let first ← canonicalizeValue item
      let later ← canonicalizeItems rest
      return first :: later

def canonicalizeEntries : List (Text × Value) → List (Text × Except JcsError Text)
  | [] => []
  | (key, value) :: rest => (key, canonicalizeValue value) :: canonicalizeEntries rest

end

def canonicalize (value : Value) : Except JcsError Bytes := do
  let canonical ← canonicalizeValue value
  match CodePoint.encodeUtf8 canonical with
  | some bytes => return bytes
  | none => .error .unicodeEncodeError

section Values

/-- What is not refused. -/
def Plain (value : Value) : Prop :=
  value.All (fun chars => ∀ point ∈ chars, ¬ point.IsSurrogate)
    (fun number => number.natAbs < floatOverflow) (fun _ => True)

theorem bind_ok {α β : Type} {first : Except JcsError α} {next : α → Except JcsError β} {result : β} :
    first >>= next = .ok result ↔ ∃ value, first = .ok value ∧ next value = .ok result := by
  cases first with
  | error early => exact ⟨fun passed => (nomatch passed), fun ⟨_, passed, _⟩ => nomatch passed⟩
  | ok value =>
      constructor
      · exact fun passed => ⟨value, rfl, passed⟩
      · rintro ⟨_, same, passed⟩
        cases same
        exact passed

theorem mapM_ok {α β : Type} {step : α → Except JcsError β} {accepted : α → Prop} {result : α → β}
    {list : List α} {results : List β}
    (each : ∀ item ∈ list, ∀ made, step item = .ok made ↔ accepted item ∧ made = result item) :
    list.mapM step = .ok results ↔ (∀ item ∈ list, accepted item) ∧ results = list.map result := by
  induction list generalizing results with
  | nil =>
      rw [List.mapM_nil]
      constructor
      · intro same
        cases same
        exact ⟨fun _ member => (nomatch member), rfl⟩
      · rintro ⟨_, rfl⟩
        rfl
  | cons item rest ih =>
      have later (made : List β) := @ih made
        (fun other member => each other (List.mem_cons_of_mem _ member))
      have here := each item List.mem_cons_self
      simp only [List.mapM_cons, bind_ok, here, later, List.forall_mem_cons, List.map_cons]
      constructor
      · rintro ⟨_, ⟨good, rfl⟩, _, ⟨others, rfl⟩, same⟩
        cases same
        exact ⟨⟨good, others⟩, rfl⟩
      · rintro ⟨⟨good, others⟩, rfl⟩
        exact ⟨_, ⟨good, rfl⟩, _, ⟨others, rfl⟩, rfl⟩

theorem canonicalizeItems_eq (items : List Value) :
    canonicalizeItems items = items.mapM canonicalizeValue := by
  induction items with
  | nil => rfl
  | cons item rest ih =>
      rw [canonicalizeItems, ih, List.mapM_cons]

theorem canonicalizeEntries_eq (entries : List (Text × Value)) :
    canonicalizeEntries entries =
      entries.map (fun entry => (entry.1, canonicalizeValue entry.2)) := by
  induction entries with
  | nil => rfl
  | cons entry rest ih =>
      rw [canonicalizeEntries, ih]
      rfl

theorem canonicalizeText_ok {place : String} {chars made : Text} :
    canonicalizeText place chars = .ok made ↔
      (∀ point ∈ chars, ¬ point.IsSurrogate) ∧ made = jcsStyle.quoted chars := by
  unfold canonicalizeText
  split
  · rename_i found
    refine ⟨fun same => (nomatch same), fun both => ?_⟩
    rw [CodePoint.hasSurrogate_eq_false.mpr both.1] at found
    cases found
  · rename_i absent
    have bare := CodePoint.hasSurrogate_eq_false.mp (Bool.eq_false_iff.mpr absent)
    constructor
    · intro same
      cases same
      exact ⟨bare, rfl⟩
    · rintro ⟨_, rfl⟩
      rfl

theorem formatNumber_ok {number : Int} {made : Text} :
    formatNumber number = .ok made ↔
      number.natAbs < floatOverflow ∧ made = jcsStyle.write (.int number) := by
  unfold formatNumber
  rw [Style.write]
  split
  · rename_i large
    constructor
    · intro same
      cases same
    · intro both
      exact absurd both.1 (Nat.not_lt.mpr large)
  · rename_i small
    constructor
    · intro same
      cases same
      exact ⟨Nat.lt_of_not_le small, rfl⟩
    · rintro ⟨_, rfl⟩
      rfl

theorem objectPart_ok {entry : Text × Value} {made : Text}
    (within : ∀ {made : Text}, canonicalizeValue entry.2 = .ok made ↔
      Plain entry.2 ∧ made = jcsStyle.write (ordered utf16SortKey entry.2)) :
    objectPart (entry.1, canonicalizeValue entry.2) = .ok made ↔
      ((∀ point ∈ entry.1, ¬ point.IsSurrogate) ∧ Plain entry.2) ∧
        made = jcsStyle.writeEntry (entry.1, ordered utf16SortKey entry.2) := by
  simp only [objectPart, bind_ok, canonicalizeText_ok, within]
  constructor
  · rintro ⟨_, ⟨key, rfl⟩, _, ⟨value, rfl⟩, same⟩
    cases same
    exact ⟨⟨key, value⟩, rfl⟩
  · rintro ⟨⟨key, value⟩, rfl⟩
    exact ⟨_, ⟨key, rfl⟩, _, ⟨value, rfl⟩, rfl⟩

theorem canonicalizeValue_dict (entries : List (Text × Value)) :
    canonicalizeValue (.dict entries) = (do
      let parts ← (sortByRank utf16SortKey entries).mapM
        (fun entry => objectPart (entry.1, canonicalizeValue entry.2))
      return ofChar '\x7b' :: (joined [ofChar ','] parts ++ [ofChar '\x7d'])) := by
  rw [canonicalizeValue, canonicalizeEntries_eq,
    map_sortByRank (fun _ value => canonicalizeValue value), List.mapM_map]
  rfl

theorem canonicalizeValue_ok {value : Value} {made : Text} :
    canonicalizeValue value = .ok made ↔
      Plain value ∧ made = jcsStyle.write (ordered utf16SortKey value) := by
  induction value generalizing made with
  | null =>
      exact ⟨fun same => by cases same; exact ⟨trivial, rfl⟩, fun both => by rw [both.2]; rfl⟩
  | bool truth =>
      cases truth with
      | true => exact ⟨fun same => by cases same; exact ⟨trivial, rfl⟩, fun both => by rw [both.2]; rfl⟩
      | false =>
          exact ⟨fun same => by cases same; exact ⟨trivial, rfl⟩, fun both => by rw [both.2]; rfl⟩
  | int number => exact formatNumber_ok
  | str chars => exact canonicalizeText_ok
  | list items ih =>
      have each (results : List Text) := @mapM_ok _ _ _ _ _ items results
        (fun item member made => @ih item member made)
      rw [canonicalizeValue, canonicalizeItems_eq, bind_ok, ordered_list, Style.write_list,
        List.map_map, Plain, Value.all_list]
      simp only [each]
      constructor
      · rintro ⟨_, ⟨plain, rfl⟩, same⟩
        cases same
        exact ⟨plain, rfl⟩
      · rintro ⟨plain, rfl⟩
        exact ⟨_, ⟨plain, rfl⟩, rfl⟩
  | dict entries ih =>
      have sorted {entry : Text × Value} :
          entry ∈ sortByRank utf16SortKey entries ↔ entry ∈ entries :=
        (perm_sortByRank entries).mem_iff
      have each (results : List Text) := @mapM_ok _ _ _ _ _ (sortByRank utf16SortKey entries) results
        (fun entry member made => @objectPart_ok entry made (ih entry (sorted.mp member)))
      rw [canonicalizeValue_dict, bind_ok, ordered_dict, Style.write_dict, List.map_map, Plain,
        Value.all_dict]
      simp only [each]
      constructor
      · rintro ⟨_, ⟨plain, rfl⟩, same⟩
        cases same
        exact ⟨⟨trivial, fun entry member => plain entry (sorted.mpr member)⟩, rfl⟩
      · rintro ⟨⟨_, plain⟩, rfl⟩
        exact ⟨_, ⟨fun entry member => plain entry (sorted.mp member), rfl⟩, rfl⟩

theorem Plain.ordered {value : Value} (plain : Plain value) :
    Plain (ordered utf16SortKey value) :=
  ((reordered_ordered value).all_iff (fun _ => Iff.rfl)).mp plain

theorem plain_write {value : Value} (plain : Plain value) :
    CodePoint.hasSurrogate (jcsStyle.write value) = false := by
  have ascii (point : CodePoint) (small : point.val < 0x80) : ¬ point.IsSurrogate :=
    fun within => by have large := within.1; omega
  refine CodePoint.hasSurrogate_eq_false.mpr
    (write_allowed ascii value (plain.imp ?_ (fun _ => trivial) (fun _ _ => trivial)))
  intro chars bare found member
  obtain ⟨origin, isIn, within⟩ := List.mem_flatMap.mp member
  rcases mem_escapePlain within with small | rfl
  · exact ascii found small
  · exact bare found isIn

theorem canonicalize_ok {value : Value} {bytes : Bytes} :
    canonicalize value = .ok bytes ↔ Plain value ∧
      CodePoint.encodeUtf8 (jcsStyle.write (ordered utf16SortKey value)) = some bytes := by
  rw [canonicalize, bind_ok]
  simp only [canonicalizeValue_ok]
  constructor
  · rintro ⟨_, ⟨plain, rfl⟩, same⟩
    split at same
    · rename_i found encoded
      cases same
      exact ⟨plain, encoded⟩
    · cases same
  · rintro ⟨plain, encoded⟩
    refine ⟨_, ⟨plain, rfl⟩, ?_⟩
    rw [encoded]
    rfl

theorem canonicalize_exists {value : Value} :
    (∃ bytes, canonicalize value = .ok bytes) ↔ Plain value := by
  constructor
  · rintro ⟨bytes, done⟩
    exact (canonicalize_ok.mp done).1
  · intro plain
    obtain ⟨bytes, encoded⟩ := CodePoint.encodeUtf8_exists (plain_write plain.ordered)
    exact ⟨bytes, canonicalize_ok.mpr ⟨plain, encoded⟩⟩

end Values

section Reordering

/-- No two keys of a dict share their UTF-16 units. -/
abbrev UnitsApart (value : Value) : Prop := RanksApart utf16SortKey value

theorem Plain.unitsApart {value : Value} (plain : Plain value) (distinct : value.Distinct) :
    UnitsApart value := by
  refine (plain.and_keys distinct).imp (fun _ => trivial) (fun _ => trivial) ?_
  intro keys once bare
  refine List.Nodup.map_on ?_ once
  exact fun left isIn right isThere same =>
    CodePoint.utf16Text_injective (bare left isIn) (bare right isThere) same

theorem canonicalizeValue_reorder {value other : Value} (swapped : Reorder value other)
    (apart : UnitsApart value) : canonicalizeValue value = canonicalizeValue other := by
  induction swapped with
  | here same =>
      have once := (Value.all_dict.mp apart).1
      rw [List.map_map] at once
      rw [canonicalizeValue_dict, canonicalizeValue_dict, sortByRank_perm same once]
  | item _ ih =>
      have within := ih (Value.all_list.mp apart _ (List.mem_append_right _ List.mem_cons_self))
      simp only [canonicalizeValue, canonicalizeItems_eq, List.mapM_append, List.mapM_cons, within]
  | entry _ ih =>
      have within := ih
        ((Value.all_dict.mp apart).2 _ (List.mem_append_right _ List.mem_cons_self)).2
      simp only [canonicalizeValue, canonicalizeEntries_eq, List.map_append, List.map_cons, within]

theorem canonicalize_reordered {value other : Value} (swapped : Reordered value other)
    (apart : UnitsApart value) : canonicalize value = canonicalize other := by
  have orderless {keys shuffled : List Text} (same : keys.Perm shuffled) :
      (keys.map utf16SortKey).Nodup ↔ (shuffled.map utf16SortKey).Nodup :=
    (same.map utf16SortKey).nodup_iff
  induction swapped with
  | refl => rfl
  | tail earlier last ih =>
      have later : UnitsApart _ := (Reordered.all_iff orderless earlier).mp apart
      rw [ih, canonicalize, canonicalize, canonicalizeValue_reorder last later]

theorem canonicalize_toOption {value other : Value} (swapped : Reordered value other)
    (distinct : value.Distinct) :
    (canonicalize value).toOption = (canonicalize other).toOption := by
  by_cases plain : Plain value
  · rw [canonicalize_reordered swapped (plain.unitsApart distinct)]
  · have refused {held : Value} (notPlain : ¬ Plain held) : (canonicalize held).toOption = none := by
      cases done : canonicalize held with
      | error _ => rfl
      | ok bytes => exact absurd (canonicalize_exists.mp ⟨bytes, done⟩) notPlain
    have otherPlain : ¬ Plain other :=
      fun held => plain ((swapped.all_iff (fun _ => Iff.rfl)).mpr held)
    rw [refused plain, refused otherPlain]

theorem read_canonicalize {value : Value} {bytes : Bytes} (distinct : value.Distinct)
    (done : canonicalize value = .ok bytes) :
    (CodePoint.decodeUtf8 bytes).bind read = some (ordered utf16SortKey value) := by
  obtain ⟨plain, encoded⟩ := canonicalize_ok.mp done
  have swapped : Reordered value (ordered utf16SortKey value) := reordered_ordered value
  have once := swapped.distinct_iff.mp distinct
  have legible : jcsStyle.Legibly (ordered utf16SortKey value) :=
    once.imp (fun _ => legible_plain rfl _) (fun _ => trivial) (fun held _ => held)
  rw [CodePoint.decodeUtf8_encodeUtf8 encoded]
  exact read_write legible

end Reordering

/-- A value as Python holds it: a dict has each key once. -/
structure PyJson where
  value : Value
  distinct : value.Distinct

/-- The canonical bytes are the same for all reorderings, exist for exactly the plain values, and
are read back as the value with the keys of every dict in UTF-16 order; so different values have
different bytes. Which error a refused value raises may depend on the order only where two keys
share their UTF-16 units. -/
theorem canonicalize_canonical (first second : PyJson) :
    ((∃ bytes, canonicalize first.value = .ok bytes) ↔ Plain first.value) ∧
    (Reordered first.value second.value →
      (canonicalize first.value).toOption = (canonicalize second.value).toOption ∧
      (UnitsApart first.value → canonicalize first.value = canonicalize second.value)) ∧
    ∀ bytes, canonicalize first.value = .ok bytes →
      (∃ parsed, (CodePoint.decodeUtf8 bytes).bind read = some parsed ∧
        Reordered first.value parsed ∧ KeysOrdered utf16SortKey parsed ∧
        CodePoint.encodeUtf8 (jcsStyle.write parsed) = some bytes) ∧
      (canonicalize second.value = .ok bytes → Reordered first.value second.value) := by
  refine ⟨canonicalize_exists, fun swapped => ⟨canonicalize_toOption swapped first.distinct,
    canonicalize_reordered swapped⟩, fun bytes done => ⟨?_, fun same => ?_⟩⟩
  · obtain ⟨plain, encoded⟩ := canonicalize_ok.mp done
    exact ⟨_, read_canonicalize first.distinct done, reordered_ordered _,
      keysOrdered_ordered (plain.unitsApart first.distinct), encoded⟩
  · have left := read_canonicalize first.distinct done
    have right := read_canonicalize second.distinct same
    have parsed := Option.some.inj (left.symm.trans right)
    have there : Reordered first.value (ordered utf16SortKey second.value) :=
      parsed ▸ reordered_ordered first.value
    exact there.trans (reordered_ordered second.value).symm

/-- A key outside the Basic Multilingual Plane stands before one near its end. -/
theorem canonicalize_canonical_astral :
    canonicalize (.dict [([0xFB33], .int 1), ([0x1F600], .list [.null, .str [0x0A]])]) =
        .ok [0x7B, 0x22, 0xF0, 0x9F, 0x98, 0x80, 0x22, 0x3A, 0x5B, 0x6E, 0x75, 0x6C, 0x6C, 0x2C,
          0x22, 0x5C, 0x6E, 0x22, 0x5D, 0x2C, 0x22, 0xEF, 0xAC, 0xB3, 0x22, 0x3A, 0x31, 0x7D] ∧
      canonicalize (.dict [([0x1F600], .list [.null, .str [0x0A]]), ([0xFB33], .int 1)]) =
        canonicalize (.dict [([0xFB33], .int 1), ([0x1F600], .list [.null, .str [0x0A]])]) := by
  have left : (Value.dict [([0x1F600], .list [.null, .str [0x0A]]), ([0xFB33], .int 1)]).Distinct := by
    simp [Value.Distinct, Value.All, itemsAll, entriesAll]
  have right : (Value.dict [([0xFB33], .int 1), ([0x1F600], .list [.null, .str [0x0A]])]).Distinct := by
    simp [Value.Distinct, Value.All, itemsAll, entriesAll]
  have apart : UnitsApart (.dict [([0x1F600], .list [.null, .str [0x0A]]), ([0xFB33], .int 1)]) := by
    simp [UnitsApart, RanksApart, Value.All, itemsAll, entriesAll, utf16SortKey,
      CodePoint.utf16Text, CodePoint.utf16]
  refine ⟨by decide +kernel, ?_⟩
  exact ((canonicalize_canonical ⟨_, left⟩ ⟨_, right⟩).2.1
    (Relation.ReflTransGen.single (.here (List.Perm.swap _ _ _)))).2 apart

end Ucanlab.License.Jcs
