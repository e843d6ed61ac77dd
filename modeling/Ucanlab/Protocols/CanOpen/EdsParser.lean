import Ucanlab.Core.CharTable
import Ucanlab.Core.PyNumber
import Ucanlab.Lib.Dict

/-!
The object dictionary of an electronic data sheet. The sections and their options are those that the
language's configuration parser reads in the text; an option is looked up in lower case, and one that
its section lacks in the defaults.
-/

namespace Ucanlab.CanOpen

open Ucanlab

abbrev Text := List Char

abbrev Options := Dict Text Text

structure Ini where
  defaults : Options
  sections : Dict Text Options
  distinct : sections.keys.Nodup

structure ObjectFields where
  index : Nat
  parameterName : Text
  objectType : Int := 7
  dataType : Int := 0x0005
  accessType : Text := ['r', 'o']
  defaultValue : Option Text := none
  pdoMapping : Bool := false
  deriving DecidableEq

structure CanOpenSubObject where
  subIndex : Nat
  parameterName : Text
  objectType : Int := 7
  dataType : Int := 0x0005
  accessType : Text := ['r', 'o']
  defaultValue : Option Text := none
  pdoMapping : Bool := false
  lowLimit : Option Text := none
  highLimit : Option Text := none
  deriving DecidableEq

structure CanOpenObject extends ObjectFields where
  subObjects : Dict Nat CanOpenSubObject := []
  deriving DecidableEq

structure CanOpenDeviceInfo where
  vendorName : Text := []
  vendorNumber : Int := 0
  productName : Text := []
  productNumber : Int := 0
  revisionNumber : Int := 0
  granularity : Int := 8
  deriving DecidableEq

abbrev Objects := Dict Nat CanOpenObject

structure CanOpenObjectDictionary where
  fileVersion : Text := ['1', '.', '0']
  createdBy : Text := []
  deviceInfo : CanOpenDeviceInfo := {}
  objects : Objects := []

def isHexDigit (c : Char) : Bool := (hexDigit c).isSome

def isHexLetter (c : Char) : Bool := isHexDigit c && !c.isDigit

structure ObjectName where
  index : Text
  sub : Option Text
  deriving DecidableEq

/-- `_INDEX_RE`: up to four hexadecimal digits, and then nothing or `sub` and one or two of them. -/
def matchName (name : Text) : Option ObjectName :=
  let index := name.takeWhile isHexDigit
  if index.length = 0 ∨ 4 < index.length then none
  else
    match name.dropWhile isHexDigit with
    | [] => some ⟨index, none⟩
    | 's' :: 'u' :: 'b' :: sub =>
        if sub.all isHexDigit ∧ (sub.length = 1 ∨ sub.length = 2) then some ⟨index, some sub⟩ else none
    | _ => none

def digitsValue (base : Nat) (digits : Text) : Nat :=
  digits.foldl (fun total c => total * base + (hexDigit c).getD 0) 0

def readSub (sub : Text) : Nat :=
  if sub.any isHexLetter then digitsValue 16 sub else digitsValue 10 sub

/-- `:04X`. -/
def upperHex4 (value : Nat) : Text :=
  let digits := (Nat.toDigits 16 value).map Char.toUpper
  List.replicate (4 - digits.length) '0' ++ digits

section Parsing

variable (table : LowerTable)

/-- `_parse_int_safe`; decimal digits beyond the language's limit are an error too. -/
def parseIntSafe (val : Text) (default : Int) : Int :=
  let val := pyStrip val
  let lowered := table.lowerText val
  if ['0', 'x'].isPrefixOf lowered || lowered.any (fun c => "abcdef".toList.contains c) then
    (pyInt 16 val).getD default
  else if 4300 < (val.filter decimalChar).length then default
  else (pyInt 10 val).getD default

/-- `sec.get`. -/
def option (ini : Ini) (options : Options) (key : String) : Option Text :=
  (options.get? key.toList).or (ini.defaults.get? key.toList)

def pdoMapping (value : Text) : Bool :=
  decide (pyStrip value ∈ ["1".toList, "true".toList, "True".toList])

def mainFields (ini : Ini) (index : Nat) (options : Options) : ObjectFields where
  index := index
  parameterName := (option ini options "parametername").getD ("Object_".toList ++ upperHex4 index)
  objectType := parseIntSafe table ((option ini options "objecttype").getD ['7']) 0
  dataType := parseIntSafe table ((option ini options "datatype").getD ['5']) 0
  accessType := table.lowerText ((option ini options "accesstype").getD ['r', 'o'])
  defaultValue := option ini options "defaultvalue"
  pdoMapping := pdoMapping ((option ini options "pdomapping").getD ['0'])

def subObject (ini : Ini) (subIndex : Nat) (options : Options) : CanOpenSubObject where
  subIndex := subIndex
  parameterName :=
    (option ini options "parametername").getD ("SubIndex_".toList ++ decimalText subIndex)
  objectType := parseIntSafe table ((option ini options "objecttype").getD ['7']) 0
  dataType := parseIntSafe table ((option ini options "datatype").getD ['5']) 0
  accessType := table.lowerText ((option ini options "accesstype").getD ['r', 'o'])
  defaultValue := option ini options "defaultvalue"
  pdoMapping := pdoMapping ((option ini options "pdomapping").getD ['0'])
  lowLimit := option ini options "lowlimit"
  highLimit := option ini options "highlimit"

def recordFields (index : Nat) : ObjectFields where
  index := index
  parameterName := "Record_".toList ++ upperHex4 index
  objectType := 8

def addSection (ini : Ini) (objects : Objects) (entry : Text × Options) : Objects :=
  match matchName (pyStrip entry.1) with
  | none => objects
  | some ⟨rawIndex, none⟩ =>
      let index := digitsValue 16 rawIndex
      let fields := mainFields table ini index entry.2
      match objects.get? index with
      | none => objects.set index ⟨fields, []⟩
      | some object => objects.set index { object with toObjectFields := fields }
  | some ⟨rawIndex, some rawSub⟩ =>
      let index := digitsValue 16 rawIndex
      let sub := readSub rawSub
      let object := (objects.get? index).getD ⟨recordFields index, []⟩
      objects.set index
        { object with subObjects := object.subObjects.set sub (subObject table ini sub entry.2) }

def deviceInfo (ini : Ini) (options : Options) : CanOpenDeviceInfo where
  vendorName := (option ini options "vendorname").getD []
  vendorNumber := parseIntSafe table ((option ini options "vendornumber").getD ['0']) 0
  productName := (option ini options "productname").getD []
  productNumber := parseIntSafe table ((option ini options "productnumber").getD ['0']) 0
  revisionNumber := parseIntSafe table ((option ini options "revisionnumber").getD ['0']) 0
  granularity := parseIntSafe table ((option ini options "granularity").getD ['8']) 0

def objectDictionary (ini : Ini) : CanOpenObjectDictionary where
  fileVersion :=
    match ini.sections.get? "FileInfo".toList with
    | none => "1.0".toList
    | some options => (option ini options "fileversion").getD "1.0".toList
  createdBy :=
    match ini.sections.get? "FileInfo".toList with
    | none => []
    | some options => (option ini options "createdby").getD []
  deviceInfo :=
    match ini.sections.get? "DeviceInfo".toList with
    | none => {}
    | some options => deviceInfo table ini options
  objects := ini.sections.foldl (addSection table ini) []

/-- `ProtocolError` with the code `EDS_SYNTAX_ERROR`, and what the configuration parser said. -/
structure SyntaxError where
  cause : String

/-- `parse_eds_text`, over the configuration parser's reading of a text. -/
def parseEdsText (readString : Text → Except String Ini) (text : Text) :
    Except SyntaxError CanOpenObjectDictionary :=
  match readString text with
  | .error cause => .error ⟨cause⟩
  | .ok ini => .ok (objectDictionary table ini)

end Parsing

section Keys

/-- The object that a name is for, and its sub-object where it has one. -/
abbrev ObjectKey := Nat × Option Nat

def keyBy (sub : Text → Nat) (name : Text) : Option ObjectKey :=
  (matchName (pyStrip name)).map (fun found => (digitsValue 16 found.index, found.sub.map sub))

def hexKey (name : Text) : Option ObjectKey := keyBy (digitsValue 16) name

def storedKey (name : Text) : Option ObjectKey := keyBy readSub name

def ReadsAlike (sub : Text) : Prop :=
  sub.any isHexLetter = true ∨ sub.length ≤ 1 ∨ sub.head? = some '0'

def mainAt (objects : Objects) (index : Nat) : Option ObjectFields :=
  (objects.get? index).map CanOpenObject.toObjectFields

def subAt (objects : Objects) (index sub : Nat) : Option CanOpenSubObject :=
  (objects.get? index).bind (fun object => object.subObjects.get? sub)

/-- The objects hold every section under its key, and nothing but these and the records around
sub-objects whose object has no section. -/
structure Holds (table : LowerTable) (key : Text → Option ObjectKey) (ini : Ini)
    (objects : Objects) : Prop where
  mains : ∀ entry ∈ ini.sections, ∀ index, key entry.1 = some (index, none) →
    mainAt objects index = some (mainFields table ini index entry.2)
  subs : ∀ entry ∈ ini.sections, ∀ index sub, key entry.1 = some (index, some sub) →
    subAt objects index sub = some (subObject table ini sub entry.2)
  otherMains : ∀ index fields, mainAt objects index = some fields →
    (∃ entry ∈ ini.sections, key entry.1 = some (index, none)) ∨
      fields = recordFields index ∧ ∃ entry ∈ ini.sections, ∃ sub, key entry.1 = some (index, some sub)
  otherSubs : ∀ index sub object, subAt objects index sub = some object →
    ∃ entry ∈ ini.sections, key entry.1 = some (index, some sub)

def DistinctObjects (ini : Ini) : Prop :=
  ∀ entry ∈ ini.sections, ∀ other ∈ ini.sections, ∀ key,
    hexKey entry.1 = some key → hexKey other.1 = some key → entry = other

structure SameDictionary (left right : CanOpenObjectDictionary) : Prop where
  fileVersion : left.fileVersion = right.fileVersion
  createdBy : left.createdBy = right.createdBy
  deviceInfo : left.deviceInfo = right.deviceInfo
  mains : ∀ index, mainAt left.objects index = mainAt right.objects index
  subs : ∀ index sub, subAt left.objects index sub = subAt right.objects index sub

structure Reordered (left right : Ini) : Prop where
  defaults : left.defaults = right.defaults
  sections : left.sections.Perm right.sections

end Keys

section Steps

variable {table : LowerTable} {ini : Ini} {objects : Objects} {entry : Text × Options}

theorem mainAt_set (objects : Objects) (index other : Nat) (object : CanOpenObject) :
    mainAt (objects.set index object) other =
      if other = index then some object.toObjectFields else mainAt objects other := by
  unfold mainAt
  by_cases same : other = index
  · rw [if_pos same, same, Dict.get?_set_self]
    rfl
  · rw [if_neg same, Dict.get?_set_ne _ same]

theorem subAt_set (objects : Objects) (index other sub : Nat) (object : CanOpenObject) :
    subAt (objects.set index object) other sub =
      if other = index then object.subObjects.get? sub else subAt objects other sub := by
  unfold subAt
  by_cases same : other = index
  · rw [if_pos same, same, Dict.get?_set_self]
    rfl
  · rw [if_neg same, Dict.get?_set_ne _ same]

inductive Kind (table : LowerTable) (ini : Ini) (objects : Objects) (entry : Text × Options) :
    Prop where
  | ignored (key : storedKey entry.1 = none) (same : addSection table ini objects entry = objects)
  | main (index : Nat) (key : storedKey entry.1 = some (index, none)) (object : CanOpenObject)
      (added : addSection table ini objects entry = objects.set index object)
      (fields : object.toObjectFields = mainFields table ini index entry.2)
      (subs : ∀ sub, object.subObjects.get? sub = subAt objects index sub)
  | sub (index sub : Nat) (key : storedKey entry.1 = some (index, some sub)) (object : CanOpenObject)
      (added : addSection table ini objects entry = objects.set index object)
      (fields : object.toObjectFields = (mainAt objects index).getD (recordFields index))
      (here : object.subObjects.get? sub = some (subObject table ini sub entry.2))
      (subs : ∀ other, other ≠ sub → object.subObjects.get? other = subAt objects index other)

theorem addSection_kind (table : LowerTable) (ini : Ini) (objects : Objects)
    (entry : Text × Options) : Kind table ini objects entry := by
  have key : storedKey entry.1 = keyBy readSub entry.1 := rfl
  unfold keyBy at key
  cases found : matchName (pyStrip entry.1) with
  | none =>
      rw [found] at key
      refine .ignored key ?_
      unfold addSection
      rw [found]
  | some name =>
      rw [found] at key
      obtain ⟨rawIndex, rawSub⟩ := name
      cases rawSub with
      | none =>
          cases present : objects.get? (digitsValue 16 rawIndex) with
          | none =>
              refine .main _ key ⟨mainFields table ini (digitsValue 16 rawIndex) entry.2, []⟩ ?_ rfl ?_
              · unfold addSection
                rw [found]
                dsimp only
                rw [present]
              · intro sub
                unfold subAt
                rw [present]
                rfl
          | some object =>
              refine .main _ key
                { object with
                  toObjectFields := mainFields table ini (digitsValue 16 rawIndex) entry.2 } ?_ rfl ?_
              · unfold addSection
                rw [found]
                dsimp only
                rw [present]
              · intro sub
                unfold subAt
                rw [present]
                rfl
      | some rawSub =>
          refine .sub _ _ key
            { (objects.get? (digitsValue 16 rawIndex)).getD
                ⟨recordFields (digitsValue 16 rawIndex), []⟩ with
              subObjects := ((objects.get? (digitsValue 16 rawIndex)).getD
                ⟨recordFields (digitsValue 16 rawIndex), []⟩).subObjects.set (readSub rawSub)
                  (subObject table ini (readSub rawSub) entry.2) } ?_ ?_ ?_ ?_
          · unfold addSection
            rw [found]
          · unfold mainAt
            cases objects.get? (digitsValue 16 rawIndex) with
            | none => rfl
            | some object => rfl
          · exact Dict.get?_set_self ..
          · intro other apart
            refine (Dict.get?_set_ne _ apart _).trans ?_
            unfold subAt
            cases objects.get? (digitsValue 16 rawIndex) with
            | none => rfl
            | some object => rfl

theorem subAt_addSection (objects : Objects) (index sub : Nat) :
    subAt (addSection table ini objects entry) index sub =
      if storedKey entry.1 = some (index, some sub) then some (subObject table ini sub entry.2)
      else subAt objects index sub := by
  cases addSection_kind table ini objects entry with
  | ignored key same => rw [same, key, if_neg nofun]
  | main place key object added fields subs =>
      have other : some (place, none) ≠ some (index, some sub) := by simp
      rw [added, subAt_set, key, if_neg other]
      by_cases here : index = place
      · rw [if_pos here, subs, here]
      · rw [if_neg here]
  | sub place number key object added fields stored subs =>
      rw [added, subAt_set, key]
      by_cases here : index = place
      · subst here
        rw [if_pos rfl]
        by_cases same : sub = number
        · subst same
          rw [if_pos rfl, stored]
        · rw [subs sub same, if_neg (by simpa using Ne.symm same)]
      · rw [if_neg here, if_neg (by simp [Ne.symm here])]

theorem mainAt_addSection (objects : Objects) (index : Nat) :
    mainAt (addSection table ini objects entry) index =
      if storedKey entry.1 = some (index, none) then some (mainFields table ini index entry.2)
      else if (storedKey entry.1).map Prod.fst = some index then
        some ((mainAt objects index).getD (recordFields index))
      else mainAt objects index := by
  cases addSection_kind table ini objects entry with
  | ignored key same => rw [same, key, if_neg nofun, if_neg nofun]
  | main place key object added fields subs =>
      rw [added, mainAt_set, key, fields]
      by_cases here : index = place
      · subst here
        rw [if_pos rfl, if_pos rfl]
      · rw [if_neg here, if_neg (by simp [Ne.symm here]), if_neg (by simp [Ne.symm here])]
  | sub place number key object added fields stored subs =>
      have other : some (place, some number) ≠ some (index, none) := by simp
      rw [added, mainAt_set, key, fields, if_neg other]
      by_cases here : index = place
      · subst here
        rw [if_pos rfl]
        exact (if_pos rfl).symm
      · rw [if_neg here, if_neg (by simp [Ne.symm here])]

end Steps

section Folds

variable {table : LowerTable} {ini : Ini}

def addSections (table : LowerTable) (ini : Ini) (sections : List (Text × Options)) : Objects :=
  sections.foldl (addSection table ini) []

theorem addSections_append (sections : List (Text × Options)) (entry : Text × Options) :
    addSections table ini (sections ++ [entry]) =
      addSection table ini (addSections table ini sections) entry := List.foldl_append

def lastFor (sections : List (Text × Options)) (key : ObjectKey) : Option (Text × Options) :=
  sections.reverse.find? (fun entry => decide (storedKey entry.1 = some key))

theorem lastFor_append (sections : List (Text × Options)) (entry : Text × Options)
    (key : ObjectKey) :
    lastFor (sections ++ [entry]) key =
      if storedKey entry.1 = some key then some entry else lastFor sections key := by
  unfold lastFor
  rw [List.reverse_append, List.reverse_singleton, List.singleton_append, List.find?_cons]
  by_cases here : storedKey entry.1 = some key
  · rw [decide_eq_true here, if_pos here]
  · rw [decide_eq_false here, if_neg here]

theorem lastFor_some {sections : List (Text × Options)} {key : ObjectKey} {entry : Text × Options}
    (found : lastFor sections key = some entry) :
    entry ∈ sections ∧ storedKey entry.1 = some key := by
  unfold lastFor at found
  have here := List.find?_some found
  exact ⟨List.mem_reverse.mp (List.mem_of_find?_eq_some found), of_decide_eq_true here⟩

theorem lastFor_none {sections : List (Text × Options)} {key : ObjectKey}
    (absent : lastFor sections key = none) : ∀ entry ∈ sections, storedKey entry.1 ≠ some key := by
  intro entry member here
  exact List.find?_eq_none.mp absent entry (List.mem_reverse.mpr member) (decide_eq_true here)

theorem subAt_addSections (sections : List (Text × Options)) (index sub : Nat) :
    subAt (addSections table ini sections) index sub =
      (lastFor sections (index, some sub)).map (fun entry => subObject table ini sub entry.2) := by
  induction sections using List.reverseRecOn with
  | nil => rfl
  | append_singleton past entry ih =>
      rw [addSections_append, subAt_addSection, lastFor_append, ih]
      by_cases here : storedKey entry.1 = some (index, some sub)
      · rw [if_pos here, if_pos here]
        rfl
      · rw [if_neg here, if_neg here]

def Mentions (sections : List (Text × Options)) (index : Nat) : Prop :=
  ∃ entry ∈ sections, (storedKey entry.1).map Prod.fst = some index

open Classical in
theorem mainAt_addSections (sections : List (Text × Options)) (index : Nat) :
    mainAt (addSections table ini sections) index =
      if Mentions sections index then
        some (((lastFor sections (index, none)).map
          (fun entry => mainFields table ini index entry.2)).getD (recordFields index))
      else none := by
  induction sections using List.reverseRecOn with
  | nil =>
      rw [if_neg (fun some => by obtain ⟨entry, member, _⟩ := some; cases member)]
      rfl
  | append_singleton past entry ih =>
      rw [addSections_append, mainAt_addSection, lastFor_append, ih]
      by_cases here : (storedKey entry.1).map Prod.fst = some index
      · have mentioned : Mentions (past ++ [entry]) index :=
          ⟨entry, List.mem_append_right _ List.mem_cons_self, here⟩
        rw [if_pos mentioned, if_pos here]
        by_cases main : storedKey entry.1 = some (index, none)
        · rw [if_pos main, if_pos main]
          rfl
        · rw [if_neg main, if_neg main]
          by_cases before : Mentions past index
          · rw [if_pos before]
            rfl
          · have unseen : lastFor past (index, none) = none := by
              cases found : lastFor past (index, none) with
              | none => rfl
              | some first =>
                  obtain ⟨member, key⟩ := lastFor_some found
                  exact absurd ⟨first, member, by rw [key]; rfl⟩ before
            rw [if_neg before, unseen]
            rfl
      · have other : storedKey entry.1 ≠ some (index, none) := by
          intro main
          rw [main] at here
          exact here rfl
        have kept : Mentions (past ++ [entry]) index ↔ Mentions past index := by
          constructor
          · rintro ⟨found, member, same⟩
            rcases List.mem_append.mp member with earlier | last
            · exact ⟨found, earlier, same⟩
            · rw [List.mem_singleton.mp last] at same
              exact absurd same here
          · rintro ⟨found, member, same⟩
            exact ⟨found, List.mem_append_left _ member, same⟩
        rw [if_neg other, if_neg here, if_neg other]
        exact if_congr kept.symm rfl rfl

end Folds

section Numbers

theorem hexDigit_of_not_letter {c : Char} (digit : isHexDigit c = true)
    (plain : isHexLetter c ≠ true) :
    ∃ value, hexDigit c = some value ∧ (value = 0 ↔ c = '0') := by
  have decimal : c.isDigit = true := by
    unfold isHexLetter at plain
    rw [digit, Bool.true_and] at plain
    simpa using plain
  obtain ⟨low, high⟩ : 48 ≤ c.toNat ∧ c.toNat ≤ 57 := Char.isDigit_iff_toNat.mp decimal
  refine ⟨c.toNat - 0x30, if_pos ⟨low, high⟩, ?_⟩
  constructor
  · intro zero
    have same : c.toNat = '0'.toNat := by
      change c.toNat = 48
      omega
    exact Char.toNat_inj.mp same
  · rintro rfl
    rfl

theorem digitsValue_lt (digits : Text) : digitsValue 16 digits < 16 ^ digits.length := by
  induction digits using List.reverseRecOn with
  | nil => exact Nat.one_pos
  | append_singleton front c ih =>
      have digit : (hexDigit c).getD 0 < 16 := by
        cases read : hexDigit c with
        | none => exact Nat.succ_pos 15
        | some value => exact hexDigit_lt read
      unfold digitsValue at ih ⊢
      rw [List.foldl_append, List.foldl_cons, List.foldl_nil, List.length_append,
        List.length_singleton, Nat.pow_succ]
      omega

theorem matchName_sub {name : Text} {found : ObjectName} {sub : Text}
    (matched : matchName name = some found) (has : found.sub = some sub) :
    sub.all isHexDigit = true ∧ (sub.length = 1 ∨ sub.length = 2) := by
  unfold matchName at matched
  dsimp only at matched
  split at matched
  · cases matched
  · split at matched
    · cases matched
      cases has
    · split at matched
      · rename_i whole
        cases matched
        cases has
        exact whole
      · cases matched
    · cases matched

/-- In decimal a number of two digits is less, unless the first of them is a zero. -/
theorem readSub_cases {sub : Text} (digits : sub.all isHexDigit = true)
    (few : sub.length = 1 ∨ sub.length = 2) :
    ReadsAlike sub ∧ readSub sub = digitsValue 16 sub ∨
      ¬ReadsAlike sub ∧ readSub sub < digitsValue 16 sub := by
  by_cases letter : sub.any isHexLetter = true
  · exact Or.inl ⟨Or.inl letter, if_pos letter⟩
  · have read : readSub sub = digitsValue 10 sub := if_neg letter
    rcases few with one | two
    · obtain ⟨c, rfl⟩ := List.length_eq_one_iff.mp one
      refine Or.inl ⟨Or.inr (Or.inl (Nat.le_refl 1)), read.trans ?_⟩
      simp [digitsValue]
    · obtain ⟨c, d, rfl⟩ := List.length_eq_two.mp two
      have ten : digitsValue 10 [c, d] = (hexDigit c).getD 0 * 10 + (hexDigit d).getD 0 := by
        simp [digitsValue]
      have sixteen : digitsValue 16 [c, d] = (hexDigit c).getD 0 * 16 + (hexDigit d).getD 0 := by
        simp [digitsValue]
      have plain (e : Char) (member : e ∈ [c, d]) : isHexLetter e ≠ true := by
        intro isLetter
        exact letter (List.any_eq_true.mpr ⟨e, member, isLetter⟩)
      have digit (e : Char) (member : e ∈ [c, d]) : isHexDigit e = true :=
        List.all_eq_true.mp digits e member
      obtain ⟨high, first, zero⟩ := hexDigit_of_not_letter (digit c (by simp)) (plain c (by simp))
      by_cases leads : c = '0'
      · refine Or.inl ⟨Or.inr (Or.inr (by rw [leads]; rfl)), ?_⟩
        rw [read, ten, sixteen, first, zero.mpr leads]
        rfl
      · have positive : high ≠ 0 := fun none => leads (zero.mp none)
        refine Or.inr ⟨?_, ?_⟩
        · rintro (isLetter | short | front)
          · exact letter isLetter
          · exact absurd short (Nat.not_succ_le_self 1)
          · exact leads (Option.some.inj front)
        · rw [read, ten, sixteen, first, Option.getD_some]
          omega

end Numbers

section Results

variable {table : LowerTable} {ini : Ini}

def SubIndexesReadAlike (ini : Ini) : Prop :=
  ∀ entry ∈ ini.sections, ∀ found sub,
    matchName (pyStrip entry.1) = some found → found.sub = some sub → ReadsAlike sub

theorem storedKey_eq_hexKey {name : Text}
    (alike : ∀ found sub, matchName (pyStrip name) = some found → found.sub = some sub →
      ReadsAlike sub) : storedKey name = hexKey name := by
  unfold storedKey hexKey keyBy
  cases matched : matchName (pyStrip name) with
  | none => rfl
  | some found =>
      obtain ⟨index, sub⟩ := found
      cases sub with
      | none => rfl
      | some sub =>
          obtain ⟨digits, few⟩ := matchName_sub matched rfl
          rcases readSub_cases digits few with ⟨-, same⟩ | ⟨apart, -⟩
          · simp only [Option.map_some, same]
          · exact absurd (alike _ sub matched rfl) apart

theorem objects_eq (table : LowerTable) (ini : Ini) :
    (objectDictionary table ini).objects = addSections table ini ini.sections := rfl

theorem lastFor_unique (distinct : DistinctObjects ini)
    (same : ∀ entry ∈ ini.sections, storedKey entry.1 = hexKey entry.1) {entry : Text × Options}
    (member : entry ∈ ini.sections) {key : ObjectKey} (here : hexKey entry.1 = some key) :
    lastFor ini.sections key = some entry := by
  cases found : lastFor ini.sections key with
  | none => exact absurd ((same entry member).trans here) (lastFor_none found entry member)
  | some other =>
      obtain ⟨listed, stored⟩ := lastFor_some found
      rw [same other listed] at stored
      rw [distinct other listed entry member key stored here]

theorem holds_of_same (distinct : DistinctObjects ini)
    (same : ∀ entry ∈ ini.sections, storedKey entry.1 = hexKey entry.1) :
    Holds table hexKey ini (objectDictionary table ini).objects where
  mains := by
    intro entry member index here
    have mentioned : Mentions ini.sections index :=
      ⟨entry, member, by rw [same entry member, here]; rfl⟩
    rw [objects_eq, mainAt_addSections, if_pos mentioned, lastFor_unique distinct same member here]
    rfl
  subs := by
    intro entry member index sub here
    rw [objects_eq, subAt_addSections, lastFor_unique distinct same member here]
    rfl
  otherMains := by
    intro index fields held
    rw [objects_eq, mainAt_addSections] at held
    by_cases mentioned : Mentions ini.sections index
    · rw [if_pos mentioned] at held
      cases found : lastFor ini.sections (index, none) with
      | some entry =>
          obtain ⟨listed, stored⟩ := lastFor_some found
          exact Or.inl ⟨entry, listed, (same entry listed).symm.trans stored⟩
      | none =>
          rw [found] at held
          obtain ⟨entry, listed, first⟩ := mentioned
          obtain ⟨⟨place, sub⟩, stored, rfl⟩ := Option.map_eq_some_iff.mp first
          cases sub with
          | none => exact absurd stored (lastFor_none found entry listed)
          | some sub =>
              exact Or.inr ⟨(Option.some.inj held).symm, entry, listed, sub,
                (same entry listed).symm.trans stored⟩
    · rw [if_neg mentioned] at held
      cases held
  otherSubs := by
    intro index sub object held
    rw [objects_eq, subAt_addSections] at held
    obtain ⟨entry, found, -⟩ := Option.map_eq_some_iff.mp held
    obtain ⟨listed, stored⟩ := lastFor_some found
    exact ⟨entry, listed, (same entry listed).symm.trans stored⟩

theorem readsAlike_of_holds (distinct : DistinctObjects ini)
    (holds : Holds table hexKey ini (objectDictionary table ini).objects) :
    SubIndexesReadAlike ini := by
  have climb (room : Nat) : ∀ entry ∈ ini.sections, ∀ found sub,
      matchName (pyStrip entry.1) = some found → found.sub = some sub → ¬ReadsAlike sub →
      256 ≤ digitsValue 16 sub + room → False := by
    induction room with
    | zero =>
        intro entry _ found sub matched has _ bound
        obtain ⟨-, few⟩ := matchName_sub matched has
        have below := digitsValue_lt sub
        have small : 16 ^ sub.length ≤ 16 ^ 2 := Nat.pow_le_pow_right (by decide) (by omega)
        omega
    | succ room ih =>
        intro entry member found sub matched has apart bound
        have here : hexKey entry.1 = some (digitsValue 16 found.index, some (digitsValue 16 sub)) := by
          unfold hexKey keyBy
          rw [matched, Option.map_some, has]
          rfl
        have held := holds.subs entry member _ _ here
        rw [objects_eq, subAt_addSections] at held
        obtain ⟨other, last, -⟩ := Option.map_eq_some_iff.mp held
        obtain ⟨listed, stored⟩ := lastFor_some last
        obtain ⟨name, matched', both⟩ := Option.map_eq_some_iff.mp stored
        obtain ⟨sub', has', read⟩ := Option.map_eq_some_iff.mp (Prod.mk.inj both).2
        obtain ⟨digits, few⟩ := matchName_sub matched' has'
        rcases readSub_cases digits few with ⟨alike, same⟩ | ⟨apart', less⟩
        · have there : hexKey other.1 =
              some (digitsValue 16 found.index, some (digitsValue 16 sub)) := by
            unfold hexKey keyBy
            rw [matched', Option.map_some, has', Option.map_some, ← same, read, (Prod.mk.inj both).1]
          have equal := distinct other listed entry member _ there here
          rw [equal, matched] at matched'
          cases matched'
          rw [has] at has'
          cases has'
          exact apart alike
        · exact ih other listed name sub' matched' has' apart' (by omega)
  intro entry member found sub matched has
  by_contra apart
  exact climb 256 entry member found sub matched has apart (Nat.le_add_left ..)

theorem hexKey_reordered {left right : Ini} (reordered : Reordered left right)
    (distinct : DistinctObjects left) : DistinctObjects right := by
  intro entry member other listed key here there
  exact distinct entry (reordered.sections.mem_iff.mpr member) other
    (reordered.sections.mem_iff.mpr listed) key here there

theorem get?_reordered {left right : Ini} (reordered : Reordered left right) (name : Text) :
    left.sections.get? name = right.sections.get? name := by
  apply Option.ext
  intro options
  constructor
  · intro found
    exact Dict.get?_of_mem right.distinct (reordered.sections.mem_iff.mp (Dict.mem_of_get? found))
  · intro found
    exact Dict.get?_of_mem left.distinct (reordered.sections.mem_iff.mpr (Dict.mem_of_get? found))

theorem option_reordered {left right : Ini} (reordered : Reordered left right) :
    option left = option right := by
  funext options key
  unfold option
  rw [reordered.defaults]

theorem sameDictionary_of_same {left right : Ini} (reordered : Reordered left right)
    (distinct : DistinctObjects left)
    (same : ∀ entry ∈ left.sections, storedKey entry.1 = hexKey entry.1) :
    SameDictionary (objectDictionary table left) (objectDictionary table right) := by
  have options := option_reordered reordered
  have same' : ∀ entry ∈ right.sections, storedKey entry.1 = hexKey entry.1 :=
    fun entry member => same entry (reordered.sections.mem_iff.mpr member)
  have distinct' := hexKey_reordered reordered distinct
  have last (key : ObjectKey) : lastFor left.sections key = lastFor right.sections key := by
    cases found : lastFor right.sections key with
    | some entry =>
        obtain ⟨listed, stored⟩ := lastFor_some found
        have member := reordered.sections.mem_iff.mpr listed
        exact lastFor_unique distinct same member ((same entry member).symm.trans stored)
    | none =>
        cases found' : lastFor left.sections key with
        | none => rfl
        | some entry =>
            obtain ⟨listed, stored⟩ := lastFor_some found'
            exact absurd stored
              (lastFor_none found entry (reordered.sections.mem_iff.mp listed))
  have mentions (index : Nat) : Mentions left.sections index ↔ Mentions right.sections index :=
    exists_congr fun entry => and_congr_left fun _ => reordered.sections.mem_iff
  refine ⟨?_, ?_, ?_, ?_, ?_⟩
  · unfold objectDictionary
    dsimp only
    rw [get?_reordered reordered, options]
  · unfold objectDictionary
    dsimp only
    rw [get?_reordered reordered, options]
  · unfold objectDictionary deviceInfo
    dsimp only
    rw [get?_reordered reordered, options]
  · intro index
    have fields : mainFields table left = mainFields table right := by
      funext index options'
      unfold mainFields
      rw [options]
    rw [objects_eq, objects_eq, mainAt_addSections, mainAt_addSections, last, fields]
    by_cases mentioned : Mentions left.sections index
    · rw [if_pos mentioned, if_pos ((mentions index).mp mentioned)]
    · rw [if_neg mentioned, if_neg (fun other => mentioned ((mentions index).mpr other))]
  · intro index sub
    have object : subObject table left = subObject table right := by
      funext index options'
      unfold subObject
      rw [options]
    rw [objects_eq, objects_eq, subAt_addSections, subAt_addSections, last, object]

/-- What the configuration parser reads in `[1018sub1]`. -/
def oneSection : Ini where
  defaults := []
  sections := [("1018sub1".toList, [])]
  distinct := by decide

/-- Sub-indexes ten and sixteen, in hexadecimal. -/
def twoSections : Ini where
  defaults := []
  sections := [("1018subA".toList, []), ("1018sub10".toList, [])]
  distinct := by decide

end Results

end Ucanlab.CanOpen
