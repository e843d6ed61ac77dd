import Mathlib.Data.List.Basic
import Mathlib.Tactic.IntervalCases

/-!
The canonical CAN frame. A frame is the argument record of its constructor
together with the proof that the constructor's checks passed, so every value
of `CanFrame` is one the constructor accepts. Timestamps and sequence numbers
are left out: nothing below reads them.
-/

namespace Ucanlab

abbrev Bytes := List UInt8

instance lawfulBytes : LawfulBEq Bytes := inferInstance

inductive Direction where
  | rx
  | tx
  deriving DecidableEq, Repr

inductive ErrorState where
  | active
  | passive
  | busOff
  deriving DecidableEq, Repr

inductive FrameSource where
  | physical
  | replay
  | virtual
  | injected
  | synthetic
  deriving DecidableEq, Repr

def dlcToLengthTable : List Nat :=
  [0, 1, 2, 3, 4, 5, 6, 7, 8, 12, 16, 20, 24, 32, 48, 64]

/-- The smallest code whose capacity holds the length, for lengths 0 to 64. -/
def lengthToDlcTable : List Nat :=
  [0, 1, 2, 3, 4, 5, 6, 7, 8] ++ List.replicate 4 9 ++ List.replicate 4 10 ++
    List.replicate 4 11 ++ List.replicate 4 12 ++ List.replicate 8 13 ++
    List.replicate 16 14 ++ List.replicate 16 15

/-- Every way the frame constructor and its helpers raise `ValueError`. -/
inductive FrameError where
  | channelId
  | dlcRange (dlc : Nat)
  | arbitrationId (arbitrationId maxId : Nat)
  | classicDlc (dlc : Nat)
  | fdOnlyFlags
  | fdLength (length capacity : Nat)
  | exactLength (length expected : Nat)
  | lengthRange (length : Nat)
  | exceedsDlc (length capacity : Nat)
  | padByte
  | classicPayload (length : Nat)
  deriving DecidableEq, Repr

def dlcToLength (dlc : Nat) : Except FrameError Nat :=
  match dlcToLengthTable[dlc]? with
  | some length => .ok length
  | none => .error (.dlcRange dlc)

def lengthToDlc (length : Nat) : Except FrameError Nat :=
  match lengthToDlcTable[length]? with
  | some dlc => .ok dlc
  | none => .error (.lengthRange length)

/-- The padding byte is an `int` in the source and is checked on every call,
also when no padding is needed. -/
def padPayload (data : Bytes) (dlc : Nat) (padByte : Int) : Except FrameError Bytes :=
  if ¬ (0 ≤ padByte ∧ padByte ≤ 0xFF) then .error .padByte
  else
    match dlcToLength dlc with
    | .error e => .error e
    | .ok expected =>
        if data.length > expected then .error (.exceedsDlc data.length expected)
        else .ok (data ++
          List.replicate (expected - data.length) (UInt8.ofNat padByte.toNat))

structure FrameFields where
  channelId : String
  arbitrationId : Nat
  dlc : Nat
  data : Bytes
  isExtended : Bool := false
  isFd : Bool := false
  brs : Bool := false
  esi : Bool := false
  direction : Direction := .rx
  errorState : ErrorState := .active
  source : FrameSource := .physical
  deriving DecidableEq, Repr

def channelIdChar (c : Char) : Bool :=
  c.isAlphanum || c == '_' || c == ':' || c == '-'

def validChannelId (channelId : String) : Bool :=
  let chars := channelId.toList
  decide (1 ≤ chars.length) && decide (chars.length ≤ 64) && chars.all channelIdChar

def maxId (isExtended : Bool) : Nat := if isExtended then 0x1FFFFFFF else 0x7FF

/-- The checks of `__post_init__` in its order; `none` when all of them pass. -/
def FrameFields.postInit (f : FrameFields) : Option FrameError :=
  if ¬ validChannelId f.channelId then some .channelId
  else if ¬ f.dlc ≤ 15 then some (.dlcRange f.dlc)
  else if ¬ f.arbitrationId ≤ maxId f.isExtended then
    some (.arbitrationId f.arbitrationId (maxId f.isExtended))
  else if ¬ f.isFd ∧ f.dlc > 8 then some (.classicDlc f.dlc)
  else if ¬ f.isFd ∧ (f.brs ∨ f.esi) then some .fdOnlyFlags
  else
    let expected := dlcToLengthTable.getD f.dlc 0
    if f.isFd ∧ f.dlc ≥ 9 then
      if ¬ (0 < f.data.length ∧ f.data.length ≤ expected) then
        some (.fdLength f.data.length expected)
      else none
    else if f.data.length ≠ expected then some (.exactLength f.data.length expected)
    else none

structure CanFrame extends FrameFields where
  valid : toFrameFields.postInit = none
  deriving DecidableEq

/-- The dataclass constructor. -/
def CanFrame.new (f : FrameFields) : Except FrameError CanFrame :=
  match h : f.postInit with
  | none => .ok { toFrameFields := f, valid := h }
  | some e => .error e

/-- `CanFrame.create`: without an explicit code the smallest one that carries
the payload is used. -/
def CanFrame.create (f : FrameFields) (dlc : Option Nat) : Except FrameError CanFrame :=
  if ¬ f.isFd ∧ f.data.length > 8 then .error (.classicPayload f.data.length)
  else
    match dlc with
    | some code => CanFrame.new { f with dlc := code }
    | none =>
        match lengthToDlc f.data.length with
        | .error e => .error e
        | .ok code => CanFrame.new { f with dlc := code }

theorem CanFrame.new_of_valid (f : FrameFields) (valid : f.postInit = none) :
    CanFrame.new f = .ok { toFrameFields := f, valid := valid } := by
  unfold CanFrame.new
  split
  · rfl
  · rename_i e failed
    rw [valid] at failed
    cases failed

theorem CanFrame.new_fields {f : FrameFields} {frame : CanFrame}
    (built : CanFrame.new f = .ok frame) : frame.toFrameFields = f := by
  unfold CanFrame.new at built
  split at built
  · cases built
    rfl
  · cases built

theorem padPayload_eq {data : Bytes} {dlc expected : Nat} {padByte : Int}
    (capacity : dlcToLengthTable[dlc]? = some expected)
    (fits : data.length ≤ expected) (byte : 0 ≤ padByte ∧ padByte ≤ 0xFF) :
    padPayload data dlc padByte =
      .ok (data ++ List.replicate (expected - data.length) (UInt8.ofNat padByte.toNat)) := by
  have notOver : ¬ data.length > expected := by omega
  simp only [padPayload, not_true_eq_false, byte, if_false, dlcToLength, capacity,
    if_neg notOver, and_self]

/-- The chosen code has room for the payload. -/
theorem lengthToDlc_covers (length : Nat) (bounded : length ≤ 64) :
    ∃ dlc capacity, lengthToDlc length = .ok dlc ∧
      dlcToLengthTable[dlc]? = some capacity ∧ length ≤ capacity := by
  have every : ∀ n : Fin 65, ∃ dlc : Fin 16, lengthToDlcTable[n.val]? = some dlc.val ∧
      n.val ≤ dlcToLengthTable.getD dlc.val 0 := by decide
  obtain ⟨dlc, code, fits⟩ := every ⟨length, by omega⟩
  refine ⟨dlc.val, dlcToLengthTable.getD dlc.val 0, ?_, ?_, fits⟩
  · simp only [lengthToDlc, code]
  · rw [List.getD_eq_getElem?_getD, List.getElem?_eq_getElem (show _ < 16 from dlc.isLt)]
    rfl

/-- What the constructor's checks amount to. -/
structure FrameFields.WellFormed (f : FrameFields) : Prop where
  channelId : validChannelId f.channelId = true
  dlc : f.dlc ≤ 15
  arbitrationId : f.arbitrationId ≤ maxId f.isExtended
  classicDlc : f.isFd = false → f.dlc ≤ 8
  classicFlags : f.isFd = false → f.brs = false ∧ f.esi = false
  fdLength : f.isFd = true → 9 ≤ f.dlc →
    0 < f.data.length ∧ f.data.length ≤ dlcToLengthTable.getD f.dlc 0
  exactLength : ¬ (f.isFd = true ∧ 9 ≤ f.dlc) →
    f.data.length = dlcToLengthTable.getD f.dlc 0

theorem check_eq_none_iff {Error : Type} {condition : Prop} [Decidable condition] {error : Error}
    {rest : Option Error} :
    (if condition then some error else rest) = none ↔ ¬ condition ∧ rest = none := by
  by_cases holds : condition
  · rw [if_pos holds]
    exact ⟨nofun, fun both => absurd holds both.1⟩
  · rw [if_neg holds]
    exact ⟨fun passed => ⟨holds, passed⟩, And.right⟩

theorem FrameFields.postInit_eq_none_iff (f : FrameFields) :
    f.postInit = none ↔ f.WellFormed := by
  unfold FrameFields.postInit
  rw [check_eq_none_iff, check_eq_none_iff, check_eq_none_iff, check_eq_none_iff,
    check_eq_none_iff, not_not, not_not, not_not]
  dsimp only
  constructor
  · intro passed
    obtain ⟨channelId, dlc, arbitrationId, classicDlc, classicFlags, lengths⟩ := passed
    constructor
    case channelId => exact channelId
    case dlc => exact dlc
    case arbitrationId => exact arbitrationId
    case classicDlc =>
      intro classic
      rw [classic] at classicDlc
      exact Nat.le_of_not_lt (fun long => classicDlc ⟨Bool.false_ne_true, long⟩)
    case classicFlags =>
      intro classic
      rw [classic] at classicFlags
      simpa using classicFlags
    case fdLength =>
      intro fd long
      rw [if_pos ⟨fd, long⟩, check_eq_none_iff, not_not] at lengths
      exact lengths.1
    case exactLength =>
      intro short
      rw [if_neg short, check_eq_none_iff, ne_eq, not_not] at lengths
      exact lengths.1
  · intro formed
    obtain ⟨channelId, dlc, arbitrationId, classicDlc, classicFlags, fdLength, exactLength⟩ := formed
    refine ⟨channelId, dlc, arbitrationId, ?_, ?_, ?_⟩
    · intro long
      have short := classicDlc (Bool.not_eq_true _ ▸ long.1)
      omega
    · intro flags
      have clear := classicFlags (Bool.not_eq_true _ ▸ flags.1)
      rw [clear.1, clear.2] at flags
      simp at flags
    · by_cases long : f.isFd = true ∧ 9 ≤ f.dlc
      · rw [if_pos long, if_neg (not_not_intro (fdLength long.1 long.2))]
      · rw [if_neg long, if_neg (not_not_intro (exactLength long))]

/-- An identifier beyond eleven bits makes the frame an extended one. -/
theorem arbitrationId_le_maxId {arbitrationId : Nat} (inRange : arbitrationId ≤ 0x1FFFFFFF) :
    arbitrationId ≤ maxId (decide (arbitrationId > 0x7FF)) := by
  by_cases extended : arbitrationId > 0x7FF
  · simpa only [maxId, extended, decide_true, if_true] using inRange
  · simp only [maxId, extended, decide_false, Bool.false_eq_true, if_false]
    omega

section EightBytes

variable {channelId : String} {arbitrationId : Nat} {data : Bytes} (isFd : Bool)
  (channel : validChannelId channelId = true) (inRange : arbitrationId ≤ 0x1FFFFFFF)
  (eight : data.length = 8)

include channel inRange eight

theorem FrameFields.eight_valid : FrameFields.postInit {
    channelId := channelId
    arbitrationId := arbitrationId
    dlc := 8
    data := data
    isExtended := decide (arbitrationId > 0x7FF)
    isFd := isFd
    direction := .tx } = none := by
  refine (FrameFields.postInit_eq_none_iff _).mpr ?_
  exact {
    channelId := channel
    dlc := Nat.le_of_ble_eq_true rfl
    arbitrationId := arbitrationId_le_maxId inRange
    classicDlc := fun _ => Nat.le_refl 8
    classicFlags := fun _ => ⟨rfl, rfl⟩
    fdLength := fun _ beyond => absurd beyond (show ¬ 9 ≤ 8 by decide)
    exactLength := fun _ => eight }

theorem CanFrame.create_eight : CanFrame.create {
    channelId := channelId
    arbitrationId := arbitrationId
    dlc := 0
    data := data
    isExtended := decide (arbitrationId > 0x7FF)
    isFd := isFd
    direction := .tx } none =
      .ok ⟨_, FrameFields.eight_valid isFd channel inRange eight⟩ := by
  unfold CanFrame.create
  rw [if_neg (by dsimp only; omega)]
  dsimp only
  rw [eight]
  exact CanFrame.new_of_valid _ (FrameFields.eight_valid isFd channel inRange eight)

end EightBytes

theorem CanFrame.wellFormed (frame : CanFrame) : frame.toFrameFields.WellFormed :=
  (FrameFields.postInit_eq_none_iff _).mp frame.valid

theorem dlcToLengthTable_getD_le (dlc : Nat) (small : dlc ≤ 15) :
    dlcToLengthTable.getD dlc 0 ≤ 64 ∧ (dlc ≤ 8 → dlcToLengthTable.getD dlc 0 ≤ 8) := by
  interval_cases dlc <;> decide

theorem CanFrame.data_length_le (frame : CanFrame) :
    frame.data.length ≤ if frame.isFd then 64 else 8 := by
  obtain ⟨_, dlc, _, classicDlc, _, fdLength, exactLength⟩ := frame.wellFormed
  have capacity := dlcToLengthTable_getD_le frame.dlc dlc
  cases fd : frame.isFd with
  | false =>
      have exact := exactLength (by simp [fd])
      have classic := capacity.2 (classicDlc fd)
      simp only [Bool.false_eq_true, if_false]
      omega
  | true =>
      simp only [if_true]
      by_cases long : 9 ≤ frame.dlc
      · have bounded := (fdLength fd long).2
        omega
      · have exact := exactLength (fun both => long both.2)
        omega

end Ucanlab

/-!
A frame with the fields the recorders keep beside it: the timestamps and the sequence
number, which the constructor does not check.
-/

namespace Ucanlab

structure RecordedFrame where
  frame : CanFrame
  timestampNs : Int
  hardwareTimestampNs : Option Int := none
  hostTimestampNs : Option Int := none
  sequence : Int := 0
  deriving DecidableEq

theorem FrameFields.WellFormed.relabel {f : FrameFields} (formed : f.WellFormed)
    {channelId : String} (channel : validChannelId channelId = true) (direction : Direction)
    (errorState : ErrorState) (source : FrameSource) :
    ({ f with
      channelId := channelId
      direction := direction
      errorState := errorState
      source := source } : FrameFields).WellFormed :=
  ⟨channel, formed.dlc, formed.arbitrationId, formed.classicDlc, formed.classicFlags,
    formed.fdLength, formed.exactLength⟩

end Ucanlab
