import Ucanlab.Core.PyText
import Ucanlab.Uds.Firmware

/-!
The Motorola S-Record parser, and what the accepted lines leave behind: the chunks of
the data records, the last record count and the entry point of the termination record.
-/

namespace Ucanlab.Uds

open Ucanlab Placement

inductive SRecordError where
  | fileSize (length limit : Nat)
  | lineCount (count limit : Nat)
  | lineLength (line length limit : Nat)
  | startCode (line : Nat)
  | tooShort (line : Nat)
  | hexDigits (line : Nat) (cause : String)
  | byteCount (line declared actual : Nat)
  | checksum (line : Nat)
  | afterTermination (line : Nat)
  | addressCount (line : Nat) (type : Char) (count addressLength : Nat)
  | headerCount (line count : Nat)
  | countLength (line : Nat) (type : Char) (expected count : Nat)
  | duplicateTermination (line : Nat)
  | terminationLength (line : Nat) (type : Char) (expected count : Nat)
  | recordType (line : Nat) (type : Char)
  | countMismatch (declared actual : Nat)
  | noData
  | image (error : FirmwareError)
  deriving DecidableEq, Repr

structure SRecordState where
  rawChunks : Placement UInt8 := []
  entryPoint : Option Nat := none
  dataRecordCount : Nat := 0
  s5Count : Option Nat := none
  seenTermination : Bool := false
  deriving DecidableEq, Repr

namespace SRecord

structure SRecordLine where
  type : Char
  raw : Bytes
  deriving DecidableEq, Repr

def isData (type : Char) : Bool := type == '1' || type == '2' || type == '3'

def isCount (type : Char) : Bool := type == '5' || type == '6'

def isTermination (type : Char) : Bool := type == '7' || type == '8' || type == '9'

def addressLength (type : Char) : Nat :=
  if type = '3' ∨ type = '7' then 4
  else if type = '2' ∨ type = '8' ∨ type = '6' then 3
  else 2

def byteCount (raw : Bytes) : Nat := (raw.getD 0 0).toNat

def addressOf (record : SRecordLine) : Nat :=
  natFromBytes ((record.raw.drop 1).take (addressLength record.type))

def payload (record : SRecordLine) : Bytes :=
  (record.raw.drop (1 + addressLength record.type)).dropLast

def applyRecord (state : SRecordState) (line : Nat) (record : SRecordLine) :
    Except SRecordError SRecordState :=
  let type := record.type
  let count := byteCount record.raw
  if state.seenTermination ∧ ¬ isTermination type then .error (.afterTermination line)
  else if isData type then
    if count < addressLength type + 1 then
      .error (.addressCount line type count (addressLength type))
    else
      .ok { state with
        rawChunks := state.rawChunks ++ [(addressOf record, payload record)]
        dataRecordCount := state.dataRecordCount + 1 }
  else if type = '0' then
    if count < 3 then .error (.headerCount line count) else .ok state
  else if isCount type then
    if count ≠ addressLength type + 1 then
      .error (.countLength line type (addressLength type + 1) count)
    else .ok { state with s5Count := some (addressOf record) }
  else if isTermination type then
    if state.seenTermination then .error (.duplicateTermination line)
    else if count ≠ addressLength type + 1 then
      .error (.terminationLength line type (addressLength type + 1) count)
    else .ok { state with entryPoint := some (addressOf record), seenTermination := true }
  else .error (.recordType line type)

def parseRecord (state : SRecordState) (line : Nat) (record : SRecordLine) :
    Except SRecordError SRecordState :=
  if record.raw.length ≠ byteCount record.raw + 1 then
    .error (.byteCount line (byteCount record.raw) (record.raw.length - 1))
  else if (record.raw.map UInt8.toNat).sum % 256 ≠ 0xFF then .error (.checksum line)
  else applyRecord state line record

def parseLine (limits : FirmwareParseLimits) (state : SRecordState) (number : Nat)
    (rawLine : List Char) : Except SRecordError SRecordState :=
  match pyStrip rawLine with
  | [] => .ok state
  | first :: rest =>
      if rest.length + 1 > limits.maxLineChars then
        .error (.lineLength number (rest.length + 1) limits.maxLineChars)
      else if first ≠ 'S' then .error (.startCode number)
      else if rest.length < 3 then .error (.tooShort number)
      else
        match unhexlify (rest.drop 1) with
        | .error cause => .error (.hexDigits number cause.text)
        | .ok raw => parseRecord state number ⟨rest.headD ' ', raw⟩

def parseLines (limits : FirmwareParseLimits) :
    SRecordState → Nat → List (List Char) → Except SRecordError SRecordState
  | state, _, [] => .ok state
  | state, number, line :: rest =>
      match parseLine limits state number line with
      | .error e => .error e
      | .ok next => parseLines limits next (number + 1) rest

/-- What is checked behind the last line. -/
def finish (limits : FirmwareParseLimits) (state : SRecordState) :
    Except SRecordError FirmwareContainer :=
  match state.s5Count with
  | some declared =>
      if declared ≠ state.dataRecordCount then
        .error (.countMismatch declared state.dataRecordCount)
      else build
  | none => build
where
  build : Except SRecordError FirmwareContainer :=
    if state.rawChunks = [] ∧ state.entryPoint = none then .error .noData
    else
      match mergeAndValidateChunks state.rawChunks limits with
      | .error e => .error (.image e)
      | .ok segments => .ok ⟨segments, state.entryPoint, "s_record"⟩

def parseString (content : List Char) (limits : FirmwareParseLimits) :
    Except SRecordError FirmwareContainer :=
  if content.length > limits.maxFileBytes then
    .error (.fileSize content.length limits.maxFileBytes)
  else
    let lines := pySplitLines content
    if lines.length > limits.maxLines then .error (.lineCount lines.length limits.maxLines)
    else
      match parseLines limits {} 1 lines with
      | .error e => .error e
      | .ok state => finish limits state

def recordOf (rawLine : List Char) : Option SRecordLine :=
  match pyStrip rawLine with
  | [] => none
  | _ :: rest => (unhexlify (rest.drop 1)).toOption.map (fun raw => ⟨rest.headD ' ', raw⟩)

def recordsOf (lines : List (List Char)) : List SRecordLine := lines.filterMap recordOf

def dataChunks (records : List SRecordLine) : Placement UInt8 :=
  (records.filter (fun record => isData record.type)).map
    (fun record => (addressOf record, payload record))

def lastCount (records : List SRecordLine) : Option Nat :=
  ((records.filter (fun record => isCount record.type)).getLast?).map addressOf

section Lines

variable {state next last : SRecordState} {line number : Nat} {record : SRecordLine}
  {limits : FirmwareParseLimits} {rawLine : List Char} {lines : List (List Char)}

structure Applies (state : SRecordState) (records : List SRecordLine) (next : SRecordState) :
    Prop where
  chunks : next.rawChunks = state.rawChunks ++ dataChunks records
  counted : next.dataRecordCount = state.dataRecordCount + (dataChunks records).length
  declared : next.s5Count = (lastCount records).or state.s5Count
  terminated : next.seenTermination =
    (state.seenTermination || records.any (fun record => isTermination record.type))
  entry : records.any (fun record => isTermination record.type) = false →
    next.entryPoint = state.entryPoint

theorem Applies.refl (state : SRecordState) : Applies state [] state where
  chunks := (List.append_nil _).symm
  counted := rfl
  declared := rfl
  terminated := (Bool.or_false _).symm
  entry := fun _ => rfl

theorem lastCount_append (front back : List SRecordLine) :
    lastCount (front ++ back) = (lastCount back).or (lastCount front) := by
  unfold lastCount
  rw [List.filter_append, List.getLast?_append]
  cases (back.filter (fun record => isCount record.type)).getLast? with
  | none => rfl
  | some record => rfl

theorem dataChunks_append (front back : List SRecordLine) :
    dataChunks (front ++ back) = dataChunks front ++ dataChunks back := by
  unfold dataChunks
  rw [List.filter_append, List.map_append]

theorem Applies.trans {front back : List SRecordLine} (first : Applies state front next)
    (second : Applies next back last) : Applies state (front ++ back) last := by
  constructor
  case chunks => rw [second.chunks, first.chunks, dataChunks_append, List.append_assoc]
  case counted =>
    rw [second.counted, first.counted, dataChunks_append, List.length_append, Nat.add_assoc]
  case declared => rw [second.declared, first.declared, lastCount_append, Option.or_assoc]
  case terminated => rw [second.terminated, first.terminated, List.any_append, Bool.or_assoc]
  case entry =>
    intro none
    rw [List.any_append, Bool.or_eq_false_iff] at none
    rw [second.entry none.2, first.entry none.1]

/-- The types are told apart by the character alone. -/
theorem applyRecord_ok (ok : applyRecord state line record = .ok next) :
    Applies state [record] next := by
  unfold applyRecord at ok
  dsimp only at ok
  split at ok
  · cases ok
  · split at ok
    · rename_i data
      split at ok
      · cases ok
      · cases ok
        have others : isCount record.type = false ∧ isTermination record.type = false := by
          simp only [isData, isCount, isTermination, Bool.or_eq_true, beq_iff_eq] at data ⊢
          rcases data with (one | two) | three
          · rw [one]
            decide
          · rw [two]
            decide
          · rw [three]
            decide
        constructor <;> simp [dataChunks, lastCount, data, others]
    · rename_i notData
      split at ok
      · rename_i header
        split at ok
        · cases ok
        · cases ok
          have others : isCount '0' = false ∧ isTermination '0' = false ∧ isData '0' = false := by
            decide
          constructor <;> simp [dataChunks, lastCount, header, others]
      · split at ok
        · rename_i count
          split at ok
          · cases ok
          · cases ok
            have other : isTermination record.type = false := by
              simp only [isCount, isTermination, Bool.or_eq_true, beq_iff_eq] at count ⊢
              rcases count with five | six
              · rw [five]
                decide
              · rw [six]
                decide
            constructor <;> simp [dataChunks, lastCount, notData, count, other]
        · rename_i notCount
          split at ok
          · rename_i termination
            split at ok
            · cases ok
            · split at ok
              · cases ok
              · cases ok
                constructor <;> simp [dataChunks, lastCount, notData, notCount, termination]
          · cases ok

theorem parseRecord_ok (ok : parseRecord state line record = .ok next) :
    Applies state [record] next := by
  unfold parseRecord at ok
  split at ok
  · cases ok
  · split at ok
    · cases ok
    · exact applyRecord_ok ok

theorem parseLine_ok (ok : parseLine limits state number rawLine = .ok next) :
    Applies state (recordOf rawLine).toList next := by
  unfold parseLine at ok
  unfold recordOf
  split at ok
  · cases ok
    exact Applies.refl state
  · split at ok
    · cases ok
    · split at ok
      · cases ok
      · split at ok
        · cases ok
        · split at ok
          · cases ok
          · rename_i raw decoded
            rw [decoded]
            exact parseRecord_ok ok

theorem parseLines_ok (ok : parseLines limits state number lines = .ok last) :
    Applies state (recordsOf lines) last := by
  induction lines generalizing state number with
  | nil =>
      cases ok
      exact Applies.refl _
  | cons rawLine rest ih =>
      unfold parseLines at ok
      split at ok
      · cases ok
      · rename_i next parsed
        have joined := (parseLine_ok parsed).trans (ih ok)
        have split : recordsOf (rawLine :: rest) = (recordOf rawLine).toList ++ recordsOf rest := by
          unfold recordsOf
          rw [List.filterMap_cons]
          cases recordOf rawLine with
          | none => rfl
          | some record => rfl
        rw [split]
        exact joined

theorem parseLines_append {front back : List (List Char)}
    (ok : parseLines limits state number (front ++ back) = .ok last) :
    ∃ middle, parseLines limits state number front = .ok middle := by
  induction front generalizing state number with
  | nil => exact ⟨_, rfl⟩
  | cons rawLine rest ih =>
      rw [List.cons_append] at ok
      unfold parseLines at ok ⊢
      split at ok
      · cases ok
      · exact ih ok

end Lines

end SRecord

end Ucanlab.Uds
