import Ucanlab.Core.PyText
import Ucanlab.Uds.Firmware

/-!
The Intel HEX parser, and what a text it accepts says: the records of the text,
the base address each of them is read under, and the image they declare.
-/

namespace Ucanlab.Uds

open Ucanlab Placement

structure IntelHexState where
  upperAddress : Nat
  rawChunks : Placement UInt8
  entryPoint : Option Nat
  seenEof : Bool
  deriving DecidableEq, Repr

namespace IntelHex

def start : IntelHexState where
  upperAddress := 0
  rawChunks := []
  entryPoint := none
  seenEof := false

/-- The byte at a place of a record; the parser reads only places it checked. -/
def byteAt (raw : Bytes) (index : Nat) : Nat := (raw.getD index 0).toNat

def declaredLength (raw : Bytes) : Nat := byteAt raw 0

def addressOffset (raw : Bytes) : Nat := byteAt raw 1 * 256 + byteAt raw 2

def recordType (raw : Bytes) : Nat := byteAt raw 3

def payload (raw : Bytes) : Bytes := (raw.drop 4).take (declaredLength raw)

def byteSum (raw : Bytes) : Nat := (raw.map UInt8.toNat).sum

def applyRecord (state : IntelHexState) (line : Nat) (raw : Bytes) :
    Except FirmwareError IntelHexState :=
  let length := declaredLength raw
  let data := payload raw
  match recordType raw with
  | 0 =>
      if state.seenEof then .error (.dataAfterEof line)
      else
        .ok { state with
          rawChunks := state.rawChunks ++ [(state.upperAddress + addressOffset raw, data)] }
  | 1 =>
      if length ≠ 0 then .error (.eofLength line length)
      else if state.seenEof then .error (.duplicateEof line)
      else .ok { state with seenEof := true }
  | 2 =>
      if state.seenEof then .error (.recordAfterEof line)
      else if length ≠ 2 then .error (.segmentLength line)
      else .ok { state with upperAddress := (byteAt data 0 * 256 + byteAt data 1) * 16 }
  | 4 =>
      if state.seenEof then .error (.recordAfterEof line)
      else if length ≠ 2 then .error (.linearLength line)
      else .ok { state with upperAddress := (byteAt data 0 * 256 + byteAt data 1) * 65536 }
  | 5 =>
      if state.seenEof then .error (.recordAfterEof line)
      else if length ≠ 4 then .error (.startLength line length)
      else .ok { state with entryPoint := some (natFromBytes data) }
  | type => .error (.recordType line type)

def parseRecord (state : IntelHexState) (line : Nat) (raw : Bytes) :
    Except FirmwareError IntelHexState :=
  if raw.length < 5 then .error (.tooShort line)
  else if byteSum raw % 256 ≠ 0 then .error (.checksum line)
  else if (payload raw).length ≠ declaredLength raw then
    .error (.payloadLength line (declaredLength raw) (payload raw).length)
  else applyRecord state line raw

def parseLine (limits : FirmwareParseLimits) (state : IntelHexState) (number : Nat)
    (rawLine : List Char) : Except FirmwareError IntelHexState :=
  match pyStrip rawLine with
  | [] => .ok state
  | first :: digits =>
      if digits.length + 1 > limits.maxLineChars then
        .error (.lineLength number (digits.length + 1) limits.maxLineChars)
      else if first ≠ ':' then .error (.startCode number)
      else
        match unhexlify digits with
        | .error cause => .error (.hexDigits number cause.text)
        | .ok raw => parseRecord state number raw

def parseLines (limits : FirmwareParseLimits) :
    IntelHexState → Nat → List (List Char) → Except FirmwareError IntelHexState
  | state, _, [] => .ok state
  | state, number, line :: rest =>
      match parseLine limits state number line with
      | .error e => .error e
      | .ok next => parseLines limits next (number + 1) rest

def parseString (content : List Char) (limits : FirmwareParseLimits) :
    Except FirmwareError FirmwareContainer :=
  if content.length > limits.maxFileBytes then
    .error (.fileSize content.length limits.maxFileBytes)
  else
    let lines := pySplitLines content
    if lines.length > limits.maxLines then .error (.lineCount lines.length limits.maxLines)
    else
      match parseLines limits start 1 lines with
      | .error e => .error e
      | .ok state =>
          if ¬ state.seenEof then .error .missingEof
          else if state.rawChunks = [] then .error .noData
          else
            match mergeAndValidateChunks state.rawChunks limits with
            | .error e => .error e
            | .ok segments => .ok ⟨segments, state.entryPoint, "intel_hex"⟩

def recordOf (rawLine : List Char) : Option Bytes :=
  match pyStrip rawLine with
  | [] => none
  | _ :: digits => (unhexlify digits).toOption

def recordsOf (content : List Char) : List Bytes := (pySplitLines content).filterMap recordOf

def nextBase (base : Nat) (raw : Bytes) : Nat :=
  match recordType raw with
  | 2 => (byteAt raw 4 * 256 + byteAt raw 5) * 16
  | 4 => (byteAt raw 4 * 256 + byteAt raw 5) * 65536
  | _ => base

def baseAfter (records : List Bytes) : Nat := records.foldl nextBase 0

/-- A data record of the list declares this byte for this address: its payload lies
between the type and the checksum, which is the last byte. -/
def Declares (records : List Bytes) (address : Nat) (value : UInt8) : Prop :=
  ∃ front raw back index, records = front ++ raw :: back ∧ recordType raw = 0 ∧
    index < declaredLength raw ∧ 4 + index < raw.length - 1 ∧
    address = baseAfter front + addressOffset raw + index ∧ raw[4 + index]? = some value

def typeLengthOk (raw : Bytes) : Bool :=
  match recordType raw with
  | 0 => true
  | 1 => declaredLength raw == 0
  | 2 => declaredLength raw == 2
  | 4 => declaredLength raw == 2
  | 5 => declaredLength raw == 4
  | _ => false

def Decodes (rawLine : List Char) : Prop :=
  pyStrip rawLine = [] ∨
    ∃ digits raw, pyStrip rawLine = ':' :: digits ∧ unhexlify digits = .ok raw

structure Grammar (content : List Char) (container : FirmwareContainer) : Prop where
  decoded : ∀ rawLine ∈ pySplitLines content, Decodes rawLine
  exact : ∀ raw ∈ recordsOf content, raw.length = declaredLength raw + 5
  checksum : ∀ raw ∈ recordsOf content, byteSum raw % 256 = 0
  typed : ∀ raw ∈ recordsOf content, typeLengthOk raw = true
  image : ∀ address value, container.image.read address = some value ↔
    Declares (recordsOf content) address value

/-- The characters of a line that is not blank: a colon, two for each byte, five
bytes more than the two digits behind the colon say. -/
def exactLine (rawLine : List Char) : Bool :=
  match pyStrip rawLine with
  | [] => true
  | _ :: digits =>
      match digits with
      | high :: low :: _ =>
          digits.length == 2 * (16 * (hexDigit high).getD 0 + (hexDigit low).getD 0 + 5)
      | _ => false

section Records

variable {state next last : IntelHexState} {line number base address index : Nat} {raw : Bytes}
  {records : List Bytes} {value : UInt8} {limits : FirmwareParseLimits} {rawLine : List Char}
  {lines : List (List Char)}

theorem payload_getElem? (raw : Bytes) (index : Nat) :
    (payload raw)[index]? = if index < declaredLength raw then raw[4 + index]? else none := by
  unfold payload
  rw [List.getElem?_take]
  split
  · rw [List.getElem?_drop]
  · rfl

theorem byteAt_payload (inside : index < declaredLength raw) :
    byteAt (payload raw) index = byteAt raw (4 + index) := by
  unfold byteAt
  rw [List.getD_eq_getElem?_getD, List.getD_eq_getElem?_getD, payload_getElem?, if_pos inside]

def recordChunks (base : Nat) (raw : Bytes) : Placement UInt8 :=
  if recordType raw = 0 then [(base + addressOffset raw, payload raw)] else []

structure Applies (state : IntelHexState) (raw : Bytes) (next : IntelHexState) : Prop where
  base : next.upperAddress = nextBase state.upperAddress raw
  chunks : next.rawChunks = state.rawChunks ++ recordChunks state.upperAddress raw
  typed : typeLengthOk raw = true

theorem applyRecord_ok (ok : applyRecord state line raw = .ok next) : Applies state raw next := by
  unfold applyRecord at ok
  dsimp only at ok
  split at ok
  · rename_i data
    split at ok
    · cases ok
    · cases ok
      exact ⟨by simp [nextBase, data], by simp [recordChunks, data], by simp [typeLengthOk, data]⟩
  · rename_i eof
    split at ok
    · cases ok
    · rename_i bare
      split at ok
      · cases ok
      · cases ok
        exact ⟨by simp [nextBase, eof], by simp [recordChunks, eof],
          by simp [typeLengthOk, eof, not_not.mp bare]⟩
  · rename_i segment
    split at ok
    · cases ok
    · split at ok
      · cases ok
      · rename_i two
        have length := not_not.mp two
        cases ok
        refine ⟨?_, by simp [recordChunks, segment], by simp [typeLengthOk, segment, length]⟩
        dsimp only
        rw [byteAt_payload (by omega), byteAt_payload (by omega)]
        simp [nextBase, segment]
  · rename_i linear
    split at ok
    · cases ok
    · split at ok
      · cases ok
      · rename_i two
        have length := not_not.mp two
        cases ok
        refine ⟨?_, by simp [recordChunks, linear], by simp [typeLengthOk, linear, length]⟩
        dsimp only
        rw [byteAt_payload (by omega), byteAt_payload (by omega)]
        simp [nextBase, linear]
  · rename_i entry
    split at ok
    · cases ok
    · split at ok
      · cases ok
      · rename_i four
        cases ok
        exact ⟨by simp [nextBase, entry], by simp [recordChunks, entry],
          by simp [typeLengthOk, entry, not_not.mp four]⟩
  · cases ok

structure Accepted (raw : Bytes) : Prop where
  long : 5 ≤ raw.length
  checksum : byteSum raw % 256 = 0
  typed : typeLengthOk raw = true

theorem parseRecord_ok (ok : parseRecord state line raw = .ok next) :
    Accepted raw ∧ Applies state raw next := by
  unfold parseRecord at ok
  split at ok
  · cases ok
  · rename_i long
    split at ok
    · cases ok
    · rename_i checked
      split at ok
      · cases ok
      · have applied := applyRecord_ok ok
        exact ⟨⟨by omega, not_not.mp checked, applied.typed⟩, applied⟩

theorem parseLine_ok (ok : parseLine limits state number rawLine = .ok next) :
    Decodes rawLine ∧
      ((recordOf rawLine = none ∧ pyStrip rawLine = [] ∧ next = state) ∨
        ∃ raw, recordOf rawLine = some raw ∧ Accepted raw ∧ Applies state raw next) := by
  unfold parseLine at ok
  split at ok
  · rename_i blank
    cases ok
    refine ⟨Or.inl blank, Or.inl ⟨?_, blank, rfl⟩⟩
    unfold recordOf
    rw [blank]
  · rename_i first digits stripped
    split at ok
    · cases ok
    · split at ok
      · cases ok
      · rename_i colon
        split at ok
        · cases ok
        · rename_i raw decoded
          have start := not_not.mp colon
          rw [start] at stripped
          refine ⟨Or.inr ⟨digits, raw, stripped, decoded⟩,
            Or.inr ⟨raw, ?_, parseRecord_ok ok⟩⟩
          unfold recordOf
          rw [stripped]
          dsimp only
          rw [decoded]
          rfl

def chunksFrom : Nat → List Bytes → Placement UInt8
  | _, [] => []
  | base, raw :: rest => recordChunks base raw ++ chunksFrom (nextBase base raw) rest

theorem parseLines_ok (ok : parseLines limits state number lines = .ok last) :
    (∀ rawLine ∈ lines, Decodes rawLine) ∧
      (∀ raw ∈ lines.filterMap recordOf, Accepted raw) ∧
      last.rawChunks =
        state.rawChunks ++ chunksFrom state.upperAddress (lines.filterMap recordOf) := by
  induction lines generalizing state number with
  | nil =>
      cases ok
      refine ⟨fun _ member => absurd member List.not_mem_nil,
        fun _ member => absurd member List.not_mem_nil, ?_⟩
      simp [chunksFrom]
  | cons rawLine rest ih =>
      unfold parseLines at ok
      split at ok
      · cases ok
      · rename_i next parsed
        obtain ⟨decodes, records⟩ := parseLine_ok parsed
        obtain ⟨tailDecodes, tailAccepted, chunks⟩ := ih ok
        refine ⟨?_, ?_⟩
        · intro other member
          rcases List.mem_cons.mp member with same | later
          · rw [same]
            exact decodes
          · exact tailDecodes other later
        · rcases records with ⟨blank, _, same⟩ | ⟨raw, record, accepted, applied⟩
          · rw [List.filterMap_cons_none blank, chunks, same]
            exact ⟨tailAccepted, rfl⟩
          · rw [List.filterMap_cons_some record]
            refine ⟨?_, ?_⟩
            · intro other member
              rcases List.mem_cons.mp member with same | later
              · rw [same]
                exact accepted
              · exact tailAccepted other later
            · rw [chunks, applied.base, applied.chunks, List.append_assoc]
              rfl

theorem places_append {chunks others : Placement UInt8} :
    Places (chunks ++ others) address value ↔
      Places chunks address value ∨ Places others address value := by
  unfold Places
  constructor
  · rintro ⟨chunk, member, placed⟩
    rcases List.mem_append.mp member with left | right
    · exact Or.inl ⟨chunk, left, placed⟩
    · exact Or.inr ⟨chunk, right, placed⟩
  · rintro (⟨chunk, member, placed⟩ | ⟨chunk, member, placed⟩)
    · exact ⟨chunk, List.mem_append_left others member, placed⟩
    · exact ⟨chunk, List.mem_append_right chunks member, placed⟩

theorem places_recordChunks :
    Places (recordChunks base raw) address value ↔ recordType raw = 0 ∧ ∃ index,
      index < declaredLength raw ∧ address = base + addressOffset raw + index ∧
        raw[4 + index]? = some value := by
  unfold recordChunks
  split
  · rename_i data
    rw [places_cons]
    constructor
    · rintro (⟨index, same, found⟩ | nothing)
      · rw [payload_getElem?] at found
        split at found
        · rename_i inside
          exact ⟨data, index, inside, same, found⟩
        · cases found
      · exact absurd nothing not_places_nil
    · rintro ⟨-, index, inside, same, found⟩
      refine Or.inl ⟨index, same, ?_⟩
      rw [payload_getElem?, if_pos inside]
      exact found
  · rename_i other
    exact ⟨fun placed => absurd placed not_places_nil, fun both => absurd both.1 other⟩

theorem places_chunksFrom :
    Places (chunksFrom base records) address value ↔
      ∃ front raw back index, records = front ++ raw :: back ∧ recordType raw = 0 ∧
        index < declaredLength raw ∧
        address = front.foldl nextBase base + addressOffset raw + index ∧
        raw[4 + index]? = some value := by
  induction records generalizing base with
  | nil =>
      refine ⟨fun placed => absurd placed not_places_nil, ?_⟩
      rintro ⟨front, raw, back, index, split, _⟩
      exact absurd split.symm (by simp)
  | cons first rest ih =>
      unfold chunksFrom
      rw [places_append, places_recordChunks, ih]
      constructor
      · rintro (⟨data, index, inside, same, found⟩ |
          ⟨front, raw, back, index, split, data, inside, same, found⟩)
        · exact ⟨[], first, rest, index, rfl, data, inside, same, found⟩
        · exact ⟨first :: front, raw, back, index, by rw [split]; rfl, data, inside, same, found⟩
      · rintro ⟨front, raw, back, index, split, data, inside, same, found⟩
        cases front with
        | nil =>
            obtain ⟨rfl, rfl⟩ := List.cons_eq_cons.mp split
            exact Or.inl ⟨data, index, inside, same, found⟩
        | cons head front =>
            obtain ⟨rfl, tail⟩ := List.cons_eq_cons.mp split
            exact Or.inr ⟨front, raw, back, index, tail, data, inside, same, found⟩

theorem exactLine_iff {first : Char} {digits : List Char} (stripped : pyStrip rawLine = first :: digits)
    (decoded : unhexlify digits = .ok raw) (long : 5 ≤ raw.length) :
    exactLine rawLine = true ↔ raw.length = declaredLength raw + 5 := by
  have twice := unhexlify_length decoded
  unfold exactLine
  rw [stripped]
  match digits, decoded, twice with
  | [], _, twice =>
      rw [List.length_nil] at twice
      omega
  | [_], _, twice =>
      rw [List.length_singleton] at twice
      omega
  | high :: low :: rest, decoded, twice =>
      have declared : declaredLength raw = _ := unhexlify_first decoded
      dsimp only
      rw [← declared, beq_iff_eq, twice]
      omega

theorem recordOf_of_stripped {first : Char} {digits : List Char}
    (stripped : pyStrip rawLine = first :: digits) (decoded : unhexlify digits = .ok raw) :
    recordOf rawLine = some raw := by
  unfold recordOf
  rw [stripped]
  dsimp only
  rw [decoded]
  rfl

/-- Where every record ends behind its checksum, only the payloads are in the image. -/
theorem places_iff_declares (exact : ∀ raw ∈ records, raw.length = declaredLength raw + 5) :
    Places (chunksFrom 0 records) address value ↔ Declares records address value := by
  rw [places_chunksFrom]
  unfold Declares baseAfter
  constructor
  · rintro ⟨front, raw, back, index, split, data, inside, same, found⟩
    have member : raw ∈ records := by
      rw [split]
      exact List.mem_append_right front List.mem_cons_self
    have ends := exact raw member
    exact ⟨front, raw, back, index, split, data, inside, by omega, same, found⟩
  · rintro ⟨front, raw, back, index, split, data, inside, _, same, found⟩
    exact ⟨front, raw, back, index, split, data, inside, same, found⟩

end Records

section Parsing

variable {content : List Char} {limits : FirmwareParseLimits} {container : FirmwareContainer}

/-- What an accepted text is: lines that decode, records behind all their checks,
and an image that holds the chunks of the data records. -/
structure Parsed (content : List Char) (container : FirmwareContainer) : Prop where
  decoded : ∀ rawLine ∈ pySplitLines content, Decodes rawLine
  accepted : ∀ raw ∈ recordsOf content, Accepted raw
  image : ∀ address value, container.image.read address = some value ↔
    Places (chunksFrom 0 (recordsOf content)) address value

theorem parseString_ok (ok : parseString content limits = .ok container) :
    Parsed content container := by
  unfold parseString at ok
  dsimp only at ok
  split at ok
  · cases ok
  · split at ok
    · cases ok
    · split at ok
      · cases ok
      · rename_i last parsed
        split at ok
        · cases ok
        · split at ok
          · cases ok
          · split at ok
            · cases ok
            · rename_i segments merged
              cases ok
              obtain ⟨decoded, accepted, chunks⟩ := parseLines_ok parsed
              obtain ⟨spaced, places⟩ := mergeAndValidateChunks_ok merged
              refine ⟨decoded, accepted, fun address value => ?_⟩
              have nothing : start.rawChunks = [] := rfl
              rw [nothing, List.nil_append] at chunks
              rw [chunks] at places
              exact (read_eq_some_iff spaced).trans (places address value)

theorem exactLines_iff (parsed : Parsed content container) :
    (∀ rawLine ∈ pySplitLines content, exactLine rawLine = true) ↔
      ∀ raw ∈ recordsOf content, raw.length = declaredLength raw + 5 := by
  constructor
  · intro lines raw member
    obtain ⟨rawLine, present, record⟩ := List.mem_filterMap.mp member
    have long := (parsed.accepted raw member).long
    rcases parsed.decoded rawLine present with blank | ⟨digits, other, stripped, decoded⟩
    · unfold recordOf at record
      rw [blank] at record
      cases record
    · have same := (recordOf_of_stripped stripped decoded).symm.trans record
      cases same
      exact (exactLine_iff stripped decoded long).mp (lines rawLine present)
  · intro exact rawLine present
    rcases parsed.decoded rawLine present with blank | ⟨digits, raw, stripped, decoded⟩
    · unfold exactLine
      rw [blank]
    · have member : raw ∈ recordsOf content :=
        List.mem_filterMap.mpr ⟨rawLine, present, recordOf_of_stripped stripped decoded⟩
      exact (exactLine_iff stripped decoded (parsed.accepted raw member).long).mpr
        (exact raw member)

/-- An accepted text follows the grammar exactly where each of its lines has the
characters its own first byte declares. -/
theorem grammar_iff_exactLines (ok : parseString content limits = .ok container) :
    Grammar content container ↔ ∀ rawLine ∈ pySplitLines content, exactLine rawLine = true := by
  have parsed := parseString_ok ok
  rw [exactLines_iff parsed]
  refine ⟨Grammar.exact, fun exact => ?_⟩
  refine ⟨parsed.decoded, exact, fun raw member => (parsed.accepted raw member).checksum,
    fun raw member => (parsed.accepted raw member).typed, fun address value => ?_⟩
  rw [parsed.image address value]
  exact places_iff_declares exact

def singleByteText : List Char := ":0100000041BE\n:00000001FF".toList

theorem grammar_iff_exactLines_singleByte : ∃ container : FirmwareContainer,
    parseString singleByteText defaultFirmwareLimits = .ok container ∧
      Grammar singleByteText container := by
  have parsed : parseString singleByteText defaultFirmwareLimits =
      .ok ⟨[⟨0, [0x41]⟩], none, "intel_hex"⟩ := by decide
  exact ⟨_, parsed, (grammar_iff_exactLines parsed).mpr (by decide)⟩

def shortRecordText : List Char := ":02000000AA54\n:00000001FF".toList

theorem checksum_in_image : ∃ container : FirmwareContainer,
    parseString shortRecordText defaultFirmwareLimits = .ok container ∧
      container.image.read 1 = some 0x54 ∧ ¬ Grammar shortRecordText container := by
  refine ⟨⟨[⟨0, [0xAA, 0x54]⟩], none, "intel_hex"⟩, by decide, by decide, fun grammar => ?_⟩
  have exact := grammar.exact [0x02, 0x00, 0x00, 0x00, 0xAA, 0x54] (by decide)
  exact absurd exact (by decide)

end Parsing

end IntelHex

end Ucanlab.Uds
