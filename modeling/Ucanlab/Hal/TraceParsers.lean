import Ucanlab.Core.PyNumber
import Ucanlab.Lib.Dict
import Ucanlab.Lib.Regex
import Ucanlab.Lib.Scan

/-!
The parsers of recorded traces. The lines of a Vector ASCII file and the records that the csv reader
finds in a CSV file become frames one by one; a line or a record that makes no frame is skipped.
-/

namespace Ucanlab.Replay

open Ucanlab Binary64 Regex

def maxTraceLineChars : Nat := 4096

def maxTraceFrames : Nat := 5000000

def maxTimestampNs : Int := 2 ^ 64 - 1

def csvFieldLimit : Nat := 131072

/-- Every way reading a row raises. -/
inductive TraceError where
  | overlongLine
  | notANumber
  | nonFiniteTime
  | unrepresentableTime
  | timeRange
  | declaredLength (declared : Int) (actual : Nat)
  | hexDigits
  | frame (error : FrameError)
  | fieldLimit
  | frameCap
  deriving DecidableEq

/-- `int` of a finite double. -/
def truncate (value : Rat) : Int := value.num.tdiv value.den

def nanoseconds (seconds : Rat) : Double := toDouble (seconds * 1000000000)

section Asc

def ascTimestampNs (rawTime : List Char) : Except TraceError Int :=
  match pyFloat rawTime with
  | none => .error .notANumber
  | some (.finite seconds) =>
      match nanoseconds seconds with
      | .finite product =>
          if 0 ≤ truncate product ∧ truncate product ≤ maxTimestampNs then .ok (truncate product)
          else .error .timeRange
      | _ => .error .unrepresentableTime
  | some _ => .error .nonFiniteTime

def hexChar (c : Char) : Bool := (hexDigit c).isSome

def timeGroup : Regex :=
  .group "time" (sequence [plus decimalChar, literal ['.'], plus decimalChar])

def directionGroup : Regex := .group "dir" (.alt (literal ['R', 'x']) (literal ['T', 'x']))

def extGroup : Regex := optional (.group "ext" (literal ['x']))

def dataGroup (bytes : Nat) : Regex :=
  optional (sequence [plus isPySpace,
    .group "data" (.times 0 (some bytes)
      (sequence [.times 2 (some 2) (.char hexChar), star (fun c => c == ' ' || c == '\t')]))])

def classicAscRegex : Regex :=
  sequence [startOfText, star isPySpace, timeGroup, plus isPySpace,
    .group "channel" (plus decimalChar), plus isPySpace, .group "id" (plus hexChar), extGroup,
    plus isPySpace, directionGroup, plus isPySpace, literal ['d'], plus isPySpace,
    .group "dlc" (plus decimalChar), dataGroup 8]

def fdAscRegex : Regex :=
  sequence [startOfText, star isPySpace, timeGroup, plus isPySpace,
    literal ['C', 'A', 'N', 'F', 'D'], plus isPySpace, .group "channel" (plus decimalChar),
    plus isPySpace, directionGroup, plus isPySpace, .group "id" (plus hexChar), extGroup,
    plus isPySpace, .group "brs" (.char (fun c => c == '0' || c == '1')), plus isPySpace,
    .group "esi" (.char (fun c => c == '0' || c == '1')), plus isPySpace,
    .group "dlc" (plus hexChar), plus isPySpace, .group "len" (plus decimalChar), dataGroup 64]

/-- `int` of what a group kept. -/
def groupInt (base : Nat) (found : Regex.Place) (name : String) : Except TraceError Int :=
  match pyInt base ((found.group? name).getD []) with
  | none => .error .notANumber
  | some value => .ok value

def groupBytes (found : Regex.Place) : Except TraceError Bytes :=
  match bytesFromHex (((found.group? "data").getD []).filter (fun c => !isPySpace c)) with
  | none => .error .hexDigits
  | some bytes => .ok bytes

def groupDirection (found : Regex.Place) : Direction :=
  if found.group? "dir" = some ['T', 'x'] then .tx else .rx

def buildFrame (fields : FrameFields) (timestampNs : Int) : Except TraceError RecordedFrame :=
  match CanFrame.new fields with
  | .error error => .error (.frame error)
  | .ok frame => .ok { frame := frame, timestampNs := timestampNs }

def classicFrame (found : Regex.Place) (channelPrefix : List Char) :
    Except TraceError RecordedFrame := do
  let timestampNs ← ascTimestampNs ((found.group? "time").getD [])
  let dlc ← groupInt 10 found "dlc"
  let data ← groupBytes found
  let arbitrationId ← groupInt 16 found "id"
  buildFrame
    { channelId := String.ofList (channelPrefix ++ (found.group? "channel").getD [])
      arbitrationId := arbitrationId.toNat
      dlc := dlc.toNat
      data := data
      isExtended := decide (found.group? "ext" = some ['x'])
      direction := groupDirection found
      source := .replay } timestampNs

/-- A decimal code, or a hexadecimal one where it is no decimal of a code. -/
def fdDlc (found : Regex.Place) : Except TraceError Int :=
  match groupInt 10 found "dlc" with
  | .error _ => groupInt 16 found "dlc"
  | .ok dlc => if dlc > 15 then groupInt 16 found "dlc" else .ok dlc

def fdFrame (found : Regex.Place) (channelPrefix : List Char) :
    Except TraceError RecordedFrame := do
  let timestampNs ← ascTimestampNs ((found.group? "time").getD [])
  let dlc ← fdDlc found
  let declared ← groupInt 10 found "len"
  let data ← groupBytes found
  if (data.length : Int) ≠ declared then throw (.declaredLength declared data.length)
  let arbitrationId ← groupInt 16 found "id"
  buildFrame
    { channelId := String.ofList (channelPrefix ++ (found.group? "channel").getD [])
      arbitrationId := arbitrationId.toNat
      dlc := dlc.toNat
      data := data
      isExtended := decide (found.group? "ext" = some ['x'])
      isFd := true
      brs := decide (found.group? "brs" = some ['1'])
      esi := decide (found.group? "esi" = some ['1'])
      direction := groupDirection found
      source := .replay } timestampNs

def ascHeaderWords : List (List Char) := [['/', '/'], ['d', 'a', 't', 'e'], ['b', 'a', 's', 'e']]

/-- `VectorAscParser.parse_line`; a line that is no frame at all has none. -/
def parseLine (line channelPrefix : List Char) : Except TraceError (Option RecordedFrame) :=
  if line.length > maxTraceLineChars + 1 then .error .overlongLine
  else
    let line := pyStrip line
    if line = [] ∨ ascHeaderWords.any (fun word => word.isPrefixOf line) then .ok none
    else
      match classicAscRegex.matchAt none line with
      | some found => (classicFrame found channelPrefix).map some
      | none =>
          match fdAscRegex.matchAt none line with
          | some found => (fdFrame found channelPrefix).map some
          | none => .ok none

/-- What a line is to the loop, which skips an overlong line and one that raises. -/
def lineFrame (channelPrefix line : List Char) : Option RecordedFrame :=
  if line.length > maxTraceLineChars + 1 then none
  else
    match parseLine line channelPrefix with
    | .ok frame => frame
    | .error _ => none

/-- One round of `parse_file_iter`. -/
def ascStep (channelPrefix : List Char) (frames : List RecordedFrame) (line : List Char) :
    Turn (List RecordedFrame) (Except TraceError (List RecordedFrame)) :=
  match lineFrame channelPrefix line with
  | none => .on frames
  | some frame =>
      if maxTraceFrames ≤ frames.length then .stop (.error .frameCap) else .on (frames ++ [frame])

/-- `VectorAscParser.parse_file` on the lines of the file. -/
def parseAscFile (channelPrefix : List Char) (lines : List (List Char)) :
    Except TraceError (List RecordedFrame) :=
  Turn.scan (ascStep channelPrefix) .ok [] lines

end Asc

section Csv

inductive Column where
  | time
  | id
  | dlc
  | data
  | channel
  | direction
  | extended
  deriving DecidableEq, Repr

/-- `_COL_ALIASES`. -/
def Column.aliases : Column → List String
  | time => ["time", "timestamp"]
  | id => ["id", "identifier", "can_id"]
  | dlc => ["dlc", "length"]
  | data => ["data", "payload", "bytes"]
  | channel => ["channel", "ch"]
  | direction => ["dir", "direction"]
  | extended => ["extended", "is_extended", "ext"]

/-- `str.lower`, whose result is only compared with words of ASCII here. -/
def lower (text : List Char) : List Char := text.map Char.toLower

/-- `_resolve_columns`: the header's name for each column, the last one where several fit. -/
def resolveColumns (fieldnames : List (List Char)) (column : Column) : Option (List Char) :=
  let normalized : Dict (List Char) (List Char) :=
    fieldnames.foldl (fun names name => names.set (lower (pyStrip name)) name) []
  column.aliases.findSome? (fun word => normalized.get? word.toList)

abbrev Row := Dict (List Char) (Option (List Char))

/-- The row that `csv.DictReader` makes of a record; the cells beyond the header's are left out, as
no column maps to them. -/
def readRow (fieldnames record : List (List Char)) : Row :=
  let filled : Row :=
    (fieldnames.zip record).foldl (fun row entry => row.set entry.1 (some entry.2)) []
  (fieldnames.drop record.length).foldl (fun row name => row.set name none) filled

def rowLength (row : Row) : Nat :=
  (row.map (fun entry => (entry.2.getD []).length)).sum

/-- `_cell`. -/
def cell (row : Row) (columns : Column → Option (List Char)) (column : Column)
    (default : List Char) : List Char :=
  match columns column with
  | none => default
  | some name =>
      if name = [] then default
      else
        match row.get? name with
        | some (some (c :: rest)) => pyStrip (c :: rest)
        | _ => pyStrip default

def removePrefix (start text : List Char) : List Char :=
  if start.isPrefixOf text then text.drop start.length else text

def sanitizeChannel (channel : List Char) : List Char :=
  let kept := (channel.map (fun c => if channelIdChar c then c else '_')).take 64
  if kept = [] then ['c', 'h', '1'] else kept

/-- The time in seconds and the frame of a row that passes the checks in front of the frame's
own. -/
def rowFields (row : Row) (columns : Column → Option (List Char)) (defaultChannel : List Char) :
    Option (Rat × FrameFields) :=
  let rawTime := cell row columns .time []
  let rawId := cell row columns .id []
  let rawData := cell row columns .data []
  if rawTime = [] ∨ rawId = [] ∨ rawData = [] then none
  else
    match pyFloat rawTime, pyInt 16 (removePrefix ['0', 'X'] (removePrefix ['0', 'x'] rawId)),
      bytesFromHex (rawData.filter (fun c => !isPySpace c)) with
    | some (.finite seconds), some arbitrationId, some data =>
        if seconds < 0 ∨ arbitrationId < 0 ∨ arbitrationId > 0x1FFFFFFF ∨ data.length > 64 then none
        else
          let rawDlc := cell row columns .dlc []
          let dlc : Int :=
            if rawDlc = [] then data.length else (pyInt 10 rawDlc).getD data.length
          let rawExt := String.ofList (lower (cell row columns .extended []))
          let isExtended :=
            if rawExt ∈ ["1", "true", "yes"] then true
            else if rawExt ∈ ["0", "false", "no"] then false
            else decide (arbitrationId > 0x7FF)
          let rawDir := String.ofList (lower (cell row columns .direction ['r', 'x']))
          let direction := if rawDir ∈ ["tx", "t", "sent"] then Direction.tx else .rx
          let named := cell row columns .channel []
          let channel := sanitizeChannel (if named = [] then defaultChannel else named)
          if ¬ (0 ≤ dlc ∧ dlc ≤ 8) then none
          else if dlcToLength dlc.toNat ≠ .ok data.length then none
          else
            some (seconds,
              { channelId := String.ofList channel
                arbitrationId := arbitrationId.toNat
                dlc := dlc.toNat
                data := data
                isExtended := isExtended
                direction := direction
                source := .replay })
    | _, _, _ => none

/-- `_parse_row`: the conversion to nanoseconds raises outside what the row's handler catches. -/
def parseRow (row : Row) (columns : Column → Option (List Char)) (defaultChannel : List Char) :
    Except TraceError (Option RecordedFrame) :=
  match rowFields row columns defaultChannel with
  | none => .ok none
  | some (seconds, fields) =>
      match nanoseconds seconds with
      | .finite product =>
          match buildFrame fields (truncate product) with
          | .ok frame => .ok (some frame)
          | .error _ => .ok none
      | _ => .error .unrepresentableTime

/-- What the loop makes of a row, when the row is short enough. -/
def rowFrame (header : List (List Char)) (stem : List Char) (record : List (List Char)) :
    Except TraceError (Option RecordedFrame) :=
  let row := readRow header record
  if maxTraceLineChars < rowLength row then .ok none
  else parseRow row (resolveColumns header) stem

def Readable (record : List (List Char)) : Prop := ∀ cell ∈ record, cell.length ≤ csvFieldLimit

instance (record : List (List Char)) : Decidable (Readable record) :=
  inferInstanceAs (Decidable (∀ cell ∈ record, cell.length ≤ csvFieldLimit))

/-- One round of `parse_file` with the record the reader comes to; an empty one is no row. -/
def csvStep (header : List (List Char)) (stem : List Char) (frames : List RecordedFrame)
    (record : List (List Char)) :
    Turn (List RecordedFrame) (Except TraceError (List RecordedFrame)) :=
  if record = [] then .on frames
  else if ¬ Readable record then .stop (.error .fieldLimit)
  else if maxTraceFrames ≤ frames.length then .stop (.error .frameCap)
  else
    match rowFrame header stem record with
    | .error error => .stop (.error error)
    | .ok none => .on frames
    | .ok (some frame) => .on (frames ++ [frame])

def mandatory (header : List (List Char)) : Bool :=
  (resolveColumns header .time).isSome && (resolveColumns header .id).isSome &&
    (resolveColumns header .data).isSome

/-- `CsvParser.parse_file` on the records of the file. -/
def parseCsvFile (stem : List Char) : List (List (List Char)) →
    Except TraceError (List RecordedFrame)
  | [] => .ok []
  | header :: records =>
      if ¬ Readable header then .error .fieldLimit
      else if ¬ mandatory header then .ok []
      else Turn.scan (csvStep header stem) .ok [] records

end Csv

section RowLocal

variable {Item : Type}

/-- A load ends with what the rows yield one by one, unless they yield more frames than a load may
have. -/
def RowLocal (yields : Item → List RecordedFrame) (rows : List Item) :
    Except TraceError (List RecordedFrame) → Prop
  | .ok frames => frames = rows.flatMap yields
  | .error .frameCap => maxTraceFrames ≤ (rows.flatMap yields).length
  | .error _ => False

def NotAborted (result : Except TraceError (List RecordedFrame)) : Prop :=
  ∀ error, result = .error error → error = .frameCap

theorem RowLocal.notAborted {yields : Item → List RecordedFrame} {rows : List Item}
    {result : Except TraceError (List RecordedFrame)} (rowLocal : RowLocal yields rows result) :
    NotAborted result := by
  rintro error rfl
  cases error with
  | frameCap => rfl
  | _ => exact rowLocal.elim

structure Gathers (yields : Item → List RecordedFrame) (step : List RecordedFrame → Item →
    Turn (List RecordedFrame) (Except TraceError (List RecordedFrame))) : Prop where
  goesOn : ∀ frames item next, step frames item = .on next → next = frames ++ yields item
  raises : ∀ frames item all, step frames item ≠ .stop (.ok all)
  caps : ∀ frames item, step frames item = .stop (.error .frameCap) →
    maxTraceFrames ≤ frames.length

variable {yields : Item → List RecordedFrame} {step : List RecordedFrame → Item →
  Turn (List RecordedFrame) (Except TraceError (List RecordedFrame))}

theorem Gathers.scan_rowLocal (gathers : Gathers yields step) (rows before : List Item)
    (spared : NotAborted (Turn.scan step .ok (before.flatMap yields) rows)) :
    RowLocal yields (before ++ rows) (Turn.scan step .ok (before.flatMap yields) rows) := by
  induction rows generalizing before with
  | nil =>
      rw [List.append_nil]
      rfl
  | cons first rest ih =>
      unfold Turn.scan at spared ⊢
      cases turn : step (before.flatMap yields) first with
      | on next =>
          rw [turn] at spared
          have gathered : next = (before ++ [first]).flatMap yields := by
            rw [gathers.goesOn _ _ _ turn, List.flatMap_append, List.flatMap_singleton]
          dsimp only at spared ⊢
          rw [gathered] at spared ⊢
          have onwards := ih (before ++ [first]) spared
          rwa [List.append_assoc, List.singleton_append] at onwards
      | stop result =>
          rw [turn] at spared
          dsimp only at spared ⊢
          cases result with
          | ok all => exact absurd turn (gathers.raises _ _ all)
          | error error =>
              cases spared error rfl
              have full := gathers.caps _ _ turn
              change maxTraceFrames ≤ ((before ++ first :: rest).flatMap yields).length
              rw [List.flatMap_append, List.length_append]
              exact full.trans (Nat.le_add_right _ _)

theorem Gathers.rowLocal_iff (gathers : Gathers yields step) (rows : List Item) :
    RowLocal yields rows (Turn.scan step .ok [] rows) ↔
      ∀ last item, Turn.Reaches step [] rows last item →
        ∀ result, step last item = .stop result → NotAborted result := by
  have local_iff : RowLocal yields rows (Turn.scan step .ok [] rows) ↔
      NotAborted (Turn.scan step .ok [] rows) :=
    ⟨RowLocal.notAborted, gathers.scan_rowLocal rows []⟩
  rw [local_iff]
  refine Turn.scan_iff ?_ rows []
  intro frames error ends
  cases ends

end RowLocal

section Loads

def lineFrames (channelPrefix line : List Char) : List RecordedFrame :=
  (lineFrame channelPrefix line).toList

/-- What a record of a CSV trace yields on its own, behind the header. -/
def recordFrames (header : List (List Char)) (stem : List Char) (record : List (List Char)) :
    List RecordedFrame :=
  if record = [] ∨ mandatory header = false then []
  else
    match rowFrame header stem record with
    | .ok frame => frame.toList
    | .error _ => []

/-- The time of a row that passes the checks in front of it is in the range of the doubles as
nanoseconds, too. -/
def TimeFits (header : List (List Char)) (stem : List Char) (record : List (List Char)) : Prop :=
  rowLength (readRow header record) ≤ maxTraceLineChars →
    ∀ seconds fields,
      rowFields (readRow header record) (resolveColumns header) stem = some (seconds, fields) →
        ∃ product, nanoseconds seconds = .finite product

inductive AscRound (channelPrefix : List Char) (frames : List RecordedFrame) (line : List Char) :
    Turn (List RecordedFrame) (Except TraceError (List RecordedFrame)) → Prop
  | skipped (nothing : lineFrame channelPrefix line = none) :
      AscRound channelPrefix frames line (.on frames)
  | full (cap : maxTraceFrames ≤ frames.length) :
      AscRound channelPrefix frames line (.stop (.error .frameCap))
  | added (frame : RecordedFrame) (found : lineFrame channelPrefix line = some frame) :
      AscRound channelPrefix frames line (.on (frames ++ [frame]))

theorem ascStep_round (channelPrefix : List Char) (frames : List RecordedFrame)
    (line : List Char) :
    AscRound channelPrefix frames line (ascStep channelPrefix frames line) := by
  unfold ascStep
  split
  next nothing => exact .skipped nothing
  next frame found =>
    split
    next cap => exact .full cap
    next => exact .added frame found

theorem ascStep_gathers (channelPrefix : List Char) :
    Gathers (lineFrames channelPrefix) (ascStep channelPrefix) where
  goesOn frames line next turn := by
    have round := ascStep_round channelPrefix frames line
    rw [turn] at round
    unfold lineFrames
    cases round with
    | skipped nothing => rw [nothing, Option.toList_none, List.append_nil]
    | added frame found => rw [found, Option.toList_some]
  raises frames line all turn := by
    have round := ascStep_round channelPrefix frames line
    rw [turn] at round
    cases round
  caps frames line turn := by
    have round := ascStep_round channelPrefix frames line
    rw [turn] at round
    cases round with
    | full cap => exact cap

theorem parseAscFile_rowLocal (channelPrefix : List Char) (lines : List (List Char)) :
    RowLocal (lineFrames channelPrefix) lines (parseAscFile channelPrefix lines) := by
  refine ((ascStep_gathers channelPrefix).rowLocal_iff lines).mpr ?_
  intro last line _ result turn error ends
  have round := ascStep_round channelPrefix last line
  rw [turn] at round
  cases round
  cases ends
  rfl

variable {header : List (List Char)} {stem : List Char}

theorem parseRow_error {row : Row} {columns : Column → Option (List Char)}
    {defaultChannel : List Char} {error : TraceError}
    (raised : parseRow row columns defaultChannel = .error error) :
    error = .unrepresentableTime ∧ ∃ seconds fields,
      rowFields row columns defaultChannel = some (seconds, fields) ∧
        ∀ product, nanoseconds seconds ≠ .finite product := by
  unfold parseRow at raised
  split at raised
  next => cases raised
  next seconds fields passes =>
    split at raised
    next => split at raised <;> cases raised
    next range =>
      cases raised
      exact ⟨rfl, seconds, fields, passes, range⟩

theorem rowFrame_error {record : List (List Char)} {error : TraceError}
    (raised : rowFrame header stem record = .error error) :
    error = .unrepresentableTime ∧ ¬ TimeFits header stem record := by
  unfold rowFrame at raised
  dsimp only at raised
  split at raised
  next => cases raised
  next short =>
    obtain ⟨kind, seconds, fields, passes, range⟩ := parseRow_error raised
    refine ⟨kind, fun fits => ?_⟩
    obtain ⟨product, finite⟩ := fits (Nat.not_lt.mp short) seconds fields passes
    exact range product finite

theorem rowFrame_ok {record : List (List Char)} {frame : Option RecordedFrame}
    (read : rowFrame header stem record = .ok frame) : TimeFits header stem record := by
  intro short seconds fields passes
  unfold rowFrame parseRow at read
  dsimp only at read
  rw [if_neg (Nat.not_lt.mpr short), passes] at read
  dsimp only at read
  split at read
  next product finite => exact ⟨product, finite⟩
  next => cases read

inductive CsvRound (header : List (List Char)) (stem : List Char) (frames : List RecordedFrame)
    (record : List (List Char)) :
    Turn (List RecordedFrame) (Except TraceError (List RecordedFrame)) → Prop
  | blank (empty : record = []) : CsvRound header stem frames record (.on frames)
  | unreadable (filled : record ≠ []) (overlong : ¬ Readable record) :
      CsvRound header stem frames record (.stop (.error .fieldLimit))
  | full (readable : Readable record) (cap : maxTraceFrames ≤ frames.length) :
      CsvRound header stem frames record (.stop (.error .frameCap))
  | raised (error : TraceError) (filled : record ≠ []) (room : frames.length < maxTraceFrames)
      (fails : rowFrame header stem record = .error error) :
      CsvRound header stem frames record (.stop (.error error))
  | read (frame : Option RecordedFrame) (filled : record ≠ []) (readable : Readable record)
      (made : rowFrame header stem record = .ok frame) :
      CsvRound header stem frames record (.on (frames ++ frame.toList))

theorem csvStep_round (header : List (List Char)) (stem : List Char)
    (frames : List RecordedFrame) (record : List (List Char)) :
    CsvRound header stem frames record (csvStep header stem frames record) := by
  unfold csvStep
  split
  next empty => exact .blank empty
  next filled =>
    split
    next overlong => exact .unreadable filled overlong
    next readable =>
      have readable := Decidable.not_not.mp readable
      split
      next cap => exact .full readable cap
      next room =>
        cases made : rowFrame header stem record with
        | error error => exact .raised error filled (Nat.not_le.mp room) made
        | ok frame =>
            cases frame with
            | none =>
                have round : CsvRound header stem frames record
                    (.on (frames ++ (none : Option RecordedFrame).toList)) :=
                  .read none filled readable made
                rwa [Option.toList_none, List.append_nil] at round
            | some frame => exact .read (some frame) filled readable made

theorem csvStep_gathers (present : mandatory header = true) :
    Gathers (recordFrames header stem) (csvStep header stem) where
  goesOn frames record next turn := by
    have round := csvStep_round header stem frames record
    rw [turn] at round
    unfold recordFrames
    rw [present]
    cases round with
    | blank empty => rw [if_pos (Or.inl empty), List.append_nil]
    | read frame filled readable made =>
        rw [if_neg (not_or.mpr ⟨filled, Bool.noConfusion⟩), made]
  raises frames record all turn := by
    have round := csvStep_round header stem frames record
    rw [turn] at round
    cases round
  caps frames record turn := by
    have round := csvStep_round header stem frames record
    rw [turn] at round
    cases round with
    | full readable cap => exact cap
    | raised error filled room fails => cases (rowFrame_error fails).1

/-- A record spoils the load that comes to it when the csv reader does not take it, and otherwise,
while there is room for frames, when its time does not fit. -/
def Harmless (header : List (List Char)) (stem : List Char) (frames : List RecordedFrame)
    (record : List (List Char)) : Prop :=
  record ≠ [] →
    Readable record ∧ (frames.length < maxTraceFrames → TimeFits header stem record)

theorem csvStep_notAborted_iff (frames : List RecordedFrame) (record : List (List Char)) :
    (∀ result, csvStep header stem frames record = .stop result → NotAborted result) ↔
      Harmless header stem frames record := by
  have round := csvStep_round header stem frames record
  cases turn : csvStep header stem frames record with
  | on next =>
      rw [turn] at round
      refine iff_of_true (fun result same => by cases same) ?_
      cases round with
      | blank empty => exact fun filled => absurd empty filled
      | read frame filled readable made => exact fun _ => ⟨readable, fun _ => rowFrame_ok made⟩
  | stop result =>
      rw [turn] at round
      cases round with
      | unreadable filled overlong =>
          refine iff_of_false ?_ (fun harmless => overlong (harmless filled).1)
          intro spared
          cases spared _ rfl _ rfl
      | full readable cap =>
          refine iff_of_true ?_ (fun _ => ⟨readable, fun room => absurd room (Nat.not_lt.mpr cap)⟩)
          intro result same
          cases same
          intro error ends
          cases ends
          rfl
      | raised error filled room fails =>
          obtain ⟨rfl, spoiled⟩ := rowFrame_error fails
          refine iff_of_false ?_ (fun harmless => spoiled ((harmless filled).2 room))
          intro spared
          cases spared _ rfl _ rfl

theorem parseCsvFile_rowLocal_iff (header : List (List Char)) (stem : List Char)
    (records : List (List (List Char))) :
    RowLocal (recordFrames header stem) records (parseCsvFile stem (header :: records)) ↔
      Readable header ∧ (mandatory header = true →
        ∀ frames record, Turn.Reaches (csvStep header stem) [] records frames record →
          Harmless header stem frames record) := by
  rw [parseCsvFile]
  split
  next overlong => exact iff_of_false id (fun both => overlong both.1)
  next readable =>
    rw [and_iff_right (Decidable.not_not.mp readable)]
    split
    next missing =>
      refine iff_of_true ?_ (fun present => absurd present missing)
      change [] = records.flatMap (recordFrames header stem)
      refine (List.flatMap_eq_nil_iff.mpr ?_).symm
      intro record _
      exact if_pos (Or.inr (Bool.eq_false_iff.mpr missing))
    next present =>
      have present := Decidable.not_not.mp present
      rw [(csvStep_gathers present).rowLocal_iff records]
      simp only [csvStep_notAborted_iff, present, forall_const]

end Loads

/-- An ASC load is row by row; a CSV load is exactly when the csv reader takes the header and, where
the header has the mandatory columns, no record that the load comes to spoils it. -/
theorem import_row_local_iff (channelPrefix : List Char) (lines : List (List Char))
    (header : List (List Char)) (stem : List Char) (records : List (List (List Char))) :
    RowLocal (lineFrames channelPrefix) lines (parseAscFile channelPrefix lines) ∧
    (RowLocal (recordFrames header stem) records (parseCsvFile stem (header :: records)) ↔
      Readable header ∧ (mandatory header = true →
        ∀ frames record, Turn.Reaches (csvStep header stem) [] records frames record →
          Harmless header stem frames record)) :=
  ⟨parseAscFile_rowLocal channelPrefix lines, parseCsvFile_rowLocal_iff header stem records⟩

def traceHeader : List (List Char) :=
  [['t', 'i', 'm', 'e'], ['i', 'd'], ['d', 'a', 't', 'a']]

/-- A time of 10^300 seconds has no nanoseconds among the doubles, and the rows behind it are
lost with it. -/
theorem huge_time_aborts :
    ¬ RowLocal (recordFrames traceHeader []) [[['1', 'e', '3', '0', '0'], ['1'], ['0', '1']],
        [['1'], ['1'], ['0', '1']]]
      (parseCsvFile [] [traceHeader, [['1', 'e', '3', '0', '0'], ['1'], ['0', '1']],
        [['1'], ['1'], ['0', '1']]]) := by
  have aborted : parseCsvFile [] [traceHeader, [['1', 'e', '3', '0', '0'], ['1'], ['0', '1']],
      [['1'], ['1'], ['0', '1']]] = .error .unrepresentableTime := by decide +kernel
  rw [aborted]
  exact id

end Ucanlab.Replay
