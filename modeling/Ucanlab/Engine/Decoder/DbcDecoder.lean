import Ucanlab.Engine.Decoder.MessageLookup
import Ucanlab.Lib.Dict
import Mathlib.Data.Rat.Floor

/-!
The sentinel values of unsigned J1939 signals: what the top of a signal's range says instead of a
measurement.
-/

namespace Ucanlab.Engine.Decoder

inductive SignalQuality where
  | valid
  | parameterSpecific
  | reserved
  | error
  | notAvailable
  deriving DecidableEq, Repr

/-- The ranges of the most significant byte. -/
def msbQuality (msb : Nat) : SignalQuality :=
  if msb ≤ 0xFA then .valid
  else if msb = 0xFB then .parameterSpecific
  else if 0xFC ≤ msb ∧ msb ≤ 0xFD then .reserved
  else if msb = 0xFE then .error
  else .notAvailable

def checkByMsb (lengthBits : Nat) (rawVal : Int) : SignalQuality :=
  if ¬ (0 ≤ rawVal ∧ rawVal ≤ 2 ^ lengthBits - 1) then .error
  else msbQuality ((rawVal.toNat >>> (lengthBits - 8)) &&& 0xFF)

def checkUint8 (rawVal : Int) : SignalQuality := checkByMsb 8 rawVal

def checkUint16 (rawVal : Int) : SignalQuality := checkByMsb 16 rawVal

def checkUint24 (rawVal : Int) : SignalQuality := checkByMsb 24 rawVal

def checkUint32 (rawVal : Int) : SignalQuality := checkByMsb 32 rawVal

def checkDiscrete2Bit (rawVal : Int) : SignalQuality :=
  let val := rawVal % 4
  if val = 0 ∨ val = 1 then .valid else if val = 2 then .error else .notAvailable

def checkNibble4Bit (rawVal : Int) : SignalQuality :=
  let val := rawVal % 16
  if val ≤ 0x0D then .valid else if val = 0x0E then .error else .notAvailable

/-- `check_raw_value` of an unsigned signal. -/
def checkRawValue (rawVal : Int) (lengthBits : Nat) : SignalQuality :=
  if lengthBits = 0 then .error
  else
    let maxUint : Int := 2 ^ lengthBits - 1
    if ¬ (0 ≤ rawVal ∧ rawVal ≤ maxUint) then .error
    else if lengthBits = 1 then .valid
    else if lengthBits = 2 then checkDiscrete2Bit rawVal
    else if lengthBits = 4 then checkNibble4Bit rawVal
    else if lengthBits = 8 then checkUint8 rawVal
    else if lengthBits = 16 then checkUint16 rawVal
    else if lengthBits = 24 then checkUint24 rawVal
    else if lengthBits = 32 then checkUint32 rawVal
    else if rawVal = maxUint then .notAvailable
    else if rawVal = maxUint - 1 then .error
    else if lengthBits ≥ 4 ∧ rawVal ≥ maxUint - 3 then .reserved
    else .valid

def sentinelQualityForWidth (rawVal : Int) (sigLen : Nat) : Option SignalQuality :=
  if sigLen = 8 then some (checkUint8 rawVal)
  else if sigLen = 16 then some (checkUint16 rawVal)
  else if sigLen = 24 then some (checkUint24 rawVal)
  else if sigLen = 32 then some (checkUint32 rawVal)
  else if 3 ≤ sigLen ∧ sigLen ≤ 64 then some (checkRawValue rawVal sigLen)
  else none

end Ucanlab.Engine.Decoder

/-!
The signal decoder: two caches, one of the messages found and one of their signals' metadata,
between the frames and the database. The time stamp of a frame is handed in beside it, and
physical values are exact.
-/

namespace Ucanlab.Engine.Decoder

open Ucanlab LruCache

inductive SignalStatus where
  | valid
  | notAvailable
  | error
  | stale
  | unknown
  deriving DecidableEq, Repr

structure DecodedSignal where
  name : String
  value : SignalValue
  unit : String
  rawValue : SignalValue
  isValid : Bool
  status : SignalStatus
  confidence : String
  deriving DecidableEq

structure DecodedMessage where
  messageName : String
  arbitrationId : Nat
  signals : List DecodedSignal
  timestampNs : Int
  channelId : String
  deriving DecidableEq

def isJ1939Identifier (arbitrationId : Nat) : Bool :=
  if ¬ arbitrationId ≤ 0x1FFFFFFF then false
  else if dataPage arbitrationId ≠ 0 then false
  else if extendedDataPage arbitrationId ≠ 0 then false
  else ((arbitrationId >>> 16) &&& 0xFF) != 0xFF

def isJ1939Frame (frame : CanFrame) : Bool :=
  frame.isExtended && isJ1939Identifier frame.arbitrationId

def roundHalfEven (value : Rat) : Int :=
  let low := value.floor
  let rest := value - low
  if rest < 1 / 2 then low
  else if rest > 1 / 2 then low + 1
  else if low % 2 = 0 then low else low + 1

structure SignalMetadata where
  units : Dict String String
  defs : Dict String SignalDef
  deriving DecidableEq

def Message.metadata (msg : Message) : SignalMetadata where
  units := msg.signals.foldl (fun units signal => units.set signal.name (signal.unit.getD "")) []
  defs := msg.signals.foldl (fun defs signal => defs.set signal.name signal) []

def rawOf (sigDef : Option SignalDef) (value : SignalValue) : SignalValue :=
  match sigDef, value with
  | some sigDef, .number scaled =>
      if sigDef.scale = 0 then .number scaled else .number ((scaled - sigDef.offset) / sigDef.scale)
  | _, _ => value

def statusOf (frameIsJ1939 : Bool) (sigDef : Option SignalDef) (raw : SignalValue) : SignalStatus :=
  match frameIsJ1939, sigDef, raw with
  | true, some sigDef, .number raw =>
      if sigDef.isSigned then .valid
      else if sigDef.length = 2 ∨ sigDef.length = 4 then
        let maxVal : Rat := 2 ^ sigDef.length - 1
        if raw = maxVal then .notAvailable else if raw = maxVal - 1 then .error else .valid
      else
        match sentinelQualityForWidth (roundHalfEven raw) sigDef.length with
        | some .notAvailable => .notAvailable
        | some .error => .error
        | some .reserved => .error
        | _ => .valid
  | _, _, _ => .valid

def decodeSignal (metadata : SignalMetadata) (frameIsJ1939 : Bool) (entry : String × SignalValue) :
    DecodedSignal :=
  let sigDef := metadata.defs.get? entry.1
  let raw := rawOf sigDef entry.2
  let status := statusOf frameIsJ1939 sigDef raw
  { name := entry.1
    value := entry.2
    unit := (metadata.units.get? entry.1).getD ""
    rawValue := raw
    isValid := status == .valid
    status := status
    confidence := if status == .valid then "HIGH" else "UNKNOWN" }

def decodedMessage (msg : Message) (metadata : SignalMetadata) (frame : CanFrame)
    (timestampNs : Int) (scaled : List (String × SignalValue)) : DecodedMessage where
  messageName := msg.name
  arbitrationId := frame.arbitrationId
  signals := scaled.map (decodeSignal metadata (isJ1939Frame frame))
  timestampNs := timestampNs
  channelId := frame.channelId

def scaledSignals (msg : Message) (frame : CanFrame) :
    Option (Except DecodeFailure (List (String × SignalValue))) :=
  if frame.data.length < msg.length then none else some (msg.decode (frame.data.take msg.length))

/-- What a frame decodes to; an error that the decoder does not handle leaves it. -/
abbrev Answer := Except String (Option DecodedMessage)

def Database.decodeFrame (db : Database) (frame : CanFrame) (timestampNs : Int) : Answer :=
  if db.messages.isEmpty then .ok none
  else
    match db.lookup frame.arbitrationId frame.isExtended with
    | none => .ok none
    | some msg =>
        match scaledSignals msg frame with
        | none => .ok none
        | some (.error .handled) => .ok none
        | some (.error (.raised name)) => .error name
        | some (.ok scaled) => .ok (some (decodedMessage msg msg.metadata frame timestampNs scaled))

def minCacheSize : Nat := 1
def maxCacheSizeLimit : Nat := 65536

structure DbcSignalDecoder where
  db : Database
  maxCacheSize : Nat
  sizeInRange : minCacheSize ≤ maxCacheSize ∧ maxCacheSize ≤ maxCacheSizeLimit
  messageCache : Dict (Nat × Bool) (Option Message)
  signalUnitsCache : Dict Nat (Dict String String)
  signalDefsCache : Dict Nat (Dict String SignalDef)
  truncatedFrames : Nat

namespace DbcSignalDecoder

def new (db : Database) (maxCacheSize : Nat)
    (sizeInRange : minCacheSize ≤ maxCacheSize ∧ maxCacheSize ≤ maxCacheSizeLimit) :
    DbcSignalDecoder where
  db := db
  maxCacheSize := maxCacheSize
  sizeInRange := sizeInRange
  messageCache := []
  signalUnitsCache := []
  signalDefsCache := []
  truncatedFrames := 0

/-- `_lookup_message`: also a frame without a message is remembered. -/
def lookupMessage (decoder : DbcSignalDecoder) (arbitrationId : Nat) (isExtended : Bool) :
    DbcSignalDecoder × Option Message :=
  let key := (arbitrationId, isExtended)
  match decoder.messageCache.get? key with
  | some msg => ({ decoder with messageCache := touch decoder.messageCache key }, msg)
  | none =>
      let msg := decoder.db.lookup arbitrationId isExtended
      ({ decoder with
          messageCache := evict decoder.maxCacheSize (decoder.messageCache.set key msg) }, msg)

/-- `_get_signal_metadata`: the identifier of the message is the key of both tables. -/
def getSignalMetadata (decoder : DbcSignalDecoder) (msg : Message) :
    DbcSignalDecoder × SignalMetadata :=
  let fid := msg.frameId
  match decoder.signalUnitsCache.get? fid, decoder.signalDefsCache.get? fid with
  | some units, some defs =>
      ({ decoder with
          signalUnitsCache := evict decoder.maxCacheSize (touch decoder.signalUnitsCache fid)
          signalDefsCache := evict decoder.maxCacheSize (touch decoder.signalDefsCache fid) },
        ⟨units, defs⟩)
  | _, _ =>
      let own := msg.metadata
      ({ decoder with
          signalUnitsCache :=
            evict decoder.maxCacheSize (decoder.signalUnitsCache.set fid own.units)
          signalDefsCache := evict decoder.maxCacheSize (decoder.signalDefsCache.set fid own.defs) },
        own)

def decodeFrame (decoder : DbcSignalDecoder) (frame : CanFrame) (timestampNs : Int) :
    DbcSignalDecoder × Answer :=
  if decoder.db.messages.isEmpty then (decoder, .ok none)
  else
    let looked := decoder.lookupMessage frame.arbitrationId frame.isExtended
    match looked.2 with
    | none => (looked.1, .ok none)
    | some msg =>
        match scaledSignals msg frame with
        | none =>
            ({ looked.1 with truncatedFrames := looked.1.truncatedFrames + 1 }, .ok none)
        | some (.error .handled) => (looked.1, .ok none)
        | some (.error (.raised name)) => (looked.1, .error name)
        | some (.ok scaled) =>
            let known := looked.1.getSignalMetadata msg
            (known.1, .ok (some (decodedMessage msg known.2 frame timestampNs scaled)))

/-- `add_dbc_file`, with the database after the merge; a file that fails to load changes nothing. -/
def addDbcFile (decoder : DbcSignalDecoder) (merged : Option Database) : DbcSignalDecoder :=
  match merged with
  | none => decoder
  | some db =>
      { decoder with
        db := db
        messageCache := []
        signalUnitsCache := []
        signalDefsCache := [] }

end DbcSignalDecoder

inductive DecoderEvent where
  | decodeFrame (frame : CanFrame) (timestampNs : Int)
  | addDbcFile (merged : Option Database)

def DbcSignalDecoder.answers : DbcSignalDecoder → List DecoderEvent → List Answer
  | _, [] => []
  | decoder, .decodeFrame frame timestampNs :: rest =>
      (decoder.decodeFrame frame timestampNs).2 ::
        answers (decoder.decodeFrame frame timestampNs).1 rest
  | decoder, .addDbcFile merged :: rest => answers (decoder.addDbcFile merged) rest

def Database.answers : Database → List DecoderEvent → List Answer
  | _, [] => []
  | db, .decodeFrame frame timestampNs :: rest => db.decodeFrame frame timestampNs :: answers db rest
  | db, .addDbcFile merged :: rest => answers (merged.getD db) rest

def SignalMetadata.Describes (metadata : SignalMetadata) (msg : Message)
    (scaled : List (String × SignalValue)) : Prop :=
  ∀ entry ∈ scaled, metadata.units.get? entry.1 = msg.metadata.units.get? entry.1 ∧
    metadata.defs.get? entry.1 = msg.metadata.defs.get? entry.1

def DbcSignalDecoder.Undisputed (decoder : DbcSignalDecoder) (frame : CanFrame) : Prop :=
  ∀ msg scaled, decoder.db.lookup frame.arbitrationId frame.isExtended = some msg →
    scaledSignals msg frame = some (.ok scaled) →
    ∀ units defs, decoder.signalUnitsCache.get? msg.frameId = some units →
      decoder.signalDefsCache.get? msg.frameId = some defs →
      SignalMetadata.Describes ⟨units, defs⟩ msg scaled

def Database.Finds (db : Database) (msg : Message) : Prop :=
  ∃ arbitrationId isExtended, db.lookup arbitrationId isExtended = some msg

/-- Messages that share an identifier have the same signals. -/
def Database.DistinctIds (db : Database) : Prop :=
  ∀ one other, db.Finds one → db.Finds other → one.frameId = other.frameId →
    one.metadata = other.metadata

/-- No frame of the sequence meets metadata of another message. -/
def DbcSignalDecoder.NoDispute : DbcSignalDecoder → List DecoderEvent → Prop
  | _, [] => True
  | decoder, .decodeFrame frame timestampNs :: rest =>
      decoder.Undisputed frame ∧ NoDispute (decoder.decodeFrame frame timestampNs).1 rest
  | decoder, .addDbcFile merged :: rest => NoDispute (decoder.addDbcFile merged) rest

namespace DbcSignalDecoder

variable {decoder : DbcSignalDecoder} {frame : CanFrame} {timestampNs : Int} {msg : Message}

def Sound (decoder : DbcSignalDecoder) : Prop :=
  Faithful (fun key msg => msg = decoder.db.lookup key.1 key.2) decoder.messageCache

/-- What a lookup leaves alone. -/
structure SameMetadata (before after : DbcSignalDecoder) : Prop where
  db : after.db = before.db
  units : after.signalUnitsCache = before.signalUnitsCache
  defs : after.signalDefsCache = before.signalDefsCache

theorem lookupMessage_eq (sound : decoder.Sound) (arbitrationId : Nat) (isExtended : Bool) :
    (decoder.lookupMessage arbitrationId isExtended).2 = decoder.db.lookup arbitrationId isExtended ∧
      (decoder.lookupMessage arbitrationId isExtended).1.Sound ∧
      SameMetadata decoder (decoder.lookupMessage arbitrationId isExtended).1 := by
  unfold lookupMessage
  dsimp only
  split
  · rename_i msg found
    exact ⟨sound.get? found, sound.touch, ⟨rfl, rfl, rfl⟩⟩
  · exact ⟨rfl, (sound.set rfl).evict, ⟨rfl, rfl, rfl⟩⟩

theorem getSignalMetadata_sound (sound : decoder.Sound) (msg : Message) :
    (decoder.getSignalMetadata msg).1.Sound ∧
      (decoder.getSignalMetadata msg).1.db = decoder.db := by
  unfold getSignalMetadata
  dsimp only
  split
  · exact ⟨sound, rfl⟩
  · exact ⟨sound, rfl⟩

theorem getSignalMetadata_cases (decoder : DbcSignalDecoder) (msg : Message) :
    (decoder.getSignalMetadata msg).2 = msg.metadata ∨
      ∃ units defs, decoder.signalUnitsCache.get? msg.frameId = some units ∧
        decoder.signalDefsCache.get? msg.frameId = some defs ∧
        (decoder.getSignalMetadata msg).2 = ⟨units, defs⟩ := by
  unfold getSignalMetadata
  dsimp only
  split
  · rename_i units defs first second
    exact Or.inr ⟨units, defs, first, second, rfl⟩
  · exact Or.inl rfl

theorem decodedMessage_of_describes {metadata : SignalMetadata}
    {scaled : List (String × SignalValue)} (describes : metadata.Describes msg scaled) :
    decodedMessage msg metadata frame timestampNs scaled =
      decodedMessage msg msg.metadata frame timestampNs scaled := by
  unfold decodedMessage
  have same : scaled.map (decodeSignal metadata (isJ1939Frame frame)) =
      scaled.map (decodeSignal msg.metadata (isJ1939Frame frame)) := by
    refine List.map_congr_left (fun entry member => ?_)
    obtain ⟨units, defs⟩ := describes entry member
    unfold decodeSignal
    rw [units, defs]
  rw [same]

theorem decodeFrame_eq (sound : decoder.Sound) (undisputed : decoder.Undisputed frame) :
    (decoder.decodeFrame frame timestampNs).2 = decoder.db.decodeFrame frame timestampNs := by
  obtain ⟨looked, _, same⟩ :=
    lookupMessage_eq sound frame.arbitrationId frame.isExtended
  unfold decodeFrame Database.decodeFrame
  split
  · rfl
  · dsimp only
    rw [looked]
    cases found : decoder.db.lookup frame.arbitrationId frame.isExtended with
    | none => rfl
    | some msg =>
        dsimp only
        cases decoded : scaledSignals msg frame with
        | none => rfl
        | some result =>
            cases result with
            | error failure => cases failure <;> rfl
            | ok scaled =>
                dsimp only
                rcases getSignalMetadata_cases
                  (decoder.lookupMessage frame.arbitrationId frame.isExtended).1 msg with
                  own | ⟨units, defs, first, second, stored⟩
                · rw [own]
                · rw [same.units] at first
                  rw [same.defs] at second
                  rw [stored, decodedMessage_of_describes
                    (undisputed msg scaled found decoded units defs first second)]

theorem decodeFrame_sound (sound : decoder.Sound) :
    (decoder.decodeFrame frame timestampNs).1.Sound ∧
      (decoder.decodeFrame frame timestampNs).1.db = decoder.db := by
  obtain ⟨_, later, same⟩ := lookupMessage_eq sound frame.arbitrationId frame.isExtended
  unfold decodeFrame
  split
  · exact ⟨sound, rfl⟩
  · dsimp only
    split
    · exact ⟨later, same.db⟩
    · rename_i msg _
      split
      · exact ⟨later, same.db⟩
      · exact ⟨later, same.db⟩
      · exact ⟨later, same.db⟩
      · obtain ⟨kept, unchanged⟩ := getSignalMetadata_sound later msg
        exact ⟨kept, unchanged.trans same.db⟩

theorem addDbcFile_sound (sound : decoder.Sound) (merged : Option Database) :
    (decoder.addDbcFile merged).Sound ∧ (decoder.addDbcFile merged).db = merged.getD decoder.db := by
  cases merged with
  | none => exact ⟨sound, rfl⟩
  | some db => exact ⟨faithful_nil, rfl⟩

theorem answers_eq (sound : decoder.Sound) {events : List DecoderEvent}
    (undisputed : decoder.NoDispute events) : decoder.answers events = decoder.db.answers events := by
  induction events generalizing decoder with
  | nil => rfl
  | cons event rest ih =>
      cases event with
      | decodeFrame frame timestampNs =>
          obtain ⟨here, later⟩ := undisputed
          obtain ⟨kept, same⟩ := @decodeFrame_sound decoder frame timestampNs sound
          change _ :: _ = _ :: _
          rw [decodeFrame_eq sound here, ih kept later, same]
      | addDbcFile merged =>
          obtain ⟨kept, same⟩ := addDbcFile_sound sound merged
          change (decoder.addDbcFile merged).answers rest = Database.answers _ rest
          rw [ih kept undisputed, same]

/-- Both tables hold metadata of messages that the database has, under their identifiers. -/
structure Owned (decoder : DbcSignalDecoder) : Prop where
  units : Faithful (fun fid units => ∃ msg, decoder.db.Finds msg ∧ msg.frameId = fid ∧
    units = msg.metadata.units) decoder.signalUnitsCache
  defs : Faithful (fun fid defs => ∃ msg, decoder.db.Finds msg ∧ msg.frameId = fid ∧
    defs = msg.metadata.defs) decoder.signalDefsCache

theorem Owned.undisputed (owned : decoder.Owned) (distinct : decoder.db.DistinctIds) :
    decoder.Undisputed frame := by
  intro msg scaled found _ units defs first second entry _
  have here : decoder.db.Finds msg := ⟨_, _, found⟩
  obtain ⟨one, known, same, rfl⟩ := owned.units.get? first
  obtain ⟨other, listed, equal, rfl⟩ := owned.defs.get? second
  exact ⟨by rw [distinct one msg known here same], by rw [distinct other msg listed here equal]⟩

theorem Owned.of_same {after : DbcSignalDecoder} (owned : decoder.Owned)
    (same : SameMetadata decoder after) : after.Owned where
  units := by
    rw [same.db, same.units]
    exact owned.units
  defs := by
    rw [same.db, same.defs]
    exact owned.defs

theorem Owned.getSignalMetadata (owned : decoder.Owned) (found : decoder.db.Finds msg) :
    (decoder.getSignalMetadata msg).1.Owned := by
  unfold DbcSignalDecoder.getSignalMetadata
  dsimp only
  split
  · exact ⟨owned.units.touch.evict, owned.defs.touch.evict⟩
  · exact ⟨(owned.units.set ⟨msg, found, rfl, rfl⟩).evict,
      (owned.defs.set ⟨msg, found, rfl, rfl⟩).evict⟩

theorem Owned.decodeFrame (owned : decoder.Owned) (sound : decoder.Sound) :
    (decoder.decodeFrame frame timestampNs).1.Owned := by
  obtain ⟨looked, _, same⟩ := lookupMessage_eq sound frame.arbitrationId frame.isExtended
  have kept := owned.of_same same
  unfold DbcSignalDecoder.decodeFrame
  split
  · exact owned
  · dsimp only
    split
    · exact kept
    · rename_i msg found
      split
      · exact ⟨kept.units, kept.defs⟩
      · exact kept
      · exact kept
      · refine kept.getSignalMetadata ?_
        rw [looked] at found
        rw [same.db]
        exact ⟨_, _, found⟩

/-- Where no loaded database has two messages of one identifier with different signals, no frame
meets metadata of another message. -/
theorem noDispute_of_distinct (sound : decoder.Sound) (owned : decoder.Owned)
    (distinct : decoder.db.DistinctIds) {events : List DecoderEvent}
    (loads : ∀ merged, .addDbcFile (some merged) ∈ events → merged.DistinctIds) :
    decoder.NoDispute events := by
  induction events generalizing decoder with
  | nil => trivial
  | cons event rest ih =>
      have later : ∀ merged, .addDbcFile (some merged) ∈ rest → merged.DistinctIds :=
        fun merged member => loads merged (List.mem_cons_of_mem _ member)
      cases event with
      | decodeFrame frame timestampNs =>
          obtain ⟨kept, same⟩ := @decodeFrame_sound decoder frame timestampNs sound
          exact ⟨owned.undisputed distinct, ih kept (owned.decodeFrame sound) (same ▸ distinct) later⟩
      | addDbcFile merged =>
          cases merged with
          | none => exact ih sound owned distinct later
          | some db =>
              exact ih faithful_nil ⟨faithful_nil, faithful_nil⟩ (loads db List.mem_cons_self) later

theorem new_sound (db : Database) (maxCacheSize : Nat)
    (sizeInRange : minCacheSize ≤ maxCacheSize ∧ maxCacheSize ≤ maxCacheSizeLimit) :
    (new db maxCacheSize sizeInRange).Sound ∧ (new db maxCacheSize sizeInRange).Owned :=
  ⟨faithful_nil, faithful_nil, faithful_nil⟩

end DbcSignalDecoder

/-- The caches change no answer as long as no frame meets metadata of another message. -/
theorem caches_transparent (db : Database) (maxCacheSize : Nat)
    (sizeInRange : minCacheSize ≤ maxCacheSize ∧ maxCacheSize ≤ maxCacheSizeLimit)
    (events : List DecoderEvent)
    (undisputed : (DbcSignalDecoder.new db maxCacheSize sizeInRange).NoDispute events) :
    (DbcSignalDecoder.new db maxCacheSize sizeInRange).answers events = db.answers events :=
  DbcSignalDecoder.answers_eq (DbcSignalDecoder.new_sound db maxCacheSize sizeInRange).1 undisputed

def speed (unit : String) : SignalDef where
  name := "Speed"
  unit := some unit
  length := 8
  isSigned := false
  scale := 1
  offset := 0

def speedMessage (unit : String) (isExtended : Bool) : Message where
  name := unit
  frameId := 0x123
  isExtendedFrame := isExtended
  length := 1
  signals := [speed unit]
  decode := fun _ => .ok [("Speed", .number 5)]

def speedFields (isExtended : Bool) : FrameFields where
  channelId := "can0"
  arbitrationId := 0x123
  dlc := 1
  data := [5]
  isExtended := isExtended

def standardFrame : CanFrame := ⟨speedFields false, by decide⟩

def extendedFrame : CanFrame := ⟨speedFields true, by decide⟩

def bothFormats : Database where
  messages := [speedMessage "mph" true, speedMessage "km/h" false]
  byFrameId := fun frameId => if frameId = 0x123 then some (speedMessage "km/h" false) else none

def oneFormat : Database where
  messages := [speedMessage "km/h" false]
  byFrameId := fun frameId => if frameId = 0x123 then some (speedMessage "km/h" false) else none

def twoFrames (first second : CanFrame) : List DecoderEvent :=
  [.decodeFrame first 0, .decodeFrame second 1]

def unitsOf (answer : Answer) : List String :=
  match answer with
  | .ok (some message) => message.signals.map DecodedSignal.unit
  | _ => []

theorem oneFormat_distinct : oneFormat.DistinctIds := by
  have only (msg : Message) (found : oneFormat.Finds msg) : msg = speedMessage "km/h" false := by
    obtain ⟨arbitrationId, isExtended, looked⟩ := found
    rcases mem_of_lookup looked with member | known
    · exact List.mem_singleton.mp member
    · change (if arbitrationId = 0x123 then some (speedMessage "km/h" false) else none) = some msg
        at known
      split at known
      · exact (Option.some.inj known).symm
      · cases known
  intro one other first second _
  rw [only one first, only other second]

theorem caches_transparent_oneFormat :
    (DbcSignalDecoder.new oneFormat 1 (by decide)).answers (twoFrames standardFrame standardFrame) =
      oneFormat.answers (twoFrames standardFrame standardFrame) := by
  obtain ⟨sound, owned⟩ := DbcSignalDecoder.new_sound oneFormat 1 (by decide)
  refine caches_transparent oneFormat 1 (by decide) (twoFrames standardFrame standardFrame) ?_
  refine DbcSignalDecoder.noDispute_of_distinct sound owned oneFormat_distinct ?_
  intro merged member
  rcases List.mem_cons.mp member with same | member
  · cases same
  · cases List.mem_singleton.mp member

/-- The extended frame is decoded with the unit of the standard message. -/
theorem formats_share_metadata :
    ((DbcSignalDecoder.new bothFormats 2048 (by decide)).answers
        (twoFrames standardFrame extendedFrame)).map unitsOf = [["km/h"], ["km/h"]] ∧
      (bothFormats.answers (twoFrames standardFrame extendedFrame)).map unitsOf =
        [["km/h"], ["mph"]] ∧
      (DbcSignalDecoder.new bothFormats 2048 (by decide)).answers
        (twoFrames standardFrame extendedFrame) ≠
        bothFormats.answers (twoFrames standardFrame extendedFrame) := by
  have cached : ((DbcSignalDecoder.new bothFormats 2048 (by decide)).answers
      (twoFrames standardFrame extendedFrame)).map unitsOf = [["km/h"], ["km/h"]] := by decide
  have uncached : (bothFormats.answers (twoFrames standardFrame extendedFrame)).map unitsOf =
      [["km/h"], ["mph"]] := by decide
  refine ⟨cached, uncached, fun same => ?_⟩
  rw [same, uncached] at cached
  exact absurd cached (by decide)

end Ucanlab.Engine.Decoder
