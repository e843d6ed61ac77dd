import Ucanlab.Core.PyText
import Ucanlab.Lib.StructFormat
import Ucanlab.Lib.Dict
import Ucanlab.Lib.EventRun

/-!
The chunks of the rolling disk buffer: the admission check of a frame, its record of fixed
width, and the chunk of records behind an authenticated header.
-/

namespace Ucanlab.Engine.RollingDisk

open Ucanlab StructFormat

/-- The exceptions of the codec. -/
inductive DiskError where
  | valueError (message : String)
  | structError
  | securityError (message : String)
  deriving DecidableEq

/-- `b"UCAN0001"`. -/
def chunkMagic : Bytes := [0x55, 0x43, 0x41, 0x4E, 0x30, 0x30, 0x30, 0x31]

def chunkVersion : Int := 2

def channelIdSize : Nat := 32

def dataSize : Nat := 64

/-- `<8sBBIH`. -/
abbrev headerPrefixFormat : List Field :=
  [.bytes 8, .unsigned 1, .unsigned 1, .unsigned 4, .unsigned 2]

/-- `<8sBBIH32s`. -/
abbrev headerFormat : List Field :=
  [.bytes 8, .unsigned 1, .unsigned 1, .unsigned 4, .unsigned 2, .bytes 32]

/-- `<IQQQqHBBBBH32sB64s`. -/
abbrev frameFormat : List Field :=
  [.unsigned 4, .unsigned 8, .unsigned 8, .unsigned 8, .signed 8, .unsigned 2, .unsigned 1,
    .unsigned 1, .unsigned 1, .unsigned 1, .unsigned 2, .bytes 32, .unsigned 1, .bytes 64]

def headerPrefixSize : Nat := size headerPrefixFormat

def headerSize : Nat := size headerFormat

def frameSize : Nat := size frameFormat

example : headerPrefixSize = 16 ∧ headerSize = 48 ∧ frameSize = 141 := by decide

def flagReservedMask : Nat := 0xFF80

def errorStateToCode : ErrorState → Nat
  | .active => 0
  | .passive => 1
  | .busOff => 2

def codeToErrorState : Nat → Option ErrorState
  | 0 => some .active
  | 1 => some .passive
  | 2 => some .busOff
  | _ => none

def sourceToCode : FrameSource → Nat
  | .physical => 0
  | .replay => 1
  | .virtual => 2
  | .injected => 3
  | .synthetic => 4

def codeToSource : Nat → Option FrameSource
  | 0 => some .physical
  | 1 => some .replay
  | 2 => some .virtual
  | 3 => some .injected
  | 4 => some .synthetic
  | _ => none

/-- `str.encode("utf-8")`. -/
def utf8Encode (text : String) : Bytes := text.toByteArray.data.toList

/-- `bytes.decode("utf-8", errors="strict")`. -/
def utf8Decode (raw : Bytes) : Option String := String.fromUTF8? ⟨raw.toArray⟩

def isU64 (value : Int) : Bool := decide (0 ≤ value ∧ value ≤ 0xFFFFFFFFFFFFFFFF)

def checkedU64 (value : Int) (fieldName : String) : Except DiskError Int :=
  if ¬ isU64 value then
    .error (.valueError (fieldName ++ " must fit in an unsigned 64-bit integer"))
  else .ok value

/-- A timestamp that a frame may lack. -/
def checkedOptionalU64 (value : Option Int) (fieldName : String) : Except DiskError Int :=
  match value with
  | none => .ok 0
  | some value => checkedU64 value fieldName

def isI64 (value : Int) : Bool := decide (-(2 ^ 63) ≤ value ∧ value < 2 ^ 63)

/-- `_check_frame`; its last two checks, that the error state and the source have codes, pass
for every value of the enumerations. -/
def checkFrame (frame : RecordedFrame) : Option DiskError :=
  if (utf8Encode frame.frame.channelId).length > channelIdSize then
    some (.valueError "channel_id exceeds 32 UTF-8 bytes")
  else if frame.frame.data.length > dataSize then
    some (.valueError "CAN payload exceeds 64 bytes")
  else if ¬ isI64 frame.sequence then
    some (.valueError "sequence must fit in a signed 64-bit integer")
  else if ¬ isU64 frame.timestampNs then
    some (.valueError "timestamp_ns must fit in an unsigned 64-bit integer")
  else if frame.hardwareTimestampNs.any (fun value => !isU64 value) then
    some (.valueError "hardware_timestamp_ns must fit in an unsigned 64-bit integer")
  else if frame.hostTimestampNs.any (fun value => !isU64 value) then
    some (.valueError "host_timestamp_ns must fit in an unsigned 64-bit integer")
  else none

def frameFlags (isExtended isFd brs esi isTx hasHardware hasHost : Bool) : Nat :=
  isExtended.toNat ||| (isFd.toNat <<< 1) ||| (brs.toNat <<< 2) ||| (esi.toNat <<< 3) |||
    (isTx.toNat <<< 4) ||| (hasHardware.toNat <<< 5) ||| (hasHost.toNat <<< 6)

def frameValues (frame : RecordedFrame) (channel : Bytes)
    (timestampNs hardwareTimestampNs hostTimestampNs : Int) : Values frameFormat :=
  ((frame.frame.arbitrationId : Int), timestampNs, hardwareTimestampNs, hostTimestampNs,
    frame.sequence,
    (frameFlags frame.frame.isExtended frame.frame.isFd frame.frame.brs frame.frame.esi
      (frame.frame.direction == .tx) frame.hardwareTimestampNs.isSome
      frame.hostTimestampNs.isSome : Int),
    (frame.frame.dlc : Int), (errorStateToCode frame.frame.errorState : Int),
    (sourceToCode frame.frame.source : Int), (channel.length : Int), (0 : Int),
    channel ++ List.replicate (channelIdSize - channel.length) 0,
    (frame.frame.data.length : Int),
    frame.frame.data ++ List.replicate (dataSize - frame.frame.data.length) 0xCC, ())

/-- `struct.pack`, which raises for an integer that does not fit its field. -/
def structPack (format : List Field) (values : Values format) : Except DiskError Bytes :=
  match pack format values with
  | some raw => .ok raw
  | none => .error .structError

def serializeFrame (frame : RecordedFrame) : Except DiskError Bytes :=
  let channel := utf8Encode frame.frame.channelId
  if channel.length > channelIdSize then
    .error (.valueError "channel_id exceeds 32 UTF-8 bytes")
  else if frame.frame.data.length > dataSize then
    .error (.valueError "CAN payload exceeds 64 bytes")
  else if ¬ isI64 frame.sequence then
    .error (.valueError "sequence must fit in a signed 64-bit integer")
  else
    match checkedOptionalU64 frame.hardwareTimestampNs "hardware_timestamp_ns" with
    | .error error => .error error
    | .ok hardwareTimestampNs =>
        match checkedOptionalU64 frame.hostTimestampNs "host_timestamp_ns" with
        | .error error => .error error
        | .ok hostTimestampNs =>
            match checkedU64 frame.timestampNs "timestamp_ns" with
            | .error error => .error error
            | .ok timestampNs =>
                structPack frameFormat
                  (frameValues frame channel timestampNs hardwareTimestampNs hostTimestampNs)

def serializeFrames : List RecordedFrame → Except DiskError Bytes
  | [] => .ok []
  | frame :: rest =>
      match serializeFrame frame with
      | .error error => .error error
      | .ok raw =>
          match serializeFrames rest with
          | .error error => .error error
          | .ok later => .ok (raw ++ later)

def keySize : Nat := 32

def serializeChunk (digests : Digests) (frames : List RecordedFrame) (key : Bytes) :
    Except DiskError Bytes :=
  if key.length ≠ keySize then
    .error (.securityError "Rolling disk HMAC key has invalid length")
  else if frames.length > 0xFFFFFFFF then
    .error (.valueError "Chunk frame count exceeds format limit")
  else
    (serializeFrames frames).bind (fun body =>
      (structPack headerPrefixFormat
        (chunkMagic, chunkVersion, 0, (frames.length : Int), (frameSize : Int), ())).map
          (fun front => front ++ digests.hmacSha256 key (front ++ body) ++ body))

def deserializeFrame (raw : Bytes) : Except DiskError RecordedFrame :=
  match unpack frameFormat raw with
  | none => .error .structError
  | some (arbitrationId, timestampNs, hardwareTimestampNs, hostTimestampNs, sequence, flagBits,
      dlc, errorStateCode, sourceCode, channelLen, reserved, channelRaw, dataLen, dataRaw, ()) =>
      let flags := flagBits.toNat
      if flags &&& flagReservedMask ≠ 0 then
        .error (.securityError "Reserved frame flag bits are set")
      else if reserved ≠ 0 then .error (.securityError "Reserved frame field is non-zero")
      else if channelLen > channelIdSize then
        .error (.securityError "Invalid channel identifier length")
      else if dataLen > dataSize then .error (.securityError "Invalid CAN payload length")
      else
        match utf8Decode (channelRaw.take channelLen.toNat),
            codeToErrorState errorStateCode.toNat, codeToSource sourceCode.toNat with
        | some channelId, some errorState, some source =>
            match CanFrame.new {
                channelId := channelId
                arbitrationId := arbitrationId.toNat
                dlc := dlc.toNat
                data := dataRaw.take dataLen.toNat
                isExtended := decide (flags &&& 0x01 ≠ 0)
                isFd := decide (flags &&& 0x02 ≠ 0)
                brs := decide (flags &&& 0x04 ≠ 0)
                esi := decide (flags &&& 0x08 ≠ 0)
                direction := if flags &&& 0x10 ≠ 0 then .tx else .rx
                errorState := errorState
                source := source } with
            | .error _ => .error (.securityError "Invalid frame data in rolling disk chunk")
            | .ok frame => .ok {
                frame := frame
                timestampNs := timestampNs
                hardwareTimestampNs :=
                  if flags &&& 0x20 ≠ 0 then some hardwareTimestampNs else none
                hostTimestampNs := if flags &&& 0x40 ≠ 0 then some hostTimestampNs else none
                sequence := sequence }
        | _, _, _ => .error (.securityError "Invalid frame data in rolling disk chunk")

def bodyRecords (body : Bytes) : List Bytes :=
  (List.range ((body.length + (frameSize - 1)) / frameSize)).map
    (fun index => (body.drop (index * frameSize)).take frameSize)

def deserializeFrames : List Bytes → Except DiskError (List RecordedFrame)
  | [] => .ok []
  | raw :: rest =>
      match deserializeFrame raw with
      | .error error => .error error
      | .ok frame =>
          match deserializeFrames rest with
          | .error error => .error error
          | .ok frames => .ok (frame :: frames)

def deserializeChunk (digests : Digests) (raw key : Bytes) :
    Except DiskError (List RecordedFrame) :=
  if key.length ≠ keySize then
    .error (.securityError "Rolling disk HMAC key has invalid length")
  else if raw.length < headerSize then .error (.securityError "Rolling disk chunk is too short")
  else
    match unpack headerFormat (raw.take headerSize) with
    | none => .error .structError
    | some (magic, version, headerFlags, count, recordSize, storedMac, ()) =>
        if magic ≠ chunkMagic then .error (.securityError "Invalid rolling disk chunk magic")
        else if version ≠ chunkVersion then
          .error (.securityError ("Unsupported rolling disk chunk version " ++ toString version))
        else if headerFlags ≠ 0 then
          .error (.securityError "Reserved chunk header flags are set")
        else if recordSize ≠ frameSize then
          .error (.securityError "Unexpected rolling disk frame size")
        else if (raw.length : Int) ≠ headerSize + count * frameSize then
          .error (.securityError "Rolling disk chunk length does not match its header")
        else
          let body := raw.drop headerSize
          if digests.hmacSha256 key (raw.take headerPrefixSize ++ body) ≠ storedMac then
            .error (.securityError "Rolling disk chunk HMAC mismatch")
          else deserializeFrames (bodyRecords body)

end Ucanlab.Engine.RollingDisk

/-!
The rolling disk buffer between its locks: frames are appended under one lock section, the
pending chunk is detached under another, and what a thread does in between is its own. The
key is the one the vault holds all along. Left out are the retention sweep, which deletes whole
files, the failures of the file system, and `clear`.
-/

namespace Ucanlab.Engine.RollingDisk

open Ucanlab

def compressBound (length : Nat) : Nat :=
  length + length / 256 + (if length < 131072 then (131072 - length) / 2048 else 0)

/-- The compressor, a package of its own: what it compressed it gives back, and what it cannot
compress grows by no more than its documented bound. -/
structure Zstd where
  compress : Bytes → Bytes
  decompress : Bytes → Option Bytes
  givesBack : ∀ raw, decompress (compress raw) = some raw
  bounded : ∀ raw, (compress raw).length ≤ compressBound raw.length

def chunkThresholdFrames : Nat := 25000

def maxChunkFrames : Nat := 100000

def maxChunkBytes : Nat := 32 * 1024 * 1024

def maxStoredFileBytes : Nat := 16 * 1024 * 1024

structure DiskSettings where
  chunkFrameThreshold : Nat
  key : Bytes
  admitted : 1 ≤ chunkFrameThreshold ∧ chunkFrameThreshold ≤ maxChunkFrames
  keyLength : key.length = keySize

namespace DiskSettings

def maxReadFrames (settings : DiskSettings) : Nat :=
  max settings.chunkFrameThreshold chunkThresholdFrames

/-- `_max_chunk_bytes`. -/
def readLimit (settings : DiskSettings) : Nat :=
  min (headerSize + settings.maxReadFrames * frameSize) maxChunkBytes

end DiskSettings

structure ChunkName where
  index : Nat
  timestampNs : Int
  deriving DecidableEq

/-- Where a thread stands between its lock sections. -/
inductive Control where
  | owesFlush
  | holds (frames : List RecordedFrame) (chunkIndex : Nat)

structure RollingDiskBuffer where
  currentChunkFrames : List RecordedFrame := []
  chunkIndex : Nat := 0
  closed : Bool := false
  available : Bool := true
  rejectedFrames : Nat := 0
  threads : Dict Nat Control := []
  flushQueue : List (ChunkName × Bytes) := []
  storage : List (ChunkName × Bytes) := []

inductive DiskEvent where
  | append (thread : Nat) (frame : RecordedFrame)
  | flush (thread : Nat)
  | enqueue (thread : Nat) (keyAvailable : Bool)
  | write (position : Nat)
  | close

namespace RollingDiskBuffer

/-- The lock section of `append`, which finds out whether the thread has to flush. -/
def append (settings : DiskSettings) (buffer : RollingDiskBuffer) (thread : Nat)
    (frame : RecordedFrame) : RollingDiskBuffer :=
  if (checkFrame frame).isSome then { buffer with rejectedFrames := buffer.rejectedFrames + 1 }
  else if buffer.closed ∨ ¬ buffer.available then
    { buffer with rejectedFrames := buffer.rejectedFrames + 1 }
  else
    let frames := buffer.currentChunkFrames ++ [frame]
    { buffer with
      currentChunkFrames := frames
      threads :=
        if frames.length ≥ settings.chunkFrameThreshold then buffer.threads.set thread .owesFlush
        else buffer.threads }

/-- The lock section of `flush`: the pending chunk becomes the thread's own. -/
def detach (buffer : RollingDiskBuffer) (thread : Nat) : RollingDiskBuffer :=
  if buffer.currentChunkFrames = [] then { buffer with threads := buffer.threads.erase thread }
  else
    { buffer with
      currentChunkFrames := []
      chunkIndex := buffer.chunkIndex + 1
      threads := buffer.threads.set thread (.holds buffer.currentChunkFrames buffer.chunkIndex) }

/-- The rest of `flush`: the chunk is serialized and handed to the writer. -/
def enqueue (digests : Digests) (settings : DiskSettings) (buffer : RollingDiskBuffer)
    (thread : Nat) (frames : List RecordedFrame) (chunkIndex : Nat) (keyAvailable : Bool) :
    RollingDiskBuffer :=
  if ¬ keyAvailable then
    { buffer with available := false, threads := buffer.threads.erase thread }
  else
    match serializeChunk digests frames settings.key with
    | .error _ =>
        { buffer with
          rejectedFrames := buffer.rejectedFrames + frames.length
          threads := buffer.threads.erase thread }
    | .ok raw =>
        let name : ChunkName := {
          index := chunkIndex
          timestampNs := (frames.head?.map (·.timestampNs)).getD 0 }
        { buffer with
          flushQueue := buffer.flushQueue ++ [(name, raw)]
          threads := buffer.threads.erase thread }

end RollingDiskBuffer

/-- A thread appends when it is idle, flushes when it is idle or owes a flush, and serializes
what it holds. A queued chunk is written by the worker, or by its thread when the queue is full. -/
def RollingDiskBuffer.step (zstd : Zstd) (digests : Digests) (settings : DiskSettings)
    (buffer : RollingDiskBuffer) : DiskEvent → Option RollingDiskBuffer
  | .append thread frame =>
      match buffer.threads.get? thread with
      | none => some (buffer.append settings thread frame)
      | some _ => none
  | .flush thread =>
      match buffer.threads.get? thread with
      | some (.holds _ _) => none
      | _ => some (buffer.detach thread)
  | .enqueue thread keyAvailable =>
      match buffer.threads.get? thread with
      | some (.holds frames chunkIndex) =>
          some (buffer.enqueue digests settings thread frames chunkIndex keyAvailable)
      | _ => none
  | .write position =>
      match buffer.flushQueue[position]? with
      | some (name, raw) => some { buffer with
          flushQueue := buffer.flushQueue.eraseIdx position
          storage := buffer.storage ++ [(name, zstd.compress raw)] }
      | none => none
  | .close => some { buffer with closed := true, available := false }

def decompressBounded (zstd : Zstd) (settings : DiskSettings) (content : Bytes) :
    Except DiskError Bytes :=
  match zstd.decompress content with
  | none => .error (.securityError "Rolling disk chunk decompression failed")
  | some raw =>
      if raw.length > settings.readLimit then
        .error (.securityError "Rolling disk chunk exceeds decompression limit")
      else .ok raw

/-- What `read_all_stored_frames` makes of one file; an error puts it into quarantine. -/
def readChunk (zstd : Zstd) (digests : Digests) (settings : DiskSettings) (content : Bytes) :
    Except DiskError (List RecordedFrame) :=
  if content.length > maxStoredFileBytes then
    .error (.securityError "Rolling disk chunk file exceeds 16777216 bytes")
  else
    (decompressBounded zstd settings content).bind
      (fun raw => deserializeChunk digests raw settings.key)

end Ucanlab.Engine.RollingDisk
