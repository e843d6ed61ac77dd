import Ucanlab.Core.CanFrame
import Ucanlab.Lib.Dict
import Ucanlab.Lib.RingLog

/-!
The binary ring buffer: frames packed into fixed records, channel names as numbers of 16
bits, and the read-out of the latest records. Left out are the reading of records of the
older layout and the lock: a read-out sees the records and the names of one moment.
-/

namespace Ucanlab.Engine

open Ucanlab

/-- The record layout, in the widths of its fields; the payload has 64 places. -/
structure CanRecord where
  timestampNs : UInt64 := 0
  arbitrationId : UInt32 := 0
  dlc : UInt8 := 0
  flags : UInt8 := 0
  dataLen : UInt8 := 0
  reserved : UInt8 := 0
  channelIdInt : UInt16 := 0
  sourceCode : UInt8 := 0
  reserved2 : UInt8 := 0
  data : Bytes := List.replicate 64 0
  deriving DecidableEq

def channelSentinel : Nat := 0xFFFF

def sourceToCode : FrameSource → Nat
  | .physical => 0
  | .replay => 1
  | .virtual => 2
  | .injected => 3
  | .synthetic => 4

def codeToSource (code : Nat) : FrameSource :=
  match code with
  | 1 => .replay
  | 2 => .virtual
  | 3 => .injected
  | 4 => .synthetic
  | _ => .physical

/-- The provenance in two bits of the flags, as records of the older layout have it. -/
def legacyFlagBitsToSource (bits : Nat) : FrameSource :=
  match bits with
  | 1 => .replay
  | 2 => .virtual
  | 3 => .injected
  | _ => .physical

def decodeSource (sourceCode flags : Nat) : FrameSource :=
  let legacyBits := (flags >>> 5) &&& 0x03
  if sourceCode = 0 ∧ legacyBits ≠ 0 then legacyFlagBitsToSource legacyBits
  else codeToSource sourceCode

def recordFlags (isExtended isFd brs esi isTx : Bool) (source : FrameSource) (busOff : Bool) :
    Nat :=
  isExtended.toNat ||| (isFd.toNat <<< 1) ||| (brs.toNat <<< 2) ||| (esi.toNat <<< 3) |||
    (isTx.toNat <<< 4) ||| (min (sourceToCode source) 3 <<< 5) ||| (busOff.toNat <<< 7)

structure BinaryRingBuffer where
  ring : RingLog CanRecord
  channelMap : Dict String Nat := []
  revChannelMap : Dict Nat String := []
  revChannelSnapshot : Dict Nat String := []
  channelOverflowCount : Nat := 0

structure RingCapacity where
  value : Nat
  admitted : 1 ≤ value ∧ value ≤ 1000000

/-- A number does not fit the width of its field. -/
inductive RingError where
  | overflow (value : Int)
  deriving DecidableEq, Repr

namespace BinaryRingBuffer

def new (capacity : RingCapacity) : BinaryRingBuffer where
  ring := { slots := List.replicate capacity.value {}, head := 0, written := 0 }

/-- The number for a channel that has none yet. -/
def internChannel (buffer : BinaryRingBuffer) (channelId : String) : BinaryRingBuffer × Nat :=
  if buffer.channelMap.length ≥ channelSentinel then
    ({ buffer with
        channelMap := buffer.channelMap.set channelId channelSentinel
        channelOverflowCount :=
          if buffer.channelMap.contains channelId then buffer.channelOverflowCount
          else buffer.channelOverflowCount + 1 },
      channelSentinel)
  else
    let value := buffer.channelMap.length
    let names := buffer.revChannelMap.set value channelId
    ({ buffer with
        channelMap := buffer.channelMap.set channelId value
        revChannelMap := names
        revChannelSnapshot := names },
      value)

def channelInt (buffer : BinaryRingBuffer) (channelId : String) : BinaryRingBuffer × Nat :=
  match buffer.channelMap.get? channelId with
  | some value => (buffer, value)
  | none => buffer.internChannel channelId

def recordOf (frame : RecordedFrame) (timestampNs channelInt : Nat) : CanRecord where
  timestampNs := UInt64.ofNat timestampNs
  arbitrationId := UInt32.ofNat frame.frame.arbitrationId
  dlc := UInt8.ofNat frame.frame.dlc
  flags := UInt8.ofNat (recordFlags frame.frame.isExtended frame.frame.isFd frame.frame.brs
    frame.frame.esi (frame.frame.direction == .tx) frame.frame.source
    (frame.frame.errorState == .busOff))
  dataLen := UInt8.ofNat (min frame.frame.data.length 64)
  channelIdInt := UInt16.ofNat channelInt
  sourceCode := UInt8.ofNat (sourceToCode frame.frame.source)
  data := (frame.frame.data ++ List.replicate (64 - frame.frame.data.length) 0).take 64

def fitsUInt64 (value : Int) : Bool := decide (0 ≤ value ∧ value < 2 ^ 64)

/-- `append`: a timestamp that does not fit is refused when the channel has its number. -/
def append (buffer : BinaryRingBuffer) (frame : RecordedFrame) :
    BinaryRingBuffer × Except RingError Nat :=
  match buffer.channelInt frame.frame.channelId with
  | (buffer, channel) =>
      if ¬ fitsUInt64 frame.timestampNs then (buffer, .error (.overflow frame.timestampNs))
      else
        ({ buffer with
            ring := buffer.ring.push (recordOf frame frame.timestampNs.toNat channel) },
          .ok buffer.ring.written)

/-- The frames up to the first one that is refused. -/
def appendBatch (buffer : BinaryRingBuffer) :
    List RecordedFrame → BinaryRingBuffer × Except RingError Nat
  | [] => (buffer, .ok buffer.ring.written)
  | frame :: rest =>
      match buffer.append frame with
      | (buffer, .error error) => (buffer, .error error)
      | (buffer, .ok _) => buffer.appendBatch rest

def clear (buffer : BinaryRingBuffer) : BinaryRingBuffer where
  ring := { slots := buffer.ring.slots.map (fun _ => {}), head := 0, written := 0 }

def frameOf (names : Dict Nat String) (record : CanRecord) (sequence : Nat) :
    Except FrameError RecordedFrame :=
  let flags := record.flags.toNat
  let channelInt := record.channelIdInt.toNat
  (CanFrame.new {
    channelId := (names.get? channelInt).getD ("ch_" ++ toString channelInt)
    arbitrationId := record.arbitrationId.toNat
    dlc := record.dlc.toNat
    data := record.data.take record.dataLen.toNat
    isExtended := decide (flags &&& 0x01 ≠ 0)
    isFd := decide (flags &&& 0x02 ≠ 0)
    brs := decide (flags &&& 0x04 ≠ 0)
    esi := decide (flags &&& 0x08 ≠ 0)
    direction := if flags &&& 0x10 ≠ 0 then .tx else .rx
    errorState := if flags &&& 0x80 ≠ 0 then .busOff else .active
    source := decodeSource record.sourceCode.toNat flags }).map
      (fun frame => {
        frame := frame
        timestampNs := record.timestampNs.toNat
        sequence := sequence })

def framesOf (names : Dict Nat String) :
    List CanRecord → Nat → Except FrameError (List RecordedFrame)
  | [], _ => .ok []
  | record :: rest, sequence =>
      match frameOf names record sequence with
      | .error error => .error error
      | .ok frame =>
          match framesOf names rest (sequence + 1) with
          | .error error => .error error
          | .ok frames => .ok (frame :: frames)

def getLatestFrames (buffer : BinaryRingBuffer) (count : Int) :
    Except FrameError (List RecordedFrame) :=
  let parts := buffer.ring.view count.toNat
  let n := min count (min buffer.ring.written buffer.ring.capacity)
  if n ≤ 0 then .ok []
  else
    let records := parts.1 ++ parts.2
    framesOf buffer.revChannelSnapshot (records.drop (records.length - n.toNat))
      (buffer.ring.written - n.toNat)

end BinaryRingBuffer

inductive BufferEvent where
  | append (frame : RecordedFrame)
  | appendBatch (frames : List RecordedFrame)
  | clear

def BinaryRingBuffer.perform (buffer : BinaryRingBuffer) : BufferEvent → BinaryRingBuffer
  | .append frame => (buffer.append frame).1
  | .appendBatch frames => (buffer.appendBatch frames).1
  | .clear => buffer.clear

end Ucanlab.Engine
