import Ucanlab.Engine.ReassemblyPipeline
import Ucanlab.Protocols.J1939.Transport

/-!
The way of a frame through the whole pipeline: the check against the markers of the
pipeline's own frames, the J1939 and ISO-TP handlers, and the synthetic frame made of a
completed message. Left out are the other statistics, the decoding of signals, the
listeners and the responses handed to the sending port: none of them changes a marker.
-/

namespace Ucanlab.Engine

open Ucanlab IsoTp J1939

def internalSyntheticIdsCap : Nat := 4096

/-- Channel, arbitration identifier and timestamp. -/
abbrev FrameIdentity := String × Nat × Int

structure StampedFrame where
  frame : CanFrame
  timestampNs : Int
  deriving DecidableEq

def StampedFrame.identity (arrival : StampedFrame) : FrameIdentity :=
  (arrival.frame.channelId, arrival.frame.arbitrationId, arrival.timestampNs)

/-- A reassembled message with all its synthetic frame is made of. -/
structure Transfer where
  data : Bytes
  channel : ChannelId
  arbitrationId : Nat
  inRange : arbitrationId ≤ 0x1FFFFFFF
  timestampNs : Int
  sourceAddress : Option Nat
  deriving DecidableEq

theorem arbitrationId_inRange (frame : CanFrame) : frame.arbitrationId ≤ 0x1FFFFFFF := by
  have bounded := frame.wellFormed.arbitrationId
  unfold maxId at bounded
  split at bounded
  · exact bounded
  · omega

/-- An ISO-TP message has the identity of the frame that completes it. -/
def Transfer.ofFrame (arrival : StampedFrame) (data : Bytes) : Transfer where
  data := data
  channel := arrival.frame.channel
  arbitrationId := arrival.frame.arbitrationId
  inRange := arbitrationId_inRange arrival.frame
  timestampNs := arrival.timestampNs
  sourceAddress := none

def Transfer.ofJ1939 (timestampNs : Int) (message : CompletedMessage) : Transfer where
  data := message.data
  channel := message.channel
  arbitrationId := buildJ1939Id message.pgn message.sourceAddress.toNat
    (some message.destinationAddress.toNat) 6
  inRange := Nat.le_of_lt_succ (buildJ1939Id_lt ..)
  timestampNs := timestampNs
  sourceAddress := some message.sourceAddress.toNat

def synthesizedPayload (data : Bytes) : Except FrameError (Bytes × Bool × Nat) :=
  if data.length ≤ 8 then (lengthToDlc data.length).map (data, false, ·)
  else if data.length ≤ 64 then (lengthToDlc data.length).map (data, true, ·)
  else .ok (data.take 64, true, 15)

def Transfer.synthesize (message : Transfer) : Except FrameError StampedFrame :=
  match synthesizedPayload message.data with
  | .error error => .error error
  | .ok (data, isFd, dlc) =>
      (CanFrame.create {
        channelId := message.channel.name
        arbitrationId := message.arbitrationId
        dlc := 0
        data := data
        isExtended := decide (message.arbitrationId > 0x7FF) || message.sourceAddress.isSome
        isFd := isFd
        source := .synthetic } (some dlc)).map (fun frame => ⟨frame, message.timestampNs⟩)

/-- The readings of the clock within one call: for the sessions to reap, for the J1939
engine and for ISO-TP. -/
structure IngressClock where
  reap : Nat
  reapTransport : Nat
  transport : Clock
  isotp : Nat
  deriving DecidableEq, Repr

structure FramePipeline extends ReassemblyPipeline where
  j1939Transport : J1939TransportProtocol := {}
  isotpTransport : Option ReceivingTransport := none
  routesSyntheticFrames : Bool := true
  internalSyntheticIds : Dict FrameIdentity Unit := []
  totalFramesProcessed : Nat := 0

/-- The message completed, with its synthetic frame. -/
abbrev Ingress := Except FrameError (Option (Transfer × StampedFrame))

namespace FramePipeline

def reapStaleSessions (pipeline : FramePipeline) (clock : IngressClock) : FramePipeline :=
  { pipeline with
    toReassemblyPipeline := pipeline.reapStaleIsotpSessions clock.reap
    j1939Transport := pipeline.j1939Transport.reapStaleSessions clock.reapTransport }

def tryProcessJ1939 (pipeline : FramePipeline) (clock : Clock) (arrival : StampedFrame) :
    FramePipeline × Option Transfer :=
  let pgn := (parseJ1939Id arrival.frame.arbitrationId).pgn
  if pgn ≠ pgnTpCm ∧ pgn ≠ pgnTpDt then (pipeline, none)
  else
    match pipeline.j1939Transport.handleRxFrame clock arrival.frame false with
    | (engine, completed, _) =>
        ({ pipeline with j1939Transport := engine.takePendingTxFrames.1 },
          completed.map (Transfer.ofJ1939 arrival.timestampNs))

def staticTransport (pipeline : FramePipeline) (frame : CanFrame) : Option ReceivingTransport :=
  pipeline.isotpTransport.filter (fun transport => decide (frame.arbitrationId = transport.rxId))

def tryProcessIsotp (pipeline : FramePipeline) (now : Nat) (arrival : StampedFrame) :
    FramePipeline × Except FrameError (Option Transfer) :=
  if ¬ pipeline.isIsotpFrame arrival.frame ∨ arrival.frame.data.length < 2 then
    (pipeline, .ok none)
  else
    match pipeline.staticTransport arrival.frame with
    | some transport =>
        match transport.handleRxFrame now arrival.frame with
        | (transport, handled) =>
            ({ pipeline with isotpTransport := some transport },
              handled.map (fun result => result.1.map (Transfer.ofFrame arrival)))
    | none =>
        match pipeline.handleDynamicIsotp now arrival.frame with
        | (isotp, outcome) =>
            ({ pipeline with toReassemblyPipeline := isotp },
              outcome.map (fun result =>
                result.1.map (fun message => Transfer.ofFrame arrival message.data)))

def registerSynthetic (pipeline : FramePipeline) (identity : FrameIdentity) : FramePipeline :=
  let ids := pipeline.internalSyntheticIds.set identity ()
  { pipeline with internalSyntheticIds := ids.drop (ids.length - internalSyntheticIdsCap) }

/-- Up to the marker; what follows runs without a change of the pipeline. -/
def finalizeReassembledMessage (pipeline : FramePipeline) (message : Transfer) :
    FramePipeline × Ingress :=
  match message.synthesize with
  | .error error => (pipeline, .error error)
  | .ok synthetic =>
      (pipeline.registerSynthetic synthetic.identity, .ok (some (message, synthetic)))

def finishIsotp (pipeline : FramePipeline) (now : Nat) (arrival : StampedFrame) :
    FramePipeline × Ingress :=
  match pipeline.tryProcessIsotp now arrival with
  | (pipeline, .error error) => (pipeline, .error error)
  | (pipeline, .ok none) => (pipeline, .ok none)
  | (pipeline, .ok (some message)) => pipeline.finalizeReassembledMessage message

/-- The protocol handlers, J1939 before ISO-TP. -/
def interceptFrame (pipeline : FramePipeline) (clock : IngressClock) (arrival : StampedFrame) :
    FramePipeline × Ingress :=
  let counted := { pipeline with totalFramesProcessed := pipeline.totalFramesProcessed + 1 }
  let reaped :=
    if counted.totalFramesProcessed % 64 = 0 then counted.reapStaleSessions clock else counted
  if arrival.frame.isExtended ∨ arrival.frame.arbitrationId > 0x7FF then
    match reaped.tryProcessJ1939 clock.transport arrival with
    | (pipeline, some message) => pipeline.finalizeReassembledMessage message
    | (pipeline, none) => pipeline.finishIsotp clock.isotp arrival
  else reaped.finishIsotp clock.isotp arrival

def consumeMarker (pipeline : FramePipeline) (identity : FrameIdentity) : FramePipeline :=
  { pipeline with internalSyntheticIds := pipeline.internalSyntheticIds.erase identity }

def processFrame (pipeline : FramePipeline) (clock : IngressClock) (arrival : StampedFrame) :
    FramePipeline × Ingress :=
  if pipeline.internalSyntheticIds.contains arrival.identity then
    (pipeline.consumeMarker arrival.identity, .ok none)
  else pipeline.interceptFrame clock arrival

def synthesized : Ingress → Option StampedFrame
  | .ok (some (_, synthetic)) => some synthetic
  | _ => none

def reset (pipeline : FramePipeline) : FramePipeline :=
  { pipeline with
    isotpSessions := []
    isotpPerSaSessions := fun _ => 0
    j1939Transport := pipeline.j1939Transport.resetSessions
    internalSyntheticIds := []
    totalFramesProcessed := 0 }

end FramePipeline

end Ucanlab.Engine
