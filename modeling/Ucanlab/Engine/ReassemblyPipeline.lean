import Ucanlab.Uds.IsoTpReassembly

/-!
The dynamic ISO-TP reassembler of the pipeline, for any number of identifiers and
channels. Left out are the statistics, the timestamps of the messages and what becomes
of a Flow Control frame after it is handed to the sending port: none of them changes a
session.
-/

namespace Ucanlab.Engine

open Ucanlab IsoTp

def isotpNcrTimeoutNs : Nat := 1000000000
def maxConcurrentSessions : Nat := 512
def maxSessionsPerSa : Nat := 4
def maxPayloadSize : Nat := 1048576

structure IsoTpSession where
  totalBytes : Nat
  expectedSequenceNumber : Nat := 1
  receivedBytes : Bytes
  lastActivityTime : Nat
  isFd : Bool
  isExtended : Bool
  quotaKey : Nat
  deriving DecidableEq, Repr

structure ReassembledMessage where
  data : Bytes
  channelId : String
  arbitrationId : Nat
  deriving DecidableEq, Repr

structure ReassemblyPipeline where
  hasTxPort : Bool := false
  myIsotpAddress : Nat := 0xF1
  flowControlEnabled : Bool := true
  isotpRxIds : List Nat := []
  isotpSessions : Dict SessionKey IsoTpSession := []
  isotpPerSaSessions : Nat → Nat := fun _ => 0

def defaultIsotpRxIds : List Nat := List.range' 0x7E0 16 ++ [0x7DF]

namespace ReassemblyPipeline

def isIsotpFrame (pipeline : ReassemblyPipeline) (frame : CanFrame) : Bool :=
  decide (frame.arbitrationId ∈ pipeline.isotpRxIds ++ defaultIsotpRxIds) ||
    (frame.isExtended &&
      decide ((frame.arbitrationId >>> 16) &&& 0xFFFF ∈ [0x18DA, 0x18DB]))

def decrementSaQuota (pipeline : ReassemblyPipeline) (session : IsoTpSession) :
    ReassemblyPipeline :=
  { pipeline with
    isotpPerSaSessions := fun key =>
      if key = session.quotaKey then
        if pipeline.isotpPerSaSessions key ≤ 1 then 0 else pipeline.isotpPerSaSessions key - 1
      else pipeline.isotpPerSaSessions key }

def releaseIsotpSession (pipeline : ReassemblyPipeline) (key : SessionKey) : ReassemblyPipeline :=
  match pipeline.isotpSessions.get? key with
  | none => pipeline
  | some session =>
      { pipeline with isotpSessions := pipeline.isotpSessions.erase key }.decrementSaQuota session

/-- The ISO-TP part of `reap_stale_sessions`. -/
def reapStaleIsotpSessions (pipeline : ReassemblyPipeline) (now : Nat) : ReassemblyPipeline :=
  let expired := pipeline.isotpSessions.filter
    (fun entry => decide (now - entry.2.lastActivityTime > isotpNcrTimeoutNs))
  expired.foldl (fun pipeline entry => pipeline.releaseIsotpSession entry.1) pipeline

/-- A full table gives up the session that has been idle longest. -/
def makeRoom (pipeline : ReassemblyPipeline) : ReassemblyPipeline :=
  if pipeline.isotpSessions.length ≥ maxConcurrentSessions then
    match List.argmin (fun entry => entry.2.lastActivityTime) pipeline.isotpSessions with
    | some oldest => pipeline.releaseIsotpSession oldest.1
    | none => pipeline
  else pipeline

def insertSession (pipeline : ReassemblyPipeline) (key : SessionKey) (session : IsoTpSession) :
    ReassemblyPipeline :=
  { pipeline with
    isotpSessions := pipeline.isotpSessions.set key session
    isotpPerSaSessions := fun other =>
      if other = session.quotaKey then pipeline.isotpPerSaSessions other + 1
      else pipeline.isotpPerSaSessions other }

def flowControlId (pipeline : ReassemblyPipeline) (frame : CanFrame) : Option Nat :=
  if ¬ pipeline.hasTxPort then none
  else if frame.isExtended then
    let target := (frame.arbitrationId >>> 8) &&& 0xFF
    let source := frame.arbitrationId &&& 0xFF
    if target ≠ pipeline.myIsotpAddress then none
    else some (0x18DA0000 ||| (source <<< 8) ||| target)
  else if 0x7E8 ≤ frame.arbitrationId ∧ frame.arbitrationId < 0x7F0 then
    some (frame.arbitrationId - 8)
  else none

def buildFcFrame (rxFrame : CanFrame) (txId flowStatus : Nat) : Except FrameError CanFrame :=
  CanFrame.create {
    channelId := rxFrame.channelId
    arbitrationId := txId
    dlc := 0
    data := [UInt8.ofNat ((pciFlowControl <<< 4) ||| (flowStatus &&& 0x0F)), 0x00, 0x00] ++
      List.replicate 5 0xCC
    isExtended := rxFrame.isExtended
    isFd := rxFrame.isFd
    direction := .tx } none

/-- The message completed and the Flow Control handed to the port. -/
abbrev Outcome := Except FrameError (Option ReassembledMessage × Option CanFrame)

def answer (pipeline : ReassemblyPipeline) (frame : CanFrame) (flowStatus : Nat) : Outcome :=
  match pipeline.flowControlId frame with
  | none => .ok (none, none)
  | some txId =>
      if pipeline.flowControlEnabled then
        match buildFcFrame frame txId flowStatus with
        | .ok response => .ok (none, some response)
        | .error error => .error error
      else .ok (none, none)

def completed (frame : CanFrame) (data : Bytes) : Outcome :=
  .ok (some ⟨data, frame.channelId, frame.arbitrationId⟩, none)

def handleSingleFrame (pipeline : ReassemblyPipeline) (frame : CanFrame) :
    ReassemblyPipeline × Outcome :=
  let sfLenNibble := lowNibble (frame.data.getD 0 0)
  if sfLenNibble = 0 then
    if ¬ frame.isFd ∨ frame.data.length < 2 then (pipeline, .ok (none, none))
    else
      let sfLen := (frame.data.getD 1 0).toNat
      if sfLen < 8 ∨ sfLen > 62 ∨ sfLen > frame.data.length - 2 then (pipeline, .ok (none, none))
      else
        (pipeline.releaseIsotpSession (frameKey frame),
          completed frame ((frame.data.drop 2).take sfLen))
  else if sfLenNibble > 7 ∨ sfLenNibble > frame.data.length - 1 then (pipeline, .ok (none, none))
  else
    (pipeline.releaseIsotpSession (frameKey frame),
      completed frame ((frame.data.drop 1).take sfLenNibble))

def quotaKey (frame : CanFrame) : Nat :=
  if frame.isExtended then frame.arbitrationId &&& 0xFF else frame.arbitrationId

def handleFirstFrame (pipeline : ReassemblyPipeline) (now : Nat) (frame : CanFrame) :
    ReassemblyPipeline × Outcome :=
  match firstFrameLength frame.data with
  | none => (pipeline, .ok (none, none))
  | some (totalLen, headerLen) =>
      if totalLen > maxPayloadSize then (pipeline, pipeline.answer frame fsOverflow)
      else
        let firstChunk := (frame.data.drop headerLen).take totalLen
        let released := pipeline.releaseIsotpSession (frameKey frame)
        if firstChunk.length ≥ totalLen then (released, completed frame (firstChunk.take totalLen))
        else if released.isotpPerSaSessions (quotaKey frame) ≥ maxSessionsPerSa then
          (released, .ok (none, none))
        else
          (released.makeRoom.insertSession (frameKey frame) {
              totalBytes := totalLen
              receivedBytes := firstChunk
              lastActivityTime := now
              isFd := frame.isFd
              isExtended := frame.isExtended
              quotaKey := quotaKey frame },
            pipeline.answer frame fsCts)

def handleConsecutiveFrame (pipeline : ReassemblyPipeline) (now : Nat) (frame : CanFrame) :
    ReassemblyPipeline × Outcome :=
  match pipeline.isotpSessions.get? (frameKey frame) with
  | none => (pipeline, .ok (none, none))
  | some session =>
      if frame.isFd ≠ session.isFd ∨ frame.isExtended ≠ session.isExtended then
        (pipeline.releaseIsotpSession (frameKey frame), .ok (none, none))
      else if now - session.lastActivityTime > isotpNcrTimeoutNs then
        (pipeline.releaseIsotpSession (frameKey frame), .ok (none, none))
      else if lowNibble (frame.data.getD 0 0) ≠ session.expectedSequenceNumber then
        (pipeline.releaseIsotpSession (frameKey frame), .ok (none, none))
      else
        let needed := session.totalBytes - session.receivedBytes.length
        let available := frame.data.length - 1
        let session := { session with
          receivedBytes :=
            session.receivedBytes ++ (frame.data.drop 1).take (min needed available)
          expectedSequenceNumber := (session.expectedSequenceNumber + 1) &&& 0x0F
          lastActivityTime := now }
        if session.receivedBytes.length ≥ session.totalBytes then
          (pipeline.releaseIsotpSession (frameKey frame),
            completed frame (session.receivedBytes.take session.totalBytes))
        else
          ({ pipeline with
              isotpSessions := pipeline.isotpSessions.set (frameKey frame) session },
            .ok (none, none))

def handleDynamicIsotp (pipeline : ReassemblyPipeline) (now : Nat) (frame : CanFrame) :
    ReassemblyPipeline × Outcome :=
  let pciType := highNibble (frame.data.getD 0 0)
  if pciType = pciSingleFrame then pipeline.handleSingleFrame frame
  else if pciType = pciFirstFrame then pipeline.handleFirstFrame now frame
  else if pciType = pciConsecutiveFrame then pipeline.handleConsecutiveFrame now frame
  else (pipeline, .ok (none, none))

def tryProcessIsotp (pipeline : ReassemblyPipeline) (now : Nat) (frame : CanFrame) :
    ReassemblyPipeline × Outcome :=
  if ¬ pipeline.isIsotpFrame frame ∨ frame.data.length < 2 then (pipeline, .ok (none, none))
  else pipeline.handleDynamicIsotp now frame

end ReassemblyPipeline

end Ucanlab.Engine
