import Mathlib.Data.List.MinMax
import Ucanlab.Core.PyText
import Ucanlab.Lib.Dict
import Ucanlab.Uds.IsoTp

/-!
The receive half of the synchronous ISO-TP transport. Times are nanoseconds of the
monotonic clock. What a session stores and this transport never reads is left out:
its identifiers, its own limits and the frame format.
-/

namespace Ucanlab.IsoTp

def fsCts : Nat := 0
def fsOverflow : Nat := 2

def maxRxSessions : Nat := 512

/-- N_Cr. -/
def timeoutNs : Nat := 1000000000

structure IsoTpRxSession where
  totalBytes : Nat
  expectedSequenceNumber : Nat := 1
  receivedBytes : Bytes
  lastActivityTime : Nat
  channelId : String
  blockCount : Nat := 0
  deriving DecidableEq, Repr

/-- The session after a consecutive frame in order. -/
def IsoTpRxSession.extend (session : IsoTpRxSession) (now : Nat) (payload : Bytes) :
    IsoTpRxSession :=
  { session with
    receivedBytes := session.receivedBytes ++
      payload.take (min (session.totalBytes - session.receivedBytes.length) payload.length)
    expectedSequenceNumber := (session.expectedSequenceNumber + 1) &&& 0x0F
    lastActivityTime := now }

/-- A session belongs to an identifier and a channel. -/
abbrev SessionKey := Nat × String

structure ReceivingTransport extends IsoTpTransport where
  rxId : Nat
  rxBlockSize : Nat := 0
  rxStMin : Nat := 0
  maxBufferSize : Nat := maxUdsPayloadFd
  sessions : Dict SessionKey IsoTpRxSession := []

def lowNibble (byte : UInt8) : Nat := byte.toNat &&& 0x0F

def highNibble (byte : UInt8) : Nat := (byte.toNat >>> 4) &&& 0x0F

def frameKey (frame : CanFrame) : SessionKey := (frame.arbitrationId, frame.channelId)

/-- The frame from its protocol byte on, where it is for a transport with this
addressing. -/
def AddressingMode.unwrap : AddressingMode → Bytes → Option Bytes
  | .normal, data => some data
  | .extended addressByte, data | .mixed addressByte, data =>
      if data.getD 0 0 ≠ addressByte then none
      else if (data.drop 1).length < 1 then none
      else some (data.drop 1)

def firstFrameLength (data : Bytes) : Option (Nat × Nat) :=
  if data.length < 2 then none
  else if data.length ≥ 6 ∧ data.getD 0 0 = 0x10 ∧ data.getD 1 0 = 0x00 then
    let totalLen := natFromBytes ((data.drop 2).take 4)
    if totalLen ≤ 4095 then none else some (totalLen, 6)
  else
    let totalLen := (lowNibble (data.getD 0 0) <<< 8) ||| (data.getD 1 0).toNat
    if totalLen < 8 then none else some (totalLen, 2)

namespace ReceivingTransport

def receives (t : ReceivingTransport) (frame : CanFrame) : Option Bytes :=
  if frame.arbitrationId ≠ t.rxId ∨ frame.data.length < 2 then none
  else t.addressingMode.unwrap frame.data

def dropSession (t : ReceivingTransport) (key : SessionKey) : ReceivingTransport :=
  { t with sessions := t.sessions.erase key }

def storeSession (t : ReceivingTransport) (key : SessionKey) (session : IsoTpRxSession) :
    ReceivingTransport :=
  { t with sessions := t.sessions.set key session }

def reapStaleRxSessions (t : ReceivingTransport) (now : Nat) : ReceivingTransport :=
  { t with sessions :=
      t.sessions.filter (fun entry => decide (now - entry.2.lastActivityTime ≤ timeoutNs)) }

/-- A full table gives up the session that has been idle longest. -/
def makeRoom (t : ReceivingTransport) (key : SessionKey) : ReceivingTransport :=
  if ¬ t.sessions.contains key ∧ t.sessions.length ≥ maxRxSessions then
    match List.argmin (fun entry => entry.2.lastActivityTime) t.sessions with
    | some oldest => t.dropSession oldest.1
    | none => t
  else t

/-- A Flow Control frame on the channel of the received frame, filled up with `0xCC`. -/
def fcFrame (t : ReceivingTransport) (frame : CanFrame) (header : Bytes) :
    Except FrameError CanFrame :=
  CanFrame.create {
    channelId := frame.channelId
    arbitrationId := t.txId
    dlc := 0
    data := t.addressingMode.wrapNpci
      (header ++ List.replicate (8 - t.addressingMode.pciOffset - header.length) 0xCC)
    isExtended := decide (t.txId > 0x7FF)
    isFd := frame.isFd
    direction := .tx } none

def fcOverflow (t : ReceivingTransport) (frame : CanFrame) : Except FrameError CanFrame :=
  t.fcFrame frame [UInt8.ofNat ((pciFlowControl <<< 4) ||| fsOverflow)]

def fcCts (t : ReceivingTransport) (frame : CanFrame) : Except FrameError CanFrame :=
  t.fcFrame frame [UInt8.ofNat ((pciFlowControl <<< 4) ||| fsCts), UInt8.ofNat t.rxBlockSize,
    UInt8.ofNat t.rxStMin]

/-- A completed payload and a response. -/
abbrev Handled := Except FrameError (Option Bytes × Option CanFrame)

def respond : Except FrameError CanFrame → Handled
  | .ok response => .ok (none, some response)
  | .error error => .error error

def handleSingleFrame (t : ReceivingTransport) (frame : CanFrame) (data : Bytes) :
    ReceivingTransport × Handled :=
  if lowNibble (data.getD 0 0) = 0 then
    -- the escape form, on CAN FD and beyond eight bytes only
    if ¬ frame.isFd then (t, .ok (none, none))
    else if frame.data.length ≤ 8 then (t, .ok (none, none))
    else if data.length < 2 then (t, .ok (none, none))
    else
      let sfLen := (data.getD 1 0).toNat
      if sfLen < 8 ∨ sfLen > 62 then (t, .ok (none, none))
      else if sfLen ≤ data.length - 2 then
        (t.dropSession (frameKey frame), .ok (some ((data.drop 2).take sfLen), none))
      else (t, .ok (none, none))
  else
    let sfLen := lowNibble (data.getD 0 0)
    if 1 ≤ sfLen ∧ sfLen ≤ data.length - 1 then
      (t.dropSession (frameKey frame), .ok (some ((data.drop 1).take sfLen), none))
    else (t, .ok (none, none))

def handleFirstFrame (t : ReceivingTransport) (now : Nat) (frame : CanFrame) (data : Bytes) :
    ReceivingTransport × Handled :=
  match firstFrameLength data with
  | none => (t, .ok (none, none))
  | some (totalLen, headerLen) =>
      if totalLen > t.maxBufferSize then
        (t.dropSession (frameKey frame), respond (t.fcOverflow frame))
      else
        let session : IsoTpRxSession := {
          totalBytes := totalLen
          receivedBytes := (data.drop headerLen).take totalLen
          lastActivityTime := now
          channelId := frame.channelId }
        let opened := ((t.reapStaleRxSessions now).makeRoom (frameKey frame)).storeSession
          (frameKey frame) session
        if session.receivedBytes.length ≥ totalLen then
          (opened.dropSession (frameKey frame),
            .ok (some (session.receivedBytes.take totalLen), none))
        else (opened, respond (t.fcCts frame))

/-- What a session with a new chunk comes to: completed, granted the next block, or
waiting. -/
def advanceSession (t : ReceivingTransport) (frame : CanFrame) (session : IsoTpRxSession) :
    ReceivingTransport × Handled :=
  if session.receivedBytes.length ≥ session.totalBytes then
    (t.dropSession (frameKey frame),
      .ok (some (session.receivedBytes.take session.totalBytes), none))
  else if t.rxBlockSize > 0 then
    if session.blockCount + 1 ≥ t.rxBlockSize then
      (t.storeSession (frameKey frame) { session with blockCount := 0 }, respond (t.fcCts frame))
    else
      (t.storeSession (frameKey frame) { session with blockCount := session.blockCount + 1 },
        .ok (none, none))
  else (t.storeSession (frameKey frame) session, .ok (none, none))

def handleConsecutiveFrame (t : ReceivingTransport) (now : Nat) (frame : CanFrame) (data : Bytes) :
    ReceivingTransport × Handled :=
  match t.sessions.get? (frameKey frame) with
  | none => (t, .ok (none, none))
  | some session =>
      if session.channelId ≠ frame.channelId then (t, .ok (none, none))
      else if now - session.lastActivityTime > timeoutNs then
        (t.dropSession (frameKey frame), .ok (none, none))
      else if lowNibble (data.getD 0 0) ≠ session.expectedSequenceNumber then
        (t.dropSession (frameKey frame), .ok (none, none))
      else t.advanceSession frame (session.extend now (data.drop 1))

def handleNpdu (t : ReceivingTransport) (now : Nat) (frame : CanFrame) (data : Bytes) :
    ReceivingTransport × Handled :=
  let pciType := highNibble (data.getD 0 0)
  if pciType = pciSingleFrame then t.handleSingleFrame frame data
  else if pciType = pciFirstFrame then t.handleFirstFrame now frame data
  else if pciType = pciConsecutiveFrame then t.handleConsecutiveFrame now frame data
  else (t, .ok (none, none))

def handleRxFrame (t : ReceivingTransport) (now : Nat) (frame : CanFrame) :
    ReceivingTransport × Handled :=
  match t.receives frame with
  | none => (t, .ok (none, none))
  | some data => t.handleNpdu now frame data

/-- The frames heard at their times, and what came of each. -/
def receiveAll (t : ReceivingTransport) :
    List (Nat × CanFrame) → ReceivingTransport × List Handled
  | [] => (t, [])
  | (now, frame) :: rest =>
      match t.handleRxFrame now frame with
      | (next, handled) =>
          match next.receiveAll rest with
          | (last, results) => (last, handled :: results)

end ReceivingTransport

end Ucanlab.IsoTp

/-!
The asynchronous ISO-TP sender and receiver, each as the states it is in between two of
its awaits. A timed `recv` gives a frame, or nothing once the time has run out. A frame
handed to the port is sent, and STmin only delays the next one.
-/

namespace Ucanlab.IsoTp

def fsWait : Nat := 1

def outChannel : Option String → String
  | none => "uds_ch0"
  | some channelId => if channelId = "" then "uds_ch0" else channelId

def hearsChannel : Option String → CanFrame → Bool
  | none, _ => true
  | some channelId, frame => decide (frame.channelId = channelId)

structure IsoTpSender where
  txId : Nat
  rxId : Nat
  channelId : Option String := none
  isFd : Bool := false
  padByte : Option Int := some 0xCC
  wftMax : Nat := 16
  deriving DecidableEq, Repr

inductive SendError where
  | payloadTooLarge (requestedLength maxBufferSize : Nat)
  | frame (error : FrameError)
  | nBsTimeout
  | bufferOverflow (requestedLength : Nat)
  | wftMaxExceeded (wftCount wftMax : Nat)
  | invalidFlowStatus (flowStatus : Nat) (rawByte : UInt8)
  deriving DecidableEq, Repr

inductive SenderState where
  | starting
  | awaitingFc (bytesSent seqNum wftCount : Nat)
  | sending (bytesSent seqNum blockCount bs : Nat)
  | done
  | failed (error : SendError)
  deriving DecidableEq, Repr

/-- The frame goes out, unless it could not be built. -/
def sendThen (built : Except FrameError CanFrame) (next : SenderState) :
    SenderState × Option CanFrame :=
  match built with
  | .ok frame => (next, some frame)
  | .error e => (.failed (.frame e), none)

namespace IsoTpSender

def buildFrame (s : IsoTpSender) (data : Bytes) (isFd : Bool) : Except FrameError CanFrame :=
  match if isFd then lengthToDlc data.length else .ok 8 with
  | .error e => .error e
  | .ok dlc =>
      match padPayload data dlc (s.padByte.getD 0xCC) with
      | .error e => .error e
      | .ok padded =>
          CanFrame.new {
            channelId := outChannel s.channelId
            arbitrationId := s.txId
            dlc := dlc
            data := padded
            isExtended := decide (s.txId > 0x7FF)
            isFd := isFd
            direction := .tx }

def sendFirst (s : IsoTpSender) (payload header : Bytes) (ffPayloadSize : Nat) :
    SenderState × Option CanFrame :=
  let ffChunk := payload.take ffPayloadSize
  sendThen (s.buildFrame (header ++ ffChunk) s.isFd)
    (if ffChunk.length < payload.length then .awaitingFc ffChunk.length 1 0 else .done)

/-- `send` up to the first flow control it awaits. -/
def start (s : IsoTpSender) (payload : Bytes) : SenderState × Option CanFrame :=
  let dataLen := payload.length
  let payloadCap := if s.isFd then maxUdsPayloadFd else maxUdsPayloadClassic
  if dataLen = 0 then (.done, none)
  else if dataLen > payloadCap then (.failed (.payloadTooLarge dataLen payloadCap), none)
  else if dataLen ≤ 7 then
    sendThen (s.buildFrame (singleFramePci dataLen :: payload) s.isFd) .done
  else if s.isFd ∧ dataLen ≤ 62 then
    sendThen (s.buildFrame (0x00 :: UInt8.ofNat dataLen :: payload) true) .done
  else if dataLen ≤ 4095 then
    s.sendFirst payload (firstFrameHeader dataLen) (if s.isFd then 62 else 6)
  else s.sendFirst payload (escapeFirstFrameHeader dataLen) (if s.isFd then 58 else 2)

/-- One round of the block: a Consecutive Frame, and on to the next one, to the next flow
control, or to the end. -/
def sendNext (s : IsoTpSender) (payload : Bytes) (bytesSent seqNum blockCount bs : Nat) :
    SenderState × Option CanFrame :=
  let chunk := (payload.drop bytesSent).take (if s.isFd then 63 else 7)
  sendThen (s.buildFrame (consecutiveFramePci seqNum :: chunk) s.isFd)
    (if bytesSent + chunk.length < payload.length then
      if bs > 0 ∧ blockCount + 1 ≥ bs then
        .awaitingFc (bytesSent + chunk.length) ((seqNum + 1) &&& 0x0F) 0
      else .sending (bytesSent + chunk.length) ((seqNum + 1) &&& 0x0F) (blockCount + 1) bs
    else .done)

def hear (s : IsoTpSender) (payload : Bytes) (bytesSent seqNum wftCount : Nat) :
    Option CanFrame → SenderState
  | none => .failed .nBsTimeout
  | some frame =>
      if frame.arbitrationId ≠ s.rxId ∨ frame.data.length < 3 ∨ ¬ hearsChannel s.channelId frame then
        .awaitingFc bytesSent seqNum wftCount
      else if highNibble (frame.data.getD 0 0) ≠ pciFlowControl then
        .awaitingFc bytesSent seqNum wftCount
      else if lowNibble (frame.data.getD 0 0) = fsOverflow then
        .failed (.bufferOverflow payload.length)
      else if lowNibble (frame.data.getD 0 0) = fsWait then
        if wftCount + 1 > s.wftMax then .failed (.wftMaxExceeded (wftCount + 1) s.wftMax)
        else .awaitingFc bytesSent seqNum (wftCount + 1)
      else if lowNibble (frame.data.getD 0 0) = fsCts then
        .sending bytesSent seqNum 0 (frame.data.getD 1 0).toNat
      else .failed (.invalidFlowStatus (lowNibble (frame.data.getD 0 0)) (frame.data.getD 0 0))

end IsoTpSender

structure IsoTpReceiver where
  txId : Nat
  rxId : Nat
  channelId : Option String := none
  isFd : Bool := false
  blockSize : Nat := 0
  stMin : Nat := 0
  padByte : Option Int := some 0xCC
  maxBufferSize : Nat := 1048576
  deriving DecidableEq, Repr

inductive PduFault where
  | classicZeroLength
  | escapeCanDl (canDl : Nat)
  | escapeHeader
  | fdSingleLength (sfLen : Nat)
  | fdSingleExceeds (sfLen : Nat)
  | classicSingleLength (sfLen : Nat)
  | extendedFirstLength (totalLen : Nat)
  | fdFirstLength (totalLen : Nat)
  | standardFirstLength (totalLen : Nat)
  deriving DecidableEq, Repr

inductive ReceiveError where
  | timeout
  | nCrTimeout
  | invalidPdu (fault : PduFault) (pciType : Nat) (rawData : Bytes)
  | bufferOverflow (requestedLength maxBufferSize : Nat)
  | sequence (expectedSn actualSn : Nat)
  | frame (error : FrameError)
  deriving DecidableEq, Repr

/-- A receiver is granting between the frame that earns a Clear To Send and its sending,
and rejecting before its report of an overflow. -/
inductive ReceiverState where
  | listening
  | granting (totalLen expectedSn : Nat) (buffer : Bytes)
  | collecting (totalLen expectedSn blockCount : Nat) (buffer : Bytes)
  | rejecting (totalLen : Nat)
  | done (payload : Bytes)
  | failed (error : ReceiveError)
  deriving DecidableEq, Repr

def announcedLength (data : Bytes) (isFd : Bool) : Except PduFault (Nat × Nat) :=
  if data.length ≥ 6 ∧ data.getD 0 0 = 0x10 ∧ data.getD 1 0 = 0x00 then
    let totalLen := natFromBytes ((data.drop 2).take 4)
    if totalLen ≤ 4095 then .error (.extendedFirstLength totalLen) else .ok (totalLen, 6)
  else
    let totalLen := (lowNibble (data.getD 0 0) <<< 8) ||| (data.getD 1 0).toNat
    if isFd ∧ totalLen ≤ 62 then .error (.fdFirstLength totalLen)
    else if totalLen < 8 then .error (.standardFirstLength totalLen)
    else .ok (totalLen, 2)

namespace IsoTpReceiver

def buildFcFrame (r : IsoTpReceiver) (flowStatus : Nat) : Except FrameError CanFrame :=
  let pad := r.padByte.getD 0xCC
  if ¬ (0 ≤ pad ∧ pad ≤ 0xFF) then .error .padByte
  else
    CanFrame.create {
      channelId := outChannel r.channelId
      arbitrationId := r.txId
      dlc := 0
      data := [UInt8.ofNat ((pciFlowControl <<< 4) ||| (flowStatus &&& 0x0F)),
        UInt8.ofNat (r.blockSize &&& 0xFF), UInt8.ofNat (r.stMin &&& 0xFF)] ++
          List.replicate 5 (UInt8.ofNat pad.toNat)
      isExtended := decide (r.txId > 0x7FF)
      isFd := r.isFd
      direction := .tx } none

def listensTo (r : IsoTpReceiver) (frame : CanFrame) : Bool :=
  hearsChannel r.channelId frame && decide (frame.arbitrationId = r.rxId) &&
    decide (2 ≤ frame.data.length)

def hearSingle (r : IsoTpReceiver) (frame : CanFrame) : ReceiverState :=
  let invalid (fault : PduFault) : ReceiverState :=
    .failed (.invalidPdu fault pciSingleFrame frame.data)
  if lowNibble (frame.data.getD 0 0) = 0 then
    if ¬ r.isFd ∧ ¬ frame.isFd then invalid .classicZeroLength
    else if frame.data.length ≤ 8 then invalid (.escapeCanDl frame.data.length)
    else if frame.data.length < 2 then invalid .escapeHeader
    else
      let sfLen := (frame.data.getD 1 0).toNat
      if sfLen < 8 ∨ sfLen > 62 then invalid (.fdSingleLength sfLen)
      else if sfLen > frame.data.length - 2 then invalid (.fdSingleExceeds sfLen)
      else .done ((frame.data.drop 2).take sfLen)
  else
    let sfLen := lowNibble (frame.data.getD 0 0)
    if sfLen > 7 ∨ sfLen > frame.data.length - 1 then invalid (.classicSingleLength sfLen)
    else .done ((frame.data.drop 1).take sfLen)

def hearFirst (r : IsoTpReceiver) (frame : CanFrame) : ReceiverState :=
  -- the other frame format is a misconfiguration, and dropped
  if frame.isFd ≠ r.isFd then .listening
  else
    match announcedLength frame.data frame.isFd with
    | .error fault => .failed (.invalidPdu fault pciFirstFrame frame.data)
    | .ok (totalLen, headerLen) =>
        if totalLen > r.maxBufferSize then .rejecting totalLen
        else
          let buffer := (frame.data.drop headerLen).take totalLen
          if buffer.length ≥ totalLen then .done (buffer.take totalLen)
          else .granting totalLen 1 buffer

def hearOpening (r : IsoTpReceiver) (frame : CanFrame) : ReceiverState :=
  if ¬ r.listensTo frame then .listening
  else if highNibble (frame.data.getD 0 0) = pciSingleFrame then r.hearSingle frame
  else if highNibble (frame.data.getD 0 0) = pciFirstFrame then r.hearFirst frame
  else .listening

def hearConsecutive (r : IsoTpReceiver) (totalLen expectedSn blockCount : Nat) (buffer : Bytes)
    (frame : CanFrame) : ReceiverState :=
  let sn := lowNibble (frame.data.getD 0 0)
  if sn ≠ expectedSn then .failed (.sequence expectedSn sn)
  else
    let cLen := min (totalLen - buffer.length) (frame.data.length - 1)
    let extended := buffer ++ (frame.data.drop 1).take cLen
    if extended.length ≥ totalLen then .done (extended.take totalLen)
    else if r.blockSize > 0 ∧ blockCount + 1 ≥ r.blockSize then
      .granting totalLen ((expectedSn + 1) &&& 0x0F) extended
    else .collecting totalLen ((expectedSn + 1) &&& 0x0F) (blockCount + 1) extended

def hearCollecting (r : IsoTpReceiver) (totalLen expectedSn blockCount : Nat) (buffer : Bytes)
    (frame : CanFrame) : ReceiverState :=
  if ¬ r.listensTo frame ∨ frame.isFd ≠ r.isFd then
    .collecting totalLen expectedSn blockCount buffer
  else if highNibble (frame.data.getD 0 0) = pciSingleFrame ∨
      highNibble (frame.data.getD 0 0) = pciFirstFrame then
    -- a new message takes the place of the one in progress
    r.hearOpening frame
  else if highNibble (frame.data.getD 0 0) ≠ pciConsecutiveFrame then
    .collecting totalLen expectedSn blockCount buffer
  else r.hearConsecutive totalLen expectedSn blockCount buffer frame

/-- What `recv` gives a receiver that awaits it. -/
def hear (r : IsoTpReceiver) : ReceiverState → Option CanFrame → Option ReceiverState
  | .listening, none => some (.failed .timeout)
  | .listening, some frame => some (r.hearOpening frame)
  | .collecting _ _ _ _, none => some (.failed .nCrTimeout)
  | .collecting totalLen expectedSn blockCount buffer, some frame =>
      some (r.hearCollecting totalLen expectedSn blockCount buffer frame)
  | _, _ => none

/-- The flow control a receiver owes. -/
def answer (r : IsoTpReceiver) : ReceiverState → Option (ReceiverState × Option CanFrame)
  | .granting totalLen expectedSn buffer =>
      some (match r.buildFcFrame fsCts with
        | .ok frame => (.collecting totalLen expectedSn 0 buffer, some frame)
        | .error e => (.failed (.frame e), none))
  | .rejecting totalLen =>
      some (match r.buildFcFrame fsOverflow with
        | .ok frame => (.failed (.bufferOverflow totalLen r.maxBufferSize), some frame)
        | .error e => (.failed (.frame e), none))
  | _ => none

end IsoTpReceiver

end Ucanlab.IsoTp
