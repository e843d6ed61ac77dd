import Mathlib.Data.List.MinMax
import Ucanlab.Core.PyText
import Ucanlab.Lib.Dict
import Ucanlab.Protocols.J1939.Identifier

/-!
The J1939 transport protocol engine: announced broadcasts and connections on the
receiving side, connections on the sending side. Times are nanoseconds of the
monotonic clock. The counters of transport anomalies are left out, except the
ambiguous packets: nothing below reads them.
-/

namespace Ucanlab

structure ChannelId where
  name : String
  valid : validChannelId name = true
  deriving DecidableEq

theorem can0_valid : validChannelId "can0" = true := by decide

theorem defaultChannel_valid : validChannelId "j1939_ch0" = true := by decide

def CanFrame.channel (frame : CanFrame) : ChannelId := ⟨frame.channelId, frame.wellFormed.channelId⟩

namespace J1939

def pgnTpCm : Nat := 60416
def pgnTpDt : Nat := 60160

def tpCtrlRts : UInt8 := 0x10
def tpCtrlCts : UInt8 := 0x11
def tpCtrlAck : UInt8 := 0x13
def tpCtrlBam : UInt8 := 0x20
def tpCtrlAbort : UInt8 := 0xFF

def abortReasonSequenceError : UInt8 := 0x01
def abortReasonSessionCollision : UInt8 := 0x02
def abortReasonTimeout : UInt8 := 0x03
def abortReasonUnexpectedControl : UInt8 := 0x04

def maxCtsPacketCount : Nat := 16
def maxTpBytes : Nat := 1785

def t1TimeoutNs : Nat := 750000000
def t2TimeoutNs : Nat := 1250000000
def t3TimeoutNs : Nat := 1250000000
def t4TimeoutNs : Nat := 1050000000
def maxConcurrentSessions : Nat := 512
def maxSessionsPerSa : Nat := 4
def maxTxSessions : Nat := 256
def maxHoldCts : Nat := 8
def holdWindowNs : Nat := 2000000000
def maxRewindDepth : Nat := 2
def prefixCollisionBurst : Nat := 3
def prefixCollisionWindowNs : Nat := 1000000000

/-- The readings of the clock within one call: for the sessions to reap, for the
collision rate, for the session opened or continued, and for the packets sent. -/
structure Clock where
  reap : Nat
  collision : Nat
  session : Nat
  emission : Nat
  deriving DecidableEq, Repr

def Clock.at (now : Nat) : Clock where
  reap := now
  collision := now
  session := now
  emission := now

def ctrlTargetsSender (frame : CanFrame) : Bool :=
  match frame.data with
  | [] => false
  | control :: _ => decide (control ∈ [tpCtrlCts, tpCtrlAck, tpCtrlAbort])

def pgnFromTpCm (frame : CanFrame) : Nat :=
  if frame.data.length < 8 then 0 else littleEndian ((frame.data.drop 5).take 3)

structure RxKey where
  sourceAddress : UInt8
  destinationAddress : UInt8
  channel : ChannelId
  targetPgn : Nat
  deriving DecidableEq

structure ReassemblySession where
  sourceAddress : UInt8
  destinationAddress : UInt8
  targetPgn : Nat
  totalBytes : Nat
  totalPackets : Nat
  isBam : Bool
  expectedSequence : Nat := 1
  receivedBytes : Bytes := []
  lastActivityTime : Nat
  channel : ChannelId
  rxCtsWindow : Nat := 0
  maxPacketsPerCts : Nat := 0xFF
  deriving DecidableEq

def ReassemblySession.key (session : ReassemblySession) : RxKey where
  sourceAddress := session.sourceAddress
  destinationAddress := session.destinationAddress
  channel := session.channel
  targetPgn := session.targetPgn

def ReassemblySession.holdTimeout (session : ReassemblySession) : Nat :=
  if session.isBam then t1TimeoutNs else t4TimeoutNs

def ReassemblySession.append (session : ReassemblySession) (payload : Bytes) (now : Nat) :
    ReassemblySession :=
  { session with
    receivedBytes := session.receivedBytes ++
      payload.take (session.totalBytes - session.receivedBytes.length)
    expectedSequence := session.expectedSequence + 1
    lastActivityTime := now }

def ReassemblySession.complete (session : ReassemblySession) : Bool :=
  decide (session.expectedSequence > session.totalPackets ∨
    session.receivedBytes.length ≥ session.totalBytes)

structure CompletedMessage where
  sourceAddress : UInt8
  destinationAddress : UInt8
  pgn : Nat
  data : Bytes
  channel : ChannelId
  deriving DecidableEq

inductive SenderState where
  | waitCts
  | granted
  | waitAck
  deriving DecidableEq, Repr

structure TxKey where
  sourceAddress : Nat
  destinationAddress : Nat
  targetPgn : Nat
  channel : ChannelId
  deriving DecidableEq

structure CmdtSenderSession where
  sourceAddress : Nat
  destinationAddress : Nat
  targetPgn : Nat
  totalBytes : Nat
  totalPackets : Nat
  data : Bytes
  channel : ChannelId
  state : SenderState := .waitCts
  ctsWindow : Nat := 0
  nextSequence : Nat := 1
  lastActivityTime : Nat
  holdCount : Nat := 0
  holdWindowStart : Nat := 0
  deriving DecidableEq

def CmdtSenderSession.key (session : CmdtSenderSession) : TxKey where
  sourceAddress := session.sourceAddress
  destinationAddress := session.destinationAddress
  targetPgn := session.targetPgn
  channel := session.channel

structure J1939TransportProtocol where
  myAddress : Nat := 0xF9
  channel : ChannelId := ⟨"j1939_ch0", defaultChannel_valid⟩
  rxCtsWindow : Nat := 0
  rtsPrefixMarks : Dict (UInt8 × UInt8 × ChannelId) (Nat × Nat) := []
  rxSessions : Dict RxKey ReassemblySession := []
  txSessions : Dict TxKey CmdtSenderSession := []
  pendingTxFrames : List CanFrame := []
  perSaSessions : UInt8 → Nat := fun _ => 0
  ambiguousDtDrop : Nat := 0

section Frames

def tpIdentifier (group peer us : Nat) : Nat := group ||| (peer <<< 8) ||| us

def tpCmIdentifier (peer us : UInt8) : Nat := tpIdentifier 0x1CEC0000 peer.toNat us.toNat

def tpDtIdentifier (peer us : UInt8) : Nat := tpIdentifier 0x1CEB0000 peer.toNat us.toNat

theorem tpIdentifier_eq {group : Nat} (aligned : group % 65536 = 0) (peer us : UInt8) :
    tpIdentifier group peer.toNat us.toNat = group + 256 * peer.toNat + us.toNat := by
  have peerByte := peer.toNat_lt
  have usByte := us.toNat_lt
  have shifted : peer.toNat <<< 8 < 2 ^ 16 := by
    rw [Nat.shiftLeft_eq]
    omega
  have upper : group ||| peer.toNat <<< 8 = group + 256 * peer.toNat := by
    have split : group = (group / 65536) <<< 16 := by
      rw [Nat.shiftLeft_eq]
      omega
    rw [split, BitField.shiftLeft_or_eq shifted, ← split, Nat.shiftLeft_eq]
    omega
  have low : group + 256 * peer.toNat = (group / 256 + peer.toNat) <<< 8 := by
    rw [Nat.shiftLeft_eq]
    omega
  unfold tpIdentifier
  rw [upper, low, BitField.shiftLeft_or_eq usByte, ← Nat.shiftLeft_eq, ← low]

def tpFields (channel : ChannelId) (arbitrationId : Nat) (data : Bytes) : FrameFields where
  channelId := channel.name
  arbitrationId := arbitrationId
  dlc := 8
  data := data
  isExtended := true
  direction := .tx

theorem tpFields_valid (channel : ChannelId) {arbitrationId : Nat} {data : Bytes}
    (inRange : arbitrationId ≤ 0x1FFFFFFF) (eight : data.length = 8) :
    (tpFields channel arbitrationId data).postInit = none := by
  refine (FrameFields.postInit_eq_none_iff _).mpr ?_
  exact {
    channelId := channel.valid
    dlc := Nat.le_of_ble_eq_true rfl
    arbitrationId := inRange
    classicDlc := fun _ => Nat.le_refl 8
    classicFlags := fun _ => ⟨rfl, rfl⟩
    fdLength := nofun
    exactLength := fun _ => eight }

theorem tpIdentifier_inRange {group : Nat} (aligned : group % 65536 = 0)
    (small : group ≤ 0x1FFF0000) (peer us : UInt8) :
    tpIdentifier group peer.toNat us.toNat ≤ 0x1FFFFFFF := by
  have peerByte := peer.toNat_lt
  have usByte := us.toNat_lt
  rw [tpIdentifier_eq aligned]
  omega

/-- The frame `CanFrame.create` makes of eight bytes on a transport group. -/
def tpCmFrame (channel : ChannelId) (peer us : UInt8) (data : Bytes) (eight : data.length = 8) :
    CanFrame where
  toFrameFields := tpFields channel (tpCmIdentifier peer us) data
  valid := tpFields_valid channel (tpIdentifier_inRange (by decide) (by decide) peer us) eight

def tpDtFrame (channel : ChannelId) (peer us : UInt8) (data : Bytes) (eight : data.length = 8) :
    CanFrame where
  toFrameFields := tpFields channel (tpDtIdentifier peer us) data
  valid := tpFields_valid channel (tpIdentifier_inRange (by decide) (by decide) peer us) eight

def tpCmData (control first second third fourth : UInt8) (pgn : Nat) : Bytes :=
  [control, first, second, third, fourth, UInt8.ofNat pgn, UInt8.ofNat (pgn / 256),
    UInt8.ofNat (pgn / 65536)]

theorem tpCmData_length (control first second third fourth : UInt8) (pgn : Nat) :
    (tpCmData control first second third fourth pgn).length = 8 := rfl

def lowByte (value : Nat) : UInt8 := UInt8.ofNat value

def highByte (value : Nat) : UInt8 := UInt8.ofNat (value / 256)

/-- A packet, filled up with `0xFF`. -/
def tpDtData (seq : Nat) (chunk : Bytes) : Bytes :=
  UInt8.ofNat seq :: (chunk.take 7 ++ List.replicate (7 - chunk.length) 0xFF)

theorem tpDtData_length (seq : Nat) (chunk : Bytes) : (tpDtData seq chunk).length = 8 := by
  simp only [tpDtData, List.length_cons, List.length_append, List.length_take,
    List.length_replicate]
  omega

end Frames

structure Announcement where
  sourceAddress : UInt8
  destinationAddress : UInt8
  channel : ChannelId
  totalBytes : Nat
  totalPackets : Nat
  maxPackets : Nat
  targetPgn : Nat

def Announcement.key (announced : Announcement) : RxKey where
  sourceAddress := announced.sourceAddress
  destinationAddress := announced.destinationAddress
  channel := announced.channel
  targetPgn := announced.targetPgn

def announcement (frame : CanFrame) (sa da : UInt8) : Announcement where
  sourceAddress := sa
  destinationAddress := da
  channel := frame.channel
  totalBytes := littleEndian ((frame.data.drop 1).take 2)
  totalPackets := (frame.data.getD 3 0).toNat
  maxPackets := (frame.data.getD 4 0).toNat
  targetPgn := littleEndian ((frame.data.drop 5).take 3)

def Announcement.wellFormed (announced : Announcement) : Bool :=
  decide (1 ≤ announced.totalBytes ∧ announced.totalBytes ≤ maxTpBytes ∧
    announced.totalPackets ≠ 0 ∧ announced.totalPackets = (announced.totalBytes + 6) / 7)

def Announcement.session (announced : Announcement) (isBam : Bool) (rxCtsWindow : Nat)
    (now : Nat) : ReassemblySession where
  sourceAddress := announced.sourceAddress
  destinationAddress := announced.destinationAddress
  targetPgn := announced.targetPgn
  totalBytes := announced.totalBytes
  totalPackets := announced.totalPackets
  isBam := isBam
  lastActivityTime := now
  channel := announced.channel
  rxCtsWindow := rxCtsWindow
  maxPacketsPerCts := if isBam then 0xFF
    else if announced.maxPackets > 0 then announced.maxPackets else 0xFF

namespace J1939TransportProtocol

def addressByte (engine : J1939TransportProtocol) : UInt8 := UInt8.ofNat engine.myAddress

section Receiving

/-- The session of a release is looked up under its own fields first; without a
session nothing is counted. -/
def releaseSessionSlot (engine : J1939TransportProtocol) (key : RxKey)
    (session : Option ReassemblySession) : J1939TransportProtocol :=
  match session with
  | none => { engine with rxSessions := engine.rxSessions.erase key }
  | some session =>
      let counted : UInt8 → Nat := fun address =>
        if address = session.sourceAddress then engine.perSaSessions address - 1
        else engine.perSaSessions address
      if engine.rxSessions.contains session.key then
        { engine with rxSessions := engine.rxSessions.erase session.key, perSaSessions := counted }
      else if engine.rxSessions.contains key then
        { engine with rxSessions := engine.rxSessions.erase key, perSaSessions := counted }
      else engine

def reapStaleSessions (engine : J1939TransportProtocol) (now : Nat) : J1939TransportProtocol :=
  let expired := engine.rxSessions.filter
    (fun entry => decide (now - entry.2.lastActivityTime > entry.2.holdTimeout))
  expired.foldl (fun engine entry =>
    engine.releaseSessionSlot entry.1 (engine.rxSessions.get? entry.1)) engine

def checkPrefixCollisionRate (engine : J1939TransportProtocol)
    (key : UInt8 × UInt8 × ChannelId) (now : Nat) : Bool × J1939TransportProtocol :=
  match engine.rtsPrefixMarks.get? key with
  | none => (true, { engine with rtsPrefixMarks := engine.rtsPrefixMarks.set key (now, 1) })
  | some (windowStart, count) =>
      if now - windowStart > prefixCollisionWindowNs then
        (true, { engine with rtsPrefixMarks := engine.rtsPrefixMarks.set key (now, 1) })
      else if count ≥ prefixCollisionBurst then (false, engine)
      else
        (true,
          { engine with rtsPrefixMarks := engine.rtsPrefixMarks.set key (windowStart, count + 1) })

def livePrefix (engine : J1939TransportProtocol) (sa da : UInt8) (channel : ChannelId) :
    List (RxKey × ReassemblySession) :=
  engine.rxSessions.filter (fun entry => decide (entry.1.sourceAddress = sa ∧
    entry.1.destinationAddress = da ∧ entry.1.channel = channel))

/-- A full table gives up the session that has been idle longest. -/
def makeRoom (engine : J1939TransportProtocol) (key : RxKey) : J1939TransportProtocol :=
  if engine.rxSessions.length ≥ maxConcurrentSessions ∧ ¬ engine.rxSessions.contains key then
    match List.argmin (fun entry => entry.2.lastActivityTime) engine.rxSessions with
    | some oldest => engine.releaseSessionSlot oldest.1 (some oldest.2)
    | none => engine
  else engine

def insertSession (engine : J1939TransportProtocol) (session : ReassemblySession) :
    J1939TransportProtocol :=
  { engine with
    rxSessions := engine.rxSessions.set session.key session
    perSaSessions := fun address =>
      if address = session.sourceAddress then engine.perSaSessions address + 1
      else engine.perSaSessions address }

def initialGrant (session : ReassemblySession) : Nat :=
  let grant := session.totalPackets
  let grant :=
    if session.maxPacketsPerCts > 0 ∧ session.maxPacketsPerCts < session.totalPackets then
      min grant session.maxPacketsPerCts
    else grant
  let grant := if session.rxCtsWindow > 0 then min grant session.rxCtsWindow else grant
  max 1 (min grant maxCtsPacketCount)

def ctsFrame (engine : J1939TransportProtocol) (channel : ChannelId) (session : ReassemblySession)
    (grant : Nat) : CanFrame :=
  tpCmFrame channel session.sourceAddress engine.addressByte
    (tpCmData tpCtrlCts (UInt8.ofNat grant) (UInt8.ofNat session.expectedSequence) 0xFF 0xFF
      session.targetPgn) (tpCmData_length ..)

def createCtsFrame (engine : J1939TransportProtocol) (session : ReassemblySession) : CanFrame :=
  engine.ctsFrame session.channel session (initialGrant session)

def createAbortFrame (engine : J1939TransportProtocol) (session : ReassemblySession)
    (reason : UInt8) : Option CanFrame :=
  if session.isBam then none
  else some (tpCmFrame session.channel session.sourceAddress engine.addressByte
    (tpCmData tpCtrlAbort reason 0xFF 0xFF 0xFF session.targetPgn) (tpCmData_length ..))

def overQuota (engine : J1939TransportProtocol) (announced : Announcement) : Bool :=
  !engine.rxSessions.contains announced.key &&
    decide (engine.perSaSessions announced.sourceAddress ≥ maxSessionsPerSa)

/-- The broadcast part of `_handle_tp_cm` once its predecessor is gone. -/
def openBam (engine : J1939TransportProtocol) (clock : Clock) (announced : Announcement) :
    J1939TransportProtocol :=
  if engine.overQuota announced then engine
  else
    (engine.makeRoom announced.key).insertSession (announced.session true 0 clock.session)

def handleBam (engine : J1939TransportProtocol) (clock : Clock) (announced : Announcement) :
    J1939TransportProtocol :=
  if announced.destinationAddress ≠ 255 then engine
  else
    match engine.rxSessions.get? announced.key with
    | some old => (engine.releaseSessionSlot announced.key (some old)).openBam clock announced
    | none =>
        match engine.livePrefix announced.sourceAddress announced.destinationAddress
            announced.channel with
        | [] => engine.openBam clock announced
        | live :: _ =>
            match engine.checkPrefixCollisionRate
                (announced.sourceAddress, announced.destinationAddress, announced.channel)
                clock.collision with
            | (false, marked) => marked
            | (true, marked) =>
                (marked.releaseSessionSlot live.1 (some live.2)).openBam clock announced

/-- The connection part of `_handle_tp_cm` once its predecessor is gone. An abort
of the predecessor takes the single response, the CTS then waits in the queue. -/
def openRts (engine : J1939TransportProtocol) (clock : Clock) (announced : Announcement)
    (abort : Option CanFrame) : J1939TransportProtocol × Option CanFrame :=
  if engine.overQuota announced then (engine, abort)
  else
    let engine := engine.makeRoom announced.key
    let session := announced.session false engine.rxCtsWindow clock.session
    let opened := engine.insertSession session
    let cts := opened.createCtsFrame session
    match abort with
    | some abort =>
        ({ opened with pendingTxFrames := opened.pendingTxFrames ++ [cts] }, some abort)
    | none => (opened, some cts)

def handleRts (engine : J1939TransportProtocol) (clock : Clock) (announced : Announcement) :
    J1939TransportProtocol × Option CanFrame :=
  if announced.destinationAddress = 255 ∨ announced.destinationAddress.toNat ≠ engine.myAddress then
    (engine, none)
  else
    match engine.rxSessions.get? announced.key with
    | some existing =>
        (engine.releaseSessionSlot announced.key (some existing)).openRts clock announced
          (engine.createAbortFrame existing abortReasonSessionCollision)
    | none =>
        match engine.livePrefix announced.sourceAddress announced.destinationAddress
            announced.channel with
        | [] => engine.openRts clock announced none
        | live :: _ =>
            match engine.checkPrefixCollisionRate
                (announced.sourceAddress, announced.destinationAddress, announced.channel)
                clock.collision with
            | (false, marked) =>
                (marked, marked.createAbortFrame (announced.session false 0 clock.session)
                  abortReasonSessionCollision)
            | (true, marked) =>
                (marked.releaseSessionSlot live.1 (some live.2)).openRts clock announced
                  (marked.createAbortFrame live.2 abortReasonSessionCollision)

def handleTpCm (engine : J1939TransportProtocol) (clock : Clock) (frame : CanFrame)
    (sa da : UInt8) : J1939TransportProtocol × Option CanFrame :=
  let control := frame.data.getD 0 0
  let announced := announcement frame sa da
  if (control = tpCtrlBam ∨ control = tpCtrlRts) ∧ ¬ announced.wellFormed then (engine, none)
  else
    let engine := engine.reapStaleSessions clock.reap
    if control = tpCtrlBam then (engine.handleBam clock announced, none)
    else if control = tpCtrlRts then engine.handleRts clock announced
    else if control = tpCtrlAbort then
      (engine.releaseSessionSlot announced.key (engine.rxSessions.get? announced.key), none)
    else (engine, none)

/-- The session a packet belongs to. Of several live ones the sequence number
selects; where it does not, they are all dropped. -/
def lookupDtSession (engine : J1939TransportProtocol) (sa da : UInt8) (channel : ChannelId)
    (seqNum : Nat) : J1939TransportProtocol × Option (RxKey × ReassemblySession) :=
  match engine.livePrefix sa da channel with
  | [] => (engine, none)
  | [candidate] => (engine, some candidate)
  | candidates =>
      match candidates.filter (fun entry => decide (entry.2.expectedSequence = seqNum)) with
      | [] => (engine, none)
      | [candidate] => (engine, some candidate)
      | ambiguous =>
          (ambiguous.foldl (fun engine entry => engine.releaseSessionSlot entry.1 (some entry.2))
            { engine with ambiguousDtDrop := engine.ambiguousDtDrop + 1 }, none)

def connected (engine : J1939TransportProtocol) (session : ReassemblySession) : Bool :=
  !session.isBam && decide (session.destinationAddress.toNat = engine.myAddress)

def followUpWindow (session : ReassemblySession) : Nat :=
  if session.rxCtsWindow ≠ 0 then session.rxCtsWindow else maxCtsPacketCount

def followUpCts (engine : J1939TransportProtocol) (channel : ChannelId)
    (session : ReassemblySession) : Option CanFrame :=
  if engine.connected session then
    let rxWindow := followUpWindow session
    let received := session.expectedSequence - 1
    if rxWindow > 0 ∧ received % rxWindow = 0 then
      some (engine.ctsFrame channel session
        (min (min rxWindow (session.totalPackets - received)) maxCtsPacketCount))
    else none
  else none

def endOfMsgAck (engine : J1939TransportProtocol) (channel : ChannelId)
    (session : ReassemblySession) : Option CanFrame :=
  if engine.connected session then
    some (tpCmFrame channel session.sourceAddress engine.addressByte
      (tpCmData tpCtrlAck (lowByte session.totalBytes) (highByte session.totalBytes)
        (UInt8.ofNat session.totalPackets) 0xFF session.targetPgn) (tpCmData_length ..))
  else none

def handleTpDt (engine : J1939TransportProtocol) (clock : Clock) (frame : CanFrame)
    (sa da : UInt8) : J1939TransportProtocol × Option CompletedMessage × Option CanFrame :=
  let seqNum := (frame.data.getD 0 0).toNat
  let payload := (frame.data.drop 1).take 7
  match engine.lookupDtSession sa da frame.channel seqNum with
  | (engine, none) => (engine, none, none)
  | (engine, some (key, session)) =>
      if clock.session - session.lastActivityTime > session.holdTimeout then
        (engine.releaseSessionSlot key (some session), none,
          engine.createAbortFrame session abortReasonTimeout)
      else if seqNum ≠ session.expectedSequence then
        (engine.releaseSessionSlot key (some session), none,
          engine.createAbortFrame session abortReasonSequenceError)
      else
        let extended := session.append payload clock.session
        let engine := { engine with rxSessions := engine.rxSessions.set key extended }
        if extended.complete then
          (engine.releaseSessionSlot key (some extended),
            some {
              sourceAddress := extended.sourceAddress
              destinationAddress := extended.destinationAddress
              pgn := extended.targetPgn
              data := extended.receivedBytes.take extended.totalBytes
              channel := frame.channel },
            engine.endOfMsgAck frame.channel extended)
        else (engine, none, engine.followUpCts frame.channel extended)

end Receiving

section Sending

def createTxAbortFrame (engine : J1939TransportProtocol) (session : CmdtSenderSession)
    (reason : UInt8) : CanFrame :=
  tpCmFrame session.channel (UInt8.ofNat session.destinationAddress) engine.addressByte
    (tpCmData tpCtrlAbort reason 0xFF 0xFF 0xFF session.targetPgn) (tpCmData_length ..)

def dtFrame (engine : J1939TransportProtocol) (session : CmdtSenderSession) (seq : Nat) :
    CanFrame :=
  tpDtFrame session.channel (UInt8.ofNat session.destinationAddress) engine.addressByte
    (tpDtData seq ((session.data.drop ((seq - 1) * 7)).take 7)) (tpDtData_length _ _)

def emitDtWindow (engine : J1939TransportProtocol) (session : CmdtSenderSession) (now : Nat) :
    CmdtSenderSession × List CanFrame :=
  let windowEnd := min (session.nextSequence + session.ctsWindow - 1) session.totalPackets
  let count := windowEnd + 1 - session.nextSequence
  let next := session.nextSequence + count
  ({ session with
      nextSequence := next
      state := if next > session.totalPackets then .waitAck else .waitCts
      lastActivityTime := now },
    (List.range' session.nextSequence count).map (engine.dtFrame session))

inductive SenderOutcome where
  | aborted
  | closed
  | held (session : CmdtSenderSession)
  | granted (session : CmdtSenderSession)

def expired (session : CmdtSenderSession) (now : Nat) : Bool :=
  (decide (session.state = .waitCts) && decide (now - session.lastActivityTime > t2TimeoutNs)) ||
    (decide (session.state = .waitAck) && decide (now - session.lastActivityTime > t3TimeoutNs))

/-- The hold counter is restarted when its window has passed or was never opened. -/
def holdSession (session : CmdtSenderSession) (now : Nat) : SenderOutcome :=
  let session :=
    if session.holdWindowStart = 0 ∨ now - session.holdWindowStart > holdWindowNs then
      { session with holdWindowStart := now, holdCount := 0 }
    else session
  let session := { session with holdCount := session.holdCount + 1 }
  if session.holdCount > maxHoldCts then .aborted
  else .held { session with state := .waitCts, lastActivityTime := now }

def receiveCts (session : CmdtSenderSession) (clock : Clock) (packetCount nextSeq : Nat) :
    SenderOutcome :=
  if nextSeq = 0 ∨ nextSeq > session.totalPackets ∨ nextSeq > session.nextSequence then .aborted
  else if packetCount > maxCtsPacketCount then .aborted
  else if packetCount = 0 then holdSession session clock.session
  else if nextSeq < session.nextSequence ∧ session.nextSequence - nextSeq > maxRewindDepth then
    .aborted
  else
    .granted { session with
      ctsWindow := packetCount
      nextSequence := nextSeq
      state := .granted
      holdCount := 0
      holdWindowStart := 0
      lastActivityTime := clock.session }

def receiveAck (session : CmdtSenderSession) (ackBytes ackPackets ackPgn : Nat) : SenderOutcome :=
  if session.state ≠ .waitAck ∨ ackBytes ≠ session.totalBytes ∨
      ackPackets ≠ session.totalPackets ∨ ackPgn ≠ session.targetPgn then .aborted
  else .closed

def storeOutcome (engine : J1939TransportProtocol) (key : TxKey) (session : CmdtSenderSession)
    (now : Nat) (outcome : SenderOutcome) :
    J1939TransportProtocol × List CanFrame × Option CanFrame :=
  match outcome with
  | .aborted =>
      ({ engine with txSessions := engine.txSessions.erase key }, [],
        some (engine.createTxAbortFrame session abortReasonUnexpectedControl))
  | .closed => ({ engine with txSessions := engine.txSessions.erase key }, [], none)
  | .held held => ({ engine with txSessions := engine.txSessions.set key held }, [], none)
  | .granted granted =>
      match engine.emitDtWindow granted now with
      | (emitted, frames) =>
          ({ engine with txSessions := engine.txSessions.set key emitted }, frames, none)

def handleTxCm (engine : J1939TransportProtocol) (clock : Clock) (frame : CanFrame) (sa : UInt8) :
    J1939TransportProtocol × List CanFrame × Option CanFrame :=
  let control := frame.data.getD 0 0
  let targetPgn := littleEndian ((frame.data.drop 5).take 3)
  let key : TxKey := ⟨engine.myAddress, sa.toNat, targetPgn, frame.channel⟩
  match engine.txSessions.get? key with
  | none => (engine, [], none)
  | some session =>
      if control = tpCtrlCts then
        engine.storeOutcome key session clock.emission
          (receiveCts session clock (frame.data.getD 1 0).toNat (frame.data.getD 2 0).toNat)
      else if control = tpCtrlAck then
        engine.storeOutcome key session clock.emission
          (receiveAck session (littleEndian ((frame.data.drop 1).take 2))
            (frame.data.getD 3 0).toNat targetPgn)
      else if control = tpCtrlAbort then
        ({ engine with txSessions := engine.txSessions.erase key }, [], none)
      else (engine, [], none)

def reapStaleTxSessions (engine : J1939TransportProtocol) (now : Nat) :
    J1939TransportProtocol × List CanFrame :=
  let stale := engine.txSessions.filter (fun entry => expired entry.2 now)
  ({ engine with txSessions := engine.txSessions.filter (fun entry => !expired entry.2 now) },
    stale.map (fun entry => engine.createTxAbortFrame entry.2 abortReasonTimeout))

inductive TpError where
  | dataLength (length : Nat)
  | pgnOverflow (pgn : Nat)
  deriving DecidableEq, Repr

/-- A full table gives up the sender session that has been idle longest. -/
def makeTxRoom (engine : J1939TransportProtocol) : J1939TransportProtocol :=
  if engine.txSessions.length ≥ maxTxSessions then
    match List.argmin (fun entry => entry.2.lastActivityTime) engine.txSessions with
    | some oldest =>
        { engine with
          txSessions := engine.txSessions.erase oldest.1
          pendingTxFrames := engine.pendingTxFrames ++
            [engine.createTxAbortFrame oldest.2 abortReasonTimeout] }
    | none => engine
  else engine

def rtsFrame (engine : J1939TransportProtocol) (session : CmdtSenderSession) : CanFrame :=
  tpCmFrame session.channel (UInt8.ofNat session.destinationAddress) engine.addressByte
    (tpCmData tpCtrlRts (lowByte session.totalBytes) (highByte session.totalBytes)
      (UInt8.ofNat session.totalPackets) 0xFF session.targetPgn) (tpCmData_length ..)

/-- The session is in the table before the group number is encoded. -/
def startCmdtTransfer (engine : J1939TransportProtocol) (clock : Clock) (targetAddress pgn : Nat)
    (data : Bytes) (channel : Option ChannelId) :
    J1939TransportProtocol × Except TpError CanFrame :=
  if ¬ (1 ≤ data.length ∧ data.length ≤ maxTpBytes) then (engine, .error (.dataLength data.length))
  else
    let session : CmdtSenderSession := {
      sourceAddress := engine.myAddress
      destinationAddress := targetAddress
      targetPgn := pgn
      totalBytes := data.length
      totalPackets := (data.length + 6) / 7
      data := data
      channel := channel.getD engine.channel
      lastActivityTime := clock.session }
    match engine.reapStaleTxSessions clock.reap with
    | (engine, aborts) =>
        let engine := { engine with pendingTxFrames := engine.pendingTxFrames ++ aborts }.makeTxRoom
        let opened := { engine with txSessions := engine.txSessions.set session.key session }
        if pgn ≥ 2 ^ 24 then (opened, .error (.pgnOverflow pgn))
        else (opened, .ok (opened.rtsFrame session))

/-- What the caller of a started transfer is given for its next packets. -/
def advanceCmdtTransfer (engine : J1939TransportProtocol) (now targetAddress pgn : Nat)
    (channel : Option ChannelId) : J1939TransportProtocol × List CanFrame × Option CanFrame :=
  let key : TxKey := ⟨engine.myAddress, targetAddress, pgn, channel.getD engine.channel⟩
  match engine.txSessions.get? key with
  | none => (engine, [], none)
  | some session =>
      match session.state with
      | .waitCts | .waitAck =>
          if expired session now then
            ({ engine with txSessions := engine.txSessions.erase key }, [],
              some (engine.createTxAbortFrame session abortReasonTimeout))
          else (engine, [], none)
      | .granted =>
          match engine.emitDtWindow session now with
          | (emitted, frames) =>
              ({ engine with txSessions := engine.txSessions.set key emitted }, frames, none)

def pollCmdtTimeouts (engine : J1939TransportProtocol) (now : Nat) :
    J1939TransportProtocol × List CanFrame :=
  engine.reapStaleTxSessions now

/-- The packet with the sequence number, broadcast. -/
def bamDtFrame (engine : J1939TransportProtocol) (channel : ChannelId) (data : Bytes) (seq : Nat) :
    CanFrame :=
  tpDtFrame channel 255 engine.addressByte (tpDtData seq ((data.drop ((seq - 1) * 7)).take 7))
    (tpDtData_length _ _)

def bamFrame (engine : J1939TransportProtocol) (channel : ChannelId) (pgn totalBytes : Nat) :
    CanFrame :=
  tpCmFrame channel 255 engine.addressByte
    (tpCmData tpCtrlBam (lowByte totalBytes) (highByte totalBytes)
      (UInt8.ofNat ((totalBytes + 6) / 7)) 0xFF pgn) (tpCmData_length ..)

/-- A broadcast keeps no session on the sending side. -/
def startTpBam (engine : J1939TransportProtocol) (pgn : Nat) (data : Bytes)
    (channel : Option ChannelId) : Except TpError (List CanFrame) :=
  if ¬ (1 ≤ data.length ∧ data.length ≤ maxTpBytes) then .error (.dataLength data.length)
  else if pgn ≥ 2 ^ 24 then .error (.pgnOverflow pgn)
  else
    let totalPackets := (data.length + 6) / 7
    .ok (engine.bamFrame (channel.getD engine.channel) pgn data.length ::
      (List.range' 1 totalPackets).map (engine.bamDtFrame (channel.getD engine.channel) data))

end Sending

section Control

inductive AddressError where
  | range (newAddress : Nat)
  deriving DecidableEq, Repr

def setMyAddress (engine : J1939TransportProtocol) (newAddress : Nat) :
    Except AddressError J1939TransportProtocol :=
  if newAddress ≤ 0xFF then .ok { engine with myAddress := newAddress }
  else .error (.range newAddress)

def resetSessions (engine : J1939TransportProtocol) : J1939TransportProtocol :=
  { engine with
    rxSessions := []
    txSessions := []
    perSaSessions := fun _ => 0
    pendingTxFrames := []
    rtsPrefixMarks := [] }

end Control

section Dispatch

/-- A frame of another format, a short one and one of the FD transport are not
the classic transport's. -/
def foreign (frame : CanFrame) : Bool :=
  !frame.isExtended || decide (frame.data.length < 8) ||
    (frame.isFd && (decide (frame.dlc > 8) || decide (frame.data.length > 8)))

/-- The packets of a grant: the first is the response, the others are queued. -/
def respond (engine : J1939TransportProtocol) (frames : List CanFrame) (error : Option CanFrame) :
    J1939TransportProtocol × Option CanFrame :=
  match frames with
  | [] => (engine, error)
  | first :: rest =>
      ({ engine with pendingTxFrames := engine.pendingTxFrames ++ rest ++ error.toList },
        some first)

def handleRxFramePdu (engine : J1939TransportProtocol) (clock : Clock) (frame : CanFrame) :
    J1939TransportProtocol × Option CompletedMessage × Option CanFrame :=
  if foreign frame then (engine, none, none)
  else
    let parsed := parseJ1939Id frame.arbitrationId
    let sa := UInt8.ofNat parsed.sourceAddress
    let da := UInt8.ofNat (parsed.destinationAddress.getD 255)
    if parsed.pgn = pgnTpCm then
      let key : TxKey := ⟨engine.myAddress, sa.toNat, pgnFromTpCm frame, frame.channel⟩
      if da.toNat = engine.myAddress ∧ ctrlTargetsSender frame ∧
          (engine.txSessions.contains key ∨ frame.data.getD 0 0 ≠ tpCtrlAbort) then
        match engine.handleTxCm clock frame sa with
        | (engine, frames, error) =>
            match engine.respond frames error with
            | (engine, response) => (engine, none, response)
      else
        match engine.handleTpCm clock frame sa da with
        | (engine, response) => (engine, none, response)
    else if parsed.pgn = pgnTpDt then engine.handleTpDt clock frame sa da
    else (engine, none, none)

/-- The responses to a replayed frame are dropped with everything queued. -/
def handleRxFrame (engine : J1939TransportProtocol) (clock : Clock) (frame : CanFrame)
    (suppressTxResponses : Bool) :
    J1939TransportProtocol × Option CompletedMessage × Option CanFrame :=
  match engine.handleRxFramePdu clock frame with
  | (engine, completed, response) =>
      if suppressTxResponses then ({ engine with pendingTxFrames := [] }, completed, none)
      else (engine, completed, response)

def takePendingTxFrames (engine : J1939TransportProtocol) :
    J1939TransportProtocol × List CanFrame :=
  ({ engine with pendingTxFrames := [] }, engine.pendingTxFrames)

end Dispatch

end J1939TransportProtocol

end J1939

end Ucanlab
