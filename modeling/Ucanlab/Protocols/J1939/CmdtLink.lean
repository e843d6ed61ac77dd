import Ucanlab.Lib.EventRun
import Ucanlab.Protocols.J1939.TransportSpec

/-!
A connection between two engines over a lossless link that keeps the order. The
receiver's first grant and the grants that follow it are computed apart; they
meet, and the transfer completes, exactly when the first one reaches the first
multiple of the follow-up window or the last packet.
-/

namespace Ucanlab.J1939

open J1939TransportProtocol

/-- Two engines and the frames on their way. `sent` keeps every frame the
receiver has emitted. -/
structure CmdtLink where
  sender : J1939TransportProtocol
  receiver : J1939TransportProtocol
  toReceiver : List CanFrame := []
  toSender : List CanFrame := []
  sent : List CanFrame := []
  delivered : List CompletedMessage := []

inductive Delivery where
  | toReceiver (clock : Clock)
  | toSender (clock : Clock)

namespace CmdtLink

/-- No session of the receiver runs out before the frame arrives. -/
def inTime (link : CmdtLink) (clock : Clock) : Bool :=
  link.receiver.rxSessions.all (fun entry =>
    decide (clock.reap - entry.2.lastActivityTime ≤ entry.2.holdTimeout ∧
      clock.session - entry.2.lastActivityTime ≤ entry.2.holdTimeout))

def emitted (engine : J1939TransportProtocol) (response : Option CanFrame) :
    J1939TransportProtocol × List CanFrame :=
  match engine.takePendingTxFrames with
  | (engine, pending) => (engine, response.toList ++ pending)

theorem emitted_respond {engine : J1939TransportProtocol} {first : CanFrame}
    (rest : List CanFrame) (empty : engine.pendingTxFrames = []) :
    emitted (engine.respond (first :: rest) none).1 (engine.respond (first :: rest) none).2 =
      (engine, first :: rest) := by
  obtain ⟨_, _, _, _, _, _, pending, _, _⟩ := engine
  cases empty
  unfold emitted takePendingTxFrames respond
  simp

def receiverTakes (link : CmdtLink) (clock : Clock) (frame : CanFrame) (rest : List CanFrame) :
    CmdtLink :=
  match link.receiver.handleRxFrame clock frame false with
  | (engine, completed, response) =>
      match emitted engine response with
      | (receiver, frames) =>
          { link with
            receiver := receiver
            toReceiver := rest
            toSender := link.toSender ++ frames
            sent := link.sent ++ frames
            delivered := link.delivered ++ completed.toList }

def senderTakes (link : CmdtLink) (clock : Clock) (frame : CanFrame) (rest : List CanFrame) :
    CmdtLink :=
  match link.sender.handleRxFrame clock frame false with
  | (engine, _, response) =>
      match emitted engine response with
      | (sender, frames) =>
          { link with
            sender := sender
            toSender := rest
            toReceiver := link.toReceiver ++ frames }

def step (link : CmdtLink) : Delivery → Option CmdtLink
  | .toReceiver clock =>
      match link.toReceiver with
      | [] => none
      | frame :: rest =>
          if link.inTime clock then some (link.receiverTakes clock frame rest) else none
  | .toSender clock =>
      match link.toSender with
      | [] => none
      | frame :: rest => some (link.senderTakes clock frame rest)

theorem receiverTakes_eq {link : CmdtLink} {clock : Clock} {frame : CanFrame}
    {engine receiver : J1939TransportProtocol} {completed : Option CompletedMessage}
    {response : Option CanFrame} {frames : List CanFrame} (rest : List CanFrame)
    (handled : link.receiver.handleRxFrame clock frame false = (engine, completed, response))
    (out : emitted engine response = (receiver, frames)) :
    link.receiverTakes clock frame rest =
      { link with
        receiver := receiver
        toReceiver := rest
        toSender := link.toSender ++ frames
        sent := link.sent ++ frames
        delivered := link.delivered ++ completed.toList } := by
  unfold receiverTakes
  rw [handled]
  dsimp only
  rw [out]

theorem senderTakes_eq {link : CmdtLink} {clock : Clock} {frame : CanFrame}
    {engine sender : J1939TransportProtocol} {completed : Option CompletedMessage}
    {response : Option CanFrame} {frames : List CanFrame} (rest : List CanFrame)
    (handled : link.sender.handleRxFrame clock frame false = (engine, completed, response))
    (out : emitted engine response = (sender, frames)) :
    link.senderTakes clock frame rest =
      { link with
        sender := sender
        toSender := rest
        toReceiver := link.toReceiver ++ frames } := by
  unfold senderTakes
  rw [handled]
  dsimp only
  rw [out]

def Quiescent (link : CmdtLink) : Prop := link.toReceiver = [] ∧ link.toSender = []

end CmdtLink

/-- A transfer: who sends what to whom, the receiver's window and the limit the
announcement carries. -/
structure CmdtSetup where
  senderAddress : UInt8
  receiverAddress : UInt8
  specific : receiverAddress ≠ 255
  channel : ChannelId
  pgn : Nat
  encodable : pgn < 2 ^ 24
  payload : Bytes
  size : 9 ≤ payload.length ∧ payload.length ≤ maxTpBytes
  rxCtsWindow : Nat
  maxPackets : UInt8
  clock : Clock

namespace CmdtSetup

variable (setup : CmdtSetup)

def packets : Nat := (setup.payload.length + 6) / 7

def limit : Nat := if setup.maxPackets.toNat > 0 then setup.maxPackets.toNat else 0xFF

def senderEngine : J1939TransportProtocol := { myAddress := setup.senderAddress.toNat }

def receiverEngine : J1939TransportProtocol :=
  { myAddress := setup.receiverAddress.toNat, rxCtsWindow := setup.rxCtsWindow }

def started : J1939TransportProtocol × Except TpError CanFrame :=
  setup.senderEngine.startCmdtTransfer setup.clock setup.receiverAddress.toNat setup.pgn
    setup.payload (some setup.channel)

def rts (limitByte : UInt8) : CanFrame :=
  tpCmFrame setup.channel setup.receiverAddress setup.senderAddress
    (tpCmData tpCtrlRts (lowByte setup.payload.length) (highByte setup.payload.length)
      (UInt8.ofNat setup.packets) limitByte setup.pgn) (tpCmData_length ..)

def initial : CmdtLink where
  sender := setup.started.1
  receiver := setup.receiverEngine
  toReceiver := [setup.rts setup.maxPackets]

def Reaches (deliveries : List Delivery) (link : CmdtLink) : Prop :=
  EventRun.run CmdtLink.step setup.initial deliveries = some link

def message : CompletedMessage where
  sourceAddress := setup.senderAddress
  destinationAddress := setup.receiverAddress
  pgn := setup.pgn
  data := setup.payload
  channel := setup.channel

def ctsGrants (frames : List CanFrame) : List (Nat × Nat) :=
  (frames.filter (fun frame => decide (frame.data.getD 0 0 = tpCtrlCts))).map
    (fun frame => ((frame.data.getD 2 0).toNat, (frame.data.getD 1 0).toNat))

def grantedUpTo (frames : List CanFrame) : Nat :=
  (ctsGrants frames).foldl (fun last grant => max last (grant.1 + grant.2 - 1)) 0

/-- What the transfer owes: a session that waits for packets has granted some it
has not received, no CTS grants more than the limit, and when nothing is on its
way any more the payload has been delivered, once, and acknowledged. No run goes
on for ever. -/
structure Completes : Prop where
  noStall : ∀ deliveries link, setup.Reaches deliveries link →
    ∀ entry ∈ link.receiver.rxSessions, entry.2.expectedSequence - 1 < grantedUpTo link.sent
  withinLimit : ∀ deliveries link, setup.Reaches deliveries link →
    ∀ grant ∈ ctsGrants link.sent, grant.2 ≤ setup.limit
  delivers : ∀ deliveries link, setup.Reaches deliveries link → link.Quiescent →
    link.delivered = [setup.message] ∧ link.receiver.rxSessions = [] ∧
      link.sender.txSessions = []
  terminates : ∀ deliveries link, setup.Reaches deliveries link →
    deliveries.length ≤ 2 * setup.packets + 2

def window : Nat := if setup.rxCtsWindow ≠ 0 then setup.rxCtsWindow else maxCtsPacketCount

/-- The first grant covers the transfer, or the follow-up window is one that a
single grant may cover. -/
def GrantsMeet : Prop :=
  setup.packets ≤ min setup.limit (min setup.window maxCtsPacketCount) ∨
    setup.window ≤ min setup.limit maxCtsPacketCount

instance : Decidable setup.GrantsMeet := inferInstanceAs (Decidable (_ ∨ _))

section Parties

def senderSession (state : SenderState) (ctsWindow next time : Nat) : CmdtSenderSession where
  sourceAddress := setup.senderAddress.toNat
  destinationAddress := setup.receiverAddress.toNat
  targetPgn := setup.pgn
  totalBytes := setup.payload.length
  totalPackets := setup.packets
  data := setup.payload
  channel := setup.channel
  state := state
  ctsWindow := ctsWindow
  nextSequence := next
  lastActivityTime := time

def senderKey : TxKey where
  sourceAddress := setup.senderAddress.toNat
  destinationAddress := setup.receiverAddress.toNat
  targetPgn := setup.pgn
  channel := setup.channel

/-- The sender after `sent` packets, none of which is granted beyond them. -/
def senderAt (state : SenderState) (ctsWindow sent time : Nat) : J1939TransportProtocol :=
  { setup.senderEngine with
    txSessions := [(setup.senderKey, setup.senderSession state ctsWindow (sent + 1) time)] }

def receiverSession (received time : Nat) : ReassemblySession where
  sourceAddress := setup.senderAddress
  destinationAddress := setup.receiverAddress
  targetPgn := setup.pgn
  totalBytes := setup.payload.length
  totalPackets := setup.packets
  isBam := false
  expectedSequence := received + 1
  receivedBytes := setup.payload.take (7 * received)
  lastActivityTime := time
  channel := setup.channel
  rxCtsWindow := setup.rxCtsWindow
  maxPacketsPerCts := setup.limit

def receiverAt (received time : Nat) : J1939TransportProtocol :=
  { setup.receiverEngine with
    rxSessions := [((setup.receiverSession received time).key,
      setup.receiverSession received time)]
    perSaSessions := fun address => if address = setup.senderAddress then 1 else 0 }

def cts (received grant : Nat) : CanFrame :=
  tpCmFrame setup.channel setup.senderAddress setup.receiverAddress
    (tpCmData tpCtrlCts (UInt8.ofNat grant) (UInt8.ofNat (received + 1)) 0xFF 0xFF setup.pgn) (tpCmData_length ..)

def ack : CanFrame :=
  tpCmFrame setup.channel setup.senderAddress setup.receiverAddress
    (tpCmData tpCtrlAck (lowByte setup.payload.length) (highByte setup.payload.length)
      (UInt8.ofNat setup.packets) 0xFF setup.pgn) (tpCmData_length ..)

def chunk (seq : Nat) : Bytes := (setup.payload.drop ((seq - 1) * 7)).take 7

def packet (seq : Nat) : CanFrame :=
  tpDtFrame setup.channel setup.receiverAddress setup.senderAddress
    (tpDtData seq (setup.chunk seq)) (tpDtData_length _ _)

def firstGrant : Nat := initialGrant (setup.receiverSession 0 0)

def followUpGrant (received : Nat) : Nat :=
  min (min setup.window (setup.packets - received)) maxCtsPacketCount

theorem packets_bounds : 2 ≤ setup.packets ∧ setup.packets ≤ 255 := by
  have size := setup.size
  unfold packets
  unfold maxTpBytes at size
  omega

theorem senderAddressByte : setup.senderEngine.addressByte = setup.senderAddress :=
  UInt8.ofNat_toNat

theorem receiverAddressByte : setup.receiverEngine.addressByte = setup.receiverAddress :=
  UInt8.ofNat_toNat

theorem started_eq :
    setup.started = (setup.senderAt .waitCts 0 0 setup.clock.session, .ok (setup.rts 0xFF)) := by
  have size := setup.size
  have encodable := setup.encodable
  have accepted : ¬ ¬ (1 ≤ setup.payload.length ∧ setup.payload.length ≤ maxTpBytes) := by omega
  unfold started startCmdtTransfer
  rw [if_neg accepted]
  dsimp only [reapStaleTxSessions]
  rw [if_neg (by omega)]
  refine Prod.ext rfl (congrArg Except.ok ?_)
  change tpCmFrame _ (UInt8.ofNat setup.receiverAddress.toNat) setup.senderEngine.addressByte _ _ = _
  rw [UInt8.ofNat_toNat, setup.senderAddressByte]
  rfl

theorem rts_opens (clock : Clock) :
    setup.receiverEngine.handleRxFrame clock (setup.rts setup.maxPackets) false =
      (setup.receiverAt 0 clock.session, none, some (setup.cts 0 setup.firstGrant)) := by
  have size := setup.size
  have announced := announcement_of_transfer setup.channel setup.receiverAddress
    setup.senderAddress setup.senderAddress setup.receiverAddress tpCtrlRts setup.maxPackets
    setup.size.2 setup.encodable
  change announcement (setup.rts setup.maxPackets) setup.senderAddress setup.receiverAddress = _
    at announced
  have session : (announcement (setup.rts setup.maxPackets) setup.senderAddress
      setup.receiverAddress).session false setup.rxCtsWindow clock.session =
        setup.receiverSession 0 clock.session := by
    rw [announced]
    rfl
  have wellFormed : (announcement (setup.rts setup.maxPackets) setup.senderAddress
      setup.receiverAddress).wellFormed = true := by
    rw [announced]
    exact wellFormed_of_size ⟨by dsimp only; omega, size.2⟩ rfl
  unfold rts at session wellFormed ⊢
  have undirected : ¬ decide (tpCtrlRts ∈ [tpCtrlCts, tpCtrlAck, tpCtrlAbort]) = true := by decide
  have quota : setup.receiverEngine.perSaSessions setup.senderAddress < maxSessionsPerSa := by
    change 0 < maxSessionsPerSa
    decide
  rw [handleRxFrame_tpCm, ctrlTargetsSender_tpCmData, if_neg (fun directed => undirected directed.2.1),
    handleTpCm_rts rfl clock rfl wellFormed quota setup.specific rfl]
  dsimp only
  rw [show setup.receiverEngine.rxCtsWindow = setup.rxCtsWindow from rfl, session]
  refine Prod.ext rfl (Prod.ext rfl (congrArg some ?_))
  unfold createCtsFrame ctsFrame cts
  rw [setup.receiverAddressByte]
  rfl

theorem append_packet {received : Nat} (time now : Nat) (unfinished : received < setup.packets) :
    (setup.receiverSession received time).append
        (((setup.packet (received + 1)).data.drop 1).take 7) now =
      setup.receiverSession (received + 1) now :=
  append_chunk now rfl rfl unfinished

theorem receiverSession_complete {received : Nat} (time : Nat) (bounded : received ≤ setup.packets) :
    (setup.receiverSession received time).complete = decide (received = setup.packets) :=
  complete_of_filled rfl rfl rfl rfl bounded

theorem connected_receiverSession (received time later : Nat) :
    (setup.receiverAt received later).connected (setup.receiverSession received time) = true := by
  change (!false && decide (setup.receiverAddress.toNat = setup.receiverAddress.toNat)) = true
  rw [decide_eq_true rfl]
  rfl

theorem receiverAt_released (received time : Nat) :
    (setup.receiverAt received time).releaseSessionSlot (setup.receiverSession received time).key
      (some (setup.receiverSession received time)) = setup.receiverEngine := by
  have counted : (fun address => if address = setup.senderAddress then
      (setup.receiverAt received time).perSaSessions address - 1
        else (setup.receiverAt received time).perSaSessions address) = fun _ => 0 := by
    funext address
    change (if address = setup.senderAddress then
      (if address = setup.senderAddress then 1 else 0) - 1
        else if address = setup.senderAddress then 1 else 0) = 0
    split <;> rfl
  rw [releaseSessionSlot_only rfl]
  change { setup.receiverAt received time with
    rxSessions := []
    perSaSessions := fun address => if address = setup.senderAddress then
      (setup.receiverAt received time).perSaSessions address - 1
        else (setup.receiverAt received time).perSaSessions address } = _
  rw [counted]
  rfl

theorem message_of_last {received : Nat} (last : received = setup.packets) (time : Nat) :
    CompletedMessage.mk setup.senderAddress setup.receiverAddress setup.pgn
      ((setup.receiverSession received time).receivedBytes.take setup.payload.length)
        setup.channel = setup.message := by
  have data : (setup.receiverSession received time).receivedBytes = setup.payload := by
    refine List.take_of_length_le ?_
    unfold packets at last
    omega
  rw [data, List.take_length]
  rfl

theorem followUpCts_receiverSession (received time : Nat) :
    (setup.receiverAt received time).followUpCts setup.channel
        (setup.receiverSession received time) =
      if received % setup.window = 0 then
        some (setup.cts received (setup.followUpGrant received))
      else none := by
  have positive : setup.window > 0 := by
    unfold window
    split
    · omega
    · decide
  have connected := setup.connected_receiverSession received time time
  unfold followUpCts
  rw [if_pos connected]
  change (if setup.window > 0 ∧ received % setup.window = 0 then some _ else none) = _
  have granted : (setup.receiverAt received time).ctsFrame setup.channel
      (setup.receiverSession received time) (setup.followUpGrant received) =
        setup.cts received (setup.followUpGrant received) := by
    unfold ctsFrame cts
    rw [← setup.receiverAddressByte]
    rfl
  by_cases aligned : received % setup.window = 0
  · rw [if_pos ⟨positive, aligned⟩, if_pos aligned]
    exact congrArg some granted
  · rw [if_neg (fun all => aligned all.2), if_neg aligned]

theorem packet_received {received : Nat} (clock : Clock) {time : Nat}
    (unfinished : received < setup.packets)
    (timely : clock.session - time ≤ t4TimeoutNs) :
    (setup.receiverAt received time).handleRxFrame clock (setup.packet (received + 1)) false =
      if received + 1 = setup.packets then
        (setup.receiverEngine, some setup.message, some setup.ack)
      else
        (setup.receiverAt (received + 1) clock.session, none,
          if (received + 1) % setup.window = 0 then
            some (setup.cts (received + 1) (setup.followUpGrant (received + 1)))
          else none) := by
  obtain ⟨more, few⟩ := setup.packets_bounds
  have sequence : ((setup.packet (received + 1)).data.getD 0 0).toNat = received + 1 := by
    change (UInt8.ofNat (received + 1)).toNat = received + 1
    rw [ofNat_toNat_mod]
    omega
  have extended := setup.append_packet time clock.session unfinished
  have complete := setup.receiverSession_complete clock.session (Nat.succ_le_of_lt unfinished)
  have connected := setup.connected_receiverSession (received + 1) clock.session clock.session
  have only : (setup.receiverAt received time).rxSessions =
      [((setup.receiverSession received time).key, setup.receiverSession received time)] := rfl
  have parties : (setup.receiverSession received time).sourceAddress = setup.senderAddress ∧
      (setup.receiverSession received time).destinationAddress = setup.receiverAddress ∧
      (setup.receiverSession received time).channel =
        (setup.packet (received + 1)).channel := ⟨rfl, rfl, rfl⟩
  have dispatched : (setup.receiverAt received time).handleRxFrame clock
      (setup.packet (received + 1)) false =
        (setup.receiverAt received time).handleTpDt clock (setup.packet (received + 1))
          setup.senderAddress setup.receiverAddress := handleRxFrame_tpDt ..
  have engine : { setup.receiverAt received time with
      rxSessions := [((setup.receiverSession received time).key,
        setup.receiverSession (received + 1) clock.session)] } =
          setup.receiverAt (received + 1) clock.session := rfl
  rw [dispatched, handleTpDt_in_order clock only parties timely sequence]
  dsimp only
  rw [extended, complete, engine]
  by_cases last : received + 1 = setup.packets
  · rw [if_pos (decide_eq_true last), if_pos last]
    refine Prod.ext ?_ (Prod.ext (congrArg some ?_) ?_)
    · exact setup.receiverAt_released _ _
    · exact setup.message_of_last last clock.session
    · unfold endOfMsgAck
      rw [if_pos connected]
      refine congrArg some ?_
      unfold ack
      rw [← setup.receiverAddressByte]
      rfl
  · rw [if_neg (fun all => last (of_decide_eq_true all)), if_neg last]
    refine Prod.ext rfl (Prod.ext rfl ?_)
    exact setup.followUpCts_receiverSession _ _

theorem handleRxFrame_sender {state : SenderState} {ctsWindow sent time : Nat} (clock : Clock)
    {control : UInt8} (directed : control = tpCtrlCts ∨ control = tpCtrlAck)
    (first second third fourth : UInt8) :
    (setup.senderAt state ctsWindow sent time).handleRxFrame clock
        (tpCmFrame setup.channel setup.senderAddress setup.receiverAddress
          (tpCmData control first second third fourth setup.pgn) (tpCmData_length ..)) false =
      match (setup.senderAt state ctsWindow sent time).storeOutcome setup.senderKey
          (setup.senderSession state ctsWindow (sent + 1) time) clock.emission
          (if control = tpCtrlCts then
            receiveCts (setup.senderSession state ctsWindow (sent + 1) time) clock first.toNat
              second.toNat
          else receiveAck (setup.senderSession state ctsWindow (sent + 1) time)
            (littleEndian [first, second]) third.toNat setup.pgn) with
      | (engine, frames, error) =>
          match engine.respond frames error with
          | (engine, response) => (engine, none, response) := by
  have listed : decide (control ∈ [tpCtrlCts, tpCtrlAck, tpCtrlAbort]) = true := by
    rcases directed with rfl | rfl <;> decide
  have lasting : control ≠ tpCtrlAbort := by
    rcases directed with rfl | rfl <;> decide
  have only : (setup.senderAt state ctsWindow sent time).txSessions =
      [(setup.senderKey, setup.senderSession state ctsWindow (sent + 1) time)] := rfl
  rw [handleRxFrame_tpCm, ctrlTargetsSender_tpCmData, if_pos ⟨rfl, listed, Or.inr lasting⟩,
    handleTxCm_only clock only setup.encodable rfl]
  rcases directed with rfl | rfl
  · rw [if_pos rfl, if_pos rfl]
  · rw [if_neg (by decide), if_pos rfl, if_neg (by decide)]

/-- The packets after `received` up to `granted`. -/
def burst (received granted : Nat) : List CanFrame :=
  (List.range' (received + 1) (granted - received)).map setup.packet

theorem burst_succ {received last : Nat} (further : received < last) :
    setup.burst received last =
      setup.packet (received + 1) :: setup.burst (received + 1) last := by
  unfold burst
  rw [show last - received = (last - (received + 1)) + 1 by omega, List.range'_succ, List.map_cons]

theorem burst_self (last : Nat) : setup.burst last last = [] := by
  unfold burst
  rw [Nat.sub_self]
  rfl

theorem dtFrame_packet (engine : J1939TransportProtocol)
    (address : engine.addressByte = setup.senderAddress)
    (state : SenderState) (ctsWindow next time seq : Nat) :
    engine.dtFrame (setup.senderSession state ctsWindow next time) seq = setup.packet seq := by
  unfold dtFrame packet
  rw [address]
  change tpDtFrame _ (UInt8.ofNat setup.receiverAddress.toNat) _ _ _ = _
  rw [UInt8.ofNat_toNat]
  rfl

theorem emitDtWindow_session (engine : J1939TransportProtocol)
    (address : engine.addressByte = setup.senderAddress) {received grant last : Nat}
    (time now : Nat) (reach : last = min (received + grant) setup.packets)
    (further : received < last) :
    engine.emitDtWindow (setup.senderSession .granted grant (received + 1) time) now =
      (setup.senderSession (if last + 1 > setup.packets then .waitAck else .waitCts) grant
        (last + 1) now, setup.burst received last) := by
  have count : min (received + 1 + grant - 1) setup.packets + 1 - (received + 1) =
      last - received := by omega
  have next : received + 1 + (last - received) = last + 1 := by omega
  have frames : (engine.dtFrame (setup.senderSession .granted grant (received + 1) time)) =
      setup.packet := by
    funext seq
    exact setup.dtFrame_packet engine address _ _ _ _ seq
  unfold emitDtWindow
  rw [frames]
  dsimp only [senderSession]
  rw [count, next]
  rfl

theorem cts_answered {ctsWindow received time grant last : Nat} (clock : Clock)
    (positive : 0 < grant) (capped : grant ≤ maxCtsPacketCount)
    (reach : last = min (received + grant) setup.packets) (further : received < last) :
    ∃ engine response,
      (setup.senderAt .waitCts ctsWindow received time).handleRxFrame clock
        (setup.cts received grant) false = (engine, none, response) ∧
      CmdtLink.emitted engine response =
        (setup.senderAt (if last + 1 > setup.packets then .waitAck else .waitCts) grant last
          clock.emission, setup.burst received last) := by
  obtain ⟨more, few⟩ := setup.packets_bounds
  have grantByte : (UInt8.ofNat grant).toNat = grant := by
    unfold maxCtsPacketCount at capped
    rw [ofNat_toNat_mod]
    omega
  have nextByte : (UInt8.ofNat (received + 1)).toNat = received + 1 := by
    rw [ofNat_toNat_mod]
    omega
  have outcome : receiveCts (setup.senderSession .waitCts ctsWindow (received + 1) time) clock
      grant (received + 1) =
        .granted (setup.senderSession .granted grant (received + 1) clock.session) := by
    refine receiveCts_next clock positive capped (Nat.succ_ne_zero _) ?_
    change received + 1 ≤ setup.packets
    omega
  have emission := setup.emitDtWindow_session (setup.senderAt .waitCts ctsWindow received time)
    setup.senderAddressByte clock.session clock.emission reach further
  unfold cts
  rw [setup.handleRxFrame_sender clock (Or.inl rfl), if_pos rfl, grantByte, nextByte, outcome]
  dsimp only [storeOutcome]
  rw [emission, setup.burst_succ further]
  refine ⟨_, _, rfl, ?_⟩
  dsimp only [senderAt]
  rw [Dict.set_singleton]
  exact CmdtLink.emitted_respond _ rfl

theorem ack_answered {ctsWindow time : Nat} (clock : Clock) :
    (setup.senderAt .waitAck ctsWindow setup.packets time).handleRxFrame clock setup.ack false =
      (setup.senderEngine, none, none) := by
  obtain ⟨more, few⟩ := setup.packets_bounds
  have size := setup.size
  unfold maxTpBytes at size
  have length : littleEndian [lowByte setup.payload.length, highByte setup.payload.length] =
      setup.payload.length := littleEndian_pair _ (by omega)
  have count : (UInt8.ofNat setup.packets).toNat = setup.packets := by
    rw [ofNat_toNat_mod]
    omega
  have outcome : receiveAck (setup.senderSession .waitAck ctsWindow (setup.packets + 1) time)
      setup.payload.length setup.packets setup.pgn = .closed := receiveAck_matching rfl
  unfold ack
  rw [setup.handleRxFrame_sender clock (Or.inr rfl), if_neg (by decide), length, count, outcome]
  dsimp only [storeOutcome, senderAt]
  rw [Dict.erase_singleton]
  rfl

end Parties

section Grants

theorem window_positive : 0 < setup.window := by
  unfold window
  split
  · omega
  · decide

theorem limit_positive : 0 < setup.limit := by
  unfold limit
  split
  · assumption
  · decide

theorem firstGrant_eq :
    setup.firstGrant = min setup.packets (min setup.limit (min setup.window maxCtsPacketCount)) := by
  obtain ⟨more, few⟩ := setup.packets_bounds
  have positive := setup.limit_positive
  have grant : setup.firstGrant = max 1 (min
      (if setup.rxCtsWindow > 0 then min (if setup.limit > 0 ∧ setup.limit < setup.packets then
          min setup.packets setup.limit else setup.packets) setup.rxCtsWindow
        else if setup.limit > 0 ∧ setup.limit < setup.packets then
          min setup.packets setup.limit else setup.packets) maxCtsPacketCount) := rfl
  rw [grant]
  unfold window maxCtsPacketCount
  split <;> split <;> split <;> omega

/-- The packets a CTS grants: after `base` of them up to `last`. -/
inductive Granted : Nat → Nat → Prop
  | first : Granted 0 setup.firstGrant
  | further {base : Nat} (aligned : base % setup.window = 0) (inside : base < setup.packets)
      (narrow : setup.window ≤ min setup.limit maxCtsPacketCount) :
      Granted base (base + setup.followUpGrant base)

variable {setup}

theorem Granted.bounds {base last : Nat} (granted : setup.Granted base last) :
    base < last ∧ last ≤ setup.packets ∧ last - base ≤ min setup.limit maxCtsPacketCount := by
  obtain ⟨more, few⟩ := setup.packets_bounds
  have window := setup.window_positive
  have limit := setup.limit_positive
  have first := setup.firstGrant_eq
  have cap : maxCtsPacketCount = 16 := rfl
  cases granted with
  | first => omega
  | further aligned inside narrow =>
      unfold followUpGrant
      omega

theorem Granted.settled {base last : Nat} (meet : setup.GrantsMeet)
    (granted : setup.Granted base last) : last = setup.packets ∨ last % setup.window = 0 := by
  have first := setup.firstGrant_eq
  have cap : maxCtsPacketCount = 16 := rfl
  cases granted with
  | first =>
      rcases meet with whole | narrow
      · exact Or.inl (by omega)
      · by_cases short : setup.packets ≤ setup.window
        · exact Or.inl (by omega)
        · have exact : setup.firstGrant = setup.window := by omega
          rw [exact]
          exact Or.inr (Nat.mod_self _)
  | further aligned inside narrow =>
      unfold followUpGrant
      by_cases short : setup.packets - base ≤ setup.window
      · exact Or.inl (by omega)
      · have exact : min (min setup.window (setup.packets - base)) maxCtsPacketCount =
            setup.window := by omega
        rw [exact, Nat.add_mod_right]
        exact Or.inr aligned

theorem Granted.narrow {base last received : Nat} (granted : setup.Granted base last)
    (positive : 0 < received) (upTo : received ≤ last)
    (aligned : received % setup.window = 0) :
    setup.window ≤ min setup.limit maxCtsPacketCount := by
  have reached : setup.window ≤ received :=
    Nat.le_of_dvd positive (Nat.dvd_of_mod_eq_zero aligned)
  have first := setup.firstGrant_eq
  cases granted with
  | first => omega
  | further _ _ narrow => exact narrow

theorem Granted.ends {base last received : Nat} (granted : setup.Granted base last)
    (after : base < received) (upTo : received ≤ last)
    (aligned : received % setup.window = 0) : received = last := by
  have first := setup.firstGrant_eq
  cases granted with
  | first =>
      have reached : setup.window ≤ received :=
        Nat.le_of_dvd after (Nat.dvd_of_mod_eq_zero aligned)
      omega
  | further baseAligned _ _ =>
      have reached : setup.window ≤ received - base :=
        Nat.le_of_dvd (by omega)
          (Nat.dvd_sub (Nat.dvd_of_mod_eq_zero aligned) (Nat.dvd_of_mod_eq_zero baseAligned))
      unfold followUpGrant at upTo ⊢
      omega

theorem Granted.meets {base : Nat} (granted : setup.Granted base setup.packets) :
    setup.GrantsMeet := by
  unfold GrantsMeet
  have first := setup.firstGrant_eq
  generalize whole : setup.packets = packets at granted first ⊢
  cases granted with
  | first => exact Or.inl (by omega)
  | further _ _ narrow => exact Or.inr narrow

end Grants

section Runs

variable {setup}

/-- The frames the receiver has emitted once packets up to `last` are granted. -/
structure History (setup : CmdtSetup) (frames : List CanFrame) (last : Nat) : Prop where
  upTo : grantedUpTo frames = last
  within : ∀ grant ∈ ctsGrants frames, grant.2 ≤ setup.limit

theorem History.empty : History setup [] 0 where
  upTo := rfl
  within := nofun

theorem ctsGrants_append (front back : List CanFrame) :
    ctsGrants (front ++ back) = ctsGrants front ++ ctsGrants back := by
  unfold ctsGrants
  rw [List.filter_append, List.map_append]

theorem History.grant {frames : List CanFrame} {base last : Nat}
    (history : History setup frames base) (granted : setup.Granted base last) :
    History setup (frames ++ [setup.cts base (last - base)]) last := by
  obtain ⟨more, few⟩ := setup.packets_bounds
  obtain ⟨further, inside, bounded⟩ := granted.bounds
  have cap : maxCtsPacketCount = 16 := rfl
  have added : ctsGrants [setup.cts base (last - base)] =
      [((UInt8.ofNat (base + 1)).toNat, (UInt8.ofNat (last - base)).toNat)] := rfl
  have start : (UInt8.ofNat (base + 1)).toNat = base + 1 := by
    rw [ofNat_toNat_mod]
    omega
  have count : (UInt8.ofNat (last - base)).toNat = last - base := by
    rw [ofNat_toNat_mod]
    omega
  have upTo := history.upTo
  rw [start, count] at added
  constructor
  · unfold grantedUpTo at upTo ⊢
    rw [ctsGrants_append, added, List.foldl_append, upTo]
    change max base (base + 1 + (last - base) - 1) = last
    omega
  · intro grant member
    rw [ctsGrants_append, added] at member
    rcases List.mem_append.mp member with earlier | now
    · exact history.within grant earlier
    · rw [List.mem_singleton.mp now]
      change last - base ≤ setup.limit
      omega

theorem History.acknowledge {frames : List CanFrame} {last : Nat}
    (history : History setup frames last) : History setup (frames ++ [setup.ack]) last := by
  have silent : ctsGrants [setup.ack] = [] := rfl
  have same : ctsGrants (frames ++ [setup.ack]) = ctsGrants frames := by
    rw [ctsGrants_append, silent, List.append_nil]
  constructor
  · unfold grantedUpTo
    rw [same]
    exact history.upTo
  · rw [same]
    exact history.within

/-- Where a run of the transfer stands, and how many deliveries it has left at
most. While packets are on their way the receiver has granted all of them and
waits for more only inside its window. -/
inductive Phase (setup : CmdtSetup) : Nat → CmdtLink → Prop
  | announced (time : Nat) : Phase setup (2 * setup.packets + 2) {
      sender := setup.senderAt .waitCts 0 0 time
      receiver := setup.receiverEngine
      toReceiver := [setup.rts setup.maxPackets] }
  | granting {base last ctsWindow sentTime time : Nat} {sent : List CanFrame}
      (granted : setup.Granted base last) (history : History setup sent last) :
      Phase setup (2 * (setup.packets - base) + 1) {
        sender := setup.senderAt .waitCts ctsWindow base sentTime
        receiver := setup.receiverAt base time
        toSender := [setup.cts base (last - base)]
        sent := sent }
  | sending {base received last ctsWindow sentTime time : Nat} {sent : List CanFrame}
      (granted : setup.Granted base last) (history : History setup sent last)
      (after : base ≤ received) (upTo : received ≤ last) (unfinished : received < setup.packets)
      (waits : received = last → last % setup.window ≠ 0) :
      Phase setup (2 * (setup.packets - received)) {
        sender := setup.senderAt (if last + 1 > setup.packets then .waitAck else .waitCts) ctsWindow
          last sentTime
        receiver := setup.receiverAt received time
        toReceiver := setup.burst received last
        sent := sent }
  | acknowledging {base ctsWindow sentTime : Nat} {sent : List CanFrame}
      (granted : setup.Granted base setup.packets) (history : History setup sent setup.packets) :
      Phase setup 1 {
        sender := setup.senderAt .waitAck ctsWindow setup.packets sentTime
        receiver := setup.receiverEngine
        toSender := [setup.ack]
        sent := sent
        delivered := [setup.message] }
  | closed {base : Nat} {sent : List CanFrame} (granted : setup.Granted base setup.packets)
      (history : History setup sent setup.packets) :
      Phase setup 0 {
        sender := setup.senderEngine
        receiver := setup.receiverEngine
        sent := sent
        delivered := [setup.message] }

theorem Phase.packet {base received last ctsWindow sentTime time : Nat} {sent : List CanFrame}
    (granted : setup.Granted base last) (history : History setup sent last)
    (after : base ≤ received) (further : received < last) (clock : Clock)
    (timely : clock.session - time ≤ t4TimeoutNs) {link : CmdtLink}
    (sending : link = {
      sender := setup.senderAt (if last + 1 > setup.packets then .waitAck else .waitCts) ctsWindow
        last sentTime
      receiver := setup.receiverAt received time
      toReceiver := setup.burst received last
      sent := sent }) :
    ∃ fewer, fewer < 2 * (setup.packets - received) ∧ Phase setup fewer
      (link.receiverTakes clock (setup.packet (received + 1)) (setup.burst (received + 1) last)) := by
  obtain ⟨_, inside, _⟩ := granted.bounds
  have taken := setup.packet_received clock (show received < setup.packets by omega) timely
  have opened : setup.receiverAt received time = link.receiver := by rw [sending]
  rw [opened] at taken
  by_cases final : received + 1 = setup.packets
  · have whole : last = setup.packets := by omega
    rw [if_pos final] at taken
    rw [CmdtLink.receiverTakes_eq _ taken rfl, sending]
    subst whole
    rw [if_pos (by omega), final, setup.burst_self]
    exact ⟨1, by omega, .acknowledging granted history.acknowledge⟩
  · rw [if_neg final] at taken
    by_cases aligned : (received + 1) % setup.window = 0
    · have narrow := granted.narrow (Nat.succ_pos _) (Nat.succ_le_of_lt further) aligned
      have ends : received + 1 = last :=
        granted.ends (Nat.lt_succ_of_le after) (Nat.succ_le_of_lt further) aligned
      subst ends
      obtain ⟨reach, next, span⟩ : ∃ reach, setup.Granted (received + 1) reach ∧
          setup.followUpGrant (received + 1) = reach - (received + 1) :=
        ⟨_, .further aligned (by omega) narrow, (Nat.add_sub_cancel_left ..).symm⟩
      rw [if_pos aligned, span] at taken
      rw [CmdtLink.receiverTakes_eq _ taken rfl, sending, setup.burst_self, if_neg (by omega)]
      exact ⟨2 * (setup.packets - (received + 1)) + 1, by omega,
        .granting next (history.grant next)⟩
    · rw [if_neg aligned] at taken
      rw [CmdtLink.receiverTakes_eq _ taken rfl, sending]
      have waits : received + 1 = last → last % setup.window ≠ 0 := by
        intro ends
        rw [← ends]
        exact aligned
      have unheard : sent ++ [] = sent := List.append_nil sent
      refine ⟨2 * (setup.packets - (received + 1)), by omega, ?_⟩
      exact unheard.symm ▸ .sending granted history (by omega) (by omega) (by omega) waits

theorem step_toReceiver {link next : CmdtLink} {clock : Clock}
    (stepped : link.step (.toReceiver clock) = some next) :
    ∃ frame rest, link.toReceiver = frame :: rest ∧ link.inTime clock = true ∧
      next = link.receiverTakes clock frame rest := by
  cases waiting : link.toReceiver with
  | nil =>
      simp only [CmdtLink.step, waiting] at stepped
      cases stepped
  | cons frame rest =>
      simp only [CmdtLink.step, waiting] at stepped
      split at stepped
      · rename_i timely
        cases stepped
        exact ⟨frame, rest, rfl, timely, rfl⟩
      · cases stepped

theorem step_toSender {link next : CmdtLink} {clock : Clock}
    (stepped : link.step (.toSender clock) = some next) :
    ∃ frame rest, link.toSender = frame :: rest ∧ next = link.senderTakes clock frame rest := by
  cases waiting : link.toSender with
  | nil =>
      simp only [CmdtLink.step, waiting] at stepped
      cases stepped
  | cons frame rest =>
      simp only [CmdtLink.step, waiting] at stepped
      cases stepped
      exact ⟨frame, rest, rfl, rfl⟩

theorem Phase.step {left : Nat} {link next : CmdtLink} {delivery : Delivery}
    (phase : Phase setup left link) (stepped : link.step delivery = some next) :
    ∃ fewer, fewer < left ∧ Phase setup fewer next := by
  cases delivery with
  | toReceiver clock =>
      obtain ⟨frame, rest, waiting, timely, rfl⟩ := step_toReceiver stepped
      cases phase with
      | announced time =>
          obtain ⟨rfl, rfl⟩ := List.cons.inj waiting
          rw [CmdtLink.receiverTakes_eq _ (setup.rts_opens clock) rfl]
          exact ⟨2 * (setup.packets - 0) + 1, by omega,
            .granting .first (History.empty.grant .first)⟩
      | granting granted history => cases waiting
      | sending granted history after upTo unfinished waits =>
          rename_i received last ctsWindow sentTime time sent
          rcases Nat.eq_or_lt_of_le upTo with rfl | further
          · change setup.burst received received = _ at waiting
            rw [setup.burst_self] at waiting
            cases waiting
          · change setup.burst received last = _ at waiting
            rw [setup.burst_succ further] at waiting
            obtain ⟨rfl, rfl⟩ := List.cons.inj waiting
            have live := List.all_eq_true.mp timely _ (List.mem_singleton_self _)
            exact Phase.packet granted history after further clock (of_decide_eq_true live).2 rfl
      | acknowledging granted history => cases waiting
      | closed granted history => cases waiting
  | toSender clock =>
      obtain ⟨frame, rest, waiting, rfl⟩ := step_toSender stepped
      cases phase with
      | announced time => cases waiting
      | granting granted history =>
          rename_i base last ctsWindow sentTime time sent
          obtain ⟨rfl, rfl⟩ := List.cons.inj waiting
          obtain ⟨further, inside, bounded⟩ := granted.bounds
          have reach : last = min (base + (last - base)) setup.packets := by omega
          obtain ⟨engine, response, handled, out⟩ := setup.cts_answered clock
            (Nat.sub_pos_of_lt further) (Nat.le_trans bounded (Nat.min_le_right _ _)) reach further
          rw [CmdtLink.senderTakes_eq _ handled out]
          exact ⟨2 * (setup.packets - base), by omega, .sending granted history (Nat.le_refl base)
            (Nat.le_of_lt further) (by omega) (fun same => absurd same (Nat.ne_of_lt further))⟩
      | sending granted history after upTo unfinished waits => cases waiting
      | acknowledging granted history =>
          obtain ⟨rfl, rfl⟩ := List.cons.inj waiting
          rw [CmdtLink.senderTakes_eq _ (setup.ack_answered clock) rfl]
          exact ⟨0, by omega, .closed granted history⟩
      | closed granted history => cases waiting

theorem Phase.start (setup : CmdtSetup) : Phase setup (2 * setup.packets + 2) setup.initial := by
  unfold initial
  rw [setup.started_eq]
  exact .announced setup.clock.session

theorem Phase.of_run {deliveries : List Delivery} {link : CmdtLink}
    (reaches : setup.Reaches deliveries link) :
    ∃ left, Phase setup left link ∧ left + deliveries.length ≤ 2 * setup.packets + 2 :=
  EventRun.run_descends (fun _ _ _ _ phase stepped => phase.step stepped) (Phase.start setup)
    reaches

theorem step_ready {link : CmdtLink} {frame : CanFrame} {rest : List CanFrame} (clock : Clock)
    (waiting : link.toReceiver = frame :: rest) (timely : link.inTime clock = true) :
    ∃ delivery next, link.step delivery = some next := by
  refine ⟨.toReceiver clock, link.receiverTakes clock frame rest, ?_⟩
  simp only [CmdtLink.step, waiting]
  exact if_pos timely

theorem Phase.progress {left : Nat} {link : CmdtLink} (phase : Phase setup left link) :
    link.Quiescent ∨ ∃ delivery next, link.step delivery = some next := by
  cases phase with
  | announced time => exact Or.inr (step_ready setup.clock rfl rfl)
  | granting granted history => exact Or.inr ⟨.toSender setup.clock, _, rfl⟩
  | sending granted history after upTo unfinished waits =>
      rename_i received last ctsWindow sentTime time sent
      rcases Nat.eq_or_lt_of_le upTo with rfl | further
      · exact Or.inl ⟨setup.burst_self received, rfl⟩
      · refine Or.inr (step_ready (Clock.at time) (setup.burst_succ further) ?_)
        change ((decide (time - time ≤ t4TimeoutNs ∧ time - time ≤ t4TimeoutNs)) && true) = true
        rw [Nat.sub_self]
        rfl
  | acknowledging granted history => exact Or.inr ⟨.toSender setup.clock, _, rfl⟩
  | closed granted history => exact Or.inl ⟨rfl, rfl⟩

theorem Phase.history {left : Nat} {link : CmdtLink} (phase : Phase setup left link) :
    ∃ last, History setup link.sent last := by
  cases phase with
  | announced time => exact ⟨0, .empty⟩
  | granting granted history => exact ⟨_, history⟩
  | sending granted history => exact ⟨_, history⟩
  | acknowledging granted history => exact ⟨_, history⟩
  | closed granted history => exact ⟨_, history⟩

theorem Phase.granted_further {left : Nat} {link : CmdtLink} (meet : setup.GrantsMeet)
    (phase : Phase setup left link) :
    ∀ entry ∈ link.receiver.rxSessions, entry.2.expectedSequence - 1 < grantedUpTo link.sent := by
  cases phase with
  | announced time => exact nofun
  | granting granted history =>
      intro entry member
      rw [List.mem_singleton.mp member, history.upTo]
      exact granted.bounds.1
  | sending granted history after upTo unfinished waits =>
      intro entry member
      rw [List.mem_singleton.mp member, history.upTo]
      refine Nat.lt_of_le_of_ne upTo ?_
      intro ends
      rcases granted.settled meet with whole | aligned
      · exact absurd (ends.trans whole) (Nat.ne_of_lt unfinished)
      · exact waits ends aligned
  | acknowledging granted history => exact nofun
  | closed granted history => exact nofun

theorem completes_of_meet (meet : setup.GrantsMeet) : setup.Completes where
  noStall := by
    intro deliveries link reaches
    obtain ⟨left, phase, _⟩ := Phase.of_run reaches
    exact phase.granted_further meet
  withinLimit := by
    intro deliveries link reaches
    obtain ⟨left, phase, _⟩ := Phase.of_run reaches
    obtain ⟨last, history⟩ := phase.history
    exact history.within
  delivers := by
    intro deliveries link reaches still
    obtain ⟨left, phase, bounded⟩ := Phase.of_run reaches
    have ahead := phase.granted_further meet
    cases phase with
    | announced time => cases still.1
    | granting granted history => cases still.2
    | sending granted history after upTo unfinished waits =>
        rename_i received last ctsWindow sentTime time sent
        have further := ahead _ (List.mem_singleton_self _)
        rw [history.upTo] at further
        change received < last at further
        have nothing := still.1
        change setup.burst received last = [] at nothing
        rw [setup.burst_succ further] at nothing
        cases nothing
    | acknowledging granted history => cases still.2
    | closed granted history => exact ⟨rfl, rfl, rfl⟩
  terminates := by
    intro deliveries link reaches
    obtain ⟨left, _, bounded⟩ := Phase.of_run reaches
    omega

theorem Completes.meet (completes : setup.Completes) : setup.GrantsMeet := by
  obtain ⟨deliveries, link, reaches, still⟩ := EventRun.exists_run_to_rest
    (fun _ _ _ _ phase stepped => Phase.step phase stepped)
    (fun _ _ phase => Phase.progress phase) (Phase.start setup)
  obtain ⟨left, phase, _⟩ := Phase.of_run reaches
  have delivered := (completes.delivers deliveries link reaches still).1
  cases phase with
  | announced time => cases delivered
  | granting granted history => cases delivered
  | sending granted history => cases delivered
  | acknowledging granted history => exact granted.meets
  | closed granted history => exact granted.meets

end Runs

/-- A connection never stalls, keeps to the announced limit and delivers its
payload exactly when the first grant and the follow-up window meet. -/
theorem transfer_completes_iff (setup : CmdtSetup) : setup.Completes ↔ setup.GrantsMeet :=
  ⟨Completes.meet, completes_of_meet⟩

def wideWindow : CmdtSetup where
  senderAddress := 0xF9
  receiverAddress := 0x10
  specific := by decide
  channel := ⟨"j1939_ch0", defaultChannel_valid⟩
  pgn := 0xFECA
  encodable := by decide
  payload := List.replicate 140 0
  size := by
    rw [List.length_replicate]
    decide
  rxCtsWindow := 32
  maxPackets := 0xFF
  clock := .at 0

/-- The receiver grants sixteen packets and then waits for the thirty-second. -/
theorem wideWindow_stalls : ¬ ∀ setup : CmdtSetup, setup.Completes := by
  intro completes
  have packets : wideWindow.packets = 20 := by
    unfold packets wideWindow
    rw [List.length_replicate]
  have meet := (completes wideWindow).meet
  unfold GrantsMeet at meet
  rw [packets] at meet
  exact absurd meet (by decide)

end CmdtSetup

end Ucanlab.J1939
