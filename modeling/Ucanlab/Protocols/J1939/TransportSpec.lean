import Ucanlab.Protocols.J1939.Transport

/-!
What the transport engine does with the frames it builds itself, addressed to it
by the other party of a connection.
-/

namespace Ucanlab.J1939

open BitField

section Bytes

theorem ofNat_toNat_mod (value : Nat) : (UInt8.ofNat value).toNat = value % 256 :=
  UInt8.toNat_ofNat'

theorem littleEndian_pair (value : Nat) (small : value < 65536) :
    littleEndian [lowByte value, highByte value] = value := by
  change (UInt8.ofNat value).toNat + 256 * ((UInt8.ofNat (value / 256)).toNat + 256 * 0) = value
  rw [ofNat_toNat_mod, ofNat_toNat_mod]
  omega

theorem littleEndian_group (pgn : Nat) (encodable : pgn < 2 ^ 24) :
    littleEndian [UInt8.ofNat pgn, UInt8.ofNat (pgn / 256), UInt8.ofNat (pgn / 65536)] = pgn := by
  change (UInt8.ofNat pgn).toNat + 256 * ((UInt8.ofNat (pgn / 256)).toNat +
    256 * ((UInt8.ofNat (pgn / 65536)).toNat + 256 * 0)) = pgn
  rw [ofNat_toNat_mod, ofNat_toNat_mod, ofNat_toNat_mod]
  omega

theorem take_tpDtData {chunk : Bytes} {missing : Nat} (seq : Nat)
    (cut : chunk.length = min 7 missing) :
    (((tpDtData seq chunk).drop 1).take 7).take missing = chunk := by
  have whole : chunk.take 7 = chunk := List.take_of_length_le (by omega)
  have carried : ((tpDtData seq chunk).drop 1).take 7 =
      chunk ++ List.replicate (7 - chunk.length) 0xFF := by
    rw [tpDtData, List.drop_one, List.tail_cons, whole]
    refine List.take_of_length_le ?_
    rw [List.length_append, List.length_replicate]
    omega
  rw [carried]
  by_cases full : 7 ≤ missing
  · rw [show 7 - chunk.length = 0 by omega, List.replicate_zero, List.append_nil]
    exact List.take_of_length_le (by omega)
  · exact List.take_left' (by omega)

end Bytes

section Identifiers

/-- A transport group addressed to `peer`. -/
theorem parseJ1939Id_transport {group : Nat} (aligned : group % 65536 = 0)
    (pages : group / 65536 % 1024 < 240) (peer us : UInt8) :
    (parseJ1939Id (tpIdentifier group peer.toNat us.toNat)).pgn = group / 65536 % 1024 * 256 ∧
      (parseJ1939Id (tpIdentifier group peer.toNat us.toNat)).sourceAddress = us.toNat ∧
      (parseJ1939Id (tpIdentifier group peer.toNat us.toNat)).destinationAddress =
        some peer.toNat := by
  have peerByte := peer.toNat_lt
  have usByte := us.toNat_lt
  have identifier := tpIdentifier_eq aligned peer us
  have format : pduFormat (tpIdentifier group peer.toNat us.toNat) < 240 := by
    rw [pduFormat_eq, identifier]
    omega
  have specific : pduSpecific (tpIdentifier group peer.toNat us.toNat) = peer.toNat := by
    rw [pduSpecific_eq, identifier]
    omega
  have source : tpIdentifier group peer.toNat us.toNat &&& 0xFF = us.toNat := by
    have low := Nat.and_two_pow_sub_one_eq_mod (tpIdentifier group peer.toNat us.toNat) 8
    change _ &&& 0xFF = _ % 256 at low
    rw [low, identifier]
    omega
  refine ⟨?_, ?_, ?_⟩
  · rw [parseJ1939Id_pgn_of_pdu1 format, identifier]
    omega
  · unfold parseJ1939Id
    dsimp only
    rw [if_pos format]
    exact source
  · unfold parseJ1939Id
    dsimp only
    rw [if_pos format]
    exact congrArg some specific

end Identifiers

theorem ctrlTargetsSender_tpCmData (channel : ChannelId) (peer us : UInt8)
    (control first second third fourth : UInt8) (pgn : Nat) :
    ctrlTargetsSender (tpCmFrame channel peer us (tpCmData control first second third fourth pgn)
      (tpCmData_length ..)) = decide (control ∈ [tpCtrlCts, tpCtrlAck, tpCtrlAbort]) := rfl

section Announcements

variable {total pgn : Nat}

theorem announcement_of_transfer (channel : ChannelId) (peer us sa da control limit : UInt8)
    (size : total ≤ maxTpBytes) (encodable : pgn < 2 ^ 24) :
    announcement (tpCmFrame channel peer us (tpCmData control (lowByte total) (highByte total)
        (UInt8.ofNat ((total + 6) / 7)) limit pgn) (tpCmData_length ..)) sa da = {
      sourceAddress := sa
      destinationAddress := da
      channel := channel
      totalBytes := total
      totalPackets := (total + 6) / 7
      maxPackets := limit.toNat
      targetPgn := pgn } := by
  unfold maxTpBytes at size
  have length : littleEndian [lowByte total, highByte total] = total :=
    littleEndian_pair _ (by omega)
  have count : (UInt8.ofNat ((total + 6) / 7)).toNat = (total + 6) / 7 := by
    rw [ofNat_toNat_mod]
    omega
  have group := littleEndian_group pgn encodable
  change Announcement.mk sa da channel (littleEndian [_, _]) (UInt8.ofNat ((total + 6) / 7)).toNat
    limit.toNat (littleEndian [_, _, _]) = _
  rw [length, count, group]

theorem wellFormed_of_size {announced : Announcement}
    (size : 1 ≤ announced.totalBytes ∧ announced.totalBytes ≤ maxTpBytes)
    (packets : announced.totalPackets = (announced.totalBytes + 6) / 7) :
    announced.wellFormed = true := by
  refine decide_eq_true ⟨size.1, size.2, ?_, packets⟩
  omega

end Announcements

namespace J1939TransportProtocol

section Dispatch

theorem foreign_tpFields (channel : ChannelId) (arbitrationId : Nat) (data : Bytes)
    (valid : (tpFields channel arbitrationId data).postInit = none) (eight : data.length = 8) :
    foreign { toFrameFields := tpFields channel arbitrationId data, valid := valid } = false := by
  change (!true || decide (data.length < 8) || (false && _)) = false
  rw [decide_eq_false (by omega)]
  rfl

theorem handleRxFrame_unsuppressed (engine : J1939TransportProtocol) (clock : Clock)
    (frame : CanFrame) :
    engine.handleRxFrame clock frame false = engine.handleRxFramePdu clock frame := rfl

theorem handleRxFrame_tpDt (engine : J1939TransportProtocol) (clock : Clock)
    (channel : ChannelId) (peer us : UInt8) {data : Bytes} (eight : data.length = 8) :
    engine.handleRxFrame clock (tpDtFrame channel peer us data eight) false =
      engine.handleTpDt clock (tpDtFrame channel peer us data eight) us peer := by
  obtain ⟨pgn, source, destination⟩ := parseJ1939Id_transport
    (by decide : 0x1CEB0000 % 65536 = 0) (by decide) peer us
  change (parseJ1939Id (tpDtFrame channel peer us data eight).arbitrationId).pgn = _ at pgn
  change (parseJ1939Id (tpDtFrame channel peer us data eight).arbitrationId).sourceAddress = _
    at source
  change (parseJ1939Id (tpDtFrame channel peer us data eight).arbitrationId).destinationAddress = _
    at destination
  have format : foreign (tpDtFrame channel peer us data eight) = false :=
    foreign_tpFields channel _ data _ eight
  have noControl : ¬ 0x1CEB0000 / 65536 % 1024 * 256 = pgnTpCm := by decide
  have packet : 0x1CEB0000 / 65536 % 1024 * 256 = pgnTpDt := by decide
  rw [handleRxFrame_unsuppressed]
  unfold handleRxFramePdu
  dsimp only
  rw [format, pgn, source, destination, Option.getD_some, UInt8.ofNat_toNat, UInt8.ofNat_toNat,
    if_neg Bool.false_ne_true, if_neg noControl, if_pos packet]

theorem handleRxFrame_tpCm (engine : J1939TransportProtocol) (clock : Clock)
    (channel : ChannelId) (peer us : UInt8) {data : Bytes} (eight : data.length = 8) :
    engine.handleRxFrame clock (tpCmFrame channel peer us data eight) false =
      if peer.toNat = engine.myAddress ∧
          ctrlTargetsSender (tpCmFrame channel peer us data eight) ∧
          (engine.txSessions.contains ⟨engine.myAddress, us.toNat,
              pgnFromTpCm (tpCmFrame channel peer us data eight), channel⟩ ∨
            data.getD 0 0 ≠ tpCtrlAbort) then
        match engine.handleTxCm clock (tpCmFrame channel peer us data eight) us with
        | (engine, frames, error) =>
            match engine.respond frames error with
            | (engine, response) => (engine, none, response)
      else
        match engine.handleTpCm clock (tpCmFrame channel peer us data eight) us peer with
        | (engine, response) => (engine, none, response) := by
  obtain ⟨pgn, source, destination⟩ := parseJ1939Id_transport
    (by decide : 0x1CEC0000 % 65536 = 0) (by decide) peer us
  change (parseJ1939Id (tpCmFrame channel peer us data eight).arbitrationId).pgn = _ at pgn
  change (parseJ1939Id (tpCmFrame channel peer us data eight).arbitrationId).sourceAddress = _
    at source
  change (parseJ1939Id (tpCmFrame channel peer us data eight).arbitrationId).destinationAddress = _
    at destination
  have format : foreign (tpCmFrame channel peer us data eight) = false :=
    foreign_tpFields channel _ data _ eight
  have control : 0x1CEC0000 / 65536 % 1024 * 256 = pgnTpCm := by decide
  rw [handleRxFrame_unsuppressed]
  unfold handleRxFramePdu
  dsimp only
  rw [format, pgn, source, destination, Option.getD_some, UInt8.ofNat_toNat, UInt8.ofNat_toNat,
    if_neg Bool.false_ne_true, if_pos control]
  rfl

end Dispatch

section Receiving

theorem overQuota_below {engine : J1939TransportProtocol} {announced : Announcement}
    (quota : engine.perSaSessions announced.sourceAddress < maxSessionsPerSa) :
    engine.overQuota announced = false := by
  unfold overQuota
  rw [decide_eq_false (Nat.not_le_of_lt quota)]
  exact Bool.and_false _

section Idle

variable {engine : J1939TransportProtocol} (idle : engine.rxSessions = [])
include idle

theorem reapStaleSessions_idle (now : Nat) : engine.reapStaleSessions now = engine := by
  unfold reapStaleSessions
  rw [idle]
  rfl

theorem makeRoom_idle (key : RxKey) : engine.makeRoom key = engine := by
  unfold makeRoom
  rw [idle]
  exact if_neg (fun full => absurd full.1 (by decide))

theorem get?_idle (key : RxKey) : engine.rxSessions.get? key = none := by
  rw [idle]
  rfl

theorem livePrefix_idle (sa da : UInt8) (channel : ChannelId) :
    engine.livePrefix sa da channel = [] := by
  unfold livePrefix
  rw [idle]
  rfl

theorem handleTpCm_rts (clock : Clock) {frame : CanFrame} {sa da : UInt8}
    (control : frame.data.getD 0 0 = tpCtrlRts)
    (wellFormed : (announcement frame sa da).wellFormed = true)
    (quota : engine.perSaSessions sa < maxSessionsPerSa)
    (specific : da ≠ 255) (mine : da.toNat = engine.myAddress) :
    engine.handleTpCm clock frame sa da =
      (engine.insertSession
          ((announcement frame sa da).session false engine.rxCtsWindow clock.session),
        some (engine.createCtsFrame
          ((announcement frame sa da).session false engine.rxCtsWindow clock.session))) := by
  have addressed : ¬ ((announcement frame sa da).destinationAddress = 255 ∨
      (announcement frame sa da).destinationAddress.toNat ≠ engine.myAddress) := by
    rintro (broadcast | other)
    · exact specific broadcast
    · exact other mine
  unfold handleTpCm
  dsimp only
  rw [if_neg (fun rejected => rejected.2 wellFormed), reapStaleSessions_idle idle, control,
    if_neg (by decide), if_pos rfl]
  unfold handleRts
  rw [if_neg addressed, get?_idle idle]
  dsimp only
  rw [livePrefix_idle idle]
  dsimp only
  unfold openRts
  rw [overQuota_below quota, makeRoom_idle idle]
  rfl

theorem handleTpCm_bam (clock : Clock) {frame : CanFrame} {sa da : UInt8}
    (control : frame.data.getD 0 0 = tpCtrlBam)
    (wellFormed : (announcement frame sa da).wellFormed = true)
    (quota : engine.perSaSessions sa < maxSessionsPerSa) (broadcast : da = 255) :
    engine.handleTpCm clock frame sa da =
      (engine.insertSession ((announcement frame sa da).session true 0 clock.session), none) := by
  have everybody : ¬ (announcement frame sa da).destinationAddress ≠ 255 :=
    not_not_intro broadcast
  unfold handleTpCm
  dsimp only
  rw [if_neg (fun rejected => rejected.2 wellFormed), reapStaleSessions_idle idle, control,
    if_pos rfl]
  unfold handleBam
  rw [if_neg everybody, get?_idle idle]
  dsimp only
  rw [livePrefix_idle idle]
  dsimp only
  unfold openBam
  rw [overQuota_below quota, makeRoom_idle idle]
  rfl

end Idle

section Filling

variable {session : ReassemblySession} {data : Bytes} {received : Nat}

theorem append_chunk (now : Nat) (size : session.totalBytes = data.length)
    (filled : session.receivedBytes = data.take (7 * received))
    (unfinished : received < (data.length + 6) / 7) :
    session.append (((tpDtData (received + 1)
        ((data.drop ((received + 1 - 1) * 7)).take 7)).drop 1).take 7) now =
      { session with
        receivedBytes := data.take (7 * (received + 1))
        expectedSequence := session.expectedSequence + 1
        lastActivityTime := now } := by
  have carried : session.receivedBytes.length = 7 * received := by
    rw [filled, List.length_take]
    omega
  have cut : ((data.drop ((received + 1 - 1) * 7)).take 7).length =
      min 7 (data.length - 7 * received) := by
    rw [List.length_take, List.length_drop, Nat.add_sub_cancel]
    omega
  have share := take_tpDtData (received + 1) cut
  have next : data.take (7 * (received + 1)) =
      data.take (7 * received) ++ (data.drop ((received + 1 - 1) * 7)).take 7 := by
    rw [show 7 * (received + 1) = 7 * received + 7 by omega, List.take_add, Nat.add_sub_cancel,
      Nat.mul_comm received 7]
  unfold ReassemblySession.append
  rw [size, carried, share, filled, next]

theorem complete_of_filled (size : session.totalBytes = data.length)
    (packets : session.totalPackets = (data.length + 6) / 7)
    (filled : session.receivedBytes = data.take (7 * received))
    (position : session.expectedSequence = received + 1)
    (bounded : received ≤ (data.length + 6) / 7) :
    session.complete = decide (received = (data.length + 6) / 7) := by
  unfold ReassemblySession.complete
  rw [size, packets, filled, position, List.length_take]
  refine decide_eq_decide.mpr ?_
  omega

end Filling

theorem handleTpDt_in_order {engine : J1939TransportProtocol} (clock : Clock) {frame : CanFrame}
    {sa da : UInt8} {session : ReassemblySession}
    (only : engine.rxSessions = [(session.key, session)])
    (parties : session.sourceAddress = sa ∧ session.destinationAddress = da ∧
      session.channel = frame.channel)
    (timely : clock.session - session.lastActivityTime ≤ session.holdTimeout)
    (sequence : (frame.data.getD 0 0).toNat = session.expectedSequence) :
    engine.handleTpDt clock frame sa da =
      let extended := session.append ((frame.data.drop 1).take 7) clock.session
      let engine' := { engine with rxSessions := [(session.key, extended)] }
      if extended.complete then
        (engine'.releaseSessionSlot session.key (some extended),
          some {
            sourceAddress := extended.sourceAddress
            destinationAddress := extended.destinationAddress
            pgn := extended.targetPgn
            data := extended.receivedBytes.take extended.totalBytes
            channel := frame.channel },
          engine'.endOfMsgAck frame.channel extended)
      else (engine', none, engine'.followUpCts frame.channel extended) := by
  have found : engine.lookupDtSession sa da frame.channel (frame.data.getD 0 0).toNat =
      (engine, some (session.key, session)) := by
    have live : engine.livePrefix sa da frame.channel = [(session.key, session)] := by
      unfold livePrefix
      rw [only]
      exact List.filter_cons_of_pos (decide_eq_true parties)
    unfold lookupDtSession
    rw [live]
  unfold handleTpDt
  dsimp only
  rw [found]
  dsimp only
  rw [if_neg (by omega), if_neg (not_not_intro sequence), only, Dict.set_singleton]

theorem releaseSessionSlot_only {engine : J1939TransportProtocol} {key : RxKey}
    {session stored : ReassemblySession} (only : engine.rxSessions = [(session.key, stored)]) :
    engine.releaseSessionSlot key (some session) =
      { engine with
        rxSessions := []
        perSaSessions := fun address =>
          if address = session.sourceAddress then engine.perSaSessions address - 1
          else engine.perSaSessions address } := by
  have present : engine.rxSessions.contains session.key = true := by
    rw [only]
    unfold Dict.contains
    rw [Dict.get?_singleton]
    rfl
  unfold releaseSessionSlot
  dsimp only
  rw [if_pos present, only, Dict.erase_singleton]

end Receiving

section Sending

theorem handleTxCm_only {engine : J1939TransportProtocol} (clock : Clock) {key : TxKey}
    {session : CmdtSenderSession} (only : engine.txSessions = [(key, session)])
    {channel : ChannelId} {peer us control first second third fourth : UInt8} {pgn : Nat}
    (encodable : pgn < 2 ^ 24) (named : ⟨engine.myAddress, us.toNat, pgn, channel⟩ = key) :
    engine.handleTxCm clock (tpCmFrame channel peer us
        (tpCmData control first second third fourth pgn) (tpCmData_length ..)) us =
      if control = tpCtrlCts then
        engine.storeOutcome key session clock.emission
          (receiveCts session clock first.toNat second.toNat)
      else if control = tpCtrlAck then
        engine.storeOutcome key session clock.emission
          (receiveAck session (littleEndian [first, second]) third.toNat pgn)
      else if control = tpCtrlAbort then ({ engine with txSessions := [] }, [], none)
      else (engine, [], none) := by
  have group : littleEndian (((tpCmFrame channel peer us
      (tpCmData control first second third fourth pgn) (tpCmData_length ..)).data.drop 5).take 3) =
        pgn := littleEndian_group pgn encodable
  have place : (tpCmFrame channel peer us (tpCmData control first second third fourth pgn)
      (tpCmData_length ..)).channel = channel := rfl
  have found : engine.txSessions.get? key = some session := by
    rw [only, Dict.get?_singleton]
  have erased : engine.txSessions.erase key = [] := by
    rw [only, Dict.erase_singleton]
  unfold handleTxCm
  dsimp only
  rw [group, place, named, found]
  dsimp only
  rw [erased]
  rfl

theorem receiveCts_next {session : CmdtSenderSession} (clock : Clock) {packetCount : Nat}
    (positive : 0 < packetCount) (capped : packetCount ≤ maxCtsPacketCount)
    (started : session.nextSequence ≠ 0)
    (unfinished : session.nextSequence ≤ session.totalPackets) :
    receiveCts session clock packetCount session.nextSequence =
      .granted { session with
        ctsWindow := packetCount
        state := .granted
        holdCount := 0
        holdWindowStart := 0
        lastActivityTime := clock.session } := by
  unfold receiveCts
  rw [if_neg (by omega), if_neg (by omega), if_neg (by omega), if_neg (by omega)]

theorem receiveAck_matching {session : CmdtSenderSession} (waiting : session.state = .waitAck) :
    receiveAck session session.totalBytes session.totalPackets session.targetPgn = .closed := by
  unfold receiveAck
  refine if_neg ?_
  rintro (early | bytes | packets | group)
  · exact early waiting
  · exact bytes rfl
  · exact packets rfl
  · exact group rfl

end Sending

end J1939TransportProtocol

end Ucanlab.J1939
