import Ucanlab.Protocols.J1939.ReceiveTable

/-!
The sending side over whole runs: where a session stands in its data and what it
waits for. The two agree until a HOLD reaches a session that has sent everything,
which the code puts back to waiting for a grant.
-/

namespace Ucanlab.J1939

open J1939TransportProtocol

/-- The session stands within its data, and waits for the acknowledgement exactly
when all of it is sent. -/
structure CmdtSenderSession.InPosition (session : CmdtSenderSession) : Prop where
  started : 1 ≤ session.nextSequence
  within : session.nextSequence ≤ session.totalPackets + 1
  waits : session.state = .waitAck ↔ session.nextSequence > session.totalPackets

def CmdtSenderSession.holdsSoFar (session : CmdtSenderSession) (now : Nat) : Nat :=
  if session.holdWindowStart = 0 ∨ now - session.holdWindowStart > holdWindowNs then 0
  else session.holdCount

namespace J1939TransportProtocol

section Routing

def senderKey (engine : J1939TransportProtocol) (frame : CanFrame) : TxKey :=
  ⟨engine.myAddress, (frameSource frame).toNat, pgnFromTpCm frame, frame.channel⟩

def toSender (engine : J1939TransportProtocol) (frame : CanFrame) : Prop :=
  ofGroup frame pgnTpCm ∧ (frameDestination frame).toNat = engine.myAddress ∧
    ctrlTargetsSender frame = true

instance (engine : J1939TransportProtocol) (frame : CanFrame) : Decidable (engine.toSender frame) :=
  inferInstanceAs (Decidable (_ ∧ _ ∧ _))

structure KeepsSender (before after : J1939TransportProtocol) : Prop where
  txSessions : after.txSessions = before.txSessions
  myAddress : after.myAddress = before.myAddress

theorem KeepsSender.refl (engine : J1939TransportProtocol) : KeepsSender engine engine := ⟨rfl, rfl⟩

theorem KeepsSender.trans {first second third : J1939TransportProtocol}
    (left : KeepsSender first second) (right : KeepsSender second third) :
    KeepsSender first third :=
  ⟨right.txSessions.trans left.txSessions, right.myAddress.trans left.myAddress⟩

theorem OnlyTable.keepsSender {before after : J1939TransportProtocol}
    (kept : OnlyTable before after) : KeepsSender before after :=
  ⟨kept.fields.2.2.2.2, kept.fields.1⟩

theorem openBam_keepsSender (engine : J1939TransportProtocol) (clock : Clock)
    (announced : Announcement) : KeepsSender engine (engine.openBam clock announced) := by
  have room := (makeRoom_onlyTable engine announced.key).keepsSender
  unfold openBam
  split
  · exact KeepsSender.refl engine
  · exact ⟨room.txSessions, room.myAddress⟩

theorem openRts_keepsSender (engine : J1939TransportProtocol) (clock : Clock)
    (announced : Announcement) (abort : Option CanFrame) :
    KeepsSender engine (engine.openRts clock announced abort).1 := by
  have room := (makeRoom_onlyTable engine announced.key).keepsSender
  unfold openRts
  split
  · exact KeepsSender.refl engine
  · cases abort <;> exact ⟨room.txSessions, room.myAddress⟩

theorem release_keepsSender (engine : J1939TransportProtocol) (key : RxKey)
    (session : Option ReassemblySession) :
    KeepsSender engine (engine.releaseSessionSlot key session) :=
  (releaseSessionSlot_onlyTable engine key session).keepsSender

theorem gate_keepsSender (engine : J1939TransportProtocol) (route : Route) (now : Nat) :
    KeepsSender engine (engine.checkPrefixCollisionRate route now).2 := by
  obtain ⟨marks, same⟩ := checkPrefixCollisionRate_marked engine route now
  rw [same]
  exact ⟨rfl, rfl⟩

theorem handleBam_keepsSender (engine : J1939TransportProtocol) (clock : Clock)
    (announced : Announcement) : KeepsSender engine (engine.handleBam clock announced) := by
  unfold handleBam
  split
  · exact KeepsSender.refl engine
  · split
    · exact (release_keepsSender engine _ _).trans (openBam_keepsSender _ clock announced)
    · split
      · apply openBam_keepsSender
      · have gate := gate_keepsSender engine announced.route clock.collision
        rw [announced.route_eq] at gate
        split
        · rename_i passed
          rw [passed] at gate
          exact gate
        · rename_i passed
          rw [passed] at gate
          exact gate.trans ((release_keepsSender _ _ _).trans
            (openBam_keepsSender _ clock announced))

theorem handleRts_keepsSender (engine : J1939TransportProtocol) (clock : Clock)
    (announced : Announcement) : KeepsSender engine (engine.handleRts clock announced).1 := by
  unfold handleRts
  split
  · exact KeepsSender.refl engine
  · split
    · exact (release_keepsSender engine _ _).trans (openRts_keepsSender _ clock announced _)
    · split
      · apply openRts_keepsSender
      · have gate := gate_keepsSender engine announced.route clock.collision
        rw [announced.route_eq] at gate
        split
        · rename_i passed
          rw [passed] at gate
          exact gate
        · rename_i passed
          rw [passed] at gate
          exact gate.trans ((release_keepsSender _ _ _).trans
            (openRts_keepsSender _ clock announced _))

theorem handleTpCm_keepsSender (engine : J1939TransportProtocol) (clock : Clock)
    (frame : CanFrame) (sa da : UInt8) :
    KeepsSender engine (engine.handleTpCm clock frame sa da).1 := by
  have reaped := (reapStaleSessions_onlyTable engine clock.reap).keepsSender
  unfold handleTpCm
  dsimp only
  split
  · exact KeepsSender.refl engine
  · split
    · exact reaped.trans (handleBam_keepsSender _ clock _)
    · split
      · exact reaped.trans (handleRts_keepsSender _ clock _)
      · split
        · exact reaped.trans (release_keepsSender _ _ _)
        · exact reaped

theorem lookupDtSession_keepsSender (engine : J1939TransportProtocol) (sa da : UInt8)
    (channel : ChannelId) (seqNum : Nat) :
    KeepsSender engine (engine.lookupDtSession sa da channel seqNum).1 := by
  have dropped (entries : List (RxKey × ReassemblySession)) (start : J1939TransportProtocol) :
      KeepsSender start (entries.foldl
        (fun engine entry => engine.releaseSessionSlot entry.1 (some entry.2)) start) := by
    induction entries generalizing start with
    | nil => exact KeepsSender.refl start
    | cons entry rest ih => exact (release_keepsSender start _ _).trans (ih _)
  unfold lookupDtSession
  split
  · exact KeepsSender.refl engine
  · exact KeepsSender.refl engine
  · split
    · exact KeepsSender.refl engine
    · exact KeepsSender.refl engine
    · have counted : KeepsSender engine
          { engine with ambiguousDtDrop := engine.ambiguousDtDrop + 1 } := ⟨rfl, rfl⟩
      exact counted.trans (dropped _ _)

theorem handleTpDt_keepsSender (engine : J1939TransportProtocol) (clock : Clock)
    (frame : CanFrame) (sa da : UInt8) :
    KeepsSender engine (engine.handleTpDt clock frame sa da).1 := by
  have found := lookupDtSession_keepsSender engine sa da frame.channel (frame.data.getD 0 0).toNat
  unfold handleTpDt
  dsimp only
  split
  · rename_i missing
    rw [missing] at found
    exact found
  · rename_i located _ _ lookedUp
    rw [lookedUp] at found
    dsimp only at found
    split
    · dsimp only
      exact found.trans (release_keepsSender _ _ _)
    · split
      · dsimp only
        exact found.trans (release_keepsSender _ _ _)
      · have extended (table : Dict RxKey ReassemblySession) :
            KeepsSender engine { located with rxSessions := table } :=
          ⟨found.txSessions, found.myAddress⟩
        split
        · dsimp only
          exact (extended _).trans (release_keepsSender _ _ _)
        · exact extended _

theorem pgnFromTpCm_eq {frame : CanFrame} {group : Nat} (format : ofGroup frame group) :
    pgnFromTpCm frame = littleEndian ((frame.data.drop 5).take 3) := by
  refine if_neg ?_
  intro short
  have foreign := format.1
  unfold J1939TransportProtocol.foreign at foreign
  simp [short] at foreign

theorem handleTxCm_eq (engine : J1939TransportProtocol) (clock : Clock) {frame : CanFrame}
    (format : ofGroup frame pgnTpCm) :
    engine.handleTxCm clock frame (frameSource frame) =
      match engine.txSessions.get? (engine.senderKey frame) with
      | none => (engine, [], none)
      | some session =>
          if frame.data.getD 0 0 = tpCtrlCts then
            engine.storeOutcome (engine.senderKey frame) session clock.emission
              (receiveCts session clock (frame.data.getD 1 0).toNat (frame.data.getD 2 0).toNat)
          else if frame.data.getD 0 0 = tpCtrlAck then
            engine.storeOutcome (engine.senderKey frame) session clock.emission
              (receiveAck session (littleEndian ((frame.data.drop 1).take 2))
                (frame.data.getD 3 0).toNat (pgnFromTpCm frame))
          else if frame.data.getD 0 0 = tpCtrlAbort then
            ({ engine with txSessions := engine.txSessions.erase (engine.senderKey frame) }, [], none)
          else (engine, [], none) := by
  have group := pgnFromTpCm_eq format
  unfold handleTxCm senderKey
  generalize pgnFromTpCm frame = pgn at group ⊢
  subst group
  rfl

theorem handleRxFramePdu_toSender {engine : J1939TransportProtocol} (clock : Clock)
    {frame : CanFrame} (mine : engine.toSender frame)
    (wanted : engine.txSessions.contains (engine.senderKey frame) = true ∨
      frame.data.getD 0 0 ≠ tpCtrlAbort) :
    engine.handleRxFramePdu clock frame =
      match engine.handleTxCm clock frame (frameSource frame) with
      | (engine, frames, error) =>
          match engine.respond frames error with
          | (engine, response) => (engine, none, response) := by
  obtain ⟨⟨format, group⟩, destination, targets⟩ := mine
  unfold handleRxFramePdu
  rw [format]
  dsimp only
  rw [if_neg Bool.false_ne_true, if_pos group]
  exact if_pos ⟨destination, targets, wanted⟩

theorem handleRxFramePdu_toReceiver {engine : J1939TransportProtocol} (clock : Clock)
    {frame : CanFrame} (control : ofGroup frame pgnTpCm)
    (unwanted : ¬ (engine.toSender frame ∧
      (engine.txSessions.contains (engine.senderKey frame) = true ∨
        frame.data.getD 0 0 ≠ tpCtrlAbort))) :
    engine.handleRxFramePdu clock frame =
      match engine.handleTpCm clock frame (frameSource frame) (frameDestination frame) with
      | (engine, response) => (engine, none, response) := by
  obtain ⟨format, group⟩ := control
  unfold handleRxFramePdu
  rw [format]
  dsimp only
  rw [if_neg Bool.false_ne_true, if_pos group]
  exact if_neg (fun sent => unwanted ⟨⟨⟨format, group⟩, sent.1, sent.2.1⟩, sent.2.2⟩)

theorem handleRxFrame_txSessions (engine : J1939TransportProtocol) (clock : Clock)
    (frame : CanFrame) (suppress : Bool) :
    (engine.handleRxFrame clock frame suppress).1.txSessions =
      if engine.toSender frame then
        (engine.handleTxCm clock frame (frameSource frame)).1.txSessions
      else engine.txSessions := by
  have pdu : (engine.handleRxFrame clock frame suppress).1.txSessions =
      (engine.handleRxFramePdu clock frame).1.txSessions := by
    cases suppress <;> rfl
  rw [pdu]
  by_cases mine : engine.toSender frame
  · rw [if_pos mine]
    by_cases wanted : engine.txSessions.contains (engine.senderKey frame) = true ∨
        frame.data.getD 0 0 ≠ tpCtrlAbort
    · rw [handleRxFramePdu_toSender clock mine wanted]
      exact respond_txSessions _ _ _
    · have absent : engine.txSessions.get? (engine.senderKey frame) = none :=
        Option.not_isSome_iff_eq_none.mp (fun present => wanted (Or.inl present))
      have unclaimed := handleTxCm_eq engine clock mine.1
      rw [absent] at unclaimed
      rw [unclaimed]
      rw [handleRxFramePdu_toReceiver clock mine.1 (fun sent => wanted sent.2)]
      exact (handleTpCm_keepsSender engine clock frame _ _).txSessions
  · rw [if_neg mine]
    by_cases control : ofGroup frame pgnTpCm
    · rw [handleRxFramePdu_toReceiver clock control (fun sent => mine sent.1)]
      exact (handleTpCm_keepsSender engine clock frame _ _).txSessions
    · unfold handleRxFramePdu
      cases format : foreign frame with
      | true => rfl
      | false =>
          dsimp only
          rw [if_neg Bool.false_ne_true, if_neg (fun group => control ⟨format, group⟩)]
          split
          · exact (handleTpDt_keepsSender engine clock frame _ _).txSessions
          · rfl

end Routing

section Position

def SenderInPosition (engine : J1939TransportProtocol) : Prop :=
  ∀ entry ∈ engine.txSessions, entry.2.InPosition

def heldAfterLast (engine : J1939TransportProtocol) : EngineOp → Bool
  | .frame clock frame _ =>
      decide (engine.toSender frame ∧ frame.data.getD 0 0 = tpCtrlCts) &&
        match engine.txSessions.get? (engine.senderKey frame) with
        | none => false
        | some session =>
            decide ((frame.data.getD 1 0).toNat = 0 ∧ (frame.data.getD 2 0).toNat ≠ 0 ∧
              (frame.data.getD 2 0).toNat ≤ session.totalPackets ∧
              session.nextSequence > session.totalPackets ∧
              session.holdsSoFar clock.session < maxHoldCts)
  | _ => false

theorem emitDtWindow_inPosition (engine : J1939TransportProtocol) {session : CmdtSenderSession}
    (started : 1 ≤ session.nextSequence) (within : session.nextSequence ≤ session.totalPackets + 1)
    (now : Nat) : (engine.emitDtWindow session now).1.InPosition := by
  have next : (engine.emitDtWindow session now).1.nextSequence = session.nextSequence +
      (min (session.nextSequence + session.ctsWindow - 1) session.totalPackets + 1 -
        session.nextSequence) := rfl
  have total : (engine.emitDtWindow session now).1.totalPackets = session.totalPackets := rfl
  have state : (engine.emitDtWindow session now).1.state =
      if (engine.emitDtWindow session now).1.nextSequence > session.totalPackets then .waitAck
      else .waitCts := rfl
  refine ⟨by omega, by omega, ?_⟩
  rw [state, total]
  split
  · rename_i all
    exact iff_of_true rfl all
  · rename_i some
    exact iff_of_false nofun some

theorem holdSession_eq (session : CmdtSenderSession) (now : Nat) :
    (holdSession session now = .aborted ∧ ¬ session.holdsSoFar now < maxHoldCts) ∨
      (session.holdsSoFar now < maxHoldCts ∧ ∃ held, holdSession session now = .held held ∧
        held.nextSequence = session.nextSequence ∧ held.totalPackets = session.totalPackets ∧
        held.state = .waitCts ∧ held.lastActivityTime = now) := by
  unfold holdSession CmdtSenderSession.holdsSoFar
  split
  · dsimp only
    rw [if_neg (by decide)]
    exact Or.inr ⟨by decide, _, rfl, rfl, rfl, rfl, rfl⟩
  · dsimp only
    split
    · exact Or.inl ⟨rfl, by omega⟩
    · exact Or.inr ⟨by omega, _, rfl, rfl, rfl, rfl, rfl⟩

def SenderOutcome.leaves (engine : J1939TransportProtocol) (now : Nat) :
    SenderOutcome → Option CmdtSenderSession
  | .aborted | .closed => none
  | .held session => some session
  | .granted session => some (engine.emitDtWindow session now).1

theorem storeOutcome_txSessions (engine : J1939TransportProtocol) (key : TxKey)
    (session : CmdtSenderSession) (now : Nat) (outcome : SenderOutcome) :
    (engine.storeOutcome key session now outcome).1.txSessions =
      match outcome.leaves engine now with
      | none => engine.txSessions.erase key
      | some left => engine.txSessions.set key left := by
  cases outcome <;> rfl

theorem receiveCts_leaves (engine : J1939TransportProtocol) {session : CmdtSenderSession}
    (position : session.InPosition) (clock : Clock) (packetCount nextSeq : Nat) :
    (∀ left, (receiveCts session clock packetCount nextSeq).leaves engine clock.emission = some left →
        left.InPosition) ↔
      ¬ (packetCount = 0 ∧ nextSeq ≠ 0 ∧ nextSeq ≤ session.totalPackets ∧
        session.nextSequence > session.totalPackets ∧
        session.holdsSoFar clock.session < maxHoldCts) := by
  obtain ⟨started, within, waits⟩ := position
  unfold receiveCts
  by_cases impossible : nextSeq = 0 ∨ nextSeq > session.totalPackets ∨
      nextSeq > session.nextSequence
  · rw [if_pos impossible]
    exact iff_of_true nofun (by omega)
  · rw [if_neg impossible]
    by_cases burst : packetCount > maxCtsPacketCount
    · rw [if_pos burst]
      exact iff_of_true nofun (by omega)
    · rw [if_neg burst]
      by_cases hold : packetCount = 0
      · rw [if_pos hold]
        rcases holdSession_eq session clock.session with
          ⟨aborted, spent⟩ | ⟨budget, held, same, next, total, state, -⟩
        · rw [aborted]
          exact iff_of_true nofun (fun all => spent all.2.2.2.2)
        · rw [same]
          constructor
          · intro kept condition
            have waiting := (kept held rfl).waits
            rw [state, next, total] at waiting
            exact nomatch waiting.mpr condition.2.2.2.1
          · intro other left leaves
            cases leaves
            refine ⟨next ▸ started, by omega, ?_⟩
            rw [state, next, total]
            exact iff_of_false nofun (by omega)
      · rw [if_neg hold]
        split
        · exact iff_of_true nofun (fun all => hold all.1)
        · refine iff_of_true ?_ (fun all => hold all.1)
          intro left leaves
          cases leaves
          exact emitDtWindow_inPosition engine (by dsimp only; omega) (by dsimp only; omega) _

theorem SenderInPosition.erase {engine after : J1939TransportProtocol}
    (position : engine.SenderInPosition) {key : TxKey}
    (erased : after.txSessions = engine.txSessions.erase key) : after.SenderInPosition := by
  intro entry member
  rw [erased] at member
  exact position entry (Dict.mem_erase.mp member).1

theorem SenderInPosition.set {engine after : J1939TransportProtocol}
    (position : engine.SenderInPosition) {key : TxKey} {session : CmdtSenderSession}
    (stored : after.txSessions = engine.txSessions.set key session)
    (placed : session.InPosition) : after.SenderInPosition := by
  intro entry member
  rw [stored] at member
  rcases Dict.mem_of_mem_set member with new | old
  · rw [new]
    exact placed
  · exact position entry old

theorem storeOutcome_inPosition {engine : J1939TransportProtocol}
    (position : engine.SenderInPosition) (key : TxKey) (session : CmdtSenderSession) (now : Nat)
    (outcome : SenderOutcome) :
    SenderInPosition (engine.storeOutcome key session now outcome).1 ↔
      ∀ left, outcome.leaves engine now = some left → left.InPosition := by
  have stored := storeOutcome_txSessions engine key session now outcome
  cases leaves : outcome.leaves engine now with
  | none =>
      rw [leaves] at stored
      exact iff_of_true (position.erase stored) nofun
  | some left =>
      rw [leaves] at stored
      constructor
      · intro after other same
        cases same
        refine after (key, left) ?_
        rw [stored]
        exact Dict.mem_of_get? (Dict.get?_set_self _ key left)
      · exact fun placed => position.set stored (placed left rfl)

/-- A control message keeps every session in position, unless it is a HOLD for one
that has sent everything. -/
theorem handleTxCm_inPosition {engine : J1939TransportProtocol} (position : engine.SenderInPosition)
    {clock : Clock} {frame : CanFrame} (mine : engine.toSender frame) (suppress : Bool) :
    SenderInPosition (engine.handleTxCm clock frame (frameSource frame)).1 ↔
      engine.heldAfterLast (.frame clock frame suppress) = false := by
  rw [handleTxCm_eq engine clock mine.1]
  unfold heldAfterLast
  dsimp only
  cases found : engine.txSessions.get? (engine.senderKey frame) with
  | none => exact iff_of_true position (Bool.and_false _)
  | some session =>
      dsimp only
      by_cases cts : frame.data.getD 0 0 = tpCtrlCts
      · rw [if_pos cts, storeOutcome_inPosition position,
          receiveCts_leaves engine (position _ (Dict.mem_of_get? found)), decide_eq_true ⟨mine, cts⟩,
          Bool.true_and, decide_eq_false_iff_not]
      · rw [if_neg cts, decide_eq_false (fun both => cts both.2), Bool.false_and]
        refine iff_of_true ?_ rfl
        split
        · refine (storeOutcome_inPosition position _ _ _ _).mpr ?_
          unfold receiveAck
          split <;> exact nofun
        · split
          · exact position.erase rfl
          · exact position

theorem makeTxRoom_inPosition {engine : J1939TransportProtocol}
    (position : engine.SenderInPosition) : engine.makeTxRoom.SenderInPosition := by
  unfold makeTxRoom
  split
  · split
    · exact position.erase rfl
    · exact position
  · exact position

theorem reapStaleTxSessions_inPosition {engine : J1939TransportProtocol}
    (position : engine.SenderInPosition) (now : Nat) :
    SenderInPosition (engine.reapStaleTxSessions now).1 :=
  fun entry member => position entry (List.mem_filter.mp member).1

theorem startCmdtTransfer_inPosition {engine : J1939TransportProtocol}
    (position : engine.SenderInPosition) (clock : Clock) (targetAddress pgn : Nat) (data : Bytes)
    (channel : Option ChannelId) :
    SenderInPosition (engine.startCmdtTransfer clock targetAddress pgn data channel).1 := by
  unfold startCmdtTransfer
  split
  · exact position
  · rename_i sized
    have queued : SenderInPosition { (engine.reapStaleTxSessions clock.reap).1 with
        pendingTxFrames := (engine.reapStaleTxSessions clock.reap).1.pendingTxFrames ++
          (engine.reapStaleTxSessions clock.reap).2 } :=
      reapStaleTxSessions_inPosition position clock.reap
    have room := makeTxRoom_inPosition queued
    have opened : CmdtSenderSession.InPosition {
        sourceAddress := engine.myAddress
        destinationAddress := targetAddress
        targetPgn := pgn
        totalBytes := data.length
        totalPackets := (data.length + 6) / 7
        data := data
        channel := channel.getD engine.channel
        lastActivityTime := clock.session } := by
      refine ⟨Nat.le_refl 1, by dsimp only; omega, ?_⟩
      exact iff_of_false nofun (by dsimp only; omega)
    dsimp only
    split
    · exact room.set rfl opened
    · exact room.set rfl opened

theorem advanceCmdtTransfer_inPosition {engine : J1939TransportProtocol}
    (position : engine.SenderInPosition) (now targetAddress pgn : Nat)
    (channel : Option ChannelId) :
    SenderInPosition (engine.advanceCmdtTransfer now targetAddress pgn channel).1 := by
  unfold advanceCmdtTransfer
  dsimp only
  split
  · exact position
  · rename_i session found
    obtain ⟨started, within, -⟩ := position _ (Dict.mem_of_get? found)
    split
    · split
      · exact position.erase rfl
      · exact position
    · split
      · exact position.erase rfl
      · exact position
    · exact position.set rfl (emitDtWindow_inPosition engine started within now)

/-- One call keeps every session in position exactly when it is no HOLD for a session
that has sent everything. -/
theorem perform_inPosition {engine : J1939TransportProtocol} (position : engine.SenderInPosition)
    (op : EngineOp) :
    (engine.perform op).SenderInPosition ↔ engine.heldAfterLast op = false := by
  cases op with
  | frame clock frame suppress =>
      have sessions : (engine.perform (.frame clock frame suppress)).txSessions =
          if engine.toSender frame then
            (engine.handleTxCm clock frame (frameSource frame)).1.txSessions
          else engine.txSessions := handleRxFrame_txSessions engine clock frame suppress
      by_cases mine : engine.toSender frame
      · rw [← handleTxCm_inPosition position mine suppress]
        unfold SenderInPosition
        rw [sessions, if_pos mine]
      · refine iff_of_true ?_ ?_
        · unfold SenderInPosition
          rw [sessions, if_neg mine]
          exact position
        · unfold heldAfterLast
          dsimp only
          rw [decide_eq_false (fun both => mine both.1), Bool.false_and]
  | startTransfer clock target pgn data channel =>
      exact iff_of_true (startCmdtTransfer_inPosition position clock target pgn data channel) rfl
  | advance now target pgn channel =>
      exact iff_of_true (advanceCmdtTransfer_inPosition position now target pgn channel) rfl
  | poll now => exact iff_of_true (reapStaleTxSessions_inPosition position now) rfl
  | reap now =>
      have kept : (engine.reapStaleSessions now).txSessions = engine.txSessions :=
        (reapStaleSessions_onlyTable engine now).fields.2.2.2.2
      refine iff_of_true ?_ rfl
      intro entry member
      exact position entry (kept ▸ member)
  | takePending => exact iff_of_true position rfl
  | setMyAddress newAddress =>
      refine iff_of_true ?_ rfl
      unfold perform
      dsimp only
      unfold setMyAddress
      by_cases inRange : newAddress ≤ 0xFF
      · rw [if_pos inRange]
        exact position
      · rw [if_neg inRange]
        exact position
  | reset => exact iff_of_true (fun _ member => absurd member List.not_mem_nil) rfl

end Position

section Acknowledgement

/-- An acknowledgement that matches its session: the session's counts and group, from the
other side of the transfer. -/
structure Acknowledges (engine : J1939TransportProtocol) (frame : CanFrame)
    (session : CmdtSenderSession) : Prop where
  group : ofGroup frame pgnTpCm
  destination : (frameDestination frame).toNat = engine.myAddress
  control : frame.data.getD 0 0 = tpCtrlAck
  known : engine.txSessions.get? (engine.senderKey frame) = some session
  totalBytes : littleEndian ((frame.data.drop 1).take 2) = session.totalBytes
  totalPackets : (frame.data.getD 3 0).toNat = session.totalPackets
  targetPgn : pgnFromTpCm frame = session.targetPgn

/-- A matching acknowledgement closes a transfer that has sent everything, and is not
answered. -/
def AckCompletes (engine : J1939TransportProtocol) : Prop :=
  ∀ clock frame session, engine.Acknowledges frame session →
    session.nextSequence > session.totalPackets →
    engine.handleRxFrame clock frame false =
      ({ engine with txSessions := engine.txSessions.erase (engine.senderKey frame) }, none, none)

theorem Acknowledges.toSender {engine : J1939TransportProtocol} {frame : CanFrame}
    {session : CmdtSenderSession} (ack : engine.Acknowledges frame session) :
    engine.toSender frame := by
  refine ⟨ack.group, ack.destination, ?_⟩
  have control := ack.control
  unfold ctrlTargetsSender
  cases data : frame.data with
  | nil =>
      rw [data] at control
      exact absurd control (by decide)
  | cons first rest =>
      rw [data] at control
      rw [show first = tpCtrlAck from control]
      rfl

theorem SenderInPosition.ackCompletes {engine : J1939TransportProtocol}
    (position : engine.SenderInPosition) : engine.AckCompletes := by
  intro clock frame session ack sent
  have waiting : session.state = .waitAck :=
    (position _ (Dict.mem_of_get? ack.known)).waits.mpr sent
  have closed : receiveAck session (littleEndian ((frame.data.drop 1).take 2))
      (frame.data.getD 3 0).toNat (pgnFromTpCm frame) = .closed := by
    refine if_neg ?_
    rw [waiting, ack.totalBytes, ack.totalPackets, ack.targetPgn]
    exact fun mismatch => by simp at mismatch
  have handled : engine.handleTxCm clock frame (frameSource frame) =
      ({ engine with txSessions := engine.txSessions.erase (engine.senderKey frame) }, [], none) := by
    rw [handleTxCm_eq engine clock ack.group, ack.known]
    dsimp only
    rw [ack.control, if_neg (by decide), if_pos rfl, closed]
    rfl
  have wanted : frame.data.getD 0 0 ≠ tpCtrlAbort := by
    rw [ack.control]
    decide
  unfold handleRxFrame
  rw [handleRxFramePdu_toSender clock ack.toSender (Or.inr wanted), handled]
  rfl

end Acknowledgement

section Runs

/-- Every session stands where its state says, and a matching acknowledgement closes one
that has sent everything. -/
structure SenderSound (engine : J1939TransportProtocol) : Prop where
  position : engine.SenderInPosition
  acknowledged : engine.AckCompletes

theorem senderSound_iff (engine : J1939TransportProtocol) :
    engine.SenderSound ↔ engine.SenderInPosition :=
  ⟨SenderSound.position, fun position => ⟨position, position.ackCompletes⟩⟩

theorem fresh_senderSound (myAddress : Nat) (channel : ChannelId) (rxCtsWindow : Nat) :
    (fresh myAddress channel rxCtsWindow).SenderSound :=
  (senderSound_iff _).mpr (fun _ member => absurd member List.not_mem_nil)

theorem run_exists (engine : J1939TransportProtocol) (ops : List EngineOp) :
    ∃ last, Reaches ops engine last := by
  induction ops generalizing engine with
  | nil => exact ⟨engine, rfl⟩
  | cons op rest ih =>
      obtain ⟨last, ran⟩ := ih (engine.perform op)
      exact ⟨last, (EventRun.run_cons_of_step rest rfl).trans ran⟩

/-- The sending side stays sound all along a run exactly when no HOLD reaches a session
that has sent everything. -/
theorem sender_sound_throughout_iff (myAddress : Nat) (channel : ChannelId) (rxCtsWindow : Nat)
    (ops : List EngineOp) :
    (∀ front back engine, ops = front ++ back →
      Reaches front (fresh myAddress channel rxCtsWindow) engine → engine.SenderSound) ↔
    EventRun.Meets engineStep (fun engine op => engine.heldAfterLast op = false)
      (fresh myAddress channel rxCtsWindow) ops := by
  obtain ⟨last, ran⟩ := run_exists (fresh myAddress channel rxCtsWindow) ops
  refine EventRun.invariant_throughout_iff_meets ?_ (fresh_senderSound myAddress channel _) ran
  intro engine op next sound stepped
  cases stepped
  rw [senderSound_iff]
  exact perform_inPosition sound.position op

/-- Nine bytes to the node 0x10: both packets granted and sent, then a HOLD. -/
def heldNineBytes : List EngineOp :=
  [.startTransfer (.at 0) 0x10 0xFECA [1, 2, 3, 4, 5, 6, 7, 8, 9] none,
    .frame (.at 0) (tpCmMessage ⟨"j1939_ch0", defaultChannel_valid⟩ 0xF9 0x10 tpCtrlCts 2 1 0xFF 0xFF 0xFECA)
      false,
    .frame (.at 0) (tpCmMessage ⟨"j1939_ch0", defaultChannel_valid⟩ 0xF9 0x10 tpCtrlCts 0 2 0xFF 0xFF 0xFECA)
      false]

def nineBytesAck : CanFrame :=
  tpCmMessage ⟨"j1939_ch0", defaultChannel_valid⟩ 0xF9 0x10 tpCtrlAck 9 0 2 0xFF 0xFECA

def heldSender : J1939TransportProtocol :=
  heldNineBytes.foldl perform (fresh 0xF9 ⟨"j1939_ch0", defaultChannel_valid⟩ 0)

theorem heldSender_reached :
    Reaches heldNineBytes (fresh 0xF9 ⟨"j1939_ch0", by decide⟩ 0) heldSender := rfl

def heldSession : CmdtSenderSession where
  sourceAddress := 0xF9
  destinationAddress := 0x10
  targetPgn := 0xFECA
  totalBytes := 9
  totalPackets := 2
  data := [1, 2, 3, 4, 5, 6, 7, 8, 9]
  channel := ⟨"j1939_ch0", defaultChannel_valid⟩
  nextSequence := 3
  lastActivityTime := 0
  holdCount := 1
  ctsWindow := 2

theorem heldSender_sessions : heldSender.txSessions = [(heldSession.key, heldSession)] := by
  decide +kernel

theorem nineBytesAck_acknowledges : heldSender.Acknowledges nineBytesAck heldSession where
  group := by decide +kernel
  destination := by decide +kernel
  control := rfl
  known := by decide +kernel
  totalBytes := rfl
  totalPackets := rfl
  targetPgn := rfl

/-- The held session has sent everything and waits for a grant; its acknowledgement is
answered by an abort. -/
theorem heldSender_unsound :
    Reaches heldNineBytes (fresh 0xF9 ⟨"j1939_ch0", by decide⟩ 0) heldSender ∧
      ¬ heldSender.SenderInPosition ∧ ¬ heldSender.AckCompletes := by
  refine ⟨heldSender_reached, ?_, ?_⟩
  · intro position
    have member : (heldSession.key, heldSession) ∈ heldSender.txSessions := by
      rw [heldSender_sessions]
      exact List.mem_singleton_self _
    exact nomatch (position _ member).waits.mpr (by decide)
  · intro completes
    have closed := completes (.at 0) nineBytesAck heldSession nineBytesAck_acknowledges (by decide)
    have unanswered := congrArg (fun handled => handled.2.2) closed
    exact absurd unanswered (by decide +kernel)

end Runs

end J1939TransportProtocol

end Ucanlab.J1939
