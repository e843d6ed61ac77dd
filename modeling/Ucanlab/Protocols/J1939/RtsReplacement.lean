import Ucanlab.Protocols.J1939.Reassembly

/-!
A new RTS against a live connection, seen from both ends. The receiver aborts the
session it replaces and then grants the new one; the sender hears both. The abort
names its session by the group number alone, so it reaches the new session of the
sender exactly when that has the same number.
-/

namespace Ucanlab.J1939

open J1939TransportProtocol

namespace J1939TransportProtocol

section Receiver

theorem ReceiverInvariant.mem_release {engine : J1939TransportProtocol}
    (invariant : engine.ReceiverInvariant) {entry : RxKey × ReassemblySession}
    (member : entry ∈ engine.rxSessions) {key : RxKey} (other : entry.1 ≠ key) :
    entry ∈ (engine.releaseSessionSlot key (engine.rxSessions.get? key)).rxSessions := by
  cases found : engine.rxSessions.get? key with
  | none => exact Dict.mem_erase.mpr ⟨member, other⟩
  | some session =>
      have listed := Dict.mem_of_get? found
      rw [releaseSessionSlot_eq (Dict.mem_keys listed) (invariant.keyed _ listed)]
      exact Dict.mem_erase.mpr ⟨member, other⟩

theorem ReceiverInvariant.mem_reap {engine : J1939TransportProtocol}
    (invariant : engine.ReceiverInvariant) {now : Nat} {entry : RxKey × ReassemblySession}
    (member : entry ∈ engine.rxSessions)
    (alive : now - entry.2.lastActivityTime ≤ entry.2.holdTimeout) :
    entry ∈ (engine.reapStaleSessions now).rxSessions := by
  have others : ∀ stale ∈ engine.rxSessions.filter
      (fun entry => decide (now - entry.2.lastActivityTime > entry.2.holdTimeout)),
      entry.1 ≠ stale.1 := by
    intro stale selected same
    obtain ⟨stored, expired⟩ := List.mem_filter.mp selected
    have equal := invariant.entry_unique stored member (congrArg RxKey.route same.symm)
    rw [equal] at expired
    exact absurd alive (Nat.not_le_of_lt (of_decide_eq_true expired))
  unfold reapStaleSessions
  dsimp only
  generalize engine.rxSessions.filter _ = expired at others
  induction expired generalizing engine with
  | nil => exact member
  | cons stale rest ih =>
      exact ih (invariant.release stale.1)
        (invariant.mem_release member (others stale (List.mem_cons_self ..)))
        (fun other listed => others other (List.mem_cons_of_mem _ listed))

theorem ReceiverInvariant.drop_below {engine : J1939TransportProtocol}
    (invariant : engine.ReceiverInvariant) {entry : RxKey × ReassemblySession}
    (member : entry ∈ engine.rxSessions) :
    (engine.dropSession entry.1).perSaSessions entry.1.sourceAddress < maxSessionsPerSa := by
  have source : entry.2.sourceAddress = entry.1.sourceAddress := by
    rw [← invariant.keyed entry member]
    rfl
  have split := sessionsOf_drop invariant.distinct member entry.1.sourceAddress
  rw [if_pos source] at split
  have after := (invariant.drop (Dict.mem_keys member)).counted entry.1.sourceAddress
  have quota := invariant.quota entry.1.sourceAddress
  omega

theorem openRts_with_abort {engine : J1939TransportProtocol} (clock : Clock)
    {announced : Announcement} (abort : CanFrame)
    (quota : engine.perSaSessions announced.sourceAddress < maxSessionsPerSa) :
    ∃ opened, engine.openRts clock announced (some abort) = (opened, some abort) ∧
      opened.pendingTxFrames = engine.pendingTxFrames ++
        [engine.createCtsFrame (announced.session false engine.rxCtsWindow clock.session)] := by
  have room := makeRoom_onlyTable engine announced.key
  unfold openRts
  rw [overQuota_below quota, if_neg Bool.false_ne_true]
  refine ⟨_, rfl, ?_⟩
  rw [room]
  rfl

theorem initialGrant_positive (session : ReassemblySession) : 0 < initialGrant session := by
  unfold initialGrant
  dsimp only
  omega

theorem initialGrant_capped (session : ReassemblySession) :
    initialGrant session ≤ maxCtsPacketCount := by
  unfold initialGrant maxCtsPacketCount
  dsimp only
  omega

def replacementFrames (engine : J1939TransportProtocol) (live opened : ReassemblySession) :
    List CanFrame :=
  (engine.createAbortFrame live abortReasonSessionCollision).toList ++ [engine.createCtsFrame opened]

/-- What a call gives its caller to send: the response, then what it queued. -/
def answers (engine : J1939TransportProtocol)
    (handled : J1939TransportProtocol × Option CanFrame) : List CanFrame :=
  handled.2.toList ++ handled.1.pendingTxFrames.drop engine.pendingTxFrames.length

theorem answers_of_openRts {engine cleared : J1939TransportProtocol} (clock : Clock)
    {announced : Announcement} {live : ReassemblySession} (connection : live.isBam = false)
    (same : cleared.myAddress = engine.myAddress ∧ cleared.rxCtsWindow = engine.rxCtsWindow ∧
      cleared.pendingTxFrames = engine.pendingTxFrames)
    (quota : cleared.perSaSessions announced.sourceAddress < maxSessionsPerSa) :
    engine.answers (cleared.openRts clock announced
        (engine.createAbortFrame live abortReasonSessionCollision)) =
      engine.replacementFrames live
        (announced.session false engine.rxCtsWindow clock.session) := by
  obtain ⟨address, window, pending⟩ := same
  have aborts : ∃ abort, engine.createAbortFrame live abortReasonSessionCollision = some abort := by
    unfold createAbortFrame
    rw [connection]
    exact ⟨_, rfl⟩
  obtain ⟨abort, sent⟩ := aborts
  obtain ⟨opened, handled, queued⟩ := openRts_with_abort clock abort quota
  have cts (session : ReassemblySession) :
      cleared.createCtsFrame session = engine.createCtsFrame session := by
    unfold createCtsFrame ctsFrame addressByte
    rw [address]
  unfold answers replacementFrames
  rw [sent, handled, queued, pending, window, cts, List.drop_left]

theorem ReceiverInvariant.handleRts_answers {engine : J1939TransportProtocol}
    (invariant : engine.ReceiverInvariant) (clock : Clock) {announced : Announcement}
    {live : ReassemblySession} (stored : (live.key, live) ∈ engine.rxSessions)
    (connection : live.isBam = false) (here : announced.route = live.route)
    (mine : engine.addressed false announced = true) :
    engine.answers (engine.handleRts clock announced) =
      if announced.targetPgn = live.targetPgn ∨
          (engine.checkPrefixCollisionRate live.route clock.collision).1 = true then
        engine.replacementFrames live
          (announced.session false engine.rxCtsWindow clock.session)
      else
        (engine.createAbortFrame (announced.session false 0 clock.session)
          abortReasonSessionCollision).toList := by
  have accepted : ¬ (announced.destinationAddress = 255 ∨
      announced.destinationAddress.toNat ≠ engine.myAddress) := by
    obtain ⟨specific, same⟩ := of_decide_eq_true mine
    exact fun either => either.elim specific (fun other => other same)
  have source : announced.sourceAddress = live.key.sourceAddress := congrArg Prod.fst here
  have present := Dict.mem_keys stored
  have below := invariant.drop_below stored
  unfold handleRts
  rw [if_neg accepted]
  by_cases group : announced.targetPgn = live.targetPgn
  · have key : announced.key = live.key := by
      obtain ⟨-, rest⟩ := Prod.ext_iff.mp here
      obtain ⟨destination, place⟩ := Prod.ext_iff.mp rest
      unfold Announcement.key
      rw [source, group, show announced.destinationAddress = live.destinationAddress from destination,
        show announced.channel = live.channel from place]
      rfl
    rw [if_pos (Or.inl group), key, Dict.get?_of_mem invariant.distinct stored]
    dsimp only
    rw [releaseSessionSlot_eq present rfl]
    exact answers_of_openRts clock connection ⟨rfl, rfl, rfl⟩ (source ▸ below)
  · have absent : engine.rxSessions.get? announced.key = none := by
      cases found : engine.rxSessions.get? announced.key with
      | none => rfl
      | some other =>
          have equal := invariant.entry_unique (Dict.mem_of_get? found) stored here
          exact absurd (congrArg RxKey.targetPgn (congrArg Prod.fst equal)) group
    have listed : (live.key, live) ∈ engine.livePrefix announced.route.1 announced.route.2.1
        announced.route.2.2 := mem_livePrefix.mpr ⟨stored, here.symm⟩
    have only : engine.livePrefix announced.sourceAddress announced.destinationAddress
        announced.channel = [(live.key, live)] := by
      change engine.livePrefix announced.route.1 announced.route.2.1 announced.route.2.2 = _
      rcases invariant.livePrefix_cases announced.route with none | ⟨entry, one⟩
      · rw [none] at listed
        cases listed
      · rw [one] at listed ⊢
        rw [List.mem_singleton.mp listed]
    have route : (announced.sourceAddress, announced.destinationAddress, announced.channel) =
        live.route := here
    rw [absent, only]
    dsimp only
    rw [route]
    obtain ⟨marks, marked⟩ := checkPrefixCollisionRate_marked engine live.route clock.collision
    rcases passed : engine.checkPrefixCollisionRate live.route clock.collision with ⟨opens, after⟩
    rw [passed] at marked
    dsimp only at marked
    subst marked
    cases opens with
    | false =>
        rw [if_neg (fun either => either.elim group (fun never => absurd never Bool.false_ne_true))]
        unfold answers
        dsimp only
        rw [List.drop_length, List.append_nil]
        rfl
    | true =>
        rw [if_pos (Or.inr rfl)]
        dsimp only
        have released : { engine with rtsPrefixMarks := marks }.releaseSessionSlot live.key
            (some live) = { engine with rtsPrefixMarks := marks }.dropSession live.key :=
          releaseSessionSlot_eq present rfl
        rw [released]
        exact answers_of_openRts clock connection ⟨rfl, rfl, rfl⟩ (source ▸ below)

end Receiver

section Sender

variable {sender : J1939TransportProtocol} {channel : ChannelId}
  {peer us control first second third fourth : UInt8} {group : Nat}

theorem tpCmMessage_control :
    (tpCmMessage channel peer us control first second third fourth group).data.getD 0 0 = control :=
  rfl

theorem tpCmMessage_group (encodable : group < 2 ^ 24) :
    littleEndian (((tpCmMessage channel peer us control first second third fourth group).data.drop
      5).take 3) = group := littleEndian_group group encodable

theorem handleTxCm_message (clock : Clock) (encodable : group < 2 ^ 24) {session : CmdtSenderSession}
    (found : sender.txSessions.get? ⟨sender.myAddress, us.toNat, group, channel⟩ = some session) :
    sender.handleTxCm clock (tpCmMessage channel peer us control first second third fourth group) us =
      if control = tpCtrlCts then
        sender.storeOutcome ⟨sender.myAddress, us.toNat, group, channel⟩ session clock.emission
          (receiveCts session clock first.toNat second.toNat)
      else if control = tpCtrlAck then
        sender.storeOutcome ⟨sender.myAddress, us.toNat, group, channel⟩ session clock.emission
          (receiveAck session (littleEndian [first, second]) third.toNat group)
      else if control = tpCtrlAbort then
        ({ sender with
          txSessions := sender.txSessions.erase ⟨sender.myAddress, us.toNat, group, channel⟩ },
          [], none)
      else (sender, [], none) := by
  have place : (tpCmMessage channel peer us control first second third fourth group).channel =
      channel := rfl
  unfold handleTxCm
  dsimp only
  rw [tpCmMessage_group encodable, place, found]
  rfl

theorem handleRxFrame_message (clock : Clock) (mine : peer.toNat = sender.myAddress)
    (encodable : group < 2 ^ 24) (targets : control ∈ [tpCtrlCts, tpCtrlAck, tpCtrlAbort]) :
    sender.handleRxFrame clock
        (tpCmMessage channel peer us control first second third fourth group) false =
      if sender.txSessions.contains ⟨sender.myAddress, us.toNat, group, channel⟩ ∨
          control ≠ tpCtrlAbort then
        match sender.handleTxCm clock
            (tpCmMessage channel peer us control first second third fourth group) us with
        | (engine, frames, error) =>
            match engine.respond frames error with
            | (engine, response) => (engine, none, response)
      else
        match sender.handleTpCm clock
            (tpCmMessage channel peer us control first second third fourth group) us peer with
        | (engine, response) => (engine, none, response) := by
  have read : pgnFromTpCm (tpCmFrame channel peer us
      (tpCmData control first second third fourth group) (tpCmData_length ..)) = group :=
    littleEndian_group group encodable
  unfold tpCmMessage
  rw [handleRxFrame_tpCm, ctrlTargetsSender_tpCmData, read, decide_eq_true targets]
  simp only [mine, true_and]
  rfl

theorem abort_heard (clock : Clock) (mine : peer.toNat = sender.myAddress)
    (encodable : group < 2 ^ 24) {key : TxKey} {session : CmdtSenderSession}
    (found : sender.txSessions.get? key = some session)
    (own : key = ⟨sender.myAddress, us.toNat, key.targetPgn, channel⟩) :
    (sender.handleRxFrame clock
        (tpCmMessage channel peer us tpCtrlAbort first second third fourth group) false).1.myAddress =
          sender.myAddress ∧
      (sender.handleRxFrame clock
        (tpCmMessage channel peer us tpCtrlAbort first second third fourth group)
          false).1.txSessions.get? key =
            if group = key.targetPgn then none else some session := by
  rw [handleRxFrame_message clock mine encodable (by decide)]
  by_cases listed : sender.txSessions.contains ⟨sender.myAddress, us.toNat, group, channel⟩ = true
  · obtain ⟨named, present⟩ := Option.isSome_iff_exists.mp listed
    rw [if_pos (Or.inl listed), handleTxCm_message clock encodable present, if_neg (by decide),
      if_neg (by decide), if_pos rfl]
    refine ⟨rfl, ?_⟩
    change (sender.txSessions.erase _).get? key = _
    by_cases same : group = key.targetPgn
    · rw [if_pos same, same, ← own]
      exact Dict.get?_erase_self _ key
    · rw [if_neg same, ← found]
      refine Dict.get?_erase_ne _ ?_
      intro equal
      exact same (congrArg TxKey.targetPgn equal).symm
  · have different : group ≠ key.targetPgn := by
      intro same
      refine listed ?_
      rw [same, ← own]
      exact Option.isSome_iff_exists.mpr ⟨session, found⟩
    rw [if_neg (fun sent => sent.elim listed (fun other => other rfl)), if_neg different]
    have kept : OnlyTable sender (sender.handleTpCm clock
        (tpCmMessage channel peer us tpCtrlAbort first second third fourth group) us peer).1 := by
      unfold handleTpCm
      dsimp only
      rw [tpCmMessage_control, if_neg (fun announcing => absurd announcing.1 (by decide)),
        if_neg (by decide), if_neg (by decide), if_pos rfl]
      exact (reapStaleSessions_onlyTable sender clock.reap).trans
        (releaseSessionSlot_onlyTable _ _ _)
    dsimp only
    rw [kept]
    exact ⟨rfl, found⟩

theorem cts_heard (clock : Clock) (mine : peer.toNat = sender.myAddress)
    (encodable : group < 2 ^ 24) {grant : Nat} (positive : 0 < grant)
    (capped : grant ≤ maxCtsPacketCount) {session : CmdtSenderSession}
    (found : sender.txSessions.get? ⟨sender.myAddress, us.toNat, group, channel⟩ = some session)
    (unstarted : session.nextSequence = 1) (some_packets : 1 ≤ session.totalPackets) :
    ∃ started, (sender.handleRxFrame clock (tpCmMessage channel peer us tpCtrlCts
        (UInt8.ofNat grant) (UInt8.ofNat 1) third fourth group) false).1.txSessions.get?
          ⟨sender.myAddress, us.toNat, group, channel⟩ = some started ∧ 1 < started.nextSequence := by
  have count : (UInt8.ofNat grant).toNat = grant := by
    rw [ofNat_toNat_mod]
    unfold maxCtsPacketCount at capped
    omega
  have granted := receiveCts_next clock positive capped (by omega : session.nextSequence ≠ 0)
    (by omega)
  rw [unstarted] at granted
  rw [handleRxFrame_message clock mine encodable (by decide),
    if_pos (Or.inr (by decide : tpCtrlCts ≠ tpCtrlAbort)),
    handleTxCm_message clock encodable found, if_pos rfl, count,
    show (UInt8.ofNat 1).toNat = 1 from rfl, granted]
  unfold storeOutcome
  dsimp only
  rw [respond_txSessions]
  refine ⟨_, Dict.get?_set_self _ _ _, ?_⟩
  change 1 < 1 + (min (1 + grant - 1) session.totalPackets + 1 - 1)
  omega

theorem startCmdtTransfer_ok {engine opened : J1939TransportProtocol} {clock : Clock}
    {target pgn : Nat} {data : Bytes} {place : Option ChannelId} {rts : CanFrame}
    (issued : engine.startCmdtTransfer clock target pgn data place = (opened, .ok rts)) :
    (1 ≤ data.length ∧ data.length ≤ maxTpBytes) ∧ pgn < 2 ^ 24 ∧
      opened.myAddress = engine.myAddress ∧
      (∃ session : CmdtSenderSession, opened.txSessions.get?
          ⟨engine.myAddress, target, pgn, place.getD engine.channel⟩ = some session ∧
        session.nextSequence = 1 ∧ session.totalPackets = (data.length + 6) / 7) ∧
      rts = tpCmMessage (place.getD engine.channel) (UInt8.ofNat target) engine.addressByte
        tpCtrlRts (lowByte data.length) (highByte data.length)
        (UInt8.ofNat ((data.length + 6) / 7)) 0xFF pgn := by
  have address (engine : J1939TransportProtocol) : engine.makeTxRoom.myAddress = engine.myAddress := by
    unfold makeTxRoom
    split
    · split <;> rfl
    · rfl
  unfold startCmdtTransfer at issued
  split at issued
  · cases issued
  · rename_i size
    dsimp only at issued
    split at issued
    · cases issued
    · rename_i encodable
      have same := address { (engine.reapStaleTxSessions clock.reap).1 with
        pendingTxFrames := (engine.reapStaleTxSessions clock.reap).1.pendingTxFrames ++
          (engine.reapStaleTxSessions clock.reap).2 }
      cases issued
      refine ⟨not_not.mp size, Nat.lt_of_not_le encodable, same,
        ⟨_, Dict.get?_set_self _ _ _, rfl, rfl⟩, ?_⟩
      unfold rtsFrame addressByte
      dsimp only
      rw [same]
      rfl

theorem cts_unheard (clock : Clock) (mine : peer.toNat = sender.myAddress)
    (encodable : group < 2 ^ 24)
    (absent : sender.txSessions.get? ⟨sender.myAddress, us.toNat, group, channel⟩ = none) :
    (sender.handleRxFrame clock (tpCmMessage channel peer us tpCtrlCts first second third fourth
      group) false).1.txSessions.get? ⟨sender.myAddress, us.toNat, group, channel⟩ = none := by
  have unclaimed : sender.handleTxCm clock (tpCmMessage channel peer us tpCtrlCts first second third
      fourth group) us = (sender, [], none) := by
    have place : (tpCmMessage channel peer us tpCtrlCts first second third fourth group).channel =
        channel := rfl
    unfold handleTxCm
    dsimp only
    rw [tpCmMessage_group encodable, place, absent]
  rw [handleRxFrame_message clock mine encodable (by decide),
    if_pos (Or.inr (by decide : tpCtrlCts ≠ tpCtrlAbort)), unclaimed]
  exact absent

end Sender

end J1939TransportProtocol

section Origin

theorem announcedBy_group {frame : CanFrame} {isBam : Bool} {announced : Announcement}
    (announces : announcedBy frame = some (isBam, announced)) : announced.targetPgn < 2 ^ 24 := by
  have bound : littleEndian ((frame.data.drop 5).take 3) < 2 ^ 24 := by
    have digits := littleEndian_lt ((frame.data.drop 5).take 3)
    have few : ((frame.data.drop 5).take 3).length ≤ 3 := List.length_take_le ..
    have power := Nat.pow_le_pow_right (by omega : 0 < 256) few
    omega
  unfold announcedBy at announces
  dsimp only at announces
  split at announces
  · split at announces
    · cases announces
      exact bound
    · split at announces
      · cases announces
        exact bound
      · cases announces
  · cases announces

/-- What every live session owes to its announcement: an encodable group, and a
specific destination where it is a connection. -/
def ReassemblySession.Announced (session : ReassemblySession) : Prop :=
  session.targetPgn < 2 ^ 24 ∧ (session.isBam = false → session.destinationAddress ≠ 255)

theorem admittedOn_announced {engine : J1939TransportProtocol} {op : EngineOp} {route : Route}
    {isBam : Bool} {announced : Announcement}
    (admitted : engine.admittedOn op route = some (isBam, announced)) (window now : Nat) :
    ReassemblySession.Announced (announced.session isBam window now) := by
  cases op with
  | frame clock frame suppress =>
      unfold J1939TransportProtocol.admittedOn J1939TransportProtocol.admitted at admitted
      dsimp only at admitted
      obtain ⟨first, -⟩ := Option.filter_eq_some_iff.mp admitted
      obtain ⟨announces, passed⟩ := Option.filter_eq_some_iff.mp first
      refine ⟨announcedBy_group announces, ?_⟩
      intro connection
      unfold J1939TransportProtocol.admits at passed
      have mine := (Bool.and_eq_true_iff.mp (Bool.and_eq_true_iff.mp passed).1).2
      change isBam = false at connection
      subst connection
      exact (of_decide_eq_true mine).1
  | _ => cases admitted

theorem J1939TransportProtocol.Reaches.announced {ops : List EngineOp} {myAddress rxCtsWindow : Nat}
    {channel : ChannelId} {engine : J1939TransportProtocol}
    (reaches : Reaches ops (fresh myAddress channel rxCtsWindow) engine) :
    ∀ entry ∈ engine.rxSessions, entry.2.Announced := by
  refine (@EventRun.run_invariant _ _ engineStep
    (fun engine => engine.ReceiverInvariant ∧ ∀ entry ∈ engine.rxSessions, entry.2.Announced)
    ?_ _ engine ops ⟨fresh_invariant myAddress channel rxCtsWindow, ?_⟩ reaches).2
  · rintro engine op next ⟨invariant, announced⟩ stepped
    cases stepped
    refine ⟨invariant.perform op, ?_⟩
    intro entry member
    cases invariant.mem_perform op member with
    | untouched stored => exact announced entry stored
    | continued session packet now stored delivered quiet inOrder same =>
        have before : session.Announced := announced (session.key, session) stored
        rw [same]
        exact before
    | opened isBam opening window now admitted same =>
        rw [same]
        exact admittedOn_announced admitted window now
  · intro entry member
    cases member

end Origin

/-- A receiver with a live connection, and the engine at the connection's source,
which starts a further transfer to that receiver. -/
structure RtsReplacement where
  ops : List EngineOp
  myAddress : Nat
  place : ChannelId
  rxCtsWindow : Nat
  receiver : J1939TransportProtocol
  reached : Reaches ops (fresh myAddress place rxCtsWindow) receiver
  live : ReassemblySession
  stored : (live.key, live) ∈ receiver.rxSessions
  connection : live.isBam = false
  mine : live.destinationAddress.toNat = receiver.myAddress
  clock : Clock
  alive : clock.reap - live.lastActivityTime ≤ live.holdTimeout
  sender : J1939TransportProtocol
  source : sender.myAddress = live.sourceAddress.toNat
  started : Clock
  pgn : Nat
  data : Bytes
  opened : J1939TransportProtocol
  rts : CanFrame
  issued : sender.startCmdtTransfer started receiver.myAddress pgn data (some live.channel) =
    (opened, .ok rts)

namespace RtsReplacement

variable (setup : RtsReplacement)

def key : TxKey := ⟨setup.sender.myAddress, setup.receiver.myAddress, setup.pgn, setup.live.channel⟩

def responses : List CanFrame :=
  (setup.receiver.handleRxFrame setup.clock setup.rts false).2.2.toList ++
    (setup.receiver.handleRxFrame setup.clock setup.rts false).1.pendingTxFrames.drop
      setup.receiver.pendingTxFrames.length

/-- However late they arrive, the responses leave the new session alive and granted:
it has gone beyond its first packet. -/
def Granted : Prop :=
  ∀ timed : List (Clock × CanFrame), timed.map Prod.snd = setup.responses →
    ∃ session, (setup.opened.receiveAll timed).1.txSessions.get? setup.key = some session ∧
      1 < session.nextSequence

def gateOpen : Bool :=
  (setup.receiver.checkPrefixCollisionRate setup.live.route setup.clock.collision).1

def announced : Announcement where
  sourceAddress := setup.live.sourceAddress
  destinationAddress := setup.live.destinationAddress
  channel := setup.live.channel
  totalBytes := setup.data.length
  totalPackets := (setup.data.length + 6) / 7
  maxPackets := 0xFF
  targetPgn := setup.pgn

theorem announced_route : setup.announced.route = setup.live.route := rfl

theorem rts_eq : setup.rts = tpCmMessage setup.live.channel setup.live.destinationAddress
    setup.live.sourceAddress tpCtrlRts (lowByte setup.data.length) (highByte setup.data.length)
    (UInt8.ofNat ((setup.data.length + 6) / 7)) 0xFF setup.pgn := by
  obtain ⟨-, -, -, -, rts⟩ := startCmdtTransfer_ok setup.issued
  have destination : UInt8.ofNat setup.receiver.myAddress = setup.live.destinationAddress := by
    rw [← setup.mine, UInt8.ofNat_toNat]
  have source : setup.sender.addressByte = setup.live.sourceAddress := by
    unfold addressByte
    rw [setup.source, UInt8.ofNat_toNat]
  rw [rts, destination, source]
  rfl

theorem receiver_invariant : setup.receiver.ReceiverInvariant :=
  Reaches.invariant setup.reached (fresh_invariant _ _ _)

theorem live_announced : setup.live.Announced := Reaches.announced setup.reached _ setup.stored

theorem responses_eq : setup.responses =
    (setup.receiver.reapStaleSessions setup.clock.reap).answers
      ((setup.receiver.reapStaleSessions setup.clock.reap).handleRts setup.clock
        setup.announced) := by
  obtain ⟨size, encodable, -⟩ := startCmdtTransfer_ok setup.issued
  have announced : announcement setup.rts setup.live.sourceAddress setup.live.destinationAddress =
      setup.announced := by
    rw [setup.rts_eq]
    exact announcement_of_transfer _ _ _ _ _ _ _ size.2 encodable
  have wellFormed : setup.announced.wellFormed = true := wellFormed_of_size size rfl
  have handled : setup.receiver.handleRxFrame setup.clock setup.rts false =
      match (setup.receiver.reapStaleSessions setup.clock.reap).handleRts setup.clock
        setup.announced with
      | (engine, response) => (engine, none, response) := by
    have control : setup.rts.data.getD 0 0 = tpCtrlRts := by
      rw [setup.rts_eq]
      rfl
    have dispatched : setup.receiver.handleRxFrame setup.clock setup.rts false =
        match setup.receiver.handleTpCm setup.clock setup.rts setup.live.sourceAddress
          setup.live.destinationAddress with
        | (engine, response) => (engine, none, response) := by
      rw [setup.rts_eq]
      unfold tpCmMessage
      rw [handleRxFrame_tpCm, ctrlTargetsSender_tpCmData,
        if_neg (fun targets => absurd targets.2.1 (by decide))]
    rw [dispatched]
    unfold handleTpCm
    dsimp only
    rw [announced, if_neg (fun rejected => rejected.2 wellFormed), control, if_neg (by decide),
      if_pos rfl]
  obtain ⟨-, -, -, pending, -⟩ :=
    (reapStaleSessions_onlyTable setup.receiver setup.clock.reap).fields
  unfold responses answers
  rw [handled, pending]

def abortFrame (group : Nat) : CanFrame :=
  tpCmMessage setup.live.channel setup.live.sourceAddress setup.receiver.addressByte tpCtrlAbort
    abortReasonSessionCollision 0xFF 0xFF 0xFF group

def ctsFrame (grant : Nat) : CanFrame :=
  tpCmMessage setup.live.channel setup.live.sourceAddress setup.receiver.addressByte tpCtrlCts
    (UInt8.ofNat grant) (UInt8.ofNat 1) 0xFF 0xFF setup.pgn

theorem responses_cases :
    if setup.pgn = setup.live.targetPgn ∨ setup.gateOpen = true then
      ∃ grant, 0 < grant ∧ grant ≤ maxCtsPacketCount ∧
        setup.responses = [setup.abortFrame setup.live.targetPgn, setup.ctsFrame grant]
    else setup.responses = [setup.abortFrame setup.pgn] := by
  have kept := (reapStaleSessions_onlyTable setup.receiver setup.clock.reap).fields
  obtain ⟨address, window, marks, -, -⟩ := kept
  have invariant := setup.receiver_invariant
  have stored := invariant.mem_reap setup.stored setup.alive
  have mine : (setup.receiver.reapStaleSessions setup.clock.reap).addressed false setup.announced =
      true := by
    refine decide_eq_true ⟨setup.live_announced.2 setup.connection, ?_⟩
    rw [address]
    exact setup.mine
  have gate : ((setup.receiver.reapStaleSessions setup.clock.reap).checkPrefixCollisionRate
      setup.live.route setup.clock.collision).1 = setup.gateOpen := by
    unfold gateOpen checkPrefixCollisionRate
    rw [marks]
    split
    · rfl
    · split
      · rfl
      · split <;> rfl
  have answers := (invariant.reap setup.clock.reap).handleRts_answers setup.clock stored
    setup.connection setup.announced_route mine
  have byte : (setup.receiver.reapStaleSessions setup.clock.reap).addressByte =
      setup.receiver.addressByte := congrArg UInt8.ofNat address
  rw [gate, ← setup.responses_eq] at answers
  change setup.responses = if setup.pgn = setup.live.targetPgn ∨ setup.gateOpen = true then _ else _
    at answers
  split
  · rename_i replaced
    rw [if_pos replaced] at answers
    refine ⟨initialGrant (setup.announced.session false
      (setup.receiver.reapStaleSessions setup.clock.reap).rxCtsWindow setup.clock.session),
      initialGrant_positive _, initialGrant_capped _, ?_⟩
    rw [answers]
    unfold replacementFrames createAbortFrame createCtsFrame J1939TransportProtocol.ctsFrame
      abortFrame ctsFrame
    rw [setup.connection, byte]
    rfl
  · rename_i refused
    rw [if_neg refused] at answers
    rw [answers]
    unfold createAbortFrame abortFrame
    rw [byte]
    rfl

/-- The sender, before the receiver's answers arrive: its new session waits for a
grant, and an abort of the new session's group would end it. -/
structure Waiting (session : CmdtSenderSession) : Prop where
  encodable : setup.pgn < 2 ^ 24
  found : setup.opened.txSessions.get? setup.key = some session
  unstarted : session.nextSequence = 1
  packets : 1 ≤ session.totalPackets
  mine : setup.live.sourceAddress.toNat = setup.opened.myAddress
  own : setup.key = ⟨setup.opened.myAddress, setup.receiver.addressByte.toNat, setup.pgn,
    setup.live.channel⟩

theorem waiting : ∃ session, setup.Waiting session := by
  obtain ⟨size, encodable, address, ⟨session, found, unstarted, packets⟩, -⟩ :=
    startCmdtTransfer_ok setup.issued
  have peer : setup.receiver.addressByte.toNat = setup.receiver.myAddress := by
    unfold addressByte
    rw [← setup.mine, UInt8.ofNat_toNat]
  exact ⟨session, {
    encodable := encodable
    found := found
    unstarted := unstarted
    packets := by omega
    mine := by rw [address, setup.source]
    own := by
      rw [address, peer]
      rfl }⟩

variable {setup} {session : CmdtSenderSession}

theorem Waiting.aborted (waiting : setup.Waiting session) (clock : Clock) {group : Nat}
    (encodable : group < 2 ^ 24) :
    (setup.opened.handleRxFrame clock (setup.abortFrame group) false).1.myAddress =
        setup.opened.myAddress ∧
      (setup.opened.handleRxFrame clock (setup.abortFrame group) false).1.txSessions.get? setup.key =
        if group = setup.pgn then none else some session :=
  abort_heard clock waiting.mine encodable waiting.found waiting.own

theorem Granted.condition (granted : setup.Granted) :
    setup.pgn ≠ setup.live.targetPgn ∧ setup.gateOpen = true := by
  obtain ⟨session, waiting⟩ := setup.waiting
  have answers := setup.responses_cases
  have replaced : setup.pgn = setup.live.targetPgn ∨ setup.gateOpen = true := by
    by_contra refused
    rw [if_neg refused] at answers
    obtain ⟨started, alive, -⟩ := granted [(.at 0, setup.abortFrame setup.pgn)] answers.symm
    obtain ⟨-, gone⟩ := waiting.aborted (.at 0) waiting.encodable
    rw [if_pos rfl] at gone
    exact absurd (alive.symm.trans gone) (Option.some_ne_none _)
  have different : setup.pgn ≠ setup.live.targetPgn := by
    -- the abort of the old session is heard by the new one, and the CTS comes too late
    intro same
    rw [if_pos replaced] at answers
    obtain ⟨grant, -, -, responses⟩ := answers
    obtain ⟨started, alive, -⟩ := granted [(.at 0, setup.abortFrame setup.live.targetPgn),
      (.at 0, setup.ctsFrame grant)] responses.symm
    obtain ⟨kept, gone⟩ := waiting.aborted (.at 0) setup.live_announced.1
    rw [if_pos same.symm] at gone
    rw [receiveAll_fst, receiveAll_fst, receiveAll] at alive
    rw [waiting.own, ← kept] at gone alive
    unfold ctsFrame at alive
    rw [cts_unheard (.at 0) (waiting.mine.trans kept.symm) waiting.encodable gone] at alive
    cases alive
  exact ⟨different, replaced.resolve_left different⟩

theorem granted_of_condition (different : setup.pgn ≠ setup.live.targetPgn)
    (opens : setup.gateOpen = true) : setup.Granted := by
  obtain ⟨session, waiting⟩ := setup.waiting
  have answers := setup.responses_cases
  rw [if_pos (Or.inr opens)] at answers
  obtain ⟨grant, positive, capped, responses⟩ := answers
  intro timed carried
  rw [responses] at carried
  obtain ⟨⟨first, abort⟩, rest, rfl, abortSame, carried⟩ := List.map_eq_cons_iff.mp carried
  obtain ⟨⟨second, cts⟩, rest, rfl, ctsSame, carried⟩ := List.map_eq_cons_iff.mp carried
  obtain rfl := List.map_eq_nil_iff.mp carried
  dsimp only at abortSame ctsSame
  subst abortSame ctsSame
  obtain ⟨kept, alive⟩ := waiting.aborted first setup.live_announced.1
  rw [if_neg (fun same => different same.symm)] at alive
  rw [receiveAll_fst, receiveAll_fst, receiveAll]
  rw [waiting.own, ← kept] at alive ⊢
  unfold ctsFrame
  exact cts_heard second (waiting.mine.trans kept.symm) waiting.encodable positive capped alive
    waiting.unstarted waiting.packets

end RtsReplacement

/-- The answers to a new RTS leave its sender alive and granted exactly when the RTS is
of another group than the live session and the gate lets it take that one's place. -/
theorem rts_replacement_granted_iff (setup : RtsReplacement) :
    setup.Granted ↔ setup.pgn ≠ setup.live.targetPgn ∧ setup.gateOpen = true :=
  ⟨RtsReplacement.Granted.condition,
    fun condition => RtsReplacement.granted_of_condition condition.1 condition.2⟩

def nineBytesStarted : J1939TransportProtocol × Except TpError CanFrame :=
  (fresh 0xF9 ⟨"j1939_ch0", defaultChannel_valid⟩ 0).startCmdtTransfer (.at 0) 0x10 0xFECA
    [1, 2, 3, 4, 5, 6, 7, 8, 9] (some ⟨"j1939_ch0", defaultChannel_valid⟩)

def nineBytesRts : CanFrame :=
  tpCmMessage ⟨"j1939_ch0", defaultChannel_valid⟩ 0x10 0xF9 tpCtrlRts 9 0 2 0xFF 0xFECA

def nineBytesSession : ReassemblySession where
  sourceAddress := 0xF9
  destinationAddress := 0x10
  targetPgn := 0xFECA
  totalBytes := 9
  totalPackets := 2
  isBam := false
  lastActivityTime := 0
  channel := ⟨"j1939_ch0", defaultChannel_valid⟩

/-- The node 0xF9 starts the same transfer again. -/
def nineBytesAgain : RtsReplacement where
  ops := [.frame (.at 0) nineBytesRts false]
  myAddress := 0x10
  place := ⟨"j1939_ch0", defaultChannel_valid⟩
  rxCtsWindow := 0
  receiver := (fresh 0x10 ⟨"j1939_ch0", defaultChannel_valid⟩ 0).perform (.frame (.at 0) nineBytesRts false)
  reached := rfl
  live := nineBytesSession
  stored := by decide +kernel
  connection := rfl
  mine := by decide +kernel
  clock := .at 0
  alive := by decide
  sender := fresh 0xF9 ⟨"j1939_ch0", defaultChannel_valid⟩ 0
  source := rfl
  started := .at 0
  pgn := 0xFECA
  data := [1, 2, 3, 4, 5, 6, 7, 8, 9]
  opened := nineBytesStarted.1
  rts := nineBytesRts
  issued := rfl

/-- The second RTS is answered by an abort that ends the session it has just opened. -/
theorem nineBytesAgain_aborted : ¬ ∀ setup : RtsReplacement, setup.Granted := by
  intro granted
  exact (granted nineBytesAgain).condition.1 rfl

end Ucanlab.J1939
