import Ucanlab.Lib.EventRun
import Ucanlab.Protocols.J1939.TransportSpec

/-!
The calls on one transport engine as operations, and the part of a call that
concerns the receiving side: which frames announce a transfer, which carry a
packet, and how an announcement clears its predecessor before it is placed.
-/

namespace Ucanlab.J1939

/-- The two addresses and the channel of a transfer: all that a packet names. -/
abbrev Route := UInt8 × UInt8 × ChannelId

def RxKey.route (key : RxKey) : Route := (key.sourceAddress, key.destinationAddress, key.channel)

def ReassemblySession.route (session : ReassemblySession) : Route := session.key.route

def Announcement.route (announced : Announcement) : Route := announced.key.route

theorem Announcement.route_eq (announced : Announcement) :
    announced.route = (announced.sourceAddress, announced.destinationAddress, announced.channel) :=
  rfl

structure Packet where
  seq : Nat
  payload : Bytes
  deriving DecidableEq

section Frames

def frameSource (frame : CanFrame) : UInt8 :=
  UInt8.ofNat (parseJ1939Id frame.arbitrationId).sourceAddress

def frameDestination (frame : CanFrame) : UInt8 :=
  UInt8.ofNat ((parseJ1939Id frame.arbitrationId).destinationAddress.getD 255)

def ofGroup (frame : CanFrame) (group : Nat) : Prop :=
  J1939TransportProtocol.foreign frame = false ∧
    (parseJ1939Id frame.arbitrationId).pgn = group

instance (frame : CanFrame) (group : Nat) : Decidable (ofGroup frame group) :=
  inferInstanceAs (Decidable (_ ∧ _))

def packetOf (frame : CanFrame) : Option (Route × Packet) :=
  if ofGroup frame pgnTpDt then
    some ((frameSource frame, frameDestination frame, frame.channel),
      ⟨(frame.data.getD 0 0).toNat, (frame.data.drop 1).take 7⟩)
  else none

def announcedBy (frame : CanFrame) : Option (Bool × Announcement) :=
  if ofGroup frame pgnTpCm then
    let announced := announcement frame (frameSource frame) (frameDestination frame)
    if frame.data.getD 0 0 = tpCtrlBam then some (true, announced)
    else if frame.data.getD 0 0 = tpCtrlRts then some (false, announced)
    else none
  else none

/-- A control message from `us` to `peer`. -/
def tpCmMessage (channel : ChannelId) (peer us control first second third fourth : UInt8)
    (group : Nat) : CanFrame :=
  tpCmFrame channel peer us (tpCmData control first second third fourth group) (tpCmData_length ..)

theorem packetOf_payload_length {frame : CanFrame} {route : Route} {packet : Packet}
    (carried : packetOf frame = some (route, packet)) : packet.payload.length = 7 := by
  unfold packetOf at carried
  split at carried
  · rename_i group
    cases carried
    have whole : ¬ frame.data.length < 8 := by
      intro short
      have foreign := group.1
      unfold J1939TransportProtocol.foreign at foreign
      simp [short] at foreign
    simp only [List.length_take, List.length_drop]
    omega
  · cases carried

end Frames

inductive EngineOp where
  | frame (clock : Clock) (frame : CanFrame) (suppressTxResponses : Bool)
  | startTransfer (clock : Clock) (targetAddress pgn : Nat) (data : Bytes)
      (channel : Option ChannelId)
  | advance (now targetAddress pgn : Nat) (channel : Option ChannelId)
  | poll (now : Nat)
  | reap (now : Nat)
  | takePending
  | setMyAddress (newAddress : Nat)
  | reset

namespace J1939TransportProtocol

def fresh (myAddress : Nat) (channel : ChannelId) (rxCtsWindow : Nat) : J1939TransportProtocol where
  myAddress := myAddress
  channel := channel
  rxCtsWindow := rxCtsWindow

def perform (engine : J1939TransportProtocol) : EngineOp → J1939TransportProtocol
  | .frame clock frame suppress => (engine.handleRxFrame clock frame suppress).1
  | .startTransfer clock target pgn data channel =>
      (engine.startCmdtTransfer clock target pgn data channel).1
  | .advance now target pgn channel => (engine.advanceCmdtTransfer now target pgn channel).1
  | .poll now => (engine.pollCmdtTimeouts now).1
  | .reap now => engine.reapStaleSessions now
  | .takePending => engine.takePendingTxFrames.1
  | .setMyAddress newAddress =>
      match engine.setMyAddress newAddress with
      | .ok changed => changed
      | .error _ => engine
  | .reset => engine.resetSessions

def engineStep (engine : J1939TransportProtocol) (op : EngineOp) : Option J1939TransportProtocol :=
  some (engine.perform op)

def Reaches (ops : List EngineOp) (first last : J1939TransportProtocol) : Prop :=
  EventRun.run engineStep first ops = some last

def receiveAll (engine : J1939TransportProtocol) :
    List (Clock × CanFrame) → J1939TransportProtocol × List (Option CompletedMessage)
  | [] => (engine, [])
  | (clock, frame) :: rest =>
      match engine.handleRxFrame clock frame false with
      | (next, completed, _) =>
          match next.receiveAll rest with
          | (last, messages) => (last, completed :: messages)

theorem receiveAll_cons {engine next : J1939TransportProtocol}
    {clock : Clock} {frame : CanFrame} {completed : Option CompletedMessage}
    {response : Option CanFrame}
    (handled : engine.handleRxFrame clock frame false = (next, completed, response))
    (rest : List (Clock × CanFrame)) :
    engine.receiveAll ((clock, frame) :: rest) =
      ((next.receiveAll rest).1, completed :: (next.receiveAll rest).2) := by
  rw [receiveAll, handled]

theorem receiveAll_fst (engine : J1939TransportProtocol) (clock : Clock) (frame : CanFrame)
    (rest : List (Clock × CanFrame)) :
    (engine.receiveAll ((clock, frame) :: rest)).1 =
      ((engine.handleRxFrame clock frame false).1.receiveAll rest).1 := rfl

section Announcing

inductive Clearing where
  | refused (marked : J1939TransportProtocol)
  | cleared (engine : J1939TransportProtocol) (predecessor : Option ReassemblySession)

def clearPredecessor (engine : J1939TransportProtocol) (clock : Clock)
    (announced : Announcement) : Clearing :=
  match engine.rxSessions.get? announced.key with
  | some old => .cleared (engine.releaseSessionSlot announced.key (some old)) (some old)
  | none =>
      match engine.livePrefix announced.sourceAddress announced.destinationAddress
          announced.channel with
      | [] => .cleared engine none
      | live :: _ =>
          match engine.checkPrefixCollisionRate announced.route clock.collision with
          | (false, marked) => .refused marked
          | (true, marked) =>
              .cleared (marked.releaseSessionSlot live.1 (some live.2)) (some live.2)

def opening (engine : J1939TransportProtocol) (isBam : Bool) (announced : Announcement)
    (now : Nat) : ReassemblySession :=
  announced.session isBam (if isBam then 0 else engine.rxCtsWindow) now

def place (engine : J1939TransportProtocol) (clock : Clock) (isBam : Bool)
    (announced : Announcement) : J1939TransportProtocol :=
  if engine.overQuota announced then engine
  else
    (engine.makeRoom announced.key).insertSession
      ((engine.makeRoom announced.key).opening isBam announced clock.session)

def addressed (engine : J1939TransportProtocol) (isBam : Bool) (announced : Announcement) : Bool :=
  if isBam then decide (announced.destinationAddress = 255)
  else decide (announced.destinationAddress ≠ 255 ∧
    announced.destinationAddress.toNat = engine.myAddress)

/-- What an announcement does to the receive table. -/
def announce (engine : J1939TransportProtocol) (clock : Clock) (isBam : Bool)
    (announced : Announcement) : J1939TransportProtocol :=
  if engine.addressed isBam announced then
    match engine.clearPredecessor clock announced with
    | .refused marked => marked
    | .cleared cleared _ => cleared.place clock isBam announced
  else engine

/-- An announcement is admitted when its form and its destination are right, the
live session of its route gives way, and the quota leaves a place. -/
def admits (engine : J1939TransportProtocol) (clock : Clock) (isBam : Bool)
    (announced : Announcement) : Bool :=
  announced.wellFormed && (engine.reapStaleSessions clock.reap).addressed isBam announced &&
    match (engine.reapStaleSessions clock.reap).clearPredecessor clock announced with
    | .refused _ => false
    | .cleared cleared _ => !cleared.overQuota announced

def admitted (engine : J1939TransportProtocol) (clock : Clock) (frame : CanFrame) :
    Option (Bool × Announcement) :=
  (announcedBy frame).filter (fun announced => engine.admits clock announced.1 announced.2)

end Announcing

section Receiver

structure SameReceiver (before after : J1939TransportProtocol) : Prop where
  rxSessions : after.rxSessions = before.rxSessions
  perSaSessions : after.perSaSessions = before.perSaSessions
  ambiguousDtDrop : after.ambiguousDtDrop = before.ambiguousDtDrop

theorem SameReceiver.refl (engine : J1939TransportProtocol) : SameReceiver engine engine :=
  ⟨rfl, rfl, rfl⟩

theorem SameReceiver.trans {first second third : J1939TransportProtocol}
    (left : SameReceiver first second) (right : SameReceiver second third) :
    SameReceiver first third where
  rxSessions := right.rxSessions.trans left.rxSessions
  perSaSessions := right.perSaSessions.trans left.perSaSessions
  ambiguousDtDrop := right.ambiguousDtDrop.trans left.ambiguousDtDrop

theorem checkPrefixCollisionRate_marked (engine : J1939TransportProtocol) (route : Route)
    (now : Nat) :
    ∃ marks, (engine.checkPrefixCollisionRate route now).2 =
      { engine with rtsPrefixMarks := marks } := by
  unfold checkPrefixCollisionRate
  split
  · exact ⟨_, rfl⟩
  · split
    · exact ⟨_, rfl⟩
    · split
      · exact ⟨engine.rtsPrefixMarks, rfl⟩
      · exact ⟨_, rfl⟩

theorem storeOutcome_receiver (engine : J1939TransportProtocol) (key : TxKey)
    (session : CmdtSenderSession) (now : Nat) (outcome : SenderOutcome) :
    SameReceiver engine (engine.storeOutcome key session now outcome).1 := by
  cases outcome <;> exact ⟨rfl, rfl, rfl⟩

theorem handleTxCm_receiver (engine : J1939TransportProtocol) (clock : Clock) (frame : CanFrame)
    (sa : UInt8) : SameReceiver engine (engine.handleTxCm clock frame sa).1 := by
  unfold handleTxCm
  dsimp only
  split
  · exact SameReceiver.refl engine
  · split
    · apply storeOutcome_receiver
    · split
      · apply storeOutcome_receiver
      · split
        · exact ⟨rfl, rfl, rfl⟩
        · exact SameReceiver.refl engine

theorem respond_receiver (engine : J1939TransportProtocol) (frames : List CanFrame)
    (error : Option CanFrame) : SameReceiver engine (engine.respond frames error).1 := by
  cases frames <;> exact ⟨rfl, rfl, rfl⟩

theorem respond_txSessions (engine : J1939TransportProtocol) (frames : List CanFrame)
    (error : Option CanFrame) : (engine.respond frames error).1.txSessions = engine.txSessions := by
  cases frames <;> rfl

theorem makeTxRoom_receiver (engine : J1939TransportProtocol) :
    SameReceiver engine engine.makeTxRoom := by
  unfold makeTxRoom
  split
  · split <;> exact ⟨rfl, rfl, rfl⟩
  · exact SameReceiver.refl engine

theorem startCmdtTransfer_receiver (engine : J1939TransportProtocol) (clock : Clock)
    (targetAddress pgn : Nat) (data : Bytes) (channel : Option ChannelId) :
    SameReceiver engine (engine.startCmdtTransfer clock targetAddress pgn data channel).1 := by
  unfold startCmdtTransfer
  split
  · exact SameReceiver.refl engine
  · dsimp only
    have room := makeTxRoom_receiver { (engine.reapStaleTxSessions clock.reap).1 with
      pendingTxFrames := (engine.reapStaleTxSessions clock.reap).1.pendingTxFrames ++
        (engine.reapStaleTxSessions clock.reap).2 }
    split <;> exact ⟨room.rxSessions, room.perSaSessions, room.ambiguousDtDrop⟩

theorem advanceCmdtTransfer_receiver (engine : J1939TransportProtocol)
    (now targetAddress pgn : Nat) (channel : Option ChannelId) :
    SameReceiver engine (engine.advanceCmdtTransfer now targetAddress pgn channel).1 := by
  unfold advanceCmdtTransfer
  dsimp only
  split
  · exact SameReceiver.refl engine
  · split
    · split <;> exact ⟨rfl, rfl, rfl⟩
    · split <;> exact ⟨rfl, rfl, rfl⟩
    · exact ⟨rfl, rfl, rfl⟩

theorem setMyAddress_receiver (engine : J1939TransportProtocol) (newAddress : Nat) :
    SameReceiver engine (engine.perform (.setMyAddress newAddress)) := by
  unfold perform
  dsimp only
  unfold setMyAddress
  by_cases inRange : newAddress ≤ 0xFF
  · rw [if_pos inRange]
    exact ⟨rfl, rfl, rfl⟩
  · rw [if_neg inRange]
    exact SameReceiver.refl engine

end Receiver

section Reception

theorem openRts_receiver (engine : J1939TransportProtocol) (clock : Clock)
    (announced : Announcement) (abort : Option CanFrame) :
    SameReceiver (engine.place clock false announced)
      (engine.openRts clock announced abort).1 := by
  unfold openRts place
  split
  · exact SameReceiver.refl engine
  · cases abort <;> exact ⟨rfl, rfl, rfl⟩

theorem handleBam_eq (engine : J1939TransportProtocol) (clock : Clock) (announced : Announcement) :
    engine.handleBam clock announced = engine.announce clock true announced := by
  unfold handleBam announce clearPredecessor
  by_cases broadcast : announced.destinationAddress = 255
  · have mine : engine.addressed true announced = true := decide_eq_true broadcast
    rw [if_neg (not_not_intro broadcast), if_pos mine]
    cases engine.rxSessions.get? announced.key with
    | some old => rfl
    | none =>
        cases engine.livePrefix announced.sourceAddress announced.destinationAddress
            announced.channel with
        | nil => rfl
        | cons live rest =>
            rw [announced.route_eq]
            rcases engine.checkPrefixCollisionRate (announced.sourceAddress,
              announced.destinationAddress, announced.channel) clock.collision with ⟨passed, marked⟩
            cases passed <;> rfl
  · have foreign : ¬ engine.addressed true announced = true := fun mine =>
      broadcast (of_decide_eq_true mine)
    rw [if_pos broadcast, if_neg foreign]

theorem handleRts_receiver (engine : J1939TransportProtocol) (clock : Clock)
    (announced : Announcement) :
    SameReceiver (engine.announce clock false announced)
      (engine.handleRts clock announced).1 := by
  unfold handleRts announce clearPredecessor
  by_cases foreign : announced.destinationAddress = 255 ∨
      announced.destinationAddress.toNat ≠ engine.myAddress
  · have other : ¬ engine.addressed false announced = true := by
      intro mine
      obtain ⟨specific, same⟩ := of_decide_eq_true mine
      exact foreign.elim specific (fun different => different same)
    rw [if_pos foreign, if_neg other]
    exact SameReceiver.refl engine
  · obtain ⟨specific, same⟩ := not_or.mp foreign
    have mine : engine.addressed false announced = true :=
      decide_eq_true ⟨specific, not_not.mp same⟩
    rw [if_neg foreign, if_pos mine]
    cases engine.rxSessions.get? announced.key with
    | some old => apply openRts_receiver
    | none =>
        cases engine.livePrefix announced.sourceAddress announced.destinationAddress
            announced.channel with
        | nil => apply openRts_receiver
        | cons live rest =>
            rw [announced.route_eq]
            rcases engine.checkPrefixCollisionRate (announced.sourceAddress,
              announced.destinationAddress, announced.channel) clock.collision with ⟨passed, marked⟩
            cases passed with
            | false => exact SameReceiver.refl _
            | true => apply openRts_receiver

inductive Reception (engine : J1939TransportProtocol) (clock : Clock) (frame : CanFrame) :
    J1939TransportProtocol → Option CompletedMessage → Prop
  | idle (silent : announcedBy frame = none) (empty : packetOf frame = none) :
      Reception engine clock frame engine none
  | malformed (isBam : Bool) (announced : Announcement)
      (announces : announcedBy frame = some (isBam, announced)) (empty : packetOf frame = none)
      (malformed : announced.wellFormed = false) : Reception engine clock frame engine none
  | announced (isBam : Bool) (announced : Announcement)
      (announces : announcedBy frame = some (isBam, announced)) (empty : packetOf frame = none)
      (wellFormed : announced.wellFormed = true) :
      Reception engine clock frame
        ((engine.reapStaleSessions clock.reap).announce clock isBam announced) none
  | aborted (silent : announcedBy frame = none) (empty : packetOf frame = none) (key : RxKey) :
      Reception engine clock frame
        ((engine.reapStaleSessions clock.reap).releaseSessionSlot key
          ((engine.reapStaleSessions clock.reap).rxSessions.get? key)) none
  | reaped (silent : announcedBy frame = none) (empty : packetOf frame = none) :
      Reception engine clock frame (engine.reapStaleSessions clock.reap) none
  | packet (silent : announcedBy frame = none) (route : Route) (packet : Packet)
      (carried : packetOf frame = some (route, packet)) :
      Reception engine clock frame (engine.handleTpDt clock frame route.1 route.2.1).1
        (engine.handleTpDt clock frame route.1 route.2.1).2.1

theorem packetOf_eq_none {frame : CanFrame} (control : ofGroup frame pgnTpCm) :
    packetOf frame = none := by
  refine if_neg ?_
  intro packet
  exact absurd (control.2.symm.trans packet.2) (by decide)

theorem announcedBy_eq_none {frame : CanFrame} (packet : ofGroup frame pgnTpDt) :
    announcedBy frame = none := by
  refine if_neg ?_
  intro control
  exact absurd (control.2.symm.trans packet.2) (by decide)

theorem announcedBy_of_targetsSender {frame : CanFrame} (targets : ctrlTargetsSender frame = true) :
    announcedBy frame = none := by
  unfold announcedBy
  split
  · unfold ctrlTargetsSender at targets
    cases bytes : frame.data with
    | nil =>
        rw [bytes] at targets
        cases targets
    | cons control rest =>
        rw [bytes] at targets
        have either := of_decide_eq_true targets
        simp only [List.mem_cons, List.not_mem_nil, or_false] at either
        rw [List.getD_cons_zero]
        rcases either with cts | ack | abort
        · rw [cts]
          rfl
        · rw [ack]
          rfl
        · rw [abort]
          rfl
  · rfl

theorem handleTpCm_reception (engine : J1939TransportProtocol) (clock : Clock) {frame : CanFrame}
    (control : ofGroup frame pgnTpCm) :
    ∃ received, Reception engine clock frame received none ∧ SameReceiver received
      (engine.handleTpCm clock frame (frameSource frame) (frameDestination frame)).1 := by
  have empty := packetOf_eq_none control
  have announces : announcedBy frame =
      if frame.data.getD 0 0 = tpCtrlBam then
        some (true, announcement frame (frameSource frame) (frameDestination frame))
      else if frame.data.getD 0 0 = tpCtrlRts then
        some (false, announcement frame (frameSource frame) (frameDestination frame))
      else none := if_pos control
  unfold handleTpCm
  dsimp only
  by_cases bam : frame.data.getD 0 0 = tpCtrlBam
  · rw [if_pos bam] at announces
    cases form : (announcement frame (frameSource frame) (frameDestination frame)).wellFormed with
    | false =>
        rw [if_pos ⟨Or.inl bam, Bool.false_ne_true⟩]
        exact ⟨engine, .malformed true _ announces empty form, SameReceiver.refl engine⟩
    | true =>
        rw [if_neg (fun rejected => rejected.2 rfl), if_pos bam, handleBam_eq]
        exact ⟨_, .announced true _ announces empty form, SameReceiver.refl _⟩
  · rw [if_neg bam] at announces
    by_cases rts : frame.data.getD 0 0 = tpCtrlRts
    · rw [if_pos rts] at announces
      cases form : (announcement frame (frameSource frame) (frameDestination frame)).wellFormed with
      | false =>
          rw [if_pos ⟨Or.inr rts, Bool.false_ne_true⟩]
          exact ⟨engine, .malformed false _ announces empty form, SameReceiver.refl engine⟩
      | true =>
          rw [if_neg (fun rejected => rejected.2 rfl), if_neg bam, if_pos rts]
          exact ⟨_, .announced false _ announces empty form, handleRts_receiver _ clock _⟩
    · rw [if_neg rts] at announces
      rw [if_neg (fun announcing => announcing.1.elim bam rts), if_neg bam, if_neg rts]
      split
      · exact ⟨_, .aborted announces empty _, SameReceiver.refl _⟩
      · exact ⟨_, .reaped announces empty, SameReceiver.refl _⟩

theorem handleRxFramePdu_reception (engine : J1939TransportProtocol) (clock : Clock)
    (frame : CanFrame) :
    ∃ received, Reception engine clock frame received (engine.handleRxFramePdu clock frame).2.1 ∧
      SameReceiver received (engine.handleRxFramePdu clock frame).1 := by
  unfold handleRxFramePdu
  cases format : foreign frame with
  | true =>
      have ours (group : Nat) : ¬ ofGroup frame group := fun both =>
        absurd (format.symm.trans both.1) (by decide)
      exact ⟨engine, .idle (if_neg (ours _)) (if_neg (ours _)), SameReceiver.refl engine⟩
  | false =>
      dsimp only
      rw [if_neg Bool.false_ne_true]
      by_cases control : (parseJ1939Id frame.arbitrationId).pgn = pgnTpCm
      · rw [if_pos control]
        have group : ofGroup frame pgnTpCm := ⟨format, control⟩
        split
        · rename_i sender
          exact ⟨engine, .idle (announcedBy_of_targetsSender sender.2.1) (packetOf_eq_none group),
            (handleTxCm_receiver engine clock frame _).trans (respond_receiver _ _ _)⟩
        · exact handleTpCm_reception engine clock group
      · rw [if_neg control]
        by_cases data : (parseJ1939Id frame.arbitrationId).pgn = pgnTpDt
        · rw [if_pos data]
          have group : ofGroup frame pgnTpDt := ⟨format, data⟩
          exact ⟨_, .packet (announcedBy_eq_none group)
            (frameSource frame, frameDestination frame, frame.channel) _ (if_pos group),
            SameReceiver.refl _⟩
        · rw [if_neg data]
          exact ⟨engine, .idle (if_neg (fun group => control group.2))
            (if_neg (fun group => data group.2)), SameReceiver.refl engine⟩

theorem handleRxFrame_reception (engine : J1939TransportProtocol) (clock : Clock)
    (frame : CanFrame) (suppress : Bool) :
    ∃ received, Reception engine clock frame received
        (engine.handleRxFrame clock frame suppress).2.1 ∧
      SameReceiver received (engine.handleRxFrame clock frame suppress).1 := by
  obtain ⟨received, reception, same⟩ := handleRxFramePdu_reception engine clock frame
  cases suppress with
  | false => exact ⟨received, reception, same⟩
  | true => exact ⟨received, reception, same.rxSessions, same.perSaSessions, same.ambiguousDtDrop⟩

end Reception

end J1939TransportProtocol

end Ucanlab.J1939
