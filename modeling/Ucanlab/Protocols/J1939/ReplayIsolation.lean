import Ucanlab.Protocols.J1939.SenderPosition

/-!
What a frame heard with its responses suppressed does to the live transmissions. The
suppression drops the responses and everything queued before them, and the control
messages for the sending side are carried out as if they were live.
-/

namespace Ucanlab.J1939

open J1939TransportProtocol

namespace J1939TransportProtocol

/-- Whatever the time, the suppressed frame leaves the sender sessions and the queued
frames as they are. -/
def Isolated (engine : J1939TransportProtocol) (frame : CanFrame) : Prop :=
  ∀ clock, (engine.handleRxFrame clock frame true).1.txSessions = engine.txSessions ∧
    (engine.handleRxFrame clock frame true).1.pendingTxFrames = engine.pendingTxFrames

theorem toSender_control {engine : J1939TransportProtocol} {frame : CanFrame}
    (mine : engine.toSender frame) :
    frame.data.getD 0 0 = tpCtrlCts ∨ frame.data.getD 0 0 = tpCtrlAck ∨
      frame.data.getD 0 0 = tpCtrlAbort := by
  have targets := mine.2.2
  unfold ctrlTargetsSender at targets
  cases data : frame.data with
  | nil =>
      rw [data] at targets
      exact absurd targets Bool.false_ne_true
  | cons control rest =>
      rw [data] at targets
      simpa using of_decide_eq_true targets

theorem receiveCts_touched (engine : J1939TransportProtocol) {session left : CmdtSenderSession}
    {clock : Clock} {packetCount nextSeq : Nat}
    (leaves : (receiveCts session clock packetCount nextSeq).leaves engine clock.emission =
      some left) :
    left.lastActivityTime = clock.session ∨ left.lastActivityTime = clock.emission := by
  unfold receiveCts at leaves
  split at leaves
  · cases leaves
  · split at leaves
    · cases leaves
    · split at leaves
      · rcases holdSession_eq session clock.session with
          ⟨aborted, -⟩ | ⟨-, held, same, -, -, -, touched⟩
        · rw [aborted] at leaves
          cases leaves
        · rw [same] at leaves
          cases leaves
          exact Or.inl touched
      · split at leaves
        · cases leaves
        · cases leaves
          exact Or.inr rfl

theorem receiveAck_leaves (engine : J1939TransportProtocol) (session : CmdtSenderSession)
    (now ackBytes ackPackets ackPgn : Nat) :
    (receiveAck session ackBytes ackPackets ackPgn).leaves engine now = none := by
  unfold receiveAck
  split <;> rfl

theorem handleTxCm_changes {engine : J1939TransportProtocol} {frame : CanFrame}
    (mine : engine.toSender frame) {session : CmdtSenderSession}
    (found : engine.txSessions.get? (engine.senderKey frame) = some session) {clock : Clock}
    (later : session.lastActivityTime < clock.session ∧ session.lastActivityTime < clock.emission) :
    (engine.handleTxCm clock frame (frameSource frame)).1.txSessions.get? (engine.senderKey frame) ≠
      some session := by
  have stored (outcome : SenderOutcome)
      (touched : ∀ left, outcome.leaves engine clock.emission = some left →
        left.lastActivityTime = clock.session ∨ left.lastActivityTime = clock.emission) :
      (engine.storeOutcome (engine.senderKey frame) session clock.emission
        outcome).1.txSessions.get? (engine.senderKey frame) ≠ some session := by
    rw [storeOutcome_txSessions]
    cases leaves : outcome.leaves engine clock.emission with
    | none =>
        rw [Dict.get?_erase_self]
        exact nofun
    | some left =>
        rw [Dict.get?_set_self]
        intro same
        cases same
        have time := touched session leaves
        omega
  rw [handleTxCm_eq engine clock mine.1, found]
  dsimp only
  rcases toSender_control mine with cts | ack | abort
  · rw [if_pos cts]
    exact stored _ (fun left leaves => receiveCts_touched engine leaves)
  · rw [if_neg (by rw [ack]; decide), if_pos ack]
    refine stored _ ?_
    intro left leaves
    rw [receiveAck_leaves] at leaves
    cases leaves
  · rw [if_neg (by rw [abort]; decide), if_neg (by rw [abort]; decide), if_pos abort]
    dsimp only
    rw [Dict.get?_erase_self]
    exact nofun

theorem Isolated.unnamed {engine : J1939TransportProtocol} {frame : CanFrame}
    (isolated : engine.Isolated frame) (mine : engine.toSender frame) :
    engine.txSessions.get? (engine.senderKey frame) = none := by
  cases found : engine.txSessions.get? (engine.senderKey frame) with
  | none => rfl
  | some session =>
      have kept := (isolated (.at (session.lastActivityTime + 1))).1
      rw [handleRxFrame_txSessions, if_pos mine] at kept
      have changed := handleTxCm_changes mine found
        (show _ ∧ session.lastActivityTime < (Clock.at (session.lastActivityTime + 1)).emission from
          ⟨Nat.lt_succ_self _, Nat.lt_succ_self _⟩)
      rw [kept] at changed
      exact absurd found changed

theorem isolated_of_unnamed {engine : J1939TransportProtocol} {frame : CanFrame}
    (empty : engine.pendingTxFrames = [])
    (unnamed : engine.toSender frame → engine.txSessions.get? (engine.senderKey frame) = none) :
    engine.Isolated frame := by
  intro clock
  refine ⟨?_, empty.symm⟩
  rw [handleRxFrame_txSessions]
  split
  · rename_i mine
    rw [handleTxCm_eq engine clock mine.1, unnamed mine]
  · rfl

/-- A suppressed frame leaves the transmissions alone exactly when no frame is queued and it
is no control message that names a live sender session. -/
theorem replay_isolated_iff (engine : J1939TransportProtocol) (frame : CanFrame) :
    engine.Isolated frame ↔ engine.pendingTxFrames = [] ∧
      (engine.toSender frame → engine.txSessions.get? (engine.senderKey frame) = none) := by
  constructor
  · intro isolated
    exact ⟨(isolated (.at 0)).2.symm, isolated.unnamed⟩
  · intro ⟨empty, unnamed⟩
    exact isolated_of_unnamed empty unnamed

def sendingNineBytes : J1939TransportProtocol := (heldNineBytes.take 2).foldl perform
  (fresh 0xF9 ⟨"j1939_ch0", defaultChannel_valid⟩ 0)

def nineBytesAbort : CanFrame :=
  tpCmMessage ⟨"j1939_ch0", defaultChannel_valid⟩ 0xF9 0x10 tpCtrlAbort 1 0xFF 0xFF 0xFF 0xFECA

/-- A replayed abort ends the live transfer and takes its queued packet along. -/
theorem replayed_abort_disturbs :
    ¬ ∀ (engine : J1939TransportProtocol) (frame : CanFrame), engine.Isolated frame := by
  intro isolated
  obtain ⟨sessions, queued⟩ := isolated sendingNineBytes nineBytesAbort (.at 0)
  have packets := congrArg List.length queued
  exact absurd packets (by decide +kernel)

end J1939TransportProtocol

end Ucanlab.J1939
