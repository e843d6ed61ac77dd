import Ucanlab.Protocols.J1939.Engine

/-!
A broadcast read back: the frames the sending engine cuts a payload into, heard in
order by a new engine, give the payload once, with the last of them.
-/

namespace Ucanlab.J1939

open J1939TransportProtocol

def withinT1 (before after : Clock × CanFrame) : Prop :=
  after.1.session - before.1.session ≤ t1TimeoutNs

instance (before after : Clock × CanFrame) : Decidable (withinT1 before after) :=
  inferInstanceAs (Decidable (_ ≤ _))

structure Broadcast where
  sender : J1939TransportProtocol
  channel : Option ChannelId
  pgn : Nat
  encodable : pgn < 2 ^ 24
  data : Bytes
  size : 1 ≤ data.length ∧ data.length ≤ maxTpBytes
  receiver : J1939TransportProtocol
  idle : receiver.rxSessions = []
  uncounted : receiver.perSaSessions = fun _ => 0

namespace Broadcast

variable (setup : Broadcast)

def place : ChannelId := setup.channel.getD setup.sender.channel

def packets : Nat := (setup.data.length + 6) / 7

def message : CompletedMessage where
  sourceAddress := setup.sender.addressByte
  destinationAddress := 255
  pgn := setup.pgn
  data := setup.data
  channel := setup.place

def session (received time : Nat) : ReassemblySession where
  sourceAddress := setup.sender.addressByte
  destinationAddress := 255
  targetPgn := setup.pgn
  totalBytes := setup.data.length
  totalPackets := setup.packets
  isBam := true
  expectedSequence := received + 1
  receivedBytes := setup.data.take (7 * received)
  lastActivityTime := time
  channel := setup.place

def listening (received time : Nat) : J1939TransportProtocol :=
  { setup.receiver with
    rxSessions := [((setup.session received time).key, setup.session received time)]
    perSaSessions := fun address => if address = setup.sender.addressByte then 1 else 0 }

def announcementFrame : CanFrame :=
  setup.sender.bamFrame setup.place setup.pgn setup.data.length

def packetFrame (seq : Nat) : CanFrame := setup.sender.bamDtFrame setup.place setup.data seq

theorem packets_bounds : 1 ≤ setup.packets ∧ setup.packets ≤ 255 := by
  have size := setup.size
  unfold packets
  unfold maxTpBytes at size
  omega

theorem started : setup.sender.startTpBam setup.pgn setup.data setup.channel =
    .ok (setup.announcementFrame :: (List.range' 1 setup.packets).map setup.packetFrame) := by
  have size := setup.size
  have encodable := setup.encodable
  unfold startTpBam
  rw [if_neg (by omega), if_neg (by omega)]
  rfl

theorem announcement_heard (clock : Clock) :
    setup.receiver.handleRxFrame clock setup.announcementFrame false =
      (setup.listening 0 clock.session, none, none) := by
  have announced := announcement_of_transfer setup.place 255 setup.sender.addressByte
    setup.sender.addressByte 255 tpCtrlBam 0xFF setup.size.2 setup.encodable
  change announcement setup.announcementFrame setup.sender.addressByte 255 = _ at announced
  have opened : (announcement setup.announcementFrame setup.sender.addressByte 255).session true 0
      clock.session = setup.session 0 clock.session := by
    rw [announced]
    rfl
  have wellFormed : (announcement setup.announcementFrame setup.sender.addressByte 255).wellFormed =
      true := by
    rw [announced]
    exact wellFormed_of_size setup.size rfl
  have quota : setup.receiver.perSaSessions setup.sender.addressByte < maxSessionsPerSa := by
    rw [setup.uncounted]
    exact (by decide : 0 < maxSessionsPerSa)
  have dispatched : setup.receiver.handleRxFrame clock setup.announcementFrame false =
      ((setup.receiver.handleTpCm clock setup.announcementFrame setup.sender.addressByte 255).1, none,
        (setup.receiver.handleTpCm clock setup.announcementFrame setup.sender.addressByte 255).2) := by
    unfold announcementFrame bamFrame
    rw [handleRxFrame_tpCm]
    refine if_neg ?_
    intro targets
    exact absurd targets.2.1 (by rw [ctrlTargetsSender_tpCmData]; decide)
  rw [dispatched, handleTpCm_bam setup.idle clock rfl wellFormed quota rfl]
  dsimp only
  rw [opened]
  refine Prod.ext ?_ rfl
  unfold insertSession listening
  rw [setup.idle, setup.uncounted]
  rfl

theorem listening_released (received time : Nat) :
    (setup.listening received time).releaseSessionSlot (setup.session received time).key
      (some (setup.session received time)) = setup.receiver := by
  have counted : (fun address => if address = setup.sender.addressByte then
      (setup.listening received time).perSaSessions address - 1
        else (setup.listening received time).perSaSessions address) =
          setup.receiver.perSaSessions := by
    rw [setup.uncounted]
    funext address
    change (if address = setup.sender.addressByte then
      (if address = setup.sender.addressByte then 1 else 0) - 1
        else if address = setup.sender.addressByte then 1 else 0) = 0
    split <;> rfl
  rw [releaseSessionSlot_only rfl]
  change { setup.listening received time with
    rxSessions := []
    perSaSessions := fun address => if address = setup.sender.addressByte then
      (setup.listening received time).perSaSessions address - 1
        else (setup.listening received time).perSaSessions address } = _
  rw [counted, ← setup.idle]
  rfl

theorem packet_heard {received : Nat} (clock : Clock) {time : Nat}
    (unfinished : received < setup.packets) (timely : clock.session - time ≤ t1TimeoutNs) :
    (setup.listening received time).handleRxFrame clock (setup.packetFrame (received + 1)) false =
      if received + 1 = setup.packets then (setup.receiver, some setup.message, none)
      else (setup.listening (received + 1) clock.session, none, none) := by
  obtain ⟨more, few⟩ := setup.packets_bounds
  have sequence : ((setup.packetFrame (received + 1)).data.getD 0 0).toNat = received + 1 := by
    change (UInt8.ofNat (received + 1)).toNat = received + 1
    rw [ofNat_toNat_mod]
    omega
  have extended : (setup.session received time).append
      (((setup.packetFrame (received + 1)).data.drop 1).take 7) clock.session =
        setup.session (received + 1) clock.session := append_chunk clock.session rfl rfl unfinished
  have complete : (setup.session (received + 1) clock.session).complete =
      decide (received + 1 = setup.packets) := complete_of_filled rfl rfl rfl rfl unfinished
  have only : (setup.listening received time).rxSessions =
      [((setup.session received time).key, setup.session received time)] := rfl
  have parties : (setup.session received time).sourceAddress = setup.sender.addressByte ∧
      (setup.session received time).destinationAddress = 255 ∧
      (setup.session received time).channel = (setup.packetFrame (received + 1)).channel :=
    ⟨rfl, rfl, rfl⟩
  have dispatched : (setup.listening received time).handleRxFrame clock
      (setup.packetFrame (received + 1)) false =
        (setup.listening received time).handleTpDt clock (setup.packetFrame (received + 1))
          setup.sender.addressByte 255 :=
    handleRxFrame_tpDt _ clock _ _ _ (tpDtData_length _ _)
  have engine : { setup.listening received time with
      rxSessions := [((setup.session received time).key,
        setup.session (received + 1) clock.session)] } =
          setup.listening (received + 1) clock.session := rfl
  rw [dispatched, handleTpDt_in_order clock only parties timely sequence]
  dsimp only
  rw [extended, complete, engine]
  by_cases last : received + 1 = setup.packets
  · rw [if_pos (decide_eq_true last), if_pos last]
    have whole : (setup.session (received + 1) clock.session).receivedBytes = setup.data := by
      refine List.take_of_length_le ?_
      unfold packets at last
      omega
    refine Prod.ext (setup.listening_released _ _) (Prod.ext (congrArg some ?_) rfl)
    rw [whole]
    change CompletedMessage.mk _ _ _ (setup.data.take setup.data.length) _ = _
    rw [List.take_length]
    rfl
  · rw [if_neg (fun all => last (of_decide_eq_true all)), if_neg last]
    rfl

theorem packets_heard {left received time : Nat} (all : received + (left + 1) = setup.packets)
    {before : Clock × CanFrame} (heard : before.1.session = time)
    {timed : List (Clock × CanFrame)}
    (carried : timed.map Prod.snd = (List.range' (received + 1) (left + 1)).map setup.packetFrame)
    (timely : (before :: timed).IsChain withinT1) :
    (setup.listening received time).receiveAll timed =
      (setup.receiver, List.replicate left none ++ [some setup.message]) := by
  induction left generalizing received time before timed with
  | zero =>
      obtain ⟨⟨clock, frame⟩, rest, rfl, same, following⟩ := List.map_eq_cons_iff.mp carried
      obtain rfl := List.map_eq_nil_iff.mp following
      have inTime : clock.session - time ≤ t1TimeoutNs :=
        heard ▸ (List.isChain_cons_cons.mp timely).1
      have unfinished : received < setup.packets := by omega
      have answer := setup.packet_heard clock unfinished inTime
      rw [if_pos all] at answer
      dsimp only at same
      rw [same, receiveAll_cons answer]
      rfl
  | succ left ih =>
      obtain ⟨⟨clock, frame⟩, rest, rfl, same, following⟩ := List.map_eq_cons_iff.mp carried
      obtain ⟨within, later⟩ := List.isChain_cons_cons.mp timely
      have inTime : clock.session - time ≤ t1TimeoutNs := heard ▸ within
      have unfinished : received < setup.packets := by omega
      have answer := setup.packet_heard clock unfinished inTime
      rw [if_neg (by omega)] at answer
      have remaining := ih (by omega) rfl following later
      dsimp only at same
      rw [same, receiveAll_cons answer, remaining]
      rfl

theorem all_heard {timed : List (Clock × CanFrame)}
    (carried : timed.map Prod.snd =
      setup.announcementFrame :: (List.range' 1 setup.packets).map setup.packetFrame)
    (timely : timed.IsChain withinT1) :
    setup.receiver.receiveAll timed =
      (setup.receiver, List.replicate setup.packets none ++ [some setup.message]) := by
  obtain ⟨more, -⟩ := setup.packets_bounds
  obtain ⟨left, packets⟩ : ∃ left, setup.packets = left + 1 := ⟨setup.packets - 1, by omega⟩
  obtain ⟨⟨clock, frame⟩, rest, rfl, same, following⟩ := List.map_eq_cons_iff.mp carried
  rw [packets] at following
  have remaining := setup.packets_heard (by omega) rfl following timely
  dsimp only at same
  rw [same, receiveAll_cons (setup.announcement_heard clock), remaining, packets]
  rfl

end Broadcast

/-- A payload of admissible length goes into a broadcast and comes out of it once,
with the last frame, and leaves no session behind. -/
theorem bam_round_trip (sender : J1939TransportProtocol) {pgn : Nat} (encodable : pgn < 2 ^ 24)
    {data : Bytes} (size : 1 ≤ data.length ∧ data.length ≤ maxTpBytes)
    (channel : Option ChannelId) (myAddress rxCtsWindow : Nat) (place : ChannelId) :
    ∃ frames, sender.startTpBam pgn data channel = .ok frames ∧
      ∀ timed : List (Clock × CanFrame), timed.map Prod.snd = frames →
        timed.IsChain withinT1 →
        ((fresh myAddress place rxCtsWindow).receiveAll timed).2 =
            List.replicate (frames.length - 1) none ++ [some {
              sourceAddress := sender.addressByte
              destinationAddress := 255
              pgn := pgn
              data := data
              channel := channel.getD sender.channel }] ∧
          ((fresh myAddress place rxCtsWindow).receiveAll timed).1.rxSessions = [] := by
  let setup : Broadcast := {
    sender := sender
    channel := channel
    pgn := pgn
    encodable := encodable
    data := data
    size := size
    receiver := fresh myAddress place rxCtsWindow
    idle := rfl
    uncounted := rfl }
  refine ⟨_, setup.started, ?_⟩
  intro timed carried timely
  have heard : (fresh myAddress place rxCtsWindow).receiveAll timed = _ :=
    setup.all_heard carried timely
  have length : (setup.announcementFrame ::
      (List.range' 1 setup.packets).map setup.packetFrame).length - 1 = setup.packets := by
    simp
  rw [heard, length]
  exact ⟨rfl, rfl⟩

theorem bam_round_trip_ten :
    ∃ frames, (fresh 0x21 ⟨"j1939_ch0", by decide⟩ 0).startTpBam 0xFECA
        [1, 2, 3, 4, 5, 6, 7, 8, 9, 10] none = .ok frames ∧
      ∀ timed : List (Clock × CanFrame), timed.map Prod.snd = frames →
        timed.IsChain withinT1 →
        ((fresh 0xF9 ⟨"j1939_ch0", by decide⟩ 0).receiveAll timed).2 =
            List.replicate (frames.length - 1) none ++ [some {
              sourceAddress := 0x21
              destinationAddress := 255
              pgn := 0xFECA
              data := [1, 2, 3, 4, 5, 6, 7, 8, 9, 10]
              channel := ⟨"j1939_ch0", by decide⟩ }] ∧
          ((fresh 0xF9 ⟨"j1939_ch0", by decide⟩ 0).receiveAll timed).1.rxSessions = [] :=
  bam_round_trip (fresh 0x21 ⟨"j1939_ch0", by decide⟩ 0) (by decide) (by decide) none 0xF9 0 _

end Ucanlab.J1939
