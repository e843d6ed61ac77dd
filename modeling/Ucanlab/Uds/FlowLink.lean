import Ucanlab.Lib.EventRun
import Ucanlab.Uds.IsoTpRoundTrip

/-!
A flow-controlled transfer between the asynchronous sender and receiver, over a lossless
link that keeps the order; no timer runs out. Either side counts the block on its own. The
two counts differ by the frames in flight, so the sender stops for a flow control at the
position at which the receiver gives one.
-/

namespace Ucanlab.IsoTp

/-- Both parties and the frames on their way. `waits` counts the WAITs since the last
Clear To Send, `requested` and `emitted` keep the positions in the payload at which the
sender stopped for a flow control and at which the receiver gave one. -/
structure FlowLink where
  sender : SenderState := .starting
  receiver : ReceiverState := .listening
  toReceiver : List CanFrame := []
  toSender : List CanFrame := []
  waits : Nat := 0
  requested : List Nat := []
  emitted : List Nat := []
  deriving DecidableEq

inductive FlowEvent where
  | send
  | senderHears
  | receiverHears
  | answer
  | wait
  deriving DecidableEq, Repr

namespace FlowLink

def senderSends (link : FlowLink) : SenderState × Option CanFrame → FlowLink
  | (sender, frame) =>
      { link with
        sender := sender
        toReceiver := link.toReceiver ++ frame.toList
        requested :=
          match sender with
          | .awaitingFc bytesSent _ _ => link.requested ++ [bytesSent]
          | _ => link.requested }

def receiverAnswers (link : FlowLink) : ReceiverState × Option CanFrame → FlowLink
  | (.collecting totalLen expectedSn blockCount buffer, frame) =>
      { link with
        receiver := .collecting totalLen expectedSn blockCount buffer
        toSender := link.toSender ++ frame.toList
        waits := 0
        emitted := link.emitted ++ [buffer.length] }
  | (receiver, frame) =>
      { link with
        receiver := receiver
        toSender := link.toSender ++ frame.toList }

end FlowLink

/-- The two ends of a connection: either hears the other, they use one frame format, and
both take the payload. -/
structure FlowSetup where
  sender : IsoTpSender
  receiver : IsoTpReceiver
  payload : Bytes
  rxId : receiver.rxId = sender.txId
  txId : sender.rxId = receiver.txId
  heardChannel : ∀ channelId ∈ receiver.channelId, outChannel sender.channelId = channelId
  answeredChannel : ∀ channelId ∈ sender.channelId, outChannel receiver.channelId = channelId
  format : receiver.isFd = sender.isFd
  sends : sender.txId ≤ 0x1FFFFFFF ∧ validChannelId (outChannel sender.channelId) = true ∧
    0 ≤ sender.padByte.getD 0xCC ∧ sender.padByte.getD 0xCC ≤ 0xFF
  answers : receiver.txId ≤ 0x1FFFFFFF ∧ validChannelId (outChannel receiver.channelId) = true ∧
    0 ≤ receiver.padByte.getD 0xCC ∧ receiver.padByte.getD 0xCC ≤ 0xFF
  blockSize : receiver.blockSize ≤ 255
  cap : payload.length ≤ if sender.isFd then maxUdsPayloadFd else maxUdsPayloadClassic
  buffer : payload.length ≤ receiver.maxBufferSize

namespace FlowSetup

variable (setup : FlowSetup)

/-- `wait` puts a WAIT on the link where the sender's limit leaves room for one. -/
def step (link : FlowLink) : FlowEvent → Option FlowLink
  | .send =>
      match link.sender with
      | .starting => some (link.senderSends (setup.sender.start setup.payload))
      | .sending bytesSent seqNum blockCount bs =>
          some (link.senderSends
            (setup.sender.sendNext setup.payload bytesSent seqNum blockCount bs))
      | _ => none
  | .senderHears =>
      match link.sender, link.toSender with
      | .awaitingFc bytesSent seqNum wftCount, frame :: rest =>
          some { link with
            sender := setup.sender.hear setup.payload bytesSent seqNum wftCount (some frame)
            toSender := rest }
      | _, _ => none
  | .receiverHears =>
      match link.toReceiver with
      | [] => none
      | frame :: rest =>
          (setup.receiver.hear link.receiver (some frame)).map (fun receiver =>
            { link with receiver := receiver, toReceiver := rest })
  | .answer => (setup.receiver.answer link.receiver).map link.receiverAnswers
  | .wait =>
      if link.waits < setup.sender.wftMax then
        match setup.receiver.buildFcFrame fsWait with
        | .ok frame =>
            some { link with toSender := link.toSender ++ [frame], waits := link.waits + 1 }
        | .error _ => none
      else none

def Reaches (events : List FlowEvent) (link : FlowLink) : Prop :=
  EventRun.run setup.step {} events = some link

def AtRest (link : FlowLink) : Prop :=
  ∀ event, event ≠ .wait → setup.step link event = none

/-- What the transfer owes: while the sender is in a block its count is the receiver's and
the frames in flight, it stops for a flow control where the receiver gives one, the
receiver returns nothing but the payload, and neither side is left waiting. No run goes on
for ever. -/
structure Delivers : Prop where
  counters : ∀ events link, setup.Reaches events link →
    ∀ bytesSent seqNum blockCount bs, link.sender = .sending bytesSent seqNum blockCount bs →
      ∃ totalLen expectedSn received buffer,
        link.receiver = .collecting totalLen expectedSn received buffer ∧
          blockCount = received + link.toReceiver.length
  requests : ∀ events link, setup.Reaches events link →
    link.emitted <+: link.requested ∧ link.requested.length ≤ link.emitted.length + 1
  obtains : ∀ events link payload, setup.Reaches events link →
    link.receiver = .done payload → payload = setup.payload
  completes : ∀ events link, setup.Reaches events link → setup.AtRest link →
    link.sender = .done ∧ link.receiver = .done setup.payload ∧ link.toReceiver = [] ∧
      link.requested = link.emitted
  terminates : ∀ events link, setup.Reaches events link →
    events.length ≤ (2 * setup.sender.wftMax + 2) * (4 * setup.payload.length + 2) +
      2 * setup.sender.wftMax

end FlowSetup

section Building

/-- The synchronous transport that builds the same frames. -/
def IsoTpSender.transport (s : IsoTpSender) : IsoTpTransport where
  txId := s.txId
  channelId := outChannel s.channelId
  padByte := s.padByte

theorem IsoTpSender.buildFrame_of_emit {s : IsoTpSender} {data : Bytes} {dlc : Nat} {isFd : Bool}
    {frame : CanFrame} (code : (if isFd then lengthToDlc data.length else .ok 8) = .ok dlc)
    (emitted : s.transport.emit data dlc isFd false = .ok frame) :
    s.buildFrame data isFd = .ok frame := by
  unfold IsoTpTransport.emit at emitted
  unfold IsoTpSender.buildFrame
  rw [show s.transport.padByte = s.padByte from rfl,
    show s.transport.addressingMode.wrapNpci data = data from rfl] at emitted
  rw [code]
  dsimp only
  cases padded : padPayload data dlc (s.padByte.getD 0xCC) with
  | error e =>
      rw [padded] at emitted
      cases emitted
  | ok bytes =>
      rw [padded] at emitted
      dsimp only at emitted ⊢
      split at emitted
      · cases emitted
      · rename_i built
        exact built.trans (congrArg Except.ok (Except.ok.inj emitted))

end Building

namespace FlowSetup

variable {setup : FlowSetup}

section Frames

theorem canSend (setup : FlowSetup) : setup.sender.transport.CanSend where
  channel := setup.sends.2.1
  padding := setup.sends.2.2
  inRange := setup.sends.1

variable (setup) in
def Bears (frame : CanFrame) (npci : Bytes) : Prop :=
  ∃ size, setup.sender.transport.Carries frame npci size setup.sender.isFd

theorem builds {npci : Bytes} (fits : npci.length ≤ frameSize setup.sender.isFd)
    (nonempty : 0 < npci.length) :
    ∃ frame, setup.sender.buildFrame npci setup.sender.isFd = .ok frame ∧
      setup.Bears frame npci := by
  have normal (size : Nat) (room : npci.length ≤ size) :
      setup.sender.transport.addressingMode.pciOffset + npci.length ≤ size := by
    change 0 + npci.length ≤ size
    omega
  cases fd : setup.sender.isFd with
  | true =>
      rw [fd] at fits
      obtain ⟨dlc, size, code, capacity, covers⟩ := lengthToDlc_covers npci.length fits
      obtain ⟨frame, built, carries⟩ := setup.canSend.emit capacity (normal size covers) nonempty
        (show true = false → dlc ≤ 8 ∧ false = false from fun impossible =>
          Bool.noConfusion impossible)
      refine ⟨frame, IsoTpSender.buildFrame_of_emit code built, size, ?_⟩
      rw [fd]
      exact carries
  | false =>
      rw [fd] at fits
      obtain ⟨frame, built, carries⟩ := setup.canSend.emit
        (show dlcToLengthTable[8]? = some 8 from rfl) (normal 8 fits) nonempty
        (show false = false → 8 ≤ 8 ∧ false = false from fun _ => ⟨Nat.le_refl 8, rfl⟩)
      refine ⟨frame, IsoTpSender.buildFrame_of_emit rfl built, 8, ?_⟩
      rw [fd]
      exact carries

variable {frame : CanFrame} {npci : Bytes}

theorem Bears.format (bears : setup.Bears frame npci) : frame.isFd = setup.receiver.isFd := by
  obtain ⟨size, carries⟩ := bears
  rw [carries.isFd, setup.format]

theorem Bears.padded (bears : setup.Bears frame npci) :
    ∃ pad, frame.data = npci ++ pad ∧ npci.length + pad.length ≤ frameSize setup.sender.isFd := by
  obtain ⟨size, carries⟩ := bears
  obtain ⟨pad, bytes⟩ := carries.data
  have bounded := frame.data_length_le
  change frame.data = npci ++ pad at bytes
  rw [bytes, carries.isFd, List.length_append] at bounded
  exact ⟨pad, bytes, bounded⟩

theorem Bears.data_eq (bears : setup.Bears frame npci)
    (full : npci.length = frameSize setup.sender.isFd) : frame.data = npci := by
  obtain ⟨pad, bytes, bounded⟩ := bears.padded
  have none : pad = [] := List.eq_nil_of_length_eq_zero (by omega)
  rw [bytes, none, List.append_nil]

theorem Bears.listensTo (bears : setup.Bears frame npci) (long : 2 ≤ npci.length) :
    setup.receiver.listensTo frame = true := by
  obtain ⟨pad, bytes, -⟩ := bears.padded
  obtain ⟨size, carries⟩ := bears
  have channel : hearsChannel setup.receiver.channelId frame = true := by
    cases bound : setup.receiver.channelId with
    | none => rfl
    | some channelId =>
        refine decide_eq_true ?_
        rw [carries.channelId]
        exact setup.heardChannel channelId bound
  have size : 2 ≤ frame.data.length := by
    rw [bytes, List.length_append]
    omega
  unfold IsoTpReceiver.listensTo
  rw [channel, carries.arbitrationId, setup.rxId]
  simpa [IsoTpSender.transport] using size

end Frames

section FlowControls

theorem fcData_length (r : IsoTpReceiver) (flowStatus : Nat) :
    ([UInt8.ofNat ((pciFlowControl <<< 4) ||| (flowStatus &&& 0x0F)),
      UInt8.ofNat (r.blockSize &&& 0xFF), UInt8.ofNat (r.stMin &&& 0xFF)] ++
        List.replicate 5 (UInt8.ofNat (r.padByte.getD 0xCC).toNat)).length = 8 := by
  simp

variable (setup) in
def fc (flowStatus : Nat) : CanFrame :=
  ⟨_, FrameFields.eight_valid setup.receiver.isFd setup.answers.2.1 setup.answers.1
    (fcData_length setup.receiver flowStatus)⟩

theorem buildFcFrame_eq (flowStatus : Nat) :
    setup.receiver.buildFcFrame flowStatus = .ok (setup.fc flowStatus) := by
  have padding := setup.answers.2.2
  unfold IsoTpReceiver.buildFcFrame
  rw [if_neg (not_not_intro padding)]
  exact CanFrame.create_eight setup.receiver.isFd setup.answers.2.1 setup.answers.1
    (fcData_length setup.receiver flowStatus)

variable {bytesSent seqNum wftCount : Nat}

theorem fc_nibbles (setup : FlowSetup) {flowStatus : Nat} (small : flowStatus < 16) :
    highNibble ((setup.fc flowStatus).data.getD 0 0) = pciFlowControl ∧
      lowNibble ((setup.fc flowStatus).data.getD 0 0) = flowStatus := by
  have every : ∀ status : Fin 16,
      highNibble (UInt8.ofNat ((pciFlowControl <<< 4) ||| (status.val &&& 0x0F))) =
          pciFlowControl ∧
        lowNibble (UInt8.ofNat ((pciFlowControl <<< 4) ||| (status.val &&& 0x0F))) =
          status.val := by decide
  exact every ⟨flowStatus, small⟩

theorem hear_fc {flowStatus : Nat} (small : flowStatus < 16) :
    setup.sender.hear setup.payload bytesSent seqNum wftCount (some (setup.fc flowStatus)) =
      if flowStatus = fsOverflow then .failed (.bufferOverflow setup.payload.length)
      else if flowStatus = fsWait then
        if wftCount + 1 > setup.sender.wftMax then
          .failed (.wftMaxExceeded (wftCount + 1) setup.sender.wftMax)
        else .awaitingFc bytesSent seqNum (wftCount + 1)
      else if flowStatus = fsCts then
        .sending bytesSent seqNum 0 ((setup.fc flowStatus).data.getD 1 0).toNat
      else .failed (.invalidFlowStatus flowStatus ((setup.fc flowStatus).data.getD 0 0)) := by
  have channel : hearsChannel setup.sender.channelId (setup.fc flowStatus) = true := by
    cases bound : setup.sender.channelId with
    | none => rfl
    | some channelId => exact decide_eq_true (setup.answeredChannel channelId bound)
  have eight : (setup.fc flowStatus).data.length = 8 := fcData_length setup.receiver flowStatus
  have passed : ¬ ((setup.fc flowStatus).arbitrationId ≠ setup.sender.rxId ∨
      (setup.fc flowStatus).data.length < 3 ∨
      ¬ hearsChannel setup.sender.channelId (setup.fc flowStatus)) := by
    rw [eight, channel, setup.txId]
    change ¬ (setup.receiver.txId ≠ setup.receiver.txId ∨ _)
    simp
  obtain ⟨high, low⟩ := setup.fc_nibbles small
  unfold IsoTpSender.hear
  dsimp only
  rw [if_neg passed, if_neg (not_not_intro high), low]

theorem hear_wait (room : wftCount + 1 ≤ setup.sender.wftMax) :
    setup.sender.hear setup.payload bytesSent seqNum wftCount (some (setup.fc fsWait)) =
      .awaitingFc bytesSent seqNum (wftCount + 1) := by
  rw [hear_fc (by decide), if_neg (by decide), if_pos rfl, if_neg (Nat.not_lt_of_le room)]

theorem hear_cts :
    setup.sender.hear setup.payload bytesSent seqNum wftCount (some (setup.fc fsCts)) =
      .sending bytesSent seqNum 0 setup.receiver.blockSize := by
  have small := setup.blockSize
  have block : ((setup.fc fsCts).data.getD 1 0).toNat = setup.receiver.blockSize := by
    change (UInt8.ofNat (setup.receiver.blockSize &&& 0xFF)).toNat = _
    rw [byte_toNat]
    omega
  rw [hear_fc (by decide), if_neg (by decide), if_neg (by decide), if_pos rfl, block]

end FlowControls

end FlowSetup

namespace FlowSetup

section Positions

variable (setup : FlowSetup)

/-- The message does not fit a single frame. -/
def Long : Prop := (if setup.sender.isFd then 62 else 7) < setup.payload.length

instance : Decidable setup.Long := inferInstanceAs (Decidable (_ < _))

def header : Bytes :=
  if setup.payload.length ≤ 4095 then firstFrameHeader setup.payload.length
  else escapeFirstFrameHeader setup.payload.length

def firstSize : Nat := frameSize setup.sender.isFd - setup.header.length

def capacity : Nat := frameSize setup.sender.isFd - 1

def frames : Nat :=
  (setup.payload.length - setup.firstSize + (setup.capacity - 1)) / setup.capacity

def position (count : Nat) : Nat :=
  min (setup.firstSize + count * setup.capacity) setup.payload.length

def sequenceNumber (count : Nat) : Nat := (count + 1) % 16

def chunk (count : Nat) : Bytes :=
  (setup.payload.drop (setup.position count)).take setup.capacity

theorem frameSize_cases (isFd : Bool) :
    isFd = true ∧ frameSize isFd = 64 ∨ isFd = false ∧ frameSize isFd = 8 := by
  cases isFd with
  | true => exact Or.inl ⟨rfl, rfl⟩
  | false => exact Or.inr ⟨rfl, rfl⟩

theorem capacity_bounds : 7 ≤ setup.capacity ∧ setup.capacity + 1 = frameSize setup.sender.isFd := by
  unfold capacity
  rcases frameSize_cases setup.sender.isFd with ⟨-, size⟩ | ⟨-, size⟩
  all_goals
    rw [size]
    omega

theorem header_length : setup.header.length = if setup.payload.length ≤ 4095 then 2 else 6 := by
  unfold header
  split
  · rfl
  · rfl

theorem firstSize_bounds : 2 ≤ setup.firstSize ∧
    setup.header.length + setup.firstSize = frameSize setup.sender.isFd := by
  have length := setup.header_length
  unfold firstSize
  rcases frameSize_cases setup.sender.isFd with ⟨-, size⟩ | ⟨-, size⟩
  all_goals
    rw [size]
    split at length
    all_goals omega

variable {setup}

theorem Long.firstSize_lt (long : setup.Long) : setup.firstSize < setup.payload.length := by
  have length := setup.header_length
  unfold Long at long
  unfold firstSize
  rcases frameSize_cases setup.sender.isFd with ⟨fd, size⟩ | ⟨fd, size⟩
  all_goals
    rw [fd] at long
    rw [size]
    split at length
    all_goals simp only [if_true, Bool.false_eq_true, if_false] at long
    all_goals omega

theorem lt_frames_iff {count : Nat} :
    count < setup.frames ↔ setup.firstSize + count * setup.capacity < setup.payload.length := by
  obtain ⟨large, -⟩ := setup.capacity_bounds
  unfold frames
  rw [← Nat.succ_le_iff, Nat.le_div_iff_mul_le (by omega), Nat.succ_mul]
  omega

theorem frames_pos (long : setup.Long) : 0 < setup.frames := by
  rw [lt_frames_iff, Nat.zero_mul]
  exact long.firstSize_lt

theorem frames_le : setup.frames ≤ setup.payload.length := by
  refine Nat.le_of_not_lt fun beyond => ?_
  obtain ⟨large, -⟩ := setup.capacity_bounds
  have fits := lt_frames_iff.mp beyond
  have product := Nat.le_mul_of_pos_right setup.payload.length (show 0 < setup.capacity by omega)
  omega

variable {count : Nat}

theorem position_zero (long : setup.Long) : setup.position 0 = setup.firstSize := by
  have less := long.firstSize_lt
  unfold position
  rw [Nat.zero_mul]
  omega

theorem position_eq (more : count < setup.frames) :
    setup.position count = setup.firstSize + count * setup.capacity := by
  have less := lt_frames_iff.mp more
  unfold position
  omega

theorem position_succ (more : count < setup.frames) :
    setup.position (count + 1) =
      min (setup.position count + setup.capacity) setup.payload.length := by
  rw [position_eq more]
  unfold position
  rw [Nat.succ_mul, Nat.add_assoc]

theorem position_lt_iff : setup.position count < setup.payload.length ↔ count < setup.frames := by
  rw [lt_frames_iff]
  unfold position
  omega

theorem take_position (count : Nat) :
    (setup.payload.take (setup.position count)).length = setup.position count := by
  rw [List.length_take]
  exact Nat.min_eq_left (Nat.min_le_right _ _)

theorem chunk_length (more : count < setup.frames) :
    setup.position count + (setup.chunk count).length = setup.position (count + 1) := by
  have less := position_lt_iff.mpr more
  rw [position_succ more]
  unfold chunk
  rw [List.length_take, List.length_drop]
  omega

theorem chunk_pos (more : count < setup.frames) : 0 < (setup.chunk count).length := by
  have less := position_lt_iff.mpr more
  obtain ⟨large, -⟩ := setup.capacity_bounds
  unfold chunk
  rw [List.length_take, List.length_drop]
  omega

theorem take_append_chunk (more : count < setup.frames) :
    setup.payload.take (setup.position count) ++ setup.chunk count =
      setup.payload.take (setup.position (count + 1)) := by
  unfold chunk
  rw [← List.take_add, position_succ more]
  exact List.take_eq_take_min

theorem sequenceNumber_succ (count : Nat) :
    (sequenceNumber count + 1) &&& 0x0F = sequenceNumber (count + 1) := by
  have masked : (sequenceNumber count + 1) &&& 0x0F = (sequenceNumber count + 1) % 16 :=
    Nat.and_two_pow_sub_one_eq_mod _ 4
  rw [masked]
  unfold sequenceNumber
  omega

theorem sequenceNumber_lt (count : Nat) : sequenceNumber count < 16 := Nat.mod_lt _ (by decide)

end Positions

end FlowSetup

section Announcement

variable {length : Nat} (tail : Bytes)

theorem announcedLength_plain (form : length ≤ 4095) (large : 8 ≤ length) {isFd : Bool}
    (fd : isFd = true → 62 < length) :
    announcedLength (firstFrameHeader length ++ tail) isFd = .ok (length, 2) := by
  have notSingle : ¬ (isFd = true ∧ length ≤ 62) := fun both =>
    Nat.not_lt_of_le both.2 (fd both.1)
  have reads : (lowNibble ((firstFrameHeader length ++ tail).getD 0 0) <<< 8) |||
      ((firstFrameHeader length ++ tail).getD 1 0).toNat = length := firstFrameHeader_reads form
  unfold announcedLength
  rw [if_neg (firstFrameHeader_plain (by omega) form tail)]
  dsimp only
  rw [reads, if_neg notSingle, if_neg (Nat.not_lt_of_le large)]

theorem announcedLength_escape (long : 4095 < length) (fits : length < 2 ^ 32) (isFd : Bool) :
    announcedLength (escapeFirstFrameHeader length ++ tail) isFd = .ok (length, 6) := by
  unfold announcedLength
  rw [if_pos (escapeFirstFrameHeader_escape length tail)]
  dsimp only
  rw [escapeFirstFrameHeader_reads fits, if_neg (Nat.not_le_of_lt long)]

end Announcement

namespace FlowSetup

section Hearing

variable {setup : FlowSetup} {frame : CanFrame} {count blockCount : Nat}

theorem Bears.hears_single (bears : setup.Bears frame
      (singleFramePci setup.payload.length :: setup.payload))
    (nonempty : setup.payload ≠ []) (short : setup.payload.length ≤ 7) :
    setup.receiver.hearOpening frame = .done setup.payload := by
  have positive := List.length_pos_of_ne_nil nonempty
  have heard := bears.listensTo (by rw [List.length_cons]; omega)
  obtain ⟨pad, bytes, -⟩ := bears.padded
  obtain ⟨high, low⟩ := singleFramePci_nibbles short
  unfold IsoTpReceiver.hearOpening IsoTpReceiver.hearSingle
  rw [if_neg (not_not_intro heard), bytes, List.cons_append, List.getD_cons_zero, if_pos high, low]
  dsimp only
  rw [if_neg (by omega), if_neg (by rw [List.length_cons, List.length_append]; omega),
    List.drop_one, List.tail_cons, List.take_left]

theorem Bears.hears_fdSingle (bears : setup.Bears frame
      (0x00 :: UInt8.ofNat setup.payload.length :: setup.payload))
    (fd : setup.sender.isFd = true) (long : 8 ≤ setup.payload.length)
    (short : setup.payload.length ≤ 62) :
    setup.receiver.hearOpening frame = .done setup.payload := by
  have heard := bears.listensTo (by rw [List.length_cons, List.length_cons]; omega)
  obtain ⟨pad, bytes, -⟩ := bears.padded
  have format : setup.receiver.isFd = true := setup.format.trans fd
  have byte : (UInt8.ofNat setup.payload.length).toNat = setup.payload.length := by
    rw [UInt8.toNat_ofNat']
    omega
  have length : frame.data.length = setup.payload.length + pad.length + 2 := by
    rw [bytes, List.length_append, List.length_cons, List.length_cons]
    omega
  unfold IsoTpReceiver.hearOpening IsoTpReceiver.hearSingle
  rw [if_neg (not_not_intro heard), length, bytes, List.cons_append, List.cons_append,
    List.getD_cons_zero, if_pos (show highNibble 0x00 = pciSingleFrame from rfl)]
  dsimp only
  rw [if_pos (show lowNibble 0x00 = 0 from rfl), if_neg (fun classic => classic.1 format), if_neg (by omega), if_neg (by omega),
    List.getD_cons_succ, List.getD_cons_zero, byte, if_neg (by omega), if_neg (by omega),
    List.drop_succ_cons, List.drop_one, List.tail_cons, List.take_left]

theorem announcedLength_header (long : setup.Long) (tail : Bytes) :
    announcedLength (setup.header ++ tail) setup.sender.isFd =
      .ok (setup.payload.length, setup.header.length) := by
  have cap := setup.cap
  have length := setup.header_length
  unfold Long at long
  unfold header at length ⊢
  by_cases form : setup.payload.length ≤ 4095
  · rw [if_pos form] at length ⊢
    refine announcedLength_plain tail form ?_ ?_
    · split at long <;> omega
    · intro fd
      rw [fd] at long
      exact long
  · rw [if_neg form] at length ⊢
    refine announcedLength_escape tail (Nat.lt_of_not_le form) ?_ _
    unfold maxUdsPayloadFd maxUdsPayloadClassic at cap
    split at cap <;> omega

theorem header_nibble (setup : FlowSetup) (tail : Bytes) :
    highNibble ((setup.header ++ tail).getD 0 0) = pciFirstFrame := by
  unfold header
  split
  · rename_i form
    exact (firstFrameHeader_nibbles form).1
  · rw [(escapeFirstFrameHeader_escape _ tail).2.1]
    rfl

theorem firstFrame_full (long : setup.Long) :
    (setup.payload.take setup.firstSize).length = setup.firstSize ∧
      (setup.header ++ setup.payload.take setup.firstSize).length =
        frameSize setup.sender.isFd := by
  have less := long.firstSize_lt
  have taken : (setup.payload.take setup.firstSize).length = setup.firstSize := by
    rw [List.length_take]
    omega
  rw [List.length_append, taken]
  exact ⟨rfl, setup.firstSize_bounds.2⟩

theorem Bears.hears_first
    (bears : setup.Bears frame (setup.header ++ setup.payload.take setup.firstSize))
    (long : setup.Long) :
    setup.receiver.hearOpening frame =
      .granting setup.payload.length 1 (setup.payload.take (setup.position 0)) := by
  have less := long.firstSize_lt
  have two := setup.firstSize_bounds.1
  obtain ⟨firstLength, full⟩ := firstFrame_full long
  have bytes := bears.data_eq full
  have heard := bears.listensTo (by rw [List.length_append, firstLength]; omega)
  have notSingle : highNibble (frame.data.getD 0 0) ≠ pciSingleFrame := by
    rw [bytes, setup.header_nibble]
    decide
  have first : highNibble (frame.data.getD 0 0) = pciFirstFrame := by
    rw [bytes, setup.header_nibble]
  have announced : announcedLength frame.data frame.isFd =
      .ok (setup.payload.length, setup.header.length) := by
    rw [bytes, bears.format, setup.format]
    exact announcedLength_header long _
  have taken : (frame.data.drop setup.header.length).take setup.payload.length =
      setup.payload.take setup.firstSize := by
    rw [bytes, List.drop_left]
    exact List.take_of_length_le (by omega)
  unfold IsoTpReceiver.hearOpening IsoTpReceiver.hearFirst
  rw [if_neg (not_not_intro heard), if_neg notSingle, if_pos first,
    if_neg (not_not_intro bears.format), announced]
  dsimp only
  rw [if_neg (Nat.not_lt_of_le setup.buffer), taken, if_neg (by omega), position_zero long]

theorem Bears.chunk_taken
    (bears : setup.Bears frame (consecutiveFramePci (sequenceNumber count) :: setup.chunk count))
    (more : count < setup.frames) :
    (frame.data.drop 1).take (min (setup.payload.length -
      (setup.payload.take (setup.position count)).length) (frame.data.length - 1)) =
        setup.chunk count := by
  obtain ⟨pad, bytes, room⟩ := bears.padded
  obtain ⟨-, size⟩ := setup.capacity_bounds
  have less := position_lt_iff.mpr more
  have chunkLength : (setup.chunk count).length =
      min setup.capacity (setup.payload.length - setup.position count) := by
    unfold chunk
    rw [List.length_take, List.length_drop]
  rw [List.length_cons] at room
  rw [take_position, bytes, List.cons_append, List.drop_one, List.tail_cons, List.length_cons,
    List.length_append]
  by_cases last : setup.payload.length - setup.position count ≤ setup.capacity
  · -- the last chunk is what is missing, whatever pads it
    exact List.take_left' (by omega)
  · have unpadded : pad = [] := List.eq_nil_of_length_eq_zero (by omega)
    rw [unpadded, List.append_nil]
    exact List.take_of_length_le (by rw [List.length_nil]; omega)

theorem Bears.hears_chunk
    (bears : setup.Bears frame (consecutiveFramePci (sequenceNumber count) :: setup.chunk count))
    (more : count < setup.frames) :
    setup.receiver.hearCollecting setup.payload.length (sequenceNumber count) blockCount
        (setup.payload.take (setup.position count)) frame =
      if count + 1 < setup.frames then
        if setup.receiver.blockSize > 0 ∧ blockCount + 1 ≥ setup.receiver.blockSize then
          .granting setup.payload.length (sequenceNumber (count + 1))
            (setup.payload.take (setup.position (count + 1)))
        else .collecting setup.payload.length (sequenceNumber (count + 1)) (blockCount + 1)
          (setup.payload.take (setup.position (count + 1)))
      else .done setup.payload := by
  have positive := chunk_pos more
  have heard := bears.listensTo (by rw [List.length_cons]; omega)
  have taken := bears.chunk_taken more
  obtain ⟨high, low⟩ := consecutiveFramePci_nibbles (sequenceNumber_lt count)
  obtain ⟨pad, bytes, -⟩ := bears.padded
  have pci : highNibble (frame.data.getD 0 0) = pciConsecutiveFrame := by
    rw [bytes]
    exact high
  have number : lowNibble (frame.data.getD 0 0) = sequenceNumber count := by
    rw [bytes]
    exact low
  have passed : ¬ (¬ setup.receiver.listensTo frame = true ∨ frame.isFd ≠ setup.receiver.isFd) := by
    rw [heard, bears.format]
    simp
  have notOpening : ¬ (highNibble (frame.data.getD 0 0) = pciSingleFrame ∨
      highNibble (frame.data.getD 0 0) = pciFirstFrame) := by
    rw [pci]
    decide
  unfold IsoTpReceiver.hearCollecting IsoTpReceiver.hearConsecutive
  rw [if_neg passed, if_neg notOpening, if_neg (not_not_intro pci)]
  dsimp only
  rw [if_neg (not_not_intro number), taken, take_append_chunk more, take_position,
    sequenceNumber_succ]
  by_cases further : count + 1 < setup.frames
  · rw [if_pos further, if_neg (Nat.not_le_of_lt (position_lt_iff.mpr further))]
  · have complete : setup.payload.length ≤ setup.position (count + 1) :=
      Nat.le_of_not_lt (fun less => further (position_lt_iff.mp less))
    rw [if_neg further, if_pos complete, List.take_take, Nat.min_eq_left complete,
      List.take_length]

end Hearing

section Sending

variable {setup : FlowSetup} {count blockCount bs : Nat}

theorem start_single (nonempty : setup.payload ≠ []) (short : ¬ setup.Long) :
    ∃ frame, setup.sender.start setup.payload = (.done, some frame) ∧
      setup.receiver.hearOpening frame = .done setup.payload := by
  have positive := List.length_pos_of_ne_nil nonempty
  have cap := setup.cap
  have large : 8 ≤ frameSize setup.sender.isFd := by cases setup.sender.isFd <;> decide
  unfold Long at short
  unfold IsoTpSender.start
  dsimp only
  rw [if_neg (by omega), if_neg (Nat.not_lt_of_le cap)]
  by_cases plain : setup.payload.length ≤ 7
  · have fits : (singleFramePci setup.payload.length :: setup.payload).length ≤
        frameSize setup.sender.isFd := by
      rw [List.length_cons]
      omega
    obtain ⟨frame, built, bears⟩ := setup.builds fits (Nat.succ_pos _)
    rw [if_pos plain, built]
    exact ⟨frame, rfl, bears.hears_single nonempty plain⟩
  · cases fd : setup.sender.isFd with
    | false =>
        rw [fd] at short
        exact absurd (Nat.lt_of_not_le plain) short
    | true =>
        rw [fd] at short
        have upper : setup.payload.length ≤ 62 := Nat.le_of_not_lt short
        have fits : (0x00 :: UInt8.ofNat setup.payload.length :: setup.payload).length ≤
            frameSize setup.sender.isFd := by
          rw [fd, List.length_cons, List.length_cons]
          change _ ≤ 64
          omega
        obtain ⟨frame, built, bears⟩ := setup.builds fits (Nat.succ_pos _)
        rw [fd] at built
        rw [if_neg plain, if_pos ⟨rfl, upper⟩, built]
        exact ⟨frame, rfl, bears.hears_fdSingle fd (by omega) upper⟩

theorem start_first (long : setup.Long) :
    ∃ frame, setup.sender.start setup.payload =
        (.awaitingFc (setup.position 0) (sequenceNumber 0) 0, some frame) ∧
      setup.receiver.hearOpening frame = .granting setup.payload.length (sequenceNumber 0)
        (setup.payload.take (setup.position 0)) := by
  have cap := setup.cap
  have less := long.firstSize_lt
  have filled := setup.firstSize_bounds
  obtain ⟨firstLength, full⟩ := firstFrame_full long
  obtain ⟨frame, built, bears⟩ := setup.builds (Nat.le_of_eq full) (by omega)
  have sent : setup.sender.sendFirst setup.payload setup.header setup.firstSize =
      (.awaitingFc (setup.position 0) (sequenceNumber 0) 0, some frame) := by
    unfold IsoTpSender.sendFirst
    dsimp only
    rw [built, firstLength, if_pos less, position_zero long]
    rfl
  refine ⟨frame, ?_, bears.hears_first long⟩
  have started : setup.sender.start setup.payload =
      setup.sender.sendFirst setup.payload setup.header setup.firstSize := by
    have beyond : ¬ setup.payload.length ≤ 7 ∧
        ¬ (setup.sender.isFd = true ∧ setup.payload.length ≤ 62) := by
      unfold Long at long
      cases fd : setup.sender.isFd with
      | true =>
          rw [fd] at long
          change 62 < _ at long
          omega
      | false =>
          rw [fd] at long
          exact ⟨Nat.not_le_of_lt long, fun both => Bool.false_ne_true both.1⟩
    unfold IsoTpSender.start
    dsimp only
    rw [if_neg (by omega), if_neg (Nat.not_lt_of_le cap), if_neg beyond.1, if_neg beyond.2]
    unfold firstSize header
    by_cases form : setup.payload.length ≤ 4095
    · rw [if_pos form, if_pos form]
      cases setup.sender.isFd <;> rfl
    · rw [if_neg form, if_neg form]
      cases setup.sender.isFd <;> rfl
  rw [started, sent]

theorem sendNext_eq (more : count < setup.frames) :
    ∃ frame, setup.sender.sendNext setup.payload (setup.position count) (sequenceNumber count)
        blockCount bs =
          (if count + 1 < setup.frames then
            if bs > 0 ∧ blockCount + 1 ≥ bs then
              .awaitingFc (setup.position (count + 1)) (sequenceNumber (count + 1)) 0
            else .sending (setup.position (count + 1)) (sequenceNumber (count + 1))
              (blockCount + 1) bs
          else .done, some frame) ∧
      setup.Bears frame (consecutiveFramePci (sequenceNumber count) :: setup.chunk count) := by
  obtain ⟨-, size⟩ := setup.capacity_bounds
  have bounded : (setup.chunk count).length ≤ setup.capacity := List.length_take_le _ _
  have fits : (consecutiveFramePci (sequenceNumber count) :: setup.chunk count).length ≤
      frameSize setup.sender.isFd := by
    rw [List.length_cons]
    omega
  obtain ⟨frame, built, bears⟩ := setup.builds fits (Nat.succ_pos _)
  refine ⟨frame, ?_, bears⟩
  have capacity : (if setup.sender.isFd then 63 else 7) = setup.capacity := by
    unfold FlowSetup.capacity
    cases setup.sender.isFd <;> rfl
  unfold IsoTpSender.sendNext
  dsimp only
  rw [capacity]
  change sendThen (setup.sender.buildFrame
    (consecutiveFramePci (sequenceNumber count) :: setup.chunk count) setup.sender.isFd)
      (if setup.position count + (setup.chunk count).length < setup.payload.length then
        if bs > 0 ∧ blockCount + 1 ≥ bs then
          .awaitingFc (setup.position count + (setup.chunk count).length)
            ((sequenceNumber count + 1) &&& 0x0F) 0
        else .sending (setup.position count + (setup.chunk count).length)
          ((sequenceNumber count + 1) &&& 0x0F) (blockCount + 1) bs
      else .done) = _
  rw [built, chunk_length more, sequenceNumber_succ]
  by_cases further : count + 1 < setup.frames
  · rw [if_pos further, if_pos (position_lt_iff.mpr further)]
    rfl
  · rw [if_neg further, if_neg (fun less => further (position_lt_iff.mp less))]
    rfl

end Sending

end FlowSetup

end Ucanlab.IsoTp
