import Ucanlab.Lib.BitField
import Ucanlab.Uds.IsoTpReassembly

/-!
What the transport segments, a fresh transport on the other side puts together again.
The two compute their thresholds separately: the segmenter makes room for the address
byte in the length of a single frame, the reassembler does not.
-/

namespace Ucanlab.IsoTp

open BitField

section Headers

theorem consecutiveFramePci_nibbles {sequenceNumber : Nat} (small : sequenceNumber < 16) :
    highNibble (consecutiveFramePci sequenceNumber) = pciConsecutiveFrame ∧
      lowNibble (consecutiveFramePci sequenceNumber) = sequenceNumber := by
  have every : ∀ value : Fin 16,
      highNibble (consecutiveFramePci value.val) = pciConsecutiveFrame ∧
        lowNibble (consecutiveFramePci value.val) = value.val := by decide
  exact every ⟨sequenceNumber, small⟩

theorem singleFramePci_nibbles {length : Nat} (short : length ≤ 7) :
    highNibble (singleFramePci length) = pciSingleFrame ∧
      lowNibble (singleFramePci length) = length := by
  have every : ∀ value : Fin 8, highNibble (singleFramePci value.val) = pciSingleFrame ∧
      lowNibble (singleFramePci value.val) = value.val := by decide
  exact every ⟨length, Nat.lt_succ_of_le short⟩

theorem firstFrameHeader_nibbles {length : Nat} (form : length ≤ 4095) :
    highNibble ((firstFrameHeader length).getD 0 0) = pciFirstFrame ∧
      lowNibble ((firstFrameHeader length).getD 0 0) = length / 256 := by
  have every : ∀ value : Fin 16,
      highNibble (UInt8.ofNat ((pciFirstFrame <<< 4) ||| value.val)) = pciFirstFrame ∧
        lowNibble (UInt8.ofNat ((pciFirstFrame <<< 4) ||| value.val)) = value.val := by decide
  have high : (length >>> 8) &&& 0x0F = length / 256 := by
    have field : (length >>> 8) &&& 0x0F = length / 256 % 16 := shiftRight_and_eq length 8 4
    omega
  have nibbles := every ⟨length / 256, by omega⟩
  unfold firstFrameHeader
  rw [high]
  exact nibbles

theorem byte_toNat (value : Nat) : (UInt8.ofNat (value &&& 0xFF)).toNat = value % 256 := by
  have low : value &&& 0xFF = value % 256 := Nat.and_two_pow_sub_one_eq_mod value 8
  rw [low, UInt8.toNat_ofNat']
  exact Nat.mod_mod value 256

theorem firstFrameHeader_reads {length : Nat} (form : length ≤ 4095) :
    (lowNibble ((firstFrameHeader length).getD 0 0) <<< 8) |||
      ((firstFrameHeader length).getD 1 0).toNat = length := by
  have low : ((firstFrameHeader length).getD 1 0).toNat = length % 256 := byte_toNat length
  rw [(firstFrameHeader_nibbles form).2, low,
    shiftLeft_or_eq (show length % 256 < 2 ^ 8 from Nat.mod_lt _ (by decide))]
  omega

theorem firstFrameHeader_plain {length : Nat} (positive : 0 < length) (form : length ≤ 4095)
    (tail : Bytes) :
    ¬ ((firstFrameHeader length ++ tail).length ≥ 6 ∧
      (firstFrameHeader length ++ tail).getD 0 0 = 0x10 ∧
      (firstFrameHeader length ++ tail).getD 1 0 = 0x00) := by
  have reads := firstFrameHeader_reads form
  intro ⟨_, first, second⟩
  change (firstFrameHeader length).getD 0 0 = 0x10 at first
  change (firstFrameHeader length).getD 1 0 = 0x00 at second
  rw [first, second] at reads
  exact absurd reads (Nat.ne_of_lt positive)

theorem firstFrameLength_plain {length : Nat} (positive : 0 < length) (form : length ≤ 4095)
    (tail : Bytes) :
    firstFrameLength (firstFrameHeader length ++ tail) =
      if length < 8 then none else some (length, 2) := by
  unfold firstFrameLength
  rw [if_neg (by simp [firstFrameHeader]), if_neg (firstFrameHeader_plain positive form tail)]
  change (if (lowNibble ((firstFrameHeader length).getD 0 0) <<< 8) |||
    ((firstFrameHeader length).getD 1 0).toNat < 8 then none
      else some ((lowNibble ((firstFrameHeader length).getD 0 0) <<< 8) |||
        ((firstFrameHeader length).getD 1 0).toNat, 2)) = _
  rw [firstFrameHeader_reads form]

theorem escapeFirstFrameHeader_reads {length : Nat} (fits : length < 2 ^ 32) (tail : Bytes) :
    natFromBytes (((escapeFirstFrameHeader length ++ tail).drop 2).take 4) = length := by
  change (((0 * 256 + (UInt8.ofNat ((length >>> 24) &&& 0xFF)).toNat) * 256 +
    (UInt8.ofNat ((length >>> 16) &&& 0xFF)).toNat) * 256 +
    (UInt8.ofNat ((length >>> 8) &&& 0xFF)).toNat) * 256 +
    (UInt8.ofNat (length &&& 0xFF)).toNat = length
  rw [byte_toNat, byte_toNat, byte_toNat, byte_toNat, Nat.shiftRight_eq_div_pow,
    Nat.shiftRight_eq_div_pow, Nat.shiftRight_eq_div_pow]
  omega

theorem escapeFirstFrameHeader_escape (length : Nat) (tail : Bytes) :
    (escapeFirstFrameHeader length ++ tail).length ≥ 6 ∧
      (escapeFirstFrameHeader length ++ tail).getD 0 0 = 0x10 ∧
      (escapeFirstFrameHeader length ++ tail).getD 1 0 = 0x00 :=
  ⟨by simp [escapeFirstFrameHeader], rfl, rfl⟩

theorem firstFrameLength_escape {length : Nat} (long : 4095 < length) (fits : length < 2 ^ 32)
    (tail : Bytes) :
    firstFrameLength (escapeFirstFrameHeader length ++ tail) = some (length, 6) := by
  unfold firstFrameLength
  rw [if_neg (by simp [escapeFirstFrameHeader]),
    if_pos (escapeFirstFrameHeader_escape length tail)]
  dsimp only
  rw [escapeFirstFrameHeader_reads fits, if_neg (by omega)]

end Headers

section Receiving

structure ReceivingTransport.Hears (t : ReceivingTransport) (sender : IsoTpTransport) : Prop where
  rxId : t.rxId = sender.txId
  mode : t.addressingMode = sender.addressingMode
  answers : t.txId ≤ 0x1FFFFFFF

structure ReceivingTransport.Awaits (t : ReceivingTransport) (sender : IsoTpTransport)
    (received rest : Bytes) (sequenceNumber last : Nat) : Prop where
  hears : t.Hears sender
  session : ∃ count, t.sessions.get? (sender.txId, sender.channelId) = some {
    totalBytes := (received ++ rest).length
    expectedSequenceNumber := sequenceNumber
    receivedBytes := received
    lastActivityTime := last
    channelId := sender.channelId
    blockCount := count }

/-- No frame comes later than N_Cr after the one before it. -/
def PunctualFrom (last : Nat) : List (Nat × CanFrame) → Prop
  | [] => True
  | (now, _) :: rest => now - last ≤ timeoutNs ∧ PunctualFrom now rest

def Punctual : List (Nat × CanFrame) → Prop
  | [] => True
  | (now, _) :: rest => PunctualFrom now rest

def deliveredLast (payload : Bytes) : Nat → List (Except FrameError (Option Bytes))
  | 0 => []
  | 1 => [.ok (some payload)]
  | count + 2 => .ok none :: deliveredLast payload (count + 1)

theorem deliveredLast_more (payload : Bytes) {count : Nat} (positive : 0 < count) :
    deliveredLast payload (count + 1) = .ok none :: deliveredLast payload count := by
  cases count with
  | zero => exact absurd positive (Nat.lt_irrefl 0)
  | succ count => rfl

theorem IsoTpTransport.Train.frames_pos {sender : IsoTpTransport} {capacity size : Nat}
    {isFd : Bool} {sequenceNumber : Nat} {rest : Bytes} {frames : List CanFrame}
    (train : sender.Train capacity size isFd sequenceNumber rest frames) (owed : rest ≠ []) :
    0 < frames.length := by
  cases train with
  | done => exact absurd rfl owed
  | next => exact Nat.succ_pos _

theorem IsoTpTransport.Train.ended {sender : IsoTpTransport} {capacity size : Nat} {isFd : Bool}
    {sequenceNumber : Nat} {frames : List CanFrame}
    (train : sender.Train capacity size isFd sequenceNumber [] frames) : frames = [] := by
  cases train with
  | done => rfl
  | next owed => exact absurd rfl owed

theorem IsoTpTransport.Train.only {sender : IsoTpTransport} {capacity size : Nat} {isFd : Bool}
    {sequenceNumber : Nat} {rest : Bytes} {frames : List CanFrame}
    (train : sender.Train capacity size isFd sequenceNumber rest frames) (owed : rest ≠ [])
    (short : rest.length ≤ capacity) :
    ∃ frame, frames = [frame] ∧
      sender.Carries frame (consecutiveFramePci sequenceNumber :: rest.take capacity) size isFd := by
  cases train with
  | done => exact absurd rfl owed
  | next _ carries tail =>
      rw [List.drop_of_length_le short] at tail
      rw [tail.ended]
      exact ⟨_, rfl, carries⟩

def completions (handled : List ReceivingTransport.Handled) :
    List (Except FrameError (Option Bytes)) :=
  handled.map (fun result => result.map Prod.fst)

variable {sender : IsoTpTransport} {t : ReceivingTransport}

theorem AddressingMode.unwrap_wrapNpci (mode : AddressingMode) {bytes : Bytes}
    (nonempty : bytes ≠ []) : mode.unwrap (mode.wrapNpci bytes) = some bytes := by
  cases mode <;> simp [AddressingMode.unwrap, AddressingMode.wrapNpci, nonempty]

theorem ReceivingTransport.Hears.receives (hears : t.Hears sender) {frame : CanFrame}
    {npci : Bytes} {size : Nat} {isFd : Bool} (carries : sender.Carries frame npci size isFd)
    (nonempty : npci ≠ []) (room : 2 ≤ size) :
    ∃ pad, t.receives frame = some (npci ++ pad) ∧
      sender.addressingMode.pciOffset + npci.length + pad.length = size := by
  obtain ⟨⟨pad, bytes⟩, total, arbitrationId, -, -, -⟩ := carries
  refine ⟨pad, ?_, ?_⟩
  · unfold ReceivingTransport.receives
    rw [if_neg (by rw [arbitrationId, hears.rxId, total]; omega), hears.mode, bytes]
    exact AddressingMode.unwrap_wrapNpci _ (List.append_ne_nil_of_left_ne_nil nonempty pad)
  · rw [bytes, AddressingMode.wrapNpci_length, List.length_append] at total
    omega

theorem ReceivingTransport.Hears.sessions (hears : t.Hears sender)
    (sessions : Dict SessionKey IsoTpRxSession) : ({ t with sessions := sessions }).Hears sender :=
  ⟨hears.rxId, hears.mode, hears.answers⟩

theorem ReceivingTransport.Hears.makeRoom (hears : t.Hears sender) (key : SessionKey) :
    (t.makeRoom key).Hears sender := by
  unfold ReceivingTransport.makeRoom
  split
  · split
    · exact hears.sessions _
    · exact hears
  · exact hears

theorem ReceivingTransport.Hears.fcFrame (hears : t.Hears sender) (frame : CanFrame)
    {header : Bytes} (fits : header.length ≤ 7) : ∃ response, t.fcFrame frame header = .ok response := by
  have offset : t.addressingMode.pciOffset ≤ 1 := by
    cases t.addressingMode <;> simp [AddressingMode.pciOffset]
  have eight : (t.addressingMode.wrapNpci (header ++
      List.replicate (8 - t.addressingMode.pciOffset - header.length) 0xCC)).length = 8 := by
    rw [AddressingMode.wrapNpci_length, List.length_append, List.length_replicate]
    omega
  exact ⟨_, CanFrame.create_eight frame.isFd frame.wellFormed.channelId hears.answers eight⟩

theorem ReceivingTransport.Hears.fcCts (hears : t.Hears sender) (frame : CanFrame) :
    ∃ response, t.fcCts frame = .ok response :=
  hears.fcFrame frame (Nat.le_of_ble_eq_true rfl)

/-- What a frame in order adds to its session. -/
theorem take_chunk {rest pad : Bytes} {capacity : Nat}
    (filled : (rest.take capacity ++ pad).length = capacity) :
    (rest.take capacity ++ pad).take (min rest.length (rest.take capacity ++ pad).length) =
      rest.take capacity := by
  rw [filled]
  refine List.take_left' ?_
  rw [List.length_take]
  exact Nat.min_comm _ _

theorem frameKey_of_carries {frame : CanFrame} {npci : Bytes} {size : Nat} {isFd : Bool}
    (carries : sender.Carries frame npci size isFd) :
    frameKey frame = (sender.txId, sender.channelId) := by
  unfold frameKey
  rw [carries.arbitrationId, carries.channelId]

namespace ReceivingTransport

section Dispatch

variable (now : Nat) (frame : CanFrame) {first : UInt8} (tail : Bytes)

theorem handleNpdu_single (pci : highNibble first = pciSingleFrame) :
    t.handleNpdu now frame (first :: tail) = t.handleSingleFrame frame (first :: tail) :=
  if_pos pci

theorem handleNpdu_first (pci : highNibble first = pciFirstFrame) :
    t.handleNpdu now frame (first :: tail) = t.handleFirstFrame now frame (first :: tail) := by
  have single : highNibble first ≠ pciSingleFrame := by
    rw [pci]
    decide
  exact (if_neg single).trans (if_pos pci)

theorem handleNpdu_consecutive (pci : highNibble first = pciConsecutiveFrame) :
    t.handleNpdu now frame (first :: tail) =
      t.handleConsecutiveFrame now frame (first :: tail) := by
  have single : highNibble first ≠ pciSingleFrame := by
    rw [pci]
    decide
  have opening : highNibble first ≠ pciFirstFrame := by
    rw [pci]
    decide
  exact (if_neg single).trans ((if_neg opening).trans (if_pos pci))

end Dispatch

section Consecutive

variable {received rest : Bytes} {sequenceNumber before now capacity size : Nat} {isFd : Bool}
  {frame : CanFrame}

theorem Awaits.handleRxFrame (awaits : t.Awaits sender received rest sequenceNumber before)
    (small : sequenceNumber < 16)
    (carries : sender.Carries frame (consecutiveFramePci sequenceNumber :: rest.take capacity) size
      isFd)
    (room : sender.addressingMode.pciOffset + 1 + capacity = size) (progress : 0 < capacity)
    (timely : now - before ≤ timeoutNs) :
    ∃ count, t.handleRxFrame now frame = t.advanceSession frame {
      totalBytes := (received ++ rest).length
      expectedSequenceNumber := (sequenceNumber + 1) &&& 0x0F
      receivedBytes := received ++ rest.take capacity
      lastActivityTime := now
      channelId := sender.channelId
      blockCount := count } := by
  obtain ⟨count, stored⟩ := awaits.session
  obtain ⟨pad, heard, total⟩ :=
    awaits.hears.receives carries (List.cons_ne_nil _ _) (by omega)
  obtain ⟨high, low⟩ := consecutiveFramePci_nibbles small
  have filled : (rest.take capacity ++ pad).length = capacity := by
    rw [List.length_cons] at total
    rw [List.length_append]
    omega
  refine ⟨count, ?_⟩
  unfold ReceivingTransport.handleRxFrame
  rw [heard, List.cons_append]
  dsimp only
  rw [handleNpdu_consecutive now frame _ high]
  unfold handleConsecutiveFrame
  rw [frameKey_of_carries carries, stored]
  dsimp only
  rw [if_neg (not_not_intro carries.channelId.symm), if_neg (Nat.not_lt_of_le timely),
    List.getD_cons_zero, if_neg (not_not_intro low)]
  unfold IsoTpRxSession.extend
  dsimp only
  rw [List.drop_one, List.tail_cons, List.length_append, Nat.add_sub_cancel_left, take_chunk filled]

theorem Awaits.ends (awaits : t.Awaits sender received rest sequenceNumber before)
    (small : sequenceNumber < 16)
    (carries : sender.Carries frame (consecutiveFramePci sequenceNumber :: rest.take capacity) size
      isFd)
    (room : sender.addressingMode.pciOffset + 1 + capacity = size) (progress : 0 < capacity)
    (timely : now - before ≤ timeoutNs) (short : rest.length ≤ capacity) :
    (t.handleRxFrame now frame).2 = .ok (some (received ++ rest), none) := by
  obtain ⟨count, handled⟩ := awaits.handleRxFrame small carries room progress timely
  rw [handled, List.take_of_length_le short]
  unfold advanceSession
  dsimp only
  rw [if_pos (Nat.le_refl _), List.take_length]

theorem Awaits.more (awaits : t.Awaits sender received rest sequenceNumber before)
    (small : sequenceNumber < 16)
    (carries : sender.Carries frame (consecutiveFramePci sequenceNumber :: rest.take capacity) size
      isFd)
    (room : sender.addressingMode.pciOffset + 1 + capacity = size) (progress : 0 < capacity)
    (timely : now - before ≤ timeoutNs) (long : capacity < rest.length) :
    ∃ next response, t.handleRxFrame now frame = (next, .ok (none, response)) ∧
      next.Awaits sender (received ++ rest.take capacity) (rest.drop capacity)
        ((sequenceNumber + 1) &&& 0x0F) now := by
  obtain ⟨count, handled⟩ := awaits.handleRxFrame small carries room progress timely
  have owing : ¬ (received ++ rest.take capacity).length ≥ (received ++ rest).length := by
    rw [List.length_append, List.length_append, List.length_take]
    omega
  have stored (count : Nat) : (t.storeSession (sender.txId, sender.channelId) {
      totalBytes := (received ++ rest).length
      expectedSequenceNumber := (sequenceNumber + 1) &&& 0x0F
      receivedBytes := received ++ rest.take capacity
      lastActivityTime := now
      channelId := sender.channelId
      blockCount := count }).Awaits sender (received ++ rest.take capacity) (rest.drop capacity)
        ((sequenceNumber + 1) &&& 0x0F) now := by
    refine ⟨awaits.hears.sessions _, count, ?_⟩
    rw [List.append_assoc, List.take_append_drop]
    exact Dict.get?_set_self _ _ _
  rw [handled]
  unfold advanceSession
  dsimp only
  rw [if_neg owing, frameKey_of_carries carries]
  split
  · split
    · obtain ⟨response, built⟩ := awaits.hears.fcCts frame
      refine ⟨_, some response, ?_, stored 0⟩
      rw [built]
      rfl
    · exact ⟨_, none, rfl, stored _⟩
  · exact ⟨_, none, rfl, stored _⟩

end Consecutive

theorem receiveAll_cons {next : ReceivingTransport} {now : Nat} {frame : CanFrame}
    {handled : Handled} (step : t.handleRxFrame now frame = (next, handled))
    (rest : List (Nat × CanFrame)) :
    (t.receiveAll ((now, frame) :: rest)).2 = handled :: (next.receiveAll rest).2 := by
  rw [receiveAll, step]

theorem Awaits.train {received rest : Bytes} {sequenceNumber last capacity size : Nat}
    {isFd : Bool} {frames : List CanFrame} {timed : List (Nat × CanFrame)}
    (awaits : t.Awaits sender received rest sequenceNumber last) (small : sequenceNumber < 16)
    (train : sender.Train capacity size isFd sequenceNumber rest frames)
    (room : sender.addressingMode.pciOffset + 1 + capacity = size) (progress : 0 < capacity)
    (owed : rest ≠ []) (heard : timed.map Prod.snd = frames) (punctual : PunctualFrom last timed) :
    completions (t.receiveAll timed).2 = deliveredLast (received ++ rest) frames.length := by
  induction train generalizing t received last timed with
  | done => exact absurd rfl owed
  | @next sequenceNumber rest frame frames _ carries tail ih =>
      obtain ⟨⟨now, incoming⟩, later, rfl, same, restHeard⟩ := List.map_eq_cons_iff.mp heard
      dsimp only at same
      subst same
      obtain ⟨timely, punctual⟩ := punctual
      by_cases short : rest.length ≤ capacity
      · have ended : frames = [] := by
          rw [List.drop_of_length_le short] at tail
          cases tail
          · rfl
          · contradiction
        have quiet : later = [] := List.map_eq_nil_iff.mp (restHeard.trans ended)
        have handled : t.handleRxFrame now incoming =
            ((t.handleRxFrame now incoming).1, .ok (some (received ++ rest), none)) :=
          Prod.ext rfl (awaits.ends small carries room progress timely short)
        rw [quiet, ended, receiveAll_cons handled]
        rfl
      · obtain ⟨next, response, handled, awaiting⟩ :=
          awaits.more small carries room progress timely (Nat.lt_of_not_le short)
        have left : rest.drop capacity ≠ [] := by
          intro empty
          exact short (List.drop_eq_nil_iff.mp empty)
        have following := ih awaiting (Nat.lt_of_le_of_lt Nat.and_le_right (by decide)) left
          restHeard punctual
        rw [List.append_assoc, List.take_append_drop] at following
        rw [receiveAll_cons handled]
        unfold completions at following ⊢
        rw [List.map_cons, following]
        exact (deliveredLast_more _ (tail.frames_pos left)).symm

section Opening

variable {payload header : Bytes} {capacity size : Nat} {isFd : Bool} {frame : CanFrame}

theorem Hears.first {chunk : Bytes} (hears : t.Hears sender)
    (carries : sender.Carries frame (header ++ chunk) size isFd)
    (pci : highNibble (header.getD 0 0) = pciFirstFrame) (nonempty : 0 < header.length)
    (large : 2 ≤ size) (now : Nat) :
    ∃ pad, t.handleRxFrame now frame = t.handleFirstFrame now frame (header ++ (chunk ++ pad)) ∧
      sender.addressingMode.pciOffset + (header.length + chunk.length) + pad.length = size := by
  have present : header ++ chunk ≠ [] :=
    List.append_ne_nil_of_left_ne_nil (List.ne_nil_of_length_pos nonempty) _
  obtain ⟨pad, heard, total⟩ := hears.receives carries present large
  rw [List.length_append] at total
  refine ⟨pad, ?_, total⟩
  obtain ⟨first, tail, rfl⟩ := List.exists_cons_of_length_pos nonempty
  unfold handleRxFrame
  rw [heard, List.append_assoc]
  exact handleNpdu_first now frame _ pci

theorem Hears.opens (hears : t.Hears sender)
    (carries : sender.Carries frame (header ++ payload.take capacity) size isFd)
    (pci : highNibble (header.getD 0 0) = pciFirstFrame)
    (announces : ∀ tail, firstFrameLength (header ++ tail) = some (payload.length, header.length))
    (nonempty : 0 < header.length)
    (room : sender.addressingMode.pciOffset + header.length + capacity = size)
    (large : 2 ≤ size) (long : capacity < payload.length)
    (buffered : payload.length ≤ t.maxBufferSize) (now : Nat) :
    ∃ next response, t.handleRxFrame now frame = (next, .ok (none, response)) ∧
      next.Awaits sender (payload.take capacity) (payload.drop capacity) 1 now := by
  have chunk : (payload.take capacity).length = capacity := by
    rw [List.length_take]
    omega
  obtain ⟨pad, handled, total⟩ := hears.first carries pci nonempty large now
  have unpadded : pad = [] := List.length_eq_zero_iff.mp (by omega)
  rw [unpadded, List.append_nil] at handled
  have read : ((header ++ payload.take capacity).drop header.length).take payload.length =
      payload.take capacity := by
    rw [List.drop_left, List.take_take, Nat.min_eq_right (Nat.le_of_lt long)]
  have hearing : ((t.reapStaleRxSessions now).makeRoom (frameKey frame)).Hears sender :=
    (hears.sessions _).makeRoom _
  obtain ⟨response, built⟩ := hears.fcCts frame
  rw [handled]
  unfold handleFirstFrame
  rw [announces]
  dsimp only
  rw [if_neg (Nat.not_lt_of_le buffered), read, if_neg (by rw [chunk]; omega)]
  refine ⟨_, some response, Prod.ext rfl (congrArg respond built), hearing.sessions _, 0, ?_⟩
  rw [frameKey_of_carries carries, List.take_append_drop, carries.channelId]
  exact Dict.get?_set_self _ _ _

theorem Hears.several {cfCapacity : Nat} {frames : List CanFrame} {timed : List (Nat × CanFrame)}
    (hears : t.Hears sender)
    (opens : sender.Opens header capacity cfCapacity size isFd payload frames)
    (pci : highNibble (header.getD 0 0) = pciFirstFrame)
    (announces : ∀ tail, firstFrameLength (header ++ tail) = some (payload.length, header.length))
    (nonempty : 0 < header.length)
    (room : sender.addressingMode.pciOffset + header.length + capacity = size)
    (cfRoom : sender.addressingMode.pciOffset + 1 + cfCapacity = size) (progress : 0 < cfCapacity)
    (long : capacity < payload.length) (buffered : payload.length ≤ t.maxBufferSize)
    (heard : timed.map Prod.snd = frames) (punctual : Punctual timed) :
    completions (t.receiveAll timed).2 = deliveredLast payload frames.length := by
  obtain ⟨first, rest, rfl, carries, train⟩ := opens
  obtain ⟨⟨now, incoming⟩, later, rfl, same, restHeard⟩ := List.map_eq_cons_iff.mp heard
  dsimp only at same
  subst same
  have left : payload.drop capacity ≠ [] := by
    intro empty
    exact absurd (List.drop_eq_nil_iff.mp empty) (Nat.not_le_of_lt long)
  obtain ⟨next, response, handled, awaiting⟩ :=
    hears.opens carries pci announces nonempty room (by omega) long buffered now
  have following := awaiting.train (by decide) train cfRoom progress left restHeard punctual
  rw [List.take_append_drop] at following
  rw [receiveAll_cons handled, List.length_cons, deliveredLast_more _ (train.frames_pos left),
    ← following]
  rfl

end Opening

section Single

variable {payload : Bytes} {size : Nat} {isFd : Bool} {frame : CanFrame}

theorem Hears.single (hears : t.Hears sender)
    (carries : sender.Carries frame (singleFramePci payload.length :: payload) 8 isFd)
    (short : payload.length ≤ 7 - sender.addressingMode.pciOffset) (nonempty : payload ≠ [])
    (now : Nat) : (t.handleRxFrame now frame).2 = .ok (some payload, none) := by
  have positive := List.length_pos_of_ne_nil nonempty
  obtain ⟨pad, heard, total⟩ := hears.receives carries (List.cons_ne_nil _ _) (by decide)
  obtain ⟨high, low⟩ :=
    singleFramePci_nibbles (Nat.le_trans short (Nat.sub_le 7 sender.addressingMode.pciOffset))
  have room : 1 ≤ payload.length ∧
      payload.length ≤ (singleFramePci payload.length :: (payload ++ pad)).length - 1 := by
    rw [List.length_cons, List.length_append]
    omega
  unfold handleRxFrame
  rw [heard, List.cons_append]
  dsimp only
  rw [handleNpdu_single now frame _ high]
  unfold handleSingleFrame
  rw [List.getD_cons_zero, low, if_neg (by omega)]
  dsimp only
  rw [if_pos room, List.drop_one, List.tail_cons, List.take_left]

/-- The escape form is taken from eight bytes on. -/
theorem Hears.fdSingle (hears : t.Hears sender)
    (carries : sender.Carries frame (0x00 :: UInt8.ofNat payload.length :: payload) size true)
    (upper : payload.length ≤ 62) (large : 8 < size) (now : Nat) :
    (t.handleRxFrame now frame).2 =
      if payload.length < 8 then .ok (none, none) else .ok (some payload, none) := by
  obtain ⟨pad, heard, total⟩ := hears.receives carries (List.cons_ne_nil _ _) (by omega)
  have reads : (UInt8.ofNat payload.length).toNat = payload.length := by
    rw [UInt8.toNat_ofNat']
    omega
  unfold handleRxFrame
  rw [heard, List.cons_append, List.cons_append]
  dsimp only
  rw [handleNpdu_single now frame _ (by decide)]
  unfold handleSingleFrame
  rw [List.getD_cons_zero, if_pos (by decide), if_neg (not_not_intro carries.isFd),
    if_neg (by rw [carries.size]; omega), if_neg (by simp)]
  dsimp only
  rw [List.getD_cons_succ, List.getD_cons_zero, reads]
  by_cases short : payload.length < 8
  · rw [if_pos (Or.inl short), if_pos short]
  · rw [if_neg (by omega), if_neg short, if_pos (by simp)]
    dsimp only
    rw [List.drop_succ_cons, List.drop_succ_cons, List.drop_zero, List.take_left]

end Single

section Short

variable {payload : Bytes} {size : Nat} {isFd : Bool} {frame : CanFrame}

theorem Hears.shortOpening (hears : t.Hears sender) {capacity : Nat}
    (carries : sender.Carries frame (firstFrameHeader payload.length ++ payload.take capacity) size
      isFd)
    (large : 2 ≤ size) (positive : 0 < payload.length) (short : payload.length < 8) (now : Nat) :
    t.handleRxFrame now frame = (t, .ok (none, none)) := by
  obtain ⟨pad, handled, -⟩ :=
    hears.first carries (firstFrameHeader_nibbles (by omega)).1 (Nat.succ_pos 1) large now
  rw [handled]
  unfold handleFirstFrame
  rw [firstFrameLength_plain positive (by omega), if_pos short]

theorem Hears.orphan (hears : t.Hears sender) (none : t.sessions = []) {sequenceNumber : Nat}
    {chunk : Bytes} (small : sequenceNumber < 16)
    (carries : sender.Carries frame (consecutiveFramePci sequenceNumber :: chunk) size isFd)
    (large : 2 ≤ size) (now : Nat) : t.handleRxFrame now frame = (t, .ok (Option.none, Option.none)) := by
  obtain ⟨pad, heard, -⟩ := hears.receives carries (List.cons_ne_nil _ _) large
  unfold handleRxFrame
  rw [heard, List.cons_append]
  dsimp only
  rw [handleNpdu_consecutive now frame _ (consecutiveFramePci_nibbles small).1]
  unfold handleConsecutiveFrame
  rw [none]
  rfl

end Short

end ReceivingTransport

end Receiving

/-- A message from a transport to a fresh one of the same addressing, within the caps of
both. -/
structure Exchange where
  sender : IsoTpTransport
  receiver : ReceivingTransport
  able : sender.CanSend
  hears : receiver.Hears sender
  fresh : receiver.sessions = []
  isFd : Bool
  brs : Option Bool
  payload : Bytes
  fits : payload.length ≤ if isFd then maxUdsPayloadFd else maxUdsPayloadClassic
  buffered : payload.length ≤ receiver.maxBufferSize

namespace Exchange

/-- The frames of the message, heard in order and in time, deliver the payload with the
last of them. More than 4095 bytes on classic CAN are refused where an address byte is
sent. -/
def RoundTrips (exchange : Exchange) : Prop :=
  match exchange.sender.segmentMessage exchange.payload exchange.isFd exchange.brs with
  | .error error => error = .classicEscapeAddressing ∧ 4095 < exchange.payload.length
  | .ok frames => ∀ timed, timed.map Prod.snd = frames → Punctual timed →
      completions (exchange.receiver.receiveAll timed).2 =
        deliveredLast exchange.payload frames.length

theorem single_heard {timed : List (Nat × CanFrame)} {frame : CanFrame}
    (heard : timed.map Prod.snd = [frame]) : ∃ now, timed = [(now, frame)] := by
  obtain ⟨⟨now, incoming⟩, later, rfl, same, none⟩ := List.map_eq_cons_iff.mp heard
  dsimp only at same
  rw [same, List.map_eq_nil_iff.mp none]
  exact ⟨now, rfl⟩

theorem completions_single (t : ReceivingTransport) (now : Nat) (frame : CanFrame) :
    completions (t.receiveAll [(now, frame)]).2 = [(t.handleRxFrame now frame).2.map Prod.fst] := rfl

theorem roundTrips_of_condition (exchange : Exchange)
    (condition : exchange.sender.addressingMode = .normal ∨ exchange.payload.length ≠ 7) :
    exchange.RoundTrips := by
  have offset := exchange.sender.addressingMode.pciOffset_le
  have unaddressed : exchange.sender.addressingMode.pciOffset = 0 ∨ exchange.payload.length ≠ 7 :=
    condition.imp_left (fun normal => by rw [normal]; rfl)
  have large : 8 ≤ frameSize exchange.isFd := by cases exchange.isFd <;> decide
  have segmented := exchange.able.segmentMessage exchange.fits exchange.brs
  unfold RoundTrips
  generalize exchange.sender.segmentMessage exchange.payload exchange.isFd exchange.brs = outcome
    at segmented
  cases segmented with
  | empty absent =>
      intro timed heard _
      rw [List.map_eq_nil_iff.mp heard]
      rfl
  | single present short carries =>
      intro timed heard _
      obtain ⟨now, rfl⟩ := single_heard heard
      rw [completions_single, exchange.hears.single carries short present]
      rfl
  | fdSingle fd long upper large carries =>
      intro timed heard _
      obtain ⟨now, rfl⟩ := single_heard heard
      rw [completions_single, exchange.hears.fdSingle carries (by omega) large,
        if_neg (by omega)]
      rfl
  | several long beyond form opens =>
      intro timed heard punctual
      have announces (tail : Bytes) : firstFrameLength (firstFrameHeader exchange.payload.length ++
          tail) = some (exchange.payload.length, 2) := by
        rw [firstFrameLength_plain (by omega) form, if_neg (by omega)]
      have beyondFirst : frameSize exchange.isFd - 2 - exchange.sender.addressingMode.pciOffset <
          exchange.payload.length := by
        revert beyond
        cases exchange.isFd
        · intro _
          change 8 - 2 - _ < _
          omega
        · intro beyond
          exact beyond rfl
      exact exchange.hears.several opens (firstFrameHeader_nibbles form).1 announces
        (Nat.succ_pos 1) (show _ + 2 + _ = _ by omega) (by omega) (by omega) beyondFirst
        exchange.buffered heard punctual
  | escape long room opens =>
      intro timed heard punctual
      have fits : exchange.payload.length < 2 ^ 32 := by
        refine Nat.lt_of_le_of_lt exchange.fits ?_
        cases exchange.isFd <;> decide
      have announces := firstFrameLength_escape long fits
      have covered : 6 + exchange.sender.addressingMode.pciOffset ≤ frameSize exchange.isFd := by
        omega
      have beyondFirst : frameSize exchange.isFd - 6 - exchange.sender.addressingMode.pciOffset <
          exchange.payload.length := by
        have small : frameSize exchange.isFd ≤ 64 := by cases exchange.isFd <;> decide
        omega
      exact exchange.hears.several opens (show highNibble 0x10 = _ by decide) announces
        (Nat.succ_pos 5) (show _ + 6 + _ = _ by omega) (by omega) (by omega) beyondFirst
        exchange.buffered heard punctual
  | refused long classic addressed => exact ⟨rfl, long⟩

theorem RoundTrips.condition {exchange : Exchange} (trips : exchange.RoundTrips) :
    exchange.sender.addressingMode = .normal ∨ exchange.payload.length ≠ 7 := by
  by_contra failing
  obtain ⟨addressed, seven⟩ := not_or.mp failing
  rw [not_not] at seven
  have one : exchange.sender.addressingMode.pciOffset = 1 := by
    cases mode : exchange.sender.addressingMode with
    | normal => exact absurd mode addressed
    | extended | mixed => rfl
  have segmented := exchange.able.segmentMessage exchange.fits exchange.brs
  unfold RoundTrips at trips
  generalize exchange.sender.segmentMessage exchange.payload exchange.isFd exchange.brs = outcome
    at segmented trips
  cases segmented with
  | empty absent =>
      rw [absent] at seven
      exact absurd seven (by decide)
  | single _ short _ => omega
  | @fdSingle frame size fd long upper large carries =>
      have heard := trips [(0, frame)] rfl trivial
      rw [completions_single, exchange.hears.fdSingle carries (by omega) large,
        if_pos (by omega)] at heard
      exact absurd heard (by simp [Except.map, deliveredLast])
  | several long beyond form opens =>
      obtain ⟨first, rest, rfl, carries, train⟩ := opens
      have classic : exchange.isFd = false := by
        cases fd : exchange.isFd with
        | false => rfl
        | true =>
            have above := beyond fd
            omega
      rw [classic, one] at train carries
      have left : (exchange.payload.drop (frameSize false - 2 - 1)).length = 2 := by
        rw [List.length_drop, seven]
        rfl
      have owed : exchange.payload.drop (frameSize false - 2 - 1) ≠ [] :=
        List.ne_nil_of_length_pos (by omega)
      have short : (exchange.payload.drop (frameSize false - 2 - 1)).length ≤
          frameSize false - 1 - 1 := by
        rw [left]
        decide
      obtain ⟨second, rfl, follows⟩ := train.only owed short
      have heard := trips [(0, first), (0, second)] rfl ⟨Nat.zero_le _, trivial⟩
      have dropped := exchange.hears.shortOpening carries (by decide) (by omega) (by omega) 0
      have unopened := exchange.hears.orphan exchange.fresh (by decide) follows (by decide) 0
      rw [ReceivingTransport.receiveAll_cons dropped, ReceivingTransport.receiveAll_cons unopened]
        at heard
      exact absurd heard (by simp [completions, Except.map, deliveredLast,
        ReceivingTransport.receiveAll])
  | escape long _ _ => omega
  | refused long _ _ => omega

end Exchange

/-- A message makes the round trip exactly when its transport sends no address byte or it
is not seven bytes long. -/
theorem exchange_round_trips_iff (exchange : Exchange) :
    exchange.RoundTrips ↔
      exchange.sender.addressingMode = .normal ∨ exchange.payload.length ≠ 7 :=
  ⟨Exchange.RoundTrips.condition, Exchange.roundTrips_of_condition exchange⟩

/-- Seven bytes behind the target address 0xF1, on classic CAN. -/
def sevenBytes : Exchange where
  sender := { txId := 0x7E0, channelId := "uds_ch0", addressingMode := .extended 0xF1 }
  receiver := {
    txId := 0x7E8
    channelId := "uds_ch0"
    addressingMode := .extended 0xF1
    rxId := 0x7E0 }
  able := ⟨by decide, by decide, by decide⟩
  hears := ⟨rfl, rfl, by decide⟩
  fresh := rfl
  isFd := false
  brs := none
  payload := [1, 2, 3, 4, 5, 6, 7]
  fits := by decide
  buffered := by decide

/-- Its First Frame announces seven bytes, and is dropped as too short. -/
theorem sevenBytes_lost : ¬ ∀ exchange : Exchange, exchange.RoundTrips := by
  intro trips
  rcases (trips sevenBytes).condition with normal | other
  · exact nomatch normal
  · exact other rfl

end Ucanlab.IsoTp
