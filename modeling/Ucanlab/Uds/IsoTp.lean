import Ucanlab.Core.CanFrame

/-!
ISO 15765-2 segmentation, the transmit half of the synchronous transport. The
addressing mode carries its address byte, so a transport in normal addressing
has none and the other two modes always have one.
-/

namespace Ucanlab.IsoTp

open Ucanlab

def pciSingleFrame : Nat := 0x0
def pciFirstFrame : Nat := 0x1
def pciConsecutiveFrame : Nat := 0x2
def pciFlowControl : Nat := 0x3

def maxUdsPayloadClassic : Nat := 4096
def maxUdsPayloadFd : Nat := 1048576

inductive AddressingMode where
  | normal
  | extended (addressByte : UInt8)
  | mixed (addressByte : UInt8)
  deriving DecidableEq, Repr

structure IsoTpTransport where
  txId : Nat
  channelId : String
  padByte : Option Int := some 0xCC
  addressingMode : AddressingMode := .normal
  brs : Bool := false
  deriving DecidableEq, Repr

inductive IsoTpError where
  | payloadTooLarge (requestedLength maxBufferSize : Nat)
  | classicEscapeAddressing
  | frame (error : FrameError)
  deriving DecidableEq, Repr

def AddressingMode.pciOffset : AddressingMode → Nat
  | .normal => 0
  | .extended _ => 1
  | .mixed _ => 1

def AddressingMode.wrapNpci : AddressingMode → Bytes → Bytes
  | .normal, payload => payload
  | .extended addressByte, payload => addressByte :: payload
  | .mixed addressByte, payload => addressByte :: payload

/-- Wrap, pad and build one frame, as every branch of the segmenter does. -/
def IsoTpTransport.emit (t : IsoTpTransport) (npci : Bytes) (dlc : Nat)
    (isFd brs : Bool) : Except IsoTpError CanFrame :=
  match padPayload (t.addressingMode.wrapNpci npci) dlc (t.padByte.getD 0xCC) with
  | .error e => .error (.frame e)
  | .ok padded =>
      match CanFrame.new
        { channelId := t.channelId
          arbitrationId := t.txId
          dlc := dlc
          data := padded
          isExtended := decide (t.txId > 0x7FF)
          isFd := isFd
          brs := brs
          direction := .tx } with
      | .error e => .error (.frame e)
      | .ok frame => .ok frame

def singleFramePci (length : Nat) : UInt8 :=
  UInt8.ofNat ((pciSingleFrame <<< 4) ||| (length &&& 0x0F))

def firstFrameHeader (length : Nat) : Bytes :=
  [UInt8.ofNat ((pciFirstFrame <<< 4) ||| ((length >>> 8) &&& 0x0F)),
    UInt8.ofNat (length &&& 0xFF)]

/-- The 32-bit escape form: `10 00` and the big-endian length. -/
def escapeFirstFrameHeader (length : Nat) : Bytes :=
  [0x10, 0x00,
    UInt8.ofNat ((length >>> 24) &&& 0xFF), UInt8.ofNat ((length >>> 16) &&& 0xFF),
    UInt8.ofNat ((length >>> 8) &&& 0xFF), UInt8.ofNat (length &&& 0xFF)]

def consecutiveFramePci (sequenceNumber : Nat) : UInt8 :=
  UInt8.ofNat ((pciConsecutiveFrame <<< 4) ||| (sequenceNumber &&& 0x0F))

/-- The consecutive-frame loop. Each round takes `capacity` bytes, so a fuel of
one round per remaining byte is never used up before the data is. -/
def IsoTpTransport.consecutiveFrames (t : IsoTpTransport) (capacity dlc : Nat)
    (isFd brs : Bool) : Nat → Nat → Bytes → Except IsoTpError (List CanFrame)
  | 0, _, _ => .ok []
  | fuel + 1, sequenceNumber, rest =>
      if rest = [] then .ok []
      else
        match t.emit (consecutiveFramePci sequenceNumber :: rest.take capacity) dlc isFd brs with
        | .error e => .error e
        | .ok frame =>
            match t.consecutiveFrames capacity dlc isFd brs fuel
              ((sequenceNumber + 1) &&& 0x0F) (rest.drop capacity) with
            | .error e => .error e
            | .ok frames => .ok (frame :: frames)

/-- A First Frame with `header` carrying `ffCapacity` payload bytes, followed
by Consecutive Frames of `cfCapacity` bytes. -/
def IsoTpTransport.multiFrame (t : IsoTpTransport) (header : Bytes)
    (ffCapacity cfCapacity dlc : Nat) (isFd brs : Bool) (data : Bytes) :
    Except IsoTpError (List CanFrame) :=
  match t.emit (header ++ data.take ffCapacity) dlc isFd brs with
  | .error e => .error e
  | .ok first =>
      match t.consecutiveFrames cfCapacity dlc isFd brs data.length 1
        (data.drop ffCapacity) with
      | .error e => .error e
      | .ok rest => .ok (first :: rest)

def IsoTpTransport.segmentMessage (t : IsoTpTransport) (data : Bytes)
    (isFd : Bool := false) (brs : Option Bool := none) :
    Except IsoTpError (List CanFrame) :=
  let dataLen := data.length
  let payloadCap := if isFd then maxUdsPayloadFd else maxUdsPayloadClassic
  let addr := t.addressingMode.pciOffset
  let fdBrs := brs.getD t.brs
  if dataLen = 0 then .ok []
  else if dataLen > payloadCap then .error (.payloadTooLarge dataLen payloadCap)
  else if dataLen ≤ 7 - addr then
    -- Short payloads use the nibble form on both bus kinds.
    match t.emit (singleFramePci dataLen :: data) 8 isFd (isFd && fdBrs) with
    | .error e => .error e
    | .ok frame => .ok [frame]
  else if isFd ∧ dataLen ≤ 62 - addr then
    match lengthToDlc (addr + 2 + dataLen) with
    | .error e => .error (.frame e)
    | .ok dlc =>
        match t.emit (0x00 :: UInt8.ofNat dataLen :: data) dlc true fdBrs with
        | .error e => .error e
        | .ok frame => .ok [frame]
  else if isFd then
    if dataLen ≤ 4095 then
      t.multiFrame (firstFrameHeader dataLen) (62 - addr) (63 - addr) 15 true fdBrs data
    else
      t.multiFrame (escapeFirstFrameHeader dataLen) (58 - addr) (63 - addr) 15 true fdBrs data
  else if dataLen ≤ 4095 then
    t.multiFrame (firstFrameHeader dataLen) (6 - addr) (7 - addr) 8 false false data
  else if addr > 0 then .error .classicEscapeAddressing
  else
    t.multiFrame (escapeFirstFrameHeader dataLen) 2 (7 - addr) 8 false false data

section Frames

/-- The frame constructor accepts what the transport builds. -/
structure IsoTpTransport.CanSend (t : IsoTpTransport) : Prop where
  channel : validChannelId t.channelId = true
  padding : 0 ≤ t.padByte.getD 0xCC ∧ t.padByte.getD 0xCC ≤ 0xFF
  inRange : t.txId ≤ 0x1FFFFFFF

structure IsoTpTransport.Carries (t : IsoTpTransport) (frame : CanFrame) (npci : Bytes)
    (size : Nat) (isFd : Bool) : Prop where
  data : ∃ pad, frame.data = t.addressingMode.wrapNpci (npci ++ pad)
  size : frame.data.length = size
  arbitrationId : frame.arbitrationId = t.txId
  isExtended : frame.isExtended = decide (t.txId > 0x7FF)
  channelId : frame.channelId = t.channelId
  isFd : frame.isFd = isFd

theorem AddressingMode.wrapNpci_append (mode : AddressingMode) (bytes pad : Bytes) :
    mode.wrapNpci bytes ++ pad = mode.wrapNpci (bytes ++ pad) := by
  cases mode <;> rfl

theorem AddressingMode.wrapNpci_length (mode : AddressingMode) (bytes : Bytes) :
    (mode.wrapNpci bytes).length = mode.pciOffset + bytes.length := by
  cases mode
  case normal => exact (Nat.zero_add _).symm
  all_goals exact Nat.add_comm _ 1

variable {t : IsoTpTransport}

theorem IsoTpTransport.CanSend.emit (able : t.CanSend) {npci : Bytes} {dlc size : Nat}
    {isFd brs : Bool} (capacity : dlcToLengthTable[dlc]? = some size)
    (fits : t.addressingMode.pciOffset + npci.length ≤ size) (nonempty : 0 < npci.length)
    (classic : isFd = false → dlc ≤ 8 ∧ brs = false) :
    ∃ frame, t.emit npci dlc isFd brs = .ok frame ∧ t.Carries frame npci size isFd := by
  have wrapped := t.addressingMode.wrapNpci_length npci
  have small : dlc ≤ 15 := by
    have inTable := (List.getElem?_eq_some_iff.mp capacity).1
    simp only [dlcToLengthTable, List.length_cons, List.length_nil] at inTable
    omega
  have getD : dlcToLengthTable.getD dlc 0 = size := by
    rw [List.getD_eq_getElem?_getD, capacity]
    rfl
  let pad := List.replicate (size - (t.addressingMode.wrapNpci npci).length)
    (UInt8.ofNat (t.padByte.getD 0xCC).toNat)
  have padded : padPayload (t.addressingMode.wrapNpci npci) dlc (t.padByte.getD 0xCC) =
      .ok (t.addressingMode.wrapNpci npci ++ pad) :=
    padPayload_eq capacity (by omega) able.padding
  have total : (t.addressingMode.wrapNpci npci ++ pad).length = size := by
    simp only [pad, List.length_append, List.length_replicate]
    omega
  have wellFormed : FrameFields.WellFormed
      { channelId := t.channelId
        arbitrationId := t.txId
        dlc := dlc
        data := t.addressingMode.wrapNpci npci ++ pad
        isExtended := decide (t.txId > 0x7FF)
        isFd := isFd
        brs := brs
        direction := .tx } := by
    refine ⟨able.channel, small, arbitrationId_le_maxId able.inRange, fun fd => (classic fd).1,
      fun fd => ⟨(classic fd).2, rfl⟩, ?_, ?_⟩
    · intro _ _
      simp only [getD, total]
      omega
    · intro _
      rw [getD]
      exact total
  have valid := (FrameFields.postInit_eq_none_iff _).mpr wellFormed
  refine ⟨⟨_, valid⟩, ?_, ⟨pad, ?_⟩, total, rfl, rfl, rfl, rfl⟩
  · simp only [IsoTpTransport.emit, padded, CanFrame.new_of_valid _ valid]
  · exact AddressingMode.wrapNpci_append _ _ _

inductive IsoTpTransport.Train (t : IsoTpTransport) (capacity size : Nat) (isFd : Bool) :
    Nat → Bytes → List CanFrame → Prop where
  | done (sequenceNumber : Nat) : Train t capacity size isFd sequenceNumber [] []
  | next {sequenceNumber : Nat} {rest : Bytes} {frame : CanFrame} {frames : List CanFrame}
      (owed : rest ≠ [])
      (carries : t.Carries frame (consecutiveFramePci sequenceNumber :: rest.take capacity) size isFd)
      (tail : Train t capacity size isFd ((sequenceNumber + 1) &&& 0x0F) (rest.drop capacity) frames) :
      Train t capacity size isFd sequenceNumber rest (frame :: frames)

theorem IsoTpTransport.CanSend.consecutiveFrames (able : t.CanSend) {capacity dlc size : Nat}
    {isFd brs : Bool} (table : dlcToLengthTable[dlc]? = some size) (progress : 0 < capacity)
    (room : t.addressingMode.pciOffset + 1 + capacity ≤ size)
    (classic : isFd = false → dlc ≤ 8 ∧ brs = false)
    {fuel : Nat} (sequenceNumber : Nat) {rest : Bytes} (enough : rest.length ≤ fuel) :
    ∃ frames, t.consecutiveFrames capacity dlc isFd brs fuel sequenceNumber rest = .ok frames ∧
      t.Train capacity size isFd sequenceNumber rest frames := by
  induction fuel generalizing sequenceNumber rest with
  | zero =>
      rw [List.length_eq_zero_iff.mp (Nat.le_zero.mp enough)]
      exact ⟨[], rfl, .done sequenceNumber⟩
  | succ fuel ih =>
      by_cases owed : rest = []
      · rw [owed]
        exact ⟨[], rfl, .done sequenceNumber⟩
      · have positive := List.length_pos_of_ne_nil owed
        have fits : t.addressingMode.pciOffset +
            (consecutiveFramePci sequenceNumber :: rest.take capacity).length ≤ size := by
          simp only [List.length_cons, List.length_take]
          omega
        obtain ⟨frame, built, carries⟩ := able.emit table fits (Nat.succ_pos _) classic
        have fewer : (rest.drop capacity).length ≤ fuel := by
          rw [List.length_drop]
          omega
        obtain ⟨frames, tail, train⟩ := ih ((sequenceNumber + 1) &&& 0x0F) fewer
        refine ⟨frame :: frames, ?_, .next owed carries train⟩
        simp only [IsoTpTransport.consecutiveFrames, owed, if_false, built, tail]

def IsoTpTransport.Opens (t : IsoTpTransport) (header : Bytes)
    (ffCapacity cfCapacity size : Nat) (isFd : Bool) (data : Bytes) (frames : List CanFrame) :
    Prop :=
  ∃ first rest, frames = first :: rest ∧
    t.Carries first (header ++ data.take ffCapacity) size isFd ∧
    t.Train cfCapacity size isFd 1 (data.drop ffCapacity) rest

theorem IsoTpTransport.CanSend.multiFrame (able : t.CanSend) {header data : Bytes}
    {ffCapacity cfCapacity dlc size : Nat} {isFd brs : Bool}
    (table : dlcToLengthTable[dlc]? = some size) (nonempty : 0 < header.length)
    (ffRoom : t.addressingMode.pciOffset + header.length + ffCapacity ≤ size)
    (progress : 0 < cfCapacity) (cfRoom : t.addressingMode.pciOffset + 1 + cfCapacity ≤ size)
    (classic : isFd = false → dlc ≤ 8 ∧ brs = false) :
    ∃ frames, t.multiFrame header ffCapacity cfCapacity dlc isFd brs data = .ok frames ∧
      t.Opens header ffCapacity cfCapacity size isFd data frames := by
  have fits : t.addressingMode.pciOffset + (header ++ data.take ffCapacity).length ≤ size := by
    simp only [List.length_append, List.length_take]
    omega
  have positive : 0 < (header ++ data.take ffCapacity).length := by
    rw [List.length_append]
    omega
  obtain ⟨first, built, carries⟩ := able.emit table fits positive classic
  have enough : (data.drop ffCapacity).length ≤ data.length := by
    rw [List.length_drop]
    exact Nat.sub_le _ _
  obtain ⟨rest, tail, train⟩ := able.consecutiveFrames table progress cfRoom classic 1 enough
  refine ⟨first :: rest, ?_, first, rest, rfl, carries, train⟩
  simp only [IsoTpTransport.multiFrame, built, tail]

def frameSize (isFd : Bool) : Nat := if isFd then 64 else 8

inductive IsoTpTransport.Segmented (t : IsoTpTransport) (isFd : Bool) (data : Bytes) :
    Except IsoTpError (List CanFrame) → Prop where
  | empty (absent : data = []) : Segmented t isFd data (.ok [])
  | single {frame : CanFrame} (present : data ≠ [])
      (short : data.length ≤ 7 - t.addressingMode.pciOffset)
      (carries : t.Carries frame (singleFramePci data.length :: data) 8 isFd) :
      Segmented t isFd data (.ok [frame])
  | fdSingle {frame : CanFrame} {size : Nat} (fd : isFd = true)
      (long : 7 - t.addressingMode.pciOffset < data.length)
      (upper : data.length ≤ 62 - t.addressingMode.pciOffset) (large : 8 < size)
      (carries : t.Carries frame (0x00 :: UInt8.ofNat data.length :: data) size true) :
      Segmented t isFd data (.ok [frame])
  | several {frames : List CanFrame} (long : 7 - t.addressingMode.pciOffset < data.length)
      (beyond : isFd = true → 62 - t.addressingMode.pciOffset < data.length)
      (form : data.length ≤ 4095)
      (opens : t.Opens (firstFrameHeader data.length) (frameSize isFd - 2 - t.addressingMode.pciOffset)
        (frameSize isFd - 1 - t.addressingMode.pciOffset) (frameSize isFd) isFd data frames) :
      Segmented t isFd data (.ok frames)
  | escape {frames : List CanFrame} (long : 4095 < data.length)
      (room : isFd = true ∨ t.addressingMode.pciOffset = 0)
      (opens : t.Opens (escapeFirstFrameHeader data.length)
        (frameSize isFd - 6 - t.addressingMode.pciOffset)
        (frameSize isFd - 1 - t.addressingMode.pciOffset) (frameSize isFd) isFd data frames) :
      Segmented t isFd data (.ok frames)
  | refused (long : 4095 < data.length) (classic : isFd = false)
      (addressed : 0 < t.addressingMode.pciOffset) :
      Segmented t isFd data (.error .classicEscapeAddressing)

theorem AddressingMode.pciOffset_le (mode : AddressingMode) : mode.pciOffset ≤ 1 := by
  cases mode <;> simp [AddressingMode.pciOffset]

theorem fdOnly (brs : Bool) : true = false → brs = false := fun impossible =>
  Bool.noConfusion impossible

theorem IsoTpTransport.CanSend.fdSingle (able : t.CanSend) {data : Bytes} (brs : Bool)
    (long : 7 - t.addressingMode.pciOffset < data.length)
    (upper : data.length ≤ 62 - t.addressingMode.pciOffset) :
    ∃ dlc size frame, lengthToDlc (t.addressingMode.pciOffset + 2 + data.length) = .ok dlc ∧
      8 < size ∧ t.emit (0x00 :: UInt8.ofNat data.length :: data) dlc true brs = .ok frame ∧
      t.Carries frame (0x00 :: UInt8.ofNat data.length :: data) size true := by
  have offset := t.addressingMode.pciOffset_le
  obtain ⟨dlc, size, code, capacity, covers⟩ :=
    lengthToDlc_covers (t.addressingMode.pciOffset + 2 + data.length) (by omega)
  have fits : t.addressingMode.pciOffset +
      ((0x00 : UInt8) :: UInt8.ofNat data.length :: data).length ≤ size := by
    simp only [List.length_cons]
    omega
  have fd : true = false → dlc ≤ 8 ∧ brs = false := fun impossible => Bool.noConfusion impossible
  obtain ⟨frame, built, carries⟩ := able.emit capacity fits (Nat.succ_pos _) fd
  exact ⟨dlc, size, frame, code, by omega, built, carries⟩

theorem IsoTpTransport.CanSend.opens (able : t.CanSend) {isFd brs : Bool}
    (classic : isFd = false → brs = false) {header : Bytes} (nonempty : 0 < header.length)
    (room : t.addressingMode.pciOffset + header.length ≤ frameSize isFd) (data : Bytes) :
    ∃ frames, t.multiFrame header (frameSize isFd - header.length - t.addressingMode.pciOffset)
        (frameSize isFd - 1 - t.addressingMode.pciOffset) (if isFd then 15 else 8) isFd brs data =
          .ok frames ∧
      t.Opens header (frameSize isFd - header.length - t.addressingMode.pciOffset)
        (frameSize isFd - 1 - t.addressingMode.pciOffset) (frameSize isFd) isFd data frames := by
  have offset := t.addressingMode.pciOffset_le
  have large : 8 ≤ frameSize isFd := by cases isFd <;> decide
  have table : dlcToLengthTable[if isFd then 15 else 8]? = some (frameSize isFd) := by
    cases isFd <;> rfl
  refine able.multiFrame table nonempty (by omega) (by omega) (by omega) ?_
  intro fd
  rw [fd]
  exact ⟨Nat.le_refl 8, classic fd⟩

theorem IsoTpTransport.CanSend.segmentMessage (able : t.CanSend) {isFd : Bool} {data : Bytes}
    (fits : data.length ≤ if isFd then maxUdsPayloadFd else maxUdsPayloadClassic)
    (brs : Option Bool) : t.Segmented isFd data (t.segmentMessage data isFd brs) := by
  have offset := t.addressingMode.pciOffset_le
  unfold IsoTpTransport.segmentMessage
  dsimp only
  by_cases absent : data = []
  · rw [if_pos (by rw [absent]; rfl)]
    exact .empty absent
  · have positive := List.length_pos_of_ne_nil absent
    rw [if_neg (by omega), if_neg (by omega)]
    by_cases short : data.length ≤ 7 - t.addressingMode.pciOffset
    · obtain ⟨frame, built, carries⟩ := able.emit
        (show dlcToLengthTable[8]? = some 8 from rfl)
        (show t.addressingMode.pciOffset + (singleFramePci data.length :: data).length ≤ 8 by
          rw [List.length_cons]; omega)
        (Nat.succ_pos _)
        (show isFd = false → 8 ≤ 8 ∧ (isFd && brs.getD t.brs) = false from
          fun fd => ⟨Nat.le_refl 8, by rw [fd, Bool.false_and]⟩)
      rw [if_pos short, built]
      exact .single absent short carries
    · rw [if_neg short]
      cases isFd with
      | true =>
          by_cases upper : data.length ≤ 62 - t.addressingMode.pciOffset
          · obtain ⟨dlc, size, frame, code, large, built, carries⟩ :=
              able.fdSingle (brs.getD t.brs) (Nat.lt_of_not_le short) upper
            rw [if_pos ⟨rfl, upper⟩, code]
            dsimp only
            rw [built]
            exact .fdSingle rfl (Nat.lt_of_not_le short) upper large carries
          · rw [if_neg (fun both => upper both.2), if_pos rfl]
            by_cases form : data.length ≤ 4095
            · obtain ⟨frames, built, opens⟩ := able.opens (fdOnly (brs.getD t.brs))
                (show 0 < (firstFrameHeader data.length).length from Nat.succ_pos 1)
                (show _ + 2 ≤ 64 by omega) data
              rw [if_pos form]
              exact built ▸ .several (Nat.lt_of_not_le short) (fun _ => Nat.lt_of_not_le upper) form
                opens
            · obtain ⟨frames, built, opens⟩ := able.opens (fdOnly (brs.getD t.brs))
                (show 0 < (escapeFirstFrameHeader data.length).length from Nat.succ_pos 5)
                (show _ + 6 ≤ 64 by omega) data
              rw [if_neg form]
              exact built ▸ .escape (Nat.lt_of_not_le form) (Or.inl rfl) opens
      | false =>
          rw [if_neg (fun both => Bool.false_ne_true both.1), if_neg Bool.false_ne_true]
          by_cases form : data.length ≤ 4095
          · obtain ⟨frames, built, opens⟩ := able.opens (fun _ : false = false => rfl)
              (show 0 < (firstFrameHeader data.length).length from Nat.succ_pos 1)
              (show _ + 2 ≤ 8 by omega) data
            rw [if_pos form]
            exact built ▸ .several (Nat.lt_of_not_le short) nofun form opens
          · rw [if_neg form]
            by_cases addressed : 0 < t.addressingMode.pciOffset
            · rw [if_pos addressed]
              exact .refused (Nat.lt_of_not_le form) rfl addressed
            · have normal : t.addressingMode.pciOffset = 0 := Nat.eq_zero_of_not_pos addressed
              obtain ⟨frames, built, opens⟩ := able.opens (fun _ : false = false => rfl)
                (show 0 < (escapeFirstFrameHeader data.length).length from Nat.succ_pos 5)
                (show _ + 6 ≤ 8 by omega) data
              have two : frameSize false - (escapeFirstFrameHeader data.length).length -
                  t.addressingMode.pciOffset = 2 := by
                rw [normal]
                rfl
              rw [if_neg addressed]
              rw [two] at built
              exact built ▸ .escape (Nat.lt_of_not_le form) (Or.inr normal) opens

end Frames

end Ucanlab.IsoTp
