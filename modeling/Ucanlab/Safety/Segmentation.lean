import Ucanlab.Uds.IsoTp
import Ucanlab.Safety.Whitelist

/-!
Segmentation against the gateway's classification. The gateway decides on the
first frame alone, so a critical request is gated exactly when the bytes that
the segmenter puts in front of it lead the classification back to its service.
-/

namespace Ucanlab.Safety

open Ucanlab IsoTp

/-- A transport in normal addressing that can build frames, on an identifier
the whitelist authorises and ISO-TP diagnostics uses. -/
structure UdsLink (whitelist : Whitelist) where
  transport : IsoTpTransport
  normal : transport.addressingMode = .normal
  channel : validChannelId transport.channelId = true
  padding : 0 ≤ transport.padByte.getD 0xCC ∧ transport.padByte.getD 0xCC ≤ 0xFF
  inRange : transport.txId ≤ 0x1FFFFFFF
  diagnostic : 0x7FF < transport.txId → isDiagnosticPf transport.txId = true
  authorized : whitelist.authorizes transport.txId = true

theorem UdsLink.whitelist_isEmpty {whitelist : Whitelist} (link : UdsLink whitelist) :
    whitelist.isEmpty = false :=
  Whitelist.isEmpty_of_authorizes link.authorized

structure CriticalRequest (isFd : Bool) where
  sid : UInt8
  parameters : Bytes
  critical : criticalUdsSids.contains sid = true
  bounded : parameters.length + 1 ≤ if isFd then maxUdsPayloadFd else maxUdsPayloadClassic

def CriticalRequest.payload {isFd : Bool} (request : CriticalRequest isFd) : Bytes :=
  request.sid :: request.parameters

theorem CriticalRequest.payload_length {isFd : Bool} (request : CriticalRequest isFd) :
    request.payload.length = request.parameters.length + 1 := rfl

/-- The First Frame length has a zero low byte, which the classification takes
for the mark of the 32-bit form: on classic CAN it then finds no service at all,
on CAN FD it reads the fifth payload byte in the place of the service. -/
def LengthHidesService (txId : Nat) (isFd : Bool) (payload : Bytes) : Prop :=
  payload.length % 256 = 0 ∧
    if isFd then
      payload.length ≤ 4095 ∧ criticalUdsSids.contains (payload.getD 4 0) = false
    else txId ≤ 0x7FF

theorem UdsLink.canSend {whitelist : Whitelist} (link : UdsLink whitelist) :
    link.transport.CanSend where
  channel := link.channel
  padding := link.padding
  inRange := link.inRange

theorem UdsLink.pciOffset {whitelist : Whitelist} (link : UdsLink whitelist) :
    link.transport.addressingMode.pciOffset = 0 := by
  rw [link.normal]
  rfl

theorem UdsLink.wrapNpci {whitelist : Whitelist} (link : UdsLink whitelist) (npci : Bytes) :
    link.transport.addressingMode.wrapNpci npci = npci := by
  rw [link.normal]
  rfl

theorem frameIsCritical_of_service {whitelist : Whitelist} (link : UdsLink whitelist)
    {frame : CanFrame} {sid : UInt8}
    (arbitrationId : frame.arbitrationId = link.transport.txId)
    (extended : frame.isExtended = decide (link.transport.txId > 0x7FF))
    (service : isoTpServiceByte frame.data frame.isFd = some sid) :
    frameIsCritical whitelist frame = criticalUdsSids.contains sid := by
  unfold frameIsCritical bytesAreCritical
  rw [service]
  cases bytes : frame.data with
  | nil =>
      rw [bytes] at service
      cases service
  | cons first rest =>
      simp only [arbitrationId, extended]
      by_cases long : link.transport.txId > 0x7FF
      · simp only [long, decide_true, not_true_eq_false, if_false, link.whitelist_isEmpty,
          Bool.false_eq_true, link.diagnostic long, if_true]
      · simp only [long, decide_false, Bool.false_eq_true, not_false_eq_true, if_true,
          link.authorized, not_true_eq_false, if_false]

theorem frameIsCritical_of_no_service {whitelist : Whitelist} (link : UdsLink whitelist)
    {frame : CanFrame} {first : UInt8} {rest : Bytes}
    (arbitrationId : frame.arbitrationId = link.transport.txId)
    (extended : frame.isExtended = decide (link.transport.txId > 0x7FF))
    (bytes : frame.data = first :: rest) (pci : first.toNat >>> 4 = 0x1)
    (service : isoTpServiceByte frame.data frame.isFd = none) :
    frameIsCritical whitelist frame = decide (link.transport.txId > 0x7FF) := by
  unfold frameIsCritical bytesAreCritical
  rw [service, bytes]
  simp only [arbitrationId, extended]
  by_cases long : link.transport.txId > 0x7FF
  · simp only [long, decide_true, not_true_eq_false, if_false, link.whitelist_isEmpty,
      Bool.false_eq_true, link.diagnostic long, if_true, pci, or_true]
  · simp only [long, decide_false, Bool.false_eq_true, not_false_eq_true, if_true,
      link.authorized, not_true_eq_false, if_false]

theorem singleFramePci_toNat (length : Nat) (short : length ≤ 7) :
    (singleFramePci length).toNat = length := by
  interval_cases length <;> rfl

theorem firstFrameHeader_pci (length : Nat) :
    (UInt8.ofNat ((pciFirstFrame <<< 4) ||| ((length >>> 8) &&& 0x0F))).toNat >>> 4 = 0x1 := by
  have every : ∀ high : Fin 16,
      (UInt8.ofNat ((pciFirstFrame <<< 4) ||| high.val)).toNat >>> 4 = 0x1 := by decide
  have high : (length >>> 8) &&& 0x0F < 16 :=
    Nat.lt_of_le_of_lt Nat.and_le_right (by decide)
  exact every ⟨_, high⟩

theorem lowByte_eq_zero_iff (length : Nat) :
    UInt8.ofNat (length &&& 0xFF) = 0x00 ↔ length % 256 = 0 := by
  have low : length &&& 0xFF = length % 256 := Nat.and_two_pow_sub_one_eq_mod length 8
  rw [low, ← UInt8.toNat_inj, UInt8.toNat_ofNat']
  constructor
  · intro same
    simpa using same
  · intro zero
    simp [zero]

theorem isoTpServiceByte_singleFrame (length : Nat) (sid : UInt8) (rest : Bytes) (isFd : Bool)
    (positive : 1 ≤ length) (short : length ≤ 7) :
    isoTpServiceByte (singleFramePci length :: sid :: rest) isFd = some sid := by
  interval_cases length <;> simp [isoTpServiceByte, singleFramePci, pciSingleFrame]

theorem isoTpServiceByte_fdSingleFrame (length : Nat) (sid : UInt8) (rest : Bytes)
    (lower : 8 ≤ length) (upper : length ≤ 62) :
    isoTpServiceByte (0x00 :: UInt8.ofNat length :: sid :: rest) true = some sid := by
  have toNat : (UInt8.ofNat length).toNat = length := by
    rw [UInt8.toNat_ofNat']
    omega
  have notZero : UInt8.ofNat length ≠ 0x00 := by
    intro zero
    have bytes := congrArg UInt8.toNat zero
    rw [toNat] at bytes
    simp only [UInt8.toNat_zero] at bytes
    omega
  simp only [isoTpServiceByte, UInt8.toNat_zero, Nat.zero_shiftRight, if_true,
    List.getElem?_cons_succ, List.getElem?_cons_zero, not_true_eq_false, if_false, notZero,
    toNat, lower, upper, and_self]

theorem isoTpServiceByte_firstFrame (length : Nat) (tail : Bytes) (isFd : Bool) :
    isoTpServiceByte (firstFrameHeader length ++ tail) isFd =
      if length % 256 = 0 then (if isFd then tail[4]? else none) else tail[0]? := by
  have pci := firstFrameHeader_pci length
  have notSingle : ¬ (1 : Nat) = 0x0 := by decide
  simp only [isoTpServiceByte, firstFrameHeader, List.cons_append, List.nil_append, pci,
    notSingle, if_false, if_true, List.getElem?_cons_succ, List.getElem?_cons_zero,
    lowByte_eq_zero_iff]
  cases isFd <;> rfl

theorem isoTpServiceByte_escapeFirstFrame (length : Nat) (tail : Bytes) (isFd : Bool) :
    isoTpServiceByte (escapeFirstFrameHeader length ++ tail) isFd =
      if isFd then tail[0]? else none := by
  have pci : (0x10 : UInt8).toNat >>> 4 = 0x1 := rfl
  have notSingle : ¬ (1 : Nat) = 0x0 := by decide
  simp only [isoTpServiceByte, escapeFirstFrameHeader, List.cons_append, List.nil_append, pci,
    notSingle, if_false, if_true, List.getElem?_cons_succ, List.getElem?_cons_zero]
  cases isFd <;> rfl

theorem frameIsCritical_firstFrame {whitelist : Whitelist} (link : UdsLink whitelist)
    {isFd : Bool} (request : CriticalRequest isFd) (first : CanFrame) (capacity : Nat)
    (pad : Bytes) (long : 7 < request.payload.length) (form : request.payload.length ≤ 4095)
    (room : 5 ≤ capacity)
    (bytes : first.data = firstFrameHeader request.payload.length ++
      request.payload.take capacity ++ pad)
    (arbitrationId : first.arbitrationId = link.transport.txId)
    (extended : first.isExtended = decide (link.transport.txId > 0x7FF))
    (fd : first.isFd = isFd) :
    frameIsCritical whitelist first = true ↔
      ¬ LengthHidesService link.transport.txId isFd request.payload := by
  have split : first.data =
      firstFrameHeader request.payload.length ++ (request.payload.take capacity ++ pad) := by
    rw [bytes, List.append_assoc]
  have service : (request.payload.take capacity ++ pad)[0]? = some request.sid := by
    obtain ⟨more, rfl⟩ : ∃ more, capacity = more + 1 := ⟨capacity - 1, by omega⟩
    rfl
  have fifth : (request.payload.take capacity ++ pad)[4]? = some (request.payload.getD 4 0) := by
    have inside : 4 < (request.payload.take capacity).length := by
      rw [List.length_take]
      omega
    rw [List.getElem?_append_left inside, List.getElem?_take_of_lt (by omega),
      List.getD_eq_getElem?_getD, List.getElem?_eq_getElem (by omega)]
    rfl
  have reading : isoTpServiceByte first.data first.isFd =
      if request.payload.length % 256 = 0 then
        (if isFd then some (request.payload.getD 4 0) else none)
      else some request.sid := by
    rw [split, fd, isoTpServiceByte_firstFrame, service, fifth]
  unfold LengthHidesService
  by_cases hidden : request.payload.length % 256 = 0
  · rw [if_pos hidden] at reading
    cases isFd with
    | true =>
        rw [if_pos rfl] at reading
        rw [frameIsCritical_of_service link arbitrationId extended reading]
        simp only [hidden, if_true, form, true_and, Bool.not_eq_false]
    | false =>
        rw [if_neg Bool.false_ne_true] at reading
        rw [frameIsCritical_of_no_service link arbitrationId extended split
          (firstFrameHeader_pci _) reading]
        simp only [hidden, Bool.false_eq_true, if_false, true_and, decide_eq_true_eq]
        omega
  · rw [if_neg hidden] at reading
    rw [frameIsCritical_of_service link arbitrationId extended reading]
    simp only [hidden, request.critical, false_and, not_false_eq_true]

inductive FirstFrameBytes (payload : Bytes) (isFd : Bool) : Bytes → Prop where
  | single (pad : Bytes) (short : payload.length ≤ 7)
      (total : 1 + payload.length + pad.length = 8) :
      FirstFrameBytes payload isFd (singleFramePci payload.length :: (payload ++ pad))
  | fdSingle (pad : Bytes) (fd : isFd = true) (lower : 8 ≤ payload.length)
      (upper : payload.length ≤ 62) :
      FirstFrameBytes payload isFd (0x00 :: UInt8.ofNat payload.length :: (payload ++ pad))
  | first (capacity : Nat) (pad : Bytes) (long : 7 < payload.length)
      (form : payload.length ≤ 4095) (beyond : isFd = true → 62 < payload.length)
      (room : 5 ≤ capacity) :
      FirstFrameBytes payload isFd
        (firstFrameHeader payload.length ++ (payload.take capacity ++ pad))
  | escape (capacity : Nat) (pad : Bytes) (form : 4095 < payload.length) (room : 1 ≤ capacity) :
      FirstFrameBytes payload isFd
        (escapeFirstFrameHeader payload.length ++ (payload.take capacity ++ pad))

theorem segmentMessage_first {whitelist : Whitelist} (link : UdsLink whitelist) {isFd : Bool}
    {payload : Bytes} (positive : 0 < payload.length)
    (bounded : payload.length ≤ if isFd then maxUdsPayloadFd else maxUdsPayloadClassic)
    (brs : Option Bool) :
    ∃ first rest, link.transport.segmentMessage payload isFd brs = .ok (first :: rest) ∧
      FirstFrameBytes payload isFd first.data ∧ first.arbitrationId = link.transport.txId ∧
      first.isExtended = decide (link.transport.txId > 0x7FF) ∧ first.isFd = isFd := by
  have segmented := link.canSend.segmentMessage bounded brs
  have size : 8 ≤ frameSize isFd := by cases isFd <;> decide
  generalize link.transport.segmentMessage payload isFd brs = result at segmented ⊢
  cases segmented with
  | empty absent =>
      rw [absent] at positive
      exact absurd positive (Nat.lt_irrefl 0)
  | @single frame present short carries =>
      refine ⟨frame, [], rfl, ?_, carries.arbitrationId, carries.isExtended, carries.isFd⟩
      obtain ⟨pad, bytes⟩ := carries.data
      have total := carries.size
      rw [link.wrapNpci] at bytes
      rw [link.pciOffset] at short
      rw [bytes, List.length_append, List.length_cons] at total
      rw [bytes]
      exact .single pad short (by omega)
  | @fdSingle frame size fd long upper large carries =>
      subst fd
      refine ⟨frame, [], rfl, ?_, carries.arbitrationId, carries.isExtended, carries.isFd⟩
      obtain ⟨pad, bytes⟩ := carries.data
      rw [link.wrapNpci] at bytes
      rw [link.pciOffset] at long upper
      rw [bytes]
      exact .fdSingle pad rfl (by omega) upper
  | several long beyond form opens =>
      obtain ⟨first, rest, rfl, carries, -⟩ := opens
      refine ⟨first, rest, rfl, ?_, carries.arbitrationId, carries.isExtended, carries.isFd⟩
      obtain ⟨pad, bytes⟩ := carries.data
      rw [link.wrapNpci, List.append_assoc] at bytes
      rw [link.pciOffset] at long beyond bytes
      rw [bytes]
      exact .first _ pad long form beyond (by omega)
  | escape long room opens =>
      obtain ⟨first, rest, rfl, carries, -⟩ := opens
      refine ⟨first, rest, rfl, ?_, carries.arbitrationId, carries.isExtended, carries.isFd⟩
      obtain ⟨pad, bytes⟩ := carries.data
      rw [link.wrapNpci, List.append_assoc] at bytes
      rw [link.pciOffset] at bytes
      rw [bytes]
      exact .escape _ pad long (by omega)
  | refused long classic addressed =>
      rw [link.pciOffset] at addressed
      exact absurd addressed (Nat.lt_irrefl 0)

/-- Every critical request is segmented, and its first frame is classified
critical exactly when its length does not hide the service. -/
theorem segmentMessage_critical_iff {whitelist : Whitelist} (link : UdsLink whitelist)
    {isFd : Bool} (request : CriticalRequest isFd) (brs : Option Bool) :
    ∃ first rest,
      link.transport.segmentMessage request.payload isFd brs = .ok (first :: rest) ∧
        (frameIsCritical whitelist first = true ↔
          ¬ LengthHidesService link.transport.txId isFd request.payload) := by
  have bounded : request.payload.length ≤
      if isFd then maxUdsPayloadFd else maxUdsPayloadClassic := request.bounded
  have positive : 0 < request.payload.length := Nat.succ_pos _
  obtain ⟨first, rest, built, shape, arbitrationId, extended, fd⟩ :=
    segmentMessage_first link positive bounded brs
  refine ⟨first, rest, built, ?_⟩
  generalize bytes : first.data = data at shape
  cases shape with
  | single pad short total =>
      have reading : isoTpServiceByte first.data first.isFd = some request.sid := by
        rw [bytes]
        exact isoTpServiceByte_singleFrame _ _ _ _ positive short
      rw [frameIsCritical_of_service link arbitrationId extended reading]
      simp only [request.critical, true_iff]
      intro ⟨multiple, _⟩
      omega
  | fdSingle pad isFdTrue lower upper =>
      have reading : isoTpServiceByte first.data first.isFd = some request.sid := by
        rw [bytes, fd.trans isFdTrue]
        exact isoTpServiceByte_fdSingleFrame _ _ _ lower upper
      rw [frameIsCritical_of_service link arbitrationId extended reading]
      simp only [request.critical, true_iff]
      intro ⟨multiple, _⟩
      omega
  | first capacity pad long form beyond room =>
      exact frameIsCritical_firstFrame link request first capacity pad long form room
        (by rw [bytes, List.append_assoc]) arbitrationId extended fd
  | escape capacity pad form room =>
      have service : (request.payload.take capacity ++ pad)[0]? = some request.sid := by
        obtain ⟨more, rfl⟩ : ∃ more, capacity = more + 1 := ⟨capacity - 1, by omega⟩
        rfl
      cases isFd with
      | true =>
          have reading : isoTpServiceByte first.data first.isFd = some request.sid := by
            rw [bytes, fd, isoTpServiceByte_escapeFirstFrame]
            exact service
          rw [frameIsCritical_of_service link arbitrationId extended reading]
          simp only [request.critical, true_iff]
          intro ⟨_, bound, _⟩
          omega
      | false =>
          have reading : isoTpServiceByte first.data first.isFd = none := by
            rw [bytes, fd, isoTpServiceByte_escapeFirstFrame]
            rfl
          have multiple : request.payload.length % 256 = 0 := by
            have exact : request.payload.length = 4096 := by
              simp only [Bool.false_eq_true, if_false, maxUdsPayloadClassic] at bounded
              omega
            rw [exact]
          rw [frameIsCritical_of_no_service link arbitrationId extended bytes rfl reading]
          unfold LengthHidesService
          simp only [multiple, Bool.false_eq_true, if_false, true_and, decide_eq_true_eq]
          omega

def testerLink : UdsLink { ids := [0x7E0], masks := [] } where
  transport := { txId := 0x7E0, channelId := "uds_ch0" }
  normal := rfl
  channel := by decide
  padding := by decide
  inRange := by decide
  diagnostic := by decide
  authorized := by decide

def transferData256 : CriticalRequest false where
  sid := 0x36
  parameters := List.replicate 255 0x00
  critical := by decide
  bounded := by rw [List.length_replicate]; decide

theorem transferData256_length : transferData256.payload.length = 256 := by
  rw [CriticalRequest.payload_length, transferData256, List.length_replicate]

/-- The First Frame `11 00 36 00 00 00 00 00` is not classified critical. -/
theorem transferData256_escapes :
    ¬ ∀ (whitelist : Whitelist) (link : UdsLink whitelist) (isFd : Bool)
        (request : CriticalRequest isFd) (brs : Option Bool) (first : CanFrame)
        (rest : List CanFrame),
        link.transport.segmentMessage request.payload isFd brs = .ok (first :: rest) →
          frameIsCritical whitelist first = true := by
  intro gated
  have length := transferData256_length
  have positive : 0 < transferData256.payload.length := by
    rw [length]
    decide
  obtain ⟨first, rest, segmented, opening, arbitrationId, extended, fd⟩ :=
    segmentMessage_first testerLink positive transferData256.bounded none
  have critical := gated _ testerLink false transferData256 none first rest segmented
  obtain ⟨tail, bytes⟩ : ∃ tail, first.data = firstFrameHeader 256 ++ tail := by
    generalize first.data = data at opening
    cases opening with
    | single pad short total => omega
    | fdSingle pad fd lower upper => cases fd
    | first capacity pad long form beyond room =>
        rw [length]
        exact ⟨_, rfl⟩
    | escape capacity pad form room => omega
  have reading : isoTpServiceByte first.data first.isFd = none := by
    rw [bytes, fd, isoTpServiceByte_firstFrame]
    rfl
  rw [frameIsCritical_of_no_service testerLink arbitrationId extended
    (by rw [bytes]; rfl) rfl reading] at critical
  exact absurd critical (by decide)

end Ucanlab.Safety
