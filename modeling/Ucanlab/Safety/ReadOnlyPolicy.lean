import Ucanlab.Lib.BitField
import Ucanlab.Safety.Whitelist
import Ucanlab.Uds.IsoTpReassembly

/-!
The policy of a consented read-only session: the frames it lets out.
-/

namespace Ucanlab.Safety

open Ucanlab

def obdFunctionalId : Nat := 0x7DF

def isObdPhysicalRequestId (arbitrationId : Nat) : Bool :=
  decide (0x7E0 ≤ arbitrationId ∧ arbitrationId < 0x7E8)

def readOnlyObdServices : List UInt8 := [0x01, 0x02, 0x03, 0x06, 0x07, 0x09, 0x0A]

def flowControlContinue : UInt8 := 0x30

def readOnlyJ1939RequestPgns : List Nat :=
  [65226, 65227, 65229, 65230, 65231, 65236, 54016, 65260, 65242, 65259]

def j1939PfRequest : Nat := 0xEA
def j1939PfDm7 : Nat := 0xE3
def j1939PfTpCm : Nat := 0xEC
def j1939Dm7TidReport : UInt8 := 247
def j1939FmiAll : UInt8 := 31
def j1939PgnDm30 : Nat := 41984

/-- Clear to send, end-of-message acknowledgement, abort. -/
def j1939TpReceiverControls : List UInt8 := [0x11, 0x13, 0xFF]

def j1939TpPgns : List Nat := j1939PgnDm30 :: readOnlyJ1939RequestPgns

inductive ReadOnlyViolation where
  | expired
  | id
  | payload
  | service
  deriving DecidableEq, Repr

def ReadOnlyViolation.code : ReadOnlyViolation → String
  | .expired => "READ_ONLY_EXPIRED"
  | .id => "READ_ONLY_ID"
  | .payload => "READ_ONLY_PAYLOAD"
  | .service => "READ_ONLY_SERVICE"

def j1939Violation (arbitrationId : Nat) (data : Bytes) : Option ReadOnlyViolation :=
  if (arbitrationId >>> 24) &&& 0x03 ≠ 0 then some .id
  else
    let pf := (arbitrationId >>> 16) &&& 0xFF
    let da := (arbitrationId >>> 8) &&& 0xFF
    if pf = j1939PfRequest then
      if data.length < 3 ∨ (data.drop 3).any (fun byte => byte ≠ 0xFF) then some .payload
      else if littleEndian (data.take 3) ∈ readOnlyJ1939RequestPgns then none
      else some .service
    else if pf = j1939PfDm7 then
      if data.length ≠ 8 ∨ (data.drop 4).any (fun byte => byte ≠ 0xFF) then some .payload
      else if data.getD 0 0 ≠ j1939Dm7TidReport ∨ data.getD 3 0 &&& 0x1F ≠ j1939FmiAll then
        some .service
      else none
    else if pf = j1939PfTpCm then
      if da = 0xFF ∨ data.length ≠ 8 ∨ ¬ data.getD 0 0 ∈ j1939TpReceiverControls then
        some .payload
      else if littleEndian ((data.drop 5).take 3) ∈ j1939TpPgns then none
      else some .payload
    else some .id

structure ReadOnlyPolicy where
  expiresNs : Nat
  reason : String := "mechanic read-only session"
  j1939 : Bool := false
  deriving DecidableEq, Repr

/-- The standard-identifier half of the policy. -/
def obdViolation (arbitrationId : Nat) (data : Bytes) : Option ReadOnlyViolation :=
  if arbitrationId ≠ obdFunctionalId ∧ ¬ isObdPhysicalRequestId arbitrationId then some .id
  else
    match data with
    | [] => some .payload
    | first :: rest =>
        let pci := first.toNat >>> 4
        if pci = 0x0 then
          let length := first.toNat &&& 0x0F
          if ¬ (1 ≤ length ∧ length ≤ 7) ∨ data.length < 1 + length then some .payload
          else if rest.getD 0 0 ∈ readOnlyObdServices then none
          else some .service
        else if pci = 0x3 then
          if first = flowControlContinue ∧ isObdPhysicalRequestId arbitrationId then none
          else some .payload
        else some .payload

/-- The verdict on the fields it reads; `none` for a permitted read request. -/
def ReadOnlyPolicy.violationOf (policy : ReadOnlyPolicy) (arbitrationId : Nat)
    (isExtended isFd : Bool) (data : Bytes) (now : Nat) : Option ReadOnlyViolation :=
  if now ≥ policy.expiresNs then some .expired
  else if isFd then some .id
  else if isExtended then
    if policy.j1939 then j1939Violation arbitrationId data else some .id
  else obdViolation arbitrationId data

def ReadOnlyPolicy.violation (policy : ReadOnlyPolicy) (frame : CanFrame) (now : Nat) :
    Option ReadOnlyViolation :=
  policy.violationOf frame.arbitrationId frame.isExtended frame.isFd frame.data now

theorem ReadOnlyPolicy.violation_unexpired (policy : ReadOnlyPolicy) (frame : CanFrame)
    {now later : Nat} (unexpired : later < policy.expiresNs)
    (allowed : policy.violation frame now = none) : policy.violation frame later = none := by
  unfold ReadOnlyPolicy.violation ReadOnlyPolicy.violationOf at allowed ⊢
  by_cases gone : now ≥ policy.expiresNs
  · rw [if_pos gone] at allowed
    cases allowed
  · rw [if_neg gone] at allowed
    rw [if_neg (Nat.not_le.mpr unexpired)]
    exact allowed

end Ucanlab.Safety

/-!
The frames of a read-only session as the gateway's classification and an ECU's transport
read them.
-/

namespace Ucanlab.Safety

open Ucanlab IsoTp

inductive ObdRequest (data : Bytes) : Prop where
  | single (length : Nat) (service : UInt8) (rest : Bytes)
      (shape : data = UInt8.ofNat length :: service :: rest)
      (bounds : 1 ≤ length ∧ length ≤ 7) (full : length ≤ rest.length + 1)
      (reads : service ∈ readOnlyObdServices)
  | flowControl (rest : Bytes) (shape : data = flowControlContinue :: rest)

/-- The three kinds of 29-bit frames. -/
inductive J1939Request (arbitrationId : Nat) (data : Bytes) : Prop where
  | request (format : (arbitrationId >>> 16) &&& 0xFF = j1939PfRequest) (long : 3 ≤ data.length)
      (listed : littleEndian (data.take 3) ∈ readOnlyJ1939RequestPgns)
  | testResults (format : (arbitrationId >>> 16) &&& 0xFF = j1939PfDm7)
      (report : data[0]? = some j1939Dm7TidReport)
  | transport (format : (arbitrationId >>> 16) &&& 0xFF = j1939PfTpCm)
      (specific : (arbitrationId >>> 8) &&& 0xFF ≠ 0xFF)
      (control : ∃ byte ∈ j1939TpReceiverControls, data[0]? = some byte)
      (listed : littleEndian ((data.drop 5).take 3) ∈ j1939TpPgns)

theorem getD_eq_of_lt {data : Bytes} {index : Nat} (inside : index < data.length) :
    data[index]? = some (data.getD index 0) := by
  rw [List.getD_eq_getElem?_getD, List.getElem?_eq_getElem inside]
  rfl

theorem ofNat_lowNibble {byte : UInt8} (classic : byte.toNat >>> 4 = 0) :
    byte = UInt8.ofNat (byte.toNat &&& 0x0F) := by
  have low : byte.toNat &&& 0x0F = byte.toNat := by
    rw [Nat.and_two_pow_sub_one_eq_mod byte.toNat 4]
    rw [Nat.shiftRight_eq_div_pow] at classic
    omega
  rw [low, UInt8.ofNat_toNat]

theorem obdRequest_of_accepted {arbitrationId : Nat} {data : Bytes}
    (accepted : obdViolation arbitrationId data = none) : ObdRequest data := by
  unfold obdViolation at accepted
  split at accepted
  · cases accepted
  · split at accepted
    · cases accepted
    · rename_i first rest
      dsimp only at accepted
      split at accepted
      · rename_i single
        split at accepted
        · cases accepted
        · rename_i sized
          split at accepted
          · rename_i reads
            rw [not_or, not_not, Nat.not_lt, List.length_cons] at sized
            obtain ⟨bounds, full⟩ := sized
            cases rest with
            | nil =>
                rw [List.length_nil] at full
                omega
            | cons service rest =>
                rw [List.length_cons] at full
                exact .single _ service rest (by rw [← ofNat_lowNibble single]) bounds (by omega)
                  reads
          · cases accepted
      · split at accepted
        · split at accepted
          · rename_i continues
            exact .flowControl rest (by rw [continues.1])
          · cases accepted
        · cases accepted

theorem j1939Request_of_accepted {arbitrationId : Nat} {data : Bytes}
    (accepted : j1939Violation arbitrationId data = none) :
    (arbitrationId >>> 24) &&& 0x03 = 0 ∧ J1939Request arbitrationId data := by
  unfold j1939Violation at accepted
  split at accepted
  · cases accepted
  · rename_i page
    refine ⟨not_not.mp page, ?_⟩
    dsimp only at accepted
    split at accepted
    · rename_i format
      split at accepted
      · cases accepted
      · rename_i sized
        split at accepted
        · rename_i listed
          rw [not_or, Nat.not_lt] at sized
          exact .request format sized.1 listed
        · cases accepted
    · split at accepted
      · rename_i format
        split at accepted
        · cases accepted
        · rename_i sized
          split at accepted
          · cases accepted
          · rename_i report
            rw [not_or, not_not] at sized report
            have first := getD_eq_of_lt (show 0 < data.length by omega)
            rw [report.1] at first
            exact .testResults format first
      · split at accepted
        · rename_i format
          split at accepted
          · cases accepted
          · rename_i sized
            split at accepted
            · rename_i listed
              rw [not_or, not_or, not_not, not_not] at sized
              have first := getD_eq_of_lt (show 0 < data.length by omega)
              exact .transport format sized.1 ⟨_, sized.2.2, first⟩ listed
            · cases accepted
        · cases accepted

theorem violationOf_eq_none {policy : ReadOnlyPolicy} {frame : CanFrame} {now : Nat}
    (accepted : policy.violation frame now = none) :
    frame.isFd = false ∧
      (frame.isExtended = false → obdViolation frame.arbitrationId frame.data = none) ∧
      (frame.isExtended = true → j1939Violation frame.arbitrationId frame.data = none) := by
  unfold ReadOnlyPolicy.violation ReadOnlyPolicy.violationOf at accepted
  split at accepted
  · cases accepted
  · split at accepted
    · cases accepted
    · rename_i classic
      refine ⟨Bool.not_eq_true _ ▸ classic, ?_, ?_⟩
      · intro standard
        rw [standard, if_neg Bool.false_ne_true] at accepted
        exact accepted
      · intro extended
        rw [extended, if_pos rfl] at accepted
        split at accepted
        · exact accepted
        · cases accepted

theorem readOnlyObdServices_uncritical :
    ∀ service ∈ readOnlyObdServices, criticalUdsSids.contains service = false := by
  simp [readOnlyObdServices, criticalUdsSids]

theorem readOnlyJ1939RequestPgns_uncritical :
    ∀ pgn ∈ readOnlyJ1939RequestPgns, criticalJ1939Pgns.contains pgn = false := by decide

theorem obdRequest_serviceByte {data : Bytes} (request : ObdRequest data) :
    isoTpServiceByte data false = none ∨
      ∃ service ∈ readOnlyObdServices, isoTpServiceByte data false = some service := by
  cases request with
  | single length service rest shape bounds full reads =>
      refine Or.inr ⟨service, reads, ?_⟩
      obtain ⟨least, most⟩ := bounds
      rw [shape]
      interval_cases length <;> rfl
  | flowControl rest shape =>
      rw [shape]
      exact Or.inl rfl

theorem j1939_group {arbitrationId : Nat} (page : (arbitrationId >>> 24) &&& 0x03 = 0)
    {format : Nat} (same : (arbitrationId >>> 16) &&& 0xFF = format) :
    (arbitrationId >>> 8) &&& 0x3FFFF =
      format * 256 + ((arbitrationId >>> 8) &&& 0xFF) := by
  have low (value : Nat) : value &&& 0xFF = value % 256 :=
    Nat.and_two_pow_sub_one_eq_mod value 8
  have pages (value : Nat) : value &&& 0x03 = value % 4 := Nat.and_two_pow_sub_one_eq_mod value 2
  have group (value : Nat) : value &&& 0x3FFFF = value % 262144 :=
    Nat.and_two_pow_sub_one_eq_mod value 18
  rw [pages, Nat.shiftRight_eq_div_pow] at page
  rw [low, Nat.shiftRight_eq_div_pow] at same
  rw [group, low, Nat.shiftRight_eq_div_pow]
  omega

theorem j1939_uncritical {arbitrationId format : Nat}
    (page : (arbitrationId >>> 24) &&& 0x03 = 0)
    (same : (arbitrationId >>> 16) &&& 0xFF = format)
    (known : format ∈ [j1939PfRequest, j1939PfDm7, j1939PfTpCm]) :
    isDiagnosticPf arbitrationId = false ∧
      criticalJ1939Pgns.contains ((arbitrationId >>> 8) &&& 0x3FFFF) = false ∧
      ((arbitrationId >>> 8) &&& 0x3FFFF = j1939RequestPgn → format = j1939PfRequest) := by
  have group := j1939_group page same
  have low : (arbitrationId >>> 8) &&& 0xFF < 256 := by
    rw [Nat.and_two_pow_sub_one_eq_mod _ 8]
    exact Nat.mod_lt _ (by decide)
  unfold isDiagnosticPf
  rw [same, group]
  generalize (arbitrationId >>> 8) &&& 0xFF = destination at low
  simp only [List.mem_cons, List.not_mem_nil, or_false] at known
  refine ⟨?_, ?_, ?_⟩
  · rcases known with rfl | rfl | rfl <;> rfl
  · rw [← Bool.not_eq_true, List.contains_iff_mem]
    unfold criticalJ1939Pgns
    simp only [List.mem_cons, List.not_mem_nil, or_false]
    unfold j1939PfRequest j1939PfDm7 j1939PfTpCm at known
    omega
  · unfold j1939RequestPgn
    unfold j1939PfRequest j1939PfDm7 j1939PfTpCm at known
    unfold j1939PfRequest
    omega

theorem requestedPgn_eq {data : Bytes} (long : 3 ≤ data.length) :
    j1939RequestedPgn data = some (littleEndian (data.take 3)) := by
  match data, long with
  | low :: middle :: high :: rest, _ =>
      unfold j1939RequestedPgn littleEndian
      have lowLt := UInt8.toNat_lt low
      have middleLt := UInt8.toNat_lt middle
      simp only [List.take_succ_cons, List.take_zero, List.foldr_cons, List.foldr_nil,
        Option.some.injEq]
      have inner : low.toNat ||| middle.toNat <<< 8 = middle.toNat * 256 + low.toNat := by
        rw [Nat.or_comm]
        exact BitField.shiftLeft_or_eq (show low.toNat < 2 ^ 8 from lowLt)
      have small : middle.toNat * 256 + low.toNat < 2 ^ 16 := by omega
      rw [inner, Nat.or_comm, BitField.shiftLeft_or_eq small]
      omega

theorem accepted_not_critical {policy : ReadOnlyPolicy} {frame : CanFrame} {now : Nat}
    (accepted : policy.violation frame now = none) (whitelist : Whitelist) :
    frameIsCritical whitelist frame = false := by
  obtain ⟨classic, standard, extended⟩ := violationOf_eq_none accepted
  unfold frameIsCritical bytesAreCritical
  rw [classic]
  cases kind : frame.isExtended with
  | false =>
      have service := obdRequest_serviceByte (obdRequest_of_accepted (standard kind))
      split
      · rfl
      · rename_i first rest shape
        rw [if_pos Bool.false_ne_true]
        split
        · rfl
        · rcases service with none | ⟨sid, reads, found⟩
          · rw [none]
          · rw [found]
            exact readOnlyObdServices_uncritical sid reads
  | true =>
      obtain ⟨page, request⟩ := j1939Request_of_accepted (extended kind)
      split
      · rfl
      · rename_i first rest shape
        rw [if_neg (not_not_intro rfl)]
        split
        · rfl
        · cases request with
          | request format long listed =>
              obtain ⟨diagnostic, uncritical, _⟩ := j1939_uncritical page format (by decide)
              rw [if_neg (Bool.not_eq_true _ ▸ diagnostic)]
              dsimp only
              rw [if_neg (Bool.not_eq_true _ ▸ uncritical), requestedPgn_eq long]
              split
              · exact readOnlyJ1939RequestPgns_uncritical _ listed
              · rfl
          | testResults format report =>
              obtain ⟨diagnostic, uncritical, request⟩ := j1939_uncritical page format (by decide)
              rw [if_neg (Bool.not_eq_true _ ▸ diagnostic)]
              dsimp only
              rw [if_neg (Bool.not_eq_true _ ▸ uncritical)]
              exact if_neg (fun same => absurd (request same) (by decide))
          | transport format specific control listed =>
              obtain ⟨diagnostic, uncritical, request⟩ := j1939_uncritical page format (by decide)
              rw [if_neg (Bool.not_eq_true _ ▸ diagnostic)]
              dsimp only
              rw [if_neg (Bool.not_eq_true _ ▸ uncritical)]
              exact if_neg (fun same => absurd (request same) (by decide))

theorem singleFrame_nibbles {length : Nat} (most : length ≤ 7) :
    highNibble (UInt8.ofNat length) = pciSingleFrame ∧
      lowNibble (UInt8.ofNat length) = length := by
  interval_cases length <;> decide

theorem flowControlContinue_nibble : highNibble flowControlContinue = pciFlowControl := by
  decide

section Ecu

variable {ecu : ReceivingTransport} {frame : CanFrame}

theorem handleRxFrame_reads (normal : ecu.addressingMode = .normal)
    (request : ObdRequest frame.data) (now : Nat) :
    (ecu.handleRxFrame now frame).1.addressingMode = .normal ∧
      ∀ payload response, (ecu.handleRxFrame now frame).2 = .ok (some payload, response) →
        ∃ service ∈ readOnlyObdServices, payload.head? = some service := by
  unfold ReceivingTransport.handleRxFrame ReceivingTransport.receives
  rw [normal]
  split
  · refine ⟨normal, ?_⟩
    intro payload response completed
    cases completed
  · rename_i data received
    split at received
    · cases received
    · have same : frame.data = data := Option.some.inj received
      rw [same] at request
      unfold ReceivingTransport.handleNpdu
      dsimp only
      cases request with
      | single length service rest shape bounds full reads =>
          obtain ⟨least, most⟩ := bounds
          obtain ⟨pci, nibble⟩ := singleFrame_nibbles most
          have first : data.getD 0 0 = UInt8.ofNat length := by
            rw [shape]
            rfl
          rw [first, if_pos pci]
          unfold ReceivingTransport.handleSingleFrame
          rw [first, nibble, if_neg (by omega)]
          dsimp only
          split
          · refine ⟨normal, ?_⟩
            intro payload response completed
            cases completed
            refine ⟨service, reads, ?_⟩
            rw [shape]
            obtain ⟨more, rfl⟩ := Nat.exists_eq_add_of_le' least
            rfl
          · refine ⟨normal, ?_⟩
            intro payload response completed
            cases completed
      | flowControl rest shape =>
          have first : data.getD 0 0 = flowControlContinue := by
            rw [shape]
            rfl
          rw [first, flowControlContinue_nibble, if_neg (by decide), if_neg (by decide),
            if_neg (by decide)]
          refine ⟨normal, ?_⟩
          intro payload response completed
          cases completed

theorem receiveAll_reads (heard : List (Nat × CanFrame))
    (requests : ∀ entry ∈ heard, ObdRequest entry.2.data)
    (normal : ecu.addressingMode = .normal) :
    ∀ payload response, .ok (some payload, response) ∈ (ecu.receiveAll heard).2 →
      ∃ service ∈ readOnlyObdServices, payload.head? = some service := by
  induction heard generalizing ecu with
  | nil =>
      intro payload response completed
      cases completed
  | cons entry rest ih =>
      obtain ⟨now, frame⟩ := entry
      obtain ⟨keeps, reads⟩ :=
        handleRxFrame_reads normal (requests (now, frame) List.mem_cons_self) now
      intro payload response completed
      rcases List.mem_cons.mp completed with here | later
      · exact reads payload response here.symm
      · exact ih (fun other inside => requests other (List.mem_cons_of_mem _ inside)) keeps payload
          response later

end Ecu

def standardFrames (sent : List (Nat × CanFrame)) : List (Nat × CanFrame) :=
  sent.filter (fun entry => !entry.2.isExtended)

def onBus (entry : Nat × CanFrame) : Nat × Bytes := (entry.2.arbitrationId, entry.2.data)

/-- No sequence of permitted frames commands anything: the gateway takes none of them for
critical, an ECU completes read requests only, and what goes out on 29 bits asks for a
listed group, for test results, or answers a transfer of a listed group. -/
theorem read_only_session_commands_nothing (policy : ReadOnlyPolicy)
    (sent : List (Nat × CanFrame))
    (accepted : ∀ entry ∈ sent, policy.violation entry.2 entry.1 = none)
    (whitelist : Whitelist) (ecu : ReceivingTransport) (normal : ecu.addressingMode = .normal)
    (arrivals : List (Nat × CanFrame))
    (arrive : arrivals.map onBus = (standardFrames sent).map onBus) :
    (∀ entry ∈ sent, frameIsCritical whitelist entry.2 = false) ∧
      (∀ payload response, .ok (some payload, response) ∈ (ecu.receiveAll arrivals).2 →
        ∃ service ∈ readOnlyObdServices, payload.head? = some service) ∧
      ∀ entry ∈ sent, entry.2.isExtended = true →
        J1939Request entry.2.arbitrationId entry.2.data := by
  refine ⟨?_, ?_, ?_⟩
  · intro entry member
    exact accepted_not_critical (accepted entry member) whitelist
  · refine receiveAll_reads arrivals ?_ normal
    intro arrival member
    have heard : onBus arrival ∈ (standardFrames sent).map onBus := by
      rw [← arrive]
      exact List.mem_map_of_mem member
    obtain ⟨entry, inside, same⟩ := List.mem_map.mp heard
    obtain ⟨member, standard⟩ := List.mem_filter.mp inside
    have kind : entry.2.isExtended = false := by simpa using standard
    have bytes : entry.2.data = arrival.2.data := congrArg Prod.snd same
    rw [← bytes]
    exact obdRequest_of_accepted ((violationOf_eq_none (accepted entry member)).2.1 kind)
  · intro entry member extended
    exact (j1939Request_of_accepted
      ((violationOf_eq_none (accepted entry member)).2.2 extended)).2

def storedCodesRequest : CanFrame where
  channelId := "can0"
  arbitrationId := 0x7E0
  dlc := 8
  data := [0x01, 0x03, 0xCC, 0xCC, 0xCC, 0xCC, 0xCC, 0xCC]
  valid := by decide

def activeCodesRequest : CanFrame where
  channelId := "can0"
  arbitrationId := 0x18EAFFF9
  dlc := 3
  data := [0xCA, 0xFE, 0x00]
  isExtended := true
  valid := by decide

/-- The engine completes the request, with a multi-frame message still open. -/
theorem read_only_session_commands_nothing_mixed :
    let sent := [(1, activeCodesRequest), (2, storedCodesRequest)]
    let ecu : ReceivingTransport := {
      txId := 0x7E8
      channelId := "can0"
      rxId := 0x7E0
      sessions := [((0x7E0, "can0"), {
        totalBytes := 10
        receivedBytes := [0x2E, 0xF1, 0x90, 0x01, 0x02, 0x03]
        lastActivityTime := 0
        channelId := "can0" })] }
    let arrivals := [(9, storedCodesRequest)]
    (ecu.receiveAll arrivals).2 = [.ok (some [0x03], none)] ∧
      (∀ entry ∈ sent, frameIsCritical { ids := [], masks := [] } entry.2 = false) ∧
      (∀ payload response, .ok (some payload, response) ∈ (ecu.receiveAll arrivals).2 →
        ∃ service ∈ readOnlyObdServices, payload.head? = some service) ∧
      ∀ entry ∈ sent, entry.2.isExtended = true →
        J1939Request entry.2.arbitrationId entry.2.data :=
  ⟨by decide, read_only_session_commands_nothing { expiresNs := 100, j1939 := true } _
    (by decide) _ _ rfl _ (by decide)⟩

end Ucanlab.Safety
