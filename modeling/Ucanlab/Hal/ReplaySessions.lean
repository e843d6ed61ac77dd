import Ucanlab.Hal.ReplayAgreement
import Ucanlab.Safety.Segmentation

/-!
Prohibited requests against the replay filter: the frame a segmented request
opens with, and the frames that follow it when tunnelling is allowed. The ledger
is kept by arbitration identifier, so the last First Frame on the identifier
decides, whichever channel it was recorded on.
-/

namespace Ucanlab.Replay

open Ucanlab Safety IsoTp

section Opening

/-- A transport in normal addressing that can build frames, on an identifier the
filter takes for a diagnostic one. -/
structure DiagnosticLink where
  transport : IsoTpTransport
  normal : transport.addressingMode = .normal
  channel : validChannelId transport.channelId = true
  padding : 0 ≤ transport.padByte.getD 0xCC ∧ transport.padByte.getD 0xCC ≤ 0xFF
  inRange : transport.txId ≤ 0x1FFFFFFF
  diagnostic : if 0x7FF < transport.txId then isDiagnosticPf transport.txId = true
    else transport.txId ∈ diagnostic11BitIds

/-- The same transport on a gateway that may send its identifier. -/
def DiagnosticLink.toUdsLink (link : DiagnosticLink) :
    UdsLink { ids := [link.transport.txId], masks := [] } where
  transport := link.transport
  normal := link.normal
  channel := link.channel
  padding := link.padding
  inRange := link.inRange
  diagnostic := fun long => by
    have diagnostic := link.diagnostic
    rw [if_pos long] at diagnostic
    exact diagnostic
  authorized := by
    unfold Whitelist.authorizes
    rw [List.contains_iff_mem.mpr (List.mem_singleton_self _), Bool.true_or]

structure ProhibitedRequest (isFd : Bool) where
  sid : UInt8
  parameters : Bytes
  prohibited : sid ∈ prohibitedUdsSids
  bounded : parameters.length + 1 ≤ if isFd then maxUdsPayloadFd else maxUdsPayloadClassic

def ProhibitedRequest.payload {isFd : Bool} (request : ProhibitedRequest isFd) : Bytes :=
  request.sid :: request.parameters

theorem firstFrameHeader_bytes (length : Nat) :
    ∃ high low, firstFrameHeader length = [high, low] ∧ pciType high = 0x1 ∧
      (high = 0x10 → low = 0x00 → length ≤ 4095 → length = 0) := by
  refine ⟨_, _, rfl, ?_, ?_⟩
  · rw [pciType_eq]
    exact firstFrameHeader_pci length
  · intro high low form
    have lowByte := (lowByte_eq_zero_iff length).mp low
    have nibble : (length >>> 8) &&& 0x0F = length / 256 % 16 :=
      BitField.shiftRight_and_eq length 8 4
    rw [nibble] at high
    have every : ∀ nibble : Fin 16,
        UInt8.ofNat ((pciFirstFrame <<< 4) ||| nibble.val) = 0x10 → nibble.val = 0 := by decide
    have zero := every ⟨length / 256 % 16, Nat.mod_lt _ (by decide)⟩ high
    change length / 256 % 16 = 0 at zero
    omega

/-- The service of an opening frame is found in each of its forms but the 32-bit
one on classic CAN, which is read as a 12-bit one. -/
theorem extractUdsSid_firstFrame {sid : UInt8} {parameters : Bytes} {isFd : Bool} {data : Bytes}
    (shape : FirstFrameBytes (sid :: parameters) isFd data)
    (bounded : isFd = false → (sid :: parameters).length ≤ 4096) :
    extractUdsSid data isFd =
      if isFd = false ∧ (sid :: parameters).length = 4096 then some (.byte 0x00)
      else some (.byte sid) := by
  have positive : 1 ≤ (sid :: parameters).length := Nat.succ_pos _
  generalize shown : (sid :: parameters).length = length at shape bounded positive ⊢
  cases shape with
  | single pad short total =>
      rw [shown] at short total ⊢
      rw [if_neg (by omega), extractUdsSid_byte_iff]
      have nibble : (singleFramePci length).toNat &&& 0x0F = length := by
        rw [singleFramePci_toNat length short]
        interval_cases length <;> rfl
      refine .single (singleFramePci length) (parameters ++ pad) rfl ?_ ?_ ?_
      · rw [pciType_eq, singleFramePci_toNat length short]
        interval_cases length <;> rfl
      · intro _
        simp only [List.length_cons, List.length_append] at shown total ⊢
        omega
      · rw [nibble]
        simp only [List.length_cons, List.length_append] at shown total ⊢
        omega
  | fdSingle pad fd lower upper =>
      rw [shown] at lower upper ⊢
      have size : (UInt8.ofNat length).toNat = length := by
        rw [UInt8.toNat_ofNat']
        omega
      rw [if_neg (by omega), extractUdsSid_byte_iff]
      refine .fdSingle (UInt8.ofNat length) (parameters ++ pad) rfl fd ?_ ?_
      · simp only [List.length_cons, List.length_append] at shown ⊢
        omega
      · rw [size]
        simp only [List.length_cons, List.length_append] at shown ⊢
        omega
  | first capacity pad long form beyond room =>
      rw [shown] at long form beyond ⊢
      obtain ⟨high, low, header, pci, zero⟩ := firstFrameHeader_bytes length
      obtain ⟨more, rfl⟩ : ∃ more, capacity = more + 1 := ⟨capacity - 1, by omega⟩
      rw [if_neg (by omega), header, extractUdsSid_byte_iff]
      refine .first high low (parameters.take more ++ pad) rfl pci ?_
      unfold isFdEscape
      by_cases tens : high = 0x10
      · have nonzero : low ≠ 0x00 := fun low => by
          have empty := zero tens low form
          omega
        simp [nonzero]
      · simp [tens]
  | escape capacity pad form room =>
      rw [shown] at form ⊢
      obtain ⟨more, rfl⟩ : ∃ more, capacity = more + 1 := ⟨capacity - 1, by omega⟩
      cases isFd with
      | true =>
          rw [if_neg (fun classic => Bool.noConfusion classic.1), extractUdsSid_byte_iff]
          exact .fdFirst 0x10 0x00 _ rfl (by decide) rfl rfl
      | false =>
          have exact : length = 4096 := by
            have upper := bounded rfl
            omega
          subst exact
          rw [if_pos ⟨rfl, rfl⟩, extractUdsSid_byte_iff]
          exact .first 0x10 0x00 _ rfl (by decide) rfl

theorem isFrameSafe_tracked {filter : ReplaySafetyFilter} {frame : CanFrame}
    (bare : filter.policy.customBlockedIds = [])
    (active : filter.policy.blockDiagnosticWrite = true)
    (tracked : tracksSessions frame = true) :
    filter.isFrameSafe frame =
      if frame.isExtended then
        filter.countEvaluated.checkDiagnostic frame .prohibited29Bit .truncated29Bit
      else filter.countEvaluated.checkDiagnostic frame .prohibited11Bit .truncated11Bit := by
  obtain ⟨claim, write, actuation, tunnel⟩ := tables_plain
  have outright : ReplaySafetyFilter.outrightReason filter.policy frame.arbitrationId
      frame.isExtended = none := by
    unfold ReplaySafetyFilter.outrightReason tracksSessions at *
    rw [bare]
    cases extended : frame.isExtended with
    | true =>
        rw [extended, if_pos rfl] at tracked
        have unlisted := norm_unlisted tracked
        simp only [List.mem_append, not_or] at unlisted
        simp [namesPgn_eq claim, namesPgn_eq write, namesPgn_eq actuation, namesPgn_eq tunnel,
          unlisted]
    | false =>
        rw [extended, if_neg Bool.false_ne_true, Bool.and_eq_true, Bool.not_eq_true'] at tracked
        simp only [List.contains_nil, Bool.false_eq_true, if_false, tracked.2, Bool.and_false]
  have gate : ReplaySafetyFilter.gated filter.policy frame = true := by
    unfold ReplaySafetyFilter.gated tracksSessions at *
    rw [active, Bool.true_and]
    cases extended : frame.isExtended with
    | true =>
        rw [extended, if_pos rfl] at tracked
        rw [if_pos rfl, isDiagnostic29Bit_eq]
        exact tracked
    | false =>
        rw [extended, if_neg Bool.false_ne_true, Bool.and_eq_true] at tracked
        exact tracked.1
  rw [ReplaySafetyFilter.isFrameSafe_eq, outright]
  exact if_pos gate

theorem isFrameSafe_untracked {filter : ReplaySafetyFilter} {frame : CanFrame}
    (active : filter.policy.blockDiagnosticWrite = true)
    (untracked : tracksSessions frame = false) :
    filter.isFrameSafe frame = (filter.countEvaluated,
      ReplaySafetyFilter.outrightReason filter.policy frame.arbitrationId frame.isExtended) := by
  rw [ReplaySafetyFilter.isFrameSafe_eq]
  cases outright : ReplaySafetyFilter.outrightReason filter.policy frame.arbitrationId
      frame.isExtended with
  | some reason => rfl
  | none =>
      refine if_neg (Bool.eq_false_iff.mp ?_)
      unfold ReplaySafetyFilter.gated
      unfold tracksSessions at untracked
      rw [active, Bool.true_and]
      cases extended : frame.isExtended with
      | true =>
          rw [extended, if_pos rfl] at untracked
          rw [if_pos rfl, isDiagnostic29Bit_eq]
          exact untracked
      | false =>
          rw [extended, if_neg Bool.false_ne_true] at untracked
          rw [if_neg Bool.false_ne_true]
          -- a response identifier would have been refused outright
          cases response : ecuResponse11BitIds.contains frame.arbitrationId with
          | true =>
              unfold ReplaySafetyFilter.outrightReason at outright
              rw [extended, active, response] at outright
              dsimp only at outright
              split at outright
              · cases outright
              · cases outright
          | false =>
              rw [response, Bool.not_false, Bool.and_true] at untracked
              exact untracked

theorem filterFrame_eq_none_iff (filter : ReplaySafetyFilter) (frame : CanFrame) :
    (filter.filterFrame frame).2 = none ↔ (filter.isFrameSafe frame).2.isSome = true := by
  unfold ReplaySafetyFilter.filterFrame
  split
  · rename_i judged reason verdict
    rw [verdict]
    exact ⟨fun _ => rfl, fun _ => rfl⟩
  · rename_i judged verdict
    rw [verdict]
    exact ⟨nofun, nofun⟩

theorem isFrameSafe_of_service {filter : ReplaySafetyFilter} {frame : CanFrame}
    {sid : ExtractedSid} (bare : filter.policy.customBlockedIds = [])
    (active : filter.policy.blockDiagnosticWrite = true)
    (tracked : tracksSessions frame = true)
    (extracted : extractUdsSid frame.data frame.isFd = some sid) :
    (filter.isFrameSafe frame).2.isSome = filter.prohibitedSid sid := by
  have verdict : ∀ prohibited truncated,
      (filter.countEvaluated.checkDiagnostic frame prohibited truncated).2.isSome =
        filter.prohibitedSid sid := by
    intro prohibited truncated
    rw [ReplaySafetyFilter.checkDiagnostic_of_service _ _ extracted]
    change (if filter.prohibitedSid sid then some (prohibited sid) else none).isSome = _
    cases filter.prohibitedSid sid with
    | true => rfl
    | false => rfl
  rw [isFrameSafe_tracked bare active tracked]
  split
  · exact verdict _ _
  · exact verdict _ _

theorem first_frame_blocked_iff (link : DiagnosticLink) {isFd : Bool}
    (request : ProhibitedRequest isFd) (brs : Option Bool) {filter : ReplaySafetyFilter}
    (standard : filter.policy = {}) :
    ∃ first rest, link.transport.segmentMessage request.payload isFd brs = .ok (first :: rest) ∧
      ((filter.filterFrame first).2 = none ↔
        ¬ (isFd = false ∧ request.payload.length = 4096 ∧
          link.transport.txId ∉ ecuResponse11BitIds)) := by
  have bare : filter.policy.customBlockedIds = [] := by rw [standard]
  have active : filter.policy.blockDiagnosticWrite = true := by rw [standard]
  obtain ⟨sid, parameters, prohibitedService, bounded⟩ := request
  have positive : 0 < (sid :: parameters).length := Nat.succ_pos _
  obtain ⟨first, rest, built, shape, arbitrationId, extended, fd⟩ :=
    segmentMessage_first link.toUdsLink positive bounded brs
  change first.arbitrationId = link.transport.txId at arbitrationId
  change first.isExtended = decide (link.transport.txId > 0x7FF) at extended
  refine ⟨first, rest, built, ?_⟩
  change _ ↔ ¬ (_ ∧ (sid :: parameters).length = 4096 ∧ _)
  subst fd
  have extracted := extractUdsSid_firstFrame shape (fun classic => by
    rw [classic] at bounded
    exact bounded)
  rw [filterFrame_eq_none_iff]
  have diagnostic := link.diagnostic
  by_cases response : link.transport.txId ∈ ecuResponse11BitIds
  · have standardId : first.isExtended = false := by
      have short : ∀ id ∈ ecuResponse11BitIds, ¬ id > 0x7FF := by decide
      rw [extended, decide_eq_false (short _ response)]
    rw [isFrameSafe_default standard, standardId, if_neg Bool.false_ne_true, arbitrationId,
      if_pos response]
    exact ⟨fun _ hidden => hidden.2.2 response, fun _ => rfl⟩
  · have tracked : tracksSessions first = true := by
      unfold tracksSessions
      rw [extended, arbitrationId]
      by_cases long : link.transport.txId > 0x7FF
      · rw [if_pos long] at diagnostic
        rw [decide_eq_true long, if_pos rfl]
        exact diagnostic
      · rw [if_neg long] at diagnostic
        rw [decide_eq_false long, if_neg Bool.false_ne_true, Bool.and_eq_true, Bool.not_eq_true',
          List.contains_iff_mem, ← Bool.not_eq_true, List.contains_iff_mem]
        exact ⟨diagnostic, response⟩
    have prohibited : filter.prohibitedSid (.byte sid) = true := by
      change (prohibitedUdsSids.contains sid || _) = true
      rw [List.contains_iff_mem.mpr prohibitedService, Bool.true_or]
    have benign : filter.prohibitedSid (.byte 0x00) = false := by
      unfold ReplaySafetyFilter.prohibitedSid
      rw [standard]
      decide
    by_cases hidden : first.isFd = false ∧ (sid :: parameters).length = 4096
    · have found : extractUdsSid first.data first.isFd = some (.byte 0x00) :=
        extracted.trans (if_pos hidden)
      rw [isFrameSafe_of_service bare active tracked found, benign]
      exact ⟨nofun, fun visible => absurd ⟨hidden.1, hidden.2, response⟩ visible⟩
    · have found : extractUdsSid first.data first.isFd = some (.byte sid) :=
        extracted.trans (if_neg hidden)
      rw [isFrameSafe_of_service bare active tracked found, prohibited]
      exact ⟨fun _ missed => hidden ⟨missed.1, missed.2.1⟩, fun _ => rfl⟩

end Opening

section Ledger

def analysisPolicy : FilterPolicy := { blockTransportTunneling := false }

def opensLedger (arbitrationId : Nat) (frame : CanFrame) : Option ExtractedSid :=
  if frame.arbitrationId = arbitrationId ∧ tracksSessions frame = true ∧
      pciType (frame.data.getD 0 0) = 0x1 then
    extractUdsSid frame.data frame.isFd
  else none

/-- The service of the last First Frame recorded under the identifier, on
whichever channel. -/
def lastOpening (arbitrationId : Nat) : List CanFrame → Option ExtractedSid
  | [] => none
  | frame :: rest => (lastOpening arbitrationId rest).or (opensLedger arbitrationId frame)

namespace ReplaySafetyFilter

def pendingProhibited (filter : ReplaySafetyFilter) (arbitrationId : Nat) : Bool :=
  (filter.isoTpPending arbitrationId).any (fun entry => filter.prohibitedSid entry.1)

theorem setPending_prohibited (filter : ReplaySafetyFilter) (arbitrationId other : Nat)
    (entry : Option (ExtractedSid × Nat)) :
    (filter.setPending arbitrationId entry).pendingProhibited other =
      if other = arbitrationId then entry.any (fun entry => filter.prohibitedSid entry.1)
      else filter.pendingProhibited other := by
  unfold pendingProhibited setPending
  dsimp only
  split
  · rfl
  · rfl

theorem checkIsoTpCfFc_policy (filter : ReplaySafetyFilter) (frame : CanFrame) :
    (filter.checkIsoTpCfFc frame).1.policy = filter.policy := by
  unfold checkIsoTpCfFc
  split
  · rfl
  · split
    · rfl
    · split
      · rfl
      · split
        · rfl
        · split
          · rfl
          · split
            · split
              · rfl
              · rfl
            · rfl

theorem checkIsoTpCfFc_prohibited (filter : ReplaySafetyFilter) (frame : CanFrame)
    (arbitrationId : Nat) :
    (filter.checkIsoTpCfFc frame).1.pendingProhibited arbitrationId =
      filter.pendingProhibited arbitrationId := by
  unfold checkIsoTpCfFc
  split
  · rfl
  · split
    · rfl
    · split
      · rfl
      · split
        · rfl
        · rename_i sid remaining pending
          split
          · rfl
          · rename_i benign
            have before : filter.pendingProhibited frame.arbitrationId = false := by
              unfold pendingProhibited
              rw [pending]
              exact Bool.eq_false_iff.mpr benign
            have replaced : ∀ entry : Option (ExtractedSid × Nat),
                entry.any (fun entry => filter.prohibitedSid entry.1) = false →
                (filter.setPending frame.arbitrationId entry).pendingProhibited arbitrationId =
                  filter.pendingProhibited arbitrationId := by
              intro entry harmless
              rw [setPending_prohibited, harmless]
              split
              · rename_i same
                rw [same, before]
              · rfl
            split
            · split
              · exact replaced none rfl
              · exact replaced (some (sid, _)) (Bool.eq_false_iff.mpr benign)
            · rfl

theorem checkDiagnostic_prohibited {filter : ReplaySafetyFilter} {frame : CanFrame}
    (tracked : tracksSessions frame = true) (prohibited : ExtractedSid → BlockReason)
    (truncated : BlockReason) (arbitrationId : Nat) :
    (filter.checkDiagnostic frame prohibited truncated).1.policy = filter.policy ∧
      (filter.checkDiagnostic frame prohibited truncated).1.pendingProhibited arbitrationId =
        ((opensLedger arbitrationId frame).map filter.prohibitedSid).getD
          (filter.pendingProhibited arbitrationId) := by
  unfold opensLedger
  rw [tracked]
  cases extracted : extractUdsSid frame.data frame.isFd with
  | none =>
      rw [checkDiagnostic_of_no_service _ _ extracted]
      refine ⟨checkIsoTpCfFc_policy filter frame, ?_⟩
      rw [ite_self]
      exact checkIsoTpCfFc_prohibited filter frame arbitrationId
  | some sid =>
      rw [checkDiagnostic_of_service _ _ extracted]
      dsimp only
      by_cases opening : pciType (frame.data.getD 0 0) = 0x1
      · rw [if_pos opening]
        refine ⟨rfl, ?_⟩
        unfold registerFirstFrame
        rw [setPending_prohibited]
        by_cases same : arbitrationId = frame.arbitrationId
        · rw [if_pos same, if_pos ⟨same.symm, rfl, opening⟩]
          rfl
        · rw [if_neg same, if_neg (fun all => same all.1.symm)]
          rfl
      · rw [if_neg opening, if_neg (fun all => opening all.2.2)]
        exact ⟨rfl, rfl⟩

theorem isFrameSafe_prohibited {filter : ReplaySafetyFilter}
    (standard : filter.policy = analysisPolicy) (frame : CanFrame) (arbitrationId : Nat) :
    (filter.isFrameSafe frame).1.policy = filter.policy ∧
      (filter.isFrameSafe frame).1.pendingProhibited arbitrationId =
        ((opensLedger arbitrationId frame).map filter.prohibitedSid).getD
          (filter.pendingProhibited arbitrationId) := by
  have bare : filter.policy.customBlockedIds = [] := by rw [standard]; rfl
  have active : filter.policy.blockDiagnosticWrite = true := by rw [standard]; rfl
  cases tracked : tracksSessions frame with
  | true =>
      rw [isFrameSafe_tracked bare active tracked]
      split
      · exact checkDiagnostic_prohibited tracked _ _ arbitrationId
      · exact checkDiagnostic_prohibited tracked _ _ arbitrationId
  | false =>
      have silent : opensLedger arbitrationId frame = none := by
        unfold opensLedger
        rw [tracked]
        exact if_neg (fun all => Bool.noConfusion all.2.1)
      rw [isFrameSafe_untracked active tracked, silent]
      exact ⟨rfl, rfl⟩

theorem filterFrame_prohibited {filter : ReplaySafetyFilter}
    (standard : filter.policy = analysisPolicy) (frame : CanFrame) (arbitrationId : Nat) :
    (filter.filterFrame frame).1.policy = analysisPolicy ∧
      (filter.filterFrame frame).1.pendingProhibited arbitrationId =
        ((opensLedger arbitrationId frame).map filter.prohibitedSid).getD
          (filter.pendingProhibited arbitrationId) := by
  have judged := isFrameSafe_prohibited standard frame arbitrationId
  rw [standard] at judged
  unfold filterFrame
  split
  · rename_i after reason verdict
    rw [verdict] at judged
    exact judged
  · rename_i after verdict
    rw [verdict] at judged
    exact judged

theorem filterSequence_cons (filter : ReplaySafetyFilter) (frame : CanFrame)
    (rest : List CanFrame) :
    (filter.filterSequence (frame :: rest)).1 =
      ((filter.filterFrame frame).1.filterSequence rest).1 := by
  rw [filterSequence]
  split
  · rename_i judged verdict
    rw [verdict]
  · rename_i judged passed verdict
    rw [verdict]

/-- After any frames the ledger answers with the last First Frame recorded under
the identifier. -/
theorem filterSequence_prohibited {filter : ReplaySafetyFilter}
    (standard : filter.policy = analysisPolicy) (frames : List CanFrame) (arbitrationId : Nat) :
    (filter.filterSequence frames).1.policy = analysisPolicy ∧
      (filter.filterSequence frames).1.pendingProhibited arbitrationId =
        ((lastOpening arbitrationId frames).map filter.prohibitedSid).getD
          (filter.pendingProhibited arbitrationId) := by
  induction frames generalizing filter with
  | nil => exact ⟨standard, rfl⟩
  | cons frame rest ih =>
      obtain ⟨policy, pending⟩ := filterFrame_prohibited standard frame arbitrationId
      obtain ⟨laterPolicy, later⟩ := ih policy
      have same : (filter.filterFrame frame).1.prohibitedSid = filter.prohibitedSid := by
        funext sid
        unfold prohibitedSid
        rw [policy, standard]
      rw [filterSequence_cons]
      refine ⟨laterPolicy, ?_⟩
      rw [later, pending, same, lastOpening]
      cases lastOpening arbitrationId rest with
      | none => rfl
      | some sid => rfl

theorem checkIsoTpCfFc_consecutive {filter : ReplaySafetyFilter}
    (standard : filter.policy = analysisPolicy) {frame : CanFrame}
    (pci : pciType (frame.data.getD 0 0) = 0x2) :
    (filter.checkIsoTpCfFc frame).2.isSome = filter.pendingProhibited frame.arbitrationId := by
  unfold checkIsoTpCfFc pendingProhibited
  cases bytes : frame.data with
  | nil =>
      rw [bytes] at pci
      exact absurd pci (by decide)
  | cons first carried =>
      rw [bytes, List.getD_cons_zero] at pci
      have analysis : filter.policy.blockTransportTunneling = false := by rw [standard]; rfl
      dsimp only
      rw [if_neg (by omega), analysis, if_neg Bool.false_ne_true]
      cases filter.isoTpPending frame.arbitrationId with
      | none => rfl
      | some entry =>
          rw [Option.any_some]
          cases prohibited : filter.prohibitedSid entry.1 with
          | true =>
              dsimp only
              rw [if_pos prohibited]
              rfl
          | false =>
              dsimp only
              rw [if_neg (Bool.eq_false_iff.mp prohibited), if_pos pci]
              split
              · rfl
              · rfl

theorem consecutive_blocked_iff {filter : ReplaySafetyFilter}
    (standard : filter.policy = analysisPolicy) {frame : CanFrame}
    (tracked : tracksSessions frame = true) (pci : pciType (frame.data.getD 0 0) = 0x2) :
    (filter.isFrameSafe frame).2.isSome = true ↔
      (2 ≤ frame.data.length → filter.pendingProhibited frame.arbitrationId = true) := by
  have bare : filter.policy.customBlockedIds = [] := by rw [standard]; rfl
  have active : filter.policy.blockDiagnosticWrite = true := by rw [standard]; rfl
  have extracted : extractUdsSid frame.data frame.isFd = none := by
    cases found : extractUdsSid frame.data frame.isFd with
    | none => rfl
    | some sid =>
        have service := (pciType_of_extracted found).2
        omega
  have judged : filter.countEvaluated.policy = analysisPolicy := standard
  have session := checkIsoTpCfFc_consecutive judged pci
  have gate : ∀ prohibited truncated,
      (filter.countEvaluated.checkDiagnostic frame prohibited truncated).2.isSome = true ↔
        (2 ≤ frame.data.length → filter.pendingProhibited frame.arbitrationId = true) := by
    intro prohibited truncated
    rw [checkDiagnostic_of_no_service _ _ extracted]
    dsimp only
    change _ = filter.pendingProhibited frame.arbitrationId at session
    rw [← session]
    cases (filter.countEvaluated.checkIsoTpCfFc frame).2 with
    | some reason => exact ⟨fun _ _ => rfl, fun _ => rfl⟩
    | none =>
        dsimp only
        split
        · rename_i long
          exact ⟨nofun, fun impossible => impossible long⟩
        · rename_i short
          exact ⟨fun _ long => absurd long short, fun _ => rfl⟩
  rw [isFrameSafe_tracked bare active tracked]
  split
  · exact gate _ _
  · exact gate _ _

end ReplaySafetyFilter

/-- Frames of one session: the same identifier in the same format on the same
channel. -/
structure SameSession (left right : CanFrame) : Prop where
  channel : left.channelId = right.channelId
  arbitrationId : left.arbitrationId = right.arbitrationId
  format : left.isExtended = right.isExtended

/-- A replay under the analysis policy: some frames, a First Frame that is
blocked, frames of which none opens a session on its channel and identifier,
and a Consecutive Frame of that session. -/
structure BlockedSession where
  earlier : List CanFrame
  opening : CanFrame
  between : List CanFrame
  continuation : CanFrame
  first : pciType (opening.data.getD 0 0) = 0x1
  blocked : (((ReplaySafetyFilter.new analysisPolicy).filterSequence earlier).1.filterFrame
    opening).2 = none
  undisturbed : ∀ frame ∈ between, SameSession frame opening →
    frame.data ≠ [] → pciType (frame.data.getD 0 0) ≠ 0x0 ∧ pciType (frame.data.getD 0 0) ≠ 0x1
  own : SameSession continuation opening
  consecutive : pciType (continuation.data.getD 0 0) = 0x2

namespace BlockedSession

def frames (session : BlockedSession) : List CanFrame :=
  session.earlier ++ session.opening :: session.between

def ContinuationBlocked (session : BlockedSession) : Prop :=
  (((ReplaySafetyFilter.new analysisPolicy).filterSequence session.frames).1.filterFrame
    session.continuation).2 = none

/-- The last First Frame recorded under the identifier carries a prohibited or
unreadable service. -/
def LastOpeningProhibited (session : BlockedSession) : Prop :=
  (lastOpening session.continuation.arbitrationId session.frames).any
    (ReplaySafetyFilter.new analysisPolicy).prohibitedSid = true

end BlockedSession

/-- The Consecutive Frames of a blocked session are blocked exactly while the
last First Frame recorded under their identifier is prohibited; a frame of one
byte and the frames of other identifiers are blocked in any case. -/
theorem continuation_blocked_iff (session : BlockedSession) :
    session.ContinuationBlocked ↔
      (tracksSessions session.continuation = true → 2 ≤ session.continuation.data.length →
        session.LastOpeningProhibited) := by
  have same : tracksSessions session.continuation = tracksSessions session.opening := by
    unfold tracksSessions
    rw [session.own.arbitrationId, session.own.format]
  have initial : (ReplaySafetyFilter.new analysisPolicy).policy = analysisPolicy := rfl
  obtain ⟨policy, pending⟩ := ReplaySafetyFilter.filterSequence_prohibited initial session.frames
    session.continuation.arbitrationId
  unfold BlockedSession.ContinuationBlocked
  rw [filterFrame_eq_none_iff]
  cases tracked : tracksSessions session.continuation with
  | true =>
      have answer : ((ReplaySafetyFilter.new analysisPolicy).filterSequence
          session.frames).1.pendingProhibited session.continuation.arbitrationId = true ↔
            session.LastOpeningProhibited := by
        rw [pending]
        unfold BlockedSession.LastOpeningProhibited
        cases lastOpening session.continuation.arbitrationId session.frames with
        | none => exact Iff.rfl
        | some sid => exact Iff.rfl
      rw [ReplaySafetyFilter.consecutive_blocked_iff policy tracked session.consecutive, answer]
      exact ⟨fun blocked _ => blocked, fun blocked => blocked rfl⟩
  | false =>
      -- the verdict on the opening was one on its identifier
      have active : analysisPolicy.blockDiagnosticWrite = true := rfl
      obtain ⟨earlierPolicy, _⟩ := ReplaySafetyFilter.filterSequence_prohibited initial
        session.earlier session.continuation.arbitrationId
      have blocked := session.blocked
      rw [filterFrame_eq_none_iff, isFrameSafe_untracked (by rw [earlierPolicy]; exact active)
        (same.symm.trans tracked), earlierPolicy] at blocked
      rw [isFrameSafe_untracked (by rw [policy]; exact active) tracked, policy,
        session.own.arbitrationId, session.own.format]
      exact ⟨fun _ impossible => Bool.noConfusion impossible, fun _ => blocked⟩

/-- A prohibited request is blocked by its First Frame and its session by the
ledger exactly under these two conditions. -/
theorem prohibited_sessions_blocked_iff (link : DiagnosticLink) {isFd : Bool}
    (request : ProhibitedRequest isFd) (brs : Option Bool) {filter : ReplaySafetyFilter}
    (standard : filter.policy = {}) (session : BlockedSession) :
    (∃ first rest, link.transport.segmentMessage request.payload isFd brs = .ok (first :: rest) ∧
      ((filter.filterFrame first).2 = none ↔
        ¬ (isFd = false ∧ request.payload.length = 4096 ∧
          link.transport.txId ∉ ecuResponse11BitIds))) ∧
      (session.ContinuationBlocked ↔
        (tracksSessions session.continuation = true → 2 ≤ session.continuation.data.length →
          session.LastOpeningProhibited)) :=
  ⟨first_frame_blocked_iff link request brs standard, continuation_blocked_iff session⟩

end Ledger

section Bench

def testerLink : DiagnosticLink where
  transport := { channelId := "can0", txId := 0x7E0 }
  normal := rfl
  channel := by decide
  padding := by decide
  inRange := by decide
  diagnostic := by decide

def transferRequest (count : Nat) (short : count + 2 ≤ 4096) : ProhibitedRequest false where
  sid := 0x36
  parameters := 0x01 :: List.replicate count 0x00
  prohibited := by decide
  bounded := by
    rw [List.length_cons, List.length_replicate]
    exact short

def transferOpening : CanFrame where
  channelId := "can0"
  arbitrationId := 0x7E0
  dlc := 8
  data := [0x10, 0x14, 0x36, 0x01, 0x00, 0x00, 0x00, 0x00]
  valid := by decide

def transferContinuation : CanFrame where
  channelId := "can0"
  arbitrationId := 0x7E0
  dlc := 8
  data := [0x21, 0x00, 0x00, 0x00, 0x00, 0x00, 0x00, 0x00]
  valid := by decide

def readOpening : CanFrame where
  channelId := "can1"
  arbitrationId := 0x7E0
  dlc := 8
  data := [0x10, 0x14, 0x22, 0xF1, 0x90, 0xF1, 0x91, 0xF1]
  valid := by decide

def transferSession (disturbed : Bool) : BlockedSession where
  earlier := []
  opening := transferOpening
  between := if disturbed then [readOpening] else []
  continuation := transferContinuation
  first := by decide
  blocked := by decide
  undisturbed := by
    intro frame member sameSession
    cases disturbed with
    | false => cases member
    | true =>
        rw [List.mem_singleton.mp member] at sameSession
        exact absurd sameSession.channel (by decide)
  own := ⟨rfl, rfl, rfl⟩
  consecutive := by decide

theorem prohibited_sessions_blocked_iff_transfer :
    (∃ first rest, testerLink.transport.segmentMessage (transferRequest 18 (by decide)).payload
        false none = .ok (first :: rest) ∧
      (((ReplaySafetyFilter.new {}).filterFrame first).2 = none ↔
        ¬ (false = false ∧ (transferRequest 18 (by decide)).payload.length = 4096 ∧
          testerLink.transport.txId ∉ ecuResponse11BitIds))) ∧
      ((transferSession false).ContinuationBlocked ↔
        (tracksSessions transferContinuation = true → 2 ≤ transferContinuation.data.length →
          (transferSession false).LastOpeningProhibited)) :=
  prohibited_sessions_blocked_iff testerLink (transferRequest 18 (by decide)) none rfl
    (transferSession false)

/-- The First Frame of 4096 bytes passes, and so does a transfer after the other
channel has opened a read. -/
theorem transferSession_passes :
    (¬ ∀ (link : DiagnosticLink) (isFd : Bool) (request : ProhibitedRequest isFd)
        (brs : Option Bool) (filter : ReplaySafetyFilter) (first : CanFrame)
        (rest : List CanFrame), filter.policy = {} →
        link.transport.segmentMessage request.payload isFd brs = .ok (first :: rest) →
          (filter.filterFrame first).2 = none) ∧
      ¬ ∀ session : BlockedSession, session.ContinuationBlocked := by
  constructor
  · intro blocks
    have standard : (ReplaySafetyFilter.new {}).policy = {} := rfl
    obtain ⟨first, rest, built, verdict⟩ := first_frame_blocked_iff testerLink
      (transferRequest 4094 (by decide)) none standard
    refine verdict.mp (blocks _ _ _ _ _ _ _ rfl built) ⟨rfl, ?_, by decide⟩
    change (0x36 :: 0x01 :: List.replicate 4094 (0x00 : UInt8)).length = 4096
    rw [List.length_cons, List.length_cons, List.length_replicate]
  · intro blocks
    have blocked := (continuation_blocked_iff (transferSession true)).mp
      (blocks (transferSession true)) (by decide) (by decide)
    unfold BlockedSession.LastOpeningProhibited at blocked
    exact absurd blocked (by decide)

end Bench

end Ucanlab.Replay
