import Ucanlab.Hal.ReplayFilter
import Ucanlab.Safety.DestinationIndependence

/-!
The replay filter against the gateway's classification. Both read the same
catalogue, each with a parser of its own: the filter strips destination and
extended data page from a parameter group, and takes the zero low byte of a
First Frame length for the 32-bit form only where the first byte says so.
-/

namespace Ucanlab.Replay

open Ucanlab Safety J1939 BitField

section Groups

theorem framePgn_eq (arbitrationId : Nat) :
    framePgn arbitrationId = arbitrationId / 256 % 262144 :=
  shiftRight_and_eq arbitrationId 8 18

theorem edpMaskedPgn_eq (arbitrationId : Nat) :
    edpMaskedPgn arbitrationId = arbitrationId / 256 % 131072 :=
  shiftRight_and_eq arbitrationId 8 17

theorem framePf_eq (arbitrationId : Nat) : framePf arbitrationId = arbitrationId / 65536 % 256 := by
  have field : framePf arbitrationId = framePgn arbitrationId / 256 % 256 :=
    shiftRight_and_eq (framePgn arbitrationId) 8 8
  rw [field, framePgn_eq]
  omega

theorem edpMaskedPf_eq (arbitrationId : Nat) :
    edpMaskedPf arbitrationId = arbitrationId / 65536 % 256 := by
  have field : edpMaskedPf arbitrationId = edpMaskedPgn arbitrationId / 256 % 256 :=
    shiftRight_and_eq (edpMaskedPgn arbitrationId) 8 8
  rw [field, edpMaskedPgn_eq]
  omega

theorem maskedPgn_eq (arbitrationId : Nat) :
    maskedPgn arbitrationId =
      if arbitrationId / 65536 % 256 < 240 then arbitrationId / 65536 % 1024 * 256
      else arbitrationId / 256 % 262144 := by
  have cleared : framePgn arbitrationId &&& 0x3FF00 = framePgn arbitrationId / 256 % 1024 * 256 :=
    and_shiftLeft_eq (framePgn arbitrationId) 8 10
  unfold maskedPgn
  rw [cleared, framePf_eq, framePgn_eq]
  split
  · omega
  · rfl

theorem edpMaskedNorm_eq (arbitrationId : Nat) :
    edpMaskedNorm arbitrationId =
      if arbitrationId / 65536 % 256 < 240 then arbitrationId / 65536 % 512 * 256
      else arbitrationId / 256 % 131072 := by
  have cleared : edpMaskedPgn arbitrationId &&& 0x1FF00 =
      edpMaskedPgn arbitrationId / 256 % 512 * 256 :=
    and_shiftLeft_eq (edpMaskedPgn arbitrationId) 8 9
  unfold edpMaskedNorm
  rw [cleared, edpMaskedPf_eq, edpMaskedPgn_eq]
  split
  · omega
  · rfl

/-- A group of the first data page that carries no destination. -/
def Plain (pgn : Nat) : Prop := pgn < 65536 ∧ (pgn / 256 < 240 → pgn % 256 = 0)

instance (pgn : Nat) : Decidable (Plain pgn) := by
  unfold Plain
  infer_instance

theorem norm_of_plain {arbitrationId pgn : Nat} (plain : Plain pgn)
    (form : pgn ∈ pgnForms arbitrationId) : pgn = edpMaskedNorm arbitrationId := by
  obtain ⟨page, destination⟩ := plain
  rw [edpMaskedNorm_eq]
  simp only [pgnForms, List.mem_cons, List.not_mem_nil, or_false] at form
  rw [framePgn_eq, maskedPgn_eq, edpMaskedPgn_eq, edpMaskedNorm_eq] at form
  split
  · rename_i pdu1
    rw [if_pos pdu1, if_pos pdu1] at form
    omega
  · rename_i pdu2
    rw [if_neg pdu2, if_neg pdu2] at form
    omega

theorem norm_mem_pgnForms (arbitrationId : Nat) :
    edpMaskedNorm arbitrationId ∈ pgnForms arbitrationId :=
  List.mem_of_mem_getLast? rfl

theorem namesPgn_eq {table : List Nat} (plain : ∀ pgn ∈ table, Plain pgn) (arbitrationId : Nat) :
    namesPgn table arbitrationId = table.contains (edpMaskedNorm arbitrationId) := by
  rw [Bool.eq_iff_iff, List.contains_iff_mem]
  unfold namesPgn
  rw [List.any_eq_true]
  constructor
  · intro ⟨pgn, form, listed⟩
    have member := List.contains_iff_mem.mp listed
    rw [← norm_of_plain (plain pgn member) form]
    exact member
  · intro member
    exact ⟨_, norm_mem_pgnForms arbitrationId, List.contains_iff_mem.mpr member⟩

theorem mem_of_commandsCritical {pgn : Nat} {data : Bytes}
    (commands : commandsCritical pgn data = true) : pgn ∈ j1939RequestPgn :: criticalJ1939Pgns := by
  unfold commandsCritical at commands
  rw [Bool.or_eq_true, List.contains_iff_mem, Bool.and_eq_true, beq_iff_eq] at commands
  rcases commands with critical | ⟨request, _⟩
  · exact List.mem_cons_of_mem _ critical
  · rw [request]
    exact List.mem_cons_self ..

theorem plain_of_commandsCritical {pgn : Nat} {data : Bytes}
    (commands : commandsCritical pgn data = true) : Plain pgn := by
  have every : ∀ other ∈ j1939RequestPgn :: criticalJ1939Pgns, Plain other := by decide
  exact every pgn (mem_of_commandsCritical commands)

end Groups

section Services

/-- A First Frame whose length ends in a zero byte and that the filter does not
take for the 32-bit form. -/
def ZeroLowFirstFrame (data : Bytes) (isFd : Bool) : Prop :=
  pciType (data.getD 0 0) = 0x1 ∧ data[1]? = some 0x00 ∧ isFdEscape data isFd = false

/-- Where the filter reads a service, so does the gateway, and the same one
unless the zero length byte misleads it. -/
theorem isoTpServiceByte_of_serviceAt {data : Bytes} {isFd : Bool} {sid : UInt8}
    (place : ServiceAt data isFd sid) (usual : ¬ ZeroLowFirstFrame data isFd) :
    isoTpServiceByte data isFd = some sid := by
  cases place with
  | fdSingle second rest bytes fd long length =>
      subst bytes
      subst fd
      have positive : second ≠ 0x00 := by
        intro zero
        rw [zero, UInt8.toNat_zero] at length
        omega
      unfold isoTpServiceByte
      dsimp only [List.getElem?_cons_succ, List.getElem?_cons_zero]
      rw [if_pos (show (0x00 : UInt8).toNat >>> 4 = 0x0 from rfl), if_pos rfl,
        if_neg (fun classic => classic rfl), if_neg positive, if_pos ⟨length.1, length.2.1⟩]
  | single first rest bytes pci short length =>
      subst bytes
      have positive : first ≠ 0x00 := by
        intro zero
        rw [zero, UInt8.toNat_zero, Nat.zero_and] at length
        omega
      unfold isoTpServiceByte
      dsimp only [List.getElem?_cons_succ, List.getElem?_cons_zero]
      rw [← pciType_eq, if_pos pci, if_neg positive]
  | fdFirst first second rest bytes pci escape service =>
      subst bytes
      simp only [isFdEscape, List.getElem?_cons_succ, List.getElem?_cons_zero, Bool.and_eq_true,
        beq_iff_eq, Option.some.injEq] at escape
      obtain ⟨⟨⟨fd, _⟩, zero⟩, _⟩ := escape
      unfold isoTpServiceByte
      dsimp only [List.getElem?_cons_succ, List.getElem?_cons_zero]
      rw [← pciType_eq, if_neg (by rw [pci]; decide), if_pos pci, if_pos zero,
        if_neg (fun classic => classic fd)]
      exact service
  | first first second rest bytes pci plain =>
      have nonzero : second ≠ 0x00 := by
        intro zero
        apply usual
        subst bytes
        exact ⟨pci, congrArg some zero, plain⟩
      subst bytes
      unfold isoTpServiceByte
      dsimp only [List.getElem?_cons_succ, List.getElem?_cons_zero]
      rw [← pciType_eq, if_neg (by rw [pci]; decide), if_pos pci, if_neg nonzero]

theorem isoTpServiceByte_of_zeroLow {data : Bytes} {isFd : Bool}
    (zeroLow : ZeroLowFirstFrame data isFd) :
    isoTpServiceByte data isFd = if isFd then data[6]? else none := by
  obtain ⟨pci, zero, _⟩ := zeroLow
  match data with
  | [] => cases zero
  | [_] => cases zero
  | first :: second :: rest =>
      rw [List.getD_cons_zero] at pci
      cases zero
      unfold isoTpServiceByte
      dsimp only [List.getElem?_cons_succ, List.getElem?_cons_zero]
      rw [← pciType_eq, if_neg (by rw [pci]; decide), if_pos pci, if_pos rfl]
      cases isFd with
      | true => rfl
      | false => rfl

end Services

section Agreement

def BlockReason.pgnTable : BlockReason → List Nat
  | .j1939Pgn _ => addressClaimPgns
  | .diagnosticWritePgn _ => diagnosticWritePgns
  | .actuationPgn _ => actuationPgns
  | .tunnelPgn _ => transportTunnelPgns
  | _ => []

def BlockReason.service : BlockReason → Option ExtractedSid
  | .prohibited29Bit sid => some sid
  | .prohibited11Bit sid => some sid
  | .isoTpSession sid => some sid
  | _ => none

/-- The filter blocks the frame for a critical service, or for a group that is
critical or a Request for a critical one. -/
def BlockedAsCritical (filter : ReplaySafetyFilter) (frame : CanFrame) : Prop :=
  ∃ reason, (filter.isFrameSafe frame).2 = some reason ∧
    ((∃ sid, reason.service = some (.byte sid) ∧ criticalUdsSids.contains sid = true) ∨
      ∃ pgn ∈ pgnForms frame.arbitrationId, pgn ∈ reason.pgnTable ∧
        commandsCritical pgn frame.data = true)

def tracksSessions (frame : CanFrame) : Bool :=
  if frame.isExtended then isDiagnosticPf frame.arbitrationId
  else diagnostic11BitIds.contains frame.arbitrationId &&
    !ecuResponse11BitIds.contains frame.arbitrationId

theorem isDiagnostic29Bit_eq (arbitrationId : Nat) :
    isDiagnostic29Bit arbitrationId = isDiagnosticPf arbitrationId := by
  have format := pduFormat_eq arbitrationId
  rw [Bool.eq_iff_iff, isDiagnosticPf_iff, format]
  unfold isDiagnostic29Bit
  rw [framePf_eq, edpMaskedPf_eq]
  simp only [Bool.or_eq_true, beq_iff_eq]
  omega

theorem tables_plain :
    (∀ pgn ∈ addressClaimPgns, Plain pgn) ∧ (∀ pgn ∈ diagnosticWritePgns, Plain pgn) ∧
      (∀ pgn ∈ actuationPgns, Plain pgn) ∧ (∀ pgn ∈ transportTunnelPgns, Plain pgn) := by
  decide

theorem norm_unlisted {arbitrationId : Nat} (diagnostic : isDiagnosticPf arbitrationId = true) :
    edpMaskedNorm arbitrationId ∉
      addressClaimPgns ++ diagnosticWritePgns ++ actuationPgns ++ transportTunnelPgns := by
  have format := (isDiagnosticPf_iff arbitrationId).mp diagnostic
  rw [pduFormat_eq] at format
  have every : ∀ pgn ∈ addressClaimPgns ++ diagnosticWritePgns ++ actuationPgns ++
      transportTunnelPgns, pgn / 256 % 256 ≠ 0xDA ∧ pgn / 256 % 256 ≠ 0xDB := by decide
  intro listed
  have other := every _ listed
  rw [edpMaskedNorm_eq, if_pos (by omega)] at other
  omega

section Verdict

variable {filter : ReplaySafetyFilter} {frame : CanFrame}

def groupVerdict (norm pgn : Nat) : Option BlockReason :=
  if norm ∈ addressClaimPgns then some (.j1939Pgn pgn)
  else if norm ∈ diagnosticWritePgns then some (.diagnosticWritePgn pgn)
  else if norm ∈ actuationPgns then some (.actuationPgn pgn)
  else if norm ∈ transportTunnelPgns then some (.tunnelPgn pgn)
  else none

theorem groupVerdict_reason {norm pgn : Nat} {reason : BlockReason}
    (verdict : groupVerdict norm pgn = some reason) :
    norm ∈ reason.pgnTable ∧ reason.service = none := by
  unfold groupVerdict at verdict
  split at verdict
  · rename_i listed
    cases verdict
    exact ⟨listed, rfl⟩
  · split at verdict
    · rename_i listed
      cases verdict
      exact ⟨listed, rfl⟩
    · split at verdict
      · rename_i listed
        cases verdict
        exact ⟨listed, rfl⟩
      · split at verdict
        · rename_i listed
          cases verdict
          exact ⟨listed, rfl⟩
        · cases verdict

theorem groupVerdict_eq_none_iff (norm pgn : Nat) :
    groupVerdict norm pgn = none ↔
      norm ∉ addressClaimPgns ++ diagnosticWritePgns ++ actuationPgns ++ transportTunnelPgns := by
  simp only [List.mem_append, not_or]
  unfold groupVerdict
  split
  · rename_i listed
    simp only [reduceCtorEq, listed, not_true_eq_false, false_and]
  · rename_i claim
    split
    · rename_i listed
      simp only [reduceCtorEq, listed, not_true_eq_false, and_false, false_and]
    · rename_i write
      split
      · rename_i listed
        simp only [reduceCtorEq, listed, not_true_eq_false, and_false, false_and]
      · rename_i actuation
        split
        · rename_i listed
          simp only [reduceCtorEq, listed, not_true_eq_false, and_false]
        · rename_i tunnel
          exact ⟨fun _ => ⟨⟨⟨claim, write⟩, actuation⟩, tunnel⟩, fun _ => rfl⟩

theorem isFrameSafe_default (standard : filter.policy = {}) :
    (filter.isFrameSafe frame).2 =
      if frame.isExtended then
        match groupVerdict (edpMaskedNorm frame.arbitrationId) (framePgn frame.arbitrationId) with
        | some reason => some reason
        | none =>
            if isDiagnosticPf frame.arbitrationId then
              (filter.countEvaluated.checkDiagnostic frame .prohibited29Bit .truncated29Bit).2
            else none
      else if frame.arbitrationId ∈ ecuResponse11BitIds then
        some (.ecuResponseSpoof frame.arbitrationId)
      else if frame.arbitrationId ∈ diagnostic11BitIds then
        (filter.countEvaluated.checkDiagnostic frame .prohibited11Bit .truncated11Bit).2
      else none := by
  obtain ⟨claim, write, actuation, tunnel⟩ := tables_plain
  unfold ReplaySafetyFilter.isFrameSafe groupVerdict
  rw [standard]
  simp only [List.contains_nil, Bool.false_eq_true, if_false, Bool.true_and, namesPgn_eq claim,
    namesPgn_eq write, namesPgn_eq actuation, namesPgn_eq tunnel, List.contains_iff_mem,
    isDiagnostic29Bit_eq, apply_ite Prod.snd]
  split
  · split
    · rfl
    · split
      · rfl
      · split
        · rfl
        · split
          · rfl
          · rfl
  · rfl

theorem checkDiagnostic_reason (standard : filter.policy = {})
    {prohibited : ExtractedSid → BlockReason} {truncated reason : BlockReason}
    (blocked : (filter.checkDiagnostic frame prohibited truncated).2 = some reason) :
    (∃ sid, extractUdsSid frame.data frame.isFd = some sid ∧ reason = prohibited sid) ∨
      reason = truncated ∨ reason = .tunnelCfFc frame.arbitrationId := by
  cases extracted : extractUdsSid frame.data frame.isFd with
  | some sid =>
      rw [ReplaySafetyFilter.checkDiagnostic_of_service _ _ extracted] at blocked
      dsimp only at blocked
      split at blocked
      · cases blocked
        exact Or.inl ⟨sid, rfl, rfl⟩
      · cases blocked
  | none =>
      rw [ReplaySafetyFilter.checkDiagnostic_of_no_service _ _ extracted] at blocked
      dsimp only at blocked
      split at blocked
      · rename_i other judged
        cases blocked
        rcases ReplaySafetyFilter.checkIsoTpCfFc_reason judged with
          ⟨_, same⟩ | ⟨_, _, analysis, _⟩
        · exact Or.inr (Or.inr same)
        · rw [standard] at analysis
          cases analysis
      · split at blocked
        · cases blocked
        · cases blocked
          exact Or.inr (Or.inl rfl)

theorem prohibitedSid_of_critical {sid : UInt8} (critical : criticalUdsSids.contains sid = true) :
    filter.prohibitedSid (.byte sid) = true := by
  have listed : prohibitedUdsSids.contains sid = true := by
    rw [List.contains_iff_mem] at critical ⊢
    exact List.mem_append_left _ critical
  change (prohibitedUdsSids.contains sid || _) = true
  rw [listed, Bool.true_or]

theorem checkDiagnostic_of_critical {sid : UInt8} (prohibited : ExtractedSid → BlockReason)
    (truncated : BlockReason) (service : ServiceAt frame.data frame.isFd sid)
    (critical : criticalUdsSids.contains sid = true) :
    (filter.checkDiagnostic frame prohibited truncated).2 = some (prohibited (.byte sid)) := by
  rw [ReplaySafetyFilter.checkDiagnostic_of_service _ _ (extractUdsSid_byte_iff.mpr service)]
  exact if_pos (prohibitedSid_of_critical critical)

theorem listed_of_commandsCritical {pgn : Nat} {data : Bytes}
    (commands : commandsCritical pgn data = true) :
    pgn ∈ addressClaimPgns ++ diagnosticWritePgns ++ actuationPgns ++ transportTunnelPgns := by
  have every : ∀ other ∈ j1939RequestPgn :: criticalJ1939Pgns, other ∈
      addressClaimPgns ++ diagnosticWritePgns ++ actuationPgns ++ transportTunnelPgns := by decide
  exact every pgn (mem_of_commandsCritical commands)

theorem serviceAt_of_reason (standard : filter.policy = {})
    {prohibited : ExtractedSid → BlockReason} {truncated reason : BlockReason} {sid : UInt8}
    (blocked : (filter.checkDiagnostic frame prohibited truncated).2 = some reason)
    (service : reason.service = some (.byte sid))
    (named : ∀ found, (prohibited found).service = some found)
    (nameless : truncated.service = none) : ServiceAt frame.data frame.isFd sid := by
  rcases checkDiagnostic_reason standard blocked with ⟨found, extracted, same⟩ | same | same
  · rw [same, named found] at service
    cases service
    exact extractUdsSid_byte_iff.mp extracted
  · rw [same, nameless] at service
    cases service
  · rw [same] at service
    cases service

theorem blockedAsCritical_iff (standard : filter.policy = {}) :
    BlockedAsCritical filter frame ↔
      (frame.isExtended = true ∧
          commandsCritical (edpMaskedNorm frame.arbitrationId) frame.data = true) ∨
        (tracksSessions frame = true ∧
          ∃ sid, ServiceAt frame.data frame.isFd sid ∧ criticalUdsSids.contains sid = true) := by
  have judged : filter.countEvaluated.policy = {} := standard
  unfold BlockedAsCritical tracksSessions
  rw [isFrameSafe_default standard]
  cases format : frame.isExtended with
  | true =>
      rw [if_pos rfl, if_pos rfl]
      constructor
      · intro ⟨reason, verdict, cause⟩
        rcases cause with ⟨sid, service, critical⟩ | ⟨pgn, form, listed, commands⟩
        · split at verdict
          · rename_i grouped
            cases verdict
            rw [(groupVerdict_reason grouped).2] at service
            cases service
          · split at verdict
            · rename_i diagnostic
              exact Or.inr ⟨diagnostic, sid,
                serviceAt_of_reason judged verdict service (fun _ => rfl) rfl, critical⟩
            · cases verdict
        · rw [← norm_of_plain (plain_of_commandsCritical commands) form]
          exact Or.inl ⟨rfl, commands⟩
      · intro cause
        rcases cause with ⟨_, commands⟩ | ⟨diagnostic, sid, service, critical⟩
        · cases grouped : groupVerdict (edpMaskedNorm frame.arbitrationId)
              (framePgn frame.arbitrationId) with
          | none =>
              exact absurd (listed_of_commandsCritical commands)
                ((groupVerdict_eq_none_iff _ _).mp grouped)
          | some reason =>
              exact ⟨reason, rfl, Or.inr ⟨_, norm_mem_pgnForms _, (groupVerdict_reason grouped).1,
                commands⟩⟩
        · rw [(groupVerdict_eq_none_iff _ _).mpr (norm_unlisted diagnostic)]
          dsimp only
          rw [if_pos diagnostic]
          exact ⟨_, checkDiagnostic_of_critical _ _ service critical,
            Or.inl ⟨sid, rfl, critical⟩⟩
  | false =>
      rw [if_neg Bool.false_ne_true, if_neg Bool.false_ne_true]
      constructor
      · intro ⟨reason, verdict, cause⟩
        split at verdict
        · cases verdict
          rcases cause with ⟨_, service, _⟩ | ⟨_, _, listed, _⟩
          · cases service
          · exact absurd listed List.not_mem_nil
        · rename_i request
          split at verdict
          · rename_i diagnostic
            rcases cause with ⟨sid, service, critical⟩ | ⟨_, _, listed, _⟩
            · refine Or.inr ⟨?_, sid,
                serviceAt_of_reason judged verdict service (fun _ => rfl) rfl, critical⟩
              simp only [diagnostic, request, decide_false, Bool.not_false, Bool.and_self,
                List.contains_eq_mem, decide_true]
            · rcases checkDiagnostic_reason judged verdict with ⟨_, _, same⟩ | same | same
              · rw [same] at listed
                exact absurd listed List.not_mem_nil
              · rw [same] at listed
                exact absurd listed List.not_mem_nil
              · rw [same] at listed
                exact absurd listed List.not_mem_nil
          · cases verdict
      · intro cause
        rcases cause with ⟨impossible, _⟩ | ⟨tracked, sid, service, critical⟩
        · cases impossible
        · rw [Bool.and_eq_true, Bool.not_eq_true', ← Bool.not_eq_true, List.contains_iff_mem,
            List.contains_iff_mem] at tracked
          rw [if_neg tracked.2, if_pos tracked.1]
          exact ⟨_, checkDiagnostic_of_critical _ _ service critical,
            Or.inl ⟨sid, rfl, critical⟩⟩

end Verdict

/-- The shapes that hide from the gateway what the filter blocks as critical: a
command group whose identifier carries the extended data page or a destination
or whose payload is empty, and a First Frame whose zero length byte makes the
gateway look for the service elsewhere. -/
inductive GatewayBlind (frame : CanFrame) : Prop where
  | group (extended : frame.isExtended = true)
      (commands : commandsCritical (edpMaskedNorm frame.arbitrationId) frame.data = true)
      (hidden : frame.data = [] ∨
        framePgn frame.arbitrationId ≠ edpMaskedNorm frame.arbitrationId)
  | service (sid : UInt8) (tracked : tracksSessions frame = true)
      (zeroLow : ZeroLowFirstFrame frame.data frame.isFd) (third : frame.data[2]? = some sid)
      (critical : criticalUdsSids.contains sid = true)
      (unread : (if frame.isFd then frame.data[6]? else none).elim (!frame.isExtended)
        (fun other => !criticalUdsSids.contains other) = true)

section Gateway

variable {whitelist : Whitelist} {frame : CanFrame}

theorem frameIsCritical_tracked (tracked : tracksSessions frame = true)
    (authorized : whitelist.authorizes frame.arbitrationId = true)
    (pci : pciType (frame.data.getD 0 0) = 0x0 ∨ pciType (frame.data.getD 0 0) = 0x1)
    (nonempty : frame.data ≠ []) :
    frameIsCritical whitelist frame =
      (isoTpServiceByte frame.data frame.isFd).elim frame.isExtended
        (fun sid => criticalUdsSids.contains sid) := by
  unfold tracksSessions at tracked
  cases extended : frame.isExtended with
  | true =>
      rw [extended, if_pos rfl] at tracked
      rw [frameIsCritical_extended extended nonempty
        (Whitelist.isEmpty_of_authorizes authorized), if_pos tracked]
      unfold serviceIsCritical
      rw [pciType_eq] at pci
      cases isoTpServiceByte frame.data frame.isFd with
      | none => exact decide_eq_true pci
      | some sid => rfl
  | false =>
      unfold frameIsCritical bytesAreCritical
      rw [extended, authorized]
      cases bytes : frame.data with
      | nil => exact absurd bytes nonempty
      | cons first rest =>
          simp only [Bool.false_eq_true, not_false_eq_true, if_true, not_true_eq_false, if_false]
          cases isoTpServiceByte (first :: rest) frame.isFd with
          | none => rfl
          | some sid => rfl

theorem plain_of_groupIsCritical {pgn : Nat} {data : Bytes}
    (critical : groupIsCritical pgn data = true) : Plain pgn := by
  have listed : pgn ∈ j1939RequestPgn :: criticalJ1939Pgns := by
    unfold groupIsCritical at critical
    rw [Bool.or_eq_true, List.contains_iff_mem, Bool.and_eq_true, beq_iff_eq] at critical
    rcases critical with member | ⟨request, _⟩
    · exact List.mem_cons_of_mem _ member
    · rw [request]
      exact List.mem_cons_self ..
  have every : ∀ other ∈ j1939RequestPgn :: criticalJ1939Pgns, Plain other := by decide
  exact every pgn listed

theorem groupIsCritical_of_commands {pgn : Nat} {data : Bytes}
    (commands : commandsCritical pgn data = true) : groupIsCritical pgn data = true := by
  rw [← Bool.not_eq_false]
  intro harmless
  rw [((groupIsCritical_eq_false_iff pgn data).mp harmless).1] at commands
  cases commands

/-- The gateway sees a critical group exactly when it is sent under its plain
number and with a payload. -/
theorem frameIsCritical_group (extended : frame.isExtended = true)
    (authorized : whitelist.authorizes frame.arbitrationId = true)
    (commands : commandsCritical (edpMaskedNorm frame.arbitrationId) frame.data = true) :
    frameIsCritical whitelist frame = true ↔
      frame.data ≠ [] ∧ framePgn frame.arbitrationId = edpMaskedNorm frame.arbitrationId := by
  by_cases empty : frame.data = []
  · rw [frameIsCritical_silent extended (Or.inl empty)]
    exact ⟨nofun, fun visible => absurd empty visible.1⟩
  · have plain : isDiagnosticPf frame.arbitrationId = false := by
      rw [← Bool.not_eq_true]
      intro diagnostic
      exact norm_unlisted diagnostic (listed_of_commandsCritical commands)
    rw [frameIsCritical_extended extended empty (Whitelist.isEmpty_of_authorizes authorized),
      plain, if_neg Bool.false_ne_true, ← framePgn_eq]
    constructor
    · intro critical
      exact ⟨empty, norm_of_plain (plain_of_groupIsCritical critical) (List.mem_cons_self ..)⟩
    · intro visible
      rw [visible.2]
      exact groupIsCritical_of_commands commands

theorem serviceAt_of_zeroLow {data : Bytes} {isFd : Bool} {sid : UInt8}
    (zeroLow : ZeroLowFirstFrame data isFd) (third : data[2]? = some sid) :
    ServiceAt data isFd sid := by
  obtain ⟨pci, zero, plain⟩ := zeroLow
  match data with
  | [] => cases zero
  | [_] => cases zero
  | [_, _] => cases third
  | first :: second :: third' :: rest =>
      cases third
      exact .first first second rest rfl pci plain

theorem third_of_zeroLow {data : Bytes} {isFd : Bool} {sid : UInt8}
    (zeroLow : ZeroLowFirstFrame data isFd) (service : ServiceAt data isFd sid) :
    data[2]? = some sid := by
  obtain ⟨pci, zero, plain⟩ := zeroLow
  cases service with
  | fdSingle second rest bytes fd long length =>
      subst bytes
      exact absurd pci (by rw [List.getD_cons_zero]; decide)
  | single first rest bytes single short length =>
      subst bytes
      rw [List.getD_cons_zero, single] at pci
      cases pci
  | fdFirst first second rest bytes _ escape =>
      rw [plain] at escape
      cases escape
  | first first second rest bytes =>
      subst bytes
      rfl

/-- Filter and gateway agree on a frame exactly when it has none of the hiding
shapes. -/
theorem replay_filter_agrees_iff {filter : ReplaySafetyFilter} (standard : filter.policy = {})
    (authorized : whitelist.authorizes frame.arbitrationId = true) :
    (BlockedAsCritical filter frame → frameIsCritical whitelist frame = true) ↔
      ¬ GatewayBlind frame := by
  rw [blockedAsCritical_iff standard]
  have reading : ∀ sid, tracksSessions frame = true → ServiceAt frame.data frame.isFd sid →
      frameIsCritical whitelist frame =
        (isoTpServiceByte frame.data frame.isFd).elim frame.isExtended
          (fun sid => criticalUdsSids.contains sid) := by
    intro sid tracked service
    obtain ⟨long, pci⟩ :=
      ReplaySafetyFilter.pciType_of_extracted (extractUdsSid_byte_iff.mpr service)
    apply frameIsCritical_tracked tracked authorized pci
    intro empty
    rw [empty] at long
    cases long
  constructor
  · intro agrees blind
    cases blind with
    | group extended commands hidden =>
        have critical := agrees (Or.inl ⟨extended, commands⟩)
        obtain ⟨nonempty, visible⟩ :=
          (frameIsCritical_group extended authorized commands).mp critical
        rcases hidden with empty | other
        · exact nonempty empty
        · exact other visible
    | service sid tracked zeroLow third critical unread =>
        have service := serviceAt_of_zeroLow zeroLow third
        have verdict := agrees (Or.inr ⟨tracked, sid, service, critical⟩)
        rw [reading sid tracked service, isoTpServiceByte_of_zeroLow zeroLow] at verdict
        generalize (if frame.isFd then frame.data[6]? else none) = found at verdict unread
        cases found with
        | none =>
            change frame.isExtended = true at verdict
            change (!frame.isExtended) = true at unread
            rw [verdict] at unread
            cases unread
        | some other =>
            change criticalUdsSids.contains other = true at verdict
            change (!criticalUdsSids.contains other) = true at unread
            rw [verdict] at unread
            cases unread
  · intro visible cause
    rcases cause with ⟨extended, commands⟩ | ⟨tracked, sid, service, critical⟩
    · rw [frameIsCritical_group extended authorized commands]
      constructor
      · intro empty
        exact visible (.group extended commands (Or.inl empty))
      · by_contra other
        exact visible (.group extended commands (Or.inr other))
    · rw [reading sid tracked service]
      by_cases zeroLow : ZeroLowFirstFrame frame.data frame.isFd
      · rw [isoTpServiceByte_of_zeroLow zeroLow]
        rw [← Bool.not_eq_false]
        intro missed
        refine visible (.service sid tracked zeroLow (third_of_zeroLow zeroLow service) critical ?_)
        generalize (if frame.isFd then frame.data[6]? else none) = found at missed ⊢
        cases found with
        | none => exact congrArg (! ·) missed
        | some other => exact congrArg (! ·) missed
      · rw [isoTpServiceByte_of_serviceAt service zeroLow]
        exact critical

end Gateway

section Bench

def testerWhitelist : Whitelist := { ids := [0x7E0], masks := [] }

def transferFirstFrame : CanFrame where
  channelId := "can0"
  arbitrationId := 0x7E0
  dlc := 8
  data := [0x11, 0x00, 0x36, 0x01, 0x00, 0x00, 0x00, 0x00]
  valid := by decide

def resetSingleFrame : CanFrame where
  channelId := "can0"
  arbitrationId := 0x7E0
  dlc := 8
  data := [0x02, 0x11, 0x01, 0xCC, 0xCC, 0xCC, 0xCC, 0xCC]
  valid := by decide

theorem replay_filter_agrees_iff_reset :
    BlockedAsCritical (ReplaySafetyFilter.new {}) resetSingleFrame ∧
      (BlockedAsCritical (ReplaySafetyFilter.new {}) resetSingleFrame →
        frameIsCritical testerWhitelist resetSingleFrame = true) := by
  have sighted : ¬ GatewayBlind resetSingleFrame := by
    intro blind
    cases blind with
    | group extended => exact absurd extended (by decide)
    | service sid tracked zeroLow => exact absurd zeroLow.1 (by decide)
  exact ⟨⟨.prohibited11Bit (.byte 0x11), by decide, Or.inl ⟨0x11, rfl, by decide⟩⟩,
    (replay_filter_agrees_iff rfl (by decide)).mpr sighted⟩

/-- The filter blocks TransferData where the gateway finds no service. -/
theorem transferFirstFrame_disagrees :
    ¬ ∀ (filter : ReplaySafetyFilter) (whitelist : Whitelist) (frame : CanFrame),
      filter.policy = {} → whitelist.authorizes frame.arbitrationId = true →
        BlockedAsCritical filter frame → frameIsCritical whitelist frame = true := by
  intro agrees
  have blocked : BlockedAsCritical (ReplaySafetyFilter.new {}) transferFirstFrame :=
    ⟨.prohibited11Bit (.byte 0x36), by decide, Or.inl ⟨0x36, rfl, by decide⟩⟩
  exact absurd (agrees _ testerWhitelist _ rfl (by decide) blocked) (by decide)

end Bench

end Agreement

end Ucanlab.Replay
