import Ucanlab.Protocols.J1939.Identifier
import Ucanlab.Safety.Whitelist

/-!
The gateway's classification against the destination of a J1939 frame. The
gateway compares the 18 bits above the source address, which in PDU1 format end
in the destination, with a catalogue of parameter groups that have none.
-/

namespace Ucanlab.Safety

open Ucanlab J1939 BitField

def commandsCritical (pgn : Nat) (data : Bytes) : Bool :=
  criticalJ1939Pgns.contains pgn ||
    (pgn == j1939RequestPgn &&
      (j1939RequestedPgn data).any (fun requested => criticalJ1939Pgns.contains requested))

/-- The verdict on a frame depends on its parameter group and payload alone, and
a critical command is critical whomever it is sent to. -/
structure DestinationBlind (whitelist : Whitelist) (frame : CanFrame) : Prop where
  same : ∀ other : CanFrame, other.isExtended = true →
    (parseJ1939Id other.arbitrationId).pgn = (parseJ1939Id frame.arbitrationId).pgn →
    other.data = frame.data → frameIsCritical whitelist other = frameIsCritical whitelist frame
  critical : commandsCritical (parseJ1939Id frame.arbitrationId).pgn frame.data = true →
    frameIsCritical whitelist frame = true

def FormatBlind (data : Bytes) : Prop :=
  ∀ sid, isoTpServiceByte data true = some sid → criticalUdsSids.contains sid = false →
    isoTpServiceByte data false = some sid

/-- The parameter group is neither critical nor a Request that names a critical
one or none, and on the diagnostic identifiers the frame format does not matter. -/
structure DestinationSafe (whitelist : Whitelist) (frame : CanFrame) : Prop where
  harmless : commandsCritical (parseJ1939Id frame.arbitrationId).pgn frame.data = false
  readable : frame.data = [] ∨ whitelist.isEmpty = true ∨
    (((parseJ1939Id frame.arbitrationId).pgn = j1939RequestPgn →
        (j1939RequestedPgn frame.data).isSome = true) ∧
      (isDiagnosticPf frame.arbitrationId = true → frame.data.length ≤ 8 →
        FormatBlind frame.data))

section Identifiers

/-- The 18 bits the gateway compares. -/
theorem rawPgn_eq (arbitrationId : Nat) :
    (arbitrationId >>> 8) &&& 0x3FFFF = arbitrationId / 256 % 262144 :=
  shiftRight_and_eq arbitrationId 8 18

theorem isDiagnosticPf_iff (arbitrationId : Nat) :
    isDiagnosticPf arbitrationId = true ↔
      pduFormat arbitrationId = 0xDA ∨ pduFormat arbitrationId = 0xDB := by
  unfold isDiagnosticPf pduFormat isoTp29BitPf isoTp29BitFunctionalPf
  simp only [Bool.or_eq_true, beq_iff_eq]

/-- Identifiers of one parameter group share everything but priority,
destination and source. -/
theorem sameGroup {left right : Nat} (pdu1 : pduFormat right < 240)
    (same : (parseJ1939Id left).pgn = (parseJ1939Id right).pgn) :
    left / 65536 % 1024 = right / 65536 % 1024 := by
  rw [parseJ1939Id_pgn_of_pdu1 pdu1] at same
  rw [pduFormat_eq] at pdu1
  by_cases form : pduFormat left < 240
  · rw [parseJ1939Id_pgn_of_pdu1 form] at same
    omega
  · rw [parseJ1939Id_pgn_of_pdu2 form] at same
    rw [pduFormat_eq] at form
    omega

theorem isDiagnosticPf_of_sameGroup {left right : Nat}
    (same : left / 65536 % 1024 = right / 65536 % 1024) :
    isDiagnosticPf left = isDiagnosticPf right := by
  have formats : pduFormat left = pduFormat right := by
    rw [pduFormat_eq, pduFormat_eq]
    omega
  rw [Bool.eq_iff_iff, isDiagnosticPf_iff, isDiagnosticPf_iff, formats]

end Identifiers

section Verdicts

/-- The verdict outside the diagnostic identifiers, on the group as compared. -/
def groupIsCritical (pgn : Nat) (data : Bytes) : Bool :=
  criticalJ1939Pgns.contains pgn ||
    (pgn == j1939RequestPgn &&
      (j1939RequestedPgn data).all (fun requested => criticalJ1939Pgns.contains requested))

/-- The verdict on the diagnostic identifiers. -/
def serviceIsCritical (data : Bytes) (isFd : Bool) : Bool :=
  match isoTpServiceByte data isFd with
  | none => decide ((data.getD 0 0).toNat >>> 4 = 0x0 ∨ (data.getD 0 0).toNat >>> 4 = 0x1)
  | some sid => criticalUdsSids.contains sid

variable {whitelist : Whitelist} {frame : CanFrame}

theorem frameIsCritical_silent (extended : frame.isExtended = true)
    (silent : frame.data = [] ∨ whitelist.isEmpty = true) :
    frameIsCritical whitelist frame = false := by
  unfold frameIsCritical bytesAreCritical
  rw [extended]
  rcases silent with empty | empty
  · rw [empty]
  · rw [empty]
    cases frame.data with
    | nil => rfl
    | cons first rest => rfl

theorem frameIsCritical_extended (extended : frame.isExtended = true)
    (nonempty : frame.data ≠ []) (listed : whitelist.isEmpty = false) :
    frameIsCritical whitelist frame =
      if isDiagnosticPf frame.arbitrationId then serviceIsCritical frame.data frame.isFd
      else groupIsCritical (frame.arbitrationId / 256 % 262144) frame.data := by
  unfold frameIsCritical bytesAreCritical
  rw [extended, listed]
  cases bytes : frame.data with
  | nil => exact absurd bytes nonempty
  | cons first rest =>
      simp only [not_true_eq_false, if_false, Bool.false_eq_true, rawPgn_eq]
      split
      · rfl
      · unfold groupIsCritical
        cases criticalJ1939Pgns.contains (frame.arbitrationId / 256 % 262144) with
        | true => rfl
        | false =>
            rw [Bool.false_or, if_neg Bool.false_ne_true]
            by_cases request : frame.arbitrationId / 256 % 262144 = j1939RequestPgn
            · rw [if_pos request, request, beq_self_eq_true, Bool.true_and]
              cases j1939RequestedPgn (first :: rest) with
              | none => rfl
              | some requested => rfl
            · rw [if_neg request, beq_eq_false_iff_ne.mpr request, Bool.false_and]

theorem isoTpServiceByte_classic (data : Bytes) :
    isoTpServiceByte data false = none ∨
      isoTpServiceByte data false = isoTpServiceByte data true := by
  unfold isoTpServiceByte
  cases data with
  | nil => exact Or.inl rfl
  | cons first rest =>
      dsimp only
      split
      · split
        · exact Or.inl rfl
        · split
          · exact Or.inl rfl
          · exact Or.inr rfl
      · split
        · split
          · exact Or.inl rfl
          · split
            · exact Or.inl rfl
            · exact Or.inr rfl
        · exact Or.inl rfl

theorem isoTpServiceByte_pci {data : Bytes} {isFd : Bool} {sid : UInt8}
    (service : isoTpServiceByte data isFd = some sid) :
    (data.getD 0 0).toNat >>> 4 = 0x0 ∨ (data.getD 0 0).toNat >>> 4 = 0x1 := by
  unfold isoTpServiceByte at service
  cases data with
  | nil => cases service
  | cons first rest =>
      rw [List.getD_cons_zero]
      by_cases single : first.toNat >>> 4 = 0x0
      · exact Or.inl single
      · by_cases multiple : first.toNat >>> 4 = 0x1
        · exact Or.inr multiple
        · dsimp only at service
          rw [if_neg single, if_neg multiple] at service
          cases service

theorem serviceIsCritical_formats (data : Bytes) :
    serviceIsCritical data false = serviceIsCritical data true ↔ FormatBlind data := by
  unfold serviceIsCritical FormatBlind
  rcases isoTpServiceByte_classic data with hidden | same
  · rw [hidden]
    cases service : isoTpServiceByte data true with
    | none => exact ⟨fun _ _ found => (nomatch found), fun _ => rfl⟩
    | some sid =>
        dsimp only
        rw [decide_eq_true (isoTpServiceByte_pci service)]
        constructor
        · intro critical other found benign
          cases found
          rw [← critical] at benign
          cases benign
        · intro blind
          cases verdict : criticalUdsSids.contains sid with
          | true => rfl
          | false => cases blind sid rfl verdict
  · rw [same]
    exact ⟨fun _ sid found _ => found, fun _ => rfl⟩

theorem groupIsCritical_destined {pgn : Nat} (group : pgn % 256 = 0) (pdu1 : pgn / 256 % 256 < 240)
    {destination : Nat} (positive : 0 < destination) (byte : destination < 256) (data : Bytes) :
    groupIsCritical (pgn + destination) data = false := by
  have unlisted : criticalJ1939Pgns.contains (pgn + destination) = false := by
    rw [← Bool.not_eq_true, List.contains_iff_mem]
    simp only [criticalJ1939Pgns, List.mem_cons, List.not_mem_nil, or_false]
    omega
  have other : pgn + destination ≠ j1939RequestPgn := by
    unfold j1939RequestPgn
    omega
  unfold groupIsCritical
  rw [unlisted, beq_eq_false_iff_ne.mpr other, Bool.false_and, Bool.or_false]

theorem groupIsCritical_eq_false_iff (pgn : Nat) (data : Bytes) :
    groupIsCritical pgn data = false ↔
      commandsCritical pgn data = false ∧
        (pgn = j1939RequestPgn → (j1939RequestedPgn data).isSome = true) := by
  unfold groupIsCritical commandsCritical
  cases criticalJ1939Pgns.contains pgn with
  | true => simp
  | false =>
      by_cases request : pgn = j1939RequestPgn
      · cases j1939RequestedPgn data with
        | none => simp [request]
        | some requested => simp [request]
      · simp [request]

theorem commandsCritical_of_diagnostic {arbitrationId : Nat}
    (diagnostic : isDiagnosticPf arbitrationId = true) (data : Bytes) :
    commandsCritical (parseJ1939Id arbitrationId).pgn data = false := by
  have format := (isDiagnosticPf_iff arbitrationId).mp diagnostic
  have pdu1 : pduFormat arbitrationId < 240 := by omega
  rw [parseJ1939Id_pgn_of_pdu1 pdu1]
  rw [pduFormat_eq] at format
  generalize pages : arbitrationId / 65536 % 1024 = group
  have unlisted : criticalJ1939Pgns.contains (group * 256) = false := by
    rw [← Bool.not_eq_true, List.contains_iff_mem]
    simp only [criticalJ1939Pgns, List.mem_cons, List.not_mem_nil, or_false]
    omega
  have other : group * 256 ≠ j1939RequestPgn := by
    unfold j1939RequestPgn
    omega
  unfold commandsCritical
  rw [unlisted, beq_eq_false_iff_ne.mpr other, Bool.false_and, Bool.or_false]

end Verdicts

section Readdressing

theorem readdressed_valid (frame : CanFrame) (extended : frame.isExtended = true)
    (destination : Fin 256) :
    FrameFields.postInit { frame.toFrameFields with
      arbitrationId := frame.arbitrationId / 65536 % 1024 * 65536 + destination * 256 } = none := by
  obtain ⟨channelId, dlc, _, classicDlc, classicFlags, fdLength, exactLength⟩ := frame.wellFormed
  apply (FrameFields.postInit_eq_none_iff _).mpr
  refine ⟨channelId, dlc, ?_, classicDlc, classicFlags, fdLength, exactLength⟩
  have small := destination.isLt
  simp only [extended, maxId, if_true]
  omega

/-- The frame sent to another destination, with priority and source zero. -/
def readdressed (frame : CanFrame) (extended : frame.isExtended = true) (destination : Fin 256) :
    CanFrame where
  toFrameFields := { frame.toFrameFields with
    arbitrationId := frame.arbitrationId / 65536 % 1024 * 65536 + destination * 256 }
  valid := readdressed_valid frame extended destination

def reformatted (frame : CanFrame) (short : frame.data.length ≤ 8) (isFd : Bool) : CanFrame where
  toFrameFields := {
    channelId := frame.channelId
    arbitrationId := frame.arbitrationId
    dlc := frame.data.length
    data := frame.data
    isExtended := frame.isExtended
    isFd := isFd }
  valid := by
    obtain ⟨channelId, _, arbitrationId, _, _, _, _⟩ := frame.wellFormed
    apply (FrameFields.postInit_eq_none_iff _).mpr
    refine ⟨channelId, Nat.le_trans short (by decide), arbitrationId, fun _ => short,
      fun _ => ⟨rfl, rfl⟩, ?_, ?_⟩
    · intro _ long
      exact absurd (Nat.le_trans long short) (by decide)
    · intro _
      change frame.data.length = dlcToLengthTable.getD frame.data.length 0
      generalize frame.data.length = length at short
      interval_cases length <;> rfl

end Readdressing

section Independence

variable {whitelist : Whitelist} {frame : CanFrame}

theorem destinationBlind_iff_of_diagnostic (extended : frame.isExtended = true)
    (nonempty : frame.data ≠ []) (listed : whitelist.isEmpty = false)
    (diagnostic : isDiagnosticPf frame.arbitrationId = true) :
    DestinationBlind whitelist frame ↔ (frame.data.length ≤ 8 → FormatBlind frame.data) := by
  have format := (isDiagnosticPf_iff frame.arbitrationId).mp diagnostic
  have pdu1 : pduFormat frame.arbitrationId < 240 := by omega
  have verdict : ∀ other : CanFrame, other.isExtended = true →
      isDiagnosticPf other.arbitrationId = true → other.data = frame.data →
      frameIsCritical whitelist other = serviceIsCritical frame.data other.isFd := by
    intro other otherExtended otherDiagnostic bytes
    rw [frameIsCritical_extended otherExtended (by rw [bytes]; exact nonempty) listed,
      if_pos otherDiagnostic, bytes]
  constructor
  · intro blind short
    rw [← serviceIsCritical_formats]
    have classic := blind.same (reformatted frame short false) extended rfl rfl
    have fd := blind.same (reformatted frame short true) extended rfl rfl
    have formats := classic.trans fd.symm
    rw [verdict (reformatted frame short false) extended diagnostic rfl,
      verdict (reformatted frame short true) extended diagnostic rfl] at formats
    exact formats
  · intro formatBlind
    constructor
    · intro other otherExtended group bytes
      have otherDiagnostic : isDiagnosticPf other.arbitrationId = true := by
        rw [isDiagnosticPf_of_sameGroup (sameGroup pdu1 group)]
        exact diagnostic
      rw [verdict other otherExtended otherDiagnostic bytes, verdict frame extended diagnostic rfl]
      by_cases short : frame.data.length ≤ 8
      · have formats := (serviceIsCritical_formats frame.data).mpr (formatBlind short)
        cases other.isFd <;> cases frame.isFd <;> simp only [formats]
      · -- a payload of more than eight bytes fits in CAN FD frames alone
        have long : ∀ any : CanFrame, any.data = frame.data → any.isFd = true := by
          intro any same
          have bounded := any.data_length_le
          rw [same] at bounded
          cases fd : any.isFd with
          | true => rfl
          | false =>
              rw [fd, if_neg Bool.false_ne_true] at bounded
              exact absurd bounded short
        rw [long other bytes, long frame rfl]
    · intro critical
      rw [commandsCritical_of_diagnostic diagnostic] at critical
      cases critical

theorem destinationBlind_iff_of_group (extended : frame.isExtended = true)
    (nonempty : frame.data ≠ []) (listed : whitelist.isEmpty = false)
    (pdu1 : pduFormat frame.arbitrationId < 240)
    (plain : isDiagnosticPf frame.arbitrationId = false) :
    DestinationBlind whitelist frame ↔
      groupIsCritical (parseJ1939Id frame.arbitrationId).pgn frame.data = false := by
  have group := parseJ1939Id_pgn_of_pdu1 pdu1
  have format : (parseJ1939Id frame.arbitrationId).pgn / 256 % 256 < 240 := by
    rw [pduFormat_eq] at pdu1
    rw [group]
    omega
  have verdict : ∀ other : CanFrame, other.isExtended = true →
      other.arbitrationId / 65536 % 1024 = frame.arbitrationId / 65536 % 1024 →
      other.data = frame.data → frameIsCritical whitelist other =
        groupIsCritical ((parseJ1939Id frame.arbitrationId).pgn +
          other.arbitrationId / 256 % 256) frame.data := by
    intro other otherExtended same bytes
    have compared : other.arbitrationId / 256 % 262144 =
        (parseJ1939Id frame.arbitrationId).pgn + other.arbitrationId / 256 % 256 := by
      rw [group]
      omega
    rw [frameIsCritical_extended otherExtended (by rw [bytes]; exact nonempty) listed,
      isDiagnosticPf_of_sameGroup same, plain, if_neg Bool.false_ne_true, bytes, compared]
  have multiple : (parseJ1939Id frame.arbitrationId).pgn % 256 = 0 := by
    rw [group]
    omega
  constructor
  · intro blind
    have sent : ∀ destination : Fin 256,
        groupIsCritical ((parseJ1939Id frame.arbitrationId).pgn + destination) frame.data =
          frameIsCritical whitelist frame := by
      intro destination
      have small := destination.isLt
      have pages : (readdressed frame extended destination).arbitrationId / 65536 % 1024 =
          frame.arbitrationId / 65536 % 1024 := by
        change (frame.arbitrationId / 65536 % 1024 * 65536 + destination * 256) / 65536 % 1024 = _
        omega
      have byte : (readdressed frame extended destination).arbitrationId / 256 % 256 =
          destination := by
        change (frame.arbitrationId / 65536 % 1024 * 65536 + destination * 256) / 256 % 256 = _
        omega
      have pdu1' : pduFormat (readdressed frame extended destination).arbitrationId < 240 := by
        rw [pduFormat_eq] at pdu1 ⊢
        omega
      have same := blind.same (readdressed frame extended destination) extended
        (by rw [parseJ1939Id_pgn_of_pdu1 pdu1', group, pages]) rfl
      rw [verdict (readdressed frame extended destination) extended pages rfl, byte] at same
      exact same
    have home := sent 0
    have away := sent 1
    rw [groupIsCritical_destined multiple format (by decide) (by decide)] at away
    rw [← away] at home
    exact home
  · intro harmless
    have never : ∀ other : CanFrame, other.isExtended = true →
        other.arbitrationId / 65536 % 1024 = frame.arbitrationId / 65536 % 1024 →
        other.data = frame.data → frameIsCritical whitelist other = false := by
      intro other otherExtended same bytes
      rw [verdict other otherExtended same bytes]
      by_cases home : other.arbitrationId / 256 % 256 = 0
      · rw [home]
        exact harmless
      · exact groupIsCritical_destined multiple format (Nat.pos_of_ne_zero home)
          (Nat.mod_lt _ (by decide)) _
    constructor
    · intro other otherExtended same bytes
      rw [never other otherExtended (sameGroup pdu1 same) bytes, never frame extended rfl rfl]
    · intro critical
      rw [((groupIsCritical_eq_false_iff _ _).mp harmless).1] at critical
      cases critical

/-- The verdict on a PDU1 frame is independent of its destination exactly when
the destination has nothing to hide. -/
theorem destination_independent_iff (extended : frame.isExtended = true)
    (pdu1 : pduFormat frame.arbitrationId < 240) :
    DestinationBlind whitelist frame ↔ DestinationSafe whitelist frame := by
  by_cases silent : frame.data = [] ∨ whitelist.isEmpty = true
  · have never : ∀ other : CanFrame, other.isExtended = true → other.data = frame.data →
        frameIsCritical whitelist other = false := by
      intro other otherExtended bytes
      apply frameIsCritical_silent otherExtended
      rw [bytes]
      exact silent
    constructor
    · intro blind
      refine ⟨?_, silent.imp id Or.inl⟩
      rw [← Bool.not_eq_true]
      intro critical
      have judged := blind.critical critical
      rw [never frame extended rfl] at judged
      cases judged
    · intro safe
      constructor
      · intro other otherExtended _ bytes
        rw [never other otherExtended bytes, never frame extended rfl]
      · intro critical
        rw [safe.harmless] at critical
        cases critical
  · obtain ⟨nonempty, listed⟩ := not_or.mp silent
    rw [Bool.not_eq_true] at listed
    cases diagnostic : isDiagnosticPf frame.arbitrationId with
    | true =>
        rw [destinationBlind_iff_of_diagnostic extended nonempty listed diagnostic]
        have harmless := commandsCritical_of_diagnostic diagnostic frame.data
        have other : (parseJ1939Id frame.arbitrationId).pgn ≠ j1939RequestPgn := by
          intro request
          have format := (isDiagnosticPf_iff frame.arbitrationId).mp diagnostic
          rw [parseJ1939Id_pgn_of_pdu1 pdu1] at request
          rw [pduFormat_eq] at format
          unfold j1939RequestPgn at request
          omega
        constructor
        · intro formatBlind
          exact ⟨harmless, Or.inr (Or.inr ⟨fun request => absurd request other,
            fun _ => formatBlind⟩)⟩
        · intro safe
          rcases safe.readable with empty | empty | ⟨_, formatBlind⟩
          · exact absurd empty nonempty
          · rw [listed] at empty
            cases empty
          · exact formatBlind diagnostic
    | false =>
        rw [destinationBlind_iff_of_group extended nonempty listed pdu1 diagnostic,
          groupIsCritical_eq_false_iff]
        constructor
        · intro quiet
          refine ⟨quiet.1, Or.inr (Or.inr ⟨quiet.2, ?_⟩)⟩
          intro plain
          rw [diagnostic] at plain
          cases plain
        · intro safe
          refine ⟨safe.harmless, ?_⟩
          rcases safe.readable with empty | empty | ⟨decoded, _⟩
          · exact absurd empty nonempty
          · rw [listed] at empty
            cases empty
          · exact decoded

end Independence

section Bench

/-- TSC1 to the controller at address 0x10. -/
def torqueCommand : CanFrame where
  channelId := "can0"
  arbitrationId := 0x0C001003
  dlc := 8
  data := [0xFE, 0xFF, 0xFF, 0xFF, 0xFF, 0xFF, 0xFF, 0xFF]
  isExtended := true
  valid := by decide

def benchWhitelist : Whitelist := { ids := [0x0C001003], masks := [] }

/-- A torque command to another address than zero is not classified critical. -/
theorem torqueCommand_escapes :
    ¬ ∀ (whitelist : Whitelist) (frame : CanFrame), frame.isExtended = true →
      pduFormat frame.arbitrationId < 240 → DestinationBlind whitelist frame := by
  intro blind
  have verdict := (blind benchWhitelist torqueCommand rfl (by decide)).critical (by decide)
  exact absurd verdict (by decide)

/-- An acknowledgment to the same address. -/
def acknowledgment : CanFrame where
  channelId := "can0"
  arbitrationId := 0x18E81003
  dlc := 8
  data := [0x00, 0x00, 0x00, 0x00, 0x00, 0x00, 0x00, 0x00]
  isExtended := true
  valid := by decide

theorem destination_independent_iff_acknowledgment :
    DestinationBlind benchWhitelist acknowledgment :=
  (destination_independent_iff rfl (by decide)).mpr
    ⟨by decide, Or.inr (Or.inr ⟨by decide, fun diagnostic => absurd diagnostic (by decide)⟩)⟩

end Bench

end Ucanlab.Safety
