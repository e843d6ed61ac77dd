import Ucanlab.Lib.BitField
import Ucanlab.Safety.Whitelist

/-!
The replay safety filter: which recorded frames may be put on a live bus again.
A First Frame on a diagnostic identifier opens a ledger entry under its
arbitration identifier, and the frames that carry no service of their own answer
for that entry.
-/

namespace Ucanlab.Replay

open Ucanlab Safety BitField

def addressClaimPgns : List Nat := [0x0EE00, 0x0FED8, 0x0EA00]

def diagnosticWritePgns : List Nat := [0x0FECC, 0x0FECD, 0x0FECE, 0x0FED3]

def transportTunnelPgns : List Nat := [0x0EC00, 0x0EB00]

def actuationPgns : List Nat := [0x00000, 0x00400]

def actuatorUdsSids : List UInt8 := [0x2F, 0x3D]

def ecuResponse11BitIds : List Nat :=
  [0x7E8, 0x7E9, 0x7EA, 0x7EB, 0x7EC, 0x7ED, 0x7EE, 0x7EF]

def diagnostic11BitIds : List Nat :=
  [0x7DF, 0x7E0, 0x7E1, 0x7E2, 0x7E3, 0x7E4, 0x7E5, 0x7E6, 0x7E7] ++ ecuResponse11BitIds

def replayOnlyProhibitedUdsSids : List UInt8 := [0x3E, 0x35]

def prohibitedUdsSids : List UInt8 := criticalUdsSids ++ replayOnlyProhibitedUdsSids

/-- The service of a Single or First Frame; `unknown` when the frame is too short
or malformed to tell. -/
inductive ExtractedSid where
  | unknown
  | byte (sid : UInt8)
  deriving DecidableEq, Repr

inductive BlockReason where
  | customBlockedId (arbitrationId : Nat)
  | j1939Pgn (pgn : Nat)
  | diagnosticWritePgn (pgn : Nat)
  | actuationPgn (pgn : Nat)
  | tunnelPgn (pgn : Nat)
  | tunnelCfFc (arbitrationId : Nat)
  | isoTpSession (sid : ExtractedSid)
  | prohibited29Bit (sid : ExtractedSid)
  | truncated29Bit
  | ecuResponseSpoof (arbitrationId : Nat)
  | prohibited11Bit (sid : ExtractedSid)
  | truncated11Bit
  deriving DecidableEq, Repr

section Texts

def hexDigits (width value : Nat) : String :=
  let digits := String.ofList ((Nat.toDigits 16 value).map Char.toUpper)
  String.ofList (List.replicate (width - digits.length) '0') ++ digits

/-- The sentinel is the integer -1 and is printed as such. -/
def ExtractedSid.text : ExtractedSid → String
  | .unknown => "0x-1"
  | .byte sid => "0x" ++ hexDigits 2 sid.toNat

def pgnText (pgn : Nat) : String := toString pgn ++ " (0x" ++ hexDigits 5 pgn ++ ")"

def BlockReason.text : BlockReason → String
  | .customBlockedId arbitrationId => "CUSTOM_BLOCKED_ID: 0x" ++ hexDigits 8 arbitrationId
  | .j1939Pgn pgn => "BLOCKED_J1939_PGN: " ++ pgnText pgn
  | .diagnosticWritePgn pgn => "BLOCKED_DIAGNOSTIC_WRITE_PGN: " ++ pgnText pgn
  | .actuationPgn pgn => "BLOCKED_ACTUATION_PGN: " ++ pgnText pgn
  | .tunnelPgn pgn => "BLOCKED_TP_TUNNEL: " ++ pgnText pgn
  | .tunnelCfFc arbitrationId =>
      "BLOCKED_TP_TUNNEL: CF/FC on diagnostic ID 0x" ++ hexDigits 1 arbitrationId
  | .isoTpSession sid => "PROHIBITED_ISO_TP_SESSION_SID: " ++ sid.text
  | .prohibited29Bit sid => "PROHIBITED_29BIT_UDS_SID: " ++ sid.text
  | .truncated29Bit => "TRUNCATED_29BIT_DIAGNOSTIC_PAYLOAD"
  | .ecuResponseSpoof arbitrationId =>
      "BLOCKED_ECU_RESPONSE_SPOOF: 0x" ++ hexDigits 1 arbitrationId
  | .prohibited11Bit sid => "PROHIBITED_11BIT_UDS_SID: " ++ sid.text
  | .truncated11Bit => "TRUNCATED_11BIT_DIAGNOSTIC_PAYLOAD"

end Texts

/-- The flags of the constructor, fixed for the life of the filter. -/
structure FilterPolicy where
  blockAddressClaim : Bool := true
  blockDiagnosticWrite : Bool := true
  blockActuatorRoutines : Bool := true
  blockTransportTunneling : Bool := true
  customBlockedIds : List Nat := []

/-- The ledger keeps, for an arbitration identifier, the service of its last
First Frame and the payload bytes still owed. -/
structure ReplaySafetyFilter where
  policy : FilterPolicy
  totalEvaluated : Nat
  totalPassed : Nat
  totalBlocked : Nat
  blockedReasons : String → Nat
  isoTpPending : Nat → Option (ExtractedSid × Nat)

namespace ReplaySafetyFilter

def new (policy : FilterPolicy) : ReplaySafetyFilter where
  policy := policy
  totalEvaluated := 0
  totalPassed := 0
  totalBlocked := 0
  blockedReasons := fun _ => 0
  isoTpPending := fun _ => none

def countEvaluated (filter : ReplaySafetyFilter) : ReplaySafetyFilter :=
  { filter with totalEvaluated := filter.totalEvaluated + 1 }

def setPending (filter : ReplaySafetyFilter) (arbitrationId : Nat)
    (entry : Option (ExtractedSid × Nat)) : ReplaySafetyFilter :=
  { filter with
    isoTpPending := fun other =>
      if other = arbitrationId then entry else filter.isoTpPending other }

end ReplaySafetyFilter

section Extraction

def pciType (first : UInt8) : Nat := (first.toNat >>> 4) &&& 0x0F

/-- The marks of the 32-bit First Frame. -/
def isFdEscape (data : Bytes) (isFd : Bool) : Bool :=
  isFd && data[0]? == some 0x10 && data[1]? == some 0x00 && decide (data.length ≥ 6)

def extractUdsSid (data : Bytes) (isFd : Bool) : Option ExtractedSid :=
  match data with
  | first :: second :: _ =>
      if pciType first = 0x0 then
        let lowNibble := first.toNat &&& 0x0F
        if isFd ∧ data.length > 8 then
          if lowNibble ≠ 0x0 then some .unknown
          else
            match data[2]? with
            | none => some .unknown
            | some sid =>
                if second.toNat < 8 ∨ second.toNat > 62 ∨ data.length < second.toNat + 2 then
                  some .unknown
                else some (.byte sid)
        else if lowNibble < 1 ∨ data.length < lowNibble + 1 then some .unknown
        else some (.byte second)
      else if pciType first = 0x1 then
        if isFdEscape data isFd then
          match data[6]? with
          | none => some .unknown
          | some sid => some (.byte sid)
        else
          match data[2]? with
          | none => some .unknown
          | some sid => some (.byte sid)
      else none
  | _ => none

def bigEndian (bytes : Bytes) : Nat :=
  bytes.foldl (fun value byte => value * 256 + byte.toNat) 0

def firstFrameOwes (data : Bytes) (isFd : Bool) : Nat :=
  if isFdEscape data isFd then bigEndian ((data.drop 2).take 4) - 10
  else ((((data.getD 0 0).toNat &&& 0x0F) <<< 8) ||| (data.getD 1 0).toNat) - 6

theorem pciType_eq (first : UInt8) : pciType first = first.toNat >>> 4 := by
  have bounded := first.toNat_lt
  have high : first.toNat >>> 4 = first.toNat / 16 := Nat.shiftRight_eq_div_pow _ 4
  have field : pciType first = first.toNat / 16 % 16 := shiftRight_and_eq first.toNat 4 4
  rw [field, high]
  omega

inductive ServiceAt (data : Bytes) (isFd : Bool) (sid : UInt8) : Prop where
  | fdSingle (second : UInt8) (rest : Bytes) (bytes : data = 0x00 :: second :: sid :: rest)
      (fd : isFd = true) (long : 8 < data.length)
      (length : 8 ≤ second.toNat ∧ second.toNat ≤ 62 ∧ second.toNat + 2 ≤ data.length)
  | single (first : UInt8) (rest : Bytes) (bytes : data = first :: sid :: rest)
      (pci : pciType first = 0x0) (short : isFd = true → data.length ≤ 8)
      (length : 1 ≤ first.toNat &&& 0x0F ∧ (first.toNat &&& 0x0F) + 1 ≤ data.length)
  | fdFirst (first second : UInt8) (rest : Bytes) (bytes : data = first :: second :: rest)
      (pci : pciType first = 0x1) (escape : isFdEscape data isFd = true)
      (service : data[6]? = some sid)
  | first (first second : UInt8) (rest : Bytes) (bytes : data = first :: second :: sid :: rest)
      (pci : pciType first = 0x1) (plain : isFdEscape data isFd = false)

theorem first_eq_zero {first : UInt8} (pci : pciType first = 0x0)
    (nibble : first.toNat &&& 0x0F = 0x0) : first = 0x00 := by
  have low : first.toNat &&& 0x0F = first.toNat % 16 := Nat.and_two_pow_sub_one_eq_mod _ 4
  have high : first.toNat >>> 4 = first.toNat / 16 := Nat.shiftRight_eq_div_pow _ 4
  rw [pciType_eq, high] at pci
  rw [low] at nibble
  apply UInt8.toNat_inj.mp
  rw [UInt8.toNat_zero]
  omega

theorem extractUdsSid_byte_iff {data : Bytes} {isFd : Bool} {sid : UInt8} :
    extractUdsSid data isFd = some (.byte sid) ↔ ServiceAt data isFd sid := by
  constructor
  · intro extracted
    match data with
    | [] => cases extracted
    | [_] => cases extracted
    | first :: second :: rest =>
        unfold extractUdsSid at extracted
        dsimp only at extracted
        split at extracted
        · rename_i pci
          split at extracted
          · rename_i long
            split at extracted
            · cases extracted
            · rename_i nibble
              split at extracted
              · cases extracted
              · rename_i found third
                split at extracted
                · cases extracted
                · rename_i length
                  cases extracted
                  have zero := first_eq_zero pci (by simpa using nibble)
                  subst zero
                  obtain ⟨tail, rfl⟩ : ∃ tail, rest = sid :: tail := by
                    cases rest with
                    | nil => cases third
                    | cons third' tail =>
                        cases third
                        exact ⟨tail, rfl⟩
                  exact .fdSingle second tail rfl long.1 long.2 (by omega)
          · rename_i short
            split at extracted
            · cases extracted
            · rename_i length
              cases extracted
              exact .single first rest rfl pci
                (fun fd => Nat.le_of_not_lt (fun long => short ⟨fd, long⟩)) (by omega)
        · split at extracted
          · rename_i pci
            split at extracted
            · rename_i escape
              split at extracted
              · cases extracted
              · rename_i service
                cases extracted
                exact .fdFirst first second rest rfl pci escape service
            · rename_i plain
              split at extracted
              · cases extracted
              · rename_i service
                cases extracted
                cases rest with
                | nil => cases service
                | cons third tail =>
                    cases service
                    exact .first first second tail rfl pci (by simpa using plain)
          · cases extracted
  · intro place
    cases place with
    | fdSingle second rest bytes fd long length =>
        subst bytes
        unfold extractUdsSid
        dsimp only
        rw [if_pos (show pciType 0x00 = 0x0 from rfl), if_pos ⟨fd, long⟩, if_neg (by decide)]
        dsimp only [List.getElem?_cons_succ, List.getElem?_cons_zero]
        rw [if_neg (by omega)]
    | single first rest bytes pci short length =>
        subst bytes
        unfold extractUdsSid
        dsimp only
        rw [if_pos pci, if_neg (fun long => Nat.not_lt.mpr (short long.1) long.2),
          if_neg (by omega)]
    | fdFirst first second rest bytes pci escape service =>
        subst bytes
        unfold extractUdsSid
        dsimp only
        rw [if_neg (by rw [pci]; decide), if_pos pci, if_pos escape, service]
    | first first second rest bytes pci plain =>
        subst bytes
        unfold extractUdsSid
        dsimp only
        rw [if_neg (by rw [pci]; decide), if_pos pci, if_neg (by rw [plain]; decide)]
        rfl

end Extraction

namespace ReplaySafetyFilter

def registerFirstFrame (filter : ReplaySafetyFilter) (frame : CanFrame) (sid : ExtractedSid) :
    ReplaySafetyFilter :=
  filter.setPending frame.arbitrationId (some (sid, firstFrameOwes frame.data frame.isFd))

def prohibitedSid (filter : ReplaySafetyFilter) : ExtractedSid → Bool
  | .unknown => true
  | .byte sid =>
      prohibitedUdsSids.contains sid ||
        (filter.policy.blockActuatorRoutines && actuatorUdsSids.contains sid)

/-- Consecutive and Flow Control frames answer for the session of their
identifier; both callers have established that it is a diagnostic one. -/
def checkIsoTpCfFc (filter : ReplaySafetyFilter) (frame : CanFrame) :
    ReplaySafetyFilter × Option BlockReason :=
  match frame.data with
  | [] => (filter, none)
  | first :: carried =>
      if pciType first ≠ 0x2 ∧ pciType first ≠ 0x3 then (filter, none)
      else if filter.policy.blockTransportTunneling then
        (filter, some (.tunnelCfFc frame.arbitrationId))
      else
        match filter.isoTpPending frame.arbitrationId with
        | none => (filter, none)
        | some (sid, remaining) =>
            if filter.prohibitedSid sid then (filter, some (.isoTpSession sid))
            else if pciType first = 0x2 then
              if remaining ≤ carried.length then
                (filter.setPending frame.arbitrationId none, none)
              else
                (filter.setPending frame.arbitrationId (some (sid, remaining - carried.length)),
                  none)
            else (filter, none)

/-- The gate of both kinds of diagnostic identifiers. A First Frame is entered
in the ledger before it is judged. -/
def checkDiagnostic (filter : ReplaySafetyFilter) (frame : CanFrame)
    (prohibited : ExtractedSid → BlockReason) (truncated : BlockReason) :
    ReplaySafetyFilter × Option BlockReason :=
  match filter.checkIsoTpCfFc frame with
  | (gated, some reason) => (gated, some reason)
  | (gated, none) =>
      if frame.data.length ≥ 2 then
        match extractUdsSid frame.data frame.isFd with
        | none => (gated, none)
        | some sid =>
            let registered :=
              if pciType (frame.data.getD 0 0) = 0x1 then gated.registerFirstFrame frame sid
              else gated
            if registered.prohibitedSid sid then (registered, some (prohibited sid))
            else (registered, none)
      else (gated, some truncated)

end ReplaySafetyFilter

section Pgns

def edpMaskedPgn (arbitrationId : Nat) : Nat := (arbitrationId >>> 8) &&& 0x1FFFF

def edpMaskedPf (arbitrationId : Nat) : Nat := (edpMaskedPgn arbitrationId >>> 8) &&& 0xFF

def edpMaskedNorm (arbitrationId : Nat) : Nat :=
  if edpMaskedPf arbitrationId < 240 then edpMaskedPgn arbitrationId &&& 0x1FF00
  else edpMaskedPgn arbitrationId

def framePgn (arbitrationId : Nat) : Nat := (arbitrationId >>> 8) &&& 0x3FFFF

def framePf (arbitrationId : Nat) : Nat := (framePgn arbitrationId >>> 8) &&& 0xFF

def maskedPgn (arbitrationId : Nat) : Nat :=
  if framePf arbitrationId < 240 then framePgn arbitrationId &&& 0x3FF00
  else framePgn arbitrationId

/-- The four readings of the group that each table is searched for. -/
def pgnForms (arbitrationId : Nat) : List Nat :=
  [framePgn arbitrationId, maskedPgn arbitrationId, edpMaskedPgn arbitrationId,
    edpMaskedNorm arbitrationId]

def namesPgn (table : List Nat) (arbitrationId : Nat) : Bool :=
  (pgnForms arbitrationId).any (fun pgn => table.contains pgn)

def isDiagnostic29Bit (arbitrationId : Nat) : Bool :=
  framePf arbitrationId == 0xDA || framePf arbitrationId == 0xDB ||
    edpMaskedPf arbitrationId == 0xDA || edpMaskedPf arbitrationId == 0xDB

end Pgns

namespace ReplaySafetyFilter

/-- `none` means that the frame is safe. -/
def isFrameSafe (filter : ReplaySafetyFilter) (frame : CanFrame) :
    ReplaySafetyFilter × Option BlockReason :=
  let evaluated := filter.countEvaluated
  let arbitrationId := frame.arbitrationId
  let pgn := framePgn arbitrationId
  if filter.policy.customBlockedIds.contains arbitrationId then
    (evaluated, some (.customBlockedId arbitrationId))
  else if frame.isExtended then
    if filter.policy.blockAddressClaim && namesPgn addressClaimPgns arbitrationId then
      (evaluated, some (.j1939Pgn pgn))
    else if filter.policy.blockDiagnosticWrite && namesPgn diagnosticWritePgns arbitrationId then
      (evaluated, some (.diagnosticWritePgn pgn))
    else if filter.policy.blockActuatorRoutines && namesPgn actuationPgns arbitrationId then
      (evaluated, some (.actuationPgn pgn))
    else if filter.policy.blockTransportTunneling &&
        namesPgn transportTunnelPgns arbitrationId then
      (evaluated, some (.tunnelPgn pgn))
    else if filter.policy.blockDiagnosticWrite && isDiagnostic29Bit arbitrationId then
      evaluated.checkDiagnostic frame .prohibited29Bit .truncated29Bit
    else (evaluated, none)
  else if filter.policy.blockDiagnosticWrite && ecuResponse11BitIds.contains arbitrationId then
    (evaluated, some (.ecuResponseSpoof arbitrationId))
  else if filter.policy.blockDiagnosticWrite && diagnostic11BitIds.contains arbitrationId then
    evaluated.checkDiagnostic frame .prohibited11Bit .truncated11Bit
  else (evaluated, none)

def filterFrame (filter : ReplaySafetyFilter) (frame : CanFrame) :
    ReplaySafetyFilter × Option CanFrame :=
  match filter.isFrameSafe frame with
  | (judged, some reason) =>
      ({ judged with
          totalBlocked := judged.totalBlocked + 1
          blockedReasons := fun text =>
            if text = reason.text then judged.blockedReasons text + 1
            else judged.blockedReasons text }, none)
  | (judged, none) => ({ judged with totalPassed := judged.totalPassed + 1 }, some frame)

def filterSequence (filter : ReplaySafetyFilter) :
    List CanFrame → ReplaySafetyFilter × List CanFrame
  | [] => (filter, [])
  | frame :: rest =>
      match filter.filterFrame frame with
      | (judged, none) => judged.filterSequence rest
      | (judged, some passed) =>
          let later := judged.filterSequence rest
          (later.1, passed :: later.2)

end ReplaySafetyFilter

namespace ReplaySafetyFilter

section Spec

variable {filter : ReplaySafetyFilter} {frame : CanFrame}

theorem pciType_of_extracted {data : Bytes} {isFd : Bool} {sid : ExtractedSid}
    (extracted : extractUdsSid data isFd = some sid) :
    2 ≤ data.length ∧ (pciType (data.getD 0 0) = 0x0 ∨ pciType (data.getD 0 0) = 0x1) := by
  match data with
  | [] => cases extracted
  | [_] => cases extracted
  | first :: second :: rest =>
      refine ⟨Nat.le_add_left _ _, ?_⟩
      rw [List.getD_cons_zero]
      by_cases single : pciType first = 0x0
      · exact Or.inl single
      · by_cases multiple : pciType first = 0x1
        · exact Or.inr multiple
        · unfold extractUdsSid at extracted
          dsimp only at extracted
          rw [if_neg single, if_neg multiple] at extracted
          cases extracted

theorem checkIsoTpCfFc_of_service
    (pci : pciType (frame.data.getD 0 0) = 0x0 ∨ pciType (frame.data.getD 0 0) = 0x1) :
    filter.checkIsoTpCfFc frame = (filter, none) := by
  unfold checkIsoTpCfFc
  split
  · rfl
  · rename_i first carried bytes
    rw [bytes, List.getD_cons_zero] at pci
    rw [if_pos (by omega)]

theorem checkIsoTpCfFc_reason {reason : BlockReason}
    (blocked : (filter.checkIsoTpCfFc frame).2 = some reason) :
    (filter.policy.blockTransportTunneling = true ∧ reason = .tunnelCfFc frame.arbitrationId) ∨
      ∃ sid remaining, filter.policy.blockTransportTunneling = false ∧
        filter.isoTpPending frame.arbitrationId = some (sid, remaining) ∧
        filter.prohibitedSid sid = true ∧ reason = .isoTpSession sid := by
  unfold checkIsoTpCfFc at blocked
  split at blocked
  · cases blocked
  · split at blocked
    · cases blocked
    · split at blocked
      · rename_i tunnelling
        cases blocked
        exact Or.inl ⟨tunnelling, rfl⟩
      · rename_i analysis
        split at blocked
        · cases blocked
        · rename_i sid remaining pending
          split at blocked
          · rename_i prohibited
            cases blocked
            exact Or.inr ⟨sid, remaining, by simpa using analysis, pending, prohibited, rfl⟩
          · split at blocked
            · split at blocked
              · cases blocked
              · cases blocked
            · cases blocked

theorem checkDiagnostic_of_service {sid : ExtractedSid} (prohibited : ExtractedSid → BlockReason)
    (truncated : BlockReason) (extracted : extractUdsSid frame.data frame.isFd = some sid) :
    filter.checkDiagnostic frame prohibited truncated =
      (if pciType (frame.data.getD 0 0) = 0x1 then filter.registerFirstFrame frame sid else filter,
        if filter.prohibitedSid sid then some (prohibited sid) else none) := by
  obtain ⟨long, pci⟩ := pciType_of_extracted extracted
  unfold checkDiagnostic
  rw [checkIsoTpCfFc_of_service pci]
  dsimp only
  rw [if_pos long, extracted]
  dsimp only
  split
  · change (if filter.prohibitedSid sid then _ else _) = _
    split
    · rfl
    · rfl
  · split
    · rfl
    · rfl

theorem checkDiagnostic_of_no_service (prohibited : ExtractedSid → BlockReason)
    (truncated : BlockReason) (extracted : extractUdsSid frame.data frame.isFd = none) :
    filter.checkDiagnostic frame prohibited truncated =
      ((filter.checkIsoTpCfFc frame).1,
        match (filter.checkIsoTpCfFc frame).2 with
        | some reason => some reason
        | none => if frame.data.length ≥ 2 then none else some truncated) := by
  unfold checkDiagnostic
  rw [extracted]
  split
  · rename_i gated reason judged
    rw [judged]
  · rename_i gated judged
    rw [judged]
    dsimp only
    split
    · rfl
    · rfl

/-- The checks that look at the identifier alone. -/
def outrightReason (policy : FilterPolicy) (arbitrationId : Nat) (isExtended : Bool) :
    Option BlockReason :=
  let pgn := framePgn arbitrationId
  if policy.customBlockedIds.contains arbitrationId then some (.customBlockedId arbitrationId)
  else if isExtended then
    if policy.blockAddressClaim && namesPgn addressClaimPgns arbitrationId then
      some (.j1939Pgn pgn)
    else if policy.blockDiagnosticWrite && namesPgn diagnosticWritePgns arbitrationId then
      some (.diagnosticWritePgn pgn)
    else if policy.blockActuatorRoutines && namesPgn actuationPgns arbitrationId then
      some (.actuationPgn pgn)
    else if policy.blockTransportTunneling && namesPgn transportTunnelPgns arbitrationId then
      some (.tunnelPgn pgn)
    else none
  else if policy.blockDiagnosticWrite && ecuResponse11BitIds.contains arbitrationId then
    some (.ecuResponseSpoof arbitrationId)
  else none

def gated (policy : FilterPolicy) (frame : CanFrame) : Bool :=
  policy.blockDiagnosticWrite &&
    if frame.isExtended then isDiagnostic29Bit frame.arbitrationId
    else diagnostic11BitIds.contains frame.arbitrationId

theorem isFrameSafe_eq (filter : ReplaySafetyFilter) (frame : CanFrame) :
    filter.isFrameSafe frame =
      match outrightReason filter.policy frame.arbitrationId frame.isExtended with
      | some reason => (filter.countEvaluated, some reason)
      | none =>
          if gated filter.policy frame then
            if frame.isExtended then
              filter.countEvaluated.checkDiagnostic frame .prohibited29Bit .truncated29Bit
            else filter.countEvaluated.checkDiagnostic frame .prohibited11Bit .truncated11Bit
          else (filter.countEvaluated, none) := by
  unfold isFrameSafe outrightReason gated
  dsimp only
  split
  · rfl
  · split
    · split
      · rfl
      · split
        · rfl
        · split
          · rfl
          · split
            · rfl
            · rfl
    · split
      · rfl
      · rfl

end Spec

end ReplaySafetyFilter

end Ucanlab.Replay
