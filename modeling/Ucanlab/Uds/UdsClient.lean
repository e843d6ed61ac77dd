import Ucanlab.Core.PyText
import Ucanlab.Uds.IsoTp

/-!
Requests and responses of the diagnostic services that reprogramming uses. Arguments are
integers, so that a builder refuses what does not fit its field.
-/

namespace Ucanlab.Uds

open Ucanlab

def diagnosticSessionControl : UInt8 := 0x10
def ecuResetService : UInt8 := 0x11
def readDataByIdentifier : UInt8 := 0x22
def securityAccess : UInt8 := 0x27
def routineControl : UInt8 := 0x31
def requestDownloadService : UInt8 := 0x34
def transferDataService : UInt8 := 0x36
def requestTransferExitService : UInt8 := 0x37
def negativeResponse : UInt8 := 0x7F

inductive DiagnosticSessionType where
  | default
  | programming
  | extended
  | safetySystem
  deriving DecidableEq, Repr

def DiagnosticSessionType.value : DiagnosticSessionType → UInt8
  | .default => 0x01
  | .programming => 0x02
  | .extended => 0x03
  | .safetySystem => 0x04

inductive RoutineControlType where
  | startRoutine
  | stopRoutine
  | requestRoutineResults
  deriving DecidableEq, Repr

def RoutineControlType.value : RoutineControlType → UInt8
  | .startRoutine => 0x01
  | .stopRoutine => 0x02
  | .requestRoutineResults => 0x03

/-- The negative response codes with a name. -/
def knownNrcs : List UInt8 :=
  [0x00, 0x10, 0x11, 0x12, 0x13, 0x14, 0x21, 0x22, 0x24, 0x25, 0x26, 0x31, 0x33, 0x34, 0x35, 0x36,
    0x37, 0x38, 0x39, 0x3A, 0x50, 0x51, 0x52, 0x53, 0x54, 0x55, 0x56, 0x57, 0x58, 0x59, 0x5A, 0x5B,
    0x5C, 0x5D, 0x70, 0x71, 0x72, 0x73, 0x78, 0x7E, 0x7F, 0x81, 0x82, 0x83, 0x84, 0x85, 0x86, 0x87,
    0x88, 0x89, 0x8A, 0x8B, 0x8C, 0x8D, 0x8F, 0x90, 0x91, 0x92, 0x93]

def generalReject : UInt8 := 0x10
def responsePending : UInt8 := 0x78

structure UdsResponse where
  serviceId : UInt8
  isPositive : Bool
  data : Bytes
  nrc : UInt8 := 0x00
  deriving DecidableEq, Repr

inductive BuildError where
  | did (did : Int)
  | seedLevel (level : Int)
  | keyLevel (level : Int)
  | routineId (routineId : Int)
  | alfi (identifier : Nat)
  | unfitting (identifier : Nat)
  | blockSequence (blockSequence : Int)
  | resetType (resetType : Int)
  deriving DecidableEq, Repr

def lowByte (value : Int) : UInt8 := UInt8.ofNat (value.toNat &&& 0xFF)

def highByte (value : Int) : UInt8 := UInt8.ofNat ((value.toNat >>> 8) &&& 0xFF)

/-- `int.to_bytes(width, "big")`. -/
def toBytesBig (width : Nat) (value : Int) : Option Bytes :=
  if 0 ≤ value ∧ value < 256 ^ width then some (natToBytes width value.toNat) else none

namespace UdsServiceBuilder

def buildDiagnosticSessionControl (sessionType : DiagnosticSessionType) : Bytes :=
  [diagnosticSessionControl, sessionType.value]

def buildReadDataByIdentifier (did : Int) : Except BuildError Bytes :=
  if ¬ (0 ≤ did ∧ did ≤ 0xFFFF) then .error (.did did)
  else .ok [readDataByIdentifier, highByte did, lowByte did]

def buildSecurityAccessRequestSeed (level : Int) : Except BuildError Bytes :=
  if ¬ (1 ≤ level ∧ level ≤ 0x7E) then .error (.seedLevel level)
  else .ok [securityAccess, UInt8.ofNat level.toNat]

def buildSecurityAccessSendKey (level : Int) (key : Bytes) : Except BuildError Bytes :=
  if ¬ (1 ≤ level ∧ level ≤ 0x7D) then .error (.keyLevel level)
  else .ok ([securityAccess, UInt8.ofNat (level.toNat + 1)] ++ key)

def buildRoutineControl (controlType : RoutineControlType) (routineId : Int)
    (optionBytes : Bytes) : Except BuildError Bytes :=
  if ¬ (0 ≤ routineId ∧ routineId ≤ 0xFFFF) then .error (.routineId routineId)
  else
    .ok ([routineControl, controlType.value, highByte routineId, lowByte routineId] ++ optionBytes)

def buildRequestDownload (memoryAddress memorySize : Int) (dataFormatIdentifier : UInt8 := 0x00)
    (addressAndLengthFormatIdentifier : Nat := 0x44) : Except BuildError Bytes :=
  let sizeWidth := (addressAndLengthFormatIdentifier >>> 4) &&& 0x0F
  let addrWidth := addressAndLengthFormatIdentifier &&& 0x0F
  if ¬ (1 ≤ addrWidth ∧ addrWidth ≤ 8 ∧ 1 ≤ sizeWidth ∧ sizeWidth ≤ 8) then
    .error (.alfi addressAndLengthFormatIdentifier)
  else
    match toBytesBig addrWidth memoryAddress, toBytesBig sizeWidth memorySize with
    | some addrBytes, some sizeBytes =>
        .ok ([requestDownloadService, dataFormatIdentifier,
          UInt8.ofNat addressAndLengthFormatIdentifier] ++ addrBytes ++ sizeBytes)
    | _, _ => .error (.unfitting addressAndLengthFormatIdentifier)

def buildTransferData (blockSequence : Int) (data : Bytes) : Except BuildError Bytes :=
  if ¬ (0 ≤ blockSequence ∧ blockSequence ≤ 0xFF) then .error (.blockSequence blockSequence)
  else .ok ([transferDataService, lowByte blockSequence] ++ data)

def buildRequestTransferExit : Bytes := [requestTransferExitService]

def buildEcuReset (resetType : Int) : Except BuildError Bytes :=
  if resetType ≠ 0x01 ∧ resetType ≠ 0x02 ∧ resetType ≠ 0x03 then .error (.resetType resetType)
  else .ok [ecuResetService, lowByte resetType]

inductive ResponseError where
  | empty
  | shortNegative
  | serviceId (sid : UInt8)
  deriving DecidableEq, Repr

def parseResponse : Bytes → Except ResponseError UdsResponse
  | [] => .error .empty
  | sid :: data =>
      if sid = negativeResponse then
        match data with
        | rejectedSid :: nrcVal :: rest =>
            .ok {
              serviceId := rejectedSid
              isPositive := false
              data := rest
              nrc := if nrcVal ∈ knownNrcs then nrcVal else generalReject }
        | _ => .error .shortNegative
      else if sid < 0x40 then .error (.serviceId sid)
      else .ok { serviceId := sid - 0x40, isPositive := true, data := data }

section Builders

variable {payload : Bytes}

theorem buildReadDataByIdentifier_eq_ok {did : Int} :
    buildReadDataByIdentifier did = .ok payload ↔
      (0 ≤ did ∧ did ≤ 0xFFFF) ∧ payload = [readDataByIdentifier, highByte did, lowByte did] := by
  unfold buildReadDataByIdentifier
  split
  · simp_all
  · simp_all [eq_comm]

theorem buildSecurityAccessRequestSeed_eq_ok {level : Int} :
    buildSecurityAccessRequestSeed level = .ok payload ↔
      (1 ≤ level ∧ level ≤ 0x7E) ∧ payload = [securityAccess, UInt8.ofNat level.toNat] := by
  unfold buildSecurityAccessRequestSeed
  split
  · simp_all
  · simp_all [eq_comm]

theorem buildSecurityAccessSendKey_eq_ok {level : Int} {key : Bytes} :
    buildSecurityAccessSendKey level key = .ok payload ↔
      (1 ≤ level ∧ level ≤ 0x7D) ∧
        payload = [securityAccess, UInt8.ofNat (level.toNat + 1)] ++ key := by
  unfold buildSecurityAccessSendKey
  split
  · simp_all
  · simp_all [eq_comm]

theorem buildRoutineControl_eq_ok {controlType : RoutineControlType} {routineId : Int}
    {optionBytes : Bytes} :
    buildRoutineControl controlType routineId optionBytes = .ok payload ↔
      (0 ≤ routineId ∧ routineId ≤ 0xFFFF) ∧
        payload = [routineControl, controlType.value, highByte routineId, lowByte routineId] ++
          optionBytes := by
  unfold buildRoutineControl
  split
  · simp_all
  · simp_all [eq_comm]

theorem buildTransferData_eq_ok {blockSequence : Int} {data : Bytes} :
    buildTransferData blockSequence data = .ok payload ↔
      (0 ≤ blockSequence ∧ blockSequence ≤ 0xFF) ∧
        payload = [transferDataService, lowByte blockSequence] ++ data := by
  unfold buildTransferData
  split
  · simp_all
  · simp_all [eq_comm]

theorem buildEcuReset_eq_ok {resetType : Int} :
    buildEcuReset resetType = .ok payload ↔
      (resetType = 0x01 ∨ resetType = 0x02 ∨ resetType = 0x03) ∧
        payload = [ecuResetService, lowByte resetType] := by
  unfold buildEcuReset
  split
  · rename_i refused
    constructor
    · intro impossible
      cases impossible
    · intro both
      omega
  · rename_i known
    constructor
    · intro built
      cases built
      exact ⟨by omega, rfl⟩
    · intro both
      rw [both.2]

theorem toBytesBig_eq_some {width : Nat} {value : Int} {bytes : Bytes} :
    toBytesBig width value = some bytes ↔
      (0 ≤ value ∧ value < 256 ^ width) ∧ bytes = natToBytes width value.toNat := by
  unfold toBytesBig
  split
  · simp_all [eq_comm]
  · simp_all

theorem buildRequestDownload_eq_ok {memoryAddress memorySize : Int} :
    buildRequestDownload memoryAddress memorySize = .ok payload ↔
      ((0 ≤ memoryAddress ∧ memoryAddress < 256 ^ 4) ∧ 0 ≤ memorySize ∧ memorySize < 256 ^ 4) ∧
        payload = [requestDownloadService, 0x00, 0x44] ++ natToBytes 4 memoryAddress.toNat ++
          natToBytes 4 memorySize.toNat := by
  unfold buildRequestDownload
  dsimp only
  rw [if_neg (by decide)]
  have narrow : (0x44 >>> 4) &&& 0x0F = 4 ∧ 0x44 &&& 0x0F = 4 := by decide
  rw [narrow.1, narrow.2]
  constructor
  · intro built
    split at built
    · rename_i address size
      obtain ⟨addressFits, addressBytes⟩ := toBytesBig_eq_some.mp address
      obtain ⟨sizeFits, sizeBytes⟩ := toBytesBig_eq_some.mp size
      cases built
      rw [addressBytes, sizeBytes]
      exact ⟨⟨addressFits, sizeFits⟩, rfl⟩
    · cases built
  · rintro ⟨⟨addressFits, sizeFits⟩, shape⟩
    rw [toBytesBig_eq_some.mpr ⟨addressFits, rfl⟩, toBytesBig_eq_some.mpr ⟨sizeFits, rfl⟩, shape]
    rfl

end Builders

end UdsServiceBuilder

end Ucanlab.Uds

/-!
The diagnostic client: one request, and the messages heard until one answers it. The frames
of the exchange are left to what surrounds it; times are nanoseconds since the request went
out.
-/

namespace Ucanlab.Uds

open Ucanlab IsoTp UdsServiceBuilder

def p2StarTimeoutNs : Nat := 5000000000

def requestTimeoutNs : Nat := 2000000000

def maxPendingAbsNs : Nat := 30000000000

def maxNrc78Count : Nat := 200

/-- What stops a send: the gateway, or the flow control of the receiver. -/
inductive SendRefusal where
  | safety (code : String)
  | timeout
  | bufferOverflow
  | protocolError
  deriving DecidableEq, Repr

inductive UdsError where
  | segmentation (error : IsoTpError)
  | refused (refusal : SendRefusal)
  | malformed (error : ResponseError)
  | timeout (nrc78Count : Nat)
  | pendingBudget (nrc78Count : Nat)
  deriving DecidableEq, Repr

/-- A completed message: when the client looked for it, when it had it parsed, and its bytes
unless the flow control on the way was refused. -/
structure Heard where
  polledNs : Nat
  handledNs : Nat
  message : Except SendRefusal Bytes
  deriving DecidableEq

/-- What comes of one request. -/
structure Reply where
  refusal : Option SendRefusal := none
  heard : List Heard := []
  tookNs : Nat := 0
  deriving DecidableEq

structure UdsClient where
  transport : IsoTpTransport
  isFd : Bool := false
  brs : Bool := false
  maxPendingTimeoutNs : Option Nat := none

def echoLength (sid : UInt8) : Option Nat :=
  if sid = 0x10 ∨ sid = 0x11 ∨ sid = 0x19 ∨ sid = 0x27 ∨ sid = 0x29 ∨ sid = 0x36 then some 1
  else if sid = 0x22 ∨ sid = 0x2E then some 2
  else if sid = 0x31 then some 3
  else none

def responseEchoMatches (expectedSid : UInt8) (request : Bytes) (response : UdsResponse) : Bool :=
  if ¬ response.isPositive then true
  else
    match echoLength expectedSid with
    | none => true
    | some n => decide (n ≤ response.data.length ∧ response.data.take n = (request.drop 1).take n)

namespace UdsClient

def pendingWall (client : UdsClient) : Nat := client.maxPendingTimeoutNs.getD maxPendingAbsNs

/-- The wait for the response; what is not the answer is dropped. -/
def awaitResponse (client : UdsClient) (request : Bytes) (deadline nrc78Count : Nat) :
    List Heard → Except UdsError UdsResponse
  | [] => .error (.timeout nrc78Count)
  | heard :: rest =>
      if deadline ≤ heard.polledNs ∨ client.pendingWall ≤ heard.polledNs then
        .error (.timeout nrc78Count)
      else
        match heard.message with
        | .error refusal => .error (.refused refusal)
        | .ok message =>
            match parseResponse message with
            | .error error => .error (.malformed error)
            | .ok response =>
                let expectedSid := request.getD 0 0
                if response.serviceId ≠ expectedSid then
                  client.awaitResponse request deadline nrc78Count rest
                else if ¬ responseEchoMatches expectedSid request response then
                  client.awaitResponse request deadline nrc78Count rest
                else if ¬ response.isPositive ∧ response.nrc = responsePending then
                  if nrc78Count < maxNrc78Count ∧ heard.handledNs < client.pendingWall then
                    client.awaitResponse request
                      (min (heard.handledNs + p2StarTimeoutNs) client.pendingWall)
                      (nrc78Count + 1) rest
                  else .error (.pendingBudget nrc78Count)
                else .ok response

def sendAndReceive (client : UdsClient) (payload : Bytes) (reply : Reply) :
    Except UdsError UdsResponse :=
  match reply.refusal with
  | some refusal => .error (.refused refusal)
  | none => client.awaitResponse payload requestTimeoutNs 0 reply.heard

/-- The segmentation of a request, before anything is sent. -/
def segment (client : UdsClient) (payload : Bytes) : Except UdsError Unit :=
  match client.transport.segmentMessage payload client.isFd (some client.brs) with
  | .error error => .error (.segmentation error)
  | .ok _ => .ok ()

/-- The longest request the transport takes. -/
def payloadCap (client : UdsClient) : Nat :=
  if client.isFd then maxUdsPayloadFd else maxUdsPayloadClassic

theorem emit_error {t : IsoTpTransport} {npci : Bytes} {dlc : Nat} {isFd brs : Bool}
    {error : IsoTpError} (failed : t.emit npci dlc isFd brs = .error error) :
    ∃ frame, error = .frame frame := by
  unfold IsoTpTransport.emit at failed
  split at failed
  · cases failed
    exact ⟨_, rfl⟩
  · split at failed
    · cases failed
      exact ⟨_, rfl⟩
    · cases failed

theorem consecutiveFrames_error {t : IsoTpTransport} {capacity dlc fuel sequenceNumber : Nat}
    {isFd brs : Bool} {rest : Bytes} {error : IsoTpError}
    (failed : t.consecutiveFrames capacity dlc isFd brs fuel sequenceNumber rest = .error error) :
    ∃ frame, error = .frame frame := by
  induction fuel generalizing sequenceNumber rest with
  | zero => cases failed
  | succ fuel ih =>
      unfold IsoTpTransport.consecutiveFrames at failed
      split at failed
      · cases failed
      · split at failed
        · rename_i built
          cases failed
          exact emit_error built
        · split at failed
          · rename_i later
            cases failed
            exact ih later
          · cases failed

theorem multiFrame_error {t : IsoTpTransport} {header : Bytes} {ffCapacity cfCapacity dlc : Nat}
    {isFd brs : Bool} {data : Bytes} {error : IsoTpError}
    (failed : t.multiFrame header ffCapacity cfCapacity dlc isFd brs data = .error error) :
    ∃ frame, error = .frame frame := by
  unfold IsoTpTransport.multiFrame at failed
  split at failed
  · rename_i built
    cases failed
    exact emit_error built
  · split at failed
    · rename_i later
      cases failed
      exact consecutiveFrames_error later
    · cases failed

theorem segmentMessage_error {client : UdsClient} {payload : Bytes} {error : IsoTpError}
    (fits : payload.length ≤ client.payloadCap)
    (failed : client.transport.segmentMessage payload client.isFd (some client.brs) =
      .error error) :
    (∃ frame, error = .frame frame) ∨ error = .classicEscapeAddressing := by
  unfold payloadCap at fits
  unfold IsoTpTransport.segmentMessage at failed
  dsimp only at failed
  split at failed
  · cases failed
  · rw [if_neg (by omega)] at failed
    split at failed
    · split at failed
      · rename_i built
        cases failed
        exact Or.inl (emit_error built)
      · cases failed
    · split at failed
      · split at failed
        · cases failed
          exact Or.inl ⟨_, rfl⟩
        · split at failed
          · rename_i built
            cases failed
            exact Or.inl (emit_error built)
          · cases failed
      · split at failed
        · split at failed
          · exact Or.inl (multiFrame_error failed)
          · exact Or.inl (multiFrame_error failed)
        · split at failed
          · exact Or.inl (multiFrame_error failed)
          · split at failed
            · cases failed
              exact Or.inr rfl
            · exact Or.inl (multiFrame_error failed)

theorem segment_withinCap {client : UdsClient} {payload : Bytes} {requested maxSize : Nat}
    (fits : payload.length ≤ client.payloadCap) :
    client.segment payload ≠ .error (.segmentation (.payloadTooLarge requested maxSize)) := by
  intro refused
  unfold segment at refused
  split at refused
  · rename_i error made
    have large : error = .payloadTooLarge requested maxSize := by
      cases refused
      rfl
    rcases segmentMessage_error fits made with ⟨frame, same⟩ | same
    · exact absurd (large.symm.trans same) (fun impossible => nomatch impossible)
    · exact absurd (large.symm.trans same) (fun impossible => nomatch impossible)
  · cases refused

theorem segment_ok {client : UdsClient} {payload : Bytes} (able : client.transport.CanSend)
    (normal : client.transport.addressingMode = .normal)
    (fits : payload.length ≤ client.payloadCap) : client.segment payload = .ok () := by
  have segmented : client.transport.Segmented client.isFd payload
      (client.transport.segmentMessage payload client.isFd (some client.brs)) :=
    able.segmentMessage fits (some client.brs)
  unfold segment
  cases made : client.transport.segmentMessage payload client.isFd (some client.brs) with
  | ok frames => rfl
  | error error =>
      rw [made] at segmented
      cases segmented with
      | refused long classic addressed =>
          rw [normal] at addressed
          exact absurd addressed (by decide)

theorem segment_fits {client : UdsClient} {payload : Bytes}
    (segmented : client.segment payload = .ok ()) : payload.length ≤ client.payloadCap := by
  by_contra long
  unfold segment IsoTpTransport.segmentMessage at segmented
  dsimp only at segmented
  unfold payloadCap at long
  rw [if_neg (by omega), if_pos (by omega)] at segmented
  cases segmented

theorem awaitResponse_answers {client : UdsClient} {request : Bytes} {deadline nrc78Count : Nat}
    {heard : List Heard} {response : UdsResponse}
    (answered : client.awaitResponse request deadline nrc78Count heard = .ok response) :
    response.serviceId = request.getD 0 0 ∧
      responseEchoMatches (request.getD 0 0) request response = true := by
  induction heard generalizing deadline nrc78Count with
  | nil => cases answered
  | cons first rest ih =>
      unfold awaitResponse at answered
      split at answered
      · cases answered
      · split at answered
        · cases answered
        · split at answered
          · cases answered
          · dsimp only at answered
            split at answered
            · exact ih answered
            · rename_i service
              split at answered
              · exact ih answered
              · rename_i echo
                split at answered
                · split at answered
                  · exact ih answered
                  · cases answered
                · cases answered
                  exact ⟨not_not.mp service, not_not.mp echo⟩

theorem sendAndReceive_answers {client : UdsClient} {payload : Bytes} {reply : Reply}
    {response : UdsResponse} (answered : client.sendAndReceive payload reply = .ok response) :
    response.serviceId = payload.getD 0 0 ∧
      responseEchoMatches (payload.getD 0 0) payload response = true := by
  unfold sendAndReceive at answered
  split at answered
  · cases answered
  · exact awaitResponse_answers answered

end UdsClient

end Ucanlab.Uds
