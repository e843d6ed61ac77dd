import Ucanlab.Engine.Diagnosis.ReadSession

/-!
The fault code read of a passenger car: the one-shot requests of the poller over one ISO-TP
conversation for each controller, and the read that asks for codes, freeze frame, monitor results
and identification. The registry that decodes a parameter is an argument.
-/

namespace Ucanlab.Diagnosis

open Ucanlab Safety Obd IsoTp

def p2StarTimeoutNs : Nat := 5000000000
def maxPendingAbsNs : Nat := 30000000000
def maxNrc78Count : Nat := 200
def responsePending : UInt8 := 0x78
def negativeResponse : UInt8 := 0x7F

/-- A frame taken from the queue: when the request began to wait for it and when its payload was
looked at, both since the request went out, and the clock of the transport. -/
structure ObdArrival where
  polledNs : Nat
  receivedNs : Nat
  handledNs : Nat
  frame : CanFrame

structure ObdPidResult where
  isValid : Bool
  text : List Char
  number : Option Rat
  deriving DecidableEq

/-- A controller is asked at an address that the read-only policy lets out. -/
structure ObdEcu where
  txId : Nat
  rxId : Nat
  nameTr : String
  nameEn : String
  permitted : txId = obdFunctionalId ∨ isObdPhysicalRequestId txId = true

theorem engine_permitted : 0x7E0 = obdFunctionalId ∨ isObdPhysicalRequestId 0x7E0 = true := by
  decide

def obdEcus : List ObdEcu := [
  ⟨0x7E0, 0x7E8, "Motor kontrol ünitesi", "Engine control unit", engine_permitted⟩,
  ⟨0x7E1, 0x7E9, "Şanzıman kontrol ünitesi", "Transmission control unit", by decide⟩]

def isResponseId (arbitrationId : Nat) : Bool :=
  decide (0x7E8 ≤ arbitrationId ∧ arbitrationId < 0x7F0)

/-- A frame with the controller that is being asked. -/
structure ObdHeard where
  ecu : ObdEcu
  arrival : ObdArrival

abbrev CarState := ReaderState ObdHeard ReceivingTransport

abbrev CarReader := Reader ObdHeard ReceivingTransport

structure ObdRead where
  port : TxPort ObdHeard
  bus : List (ReaderEvent ObdHeard) → List ObdArrival
  channelId : String
  ecus : List ObdEcu := obdEcus
  timeoutNs : Nat := 1000000000
  snapshot : Bool := true
  decode : UInt8 → Bytes → ObdPidResult

/-- The identifier of the flow control for an answer on `rxId`. -/
def flowControlId (txId rxId : Nat) : Nat :=
  if txId = 0x7DF ∧ 0x7E8 ≤ rxId ∧ rxId ≤ 0x7EF then rxId - 8
  else if txId &&& 0x1FFF0000 = 0x18DB0000 ∧ rxId &&& 0x1FFF0000 = 0x18DA0000 then
    0x18DA0000 ||| ((rxId &&& 0xFF) <<< 8) ||| ((rxId >>> 8) &&& 0xFF)
  else txId

/-- `payload[index]`. -/
def byteAt (payload : Bytes) (index : Nat) : Except ReaderFault UInt8 :=
  match payload[index]? with
  | some byte => .ok byte
  | none => .error .other

/-- What a caught exception leaves of a request. -/
inductive Asked (α : Type) where
  | result (value : α)
  | timedOut
  | rejected
  deriving DecidableEq

section Requests

/-- A single frame that asks a service, filled up with `0x55`. -/
def singleFrame (service : UInt8) (arguments : Bytes) : Bytes :=
  UInt8.ofNat (arguments.length + 1) :: service ::
    (arguments ++ List.replicate (6 - arguments.length) 0x55)

def vehicleInfoRequest (infotype : Nat) : Bytes :=
  singleFrame 0x09 [UInt8.ofNat (infotype &&& 0xFF)]

end Requests

section Matching

/-- A negative answer to the service ends the request, unless it asks for patience. -/
def matchNegative {α : Type} (service : UInt8) (completed : Bytes) :
    Except ReaderFault (Option α) :=
  if completed.getD 0 0 = negativeResponse ∧ completed.length ≥ 3 ∧
      completed.getD 1 0 = service ∧ completed.getD 2 0 ≠ responsePending then
    .error .protocol
  else .ok none

/-- The codes of an answer. A short answer raises where it is indexed. -/
def matchDtc (mode : UInt8) (completed : Bytes) :
    Except ReaderFault (Option (List (List Char))) :=
  match byteAt completed 0 with
  | .error fault => .error fault
  | .ok first =>
      if first = mode + 0x40 then
        match byteAt completed 1 with
        | .error fault => .error fault
        | .ok count => .ok (some (decodeDtcs count.toNat (completed.drop 2)))
      else if first = negativeResponse then
        match byteAt completed 1 with
        | .error fault => .error fault
        | .ok service =>
            if service = mode then
              match byteAt completed 2 with
              | .error fault => .error fault
              | .ok nrc => if nrc = responsePending then .ok none else .error .protocol
            else .ok none
      else .ok none

def matchFreezeFrame (decode : UInt8 → Bytes → ObdPidResult) (pid frame : UInt8)
    (completed : Bytes) : Except ReaderFault (Option ObdPidResult) :=
  if completed.getD 0 0 = 0x42 ∧ completed.length ≥ 3 ∧ completed.getD 1 0 = pid ∧
      completed.getD 2 0 = frame then
    .ok (some (decode pid (completed.drop 3)))
  else matchNegative 0x02 completed

def matchEcho (service : UInt8) (identifier : Nat) (completed : Bytes) :
    Except ReaderFault (Option Bytes) :=
  if completed.getD 0 0 = service + 0x40 ∧ completed.length ≥ 2 ∧
      (completed.getD 1 0).toNat = identifier &&& 0xFF then .ok (some completed)
  else matchNegative service completed

end Matching

namespace ObdRead

variable (read : ObdRead)

/-- The conversation of a new poller. -/
def transportFor (ecu : ObdEcu) : ReceivingTransport where
  txId := flowControlId ecu.txId ecu.rxId
  channelId := read.channelId
  rxId := ecu.rxId

def transport (arrival : ObdArrival) : CarReader (Option Bytes) := fun state =>
  match state.link.handleRxFrame arrival.receivedNs arrival.frame with
  | (link, .error _) => (.error .value, { state with link := link })
  | (link, .ok (completed, none)) => (.ok completed, { state with link := link })
  | (link, .ok (completed, some fc)) =>
      (send read.port fc >>= fun _ => pure completed) { state with link := link }

/-- A frame of another channel, identifier or size is passed over. -/
def heed (ecu : ObdEcu) (arrival : ObdArrival) : CarReader (Option Bytes) := do
  Dialogue.update (fun state : CarState =>
    { state with log := state.log ++ [.heard ⟨ecu, arrival⟩] })
  if arrival.frame.channelId ≠ read.channelId then pure none
  else if arrival.frame.arbitrationId ≠ ecu.rxId ∨ arrival.frame.data.length < 3 then pure none
  else read.transport arrival

/-- An answer that keeps the request pending moves the deadline, up to the absolute one. -/
def awaitDiagnosticResponse {α : Type} (ecu : ObdEcu)
    (matchResponse : Bytes → Except ReaderFault (Option α)) :
    Nat → Nat → List ObdArrival → CarReader α
  | _, _, [] => Dialogue.fail .timeout
  | deadline, nrc78Count, arrival :: rest =>
      if deadline ≤ arrival.polledNs ∨ maxPendingAbsNs ≤ arrival.polledNs then
        Dialogue.fail .timeout
      else do
        match ← read.heed ecu arrival with
        | none => awaitDiagnosticResponse ecu matchResponse deadline nrc78Count rest
        | some completed => do
            let first ← Dialogue.lift (byteAt completed 0)
            if first = negativeResponse ∧ completed.length ≥ 3 ∧
                completed.getD 2 0 = responsePending ∧ nrc78Count < maxNrc78Count ∧
                arrival.handledNs < maxPendingAbsNs then
              awaitDiagnosticResponse ecu matchResponse
                (min (arrival.handledNs + p2StarTimeoutNs) maxPendingAbsNs) (nrc78Count + 1) rest
            else
              match ← Dialogue.lift (matchResponse completed) with
              | some result => pure result
              | none => awaitDiagnosticResponse ecu matchResponse deadline nrc78Count rest

/-- Only frames with a response identifier get into the queue. -/
def poll {α : Type} (ecu : ObdEcu) (payload : Bytes)
    (matchResponse : Bytes → Except ReaderFault (Option α)) : CarReader α := do
  let frame ← createTx read.channelId ecu.txId payload (decide (ecu.txId > 0x7FF))
  send read.port frame
  let queue ← Dialogue.read (fun state : CarState =>
    (read.bus state.log).filter (fun arrival => isResponseId arrival.frame.arbitrationId))
  read.awaitDiagnosticResponse ecu matchResponse read.timeoutNs 0 queue

def pollVehicleInfoOnce (ecu : ObdEcu) (infotype : Nat) : CarReader Bytes :=
  read.poll ecu (vehicleInfoRequest infotype) (matchEcho 0x09 infotype)

section Catching

variable {α β : Type}

/-- `except TimeoutError` and `except ProtocolError`. -/
def asked (program : CarReader α) : CarReader (Asked α) :=
  (program >>= fun value => pure (.result value)).catching (fun fault =>
    match fault with
    | .timeout => pure .timedOut
    | .protocol => pure .rejected
    | fault => Dialogue.fail fault)

/-- A `ValueError` ends a read with what it has so far. -/
def orKeep (soFar : β) (program : CarReader α) (next : α → CarReader β) : CarReader β := do
  match ← (program >>= fun value => pure (some value)).catching (fun fault =>
    match fault with
    | .value => pure none
    | fault => Dialogue.fail fault) with
  | none => pure soFar
  | some value => next value

end Catching

/-- A request of mode 09 and its decoding; nothing where the ECU does not answer. -/
def ask {α : Type} (ecu : ObdEcu) (infotype : Nat) (decode : Bytes → Except ResponseError α)
    (unanswered : α) : CarReader α := do
  match ← asked (read.pollVehicleInfoOnce ecu infotype) with
  | .result raw => Dialogue.lift (match decode raw with
      | .ok result => .ok result
      | .error _ => .error .value)
  | _ => pure unanswered

/-- A missing verification number stays empty. -/
def calibrationsOf (calIds cvns : List (List Char)) : List J1939.Calibration :=
  calIds.zipIdx.map (fun entry => { calId := entry.1, cvn := cvns.getD entry.2 [] })

def readVehicleIdentity (ecu : ObdEcu) : CarReader VehicleIdentity :=
  orKeep {} (read.ask ecu infotypeVin decodeVin none) (fun vin =>
    let out : VehicleIdentity := { vin := vin }
    orKeep out (read.ask ecu infotypeCalId decodeCalIds []) (fun calIds =>
      orKeep out
        (if calIds = [] then pure [] else read.ask ecu infotypeCvn decodeCvns [])
        (fun cvns =>
          let out := { out with calibrations := calibrationsOf calIds cvns }
          orKeep out (read.ask ecu infotypeEcuName decodeEcuName none) (fun name =>
            pure { out with ecuName := name }))))

end ObdRead

end Ucanlab.Diagnosis
