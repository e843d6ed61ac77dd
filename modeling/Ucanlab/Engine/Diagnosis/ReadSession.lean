import Ucanlab.Lib.Dialogue
import Ucanlab.Protocols.Obd.Responses
import Ucanlab.Safety.ReadOnlyPolicy

/-!
What the two mechanic readers share: their outcome, the transmit port, and a log of the frames a
reader took from its queue and of those it handed to the port. A frame is logged as handed over
before the port decides.
-/

namespace Ucanlab.Diagnosis

open Ucanlab Safety

/-- What can stop a read: a timeout, an exception of the protocol stack, of a value, of the
gateway, or another one. -/
inductive ReaderFault where
  | timeout
  | protocol
  | value
  | safety
  | other
  deriving DecidableEq, Repr

inductive ReadStatus where
  | ok
  | noAnswer
  | refused
  | error
  deriving DecidableEq, Repr

inductive CodeKind where
  | stored
  | pending
  | permanent
  deriving DecidableEq, Repr

structure ObdCode where
  code : List Char
  kind : CodeKind
  ecuTr : String
  ecuEn : String
  deriving DecidableEq

/-- The stored conditions of a trouble code. -/
structure FreezeReading where
  dtc : List Char
  readings : List (String × Rat)
  ecu : String
  protocol : Option String := none
  deriving DecidableEq

inductive MonitorRecord where
  | scaled (result : J1939.ScaledTestResult)
  | mode06 (test : Obd.Mode06Test)
  deriving DecidableEq

/-- Only the fields the ECU answered are filled in. -/
structure VehicleIdentity where
  vin : Option (List Char) := none
  calibrations : List J1939.Calibration := []
  ecuName : Option (List Char) := none
  software : List (List Char) := []
  component : List (String × List Char) := []
  deriving DecidableEq

structure ObdReadOutcome where
  status : ReadStatus := .noAnswer
  codes : List ObdCode := []
  answeredEcus : List String := []
  unsupportedModes : List String := []
  freezeFrame : Option FreezeReading := none
  monitors : List MonitorRecord := []
  /-- The identity with the name of the ECU and of the protocol. -/
  identity : Option (VehicleIdentity × String × String) := none
  deriving DecidableEq

inductive ReaderEvent (κ : Type) where
  | heard (arrival : κ)
  | sent (frame : CanFrame)

def handed {κ : Type} (log : List (ReaderEvent κ)) : List CanFrame :=
  log.filterMap (fun event =>
    match event with
    | .heard _ => none
    | .sent frame => some frame)

/-- The transmit port raises what it likes, whatever was handed to it before. -/
structure TxPort (κ : Type) where
  refuses : List (ReaderEvent κ) → CanFrame → Option ReaderFault

structure ReaderState (κ ρ : Type) where
  link : ρ
  log : List (ReaderEvent κ) := []
  outcome : ObdReadOutcome := {}

abbrev Reader (κ ρ : Type) := Dialogue (ReaderState κ ρ) ReaderFault

section Steps

variable {κ ρ : Type}

/-- `await tx_port.send(frame)`. -/
def send (port : TxPort κ) (frame : CanFrame) : Reader κ ρ Unit := fun state =>
  let handed := { state with log := state.log ++ [.sent frame] }
  match port.refuses state.log frame with
  | none => (.ok (), handed)
  | some fault => (.error fault, handed)

/-- `CanFrame.create` of a frame to send. -/
def createTx (channelId : String) (arbitrationId : Nat) (data : Bytes) (isExtended : Bool) :
    Reader κ ρ CanFrame :=
  Dialogue.lift (match CanFrame.create {
      channelId := channelId
      arbitrationId := arbitrationId
      dlc := 0
      data := data
      isExtended := isExtended
      direction := .tx } none with
    | .error _ => .error .value
    | .ok frame => .ok frame)

end Steps

end Ucanlab.Diagnosis
