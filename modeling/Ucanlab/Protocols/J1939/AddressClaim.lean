import Ucanlab.Lib.EventRun
import Ucanlab.Protocols.J1939.Name
import Ucanlab.Protocols.J1939.Transport

/-!
The address claiming engine: its table of claimed addresses, the gate in front of
it, contention and the claim window. Times are nanoseconds of the monotonic clock.
The notes are the engine's log entries about its own claim, with the reading of
the clock at which the call began.
-/

namespace Ucanlab.J1939

open Ucanlab

def pgnAddressClaim : Nat := 60928
def pgnRequestPgn : Nat := 59904
def pgnCommandedAddress : Nat := 65240
def nullAddress : Nat := 254
def globalAddress : Nat := 255

inductive AddressClaimState where
  | uninitialized
  | claiming
  | claimed
  | cannotClaim
  deriving DecidableEq, Repr

def defaultPreferredAddress : Nat := 0xF9

def fallbackAddressRange : List Nat := List.range' 128 120

def addressTableTtlNs : Nat := 60000000000
def claimRateLimitPerSa : Nat := 8
def claimRateWindowNs : Nat := 1000000000
def claimConfirmWindowNs : Nat := 250000000
def claimToleranceNs : Nat := 25000000

/-- A claim recorded for an address and the time it expires. -/
abbrev ClaimEntry := J1939Name × Nat

/-- The start of the rate window and the claims counted in it. -/
abbrev ClaimBucket := Nat × Nat

/-- The channel is one the frame constructor accepts: otherwise no claim frame can
be built. -/
structure AddressClaimEngine where
  name : J1939Name
  preferredAddress : Nat
  currentAddress : Nat
  channel : ChannelId
  state : AddressClaimState
  addressTable : Dict Nat ClaimEntry
  claimRate : Dict Nat ClaimBucket
  claimTimer : Option Nat
  claimGeneration : Nat
  claimWindowDeadlineNs : Nat
  deriving DecidableEq

/-- The readings of the clock in one call: on entry, for the table a fallback is
looked for in, for the view of that table, and for the claim window. -/
structure ClaimClock where
  now : Nat
  scan : Nat
  view : Nat
  window : Nat
  deriving DecidableEq, Repr

def ClaimClock.at (now : Nat) : ClaimClock where
  now := now
  scan := now
  view := now
  window := now

def ClaimClock.Ordered (clock : ClaimClock) : Prop :=
  clock.now ≤ clock.scan ∧ clock.scan ≤ clock.view ∧ clock.view ≤ clock.window

instance (clock : ClaimClock) : Decidable clock.Ordered :=
  inferInstanceAs (Decidable (_ ∧ _ ∧ _))

inductive ClaimNote where
  | broadcast (address : Nat)
  | fallback (address : Nat)
  | defended (address : Nat)
  | lost (address : Nat)
  | confirmed (address : Nat)
  deriving DecidableEq, Repr

namespace AddressClaimEngine

def init (name : J1939Name) (preferredAddress : Nat) (channel : ChannelId) :
    AddressClaimEngine where
  name := name
  preferredAddress := preferredAddress
  currentAddress := preferredAddress
  channel := channel
  state := .uninitialized
  addressTable := []
  claimRate := []
  claimTimer := none
  claimGeneration := 0
  claimWindowDeadlineNs := 0

def isAddressClaimed (engine : AddressClaimEngine) : Bool :=
  decide (engine.state = .claimed ∧ engine.currentAddress ≠ nullAddress)

def claimIdentifier (address : Nat) : Nat := 0x18EEFF00 ||| (address &&& 0xFF)

theorem claimIdentifier_inRange (address : Nat) : claimIdentifier address ≤ 0x1FFFFFFF := by
  have low : address &&& 0xFF < 2 ^ 8 := Nat.lt_succ_of_le Nat.and_le_right
  have split : (0x18EEFF00 : Nat) = 0x18EEFF <<< 8 := rfl
  unfold claimIdentifier
  rw [split, BitField.shiftLeft_or_eq low]
  omega

/-- The frame `CanFrame.create` makes of our NAME on a claim of the address. -/
def claimFrame (engine : AddressClaimEngine) (address : Nat) : CanFrame where
  toFrameFields := tpFields engine.channel (claimIdentifier address) engine.name.toBytes
  valid := tpFields_valid engine.channel (claimIdentifier_inRange address)
    engine.name.toBytes_length

def armClaimConfirmationTimer (engine : AddressClaimEngine) (window : Nat) : AddressClaimEngine :=
  { engine with
    claimGeneration := engine.claimGeneration + 1
    claimWindowDeadlineNs := window + claimConfirmWindowNs
    claimTimer := some (engine.claimGeneration + 1) }

def cancelPendingClaimTimer (engine : AddressClaimEngine) : AddressClaimEngine :=
  { engine with
    claimGeneration := engine.claimGeneration + 1
    claimTimer := none }

def startClaiming (engine : AddressClaimEngine) (clock : ClaimClock) (autoArmTimer : Bool) :
    AddressClaimEngine × List ClaimNote × CanFrame :=
  let started := { engine with currentAddress := engine.preferredAddress, state := .claiming }
  (if autoArmTimer then started.armClaimConfirmationTimer clock.window else started,
    [.broadcast engine.preferredAddress], engine.claimFrame engine.preferredAddress)

def onClaimTransmitted (engine : AddressClaimEngine) (clock : ClaimClock) : AddressClaimEngine :=
  if engine.state = .claiming then engine.armClaimConfirmationTimer clock.window else engine

def onClaimTransmissionFailed (engine : AddressClaimEngine) : AddressClaimEngine :=
  if engine.state = .claiming then
    { engine.cancelPendingClaimTimer with state := .uninitialized }
  else engine.cancelPendingClaimTimer

def pruneAddressTable (engine : AddressClaimEngine) (now : Nat) : AddressClaimEngine :=
  { engine with
    addressTable := engine.addressTable.filter (fun entry => decide (now < entry.2.2))
    claimRate := engine.claimRate.filter
      (fun entry => decide (now - entry.2.1 ≤ 2 * claimRateWindowNs)) }

/-- The bucket after a claim that the gate lets through. -/
def nextBucket (now : Nat) : Option ClaimBucket → Option ClaimBucket
  | none => some (now, 1)
  | some (windowStart, count) =>
      if now - windowStart > claimRateWindowNs then some (now, 1)
      else if count ≥ claimRateLimitPerSa then none
      else some (windowStart, count + 1)

/-- `none` where the address has used up its claims of the window. -/
def checkClaimRateLimit (engine : AddressClaimEngine) (address now : Nat) :
    Option AddressClaimEngine :=
  (nextBucket now (engine.claimRate.get? address)).map
    (fun bucket => { engine with claimRate := engine.claimRate.set address bucket })

/-- The engine behind the look at its table: pruned for the scan, and the entries
that have expired when they are read. -/
def liveAddressTable (engine : AddressClaimEngine) (clock : ClaimClock) : AddressClaimEngine :=
  let pruned := engine.pruneAddressTable clock.scan
  { pruned with
    addressTable := pruned.addressTable.filter (fun entry => decide (clock.view < entry.2.2)) }

def giveUp (engine : AddressClaimEngine) : AddressClaimEngine :=
  { engine with currentAddress := nullAddress, state := .cannotClaim }

def loseContention (engine : AddressClaimEngine) (clock : ClaimClock) :
    AddressClaimEngine × List ClaimNote × Option CanFrame :=
  if engine.name.arbitraryAddressCapable then
    let live := engine.liveAddressTable clock
    match fallbackAddressRange.find? (fun address => !live.addressTable.contains address) with
    | some candidate =>
        let moved := { live with currentAddress := candidate, state := .claiming }
        (moved.armClaimConfirmationTimer clock.window,
          [.lost engine.currentAddress, .fallback candidate], some (engine.claimFrame candidate))
    | none =>
        (live.giveUp, [.lost engine.currentAddress], some (engine.claimFrame nullAddress))
  else (engine.giveUp, [.lost engine.currentAddress], some (engine.claimFrame nullAddress))

def handleContention (engine : AddressClaimEngine) (clock : ClaimClock) (sourceAddress : Nat)
    (otherName : J1939Name) : AddressClaimEngine × List ClaimNote × Option CanFrame :=
  if sourceAddress ≠ engine.currentAddress ∨ sourceAddress = nullAddress then (engine, [], none)
  else
    let contended := engine.cancelPendingClaimTimer
    if engine.name.toInt64 < otherName.toInt64 then
      (contended.armClaimConfirmationTimer clock.window, [.defended engine.currentAddress],
        some (engine.claimFrame engine.currentAddress))
    else contended.loseContention clock

def handleClaim (engine : AddressClaimEngine) (clock : ClaimClock) (sourceAddress : Nat)
    (otherName : J1939Name) : AddressClaimEngine × List ClaimNote × Option CanFrame :=
  match engine.checkClaimRateLimit sourceAddress clock.now with
  | none => (engine, [], none)
  | some counted =>
      let pruned := counted.pruneAddressTable clock.now
      let recorded := { pruned with
        addressTable := pruned.addressTable.set sourceAddress
          (otherName, clock.now + addressTableTtlNs) }
      recorded.handleContention clock sourceAddress otherName

def handleRequest (engine : AddressClaimEngine) (frame : CanFrame) (da : Option Nat) :
    Option CanFrame :=
  if littleEndian (frame.data.take 3) ≠ pgnAddressClaim then none
  else if ∃ address ∈ da, address ≠ globalAddress ∧ address ≠ engine.currentAddress then none
  else
    match engine.state with
    | .claimed => some (engine.claimFrame engine.currentAddress)
    | .cannotClaim => some (engine.claimFrame nullAddress)
    | _ => none

def handleCommanded (engine : AddressClaimEngine) (clock : ClaimClock) (frame : CanFrame) :
    AddressClaimEngine × List ClaimNote × Option CanFrame :=
  let newAddress := (frame.data.getD 8 0).toNat
  if (J1939Name.fromBytes frame.data).toInt64 ≠ engine.name.toInt64 then (engine, [], none)
  else if ¬ newAddress ≤ 0xFD then (engine, [], none)
  else
    let started := { engine with preferredAddress := newAddress }.startClaiming clock true
    (started.1, started.2.1, some started.2.2)

def handleRxFrame (engine : AddressClaimEngine) (clock : ClaimClock) (frame : CanFrame) :
    AddressClaimEngine × List ClaimNote × Option CanFrame :=
  if ¬ frame.isExtended ∨ frame.data.length < 3 then (engine, [], none)
  else
    let id := parseJ1939Id frame.arbitrationId
    if id.pgn = pgnRequestPgn then (engine, [], engine.handleRequest frame id.destinationAddress)
    else if frame.data.length < 8 then (engine, [], none)
    else if id.pgn = pgnCommandedAddress ∧ frame.data.length = 9 then
      engine.handleCommanded clock frame
    else if id.pgn ≠ pgnAddressClaim then (engine, [], none)
    else
      let otherName := J1939Name.fromBytes frame.data
      if otherName.toInt64 = engine.name.toInt64 then (engine, [], none)
      else engine.handleClaim clock id.sourceAddress otherName

def finalizeClaim (engine : AddressClaimEngine) : AddressClaimEngine × List ClaimNote :=
  if engine.state = .claiming ∧ engine.currentAddress ≠ nullAddress then
    ({ engine with state := .claimed }, [.confirmed engine.currentAddress])
  else (engine, [])

/-- The timer's callback, which may come late, early or after it was cancelled. -/
def confirmClaimedGuarded (engine : AddressClaimEngine) (clock : ClaimClock) (generation : Nat) :
    AddressClaimEngine × List ClaimNote :=
  if generation ≠ engine.claimGeneration then (engine, [])
  else if clock.now + claimToleranceNs < engine.claimWindowDeadlineNs then (engine, [])
  else engine.finalizeClaim

def confirmClaimed (engine : AddressClaimEngine) (clock : ClaimClock) :
    AddressClaimEngine × List ClaimNote :=
  if clock.now < engine.claimWindowDeadlineNs then (engine, []) else engine.finalizeClaim

end AddressClaimEngine

inductive ClaimOp where
  | setPreferredAddress (address : Nat)
  | startClaiming (autoArmTimer : Bool)
  | onClaimTransmitted
  | onClaimTransmissionFailed
  | cancelPendingClaimTimer
  | handleRxFrame (frame : CanFrame)
  | timer (generation : Nat)
  | confirmClaimed
  deriving DecidableEq

structure ClaimEvent where
  clock : ClaimClock
  op : ClaimOp
  deriving DecidableEq

def perform (engine : AddressClaimEngine) (event : ClaimEvent) :
    AddressClaimEngine × List ClaimNote :=
  match event.op with
  | .setPreferredAddress address => ({ engine with preferredAddress := address }, [])
  | .startClaiming autoArmTimer =>
      let started := engine.startClaiming event.clock autoArmTimer
      (started.1, started.2.1)
  | .onClaimTransmitted => (engine.onClaimTransmitted event.clock, [])
  | .onClaimTransmissionFailed => (engine.onClaimTransmissionFailed, [])
  | .cancelPendingClaimTimer => (engine.cancelPendingClaimTimer, [])
  | .handleRxFrame frame =>
      let handled := engine.handleRxFrame event.clock frame
      (handled.1, handled.2.1)
  | .timer generation => engine.confirmClaimedGuarded event.clock generation
  | .confirmClaimed => engine.confirmClaimed event.clock

/-- An engine in use: the last reading of the clock and the notes so far, the
latest one first. -/
structure ClaimUse where
  engine : AddressClaimEngine
  time : Nat
  notes : List (Nat × ClaimNote)
  deriving DecidableEq

/-- The calls exclude each other and the clock does not run backwards. -/
def operate (used : ClaimUse) (event : ClaimEvent) : Option ClaimUse :=
  if used.time ≤ event.clock.now ∧ event.clock.Ordered then
    let performed := perform used.engine event
    some
      { engine := performed.1
        time := event.clock.window
        notes := (performed.2.map (fun note => (event.clock.now, note))).reverse ++ used.notes }
  else none

def ClaimUse.start (name : J1939Name) (preferredAddress : Nat) (channel : ChannelId) : ClaimUse where
  engine := AddressClaimEngine.init name preferredAddress channel
  time := 0
  notes := []

end Ucanlab.J1939
