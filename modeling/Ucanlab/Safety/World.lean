import Ucanlab.Lib.EventRun
import Ucanlab.Safety.GatewayOps

/-!
The transmit path as a system of atomic sections: any number of
`validate_and_transmit` calls between their locked phase, their guard and their
dispatch, interleaved with the emergency stop, the supervisor, the watchdog,
the two sections of a reset and of a rebind, and the callbacks each of them
schedules. Engagements decided under the gateway lock are parked and fired in a
section of their own.
-/

namespace Ucanlab.Safety

open Ucanlab E2E

inductive CallStage where
  | validated
  | cleared
  | refused (refusal : Refusal)
  deriving DecidableEq, Repr

structure Call where
  request : TxRequest
  reservation : Reservation
  stage : CallStage

inductive Outcome where
  | admitted
  | accepted
  | refused (refusal : Refusal)
  deriving DecidableEq, Repr

/-- One line of the log: which call, whether it was triggered by inbound
traffic, its lane as given, and what became of it. -/
structure LogEntry where
  id : Nat
  inboundTriggered : Bool
  budgetCategory : String
  outcome : Outcome
  deriving DecidableEq, Repr

/-- A frame on the wire, with the binding of the bus that carried it. -/
structure Transmission where
  id : Nat
  reservation : Reservation
  bus : Bus

/-- Listener sections still to run: the supervisor half and the gateway half
of the gateway's engagement callback, and the two state-change listeners. -/
inductive Callback where
  | estopSupervisor
  | estopGateway
  | stateGateway (newState : SafetyState)
  | stateWatchdog (newState : SafetyState)
  deriving DecidableEq, Repr

structure World where
  gateway : Gateway
  supervisor : Option Supervisor
  watchdog : Option Watchdog
  estop : EStop
  now : Nat
  calls : Nat → Option Call
  rebinding : Bool
  parked : List EStopEvent
  pendingResets : Nat
  callbacks : List Callback
  wire : List Transmission
  log : List LogEntry

inductive Event where
  | validate (id owner : Nat) (request : TxRequest) (clock : Clock)
  | guard (id : Nat)
  | dispatch (id : Nat)
  | rollback (id : Nat)
  | fire (index : Nat) (nonce : Bytes)
  | trigger (event : EStopEvent) (nonce : Bytes)
  | callback (index : Nat)
  | resetVerify (verdict : EStop.ResetVerdict)
  | resetPublish
  | rebindBus (bus : Bus)
  | rebindWhitelist (change : WhitelistChange)
  | rebindPublish
  | transition (target : SafetyState) (reason : String)
  | triggerFault (reason : String)
  | updateSpeed (speed : SpeedValue) (source : String)
  | issueToken (arbitrationId ttlNs : Nat) (nonce : Bytes) (payloadHash context : Option Bytes)
  | installPolicy (policy : ReadOnlyPolicy)
  | clearPolicy
  | registerProfile (arbitrationId : Nat) (profile : E2EProfileConfig)
  | notifyLinkFault (kind : LinkFaultKind) (reason : String)
  | clearLinkFault (kind : LinkFaultKind)
  | heartbeat (token : Option String)
  | anchorLease (token : Option String)
  | startWatchdog
  | stopWatchdog
  | tick (elapsed : Nat)

namespace World

def plane (world : World) : TxPlane where
  supervisor := world.supervisor
  watchdog := world.watchdog
  estop := world.estop

def setCall (world : World) (id : Nat) (call : Option Call) : World :=
  { world with calls := fun other => if other = id then call else world.calls other }

def record (world : World) (id : Nat) (request : TxRequest) (outcome : Outcome) : World :=
  { world with
    log := {
      id := id
      inboundTriggered := request.inboundTriggered
      budgetCategory := request.budgetCategory
      outcome := outcome } :: world.log }

def validate (digests : Digests) (world : World) (id owner : Nat) (request : TxRequest)
    (clock : Clock) : Option World :=
  if (world.calls id).isSome ∨ clock.start < world.now then none
  else
    match world.gateway.validateLocked digests world.plane clock owner request with
    | .error rejection =>
        some ({ world with
          gateway := rejection.gateway
          now := clock.burn
          parked := world.parked ++ rejection.requests }.record id request
            (.refused rejection.refusal))
    | .ok (gateway, reservation) =>
        some (({ world with
          gateway := gateway
          now := clock.burn }.setCall id (some {
            request := request
            reservation := reservation
            stage := .validated })).record id request .admitted)

def guard (world : World) (id : Nat) : Option World :=
  match world.calls id with
  | some call =>
      if call.stage = .validated then
        some (world.setCall id (some { call with
          stage :=
            if call.reservation.guardRefuses world.estop then .refused .estopActive
            else .cleared }))
      else none
  | none => none

/-- The check under the send lock and, when it passes, the send itself. -/
def dispatch (world : World) (id : Nat) : Option World :=
  match world.calls id with
  | some call =>
      if call.stage = .cleared ∧ world.rebinding = false then
        if call.reservation.fenceRefuses world.estop then
          some (world.setCall id (some { call with stage := .refused .fenceInvalidated }))
        else
          some (({ world with
            wire := {
              id := id
              reservation := call.reservation
              bus := world.gateway.bus } :: world.wire }.setCall id none).record id call.request
                .accepted)
      else none
  | none => none

def rollback (world : World) (id : Nat) : Option World :=
  match world.calls id with
  | some call =>
      match call.stage with
      | .refused refusal =>
          some (({ world with
            gateway := world.gateway.rollback call.reservation.charge
              call.reservation.burnedPayload }.setCall id none).record id call.request
                (.refused refusal))
      | _ => none
  | none => none

def engage (world : World) (event : EStopEvent) (nonce : Bytes) : World :=
  { world with
    estop := world.estop.trigger event world.now nonce
    callbacks := world.callbacks ++ [.estopSupervisor, .estopGateway] }

def fire (world : World) (index : Nat) (nonce : Bytes) : Option World :=
  match world.parked[index]? with
  | none => none
  | some event => some ({ world with parked := world.parked.eraseIdx index }.engage event nonce)

/-- A transition of the supervisor schedules the listeners of both components. -/
def installSupervisor (world : World) (result : Supervisor × TransitionOutcome) : World :=
  { world with
    supervisor := some result.1
    callbacks :=
      match result.2 with
      | .moved _ target _ => world.callbacks ++ [.stateGateway target, .stateWatchdog target]
      | _ => world.callbacks }

def transition (world : World) (target : SafetyState) (reason : String) : Option World :=
  match world.supervisor with
  | none => none
  | some supervisor =>
      some (world.installSupervisor
        (supervisor.transitionTo world.estop.engaged target reason world.now))

def triggerFault (world : World) (reason : String) : Option World :=
  match world.supervisor with
  | none => none
  | some supervisor =>
      some (world.installSupervisor
        (supervisor.triggerFault world.estop.engaged reason world.now))

def estopFaultReason : String := "E-Stop engagement triggered from hardware/software event"

def runCallback (world : World) (callback : Callback) : World :=
  match callback with
  | .estopSupervisor =>
      match world.supervisor with
      | none => world
      | some supervisor =>
          if supervisor.state = .fault then world
          else
            world.installSupervisor
              (supervisor.triggerFault world.estop.engaged estopFaultReason world.now)
  | .estopGateway => { world with gateway := world.gateway.onEstopTriggered }
  | .stateGateway newState =>
      { world with gateway := world.gateway.onSafetyStateChanged newState }
  | .stateWatchdog newState =>
      { world with
        watchdog := world.watchdog.map (fun watchdog => watchdog.onSafetyStateChanged newState) }

def callback (world : World) (index : Nat) : Option World :=
  match world.callbacks[index]? with
  | none => none
  | some scheduled =>
      some ({ world with callbacks := world.callbacks.eraseIdx index }.runCallback scheduled)

def resetVerify (world : World) (verdict : EStop.ResetVerdict) : World :=
  let result := world.estop.resetVerify verdict world.now
  { world with
    estop := result.1
    pendingResets :=
      if result.2 = .disengaged then world.pendingResets + 1 else world.pendingResets }

/-- The fence is published under the send lock. -/
def resetPublish (world : World) : Option World :=
  if world.pendingResets = 0 ∨ world.rebinding = true then none
  else
    some { world with
      estop := world.estop.resetPublish
      pendingResets := world.pendingResets - 1 }

/-- A rebind holds the send lock from here until its fence is published. -/
def rebindBus (world : World) (bus : Bus) : Option World :=
  if world.rebinding then none
  else
    some { world with
      gateway := world.gateway.rebindBus bus world.now
      rebinding := true }

/-- A refused list raises out of the section, and no fence is published. -/
def rebindWhitelist (world : World) (change : WhitelistChange) : Option World :=
  if world.rebinding then none
  else
    let result := world.gateway.rebindWhitelist change
    some { world with
      gateway := result.1
      rebinding := result.2.isNone }

def rebindPublish (world : World) : Option World :=
  if world.rebinding then
    some { world with
      estop := world.estop.advanceTxFence
      rebinding := false }
  else none

def notifyLinkFault (world : World) (kind : LinkFaultKind) (reason : String) : World :=
  let result := world.gateway.notifyLinkFault kind world.plane
  { world with
    gateway := result.1
    parked :=
      if result.2 then
        world.parked ++ [{ trigger := kind.source, reason := .reported reason }]
      else world.parked }

def mapGateway (world : World) (change : Gateway → Gateway) : World :=
  { world with gateway := change world.gateway }

def mapWatchdog (world : World) (change : Watchdog → Watchdog) : World :=
  { world with watchdog := world.watchdog.map change }

/-- One atomic section; `none` when it cannot run now. Minting a token changes
no state. -/
def step (digests : Digests) (world : World) : Event → Option World
  | .validate id owner request clock => world.validate digests id owner request clock
  | .guard id => world.guard id
  | .dispatch id => world.dispatch id
  | .rollback id => world.rollback id
  | .fire index nonce => world.fire index nonce
  | .trigger event nonce => some (world.engage event nonce)
  | .callback index => world.callback index
  | .resetVerify verdict => some (world.resetVerify verdict)
  | .resetPublish => world.resetPublish
  | .rebindBus bus => world.rebindBus bus
  | .rebindWhitelist change => world.rebindWhitelist change
  | .rebindPublish => world.rebindPublish
  | .transition target reason => world.transition target reason
  | .triggerFault reason => world.triggerFault reason
  | .updateSpeed speed source =>
      some (world.mapGateway (fun gateway => gateway.updateVehicleSpeed speed source world.now))
  | .issueToken .. => some world
  | .installPolicy policy =>
      some (world.mapGateway (fun gateway => gateway.installReadOnlyPolicy policy))
  | .clearPolicy => some (world.mapGateway Gateway.clearReadOnlyPolicy)
  | .registerProfile arbitrationId profile =>
      some (world.mapGateway (fun gateway => gateway.registerE2eProfile arbitrationId profile))
  | .notifyLinkFault kind reason => some (world.notifyLinkFault kind reason)
  | .clearLinkFault kind => some (world.mapGateway (fun gateway => gateway.clearLinkFault kind))
  | .heartbeat token =>
      some (world.mapWatchdog (fun watchdog => watchdog.heartbeat token world.now))
  | .anchorLease token =>
      some (world.mapWatchdog (fun watchdog => (watchdog.anchorLeaseForArm token world.now).1))
  | .startWatchdog => some (world.mapWatchdog (fun watchdog => watchdog.start world.now))
  | .stopWatchdog => some (world.mapWatchdog Watchdog.stop)
  | .tick elapsed => some { world with now := world.now + elapsed }

/-- Nothing is in flight and nothing has been consumed, charged or logged. -/
structure Initial (world : World) : Prop where
  calls : ∀ id, world.calls id = none
  parked : world.parked = []
  pendingResets : world.pendingResets = 0
  callbacks : world.callbacks = []
  rebinding : world.rebinding = false
  wire : world.wire = []
  log : world.log = []
  consumed : world.gateway.consumedConfirmations = ReplayStore.empty
  speed : world.gateway.speed = SpeedChannel.initial
  rateStreak : world.gateway.rateOverloadStreak = 0
  totalStreak : world.gateway.totalOverloadStreak = 0
  latches : world.gateway.linkFaultLatched = []
  latchEpoch : world.gateway.linkFaultEpoch = world.estop.epoch

/-- The components as they are wired together. -/
def new (gateway : Gateway) (supervisor : Option Supervisor) (watchdog : Option Watchdog)
    (estop : EStop) (now : Nat) : World where
  gateway := gateway
  supervisor := supervisor
  watchdog := watchdog
  estop := estop
  now := now
  calls := fun _ => none
  rebinding := false
  parked := []
  pendingResets := 0
  callbacks := []
  wire := []
  log := []

def isCallStep : Event → Bool
  | .validate .. => true
  | .guard _ => true
  | .dispatch _ => true
  | .rollback _ => true
  | _ => false

def bench (ids : List Nat) (options : GatewayOptions) (supervisor : Option Supervisor) : World :=
  new
    (Gateway.configured { identity := 0, interface := none, isVirtualBus := false }
      { whitelist := { ids := ids, masks := [] }, supersetAllowed := false } options 0 0)
    supervisor none (EStop.new 30000000000) 0

theorem bench_initial (ids : List Nat) (options : GatewayOptions)
    (supervisor : Option Supervisor) : Initial (bench ids options supervisor) :=
  ⟨fun _ => rfl, rfl, rfl, rfl, rfl, rfl, rfl, rfl, rfl, rfl, rfl, rfl, rfl⟩

end World

end Ucanlab.Safety
