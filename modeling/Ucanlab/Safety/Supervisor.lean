import Mathlib.Data.List.Basic

/-!
The safety state machine that grants and withdraws the permission to transmit.
-/

namespace Ucanlab.Safety

inductive SafetyState where
  | startup
  | safe
  | passive
  | armedTx
  | active
  | fault
  deriving DecidableEq, Repr

def SafetyState.value : SafetyState → String
  | .startup => "STARTUP"
  | .safe => "SAFE"
  | .passive => "PASSIVE"
  | .armedTx => "ARMED_TX"
  | .active => "ACTIVE"
  | .fault => "FAULT"

def SafetyState.permitsTx : SafetyState → Bool
  | .armedTx => true
  | .active => true
  | _ => false

def SafetyState.withdrawsTx (state : SafetyState) : Bool := !state.permitsTx

def allowedTransitions : SafetyState → List SafetyState
  | .startup => [.safe, .fault]
  | .safe => [.passive, .fault]
  | .passive => [.armedTx, .safe, .fault]
  | .armedTx => [.active, .passive, .fault]
  | .active => [.armedTx, .passive, .fault]
  | .fault => [.passive, .safe]

structure StateTransitionRecord where
  fromState : SafetyState
  toState : SafetyState
  reason : String
  epoch : Nat
  monotonicTimestampNs : Nat
  durationNs : Nat
  deriving DecidableEq, Repr

def historyCapacity : Nat := 10000
def maxReasonLen : Nat := 512

/-- Cut to the bound, then control characters replaced. -/
def sanitizeReason (reason : String) : String :=
  let cut :=
    if reason.length > maxReasonLen then
      String.ofList (reason.toList.take maxReasonLen) ++ "…[truncated]"
    else reason
  cut.map (fun c => if c.toNat ≤ 0x1F ∨ c.toNat = 0x7F then '?' else c)

structure Supervisor where
  state : SafetyState
  estopBound : Bool
  epoch : Nat
  stateChangeNs : Nat
  faultReason : String
  history : List StateTransitionRecord
  faultEventCount : Nat
  lastFaultEventNs : Nat
  deriving DecidableEq

inductive TransitionError where
  | estopEngaged (target : SafetyState)
  | illegal (source target : SafetyState)
  deriving DecidableEq, Repr

def TransitionError.code : TransitionError → String
  | .estopEngaged _ => "ESTOP_ENGAGED"
  | .illegal _ _ => "ILLEGAL_SAFETY_TRANSITION"

/-- What `transition_to` did: `moved` also when an illegal request forced the
fault state, with the error it then raises. -/
inductive TransitionOutcome where
  | unchanged
  | refused (error : TransitionError)
  | moved (source target : SafetyState) (error : Option TransitionError)
  deriving DecidableEq, Repr

namespace Supervisor

def isTxPermitted (supervisor : Supervisor) : Bool := supervisor.state.permitsTx

def new (initial : SafetyState) (estopBound : Bool) (now : Nat) : Supervisor where
  state := initial
  estopBound := estopBound
  epoch := 0
  stateChangeNs := now
  faultReason := ""
  history := []
  faultEventCount := 0
  lastFaultEventNs := 0

def recordFaultEvent (supervisor : Supervisor) (now : Nat) : Supervisor :=
  { supervisor with
    faultEventCount := supervisor.faultEventCount + 1
    lastFaultEventNs := now }

def appendHistory (history : List StateTransitionRecord) (record : StateTransitionRecord) :
    List StateTransitionRecord :=
  let extended := history ++ [record]
  extended.drop (extended.length - historyCapacity)

def enter (supervisor : Supervisor) (target : SafetyState) (reason faultReason : String)
    (now : Nat) : Supervisor :=
  { supervisor with
    state := target
    epoch := supervisor.epoch + 1
    stateChangeNs := now
    faultReason := faultReason
    history := appendHistory supervisor.history {
      fromState := supervisor.state
      toState := target
      reason := reason
      epoch := supervisor.epoch + 1
      monotonicTimestampNs := now
      durationNs := now - supervisor.stateChangeNs } }

def illegalReason (source target : SafetyState) (reason : String) : String :=
  "ILLEGAL_STATE_TRANSITION: Illegal Safety State transition from '" ++ source.value ++
    "' to '" ++ target.value ++ "'. Reason: " ++ (if reason = "" then "N/A" else reason)

/-- An engaged emergency stop bars the way to every state that could transmit
or soon transmit; a step outside the table forces the fault state. -/
def transitionTo (supervisor : Supervisor) (estopEngaged : Bool) (target : SafetyState)
    (rawReason : String) (now : Nat) : Supervisor × TransitionOutcome :=
  let reason := sanitizeReason rawReason
  if supervisor.state = target then (supervisor, .unchanged)
  else if supervisor.estopBound ∧ estopEngaged ∧ target ∈ [.passive, .armedTx, .active] then
    (supervisor, .refused (.estopEngaged target))
  else if ¬ target ∈ allowedTransitions supervisor.state then
    let fault := illegalReason supervisor.state target reason
    ((supervisor.recordFaultEvent now).enter .fault fault fault now,
      .moved supervisor.state .fault (some (.illegal supervisor.state target)))
  else
    let faultReason :=
      if target = .fault then reason
      else if supervisor.state = .fault then ""
      else supervisor.faultReason
    (supervisor.enter target reason faultReason now, .moved supervisor.state target none)

def enterPassiveMode (supervisor : Supervisor) (estopEngaged : Bool) (reason : String)
    (now : Nat) : Supervisor × TransitionOutcome :=
  supervisor.transitionTo estopEngaged .passive reason now

/-- The rate limiter of `trigger_fault` only thins the log. -/
def triggerFault (supervisor : Supervisor) (estopEngaged : Bool) (reason : String) (now : Nat) :
    Supervisor × TransitionOutcome :=
  (supervisor.recordFaultEvent now).transitionTo estopEngaged .fault reason now

theorem transitionTo_cases (supervisor : Supervisor) (estopEngaged : Bool) (target : SafetyState)
    (reason : String) (now : Nat) :
    (supervisor.transitionTo estopEngaged target reason now).1.state = supervisor.state ∨
      ((supervisor.transitionTo estopEngaged target reason now).1.state = .fault) ∨
      ((supervisor.transitionTo estopEngaged target reason now).1.state = target ∧
        target ∈ allowedTransitions supervisor.state ∧
        (supervisor.estopBound = true → target ∈ [SafetyState.passive, .armedTx, .active] →
          estopEngaged = false)) := by
  unfold transitionTo
  dsimp only
  split
  · exact Or.inl rfl
  · split
    · exact Or.inl rfl
    · rename_i notBarred
      split
      · exact Or.inr (Or.inl rfl)
      · rename_i allowed
        refine Or.inr (Or.inr ⟨rfl, not_not.mp allowed, ?_⟩)
        intro bound sensitive
        cases engaged : estopEngaged with
        | false => rfl
        | true => exact absurd ⟨bound, engaged, sensitive⟩ notBarred

/-- Transmission becomes permitted only by a legal step taken while a bound
emergency stop is disengaged. -/
theorem transitionTo_permits (supervisor : Supervisor) (estopEngaged : Bool)
    (target : SafetyState) (reason : String) (now : Nat)
    (permitted : (supervisor.transitionTo estopEngaged target reason now).1.isTxPermitted = true) :
    supervisor.isTxPermitted = true ∨
      (target.permitsTx = true ∧ (supervisor.estopBound = true → estopEngaged = false)) := by
  unfold isTxPermitted at permitted ⊢
  rcases supervisor.transitionTo_cases estopEngaged target reason now with same | fault | moved
  · rw [same] at permitted
    exact Or.inl permitted
  · rw [fault] at permitted
    cases permitted
  · rw [moved.1] at permitted
    refine Or.inr ⟨permitted, fun bound => moved.2.2 bound ?_⟩
    cases target <;> first | exact absurd permitted (by decide) | decide

/-- The emergency stop never bars the way to the fault state. -/
theorem transitionTo_fault (supervisor : Supervisor) (estopEngaged : Bool) (reason : String)
    (now : Nat) :
    supervisor.transitionTo estopEngaged .fault reason now =
      supervisor.transitionTo false .fault reason now := by
  have unbarred : ∀ engaged : Bool, ¬ (supervisor.estopBound = true ∧ engaged = true ∧
      SafetyState.fault ∈ [SafetyState.passive, .armedTx, .active]) :=
    fun _ barred => absurd barred.2.2 (by decide)
  unfold transitionTo
  dsimp only
  rw [if_neg (unbarred estopEngaged), if_neg (unbarred false)]

end Supervisor

end Ucanlab.Safety

/-!
The liveness lease of the transmit path, in nanoseconds of its clock.
-/

namespace Ucanlab.Safety

structure Watchdog where
  timeoutNs : Nat
  lastHeartbeat : Int
  heartbeatToken : String
  isRunning : Bool
  startedOnce : Bool
  deriving DecidableEq

namespace Watchdog

/-- The lease is never shorter than 50 ms. -/
def new (timeoutMs now : Nat) : Watchdog where
  timeoutNs := max 50000000 (timeoutMs * 1000000)
  lastHeartbeat := now
  heartbeatToken := ""
  isRunning := false
  startedOnce := false

def elapsed (watchdog : Watchdog) (now : Nat) : Int := max 0 (now - watchdog.lastHeartbeat)

def isLeaseValid (watchdog : Watchdog) (now : Nat) : Bool :=
  watchdog.isRunning && decide (watchdog.elapsed now ≤ watchdog.timeoutNs)

def tokenIsValid (watchdog : Watchdog) (callerToken : Option String) : Bool :=
  watchdog.heartbeatToken ≠ "" && callerToken.getD "" == watchdog.heartbeatToken

def armHeartbeatToken (watchdog : Watchdog) (token : String) : Option Watchdog :=
  if token = "" then none else some { watchdog with heartbeatToken := token }

def heartbeat (watchdog : Watchdog) (callerToken : Option String) (now : Nat) : Watchdog :=
  if watchdog.tokenIsValid callerToken then { watchdog with lastHeartbeat := now } else watchdog

def anchorLeaseForArm (watchdog : Watchdog) (callerToken : Option String) (now : Nat) :
    Watchdog × Bool :=
  if ¬ watchdog.tokenIsValid callerToken then (watchdog, false)
  else if ¬ watchdog.isRunning then (watchdog, false)
  else if watchdog.elapsed now ≤ watchdog.timeoutNs then (watchdog, true)
  else ({ watchdog with lastHeartbeat := now }, true)

def start (watchdog : Watchdog) (now : Nat) : Watchdog :=
  if watchdog.isRunning then watchdog
  else
    { watchdog with
      isRunning := true
      startedOnce := true
      lastHeartbeat := if watchdog.startedOnce then watchdog.lastHeartbeat else now }

def stop (watchdog : Watchdog) : Watchdog := { watchdog with isRunning := false }

/-- Entering a state without transmit authority pushes the lease into the past. -/
def onSafetyStateChanged (watchdog : Watchdog) (newState : SafetyState) : Watchdog :=
  if newState.withdrawsTx then
    { watchdog with
      lastHeartbeat := watchdog.lastHeartbeat - (watchdog.timeoutNs + 1000000000) }
  else watchdog

end Watchdog

end Ucanlab.Safety
