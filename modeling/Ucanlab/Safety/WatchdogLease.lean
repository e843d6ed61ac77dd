import Mathlib.Tactic.Linarith
import Ucanlab.Lib.EventRun
import Ucanlab.Safety.Supervisor

/-!
The watchdog with its monitor thread and its clock in seconds, and the lease over
whole runs: what it rests on whenever it is reported valid.
-/

namespace Ucanlab.Safety

open EventRun

structure TxWatchdogSupervisor where
  timeoutSec : ℚ
  lastHeartbeatTime : ℚ
  lastHeartbeatWallNs : Int
  isRunning : Bool
  startedOnce : Bool
  threadAlive : Bool
  heartbeatToken : String
  deriving DecidableEq

inductive HeartbeatError where
  | permission
  | notAscii
  deriving DecidableEq, Repr

/-- What one supervision check found. -/
inductive LeaseExpiry where
  | suspendDetected (elapsedMs : ℚ)
  | timedOut (elapsedMs : ℚ)
  deriving DecidableEq

def LeaseExpiry.reason (rendered : String) : LeaseExpiry → String
  | .suspendDetected _ =>
      "SUSPEND_DETECTED: OS sleep/suspend detected (" ++ rendered ++ "ms wall gap) during TX lease"
  | .timedOut _ => "WATCHDOG_TIMEOUT: Lease expired after " ++ rendered ++ " ms without heartbeat"

def wedgedReason : String :=
  "WATCHDOG_MONITOR_WEDGED: stop() join timed out — monitor thread stuck; revoking TX authorization"

def diedReason : String := "WATCHDOG_MONITOR_DIED: monitor thread exited unexpectedly"

namespace TxWatchdogSupervisor

def new (timeoutMs now : ℚ) (wallNs : Int) : TxWatchdogSupervisor where
  timeoutSec := max (1 / 20) (timeoutMs / 1000)
  lastHeartbeatTime := now
  lastHeartbeatWallNs := wallNs
  isRunning := false
  startedOnce := false
  threadAlive := false
  heartbeatToken := ""

def elapsed (watchdog : TxWatchdogSupervisor) (now : ℚ) : ℚ :=
  max 0 (now - watchdog.lastHeartbeatTime)

def isLeaseValid (watchdog : TxWatchdogSupervisor) (now : ℚ) : Bool :=
  watchdog.isRunning && decide (watchdog.elapsed now ≤ watchdog.timeoutSec)

def isAscii (text : String) : Bool := text.toList.all (fun c => c.toNat < 128)

/-- The digest comparison of two texts raises unless both are ASCII. -/
def tokenIsValid (watchdog : TxWatchdogSupervisor) (callerToken : Option String) :
    Except HeartbeatError Bool :=
  let presented := callerToken.getD ""
  if watchdog.heartbeatToken = "" then .ok false
  else if ¬ (isAscii presented ∧ isAscii watchdog.heartbeatToken) then .error .notAscii
  else .ok (presented == watchdog.heartbeatToken)

def armHeartbeatToken (watchdog : TxWatchdogSupervisor) (token : String) : TxWatchdogSupervisor :=
  if token = "" then watchdog else { watchdog with heartbeatToken := token }

def anchor (watchdog : TxWatchdogSupervisor) (now : ℚ) (wallNs : Int) : TxWatchdogSupervisor :=
  { watchdog with
    lastHeartbeatTime := now
    lastHeartbeatWallNs := wallNs }

def heartbeat (watchdog : TxWatchdogSupervisor) (callerToken : Option String) (now : ℚ)
    (wallNs : Int) : TxWatchdogSupervisor × Except HeartbeatError Unit :=
  match watchdog.tokenIsValid callerToken with
  | .error error => (watchdog, .error error)
  | .ok false => (watchdog, .error .permission)
  | .ok true => (watchdog.anchor now wallNs, .ok ())

def anchorLeaseForArm (watchdog : TxWatchdogSupervisor) (callerToken : Option String)
    (now again : ℚ) (wallNs : Int) : TxWatchdogSupervisor × Except HeartbeatError Bool :=
  match watchdog.tokenIsValid callerToken with
  | .error error => (watchdog, .error error)
  | .ok false => (watchdog, .ok false)
  | .ok true =>
      if ¬ watchdog.isRunning then (watchdog, .ok false)
      else if watchdog.elapsed now ≤ watchdog.timeoutSec then (watchdog, .ok true)
      else (watchdog.anchor again wallNs, .ok true)

/-- Only the first start anchors; a monitor that has not exited bars another. -/
def start (watchdog : TxWatchdogSupervisor) (now : ℚ) (wallNs : Int) : TxWatchdogSupervisor :=
  if watchdog.isRunning ∨ watchdog.threadAlive then watchdog
  else
    let anchored := if watchdog.startedOnce then watchdog else watchdog.anchor now wallNs
    { anchored with
      isRunning := true
      startedOnce := true
      threadAlive := true }

/-- `exits` tells whether the monitor thread ends within the join. -/
def stop (watchdog : TxWatchdogSupervisor) (exits : Bool) : TxWatchdogSupervisor :=
  { watchdog with
    isRunning := false
    threadAlive := watchdog.threadAlive && !exits }

/-- Entering a state without transmit authority pushes the lease into the past. -/
def onSafetyStateChanged (watchdog : TxWatchdogSupervisor) (newState : SafetyState) :
    TxWatchdogSupervisor :=
  if newState.withdrawsTx then
    { watchdog with
      lastHeartbeatTime := watchdog.lastHeartbeatTime - (watchdog.timeoutSec + 1)
      lastHeartbeatWallNs :=
        watchdog.lastHeartbeatWallNs - ((watchdog.timeoutSec + 1) * 1000000000).floor }
  else watchdog

def hear (watchdog : TxWatchdogSupervisor) : TransitionOutcome → TxWatchdogSupervisor
  | .moved _ target _ => watchdog.onSafetyStateChanged target
  | _ => watchdog

/-- One supervision check; a wall clock that ran ahead is a suspended host. -/
def monitorLoopOnce (watchdog : TxWatchdogSupervisor) (txPermitted force : Bool) (now again : ℚ)
    (wallNs : Int) : Option LeaseExpiry :=
  if ¬ watchdog.isRunning ∧ ¬ force then none
  else
    let elapsed := watchdog.elapsed now
    let elapsedWall : ℚ := max 0 ((wallNs - watchdog.lastHeartbeatWallNs) / 1000000000)
    let suspended : Bool :=
      watchdog.lastHeartbeatWallNs > 0 ∧ txPermitted ∧ elapsedWall > watchdog.timeoutSec ∧
        elapsedWall - elapsed > watchdog.timeoutSec / 2
    if ¬ (txPermitted ∧ (elapsed > watchdog.timeoutSec ∨ suspended)) then none
    else if suspended then some (.suspendDetected (elapsedWall * 1000))
    else if watchdog.elapsed again ≤ watchdog.timeoutSec then none
    else some (.timedOut (elapsed * 1000))

end TxWatchdogSupervisor

/-- The watchdog, the state machine it listens to and the monotonic clock. -/
structure Leased where
  watchdog : TxWatchdogSupervisor
  supervisor : Supervisor
  estopEngaged : Bool
  now : ℚ

/-- Clock readings inside one call are the time that passed since its start. -/
inductive LeaseEvent where
  | advance (elapsed : ℚ)
  | armHeartbeatToken (token : String)
  | heartbeat (token : Option String) (wallNs : Int)
  | anchorLeaseForArm (token : Option String) (between : ℚ) (wallNs : Int)
  | start (wallNs : Int)
  | stop (exits : Bool) (nowNs : Nat)
  | pollOnce (force : Bool) (between : ℚ) (wallNs : Int) (rendered : String) (nowNs : Nat)
  | monitorDied (nowNs : Nat)
  | transitionTo (target : SafetyState) (reason : String) (nowNs : Nat)
  | triggerFault (reason : String) (nowNs : Nat)
  | estopChanges (engaged : Bool)

namespace Leased

def new (timeoutMs now : ℚ) (wallNs : Int) (supervisor : Supervisor) (estopEngaged : Bool) :
    Leased where
  watchdog := .new timeoutMs now wallNs
  supervisor := supervisor
  estopEngaged := estopEngaged
  now := now

/-- The transition of the state machine that the event brings about. -/
def transition (leased : Leased) : LeaseEvent → Supervisor × TransitionOutcome
  | .stop exits nowNs =>
      if leased.watchdog.threadAlive ∧ ¬ exits then
        leased.supervisor.triggerFault leased.estopEngaged wedgedReason nowNs
      else (leased.supervisor, .unchanged)
  | .pollOnce force between wallNs rendered nowNs =>
      match leased.watchdog.monitorLoopOnce leased.supervisor.isTxPermitted force leased.now
          (leased.now + between) wallNs with
      | none => (leased.supervisor, .unchanged)
      | some expiry =>
          leased.supervisor.triggerFault leased.estopEngaged (expiry.reason rendered) nowNs
  | .monitorDied nowNs =>
      if leased.watchdog.isRunning then
        leased.supervisor.triggerFault leased.estopEngaged diedReason nowNs
      else (leased.supervisor, .unchanged)
  | .transitionTo target reason nowNs =>
      leased.supervisor.transitionTo leased.estopEngaged target reason nowNs
  | .triggerFault reason nowNs =>
      leased.supervisor.triggerFault leased.estopEngaged reason nowNs
  | _ => (leased.supervisor, .unchanged)

def operate (leased : Leased) : LeaseEvent → TxWatchdogSupervisor
  | .armHeartbeatToken token => leased.watchdog.armHeartbeatToken token
  | .heartbeat token wallNs => (leased.watchdog.heartbeat token leased.now wallNs).1
  | .anchorLeaseForArm token between wallNs =>
      (leased.watchdog.anchorLeaseForArm token leased.now (leased.now + between) wallNs).1
  | .start wallNs => leased.watchdog.start leased.now wallNs
  | .stop exits _ => leased.watchdog.stop exits
  | .monitorDied _ =>
      { leased.watchdog with
        isRunning := false
        threadAlive := false }
  | _ => leased.watchdog

/-- The clock never goes back. -/
def passed : LeaseEvent → ℚ
  | .advance elapsed => elapsed
  | .anchorLeaseForArm _ between _ => between
  | .pollOnce _ between _ _ _ => between
  | _ => 0

/-- A transition that took place calls the watchdog's listener before it returns. -/
def step (leased : Leased) (event : LeaseEvent) : Option Leased :=
  if passed event < 0 then none
  else
    some {
      watchdog := (leased.operate event).hear (leased.transition event).2
      supervisor := (leased.transition event).1
      estopEngaged :=
        match event with
        | .estopChanges engaged => engaged
        | _ => leased.estopEngaged
      now := leased.now + passed event }

/-- The event is an authenticated heartbeat, an authenticated arm anchor or the
first start. -/
def Anchors (leased : Leased) : LeaseEvent → Prop
  | .heartbeat token _ => leased.watchdog.tokenIsValid token = .ok true
  | .anchorLeaseForArm token _ _ =>
      leased.watchdog.tokenIsValid token = .ok true ∧ leased.watchdog.isRunning = true
  | .start _ =>
      leased.watchdog.isRunning = false ∧ leased.watchdog.threadAlive = false ∧
        leased.watchdog.startedOnce = false
  | _ => False

def Withdraws (leased : Leased) (event : LeaseEvent) : Prop :=
  ∃ source target error, (leased.transition event).2 = .moved source target error ∧
    target ∈ [SafetyState.fault, .safe, .passive, .startup]

end Leased

section Steps

variable {before after : Leased} {event : LeaseEvent}

namespace Leased

theorem step_some (stepped : before.step event = some after) :
    0 ≤ passed event ∧ after.now = before.now + passed event ∧
      after.watchdog = (before.operate event).hear (before.transition event).2 := by
  unfold step at stepped
  split at stepped
  · cases stepped
  · rename_i forward
    cases stepped
    exact ⟨not_lt.mp forward, rfl, rfl⟩

theorem Anchors.silent (anchors : before.Anchors event) :
    (before.transition event).2 = .unchanged := by
  cases event with
  | heartbeat token wallNs => rfl
  | anchorLeaseForArm token between wallNs => rfl
  | start wallNs => rfl
  | _ => exact anchors.elim

theorem Anchors.operates (anchors : before.Anchors event) (forward : 0 ≤ passed event)
    (ordered : before.watchdog.lastHeartbeatTime ≤ before.now) :
    (before.operate event).lastHeartbeatTime ≤ before.now + passed event ∧
      (before.operate event).timeoutSec = before.watchdog.timeoutSec ∧
      ((before.operate event).isRunning = true → before.watchdog.isRunning = true ∨
        (before.operate event).startedOnce = true) ∧
      (before.watchdog.startedOnce = true → (before.operate event).startedOnce = true) := by
  cases event with
  | heartbeat token wallNs =>
      have beats : before.operate (.heartbeat token wallNs) =
          before.watchdog.anchor before.now wallNs := by
        simp only [operate, TxWatchdogSupervisor.heartbeat,
          show before.watchdog.tokenIsValid token = .ok true from anchors]
      rw [beats]
      exact ⟨by simp [TxWatchdogSupervisor.anchor, passed], rfl, Or.inl, id⟩
  | anchorLeaseForArm token between wallNs =>
      obtain ⟨valid, running⟩ := anchors
      change 0 ≤ between at forward
      have live : before.watchdog.isRunning ≠ false := fun halted => by
        rw [halted] at running
        cases running
      simp only [operate, TxWatchdogSupervisor.anchorLeaseForArm, valid, Bool.not_eq_true,
        if_neg live]
      split
      · refine ⟨?_, rfl, Or.inl, id⟩
        change _ ≤ before.now + between
        linarith
      · exact ⟨le_refl _, rfl, Or.inl, id⟩
  | start wallNs =>
      obtain ⟨halted, exited, first⟩ := anchors
      have starts : before.operate (.start wallNs) =
          { before.watchdog.anchor before.now wallNs with
            isRunning := true
            startedOnce := true
            threadAlive := true } := by
        simp [operate, TxWatchdogSupervisor.start, halted, exited, first]
      rw [starts]
      exact ⟨by simp [TxWatchdogSupervisor.anchor, passed], rfl, fun _ => Or.inr rfl, fun _ => rfl⟩
  | _ => exact anchors.elim

theorem operate_quiet (quiet : ¬ before.Anchors event) :
    (before.operate event).lastHeartbeatTime = before.watchdog.lastHeartbeatTime ∧
      (before.operate event).timeoutSec = before.watchdog.timeoutSec ∧
      (before.operate event).startedOnce = before.watchdog.startedOnce ∧
      ((before.operate event).isRunning = true →
        before.watchdog.isRunning = true ∨ before.watchdog.startedOnce = true) := by
  cases event with
  | armHeartbeatToken token =>
      simp only [operate, TxWatchdogSupervisor.armHeartbeatToken]
      split
      · exact ⟨rfl, rfl, rfl, Or.inl⟩
      · exact ⟨rfl, rfl, rfl, Or.inl⟩
  | heartbeat token wallNs =>
      simp only [operate, TxWatchdogSupervisor.heartbeat]
      split
      · exact ⟨rfl, rfl, rfl, Or.inl⟩
      · exact ⟨rfl, rfl, rfl, Or.inl⟩
      · rename_i valid
        exact absurd valid quiet
  | anchorLeaseForArm token between wallNs =>
      simp only [operate, TxWatchdogSupervisor.anchorLeaseForArm]
      split
      · exact ⟨rfl, rfl, rfl, Or.inl⟩
      · exact ⟨rfl, rfl, rfl, Or.inl⟩
      · rename_i valid
        split
        · exact ⟨rfl, rfl, rfl, Or.inl⟩
        · rename_i running
          exact absurd ⟨valid, not_not.mp running⟩ quiet
  | start wallNs =>
      simp only [operate, TxWatchdogSupervisor.start]
      split
      · exact ⟨rfl, rfl, rfl, Or.inl⟩
      · rename_i free
        rw [not_or, Bool.not_eq_true, Bool.not_eq_true] at free
        cases again : before.watchdog.startedOnce with
        | false => exact absurd ⟨free.1, free.2, again⟩ quiet
        | true => exact ⟨rfl, rfl, rfl, fun _ => Or.inr rfl⟩
  | stop exits nowNs => exact ⟨rfl, rfl, rfl, nofun⟩
  | monitorDied nowNs => exact ⟨rfl, rfl, rfl, nofun⟩
  | _ => exact ⟨rfl, rfl, rfl, Or.inl⟩

end Leased

section Hearing

variable {watchdog : TxWatchdogSupervisor} {outcome : TransitionOutcome}

theorem hear_flags (watchdog : TxWatchdogSupervisor) (outcome : TransitionOutcome) :
    (watchdog.hear outcome).timeoutSec = watchdog.timeoutSec ∧
      (watchdog.hear outcome).isRunning = watchdog.isRunning ∧
      (watchdog.hear outcome).startedOnce = watchdog.startedOnce := by
  unfold TxWatchdogSupervisor.hear
  split
  · unfold TxWatchdogSupervisor.onSafetyStateChanged
    split
    · exact ⟨rfl, rfl, rfl⟩
    · exact ⟨rfl, rfl, rfl⟩
  · exact ⟨rfl, rfl, rfl⟩

theorem withdrawsTx_iff (target : SafetyState) :
    target.withdrawsTx = true ↔ target ∈ [SafetyState.fault, .safe, .passive, .startup] := by
  cases target <;> simp [SafetyState.withdrawsTx, SafetyState.permitsTx]

/-- A withdrawal pushes the lease out of its window. -/
theorem hear_withdrawn {source target : SafetyState} {error : Option TransitionError}
    (withdrawn : target ∈ [SafetyState.fault, .safe, .passive, .startup]) :
    (watchdog.hear (.moved source target error)).lastHeartbeatTime =
      watchdog.lastHeartbeatTime - (watchdog.timeoutSec + 1) := by
  have withdraws := (withdrawsTx_iff target).mpr withdrawn
  simp only [TxWatchdogSupervisor.hear, TxWatchdogSupervisor.onSafetyStateChanged, withdraws,
    if_true]

theorem hear_quiet (still : ∀ source target error, outcome = .moved source target error →
      target ∉ [SafetyState.fault, .safe, .passive, .startup]) :
    watchdog.hear outcome = watchdog := by
  cases outcome with
  | unchanged => rfl
  | refused error => rfl
  | moved source target error =>
      have stays : ¬ target.withdrawsTx = true := by
        rw [withdrawsTx_iff]
        exact still source target error rfl
      simp only [TxWatchdogSupervisor.hear, TxWatchdogSupervisor.onSafetyStateChanged,
        if_neg stays]

end Hearing

end Steps

section Runs

variable {first before after last : Leased} {past events : List LeaseEvent} {event : LeaseEvent}

/-- An anchor no older than the time lies in the run so far; after it there was no
other and nothing was withdrawn. -/
def Leased.AnchoredSince (first : Leased) (past : List LeaseEvent) (time : ℚ) (state : Leased) :
    Prop :=
  Since Leased.step (fun before event after => before.Anchors event ∧ time ≤ after.now)
    (fun reached next => ¬ reached.Anchors next ∧ ¬ reached.Withdraws next) first past state

structure SoundLease (first : Leased) (past : List LeaseEvent) (state : Leased) : Prop where
  timeout : state.watchdog.timeoutSec = first.watchdog.timeoutSec
  ordered : state.watchdog.lastHeartbeatTime ≤ state.now
  started : state.watchdog.isRunning = true → state.watchdog.startedOnce = true
  anchored : state.watchdog.startedOnce = true →
    state.now - state.watchdog.lastHeartbeatTime ≤ state.watchdog.timeoutSec →
    first.AnchoredSince past state.watchdog.lastHeartbeatTime state

theorem SoundLease.step (sound : SoundLease first past before)
    (pastRan : run Leased.step first past = some before) (window : 0 < first.watchdog.timeoutSec)
    (stepped : before.step event = some after) : SoundLease first (past ++ [event]) after := by
  obtain ⟨forward, clock, heard⟩ := Leased.step_some stepped
  obtain ⟨timeout, running, started⟩ :=
    hear_flags (before.operate event) (before.transition event).2
  rw [← heard] at timeout running started
  by_cases anchors : before.Anchors event
  · obtain ⟨recent, window', runs, starts⟩ := anchors.operates forward sound.ordered
    have same : after.watchdog = before.operate event := by
      rw [heard, anchors.silent]
      rfl
    rw [← same, ← clock] at recent
    refine ⟨?_, recent, ?_, ?_⟩
    · rw [same, window', sound.timeout]
    · intro live
      rw [same] at live ⊢
      rcases runs live with before' | again
      · exact starts (sound.started before')
      · exact again
    · intro _ _
      exact Since.now pastRan stepped ⟨anchors, recent⟩
  · obtain ⟨lease, window', starts, runs⟩ := Leased.operate_quiet anchors
    have startedOnce : after.watchdog.startedOnce = before.watchdog.startedOnce := by
      rw [started, starts]
    have timeoutSec : after.watchdog.timeoutSec = before.watchdog.timeoutSec := by
      rw [timeout, window']
    have live : after.watchdog.isRunning = true → after.watchdog.startedOnce = true := by
      rw [running, startedOnce]
      intro up
      rcases runs up with before' | again
      · exact sound.started before'
      · exact again
    by_cases withdraws : before.Withdraws event
    · obtain ⟨source, target, error, moved, withdrawn⟩ := withdraws
      have pushed : after.watchdog.lastHeartbeatTime =
          before.watchdog.lastHeartbeatTime - (before.watchdog.timeoutSec + 1) := by
        rw [heard, moved, hear_withdrawn withdrawn, lease, window']
      have ordered := sound.ordered
      have constant := sound.timeout
      refine ⟨timeoutSec.trans constant, ?_, live, ?_⟩
      · rw [pushed, clock]
        linarith
      · intro _ fresh
        rw [pushed, clock, timeoutSec] at fresh
        linarith
    · have unmoved : after.watchdog = before.operate event := by
        rw [heard]
        apply hear_quiet
        intro source target error moved withdrawn
        exact withdraws ⟨source, target, error, moved, withdrawn⟩
      have kept : after.watchdog.lastHeartbeatTime = before.watchdog.lastHeartbeatTime := by
        rw [unmoved, lease]
      have ordered := sound.ordered
      refine ⟨timeoutSec.trans sound.timeout, ?_, live, ?_⟩
      · rw [kept, clock]
        linarith
      · intro up fresh
        rw [kept]
        rw [startedOnce] at up
        rw [kept, clock, timeoutSec] at fresh
        exact (sound.anchored up (by linarith)).extend stepped ⟨anchors, withdraws⟩

/-- A lease reported valid belongs to a running monitor and rests on an anchor at
most the timeout ago, with no withdrawal and no other anchor since. -/
theorem lease_valid_anchored (timeoutMs now : ℚ) (wallNs : Int) (supervisor : Supervisor)
    (engaged : Bool)
    (ran : run Leased.step (.new timeoutMs now wallNs supervisor engaged) events = some last)
    (valid : last.watchdog.isLeaseValid last.now = true) :
    last.watchdog.isRunning = true ∧
      ∃ front event back before after, events = front ++ event :: back ∧
        run Leased.step (.new timeoutMs now wallNs supervisor engaged) front = some before ∧
        before.step event = some after ∧ before.Anchors event ∧
        last.now - after.now ≤ max (1 / 20) (timeoutMs / 1000) ∧
        Meets Leased.step (fun reached next => ¬ reached.Anchors next ∧ ¬ reached.Withdraws next)
          after back := by
  have window : 0 < (Leased.new timeoutMs now wallNs supervisor engaged).watchdog.timeoutSec :=
    lt_of_lt_of_le (by norm_num) (le_max_left (1 / 20) (timeoutMs / 1000))
  have sound : SoundLease (.new timeoutMs now wallNs supervisor engaged) events last := by
    refine run_history_invariant ?_ ?_ ran
    · exact ⟨rfl, le_refl now, nofun, nofun⟩
    · intro past state event next pastRan kept stepped
      exact kept.step pastRan window stepped
  unfold TxWatchdogSupervisor.isLeaseValid at valid
  obtain ⟨running, fresh⟩ := Bool.and_eq_true_iff.mp valid
  have within := le_trans (le_max_right 0 _) (of_decide_eq_true fresh)
  obtain ⟨front, event, back, before, after, split, frontRan, stepped, ⟨anchors, bound⟩, -,
    meets⟩ := sound.anchored (sound.started running) within
  refine ⟨running, front, event, back, before, after, split, frontRan, stepped, anchors, ?_, meets⟩
  rw [sound.timeout] at within
  change last.now - last.watchdog.lastHeartbeatTime ≤ max (1 / 20) (timeoutMs / 1000) at within
  linarith

end Runs

section Bench

/-- The lease of the first start is withdrawn and an authenticated arm anchor
restores it. -/
def revivedLease : List LeaseEvent :=
  [.armHeartbeatToken "bridge", .start 0, .advance (1 / 2), .triggerFault "lost bus" 1,
    .heartbeat (some "forged") 0, .advance (1 / 10),
    .anchorLeaseForArm (some "bridge") (1 / 1000) 0, .advance (4 / 5)]

def startedLease : Leased := .new 800 1000 0 (Supervisor.new .passive false 0) false

theorem revivedLease_isSome : (run Leased.step startedLease revivedLease).isSome = true := by
  decide +kernel

theorem revivedLease_valid :
    ((run Leased.step startedLease revivedLease).get revivedLease_isSome).watchdog.isLeaseValid
      ((run Leased.step startedLease revivedLease).get revivedLease_isSome).now = true := by
  decide +kernel

theorem lease_valid_anchored_revived :
    ((run Leased.step startedLease revivedLease).get revivedLease_isSome).watchdog.isRunning =
      true :=
  (lease_valid_anchored 800 1000 0 (Supervisor.new .passive false 0) false
    (Option.some_get revivedLease_isSome).symm revivedLease_valid).1

end Bench

end Ucanlab.Safety
