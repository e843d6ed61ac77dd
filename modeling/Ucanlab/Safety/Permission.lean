import Ucanlab.Safety.Fence

/-!
Permission at the moment of dispatch. The check under the send lock reads the
fence and the emergency stop only, so a permission that is withdrawn without
raising the fence reaches the frames validated before it.
-/

namespace Ucanlab.Safety

open Ucanlab E2E EventRun

/-- The supervisor permits transmission and the policy in force admits the
frame as it will be sent. -/
structure World.Permitted (world : World) (reservation : Reservation) : Prop where
  supervisor : world.supervisor.all Supervisor.isTxPermitted = true
  policy : readOnlyStage world.gateway.readOnlyPolicy reservation.frame
    reservation.isCriticalCommand world.now = none

def Gateway.policyExpired (gateway : Gateway) (now : Nat) : Bool :=
  gateway.readOnlyPolicy.any (fun policy => decide (policy.expiresNs ≤ now))

/-- The steps that take a permission away without raising the fence. -/
def Event.withdraws (world : World) (reservation : Reservation) : Event → Bool
  | .validate _ _ _ clock => world.gateway.policyExpired clock.burn
  | .tick elapsed => world.gateway.policyExpired (world.now + elapsed)
  | .installPolicy policy =>
      (readOnlyStage (some policy) reservation.frame reservation.isCriticalCommand
        world.now).isSome
  | .transition target _ => target.withdrawsTx
  | .triggerFault _ => true
  | .callback index =>
      world.callbacks[index]? == some .estopSupervisor && world.supervisor.isSome
  | _ => false

/-- No permission is withdrawn while a call validated against the current fence
awaits its dispatch, and the policy admits what an accepted call has sealed. -/
structure RespectsPending (digests : Digests) (world : World) (event : Event) : Prop where
  pending : ∀ id call, world.calls id = some call →
    call.reservation.fenceSnapshot = world.estop.txFence →
    event.withdraws world call.reservation = false
  sealing : ∀ id owner request clock accepted frame,
    event = .validate id owner request clock →
    world.gateway.validateLocked digests world.plane clock owner request = .ok accepted →
    (world.gateway.sealStage request.frame).2 = .ok frame →
    readOnlyStage world.gateway.readOnlyPolicy frame (isTreatedCritical world.gateway request)
      clock.burn = none

theorem readOnlyStage_later {policy : Option ReadOnlyPolicy} {frame : CanFrame} {critical : Bool}
    {now later : Nat}
    (unexpired : policy.any (fun active => decide (active.expiresNs ≤ later)) = false)
    (admitted : readOnlyStage policy frame critical now = none) :
    readOnlyStage policy frame critical later = none := by
  cases policy with
  | none => rfl
  | some active =>
      simp only [Option.any_some, decide_eq_false_iff_not, Nat.not_le] at unexpired
      simp only [readOnlyStage] at admitted ⊢
      cases verdict : active.violation frame now with
      | some violation =>
          rw [verdict] at admitted
          cases admitted
      | none =>
          rw [verdict] at admitted
          rw [active.violation_unexpired frame unexpired verdict]
          exact admitted

theorem Supervisor.transitionTo_keeps (supervisor : Supervisor) (estopEngaged : Bool)
    (target : SafetyState) (reason : String) (now : Nat)
    (permitted : supervisor.isTxPermitted = true) (permits : target.permitsTx = true) :
    (supervisor.transitionTo estopEngaged target reason now).1.isTxPermitted = true := by
  unfold transitionTo
  dsimp only
  split
  · exact permitted
  · split
    · exact permitted
    · rename_i different _
      split
      · rename_i illegal
        -- between the two permitted states both directions are legal
        unfold isTxPermitted at permitted
        cases source : supervisor.state <;> cases target <;>
          simp_all [SafetyState.permitsTx, allowedTransitions]
      · exact permits

namespace World

/-- Either a transition has overtaken the call, or it may still be sent and is
permitted now. -/
def Covered (world : World) (reservation : Reservation) : Prop :=
  reservation.fenceSnapshot < world.estop.txFence ∨
    (reservation.fenceSnapshot = world.estop.txFence ∧ world.estop.engaged = false ∧
      world.Permitted reservation)

theorem Permitted.keep {world next : World} {reservation : Reservation}
    (permitted : world.Permitted reservation) (supervisor : next.supervisor = world.supervisor)
    (policy : next.gateway.readOnlyPolicy = world.gateway.readOnlyPolicy)
    (now : next.now = world.now) : next.Permitted reservation := by
  refine ⟨?_, ?_⟩
  · rw [supervisor]
    exact permitted.supervisor
  · rw [policy, now]
    exact permitted.policy

theorem Permitted.later {world next : World} {reservation : Reservation}
    (permitted : world.Permitted reservation) (supervisor : next.supervisor = world.supervisor)
    (policy : next.gateway.readOnlyPolicy = world.gateway.readOnlyPolicy)
    (unexpired : world.gateway.policyExpired next.now = false) : next.Permitted reservation := by
  refine ⟨?_, ?_⟩
  · rw [supervisor]
    exact permitted.supervisor
  · rw [policy]
    exact readOnlyStage_later unexpired permitted.policy

theorem Permitted.unrestricted {world next : World} {reservation : Reservation}
    (permitted : world.Permitted reservation) (supervisor : next.supervisor = world.supervisor)
    (policy : next.gateway.readOnlyPolicy = none) : next.Permitted reservation := by
  refine ⟨?_, ?_⟩
  · rw [supervisor]
    exact permitted.supervisor
  · rw [policy]
    rfl

theorem permitted_step {digests : Digests} {world next : World} {event : Event}
    {reservation : Reservation} (stepped : world.step digests event = some next)
    (keeps : event.withdraws world reservation = false) (permitted : world.Permitted reservation) :
    next.Permitted reservation := by
  cases event with
  | validate id owner request clock =>
      obtain ⟨_, _, ⟨rejection, refused, rfl⟩ | ⟨gateway, accepted, passed, rfl⟩⟩ :=
        step_validate stepped
      · exact permitted.later rfl ((validateLocked_error refused).frame.keeps Gateway.readOnlyPolicy
          (fun _ _ _ _ _ _ => rfl)) keeps
      · obtain ⟨facts⟩ := validateLocked_ok passed
        refine permitted.later rfl ?_ keeps
        change gateway.readOnlyPolicy = world.gateway.readOnlyPolicy
        rw [facts.result, burn_keeps _ _ _ Gateway.readOnlyPolicy (fun _ => rfl)]
        exact facts.frame.keeps Gateway.readOnlyPolicy (fun _ _ _ _ _ _ => rfl)
  | guard id =>
      obtain ⟨_, _, _, rfl⟩ := step_guard stepped
      exact permitted.keep rfl rfl rfl
  | dispatch id =>
      obtain ⟨_, _, _, _, ⟨_, rfl⟩ | ⟨_, rfl⟩⟩ := step_dispatch stepped
      · exact permitted.keep rfl rfl rfl
      · exact permitted.keep rfl rfl rfl
  | rollback id =>
      obtain ⟨_, _, _, _, rfl⟩ := step_rollback stepped
      exact permitted.keep rfl rfl rfl
  | fire index nonce =>
      obtain ⟨_, _, rfl⟩ := step_fire stepped
      exact permitted.keep rfl rfl rfl
  | callback index =>
      obtain ⟨scheduled, known, rfl⟩ := step_callback stepped
      cases scheduled with
      | estopSupervisor =>
          rcases runCallback_estopSupervisor
            { world with callbacks := world.callbacks.eraseIdx index } with
            same | ⟨supervisor, present, _⟩
          · rw [same]
            exact permitted.keep rfl rfl rfl
          · change world.supervisor = some supervisor at present
            simp only [Event.withdraws, known, present, Option.isSome_some, Bool.and_true,
              beq_self_eq_true, Bool.true_eq_false] at keeps
      | estopGateway => exact permitted.keep rfl rfl rfl
      | stateGateway newState =>
          cases gone : newState.withdrawsTx with
          | true =>
              refine permitted.unrestricted rfl ?_
              simp only [runCallback, Gateway.onSafetyStateChanged, gone, if_true]
          | false =>
              refine permitted.keep rfl ?_ rfl
              simp only [runCallback, Gateway.onSafetyStateChanged, gone, Bool.false_eq_true,
                if_false]
      | stateWatchdog newState => exact permitted.keep rfl rfl rfl
  | resetPublish =>
      obtain ⟨_, _, rfl⟩ := step_resetPublish stepped
      exact permitted.keep rfl rfl rfl
  | rebindBus bus =>
      obtain ⟨_, rfl⟩ := step_rebindBus stepped
      exact permitted.keep rfl rfl rfl
  | rebindWhitelist change =>
      obtain ⟨_, rfl⟩ := step_rebindWhitelist stepped
      exact permitted.keep rfl (rebindWhitelist_keeps world.gateway change Gateway.readOnlyPolicy
        (fun _ _ _ => rfl)) rfl
  | rebindPublish =>
      obtain ⟨_, rfl⟩ := step_rebindPublish stepped
      exact permitted.keep rfl rfl rfl
  | transition target reason =>
      obtain ⟨supervisor, present, rfl⟩ := step_transition stepped
      have before := permitted.supervisor
      rw [present] at before
      refine ⟨?_, permitted.policy⟩
      apply supervisor.transitionTo_keeps world.estop.engaged target reason world.now before
      simpa [Event.withdraws, SafetyState.withdrawsTx] using keeps
  | triggerFault reason => cases keeps
  | installPolicy policy =>
      cases stepped
      have admitted : readOnlyStage (some policy) reservation.frame
          reservation.isCriticalCommand world.now = none := by
        simpa [Event.withdraws] using keeps
      exact ⟨permitted.supervisor, admitted⟩
  | clearPolicy =>
      cases stepped
      exact permitted.unrestricted rfl rfl
  | notifyLinkFault kind reason =>
      cases stepped
      exact permitted.keep rfl (notifyLinkFault_keeps world.gateway kind _ Gateway.readOnlyPolicy
        (fun _ _ => rfl)) rfl
  | tick elapsed =>
      cases stepped
      exact permitted.later rfl rfl keeps
  | _ =>
      cases stepped
      exact permitted.keep rfl rfl rfl

theorem covered_step {digests : Digests} {world next : World} {event : Event}
    {reservation : Reservation} (stepped : world.step digests event = some next)
    (keeps : reservation.fenceSnapshot = world.estop.txFence →
      event.withdraws world reservation = false)
    (covered : world.Covered reservation) : next.Covered reservation := by
  have order := fence_le stepped
  rcases covered with overtaken | ⟨current, disengaged, permitted⟩
  · exact Or.inl (Nat.lt_of_lt_of_le overtaken order)
  · cases raises : event.raisesFence with
    | true =>
        left
        rw [current]
        exact fence_raised stepped raises
    | false =>
        right
        refine ⟨current.trans (txFence_step stepped raises).symm, ?_,
          permitted_step stepped (keeps current) permitted⟩
        rcases estop_step stepped raises with same | ⟨verdict, _, verified⟩
        · rw [same, disengaged]
        · rcases (world.estop.resetVerify_cases verdict world.now).2 with reset | kept
          · rw [disengaged] at reset
            cases reset.2.1
          · rw [verified, kept.2.1, disengaged]

/-- A call that has just been accepted is covered when the policy admits what
it has sealed. -/
theorem covered_validate {digests : Digests} {world next : World} {id owner : Nat}
    {request : TxRequest} {clock : Clock} {gateway : Gateway} {reservation : Reservation}
    (respects : RespectsPending digests world (.validate id owner request clock))
    (stepped : world.step digests (.validate id owner request clock) = some next)
    (passed : world.gateway.validateLocked digests world.plane clock owner request =
      .ok (gateway, reservation)) : next.Covered reservation := by
  obtain ⟨facts⟩ := validateLocked_ok passed
  obtain ⟨_, _, ⟨_, refused, _⟩ | ⟨after, accepted, again, rfl⟩⟩ := step_validate stepped
  · rw [refused] at passed
    cases passed
  · rw [passed] at again
    cases again
    have permission := facts.admitted.permitted
    unfold txPermission at permission
    split at permission
    · cases permission
    · rename_i supervised
      split at permission
      · cases permission
      · split at permission
        · cases permission
        · rename_i disengaged
          have off : world.estop.engaged = false := by simpa [plane] using disengaged
          refine Or.inr ⟨facts.fenceSnapshot, off, ⟨?_, ?_⟩⟩
          · change world.supervisor.all Supervisor.isTxPermitted = true
            cases present : world.supervisor with
            | none => rfl
            | some supervisor =>
                have checked : (some supervisor).filter
                    (fun other => !other.isTxPermitted) = none := by
                  rw [← present]
                  exact supervised
                simpa [Option.filter] using checked
          · change readOnlyStage gateway.readOnlyPolicy reservation.frame
              reservation.isCriticalCommand clock.burn = none
            rw [facts.result, burn_keeps _ _ _ Gateway.readOnlyPolicy (fun _ => rfl),
              facts.frame.keeps Gateway.readOnlyPolicy (fun _ _ _ _ _ _ => rfl), facts.critical]
            exact respects.sealing id owner request clock _ _ rfl passed facts.sealed

def PendingCovered (world : World) : Prop :=
  ∀ id call, world.calls id = some call → world.Covered call.reservation

theorem pendingCovered_step {digests : Digests} {world next : World} {event : Event}
    (covered : world.PendingCovered) (respects : RespectsPending digests world event)
    (stepped : world.step digests event = some next) : next.PendingCovered := by
  intro id call pending
  rcases calls_step stepped pending with ⟨before, known, same, _⟩ |
    ⟨owner, clock, rfl, _, _, passed⟩
  · rw [← same]
    exact covered_step stepped (respects.pending id before known) (covered id before known)
  · exact covered_validate respects stepped passed

end World

/-- In a run that withdraws no permission under a pending call, every frame
reaches the bus while supervisor and policy permit it. -/
theorem dispatch_only_while_permitted (digests : Digests) (initial before after : World)
    (events : List Event) (id : Nat) (start : initial.Initial)
    (respects : Meets (World.step digests) (RespectsPending digests) initial events)
    (ran : run (World.step digests) initial events = some before)
    (dispatched : before.step digests (.dispatch id) = some after)
    (sent : after.wire ≠ before.wire) :
    ∃ call, before.calls id = some call ∧ before.Permitted call.reservation := by
  have nothing : initial.PendingCovered := by
    intro other call pending
    rw [start.calls other] at pending
    cases pending
  have covered : before.PendingCovered := run_invariant_of_meets
    (fun _ _ _ covered meets stepped => World.pendingCovered_step covered meets stepped)
    nothing respects ran
  obtain ⟨call, pending, _, _, ⟨_, refused⟩ | ⟨passed, _⟩⟩ := World.step_dispatch dispatched
  · rw [refused] at sent
    exact absurd rfl sent
  · refine ⟨call, pending, ?_⟩
    simp only [Reservation.fenceRefuses, Bool.or_eq_false_iff, bne_eq_false_iff_eq] at passed
    rcases covered id call pending with overtaken | ⟨_, _, permitted⟩
    · omega
    · exact permitted

section Bench

def armedBench : World := World.bench [0x123] {} (some (Supervisor.new .armedTx true 0))

theorem armedSend_isSome :
    (run (World.step nullDigests) armedBench plainSend).isSome = true := by
  decide +kernel

def armedWorld : World := (run (World.step nullDigests) armedBench plainSend).get armedSend_isSome

theorem armedWorld_dispatches : (armedWorld.step nullDigests (.dispatch 0)).isSome = true := by
  decide +kernel

theorem plainSend_respectsPending :
    Meets (World.step nullDigests) (RespectsPending nullDigests) armedBench plainSend := by
  refine ⟨⟨?_, ?_⟩, fun _ _ => ⟨⟨fun _ _ _ _ => rfl, ?_⟩, fun _ _ => trivial⟩⟩
  · intro id call pending
    cases pending
  · intro id owner request clock accepted frame same passed stamped
    rfl
  · intro id owner request clock accepted frame same
    cases same

/-- An armed gateway sends a plain frame. -/
theorem dispatch_only_while_permitted_plain :
    ∃ call, armedWorld.calls 0 = some call ∧ armedWorld.Permitted call.reservation :=
  dispatch_only_while_permitted nullDigests armedBench armedWorld
    ((armedWorld.step nullDigests (.dispatch 0)).get armedWorld_dispatches) plainSend 0
    (World.bench_initial _ _ _) plainSend_respectsPending (Option.some_get armedSend_isSome).symm
    (Option.some_get armedWorld_dispatches).symm
    (fun same => absurd (congrArg List.length same) (by decide +kernel))

def withdrawnSend : List Event := plainSend ++ [.transition .passive "operator stop"]

theorem withdrawnSend_isSome :
    (run (World.step nullDigests) armedBench withdrawnSend).isSome = true := by
  decide +kernel

def withdrawnWorld : World :=
  (run (World.step nullDigests) armedBench withdrawnSend).get withdrawnSend_isSome

theorem withdrawnWorld_dispatches :
    (withdrawnWorld.step nullDigests (.dispatch 0)).isSome = true := by
  decide +kernel

theorem withdrawn_permission_dispatched :
    ¬ ∀ (events : List Event) (before after : World) (id : Nat),
      run (World.step nullDigests) armedBench events = some before →
      before.step nullDigests (.dispatch id) = some after → after.wire ≠ before.wire →
      ∃ call, before.calls id = some call ∧ before.Permitted call.reservation := by
  intro always
  obtain ⟨call, _, permitted⟩ := always withdrawnSend withdrawnWorld
    ((withdrawnWorld.step nullDigests (.dispatch 0)).get withdrawnWorld_dispatches) 0
    (Option.some_get withdrawnSend_isSome).symm (Option.some_get withdrawnWorld_dispatches).symm
    (fun same => absurd (congrArg List.length same) (by decide +kernel))
  exact absurd permitted.supervisor (by decide +kernel)

end Bench

end Ucanlab.Safety
