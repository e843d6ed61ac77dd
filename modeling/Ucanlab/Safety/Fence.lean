import Ucanlab.Safety.WorldSpec

/-!
The transmit fence as a generation counter: every engagement, published reset
and published rebind raises it, and a dispatch passes only under the value its
call was validated against.
-/

namespace Ucanlab.Safety

open Ucanlab E2E EventRun

/-- The steps a validated frame must not survive. -/
def Event.raisesFence : Event → Bool
  | .fire _ _ => true
  | .trigger _ _ => true
  | .resetPublish => true
  | .rebindPublish => true
  | _ => false

def Event.isTransition : Event → Bool
  | .rebindBus _ => true
  | event => event.raisesFence

namespace World

theorem runCallback_estop (world : World) (callback : Callback) :
    (world.runCallback callback).estop = world.estop := by
  cases callback with
  | estopSupervisor =>
      rcases runCallback_estopSupervisor world with same | ⟨supervisor, _, moved⟩
      · rw [same]
      · rw [moved]
        rfl
  | estopGateway => rfl
  | stateGateway newState => rfl
  | stateWatchdog newState => rfl

/-- Besides the steps that raise the fence only the first section of a reset
touches the emergency stop. -/
theorem estop_step {digests : Digests} {world next : World} {event : Event}
    (stepped : world.step digests event = some next) (other : event.raisesFence = false) :
    next.estop = world.estop ∨
      ∃ verdict, event = .resetVerify verdict ∧
        next.estop = (world.estop.resetVerify verdict world.now).1 := by
  cases event with
  | validate id owner request clock =>
      obtain ⟨_, _, ⟨_, _, rfl⟩ | ⟨_, _, _, rfl⟩⟩ := step_validate stepped
      · exact Or.inl rfl
      · exact Or.inl rfl
  | guard id =>
      obtain ⟨_, _, _, rfl⟩ := step_guard stepped
      exact Or.inl rfl
  | dispatch id =>
      obtain ⟨_, _, _, _, ⟨_, rfl⟩ | ⟨_, rfl⟩⟩ := step_dispatch stepped
      · exact Or.inl rfl
      · exact Or.inl rfl
  | rollback id =>
      obtain ⟨_, _, _, _, rfl⟩ := step_rollback stepped
      exact Or.inl rfl
  | callback index =>
      obtain ⟨scheduled, _, rfl⟩ := step_callback stepped
      exact Or.inl (runCallback_estop _ scheduled)
  | resetVerify verdict =>
      cases stepped
      exact Or.inr ⟨verdict, rfl, rfl⟩
  | rebindBus bus =>
      obtain ⟨_, rfl⟩ := step_rebindBus stepped
      exact Or.inl rfl
  | rebindWhitelist change =>
      obtain ⟨_, rfl⟩ := step_rebindWhitelist stepped
      exact Or.inl rfl
  | transition target reason =>
      obtain ⟨_, _, rfl⟩ := step_transition stepped
      exact Or.inl rfl
  | triggerFault reason =>
      obtain ⟨_, _, rfl⟩ := step_triggerFault stepped
      exact Or.inl rfl
  | fire => cases other
  | trigger => cases other
  | resetPublish => cases other
  | rebindPublish => cases other
  | _ =>
      cases stepped
      exact Or.inl rfl

theorem txFence_step {digests : Digests} {world next : World} {event : Event}
    (stepped : world.step digests event = some next) (other : event.raisesFence = false) :
    next.estop.txFence = world.estop.txFence := by
  rcases estop_step stepped other with same | ⟨verdict, _, verified⟩
  · rw [same]
  · rw [verified]
    exact (world.estop.resetVerify_cases verdict world.now).1

theorem fence_raised {digests : Digests} {world next : World} {event : Event}
    (stepped : world.step digests event = some next) (raises : event.raisesFence = true) :
    world.estop.txFence < next.estop.txFence := by
  cases event with
  | fire index nonce =>
      obtain ⟨_, _, rfl⟩ := step_fire stepped
      exact Nat.lt_succ_self _
  | trigger event nonce =>
      cases stepped
      exact Nat.lt_succ_self _
  | resetPublish =>
      obtain ⟨_, _, rfl⟩ := step_resetPublish stepped
      exact Nat.lt_succ_self _
  | rebindPublish =>
      obtain ⟨_, rfl⟩ := step_rebindPublish stepped
      exact Nat.lt_succ_self _
  | _ => cases raises

theorem fence_le {digests : Digests} {world next : World} {event : Event}
    (stepped : world.step digests event = some next) :
    world.estop.txFence ≤ next.estop.txFence := by
  cases raises : event.raisesFence with
  | false => exact Nat.le_of_eq (txFence_step stepped raises).symm
  | true => exact Nat.le_of_lt (fence_raised stepped raises)

def SendLockHeld (world : World) : Prop := world.rebinding = true

theorem sendLock_step {digests : Digests} {world next : World} {event : Event}
    (stepped : world.step digests event = some next) (other : event ≠ .rebindPublish)
    (held : world.SendLockHeld) : next.SendLockHeld := by
  unfold SendLockHeld at held ⊢
  cases event with
  | validate id owner request clock =>
      obtain ⟨_, _, ⟨_, _, rfl⟩ | ⟨_, _, _, rfl⟩⟩ := step_validate stepped
      · exact held
      · exact held
  | guard id =>
      obtain ⟨_, _, _, rfl⟩ := step_guard stepped
      exact held
  | dispatch id =>
      obtain ⟨_, _, _, free, _⟩ := step_dispatch stepped
      rw [held] at free
      cases free
  | rollback id =>
      obtain ⟨_, _, _, _, rfl⟩ := step_rollback stepped
      exact held
  | fire index nonce =>
      obtain ⟨_, _, rfl⟩ := step_fire stepped
      exact held
  | callback index =>
      obtain ⟨scheduled, _, rfl⟩ := step_callback stepped
      cases scheduled with
      | estopSupervisor =>
          rcases runCallback_estopSupervisor
            { world with callbacks := world.callbacks.eraseIdx index } with same | ⟨_, _, moved⟩
          · rw [same]
            exact held
          · rw [moved]
            exact held
      | _ => exact held
  | resetPublish =>
      obtain ⟨_, free, _⟩ := step_resetPublish stepped
      rw [held] at free
      cases free
  | rebindBus bus =>
      obtain ⟨free, _⟩ := step_rebindBus stepped
      rw [held] at free
      cases free
  | rebindWhitelist change =>
      obtain ⟨free, _⟩ := step_rebindWhitelist stepped
      rw [held] at free
      cases free
  | rebindPublish => exact absurd rfl other
  | transition target reason =>
      obtain ⟨_, _, rfl⟩ := step_transition stepped
      exact held
  | triggerFault reason =>
      obtain ⟨_, _, rfl⟩ := step_triggerFault stepped
      exact held
  | _ =>
      cases stepped
      exact held

end World

/-- Between the validation of a call and a dispatch check it passes, no
engagement, completed reset or rebind took place. -/
theorem dispatch_passes_only_under_its_fence (digests : Digests) (initial before after : World)
    (front middle : List Event) (id owner : Nat) (request : TxRequest) (clock : Clock)
    (ran : run (World.step digests) initial
      (front ++ .validate id owner request clock :: middle) = some before)
    (own : ∀ event ∈ middle, ∀ owner request clock, event ≠ .validate id owner request clock)
    (dispatched : before.step digests (.dispatch id) = some after)
    (sent : after.wire ≠ before.wire) :
    ∀ event ∈ middle, event.isTransition = false := by
  obtain ⟨_, _, tail⟩ := run_append_some ran
  obtain ⟨validated, stepped, middleRan⟩ := run_cons_some tail
  have fenceKept : validated.estop.txFence = _ := World.txFence_step stepped rfl
  obtain ⟨call, pending, _, free, ⟨_, refused⟩ | ⟨passed, _⟩⟩ := World.step_dispatch dispatched
  · rw [refused] at sent
    exact absurd rfl sent
  · have current : before.estop.txFence = validated.estop.txFence := by
      obtain ⟨facts⟩ := validateLocked_ok
        (World.carried_since_validate stepped own middleRan pending)
      simp only [Reservation.fenceRefuses, Bool.or_eq_false_iff, bne_eq_false_iff_eq] at passed
      rw [← passed.1, facts.fenceSnapshot, fenceKept]
      rfl
    have unraised := (run_no_advance_of_generation_eq (fun world => world.estop.txFence)
      (fun _ event => event.raisesFence = true) (fun _ _ _ moved => World.fence_le moved)
      (fun _ _ _ moved raises => World.fence_raised moved raises) middleRan current).of_mem
        middleRan
    intro event member
    by_cases swap : ∃ bus, event = .rebindBus bus
    · -- the rebind would still hold the send lock
      obtain ⟨bus, rfl⟩ := swap
      obtain ⟨early, late, split⟩ := List.append_of_mem member
      rw [split] at middleRan
      obtain ⟨_, _, swapRan⟩ := run_append_some middleRan
      obtain ⟨swapped, swapStep, lateRan⟩ := run_cons_some swapRan
      have held : swapped.SendLockHeld := by
        obtain ⟨_, rfl⟩ := World.step_rebindBus swapStep
        rfl
      have unpublished : ∀ event ∈ late, event ≠ .rebindPublish := by
        rintro event inLate rfl
        have inMiddle : Event.rebindPublish ∈ middle := by
          rw [split]
          exact List.mem_append_right _ (List.mem_cons_of_mem _ inLate)
        exact unraised _ inMiddle rfl
      have still : before.SendLockHeld := run_invariant_of_meets
        (fun _ _ _ locked other moved => World.sendLock_step moved other locked) held
        (Meets.of_forall unpublished swapped) lateRan
      rw [World.SendLockHeld] at still
      rw [still] at free
      cases free
    · have quiet := unraised event member
      cases event with
      | rebindBus bus => exact absurd ⟨bus, rfl⟩ swap
      | _ => simpa [Event.isTransition] using quiet

section Bench

def nullDigests : Digests where
  hmacSha256 := fun _ _ => List.replicate 32 0
  sha256 := fun _ => List.replicate 32 0
  hmacLength := blankHmac_length
  shaLength := blankSha_length

def plainFrame : CanFrame where
  channelId := "can0"
  arbitrationId := 0x123
  dlc := 1
  data := [0x01]
  valid := by decide

def plainSend : List Event := [.validate 0 0 { frame := plainFrame } (Clock.at 1), .guard 0]

theorem plainSend_isSome :
    (run (World.step nullDigests) (World.bench [0x123] {} none) plainSend).isSome = true := rfl

def clearedWorld : World :=
  (run (World.step nullDigests) (World.bench [0x123] {} none) plainSend).get plainSend_isSome

theorem clearedWorld_dispatches :
    (clearedWorld.step nullDigests (.dispatch 0)).isSome = true := rfl

/-- A plain frame is validated, cleared and sent. -/
theorem dispatch_passes_only_under_its_fence_plain : (Event.guard 0).isTransition = false :=
  dispatch_passes_only_under_its_fence nullDigests (World.bench [0x123] {} none) clearedWorld
    ((clearedWorld.step nullDigests (.dispatch 0)).get clearedWorld_dispatches) [] [.guard 0] 0 0
    { frame := plainFrame } (Clock.at 1) (Option.some_get plainSend_isSome).symm
    (fun event member owner request clock same => by
      rw [List.mem_singleton.mp member] at same
      cases same)
    (Option.some_get clearedWorld_dispatches).symm
    (fun same => absurd (congrArg List.length same) (by decide +kernel))
    (.guard 0) (List.mem_singleton.mpr rfl)

end Bench

end Ucanlab.Safety
