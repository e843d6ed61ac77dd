import Ucanlab.Safety.World

/-!
What one section of the transmit path can do to the calls in flight, the wire,
the log and the table of consumed tokens.
-/

namespace Ucanlab.Safety.World

open Ucanlab E2E EventRun

/-- What a step of the surroundings leaves alone. -/
structure SameCalls (world next : World) : Prop where
  calls : next.calls = world.calls
  wire : next.wire = world.wire
  log : next.log = world.log
  consumed : next.gateway.consumedConfirmations = world.gateway.consumedConfirmations
  now : world.now ≤ next.now

theorem SameCalls.of_eq {world next : World} (calls : next.calls = world.calls)
    (wire : next.wire = world.wire) (log : next.log = world.log)
    (consumed : next.gateway.consumedConfirmations = world.gateway.consumedConfirmations)
    (now : next.now = world.now) : SameCalls world next :=
  ⟨calls, wire, log, consumed, Nat.le_of_eq now.symm⟩

theorem installSupervisor_sameCalls (world : World) (result : Supervisor × TransitionOutcome) :
    SameCalls world (world.installSupervisor result) :=
  SameCalls.of_eq rfl rfl rfl rfl rfl

section Inversion

variable {digests : Digests} {world next : World}

theorem step_fire {index : Nat} {nonce : Bytes}
    (stepped : world.step digests (.fire index nonce) = some next) :
    ∃ event, world.parked[index]? = some event ∧
      next = ({ world with parked := world.parked.eraseIdx index }.engage event nonce) := by
  simp only [step, fire] at stepped
  split at stepped
  · cases stepped
  · rename_i event parked
    cases stepped
    exact ⟨event, parked, rfl⟩

theorem step_callback {index : Nat} (stepped : world.step digests (.callback index) = some next) :
    ∃ scheduled, world.callbacks[index]? = some scheduled ∧
      next = ({ world with callbacks := world.callbacks.eraseIdx index }.runCallback scheduled) := by
  simp only [step, callback] at stepped
  split at stepped
  · cases stepped
  · rename_i scheduled known
    cases stepped
    exact ⟨scheduled, known, rfl⟩

theorem step_resetPublish (stepped : world.step digests .resetPublish = some next) :
    world.pendingResets ≠ 0 ∧ world.rebinding = false ∧
      next = { world with
        estop := world.estop.resetPublish
        pendingResets := world.pendingResets - 1 } := by
  simp only [step, resetPublish] at stepped
  split at stepped
  · cases stepped
  · rename_i ready
    cases stepped
    rw [not_or, Bool.not_eq_true] at ready
    exact ⟨ready.1, ready.2, rfl⟩

theorem step_rebindBus {bus : Bus} (stepped : world.step digests (.rebindBus bus) = some next) :
    world.rebinding = false ∧
      next = { world with
        gateway := world.gateway.rebindBus bus world.now
        rebinding := true } := by
  simp only [step, rebindBus] at stepped
  split at stepped
  · cases stepped
  · rename_i free
    cases stepped
    exact ⟨Bool.not_eq_true _ ▸ free, rfl⟩

theorem step_rebindWhitelist {change : WhitelistChange}
    (stepped : world.step digests (.rebindWhitelist change) = some next) :
    world.rebinding = false ∧
      next = { world with
        gateway := (world.gateway.rebindWhitelist change).1
        rebinding := (world.gateway.rebindWhitelist change).2.isNone } := by
  simp only [step, rebindWhitelist] at stepped
  split at stepped
  · cases stepped
  · rename_i free
    cases stepped
    exact ⟨Bool.not_eq_true _ ▸ free, rfl⟩

theorem step_rebindPublish (stepped : world.step digests .rebindPublish = some next) :
    world.rebinding = true ∧
      next = { world with
        estop := world.estop.advanceTxFence
        rebinding := false } := by
  simp only [step, rebindPublish] at stepped
  split at stepped
  · rename_i held
    cases stepped
    exact ⟨held, rfl⟩
  · cases stepped

theorem step_transition {target : SafetyState} {reason : String}
    (stepped : world.step digests (.transition target reason) = some next) :
    ∃ supervisor, world.supervisor = some supervisor ∧
      next = world.installSupervisor
        (supervisor.transitionTo world.estop.engaged target reason world.now) := by
  simp only [step, transition] at stepped
  split at stepped
  · cases stepped
  · rename_i supervisor known
    cases stepped
    exact ⟨supervisor, known, rfl⟩

theorem step_triggerFault {reason : String}
    (stepped : world.step digests (.triggerFault reason) = some next) :
    ∃ supervisor, world.supervisor = some supervisor ∧
      next = world.installSupervisor
        (supervisor.triggerFault world.estop.engaged reason world.now) := by
  simp only [step, triggerFault] at stepped
  split at stepped
  · cases stepped
  · rename_i supervisor known
    cases stepped
    exact ⟨supervisor, known, rfl⟩

theorem runCallback_estopSupervisor (world : World) :
    world.runCallback .estopSupervisor = world ∨
      ∃ supervisor, world.supervisor = some supervisor ∧
        world.runCallback .estopSupervisor = world.installSupervisor
          (supervisor.triggerFault world.estop.engaged estopFaultReason world.now) := by
  simp only [runCallback]
  split
  · exact Or.inl rfl
  · rename_i supervisor known
    split
    · exact Or.inl rfl
    · exact Or.inr ⟨supervisor, known, rfl⟩

end Inversion

theorem runCallback_sameCalls (world : World) (callback : Callback) :
    SameCalls world (world.runCallback callback) := by
  cases callback with
  | estopSupervisor =>
      rcases runCallback_estopSupervisor world with same | ⟨supervisor, _, moved⟩
      · rw [same]
        exact SameCalls.of_eq rfl rfl rfl rfl rfl
      · rw [moved]
        exact installSupervisor_sameCalls world _
  | estopGateway => exact SameCalls.of_eq rfl rfl rfl rfl rfl
  | stateGateway newState => exact SameCalls.of_eq rfl rfl rfl rfl rfl
  | stateWatchdog newState => exact SameCalls.of_eq rfl rfl rfl rfl rfl

/-- Only the sections of a call touch calls, wire, log and consumed tokens. -/
theorem step_surroundings {digests : Digests} {world next : World} {event : Event}
    (stepped : world.step digests event = some next) (other : isCallStep event = false) :
    SameCalls world next := by
  cases event with
  | validate => cases other
  | guard => cases other
  | dispatch => cases other
  | rollback => cases other
  | fire index nonce =>
      obtain ⟨_, _, rfl⟩ := step_fire stepped
      exact SameCalls.of_eq rfl rfl rfl rfl rfl
  | callback index =>
      obtain ⟨scheduled, _, rfl⟩ := step_callback stepped
      have kept := runCallback_sameCalls
        { world with callbacks := world.callbacks.eraseIdx index } scheduled
      exact ⟨kept.calls, kept.wire, kept.log, kept.consumed, kept.now⟩
  | resetPublish =>
      obtain ⟨_, _, rfl⟩ := step_resetPublish stepped
      exact SameCalls.of_eq rfl rfl rfl rfl rfl
  | rebindBus bus =>
      obtain ⟨_, rfl⟩ := step_rebindBus stepped
      exact SameCalls.of_eq rfl rfl rfl rfl rfl
  | rebindWhitelist change =>
      obtain ⟨_, rfl⟩ := step_rebindWhitelist stepped
      exact SameCalls.of_eq rfl rfl rfl (rebindWhitelist_keeps world.gateway change
        Gateway.consumedConfirmations (fun _ _ _ => rfl)) rfl
  | rebindPublish =>
      obtain ⟨_, rfl⟩ := step_rebindPublish stepped
      exact SameCalls.of_eq rfl rfl rfl rfl rfl
  | transition target reason =>
      obtain ⟨_, _, rfl⟩ := step_transition stepped
      exact installSupervisor_sameCalls world _
  | triggerFault reason =>
      obtain ⟨_, _, rfl⟩ := step_triggerFault stepped
      exact installSupervisor_sameCalls world _
  | notifyLinkFault kind reason =>
      cases stepped
      exact SameCalls.of_eq rfl rfl rfl (notifyLinkFault_keeps world.gateway kind _
        Gateway.consumedConfirmations (fun _ _ => rfl)) rfl
  | tick elapsed =>
      cases stepped
      exact ⟨rfl, rfl, rfl, rfl, Nat.le_add_right _ _⟩
  | _ =>
      cases stepped
      exact SameCalls.of_eq rfl rfl rfl rfl rfl

def mayPerform (event : Event) : GatewayOp → Prop
  | .estopTriggered => ∃ index, event = .callback index
  | .safetyStateChanged _ => ∃ index, event = .callback index
  | .updateVehicleSpeed speed source _ => event = .updateSpeed speed source
  | .installReadOnlyPolicy policy => event = .installPolicy policy
  | .clearReadOnlyPolicy => event = .clearPolicy
  | .rebindBus bus _ => event = .rebindBus bus
  | .rebindWhitelist change => event = .rebindWhitelist change
  | .registerE2eProfile arbitrationId profile => event = .registerProfile arbitrationId profile
  | .notifyLinkFault kind _ => ∃ reason, event = .notifyLinkFault kind reason
  | .clearLinkFault kind => event = .clearLinkFault kind

theorem performs_one {event : Event} {op : GatewayOp} (performs : mayPerform event op) :
    ∀ other ∈ [op], mayPerform event other := by
  intro other member
  rw [List.mem_singleton.mp member]
  exact performs

theorem step_performs {digests : Digests} {world next : World} {event : Event}
    (stepped : world.step digests event = some next) (other : isCallStep event = false) :
    ∃ ops, next.gateway = world.gateway.performAll ops ∧ ∀ op ∈ ops, mayPerform event op := by
  cases event with
  | validate => cases other
  | guard => cases other
  | dispatch => cases other
  | rollback => cases other
  | fire index nonce =>
      obtain ⟨_, _, rfl⟩ := step_fire stepped
      exact ⟨[], rfl, fun _ member => absurd member List.not_mem_nil⟩
  | callback index =>
      obtain ⟨scheduled, _, rfl⟩ := step_callback stepped
      cases scheduled with
      | estopSupervisor =>
          rcases runCallback_estopSupervisor
            { world with callbacks := world.callbacks.eraseIdx index } with same | ⟨_, _, moved⟩
          · rw [same]
            exact ⟨[], rfl, fun _ member => absurd member List.not_mem_nil⟩
          · rw [moved]
            exact ⟨[], rfl, fun _ member => absurd member List.not_mem_nil⟩
      | estopGateway => exact ⟨[.estopTriggered], rfl, performs_one ⟨index, rfl⟩⟩
      | stateGateway newState => exact ⟨[.safetyStateChanged newState], rfl, performs_one ⟨index, rfl⟩⟩
      | stateWatchdog newState => exact ⟨[], rfl, fun _ member => absurd member List.not_mem_nil⟩
  | resetPublish =>
      obtain ⟨_, _, rfl⟩ := step_resetPublish stepped
      exact ⟨[], rfl, fun _ member => absurd member List.not_mem_nil⟩
  | rebindBus bus =>
      obtain ⟨_, rfl⟩ := step_rebindBus stepped
      exact ⟨[.rebindBus bus world.now], rfl, performs_one rfl⟩
  | rebindWhitelist change =>
      obtain ⟨_, rfl⟩ := step_rebindWhitelist stepped
      exact ⟨[.rebindWhitelist change], rfl, performs_one rfl⟩
  | rebindPublish =>
      obtain ⟨_, rfl⟩ := step_rebindPublish stepped
      exact ⟨[], rfl, fun _ member => absurd member List.not_mem_nil⟩
  | transition target reason =>
      obtain ⟨_, _, rfl⟩ := step_transition stepped
      exact ⟨[], rfl, fun _ member => absurd member List.not_mem_nil⟩
  | triggerFault reason =>
      obtain ⟨_, _, rfl⟩ := step_triggerFault stepped
      exact ⟨[], rfl, fun _ member => absurd member List.not_mem_nil⟩
  | updateSpeed speed source =>
      cases stepped
      exact ⟨[.updateVehicleSpeed speed source world.now], rfl, performs_one rfl⟩
  | installPolicy policy =>
      cases stepped
      exact ⟨[.installReadOnlyPolicy policy], rfl, performs_one rfl⟩
  | clearPolicy =>
      cases stepped
      exact ⟨[.clearReadOnlyPolicy], rfl, performs_one rfl⟩
  | registerProfile arbitrationId profile =>
      cases stepped
      exact ⟨[.registerE2eProfile arbitrationId profile], rfl, performs_one rfl⟩
  | notifyLinkFault kind reason =>
      cases stepped
      exact ⟨[.notifyLinkFault kind world.plane], rfl, performs_one ⟨reason, rfl⟩⟩
  | clearLinkFault kind =>
      cases stepped
      exact ⟨[.clearLinkFault kind], rfl, performs_one rfl⟩
  | _ =>
      cases stepped
      exact ⟨[], rfl, fun _ member => absurd member List.not_mem_nil⟩

theorem step_validate {digests : Digests} {world next : World} {id owner : Nat}
    {request : TxRequest} {clock : Clock}
    (stepped : world.step digests (.validate id owner request clock) = some next) :
    world.calls id = none ∧ world.now ≤ clock.start ∧
      ((∃ rejection,
          world.gateway.validateLocked digests world.plane clock owner request =
            .error rejection ∧
          next = ({ world with
            gateway := rejection.gateway
            now := clock.burn
            parked := world.parked ++ rejection.requests }.record id request
              (.refused rejection.refusal))) ∨
        (∃ gateway reservation,
          world.gateway.validateLocked digests world.plane clock owner request =
            .ok (gateway, reservation) ∧
          next = (({ world with
            gateway := gateway
            now := clock.burn }.setCall id (some {
              request := request
              reservation := reservation
              stage := .validated })).record id request .admitted))) := by
  simp only [step, validate] at stepped
  split at stepped
  · cases stepped
  · rename_i enabled
    have free : world.calls id = none := by
      cases pending : world.calls id with
      | none => rfl
      | some call => exact absurd (Or.inl (by rw [pending]; rfl)) enabled
    have order : world.now ≤ clock.start := Nat.le_of_not_lt (fun early => enabled (Or.inr early))
    refine ⟨free, order, ?_⟩
    split at stepped
    · rename_i rejection refused
      cases stepped
      exact Or.inl ⟨rejection, refused, rfl⟩
    · rename_i gateway reservation passed
      cases stepped
      exact Or.inr ⟨gateway, reservation, passed, rfl⟩

theorem step_guard {digests : Digests} {world next : World} {id : Nat}
    (stepped : world.step digests (.guard id) = some next) :
    ∃ call, world.calls id = some call ∧ call.stage = .validated ∧
      next = world.setCall id (some { call with
        stage :=
          if call.reservation.guardRefuses world.estop then .refused .estopActive
          else .cleared }) := by
  simp only [step, guard] at stepped
  split at stepped
  · rename_i call pending
    split at stepped
    · rename_i stage
      cases stepped
      exact ⟨call, pending, stage, rfl⟩
    · cases stepped
  · cases stepped

theorem step_dispatch {digests : Digests} {world next : World} {id : Nat}
    (stepped : world.step digests (.dispatch id) = some next) :
    ∃ call, world.calls id = some call ∧ call.stage = .cleared ∧ world.rebinding = false ∧
      ((call.reservation.fenceRefuses world.estop = true ∧
          next = world.setCall id (some { call with stage := .refused .fenceInvalidated })) ∨
        (call.reservation.fenceRefuses world.estop = false ∧
          next = ({ world with
            wire := {
              id := id
              reservation := call.reservation
              bus := world.gateway.bus } :: world.wire }.setCall id none).record id call.request
                .accepted)) := by
  simp only [step, dispatch] at stepped
  split at stepped
  · rename_i call pending
    split at stepped
    · rename_i ready
      refine ⟨call, pending, ready.1, ready.2, ?_⟩
      split at stepped
      · rename_i refused
        cases stepped
        exact Or.inl ⟨refused, rfl⟩
      · rename_i passed
        cases stepped
        exact Or.inr ⟨by simpa using passed, rfl⟩
    · cases stepped
  · cases stepped

theorem step_rollback {digests : Digests} {world next : World} {id : Nat}
    (stepped : world.step digests (.rollback id) = some next) :
    ∃ call refusal, world.calls id = some call ∧ call.stage = .refused refusal ∧
      next = ({ world with
        gateway := world.gateway.rollback call.reservation.charge
          call.reservation.burnedPayload }.setCall id none).record id call.request
            (.refused refusal) := by
  simp only [step, rollback] at stepped
  split at stepped
  · rename_i call pending
    split at stepped
    · rename_i refusal stage
      cases stepped
      exact ⟨call, refusal, pending, stage, rfl⟩
    · cases stepped
  · cases stepped

def Sends (world next : World) (id : Nat) (reservation : Reservation) : Prop :=
  ∃ call, world.calls id = some call ∧ call.reservation = reservation ∧ call.stage = .cleared ∧
    reservation.fenceRefuses world.estop = false ∧
    next.wire = { id := id, reservation := reservation, bus := world.gateway.bus } :: world.wire

theorem setCall_calls (world : World) (id other : Nat) (call : Option Call) :
    (world.setCall id call).calls other = if other = id then call else world.calls other := rfl

theorem wire_step {digests : Digests} {world next : World} {event : Event}
    (stepped : world.step digests event = some next) :
    next.wire = world.wire ∨
      ∃ id reservation, event = .dispatch id ∧ Sends world next id reservation := by
  cases kind : isCallStep event with
  | false => exact Or.inl (step_surroundings stepped kind).wire
  | true =>
      cases event with
      | validate id owner request clock =>
          obtain ⟨_, _, ⟨_, _, rfl⟩ | ⟨_, _, _, rfl⟩⟩ := step_validate stepped
          · exact Or.inl rfl
          · exact Or.inl rfl
      | guard id =>
          obtain ⟨_, _, _, rfl⟩ := step_guard stepped
          exact Or.inl rfl
      | dispatch id =>
          obtain ⟨call, pending, stage, _, ⟨_, rfl⟩ | ⟨passed, rfl⟩⟩ := step_dispatch stepped
          · exact Or.inl rfl
          · exact Or.inr ⟨id, call.reservation, rfl, call, pending, rfl, stage, passed, rfl⟩
      | rollback id =>
          obtain ⟨_, _, _, _, rfl⟩ := step_rollback stepped
          exact Or.inl rfl
      | _ => cases kind

theorem calls_step {digests : Digests} {world next : World} {event : Event} {id : Nat}
    {call : Call} (stepped : world.step digests event = some next)
    (pending : next.calls id = some call) :
    (∃ before, world.calls id = some before ∧ before.reservation = call.reservation ∧
        before.request = call.request) ∨
      ∃ owner clock, event = .validate id owner call.request clock ∧ world.now ≤ clock.start ∧
        call.stage = .validated ∧
        world.gateway.validateLocked digests world.plane clock owner call.request =
          .ok (next.gateway, call.reservation) := by
  cases kind : isCallStep event with
  | false =>
      rw [(step_surroundings stepped kind).calls] at pending
      exact Or.inl ⟨call, pending, rfl, rfl⟩
  | true =>
      cases event with
      | validate other owner request clock =>
          obtain ⟨_, order, ⟨_, _, rfl⟩ | ⟨gateway, reservation, passed, rfl⟩⟩ :=
            step_validate stepped
          · exact Or.inl ⟨call, pending, rfl, rfl⟩
          · have entry := pending
            simp only [record, setCall_calls] at entry
            split at entry
            · rename_i same
              cases entry
              subst same
              exact Or.inr ⟨owner, clock, rfl, order, rfl, passed⟩
            · exact Or.inl ⟨call, entry, rfl, rfl⟩
      | guard other =>
          obtain ⟨before, known, _, rfl⟩ := step_guard stepped
          simp only [setCall_calls] at pending
          split at pending
          · rename_i same
            cases pending
            subst same
            exact Or.inl ⟨before, known, rfl, rfl⟩
          · exact Or.inl ⟨call, pending, rfl, rfl⟩
      | dispatch other =>
          obtain ⟨before, known, _, _, ⟨_, rfl⟩ | ⟨_, rfl⟩⟩ := step_dispatch stepped
          · simp only [setCall_calls] at pending
            split at pending
            · rename_i same
              cases pending
              subst same
              exact Or.inl ⟨before, known, rfl, rfl⟩
            · exact Or.inl ⟨call, pending, rfl, rfl⟩
          · simp only [record, setCall_calls] at pending
            split at pending
            · cases pending
            · exact Or.inl ⟨call, pending, rfl, rfl⟩
      | rollback other =>
          obtain ⟨before, _, known, _, rfl⟩ := step_rollback stepped
          simp only [record, setCall_calls] at pending
          split at pending
          · cases pending
          · exact Or.inl ⟨call, pending, rfl, rfl⟩
      | _ => cases kind

/-- The clock never goes back. -/
theorem now_step {digests : Digests} {world next : World} {event : Event}
    (stepped : world.step digests event = some next) : world.now ≤ next.now := by
  cases kind : isCallStep event with
  | false => exact (step_surroundings stepped kind).now
  | true =>
      cases event with
      | validate id owner request clock =>
          obtain ⟨_, order, ⟨_, _, rfl⟩ | ⟨_, _, _, rfl⟩⟩ := step_validate stepped
          · exact Nat.le_trans order (Nat.le_trans clock.verifyAfter
              (Nat.le_trans clock.bucketAfter clock.burnAfter))
          · exact Nat.le_trans order (Nat.le_trans clock.verifyAfter
              (Nat.le_trans clock.bucketAfter clock.burnAfter))
      | guard id =>
          obtain ⟨_, _, _, rfl⟩ := step_guard stepped
          exact Nat.le_refl _
      | dispatch id =>
          obtain ⟨_, _, _, _, ⟨_, rfl⟩ | ⟨_, rfl⟩⟩ := step_dispatch stepped
          · exact Nat.le_refl _
          · exact Nat.le_refl _
      | rollback id =>
          obtain ⟨_, _, _, _, rfl⟩ := step_rollback stepped
          exact Nat.le_refl _
      | _ => cases kind

def CarriesOnly (id : Nat) (admissible : Reservation → Prop) (world : World) : Prop :=
  ∀ call, world.calls id = some call → admissible call.reservation

theorem carriesOnly_step {digests : Digests} {world next : World} {event : Event} {id : Nat}
    {admissible : Reservation → Prop} (stepped : world.step digests event = some next)
    (foreign : ∀ owner request clock, event ≠ .validate id owner request clock)
    (carries : CarriesOnly id admissible world) : CarriesOnly id admissible next := by
  intro call pending
  rcases calls_step stepped pending with ⟨before, known, same, _⟩ | ⟨owner, clock, own, _⟩
  · rw [← same]
    exact carries before known
  · exact absurd own (foreign owner call.request clock)

theorem carried_since_validate {digests : Digests} {world validated last : World} {id owner : Nat}
    {request : TxRequest} {clock : Clock} {middle : List Event} {call : Call}
    (stepped : world.step digests (.validate id owner request clock) = some validated)
    (own : ∀ event ∈ middle, ∀ owner request clock, event ≠ .validate id owner request clock)
    (ran : run (World.step digests) validated middle = some last)
    (pending : last.calls id = some call) :
    world.gateway.validateLocked digests world.plane clock owner request =
      .ok (validated.gateway, call.reservation) := by
  have started : CarriesOnly id (fun reservation =>
      world.gateway.validateLocked digests world.plane clock owner request =
        .ok (validated.gateway, reservation)) validated := by
    obtain ⟨free, _⟩ := step_validate stepped
    intro first known
    rcases calls_step stepped known with ⟨before, was, _⟩ | ⟨other, moment, same, _, _, passed⟩
    · rw [free] at was
      cases was
    · cases same
      exact passed
  exact run_invariant_of_meets
    (fun _ _ _ carries foreign moved => carriesOnly_step moved foreign carries) started
    (Meets.of_forall own validated) ran call pending

def OnWire (transmission : Transmission) (world : World) : Prop := transmission ∈ world.wire

def InFlight (id : Nat) (reservation : Reservation) (world : World) : Prop :=
  ∃ call, world.calls id = some call ∧ call.reservation = reservation

theorem sent_was_validated {digests : Digests} {initial last : World} {events : List Event}
    (start : initial.Initial) (ran : run (World.step digests) initial events = some last)
    {transmission : Transmission} (member : transmission ∈ last.wire) :
    ∃ front back owner request clock before after,
      events = front ++ .validate transmission.id owner request clock :: back ∧
        run (World.step digests) initial front = some before ∧
        before.gateway.validateLocked digests before.plane clock owner request =
          .ok (after, transmission.reservation) := by
  have unsent : ¬ OnWire transmission initial := by
    rw [OnWire, start.wire]
    exact List.not_mem_nil
  have onWire : OnWire transmission last := member
  obtain ⟨toSend, event, rest, sender, sentWorld, split, sendRan, missing, dispatched, present, _⟩ :=
    run_introduces ran unsent onWire
  rcases wire_step dispatched with same | ⟨id, reservation, rfl, call, known, rfl, _, _, wire⟩
  · rw [OnWire, same] at present
    exact absurd present missing
  · rw [OnWire, wire] at present
    rcases List.mem_cons.mp present with rfl | old
    · have idle : ¬ InFlight id call.reservation initial := by
        rintro ⟨other, pending, _⟩
        rw [start.calls id] at pending
        cases pending
      have flying : InFlight id call.reservation sender := ⟨call, known, rfl⟩
      obtain ⟨front, first, middle, before, after, earlier, frontRan, absent, stepped,
        ⟨other, pending, carried⟩, _⟩ := run_introduces sendRan idle flying
      rcases calls_step stepped pending with ⟨old, was, same, _⟩ |
        ⟨owner, clock, rfl, _, _, passed⟩
      · exact absurd ⟨old, was, same.trans carried⟩ absent
      · rw [carried] at passed
        refine ⟨front, middle ++ .dispatch id :: rest, owner, other.request, clock, before,
          after.gateway, ?_, frontRan, passed⟩
        rw [split, earlier, List.append_assoc, List.cons_append]
    · exact absurd old missing

end Ucanlab.Safety.World
