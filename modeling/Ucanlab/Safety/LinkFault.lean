import Ucanlab.Safety.WorldSpec

/-!
Link-fault reports as whole calls: each call runs its sections and the
listeners it schedules before the next one starts. The edge latches of the
gateway belong to one epoch of the emergency stop.
-/

namespace Ucanlab.Safety

open Ucanlab EventRun

inductive LinkCall where
  | notify (kind : LinkFaultKind) (reason : String) (nonce : Bytes)
  | clear (kind : LinkFaultKind)
  | transition (target : SafetyState) (reason : String)
  | triggerFault (reason : String)
  | trigger (event : EStopEvent) (nonce : Bytes)
  | reset (verdict : EStop.ResetVerdict)
  | tick (elapsed : Nat)

namespace World

/-- A transition with the listeners of both components. -/
def changeState (world : World) (result : Supervisor × TransitionOutcome) : World :=
  match result.2 with
  | .moved _ target _ =>
      { world with
        supervisor := some result.1
        gateway := world.gateway.onSafetyStateChanged target
        watchdog := world.watchdog.map (fun watchdog => watchdog.onSafetyStateChanged target) }
  | _ => { world with supervisor := some result.1 }

/-- An engagement with the gateway's callback: first the supervisor, then the
gateway itself. -/
def engageNow (world : World) (event : EStopEvent) (nonce : Bytes) : World :=
  let engaged := { world with estop := world.estop.trigger event world.now nonce }
  let faulted :=
    match world.supervisor with
    | none => engaged
    | some supervisor =>
        if supervisor.state = SafetyState.fault then engaged
        else engaged.changeState (supervisor.triggerFault true estopFaultReason world.now)
  { faulted with gateway := faulted.gateway.onEstopTriggered }

def linkEngagement (kind : LinkFaultKind) (reason : String) : EStopEvent where
  trigger := kind.source
  reason := .reported reason

/-- `_notify_link_fault` up to its return. -/
def notifyNow (world : World) (kind : LinkFaultKind) (reason : String) (nonce : Bytes) : World :=
  let result := world.gateway.notifyLinkFault kind world.plane
  let latched := { world with gateway := result.1 }
  if result.2 then latched.engageNow (linkEngagement kind reason) nonce else latched

def transitionNow (world : World) (target : SafetyState) (reason : String) : World :=
  match world.supervisor with
  | none => world
  | some supervisor =>
      world.changeState (supervisor.transitionTo world.estop.engaged target reason world.now)

def triggerFaultNow (world : World) (reason : String) : World :=
  match world.supervisor with
  | none => world
  | some supervisor =>
      world.changeState (supervisor.triggerFault world.estop.engaged reason world.now)

def resetNow (world : World) (verdict : EStop.ResetVerdict) : World :=
  let result := world.estop.resetVerify verdict world.now
  { world with
    estop := if result.2 = .disengaged then result.1.resetPublish else result.1 }

end World

/-- The world together with the link faults that engaged the emergency stop,
each with its epoch. -/
structure LinkSystem where
  world : World
  engagements : List (LinkFaultKind × Nat)

namespace LinkSystem

def notifyEngages (system : LinkSystem) (kind : LinkFaultKind) : Bool :=
  (system.world.gateway.notifyLinkFault kind system.world.plane).2

def apply (system : LinkSystem) : LinkCall → LinkSystem
  | .notify kind reason nonce => {
      world := system.world.notifyNow kind reason nonce
      engagements :=
        if system.notifyEngages kind then
          (kind, system.world.estop.epoch) :: system.engagements
        else system.engagements }
  | .clear kind =>
      { system with
        world := system.world.mapGateway (fun gateway => gateway.clearLinkFault kind) }
  | .transition target reason =>
      { system with world := system.world.transitionNow target reason }
  | .triggerFault reason => { system with world := system.world.triggerFaultNow reason }
  | .trigger event nonce => { system with world := system.world.engageNow event nonce }
  | .reset verdict => { system with world := system.world.resetNow verdict }
  | .tick elapsed =>
      { system with world := { system.world with now := system.world.now + elapsed } }

def step (system : LinkSystem) (call : LinkCall) : Option LinkSystem := some (system.apply call)

end LinkSystem

section Latches

def World.txPermitted (world : World) : Bool := world.supervisor.all Supervisor.isTxPermitted

/-- Transmission becomes permitted only while the fault is not latched in the
current epoch. -/
def ArmsUnlatched (kind : LinkFaultKind) (system : LinkSystem) (call : LinkCall) : Prop :=
  ∀ target reason, call = .transition target reason → target.permitsTx = true →
    system.world.estop.engaged = false → system.world.txPermitted = false →
    kind ∉ system.world.gateway.currentLatches system.world.estop

/-- A latched fault hides nothing: with transmit authority and a disengaged
emergency stop it is not latched. -/
structure World.LatchHarmless (kind : LinkFaultKind) (world : World) : Prop where
  epoch : world.gateway.linkFaultEpoch ≤ world.estop.epoch
  free : world.estop.engaged = false → world.txPermitted = true →
    kind ∉ world.gateway.currentLatches world.estop

theorem changeState_frame (world : World) (result : Supervisor × TransitionOutcome) :
    (world.changeState result).supervisor = some result.1 ∧
      (world.changeState result).estop = world.estop ∧
      (world.changeState result).gateway.linkFaultEpoch = world.gateway.linkFaultEpoch ∧
      (world.changeState result).gateway.linkFaultLatched = world.gateway.linkFaultLatched := by
  unfold World.changeState
  cases result.2 <;> exact ⟨rfl, rfl, rfl, rfl⟩

theorem currentLatches_congr {left right : Gateway} (estop : EStop)
    (epoch : left.linkFaultEpoch = right.linkFaultEpoch)
    (latched : left.linkFaultLatched = right.linkFaultLatched) :
    left.currentLatches estop = right.currentLatches estop := by
  unfold Gateway.currentLatches
  rw [epoch, latched]

theorem engageNow_frame (world : World) (event : EStopEvent) (nonce : Bytes) :
    (world.engageNow event nonce).estop = world.estop.trigger event world.now nonce ∧
      (world.engageNow event nonce).gateway.linkFaultEpoch = world.gateway.linkFaultEpoch := by
  unfold World.engageNow
  split
  · exact ⟨rfl, rfl⟩
  · split
    · exact ⟨rfl, rfl⟩
    · rename_i supervisor _ _
      obtain ⟨_, estop, epoch, _⟩ := changeState_frame
        { world with estop := world.estop.trigger event world.now nonce }
        (supervisor.triggerFault true World.estopFaultReason world.now)
      exact ⟨estop, epoch⟩

theorem latchHarmless_engageNow {kind : LinkFaultKind} {world : World}
    (epoch : world.gateway.linkFaultEpoch ≤ world.estop.epoch) (event : EStopEvent)
    (nonce : Bytes) : (world.engageNow event nonce).LatchHarmless kind := by
  obtain ⟨estop, sameEpoch⟩ := engageNow_frame world event nonce
  refine ⟨?_, ?_⟩
  · rw [estop, sameEpoch]
    exact epoch
  · intro disengaged
    rw [estop] at disengaged
    cases disengaged

theorem latchHarmless_changeState {kind : LinkFaultKind} {world : World}
    (harmless : world.LatchHarmless kind) (result : Supervisor × TransitionOutcome)
    (granted : world.estop.engaged = false → result.1.isTxPermitted = true →
      world.txPermitted = true ∨ kind ∉ world.gateway.currentLatches world.estop) :
    (world.changeState result).LatchHarmless kind := by
  obtain ⟨supervisor, estop, epoch, latched⟩ := changeState_frame world result
  refine ⟨?_, ?_⟩
  · rw [estop, epoch]
    exact harmless.epoch
  · intro disengaged permitted
    rw [estop] at disengaged
    rw [estop, currentLatches_congr world.estop epoch latched]
    rw [World.txPermitted, supervisor, Option.all_some] at permitted
    rcases granted disengaged permitted with before | free
    · exact harmless.free disengaged before
    · exact free

theorem notifyLinkFault_frame (gateway : Gateway) (kind : LinkFaultKind) (plane : TxPlane) :
    (gateway.notifyLinkFault kind plane).1.linkFaultEpoch = plane.estop.epoch ∧
      ∀ other ∈ (gateway.notifyLinkFault kind plane).1.currentLatches plane.estop,
        other = kind ∨ other ∈ gateway.currentLatches plane.estop := by
  unfold Gateway.notifyLinkFault
  dsimp only
  split
  · refine ⟨rfl, ?_⟩
    intro other member
    simp only [Gateway.currentLatches, ne_eq, not_true_eq_false, if_false] at member
    exact Or.inr member
  · refine ⟨rfl, ?_⟩
    intro other member
    simp only [Gateway.currentLatches, ne_eq, not_true_eq_false, if_false] at member
    rcases List.mem_cons.mp member with own | old
    · exact Or.inl own
    · exact Or.inr old

theorem notifyLinkFault_engages (gateway : Gateway) {kind : LinkFaultKind} {plane : TxPlane}
    (unlatched : kind ∉ gateway.currentLatches plane.estop) :
    (gateway.notifyLinkFault kind plane).2 =
      (!plane.estop.engaged && plane.supervisor.all Supervisor.isTxPermitted) := by
  unfold Gateway.notifyLinkFault
  rw [if_neg unlatched]

theorem notifyNow_engaged {kind : LinkFaultKind} {world : World}
    (harmless : world.LatchHarmless kind) (reason : String) (nonce : Bytes)
    (permitted : (world.notifyNow kind reason nonce).txPermitted = true) :
    (world.notifyNow kind reason nonce).estop.engaged = true := by
  cases decided : (world.gateway.notifyLinkFault kind world.plane).2 with
  | true =>
      simp only [World.notifyNow, decided, if_true]
      rw [(engageNow_frame _ _ _).1]
      rfl
  | false =>
      simp only [World.notifyNow, decided, Bool.false_eq_true, if_false] at permitted ⊢
      by_contra disengaged
      have off : world.estop.engaged = false := by simpa using disengaged
      have unlatched : kind ∉ world.gateway.currentLatches world.plane.estop :=
        harmless.free off permitted
      have engages := notifyLinkFault_engages world.gateway unlatched
      rw [decided] at engages
      change false = (!world.estop.engaged && world.txPermitted) at engages
      change world.txPermitted = true at permitted
      rw [off, permitted] at engages
      cases engages

theorem latchHarmless_notify {kind reported : LinkFaultKind} {world : World}
    (harmless : world.LatchHarmless kind) (reason : String) (nonce : Bytes) :
    (world.notifyNow reported reason nonce).LatchHarmless kind := by
  obtain ⟨epoch, latches⟩ := notifyLinkFault_frame world.gateway reported world.plane
  cases decided : (world.gateway.notifyLinkFault reported world.plane).2 with
  | true =>
      simp only [World.notifyNow, decided, if_true]
      exact latchHarmless_engageNow (Nat.le_of_eq epoch) _ _
  | false =>
      by_cases own : reported = kind
      · subst own
        refine ⟨?_, ?_⟩
        · simp only [World.notifyNow, decided, Bool.false_eq_true, if_false]
          exact Nat.le_of_eq epoch
        · intro disengaged permitted
          rw [notifyNow_engaged harmless reason nonce permitted] at disengaged
          cases disengaged
      · simp only [World.notifyNow, decided, Bool.false_eq_true, if_false]
        refine ⟨Nat.le_of_eq epoch, ?_⟩
        intro disengaged permitted latched
        rcases latches kind latched with same | old
        · exact own same.symm
        · exact harmless.free disengaged permitted old

theorem latchHarmless_reset {kind : LinkFaultKind} {world : World}
    (harmless : world.LatchHarmless kind) (verdict : EStop.ResetVerdict) :
    (world.resetNow verdict).LatchHarmless kind := by
  have order := harmless.epoch
  rcases (world.estop.resetVerify_cases verdict world.now).2 with
    ⟨cleared, _, _, epoch⟩ | ⟨kept, engaged, epoch⟩
  · -- the next epoch has no latches yet
    have next : (world.resetNow verdict).estop.epoch = world.estop.epoch + 1 := by
      simp only [World.resetNow, cleared, if_true]
      exact epoch
    refine ⟨?_, ?_⟩
    · change world.gateway.linkFaultEpoch ≤ _
      omega
    · intro _ _
      have fresh : (world.resetNow verdict).estop.epoch ≠ world.gateway.linkFaultEpoch := by
        omega
      change kind ∉ world.gateway.currentLatches (world.resetNow verdict).estop
      rw [Gateway.currentLatches, if_pos fresh]
      exact List.not_mem_nil
  · have same : (world.resetNow verdict).estop =
        (world.estop.resetVerify verdict world.now).1 := by
      simp only [World.resetNow, kept, if_false]
    refine ⟨?_, ?_⟩
    · change world.gateway.linkFaultEpoch ≤ _
      rw [same]
      omega
    · intro disengaged permitted
      rw [same, engaged] at disengaged
      change kind ∉ world.gateway.currentLatches (world.resetNow verdict).estop
      rw [same, Gateway.currentLatches, epoch]
      exact harmless.free disengaged permitted

theorem clearLinkFault_latches (gateway : Gateway) (cleared : LinkFaultKind) (estop : EStop) :
    ∀ kind ∈ (gateway.clearLinkFault cleared).currentLatches estop,
      kind ∈ gateway.currentLatches estop := by
  intro kind latched
  by_cases current : estop.epoch = gateway.linkFaultEpoch
  · simp only [Gateway.currentLatches, Gateway.clearLinkFault, current, ne_eq, not_true_eq_false,
      if_false] at latched ⊢
    exact (List.mem_filter.mp latched).1
  · simp only [Gateway.currentLatches, Gateway.clearLinkFault, ne_eq, current, not_false_eq_true,
      if_true] at latched
    exact absurd latched List.not_mem_nil

def LinkSystem.Harmless (kind : LinkFaultKind) (system : LinkSystem) : Prop :=
  system.world.LatchHarmless kind

theorem latchHarmless_apply {kind : LinkFaultKind} {system : LinkSystem} {call : LinkCall}
    (harmless : system.world.LatchHarmless kind) (clean : ArmsUnlatched kind system call) :
    (system.apply call).world.LatchHarmless kind := by
  cases call with
  | notify reported reason nonce => exact latchHarmless_notify harmless reason nonce
  | clear other =>
      refine ⟨harmless.epoch, ?_⟩
      intro disengaged permitted latched
      exact harmless.free disengaged permitted
        (clearLinkFault_latches system.world.gateway other system.world.estop kind latched)
  | transition target reason =>
      simp only [LinkSystem.apply, World.transitionNow]
      split
      · exact harmless
      · rename_i supervisor present
        apply latchHarmless_changeState harmless
        intro disengaged permitted
        rcases supervisor.transitionTo_permits system.world.estop.engaged target reason
          system.world.now permitted with before | ⟨permits, _⟩
        · left
          rw [World.txPermitted, present]
          exact before
        · cases authority : system.world.txPermitted with
          | true => exact Or.inl rfl
          | false => exact Or.inr (clean target reason rfl permits disengaged authority)
  | triggerFault reason =>
      simp only [LinkSystem.apply, World.triggerFaultNow]
      split
      · exact harmless
      · rename_i supervisor present
        apply latchHarmless_changeState harmless
        intro _ permitted
        rcases (supervisor.recordFaultEvent system.world.now).transitionTo_permits
          system.world.estop.engaged .fault reason system.world.now permitted with
          before | ⟨permits, _⟩
        · left
          rw [World.txPermitted, present]
          exact before
        · cases permits
  | trigger event nonce => exact latchHarmless_engageNow harmless.epoch event nonce
  | reset verdict => exact latchHarmless_reset harmless verdict
  | tick elapsed => exact ⟨harmless.epoch, harmless.free⟩

end Latches

/-- When no arming happens under a latched fault, every report of it returns
without transmit authority or with the emergency stop engaged. -/
theorem notify_leaves_no_authority (initial : World) (start : initial.Initial)
    (kind : LinkFaultKind) (calls : List LinkCall) (before : LinkSystem)
    (clean : Meets LinkSystem.step (ArmsUnlatched kind) { world := initial, engagements := [] }
      calls)
    (ran : run LinkSystem.step { world := initial, engagements := [] } calls = some before)
    (reason : String) (nonce : Bytes)
    (permitted : (before.apply (.notify kind reason nonce)).world.txPermitted = true) :
    (before.apply (.notify kind reason nonce)).world.estop.engaged = true ∨
      (kind, (before.apply (.notify kind reason nonce)).world.estop.epoch) ∈
        (before.apply (.notify kind reason nonce)).engagements := by
  have fresh : LinkSystem.Harmless kind { world := initial, engagements := [] } := by
    refine ⟨Nat.le_of_eq start.latchEpoch, fun _ _ => ?_⟩
    rw [Gateway.currentLatches, start.latches]
    split <;> exact List.not_mem_nil
  have kept : ∀ (system : LinkSystem) (call : LinkCall) (next : LinkSystem),
      system.Harmless kind → ArmsUnlatched kind system call →
      system.step call = some next → next.Harmless kind := by
    intro system call next harmless arms applied
    cases applied
    exact latchHarmless_apply harmless arms
  have harmless : before.Harmless kind := run_invariant_of_meets kept fresh clean ran
  exact Or.inl (notifyNow_engaged harmless reason nonce permitted)

section Bench

def standaloneLink : LinkSystem where
  world := World.bench [0x123] {} none
  engagements := []

def busOffAndReset : List LinkCall := [.notify .busOff "bus off" [], .reset .granted]

theorem busOffAndReset_isSome :
    (run LinkSystem.step standaloneLink busOffAndReset).isSome = true := by
  decide +kernel

def resetLink : LinkSystem :=
  (run LinkSystem.step standaloneLink busOffAndReset).get busOffAndReset_isSome

/-- The reported fault engages again in the next epoch. -/
theorem notify_leaves_no_authority_standalone :
    (resetLink.apply (.notify .busOff "still off" [])).world.estop.engaged = true ∨
      (LinkFaultKind.busOff,
          (resetLink.apply (.notify .busOff "still off" [])).world.estop.epoch) ∈
        (resetLink.apply (.notify .busOff "still off" [])).engagements :=
  notify_leaves_no_authority (World.bench [0x123] {} none) (World.bench_initial _ _ _) .busOff
    busOffAndReset resetLink
    ⟨nofun, fun _ _ => ⟨nofun, fun _ _ => trivial⟩⟩ (Option.some_get busOffAndReset_isSome).symm
    "still off" [] (by decide +kernel)

def passiveLink : LinkSystem where
  world := World.bench [0x123] {} (some (Supervisor.new .passive true 0))
  engagements := []

def reportThenArm : List LinkCall :=
  [.notify .busOff "bus off" [], .transition .armedTx "operator arm"]

theorem reportThenArm_isSome : (run LinkSystem.step passiveLink reportThenArm).isSome = true := by
  decide +kernel

theorem disarmed_report_hides_fault :
    ¬ ∀ (calls : List LinkCall) (before : LinkSystem) (kind : LinkFaultKind) (reason : String)
        (nonce : Bytes), run LinkSystem.step passiveLink calls = some before →
      (before.apply (.notify kind reason nonce)).world.txPermitted = true →
      (before.apply (.notify kind reason nonce)).world.estop.engaged = true ∨
        (kind, (before.apply (.notify kind reason nonce)).world.estop.epoch) ∈
          (before.apply (.notify kind reason nonce)).engagements := by
  intro always
  have hidden := always reportThenArm
    ((run LinkSystem.step passiveLink reportThenArm).get reportThenArm_isSome) .busOff
    "still off" [] (Option.some_get reportThenArm_isSome).symm (by decide +kernel)
  exact absurd hidden (by decide +kernel)

end Bench

end Ucanlab.Safety
