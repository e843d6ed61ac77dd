import Ucanlab.Safety.Fence

/-!
What is checked against what is sent: the policy stages read the submitted
frame, the bus gets the sealed one.
-/

namespace Ucanlab.Safety

open Ucanlab E2E EventRun

/-- The bytes counter, checksum and padding leave, with the counter the stream
is at; nothing for a frame without a profile. -/
def Gateway.sealedBytes (gateway : Gateway) (frame : CanFrame) : Option Bytes :=
  match gateway.e2ePackager, gateway.e2eProfiles frame.arbitrationId with
  | some packager, some profile =>
      match sealPayload frame profile
          (packager.nextCounter (frame.channelId, frame.arbitrationId) profile).toNat with
      | .ok (bytes, _) => some bytes
      | .error _ => none
  | _, _ => none

/-- The sealed bytes are no critical request, unless the call is treated as
critical anyway. -/
def SealingKeepsCriticality (gateway : Gateway) (request : TxRequest) : Prop :=
  ∀ bytes, gateway.sealedBytes request.frame = some bytes →
    isTreatedCritical gateway request = true ∨
      bytesAreCritical gateway.whitelistConfig.whitelist request.frame.arbitrationId
        request.frame.isExtended request.frame.isFd bytes = false

def SealingKeepsPolicy (gateway : Gateway) (request : TxRequest) (now : Nat) : Prop :=
  ∀ bytes policy, gateway.sealedBytes request.frame = some bytes →
    gateway.readOnlyPolicy = some policy →
    policy.violationOf request.frame.arbitrationId request.frame.isExtended request.frame.isFd
      bytes now = none

/-- The frame that is sent, when critical, passed the interlock and the dual
confirmation, and the policy in force admits it. -/
structure CheckedAsSent (digests : Digests) (gateway : Gateway) (clock : Clock)
    (request : TxRequest) (reservation : Reservation) : Prop where
  critical : frameIsCritical gateway.whitelistConfig.whitelist reservation.frame = true →
    reservation.isCriticalCommand = true ∧ speedStage gateway.speed clock.start = none ∧
      ∃ pending, confirmationStage digests gateway request clock.verify = .ok pending
  policy : ∀ policy, gateway.readOnlyPolicy = some policy →
    policy.violation reservation.frame clock.start = none

theorem readOnlyStage_none {policy : Option ReadOnlyPolicy} {frame : CanFrame} {critical : Bool}
    {now : Nat} (admitted : readOnlyStage policy frame critical now = none) :
    ∀ active, policy = some active → active.violation frame now = none ∧ critical = false := by
  rintro active rfl
  unfold readOnlyStage at admitted
  dsimp only at admitted
  split at admitted
  · cases admitted
  · rename_i clean
    refine ⟨clean, ?_⟩
    cases critical with
    | false => rfl
    | true => cases admitted

theorem frameIsCritical_of_sameStream {frame sealed : CanFrame} (whitelist : Whitelist)
    (same : SameStream frame sealed) :
    frameIsCritical whitelist sealed =
      bytesAreCritical whitelist frame.arbitrationId frame.isExtended frame.isFd sealed.data := by
  unfold frameIsCritical
  rw [same.arbitrationId, same.isExtended, same.isFd]

theorem violation_of_sameStream {frame sealed : CanFrame} (policy : ReadOnlyPolicy) (now : Nat)
    (same : SameStream frame sealed) :
    policy.violation sealed now =
      policy.violationOf frame.arbitrationId frame.isExtended frame.isFd sealed.data now := by
  unfold ReadOnlyPolicy.violation
  rw [same.arbitrationId, same.isExtended, same.isFd]

theorem sealStage_bytes {gateway : Gateway} {frame sealed : CanFrame}
    (passed : (gateway.sealStage frame).2 = .ok sealed) :
    (gateway.sealedBytes frame = none ∧ sealed = frame) ∨
      (gateway.sealedBytes frame = some sealed.data ∧ SameStream frame sealed) := by
  unfold Gateway.sealStage at passed
  split at passed
  · rename_i packager profile present registered
    right
    change sealFrame frame profile
      (packager.nextCounter (frame.channelId, frame.arbitrationId) profile).toNat = .ok sealed
      at passed
    obtain ⟨same, dlc, payload⟩ := sealFrame_ok passed
    refine ⟨?_, same⟩
    simp only [Gateway.sealedBytes, present, registered, payload]
  · rename_i unprofiled
    left
    cases passed
    refine ⟨?_, rfl⟩
    unfold Gateway.sealedBytes
    split
    · rename_i packager profile present registered
      exact absurd registered (unprofiled packager profile present)
    · rfl

theorem Validated.critical_iff {digests : Digests} {gateway after : Gateway} {plane : TxPlane}
    {clock : Clock} {owner : Nat} {request : TxRequest} {reservation : Reservation}
    (facts : Validated digests gateway plane clock owner request after reservation) :
    (frameIsCritical gateway.whitelistConfig.whitelist reservation.frame = true →
        isTreatedCritical gateway request = true) ↔ SealingKeepsCriticality gateway request := by
  unfold SealingKeepsCriticality
  rcases sealStage_bytes facts.sealed with ⟨nothing, same⟩ | ⟨written, same⟩
  · rw [nothing, same]
    constructor
    · intro _ bytes impossible
      cases impossible
    · intro _ critical
      unfold isTreatedCritical
      rw [critical, Bool.or_true]
  · rw [written, frameIsCritical_of_sameStream _ same]
    constructor
    · intro implied bytes same
      cases same
      cases verdict : bytesAreCritical gateway.whitelistConfig.whitelist
          request.frame.arbitrationId request.frame.isExtended request.frame.isFd
          reservation.frame.data with
      | false => exact Or.inr rfl
      | true => exact Or.inl (implied verdict)
    · intro kept critical
      rcases kept reservation.frame.data rfl with treated | plain
      · exact treated
      · rw [critical] at plain
        cases plain

theorem Validated.policy_iff {digests : Digests} {gateway after : Gateway} {plane : TxPlane}
    {clock : Clock} {owner : Nat} {request : TxRequest} {reservation : Reservation}
    (facts : Validated digests gateway plane clock owner request after reservation) :
    (∀ policy, gateway.readOnlyPolicy = some policy →
        policy.violation reservation.frame clock.start = none) ↔
      SealingKeepsPolicy gateway request clock.start := by
  unfold SealingKeepsPolicy
  rcases sealStage_bytes facts.sealed with ⟨nothing, same⟩ | ⟨written, same⟩
  · rw [nothing, same]
    constructor
    · intro _ bytes _ impossible
      cases impossible
    · intro _ policy installed
      exact (readOnlyStage_none facts.admitted.policy policy installed).1
  · rw [written]
    constructor
    · intro admitted bytes policy same' installed
      cases same'
      rw [← violation_of_sameStream policy clock.start same]
      exact admitted policy installed
    · intro kept policy installed
      rw [violation_of_sameStream policy clock.start same]
      exact kept reservation.frame.data policy rfl installed

theorem Validated.checkedAsSent_iff {digests : Digests} {gateway after : Gateway} {plane : TxPlane}
    {clock : Clock} {owner : Nat} {request : TxRequest} {reservation : Reservation}
    (facts : Validated digests gateway plane clock owner request after reservation) :
    CheckedAsSent digests gateway clock request reservation ↔
      SealingKeepsCriticality gateway request ∧
        SealingKeepsPolicy gateway request clock.start := by
  rw [← facts.critical_iff, ← facts.policy_iff]
  constructor
  · intro checked
    refine ⟨fun critical => ?_, checked.policy⟩
    rw [← facts.critical]
    exact (checked.critical critical).1
  · rintro ⟨implied, admitted⟩
    refine ⟨fun critical => ?_, admitted⟩
    have treated := implied critical
    exact ⟨facts.critical.trans treated, facts.admitted.interlock treated, facts.pending,
      facts.admitted.confirmed treated⟩

/-- A frame that reaches the bus was checked as it is sent exactly when sealing
kept the verdicts of the submitted one. -/
theorem sent_frame_checked_iff (digests : Digests) (world validated before after : World)
    (middle : List Event) (id owner : Nat) (request : TxRequest) (clock : Clock)
    (accepted : world.step digests (.validate id owner request clock) = some validated)
    (own : ∀ event ∈ middle, ∀ owner request clock, event ≠ .validate id owner request clock)
    (ran : run (World.step digests) validated middle = some before)
    (dispatched : before.step digests (.dispatch id) = some after)
    (sent : after.wire ≠ before.wire) :
    ∃ transmission, after.wire = transmission :: before.wire ∧
      (CheckedAsSent digests world.gateway clock request transmission.reservation ↔
        SealingKeepsCriticality world.gateway request ∧
          SealingKeepsPolicy world.gateway request clock.start) := by
  rcases World.wire_step dispatched with same | ⟨_, reservation, event, call, pending, rfl, rest⟩
  · exact absurd same sent
  · cases event
    obtain ⟨facts⟩ := validateLocked_ok
      (World.carried_since_validate accepted own ran pending)
    exact ⟨_, rest.2.2, facts.checkedAsSent_iff⟩

section Bench

def headerProfile : E2EProfileConfig where
  profileType := .toyota
  crcByteOffset := 0
  counterByteOffset := 1
  includeCanIdInCrc := false
  includeDlcInCrc := false
  valid := by decide

def sealBench : World :=
  World.bench [0x7E0]
    { e2ePackager := some Packager.fresh
      e2eProfiles := fun id => if id = 0x7E0 then some headerProfile else none } none

def statusFrame : CanFrame where
  channelId := "can0"
  arbitrationId := 0x7E0
  dlc := 8
  data := [0x00, 0x10, 0x13, 0x00, 0x00, 0x00, 0x00, 0x00]
  valid := by decide

def statusValidate : Event := .validate 0 0 { frame := statusFrame } (Clock.at 1)

theorem statusFrame_validates : (sealBench.step nullDigests statusValidate).isSome = true := by
  decide +kernel

def statusValidated : World := (sealBench.step nullDigests statusValidate).get statusFrame_validates

theorem statusFrame_clears :
    (run (World.step nullDigests) statusValidated [.guard 0]).isSome = true := by
  decide +kernel

def statusCleared : World :=
  (run (World.step nullDigests) statusValidated [.guard 0]).get statusFrame_clears

theorem statusFrame_dispatches : (statusCleared.step nullDigests (.dispatch 0)).isSome = true := by
  decide +kernel

theorem sent_frame_checked_iff_status :
    ∃ transmission,
      ((statusCleared.step nullDigests (.dispatch 0)).get statusFrame_dispatches).wire =
          transmission :: statusCleared.wire ∧
        (CheckedAsSent nullDigests sealBench.gateway (Clock.at 1) { frame := statusFrame }
            transmission.reservation ↔
          SealingKeepsCriticality sealBench.gateway { frame := statusFrame } ∧
            SealingKeepsPolicy sealBench.gateway { frame := statusFrame } (Clock.at 1).start) :=
  sent_frame_checked_iff nullDigests sealBench statusValidated statusCleared _ [.guard 0] 0 0
    { frame := statusFrame } (Clock.at 1) (Option.some_get statusFrame_validates).symm
    (fun event member owner request clock same => by
      rw [List.mem_singleton.mp member] at same
      cases same)
    (Option.some_get statusFrame_clears).symm (Option.some_get statusFrame_dispatches).symm
    (fun same => absurd (congrArg List.length same) (by decide +kernel))

/-- No diagnostic request as submitted; the checksum turns the first byte into
the header of a two-byte Single Frame. -/
def disguisedSession : CanFrame where
  channelId := "can0"
  arbitrationId := 0x7E0
  dlc := 8
  data := [0x20, 0x10, 0xF2, 0x00, 0x00, 0x00, 0x00, 0x00]
  valid := by decide

def disguisedSend : List Event :=
  [.validate 0 0 { frame := disguisedSession } (Clock.at 1), .guard 0, .dispatch 0]

theorem sealing_makes_critical :
    ¬ ∀ (world validated before after : World) (middle : List Event) (id owner : Nat)
        (request : TxRequest) (clock : Clock),
      world.step nullDigests (.validate id owner request clock) = some validated →
      (∀ event ∈ middle, ∀ owner request clock, event ≠ .validate id owner request clock) →
      run (World.step nullDigests) validated middle = some before →
      before.step nullDigests (.dispatch id) = some after → after.wire ≠ before.wire →
      ∃ transmission, after.wire = transmission :: before.wire ∧
        CheckedAsSent nullDigests world.gateway clock request transmission.reservation := by
  intro always
  have sends : (run (World.step nullDigests) sealBench disguisedSend).map
      (fun world => world.wire.map (fun transmission =>
        (frameIsCritical sealBench.gateway.whitelistConfig.whitelist transmission.reservation.frame,
          transmission.reservation.isCriticalCommand))) = some [(true, false)] := by
    decide +kernel
  obtain ⟨after, ran, wire⟩ := Option.map_eq_some_iff.mp sends
  obtain ⟨validated, accepted, guardRan⟩ := run_cons_some ran
  obtain ⟨cleared, guarded, dispatchRan⟩ := run_cons_some guardRan
  obtain ⟨last, dispatched, done⟩ := run_cons_some dispatchRan
  cases done
  have silent : cleared.wire = [] := by
    rcases World.wire_step guarded with same | ⟨_, _, event, _⟩
    · rcases World.wire_step accepted with earlier | ⟨_, _, event, _⟩
      · rw [same, earlier]
        rfl
      · cases event
    · cases event
  obtain ⟨transmission, sent, checked⟩ := always sealBench validated cleared after [.guard 0] 0 0
    { frame := disguisedSession } (Clock.at 1) accepted
    (fun event member owner request clock same => by
      rw [List.mem_singleton.mp member] at same
      cases same)
    (run_cons_of_step [] guarded) dispatched
    (fun same => by
      rw [same, silent] at wire
      cases wire)
  rw [sent, silent, List.map_singleton] at wire
  obtain ⟨critical, untreated⟩ := Prod.mk.inj (List.singleton_inj.mp wire)
  rw [(checked.critical critical).1] at untreated
  cases untreated

end Bench

end Ucanlab.Safety
