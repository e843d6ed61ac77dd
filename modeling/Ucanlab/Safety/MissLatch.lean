import Ucanlab.Lib.FrontChain
import Ucanlab.Safety.Fence

/-!
When whitelist misses escalate to the emergency stop: the miss streak against
the times of all misses the gateway has seen.
-/

namespace Ucanlab.Safety

open Ucanlab E2E EventRun FrontChain

def Refusal.isMiss : Refusal → Bool
  | .whitelistViolation _ => true
  | _ => false

def streakRequests (arbitrationId streak : Nat) : List EStopEvent :=
  if streak ≥ whitelistEstopAfter then
    [{ trigger := .unauthorizedPayload
       reason := .whitelistStreak arbitrationId streak }]
  else []

def Gateway.missState (gateway : Gateway) : Nat × Nat :=
  (gateway.whitelistMissStreak, gateway.whitelistLastMissNs)

def RequestsNoPayload (requests : List EStopEvent) : Prop :=
  ∀ event ∈ requests, event.trigger ≠ .unauthorizedPayload

/-- The part of a refusal that concerns misses: it is one, or it leaves the
streak alone and blames no payload. -/
inductive MissOutcome (gateway : Gateway) (now : Nat) (rejection : Rejection) : Prop where
  | miss (arbitrationId : Nat) (refusal : rejection.refusal = .whitelistViolation arbitrationId)
      (recorded : rejection.gateway = gateway.recordMiss now)
      (requests : rejection.requests =
        streakRequests arbitrationId (gateway.recordMiss now).whitelistMissStreak)
  | other (refusal : rejection.refusal.isMiss = false)
      (same : rejection.gateway.missState = gateway.missState)
      (requests : RequestsNoPayload rejection.requests)

section Outcomes

theorem RequestsNoPayload.nil : RequestsNoPayload [] :=
  fun _ member => absurd member List.not_mem_nil

theorem overloadRequests_noPayload (reason : EStopReason) (streak : Nat) (inbound : Bool) :
    RequestsNoPayload (overloadRequests reason streak inbound) := by
  intro event member
  unfold overloadRequests at member
  split at member
  · rw [List.mem_singleton.mp member]
    exact nofun
  · exact absurd member List.not_mem_nil

theorem frameSanity_not_miss {frame : CanFrame} {refusal : Refusal}
    (refused : frameSanity frame = some refusal) : refusal.isMiss = false := by
  unfold frameSanity at refused
  split at refused
  · cases refused
    rfl
  · split at refused
    · cases refused
      rfl
    · split at refused
      · cases refused
        rfl
      · cases refused

theorem txPermission_not_miss {plane : TxPlane} {now : Nat} {refusal : Refusal}
    (refused : txPermission plane now = some refusal) : refusal.isMiss = false := by
  unfold txPermission at refused
  split at refused
  · cases refused
    rfl
  · split at refused
    · cases refused
      rfl
    · split at refused
      · cases refused
        rfl
      · cases refused

theorem readOnlyStage_not_miss {policy : Option ReadOnlyPolicy} {frame : CanFrame}
    {critical : Bool} {now : Nat} {refusal : Refusal}
    (refused : readOnlyStage policy frame critical now = some refusal) :
    refusal.isMiss = false := by
  unfold readOnlyStage at refused
  split at refused
  · cases refused
  · split at refused
    · cases refused
      rfl
    · split at refused
      · cases refused
        rfl
      · cases refused

theorem speedStage_not_miss {channel : SpeedChannel} {now : Nat} {refusal : Refusal}
    {event : EStopEvent} (refused : speedStage channel now = some (refusal, event)) :
    refusal.isMiss = false ∧ event.trigger = .speedInterlockBreach := by
  unfold speedStage at refused
  split at refused
  · cases refused
    exact ⟨rfl, rfl⟩
  · split at refused
    · cases refused
      exact ⟨rfl, rfl⟩
    · cases refused

theorem MissOutcome.quiet (gateway : Gateway) (now : Nat) {refusal : Refusal}
    (kind : refusal.isMiss = false) :
    MissOutcome gateway now { refusal := refusal, gateway := gateway, requests := [] } :=
  .other kind rfl RequestsNoPayload.nil

theorem whitelistStage_outcome {gateway : Gateway} {frame : CanFrame} {now : Nat}
    {rejection : Rejection} (refused : whitelistStage gateway frame now = some rejection) :
    MissOutcome gateway now rejection := by
  unfold whitelistStage at refused
  split at refused
  · cases refused
  · split at refused
    · cases refused
      exact MissOutcome.quiet gateway now rfl
    · split at refused
      · cases refused
      · cases refused
        exact .miss frame.arbitrationId rfl rfl rfl

theorem admission_outcome {digests : Digests} {gateway : Gateway} {plane : TxPlane}
    {clock : Clock} {request : TxRequest} {critical : Bool} {rejection : Rejection}
    (refused : admission digests gateway plane clock request critical = .error rejection) :
    MissOutcome gateway clock.start rejection := by
  unfold admission at refused
  dsimp only at refused
  split at refused
  · rename_i failed
    cases refused
    exact MissOutcome.quiet _ _ (frameSanity_not_miss failed)
  · split at refused
    · rename_i failed
      cases refused
      exact MissOutcome.quiet _ _ (txPermission_not_miss failed)
    · split at refused
      · rename_i failed
        cases refused
        exact MissOutcome.quiet _ _ (readOnlyStage_not_miss failed)
      · split at refused
        · rename_i failed
          cases refused
          exact whitelistStage_outcome failed
        · split at refused
          · cases refused
          · split at refused
            · rename_i failed
              cases refused
              obtain ⟨kind, source⟩ := speedStage_not_miss failed
              refine .other kind rfl ?_
              intro event member
              rw [List.mem_singleton.mp member, source]
              exact nofun
            · split at refused
              · cases refused
                exact MissOutcome.quiet _ _ rfl
              · cases refused

theorem RateFrame.missState {gateway after : Gateway} (frame : RateFrame gateway after) :
    after.missState = gateway.missState := by
  obtain ⟨_, _, _, rfl⟩ := frame
  rfl

theorem sealStage_missState (gateway : Gateway) (frame : CanFrame) :
    (gateway.sealStage frame).1.missState = gateway.missState := by
  obtain ⟨packager, replaced⟩ := sealStage_packager gateway frame
  rw [replaced]
  rfl

theorem RateRefused.outcome {gateway : Gateway} {clock : Clock} {owner : Nat}
    {request : TxRequest} {rejection : Rejection}
    (refused : RateRefused gateway clock owner request rejection) :
    MissOutcome gateway clock.start rejection := by
  have same := refused.frame.missState
  cases refused with
  | category unknown => exact .other rfl same RequestsNoPayload.nil
  | envelope lane known full => exact .other rfl same (overloadRequests_noPayload _ _ _)
  | simulation lane known room misused => exact .other rfl same RequestsNoPayload.nil
  | lane lane known room purpose _ lanePart =>
      cases lanePart with
      | window full => exact .other rfl same (overloadRequests_noPayload _ _ _)
      | bucket _ categorised dry => exact .other rfl same RequestsNoPayload.nil

theorem validateLocked_outcome {digests : Digests} {gateway : Gateway} {plane : TxPlane}
    {clock : Clock} {owner : Nat} {request : TxRequest} {rejection : Rejection}
    (refused : gateway.validateLocked digests plane clock owner request = .error rejection) :
    MissOutcome gateway clock.start rejection := by
  rcases validateLocked_refused_at refused with early | ⟨pending, _, late | stamping⟩
  · exact admission_outcome early
  · exact (rateStage_error late).outcome
  · obtain ⟨charged, charge, counted, cause, rate, failed, rfl⟩ := stamping
    obtain ⟨lane, rateFacts⟩ := rateStage_ok rate
    have stamped := sealStage_missState charged request.frame
    rw [failed] at stamped
    exact .other rfl (stamped.trans rateFacts.frame.missState) RequestsNoPayload.nil

/-- An accepted frame leaves the streak alone. -/
theorem validateLocked_ok_missState {digests : Digests} {gateway after : Gateway}
    {plane : TxPlane} {clock : Clock} {owner : Nat} {request : TxRequest}
    {reservation : Reservation}
    (passed : gateway.validateLocked digests plane clock owner request =
      .ok (after, reservation)) : after.missState = gateway.missState := by
  obtain ⟨facts⟩ := validateLocked_ok passed
  have burned := burn_keeps facts.counted facts.pending clock.burn Gateway.missState
    (fun _ => rfl)
  have stamped := sealStage_missState facts.charged request.frame
  rw [facts.stamped] at stamped
  rw [facts.result, burned]
  exact stamped.trans facts.rate.frame.missState

end Outcomes

section Chains

def Near (later earlier : Nat) : Prop := later ≤ earlier + whitelistMissStreakWindowNs

instance : DecidableRel Near := fun _ _ => Nat.decLe _ _

structure Gateway.Tracks (gateway : Gateway) (newestFirst : List Nat) : Prop where
  streak : gateway.whitelistMissStreak = frontChain Near newestFirst
  last : gateway.whitelistLastMissNs = newestFirst.head?.getD 0
  observed : ∀ time ∈ newestFirst, 0 < time

theorem Gateway.Tracks.of_missState {gateway after : Gateway} {newestFirst : List Nat}
    (tracks : gateway.Tracks newestFirst) (same : after.missState = gateway.missState) :
    after.Tracks newestFirst := by
  obtain ⟨streak, last⟩ := Prod.mk.inj same
  exact ⟨streak.trans tracks.streak, last.trans tracks.last, tracks.observed⟩

/-- Recording a miss extends the chain or starts a new one; the seeded sentinel
stands for no earlier miss only. -/
theorem Gateway.Tracks.recordMiss {gateway : Gateway} {newestFirst : List Nat} {now : Nat}
    (tracks : gateway.Tracks newestFirst) (running : 0 < now) :
    (gateway.recordMiss now).Tracks (now :: newestFirst) := by
  have streak := tracks.streak
  have last := tracks.last
  refine ⟨?_, rfl, List.forall_mem_cons.mpr ⟨running, tracks.observed⟩⟩
  rw [frontChain_cons]
  unfold Gateway.recordMiss decayedMissStreak
  cases newestFirst with
  | nil =>
      change gateway.whitelistMissStreak = 0 at streak
      rw [streak, if_pos (fun _ absent => nomatch absent)]
      simp [frontChain]
  | cons previous rest =>
      have observed : 0 < previous := tracks.observed previous List.mem_cons_self
      change gateway.whitelistLastMissNs = previous at last
      have linked : (∀ next ∈ (previous :: rest).head?, Near now next) ↔
          now ≤ previous + whitelistMissStreakWindowNs := by
        rw [List.head?_cons]
        exact ⟨fun all => all previous rfl, fun near _ same => Option.some.inj same ▸ near⟩
      simp only [last, if_neg (Nat.ne_of_gt observed), linked, streak]
      by_cases near : now ≤ previous + whitelistMissStreakWindowNs
      · rw [if_pos near, if_neg (by omega)]
      · rw [if_neg near, if_pos (by omega)]

end Chains

namespace World

def missedAt (digests : Digests) (world : World) : Event → List Nat
  | .validate _ owner request clock =>
      match world.gateway.validateLocked digests world.plane clock owner request with
      | .error rejection => if rejection.refusal.isMiss then [clock.start] else []
      | .ok _ => []
  | _ => []

def misses (digests : Digests) (initial : World) (events : List Event) : List Nat :=
  reports (World.step digests) (missedAt digests) initial events

def Undisturbed (world : World) : Event → Prop
  | .rebindBus _ => False
  | .rebindWhitelist _ => False
  | .callback index => world.callbacks[index]? ≠ some .estopGateway
  | _ => True

theorem perform_missState {world : World} {event : Event} {op : GatewayOp} (gateway : Gateway)
    (undisturbed : Undisturbed world event) (performs : mayPerform event op)
    (other : op ≠ .estopTriggered) : (gateway.perform op).missState = gateway.missState := by
  cases op with
  | estopTriggered => exact absurd rfl other
  | rebindBus bus now =>
      cases performs
      exact absurd undisturbed id
  | rebindWhitelist change =>
      cases performs
      exact absurd undisturbed id
  | notifyLinkFault kind plane =>
      exact notifyLinkFault_keeps gateway kind plane Gateway.missState (fun _ _ => rfl)
  | _ => rfl

theorem callback_missState {digests : Digests} {world next : World} {index : Nat}
    (undisturbed : Undisturbed world (.callback index))
    (stepped : world.step digests (.callback index) = some next) :
    next.gateway.missState = world.gateway.missState := by
  obtain ⟨scheduled, found, rfl⟩ := step_callback stepped
  cases scheduled with
  | estopSupervisor =>
      rcases runCallback_estopSupervisor
        { world with callbacks := world.callbacks.eraseIdx index } with same | ⟨_, _, moved⟩
      · rw [same]
      · rw [moved]
        rfl
  | estopGateway => exact absurd found undisturbed
  | stateGateway newState => rfl
  | stateWatchdog newState => rfl

theorem missState_step {digests : Digests} {world next : World} {event : Event}
    (undisturbed : Undisturbed world event) (stepped : world.step digests event = some next)
    (other : ∀ id owner request clock, event ≠ .validate id owner request clock) :
    next.gateway.missState = world.gateway.missState := by
  cases kind : isCallStep event with
  | true =>
      cases event with
      | validate id owner request clock => exact absurd rfl (other id owner request clock)
      | guard id =>
          obtain ⟨_, _, _, rfl⟩ := step_guard stepped
          rfl
      | dispatch id =>
          obtain ⟨_, _, _, _, ⟨_, rfl⟩ | ⟨_, rfl⟩⟩ := step_dispatch stepped
          · rfl
          · rfl
      | rollback id =>
          obtain ⟨_, _, _, _, rfl⟩ := step_rollback stepped
          rfl
      | _ => cases kind
  | false =>
      by_cases scheduled : ∃ index, event = .callback index
      · obtain ⟨index, rfl⟩ := scheduled
        exact callback_missState undisturbed stepped
      · obtain ⟨ops, performed, each⟩ := step_performs stepped kind
        rw [performed]
        apply performAll_keeps ops Gateway.missState
        intro gateway op member
        apply perform_missState gateway undisturbed (each op member)
        rintro rfl
        exact scheduled (each _ member)

structure Counts (past : List Nat) (world : World) : Prop where
  running : 0 < world.now
  tracks : world.gateway.Tracks past.reverse

theorem missedAt_eq_nil (digests : Digests) (world : World) {event : Event}
    (other : ∀ id owner request clock, event ≠ .validate id owner request clock) :
    missedAt digests world event = [] := by
  cases event with
  | validate id owner request clock => exact absurd rfl (other id owner request clock)
  | _ => rfl

theorem missedAt_error {digests : Digests} {world : World} {owner : Nat} {request : TxRequest}
    {clock : Clock} {rejection : Rejection} (id : Nat)
    (refused : world.gateway.validateLocked digests world.plane clock owner request =
      .error rejection) :
    missedAt digests world (.validate id owner request clock) =
      if rejection.refusal.isMiss then [clock.start] else [] := by
  simp only [missedAt, refused]

theorem missedAt_ok {digests : Digests} {world : World} {owner : Nat} {request : TxRequest}
    {clock : Clock} {accepted : Gateway × Reservation} (id : Nat)
    (passed : world.gateway.validateLocked digests world.plane clock owner request =
      .ok accepted) :
    missedAt digests world (.validate id owner request clock) = [] := by
  simp only [missedAt, passed]

theorem counts_step {digests : Digests} {world next : World} {event : Event} {past : List Nat}
    (counts : Counts past world) (undisturbed : Undisturbed world event)
    (stepped : world.step digests event = some next) :
    Counts (past ++ missedAt digests world event) next := by
  refine ⟨Nat.lt_of_lt_of_le counts.running (now_step stepped), ?_⟩
  by_cases locked : ∃ id owner request clock, event = .validate id owner request clock
  · obtain ⟨id, owner, request, clock, rfl⟩ := locked
    obtain ⟨_, order, ⟨rejection, refused, rfl⟩ | ⟨gateway, reservation, passed, rfl⟩⟩ :=
      step_validate stepped
    · rw [missedAt_error id refused]
      cases validateLocked_outcome refused with
      | miss arbitrationId kind recorded requests =>
          have missed : rejection.refusal.isMiss = true := by
            rw [kind]
            rfl
          rw [if_pos missed, List.reverse_append]
          change rejection.gateway.Tracks (clock.start :: past.reverse)
          rw [recorded]
          exact counts.tracks.recordMiss (Nat.lt_of_lt_of_le counts.running order)
      | other kind same requests =>
          rw [kind, if_neg Bool.false_ne_true, List.append_nil]
          exact counts.tracks.of_missState same
    · rw [missedAt_ok id passed, List.append_nil]
      exact counts.tracks.of_missState (validateLocked_ok_missState passed)
  · have other : ∀ id owner request clock, event ≠ .validate id owner request clock :=
      fun id owner request clock same => locked ⟨id, owner, request, clock, same⟩
    rw [missedAt_eq_nil digests world other, List.append_nil]
    exact counts.tracks.of_missState (missState_step undisturbed stepped other)

theorem counts_run {digests : Digests} {initial world : World} {events : List Event}
    (fresh : initial.gateway.missState = (0, 0)) (running : 0 < initial.now)
    (undisturbed : Meets (World.step digests) Undisturbed initial events)
    (ran : run (World.step digests) initial events = some world) :
    Counts (misses digests initial events) world := by
  obtain ⟨streak, last⟩ := Prod.mk.inj fresh
  have start : Counts (misses digests initial []) initial :=
    ⟨running, streak, last, fun _ member => absurd member List.not_mem_nil⟩
  have extend : ∀ past state event next, run (World.step digests) initial past = some state →
      Counts (misses digests initial past) state → Undisturbed state event →
      state.step digests event = some next →
      Counts (misses digests initial (past ++ [event])) next := by
    intro past state event next pastRan counts calm stepped
    unfold misses
    rw [reports_append_singleton pastRan]
    exact counts_step counts calm stepped
  exact @run_history_invariant_of_meets _ _ _ _
    (fun past state => Counts (misses digests initial past) state) _ _ _ start extend undisturbed
    ran

end World

theorem exists_request_iff {arbitrationId streak : Nat} :
    (∃ event ∈ streakRequests arbitrationId streak, event.trigger = .unauthorizedPayload) ↔
      whitelistEstopAfter ≤ streak := by
  unfold streakRequests
  constructor
  · rintro ⟨event, member, _⟩
    split at member
    · assumption
    · exact absurd member List.not_mem_nil
  · intro enough
    rw [if_pos enough]
    exact ⟨_, List.mem_singleton.mpr rfl, rfl⟩

theorem streak_iff_chain {gateway : Gateway} {past : List Nat}
    (tracks : gateway.Tracks past.reverse) :
    whitelistEstopAfter ≤ gateway.whitelistMissStreak ↔
      ∃ chain, chain <:+ past ∧
        chain.IsChain (fun earlier later => later ≤ earlier + whitelistMissStreakWindowNs) ∧
        whitelistEstopAfter ≤ chain.length := by
  rw [tracks.streak, le_frontChain_iff]
  constructor
  · rintro ⟨chain, front, isChain, long⟩
    refine ⟨chain.reverse, ?_, List.isChain_reverse.mpr isChain, ?_⟩
    · rw [← List.reverse_prefix, List.reverse_reverse]
      exact front
    · rw [List.length_reverse]
      exact long
  · rintro ⟨chain, back, isChain, long⟩
    refine ⟨chain.reverse, List.reverse_prefix.mpr back, List.isChain_reverse.mpr isChain, ?_⟩
    rw [List.length_reverse]
    exact long

/-- In a run without rebinds and resets, a call requests the emergency stop over
its payload exactly when it misses the whitelist and completes a chain of five
misses, each in the window of the one before it. -/
theorem whitelist_latch (digests : Digests) (initial world next : World) (events : List Event)
    (id owner : Nat) (request : TxRequest) (clock : Clock)
    (fresh : initial.gateway.missState = (0, 0)) (running : 0 < initial.now)
    (undisturbed : Meets (World.step digests) World.Undisturbed initial events)
    (ran : run (World.step digests) initial events = some world)
    (stepped : world.step digests (.validate id owner request clock) = some next) :
    ∃ requests, next.parked = world.parked ++ requests ∧
      ((∃ event ∈ requests, event.trigger = .unauthorizedPayload) ↔
        World.missedAt digests world (.validate id owner request clock) = [clock.start] ∧
          ∃ chain, chain <:+ World.misses digests initial events ++ [clock.start] ∧
            chain.IsChain (fun earlier later => later ≤ earlier + whitelistMissStreakWindowNs) ∧
            whitelistEstopAfter ≤ chain.length) := by
  have counts := World.counts_run fresh running undisturbed ran
  have silent : ∀ {requests : List EStopEvent}, RequestsNoPayload requests →
      ¬ ∃ event ∈ requests, event.trigger = .unauthorizedPayload :=
    fun none ⟨event, member, blamed⟩ => none event member blamed
  obtain ⟨_, order, ⟨rejection, refused, rfl⟩ | ⟨gateway, reservation, passed, rfl⟩⟩ :=
    World.step_validate stepped
  · refine ⟨rejection.requests, rfl, ?_⟩
    rw [World.missedAt_error id refused]
    cases validateLocked_outcome refused with
    | miss arbitrationId kind recorded requests =>
        have missed : rejection.refusal.isMiss = true := by
          rw [kind]
          rfl
        have tracks := counts.tracks.recordMiss (Nat.lt_of_lt_of_le counts.running order)
        rw [← List.reverse_concat] at tracks
        rw [requests, exists_request_iff, if_pos missed, streak_iff_chain tracks]
        exact ⟨fun chained => ⟨rfl, chained⟩, And.right⟩
    | other kind same requests =>
        rw [kind, if_neg Bool.false_ne_true]
        exact ⟨fun blamed => absurd blamed (silent requests), fun both => nomatch both.1⟩
  · refine ⟨[], (List.append_nil _).symm, ?_⟩
    rw [World.missedAt_ok id passed]
    exact ⟨fun blamed => absurd blamed (silent RequestsNoPayload.nil),
      fun both => nomatch both.1⟩

section Bench

def strayFrame : CanFrame where
  channelId := "can0"
  arbitrationId := 0x124
  dlc := 1
  data := [0x01]
  valid := by decide

def strayRequest : TxRequest where
  frame := strayFrame

def probe (id now : Nat) : Event := .validate id 0 strayRequest (Clock.at now)

def runningBench : World := { World.bench [0x123] {} none with now := 1 }

def probes : List Event :=
  [probe 0 1, probe 1 1, .validate 2 0 { frame := plainFrame } (Clock.at 2), probe 3 1000000001,
    probe 4 2000000001]

theorem probes_completes :
    ((run (World.step nullDigests) runningBench probes).bind
      (fun world => world.step nullDigests (probe 5 3000000001))).isSome = true := by
  decide +kernel

theorem probes_isSome : (run (World.step nullDigests) runningBench probes).isSome = true := by
  obtain ⟨_, ends⟩ := Option.isSome_iff_exists.mp probes_completes
  obtain ⟨world, ran, _⟩ := Option.bind_eq_some_iff.mp ends
  rw [ran]
  rfl

def probedWorld : World := (run (World.step nullDigests) runningBench probes).get probes_isSome

theorem probedWorld_steps :
    (probedWorld.step nullDigests (probe 5 3000000001)).isSome = true := by
  have steps := probes_completes
  rw [(Option.some_get probes_isSome).symm, Option.bind_some] at steps
  exact steps

theorem probes_undisturbed :
    Meets (World.step nullDigests) World.Undisturbed runningBench probes :=
  ⟨trivial, fun _ _ => ⟨trivial, fun _ _ => ⟨trivial, fun _ _ => ⟨trivial, fun _ _ =>
    ⟨trivial, fun _ _ => trivial⟩⟩⟩⟩⟩

/-- The fifth probe, a whole window after the fourth. -/
theorem whitelist_latch_fifth :
    ∃ requests,
      ((probedWorld.step nullDigests (probe 5 3000000001)).get probedWorld_steps).parked =
          probedWorld.parked ++ requests ∧
        ((∃ event ∈ requests, event.trigger = .unauthorizedPayload) ↔
          World.missedAt nullDigests probedWorld (probe 5 3000000001) = [3000000001] ∧
            ∃ chain, chain <:+ World.misses nullDigests runningBench probes ++ [3000000001] ∧
              chain.IsChain (fun earlier later => later ≤ earlier + whitelistMissStreakWindowNs) ∧
              whitelistEstopAfter ≤ chain.length) :=
  whitelist_latch nullDigests runningBench probedWorld _ probes 5 0
    strayRequest (Clock.at 3000000001) rfl Nat.one_pos
    probes_undisturbed (Option.some_get probes_isSome).symm (Option.some_get probedWorld_steps).symm

end Bench

end Ucanlab.Safety
