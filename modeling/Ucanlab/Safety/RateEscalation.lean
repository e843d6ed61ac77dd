import Ucanlab.Safety.Fence

/-!
When overload escalates to the emergency stop: the two overload streaks against
the rejections the log has seen since the last admitted frame.
-/

namespace Ucanlab.Safety

open Ucanlab E2E EventRun

def LogEntry.unadmitted (entry : LogEntry) : Bool := entry.outcome != .admitted

def LogEntry.countsFor (limit : Refusal) (entry : LogEntry) : Bool :=
  !entry.inboundTriggered && entry.outcome == .refused limit

/-- The rejections of application frames by this limit since the last admitted
frame; the log is newest first. -/
def rejections (limit : Refusal) (log : List LogEntry) : Nat :=
  (log.takeWhile LogEntry.unadmitted).countP (LogEntry.countsFor limit)

/-- The limit whose violation an engagement reports. -/
def EStopReason.limit : EStopReason → Option Refusal
  | .rateOverload _ => some .rateExceeded
  | .envelopeOverload _ => some .envelopeExceeded
  | _ => none

/-- No response to inbound traffic meets a full window, and no frame of another
lane is accepted during an overload of the default lane. -/
structure Unbaited (digests : Digests) (world : World) (event : Event) : Prop where
  inbound : ∀ id owner request clock pending lane,
    event = .validate id owner request clock →
    Admitted digests world.gateway world.plane clock request
      (isTreatedCritical world.gateway request) pending →
    request.inboundTriggered = true → Lane.ofCategory request.budgetCategory = some lane →
    world.gateway.envelopeFull clock.start = false ∧
      (lane = .default → world.gateway.laneFull clock.start = false)
  lanes : ∀ id owner request clock accepted,
    event = .validate id owner request clock →
    world.gateway.validateLocked digests world.plane clock owner request = .ok accepted →
    Lane.ofCategory request.budgetCategory ≠ some .default →
    world.gateway.rateOverloadStreak = 0

theorem rejections_cons (limit : Refusal) {entry : LogEntry} (log : List LogEntry)
    (unadmitted : entry.unadmitted = true) :
    rejections limit (entry :: log) =
      rejections limit log + if entry.countsFor limit then 1 else 0 := by
  unfold rejections
  rw [List.takeWhile_cons_of_pos unadmitted, List.countP_cons]

theorem rejections_other (limit : Refusal) {entry : LogEntry} (log : List LogEntry)
    (unadmitted : entry.unadmitted = true) :
    rejections limit log ≤ rejections limit (entry :: log) := by
  rw [rejections_cons limit log unadmitted]
  exact Nat.le_add_right _ _

theorem rejections_refused (limit : Refusal) {entry : LogEntry} (log : List LogEntry)
    (application : entry.inboundTriggered = false) (refused : entry.outcome = .refused limit) :
    rejections limit (entry :: log) = rejections limit log + 1 := by
  have unadmitted : entry.unadmitted = true := by
    rw [LogEntry.unadmitted, refused]
    rfl
  have counted : entry.countsFor limit = true := by
    rw [LogEntry.countsFor, application, refused, beq_self_eq_true]
    rfl
  rw [rejections_cons limit log unadmitted, if_pos counted]

structure Gateway.StreaksBacked (gateway : Gateway) (log : List LogEntry) : Prop where
  rate : gateway.rateOverloadStreak ≤ rejections .rateExceeded log
  total : gateway.totalOverloadStreak ≤ rejections .envelopeExceeded log

theorem Gateway.StreaksBacked.cons {gateway after : Gateway} {log : List LogEntry}
    {entry : LogEntry} (backed : gateway.StreaksBacked log)
    (unadmitted : entry.unadmitted = true)
    (rate : after.rateOverloadStreak ≤ gateway.rateOverloadStreak)
    (total : after.totalOverloadStreak ≤ gateway.totalOverloadStreak) :
    after.StreaksBacked (entry :: log) :=
  ⟨Nat.le_trans rate (Nat.le_trans backed.rate (rejections_other _ log unadmitted)),
    Nat.le_trans total (Nat.le_trans backed.total (rejections_other _ log unadmitted))⟩

def RequestsBacked (requests : List EStopEvent) (log : List LogEntry) : Prop :=
  ∀ event ∈ requests, event.trigger = .rateLimitOverflow →
    ∃ limit, event.reason.limit = some limit ∧ rateEstopAfter ≤ rejections limit log

theorem RequestsBacked.nil (log : List LogEntry) : RequestsBacked [] log :=
  fun _ member => absurd member List.not_mem_nil

theorem overloadRequests_backed {reason : EStopReason} {streak : Nat} {inbound : Bool}
    {limit : Refusal} {log : List LogEntry} (reported : reason.limit = some limit)
    (bound : streak ≤ rejections limit log) :
    RequestsBacked (overloadRequests reason streak inbound) log := by
  intro event member _
  unfold overloadRequests at member
  split at member
  · rename_i sustained
    rw [List.mem_singleton.mp member]
    exact ⟨limit, reported, Nat.le_trans sustained.1 bound⟩
  · exact absurd member List.not_mem_nil

theorem sealStage_streaks (gateway : Gateway) (frame : CanFrame) :
    (gateway.sealStage frame).1.rateOverloadStreak = gateway.rateOverloadStreak ∧
      (gateway.sealStage frame).1.totalOverloadStreak = gateway.totalOverloadStreak := by
  obtain ⟨packager, replaced⟩ := sealStage_packager gateway frame
  rw [replaced]
  exact ⟨rfl, rfl⟩

theorem LaneCharged.streaks {gateway after : Gateway} {clock : Clock} {owner : Nat} {lane : Lane}
    {meter : Meter} (charged : LaneCharged gateway clock owner lane after meter) :
    after.totalOverloadStreak = gateway.totalOverloadStreak ∧
      after.rateOverloadStreak = if lane = .default then 0 else gateway.rateOverloadStreak := by
  cases charged with
  | window room => exact ⟨rfl, rfl⟩
  | bucket _ categorised level =>
      rw [if_neg categorised]
      exact ⟨rfl, rfl⟩

theorem RateCharged.streaks {gateway after : Gateway} {clock : Clock} {owner : Nat}
    {request : TxRequest} {charge : Charge} {lane : Lane}
    (charged : RateCharged gateway clock owner request after charge lane) :
    after.totalOverloadStreak = 0 ∧
      after.rateOverloadStreak = if lane = .default then 0 else gateway.rateOverloadStreak :=
  charged.lane.streaks

theorem RateRefused.backed {gateway : Gateway} {clock : Clock} {owner : Nat} {request : TxRequest}
    {rejection : Rejection} {log : List LogEntry} {entry : LogEntry}
    (refused : RateRefused gateway clock owner request rejection)
    (calm : request.inboundTriggered = true → ∀ lane,
      Lane.ofCategory request.budgetCategory = some lane →
      gateway.envelopeFull clock.start = false ∧
        (lane = .default → gateway.laneFull clock.start = false))
    (backed : gateway.StreaksBacked log)
    (inbound : entry.inboundTriggered = request.inboundTriggered)
    (outcome : entry.outcome = .refused rejection.refusal) :
    rejection.gateway.StreaksBacked (entry :: log) ∧
      RequestsBacked rejection.requests (entry :: log) := by
  have unadmitted : entry.unadmitted = true := by
    rw [LogEntry.unadmitted, outcome]
    rfl
  have application : request.inboundTriggered = false → entry.inboundTriggered = false :=
    fun own => inbound.trans own
  have rateBound := backed.rate
  have totalBound := backed.total
  cases refused with
  | category unknown =>
      exact ⟨backed.cons unadmitted (Nat.le_refl _) (Nat.le_refl _), RequestsBacked.nil _⟩
  | envelope lane known full =>
      have own : request.inboundTriggered = false := by
        by_contra baited
        have roomy := (calm (by simpa using baited) lane known).1
        rw [roomy] at full
        cases full
      have grown := rejections_refused .envelopeExceeded log (application own) outcome
      have kept := rejections_other .rateExceeded log unadmitted
      refine ⟨⟨Nat.le_trans rateBound kept, ?_⟩, overloadRequests_backed rfl ?_⟩
      · change gateway.totalOverloadStreak + 1 ≤ _
        omega
      · change gateway.totalOverloadStreak + 1 ≤ _
        omega
  | simulation lane known room misused =>
      exact ⟨backed.cons unadmitted (Nat.le_refl _) (Nat.zero_le _), RequestsBacked.nil _⟩
  | lane lane known room purpose _ lanePart =>
      cases lanePart with
      | window full =>
          have own : request.inboundTriggered = false := by
            by_contra baited
            have roomy := (calm (by simpa using baited) .default known).2 rfl
            change gateway.laneFull clock.start = true at full
            rw [roomy] at full
            cases full
          have grown := rejections_refused .rateExceeded log (application own) outcome
          refine ⟨⟨?_, Nat.zero_le _⟩, overloadRequests_backed rfl ?_⟩
          · change gateway.rateOverloadStreak + 1 ≤ _
            omega
          · change gateway.rateOverloadStreak + 1 ≤ _
            omega
      | bucket _ categorised dry =>
          exact ⟨backed.cons unadmitted (Nat.le_refl _) (Nat.zero_le _), RequestsBacked.nil _⟩

theorem validateLocked_error_backed {digests : Digests} {world : World} {clock : Clock}
    {owner id : Nat} {request : TxRequest} {rejection : Rejection} {log : List LogEntry}
    {entry : LogEntry} (unbaited : Unbaited digests world (.validate id owner request clock))
    (refused : world.gateway.validateLocked digests world.plane clock owner request =
      .error rejection)
    (backed : world.gateway.StreaksBacked log)
    (inbound : entry.inboundTriggered = request.inboundTriggered)
    (outcome : entry.outcome = .refused rejection.refusal) :
    rejection.gateway.StreaksBacked (entry :: log) ∧
      RequestsBacked rejection.requests (entry :: log) := by
  have unadmitted : entry.unadmitted = true := by
    rw [LogEntry.unadmitted, outcome]
    rfl
  cases validateLocked_error refused with
  | admission _ early =>
      refine ⟨?_, fun event member overflow => absurd overflow (early.requests event member)⟩
      rcases early.state with same | missed
      · rw [same]
        exact backed.cons unadmitted (Nat.le_refl _) (Nat.le_refl _)
      · rw [missed]
        exact backed.cons unadmitted (Nat.le_refl _) (Nat.le_refl _)
  | rate pending _ admitted late =>
      exact late.backed
        (fun baited lane known => unbaited.inbound id owner request clock pending lane rfl admitted
          baited known)
        backed inbound outcome
  | stamping lane charged counted charge cause rate failed =>
      refine ⟨?_, RequestsBacked.nil _⟩
      obtain ⟨sameRate, sameTotal⟩ := sealStage_streaks charged request.frame
      obtain ⟨clearedTotal, clearedRate⟩ := rate.streaks
      rw [failed] at sameRate sameTotal
      apply backed.cons unadmitted
      · change counted.rateOverloadStreak ≤ _
        rw [sameRate, clearedRate]
        split
        · exact Nat.zero_le _
        · exact Nat.le_refl _
      · change counted.totalOverloadStreak ≤ _
        rw [sameTotal, clearedTotal]
        exact Nat.zero_le _

theorem validateLocked_ok_streaks {digests : Digests} {world : World} {clock : Clock}
    {owner id : Nat} {request : TxRequest} {gateway : Gateway} {reservation : Reservation}
    (unbaited : Unbaited digests world (.validate id owner request clock))
    (passed : world.gateway.validateLocked digests world.plane clock owner request =
      .ok (gateway, reservation)) :
    gateway.rateOverloadStreak = 0 ∧ gateway.totalOverloadStreak = 0 := by
  obtain ⟨facts⟩ := validateLocked_ok passed
  have burnRate := burn_keeps facts.counted facts.pending clock.burn Gateway.rateOverloadStreak
    (fun _ => rfl)
  have burnTotal := burn_keeps facts.counted facts.pending clock.burn
    Gateway.totalOverloadStreak (fun _ => rfl)
  obtain ⟨sealRate, sealTotal⟩ := sealStage_streaks facts.charged request.frame
  obtain ⟨clearedTotal, clearedRate⟩ := facts.rate.streaks
  rw [facts.stamped] at sealRate sealTotal
  refine ⟨?_, ?_⟩
  · rw [facts.result, burnRate, sealRate, clearedRate]
    split
    · rfl
    · rename_i categorised
      apply unbaited.lanes id owner request clock _ rfl passed
      rw [facts.rate.category]
      exact fun same => categorised (Option.some.inj same)
  · rw [facts.result, burnTotal, sealTotal, clearedTotal]

namespace World

def StreaksBacked (world : World) : Prop := world.gateway.StreaksBacked world.log

theorem perform_streaks (gateway : Gateway) (op : GatewayOp) :
    (gateway.perform op).rateOverloadStreak ≤ gateway.rateOverloadStreak ∧
      (gateway.perform op).totalOverloadStreak ≤ gateway.totalOverloadStreak := by
  cases op with
  | rebindWhitelist change =>
      constructor
      · exact Nat.le_of_eq (rebindWhitelist_keeps gateway change Gateway.rateOverloadStreak
          (fun _ _ _ => rfl))
      · exact Nat.le_of_eq (rebindWhitelist_keeps gateway change Gateway.totalOverloadStreak
          (fun _ _ _ => rfl))
  | notifyLinkFault kind plane =>
      constructor
      · exact Nat.le_of_eq (notifyLinkFault_keeps gateway kind plane Gateway.rateOverloadStreak
          (fun _ _ => rfl))
      · exact Nat.le_of_eq (notifyLinkFault_keeps gateway kind plane Gateway.totalOverloadStreak
          (fun _ _ => rfl))
  | estopTriggered => exact ⟨Nat.zero_le _, Nat.le_refl _⟩
  | rebindBus bus now => exact ⟨Nat.zero_le _, Nat.zero_le _⟩
  | _ => exact ⟨Nat.le_refl _, Nat.le_refl _⟩

theorem performAll_streaks (gateway : Gateway) (ops : List GatewayOp) :
    (gateway.performAll ops).rateOverloadStreak ≤ gateway.rateOverloadStreak ∧
      (gateway.performAll ops).totalOverloadStreak ≤ gateway.totalOverloadStreak := by
  induction ops generalizing gateway with
  | nil => exact ⟨Nat.le_refl _, Nat.le_refl _⟩
  | cons op rest ih =>
      have first := perform_streaks gateway op
      have later := ih (gateway.perform op)
      exact ⟨Nat.le_trans later.1 first.1, Nat.le_trans later.2 first.2⟩

theorem streaks_step {digests : Digests} {world next : World} {event : Event}
    (stepped : world.step digests event = some next)
    (other : ∀ id owner request clock, event ≠ .validate id owner request clock) :
    next.gateway.rateOverloadStreak ≤ world.gateway.rateOverloadStreak ∧
      next.gateway.totalOverloadStreak ≤ world.gateway.totalOverloadStreak := by
  cases kind : isCallStep event with
  | false =>
      obtain ⟨ops, performed, _⟩ := step_performs stepped kind
      rw [performed]
      exact performAll_streaks world.gateway ops
  | true =>
      cases event with
      | validate id owner request clock => exact absurd rfl (other id owner request clock)
      | guard id =>
          obtain ⟨_, _, _, rfl⟩ := step_guard stepped
          exact ⟨Nat.le_refl _, Nat.le_refl _⟩
      | dispatch id =>
          obtain ⟨_, _, _, _, ⟨_, rfl⟩ | ⟨_, rfl⟩⟩ := step_dispatch stepped
          · exact ⟨Nat.le_refl _, Nat.le_refl _⟩
          · exact ⟨Nat.le_refl _, Nat.le_refl _⟩
      | rollback id =>
          obtain ⟨_, _, _, _, rfl⟩ := step_rollback stepped
          exact ⟨Nat.le_refl _, Nat.le_refl _⟩
      | _ => cases kind

theorem log_step {digests : Digests} {world next : World} {event : Event}
    (stepped : world.step digests event = some next)
    (other : ∀ id owner request clock, event ≠ .validate id owner request clock) :
    next.log = world.log ∨
      ∃ entry : LogEntry, entry.unadmitted = true ∧ next.log = entry :: world.log := by
  cases kind : isCallStep event with
  | false => exact Or.inl (step_surroundings stepped kind).log
  | true =>
      cases event with
      | validate id owner request clock => exact absurd rfl (other id owner request clock)
      | guard id =>
          obtain ⟨_, _, _, rfl⟩ := step_guard stepped
          exact Or.inl rfl
      | dispatch id =>
          obtain ⟨_, _, _, _, ⟨_, rfl⟩ | ⟨_, rfl⟩⟩ := step_dispatch stepped
          · exact Or.inl rfl
          · exact Or.inr ⟨_, rfl, rfl⟩
      | rollback id =>
          obtain ⟨_, _, _, _, rfl⟩ := step_rollback stepped
          exact Or.inr ⟨_, rfl, rfl⟩
      | _ => cases kind

theorem streaksBacked_step {digests : Digests} {world next : World} {event : Event}
    (backed : world.StreaksBacked) (unbaited : Unbaited digests world event)
    (stepped : world.step digests event = some next) : next.StreaksBacked := by
  by_cases locked : ∃ id owner request clock, event = .validate id owner request clock
  · obtain ⟨id, owner, request, clock, rfl⟩ := locked
    obtain ⟨_, _, ⟨rejection, refused, rfl⟩ | ⟨gateway, reservation, passed, rfl⟩⟩ :=
      step_validate stepped
    · exact (validateLocked_error_backed unbaited refused backed rfl rfl).1
    · obtain ⟨rate, total⟩ := validateLocked_ok_streaks unbaited passed
      exact ⟨Nat.le_trans (Nat.le_of_eq rate) (Nat.zero_le _),
        Nat.le_trans (Nat.le_of_eq total) (Nat.zero_le _)⟩
  · have other : ∀ id owner request clock, event ≠ .validate id owner request clock :=
      fun id owner request clock same => locked ⟨id, owner, request, clock, same⟩
    obtain ⟨rate, total⟩ := streaks_step stepped other
    rcases log_step stepped other with same | ⟨entry, unadmitted, logged⟩
    · unfold StreaksBacked
      rw [same]
      exact ⟨Nat.le_trans rate backed.rate, Nat.le_trans total backed.total⟩
    · unfold StreaksBacked
      rw [logged]
      exact Gateway.StreaksBacked.cons backed unadmitted rate total

end World

/-- In a run without bait, a call that parks a rate-limit engagement is the
last of at least five rejections of application frames by the reported limit
since a frame was last admitted. -/
theorem rate_estop_needs_rejections (digests : Digests) (initial world next : World)
    (events : List Event) (id owner : Nat) (request : TxRequest) (clock : Clock)
    (start : initial.Initial)
    (unbaited : Meets (World.step digests) (Unbaited digests) initial
      (events ++ [.validate id owner request clock]))
    (ran : run (World.step digests) initial events = some world)
    (stepped : world.step digests (.validate id owner request clock) = some next) :
    ∃ requests, next.parked = world.parked ++ requests ∧ RequestsBacked requests next.log := by
  obtain ⟨before, here⟩ := meets_append unbaited ran
  have nothing : initial.StreaksBacked :=
    ⟨Nat.le_trans (Nat.le_of_eq start.rateStreak) (Nat.zero_le _),
      Nat.le_trans (Nat.le_of_eq start.totalStreak) (Nat.zero_le _)⟩
  have backed : world.StreaksBacked := run_invariant_of_meets
    (fun _ _ _ backed calm moved => World.streaksBacked_step backed calm moved)
    nothing before ran
  obtain ⟨_, _, ⟨rejection, refused, rfl⟩ | ⟨gateway, reservation, passed, rfl⟩⟩ :=
    World.step_validate stepped
  · exact ⟨rejection.requests, rfl,
      (validateLocked_error_backed here.1 refused backed rfl rfl).2⟩
  · exact ⟨[], (List.append_nil _).symm, RequestsBacked.nil _⟩

section Bench

def applicationRequest : TxRequest where
  frame := plainFrame

def responseRequest : TxRequest where
  frame := plainFrame
  inboundTriggered := true

def applicationSend (id : Nat) : Event := .validate id 0 applicationRequest (Clock.at 1)

def responseSend (id : Nat) : Event := .validate id 0 responseRequest (Clock.at 1)

def plainBench : World := World.bench [0x123] {} none

def fillWindow : List Event := (List.range 100).map applicationSend

theorem unbaited_application (world : World) (id : Nat) :
    Unbaited nullDigests world (applicationSend id) := by
  refine ⟨?_, ?_⟩
  · intro _ _ request _ _ _ same _ inbound
    cases same
    cases inbound
  · intro _ _ request _ _ same _ categorised
    cases same
    exact absurd rfl categorised

theorem applicationSends_unbaited (ids : List Nat) (world : World) :
    Meets (World.step nullDigests) (Unbaited nullDigests) world (ids.map applicationSend) := by
  have each : ∀ event ∈ ids.map applicationSend, ∃ id, event = applicationSend id := by
    intro event member
    obtain ⟨id, _, same⟩ := List.mem_map.mp member
    exact ⟨id, same.symm⟩
  refine (Meets.of_forall each world).imp ?_
  rintro state _ ⟨id, rfl⟩
  exact unbaited_application state id

theorem applicationSend_step {world : World} {id : Nat} (free : world.calls id = none)
    (early : world.now ≤ 1) : ∃ next, world.step nullDigests (applicationSend id) = some next ∧
      next.now ≤ 1 ∧ ∀ other, other ≠ id → next.calls other = world.calls other := by
  have enabled : ¬ ((world.calls id).isSome ∨ (Clock.at 1).start < world.now) := by
    rw [free]
    exact fun stuck => stuck.elim (fun held => nomatch held) (Nat.not_lt.mpr early)
  simp only [applicationSend, World.step, World.validate, if_neg enabled]
  split
  · exact ⟨_, rfl, Nat.le_refl 1, fun _ _ => rfl⟩
  · exact ⟨_, rfl, Nat.le_refl 1, fun _ differs => if_neg differs⟩

theorem applicationSends_run {ids : List Nat} (distinct : ids.Nodup) {world : World}
    (free : ∀ id ∈ ids, world.calls id = none) (early : world.now ≤ 1) :
    ∃ last, run (World.step nullDigests) world (ids.map applicationSend) = some last ∧
      last.now ≤ 1 ∧ ∀ other, other ∉ ids → last.calls other = world.calls other := by
  induction ids generalizing world with
  | nil => exact ⟨world, rfl, early, fun _ _ => rfl⟩
  | cons id rest ih =>
      obtain ⟨fresh, distinct⟩ := List.nodup_cons.mp distinct
      obtain ⟨next, stepped, later, others⟩ := applicationSend_step (free id List.mem_cons_self) early
      obtain ⟨last, ran, ends, kept⟩ := ih distinct (fun other isIn =>
        (others other (fun same => fresh (same ▸ isIn))).trans
          (free other (List.mem_cons_of_mem id isIn))) later
      refine ⟨last, (run_cons_of_step _ stepped).trans ran, ends, fun other absent => ?_⟩
      obtain ⟨differs, outside⟩ := not_or.mp (mt List.mem_cons.mpr absent)
      exact (kept other outside).trans (others other differs)

theorem overload_runs : ∃ last,
    run (World.step nullDigests) plainBench ((List.range 104).map applicationSend) = some last ∧
      last.now ≤ 1 ∧ ∀ other, other ∉ List.range 104 → last.calls other = none :=
  applicationSends_run List.nodup_range (fun _ _ => rfl) (Nat.zero_le 1)

theorem overload_isSome :
    (run (World.step nullDigests) plainBench ((List.range 104).map applicationSend)).isSome =
      true := by
  obtain ⟨_, ran, _⟩ := overload_runs
  exact Option.isSome_of_eq_some ran

def overloadedWorld : World :=
  (run (World.step nullDigests) plainBench ((List.range 104).map applicationSend)).get
    overload_isSome

theorem overloadedWorld_steps :
    (overloadedWorld.step nullDigests (applicationSend 104)).isSome = true := by
  obtain ⟨last, ran, early, free⟩ := overload_runs
  obtain ⟨_, stepped, _⟩ := applicationSend_step
    (free 104 (fun isIn => Nat.lt_irrefl _ (List.mem_range.mp isIn))) early
  rw [overloadedWorld, Option.get_of_eq_some overload_isSome ran]
  exact Option.isSome_of_eq_some stepped

/-- The fifth rejection of an application frame parks the engagement. -/
theorem rate_estop_needs_rejections_application :
    ∃ requests,
      ((overloadedWorld.step nullDigests (applicationSend 104)).get overloadedWorld_steps).parked =
          overloadedWorld.parked ++ requests ∧
        RequestsBacked requests
          ((overloadedWorld.step nullDigests (applicationSend 104)).get overloadedWorld_steps).log :=
  rate_estop_needs_rejections nullDigests plainBench overloadedWorld _
    ((List.range 104).map applicationSend) 104 0 applicationRequest (Clock.at 1)
    (World.bench_initial _ _ _) (applicationSends_unbaited (List.range 105) plainBench)
    (Option.some_get overload_isSome).symm (Option.some_get overloadedWorld_steps).symm

def baitedRun : List Event := fillWindow ++ [100, 101, 102, 103].map responseSend

theorem baitedRun_completes :
    (run (World.step nullDigests) plainBench baitedRun).map (fun world =>
      (world.parked, (world.step nullDigests (applicationSend 104)).map (fun next =>
        (next.parked, rejections .rateExceeded next.log)))) =
      some ([], some ([{ trigger := .rateLimitOverflow, reason := .rateOverload 5 }], 1)) := by
  decide +kernel

theorem baitedRun_isSome :
    (run (World.step nullDigests) plainBench baitedRun).isSome = true := by
  obtain ⟨world, ran, _⟩ := Option.map_eq_some_iff.mp baitedRun_completes
  rw [ran]
  rfl

def baitedWorld : World :=
  (run (World.step nullDigests) plainBench baitedRun).get baitedRun_isSome

/-- The first rejected application frame completes the streak of the responses. -/
theorem responses_bait_estop :
    ¬ ∀ (events : List Event) (world next : World) (id owner : Nat) (request : TxRequest)
        (clock : Clock), run (World.step nullDigests) plainBench events = some world →
      world.step nullDigests (.validate id owner request clock) = some next →
      ∃ requests, next.parked = world.parked ++ requests ∧ RequestsBacked requests next.log := by
  intro always
  have outcome := baitedRun_completes
  rw [(Option.some_get baitedRun_isSome).symm] at outcome
  obtain ⟨nothing, ends⟩ := Prod.mk.inj (Option.some.inj outcome)
  obtain ⟨next, stepped, final⟩ := Option.map_eq_some_iff.mp ends
  obtain ⟨engagement, single⟩ := Prod.mk.inj final
  obtain ⟨requests, parked, backed⟩ := always baitedRun baitedWorld next 104 0 applicationRequest
    (Clock.at 1) (Option.some_get baitedRun_isSome).symm stepped
  change baitedWorld.parked = [] at nothing
  rw [nothing, List.nil_append] at parked
  have asked : { trigger := .rateLimitOverflow, reason := .rateOverload 5 } ∈ requests := by
    rw [← parked, engagement]
    exact List.mem_singleton.mpr rfl
  obtain ⟨limit, reported, enough⟩ := backed _ asked rfl
  cases reported
  change rateEstopAfter ≤ rejections .rateExceeded next.log at enough
  rw [single] at enough
  exact absurd enough (Nat.not_le_of_lt (Nat.le_add_left 2 3))

end Bench

end Ucanlab.Safety
