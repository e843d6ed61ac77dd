import Ucanlab.Safety.Fence
import Ucanlab.Safety.LinkFault

/-!
Calls that raise before their frame is dispatched, and what they leave of the
budgets: refusals under the gateway lock with the engagements they fire, and
refusals by the guard or the fence with the reservation handed back.
-/

namespace Ucanlab.Safety

open Ucanlab EventRun SlidingWindow

/-- The listeners of an engagement that act on the gateway: first through the
supervisor, unless it is in the fault state already. -/
def TxPlane.engagementOps (plane : TxPlane) : List GatewayOp :=
  match plane.supervisor with
  | none => [.estopTriggered]
  | some supervisor =>
      if supervisor.state = .fault then [.estopTriggered]
      else [.safetyStateChanged .fault, .estopTriggered]

def Rejection.settled (rejection : Rejection) (plane : TxPlane) : Gateway :=
  match rejection.requests with
  | [] => rejection.gateway
  | _ :: _ => rejection.gateway.performAll plane.engagementOps

/-- A `validate_and_transmit` call that raises before the dispatch: the
operations of the surroundings between its sections, and the gateway it leaves. -/
inductive RaisedCall (digests : Digests) (gateway : Gateway) (plane : TxPlane) (clock : Clock)
    (owner : Nat) (request : TxRequest) : List GatewayOp → Gateway → Prop where
  | locked (rejection : Rejection)
      (refused : gateway.validateLocked digests plane clock owner request = .error rejection) :
      RaisedCall digests gateway plane clock owner request [] (rejection.settled plane)
  | late (after : Gateway) (reservation : Reservation) (between : List GatewayOp) (estop : EStop)
      (passed : gateway.validateLocked digests plane clock owner request =
        .ok (after, reservation))
      (blocked : reservation.guardRefuses estop = true ∨ reservation.fenceRefuses estop = true) :
      RaisedCall digests gateway plane clock owner request between
        ((after.performAll between).rollback reservation.charge reservation.burnedPayload)

structure SameBudget (start finish : Nat) (left right : Gateway) : Prop where
  ledger : left.ledger.SameView start finish right.ledger
  consumed : left.consumedConfirmations = right.consumedConfirmations

section Conditions

variable (digests : Digests) (gateway : Gateway) (plane : TxPlane) (clock : Clock)
  (request : TxRequest)

structure PolicyPassed : Prop where
  sane : frameSanity request.frame = none
  permitted : txPermission plane clock.start = none
  policy : readOnlyStage gateway.readOnlyPolicy request.frame (isTreatedCritical gateway request)
    clock.start = none

def Gateway.whitelistEscalates (gateway : Gateway) (frame : CanFrame) (now : Nat) : Bool :=
  !gateway.whitelistBypassForTesting && !gateway.whitelistConfig.whitelist.isEmpty &&
    !gateway.whitelistConfig.whitelist.authorizes frame.arbitrationId &&
    decide (whitelistEstopAfter ≤ (gateway.recordMiss now).whitelistMissStreak)

def PassesAdmission : Prop :=
  ∃ pending, admission digests gateway plane clock request (isTreatedCritical gateway request) =
    .ok pending

structure ReachesMeter (lane : Lane) : Prop where
  admitted : PassesAdmission digests gateway plane clock request
  category : Lane.ofCategory request.budgetCategory = some lane
  room : gateway.envelopeFull clock.start = false
  purpose : gateway.simulationMisused lane request.frame = false

def Gateway.meterRefuses (gateway : Gateway) (clock : Clock) (lane : Lane) : Bool :=
  if lane = .default then gateway.laneFull clock.start else gateway.bucketDry lane clock.bucket

/-- The call is refused before its lane is asked, and the refusal engages the
emergency stop. -/
inductive Escalates : Prop where
  | whitelist (early : PolicyPassed gateway plane clock request)
      (streak : gateway.whitelistEscalates request.frame clock.start = true)
  | interlock (early : PolicyPassed gateway plane clock request)
      (allowed : whitelistStage gateway request.frame clock.start = none)
      (critical : isTreatedCritical gateway request = true)
      (breached : speedStage gateway.speed clock.start ≠ none)
  | envelope (admitted : PassesAdmission digests gateway plane clock request)
      (known : (Lane.ofCategory request.budgetCategory).isSome = true)
      (full : gateway.envelopeFull clock.start = true)
      (streak : rateEstopAfter ≤ gateway.totalOverloadStreak + 1)
      (application : request.inboundTriggered = false)

/-- The call leaves the lock and has consumed a token there. -/
structure BurnsToken : Prop where
  metered : ∃ lane, ReachesMeter digests gateway plane clock request lane ∧
    gateway.meterRefuses clock lane = false
  sealed : ∃ frame, (gateway.sealStage request.frame).2 = .ok frame
  critical : isTreatedCritical gateway request = true
  secret : gateway.confirmationSecret.isSome = true
  token : request.confirmationToken.isSome = true

/-- The lane's own meter has room for the call when it gets there; a refusal
that engages the emergency stop finds the default lane idle; and a token that is
consumed pushes no other out of the table. -/
structure BudgetKept : Prop where
  metered : ∀ lane, ReachesMeter digests gateway plane clock request lane →
    gateway.meterRefuses clock lane = false
  idle : Escalates digests gateway plane clock request →
    prune rateLimitWindowNs clock.start gateway.ledger.txTimestamps = []
  table : BurnsToken digests gateway plane clock request →
    gateway.consumedConfirmations.pruned clock.burn = [] ∧
      gateway.consumedConfirmations.entries.length < consumedConfirmationsMax

end Conditions

section Engagements

theorem engagementOps_ledger (plane : TxPlane) (gateway : Gateway) :
    (gateway.performAll plane.engagementOps).ledger = gateway.ledger.clearLane := by
  rw [performAll_ledger]
  unfold TxPlane.engagementOps
  cases plane.supervisor with
  | none => rfl
  | some supervisor =>
      dsimp only
      split <;> rfl

theorem settled_consumed (rejection : Rejection) (plane : TxPlane) :
    (rejection.settled plane).consumedConfirmations =
      rejection.gateway.consumedConfirmations := by
  unfold Rejection.settled
  split
  · rfl
  · exact performAll_consumed rejection.gateway _

theorem settled_total (rejection : Rejection) (plane : TxPlane) :
    (rejection.settled plane).ledger.txTotalTimestamps =
      rejection.gateway.ledger.txTotalTimestamps := by
  unfold Rejection.settled
  split
  · rfl
  · rw [engagementOps_ledger]
    rfl

/-- A refusal that charged nothing shows only through the lane its engagement
clears. -/
theorem settled_sameBudget_iff {rejection : Rejection} {gateway : Gateway} {start finish : Nat}
    (plane : TxPlane) (same : SameBudget start finish rejection.gateway gateway) :
    SameBudget start finish (rejection.settled plane) gateway ↔
      (rejection.requests ≠ [] →
        prune rateLimitWindowNs start gateway.ledger.txTimestamps = []) := by
  cases requests : rejection.requests with
  | nil =>
      have quiet : rejection.settled plane = rejection.gateway := by
        simp only [Rejection.settled, requests]
      rw [quiet]
      exact ⟨fun _ engaged => absurd rfl engaged, fun _ => same⟩
  | cons event rest =>
      have fired : rejection.settled plane =
          rejection.gateway.performAll plane.engagementOps := by
        simp only [Rejection.settled, requests]
      constructor
      · intro kept _
        have cleared := kept.ledger
        rw [fired, engagementOps_ledger] at cleared
        exact same.ledger.clearLane_iff.mp cleared
      · intro idle
        refine ⟨?_, ?_⟩
        · rw [fired, engagementOps_ledger]
          exact same.ledger.clearLane_iff.mpr (idle (List.cons_ne_nil _ _))
        · rw [settled_consumed]
          exact same.consumed

theorem whitelistStage_requests {gateway : Gateway} {frame : CanFrame} {now : Nat}
    {rejection : Rejection} (refused : whitelistStage gateway frame now = some rejection) :
    rejection.requests ≠ [] ↔ gateway.whitelistEscalates frame now = true := by
  unfold whitelistStage at refused
  unfold Gateway.whitelistEscalates
  split at refused
  · cases refused
  · rename_i enforced
    split at refused
    · rename_i empty
      cases refused
      rw [empty]
      simp only [ne_eq, not_true_eq_false, Bool.not_true, Bool.and_false, Bool.false_and,
        Bool.false_eq_true]
    · rename_i listed
      split at refused
      · cases refused
      · rename_i unlisted
        cases refused
        simp only [enforced, listed, unlisted, Bool.not_false, Bool.true_and, decide_eq_true_eq]
        split
        · rename_i streak
          exact ⟨fun _ => streak, fun _ => List.cons_ne_nil _ _⟩
        · rename_i short
          exact ⟨fun engaged => absurd rfl engaged, fun streak => absurd streak short⟩

theorem whitelistStage_of_escalates {gateway : Gateway} {frame : CanFrame} {now : Nat}
    (streak : gateway.whitelistEscalates frame now = true) :
    whitelistStage gateway frame now ≠ none := by
  unfold Gateway.whitelistEscalates at streak
  simp only [Bool.and_eq_true, Bool.not_eq_true'] at streak
  obtain ⟨⟨⟨enforced, listed⟩, unlisted⟩, _⟩ := streak
  unfold whitelistStage
  rw [enforced, listed, unlisted]
  exact nofun

variable {digests : Digests} {gateway : Gateway} {plane : TxPlane} {clock : Clock}
  {request : TxRequest}

/-- A refusal of the first five stages engages the emergency stop exactly when
the state says so. -/
theorem admission_requests {rejection : Rejection}
    (refused : admission digests gateway plane clock request (isTreatedCritical gateway request) =
      .error rejection) :
    rejection.requests ≠ [] ↔ Escalates digests gateway plane clock request := by
  have unadmitted : ¬ PassesAdmission digests gateway plane clock request := by
    rintro ⟨pending, admitted⟩
    rw [admitted] at refused
    cases refused
  have quiet : ¬ Escalates digests gateway plane clock request →
      (([] : List EStopEvent) ≠ [] ↔ Escalates digests gateway plane clock request) :=
    fun calm => ⟨fun engaged => absurd rfl engaged, fun escalates => absurd escalates calm⟩
  have early : ¬ PolicyPassed gateway plane clock request →
      ¬ Escalates digests gateway plane clock request := by
    intro failed escalates
    cases escalates with
    | whitelist passed => exact failed passed
    | interlock passed => exact failed passed
    | envelope admitted => exact unadmitted admitted
  unfold admission at refused
  dsimp only at refused
  split at refused
  · rename_i insane
    cases refused
    refine quiet (early (fun passed => ?_))
    rw [passed.sane] at insane
    cases insane
  · rename_i sane
    split at refused
    · rename_i forbidden
      cases refused
      refine quiet (early (fun passed => ?_))
      rw [passed.permitted] at forbidden
      cases forbidden
    · rename_i permitted
      split at refused
      · rename_i violation
        cases refused
        refine quiet (early (fun passed => ?_))
        rw [passed.policy] at violation
        cases violation
      · rename_i policy
        split at refused
        · rename_i missed
          cases refused
          rw [whitelistStage_requests missed]
          constructor
          · exact fun streak => .whitelist ⟨sane, permitted, policy⟩ streak
          · intro escalates
            cases escalates with
            | whitelist _ streak => exact streak
            | interlock _ allowed =>
                rw [missed] at allowed
                cases allowed
            | envelope admitted => exact absurd admitted unadmitted
        · rename_i allowed
          split at refused
          · cases refused
          · rename_i critical
            split at refused
            · rename_i breach
              cases refused
              refine ⟨fun _ => ?_, fun _ => List.cons_ne_nil _ _⟩
              refine .interlock ⟨sane, permitted, policy⟩ allowed (by simpa using critical) ?_
              rw [breach]
              exact nofun
            · rename_i still
              split at refused
              · cases refused
                apply quiet
                intro escalates
                cases escalates with
                | whitelist _ streak => exact whitelistStage_of_escalates streak allowed
                | interlock _ _ _ breached => exact breached still
                | envelope admitted => exact unadmitted admitted
              · cases refused

theorem escalates_iff_of_admitted (admitted : PassesAdmission digests gateway plane clock request) :
    Escalates digests gateway plane clock request ↔
      (Lane.ofCategory request.budgetCategory).isSome = true ∧
        gateway.envelopeFull clock.start = true ∧
        rateEstopAfter ≤ gateway.totalOverloadStreak + 1 ∧ request.inboundTriggered = false := by
  constructor
  · intro escalates
    obtain ⟨pending, passed⟩ := admitted
    have facts := admission_ok passed
    cases escalates with
    | whitelist _ streak => exact absurd facts.allowed (whitelistStage_of_escalates streak)
    | interlock _ _ critical breached => exact absurd (facts.interlock critical) breached
    | envelope _ known full streak application => exact ⟨known, full, streak, application⟩
  · rintro ⟨known, full, streak, application⟩
    exact .envelope admitted known full streak application

theorem overloadRequests_ne_nil (reason : EStopReason) (streak : Nat) (inbound : Bool) :
    overloadRequests reason streak inbound ≠ [] ↔ rateEstopAfter ≤ streak ∧ inbound = false := by
  unfold overloadRequests
  split
  · rename_i due
    exact ⟨fun _ => ⟨due.1, by simpa using due.2⟩, fun _ => List.cons_ne_nil _ _⟩
  · rename_i early
    refine ⟨fun engaged => absurd rfl engaged, fun due => absurd ⟨due.1, ?_⟩ early⟩
    rw [due.2]
    exact nofun

end Engagements

section Refusals

variable {digests : Digests} {gateway : Gateway} {plane : TxPlane} {clock : Clock}
  {request : TxRequest}

theorem rateStage_leaves {owner : Nat} {rejection : Rejection}
    (admitted : PassesAdmission digests gateway plane clock request)
    (refused : rateStage gateway clock owner request = .error rejection) :
    (∃ lane, ReachesMeter digests gateway plane clock request lane ∧
        gateway.meterRefuses clock lane = true ∧
        prune rateLimitWindowNs clock.start rejection.gateway.ledger.txTotalTimestamps ≠
          prune rateLimitWindowNs clock.start gateway.ledger.txTotalTimestamps) ∨
      ((∀ lane, ¬ ReachesMeter digests gateway plane clock request lane) ∧
        rejection.gateway.ledger.SameView clock.start clock.burn gateway.ledger ∧
        (rejection.requests ≠ [] ↔ Escalates digests gateway plane clock request)) := by
  rw [escalates_iff_of_admitted admitted]
  cases rateStage_error refused with
  | category unknown =>
      refine Or.inr ⟨?_, TxLedger.SameView.refl _ _ _, fun engaged => absurd rfl engaged, ?_⟩
      · intro lane reached
        cases unknown.symm.trans reached.category
      · rintro ⟨known, _⟩
        rw [unknown] at known
        cases known
  | envelope lane known full =>
      refine Or.inr ⟨?_, TxLedger.pruneTotal_sameView _ _ _, ?_⟩
      · intro other reached
        rw [reached.room] at full
        cases full
      · rw [overloadRequests_ne_nil, known]
        exact ⟨fun due => ⟨rfl, full, due⟩, fun due => due.2.2⟩
  | simulation lane known room misused =>
      refine Or.inr ⟨?_, TxLedger.pruneTotal_sameView _ _ _, fun engaged => absurd rfl engaged, ?_⟩
      · intro other reached
        have sameLane := known.symm.trans reached.category
        cases sameLane
        rw [reached.purpose] at misused
        cases misused
      · rintro ⟨_, full, _⟩
        rw [room] at full
        cases full
  | lane lane known room purpose _ metered =>
      refine Or.inl ⟨lane, ⟨admitted, known, room, purpose⟩, ?_, metered.total_ne⟩
      unfold Gateway.meterRefuses
      cases metered with
      | window full =>
          rw [if_pos rfl]
          exact full
      | bucket _ categorised dry =>
          rw [if_neg categorised]
          exact dry

theorem RateCharged.meterRefuses {owner : Nat} {charged : Gateway} {charge : Charge} {lane : Lane}
    (rate : RateCharged gateway clock owner request charged charge lane) :
    gateway.meterRefuses clock lane = false := by
  obtain ⟨_, _, _, _, metered⟩ := rate
  unfold Gateway.meterRefuses
  generalize charge.meter = meter at metered
  cases metered with
  | window room =>
      rw [if_pos rfl]
      exact room
  | bucket _ categorised level =>
      rw [if_neg categorised]
      exact level

theorem RateCharged.metered {owner : Nat} {charged : Gateway} {charge : Charge} {lane : Lane}
    (rate : RateCharged gateway clock owner request charged charge lane) (other : Lane)
    (reached : ReachesMeter digests gateway plane clock request other) :
    gateway.meterRefuses clock other = false := by
  have sameLane := rate.category.symm.trans reached.category
  cases sameLane
  exact rate.meterRefuses

theorem RateCharged.calm {owner : Nat} {charged : Gateway} {charge : Charge} {lane : Lane}
    (rate : RateCharged gateway clock owner request charged charge lane)
    (admitted : PassesAdmission digests gateway plane clock request) :
    ¬ Escalates digests gateway plane clock request := by
  rw [escalates_iff_of_admitted admitted]
  rintro ⟨_, full, _⟩
  rw [rate.room] at full
  cases full

theorem budgetKept_iff_idle
    (metered : ∀ lane, ReachesMeter digests gateway plane clock request lane →
      gateway.meterRefuses clock lane = false)
    (unburned : ¬ BurnsToken digests gateway plane clock request) :
    BudgetKept digests gateway plane clock request ↔
      (Escalates digests gateway plane clock request →
        prune rateLimitWindowNs clock.start gateway.ledger.txTimestamps = []) :=
  ⟨fun kept => kept.idle,
    fun idle => ⟨metered, idle, fun burns => absurd burns unburned⟩⟩

theorem settled_iff_of_same {rejection : Rejection}
    (ledger : rejection.gateway.ledger.SameView clock.start clock.burn gateway.ledger)
    (consumed : rejection.gateway.consumedConfirmations = gateway.consumedConfirmations)
    (requests : rejection.requests ≠ [] ↔ Escalates digests gateway plane clock request)
    (metered : ∀ lane, ReachesMeter digests gateway plane clock request lane →
      gateway.meterRefuses clock lane = false)
    (unburned : ¬ BurnsToken digests gateway plane clock request) :
    SameBudget clock.start clock.burn (rejection.settled plane) gateway ↔
      BudgetKept digests gateway plane clock request := by
  rw [settled_sameBudget_iff plane ⟨ledger, consumed⟩, requests,
    budgetKept_iff_idle metered unburned]

theorem locked_leaves_budget_iff {owner : Nat} {rejection : Rejection}
    (refused : gateway.validateLocked digests plane clock owner request = .error rejection) :
    SameBudget clock.start clock.burn (rejection.settled plane) gateway ↔
      BudgetKept digests gateway plane clock request := by
  have consumed := (validateLocked_error refused).frame.consumed
  rcases validateLocked_refused_at refused with early | ⟨pending, admitted, late | stamping⟩
  · have unadmitted : ¬ PassesAdmission digests gateway plane clock request := by
      rintro ⟨pending, admitted⟩
      rw [admitted] at early
      cases early
    have ledger : rejection.gateway.ledger = gateway.ledger := by
      rcases (admission_error early).state with same | missed
      · rw [same]
      · rw [missed]
        rfl
    apply settled_iff_of_same (ledger ▸ TxLedger.SameView.refl _ _ _) consumed
      (admission_requests early)
    · exact fun lane reached => absurd reached.admitted unadmitted
    · rintro ⟨⟨lane, reached, _⟩, _⟩
      exact unadmitted reached.admitted
  · have admits : PassesAdmission digests gateway plane clock request := ⟨pending, admitted⟩
    rcases rateStage_leaves admits late with
      ⟨lane, reached, full, leaked⟩ | ⟨unreached, ledger, requests⟩
    · constructor
      · intro same
        rw [← settled_total rejection plane] at leaked
        exact absurd same.ledger.total leaked
      · intro kept
        rw [kept.metered lane reached] at full
        cases full
    · apply settled_iff_of_same ledger consumed requests
      · exact fun lane reached => absurd reached (unreached lane)
      · rintro ⟨⟨lane, reached, _⟩, _⟩
        exact unreached lane reached
  · obtain ⟨charged, charge, counted, cause, charging, failed, rfl⟩ := stamping
    obtain ⟨lane, rate⟩ := rateStage_ok charging
    have stamped := sealStage_of_rateFrame rate.frame request.frame
    obtain ⟨packager, replaced⟩ := sealStage_packager charged request.frame
    rw [failed] at stamped replaced
    dsimp only at stamped replaced
    subst replaced
    apply settled_iff_of_same rate.rollback_sameView.1 consumed
    · exact ⟨fun engaged => absurd rfl engaged,
        fun escalates => absurd escalates (rate.calm ⟨pending, admitted⟩)⟩
    · exact rate.metered
    · rintro ⟨_, ⟨frame, sealed⟩, _⟩
      rw [← stamped] at sealed
      cases sealed

theorem late_ledger {owner : Nat} {after : Gateway} {reservation : Reservation}
    (facts : Validated digests gateway plane clock owner request after reservation)
    (between : List GatewayOp) :
    ((after.performAll between).rollback reservation.charge
        reservation.burnedPayload).ledger.SameView clock.start clock.burn
      (gateway.performAll between).ledger := by
  obtain ⟨same, known⟩ := facts.rate.rollback_sameView
  obtain ⟨packager, counted⟩ := (sealStage_ok facts.stamped).state
  have charged : after.ledger = facts.charged.ledger := by
    have result := congrArg Gateway.ledger facts.result
    rw [burn_eq, counted] at result
    exact result
  change ((after.performAll between).ledger.rollback reservation.charge).SameView _ _ _
  rw [performAll_ledger, performAll_ledger, charged, rollback_onLedgerAll known]
  exact same.onLedgerAll between

theorem late_leaves_budget_iff {owner : Nat} {after : Gateway} {reservation : Reservation}
    (passed : gateway.validateLocked digests plane clock owner request = .ok (after, reservation))
    (between : List GatewayOp) :
    SameBudget clock.start clock.burn
        ((after.performAll between).rollback reservation.charge reservation.burnedPayload)
        (gateway.performAll between) ↔
      BudgetKept digests gateway plane clock request := by
  obtain ⟨facts⟩ := validateLocked_ok passed
  have admitted : PassesAdmission digests gateway plane clock request :=
    validateLocked_admitted passed
  have metered : ∀ lane, ReachesMeter digests gateway plane clock request lane →
      gateway.meterRefuses clock lane = false := facts.rate.metered
  have table : SameBudget clock.start clock.burn
      ((after.performAll between).rollback reservation.charge reservation.burnedPayload)
      (gateway.performAll between) ↔
        refundConfirmation after.consumedConfirmations reservation.burnedPayload =
          gateway.consumedConfirmations := by
    have left : ((after.performAll between).rollback reservation.charge
        reservation.burnedPayload).consumedConfirmations =
          refundConfirmation after.consumedConfirmations reservation.burnedPayload := by
      change refundConfirmation (after.performAll between).consumedConfirmations _ = _
      rw [performAll_consumed]
    constructor
    · intro same
      rw [← left, same.consumed, performAll_consumed]
    · intro same
      refine ⟨late_ledger facts between, ?_⟩
      rw [left, same, performAll_consumed]
  rw [table]
  rcases facts.burn_cases with ⟨idle, nothing, kept⟩ |
    ⟨payload, token, critical, secret, presented, burned, checked, recorded⟩
  · rw [nothing]
    refine ⟨fun _ => ⟨metered, fun escalates => absurd escalates (facts.rate.calm admitted), ?_⟩,
      fun _ => kept⟩
    intro burns
    rcases idle with plain | absent | absent
    · rw [burns.critical] at plain
      cases plain
    · have configured := burns.secret
      rw [absent] at configured
      cases configured
    · have presented := burns.token
      rw [absent] at presented
      cases presented
  · rw [burned, recorded]
    have room : (gateway.consumedConfirmations.record consumedConfirmationsMax payload
        (payloadExpiry payload) clock.burn).erase payload = gateway.consumedConfirmations ↔
          gateway.consumedConfirmations.pruned clock.burn = [] ∧
            gateway.consumedConfirmations.entries.length < consumedConfirmationsMax :=
      ReplayStore.erase_record_eq_iff (Nat.zero_lt_succ _) checked.unused _
    constructor
    · intro same
      exact ⟨metered, fun escalates => absurd escalates (facts.rate.calm admitted),
        fun _ => room.mp same⟩
    · intro kept
      refine room.mpr (kept.table ⟨⟨facts.lane, ⟨admitted, facts.rate.category, facts.rate.room,
        facts.rate.lanePurpose⟩, facts.rate.meterRefuses⟩, ⟨_, facts.sealed⟩, critical, secret, ?_⟩)
      rw [presented]
      rfl

end Refusals

section Streams

variable {digests : Digests} {gateway : Gateway}

theorem SameBudget.refl (start finish : Nat) (gateway : Gateway) :
    SameBudget start finish gateway gateway :=
  ⟨TxLedger.SameView.refl _ _ _, rfl⟩

theorem SameBudget.trans {start finish : Nat} {left middle right : Gateway}
    (first : SameBudget start finish left middle) (second : SameBudget start finish middle right) :
    SameBudget start finish left right :=
  ⟨first.ledger.trans second.ledger, first.consumed.trans second.consumed⟩

theorem SameBudget.mono {start finish laterStart laterFinish : Nat} {left right : Gateway}
    (same : SameBudget start finish left right) (startOrder : start ≤ laterStart)
    (finishOrder : finish ≤ laterFinish) : SameBudget laterStart laterFinish left right :=
  ⟨same.ledger.mono startOrder finishOrder, same.consumed⟩

theorem SameBudget.performAll {start finish : Nat} {left right : Gateway}
    (same : SameBudget start finish left right) (ops : List GatewayOp) :
    SameBudget start finish (left.performAll ops) (right.performAll ops) := by
  refine ⟨?_, ?_⟩
  · rw [performAll_ledger, performAll_ledger]
    exact same.ledger.onLedgerAll ops
  · rw [performAll_consumed, performAll_consumed]
    exact same.consumed

def Gateway.envelopeRoom (gateway : Gateway) (now : Nat) : Nat :=
  maxTotalTxPerSec - (gateway.ledger.pruneTotal now).txTotalTimestamps.length

theorem SameBudget.envelopeRoom {start finish later : Nat} {left right : Gateway}
    (same : SameBudget start finish left right) (order : start ≤ later) :
    left.envelopeRoom later = right.envelopeRoom later := by
  have total := (same.ledger.mono order (Nat.le_refl finish)).total
  unfold Gateway.envelopeRoom TxLedger.pruneTotal
  dsimp only
  rw [total]

/-- A call that raises before the dispatch leaves the budgets as they would be
without it exactly when the meter of its own lane does not refuse it, its
engagement finds the default lane idle and its token pushes out no other. -/
theorem RaisedCall.sameBudget_iff {after : Gateway} {plane : TxPlane} {clock : Clock}
    {owner : Nat} {request : TxRequest} {between : List GatewayOp}
    (raised : RaisedCall digests gateway plane clock owner request between after) :
    SameBudget clock.start clock.burn after (gateway.performAll between) ↔
      BudgetKept digests gateway plane clock request := by
  cases raised with
  | locked rejection refused => exact locked_leaves_budget_iff refused
  | late charged reservation _ estop passed blocked => exact late_leaves_budget_iff passed between

/-- Raised calls one after the other, each of which keeps the budget, among
other operations on the gateway: the reading of the clock and the gateway they
lead to, and the other operations in their order. -/
inductive RaisedStream (digests : Digests) (gateway : Gateway) :
    Nat → List GatewayOp → Gateway → Prop where
  | start (now : Nat) : RaisedStream digests gateway now [] gateway
  | other {now : Nat} {ops : List GatewayOp} {before : Gateway} (op : GatewayOp)
      (earlier : RaisedStream digests gateway now ops before) :
      RaisedStream digests gateway now (ops ++ [op]) (before.perform op)
  | call {now : Nat} {ops between : List GatewayOp} {before after : Gateway} {plane : TxPlane}
      {clock : Clock} {owner : Nat} {request : TxRequest}
      (earlier : RaisedStream digests gateway now ops before) (order : now ≤ clock.start)
      (raised : RaisedCall digests before plane clock owner request between after)
      (kept : BudgetKept digests before plane clock request) :
      RaisedStream digests gateway clock.burn (ops ++ between) after

/-- The stream is invisible: what it leaves is what the other operations alone
would have left. -/
theorem RaisedStream.sameBudget {now : Nat} {ops : List GatewayOp} {after : Gateway}
    (stream : RaisedStream digests gateway now ops after) :
    SameBudget now now after (gateway.performAll ops) := by
  induction stream with
  | start now => exact SameBudget.refl now now gateway
  | other op earlier ih =>
      rw [performAll_append]
      exact ih.performAll [op]
  | @call now ops between before after plane clock owner request earlier order raised kept ih =>
      have whole : clock.start ≤ clock.burn :=
        Nat.le_trans clock.verifyAfter (Nat.le_trans clock.bucketAfter clock.burnAfter)
      have latest := (raised.sameBudget_iff.mpr kept).mono whole (Nat.le_refl _)
      have older := (ih.performAll between).mono (Nat.le_trans order whole)
        (Nat.le_trans order whole)
      rw [performAll_append]
      exact latest.trans older

end Streams

/-- A call that raises before the dispatch leaves the budgets as they would be
without it exactly when the meter of its own lane does not refuse it, its
engagement finds the default lane idle and its token pushes out no other; a
stream of such calls takes nothing from the envelope. -/
theorem raised_calls_leave_budget_iff (digests : Digests) (gateway : Gateway) :
    (∀ plane clock owner request between after,
      RaisedCall digests gateway plane clock owner request between after →
        (SameBudget clock.start clock.burn after (gateway.performAll between) ↔
          BudgetKept digests gateway plane clock request)) ∧
      ∀ now ops after, RaisedStream digests gateway now ops after → ∀ later, now ≤ later →
        after.envelopeRoom later = (gateway.performAll ops).envelopeRoom later :=
  ⟨fun _ _ _ _ _ _ raised => raised.sameBudget_iff,
    fun _ _ _ stream _ order => stream.sameBudget.envelopeRoom order⟩

section Bench

def calibration : TxRequest where
  frame := {
    channelId := "can0"
    arbitrationId := 0x123
    dlc := 1
    data := [0x00]
    valid := by decide }
  budgetCategory := "calibration"

def calibrationBench : World := World.bench [0x123] {} none

theorem calibration_passes :
    (calibrationBench.gateway.validateLocked nullDigests calibrationBench.plane (Clock.at 1) 0
      calibration).toOption.isSome = true := by
  decide +kernel

def engagedStop : EStop := calibrationBench.estop.trigger {
  trigger := .userUiButton
  reason := .reported "bench" } 1 []

theorem calibrationBench_keepsBudget :
    BudgetKept nullDigests calibrationBench.gateway calibrationBench.plane (Clock.at 1)
      calibration := by
  refine ⟨?_, fun _ => rfl, fun _ => ⟨rfl, Nat.zero_lt_succ _⟩⟩
  intro lane _
  cases lane <;> decide +kernel

/-- A frame stopped by the guard after an engagement. -/
theorem raised_calls_leave_budget_iff_guarded :
    ∃ after reservation,
      calibrationBench.gateway.validateLocked nullDigests calibrationBench.plane (Clock.at 1) 0
          calibration = .ok (after, reservation) ∧
        SameBudget 1 1
          ((after.performAll [.estopTriggered]).rollback reservation.charge
            reservation.burnedPayload)
          (calibrationBench.gateway.performAll [.estopTriggered]) := by
  have passes := calibration_passes
  cases passed : calibrationBench.gateway.validateLocked nullDigests calibrationBench.plane
      (Clock.at 1) 0 calibration with
  | error rejection =>
      rw [passed] at passes
      cases passes
  | ok result =>
      obtain ⟨after, reservation⟩ := result
      have guarded : reservation.guardRefuses engagedStop = true := Bool.or_true _
      refine ⟨after, reservation, rfl, ?_⟩
      exact ((raised_calls_leave_budget_iff nullDigests calibrationBench.gateway).1
        calibrationBench.plane (Clock.at 1) 0 calibration [.estopTriggered] _
        (.late after reservation _ engagedStop passed (Or.inl guarded))).mpr
          calibrationBench_keepsBudget

def drainCalibration : List Event :=
  (List.range 5).map (fun id => .validate id 0 calibration (Clock.at 1))

theorem drainCalibration_isSome :
    (run (World.step nullDigests) calibrationBench drainCalibration).isSome = true := by
  decide +kernel

def drained : World :=
  (run (World.step nullDigests) calibrationBench drainCalibration).get drainCalibration_isSome

def stampsAfterRefusal (gateway : Gateway) (plane : TxPlane) (clock : Clock)
    (request : TxRequest) : Option Nat :=
  match gateway.validateLocked nullDigests plane clock 0 request with
  | .error rejection => some (prune rateLimitWindowNs clock.start
      (rejection.settled plane).ledger.txTotalTimestamps).length
  | .ok _ => none

/-- The sixth frame is refused by its bucket and stays in the window. -/
theorem dry_bucket_charges_envelope :
    ¬ ∀ (gateway : Gateway) (plane : TxPlane) (clock : Clock) (owner : Nat) (request : TxRequest)
        (between : List GatewayOp) (after : Gateway),
      RaisedCall nullDigests gateway plane clock owner request between after →
        SameBudget clock.start clock.burn after (gateway.performAll between) := by
  intro free
  have before : (prune rateLimitWindowNs 1 drained.gateway.ledger.txTotalTimestamps).length = 5 :=
    by decide +kernel
  have later : stampsAfterRefusal drained.gateway drained.plane (Clock.at 1) calibration =
      some 6 := by
    decide +kernel
  unfold stampsAfterRefusal at later
  split at later
  · rename_i rejection refused
    have same := free drained.gateway drained.plane (Clock.at 1) 0 calibration [] _
      (.locked rejection refused)
    have total := congrArg List.length same.ledger.total
    have sizes := before.symm.trans (total.symm.trans (Option.some.inj later))
    cases sizes
  · cases later

end Bench

end Ucanlab.Safety
