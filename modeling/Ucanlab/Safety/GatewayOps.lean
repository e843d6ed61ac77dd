import Ucanlab.Safety.GatewaySpec

/-!
What the surroundings of a call can do to the gateway between its sections: the
operations as a type of their own, and the fields each of them leaves alone.
-/

namespace Ucanlab.Safety

open Ucanlab E2E

inductive GatewayOp where
  | estopTriggered
  | safetyStateChanged (newState : SafetyState)
  | updateVehicleSpeed (speed : SpeedValue) (source : String) (now : Nat)
  | installReadOnlyPolicy (policy : ReadOnlyPolicy)
  | clearReadOnlyPolicy
  | rebindBus (bus : Bus) (now : Nat)
  | rebindWhitelist (change : WhitelistChange)
  | registerE2eProfile (arbitrationId : Nat) (profile : E2EProfileConfig)
  | notifyLinkFault (kind : LinkFaultKind) (plane : TxPlane)
  | clearLinkFault (kind : LinkFaultKind)

def Gateway.perform (gateway : Gateway) : GatewayOp → Gateway
  | .estopTriggered => gateway.onEstopTriggered
  | .safetyStateChanged newState => gateway.onSafetyStateChanged newState
  | .updateVehicleSpeed speed source now => gateway.updateVehicleSpeed speed source now
  | .installReadOnlyPolicy policy => gateway.installReadOnlyPolicy policy
  | .clearReadOnlyPolicy => gateway.clearReadOnlyPolicy
  | .rebindBus bus now => gateway.rebindBus bus now
  | .rebindWhitelist change => (gateway.rebindWhitelist change).1
  | .registerE2eProfile arbitrationId profile => gateway.registerE2eProfile arbitrationId profile
  | .notifyLinkFault kind plane => (gateway.notifyLinkFault kind plane).1
  | .clearLinkFault kind => gateway.clearLinkFault kind

def Gateway.performAll (gateway : Gateway) (ops : List GatewayOp) : Gateway :=
  ops.foldl Gateway.perform gateway

theorem performAll_append (gateway : Gateway) (front back : List GatewayOp) :
    gateway.performAll (front ++ back) = (gateway.performAll front).performAll back :=
  List.foldl_append

section Fields

universe u

variable {Value : Type u}

theorem rebindWhitelist_keeps (gateway : Gateway) (change : WhitelistChange)
    (field : Gateway → Value)
    (blind : ∀ config missStreak lastMissNs, field { gateway with
      whitelistConfig := config
      whitelistMissStreak := missStreak
      whitelistLastMissNs := lastMissNs } = field gateway) :
    field (gateway.rebindWhitelist change).1 = field gateway := by
  unfold Gateway.rebindWhitelist
  split
  · exact blind _ gateway.whitelistMissStreak gateway.whitelistLastMissNs
  · exact blind _ 0 0

theorem notifyLinkFault_keeps (gateway : Gateway) (kind : LinkFaultKind) (plane : TxPlane)
    (field : Gateway → Value)
    (blind : ∀ latched epoch, field { gateway with
      linkFaultLatched := latched
      linkFaultEpoch := epoch } = field gateway) :
    field (gateway.notifyLinkFault kind plane).1 = field gateway := by
  unfold Gateway.notifyLinkFault
  dsimp only
  split
  · exact blind _ _
  · exact blind _ _

theorem RefusalFrame.keeps {gateway after : Gateway} (frame : RefusalFrame gateway after)
    (field : Gateway → Value)
    (blind : ∀ ledger rateStreak totalStreak missStreak lastMissNs packager, field { gateway with
      ledger := ledger
      rateOverloadStreak := rateStreak
      totalOverloadStreak := totalStreak
      whitelistMissStreak := missStreak
      whitelistLastMissNs := lastMissNs
      e2ePackager := packager } = field gateway) :
    field after = field gateway := by
  obtain ⟨ledger, rateStreak, totalStreak, missStreak, lastMissNs, packager, rfl⟩ := frame
  exact blind ledger rateStreak totalStreak missStreak lastMissNs packager

theorem burn_keeps (gateway : Gateway) (pending : Option (Bytes × Nat)) (now : Nat)
    (field : Gateway → Value)
    (blind : ∀ consumed, field { gateway with consumedConfirmations := consumed } =
      field gateway) :
    field (gateway.burn pending now) = field gateway := by
  rw [burn_eq]
  exact blind _

theorem performAll_keeps (ops : List GatewayOp) (field : Gateway → Value)
    (each : ∀ gateway, ∀ op ∈ ops, field (gateway.perform op) = field gateway)
    (gateway : Gateway) : field (gateway.performAll ops) = field gateway := by
  induction ops generalizing gateway with
  | nil => rfl
  | cons op rest ih =>
      have later := ih (fun other op member => each other op (List.mem_cons_of_mem _ member))
        (gateway.perform op)
      exact later.trans (each gateway op (List.mem_cons_self ..))

end Fields

/-- The operation's part on the ledger, which no other field decides. -/
def GatewayOp.onLedger (ledger : TxLedger) : GatewayOp → TxLedger
  | .estopTriggered => ledger.clearLane
  | .safetyStateChanged newState => if newState = .fault then ledger.clearLane else ledger
  | .rebindBus _ now => ledger.rebind now
  | _ => ledger

theorem perform_ledger (gateway : Gateway) (op : GatewayOp) :
    (gateway.perform op).ledger = op.onLedger gateway.ledger := by
  cases op with
  | rebindWhitelist change =>
      exact rebindWhitelist_keeps gateway change Gateway.ledger (fun _ _ _ => rfl)
  | notifyLinkFault kind plane =>
      exact notifyLinkFault_keeps gateway kind plane Gateway.ledger (fun _ _ => rfl)
  | _ => rfl

theorem perform_stampSeq (gateway : Gateway) (op : GatewayOp) :
    (gateway.perform op).ledger.stampSeq = gateway.ledger.stampSeq := by
  rw [perform_ledger]
  cases op with
  | safetyStateChanged newState =>
      unfold GatewayOp.onLedger
      dsimp only
      split <;> rfl
  | _ => rfl

theorem perform_consumed (gateway : Gateway) (op : GatewayOp) :
    (gateway.perform op).consumedConfirmations = gateway.consumedConfirmations := by
  cases op with
  | rebindWhitelist change =>
      exact rebindWhitelist_keeps gateway change Gateway.consumedConfirmations (fun _ _ _ => rfl)
  | notifyLinkFault kind plane =>
      exact notifyLinkFault_keeps gateway kind plane Gateway.consumedConfirmations
        (fun _ _ => rfl)
  | _ => rfl

theorem performAll_ledger (gateway : Gateway) (ops : List GatewayOp) :
    (gateway.performAll ops).ledger = ops.foldl GatewayOp.onLedger gateway.ledger := by
  induction ops generalizing gateway with
  | nil => rfl
  | cons op rest ih => exact (ih (gateway.perform op)).trans (by rw [perform_ledger]; rfl)

theorem performAll_consumed (gateway : Gateway) (ops : List GatewayOp) :
    (gateway.performAll ops).consumedConfirmations = gateway.consumedConfirmations :=
  performAll_keeps ops Gateway.consumedConfirmations
    (fun gateway op _ => perform_consumed gateway op) gateway

end Ucanlab.Safety

/-!
What later calls can see of the budgets: the live entries of both windows, the
levels of the buckets and the consumed tokens. The other operations of the
gateway respect this view, and a reservation handed back is not visible in it.
-/

namespace Ucanlab.Safety

open Ucanlab SlidingWindow

/-- The entries of both windows that are live at `start`, and the levels of the
buckets from `finish` on. -/
structure TxLedger.SameView (start finish : Nat) (left right : TxLedger) : Prop where
  lane : prune rateLimitWindowNs start left.txTimestamps =
    prune rateLimitWindowNs start right.txTimestamps
  total : prune rateLimitWindowNs start left.txTotalTimestamps =
    prune rateLimitWindowNs start right.txTotalTimestamps
  buckets : ∀ lane, TxBudget.SameFrom finish (left.budgets lane) (right.budgets lane)

namespace TxLedger

variable {start finish : Nat} {left right : TxLedger}

theorem SameView.refl (start finish : Nat) (ledger : TxLedger) :
    ledger.SameView start finish ledger :=
  ⟨rfl, rfl, fun lane => TxBudget.SameFrom.refl finish (ledger.budgets lane)⟩

theorem SameView.trans {middle : TxLedger} (first : left.SameView start finish middle)
    (second : middle.SameView start finish right) : left.SameView start finish right :=
  ⟨first.lane.trans second.lane, first.total.trans second.total,
    fun lane => (first.buckets lane).trans (second.buckets lane)⟩

theorem SameView.mono {laterStart laterFinish : Nat} (same : left.SameView start finish right)
    (startOrder : start ≤ laterStart) (finishOrder : finish ≤ laterFinish) :
    left.SameView laterStart laterFinish right := by
  refine ⟨?_, ?_, fun lane => (same.buckets lane).mono finishOrder⟩
  · rw [← prune_prune startOrder left.txTimestamps, same.lane, prune_prune startOrder]
  · rw [← prune_prune startOrder left.txTotalTimestamps, same.total, prune_prune startOrder]

theorem SameView.clearLane (same : left.SameView start finish right) :
    left.clearLane.SameView start finish right.clearLane :=
  ⟨rfl, same.total, same.buckets⟩

theorem sameView_rebind (start finish : Nat) (left right : TxLedger) (now : Nat) :
    (left.rebind now).SameView start finish (right.rebind now) :=
  ⟨rfl, rfl, fun lane => TxBudget.SameFrom.refl finish (lane.newBudget now)⟩

theorem pruneTotal_sameView (ledger : TxLedger) (start finish : Nat) :
    (ledger.pruneTotal start).SameView start finish ledger :=
  ⟨rfl, prune_prune (Nat.le_refl start) ledger.txTotalTimestamps,
    fun lane => TxBudget.SameFrom.refl finish (ledger.budgets lane)⟩

theorem SameView.clearLane_iff (same : left.SameView start finish right) :
    left.clearLane.SameView start finish right ↔
      prune rateLimitWindowNs start right.txTimestamps = [] := by
  constructor
  · intro cleared
    exact cleared.lane.symm
  · intro idle
    exact ⟨idle.symm, same.total, same.buckets⟩

end TxLedger

theorem TxLedger.SameView.onLedger {start finish : Nat} {left right : TxLedger}
    (same : left.SameView start finish right) (op : GatewayOp) :
    (op.onLedger left).SameView start finish (op.onLedger right) := by
  cases op with
  | estopTriggered => exact same.clearLane
  | safetyStateChanged newState =>
      unfold GatewayOp.onLedger
      dsimp only
      split
      · exact same.clearLane
      · exact same
  | rebindBus bus now => exact TxLedger.sameView_rebind start finish left right now
  | _ => exact same

theorem TxLedger.SameView.onLedgerAll {start finish : Nat} {left right : TxLedger}
    (same : left.SameView start finish right) (ops : List GatewayOp) :
    (ops.foldl GatewayOp.onLedger left).SameView start finish
      (ops.foldl GatewayOp.onLedger right) := by
  induction ops generalizing left right with
  | nil => exact same
  | cons op rest ih => exact ih (same.onLedger op)

section Rollback

def Charge.Known (charge : Charge) (ledger : TxLedger) : Prop :=
  ∀ lane generation, charge.meter = .bucket lane generation → generation ≤ ledger.budgetGeneration

theorem Charge.Known.onLedger {charge : Charge} {ledger : TxLedger} (known : charge.Known ledger)
    (op : GatewayOp) : charge.Known (op.onLedger ledger) := by
  intro lane generation drawn
  have order := known lane generation drawn
  cases op with
  | safetyStateChanged newState =>
      unfold GatewayOp.onLedger
      dsimp only
      split
      · exact order
      · exact order
  | rebindBus bus now => exact Nat.le_succ_of_le order
  | _ => exact order

/-- Handing a reservation back commutes with what the surroundings do. -/
theorem rollback_onLedger {charge : Charge} {ledger : TxLedger} (known : charge.Known ledger)
    (op : GatewayOp) :
    (op.onLedger ledger).rollback charge = op.onLedger (ledger.rollback charge) := by
  have cleared : ledger.clearLane.rollback charge = (ledger.rollback charge).clearLane := by
    unfold TxLedger.rollback
    cases charge.meter with
    | window stamp => rfl
    | bucket lane generation =>
        simp only [apply_ite TxLedger.clearLane]
        rfl
  cases op with
  | estopTriggered => exact cleared
  | safetyStateChanged newState =>
      unfold GatewayOp.onLedger
      dsimp only
      split
      · exact cleared
      · rfl
  | rebindBus bus now =>
      change (ledger.rebind now).rollback charge = (ledger.rollback charge).rebind now
      unfold TxLedger.rollback
      cases drawn : charge.meter with
      | window stamp => rfl
      | bucket lane generation =>
          have order := known lane generation drawn
          have older : ¬ generation = ((ledger.rebind now).removeTotal
              charge.totalStamp).budgetGeneration := by
            change ¬ generation = ledger.budgetGeneration + 1
            omega
          dsimp only
          rw [if_neg older]
          split <;> rfl
  | _ => rfl

theorem rollback_onLedgerAll {charge : Charge} {ledger : TxLedger} (known : charge.Known ledger)
    (ops : List GatewayOp) :
    (ops.foldl GatewayOp.onLedger ledger).rollback charge =
      ops.foldl GatewayOp.onLedger (ledger.rollback charge) := by
  induction ops generalizing ledger with
  | nil => rfl
  | cons op rest ih =>
      simp only [List.foldl_cons]
      rw [ih (known.onLedger op), rollback_onLedger known op]

theorem TxLedger.rollback_bucket (ledger : TxLedger) (stamp : Stamp) (lane : Lane) :
    ledger.rollback { totalStamp := stamp, meter := .bucket lane ledger.budgetGeneration } =
      (ledger.removeTotal stamp).setBudget lane ((ledger.budgets lane).refund 1) :=
  if_pos rfl

theorem bucketDry_eq_false {gateway : Gateway} {lane : Lane} {now : Nat} :
    gateway.bucketDry lane now = false ↔
      ((gateway.ledger.budgets lane).tryConsume now 1).2 = true := by
  unfold Gateway.bucketDry
  rw [Bool.not_eq_false']

/-- A frame charged to the envelope and to its lane leaves no trace once its
reservation is handed back. -/
theorem RateCharged.rollback_sameView {gateway charged : Gateway} {clock : Clock} {owner : Nat}
    {request : TxRequest} {charge : Charge} {lane : Lane}
    (rate : RateCharged gateway clock owner request charged charge lane) :
    (charged.ledger.rollback charge).SameView clock.start clock.burn gateway.ledger ∧
      charge.Known charged.ledger := by
  obtain ⟨totalStamp, meter⟩ := charge
  obtain ⟨_, _, _, stamped, metered⟩ := rate
  dsimp only at stamped metered
  subst stamped
  have enveloped : ((gateway.ledger.pruneTotal clock.start).txTotalTimestamps ++
      [(gateway.ledger.pruneTotal clock.start).nextStamp clock.start owner]).erase
        ((gateway.ledger.pruneTotal clock.start).nextStamp clock.start owner) =
      prune rateLimitWindowNs clock.start gateway.ledger.txTotalTimestamps :=
    erase_append_self ((gateway.ledger.pruneTotal clock.start).totalNumbered.fresh
      (Nat.lt_succ_self _))
  have total := congrArg (prune rateLimitWindowNs clock.start) enveloped
  rw [prune_prune (Nat.le_refl clock.start)] at total
  cases metered with
  | window room =>
      have fresh : (gateway.chargeEnvelope clock.start owner).ledger.nextStamp clock.start owner ∉
          prune rateLimitWindowNs clock.start gateway.ledger.txTimestamps :=
        ((gateway.chargeEnvelope clock.start owner).ledger.pruneLane clock.start).laneNumbered.fresh
          (Nat.lt_succ_self _)
      have ownLane := congrArg (prune rateLimitWindowNs clock.start) (erase_append_self fresh)
      rw [prune_prune (Nat.le_refl clock.start)] at ownLane
      exact ⟨⟨ownLane, total, fun other => TxBudget.SameFrom.refl _ _⟩, nofun⟩
  | bucket _ categorised level =>
      refine ⟨?_, fun _ _ same => by cases same; exact Nat.le_refl _⟩
      have drawn : ((gateway.ledger.budgets lane).tryConsume clock.bucket 1).2 = true :=
        bucketDry_eq_false.mp level
      have handedBack : ((gateway.ledger.budgets lane).tryConsume clock.bucket 1).1.refund 1 =
          (gateway.ledger.budgets lane).refill clock.bucket :=
        TxBudget.refund_tryConsume (Prod.ext rfl drawn)
      change TxLedger.SameView clock.start clock.burn (TxLedger.rollback _ {
        totalStamp := (gateway.ledger.pruneTotal clock.start).nextStamp clock.start owner
        meter := .bucket lane ((gateway.chargeEnvelope clock.start owner).drawBucket lane
          clock.bucket).ledger.budgetGeneration }) _
      rw [TxLedger.rollback_bucket]
      refine ⟨rfl, total, ?_⟩
      intro other
      change TxBudget.SameFrom clock.burn
        (if other = lane then
          ((if lane = lane then ((gateway.ledger.budgets lane).tryConsume clock.bucket 1).1
            else gateway.ledger.budgets lane).refund 1)
        else if other = lane then ((gateway.ledger.budgets lane).tryConsume clock.bucket 1).1
          else gateway.ledger.budgets other) (gateway.ledger.budgets other)
      by_cases same : other = lane
      · rw [if_pos same, if_pos rfl, handedBack, same]
        exact (TxBudget.refill_sameFrom _ _).mono clock.burnAfter
      · rw [if_neg same, if_neg same]
        exact TxBudget.SameFrom.refl _ _

theorem rateLimitWindow_pos : 0 < rateLimitWindowNs := Nat.zero_lt_succ _

theorem LaneRefused.total_ne {gateway : Gateway} {clock : Clock} {owner : Nat} {inbound : Bool}
    {lane : Lane} {rejection : Rejection}
    (refused : LaneRefused (gateway.chargeEnvelope clock.start owner) clock inbound lane
      rejection) :
    prune rateLimitWindowNs clock.start rejection.gateway.ledger.txTotalTimestamps ≠
      prune rateLimitWindowNs clock.start gateway.ledger.txTotalTimestamps := by
  have charged : rejection.gateway.ledger.txTotalTimestamps =
      prune rateLimitWindowNs clock.start gateway.ledger.txTotalTimestamps ++
        [(gateway.ledger.pruneTotal clock.start).nextStamp clock.start owner] := by
    cases refused with
    | window full => rfl
    | bucket _ categorised dry => rfl
  intro total
  rw [← prune_prune (Nat.le_refl clock.start) gateway.ledger.txTotalTimestamps, charged] at total
  exact prune_append_live_ne _ _ (live_at_own_time rateLimitWindow_pos owner clock.start _) total

end Rollback

end Ucanlab.Safety
