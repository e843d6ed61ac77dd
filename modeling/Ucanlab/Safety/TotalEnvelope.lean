import Ucanlab.Safety.Fence

/-!
The envelope over all lanes: as long as the bus is not replaced, the frames that
are on the wire or still hold their reservation never exceed the limit in any
window, whatever is refused, rolled back or reset in between.
-/

namespace Ucanlab.Safety

open Ucanlab E2E EventRun SlidingWindow

def Event.replacesBus : Event → Bool
  | .rebindBus _ => true
  | _ => false

section Ledger

/-- Nothing live leaves the window over all lanes, and the numbers only grow. -/
structure KeepsTotal (now : Nat) (ledger after : TxLedger) : Prop where
  window : ∀ stamp ∈ prune rateLimitWindowNs now ledger.txTotalTimestamps,
    stamp ∈ after.txTotalTimestamps
  counter : ledger.stampSeq ≤ after.stampSeq

theorem KeepsTotal.of_eq {now : Nat} {ledger after : TxLedger}
    (window : after.txTotalTimestamps = ledger.txTotalTimestamps)
    (counter : after.stampSeq = ledger.stampSeq) : KeepsTotal now ledger after := by
  refine ⟨?_, Nat.le_of_eq counter.symm⟩
  intro stamp member
  rw [window]
  exact mem_of_mem_prune member

theorem KeepsTotal.of_pruned {now : Nat} {ledger after : TxLedger}
    (window : after.txTotalTimestamps = prune rateLimitWindowNs now ledger.txTotalTimestamps)
    (counter : after.stampSeq = ledger.stampSeq) : KeepsTotal now ledger after := by
  refine ⟨?_, Nat.le_of_eq counter.symm⟩
  intro stamp member
  rw [window]
  exact member

theorem LaneCharged.total {gateway after : Gateway} {clock : Clock} {owner : Nat} {lane : Lane}
    {meter : Meter} (charged : LaneCharged gateway clock owner lane after meter) :
    after.ledger.txTotalTimestamps = gateway.ledger.txTotalTimestamps ∧
      gateway.ledger.stampSeq ≤ after.ledger.stampSeq := by
  cases charged with
  | window room => exact ⟨rfl, Nat.le_succ _⟩
  | bucket _ categorised level => exact ⟨rfl, Nat.le_refl _⟩

structure ChargedTotal (gateway : Gateway) (clock : Clock) (after : TxLedger) (stamp : Stamp) :
    Prop where
  room : (prune rateLimitWindowNs clock.start gateway.ledger.txTotalTimestamps).length <
    maxTotalTxPerSec
  time : stamp.time = clock.start
  number : stamp.seq = gateway.ledger.stampSeq + 1
  window : after.txTotalTimestamps =
    prune rateLimitWindowNs clock.start gateway.ledger.txTotalTimestamps ++ [stamp]
  counter : gateway.ledger.stampSeq + 1 ≤ after.stampSeq

theorem RateCharged.chargedTotal {gateway charged : Gateway} {clock : Clock} {owner : Nat}
    {request : TxRequest} {charge : Charge} {lane : Lane}
    (rate : RateCharged gateway clock owner request charged charge lane) :
    ChargedTotal gateway clock charged.ledger charge.totalStamp := by
  obtain ⟨window, counter⟩ := rate.lane.total
  have room := rate.room
  simp only [Gateway.envelopeFull, decide_eq_false_iff_not, Nat.not_le] at room
  have stamp := rate.totalStamp
  refine ⟨room, ?_, ?_, ?_, counter⟩
  · rw [stamp]
    rfl
  · rw [stamp]
    rfl
  · rw [window, stamp]
    rfl

theorem ChargedTotal.keeps {gateway : Gateway} {clock : Clock} {after : TxLedger} {stamp : Stamp}
    (charged : ChargedTotal gateway clock after stamp) :
    KeepsTotal clock.start gateway.ledger after := by
  refine ⟨?_, Nat.le_trans (Nat.le_succ _) charged.counter⟩
  intro other member
  rw [charged.window]
  exact List.mem_append_left _ member

theorem rollback_total (ledger : TxLedger) (charge : Charge) :
    (ledger.rollback charge).txTotalTimestamps =
        ledger.txTotalTimestamps.erase charge.totalStamp ∧
      (ledger.rollback charge).stampSeq = ledger.stampSeq := by
  unfold TxLedger.rollback
  dsimp only
  cases charge.meter with
  | window stamp => exact ⟨rfl, rfl⟩
  | bucket lane generation =>
      dsimp only
      split
      · exact ⟨rfl, rfl⟩
      · exact ⟨rfl, rfl⟩

theorem ChargedTotal.rolledBack {gateway : Gateway} {clock : Clock} {after : TxLedger}
    {charge : Charge} (charged : ChargedTotal gateway clock after charge.totalStamp) :
    KeepsTotal clock.start gateway.ledger (after.rollback charge) := by
  obtain ⟨window, counter⟩ := rollback_total after charge
  constructor
  · intro other member
    have fresh : charge.totalStamp ∉
        prune rateLimitWindowNs clock.start gateway.ledger.txTotalTimestamps :=
      gateway.ledger.totalNumbered.prune.fresh (by rw [charged.number]; exact Nat.lt_succ_self _)
    rw [window, charged.window, erase_append_self fresh]
    exact member
  · rw [counter]
    exact charged.keeps.counter

theorem RateRefused.keepsTotal {gateway : Gateway} {clock : Clock} {owner : Nat}
    {request : TxRequest} {rejection : Rejection}
    (refused : RateRefused gateway clock owner request rejection) :
    KeepsTotal clock.start gateway.ledger rejection.gateway.ledger := by
  cases refused with
  | category unknown => exact KeepsTotal.of_eq rfl rfl
  | envelope lane known full => exact KeepsTotal.of_pruned rfl rfl
  | simulation lane known room misused => exact KeepsTotal.of_pruned rfl rfl
  | lane lane known room purpose _ metered =>
      -- the stamp of a frame its own lane refuses stays behind
      cases metered with
      | window full =>
          exact ⟨fun stamp member => List.mem_append_left _ member, Nat.le_succ _⟩
      | bucket _ categorised dry =>
          exact ⟨fun stamp member => List.mem_append_left _ member, Nat.le_succ _⟩

theorem validateLocked_error_keepsTotal {digests : Digests} {gateway : Gateway} {plane : TxPlane}
    {clock : Clock} {owner : Nat} {request : TxRequest} {rejection : Rejection}
    (refused : gateway.validateLocked digests plane clock owner request = .error rejection) :
    KeepsTotal clock.start gateway.ledger rejection.gateway.ledger := by
  cases validateLocked_error refused with
  | admission _ early =>
      rcases early.state with same | missed
      · rw [same]
        exact KeepsTotal.of_eq rfl rfl
      · rw [missed]
        exact KeepsTotal.of_eq rfl rfl
  | rate pending _ admitted late => exact late.keepsTotal
  | stamping lane charged counted charge cause rate failed =>
      obtain ⟨packager, replaced⟩ := sealStage_packager charged request.frame
      rw [failed] at replaced
      change counted = _ at replaced
      rw [replaced]
      exact rate.chargedTotal.rolledBack

theorem validateLocked_ok_chargedTotal {digests : Digests} {gateway after : Gateway}
    {plane : TxPlane} {clock : Clock} {owner : Nat} {request : TxRequest}
    {reservation : Reservation}
    (passed : gateway.validateLocked digests plane clock owner request =
      .ok (after, reservation)) :
    ChargedTotal gateway clock after.ledger reservation.charge.totalStamp := by
  obtain ⟨facts⟩ := validateLocked_ok passed
  obtain ⟨packager, counted⟩ := (sealStage_ok facts.stamped).state
  have same : after.ledger = facts.charged.ledger := by
    have result := congrArg Gateway.ledger facts.result
    rw [burn_eq, counted] at result
    exact result
  rw [same]
  exact facts.rate.chargedTotal

end Ledger

section Holders

universe u

variable {Value : Type u}

theorem filterMap_update_subperm (held : Nat → Option Value) (key : Nat) (value : Option Value)
    {keys : List Nat} (distinct : keys.Nodup) :
    (keys.filterMap (Function.update held key value)).Subperm
      (value.toList ++ (keys.filter (· != key)).filterMap held) := by
  have others : ∀ {rest : List Nat}, key ∉ rest →
      rest.filterMap (Function.update held key value) = rest.filterMap held := by
    intro rest absent
    apply List.filterMap_congr
    intro other member
    have different : other ≠ key := fun same => absent (same ▸ member)
    exact Function.update_of_ne different value held
  rw [← distinct.erase_eq_filter key]
  by_cases member : key ∈ keys
  · have order := (List.perm_cons_erase member).filterMap (Function.update held key value)
    rw [List.filterMap_cons, others distinct.not_mem_erase, Function.update_self] at order
    cases value with
    | none => exact order.subperm
    | some taken => exact order.subperm
  · rw [List.erase_of_not_mem member, others member]
    exact (List.sublist_append_right _ _).subperm

theorem nodup_cons_filter (key : Nat) {keys : List Nat} (distinct : keys.Nodup) :
    (key :: keys.filter (· != key)).Nodup := by
  rw [← distinct.erase_eq_filter key]
  exact List.nodup_cons.mpr ⟨distinct.not_mem_erase, distinct.erase key⟩

end Holders

namespace World

def heldStamp (world : World) (id : Nat) : Option Stamp :=
  (world.calls id).map (fun call => call.reservation.charge.totalStamp)

def wireStamps (world : World) : List Stamp :=
  world.wire.map (fun sent => sent.reservation.charge.totalStamp)

/-- The stamps of the frames handed to the bus and of those of the given calls
that still hold their reservation. -/
def acceptedStamps (world : World) (ids : List Nat) : List Stamp :=
  world.wireStamps ++ ids.filterMap world.heldStamp

def Enveloped (world : World) : Prop :=
  ∀ ids : List Nat, ids.Nodup →
    NumberedUpTo world.gateway.ledger.stampSeq (world.acceptedStamps ids) ∧
      Metered rateLimitWindowNs maxTotalTxPerSec world.now world.gateway.ledger.txTotalTimestamps
        (world.acceptedStamps ids)

theorem Initial.enveloped {world : World} (start : world.Initial) : world.Enveloped := by
  intro ids distinct
  have nothing : world.acceptedStamps ids = [] := by
    unfold acceptedStamps wireStamps
    rw [start.wire, List.map_nil, List.nil_append, List.filterMap_eq_nil_iff]
    intro id member
    exact congrArg (Option.map _) (start.calls id)
  rw [nothing]
  exact ⟨NumberedUpTo.nil _, Metered.nil _ _ _ _⟩

theorem setCall_heldStamp (world : World) (id : Nat) (call : Option Call) :
    (world.setCall id call).heldStamp = Function.update world.heldStamp id
      (call.map (fun held => held.reservation.charge.totalStamp)) := by
  funext other
  unfold heldStamp
  rw [setCall_calls]
  by_cases same : other = id
  · rw [if_pos same, same, Function.update_self]
  · rw [if_neg same, Function.update_of_ne same]

theorem heldStamp_of_pending {world : World} {id : Nat} {call : Call}
    (pending : world.calls id = some call) :
    world.heldStamp id = some call.reservation.charge.totalStamp := by
  unfold heldStamp
  rw [pending, Option.map_some]

theorem restage_heldStamp {world : World} {id : Nat} {call : Call}
    (pending : world.calls id = some call) (stage : CallStage) :
    (world.setCall id (some { call with stage := stage })).heldStamp = world.heldStamp := by
  rw [setCall_heldStamp, Option.map_some, Function.update_eq_self_iff]
  exact (heldStamp_of_pending pending).symm

section Steps

variable {world next : World}

/-- A step that accepts no frame and hands none back. -/
theorem Enveloped.elapse (enveloped : world.Enveloped) {now : Nat} (start : world.now ≤ now)
    (finish : now ≤ next.now) (sent : next.wire = world.wire)
    (held : next.heldStamp = world.heldStamp)
    (kept : KeepsTotal now world.gateway.ledger next.gateway.ledger) : next.Enveloped := by
  have same : ∀ ids, next.acceptedStamps ids = world.acceptedStamps ids := by
    intro ids
    unfold acceptedStamps wireStamps
    rw [sent, held]
  intro ids distinct
  obtain ⟨numbered, metered⟩ := enveloped ids distinct
  rw [same]
  refine ⟨numbered.mono kept.counter, metered.elapse (Nat.le_trans start finish) ?_⟩
  intro stamp member live present
  apply kept.window stamp
  apply mem_prune_of_live present
  exact Bool.eq_false_iff.mpr (fun gone =>
    Bool.eq_false_iff.mp live (expired_mono finish stamp gone))

/-- A locked phase that left a reservation under the identifier. -/
theorem Enveloped.accept {clock : Clock} {stamp : Stamp} {id : Nat} (enveloped : world.Enveloped)
    (order : world.now ≤ clock.start) (finish : clock.start ≤ next.now)
    (charged : ChargedTotal world.gateway clock next.gateway.ledger stamp)
    (sent : next.wire = world.wire)
    (held : next.heldStamp = Function.update world.heldStamp id (some stamp)) :
    next.Enveloped := by
  intro ids distinct
  obtain ⟨numbered, metered⟩ := enveloped (ids.filter (· != id)) (distinct.filter _)
  have sub : (next.acceptedStamps ids).Subperm
      (stamp :: world.acceptedStamps (ids.filter (· != id))) := by
    unfold acceptedStamps wireStamps
    rw [sent, held]
    have later := filterMap_update_subperm world.heldStamp id (some stamp) distinct
    exact ((List.subperm_append_left _).mpr later).trans List.perm_middle.subperm
  have fresh : stamp ∉ world.acceptedStamps (ids.filter (· != id)) :=
    numbered.fresh (by rw [charged.number]; exact Nat.lt_succ_self _)
  have admitted : Metered rateLimitWindowNs maxTotalTxPerSec stamp.time
      next.gateway.ledger.txTotalTimestamps
      (stamp :: world.acceptedStamps (ids.filter (· != id))) := by
    apply metered.accept
    · rw [charged.time]
      exact order
    · exact fresh
    · rw [charged.time]
      exact charged.room
    · rw [charged.time]
      exact charged.keeps.window
    · rw [charged.window]
      exact List.mem_append_right _ (List.mem_singleton_self _)
  rw [charged.time] at admitted
  constructor
  · intro other member
    rcases List.mem_cons.mp (sub.subset member) with same | old
    · rw [same, charged.number]
      exact charged.counter
    · exact Nat.le_trans (numbered other old) charged.keeps.counter
  · exact (admitted.elapse finish (fun _ _ _ present => present)).subperm sub

theorem Enveloped.send {stamp : Stamp} {id : Nat} (enveloped : world.Enveloped)
    (pending : world.heldStamp id = some stamp) (sent : next.wireStamps = stamp :: world.wireStamps)
    (held : next.heldStamp = Function.update world.heldStamp id none)
    (ledger : next.gateway.ledger = world.gateway.ledger) (now : next.now = world.now) :
    next.Enveloped := by
  intro ids distinct
  obtain ⟨numbered, metered⟩ := enveloped _ (nodup_cons_filter id distinct)
  have sub : (next.acceptedStamps ids).Subperm
      (world.acceptedStamps (id :: ids.filter (· != id))) := by
    unfold acceptedStamps
    rw [sent, held, List.filterMap_cons_some pending]
    have later := filterMap_update_subperm world.heldStamp id none distinct
    exact ((List.subperm_cons stamp).mpr ((List.subperm_append_left _).mpr later)).trans
      List.perm_middle.symm.subperm
  rw [ledger, now]
  exact ⟨fun other member => numbered other (sub.subset member), metered.subperm sub⟩

theorem Enveloped.handBack {charge : Charge} {id : Nat} (enveloped : world.Enveloped)
    (pending : world.heldStamp id = some charge.totalStamp) (sent : next.wire = world.wire)
    (held : next.heldStamp = Function.update world.heldStamp id none)
    (ledger : next.gateway.ledger = world.gateway.ledger.rollback charge)
    (now : next.now = world.now) : next.Enveloped := by
  obtain ⟨window, counter⟩ := rollback_total world.gateway.ledger charge
  intro ids distinct
  obtain ⟨numbered, metered⟩ := enveloped _ (nodup_cons_filter id distinct)
  have order : (world.acceptedStamps (id :: ids.filter (· != id))).Perm
      (charge.totalStamp :: world.acceptedStamps (ids.filter (· != id))) := by
    unfold acceptedStamps
    rw [List.filterMap_cons_some pending]
    exact List.perm_middle
  have sub : (next.acceptedStamps ids).Subperm
      (world.acceptedStamps (ids.filter (· != id))) := by
    unfold acceptedStamps wireStamps
    rw [sent, held]
    exact (List.subperm_append_left _).mpr
      (filterMap_update_subperm world.heldStamp id none distinct)
  have own : charge.totalStamp ∉ next.acceptedStamps ids := by
    intro member
    exact (List.nodup_cons.mp (order.nodup_iff.mp metered.distinct)).1 (sub.subset member)
  have whole := sub.trans ((List.sublist_cons_self _ _).subperm.trans order.symm.subperm)
  rw [ledger, now, counter]
  refine ⟨fun other member => numbered other (whole.subset member), ?_⟩
  apply (metered.subperm whole).elapse (Nat.le_refl _)
  intro other member _ present
  have different : other ≠ charge.totalStamp := fun same => own (same ▸ member)
  rw [window]
  exact (List.mem_erase_of_ne different).mpr present

end Steps

theorem perform_total (gateway : Gateway) {op : GatewayOp}
    (other : ∀ bus time, op ≠ .rebindBus bus time) :
    (gateway.perform op).ledger.txTotalTimestamps = gateway.ledger.txTotalTimestamps := by
  rw [perform_ledger]
  cases op with
  | rebindBus bus time => exact absurd rfl (other bus time)
  | safetyStateChanged newState =>
      unfold GatewayOp.onLedger
      dsimp only
      split
      · rfl
      · rfl
  | _ => rfl

theorem surroundings_keepTotal {digests : Digests} {world next : World} {event : Event}
    (stepped : world.step digests event = some next) (other : isCallStep event = false)
    (bound : event.replacesBus = false) (now : Nat) :
    KeepsTotal now world.gateway.ledger next.gateway.ledger := by
  obtain ⟨ops, performed, origins⟩ := step_performs stepped other
  have each : ∀ op ∈ ops, ∀ bus time, op ≠ .rebindBus bus time := by
    intro op member bus time same
    have origin := origins op member
    rw [same] at origin
    rw [origin] at bound
    cases bound
  have window := performAll_keeps ops (fun gateway => gateway.ledger.txTotalTimestamps)
    (fun gateway op member => perform_total gateway (each op member)) world.gateway
  have counter := performAll_keeps ops (fun gateway => gateway.ledger.stampSeq)
    (fun gateway op _ => perform_stampSeq gateway op) world.gateway
  rw [performed]
  exact KeepsTotal.of_eq window counter

theorem enveloped_step {digests : Digests} {world next : World} {event : Event}
    (enveloped : world.Enveloped) (bound : event.replacesBus = false)
    (stepped : world.step digests event = some next) : next.Enveloped := by
  cases kind : isCallStep event with
  | false =>
      have same := step_surroundings stepped kind
      have held : next.heldStamp = world.heldStamp := by
        unfold heldStamp
        rw [same.calls]
      exact enveloped.elapse same.now (Nat.le_refl _) same.wire held
        (surroundings_keepTotal stepped kind bound next.now)
  | true =>
      cases event with
      | validate id owner request clock =>
          have finish : clock.start ≤ clock.burn :=
            Nat.le_trans clock.verifyAfter (Nat.le_trans clock.bucketAfter clock.burnAfter)
          obtain ⟨_, order, ⟨rejection, refused, rfl⟩ | ⟨gateway, reservation, passed, rfl⟩⟩ :=
            step_validate stepped
          · exact enveloped.elapse order finish rfl rfl
              (validateLocked_error_keepsTotal refused)
          · exact enveloped.accept order finish (validateLocked_ok_chargedTotal passed) rfl
              (setCall_heldStamp _ id _)
      | guard id =>
          obtain ⟨call, pending, _, rfl⟩ := step_guard stepped
          exact enveloped.elapse (Nat.le_refl _) (Nat.le_refl _) rfl
            (restage_heldStamp pending _) (KeepsTotal.of_eq rfl rfl)
      | dispatch id =>
          obtain ⟨call, pending, _, _, ⟨_, rfl⟩ | ⟨_, rfl⟩⟩ := step_dispatch stepped
          · exact enveloped.elapse (Nat.le_refl _) (Nat.le_refl _) rfl
              (restage_heldStamp pending _) (KeepsTotal.of_eq rfl rfl)
          · exact enveloped.send (heldStamp_of_pending pending) rfl
              (setCall_heldStamp _ id _) rfl rfl
      | rollback id =>
          obtain ⟨call, refusal, pending, _, rfl⟩ := step_rollback stepped
          exact enveloped.handBack (heldStamp_of_pending pending) rfl
            (setCall_heldStamp _ id _) rfl rfl
      | _ => cases kind

/-- Without a rebind no window of a second holds more accepted frames than the
envelope allows: the frames handed to the bus and those of any calls that still
hold their reservation, by the times they were accepted at. -/
theorem accepted_within_envelope {digests : Digests} {initial last : World} {events : List Event}
    (start : initial.Initial) (bound : ∀ event ∈ events, event.replacesBus = false)
    (ran : run (World.step digests) initial events = some last) (ids : List Nat)
    (distinct : ids.Nodup) (opening : Nat) :
    ((last.acceptedStamps ids).filter (within rateLimitWindowNs opening)).length ≤
      maxTotalTxPerSec := by
  have enveloped : last.Enveloped := run_invariant_of_meets
    (fun _ _ _ enveloped bound stepped => enveloped_step enveloped bound stepped)
    start.enveloped (Meets.of_forall bound initial) ran
  exact (enveloped ids distinct).2.bounded opening

section Bench

def twoAccepted : List Event :=
  plainSend ++ [.dispatch 0, .validate 1 0 { frame := plainFrame } (Clock.at 2)]

theorem twoAccepted_isSome :
    (run (World.step nullDigests) (bench [0x123] {} none) twoAccepted).isSome = true := rfl

theorem accepted_within_envelope_two :
    ∃ last, run (World.step nullDigests) (bench [0x123] {} none) twoAccepted = some last ∧
      last.wire.length = 1 ∧ (last.acceptedStamps [1]).length = 2 ∧
      ((last.acceptedStamps [1]).filter (within rateLimitWindowNs 1)).length ≤
        maxTotalTxPerSec := by
  have ran := (Option.some_get twoAccepted_isSome).symm
  exact ⟨_, ran, rfl, rfl, accepted_within_envelope (bench_initial _ _ _) (by decide) ran [1]
    (List.nodup_singleton 1) 1⟩

end Bench

end World

end Ucanlab.Safety
