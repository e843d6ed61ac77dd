import Ucanlab.Safety.WorldSpec

/-!
Single use of confirmation tokens over whole runs: which burns keep every live
entry of the replay table, and what follows when all of them do.
-/

namespace Ucanlab.Safety

open Ucanlab E2E EventRun

/-- Every burn finds room: the entries it prunes expired strictly before its
reading of the clock, and fewer than 1024 unexpired ones are left. -/
def BurnsSafely (digests : Digests) (world : World) (event : Event) : Prop :=
  ∀ id owner request clock gateway reservation,
    event = .validate id owner request clock →
    world.gateway.validateLocked digests world.plane clock owner request =
      .ok (gateway, reservation) →
    reservation.burnedPayload.isSome = true →
    world.gateway.consumedConfirmations.Roomy consumedConfirmationsMax clock.burn

namespace World

def PendingBurn (world : World) (id : Nat) (payload : Bytes) : Prop :=
  ∃ call, world.calls id = some call ∧ call.reservation.burnedPayload = some payload

def dispatchedPayloads (world : World) : List Bytes :=
  world.wire.filterMap (fun transmission => transmission.reservation.burnedPayload)

def Spent (world : World) (payload : Bytes) : Prop :=
  payload ∈ world.gateway.consumedConfirmations ∨ payloadExpiry payload < world.now

structure TokensTracked (world : World) : Prop where
  expiries : ∀ entry ∈ world.gateway.consumedConfirmations.entries,
    entry.2 = payloadExpiry entry.1
  pending : ∀ id payload, world.PendingBurn id payload → world.Spent payload
  dispatched : ∀ payload ∈ world.dispatchedPayloads, world.Spent payload
  apart : ∀ id payload, world.PendingBurn id payload → payload ∉ world.dispatchedPayloads
  distinct : ∀ id other payload, world.PendingBurn id payload →
    world.PendingBurn other payload → id = other
  once : world.dispatchedPayloads.Nodup

theorem Initial.tokensTracked {world : World} (initial : world.Initial) : world.TokensTracked := by
  have noCall : ∀ id payload, ¬ world.PendingBurn id payload := by
    rintro id payload ⟨call, pending, _⟩
    rw [initial.calls id] at pending
    cases pending
  have nothing : world.dispatchedPayloads = [] := by
    rw [dispatchedPayloads, initial.wire]
    rfl
  refine ⟨?_, fun id payload held => absurd held (noCall id payload), ?_,
    fun id payload held => absurd held (noCall id payload),
    fun id _ payload held => absurd held (noCall id payload), ?_⟩
  · rw [initial.consumed]
    exact fun entry member => absurd member List.not_mem_nil
  · rw [nothing]
    exact fun payload member => absurd member List.not_mem_nil
  · rw [nothing]
    exact List.nodup_nil

theorem Spent.keep {world next : World} {payload : Bytes}
    (consumed : next.gateway.consumedConfirmations = world.gateway.consumedConfirmations)
    (order : world.now ≤ next.now) (spent : world.Spent payload) : next.Spent payload := by
  rcases spent with present | passed
  · exact Or.inl (by rw [consumed]; exact present)
  · exact Or.inr (Nat.lt_of_lt_of_le passed order)

theorem TokensTracked.keep {world next : World} (tracked : world.TokensTracked)
    (consumed : next.gateway.consumedConfirmations = world.gateway.consumedConfirmations)
    (order : world.now ≤ next.now) (wire : next.wire = world.wire)
    (calls : ∀ id payload, next.PendingBurn id payload → world.PendingBurn id payload) :
    next.TokensTracked := by
  have same : next.dispatchedPayloads = world.dispatchedPayloads := by
    rw [dispatchedPayloads, wire]
    rfl
  refine ⟨?_, ?_, ?_, ?_, ?_, ?_⟩
  · rw [consumed]
    exact tracked.expiries
  · exact fun id payload held => (tracked.pending id payload (calls id payload held)).keep consumed order
  · rw [same]
    exact fun payload member => (tracked.dispatched payload member).keep consumed order
  · rw [same]
    exact fun id payload held => tracked.apart id payload (calls id payload held)
  · exact fun id other payload first second =>
      tracked.distinct id other payload (calls id payload first) (calls other payload second)
  · rw [same]
    exact tracked.once

theorem tokensTracked_validate {digests : Digests} {world next : World} {id owner : Nat}
    {request : TxRequest} {clock : Clock} (tracked : world.TokensTracked)
    (safe : BurnsSafely digests world (.validate id owner request clock))
    (stepped : world.step digests (.validate id owner request clock) = some next) :
    next.TokensTracked := by
  have order := now_step stepped
  obtain ⟨free, started, ⟨rejection, refused, rfl⟩ | ⟨gateway, reservation, passed, rfl⟩⟩ :=
    step_validate stepped
  · exact tracked.keep (validateLocked_error refused).frame.consumed order rfl
      (fun _ _ held => held)
  · obtain ⟨facts⟩ := validateLocked_ok passed
    have entered : ∀ other payload, PendingBurn
        (({ world with gateway := gateway, now := clock.burn }.setCall id (some {
          request := request
          reservation := reservation
          stage := .validated })).record id request .admitted) other payload →
        (other = id ∧ reservation.burnedPayload = some payload) ∨
          world.PendingBurn other payload := by
      rintro other payload ⟨call, pending, burned⟩
      simp only [record, setCall_calls] at pending
      split at pending
      · rename_i same
        cases pending
        exact Or.inl ⟨same, burned⟩
      · exact Or.inr ⟨call, pending, burned⟩
    rcases facts.burn_cases with ⟨_, nothing, consumed⟩ |
      ⟨payload, token, _, _, _, burned, checked, consumed⟩
    · refine tracked.keep consumed order rfl ?_
      intro other payload held
      rcases entered other payload held with ⟨_, burned⟩ | old
      · rw [nothing] at burned
        cases burned
      · exact old
    · have roomy := safe id owner request clock gateway reservation rfl passed (by rw [burned]; rfl)
      have late : world.now ≤ clock.burn := order
      have unspent : ¬ world.Spent payload := by
        rintro (present | passed)
        · exact checked.unused present
        · have unexpired := checked.unexpired
          have verify := clock.verifyAfter
          omega
      have kept : ∀ other, world.Spent other →
          (other ∈ gateway.consumedConfirmations ∨ payloadExpiry other < clock.burn) := by
        rintro other (present | passed)
        · obtain ⟨entry, member, rfl⟩ := List.mem_map.mp present
          by_cases live : clock.burn ≤ entry.2
          · rw [consumed]
            exact Or.inl (ReplayStore.mem_record_of_live roomy payload _ member live)
          · have sameExpiry := tracked.expiries entry member
            exact Or.inr (by omega)
        · exact Or.inr (by omega)
      refine ⟨?_, ?_, ?_, ?_, ?_, tracked.once⟩
      · intro entry member
        change entry ∈ gateway.consumedConfirmations.entries at member
        rw [consumed] at member
        rcases ReplayStore.mem_entries_of_mem_record member with old | new
        · exact tracked.expiries entry old
        · rw [new]
      · intro other spentPayload held
        rcases entered other spentPayload held with ⟨_, own⟩ | old
        · rw [burned] at own
          cases own
          left
          change payload ∈ gateway.consumedConfirmations
          rw [consumed]
          exact ReplayStore.mem_record_self roomy payload _
        · exact kept spentPayload (tracked.pending other spentPayload old)
      · exact fun other member => kept other (tracked.dispatched other member)
      · intro other spentPayload held dispatched
        rcases entered other spentPayload held with ⟨_, own⟩ | old
        · rw [burned] at own
          cases own
          exact unspent (tracked.dispatched payload dispatched)
        · exact tracked.apart other spentPayload old dispatched
      · intro first second spentPayload firstHeld secondHeld
        rcases entered first spentPayload firstHeld with ⟨firstId, own⟩ | firstOld
        · rcases entered second spentPayload secondHeld with ⟨secondId, _⟩ | secondOld
          · rw [firstId, secondId]
          · rw [burned] at own
            cases own
            exact absurd (tracked.pending second payload secondOld) unspent
        · rcases entered second spentPayload secondHeld with ⟨secondId, own⟩ | secondOld
          · rw [burned] at own
            cases own
            exact absurd (tracked.pending first payload firstOld) unspent
          · exact tracked.distinct first second spentPayload firstOld secondOld

theorem pendingBurn_of_setCall {world : World} {id : Nat} {call : Call}
    (known : world.calls id = some call) {stage : CallStage} {other : Nat} {payload : Bytes}
    (held : (world.setCall id (some { call with stage := stage })).PendingBurn other payload) :
    world.PendingBurn other payload := by
  obtain ⟨found, pending, burned⟩ := held
  rw [setCall_calls] at pending
  split at pending
  · rename_i own
    cases pending
    subst own
    exact ⟨call, known, burned⟩
  · exact ⟨found, pending, burned⟩

theorem tokensTracked_dispatch {digests : Digests} {world next : World} {id : Nat}
    (tracked : world.TokensTracked) (stepped : world.step digests (.dispatch id) = some next) :
    next.TokensTracked := by
  obtain ⟨call, known, _, _, ⟨_, rfl⟩ | ⟨_, rfl⟩⟩ := step_dispatch stepped
  · exact tracked.keep rfl (Nat.le_refl _) rfl
      (fun _ _ held => pendingBurn_of_setCall known held)
  · have left : ∀ other payload, PendingBurn
        (({ world with
            wire := {
              id := id
              reservation := call.reservation
              bus := world.gateway.bus } :: world.wire }.setCall id none).record id call.request
                .accepted) other payload →
        other ≠ id ∧ world.PendingBurn other payload := by
      rintro other payload ⟨found, pending, burned⟩
      simp only [record, setCall_calls] at pending
      split at pending
      · cases pending
      · rename_i different
        exact ⟨different, found, pending, burned⟩
    cases burned : call.reservation.burnedPayload with
    | none =>
        have same : dispatchedPayloads
            (({ world with
                wire := {
                  id := id
                  reservation := call.reservation
                  bus := world.gateway.bus } :: world.wire }.setCall id none).record id
                    call.request .accepted) = world.dispatchedPayloads := by
          simp only [dispatchedPayloads, record, setCall, List.filterMap_cons, burned]
        refine ⟨tracked.expiries, fun other payload held => tracked.pending other payload
          (left other payload held).2, ?_, ?_, fun first second payload firstHeld secondHeld =>
          tracked.distinct first second payload (left first payload firstHeld).2
            (left second payload secondHeld).2, ?_⟩
        · rw [same]
          exact tracked.dispatched
        · rw [same]
          exact fun other payload held => tracked.apart other payload (left other payload held).2
        · rw [same]
          exact tracked.once
    | some spentPayload =>
        have own : world.PendingBurn id spentPayload := ⟨call, known, burned⟩
        have joined : dispatchedPayloads
            (({ world with
                wire := {
                  id := id
                  reservation := call.reservation
                  bus := world.gateway.bus } :: world.wire }.setCall id none).record id
                    call.request .accepted) = spentPayload :: world.dispatchedPayloads := by
          simp only [dispatchedPayloads, record, setCall, List.filterMap_cons, burned]
        refine ⟨tracked.expiries, fun other payload held => tracked.pending other payload
          (left other payload held).2, ?_, ?_, fun first second payload firstHeld secondHeld =>
          tracked.distinct first second payload (left first payload firstHeld).2
            (left second payload secondHeld).2, ?_⟩
        · rw [joined]
          intro payload member
          rcases List.mem_cons.mp member with same | old
          · rw [same]
            exact tracked.pending id spentPayload own
          · exact tracked.dispatched payload old
        · rw [joined]
          intro other payload held member
          obtain ⟨different, old⟩ := left other payload held
          rcases List.mem_cons.mp member with same | dispatched
          · rw [same] at old
            exact different (tracked.distinct other id spentPayload old own)
          · exact tracked.apart other payload old dispatched
        · rw [joined]
          exact List.nodup_cons.mpr ⟨tracked.apart id spentPayload own, tracked.once⟩

theorem tokensTracked_rollback {digests : Digests} {world next : World} {id : Nat}
    (tracked : world.TokensTracked) (stepped : world.step digests (.rollback id) = some next) :
    next.TokensTracked := by
  obtain ⟨call, refusal, known, _, rfl⟩ := step_rollback stepped
  have left : ∀ other payload, PendingBurn
      (({ world with
          gateway := world.gateway.rollback call.reservation.charge
            call.reservation.burnedPayload }.setCall id none).record id call.request
              (.refused refusal)) other payload →
      other ≠ id ∧ world.PendingBurn other payload := by
    rintro other payload ⟨found, pending, burned⟩
    simp only [record, setCall_calls] at pending
    split at pending
    · cases pending
    · rename_i different
      exact ⟨different, found, pending, burned⟩
  -- a refund takes out the payload of this call only, and no other call shares it
  have kept : ∀ payload, call.reservation.burnedPayload ≠ some payload → world.Spent payload →
      (payload ∈ refundConfirmation world.gateway.consumedConfirmations
          call.reservation.burnedPayload ∨ payloadExpiry payload < world.now) := by
    intro payload foreign spent
    rcases spent with present | passed
    · left
      cases burned : call.reservation.burnedPayload with
      | none => exact present
      | some own =>
          rw [burned] at foreign
          exact (ReplayStore.mem_erase _ _ _).mpr
            ⟨present, fun same => foreign (congrArg some same.symm)⟩
    · exact Or.inr passed
  refine ⟨?_, ?_, ?_, ?_, ?_, tracked.once⟩
  · intro entry member
    apply tracked.expiries entry
    change entry ∈ (refundConfirmation world.gateway.consumedConfirmations
      call.reservation.burnedPayload).entries at member
    cases burned : call.reservation.burnedPayload with
    | none =>
        rw [burned] at member
        exact member
    | some own =>
        rw [burned] at member
        exact ReplayStore.mem_entries_of_mem_erase member
  · intro other payload held
    obtain ⟨different, old⟩ := left other payload held
    refine kept payload ?_ (tracked.pending other payload old)
    intro own
    exact different (tracked.distinct other id payload old ⟨call, known, own⟩)
  · intro payload member
    refine kept payload ?_ (tracked.dispatched payload member)
    intro own
    exact tracked.apart id payload ⟨call, known, own⟩ member
  · exact fun other payload held => tracked.apart other payload (left other payload held).2
  · exact fun first second payload firstHeld secondHeld =>
      tracked.distinct first second payload (left first payload firstHeld).2
        (left second payload secondHeld).2

theorem tokensTracked_step {digests : Digests} {world next : World} {event : Event}
    (tracked : world.TokensTracked) (safe : BurnsSafely digests world event)
    (stepped : world.step digests event = some next) : next.TokensTracked := by
  cases kind : isCallStep event with
  | false =>
      have same := step_surroundings stepped kind
      refine tracked.keep same.consumed same.now same.wire ?_
      rintro id payload ⟨call, pending, burned⟩
      rw [same.calls] at pending
      exact ⟨call, pending, burned⟩
  | true =>
      cases event with
      | validate id owner request clock => exact tokensTracked_validate tracked safe stepped
      | guard id =>
          obtain ⟨call, known, _, rfl⟩ := step_guard stepped
          exact tracked.keep rfl (Nat.le_refl _) rfl
            (fun _ _ held => pendingBurn_of_setCall known held)
      | dispatch id => exact tokensTracked_dispatch tracked stepped
      | rollback id => exact tokensTracked_rollback tracked stepped
      | _ => cases kind

def NeverAccepted (digests : Digests) (world : World) (payload : Bytes) : Prop :=
  ∀ (token : TokenInput) (frame : CanFrame) (context : Option Bytes) (reading expiry : Nat),
    world.now ≤ reading →
    verifyConfirmationToken digests world.gateway.confirmationSecret
      world.gateway.consumedConfirmations token frame context reading ≠ .ok (payload, expiry)

end World

/-- When every burn of a run finds room, no payload is dispatched twice and a
dispatched one is never accepted again. -/
theorem dispatched_token_is_spent (digests : Digests) (initial last : World)
    (events : List Event) (start : initial.Initial)
    (safe : Meets (World.step digests) (BurnsSafely digests) initial events)
    (ran : run (World.step digests) initial events = some last) :
    last.dispatchedPayloads.Nodup ∧
      ∀ payload ∈ last.dispatchedPayloads, last.NeverAccepted digests payload := by
  have tracked : last.TokensTracked := run_invariant_of_meets
    (fun _ _ _ tracked burns stepped => World.tokensTracked_step tracked burns stepped)
    start.tokensTracked safe ran
  refine ⟨tracked.once, ?_⟩
  intro payload member token frame context reading expiry later
  apply verifyConfirmationToken_not_ok digests
  rcases tracked.dispatched payload member with present | passed
  · exact Or.inl present
  · exact Or.inr (Nat.lt_of_lt_of_le passed later)

section Bench

def benchKey : Bytes := [0x62, 0x65, 0x6e, 0x63, 0x68, 0x2d, 0x6b, 0x65, 0x79]

def benchPayload (nonce : UInt8) : Bytes :=
  natToBytes 4 0x7E0 ++ natToBytes 8 1000000001 ++ List.replicate 16 nonce

def firstMac : Bytes :=
  [0x6d, 0xe4, 0x51, 0x34, 0x11, 0x23, 0xb7, 0x34, 0x49, 0x9c, 0x38, 0xbc, 0xcf, 0x3a, 0xcd, 0x7d,
    0x33, 0x68, 0xad, 0xea, 0x01, 0xc2, 0xc1, 0x4e, 0x1c, 0xe6, 0x2e, 0x10, 0x6d, 0xc0, 0x16, 0x02]

def secondMac : Bytes :=
  [0x19, 0x9d, 0x8d, 0x9f, 0x41, 0x86, 0x83, 0x00, 0x5d, 0xc3, 0x7d, 0x9b, 0x4b, 0xf0, 0xf5, 0x77,
    0x3b, 0x8f, 0x86, 0x11, 0x6d, 0x54, 0x90, 0x8f, 0xf7, 0x4d, 0x61, 0x19, 0xef, 0x7c, 0xdd, 0x0e]

def benchDigests : Digests where
  hmacSha256 := fun key message =>
    if key = benchKey ∧ message = benchPayload 0xA1 then firstMac
    else if key = benchKey ∧ message = benchPayload 0xB2 then secondMac
    else List.replicate 32 0
  sha256 := fun _ => List.replicate 32 0
  hmacLength := by
    intro key message
    split
    · rfl
    · split <;> rfl
  shaLength := blankSha_length

def ecuReset : CanFrame where
  channelId := "can0"
  arbitrationId := 0x7E0
  dlc := 3
  data := [0x02, 0x11, 0x01]
  valid := by decide

def confirmedReset (payload mac : Bytes) : TxRequest where
  frame := ecuReset
  userConfirmed := true
  confirmationToken := some (.bytes (payload ++ mac))

def confirmedBench : World := World.bench [0x7E0] { confirmationSecret := some benchKey } none

def confirmedSend (id : Nat) (payload mac : Bytes) (now : Nat) : List Event :=
  [.validate id 0 (confirmedReset payload mac) (Clock.at now), .guard id, .dispatch id]

def reachExpiry : List Event := [.tick 1000000001, .updateSpeed (.finite 0) "physical"]

def singleSend : List Event :=
  reachExpiry ++ confirmedSend 0 (benchPayload 0xA1) firstMac 1000000001

theorem singleSend_isSome :
    (run (World.step benchDigests) confirmedBench singleSend).isSome = true := by
  decide +kernel

def spentWorld : World :=
  (run (World.step benchDigests) confirmedBench singleSend).get singleSend_isSome

theorem burnsSafely_of_other {digests : Digests} {world : World} {event : Event}
    (other : ∀ id owner request clock, event ≠ .validate id owner request clock) :
    BurnsSafely digests world event :=
  fun id owner request clock _ _ same => absurd same (other id owner request clock)

theorem burnsSafely_of_empty {digests : Digests} {world : World} (event : Event)
    (empty : world.gateway.consumedConfirmations = ReplayStore.empty) :
    BurnsSafely digests world event := by
  intro _ _ _ clock _ _ _ _ _
  rw [empty]
  exact ⟨fun _ member => absurd member List.not_mem_nil, Nat.zero_lt_succ _⟩

theorem singleSend_burnsSafely :
    Meets (World.step benchDigests) (BurnsSafely benchDigests) confirmedBench singleSend := by
  simp only [singleSend, reachExpiry, confirmedSend, List.cons_append, List.nil_append]
  refine ⟨burnsSafely_of_other (fun _ _ _ _ => nofun), fun ticked tick => ?_⟩
  refine ⟨burnsSafely_of_other (fun _ _ _ _ => nofun), fun sampled sample => ?_⟩
  refine ⟨?_, fun _ _ => ?_⟩
  · apply burnsSafely_of_empty
    rw [(World.step_surroundings sample rfl).consumed, (World.step_surroundings tick rfl).consumed]
    rfl
  refine ⟨burnsSafely_of_other (fun _ _ _ _ => nofun), fun _ _ => ?_⟩
  exact ⟨burnsSafely_of_other (fun _ _ _ _ => nofun), fun _ _ => trivial⟩

theorem dispatched_token_is_spent_once :
    spentWorld.dispatchedPayloads.Nodup ∧
      ∀ payload ∈ spentWorld.dispatchedPayloads, spentWorld.NeverAccepted benchDigests payload :=
  dispatched_token_is_spent benchDigests confirmedBench spentWorld singleSend
    (World.bench_initial _ _ _) singleSend_burnsSafely (Option.some_get singleSend_isSome).symm

/-- At the reading that equals their expiry the second token pushes the first
out of the table, which the check still accepts. -/
theorem expiring_token_dispatched_twice :
    ¬ ∀ (events : List Event) (last : World),
      run (World.step benchDigests) confirmedBench events = some last →
        last.dispatchedPayloads.Nodup := by
  intro single
  have replayed : ((run (World.step benchDigests) confirmedBench
      (reachExpiry ++ confirmedSend 0 (benchPayload 0xA1) firstMac 1000000001 ++
        confirmedSend 1 (benchPayload 0xB2) secondMac 1000000001 ++
        confirmedSend 2 (benchPayload 0xA1) firstMac 1000000001)).map World.dispatchedPayloads) =
      some [benchPayload 0xA1, benchPayload 0xB2, benchPayload 0xA1] := by
    decide +kernel
  obtain ⟨last, ran, payloads⟩ := Option.map_eq_some_iff.mp replayed
  have once := single _ last ran
  rw [payloads] at once
  exact absurd once (by decide +kernel)

end Bench

end Ucanlab.Safety
