import Ucanlab.Lib.EventRun
import Ucanlab.Safety.ArmToken

/-!
Sequences of whole arming calls, returns to passive and faults on one
supervisor, with the readings of its clock in order: how often one token can
take the supervisor from passive to armed.
-/

namespace Ucanlab.Safety

open Ucanlab EventRun

section Calls

variable {digests : Digests} {armory : ArmSupervisor} {operation : TxOperation} {reason : String}
  {token : Option (List Char)} {stop : StopReading} {clock : ClockInfo} {readings : ArmReadings}
  {payload other : Bytes}

/-- What an arming call needs to take the supervisor from passive to armed, short
of the replay lookup. -/
structure Presents (digests : Digests) (armory : ArmSupervisor) (operation : TxOperation)
    (token : Option (List Char)) (stop : StopReading) (clock : ClockInfo) (readings : ArmReadings)
    (payload : Bytes) : Prop where
  arming : operation = .armTx
  gate : armory.gateError stop clock = none
  authentic : armory.authenticate digests token readings.expiry = .ok (some payload)
  passive : armory.core.state = .passive
  released : ¬ (armory.core.estopBound = true ∧ stop.isEngaged = true)

theorem ArmSupervisor.authorizeTx_armed_iff :
    (armory.authorizeTx digests operation reason token stop clock readings).2.armed =
        some payload ↔
      Presents digests armory operation token stop clock readings payload ∧
        payload ∉ armory.consumed.prune readings.lookup := by
  unfold authorizeTx
  cases gate : armory.gateError stop clock with
  | some failure =>
      obtain ⟨error, fault⟩ := failure
      exact ⟨nofun, fun both => nomatch gate.symm.trans both.1.gate⟩
  | none =>
      cases authentic : armory.authenticate digests token readings.expiry with
      | error error => exact ⟨nofun, fun both => nomatch authentic.symm.trans both.1.authentic⟩
      | ok pending =>
          cases pending with
          | none =>
              dsimp only
              rw [spend_unpaid_armed]
              exact ⟨nofun, fun both => nomatch authentic.symm.trans both.1.authentic⟩
          | some held =>
              dsimp only
              have holds : Presents digests armory operation token stop clock readings payload ↔
                  held = payload ∧ operation = .armTx ∧ armory.core.state = .passive ∧
                    ¬ (armory.core.estopBound = true ∧ stop.isEngaged = true) := by
                constructor
                · intro presents
                  have same := authentic.symm.trans presents.authentic
                  exact ⟨Option.some.inj (Except.ok.inj same), presents.arming, presents.passive,
                    presents.released⟩
                · rintro ⟨rfl, arming, passive, released⟩
                  exact ⟨arming, gate, authentic, passive, released⟩
              by_cases present : held ∈ armory.consumed.prune readings.lookup
              · rw [lookup_refused present]
                refine ⟨nofun, ?_⟩
                rintro ⟨presents, absent⟩
                rw [← (holds.mp presents).1] at absent
                exact absurd present absent
              · rw [lookup_granted present, holds]
                dsimp only
                rw [spend_armed_iff]
                constructor
                · intro arms
                  refine ⟨arms, ?_⟩
                  rw [← arms.1]
                  exact present
                · exact And.left

theorem ArmSupervisor.authorizeTx_keeps {since : Nat} (ordered : readings.ordered since)
    (present : other ∈ armory.consumed) (live : readings.burn ≤ armExpiry other) :
    other ∈
      (armory.authorizeTx digests operation reason token stop clock readings).1.consumed := by
  obtain ⟨_, _, _, moved, burnt⟩ := ordered
  unfold authorizeTx
  cases armory.gateError stop clock with
  | some failure =>
      obtain ⟨error, fault⟩ := failure
      cases fault with
      | none => exact present
      | some reason => exact present
  | none =>
      cases armory.authenticate digests token readings.expiry with
      | error error => exact present
      | ok pending =>
          cases pending with
          | none => exact spend_keeps present live
          | some held =>
              have kept : other ∈ (armory.prune readings.lookup).consumed :=
                prune_keeps present (by omega)
              dsimp only
              by_cases spent : held ∈ armory.consumed.prune readings.lookup
              · rw [lookup_refused spent]
                exact kept
              · rw [lookup_granted spent]
                exact spend_keeps kept live

theorem ArmSupervisor.authorizeTx_burns
    (armed : (armory.authorizeTx digests operation reason token stop clock readings).2.armed =
      some payload) :
    payload ∈
      (armory.authorizeTx digests operation reason token stop clock readings).1.consumed := by
  obtain ⟨presents, absent⟩ := authorizeTx_armed_iff.mp armed
  revert armed
  unfold authorizeTx
  rw [presents.gate, presents.authentic]
  dsimp only
  rw [lookup_granted absent]
  exact spend_burns

end Calls

/-- The supervisor, the last reading of its clock and the payloads with which it
went from passive to armed. -/
structure ArmRun where
  armory : ArmSupervisor
  clock : Nat
  armings : List Bytes

inductive ArmEvent where
  | authorizeTx (operation : TxOperation) (reason : String) (token : Option (List Char))
      (stop : StopReading) (clock : ClockInfo) (readings : ArmReadings)
  | enterPassiveMode (reason : String) (stop : StopReading) (now : Nat)
  | triggerFault (reason : String) (now : Nat)

namespace ArmRun

def new (core : Supervisor) (config : ArmConfig) (now : Nat) : ArmRun where
  armory := ⟨core, config, .empty⟩
  clock := now
  armings := []

/-- One whole call; it is disabled when its readings go back. -/
def step (digests : Digests) (run : ArmRun) : ArmEvent → Option ArmRun
  | .authorizeTx operation reason token stop clock readings =>
      if readings.ordered run.clock then
        let (armory, result) :=
          run.armory.authorizeTx digests operation reason token stop clock readings
        some ⟨armory, readings.burn, run.armings ++ result.armed.toList⟩
      else none
  | .enterPassiveMode reason stop now =>
      if run.clock ≤ now then
        some ⟨(run.armory.enterPassiveMode stop reason now).1, now, run.armings⟩
      else none
  | .triggerFault reason now =>
      if run.clock ≤ now then some ⟨run.armory.triggerFault reason now, now, run.armings⟩
      else none

end ArmRun

section SingleUse

variable {digests : Digests} {state next initial last : ArmRun} {event : ArmEvent}
  {events : List ArmEvent}

/-- An arming call from passive whose token has armed the supervisor before and
expires between the reading of its expiry test and the reading of its prune. -/
def Straddles (digests : Digests) (state : ArmRun) (event : ArmEvent) : Prop :=
  ∃ operation reason token stop clock readings payload,
    event = .authorizeTx operation reason token stop clock readings ∧
      Presents digests state.armory operation token stop clock readings payload ∧
      payload ∈ state.armings ∧ readings.expiry ≤ armExpiry payload ∧
      armExpiry payload < readings.lookup

def ArmRun.Spent (state : ArmRun) : Prop :=
  ∀ payload ∈ state.armings, payload ∈ state.armory.consumed ∨ armExpiry payload < state.clock

theorem ArmRun.step_armings (stepped : state.step digests event = some next) :
    next.armings = state.armings ∨
      ∃ operation reason token stop clock readings payload,
        event = .authorizeTx operation reason token stop clock readings ∧
          readings.ordered state.clock ∧ next.clock = readings.burn ∧
          next.armings = state.armings ++ [payload] ∧
          payload ∈ next.armory.consumed ∧
          Presents digests state.armory operation token stop clock readings payload ∧
          payload ∉ state.armory.consumed.prune readings.lookup := by
  cases event with
  | authorizeTx operation reason token stop clock readings =>
      simp only [step] at stepped
      split at stepped
      · rename_i ordered
        cases stepped
        cases armed :
            (state.armory.authorizeTx digests operation reason token stop clock readings).2.armed with
        | none => exact Or.inl (List.append_nil _)
        | some payload =>
            obtain ⟨presents, absent⟩ := ArmSupervisor.authorizeTx_armed_iff.mp armed
            exact Or.inr ⟨operation, reason, token, stop, clock, readings, payload, rfl, ordered,
              rfl, rfl, ArmSupervisor.authorizeTx_burns armed, presents, absent⟩
      · cases stepped
  | enterPassiveMode reason stop now =>
      simp only [step] at stepped
      split at stepped
      · cases stepped
        exact Or.inl rfl
      · cases stepped
  | triggerFault reason now =>
      simp only [step] at stepped
      split at stepped
      · cases stepped
        exact Or.inl rfl
      · cases stepped

theorem ArmRun.step_keeps (stepped : state.step digests event = some next) {payload : Bytes}
    (present : payload ∈ state.armory.consumed) :
    payload ∈ next.armory.consumed ∨ armExpiry payload < next.clock := by
  cases event with
  | authorizeTx operation reason token stop clock readings =>
      simp only [step] at stepped
      split at stepped
      · rename_i ordered
        cases stepped
        by_cases live : readings.burn ≤ armExpiry payload
        · exact Or.inl (ArmSupervisor.authorizeTx_keeps ordered present live)
        · exact Or.inr (Nat.lt_of_not_le live)
      · cases stepped
  | enterPassiveMode reason stop now =>
      simp only [step] at stepped
      split at stepped
      · cases stepped
        exact Or.inl present
      · cases stepped
  | triggerFault reason now =>
      simp only [step] at stepped
      split at stepped
      · cases stepped
        exact Or.inl present
      · cases stepped

theorem ArmRun.step_clock (stepped : state.step digests event = some next) :
    state.clock ≤ next.clock := by
  cases event with
  | authorizeTx operation reason token stop clock readings =>
      simp only [step] at stepped
      split at stepped
      · rename_i ordered
        cases stepped
        obtain ⟨gate, expiry, lookup, transition, burn⟩ := ordered
        dsimp only
        omega
      · cases stepped
  | enterPassiveMode reason stop now =>
      simp only [step] at stepped
      split at stepped
      · rename_i later
        cases stepped
        exact later
      · cases stepped
  | triggerFault reason now =>
      simp only [step] at stepped
      split at stepped
      · rename_i later
        cases stepped
        exact later
      · cases stepped

theorem ArmRun.Spent.step (spent : state.Spent) (stepped : state.step digests event = some next) :
    next.Spent := by
  have old : ∀ payload ∈ state.armings,
      payload ∈ next.armory.consumed ∨ armExpiry payload < next.clock := by
    intro payload member
    rcases spent payload member with present | expired
    · exact ArmRun.step_keeps stepped present
    · exact Or.inr (Nat.lt_of_lt_of_le expired (ArmRun.step_clock stepped))
  intro payload member
  rcases ArmRun.step_armings stepped with same | ⟨_, _, _, _, _, _, added, _, _, _, grown, burnt, _⟩
  · rw [same] at member
    exact old payload member
  · rw [grown] at member
    rcases List.mem_append.mp member with earlier | now
    · exact old payload earlier
    · rw [List.mem_singleton.mp now]
      exact Or.inl burnt

theorem ArmRun.step_straddles (stepped : state.step digests event = some next)
    (straddles : Straddles digests state event) : ¬ next.armings.Nodup := by
  obtain ⟨operation, reason, token, stop, clock, readings, payload, rfl, presents, member, _,
    passed⟩ := straddles
  have absent : payload ∉ state.armory.consumed.prune readings.lookup := by
    intro present
    have live := ((ExpiryTable.mem_prune _ _ _).mp present).2
    omega
  have armed : (state.armory.authorizeTx digests operation reason token stop clock readings).2.armed =
      some payload := ArmSupervisor.authorizeTx_armed_iff.mpr ⟨presents, absent⟩
  simp only [step] at stepped
  split at stepped
  · cases stepped
    dsimp only
    rw [armed]
    intro distinct
    exact (List.nodup_append.mp distinct).2.2 payload member payload List.mem_cons_self rfl
  · cases stepped

theorem ArmRun.step_once (spent : state.Spent) (once : state.armings.Nodup)
    (stepped : state.step digests event = some next)
    (clean : ¬ Straddles digests state event) : next.armings.Nodup := by
  rcases ArmRun.step_armings stepped with
    same | ⟨operation, reason, token, stop, clock, readings, payload, called, ordered, _, grown, _,
      presents, absent⟩
  · rw [same]
    exact once
  · rw [grown]
    have live : readings.expiry ≤ armExpiry payload := ArmSupervisor.authenticate_live presents.authentic
    have fresh : payload ∉ state.armings := by
      intro member
      rcases spent payload member with present | expired
      · refine clean ⟨operation, reason, token, stop, clock, readings, payload, called, presents,
          member, live, ?_⟩
        by_contra kept
        exact absent ((ExpiryTable.mem_prune _ _ _).mpr ⟨present, Nat.le_of_not_lt kept⟩)
      · obtain ⟨gate, expiry, _⟩ := ordered
        omega
    exact once.append (List.nodup_singleton payload) (List.disjoint_singleton.mpr fresh)

theorem ArmRun.step_prefix (stepped : state.step digests event = some next) :
    state.armings <+: next.armings := by
  rcases ArmRun.step_armings stepped with same | ⟨_, _, _, _, _, _, _, _, _, _, grown, _⟩
  · have kept : state.armings ++ [] = next.armings := by rw [List.append_nil, same]
    exact ⟨[], kept⟩
  · rw [grown]
    exact List.prefix_append _ _

theorem ArmRun.run_prefix (ran : run (ArmRun.step digests) state events = some last) :
    state.armings <+: last.armings := by
  induction events generalizing state with
  | nil =>
      cases ran
      exact List.prefix_rfl
  | cons event rest ih =>
      obtain ⟨next, stepped, tail⟩ := run_cons_some ran
      exact (ArmRun.step_prefix stepped).trans (ih tail)

theorem ArmRun.run_once_iff (spent : state.Spent) (once : state.armings.Nodup)
    (ran : run (ArmRun.step digests) state events = some last) :
    last.armings.Nodup ↔
      Meets (ArmRun.step digests) (fun state event => ¬ Straddles digests state event) state
        events := by
  induction events generalizing state with
  | nil =>
      cases ran
      exact ⟨fun _ => trivial, fun _ => once⟩
  | cons event rest ih =>
      obtain ⟨next, stepped, tail⟩ := run_cons_some ran
      constructor
      · intro distinct
        have before : next.armings.Nodup := distinct.sublist (ArmRun.run_prefix tail).sublist
        refine ⟨fun straddles => ArmRun.step_straddles stepped straddles before, ?_⟩
        intro other same
        cases stepped.symm.trans same
        exact (ih (spent.step stepped) before tail).mp distinct
      · rintro ⟨clean, later⟩
        exact (ih (spent.step stepped) (ArmRun.step_once spent once stepped clean) tail).mpr
          (later next stepped)

/-- Over a run from a fresh supervisor each token arms at most once exactly when
no call straddles the expiry of a token that has armed. -/
theorem arm_tokens_single_use_iff (digests : Digests) (core : Supervisor) (config : ArmConfig)
    (now : Nat) (events : List ArmEvent) (last : ArmRun)
    (ran : run (ArmRun.step digests) (.new core config now) events = some last) :
    last.armings.Nodup ↔
      Meets (ArmRun.step digests) (fun state event => ¬ Straddles digests state event)
        (.new core config now) events :=
  ArmRun.run_once_iff (fun _ member => absurd member List.not_mem_nil) List.nodup_nil ran

end SingleUse

section Bench

def armKey : Bytes := [0x62, 0x65, 0x6e, 0x63, 0x68, 0x2d, 0x6b, 0x65, 0x79]

def mintedPayload : Bytes := armPayload 1000000001 (List.replicate 16 0xA1)

def mintedMac : Bytes :=
  [0xac, 0x08, 0x18, 0xc1, 0xfc, 0xfa, 0x22, 0xea, 0xf6, 0x9d, 0x5c, 0xe8, 0xa5, 0xe6, 0x9e, 0x68,
    0x9a, 0x88, 0x7e, 0xfd, 0x87, 0x08, 0xcf, 0xae, 0xb1, 0x38, 0xb6, 0xd6, 0xc8, 0xaf, 0x2d, 0x43]

def armDigests : Digests where
  hmacSha256 := fun key message =>
    if key = armKey ∧ message = mintedPayload then mintedMac else List.replicate 32 0
  sha256 := fun _ => List.replicate 32 0
  hmacLength := by
    intro key message
    split <;> rfl
  shaLength := blankSha_length

def mintedArmToken : List Char :=
  decimalText 1000000001 ++ '.' :: hexText (List.replicate 16 0xA1) ++ '.' :: hexText mintedMac

def armConfig : ArmConfig := ⟨some armKey, false, true⟩

def quietStop : StopReading := ⟨false, false⟩

def steadyClock : ClockInfo := .available true false (1 / 1000000000) "0.0000"

def armCall (readings : ArmReadings) : ArmEvent :=
  .authorizeTx .armTx "operator" (some mintedArmToken) quietStop steadyClock readings

/-- The token arms, and again in a call whose prune reads the clock just after
the expiry. -/
def straddlingCalls : List ArmEvent :=
  [armCall ⟨2, 2, 2, 2, 2⟩, .enterPassiveMode "operator" quietStop 3,
    armCall ⟨4, 1000000001, 1000000002, 1000000002, 1000000002⟩]

def passiveBench : ArmRun := .new (Supervisor.new .passive true 0) armConfig 1

theorem straddlingCalls_isSome :
    (run (ArmRun.step armDigests) passiveBench straddlingCalls).isSome = true := by
  decide +kernel

def straddled : ArmRun :=
  (run (ArmRun.step armDigests) passiveBench straddlingCalls).get straddlingCalls_isSome

theorem arm_tokens_single_use_iff_straddled :
    straddled.armings.Nodup ↔
      Meets (ArmRun.step armDigests) (fun state event => ¬ Straddles armDigests state event)
        passiveBench straddlingCalls :=
  arm_tokens_single_use_iff armDigests (Supervisor.new .passive true 0) armConfig 1
    straddlingCalls straddled (Option.some_get straddlingCalls_isSome).symm

/-- One token arms twice. -/
theorem straddling_call_arms_again :
    ¬ ∀ (digests : Digests) (core : Supervisor) (config : ArmConfig) (now : Nat)
        (events : List ArmEvent) (last : ArmRun),
      run (ArmRun.step digests) (.new core config now) events = some last →
        last.armings.Nodup := by
  intro once
  have distinct := once armDigests (Supervisor.new .passive true 0) armConfig 1 straddlingCalls
    straddled (Option.some_get straddlingCalls_isSome).symm
  exact absurd distinct (by decide +kernel)

end Bench

end Ucanlab.Safety
