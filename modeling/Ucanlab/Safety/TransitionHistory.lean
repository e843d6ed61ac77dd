import Ucanlab.Safety.ArmRuns

/-!
The transition history of the supervisor over whole runs: every operation
records nothing or one legal step from the state it found.
-/

namespace Ucanlab.Safety

open Ucanlab EventRun

def stopSensitive : List SafetyState := [.passive, .armedTx, .active]

namespace Supervisor

/-- `_force_fault`: the table is not consulted, and a second reason is recorded. -/
def forceFault (supervisor : Supervisor) (rawReason : String) (now : Nat) : Supervisor :=
  let reason := sanitizeReason rawReason
  if supervisor.state = .fault ∧ supervisor.faultReason = reason then supervisor
  else supervisor.enter .fault reason reason now

end Supervisor

def StateTransitionRecord.Legal (record : StateTransitionRecord) : Prop :=
  record.toState ∈ allowedTransitions record.fromState ∨ record.toState = .fault

def StateTransitionRecord.FollowedBy (earlier later : StateTransitionRecord) : Prop :=
  earlier.toState = later.fromState ∧ later.epoch = earlier.epoch + 1

structure Recorded (stopped : Prop) (before after : Supervisor)
    (record : StateTransitionRecord) : Prop where
  history : after.history = Supervisor.appendHistory before.history record
  source : record.fromState = before.state
  target : record.toState = after.state
  epoch : record.epoch = before.epoch + 1
  current : after.epoch = before.epoch + 1
  legal : record.Legal
  released : stopped → record.toState ∉ stopSensitive

structure Unrecorded (before after : Supervisor) : Prop where
  state : after.state = before.state
  epoch : after.epoch = before.epoch
  history : after.history = before.history

def AtMostOneRecord (stopped : Prop) (before after : Supervisor) : Prop :=
  Unrecorded before after ∨ ∃ record, Recorded stopped before after record

section Operations

variable {supervisor before after : Supervisor} {target : SafetyState} {reason : String} {now : Nat}
  {engaged : Bool} {stopped : Prop}

theorem Unrecorded.refl (supervisor : Supervisor) : Unrecorded supervisor supervisor :=
  ⟨rfl, rfl, rfl⟩

theorem AtMostOneRecord.of_faultEvent
    (recorded : AtMostOneRecord stopped (before.recordFaultEvent now) after) :
    AtMostOneRecord stopped before after := by
  rcases recorded with same | ⟨record, made⟩
  · exact Or.inl ⟨same.state, same.epoch, same.history⟩
  · exact Or.inr ⟨record, made.history, made.source, made.target, made.epoch, made.current,
      made.legal, made.released⟩

theorem recorded_enter (faultReason : String)
    (legal : target ∈ allowedTransitions supervisor.state ∨ target = .fault)
    (released : stopped → target ∉ stopSensitive) :
    AtMostOneRecord stopped supervisor (supervisor.enter target reason faultReason now) := by
  right
  refine ⟨{
    fromState := supervisor.state
    toState := target
    reason := reason
    epoch := supervisor.epoch + 1
    monotonicTimestampNs := now
    durationNs := now - supervisor.stateChangeNs }, ?_, rfl, rfl, rfl, rfl, legal, released⟩
  unfold Supervisor.enter
  dsimp only

theorem fault_not_stopSensitive : SafetyState.fault ∉ stopSensitive := by
  simp [stopSensitive]

theorem recorded_transitionTo :
    AtMostOneRecord (supervisor.estopBound = true ∧ engaged = true) supervisor
      (supervisor.transitionTo engaged target reason now).1 := by
  unfold Supervisor.transitionTo
  dsimp only
  split
  · exact Or.inl (Unrecorded.refl supervisor)
  · split
    · exact Or.inl (Unrecorded.refl supervisor)
    · rename_i notBarred
      split
      · apply AtMostOneRecord.of_faultEvent
        apply recorded_enter
        · exact Or.inr rfl
        · exact fun _ => fault_not_stopSensitive
      · rename_i allowed
        apply recorded_enter
        · exact Or.inl (not_not.mp allowed)
        · exact fun stop sensitive => notBarred ⟨stop.1, stop.2, sensitive⟩

theorem recorded_triggerFault :
    AtMostOneRecord (supervisor.estopBound = true ∧ engaged = true) supervisor
      (supervisor.triggerFault engaged reason now).1 :=
  AtMostOneRecord.of_faultEvent recorded_transitionTo

theorem recorded_forceFault :
    AtMostOneRecord stopped supervisor (supervisor.forceFault reason now) := by
  unfold Supervisor.forceFault
  dsimp only
  split
  · exact Or.inl (Unrecorded.refl supervisor)
  · apply recorded_enter
    · exact Or.inr rfl
    · exact fun _ => fault_not_stopSensitive

end Operations

section ArmCalls

variable {digests : Digests} {armory : ArmSupervisor} {operation : TxOperation} {reason : String}
  {token : Option (List Char)} {stop : StopReading} {clock : ClockInfo} {readings : ArmReadings}

theorem burn_core (armory : ArmSupervisor) (payload : Bytes) (now : Nat) :
    (armory.burn payload now).1.core = armory.core := by
  unfold ArmSupervisor.burn
  dsimp only
  split <;> rfl

theorem lookup_core (armory : ArmSupervisor) (payload : Bytes) (now : Nat) :
    (armory.lookup payload now).1.core = armory.core := by
  unfold ArmSupervisor.lookup
  dsimp only
  split <;> rfl

theorem spend_core (pending : Option Bytes) :
    (armory.spend operation reason pending stop readings).1.core =
      (armory.core.transitionTo stop.isEngaged operation.target reason readings.transition).1 := by
  have entered : (armory.transitionTo stop operation.target reason readings.transition).1.core =
      (armory.core.transitionTo stop.isEngaged operation.target reason readings.transition).1 := rfl
  unfold ArmSupervisor.spend
  generalize armory.transitionTo stop operation.target reason readings.transition = outcome
    at entered
  obtain ⟨after, moved⟩ := outcome
  dsimp only at entered ⊢
  split
  · exact entered
  · split
    · exact entered
    · rename_i payload
      exact (burn_core after payload readings.burn).trans entered

theorem recorded_authorizeTx :
    AtMostOneRecord (armory.core.estopBound = true ∧ stop.isEngaged = true) armory.core
      (armory.authorizeTx digests operation reason token stop clock readings).1.core := by
  unfold ArmSupervisor.authorizeTx
  cases armory.gateError stop clock with
  | some failure =>
      obtain ⟨error, fault⟩ := failure
      cases fault with
      | none => exact Or.inl (Unrecorded.refl armory.core)
      | some faultReason =>
          change AtMostOneRecord _ armory.core (armory.core.triggerFault false _ readings.gate).1
          unfold Supervisor.triggerFault
          rw [← Supervisor.transitionTo_fault _ stop.isEngaged]
          exact recorded_triggerFault
  | none =>
      cases armory.authenticate digests token readings.expiry with
      | error error => exact Or.inl (Unrecorded.refl armory.core)
      | ok pending =>
          cases pending with
          | none =>
              dsimp only
              rw [spend_core]
              exact recorded_transitionTo
          | some payload =>
              have same := lookup_core armory payload readings.lookup
              dsimp only
              cases looked : armory.lookup payload readings.lookup with
              | mk pruned refusal =>
                  rw [looked] at same
                  dsimp only at same
                  cases refusal with
                  | some error =>
                      dsimp only
                      rw [same]
                      exact Or.inl (Unrecorded.refl armory.core)
                  | none =>
                      dsimp only
                      rw [spend_core, same]
                      exact recorded_transitionTo

end ArmCalls

structure Supervised where
  armory : ArmSupervisor
  stop : StopReading

inductive SupervisorEvent where
  | transitionTo (target : SafetyState) (reason : String) (now : Nat)
  | enterPassiveMode (reason : String) (now : Nat)
  | triggerFault (reason : String) (now : Nat)
  | forceFault (reason : String) (now : Nat)
  | authorizeTx (operation : TxOperation) (reason : String) (token : Option (List Char))
      (clock : ClockInfo) (readings : ArmReadings)
  | bindEstop
  | stopChanges (stop : StopReading)

namespace Supervised

def setCore (supervised : Supervised) (core : Supervisor) : Supervised :=
  { supervised with armory := { supervised.armory with core := core } }

def Stopped (supervised : Supervised) : Prop :=
  supervised.armory.core.estopBound = true ∧ supervised.stop.isEngaged = true

instance (supervised : Supervised) : Decidable supervised.Stopped :=
  inferInstanceAs (Decidable (_ ∧ _))

/-- A second binding is refused. -/
def step (digests : Digests) (supervised : Supervised) : SupervisorEvent → Option Supervised
  | .transitionTo target reason now =>
      some (supervised.setCore
        (supervised.armory.core.transitionTo supervised.stop.isEngaged target reason now).1)
  | .enterPassiveMode reason now =>
      some (supervised.setCore
        (supervised.armory.core.enterPassiveMode supervised.stop.isEngaged reason now).1)
  | .triggerFault reason now =>
      some (supervised.setCore
        (supervised.armory.core.triggerFault supervised.stop.isEngaged reason now).1)
  | .forceFault reason now =>
      some (supervised.setCore (supervised.armory.core.forceFault reason now))
  | .authorizeTx operation reason token clock readings =>
      some { supervised with
        armory := (supervised.armory.authorizeTx digests operation reason token supervised.stop
          clock readings).1 }
  | .bindEstop =>
      some (supervised.setCore { supervised.armory.core with estopBound := true })
  | .stopChanges stop => some { supervised with stop := stop }

end Supervised

structure SoundHistory (initial : SafetyState) (supervisor : Supervisor) : Prop where
  chain : supervisor.history.IsChain StateTransitionRecord.FollowedBy
  legal : ∀ record ∈ supervisor.history, record.Legal
  fresh : supervisor.history = [] → supervisor.state = initial ∧ supervisor.epoch = 0
  current : ∀ record, supervisor.history.getLast? = some record →
    record.toState = supervisor.state ∧ record.epoch = supervisor.epoch

section Invariant

variable {initial : SafetyState} {before after : Supervisor} {record : StateTransitionRecord}
  {stopped : Prop} {history : List StateTransitionRecord}

theorem StateTransitionRecord.Legal.not_rearmed (legal : record.Legal)
    (faulted : record.fromState = .fault) : record.toState.permitsTx = false := by
  rcases legal with edge | fault
  · rw [faulted] at edge
    simp only [allowedTransitions, List.mem_cons, List.not_mem_nil, or_false] at edge
    rcases edge with passive | safe
    · rw [passive]
      rfl
    · rw [safe]
      rfl
  · rw [fault]
    rfl

/-- The bound drops old records from the front, never the new one. -/
theorem appendHistory_eq (history : List StateTransitionRecord) (record : StateTransitionRecord) :
    ∃ kept, kept <:+ history ∧ Supervisor.appendHistory history record = kept ++ [record] := by
  have within : (history ++ [record]).length - historyCapacity ≤ history.length := by
    simp only [List.length_append, List.length_singleton, historyCapacity]
    omega
  refine ⟨history.drop ((history ++ [record]).length - historyCapacity),
    List.drop_suffix _ _, ?_⟩
  unfold Supervisor.appendHistory
  dsimp only
  rw [List.drop_append_of_le_length within]

theorem SoundHistory.of_unrecorded (sound : SoundHistory initial before)
    (same : Unrecorded before after) : SoundHistory initial after := by
  obtain ⟨state, epoch, history⟩ := same
  refine ⟨?_, ?_, ?_, ?_⟩
  · rw [history]
    exact sound.chain
  · rw [history]
    exact sound.legal
  · rw [history, state, epoch]
    exact sound.fresh
  · rw [history, state, epoch]
    exact sound.current

theorem SoundHistory.of_recorded (sound : SoundHistory initial before)
    (made : Recorded stopped before after record) : SoundHistory initial after := by
  obtain ⟨kept, suffix, extended⟩ := appendHistory_eq before.history record
  have history : after.history = kept ++ [record] := made.history.trans extended
  refine ⟨?_, ?_, ?_, ?_⟩
  · rw [history]
    apply List.IsChain.append (sound.chain.suffix suffix) (List.isChain_singleton record)
    intro earlier last later first
    rw [List.head?_singleton, Option.mem_some_iff] at first
    rw [← first]
    have final : before.history.getLast? = some earlier := by
      obtain ⟨dropped, split⟩ := suffix
      rw [← split, List.getLast?_append, Option.mem_def.mp last, Option.some_or]
    obtain ⟨state, epoch⟩ := sound.current earlier final
    refine ⟨?_, ?_⟩
    · rw [state, made.source]
    · rw [epoch, made.epoch]
  · intro other member
    rw [history] at member
    rcases List.mem_append.mp member with old | new
    · exact sound.legal other (suffix.subset old)
    · rw [List.mem_singleton.mp new]
      exact made.legal
  · intro empty
    rw [history] at empty
    simp at empty
  · intro last final
    rw [history, List.getLast?_concat] at final
    cases final
    exact ⟨made.target, by rw [made.epoch, made.current]⟩

theorem SoundHistory.next (sound : SoundHistory initial before)
    (recorded : AtMostOneRecord stopped before after) : SoundHistory initial after := by
  rcases recorded with same | ⟨record, made⟩
  · exact sound.of_unrecorded same
  · exact sound.of_recorded made

end Invariant

section Runs

variable {digests : Digests} {initial : SafetyState} {supervised next : Supervised}
  {event : SupervisorEvent}

theorem Supervised.step_records (stepped : supervised.step digests event = some next) :
    AtMostOneRecord supervised.Stopped supervised.armory.core next.armory.core := by
  cases event with
  | transitionTo target reason now =>
      cases stepped
      exact recorded_transitionTo
  | enterPassiveMode reason now =>
      cases stepped
      exact recorded_transitionTo
  | triggerFault reason now =>
      cases stepped
      exact recorded_triggerFault
  | forceFault reason now =>
      cases stepped
      exact recorded_forceFault
  | authorizeTx operation reason token clock readings =>
      cases stepped
      exact recorded_authorizeTx
  | bindEstop =>
      cases stepped
      exact Or.inl ⟨rfl, rfl, rfl⟩
  | stopChanges stop =>
      cases stepped
      exact Or.inl ⟨rfl, rfl, rfl⟩

theorem create_sound {estopBound testMode : Bool} {config : ArmConfig} {now : Nat}
    {armory : ArmSupervisor}
    (created : ArmSupervisor.create initial estopBound config testMode now = .ok armory) :
    SoundHistory initial armory.core := by
  unfold ArmSupervisor.create at created
  split at created
  · cases created
  · split at created
    · cases created
    · split at created
      · cases created
      · split at created
        · cases created
        · cases created
          exact ⟨List.isChain_nil, fun _ member => absurd member List.not_mem_nil,
            fun _ => ⟨rfl, rfl⟩, nofun⟩

/-- After every run the history is a chain of legal records that ends in the
current state, and no step of the run made a record the engaged emergency stop
bars. -/
theorem history_sound {estopBound testMode : Bool} {config : ArmConfig} {now : Nat}
    {armory : ArmSupervisor} {stop : StopReading} {events : List SupervisorEvent}
    {last : Supervised}
    (created : ArmSupervisor.create initial estopBound config testMode now = .ok armory)
    (ran : run (Supervised.step digests) ⟨armory, stop⟩ events = some last) :
    SoundHistory initial last.armory.core ∧
      (∀ record ∈ last.armory.core.history, record.fromState = .fault →
        record.toState ≠ .armedTx ∧ record.toState ≠ .active) ∧
      ∀ front event back before after, events = front ++ event :: back →
        run (Supervised.step digests) ⟨armory, stop⟩ front = some before →
        before.step digests event = some after →
        after.armory.core.history = before.armory.core.history ∨
          ∃ record, after.armory.core.history =
              Supervisor.appendHistory before.armory.core.history record ∧
            record.fromState = before.armory.core.state ∧
            record.toState = after.armory.core.state ∧
            (before.Stopped → record.toState ∉ stopSensitive) := by
  have sound : SoundHistory initial last.armory.core := by
    have preserves : ∀ (before : Supervised) (event : SupervisorEvent) (after : Supervised),
        SoundHistory initial before.armory.core → before.step digests event = some after →
        SoundHistory initial after.armory.core :=
      fun before event after kept stepped => kept.next (Supervised.step_records stepped)
    exact @run_invariant _ _ _ (fun reached => SoundHistory initial reached.armory.core) preserves
      _ _ _ (create_sound created) ran
  refine ⟨sound, ?_, ?_⟩
  · intro record member faulted
    have quiet := (sound.legal record member).not_rearmed faulted
    constructor
    · intro armed
      rw [armed] at quiet
      cases quiet
    · intro active
      rw [active] at quiet
      cases quiet
  · intro front event back before after _ _ stepped
    rcases Supervised.step_records stepped with same | ⟨record, made⟩
    · exact Or.inl same.history
    · exact Or.inr ⟨record, made.history, made.source, made.target, made.released⟩

end Runs

section Bench

def startupArmory : ArmSupervisor := ⟨Supervisor.new .startup false 1, armConfig, .empty⟩

/-- The supervisor is armed, the emergency stop engages, and requests are refused
and forced into the fault state. -/
def stoppedShift : List SupervisorEvent :=
  [.transitionTo .safe "self test" 2, .enterPassiveMode "operator" 2, .bindEstop,
    .authorizeTx .armTx "operator" (some mintedArmToken) steadyClock ⟨2, 2, 2, 2, 2⟩,
    .stopChanges ⟨false, true⟩, .triggerFault "lost bus" 3, .enterPassiveMode "operator" 4,
    .stopChanges quietStop, .transitionTo .active "operator" 5, .forceFault "operator" 6]

theorem stoppedShift_isSome :
    (run (Supervised.step armDigests) ⟨startupArmory, quietStop⟩ stoppedShift).isSome = true := rfl

theorem history_sound_stoppedShift :
    ∃ last, run (Supervised.step armDigests) ⟨startupArmory, quietStop⟩ stoppedShift = some last ∧
      SoundHistory .startup last.armory.core :=
  ⟨_, (Option.some_get stoppedShift_isSome).symm,
    (@history_sound armDigests .startup false false armConfig 1 startupArmory quietStop stoppedShift
      _ rfl (Option.some_get stoppedShift_isSome).symm).1⟩

end Bench

end Ucanlab.Safety
