import Ucanlab.Safety.ArmRuns

/-!
Arming calls, faults and returns to passive as concurrent calls: a call runs one
locked section at a time, and sections of different calls come in any order.
-/

namespace Ucanlab.Safety

open Ucanlab EventRun

/-- Where a call stands between two of its sections. -/
inductive ArmTask where
  | entered (operation : TxOperation) (reason : String) (token : Option (List Char))
  | faulting (reason : String) (raises : Option ArmError)
  | cleared (operation : TxOperation) (reason : String) (token : Option (List Char))
  | authenticated (operation : TxOperation) (reason : String) (payload : Bytes)
  | authorized (operation : TxOperation) (reason : String) (pending : Option Bytes)
  | moved (payload : Bytes)
  | finished (raised : Option ArmError)
  deriving DecidableEq

/-- What one section leaves: the supervisor, the rest of the call and the payload
with which it went from passive to armed. -/
structure Section where
  armory : ArmSupervisor
  task : ArmTask
  armed : Option Bytes

namespace ArmTask

/-- The next section of a call; `none` when it has finished. -/
def advance (digests : Digests) (armory : ArmSupervisor) (stop : StopReading) (clock : ClockInfo)
    (now : Nat) : ArmTask → Option Section
  | .entered operation reason token =>
      match armory.gateError stop clock with
      | some (error, some fault) =>
          some ⟨{ armory with core := armory.core.recordFaultEvent now },
            .faulting fault (some error), none⟩
      | some (error, none) => some ⟨armory, .finished (some error), none⟩
      | none => some ⟨armory, .cleared operation reason token, none⟩
  | .faulting reason raises =>
      some ⟨(armory.transitionTo stop .fault reason now).1, .finished raises, none⟩
  | .cleared operation reason token =>
      match armory.authenticate digests token now with
      | .error error => some ⟨armory, .finished (some (.auth error)), none⟩
      | .ok none => some ⟨armory, .authorized operation reason none, none⟩
      | .ok (some payload) => some ⟨armory, .authenticated operation reason payload, none⟩
  | .authenticated operation reason payload =>
      match armory.lookup payload now with
      | (pruned, some error) => some ⟨pruned, .finished (some (.auth error)), none⟩
      | (pruned, none) => some ⟨pruned, .authorized operation reason (some payload), none⟩
  | .authorized operation reason pending =>
      let (after, outcome) := armory.transitionTo stop operation.target reason now
      match ArmSupervisor.transitionError outcome with
      | some error => some ⟨after, .finished (some (.transition error)), none⟩
      | none =>
          match pending with
          | none => some ⟨after, .finished none, none⟩
          | some payload =>
              some ⟨after, .moved payload, ArmResult.armed ⟨some payload, outcome, none⟩⟩
  | .moved payload =>
      let (burnt, error) := armory.burn payload now
      some ⟨burnt, .finished (error.map .auth), none⟩
  | .finished _ => none

end ArmTask

/-- The supervisor with its calls, the payloads with which it went from passive
to armed and those its prunes have dropped. -/
structure ArmRace where
  armory : ArmSupervisor
  tasks : List ArmTask
  armings : List Bytes
  dropped : List Bytes

inductive RaceEvent where
  | call (operation : TxOperation) (reason : String) (token : Option (List Char))
  | triggerFault (reason : String) (now : Nat)
  | enterPassiveMode (reason : String) (stop : StopReading) (now : Nat)
  | advance (index : Nat) (stop : StopReading) (clock : ClockInfo) (now : Nat)

namespace ArmRace

def new (core : Supervisor) (config : ArmConfig) : ArmRace where
  armory := ⟨core, config, .empty⟩
  tasks := []
  armings := []
  dropped := []

def leaving (before after : ConsumedArmTokens) : List Bytes :=
  before.keys.filter (fun payload => decide (payload ∉ after))

def step (digests : Digests) (race : ArmRace) : RaceEvent → Option ArmRace
  | .call operation reason token =>
      some { race with tasks := race.tasks ++ [.entered operation reason token] }
  | .triggerFault reason now =>
      some { race with
        armory := { race.armory with core := race.armory.core.recordFaultEvent now }
        tasks := race.tasks ++ [.faulting reason none] }
  | .enterPassiveMode reason stop now =>
      some { race with armory := (race.armory.enterPassiveMode stop reason now).1 }
  | .advance index stop clock now =>
      match race.tasks[index]? with
      | none => none
      | some task =>
          match task.advance digests race.armory stop clock now with
          | none => none
          | some done =>
              some {
                armory := done.armory
                tasks := race.tasks.set index done.task
                armings := race.armings ++ done.armed.toList
                dropped := race.dropped ++ leaving race.armory.consumed done.armory.consumed }

end ArmRace

section Race

variable {digests : Digests} {race next last : ArmRace} {event : RaceEvent}
  {events : List RaceEvent} {armory : ArmSupervisor} {stop : StopReading} {clock : ClockInfo}
  {now : Nat} {task : ArmTask} {done : Section} {payload : Bytes}

theorem ArmRace.mem_leaving {before after : ConsumedArmTokens} (present : payload ∈ before) :
    payload ∈ after ∨ payload ∈ leaving before after := by
  by_cases kept : payload ∈ after
  · exact Or.inl kept
  · exact Or.inr (List.mem_filter.mpr ⟨present, decide_eq_true kept⟩)

/-- A section arms with a payload only from the authorized phase, in passive and
with the emergency stop released; its burn comes next. -/
theorem ArmTask.advance_armed (advanced : task.advance digests armory stop clock now = some done)
    (armed : done.armed = some payload) :
    (∃ reason, task = .authorized .armTx reason (some payload)) ∧ done.task = .moved payload ∧
      armory.core.state = .passive ∧
        ¬ (armory.core.estopBound = true ∧ stop.isEngaged = true) := by
  cases task with
  | entered operation reason token =>
      simp only [advance] at advanced
      split at advanced <;> · cases advanced; cases armed
  | faulting reason raises =>
      cases advanced
      cases armed
  | cleared operation reason token =>
      simp only [advance] at advanced
      split at advanced <;> · cases advanced; cases armed
  | authenticated operation reason held =>
      simp only [advance] at advanced
      split at advanced <;> · cases advanced; cases armed
  | authorized operation reason pending =>
      have arms : ∀ outcome, outcome = (armory.transitionTo stop operation.target reason now).2 →
          outcome = .moved .passive .armedTx none → operation = .armTx ∧
            armory.core.state = .passive ∧
              ¬ (armory.core.estopBound = true ∧ stop.isEngaged = true) := by
        intro outcome same quiet
        obtain ⟨target, passive, released⟩ :=
          ArmSupervisor.transitionTo_arms_iff.mp (same.symm.trans quiet)
        refine ⟨?_, passive, released⟩
        cases operation with
        | armTx => rfl
        | activateTx => cases target
      simp only [advance] at advanced
      split at advanced
      · cases advanced
        cases armed
      · split at advanced
        · cases advanced
          cases armed
        · rename_i held
          cases advanced
          dsimp only at armed
          unfold ArmResult.armed at armed
          split at armed
          · rename_i quiet
            cases armed
            obtain ⟨rfl, passive, released⟩ := arms _ rfl quiet
            exact ⟨⟨reason, rfl⟩, rfl, passive, released⟩
          · cases armed
  | moved held =>
      cases advanced
      cases armed
  | finished raised => cases advanced

theorem ArmTask.advance_moved
    (advanced : (ArmTask.moved payload).advance digests armory stop clock now = some done) :
    payload ∈ done.armory.consumed := by
  cases advanced
  exact ArmSupervisor.mem_burn armory payload now

def ArmRace.Spent (race : ArmRace) (payload : Bytes) : Prop :=
  payload ∈ race.armory.consumed ∨ payload ∈ race.dropped ∨ .moved payload ∈ race.tasks

instance (race : ArmRace) (payload : Bytes) : Decidable (race.Spent payload) :=
  inferInstanceAs (Decidable (_ ∨ _))

/-- An arming call makes its transition, from passive and with the emergency stop
released, while its token is already spent. -/
def Respends (race : ArmRace) : RaceEvent → Prop
  | .advance index stop _ _ =>
      match race.tasks[index]? with
      | some (.authorized .armTx _ (some payload)) =>
          race.armory.core.state = .passive ∧
            ¬ (race.armory.core.estopBound = true ∧ stop.isEngaged = true) ∧ race.Spent payload
      | _ => False
  | _ => False

instance (race : ArmRace) (event : RaceEvent) : Decidable (Respends race event) := by
  unfold Respends
  split
  · split <;> infer_instance
  · infer_instance

def ArmRace.Accounted (race : ArmRace) : Prop := ∀ payload ∈ race.armings, race.Spent payload

/-- A pending burn stays pending, unless it is the one that ran. -/
theorem mem_set_of_moved {tasks : List ArmTask} {index : Nat} {old new : ArmTask}
    (found : tasks[index]? = some old) (member : .moved payload ∈ tasks) :
    old = .moved payload ∨ .moved payload ∈ tasks.set index new := by
  obtain ⟨place, bound, here⟩ := List.mem_iff_getElem.mp member
  by_cases same : index = place
  · subst same
    rw [List.getElem?_eq_getElem bound, here] at found
    exact Or.inl (Option.some.inj found).symm
  · refine Or.inr (List.mem_iff_getElem?.mpr ⟨place, ?_⟩)
    rw [List.getElem?_set_ne same, List.getElem?_eq_getElem bound, here]

theorem ArmRace.Accounted.step (accounted : race.Accounted)
    (stepped : race.step digests event = some next) : next.Accounted := by
  cases event with
  | call operation reason token =>
      cases stepped
      intro payload member
      rcases accounted payload member with present | dropped | pending
      · exact Or.inl present
      · exact Or.inr (Or.inl dropped)
      · exact Or.inr (Or.inr (List.mem_append_left _ pending))
  | triggerFault reason now =>
      cases stepped
      intro payload member
      rcases accounted payload member with present | dropped | pending
      · exact Or.inl present
      · exact Or.inr (Or.inl dropped)
      · exact Or.inr (Or.inr (List.mem_append_left _ pending))
  | enterPassiveMode reason stop now =>
      cases stepped
      exact accounted
  | advance index stop clock now =>
      simp only [ArmRace.step] at stepped
      split at stepped
      · cases stepped
      · rename_i task found
        split at stepped
        · cases stepped
        · rename_i done advanced
          cases stepped
          have bound : index < race.tasks.length := (List.getElem?_eq_some_iff.mp found).1
          intro payload member
          rcases List.mem_append.mp member with earlier | armed
          · rcases accounted payload earlier with present | dropped | pending
            · rcases ArmRace.mem_leaving present with kept | left
              · exact Or.inl kept
              · exact Or.inr (Or.inl (List.mem_append_right _ left))
            · exact Or.inr (Or.inl (List.mem_append_left _ dropped))
            · rcases mem_set_of_moved found pending with ran | waits
              · rw [ran] at advanced
                exact Or.inl (ArmTask.advance_moved advanced)
              · exact Or.inr (Or.inr waits)
          · have next := (ArmTask.advance_armed advanced (Option.mem_toList.mp armed)).2.1
            refine Or.inr (Or.inr ?_)
            rw [← next]
            exact List.mem_set bound _

/-- Unless it arms with a spent token, a step arms with a token for the first
time. -/
theorem ArmRace.step_once (accounted : race.Accounted) (once : race.armings.Nodup)
    (stepped : race.step digests event = some next) (clean : ¬ Respends race event) :
    next.armings.Nodup := by
  cases event with
  | call operation reason token =>
      cases stepped
      exact once
  | triggerFault reason now =>
      cases stepped
      exact once
  | enterPassiveMode reason stop now =>
      cases stepped
      exact once
  | advance index stop clock now =>
      simp only [ArmRace.step] at stepped
      split at stepped
      · cases stepped
      · rename_i task found
        split at stepped
        · cases stepped
        · rename_i done advanced
          cases stepped
          cases armed : done.armed with
          | none =>
              rw [Option.toList_none, List.append_nil]
              exact once
          | some payload =>
              obtain ⟨⟨reason, same⟩, _, passive, released⟩ :=
                ArmTask.advance_armed advanced armed
              rw [same] at found
              have fresh : payload ∉ race.armings := by
                intro member
                apply clean
                simp only [Respends, found]
                exact ⟨passive, released, accounted payload member⟩
              exact List.Nodup.append once (List.nodup_singleton payload)
                (List.disjoint_singleton.mpr fresh)

end Race

section Bench

def lonelyCall : List RaceEvent :=
  [.call .armTx "operator" (some mintedArmToken), .advance 0 quietStop steadyClock 2,
    .advance 0 quietStop steadyClock 2, .advance 0 quietStop steadyClock 2,
    .advance 0 quietStop steadyClock 2, .advance 0 quietStop steadyClock 2]

/-- Two calls verify the token before either has burnt it; the second makes its
transition after the supervisor has returned to passive. -/
def racingCalls : List RaceEvent :=
  [.call .armTx "first" (some mintedArmToken), .call .armTx "second" (some mintedArmToken),
    .advance 0 quietStop steadyClock 2, .advance 0 quietStop steadyClock 2,
    .advance 0 quietStop steadyClock 2, .advance 1 quietStop steadyClock 3,
    .advance 1 quietStop steadyClock 3, .advance 1 quietStop steadyClock 3,
    .advance 0 quietStop steadyClock 4, .advance 0 quietStop steadyClock 5,
    .enterPassiveMode "operator" quietStop 6, .advance 1 quietStop steadyClock 7]

def passiveRace : ArmRace := .new (Supervisor.new .passive true 0) armConfig

theorem lonelyCall_isSome :
    (run (ArmRace.step armDigests) passiveRace lonelyCall).isSome = true := by decide +kernel

def lonelyEnd : ArmRace :=
  (run (ArmRace.step armDigests) passiveRace lonelyCall).get lonelyCall_isSome

theorem racingCalls_isSome :
    (run (ArmRace.step armDigests) passiveRace racingCalls).isSome = true := by decide +kernel

end Bench

end Ucanlab.Safety
