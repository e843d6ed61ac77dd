import Ucanlab.Engine.FramePipeline
import Ucanlab.Lib.EventRun

/-!
The markers of the pipeline's own frames over whole runs. Frames arrive from the bus,
synthetic frames come back from the router at any time or never, and the pipeline is
reset; the frames awaited back are kept beside the pipeline, which only has their
identities. Calls do not overlap, but a synthetic frame may come back within the call
that made it.
-/

namespace Ucanlab.Engine

open Ucanlab

namespace FramePipeline

variable {pipeline : FramePipeline}

/-- What a completed message, or none, does to the markers. -/
def Registers (before : FramePipeline) (handled : FramePipeline × Ingress) : Prop :=
  match synthesized handled.2 with
  | none => handled.1.internalSyntheticIds = before.internalSyntheticIds
  | some synthetic => handled.1.internalSyntheticIds =
      (before.registerSynthetic synthetic.identity).internalSyntheticIds

theorem Registers.congr {before other : FramePipeline} {handled : FramePipeline × Ingress}
    (same : other.internalSyntheticIds = before.internalSyntheticIds)
    (registers : other.Registers handled) : before.Registers handled := by
  unfold Registers registerSynthetic at *
  rw [same] at registers
  exact registers

theorem finalizeReassembledMessage_registers (pipeline : FramePipeline) (message : Transfer) :
    pipeline.Registers (pipeline.finalizeReassembledMessage message) := by
  unfold finalizeReassembledMessage
  cases message.synthesize with
  | error error => exact rfl
  | ok synthetic => exact rfl

theorem tryProcessJ1939_ids (pipeline : FramePipeline) (clock : J1939.Clock)
    (arrival : StampedFrame) :
    (pipeline.tryProcessJ1939 clock arrival).1.internalSyntheticIds =
      pipeline.internalSyntheticIds := by
  unfold tryProcessJ1939
  dsimp only
  split
  · rfl
  · rfl

theorem tryProcessIsotp_ids (pipeline : FramePipeline) (now : Nat) (arrival : StampedFrame) :
    (pipeline.tryProcessIsotp now arrival).1.internalSyntheticIds =
      pipeline.internalSyntheticIds := by
  unfold tryProcessIsotp
  split
  · rfl
  · split
    · rfl
    · rfl

theorem finishIsotp_registers (pipeline : FramePipeline) (now : Nat) (arrival : StampedFrame) :
    pipeline.Registers (pipeline.finishIsotp now arrival) := by
  have kept := pipeline.tryProcessIsotp_ids now arrival
  unfold finishIsotp
  split
  · rename_i next error handled
    rw [handled] at kept
    exact kept
  · rename_i next handled
    rw [handled] at kept
    exact kept
  · rename_i next message handled
    rw [handled] at kept
    exact (next.finalizeReassembledMessage_registers message).congr kept

/-- The handlers change the markers by the completed message alone. -/
theorem interceptFrame_registers (pipeline : FramePipeline) (clock : IngressClock)
    (arrival : StampedFrame) : pipeline.Registers (pipeline.interceptFrame clock arrival) := by
  unfold interceptFrame
  dsimp only
  generalize reaps : (if (pipeline.totalFramesProcessed + 1) % 64 = 0 then
    reapStaleSessions { pipeline with totalFramesProcessed := pipeline.totalFramesProcessed + 1 }
      clock else { pipeline with totalFramesProcessed := pipeline.totalFramesProcessed + 1 }) = reaped
  have untouched : reaped.internalSyntheticIds = pipeline.internalSyntheticIds := by
    rw [← reaps]
    split
    · rfl
    · rfl
  split
  · have kept := reaped.tryProcessJ1939_ids clock.transport arrival
    split
    · rename_i next message handled
      rw [handled] at kept
      exact (next.finalizeReassembledMessage_registers message).congr (kept.trans untouched)
    · rename_i next handled
      rw [handled] at kept
      exact (next.finishIsotp_registers clock.isotp arrival).congr (kept.trans untouched)
  · exact (reaped.finishIsotp_registers clock.isotp arrival).congr untouched

end FramePipeline

/-- The synthetic frames made so far, by number, and of those made since the last reset
and not yet come back the number and the identity. -/
structure LoopWorld where
  pipeline : FramePipeline
  created : List StampedFrame
  awaited : Dict Nat FrameIdentity

inductive LoopEvent where
  | receive (clock : IngressClock) (arrival : StampedFrame)
  | returned (clock : IngressClock) (number : Nat)
  | reset

namespace LoopWorld

def start (pipeline : FramePipeline) : LoopWorld where
  pipeline := { pipeline with internalSyntheticIds := [] }
  created := []
  awaited := []

def awaitedIdentities (world : LoopWorld) : List FrameIdentity := world.awaited.map Prod.snd

def enter (world : LoopWorld) (clock : IngressClock) (arrival : StampedFrame) : LoopWorld :=
  let handled := world.pipeline.processFrame clock arrival
  match FramePipeline.synthesized handled.2 with
  | none => { world with pipeline := handled.1 }
  | some synthetic =>
      { pipeline := handled.1
        created := world.created ++ [synthetic]
        awaited := world.awaited ++ [(world.created.length, synthetic.identity)] }

def returns (world : LoopWorld) (number : Nat) : LoopWorld :=
  { world with awaited := world.awaited.erase number }

/-- A routed frame may come back more than once. -/
def step (world : LoopWorld) : LoopEvent → Option LoopWorld
  | .receive clock arrival => some (world.enter clock arrival)
  | .returned clock number =>
      if world.pipeline.routesSyntheticFrames then
        (world.created[number]?).map (fun synthetic => (world.returns number).enter clock synthetic)
      else none
  | .reset => some { world with pipeline := world.pipeline.reset, awaited := [] }

inductive Foreign (world : LoopWorld) : LoopEvent → IngressClock → StampedFrame → Prop
  | live (clock : IngressClock) (arrival : StampedFrame) :
      Foreign world (.receive clock arrival) clock arrival
  | copy (clock : IngressClock) {number : Nat} {synthetic : StampedFrame}
      (routed : world.pipeline.routesSyntheticFrames = true)
      (made : world.created[number]? = some synthetic) (forgotten : number ∉ world.awaited.keys) :
      Foreign world (.returned clock number) clock synthetic

inductive Own (world : LoopWorld) : LoopEvent → IngressClock → Nat → StampedFrame → Prop
  | back (clock : IngressClock) {number : Nat} {synthetic : StampedFrame}
      (routed : world.pipeline.routesSyntheticFrames = true)
      (made : world.created[number]? = some synthetic) (waiting : number ∈ world.awaited.keys) :
      Own world (.returned clock number) clock number synthetic

structure Marked (world : LoopWorld) : Prop where
  markers : world.pipeline.internalSyntheticIds.keys = world.awaitedIdentities
  distinct : world.awaitedIdentities.Nodup

structure Suppresses (world : LoopWorld) (event : LoopEvent) : Prop where
  foreign : ∀ clock arrival, world.Foreign event clock arrival →
    world.pipeline.processFrame clock arrival = world.pipeline.interceptFrame clock arrival
  own : ∀ clock number synthetic, world.Own event clock number synthetic →
    world.pipeline.processFrame clock synthetic =
      (world.pipeline.consumeMarker synthetic.identity, .ok none)
  marked : ∀ next, step world event = some next → next.Marked

/-- Neither the frame nor the synthetic frame of the message it completes could be taken
for an awaited one, and one more can be awaited. -/
structure Clear (world : LoopWorld) (clock : IngressClock) (arrival : StampedFrame) : Prop where
  received : arrival.identity ∉ world.awaitedIdentities
  completed : ∀ synthetic,
    FramePipeline.synthesized (world.pipeline.interceptFrame clock arrival).2 = some synthetic →
      synthetic.identity ∉ world.awaitedIdentities ∧
        world.awaited.length < internalSyntheticIdsCap

def Apart (world : LoopWorld) (event : LoopEvent) : Prop :=
  ∀ clock arrival, world.Foreign event clock arrival → world.Clear clock arrival

section Markers

variable {pipeline : FramePipeline} {clock : IngressClock} {arrival : StampedFrame}

theorem processFrame_of_unmarked
    (unmarked : arrival.identity ∉ pipeline.internalSyntheticIds.keys) :
    pipeline.processFrame clock arrival = pipeline.interceptFrame clock arrival := by
  unfold FramePipeline.processFrame
  rw [if_neg (fun marked => unmarked (Dict.contains_iff.mp marked))]

theorem processFrame_of_marked (marked : arrival.identity ∈ pipeline.internalSyntheticIds.keys) :
    pipeline.processFrame clock arrival = (pipeline.consumeMarker arrival.identity, .ok none) := by
  unfold FramePipeline.processFrame
  rw [if_pos (Dict.contains_iff.mpr marked)]

/-- To take a marker is not to be handled: the handlers take no marker away. -/
theorem processFrame_eq_interceptFrame_iff :
    pipeline.processFrame clock arrival = pipeline.interceptFrame clock arrival ↔
      arrival.identity ∉ pipeline.internalSyntheticIds.keys := by
  constructor
  · intro same marked
    rw [processFrame_of_marked marked] at same
    have kept := pipeline.interceptFrame_registers clock arrival
    rw [← same] at kept
    have erased : pipeline.internalSyntheticIds.erase arrival.identity =
        pipeline.internalSyntheticIds := kept
    have missing := Dict.get?_erase_self pipeline.internalSyntheticIds arrival.identity
    rw [erased, Dict.get?_eq_none_iff] at missing
    exact missing marked
  · exact processFrame_of_unmarked

theorem registerSynthetic_keys_iff {marked : List FrameIdentity}
    (markers : pipeline.internalSyntheticIds.keys = marked) (distinct : marked.Nodup)
    (identity : FrameIdentity) :
    ((pipeline.registerSynthetic identity).internalSyntheticIds.keys = marked ++ [identity] ∧
        (marked ++ [identity]).Nodup) ↔
      identity ∉ marked ∧ marked.length < internalSyntheticIdsCap := by
  have counted : pipeline.internalSyntheticIds.length = marked.length := by
    rw [← markers, Dict.keys, List.length_map]
  constructor
  · rintro ⟨registered, grown⟩
    have fresh : identity ∉ marked := by
      intro member
      have apart := (List.nodup_append.mp grown).2.2
      exact apart identity member identity (List.mem_singleton_self identity) rfl
    refine ⟨fresh, ?_⟩
    have absent : identity ∉ pipeline.internalSyntheticIds.keys := markers ▸ fresh
    have lengths := congrArg List.length registered
    unfold FramePipeline.registerSynthetic at lengths
    dsimp only at lengths
    rw [Dict.set_of_absent () absent] at lengths
    simp only [Dict.keys, List.length_map, List.length_drop, List.length_append, counted,
      List.length_singleton] at lengths
    unfold internalSyntheticIdsCap at lengths ⊢
    omega
  · rintro ⟨fresh, room⟩
    have absent : identity ∉ pipeline.internalSyntheticIds.keys := markers ▸ fresh
    have noExcess : (pipeline.internalSyntheticIds ++ [(identity, ())]).length -
        internalSyntheticIdsCap = 0 := by
      rw [List.length_append, counted, List.length_singleton]
      omega
    constructor
    · unfold FramePipeline.registerSynthetic
      dsimp only
      rw [Dict.set_of_absent () absent, noExcess, List.drop_zero, Dict.keys, List.map_append]
      exact congrArg (· ++ [identity]) markers
    · refine List.nodup_append.mpr ⟨distinct, List.nodup_singleton identity, ?_⟩
      intro old member new here same
      rw [List.mem_singleton.mp here] at same
      exact fresh (same ▸ member)

end Markers

structure Issued (world : LoopWorld) : Prop where
  numbers : world.awaited.keys.Nodup
  made : ∀ entry ∈ world.awaited, ∃ synthetic,
    world.created[entry.1]? = some synthetic ∧ synthetic.identity = entry.2

section Steps

variable {world next : LoopWorld} {event : LoopEvent} {clock : IngressClock}
  {arrival : StampedFrame}

theorem Issued.returns (issued : world.Issued) (number : Nat) : (world.returns number).Issued := by
  constructor
  · exact (Dict.keys_erase_sublist world.awaited number).nodup issued.numbers
  · intro entry member
    exact issued.made entry (Dict.mem_erase.mp member).1

theorem Issued.enter (issued : world.Issued) (clock : IngressClock) (arrival : StampedFrame) :
    (world.enter clock arrival).Issued := by
  unfold LoopWorld.enter
  dsimp only
  split
  · exact ⟨issued.numbers, issued.made⟩
  · rename_i synthetic made
    have below : ∀ number ∈ world.awaited.keys, number < world.created.length := by
      intro number member
      obtain ⟨entry, present, rfl⟩ := List.mem_map.mp member
      obtain ⟨found, stored, _⟩ := issued.made entry present
      exact (List.getElem?_eq_some_iff.mp stored).1
    constructor
    · have fresh : world.created.length ∉ world.awaited.keys :=
        fun member => Nat.lt_irrefl _ (below _ member)
      unfold Dict.keys at fresh ⊢
      rw [List.map_append, List.nodup_append]
      refine ⟨issued.numbers, List.nodup_singleton _, ?_⟩
      intro old member new here same
      rw [List.mem_singleton.mp here] at same
      rw [same] at member
      exact fresh member
    · intro entry member
      dsimp only at member ⊢
      rcases List.mem_append.mp member with old | new
      · obtain ⟨found, stored, identity⟩ := issued.made entry old
        refine ⟨found, ?_, identity⟩
        rw [List.getElem?_append_left (below _ (Dict.mem_keys old))]
        exact stored
      · rw [List.mem_singleton.mp new]
        exact ⟨synthetic, List.getElem?_concat_length, rfl⟩

theorem Issued.step (issued : world.Issued) (stepped : step world event = some next) :
    next.Issued := by
  cases event with
  | receive clock arrival =>
      cases stepped
      exact issued.enter clock arrival
  | returned clock number =>
      unfold LoopWorld.step at stepped
      dsimp only at stepped
      split at stepped
      · obtain ⟨synthetic, _, rfl⟩ := Option.map_eq_some_iff.mp stepped
        exact (issued.returns number).enter clock synthetic
      · cases stepped
  | reset =>
      cases stepped
      exact ⟨List.nodup_nil, nofun⟩

theorem marked_enter_iff (marked : world.Marked)
    (unmarked : arrival.identity ∉ world.pipeline.internalSyntheticIds.keys) :
    (world.enter clock arrival).Marked ↔ ∀ synthetic,
      FramePipeline.synthesized (world.pipeline.interceptFrame clock arrival).2 = some synthetic →
        synthetic.identity ∉ world.awaitedIdentities ∧
          world.awaited.length < internalSyntheticIdsCap := by
  have registers := world.pipeline.interceptFrame_registers clock arrival
  have counted : world.awaitedIdentities.length = world.awaited.length := by
    unfold awaitedIdentities
    rw [List.length_map]
  unfold LoopWorld.enter
  rw [processFrame_of_unmarked unmarked]
  unfold FramePipeline.Registers at registers
  dsimp only
  cases made : FramePipeline.synthesized (world.pipeline.interceptFrame clock arrival).2 with
  | none =>
      rw [made] at registers
      have untouched (handled : FramePipeline) :
          ({ world with pipeline := handled } : LoopWorld).awaitedIdentities =
            world.awaitedIdentities := rfl
      constructor
      · intro _ synthetic none
        cases none
      · intro _
        constructor
        · rw [untouched, ← marked.markers, ← registers]
        · rw [untouched]
          exact marked.distinct
  | some synthetic =>
      rw [made] at registers
      have grows := registerSynthetic_keys_iff marked.markers marked.distinct synthetic.identity
      rw [counted, ← registers] at grows
      have appended (handled : FramePipeline) (created : List StampedFrame) (number : Nat) :
          (LoopWorld.mk handled created
            (world.awaited ++ [(number, synthetic.identity)])).awaitedIdentities =
            world.awaitedIdentities ++ [synthetic.identity] := List.map_append
      constructor
      · intro kept other same
        cases same
        have markers := kept.markers
        have distinct := kept.distinct
        rw [appended] at markers distinct
        exact grows.mp ⟨markers, distinct⟩
      · intro clear
        obtain ⟨markers, distinct⟩ := grows.mpr (clear synthetic rfl)
        constructor
        · rw [appended]
          exact markers
        · rw [appended]
          exact distinct

theorem Issued.awaits (issued : world.Issued) {number : Nat}
    {synthetic : StampedFrame} (made : world.created[number]? = some synthetic)
    (waiting : number ∈ world.awaited.keys) : (number, synthetic.identity) ∈ world.awaited := by
  obtain ⟨entry, member, rfl⟩ := List.mem_map.mp waiting
  obtain ⟨found, stored, identity⟩ := issued.made entry member
  rw [made] at stored
  cases stored
  rw [identity]
  exact member

theorem Marked.back (marked : world.Marked) (issued : world.Issued) {number : Nat}
    {synthetic : StampedFrame} (made : world.created[number]? = some synthetic)
    (waiting : number ∈ world.awaited.keys) (clock : IngressClock) :
    synthetic.identity ∈ world.pipeline.internalSyntheticIds.keys ∧
      ((world.returns number).enter clock synthetic).Marked := by
  have member := issued.awaits made waiting
  have present : synthetic.identity ∈ world.pipeline.internalSyntheticIds.keys := by
    rw [marked.markers]
    exact List.mem_map_of_mem member
  refine ⟨present, ?_⟩
  have entered : (world.returns number).enter clock synthetic =
      { world with
        pipeline := world.pipeline.consumeMarker synthetic.identity
        awaited := world.awaited.erase number } := by
    unfold LoopWorld.enter LoopWorld.returns
    rw [processFrame_of_marked present]
    rfl
  -- the entry of the number is the only one with its identity
  have single : world.awaited.erase number =
      world.awaited.filter (fun entry => decide (entry.2 ≠ synthetic.identity)) := by
    refine List.filter_congr ?_
    intro entry present
    refine decide_eq_decide.mpr (not_congr ?_)
    constructor
    · intro same
      have found := Dict.get?_of_mem issued.numbers member
      have pair : (entry.1, entry.2) ∈ world.awaited := present
      have also := Dict.get?_of_mem issued.numbers pair
      rw [same, found] at also
      exact (Option.some.inj also).symm
    · intro same
      have equal := List.inj_on_of_nodup_map marked.distinct present member same
      exact congrArg Prod.fst equal
  rw [entered]
  constructor
  · have erased : (world.pipeline.internalSyntheticIds.erase synthetic.identity).keys =
        world.pipeline.internalSyntheticIds.keys.filter
          (fun identity => decide (identity ≠ synthetic.identity)) := by
      unfold Dict.erase Dict.keys
      rw [List.filter_map]
      rfl
    have mapped : (world.awaited.filter (fun entry => decide (entry.2 ≠ synthetic.identity))).map
        Prod.snd = (world.awaited.map Prod.snd).filter
          (fun identity => decide (identity ≠ synthetic.identity)) := by
      rw [List.filter_map]
      rfl
    unfold awaitedIdentities FramePipeline.consumeMarker
    dsimp only
    rw [erased, marked.markers, single, mapped]
    rfl
  · unfold awaitedIdentities
    dsimp only
    rw [single]
    exact (List.Sublist.map Prod.snd List.filter_sublist).nodup marked.distinct

/-- An event does what is asked exactly where nothing that enters could be taken for an
awaited frame. -/
theorem suppresses_iff_apart (issued : world.Issued) (marked : world.Marked) :
    world.Suppresses event ↔ world.Apart event := by
  constructor
  · intro suppresses clock arrival foreign
    have unmarked := processFrame_eq_interceptFrame_iff.mp (suppresses.foreign clock arrival foreign)
    cases foreign with
    | live =>
        refine ⟨marked.markers ▸ unmarked, ?_⟩
        exact (marked_enter_iff marked unmarked).mp (suppresses.marked _ rfl)
    | @copy _ number synthetic routed made forgotten =>
        have untouched : world.returns number = world := by
          unfold LoopWorld.returns
          rw [Dict.erase_of_absent forgotten]
        refine ⟨marked.markers ▸ unmarked, ?_⟩
        refine (marked_enter_iff marked unmarked).mp (suppresses.marked _ ?_)
        unfold LoopWorld.step
        dsimp only
        rw [if_pos routed, made, untouched]
        rfl
  · intro apart
    constructor
    case foreign =>
      intro clock arrival foreign
      refine processFrame_of_unmarked ?_
      rw [marked.markers]
      exact (apart clock arrival foreign).received
    case own =>
      intro clock number synthetic own
      cases own with
      | back _ routed made waiting =>
          exact processFrame_of_marked (marked.back issued made waiting clock).1
    case marked =>
      intro next stepped
      cases event with
      | receive clock arrival =>
          cases stepped
          have clear := apart clock arrival (.live clock arrival)
          exact (marked_enter_iff marked (marked.markers ▸ clear.received)).mpr clear.completed
      | returned clock number =>
          unfold LoopWorld.step at stepped
          dsimp only at stepped
          split at stepped
          · rename_i routed
            obtain ⟨synthetic, made, rfl⟩ := Option.map_eq_some_iff.mp stepped
            by_cases waiting : number ∈ world.awaited.keys
            · exact (marked.back issued made waiting clock).2
            · have clear := apart clock synthetic (.copy clock routed made waiting)
              have untouched : world.returns number = world := by
                unfold LoopWorld.returns
                rw [Dict.erase_of_absent waiting]
              rw [untouched]
              exact (marked_enter_iff marked (marked.markers ▸ clear.received)).mpr clear.completed
          · cases stepped
      | reset =>
          cases stepped
          exact ⟨rfl, List.nodup_nil⟩

end Steps

section Runs

variable (pipeline : FramePipeline) (events : List LoopEvent)

theorem start_issued : (start pipeline).Issued := ⟨List.nodup_nil, nofun⟩

theorem start_marked : (start pipeline).Marked := ⟨rfl, List.nodup_nil⟩

theorem suppresses_of_apart (meets : EventRun.Meets step Apart (start pipeline) events) :
    EventRun.Meets step Suppresses (start pipeline) events := by
  have kept (world : LoopWorld) (event : LoopEvent) (next : LoopWorld)
      (inv : world.Issued ∧ world.Marked) (apart : world.Apart event)
      (stepped : step world event = some next) : next.Issued ∧ next.Marked :=
    ⟨inv.1.step stepped, ((suppresses_iff_apart inv.1 inv.2).mpr apart).marked next stepped⟩
  refine (EventRun.Meets.with_invariant kept
    ⟨start_issued pipeline, start_marked pipeline⟩ meets).imp ?_
  intro world event both
  exact (suppresses_iff_apart both.1.1 both.1.2).mpr both.2

/-- In a run of the pipeline every frame from elsewhere is handled, and every marker goes
with the synthetic frame it was made for, exactly where nothing that enters could be taken
for an awaited frame. -/
theorem suppresses_throughout_iff :
    EventRun.Meets step Suppresses (start pipeline) events ↔
      EventRun.Meets step Apart (start pipeline) events := by
  constructor
  · intro meets
    have kept (world : LoopWorld) (event : LoopEvent) (next : LoopWorld)
        (inv : world.Issued ∧ world.Marked) (suppresses : world.Suppresses event)
        (stepped : step world event = some next) : next.Issued ∧ next.Marked :=
      ⟨inv.1.step stepped, suppresses.marked next stepped⟩
    refine (EventRun.Meets.with_invariant kept
      ⟨start_issued pipeline, start_marked pipeline⟩ meets).imp ?_
    intro world event both
    exact (suppresses_iff_apart both.1.1 both.1.2).mp both.2
  · exact suppresses_of_apart pipeline events

/-- A Single Frame of the first engine controller. -/
def singleFrame (sid : UInt8) : StampedFrame where
  frame := {
    channelId := "can0"
    arbitrationId := 0x7E8
    dlc := 8
    data := [0x02, sid, 0x00, 0xAA, 0xAA, 0xAA, 0xAA, 0xAA]
    isExtended := false
    isFd := false
    valid := (FrameFields.postInit_eq_none_iff _).mpr {
      channelId := show validChannelId "can0" = true by decide
      dlc := show 8 ≤ 15 by decide
      arbitrationId := show 0x7E8 ≤ 0x7FF by decide
      classicDlc := fun _ => Nat.le_refl 8
      classicFlags := fun _ => ⟨rfl, rfl⟩
      fdLength := nofun
      exactLength := fun _ => rfl } }
  timestampNs := 5

/-- Without a router, the marker of one response takes the next response of the same
timestamp. -/
theorem second_response_swallowed :
    ¬ ∀ (pipeline : FramePipeline) (events : List LoopEvent),
      EventRun.Meets step Suppresses (start pipeline) events := by
  intro always
  let clock : IngressClock := ⟨0, 0, J1939.Clock.at 0, 0⟩
  have meets := always { routesSyntheticFrames := false }
    [.receive clock (singleFrame 0x50), .receive clock (singleFrame 0x7E)]
  have later := (meets.2 _ rfl).1
  have handled := later.foreign clock (singleFrame 0x7E) (.live clock (singleFrame 0x7E))
  have unmarked := processFrame_eq_interceptFrame_iff.mp handled
  have marker : ((start { routesSyntheticFrames := false }).enter clock
      (singleFrame 0x50)).pipeline.internalSyntheticIds.keys = [("can0", 0x7E8, 5)] := by
    decide
  rw [marker] at unmarked
  exact unmarked (List.mem_singleton_self _)

end Runs

end LoopWorld

end Ucanlab.Engine
