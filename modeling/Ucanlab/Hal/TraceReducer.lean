import Mathlib.Data.List.Infix
import Ucanlab.Core.CanFrame
import Ucanlab.Lib.Dict

/-!
The reducer of recorded traces: a frame that repeats the payload last kept under its
arbitration identifier is dropped until the heartbeat interval has passed. The times are
floating-point seconds in the source; here their type and the conversion from nanoseconds
are parameters, of which nothing is assumed.
-/

namespace Ucanlab.Replay

variable {Seconds : Type} [Sub Seconds] [LE Seconds] [DecidableLE Seconds]

structure CanTraceReducer (Seconds : Type) where
  maxHeartbeatIntervalS : Seconds
  alwaysKeepIds : List Nat
  lastEmitted : Dict Nat (Seconds × Bytes) := []

def newReducer (maxHeartbeatIntervalS : Seconds) (alwaysKeepIds : List Nat) :
    CanTraceReducer Seconds where
  maxHeartbeatIntervalS := maxHeartbeatIntervalS
  alwaysKeepIds := alwaysKeepIds

def CanTraceReducer.emit (reducer : CanTraceReducer Seconds) (arbId : Nat) (timestamp : Seconds)
    (dataBytes : Bytes) : CanTraceReducer Seconds :=
  { reducer with lastEmitted := reducer.lastEmitted.set arbId (timestamp, dataBytes) }

/-- One round of the loop: the reducer behind the frame, and whether the frame is kept. -/
def CanTraceReducer.consider (seconds : Int → Seconds) (reducer : CanTraceReducer Seconds)
    (recorded : RecordedFrame) : CanTraceReducer Seconds × Bool :=
  let arbId := recorded.frame.arbitrationId
  let timestamp := seconds recorded.timestampNs
  let dataBytes := recorded.frame.data
  if arbId ∈ reducer.alwaysKeepIds then (reducer.emit arbId timestamp dataBytes, true)
  else
    match reducer.lastEmitted.get? arbId with
    | none => (reducer.emit arbId timestamp dataBytes, true)
    | some (lastTs, lastData) =>
        if dataBytes ≠ lastData ∨ reducer.maxHeartbeatIntervalS ≤ timestamp - lastTs then
          (reducer.emit arbId timestamp dataBytes, true)
        else (reducer, false)

def CanTraceReducer.reduce (seconds : Int → Seconds) (reducer : CanTraceReducer Seconds) :
    List RecordedFrame → CanTraceReducer Seconds × List RecordedFrame
  | [] => (reducer, [])
  | recorded :: rest =>
      let considered := reducer.consider seconds recorded
      let later := considered.1.reduce seconds rest
      (later.1, if considered.2 then recorded :: later.2 else later.2)

structure StreamKey where
  channelId : String
  arbitrationId : Nat
  isExtended : Bool
  deriving DecidableEq, Repr

def streamKey (recorded : RecordedFrame) : StreamKey where
  channelId := recorded.frame.channelId
  arbitrationId := recorded.frame.arbitrationId
  isExtended := recorded.frame.isExtended

def held (key : StreamKey) (frames : List RecordedFrame) : Option Bytes :=
  frames.foldl (fun payload recorded =>
    if streamKey recorded = key then some recorded.frame.data else payload) none

def Changes (before : List RecordedFrame) (recorded : RecordedFrame) : Prop :=
  held (streamKey recorded) before ≠ some recorded.frame.data

def reduced (seconds : Int → Seconds) (maxHeartbeatIntervalS : Seconds) (alwaysKeepIds : List Nat)
    (frames : List RecordedFrame) : List RecordedFrame :=
  ((newReducer maxHeartbeatIntervalS alwaysKeepIds).reduce seconds frames).2

/-- At every frame of the trace each stream holds in the reduced trace what it holds in the
trace itself, and every first frame and change is kept. -/
structure Lossless (seconds : Int → Seconds) (maxHeartbeatIntervalS : Seconds)
    (alwaysKeepIds : List Nat) (frames : List RecordedFrame) : Prop where
  holds : ∀ before, before <+: frames → ∀ key,
    held key (reduced seconds maxHeartbeatIntervalS alwaysKeepIds before) = held key before
  keeps : ∀ before recorded after, frames = before ++ recorded :: after → Changes before recorded →
    reduced seconds maxHeartbeatIntervalS alwaysKeepIds (before ++ [recorded]) =
      reduced seconds maxHeartbeatIntervalS alwaysKeepIds before ++ [recorded]

/-- The payload of the latest frame with the numeric identifier, of whatever stream, and
the time from which its heartbeat interval runs: that of the frame which began the run of
equal payloads, or later began a new interval. -/
def heartbeat (seconds : Int → Seconds) (interval : Seconds) (arbId : Nat)
    (frames : List RecordedFrame) : Option (Seconds × Bytes) :=
  frames.foldl (fun beat recorded =>
    let timestamp := seconds recorded.timestampNs
    if recorded.frame.arbitrationId ≠ arbId then beat
    else
      match beat with
      | none => some (timestamp, recorded.frame.data)
      | some (start, payload) =>
          if recorded.frame.data = payload ∧ ¬ interval ≤ timestamp - start then beat
          else some (timestamp, recorded.frame.data)) none

def Repeated (seconds : Int → Seconds) (interval : Seconds) (before : List RecordedFrame)
    (recorded : RecordedFrame) : Prop :=
  ∃ start, heartbeat seconds interval recorded.frame.arbitrationId before =
      some (start, recorded.frame.data) ∧
    ¬ interval ≤ seconds recorded.timestampNs - start

variable {seconds : Int → Seconds} {interval : Seconds} {alwaysKeepIds : List Nat}
  {reducer : CanTraceReducer Seconds} {frames before after : List RecordedFrame}
  {recorded : RecordedFrame}

theorem reduce_append (reducer : CanTraceReducer Seconds) (before after : List RecordedFrame) :
    reducer.reduce seconds (before ++ after) =
      (((reducer.reduce seconds before).1.reduce seconds after).1,
        (reducer.reduce seconds before).2 ++
          ((reducer.reduce seconds before).1.reduce seconds after).2) := by
  induction before generalizing reducer with
  | nil => rfl
  | cons recorded rest ih =>
      simp only [List.cons_append, CanTraceReducer.reduce, ih]
      split
      · rfl
      · rfl

theorem held_snoc (key : StreamKey) (before : List RecordedFrame) (recorded : RecordedFrame) :
    held key (before ++ [recorded]) =
      if streamKey recorded = key then some recorded.frame.data else held key before := by
  unfold held
  rw [List.foldl_append]
  rfl

def Remembers (seconds : Int → Seconds) (interval : Seconds) (alwaysKeepIds : List Nat)
    (frames : List RecordedFrame) (reducer : CanTraceReducer Seconds) : Prop :=
  reducer.maxHeartbeatIntervalS = interval ∧ reducer.alwaysKeepIds = alwaysKeepIds ∧
    ∀ arbId, arbId ∉ alwaysKeepIds →
      reducer.lastEmitted.get? arbId = heartbeat seconds interval arbId frames

theorem heartbeat_snoc_other {arbId : Nat} (other : recorded.frame.arbitrationId ≠ arbId) :
    heartbeat seconds interval arbId (before ++ [recorded]) =
      heartbeat seconds interval arbId before := by
  unfold heartbeat
  rw [List.foldl_append]
  exact if_pos other

theorem heartbeat_snoc_repeated (repeats : Repeated seconds interval before recorded) :
    heartbeat seconds interval recorded.frame.arbitrationId (before ++ [recorded]) =
      heartbeat seconds interval recorded.frame.arbitrationId before := by
  obtain ⟨start, beat, early⟩ := repeats
  unfold heartbeat at beat ⊢
  rw [List.foldl_append, beat]
  simp [early]

theorem heartbeat_snoc_fresh (fresh : ¬ Repeated seconds interval before recorded) :
    heartbeat seconds interval recorded.frame.arbitrationId (before ++ [recorded]) =
      some (seconds recorded.timestampNs, recorded.frame.data) := by
  unfold Repeated at fresh
  cases beat : heartbeat seconds interval recorded.frame.arbitrationId before with
  | none =>
      unfold heartbeat at beat ⊢
      rw [List.foldl_append, beat]
      simp
  | some latest =>
      obtain ⟨start, payload⟩ := latest
      have apart : ¬ (recorded.frame.data = payload ∧
          ¬ interval ≤ seconds recorded.timestampNs - start) := by
        rintro ⟨rfl, early⟩
        exact fresh ⟨start, beat, early⟩
      unfold heartbeat at beat ⊢
      rw [List.foldl_append, beat]
      simp [apart]

theorem consider_spec (remembers : Remembers seconds interval alwaysKeepIds before reducer)
    (recorded : RecordedFrame) :
    Remembers seconds interval alwaysKeepIds (before ++ [recorded])
        (reducer.consider seconds recorded).1 ∧
      ((reducer.consider seconds recorded).2 = false ↔
        recorded.frame.arbitrationId ∉ alwaysKeepIds ∧
          Repeated seconds interval before recorded) := by
  obtain ⟨sameInterval, sameIds, remembered⟩ := remembers
  have other {arbId : Nat} (apart : recorded.frame.arbitrationId ≠ arbId)
      (droppable : arbId ∉ alwaysKeepIds) (timestamp : Seconds) (dataBytes : Bytes) :
      (reducer.emit recorded.frame.arbitrationId timestamp dataBytes).lastEmitted.get? arbId =
        heartbeat seconds interval arbId (before ++ [recorded]) := by
    rw [heartbeat_snoc_other apart, ← remembered arbId droppable]
    exact Dict.get?_set_ne _ apart.symm _
  -- the frame is kept and begins a new interval of its identifier
  have emitted (fresh : recorded.frame.arbitrationId ∉ alwaysKeepIds →
      ¬ Repeated seconds interval before recorded) :
      Remembers seconds interval alwaysKeepIds (before ++ [recorded])
        (reducer.emit recorded.frame.arbitrationId (seconds recorded.timestampNs)
          recorded.frame.data) := by
    refine ⟨sameInterval, sameIds, fun arbId droppable => ?_⟩
    by_cases own : recorded.frame.arbitrationId = arbId
    · subst own
      rw [heartbeat_snoc_fresh (fresh droppable)]
      exact Dict.get?_set_self _ _ _
    · exact other own droppable _ _
  unfold CanTraceReducer.consider
  dsimp only
  by_cases always : recorded.frame.arbitrationId ∈ alwaysKeepIds
  · rw [if_pos (sameIds ▸ always)]
    exact ⟨emitted fun droppable => absurd always droppable, by simp [always]⟩
  · rw [if_neg (sameIds ▸ always), remembered _ always]
    cases beat : heartbeat seconds interval recorded.frame.arbitrationId before with
    | none =>
        have fresh : ¬ Repeated seconds interval before recorded := by
          rintro ⟨start, found, _⟩
          rw [beat] at found
          cases found
        exact ⟨emitted fun _ => fresh, by simp [fresh]⟩
    | some latest =>
        obtain ⟨start, payload⟩ := latest
        dsimp only
        rw [sameInterval]
        by_cases keep : recorded.frame.data ≠ payload ∨
            interval ≤ seconds recorded.timestampNs - start
        · have fresh : ¬ Repeated seconds interval before recorded := by
            rintro ⟨first, found, early⟩
            rw [beat, Option.some.injEq, Prod.mk.injEq] at found
            obtain ⟨rfl, rfl⟩ := found
            exact keep.elim (fun differs => differs rfl) early
          rw [if_pos keep]
          exact ⟨emitted fun _ => fresh, by simp [fresh]⟩
        · obtain ⟨same, early⟩ := not_or.mp keep
          have repeats : Repeated seconds interval before recorded :=
            ⟨start, by rw [beat, not_not.mp same], early⟩
          rw [if_neg keep]
          refine ⟨⟨sameInterval, sameIds, fun arbId droppable => ?_⟩, by simp [always, repeats]⟩
          by_cases own : recorded.frame.arbitrationId = arbId
          · subst own
            rw [heartbeat_snoc_repeated repeats]
            exact remembered _ droppable
          · rw [heartbeat_snoc_other own]
            exact remembered arbId droppable

theorem remembers_reduce (interval : Seconds) (alwaysKeepIds : List Nat)
    (frames : List RecordedFrame) :
    Remembers seconds interval alwaysKeepIds frames
      ((newReducer interval alwaysKeepIds).reduce seconds frames).1 := by
  induction frames using List.reverseRecOn with
  | nil => exact ⟨rfl, rfl, fun _ _ => rfl⟩
  | append_singleton before recorded ih =>
      rw [reduce_append]
      exact (consider_spec ih recorded).1

theorem reduced_snoc_dropped (droppable : recorded.frame.arbitrationId ∉ alwaysKeepIds)
    (repeats : Repeated seconds interval before recorded) :
    reduced seconds interval alwaysKeepIds (before ++ [recorded]) =
      reduced seconds interval alwaysKeepIds before := by
  have dropped := (consider_spec (remembers_reduce interval alwaysKeepIds before) recorded).2.mpr
    ⟨droppable, repeats⟩
  unfold reduced
  rw [reduce_append]
  simp [CanTraceReducer.reduce, dropped]

theorem reduced_snoc_kept (keep : ¬ (recorded.frame.arbitrationId ∉ alwaysKeepIds ∧
      Repeated seconds interval before recorded)) :
    reduced seconds interval alwaysKeepIds (before ++ [recorded]) =
      reduced seconds interval alwaysKeepIds before ++ [recorded] := by
  have kept := (not_congr
    (consider_spec (remembers_reduce interval alwaysKeepIds before) recorded).2).mpr keep
  unfold reduced
  rw [reduce_append]
  simp [CanTraceReducer.reduce, kept]

/-- No first frame and no change of a stream repeats, within the interval, the latest
payload under its numeric identifier. -/
def StreamsApart (seconds : Int → Seconds) (interval : Seconds) (alwaysKeepIds : List Nat)
    (frames : List RecordedFrame) : Prop :=
  ∀ before recorded after, frames = before ++ recorded :: after → Changes before recorded →
    recorded.frame.arbitrationId ∉ alwaysKeepIds → ¬ Repeated seconds interval before recorded

theorem lossless_iff_streamsApart (seconds : Int → Seconds) (interval : Seconds) (alwaysKeepIds : List Nat)
    (frames : List RecordedFrame) :
    Lossless seconds interval alwaysKeepIds frames ↔
      StreamsApart seconds interval alwaysKeepIds frames := by
  constructor
  · rintro ⟨_, keeps⟩ before recorded after split changes droppable repeats
    have kept := keeps before recorded after split changes
    rw [reduced_snoc_dropped droppable repeats] at kept
    exact absurd kept.symm (by simp)
  · intro apart
    constructor
    · intro before starts
      induction before using List.reverseRecOn with
      | nil => exact fun _ => rfl
      | append_singleton earlier recorded ih =>
          intro key
          have sofar := ih ((List.prefix_append _ _).trans starts)
          by_cases drop : recorded.frame.arbitrationId ∉ alwaysKeepIds ∧
              Repeated seconds interval earlier recorded
          · obtain ⟨after, split⟩ := starts
            have same : ¬ Changes earlier recorded := fun changes =>
              apart earlier recorded after (by simp [← split]) changes drop.1 drop.2
            rw [reduced_snoc_dropped drop.1 drop.2, held_snoc, sofar key]
            split
            · rename_i own
              rw [← own]
              exact not_not.mp same
            · rfl
          · rw [reduced_snoc_kept drop, held_snoc, held_snoc, sofar key]
    · intro before recorded after split changes
      exact reduced_snoc_kept fun drop => apart before recorded after split changes drop.1 drop.2

theorem mem_of_mem_reduce (reducer : CanTraceReducer Seconds) (frames : List RecordedFrame) :
    ∀ kept ∈ (reducer.reduce seconds frames).2, kept ∈ frames := by
  induction frames generalizing reducer with
  | nil =>
      intro kept member
      cases member
  | cons recorded rest ih =>
      intro kept member
      unfold CanTraceReducer.reduce at member
      dsimp only at member
      split at member
      · rcases List.mem_cons.mp member with first | later
        · exact first ▸ List.mem_cons_self ..
        · exact List.mem_cons_of_mem _ (ih _ kept later)
      · exact List.mem_cons_of_mem _ (ih _ kept member)

theorem exists_split_at (instant : Int)
    (ordered : frames.Pairwise (fun earlier later => earlier.timestampNs ≤ later.timestampNs)) :
    ∃ before late, frames = before ++ late ∧ (∀ one ∈ before, one.timestampNs ≤ instant) ∧
      ∀ one ∈ late, ¬ one.timestampNs ≤ instant := by
  induction frames with
  | nil =>
      exact ⟨[], [], rfl, fun _ member => absurd member List.not_mem_nil,
        fun _ member => absurd member List.not_mem_nil⟩
  | cons recorded rest ih =>
      obtain ⟨first, orderedRest⟩ := List.pairwise_cons.mp ordered
      by_cases upTo : recorded.timestampNs ≤ instant
      · obtain ⟨before, late, rfl, early, behind⟩ := ih orderedRest
        refine ⟨recorded :: before, late, rfl, ?_, behind⟩
        intro one member
        rcases List.mem_cons.mp member with rfl | later
        · exact upTo
        · exact early one later
      · refine ⟨[], recorded :: rest, rfl, fun _ member => absurd member List.not_mem_nil, ?_⟩
        intro one member
        rcases List.mem_cons.mp member with rfl | later
        · exact upTo
        · have behind := first one later
          omega

theorem Lossless.holds_at (lossless : Lossless seconds interval alwaysKeepIds frames)
    (ordered : frames.Pairwise (fun earlier later => earlier.timestampNs ≤ later.timestampNs))
    (instant : Int) (key : StreamKey) :
    held key ((reduced seconds interval alwaysKeepIds frames).filter
        (fun recorded => decide (recorded.timestampNs ≤ instant))) =
      held key (frames.filter (fun recorded => decide (recorded.timestampNs ≤ instant))) := by
  obtain ⟨before, late, rfl, early, behind⟩ := exists_split_at instant ordered
  have whole (part : List RecordedFrame) (within : ∀ one ∈ part, one ∈ before) :
      part.filter (fun recorded => decide (recorded.timestampNs ≤ instant)) = part :=
    List.filter_eq_self.mpr fun one member => decide_eq_true (early one (within one member))
  have none (part : List RecordedFrame) (within : ∀ one ∈ part, one ∈ late) :
      part.filter (fun recorded => decide (recorded.timestampNs ≤ instant)) = [] :=
    List.filter_eq_nil_iff.mpr fun one member => by simpa using behind one (within one member)
  unfold reduced
  rw [reduce_append, List.filter_append, List.filter_append, whole _ (mem_of_mem_reduce _ before),
    none _ (mem_of_mem_reduce _ late), whole before (fun _ member => member),
    none late (fun _ member => member), List.append_nil, List.append_nil]
  exact lossless.holds before (List.prefix_append before late) key

/-- The reduction is lossless exactly where the streams with one numeric identifier keep
apart, and then it is so at every instant of a trace in time order. -/
theorem reduction_lossless_iff (seconds : Int → Seconds) (interval : Seconds)
    (alwaysKeepIds : List Nat) (frames : List RecordedFrame) :
    (Lossless seconds interval alwaysKeepIds frames ↔
      StreamsApart seconds interval alwaysKeepIds frames) ∧
    (StreamsApart seconds interval alwaysKeepIds frames →
      frames.Pairwise (fun earlier later => earlier.timestampNs ≤ later.timestampNs) →
      ∀ instant key,
        held key ((reduced seconds interval alwaysKeepIds frames).filter
            (fun recorded => decide (recorded.timestampNs ≤ instant))) =
          held key (frames.filter (fun recorded => decide (recorded.timestampNs ≤ instant)))) := by
  have exactly := lossless_iff_streamsApart seconds interval alwaysKeepIds frames
  exact ⟨exactly, fun apart ordered => (exactly.mpr apart).holds_at ordered⟩

def startFrame (channelId : String) : FrameFields where
  channelId := channelId
  arbitrationId := 0x100
  dlc := 1
  data := [1]

def firstTwin : RecordedFrame := { frame := ⟨startFrame "can0", by decide⟩, timestampNs := 0 }

def secondTwin : RecordedFrame := { frame := ⟨startFrame "can1", by decide⟩, timestampNs := 0 }

def rationalSeconds (timestampNs : Int) : Rat := timestampNs / 1000000000

/-- The first frame of the second channel is dropped, and its stream holds nothing. -/
theorem twin_streams_not_lossless :
    reduced rationalSeconds (1 / 2) [] [firstTwin, secondTwin] = [firstTwin] ∧
      Changes [firstTwin] secondTwin ∧
      held (streamKey secondTwin) (reduced rationalSeconds (1 / 2) [] [firstTwin, secondTwin]) ≠
        held (streamKey secondTwin) [firstTwin, secondTwin] ∧
      ¬ Lossless rationalSeconds (1 / 2) [] [firstTwin, secondTwin] := by
  have dropped : reduced rationalSeconds (1 / 2) [] [firstTwin, secondTwin] = [firstTwin] := by
    decide +kernel
  have differs : held (streamKey secondTwin) [firstTwin] ≠
      held (streamKey secondTwin) [firstTwin, secondTwin] := by decide +kernel
  refine ⟨dropped, by unfold Changes; decide +kernel, ?_, ?_⟩
  · rw [dropped]
    exact differs
  · intro lossless
    have same := lossless.holds [firstTwin, secondTwin] (List.prefix_refl _) (streamKey secondTwin)
    rw [dropped] at same
    exact differs same

end Ucanlab.Replay
