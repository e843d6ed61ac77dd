import Ucanlab.Core.CanFrame
import Ucanlab.Lib.Dict
import Ucanlab.Lib.EventRun

/-!
The frames and the cached reports of the discovery engine, as its locked sections read and change
them. An analysis takes its frames in one section, reads the approvals in a second and stores its
report in a third; what it computes from the frames in between is any function of them.
-/

namespace Ucanlab.Engine.Discovery

open Ucanlab EventRun

def maxFramesPerId : Nat := 10000
def maxTotalFrames : Nat := 200000

/-- Channel, frame format and identifier. -/
abbrev BucketKey := String × Bool × Nat

def bucketKey (frame : CanFrame) : BucketKey :=
  (frame.channelId, frame.isExtended, frame.arbitrationId)

inductive HypothesisStatus where
  | candidate
  | approved
  | rejected
  deriving DecidableEq, Repr

structure Hypothesis where
  startBit : Nat
  length : Nat
  status : HypothesisStatus := .candidate
  deriving DecidableEq, Repr

structure IdReport (Findings : Type) where
  arbitrationId : Nat
  channelId : String
  isExtended : Bool
  frameCount : Nat
  dlc : Nat
  findings : Option Findings
  hypotheses : List Hypothesis
  deriving DecidableEq

/-- The detectors, and the approvals by bucket, start bit and length. -/
abbrev Detect (Findings : Type) := List CanFrame → Findings × List Hypothesis

abbrev Approval := BucketKey × Nat × Nat

variable {Findings : Type} (detect : Detect Findings)

def emptyReport (key : BucketKey) : IdReport Findings where
  arbitrationId := key.2.2
  channelId := key.1
  isExtended := key.2.1
  frameCount := 0
  dlc := 0
  findings := none
  hypotheses := []

def markApproved (approved : List Approval) (key : BucketKey) (hypothesis : Hypothesis) : Hypothesis :=
  if (key, hypothesis.startBit, hypothesis.length) ∈ approved then
    { hypothesis with status := .approved }
  else hypothesis

def byteLen (frames : List CanFrame) : Nat := (frames.map (fun frame => frame.data.length)).foldl max 0

def idReport (approved : List Approval) (key : BucketKey) (frames : List CanFrame) :
    IdReport Findings :=
  if frames.isEmpty then emptyReport key
  else
    { arbitrationId := key.2.2
      channelId := key.1
      isExtended := key.2.1
      frameCount := frames.length
      dlc := byteLen frames
      findings := some (detect frames).1
      hypotheses := (detect frames).2.map (markApproved approved key) }

inductive Flight (Findings : Type) where
  | analysing (key : BucketKey) (frames : List CanFrame)
  | marked (key : BucketKey) (report : IdReport Findings)

structure DiscoveryEngine (Findings : Type) where
  framesById : Dict BucketKey (List CanFrame)
  reportsCache : Dict BucketKey (IdReport Findings)
  totalFrames : Nat
  approved : List Approval
  flights : Nat → Option (Flight Findings)

namespace DiscoveryEngine

def new (approved : List Approval) : DiscoveryEngine Findings where
  framesById := []
  reportsCache := []
  totalFrames := 0
  approved := approved
  flights := fun _ => none

def bucket (engine : DiscoveryEngine Findings) (key : BucketKey) : List CanFrame :=
  (engine.framesById.get? key).getD []

def clear (engine : DiscoveryEngine Findings) : DiscoveryEngine Findings :=
  { engine with framesById := [], reportsCache := [], totalFrames := 0, approved := [] }

/-- `_append_bounded_unlocked`: a full ring gives up its oldest frame, and a full engine takes none. -/
def appendBounded (engine : DiscoveryEngine Findings) (frame : CanFrame) :
    DiscoveryEngine Findings × Bool :=
  if engine.totalFrames ≥ maxTotalFrames then (engine, false)
  else
    let key := bucketKey frame
    let bucket := engine.bucket key
    let full := bucket.length ≥ maxFramesPerId
    let kept := if full then bucket.tail else bucket
    let total := if full then engine.totalFrames - 1 else engine.totalFrames
    ({ engine with
        framesById := engine.framesById.set key (kept ++ [frame])
        totalFrames := total + 1
        reportsCache := engine.reportsCache.erase key }, true)

/-- The first frame that is not taken ends the batch. -/
def ingestFrames (engine : DiscoveryEngine Findings) : List CanFrame → DiscoveryEngine Findings
  | [] => engine
  | frame :: rest =>
      let appended := engine.appendBounded frame
      if appended.2 then appended.1.ingestFrames rest else appended.1

def setFlight (engine : DiscoveryEngine Findings) (thread : Nat) (flight : Option (Flight Findings)) :
    DiscoveryEngine Findings :=
  { engine with flights := Function.update engine.flights thread flight }

/-- The first section of `analyze_key`: a cached report and the one of an empty bucket are returned
at once. -/
def beginAnalysis (engine : DiscoveryEngine Findings) (thread : Nat) (key : BucketKey) :
    DiscoveryEngine Findings × Option (IdReport Findings) :=
  match engine.reportsCache.get? key with
  | some cached => (engine, some cached)
  | none =>
      if (engine.bucket key).isEmpty then
        ({ engine with reportsCache := engine.reportsCache.set key (emptyReport key) },
          some (emptyReport key))
      else (engine.setFlight thread (some (.analysing key (engine.bucket key))), none)

/-- The second section: the hypotheses that are approved by now are marked. -/
def applyApprovals (engine : DiscoveryEngine Findings) (thread : Nat) :
    Option (DiscoveryEngine Findings) :=
  match engine.flights thread with
  | some (.analysing key frames) =>
      some (engine.setFlight thread
        (some (.marked key (idReport detect engine.approved key frames))))
  | _ => none

def storeReport (engine : DiscoveryEngine Findings) (thread : Nat) :
    Option (DiscoveryEngine Findings) :=
  match engine.flights thread with
  | some (.marked key report) =>
      some ({ engine with reportsCache := engine.reportsCache.set key report }.setFlight thread none)
  | _ => none

end DiscoveryEngine

inductive DiscoveryEvent where
  | ingestFrame (frame : CanFrame)
  | ingestFrames (frames : List CanFrame)
  | beginAnalysis (thread : Nat) (key : BucketKey)
  | applyApprovals (thread : Nat)
  | storeReport (thread : Nat)
  | clear

namespace DiscoveryEngine

def step (engine : DiscoveryEngine Findings) : DiscoveryEvent → Option (DiscoveryEngine Findings)
  | .ingestFrame frame => some (engine.appendBounded frame).1
  | .ingestFrames frames => some (engine.ingestFrames frames)
  | .beginAnalysis thread key =>
      match engine.flights thread with
      | none => some (engine.beginAnalysis thread key).1
      | some _ => none
  | .applyApprovals thread => engine.applyApprovals detect thread
  | .storeReport thread => engine.storeReport thread
  | .clear => some engine.clear

def Reflects (report : IdReport Findings) (key : BucketKey) (frames : List CanFrame) : Prop :=
  ∃ approved, report = idReport detect approved key frames

def Fresh (engine : DiscoveryEngine Findings) : Prop :=
  ∀ key report, engine.reportsCache.get? key = some report →
    Reflects detect report key (engine.bucket key)

/-- An analysis that is answered in its first section now gets the report of the frames that are in
the bucket. -/
def AnswersFresh (engine : DiscoveryEngine Findings) : Prop :=
  ∀ thread key report, (engine.beginAnalysis thread key).2 = some report →
    Reflects detect report key (engine.bucket key)

/-- The counter agrees with the buckets and respects its cap. -/
structure Counted (engine : DiscoveryEngine Findings) : Prop where
  total : engine.totalFrames = (engine.framesById.map (fun entry => entry.2.length)).sum
  capped : engine.totalFrames ≤ maxTotalFrames

def StoresCurrent (engine : DiscoveryEngine Findings) : DiscoveryEvent → Prop
  | .storeReport thread =>
      ∀ key report, engine.flights thread = some (.marked key report) →
        Reflects detect report key (engine.bucket key)
  | _ => True

section Steps

variable {engine next : DiscoveryEngine Findings} {frame : CanFrame} {event : DiscoveryEvent}
  {thread : Nat} {key : BucketKey}

theorem answersFresh_iff : engine.AnswersFresh detect ↔ engine.Fresh detect := by
  constructor
  · intro answers key report cached
    refine answers 0 key report ?_
    unfold beginAnalysis
    rw [cached]
  · intro fresh thread key report answered
    unfold beginAnalysis at answered
    split at answered
    · rename_i cached found
      cases answered
      exact fresh key report found
    · split at answered
      · rename_i empty
        cases answered
        rw [List.isEmpty_iff.mp empty]
        exact ⟨[], rfl⟩
      · cases answered

theorem bucket_length : ((engine.framesById.get? key).map List.length).getD 0 =
    (engine.bucket key).length := by
  unfold bucket
  cases engine.framesById.get? key <;> rfl

theorem appendBounded_counted (counted : engine.Counted) :
    (engine.appendBounded frame).1.Counted := by
  have total := counted.total
  unfold appendBounded
  split
  · exact counted
  · rename_i room
    have summed := Dict.sum_set List.length engine.framesById (bucketKey frame)
    have inside := Dict.le_sum_of_get? List.length engine.framesById (bucketKey frame)
    rw [bucket_length, ← total] at inside
    by_cases full : (engine.bucket (bucketKey frame)).length ≥ maxFramesPerId
    · have some' : 0 < (engine.bucket (bucketKey frame)).length :=
        Nat.lt_of_lt_of_le (by decide : 0 < maxFramesPerId) full
      have after := summed ((engine.bucket (bucketKey frame)).tail ++ [frame])
      rw [bucket_length, ← total, List.length_append, List.length_tail, List.length_singleton] at after
      dsimp only
      rw [if_pos full, if_pos full]
      refine ⟨?_, ?_⟩
      · dsimp only
        omega
      · dsimp only
        omega
    · have after := summed (engine.bucket (bucketKey frame) ++ [frame])
      rw [bucket_length, ← total, List.length_append, List.length_singleton] at after
      dsimp only
      rw [if_neg full, if_neg full]
      refine ⟨?_, ?_⟩
      · dsimp only
        omega
      · dsimp only
        omega

theorem appendBounded_fresh (fresh : engine.Fresh detect) :
    (engine.appendBounded frame).1.Fresh detect := by
  unfold appendBounded
  split
  · exact fresh
  · intro key report cached
    by_cases own : key = bucketKey frame
    · subst own
      rw [Dict.get?_erase_self] at cached
      cases cached
    · rw [Dict.get?_erase_ne _ own] at cached
      have kept := fresh key report cached
      unfold bucket at kept ⊢
      rw [Dict.get?_set_ne _ own]
      exact kept

theorem ingestFrames_counted (frames : List CanFrame) (counted : engine.Counted) :
    (engine.ingestFrames frames).Counted := by
  induction frames generalizing engine with
  | nil => exact counted
  | cons frame rest ih =>
      unfold ingestFrames
      dsimp only
      split
      · exact ih (appendBounded_counted counted)
      · exact appendBounded_counted counted

theorem ingestFrames_fresh (frames : List CanFrame) (fresh : engine.Fresh detect) :
    (engine.ingestFrames frames).Fresh detect := by
  induction frames generalizing engine with
  | nil => exact fresh
  | cons frame rest ih =>
      unfold ingestFrames
      dsimp only
      split
      · exact ih (appendBounded_fresh detect fresh)
      · exact appendBounded_fresh detect fresh

theorem beginAnalysis_fresh (fresh : engine.Fresh detect) :
    (engine.beginAnalysis thread key).1.Fresh detect := by
  unfold beginAnalysis
  split
  · exact fresh
  · split
    · rename_i empty
      intro other report cached
      by_cases own : other = key
      · subst own
        change (engine.reportsCache.set other (emptyReport other)).get? other = some report at cached
        rw [Dict.get?_set_self] at cached
        cases cached
        change Reflects detect _ _ (engine.bucket other)
        rw [List.isEmpty_iff.mp empty]
        exact ⟨[], rfl⟩
      · change (engine.reportsCache.set key (emptyReport key)).get? other = some report at cached
        rw [Dict.get?_set_ne _ own] at cached
        exact fresh other report cached
    · exact fresh

/-- Only a store can make the cache stale, and it does just when its report is. -/
theorem step_fresh_iff (fresh : engine.Fresh detect) (stepped : engine.step detect event = some next) :
    next.Fresh detect ↔ engine.StoresCurrent detect event := by
  cases event with
  | ingestFrame frame =>
      cases stepped
      exact iff_of_true (appendBounded_fresh detect fresh) trivial
  | ingestFrames frames =>
      cases stepped
      exact iff_of_true (ingestFrames_fresh detect frames fresh) trivial
  | beginAnalysis thread key =>
      unfold step at stepped
      dsimp only at stepped
      split at stepped
      · cases stepped
        exact iff_of_true (beginAnalysis_fresh detect fresh) trivial
      · cases stepped
  | applyApprovals thread =>
      unfold step applyApprovals at stepped
      dsimp only at stepped
      split at stepped
      · cases stepped
        exact iff_of_true fresh trivial
      · cases stepped
  | clear =>
      cases stepped
      exact iff_of_true (fun _ _ cached => nomatch cached) trivial
  | storeReport thread =>
      unfold step storeReport at stepped
      dsimp only at stepped
      split at stepped
      · rename_i key report flying
        cases stepped
        constructor
        · intro later own stored marked
          rw [flying] at marked
          cases marked
          exact later key report (Dict.get?_set_self _ _ _)
        · intro current other found cached
          by_cases own : other = key
          · subst own
            change (engine.reportsCache.set other report).get? other = some found at cached
            rw [Dict.get?_set_self] at cached
            cases cached
            exact current other report flying
          · change (engine.reportsCache.set key report).get? other = some found at cached
            rw [Dict.get?_set_ne _ own] at cached
            exact fresh other found cached
      · cases stepped

theorem step_counted (counted : engine.Counted) (stepped : engine.step detect event = some next) :
    next.Counted := by
  cases event with
  | ingestFrame frame =>
      cases stepped
      exact appendBounded_counted counted
  | ingestFrames frames =>
      cases stepped
      exact ingestFrames_counted frames counted
  | beginAnalysis thread key =>
      unfold step at stepped
      dsimp only at stepped
      split at stepped
      · cases stepped
        unfold beginAnalysis
        split
        · exact counted
        · split
          · exact ⟨counted.total, counted.capped⟩
          · exact ⟨counted.total, counted.capped⟩
      · cases stepped
  | applyApprovals thread =>
      unfold step applyApprovals at stepped
      dsimp only at stepped
      split at stepped
      · cases stepped
        exact ⟨counted.total, counted.capped⟩
      · cases stepped
  | storeReport thread =>
      unfold step storeReport at stepped
      dsimp only at stepped
      split at stepped
      · cases stepped
        exact ⟨counted.total, counted.capped⟩
      · cases stepped
  | clear =>
      cases stepped
      exact ⟨rfl, Nat.zero_le _⟩

end Steps

end DiscoveryEngine

open DiscoveryEngine

/-- In every run the counter is the sum of the buckets within its cap, and every analysis answered
from the cache is up to date just when each report is stored while its bucket still has the frames
that the report was made of. -/
theorem reports_fresh_iff (approved : List Approval) (events : List DiscoveryEvent)
    (last : DiscoveryEngine Findings) (ran : run (step detect) (new approved) events = some last) :
    ((∀ front back middle, events = front ++ back →
        run (step detect) (new approved) front = some middle → middle.AnswersFresh detect) ↔
      Meets (step detect) (StoresCurrent detect) (new approved) events) ∧
      ∀ front back middle, events = front ++ back →
        run (step detect) (new approved) front = some middle → middle.Counted := by
  constructor
  · have initial : (new approved : DiscoveryEngine Findings).Fresh detect :=
      fun _ _ cached => nomatch cached
    have throughout := invariant_throughout_iff_meets
      (fun engine event next fresh stepped => step_fresh_iff detect fresh stepped) initial ran
    rw [← throughout]
    exact forall₃_congr (fun _ _ _ => imp_congr_right (fun _ => imp_congr_right
      (fun _ => answersFresh_iff detect)))
  · intro front back middle _ frontRan
    exact run_invariant (fun engine event next counted stepped => step_counted detect counted stepped)
      ⟨rfl, Nat.zero_le _⟩ frontRan

def counterFields : FrameFields where
  channelId := "can0"
  arbitrationId := 0x123
  dlc := 1
  data := [7]

def counterFrame : CanFrame := ⟨counterFields, by decide⟩

def detectNothing : Detect Unit := fun _ => ((), [])

def quietAnalysis : List DiscoveryEvent :=
  [.ingestFrame counterFrame, .beginAnalysis 0 ("can0", false, 0x123), .applyApprovals 0,
    .storeReport 0]

def overtakenAnalysis : List DiscoveryEvent :=
  [.ingestFrame counterFrame, .beginAnalysis 0 ("can0", false, 0x123), .ingestFrame counterFrame,
    .applyApprovals 0, .storeReport 0]

theorem quietAnalysis_fresh :
    ∃ last, run (step detectNothing) (new []) quietAnalysis = some last ∧
      last.AnswersFresh detectNothing := by
  refine ⟨_, rfl, ?_⟩
  refine ((reports_fresh_iff detectNothing [] quietAnalysis _ rfl).1.mpr ?_) quietAnalysis [] _
    (List.append_nil _).symm rfl
  refine ⟨trivial, fun engine stepped => ⟨trivial, fun engine' stepped' => ⟨trivial,
    fun engine'' marked => ⟨?_, fun _ _ => trivial⟩⟩⟩⟩
  cases stepped
  cases stepped'
  cases marked
  intro key report flying
  cases flying
  exact ⟨[], rfl⟩

theorem overtakenAnalysis_stale :
    ∃ last, run (step detectNothing) (new []) overtakenAnalysis = some last ∧
      ((last.beginAnalysis 1 ("can0", false, 0x123)).2.map IdReport.frameCount = some 1) ∧
      (last.bucket ("can0", false, 0x123)).length = 2 ∧ ¬ last.AnswersFresh detectNothing := by
  refine ⟨_, rfl, by decide, by decide, ?_⟩
  intro answers
  obtain ⟨approved, same⟩ := answers 1 ("can0", false, 0x123) _ rfl
  have count := congrArg IdReport.frameCount same
  change 1 = 2 at count
  cases count

end Ucanlab.Engine.Discovery
