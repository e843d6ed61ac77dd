import Mathlib.Algebra.Order.Monoid.Unbundled.WithTop
import Mathlib.Data.List.MinMax
import Ucanlab.Lib.Dict
import Ucanlab.Lib.EventRun
import Ucanlab.Lib.SlidingWindow

/-!
The rate limit of the pipeline on its protocol responses, for each arbitration identifier. The table
of the windows is bounded, and an identifier that gives up its place loses its window.
-/

namespace Ucanlab.Engine

open EventRun WindowCount

def txResponseWindowNs : Nat := 1000000000
def txResponseMaxPerPeer : Nat := 50
def txResponsePeersTracked : Nat := 256

structure ResponseLimiter where
  timestamps : Dict Nat (List Nat) := []
  dropped : Nat := 0
  deriving DecidableEq, Repr

structure DueResponse where
  arbitrationId : Nat
  now : Nat
  deriving DecidableEq, Repr

namespace ResponseLimiter

def lastActivity (window : List Nat) : WithTop Nat :=
  match window.getLast? with
  | some time => (time : WithTop Nat)
  | none => ⊤

def makeRoom (timestamps : Dict Nat (List Nat)) : Dict Nat (List Nat) :=
  if timestamps.length ≥ txResponsePeersTracked then
    match List.argmin (fun entry => lastActivity entry.2) timestamps with
    | some oldest => timestamps.erase oldest.1
    | none => timestamps
  else timestamps

def pruned (limiter : ResponseLimiter) (due : DueResponse) : List Nat :=
  ((limiter.timestamps.get? due.arbitrationId).getD []).dropWhile
    (fun time => decide (due.now - time ≥ txResponseWindowNs))

def admits (limiter : ResponseLimiter) (due : DueResponse) : Bool :=
  decide ((limiter.pruned due).length < txResponseMaxPerPeer)

def roomFor (limiter : ResponseLimiter) (peer : Nat) : Dict Nat (List Nat) :=
  if limiter.timestamps.contains peer then limiter.timestamps else makeRoom limiter.timestamps

def dispatch (limiter : ResponseLimiter) (due : DueResponse) : ResponseLimiter :=
  let roomy := limiter.roomFor due.arbitrationId
  if limiter.admits due then
    { limiter with
      timestamps := roomy.set due.arbitrationId (limiter.pruned due ++ [due.now]) }
  else
    { timestamps := roomy.set due.arbitrationId (limiter.pruned due)
      dropped := limiter.dropped + 1 }

end ResponseLimiter

structure ResponseRun where
  limiter : ResponseLimiter := {}
  clock : Nat := 0
  handed : List (Nat × Nat) := []
  deriving DecidableEq

namespace ResponseRun

def timesOf (run : ResponseRun) (peer : Nat) : List Nat :=
  (run.handed.filter (fun response => decide (response.1 = peer))).map Prod.snd

def step (before : ResponseRun) (due : DueResponse) : Option ResponseRun :=
  if due.now < before.clock then none
  else some {
    limiter := before.limiter.dispatch due
    clock := due.now
    handed :=
      if before.limiter.admits due then before.handed ++ [(due.arbitrationId, due.now)]
      else before.handed }

def forgotten (before : ResponseRun) (due : DueResponse) : List Nat :=
  (before.timesOf due.arbitrationId).take
    ((before.timesOf due.arbitrationId).length - (before.limiter.pruned due).length)

/-- A response goes out only where the forgotten ones of the last second leave room for it. -/
def roomForResponse (before : ResponseRun) (due : DueResponse) : Prop :=
  before.limiter.admits due = true →
    (recent txResponseWindowNs due.now (before.forgotten due)).length +
      (before.limiter.pruned due).length < txResponseMaxPerPeer

instance (before : ResponseRun) (due : DueResponse) : Decidable (before.roomForResponse due) :=
  inferInstanceAs (Decidable (_ → _))

structure Orderly (run : ResponseRun) : Prop where
  ordered : ∀ peer, (run.timesOf peer).Pairwise (· ≤ ·)
  past : ∀ peer, ∀ time ∈ run.timesOf peer, time ≤ run.clock
  windows : ∀ peer, (run.limiter.timestamps.get? peer).getD [] <:+ run.timesOf peer

section Steps

variable {before next : ResponseRun} {due : DueResponse}

theorem timesOf_handed (handed : next.handed = before.handed ++ [(due.arbitrationId, due.now)])
    (peer : Nat) :
    next.timesOf peer =
      if due.arbitrationId = peer then before.timesOf peer ++ [due.now] else before.timesOf peer := by
  unfold timesOf
  rw [handed, List.filter_append, List.map_append]
  split
  · rename_i same
    rw [List.filter_cons, if_pos (decide_eq_true same)]
    rfl
  · rename_i other
    rw [List.filter_cons, if_neg (fun same => other (of_decide_eq_true same))]
    exact List.append_nil _

theorem pruned_suffix (orderly : before.Orderly) :
    before.limiter.pruned due <:+ before.timesOf due.arbitrationId :=
  (List.dropWhile_suffix _).trans (orderly.windows due.arbitrationId)

theorem pruned_recent (orderly : before.Orderly) (later : before.clock ≤ due.now) :
    ∀ time ∈ before.limiter.pruned due, due.now < time + txResponseWindowNs := by
  have window := orderly.windows due.arbitrationId
  refine dropWhile_recent ((orderly.ordered due.arbitrationId).sublist window.sublist) ?_
  intro time member
  exact Nat.le_trans (orderly.past _ time (window.subset member)) later

theorem get?_roomFor (limiter : ResponseLimiter) (peer other : Nat) :
    ((limiter.roomFor peer).get? other).getD [] = (limiter.timestamps.get? other).getD [] ∨
      ((limiter.roomFor peer).get? other).getD [] = [] := by
  unfold ResponseLimiter.roomFor
  split
  · exact Or.inl rfl
  · unfold ResponseLimiter.makeRoom
    split
    · split
      · rename_i oldest _
        by_cases evicted : other = oldest.1
        · rw [evicted, Dict.get?_erase_self]
          exact Or.inr rfl
        · rw [Dict.get?_erase_ne _ evicted]
          exact Or.inl rfl
      · exact Or.inl rfl
    · exact Or.inl rfl

theorem Orderly.step (orderly : before.Orderly) (stepped : before.step due = some next) :
    next.Orderly := by
  unfold ResponseRun.step at stepped
  split at stepped
  · cases stepped
  · rename_i order
    have later := Nat.le_of_not_lt order
    have built := Option.some.inj stepped
    have suffix := @pruned_suffix before due orderly
    have earlier (peer time : Nat) (member : time ∈ before.timesOf peer) : time ≤ due.now :=
      Nat.le_trans (orderly.past peer time member) later
    have others (peer : Nat) (other : peer ≠ due.arbitrationId) (window : List Nat) :
        (((before.limiter.roomFor due.arbitrationId).set due.arbitrationId window).get? peer).getD
          [] <:+ before.timesOf peer := by
      rw [Dict.get?_set_ne _ other]
      rcases get?_roomFor before.limiter due.arbitrationId peer with kept | lost
      · rw [kept]
        exact orderly.windows peer
      · rw [lost]
        exact List.nil_suffix
    cases admitted : before.limiter.admits due with
    | true =>
        rw [admitted, if_pos rfl] at built
        have times := @timesOf_handed before next due (by rw [← built])
        have table : next.limiter.timestamps =
            (before.limiter.roomFor due.arbitrationId).set due.arbitrationId
              (before.limiter.pruned due ++ [due.now]) := by
          rw [← built]
          unfold ResponseLimiter.dispatch
          rw [admitted]
          rfl
        have clock : next.clock = due.now := by rw [← built]
        constructor
        case ordered =>
          intro peer
          rw [times peer]
          split
          · refine List.pairwise_append.mpr
              ⟨orderly.ordered peer, List.pairwise_singleton _ _, ?_⟩
            intro time member last same
            rw [List.mem_singleton.mp same]
            exact earlier peer time member
          · exact orderly.ordered peer
        case past =>
          intro peer time member
          rw [times peer] at member
          rw [clock]
          split at member
          · rcases List.mem_append.mp member with old | new
            · exact earlier peer time old
            · exact Nat.le_of_eq (List.mem_singleton.mp new)
          · exact earlier peer time member
        case windows =>
          intro peer
          rw [times peer, table]
          split
          · rename_i same
            rw [← same, Dict.get?_set_self]
            exact List.suffix_append_self_iff.mpr suffix
          · rename_i other
            exact others peer (fun same => other same.symm) _
    | false =>
        rw [admitted, if_neg Bool.false_ne_true] at built
        have times (peer : Nat) : next.timesOf peer = before.timesOf peer := by
          rw [← built]
          rfl
        have table : next.limiter.timestamps =
            (before.limiter.roomFor due.arbitrationId).set due.arbitrationId
              (before.limiter.pruned due) := by
          rw [← built]
          unfold ResponseLimiter.dispatch
          rw [admitted]
          rfl
        have clock : next.clock = due.now := by rw [← built]
        constructor
        case ordered =>
          intro peer
          rw [times peer]
          exact orderly.ordered peer
        case past =>
          intro peer time member
          rw [times peer] at member
          rw [clock]
          exact earlier peer time member
        case windows =>
          intro peer
          rw [times peer, table]
          by_cases same : peer = due.arbitrationId
          · rw [same, Dict.get?_set_self]
            exact suffix
          · exact others peer same _

def Limited (run : ResponseRun) : Prop :=
  ∀ peer, Bounded txResponseWindowNs txResponseMaxPerPeer (run.timesOf peer)

theorem step_limited_iff (orderly : before.Orderly) (limited : before.Limited)
    (stepped : before.step due = some next) : next.Limited ↔ before.roomForResponse due := by
  unfold ResponseRun.step at stepped
  split at stepped
  · cases stepped
  · rename_i order
    have later := Nat.le_of_not_lt order
    have built := Option.some.inj stepped
    unfold roomForResponse
    cases admitted : before.limiter.admits due with
    | true =>
        rw [admitted, if_pos rfl] at built
        have times := @timesOf_handed before next due (by rw [← built])
        have suffix := @pruned_suffix before due orderly
        have past (time : Nat) (member : time ∈ before.timesOf due.arbitrationId) :
            time ≤ due.now := Nat.le_trans (orderly.past _ time member) later
        have fresh : ∀ time ∈ (before.timesOf due.arbitrationId).drop
            ((before.timesOf due.arbitrationId).length - (before.limiter.pruned due).length),
            due.now < time + txResponseWindowNs := by
          rw [← List.suffix_iff_eq_drop.mp suffix]
          exact pruned_recent orderly later
        have here := bounded_append_iff past (show 0 < txResponseWindowNs by decide)
          (limited due.arbitrationId)
        rw [recent_length_split fresh suffix.length_le] at here
        constructor
        · intro after _
          have own := after due.arbitrationId
          rw [times, if_pos rfl] at own
          exact here.mp own
        · intro room peer
          rw [times]
          split
          · rename_i same
            rw [← same]
            exact here.mpr (room rfl)
          · exact limited peer
    | false =>
        rw [admitted, if_neg Bool.false_ne_true] at built
        refine iff_of_true ?_ nofun
        rw [← built]
        exact limited

theorem handed_front {frames : List DueResponse} {last : ResponseRun}
    (ran : run step before frames = some last) : before.handed <+: last.handed := by
  refine @run_invariant _ _ _ (fun state : ResponseRun => before.handed <+: state.handed) ?_ _ _ _
    (List.prefix_refl before.handed) ran
  intro state due next start stepped
  unfold ResponseRun.step at stepped
  split at stepped
  · cases stepped
  · rw [← Option.some.inj stepped]
    dsimp only
    split
    · exact start.trans (List.prefix_append ..)
    · exact start

end Steps

theorem fresh_orderly : Orderly {} where
  ordered := fun _ => List.Pairwise.nil
  past := fun _ _ absent => absurd absent List.not_mem_nil
  windows := fun _ => List.nil_suffix

end ResponseRun

def burst : List DueResponse := List.replicate 60 ⟨0x100, 0⟩ ++ [⟨0x100, 1000000000⟩]

def crowded (others : Nat) : ResponseRun where
  limiter := { timestamps := (0x100, List.replicate 50 0) ::
    (List.range' 0x200 others).map (fun other => (other, [1])) }
  clock := min others 1
  handed := List.replicate 50 (0x100, 0) ++ (List.range' 0x200 others).map (fun other => (other, 1))

theorem crowded_absent {others peer : Nat} (later : 0x200 + others ≤ peer) :
    (crowded others).limiter.timestamps.get? peer = none := by
  refine Dict.get?_eq_none_iff.mpr ?_
  intro present
  obtain ⟨entry, member, same⟩ := List.mem_map.mp present
  rcases List.mem_cons.mp member with first | rest
  · rw [first] at same
    change 0x100 = peer at same
    omega
  · obtain ⟨other, inRange, built⟩ := List.mem_map.mp rest
    rw [← built] at same
    have bounds := List.mem_range'_1.mp inRange
    change other = peer at same
    omega

theorem step_of_absent {before : ResponseRun} {due : DueResponse}
    (absent : before.limiter.timestamps.get? due.arbitrationId = none)
    (later : before.clock ≤ due.now) :
    before.step due = some {
      limiter := { before.limiter with
        timestamps := (ResponseLimiter.makeRoom before.limiter.timestamps).set due.arbitrationId
          [due.now] }
      clock := due.now
      handed := before.handed ++ [(due.arbitrationId, due.now)] } := by
  have pruned : before.limiter.pruned due = [] := by
    unfold ResponseLimiter.pruned
    rw [absent]
    rfl
  have admitted : before.limiter.admits due = true := by
    unfold ResponseLimiter.admits
    rw [pruned]
    rfl
  have roomy : before.limiter.roomFor due.arbitrationId =
      ResponseLimiter.makeRoom before.limiter.timestamps := by
    unfold ResponseLimiter.roomFor Dict.contains
    rw [absent]
    rfl
  unfold ResponseRun.step
  rw [if_neg (Nat.not_lt.mpr later), admitted, if_pos rfl]
  unfold ResponseLimiter.dispatch
  dsimp only
  rw [admitted, if_pos rfl, roomy, pruned]
  rfl

theorem crowded_length (others : Nat) :
    (crowded others).limiter.timestamps.length = others + 1 := by
  change ((0x100, List.replicate 50 0) :: List.map _ _).length = others + 1
  rw [List.length_cons, List.length_map, List.length_range']

theorem crowded_step {others : Nat} (room : others < 255) :
    (crowded others).step ⟨0x200 + others, 1⟩ = some (crowded (others + 1)) := by
  have absent := crowded_absent (Nat.le_refl (0x200 + others))
  have roomy : ResponseLimiter.makeRoom (crowded others).limiter.timestamps =
      (crowded others).limiter.timestamps := by
    unfold ResponseLimiter.makeRoom
    rw [crowded_length, if_neg]
    change ¬ others + 1 ≥ 256
    omega
  rw [step_of_absent absent (Nat.min_le_right others 1), roomy,
    Dict.set_of_absent _ (Dict.get?_eq_none_iff.mp absent)]
  unfold crowded
  rw [List.range'_1_concat, List.map_append, List.map_append]
  dsimp only
  rw [show min (others + 1) 1 = 1 by omega, List.append_assoc]
  rfl

theorem crowded_run (others : Nat) (room : others ≤ 255) :
    run ResponseRun.step (crowded 0) ((List.range' 0x200 others).map (fun other => ⟨other, 1⟩)) =
      some (crowded others) := by
  induction others with
  | zero => rfl
  | succ others ih =>
      rw [List.range'_1_concat, List.map_append, run_append_of_run _ (ih (by omega))]
      exact (run_cons_of_step [] (crowded_step (by omega))).trans rfl

def churn : List DueResponse :=
  List.replicate 50 ⟨0x100, 0⟩ ++ ((List.range' 0x200 255).map (fun other => ⟨other, 1⟩) ++
    [⟨0x300, 1⟩, ⟨0x100, 2⟩])

theorem crowded_oldest : List.argmin (fun entry => ResponseLimiter.lastActivity entry.2)
    (crowded 255).limiter.timestamps = some (0x100, List.replicate 50 0) := by
  change List.argmin (fun entry : Nat × List Nat => ResponseLimiter.lastActivity entry.2)
    ((0x100, List.replicate 50 0) ::
      (List.range' 0x200 255).map (fun other => (other, [1]))) = _
  rw [List.argmin_cons]
  cases selected : List.argmin (fun entry : Nat × List Nat =>
      ResponseLimiter.lastActivity entry.2)
      ((List.range' 0x200 255).map (fun other => (other, [1]))) with
  | none => rfl
  | some newest =>
      obtain ⟨other, -, built⟩ := List.mem_map.mp (List.argmin_mem selected)
      rw [← built]
      refine if_neg ?_
      change ¬ ResponseLimiter.lastActivity [1] <
        ResponseLimiter.lastActivity (List.replicate 50 0)
      decide

/-- The table after the last of the others. -/
def forgetful : ResponseRun where
  limiter := { timestamps := ((crowded 255).limiter.timestamps.erase 0x100).set 0x300 [1] }
  clock := 1
  handed := (crowded 255).handed ++ [(0x300, 1)]

theorem forgetful_absent : forgetful.limiter.timestamps.get? 0x100 = none := by
  change (((crowded 255).limiter.timestamps.erase 0x100).set 0x300 [1]).get? 0x100 = none
  rw [Dict.get?_set_ne _ (by decide)]
  exact Dict.get?_erase_self ..

theorem forgetful_step : (crowded 255).step ⟨0x300, 1⟩ = some forgetful := by
  have evicts : ResponseLimiter.makeRoom (crowded 255).limiter.timestamps =
      (crowded 255).limiter.timestamps.erase 0x100 := by
    unfold ResponseLimiter.makeRoom
    rw [crowded_length, if_pos (by decide), crowded_oldest]
  rw [step_of_absent (crowded_absent (show 0x200 + 255 ≤ 0x300 by decide)) (by decide), evicts]
  rfl

end Ucanlab.Engine
