import Ucanlab.Safety.E2E.Agreement

/-!
The receiver's tables: how many streams and tombstones there are, the queue that
mirrors the tombstones, and what making room for a new stream leaves behind.
-/

namespace Ucanlab.Safety.E2E

open Ucanlab

namespace Validator

structure Bounded (validator : Validator) : Prop where
  distinct : validator.streams.keys.Nodup
  streams : validator.streams.length ≤ maxTrackedStreams
  queued : validator.evictedOrder.Nodup
  mirrored : validator.evictedOrder.toFinset = validator.evictedStreams
  tombstones : validator.evictedStreams.card ≤ maxTombstoneStreams

section Tombstones

variable {validator : Validator} {key : StreamKey} {order : List StreamKey}
  {tombstones : Finset StreamKey}

theorem card_of_mirrored (queued : order.Nodup) (mirrored : order.toFinset = tombstones) :
    tombstones.card = order.length := by
  rw [← mirrored]
  exact List.toFinset_card_of_nodup queued

theorem shrinkTombstones_eq (queued : order.Nodup) (mirrored : order.toFinset = tombstones) :
    (shrinkTombstones order tombstones).1 = order.drop (order.length - maxTombstoneStreams) ∧
      (shrinkTombstones order tombstones).2 =
        (order.drop (order.length - maxTombstoneStreams)).toFinset := by
  induction order generalizing tombstones with
  | nil => exact ⟨rfl, mirrored.symm⟩
  | cons oldest rest ih =>
      have size := card_of_mirrored queued mirrored
      obtain ⟨fresh, distinct⟩ := List.nodup_cons.mp queued
      rw [List.length_cons] at size
      unfold shrinkTombstones
      split
      · rename_i many
        have erased : rest.toFinset = tombstones.erase oldest := by
          rw [← mirrored, List.toFinset_cons, Finset.erase_insert]
          rwa [List.mem_toFinset]
        have shift : (oldest :: rest).length - maxTombstoneStreams =
            (rest.length - maxTombstoneStreams) + 1 := by
          rw [List.length_cons]
          omega
        rw [shift, List.drop_succ_cons]
        exact ih distinct erased
      · rename_i few
        have none' : (oldest :: rest).length - maxTombstoneStreams = 0 := by
          rw [List.length_cons]
          omega
        rw [none', List.drop_zero]
        exact ⟨rfl, mirrored.symm⟩

theorem recordTombstone_streams (validator : Validator) (key : StreamKey) :
    (validator.recordTombstone key).streams = validator.streams := by
  unfold recordTombstone
  split <;> rfl

def extendOrder (order : List StreamKey) (key : StreamKey) : List StreamKey :=
  (order ++ [key]).drop ((order ++ [key]).length - maxTombstoneStreams)

theorem recordTombstone_new (bounded : validator.Bounded) (absent : key ∉ validator.evictedStreams) :
    (validator.evictedOrder ++ [key]).Nodup ∧
      validator.recordTombstone key = { validator with
        evictedStreams := (extendOrder validator.evictedOrder key).toFinset
        evictedOrder := extendOrder validator.evictedOrder key } := by
  have notQueued : key ∉ validator.evictedOrder := by
    rw [← bounded.mirrored, List.mem_toFinset] at absent
    exact absent
  have queued : (validator.evictedOrder ++ [key]).Nodup := by
    apply List.Nodup.append bounded.queued (List.nodup_singleton key)
    exact List.disjoint_singleton.mpr notQueued
  have mirrored : (validator.evictedOrder ++ [key]).toFinset =
      insert key validator.evictedStreams := by
    rw [List.toFinset_append, bounded.mirrored]
    simp
  refine ⟨queued, ?_⟩
  obtain ⟨order, tombstones⟩ := shrinkTombstones_eq queued mirrored
  unfold recordTombstone extendOrder
  rw [if_neg absent, ← tombstones, ← order]

theorem Bounded.recordTombstone (bounded : validator.Bounded) (key : StreamKey) :
    (validator.recordTombstone key).Bounded ∧
      key ∈ (validator.recordTombstone key).evictedStreams := by
  by_cases present : key ∈ validator.evictedStreams
  · unfold Validator.recordTombstone
    rw [if_pos present]
    exact ⟨bounded, present⟩
  · obtain ⟨queued, recorded⟩ := recordTombstone_new bounded present
    have distinct : (extendOrder validator.evictedOrder key).Nodup :=
      queued.sublist (List.drop_sublist _ _)
    have room : (validator.evictedOrder ++ [key]).length - maxTombstoneStreams ≤
        validator.evictedOrder.length := by
      rw [List.length_append, List.length_singleton]
      unfold maxTombstoneStreams
      omega
    rw [recorded]
    refine ⟨⟨bounded.distinct, bounded.streams, ?_, ?_, ?_⟩, ?_⟩
    · dsimp only
      exact distinct
    · dsimp only
    · rw [List.toFinset_card_of_nodup distinct]
      unfold extendOrder
      rw [List.length_drop]
      omega
    · rw [List.mem_toFinset]
      unfold extendOrder
      rw [List.drop_append_of_le_length room]
      exact List.mem_append_right _ (List.mem_singleton.mpr rfl)

theorem Bounded.dropTombstone (bounded : validator.Bounded) (key : StreamKey) :
    (validator.dropTombstone key).Bounded := by
  refine ⟨bounded.distinct, bounded.streams, bounded.queued.erase key, ?_, ?_⟩
  · change (validator.evictedOrder.erase key).toFinset = validator.evictedStreams.erase key
    ext other
    rw [List.mem_toFinset, bounded.queued.mem_erase_iff, Finset.mem_erase, ← bounded.mirrored,
      List.mem_toFinset]
  · exact (Finset.card_erase_le).trans bounded.tombstones

theorem Bounded.of_streams (bounded : validator.Bounded) {streams : Dict StreamKey StreamRxState}
    (distinct : streams.keys.Nodup) (few : streams.length ≤ maxTrackedStreams) :
    Bounded { validator with streams := streams } :=
  ⟨distinct, few, bounded.queued, bounded.mirrored, bounded.tombstones⟩

end Tombstones

section Tracking

variable {validator : Validator} {key : StreamKey}

theorem foldl_oldest_mem (entry : StreamKey × StreamRxState)
    (rest : List (StreamKey × StreamRxState)) :
    rest.foldl (fun oldest other =>
      if other.2.lastSeenMonotonicNs < oldest.2.lastSeenMonotonicNs then other else oldest)
        entry ∈ entry :: rest := by
  induction rest generalizing entry with
  | nil => exact List.mem_singleton.mpr rfl
  | cons head tail ih =>
      rw [List.foldl_cons]
      split
      · exact List.mem_cons_of_mem entry (ih head)
      · rcases List.mem_cons.mp (ih entry) with same | later
        · rw [same]
          exact List.mem_cons_self
        · exact List.mem_cons_of_mem entry (List.mem_cons_of_mem head later)

theorem oldestKey_mem {streams : Dict StreamKey StreamRxState} (some' : streams ≠ []) :
    ∃ oldest, oldestKey streams = some oldest ∧ oldest ∈ streams.keys := by
  cases streams with
  | nil => exact absurd rfl some'
  | cons entry rest => exact ⟨_, rfl, Dict.mem_keys (foldl_oldest_mem entry rest)⟩

structure Tracks (before : Validator) (key : StreamKey) (after : Validator) : Prop where
  bounded : after.Bounded
  entry : ∃ state, after.streams.get? key = some state ∧
    (before.streams.get? key = some state ∨ state.lastCounter = none)
  others : ∀ other state, other ≠ key → after.streams.get? other = some state →
    before.streams.get? other = some state
  evicted : ∀ other, (before.streams.get? other).isSome → after.streams.get? other = none →
    other ∈ after.evictedStreams

theorem Bounded.addStream (bounded : validator.Bounded)
    (room : validator.streams.length < maxTrackedStreams)
    (absent : validator.streams.get? key = none) (state : StreamRxState) :
    Bounded { validator with streams := validator.streams.set key state } := by
  apply bounded.of_streams (Dict.nodup_keys_set bounded.distinct key state)
  rw [Dict.set_of_absent state (Dict.get?_eq_none_iff.mp absent), List.length_append,
    List.length_singleton]
  omega

theorem Bounded.track (bounded : validator.Bounded) (key : StreamKey) (now : Nat) :
    Tracks validator key (validator.track key now) := by
  unfold Validator.track
  split
  · rename_i known
    obtain ⟨state, found⟩ := Option.isSome_iff_exists.mp known
    refine ⟨bounded, ⟨state, found, Or.inl found⟩, fun _ _ _ same => same, ?_⟩
    intro other before after
    rw [after] at before
    cases before
  · rename_i unknown
    have absent : validator.streams.get? key = none := by
      rwa [Option.not_isSome_iff_eq_none] at unknown
    dsimp only
    split
    · rename_i full
      have some' : validator.streams ≠ [] := by
        intro none'
        rw [none'] at full
        exact absurd full (by decide)
      obtain ⟨oldest, least, present⟩ := oldestKey_mem some'
      rw [least]
      dsimp only
      have shorter := Dict.length_erase_lt present
      have limit := bounded.streams
      have erased : Bounded { validator with streams := validator.streams.erase oldest } :=
        bounded.of_streams (bounded.distinct.sublist (Dict.keys_erase_sublist _ _))
          (by omega)
      obtain ⟨recorded, buried⟩ := erased.recordTombstone oldest
      have streams := recordTombstone_streams
        { validator with streams := validator.streams.erase oldest } oldest
      dsimp only at streams
      have other' : key ≠ oldest := by
        intro same
        rw [Dict.get?_eq_none_iff] at absent
        exact absent (same ▸ present)
      have gone : (validator.streams.erase oldest).get? key = none := by
        rw [Dict.get?_erase_ne _ other', absent]
      refine ⟨?_, ⟨_, Dict.get?_set_self _ _ _, Or.inr rfl⟩, ?_, ?_⟩
      · apply recorded.addStream
        · rw [streams]
          omega
        · rw [streams, gone]
      · intro other state apart found
        dsimp only at found
        rw [Dict.get?_set_ne _ apart, streams] at found
        by_cases same : other = oldest
        · rw [same, Dict.get?_erase_self] at found
          cases found
        · rwa [Dict.get?_erase_ne _ same] at found
      · intro other before after
        dsimp only at after ⊢
        by_cases apart : other = key
        · rw [apart, absent] at before
          cases before
        · rw [Dict.get?_set_ne _ apart, streams] at after
          by_cases same : other = oldest
          · rw [same]
            exact buried
          · rw [Dict.get?_erase_ne _ same] at after
            rw [after] at before
            cases before
    · rename_i room
      refine ⟨bounded.addStream (Nat.lt_of_not_le room) absent _,
        ⟨_, Dict.get?_set_self _ _ _, Or.inr rfl⟩, ?_, ?_⟩
      · intro other state apart found
        rwa [Dict.get?_set_ne _ apart] at found
      · intro other before after
        dsimp only at after
        by_cases apart : other = key
        · rw [apart, Dict.get?_set_self] at after
          cases after
        · rw [Dict.get?_set_ne _ apart] at after
          rw [after] at before
          cases before

end Tracking

end Validator

end Ucanlab.Safety.E2E
