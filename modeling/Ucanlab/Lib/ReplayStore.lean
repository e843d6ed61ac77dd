import Mathlib.Data.List.Nodup

/-!
A bounded table of spent keys in insertion order. Recording a key first drops
the expired entries at the front and then, above the capacity, the oldest ones.
-/

universe u

structure ReplayStore (Key : Type u) where
  entries : List (Key × Nat)
  unique : (entries.map Prod.fst).Nodup

namespace ReplayStore

variable {Key : Type u}

def empty : ReplayStore Key where
  entries := []
  unique := List.nodup_nil

def keys (store : ReplayStore Key) : List Key := store.entries.map Prod.fst

instance : Membership Key (ReplayStore Key) where
  mem store key := key ∈ store.keys

theorem mem_iff (store : ReplayStore Key) (key : Key) : key ∈ store ↔ key ∈ store.keys := Iff.rfl

theorem ext_entries {left right : ReplayStore Key} (same : left.entries = right.entries) :
    left = right := by
  cases left
  cases right
  cases same
  rfl

/-- The entries a prune at `now` drops: those at the front that have expired. -/
def pruned (store : ReplayStore Key) (now : Nat) : List (Key × Nat) :=
  store.entries.takeWhile (fun entry => decide (entry.2 ≤ now))

def prune (store : ReplayStore Key) (now : Nat) : ReplayStore Key where
  entries := store.entries.dropWhile (fun entry => decide (entry.2 ≤ now))
  unique := store.unique.sublist ((List.dropWhile_sublist _).map _)

theorem pruned_append_prune (store : ReplayStore Key) (now : Nat) :
    store.pruned now ++ (store.prune now).entries = store.entries :=
  List.takeWhile_append_dropWhile

variable [DecidableEq Key]

instance (key : Key) (store : ReplayStore Key) : Decidable (key ∈ store) :=
  inferInstanceAs (Decidable (key ∈ store.keys))

def insertEntries (entries : List (Key × Nat)) (key : Key) (expiry : Nat) : List (Key × Nat) :=
  if key ∈ entries.map Prod.fst then
    entries.map (fun entry => if entry.1 = key then (key, expiry) else entry)
  else entries ++ [(key, expiry)]

theorem insertEntries_keys (entries : List (Key × Nat)) (key : Key) (expiry : Nat) :
    (insertEntries entries key expiry).map Prod.fst =
      if key ∈ entries.map Prod.fst then entries.map Prod.fst
      else entries.map Prod.fst ++ [key] := by
  unfold insertEntries
  split
  · rw [List.map_map]
    apply List.map_congr_left
    intro entry _
    by_cases same : entry.1 = key
    · simp only [Function.comp_apply, same, if_true]
    · simp only [Function.comp_apply, same, if_false]
  · rw [List.map_append, List.map_singleton]

def insert (store : ReplayStore Key) (key : Key) (expiry : Nat) : ReplayStore Key where
  entries := insertEntries store.entries key expiry
  unique := by
    rw [insertEntries_keys]
    split
    · exact store.unique
    · rename_i absent
      exact store.unique.append (List.nodup_singleton key)
        (List.disjoint_singleton.mpr absent)

/-- Oldest first, until at most `capacity` entries are left. -/
def trim (store : ReplayStore Key) (capacity : Nat) : ReplayStore Key where
  entries := store.entries.drop (store.entries.length - capacity)
  unique := store.unique.sublist ((List.drop_sublist _ _).map _)

def record (store : ReplayStore Key) (capacity : Nat) (key : Key) (expiry now : Nat) :
    ReplayStore Key :=
  ((store.prune now).insert key expiry).trim capacity

def erase (store : ReplayStore Key) (key : Key) : ReplayStore Key where
  entries := store.entries.filter (fun entry => decide (entry.1 ≠ key))
  unique := store.unique.sublist (List.filter_sublist.map _)

theorem mem_erase (store : ReplayStore Key) (key other : Key) :
    other ∈ store.erase key ↔ other ∈ store ∧ other ≠ key := by
  simp only [mem_iff, keys, erase, List.mem_map, List.mem_filter, decide_eq_true_eq]
  constructor
  · rintro ⟨entry, ⟨member, different⟩, rfl⟩
    exact ⟨⟨entry, member, rfl⟩, different⟩
  · rintro ⟨⟨entry, member, rfl⟩, different⟩
    exact ⟨entry, ⟨member, different⟩, rfl⟩

theorem mem_entries_of_mem_erase {store : ReplayStore Key} {key : Key} {entry : Key × Nat}
    (member : entry ∈ (store.erase key).entries) : entry ∈ store.entries :=
  (List.mem_filter.mp member).1

/-- A recording that needs no eviction: no expired entry but those strictly
before `now` is dropped, and there is room for one more. -/
structure Roomy (store : ReplayStore Key) (capacity now : Nat) : Prop where
  strictlyExpired : ∀ entry ∈ store.pruned now, entry.2 < now
  room : (store.prune now).entries.length < capacity

theorem mem_insertEntries {entries : List (Key × Nat)} {key : Key} {expiry : Nat}
    {entry : Key × Nat} (member : entry ∈ insertEntries entries key expiry) :
    entry ∈ entries ∨ entry = (key, expiry) := by
  unfold insertEntries at member
  split at member
  · obtain ⟨old, oldMember, replaced⟩ := List.mem_map.mp member
    by_cases same : old.1 = key
    · rw [if_pos same] at replaced
      exact Or.inr replaced.symm
    · rw [if_neg same] at replaced
      exact Or.inl (replaced ▸ oldMember)
  · rcases List.mem_append.mp member with old | new
    · exact Or.inl old
    · exact Or.inr (List.mem_singleton.mp new)

theorem mem_entries_of_mem_record {store : ReplayStore Key} {capacity now expiry : Nat}
    {key : Key} {entry : Key × Nat}
    (member : entry ∈ (store.record capacity key expiry now).entries) :
    entry ∈ store.entries ∨ entry = (key, expiry) := by
  have inserted := (List.drop_sublist _ _).subset member
  rcases mem_insertEntries inserted with old | new
  · exact Or.inl ((List.dropWhile_sublist _).subset old)
  · exact Or.inr new

theorem length_insertEntries_le (entries : List (Key × Nat)) (key : Key) (expiry : Nat) :
    (insertEntries entries key expiry).length ≤ entries.length + 1 := by
  unfold insertEntries
  split
  · rw [List.length_map]
    exact Nat.le_succ _
  · have exactly : (entries ++ [(key, expiry)]).length = entries.length + 1 := by
      rw [List.length_append, List.length_singleton]
    omega

theorem mem_insert (store : ReplayStore Key) (key other : Key) (expiry : Nat) :
    other ∈ store.insert key expiry ↔ other ∈ store ∨ other = key := by
  simp only [mem_iff, keys, insert, insertEntries_keys]
  split
  · rename_i present
    constructor
    · exact Or.inl
    · rintro (old | rfl)
      · exact old
      · exact present
  · rw [List.mem_append, List.mem_singleton]

theorem record_of_roomy {store : ReplayStore Key} {capacity now : Nat}
    (roomy : store.Roomy capacity now) (key : Key) (expiry : Nat) :
    store.record capacity key expiry now = (store.prune now).insert key expiry := by
  apply ext_entries
  have bound := length_insertEntries_le (store.prune now).entries key expiry
  have excess : ((store.prune now).insert key expiry).entries.length - capacity = 0 := by
    have room := roomy.room
    simp only [insert]
    omega
  simp only [record, trim, excess, List.drop_zero]

theorem mem_record_self {store : ReplayStore Key} {capacity now : Nat}
    (roomy : store.Roomy capacity now) (key : Key) (expiry : Nat) :
    key ∈ store.record capacity key expiry now := by
  rw [record_of_roomy roomy, mem_insert]
  exact Or.inr rfl

/-- An entry that has not expired strictly before `now` is kept. -/
theorem mem_record_of_live {store : ReplayStore Key} {capacity now : Nat}
    (roomy : store.Roomy capacity now) (key : Key) (expiry : Nat) {entry : Key × Nat}
    (member : entry ∈ store.entries) (live : now ≤ entry.2) :
    entry.1 ∈ store.record capacity key expiry now := by
  rw [record_of_roomy roomy, mem_insert]
  left
  rw [← store.pruned_append_prune now] at member
  rcases List.mem_append.mp member with dropped | kept
  · have strict := roomy.strictlyExpired entry dropped
    omega
  · exact List.mem_map.mpr ⟨entry, kept, rfl⟩

theorem erase_record_entries {store : ReplayStore Key} {capacity now : Nat} {key : Key}
    (positive : 0 < capacity) (absent : key ∉ store) (expiry : Nat) :
    ((store.record capacity key expiry now).erase key).entries =
      (store.prune now).entries.drop ((store.prune now).entries.length + 1 - capacity) := by
  have missing : key ∉ (store.prune now).entries.map Prod.fst := by
    intro member
    exact absent (((List.dropWhile_sublist _).map Prod.fst).subset member)
  have inserted : ((store.prune now).insert key expiry).entries =
      (store.prune now).entries ++ [(key, expiry)] := if_neg missing
  simp only [record, trim, erase, inserted]
  rw [List.length_append, List.length_singleton, List.drop_append_of_le_length (by omega),
    List.filter_append]
  have kept : ∀ entry ∈ (store.prune now).entries.drop
      ((store.prune now).entries.length + 1 - capacity), decide (entry.1 ≠ key) = true := by
    intro entry member
    refine decide_eq_true (fun same => missing ?_)
    exact List.mem_map.mpr ⟨entry, (List.drop_sublist _ _).subset member, same⟩
  have dropped : [(key, expiry)].filter (fun entry => decide (entry.1 ≠ key)) = [] := by
    simp only [ne_eq, not_true_eq_false, decide_false, Bool.false_eq_true, not_false_eq_true,
      List.filter_cons_of_neg, List.filter_nil]
  rw [List.filter_eq_self.mpr kept, dropped, List.append_nil]

/-- The table is as before exactly when nothing was dropped for the new key. -/
theorem erase_record_eq_iff {store : ReplayStore Key} {capacity now : Nat} {key : Key}
    (positive : 0 < capacity) (absent : key ∉ store) (expiry : Nat) :
    (store.record capacity key expiry now).erase key = store ↔
      store.pruned now = [] ∧ store.entries.length < capacity := by
  have whole := store.pruned_append_prune now
  have left := @erase_record_entries Key _ store capacity now key positive absent expiry
  constructor
  · intro same
    rw [same] at left
    have lengths := congrArg List.length left
    have sizes := congrArg List.length whole
    rw [List.length_drop] at lengths
    rw [List.length_append] at sizes
    exact ⟨List.eq_nil_of_length_eq_zero (by omega), by omega⟩
  · rintro ⟨nothing, room⟩
    rw [nothing, List.nil_append] at whole
    apply ext_entries
    rw [left, whole, Nat.sub_eq_zero_of_le room, List.drop_zero]

end ReplayStore
