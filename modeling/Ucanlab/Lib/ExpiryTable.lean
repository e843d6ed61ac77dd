import Mathlib.Data.List.Perm.Basic

/-!
A table of spent keys in insertion order, each with an expiry it determines,
beside a queue ordered by expiry. A prune takes expired entries off the queue
and drops each from the table, so it never looks at a live key.
-/

universe u

structure ExpiryTable (Key : Type u) (expiry : Key → Nat) where
  keys : List Key
  queue : List (Nat × Key)
  dated : ∀ entry ∈ queue, entry.1 = expiry entry.2
  sorted : queue.Pairwise (fun left right => left.1 ≤ right.1)
  mirrored : (queue.map Prod.snd).Perm keys

namespace ExpiryTable

section Queue

variable {Key : Type u} [LT Key] [DecidableLT Key]

def before (left right : Nat × Key) : Bool :=
  decide (left.1 < right.1) || (decide (left.1 = right.1) && decide (left.2 < right.2))

def enqueue (entry : Nat × Key) : List (Nat × Key) → List (Nat × Key)
  | [] => [entry]
  | head :: rest => if before entry head then entry :: head :: rest else head :: enqueue entry rest

theorem le_of_before {left right : Nat × Key} (earlier : before left right = true) :
    left.1 ≤ right.1 := by
  unfold before at earlier
  rcases Bool.or_eq_true_iff.mp earlier with less | equal
  · exact Nat.le_of_lt (of_decide_eq_true less)
  · exact Nat.le_of_eq (of_decide_eq_true (Bool.and_eq_true_iff.mp equal).1)

theorem le_of_not_before {left right : Nat × Key} (later : before left right = false) :
    right.1 ≤ left.1 := by
  unfold before at later
  exact Nat.le_of_not_lt (of_decide_eq_false (Bool.or_eq_false_iff.mp later).1)

theorem enqueue_perm (entry : Nat × Key) (queue : List (Nat × Key)) :
    (enqueue entry queue).Perm (entry :: queue) := by
  induction queue with
  | nil => exact List.Perm.refl _
  | cons head rest ih =>
      unfold enqueue
      split
      · exact List.Perm.refl _
      · exact (ih.cons head).trans (List.Perm.swap entry head rest)

theorem enqueue_sorted (entry : Nat × Key) {queue : List (Nat × Key)}
    (sorted : queue.Pairwise (fun left right => left.1 ≤ right.1)) :
    (enqueue entry queue).Pairwise (fun left right => left.1 ≤ right.1) := by
  induction queue with
  | nil => exact List.pairwise_singleton _ _
  | cons head rest ih =>
      obtain ⟨first, tail⟩ := List.pairwise_cons.mp sorted
      unfold enqueue
      split
      · rename_i earlier
        have least := le_of_before earlier
        refine List.pairwise_cons.mpr ⟨?_, sorted⟩
        intro other member
        rcases List.mem_cons.mp member with same | later
        · rw [same]
          exact least
        · exact Nat.le_trans least (first other later)
      · rename_i later
        refine List.pairwise_cons.mpr ⟨?_, ih tail⟩
        intro other member
        rcases List.mem_cons.mp ((enqueue_perm entry rest).mem_iff.mp member) with same | old
        · rw [same]
          exact le_of_not_before (Bool.eq_false_iff.mpr later)
        · exact first other old

end Queue

section Prune

variable {Key : Type u}

def hasExpired (now : Nat) (entry : Nat × Key) : Bool := decide (entry.1 < now)

theorem mem_dropWhile_iff {now : Nat} {queue : List (Nat × Key)}
    (sorted : queue.Pairwise (fun left right => left.1 ≤ right.1)) (entry : Nat × Key) :
    entry ∈ queue.dropWhile (hasExpired now) ↔
      entry ∈ queue ∧ now ≤ entry.1 := by
  induction queue with
  | nil => exact ⟨nofun, fun both => absurd both.1 List.not_mem_nil⟩
  | cons head rest ih =>
      obtain ⟨first, tail⟩ := List.pairwise_cons.mp sorted
      by_cases expired : hasExpired now head = true
      · rw [List.dropWhile_cons_of_pos expired, ih tail, List.mem_cons]
        constructor
        · exact fun both => ⟨Or.inr both.1, both.2⟩
        · rintro ⟨same | later, live⟩
          · rw [same] at live
            exact absurd (of_decide_eq_true expired) (Nat.not_lt.mpr live)
          · exact ⟨later, live⟩
      · rw [List.dropWhile_cons_of_neg expired]
        refine ⟨fun member => ⟨member, ?_⟩, And.left⟩
        have least := Nat.le_of_not_lt (of_decide_eq_false (Bool.eq_false_iff.mpr expired))
        rcases List.mem_cons.mp member with same | later
        · rw [same]
          exact least
        · exact Nat.le_trans least (first entry later)

variable [DecidableEq Key]

/-- Pops the queue while its head expired before `now`; each popped key leaves
the table at its first occurrence. -/
def pruneLoop (now : Nat) : List (Nat × Key) → List Key → List (Nat × Key) × List Key
  | [], keys => ([], keys)
  | head :: rest, keys =>
      if hasExpired now head then pruneLoop now rest (keys.erase head.2) else (head :: rest, keys)

theorem pruneLoop_perm (now : Nat) {queue : List (Nat × Key)} {keys : List Key}
    (mirrored : (queue.map Prod.snd).Perm keys) :
    ((pruneLoop now queue keys).1.map Prod.snd).Perm (pruneLoop now queue keys).2 := by
  induction queue generalizing keys with
  | nil => exact mirrored
  | cons head rest ih =>
      unfold pruneLoop
      split
      · have dropped := mirrored.erase head.2
        rw [List.map_cons, List.erase_cons_head] at dropped
        exact ih dropped
      · exact mirrored

theorem pruneLoop_queue (now : Nat) (queue : List (Nat × Key)) (keys : List Key) :
    (pruneLoop now queue keys).1 = queue.dropWhile (hasExpired now) := by
  induction queue generalizing keys with
  | nil => rfl
  | cons head rest ih =>
      unfold pruneLoop
      split
      · rename_i expired
        rw [List.dropWhile_cons_of_pos expired]
        exact ih _
      · rename_i live
        rw [List.dropWhile_cons_of_neg live]

end Prune

variable {Key : Type u} {expiry : Key → Nat}

def empty : ExpiryTable Key expiry where
  keys := []
  queue := []
  dated := fun _ member => absurd member List.not_mem_nil
  sorted := List.Pairwise.nil
  mirrored := List.Perm.refl []

instance : Membership Key (ExpiryTable Key expiry) where
  mem table key := key ∈ table.keys

theorem mem_iff (table : ExpiryTable Key expiry) (key : Key) : key ∈ table ↔ key ∈ table.keys :=
  Iff.rfl

theorem mem_iff_queue (table : ExpiryTable Key expiry) (key : Key) :
    key ∈ table ↔ (expiry key, key) ∈ table.queue := by
  rw [mem_iff, ← table.mirrored.mem_iff, List.mem_map]
  constructor
  · rintro ⟨entry, member, rfl⟩
    rw [← table.dated entry member]
    exact member
  · exact fun member => ⟨_, member, rfl⟩

def record [LT Key] [DecidableLT Key] (table : ExpiryTable Key expiry) (key : Key) :
    ExpiryTable Key expiry where
  keys := table.keys ++ [key]
  queue := enqueue (expiry key, key) table.queue
  dated := by
    intro entry member
    rcases List.mem_cons.mp ((enqueue_perm _ _).mem_iff.mp member) with same | old
    · rw [same]
    · exact table.dated entry old
  sorted := enqueue_sorted _ table.sorted
  mirrored := by
    have queued := (enqueue_perm (expiry key, key) table.queue).map Prod.snd
    rw [List.map_cons] at queued
    exact queued.trans ((table.mirrored.cons key).trans (List.perm_append_singleton key _).symm)

theorem mem_record [LT Key] [DecidableLT Key] (table : ExpiryTable Key expiry) (key other : Key) :
    other ∈ table.record key ↔ other ∈ table ∨ other = key := by
  rw [mem_iff, mem_iff]
  change other ∈ table.keys ++ [key] ↔ _
  rw [List.mem_append, List.mem_singleton]

variable [DecidableEq Key]

instance (key : Key) (table : ExpiryTable Key expiry) : Decidable (key ∈ table) :=
  inferInstanceAs (Decidable (key ∈ table.keys))

def prune (table : ExpiryTable Key expiry) (now : Nat) : ExpiryTable Key expiry where
  keys := (pruneLoop now table.queue table.keys).2
  queue := (pruneLoop now table.queue table.keys).1
  dated := by
    intro entry member
    rw [pruneLoop_queue] at member
    exact table.dated entry ((List.dropWhile_sublist _).subset member)
  sorted := by
    rw [pruneLoop_queue]
    exact table.sorted.sublist (List.dropWhile_sublist _)
  mirrored := pruneLoop_perm now table.mirrored

theorem mem_prune (table : ExpiryTable Key expiry) (now : Nat) (key : Key) :
    key ∈ table.prune now ↔ key ∈ table ∧ now ≤ expiry key := by
  rw [mem_iff_queue, mem_iff_queue]
  change _ ∈ (pruneLoop now table.queue table.keys).1 ↔ _
  rw [pruneLoop_queue]
  exact mem_dropWhile_iff table.sorted _

end ExpiryTable
