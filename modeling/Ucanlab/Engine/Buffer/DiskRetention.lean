import Mathlib.Data.Char
import Mathlib.Data.List.Lex
import Mathlib.Data.List.Sort
import Mathlib.Data.Rat.Defs
import Mathlib.Tactic.Linarith

/-!
The retention of the rolling disk buffer. Writes come one after the other; each adds to a running
counter of the bytes on disk, and a sweep deletes expired chunks and the first ones by name until
the budget holds. Writers that overlap, and `clear`, are left out.
-/

namespace Ucanlab.Engine.RollingDisk

/-- A file that `chunk_*.bin.zst` matches. -/
structure ChunkFile where
  name : List Char
  size : Nat
  modifiedSec : Rat
  deriving DecidableEq

structure RetentionBounds where
  maxRetentionSec : Int := 600
  maxDiskBytes : Int := 100 * 1024 * 1024

def retentionWriteInterval : Nat := 64

def retentionIntervalSec : Rat := 5

/-- The calls of a sweep that raise: the first `stat` of a chunk, the deletion of an expired chunk,
and the second `stat` or the deletion of one that is given up for the budget. -/
structure SweepFaults where
  stat : List Char → Bool := fun _ => false
  unlink : List Char → Bool := fun _ => false
  evict : List Char → Bool := fun _ => false

structure ChunkWrite where
  file : ChunkFile
  monoSec : Rat
  wallSec : Rat
  faults : SweepFaults := {}

/-- The write with a sweep in which no call raises. -/
def ChunkWrite.calm (write : ChunkWrite) : ChunkWrite := { write with faults := {} }

/-- `uncounted` is no variable of the buffer: the bytes of the chunks that no sweep has counted,
those found at the start until the first sweep, and those that the last sweep failed on. -/
structure RetentionState where
  directory : List ChunkFile
  approxDiskBytes : Nat := 0
  writesSinceRetention : Nat := 0
  lastRetentionMono : Rat
  uncounted : Nat

def bytesOf (files : List ChunkFile) : Nat := (files.map ChunkFile.size).sum

def sortedByName (files : List ChunkFile) : List ChunkFile :=
  files.insertionSort (fun first second => first.name ≤ second.name)

/-- The loop over the oldest chunks, with the bytes it arrives at. -/
def evictOldest (faults : SweepFaults) (maxDiskBytes : Int) :
    Nat → List ChunkFile → List ChunkFile × Nat
  | total, [] => ([], total)
  | total, oldest :: rest =>
      if (total : Int) > maxDiskBytes then
        if faults.evict oldest.name then
          let later := evictOldest faults maxDiskBytes total rest
          (oldest :: later.1, later.2)
        else evictOldest faults maxDiskBytes (total - oldest.size) rest
      else (oldest :: rest, total)

def expired (bounds : RetentionBounds) (wallSec : Rat) (file : ChunkFile) : Bool :=
  decide (file.modifiedSec < wallSec - bounds.maxRetentionSec)

def validFiles (bounds : RetentionBounds) (wallSec : Rat) (faults : SweepFaults)
    (files : List ChunkFile) : List ChunkFile :=
  files.filter (fun file => !faults.stat file.name && !expired bounds wallSec file)

/-- The chunks a sweep fails on: they stay, and it does not count them. -/
def skippedFiles (bounds : RetentionBounds) (wallSec : Rat) (faults : SweepFaults)
    (files : List ChunkFile) : List ChunkFile :=
  files.filter (fun file =>
    faults.stat file.name || expired bounds wallSec file && faults.unlink file.name)

namespace RetentionState

def opened (found : List ChunkFile) (monoSec : Rat) : RetentionState where
  directory := found
  lastRetentionMono := monoSec
  uncounted := bytesOf found

def sweep (bounds : RetentionBounds) (write : ChunkWrite) (state : RetentionState) :
    RetentionState :=
  let files := sortedByName state.directory
  let valid := validFiles bounds write.wallSec write.faults files
  let skipped := skippedFiles bounds write.wallSec write.faults files
  let kept := evictOldest write.faults bounds.maxDiskBytes (bytesOf valid) valid
  { directory := skipped ++ kept.1
    approxDiskBytes := kept.2
    writesSinceRetention := 0
    lastRetentionMono := write.monoSec
    uncounted := bytesOf skipped }

def due (bounds : RetentionBounds) (monoSec : Rat) (state : RetentionState) : Bool :=
  decide ((state.approxDiskBytes : Int) > bounds.maxDiskBytes) ||
    decide (state.writesSinceRetention ≥ retentionWriteInterval) ||
    decide (monoSec - state.lastRetentionMono ≥ retentionIntervalSec)

/-- The chunk takes the place of one with its name, and is counted. -/
def published (file : ChunkFile) (state : RetentionState) : RetentionState :=
  { state with
    directory := file :: state.directory.filter (fun other => decide (other.name ≠ file.name))
    approxDiskBytes := state.approxDiskBytes + file.size
    writesSinceRetention := state.writesSinceRetention + 1 }

/-- `_write_chunk` from the rename on. -/
def writeChunk (bounds : RetentionBounds) (state : RetentionState) (write : ChunkWrite) :
    RetentionState :=
  let counted := state.published write.file
  if counted.due bounds write.monoSec then counted.sweep bounds write else counted

def run (bounds : RetentionBounds) (state : RetentionState) (writes : List ChunkWrite) :
    RetentionState :=
  writes.foldl (writeChunk bounds) state

end RetentionState

section Bytes

theorem bytesOf_cons (file : ChunkFile) (files : List ChunkFile) :
    bytesOf (file :: files) = file.size + bytesOf files := by
  unfold bytesOf
  rw [List.map_cons, List.sum_cons]

theorem bytesOf_append (first second : List ChunkFile) :
    bytesOf (first ++ second) = bytesOf first + bytesOf second := by
  unfold bytesOf
  rw [List.map_append, List.sum_append]

theorem bytesOf_filter_le (keep : ChunkFile → Bool) (files : List ChunkFile) :
    bytesOf (files.filter keep) ≤ bytesOf files := by
  induction files with
  | nil => exact Nat.le_refl _
  | cons file rest ih =>
      rw [bytesOf_cons, List.filter_cons]
      split
      · rw [bytesOf_cons]
        omega
      · omega

end Bytes

section Eviction

variable {faults : SweepFaults} {maxDiskBytes : Int}

theorem evictOldest_total (extra : Nat) (files : List ChunkFile) :
    (evictOldest faults maxDiskBytes (extra + bytesOf files) files).2 =
      extra + bytesOf (evictOldest faults maxDiskBytes (extra + bytesOf files) files).1 := by
  induction files generalizing extra with
  | nil => rfl
  | cons oldest rest ih =>
      rw [bytesOf_cons]
      unfold evictOldest
      split
      · split
        · have later := ih (extra + oldest.size)
          rw [Nat.add_assoc] at later
          dsimp only
          rw [later, bytesOf_cons, Nat.add_assoc]
        · rw [show extra + (oldest.size + bytesOf rest) - oldest.size = extra + bytesOf rest by omega]
          exact ih extra
      · exact congrArg (extra + ·) (bytesOf_cons oldest rest).symm

theorem evictOldest_stuck (total : Nat) (files : List ChunkFile) :
    ((evictOldest faults maxDiskBytes total files).2 : Int) ≤ maxDiskBytes ∨
      ∀ file ∈ (evictOldest faults maxDiskBytes total files).1, faults.evict file.name = true := by
  induction files generalizing total with
  | nil => exact Or.inr (fun _ absent => absurd absent List.not_mem_nil)
  | cons oldest rest ih =>
      unfold evictOldest
      split
      · split
        · rename_i refused
          refine (ih total).imp id (fun stuck file member => ?_)
          rcases List.mem_cons.mp member with rfl | later
          · exact refused
          · exact stuck file later
        · exact ih _
      · rename_i within
        exact Or.inl (Int.not_lt.mp within)

/-- Without faults the loop keeps the longest rest of the list that the budget has room for. -/
theorem evictOldest_longest (files : List ChunkFile) :
    let kept := (evictOldest {} maxDiskBytes (bytesOf files) files).1
    kept <:+ files ∧ (bytesOf kept : Int) ≤ max 0 maxDiskBytes ∧
      ∀ other, other <:+ files → (bytesOf other : Int) ≤ maxDiskBytes → other <:+ kept := by
  induction files with
  | nil => exact ⟨List.suffix_refl [], le_max_left 0 _, fun _ rest _ => rest⟩
  | cons oldest rest ih =>
      unfold evictOldest
      split
      · rename_i above
        rw [if_neg Bool.false_ne_true, bytesOf_cons, Nat.add_sub_cancel_left]
        obtain ⟨kept, within, longest⟩ := ih
        refine ⟨kept.trans (List.suffix_cons oldest rest), within, ?_⟩
        intro other suffix fits
        rcases List.suffix_cons_iff.mp suffix with rfl | later
        · exact absurd fits (Int.not_le.mpr above)
        · exact longest other later fits
      · rename_i within
        exact ⟨List.suffix_refl _, le_max_of_le_right (Int.not_lt.mp within),
          fun _ suffix _ => suffix⟩

end Eviction

/-- One of the calls of the sweep on the chunk raises. -/
def SweepFaults.Spares (faults : SweepFaults) (name : List Char) : Prop :=
  faults.stat name = true ∨ faults.unlink name = true ∨ faults.evict name = true

theorem not_spares_calm (name : List Char) : ¬ ({} : SweepFaults).Spares name := by
  rintro (stat | unlink | evict)
  · cases stat
  · cases unlink
  · cases evict

/-- No byte of the directory is left out of the counter and of what no sweep has counted. -/
def RetentionState.Counted (state : RetentionState) : Prop :=
  bytesOf state.directory ≤ state.approxDiskBytes + state.uncounted

namespace RetentionState

variable {bounds : RetentionBounds}

section Sweeping

theorem sweep_counts (write : ChunkWrite) (state : RetentionState) :
    bytesOf (state.sweep bounds write).directory =
      (state.sweep bounds write).approxDiskBytes + (state.sweep bounds write).uncounted := by
  have counted := @evictOldest_total write.faults bounds.maxDiskBytes 0
    (validFiles bounds write.wallSec write.faults (sortedByName state.directory))
  rw [Nat.zero_add, Nat.zero_add] at counted
  unfold sweep
  dsimp only
  rw [bytesOf_append, counted, Nat.add_comm]

theorem sweep_stuck (write : ChunkWrite) (state : RetentionState) :
    ((state.sweep bounds write).approxDiskBytes : Int) ≤ bounds.maxDiskBytes ∨
      ∀ file ∈ (state.sweep bounds write).directory, write.faults.Spares file.name := by
  refine (evictOldest_stuck _ _).imp id (fun stuck file member => ?_)
  rcases List.mem_append.mp member with skipped | kept
  · have failed := (List.mem_filter.mp skipped).2
    rw [Bool.or_eq_true, Bool.and_eq_true] at failed
    exact failed.elim Or.inl (fun old => Or.inr (Or.inl old.2))
  · exact Or.inr (Or.inr (stuck file kept))

theorem sweep_skips_none (wallSec : Rat) (files : List ChunkFile) :
    skippedFiles bounds wallSec {} files = [] := by
  apply List.filter_eq_nil_iff.mpr
  intro file _ failed
  rw [Bool.or_eq_true, Bool.and_eq_true] at failed
  exact not_spares_calm file.name (failed.elim Or.inl (fun old => Or.inr (Or.inl old.2)))

theorem writeChunk_counts (write : ChunkWrite) {state : RetentionState} (counted : state.Counted) :
    (state.writeChunk bounds write).Counted := by
  unfold writeChunk Counted at *
  dsimp only
  split
  · exact Nat.le_of_eq (sweep_counts write _)
  · have others := bytesOf_filter_le (fun other => decide (other.name ≠ write.file.name))
      state.directory
    unfold published
    dsimp only
    rw [bytesOf_cons]
    omega

theorem run_counts (writes : List ChunkWrite) {state : RetentionState} (counted : state.Counted) :
    (state.run bounds writes).Counted := by
  induction writes generalizing state with
  | nil => exact counted
  | cons write rest ih => exact ih (writeChunk_counts write counted)

theorem within_of_not_due {monoSec : Rat} {state : RetentionState}
    (quiet : ¬ state.due bounds monoSec = true) :
    (state.approxDiskBytes : Int) ≤ bounds.maxDiskBytes ∧
      state.writesSinceRetention < retentionWriteInterval := by
  unfold due at quiet
  simp only [Bool.or_eq_true, decide_eq_true_eq, not_or] at quiet
  exact ⟨Int.not_lt.mp quiet.1.1, Nat.not_le.mp quiet.1.2⟩

end Sweeping

/-- Whatever the sweeps fail on, no byte on disk is left out of the counter and of what the last
sweep could not count, and the counter is above the budget only where that sweep failed on every
chunk that is left. -/
theorem budget_watched (bounds : RetentionBounds) (found : List ChunkFile) (monoSec : Rat)
    (writes : List ChunkWrite) (last : ChunkWrite) :
    let final := (opened found monoSec).run bounds (writes ++ [last])
    final.Counted ∧
      ((final.approxDiskBytes : Int) ≤ bounds.maxDiskBytes ∨
        ∀ file ∈ final.directory, last.faults.Spares file.name) := by
  refine ⟨run_counts _ (Nat.le_add_left _ _), ?_⟩
  unfold run
  rw [List.foldl_append]
  unfold List.foldl writeChunk
  dsimp only [List.foldl_nil]
  split
  · exact sweep_stuck last _
  · rename_i quiet
    exact Or.inl (within_of_not_due quiet).1

section Budget

/-- Where a run without faults stands after a number of writes. -/
structure Throttled (bounds : RetentionBounds) (found count : Nat) (state : RetentionState) :
    Prop where
  counted : state.Counted
  within : (state.approxDiskBytes : Int) ≤ max 0 bounds.maxDiskBytes
  pending : state.uncounted = 0 ∨ state.uncounted = found ∧
    state.writesSinceRetention = count ∧ count < retentionWriteInterval

theorem Throttled.writeChunk {found count : Nat} {state : RetentionState}
    (throttled : state.Throttled bounds found count) (write : ChunkWrite) :
    (state.writeChunk bounds write.calm).Throttled bounds found (count + 1) := by
  refine ⟨writeChunk_counts write.calm throttled.counted, ?_, ?_⟩
  · unfold RetentionState.writeChunk
    dsimp only
    split
    · have total := @sweep_counts bounds write.calm (state.published write.calm.file)
      rcases @sweep_stuck bounds write.calm (state.published write.calm.file) with within | spared
      · exact le_max_of_le_right within
      · rw [List.eq_nil_iff_forall_not_mem.mpr (fun file member =>
          not_spares_calm file.name (spared file member))] at total
        change 0 = _ at total
        exact le_max_of_le_left (by omega)
    · rename_i quiet
      exact le_max_of_le_right (within_of_not_due quiet).1
  · unfold RetentionState.writeChunk
    dsimp only
    split
    · refine Or.inl ?_
      unfold sweep ChunkWrite.calm
      dsimp only
      rw [sweep_skips_none]
      rfl
    · rename_i quiet
      refine throttled.pending.imp id (fun waiting => ⟨waiting.1, ?_⟩)
      have few := (within_of_not_due quiet).2
      have next : (state.published write.file).writesSinceRetention = count + 1 :=
        congrArg (· + 1) waiting.2.1
      exact ⟨next, next ▸ few⟩

theorem Throttled.run {found count : Nat} {state : RetentionState}
    (throttled : state.Throttled bounds found count) (writes : List ChunkWrite) :
    (state.run bounds (writes.map ChunkWrite.calm)).Throttled bounds found
      (count + writes.length) := by
  induction writes generalizing state count with
  | nil => exact throttled
  | cons write rest ih =>
      have later := ih (throttled.writeChunk write)
      rw [List.length_cons, Nat.add_comm rest.length, ← Nat.add_assoc]
      exact later

/-- Between any two writes of a run without faults the chunks fit the budget; until the first
sweep, which the 64th write brings at the latest, the chunks found at the start come on top. -/
theorem budget_kept (bounds : RetentionBounds) (found : List ChunkFile) (monoSec : Rat)
    (writes : List ChunkWrite) :
    (bytesOf ((opened found monoSec).run bounds (writes.map ChunkWrite.calm)).directory : Int) ≤
      max 0 bounds.maxDiskBytes +
        if writes.length < retentionWriteInterval then bytesOf found else 0 := by
  have start : (opened found monoSec).Throttled bounds (bytesOf found) 0 :=
    ⟨Nat.le_add_left _ _, le_max_left 0 _, Or.inr ⟨rfl, rfl, by decide⟩⟩
  obtain ⟨counted, within, pending⟩ := start.run writes
  unfold Counted at counted
  rw [Nat.zero_add] at pending
  split <;> omega

/-- A sweep without faults keeps, of the chunks that are not expired, the longest end in the order
of their names that the budget has room for. -/
theorem sweep_keeps_newest (bounds : RetentionBounds) (write : ChunkWrite)
    (state : RetentionState) :
    let fresh := (sortedByName state.directory).filter (!expired bounds write.wallSec ·)
    let kept := (state.sweep bounds write.calm).directory
    kept <:+ fresh ∧ kept.Pairwise (fun first second => first.name ≤ second.name) ∧
      (bytesOf kept : Int) ≤ max 0 bounds.maxDiskBytes ∧
      ∀ other, other <:+ fresh → (bytesOf other : Int) ≤ bounds.maxDiskBytes → other <:+ kept := by
  unfold sweep ChunkWrite.calm
  dsimp only
  rw [sweep_skips_none, List.nil_append]
  obtain ⟨kept, within, longest⟩ := @evictOldest_longest bounds.maxDiskBytes
    ((sortedByName state.directory).filter (!expired bounds write.wallSec ·))
  refine ⟨kept, ?_, within, longest⟩
  have sorted : (sortedByName state.directory).Pairwise (fun first second =>
      first.name ≤ second.name) := List.pairwise_insertionSort _ _
  exact (sorted.filter _).sublist kept.sublist

end Budget

end RetentionState

end Ucanlab.Engine.RollingDisk
