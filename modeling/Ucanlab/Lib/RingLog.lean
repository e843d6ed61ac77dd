import Mathlib.Data.List.Basic

/-!
A ring of slots as the bounded tail of a log: every entry is written at the head, which
wraps around, and the latest entries are read as one or two runs of slots.
-/

universe u

structure RingLog (Entry : Type u) where
  slots : List Entry
  head : Nat
  written : Nat

namespace RingLog

variable {Entry : Type u}

def capacity (ring : RingLog Entry) : Nat := ring.slots.length

def push (ring : RingLog Entry) (entry : Entry) : RingLog Entry where
  slots := ring.slots.set ring.head entry
  head := (ring.head + 1) % ring.capacity
  written := ring.written + 1

/-- The slots from the first index up to the last one, which is left out, in two runs
where they wrap around. -/
def span (ring : RingLog Entry) (first last : Nat) : List Entry × List Entry :=
  if first < last ∨ last = 0 then
    ((ring.slots.drop first).take ((if last = 0 then ring.capacity else last) - first), [])
  else (ring.slots.drop first, ring.slots.take last)

/-- The older and the newer run of slots with the latest entries. -/
def view (ring : RingLog Entry) (count : Nat) : List Entry × List Entry :=
  let n := min count (min ring.written ring.capacity)
  if n = 0 then ([], [])
  else ring.span ((ring.written - n) % ring.capacity) (ring.written % ring.capacity)

structure Holds (ring : RingLog Entry) (log : List Entry) : Prop where
  room : 0 < ring.capacity
  counted : ring.written = log.length
  head : ring.head = ring.written % ring.capacity
  slot : ∀ index, index < log.length → log.length ≤ index + ring.capacity →
    ring.slots[index % ring.capacity]? = log[index]?

theorem mod_ne_of_lt {index later capacity : Nat} (before : index < later)
    (close : later < index + capacity) : index % capacity ≠ later % capacity := by
  intro same
  have divides : capacity ∣ later - index :=
    Nat.dvd_of_mod_eq_zero (Nat.sub_mod_eq_zero_of_mod_eq same.symm)
  have large := Nat.le_of_dvd (by omega) divides
  omega

theorem push_capacity (ring : RingLog Entry) (entry : Entry) :
    (ring.push entry).capacity = ring.capacity := List.length_set

/-- The index of the log moves round the slots. -/
theorem mod_add_cases {first n capacity : Nat} (inside : first < capacity) (fits : n ≤ capacity) :
    (first + n) % capacity = if first + n < capacity then first + n else first + n - capacity := by
  split
  · rename_i straight
    exact Nat.mod_eq_of_lt straight
  · rename_i wrapped
    rw [Nat.mod_eq_sub_mod (Nat.le_of_not_lt wrapped)]
    exact Nat.mod_eq_of_lt (by omega)

section Log

variable {ring : RingLog Entry} {log : List Entry}

theorem holds_nil {slots : List Entry} (room : 0 < slots.length) :
    RingLog.Holds { slots := slots, head := 0, written := 0 } [] := by
  constructor
  case room => exact room
  case counted => rfl
  case head => exact (Nat.zero_mod _).symm
  case slot =>
    intro index below
    cases below

theorem Holds.push (holds : ring.Holds log) (entry : Entry) :
    (ring.push entry).Holds (log ++ [entry]) := by
  have inside : ring.head < ring.slots.length := by
    rw [holds.head]
    exact Nat.mod_lt _ holds.room
  constructor
  case room =>
    rw [push_capacity]
    exact holds.room
  case counted =>
    rw [List.length_append, List.length_singleton, ← holds.counted]
    rfl
  case head =>
    rw [push_capacity]
    change (ring.head + 1) % ring.capacity = (ring.written + 1) % ring.capacity
    rw [holds.head, Nat.mod_add_mod]
  case slot =>
    intro index below reach
    rw [push_capacity] at reach ⊢
    rw [List.length_append, List.length_singleton] at below reach
    change (ring.slots.set ring.head entry)[index % ring.capacity]? = _
    by_cases newest : index = log.length
    · rw [newest, ← holds.counted, ← holds.head, List.getElem?_set_self inside, holds.counted,
        List.getElem?_concat_length]
    · have older : index < log.length := by omega
      have apart : ring.head ≠ index % ring.capacity := by
        rw [holds.head, holds.counted]
        exact (mod_ne_of_lt older (by omega)).symm
      rw [List.getElem?_set_ne apart, List.getElem?_append_left older]
      exact holds.slot index older (by omega)

section Span

variable {n first : Nat} (inside : first < ring.capacity) (positive : 0 < n)
  (fits : n ≤ ring.capacity)

include inside positive fits

theorem span_length :
    ((ring.span first ((first + n) % ring.capacity)).1 ++
      (ring.span first ((first + n) % ring.capacity)).2).length = n := by
  have slots : ring.slots.length = ring.capacity := rfl
  have wraps := mod_add_cases inside fits
  unfold span
  rw [wraps]
  split
  · rename_i straight
    rw [if_pos (Or.inl (by omega)), if_neg (by omega), List.append_nil, List.length_take,
      List.length_drop]
    omega
  · by_cases full : first + n - ring.capacity = 0
    · rw [if_pos (Or.inr full), if_pos full, List.append_nil, List.length_take, List.length_drop]
      omega
    · rw [if_neg (by omega), List.length_append, List.length_drop, List.length_take]
      omega

theorem span_getElem? {index : Nat} (below : index < n) :
    ((ring.span first ((first + n) % ring.capacity)).1 ++
      (ring.span first ((first + n) % ring.capacity)).2)[index]? =
        ring.slots[(first + index) % ring.capacity]? := by
  have wraps := mod_add_cases inside fits
  have slot := mod_add_cases inside (Nat.le_of_lt (Nat.lt_of_lt_of_le below fits))
  unfold span
  rw [wraps, slot]
  by_cases straight : first + n < ring.capacity
  · rw [if_pos straight, if_pos (Or.inl (by omega)), if_neg (by omega), if_pos (by omega),
      List.append_nil, List.getElem?_take, if_pos (by omega), List.getElem?_drop]
  · rw [if_neg straight]
    by_cases full : first + n - ring.capacity = 0
    · rw [if_pos (Or.inr full), if_pos full, List.append_nil, List.getElem?_take,
        if_pos (by omega), List.getElem?_drop, if_pos (by omega)]
    · have length : (ring.slots.drop first).length = ring.capacity - first := List.length_drop
      rw [if_neg (by omega)]
      dsimp only
      by_cases older : first + index < ring.capacity
      · rw [List.getElem?_append_left (by omega), List.getElem?_drop, if_pos older]
      · rw [List.getElem?_append_right (by omega), length, List.getElem?_take, if_pos (by omega),
          if_neg older]
        congr 1
        omega

end Span

theorem Holds.view_eq (holds : ring.Holds log) (count : Nat) :
    (ring.view count).1 ++ (ring.view count).2 =
      log.drop (log.length - min count (min log.length ring.capacity)) := by
  unfold view
  rw [holds.counted]
  dsimp only
  generalize taken : min count (min log.length ring.capacity) = n
  have short : n ≤ log.length := by omega
  have fits : n ≤ ring.capacity := by omega
  by_cases none : n = 0
  · rw [if_pos none, none, Nat.sub_zero, List.drop_length]
    rfl
  · rw [if_neg none]
    have positive : 0 < n := Nat.pos_of_ne_zero none
    have inside : (log.length - n) % ring.capacity < ring.capacity := Nat.mod_lt _ holds.room
    have last : log.length % ring.capacity =
        ((log.length - n) % ring.capacity + n) % ring.capacity := by
      rw [Nat.mod_add_mod, Nat.sub_add_cancel short]
    rw [last]
    apply List.ext_getElem?
    intro index
    rw [List.getElem?_drop]
    by_cases below : index < n
    · rw [span_getElem? inside positive fits below, Nat.mod_add_mod]
      exact holds.slot _ (by omega) (by omega)
    · have beyond : log.length ≤ log.length - n + index := by omega
      have length := span_length inside positive fits
      rw [List.getElem?_eq_none beyond, List.getElem?_eq_none (by omega)]

end Log

end RingLog
