import Ucanlab.Lib.Alignment

/-!
The distance of two words by a table of which three rows are kept, left as soon as no later row can
come back under the limit.
-/

namespace Ucanlab.Engine.Ai

open EditAlignment

section Damerau

variable {Letter : Type} [DecidableEq Letter]

/-- `cur[j]`, from the row before, the one before that and this row as far as it is filled. -/
def damerauCell (a b : List Letter) (prev2 prev cur : List Nat) (i j : Nat) (ca cb : Letter) : Nat :=
  let cost := if ca = cb then 0 else 1
  let cell := min (min (prev.getD j 0 + 1) (cur.getD (j - 1) 0 + 1)) (prev.getD (j - 1) 0 + cost)
  if 1 < i ∧ 1 < j ∧ b[j - 2]? = some ca ∧ a[i - 2]? = some cb then
    min cell (prev2.getD (j - 2) 0 + 1)
  else cell

def damerauRow (a b : List Letter) (prev2 prev : List Nat) (i : Nat) (ca : Letter) : List Nat :=
  (b.zipIdx 1).foldl
    (fun cur entry => cur.set entry.2 (damerauCell a b prev2 prev cur i entry.2 ca entry.1))
    (i :: List.replicate b.length 0)

/-- The rows for the letters that are left, until one of them is above the limit throughout. -/
def damerauRows (a b : List Letter) (limit : Int) :
    List (Letter × Nat) → List Nat → List Nat → Int
  | [], _, prev => prev.getLastD 0
  | (ca, i) :: rest, prev2, prev =>
      let cur := damerauRow a b prev2 prev i ca
      if limit < cur.min?.getD 0 then limit + 1 else damerauRows a b limit rest prev cur

def damerau (a b : List Letter) (limit : Int) : Int :=
  if limit < ((a.length : Int) - b.length).natAbs then limit + 1
  else damerauRows a b limit (a.zipIdx 1) [] (List.range (b.length + 1))

structure IsRow (a b : List Letter) (i : Nat) (row : List Nat) : Prop where
  length : row.length = b.length + 1
  cells : ∀ j ≤ b.length, row.getD j 0 = prefixDistance a b i j

structure FilledTo (a b : List Letter) (i filled : Nat) (row : List Nat) : Prop where
  length : row.length = b.length + 1
  cells : ∀ j ≤ filled, row.getD j 0 = prefixDistance a b i j

structure ExactWithin (limit value : Int) (distance : Nat) : Prop where
  within : value ≤ limit ↔ (distance : Int) ≤ limit
  exact : value ≤ limit → value = distance

section Rows

variable {a b : List Letter} {i : Nat} {prev2 prev cur : List Nat} {ca cb : Letter}

theorem damerauCell_eq (row : IsRow a b i prev) (before : 0 < i → IsRow a b (i - 1) prev2)
    {j : Nat} (filled : FilledTo a b (i + 1) j cur) (first : a[i]? = some ca)
    (second : b[j]? = some cb) :
    damerauCell a b prev2 prev cur (i + 1) (j + 1) ca cb = prefixDistance a b (i + 1) (j + 1) := by
  have inside : j < b.length := (List.getElem?_eq_some_iff.mp second).1
  have swapped : (1 < i + 1 ∧ 1 < j + 1 ∧ b[j + 1 - 2]? = some ca ∧ a[i + 1 - 2]? = some cb) ↔
      SwappedAt a b i j ca cb :=
    and_congr Nat.succ_lt_succ_iff (and_congr Nat.succ_lt_succ_iff Iff.rfl)
  unfold damerauCell
  dsimp only
  rw [prefixDistance_succ first second, edited_take first second, if_congr swapped rfl rfl,
    row.cells (j + 1) inside, Nat.add_sub_cancel, row.cells j (Nat.le_of_lt inside),
    filled.cells j (Nat.le_refl j)]
  by_cases both : SwappedAt a b i j ca cb
  · rw [if_pos both, if_pos both, show j + 1 - 2 = j - 1 by omega,
      (before both.1).cells (j - 1) (by omega)]
  · rw [if_neg both, if_neg both]

theorem FilledTo.set {j : Nat} (filled : FilledTo a b i j cur) (inside : j < b.length) :
    FilledTo a b i (j + 1) (cur.set (j + 1) (prefixDistance a b i (j + 1))) where
  length := by rw [List.length_set, filled.length]
  cells := by
    intro place reached
    rw [List.getD_eq_getElem?_getD]
    by_cases last : place = j + 1
    · subst last
      rw [List.getElem?_set_self (by rw [filled.length]; omega)]
      rfl
    · rw [List.getElem?_set_ne (Ne.symm last), ← List.getD_eq_getElem?_getD]
      exact filled.cells place (by omega)

theorem damerauRow_isRow (row : IsRow a b i prev) (before : 0 < i → IsRow a b (i - 1) prev2)
    (first : a[i]? = some ca) : IsRow a b (i + 1) (damerauRow a b prev2 prev (i + 1) ca) := by
  have fill (rest front : List Letter) (whole : b = front ++ rest) (cur : List Nat)
      (filled : FilledTo a b (i + 1) front.length cur) :
      FilledTo a b (i + 1) b.length ((rest.zipIdx (front.length + 1)).foldl
        (fun cur entry => cur.set entry.2 (damerauCell a b prev2 prev cur (i + 1) entry.2 ca entry.1))
        cur) := by
    induction rest generalizing front cur with
    | nil =>
        rw [List.append_nil] at whole
        exact whole ▸ filled
    | cons cb rest ih =>
        have second : b[front.length]? = some cb := by
          rw [whole, List.getElem?_append_right (Nat.le_refl _), Nat.sub_self]
          rfl
        have inside : front.length < b.length := (List.getElem?_eq_some_iff.mp second).1
        rw [List.zipIdx_cons, List.foldl_cons]
        dsimp only
        rw [damerauCell_eq row before filled first second]
        have longer := ih (front ++ [cb]) (by rw [whole, List.append_assoc]; rfl)
          (cur.set (front.length + 1) (prefixDistance a b (i + 1) (front.length + 1)))
        rw [List.length_append, List.length_singleton] at longer
        exact longer (filled.set inside)
  have start : FilledTo a b (i + 1) 0 ((i + 1) :: List.replicate b.length 0) := by
    refine ⟨by rw [List.length_cons, List.length_replicate], ?_⟩
    intro j none
    rw [Nat.le_zero.mp none, prefixDistance_zero_right (List.getElem?_eq_some_iff.mp first).1]
    rfl
  obtain ⟨length, cells⟩ := fill b [] rfl _ start
  exact ⟨length, cells⟩

theorem IsRow.mem_iff (row : IsRow a b i cur) {value : Nat} :
    value ∈ cur ↔ ∃ j ≤ b.length, value = prefixDistance a b i j := by
  constructor
  · intro member
    obtain ⟨j, inside, rfl⟩ := List.mem_iff_getElem.mp member
    have within : j ≤ b.length := by
      rw [row.length] at inside
      omega
    refine ⟨j, within, ?_⟩
    rw [← row.cells j within, List.getD_eq_getElem?_getD, List.getElem?_eq_getElem inside]
    rfl
  · rintro ⟨j, within, rfl⟩
    have inside : j < cur.length := by
      rw [row.length]
      omega
    rw [← row.cells j within, List.getD_eq_getElem?_getD, List.getElem?_eq_getElem inside]
    exact List.getElem_mem inside

theorem IsRow.min_le (row : IsRow a b i cur) {j : Nat} (within : j ≤ b.length) :
    cur.min?.getD 0 ≤ prefixDistance a b i j := by
  have member := row.mem_iff.mpr ⟨j, within, rfl⟩
  cases least : cur.min? with
  | none =>
      rw [List.min?_eq_none_iff.mp least] at member
      cases member
  | some value => exact (List.min?_eq_some_iff.mp least).2 _ member

theorem IsRow.getLastD_eq (row : IsRow a b i prev) :
    prev.getLastD 0 = prefixDistance a b i b.length := by
  rw [← row.cells b.length (Nat.le_refl _), List.getLastD_eq_getLast?, List.getLast?_eq_getElem?,
    row.length, List.getD_eq_getElem?_getD, Nat.add_sub_cancel]

theorem damerauRows_exact (limit : Int) (rest front : List Letter) (whole : a = front ++ rest)
    (row : IsRow a b front.length prev)
    (before : 0 < front.length → IsRow a b (front.length - 1) prev2) :
    ExactWithin limit (damerauRows a b limit (rest.zipIdx (front.length + 1)) prev2 prev)
      (distance a b) := by
  induction rest generalizing front prev2 prev with
  | nil =>
      rw [List.append_nil] at whole
      have last : damerauRows a b limit [] prev2 prev = distance a b := by
        unfold damerauRows
        rw [row.getLastD_eq, ← whole, prefixDistance_length]
      rw [List.zipIdx_nil, last]
      exact ⟨Iff.rfl, fun _ => rfl⟩
  | cons ca rest ih =>
      have first : a[front.length]? = some ca := by
        rw [whole, List.getElem?_append_right (Nat.le_refl _), Nat.sub_self]
        rfl
      have next := damerauRow_isRow row before first
      rw [List.zipIdx_cons]
      unfold damerauRows
      dsimp only
      by_cases above :
          limit < ((damerauRow a b prev2 prev (front.length + 1) ca).min?.getD 0 : Nat)
      · have inside : front.length + 1 ≤ a.length := (List.getElem?_eq_some_iff.mp first).1
        obtain ⟨j, within, below⟩ : ∃ j ≤ b.length,
            prefixDistance a b (front.length + 1) j ≤ distance a b :=
          exists_prefixDistance_le inside
        have least := next.min_le within
        rw [if_pos above]
        constructor
        · omega
        · omega
      · rw [if_neg above]
        have longer : (front ++ [ca]).length = front.length + 1 := by
          rw [List.length_append, List.length_singleton]
        have reached : IsRow a b (front ++ [ca]).length
            (damerauRow a b prev2 prev (front.length + 1) ca) := by
          rw [longer]
          exact next
        have earlier : IsRow a b ((front ++ [ca]).length - 1) prev := by
          rw [longer, Nat.add_sub_cancel]
          exact row
        have later := ih (front ++ [ca]) (by rw [whole, List.append_assoc]; rfl) reached
          (fun _ => earlier)
        rwa [longer] at later

theorem isRow_zero (a b : List Letter) : IsRow a b 0 (List.range (b.length + 1)) where
  length := List.length_range
  cells := by
    intro j within
    rw [prefixDistance_zero_left within, List.getD_eq_getElem?_getD,
      List.getElem?_range (Nat.lt_succ_of_le within)]
    rfl

theorem damerau_exact (a b : List Letter) (limit : Int) :
    ExactWithin limit (damerau a b limit) (distance a b) := by
  unfold damerau
  by_cases apart : limit < ((a.length : Int) - b.length).natAbs
  · obtain ⟨longer, shorter⟩ := length_le_distance a b
    rw [if_pos apart]
    constructor
    · omega
    · omega
  · rw [if_neg apart]
    exact damerauRows_exact limit a [] rfl (isRow_zero a b) (fun none => nomatch none)

end Rows

/-- Leaving early changes nothing that is within the limit, whichever word comes first. -/
theorem damerau_within (a b : List Letter) (limit : Int) :
    (damerau a b limit ≤ limit ↔ (distance a b : Int) ≤ limit) ∧
      (damerau a b limit ≤ limit → damerau a b limit = distance a b) ∧
      (damerau a b limit ≤ limit ↔ damerau b a limit ≤ limit) := by
  have forth := damerau_exact a b limit
  have back := damerau_exact b a limit
  refine ⟨forth.within, forth.exact, ?_⟩
  rw [forth.within, back.within, distance_comm]

end Damerau

end Ucanlab.Engine.Ai
