import Mathlib.Data.List.Basic
import Mathlib.Order.MinMax

/-!
Words aligned by edits, each letter edited at most once: a letter left out, put in or replaced, or
two neighbours swapped. The recursive distance is the least number of edits, so that it does not
depend on the order of the two words nor on the end from which they are read.
-/

namespace EditAlignment

universe u

variable {Letter : Type u}

inductive Aligned : List Letter → List Letter → Nat → Prop
  | nil : Aligned [] [] 0
  | keep {left right : List Letter} {edits : Nat} (letter : Letter) (rest : Aligned left right edits) :
      Aligned (letter :: left) (letter :: right) edits
  | delete {left right : List Letter} {edits : Nat} (letter : Letter)
      (rest : Aligned left right edits) : Aligned (letter :: left) right (edits + 1)
  | insert {left right : List Letter} {edits : Nat} (letter : Letter)
      (rest : Aligned left right edits) : Aligned left (letter :: right) (edits + 1)
  | substitute {left right : List Letter} {edits : Nat} (old new : Letter)
      (rest : Aligned left right edits) : Aligned (old :: left) (new :: right) (edits + 1)
  | swap {left right : List Letter} {edits : Nat} (first second : Letter)
      (rest : Aligned left right edits) :
      Aligned (first :: second :: left) (second :: first :: right) (edits + 1)

namespace Aligned

variable {left right : List Letter} {edits : Nat}

theorem symm (aligned : Aligned left right edits) : Aligned right left edits := by
  induction aligned with
  | nil => exact .nil
  | keep letter _ ih => exact .keep letter ih
  | delete letter _ ih => exact .insert letter ih
  | insert letter _ ih => exact .delete letter ih
  | substitute old new _ ih => exact .substitute new old ih
  | swap first second _ ih => exact .swap second first ih

theorem append (aligned : Aligned left right edits) {left' right' : List Letter} {more : Nat}
    (after : Aligned left' right' more) :
    Aligned (left ++ left') (right ++ right') (edits + more) := by
  induction aligned with
  | nil => rwa [Nat.zero_add]
  | keep letter _ ih => exact .keep letter ih
  | delete letter _ ih => exact Nat.add_right_comm _ 1 more ▸ .delete letter ih
  | insert letter _ ih => exact Nat.add_right_comm _ 1 more ▸ .insert letter ih
  | substitute old new _ ih => exact Nat.add_right_comm _ 1 more ▸ .substitute old new ih
  | swap first second _ ih => exact Nat.add_right_comm _ 1 more ▸ .swap first second ih

theorem reverse (aligned : Aligned left right edits) :
    Aligned left.reverse right.reverse edits := by
  induction aligned with
  | nil => exact .nil
  | keep letter _ ih =>
      rw [List.reverse_cons, List.reverse_cons]
      exact ih.append (.keep letter .nil)
  | delete letter _ ih =>
      rw [List.reverse_cons]
      simpa using ih.append (.delete letter .nil)
  | insert letter _ ih =>
      rw [List.reverse_cons]
      simpa using ih.append (.insert letter .nil)
  | substitute old new _ ih =>
      rw [List.reverse_cons, List.reverse_cons]
      exact ih.append (.substitute old new .nil)
  | swap first second _ ih =>
      simp only [List.reverse_cons, List.append_assoc]
      exact ih.append (.swap second first .nil)

theorem length_le (aligned : Aligned left right edits) :
    left.length ≤ right.length + edits ∧ right.length ≤ left.length + edits := by
  induction aligned with
  | nil => exact ⟨Nat.le_refl 0, Nat.le_refl 0⟩
  | keep _ _ ih | delete _ _ ih | insert _ _ ih | substitute _ _ _ ih | swap _ _ _ ih =>
      simp only [List.length_cons]
      omega

theorem deletions (word : List Letter) : Aligned word [] word.length := by
  induction word with
  | nil => exact .nil
  | cons letter rest ih => exact .delete letter ih

end Aligned

variable [DecidableEq Letter]

/-- The distance by recursion: the cheapest way to deal with the first letters. -/
def distance : List Letter → List Letter → Nat
  | [], right => right.length
  | left, [] => left.length
  | x :: left, y :: right =>
      let edited := min (min (distance left (y :: right) + 1) (distance (x :: left) right + 1))
        (distance left right + if x = y then 0 else 1)
      match left, right with
      | x' :: left', y' :: right' =>
          if x = y' ∧ x' = y then min edited (distance left' right' + 1) else edited
      | _, _ => edited
termination_by left right => left.length + right.length

section Recursion

theorem distance_nil_left (right : List Letter) : distance [] right = right.length := by
  unfold distance
  rfl

theorem distance_nil_right (left : List Letter) : distance left [] = left.length := by
  cases left with
  | nil => exact distance_nil_left []
  | cons x left =>
      unfold distance
      rfl

def edited (x y : Letter) (left right : List Letter) : Nat :=
  min (min (distance left (y :: right) + 1) (distance (x :: left) right + 1))
    (distance left right + if x = y then 0 else 1)

theorem distance_swap {x y : Letter} {left right : List Letter} :
    distance (x :: y :: left) (y :: x :: right) =
      min (edited x y (y :: left) (x :: right)) (distance left right + 1) := by
  rw [distance]
  simp only [and_self, if_true]
  rfl

theorem distance_edited {x y : Letter} {left right : List Letter}
    (apart : ∀ left' right', left = y :: left' → right = x :: right' → False) :
    distance (x :: left) (y :: right) = edited x y left right := by
  cases left with
  | nil =>
      rw [distance]
      · rfl
      · intro _ _ _ _ absent
        cases absent
  | cons x' left' =>
      cases right with
      | nil =>
          rw [distance]
          · rfl
          · intro _ _ _ _ _ absent
            cases absent
      | cons y' right' =>
          rw [distance, if_neg]
          · rfl
          · rintro ⟨first, second⟩
            exact apart left' right' (by rw [second]) (by rw [first])

theorem distance_cons (x y : Letter) (left right : List Letter) :
    (∃ left' right', left = y :: left' ∧ right = x :: right' ∧
        distance (x :: left) (y :: right) =
          min (edited x y left right) (distance left' right' + 1)) ∨
      distance (x :: left) (y :: right) = edited x y left right := by
  by_cases swapped : ∃ left' right', left = y :: left' ∧ right = x :: right'
  · obtain ⟨left', right', rfl, rfl⟩ := swapped
    exact Or.inl ⟨left', right', rfl, rfl, distance_swap⟩
  · refine Or.inr (distance_edited ?_)
    intro left' right' first second
    exact swapped ⟨left', right', first, second⟩

theorem distance_le_edited (x y : Letter) (left right : List Letter) :
    distance (x :: left) (y :: right) ≤ edited x y left right := by
  obtain ⟨_, _, _, _, swapped⟩ | plain := distance_cons x y left right
  · rw [swapped]
    exact Nat.min_le_left ..
  · exact Nat.le_of_eq plain

theorem distance_cons_left_le (x : Letter) (left right : List Letter) :
    distance (x :: left) right ≤ distance left right + 1 := by
  cases right with
  | nil =>
      rw [distance_nil_right, distance_nil_right]
      exact Nat.le_refl _
  | cons y right =>
      exact (distance_le_edited x y left right).trans
        ((Nat.min_le_left ..).trans (Nat.min_le_left ..))

theorem distance_cons_right_le (y : Letter) (left right : List Letter) :
    distance left (y :: right) ≤ distance left right + 1 := by
  cases left with
  | nil =>
      rw [distance_nil_left, distance_nil_left]
      exact Nat.le_refl _
  | cons x left =>
      exact (distance_le_edited x y left right).trans
        ((Nat.min_le_left ..).trans (Nat.min_le_right ..))

theorem distance_cons_cons_le (x y : Letter) (left right : List Letter) :
    distance (x :: left) (y :: right) ≤ distance left right + if x = y then 0 else 1 :=
  (distance_le_edited x y left right).trans (Nat.min_le_right ..)

theorem distance_cons_cons_le_succ (x y : Letter) (left right : List Letter) :
    distance (x :: left) (y :: right) ≤ distance left right + 1 := by
  refine (distance_cons_cons_le x y left right).trans (Nat.add_le_add_left ?_ _)
  split
  · exact Nat.zero_le 1
  · exact Nat.le_refl 1

end Recursion

section Least

theorem Aligned.distance_le {left right : List Letter} {edits : Nat}
    (aligned : Aligned left right edits) : distance left right ≤ edits := by
  induction aligned with
  | nil => exact Nat.le_of_eq (distance_nil_left [])
  | @keep left right _ letter _ ih =>
      have step := distance_cons_cons_le letter letter left right
      rw [if_pos rfl] at step
      exact step.trans ih
  | delete letter _ ih => exact (distance_cons_left_le letter _ _).trans (Nat.succ_le_succ ih)
  | insert letter _ ih => exact (distance_cons_right_le letter _ _).trans (Nat.succ_le_succ ih)
  | substitute old new _ ih =>
      exact (distance_cons_cons_le_succ old new _ _).trans (Nat.succ_le_succ ih)
  | swap first second _ ih =>
      rw [distance_swap]
      exact (Nat.min_le_right ..).trans (Nat.succ_le_succ ih)

theorem aligned_edited {x y : Letter} {left right : List Letter}
    (deleted : Aligned left (y :: right) (distance left (y :: right)))
    (inserted : Aligned (x :: left) right (distance (x :: left) right))
    (both : Aligned left right (distance left right)) :
    Aligned (x :: left) (y :: right) (edited x y left right) := by
  unfold edited
  rcases min_choice (min (distance left (y :: right) + 1) (distance (x :: left) right + 1))
    (distance left right + if x = y then 0 else 1) with first | last
  · rw [first]
    rcases min_choice (distance left (y :: right) + 1) (distance (x :: left) right + 1) with
      least | least
    · rw [least]
      exact .delete x deleted
    · rw [least]
      exact .insert y inserted
  · rw [last]
    by_cases same : x = y
    · subst same
      rw [if_pos rfl]
      exact .keep x both
    · rw [if_neg same]
      exact .substitute x y both

theorem aligned_distance (left right : List Letter) : Aligned left right (distance left right) := by
  match left, right with
  | [], right =>
      rw [distance_nil_left]
      exact (Aligned.deletions right).symm
  | x :: left, [] =>
      rw [distance_nil_right]
      exact Aligned.deletions (x :: left)
  | x :: left, y :: right =>
      have plain := aligned_edited (aligned_distance left (y :: right))
        (aligned_distance (x :: left) right) (aligned_distance left right)
      obtain ⟨left', right', rfl, rfl, swapped⟩ | same := distance_cons x y left right
      · rw [swapped]
        rcases min_choice (edited x y (y :: left') (x :: right')) (distance left' right' + 1) with
          least | least
        · rw [least]
          exact plain
        · rw [least]
          exact .swap x y (aligned_distance left' right')
      · rw [same]
        exact plain
termination_by left.length + right.length

theorem distance_comm (left right : List Letter) : distance left right = distance right left :=
  Nat.le_antisymm (aligned_distance right left).symm.distance_le
    (aligned_distance left right).symm.distance_le

theorem distance_reverse (left right : List Letter) :
    distance left.reverse right.reverse = distance left right := by
  refine Nat.le_antisymm (aligned_distance left right).reverse.distance_le ?_
  have back := (aligned_distance left.reverse right.reverse).reverse
  rw [List.reverse_reverse, List.reverse_reverse] at back
  exact back.distance_le

end Least

section Prefixes

variable (left right : List Letter)

def prefixDistance (i j : Nat) : Nat := distance (left.take i) (right.take j)

variable {left right}

theorem prefixDistance_zero_left {j : Nat} (inside : j ≤ right.length) :
    prefixDistance left right 0 j = j := by
  unfold prefixDistance
  rw [List.take_zero, distance_nil_left, List.length_take, Nat.min_eq_left inside]

theorem prefixDistance_zero_right {i : Nat} (inside : i ≤ left.length) :
    prefixDistance left right i 0 = i := by
  unfold prefixDistance
  rw [List.take_zero, distance_nil_right, List.length_take, Nat.min_eq_left inside]

theorem prefixDistance_length :
    prefixDistance left right left.length right.length = distance left right := by
  unfold prefixDistance
  rw [List.take_length, List.take_length]

omit [DecidableEq Letter] in
theorem reverse_take_succ {word : List Letter} {i : Nat} {x : Letter} (at' : word[i]? = some x) :
    (word.take (i + 1)).reverse = x :: (word.take i).reverse := by
  rw [List.take_add_one, at', Option.toList_some, List.reverse_append, List.reverse_singleton,
    List.singleton_append]

omit [DecidableEq Letter] in
theorem getElem?_of_reverse_take {word rest : List Letter} {i : Nat} {z : Letter}
    (inside : i < word.length) (shape : (word.take i).reverse = z :: rest) :
    0 < i ∧ word[i - 1]? = some z := by
  cases i with
  | zero => cases shape
  | succ i =>
      have here : word[i]? = some word[i] := List.getElem?_eq_getElem (Nat.lt_of_succ_lt inside)
      rw [reverse_take_succ here] at shape
      exact ⟨Nat.succ_pos i, here.trans (congrArg some (List.cons.inj shape).1)⟩

theorem prefixDistance_eq (i j : Nat) :
    prefixDistance left right i j = distance (left.take i).reverse (right.take j).reverse :=
  (distance_reverse ..).symm

variable {i j : Nat} {x y : Letter}

theorem edited_take (first : left[i]? = some x) (second : right[j]? = some y) :
    edited x y (left.take i).reverse (right.take j).reverse =
      min (min (prefixDistance left right i (j + 1) + 1) (prefixDistance left right (i + 1) j + 1))
        (prefixDistance left right i j + if x = y then 0 else 1) := by
  unfold edited
  rw [prefixDistance_eq, prefixDistance_eq, prefixDistance_eq, reverse_take_succ first,
    reverse_take_succ second]

def SwappedAt (left right : List Letter) (i j : Nat) (x y : Letter) : Prop :=
  0 < i ∧ 0 < j ∧ right[j - 1]? = some x ∧ left[i - 1]? = some y

instance (left right : List Letter) (i j : Nat) (x y : Letter) :
    Decidable (SwappedAt left right i j x y) :=
  inferInstanceAs (Decidable (_ ∧ _ ∧ _ ∧ _))

/-- A cell of the table from the cells before it. -/
theorem prefixDistance_succ (first : left[i]? = some x) (second : right[j]? = some y) :
    prefixDistance left right (i + 1) (j + 1) =
      if SwappedAt left right i j x y then
        min (edited x y (left.take i).reverse (right.take j).reverse)
          (prefixDistance left right (i - 1) (j - 1) + 1)
      else edited x y (left.take i).reverse (right.take j).reverse := by
  rw [prefixDistance_eq, reverse_take_succ first, reverse_take_succ second]
  by_cases swapped : SwappedAt left right i j x y
  · obtain ⟨positive, positive', second', first'⟩ := swapped
    obtain ⟨i, rfl⟩ := Nat.exists_eq_succ_of_ne_zero (Nat.ne_of_gt positive)
    obtain ⟨j, rfl⟩ := Nat.exists_eq_succ_of_ne_zero (Nat.ne_of_gt positive')
    rw [if_pos ⟨positive, positive', second', first'⟩, prefixDistance_eq]
    simp only [Nat.succ_eq_add_one, Nat.add_sub_cancel] at first' second' ⊢
    rw [reverse_take_succ first', reverse_take_succ second']
    exact distance_swap
  · rw [if_neg swapped]
    refine distance_edited ?_
    intro left' right' before before'
    obtain ⟨positive, first'⟩ :=
      getElem?_of_reverse_take (List.getElem?_eq_some_iff.mp first).1 before
    obtain ⟨positive', second'⟩ :=
      getElem?_of_reverse_take (List.getElem?_eq_some_iff.mp second).1 before'
    exact swapped ⟨positive, positive', second', first'⟩

end Prefixes

section Rows

variable {left right : List Letter}

/-- No cell is below all the cells of the row before it. -/
theorem exists_le_prefixDistance {i : Nat} (inside : i < left.length) (j : Nat)
    (within : j ≤ right.length) :
    ∃ k ≤ right.length, prefixDistance left right i k ≤ prefixDistance left right (i + 1) j := by
  have first : left[i]? = some left[i] := List.getElem?_eq_getElem inside
  induction j with
  | zero =>
      refine ⟨0, Nat.zero_le _, ?_⟩
      rw [prefixDistance_zero_right (Nat.le_of_lt inside), prefixDistance_zero_right inside]
      exact Nat.le_succ i
  | succ j ih =>
      obtain ⟨earlier, reached, below⟩ := ih (Nat.le_of_succ_le within)
      have second : right[j]? = some right[j] := List.getElem?_eq_getElem within
      have plain : ∃ k ≤ right.length, prefixDistance left right i k ≤
          edited left[i] right[j] (left.take i).reverse (right.take j).reverse := by
        rw [edited_take first second]
        rcases min_choice (min (prefixDistance left right i (j + 1) + 1)
            (prefixDistance left right (i + 1) j + 1))
          (prefixDistance left right i j + if left[i] = right[j] then 0 else 1) with least | least
        · rw [least]
          rcases min_choice (prefixDistance left right i (j + 1) + 1)
            (prefixDistance left right (i + 1) j + 1) with least | least
          · rw [least]
            exact ⟨j + 1, within, Nat.le_succ _⟩
          · rw [least]
            exact ⟨earlier, reached, Nat.le_succ_of_le below⟩
        · rw [least]
          exact ⟨j, Nat.le_of_succ_le within, Nat.le_add_right ..⟩
      rw [prefixDistance_succ first second]
      by_cases swapped : SwappedAt left right i j left[i] right[j]
      · rw [if_pos swapped]
        rcases min_choice (edited left[i] right[j] (left.take i).reverse (right.take j).reverse)
          (prefixDistance left right (i - 1) (j - 1) + 1) with least | least
        · rw [least]
          exact plain
        · -- Instead of a swap, the two letters before these may be replaced.
          rw [least]
          obtain ⟨positive, positive', second', first'⟩ := swapped
          refine ⟨j, Nat.le_of_succ_le within, ?_⟩
          rw [prefixDistance_eq, prefixDistance_eq]
          obtain ⟨i, rfl⟩ := Nat.exists_eq_succ_of_ne_zero (Nat.ne_of_gt positive)
          obtain ⟨j, rfl⟩ := Nat.exists_eq_succ_of_ne_zero (Nat.ne_of_gt positive')
          rw [Nat.succ_eq_add_one, Nat.add_sub_cancel] at first' second'
          rw [Nat.succ_eq_add_one, Nat.succ_eq_add_one, reverse_take_succ first',
            reverse_take_succ second']
          exact distance_cons_cons_le_succ ..
      · rw [if_neg swapped]
        exact plain

theorem exists_prefixDistance_le {i : Nat} (inside : i ≤ left.length) :
    ∃ j ≤ right.length, prefixDistance left right i j ≤ distance left right := by
  have earlier (less : Nat) (fits : less ≤ left.length) :
      ∃ j ≤ right.length,
        prefixDistance left right (left.length - less) j ≤ distance left right := by
    induction less with
    | zero => exact ⟨right.length, Nat.le_refl _, Nat.le_of_eq prefixDistance_length⟩
    | succ less ih =>
        obtain ⟨j, within, below⟩ := ih (Nat.le_of_succ_le fits)
        have place : left.length - less = left.length - (less + 1) + 1 := by omega
        have earlier : left.length - (less + 1) < left.length := by omega
        rw [place] at below
        obtain ⟨k, reached, least⟩ := exists_le_prefixDistance earlier j within
        exact ⟨k, reached, least.trans below⟩
  have found := earlier (left.length - i) (Nat.sub_le ..)
  rwa [Nat.sub_sub_self inside] at found

theorem length_le_distance (left right : List Letter) :
    left.length ≤ right.length + distance left right ∧
      right.length ≤ left.length + distance left right := (aligned_distance left right).length_le

end Rows

end EditAlignment
