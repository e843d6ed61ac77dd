import Mathlib.Data.List.Lex
import Mathlib.Data.List.Sort
import Ucanlab.Lib.JsonValue

/-!
The order of the entries of dicts. Two values may differ in it alone, and a rank of the keys
picks one order of each dict. Where no two keys of a dict share their rank, it is the same from
whichever reordering it starts.
-/

namespace JsonText

section Reorder

inductive Reorder : Value → Value → Prop where
  | here {entries shuffled : List (Text × Value)} (same : entries.Perm shuffled) :
      Reorder (.dict entries) (.dict shuffled)
  | item {front back : List Value} {value other : Value} (within : Reorder value other) :
      Reorder (.list (front ++ value :: back)) (.list (front ++ other :: back))
  | entry {front back : List (Text × Value)} {key : Text} {value other : Value}
      (within : Reorder value other) :
      Reorder (.dict (front ++ (key, value) :: back)) (.dict (front ++ (key, other) :: back))

def Reordered : Value → Value → Prop := Relation.ReflTransGen Reorder

theorem Reorder.symm {value other : Value} (swapped : Reorder value other) :
    Reorder other value := by
  induction swapped with
  | here same => exact .here same.symm
  | item _ ih => exact .item ih
  | entry _ ih => exact .entry ih

theorem Reordered.symm {value other : Value} (swapped : Reordered value other) :
    Reordered other value := by
  induction swapped with
  | refl => exact Relation.ReflTransGen.refl
  | tail _ last ih => exact Relation.ReflTransGen.head last.symm ih

theorem Reordered.item {front back : List Value} {value other : Value}
    (within : Reordered value other) :
    Reordered (.list (front ++ value :: back)) (.list (front ++ other :: back)) :=
  Relation.ReflTransGen.lift (fun held => Value.list (front ++ held :: back))
    (fun _ _ => Reorder.item) _ _ within

theorem Reordered.entry {front back : List (Text × Value)} {key : Text} {value other : Value}
    (within : Reordered value other) :
    Reordered (.dict (front ++ (key, value) :: back)) (.dict (front ++ (key, other) :: back)) :=
  Relation.ReflTransGen.lift (fun held => Value.dict (front ++ (key, held) :: back))
    (fun _ _ => Reorder.entry) _ _ within

theorem Reordered.items {change : Value → Value} (front : List Value) {items : List Value}
    (each : ∀ item ∈ items, Reordered item (change item)) :
    Reordered (.list (front ++ items)) (.list (front ++ items.map change)) := by
  induction items generalizing front with
  | nil => exact Relation.ReflTransGen.refl
  | cons item rest ih =>
      have head := @Reordered.item front rest _ _ (each item List.mem_cons_self)
      have tail := ih (front ++ [change item])
        (fun later member => each later (List.mem_cons_of_mem _ member))
      rw [List.append_assoc, List.append_assoc] at tail
      exact head.trans tail

theorem Reordered.entries {change : Value → Value} (front : List (Text × Value))
    {entries : List (Text × Value)}
    (each : ∀ entry ∈ entries, Reordered entry.2 (change entry.2)) :
    Reordered (.dict (front ++ entries))
      (.dict (front ++ entries.map (fun entry => (entry.1, change entry.2)))) := by
  induction entries generalizing front with
  | nil => exact Relation.ReflTransGen.refl
  | cons entry rest ih =>
      have head := @Reordered.entry front rest entry.1 _ _ (each entry List.mem_cons_self)
      have tail := ih (front ++ [(entry.1, change entry.2)])
        (fun later member => each later (List.mem_cons_of_mem _ member))
      rw [List.append_assoc, List.append_assoc] at tail
      exact head.trans tail

theorem Reorder.all_iff {onText : Text → Prop} {onInt : Int → Prop} {onKeys : List Text → Prop}
    (orderless : ∀ {keys shuffled : List Text}, keys.Perm shuffled →
      (onKeys keys ↔ onKeys shuffled)) {value other : Value} (swapped : Reorder value other) :
    value.All onText onInt onKeys ↔ other.All onText onInt onKeys := by
  induction swapped with
  | here same =>
      rw [Value.all_dict, Value.all_dict, orderless (same.map Prod.fst)]
      exact and_congr_right (fun _ => forall_congr' (fun entry => by rw [same.mem_iff]))
  | item _ ih =>
      simp only [Value.all_list, List.mem_append, List.mem_cons, or_imp, forall_and, forall_eq, ih]
  | entry _ ih =>
      simp only [Value.all_dict, List.map_append, List.map_cons, List.mem_append, List.mem_cons,
        or_imp, forall_and, forall_eq, ih]

theorem Reordered.all_iff {onText : Text → Prop} {onInt : Int → Prop} {onKeys : List Text → Prop}
    (orderless : ∀ {keys shuffled : List Text}, keys.Perm shuffled →
      (onKeys keys ↔ onKeys shuffled)) {value other : Value} (swapped : Reordered value other) :
    value.All onText onInt onKeys ↔ other.All onText onInt onKeys := by
  induction swapped with
  | refl => rfl
  | tail _ last ih => exact ih.trans (last.all_iff orderless)

theorem Reordered.distinct_iff {value other : Value} (swapped : Reordered value other) :
    value.Distinct ↔ other.Distinct :=
  swapped.all_iff (fun same => same.nodup_iff)

end Reorder

section Sorting

variable {Held Other : Type} (rank : Text → List Nat)

def byRank (left right : Text × Held) : Prop := rank left.1 ≤ rank right.1

instance : DecidableRel (@byRank Held rank) :=
  fun left right => inferInstanceAs (Decidable (rank left.1 ≤ rank right.1))

def sortByRank (entries : List (Text × Held)) : List (Text × Held) :=
  entries.insertionSort (byRank rank)

variable {rank}

theorem pairwise_sortByRank (entries : List (Text × Held)) :
    (sortByRank rank entries).Pairwise (byRank rank) := by
  have : Std.Total (@byRank Held rank) := ⟨fun _ _ => le_total _ _⟩
  have : IsTrans (Text × Held) (byRank rank) := ⟨fun _ _ _ => le_trans⟩
  exact List.pairwise_insertionSort _ entries

theorem perm_sortByRank (entries : List (Text × Held)) : (sortByRank rank entries).Perm entries :=
  List.perm_insertionSort _ entries

theorem map_sortByRank (change : Text → Held → Other) (entries : List (Text × Held)) :
    sortByRank rank (entries.map (fun entry => (entry.1, change entry.1 entry.2))) =
      (sortByRank rank entries).map (fun entry => (entry.1, change entry.1 entry.2)) :=
  (List.map_insertionSort (byRank rank) (byRank rank)
    (fun entry : Text × Held => (entry.1, change entry.1 entry.2)) entries
    (fun _ _ _ _ => Iff.rfl)).symm

theorem sortByRank_perm {entries shuffled : List (Text × Held)} (same : entries.Perm shuffled)
    (apart : (entries.map (fun entry => rank entry.1)).Nodup) :
    sortByRank rank entries = sortByRank rank shuffled := by
  refine List.Perm.eq_of_pairwise ?_ (pairwise_sortByRank entries) (pairwise_sortByRank shuffled)
    ((perm_sortByRank entries).trans (same.trans (perm_sortByRank shuffled).symm))
  intro left right isIn isThere below above
  have equal : rank left.1 = rank right.1 := le_antisymm below above
  have leftIn := (perm_sortByRank entries).mem_iff.mp isIn
  have rightIn := same.mem_iff.mpr ((perm_sortByRank shuffled).mem_iff.mp isThere)
  exact List.inj_on_of_nodup_map apart leftIn rightIn equal

end Sorting

section Ordered

variable (rank : Text → List Nat)

mutual

def ordered : Value → Value
  | .list items => .list (orderedItems items)
  | .dict entries => .dict (sortByRank rank (orderedEntries entries))
  | .null => .null
  | .bool truth => .bool truth
  | .int number => .int number
  | .str chars => .str chars

def orderedItems : List Value → List Value
  | [] => []
  | item :: rest => ordered item :: orderedItems rest

def orderedEntries : List (Text × Value) → List (Text × Value)
  | [] => []
  | (key, value) :: rest => (key, ordered value) :: orderedEntries rest

end

def KeysOrdered (value : Value) : Prop :=
  value.All (fun _ => True) (fun _ => True)
    (fun keys => keys.Pairwise (fun left right => rank left < rank right))

def RanksApart (value : Value) : Prop :=
  value.All (fun _ => True) (fun _ => True) (fun keys => (keys.map rank).Nodup)

variable {rank}

theorem ordered_list (items : List Value) :
    ordered rank (.list items) = .list (items.map (ordered rank)) := by
  have each : orderedItems rank items = items.map (ordered rank) := by
    induction items with
    | nil => rfl
    | cons item rest ih => exact congrArg (ordered rank item :: ·) ih
  rw [ordered, each]

theorem ordered_dict (entries : List (Text × Value)) :
    ordered rank (.dict entries) =
      .dict ((sortByRank rank entries).map (fun entry => (entry.1, ordered rank entry.2))) := by
  have each : orderedEntries rank entries =
      entries.map (fun entry => (entry.1, ordered rank entry.2)) := by
    induction entries with
    | nil => rfl
    | cons entry rest ih => exact congrArg ((entry.1, ordered rank entry.2) :: ·) ih
  rw [ordered, each]
  exact congrArg Value.dict (map_sortByRank (fun _ => ordered rank) entries)

theorem reordered_ordered (value : Value) : Reordered value (ordered rank value) := by
  induction value with
  | null => exact Relation.ReflTransGen.refl
  | bool truth => exact Relation.ReflTransGen.refl
  | int number => exact Relation.ReflTransGen.refl
  | str chars => exact Relation.ReflTransGen.refl
  | list items ih =>
      rw [ordered_list]
      exact Reordered.items [] ih
  | dict entries ih =>
      have shuffled : Reorder (.dict entries) (.dict (sortByRank rank entries)) :=
        .here (perm_sortByRank entries).symm
      rw [ordered_dict]
      refine Relation.ReflTransGen.head shuffled (Reordered.entries [] ?_)
      exact fun entry member => ih entry ((perm_sortByRank entries).mem_iff.mp member)

theorem keysOrdered_ordered {value : Value} (apart : RanksApart rank value) :
    KeysOrdered rank (ordered rank value) := by
  induction value with
  | null => trivial
  | bool truth => trivial
  | int number => trivial
  | str chars => trivial
  | list items ih =>
      have each := Value.all_list.mp apart
      rw [ordered_list]
      refine Value.all_list.mpr ?_
      intro item member
      obtain ⟨earlier, isIn, rfl⟩ := List.mem_map.mp member
      exact ih earlier isIn (each earlier isIn)
  | dict entries ih =>
      obtain ⟨here, each⟩ := Value.all_dict.mp apart
      rw [List.map_map] at here
      rw [ordered_dict]
      refine Value.all_dict.mpr ⟨?_, ?_⟩
      · rw [List.map_map, List.pairwise_map]
        have once : ((sortByRank rank entries).map (rank ∘ Prod.fst)).Nodup :=
          ((perm_sortByRank entries).map _).nodup_iff.mpr here
        rw [List.Nodup, List.pairwise_map] at once
        refine (once.and (pairwise_sortByRank entries)).imp ?_
        intro left right both
        exact Decidable.byContradiction
          (fun above => both.1 (le_antisymm both.2 (not_lt.mp above)))
      · intro entry member
        obtain ⟨earlier, isIn, rfl⟩ := List.mem_map.mp member
        have original := (perm_sortByRank entries).mem_iff.mp isIn
        exact ⟨trivial, ih earlier original (each earlier original).2⟩

end Ordered

end JsonText
