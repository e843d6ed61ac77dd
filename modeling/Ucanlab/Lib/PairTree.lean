import Mathlib.Data.List.Basic
import Mathlib.Data.Set.Function

/-!
A tree over a list, one level after the other: neighbours are combined, and an odd last
node is combined with itself. What the next level tells about the nodes below it, where
the combination is injective on the pairs that are combined.
-/

universe u

namespace PairTree

variable {Node : Type u} {combine : Node × Node → Node} {nodes others : List Node}

def pairs : List Node → List (Node × Node)
  | [] => []
  | [last] => [(last, last)]
  | left :: right :: rest => (left, right) :: pairs rest

def level (combine : Node × Node → Node) (nodes : List Node) : List Node :=
  (pairs nodes).map combine

theorem length_pairs (nodes : List Node) : (pairs nodes).length = (nodes.length + 1) / 2 := by
  induction nodes using pairs.induct with
  | case1 => simp [pairs]
  | case2 last => simp [pairs]
  | case3 left right rest ih =>
      simp only [pairs, List.length_cons, ih]
      omega

@[simp]
theorem length_level (combine : Node × Node → Node) (nodes : List Node) :
    (level combine nodes).length = (nodes.length + 1) / 2 := by
  unfold level
  rw [List.length_map, length_pairs]

theorem getElem?_pairs (nodes : List Node) (index : Nat) :
    (pairs nodes)[index]? =
      nodes[2 * index]?.map (fun left => (left, nodes[2 * index + 1]?.getD left)) := by
  induction nodes using pairs.induct generalizing index with
  | case1 => rfl
  | case2 last =>
      cases index with
      | zero => rfl
      | succ place => simp [pairs, Nat.mul_add]
  | case3 left right rest ih =>
      cases index with
      | zero => rfl
      | succ place =>
          have shift : 2 * (place + 1) = 2 * place + 1 + 1 := by omega
          rw [shift]
          simp only [pairs, List.getElem?_cons_succ]
          exact ih place

theorem getElem?_level (combine : Node × Node → Node) (nodes : List Node) (index : Nat) :
    (level combine nodes)[index]? =
      nodes[2 * index]?.map (fun left => combine (left, nodes[2 * index + 1]?.getD left)) := by
  unfold level
  rw [List.getElem?_map, getElem?_pairs, Option.map_map]
  rfl

theorem level_shorter (more : 1 < nodes.length) :
    (level combine nodes).length < nodes.length := by
  rw [length_level]
  omega

theorem level_ne_nil (some : nodes ≠ []) : level combine nodes ≠ [] := by
  have long := List.length_pos_iff.mpr some
  rw [← List.length_pos_iff, length_level]
  omega

theorem level_induction {motive : List Node → Prop} (combine : Node × Node → Node)
    (top : ∀ nodes, nodes.length ≤ 1 → motive nodes)
    (below : ∀ nodes, 1 < nodes.length → motive (level combine nodes) → motive nodes) :
    ∀ nodes, motive nodes := by
  intro nodes
  induction size : nodes.length using Nat.strong_induction_on generalizing nodes with
  | _ length ih =>
      by_cases more : 1 < nodes.length
      · exact below nodes more (ih _ (size ▸ level_shorter more) _ rfl)
      · exact top nodes (Nat.le_of_not_lt more)

theorem pairs_injective (sameLength : nodes.length = others.length)
    (same : pairs nodes = pairs others) : nodes = others := by
  induction nodes using pairs.induct generalizing others with
  | case1 => exact (List.eq_nil_of_length_eq_zero sameLength.symm).symm
  | case2 last =>
      obtain ⟨other, rfl⟩ := List.length_eq_one_iff.mp sameLength.symm
      simp only [pairs, List.cons.injEq, Prod.mk.injEq] at same
      rw [same.1.1]
  | case3 left right rest ih =>
      match others, sameLength, same with
      | otherLeft :: otherRight :: otherRest, sameLength, same =>
          simp only [pairs, List.cons.injEq, Prod.mk.injEq] at same
          obtain ⟨⟨rfl, rfl⟩, sameRest⟩ := same
          simp only [List.length_cons, Nat.add_right_cancel_iff] at sameLength
          rw [ih sameLength sameRest]

theorem level_injective (sameLength : nodes.length = others.length)
    {hashed : Set (Node × Node)} (injective : Set.InjOn combine hashed)
    (left : ∀ pair ∈ pairs nodes, pair ∈ hashed) (right : ∀ pair ∈ pairs others, pair ∈ hashed)
    (same : level combine nodes = level combine others) : nodes = others := by
  refine pairs_injective sameLength ?_
  refine List.ext_getElem? fun index => ?_
  have image := congrArg (fun (row : List Node) => row[index]?) same
  simp only [level, List.getElem?_map] at image
  cases one : (pairs nodes)[index]? with
  | none =>
      rw [one, Option.map_none, eq_comm, Option.map_eq_none_iff] at image
      exact image.symm
  | some pair =>
      rw [one, Option.map_some, eq_comm, Option.map_eq_some_iff] at image
      obtain ⟨other, found, equal⟩ := image
      have here := injective (right other (List.mem_of_getElem? found))
        (left pair (List.mem_of_getElem? one)) equal
      rw [found, here]

section Repeats

def Repeats {Value : Type u} (short long : List Value) : Prop :=
  short <+: long ∧ ∀ value ∈ long, value ∈ short

def Alike {Value : Type u} (left right : List Value) : Prop :=
  Repeats left right ∨ Repeats right left

theorem Alike.symm {Value : Type u} {left right : List Value} (alike : Alike left right) :
    Alike right left := Or.symm alike

theorem Repeats.refl {Value : Type u} (list : List Value) : Repeats list list :=
  ⟨List.prefix_refl list, fun _ member => member⟩

theorem Repeats.eq_of_nodup {Value : Type u} {short long : List Value}
    (repeats : Repeats short long) (distinct : long.Nodup) : short = long := by
  obtain ⟨⟨more, rfl⟩, only⟩ := repeats
  have nothing : more = [] := by
    refine List.eq_nil_iff_forall_not_mem.mpr fun value member => ?_
    have early := only value (List.mem_append_right short member)
    exact (List.nodup_append.mp distinct).2.2 value early value member rfl
  rw [nothing, List.append_nil]

theorem Repeats.of_map {short long : List (Node × Node)} {hashed : Set (Node × Node)}
    (injective : Set.InjOn combine hashed) (shortHashed : ∀ pair ∈ short, pair ∈ hashed)
    (longHashed : ∀ pair ∈ long, pair ∈ hashed)
    (repeats : Repeats (short.map combine) (long.map combine)) : Repeats short long := by
  obtain ⟨starts, only⟩ := repeats
  constructor
  · rw [List.prefix_iff_getElem?] at starts ⊢
    intro index inside
    have image := starts index (by rwa [List.length_map])
    rw [List.getElem_map, List.getElem?_map, Option.map_eq_some_iff] at image
    obtain ⟨pair, found, equal⟩ := image
    rw [found]
    exact congrArg some (injective (longHashed pair (List.mem_of_getElem? found))
      (shortHashed _ (List.getElem_mem inside)) equal)
  · intro pair member
    obtain ⟨other, early, equal⟩ := List.mem_map.mp (only _ (List.mem_map_of_mem member))
    rw [← injective (shortHashed other early) (longHashed pair member) equal]
    exact early

theorem mem_of_mem_pairs {pair : Node × Node} (member : pair ∈ pairs nodes) :
    pair.1 ∈ nodes ∧ pair.2 ∈ nodes := by
  obtain ⟨index, found⟩ := List.mem_iff_getElem?.mp member
  rw [getElem?_pairs, Option.map_eq_some_iff] at found
  obtain ⟨left, atLeft, rfl⟩ := found
  refine ⟨List.mem_of_getElem? atLeft, ?_⟩
  cases atRight : nodes[2 * index + 1]? with
  | none => exact List.mem_of_getElem? atLeft
  | some right => exact List.mem_of_getElem? atRight

theorem exists_pair {node : Node} (member : node ∈ nodes) :
    ∃ pair ∈ pairs nodes, node = pair.1 ∨ node = pair.2 := by
  induction nodes using pairs.induct with
  | case1 => cases member
  | case2 last =>
      rw [List.mem_singleton] at member
      exact ⟨(last, last), List.mem_singleton_self _, Or.inl member⟩
  | case3 left right rest ih =>
      rcases List.mem_cons.mp member with first | later
      · exact ⟨(left, right), List.mem_cons_self .., Or.inl first⟩
      · rcases List.mem_cons.mp later with second | behind
        · exact ⟨(left, right), List.mem_cons_self .., Or.inr second⟩
        · obtain ⟨pair, found, side⟩ := ih behind
          exact ⟨pair, List.mem_cons_of_mem _ found, side⟩

/-- Where the pairs of the longer list begin with those of the shorter one, so do the
nodes, but for the second node of a last pair. -/
theorem prefix_of_pairs (starts : pairs nodes <+: pairs others)
    (shorter : nodes.length ≤ others.length) : nodes <+: others := by
  rw [List.prefix_iff_getElem?]
  intro index inside
  have half : index / 2 < (pairs nodes).length := by
    rw [length_pairs]
    omega
  have image := List.prefix_iff_getElem?.mp starts (index / 2) half
  have own := getElem?_pairs nodes (index / 2)
  rw [List.getElem?_eq_getElem half, ← image, getElem?_pairs] at own
  rw [← List.getElem?_eq_getElem inside]
  have leftIn : 2 * (index / 2) < nodes.length := by omega
  have leftOther : 2 * (index / 2) < others.length := by omega
  rw [List.getElem?_eq_getElem leftIn, List.getElem?_eq_getElem leftOther, Option.map_some,
    Option.map_some, Option.some.injEq, Prod.mk.injEq] at own
  by_cases even : index % 2 = 0
  · have place : 2 * (index / 2) = index := by omega
    simp only [place] at own
    rw [List.getElem?_eq_getElem inside, List.getElem?_eq_getElem (Nat.lt_of_lt_of_le inside shorter)]
    exact congrArg some own.1
  · have place : 2 * (index / 2) + 1 = index := by omega
    have there := Nat.lt_of_lt_of_le inside shorter
    rw [place, List.getElem?_eq_getElem inside, List.getElem?_eq_getElem there] at own
    rw [List.getElem?_eq_getElem inside, List.getElem?_eq_getElem there]
    exact congrArg some own.2

theorem subset_of_pairs (only : ∀ pair ∈ pairs others, pair ∈ pairs nodes) :
    ∀ node ∈ others, node ∈ nodes := by
  intro node member
  obtain ⟨pair, found, side⟩ := exists_pair member
  obtain ⟨leftIn, rightIn⟩ := mem_of_mem_pairs (only pair found)
  rcases side with rfl | rfl
  · exact leftIn
  · exact rightIn

theorem Alike.of_pairs (repeats : Repeats (pairs nodes) (pairs others)) : Alike nodes others := by
  obtain ⟨starts, only⟩ := repeats
  by_cases shorter : nodes.length ≤ others.length
  · exact Or.inl ⟨prefix_of_pairs starts shorter, subset_of_pairs only⟩
  · have lengths := starts.length_le
    rw [length_pairs, length_pairs] at lengths
    have same : pairs nodes = pairs others :=
      starts.eq_of_length (by rw [length_pairs, length_pairs]; omega)
    have back : pairs others <+: pairs nodes := same ▸ List.prefix_refl _
    refine Or.inr ⟨prefix_of_pairs back (by omega), subset_of_pairs fun pair member => ?_⟩
    rwa [← same]

theorem Alike.of_level {hashed : Set (Node × Node)} (injective : Set.InjOn combine hashed)
    (left : ∀ pair ∈ pairs nodes, pair ∈ hashed) (right : ∀ pair ∈ pairs others, pair ∈ hashed)
    (alike : Alike (level combine nodes) (level combine others)) : Alike nodes others := by
  rcases alike with forth | back
  · exact Alike.of_pairs (Repeats.of_map injective left right forth)
  · exact (Alike.of_pairs (Repeats.of_map injective right left back)).symm

end Repeats

end PairTree
