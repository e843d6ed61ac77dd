import Ucanlab.Core.CanFrame
import Ucanlab.Lib.PairTree

/-!
The Merkle tree over the evidence records. The digest is a parameter; what is assumed of
it is that it tells apart the pairs that are hashed in the trees and paths at hand.
-/

namespace Ucanlab.Audit

open PairTree

inductive ProofError where
  | indexOutOfRange
  deriving DecidableEq, Repr

section Tree

variable (sha256 : Bytes → Bytes)

def hashPair (left right : Bytes) : Bytes := sha256 ([0x01] ++ left ++ right)

/-- The parents of one level; the last node of an odd level is its own right sibling. -/
def nextLevel (currentLevel : List Bytes) : List Bytes :=
  (List.range ((currentLevel.length + 1) / 2)).map (fun step =>
    let i := 2 * step
    let left := currentLevel.getD i []
    let right := if i + 1 < currentLevel.length then currentLevel.getD (i + 1) [] else left
    hashPair sha256 left right)

@[simp]
theorem length_nextLevel (currentLevel : List Bytes) :
    (nextLevel sha256 currentLevel).length = (currentLevel.length + 1) / 2 := by
  simp [nextLevel]

def rootOf (currentLevel : List Bytes) : Bytes :=
  if currentLevel.length > 1 then rootOf (nextLevel sha256 currentLevel)
  else currentLevel.getD 0 []
termination_by currentLevel.length
decreasing_by
  rw [length_nextLevel]
  omega

def computeRoot (leaves : List Bytes) : Bytes :=
  if leaves = [] then List.replicate 32 0 else rootOf sha256 leaves

/-- The siblings on the way up, each with the side it stands on (`true`: on the right). -/
def proofPath (currentLevel : List Bytes) (currIdx : Nat) : List (Bytes × Bool) :=
  if currentLevel.length > 1 then
    let step :=
      if currIdx % 2 = 0 then
        (if currIdx + 1 < currentLevel.length then currentLevel.getD (currIdx + 1) []
          else currentLevel.getD currIdx [], true)
      else (currentLevel.getD (currIdx - 1) [], false)
    step :: proofPath (nextLevel sha256 currentLevel) (currIdx / 2)
  else []
termination_by currentLevel.length
decreasing_by
  rw [length_nextLevel]
  omega

def generateProof (leaves : List Bytes) (index : Int) : Except ProofError (List (Bytes × Bool)) :=
  if 0 ≤ index ∧ index < leaves.length then .ok (proofPath sha256 leaves index.toNat)
  else .error .indexOutOfRange

def stepPair (current : Bytes) (step : Bytes × Bool) : Bytes × Bytes :=
  if step.2 then (current, step.1) else (step.1, current)

def pairHash (pair : Bytes × Bytes) : Bytes := hashPair sha256 pair.1 pair.2

def climb (leaf : Bytes) (proof : List (Bytes × Bool)) : Bytes :=
  proof.foldl (fun current step => pairHash sha256 (stepPair current step)) leaf

def verifyProof (leaf : Bytes) (proof : List (Bytes × Bool)) (root : Bytes) : Bool :=
  decide (climb sha256 leaf proof = root)

def hashedPairs (currentLevel : List Bytes) : List (Bytes × Bytes) :=
  if currentLevel.length > 1 then
    pairs currentLevel ++ hashedPairs (nextLevel sha256 currentLevel)
  else []
termination_by currentLevel.length
decreasing_by
  rw [length_nextLevel]
  omega

def verifiedPairs (leaf : Bytes) : List (Bytes × Bool) → List (Bytes × Bytes)
  | [] => []
  | step :: rest =>
      stepPair leaf step :: verifiedPairs (pairHash sha256 (stepPair leaf step)) rest

def CollisionFree (hashed : List (Bytes × Bytes)) : Prop :=
  Set.InjOn (pairHash sha256) { pair | pair ∈ hashed }

end Tree

variable {sha256 : Bytes → Bytes}

theorem CollisionFree.subset {hashed fewer : List (Bytes × Bytes)}
    (free : CollisionFree sha256 hashed) (part : ∀ pair ∈ fewer, pair ∈ hashed) :
    CollisionFree sha256 fewer :=
  Set.InjOn.mono part free

theorem nextLevel_eq (currentLevel : List Bytes) :
    nextLevel sha256 currentLevel = level (pairHash sha256) currentLevel := by
  refine List.ext_getElem? fun index => ?_
  rw [getElem?_level]
  by_cases inside : index < (currentLevel.length + 1) / 2
  · have left : 2 * index < currentLevel.length := by omega
    simp only [nextLevel, List.getElem?_map, List.getElem?_range inside, Option.map_some,
      List.getElem?_eq_getElem left, List.getD_eq_getElem?_getD, Option.getD_some, pairHash]
    by_cases right : 2 * index + 1 < currentLevel.length
    · rw [if_pos right, List.getElem?_eq_getElem right, Option.getD_some, Option.getD_some]
    · rw [if_neg right, List.getElem?_eq_none (Nat.le_of_not_lt right), Option.getD_none]
  · have outside : currentLevel.length ≤ 2 * index := by omega
    rw [List.getElem?_eq_none outside, Option.map_none, List.getElem?_eq_none]
    rw [length_nextLevel]
    omega

theorem rootOf_below {currentLevel : List Bytes} (more : 1 < currentLevel.length) :
    rootOf sha256 currentLevel = rootOf sha256 (level (pairHash sha256) currentLevel) := by
  rw [rootOf, if_pos more, nextLevel_eq]

theorem rootOf_top {currentLevel : List Bytes} (few : currentLevel.length ≤ 1) :
    rootOf sha256 currentLevel = currentLevel.getD 0 [] := by
  rw [rootOf, if_neg (Nat.not_lt.mpr few)]

theorem hashedPairs_below {currentLevel : List Bytes} (more : 1 < currentLevel.length) :
    hashedPairs sha256 currentLevel =
      pairs currentLevel ++ hashedPairs sha256 (level (pairHash sha256) currentLevel) := by
  rw [hashedPairs, if_pos more, nextLevel_eq]

theorem proofPath_top {currentLevel : List Bytes} (few : currentLevel.length ≤ 1) (index : Nat) :
    proofPath sha256 currentLevel index = [] := by
  rw [proofPath, if_neg (Nat.not_lt.mpr few)]

def siblingStep (currentLevel : List Bytes) (index : Nat) : Bytes × Bool :=
  if index % 2 = 0 then
    (currentLevel[index + 1]?.getD (currentLevel.getD index []), true)
  else (currentLevel.getD (index - 1) [], false)

theorem proofPath_below {currentLevel : List Bytes} (more : 1 < currentLevel.length) (index : Nat) :
    proofPath sha256 currentLevel index =
      siblingStep currentLevel index ::
        proofPath sha256 (level (pairHash sha256) currentLevel) (index / 2) := by
  rw [proofPath, if_pos more, nextLevel_eq]
  unfold siblingStep
  by_cases even : index % 2 = 0
  · rw [if_pos even, if_pos even]
    by_cases right : index + 1 < currentLevel.length
    · rw [if_pos right, List.getD_eq_getElem?_getD, List.getElem?_eq_getElem right, Option.getD_some,
        Option.getD_some]
    · rw [if_neg right, List.getElem?_eq_none (Nat.le_of_not_lt right), Option.getD_none]
  · rw [if_neg even, if_neg even]

theorem getElem?_pairs_stepPair {currentLevel : List Bytes} {index : Nat} {leaf : Bytes}
    (here : currentLevel[index]? = some leaf) :
    (pairs currentLevel)[index / 2]? = some (stepPair leaf (siblingStep currentLevel index)) := by
  rw [getElem?_pairs]
  unfold siblingStep stepPair
  by_cases even : index % 2 = 0
  · have place : 2 * (index / 2) = index := by omega
    rw [if_pos even, place, here, List.getD_eq_getElem?_getD, here]
    rfl
  · have place : 2 * (index / 2) = index - 1 := by omega
    have next : index - 1 + 1 = index := by omega
    have inside := (List.getElem?_eq_some_iff.mp here).1
    have before : index - 1 < currentLevel.length := by omega
    rw [if_neg even, place, next, here, List.getD_eq_getElem?_getD, List.getElem?_eq_getElem before]
    rfl

theorem getElem?_level_stepPair {currentLevel : List Bytes} {index : Nat} {leaf : Bytes}
    (here : currentLevel[index]? = some leaf) :
    (level (pairHash sha256) currentLevel)[index / 2]? =
      some (pairHash sha256 (stepPair leaf (siblingStep currentLevel index))) := by
  unfold level
  rw [List.getElem?_map, getElem?_pairs_stepPair here]
  rfl

theorem climb_proofPath (currentLevel : List Bytes) {index : Nat} {leaf : Bytes}
    (here : currentLevel[index]? = some leaf) :
    climb sha256 leaf (proofPath sha256 currentLevel index) = rootOf sha256 currentLevel := by
  induction currentLevel using level_induction (pairHash sha256) generalizing index leaf with
  | top nodes few =>
      have inside := (List.getElem?_eq_some_iff.mp here).1
      have first : index = 0 := by omega
      subst first
      rw [proofPath_top few, rootOf_top few, List.getD_eq_getElem?_getD, here]
      rfl
  | below nodes more ih =>
      rw [proofPath_below more, rootOf_below more]
      exact ih (getElem?_level_stepPair here)

theorem leaf_of_climb (currentLevel : List Bytes) {index : Nat} {leaf value : Bytes}
    {proof : List (Bytes × Bool)} (here : currentLevel[index]? = some leaf)
    (shape : proof.map Prod.snd = (proofPath sha256 currentLevel index).map Prod.snd)
    (free : CollisionFree sha256 (verifiedPairs sha256 value proof ++ hashedPairs sha256 currentLevel))
    (reaches : climb sha256 value proof = rootOf sha256 currentLevel) :
    value = leaf ∧ proof = proofPath sha256 currentLevel index := by
  induction currentLevel using level_induction (pairHash sha256)
    generalizing index leaf value proof with
  | top nodes few =>
      rw [proofPath_top few] at shape ⊢
      have empty : proof = [] := List.map_eq_nil_iff.mp shape
      subst empty
      have inside := (List.getElem?_eq_some_iff.mp here).1
      have first : index = 0 := by omega
      subst first
      rw [rootOf_top few, List.getD_eq_getElem?_getD, here] at reaches
      exact ⟨reaches, rfl⟩
  | below nodes more ih =>
      rw [proofPath_below more] at shape ⊢
      rw [rootOf_below more] at reaches
      rw [hashedPairs_below more] at free
      obtain ⟨step, rest, rfl, side, sides⟩ := List.map_eq_cons_iff.mp shape
      have above := ih (getElem?_level_stepPair here) sides
        (free.subset fun pair member => by
          rcases List.mem_append.mp member with front | back
          · exact List.mem_append_left _ (List.mem_cons_of_mem _ front)
          · exact List.mem_append_right _ (List.mem_append_right _ back)) reaches
      have samePair : stepPair value step = stepPair leaf (siblingStep nodes index) :=
        free (List.mem_append_left _ (List.mem_cons_self ..))
          (List.mem_append_right _ (List.mem_append_left _
            (List.mem_of_getElem? (getElem?_pairs_stepPair here)))) above.1
      obtain ⟨sibling, right⟩ := step
      unfold stepPair at samePair
      dsimp only at side samePair
      rw [side] at samePair
      cases onRight : (siblingStep nodes index).2 with
      | true =>
          rw [onRight] at samePair side
          obtain ⟨sameValue, sameSibling⟩ := Prod.mk.inj samePair
          refine ⟨sameValue, ?_⟩
          rw [above.2, sameSibling, side, ← onRight]
      | false =>
          rw [onRight] at samePair side
          obtain ⟨sameSibling, sameValue⟩ := Prod.mk.inj samePair
          refine ⟨sameValue, ?_⟩
          rw [above.2, sameSibling, side, ← onRight]

theorem computeRoot_eq {leaves : List Bytes} (some : leaves ≠ []) :
    computeRoot sha256 leaves = rootOf sha256 leaves := if_neg some

/-- The proof of every leaf verifies, and where no two different pairs that the tree and a
proof of this shape hash have one hash, nothing else verifies at the index. -/
theorem generateProof_complete_sound (sha256 : Bytes → Bytes) {leaves : List Bytes} {index : Nat}
    {leaf : Bytes} (here : leaves[index]? = some leaf) :
    ∃ proof, generateProof sha256 leaves index = .ok proof ∧
      verifyProof sha256 leaf proof (computeRoot sha256 leaves) = true ∧
      ∀ value other, other.map Prod.snd = proof.map Prod.snd →
        CollisionFree sha256 (verifiedPairs sha256 value other ++ hashedPairs sha256 leaves) →
        verifyProof sha256 value other (computeRoot sha256 leaves) = true →
          value = leaf ∧ other = proof := by
  have inside := (List.getElem?_eq_some_iff.mp here).1
  have nonempty : leaves ≠ [] := List.ne_nil_of_length_pos (by omega)
  refine ⟨proofPath sha256 leaves index, ?_, ?_, ?_⟩
  · unfold generateProof
    rw [if_pos (by omega)]
    rfl
  · rw [computeRoot_eq nonempty]
    exact decide_eq_true (climb_proofPath leaves here)
  · intro value other shape free verified
    rw [computeRoot_eq nonempty] at verified
    exact leaf_of_climb leaves here shape free (of_decide_eq_true verified)

def threeLeaves : List Bytes := [[1], [2], [3]]

def lastPath : List (Bytes × Bool) := [([3], true), ([1, 1, 2], false)]

theorem generateProof_complete_sound_threeLeaves :
    ∃ proof, generateProof id threeLeaves 2 = .ok proof ∧
      verifyProof id [3] proof (computeRoot id threeLeaves) = true ∧ lastPath = proof := by
  obtain ⟨proof, generated, verified, sound⟩ :=
    @generateProof_complete_sound id threeLeaves 2 [3] rfl
  have path : proofPath id threeLeaves 2 = lastPath := by
    simp [proofPath, nextLevel, threeLeaves, lastPath, hashPair, List.range_succ]
  have same : proof = lastPath := by
    rw [← path]
    exact (Except.ok.inj generated).symm
  subst same
  refine ⟨lastPath, generated, verified, (sound [3] lastPath rfl ?_ verified).2⟩
  simp [CollisionFree, Set.InjOn, verifiedPairs, lastPath, threeLeaves, hashedPairs, nextLevel, pairs,
    stepPair, pairHash, hashPair, List.range_succ]

section Binding

variable {xs ys : List Bytes}

/-- The levels of the tree from the leaves to the root. -/
def levels (sha256 : Bytes → Bytes) (currentLevel : List Bytes) : List (List Bytes) :=
  currentLevel ::
    if currentLevel.length > 1 then levels sha256 (nextLevel sha256 currentLevel) else []
termination_by currentLevel.length
decreasing_by
  rw [length_nextLevel]
  omega

theorem levels_below {currentLevel : List Bytes} (more : 1 < currentLevel.length) :
    levels sha256 currentLevel =
      currentLevel :: levels sha256 (level (pairHash sha256) currentLevel) := by
  rw [levels, if_pos more, nextLevel_eq]

theorem levels_top {currentLevel : List Bytes} (few : currentLevel.length ≤ 1) :
    levels sha256 currentLevel = [currentLevel] := by
  rw [levels, if_neg (Nat.not_lt.mpr few)]

theorem self_mem_levels (currentLevel : List Bytes) : currentLevel ∈ levels sha256 currentLevel := by
  rw [levels]
  exact List.mem_cons_self ..

theorem mem_levels_cases {currentLevel upper : List Bytes}
    (member : upper ∈ levels sha256 currentLevel) :
    upper = currentLevel ∨ ∃ lower ∈ levels sha256 currentLevel,
      1 < lower.length ∧ upper = level (pairHash sha256) lower := by
  induction currentLevel using level_induction (pairHash sha256) with
  | top nodes few =>
      rw [levels_top few, List.mem_singleton] at member
      exact Or.inl member
  | below nodes more ih =>
      rw [levels_below more] at member ⊢
      rcases List.mem_cons.mp member with leaves | above
      · exact Or.inl leaves
      · rcases ih above with first | ⟨lower, found, two, next⟩
        · exact Or.inr ⟨nodes, List.mem_cons_self .., more, first⟩
        · exact Or.inr ⟨lower, List.mem_cons_of_mem _ found, two, next⟩

theorem pairs_subset_hashedPairs {currentLevel lower : List Bytes}
    (member : lower ∈ levels sha256 currentLevel) (two : 1 < lower.length) :
    ∀ pair ∈ pairs lower, pair ∈ hashedPairs sha256 currentLevel := by
  induction currentLevel using level_induction (pairHash sha256) with
  | top nodes few =>
      rw [levels_top few, List.mem_singleton] at member
      subst member
      omega
  | below nodes more ih =>
      rw [levels_below more] at member
      rw [hashedPairs_below more]
      intro pair paired
      rcases List.mem_cons.mp member with rfl | above
      · exact List.mem_append_left _ paired
      · exact List.mem_append_right _ (ih above pair paired)

theorem root_mem_levels {currentLevel : List Bytes} (some : currentLevel ≠ []) :
    [rootOf sha256 currentLevel] ∈ levels sha256 currentLevel := by
  induction currentLevel using level_induction (pairHash sha256) with
  | top nodes few =>
      have one : nodes.length = 1 := by
        have positive := List.length_pos_iff.mpr some
        omega
      obtain ⟨root, rfl⟩ := List.length_eq_one_iff.mp one
      rw [rootOf_top few, levels_top few]
      exact List.mem_singleton_self _
  | below nodes more ih =>
      rw [levels_below more, rootOf_below more]
      exact List.mem_cons_of_mem _ (ih (level_ne_nil some))

theorem rootOf_cases {currentLevel : List Bytes} (some : currentLevel ≠ []) :
    rootOf sha256 currentLevel ∈ currentLevel ∨
      ∃ pair ∈ hashedPairs sha256 currentLevel, rootOf sha256 currentLevel = pairHash sha256 pair := by
  have inTop := List.mem_singleton_self (rootOf sha256 currentLevel)
  have top : [rootOf sha256 currentLevel] ∈ levels sha256 currentLevel := root_mem_levels some
  rcases mem_levels_cases top with leaves | ⟨lower, found, two, next⟩
  · exact Or.inl (by rwa [leaves] at inTop)
  · have member : rootOf sha256 currentLevel ∈ level (pairHash sha256) lower := by
      rwa [next] at inTop
    obtain ⟨pair, paired, equal⟩ := List.mem_map.mp member
    exact Or.inr ⟨pair, pairs_subset_hashedPairs found two pair paired, equal.symm⟩

theorem eq_of_rootOf (sameLength : xs.length = ys.length)
    (free : CollisionFree sha256 (hashedPairs sha256 xs ++ hashedPairs sha256 ys))
    (same : rootOf sha256 xs = rootOf sha256 ys) : xs = ys := by
  induction xs using level_induction (pairHash sha256) generalizing ys with
  | top nodes few =>
      rw [rootOf_top few, rootOf_top (sameLength ▸ few)] at same
      match nodes, ys, sameLength with
      | [], [], _ => rfl
      | [leaf], [other], _ => exact congrArg (fun value => [value]) same
      | _ :: _ :: _, _, _ => simp at few
  | below nodes more ih =>
      have moreOther : 1 < ys.length := sameLength ▸ more
      rw [rootOf_below more, rootOf_below moreOther] at same
      rw [hashedPairs_below more, hashedPairs_below moreOther] at free
      have above := ih (by rw [length_level, length_level, sameLength])
        (free.subset fun pair member => by
          rcases List.mem_append.mp member with front | back
          · exact List.mem_append_left _ (List.mem_append_right _ front)
          · exact List.mem_append_right _ (List.mem_append_right _ back)) same
      exact level_injective sameLength free
        (fun pair member => List.mem_append_left _ (List.mem_append_left _ member))
        (fun pair member => List.mem_append_right _ (List.mem_append_left _ member)) above

theorem alike_of_rootOf (someLeft : xs ≠ []) (someRight : ys ≠ [])
    (free : CollisionFree sha256 (hashedPairs sha256 xs ++ hashedPairs sha256 ys))
    (same : rootOf sha256 xs = rootOf sha256 ys) :
    (∃ row ∈ levels sha256 ys, Alike xs row) ∨ (∃ row ∈ levels sha256 xs, Alike row ys) := by
  induction xs using level_induction (pairHash sha256) with
  | top nodes few =>
      have one : nodes.length = 1 := by
        have positive := List.length_pos_iff.mpr someLeft
        omega
      obtain ⟨root, rfl⟩ := List.length_eq_one_iff.mp one
      rw [rootOf_top few] at same
      refine Or.inl ⟨[rootOf sha256 ys], root_mem_levels someRight, ?_⟩
      rw [← same]
      exact Or.inl (Repeats.refl _)
  | below nodes more ih =>
      rw [rootOf_below more] at same
      have whole := free
      rw [hashedPairs_below more] at free
      have above := ih (level_ne_nil someLeft)
        (free.subset fun pair member => by
          rcases List.mem_append.mp member with front | back
          · exact List.mem_append_left _ (List.mem_append_right _ front)
          · exact List.mem_append_right _ back) same
      rw [levels_below more]
      rcases above with ⟨row, member, alike⟩ | ⟨row, member, alike⟩
      · rcases mem_levels_cases member with rfl | ⟨lower, found, two, rfl⟩
        · exact Or.inr ⟨level (pairHash sha256) nodes,
            List.mem_cons_of_mem _ (self_mem_levels _), alike⟩
        · refine Or.inl ⟨lower, found, Alike.of_level whole ?_ ?_ alike⟩
          · intro pair paired
            exact List.mem_append_left _ (pairs_subset_hashedPairs (self_mem_levels _) more pair paired)
          · intro pair paired
            exact List.mem_append_right _ (pairs_subset_hashedPairs found two pair paired)
      · exact Or.inr ⟨row, List.mem_cons_of_mem _ member, alike⟩

structure Separated (sha256 : Bytes → Bytes) (xs ys : List Bytes) : Prop where
  leaf : ∀ leaf ∈ xs ++ ys, ∀ pair ∈ hashedPairs sha256 xs ++ hashedPairs sha256 ys,
    leaf ≠ pairHash sha256 pair
  emptyLeaf : List.replicate 32 0 ∉ xs ++ ys
  emptyNode : ∀ pair ∈ hashedPairs sha256 xs ++ hashedPairs sha256 ys,
    pairHash sha256 pair ≠ List.replicate 32 0

theorem Separated.symm (separated : Separated sha256 xs ys) : Separated sha256 ys xs where
  leaf leaf leafIn pair pairIn :=
    separated.leaf leaf (List.mem_append.mpr (List.mem_append.mp leafIn).symm) pair
      (List.mem_append.mpr (List.mem_append.mp pairIn).symm)
  emptyLeaf member := separated.emptyLeaf (List.mem_append.mpr (List.mem_append.mp member).symm)
  emptyNode pair pairIn :=
    separated.emptyNode pair (List.mem_append.mpr (List.mem_append.mp pairIn).symm)

theorem Separated.eq_nil (separated : Separated sha256 xs ys)
    (empty : computeRoot sha256 xs = List.replicate 32 0) : xs = [] := by
  by_contra some
  rw [computeRoot_eq some] at empty
  rcases @rootOf_cases sha256 xs some with leaf | ⟨pair, hashed, equal⟩
  · rw [empty] at leaf
    exact separated.emptyLeaf (List.mem_append_left _ leaf)
  · exact separated.emptyNode pair (List.mem_append_left _ hashed) (equal ▸ empty)

/-- The leaves of one tree are not the inner nodes of the other. -/
theorem Separated.not_above (separated : Separated sha256 xs ys) {row : List Bytes} (some : xs ≠ [])
    (member : row ∈ levels sha256 ys) (alike : Alike xs row) : row = ys := by
  rcases mem_levels_cases member with leaves | ⟨lower, found, two, rfl⟩
  · exact leaves
  · obtain ⟨leaf, first⟩ := List.exists_mem_of_ne_nil xs some
    have shared : leaf ∈ level (pairHash sha256) lower := by
      rcases alike with ⟨starts, _⟩ | ⟨_, only⟩
      · exact starts.subset first
      · exact only leaf first
    obtain ⟨pair, paired, equal⟩ := List.mem_map.mp shared
    exact absurd equal.symm (separated.leaf leaf (List.mem_append_left _ first) pair
      (List.mem_append_right _ (pairs_subset_hashedPairs found two pair paired)))

/-- Lists of one length are bound by the root; of two lists of different lengths the
longer one only repeats values of the shorter one, which it begins with. -/
theorem computeRoot_binds (sha256 : Bytes → Bytes) (xs ys : List Bytes)
    (free : CollisionFree sha256 (hashedPairs sha256 xs ++ hashedPairs sha256 ys))
    (same : computeRoot sha256 xs = computeRoot sha256 ys) :
    (xs.length = ys.length → xs = ys) ∧
      (Separated sha256 xs ys → Alike xs ys ∧ (xs.Nodup → ys.Nodup → xs = ys)) := by
  constructor
  · intro sameLength
    by_cases empty : xs = []
    · subst empty
      exact (List.eq_nil_of_length_eq_zero sameLength.symm).symm
    · have someRight : ys ≠ [] := by
        rintro rfl
        exact empty (List.eq_nil_of_length_eq_zero sameLength)
      rw [computeRoot_eq empty, computeRoot_eq someRight] at same
      exact eq_of_rootOf sameLength free same
  · intro separated
    have alike : Alike xs ys := by
      by_cases empty : xs = []
      · subst empty
        have other : ys = [] := separated.symm.eq_nil same.symm
        subst other
        exact Or.inl (Repeats.refl _)
      · by_cases emptyRight : ys = []
        · subst emptyRight
          exact absurd (separated.eq_nil same) empty
        · rw [computeRoot_eq empty, computeRoot_eq emptyRight] at same
          rcases alike_of_rootOf empty emptyRight free same with
            ⟨row, member, alike⟩ | ⟨row, member, alike⟩
          · rw [← separated.not_above empty member alike]
            exact alike
          · rw [← separated.symm.not_above emptyRight member alike.symm]
            exact alike
    refine ⟨alike, fun distinctLeft distinctRight => ?_⟩
    rcases alike with forth | back
    · exact forth.eq_of_nodup distinctRight
    · exact (back.eq_of_nodup distinctLeft).symm

/-- The last leaf once more, as the rule for an odd level takes it. -/
def repeatedLeaves : List Bytes := [[1], [2], [3], [3]]

theorem collisionFree_repeatedLeaves :
    CollisionFree id (hashedPairs id threeLeaves ++ hashedPairs id repeatedLeaves) := by
  simp [CollisionFree, Set.InjOn, threeLeaves, repeatedLeaves, hashedPairs, nextLevel, pairs,
    pairHash, hashPair, List.range_succ]

theorem computeRoot_repeatedLeaves : computeRoot id threeLeaves = computeRoot id repeatedLeaves := by
  simp [computeRoot, rootOf, threeLeaves, repeatedLeaves, nextLevel, hashPair, List.range_succ]

theorem computeRoot_binds_repeatedLeaves : Alike threeLeaves repeatedLeaves := by
  have binds := computeRoot_binds id threeLeaves repeatedLeaves collisionFree_repeatedLeaves
    computeRoot_repeatedLeaves
  refine (binds.2 ⟨?_, ?_, ?_⟩).1
  all_goals
    simp [threeLeaves, repeatedLeaves, hashedPairs, nextLevel, pairs, pairHash, hashPair,
      List.range_succ, List.replicate]

/-- A repeated last leaf and an inner node in place of its leaves keep the root. -/
theorem root_shared_by_different_leaves :
    (CollisionFree id (hashedPairs id threeLeaves ++ hashedPairs id repeatedLeaves) ∧
      computeRoot id threeLeaves = computeRoot id repeatedLeaves ∧ threeLeaves ≠ repeatedLeaves) ∧
    (CollisionFree id (hashedPairs id [[1, 7, 8]] ++ hashedPairs id [[7], [8]]) ∧
      computeRoot id [[1, 7, 8]] = computeRoot id [[7], [8]] ∧
      ([[1, 7, 8]] : List Bytes) ≠ [[7], [8]]) := by
  refine ⟨⟨collisionFree_repeatedLeaves, computeRoot_repeatedLeaves, by decide⟩, ?_, ?_, by decide⟩
  · simp [CollisionFree, Set.InjOn, hashedPairs, nextLevel, pairs, List.range_succ]
  · simp [computeRoot, rootOf, nextLevel, hashPair, List.range_succ]

end Binding

end Ucanlab.Audit
