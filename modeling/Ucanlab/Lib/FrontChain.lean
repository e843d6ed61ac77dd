import Mathlib.Data.List.Chain
import Mathlib.Data.List.Infix

/-!
The chain that a list begins with: as far as each item is related to the one behind it.
-/

universe u

namespace FrontChain

variable {Item : Type u} (related : Item → Item → Prop) [DecidableRel related]

def frontChain : List Item → Nat
  | [] => 0
  | [_] => 1
  | first :: second :: rest =>
      if related first second then frontChain (second :: rest) + 1 else 1

variable {related} {items chain : List Item} {item : Item}

theorem frontChain_cons :
    frontChain related (item :: items) =
      if ∀ next ∈ items.head?, related item next then frontChain related items + 1 else 1 := by
  cases items with
  | nil =>
      rw [if_pos (fun _ absent => by cases absent)]
      rfl
  | cons next rest =>
      have same : (∀ other ∈ (next :: rest).head?, related item other) ↔ related item next := by
        rw [List.head?_cons]
        exact ⟨fun all => all next rfl, fun holds _ member => Option.some.inj member ▸ holds⟩
      rw [show frontChain related (item :: next :: rest) =
        if related item next then frontChain related (next :: rest) + 1 else 1 from rfl]
      simp only [same]

theorem exists_frontChain (items : List Item) :
    ∃ chain, chain <+: items ∧ chain.IsChain related ∧ chain.length = frontChain related items := by
  induction items with
  | nil => exact ⟨[], List.prefix_rfl, .nil, rfl⟩
  | cons item rest ih =>
      rw [frontChain_cons]
      split
      next linked =>
        obtain ⟨chain, front, isChain, length⟩ := ih
        refine ⟨item :: chain, List.cons_prefix_cons.mpr ⟨rfl, front⟩, ?_, ?_⟩
        · refine List.isChain_cons.mpr ⟨fun next first => linked next ?_, isChain⟩
          obtain ⟨tail, rfl⟩ := front
          exact List.mem_head?_append_of_mem_head? first
        · rw [List.length_cons, length]
      next => exact ⟨[item], ⟨rest, rfl⟩, .singleton _, rfl⟩

theorem length_le_frontChain (front : chain <+: items) (isChain : chain.IsChain related) :
    chain.length ≤ frontChain related items := by
  induction chain generalizing items with
  | nil => exact Nat.zero_le _
  | cons item rest ih =>
      obtain ⟨tail, rfl⟩ := front
      obtain ⟨linked, chained⟩ := List.isChain_cons.mp isChain
      rw [List.cons_append, frontChain_cons]
      cases rest with
      | nil =>
          split
          · exact Nat.le_add_left _ _
          · exact Nat.le_refl _
      | cons next others =>
          have first : ∀ other ∈ (next :: others ++ tail).head?, related item other :=
            fun other member => linked other member
          rw [if_pos first, List.length_cons]
          exact Nat.succ_le_succ (ih ⟨tail, rfl⟩ chained)

theorem le_frontChain_iff {bound : Nat} :
    bound ≤ frontChain related items ↔
      ∃ chain, chain <+: items ∧ chain.IsChain related ∧ bound ≤ chain.length := by
  constructor
  · intro long
    have longest : ∃ chain, chain <+: items ∧ chain.IsChain related ∧
        chain.length = frontChain related items := exists_frontChain items
    obtain ⟨chain, front, isChain, length⟩ := longest
    exact ⟨chain, front, isChain, length ▸ long⟩
  · rintro ⟨chain, front, isChain, long⟩
    exact long.trans (length_le_frontChain front isChain)

end FrontChain
