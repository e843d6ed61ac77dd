import Ucanlab.Uds.Firmware

/-!
An image as one block of bytes: the gaps between its segments are filled, and both the whole span
and each gap have a limit.
-/

namespace Ucanlab.Uds

open Ucanlab

inductive FlattenError where
  | span (span : Nat) (limit : Int)
  | gap (gap currAddr : Nat) (limit : Int)
  deriving DecidableEq, Repr

namespace FirmwareContainer

def minAddress (container : FirmwareContainer) : Nat :=
  match container.segments.map MemorySegment.address with
  | [] => 0
  | first :: rest => rest.foldl min first

def maxAddress (container : FirmwareContainer) : Nat :=
  (container.segments.map MemorySegment.endAddress).foldl max 0

/-- The segments in order, with the gaps between them filled. -/
def fillSegments (fillByte : UInt8) (gapLimit : Int) (currAddr : Nat) :
    List MemorySegment → Except FlattenError Bytes
  | [] => .ok []
  | seg :: rest =>
      let gap := seg.address - currAddr
      if seg.address > currAddr ∧ gap > gapLimit then .error (.gap gap currAddr gapLimit)
      else
        match fillSegments fillByte gapLimit seg.endAddress rest with
        | .error error => .error error
        | .ok later => .ok (List.replicate gap fillByte ++ seg.data ++ later)

def getContinuousBinary (container : FirmwareContainer) (fillByte : Int)
    (maxSpan maxGap : Option Int) : Except FlattenError (Nat × Bytes) :=
  let spanLimit := maxSpan.getD defaultFirmwareLimits.maxAddressSpan
  let gapLimit := maxGap.getD defaultFirmwareLimits.maxGap
  let sortedSegs := container.segments.insertionSort
    (fun left right => left.address ≤ right.address)
  match sortedSegs, sortedSegs.getLast? with
  | first :: _, some last =>
      let span := last.endAddress - first.address
      if span > spanLimit then .error (.span span spanLimit)
      else
        match fillSegments (UInt8.ofInt fillByte) gapLimit first.address sortedSegs with
        | .error error => .error error
        | .ok binary => .ok (first.address, binary)
  | _, _ => .ok (0, [])

end FirmwareContainer

open Placement

structure Fills (chunks : Placement UInt8) (fillByte : UInt8) (base : Nat) (binary : Bytes) :
    Prop where
  value : ∀ address value, Places chunks address value →
    base ≤ address ∧ binary[address - base]? = some value
  filling : ∀ index, index < binary.length → (∀ value, ¬ Places chunks (base + index) value) →
    binary[index]? = some fillByte

def GapsWithin (limit : Int) (segments : List MemorySegment) : Prop :=
  segments.IsChain (fun left right =>
    left.endAddress < right.address → (right.address - left.endAddress : Nat) ≤ limit)

namespace FirmwareContainer

variable {fillByte : UInt8} {gapLimit : Int} {currAddr : Nat} {segments rest : List MemorySegment}
  {binary : Bytes}

theorem block_getElem? (gap index : Nat) (data later : Bytes) :
    (List.replicate gap fillByte ++ data ++ later)[index]? =
      if index < gap then some fillByte
      else if index < gap + data.length then data[index - gap]?
      else later[index - (gap + data.length)]? := by
  rw [List.getElem?_append, List.length_append, List.length_replicate, List.getElem?_append,
    List.length_replicate, List.getElem?_replicate]
  by_cases before : index < gap
  · rw [if_pos (Nat.lt_add_right _ before), if_pos before, if_pos before, if_pos before]
  · rw [if_neg before, if_neg before]

theorem fillSegments_fills (ok : fillSegments fillByte gapLimit currAddr segments = .ok binary)
    (spaced : Spaced (segments.map MemorySegment.chunk))
    (ahead : ∀ segment ∈ segments, currAddr ≤ segment.address) :
    Fills (segments.map MemorySegment.chunk) fillByte currAddr binary := by
  induction segments generalizing currAddr binary with
  | nil =>
      cases ok
      exact ⟨fun _ _ placed => absurd placed not_places_nil, fun _ inside => absurd inside (by simp)⟩
  | cons segment rest ih =>
      unfold fillSegments at ok
      dsimp only at ok
      split at ok
      · cases ok
      · split at ok
        · cases ok
        · rename_i later filled
          cases ok
          have first := ahead segment List.mem_cons_self
          have behind {address : Nat} {value : UInt8}
              (placed : Places (rest.map MemorySegment.chunk) address value) :
              segment.address + segment.data.length ≤ address := Spaced.behind spaced placed
          have next := ih filled (List.pairwise_cons.mp spaced).2 (by
            intro other member
            exact (List.pairwise_cons.mp spaced).1 _ (List.mem_map_of_mem member))
          change Fills ((segment.address, segment.data) :: rest.map MemorySegment.chunk) _ _ _
          unfold MemorySegment.endAddress at next
          constructor
          · intro address value placed
            rw [block_getElem?]
            rcases places_cons.mp placed with ⟨index, same, found⟩ | placed
            · obtain ⟨inside, _⟩ := List.getElem?_eq_some_iff.mp found
              rw [if_neg (by omega), if_pos (by omega),
                show address - currAddr - (segment.address - currAddr) = index by omega]
              exact ⟨by omega, found⟩
            · have clear := behind placed
              obtain ⟨_, found⟩ := next.value address value placed
              rw [if_neg (by omega), if_neg (by omega),
                show address - currAddr - (segment.address - currAddr + segment.data.length) =
                  address - (segment.address + segment.data.length) by omega]
              exact ⟨by omega, found⟩
          · intro index inside vacant
            rw [List.length_append, List.length_append, List.length_replicate] at inside
            rw [block_getElem?]
            by_cases before : index < segment.address - currAddr
            · exact if_pos before
            · by_cases within : index < segment.address - currAddr + segment.data.length
              · exfalso
                refine vacant _ (places_cons.mpr (Or.inl ⟨index - (segment.address - currAddr),
                  by omega, List.getElem?_eq_getElem (by omega)⟩))
              · rw [if_neg before, if_neg within]
                refine next.filling _ (by omega) ?_
                intro value placed
                refine vacant value (places_cons.mpr (Or.inr ?_))
                rw [show currAddr + index = segment.address + segment.data.length +
                  (index - (segment.address - currAddr + segment.data.length)) by omega]
                exact placed

theorem fillSegments_length (ok : fillSegments fillByte gapLimit currAddr segments = .ok binary)
    (spaced : Spaced (segments.map MemorySegment.chunk))
    (ahead : ∀ segment ∈ segments, currAddr ≤ segment.address) :
    currAddr + binary.length =
      (segments.getLast?.map MemorySegment.endAddress).getD currAddr := by
  induction segments generalizing currAddr binary with
  | nil =>
      cases ok
      rfl
  | cons segment rest ih =>
      unfold fillSegments at ok
      dsimp only at ok
      split at ok
      · cases ok
      · split at ok
        · cases ok
        · rename_i later filled
          cases ok
          have first := ahead segment List.mem_cons_self
          have next := ih filled (List.pairwise_cons.mp spaced).2 (by
            intro other member
            exact (List.pairwise_cons.mp spaced).1 _ (List.mem_map_of_mem member))
          rw [List.length_append, List.length_append, List.length_replicate, List.getLast?_cons]
          unfold MemorySegment.endAddress at next ⊢
          cases last : rest.getLast? with
          | none =>
              rw [last] at next
              change segment.address + segment.data.length + later.length =
                segment.address + segment.data.length at next
              change _ = segment.address + segment.data.length
              omega
          | some final =>
              rw [last] at next
              change segment.address + segment.data.length + later.length =
                final.address + final.data.length at next
              change _ = final.address + final.data.length
              omega

/-- Only a gap that is too wide fails. -/
theorem fillSegments_ok_iff :
    (∃ binary, fillSegments fillByte gapLimit currAddr segments = .ok binary) ↔
      (∀ first ∈ segments.head?, currAddr < first.address →
        (first.address - currAddr : Nat) ≤ gapLimit) ∧ GapsWithin gapLimit segments := by
  induction segments generalizing currAddr with
  | nil => exact ⟨fun _ => ⟨nofun, List.IsChain.nil⟩, fun _ => ⟨[], rfl⟩⟩
  | cons segment rest ih =>
      have next := @ih segment.endAddress
      unfold GapsWithin at next ⊢
      rw [List.isChain_cons, ← next]
      conv_lhs => unfold fillSegments
      dsimp only
      split
      · rename_i wide
        constructor
        · rintro ⟨_, raised⟩
          cases raised
        · rintro ⟨first, _⟩
          have narrow := first segment rfl wide.1
          exact absurd wide.2 (Int.not_lt.mpr narrow)
      · rename_i narrow
        have first : ∀ first ∈ (segment :: rest).head?, currAddr < first.address →
            (first.address - currAddr : Nat) ≤ gapLimit := by
          intro first member ahead
          cases member
          exact Int.not_lt.mp (fun wide => narrow ⟨ahead, wide⟩)
        split
        · rename_i error failed
          constructor
          · rintro ⟨_, raised⟩
            cases raised
          · rintro ⟨_, _, done⟩
            rw [failed] at done
            cases done
        · rename_i later done
          exact ⟨fun _ => ⟨first, later, done⟩, fun _ => ⟨_, rfl⟩⟩

section Ordered

variable {container : FirmwareContainer} {maxSpan maxGap : Option Int} {fill : Int} {base : Nat}

theorem foldl_max_le_iff (values : List Nat) (highest limit : Nat) :
    values.foldl max highest ≤ limit ↔ highest ≤ limit ∧ ∀ value ∈ values, value ≤ limit := by
  induction values generalizing highest with
  | nil => exact ⟨fun bound => ⟨bound, nofun⟩, And.left⟩
  | cons value values ih =>
      rw [List.foldl_cons, ih, List.forall_mem_cons, Nat.max_le, and_assoc]

theorem foldl_min_eq (values : List Nat) (lowest : Nat) (least : ∀ value ∈ values, lowest ≤ value) :
    values.foldl min lowest = lowest := by
  induction values with
  | nil => rfl
  | cons value values ih =>
      rw [List.foldl_cons, Nat.min_eq_left (least value List.mem_cons_self)]
      exact ih (fun other member => least other (List.mem_cons_of_mem _ member))

theorem sorted_of_spaced (spaced : Spaced (segments.map MemorySegment.chunk)) :
    segments.insertionSort (fun left right => left.address ≤ right.address) = segments := by
  apply List.Pairwise.insertionSort_eq
  refine (List.pairwise_map.mp spaced).imp ?_
  intro left right apart
  exact Nat.le_trans (Nat.le_add_right _ _) apart

theorem minAddress_of_spaced {first : MemorySegment}
    (spaced : Spaced ((first :: rest).map MemorySegment.chunk)) (shape : container.segments = first :: rest) :
    container.minAddress = first.address := by
  unfold minAddress
  rw [shape]
  apply foldl_min_eq
  intro value member
  obtain ⟨segment, within, same⟩ := List.mem_map.mp member
  rw [← same]
  exact Nat.le_trans (Nat.le_add_right _ _)
    ((List.pairwise_cons.mp spaced).1 _ (List.mem_map_of_mem within))

theorem maxAddress_of_spaced {last : MemorySegment}
    (spaced : Spaced (container.segments.map MemorySegment.chunk))
    (final : container.segments.getLast? = some last) :
    container.maxAddress = last.endAddress := by
  obtain ⟨front, shape⟩ := List.getLast?_eq_some_iff.mp final
  unfold maxAddress
  rw [shape] at spaced ⊢
  rw [List.map_append] at spaced ⊢
  obtain ⟨_, _, apart⟩ := List.pairwise_append.mp spaced
  apply Nat.le_antisymm
  · refine (foldl_max_le_iff _ _ _).mpr ⟨Nat.zero_le _, ?_⟩
    intro value member
    rcases List.mem_append.mp member with earlier | here
    · obtain ⟨segment, within, same⟩ := List.mem_map.mp earlier
      rw [← same]
      have clear := apart _ (List.mem_map_of_mem within) last.chunk List.mem_cons_self
      exact Nat.le_trans clear (Nat.le_add_right _ _)
    · rw [List.mem_singleton.mp here]
  · have bounds := (foldl_max_le_iff
      (front.map MemorySegment.endAddress ++ [last].map MemorySegment.endAddress) 0 _).mp (Nat.le_refl _)
    exact bounds.2 _ (List.mem_append_right _ List.mem_cons_self)

theorem getContinuousBinary_ok_iff (spaced : Spaced (container.segments.map MemorySegment.chunk)) :
    (∃ flattened, container.getContinuousBinary fill maxSpan maxGap = .ok flattened) ↔
      container.segments = [] ∨
        ((container.maxAddress - container.minAddress : Nat) ≤
            maxSpan.getD defaultFirmwareLimits.maxAddressSpan ∧
          GapsWithin (maxGap.getD defaultFirmwareLimits.maxGap) container.segments) := by
  unfold getContinuousBinary
  dsimp only
  rw [sorted_of_spaced spaced]
  cases shape : container.segments with
  | nil => exact ⟨fun _ => Or.inl rfl, fun _ => ⟨_, rfl⟩⟩
  | cons first rest =>
      rw [shape] at spaced
      obtain ⟨last, final⟩ : ∃ last, (first :: rest).getLast? = some last :=
        ⟨_, List.getLast?_eq_some_getLast (List.cons_ne_nil _ _)⟩
      rw [minAddress_of_spaced spaced shape,
        maxAddress_of_spaced (shape.symm ▸ spaced) (shape.symm ▸ final), final]
      have filled := @fillSegments_ok_iff (UInt8.ofInt fill)
        (maxGap.getD defaultFirmwareLimits.maxGap) first.address (first :: rest)
      dsimp only
      split
      · rename_i wide
        constructor
        · rintro ⟨_, raised⟩
          cases raised
        · rintro (empty | ⟨narrow, _⟩)
          · cases empty
          · exact absurd wide (Int.not_lt.mpr narrow)
      · rename_i narrow
        have starts : ∀ segment ∈ (first :: rest).head?, first.address < segment.address →
            (segment.address - first.address : Nat) ≤ maxGap.getD defaultFirmwareLimits.maxGap := by
          intro segment member ahead
          cases member
          exact absurd ahead (Nat.lt_irrefl _)
        split
        · rename_i error failed
          constructor
          · rintro ⟨_, raised⟩
            cases raised
          · rintro (empty | ⟨_, gaps⟩)
            · cases empty
            · obtain ⟨_, done⟩ := filled.mpr ⟨starts, gaps⟩
              rw [failed] at done
              cases done
        · rename_i binary done
          exact ⟨fun _ => Or.inr ⟨Int.not_lt.mp narrow, (filled.mp ⟨binary, done⟩).2⟩,
            fun _ => ⟨_, rfl⟩⟩

theorem getContinuousBinary_fills (spaced : Spaced (container.segments.map MemorySegment.chunk))
    (ok : container.getContinuousBinary fill maxSpan maxGap = .ok (base, binary)) :
    base = container.minAddress ∧ base + binary.length = container.maxAddress ∧
      Fills container.image (UInt8.ofInt fill) base binary := by
  unfold getContinuousBinary at ok
  dsimp only at ok
  rw [sorted_of_spaced spaced] at ok
  unfold image
  split at ok
  · rename_i first rest last shape final
    split at ok
    · cases ok
    · split at ok
      · cases ok
      · rename_i binary filled
        cases ok
        have ahead : ∀ segment ∈ container.segments, first.address ≤ segment.address := by
          intro segment member
          rw [shape] at spaced member
          rcases List.mem_cons.mp member with same | later
          · rw [same]
          · exact Nat.le_trans (Nat.le_add_right _ _)
              ((List.pairwise_cons.mp spaced).1 _ (List.mem_map_of_mem later))
        have long := fillSegments_length filled spaced ahead
        rw [final] at long
        refine ⟨(minAddress_of_spaced (shape ▸ spaced) shape).symm, ?_,
          fillSegments_fills filled spaced ahead⟩
        rw [maxAddress_of_spaced spaced final]
        exact long
  · rename_i missing
    cases ok
    have empty : container.segments = [] := by
      cases shape : container.segments with
      | nil => rfl
      | cons first rest =>
          obtain ⟨last, final⟩ : ∃ last, container.segments.getLast? = some last := by
            rw [shape]
            exact ⟨_, List.getLast?_eq_some_getLast (List.cons_ne_nil _ _)⟩
          exact absurd final (missing first rest last shape)
    unfold minAddress maxAddress
    rw [empty]
    exact ⟨rfl, rfl, fun _ _ placed => absurd placed not_places_nil,
      fun _ inside => absurd inside (Nat.not_lt_zero _)⟩

end Ordered

end FirmwareContainer

end Ucanlab.Uds
