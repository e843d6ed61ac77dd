import Ucanlab.Uds.ContinuousBinary

/-!
Merging the data records of an image: what is accepted, what comes out, and which records without
data keep it from depending on their order.
-/

namespace Ucanlab.Uds

open Ucanlab Placement

structure SegmentsOf (chunks : Placement UInt8) (segments : List MemorySegment) : Prop where
  maximal : Maximal (segments.map MemorySegment.chunk)
  image : ∀ address value, Places (segments.map MemorySegment.chunk) address value ↔
    Places chunks address value

structure WithinLimits (limits : FirmwareParseLimits) (chunks : Placement UInt8)
    (segments : List MemorySegment) : Prop where
  chunkCount : chunks.length ≤ limits.maxLines
  totalPayload : (chunks.map (fun chunk => chunk.2.length)).sum ≤ limits.maxTotalPayloadBytes
  span : ∀ low ∈ chunks, ∀ high ∈ chunks, high.1 + high.2.length - low.1 ≤ limits.maxAddressSpan
  segmentCount : segments.length ≤ limits.maxSegments
  gaps : Near limits.maxGap (segments.map MemorySegment.chunk)

structure MergesFaithfully (chunks : Placement UInt8) (limits : FirmwareParseLimits) : Prop where
  accepts : (∃ segments, mergeAndValidateChunks chunks limits = .ok segments) ↔
    NonOverlapping chunks ∧
      ∃ segments, SegmentsOf chunks segments ∧ WithinLimits limits chunks segments
  order : ∀ reordered, reordered.Perm chunks → ∀ segments,
    mergeAndValidateChunks reordered limits = .ok segments ↔
      mergeAndValidateChunks chunks limits = .ok segments
  segments : ∀ segments, mergeAndValidateChunks chunks limits = .ok segments →
    SegmentsOf chunks segments
  flattens : ∀ segments, mergeAndValidateChunks chunks limits = .ok segments →
    ∀ (container : FirmwareContainer) (fillByte : Int) (maxSpan maxGap : Option Int),
      container.segments = segments →
      ((∃ flattened, container.getContinuousBinary fillByte maxSpan maxGap = .ok flattened) ↔
        segments = [] ∨
          ((container.maxAddress - container.minAddress : Nat) ≤
              maxSpan.getD defaultFirmwareLimits.maxAddressSpan ∧
            GapsWithin (maxGap.getD defaultFirmwareLimits.maxGap) segments)) ∧
      ∀ base binary, container.getContinuousBinary fillByte maxSpan maxGap = .ok (base, binary) →
        base = container.minAddress ∧ base + binary.length = container.maxAddress ∧
          Fills chunks (UInt8.ofInt fillByte) base binary

section Loop

variable {limits : FirmwareParseLimits} {current : MemorySegment} {chunks rest : Placement UInt8}
  {segments : List MemorySegment}

theorem map_chunk_injective : Function.Injective (List.map MemorySegment.chunk) := by
  apply List.map_injective_iff.mpr
  rintro ⟨address, data⟩ ⟨other, more⟩ same
  cases same
  rfl

/-- The loop checks that no chunk begins before the one ahead of it has ended. -/
theorem mergeChunks_spaced (ok : mergeChunks limits current rest = .ok segments) :
    Spaced (current.chunk :: rest) := by
  induction rest generalizing current segments with
  | nil => exact List.pairwise_singleton _ _
  | cons chunk rest ih =>
      obtain ⟨address, data⟩ := chunk
      unfold mergeChunks at ok
      split at ok
      · cases ok
      · rename_i clear
        have ahead := Nat.le_of_not_lt clear
        have behind : Spaced ((address, data) :: rest) → Spaced (current.chunk :: (address, data) :: rest) := by
          intro spaced
          refine List.pairwise_cons.mpr ⟨?_, spaced⟩
          intro other member
          change current.endAddress ≤ other.1
          rcases List.mem_cons.mp member with same | later
          · rw [same]
            exact ahead
          · have apart := (List.pairwise_cons.mp spaced).1 other later
            dsimp only at apart
            omega
        split at ok
        · rename_i touching
          obtain ⟨front, others⟩ := List.pairwise_cons.mp (ih ok)
          refine behind (List.pairwise_cons.mpr ⟨?_, others⟩)
          intro other member
          have apart := front other member
          unfold MemorySegment.chunk at apart
          rw [List.length_append] at apart
          unfold MemorySegment.endAddress at touching
          dsimp only at apart ⊢
          omega
        · split at ok
          · cases ok
          · split at ok
            · cases ok
            · rename_i later merged
              exact behind (ih merged)

theorem mergeChunks_ok_iff (spaced : Spaced (current.chunk :: rest)) :
    mergeChunks limits current rest = .ok segments ↔
      segments.map MemorySegment.chunk = coalesce current.address current.data rest ∧
        Near limits.maxGap (coalesce current.address current.data rest) := by
  induction rest generalizing current segments with
  | nil =>
      unfold mergeChunks coalesce
      constructor
      · intro ok
        cases ok
        exact ⟨rfl, List.IsChain.singleton _⟩
      · rintro ⟨same, _⟩
        exact congrArg Except.ok (@map_chunk_injective [current] segments same.symm)
  | cons chunk rest ih =>
      obtain ⟨address, data⟩ := chunk
      have clear : ¬ address < current.endAddress :=
        Nat.not_lt.mpr ((List.pairwise_cons.mp spaced).1 (address, data) List.mem_cons_self)
      unfold mergeChunks coalesce
      rw [if_neg clear]
      unfold MemorySegment.endAddress at clear ⊢
      split
      · rename_i touching
        exact @ih { current with data := current.data ++ data } segments (spaced.join touching)
      · rename_i parted
        have next := fun later => @ih ⟨address, data⟩ later (List.pairwise_cons.mp spaced).2
        obtain ⟨run, runs, shape⟩ := @coalesce_front _ address data rest
        dsimp only at next
        unfold Near at next ⊢
        rw [shape] at next ⊢
        rw [List.isChain_cons_cons]
        dsimp only
        split
        · rename_i wide
          constructor
          · intro raised
            cases raised
          · rintro ⟨_, narrow, _⟩
            omega
        · rename_i narrow
          split
          · rename_i error failed
            constructor
            · intro raised
              cases raised
            · rintro ⟨same, _, near⟩
              obtain ⟨first, later, _, _, tail⟩ := List.map_eq_cons_iff.mp same
              rw [(next later).mpr ⟨tail, near⟩] at failed
              cases failed
          · rename_i later merged
            obtain ⟨tail, near⟩ := (next later).mp merged
            rw [← tail]
            constructor
            · intro ok
              cases ok
              exact ⟨rfl, Nat.le_of_not_gt narrow, tail ▸ near⟩
            · rintro ⟨same, _⟩
              exact congrArg Except.ok (@map_chunk_injective (current :: later) segments same.symm)

end Loop

section Validation

variable {limits : FirmwareParseLimits} {chunks : Placement UInt8} {segments : List MemorySegment}

theorem sortChunks_sorted (chunks : Placement UInt8) :
    (sortChunks chunks).Pairwise (fun left right => left.1 ≤ right.1) :=
  sorted_insertionSort chunks

theorem mergeAndValidateChunks_eq_ok_iff :
    mergeAndValidateChunks chunks limits = .ok segments ↔
      chunks.length ≤ limits.maxLines ∧
        (chunks.map (fun chunk => chunk.2.length)).sum ≤ limits.maxTotalPayloadBytes ∧
          (chunks = [] ∧ segments = [] ∨
            ∃ low data rest, sortChunks chunks = (low, data) :: rest ∧
              highestEnd chunks - low ≤ limits.maxAddressSpan ∧
                mergeChunks limits ⟨low, data⟩ rest = .ok segments ∧
                  segments.length ≤ limits.maxSegments) := by
  have perm := sortChunks_perm chunks
  unfold mergeAndValidateChunks
  dsimp only
  split
  · rename_i many
    exact ⟨nofun, fun accepted => absurd accepted.1 (Nat.not_le.mpr many)⟩
  · rename_i few
    split
    · rename_i heavy
      exact ⟨nofun, fun accepted => absurd accepted.2.1 (Nat.not_le.mpr heavy)⟩
    · rename_i light
      refine Iff.trans ?_ (and_iff_right (Nat.le_of_not_gt few)).symm
      refine Iff.trans ?_ (and_iff_right (Nat.le_of_not_gt light)).symm
      split
      · rename_i sorted
        rw [sorted] at perm
        have empty : chunks = [] := List.nil_perm.mp perm
        constructor
        · intro ok
          cases ok
          exact Or.inl ⟨empty, rfl⟩
        · rintro (⟨_, same⟩ | ⟨low, data, rest, shape, _⟩)
          · rw [same]
          · cases sorted.symm.trans shape
      · rename_i low data rest sorted
        rw [sorted] at perm
        have full : chunks ≠ [] := by
          intro empty
          rw [empty] at perm
          cases perm.eq_nil
        constructor
        · intro ok
          right
          split at ok
          · cases ok
          · rename_i near
            split at ok
            · cases ok
            · rename_i merged joined
              split at ok
              · cases ok
              · rename_i short
                cases ok
                exact ⟨low, data, rest, sorted, Nat.le_of_not_gt near, joined, Nat.le_of_not_gt short⟩
        · rintro (⟨empty, _⟩ | ⟨_, _, _, shape, near, joined, short⟩)
          · exact absurd empty full
          · cases sorted.symm.trans shape
            rw [if_neg (Nat.not_lt.mpr near), joined]
            exact if_neg (Nat.not_lt.mpr short)

theorem highestEnd_le_iff (limit : Nat) :
    highestEnd chunks ≤ limit ↔ ∀ chunk ∈ chunks, chunk.1 + chunk.2.length ≤ limit := by
  have folded : highestEnd chunks =
      (chunks.map (fun chunk => chunk.1 + chunk.2.length)).foldl max 0 := by
    rw [List.foldl_map]
    rfl
  rw [folded, FirmwareContainer.foldl_max_le_iff, List.forall_mem_map]
  exact and_iff_right (Nat.zero_le _)

theorem span_le_iff {low : Nat} {data : Bytes} {rest : Placement UInt8} (limit : Nat)
    (sorted : sortChunks chunks = (low, data) :: rest) :
    highestEnd chunks - low ≤ limit ↔
      ∀ first ∈ chunks, ∀ last ∈ chunks, last.1 + last.2.length - first.1 ≤ limit := by
  have perm := sortChunks_perm chunks
  have order := sortChunks_sorted chunks
  rw [sorted] at perm order
  have lowest : ∀ chunk ∈ chunks, low ≤ chunk.1 := by
    intro chunk member
    rcases List.mem_cons.mp (perm.mem_iff.mpr member) with same | later
    · rw [same]
    · exact (List.pairwise_cons.mp order).1 chunk later
  rw [Nat.sub_le_iff_le_add, highestEnd_le_iff]
  constructor
  · intro bound first member last within
    have reach := bound last within
    have start := lowest first member
    omega
  · intro bound last within
    have reach := bound (low, data) (perm.mem_iff.mp List.mem_cons_self) last within
    dsimp only at reach
    omega

theorem mergeAndValidateChunks_ok_iff (clear : NonOverlapping chunks) (ends : EmptiesAtEnds chunks) :
    mergeAndValidateChunks chunks limits = .ok segments ↔
      SegmentsOf chunks segments ∧ WithinLimits limits chunks segments := by
  have perm := sortChunks_perm chunks
  have order := sortChunks_sorted chunks
  rw [mergeAndValidateChunks_eq_ok_iff]
  cases sorted : sortChunks chunks with
  | nil =>
      rw [sorted] at perm
      have empty : chunks = [] := List.nil_perm.mp perm
      subst empty
      constructor
      · rintro ⟨count, payload, ⟨_, same⟩ | ⟨_, _, _, shape, _⟩⟩
        · subst same
          exact ⟨⟨⟨nofun, List.Pairwise.nil⟩, fun _ _ => Iff.rfl⟩,
            ⟨count, payload, nofun, Nat.zero_le _, List.IsChain.nil⟩⟩
        · cases shape
      · rintro ⟨own, within⟩
        have same := own.maximal.eq_of_places (⟨nofun, List.Pairwise.nil⟩ : Maximal []) own.image
        exact ⟨within.chunkCount, within.totalPayload, Or.inl ⟨rfl, List.map_eq_nil_iff.mp same⟩⟩
  | cons first rest =>
      obtain ⟨low, data⟩ := first
      have reach := span_le_iff limits.maxAddressSpan sorted
      rw [sorted] at perm order
      have sortedEnds := ends.perm perm.symm
      have spaced := spaced_of_sorted order ((NonOverlapping.perm perm).mpr clear) sortedEnds
      have solid : data ≠ [] := by
        intro hollow
        obtain ⟨⟨chunk, found, full, meets⟩, _⟩ := sortedEnds _ List.mem_cons_self hollow
        have long := List.length_pos_of_ne_nil full
        rcases List.mem_cons.mp found with same | later
        · rw [same] at full
          exact full hollow
        · have ahead := (List.pairwise_cons.mp order).1 chunk later
          dsimp only at ahead meets
          omega
      have maximal := coalesce_maximal solid spaced (fun empty member hollow =>
        (sortedEnds empty (List.mem_cons_of_mem _ member) hollow).1)
      have merged := @mergeChunks_ok_iff limits ⟨low, data⟩ rest segments spaced
      have own : SegmentsOf chunks segments ↔
          segments.map MemorySegment.chunk = coalesce low data rest := by
        constructor
        · intro own
          refine own.maximal.eq_of_places maximal ?_
          intro address value
          rw [own.image, places_coalesce, Places.perm perm]
        · intro same
          rw [← same] at maximal
          refine ⟨maximal, ?_⟩
          intro address value
          rw [same, places_coalesce, Places.perm perm]
      have full : chunks ≠ [] := by
        intro empty
        rw [empty] at perm
        cases perm.eq_nil
      constructor
      · rintro ⟨count, payload, ⟨empty, _⟩ | ⟨_, _, _, shape, span, joined, short⟩⟩
        · exact absurd empty full
        · cases shape
          obtain ⟨same, near⟩ := merged.mp joined
          rw [← same] at near
          exact ⟨own.mpr same, ⟨count, payload, reach.mp span, short, near⟩⟩
      · rintro ⟨mine, within⟩
        have same := own.mp mine
        refine ⟨within.chunkCount, within.totalPayload, Or.inr ⟨low, data, rest, rfl,
          reach.mpr within.span, merged.mpr ⟨same, ?_⟩, within.segmentCount⟩⟩
        rw [← same]
        exact within.gaps

theorem mergeAndValidateChunks_spaced (ok : mergeAndValidateChunks chunks limits = .ok segments) :
    Spaced (sortChunks chunks) := by
  obtain ⟨_, _, ⟨empty, _⟩ | ⟨low, data, rest, sorted, _, merged, _⟩⟩ :=
    mergeAndValidateChunks_eq_ok_iff.mp ok
  · rw [empty]
    exact List.Pairwise.nil
  · rw [sorted]
    exact mergeChunks_spaced merged

theorem mergeAndValidateChunks_nonOverlapping
    (ok : mergeAndValidateChunks chunks limits = .ok segments) : NonOverlapping chunks :=
  (NonOverlapping.perm (sortChunks_perm chunks)).mp (mergeAndValidateChunks_spaced ok).nonOverlapping

theorem SegmentsOf.perm {others : Placement UInt8} (same : chunks.Perm others) :
    SegmentsOf chunks segments ↔ SegmentsOf others segments := by
  constructor
  · intro own
    exact ⟨own.maximal, fun address value => (own.image address value).trans (Places.perm same)⟩
  · intro own
    exact ⟨own.maximal, fun address value => (own.image address value).trans (Places.perm same).symm⟩

theorem WithinLimits.perm {others : Placement UInt8} (same : chunks.Perm others)
    (within : WithinLimits limits chunks segments) : WithinLimits limits others segments where
  chunkCount := same.length_eq ▸ within.chunkCount
  totalPayload := (same.map (fun chunk => chunk.2.length)).sum_nat ▸ within.totalPayload
  span := fun low first high last =>
    within.span low (same.mem_iff.mpr first) high (same.mem_iff.mpr last)
  segmentCount := within.segmentCount
  gaps := within.gaps

theorem Fills.of_places {others : Placement UInt8} {fillByte : UInt8} {base : Nat} {binary : Bytes}
    (fills : Fills chunks fillByte base binary)
    (same : ∀ address value, Places chunks address value ↔ Places others address value) :
    Fills others fillByte base binary where
  value := fun address value placed => fills.value address value ((same address value).mpr placed)
  filling := fun index inside vacant => fills.filling index inside
    (fun value placed => vacant value ((same _ _).mp placed))

theorem SegmentsOf.flattens (own : SegmentsOf chunks segments) (container : FirmwareContainer)
    (fillByte : Int) (maxSpan maxGap : Option Int) (holds : container.segments = segments) :
    ((∃ flattened, container.getContinuousBinary fillByte maxSpan maxGap = .ok flattened) ↔
        segments = [] ∨
          ((container.maxAddress - container.minAddress : Nat) ≤
              maxSpan.getD defaultFirmwareLimits.maxAddressSpan ∧
            GapsWithin (maxGap.getD defaultFirmwareLimits.maxGap) segments)) ∧
      ∀ base binary, container.getContinuousBinary fillByte maxSpan maxGap = .ok (base, binary) →
        base = container.minAddress ∧ base + binary.length = container.maxAddress ∧
          Fills chunks (UInt8.ofInt fillByte) base binary := by
  subst holds
  have spaced := own.maximal.spaced
  refine ⟨FirmwareContainer.getContinuousBinary_ok_iff spaced, ?_⟩
  intro base binary ok
  obtain ⟨low, high, fills⟩ := FirmwareContainer.getContinuousBinary_fills spaced ok
  exact ⟨low, high, fills.of_places own.image⟩

theorem faithful_of_overlap (overlap : ¬ NonOverlapping chunks) : MergesFaithfully chunks limits := by
  have refused (others : Placement UInt8) (same : others.Perm chunks)
      (segments : List MemorySegment) :
      mergeAndValidateChunks others limits ≠ .ok segments := fun ok =>
    overlap ((NonOverlapping.perm same).mp (mergeAndValidateChunks_nonOverlapping ok))
  exact
    { accepts := ⟨fun ⟨segments, ok⟩ => absurd ok (refused chunks (.refl _) segments),
        fun accepted => absurd accepted.1 overlap⟩
      order := fun others same segments => ⟨fun ok => absurd ok (refused others same segments),
        fun ok => absurd ok (refused chunks (.refl _) segments)⟩
      segments := fun segments ok => absurd ok (refused chunks (.refl _) segments)
      flattens := fun segments ok => absurd ok (refused chunks (.refl _) segments) }

theorem faithful_of_ends (clear : NonOverlapping chunks) (ends : EmptiesAtEnds chunks) :
    MergesFaithfully chunks limits := by
  have accepted := fun segments => @mergeAndValidateChunks_ok_iff limits chunks segments clear ends
  constructor
  · constructor
    · rintro ⟨segments, ok⟩
      exact ⟨clear, segments, (accepted segments).mp ok⟩
    · rintro ⟨_, segments, own, within⟩
      exact ⟨segments, (accepted segments).mpr ⟨own, within⟩⟩
  · intro reordered same segments
    rw [accepted, mergeAndValidateChunks_ok_iff ((NonOverlapping.perm same).mpr clear)
      (ends.perm same.symm), SegmentsOf.perm same]
    exact and_congr_right (fun _ => ⟨WithinLimits.perm same, WithinLimits.perm same.symm⟩)
  · intro segments ok
    exact ((accepted segments).mp ok).1
  · intro segments ok
    exact ((accepted segments).mp ok).1.flattens

def wideLimits (chunks : Placement UInt8) (segmentCount gap : Nat) : FirmwareParseLimits where
  maxLines := chunks.length
  maxSegments := segmentCount
  maxAddressSpan := highestEnd chunks
  maxGap := gap
  maxTotalPayloadBytes := (chunks.map (fun chunk => chunk.2.length)).sum

theorem no_start_at_empty (faithful : MergesFaithfully chunks limits)
    (ok : mergeAndValidateChunks chunks limits = .ok segments) {empty chunk : Nat × Bytes}
    (member : empty ∈ chunks) (hollow : empty.2 = []) (found : chunk ∈ chunks)
    (full : chunk.2 ≠ []) : chunk.1 ≠ empty.1 := by
  intro start
  have distinct : empty ≠ chunk := by
    intro same
    rw [same] at hollow
    exact full hollow
  have ordered : (chunk :: empty :: (chunks.erase chunk).erase empty).Perm chunks :=
    ((List.perm_cons_erase ((List.mem_erase_of_ne distinct).mpr member)).symm.cons chunk).trans
      (List.perm_cons_erase found).symm
  have spaced := mergeAndValidateChunks_spaced ((faithful.order _ ordered segments).mpr ok)
  have pair : [chunk, empty].Sublist
      (sortChunks (chunk :: empty :: (chunks.erase chunk).erase empty)) := by
    have total : Std.Total (fun left right : Nat × List UInt8 => left.1 ≤ right.1) :=
      ⟨fun left right => Nat.le_total left.1 right.1⟩
    have trans : IsTrans (Nat × List UInt8) (fun left right => left.1 ≤ right.1) :=
      ⟨fun _ _ _ => Nat.le_trans⟩
    exact List.pair_sublist_insertionSort (Nat.le_of_eq start)
      ((List.nil_sublist _).cons_cons empty |>.cons_cons chunk)
  have clear := spaced.forall_sublist pair
  have long := List.length_pos_of_ne_nil full
  omega

theorem ends_of_faithful (clear : NonOverlapping chunks)
    (faithful : ∀ limits, MergesFaithfully chunks limits) : EmptiesAtEnds chunks := by
  obtain ⟨runs, maximal, image⟩ := clear.exists_runs
  obtain ⟨gap, near⟩ := near_exists runs
  have mapped : (runs.map (fun run => MemorySegment.mk run.1 run.2)).map MemorySegment.chunk = runs := by
    rw [List.map_map]
    exact List.map_id _
  have wide := faithful (wideLimits chunks runs.length gap)
  obtain ⟨segments, ok⟩ := wide.accepts.mpr
    ⟨clear, runs.map (fun run => ⟨run.1, run.2⟩), ⟨mapped.symm ▸ maximal, mapped.symm ▸ image⟩,
      { chunkCount := Nat.le_refl _
        totalPayload := Nat.le_refl _
        span := fun low _ high member => Nat.le_trans (Nat.sub_le _ _)
          ((highestEnd_le_iff _).mp (Nat.le_refl _) high member)
        segmentCount := Nat.le_of_eq (List.length_map _)
        gaps := mapped.symm ▸ near }⟩
  intro empty member hollow
  refine ⟨?_, fun chunk found full => no_start_at_empty wide ok member hollow found full⟩
  have perm := sortChunks_perm chunks
  obtain ⟨_, _, ⟨none', _⟩ | ⟨low, data, rest, sorted, _, merged, _⟩⟩ :=
    mergeAndValidateChunks_eq_ok_iff.mp ok
  · rw [none'] at member
    cases member
  · rw [sorted] at perm
    obtain ⟨same, _⟩ := (mergeChunks_ok_iff (mergeChunks_spaced merged)).mp merged
    have solid := (wide.segments segments ok).maximal.solid
    rw [same] at solid
    obtain ⟨chunk, found, full, ending | start⟩ :=
      coalesce_isolated solid (perm.mem_iff.mpr member) hollow
    · exact ⟨chunk, perm.mem_iff.mp found, full, ending⟩
    · exact absurd start (no_start_at_empty wide ok member hollow (perm.mem_iff.mp found) full)

end Validation

/-- Merging is faithful for chunks that overlap, and for others as long as each chunk without data
lies where one with data ends and nowhere that one begins. -/
theorem merging_faithful_iff (chunks : Placement UInt8) :
    (∀ limits, MergesFaithfully chunks limits) ↔
      ¬ NonOverlapping chunks ∨ EmptiesAtEnds chunks := by
  constructor
  · intro faithful
    by_cases clear : NonOverlapping chunks
    · exact Or.inr (ends_of_faithful clear faithful)
    · exact Or.inl clear
  · rintro (overlap | ends) limits
    · exact faithful_of_overlap overlap
    · by_cases clear : NonOverlapping chunks
      · exact faithful_of_ends clear ends
      · exact faithful_of_overlap clear

/-- A record without data is merged ahead of one at its own address and refused behind it. -/
theorem empty_record_order_matters :
    mergeAndValidateChunks [(0, []), (0, [1])] defaultFirmwareLimits = .ok [⟨0, [1]⟩] ∧
      mergeAndValidateChunks [(0, [1]), (0, [])] defaultFirmwareLimits = .error (.overlap 0 0) ∧
      NonOverlapping [(0, ([1] : Bytes)), (0, [])] ∧
      ¬ MergesFaithfully [(0, [1]), (0, [])] defaultFirmwareLimits := by
  have merged : mergeAndValidateChunks [(0, []), (0, [1])] defaultFirmwareLimits = .ok [⟨0, [1]⟩] := by
    decide
  have refused : mergeAndValidateChunks [(0, [1]), (0, [])] defaultFirmwareLimits =
      .error (.overlap 0 0) := by
    decide
  refine ⟨merged, refused, ?_, ?_⟩
  · refine List.pairwise_pair.mpr ?_
    rintro address ⟨_, from', before⟩
    exact Nat.not_lt.mpr from' before
  · intro faithful
    have same := (faithful.order [(0, []), (0, [1])] (List.Perm.swap _ _ _) [⟨0, [1]⟩]).mp merged
    rw [refused] at same
    cases same

end Ucanlab.Uds
