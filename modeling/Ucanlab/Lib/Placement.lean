import Mathlib.Algebra.Order.BigOperators.Group.List
import Mathlib.Algebra.Order.Group.Nat
import Mathlib.Data.List.Chain
import Mathlib.Data.List.Sort

/-!
Chunks of values placed at addresses, as a partial map from addresses to values.
Where the chunks follow each other without overlap, a search finds exactly what
some chunk places.
-/

universe u

/-- Chunks of consecutive values, each with the address of its first one. -/
abbrev Placement (Value : Type u) := List (Nat × List Value)

namespace Placement

variable {Value : Type u} {address start : Nat} {value : Value} {items more : List Value}
  {chunks others : Placement Value}

def Places (chunks : Placement Value) (address : Nat) (value : Value) : Prop :=
  ∃ chunk ∈ chunks, ∃ index, address = chunk.1 + index ∧ chunk.2[index]? = some value

def Spaced (chunks : Placement Value) : Prop :=
  chunks.Pairwise (fun earlier later => earlier.1 + earlier.2.length ≤ later.1)

def read : Placement Value → Nat → Option Value
  | [], _ => none
  | chunk :: rest, address =>
      if chunk.1 ≤ address ∧ address < chunk.1 + chunk.2.length then
        chunk.2[address - chunk.1]?
      else read rest address

theorem places_cons :
    Places ((start, items) :: chunks) address value ↔
      (∃ index, address = start + index ∧ items[index]? = some value) ∨
        Places chunks address value := by
  unfold Places
  simp only [List.mem_cons, exists_eq_or_imp]

theorem not_places_nil : ¬ Places ([] : Placement Value) address value := by
  rintro ⟨chunk, member, _⟩
  exact absurd member List.not_mem_nil

theorem Places.perm (same : chunks.Perm others) :
    Places chunks address value ↔ Places others address value := by
  unfold Places
  simp only [same.mem_iff]

theorem places_join :
    Places ((start, items ++ more) :: chunks) address value ↔
      Places ((start, items) :: (start + items.length, more) :: chunks) address value := by
  rw [places_cons, places_cons, places_cons, ← or_assoc]
  refine or_congr_left ?_
  constructor
  · rintro ⟨index, rfl, found⟩
    by_cases front : index < items.length
    · rw [List.getElem?_append_left front] at found
      exact Or.inl ⟨index, rfl, found⟩
    · have behind := Nat.le_of_not_lt front
      rw [List.getElem?_append_right behind] at found
      exact Or.inr ⟨index - items.length, by omega, found⟩
  · rintro (⟨index, rfl, found⟩ | ⟨index, rfl, found⟩)
    · obtain ⟨front, _⟩ := List.getElem?_eq_some_iff.mp found
      refine ⟨index, rfl, ?_⟩
      rw [List.getElem?_append_left front]
      exact found
    · refine ⟨items.length + index, by omega, ?_⟩
      rw [List.getElem?_append_right (Nat.le_add_right _ _), Nat.add_sub_cancel_left]
      exact found

theorem Spaced.behind (spaced : Spaced ((start, items) :: chunks))
    (placed : Places chunks address value) : start + items.length ≤ address := by
  obtain ⟨chunk, member, index, same, _⟩ := placed
  have clear := (List.pairwise_cons.mp spaced).1 chunk member
  dsimp only at clear
  omega

theorem read_eq_some_iff (spaced : Spaced chunks) :
    read chunks address = some value ↔ Places chunks address value := by
  induction chunks with
  | nil => exact ⟨nofun, fun placed => absurd placed not_places_nil⟩
  | cons chunk rest ih =>
      obtain ⟨start, items⟩ := chunk
      have later := ih (List.pairwise_cons.mp spaced).2
      unfold read
      rw [places_cons]
      split
      · rename_i inside
        dsimp only at inside ⊢
        constructor
        · intro found
          exact Or.inl ⟨address - start, by omega, found⟩
        · rintro (⟨index, same, found⟩ | placed)
          · have here : address - start = index := by omega
            rw [here]
            exact found
          · have clear := spaced.behind placed
            omega
      · rename_i outside
        rw [later]
        refine ⟨Or.inr, ?_⟩
        rintro (⟨index, same, found⟩ | placed)
        · obtain ⟨within, _⟩ := List.getElem?_eq_some_iff.mp found
          dsimp only at outside
          omega
        · exact placed

end Placement

/-!
The runs of consecutive addresses in a placement: a map from addresses to values has one list of
maximal runs, and joining spaced chunks where they touch computes it.
-/

namespace Placement

variable {Value : Type u} {address start index : Nat} {value : Value} {items more : List Value}
  {chunks others rest runs : Placement Value}

def Covers (chunk : Nat × List Value) (address : Nat) : Prop :=
  chunk.1 ≤ address ∧ address < chunk.1 + chunk.2.length

def NonOverlapping (chunks : Placement Value) : Prop :=
  chunks.Pairwise (fun one other => ∀ address, ¬ (Covers one address ∧ Covers other address))

/-- No run is empty, and none touches the next. -/
structure Maximal (runs : Placement Value) : Prop where
  solid : ∀ run ∈ runs, run.2 ≠ []
  apart : runs.Pairwise (fun earlier later => earlier.1 + earlier.2.length < later.1)

def Near (gap : Nat) (runs : Placement Value) : Prop :=
  runs.IsChain (fun earlier later => later.1 - (earlier.1 + earlier.2.length) ≤ gap)

def EmptiesAtEnds (chunks : Placement Value) : Prop :=
  ∀ empty ∈ chunks, empty.2 = [] →
    (∃ chunk ∈ chunks, chunk.2 ≠ [] ∧ chunk.1 + chunk.2.length = empty.1) ∧
      ∀ chunk ∈ chunks, chunk.2 ≠ [] → chunk.1 ≠ empty.1

/-- Chunks joined with the run before them where they touch it. -/
def coalesce (start : Nat) (items : List Value) : Placement Value → Placement Value
  | [] => [(start, items)]
  | (address, more) :: rest =>
      if address = start + items.length then coalesce start (items ++ more) rest
      else (start, items) :: coalesce address more rest

section Maximal

theorem Maximal.tail (maximal : Maximal ((start, items) :: runs)) : Maximal runs where
  solid := fun run member => maximal.solid run (List.mem_cons_of_mem _ member)
  apart := (List.pairwise_cons.mp maximal.apart).2

theorem Maximal.behind (maximal : Maximal ((start, items) :: runs))
    (placed : Places runs address value) : start + items.length < address := by
  obtain ⟨run, member, index, same, _⟩ := placed
  have clear := (List.pairwise_cons.mp maximal.apart).1 run member
  dsimp only at clear
  omega

/-- Up to its end the first run alone decides. -/
theorem Maximal.front (maximal : Maximal ((start, items) :: runs)) (inside : index ≤ items.length) :
    Places ((start, items) :: runs) (start + index) value ↔ items[index]? = some value := by
  rw [places_cons]
  constructor
  · rintro (⟨other, same, found⟩ | placed)
    · have here : index = other := by omega
      rw [here]
      exact found
    · have clear := maximal.behind placed
      omega
  · intro found
    exact Or.inl ⟨index, rfl, found⟩

theorem Maximal.later (maximal : Maximal ((start, items) :: runs)) :
    Places runs address value ↔
      start + items.length < address ∧ Places ((start, items) :: runs) address value := by
  rw [places_cons]
  constructor
  · intro placed
    exact ⟨maximal.behind placed, Or.inr placed⟩
  · rintro ⟨clear, ⟨index, same, found⟩ | placed⟩
    · obtain ⟨within, _⟩ := List.getElem?_eq_some_iff.mp found
      omega
    · exact placed

theorem Maximal.lowest (maximal : Maximal ((start, items) :: runs))
    (placed : Places ((start, items) :: runs) address value) : start ≤ address := by
  rcases places_cons.mp placed with ⟨index, same, _⟩ | placed
  · omega
  · have clear := maximal.behind placed
    omega

theorem Maximal.first_placed (maximal : Maximal ((start, items) :: runs)) :
    ∃ value, Places ((start, items) :: runs) start value := by
  cases shape : items with
  | nil => exact absurd shape (maximal.solid _ List.mem_cons_self)
  | cons value others => exact ⟨value, places_cons.mpr (Or.inl ⟨0, rfl, rfl⟩)⟩

theorem Maximal.eq_of_places (left : Maximal runs) (right : Maximal others)
    (same : ∀ address value, Places runs address value ↔ Places others address value) :
    runs = others := by
  induction runs generalizing others with
  | nil =>
      cases others with
      | nil => rfl
      | cons run others =>
          obtain ⟨value, placed⟩ := right.first_placed
          exact absurd ((same _ _).mpr placed) not_places_nil
  | cons run runs ih =>
      obtain ⟨start, items⟩ := run
      cases others with
      | nil =>
          obtain ⟨value, placed⟩ := left.first_placed
          exact absurd ((same _ _).mp placed) not_places_nil
      | cons other others =>
          obtain ⟨begin, more⟩ := other
          have first : start = begin := by
            obtain ⟨value, placed⟩ := left.first_placed
            obtain ⟨found, there⟩ := right.first_placed
            exact Nat.le_antisymm (left.lowest ((same _ _).mpr there))
              (right.lowest ((same _ _).mp placed))
          subst first
          have agree (index : Nat) (inside : index ≤ items.length) (within : index ≤ more.length) :
              items[index]? = more[index]? := by
            ext value
            rw [← left.front inside, same, right.front within]
          have long : items.length = more.length := by
            rcases Nat.lt_trichotomy items.length more.length with short | equal | short
            · have clash := agree items.length (Nat.le_refl _) (Nat.le_of_lt short)
              rw [List.getElem?_eq_none (Nat.le_refl _), List.getElem?_eq_getElem short] at clash
              cases clash
            · exact equal
            · have clash := agree more.length (Nat.le_of_lt short) (Nat.le_refl _)
              rw [List.getElem?_eq_none (Nat.le_refl more.length), List.getElem?_eq_getElem short]
                at clash
              cases clash
          have equal : items = more := by
            apply List.ext_getElem?
            intro index
            by_cases inside : index ≤ items.length
            · exact agree index inside (long ▸ inside)
            · rw [List.getElem?_eq_none (by omega), List.getElem?_eq_none (by omega)]
          subst equal
          rw [ih left.tail right.tail]
          intro address value
          rw [left.later, right.later, same]

end Maximal

section Coalesce

theorem places_coalesce :
    Places (coalesce start items chunks) address value ↔
      Places ((start, items) :: chunks) address value := by
  induction chunks generalizing start items with
  | nil => exact Iff.rfl
  | cons chunk rest ih =>
      obtain ⟨begin, more⟩ := chunk
      unfold coalesce
      split
      · rename_i touching
        rw [ih, touching]
        exact places_join
      · rw [places_cons, ih, ← places_cons]

theorem coalesce_front : ∃ run, ∃ runs, coalesce start items chunks = (start, run) :: runs := by
  induction chunks generalizing items with
  | nil => exact ⟨items, [], rfl⟩
  | cons chunk rest ih =>
      obtain ⟨begin, more⟩ := chunk
      unfold coalesce
      split
      · exact ih
      · exact ⟨items, _, rfl⟩

theorem Maximal.cons {begin : Nat} (maximal : Maximal ((begin, more) :: runs)) (solid : items ≠ [])
    (clear : start + items.length < begin) : Maximal ((start, items) :: (begin, more) :: runs) where
  solid := by
    intro run member
    rcases List.mem_cons.mp member with same | later
    · rw [same]
      exact solid
    · exact maximal.solid run later
  apart := by
    refine List.pairwise_cons.mpr ⟨?_, maximal.apart⟩
    intro run member
    rcases List.mem_cons.mp member with same | later
    · rw [same]
      exact clear
    · have beyond := (List.pairwise_cons.mp maximal.apart).1 run later
      dsimp only at beyond ⊢
      omega

theorem Spaced.join {begin : Nat} (spaced : Spaced ((start, items) :: (begin, more) :: rest))
    (touching : begin = start + items.length) : Spaced ((start, items ++ more) :: rest) := by
  obtain ⟨_, behind⟩ := List.pairwise_cons.mp spaced
  obtain ⟨next, others⟩ := List.pairwise_cons.mp behind
  refine List.pairwise_cons.mpr ⟨?_, others⟩
  intro later member
  have clear := next later member
  rw [List.length_append]
  dsimp only at clear ⊢
  omega

theorem coalesce_maximal (solid : items ≠ []) (spaced : Spaced ((start, items) :: chunks))
    (ends : ∀ empty ∈ chunks, empty.2 = [] →
      ∃ chunk ∈ (start, items) :: chunks, chunk.2 ≠ [] ∧ chunk.1 + chunk.2.length = empty.1) :
    Maximal (coalesce start items chunks) := by
  induction chunks generalizing start items with
  | nil =>
      refine ⟨?_, List.pairwise_singleton _ _⟩
      intro run member
      rw [List.mem_singleton.mp member]
      exact solid
  | cons chunk rest ih =>
      obtain ⟨begin, more⟩ := chunk
      obtain ⟨front, behind⟩ := List.pairwise_cons.mp spaced
      obtain ⟨next, _⟩ := List.pairwise_cons.mp behind
      have after := front (begin, more) List.mem_cons_self
      dsimp only at after next
      unfold coalesce
      split
      · rename_i touching
        have joined : items ++ more ≠ [] := fun hollow => solid (List.append_eq_nil_iff.mp hollow).1
        refine ih joined (spaced.join touching) ?_
        intro empty member hollow
        obtain ⟨chunk, found, full, meets⟩ := ends empty (List.mem_cons_of_mem _ member) hollow
        have clear := next empty member
        rcases List.mem_cons.mp found with here | found
        · -- the run ends there already, so nothing was added to it
          subst here
          refine ⟨(start, items ++ more), List.mem_cons_self, joined, ?_⟩
          rw [List.length_append]
          dsimp only at meets ⊢
          omega
        · rcases List.mem_cons.mp found with here | found
          · subst here
            refine ⟨(start, items ++ more), List.mem_cons_self, joined, ?_⟩
            rw [List.length_append]
            dsimp only at meets ⊢
            omega
          · exact ⟨chunk, List.mem_cons_of_mem _ found, full, meets⟩
      · rename_i parted
        have full : more ≠ [] := by
          intro hollow
          obtain ⟨chunk, found, full, meets⟩ := ends (begin, more) List.mem_cons_self hollow
          rcases List.mem_cons.mp found with here | found
          · subst here
            exact parted meets.symm
          · rcases List.mem_cons.mp found with here | found
            · subst here
              exact full hollow
            · have clear := next chunk found
              have long := List.length_pos_of_ne_nil full
              dsimp only at meets
              omega
        have later := ih full behind (by
          intro empty member hollow
          obtain ⟨chunk, found, rest⟩ := ends empty (List.mem_cons_of_mem _ member) hollow
          rcases List.mem_cons.mp found with here | found
          · subst here
            have clear := next empty member
            have meets := rest.2
            dsimp only at meets
            omega
          · exact ⟨chunk, found, rest⟩)
        obtain ⟨run, runs, shape⟩ := @coalesce_front _ begin more rest
        rw [shape] at later ⊢
        exact later.cons solid (by omega)

theorem coalesce_isolated (solid : ∀ run ∈ coalesce start items chunks, run.2 ≠ [])
    {empty : Nat × List Value} (member : empty ∈ (start, items) :: chunks) (hollow : empty.2 = []) :
    ∃ chunk ∈ (start, items) :: chunks, chunk.2 ≠ [] ∧
      (chunk.1 + chunk.2.length = empty.1 ∨ chunk.1 = empty.1) := by
  induction chunks generalizing start items empty with
  | nil =>
      rw [List.mem_singleton.mp member] at hollow
      exact absurd hollow (solid _ List.mem_cons_self)
  | cons chunk rest ih =>
      obtain ⟨begin, more⟩ := chunk
      unfold coalesce at solid
      split at solid
      · rename_i touching
        have within {chunk : Nat × List Value} (found : chunk ∈ rest) :
            chunk ∈ (start, items) :: (begin, more) :: rest :=
          List.mem_cons_of_mem _ (List.mem_cons_of_mem _ found)
        have second : (begin, more) ∈ (start, items) :: (begin, more) :: rest :=
          List.mem_cons_of_mem _ List.mem_cons_self
        by_cases nothing : more = []
        · subst nothing
          rw [List.append_nil] at solid
          have kept {empty : Nat × List Value} (member : empty ∈ (start, items) :: rest)
              (hollow : empty.2 = []) : ∃ chunk ∈ (start, items) :: (begin, []) :: rest,
              chunk.2 ≠ [] ∧ (chunk.1 + chunk.2.length = empty.1 ∨ chunk.1 = empty.1) := by
            obtain ⟨chunk, found, meets⟩ := ih solid member hollow
            rcases List.mem_cons.mp found with here | found
            · exact ⟨chunk, here ▸ List.mem_cons_self, meets⟩
            · exact ⟨chunk, within found, meets⟩
          rcases List.mem_cons.mp member with here | member
          · exact kept (here ▸ List.mem_cons_self) hollow
          · rcases List.mem_cons.mp member with here | member
            · by_cases full : items = []
              · have same : begin = start := by
                  rw [touching, full]
                  rfl
                obtain ⟨chunk, found, solid, meets⟩ := kept List.mem_cons_self full
                refine ⟨chunk, found, solid, ?_⟩
                rw [here]
                change chunk.1 + chunk.2.length = begin ∨ chunk.1 = begin
                rw [same]
                exact meets
              · refine ⟨(start, items), List.mem_cons_self, full, Or.inl ?_⟩
                rw [here]
                exact touching.symm
            · exact kept (List.mem_cons_of_mem _ member) hollow
        · have beginning (hollow : items = []) : begin = start := by
            rw [touching, hollow]
            rfl
          rcases List.mem_cons.mp member with here | member
          · subst here
            exact ⟨(begin, more), second, nothing, Or.inr (beginning hollow)⟩
          · rcases List.mem_cons.mp member with here | member
            · subst here
              exact absurd hollow nothing
            · obtain ⟨chunk, found, full, meets⟩ := ih solid (List.mem_cons_of_mem _ member) hollow
              rcases List.mem_cons.mp found with here | found
              · subst here
                rw [List.length_append] at meets
                rcases meets with ending | beginning'
                · refine ⟨(begin, more), second, nothing, Or.inl ?_⟩
                  dsimp only at ending ⊢
                  omega
                · by_cases empty : items = []
                  · exact ⟨(begin, more), second, nothing, Or.inr ((beginning empty).trans beginning')⟩
                  · exact ⟨(start, items), List.mem_cons_self, empty, Or.inr beginning'⟩
              · exact ⟨chunk, within found, full, meets⟩
      · rcases List.mem_cons.mp member with here | member
        · subst here
          exact absurd hollow (solid _ List.mem_cons_self)
        · obtain ⟨chunk, found, meets⟩ :=
            ih (fun run found => solid run (List.mem_cons_of_mem _ found)) member hollow
          exact ⟨chunk, List.mem_cons_of_mem _ found, meets⟩

end Coalesce

section Spacing

theorem Spaced.nonOverlapping (spaced : Spaced chunks) : NonOverlapping chunks := by
  refine spaced.imp ?_
  rintro one other apart address ⟨⟨_, before⟩, ⟨behind, _⟩⟩
  omega

theorem NonOverlapping.perm (same : chunks.Perm others) : NonOverlapping chunks ↔ NonOverlapping others :=
  same.pairwise_iff (fun clear address both => clear address ⟨both.2, both.1⟩)

theorem NonOverlapping.apart (disjoint : NonOverlapping chunks) {one other : Nat × List Value}
    (first : one ∈ chunks) (second : other ∈ chunks) (distinct : one ≠ other) (address : Nat) :
    ¬ (Covers one address ∧ Covers other address) := by
  have symmetric : Std.Symm (fun one other : Nat × List Value =>
      ∀ address, ¬ (Covers one address ∧ Covers other address)) :=
    ⟨fun _ _ clear address both => clear address ⟨both.2, both.1⟩⟩
  exact List.Pairwise.forall disjoint first second distinct address

theorem EmptiesAtEnds.perm (same : chunks.Perm others) (ends : EmptiesAtEnds chunks) :
    EmptiesAtEnds others := by
  intro empty member hollow
  obtain ⟨⟨chunk, found, meets⟩, starts⟩ := ends empty (same.mem_iff.mpr member) hollow
  exact ⟨⟨chunk, same.mem_iff.mp found, meets⟩,
    fun other within => starts other (same.mem_iff.mpr within)⟩

theorem spaced_of_sorted (sorted : chunks.Pairwise (fun left right => left.1 ≤ right.1))
    (disjoint : NonOverlapping chunks) (ends : EmptiesAtEnds chunks) : Spaced chunks := by
  refine (sorted.and disjoint).imp_of_mem ?_
  rintro left right first second ⟨order, clear⟩
  by_cases empty : left.2 = []
  · rw [empty]
    exact order
  · have long := List.length_pos_of_ne_nil empty
    by_cases hollow : right.2 = []
    · obtain ⟨⟨chunk, found, full, meets⟩, starts⟩ := ends right second hollow
      have later := starts left first empty
      by_cases same : left = chunk
      · rw [same]
        exact Nat.le_of_eq meets
      · have more := List.length_pos_of_ne_nil full
        have shared := disjoint.apart first found same (right.1 - 1)
        unfold Covers at shared
        omega
    · have more := List.length_pos_of_ne_nil hollow
      have shared := clear right.1
      unfold Covers at shared
      omega

theorem Maximal.spaced (maximal : Maximal runs) : Spaced runs :=
  maximal.apart.imp Nat.le_of_lt

theorem near_exists (runs : Placement Value) : ∃ gap, Near gap runs := by
  refine ⟨(runs.map Prod.fst).sum, List.Pairwise.isChain ?_⟩
  apply List.pairwise_of_forall_mem_list
  intro _ _ later member
  have bound : later.1 ≤ (runs.map Prod.fst).sum :=
    List.le_sum_of_mem (List.mem_map_of_mem member)
  omega

theorem sorted_insertionSort (chunks : Placement Value) :
    (chunks.insertionSort (fun left right => left.1 ≤ right.1)).Pairwise
      (fun left right => left.1 ≤ right.1) := by
  have total : Std.Total (fun left right : Nat × List Value => left.1 ≤ right.1) :=
    ⟨fun left right => Nat.le_total left.1 right.1⟩
  have trans : IsTrans (Nat × List Value) (fun left right => left.1 ≤ right.1) :=
    ⟨fun _ _ _ => Nat.le_trans⟩
  exact List.pairwise_insertionSort _ chunks

theorem places_filter :
    Places (chunks.filter (fun chunk => !chunk.2.isEmpty)) address value ↔
      Places chunks address value := by
  constructor
  · rintro ⟨chunk, member, placed⟩
    exact ⟨chunk, (List.mem_filter.mp member).1, placed⟩
  · rintro ⟨chunk, member, index, same, found⟩
    refine ⟨chunk, List.mem_filter.mpr ⟨member, ?_⟩, index, same, found⟩
    cases shape : chunk.2 with
    | nil =>
        rw [shape] at found
        cases found
    | cons first rest => rfl

theorem NonOverlapping.exists_runs (clear : NonOverlapping chunks) :
    ∃ runs, Maximal runs ∧ ∀ address value, Places runs address value ↔ Places chunks address value := by
  have perm := List.perm_insertionSort (fun left right : Nat × List Value => left.1 ≤ right.1)
    (chunks.filter (fun chunk => !chunk.2.isEmpty))
  have order := sorted_insertionSort (chunks.filter (fun chunk => !chunk.2.isEmpty))
  have apart := (NonOverlapping.perm perm).mpr (List.Pairwise.filter _ clear)
  have solid : ∀ chunk ∈ (chunks.filter (fun chunk => !chunk.2.isEmpty)).insertionSort
      (fun left right => left.1 ≤ right.1), chunk.2 ≠ [] := by
    intro chunk member hollow
    have kept := (List.mem_filter.mp (perm.mem_iff.mp member)).2
    rw [hollow] at kept
    cases kept
  have spaced := spaced_of_sorted order apart
    (fun chunk member hollow => absurd hollow (solid chunk member))
  have same (address : Nat) (value : Value) :=
    (@Places.perm _ address value _ _ perm).trans places_filter
  cases shape : (chunks.filter (fun chunk => !chunk.2.isEmpty)).insertionSort
      (fun left right => left.1 ≤ right.1) with
  | nil =>
      rw [shape] at same
      exact ⟨[], ⟨nofun, List.Pairwise.nil⟩, same⟩
  | cons first rest =>
      obtain ⟨start, items⟩ := first
      rw [shape] at same spaced solid
      refine ⟨coalesce start items rest, coalesce_maximal (solid _ List.mem_cons_self) spaced
        (fun empty member hollow => absurd hollow (solid empty (List.mem_cons_of_mem _ member))), ?_⟩
      intro address value
      exact places_coalesce.trans (same address value)

end Spacing

end Placement
