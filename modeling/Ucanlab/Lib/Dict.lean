import Mathlib.Algebra.GroupWithZero.Nat
import Mathlib.Data.List.Nodup
import Mathlib.Data.List.Perm.Basic

/-!
A dictionary in insertion order: a new key goes to the end, a present one keeps
its place. Where the keys are distinct, setting and erasing a key are told up to
the order of the entries, so that lengths and counts follow.
-/

universe u v

abbrev Dict (Key : Type u) (Value : Type v) := List (Key × Value)

namespace Dict

variable {Key : Type u} {Value : Type v} [DecidableEq Key]

def get? : Dict Key Value → Key → Option Value
  | [], _ => none
  | entry :: rest, key => if entry.1 = key then some entry.2 else get? rest key

def contains (dict : Dict Key Value) (key : Key) : Bool := (dict.get? key).isSome

def set : Dict Key Value → Key → Value → Dict Key Value
  | [], key, value => [(key, value)]
  | entry :: rest, key, value =>
      if entry.1 = key then (key, value) :: rest else entry :: set rest key value

def erase (dict : Dict Key Value) (key : Key) : Dict Key Value :=
  dict.filter (fun entry => decide (entry.1 ≠ key))

@[simp]
theorem get?_singleton (key : Key) (value : Value) : get? [(key, value)] key = some value := by
  simp only [get?, if_true]

@[simp]
theorem set_singleton (key : Key) (old new : Value) : set [(key, old)] key new = [(key, new)] := by
  simp only [set, if_true]

theorem get?_set_self (dict : Dict Key Value) (key : Key) (value : Value) :
    (dict.set key value).get? key = some value := by
  induction dict with
  | nil => exact get?_singleton key value
  | cons entry rest ih =>
      unfold set
      split
      · exact if_pos rfl
      · rename_i other
        exact (if_neg other).trans ih

@[simp]
theorem erase_singleton (key : Key) (value : Value) : erase [(key, value)] key = [] := by
  simp [erase]

def keys (dict : Dict Key Value) : List Key := dict.map Prod.fst

section Lookup

theorem mem_of_get? {dict : Dict Key Value} {key : Key} {value : Value}
    (found : dict.get? key = some value) : (key, value) ∈ dict := by
  induction dict with
  | nil => cases found
  | cons entry rest ih =>
      unfold get? at found
      split at found
      · rename_i same
        cases found
        rw [← same]
        exact List.mem_cons_self ..
      · exact List.mem_cons_of_mem entry (ih found)

omit [DecidableEq Key] in
theorem mem_keys {dict : Dict Key Value} {entry : Key × Value} (member : entry ∈ dict) :
    entry.1 ∈ dict.keys := List.mem_map_of_mem member

theorem get?_eq_none_iff {dict : Dict Key Value} {key : Key} :
    dict.get? key = none ↔ key ∉ dict.keys := by
  induction dict with
  | nil => simp [get?, keys]
  | cons entry rest ih =>
      by_cases same : entry.1 = key
      · simp [get?, keys, same]
      · have other : key ≠ entry.1 := fun equal => same equal.symm
        simp only [get?, if_neg same, keys, List.map_cons, List.mem_cons, not_or]
        exact ⟨fun absent => ⟨other, ih.mp absent⟩, fun absent => ih.mpr absent.2⟩

theorem contains_iff {dict : Dict Key Value} {key : Key} :
    dict.contains key = true ↔ key ∈ dict.keys := by
  unfold contains
  rw [← not_iff_not, ← get?_eq_none_iff]
  simp

theorem get?_of_mem {dict : Dict Key Value} (distinct : dict.keys.Nodup) {key : Key} {value : Value}
    (member : (key, value) ∈ dict) : dict.get? key = some value := by
  induction dict with
  | nil => cases member
  | cons entry rest ih =>
      obtain ⟨fresh, distinctRest⟩ := List.nodup_cons.mp distinct
      rcases List.mem_cons.mp member with same | later
      · rw [← same]
        exact if_pos rfl
      · have other : entry.1 ≠ key := fun equal => fresh (equal ▸ mem_keys later)
        exact (if_neg other).trans (ih distinctRest later)

theorem get?_of_sublist {dict fewer : Dict Key Value} (distinct : dict.keys.Nodup)
    (shorter : fewer.Sublist dict) {key : Key} {value : Value}
    (found : fewer.get? key = some value) : dict.get? key = some value :=
  get?_of_mem distinct (shorter.subset (mem_of_get? found))

theorem get?_erase_self (dict : Dict Key Value) (key : Key) : (dict.erase key).get? key = none := by
  rw [get?_eq_none_iff]
  simp [keys, erase]

theorem get?_erase_ne (dict : Dict Key Value) {key other : Key} (ne : other ≠ key) :
    (dict.erase key).get? other = dict.get? other := by
  induction dict with
  | nil => rfl
  | cons entry rest ih =>
      by_cases same : entry.1 = key
      · have apart : ¬ entry.1 = other := fun equal => ne (equal.symm.trans same)
        have dropped : erase (entry :: rest) key = erase rest key :=
          List.filter_cons_of_neg (by simp [same])
        rw [dropped, ih]
        exact (if_neg apart).symm
      · have kept : erase (entry :: rest) key = entry :: erase rest key :=
          List.filter_cons_of_pos (by simp [same])
        rw [kept]
        simp only [get?, ih]

theorem get?_set_ne (dict : Dict Key Value) {key other : Key} (ne : other ≠ key) (value : Value) :
    (dict.set key value).get? other = dict.get? other := by
  induction dict with
  | nil => exact if_neg ne.symm
  | cons entry rest ih =>
      unfold set
      split
      · rename_i same
        have apart : ¬ entry.1 = other := fun equal => ne (equal.symm.trans same)
        simp only [get?, if_neg apart, if_neg ne.symm]
      · simp only [get?, ih]

theorem mem_keys_set {dict : Dict Key Value} {key other : Key} {value : Value} :
    other ∈ (dict.set key value).keys ↔ other = key ∨ other ∈ dict.keys := by
  rw [← not_iff_not, ← get?_eq_none_iff, not_or, ← get?_eq_none_iff]
  by_cases same : other = key
  · rw [same, get?_set_self]
    exact iff_of_false (Option.some_ne_none value) (fun both => both.1 rfl)
  · rw [get?_set_ne dict same]
    exact (and_iff_right same).symm

theorem mem_keys_erase {dict : Dict Key Value} {key other : Key} :
    other ∈ (dict.erase key).keys ↔ other ≠ key ∧ other ∈ dict.keys := by
  rw [← not_iff_not, ← get?_eq_none_iff]
  by_cases same : other = key
  · rw [same, get?_erase_self]
    exact iff_of_true rfl (fun both => both.1 rfl)
  · rw [get?_erase_ne dict same, get?_eq_none_iff, and_iff_right same]

theorem get?_filter (dict : Dict Key Value) (keep : Key → Bool) (key : Key) :
    get? (dict.filter (fun entry => keep entry.1)) key =
      if keep key then dict.get? key else none := by
  induction dict with
  | nil => split <;> rfl
  | cons entry rest ih =>
      by_cases kept : keep entry.1 = true
      · rw [List.filter_cons_of_pos (by simpa using kept)]
        by_cases same : entry.1 = key
        · rw [same] at kept
          simp only [get?, if_pos same, if_pos kept]
        · simp only [get?, if_neg same, ih]
      · rw [List.filter_cons_of_neg (by simpa using kept), ih]
        by_cases same : entry.1 = key
        · rw [same] at kept
          simp only [if_neg kept]
        · simp only [get?, if_neg same]

theorem get?_filter_value {dict : Dict Key Value} (distinct : dict.keys.Nodup) (keep : Value → Bool)
    (key : Key) :
    get? (dict.filter (fun entry => keep entry.2)) key = (dict.get? key).filter keep := by
  induction dict with
  | nil => rfl
  | cons entry rest ih =>
      obtain ⟨fresh, distinctRest⟩ := List.nodup_cons.mp distinct
      have later := ih distinctRest
      by_cases kept : keep entry.2 = true
      · rw [List.filter_cons_of_pos (by simpa using kept)]
        by_cases same : entry.1 = key
        · simp only [get?, if_pos same, Option.filter, kept, if_true]
        · simp only [get?, if_neg same, later]
      · rw [List.filter_cons_of_neg (by simpa using kept), later]
        by_cases same : entry.1 = key
        · have absent : key ∉ keys rest := same ▸ fresh
          rw [get?_eq_none_iff.mpr absent]
          simp only [get?, if_pos same, Option.filter, kept]
          rfl
        · simp only [get?, if_neg same]

end Lookup

section Update

theorem mem_erase {dict : Dict Key Value} {key : Key} {entry : Key × Value} :
    entry ∈ dict.erase key ↔ entry ∈ dict ∧ entry.1 ≠ key := by
  simp [erase, List.mem_filter]

theorem erase_of_absent {dict : Dict Key Value} {key : Key} (absent : key ∉ dict.keys) :
    dict.erase key = dict := by
  refine List.filter_eq_self.mpr ?_
  intro entry member
  exact decide_eq_true (fun equal => absurd (mem_keys member) (equal ▸ absent))

theorem keys_erase_sublist (dict : Dict Key Value) (key : Key) :
    (dict.erase key).keys.Sublist dict.keys :=
  List.Sublist.map Prod.fst List.filter_sublist

theorem perm_cons_erase {dict : Dict Key Value} (distinct : dict.keys.Nodup) {entry : Key × Value}
    (member : entry ∈ dict) : dict.Perm (entry :: dict.erase entry.1) := by
  induction dict with
  | nil => cases member
  | cons head rest ih =>
      obtain ⟨fresh, distinctRest⟩ := List.nodup_cons.mp distinct
      rcases List.mem_cons.mp member with same | later
      · have dropped : erase (head :: rest) entry.1 = rest := by
          rw [same]
          have removed : erase (head :: rest) head.1 = erase rest head.1 :=
            List.filter_cons_of_neg (by simp)
          rw [removed, erase_of_absent fresh]
        rw [dropped, same]
      · have other : head.1 ≠ entry.1 := fun equal => fresh (equal ▸ mem_keys later)
        have kept : erase (head :: rest) entry.1 = head :: erase rest entry.1 :=
          List.filter_cons_of_pos (by simp [other])
        rw [kept]
        exact (List.Perm.cons head (ih distinctRest later)).trans (List.Perm.swap _ _ _)

theorem set_of_absent {dict : Dict Key Value} {key : Key} (value : Value)
    (absent : key ∉ dict.keys) : dict.set key value = dict ++ [(key, value)] := by
  induction dict with
  | nil => rfl
  | cons entry rest ih =>
      have other : ¬ entry.1 = key := fun equal => absent (equal ▸ List.mem_cons_self ..)
      have later : key ∉ keys rest := fun member => absent (List.mem_cons_of_mem _ member)
      simp only [set, if_neg other, ih later, List.cons_append]

theorem keys_set_of_present {dict : Dict Key Value} {key : Key} (value : Value)
    (present : key ∈ dict.keys) : (dict.set key value).keys = dict.keys := by
  induction dict with
  | nil => cases present
  | cons entry rest ih =>
      unfold set
      split
      · rename_i same
        simp [keys, same]
      · rename_i other
        have later : key ∈ keys rest :=
          (List.mem_cons.mp present).resolve_left (fun equal => other equal.symm)
        exact congrArg (entry.1 :: ·) (ih later)

theorem nodup_keys_set {dict : Dict Key Value} (distinct : dict.keys.Nodup) (key : Key)
    (value : Value) : (dict.set key value).keys.Nodup := by
  by_cases present : key ∈ dict.keys
  · rw [keys_set_of_present value present]
    exact distinct
  · rw [set_of_absent value present]
    unfold keys at distinct present ⊢
    rw [List.map_append, List.nodup_append]
    refine ⟨distinct, List.nodup_singleton key, ?_⟩
    intro old member new here same
    rw [List.mem_singleton.mp here] at same
    rw [same] at member
    exact present member

theorem length_set_of_present {dict : Dict Key Value} {key : Key} (value : Value)
    (present : key ∈ dict.keys) : (dict.set key value).length = dict.length := by
  have same := congrArg List.length (keys_set_of_present value present)
  unfold keys at same
  rwa [List.length_map, List.length_map] at same

theorem length_erase_lt {dict : Dict Key Value} {key : Key} (present : key ∈ dict.keys) :
    (dict.erase key).length < dict.length := by
  obtain ⟨entry, member, same⟩ := List.mem_map.mp present
  apply List.length_filter_lt_length_iff_exists.mpr
  exact ⟨entry, member, by simp [same]⟩

theorem erase_set (dict : Dict Key Value) (key : Key) (value : Value) :
    (dict.set key value).erase key = dict.erase key := by
  induction dict with
  | nil => simp [set, erase]
  | cons entry rest ih =>
      unfold set
      split
      · rename_i same
        simp [erase, same]
      · rename_i other
        have kept (tail : Dict Key Value) : erase (entry :: tail) key = entry :: erase tail key :=
          List.filter_cons_of_pos (by simp [other])
        rw [kept, kept, ih]

theorem mem_of_mem_set {dict : Dict Key Value} {key : Key} {value : Value} {entry : Key × Value}
    (member : entry ∈ dict.set key value) : entry = (key, value) ∨ entry ∈ dict := by
  induction dict with
  | nil => exact Or.inl (List.mem_singleton.mp member)
  | cons head rest ih =>
      unfold set at member
      split at member
      · exact (List.mem_cons.mp member).imp_right (List.mem_cons_of_mem head)
      · rcases List.mem_cons.mp member with first | later
        · exact Or.inr (first ▸ List.mem_cons_self ..)
        · exact (ih later).imp_right (List.mem_cons_of_mem head)

theorem mem_set {dict : Dict Key Value} (distinct : dict.keys.Nodup) {key : Key} {value : Value}
    {entry : Key × Value} :
    entry ∈ dict.set key value ↔ entry = (key, value) ∨ (entry ∈ dict ∧ entry.1 ≠ key) := by
  induction dict with
  | nil => simp [set]
  | cons head rest ih =>
      obtain ⟨fresh, distinctRest⟩ := List.nodup_cons.mp distinct
      unfold set
      split
      · rename_i same
        rw [List.mem_cons, List.mem_cons]
        constructor
        · rintro (first | later)
          · exact Or.inl first
          · exact Or.inr ⟨Or.inr later, fun equal => fresh (same ▸ equal ▸ mem_keys later)⟩
        · rintro (first | ⟨first | later, other⟩)
          · exact Or.inl first
          · exact absurd (first ▸ same) other
          · exact Or.inr later
      · rename_i other
        rw [List.mem_cons, List.mem_cons, ih distinctRest]
        constructor
        · rintro (first | here | ⟨later, apart⟩)
          · exact Or.inr ⟨Or.inl first, first ▸ other⟩
          · exact Or.inl here
          · exact Or.inr ⟨Or.inr later, apart⟩
        · rintro (here | ⟨first | later, apart⟩)
          · exact Or.inr (Or.inl here)
          · exact Or.inl first
          · exact Or.inr (Or.inr ⟨later, apart⟩)

theorem perm_set_of_mem {dict : Dict Key Value} (distinct : dict.keys.Nodup)
    {entry : Key × Value} (member : entry ∈ dict) (value : Value) :
    (dict.set entry.1 value).Perm ((entry.1, value) :: dict.erase entry.1) := by
  have present := mem_keys member
  have distinctSet : (dict.set entry.1 value).keys.Nodup := by
    rw [keys_set_of_present value present]
    exact distinct
  have stored : (entry.1, value) ∈ dict.set entry.1 value := (mem_set distinct).mpr (Or.inl rfl)
  have split := perm_cons_erase distinctSet stored
  rw [erase_set] at split
  exact split

end Update

section Sum

variable (weight : Value → Nat)

theorem sum_set (dict : Dict Key Value) (key : Key) (value : Value) :
    ((dict.set key value).map (fun entry => weight entry.2)).sum +
        ((dict.get? key).map weight).getD 0 =
      (dict.map (fun entry => weight entry.2)).sum + weight value := by
  induction dict with
  | nil => exact Nat.zero_add _ ▸ rfl
  | cons entry rest ih =>
      unfold set get?
      by_cases here : entry.1 = key
      · rw [if_pos here, if_pos here, List.map_cons, List.map_cons, List.sum_cons, List.sum_cons]
        change weight value + _ + weight entry.2 = _
        omega
      · rw [if_neg here, if_neg here, List.map_cons, List.map_cons, List.sum_cons, List.sum_cons]
        omega

theorem le_sum_of_get? (dict : Dict Key Value) (key : Key) :
    ((dict.get? key).map weight).getD 0 ≤ (dict.map (fun entry => weight entry.2)).sum := by
  induction dict with
  | nil => exact Nat.le_refl 0
  | cons entry rest ih =>
      unfold get?
      rw [List.map_cons, List.sum_cons]
      split
      · exact Nat.le_add_right _ _
      · exact Nat.le_trans ih (Nat.le_add_left _ _)

end Sum

end Dict

/-!
A dictionary used as a cache that forgets its least recently used entry. Whatever every entry
satisfied when it was stored, every entry satisfies that is still there.
-/

namespace LruCache

variable {Key : Type u} {Value : Type v} {good : Key → Value → Prop}
  {cache : Dict Key Value} {key : Key} {value : Value} {limit : Nat}

def evict (limit : Nat) (cache : Dict Key Value) : Dict Key Value :=
  if cache.length > limit then cache.tail else cache

def Faithful (good : Key → Value → Prop) (cache : Dict Key Value) : Prop :=
  ∀ entry ∈ cache, good entry.1 entry.2

theorem faithful_nil : Faithful good [] := nofun

theorem Faithful.evict (faithful : Faithful good cache) : Faithful good (evict limit cache) := by
  unfold LruCache.evict
  split
  · exact fun entry member => faithful entry (List.mem_of_mem_tail member)
  · exact faithful

variable [DecidableEq Key]

/-- The entry becomes the most recent one. -/
def touch (cache : Dict Key Value) (key : Key) : Dict Key Value :=
  match cache.get? key with
  | none => cache
  | some value => cache.erase key ++ [(key, value)]

theorem Faithful.get? (faithful : Faithful good cache) (found : cache.get? key = some value) :
    good key value :=
  faithful (key, value) (Dict.mem_of_get? found)

theorem Faithful.touch (faithful : Faithful good cache) : Faithful good (touch cache key) := by
  unfold LruCache.touch
  cases found : cache.get? key with
  | none => exact faithful
  | some value =>
      intro entry member
      rcases List.mem_append.mp member with kept | last
      · exact faithful entry (Dict.mem_erase.mp kept).1
      · rw [List.mem_singleton.mp last]
        exact faithful.get? found

theorem Faithful.set (faithful : Faithful good cache) (fresh : good key value) :
    Faithful good (cache.set key value) := by
  intro entry member
  rcases Dict.mem_of_mem_set member with here | kept
  · rw [here]
    exact fresh
  · exact faithful entry kept

end LruCache
