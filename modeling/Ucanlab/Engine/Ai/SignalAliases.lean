import Mathlib.Data.Char
import Mathlib.Data.List.Lex
import Mathlib.Data.List.Dedup
import Mathlib.Data.List.DropRight
import Mathlib.Data.List.Infix
import Mathlib.Data.List.Sort
import Ucanlab.Core.CharTable
import Ucanlab.Lib.Dict

/-!
Signal names and their aliases: the spelling that a name is reduced to, the map that a file of alias
records gives, and the canonical name a signal resolves to. Reading the file and its cache are left
out.
-/

namespace Ucanlab.Engine.Ai

open Ucanlab

abbrev Name := List Char

section Spelling

variable (table : LowerTable)

/-- One round of `replace("--", "-")`. -/
def halveDashes : Name → Name
  | '-' :: '-' :: rest => '-' :: halveDashes rest
  | c :: rest => c :: halveDashes rest
  | [] => []

def doubleDash (name : Name) : Bool := decide (['-', '-'] <:+: name)

/-- `while "--" in name`, for as many rounds as there are characters. -/
def collapseDashes : Nat → Name → Name
  | 0, name => name
  | rounds + 1, name =>
      if doubleDash name then collapseDashes rounds (halveDashes name) else name

def isDash (c : Char) : Bool := c == '-'

/-- `strip("-")`. -/
def stripDashes (name : Name) : Name := (name.dropWhile isDash).rdropWhile isDash

def dashFor (c : Char) : Char := if c = ' ' ∨ c = '_' then '-' else c

/-- `_normalize_signal`. -/
def normalizeSignal (name : Name) : Name :=
  let lowered := (table.lowerText (pyStrip name)).map dashFor
  stripDashes (collapseDashes lowered.length lowered)

def operatorSignalPrefix : Name := ['O', 'P', ':']

def operatorQuestionPrefix : Name := ['Q', '_', 'S', 'I', 'G', '_']

def withoutStart (start name : Name) : Name :=
  if start.isPrefixOf name then name.drop start.length else name

/-- `_canonical_signal_name`. -/
def canonicalSignalName (name : Name) : Name :=
  withoutStart operatorQuestionPrefix (withoutStart operatorSignalPrefix name)

def spelling (name : Name) : Name := normalizeSignal table (canonicalSignalName name)

end Spelling

section Loader

variable (table : LowerTable)

structure AliasRecord where
  canonical : Option Name
  sourceForms : Option (List (Option Name))
  nodeSide : Option (List (Option Name)) := none

/-- The records of a payload; it has none where its shape is another. -/
abbrev AliasPayload := Option (List (Option AliasRecord))

def usableText (text : Option Name) : Option Name :=
  text.filter (fun name => decide (pyStrip name ≠ []))

structure AliasEntry where
  canonical : Name
  aliases : List Name

def readAliases (canonicalNorm : Name) (forms : List (Option Name)) : List Name :=
  (forms.filterMap usableText).filterMap (fun form =>
    let formNorm := normalizeSignal table form
    if formNorm = [] ∨ formNorm = canonicalNorm then none else some formNorm)

def readRecord (record : AliasRecord) : Option AliasEntry :=
  match usableText record.canonical with
  | none => none
  | some canonical =>
      let canonicalNorm := normalizeSignal table canonical
      if canonicalNorm = [] then none
      else
        match record.sourceForms with
        | none => none
        | some forms =>
            let forms := match record.nodeSide with
              | none => forms
              | some nodeSide => forms ++ nodeSide.filter (fun form => decide (form ∉ forms))
            some { canonical := canonicalNorm, aliases := readAliases table canonicalNorm forms }

def entries (payload : AliasPayload) : List AliasEntry :=
  (payload.getD []).filterMap (fun record => record.bind (readRecord table))

/-- The first record wins. -/
def noteAlias (canonical : Name) (mapping : Dict Name Name) (listed : Name) : Dict Name Name :=
  if mapping.contains listed ∧ mapping.get? listed ≠ some canonical then mapping
  else mapping.set listed canonical

/-- `sorted(set(names))`. -/
def sortedSet (names : List Name) : List Name :=
  names.dedup.insertionSort (fun first second => first ≤ second)

def noteEntry (mapping : Dict Name Name) (entry : AliasEntry) : Dict Name Name :=
  (sortedSet entry.aliases).foldl (noteAlias entry.canonical) mapping

def setDefault (mapping : Dict Name Name) (name : Name) : Dict Name Name :=
  if mapping.contains name then mapping else mapping.set name name

/-- `_validate_aliases_payload`. -/
def validateAliases (payload : AliasPayload) : Dict Name Name :=
  let entries := entries table payload
  (sortedSet (entries.map AliasEntry.canonical)).foldl setDefault (entries.foldl noteEntry [])

/-- `canonicalize_signal`. -/
def canonicalizeSignal (aliases : Dict Name Name) (name : Name) : Name :=
  let normalized := spelling table name
  if normalized = [] then normalized else (aliases.get? normalized).getD normalized

end Loader

section Strip

variable {p : Char → Bool} {name : Name}

theorem strip_infix : (name.dropWhile p).rdropWhile p <:+: name :=
  (List.rdropWhile_prefix p (name.dropWhile p)).isInfix.trans (List.dropWhile_suffix p).isInfix

theorem strip_idempotent :
    (((name.dropWhile p).rdropWhile p).dropWhile p).rdropWhile p =
      (name.dropWhile p).rdropWhile p := by
  have front : ((name.dropWhile p).rdropWhile p).dropWhile p = (name.dropWhile p).rdropWhile p := by
    have start := List.rdropWhile_prefix p (name.dropWhile p)
    cases kept : (name.dropWhile p).rdropWhile p with
    | nil => rfl
    | cons c rest =>
        rw [kept] at start
        obtain ⟨more, whole⟩ := start
        have first := List.head?_dropWhile_not p name
        rw [← whole] at first
        exact List.dropWhile_cons_of_neg (Bool.eq_false_iff.mp first)
  rw [front, List.rdropWhile_idempotent p]

theorem pyStrip_eq (text : Name) : pyStrip text = (text.dropWhile isPySpace).rdropWhile isPySpace :=
  rfl

end Strip

section Dashes

variable {name : Name}

theorem halveDashes_subset : halveDashes name ⊆ name := by
  induction name using halveDashes.induct with
  | case1 rest ih =>
      unfold halveDashes
      exact List.cons_subset_cons _ (List.Subset.trans ih (List.subset_cons_self _ _))
  | case2 c rest other ih =>
      rw [halveDashes]
      · exact List.cons_subset_cons _ ih
      · exact other
  | case3 => exact List.Subset.refl _

theorem halveDashes_length_le : (halveDashes name).length ≤ name.length := by
  induction name using halveDashes.induct with
  | case1 rest ih =>
      unfold halveDashes
      simp only [List.length_cons]
      omega
  | case2 c rest other ih =>
      rw [halveDashes]
      · exact Nat.succ_le_succ ih
      · exact other
  | case3 => exact Nat.le_refl _

theorem doubleDash_cons {c : Char} {rest : Name} (other : ∀ more, c = '-' → rest ≠ '-' :: more) :
    doubleDash (c :: rest) = doubleDash rest := by
  unfold doubleDash
  rw [decide_eq_decide, List.infix_cons_iff]
  refine or_iff_right ?_
  rintro ⟨more, whole⟩
  cases whole
  exact other more rfl rfl

theorem halveDashes_length_lt (double : doubleDash name = true) :
    (halveDashes name).length < name.length := by
  induction name using halveDashes.induct with
  | case1 rest ih =>
      have shorter := @halveDashes_length_le rest
      unfold halveDashes
      simp only [List.length_cons]
      omega
  | case2 c rest other ih =>
      have inner : doubleDash rest = true := by
        rw [← double]
        refine (doubleDash_cons (fun more dash whole => other more dash whole)).symm
      rw [halveDashes]
      · exact Nat.succ_lt_succ (ih inner)
      · exact other
  | case3 => exact absurd double (by decide)

theorem collapseDashes_single {rounds : Nat} (enough : name.length ≤ rounds) :
    doubleDash (collapseDashes rounds name) = false := by
  induction rounds generalizing name with
  | zero =>
      rw [List.length_eq_zero_iff.mp (Nat.le_zero.mp enough)]
      decide
  | succ rounds ih =>
      unfold collapseDashes
      split
      next double => exact ih (by have := halveDashes_length_lt double; omega)
      next single => exact Bool.eq_false_iff.mpr single

theorem collapseDashes_subset {rounds : Nat} : collapseDashes rounds name ⊆ name := by
  induction rounds generalizing name with
  | zero => exact List.Subset.refl _
  | succ rounds ih =>
      unfold collapseDashes
      split
      · exact List.Subset.trans ih halveDashes_subset
      · exact List.Subset.refl _

theorem collapseDashes_length_le {rounds : Nat} :
    (collapseDashes rounds name).length ≤ name.length := by
  induction rounds generalizing name with
  | zero => exact Nat.le_refl _
  | succ rounds ih =>
      unfold collapseDashes
      split
      · exact ih.trans halveDashes_length_le
      · exact Nat.le_refl _

theorem collapseDashes_of_single {rounds : Nat} (single : doubleDash name = false) :
    collapseDashes rounds name = name := by
  cases rounds with
  | zero => rfl
  | succ rounds =>
      unfold collapseDashes
      rw [single]
      rfl

end Dashes

section Normal

variable {table : LowerTable} {name : Name}

structure Normal (table : LowerTable) (name : Name) : Prop where
  fixed : ∀ c ∈ name, table.Fixed c
  dashed : ∀ c ∈ name, dashFor c = c
  single : doubleDash name = false
  stripped : stripDashes name = name

theorem dashFor_dashFor (c : Char) : dashFor (dashFor c) = dashFor c := by
  unfold dashFor
  split
  · rfl
  · rfl

theorem dashFor_fixed {c : Char} (fixed : table.Fixed c) : table.Fixed (dashFor c) := by
  unfold dashFor
  split
  · exact table.ascii '-' (by decide)
  · exact fixed

theorem normalizeSignal_normal (name : Name) : Normal table (normalizeSignal table name) := by
  have inner : stripDashes (collapseDashes ((table.lowerText (pyStrip name)).map dashFor).length
      ((table.lowerText (pyStrip name)).map dashFor)) <:+:
        collapseDashes ((table.lowerText (pyStrip name)).map dashFor).length
          ((table.lowerText (pyStrip name)).map dashFor) := strip_infix
  have origin : ∀ c ∈ normalizeSignal table name, ∃ d ∈ table.lowerText (pyStrip name),
      dashFor d = c :=
    fun c member => List.mem_map.mp (collapseDashes_subset (inner.subset member))
  refine ⟨?_, ?_, ?_, strip_idempotent⟩
  · intro c member
    obtain ⟨d, inside, rfl⟩ := origin c member
    exact dashFor_fixed (LowerTable.lowerText_fixed inside)
  · intro c member
    obtain ⟨d, -, rfl⟩ := origin c member
    exact dashFor_dashFor d
  · have single := @collapseDashes_single ((table.lowerText (pyStrip name)).map dashFor) _ (le_refl _)
    refine decide_eq_false (fun double => ?_)
    exact of_decide_eq_false single (double.trans inner)

theorem Normal.normalize (normal : Normal table name) :
    normalizeSignal table name =
      stripDashes (collapseDashes (pyStrip name).length (pyStrip name)) := by
  have inside : pyStrip name ⊆ name := strip_infix.subset
  have lowered : table.lowerText (pyStrip name) = pyStrip name :=
    LowerTable.lowerText_of_fixed (fun c member => normal.fixed c (inside member))
  have dashed : (pyStrip name).map dashFor = pyStrip name :=
    (List.map_congr_left (fun c member => normal.dashed c (inside member))).trans (List.map_id _)
  unfold normalizeSignal
  rw [lowered, dashed]

/-- No white space at the ends. -/
def Settled (name : Name) : Prop := pyStrip name = name

instance (name : Name) : Decidable (Settled name) := inferInstanceAs (Decidable (_ = _))

theorem Normal.normalize_settled (normal : Normal table name) (settled : Settled name) :
    normalizeSignal table name = name := by
  rw [normal.normalize, show pyStrip name = name from settled,
    collapseDashes_of_single normal.single, normal.stripped]

theorem Normal.normalize_ne (normal : Normal table name) (unsettled : ¬ Settled name) :
    normalizeSignal table name ≠ name := by
  have inner : pyStrip name <:+: name := strip_infix
  have shorter : (pyStrip name).length < name.length :=
    lt_of_le_of_ne inner.length_le (fun same => unsettled (inner.eq_of_length same))
  have outer : (normalizeSignal table name).length ≤ (pyStrip name).length := by
    rw [normal.normalize]
    exact strip_infix.length_le.trans collapseDashes_length_le
  intro same
  rw [same] at outer
  omega

theorem withoutStart_of_not_mem {c : Char} {start : Name} (absent : c ∉ name) :
    withoutStart (c :: start) name = name := by
  unfold withoutStart
  split
  next found =>
    obtain ⟨rest, whole⟩ := List.isPrefixOf_iff_prefix.mp found
    exact absurd (whole ▸ List.mem_append_left rest List.mem_cons_self) absent
  next => rfl

theorem Normal.spelling (normal : Normal table name) :
    spelling table name = normalizeSignal table name := by
  have absent : ∀ c : Char, c.toNat < 0x80 → c.toLower ≠ c → c ∉ name :=
    fun c small upper member => upper ((normal.fixed c member).not_upper small)
  unfold Ai.spelling canonicalSignalName operatorSignalPrefix operatorQuestionPrefix
  rw [withoutStart_of_not_mem (absent 'O' (by decide) (by decide)),
    withoutStart_of_not_mem (absent 'Q' (by decide) (by decide))]

end Normal

section Claims

variable {table : LowerTable} {entries : List AliasEntry} {mapping : Dict Name Name} {name : Name}

def claimant (entries : List AliasEntry) (name : Name) : Option Name :=
  (entries.find? (fun entry => decide (name ∈ entry.aliases))).map AliasEntry.canonical

def canonicals (entries : List AliasEntry) : List Name := entries.map AliasEntry.canonical

theorem claimant_eq_none : claimant entries name = none ↔ ∀ entry ∈ entries, name ∉ entry.aliases := by
  unfold claimant
  simp only [Option.map_eq_none_iff, List.find?_eq_none, decide_eq_true_eq]

theorem claimant_some {canonical : Name} (claimed : claimant entries name = some canonical) :
    ∃ entry ∈ entries, name ∈ entry.aliases ∧ entry.canonical = canonical := by
  obtain ⟨entry, found, same⟩ := Option.map_eq_some_iff.mp claimed
  have listed := List.find?_some found
  exact ⟨entry, List.mem_of_find?_eq_some found, of_decide_eq_true listed, same⟩

theorem mem_sortedSet {names : List Name} : name ∈ sortedSet names ↔ name ∈ names := by
  unfold sortedSet
  rw [List.mem_insertionSort, List.mem_dedup]

theorem get?_noteAlias (canonical listed : Name) :
    (noteAlias canonical mapping listed).get? name =
      if name = listed then (mapping.get? name).or (some canonical) else mapping.get? name := by
  unfold noteAlias Dict.contains
  by_cases same : name = listed
  · subst same
    rw [if_pos rfl]
    cases found : mapping.get? name with
    | none => simp [Dict.get?_set_self]
    | some other =>
        by_cases own : other = canonical
        · simp [Dict.get?_set_self, own]
        · simp [found, own]
  · rw [if_neg same]
    split
    · rfl
    · exact Dict.get?_set_ne mapping same canonical

theorem get?_noteAliases (canonical : Name) (aliases : List Name) :
    (aliases.foldl (noteAlias canonical) mapping).get? name =
      if name ∈ aliases then (mapping.get? name).or (some canonical) else mapping.get? name := by
  induction aliases generalizing mapping with
  | nil => rfl
  | cons listed rest ih =>
      rw [List.foldl_cons, ih, get?_noteAlias]
      by_cases same : name = listed
      · simp [same]
      · simp [same]

theorem get?_noteEntries :
    (entries.foldl noteEntry mapping).get? name =
      (mapping.get? name).or (claimant entries name) := by
  induction entries generalizing mapping with
  | nil =>
      unfold claimant
      exact (Option.or_none).symm
  | cons entry rest ih =>
      rw [List.foldl_cons, ih]
      unfold noteEntry claimant
      rw [get?_noteAliases, List.find?_cons]
      by_cases listed : name ∈ entry.aliases
      · rw [if_pos (mem_sortedSet.mpr listed), decide_eq_true listed, Option.or_assoc]
        rfl
      · rw [if_neg (fun member => listed (mem_sortedSet.mp member)), decide_eq_false listed]

theorem get?_setDefaults (names : List Name) :
    (names.foldl setDefault mapping).get? name =
      (mapping.get? name).or (if name ∈ names then some name else none) := by
  induction names generalizing mapping with
  | nil => exact (Option.or_none).symm
  | cons first rest ih =>
      have step : (setDefault mapping first).get? name =
          (mapping.get? name).or (if name = first then some name else none) := by
        unfold setDefault Dict.contains
        by_cases same : name = first
        · subst same
          cases found : mapping.get? name with
          | none => simp [Dict.get?_set_self]
          | some other => simp [found]
        · rw [if_neg same, Option.or_none]
          split
          · rfl
          · exact Dict.get?_set_ne mapping same first
      rw [List.foldl_cons, ih, step, Option.or_assoc]
      by_cases same : name = first
      · simp [same]
      · simp [same]

theorem entry_normal {payload : AliasPayload} {entry : AliasEntry}
    (member : entry ∈ Ai.entries table payload) :
    Normal table entry.canonical ∧ entry.canonical ≠ [] ∧
      ∀ listed ∈ entry.aliases, listed ≠ [] ∧ listed ≠ entry.canonical := by
  obtain ⟨raw, -, read⟩ := List.mem_filterMap.mp member
  obtain ⟨record, -, read⟩ := Option.bind_eq_some_iff.mp read
  unfold readRecord at read
  split at read
  · cases read
  next canonical usable =>
    dsimp only at read
    split at read
    · cases read
    next filled =>
      split at read
      · cases read
      · cases read
        refine ⟨normalizeSignal_normal canonical, filled, ?_⟩
        intro listed inside
        obtain ⟨form, -, gives⟩ := List.mem_filterMap.mp inside
        dsimp only at gives
        split at gives
        · cases gives
        next other =>
          cases gives
          exact not_or.mp other

def resolved (entries : List AliasEntry) (name : Name) : Name :=
  (claimant entries name).getD name

theorem canonicalizeSignal_eq (payload : AliasPayload) (name : Name) :
    canonicalizeSignal table (validateAliases table payload) name =
      resolved (Ai.entries table payload) (spelling table name) := by
  have found : (validateAliases table payload).get? (spelling table name) =
      (claimant (Ai.entries table payload) (spelling table name)).or
        (if spelling table name ∈ canonicals (Ai.entries table payload) then
          some (spelling table name) else none) := by
    unfold validateAliases
    rw [get?_setDefaults, get?_noteEntries]
    simp only [mem_sortedSet]
    rfl
  unfold canonicalizeSignal resolved
  dsimp only
  split
  next empty =>
    have unclaimed : claimant (Ai.entries table payload) (spelling table name) = none := by
      rw [empty]
      exact claimant_eq_none.mpr
        (fun entry member listed => ((entry_normal member).2.2 [] listed).1 rfl)
    rw [unclaimed]
    exact Option.getD_none.symm
  next filled =>
    rw [found]
    cases claimant (Ai.entries table payload) (spelling table name) with
    | some canonical => rfl
    | none =>
        rw [Option.none_or]
        split
        · rfl
        · rfl

/-- No other record lists the name; one with white space at an end is listed first, as it is spelled
without that, by the record that it names. -/
structure SelfNamed (table : LowerTable) (entries : List AliasEntry) (name : Name) : Prop where
  settled : Settled name → ∀ entry ∈ entries, name ∉ entry.aliases
  unsettled : ¬ Settled name → claimant entries (normalizeSignal table name) = some name

def Listed (entries : List AliasEntry) (name : Name) : Prop :=
  name ∈ canonicals entries ∨ ∃ entry ∈ entries, name ∈ entry.aliases

theorem resolved_spelling_iff {payload : AliasPayload} (normal : Normal table name) :
    resolved (Ai.entries table payload) (spelling table name) = name ↔
      SelfNamed table (Ai.entries table payload) name := by
  rw [normal.spelling]
  unfold resolved
  by_cases settled : Settled name
  · rw [normal.normalize_settled settled]
    cases claimed : claimant (Ai.entries table payload) name with
    | none =>
        exact iff_of_true rfl
          ⟨fun _ => claimant_eq_none.mp claimed, fun unsettled => absurd settled unsettled⟩
    | some canonical =>
        obtain ⟨entry, member, listed, same⟩ := claimant_some claimed
        refine iff_of_false (fun own => ?_) (fun self => self.settled settled entry member listed)
        exact ((entry_normal member).2.2 name listed).2 (same.trans own).symm
  · cases claimed : claimant (Ai.entries table payload) (normalizeSignal table name) with
    | none =>
        refine iff_of_false (normal.normalize_ne settled) (fun self => ?_)
        have first := self.unsettled settled
        rw [claimed] at first
        cases first
    | some canonical =>
        constructor
        · intro (same : canonical = name)
          rw [same] at claimed
          exact ⟨fun holds => absurd holds settled, fun _ => claimed⟩
        · intro self
          have first := self.unsettled settled
          rw [claimed] at first
          exact Option.some.inj first

end Claims

/-- Every canonical name of a payload resolves to itself, and resolving a name twice is resolving it
once, exactly if no record lists the canonical name of another one and the name, as it is spelled,
has no white space at its ends or is listed. -/
theorem alias_resolution_iff (table : LowerTable) (payload : AliasPayload) (name : Name) :
    ((∀ canonical ∈ canonicals (entries table payload),
        canonicalizeSignal table (validateAliases table payload) canonical = canonical) ∧
      canonicalizeSignal table (validateAliases table payload)
          (canonicalizeSignal table (validateAliases table payload) name) =
        canonicalizeSignal table (validateAliases table payload) name) ↔
    (∀ canonical ∈ canonicals (entries table payload),
        SelfNamed table (entries table payload) canonical) ∧
      (Settled (spelling table name) ∨ Listed (entries table payload) (spelling table name)) := by
  have normals : ∀ canonical ∈ canonicals (entries table payload), Normal table canonical := by
    intro canonical member
    obtain ⟨entry, inside, rfl⟩ := List.mem_map.mp member
    exact (entry_normal inside).1
  have selves : (∀ canonical ∈ canonicals (entries table payload),
      canonicalizeSignal table (validateAliases table payload) canonical = canonical) ↔
        ∀ canonical ∈ canonicals (entries table payload),
          SelfNamed table (entries table payload) canonical := by
    refine forall₂_congr (fun canonical member => ?_)
    rw [canonicalizeSignal_eq, resolved_spelling_iff (normals canonical member)]
  rw [selves]
  refine and_congr_right (fun own => ?_)
  simp only [canonicalizeSignal_eq]
  have spelled : Normal table (spelling table name) := normalizeSignal_normal _
  cases claimed : claimant (entries table payload) (spelling table name) with
  | some canonical =>
      obtain ⟨entry, member, listed, rfl⟩ := claimant_some claimed
      have inside : entry.canonical ∈ canonicals (entries table payload) :=
        List.mem_map_of_mem member
      have target : resolved (entries table payload) (spelling table name) = entry.canonical := by
        unfold resolved
        rw [claimed]
        exact Option.getD_some
      rw [target]
      exact iff_of_true ((resolved_spelling_iff (normals _ inside)).mpr (own _ inside))
        (Or.inr (Or.inr ⟨entry, member, listed⟩))
  | none =>
      have target : resolved (entries table payload) (spelling table name) = spelling table name := by
        unfold resolved
        rw [claimed]
        exact Option.getD_none
      rw [target, resolved_spelling_iff spelled]
      by_cases inside : spelling table name ∈ canonicals (entries table payload)
      · have listed : Listed (entries table payload) (spelling table name) := Or.inl inside
        exact iff_of_true (own (spelling table name) inside) (Or.inr listed)
      · by_cases settled : Settled (spelling table name)
        · exact iff_of_true
            ⟨fun _ => claimant_eq_none.mp claimed, fun unsettled => absurd settled unsettled⟩
            (Or.inl settled)
        · refine iff_of_false (fun self => ?_) ?_
          · obtain ⟨entry, member, -, same⟩ := claimant_some (self.unsettled settled)
            exact inside (same ▸ List.mem_map_of_mem member)
          · rintro (holds | canonical | ⟨entry, member, listed⟩)
            · exact settled holds
            · exact inside canonical
            · exact claimant_eq_none.mp claimed entry member listed

def chainedPayload : AliasPayload :=
  some [some { canonical := some "EngineCoolant".toList, sourceForms := some [some "CoolantTemp".toList] },
    some { canonical := some "ECT".toList, sourceForms := some [some "engine coolant".toList,
      some "EngineCoolant".toList] }]

/-- A record that lists the canonical name of another one takes it over: the first name is resolved
in two steps. -/
theorem chained_alias_moves :
    let resolve := canonicalizeSignal plainLower (validateAliases plainLower chainedPayload)
    resolve "CoolantTemp".toList = "enginecoolant".toList ∧
      resolve "enginecoolant".toList = "ect".toList ∧
      ¬ (∀ canonical ∈ canonicals (entries plainLower chainedPayload),
        resolve canonical = canonical) ∧
      resolve (resolve "CoolantTemp".toList) ≠ resolve "CoolantTemp".toList := by
  decide +kernel

end Ucanlab.Engine.Ai
