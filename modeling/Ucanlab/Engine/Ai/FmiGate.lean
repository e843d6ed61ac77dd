import Mathlib.Data.Bool.AllAny
import Ucanlab.Engine.Ai.Dm1Payload
import Ucanlab.Engine.Ai.SignalAliases

/-!
The trouble codes that a root cause declares, some with a failure mode, and the match that it gets
from the active ones. The other evidence of the ranking and its scores are left out.
-/

namespace Ucanlab.Engine.Ai

open Ucanlab Regex

structure UpperTable extends CharTable where
  inked : ∀ c, isPySpace c = false → ∃ d ∈ upper c, isPySpace d = false

section Codes

variable (table : UpperTable)

/-- A letter under `re.IGNORECASE`, with the characters beyond ASCII that fold to an s or an i. -/
def caseless (c : Char) : Regex :=
  .char (fun d => d == c || d == c.toUpper || (c == 's' && d == '\u017F') ||
    (c == 'i' && (d == '\u0130' || d == '\u0131')))

def caselessWord (text : List Char) : Regex := sequence (text.map caseless)

def groupNumber (found : Place) (name : String) : Option Int :=
  (found.group? name).bind (pyInt 10)

/-- `str.split`. -/
def pySplit (text : List Char) : List (List Char) :=
  (text.splitOnP isPySpace).filter (fun word => !word.isEmpty)

def cleanedCode (code : Name) : Name :=
  [' '].intercalate (pySplit (table.upperText (pyStrip code)))

def endOfText : Regex := .look (fun _ rest => rest.isEmpty || rest == ['\n'])

def spnCodeRe : Regex :=
  sequence [startOfText, literal ['S', 'P', 'N'], star (fun c => isPySpace c || c == '_'),
    .group "spn" (plus decimalChar)]

def spnFmiSuffixRe : Regex :=
  sequence [startOfText, caselessWord ['s', 'p', 'n'], star isPySpace,
    .group "spn" (plus decimalChar), star isPySpace, .char (· == '.'), star isPySpace,
    .group "fmi" (plus decimalChar), endOfText]

def spnFmiExplicitRe : Regex :=
  sequence [startOfText, caselessWord ['s', 'p', 'n'], star isPySpace,
    .group "spn" (plus decimalChar), star isPySpace, caselessWord ['f', 'm', 'i'], star isPySpace,
    .group "fmi" (plus decimalChar), endOfText]

def groupDigits (found : Place) (name : String) : Nat := ((groupNumber found name).getD 0).toNat

def spnName (spn : Nat) : Name := ['S', 'P', 'N', ' '] ++ decimalText spn

/-- `_normalize_code`. -/
def normalizeCode (code : Name) : Name :=
  let cleaned := cleanedCode table code
  if ['S', 'P', 'N'].isPrefixOf cleaned then
    match spnCodeRe.matchAt none cleaned with
    | some found => spnName (groupDigits found "spn")
    | none => cleaned
  else cleaned

/-- `_split_code_qualifier`. -/
def splitCodeQualifier (code : Name) : Name × Option Nat :=
  let cleaned := cleanedCode table code
  match [spnFmiExplicitRe, spnFmiSuffixRe].findSome? (fun pattern => pattern.matchAt none cleaned) with
  | some found => (spnName (groupDigits found "spn"), some (groupDigits found "fmi"))
  | none => (normalizeCode table code, none)

end Codes

section Ranking

variable (table : UpperTable)

structure DiagnosticEvent where
  timestampNs : Int
  code : Name
  status : CodeStatus
  filled : pyStrip code ≠ []

structure GraphNode where
  id : Name
  expectedDtcs : List Name

def normDtcsWithQualifiers (node : GraphNode) : List (Name × Option Nat) :=
  node.expectedDtcs.map (splitCodeQualifier table)

def eventLe (first second : DiagnosticEvent) : Prop :=
  first.timestampNs < second.timestampNs ∨
    (first.timestampNs = second.timestampNs ∧ first.code ≤ second.code)

instance : DecidableRel eventLe := fun _ _ => inferInstanceAs (Decidable (_ ∨ _))

def activeDtcEvents (events : List DiagnosticEvent) : List DiagnosticEvent :=
  (events.filter (fun event => decide (event.status = .active))).insertionSort eventLe

def activeQualified (events : List DiagnosticEvent) : List (Name × Option Nat) :=
  (activeDtcEvents events).map (fun event => splitCodeQualifier table event.code)

/-- What a node gets from the active codes, as sets. -/
structure DtcMatch where
  hits : List Name
  qualified : List (Name × Nat)

def declaredFmis (declared : List (Name × Option Nat)) : List Nat := declared.filterMap Prod.snd

def explicitHits (hits : List Name) (fmis : List Nat) (active : List (Name × Option Nat)) :
    List (Name × Nat) :=
  active.filterMap (fun (code, fmi) =>
    (fmi.filter (fun value => decide (code ∈ hits ∧ value ∈ fmis))).map (fun value => (code, value)))

/-- The failure modes of a node are looked up together, whatever code they were declared with. -/
def matchDtcs (declared active : List (Name × Option Nat)) : DtcMatch :=
  let hits := (declared.map Prod.fst).filter (fun code => decide (code ∈ active.map Prod.fst))
  let fmis := declaredFmis declared
  if hits ≠ [] ∧ fmis ≠ [] then
    let explicit := explicitHits hits fmis active
    if explicit ≠ [] then { hits := hits, qualified := explicit }
    else { hits := [], qualified := [] }
  else { hits := hits, qualified := [] }

def qualifiedLe (first second : Name × Nat) : Prop :=
  first.1 < second.1 ∨ (first.1 = second.1 ∧ first.2 ≤ second.2)

instance : DecidableRel qualifiedLe := fun _ _ => inferInstanceAs (Decidable (_ ∨ _))

def DtcMatch.support (found : DtcMatch) : List Name :=
  if found.hits = [] then []
  else
    ("beklenen DTC eşleşmesi: ".toList ++ [',', ' '].intercalate (sortedSet found.hits)) ::
      (found.qualified.dedup.insertionSort qualifiedLe).map (fun (code, fmi) =>
        "FMI nitelik eşleşmesi: ".toList ++ code ++ " FMI ".toList ++ decimalText fmi)

/-- The nodes that `rank_hypotheses` looks at, with what each one gets. Without an active code, and
without an anomaly either, it looks at none. -/
def dtcMatches (graph : List GraphNode) (events : List DiagnosticEvent) (anomalies : Bool) :
    List (GraphNode × DtcMatch) :=
  let active := activeQualified table events
  if active = [] ∧ anomalies = false then []
  else graph.map (fun node => (node, matchDtcs (normDtcsWithQualifiers table node) active))

def ReceivesMatch (graph : List GraphNode) (events : List DiagnosticEvent) (anomalies : Bool)
    (node : GraphNode) : Prop :=
  ∃ found, (node, found) ∈ dtcMatches table graph events anomalies ∧ found.support ≠ []

/-- One entry of the node names the code of an active event, with no failure mode or with that of
the event. -/
def MeetsEntry (events : List DiagnosticEvent) (node : GraphNode) : Prop :=
  ∃ entry ∈ node.expectedDtcs, ∃ event ∈ events, event.status = .active ∧
    (splitCodeQualifier table event.code).1 = (splitCodeQualifier table entry).1 ∧
      ((splitCodeQualifier table entry).2 = none ∨
        (splitCodeQualifier table event.code).2 = (splitCodeQualifier table entry).2)

instance (events : List DiagnosticEvent) (node : GraphNode) :
    Decidable (MeetsEntry table events node) :=
  inferInstanceAs (Decidable (∃ entry ∈ node.expectedDtcs, ∃ event ∈ events, _))

def writtenDtcs (node : GraphNode) : List Name :=
  node.expectedDtcs.filter (fun entry => decide (pyStrip entry ≠ []))

/-- No entry has a failure mode, or every one has, and each code comes with all of them. -/
def Uniform (node : GraphNode) : Prop :=
  (∀ entry ∈ writtenDtcs node, (splitCodeQualifier table entry).2 = none) ∨
    ∀ entry ∈ writtenDtcs node, (splitCodeQualifier table entry).2 ≠ none ∧
      ∀ other ∈ writtenDtcs node,
        ((splitCodeQualifier table entry).1, (splitCodeQualifier table other).2) ∈
          normDtcsWithQualifiers table node

end Ranking

section Matching

variable {declared active : List (Name × Option Nat)} {code : Name} {fmi : Nat}

theorem mem_hits :
    code ∈ (declared.map Prod.fst).filter (fun code => decide (code ∈ active.map Prod.fst)) ↔
      code ∈ declared.map Prod.fst ∧ code ∈ active.map Prod.fst := by
  rw [List.mem_filter, decide_eq_true_eq]

theorem mem_codes :
    code ∈ declared.map Prod.fst ↔ ∃ qualifier, (code, qualifier) ∈ declared := by
  rw [List.mem_map]
  exact ⟨fun ⟨⟨_, qualifier⟩, member, same⟩ => ⟨qualifier, same ▸ member⟩,
    fun ⟨qualifier, member⟩ => ⟨(code, qualifier), member, rfl⟩⟩

theorem mem_declaredFmis : fmi ∈ declaredFmis declared ↔ ∃ code, (code, some fmi) ∈ declared := by
  unfold declaredFmis
  rw [List.mem_filterMap]
  constructor
  · rintro ⟨⟨code, found⟩, member, same⟩
    cases same
    exact ⟨code, member⟩
  · rintro ⟨code, member⟩
    exact ⟨(code, some fmi), member, rfl⟩

theorem mem_explicitHits {hits : List Name} {fmis : List Nat} :
    (code, fmi) ∈ explicitHits hits fmis active ↔
      (code, some fmi) ∈ active ∧ code ∈ hits ∧ fmi ∈ fmis := by
  unfold explicitHits
  simp only [List.mem_filterMap, Option.map_eq_some_iff, Option.filter_eq_some_iff,
    decide_eq_true_eq, Prod.mk.injEq]
  constructor
  · rintro ⟨⟨other, found⟩, member, value, ⟨rfl, declared⟩, rfl, rfl⟩
    exact ⟨member, declared⟩
  · rintro ⟨member, declared⟩
    exact ⟨(code, some fmi), member, fmi, ⟨rfl, declared⟩, rfl, rfl⟩

theorem support_ne_nil {found : DtcMatch} : found.support ≠ [] ↔ found.hits ≠ [] := by
  unfold DtcMatch.support
  by_cases none : found.hits = []
  · rw [if_pos none]
    exact iff_of_false (fun some => some rfl) (fun some => some none)
  · rw [if_neg none]
    exact iff_of_true (List.cons_ne_nil _ _) none

theorem matchDtcs_plain (plain : declaredFmis declared = []) :
    (matchDtcs declared active).hits ≠ [] ↔
      ∃ code ∈ declared.map Prod.fst, code ∈ active.map Prod.fst := by
  unfold matchDtcs
  dsimp only
  rw [if_neg (fun both => both.2 plain)]
  simp only [ne_eq, List.eq_nil_iff_forall_not_mem, mem_hits, not_forall, not_not]

theorem matchDtcs_gated (gated : declaredFmis declared ≠ []) :
    (matchDtcs declared active).hits ≠ [] ↔
      ∃ code fmi, (code, some fmi) ∈ active ∧ code ∈ declared.map Prod.fst ∧
        fmi ∈ declaredFmis declared := by
  have pooled : explicitHits ((declared.map Prod.fst).filter
      (fun code => decide (code ∈ active.map Prod.fst))) (declaredFmis declared) active ≠ [] ↔
        ∃ code fmi, (code, some fmi) ∈ active ∧ code ∈ declared.map Prod.fst ∧
          fmi ∈ declaredFmis declared := by
    simp only [ne_eq, List.eq_nil_iff_forall_not_mem, not_forall, not_not, Prod.exists, mem_explicitHits, mem_hits]
    refine exists₂_congr (fun code fmi => and_congr_right (fun member => ?_))
    rw [and_iff_left (List.mem_map_of_mem member)]
  rw [← pooled]
  unfold matchDtcs
  dsimp only
  split
  next both =>
    split
    next some => exact iff_of_true both.1 some
    next none => exact iff_of_false (fun some => some rfl) none
  next neither =>
    have empty := not_not.mp (fun some => neither ⟨some, gated⟩)
    rw [empty]
    refine iff_of_false (fun some => some rfl) (fun some => ?_)
    obtain ⟨⟨code, fmi⟩, member⟩ := List.exists_mem_of_ne_nil _ some
    exact absurd (mem_explicitHits.mp member).2.1 List.not_mem_nil

end Matching

section Spelling

variable {word rest : List Char}

theorem pySplit_word (filled : word ≠ []) (solid : ∀ c ∈ word, isPySpace c = false) :
    pySplit word = [word] := by
  unfold pySplit
  rw [List.splitOnP_eq_singleton solid]
  exact List.filter_cons_of_pos (by rw [List.isEmpty_eq_false_iff.mpr filled, Bool.not_false])

theorem pySplit_first (filled : word ≠ []) (solid : ∀ c ∈ word, isPySpace c = false) :
    pySplit (word ++ ' ' :: rest) = word :: pySplit rest := by
  unfold pySplit
  rw [List.splitOnP_append_cons_of_forall_mem solid ' ' (by decide)]
  exact List.filter_cons_of_pos (by rw [List.isEmpty_eq_false_iff.mpr filled, Bool.not_false])

theorem pySplit_ne_nil {text : List Char} {c : Char} (member : c ∈ text)
    (solid : isPySpace c = false) : ∃ word ∈ pySplit text, word ≠ [] := by
  have inside : ∃ word ∈ text.splitOnP isPySpace, word ≠ [] := by
    induction text with
    | nil => exact absurd member List.not_mem_nil
    | cons first later ih =>
        rw [List.splitOnP_cons_eq_if_modifyHead]
        obtain ⟨start, others, shape⟩ :=
          List.exists_cons_of_ne_nil (List.splitOnP_ne_nil isPySpace later)
        by_cases space : isPySpace first = true
        · rw [if_pos space]
          have tail : c ∈ later := (List.mem_cons.mp member).resolve_left (by
            rintro rfl
            rw [solid] at space
            cases space)
          obtain ⟨word, isIn, filled⟩ := ih tail
          exact ⟨word, List.mem_cons_of_mem _ isIn, filled⟩
        · rw [if_neg space, shape]
          exact ⟨first :: start, List.mem_cons_self, List.cons_ne_nil _ _⟩
  obtain ⟨word, isIn, filled⟩ := inside
  refine ⟨word, List.mem_filter.mpr ⟨isIn, ?_⟩, filled⟩
  rw [List.isEmpty_eq_false_iff.mpr filled, Bool.not_false]

theorem subset_intercalate {words : List (List Char)} (member : word ∈ words) :
    word ⊆ [' '].intercalate words := by
  induction words with
  | nil => exact absurd member List.not_mem_nil
  | cons first later ih =>
      cases later with
      | nil =>
          rw [List.intercalate_singleton, List.mem_singleton.mp member]
          exact List.Subset.refl _
      | cons second others =>
          rw [List.intercalate_cons_cons]
          rcases List.mem_cons.mp member with rfl | tail
          · exact List.subset_append_of_subset_left _ (List.subset_append_left _ _)
          · exact List.subset_append_of_subset_right _ (ih tail)

variable {table : UpperTable}

theorem spnName_ne_nil (spn : Nat) : spnName spn ≠ [] := List.cons_ne_nil _ _

theorem cleanedCode_filled {code : Name} (filled : pyStrip code ≠ []) :
    cleanedCode table code ≠ [] := by
  obtain ⟨c, member, solid⟩ : ∃ c ∈ pyStrip code, isPySpace c = false := by
    by_contra blank
    simp only [not_exists, not_and, Bool.not_eq_false] at blank
    rw [pyStrip_eq] at blank filled
    refine filled ?_
    rw [← List.rdropWhile_idempotent isPySpace (code.dropWhile isPySpace)]
    exact List.rdropWhile_eq_nil_iff.mpr blank
  obtain ⟨d, from_upper, solid⟩ := table.inked c solid
  have member : d ∈ table.upperText (pyStrip code) := List.mem_flatMap.mpr ⟨c, member, from_upper⟩
  obtain ⟨word, isIn, filled⟩ := pySplit_ne_nil member solid
  obtain ⟨e, inWord⟩ := List.exists_mem_of_ne_nil word filled
  exact List.ne_nil_of_mem (subset_intercalate isIn inWord)

theorem cleanedCode_blank {code : Name} (blank : pyStrip code = []) : cleanedCode table code = [] := by
  unfold cleanedCode
  rw [blank]
  rfl

theorem normalizeCode_filled {code : Name} (filled : pyStrip code ≠ []) :
    normalizeCode table code ≠ [] := by
  unfold normalizeCode
  dsimp only
  split
  · split
    · exact spnName_ne_nil _
    · exact cleanedCode_filled filled
  · exact cleanedCode_filled filled

theorem splitCodeQualifier_filled {code : Name} (filled : pyStrip code ≠ []) :
    (splitCodeQualifier table code).1 ≠ [] := by
  unfold splitCodeQualifier
  dsimp only
  split
  · exact spnName_ne_nil _
  · dsimp only
    exact normalizeCode_filled filled

theorem splitCodeQualifier_blank {code : Name} (blank : pyStrip code = []) :
    splitCodeQualifier table code = ([], none) := by
  unfold splitCodeQualifier normalizeCode
  rw [cleanedCode_blank blank]
  rfl

theorem splitCodeQualifier_qualified {code : Name} {fmi : Nat}
    (qualified : (splitCodeQualifier table code).2 = some fmi) :
    ∃ spn, (splitCodeQualifier table code).1 = spnName spn := by
  revert qualified
  unfold splitCodeQualifier
  dsimp only
  split
  next found read =>
    intro
    exact ⟨groupDigits found "spn", rfl⟩
  next =>
    intro qualified
    cases qualified

end Spelling

section Explicit

variable {table : UpperTable}

/-- `SPN n FMI m`. -/
def explicitCode (spn fmi : Nat) : Name := spnName spn ++ [' ', 'F', 'M', 'I', ' '] ++ decimalText fmi

theorem digit_plain : ∀ code : Fin 0x80, 0x30 ≤ code.val ∧ code.val ≤ 0x39 →
    isPySpace (Char.ofNat code) = false ∧ decimalChar (Char.ofNat code) = true ∧
      (Char.ofNat code).toUpper = Char.ofNat code := by
  decide +kernel

theorem decimalText_plain {value : Nat} {c : Char} (member : c ∈ decimalText value) :
    isPySpace c = false ∧ decimalChar c = true ∧ c.toNat < 0x80 ∧ c.toUpper = c := by
  have digit := decimalText_ascii member
  have plain := digit_plain ⟨c.toNat, by omega⟩ digit
  rw [Char.ofNat_toNat] at plain
  exact ⟨plain.1, plain.2.1, by omega, plain.2.2⟩

theorem decimalText_ne_nil (value : Nat) : decimalText value ≠ [] := Nat.toDigits_ne_nil

theorem explicitCode_shape (spn fmi : Nat) :
    explicitCode spn fmi =
      ['S', 'P', 'N'] ++ ' ' :: (decimalText spn ++ ' ' :: (['F', 'M', 'I'] ++ ' ' ::
        decimalText fmi)) := by
  unfold explicitCode spnName
  simp only [List.append_assoc, List.cons_append, List.nil_append]

theorem upperText_plain {text : List Char} (plain : ∀ c ∈ text, c.toNat < 0x80 ∧ c.toUpper = c) :
    table.upperText text = text := by
  unfold CharTable.upperText
  induction text with
  | nil => rfl
  | cons c rest ih =>
      obtain ⟨first, others⟩ := List.forall_mem_cons.mp plain
      rw [List.flatMap_cons, table.asciiUpper c first.1, first.2, ih others, List.singleton_append]

theorem pyStrip_explicitCode (spn fmi : Nat) :
    pyStrip (explicitCode spn fmi) = explicitCode spn fmi := by
  have front : (explicitCode spn fmi).dropWhile isPySpace = explicitCode spn fmi :=
    List.dropWhile_cons_of_neg (by decide)
  rw [pyStrip_eq, front, List.rdropWhile_eq_self_iff]
  intro filled
  have last : (explicitCode spn fmi).getLast filled = (decimalText fmi).getLast (decimalText_ne_nil fmi) :=
    List.getLast_append_of_ne_nil _ (decimalText_ne_nil fmi)
  rw [last, (decimalText_plain (List.getLast_mem _)).1]
  exact Bool.false_ne_true

theorem cleanedCode_explicitCode (spn fmi : Nat) :
    cleanedCode table (explicitCode spn fmi) = explicitCode spn fmi := by
  have solid : ∀ value : Nat, ∀ c ∈ decimalText value, isPySpace c = false :=
    fun value c member => (decimalText_plain member).1
  have plain : ∀ c ∈ explicitCode spn fmi, c.toNat < 0x80 ∧ c.toUpper = c := by
    have letters : ∀ c ∈ ['S', 'P', 'N', ' ', 'F', 'M', 'I'], c.toNat < 0x80 ∧ c.toUpper = c :=
      List.all_iff_forall_prop.mp rfl
    intro c member
    unfold explicitCode spnName at member
    simp only [List.mem_append] at member
    rcases member with ((start | digit) | word) | digit
    · exact letters c (List.mem_append_left ['F', 'M', 'I'] start)
    · exact (decimalText_plain digit).2.2
    · refine letters c ?_
      revert word
      simp only [List.mem_cons, List.not_mem_nil, or_false]
      grind
    · exact (decimalText_plain digit).2.2
  unfold cleanedCode
  rw [pyStrip_explicitCode, upperText_plain plain, explicitCode_shape,
    pySplit_first (List.cons_ne_nil _ _) (List.all_iff_forall_prop.mp rfl),
    pySplit_first (decimalText_ne_nil spn) (solid spn),
    pySplit_first (List.cons_ne_nil _ _) (List.all_iff_forall_prop.mp rfl),
    pySplit_word (decimalText_ne_nil fmi) (solid fmi)]
  simp only [List.intercalate_cons_cons, List.intercalate_singleton, List.append_assoc,
    List.cons_append, List.nil_append]

theorem head?_space {prev : Option Char} {rest : List Char} {groups : List (String × List Char)}
    (stop : ∀ c ∈ rest.head?, isPySpace c = false) :
    ((star isPySpace).run ⟨prev, ' ' :: rest, groups⟩).head? = some ⟨some ' ', rest, groups⟩ :=
  @head?_star isPySpace [' '] rest prev groups (List.all_iff_forall_prop.mp rfl) stop

theorem head?_digits {name : String} {prev : Option Char} {rest : List Char}
    {groups : List (String × List Char)} (value : Nat)
    (stop : ∀ c ∈ rest.head?, decimalChar c = false) :
    ((group name (plus decimalChar)).run ⟨prev, decimalText value ++ rest, groups⟩).head? =
      some ⟨behind prev (decimalText value), rest, (name, decimalText value) :: groups⟩ :=
  head?_group_plus (decimalText_ne_nil value) (fun _ member => (decimalText_plain member).2.1) stop

theorem head?_decimalText {value : Nat} {rest : List Char} :
    ∀ c ∈ (decimalText value ++ rest).head?, isPySpace c = false := by
  intro c member
  rw [List.head?_append_of_ne_nil _ (decimalText_ne_nil value)] at member
  exact (decimalText_plain (List.mem_of_mem_head? member)).1

theorem head?_spn {prev : Option Char} {rest : List Char} {groups : List (String × List Char)} :
    ((caselessWord ['s', 'p', 'n']).run ⟨prev, ['S', 'P', 'N'] ++ rest, groups⟩).head? =
      some ⟨some 'N', rest, groups⟩ := rfl

theorem head?_fmi {prev : Option Char} {rest : List Char} {groups : List (String × List Char)} :
    ((caselessWord ['f', 'm', 'i']).run ⟨prev, ['F', 'M', 'I'] ++ rest, groups⟩).head? =
      some ⟨some 'I', rest, groups⟩ := rfl

theorem head?_other {test : Char → Bool} {c : Char} {rest : List Char} (other : test c = false) :
    ∀ d ∈ (c :: rest).head?, test d = false := by
  intro d member
  rw [← Option.some.inj member]
  exact other

theorem spnFmiExplicitRe_reads (spn fmi : Nat) :
    spnFmiExplicitRe.matchAt none (explicitCode spn fmi) =
      some ⟨behind (some ' ') (decimalText fmi), [],
        [("fmi", decimalText fmi), ("spn", decimalText spn)]⟩ := by
  have last : ∀ prev groups,
      ((sequence [.group "fmi" (plus decimalChar), endOfText]).run
        ⟨prev, decimalText fmi, groups⟩).head? =
          some ⟨behind prev (decimalText fmi), [], ("fmi", decimalText fmi) :: groups⟩ := by
    intro prev groups
    have read := @head?_digits "fmi" prev [] groups fmi (fun _ absent => absurd absent (by simp))
    rw [List.append_nil] at read
    exact head?_cat read (head?_cat (head?_look rfl) rfl)
  have spaced : ∀ c ∈ (decimalText fmi).head?, isPySpace c = false := by
    have first := @head?_decimalText fmi []
    rwa [List.append_nil] at first
  have mode : ∀ prev groups,
      ((sequence [star isPySpace, caselessWord ['f', 'm', 'i'], star isPySpace,
        .group "fmi" (plus decimalChar), endOfText]).run
          ⟨prev, ' ' :: (['F', 'M', 'I'] ++ ' ' :: decimalText fmi), groups⟩).head? =
            some ⟨behind (some ' ') (decimalText fmi), [], ("fmi", decimalText fmi) :: groups⟩ :=
    fun prev groups => head?_cat (head?_space (head?_other (by decide))) (head?_cat head?_fmi
      (head?_cat (head?_space spaced) (last _ _)))
  rw [explicitCode_shape]
  exact head?_cat (head?_look rfl) (head?_cat head?_spn (head?_cat (head?_space head?_decimalText)
    (head?_cat (head?_digits spn (head?_other (by decide))) (mode _ _))))

theorem groupDigits_decimalText {found : Place} {name : String} {value : Nat}
    (kept : found.group? name = some (decimalText value)) : groupDigits found name = value := by
  unfold groupDigits groupNumber
  rw [kept, Option.bind_some, pyInt_decimalText]
  rfl

theorem splitCodeQualifier_explicitCode (spn fmi : Nat) :
    splitCodeQualifier table (explicitCode spn fmi) = (spnName spn, some fmi) := by
  unfold splitCodeQualifier
  simp only [cleanedCode_explicitCode, List.findSome?_cons, spnFmiExplicitRe_reads]
  rw [groupDigits_decimalText rfl, groupDigits_decimalText rfl]

theorem explicitCode_filled (spn fmi : Nat) : pyStrip (explicitCode spn fmi) ≠ [] := by
  rw [pyStrip_explicitCode]
  exact List.cons_ne_nil _ _

end Explicit

section Gate

variable {table : UpperTable} {graph : List GraphNode} {events : List DiagnosticEvent}
  {node : GraphNode} {anomalies : Bool} {code : Name} {fmi : Option Nat}

theorem mem_activeQualified :
    (code, fmi) ∈ activeQualified table events ↔
      ∃ event ∈ events, event.status = .active ∧
        splitCodeQualifier table event.code = (code, fmi) := by
  unfold activeQualified activeDtcEvents
  simp only [List.mem_map, List.mem_insertionSort, List.mem_filter, decide_eq_true_eq, and_assoc]

theorem mem_normDtcs :
    (code, fmi) ∈ normDtcsWithQualifiers table node ↔
      ∃ entry ∈ node.expectedDtcs, splitCodeQualifier table entry = (code, fmi) := List.mem_map

theorem meetsEntry_iff :
    MeetsEntry table events node ↔
      ∃ code declared actual, (code, declared) ∈ normDtcsWithQualifiers table node ∧
        (code, actual) ∈ activeQualified table events ∧ (declared = none ∨ actual = declared) := by
  simp only [mem_normDtcs, mem_activeQualified]
  constructor
  · rintro ⟨entry, isIn, event, among, active, same, agrees⟩
    cases read : splitCodeQualifier table entry with
    | mk code declared =>
        cases heard : splitCodeQualifier table event.code with
        | mk other actual =>
            rw [read, heard] at same agrees
            obtain rfl : other = code := same
            exact ⟨other, declared, actual, ⟨entry, isIn, read⟩, ⟨event, among, active, heard⟩, agrees⟩
  · rintro ⟨code, declared, actual, ⟨entry, isIn, read⟩, ⟨event, among, active, heard⟩, agrees⟩
    refine ⟨entry, isIn, event, among, active, ?_⟩
    rw [read, heard]
    exact ⟨rfl, agrees⟩

theorem matched_active
    (matched : (matchDtcs (normDtcsWithQualifiers table node) (activeQualified table events)).hits ≠ []) :
    ∃ code ∈ (normDtcsWithQualifiers table node).map Prod.fst,
      code ∈ (activeQualified table events).map Prod.fst := by
  by_cases plain : declaredFmis (normDtcsWithQualifiers table node) = []
  · exact (matchDtcs_plain plain).mp matched
  · obtain ⟨code, fmi, active, declared, -⟩ := (matchDtcs_gated plain).mp matched
    exact ⟨code, declared, List.mem_map_of_mem active⟩

theorem receivesMatch_iff (member : node ∈ graph) :
    ReceivesMatch table graph events anomalies node ↔
      (matchDtcs (normDtcsWithQualifiers table node) (activeQualified table events)).hits ≠ [] := by
  unfold ReceivesMatch dtcMatches
  dsimp only
  simp only [support_ne_nil]
  split
  next nothing =>
    refine iff_of_false (fun ⟨_, found, _⟩ => absurd found List.not_mem_nil) (fun matched => ?_)
    obtain ⟨code, -, active⟩ := matched_active matched
    rw [nothing.1] at active
    exact absurd active List.not_mem_nil
  next =>
    constructor
    · rintro ⟨found, inside, some⟩
      obtain ⟨other, -, same⟩ := List.mem_map.mp inside
      cases same
      exact some
    · exact fun some => ⟨_, List.mem_map.mpr ⟨node, member, rfl⟩, some⟩

theorem mem_writtenDtcs {entry : Name} :
    entry ∈ writtenDtcs node ↔ entry ∈ node.expectedDtcs ∧ pyStrip entry ≠ [] := by
  unfold writtenDtcs
  rw [List.mem_filter, decide_eq_true_eq]

theorem written_of_active {declared : Option Nat}
    (isDeclared : (code, declared) ∈ normDtcsWithQualifiers table node)
    (active : (code, fmi) ∈ activeQualified table events) :
    ∃ entry ∈ writtenDtcs node, splitCodeQualifier table entry = (code, declared) := by
  obtain ⟨entry, isIn, read⟩ := mem_normDtcs.mp isDeclared
  obtain ⟨event, -, -, heard⟩ := mem_activeQualified.mp active
  refine ⟨entry, mem_writtenDtcs.mpr ⟨isIn, fun blank => ?_⟩, read⟩
  have filled : (splitCodeQualifier table event.code).1 ≠ [] := splitCodeQualifier_filled event.filled
  rw [splitCodeQualifier_blank blank] at read
  rw [heard] at filled
  exact filled (congrArg Prod.fst read).symm

theorem written_of_qualified {value : Nat}
    (isDeclared : (code, some value) ∈ normDtcsWithQualifiers table node) :
    ∃ entry ∈ writtenDtcs node, splitCodeQualifier table entry = (code, some value) := by
  obtain ⟨entry, isIn, read⟩ := mem_normDtcs.mp isDeclared
  refine ⟨entry, mem_writtenDtcs.mpr ⟨isIn, fun blank => ?_⟩, read⟩
  rw [splitCodeQualifier_blank blank] at read
  cases congrArg Prod.snd read

theorem Uniform.declares (uniform : Uniform table node)
    (gated : declaredFmis (normDtcsWithQualifiers table node) ≠ []) :
    ∀ entry ∈ writtenDtcs node, (splitCodeQualifier table entry).2 ≠ none ∧
      ∀ other ∈ writtenDtcs node,
        ((splitCodeQualifier table entry).1, (splitCodeQualifier table other).2) ∈
          normDtcsWithQualifiers table node := by
  refine uniform.resolve_left (fun plain => ?_)
  obtain ⟨value, member⟩ := List.exists_mem_of_ne_nil _ gated
  obtain ⟨code, isDeclared⟩ := mem_declaredFmis.mp member
  obtain ⟨entry, isIn, read⟩ := written_of_qualified isDeclared
  have none := plain entry isIn
  rw [read] at none
  cases none

theorem Uniform.agrees (uniform : Uniform table node) :
    (matchDtcs (normDtcsWithQualifiers table node) (activeQualified table events)).hits ≠ [] ↔
      MeetsEntry table events node := by
  rw [meetsEntry_iff]
  by_cases plain : declaredFmis (normDtcsWithQualifiers table node) = []
  · rw [matchDtcs_plain plain]
    constructor
    · simp only [mem_codes]
      rintro ⟨code, ⟨declared, isDeclared⟩, actual, active⟩
      refine ⟨code, declared, actual, isDeclared, active, Or.inl ?_⟩
      cases declared with
      | none => rfl
      | some value =>
          have member := mem_declaredFmis.mpr ⟨_, isDeclared⟩
          rw [plain] at member
          exact absurd member List.not_mem_nil
    · rintro ⟨code, declared, actual, isDeclared, active, -⟩
      exact ⟨code, List.mem_map_of_mem isDeclared, List.mem_map_of_mem active⟩
  · have declares := uniform.declares plain
    rw [matchDtcs_gated plain]
    constructor
    · simp only [mem_codes]
      rintro ⟨code, value, active, ⟨declared, isDeclared⟩, pooled⟩
      obtain ⟨other, among⟩ := mem_declaredFmis.mp pooled
      obtain ⟨entry, isIn, read⟩ := written_of_active isDeclared active
      obtain ⟨source, isSource, readSource⟩ := written_of_qualified among
      have both := (declares entry isIn).2 source isSource
      rw [read, readSource] at both
      exact ⟨_, some value, some value, both, active, Or.inr rfl⟩
    · rintro ⟨code, declared, actual, isDeclared, active, agrees⟩
      obtain ⟨entry, isIn, read⟩ := written_of_active isDeclared active
      have qualified := (declares entry isIn).1
      rw [read] at qualified
      obtain ⟨value, rfl⟩ := Option.ne_none_iff_exists'.mp qualified
      obtain rfl := agrees.resolve_left (fun none => by cases none)
      exact ⟨code, value, active, List.mem_map_of_mem isDeclared,
        mem_declaredFmis.mpr ⟨code, isDeclared⟩⟩

def activeEvent (code : Name) (filled : pyStrip code ≠ []) : DiagnosticEvent where
  timestampNs := 0
  code := code
  status := .active
  filled := filled

theorem mem_activeQualified_single {entry : Name} (filled : pyStrip entry ≠ []) :
    (code, fmi) ∈ activeQualified table [activeEvent entry filled] ↔
      splitCodeQualifier table entry = (code, fmi) := by
  rw [mem_activeQualified]
  constructor
  · rintro ⟨event, member, -, heard⟩
    rw [List.mem_singleton.mp member] at heard
    exact heard
  · exact fun heard => ⟨_, List.mem_singleton.mpr rfl, rfl, heard⟩

theorem Uniform.of_agrees
    (agrees : ∀ events, (matchDtcs (normDtcsWithQualifiers table node)
      (activeQualified table events)).hits ≠ [] ↔ MeetsEntry table events node) :
    Uniform table node := by
  simp only [meetsEntry_iff] at agrees
  by_cases plain : declaredFmis (normDtcsWithQualifiers table node) = []
  · left
    intro entry member
    cases read : splitCodeQualifier table entry with
    | mk code declared =>
        cases declared with
        | none => rfl
        | some value =>
            have isDeclared := mem_declaredFmis.mpr
              ⟨code, mem_normDtcs.mpr ⟨entry, (mem_writtenDtcs.mp member).1, read⟩⟩
            rw [plain] at isDeclared
            exact absurd isDeclared List.not_mem_nil
  · right
    -- An entry without a failure mode is not matched by its own code.
    have qualified : ∀ entry ∈ writtenDtcs node, ∃ code value,
        splitCodeQualifier table entry = (code, some value) := by
      intro entry member
      obtain ⟨isIn, filled⟩ := mem_writtenDtcs.mp member
      cases read : splitCodeQualifier table entry with
      | mk code declared =>
          cases declared with
          | some value => exact ⟨code, value, rfl⟩
          | none =>
              have meets := (agrees [activeEvent entry filled]).mpr
                ⟨code, none, none, mem_normDtcs.mpr ⟨entry, isIn, read⟩,
                  (mem_activeQualified_single filled).mpr read, Or.inl rfl⟩
              obtain ⟨other, value, active, -⟩ := (matchDtcs_gated plain).mp meets
              rw [mem_activeQualified_single, read] at active
              cases active
    intro entry member
    obtain ⟨code, value, read⟩ := qualified entry member
    refine ⟨fun none => ?_, ?_⟩
    · rw [read] at none
      cases none
    · intro source isSource
      obtain ⟨other, wanted, readSource⟩ := qualified source isSource
      have isDeclared := mem_normDtcs.mpr ⟨entry, (mem_writtenDtcs.mp member).1, read⟩
      have isPooled := mem_normDtcs.mpr ⟨source, (mem_writtenDtcs.mp isSource).1, readSource⟩
      have named : ∃ spn, code = spnName spn := by
        have number := splitCodeQualifier_qualified (congrArg Prod.snd read)
        rwa [read] at number
      obtain ⟨spn, rfl⟩ := named
      -- The code with the other failure mode is matched.
      have heard : splitCodeQualifier table (explicitCode spn wanted) = (spnName spn, some wanted) :=
        splitCodeQualifier_explicitCode spn wanted
      have single := (mem_activeQualified_single (explicitCode_filled spn wanted)).mpr heard
      obtain ⟨_, declared, actual, isMet, active, same⟩ := (agrees _).mp
        ((matchDtcs_gated plain).mpr ⟨_, wanted, single, List.mem_map_of_mem isDeclared,
          mem_declaredFmis.mpr ⟨other, isPooled⟩⟩)
      obtain ⟨met, isIn, readMet⟩ := written_of_active isMet active
      rw [mem_activeQualified_single, heard] at active
      cases active
      obtain ⟨_, mode, readMode⟩ := qualified met isIn
      rw [readMet] at readMode
      cases readMode
      rw [read, readSource, show some wanted = some mode from
        same.resolve_left (fun none => by cases none)]
      exact isMet

end Gate

/-- Each node of a pack gets a match from its codes for just the events that one of its entries asks
for, whatever is active, exactly if no node of the pack declares a failure mode with one code that it
does not declare with another. -/
theorem fmiGate_iff (table : UpperTable) (graph : List GraphNode) :
    (∀ (events : List DiagnosticEvent) (anomalies : Bool), ∀ node ∈ graph,
      ReceivesMatch table graph events anomalies node ↔ MeetsEntry table events node) ↔
        ∀ node ∈ graph, Uniform table node := by
  constructor
  · intro agrees node member
    exact Uniform.of_agrees (fun events =>
      (receivesMatch_iff member).symm.trans (agrees events false node member))
  · intro uniform events anomalies node member
    exact (receivesMatch_iff member).trans (uniform node member).agrees

theorem space_toUpper {c : Char} (solid : isPySpace c = false) : isPySpace c.toUpper = false := by
  have ascii : ∀ code : Fin 0x80, isPySpace (Char.ofNat code) = false →
      isPySpace (Char.ofNat code).toUpper = false := by decide +kernel
  by_cases small : c.toNat < 0x80
  · have plain := ascii ⟨c.toNat, small⟩
    rw [Char.ofNat_toNat] at plain
    exact plain solid
  · have stays : c.toUpper = c := by
      unfold Char.toUpper
      refine dif_neg (fun lower => small ?_)
      exact Nat.lt_of_le_of_lt lower.2 (by decide)
    rw [stays]
    exact solid

def plainUpper : UpperTable where
  toCharTable := plainTable
  inked := fun c solid => ⟨c.toUpper, List.mem_singleton.mpr rfl, space_toUpper solid⟩

def crossedNode : GraphNode where
  id := "crossed".toList
  expectedDtcs := ["SPN 100 FMI 1".toList, "SPN 200 FMI 2".toList]

def mixedNode : GraphNode where
  id := "mixed".toList
  expectedDtcs := ["SPN 100 FMI 1".toList, "P0300".toList]

/-- A failure mode declared with one code lets another one in, and keeps out one declared without. -/
theorem pooled_failure_modes :
    let graph := [crossedNode, mixedNode]
    let admitted := [activeEvent "SPN 100 FMI 2".toList (by decide)]
    let suppressed := [activeEvent "P0300".toList (by decide)]
    (ReceivesMatch plainUpper graph admitted false crossedNode ∧
      ¬ MeetsEntry plainUpper admitted crossedNode) ∧
    (¬ ReceivesMatch plainUpper graph suppressed false mixedNode ∧
      MeetsEntry plainUpper suppressed mixedNode) := by
  refine ⟨⟨(receivesMatch_iff (by simp)).mpr (by decide +kernel), by decide +kernel⟩,
    ⟨fun received => ?_, by decide +kernel⟩⟩
  exact absurd ((receivesMatch_iff (by simp)).mp received) (by decide +kernel)

end Ucanlab.Engine.Ai
