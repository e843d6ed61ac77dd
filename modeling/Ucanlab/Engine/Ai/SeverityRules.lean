import Ucanlab.Engine.Ai.SignalAliases

/-!
The severity of a trouble code, from the table of rules: the misfire codes, the rung of the title,
the list of codes that may stop the engine, the families and the caps of the subsystems.
-/

namespace Ucanlab.Engine.Ai.SeverityRules

open Ucanlab

/-- A label of the table that is none of these counts as unknown wherever it is read. -/
inductive Severity where
  | unknown
  | info
  | low
  | medium
  | high
  | criticalStop
  deriving DecidableEq, Repr

/-- `_SEVERITY_ORDER`. -/
def severityOrder : List Severity := [.info, .low, .medium, .high, .criticalStop]

/-- The patterns of each rung. -/
abbrev Ladder := Dict Severity (List Name)

structure FamilyRule where
  codePrefix : Name
  decision : Option Severity := none

structure MisfireRule where
  singleRange : Option (Name × Name) := none
  singleSeverity : Severity := .unknown
  randomExact : Option Name := none
  randomSeverity : Severity := .unknown

structure RuleTable where
  faultTypePatterns : Ladder
  structuralFaultModes : Ladder
  exactCodes : List Name
  familyRules : List FamilyRule
  misfireRule : MisfireRule
  subsystemCaps : Dict Name Severity

section Resolver

variable (upper : CharTable) (lower : LowerTable) (search : Name → Name → Option Bool)

def capIndex (severity : Severity) : Nat :=
  if severity ∈ severityOrder then severityOrder.idxOf severity else severityOrder.length - 1

/-- `_apply_cap`. -/
def applyCap (severity : Severity) (cap : Option Severity) : Severity :=
  match cap with
  | none => severity
  | some cap => if capIndex severity > capIndex cap then cap else severity

def systemLetter (code : Name) : Name := upper.upperText (code.take 1)

def matchesTitle (title pattern : Name) : Bool :=
  search pattern (lower.lowerText title) == some true

/-- `_match_title_pattern`. -/
def matchTitlePattern (title : Name) (patterns : List Name) : Option Name :=
  patterns.find? (matchesTitle lower search title)

def truthy (found : Option Name) : Bool := found.any (fun pattern => !pattern.isEmpty)

def rungFor (title : Name) (patterns : Ladder) : Option Severity :=
  severityOrder.find? (fun rung =>
    (patterns.get? rung).any (fun rungPatterns =>
      truthy (matchTitlePattern lower search title rungPatterns)))

/-- `_fault_type_for`. -/
def faultTypeFor (title : Name) (rules : RuleTable) : Option Severity :=
  rungFor lower search title rules.faultTypePatterns

/-- `_structural_fault_mode`. -/
def structuralFaultMode (title : Name) (rules : RuleTable) : Option Severity :=
  if title = [] then none else rungFor lower search title rules.structuralFaultModes

/-- `_misfire_severity`. -/
def misfireSeverity (code : Name) (rules : RuleTable) : Option Severity :=
  let table := rules.misfireRule
  if table.singleRange.any (fun (first, last) => decide (first ≤ code ∧ code ≤ last)) then
    some table.singleSeverity
  else if table.randomExact = some code then some table.randomSeverity
  else none

def familyOf (code : Name) (families : List FamilyRule) : Option FamilyRule :=
  families.find? (fun family => !family.codePrefix.isEmpty && family.codePrefix.isPrefixOf code)

/-- `_in_critical_allowlist`. -/
def inCriticalAllowlist (code : Name) (rules : RuleTable) : Bool :=
  if code ∈ rules.exactCodes then true
  else
    match familyOf code rules.familyRules with
    | none => false
    | some family => family.decision == none || family.decision == some .criticalStop

/-- `_family_decision`. -/
def familyDecision (code : Name) (rules : RuleTable) : Option Severity :=
  rules.familyRules.findSome? (fun family =>
    if !family.codePrefix.isEmpty && family.codePrefix.isPrefixOf code then family.decision
    else none)

def normalized (code : Name) : Name := upper.upperText (pyStrip code)

/-- `is_obd_code`. -/
def isObdCode (code : Name) : Bool :=
  match normalized upper code with
  | letter :: first :: second :: rest =>
      ['P', 'C', 'B', 'U'].contains letter &&
        (first :: second :: rest).all (fun c => "0123456789ABCDEF".toList.contains c)
  | _ => false

/-- `resolve_severity`, where a missing table resolves nothing. -/
def resolveSeverity (rules : Option RuleTable) (code title : Name) : Severity :=
  if isObdCode upper code then
    match rules with
    | none => .unknown
    | some rules =>
        let code := normalized upper code
        match misfireSeverity code rules with
        | some severity => severity
        | none =>
            let faultRung := faultTypeFor lower search title rules
            if code ∈ rules.exactCodes then .criticalStop
            else
              let faultRung :=
                if faultRung = some .criticalStop ∧ inCriticalAllowlist code rules = false then
                  some .high
                else faultRung
              if faultRung = some .criticalStop then .criticalStop
              else
                match familyDecision code rules with
                | some decision => decision
                | none =>
                    let candidate :=
                      (faultRung.or (structuralFaultMode lower search title rules)).getD .unknown
                    applyCap candidate (rules.subsystemCaps.get? (systemLetter upper code))
  else .unknown

end Resolver

section Shipped

def shippedPatterns : Ladder :=
  [(.criticalStop,
      ["engine overheat", "overheat condition", "coolant temperature.*critical",
       "crankshaft position", "camshaft position", "loss of sync", "timing.*correlation",
       "oil pressure", "low oil pressure", "oil pump", "overboost", "boost pressure.*high",
       "boost condition.*limit exceeded", "turbo.*overboost", "fuel rail pressure.*(high|low)",
       "fuel pressure too low", "shift solenoid", "transmission range sensor", "gear ratio",
       "engine overspeed", "severe derate"].map String.toList),
    (.high,
      ["lost communication with (ecm|pcm|tcm|transmission|engine)",
       "invalid data received.*(transmission|engine|throttle)"].map String.toList),
    (.medium,
      ["circuit malfunction", "circuit range/performance", "signal", "sensor", "rationality",
       "intermittent", "plausibility", "dpf", "diesel particulate",
       "nox (trap|sensor|efficiency)", "scr", "def", "egr flow", "turbo", "wastegate", "vgt",
       "communication bus", "can bus", "bus (off|performance)"].map String.toList),
    (.low,
      ["heater control circuit", "ho2s heater", "o2 sensor heater", "warning lamp", "indicator",
       "lamp circuit", "park brake", "trailer brake", "wiper", "aux heater", "seat", "comfort",
       "fuel fired heater", "parking heater", "cabin heater", "evap", "leak detection"].map String.toList),
    (.info,
      ["service reminder", "maintenance", "mileage"].map String.toList)]

def shippedModes : Ladder :=
  [(.medium,
      ["circuit.*(open|low|high|shorted|malfunction|range|performance)", ".*stuck (open|closed)",
       ".*performance bank", ".*efficiency below threshold", ".*(lean|rich)",
       ".*sensor.*circuit", ".*circuit (intermittent|erratic)",
       ".*(deviation|plausibility|rationality)", ".*control (circuit|module|solenoid|actuator)",
       ".*(below|above).*(temperature|threshold|operating)",
       ".*(valve|solenoid|control channel)", ".*(range|performance)$",
       ".*(correlation|mis ?match|implausible)", ".*(small|large) leak",
       ".*(detected|too (high|low|long|short))", ".*current range",
       ".*(air flow|idle position|throttle body)", ".*cooling system performance",
       "(aralık|araligi|performans|devre|sinyal|korelasyon|sapma|uyumsuzluk)",
       "(altında|üstünde|çok (yüksek|düşük)|aşırı)",
       "(sensör|solenoid|valf|termostat|pompa|enjektör) (devre|arıza|hatası)"].map String.toList),
    (.low,
      [".*(warning lamp|indicator lamp|display|tell ?tale)",
       ".*(mirror|window|door|seat|wiper|horn|radio|climate)",
       ".*(auxiliary|convenience|comfort)", ".*iso/sae reserved"].map String.toList)]

def shippedExactCodes : List Name :=
  ["P0217", "P0219", "P0234", "P0235", "P0251", "P0252", "P0253", "P0254", "P0087", "P0088",
   "P0093", "P1093", "U0100", "U0101", "U0102", "P2105", "P2110", "P2104", "P2106", "P0016",
   "P0017", "P0321", "P0335", "P0336", "P0340", "P0341", "P0524", "P0525", "P0521", "P0522",
   "P0523", "P2183", "P2184", "P2185", "P0700", "P0706", "P0707", "P0708", "P0715", "P0716",
   "P0717", "P0720", "P0721", "P0722", "P0730", "P0740", "P0741", "P0742", "P0743", "P0744",
   "P2763", "P2764", "P0299", "P2263", "P0045", "P0046", "P0047", "P0048", "P1091", "P1092",
   "P1094", "P2002", "P2003", "P2459", "P242F", "P2463", "P244A", "P244B"].map String.toList

/-- The table that comes with the program. -/
def shippedRules : RuleTable where
  faultTypePatterns := shippedPatterns
  structuralFaultModes := shippedModes
  exactCodes := shippedExactCodes
  familyRules := [{ codePrefix := ['U', '0', '1'] },
    { codePrefix := ['U', '0'], decision := some .medium }]
  misfireRule :=
    { singleRange := some ("P0301".toList, "P0312".toList), singleSeverity := .medium
      randomExact := some "P0300".toList, randomSeverity := .medium }
  subsystemCaps := [(['P'], .criticalStop), (['C'], .medium), (['B'], .low), (['U'], .medium)]

end Shipped

section Rungs

variable (lower : LowerTable) (search : Name → Name → Option Bool) (patterns : Ladder) (title : Name)

def Matching (rung : Severity) : Prop :=
  rung ∈ severityOrder ∧ ∃ rungPatterns, patterns.get? rung = some rungPatterns ∧
    ∃ pattern ∈ rungPatterns, matchesTitle lower search title pattern = true

def MostSevere (rung : Severity) : Prop :=
  Matching lower search patterns title rung ∧
    ∀ other, Matching lower search patterns title other → capIndex other ≤ capIndex rung

def Hit (rung : Severity) : Prop :=
  ∃ rungPatterns, patterns.get? rung = some rungPatterns ∧
    ∃ pattern, matchTitlePattern lower search title rungPatterns = some pattern ∧ pattern ≠ []

def Unrivalled : Prop :=
  ∀ rung, MostSevere lower search patterns title rung →
    Hit lower search patterns title rung ∧
      ∀ other, Matching lower search patterns title other → other ≠ rung →
        ¬ Hit lower search patterns title other

def PicksMostSevere (found : Option Severity) : Prop :=
  ∀ rung, MostSevere lower search patterns title rung → found = some rung

variable {lower search patterns title} {rung other : Severity}

theorem hit_iff :
    (patterns.get? rung).any (fun rungPatterns =>
      truthy (matchTitlePattern lower search title rungPatterns)) = true ↔
        Hit lower search patterns title rung := by
  unfold Hit truthy
  simp only [Option.any_eq_true, Bool.not_eq_true', List.isEmpty_eq_false_iff]

theorem Hit.matching (inOrder : rung ∈ severityOrder) (hit : Hit lower search patterns title rung) :
    Matching lower search patterns title rung := by
  obtain ⟨rungPatterns, found, pattern, matched, -⟩ := hit
  exact ⟨inOrder, rungPatterns, found, pattern, List.mem_of_find?_eq_some matched,
    List.find?_some matched⟩

theorem rungFor_some (found : rungFor lower search title patterns = some rung) :
    rung ∈ severityOrder ∧ Hit lower search patterns title rung := by
  unfold rungFor at found
  have hit := List.find?_some found
  exact ⟨List.mem_of_find?_eq_some found, hit_iff.mp hit⟩

theorem capIndex_injective : ∀ rung ∈ severityOrder, ∀ other ∈ severityOrder,
    capIndex rung = capIndex other → rung = other := by
  decide

theorem rungFor_least (found : rungFor lower search title patterns = some rung)
    (inOrder : other ∈ severityOrder) (hit : Hit lower search patterns title other) :
    capIndex rung ≤ capIndex other := by
  have ascending : severityOrder.Pairwise (fun first second => capIndex first ≤ capIndex second) := by
    decide
  obtain ⟨-, front, back, shape, missed⟩ := List.find?_eq_some_iff_append.mp found
  rw [shape] at inOrder ascending
  rcases List.mem_append.mp inOrder with before | after
  · have miss := missed other before
    rw [hit_iff.mpr hit] at miss
    cases miss
  · rcases List.mem_cons.mp after with rfl | later
    · exact Nat.le_refl _
    · exact List.rel_of_pairwise_cons (List.pairwise_append.mp ascending).2.1 later

theorem picksMostSevere_iff :
    PicksMostSevere lower search patterns title (rungFor lower search title patterns) ↔
      Unrivalled lower search patterns title := by
  refine forall₂_congr (fun rung severe => ?_)
  constructor
  · intro found
    refine ⟨(rungFor_some found).2, ?_⟩
    intro other matching apart hit
    have below := severe.2 other matching
    have above := rungFor_least found matching.1 hit
    exact apart (capIndex_injective other matching.1 rung severe.1.1 (Nat.le_antisymm below above))
  · rintro ⟨hit, alone⟩
    have some_hit : (rungFor lower search title patterns).isSome = true :=
      List.find?_isSome.mpr ⟨rung, severe.1.1, hit_iff.mpr hit⟩
    obtain ⟨other, found⟩ := Option.isSome_iff_exists.mp some_hit
    obtain ⟨inOrder, otherHit⟩ := rungFor_some found
    rw [found]
    by_contra apart
    exact alone other (otherHit.matching inOrder) (fun same => apart (congrArg some same)) otherHit

theorem capIndex_le (rung : Severity) : capIndex rung ≤ 4 := by
  cases rung <;> decide

theorem exists_mostSevere (matching : Matching lower search patterns title rung) :
    ∃ severe, MostSevere lower search patterns title severe := by
  obtain ⟨severe, isIn, least⟩ := (measure (fun rung => 4 - capIndex rung)).wf.has_min
    {rung | Matching lower search patterns title rung} ⟨rung, matching⟩
  refine ⟨severe, isIn, fun other otherMatching => ?_⟩
  have notLess : ¬ 4 - capIndex other < 4 - capIndex severe := least other otherMatching
  have small := capIndex_le other
  have bound := capIndex_le severe
  omega

theorem picksMostSevere_none :
    PicksMostSevere lower search patterns title none ↔
      ∀ rung, ¬ Matching lower search patterns title rung := by
  constructor
  · intro picks rung matching
    obtain ⟨severe, isSevere⟩ := exists_mostSevere matching
    cases picks severe isSevere
  · exact fun nothing rung severe => absurd severe.1 (nothing rung)

end Rungs

section Stop

variable {upper : CharTable} {lower : LowerTable} {search : Name → Name → Option Bool}
  {rules : RuleTable} {code title : Name}

/-- What the rules other than the list of codes never say. -/
structure NoOtherStop (rules : RuleTable) : Prop where
  misfire : rules.misfireRule.singleSeverity ≠ .criticalStop ∧
    rules.misfireRule.randomSeverity ≠ .criticalStop
  families : ∀ family ∈ rules.familyRules, family.decision ≠ some .criticalStop
  modes : rules.structuralFaultModes.get? .criticalStop = none

theorem applyCap_stop {severity : Severity} {cap : Option Severity}
    (stop : applyCap severity cap = .criticalStop) : severity = .criticalStop := by
  cases cap with
  | none => exact stop
  | some cap =>
      unfold applyCap at stop
      dsimp only at stop
      split at stop
      next above =>
        rw [stop] at above
        revert above
        cases severity <;> decide
      next => exact stop

theorem misfireSeverity_some {severity : Severity} (misfire : misfireSeverity code rules = some severity) :
    severity = rules.misfireRule.singleSeverity ∨ severity = rules.misfireRule.randomSeverity := by
  unfold misfireSeverity at misfire
  dsimp only at misfire
  split at misfire
  · exact Or.inl (Option.some.inj misfire).symm
  · split at misfire
    · exact Or.inr (Option.some.inj misfire).symm
    · cases misfire

theorem familyDecision_some {decision : Severity}
    (decided : familyDecision code rules = some decision) :
    ∃ family ∈ rules.familyRules, family.codePrefix.isPrefixOf code = true ∧
      family.decision = some decision := by
  obtain ⟨family, member, found⟩ := List.exists_of_findSome?_eq_some decided
  split at found
  next starts => exact ⟨family, member, (Bool.and_eq_true_iff.mp starts).2, found⟩
  next => cases found

theorem structuralFaultMode_hit {rung : Severity}
    (found : structuralFaultMode lower search title rules = some rung) :
    Hit lower search rules.structuralFaultModes title rung := by
  unfold structuralFaultMode at found
  split at found
  · cases found
  · exact (rungFor_some found).2

theorem resolveSeverity_stop (none : NoOtherStop rules)
    (stop : resolveSeverity upper lower search (some rules) code title = .criticalStop) :
    inCriticalAllowlist (normalized upper code) rules = true := by
  unfold resolveSeverity at stop
  split at stop
  next =>
    dsimp only at stop
    split at stop
    next severity misfire =>
      rw [stop] at misfire
      rcases misfireSeverity_some misfire with single | random
      · exact absurd single.symm none.misfire.1
      · exact absurd random.symm none.misfire.2
    next =>
      split at stop
      next listed =>
        unfold inCriticalAllowlist
        rw [if_pos listed]
      next =>
        by_contra outside
        rw [Bool.not_eq_true] at outside
        simp only [outside, and_true] at stop
        have demoted : (if faultTypeFor lower search title rules = some .criticalStop then some .high
            else faultTypeFor lower search title rules) ≠ some Severity.criticalStop := by
          split
          next => exact fun same => by cases same
          next other => exact other
        rw [if_neg demoted] at stop
        split at stop
        next decision decided =>
          obtain ⟨family, member, -, same⟩ := familyDecision_some decided
          exact none.families family member (stop ▸ same)
        next =>
          have candidate := applyCap_stop stop
          rw [Option.getD_eq_iff] at candidate
          rcases candidate with named | ⟨-, unknown⟩
          · rcases Option.or_eq_some_iff.mp named with fault | ⟨-, structural⟩
            · exact demoted fault
            · obtain ⟨rungPatterns, present, -⟩ := structuralFaultMode_hit structural
              rw [none.modes] at present
              cases present
          · cases unknown
  next => cases stop

end Stop

section Body

variable {upper : CharTable} {lower : LowerTable} {search : Name → Name → Option Bool}
  {rest title : Name}

theorem shipped_noOtherStop : NoOtherStop shippedRules where
  misfire := by decide
  families := by decide
  modes := by decide

theorem body_not_misfire : misfireSeverity ('B' :: rest) shippedRules = none := by
  have outside : ¬ ("P0301".toList ≤ 'B' :: rest ∧ 'B' :: rest ≤ "P0312".toList) := by
    rintro ⟨above, -⟩
    have before : 'B' :: rest < 'P' :: "0301".toList := List.Lex.rel (by decide)
    exact absurd above (not_le_of_gt before)
  have other : shippedRules.misfireRule.randomExact ≠ some ('B' :: rest) := by
    intro same
    have first := congrArg List.head? (Option.some.inj same)
    exact absurd (Option.some.inj first) (by decide)
  have range : ¬ shippedRules.misfireRule.singleRange.any (fun (first, last) =>
      decide (first ≤ 'B' :: rest ∧ 'B' :: rest ≤ last)) = true :=
    fun inside => outside (of_decide_eq_true inside)
  unfold misfireSeverity
  dsimp only
  rw [if_neg range, if_neg other]

theorem body_not_exact : 'B' :: rest ∉ shippedRules.exactCodes := by
  have starts : ∀ code ∈ shippedExactCodes, code.head? ≠ some 'B' := by decide +kernel
  exact fun listed => starts _ listed rfl

theorem body_no_family : ∀ family ∈ shippedRules.familyRules,
    family.codePrefix.isPrefixOf ('B' :: rest) = false := by
  intro family member
  simp only [shippedRules, List.mem_cons, List.not_mem_nil, or_false] at member
  rcases member with rfl | rfl
  · rfl
  · rfl

theorem body_not_allowed : inCriticalAllowlist ('B' :: rest) shippedRules = false := by
  have none : familyOf ('B' :: rest) shippedRules.familyRules = none := by
    refine List.find?_eq_none.mpr (fun family member => ?_)
    rw [body_no_family family member, Bool.and_false]
    exact Bool.false_ne_true
  unfold inCriticalAllowlist
  rw [if_neg body_not_exact, none]

theorem body_not_decided : familyDecision ('B' :: rest) shippedRules = none := by
  refine List.findSome?_eq_none_iff.mpr (fun family member => ?_)
  rw [body_no_family family member, Bool.and_false]
  exact if_neg Bool.false_ne_true

theorem applyCap_low (severity : Severity) : applyCap severity (some .low) ∈ [.info, .low] := by
  cases severity <;> decide

theorem resolveSeverity_body {code : Name} (body : normalized upper code = 'B' :: rest) :
    resolveSeverity upper lower search (some shippedRules) code title ∈
      [Severity.unknown, .info, .low] := by
  have cap : shippedRules.subsystemCaps.get? (systemLetter upper ('B' :: rest)) = some .low := by
    have letter : systemLetter upper ('B' :: rest) = ['B'] := by
      change (upper.upper 'B') ++ [] = ['B']
      rw [upper.asciiUpper 'B' (by decide)]
      rfl
    rw [letter]
    decide
  unfold resolveSeverity
  split
  next =>
    dsimp only
    rw [body, body_not_misfire, body_not_decided, cap]
    dsimp only
    rw [if_neg body_not_exact]
    have demoted : (if faultTypeFor lower search title shippedRules = some .criticalStop ∧
        inCriticalAllowlist ('B' :: rest) shippedRules = false then some .high
          else faultTypeFor lower search title shippedRules) ≠ some Severity.criticalStop := by
      split
      next => exact fun same => by cases same
      next other => exact fun stop => other ⟨stop, body_not_allowed⟩
    rw [if_neg demoted]
    exact List.mem_cons_of_mem _ (applyCap_low _)
  next => exact List.mem_cons_self

end Body

/-- For every table and title the rungs that are found are the most severe ones that match, and with
the table of the program no title lets a code outside the list stop the engine or lifts a body code
over the low rung, exactly if in both ladders the most severe rung that matches is the only hit. -/
theorem severity_iff (upper : CharTable) (lower : LowerTable) (search : Name → Name → Option Bool)
    (rules : RuleTable) (code title : Name) :
    (PicksMostSevere lower search rules.faultTypePatterns title
        (faultTypeFor lower search title rules) ∧
      PicksMostSevere lower search rules.structuralFaultModes title
        (structuralFaultMode lower search title rules) ∧
      (resolveSeverity upper lower search (some shippedRules) code title = .criticalStop →
        inCriticalAllowlist (normalized upper code) shippedRules = true) ∧
      ((normalized upper code).head? = some 'B' →
        resolveSeverity upper lower search (some shippedRules) code title ∈
          [Severity.unknown, .info, .low])) ↔
    Unrivalled lower search rules.faultTypePatterns title ∧
      (if title = [] then ∀ rung, ¬ Matching lower search rules.structuralFaultModes title rung
        else Unrivalled lower search rules.structuralFaultModes title) := by
  have structural : PicksMostSevere lower search rules.structuralFaultModes title
      (structuralFaultMode lower search title rules) ↔
        if title = [] then ∀ rung, ¬ Matching lower search rules.structuralFaultModes title rung
        else Unrivalled lower search rules.structuralFaultModes title := by
    unfold structuralFaultMode
    split
    · exact picksMostSevere_none
    · exact picksMostSevere_iff
  rw [← structural, ← picksMostSevere_iff]
  constructor
  · exact fun holds => ⟨holds.1, holds.2.1⟩
  · rintro ⟨faults, modes⟩
    refine ⟨faults, modes, resolveSeverity_stop shipped_noOtherStop, fun body => ?_⟩
    obtain ⟨rest, shape⟩ := List.head?_eq_some_iff.mp body
    exact resolveSeverity_body shape

def plainSearch (pattern text : Name) : Option Bool := some (decide (pattern <:+: text))

/-- Two rungs match, and the milder one is found. -/
theorem milder_rung_found :
    let title := "Engine Oil Pressure Sensor".toList
    MostSevere plainLower plainSearch shippedPatterns title .criticalStop ∧
      faultTypeFor plainLower plainSearch title shippedRules = some .medium ∧
      ¬ PicksMostSevere plainLower plainSearch shippedPatterns title
        (faultTypeFor plainLower plainSearch title shippedRules) := by
  intro title
  have severe : MostSevere plainLower plainSearch shippedPatterns title .criticalStop :=
    ⟨⟨by decide, _, rfl, "oil pressure".toList, by decide +kernel, by decide +kernel⟩,
      fun other _ => capIndex_le other⟩
  have found : faultTypeFor plainLower plainSearch title shippedRules = some .medium := by
    decide +kernel
  refine ⟨severe, found, fun picks => ?_⟩
  have same := found.symm.trans (picks .criticalStop severe)
  cases same

end Ucanlab.Engine.Ai.SeverityRules
