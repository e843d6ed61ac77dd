import Ucanlab.Core.CharTable

/-!
The VIN boundary of a vehicle session: the masker for free text, the check of a masked VIN, and the
container that takes nothing else.
-/

namespace Ucanlab

/-- `[A-HJ-NPR-Z0-9]`. -/
def vinAlphabet (c : Char) : Bool :=
  ('A' ≤ c && c ≤ 'H') || ('J' ≤ c && c ≤ 'N') || c == 'P' || ('R' ≤ c && c ≤ 'Z') ||
    ('0' ≤ c && c ≤ '9')

def vinLowercase (c : Char) : Bool :=
  ('a' ≤ c && c ≤ 'h') || ('j' ≤ c && c ≤ 'n') || c == 'p' || ('r' ≤ c && c ≤ 'z')

def vinLetter (c : Char) : Bool := vinAlphabet c || vinLowercase c

/-- The class under `re.IGNORECASE`, where the long s and the kelvin sign are an s and a k. -/
def vinIgnoreCase (c : Char) : Bool := vinLetter c || c == '\u017F' || c == '\u212A'

/-- `\b`, seventeen characters of a class, `\b`. -/
def seventeen (table : CharTable) (test : Char → Bool) : Regex :=
  .cat table.boundary (.cat (.times 17 (some 17) (.char test)) table.boundary)

def rawVinRe (table : CharTable) : Regex := seventeen table vinIgnoreCase

def rawVinFullmatchRe (table : CharTable) : Regex := seventeen table vinAlphabet

/-- `^\*{11}[A-HJ-NPR-Z0-9]{6}$`. -/
def maskedVinRe : Regex :=
  .cat (.look (fun prev _ => prev.isNone))
    (.cat (.times 11 (some 11) (.char (fun c => c == '*')))
      (.cat (.times 6 (some 6) (.char vinAlphabet))
        (.look (fun _ rest => rest.isEmpty || rest == ['\n']))))

def vinMaskPlaceholder : List Char := List.replicate 11 '*'

def maskRun (run : List Char) : List Char := vinMaskPlaceholder ++ run.drop (run.length - 6)

def maskVinInText (table : CharTable) (text : List Char) : List Char :=
  (rawVinRe table).sub maskRun text

inductive SessionError where
  | rawVin
  | notMasked
  | disagree
  | emptySessionId
  | negativeStart
  deriving DecidableEq, Repr

def SessionError.text : SessionError → String
  | .rawVin => "vin_masked contains a RAW VIN — mask it with mask_vin_in_text first"
  | .notMasked => "vin_masked must be mask_vin_in_text output (11 '*' + last 6 VIN chars)"
  | .disagree => "vin and vin_masked disagree — pass only one of them"
  | .emptySessionId => "session_id must be non-empty"
  | .negativeStart => "started_at_ns must be non-negative"

def validateVinMasked (table : CharTable) (value : List Char) : Except SessionError (List Char) :=
  if ((rawVinFullmatchRe table).fullMatch value).isSome then .error .rawVin
  else if (maskedVinRe.fullMatch value).isNone then .error .notMasked
  else .ok value

inductive DiagnosticDomain where
  | heavyDuty
  | passenger
  | marine
  | industrial
  | agriculture
  deriving DecidableEq, Repr

structure VehicleSession (Event Sample : Type) where
  sessionId : List Char
  startedAtNs : Int
  domain : DiagnosticDomain
  make : Option (List Char) := none
  model : Option (List Char) := none
  vin : Option (List Char) := none
  traceRef : Option (List Char) := none
  events : List Event := []
  samples : List Sample := []

namespace VehicleSession

variable {Event Sample : Type}

/-- The setter of `vin_masked`. -/
def setVinMasked (table : CharTable) (session : VehicleSession Event Sample) :
    Option (List Char) → Except SessionError (VehicleSession Event Sample)
  | none => .ok { session with vin := none }
  | some value => do
      let vin ← validateVinMasked table value
      .ok { session with vin := some vin }

def postInit (table : CharTable) (session : VehicleSession Event Sample) :
    Except SessionError (VehicleSession Event Sample) :=
  if session.sessionId = [] ∨ pyStrip session.sessionId = [] then .error .emptySessionId
  else if session.startedAtNs < 0 then .error .negativeStart
  else
    match session.vin with
    | none => .ok session
    | some value => do
        let vin ← validateVinMasked table value
        .ok { session with vin := some vin }

structure Arguments (Event Sample : Type) where
  sessionId : List Char
  startedAtNs : Int
  domain : DiagnosticDomain
  make : Option (List Char) := none
  model : Option (List Char) := none
  vinMasked : Option (List Char) := none
  traceRef : Option (List Char) := none
  events : Option (List Event) := none
  samples : Option (List Sample) := none
  vin : Option (List Char) := none

/-- The session before its VIN is set. -/
def Arguments.session (arguments : Arguments Event Sample) : VehicleSession Event Sample where
  sessionId := arguments.sessionId
  startedAtNs := arguments.startedAtNs
  domain := arguments.domain
  make := arguments.make
  model := arguments.model
  traceRef := arguments.traceRef
  events := arguments.events.getD []
  samples := arguments.samples.getD []

def new (table : CharTable) (arguments : Arguments Event Sample) :
    Except SessionError (VehicleSession Event Sample) := do
  let vinMasked ←
    match arguments.vin with
    | none => .ok arguments.vinMasked
    | some vin =>
        if arguments.vinMasked ≠ none ∧ arguments.vinMasked ≠ some vin then .error .disagree
        else .ok (some vin)
  let session ← arguments.session.setVinMasked table vinMasked
  session.postInit table

end VehicleSession

section Characters

variable (table : CharTable)

theorem vinLetter_ascii {c : Char} (letter : vinLetter c = true) :
    c.toNat < 0x80 ∧ (c.isAlpha = true ∨ c.isDigit = true) := by
  unfold vinLetter vinAlphabet vinLowercase at letter
  simp only [Bool.or_eq_true, Bool.and_eq_true, decide_eq_true_eq, beq_iff_eq, Char.le_def,
    UInt32.le_iff_toNat_le] at letter
  change c.toNat < 0x80 ∧ ((decide (c.val ≥ 'A'.val ∧ c.val ≤ 'Z'.val) ||
    (decide (c.val ≥ 'a'.val) && decide (c.val ≤ 'z'.val))) = true ∨
      (decide (c.val ≥ '0'.val) && decide (c.val ≤ '9'.val)) = true)
  simp only [Bool.or_eq_true, Bool.and_eq_true, decide_eq_true_eq, UInt32.le_iff_toNat_le,
    ge_iff_le]
  rcases letter with ((((⟨low, high⟩ | ⟨low, high⟩) | rfl) | ⟨low, high⟩) | ⟨low, high⟩) |
    ((⟨low, high⟩ | ⟨low, high⟩) | rfl) | ⟨low, high⟩
  all_goals
    first
    | decide
    | change _ ≤ c.toNat at low
      change c.toNat ≤ _ at high
      change c.toNat < 128 ∧
        ((65 ≤ c.toNat ∧ c.toNat ≤ 90 ∨ 97 ≤ c.toNat ∧ c.toNat ≤ 122) ∨
          48 ≤ c.toNat ∧ c.toNat ≤ 57)
      simp only [Char.reduceVal, UInt32.reduceToNat] at low high
      omega

theorem letterOrDigit_of_vinIgnoreCase {c : Char} (vin : vinIgnoreCase c = true) :
    table.letterOrDigit c = true := by
  unfold vinIgnoreCase at vin
  simp only [Bool.or_eq_true, beq_iff_eq] at vin
  unfold CharTable.letterOrDigit
  rw [Bool.or_eq_true]
  rcases vin with (letter | rfl) | rfl
  · obtain ⟨ascii, alpha | digit⟩ := vinLetter_ascii letter
    · exact Or.inl ((table.ascii c ascii).1.trans alpha)
    · exact Or.inr ((table.ascii c ascii).2.1.trans digit)
  · exact Or.inl table.longS
  · exact Or.inl table.kelvin

theorem wordChar_of_vinIgnoreCase {c : Char} (vin : vinIgnoreCase c = true) :
    table.wordChar c = true := by
  unfold CharTable.wordChar
  rw [letterOrDigit_of_vinIgnoreCase table vin, Bool.true_or, Bool.true_or]

theorem vinIgnoreCase_of_letter {c : Char} (letter : vinLetter c = true) :
    vinIgnoreCase c = true := by
  unfold vinIgnoreCase
  rw [letter, Bool.true_or, Bool.true_or]

theorem vinLetter_of_alphabet {c : Char} (letter : vinAlphabet c = true) :
    vinLetter c = true := by
  unfold vinLetter
  rw [letter, Bool.true_or]

theorem not_lowercase_of_alphabet {c : Char} (letter : vinAlphabet c = true) :
    vinLowercase c = false := by
  rw [Bool.eq_false_iff]
  intro lowercase
  unfold vinAlphabet at letter
  unfold vinLowercase at lowercase
  simp only [Bool.or_eq_true, Bool.and_eq_true, decide_eq_true_eq, beq_iff_eq, Char.le_def,
    UInt32.le_iff_toNat_le, Char.ext_iff, UInt32.toNat_inj.symm, Char.reduceVal,
    UInt32.reduceToNat] at letter lowercase
  omega

theorem star_not_vin : vinIgnoreCase '*' = false := by decide

end Characters

section Runs

variable (table : CharTable)

/-- Seventeen characters of a class start at a place, with free neighbours on both sides. -/
def Delimited (free : Option Char → Prop) (test : Char → Bool) (prev : Option Char)
    (text : List Char) : Prop :=
  ∃ run rest, text = run ++ rest ∧ run.length = 17 ∧ (∀ c ∈ run, test c = true) ∧
    free prev ∧ free rest.head?

/-- A VIN in either case between the text's ends or characters that are neither letters nor
digits. -/
def Exposed : Option Char → List Char → Prop :=
  Delimited (fun neighbour => table.letterOrDigitAt neighbour = false) vinLetter

def ExposedBesideWord (prev : Option Char) (text : List Char) : Prop :=
  Exposed table prev text ∧
    (table.wordAt prev = true ∨ table.wordAt (text.drop 17).head? = true)

/-- What the masker finds. -/
def Found : Option Char → List Char → Prop :=
  Delimited (fun neighbour => table.wordAt neighbour = false) vinIgnoreCase

theorem Delimited.test_head {free : Option Char → Prop} {test : Char → Bool}
    {prev : Option Char} {c : Char} {rest : List Char}
    (delimited : Delimited free test prev (c :: rest)) : test c = true := by
  obtain ⟨run, after, text, length, kind, -, -⟩ := delimited
  cases run with
  | nil => cases length
  | cons d more =>
      rw [List.cons_append] at text
      cases (List.cons.inj text).1
      exact kind c List.mem_cons_self

theorem Delimited.ne_nil {free : Option Char → Prop} {test : Char → Bool} {prev : Option Char}
    {text : List Char} (delimited : Delimited free test prev text) : text ≠ [] := by
  obtain ⟨run, rest, rfl, length, -⟩ := delimited
  exact List.append_ne_nil_of_left_ne_nil (List.ne_nil_of_length_eq_add_one length) rest

theorem wordAt_behind {test : Char → Bool} (word : ∀ c, test c = true → table.wordChar c = true)
    {read : List Char} (some : read ≠ []) (kind : ∀ c ∈ read, test c = true)
    (prev : Option Char) : table.wordAt (behind prev read) = true := by
  obtain ⟨c, member, last⟩ := behind_of_ne_nil some prev
  rw [last]
  exact word c (kind c member)

theorem wordAt_head {test : Char → Bool} (word : ∀ c, test c = true → table.wordChar c = true)
    {read : List Char} (some : read ≠ []) (kind : ∀ c ∈ read, test c = true)
    (rest : List Char) : table.wordAt (read ++ rest).head? = true := by
  cases read with
  | nil => exact absurd rfl some
  | cons c more => exact word c (kind c List.mem_cons_self)

theorem mem_run_seventeen {test : Char → Bool}
    (word : ∀ c, test c = true → table.wordChar c = true) {place found : Regex.Place} :
    found ∈ (seventeen table test).run place ↔
      ∃ run, place.rest = run ++ found.rest ∧ run.length = 17 ∧ (∀ c ∈ run, test c = true) ∧
        table.wordAt place.prev = false ∧ table.wordAt found.rest.head? = false ∧
        found.prev = behind place.prev run ∧ found.groups = place.groups := by
  unfold seventeen CharTable.boundary
  simp only [Regex.mem_run_cat, Regex.mem_run_look, Regex.mem_run_exactly]
  constructor
  · rintro ⟨_, ⟨before, rfl⟩, _, ⟨run, text, length, kind, last, groups⟩, after, rfl⟩
    have some : run ≠ [] := List.ne_nil_of_length_eq_add_one length
    rw [last, wordAt_behind table word some kind] at after
    rw [text, wordAt_head table word some kind] at before
    exact ⟨run, text, length, kind, by simpa using before, by simpa using after, last, groups⟩
  · rintro ⟨run, text, length, kind, before, after, last, groups⟩
    have some : run ≠ [] := List.ne_nil_of_length_eq_add_one length
    refine ⟨place, ⟨?_, rfl⟩, found, ⟨run, text, length, kind, last, groups⟩, ?_, rfl⟩
    · rw [text, wordAt_head table word some kind, before]
      rfl
    · rw [last, wordAt_behind table word some kind, after]
      rfl

theorem rawVinRe_consuming : (rawVinRe table).Consuming := by
  intro place found member
  obtain ⟨run, text, length, -⟩ :=
    (mem_run_seventeen table (fun _ => wordChar_of_vinIgnoreCase table)).mp member
  rw [text, List.length_append, length]
  omega

/-- The masker's output for the text behind a place. -/
abbrev Masked : Option Char → List Char → List Char → Prop :=
  (rawVinRe table).Replaced maskRun

theorem maskVinInText_masked (text : List Char) :
    Masked table none text (maskVinInText table text) :=
  Regex.replaced_subFrom (rawVinRe_consuming table) none text

theorem found_of_mem {prev : Option Char} {read : List Char} {place : Regex.Place}
    (member : place ∈ (rawVinRe table).run ⟨prev, read ++ place.rest, []⟩) :
    read.length = 17 ∧ (∀ c ∈ read, vinIgnoreCase c = true) ∧ table.wordAt prev = false ∧
      table.wordAt place.rest.head? = false := by
  obtain ⟨run, text, length, kind, before, after, -⟩ :=
    (mem_run_seventeen table (fun _ => wordChar_of_vinIgnoreCase table)).mp member
  cases List.append_cancel_right text
  exact ⟨length, kind, before, after⟩

theorem not_found_of_empty {prev : Option Char} {text : List Char}
    (nothing : (rawVinRe table).run ⟨prev, text, []⟩ = []) : ¬ Found table prev text := by
  rintro ⟨run, rest, split, length, kind, before, after⟩
  have member : ⟨behind prev run, rest, []⟩ ∈ (rawVinRe table).run ⟨prev, text, []⟩ :=
    (mem_run_seventeen table (fun _ => wordChar_of_vinIgnoreCase table)).mpr
      ⟨run, split, length, kind, before, after, rfl, rfl⟩
  rw [nothing] at member
  exact absurd member List.not_mem_nil

end Runs

section Alike

def StartsAs (test : Char → Bool) (first second : List Char) : Prop :=
  ∀ run rest, first = run ++ rest → (∀ c ∈ run, test c = true) →
    ∃ other, second = run ++ other ∧ other.head? = rest.head?

theorem StartsAs.cons {test : Char → Bool} {first second : List Char}
    (alike : StartsAs test first second) (c : Char) :
    StartsAs test (c :: first) (c :: second) := by
  intro run rest split kind
  cases run with
  | nil =>
      cases split
      exact ⟨c :: second, rfl, rfl⟩
  | cons d more =>
      rw [List.cons_append] at split
      obtain ⟨rfl, remaining⟩ := List.cons.inj split
      obtain ⟨other, found, heads⟩ :=
        alike more rest remaining (fun e member => kind e (List.mem_cons_of_mem c member))
      exact ⟨other, by rw [found, List.cons_append], heads⟩

theorem startsAs_of_other {test : Char → Bool} {c : Char} (other : test c = false)
    (first second : List Char) : StartsAs test (c :: first) (c :: second) := by
  intro run rest split kind
  cases run with
  | nil =>
      cases split
      exact ⟨c :: second, rfl, rfl⟩
  | cons d more =>
      cases (List.cons.inj split).1
      exact absurd (kind c List.mem_cons_self) (by rw [other]; exact Bool.false_ne_true)

theorem Delimited.transfer {free : Option Char → Prop} {test class' : Char → Bool}
    (within : ∀ c, test c = true → class' c = true) {first second : List Char}
    (alike : StartsAs class' first second) {prev : Option Char}
    (delimited : Delimited free test prev first) : Delimited free test prev second := by
  obtain ⟨run, rest, split, length, kind, before, after⟩ := delimited
  obtain ⟨other, found, heads⟩ :=
    alike run rest split (fun c member => within c (kind c member))
  exact ⟨run, other, found, length, kind, before, by rwa [heads]⟩

variable (table : CharTable)

theorem Masked.startsAs {prev : Option Char} {text output : List Char}
    (masked : Masked table prev text output) (word : table.wordAt prev = true) :
    StartsAs vinIgnoreCase text output ∧ StartsAs vinIgnoreCase output text := by
  induction masked with
  | done prev =>
      constructor <;>
      · intro run rest split kind
        exact ⟨rest, split, rfl⟩
  | hit member tail ih =>
      rw [(found_of_mem table member).2.2.1] at word
      cases word
  | @miss prev c rest output nothing tail ih =>
      by_cases kind : vinIgnoreCase c = true
      · have both := ih (wordChar_of_vinIgnoreCase table kind)
        exact ⟨both.1.cons c, both.2.cons c⟩
      · have other := Bool.eq_false_iff.mpr kind
        exact ⟨startsAs_of_other other rest output, startsAs_of_other other output rest⟩

theorem maskRun_eq {read : List Char} (length : read.length = 17) :
    maskRun read = vinMaskPlaceholder ++ read.drop 11 := by
  unfold maskRun
  rw [length]

theorem tail_ne_nil {read : List Char} (length : read.length = 17) : read.drop 11 ≠ [] := by
  refine List.ne_nil_of_length_pos ?_
  rw [List.length_drop, length]
  decide

theorem behind_maskRun {read : List Char} (length : read.length = 17) (prev : Option Char) :
    behind prev (maskRun read) = behind prev read := by
  rw [maskRun_eq length, behind_append]
  conv_rhs => rw [← List.take_append_drop 11 read, behind_append]
  exact behind_congr (tail_ne_nil length) _ _

theorem maskRun_split {read before after : List Char} {c : Char} (length : read.length = 17)
    (kind : vinIgnoreCase c = true) (split : maskRun read = before ++ c :: after) :
    ∃ inner, before = vinMaskPlaceholder ++ inner ∧ read.drop 11 = inner ++ c :: after := by
  rw [maskRun_eq length] at split
  rcases List.append_eq_append_iff.mp split with ⟨inner, found, tail⟩ | ⟨stars, left, right⟩
  · exact ⟨inner, found, tail⟩
  · cases stars with
    | nil => exact ⟨[], by rw [left, List.append_nil, List.append_nil], right.symm⟩
    | cons d more =>
        rw [List.cons_append] at right
        cases (List.cons.inj right).1
        have star : c = '*' := by
          refine List.eq_of_mem_replicate (n := 11) ?_
          change c ∈ vinMaskPlaceholder
          rw [left]
          exact List.mem_append_right _ List.mem_cons_self
        rw [star, star_not_vin] at kind
        cases kind

theorem tail_quiet {free : Option Char → Prop} {test : Char → Bool}
    (within : ∀ c, test c = true → vinIgnoreCase c = true) {prev starts : Option Char}
    {read output : List Char} {place : Regex.Place}
    (member : place ∈ (rawVinRe table).run ⟨prev, read ++ place.rest, []⟩)
    (tail : Masked table (behind prev read) place.rest output) :
    ¬ Delimited free test starts (read.drop 11 ++ output) := by
  rintro ⟨run, rest, text, runLength, runKind, -, -⟩
  obtain ⟨length, kind, -, next⟩ := found_of_mem table member
  have word : ∀ c, vinIgnoreCase c = true → table.wordChar c = true :=
    fun _ => wordChar_of_vinIgnoreCase table
  have shorter : (read.drop 11).length = 6 := by rw [List.length_drop, length]
  rcases List.append_eq_append_iff.mp text with ⟨more, rfl, split⟩ | ⟨more, split, -⟩
  · have moreLength : more.length = 10 + 1 := by
      rw [List.length_append, shorter] at runLength
      omega
    have some : more ≠ [] := List.ne_nil_of_length_eq_add_one moreLength
    have moreKind : ∀ d ∈ more, vinIgnoreCase d = true :=
      fun d inside => within d (runKind d (List.mem_append_right _ inside))
    have behindRead : table.wordAt (behind prev read) = true :=
      wordAt_behind table word (List.ne_nil_of_length_eq_add_one length) kind prev
    obtain ⟨other, goesOn, -⟩ :=
      (Masked.startsAs table tail behindRead).2 more rest split moreKind
    rw [goesOn, wordAt_head table word some moreKind] at next
    cases next
  · have lengths := congrArg List.length split
    rw [List.length_append, shorter, runLength] at lengths
    omega

theorem maskRun_quiet {free : Option Char → Prop} {test : Char → Bool}
    (within : ∀ c, test c = true → vinIgnoreCase c = true)
    (bound : ∀ c, vinIgnoreCase c = true → ¬ free (some c)) {prev : Option Char}
    {read output : List Char} {place : Regex.Place}
    (member : place ∈ (rawVinRe table).run ⟨prev, read ++ place.rest, []⟩)
    (tail : Masked table (behind prev read) place.rest output) {before after : List Char}
    {c : Char} (split : maskRun read = before ++ c :: after) :
    ¬ Delimited free test (behind prev before) (c :: after ++ output) := by
  intro delimited
  obtain ⟨length, kind, -, -⟩ := found_of_mem table member
  obtain ⟨inner, rfl, tailSplit⟩ :=
    maskRun_split length (within c delimited.test_head) split
  cases inner with
  | nil =>
      rw [List.nil_append] at tailSplit
      rw [← tailSplit] at delimited
      exact tail_quiet table within member tail delimited
  | cons d inner =>
      obtain ⟨_, _, _, _, _, freeBefore, _⟩ := delimited
      rw [behind_append] at freeBefore
      obtain ⟨last, inside, found⟩ :=
        behind_of_ne_nil (List.cons_ne_nil d inner) (behind prev vinMaskPlaceholder)
      rw [found] at freeBefore
      refine bound last (kind last (List.mem_of_mem_drop (i := 11) ?_)) freeBefore
      rw [tailSplit]
      exact List.mem_append_left _ inside

end Alike

section Boundary

variable (table : CharTable)

theorem wordAt_not_free (c : Char) (kind : vinIgnoreCase c = true) :
    ¬ table.wordAt (some c) = false := by
  intro free
  rw [CharTable.wordAt, Option.any_some, wordChar_of_vinIgnoreCase table kind] at free
  cases free

theorem letterOrDigitAt_not_free (c : Char) (kind : vinIgnoreCase c = true) :
    ¬ table.letterOrDigitAt (some c) = false := by
  intro free
  rw [CharTable.letterOrDigitAt, Option.any_some, letterOrDigit_of_vinIgnoreCase table kind] at free
  cases free

theorem Masked.nothing_found {prev : Option Char} {text output : List Char}
    (masked : Masked table prev text output) : ¬ Somewhere (Found table) prev output := by
  induction masked with
  | done prev =>
      intro holds
      exact Delimited.ne_nil holds.of_nil rfl
  | hit member tail ih =>
      intro holds
      have after := holds.rest_of (fun before c inside split =>
        maskRun_quiet table (fun _ same => same) (wordAt_not_free table) member tail split)
      rw [behind_maskRun (found_of_mem table member).1] at after
      exact ih after
  | @miss prev c rest output nothing tail ih =>
      intro holds
      cases holds with
      | later holds => exact ih holds
      | here found =>
          have word := wordChar_of_vinIgnoreCase table found.test_head
          have alike := (Masked.startsAs table tail word).2.cons c
          exact not_found_of_empty table nothing (found.transfer (fun _ same => same) alike)

theorem Masked.unchanged {prev : Option Char} {text output : List Char}
    (masked : Masked table prev text output) (nothing : ¬ Somewhere (Found table) prev text) :
    output = text := by
  induction masked with
  | done prev => rfl
  | hit member tail ih =>
      obtain ⟨length, kind, before, after⟩ := found_of_mem table member
      exact absurd (.here ⟨_, _, rfl, length, kind, before, after⟩) nothing
  | miss _ tail ih => rw [ih (fun holds => nothing (.later holds))]

theorem maskVinInText_idempotent (text : List Char) :
    maskVinInText table (maskVinInText table text) = maskVinInText table text :=
  Masked.unchanged table (maskVinInText_masked table _)
    (Masked.nothing_found table (maskVinInText_masked table text))

theorem exposedBesideWord_of_not_found {prev : Option Char} {text : List Char}
    (exposed : Exposed table prev text) (nothing : ¬ Found table prev text) :
    ExposedBesideWord table prev text := by
  refine ⟨exposed, ?_⟩
  by_contra neither
  rw [not_or, Bool.not_eq_true, Bool.not_eq_true] at neither
  obtain ⟨run, rest, rfl, length, kind, -, -⟩ := exposed
  rw [← length, List.drop_left] at neither
  exact nothing ⟨run, rest, rfl, length, fun c member => vinIgnoreCase_of_letter (kind c member),
    neither.1, neither.2⟩

theorem Masked.exposed_iff {prev : Option Char} {text output : List Char}
    (masked : Masked table prev text output) :
    Somewhere (Exposed table) prev output ↔ Somewhere (ExposedBesideWord table) prev text := by
  have letter : ∀ c, vinLetter c = true → vinIgnoreCase c = true :=
    fun _ => vinIgnoreCase_of_letter
  induction masked with
  | done prev =>
      refine iff_of_false ?_ ?_
      · intro holds
        exact Delimited.ne_nil holds.of_nil rfl
      · intro holds
        exact Delimited.ne_nil holds.of_nil.1 rfl
  | @hit prev read output place member tail ih =>
      obtain ⟨length, kind, before, after⟩ := found_of_mem table member
      constructor
      · intro holds
        have rest := holds.rest_of (fun _ _ _ split =>
          maskRun_quiet table letter (letterOrDigitAt_not_free table) member tail split)
        rw [behind_maskRun length] at rest
        exact (ih.mp rest).of_rest
      · intro holds
        have rest := holds.rest_of ?_
        · refine Somewhere.of_rest ?_
          rw [behind_maskRun length]
          exact ih.mpr rest
        · intro inner c others split beside
          cases inner with
          | nil =>
              rw [List.nil_append] at split
              obtain ⟨-, word⟩ := beside
              rw [← split, ← length, List.drop_left, behind_nil, before, after] at word
              rcases word with word | word <;> cases word
          | cons d inner =>
              obtain ⟨last, inside, found⟩ := behind_of_ne_nil (List.cons_ne_nil d inner) prev
              obtain ⟨_, _, _, _, _, free, _⟩ := beside.1
              rw [found] at free
              refine letterOrDigitAt_not_free table last (kind last ?_) free
              rw [split]
              exact List.mem_append_left _ inside
  | @miss prev c rest output nothing tail ih =>
      constructor
      · intro holds
        cases holds with
        | later holds => exact .later (ih.mp holds)
        | here exposed =>
            have word := wordChar_of_vinIgnoreCase table (letter c exposed.test_head)
            have alike := (Masked.startsAs table tail word).2.cons c
            exact .here (exposedBesideWord_of_not_found table (exposed.transfer letter alike)
              (not_found_of_empty table nothing))
      · intro holds
        cases holds with
        | later holds => exact .later (ih.mpr holds)
        | here beside =>
            have word := wordChar_of_vinIgnoreCase table (letter c beside.1.test_head)
            exact .here (beside.1.transfer letter ((Masked.startsAs table tail word).1.cons c))

end Boundary

section Validation

def IsMask (value : List Char) : Prop :=
  ∃ tail, value = vinMaskPlaceholder ++ tail ∧ tail.length = 6 ∧ ∀ c ∈ tail, vinAlphabet c = true

variable (table : CharTable)

theorem maskedVinRe_fullMatch {value : List Char} :
    (maskedVinRe.fullMatch value).isSome = true ↔ IsMask value := by
  rw [Regex.fullMatch_isSome]
  unfold maskedVinRe
  simp only [Regex.mem_run_cat, Regex.mem_run_look, Regex.mem_run_exactly]
  constructor
  · rintro ⟨found, ⟨_, ⟨-, rfl⟩, _, ⟨stars, text, eleven, starred, -⟩, _,
      ⟨tail, rest, six, kind, -⟩, -, rfl⟩, ends⟩
    rw [ends, List.append_nil] at rest
    refine ⟨tail, ?_, six, kind⟩
    change value = _ at text
    rw [text, rest, vinMaskPlaceholder, ← eleven]
    refine congrArg (· ++ tail) (List.eq_replicate_of_mem ?_)
    exact fun c member => beq_iff_eq.mp (starred c member)
  · rintro ⟨tail, rfl, six, kind⟩
    refine ⟨⟨behind (some '*') tail, [], []⟩, ⟨_, ⟨rfl, rfl⟩, ⟨some '*', tail, []⟩,
      ⟨vinMaskPlaceholder, rfl, rfl, ?_, rfl, rfl⟩, ⟨behind (some '*') tail, [], []⟩,
      ⟨tail, (List.append_nil tail).symm, six, kind, rfl, rfl⟩, rfl, rfl⟩, rfl⟩
    intro c member
    exact beq_iff_eq.mpr (List.eq_of_mem_replicate member)

theorem rawVinFullmatchRe_alphabet {value : List Char}
    (raw : ((rawVinFullmatchRe table).fullMatch value).isSome = true) :
    ∀ c ∈ value, vinAlphabet c = true := by
  obtain ⟨found, member, ends⟩ := Regex.fullMatch_isSome.mp raw
  have word : ∀ c, vinAlphabet c = true → table.wordChar c = true := fun c kind =>
    wordChar_of_vinIgnoreCase table (vinIgnoreCase_of_letter (vinLetter_of_alphabet kind))
  obtain ⟨run, text, -, kind, -⟩ := (mem_run_seventeen table word).mp member
  rw [ends, List.append_nil] at text
  change value = run at text
  rwa [text]

theorem validateVinMasked_eq_ok {value vin : List Char} :
    validateVinMasked table value = .ok vin ↔ vin = value ∧ IsMask value := by
  unfold validateVinMasked
  rw [← maskedVinRe_fullMatch]
  split
  next raw =>
    refine iff_of_false (fun same => by cases same) ?_
    rintro ⟨-, masked⟩
    obtain ⟨tail, rfl, -⟩ := maskedVinRe_fullMatch.mp masked
    have star := rawVinFullmatchRe_alphabet table raw '*' (List.mem_append_left _ (by decide))
    exact absurd star (by decide)
  next =>
    split
    next nothing =>
      refine iff_of_false (fun same => by cases same) ?_
      rintro ⟨-, masked⟩
      rw [Option.isNone_iff_eq_none.mp nothing] at masked
      cases masked
    next something =>
      rw [Except.ok.injEq, eq_comm, ← Option.not_isNone, Bool.not_eq_true', iff_self_and]
      exact fun _ => Bool.eq_false_iff.mpr something

/-- A vehicle identification number in either case. -/
def WellFormedVin (vin : List Char) : Prop := vin.length = 17 ∧ ∀ c ∈ vin, vinLetter c = true

instance (vin : List Char) : Decidable (WellFormedVin vin) :=
  decidable_of_iff (vin.length = 17 ∧ vin.all vinLetter = true)
    (and_congr_right' List.all_eq_true)

theorem Masked.of_nil {prev : Option Char} {output : List Char}
    (masked : Masked table prev [] output) : output = [] :=
  Masked.unchanged table masked (fun holds => Delimited.ne_nil holds.of_nil rfl)

theorem Masked.of_vin {prev : Option Char} {vin output : List Char}
    (masked : Masked table prev vin output) (formed : WellFormedVin vin)
    (before : table.wordAt prev = false) : output = maskRun vin := by
  obtain ⟨length, kind⟩ := formed
  cases masked with
  | done => cases length
  | @hit _ read output place member tail =>
      have seventeen := (found_of_mem table member).1
      rw [List.length_append, seventeen] at length
      have empty : place.rest = [] := List.length_eq_zero_iff.mp (by omega)
      rw [empty] at tail
      rw [empty, List.append_nil, Masked.of_nil table tail, List.append_nil]
  | miss nothing _ =>
      refine absurd ⟨_, [], (List.append_nil _).symm, length, ?_, before, rfl⟩
        (not_found_of_empty table nothing)
      exact fun c member => vinIgnoreCase_of_letter (kind c member)

theorem maskVinInText_vin {vin : List Char} (formed : WellFormedVin vin) :
    maskVinInText table vin = vinMaskPlaceholder ++ vin.drop 11 := by
  rw [Masked.of_vin table (maskVinInText_masked table vin) formed rfl, maskRun_eq formed.1]

end Validation

section Session

variable {Event Sample : Type} (table : CharTable)

namespace VehicleSession

theorem setVinMasked_eq_ok {session changed : VehicleSession Event Sample} {value : List Char} :
    session.setVinMasked table (some value) = .ok changed ↔
      IsMask value ∧ changed = { session with vin := some value } := by
  change (validateVinMasked table value).bind
    (fun vin => .ok { session with vin := some vin }) = _ ↔ _
  cases checked : validateVinMasked table value with
  | error error =>
      refine iff_of_false (fun same => by cases same) ?_
      rintro ⟨masked, -⟩
      have accepted := (validateVinMasked_eq_ok table).mpr ⟨rfl, masked⟩
      rw [checked] at accepted
      cases accepted
  | ok vin =>
      obtain ⟨rfl, masked⟩ := (validateVinMasked_eq_ok table).mp checked
      change Except.ok _ = Except.ok _ ↔ _
      rw [Except.ok.injEq, eq_comm]
      exact (and_iff_right masked).symm

/-- Neither the constructor, under either keyword, nor the setter takes the value. -/
def Refuses (Event Sample : Type) (value : List Char) : Prop :=
  (∀ arguments : Arguments Event Sample,
    arguments.vinMasked = some value ∨ arguments.vin = some value →
      ∃ error, new table arguments = .error error) ∧
  ∀ session : VehicleSession Event Sample,
    ∃ error, session.setVinMasked table (some value) = .error error

def Takes (Event Sample : Type) (value : List Char) : Prop :=
  (∀ arguments : Arguments Event Sample, arguments.vinMasked = some value →
    arguments.vin = none ∨ arguments.vin = some value →
    pyStrip arguments.sessionId ≠ [] → 0 ≤ arguments.startedAtNs →
      ∃ session, new table arguments = .ok session ∧ session.vin = some value) ∧
  ∀ session : VehicleSession Event Sample,
    session.setVinMasked table (some value) = .ok { session with vin := some value }

theorem new_eq {arguments : Arguments Event Sample} {value : List Char}
    (keywords : arguments.vinMasked = some value ∧
        (arguments.vin = none ∨ arguments.vin = some value) ∨
      arguments.vinMasked = none ∧ arguments.vin = some value) :
    new table arguments =
      (arguments.session.setVinMasked table (some value)).bind (postInit table) := by
  unfold new
  rcases keywords with ⟨masked, vin | vin⟩ | ⟨masked, vin⟩
  · rw [vin, masked]
    rfl
  · rw [vin, masked]
    simp only [ne_eq, not_true_eq_false, and_false, if_false]
    rfl
  · rw [vin, masked]
    simp only [ne_eq, not_true_eq_false, false_and, if_false]
    rfl

theorem new_disagree {arguments : Arguments Event Sample} {value other : List Char}
    (masked : arguments.vinMasked = some value) (vin : arguments.vin = some other)
    (differ : value ≠ other) : new table arguments = .error .disagree := by
  unfold new
  rw [vin, masked]
  have both : some value ≠ none ∧ some value ≠ some other :=
    ⟨Option.some_ne_none value, fun same => differ (Option.some.inj same)⟩
  simp only [if_pos both]
  rfl

theorem postInit_masked {session : VehicleSession Event Sample} {value : List Char}
    (masked : IsMask value)
    (named : pyStrip session.sessionId ≠ []) (started : 0 ≤ session.startedAtNs) :
    postInit table { session with vin := some value } =
      .ok { session with vin := some value } := by
  have present : session.sessionId ≠ [] := by
    intro empty
    rw [empty] at named
    exact named rfl
  unfold postInit
  simp only [present, named, or_self, if_false, if_neg (Int.not_lt.mpr started),
    (validateVinMasked_eq_ok table).mpr ⟨rfl, masked⟩]
  rfl

theorem refuses_of_not_masked {value : List Char} (plain : ¬ IsMask value) :
    Refuses table Event Sample value := by
  have setter : ∀ session : VehicleSession Event Sample,
      ∃ error, session.setVinMasked table (some value) = .error error := by
    intro session
    cases ends : session.setVinMasked table (some value) with
    | error error => exact ⟨error, rfl⟩
    | ok changed => exact absurd ((setVinMasked_eq_ok table).mp ends).1 plain
  refine ⟨?_, setter⟩
  intro arguments given
  obtain ⟨error, ends⟩ := setter arguments.session
  have alone (keywords : arguments.vinMasked = some value ∧
        (arguments.vin = none ∨ arguments.vin = some value) ∨
      arguments.vinMasked = none ∧ arguments.vin = some value) :
      new table arguments = .error error := by
    rw [new_eq table keywords, ends]
    rfl
  rcases given with masked | vin
  · cases vin : arguments.vin with
    | none => exact ⟨error, alone (Or.inl ⟨masked, Or.inl vin⟩)⟩
    | some other =>
        by_cases same : value = other
        · subst same
          exact ⟨error, alone (Or.inl ⟨masked, Or.inr vin⟩)⟩
        · exact ⟨.disagree, new_disagree table masked vin same⟩
  · cases masked : arguments.vinMasked with
    | none => exact ⟨error, alone (Or.inr ⟨masked, vin⟩)⟩
    | some other =>
        by_cases same : other = value
        · subst same
          exact ⟨error, alone (Or.inl ⟨masked, Or.inr vin⟩)⟩
        · exact ⟨.disagree, new_disagree table masked vin same⟩

theorem takes_mask_iff {vin : List Char} (formed : WellFormedVin vin) :
    Takes table Event Sample (maskVinInText table vin) ↔
      ∀ c ∈ vin.drop 11, vinLowercase c = false := by
  rw [maskVinInText_vin table formed]
  have six : (vin.drop 11).length = 6 := by rw [List.length_drop, formed.1]
  constructor
  · rintro ⟨-, setter⟩ c member
    have empty : VehicleSession Event Sample :=
      { sessionId := [], startedAtNs := 0, domain := .passenger }
    obtain ⟨⟨tail, same, -, kind⟩, -⟩ := (setVinMasked_eq_ok table).mp (setter empty)
    rw [List.append_cancel_left same] at member
    exact not_lowercase_of_alphabet (kind c member)
  · intro capitals
    have kind : ∀ c ∈ vin.drop 11, vinAlphabet c = true := by
      intro c member
      have letter := formed.2 c (List.mem_of_mem_drop member)
      unfold vinLetter at letter
      rwa [capitals c member, Bool.or_false] at letter
    have setter : ∀ session : VehicleSession Event Sample,
        session.setVinMasked table (some (vinMaskPlaceholder ++ vin.drop 11)) =
          .ok { session with vin := some (vinMaskPlaceholder ++ vin.drop 11) } :=
      fun session => (setVinMasked_eq_ok table).mpr ⟨⟨_, rfl, six, kind⟩, rfl⟩
    refine ⟨?_, setter⟩
    intro arguments masked keyword named started
    refine ⟨{ arguments.session with vin := some (vinMaskPlaceholder ++ vin.drop 11) }, ?_, rfl⟩
    rw [new_eq table (Or.inl ⟨masked, keyword⟩), setter]
    exact postInit_masked table ⟨_, rfl, six, kind⟩ named started

end VehicleSession

end Session

/-- Masking is idempotent and leaves no VIN exposed exactly when no VIN of the text is exposed
beside a character of words; and sessions refuse a VIN and take its mask exactly when none of its
last six characters is a lowercase letter. -/
theorem vin_boundary_iff {Event Sample : Type} (table : CharTable) :
    (∀ text,
      (maskVinInText table (maskVinInText table text) = maskVinInText table text ∧
        ¬ Somewhere (Exposed table) none (maskVinInText table text)) ↔
      ¬ Somewhere (ExposedBesideWord table) none text) ∧
    ∀ vin, WellFormedVin vin →
      ((VehicleSession.Refuses table Event Sample vin ∧
        VehicleSession.Takes table Event Sample (maskVinInText table vin)) ↔
      ∀ c ∈ vin.drop 11, vinLowercase c = false) := by
  constructor
  · intro text
    rw [and_iff_right (maskVinInText_idempotent table text),
      Masked.exposed_iff table (maskVinInText_masked table text)]
  · intro vin formed
    rw [VehicleSession.takes_mask_iff table formed]
    refine and_iff_right (VehicleSession.refuses_of_not_masked table ?_)
    rintro ⟨tail, rfl, -⟩
    have star := formed.2 '*' (List.mem_append_left _ (by decide))
    exact absurd star (by decide)

theorem vin_boundary_capitals :
    VehicleSession.Refuses plainTable Unit Unit "1HGCM82633A004352".toList ∧
      VehicleSession.Takes plainTable Unit Unit
        (maskVinInText plainTable "1HGCM82633A004352".toList) :=
  ((vin_boundary_iff plainTable).2 "1HGCM82633A004352".toList (by decide +kernel)).mpr
    (List.forall_iff_forall_mem.mp (by decide +kernel))

/-- An underscore in front of a VIN keeps the masker from finding it; the mask of a VIN in lower
case is no mask to a session. -/
theorem underscore_keeps_exposed :
    (¬ ∀ text, ¬ Somewhere (Exposed plainTable) none (maskVinInText plainTable text)) ∧
      ¬ ∀ vin, WellFormedVin vin →
        VehicleSession.Takes plainTable Unit Unit (maskVinInText plainTable vin) := by
  constructor
  · intro hidden
    refine hidden "_1HGCM82633A004352".toList ?_
    have kept : maskVinInText plainTable "_1HGCM82633A004352".toList =
        '_' :: "1HGCM82633A004352".toList := by decide +kernel
    have formed : WellFormedVin "1HGCM82633A004352".toList := by decide +kernel
    rw [kept]
    exact .later (.here ⟨_, [], (List.append_nil _).symm, formed.1, formed.2, rfl, rfl⟩)
  · intro taken
    have setter := (taken "1hgcm82633a00435x".toList (by decide +kernel)).2
      { sessionId := [], startedAtNs := 0, domain := .passenger }
    have refused : validateVinMasked plainTable
        (maskVinInText plainTable "1hgcm82633a00435x".toList) = .error .notMasked := by
      decide +kernel
    have accepted := (validateVinMasked_eq_ok plainTable).mpr
      ⟨rfl, ((VehicleSession.setVinMasked_eq_ok plainTable).mp setter).1⟩
    rw [refused] at accepted
    cases accepted

end Ucanlab
