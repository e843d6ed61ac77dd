import Mathlib.Data.List.Basic

/-!
Patterns over text, read by trying the alternatives in order: greedy repetition, looks at both
neighbours of a place, and groups that keep what they matched.
-/

namespace Ucanlab

def behind (prev : Option Char) (read : List Char) : Option Char := read.getLast?.or prev

@[simp] theorem behind_nil (prev : Option Char) : behind prev [] = prev := rfl

@[simp] theorem behind_cons (prev : Option Char) (c : Char) (read : List Char) :
    behind prev (c :: read) = behind (some c) read := by
  cases read with
  | nil => rfl
  | cons d rest =>
      unfold behind
      rw [List.getLast?_cons_cons, List.getLast?_eq_some_getLast (List.cons_ne_nil d rest)]
      rfl

theorem behind_append (prev : Option Char) (first second : List Char) :
    behind prev (first ++ second) = behind (behind prev first) second := by
  induction first generalizing prev with
  | nil => rfl
  | cons c rest ih => simp only [List.cons_append, behind_cons, ih]

theorem behind_of_ne_nil {read : List Char} (some : read ≠ []) (prev : Option Char) :
    ∃ c ∈ read, behind prev read = Option.some c := by
  unfold behind
  rw [List.getLast?_eq_some_getLast some]
  exact ⟨read.getLast some, List.getLast_mem some, rfl⟩

theorem behind_congr {read : List Char} (some : read ≠ []) (prev other : Option Char) :
    behind prev read = behind other read := by
  unfold behind
  rw [List.getLast?_eq_some_getLast some]
  rfl

inductive Somewhere (P : Option Char → List Char → Prop) : Option Char → List Char → Prop
  | here {prev : Option Char} {text : List Char} (holds : P prev text) : Somewhere P prev text
  | later {prev : Option Char} {c : Char} {rest : List Char} (holds : Somewhere P (some c) rest) :
      Somewhere P prev (c :: rest)

namespace Somewhere

variable {P Q : Option Char → List Char → Prop}

theorem of_nil {prev : Option Char} (holds : Somewhere P prev []) : P prev [] := by
  cases holds with
  | here now => exact now

theorem of_rest {prev : Option Char} {read rest : List Char}
    (holds : Somewhere P (behind prev read) rest) : Somewhere P prev (read ++ rest) := by
  induction read generalizing prev with
  | nil => exact holds
  | cons c more ih =>
      rw [behind_cons] at holds
      exact .later (ih holds)

theorem rest_of {prev : Option Char} {read rest : List Char}
    (nowhere : ∀ before c after, read = before ++ c :: after →
      ¬ P (behind prev before) (c :: after ++ rest))
    (holds : Somewhere P prev (read ++ rest)) : Somewhere P (behind prev read) rest := by
  induction read generalizing prev with
  | nil => exact holds
  | cons c more ih =>
      rw [behind_cons]
      cases holds with
      | here now => exact absurd now (nowhere [] c more rfl)
      | later holds =>
          refine ih ?_ holds
          intro before d after split
          have inside := nowhere (c :: before) d after (by rw [split, List.cons_append])
          rwa [behind_cons] at inside

end Somewhere

inductive Regex where
  | empty
  | char (test : Char → Bool)
  | look (test : Option Char → List Char → Bool)
  | cat (first second : Regex)
  | alt (first second : Regex)
  | times (least : Nat) (most : Option Nat) (body : Regex)
  | group (name : String) (body : Regex)

namespace Regex

def star (test : Char → Bool) : Regex := .times 0 none (.char test)

def plus (test : Char → Bool) : Regex := .times 1 none (.char test)

def optional (body : Regex) : Regex := .times 0 (some 1) body

def sequence (parts : List Regex) : Regex := parts.foldr .cat .empty

def literal (text : List Char) : Regex := sequence (text.map (fun c => .char (fun d => d == c)))

def startOfText : Regex := .look (fun prev _ => prev.isNone)

structure Place where
  prev : Option Char
  rest : List Char
  groups : List (String × List Char)

/-- As many repetitions as there can be, then one less at a time. -/
def upTo (step : Place → List Place) : Nat → Place → List Place
  | 0, place => [place]
  | more + 1, place => (step place).flatMap (upTo step more) ++ [place]

def iterate (step : Place → List Place) : Nat → Nat → Place → List Place
  | 0, more, place => upTo step more place
  | least + 1, more, place => (step place).flatMap (iterate step least more)

/-- The places where a match from a place can end, the preferred one first. A repetition without
an upper bound is of a pattern that consumes something. -/
def run : Regex → Place → List Place
  | empty, place => [place]
  | char test, place =>
      match place.rest with
      | [] => []
      | c :: rest => if test c then [{ place with prev := some c, rest := rest }] else []
  | look test, place => if test place.prev place.rest then [place] else []
  | cat first second, place => (run first place).flatMap (run second)
  | alt first second, place => run first place ++ run second place
  | times least most body, place =>
      iterate (run body) least (most.getD place.rest.length - least) place
  | group name body, place =>
      (run body place).map (fun found =>
        { found with
          groups := (name, place.rest.take (place.rest.length - found.rest.length)) ::
            found.groups })

/-- `re.match` at a place of a text. -/
def matchAt (pattern : Regex) (prev : Option Char) (text : List Char) : Option Place :=
  (pattern.run ⟨prev, text, []⟩).head?

/-- `re.fullmatch`. -/
def fullMatch (pattern : Regex) (text : List Char) : Option Place :=
  (pattern.run ⟨none, text, []⟩).find? (fun place => place.rest.isEmpty)

def Place.group? (place : Place) (name : String) : Option (List Char) :=
  (place.groups.find? (fun kept => decide (kept.1 = name))).map Prod.snd

/-- The text from a place on, whose first characters may belong to the last match. -/
def subFrom (pattern : Regex) (replacement : List Char → List Char) :
    Option Char → Nat → List Char → List Char
  | _, _, [] => []
  | _, covered + 1, c :: rest => subFrom pattern replacement (some c) covered rest
  | prev, 0, c :: rest =>
      match pattern.matchAt prev (c :: rest) with
      | none => c :: subFrom pattern replacement (some c) 0 rest
      | some place =>
          match (c :: rest).length - place.rest.length with
          | 0 => c :: subFrom pattern replacement (some c) 0 rest
          | more + 1 =>
              replacement ((c :: rest).take (more + 1)) ++
                subFrom pattern replacement (some c) more rest

/-- `re.sub` with a pattern whose matches are never empty. -/
def sub (pattern : Regex) (replacement : List Char → List Char) (text : List Char) : List Char :=
  subFrom pattern replacement none 0 text

section Runs

theorem mem_run_cat {first second : Regex} {place found : Place} :
    found ∈ (cat first second).run place ↔
      ∃ middle ∈ first.run place, found ∈ second.run middle :=
  List.mem_flatMap

theorem mem_run_look {test : Option Char → List Char → Bool} {place found : Place} :
    found ∈ (look test).run place ↔ test place.prev place.rest = true ∧ found = place := by
  unfold run
  by_cases holds : test place.prev place.rest = true
  · rw [if_pos holds, List.mem_singleton]
    exact (and_iff_right holds).symm
  · rw [if_neg holds]
    exact iff_of_false List.not_mem_nil (fun both => holds both.1)

theorem mem_iterate_char {test : Char → Bool} {count : Nat} {place found : Place} :
    found ∈ iterate (char test).run count 0 place ↔
      ∃ read, place.rest = read ++ found.rest ∧ read.length = count ∧
        (∀ c ∈ read, test c = true) ∧ found.prev = behind place.prev read ∧
        found.groups = place.groups := by
  induction count generalizing place with
  | zero =>
      unfold iterate upTo
      rw [List.mem_singleton]
      constructor
      · rintro rfl
        exact ⟨[], rfl, rfl, fun _ member => absurd member List.not_mem_nil, rfl, rfl⟩
      · rintro ⟨read, text, none, -, prev, groups⟩
        cases List.length_eq_zero_iff.mp none
        cases place
        cases found
        cases text
        cases prev
        cases groups
        rfl
  | succ count ih =>
      unfold iterate
      rw [List.mem_flatMap]
      constructor
      · rintro ⟨middle, one, more⟩
        obtain ⟨read, text, length, kind, prev, groups⟩ := ih.mp more
        unfold run at one
        cases start : place.rest with
        | nil =>
            rw [start] at one
            exact absurd one List.not_mem_nil
        | cons c rest =>
            rw [start] at one
            simp only at one
            by_cases fits : test c = true
            · rw [if_pos fits, List.mem_singleton] at one
              subst one
              refine ⟨c :: read, ?_, ?_, ?_, ?_, groups⟩
              · rw [List.cons_append, ← text]
              · rw [List.length_cons, length]
              · intro d member
                rcases List.mem_cons.mp member with rfl | later
                · exact fits
                · exact kind d later
              · rw [prev, behind_cons]
            · rw [if_neg fits] at one
              exact absurd one List.not_mem_nil
      · rintro ⟨read, text, length, kind, prev, groups⟩
        cases read with
        | nil => cases length
        | cons c rest =>
            rw [List.cons_append] at text
            refine ⟨{ place with prev := some c, rest := rest ++ found.rest }, ?_, ?_⟩
            · unfold run
              rw [text]
              simp only [kind c List.mem_cons_self, if_true, List.mem_singleton]
            · refine ih.mpr ⟨rest, rfl, Nat.succ.inj length, ?_, ?_, groups⟩
              · exact fun d member => kind d (List.mem_cons_of_mem c member)
              · rw [prev, behind_cons]

theorem mem_run_exactly {test : Char → Bool} {count : Nat} {place found : Place} :
    found ∈ (times count (some count) (char test)).run place ↔
      ∃ read, place.rest = read ++ found.rest ∧ read.length = count ∧
        (∀ c ∈ read, test c = true) ∧ found.prev = behind place.prev read ∧
        found.groups = place.groups := by
  unfold run
  rw [Option.getD_some, Nat.sub_self]
  exact mem_iterate_char

theorem fullMatch_isSome {pattern : Regex} {text : List Char} :
    (pattern.fullMatch text).isSome = true ↔
      ∃ found ∈ pattern.run ⟨none, text, []⟩, found.rest = [] := by
  unfold fullMatch
  rw [List.find?_isSome]
  simp only [List.isEmpty_iff]

end Runs

section Greedy

variable {first second body : Regex} {place middle found : Place}

theorem head?_cat (one : (first.run place).head? = some middle)
    (two : (second.run middle).head? = some found) :
    ((cat first second).run place).head? = some found := by
  change ((first.run place).flatMap second.run).head? = some found
  cases places : first.run place with
  | nil =>
      rw [places] at one
      cases one
  | cons preferred others =>
      rw [places, List.head?_cons, Option.some.injEq] at one
      rw [List.flatMap_cons, List.head?_append, one, two, Option.some_or]

theorem head?_look {test : Option Char → List Char → Bool} (holds : test place.prev place.rest = true) :
    ((look test).run place).head? = some place := by
  unfold run
  rw [if_pos holds, List.head?_cons]

theorem head?_group {name : String} (within : (body.run place).head? = some found) :
    ((group name body).run place).head? = some { found with
      groups := (name, place.rest.take (place.rest.length - found.rest.length)) ::
        found.groups } := by
  unfold run
  rw [List.head?_map, within, Option.map_some]

variable {test : Char → Bool} {read rest : List Char}

theorem head?_upTo {more : Nat} {prev : Option Char} {groups : List (String × List Char)}
    (enough : read.length ≤ more) (kind : ∀ c ∈ read, test c = true)
    (stop : ∀ c ∈ rest.head?, test c = false) :
    (upTo (char test).run more ⟨prev, read ++ rest, groups⟩).head? =
      some ⟨behind prev read, rest, groups⟩ := by
  induction read generalizing more prev with
  | nil =>
      cases more with
      | zero => rfl
      | succ more =>
          cases rest with
          | nil => rfl
          | cons c later =>
              have other : test c = false := stop c rfl
              unfold upTo run
              rw [List.nil_append]
              simp only [other, Bool.false_eq_true, if_false, List.flatMap_nil, List.nil_append,
                List.head?_cons, behind_nil]
  | cons c tail ih =>
      cases more with
      | zero => exact absurd enough (Nat.not_succ_le_zero _)
      | succ more =>
          have fits : test c = true := kind c List.mem_cons_self
          have later : (upTo (char test).run more ⟨some c, tail ++ rest, groups⟩).head? =
              some ⟨behind (some c) tail, rest, groups⟩ :=
            ih (Nat.le_of_succ_le_succ enough)
              (fun d member => kind d (List.mem_cons_of_mem c member))
          unfold upTo run
          rw [List.cons_append]
          simp only [fits, if_true, List.flatMap_cons, List.flatMap_nil, List.append_nil,
            List.head?_append, later, Option.some_or, behind_cons]

theorem head?_star {prev : Option Char} {groups : List (String × List Char)}
    (kind : ∀ c ∈ read, test c = true) (stop : ∀ c ∈ rest.head?, test c = false) :
    ((star test).run ⟨prev, read ++ rest, groups⟩).head? =
      some ⟨behind prev read, rest, groups⟩ := by
  refine head?_upTo ?_ kind stop
  change read.length ≤ (read ++ rest).length - 0
  rw [List.length_append]
  omega

theorem head?_plus {prev : Option Char} {groups : List (String × List Char)} (filled : read ≠ [])
    (kind : ∀ c ∈ read, test c = true) (stop : ∀ c ∈ rest.head?, test c = false) :
    ((plus test).run ⟨prev, read ++ rest, groups⟩).head? =
      some ⟨behind prev read, rest, groups⟩ := by
  cases read with
  | nil => exact absurd rfl filled
  | cons c tail =>
      have fits : test c = true := kind c List.mem_cons_self
      have enough : tail.length ≤ (c :: tail ++ rest).length - 1 := by
        rw [List.length_append, List.length_cons]
        omega
      have later : (upTo (char test).run ((c :: tail ++ rest).length - 1)
          ⟨some c, tail ++ rest, groups⟩).head? = some ⟨behind (some c) tail, rest, groups⟩ :=
        head?_upTo enough (fun d member => kind d (List.mem_cons_of_mem c member)) stop
      change ((run (char test) ⟨prev, c :: tail ++ rest, groups⟩).flatMap
        (upTo (char test).run ((c :: tail ++ rest).length - 1))).head? = _
      unfold run
      rw [List.cons_append]
      simp only [fits, if_true, List.flatMap_cons, List.flatMap_nil, List.append_nil, behind_cons]
      exact later

theorem head?_group_plus {name : String} {prev : Option Char}
    {groups : List (String × List Char)} (filled : read ≠ [])
    (kind : ∀ c ∈ read, test c = true) (stop : ∀ c ∈ rest.head?, test c = false) :
    ((group name (plus test)).run ⟨prev, read ++ rest, groups⟩).head? =
      some ⟨behind prev read, rest, (name, read) :: groups⟩ := by
  rw [head?_group (head?_plus filled kind stop), List.length_append, Nat.add_sub_cancel,
    List.take_left]

end Greedy

section Replacing

def Reached (place found : Place) : Prop :=
  ∃ read, place.rest = read ++ found.rest ∧ found.prev = behind place.prev read

theorem Reached.refl (place : Place) : Reached place place := ⟨[], rfl, rfl⟩

theorem Reached.trans {place middle found : Place} (first : Reached place middle)
    (second : Reached middle found) : Reached place found := by
  obtain ⟨read, text, prev⟩ := first
  obtain ⟨more, textMore, prevMore⟩ := second
  refine ⟨read ++ more, ?_, ?_⟩
  · rw [text, textMore, List.append_assoc]
  · rw [prevMore, prev, behind_append]

section Repetition

variable {step : Place → List Place}
  (reads : ∀ place, ∀ found ∈ step place, Reached place found)

include reads

theorem upTo_reached (more : Nat) (place : Place) :
    ∀ found ∈ upTo step more place, Reached place found := by
  induction more generalizing place with
  | zero =>
      intro found member
      cases List.mem_singleton.mp member
      exact .refl place
  | succ more ih =>
      intro found member
      rcases List.mem_append.mp member with member | member
      · obtain ⟨middle, first, second⟩ := List.mem_flatMap.mp member
        exact (reads place middle first).trans (ih middle found second)
      · cases List.mem_singleton.mp member
        exact .refl place

theorem iterate_reached (least more : Nat) (place : Place) :
    ∀ found ∈ iterate step least more place, Reached place found := by
  induction least generalizing place with
  | zero => exact upTo_reached reads more place
  | succ least ih =>
      intro found member
      obtain ⟨middle, first, second⟩ := List.mem_flatMap.mp member
      exact (reads place middle first).trans (ih middle found second)

end Repetition

/-- Matching only moves forward. -/
theorem run_reached (pattern : Regex) (place : Place) :
    ∀ found ∈ pattern.run place, Reached place found := by
  induction pattern generalizing place with
  | empty =>
      intro found member
      cases List.mem_singleton.mp member
      exact .refl place
  | char test =>
      intro found member
      unfold run at member
      cases start : place.rest with
      | nil =>
          rw [start] at member
          exact absurd member List.not_mem_nil
      | cons c rest =>
          rw [start] at member
          simp only [List.mem_ite_nil_right, List.mem_singleton] at member
          obtain ⟨-, rfl⟩ := member
          exact ⟨[c], start, rfl⟩
  | look test =>
      intro found member
      cases (mem_run_look.mp member).2
      exact .refl place
  | cat first second ihFirst ihSecond =>
      intro found member
      obtain ⟨middle, one, two⟩ := mem_run_cat.mp member
      exact (ihFirst place middle one).trans (ihSecond middle found two)
  | alt first second ihFirst ihSecond =>
      intro found member
      rcases List.mem_append.mp member with member | member
      · exact ihFirst place found member
      · exact ihSecond place found member
  | times least most body ih => exact iterate_reached ih _ _ place
  | group name body ih =>
      intro found member
      obtain ⟨inner, within, rfl⟩ := List.mem_map.mp member
      exact ih place inner within

def Consuming (pattern : Regex) : Prop :=
  ∀ place, ∀ found ∈ pattern.run place, found.rest.length < place.rest.length

inductive Replaced (pattern : Regex) (replacement : List Char → List Char) :
    Option Char → List Char → List Char → Prop
  | done (prev : Option Char) : Replaced pattern replacement prev [] []
  | hit {prev : Option Char} {read output : List Char} {place : Place}
      (found : place ∈ pattern.run ⟨prev, read ++ place.rest, []⟩)
      (tail : Replaced pattern replacement (behind prev read) place.rest output) :
      Replaced pattern replacement prev (read ++ place.rest) (replacement read ++ output)
  | miss {prev : Option Char} {c : Char} {rest output : List Char}
      (nothing : pattern.run ⟨prev, c :: rest, []⟩ = [])
      (tail : Replaced pattern replacement (some c) rest output) :
      Replaced pattern replacement prev (c :: rest) (c :: output)

variable {pattern : Regex} {replacement : List Char → List Char}

theorem subFrom_covered (prev : Option Char) (read rest : List Char) :
    subFrom pattern replacement prev read.length (read ++ rest) =
      subFrom pattern replacement (behind prev read) 0 rest := by
  induction read generalizing prev with
  | nil => rfl
  | cons c more ih =>
      rw [behind_cons]
      exact ih (some c)

theorem replaced_subFrom (consuming : pattern.Consuming) (prev : Option Char)
    (text : List Char) :
    Replaced pattern replacement prev text (subFrom pattern replacement prev 0 text) := by
  cases text with
  | nil => exact .done prev
  | cons c rest =>
      unfold subFrom matchAt
      cases found : pattern.run ⟨prev, c :: rest, []⟩ with
      | nil => exact .miss found (replaced_subFrom consuming (some c) rest)
      | cons place others =>
          have member : place ∈ pattern.run ⟨prev, c :: rest, []⟩ := by
            rw [found]
            exact List.mem_cons_self
          obtain ⟨read, text, -⟩ := run_reached pattern _ place member
          have shorter : place.rest.length < (c :: rest).length := consuming _ place member
          change c :: rest = read ++ place.rest at text
          cases read with
          | nil =>
              rw [text] at shorter
              exact absurd shorter (Nat.lt_irrefl _)
          | cons d more =>
              rw [List.cons_append] at text
              obtain ⟨rfl, rfl⟩ := List.cons.inj text
              have covered : (c :: (more ++ place.rest)).length - place.rest.length =
                  more.length + 1 := by
                rw [List.length_cons, List.length_append]
                omega
              have matched : (c :: (more ++ place.rest)).take (more.length + 1) = c :: more := by
                rw [List.take_succ_cons, List.take_left]
              rw [List.head?_cons]
              simp only [covered, matched]
              rw [subFrom_covered, ← behind_cons prev]
              rw [← List.cons_append] at member ⊢
              exact .hit member (replaced_subFrom consuming _ place.rest)
termination_by text.length

end Replacing

end Regex

end Ucanlab
