import Mathlib.Algebra.Order.Field.Basic
import Mathlib.Data.List.Perm.Subperm
import Mathlib.Tactic.Linarith
import Mathlib.Tactic.Ring
import Ucanlab.Lib.EventRun

/-!
Meters that hand out tokens by the clock and take them back. What a meter may hand out is bounded by
a level that each token lowers and each returned one raises, and that time raises at a rate.
-/

universe u v w

namespace TokenBucket

structure Meter (Time : Type u) (State : Type v) where
  take : State → Time → Nat → State × Bool
  give : State → Nat → State

inductive Action (Token : Type w) where
  | take (tokens : List Token)
  | give (tokens : List Token)

structure Event (Time : Type u) (Token : Type w) where
  time : Time
  action : Action Token

structure Books (Time : Type u) (State : Type v) (Token : Type w) where
  state : State
  now : Time
  taken : List (Token × Time) := []
  given : List (Token × Time) := []

def names {Time : Type u} {Token : Type w} (entries : List (Token × Time)) : List Token :=
  entries.map Prod.fst

def stamped {Time : Type u} {Token : Type w} (time : Time) (tokens : List Token) :
    List (Token × Time) :=
  tokens.map (fun token => (token, time))

section Step

variable {Time : Type u} {State : Type v} {Token : Type w} [LinearOrder Time] [DecidableEq Token]

/-- The clock does not go back, a token is new when it is taken, and one that is given back was
taken before and is not given back twice. -/
def step (meter : Meter Time State) (books : Books Time State Token) (event : Event Time Token) :
    Option (Books Time State Token) :=
  if books.now ≤ event.time then
    match event.action with
    | .take tokens =>
        if tokens.Nodup ∧ ∀ token ∈ tokens, token ∉ names books.taken then
          let answer := meter.take books.state event.time tokens.length
          some { books with
            state := answer.1
            now := event.time
            taken := if answer.2 then books.taken ++ stamped event.time tokens else books.taken }
        else none
    | .give tokens =>
        if tokens.Nodup ∧ ∀ token ∈ tokens, token ∈ names books.taken ∧ token ∉ names books.given then
          some { books with
            state := meter.give books.state tokens.length
            now := event.time
            given := books.given ++ stamped event.time tokens }
        else none
  else none

def inWindow (start finish time : Time) : Bool := decide (start ≤ time ∧ time ≤ finish)

def Books.unreturned (books : Books Time State Token) (start finish : Time) : Nat :=
  (books.taken.filter (fun entry =>
    inWindow start finish entry.2 && decide (entry.1 ∉ names books.given))).length

def Books.late (books : Books Time State Token) (start finish : Time) : Nat :=
  (books.given.filter (fun entry => inWindow start finish entry.2 &&
    books.taken.any (fun source => decide (source.1 = entry.1 ∧ source.2 < start)))).length

variable {meter : Meter Time State} {books next last : Books Time State Token}
  {event : Event Time Token} {events : List (Event Time Token)} {time start finish : Time}
  {tokens : List Token}

omit [LinearOrder Time] [DecidableEq Token] in
theorem mem_stamped {entry : Token × Time} :
    entry ∈ stamped time tokens ↔ entry.1 ∈ tokens ∧ entry.2 = time := by
  unfold stamped
  rw [List.mem_map]
  constructor
  · rintro ⟨token, member, rfl⟩
    exact ⟨member, rfl⟩
  · rintro ⟨member, rfl⟩
    exact ⟨entry.1, member, rfl⟩

omit [LinearOrder Time] [DecidableEq Token] in
theorem names_stamped : names (stamped time tokens) = tokens := by
  unfold names stamped
  rw [List.map_map]
  exact List.map_id _

omit [LinearOrder Time] [DecidableEq Token] in
theorem names_append (front back : List (Token × Time)) :
    names (front ++ back) = names front ++ names back := List.map_append

omit [LinearOrder Time] [DecidableEq Token] in
theorem stamped_length : (stamped time tokens).length = tokens.length := List.length_map _

theorem step_cases (stepped : step meter books event = some next) :
    books.now ≤ event.time ∧ next.now = event.time ∧
      ((∃ tokens, tokens.Nodup ∧ (∀ token ∈ tokens, token ∉ names books.taken) ∧
          next.state = (meter.take books.state event.time tokens.length).1 ∧
          next.given = books.given ∧
          next.taken = if (meter.take books.state event.time tokens.length).2 then
            books.taken ++ stamped event.time tokens else books.taken) ∨
        ∃ tokens, tokens.Nodup ∧
          (∀ token ∈ tokens, token ∈ names books.taken ∧ token ∉ names books.given) ∧
          next.state = meter.give books.state tokens.length ∧ next.taken = books.taken ∧
          next.given = books.given ++ stamped event.time tokens) := by
  unfold step at stepped
  split at stepped
  next order =>
    cases act : event.action with
    | take tokens =>
        rw [act] at stepped
        dsimp only at stepped
        split at stepped
        next fresh =>
          cases stepped
          exact ⟨order, rfl, Or.inl ⟨tokens, fresh.1, fresh.2, rfl, rfl, rfl⟩⟩
        next => cases stepped
    | give tokens =>
        rw [act] at stepped
        dsimp only at stepped
        split at stepped
        next owned =>
          cases stepped
          exact ⟨order, rfl, Or.inr ⟨tokens, owned.1, owned.2, rfl, rfl, rfl⟩⟩
        next => cases stepped
  next => cases stepped

structure Sound (books : Books Time State Token) : Prop where
  takenOnce : (names books.taken).Nodup
  givenOnce : (names books.given).Nodup
  takenPast : ∀ entry ∈ books.taken, entry.2 ≤ books.now
  sourced : ∀ entry ∈ books.given, ∃ source ∈ books.taken,
    source.1 = entry.1 ∧ source.2 ≤ entry.2

omit [DecidableEq Token] in
theorem Sound.of_empty (empty : books.taken = [] ∧ books.given = []) : Sound books where
  takenOnce := by
    rw [empty.1]
    exact List.nodup_nil
  givenOnce := by
    rw [empty.2]
    exact List.nodup_nil
  takenPast := by
    rw [empty.1]
    exact fun _ member => absurd member List.not_mem_nil
  sourced := by
    rw [empty.2]
    exact fun _ member => absurd member List.not_mem_nil

omit [LinearOrder Time] [DecidableEq Token] in
theorem nodup_names_append {entries : List (Token × Time)} (once : (names entries).Nodup)
    (distinct : tokens.Nodup) (fresh : ∀ token ∈ tokens, token ∉ names entries) :
    (names (entries ++ stamped time tokens)).Nodup := by
  rw [names_append, names_stamped]
  refine List.nodup_append.mpr ⟨once, distinct, ?_⟩
  rintro token old _ new rfl
  exact fresh token new old

theorem Sound.step (sound : Sound books) (stepped : TokenBucket.step meter books event = some next) :
    Sound next := by
  obtain ⟨order, now, ⟨tokens, distinct, fresh, -, given, taken⟩ |
    ⟨tokens, distinct, owned, -, taken, given⟩⟩ := step_cases stepped
  · have past : ∀ entry ∈ books.taken, entry.2 ≤ next.now := fun entry member =>
      (sound.takenPast entry member).trans (order.trans (le_of_eq now.symm))
    split at taken
    · refine ⟨?_, ?_, ?_, ?_⟩
      · rw [taken]
        exact nodup_names_append sound.takenOnce distinct fresh
      · rw [given]
        exact sound.givenOnce
      · intro entry member
        rw [taken] at member
        rcases List.mem_append.mp member with old | new
        · exact past entry old
        · rw [(mem_stamped.mp new).2, now]
      · intro entry member
        rw [given] at member
        obtain ⟨source, isIn, same⟩ := sound.sourced entry member
        exact ⟨source, taken ▸ List.mem_append_left _ isIn, same⟩
    · exact ⟨taken ▸ sound.takenOnce, given ▸ sound.givenOnce, taken ▸ past,
        by rw [given, taken]; exact sound.sourced⟩
  · refine ⟨taken ▸ sound.takenOnce, ?_, ?_, ?_⟩
    · rw [given]
      exact nodup_names_append sound.givenOnce distinct (fun token member => (owned token member).2)
    · intro entry member
      rw [taken] at member
      rw [now]
      exact (sound.takenPast entry member).trans order
    · intro entry member
      rw [given] at member
      rw [taken]
      rcases List.mem_append.mp member with old | new
      · exact sound.sourced entry old
      · obtain ⟨isToken, time⟩ := mem_stamped.mp new
        obtain ⟨source, isIn, same⟩ := List.mem_map.mp (owned entry.1 isToken).1
        refine ⟨source, isIn, same, ?_⟩
        rw [time]
        exact (sound.takenPast source isIn).trans order

theorem Sound.run (sound : Sound books)
    (ran : EventRun.run (TokenBucket.step meter) books events = some last) :
    Sound last :=
  EventRun.run_invariant (fun _ _ _ holds stepped => holds.step stepped) sound ran

theorem run_ordered (ran : EventRun.run (step meter) books events = some last) :
    (events.map Event.time).Pairwise (· ≤ ·) ∧ ∀ event ∈ events, books.now ≤ event.time := by
  induction events generalizing books with
  | nil => exact ⟨List.Pairwise.nil, fun _ member => absurd member List.not_mem_nil⟩
  | cons event rest ih =>
      obtain ⟨next, stepped, later⟩ := EventRun.run_cons_some ran
      obtain ⟨order, now, -⟩ := step_cases stepped
      obtain ⟨sorted, after⟩ := ih later
      rw [now] at after
      refine ⟨List.pairwise_cons.mpr ⟨?_, sorted⟩, ?_⟩
      · intro time member
        obtain ⟨other, isIn, rfl⟩ := List.mem_map.mp member
        exact after other isIn
      · intro other member
        rcases List.mem_cons.mp member with rfl | isIn
        · exact order
        · exact order.trans (after other isIn)

end Step

section Level

variable {K : Type u} {State : Type v} {Token : Type w} [Field K] [LinearOrder K]
  [IsStrictOrderedRing K] [DecidableEq Token]

/-- The level of a meter at a time: between nothing and the capacity, raised by time at the rate and
by a returned token, lowered by one that is taken. -/
structure Leveled (meter : Meter K State) (level : State → K → K) (capacity rate : K) : Prop where
  nonneg : ∀ state time, 0 ≤ level state time
  capped : ∀ state time, level state time ≤ capacity
  elapse : ∀ state {time later}, time ≤ later →
    level state later ≤ level state time + rate * (later - time)
  take : ∀ state time count, level (meter.take state time count).1 time +
    (if (meter.take state time count).2 then (count : K) else 0) ≤ level state time
  give : ∀ state time count, level (meter.give state count) time ≤ level state time + count

variable {meter : Meter K State} {level : State → K → K} {capacity rate : K}
  {books next last : Books K State Token} {event : Event K Token} {events : List (Event K Token)}
  {start finish : K}

theorem Leveled.step (leveled : Leveled meter level capacity rate)
    (stepped : TokenBucket.step meter books event = some next) :
    ∃ taken given, next.taken = books.taken ++ taken ∧ next.given = books.given ++ given ∧
      (∀ entry ∈ taken ++ given, entry.2 = event.time) ∧
      level next.state event.time + taken.length ≤
        level books.state event.time + given.length := by
  obtain ⟨-, -, ⟨tokens, -, -, state, given, taken⟩ | ⟨tokens, -, -, state, taken, given⟩⟩ :=
    step_cases stepped
  · have paid := leveled.take books.state event.time tokens.length
    rw [← state] at paid
    split at taken
    next granted =>
      rw [if_pos granted] at paid
      refine ⟨stamped event.time tokens, [], taken, ?_, ?_, ?_⟩
      · rw [given, List.append_nil]
      · intro entry member
        rw [List.append_nil] at member
        exact (mem_stamped.mp member).2
      · rw [stamped_length, List.length_nil, Nat.cast_zero, add_zero]
        exact paid
    next refused =>
      rw [if_neg refused] at paid
      refine ⟨[], [], ?_, ?_, fun _ member => absurd member List.not_mem_nil, ?_⟩
      · rw [taken, List.append_nil]
      · rw [given, List.append_nil]
      · rw [List.length_nil, Nat.cast_zero, add_zero]
        linarith
  · have raised := leveled.give books.state event.time tokens.length
    rw [← state] at raised
    refine ⟨[], stamped event.time tokens, ?_, given, ?_, ?_⟩
    · rw [taken, List.append_nil]
    · exact fun entry member => (mem_stamped.mp member).2
    · rw [stamped_length, List.length_nil, Nat.cast_zero, add_zero]
      exact raised

theorem Leveled.run (leveled : Leveled meter level capacity rate)
    (ran : EventRun.run (TokenBucket.step meter) books events = some last) :
    ∃ taken given, last.taken = books.taken ++ taken ∧ last.given = books.given ++ given ∧
      (∀ entry ∈ taken ++ given, ∃ event ∈ events, entry.2 = event.time) ∧
      ∀ start finish, start ≤ finish →
        (∀ event ∈ events, start ≤ event.time ∧ event.time ≤ finish) →
          level last.state finish + taken.length ≤
            level books.state start + rate * (finish - start) + given.length := by
  induction events generalizing books with
  | nil =>
      cases ran
      refine ⟨[], [], (List.append_nil _).symm, (List.append_nil _).symm,
        fun _ member => absurd member List.not_mem_nil, ?_⟩
      intro start finish order _
      have risen := leveled.elapse last.state order
      rw [List.length_nil, Nat.cast_zero, add_zero, add_zero]
      exact risen
  | cons event rest ih =>
      obtain ⟨next, stepped, later⟩ := EventRun.run_cons_some ran
      obtain ⟨taken, given, takenStep, givenStep, timeStep, paid⟩ := leveled.step stepped
      obtain ⟨takenRest, givenRest, takenRun, givenRun, timeRun, paidRest⟩ := ih later
      refine ⟨taken ++ takenRest, given ++ givenRest, ?_, ?_, ?_, ?_⟩
      · rw [takenRun, takenStep, List.append_assoc]
      · rw [givenRun, givenStep, List.append_assoc]
      · intro entry member
        have sides : entry ∈ taken ++ given ∨ entry ∈ takenRest ++ givenRest := by
          simp only [List.mem_append] at member ⊢
          tauto
        rcases sides with first | second
        · exact ⟨event, List.mem_cons_self, timeStep entry first⟩
        · obtain ⟨other, isIn, same⟩ := timeRun entry second
          exact ⟨other, List.mem_cons_of_mem event isIn, same⟩
      · intro start finish order within
        obtain ⟨after, before⟩ := within event List.mem_cons_self
        have sorted := (run_ordered ran).1
        have rest_within : ∀ other ∈ rest, event.time ≤ other.time ∧ other.time ≤ finish := by
          intro other isIn
          exact ⟨List.rel_of_pairwise_cons sorted (List.mem_map_of_mem isIn),
            (within other (List.mem_cons_of_mem event isIn)).2⟩
        have risen := leveled.elapse books.state after
        have tail := paidRest event.time finish before rest_within
        rw [List.length_append, List.length_append, Nat.cast_add, Nat.cast_add]
        linarith

omit [Field K] [IsStrictOrderedRing K] [DecidableEq Token] in
theorem split_sorted (early : K → Prop) (down : ∀ time later, time ≤ later → early later → early time)
    (sorted : (events.map Event.time).Pairwise (· ≤ ·)) :
    ∃ front back, events = front ++ back ∧ (∀ event ∈ front, early event.time) ∧
      ∀ event ∈ back, ¬ early event.time := by
  induction events with
  | nil => exact ⟨[], [], rfl, fun _ member => absurd member List.not_mem_nil,
      fun _ member => absurd member List.not_mem_nil⟩
  | cons event rest ih =>
      obtain ⟨least, tail⟩ := List.pairwise_cons.mp sorted
      by_cases first : early event.time
      · obtain ⟨front, back, rfl, before, after⟩ := ih tail
        refine ⟨event :: front, back, rfl, ?_, after⟩
        exact List.forall_mem_cons.mpr ⟨first, before⟩
      · refine ⟨[], event :: rest, rfl, fun _ member => absurd member List.not_mem_nil, ?_⟩
        refine List.forall_mem_cons.mpr ⟨first, fun other isIn reached => first ?_⟩
        exact down _ _ (least other.time (List.mem_map_of_mem isIn)) reached

omit [Field K] [IsStrictOrderedRing K] [DecidableEq Token] in
theorem filter_window {front middle back : List (Token × K)}
    (before : ∀ entry ∈ front, entry.2 < start)
    (within : ∀ entry ∈ middle, start ≤ entry.2 ∧ entry.2 ≤ finish)
    (after : ∀ entry ∈ back, finish < entry.2) :
    (front ++ middle ++ back).filter (fun entry => inWindow start finish entry.2) = middle := by
  have kept : middle.filter (fun entry => inWindow start finish entry.2) = middle :=
    List.filter_eq_self.mpr (fun entry member => decide_eq_true (within entry member))
  have none : front.filter (fun entry => inWindow start finish entry.2) = [] :=
    List.filter_eq_nil_iff.mpr (fun entry member inside =>
      absurd (before entry member) (not_lt.mpr (of_decide_eq_true inside).1))
  have gone : back.filter (fun entry => inWindow start finish entry.2) = [] :=
    List.filter_eq_nil_iff.mpr (fun entry member inside =>
      absurd (after entry member) (not_lt.mpr (of_decide_eq_true inside).2))
  rw [List.filter_append, List.filter_append, none, kept, gone, List.nil_append, List.append_nil]

theorem Leveled.taken_window (leveled : Leveled meter level capacity rate)
    (ran : EventRun.run (TokenBucket.step meter) books events = some last)
    (empty : books.taken = [] ∧ books.given = []) (order : start ≤ finish) :
    ((last.taken.filter (fun entry => inWindow start finish entry.2)).length : K) ≤
      capacity + rate * (finish - start) +
        (last.given.filter (fun entry => inWindow start finish entry.2)).length := by
  obtain ⟨front, others, rfl, before, notBefore⟩ := split_sorted (fun time => time < start)
    (fun _ _ le lt => le.trans_lt lt) (run_ordered ran).1
  obtain ⟨opened, ranFront, ranOthers⟩ := EventRun.run_append_some ran
  obtain ⟨middle, back, rfl, notAfter, after⟩ := split_sorted (fun time => time ≤ finish)
    (fun _ _ le reached => le.trans reached) (run_ordered ranOthers).1
  obtain ⟨closed, ranMiddle, ranBack⟩ := EventRun.run_append_some ranOthers
  obtain ⟨takenFront, givenFront, takenOpened, givenOpened, timeFront, -⟩ := leveled.run ranFront
  obtain ⟨takenMiddle, givenMiddle, takenClosed, givenClosed, timeMiddle, paid⟩ :=
    leveled.run ranMiddle
  obtain ⟨takenBack, givenBack, takenLast, givenLast, timeBack, -⟩ := leveled.run ranBack
  have within : ∀ event ∈ middle, start ≤ event.time ∧ event.time ≤ finish := fun event member =>
    ⟨not_lt.mp (notBefore event (List.mem_append_left back member)), notAfter event member⟩
  have early : ∀ entry ∈ takenFront ++ givenFront, entry.2 < start := by
    intro entry member
    obtain ⟨event, isIn, same⟩ := timeFront entry member
    exact same ▸ before event isIn
  have inside : ∀ entry ∈ takenMiddle ++ givenMiddle, start ≤ entry.2 ∧ entry.2 ≤ finish := by
    intro entry member
    obtain ⟨event, isIn, same⟩ := timeMiddle entry member
    exact same ▸ within event isIn
  have late : ∀ entry ∈ takenBack ++ givenBack, finish < entry.2 := by
    intro entry member
    obtain ⟨event, isIn, same⟩ := timeBack entry member
    exact same ▸ not_le.mp (after event isIn)
  simp only [List.forall_mem_append] at early inside late
  have spent := paid start finish order within
  have floor := leveled.nonneg closed.state finish
  have ceiling := leveled.capped opened.state start
  rw [takenLast, takenClosed, takenOpened, empty.1, List.nil_append,
    filter_window early.1 inside.1 late.1, givenLast, givenClosed, givenOpened, empty.2,
    List.nil_append, filter_window early.2 inside.2 late.2]
  linarith

omit [Field K] [IsStrictOrderedRing K] in
theorem Sound.prompt_le (sound : Sound books) (start finish : K) :
    (books.given.filter (fun entry => inWindow start finish entry.2 &&
      !books.taken.any (fun source => decide (source.1 = entry.1 ∧ source.2 < start)))).length ≤
        (books.taken.filter (fun entry => inWindow start finish entry.2 &&
          !decide (entry.1 ∉ names books.given))).length := by
  have distinct : (names (books.given.filter (fun entry => inWindow start finish entry.2 &&
      !books.taken.any (fun source => decide (source.1 = entry.1 ∧ source.2 < start))))).Nodup :=
    sound.givenOnce.sublist (List.filter_sublist.map Prod.fst)
  rw [← List.length_map Prod.fst, ← List.length_map Prod.fst]
  refine (distinct.subperm ?_).length_le
  intro token member
  obtain ⟨entry, isIn, rfl⟩ := List.mem_map.mp member
  simp only [List.mem_filter, Bool.and_eq_true, Bool.not_eq_true', List.any_eq_false,
    decide_eq_true_eq, inWindow, not_and, not_lt] at isIn
  obtain ⟨isGiven, inside, notEarly⟩ := isIn
  obtain ⟨source, isTaken, same, order⟩ := sound.sourced entry isGiven
  refine List.mem_map.mpr ⟨source, List.mem_filter.mpr ⟨isTaken, ?_⟩, same⟩
  rw [Bool.and_eq_true, Bool.not_eq_true', decide_eq_false_iff_not, not_not, same]
  exact ⟨decide_eq_true ⟨notEarly source isTaken same, order.trans inside.2⟩,
    List.mem_map_of_mem isGiven⟩

theorem Leveled.unreturned_le (leveled : Leveled meter level capacity rate)
    (ran : EventRun.run (TokenBucket.step meter) books events = some last)
    (empty : books.taken = [] ∧ books.given = []) (order : start ≤ finish) :
    (last.unreturned start finish : K) ≤
      capacity + rate * (finish - start) + last.late start finish := by
  have paid := leveled.taken_window ran empty order
  have prompt := ((Sound.of_empty empty).run ran).prompt_le start finish
  have splitTaken := List.length_eq_length_filter_add
    (l := last.taken.filter (fun entry => inWindow start finish entry.2))
    (fun entry => decide (entry.1 ∉ names last.given))
  have splitGiven := List.length_eq_length_filter_add
    (l := last.given.filter (fun entry => inWindow start finish entry.2))
    (fun entry => last.taken.any (fun source => decide (source.1 = entry.1 ∧ source.2 < start)))
  simp only [List.filter_filter, Bool.and_comm _ (inWindow _ _ _)] at splitTaken splitGiven
  have counted : (last.taken.filter (fun entry => inWindow start finish entry.2)).length +
      last.late start finish ≥ last.unreturned start finish +
        (last.given.filter (fun entry => inWindow start finish entry.2)).length := by
    unfold Books.late Books.unreturned
    omega
  have cast : (last.unreturned start finish : K) +
      (last.given.filter (fun entry => inWindow start finish entry.2)).length ≤
        (last.taken.filter (fun entry => inWindow start finish entry.2)).length +
          last.late start finish := by
    exact_mod_cast counted
  linarith

end Level

end TokenBucket
