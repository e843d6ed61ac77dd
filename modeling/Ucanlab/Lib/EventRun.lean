import Mathlib.Data.List.Induction

/-!
Finite runs of a deterministic system in which a step may be disabled. The
rules lift one-step facts to whole runs: an invariant, an invariant that needs
every step to meet a condition, the step at which a property first appears, a
generation counter, and the comparison of two runs that differ in idle steps.
-/

namespace EventRun

universe u v

variable {State : Type u} {Event : Type v}

/-- Performs the events in order; `none` as soon as one of them is disabled. -/
def run (step : State → Event → Option State) : State → List Event → Option State
  | state, [] => some state
  | state, event :: rest =>
      match step state event with
      | none => none
      | some next => run step next rest

def Meets (step : State → Event → Option State) (condition : State → Event → Prop) :
    State → List Event → Prop
  | _, [] => True
  | state, event :: rest =>
      condition state event ∧ ∀ next, step state event = some next → Meets step condition next rest

variable {step : State → Event → Option State}

/-- The condition is checked along the run. -/
instance decideMeets {condition : State → Event → Prop}
    [∀ state event, Decidable (condition state event)] :
    (state : State) → (events : List Event) → Decidable (Meets step condition state events)
  | _, [] => isTrue trivial
  | state, event :: rest =>
      match stepped : step state event with
      | none =>
          decidable_of_iff (condition state event)
            ⟨fun holds => ⟨holds, fun _ same => nomatch stepped.symm.trans same⟩, And.left⟩
      | some next =>
          have : Decidable (Meets step condition next rest) := decideMeets next rest
          decidable_of_iff (condition state event ∧ Meets step condition next rest)
            ⟨fun both => ⟨both.1, fun _ same => Option.some.inj (stepped.symm.trans same) ▸ both.2⟩,
              fun meets => ⟨meets.1, meets.2 next stepped⟩⟩

theorem run_cons_some {state last : State} {event : Event} {rest : List Event}
    (ran : run step state (event :: rest) = some last) :
    ∃ next, step state event = some next ∧ run step next rest = some last := by
  simp only [run] at ran
  split at ran
  · cases ran
  · rename_i next stepped
    exact ⟨next, stepped, ran⟩

theorem run_cons_of_step {state next : State} {event : Event} (rest : List Event)
    (stepped : step state event = some next) :
    run step state (event :: rest) = run step next rest := by
  simp only [run, stepped]

theorem run_append (state : State) (front back : List Event) :
    run step state (front ++ back) =
      match run step state front with
      | none => none
      | some middle => run step middle back := by
  induction front generalizing state with
  | nil => rfl
  | cons event rest ih =>
      simp only [List.cons_append, run]
      cases step state event with
      | none => rfl
      | some next => exact ih next

theorem run_append_some {state last : State} {front back : List Event}
    (ran : run step state (front ++ back) = some last) :
    ∃ middle, run step state front = some middle ∧ run step middle back = some last := by
  rw [run_append] at ran
  split at ran
  · cases ran
  · rename_i middle frontRan
    exact ⟨middle, frontRan, ran⟩

theorem run_append_of_run {state middle : State} {front : List Event} (back : List Event)
    (frontRan : run step state front = some middle) :
    run step state (front ++ back) = run step middle back := by
  rw [run_append, frontRan]

theorem meets_append {condition : State → Event → Prop} {state middle : State}
    {front back : List Event} (meets : Meets step condition state (front ++ back))
    (ran : run step state front = some middle) :
    Meets step condition state front ∧ Meets step condition middle back := by
  induction front generalizing state with
  | nil =>
      cases ran
      exact ⟨trivial, meets⟩
  | cons event rest ih =>
      obtain ⟨next, stepped, tail⟩ := run_cons_some ran
      have later := ih (meets.2 next stepped) tail
      refine ⟨⟨meets.1, ?_⟩, later.2⟩
      intro other reached
      rw [stepped] at reached
      cases reached
      exact later.1

theorem run_history_invariant_of_meets {condition : State → Event → Prop}
    {invariant : List Event → State → Prop} {first last : State} {events : List Event}
    (initial : invariant [] first)
    (preserves : ∀ past state event next, run step first past = some state →
      invariant past state → condition state event → step state event = some next →
      invariant (past ++ [event]) next)
    (meets : Meets step condition first events) (ran : run step first events = some last) :
    invariant events last := by
  induction events using List.reverseRecOn generalizing last with
  | nil =>
      cases ran
      exact initial
  | append_singleton past event ih =>
      obtain ⟨state, pastRan, tail⟩ := run_append_some ran
      obtain ⟨next, stepped, ended⟩ := run_cons_some tail
      cases ended
      obtain ⟨pastMeets, here⟩ := meets_append meets pastRan
      exact preserves past state event last pastRan (ih pastMeets pastRan) here.1 stepped

theorem Meets.append {condition : State → Event → Prop} {state middle : State}
    {front back : List Event} (first : Meets step condition state front)
    (ran : run step state front = some middle) (second : Meets step condition middle back) :
    Meets step condition state (front ++ back) := by
  induction front generalizing state with
  | nil =>
      cases ran
      exact second
  | cons event rest ih =>
      obtain ⟨next, stepped, tail⟩ := run_cons_some ran
      refine ⟨first.1, ?_⟩
      intro other reached
      rw [stepped] at reached
      cases reached
      exact ih (first.2 next stepped) tail

theorem Meets.imp {weak strong : State → Event → Prop}
    (implied : ∀ state event, strong state event → weak state event) {state : State}
    {events : List Event} (meets : Meets step strong state events) :
    Meets step weak state events := by
  induction events generalizing state with
  | nil => trivial
  | cons event rest ih =>
      exact ⟨implied state event meets.1, fun next stepped => ih (meets.2 next stepped)⟩

theorem Meets.and {first second : State → Event → Prop} {state : State} {events : List Event}
    (left : Meets step first state events) (right : Meets step second state events) :
    Meets step (fun before event => first before event ∧ second before event) state events := by
  induction events generalizing state with
  | nil => trivial
  | cons event rest ih =>
      exact ⟨⟨left.1, right.1⟩, fun next stepped => ih (left.2 next stepped) (right.2 next stepped)⟩

theorem Meets.of_mem {condition : Event → Prop} {state last : State} {events : List Event}
    (meets : Meets step (fun _ event => condition event) state events)
    (ran : run step state events = some last) : ∀ event ∈ events, condition event := by
  induction events generalizing state with
  | nil => exact fun event member => absurd member List.not_mem_nil
  | cons first rest ih =>
      obtain ⟨next, stepped, tail⟩ := run_cons_some ran
      intro event member
      rcases List.mem_cons.mp member with same | later
      · rw [same]
        exact meets.1
      · exact ih (meets.2 next stepped) tail event later

theorem Meets.of_forall {condition : Event → Prop} {events : List Event}
    (each : ∀ event ∈ events, condition event) (state : State) :
    Meets step (fun _ event => condition event) state events := by
  induction events generalizing state with
  | nil => trivial
  | cons first rest ih =>
      exact ⟨each first (List.mem_cons_self ..),
        fun next _ => ih (fun event member => each event (List.mem_cons_of_mem _ member)) next⟩

theorem run_invariant_of_meets {invariant : State → Prop} {condition : State → Event → Prop}
    (preserves : ∀ state event next, invariant state → condition state event →
      step state event = some next → invariant next)
    {state last : State} {events : List Event} (initial : invariant state)
    (meets : Meets step condition state events)
    (ran : run step state events = some last) : invariant last := by
  induction events generalizing state with
  | nil =>
      cases ran
      exact initial
  | cons event rest ih =>
      obtain ⟨next, stepped, tail⟩ := run_cons_some ran
      exact ih (preserves state event next initial meets.1 stepped) (meets.2 next stepped) tail

theorem run_invariant {invariant : State → Prop}
    (preserves : ∀ state event next, invariant state → step state event = some next →
      invariant next)
    {state last : State} {events : List Event} (initial : invariant state)
    (ran : run step state events = some last) : invariant last :=
  run_invariant_of_meets (fun state event next kept _ => preserves state event next kept) initial
    (Meets.of_forall (fun _ _ => trivial) state) ran

theorem run_history_invariant {invariant : List Event → State → Prop} {first last : State}
    {events : List Event} (initial : invariant [] first)
    (preserves : ∀ past state event next, run step first past = some state →
      invariant past state → step state event = some next → invariant (past ++ [event]) next)
    (ran : run step first events = some last) : invariant events last :=
  run_history_invariant_of_meets initial
    (fun past state event next pastRan kept _ => preserves past state event next pastRan kept)
    (Meets.of_forall (fun _ _ => trivial) first) ran

theorem Meets.with_invariant {invariant : State → Prop} {condition : State → Event → Prop}
    (preserves : ∀ state event next, invariant state → condition state event →
      step state event = some next → invariant next)
    {state : State} {events : List Event} (initial : invariant state)
    (meets : Meets step condition state events) :
    Meets step (fun before event => invariant before ∧ condition before event) state events := by
  induction events generalizing state with
  | nil => trivial
  | cons event rest ih =>
      refine ⟨⟨initial, meets.1⟩, ?_⟩
      intro next stepped
      exact ih (preserves state event next initial meets.1 stepped) (meets.2 next stepped)

theorem invariant_throughout_iff_meets {invariant : State → Prop}
    {condition : State → Event → Prop}
    (exact : ∀ state event next, invariant state → step state event = some next →
      (invariant next ↔ condition state event))
    {state last : State} {events : List Event} (initial : invariant state)
    (ran : run step state events = some last) :
    (∀ front back middle, events = front ++ back → run step state front = some middle →
      invariant middle) ↔ Meets step condition state events := by
  induction events generalizing state with
  | nil =>
      refine ⟨fun _ => trivial, ?_⟩
      intro _ front back middle split frontRan
      obtain ⟨rfl, -⟩ := List.append_eq_nil_iff.mp split.symm
      cases frontRan
      exact initial
  | cons event rest ih =>
      obtain ⟨next, stepped, tail⟩ := run_cons_some ran
      constructor
      · intro throughout
        have kept : invariant next := throughout [event] rest next rfl (run_cons_of_step [] stepped)
        refine ⟨(exact state event next initial stepped).mp kept, ?_⟩
        intro other reached
        rw [stepped] at reached
        cases reached
        refine (ih kept tail).mp ?_
        intro front back middle split frontRan
        refine throughout (event :: front) back middle (by rw [split, List.cons_append]) ?_
        rw [run_cons_of_step front stepped, frontRan]
      · intro meets front back middle split frontRan
        have kept := (exact state event next initial stepped).mpr meets.1
        cases front with
        | nil =>
            cases frontRan
            exact initial
        | cons head front =>
            obtain ⟨rfl, restSplit⟩ := List.cons_eq_cons.mp split
            rw [run_cons_of_step front stepped] at frontRan
            exact (ih kept tail).mpr (meets.2 next stepped) front back middle restSplit frontRan

theorem run_descends {phase : Nat → State → Prop}
    (descends : ∀ left state event next, phase left state → step state event = some next →
      ∃ fewer, fewer < left ∧ phase fewer next)
    {left : Nat} {state last : State} {events : List Event} (start : phase left state)
    (ran : run step state events = some last) :
    ∃ rest, phase rest last ∧ rest + events.length ≤ left := by
  induction events generalizing left state with
  | nil =>
      cases ran
      exact ⟨left, start, Nat.le_refl left⟩
  | cons event tail ih =>
      obtain ⟨next, stepped, tailRan⟩ := run_cons_some ran
      obtain ⟨fewer, lower, reached⟩ := descends left state event next start stepped
      obtain ⟨rest, final, bounded⟩ := ih reached tailRan
      refine ⟨rest, final, ?_⟩
      rw [List.length_cons]
      omega

theorem exists_run_to_rest {phase : Nat → State → Prop} {rest : State → Prop}
    (descends : ∀ left state event next, phase left state → step state event = some next →
      ∃ fewer, fewer < left ∧ phase fewer next)
    (progress : ∀ left state, phase left state →
      rest state ∨ ∃ event next, step state event = some next)
    {left : Nat} {state : State} (start : phase left state) :
    ∃ events last, run step state events = some last ∧ rest last := by
  induction left using Nat.strongRecOn generalizing state with
  | _ left ih =>
      rcases progress left state start with still | ⟨event, next, stepped⟩
      · exact ⟨[], state, rfl, still⟩
      · obtain ⟨fewer, lower, reached⟩ := descends left state event next start stepped
        obtain ⟨events, last, ran, still⟩ := ih fewer lower reached
        exact ⟨event :: events, last, (run_cons_of_step events stepped).trans ran, still⟩

theorem run_introduces {property : State → Prop} {state last : State} {events : List Event}
    (ran : run step state events = some last) (absent : ¬ property state)
    (present : property last) :
    ∃ front event back before after, events = front ++ event :: back ∧
      run step state front = some before ∧ ¬ property before ∧
      step before event = some after ∧ property after ∧ run step after back = some last := by
  induction events generalizing state with
  | nil =>
      cases ran
      exact absurd present absent
  | cons event rest ih =>
      obtain ⟨next, stepped, tail⟩ := run_cons_some ran
      by_cases here : property next
      · exact ⟨[], event, rest, state, next, rfl, rfl, absent, stepped, here, tail⟩
      · obtain ⟨front, later, back, before, after, split, frontRan, missing, made, holds, backRan⟩ :=
          ih tail here
        refine ⟨event :: front, later, back, before, after, ?_, ?_, missing, made, holds, backRan⟩
        · rw [split, List.cons_append]
        · rw [run_cons_of_step front stepped, frontRan]

section Reports

universe w

variable {Report : Type w}

def reports (step : State → Event → Option State) (report : State → Event → List Report) :
    State → List Event → List Report
  | _, [] => []
  | state, event :: rest =>
      report state event ++
        match step state event with
        | none => []
        | some next => reports step report next rest

theorem reports_append_singleton {report : State → Event → List Report} {first state : State}
    {past : List Event} (ran : run step first past = some state) (event : Event) :
    reports step report first (past ++ [event]) =
      reports step report first past ++ report state event := by
  induction past generalizing first with
  | nil =>
      cases ran
      simp only [List.nil_append, reports]
      cases step state event <;> simp
  | cons head rest ih =>
      obtain ⟨next, stepped, tail⟩ := run_cons_some ran
      simp only [List.cons_append, reports, stepped, ih tail, List.append_assoc]

theorem reports_forall_of_meets {report : State → Event → List Report}
    {condition : State → Event → Prop} {property : Report → Prop}
    (each : ∀ state event item, condition state event → item ∈ report state event → property item)
    {state : State} {events : List Event} (meets : Meets step condition state events) :
    ∀ item ∈ reports step report state events, property item := by
  induction events generalizing state with
  | nil => exact fun item member => absurd member List.not_mem_nil
  | cons event rest ih =>
      intro item member
      rcases List.mem_append.mp member with now | later
      · exact each state event item meets.1 now
      · cases stepped : step state event with
        | none =>
            rw [stepped] at later
            cases later
        | some next =>
            rw [stepped] at later
            exact ih (meets.2 next stepped) item later

end Reports

section Since

variable {marks : State → Event → State → Prop} {quiet : State → Event → Prop}
  {first before after state : State} {past : List Event} {event : Event}

def Since (step : State → Event → Option State) (marks : State → Event → State → Prop)
    (quiet : State → Event → Prop) (first : State) (past : List Event) (state : State) : Prop :=
  ∃ front event back before after, past = front ++ event :: back ∧
    run step first front = some before ∧ step before event = some after ∧
    marks before event after ∧ run step after back = some state ∧ Meets step quiet after back

theorem Since.now (pastRan : run step first past = some before)
    (stepped : step before event = some after) (marked : marks before event after) :
    Since step marks quiet first (past ++ [event]) after :=
  ⟨past, event, [], before, after, rfl, pastRan, stepped, marked, rfl, trivial⟩

theorem Since.extend (since : Since step marks quiet first past before)
    (stepped : step before event = some after) (still : quiet before event) :
    Since step marks quiet first (past ++ [event]) after := by
  obtain ⟨front, marked, back, found, made, split, ran, took, mark, tail, meets⟩ := since
  refine ⟨front, marked, back ++ [event], found, made, ?_, ran, took, mark, ?_, ?_⟩
  · rw [split, List.append_assoc, List.cons_append]
  · rw [run_append_of_run [event] tail]
    exact run_cons_of_step [] stepped
  · exact meets.append tail ⟨still, fun _ _ => trivial⟩

end Since

section Generation

variable (generation : State → Nat) (advances : State → Event → Prop)

theorem run_generation_le
    (monotone : ∀ state event next, step state event = some next →
      generation state ≤ generation next)
    {state last : State} {events : List Event} (ran : run step state events = some last) :
    generation state ≤ generation last := by
  induction events generalizing state with
  | nil =>
      cases ran
      exact Nat.le_refl _
  | cons event rest ih =>
      obtain ⟨next, stepped, tail⟩ := run_cons_some ran
      exact Nat.le_trans (monotone state event next stepped) (ih tail)

theorem run_no_advance_of_generation_eq
    (monotone : ∀ state event next, step state event = some next →
      generation state ≤ generation next)
    (raised : ∀ state event next, step state event = some next → advances state event →
      generation state < generation next)
    {state last : State} {events : List Event} (ran : run step state events = some last)
    (unchanged : generation last = generation state) :
    Meets step (fun before event => ¬ advances before event) state events := by
  induction events generalizing state with
  | nil => trivial
  | cons event rest ih =>
      obtain ⟨next, stepped, tail⟩ := run_cons_some ran
      have first := monotone state event next stepped
      have later := run_generation_le generation monotone tail
      refine ⟨?_, ?_⟩
      · intro advanced
        have above := raised state event next stepped advanced
        omega
      · intro other reached
        rw [stepped] at reached
        cases reached
        exact ih tail (by omega)

end Generation

section Idle

variable (alike : State → State → Prop) (idle : Event → Bool)

theorem run_filter_alike_of_meets {condition : State → Event → Prop}
    (skipped : ∀ left right event next, alike left right → condition left event →
      idle event = true → step left event = some next → alike next right)
    (matched : ∀ left right event next, alike left right → condition left event →
      idle event = false → step left event = some next →
        ∃ next', step right event = some next' ∧ alike next next')
    {left right last : State} {events : List Event} (start : alike left right)
    (meets : Meets step condition left events) (ran : run step left events = some last) :
    ∃ last', run step right (events.filter (fun event => !idle event)) = some last' ∧
      alike last last' := by
  induction events generalizing left right with
  | nil =>
      cases ran
      exact ⟨right, rfl, start⟩
  | cons event rest ih =>
      obtain ⟨next, stepped, tail⟩ := run_cons_some ran
      have later := meets.2 next stepped
      cases kind : idle event with
      | true =>
          obtain ⟨last', reached, related⟩ :=
            ih (skipped left right event next start meets.1 kind stepped) later tail
          refine ⟨last', ?_, related⟩
          rw [List.filter_cons_of_neg (by simp [kind]), reached]
      | false =>
          obtain ⟨next', stepped', close⟩ :=
            matched left right event next start meets.1 kind stepped
          obtain ⟨last', reached, related⟩ := ih close later tail
          refine ⟨last', ?_, related⟩
          rw [List.filter_cons_of_pos (by simp [kind]), run_cons_of_step _ stepped', reached]

theorem run_filter_alike
    (skipped : ∀ left right event next, alike left right → idle event = true →
      step left event = some next → alike next right)
    (matched : ∀ left right event next, alike left right → idle event = false →
      step left event = some next → ∃ next', step right event = some next' ∧ alike next next')
    {left right last : State} {events : List Event} (start : alike left right)
    (ran : run step left events = some last) :
    ∃ last', run step right (events.filter (fun event => !idle event)) = some last' ∧
      alike last last' :=
  run_filter_alike_of_meets alike idle
    (fun left right event next related _ => skipped left right event next related)
    (fun left right event next related _ => matched left right event next related) start
    (Meets.of_forall (fun _ _ => trivial) left) ran

theorem run_of_filter_alike
    (enabled : ∀ state event, idle event = true → ∃ next, step state event = some next)
    (skipped : ∀ left right event next, alike left right → idle event = true →
      step right event = some next → alike left next)
    (matched : ∀ left right event next, alike left right → idle event = false →
      step left event = some next → ∃ next', step right event = some next' ∧ alike next next')
    {left right last : State} {events : List Event} (start : alike left right)
    (ran : run step left (events.filter (fun event => !idle event)) = some last) :
    ∃ last', run step right events = some last' ∧ alike last last' := by
  induction events generalizing left right with
  | nil =>
      cases ran
      exact ⟨right, rfl, start⟩
  | cons event rest ih =>
      cases kind : idle event with
      | true =>
          rw [List.filter_cons_of_neg (by simp [kind])] at ran
          obtain ⟨next, stepped⟩ := enabled right event kind
          obtain ⟨last', reached, related⟩ := ih (skipped left right event next start kind stepped) ran
          exact ⟨last', by rw [run_cons_of_step _ stepped, reached], related⟩
      | false =>
          rw [List.filter_cons_of_pos (by simp [kind])] at ran
          obtain ⟨next, stepped, tail⟩ := run_cons_some ran
          obtain ⟨next', stepped', close⟩ := matched left right event next start kind stepped
          obtain ⟨last', reached, related⟩ := ih close tail
          exact ⟨last', by rw [run_cons_of_step _ stepped', reached], related⟩

/-- Two runs that differ only in idle steps: when one is possible, so is the
other, and they end alike. -/
theorem run_alike_of_filter_eq
    (symmetric : ∀ left right, alike left right → alike right left)
    (transitive : ∀ left middle right, alike left middle → alike middle right → alike left right)
    (reflexive : ∀ state, alike state state)
    (enabled : ∀ state event, idle event = true → ∃ next, step state event = some next)
    (skipped : ∀ state event next, idle event = true → step state event = some next →
      alike state next)
    (matched : ∀ left right event next, alike left right → idle event = false →
      step left event = some next → ∃ next', step right event = some next' ∧ alike next next')
    {state last : State} {events others : List Event}
    (same : events.filter (fun event => !idle event) = others.filter (fun event => !idle event))
    (ran : run step state events = some last) :
    ∃ last', run step state others = some last' ∧ alike last last' := by
  obtain ⟨middle, filtered, first⟩ := run_filter_alike alike idle
    (fun left right event next related kind stepped => transitive next left right
      (symmetric left next (skipped left event next kind stepped)) related)
    matched (reflexive state) ran
  rw [same] at filtered
  obtain ⟨last', reached, second⟩ := run_of_filter_alike alike idle enabled
    (fun left right event next related kind stepped => transitive left right next related
      (skipped right event next kind stepped))
    matched (reflexive state) filtered
  exact ⟨last', reached, transitive last middle last' first second⟩

end Idle

end EventRun
