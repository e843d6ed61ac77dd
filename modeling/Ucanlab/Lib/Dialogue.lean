import Mathlib.Data.List.Basic

/-!
Programs that may fail over a state that keeps a log, and rules for what a run of one adds to
the log.
-/

namespace Ucanlab

/-- The state survives a failure. -/
def Dialogue (σ ε α : Type) := σ → Except ε α × σ

namespace Dialogue

variable {σ ε τ α β : Type}

instance : Monad (Dialogue σ ε) where
  pure value := fun state => (.ok value, state)
  bind program next := fun state =>
    match program state with
    | (.ok value, state) => next value state
    | (.error error, state) => (.error error, state)

def fail (error : ε) : Dialogue σ ε α := fun state => (.error error, state)

def require (condition : Prop) [Decidable condition] (error : ε) : Dialogue σ ε Unit :=
  if condition then pure () else fail error

def lift (result : Except ε α) : Dialogue σ ε α := fun state => (result, state)

def read (view : σ → α) : Dialogue σ ε α := fun state => (.ok (view state), state)

def update (change : σ → σ) : Dialogue σ ε Unit := fun state => (.ok (), change state)

/-- The handler runs after a failure, and the failure stands. -/
def recovering (program : Dialogue σ ε α) (handler : Dialogue σ ε Unit) : Dialogue σ ε α :=
  fun state =>
    match program state with
    | (.ok value, state) => (.ok value, state)
    | (.error error, state) => (.error error, (handler state).2)

def catching (program : Dialogue σ ε α) (handler : ε → Dialogue σ ε α) : Dialogue σ ε α :=
  fun state =>
    match program state with
    | (.ok value, state) => (.ok value, state)
    | (.error error, state) => handler error state

/-- Whatever state the program starts in, the entries it adds to the log stand in the relation
to its result. -/
def Leaves (log : σ → List τ) (program : Dialogue σ ε α)
    (post : List τ → Except ε α → Prop) : Prop :=
  ∀ state, ∃ added, log (program state).2 = log state ++ added ∧ post added (program state).1

section Rules

variable {log : σ → List τ} {program : Dialogue σ ε α} {post weaker : List τ → Except ε α → Prop}

theorem Leaves.weaken (leaves : Leaves log program post)
    (implies : ∀ added result, post added result → weaker added result) :
    Leaves log program weaker := by
  intro state
  obtain ⟨added, grows, holds⟩ := leaves state
  exact ⟨added, grows, implies added _ holds⟩

theorem Leaves.pure {value : α} (holds : post [] (.ok value)) :
    Leaves log (Pure.pure value : Dialogue σ ε α) post :=
  fun state => ⟨[], (List.append_nil (log state)).symm, holds⟩

theorem Leaves.fail {error : ε} (holds : post [] (.error error)) :
    Leaves log (Dialogue.fail error : Dialogue σ ε α) post :=
  fun state => ⟨[], (List.append_nil (log state)).symm, holds⟩

theorem bind_of_ok {next : α → Dialogue σ ε β} {state after : σ} {value : α}
    (ran : program state = (.ok value, after)) : (program >>= next) state = next value after := by
  change (match program state with
    | (.ok value, state) => next value state
    | (.error error, state) => (.error error, state)) = _
  rw [ran]

theorem bind_of_error {next : α → Dialogue σ ε β} {state after : σ} {error : ε}
    (ran : program state = (.error error, after)) :
    (program >>= next) state = (.error error, after) := by
  change (match program state with
    | (.ok value, state) => next value state
    | (.error error, state) => (.error error, state)) = _
  rw [ran]

/-- A run in two parts, with the second part in two again. -/
theorem bind_assoc {γ : Type} (program : Dialogue σ ε α) (middle : α → Dialogue σ ε β)
    (last : β → Dialogue σ ε γ) :
    (program >>= middle) >>= last = program >>= fun value => middle value >>= last := by
  funext state
  cases ran : program state with
  | mk result after =>
      cases result with
      | error error => rw [bind_of_error (bind_of_error ran), bind_of_error ran]
      | ok value =>
          rw [bind_of_ok ran]
          cases next : middle value after with
          | mk result reached =>
              cases result with
              | error error =>
                  rw [bind_of_error next, bind_of_error ((bind_of_ok ran).trans next)]
              | ok value =>
                  rw [bind_of_ok next, bind_of_ok ((bind_of_ok ran).trans next)]

theorem require_of_met {condition : Prop} [Decidable condition] {error : ε} (met : condition) :
    (Dialogue.require condition error : Dialogue σ ε Unit) = Pure.pure () := if_pos met

theorem require_of_unmet {condition : Prop} [Decidable condition] {error : ε}
    (unmet : ¬ condition) :
    (Dialogue.require condition error : Dialogue σ ε Unit) = Dialogue.fail error := if_neg unmet

theorem Leaves.bind {next : α → Dialogue σ ε β} {first : List τ → Except ε α → Prop}
    {post : List τ → Except ε β → Prop} (leaves : Leaves log program first)
    (failed : ∀ added error, first added (.error error) → post added (.error error))
    (goes : ∀ added value, first added (.ok value) →
      Leaves log (next value) (fun later result => post (added ++ later) result)) :
    Leaves log (program >>= next) post := by
  intro state
  obtain ⟨added, grows, holds⟩ := leaves state
  cases ran : program state with
  | mk result after =>
      rw [ran] at grows holds
      cases result with
      | error error =>
          rw [bind_of_error ran]
          exact ⟨added, grows, failed added error holds⟩
      | ok value =>
          obtain ⟨later, further, last⟩ := goes added value holds after
          rw [bind_of_ok ran]
          refine ⟨added ++ later, ?_, last⟩
          rw [← List.append_assoc, ← grows]
          exact further

theorem Leaves.lift_bind {result : Except ε α} {next : α → Dialogue σ ε β}
    {post : List τ → Except ε β → Prop}
    (failed : ∀ error, result = .error error → post [] (.error error))
    (goes : ∀ value, result = .ok value → Leaves log (next value) post) :
    Leaves log (Dialogue.lift result >>= next) post := by
  cases result with
  | error error => exact Leaves.fail (failed error rfl)
  | ok value => exact goes value rfl

theorem Leaves.require {condition : Prop} [Decidable condition] {error : ε}
    {post : List τ → Except ε Unit → Prop} (met : condition → post [] (.ok ()))
    (unmet : ¬ condition → post [] (.error error)) :
    Leaves log (Dialogue.require condition error) post := by
  by_cases holds : condition
  · rw [require_of_met holds]
    exact Leaves.pure (met holds)
  · rw [require_of_unmet holds]
    exact Leaves.fail (unmet holds)

theorem Leaves.require_bind {condition : Prop} [Decidable condition] {error : ε}
    {next : Unit → Dialogue σ ε β} {post : List τ → Except ε β → Prop}
    (unmet : ¬ condition → post [] (.error error))
    (met : condition → Leaves log (next ()) post) :
    Leaves log (Dialogue.require condition error >>= next) post := by
  by_cases holds : condition
  · rw [require_of_met holds]
    exact met holds
  · rw [require_of_unmet holds]
    exact Leaves.fail (unmet holds)

def Silent (log : σ → List τ) (program : Dialogue σ ε α) : Prop :=
  Leaves log program (fun added _ => added = [])

theorem Silent.bind {next : α → Dialogue σ ε β} {post : List τ → Except ε β → Prop}
    (silent : Silent log program) (failed : ∀ error, post [] (.error error))
    (goes : ∀ value, Leaves log (next value) post) : Leaves log (program >>= next) post := by
  apply Leaves.bind silent
  · rintro added error rfl
    exact failed error
  · rintro added value rfl
    exact goes value

theorem Silent.pure {value : α} : Silent log (Pure.pure value : Dialogue σ ε α) :=
  Leaves.pure rfl

theorem Silent.lift {result : Except ε α} : Silent log (Dialogue.lift result) :=
  fun state => ⟨[], (List.append_nil (log state)).symm, rfl⟩

theorem Silent.read {view : σ → α} : Silent log (Dialogue.read view : Dialogue σ ε α) :=
  fun state => ⟨[], (List.append_nil (log state)).symm, rfl⟩

theorem Silent.update {change : σ → σ} (same : ∀ state, log (change state) = log state) :
    Silent log (Dialogue.update change : Dialogue σ ε Unit) :=
  fun state => ⟨[], (same state).trans (List.append_nil (log state)).symm, rfl⟩

theorem Silent.require {condition : Prop} [Decidable condition] {error : ε} :
    Silent log (Dialogue.require condition error) :=
  Leaves.require (fun _ => rfl) (fun _ => rfl)

theorem Leaves.recovering {handler : Dialogue σ ε Unit} {P Q : List τ → Except ε α → Prop}
    {R : List τ → Prop} (leaves : Leaves log program P)
    (succeeds : ∀ added value, P added (.ok value) → Q added (.ok value))
    (recovers : Leaves log handler (fun added _ => R added))
    (fails : ∀ added error later, P added (.error error) → R later →
      Q (added ++ later) (.error error)) : Leaves log (program.recovering handler) Q := by
  intro state
  obtain ⟨added, grows, holds⟩ := leaves state
  unfold Dialogue.recovering
  cases ran : program state with
  | mk result after =>
      rw [ran] at grows holds
      cases result with
      | ok value => exact ⟨added, grows, succeeds added value holds⟩
      | error error =>
          obtain ⟨later, further, last⟩ := recovers after
          refine ⟨added ++ later, ?_, fails added error later holds last⟩
          rw [← List.append_assoc, ← grows]
          exact further

end Rules

section Entries

variable {log : σ → List τ} {kind good : τ → Prop}

structure Every (kind good : τ → Prop) (added : List τ) (result : Except ε α) : Prop where
  kind : ∀ entry ∈ added, kind entry
  good : ∀ value, result = .ok value → ∀ entry ∈ added, good entry

theorem Every.silent {result : Except ε α} : Every kind good [] result :=
  ⟨fun _ absent => absurd absent List.not_mem_nil, fun _ _ _ absent => absurd absent List.not_mem_nil⟩

theorem Every.append {first later : List τ} {value : α} {result : Except ε β}
    (start : Every kind good first (.ok value : Except ε α)) (rest : Every kind good later result) :
    Every kind good (first ++ later) result := by
  constructor
  · intro entry member
    rcases List.mem_append.mp member with early | late
    · exact start.kind entry early
    · exact rest.kind entry late
  · intro last succeeded entry member
    rcases List.mem_append.mp member with early | late
    · exact start.good value rfl entry early
    · exact rest.good last succeeded entry late

theorem Every.failed {added : List τ} {result : Except ε α} {error : ε}
    (every : Every kind good added result) : Every kind good added (.error error : Except ε β) :=
  ⟨every.kind, fun _ impossible => nomatch impossible⟩

theorem Leaves.every_bind {program : Dialogue σ ε α} {next : α → Dialogue σ ε β}
    (first : Leaves log program (Every kind good))
    (rest : ∀ value, Leaves log (next value) (Every kind good)) :
    Leaves log (program >>= next) (Every kind good) :=
  first.bind (fun _ _ failed => failed.failed) (fun _ value start =>
    (rest value).weaken (fun _ _ later => start.append later))

theorem Silent.every {program : Dialogue σ ε α} (silent : Silent log program) :
    Leaves log program (Every kind good) := by
  apply Leaves.weaken silent
  rintro added result rfl
  exact Every.silent

theorem Silent.every_bind {program : Dialogue σ ε α} {next : α → Dialogue σ ε β}
    (silent : Silent log program) (rest : ∀ value, Leaves log (next value) (Every kind good)) :
    Leaves log (program >>= next) (Every kind good) :=
  Silent.bind silent (fun _ => Every.silent) rest

end Entries

section Results

/-- What every run returns, whether it fails or succeeds. -/
def Returns (F : ε → Prop) (P : α → Prop) (program : Dialogue σ ε α) : Prop :=
  ∀ state, match (program state).1 with
    | .error error => F error
    | .ok value => P value

variable {F : ε → Prop} {P : α → Prop} {program : Dialogue σ ε α}

theorem Returns.anyway : Returns (fun _ => True) (fun _ => True) program := by
  intro state
  split
  · trivial
  · trivial

theorem Returns.weaken {G : ε → Prop} {Q : α → Prop}
    (returns : Returns F P program) (failed : ∀ error, F error → G error)
    (succeeded : ∀ value, P value → Q value) : Returns G Q program := by
  intro state
  have holds := returns state
  cases ran : (program state).1 with
  | error error =>
      rw [ran] at holds
      exact failed error holds
  | ok value =>
      rw [ran] at holds
      exact succeeded value holds

theorem Returns.pure {value : α} (holds : P value) :
    Returns F P (Pure.pure value : Dialogue σ ε α) := fun _ => holds

theorem Returns.fail {error : ε} (holds : F error) :
    Returns F P (Dialogue.fail error : Dialogue σ ε α) := fun _ => holds

theorem Returns.bind {next : α → Dialogue σ ε β} {last : β → Prop}
    (first : Returns F P program)
    (rest : ∀ value, P value → Returns F last (next value)) :
    Returns F last (program >>= next) := by
  intro state
  have holds := first state
  cases ran : program state with
  | mk result after =>
      rw [ran] at holds
      cases result with
      | error error =>
          rw [bind_of_error ran]
          exact holds
      | ok value =>
          rw [bind_of_ok ran]
          exact rest value holds after

theorem Returns.lift {result : Except ε α} (failed : ∀ error, result = .error error → F error)
    (succeeded : ∀ value, result = .ok value → P value) :
    Returns F P (Dialogue.lift result : Dialogue σ ε α) := by
  intro state
  cases result with
  | error error => exact failed error rfl
  | ok value => exact succeeded value rfl

theorem Returns.require {condition : Prop} [Decidable condition] {error : ε}
    (unmet : ¬ condition → F error) :
    Returns F (fun _ => condition)
      (Dialogue.require condition error : Dialogue σ ε Unit) := by
  by_cases holds : condition
  · rw [require_of_met holds]
    exact Returns.pure holds
  · rw [require_of_unmet holds]
    exact Returns.fail (unmet holds)

theorem Returns.read {view : σ → α} :
    Returns F (fun _ => True) (Dialogue.read view : Dialogue σ ε α) := fun _ => trivial

theorem Returns.update {change : σ → σ} :
    Returns F (fun _ => True) (Dialogue.update change : Dialogue σ ε Unit) := fun _ => trivial

theorem Leaves.returns {log : σ → List τ} {post : List τ → Except ε α → Prop}
    (leaves : Leaves log program post) (failed : ∀ added error, post added (.error error) →
      F error) (succeeded : ∀ added value, post added (.ok value) → P value) :
    Returns F P program := by
  intro state
  obtain ⟨added, _, holds⟩ := leaves state
  cases ran : (program state).1 with
  | error error =>
      rw [ran] at holds
      exact failed added error holds
  | ok value =>
      rw [ran] at holds
      exact succeeded added value holds

theorem Leaves.returning {log : σ → List τ} {post : List τ → Except ε α → Prop}
    (leaves : Leaves log program post) (returns : Returns F P program) :
    Leaves log program (fun added result => post added result ∧
      (∀ error, result = .error error → F error) ∧
        ∀ value, result = .ok value → P value) := by
  intro state
  obtain ⟨added, grows, holds⟩ := leaves state
  have outcome := returns state
  refine ⟨added, grows, holds, ?_, ?_⟩
  · intro error failed
    rw [failed] at outcome
    exact outcome
  · intro value succeeded
    rw [succeeded] at outcome
    exact outcome

end Results

section Follows

variable {ρ : Type} {view : ρ → σ}

def Follows (view : ρ → σ) (program : Dialogue ρ ε α) (plain : Dialogue σ ε α) : Prop :=
  ∀ state, (program state).1 = (plain (view state)).1 ∧
    view (program state).2 = (plain (view state)).2

theorem Follows.pure {value : α} :
    Follows view (Pure.pure value : Dialogue ρ ε α) (Pure.pure value) := fun _ => ⟨rfl, rfl⟩

theorem Follows.fail {error : ε} :
    Follows view (Dialogue.fail error : Dialogue ρ ε α) (Dialogue.fail error) := fun _ => ⟨rfl, rfl⟩

theorem Follows.lift {result : Except ε α} :
    Follows view (Dialogue.lift result) (Dialogue.lift result) := fun _ => ⟨rfl, rfl⟩

theorem Follows.require {condition : Prop} [Decidable condition] {error : ε} :
    Follows view (Dialogue.require condition error) (Dialogue.require condition error) := by
  by_cases holds : condition
  · rw [require_of_met holds, require_of_met holds]
    exact Follows.pure
  · rw [require_of_unmet holds, require_of_unmet holds]
    exact Follows.fail

theorem Follows.bind {program : Dialogue ρ ε α} {plain : Dialogue σ ε α}
    {next : α → Dialogue ρ ε β} {plainNext : α → Dialogue σ ε β}
    (first : Follows view program plain) (rest : ∀ value, Follows view (next value) (plainNext value)) :
    Follows view (program >>= next) (plain >>= plainNext) := by
  intro state
  obtain ⟨result, shown⟩ := first state
  cases ran : program state with
  | mk outcome after =>
      rw [ran] at result shown
      have plainRan : plain (view state) = (outcome, view after) := Prod.ext result.symm shown.symm
      cases outcome with
      | error error =>
          rw [bind_of_error ran, bind_of_error plainRan]
          exact ⟨rfl, rfl⟩
      | ok value =>
          rw [bind_of_ok ran, bind_of_ok plainRan]
          exact rest value after

theorem Follows.recovering {program : Dialogue ρ ε α} {plain : Dialogue σ ε α}
    {handler : Dialogue ρ ε Unit} {plainHandler : Dialogue σ ε Unit}
    (first : Follows view program plain) (rest : Follows view handler plainHandler) :
    Follows view (program.recovering handler) (plain.recovering plainHandler) := by
  intro state
  obtain ⟨result, shown⟩ := first state
  unfold Dialogue.recovering
  cases ran : program state with
  | mk outcome after =>
      rw [ran] at result shown
      have plainRan : plain (view state) = (outcome, view after) := Prod.ext result.symm shown.symm
      rw [plainRan]
      cases outcome with
      | error error => exact ⟨rfl, (rest after).2⟩
      | ok value => exact ⟨rfl, rfl⟩

end Follows

end Dialogue

end Ucanlab

/-!
Assumptions and guarantees of a program about the entries it adds to its log. The program answers
for its own entries as long as the entries it was given are as assumed.
-/

namespace Ucanlab.Dialogue

variable {σ ε τ α β : Type}

/-- With `exact` the guarantee holds of nothing but what was assumed. -/
structure Contract (σ τ : Type) where
  log : σ → List τ
  invariant : σ → Prop
  assumed : τ → Prop
  guaranteed : τ → Prop
  exact : Prop

namespace Contract

variable {contract : Contract σ τ}

/-- What a part of the log and the state behind it owe each other. -/
structure Met (contract : Contract σ τ) (added : List τ) (after : σ) : Prop where
  kept : (∀ entry ∈ added, contract.assumed entry) → contract.invariant after
  held : (∀ entry ∈ added, contract.assumed entry) →
    ∀ entry ∈ added, contract.guaranteed entry
  forced : contract.exact → (∀ entry ∈ added, contract.guaranteed entry) →
    ∀ entry ∈ added, contract.assumed entry

theorem Met.nil {after : σ} (invariant : contract.invariant after) : contract.Met [] after where
  kept := fun _ => invariant
  held := fun _ _ absent => absurd absent List.not_mem_nil
  forced := fun _ _ _ absent => absurd absent List.not_mem_nil

theorem Met.append {first second : List τ} {middle last : σ} (start : contract.Met first middle)
    (rest : contract.invariant middle → contract.Met second last) :
    contract.Met (first ++ second) last := by
  constructor
  case kept =>
    intro assumed
    obtain ⟨early, late⟩ := List.forall_mem_append.mp assumed
    exact (rest (start.kept early)).kept late
  case held =>
    intro assumed
    obtain ⟨early, late⟩ := List.forall_mem_append.mp assumed
    exact List.forall_mem_append.mpr
      ⟨start.held early, (rest (start.kept early)).held late⟩
  case forced =>
    intro exact guaranteed
    obtain ⟨early, late⟩ := List.forall_mem_append.mp guaranteed
    have assumed := start.forced exact early
    exact List.forall_mem_append.mpr
      ⟨assumed, (rest (start.kept assumed)).forced exact late⟩

def Honoured (contract : Contract σ τ) (program : Dialogue σ ε α) : Prop :=
  ∀ state, ∃ added, contract.log (program state).2 = contract.log state ++ added ∧
    (contract.invariant state → contract.Met added (program state).2)

section Rules

variable {program : Dialogue σ ε α}

theorem Honoured.pure {value : α} : contract.Honoured (Pure.pure value : Dialogue σ ε α) :=
  fun state => ⟨[], (List.append_nil (contract.log state)).symm, Met.nil⟩

theorem Honoured.fail {error : ε} : contract.Honoured (Dialogue.fail error : Dialogue σ ε α) :=
  fun state => ⟨[], (List.append_nil (contract.log state)).symm, Met.nil⟩

theorem Honoured.lift {result : Except ε α} :
    contract.Honoured (Dialogue.lift result : Dialogue σ ε α) :=
  fun state => ⟨[], (List.append_nil (contract.log state)).symm, Met.nil⟩

theorem Honoured.require {condition : Prop} [Decidable condition] {error : ε} :
    contract.Honoured (Dialogue.require condition error : Dialogue σ ε Unit) := by
  by_cases holds : condition
  · rw [require_of_met holds]
    exact Honoured.pure
  · rw [require_of_unmet holds]
    exact Honoured.fail

theorem Honoured.bind {next : α → Dialogue σ ε β} (first : contract.Honoured program)
    (rest : ∀ value, contract.Honoured (next value)) :
    contract.Honoured (program >>= next) := by
  intro state
  obtain ⟨added, grows, met⟩ := first state
  cases ran : program state with
  | mk result middle =>
      rw [ran] at grows met
      cases result with
      | error error =>
          rw [bind_of_error ran]
          exact ⟨added, grows, met⟩
      | ok value =>
          obtain ⟨later, further, last⟩ := rest value middle
          rw [bind_of_ok ran]
          refine ⟨added ++ later, ?_, ?_⟩
          · rw [further, grows, List.append_assoc]
          · intro invariant
            exact (met invariant).append last

end Rules

end Contract

end Ucanlab.Dialogue
