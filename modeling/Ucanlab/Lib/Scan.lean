import Mathlib.Data.List.Basic

/-!
Loops that take the items of a list one after the other and may stop at one of them.
-/

namespace Ucanlab

/-- What a loop makes of one item. -/
inductive Turn (σ β : Type) where
  | on (state : σ)
  | stop (result : β)

namespace Turn

variable {σ τ β : Type}

/-- The loop, with the result it has when the items run out. -/
def scan (step : σ → τ → Turn σ β) (exhausted : σ → β) : σ → List τ → β
  | state, [] => exhausted state
  | state, item :: rest =>
      match step state item with
      | .on next => scan step exhausted next rest
      | .stop result => result

inductive Reaches (step : σ → τ → Turn σ β) : σ → List τ → σ → τ → Prop
  | here (state : σ) (item : τ) (rest : List τ) : Reaches step state (item :: rest) state item
  | later {state next last : σ} {item found : τ} {rest : List τ}
      (goes : step state item = .on next) (reaches : Reaches step next rest last found) :
      Reaches step state (item :: rest) last found

variable {step : σ → τ → Turn σ β} {exhausted : σ → β}

theorem Reaches.mem {state last : σ} {items : List τ} {found : τ}
    (reaches : Reaches step state items last found) : found ∈ items := by
  induction reaches with
  | here => exact List.mem_cons_self
  | later _ _ ih => exact List.mem_cons_of_mem _ ih

theorem scan_iff {P : β → Prop} (ends : ∀ state, P (exhausted state)) (items : List τ)
    (state : σ) :
    P (scan step exhausted state items) ↔
      ∀ last item, Reaches step state items last item →
        ∀ result, step last item = .stop result → P result := by
  induction items generalizing state with
  | nil =>
      refine iff_of_true (ends state) ?_
      intro last item reaches
      cases reaches
  | cons first rest ih =>
      unfold scan
      cases turn : step state first with
      | stop result =>
          constructor
          · intro holds last item reaches other stopped
            cases reaches with
            | here =>
                cases turn.symm.trans stopped
                exact holds
            | later goes _ => cases turn.symm.trans goes
          · intro spared
            exact spared state first (.here state first rest) result turn
      | on next =>
          dsimp only
          rw [ih next]
          constructor
          · intro spared last item reaches result stopped
            cases reaches with
            | here => cases turn.symm.trans stopped
            | later goes reaches =>
                cases turn.symm.trans goes
                exact spared last item reaches result stopped
          · intro spared last item reaches
            exact spared last item (.later turn reaches)

end Turn

end Ucanlab
