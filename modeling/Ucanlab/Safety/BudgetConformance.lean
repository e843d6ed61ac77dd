import Ucanlab.Lib.TokenBucket
import Ucanlab.Safety.TxBudget

/-!
The token bucket of a lane under a clock with rational readings, and what its runs hand out in any
interval of time. The clock with integer readings is a special case.
-/

namespace Ucanlab.Safety

open TokenBucket

/-- `TxBudget`, where the readings of the clock are in rational nanoseconds. Capacity and rate stay
as they are made. -/
structure RationalBudget (capacity : Nat) (refillPerSec : ℚ) where
  tokens : ℚ
  lastRefillNs : ℚ
  rate : 0 ≤ refillPerSec
  nonnegative : 0 ≤ tokens
  bounded : tokens ≤ capacity

namespace RationalBudget

variable {capacity : Nat} {refillPerSec : ℚ}

def new (capacity : Nat) (refillPerSec : ℚ) (rate : 0 ≤ refillPerSec) (now : ℚ) :
    RationalBudget capacity refillPerSec where
  tokens := capacity
  lastRefillNs := now
  rate := rate
  nonnegative := full_nonneg capacity
  bounded := full_bounded capacity

def gain (budget : RationalBudget capacity refillPerSec) (now : ℚ) : ℚ :=
  max 0 (now - budget.lastRefillNs) / 1000000000 * refillPerSec

theorem gain_nonneg (budget : RationalBudget capacity refillPerSec) (now : ℚ) : 0 ≤ budget.gain now := by
  have passed := le_max_left 0 (now - budget.lastRefillNs)
  have rate := budget.rate
  unfold gain
  positivity

/-- The level a call at `now` finds. -/
def levelAt (budget : RationalBudget capacity refillPerSec) (now : ℚ) : ℚ :=
  min (capacity : ℚ) (budget.tokens + budget.gain now)

theorem levelAt_nonneg (budget : RationalBudget capacity refillPerSec) (now : ℚ) : 0 ≤ budget.levelAt now :=
  le_min (Nat.cast_nonneg _) (add_nonneg budget.nonnegative (budget.gain_nonneg now))

theorem levelAt_le (budget : RationalBudget capacity refillPerSec) (now : ℚ) : budget.levelAt now ≤ capacity :=
  min_le_left _ _

def refill (budget : RationalBudget capacity refillPerSec) (now : ℚ) :
    RationalBudget capacity refillPerSec :=
  if (now - budget.lastRefillNs) / 1000000000 > 0 then
    { budget with
      tokens := budget.levelAt now
      lastRefillNs := now
      nonnegative := budget.levelAt_nonneg now
      bounded := budget.levelAt_le now }
  else budget

def spend (budget : RationalBudget capacity refillPerSec) (count : Nat) (enough : (count : ℚ) ≤ budget.tokens) :
    RationalBudget capacity refillPerSec :=
  { budget with
    tokens := budget.tokens - count
    nonnegative := sub_nonneg.mpr enough
    bounded := le_trans (sub_le_self _ (Nat.cast_nonneg count)) budget.bounded }

/-- `try_consume`. -/
def tryConsume (budget : RationalBudget capacity refillPerSec) (now : ℚ) (count : Nat) :
    RationalBudget capacity refillPerSec × Bool :=
  let filled := budget.refill now
  if enough : (count : ℚ) ≤ filled.tokens then (filled.spend count enough, true)
  else (filled, false)

/-- `refund`. -/
def refund (budget : RationalBudget capacity refillPerSec) (count : Nat) :
    RationalBudget capacity refillPerSec :=
  { budget with
    tokens := min (capacity : ℚ) (budget.tokens + count)
    nonnegative := le_min (Nat.cast_nonneg _) (add_nonneg budget.nonnegative (Nat.cast_nonneg _))
    bounded := min_le_left _ _ }

theorem refill_tokens (budget : RationalBudget capacity refillPerSec) (now : ℚ) :
    (budget.refill now).tokens = budget.levelAt now := by
  unfold refill
  split
  · rfl
  next still =>
    have passed : max 0 (now - budget.lastRefillNs) = 0 :=
      max_eq_left (by
        by_contra ahead
        exact still (div_pos (not_le.mp ahead) (by norm_num)))
    unfold levelAt gain
    rw [passed, zero_div, zero_mul, add_zero, min_eq_right budget.bounded]

theorem refill_last (budget : RationalBudget capacity refillPerSec) (now : ℚ) :
    now ≤ (budget.refill now).lastRefillNs := by
  unfold refill
  split
  · exact le_refl now
  next still =>
    by_contra ahead
    exact still (div_pos (sub_pos.mpr (not_le.mp ahead)) (by norm_num))

theorem levelAt_of_le {budget : RationalBudget capacity refillPerSec} {now : ℚ} (order : now ≤ budget.lastRefillNs) :
    budget.levelAt now = budget.tokens := by
  unfold levelAt gain
  rw [max_eq_left (sub_nonpos.mpr order), zero_div, zero_mul, add_zero, min_eq_right budget.bounded]

end RationalBudget

section Conformance

variable {capacity : Nat} {refillPerSec : ℚ}

namespace RationalBudget

theorem gain_later (budget : RationalBudget capacity refillPerSec) {now later : ℚ}
    (order : now ≤ later) :
    budget.gain later ≤ budget.gain now + refillPerSec / 1000000000 * (later - now) := by
  have passed : max 0 (later - budget.lastRefillNs) ≤
      max 0 (now - budget.lastRefillNs) + (later - now) := by
    refine max_le ?_ ?_
    · have started := le_max_left 0 (now - budget.lastRefillNs)
      linarith
    · have started := le_max_right 0 (now - budget.lastRefillNs)
      linarith
  have rate : 0 ≤ refillPerSec / 1000000000 := div_nonneg budget.rate (by norm_num)
  calc budget.gain later
      = refillPerSec / 1000000000 * max 0 (later - budget.lastRefillNs) := by unfold gain; ring
    _ ≤ refillPerSec / 1000000000 *
          (max 0 (now - budget.lastRefillNs) + (later - now)) := mul_le_mul_of_nonneg_left passed rate
    _ = budget.gain now + refillPerSec / 1000000000 * (later - now) := by unfold gain; ring

theorem levelAt_later (budget : RationalBudget capacity refillPerSec) {now later : ℚ}
    (order : now ≤ later) :
    budget.levelAt later ≤ budget.levelAt now + refillPerSec / 1000000000 * (later - now) := by
  have gained := budget.gain_later order
  have more : 0 ≤ refillPerSec / 1000000000 * (later - now) :=
    mul_nonneg (div_nonneg budget.rate (by norm_num)) (sub_nonneg.mpr order)
  unfold levelAt
  rw [← min_add_add_right]
  refine le_min ?_ ?_
  · exact (min_le_left _ _).trans (le_add_of_nonneg_right more)
  · exact (min_le_right _ _).trans (by linarith)

theorem levelAt_tryConsume (budget : RationalBudget capacity refillPerSec) (now : ℚ) (count : Nat) :
    (budget.tryConsume now count).1.levelAt now +
      (if (budget.tryConsume now count).2 then (count : ℚ) else 0) ≤ budget.levelAt now := by
  have started := budget.refill_last now
  have tokens := budget.refill_tokens now
  unfold tryConsume
  dsimp only
  split
  next enough =>
    have spent : ((budget.refill now).spend count enough).levelAt now =
        (budget.refill now).tokens - count := levelAt_of_le started
    rw [spent, tokens, if_pos rfl, sub_add_cancel]
  next =>
    rw [levelAt_of_le started, tokens, if_neg Bool.false_ne_true, add_zero]

theorem levelAt_refund (budget : RationalBudget capacity refillPerSec) (count : Nat) (now : ℚ) :
    (budget.refund count).levelAt now ≤ budget.levelAt now + count := by
  have counted : (0 : ℚ) ≤ count := Nat.cast_nonneg count
  have capped : (budget.refund count).tokens ≤ budget.tokens + count := min_le_right _ _
  have gained : (budget.refund count).gain now = budget.gain now := rfl
  unfold levelAt
  rw [gained, ← min_add_add_right]
  refine le_min ?_ ?_
  · exact (min_le_left _ _).trans (le_add_of_nonneg_right counted)
  · exact (min_le_right _ _).trans (by linarith)

end RationalBudget

def laneMeter (capacity : Nat) (refillPerSec : ℚ) :
    TokenBucket.Meter ℚ (RationalBudget capacity refillPerSec) where
  take := RationalBudget.tryConsume
  give := RationalBudget.refund

theorem laneMeter_leveled :
    Leveled (laneMeter capacity refillPerSec) RationalBudget.levelAt capacity
      (refillPerSec / 1000000000) where
  nonneg := RationalBudget.levelAt_nonneg
  capped := RationalBudget.levelAt_le
  elapse := fun budget _ _ order => budget.levelAt_later order
  take := RationalBudget.levelAt_tryConsume
  give := fun budget now count => budget.levelAt_refund count now

end Conformance

/-- A new bucket, of which nothing was consumed yet. -/
def opened {Token : Type} (capacity : Nat) (refillPerSec : ℚ) (rate : 0 ≤ refillPerSec) (now : ℚ) :
    Books ℚ (RationalBudget capacity refillPerSec) Token where
  state := RationalBudget.new capacity refillPerSec rate now
  now := now

/-- In any interval the tokens consumed and never refunded number at most the capacity, what the
interval refills, and the tokens consumed before it that are refunded in it. -/
theorem consumed_in_interval {Token : Type} [DecidableEq Token] (capacity : Nat) (refillPerSec : ℚ)
    (rate : 0 ≤ refillPerSec) (created : ℚ) (events : List (TokenBucket.Event ℚ Token))
    (last : Books ℚ (RationalBudget capacity refillPerSec) Token)
    (ran : EventRun.run (TokenBucket.step (laneMeter capacity refillPerSec))
      (opened capacity refillPerSec rate created) events = some last)
    (start finish : ℚ) (order : start ≤ finish) :
    (last.unreturned start finish : ℚ) ≤
      capacity + refillPerSec * ((finish - start) / 1000000000) + last.late start finish := by
  have bound := laneMeter_leveled.unreturned_le ran ⟨rfl, rfl⟩ order
  have unit : refillPerSec / 1000000000 * (finish - start) =
      refillPerSec * ((finish - start) / 1000000000) := by ring
  rwa [unit] at bound

def lateRefund : List (TokenBucket.Event ℚ Nat) :=
  [⟨0, .take [0]⟩, ⟨1000000000, .take [1]⟩, ⟨1000000000, .give [0]⟩, ⟨1000000000, .take [2]⟩]

def lateRefundBooks : Option (Books ℚ (RationalBudget 1 1) Nat) :=
  EventRun.run (TokenBucket.step (laneMeter 1 1)) (opened 1 1 (by decide) 0) lateRefund

/-- A bucket of one token hands out two at one moment, and neither is refunded. -/
theorem late_refund_exceeds :
    lateRefundBooks.map (fun last => last.unreturned 1000000000 1000000000) = some 2 ∧
      ¬ ((2 : ℚ) ≤ (1 : Nat) + 1 * ((1000000000 - 1000000000) / 1000000000)) := by
  decide +kernel

theorem consumed_in_interval_late : ∃ last, lateRefundBooks = some last ∧
    (last.unreturned 1000000000 1000000000 : ℚ) ≤
      (1 : Nat) + 1 * ((1000000000 - 1000000000) / 1000000000) +
        last.late 1000000000 1000000000 := by
  obtain ⟨last, ran⟩ := Option.isSome_iff_exists.mp
    (show lateRefundBooks.isSome = true by decide +kernel)
  exact ⟨last, ran, consumed_in_interval 1 1 (by decide) 0 lateRefund last ran 1000000000 1000000000
    (le_refl _)⟩

end Ucanlab.Safety
