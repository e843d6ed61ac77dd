import Mathlib.Tactic.Linarith
import Mathlib.Tactic.Positivity
import Mathlib.Tactic.Ring
import Ucanlab.Lib.SlidingWindow

/-!
The monotonic token bucket of one transmit lane, over exact rationals.
-/

namespace Ucanlab.Safety

/-- The level stays between empty and the capacity. -/
structure TxBudget where
  capacity : Nat
  refillPerSec : ℚ
  tokens : ℚ
  lastRefillNs : Nat
  rate : 0 ≤ refillPerSec
  nonnegative : 0 ≤ tokens
  bounded : tokens ≤ capacity

theorem full_nonneg (capacity : Nat) : (0 : ℚ) ≤ capacity := Nat.cast_nonneg capacity

theorem full_bounded (capacity : Nat) : (capacity : ℚ) ≤ capacity := le_refl _

namespace TxBudget

def new (capacity : Nat) (refillPerSec : ℚ) (rate : 0 ≤ refillPerSec) (now : Nat) : TxBudget where
  capacity := capacity
  refillPerSec := refillPerSec
  tokens := capacity
  lastRefillNs := now
  rate := rate
  nonnegative := full_nonneg capacity
  bounded := full_bounded capacity

def gain (budget : TxBudget) (now : Nat) : ℚ :=
  ((now - budget.lastRefillNs : Nat) : ℚ) / 1000000000 * budget.refillPerSec

theorem gain_nonneg (budget : TxBudget) (now : Nat) : 0 ≤ budget.gain now := by
  have rate := budget.rate
  unfold gain
  positivity

/-- The level a call at `now` finds. -/
def levelAt (budget : TxBudget) (now : Nat) : ℚ :=
  min (budget.capacity : ℚ) (budget.tokens + budget.gain now)

theorem levelAt_nonneg (budget : TxBudget) (now : Nat) : 0 ≤ budget.levelAt now :=
  le_min (Nat.cast_nonneg _) (add_nonneg budget.nonnegative (budget.gain_nonneg now))

theorem levelAt_le (budget : TxBudget) (now : Nat) : budget.levelAt now ≤ budget.capacity :=
  min_le_left _ _

/-- A clock that has not advanced leaves level and reading alone. -/
def refill (budget : TxBudget) (now : Nat) : TxBudget :=
  if budget.lastRefillNs < now then
    { budget with
      tokens := budget.levelAt now
      lastRefillNs := now
      nonnegative := budget.levelAt_nonneg now
      bounded := budget.levelAt_le now }
  else budget

def spend (budget : TxBudget) (count : Nat) (enough : (count : ℚ) ≤ budget.tokens) : TxBudget :=
  { budget with
    tokens := budget.tokens - count
    nonnegative := sub_nonneg.mpr enough
    bounded := le_trans (sub_le_self _ (Nat.cast_nonneg count)) budget.bounded }

def tryConsume (budget : TxBudget) (now count : Nat) : TxBudget × Bool :=
  let filled := budget.refill now
  if enough : (count : ℚ) ≤ filled.tokens then (filled.spend count enough, true)
  else (filled, false)

def refund (budget : TxBudget) (count : Nat) : TxBudget :=
  { budget with
    tokens := min (budget.capacity : ℚ) (budget.tokens + count)
    nonnegative := le_min (Nat.cast_nonneg _) (add_nonneg budget.nonnegative (Nat.cast_nonneg _))
    bounded := min_le_left _ _ }

/-- Two buckets no later reading of the clock tells apart. -/
structure SameFrom (now : Nat) (left right : TxBudget) : Prop where
  capacity : left.capacity = right.capacity
  refillPerSec : left.refillPerSec = right.refillPerSec
  level : ∀ later, now ≤ later → left.levelAt later = right.levelAt later

theorem SameFrom.refl (now : Nat) (budget : TxBudget) : SameFrom now budget budget :=
  ⟨rfl, rfl, fun _ _ => rfl⟩

theorem SameFrom.trans {now : Nat} {left middle right : TxBudget}
    (first : SameFrom now left middle) (second : SameFrom now middle right) :
    SameFrom now left right :=
  ⟨first.capacity.trans second.capacity, first.refillPerSec.trans second.refillPerSec,
    fun later order => (first.level later order).trans (second.level later order)⟩

theorem SameFrom.mono {now later : Nat} {left right : TxBudget} (same : SameFrom now left right)
    (order : now ≤ later) : SameFrom later left right :=
  ⟨same.capacity, same.refillPerSec,
    fun reading after => same.level reading (Nat.le_trans order after)⟩

theorem gain_add (budget : TxBudget) {now later : Nat} (started : budget.lastRefillNs ≤ now)
    (order : now ≤ later) :
    budget.gain later =
      budget.gain now + ((later - now : Nat) : ℚ) / 1000000000 * budget.refillPerSec := by
  have split : later - budget.lastRefillNs = (now - budget.lastRefillNs) + (later - now) := by
    omega
  unfold gain
  rw [split, Nat.cast_add]
  ring

theorem refill_sameFrom (budget : TxBudget) (now : Nat) :
    SameFrom now (budget.refill now) budget := by
  unfold refill
  split
  · rename_i started
    refine ⟨rfl, rfl, ?_⟩
    intro later order
    have split := budget.gain_add (Nat.le_of_lt started) order
    have rest : 0 ≤ ((later - now : Nat) : ℚ) / 1000000000 * budget.refillPerSec := by
      have rate := budget.rate
      positivity
    change min (budget.capacity : ℚ) (budget.levelAt now +
        ((later - now : Nat) : ℚ) / 1000000000 * budget.refillPerSec) =
      min (budget.capacity : ℚ) (budget.tokens + budget.gain later)
    rw [split, levelAt]
    rcases le_total (budget.capacity : ℚ) (budget.tokens + budget.gain now) with full | room
    · rw [min_eq_left full, min_eq_left (by linarith), min_eq_left (by linarith)]
    · rw [min_eq_right room, add_assoc]
  · exact SameFrom.refl now budget

theorem refund_spend (budget : TxBudget) (count : Nat) (enough : (count : ℚ) ≤ budget.tokens) :
    (budget.spend count enough).refund count = budget := by
  have level : min (budget.capacity : ℚ) (budget.tokens - count + count) = budget.tokens := by
    rw [sub_add_cancel, min_eq_right budget.bounded]
  cases budget
  simp only [spend, refund, mk.injEq, true_and, and_true]
  exact level

theorem refund_tryConsume {budget after : TxBudget} {now count : Nat}
    (consumed : budget.tryConsume now count = (after, true)) :
    after.refund count = budget.refill now := by
  unfold tryConsume at consumed
  dsimp only at consumed
  split at consumed
  · rename_i enough
    cases consumed
    exact refund_spend _ _ enough
  · cases consumed

end TxBudget

end Ucanlab.Safety

/-!
What the rate stage charges: the window of the default lane, the window over
all lanes and the token bucket of each lane.
-/

namespace Ucanlab.Safety

open SlidingWindow

def maxTxRatePerSec : Nat := 100
def maxTotalTxPerSec : Nat := 400
def rateLimitWindowNs : Nat := 1000000000

inductive Lane where
  | diagnostic
  | calibration
  | protocolBurst
  | simulation
  | default
  deriving DecidableEq, Repr

def Lane.ofCategory (category : String) : Option Lane :=
  if category = "diagnostic" then some .diagnostic
  else if category = "calibration" then some .calibration
  else if category = "protocol_burst" then some .protocolBurst
  else if category = "simulation" then some .simulation
  else if category = "default" then some .default
  else none

def Lane.capacity : Lane → Nat
  | .diagnostic => 10
  | .calibration => 5
  | .protocolBurst => 255
  | .simulation => 500
  | .default => 100

def Lane.refillPerSec : Lane → Nat
  | .diagnostic => 10
  | .calibration => 5
  | .protocolBurst => 100
  | .simulation => 250
  | .default => 100

def Lane.newBudget (lane : Lane) (now : Nat) : TxBudget :=
  TxBudget.new lane.capacity lane.refillPerSec (Nat.cast_nonneg _) now

/-- Stamps carry the value of a counter that only grows. `budgetGeneration`
tells the buckets of different bus bindings apart. -/
structure TxLedger where
  txTimestamps : List Stamp
  txTotalTimestamps : List Stamp
  stampSeq : Nat
  budgets : Lane → TxBudget
  budgetGeneration : Nat
  laneNumbered : NumberedUpTo stampSeq txTimestamps
  totalNumbered : NumberedUpTo stampSeq txTotalTimestamps

inductive Meter where
  | window (stamp : Stamp)
  | bucket (lane : Lane) (generation : Nat)
  deriving DecidableEq, Repr

/-- One reservation, as `_rollback_tx_reservation` receives it. -/
structure Charge where
  totalStamp : Stamp
  meter : Meter
  deriving DecidableEq, Repr

namespace TxLedger

def new (now : Nat) : TxLedger where
  txTimestamps := []
  txTotalTimestamps := []
  stampSeq := 0
  budgets := fun lane => lane.newBudget now
  budgetGeneration := 0
  laneNumbered := NumberedUpTo.nil 0
  totalNumbered := NumberedUpTo.nil 0

def nextStamp (ledger : TxLedger) (now owner : Nat) : Stamp where
  time := now
  owner := owner
  seq := ledger.stampSeq + 1

def pruneTotal (ledger : TxLedger) (now : Nat) : TxLedger :=
  { ledger with
    txTotalTimestamps := prune rateLimitWindowNs now ledger.txTotalTimestamps
    totalNumbered := ledger.totalNumbered.prune }

def pruneLane (ledger : TxLedger) (now : Nat) : TxLedger :=
  { ledger with
    txTimestamps := prune rateLimitWindowNs now ledger.txTimestamps
    laneNumbered := ledger.laneNumbered.prune }

def reserveTotal (ledger : TxLedger) (now owner : Nat) : TxLedger :=
  { ledger with
    txTotalTimestamps := ledger.txTotalTimestamps ++ [ledger.nextStamp now owner]
    stampSeq := ledger.stampSeq + 1
    laneNumbered := ledger.laneNumbered.mono (Nat.le_succ _)
    totalNumbered := ledger.totalNumbered.append (Nat.le_succ _) (Nat.le_refl _) }

def reserveLane (ledger : TxLedger) (now owner : Nat) : TxLedger :=
  { ledger with
    txTimestamps := ledger.txTimestamps ++ [ledger.nextStamp now owner]
    stampSeq := ledger.stampSeq + 1
    laneNumbered := ledger.laneNumbered.append (Nat.le_succ _) (Nat.le_refl _)
    totalNumbered := ledger.totalNumbered.mono (Nat.le_succ _) }

def setBudget (ledger : TxLedger) (lane : Lane) (budget : TxBudget) : TxLedger :=
  { ledger with
    budgets := fun other => if other = lane then budget else ledger.budgets other }

def clearLane (ledger : TxLedger) : TxLedger :=
  { ledger with
    txTimestamps := []
    laneNumbered := NumberedUpTo.nil _ }

/-- A new bus starts with empty windows and full buckets. -/
def rebind (ledger : TxLedger) (now : Nat) : TxLedger :=
  { ledger with
    txTimestamps := []
    txTotalTimestamps := []
    budgets := fun lane => lane.newBudget now
    budgetGeneration := ledger.budgetGeneration + 1
    laneNumbered := NumberedUpTo.nil _
    totalNumbered := NumberedUpTo.nil _ }

def removeLane (ledger : TxLedger) (stamp : Stamp) : TxLedger :=
  { ledger with
    txTimestamps := ledger.txTimestamps.erase stamp
    laneNumbered := ledger.laneNumbered.erase stamp }

def removeTotal (ledger : TxLedger) (stamp : Stamp) : TxLedger :=
  { ledger with
    txTotalTimestamps := ledger.txTotalTimestamps.erase stamp
    totalNumbered := ledger.totalNumbered.erase stamp }

/-- Hands back one reservation: exactly its own stamps, and the token to the
bucket object it was taken from. -/
def rollback (ledger : TxLedger) (charge : Charge) : TxLedger :=
  let freed := ledger.removeTotal charge.totalStamp
  match charge.meter with
  | .window stamp => freed.removeLane stamp
  | .bucket lane generation =>
      if generation = freed.budgetGeneration then
        freed.setBudget lane ((freed.budgets lane).refund 1)
      else freed

end TxLedger

end Ucanlab.Safety
