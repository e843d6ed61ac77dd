import Ucanlab.Lib.SlidingWindow
import Ucanlab.Protocols.J1939.SenderPosition

/-!
The HOLD messages that a sender session accepts. The session counts those of one window, and forgets
them when the window has passed or a grant closes it.
-/

namespace Ucanlab.J1939

open J1939TransportProtocol EventRun WindowCount

structure CtsMessage where
  clock : Clock
  packetCount : UInt8
  nextSeq : UInt8

def CtsMessage.now (cts : CtsMessage) : Nat := cts.clock.session

def holdWidth : Nat := holdWindowNs + 1

/-- A session under way, the times of the HOLDs it accepted, and how many of the last ones were
accepted since its window was opened. -/
structure HoldRun where
  session : CmdtSenderSession
  clock : Nat
  accepted : List Nat := []
  counted : Nat := 0

namespace HoldRun

def opensWindow (session : CmdtSenderSession) (now : Nat) : Bool :=
  decide (session.holdWindowStart = 0 ∨ now - session.holdWindowStart > holdWindowNs)

def acceptsHold (session : CmdtSenderSession) (cts : CtsMessage) : Bool :=
  decide (cts.packetCount.toNat = 0 ∧ cts.nextSeq.toNat ≠ 0 ∧
    cts.nextSeq.toNat ≤ session.totalPackets ∧ cts.nextSeq.toNat ≤ session.nextSequence ∧
    session.holdsSoFar cts.now < maxHoldCts)

def stillCounted (hold : HoldRun) (now : Nat) : Nat :=
  if opensWindow hold.session now then 0 else hold.counted

def forgotten (hold : HoldRun) (now : Nat) : List Nat :=
  hold.accepted.take (hold.accepted.length - hold.stillCounted now)

def step (engine : J1939TransportProtocol) (hold : HoldRun) (cts : CtsMessage) : Option HoldRun :=
  if cts.now < hold.clock then none
  else
    ((receiveCts hold.session cts.clock cts.packetCount.toNat cts.nextSeq.toNat).leaves engine
        cts.clock.emission).map (fun session =>
      if acceptsHold hold.session cts then
        { session := session
          clock := cts.now
          accepted := hold.accepted ++ [cts.now]
          counted := hold.stillCounted cts.now + 1 }
      else { hold with session := session, clock := cts.now })

def roomForHold (hold : HoldRun) (cts : CtsMessage) : Prop :=
  acceptsHold hold.session cts = true →
    (recent holdWidth cts.now (hold.forgotten cts.now)).length + hold.stillCounted cts.now <
      maxHoldCts

instance (hold : HoldRun) (cts : CtsMessage) : Decidable (hold.roomForHold cts) :=
  inferInstanceAs (Decidable (_ → _))

structure Orderly (hold : HoldRun) : Prop where
  opened : hold.session.holdWindowStart ≤ hold.clock
  past : ∀ time ∈ hold.accepted, time ≤ hold.clock
  part : hold.counted ≤ hold.accepted.length
  inWindow : ∀ time ∈ hold.accepted.drop (hold.accepted.length - hold.counted),
    hold.session.holdWindowStart ≤ time

section Messages

variable {engine : J1939TransportProtocol} {session left : CmdtSenderSession} {cts : CtsMessage}

theorem holdSession_window {now : Nat} (within : session.holdsSoFar now < maxHoldCts) :
    ∃ held, holdSession session now = .held held ∧
      held.holdWindowStart = if opensWindow session now then now else session.holdWindowStart := by
  unfold CmdtSenderSession.holdsSoFar at within
  unfold holdSession opensWindow
  by_cases opens : session.holdWindowStart = 0 ∨ now - session.holdWindowStart > holdWindowNs
  · rw [if_pos opens, decide_eq_true opens]
    dsimp only
    rw [if_neg (by decide)]
    exact ⟨_, rfl, rfl⟩
  · rw [if_neg opens] at within
    rw [if_neg opens, decide_eq_false opens]
    dsimp only
    rw [if_neg (by omega)]
    exact ⟨_, rfl, rfl⟩

theorem receiveCts_window
    (leaves : (receiveCts session cts.clock cts.packetCount.toNat cts.nextSeq.toNat).leaves engine
      cts.clock.emission = some left) :
    left.holdWindowStart =
      if acceptsHold session cts then
        if opensWindow session cts.now then cts.now else session.holdWindowStart
      else 0 := by
  unfold receiveCts at leaves
  unfold acceptsHold
  split at leaves
  · cases leaves
  · rename_i possible
    split at leaves
    · cases leaves
    · split at leaves
      · rename_i hold
        by_cases within : session.holdsSoFar cts.now < maxHoldCts
        · obtain ⟨held, holds, window⟩ := holdSession_window within
          change (holdSession session cts.now).leaves engine cts.clock.emission = some left at leaves
          rw [holds] at leaves
          cases leaves
          rw [decide_eq_true ⟨hold, by omega, by omega, by omega, within⟩, if_pos rfl]
          exact window
        · rcases holdSession_eq session cts.now with ⟨aborted, -⟩ | ⟨below, -⟩
          · change (holdSession session cts.now).leaves engine cts.clock.emission =
              some left at leaves
            rw [aborted] at leaves
            cases leaves
          · exact absurd below within
      · rename_i grant
        rw [decide_eq_false (fun holds => grant holds.1), if_neg Bool.false_ne_true]
        split at leaves
        · cases leaves
        · cases leaves
          rfl

end Messages

section Steps

variable {engine : J1939TransportProtocol} {hold next : HoldRun} {cts : CtsMessage}

theorem step_spec (stepped : step engine hold cts = some next) :
    hold.clock ≤ cts.now ∧ next.clock = cts.now ∧
      if acceptsHold hold.session cts then
        next.session.holdWindowStart =
            (if opensWindow hold.session cts.now then cts.now
              else hold.session.holdWindowStart) ∧
          next.accepted = hold.accepted ++ [cts.now] ∧
          next.counted = hold.stillCounted cts.now + 1
      else next.session.holdWindowStart = 0 ∧ next.accepted = hold.accepted ∧
        next.counted = hold.counted := by
  unfold step at stepped
  split at stepped
  · cases stepped
  · rename_i later
    obtain ⟨left, leaves, built⟩ := Option.map_eq_some_iff.mp stepped
    have window := receiveCts_window leaves
    cases holds : acceptsHold hold.session cts with
    | true =>
        rw [holds, if_pos rfl] at built window
        rw [← built]
        exact ⟨Nat.le_of_not_lt later, rfl, window, rfl, rfl⟩
    | false =>
        rw [holds, if_neg Bool.false_ne_true] at built window
        rw [← built]
        exact ⟨Nat.le_of_not_lt later, rfl, window, rfl, rfl⟩

theorem stillCounted_le (orderly : hold.Orderly) (now : Nat) :
    hold.stillCounted now ≤ hold.accepted.length := by
  unfold stillCounted
  split
  · exact Nat.zero_le _
  · exact orderly.part

theorem stillCounted_recent (orderly : hold.Orderly) {now : Nat} :
    ∀ time ∈ hold.accepted.drop (hold.accepted.length - hold.stillCounted now),
      now < time + holdWidth := by
  intro time member
  unfold stillCounted at member
  cases opens : opensWindow hold.session now with
  | true =>
      rw [opens, if_pos rfl, Nat.sub_zero, List.drop_length] at member
      cases member
  | false =>
      rw [opens, if_neg Bool.false_ne_true] at member
      have late := orderly.inWindow time member
      have open_ := of_decide_eq_false opens
      unfold holdWidth
      omega

theorem Orderly.step (orderly : hold.Orderly) (stepped : HoldRun.step engine hold cts = some next) :
    next.Orderly := by
  obtain ⟨later, clock, change⟩ := step_spec stepped
  have opened := orderly.opened
  have earlier (time : Nat) (member : time ∈ hold.accepted) : time ≤ cts.now :=
    Nat.le_trans (orderly.past time member) later
  split at change
  · obtain ⟨window, accepted, counted⟩ := change
    have few := stillCounted_le orderly cts.now
    constructor
    case opened =>
      rw [window, clock]
      split
      · exact Nat.le_refl _
      · omega
    case past =>
      rw [accepted, clock]
      intro time member
      rcases List.mem_append.mp member with old | new
      · exact earlier time old
      · rw [List.mem_singleton.mp new]
    case part =>
      rw [accepted, counted, List.length_append, List.length_singleton]
      omega
    case inWindow =>
      rw [accepted, counted, List.length_append, List.length_singleton, window]
      rw [show hold.accepted.length + 1 - (hold.stillCounted cts.now + 1) =
        hold.accepted.length - hold.stillCounted cts.now by omega]
      rw [List.drop_append_of_le_length (by omega)]
      intro time member
      rcases List.mem_append.mp member with old | new
      · unfold stillCounted at old
        split
        · rename_i opens
          rw [opens, if_pos rfl, Nat.sub_zero, List.drop_length] at old
          cases old
        · rename_i open_
          rw [if_neg open_] at old
          exact orderly.inWindow time old
      · rw [List.mem_singleton.mp new]
        split
        · exact Nat.le_refl _
        · omega
  · obtain ⟨window, accepted, counted⟩ := change
    constructor
    case opened =>
      rw [window]
      exact Nat.zero_le _
    case past =>
      rw [accepted, clock]
      exact earlier
    case part =>
      rw [accepted, counted]
      exact orderly.part
    case inWindow =>
      rw [window]
      exact fun time _ => Nat.zero_le time

theorem step_bounded_iff (orderly : hold.Orderly)
    (bounded : Bounded holdWidth maxHoldCts hold.accepted)
    (stepped : HoldRun.step engine hold cts = some next) :
    Bounded holdWidth maxHoldCts next.accepted ↔ hold.roomForHold cts := by
  obtain ⟨later, -, change⟩ := step_spec stepped
  have past (time : Nat) (member : time ∈ hold.accepted) : time ≤ cts.now :=
    Nat.le_trans (orderly.past time member) later
  unfold roomForHold
  split at change
  · rename_i holds
    rw [change.2.1, bounded_append_iff past (by decide) bounded,
      recent_length_split (stillCounted_recent orderly) (stillCounted_le orderly cts.now)]
    exact ⟨fun room _ => room, fun room => room holds⟩
  · rename_i other
    rw [change.2.1]
    exact iff_of_true bounded (fun holds => absurd holds other)

theorem accepted_front {frames : List CtsMessage} {last : HoldRun}
    (ran : run (HoldRun.step engine) hold frames = some last) : hold.accepted <+: last.accepted := by
  refine @run_invariant _ _ _ (fun state : HoldRun => hold.accepted <+: state.accepted) ?_ _ _ _
    (List.prefix_refl hold.accepted) ran
  intro state cts next start stepped
  obtain ⟨-, -, change⟩ := step_spec stepped
  split at change
  · rw [change.2.1]
    exact start.trans (List.prefix_append ..)
  · rw [change.2.1]
    exact start

end Steps

def start (session : CmdtSenderSession) (clock : Nat) : HoldRun where
  session := session
  clock := clock

theorem start_orderly {session : CmdtSenderSession} {clock : Nat}
    (opened : session.holdWindowStart ≤ clock) : (start session clock).Orderly where
  opened := opened
  past := fun _ absent => absurd absent List.not_mem_nil
  part := Nat.le_refl 0
  inWindow := fun _ absent => absurd absent List.not_mem_nil

end HoldRun

def heldSession : CmdtSenderSession where
  sourceAddress := 0xF9
  destinationAddress := 0
  targetPgn := 0xEF00
  totalBytes := 20
  totalPackets := 3
  data := List.replicate 20 0
  channel := ⟨"can0", can0_valid⟩
  lastActivityTime := 0

def senderEngine : J1939TransportProtocol := .fresh 0xF9 ⟨"can0", can0_valid⟩ 0

def ctsAt (now : Nat) (packetCount nextSeq : UInt8) : CtsMessage :=
  ⟨.at now, packetCount, nextSeq⟩

def grantBetween : List CtsMessage :=
  [ctsAt 1000000000 0 1, ctsAt 1500000000 1 1, ctsAt 2000000000 0 2]

def windowEdge : List CtsMessage :=
  ctsAt 1000000000 0 1 :: (List.replicate 7 (ctsAt 2900000000 0 1) ++
    List.replicate 8 (ctsAt 3100000000 0 1))

end Ucanlab.J1939
