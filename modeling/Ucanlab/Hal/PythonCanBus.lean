import Mathlib.Data.List.Induction
import Ucanlab.Core.CanFrame

/-!
The receiving side of the hardware driver: what one read of the vendor's bus does to the metrics, and
when the state it shows is that of a bus that went off. Timeouts, the lifecycle lock and timestamps
are left out.
-/

namespace Ucanlab.Hal.PythonCanBus

open Ucanlab

inductive BusState where
  | active
  | passive
  | busOff
  | disconnected
  | error
  | stopped
  deriving DecidableEq, Repr

inductive BackendState where
  | active
  | passive
  | error
  deriving DecidableEq, Repr

structure Message where
  arbitrationId : Nat
  dlc : Option Nat
  data : Bytes
  isErrorFrame : Bool := false
  isRemoteFrame : Bool := false
  isExtendedId : Bool := false
  isFd : Bool := false
  bitrateSwitch : Bool := false
  errorStateIndicator : Bool := false
  deriving DecidableEq

/-- What the vendor's `recv` answers: it raises, the time runs out, or there is a message, together
with the state that the backend reports then, if it has one. -/
inductive Answer where
  | raised
  | nothing
  | message (message : Message) (backend : Option BackendState)
  deriving DecidableEq

structure BusMetrics where
  rxFrames : Nat := 0
  errorFrames : Nat := 0
  rtrFrames : Nat := 0
  state : BusState

structure Bus where
  channelId : String
  listenOnly : Bool
  consecutiveErrorFrames : Nat := 0
  metrics : BusMetrics

def errorFramesBusOffThreshold : Nat := 128

def workingState (listenOnly : Bool) : BusState := if listenOnly then .passive else .active

/-- A new bus after `connect`. -/
def connect (channelId : String) (listenOnly : Bool) : Bus where
  channelId := channelId
  listenOnly := listenOnly
  metrics := { state := workingState listenOnly }

def frameOf (channelId : String) (message : Message) : Except FrameError CanFrame :=
  let dlc : Except FrameError Nat :=
    match message.dlc with
    | some dlc => .ok dlc
    | none => lengthToDlc message.data.length
  dlc.bind (fun dlc =>
    (dlcToLength dlc).bind (fun expectedLen =>
      CanFrame.new {
        channelId := channelId
        arbitrationId := message.arbitrationId
        dlc := dlc
        data := message.data ++ List.replicate (expectedLen - message.data.length) 0x00
        isExtended := message.isExtendedId
        isFd := message.isFd
        brs := message.bitrateSwitch
        esi := message.errorStateIndicator
        direction := .rx
        source := .physical }))

inductive HardwareError where
  | readError
  deriving DecidableEq

def Bus.countError (bus : Bus) : Bus :=
  { bus with metrics := { bus.metrics with errorFrames := bus.metrics.errorFrames + 1 } }

def Bus.setState (bus : Bus) (state : BusState) : Bus :=
  { bus with metrics := { bus.metrics with state := state } }

def Bus.errorFrame (bus : Bus) : Bus :=
  let bus := { bus.countError with consecutiveErrorFrames := bus.consecutiveErrorFrames + 1 }
  if bus.consecutiveErrorFrames ≥ errorFramesBusOffThreshold then bus.setState .busOff else bus

def Bus.remoteFrame (bus : Bus) : Bus :=
  { bus with metrics := { bus.metrics with rtrFrames := bus.metrics.rtrFrames + 1 } }

def Bus.recover (bus : Bus) : Bus :=
  if bus.consecutiveErrorFrames > 0 then
    let bus := { bus with consecutiveErrorFrames := 0 }
    if bus.metrics.state = .busOff then bus.setState (workingState bus.listenOnly) else bus
  else bus

def Bus.dataFrame (bus : Bus) (backend : Option BackendState) : Bus :=
  let bus := bus.recover
  let bus := { bus with metrics := { bus.metrics with rxFrames := bus.metrics.rxFrames + 1 } }
  if backend = some .error then bus.setState .busOff else bus

def recv (bus : Bus) : Answer → Except HardwareError (Option CanFrame) × Bus
  | .raised => (.error .readError, bus.countError)
  | .nothing => (.ok none, bus)
  | .message received backend =>
      if received.isErrorFrame then (.ok none, bus.errorFrame)
      else if received.isRemoteFrame then (.ok none, bus.remoteFrame)
      else
        let bus := bus.dataFrame backend
        match frameOf bus.channelId received with
        | .ok frame => (.ok (some frame), bus)
        | .error _ => (.ok none, bus.countError)

def after (bus : Bus) (answers : List Answer) : Bus :=
  answers.foldl (fun bus answer => (recv bus answer).2) bus

section Evidence

def Answer.observes : Answer → Option (Option BackendState)
  | .message received backend =>
      if received.isErrorFrame ∨ received.isRemoteFrame then none else some backend
  | _ => none

def Answer.isErrorFrame : Answer → Bool
  | .message received _ => received.isErrorFrame
  | _ => false

def lastObserved (answers : List Answer) : Option BackendState :=
  answers.foldl (fun last answer => answer.observes.getD last) none

def errorsSince (answers : List Answer) : Nat :=
  answers.foldl (fun count answer =>
    if answer.observes.isSome then 0 else if answer.isErrorFrame then count + 1 else count) 0

def FollowsEvidence (answers : List Answer) (bus : Bus) : Prop :=
  bus.metrics.state = .busOff →
    lastObserved answers = some .error ∨ errorFramesBusOffThreshold ≤ errorsSince answers

/-- The next answer is a data frame without an error of the backend, the last data frame came with
one, and no error frame lies between them. -/
def Unnoticed (answers : List Answer) (answer : Answer) : Prop :=
  (∃ backend, answer.observes = some backend ∧ backend ≠ some .error) ∧
    lastObserved answers = some .error ∧ errorsSince answers = 0

structure Tracks (answers : List Answer) (bus : Bus) : Prop where
  window : bus.consecutiveErrorFrames = errorsSince answers
  reported : lastObserved answers = some .error → bus.metrics.state = .busOff

end Evidence

section Steps

variable {answers : List Answer} {bus : Bus}

theorem lastObserved_append (answers : List Answer) (answer : Answer) :
    lastObserved (answers ++ [answer]) = answer.observes.getD (lastObserved answers) :=
  List.foldl_append

theorem errorsSince_append (answers : List Answer) (answer : Answer) :
    errorsSince (answers ++ [answer]) =
      if answer.observes.isSome then 0
      else if answer.isErrorFrame then errorsSince answers + 1 else errorsSince answers :=
  List.foldl_append

theorem after_append (bus : Bus) (answers : List Answer) (answer : Answer) :
    after bus (answers ++ [answer]) = (recv (after bus answers) answer).2 := List.foldl_append

inductive Effect (bus : Bus) (answer : Answer) : Prop where
  | data (backend : Option BackendState) (observes : answer.observes = some backend)
      (window : (recv bus answer).2.consecutiveErrorFrames = 0)
      (state : (recv bus answer).2.metrics.state =
        if backend = some .error then .busOff
        else if 0 < bus.consecutiveErrorFrames ∧ bus.metrics.state = .busOff then
          workingState bus.listenOnly
        else bus.metrics.state)
  | error (observes : answer.observes = none) (isError : answer.isErrorFrame = true)
      (window : (recv bus answer).2.consecutiveErrorFrames = bus.consecutiveErrorFrames + 1)
      (state : (recv bus answer).2.metrics.state =
        if errorFramesBusOffThreshold ≤ bus.consecutiveErrorFrames + 1 then .busOff
        else bus.metrics.state)
  | idle (observes : answer.observes = none) (noError : answer.isErrorFrame = false)
      (window : (recv bus answer).2.consecutiveErrorFrames = bus.consecutiveErrorFrames)
      (state : (recv bus answer).2.metrics.state = bus.metrics.state)

theorem Bus.errorFrame_window (bus : Bus) :
    bus.errorFrame.consecutiveErrorFrames = bus.consecutiveErrorFrames + 1 := by
  unfold Bus.errorFrame
  dsimp only
  split
  · rfl
  · rfl

theorem Bus.errorFrame_state (bus : Bus) :
    bus.errorFrame.metrics.state =
      if errorFramesBusOffThreshold ≤ bus.consecutiveErrorFrames + 1 then .busOff
      else bus.metrics.state := by
  unfold Bus.errorFrame
  exact apply_ite (fun bus : Bus => bus.metrics.state) ..

theorem Bus.recover_window (bus : Bus) : bus.recover.consecutiveErrorFrames = 0 := by
  unfold Bus.recover
  by_cases errors : bus.consecutiveErrorFrames > 0
  · rw [if_pos errors]
    dsimp only
    split
    · rfl
    · rfl
  · rw [if_neg errors]
    exact Nat.eq_zero_of_not_pos errors

theorem Bus.recover_state (bus : Bus) :
    bus.recover.metrics.state =
      if 0 < bus.consecutiveErrorFrames ∧ bus.metrics.state = .busOff then
        workingState bus.listenOnly
      else bus.metrics.state := by
  unfold Bus.recover
  by_cases errors : bus.consecutiveErrorFrames > 0
  · rw [if_pos errors]
    dsimp only
    by_cases off : bus.metrics.state = .busOff
    · rw [if_pos off, if_pos ⟨errors, off⟩]
      rfl
    · rw [if_neg off, if_neg (fun both => off both.2)]
  · rw [if_neg errors, if_neg (fun both => errors both.1)]

theorem Bus.dataFrame_window (bus : Bus) (backend : Option BackendState) :
    (bus.dataFrame backend).consecutiveErrorFrames = 0 := by
  unfold Bus.dataFrame
  dsimp only
  split
  · exact bus.recover_window
  · exact bus.recover_window

theorem Bus.dataFrame_state (bus : Bus) (backend : Option BackendState) :
    (bus.dataFrame backend).metrics.state =
      if backend = some .error then .busOff
      else if 0 < bus.consecutiveErrorFrames ∧ bus.metrics.state = .busOff then
        workingState bus.listenOnly
      else bus.metrics.state := by
  unfold Bus.dataFrame
  rw [← Bus.recover_state]
  exact apply_ite (fun bus : Bus => bus.metrics.state) ..

theorem recv_effect (bus : Bus) (answer : Answer) : Effect bus answer := by
  cases answer with
  | raised => exact .idle rfl rfl rfl rfl
  | nothing => exact .idle rfl rfl rfl rfl
  | message received backend =>
      by_cases isError : received.isErrorFrame = true
      · have reads : recv bus (.message received backend) = (.ok none, bus.errorFrame) := if_pos isError
        refine .error (if_pos (Or.inl isError)) isError ?_ ?_
        · rw [reads]
          exact bus.errorFrame_window
        · rw [reads]
          exact bus.errorFrame_state
      · by_cases remote : received.isRemoteFrame = true
        · have reads : recv bus (.message received backend) = (.ok none, bus.remoteFrame) :=
            (if_neg isError).trans (if_pos remote)
          refine .idle (if_pos (Or.inr remote)) (Bool.eq_false_of_not_eq_true isError) ?_ ?_
          · rw [reads]
            rfl
          · rw [reads]
            rfl
        · have plain : ¬(received.isErrorFrame = true ∨ received.isRemoteFrame = true) :=
            fun either => either.elim isError remote
          have reads : (recv bus (.message received backend)).2 = bus.dataFrame backend ∨
              (recv bus (.message received backend)).2 = (bus.dataFrame backend).countError := by
            have branch : recv bus (.message received backend) =
                match frameOf (bus.dataFrame backend).channelId received with
                | .ok frame => (.ok (some frame), bus.dataFrame backend)
                | .error _ => (.ok none, (bus.dataFrame backend).countError) :=
              (if_neg isError).trans (if_neg remote)
            rw [branch]
            split
            · exact Or.inl rfl
            · exact Or.inr rfl
          refine .data backend (if_neg plain) ?_ ?_
          · rcases reads with same | counted
            · rw [same]
              exact bus.dataFrame_window backend
            · rw [counted]
              exact bus.dataFrame_window backend
          · rcases reads with same | counted
            · rw [same]
              exact bus.dataFrame_state backend
            · rw [counted]
              exact bus.dataFrame_state backend

theorem workingState_ne_busOff (listenOnly : Bool) : workingState listenOnly ≠ .busOff := by
  cases listenOnly <;> exact nofun

theorem Tracks.recv (tracks : Tracks answers bus) (answer : Answer) :
    Tracks (answers ++ [answer]) (recv bus answer).2 := by
  cases recv_effect bus answer with
  | data backend observes window state =>
      constructor
      · rw [window, errorsSince_append, observes]
        rfl
      · intro reported
        rw [lastObserved_append, observes] at reported
        rw [state]
        exact if_pos reported
  | error observes isError window state =>
      constructor
      · rw [window, errorsSince_append, observes, isError, tracks.window]
        rfl
      · intro reported
        rw [lastObserved_append, observes] at reported
        rw [state, tracks.reported reported, ite_self]
  | idle observes noError window state =>
      constructor
      · rw [window, errorsSince_append, observes, noError, tracks.window]
        rfl
      · intro reported
        rw [lastObserved_append, observes] at reported
        rw [state, tracks.reported reported]

theorem FollowsEvidence.recv (tracks : Tracks answers bus) (follows : FollowsEvidence answers bus)
    {answer : Answer} (noticed : ¬Unnoticed answers answer) :
    FollowsEvidence (answers ++ [answer]) (recv bus answer).2 := by
  intro off
  cases recv_effect bus answer with
  | data backend observes window state =>
      rw [lastObserved_append, observes]
      by_cases reported : backend = some .error
      · exact Or.inl reported
      · exfalso
        rw [state, if_neg reported] at off
        by_cases errors : 0 < bus.consecutiveErrorFrames ∧ bus.metrics.state = .busOff
        · rw [if_pos errors] at off
          exact workingState_ne_busOff bus.listenOnly off
        · rw [if_neg errors] at off
          have none : errorsSince answers = 0 := by
            rw [← tracks.window]
            exact Nat.eq_zero_of_not_pos (fun some => errors ⟨some, off⟩)
          rcases follows off with last | many
          · exact noticed ⟨⟨backend, observes, reported⟩, last, none⟩
          · rw [none] at many
            exact absurd many (by decide)
  | error observes isError window state =>
      rw [lastObserved_append, errorsSince_append, observes, isError, ← tracks.window]
      rw [state] at off
      by_cases many : errorFramesBusOffThreshold ≤ bus.consecutiveErrorFrames + 1
      · exact Or.inr many
      · rw [if_neg many] at off
        rcases follows off with last | enough
        · exact Or.inl last
        · rw [← tracks.window] at enough
          exact Or.inr (Nat.le_succ_of_le enough)
  | idle observes noError window state =>
      rw [lastObserved_append, errorsSince_append, observes, noError]
      exact follows (state ▸ off)

theorem Unnoticed.not_followsEvidence (tracks : Tracks answers bus) {answer : Answer}
    (unnoticed : Unnoticed answers answer) :
    ¬FollowsEvidence (answers ++ [answer]) (recv bus answer).2 := by
  obtain ⟨⟨backend, observes, reported⟩, last, none⟩ := unnoticed
  intro follows
  cases recv_effect bus answer with
  | data other observes' window state =>
      rw [observes] at observes'
      cases observes'
      have off : (recv bus answer).2.metrics.state = .busOff := by
        rw [state, if_neg reported, tracks.window, none, if_neg (fun both => Nat.lt_irrefl 0 both.1)]
        exact tracks.reported last
      rcases follows off with seen | many
      · rw [lastObserved_append, observes] at seen
        exact reported seen
      · rw [errorsSince_append, observes, if_pos (Option.isSome_some)] at many
        exact absurd many (by decide)
  | error observes' => exact nomatch observes.symm.trans observes'
  | idle observes' => exact nomatch observes.symm.trans observes'

end Steps

section Runs

theorem tracks_connect (channelId : String) (listenOnly : Bool) :
    Tracks [] (connect channelId listenOnly) := ⟨rfl, nofun⟩

theorem tracks_after (channelId : String) (listenOnly : Bool) (answers : List Answer) :
    Tracks answers (after (connect channelId listenOnly) answers) := by
  induction answers using List.reverseRecOn with
  | nil => exact tracks_connect channelId listenOnly
  | append_singleton past answer ih =>
      rw [after_append]
      exact ih.recv answer

/-- All along a run the state follows the evidence, exactly where no error of the backend goes away
without an error frame in between. -/
theorem followsEvidence_iff (channelId : String) (listenOnly : Bool) (answers : List Answer) :
    (∀ front back, answers = front ++ back →
        FollowsEvidence front (after (connect channelId listenOnly) front)) ↔
      ∀ front answer back, answers = front ++ answer :: back → ¬Unnoticed front answer := by
  constructor
  · intro throughout front answer back split unnoticed
    have later := throughout (front ++ [answer]) back (by rw [split, List.append_assoc]; rfl)
    rw [after_append] at later
    exact unnoticed.not_followsEvidence (tracks_after channelId listenOnly front) later
  · intro noticed front
    induction front using List.reverseRecOn with
    | nil =>
        intro _ _ off
        exact absurd off (workingState_ne_busOff listenOnly)
    | append_singleton past answer ih =>
        intro back split
        have whole : answers = past ++ answer :: back := by
          rw [split, List.append_assoc]
          rfl
        rw [after_append]
        exact (ih _ whole).recv (tracks_after channelId listenOnly past)
          (noticed past answer back whole)

/-- Two data frames, the first with an error of the backend and the second without. -/
theorem recovered_backend_off :
    ¬FollowsEvidence
      [.message ⟨0x123, some 0, [], false, false, false, false, false, false⟩ (some .error),
        .message ⟨0x123, some 0, [], false, false, false, false, false, false⟩ (some .active)]
      (after (connect "pcan_0" false)
        [.message ⟨0x123, some 0, [], false, false, false, false, false, false⟩ (some .error),
          .message ⟨0x123, some 0, [], false, false, false, false, false, false⟩
            (some .active)]) := by
  intro follows
  exact absurd (follows (by decide)) (by decide)

end Runs

end Ucanlab.Hal.PythonCanBus
