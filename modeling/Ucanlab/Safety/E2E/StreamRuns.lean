import Ucanlab.Lib.EventRun
import Ucanlab.Safety.E2E.StreamTable

/-!
The receiver over whole runs: which frame an evicted stream, a frame in order and a
repeated counter are judged by.
-/

namespace Ucanlab.Safety.E2E

open Ucanlab EventRun

section Verdicts

variable {profile : E2EProfileConfig} {state : StreamRxState} {key : StreamKey} {data : Bytes}
  {dlc timestampNs previous counter delta : Nat} {verdict : E2EStatus}

theorem progression_ok (progress : progression profile previous counter = (.ok, delta)) :
    ((counter : Int) - previous) % profile.counterModulo = 1 := by
  unfold progression at progress
  dsimp only at progress
  split at progress
  · omega
  · split at progress
    · cases progress
    · split at progress
      · cases progress
      · cases progress

theorem progression_repeated
    (same : ((counter : Int) - previous) % profile.counterModulo = 0) :
    progression profile previous counter = (.repeated, 0) := by
  unfold progression
  rw [same]
  rfl

theorem progression_verdict (progress : progression profile previous counter = (verdict, delta)) :
    verdict = .ok ∨ verdict = .repeated ∨ verdict = .someLost ∨ verdict = .wrongSequence := by
  unfold progression at progress
  dsimp only at progress
  split at progress
  · cases progress
    exact Or.inl rfl
  · split at progress
    · cases progress
      exact Or.inr (Or.inl rfl)
    · split at progress
      · cases progress
        exact Or.inr (Or.inr (Or.inl rfl))
      · cases progress
        exact Or.inr (Or.inr (Or.inr rfl))

inductive Examined (state : StreamRxState) (data : Bytes) (profile : E2EProfileConfig)
    (next : StreamRxState) (answer : Except PackageError E2EValidationResult) : Prop where
  | kept (same : next.lastCounter = state.lastCounter)
      (unusable : ∀ result, answer = .ok result →
        result.verdict = .lengthError ∨ result.verdict = .crcError ∨ result.verdict = .repeated)
  | first (counter : Nat) (result : E2EValidationResult) (answered : answer = .ok result)
      (unseen : state.lastCounter = none) (read : extractCounter data profile = .ok counter)
      (taken : next.lastCounter = some counter) (initial : result.verdict = .initial)
  | counted (previous counter delta : Nat) (result : E2EValidationResult)
      (answered : answer = .ok result) (seen : state.lastCounter = some previous)
      (read : extractCounter data profile = .ok counter)
      (taken : next.lastCounter = some counter)
      (progress : progression profile previous counter = (result.verdict, delta))
      (moved : result.verdict ≠ .repeated)

theorem Examined.raised {error : PackageError} :
    Examined state data profile state (.error error) := by
  refine .kept rfl ?_
  intro result answered
  cases answered

theorem advance_lastCounter (state : StreamRxState) (counter delta : Nat)
    (moved : verdict ≠ .repeated) :
    (state.advance counter delta verdict).lastCounter = some counter := by
  cases verdict with
  | repeated => exact absurd rfl moved
  | _ => rfl

theorem StreamRxState.examine_examined (state : StreamRxState) (key : StreamKey) (data : Bytes)
    (profile : E2EProfileConfig) (dlc timestampNs : Nat) :
    Examined state data profile (state.examine key data profile dlc timestampNs).1
      (state.examine key data profile dlc timestampNs).2 := by
  unfold examine
  split
  · refine .kept rfl ?_
    intro result answered
    cases answered
    exact Or.inl rfl
  · split
    · rename_i actual counter expected _ read _
      split
      · refine .kept rfl ?_
        intro result answered
        cases answered
        exact Or.inr (Or.inl rfl)
      · cases seen : state.lastCounter with
        | none => exact .first counter _ rfl seen read rfl rfl
        | some previous =>
            dsimp only
            cases progress : progression profile previous counter with
            | mk verdict delta =>
                by_cases again : verdict = .repeated
                · rw [again]
                  refine .kept rfl ?_
                  intro result answered
                  cases answered
                  exact Or.inr (Or.inr rfl)
                · exact .counted previous counter delta _ rfl seen read
                    (advance_lastCounter state counter delta again) progress again
    · exact .raised
    · exact .raised
    · exact .raised

end Verdicts

inductive ValidatorEvent where
  | validateRaw (key : StreamKey) (data : Bytes) (profile : E2EProfileConfig)
      (dlc timestampNs now : Nat)
  | reset (channelId : Option String) (arbitrationId : Option Nat)

namespace Validator

def step (validator : Validator) : ValidatorEvent → Option Validator
  | .validateRaw key data profile dlc timestampNs now =>
      some (validator.validateRaw key data profile dlc timestampNs now).1
  | .reset channelId arbitrationId => some (validator.reset channelId arbitrationId)

def reference (validator : Validator) (key : StreamKey) : Option Nat :=
  (validator.streams.get? key).bind StreamRxState.lastCounter

def Judged (verdicts : List E2EStatus) (validator : Validator) (key : StreamKey) (counter : Nat) :
    ValidatorEvent → Prop
  | .validateRaw other data profile dlc timestampNs now =>
      other = key ∧ extractCounter data profile = .ok counter ∧
        ∃ result, (validator.validateRaw other data profile dlc timestampNs now).2 = .ok result ∧
          result.verdict ∈ verdicts
  | .reset _ _ => False

/-- A frame out of sequence is not accepted, but the next one has to follow it. -/
def SetsReference (validator : Validator) (key : StreamKey) (counter : Nat)
    (event : ValidatorEvent) : Prop :=
  Judged [.initial, .ok, .someLost, .wrongSequence] validator key counter event

section Frames

variable {validator : Validator} {key : StreamKey} {data : Bytes} {profile : E2EProfileConfig}
  {dlc timestampNs now : Nat}

theorem validateRaw_tombstoned (buried : key ∈ validator.evictedStreams) :
    (∃ result, (validator.validateRaw key data profile dlc timestampNs now).2 = .ok result ∧
        result.verdict = .wrongSequence) ∧
      (validator.validateRaw key data profile dlc timestampNs now).1 =
        { (if profile.counterOffset < data.length then
              (validator.track key now).dropTombstone key
            else validator.track key now) with
          streams := (validator.track key now).streams.set key
            (StreamRxState.reopen
              { ((validator.track key now).streams.get? key).getD {} with
                totalFrames :=
                  (((validator.track key now).streams.get? key).getD {}).totalFrames + 1
                lastTimestampNs := timestampNs
                lastSeenMonotonicNs := now } data profile) } := by
  unfold validateRaw
  dsimp only
  rw [if_pos buried]
  exact ⟨⟨_, rfl, rfl⟩, rfl⟩

theorem validateRaw_examined (unburied : key ∉ validator.evictedStreams) :
    ∃ next, (validator.validateRaw key data profile dlc timestampNs now).1 =
        { validator.track key now with
          streams := (validator.track key now).streams.set key next } ∧
      Examined (((validator.track key now).streams.get? key).getD {}) data profile next
        (validator.validateRaw key data profile dlc timestampNs now).2 := by
  unfold validateRaw
  dsimp only
  rw [if_neg unburied]
  refine ⟨_, rfl, ?_⟩
  cases StreamRxState.examine_examined
      { ((validator.track key now).streams.get? key).getD {} with
        totalFrames := (((validator.track key now).streams.get? key).getD {}).totalFrames + 1
        lastTimestampNs := timestampNs
        lastSeenMonotonicNs := now } key data profile dlc timestampNs with
  | kept same unusable => exact .kept same unusable
  | first counter result answered unseen read taken initial =>
      exact .first counter result answered unseen read taken initial
  | counted previous counter delta result answered seen read taken progress moved =>
      exact .counted previous counter delta result answered seen read taken progress moved

theorem Tracks.reference {before after : Validator} (tracks : Tracks before key after)
    {counter : Nat} (seen : ((after.streams.get? key).getD {}).lastCounter = some counter) :
    before.reference key = some counter := by
  obtain ⟨state, found, old | unseen⟩ := tracks.entry
  · rw [found, Option.getD_some] at seen
    unfold Validator.reference
    rw [old]
    exact seen
  · rw [found, Option.getD_some, unseen] at seen
    cases seen

theorem Tracks.setEntry {before after : Validator} (tracks : Tracks before key after)
    (state : StreamRxState) :
    Bounded { after with streams := after.streams.set key state } := by
  obtain ⟨old, found, _⟩ := tracks.entry
  have present : key ∈ after.streams.keys := by
    by_contra absent
    rw [← Dict.get?_eq_none_iff] at absent
    rw [absent] at found
    cases found
  apply tracks.bounded.of_streams (Dict.nodup_keys_set tracks.bounded.distinct key state)
  rw [Dict.length_set_of_present state present]
  exact tracks.bounded.streams

end Frames

section Steps

variable {before after : Validator} {event : ValidatorEvent} {key : StreamKey} {counter : Nat}

theorem Bounded.reset (bounded : before.Bounded) (channelId : Option String)
    (arbitrationId : Option Nat) : (before.reset channelId arbitrationId).Bounded := by
  refine ⟨?_, ?_, bounded.queued.filter _, ?_, ?_⟩
  · exact bounded.distinct.sublist (List.Sublist.map Prod.fst List.filter_sublist)
  · exact (List.length_filter_le _ _).trans bounded.streams
  · change (before.evictedOrder.filter _).toFinset = before.evictedStreams.filter _
    rw [List.toFinset_filter, bounded.mirrored]
  · exact (Finset.card_filter_le _ _).trans bounded.tombstones

theorem Bounded.step (bounded : before.Bounded) (stepped : before.step event = some after) :
    after.Bounded := by
  cases event with
  | validateRaw key data profile dlc timestampNs now =>
      have tracks := bounded.track key now
      cases stepped
      by_cases buried : key ∈ before.evictedStreams
      · rw [(validateRaw_tombstoned buried).2]
        split
        · exact (tracks.setEntry _).dropTombstone key
        · exact tracks.setEntry _
      · obtain ⟨next, result, _⟩ := validateRaw_examined buried
        rw [result]
        exact tracks.setEntry next
  | reset channelId arbitrationId =>
      cases stepped
      exact bounded.reset channelId arbitrationId

theorem reference_setEntry (validator : Validator) (key other : StreamKey)
    (state : StreamRxState) :
    Validator.reference { validator with streams := validator.streams.set key state } other =
      if other = key then state.lastCounter else validator.reference other := by
  unfold Validator.reference
  dsimp only
  split
  · rename_i same
    rw [same, Dict.get?_set_self]
    rfl
  · rename_i apart
    rw [Dict.get?_set_ne _ apart]

theorem Tracks.reference_other {other : StreamKey} (tracks : Tracks before key after)
    (apart : other ≠ key) (seen : after.reference other = some counter) :
    before.reference other = some counter := by
  unfold Validator.reference at seen ⊢
  obtain ⟨state, found, last⟩ := Option.bind_eq_some_iff.mp seen
  rw [tracks.others other state apart found]
  exact last

theorem step_reference (bounded : before.Bounded) (stepped : before.step event = some after)
    (seen : after.reference key = some counter) :
    before.SetsReference key counter event ∨
      (before.reference key = some counter ∧ ∀ other, ¬ before.SetsReference key other event) := by
  cases event with
  | validateRaw stream data profile dlc timestampNs now =>
      have tracks := bounded.track stream now
      cases stepped
      by_cases own : key = stream
      · subst own
        by_cases buried : key ∈ before.evictedStreams
        · obtain ⟨⟨result, answered, verdict⟩, tables⟩ := validateRaw_tombstoned buried
          have last : StreamRxState.lastCounter (StreamRxState.reopen
              { ((before.track key now).streams.get? key).getD {} with
                totalFrames := (((before.track key now).streams.get? key).getD {}).totalFrames + 1
                lastTimestampNs := timestampNs
                lastSeenMonotonicNs := now } data profile) = some counter := by
            rw [tables] at seen
            unfold Validator.reference at seen
            dsimp only at seen
            rw [Dict.get?_set_self] at seen
            exact seen
          unfold StreamRxState.reopen at last
          dsimp only at last
          cases read : extractCounter data profile with
          | ok taken =>
              rw [read] at last
              cases last
              refine Or.inl ⟨rfl, read, result, answered, ?_⟩
              rw [verdict]
              simp
          | error raised =>
              rw [read] at last
              refine Or.inr ⟨tracks.reference last, ?_⟩
              intro other sets
              have impossible := sets.2.1
              rw [read] at impossible
              cases impossible
        · obtain ⟨next, tables, examined⟩ := validateRaw_examined buried
          rw [tables, reference_setEntry, if_pos rfl] at seen
          cases examined with
          | kept same unusable =>
              rw [same] at seen
              refine Or.inr ⟨tracks.reference seen, ?_⟩
              rintro other ⟨-, -, result, answered, usable⟩
              rcases unusable result answered with length | crc | repeated
              · rw [length] at usable
                simp at usable
              · rw [crc] at usable
                simp at usable
              · rw [repeated] at usable
                simp at usable
          | first read result answered unseen extracted taken initial =>
              rw [taken] at seen
              cases seen
              refine Or.inl ⟨rfl, extracted, result, answered, ?_⟩
              rw [initial]
              simp
          | counted previous read delta result answered known extracted taken progress moved =>
              rw [taken] at seen
              cases seen
              refine Or.inl ⟨rfl, extracted, result, answered, ?_⟩
              rcases progression_verdict progress with ok | repeated | lost | wrong
              · rw [ok]
                simp
              · exact absurd repeated moved
              · rw [lost]
                simp
              · rw [wrong]
                simp
      · have quiet : ∀ other, ¬ before.SetsReference key other
            (.validateRaw stream data profile dlc timestampNs now) :=
          fun other sets => own sets.1.symm
        refine Or.inr ⟨?_, quiet⟩
        apply tracks.reference_other own
        by_cases buried : stream ∈ before.evictedStreams
        · rw [(validateRaw_tombstoned buried).2] at seen
          unfold Validator.reference at seen ⊢
          dsimp only at seen
          rwa [Dict.get?_set_ne _ own] at seen
        · obtain ⟨next, tables, _⟩ := validateRaw_examined buried
          rwa [tables, reference_setEntry, if_neg own] at seen
  | reset channelId arbitrationId =>
      cases stepped
      refine Or.inr ⟨?_, fun _ sets => sets⟩
      unfold Validator.reference at seen ⊢
      unfold Validator.reset at seen
      dsimp only at seen
      rw [Dict.get?_filter before.streams (fun key => !resets channelId arbitrationId key) key]
        at seen
      split at seen
      · exact seen
      · cases seen

theorem step_evicts (bounded : before.Bounded) (stepped : before.step event = some after)
    (present : (before.streams.get? key).isSome = true)
    (gone : after.streams.get? key = none) :
    key ∈ after.evictedStreams ∨ ∃ channelId arbitrationId,
      event = .reset channelId arbitrationId ∧ resets channelId arbitrationId key = true := by
  cases event with
  | validateRaw stream data profile dlc timestampNs now =>
      have tracks := bounded.track stream now
      cases stepped
      left
      by_cases own : key = stream
      · subst own
        by_cases buried : key ∈ before.evictedStreams
        · rw [(validateRaw_tombstoned buried).2] at gone
          dsimp only at gone
          rw [Dict.get?_set_self] at gone
          cases gone
        · obtain ⟨next, tables, _⟩ := validateRaw_examined buried
          rw [tables] at gone
          dsimp only at gone
          rw [Dict.get?_set_self] at gone
          cases gone
      · by_cases buried : stream ∈ before.evictedStreams
        · rw [(validateRaw_tombstoned buried).2] at gone ⊢
          dsimp only at gone ⊢
          rw [Dict.get?_set_ne _ own] at gone
          have kept := tracks.evicted key present gone
          split
          · exact Finset.mem_erase.mpr ⟨own, kept⟩
          · exact kept
        · obtain ⟨next, tables, _⟩ := validateRaw_examined buried
          rw [tables] at gone ⊢
          dsimp only at gone ⊢
          rw [Dict.get?_set_ne _ own] at gone
          exact tracks.evicted key present gone
  | reset channelId arbitrationId =>
      cases stepped
      right
      refine ⟨channelId, arbitrationId, rfl, ?_⟩
      by_contra other
      unfold Validator.reset at gone
      dsimp only at gone
      rw [Dict.get?_filter before.streams (fun key => !resets channelId arbitrationId key) key,
        if_pos (by simpa using other)] at gone
      rw [gone] at present
      cases present

end Steps

section Runs

variable {first before after last : Validator} {past events : List ValidatorEvent}
  {event : ValidatorEvent} {key : StreamKey} {counter : Nat}

def RefersTo (first : Validator) (past : List ValidatorEvent) (key : StreamKey) (counter : Nat)
    (validator : Validator) : Prop :=
  Since Validator.step (fun before event _ => before.SetsReference key counter event)
    (fun reached next => ∀ other, ¬ reached.SetsReference key other next) first past validator

structure SoundTables (first : Validator) (past : List ValidatorEvent) (validator : Validator) :
    Prop where
  bounded : validator.Bounded
  refers : ∀ key counter, validator.reference key = some counter →
    RefersTo first past key counter validator

theorem fresh_bounded : Validator.fresh.Bounded where
  distinct := List.nodup_nil
  streams := Nat.zero_le _
  queued := List.nodup_nil
  mirrored := rfl
  tombstones := Nat.zero_le _

theorem SoundTables.step (sound : SoundTables first past before)
    (pastRan : run Validator.step first past = some before)
    (stepped : before.step event = some after) : SoundTables first (past ++ [event]) after := by
  refine ⟨sound.bounded.step stepped, ?_⟩
  intro key counter seen
  rcases step_reference sound.bounded stepped seen with sets | ⟨stood, quiet⟩
  · exact Since.now pastRan stepped sets
  · exact (sound.refers key counter stood).extend stepped quiet

theorem soundTables_of_run (ran : run Validator.step Validator.fresh past = some last) :
    SoundTables Validator.fresh past last := by
  refine run_history_invariant ⟨fresh_bounded, nofun⟩ ?_ ran
  intro front state event next frontRan sound stepped
  exact sound.step frontRan stepped

section Answers

variable {validator : Validator} {data : Bytes} {profile : E2EProfileConfig}
  {dlc timestampNs now previous : Nat} {result : E2EValidationResult}

theorem track_of_reference (seen : validator.reference key = some previous) (now : Nat) :
    (((validator.track key now).streams.get? key).getD {}).lastCounter = some previous := by
  obtain ⟨state, found, last⟩ := Option.bind_eq_some_iff.mp seen
  have kept : validator.track key now = validator := by
    unfold Validator.track
    rw [found]
    rfl
  rw [kept, found]
  exact last

theorem answer_ok (bounded : validator.Bounded)
    (answered : (validator.validateRaw key data profile dlc timestampNs now).2 = .ok result)
    (ok : result.verdict = .ok) :
    ∃ previous counter, validator.reference key = some previous ∧
      extractCounter data profile = .ok counter ∧
      ((counter : Int) - previous) % profile.counterModulo = 1 := by
  by_cases buried : key ∈ validator.evictedStreams
  · obtain ⟨⟨other, wrong, verdict⟩, _⟩ :=
      @validateRaw_tombstoned validator key data profile dlc timestampNs now buried
    rw [answered] at wrong
    cases wrong
    rw [ok] at verdict
    cases verdict
  · obtain ⟨next, _, examined⟩ :=
      @validateRaw_examined validator key data profile dlc timestampNs now buried
    rw [answered] at examined
    cases examined with
    | kept same unusable =>
        rcases unusable result rfl with length | crc | repeated
        · rw [ok] at length
          cases length
        · rw [ok] at crc
          cases crc
        · rw [ok] at repeated
          cases repeated
    | first counter found same unseen read taken initial =>
        cases same
        rw [ok] at initial
        cases initial
    | counted previous counter delta found same seen read taken progress moved =>
        cases same
        rw [ok] at progress
        exact ⟨previous, counter, (bounded.track key now).reference seen, read,
          progression_ok progress⟩

theorem answer_repeated
    (answered : (validator.validateRaw key data profile dlc timestampNs now).2 = .ok result)
    (seen : validator.reference key = some previous)
    (read : extractCounter data profile = .ok counter)
    (same : ((counter : Int) - previous) % profile.counterModulo = 0) : result.isValid = false := by
  by_cases buried : key ∈ validator.evictedStreams
  · obtain ⟨⟨other, wrong, verdict⟩, _⟩ :=
      @validateRaw_tombstoned validator key data profile dlc timestampNs now buried
    rw [answered] at wrong
    cases wrong
    unfold E2EValidationResult.isValid
    rw [verdict]
    rfl
  · obtain ⟨next, _, examined⟩ :=
      @validateRaw_examined validator key data profile dlc timestampNs now buried
    have last := track_of_reference seen now
    rw [answered] at examined
    cases examined with
    | kept _ unusable =>
        unfold E2EValidationResult.isValid
        rcases unusable result rfl with length | crc | repeated
        · rw [length]
          rfl
        · rw [crc]
          rfl
        · rw [repeated]
          rfl
    | first _ _ _ unseen =>
        rw [last] at unseen
        cases unseen
    | counted earlier taken delta found equal known extracted _ progress moved =>
        rw [last] at known
        cases known
        rw [read] at extracted
        cases extracted
        rw [progression_repeated same] at progress
        exact absurd (Prod.mk.inj progress).1.symm moved

end Answers

/-- The tables stay bounded, an evicted stream is not taken for a new one while its
tombstone lasts, a frame in order follows the last frame of its stream that set the
reference, and a repetition of the reference is never usable. -/
theorem streams_safe (ran : run Validator.step Validator.fresh events = some last) :
    (last.streams.length ≤ maxTrackedStreams ∧ last.evictedStreams.card ≤ maxTombstoneStreams ∧
      last.evictedOrder.Nodup ∧ last.evictedOrder.toFinset = last.evictedStreams) ∧
    ∀ front event back before after, events = front ++ event :: back →
      run Validator.step Validator.fresh front = some before → before.step event = some after →
      (∀ key, (before.streams.get? key).isSome = true → after.streams.get? key = none →
        key ∈ after.evictedStreams ∨ ∃ channelId arbitrationId,
          event = .reset channelId arbitrationId ∧ resets channelId arbitrationId key = true) ∧
      ∀ key data profile dlc timestampNs now result,
        event = .validateRaw key data profile dlc timestampNs now →
        (before.validateRaw key data profile dlc timestampNs now).2 = .ok result →
        (key ∈ before.evictedStreams → result.verdict = .wrongSequence) ∧
        (result.verdict = .ok → ∃ previous counter : Nat, extractCounter data profile = .ok counter ∧
          ((counter : Int) - previous) % profile.counterModulo = 1 ∧
          RefersTo Validator.fresh front key previous before) ∧
        ∀ previous counter : Nat, before.reference key = some previous →
          extractCounter data profile = .ok counter →
          ((counter : Int) - previous) % profile.counterModulo = 0 → result.isValid = false := by
  have sound := (soundTables_of_run ran).bounded
  refine ⟨⟨sound.streams, sound.tombstones, sound.queued, sound.mirrored⟩, ?_⟩
  intro front event back before after _ frontRan stepped
  have tables := soundTables_of_run frontRan
  refine ⟨fun key present gone => step_evicts tables.bounded stepped present gone, ?_⟩
  intro key data profile dlc timestampNs now result _ answered
  refine ⟨?_, ?_, ?_⟩
  · intro buried
    obtain ⟨⟨other, wrong, verdict⟩, _⟩ :=
      @validateRaw_tombstoned before key data profile dlc timestampNs now buried
    rw [answered] at wrong
    cases wrong
    exact verdict
  · intro ok
    obtain ⟨previous, counter, seen, read, follows⟩ := answer_ok tables.bounded answered ok
    exact ⟨previous, counter, read, follows, tables.refers key previous seen⟩
  · intro previous counter seen read same
    exact answer_repeated answered seen read same

end Runs

section Bench

def sixteenCounts : E2EProfileConfig := ⟨additiveFields 16, by decide⟩

def countedBytes (counter : Nat) : Bytes :=
  match sealFrame plainFrame sixteenCounts counter with
  | .ok sealed => sealed.data
  | .error _ => []

def heard (counter : Nat) : ValidatorEvent :=
  .validateRaw ("can0", 0x123) (countedBytes counter) sixteenCounts 8 0 counter

def replayedPair : List ValidatorEvent := [heard 0, heard 1, heard 0, heard 1]

theorem replayedPair_isSome :
    (run Validator.step Validator.fresh replayedPair).isSome = true := rfl

theorem streams_safe_replayedPair :
    ((run Validator.step Validator.fresh replayedPair).get replayedPair_isSome).streams.length ≤
      maxTrackedStreams :=
  (streams_safe (Option.some_get replayedPair_isSome).symm).1.1

def replayState (count : Nat) : Validator :=
  (run Validator.step Validator.fresh (replayedPair.take count)).getD Validator.fresh

/-- A frame in order need not follow the last accepted one: the first replayed frame
is refused, and the second is then in order. -/
theorem replay_in_order :
    ¬ ∀ (front : List ValidatorEvent) (before : Validator) (key : StreamKey) (data : Bytes)
        (profile : E2EProfileConfig) (dlc timestampNs now : Nat) (result : E2EValidationResult)
        (counter previous : Nat),
      run Validator.step Validator.fresh front = some before →
      (before.validateRaw key data profile dlc timestampNs now).2 = .ok result →
      result.verdict = .ok → extractCounter data profile = .ok counter →
      Since Validator.step
        (fun reached event _ => Judged [.ok, .initial, .someLost] reached key previous event)
        (fun reached next => ∀ other, ¬ Judged [.ok, .initial, .someLost] reached key other next)
        Validator.fresh front before →
      ((counter : Int) - previous) % profile.counterModulo = 1 := by
  intro follows
  have judged (count number : Nat) (verdict : E2EStatus)
      (said : (((replayState count).validateRaw ("can0", 0x123) (countedBytes number)
        sixteenCounts 8 0 number).2.map E2EValidationResult.verdict).toOption = some verdict) :
      ∃ result, ((replayState count).validateRaw ("can0", 0x123) (countedBytes number)
        sixteenCounts 8 0 number).2 = .ok result ∧ result.verdict = verdict := by
    cases answer : ((replayState count).validateRaw ("can0", 0x123) (countedBytes number)
        sixteenCounts 8 0 number).2 with
    | error raised =>
        rw [answer] at said
        cases said
    | ok result =>
        rw [answer] at said
        cases said
        exact ⟨result, rfl, rfl⟩
  obtain ⟨second, secondAnswer, inOrder⟩ := judged 1 1 .ok (by decide +kernel)
  obtain ⟨third, thirdAnswer, refused⟩ := judged 2 0 .wrongSequence (by decide +kernel)
  obtain ⟨fourth, fourthAnswer, again⟩ := judged 3 1 .ok (by decide +kernel)
  have replayed : ((1 : Nat) - (1 : Nat) : Int) % sixteenCounts.counterModulo = 1 := by
    refine follows [heard 0, heard 1, heard 0] (replayState 3) ("can0", 0x123) (countedBytes 1)
      sixteenCounts 8 0 1 fourth 1 1 rfl fourthAnswer again (by decide +kernel) ?_
    refine ⟨[heard 0], heard 1, [heard 0], replayState 1, replayState 2, rfl, rfl, rfl, ?_, rfl,
      ?_, fun _ _ => trivial⟩
    · refine ⟨rfl, by decide +kernel, second, secondAnswer, ?_⟩
      rw [inOrder]
      simp
    · rintro other ⟨-, -, result, answered, usable⟩
      rw [thirdAnswer] at answered
      cases answered
      rw [refused] at usable
      simp at usable
  exact absurd replayed (by decide)

end Bench

end Validator

end Ucanlab.Safety.E2E
