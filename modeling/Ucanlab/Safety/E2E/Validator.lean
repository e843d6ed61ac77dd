import Mathlib.Data.Finset.Card
import Ucanlab.Lib.Dict
import Ucanlab.Safety.E2E.Packager

/-!
The receiver of protected frames: checksum and counter progression for each
stream, with a bounded table of streams and the tombstones of evicted ones.
-/

namespace Ucanlab.Safety.E2E

open Ucanlab

inductive E2EStatus where
  | ok
  | repeated
  | someLost
  | wrongSequence
  | crcError
  | initial
  | lengthError
  deriving DecidableEq, Repr

def E2EStatus.value : E2EStatus → String
  | .ok => "OK"
  | .repeated => "REPEATED"
  | .someLost => "SOME_LOST"
  | .wrongSequence => "WRONG_SEQUENCE"
  | .crcError => "CRC_ERROR"
  | .initial => "INITIAL"
  | .lengthError => "LENGTH_ERROR"

structure E2EValidationResult where
  verdict : E2EStatus
  expectedCrc : Int := -1
  actualCrc : Int := -1
  counter : Int := -1
  previousCounter : Option Nat
  delta : Int := -1
  streamKey : StreamKey
  timestampNs : Nat
  deriving DecidableEq, Repr

namespace E2EValidationResult

def isValid (result : E2EValidationResult) : Bool :=
  result.verdict == .ok || result.verdict == .initial || result.verdict == .someLost

def isSequenceValid (result : E2EValidationResult) : Bool :=
  result.verdict == .ok || result.verdict == .initial

end E2EValidationResult

structure StreamRxState where
  lastCounter : Option Nat := none
  lastVerdict : Option E2EStatus := none
  totalFrames : Nat := 0
  validFrames : Nat := 0
  crcErrors : Nat := 0
  sequenceErrors : Nat := 0
  repeatedFrames : Nat := 0
  droppedFramesEstimated : Nat := 0
  lastTimestampNs : Nat := 0
  lastSeenMonotonicNs : Nat := 0
  deriving DecidableEq, Repr

def maxTrackedStreams : Nat := 1024
def maxTombstoneStreams : Nat := 2048

structure Validator where
  streams : Dict StreamKey StreamRxState
  evictedStreams : Finset StreamKey
  evictedOrder : List StreamKey

def extractCrc (data : Bytes) (config : E2EProfileConfig) : Except PackageError UInt8 :=
  match data[config.crcOffset]? with
  | none => .error (.crcOffset data.length config.crcOffset)
  | some crc => .ok crc

/-- The verdict on a counter after its predecessor. -/
def progression (profile : E2EProfileConfig) (previous counter : Nat) : E2EStatus × Nat :=
  let delta := (((counter : Int) - previous) % profile.counterModulo).toNat
  if delta = 1 then (.ok, delta)
  else if delta = 0 then (.repeated, delta)
  else if (delta : Int) ≤ profile.maxDeltaCounter then (.someLost, delta)
  else (.wrongSequence, delta)

namespace StreamRxState

def advance (state : StreamRxState) (counter delta : Nat) : E2EStatus → StreamRxState
  | .ok =>
      { state with
        lastCounter := some counter
        validFrames := state.validFrames + 1
        lastVerdict := some .ok }
  | .repeated =>
      { state with
        repeatedFrames := state.repeatedFrames + 1
        lastVerdict := some .repeated }
  | .someLost =>
      { state with
        droppedFramesEstimated := state.droppedFramesEstimated + (delta - 1)
        lastCounter := some counter
        validFrames := state.validFrames + 1
        lastVerdict := some .someLost }
  | verdict =>
      { state with
        sequenceErrors := state.sequenceErrors + 1
        lastCounter := some counter
        lastVerdict := some verdict }

def examine (state : StreamRxState) (key : StreamKey) (data : Bytes) (profile : E2EProfileConfig)
    (dlc timestampNs : Nat) : StreamRxState × Except PackageError E2EValidationResult :=
  if data.length < profile.minLen then
    ({ state with lastVerdict := some .lengthError },
      .ok {
        verdict := .lengthError
        previousCounter := state.lastCounter
        streamKey := key
        timestampNs := timestampNs })
  else
    match extractCrc data profile, extractCounter data profile,
        computeChecksum data profile key.2 dlc with
    | .ok actual, .ok counter, .ok expected =>
        if actual ≠ expected then
          ({ state with
              crcErrors := state.crcErrors + 1
              lastVerdict := some .crcError },
            .ok {
              verdict := .crcError
              expectedCrc := expected.toNat
              actualCrc := actual.toNat
              counter := counter
              previousCounter := state.lastCounter
              streamKey := key
              timestampNs := timestampNs })
        else
          match state.lastCounter with
          | none =>
              ({ state with
                  lastCounter := some counter
                  validFrames := state.validFrames + 1
                  lastVerdict := some .initial },
                .ok {
                  verdict := .initial
                  expectedCrc := expected.toNat
                  actualCrc := actual.toNat
                  counter := counter
                  previousCounter := none
                  delta := 0
                  streamKey := key
                  timestampNs := timestampNs })
          | some previous =>
              let (verdict, delta) := progression profile previous counter
              (state.advance counter delta verdict,
                .ok {
                  verdict := verdict
                  expectedCrc := expected.toNat
                  actualCrc := actual.toNat
                  counter := counter
                  previousCounter := some previous
                  delta := delta
                  streamKey := key
                  timestampNs := timestampNs })
    | .error e, _, _ => (state, .error e)
    | _, .error e, _ => (state, .error e)
    | _, _, .error e => (state, .error e)

/-- A frame of an evicted stream is never taken for a first one. -/
def reopen (state : StreamRxState) (data : Bytes) (profile : E2EProfileConfig) : StreamRxState :=
  { state with
    sequenceErrors := state.sequenceErrors + 1
    lastVerdict := some .wrongSequence
    lastCounter :=
      match extractCounter data profile with
      | .ok counter => some counter
      | .error _ => state.lastCounter }

end StreamRxState

namespace Validator

def fresh : Validator where
  streams := []
  evictedStreams := ∅
  evictedOrder := []

def oldestKey : Dict StreamKey StreamRxState → Option StreamKey
  | [] => none
  | entry :: rest =>
      some (rest.foldl (fun oldest other =>
        if other.2.lastSeenMonotonicNs < oldest.2.lastSeenMonotonicNs then other else oldest)
          entry).1

/-- Pops the queue while there are too many tombstones. -/
def shrinkTombstones : List StreamKey → Finset StreamKey → List StreamKey × Finset StreamKey
  | [], tombstones => ([], tombstones)
  | oldest :: rest, tombstones =>
      if tombstones.card > maxTombstoneStreams then shrinkTombstones rest (tombstones.erase oldest)
      else (oldest :: rest, tombstones)

def recordTombstone (validator : Validator) (key : StreamKey) : Validator :=
  if key ∈ validator.evictedStreams then validator
  else
    let (order, tombstones) :=
      shrinkTombstones (validator.evictedOrder ++ [key]) (insert key validator.evictedStreams)
    { validator with
      evictedStreams := tombstones
      evictedOrder := order }

def dropTombstone (validator : Validator) (key : StreamKey) : Validator :=
  { validator with
    evictedStreams := validator.evictedStreams.erase key
    evictedOrder := validator.evictedOrder.erase key }

/-- The stream's entry, made when absent; a full table first drops its oldest. -/
def track (validator : Validator) (key : StreamKey) (now : Nat) : Validator :=
  if (validator.streams.get? key).isSome then validator
  else
    let room :=
      if validator.streams.length ≥ maxTrackedStreams then
        match oldestKey validator.streams with
        | none => validator
        | some oldest =>
            { validator with streams := validator.streams.erase oldest }.recordTombstone oldest
      else validator
    { room with streams := room.streams.set key { lastSeenMonotonicNs := now } }

def validateRaw (validator : Validator) (key : StreamKey) (data : Bytes)
    (profile : E2EProfileConfig) (dlc timestampNs now : Nat) :
    Validator × Except PackageError E2EValidationResult :=
  let tracked := validator.track key now
  let found := (tracked.streams.get? key).getD {}
  let state := { found with
    totalFrames := found.totalFrames + 1
    lastTimestampNs := timestampNs
    lastSeenMonotonicNs := now }
  if key ∈ validator.evictedStreams then
    let reopened :=
      if profile.counterOffset < data.length then tracked.dropTombstone key else tracked
    ({ reopened with streams := tracked.streams.set key (state.reopen data profile) },
      .ok {
        verdict := .wrongSequence
        previousCounter := none
        streamKey := key
        timestampNs := timestampNs })
  else
    let (examined, result) := state.examine key data profile dlc timestampNs
    ({ tracked with streams := tracked.streams.set key examined }, result)

def validate (validator : Validator) (frame : CanFrame) (profile : E2EProfileConfig)
    (timestampNs now : Nat) : Validator × Except PackageError E2EValidationResult :=
  validator.validateRaw (frame.channelId, frame.arbitrationId) frame.data profile frame.dlc
    timestampNs now

def resets (channelId : Option String) (arbitrationId : Option Nat) (key : StreamKey) : Bool :=
  channelId.all (· == key.1) && arbitrationId.all (· == key.2)

/-- Each tombstone is queued once, so that removing it leaves none. -/
def reset (validator : Validator) (channelId : Option String) (arbitrationId : Option Nat) :
    Validator where
  streams := validator.streams.filter (fun entry => !resets channelId arbitrationId entry.1)
  evictedStreams := validator.evictedStreams.filter (fun key => !resets channelId arbitrationId key)
  evictedOrder := validator.evictedOrder.filter (fun key => !resets channelId arbitrationId key)

end Validator

structure WellSealed (profile : E2EProfileConfig) (frame : CanFrame) (counter : Nat) : Prop where
  length : profile.minLen ≤ frame.data.length
  counter : extractCounter frame.data profile = .ok counter
  checksum : ∃ crc, extractCrc frame.data profile = .ok crc ∧
    computeChecksum frame.data profile frame.arbitrationId frame.dlc = .ok crc

section Sealed

variable {profile : E2EProfileConfig} {frame sealed : CanFrame} {counter : Nat}

theorem extractCounter_set_crc (data : Bytes) (crc : UInt8) (profile : E2EProfileConfig) :
    extractCounter (data.set profile.crcOffset crc) profile = extractCounter data profile := by
  unfold extractCounter
  rw [List.getElem?_set_ne profile.consistent.offsets, List.length_set]

theorem computeChecksum_set_crc (data : Bytes) (crc : UInt8) (profile : E2EProfileConfig)
    (arbitrationId dlc : Nat) :
    computeChecksum (data.set profile.crcOffset crc) profile arbitrationId dlc =
      computeChecksum data profile arbitrationId dlc := by
  unfold computeChecksum
  rw [List.length_set, List.eraseIdx_set_eq, extractCounter_set_crc]

theorem sealPayload_ok {bytes : Bytes} {dlc : Nat}
    (ok : sealPayload frame profile counter = .ok (bytes, dlc)) :
    ∃ counted crc, injectCounter (ensureMinLen frame.data profile.minLen) counter profile =
        .ok counted ∧
      computeChecksum counted profile frame.arbitrationId dlc = .ok crc ∧
      profile.crcOffset < counted.length ∧ bytes = counted.set profile.crcOffset crc := by
  unfold sealPayload at ok
  dsimp only at ok
  split at ok
  · cases ok
  · rename_i counted injected
    split at ok
    · cases ok
    · split at ok
      · cases ok
      · rename_i crc computed
        unfold injectCrc at ok
        split at ok
        · rename_i failed
          split at failed
          · cases ok
          · cases failed
        · rename_i written
          split at written
          · cases written
          · rename_i room
            cases written
            cases ok
            exact ⟨counted, crc, injected, computed, Nat.lt_of_not_le room, rfl⟩

theorem ensureMinLen_length (payload : Bytes) (minLen : Nat) :
    minLen ≤ (ensureMinLen payload minLen).length := by
  unfold ensureMinLen
  rw [List.length_append, List.length_replicate]
  omega

theorem injectCounter_ok {data counted : Bytes}
    (ok : injectCounter data counter profile = .ok counted) (small : counter < profile.modulo) :
    counted.length = data.length ∧ extractCounter counted profile = .ok counter := by
  unfold injectCounter at ok
  split at ok
  · cases ok
  · rename_i current found
    cases ok
    obtain ⟨bound, _⟩ := List.getElem?_eq_some_iff.mp found
    refine ⟨List.length_set, ?_⟩
    unfold extractCounter
    rw [List.getElem?_set_self bound]
    dsimp only
    rw [counterByte_read profile current small]

theorem sealFrame_wellSealed (ok : sealFrame frame profile counter = .ok sealed)
    (small : counter < profile.modulo) : WellSealed profile sealed counter := by
  unfold sealFrame at ok
  split at ok
  · cases ok
  · rename_i bytes dlc payload
    split at ok
    · cases ok
    · rename_i built created
      cases ok
      obtain ⟨counted, crc, injected, computed, room, rfl⟩ := sealPayload_ok payload
      obtain ⟨lengths, reads⟩ := injectCounter_ok injected small
      have fields := create_some_fields created
      have data : sealed.data = counted.set profile.crcOffset crc := by
        rw [fields]
        rfl
      have code : sealed.dlc = dlc := by
        rw [fields]
      have identifier : sealed.arbitrationId = frame.arbitrationId := by
        rw [fields]
        rfl
      refine ⟨?_, ?_, crc, ?_, ?_⟩
      · rw [data, List.length_set, lengths]
        exact ensureMinLen_length frame.data profile.minLen
      · rw [data, extractCounter_set_crc]
        exact reads
      · unfold extractCrc
        rw [data, List.getElem?_set_self room]
      · rw [data, identifier, code, computeChecksum_set_crc]
        exact computed

end Sealed

def CountsFrom (profile : E2EProfileConfig) : Nat → List CanFrame → Nat → Prop
  | first, [], last => first = last
  | first, frame :: rest, last =>
      WellSealed profile frame first ∧ CountsFrom profile ((first + 1) % profile.modulo) rest last

section Progression

variable {profile : E2EProfileConfig} {frame : CanFrame} {frames rest : List CanFrame}
  {first middle last counter previous : Nat}

theorem CountsFrom.append (front : CountsFrom profile first frames middle)
    (back : CountsFrom profile middle rest last) :
    CountsFrom profile first (frames ++ rest) last := by
  induction frames generalizing first with
  | nil =>
      rw [show first = middle from front]
      exact back
  | cons frame others ih => exact ⟨front.1, ih front.2⟩

theorem CountsFrom.of_append (counts : CountsFrom profile first (frames ++ rest) last) :
    ∃ middle, CountsFrom profile first frames middle := by
  induction frames generalizing first with
  | nil => exact ⟨first, rfl⟩
  | cons frame others ih =>
      obtain ⟨middle, front⟩ := ih counts.2
      exact ⟨middle, counts.1, front⟩

theorem CountsFrom.at_index (counts : CountsFrom profile first frames last)
    (small : first < profile.modulo) {index : Nat} (present : frames[index]? = some frame) :
    WellSealed profile frame ((first + index) % profile.modulo) := by
  induction frames generalizing first index with
  | nil => cases present
  | cons head others ih =>
      cases index with
      | zero =>
          cases present
          rw [Nat.add_zero, Nat.mod_eq_of_lt small]
          exact counts.1
      | succ before =>
          have later := ih counts.2 (Nat.mod_lt _ profile.consistent.positive) present
          rw [Nat.mod_add_mod, Nat.add_right_comm] at later
          exact later

theorem progression_next (many : 1 < profile.modulo) (small : previous < profile.modulo) :
    progression profile previous ((previous + 1) % profile.modulo) = (.ok, 1) := by
  have step : ((((previous + 1) % profile.modulo : Nat) : Int) - previous) %
      profile.counterModulo = 1 := by
    rw [← modulo_cast]
    by_cases wraps : previous + 1 = profile.modulo
    · rw [wraps, Nat.mod_self, Int.natCast_zero, ← wraps]
      have back : (0 - (previous : Int)) = 1 + (-1) * ((previous + 1 : Nat) : Int) := by
        push_cast
        omega
      rw [back, Int.add_mul_emod_self_right]
      exact Int.emod_eq_of_lt (by omega) (by omega)
    · rw [Nat.mod_eq_of_lt (by omega)]
      have forward : (((previous + 1 : Nat) : Int) - previous) = 1 := by omega
      rw [forward]
      exact Int.emod_eq_of_lt (by omega) (by omega)
  unfold progression
  rw [step]
  rfl

namespace StreamRxState

variable {state : StreamRxState} {key : StreamKey} {dlc timestampNs : Nat}

theorem examine_first (whole : WellSealed profile frame counter)
    (identifier : key.2 = frame.arbitrationId) (unseen : state.lastCounter = none) :
    (state.examine key frame.data profile frame.dlc timestampNs).1.lastCounter = some counter ∧
      ∃ result, (state.examine key frame.data profile frame.dlc timestampNs).2 = .ok result ∧
        result.verdict = .initial := by
  obtain ⟨crc, actual, expected⟩ := whole.checksum
  unfold examine
  rw [if_neg (Nat.not_lt.mpr whole.length), actual, whole.counter, identifier, expected]
  dsimp only
  rw [if_neg (not_not_intro rfl), unseen]
  exact ⟨rfl, _, rfl, rfl⟩

theorem examine_next (whole : WellSealed profile frame ((previous + 1) % profile.modulo))
    (identifier : key.2 = frame.arbitrationId) (seen : state.lastCounter = some previous)
    (many : 1 < profile.modulo) (small : previous < profile.modulo) :
    (state.examine key frame.data profile frame.dlc timestampNs).1.lastCounter =
        some ((previous + 1) % profile.modulo) ∧
      ∃ result, (state.examine key frame.data profile frame.dlc timestampNs).2 = .ok result ∧
        result.verdict = .ok := by
  obtain ⟨crc, actual, expected⟩ := whole.checksum
  unfold examine
  rw [if_neg (Nat.not_lt.mpr whole.length), actual, whole.counter, identifier, expected]
  dsimp only
  rw [if_neg (not_not_intro rfl), seen]
  dsimp only
  rw [progression_next many small]
  exact ⟨rfl, _, rfl, rfl⟩

end StreamRxState

namespace Validator

variable {validator : Validator} {key : StreamKey} {timestampNs : Nat}

def Follows (validator : Validator) (key : StreamKey) (last : Option Nat) : Prop :=
  key ∉ validator.evictedStreams ∧
    ((validator.streams.get? key = none ∧ validator.streams = [] ∧ last = none) ∨
      ∃ state, validator.streams.get? key = some state ∧ state.lastCounter = last)

theorem Follows.track {last : Option Nat} (follows : validator.Follows key last) (now : Nat) :
    (validator.track key now).evictedStreams = validator.evictedStreams ∧
      ∃ state, (validator.track key now).streams.get? key = some state ∧
        state.lastCounter = last := by
  rcases follows.2 with ⟨unseen, empty, rfl⟩ | ⟨state, found, seen⟩
  · have made : validator.track key now =
        { validator with streams := [(key, { lastSeenMonotonicNs := now })] } := by
      have absent : ¬ (none : Option StreamRxState).isSome = true := nofun
      have room : ¬ ([] : Dict StreamKey StreamRxState).length ≥ maxTrackedStreams := by decide
      unfold Validator.track
      rw [unseen, if_neg absent, empty, if_neg room]
      dsimp only
      rw [empty]
      rfl
    rw [made]
    exact ⟨rfl, _, Dict.get?_singleton key _, rfl⟩
  · have kept : validator.track key now = validator := by
      unfold Validator.track
      rw [found]
      rfl
    rw [kept]
    exact ⟨rfl, state, found, seen⟩

theorem Follows.validate {last : Option Nat} (follows : validator.Follows key last)
    (now : Nat) (same : key = (frame.channelId, frame.arbitrationId)) {next : Nat}
    {verdict : E2EStatus}
    (examined : ∀ state : StreamRxState, state.lastCounter = last →
      (state.examine key frame.data profile frame.dlc timestampNs).1.lastCounter = some next ∧
        ∃ result, (state.examine key frame.data profile frame.dlc timestampNs).2 = .ok result ∧
          result.verdict = verdict) :
    (validator.validate frame profile timestampNs now).1.Follows key (some next) ∧
      ∃ result, (validator.validate frame profile timestampNs now).2 = .ok result ∧
        result.verdict = verdict := by
  obtain ⟨tombstones, state, found, seen⟩ := follows.track now
  unfold Validator.validate validateRaw
  dsimp only
  rw [← same, if_neg follows.1, found]
  dsimp only [Option.getD_some]
  obtain ⟨taken, result, answered, verdict⟩ := examined { state with
    totalFrames := state.totalFrames + 1
    lastTimestampNs := timestampNs
    lastSeenMonotonicNs := now } seen
  refine ⟨⟨?_, Or.inr ⟨_, Dict.get?_set_self _ _ _, taken⟩⟩, result, answered, verdict⟩
  dsimp only
  rw [tombstones]
  exact follows.1

end Validator

structure Reception where
  frame : CanFrame
  timestampNs : Nat
  now : Nat

def Validator.verdicts (profile : E2EProfileConfig) :
    Validator → List Reception → List (Except PackageError E2EValidationResult)
  | _, [] => []
  | validator, reception :: rest =>
      let (next, result) :=
        validator.validate reception.frame profile reception.timestampNs reception.now
      result :: Validator.verdicts profile next rest

def InSequence (answer : Except PackageError E2EValidationResult) : Prop :=
  ∃ result, answer = .ok result ∧ result.isSequenceValid = true

theorem Validator.verdicts_inSequence {validator : Validator} {key : StreamKey}
    {receptions : List Reception} {known : Option Nat} (follows : validator.Follows key known)
    (small : first < profile.modulo)
    (expected : ∀ previous, known = some previous →
      previous < profile.modulo ∧ first = (previous + 1) % profile.modulo ∧
        (receptions ≠ [] → 1 < profile.modulo))
    (many : 1 < receptions.length → 1 < profile.modulo)
    (stream : ∀ reception ∈ receptions,
      key = (reception.frame.channelId, reception.frame.arbitrationId))
    (counts : CountsFrom profile first (receptions.map Reception.frame) last) :
    ∀ answer ∈ validator.verdicts profile receptions, InSequence answer := by
  induction receptions generalizing validator known first with
  | nil => exact fun _ member => absurd member List.not_mem_nil
  | cons reception rest ih =>
      have same := stream reception List.mem_cons_self
      have identifier : key.2 = reception.frame.arbitrationId := by rw [same]
      have answered : ∃ verdict, (verdict = .ok ∨ verdict = .initial) ∧
          ∀ state : StreamRxState, state.lastCounter = known →
            (state.examine key reception.frame.data profile reception.frame.dlc
                reception.timestampNs).1.lastCounter = some first ∧
              ∃ result, (state.examine key reception.frame.data profile reception.frame.dlc
                reception.timestampNs).2 = .ok result ∧ result.verdict = verdict := by
        cases known with
        | none =>
            exact ⟨.initial, Or.inr rfl, fun state unseen =>
              StreamRxState.examine_first counts.1 identifier unseen⟩
        | some previous =>
            obtain ⟨below, next, several⟩ := expected previous rfl
            have whole := counts.1
            rw [next] at whole ⊢
            exact ⟨.ok, Or.inl rfl, fun state seen =>
              StreamRxState.examine_next whole identifier seen
                (several (List.cons_ne_nil _ _)) below⟩
      obtain ⟨verdict, kind, examined⟩ := answered
      obtain ⟨followed, result, answer, said⟩ :=
        follows.validate reception.now same examined
      intro given member
      rcases List.mem_cons.mp member with here | later
      · rw [here]
        refine ⟨result, answer, ?_⟩
        unfold E2EValidationResult.isSequenceValid
        rw [said]
        rcases kind with ok | initial
        · rw [ok]
          rfl
        · rw [initial]
          rfl
      · have several : rest ≠ [] → 1 < profile.modulo := by
          intro more
          apply many
          rw [List.length_cons]
          exact Nat.succ_lt_succ (List.length_pos_iff.mpr more)
        refine ih followed (Nat.mod_lt _ profile.consistent.positive) ?_ ?_ ?_ counts.2 given later
        · intro previous taken
          cases taken
          exact ⟨small, rfl, several⟩
        · intro longer
          exact several (List.ne_nil_of_length_pos (Nat.lt_trans Nat.zero_lt_one longer))
        · exact fun other inside => stream other (List.mem_cons_of_mem _ inside)

end Progression

end Ucanlab.Safety.E2E
