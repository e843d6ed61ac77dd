import Ucanlab.Safety.E2E.Validator

/-!
A stream the packager seals with its automatic counter and a fresh receiver reads
in order: the verdict on every frame, and what sealing changes in a payload.
-/

namespace Ucanlab.Safety.E2E

open Ucanlab

def Packager.packageAll (profile : E2EProfileConfig) :
    Packager → List CanFrame → Except PackageError (List CanFrame)
  | _, [] => .ok []
  | packager, frame :: rest =>
      match packager.package frame profile none with
      | (_, .error e) => .error e
      | (next, .ok sealed) =>
          match packageAll profile next rest with
          | .error e => .error e
          | .ok others => .ok (sealed :: others)

/-- The sealed payload is the payload, padded where it was too short, but for the
checksum byte and the bits of the counter field. -/
structure SealsOnly (profile : E2EProfileConfig) (payload sealed : Bytes) : Prop where
  length : sealed.length = max payload.length profile.minLen
  elsewhere : ∀ index, index < sealed.length → index ≠ profile.crcOffset →
    index ≠ profile.counterOffset → sealed[index]? = some (payload.getD index e2ePadByte)
  counterByte : ∃ after, sealed[profile.counterOffset]? = some after ∧
    after &&& ~~~ UInt8.ofNat profile.mask =
      payload.getD profile.counterOffset e2ePadByte &&& ~~~ UInt8.ofNat profile.mask

theorem length_ensureMinLen (payload : Bytes) (minLen : Nat) :
    (ensureMinLen payload minLen).length = max payload.length minLen := by
  unfold ensureMinLen
  rw [List.length_append, List.length_replicate]
  omega

theorem ensureMinLen_getElem? (payload : Bytes) {minLen index : Nat}
    (inside : index < max payload.length minLen) :
    (ensureMinLen payload minLen)[index]? = some (payload.getD index e2ePadByte) := by
  unfold ensureMinLen
  by_cases own : index < payload.length
  · rw [List.getElem?_append_left own, List.getD_eq_getElem?_getD, List.getElem?_eq_getElem own,
      Option.getD_some]
  · rw [List.getElem?_append_right (Nat.le_of_not_lt own), List.getElem?_replicate,
      if_pos (by omega), List.getD_eq_getElem?_getD, List.getElem?_eq_none (Nat.le_of_not_lt own),
      Option.getD_none]

section Sealing

variable {profile : E2EProfileConfig} {frame sealed : CanFrame} {counter : Nat}

theorem clear_or_and_not (current mask written : UInt8) (within : written &&& ~~~ mask = 0) :
    ((current &&& ~~~ mask) ||| written) &&& ~~~ mask = current &&& ~~~ mask := by
  have split : ((current &&& ~~~ mask) ||| written) &&& ~~~ mask =
      (current &&& ~~~ mask) ||| (written &&& ~~~ mask) := by
    apply UInt8.toBitVec_inj.mp
    simp only [UInt8.toBitVec_and, UInt8.toBitVec_or, UInt8.toBitVec_not]
    ext bit
    simp only [BitVec.getElem_and, BitVec.getElem_or, BitVec.getElem_not]
    cases current.toBitVec[bit] <;> cases mask.toBitVec[bit] <;> cases written.toBitVec[bit] <;> rfl
  rw [split, within]
  simp

theorem counterByte_keeps (profile : E2EProfileConfig) (current : UInt8) (counter : Nat) :
    counterByte current counter profile &&& ~~~ UInt8.ofNat profile.mask =
      current &&& ~~~ UInt8.ofNat profile.mask := by
  unfold counterByte
  apply clear_or_and_not
  have bits : UInt8.ofNat (((counter % profile.modulo) <<< profile.shift) &&& profile.mask) =
      UInt8.ofNat ((counter % profile.modulo) <<< profile.shift) &&&
        UInt8.ofNat profile.mask := by
    simp
  rw [bits, UInt8.and_assoc]
  simp

theorem sealPayload_sealsOnly {bytes : Bytes} {dlc : Nat}
    (ok : sealPayload frame profile counter = .ok (bytes, dlc)) :
    SealsOnly profile frame.data bytes := by
  obtain ⟨counted, crc, injected, _, room, rfl⟩ := sealPayload_ok ok
  unfold injectCounter at injected
  split at injected
  · cases injected
  · rename_i current found
    cases injected
    obtain ⟨bound, _⟩ := List.getElem?_eq_some_iff.mp found
    have apart := profile.consistent.offsets
    have padded := length_ensureMinLen frame.data profile.minLen
    refine ⟨?_, ?_, counterByte current counter profile, ?_, ?_⟩
    · rw [List.length_set, List.length_set, padded]
    · intro index inside notCrc notCounter
      rw [List.length_set, List.length_set, padded] at inside
      rw [List.getElem?_set_ne notCrc.symm, List.getElem?_set_ne notCounter.symm,
        ensureMinLen_getElem? frame.data inside]
    · rw [List.getElem?_set_ne apart, List.getElem?_set_self bound]
    · rw [padded] at bound
      rw [ensureMinLen_getElem? frame.data bound] at found
      rw [counterByte_keeps, Option.some.inj found]

end Sealing

section Counter

variable {packager next : Packager} {profile : E2EProfileConfig} {key : StreamKey}
  {frame sealed : CanFrame} {payloads frames : List CanFrame}

def Packager.upcoming (packager : Packager) (key : StreamKey) (profile : E2EProfileConfig) : Nat :=
  (packager.nextCounter key profile).toNat

theorem Packager.upcoming_cast (packager : Packager) (key : StreamKey)
    (profile : E2EProfileConfig) :
    (packager.upcoming key profile : Int) = packager.nextCounter key profile := by
  have positive := profile.consistent.positive
  have cast := modulo_cast profile
  apply Int.toNat_of_nonneg
  unfold Packager.nextCounter
  apply Int.emod_nonneg
  omega

theorem Packager.upcoming_lt (packager : Packager) (key : StreamKey)
    (profile : E2EProfileConfig) : packager.upcoming key profile < profile.modulo := by
  have positive := profile.consistent.positive
  have cast := modulo_cast profile
  have bound : packager.nextCounter key profile < profile.counterModulo := by
    unfold Packager.nextCounter
    apply Int.emod_lt_of_pos
    omega
  rw [← packager.upcoming_cast, ← cast] at bound
  omega

theorem Packager.upcoming_setStream (packager : Packager) (key : StreamKey)
    (profile : E2EProfileConfig) :
    (packager.setStream key (packager.nextCounter key profile)).upcoming key profile =
      (packager.upcoming key profile + 1) % profile.modulo := by
  have successor : (packager.setStream key (packager.nextCounter key profile)).nextCounter key
      profile = (packager.nextCounter key profile + 1) % profile.counterModulo := by
    simp [Packager.nextCounter, Packager.setStream]
  apply Int.ofNat_inj.mp
  rw [Packager.upcoming_cast, successor, ← packager.upcoming_cast, ← modulo_cast]
  push_cast
  rfl

theorem Packager.package_counts (own : key = (frame.channelId, frame.arbitrationId))
    (ok : packager.package frame profile none = (next, .ok sealed)) :
    WellSealed profile sealed (packager.upcoming key profile) ∧
      SealsOnly profile frame.data sealed.data ∧ SameStream frame sealed ∧
      next.upcoming key profile = (packager.upcoming key profile + 1) % profile.modulo := by
  subst own
  unfold Packager.package Packager.resolveCounter at ok
  dsimp only at ok
  obtain ⟨rfl, stamped⟩ := Prod.mk.inj ok
  obtain ⟨same, dlc, payload⟩ := sealFrame_ok stamped
  refine ⟨sealFrame_wellSealed stamped (packager.upcoming_lt _ _),
    sealPayload_sealsOnly payload, same, ?_⟩
  exact packager.upcoming_setStream _ profile

theorem Packager.packageAll_counts
    (stream : ∀ frame ∈ payloads, key = (frame.channelId, frame.arbitrationId))
    (ok : packager.packageAll profile payloads = .ok frames) :
    (∃ last, CountsFrom profile (packager.upcoming key profile) frames last) ∧
      List.Forall₂ (fun frame sealed => SameStream frame sealed ∧
        SealsOnly profile frame.data sealed.data) payloads frames := by
  induction payloads generalizing packager frames with
  | nil =>
      cases ok
      exact ⟨⟨_, rfl⟩, List.Forall₂.nil⟩
  | cons frame rest ih =>
      unfold Packager.packageAll at ok
      split at ok
      · cases ok
      · rename_i next sealed packaged
        split at ok
        · cases ok
        · rename_i others tail
          cases ok
          obtain ⟨whole, only, same, successor⟩ :=
            Packager.package_counts (stream frame List.mem_cons_self) packaged
          obtain ⟨⟨last, counts⟩, pairs⟩ :=
            ih (fun other inside => stream other (List.mem_cons_of_mem frame inside)) tail
          rw [successor] at counts
          exact ⟨⟨last, whole, counts⟩, List.Forall₂.cons ⟨same, only⟩ pairs⟩

end Counter

def verdictOf : Except PackageError E2EValidationResult → Option E2EStatus
  | .ok result => some result.verdict
  | .error _ => none

def successorVerdict (profile : E2EProfileConfig) : E2EStatus :=
  if profile.modulo = 1 then .repeated else .ok

section Reading

variable {profile : E2EProfileConfig} {frame : CanFrame} {key : StreamKey} {previous last : Nat}
  {state : StreamRxState} {dlc timestampNs : Nat} {validator : Validator}
  {receptions : List Reception}

theorem StreamRxState.examine_successor
    (whole : WellSealed profile frame ((previous + 1) % profile.modulo))
    (identifier : key.2 = frame.arbitrationId) (seen : state.lastCounter = some previous)
    (small : previous < profile.modulo) :
    (state.examine key frame.data profile frame.dlc timestampNs).1.lastCounter =
        some ((previous + 1) % profile.modulo) ∧
      ∃ result, (state.examine key frame.data profile frame.dlc timestampNs).2 = .ok result ∧
        result.verdict = successorVerdict profile := by
  unfold successorVerdict
  split
  · rename_i single
    obtain ⟨crc, actual, expected⟩ := whole.checksum
    have zero : previous = 0 := by omega
    have again : progression profile 0 0 = (.repeated, 0) := by
      unfold progression
      rw [← modulo_cast, single]
      rfl
    have counter := whole.counter
    rw [single, Nat.mod_one] at counter
    unfold examine
    rw [if_neg (Nat.not_lt.mpr whole.length), actual, counter, identifier, expected]
    dsimp only
    rw [if_neg (not_not_intro rfl), seen, zero]
    dsimp only
    rw [again, single, Nat.mod_one]
    exact ⟨by rw [← zero]; exact seen, _, rfl, rfl⟩
  · rename_i several
    have positive := profile.consistent.positive
    exact StreamRxState.examine_next whole identifier seen (by omega) small

theorem Validator.verdicts_successors (follows : validator.Follows key (some previous))
    (small : previous < profile.modulo)
    (stream : ∀ reception ∈ receptions,
      key = (reception.frame.channelId, reception.frame.arbitrationId))
    (counts : CountsFrom profile ((previous + 1) % profile.modulo)
      (receptions.map Reception.frame) last) :
    (validator.verdicts profile receptions).map verdictOf =
      List.replicate receptions.length (some (successorVerdict profile)) := by
  induction receptions generalizing validator previous with
  | nil => rfl
  | cons reception rest ih =>
      have same := stream reception List.mem_cons_self
      have identifier : key.2 = reception.frame.arbitrationId := by rw [same]
      have examined (state : StreamRxState) (seen : state.lastCounter = some previous) :=
        @StreamRxState.examine_successor profile reception.frame key previous state
          reception.timestampNs counts.1 identifier seen small
      obtain ⟨followed, result, answered, verdict⟩ :=
        follows.validate reception.now same examined
      have later := ih followed (Nat.mod_lt _ profile.consistent.positive)
        (fun other inside => stream other (List.mem_cons_of_mem reception inside)) counts.2
      unfold Validator.verdicts
      simp only [List.map_cons, List.length_cons, List.replicate_succ, later, answered, verdictOf,
        verdict]

def streamVerdicts (profile : E2EProfileConfig) : Nat → List (Option E2EStatus)
  | 0 => []
  | later + 1 => some .initial :: List.replicate later (some (successorVerdict profile))

theorem Validator.verdicts_stream {first : Nat} (small : first < profile.modulo)
    (stream : ∀ reception ∈ receptions,
      key = (reception.frame.channelId, reception.frame.arbitrationId))
    (counts : CountsFrom profile first (receptions.map Reception.frame) last) :
    (Validator.fresh.verdicts profile receptions).map verdictOf =
      streamVerdicts profile receptions.length := by
  cases receptions with
  | nil => rfl
  | cons reception rest =>
      have unseen : Validator.fresh.Follows key none :=
        ⟨Finset.notMem_empty key, Or.inl ⟨rfl, rfl, rfl⟩⟩
      have same := stream reception List.mem_cons_self
      have identifier : key.2 = reception.frame.arbitrationId := by rw [same]
      have examined (state : StreamRxState) (fresh : state.lastCounter = none) :
          (state.examine key reception.frame.data profile reception.frame.dlc
              reception.timestampNs).1.lastCounter = some first ∧
            ∃ result, (state.examine key reception.frame.data profile reception.frame.dlc
              reception.timestampNs).2 = .ok result ∧ result.verdict = .initial :=
        StreamRxState.examine_first counts.1 identifier fresh
      obtain ⟨followed, result, answered, verdict⟩ :=
        unseen.validate reception.now same examined
      have later := Validator.verdicts_successors followed small
        (fun other inside => stream other (List.mem_cons_of_mem reception inside)) counts.2
      unfold Validator.verdicts
      simp only [List.map_cons, List.length_cons, streamVerdicts, later, answered, verdictOf,
        verdict]

end Reading

/-- A fresh receiver takes the first frame of a sealed stream for its first and
every later one for its successor, and sealing changes only the counter field, the
checksum byte and the padding. -/
theorem sealed_stream_agrees (profile : E2EProfileConfig) (packager : Packager) (key : StreamKey)
    (payloads frames : List CanFrame) (receptions : List Reception)
    (several : 2 ≤ profile.counterModulo)
    (stream : ∀ frame ∈ payloads, key = (frame.channelId, frame.arbitrationId))
    (ok : packager.packageAll profile payloads = .ok frames)
    (arrived : receptions.map Reception.frame = frames) :
    (Validator.fresh.verdicts profile receptions).map verdictOf =
        (match receptions with
        | [] => []
        | _ :: later => some .initial :: later.map (fun _ => some .ok)) ∧
      List.Forall₂ (fun frame sealed => SealsOnly profile frame.data sealed.data)
        payloads frames := by
  obtain ⟨⟨last, counts⟩, pairs⟩ := Packager.packageAll_counts stream ok
  have cast := modulo_cast profile
  have own : ∀ reception ∈ receptions,
      key = (reception.frame.channelId, reception.frame.arbitrationId) := by
    intro reception member
    have present : reception.frame ∈ frames := by
      rw [← arrived]
      exact List.mem_map_of_mem member
    obtain ⟨index, bound, here⟩ := List.getElem_of_mem present
    have bound' : index < payloads.length := pairs.length_eq ▸ bound
    have same := (List.forall₂_iff_get.mp pairs).2 index bound' bound
    rw [List.get_eq_getElem, List.get_eq_getElem, here] at same
    rw [same.1.channelId, same.1.arbitrationId]
    exact stream _ (List.getElem_mem bound')
  rw [← arrived] at counts
  refine ⟨?_, pairs.imp fun _ _ both => both.2⟩
  rw [Validator.verdicts_stream (packager.upcoming_lt key profile) own counts]
  cases receptions with
  | nil => rfl
  | cons reception later =>
      have successor : successorVerdict profile = .ok := if_neg (by omega)
      simp [streamVerdicts, successor]

section Bench

def additiveFields (modulo : Int) : E2EProfileFields where
  profileType := .toyota
  crcByteOffset := 7
  counterByteOffset := 6
  counterModulo := modulo

def twoCounts : E2EProfileConfig := ⟨additiveFields 2, by decide⟩

def oneCount : E2EProfileConfig := ⟨additiveFields 1, by decide⟩

def plainFields : FrameFields where
  channelId := "can0"
  arbitrationId := 0x123
  dlc := 3
  data := [1, 2, 3]

def plainFrame : CanFrame := ⟨plainFields, by decide⟩

def sealedBy (profile : E2EProfileConfig) (count : Nat) : List CanFrame :=
  match Packager.fresh.packageAll profile (List.replicate count plainFrame) with
  | .ok frames => frames
  | .error _ => []

def received (frames : List CanFrame) : List Reception := frames.map (fun frame => ⟨frame, 0, 0⟩)

theorem received_frames (frames : List CanFrame) :
    (received frames).map Reception.frame = frames := by
  induction frames with
  | nil => rfl
  | cons frame rest ih => exact congrArg (frame :: ·) ih

theorem sealed_stream_agrees_wrap :
    (Validator.fresh.verdicts twoCounts (received (sealedBy twoCounts 4))).map verdictOf =
      [some .initial, some .ok, some .ok, some .ok] :=
  (sealed_stream_agrees twoCounts Packager.fresh ("can0", 0x123) (List.replicate 4 plainFrame)
    (sealedBy twoCounts 4) (received (sealedBy twoCounts 4)) (by decide)
    (by simp; exact ⟨rfl, rfl⟩) (by decide +kernel) (received_frames _)).1

/-- With a single counter value the second frame is reported as a repetition. -/
theorem single_count_repeats :
    ¬ ∀ (profile : E2EProfileConfig) (packager : Packager) (key : StreamKey)
        (payloads frames : List CanFrame) (receptions : List Reception),
      (∀ frame ∈ payloads, key = (frame.channelId, frame.arbitrationId)) →
      packager.packageAll profile payloads = .ok frames →
      receptions.map Reception.frame = frames →
      (Validator.fresh.verdicts profile receptions).map verdictOf =
        (match receptions with
        | [] => []
        | _ :: later => some .initial :: later.map (fun _ => some .ok)) := by
  intro agrees
  have read := agrees oneCount Packager.fresh ("can0", 0x123) (List.replicate 2 plainFrame)
    (sealedBy oneCount 2) (received (sealedBy oneCount 2)) (by simp; exact ⟨rfl, rfl⟩)
    (by decide +kernel) (received_frames _)
  exact absurd read (by decide +kernel)

end Bench

end Ucanlab.Safety.E2E

/-!
What a packaging call that raises leaves of the counter of its stream. The counter is stored before
the payload is sealed, so only a refused counter leaves the stream as it was.
-/

namespace Ucanlab.Safety.E2E

open Ucanlab

def payloadDlc (length : Nat) : Option Int → Except FrameError Nat
  | some dlc => .ok (dlc % 256).toNat
  | none => lengthToDlc length

/-- The sealed bytes, the counter and the checksum of `package_payload`. -/
def sealRaw (data : Bytes) (profile : E2EProfileConfig) (arbitrationId : Nat) (dlc : Option Int)
    (counter : Nat) : Except PackageError (Bytes × Nat × UInt8) :=
  match injectCounter (ensureMinLen data profile.minLen) counter profile with
  | .error e => .error e
  | .ok counted =>
      match payloadDlc counted.length dlc with
      | .error e => .error (.frame e)
      | .ok code =>
          match computeChecksum counted profile arbitrationId code with
          | .error e => .error e
          | .ok crc =>
              match injectCrc counted crc profile with
              | .error e => .error e
              | .ok bytes => .ok (bytes, counter, crc)

def Packager.packagePayload (packager : Packager) (data : Bytes) (profile : E2EProfileConfig)
    (key : StreamKey) (dlc counter : Option Int) :
    Packager × Except PackageError (Bytes × Nat × UInt8) :=
  match packager.resolveCounter key profile counter with
  | .error e => (packager, .error e)
  | .ok (used, counted) => (counted, sealRaw data profile key.2 dlc used.toNat)

/-- An explicit counter that repeats the last one or goes back behind it. -/
def Packager.refuses (packager : Packager) (key : StreamKey) (profile : E2EProfileConfig)
    (counter : Option Int) : Bool :=
  match counter, packager.counters key with
  | some requested, some current =>
      decide (requested % profile.counterModulo ≠ (current + 1) % profile.counterModulo ∧
        requested % profile.counterModulo ≤ current ∧
        ¬ (current = profile.counterModulo - 1 ∧ requested % profile.counterModulo = 0))
  | _, _ => false

def Packager.standsStill (packager : Packager) (key : StreamKey) (profile : E2EProfileConfig) :
    Bool :=
  decide (profile.counterModulo = 1 ∧ packager.counters key = some 0)

section Counter

variable {packager : Packager} {key : StreamKey} {profile : E2EProfileConfig}
  {counter : Option Int}

theorem positive_modulo (profile : E2EProfileConfig) : 0 < profile.counterModulo := by
  have positive := profile.consistent.positive
  have same := modulo_cast profile
  omega

theorem modulo_of_own_successor {modulo current : Int} (positive : 0 < modulo)
    (same : (current + 1) % modulo = current) : modulo = 1 ∧ current = 0 := by
  have least := Int.emod_nonneg (current + 1) (by omega : modulo ≠ 0)
  have below := Int.emod_lt_of_pos (current + 1) positive
  rw [same] at least below
  by_cases last : current + 1 = modulo
  · rw [last, Int.emod_self] at same
    omega
  · rw [Int.emod_eq_of_lt (by omega) (by omega)] at same
    omega

theorem resolveCounter_spec (packager : Packager) (key : StreamKey) (profile : E2EProfileConfig)
    (counter : Option Int) :
    (packager.refuses key profile counter = true ∧
        ∃ error, packager.resolveCounter key profile counter = .error error) ∨
      (packager.refuses key profile counter = false ∧ ∃ used,
        packager.resolveCounter key profile counter = .ok (used, packager.setStream key used) ∧
          (packager.counters key = some used ↔ packager.standsStill key profile = true)) := by
  have positive := positive_modulo profile
  unfold Packager.refuses Packager.resolveCounter Packager.nextCounter Packager.standsStill
  cases stored : packager.counters key with
  | none =>
      refine Or.inr ?_
      cases counter with
      | none => exact ⟨rfl, _, rfl, iff_of_false nofun (by simp)⟩
      | some requested => exact ⟨rfl, _, rfl, iff_of_false nofun (by simp)⟩
  | some current =>
      cases counter with
      | none =>
          refine Or.inr ⟨rfl, _, rfl, ?_⟩
          rw [Option.getD_some, decide_eq_true_iff]
          constructor
          · intro same
            obtain ⟨one, zero⟩ := modulo_of_own_successor positive (Option.some.inj same).symm
            exact ⟨one, congrArg some zero⟩
          · rintro ⟨one, zero⟩
            rw [one, Int.emod_one]
            exact zero
      | some requested =>
          dsimp only
          by_cases refused : requested % profile.counterModulo ≠
              (current + 1) % profile.counterModulo ∧
              requested % profile.counterModulo ≤ current ∧
              ¬ (current = profile.counterModulo - 1 ∧ requested % profile.counterModulo = 0)
          · rw [if_pos refused]
            exact Or.inl ⟨decide_eq_true refused, _, rfl⟩
          · rw [if_neg refused]
            refine Or.inr ⟨decide_eq_false refused, _, rfl, ?_⟩
            rw [decide_eq_true_iff]
            constructor
            · intro same
              have own := Option.some.inj same
              by_cases expected : requested % profile.counterModulo =
                  (current + 1) % profile.counterModulo
              · rw [← own] at expected
                obtain ⟨one, zero⟩ := modulo_of_own_successor positive expected.symm
                exact ⟨one, congrArg some zero⟩
              · have wraps : current = profile.counterModulo - 1 ∧
                    requested % profile.counterModulo = 0 := by
                  by_contra other
                  exact refused ⟨expected, Int.le_of_eq own.symm, other⟩
                have zero : current = 0 := own.trans wraps.2
                exact ⟨by omega, congrArg some zero⟩
            · rintro ⟨one, zero⟩
              rw [one, Int.emod_one]
              exact zero

theorem setStream_own (packager : Packager) (key : StreamKey) (value : Int) :
    (packager.setStream key value).counters key = some value := if_pos rfl

end Counter

/-- A call that raises leaves the counter of its stream as it was if and only if it refused the
counter it was given, or the stream has one counter value only. -/
theorem raised_package_atomic_iff (packager : Packager) (profile : E2EProfileConfig)
    (counter : Option Int) :
    (∀ (frame : CanFrame) (error : PackageError),
      (packager.package frame profile counter).2 = .error error →
        ((packager.package frame profile counter).1.counters
              (frame.channelId, frame.arbitrationId) =
            packager.counters (frame.channelId, frame.arbitrationId) ↔
          packager.refuses (frame.channelId, frame.arbitrationId) profile counter = true ∨
            packager.standsStill (frame.channelId, frame.arbitrationId) profile = true)) ∧
    ∀ (data : Bytes) (key : StreamKey) (dlc : Option Int) (error : PackageError),
      (packager.packagePayload data profile key dlc counter).2 = .error error →
        ((packager.packagePayload data profile key dlc counter).1.counters key =
            packager.counters key ↔
          packager.refuses key profile counter = true ∨
            packager.standsStill key profile = true) := by
  constructor
  · intro frame error _
    unfold Packager.package
    rcases resolveCounter_spec packager (frame.channelId, frame.arbitrationId) profile counter with
      ⟨refused, cause, raised⟩ | ⟨accepted, used, resolved, stored⟩
    · rw [raised]
      exact iff_of_true rfl (Or.inl refused)
    · rw [resolved, accepted]
      dsimp only
      rw [setStream_own, eq_comm, stored]
      exact (or_iff_right Bool.false_ne_true).symm
  · intro data key dlc error _
    unfold Packager.packagePayload
    rcases resolveCounter_spec packager key profile counter with
      ⟨refused, cause, raised⟩ | ⟨accepted, used, resolved, stored⟩
    · rw [raised]
      exact iff_of_true rfl (Or.inl refused)
    · rw [resolved, accepted]
      dsimp only
      rw [setStream_own, eq_comm, stored]
      exact (or_iff_right Bool.false_ne_true).symm

def listless : E2EProfileConfig := ⟨{ profileType := .autosarProfile2 }, by decide⟩

def sentFour : Packager := Packager.fresh.setStream ("can0", 0x123) 4

theorem raised_package_atomic_samples :
    (sentFour.package plainFrame listless (some 3)).1.counters ("can0", 0x123) = some 4 ∧
      (sentFour.packagePayload [1, 2, 3] listless ("can0", 0x123) none none).1.counters
        ("can0", 0x123) ≠ sentFour.counters ("can0", 0x123) := by
  constructor
  · exact ((raised_package_atomic_iff sentFour listless (some 3)).1 plainFrame
      (.counterRewind 4 3 5) (by decide)).mpr (Or.inl (by decide))
  · intro same
    exact absurd (((raised_package_atomic_iff sentFour listless none).2 [1, 2, 3] ("can0", 0x123)
      none .dataIdList (by decide)).mp same) (by decide)

theorem listless_package_spends_counter :
    (sentFour.package plainFrame listless none).2 = .error .dataIdList ∧
      (sentFour.package plainFrame listless none).1.counters ("can0", 0x123) = some 5 ∧
      sentFour.counters ("can0", 0x123) = some 4 :=
  ⟨by decide, by decide, by decide⟩

end Ucanlab.Safety.E2E
