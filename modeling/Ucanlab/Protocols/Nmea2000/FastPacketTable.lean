import Ucanlab.Protocols.Nmea2000.FastPacket

/-!
The session table of the Fast Packet decoder: its bounds over all runs, and what
a received frame can do to the session of a key.
-/

namespace Ucanlab.Nmea2000

open Ucanlab J1939 EventRun

variable {decoder : FastPacketDecoder} {sessions fewer roomy : Dict FastPacketKey FastPacketSession}
  {key other : FastPacketKey} {session : FastPacketSession} {arrival : Arrival} {address now : Nat}

def Carries (key : FastPacketKey) (session : FastPacketSession) : Prop :=
  session.sourceAddress = key.sourceAddress ∧ session.destinationAddress = key.destinationAddress ∧
    session.pgn = key.pgn ∧ session.sequenceId = key.sequenceId ∧ session.channelId = key.channelId

structure Bounded (sessions : Dict FastPacketKey FastPacketSession) : Prop where
  distinct : sessions.keys.Nodup
  capped : sessions.length ≤ maxConcurrent
  quota : ∀ address, sourceSessions sessions address ≤ maxPerSa
  carried : ∀ entry ∈ sessions, Carries entry.1 entry.2

theorem Bounded.sublist (bounded : Bounded sessions) (shorter : fewer.Sublist sessions) :
    Bounded fewer where
  distinct := bounded.distinct.sublist (shorter.map Prod.fst)
  capped := Nat.le_trans shorter.length_le bounded.capped
  quota address := Nat.le_trans (shorter.countP_le) (bounded.quota address)
  carried entry member := bounded.carried entry (shorter.subset member)

theorem Bounded.erase (bounded : Bounded sessions) (key : FastPacketKey) :
    Bounded (sessions.erase key) :=
  bounded.sublist List.filter_sublist

theorem sourceSessions_eq_keys (sessions : Dict FastPacketKey FastPacketSession) (address : Nat) :
    sourceSessions sessions address =
      sessions.keys.countP (fun key => decide (key.sourceAddress = address)) := by
  unfold sourceSessions Dict.keys
  rw [List.countP_map]
  rfl

theorem Bounded.replace (bounded : Bounded sessions) (present : key ∈ sessions.keys)
    (carries : Carries key session) : Bounded (sessions.set key session) := by
  have same := Dict.keys_set_of_present session present
  refine ⟨same.symm ▸ bounded.distinct, ?_, fun address => ?_, fun entry member => ?_⟩
  · rw [Dict.length_set_of_present session present]
    exact bounded.capped
  · rw [sourceSessions_eq_keys, same, ← sourceSessions_eq_keys]
    exact bounded.quota address
  · rcases Dict.mem_of_mem_set member with new | old
    · rw [new]
      exact carries
    · exact bounded.carried entry old

theorem makeRoom_spec (absent : key ∉ sessions.keys) (bounded : Bounded sessions)
    (room : makeRoom sessions key = some roomy) :
    roomy.Sublist sessions ∧ roomy.length < maxConcurrent ∧
      sourceSessions roomy key.sourceAddress < maxPerSa := by
  unfold makeRoom at room
  split at room
  · rename_i present
    exact absurd (Dict.contains_iff.mp present) absent
  · split at room
    · cases room
    · rename_i quota
      have below := Nat.lt_of_not_le quota
      split at room
      · rename_i full
        split at room
        · rename_i oldest selected
          cases room
          have member : oldest ∈ sessions := List.argmin_mem selected
          have shorter : (sessions.erase oldest.1).Sublist sessions := List.filter_sublist
          have fewer := Dict.length_erase_lt (Dict.mem_keys member)
          exact ⟨shorter, Nat.lt_of_lt_of_le fewer bounded.capped,
            Nat.lt_of_le_of_lt shorter.countP_le below⟩
        · rename_i nobody
          rw [List.argmin_eq_none.mp nobody] at full
          exact absurd full (by decide)
      · rename_i notFull
        cases room
        exact ⟨List.Sublist.refl _, Nat.lt_of_not_le notFull, below⟩

theorem admitted_key {frame : CanFrame} (admits : admitted frame = some key) :
    key = sessionKey frame := by
  unfold admitted at admits
  dsimp only at admits
  split at admits
  · cases admits
  · split at admits
    · cases admits
    · split at admits
      · cases admits
      · split at admits
        · cases admits
        · split at admits
          · cases admits
          · cases admits
            rfl

theorem freshSession_carries (admits : admitted arrival.frame = some key) :
    Carries key (freshSession key arrival) := by
  rw [admitted_key admits]
  exact ⟨rfl, rfl, rfl, rfl, rfl⟩

theorem openSession_cases (sessions : Dict FastPacketKey FastPacketSession) (key : FastPacketKey)
    (arrival : Arrival) :
    openSession sessions key arrival = sessions ∨
      (wellSized arrival.frame = true ∧ ∃ roomy, makeRoom sessions key = some roomy ∧
        openSession sessions key arrival = roomy.set key (freshSession key arrival)) := by
  unfold openSession
  split
  · exact Or.inl rfl
  · rename_i sized
    cases room : makeRoom sessions key with
    | none => exact Or.inl rfl
    | some roomy => exact Or.inr ⟨not_not.mp sized, roomy, rfl, rfl⟩

theorem Bounded.openSession (bounded : Bounded sessions) (absent : key ∉ sessions.keys)
    (admits : admitted arrival.frame = some key) :
    Bounded (openSession sessions key arrival) := by
  rcases openSession_cases sessions key arrival with same | ⟨_, roomy, room, opened⟩
  · rw [same]
    exact bounded
  · obtain ⟨shorter, capped, quota⟩ := makeRoom_spec absent bounded room
    have kept := bounded.sublist shorter
    have vacant : key ∉ roomy.keys := fun member => absent ((shorter.map Prod.fst).subset member)
    have stored := Dict.set_of_absent (freshSession key arrival) vacant
    rw [opened]
    refine ⟨Dict.nodup_keys_set kept.distinct key _, ?_, fun address => ?_, fun entry member => ?_⟩
    · rw [stored, List.length_append]
      exact capped
    · rw [stored]
      unfold sourceSessions
      rw [List.countP_append]
      by_cases own : key.sourceAddress = address
      · rw [← own]
        have counted : List.countP (fun entry : FastPacketKey × FastPacketSession =>
            decide (entry.1.sourceAddress = key.sourceAddress))
            [(key, freshSession key arrival)] = 1 := by simp
        rw [counted]
        exact quota
      · have counted : List.countP (fun entry : FastPacketKey × FastPacketSession =>
            decide (entry.1.sourceAddress = address)) [(key, freshSession key arrival)] = 0 := by
          simp [own]
        rw [counted]
        exact kept.quota address
    · rcases Dict.mem_of_mem_set member with new | old
      · rw [new]
        exact freshSession_carries admits
      · exact kept.carried entry old

structure FastPacketDecoder.Tidy (decoder : FastPacketDecoder) : Prop where
  bounded : Bounded decoder.sessions
  marks : decoder.restartMarks.keys.Nodup

theorem boundMarks_sublist (marks : Dict RestartKey RestartMark) :
    (boundMarks marks).Sublist marks := by
  unfold boundMarks
  split
  · exact List.drop_sublist _ marks
  · exact List.Sublist.refl marks

theorem cleanExpired_marks_sublist (decoder : FastPacketDecoder) (now : Nat) :
    (cleanExpired decoder now).restartMarks.Sublist decoder.restartMarks :=
  (boundMarks_sublist _).trans List.filter_sublist

theorem FastPacketDecoder.Tidy.cleanExpired (tidy : decoder.Tidy) (now : Nat) :
    (cleanExpired decoder now).Tidy where
  bounded := tidy.bounded.sublist List.filter_sublist
  marks := tidy.marks.sublist ((cleanExpired_marks_sublist decoder now).map Prod.fst)

theorem FastPacketDecoder.Tidy.handleFirst (tidy : decoder.Tidy)
    (admits : admitted arrival.frame = some key) : (handleFirst decoder key arrival).Tidy := by
  unfold Nmea2000.handleFirst
  split
  · rename_i absent
    exact ⟨tidy.bounded.openSession (Dict.get?_eq_none_iff.mp absent) admits, tidy.marks⟩
  · split
    · exact tidy
    · rename_i marks passed
      have vacant : key ∉ (decoder.sessions.erase key).keys :=
        Dict.get?_eq_none_iff.mp (Dict.get?_erase_self decoder.sessions key)
      refine ⟨(tidy.bounded.erase key).openSession vacant admits, ?_⟩
      obtain ⟨mark, _, stored⟩ := Option.map_eq_some_iff.mp passed
      rw [← stored]
      exact Dict.nodup_keys_set tidy.marks key.restartKey mark

theorem continueSession_cases (session : FastPacketSession) (pgn : Nat) (arrival : Arrival) :
    continueSession session pgn arrival = (none, none) ∨
      (takes session arrival.frame = true ∧
        (((extend session arrival).receivedBytes.length < (extend session arrival).totalBytes ∧
            continueSession session pgn arrival = (some (extend session arrival), none)) ∨
          ((extend session arrival).totalBytes ≤ (extend session arrival).receivedBytes.length ∧
            continueSession session pgn arrival =
              (none, some (completedMessage (extend session arrival) pgn arrival))))) := by
  unfold continueSession
  dsimp only
  split
  · exact Or.inl rfl
  · rename_i taken
    refine Or.inr ⟨not_not.mp taken, ?_⟩
    split
    · rename_i complete
      exact Or.inr ⟨complete, rfl⟩
    · rename_i incomplete
      exact Or.inl ⟨Nat.lt_of_not_le incomplete, rfl⟩

theorem FastPacketDecoder.Tidy.handleConsecutive (tidy : decoder.Tidy) :
    (handleConsecutive decoder key arrival).1.Tidy := by
  unfold Nmea2000.handleConsecutive
  split
  · exact tidy
  · rename_i session found
    have member := Dict.mem_of_get? found
    have carries := tidy.bounded.carried _ member
    rcases continueSession_cases session key.pgn arrival with
      ended | ⟨_, ⟨_, continued⟩ | ⟨_, completed⟩⟩
    · rw [ended]
      exact ⟨tidy.bounded.erase key, tidy.marks⟩
    · rw [continued]
      exact ⟨tidy.bounded.replace (Dict.mem_keys member) carries, tidy.marks⟩
    · rw [completed]
      exact ⟨tidy.bounded.erase key, tidy.marks⟩

theorem FastPacketDecoder.Tidy.handleRxFrame (tidy : decoder.Tidy) (arrival : Arrival) :
    (handleRxFrame decoder arrival).1.Tidy := by
  unfold Nmea2000.handleRxFrame
  split
  · exact tidy
  · rename_i key admits
    unfold handleLocked
    split
    · exact (tidy.cleanExpired arrival.now).handleFirst admits
    · exact (tidy.cleanExpired arrival.now).handleConsecutive

section Handled

variable {message : N2KCompletedMessage}

theorem get?_of_cleanExpired (tidy : decoder.Tidy)
    (found : (cleanExpired decoder now).sessions.get? key = some session) :
    decoder.sessions.get? key = some session :=
  Dict.get?_of_sublist tidy.bounded.distinct List.filter_sublist found

theorem get?_of_openSession (bounded : Bounded sessions) (absent : key ∉ sessions.keys)
    (apart : other ≠ key)
    (found : (openSession sessions key arrival).get? other = some session) :
    sessions.get? other = some session := by
  rcases openSession_cases sessions key arrival with same | ⟨_, roomy, room, opened⟩
  · rw [same] at found
    exact found
  · obtain ⟨shorter, _⟩ := makeRoom_spec absent bounded room
    rw [opened, Dict.get?_set_ne roomy apart] at found
    exact Dict.get?_of_sublist bounded.distinct shorter found

theorem session_of_handleFirst
    (found : (handleFirst decoder key arrival).sessions.get? key = some session) :
    (wellSized arrival.frame = true ∧ session = freshSession key arrival) ∨
      decoder.sessions.get? key = some session := by
  have opens {table : Dict FastPacketKey FastPacketSession} (vacant : table.get? key = none)
      (stored : (openSession table key arrival).get? key = some session) :
      wellSized arrival.frame = true ∧ session = freshSession key arrival := by
    rcases openSession_cases table key arrival with same | ⟨sized, roomy, _, opened⟩
    · rw [same, vacant] at stored
      cases stored
    · rw [opened, Dict.get?_set_self] at stored
      cases stored
      exact ⟨sized, rfl⟩
  unfold handleFirst at found
  split at found
  · rename_i absent
    exact Or.inl (opens absent found)
  · split at found
    · exact Or.inr found
    · exact Or.inl (opens (Dict.get?_erase_self decoder.sessions key) found)

theorem session_of_handleFirst_other (tidy : decoder.Tidy) (apart : other ≠ key)
    (found : (handleFirst decoder key arrival).sessions.get? other = some session) :
    decoder.sessions.get? other = some session := by
  unfold handleFirst at found
  split at found
  · rename_i absent
    exact get?_of_openSession tidy.bounded (Dict.get?_eq_none_iff.mp absent) apart found
  · split at found
    · exact found
    · have vacant : key ∉ (decoder.sessions.erase key).keys :=
        Dict.get?_eq_none_iff.mp (Dict.get?_erase_self decoder.sessions key)
      have kept := get?_of_openSession (tidy.bounded.erase key) vacant apart found
      rw [Dict.get?_erase_ne decoder.sessions apart] at kept
      exact kept

theorem sessions_of_handleConsecutive_other (apart : other ≠ key) :
    (handleConsecutive decoder key arrival).1.sessions.get? other =
      decoder.sessions.get? other := by
  unfold handleConsecutive
  split
  · rfl
  · split
    · exact Dict.get?_erase_ne decoder.sessions apart
    · exact Dict.get?_set_ne decoder.sessions apart _

theorem session_of_handleConsecutive
    (found : (handleConsecutive decoder key arrival).1.sessions.get? key = some session) :
    ∃ before, decoder.sessions.get? key = some before ∧ takes before arrival.frame = true ∧
      session = extend before arrival ∧ session.receivedBytes.length < session.totalBytes := by
  unfold handleConsecutive at found
  split at found
  · rename_i absent
    rw [absent] at found
    cases found
  · rename_i before present
    refine ⟨before, present, ?_⟩
    rcases continueSession_cases before key.pgn arrival with
      ended | ⟨taken, ⟨short, continued⟩ | ⟨_, completed⟩⟩
    · rw [ended, Dict.get?_erase_self] at found
      cases found
    · rw [continued, Dict.get?_set_self] at found
      cases found
      exact ⟨taken, rfl, short⟩
    · rw [completed, Dict.get?_erase_self] at found
      cases found

theorem message_of_handleConsecutive
    (completes : (handleConsecutive decoder key arrival).2 = some message) :
    ∃ before, decoder.sessions.get? key = some before ∧ takes before arrival.frame = true ∧
      before.totalBytes ≤ (extend before arrival).receivedBytes.length ∧
      message = completedMessage (extend before arrival) key.pgn arrival := by
  unfold handleConsecutive at completes
  split at completes
  · cases completes
  · rename_i before present
    refine ⟨before, present, ?_⟩
    rcases continueSession_cases before key.pgn arrival with
      ended | ⟨taken, ⟨_, continued⟩ | ⟨enough, completed⟩⟩
    · rw [ended] at completes
      cases completes
    · rw [continued] at completes
      cases completes
    · rw [completed] at completes
      cases completes
      exact ⟨taken, enough, rfl⟩

theorem session_of_other (tidy : decoder.Tidy) (apart : admitted arrival.frame ≠ some key)
    (found : (handleRxFrame decoder arrival).1.sessions.get? key = some session) :
    decoder.sessions.get? key = some session := by
  unfold handleRxFrame at found
  split at found
  · exact found
  · rename_i own admits
    have ne : key ≠ own := fun same => apart (same ▸ admits)
    have swept := tidy.cleanExpired arrival.now
    unfold handleLocked at found
    split at found
    · exact get?_of_cleanExpired tidy (session_of_handleFirst_other swept ne found)
    · rw [sessions_of_handleConsecutive_other ne] at found
      exact get?_of_cleanExpired tidy found

end Handled

theorem receive_some {used next : FastPacketUse} (received : receive used arrival = some next) :
    used.clock ≤ arrival.now ∧ next.decoder = (handleRxFrame used.decoder arrival).1 ∧
      next.clock = arrival.now ∧ next.completed = used.completed ++
        (handleRxFrame used.decoder arrival).2.toList.map
          (fun message => (sessionKey arrival.frame, message)) := by
  unfold receive at received
  split at received
  · cases received
  · rename_i notBack
    cases received
    exact ⟨Nat.le_of_not_lt notBack, rfl, rfl, rfl⟩

theorem tidy_fresh : fresh.decoder.Tidy :=
  ⟨⟨List.nodup_nil, Nat.zero_le _, fun _ => Nat.zero_le _, fun _ member => nomatch member⟩,
    List.nodup_nil⟩

theorem tidy_of_run {arrivals : List Arrival} {used last : FastPacketUse} (tidy : used.decoder.Tidy)
    (ran : run receive used arrivals = some last) : last.decoder.Tidy := by
  have kept (state : FastPacketUse) (arrival : Arrival) (next : FastPacketUse)
      (tidy : state.decoder.Tidy) (received : receive state arrival = some next) :
      next.decoder.Tidy := by
    rw [(receive_some received).2.1]
    exact tidy.handleRxFrame arrival
  exact run_invariant kept tidy ran

end Ucanlab.Nmea2000

/-!
Index-0 frames that open no session. A restart drops the session in flight before the frame is
looked at, so a refused restart costs that session.
-/

namespace Ucanlab.Nmea2000

open Ucanlab J1939

/-- Why a frame opens no session, in the order of the checks. -/
inductive Refusal where
  | notFastPacket
  | restartRate
  | declaredLength
  | frameLength
  | quota
  deriving DecidableEq, Repr

/-- The checks behind the restart gate, with what the restart left of the table. -/
def sizeRefusal (sessions : Dict FastPacketKey FastPacketSession) (key : FastPacketKey)
    (frame : CanFrame) : Option Refusal :=
  if ¬ (9 ≤ byteAt frame 1 ∧ byteAt frame 1 ≤ 223) then some .declaredLength
  else if frame.data.length ≠ 8 then some .frameLength
  else if (makeRoom sessions key).isNone then some .quota
  else none

def firstRefusal (decoder : FastPacketDecoder) (key : FastPacketKey) (arrival : Arrival) :
    Option Refusal :=
  if decoder.sessions.contains key then
    if (checkRestartRateLimit decoder.restartMarks key.restartKey arrival.now).isNone then
      some .restartRate
    else sizeRefusal (decoder.sessions.erase key) key arrival.frame
  else sizeRefusal decoder.sessions key arrival.frame

def refusal (decoder : FastPacketDecoder) (arrival : Arrival) : Option Refusal :=
  match admitted arrival.frame with
  | none => some .notFastPacket
  | some key => firstRefusal (cleanExpired decoder arrival.now) key arrival

def inFlight (decoder : FastPacketDecoder) (now : Nat) : Dict FastPacketKey FastPacketSession :=
  decoder.sessions.filter (fun entry => !expired now entry.2)

def restartsSession (decoder : FastPacketDecoder) (arrival : Arrival) : Bool :=
  match admitted arrival.frame with
  | none => false
  | some key =>
      (inFlight decoder arrival.now).contains key &&
        (checkRestartRateLimit (cleanExpired decoder arrival.now).restartMarks key.restartKey
          arrival.now).isSome

section First

variable {sessions : Dict FastPacketKey FastPacketSession} {decoder : FastPacketDecoder}
  {key : FastPacketKey} {arrival : Arrival}

theorem openSession_of_sizeRefusal (refused : (sizeRefusal sessions key arrival.frame).isSome) :
    openSession sessions key arrival = sessions := by
  unfold openSession
  unfold sizeRefusal at refused
  by_cases sized : wellSized arrival.frame = true
  · obtain ⟨least, most, eight⟩ := of_decide_eq_true sized
    rw [if_neg (not_not_intro ⟨least, most⟩), if_neg (not_not_intro eight)] at refused
    rw [if_neg (not_not_intro sized)]
    cases room : makeRoom sessions key with
    | none => rfl
    | some roomy =>
        rw [room] at refused
        cases refused
  · rw [if_pos sized]

theorem handleFirst_of_refused (refused : (firstRefusal decoder key arrival).isSome) :
    (handleFirst decoder key arrival).sessions =
      if decoder.sessions.contains key &&
          (checkRestartRateLimit decoder.restartMarks key.restartKey arrival.now).isSome then
        decoder.sessions.erase key
      else decoder.sessions := by
  unfold firstRefusal Dict.contains at refused
  unfold handleFirst Dict.contains
  cases present : decoder.sessions.get? key with
  | none =>
      rw [present] at refused
      exact openSession_of_sizeRefusal refused
  | some stale =>
      rw [present] at refused
      cases gate : checkRestartRateLimit decoder.restartMarks key.restartKey arrival.now with
      | none => rfl
      | some marks =>
          rw [gate] at refused
          exact openSession_of_sizeRefusal refused

theorem inFlight_cleanExpired (decoder : FastPacketDecoder) (now : Nat) :
    (cleanExpired decoder now).sessions = inFlight decoder now := rfl

end First

/-- A refused frame leaves the sessions in flight as they were unless it restarts one. -/
theorem refused_first_harmless_iff (decoder : FastPacketDecoder) (arrival : Arrival)
    (first : frameIndex arrival.frame = 0) (refused : (refusal decoder arrival).isSome) :
    inFlight (handleRxFrame decoder arrival).1 arrival.now = inFlight decoder arrival.now ↔
      restartsSession decoder arrival = false := by
  unfold refusal at refused
  unfold handleRxFrame restartsSession
  cases admits : admitted arrival.frame with
  | none => exact iff_of_true rfl rfl
  | some key =>
      rw [admits] at refused
      have opened := handleFirst_of_refused refused
      rw [inFlight_cleanExpired] at opened
      dsimp only
      unfold handleLocked
      rw [if_pos first]
      unfold inFlight at opened ⊢
      dsimp only
      rw [opened]
      split
      · rename_i restarts
        rw [restarts]
        refine iff_of_false ?_ nofun
        intro same
        have present := Dict.contains_iff.mp (Bool.and_eq_true_iff.mp restarts).1
        have fewer := Dict.length_erase_lt present
        have atMost := List.length_filter_le
          (fun entry : FastPacketKey × FastPacketSession => !expired arrival.now entry.2)
          (Dict.erase (decoder.sessions.filter (fun entry => !expired arrival.now entry.2)) key)
        rw [same] at atMost
        exact absurd atMost (Nat.not_le.mpr fewer)
      · rename_i stays
        refine iff_of_true ?_ (Bool.not_eq_true _ ▸ stays)
        rw [List.filter_filter]
        simp only [Bool.and_self]

def longRequest : CanFrame := ⟨requestFrame 0x10 [0x20, 20, 1, 2, 3, 4, 5, 6], by decide⟩

/-- The same transfer with a declared length that no transfer has. -/
def undersizedRequest : CanFrame := ⟨requestFrame 0x10 [0x20, 5, 1, 2, 3, 4, 5, 6], by decide⟩

def requested : FastPacketDecoder := (handleRxFrame {} ⟨longRequest, 0, 0⟩).1

theorem refused_first_harmless_samples :
    inFlight (handleRxFrame {} ⟨undersizedRequest, 1, 1⟩).1 1 = inFlight {} 1 ∧
      inFlight (handleRxFrame requested ⟨undersizedRequest, 1, 1⟩).1 1 ≠ inFlight requested 1 := by
  constructor
  · exact (refused_first_harmless_iff {} ⟨undersizedRequest, 1, 1⟩ (by decide) (by decide)).mpr
      (by decide)
  · intro same
    exact absurd ((refused_first_harmless_iff requested ⟨undersizedRequest, 1, 1⟩ (by decide)
      (by decide)).mp same) (by decide)

theorem undersized_restart_drops_session :
    refusal requested ⟨undersizedRequest, 1, 1⟩ = some .declaredLength ∧
      (inFlight requested 1).contains ⟨0x23, 0x10, 126208, 1, "can0"⟩ = true ∧
      inFlight (handleRxFrame requested ⟨undersizedRequest, 1, 1⟩).1 1 = [] :=
  ⟨by decide, by decide, by decide⟩

end Ucanlab.Nmea2000
