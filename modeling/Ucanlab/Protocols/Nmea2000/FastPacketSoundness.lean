import Ucanlab.Protocols.Nmea2000.FastPacketTable

/-!
What a completed Fast Packet message is made of: the frames heard since its
transfer opened, and the places their bytes take.
-/

namespace Ucanlab.Nmea2000

open Ucanlab J1939 EventRun

def opens (decoder : FastPacketDecoder) (key : FastPacketKey) (arrival : Arrival) : Bool :=
  decide (frameIndex arrival.frame = 0 ∧ wellSized arrival.frame = true ∧
    (handleRxFrame decoder arrival).1.sessions.get? key = some (freshSession key arrival))

/-- The frames of the key behind its last opening, which comes first; a restart
that the decoder refuses opens nothing. -/
def heard (key : FastPacketKey) (decoder : FastPacketDecoder) (frames : List CanFrame)
    (arrival : Arrival) : List CanFrame :=
  if admitted arrival.frame ≠ some key then frames
  else if opens decoder key arrival then [arrival.frame]
  else if frameIndex arrival.frame = 0 then frames
  else frames ++ [arrival.frame]

def listen (key : FastPacketKey) (state : FastPacketDecoder × List CanFrame) (arrival : Arrival) :
    FastPacketDecoder × List CanFrame :=
  ((handleRxFrame state.1 arrival).1, heard key state.1 state.2 arrival)

def transferFrames (key : FastPacketKey) (arrivals : List Arrival) : List CanFrame :=
  (arrivals.foldl (listen key) ({}, [])).2

/-- The message is the transfer: the declared length, six bytes of the index-0
frame, and seven places for each later one. -/
structure Sound (key : FastPacketKey) (frames : List CanFrame) (message : N2KCompletedMessage) :
    Prop where
  indexed : ∀ index frame, frames[index]? = some frame →
    admitted frame = some key ∧ frameIndex frame = index
  length : ∃ first, frames[0]? = some first ∧ message.data.length = byteAt first 1
  head : ∀ first, frames[0]? = some first → ∀ place < 6,
    message.data[place]? = first.data[2 + place]?
  body : ∀ index frame, frames[index + 1]? = some frame → ∀ place < 7,
    6 + 7 * index + place < message.data.length →
      message.data[6 + 7 * index + place]? = frame.data[1 + place]?
  covered : message.data.length ≤ 6 + 7 * (frames.length - 1)

def Full (frames : List CanFrame) : Prop :=
  ∀ first, frames[0]? = some first → ∀ index frame, frames[index + 1]? = some frame →
    min 7 (byteAt first 1 - (6 + 7 * index)) ≤ frame.data.length - 1

section Assembly

variable {key : FastPacketKey} {first frame : CanFrame} {rest frames : List CanFrame}
  {session before : FastPacketSession} {arrival : Arrival} {arrivals : List Arrival}
  {decoder : FastPacketDecoder} {message : N2KCompletedMessage} {used : FastPacketUse}

def slotPayload (frame : CanFrame) : Bytes := (frame.data.drop 1).take 7

def assembled (first : CanFrame) (rest : List CanFrame) : Bytes :=
  (first.data.drop 2).take 6 ++ rest.flatMap slotPayload

structure Holds (key : FastPacketKey) (frames : List CanFrame) (first : CanFrame)
    (rest : List CanFrame) (session : FastPacketSession) : Prop where
  split : frames = first :: rest
  sized : wellSized first = true
  indexed : ∀ index frame, frames[index]? = some frame →
    admitted frame = some key ∧ frameIndex frame = index
  total : session.totalBytes = byteAt first 1
  expected : session.expectedFrameIndex = frames.length
  received : session.receivedBytes = (assembled first rest).take session.totalBytes
  unfinished : session.receivedBytes.length < session.totalBytes

theorem Holds.fresh (admits : admitted arrival.frame = some key)
    (index : frameIndex arrival.frame = 0) (sized : wellSized arrival.frame = true) :
    Holds key [arrival.frame] arrival.frame [] (freshSession key arrival) := by
  obtain ⟨atLeast, _, eight⟩ := of_decide_eq_true sized
  refine ⟨rfl, sized, ?_, rfl, rfl, ?_, ?_⟩
  · intro place frame found
    rw [List.getElem?_singleton] at found
    split at found
    · rename_i zero
      cases found
      exact ⟨admits, index.trans zero.symm⟩
    · cases found
  · have six : ((arrival.frame.data.drop 2).take 6).length ≤ byteAt arrival.frame 1 := by
      rw [List.length_take, List.length_drop, eight]
      omega
    unfold assembled
    rw [List.flatMap_nil, List.append_nil]
    exact (List.take_of_length_le six).symm
  · change ((arrival.frame.data.drop 2).take 6).length < byteAt arrival.frame 1
    rw [List.length_take, List.length_drop, eight]
    omega

theorem Holds.extended (holds : Holds key frames first rest before)
    (admits : admitted arrival.frame = some key) (taken : takes before arrival.frame = true) :
    (∀ index frame, (frames ++ [arrival.frame])[index]? = some frame →
        admitted frame = some key ∧ frameIndex frame = index) ∧
      (extend before arrival).expectedFrameIndex = (frames ++ [arrival.frame]).length ∧
      (extend before arrival).receivedBytes =
        (assembled first (rest ++ [arrival.frame])).take before.totalBytes := by
  obtain ⟨_, next, _⟩ := of_decide_eq_true taken
  refine ⟨?_, ?_, ?_⟩
  · intro index frame found
    rcases Nat.lt_or_ge index frames.length with front | behind
    · rw [List.getElem?_append_left front] at found
      exact holds.indexed index frame found
    · rw [List.getElem?_append_right behind, List.getElem?_singleton] at found
      split at found
      · cases found
        refine ⟨admits, next.trans ?_⟩
        rw [holds.expected]
        omega
      · cases found
  · change before.expectedFrameIndex + 1 = _
    rw [holds.expected, List.length_append, List.length_singleton]
  · have received := holds.received
    have unfinished := holds.unfinished
    have whole : before.receivedBytes = assembled first rest := by
      rw [received, List.take_of_length_le]
      rw [received, List.length_take] at unfinished
      omega
    change before.receivedBytes ++
      (slotPayload arrival.frame).take (before.totalBytes - before.receivedBytes.length) = _
    have appended : assembled first (rest ++ [arrival.frame]) =
        before.receivedBytes ++ slotPayload arrival.frame := by
      rw [whole]
      unfold assembled
      rw [List.flatMap_append, List.flatMap_singleton, List.append_assoc]
    rw [appended, List.take_append, List.take_of_length_le (Nat.le_of_lt unfinished)]

theorem holds_of_run (ran : run receive fresh arrivals = some used) (key : FastPacketKey) :
    (arrivals.foldl (listen key) ({}, [])).1 = used.decoder ∧
      ∀ session, used.decoder.sessions.get? key = some session →
        ∃ first rest, Holds key (transferFrames key arrivals) first rest session := by
  refine @run_history_invariant _ _ receive (fun past state =>
    (past.foldl (listen key) ({}, [])).1 = state.decoder ∧
      ∀ session, state.decoder.sessions.get? key = some session →
        ∃ first rest, Holds key (transferFrames key past) first rest session) fresh _ _
    ⟨rfl, fun _ found => nomatch found⟩ ?_ ran
  rintro past state arrival next pastRan ⟨same, holds⟩ received
  have tidy : state.decoder.Tidy := tidy_of_run tidy_fresh pastRan
  obtain ⟨_, stepped, _⟩ := receive_some received
  have grown : transferFrames key (past ++ [arrival]) =
      heard key state.decoder (transferFrames key past) arrival := by
    unfold transferFrames
    rw [List.foldl_concat]
    unfold listen
    dsimp only
    rw [← same]
    rfl
  refine ⟨?_, ?_⟩
  · rw [List.foldl_concat, stepped, ← same]
    rfl
  · intro session found
    rw [stepped] at found
    rw [grown]
    unfold heard
    split
    · rename_i apart
      exact holds session (session_of_other tidy apart found)
    · rename_i own
      have admits := not_not.mp own
      split
      · rename_i opened
        obtain ⟨index, sized, stored⟩ := of_decide_eq_true opened
        rw [stored] at found
        cases found
        exact ⟨arrival.frame, [], Holds.fresh admits index sized⟩
      · rename_i notOpened
        have handled := found
        unfold handleRxFrame at handled
        rw [admits] at handled
        dsimp only at handled
        unfold handleLocked at handled
        split
        · rename_i index
          rw [if_pos index] at handled
          rcases session_of_handleFirst handled with ⟨sized, new⟩ | refused
          · rw [new] at found
            exact absurd (decide_eq_true ⟨index, sized, found⟩) notOpened
          · exact holds session (get?_of_cleanExpired tidy refused)
        · rename_i index
          rw [if_neg index] at handled
          obtain ⟨before, present, taken, extended, short⟩ := session_of_handleConsecutive handled
          obtain ⟨first, rest, held⟩ := holds before (get?_of_cleanExpired tidy present)
          obtain ⟨indexed, expected, received⟩ := held.extended admits taken
          refine ⟨first, rest ++ [arrival.frame], ?_⟩
          rw [extended] at short ⊢
          exact {
            split := by rw [held.split, List.cons_append]
            sized := held.sized
            indexed := indexed
            total := held.total
            expected := expected
            received := received
            unfinished := short }

theorem message_of_run (ran : run receive fresh arrivals = some used)
    (completes : (handleRxFrame used.decoder arrival).2 = some message) :
    ∃ first rest, transferFrames (sessionKey arrival.frame) (arrivals ++ [arrival]) = first :: rest ∧
      wellSized first = true ∧
      (∀ index frame, (first :: rest)[index]? = some frame →
        admitted frame = some (sessionKey arrival.frame) ∧ frameIndex frame = index) ∧
      message.data = (assembled first rest).take (byteAt first 1) ∧
      message.data.length = byteAt first 1 := by
  have tidy : used.decoder.Tidy := tidy_of_run tidy_fresh ran
  unfold handleRxFrame at completes
  split at completes
  · cases completes
  · rename_i key admits
    rw [← admitted_key admits]
    obtain ⟨same, holds⟩ := holds_of_run ran key
    unfold handleLocked at completes
    split at completes
    · cases completes
    · rename_i index
      obtain ⟨before, present, taken, enough, made⟩ := message_of_handleConsecutive completes
      obtain ⟨first, rest, held⟩ := holds before (get?_of_cleanExpired tidy present)
      obtain ⟨indexed, _, received⟩ := held.extended admits taken
      have grown : transferFrames key (arrivals ++ [arrival]) =
          transferFrames key arrivals ++ [arrival.frame] := by
        unfold transferFrames
        rw [List.foldl_concat]
        unfold listen heard
        dsimp only
        rw [if_neg (not_not.mpr admits), if_neg (fun opened => index (of_decide_eq_true opened).1),
          if_neg index]
      have whole : transferFrames key (arrivals ++ [arrival]) =
          first :: (rest ++ [arrival.frame]) := by
        rw [grown, held.split, List.cons_append]
      have data : message.data = (assembled first (rest ++ [arrival.frame])).take (byteAt first 1) := by
        rw [made]
        change (extend before arrival).receivedBytes.take before.totalBytes = _
        rw [received, List.take_take, Nat.min_self, held.total]
      refine ⟨first, rest ++ [arrival.frame], whole, held.sized, ?_, data, ?_⟩
      · rw [held.split, List.cons_append] at indexed
        exact indexed
      · rw [received, held.total, List.length_take] at enough
        rw [data, List.length_take]
        omega

theorem flatMap_slotPayload_length (rest : List CanFrame) :
    (rest.flatMap slotPayload).length ≤ 7 * rest.length := by
  induction rest with
  | nil => exact Nat.le_refl 0
  | cons frame rest ih =>
      have seven : (slotPayload frame).length ≤ 7 := List.length_take_le 7 _
      rw [List.flatMap_cons, List.length_append, List.length_cons]
      omega

theorem flatMap_slotPayload_getElem? {index place : Nat} (found : rest[index]? = some frame)
    (full : ∀ earlier < index, ∀ other, rest[earlier]? = some other →
      (slotPayload other).length = 7)
    (inside : place < (slotPayload frame).length) :
    (rest.flatMap slotPayload)[7 * index + place]? = (slotPayload frame)[place]? := by
  induction rest generalizing index with
  | nil => cases found
  | cons head rest ih =>
      rw [List.flatMap_cons]
      cases index with
      | zero =>
          cases found
          rw [Nat.mul_zero, Nat.zero_add, List.getElem?_append_left inside]
      | succ index =>
          have seven := full 0 (Nat.succ_pos index) head rfl
          have later := ih found (fun earlier below other present =>
            full (earlier + 1) (Nat.succ_lt_succ below) other present)
          rw [← later, List.getElem?_append_right (by omega), seven]
          congr 1
          omega

theorem assembled_head (sized : wellSized first = true) {place : Nat} (inside : place < 6) :
    (assembled first rest)[place]? = first.data[2 + place]? := by
  obtain ⟨_, _, eight⟩ := of_decide_eq_true sized
  have front : place < ((first.data.drop 2).take 6).length := by
    rw [List.length_take, List.length_drop, eight]
    exact inside
  unfold assembled
  rw [List.getElem?_append_left front, List.getElem?_take_of_lt inside, List.getElem?_drop]

theorem assembled_slot (sized : wellSized first = true) (index : Nat) :
    (assembled first rest)[6 + index]? = (rest.flatMap slotPayload)[index]? := by
  obtain ⟨_, _, eight⟩ := of_decide_eq_true sized
  have front : ((first.data.drop 2).take 6).length = 6 := by
    rw [List.length_take, List.length_drop, eight]
    rfl
  unfold assembled
  rw [List.getElem?_append_right (by omega), front, Nat.add_sub_cancel_left]

/-- A completed message has the bytes of its transfer in their places exactly
where every frame behind the first carries what its slot owes. -/
theorem completed_sound_iff_full (ran : run receive fresh arrivals = some used)
    (completes : (handleRxFrame used.decoder arrival).2 = some message) :
    Sound (sessionKey arrival.frame)
        (transferFrames (sessionKey arrival.frame) (arrivals ++ [arrival])) message ↔
      Full (transferFrames (sessionKey arrival.frame) (arrivals ++ [arrival])) := by
  obtain ⟨first, rest, split, sized, indexed, data, length⟩ := message_of_run ran completes
  have inTotal {place : Nat} (inside : place < message.data.length) :
      message.data[place]? = (assembled first rest)[place]? := by
    rw [data, List.getElem?_take_of_lt (length ▸ inside)]
  obtain ⟨nine, _, _⟩ := of_decide_eq_true sized
  rw [split]
  constructor
  · rintro sound head same index frame found
    cases same
    -- Otherwise the first byte the frame lacks is a byte of the message.
    by_contra short
    have lacks : frame.data.length - 1 < 7 := by omega
    have inside : 6 + 7 * index + (frame.data.length - 1) < message.data.length := by omega
    have byte := sound.body index frame found (frame.data.length - 1) lacks inside
    rw [List.getElem?_eq_none (by omega : frame.data.length ≤ 1 + (frame.data.length - 1)),
      List.getElem?_eq_none_iff] at byte
    omega
  · intro full
    have owed := full first rfl
    refine ⟨indexed, ⟨first, rfl, length⟩, ?_, ?_, ?_⟩
    · intro head same place inside
      cases same
      rw [inTotal (by omega)]
      exact assembled_head sized inside
    · intro index frame behind place inside within
      have found : rest[index]? = some frame := behind
      have payload {slot : Nat} {other : CanFrame} (present : rest[slot]? = some other) :
          min 7 (byteAt first 1 - (6 + 7 * slot)) ≤ (slotPayload other).length := by
        have carried := owed slot other present
        unfold slotPayload
        rw [List.length_take, List.length_drop]
        omega
      have own := payload found
      have earlier (slot : Nat) (below : slot < index) (other : CanFrame)
          (present : rest[slot]? = some other) : (slotPayload other).length = 7 := by
        have carried := payload present
        have seven : (slotPayload other).length ≤ 7 := List.length_take_le 7 _
        omega
      have carried : place < (slotPayload frame).length := by omega
      rw [inTotal within, Nat.add_assoc, assembled_slot sized,
        flatMap_slotPayload_getElem? found earlier carried]
      unfold slotPayload
      rw [List.getElem?_take_of_lt inside, List.getElem?_drop]
    · have slots := flatMap_slotPayload_length rest
      have front : ((first.data.drop 2).take 6).length ≤ 6 := List.length_take_le 6 _
      have bound : message.data.length ≤ (assembled first rest).length := by
        rw [data, List.length_take]
        exact Nat.min_le_right _ _
      unfold assembled at bound
      rw [List.length_append] at bound
      rw [List.length_cons]
      omega

end Assembly

def nineBytesFirst : CanFrame :=
  ⟨requestFrame 0x10 [0x20, 9, 1, 2, 3, 4, 5, 6], firstRequest_valid⟩

def nineBytesLast : CanFrame := ⟨requestFrame 0x10 [0x21, 7, 8, 9], lastRequest_valid⟩

def usedAfter (arrivals : List Arrival) : FastPacketUse := (run receive fresh arrivals).getD fresh

def nineBytesMessage : N2KCompletedMessage where
  sourceAddress := 0x23
  pgn := 126208
  data := [1, 2, 3, 4, 5, 6, 7, 8, 9]
  timestampNs := 1
  channelId := "can0"
  destinationAddress := 0x10

theorem completed_sound_iff_full_nineBytes :
    run receive fresh [⟨nineBytesFirst, 0, 0⟩] = some (usedAfter [⟨nineBytesFirst, 0, 0⟩]) ∧
      Sound (sessionKey nineBytesLast) [nineBytesFirst, nineBytesLast] nineBytesMessage := by
  have ran : run receive fresh [⟨nineBytesFirst, 0, 0⟩] =
      some (usedAfter [⟨nineBytesFirst, 0, 0⟩]) := by decide
  have completes : (handleRxFrame (usedAfter [⟨nineBytesFirst, 0, 0⟩]).decoder
      ⟨nineBytesLast, 1, 1⟩).2 = some nineBytesMessage := by decide
  have heardBoth : transferFrames (sessionKey nineBytesLast)
      ([⟨nineBytesFirst, 0, 0⟩] ++ [⟨nineBytesLast, 1, 1⟩]) = [nineBytesFirst, nineBytesLast] := by
    decide
  have sound := completed_sound_iff_full ran completes
  dsimp only at sound
  rw [heardBoth] at sound
  refine ⟨ran, sound.mpr ?_⟩
  intro first same index frame found
  cases same
  match index, found with
  | 0, found =>
      cases found
      decide

def thirteenBytesFirst : CanFrame := ⟨requestFrame 0x10 [0x20, 13, 1, 2, 3, 4, 5, 6], by decide⟩

def shortSecond : CanFrame := ⟨requestFrame 0x10 [0x21, 7, 8], by decide⟩

def fullThird : CanFrame := ⟨requestFrame 0x10 [0x22, 14, 15, 16, 17, 18, 19, 20], by decide⟩

/-- The frame with index 1 has two payload bytes where its slot owes seven, and
the next one fills up the rest: the byte at offset 8 belongs to the frame with
index 2. -/
theorem short_frame_shifts_message : ∃ message : N2KCompletedMessage,
    run receive fresh [⟨thirteenBytesFirst, 0, 0⟩, ⟨shortSecond, 1, 1⟩] =
        some (usedAfter [⟨thirteenBytesFirst, 0, 0⟩, ⟨shortSecond, 1, 1⟩]) ∧
      (handleRxFrame (usedAfter [⟨thirteenBytesFirst, 0, 0⟩, ⟨shortSecond, 1, 1⟩]).decoder
        ⟨fullThird, 2, 2⟩).2 = some message ∧
      ¬ Sound (sessionKey fullThird) (transferFrames (sessionKey fullThird)
        [⟨thirteenBytesFirst, 0, 0⟩, ⟨shortSecond, 1, 1⟩, ⟨fullThird, 2, 2⟩]) message := by
  refine ⟨{ nineBytesMessage with
    data := [1, 2, 3, 4, 5, 6, 7, 8, 14, 15, 16, 17, 18]
    timestampNs := 2 }, by decide, by decide, fun sound => ?_⟩
  have frames : transferFrames (sessionKey fullThird)
      [⟨thirteenBytesFirst, 0, 0⟩, ⟨shortSecond, 1, 1⟩, ⟨fullThird, 2, 2⟩] =
        [thirteenBytesFirst, shortSecond, fullThird] := by decide
  rw [frames] at sound
  have byte := sound.body 0 shortSecond rfl 2 (by decide) (by decide)
  exact absurd byte (by decide)

end Ucanlab.Nmea2000
