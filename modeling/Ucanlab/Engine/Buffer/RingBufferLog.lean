import Ucanlab.Engine.Buffer.RingBuffer

/-!
The ring buffer as a bounded log: what a read-out returns, told by the frames appended since
the last clear and by the channels met since then.
-/

namespace Ucanlab.Engine

open Ucanlab

structure FrameLog where
  frames : List RecordedFrame := []
  channels : List String := []

namespace FrameLog

def meet (log : FrameLog) (channelId : String) : FrameLog :=
  if channelId ∈ log.channels then log
  else { log with channels := log.channels ++ [channelId] }

def append (log : FrameLog) (frame : RecordedFrame) : FrameLog :=
  let met := log.meet frame.frame.channelId
  if BinaryRingBuffer.fitsUInt64 frame.timestampNs then { met with frames := met.frames ++ [frame] }
  else met

def appendBatch (log : FrameLog) : List RecordedFrame → FrameLog
  | [] => log
  | frame :: rest =>
      if BinaryRingBuffer.fitsUInt64 frame.timestampNs then (log.append frame).appendBatch rest
      else log.append frame

def perform (log : FrameLog) : BufferEvent → FrameLog
  | .append frame => log.append frame
  | .appendBatch frames => log.appendBatch frames
  | .clear => {}

def number (log : FrameLog) (channelId : String) : Nat :=
  min (log.channels.idxOf channelId) channelSentinel

def recordIn (log : FrameLog) (frame : RecordedFrame) : CanRecord :=
  BinaryRingBuffer.recordOf frame frame.timestampNs.toNat (log.number frame.frame.channelId)

theorem mem_meet (log : FrameLog) (channelId : String) :
    channelId ∈ (log.meet channelId).channels := by
  unfold meet
  split
  · assumption
  · exact List.mem_append_right _ (List.mem_singleton_self channelId)

theorem meet_frames (log : FrameLog) (channelId : String) :
    (log.meet channelId).frames = log.frames := by
  unfold meet
  split <;> rfl

theorem mem_meet_of_mem {log : FrameLog} {known : String} (member : known ∈ log.channels)
    (channelId : String) : known ∈ (log.meet channelId).channels := by
  unfold meet
  split
  · exact member
  · exact List.mem_append_left _ member

theorem number_meet {log : FrameLog} {known : String} (member : known ∈ log.channels)
    (channelId : String) : (log.meet channelId).number known = log.number known := by
  unfold number meet
  split
  · rfl
  · exact congrArg (min · channelSentinel) (List.idxOf_append_of_mem member)

end FrameLog

structure BinaryRingBuffer.Represents (buffer : BinaryRingBuffer) (log : FrameLog) : Prop where
  holds : buffer.ring.Holds (log.frames.map log.recordIn)
  distinct : log.channels.Nodup
  met : ∀ frame ∈ log.frames, frame.frame.channelId ∈ log.channels
  fits : ∀ frame ∈ log.frames, BinaryRingBuffer.fitsUInt64 frame.timestampNs = true
  keys : buffer.channelMap.keys = log.channels
  numbered : ∀ channelId ∈ log.channels,
    buffer.channelMap.get? channelId = some (log.number channelId)
  named : ∀ index, buffer.revChannelMap.get? index =
    if index < channelSentinel then log.channels[index]? else none
  snapshot : buffer.revChannelSnapshot = buffer.revChannelMap

namespace BinaryRingBuffer

theorem represents_nil {ring : RingLog CanRecord} (holds : ring.Holds []) :
    BinaryRingBuffer.Represents { ring := ring } {} where
  holds := holds
  distinct := List.nodup_nil
  met frame member := absurd member List.not_mem_nil
  fits frame member := absurd member List.not_mem_nil
  keys := rfl
  numbered channelId member := absurd member List.not_mem_nil
  named index := by
    dsimp only
    rw [List.getElem?_nil, ite_self]
    rfl
  snapshot := rfl

theorem represents_new (capacity : RingCapacity) : (new capacity).Represents {} := by
  apply represents_nil
  apply RingLog.holds_nil
  rw [List.length_replicate]
  exact capacity.admitted.1

section Steps

variable {buffer : BinaryRingBuffer} {log : FrameLog}

theorem Represents.length_channelMap (represents : buffer.Represents log) :
    buffer.channelMap.length = log.channels.length := by
  rw [← represents.keys]
  exact (List.length_map _).symm

theorem Represents.records_meet (represents : buffer.Represents log) (channelId : String) :
    (log.meet channelId).frames.map (log.meet channelId).recordIn =
      log.frames.map log.recordIn := by
  rw [FrameLog.meet_frames]
  apply List.map_congr_left
  intro frame member
  unfold FrameLog.recordIn
  rw [FrameLog.number_meet (represents.met frame member)]

theorem channelInt_ring (buffer : BinaryRingBuffer) (channelId : String) :
    (buffer.channelInt channelId).1.ring = buffer.ring := by
  unfold channelInt
  split
  · rfl
  · unfold internChannel
    split <;> rfl

theorem number_new {log : FrameLog} {channelId : String} (fresh : channelId ∉ log.channels) :
    (log.meet channelId).number channelId = min log.channels.length channelSentinel := by
  have met : log.meet channelId = { log with channels := log.channels ++ [channelId] } :=
    if_neg fresh
  have place : (log.channels ++ [channelId]).idxOf channelId = log.channels.length := by
    rw [List.idxOf_append_of_notMem fresh, List.idxOf_cons_self, Nat.add_zero]
  rw [met]
  exact congrArg (min · channelSentinel) place

theorem Represents.store (represents : buffer.Represents log) {channelId : String}
    (fresh : channelId ∉ log.channels) {value : Nat}
    (next : value = (log.meet channelId).number channelId) (names : Dict Nat String)
    (named : ∀ index, names.get? index =
      if index < channelSentinel then (log.channels ++ [channelId])[index]? else none)
    (overflows : Nat) :
    BinaryRingBuffer.Represents
      { buffer with
        channelMap := buffer.channelMap.set channelId value
        revChannelMap := names
        revChannelSnapshot := names
        channelOverflowCount := overflows } (log.meet channelId) := by
  have absent : channelId ∉ buffer.channelMap.keys := represents.keys ▸ fresh
  have channels : (log.meet channelId).channels = log.channels ++ [channelId] :=
    congrArg FrameLog.channels (if_neg fresh)
  constructor
  case holds =>
    rw [represents.records_meet channelId]
    exact represents.holds
  case distinct =>
    rw [channels, List.nodup_append]
    refine ⟨represents.distinct, List.nodup_singleton channelId, ?_⟩
    intro old member new here equal
    rw [List.mem_singleton.mp here] at equal
    exact fresh (equal ▸ member)
  case met =>
    intro frame member
    rw [FrameLog.meet_frames] at member
    exact FrameLog.mem_meet_of_mem (represents.met frame member) channelId
  case fits =>
    rw [FrameLog.meet_frames]
    exact represents.fits
  case keys =>
    rw [channels, ← represents.keys, Dict.set_of_absent value absent]
    exact List.map_append
  case numbered =>
    intro other member
    rw [channels] at member
    rcases List.mem_append.mp member with old | new
    · have apart : other ≠ channelId := fun equal => fresh (equal ▸ old)
      rw [FrameLog.number_meet old]
      exact (Dict.get?_set_ne _ apart value).trans (represents.numbered other old)
    · rw [List.mem_singleton.mp new, ← next]
      exact Dict.get?_set_self _ channelId value
  case named =>
    intro index
    rw [channels]
    exact named index
  case snapshot => rfl

theorem Represents.channelInt (represents : buffer.Represents log) (channelId : String) :
    (buffer.channelInt channelId).1.Represents (log.meet channelId) ∧
      (buffer.channelInt channelId).2 = (log.meet channelId).number channelId := by
  by_cases known : channelId ∈ log.channels
  · have unmet : log.meet channelId = log := if_pos known
    unfold BinaryRingBuffer.channelInt
    rw [represents.numbered channelId known, unmet]
    exact ⟨represents, rfl⟩
  · have absent : channelId ∉ buffer.channelMap.keys := represents.keys ▸ known
    have size := represents.length_channelMap
    have number := number_new known
    unfold BinaryRingBuffer.channelInt
    rw [Dict.get?_eq_none_iff.mpr absent]
    dsimp only
    unfold internChannel
    split
    · rename_i overflown
      have last : channelSentinel = (log.meet channelId).number channelId := by omega
      refine ⟨?_, last⟩
      have stored := represents.store known last buffer.revChannelMap ?_
        (if buffer.channelMap.contains channelId then buffer.channelOverflowCount
          else buffer.channelOverflowCount + 1)
      · rw [represents.snapshot]
        exact stored
      · intro index
        rw [represents.named index]
        split
        · rename_i below
          exact (List.getElem?_append_left (by omega)).symm
        · rfl
    · rename_i room
      have next : buffer.channelMap.length = (log.meet channelId).number channelId := by omega
      refine ⟨represents.store known next _ ?_ buffer.channelOverflowCount, next⟩
      intro index
      by_cases newest : index = buffer.channelMap.length
      · have below : buffer.channelMap.length < channelSentinel := by omega
        rw [newest, Dict.get?_set_self, if_pos below, size, List.getElem?_concat_length]
      · rw [Dict.get?_set_ne _ newest, represents.named index]
        split
        · by_cases older : index < log.channels.length
          · exact (List.getElem?_append_left older).symm
          · have beyond : (log.channels ++ [channelId]).length ≤ index := by
              rw [List.length_append, List.length_singleton]
              omega
            rw [List.getElem?_eq_none (by omega), List.getElem?_eq_none beyond]
        · rfl

theorem Represents.append (represents : buffer.Represents log) (frame : RecordedFrame) :
    (buffer.append frame).1.Represents (log.append frame) := by
  obtain ⟨kept, numbered⟩ := represents.channelInt frame.frame.channelId
  have shape : buffer.append frame =
      if ¬ fitsUInt64 frame.timestampNs then
        ((buffer.channelInt frame.frame.channelId).1, .error (.overflow frame.timestampNs))
      else
        ({ (buffer.channelInt frame.frame.channelId).1 with
            ring := (buffer.channelInt frame.frame.channelId).1.ring.push
              (recordOf frame frame.timestampNs.toNat
                (buffer.channelInt frame.frame.channelId).2) },
          .ok (buffer.channelInt frame.frame.channelId).1.ring.written) := rfl
  rw [shape, numbered]
  unfold FrameLog.append
  dsimp only
  by_cases fits : fitsUInt64 frame.timestampNs = true
  · rw [if_neg (not_not_intro fits), if_pos fits]
    constructor
    case holds =>
      have grown : (((log.meet frame.frame.channelId).frames ++ [frame]).map
          (log.meet frame.frame.channelId).recordIn) =
            (log.meet frame.frame.channelId).frames.map
              (log.meet frame.frame.channelId).recordIn ++
                [(log.meet frame.frame.channelId).recordIn frame] := List.map_append
      change RingLog.Holds _ (((log.meet frame.frame.channelId).frames ++ [frame]).map
        (log.meet frame.frame.channelId).recordIn)
      rw [grown]
      exact kept.holds.push _
    case distinct => exact kept.distinct
    case met =>
      intro old member
      rcases List.mem_append.mp member with older | newest
      · exact kept.met old older
      · rw [List.mem_singleton.mp newest]
        exact FrameLog.mem_meet log _
    case fits =>
      intro old member
      rcases List.mem_append.mp member with older | newest
      · exact kept.fits old older
      · rw [List.mem_singleton.mp newest]
        exact fits
    case keys => exact kept.keys
    case numbered => exact kept.numbered
    case named => exact kept.named
    case snapshot => exact kept.snapshot
  · rw [if_pos fits, if_neg fits]
    exact kept

theorem append_refused_iff (buffer : BinaryRingBuffer) (frame : RecordedFrame) :
    (∃ error, (buffer.append frame).2 = .error error) ↔
      ¬ fitsUInt64 frame.timestampNs = true := by
  unfold BinaryRingBuffer.append
  dsimp only
  split
  · rename_i refused
    constructor
    · intro _
      exact refused
    · intro _
      exact ⟨_, rfl⟩
  · rename_i fits
    constructor
    · rintro ⟨error, failed⟩
      cases failed
    · intro refused
      exact absurd refused fits

theorem Represents.appendBatch (represents : buffer.Represents log)
    (frames : List RecordedFrame) :
    (buffer.appendBatch frames).1.Represents (log.appendBatch frames) := by
  induction frames generalizing buffer log with
  | nil => exact represents
  | cons frame rest ih =>
      have step := represents.append frame
      have refused := append_refused_iff buffer frame
      unfold BinaryRingBuffer.appendBatch FrameLog.appendBatch
      cases outcome : buffer.append frame with
      | mk next result =>
          rw [outcome] at step refused
          cases result with
          | error error =>
              rw [if_neg (refused.mp ⟨error, rfl⟩)]
              exact step
          | ok sequence =>
              have fits : fitsUInt64 frame.timestampNs = true := by
                by_contra unfit
                obtain ⟨error, failed⟩ := refused.mpr unfit
                cases failed
              rw [if_pos fits]
              exact ih step

theorem Represents.clear (represents : buffer.Represents log) : buffer.clear.Represents {} := by
  apply represents_nil
  apply RingLog.holds_nil
  rw [List.length_map]
  exact represents.holds.room

theorem Represents.perform (represents : buffer.Represents log) (event : BufferEvent) :
    (buffer.perform event).Represents (log.perform event) := by
  cases event with
  | append frame => exact represents.append frame
  | appendBatch frames => exact represents.appendBatch frames
  | clear => exact represents.clear

theorem append_capacity (buffer : BinaryRingBuffer) (frame : RecordedFrame) :
    (buffer.append frame).1.ring.capacity = buffer.ring.capacity := by
  have kept := channelInt_ring buffer frame.frame.channelId
  unfold BinaryRingBuffer.append
  dsimp only
  split
  · rw [kept]
  · exact (RingLog.push_capacity _ _).trans (congrArg RingLog.capacity kept)

theorem perform_capacity (buffer : BinaryRingBuffer) (event : BufferEvent) :
    (buffer.perform event).ring.capacity = buffer.ring.capacity := by
  cases event with
  | append frame => exact append_capacity buffer frame
  | clear => exact List.length_map _
  | appendBatch frames =>
      induction frames generalizing buffer with
      | nil => rfl
      | cons frame rest ih =>
          have step := append_capacity buffer frame
          change (buffer.appendBatch (frame :: rest)).1.ring.capacity = _
          unfold BinaryRingBuffer.appendBatch
          cases outcome : buffer.append frame with
          | mk next result =>
              rw [outcome] at step
              cases result with
              | error error => exact step
              | ok sequence => exact (ih next).trans step

end Steps

theorem run_represents {buffer : BinaryRingBuffer} {log : FrameLog}
    (represents : buffer.Represents log) (events : List BufferEvent) :
    (events.foldl perform buffer).Represents (events.foldl FrameLog.perform log) ∧
      (events.foldl perform buffer).ring.capacity = buffer.ring.capacity := by
  induction events generalizing buffer log with
  | nil => exact ⟨represents, rfl⟩
  | cons event rest ih =>
      obtain ⟨later, capacity⟩ := ih (represents.perform event)
      exact ⟨later, capacity.trans (perform_capacity buffer event)⟩

section ReadOut

theorem recordFlags_bits (isExtended isFd brs esi isTx : Bool) (source : FrameSource)
    (busOff : Bool) :
    let flags := recordFlags isExtended isFd brs esi isTx source busOff
    flags < 256 ∧ decide (flags &&& 0x01 ≠ 0) = isExtended ∧ decide (flags &&& 0x02 ≠ 0) = isFd ∧
      decide (flags &&& 0x04 ≠ 0) = brs ∧ decide (flags &&& 0x08 ≠ 0) = esi ∧
      decide (flags &&& 0x10 ≠ 0) = isTx ∧ decide (flags &&& 0x80 ≠ 0) = busOff ∧
      decodeSource (sourceToCode source) flags = source := by
  cases source <;> revert isExtended isFd brs esi isTx busOff <;> decide +kernel

/-- What a read-out gives back of an appended frame. The channel of a frame comes back when it
is one of the first 65535 channels; the error state when it is not the passive one. -/
structure Restored (channels : List String) (sequence : Nat) (appended read : RecordedFrame) :
    Prop where
  arbitrationId : read.frame.arbitrationId = appended.frame.arbitrationId
  dlc : read.frame.dlc = appended.frame.dlc
  data : read.frame.data = appended.frame.data
  isExtended : read.frame.isExtended = appended.frame.isExtended
  isFd : read.frame.isFd = appended.frame.isFd
  brs : read.frame.brs = appended.frame.brs
  esi : read.frame.esi = appended.frame.esi
  direction : read.frame.direction = appended.frame.direction
  source : read.frame.source = appended.frame.source
  timestampNs : read.timestampNs = appended.timestampNs
  sequence : read.sequence = sequence
  channel : read.frame.channelId =
    if appended.frame.channelId ∈ channels.take channelSentinel then appended.frame.channelId
    else "ch_65535"
  errorState : appended.frame.errorState ≠ .passive →
    read.frame.errorState = appended.frame.errorState

theorem Represents.name_eq {buffer : BinaryRingBuffer} {log : FrameLog}
    (represents : buffer.Represents log) {channelId : String} (met : channelId ∈ log.channels) :
    (buffer.revChannelSnapshot.get? (log.number channelId)).getD
        ("ch_" ++ toString (log.number channelId)) =
      if channelId ∈ log.channels.take channelSentinel then channelId else "ch_65535" := by
  have place := List.idxOf_lt_length_of_mem met
  have present : log.channels[log.channels.idxOf channelId]? = some channelId :=
    List.getElem?_idxOf met
  rw [represents.snapshot, represents.named]
  unfold FrameLog.number
  by_cases early : log.channels.idxOf channelId < channelSentinel
  · have taken : channelId ∈ log.channels.take channelSentinel := by
      apply List.mem_of_getElem?
      rw [List.getElem?_take, if_pos early]
      exact present
    rw [Nat.min_eq_left (Nat.le_of_lt early), if_pos early, present, if_pos taken]
    rfl
  · have late : channelId ∉ log.channels.take channelSentinel := by
      intro member
      have first := List.idxOf_lt_length_of_mem member
      have same : (log.channels.take channelSentinel ++
          log.channels.drop channelSentinel).idxOf channelId =
            (log.channels.take channelSentinel).idxOf channelId := List.idxOf_append_of_mem member
      rw [List.take_append_drop] at same
      rw [List.length_take] at first
      omega
    rw [Nat.min_eq_right (Nat.le_of_not_lt early), if_neg (Nat.lt_irrefl _), if_neg late]
    rfl

theorem channelId_valid_of_name {channelId : String} (valid : validChannelId channelId = true)
    (channels : List String) :
    validChannelId (if channelId ∈ channels.take channelSentinel then channelId else "ch_65535") =
      true := by
  split
  · exact valid
  · decide

theorem padded_take {data : Bytes} (short : data.length ≤ 64) :
    ((data ++ List.replicate (64 - data.length) 0).take 64).take data.length = data := by
  rw [List.take_take, Nat.min_eq_left short, List.take_left]

structure ReadsBack (frame : RecordedFrame) (number : Nat) (record : CanRecord) : Prop where
  timestampNs : (record.timestampNs.toNat : Int) = frame.timestampNs
  arbitrationId : record.arbitrationId.toNat = frame.frame.arbitrationId
  dlc : record.dlc.toNat = frame.frame.dlc
  flags : record.flags.toNat = recordFlags frame.frame.isExtended frame.frame.isFd
    frame.frame.brs frame.frame.esi (frame.frame.direction == .tx) frame.frame.source
    (frame.frame.errorState == .busOff)
  channelIdInt : record.channelIdInt.toNat = number
  sourceCode : record.sourceCode.toNat = sourceToCode frame.frame.source
  data : record.data.take record.dataLen.toNat = frame.frame.data

theorem recordOf_readsBack {frame : RecordedFrame} (fits : fitsUInt64 frame.timestampNs = true)
    {number : Nat} (numbered : number ≤ channelSentinel) :
    ReadsBack frame number (recordOf frame frame.timestampNs.toNat number) := by
  have formed := frame.frame.wellFormed
  have wide := of_decide_eq_true fits
  have short : frame.frame.data.length ≤ 64 := by
    have bound := frame.frame.data_length_le
    split at bound <;> omega
  constructor
  case timestampNs =>
    have small : frame.timestampNs.toNat < UInt64.size := by
      change _ < 2 ^ 64
      omega
    have kept : (UInt64.ofNat frame.timestampNs.toNat).toNat = frame.timestampNs.toNat :=
      UInt64.toNat_ofNat_of_lt small
    change ((UInt64.ofNat frame.timestampNs.toNat).toNat : Int) = frame.timestampNs
    rw [kept]
    exact Int.toNat_of_nonneg wide.1
  case arbitrationId =>
    apply UInt32.toNat_ofNat_of_lt
    change _ < 2 ^ 32
    have bound := formed.arbitrationId
    unfold maxId at bound
    split at bound <;> omega
  case dlc =>
    apply UInt8.toNat_ofNat_of_lt
    change _ < 2 ^ 8
    have bound := formed.dlc
    omega
  case flags =>
    apply UInt8.toNat_ofNat_of_lt
    exact (recordFlags_bits _ _ _ _ _ _ _).1
  case channelIdInt =>
    apply UInt16.toNat_ofNat_of_lt
    exact Nat.lt_succ_of_le numbered
  case sourceCode =>
    apply UInt8.toNat_ofNat_of_lt
    cases frame.frame.source <;> decide
  case data =>
    have length : (UInt8.ofNat (min frame.frame.data.length 64)).toNat =
        frame.frame.data.length := by
      rw [Nat.min_eq_left short]
      apply UInt8.toNat_ofNat_of_lt
      change _ < 2 ^ 8
      omega
    change ((frame.frame.data ++ List.replicate (64 - frame.frame.data.length) 0).take 64).take
      (UInt8.ofNat (min frame.frame.data.length 64)).toNat = frame.frame.data
    rw [length]
    exact padded_take short

theorem Represents.frameOf_recordIn {buffer : BinaryRingBuffer} {log : FrameLog}
    (represents : buffer.Represents log) {frame : RecordedFrame} (member : frame ∈ log.frames)
    (sequence : Nat) :
    ∃ read, frameOf buffer.revChannelSnapshot (log.recordIn frame) sequence = .ok read ∧
      Restored log.channels sequence frame read := by
  have name := represents.name_eq (represents.met frame member)
  have formed := frame.frame.wellFormed
  have channel := channelId_valid_of_name formed.channelId log.channels
  have fields : ReadsBack frame (log.number frame.frame.channelId) (log.recordIn frame) :=
    recordOf_readsBack (represents.fits frame member) (Nat.min_le_right _ _)
  obtain ⟨_, isExtended, isFd, brs, esi, isTx, busOff, source⟩ :=
    recordFlags_bits frame.frame.isExtended frame.frame.isFd frame.frame.brs frame.frame.esi
      (frame.frame.direction == .tx) frame.frame.source (frame.frame.errorState == .busOff)
  have direction : (if recordFlags frame.frame.isExtended frame.frame.isFd frame.frame.brs
      frame.frame.esi (frame.frame.direction == .tx) frame.frame.source
      (frame.frame.errorState == .busOff) &&& 0x10 ≠ 0 then Direction.tx else .rx) =
        frame.frame.direction := by
    rw [← Bool.cond_decide, isTx]
    cases frame.frame.direction <;> rfl
  have errorState : (if recordFlags frame.frame.isExtended frame.frame.isFd frame.frame.brs
      frame.frame.esi (frame.frame.direction == .tx) frame.frame.source
      (frame.frame.errorState == .busOff) &&& 0x80 ≠ 0 then ErrorState.busOff else .active) =
        if frame.frame.errorState = .busOff then .busOff else .active := by
    rw [← Bool.cond_decide, busOff]
    cases frame.frame.errorState <;> rfl
  unfold frameOf
  dsimp only
  rw [fields.channelIdInt, name, fields.arbitrationId, fields.dlc, fields.data, fields.flags,
    fields.sourceCode, isExtended, isFd, brs, esi, direction, errorState, source,
    fields.timestampNs]
  rw [CanFrame.new_of_valid _ ((FrameFields.postInit_eq_none_iff _).mpr
    (formed.relabel channel frame.frame.direction _ frame.frame.source))]
  refine ⟨_, rfl, ?_⟩
  constructor
  case errorState =>
    intro active
    dsimp only
    cases state : frame.frame.errorState with
    | active => rfl
    | passive => exact absurd state active
    | busOff => rfl
  all_goals rfl

theorem Represents.framesOf_records {buffer : BinaryRingBuffer} {log : FrameLog}
    (represents : buffer.Represents log) (frames : List RecordedFrame)
    (members : ∀ frame ∈ frames, frame ∈ log.frames) (sequence : Nat) :
    ∃ read, framesOf buffer.revChannelSnapshot (frames.map log.recordIn) sequence = .ok read ∧
      read.length = frames.length ∧
      ∀ offset appended, frames[offset]? = some appended →
        ∃ frame, read[offset]? = some frame ∧
          Restored log.channels (sequence + offset) appended frame := by
  induction frames generalizing sequence with
  | nil =>
      refine ⟨[], rfl, rfl, ?_⟩
      intro offset appended found
      rw [List.getElem?_nil] at found
      cases found
  | cons first rest ih =>
      obtain ⟨frame, decoded, restored⟩ :=
        represents.frameOf_recordIn (members first List.mem_cons_self) sequence
      obtain ⟨later, read, length, agree⟩ :=
        ih (fun frame member => members frame (List.mem_cons_of_mem first member)) (sequence + 1)
      refine ⟨frame :: later, ?_, ?_, ?_⟩
      · unfold framesOf
        rw [List.map_cons]
        dsimp only
        rw [decoded, read]
      · rw [List.length_cons, List.length_cons, length]
      · intro offset appended found
        cases offset with
        | zero =>
            cases found
            exact ⟨frame, rfl, restored⟩
        | succ offset =>
            have place : sequence + (offset + 1) = sequence + 1 + offset := by omega
            rw [place]
            exact agree offset appended found

theorem Represents.getLatestFrames {buffer : BinaryRingBuffer} {log : FrameLog}
    (represents : buffer.Represents log) (count : Int) :
    let n := min count.toNat (min buffer.ring.capacity log.frames.length)
    ∃ frames, buffer.getLatestFrames count = .ok frames ∧ frames.length = n ∧
      ∀ offset appended, log.frames[log.frames.length - n + offset]? = some appended →
        ∃ read, frames[offset]? = some read ∧
          Restored log.channels (log.frames.length - n + offset) appended read := by
  have written : buffer.ring.written = log.frames.length := by
    rw [represents.holds.counted, List.length_map]
  have view := represents.holds.view_eq count.toNat
  rw [List.length_map, ← List.map_drop, Nat.min_comm log.frames.length] at view
  dsimp only
  generalize taken : min count.toNat (min buffer.ring.capacity log.frames.length) = n at view ⊢
  have short : n ≤ log.frames.length := by omega
  unfold BinaryRingBuffer.getLatestFrames
  dsimp only
  rw [written]
  by_cases none : n = 0
  · rw [if_pos (by omega)]
    refine ⟨[], rfl, none.symm, ?_⟩
    intro offset appended found
    rw [List.getElem?_eq_none (by omega)] at found
    cases found
  · have counted : (min count (min (log.frames.length : Int) buffer.ring.capacity)).toNat = n := by
      omega
    rw [if_neg (by omega), counted, view, List.length_map, List.length_drop,
      Nat.sub_sub_self short, Nat.sub_self, List.drop_zero]
    obtain ⟨frames, read, length, agree⟩ :=
      represents.framesOf_records (log.frames.drop (log.frames.length - n))
        (fun frame member => List.mem_of_mem_drop member) (log.frames.length - n)
    refine ⟨frames, read, ?_, ?_⟩
    · rw [length, List.length_drop, Nat.sub_sub_self short]
    · intro offset appended found
      rw [← List.getElem?_drop] at found
      exact agree offset appended found

end ReadOut

theorem new_capacity (capacity : RingCapacity) : (new capacity).ring.capacity = capacity.value :=
  List.length_replicate

/-- After every run the read-out is the end of the log: the latest frames in order, under the
sequence numbers of their places since the last clear. -/
theorem latest_frames_are_log_end (capacity : RingCapacity) (events : List BufferEvent)
    (count : Int) :
    let log := events.foldl FrameLog.perform {}
    let n := min count.toNat (min capacity.value log.frames.length)
    ∃ frames, (events.foldl perform (new capacity)).getLatestFrames count = .ok frames ∧
      frames.length = n ∧
      ∀ offset appended, log.frames[log.frames.length - n + offset]? = some appended →
        ∃ read, frames[offset]? = some read ∧
          Restored log.channels (log.frames.length - n + offset) appended read := by
  obtain ⟨represents, kept⟩ := run_represents (represents_new capacity) events
  have result := represents.getLatestFrames count
  rw [kept, new_capacity] at result
  exact result

section Flood

/-- A name of sixteen binary digits. -/
def floodChannel (n : Nat) : String :=
  String.ofList ((List.range 16).map (fun bit => if n.testBit bit then '1' else '0'))

def floodFields (n : Nat) (errorState : ErrorState) : FrameFields where
  channelId := floodChannel n
  arbitrationId := 0x100
  dlc := 0
  data := []
  errorState := errorState

theorem floodChannel_valid (n : Nat) : validChannelId (floodChannel n) = true := by
  unfold validChannelId floodChannel
  rw [String.toList_ofList]
  dsimp only
  rw [List.length_map, List.length_range, List.all_map]
  have digits : (List.range 16).all
      (channelIdChar ∘ fun bit => if n.testBit bit then '1' else '0') = true := by
    apply List.all_eq_true.mpr
    intro bit _
    rw [Function.comp_apply]
    split <;> decide
  rw [digits]
  rfl

theorem floodFields_valid (n : Nat) (errorState : ErrorState) :
    (floodFields n errorState).postInit = none := by
  apply (FrameFields.postInit_eq_none_iff _).mpr
  constructor
  case channelId => exact floodChannel_valid n
  case dlc => exact Nat.zero_le 15
  case arbitrationId =>
    change 0x100 ≤ 0x7FF
    decide
  case classicDlc =>
    intro _
    exact Nat.zero_le 8
  case classicFlags =>
    intro _
    exact ⟨rfl, rfl⟩
  case fdLength =>
    intro fd
    cases fd
  case exactLength =>
    intro _
    rfl

def floodFrame (n : Nat) (errorState : ErrorState) : RecordedFrame where
  frame := ⟨floodFields n errorState, floodFields_valid n errorState⟩
  timestampNs := 0

theorem floodChannel_injective {n m : Nat} (small : n < 65536) (smallToo : m < 65536)
    (same : floodChannel n = floodChannel m) : n = m := by
  have digits := congrArg String.toList same
  unfold floodChannel at digits
  rw [String.toList_ofList, String.toList_ofList] at digits
  apply Nat.eq_of_testBit_eq
  intro bit
  by_cases low : bit < 16
  · have equal := List.map_inj_left.mp digits bit (List.mem_range.mpr low)
    cases left : n.testBit bit <;> cases right : m.testBit bit
    all_goals simp [left, right] at equal ⊢
  · have wide : 2 ^ 16 ≤ 2 ^ bit := Nat.pow_le_pow_right (Nat.succ_pos 1) (Nat.le_of_not_lt low)
    rw [Nat.testBit_lt_two_pow (by omega), Nat.testBit_lt_two_pow (by omega)]

theorem appendBatch_fresh (frames : List RecordedFrame)
    (fits : ∀ frame ∈ frames, fitsUInt64 frame.timestampNs = true) (log : FrameLog)
    (fresh : (log.channels ++ frames.map (·.frame.channelId)).Nodup) :
    log.appendBatch frames = {
      frames := log.frames ++ frames
      channels := log.channels ++ frames.map (·.frame.channelId) } := by
  induction frames generalizing log with
  | nil =>
      rw [List.map_nil, List.append_nil, List.append_nil]
      rfl
  | cons frame rest ih =>
      have new : frame.frame.channelId ∉ log.channels := by
        intro member
        have apart := (List.nodup_append.mp fresh).2.2
        exact apart _ member _ List.mem_cons_self rfl
      have first : log.append frame = {
          frames := log.frames ++ [frame]
          channels := log.channels ++ [frame.frame.channelId] } := by
        have met : log.meet frame.frame.channelId =
            { log with channels := log.channels ++ [frame.frame.channelId] } := if_neg new
        unfold FrameLog.append
        rw [met]
        exact if_pos (fits frame List.mem_cons_self)
      have split : log.channels ++ (frame :: rest).map (·.frame.channelId) =
          (log.channels ++ [frame.frame.channelId]) ++ rest.map (·.frame.channelId) := by
        rw [List.map_cons, List.append_assoc, List.singleton_append]
      unfold FrameLog.appendBatch
      rw [if_pos (fits frame List.mem_cons_self), first,
        ih (fun later member => fits later (List.mem_cons_of_mem frame member)) _ (split ▸ fresh),
        split, List.append_assoc, List.singleton_append]

def flood (channels : Nat) : List RecordedFrame :=
  (List.range channels).map (fun n => floodFrame n .active)

theorem flood_log {channels : Nat} (small : channels ≤ 65536) :
    FrameLog.appendBatch {} (flood channels) = {
      frames := flood channels
      channels := (List.range channels).map floodChannel } := by
  have names : (flood channels).map (·.frame.channelId) =
      (List.range channels).map floodChannel := List.map_map
  have distinct : ((List.range channels).map floodChannel).Nodup := by
    apply List.Nodup.map_on _ List.nodup_range
    intro n member m memberToo same
    rw [List.mem_range] at member memberToo
    exact floodChannel_injective (by omega) (by omega) same
  have fits : ∀ frame ∈ flood channels, fitsUInt64 frame.timestampNs = true := by
    intro frame member
    obtain ⟨n, _, rfl⟩ := List.mem_map.mp member
    rfl
  have log := appendBatch_fresh (flood channels) fits {} (by rw [names]; exact distinct)
  rw [names] at log
  exact log

theorem flood_getLatestFrames :
    (([BufferEvent.appendBatch (flood 65536)].foldl perform
      (new ⟨1, by decide⟩)).getLatestFrames 1).map
        (List.map (·.frame.channelId)) = .ok ["ch_65535"] := by
  have log (frames : List RecordedFrame) :
      [BufferEvent.appendBatch frames].foldl FrameLog.perform {} =
        FrameLog.appendBatch {} frames := rfl
  have size : (flood 65536).length = 65536 := by
    unfold flood
    rw [List.length_map, List.length_range]
  have last : (flood 65536)[65535]? = some (floodFrame 65535 .active) := by
    unfold flood
    rw [List.getElem?_map, List.getElem?_range (by decide)]
    rfl
  have late : floodChannel 65535 ∉
      ((List.range 65536).map floodChannel).take channelSentinel := by
    intro member
    rw [← List.map_take, List.take_range] at member
    obtain ⟨n, below, same⟩ := List.mem_map.mp member
    have small : n < 65535 := List.mem_range.mp below
    have equal := floodChannel_injective (by omega) (by decide) same
    omega
  obtain ⟨represents, kept⟩ :=
    run_represents (represents_new ⟨1, by decide⟩) [BufferEvent.appendBatch (flood 65536)]
  have result := represents.getLatestFrames 1
  rw [kept, new_capacity, log, flood_log (Nat.le_refl _)] at result
  dsimp only at result
  rw [size] at result
  obtain ⟨frames, read, one, agree⟩ := result
  obtain ⟨frame, found, restored⟩ := agree 0 _ last
  have single : frames = [frame] := by
    obtain ⟨only, rfl⟩ := List.length_eq_one_iff.mp one
    cases found
    rfl
  have channel : frame.frame.channelId = "ch_65535" := restored.channel.trans (if_neg late)
  rw [read, single, ← channel]
  rfl

/-- The channels beyond the numbers come back under one name, and a passive error state comes
back as an active one. -/
theorem latest_frames_not_faithful :
    (((flood 65536)[65535]?.map (·.frame.channelId)) = some "1111111111111111" ∧
      (([BufferEvent.appendBatch (flood 65536)].foldl perform
        (new ⟨1, by decide⟩)).getLatestFrames 1).map
          (List.map (·.frame.channelId)) = .ok ["ch_65535"]) ∧
    ((floodFrame 0 .passive).frame.errorState = .passive ∧
      (([BufferEvent.append (floodFrame 0 .passive)].foldl perform
        (new ⟨1, by decide⟩)).getLatestFrames 1).map
          (List.map (·.frame.errorState)) = .ok [.active]) := by
  constructor
  · constructor
    · unfold flood
      rw [List.getElem?_map, List.getElem?_range (by decide)]
      rfl
    · exact flood_getLatestFrames
  · constructor
    · rfl
    · rfl

end Flood

end BinaryRingBuffer

end Ucanlab.Engine
