import Ucanlab.Engine.Buffer.ChunkRoundTrip

/-!
Runs of the rolling disk buffer: which frames end up in which chunk, and which chunks the
reader accepts.
-/

namespace Ucanlab.Engine.RollingDisk

open Ucanlab EventRun

theorem readLimit_eq (settings : DiskSettings) :
    settings.readLimit = headerSize + settings.maxReadFrames * frameSize ∧
      settings.maxReadFrames ≤ maxChunkFrames := by
  have threshold := settings.admitted.2
  have frames : settings.maxReadFrames ≤ maxChunkFrames := by
    unfold DiskSettings.maxReadFrames
    exact Nat.max_le.mpr ⟨threshold, by decide⟩
  have header : headerSize = 48 := rfl
  constructor
  · unfold DiskSettings.readLimit
    rw [Nat.min_eq_left]
    rw [header, frameSize_eq]
    unfold maxChunkFrames at frames
    unfold maxChunkBytes
    omega
  · exact frames

section Chunk

variable (zstd : Zstd) {digests : Digests} {settings : DiskSettings}
  {frames : List RecordedFrame} {raw : Bytes}
  (admissible : ∀ frame ∈ frames, Admissible frame)
  (serialized : serializeChunk digests frames settings.key = .ok raw)

include admissible serialized

omit zstd in
theorem chunk_of_serialized : raw.length = headerSize + frames.length * frameSize ∧
    deserializeChunk digests raw settings.key = .ok frames := by
  obtain ⟨secret, small⟩ := serializeChunk_ok_conditions serialized
  obtain ⟨other, serializedOther, length, back⟩ :=
    deserializeChunk_serializeChunk digests secret small admissible
  rw [serialized] at serializedOther
  cases serializedOther
  exact ⟨length, back⟩

theorem readChunk_of_fits (fits : frames.length ≤ settings.maxReadFrames) :
    readChunk zstd digests settings (zstd.compress raw) = .ok frames := by
  obtain ⟨length, back⟩ := chunk_of_serialized admissible serialized
  obtain ⟨limit, bound⟩ := readLimit_eq settings
  have header : headerSize = 48 := rfl
  have stored := zstd.bounded raw
  rw [header, frameSize_eq] at length limit
  unfold maxChunkFrames at bound
  unfold compressBound at stored
  have small : ¬ (zstd.compress raw).length > maxStoredFileBytes := by
    unfold maxStoredFileBytes
    split at stored <;> omega
  have inside : ¬ raw.length > settings.readLimit := by omega
  unfold readChunk decompressBounded
  rw [if_neg small, zstd.givesBack]
  dsimp only
  rw [if_neg inside]
  exact back

theorem readChunk_of_exceeds (exceeds : settings.maxReadFrames < frames.length) :
    ∃ error, readChunk zstd digests settings (zstd.compress raw) = .error error := by
  obtain ⟨length, _⟩ := chunk_of_serialized admissible serialized
  obtain ⟨limit, _⟩ := readLimit_eq settings
  have header : headerSize = 48 := rfl
  rw [header, frameSize_eq] at length limit
  have beyond : raw.length > settings.readLimit := by omega
  unfold readChunk decompressBounded
  split
  · exact ⟨_, rfl⟩
  · rw [zstd.givesBack]
    dsimp only
    rw [if_pos beyond]
    exact ⟨_, rfl⟩

theorem readChunk_eq_ok_iff :
    readChunk zstd digests settings (zstd.compress raw) = .ok frames ↔
      frames.length ≤ settings.maxReadFrames := by
  constructor
  · intro read
    by_contra exceeds
    obtain ⟨error, failed⟩ :=
      readChunk_of_exceeds zstd admissible serialized (Nat.not_le.mp exceeds)
    rw [read] at failed
    cases failed
  · exact readChunk_of_fits zstd admissible serialized

end Chunk

def detachedChunk (buffer : RollingDiskBuffer) : DiskEvent → List (List RecordedFrame)
  | .flush _ =>
      if buffer.currentChunkFrames = [] then [] else [buffer.currentChunkFrames]
  | _ => []

def admittedFrame (buffer : RollingDiskBuffer) : DiskEvent → List RecordedFrame
  | .append _ frame =>
      if (checkFrame frame).isSome then []
      else if buffer.closed ∨ ¬ buffer.available then []
      else [frame]
  | _ => []

def FlushFits (settings : DiskSettings) (buffer : RollingDiskBuffer) : DiskEvent → Prop
  | .flush _ => buffer.currentChunkFrames.length ≤ settings.maxReadFrames
  | _ => True

structure Consistent (zstd : Zstd) (digests : Digests) (settings : DiskSettings)
    (chunks : List (List RecordedFrame)) (admitted : List RecordedFrame)
    (buffer : RollingDiskBuffer) : Prop where
  conserved : chunks.flatten ++ buffer.currentChunkFrames = admitted
  counted : buffer.chunkIndex = chunks.length
  admissible : ∀ frame ∈ admitted, Admissible frame
  held : ∀ thread frames index, buffer.threads.get? thread = some (.holds frames index) →
    chunks[index]? = some frames
  queued : ∀ name raw, (name, raw) ∈ buffer.flushQueue → ∃ frames,
    chunks[name.index]? = some frames ∧ serializeChunk digests frames settings.key = .ok raw
  written : ∀ name content, (name, content) ∈ buffer.storage → ∃ frames raw,
    chunks[name.index]? = some frames ∧ serializeChunk digests frames settings.key = .ok raw ∧
      content = zstd.compress raw

section Steps

variable {zstd : Zstd} {digests : Digests} {settings : DiskSettings}
  {chunks : List (List RecordedFrame)} {admitted : List RecordedFrame}
  {buffer next : RollingDiskBuffer}

theorem consistent_new : Consistent zstd digests settings [] [] {} where
  conserved := rfl
  counted := rfl
  admissible := fun _ member => absurd member List.not_mem_nil
  held := by
    intro thread frames index found
    cases found
  queued := fun _ _ member => absurd member List.not_mem_nil
  written := fun _ _ member => absurd member List.not_mem_nil

theorem Consistent.append (consistent : Consistent zstd digests settings chunks admitted buffer)
    (thread : Nat) (frame : RecordedFrame) :
    Consistent zstd digests settings chunks
      (admitted ++ admittedFrame buffer (.append thread frame))
      (buffer.append settings thread frame) := by
  unfold RollingDiskBuffer.append admittedFrame
  dsimp only
  cases refused : checkFrame frame with
  | some error =>
      rw [Option.isSome_some, if_pos rfl, if_pos rfl, List.append_nil]
      exact ⟨consistent.conserved, consistent.counted, consistent.admissible, consistent.held,
        consistent.queued, consistent.written⟩
  | none =>
      rw [Option.isSome_none, if_neg Bool.false_ne_true, if_neg Bool.false_ne_true]
      split
      · rw [List.append_nil]
        exact ⟨consistent.conserved, consistent.counted, consistent.admissible, consistent.held,
          consistent.queued, consistent.written⟩
      · constructor
        case conserved => rw [← consistent.conserved, List.append_assoc]
        case counted => exact consistent.counted
        case admissible =>
          intro other member
          rcases List.mem_append.mp member with older | newest
          · exact consistent.admissible other older
          · rw [List.mem_singleton.mp newest]
            exact (checkFrame_eq_none_iff frame).mp refused
        case held =>
          intro other frames index found
          dsimp only at found
          split at found
          · by_cases same : other = thread
            · rw [same, Dict.get?_set_self] at found
              cases found
            · rw [Dict.get?_set_ne _ same] at found
              exact consistent.held other frames index found
          · exact consistent.held other frames index found
        case queued => exact consistent.queued
        case written => exact consistent.written

theorem getElem?_append_of_some {index : Nat} {frames : List RecordedFrame}
    (found : chunks[index]? = some frames) (later : List (List RecordedFrame)) :
    (chunks ++ later)[index]? = some frames := by
  obtain ⟨below, _⟩ := List.getElem?_eq_some_iff.mp found
  rw [List.getElem?_append_left below]
  exact found

theorem Consistent.detach (consistent : Consistent zstd digests settings chunks admitted buffer)
    (thread : Nat) :
    Consistent zstd digests settings (chunks ++ detachedChunk buffer (.flush thread)) admitted
      (buffer.detach thread) := by
  unfold RollingDiskBuffer.detach detachedChunk
  dsimp only
  split
  · rw [List.append_nil]
    refine ⟨consistent.conserved, consistent.counted, consistent.admissible, ?_,
      consistent.queued, consistent.written⟩
    intro other frames index found
    by_cases same : other = thread
    · rw [same] at found
      have absent := Dict.get?_erase_self buffer.threads thread
      rw [absent] at found
      cases found
    · exact consistent.held other frames index
        ((Dict.get?_erase_ne buffer.threads same).symm.trans found)
  · constructor
    case conserved =>
      rw [List.flatten_append, List.flatten_singleton, List.append_nil]
      exact consistent.conserved
    case counted =>
      rw [List.length_append, List.length_singleton, ← consistent.counted]
    case admissible => exact consistent.admissible
    case held =>
      intro other frames index found
      by_cases same : other = thread
      · rw [same, Dict.get?_set_self] at found
        cases found
        rw [consistent.counted, List.getElem?_concat_length]
      · rw [Dict.get?_set_ne _ same] at found
        exact getElem?_append_of_some (consistent.held other frames index found) _
    case queued =>
      intro name raw member
      obtain ⟨frames, found, serialized⟩ := consistent.queued name raw member
      exact ⟨frames, getElem?_append_of_some found _, serialized⟩
    case written =>
      intro name content member
      obtain ⟨frames, raw, found, serialized, same⟩ := consistent.written name content member
      exact ⟨frames, raw, getElem?_append_of_some found _, serialized, same⟩

theorem Consistent.held_erase
    (consistent : Consistent zstd digests settings chunks admitted buffer) (thread : Nat) :
    ∀ other frames index, (buffer.threads.erase thread).get? other = some (.holds frames index) →
      chunks[index]? = some frames := by
  intro other frames index found
  by_cases same : other = thread
  · rw [same, Dict.get?_erase_self] at found
    cases found
  · rw [Dict.get?_erase_ne _ same] at found
    exact consistent.held other frames index found

theorem Consistent.enqueue (consistent : Consistent zstd digests settings chunks admitted buffer)
    {thread : Nat} {frames : List RecordedFrame} {index : Nat}
    (holds : buffer.threads.get? thread = some (.holds frames index)) (keyAvailable : Bool) :
    Consistent zstd digests settings chunks admitted
      (buffer.enqueue digests settings thread frames index keyAvailable) := by
  have held := consistent.held_erase thread
  unfold RollingDiskBuffer.enqueue
  split
  · exact ⟨consistent.conserved, consistent.counted, consistent.admissible, held,
      consistent.queued, consistent.written⟩
  · cases serialized : serializeChunk digests frames settings.key with
    | error error =>
        exact ⟨consistent.conserved, consistent.counted, consistent.admissible, held,
          consistent.queued, consistent.written⟩
    | ok raw =>
        refine ⟨consistent.conserved, consistent.counted, consistent.admissible, held, ?_,
          consistent.written⟩
        intro name other member
        rcases List.mem_append.mp member with older | newest
        · exact consistent.queued name other older
        · obtain ⟨rfl, rfl⟩ := Prod.mk.inj (List.mem_singleton.mp newest)
          exact ⟨frames, consistent.held thread frames index holds, serialized⟩

theorem Consistent.step (consistent : Consistent zstd digests settings chunks admitted buffer)
    {event : DiskEvent} (stepped : buffer.step zstd digests settings event = some next) :
    Consistent zstd digests settings (chunks ++ detachedChunk buffer event)
      (admitted ++ admittedFrame buffer event) next := by
  cases event with
  | append thread frame =>
      unfold RollingDiskBuffer.step at stepped
      dsimp only at stepped
      split at stepped
      · cases stepped
        rw [show detachedChunk buffer (.append thread frame) = [] from rfl, List.append_nil]
        exact consistent.append thread frame
      · cases stepped
  | flush thread =>
      unfold RollingDiskBuffer.step at stepped
      dsimp only at stepped
      rw [show admittedFrame buffer (.flush thread) = [] from rfl, List.append_nil]
      split at stepped
      · cases stepped
      · cases stepped
        exact consistent.detach thread
  | enqueue thread keyAvailable =>
      unfold RollingDiskBuffer.step at stepped
      dsimp only at stepped
      change Consistent _ _ _ (chunks ++ []) (admitted ++ []) _
      rw [List.append_nil, List.append_nil]
      split at stepped
      · rename_i frames index holds
        cases stepped
        exact consistent.enqueue holds keyAvailable
      · cases stepped
  | write position =>
      unfold RollingDiskBuffer.step at stepped
      dsimp only at stepped
      change Consistent _ _ _ (chunks ++ []) (admitted ++ []) _
      rw [List.append_nil, List.append_nil]
      split at stepped
      · rename_i name raw found
        cases stepped
        refine ⟨consistent.conserved, consistent.counted, consistent.admissible, consistent.held,
          ?_, ?_⟩
        · intro other later member
          exact consistent.queued other later (List.mem_of_mem_eraseIdx member)
        · intro other content member
          rcases List.mem_append.mp member with older | newest
          · exact consistent.written other content older
          · obtain ⟨rfl, rfl⟩ := Prod.mk.inj (List.mem_singleton.mp newest)
            obtain ⟨frames, place, serialized⟩ :=
              consistent.queued _ raw (List.mem_of_getElem? found)
            exact ⟨frames, raw, place, serialized, rfl⟩
      · cases stepped
  | close =>
      cases stepped
      change Consistent _ _ _ (chunks ++ []) (admitted ++ []) _
      rw [List.append_nil, List.append_nil]
      exact ⟨consistent.conserved, consistent.counted, consistent.admissible, consistent.held,
        consistent.queued, consistent.written⟩

end Steps

section Runs

variable {zstd : Zstd} {digests : Digests} {settings : DiskSettings} {events : List DiskEvent}
  {last : RollingDiskBuffer}

theorem run_consistent
    (ran : run (RollingDiskBuffer.step zstd digests settings) {} events = some last) :
    Consistent zstd digests settings
      (reports (RollingDiskBuffer.step zstd digests settings) detachedChunk {} events)
      (reports (RollingDiskBuffer.step zstd digests settings) admittedFrame {} events) last := by
  refine @run_history_invariant _ _ _ (fun past state => Consistent zstd digests settings
    (reports (RollingDiskBuffer.step zstd digests settings) detachedChunk {} past)
    (reports (RollingDiskBuffer.step zstd digests settings) admittedFrame {} past) state) _ _ _
    consistent_new ?_ ran
  intro past state event next pastRan consistent stepped
  rw [reports_append_singleton pastRan, reports_append_singleton pastRan]
  exact consistent.step stepped

def ReadBack (zstd : Zstd) (digests : Digests) (settings : DiskSettings)
    (chunks : List (List RecordedFrame)) (file : ChunkName × Bytes) : Prop :=
  ∃ frames, chunks[file.1.index]? = some frames ∧
    readChunk zstd digests settings file.2 = .ok frames

theorem Consistent.readBack_iff {chunks : List (List RecordedFrame)}
    {admitted : List RecordedFrame} (consistent : Consistent zstd digests settings chunks admitted last)
    {file : ChunkName × Bytes} (member : file ∈ last.storage) :
    ReadBack zstd digests settings chunks file ↔
      ∃ frames, chunks[file.1.index]? = some frames ∧
        frames.length ≤ settings.maxReadFrames := by
  obtain ⟨frames, raw, found, serialized, content⟩ := consistent.written file.1 file.2 member
  have admissible : ∀ frame ∈ frames, Admissible frame := by
    intro frame inside
    apply consistent.admissible
    rw [← consistent.conserved]
    apply List.mem_append_left
    exact List.mem_flatten.mpr ⟨frames, List.mem_of_getElem? found, inside⟩
  have read := readChunk_eq_ok_iff zstd admissible serialized
  unfold ReadBack
  rw [found, content]
  constructor
  · rintro ⟨other, same, back⟩
    cases same
    exact ⟨frames, rfl, read.mp back⟩
  · rintro ⟨other, same, fits⟩
    cases same
    exact ⟨frames, rfl, read.mpr fits⟩

theorem detachedChunk_fits {buffer : RollingDiskBuffer} {event : DiskEvent}
    {frames : List RecordedFrame} (fits : FlushFits settings buffer event)
    (member : frames ∈ detachedChunk buffer event) :
    frames.length ≤ settings.maxReadFrames := by
  cases event with
  | flush thread =>
      unfold detachedChunk at member
      dsimp only at member
      split at member
      · cases member
      · rw [List.mem_singleton.mp member]
        exact fits
  | append thread frame => cases member
  | enqueue thread keyAvailable => cases member
  | write position => cases member
  | close => cases member

/-- Over every interleaving the frames taken are those of the chunks and the pending ones, and
the files are all read back exactly when each holds no more frames than the reader has room
for; that is so when every flush section finds no more than that pending. -/
theorem chunks_readable_iff (zstd : Zstd) (digests : Digests) (settings : DiskSettings)
    (events : List DiskEvent) (last : RollingDiskBuffer)
    (ran : run (RollingDiskBuffer.step zstd digests settings) {} events = some last) :
    let step := RollingDiskBuffer.step zstd digests settings
    let chunks := reports step detachedChunk {} events
    chunks.flatten ++ last.currentChunkFrames = reports step admittedFrame {} events ∧
      ((∀ file ∈ last.storage, ReadBack zstd digests settings chunks file) ↔
        ∀ file ∈ last.storage, ∃ frames, chunks[file.1.index]? = some frames ∧
          frames.length ≤ max settings.chunkFrameThreshold 25000) ∧
      (Meets step (FlushFits settings) {} events →
        ∀ file ∈ last.storage, ReadBack zstd digests settings chunks file) := by
  have consistent := run_consistent ran
  refine ⟨consistent.conserved, ?_, ?_⟩
  · constructor
    · intro readable file member
      exact (consistent.readBack_iff member).mp (readable file member)
    · intro fits file member
      exact (consistent.readBack_iff member).mpr (fits file member)
  · intro meets file member
    obtain ⟨frames, _, found, _⟩ := consistent.written file.1 file.2 member
    refine (consistent.readBack_iff member).mpr ⟨frames, found, ?_⟩
    have fits := reports_forall_of_meets
      (fun _ _ _ condition inside => detachedChunk_fits condition inside) meets
    exact fits frames (List.mem_of_getElem? found)

theorem step_pending_le {buffer next : RollingDiskBuffer} {event : DiskEvent}
    (stepped : buffer.step zstd digests settings event = some next) :
    next.currentChunkFrames.length ≤ buffer.currentChunkFrames.length + 1 := by
  unfold RollingDiskBuffer.step at stepped
  cases event with
  | append thread frame =>
      dsimp only at stepped
      split at stepped
      · cases stepped
        unfold RollingDiskBuffer.append
        split
        · exact Nat.le_succ _
        · split
          · exact Nat.le_succ _
          · dsimp only
            rw [List.length_append, List.length_singleton]
      · cases stepped
  | flush thread =>
      dsimp only at stepped
      split at stepped
      · cases stepped
      · cases stepped
        unfold RollingDiskBuffer.detach
        split
        · exact Nat.le_succ _
        · exact Nat.zero_le _
  | enqueue thread keyAvailable =>
      dsimp only at stepped
      split at stepped
      · cases stepped
        unfold RollingDiskBuffer.enqueue
        split
        · exact Nat.le_succ _
        · split <;> exact Nat.le_succ _
      · cases stepped
  | write position =>
      dsimp only at stepped
      split at stepped
      · cases stepped
        exact Nat.le_succ _
      · cases stepped
  | close =>
      cases stepped
      exact Nat.le_succ _

theorem meets_of_short {buffer : RollingDiskBuffer}
    (short : buffer.currentChunkFrames.length + events.length ≤ settings.maxReadFrames) :
    Meets (RollingDiskBuffer.step zstd digests settings) (FlushFits settings) buffer events := by
  induction events generalizing buffer with
  | nil => trivial
  | cons event rest ih =>
      rw [List.length_cons] at short
      constructor
      · cases event with
        | flush thread =>
            change buffer.currentChunkFrames.length ≤ settings.maxReadFrames
            omega
        | append thread frame => trivial
        | enqueue thread keyAvailable => trivial
        | write position => trivial
        | close => trivial
      · intro next stepped
        have grown := step_pending_le stepped
        exact ih (by omega)

end Runs

section Race

variable (zstd : Zstd) (digests : Digests) {settings : DiskSettings} {frame : RecordedFrame}

theorem append_admitted {buffer : RollingDiskBuffer} (admitted : checkFrame frame = none)
    (opened : buffer.closed = false) (healthy : buffer.available = true) (thread : Nat) :
    buffer.append settings thread frame =
      { buffer with
        currentChunkFrames := buffer.currentChunkFrames ++ [frame]
        threads :=
          if (buffer.currentChunkFrames ++ [frame]).length ≥ settings.chunkFrameThreshold then
            buffer.threads.set thread .owesFlush
          else buffer.threads } := by
  unfold RollingDiskBuffer.append
  rw [admitted, opened, healthy]
  rfl

theorem run_appends (admitted : checkFrame frame = none) (thread : Nat) (count : Nat)
    (pending : List RecordedFrame)
    (below : pending.length + count < settings.chunkFrameThreshold) (rest : List DiskEvent) :
    run (RollingDiskBuffer.step zstd digests settings) { currentChunkFrames := pending }
        (List.replicate count (.append thread frame) ++ rest) =
      run (RollingDiskBuffer.step zstd digests settings)
        { currentChunkFrames := pending ++ List.replicate count frame } rest := by
  induction count generalizing pending with
  | zero => rw [List.replicate_zero, List.replicate_zero, List.append_nil, List.nil_append]
  | succ count ih =>
      have stepped : RollingDiskBuffer.step zstd digests settings
          { currentChunkFrames := pending } (.append thread frame) =
            some { currentChunkFrames := pending ++ [frame] } := by
        have grown : RollingDiskBuffer.append settings { currentChunkFrames := pending } thread
            frame = _ := append_admitted admitted rfl rfl thread
        rw [if_neg (by rw [List.length_append, List.length_singleton]; dsimp only; omega)] at grown
        exact congrArg some grown
      rw [List.replicate_succ, List.cons_append, run_cons_of_step _ stepped, ih (pending ++ [frame])
        (by rw [List.length_append, List.length_singleton]; omega), List.replicate_succ,
        List.append_assoc, List.singleton_append]

def racedFlush (settings : DiskSettings) (frame : RecordedFrame) : List DiskEvent :=
  List.replicate (settings.chunkFrameThreshold - 1) (.append 0 frame) ++
    [.append 0 frame, .append 1 frame, .flush 0, .enqueue 0 true, .write 0]

theorem run_racedFlush (admitted : checkFrame frame = none) {raw : Bytes}
    (serialized : serializeChunk digests
      (List.replicate (settings.chunkFrameThreshold + 1) frame) settings.key = .ok raw) :
    ∃ last name, run (RollingDiskBuffer.step zstd digests settings) {}
        (racedFlush settings frame) = some last ∧
      last.storage = [(name, zstd.compress raw)] := by
  have positive := settings.admitted.1
  have full : List.replicate (settings.chunkFrameThreshold - 1) frame ++ [frame] =
      List.replicate settings.chunkFrameThreshold frame := by
    rw [← List.replicate_succ', Nat.sub_add_cancel positive]
  have oneMore : List.replicate settings.chunkFrameThreshold frame ++ [frame] =
      List.replicate (settings.chunkFrameThreshold + 1) frame := List.replicate_succ'.symm
  have filled : RollingDiskBuffer.step zstd digests settings
      { currentChunkFrames := List.replicate (settings.chunkFrameThreshold - 1) frame }
      (.append 0 frame) = some {
        currentChunkFrames := List.replicate settings.chunkFrameThreshold frame
        threads := [(0, .owesFlush)] } := by
    have grown : RollingDiskBuffer.append settings
        { currentChunkFrames := List.replicate (settings.chunkFrameThreshold - 1) frame } 0
        frame = _ := append_admitted admitted rfl rfl 0
    dsimp only at grown
    rw [full, List.length_replicate, if_pos (Nat.le_refl _)] at grown
    exact congrArg some grown
  have raced : RollingDiskBuffer.step zstd digests settings {
        currentChunkFrames := List.replicate settings.chunkFrameThreshold frame
        threads := [(0, .owesFlush)] } (.append 1 frame) = some {
        currentChunkFrames := List.replicate (settings.chunkFrameThreshold + 1) frame
        threads := [(0, .owesFlush), (1, .owesFlush)] } := by
    have grown : RollingDiskBuffer.append settings {
        currentChunkFrames := List.replicate settings.chunkFrameThreshold frame
        threads := [(0, .owesFlush)] } 1 frame = _ := append_admitted admitted rfl rfl 1
    dsimp only at grown
    rw [oneMore, List.length_replicate, if_pos (Nat.le_succ _)] at grown
    exact congrArg some grown
  have detached : RollingDiskBuffer.step zstd digests settings {
        currentChunkFrames := List.replicate (settings.chunkFrameThreshold + 1) frame
        threads := [(0, .owesFlush), (1, .owesFlush)] } (.flush 0) = some {
        chunkIndex := 1
        threads := [(0, .holds (List.replicate (settings.chunkFrameThreshold + 1) frame) 0),
          (1, .owesFlush)] } := by
    have pending : ¬ List.replicate (settings.chunkFrameThreshold + 1) frame = [] := by
      rw [List.replicate_succ]
      exact List.cons_ne_nil _ _
    exact congrArg some (if_neg pending)
  have queued : RollingDiskBuffer.step zstd digests settings {
        chunkIndex := 1
        threads := [(0, .holds (List.replicate (settings.chunkFrameThreshold + 1) frame) 0),
          (1, .owesFlush)] } (.enqueue 0 true) = some {
        chunkIndex := 1
        threads := [(1, .owesFlush)]
        flushQueue := [({ index := 0, timestampNs := frame.timestampNs }, raw)] } := by
    have handled : RollingDiskBuffer.enqueue digests settings {
        chunkIndex := 1
        threads := [(0, .holds (List.replicate (settings.chunkFrameThreshold + 1) frame) 0),
          (1, .owesFlush)] } 0 (List.replicate (settings.chunkFrameThreshold + 1) frame) 0 true = {
        chunkIndex := 1
        threads := [(1, .owesFlush)]
        flushQueue := [({ index := 0, timestampNs := frame.timestampNs }, raw)] } := by
      unfold RollingDiskBuffer.enqueue
      rw [if_neg (not_not_intro rfl), serialized, List.replicate_succ]
      rfl
    exact congrArg some handled
  unfold racedFlush
  rw [run_appends zstd digests admitted 0 _ [] (by rw [List.length_nil]; omega), List.nil_append,
    run_cons_of_step _ filled, run_cons_of_step _ raced, run_cons_of_step _ detached,
    run_cons_of_step _ queued]
  exact ⟨_, _, rfl, rfl⟩

def storingZstd : Zstd where
  compress := fun raw => raw
  decompress := some
  givesBack := fun _ => rfl
  bounded := by
    intro raw
    unfold compressBound
    omega

def zeroKeySettings (threshold : Nat) (admitted : 1 ≤ threshold ∧ threshold ≤ maxChunkFrames) :
    DiskSettings where
  chunkFrameThreshold := threshold
  key := List.replicate 32 0
  admitted := admitted
  keyLength := List.length_replicate

theorem injectedFrame_admitted : checkFrame injectedFrame = none := rfl

theorem injectedFrames_admissible (count : Nat) :
    ∀ frame ∈ List.replicate count injectedFrame, Admissible frame := by
  intro frame member
  rw [List.eq_of_mem_replicate member]
  exact (checkFrame_eq_none_iff injectedFrame).mp injectedFrame_admitted

theorem serializeChunk_injected (settings : DiskSettings) {count : Nat}
    (small : count ≤ 0xFFFFFFFF) :
    ∃ raw, serializeChunk blankDigests (List.replicate count injectedFrame) settings.key =
      .ok raw := by
  obtain ⟨raw, serialized, _⟩ := deserializeChunk_serializeChunk blankDigests settings.keyLength
    (by rw [List.length_replicate]; exact small) (injectedFrames_admissible count)
  exact ⟨raw, serialized⟩

/-- Two appenders at the threshold of the class, and the chunk goes to quarantine. -/
theorem raced_chunk_unreadable :
    ∃ last file, run (RollingDiskBuffer.step storingZstd blankDigests
        (zeroKeySettings 25000 (by decide))) {}
        (racedFlush (zeroKeySettings 25000 (by decide)) injectedFrame) = some last ∧
      last.storage = [file] ∧
      ∃ error, readChunk storingZstd blankDigests (zeroKeySettings 25000 (by decide)) file.2 =
        .error error := by
  obtain ⟨raw, serialized⟩ := serializeChunk_injected (zeroKeySettings 25000 (by decide))
    (show 25001 ≤ 0xFFFFFFFF by decide)
  obtain ⟨last, name, ran, stored⟩ :=
    run_racedFlush storingZstd blankDigests injectedFrame_admitted serialized
  refine ⟨last, _, ran, stored, ?_⟩
  apply readChunk_of_exceeds storingZstd (injectedFrames_admissible 25001) serialized
  rw [List.length_replicate]
  decide

theorem chunks_readable_iff_raced :
    ∃ last, run (RollingDiskBuffer.step storingZstd blankDigests
        (zeroKeySettings 1 (by decide))) {}
        (racedFlush (zeroKeySettings 1 (by decide)) injectedFrame) = some last ∧
      last.storage ≠ [] ∧
      ∀ file ∈ last.storage, ReadBack storingZstd blankDigests (zeroKeySettings 1 (by decide))
        (reports (RollingDiskBuffer.step storingZstd blankDigests
          (zeroKeySettings 1 (by decide))) detachedChunk {}
          (racedFlush (zeroKeySettings 1 (by decide)) injectedFrame)) file := by
  obtain ⟨raw, serialized⟩ := serializeChunk_injected (zeroKeySettings 1 (by decide))
    (show 2 ≤ 0xFFFFFFFF by decide)
  obtain ⟨last, name, ran, stored⟩ :=
    run_racedFlush storingZstd blankDigests injectedFrame_admitted serialized
  refine ⟨last, ran, ?_, ?_⟩
  · rw [stored]
    exact List.cons_ne_nil _ _
  · apply (chunks_readable_iff storingZstd blankDigests _ _ last ran).2.2
    apply meets_of_short
    decide

end Race

end Ucanlab.Engine.RollingDisk
