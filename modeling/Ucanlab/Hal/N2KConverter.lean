import Ucanlab.Protocols.Nmea2000.FastPacketTable

/-!
The trace converter cuts payloads of more than eight bytes into Fast Packet frames, and the
decoder puts them together again. The two count the frames apart from each other: the
converter takes payloads of up to 255 bytes and stops at the frame index 31.
-/

namespace Ucanlab.Nmea2000

open Ucanlab J1939 BitField

def pgnToCanId (priority pgn source destination : Nat) : Nat :=
  let pf := (pgn >>> 8) &&& 0xFF
  let prio := priority &&& 0x07
  let sa := source &&& 0xFF
  let da := destination &&& 0xFF
  if pf < 240 then (prio <<< 26) ||| ((pgn &&& 0x3FF00) <<< 8) ||| (da <<< 8) ||| sa
  else (prio <<< 26) ||| ((pgn &&& 0x3FFFF) <<< 8) ||| sa

/-- `bytes([value])` raises `ValueError` from 256 on. -/
inductive DecomposeError where
  | byteRange (value : Nat)
  deriving DecidableEq, Repr

def ljust (payload : Bytes) (width : Nat) : Bytes :=
  payload ++ List.replicate (width - payload.length) 0xFF

def laterBuckets (payload : Bytes) (seq offset frameIdx : Nat) : List Bytes :=
  if offset < payload.length ∧ frameIdx < 32 then
    (UInt8.ofNat ((seq <<< 5) ||| (frameIdx &&& 0x1F)) ::
        ljust ((payload.drop offset).take 7) 7) ::
      laterBuckets payload seq (offset + 7) (frameIdx + 1)
  else []
termination_by 32 - frameIdx

def decomposeFastPacket (payload : Bytes) (sequenceId : Nat) : Except DecomposeError (List Bytes) :=
  let totalLen := payload.length
  if totalLen ≤ 8 then .ok [ljust payload 8]
  else
    let seq := sequenceId &&& 0x07
    if totalLen > 255 then .error (.byteRange totalLen)
    else
      .ok (([UInt8.ofNat ((seq <<< 5) ||| 0x00), UInt8.ofNat totalLen] ++ ljust (payload.take 6) 6) ::
        laterBuckets payload seq 6 1)

def convertedFields (channelId : String) (canId : Nat) (frameBytes : Bytes) : FrameFields where
  channelId := channelId
  arbitrationId := canId
  dlc := frameBytes.length
  data := frameBytes
  isExtended := true

def feed (decoder : FastPacketDecoder) : List Arrival → List (Option N2KCompletedMessage)
  | [] => []
  | arrival :: rest =>
      let handled := handleRxFrame decoder arrival
      handled.2 :: feed handled.1 rest

def CompletesAtEnd (results : List (Option N2KCompletedMessage))
    (good : N2KCompletedMessage → Prop) : Prop :=
  ∃ earlier message, results = earlier ++ [some message] ∧ (∀ result ∈ earlier, result = none) ∧
    good message

/-- Every frame comes within the timeout of the one before it. -/
def InTimeFrom (last : Nat) : List Arrival → Prop
  | [] => True
  | arrival :: rest => arrival.now - last ≤ timeoutNs ∧ InTimeFrom arrival.now rest

def InTime : List Arrival → Prop
  | [] => True
  | arrival :: rest => InTimeFrom arrival.now rest

section Identifiers

theorem or_four_fields {page specific low : Nat} (priority : Nat) (pageSmall : page < 1024)
    (specificSmall : specific < 256) (lowSmall : low < 256) :
    (priority <<< 26) ||| (page <<< 16) ||| (specific <<< 8) ||| low =
      priority * 67108864 + page * 65536 + specific * 256 + low := by
  have upper : page <<< 16 < 67108864 := by
    rw [Nat.shiftLeft_eq]
    exact Nat.mul_lt_mul_of_pos_right pageSmall (by decide)
  have middle : specific <<< 8 < 65536 := by
    rw [Nat.shiftLeft_eq]
    exact Nat.mul_lt_mul_of_pos_right specificSmall (by decide)
  have two : priority * 67108864 + page <<< 16 = (priority * 1024 + page) <<< 16 := by
    rw [Nat.shiftLeft_eq, Nat.shiftLeft_eq, Nat.add_mul, Nat.mul_assoc]
  have three : (priority * 1024 + page) * 65536 + specific <<< 8 =
      ((priority * 1024 + page) * 256 + specific) <<< 8 := by
    rw [Nat.shiftLeft_eq, Nat.shiftLeft_eq, Nat.add_mul _ specific, Nat.mul_assoc _ 256]
  have joined := @shiftLeft_or_eq ((priority * 1024 + page) * 256 + specific) low 8 lowSmall
  rw [@shiftLeft_or_eq priority (page <<< 16) 26 upper]
  change (priority * 67108864 + page <<< 16) ||| specific <<< 8 ||| low = _
  rw [two, @shiftLeft_or_eq _ (specific <<< 8) 16 middle]
  change ((priority * 1024 + page) * 65536 + specific <<< 8) ||| low = _
  rw [three, joined]
  change ((priority * 1024 + page) * 256 + specific) * 256 + low = _
  clear joined three two middle upper
  omega

theorem or_three_fields {group low : Nat} (priority : Nat) (groupSmall : group < 262144)
    (lowSmall : low < 256) :
    (priority <<< 26) ||| (group <<< 8) ||| low = priority * 67108864 + group * 256 + low := by
  have upper : group <<< 8 < 67108864 := by
    rw [Nat.shiftLeft_eq]
    exact Nat.mul_lt_mul_of_pos_right groupSmall (by decide)
  have two : priority * 67108864 + group <<< 8 = (priority * 262144 + group) <<< 8 := by
    rw [Nat.shiftLeft_eq, Nat.shiftLeft_eq, Nat.add_mul, Nat.mul_assoc]
  have joined := @shiftLeft_or_eq (priority * 262144 + group) low 8 lowSmall
  rw [@shiftLeft_or_eq priority (group <<< 8) 26 upper]
  change (priority * 67108864 + group <<< 8) ||| low = _
  rw [two, joined]
  change (priority * 262144 + group) * 256 + low = _
  clear joined two upper
  omega

theorem pgnToCanId_eq (priority pgn source destination : Nat) :
    pgnToCanId priority pgn source destination =
      if pgn / 256 % 256 < 240 then
        priority % 8 * 67108864 + pgn / 256 % 1024 * 65536 + destination % 256 * 256 + source % 256
      else priority % 8 * 67108864 + pgn % 262144 * 256 + source % 256 := by
  have format : (pgn >>> 8) &&& 0xFF = pgn / 256 % 256 := shiftRight_and_eq pgn 8 8
  have prio : priority &&& 0x07 = priority % 8 := Nat.and_two_pow_sub_one_eq_mod priority 3
  have low (address : Nat) : address &&& 0xFF = address % 256 :=
    Nat.and_two_pow_sub_one_eq_mod address 8
  have wide : pgn &&& 0x3FFFF = pgn % 262144 := Nat.and_two_pow_sub_one_eq_mod pgn 18
  have pages : (pgn &&& 0x3FF00) <<< 8 = (pgn / 256 % 1024) <<< 16 := by
    have field : pgn &&& 0x3FF00 = pgn / 256 % 1024 * 256 := and_shiftLeft_eq pgn 8 10
    rw [field, Nat.shiftLeft_eq, Nat.shiftLeft_eq, Nat.mul_assoc]
  unfold pgnToCanId
  dsimp only
  rw [format, prio, low, low, wide, pages]
  have pageSmall : pgn / 256 % 1024 < 1024 := Nat.mod_lt _ (by decide)
  have groupSmall : pgn % 262144 < 262144 := Nat.mod_lt _ (by decide)
  have targetSmall : destination % 256 < 256 := Nat.mod_lt _ (by decide)
  have sourceSmall : source % 256 < 256 := Nat.mod_lt _ (by decide)
  rw [or_four_fields _ pageSmall targetSmall sourceSmall, or_three_fields _ groupSmall sourceSmall]

theorem pgnToCanId_le (priority pgn source destination : Nat) :
    pgnToCanId priority pgn source destination ≤ 0x1FFFFFFF := by
  rw [pgnToCanId_eq]
  split
  · omega
  · omega

def carriedPgn (pgn : Nat) : Nat :=
  if pgn / 256 % 256 < 240 then pgn / 256 % 1024 * 256 else pgn % 262144

theorem parseJ1939Id_pgnToCanId (priority pgn source destination : Nat) :
    (parseJ1939Id (pgnToCanId priority pgn source destination)).pgn = carriedPgn pgn ∧
      (parseJ1939Id (pgnToCanId priority pgn source destination)).sourceAddress = source % 256 := by
  have sourceOf (id : Nat) : (parseJ1939Id id).sourceAddress = id % 256 := by
    unfold parseJ1939Id
    dsimp only
    split
    · exact Nat.and_two_pow_sub_one_eq_mod id 8
    · exact Nat.and_two_pow_sub_one_eq_mod id 8
  have format := pduFormat_eq (pgnToCanId priority pgn source destination)
  have id := pgnToCanId_eq priority pgn source destination
  unfold carriedPgn
  rw [sourceOf]
  by_cases pdu1 : pgn / 256 % 256 < 240
  · rw [if_pos pdu1] at id ⊢
    have pdu1Id : pduFormat (pgnToCanId priority pgn source destination) < 240 := by
      rw [format, id]
      omega
    rw [parseJ1939Id_pgn_of_pdu1 pdu1Id, id]
    constructor
    · omega
    · omega
  · rw [if_neg pdu1] at id ⊢
    have pdu2Id : ¬ pduFormat (pgnToCanId priority pgn source destination) < 240 := by
      rw [format, id]
      omega
    rw [parseJ1939Id_pgn_of_pdu2 pdu2Id, id]
    constructor
    · omega
    · omega

theorem carriedPgn_of_fastPacket {pgn : Nat} (fast : pgn ∈ fastPacketPgns) :
    carriedPgn pgn = pgn := by
  have every : ∀ group ∈ fastPacketPgns, carriedPgn group = group := by decide +kernel
  exact every pgn fast

end Identifiers

section Results

variable {results : List (Option N2KCompletedMessage)} {good : N2KCompletedMessage → Prop}

theorem completesAtEnd_cons_none :
    CompletesAtEnd (none :: results) good ↔ CompletesAtEnd results good := by
  constructor
  · rintro ⟨earlier, message, same, silent, asked⟩
    cases earlier with
    | nil => cases same
    | cons first rest =>
        obtain ⟨_, same⟩ := List.cons.inj same
        exact ⟨rest, message, same, fun result member =>
          silent result (List.mem_cons_of_mem _ member), asked⟩
  · rintro ⟨earlier, message, rfl, silent, asked⟩
    refine ⟨none :: earlier, message, rfl, ?_, asked⟩
    intro result member
    rcases List.mem_cons.mp member with first | later
    · exact first
    · exact silent result later

theorem completesAtEnd_singleton {message : N2KCompletedMessage} :
    CompletesAtEnd [some message] good ↔ good message := by
  constructor
  · rintro ⟨earlier, last, same, silent, asked⟩
    cases earlier with
    | nil =>
        cases same
        exact asked
    | cons first rest =>
        have empty := congrArg List.length same
        simp at empty
  · intro asked
    exact ⟨[], message, rfl, fun _ member => absurd member List.not_mem_nil, asked⟩

theorem not_completesAtEnd_of_silent (silent : ∀ result ∈ results, result = none) :
    ¬ CompletesAtEnd results good := by
  rintro ⟨earlier, message, rfl, _, _⟩
  have last := silent (some message) (List.mem_append_right _ (List.mem_singleton_self _))
  cases last

end Results

section Frames

variable {channelId : String} {canId seq frameIdx : Nat} {chunk : Bytes} {frame : CanFrame}

theorem bucketHeader_fields (seqSmall : seq < 8) (indexSmall : frameIdx < 32) :
    ((UInt8.ofNat ((seq <<< 5) ||| (frameIdx &&& 0x1F))).toNat >>> 5) &&& 0x07 = seq ∧
      (UInt8.ofNat ((seq <<< 5) ||| (frameIdx &&& 0x1F))).toNat &&& 0x1F = frameIdx := by
  have every : ∀ (high : Fin 8) (low : Fin 32),
      ((UInt8.ofNat ((high.val <<< 5) ||| (low.val &&& 0x1F))).toNat >>> 5) &&& 0x07 = high.val ∧
        (UInt8.ofNat ((high.val <<< 5) ||| (low.val &&& 0x1F))).toNat &&& 0x1F = low.val := by
    decide +kernel
  exact every ⟨seq, seqSmall⟩ ⟨frameIdx, indexSmall⟩

/-- The key under which the decoder files the frames of one converted payload. -/
def convertedKey (channelId : String) (canId seq : Nat) : FastPacketKey where
  sourceAddress := (parseJ1939Id canId).sourceAddress
  destinationAddress :=
    effectiveDa (parseJ1939Id canId).pgn (parseJ1939Id canId).destinationAddress
  pgn := (parseJ1939Id canId).pgn
  sequenceId := seq
  channelId := channelId

structure IsBucket (channelId : String) (canId seq frameIdx : Nat) (chunk : Bytes)
    (frame : CanFrame) : Prop where
  fields : frame.toFrameFields = convertedFields channelId canId
    (UInt8.ofNat ((seq <<< 5) ||| (frameIdx &&& 0x1F)) :: chunk)
  seven : chunk.length = 7
  seqSmall : seq < 8
  indexSmall : frameIdx < 32

theorem IsBucket.data (bucket : IsBucket channelId canId seq frameIdx chunk frame) :
    frame.data = UInt8.ofNat ((seq <<< 5) ||| (frameIdx &&& 0x1F)) :: chunk := by
  rw [bucket.fields]
  rfl

theorem IsBucket.eight (bucket : IsBucket channelId canId seq frameIdx chunk frame) :
    frame.data.length = 8 := by
  rw [bucket.data, List.length_cons, bucket.seven]

theorem IsBucket.frameIndex (bucket : IsBucket channelId canId seq frameIdx chunk frame) :
    frameIndex frame = frameIdx := by
  unfold Nmea2000.frameIndex byteAt
  rw [bucket.data]
  exact (bucketHeader_fields bucket.seqSmall bucket.indexSmall).2

theorem IsBucket.onChannel (bucket : IsBucket channelId canId seq frameIdx chunk frame) :
    frame.channelId = channelId := by
  rw [bucket.fields]
  rfl

theorem IsBucket.admitted (bucket : IsBucket channelId canId seq frameIdx chunk frame) :
    admitted frame =
      if (parseJ1939Id canId).pgn ∈ fastPacketPgns then some (convertedKey channelId canId seq)
      else none := by
  have key : sessionKey frame = convertedKey channelId canId seq := by
    have header : sequenceId frame = seq := by
      unfold sequenceId byteAt
      rw [bucket.data]
      exact (bucketHeader_fields bucket.seqSmall bucket.indexSmall).1
    unfold sessionKey convertedKey
    dsimp only
    rw [header, bucket.onChannel, bucket.fields]
    rfl
  have extended : frame.isExtended = true := by
    rw [bucket.fields]
    rfl
  have classic : frame.isFd = false := by
    rw [bucket.fields]
    rfl
  have code : frame.dlc = 8 := by
    rw [bucket.fields]
    simp [convertedFields, bucket.seven]
  have large : ∀ group ∈ fastPacketPgns, ¬ group < 65536 := by decide +kernel
  unfold Nmea2000.admitted
  rw [if_neg (by simp [extended, bucket.eight]), if_neg (by simp [classic, code]),
    if_neg (by simp [code, bucket.eight])]
  dsimp only
  rw [key]
  by_cases fast : (parseJ1939Id canId).pgn ∈ fastPacketPgns
  · have notControl : ¬ (convertedKey channelId canId seq).pgn < 65536 := large _ fast
    have known : ¬ (convertedKey channelId canId seq).pgn ∉ fastPacketPgns := not_not.mpr fast
    rw [if_pos fast, if_neg notControl, if_neg known]
  · rw [if_neg fast]
    by_cases control : (convertedKey channelId canId seq).pgn < 65536
    · rw [if_pos control]
    · have unknown : (convertedKey channelId canId seq).pgn ∉ fastPacketPgns := fast
      rw [if_neg control, if_pos unknown]

end Frames

section Feeding

variable {decoder : FastPacketDecoder} {arrivals rest : List Arrival} {arrival : Arrival}
  {key : FastPacketKey} {session : FastPacketSession}

theorem feed_silent_of_not_admitted (refused : ∀ one ∈ arrivals, admitted one.frame = none) :
    ∀ result ∈ feed decoder arrivals, result = none := by
  induction arrivals with
  | nil => exact fun _ member => absurd member List.not_mem_nil
  | cons first rest ih =>
      have same : handleRxFrame decoder first = (decoder, none) := by
        unfold handleRxFrame
        rw [refused first (List.mem_cons_self ..)]
      unfold feed
      dsimp only
      rw [same]
      intro result member
      rcases List.mem_cons.mp member with now | later
      · exact now
      · exact ih (fun one inside => refused one (List.mem_cons_of_mem _ inside)) result later

theorem handleRxFrame_of_admitted (admits : admitted arrival.frame = some key) :
    handleRxFrame decoder arrival = handleLocked (cleanExpired decoder arrival.now) key arrival := by
  unfold handleRxFrame
  rw [admits]

theorem handleRxFrame_without_session (empty : decoder.sessions = [])
    (admits : admitted arrival.frame = some key) (later : frameIndex arrival.frame ≠ 0) :
    (handleRxFrame decoder arrival).1.sessions = [] ∧ (handleRxFrame decoder arrival).2 = none := by
  have cleaned : (cleanExpired decoder arrival.now).sessions = [] := by
    unfold cleanExpired
    rw [empty]
    rfl
  rw [handleRxFrame_of_admitted admits]
  unfold handleLocked handleConsecutive
  rw [if_neg later, cleaned]
  exact ⟨cleaned, rfl⟩

theorem feed_silent_without_session (empty : decoder.sessions = [])
    (admits : ∀ one ∈ arrivals, admitted one.frame = some key)
    (later : ∀ one ∈ arrivals, frameIndex one.frame ≠ 0) :
    ∀ result ∈ feed decoder arrivals, result = none := by
  induction arrivals generalizing decoder with
  | nil => exact fun _ member => absurd member List.not_mem_nil
  | cons first rest ih =>
      obtain ⟨stillEmpty, silent⟩ := handleRxFrame_without_session empty
        (admits first (List.mem_cons_self ..)) (later first (List.mem_cons_self ..))
      unfold feed
      intro result member
      rcases List.mem_cons.mp member with now | behind
      · exact now.trans silent
      · exact ih stillEmpty (fun one inside => admits one (List.mem_cons_of_mem _ inside))
          (fun one inside => later one (List.mem_cons_of_mem _ inside)) result behind

theorem handleRxFrame_first (empty : decoder.sessions = [])
    (admits : admitted arrival.frame = some key) (first : frameIndex arrival.frame = 0) :
    (handleRxFrame decoder arrival).2 = none ∧
      (handleRxFrame decoder arrival).1.sessions =
        if wellSized arrival.frame then [(key, freshSession key arrival)] else [] := by
  have cleaned : (cleanExpired decoder arrival.now).sessions = [] := by
    unfold cleanExpired
    rw [empty]
    rfl
  rw [handleRxFrame_of_admitted admits]
  unfold handleLocked handleFirst
  rw [if_pos first, cleaned]
  refine ⟨rfl, ?_⟩
  change openSession [] key arrival = _
  unfold openSession
  by_cases sized : wellSized arrival.frame = true
  · rw [if_neg (not_not.mpr sized), if_pos sized]
    rfl
  · rw [if_pos sized, if_neg sized]

theorem handleRxFrame_expired (open_ : decoder.sessions = [(key, session)])
    (admits : admitted arrival.frame = some key) (later : frameIndex arrival.frame ≠ 0)
    (late : ¬ arrival.now - session.lastActivityTime ≤ timeoutNs) :
    (handleRxFrame decoder arrival).1.sessions = [] ∧ (handleRxFrame decoder arrival).2 = none := by
  have cleaned : (cleanExpired decoder arrival.now).sessions = [] := by
    unfold cleanExpired
    rw [open_]
    have gone : expired arrival.now session = true := decide_eq_true (Nat.not_le.mp late)
    simp [gone]
  rw [handleRxFrame_of_admitted admits]
  unfold handleLocked handleConsecutive
  rw [if_neg later, cleaned]
  exact ⟨cleaned, rfl⟩

theorem handleRxFrame_continues (open_ : decoder.sessions = [(key, session)])
    (admits : admitted arrival.frame = some key) (later : frameIndex arrival.frame ≠ 0)
    (prompt : arrival.now - session.lastActivityTime ≤ timeoutNs)
    (fits : takes session arrival.frame = true) :
    handleRxFrame decoder arrival =
      if (extend session arrival).receivedBytes.length ≥ (extend session arrival).totalBytes then
        ({ cleanExpired decoder arrival.now with sessions := [] },
          some (completedMessage (extend session arrival) key.pgn arrival))
      else
        ({ cleanExpired decoder arrival.now with sessions := [(key, extend session arrival)] },
          none) := by
  have cleaned : (cleanExpired decoder arrival.now).sessions = [(key, session)] := by
    unfold cleanExpired
    rw [open_]
    have alive : expired arrival.now session = false := decide_eq_false (Nat.not_lt.mpr prompt)
    simp [alive]
  rw [handleRxFrame_of_admitted admits]
  unfold handleLocked handleConsecutive
  rw [if_neg later, cleaned, Dict.get?_singleton]
  dsimp only
  unfold continueSession
  rw [if_neg (not_not.mpr fits)]
  dsimp only
  by_cases complete :
      (extend session arrival).receivedBytes.length ≥ (extend session arrival).totalBytes
  · rw [if_pos complete, if_pos complete]
    simp
  · rw [if_neg complete, if_neg complete]
    simp

end Feeding

section Train

variable {payload : Bytes} {channelId : String} {canId seq offset frameIdx : Nat}
  {decoder : FastPacketDecoder} {arrivals : List Arrival} {session : FastPacketSession}

def Brings (channelId : String) (canId : Nat) (arrivals : List Arrival) (frames : List Bytes) :
    Prop :=
  arrivals.map (fun arrival => arrival.frame.toFrameFields) =
    frames.map (convertedFields channelId canId)

theorem ljust_chunk_length (chunk : Bytes) (width : Nat) (short : chunk.length ≤ width) :
    (ljust chunk width).length = width := by
  simp [ljust]
  omega

theorem isBucket_later {frame : CanFrame} (seqSmall : seq < 8) (indexSmall : frameIdx < 32)
    (fields : frame.toFrameFields = convertedFields channelId canId
      (UInt8.ofNat ((seq <<< 5) ||| (frameIdx &&& 0x1F)) ::
        ljust ((payload.drop offset).take 7) 7)) :
    IsBucket channelId canId seq frameIdx (ljust ((payload.drop offset).take 7) 7) frame where
  fields := fields
  seven := ljust_chunk_length _ 7 (by simp)
  seqSmall := seqSmall
  indexSmall := indexSmall

theorem buckets_of_carried (seqSmall : seq < 8) (positive : 0 < frameIdx)
    (carried : Brings channelId canId arrivals (laterBuckets payload seq offset frameIdx)) :
    ∀ one ∈ arrivals, ∃ index chunk, 0 < index ∧ IsBucket channelId canId seq index chunk one.frame := by
  induction arrivals generalizing offset frameIdx with
  | nil => exact fun _ member => absurd member List.not_mem_nil
  | cons first rest ih =>
      unfold Brings at carried
      rw [laterBuckets] at carried
      split at carried
      · rename_i more
        rw [List.map_cons, List.map_cons] at carried
        obtain ⟨here, behind⟩ := List.cons.inj carried
        intro one member
        rcases List.mem_cons.mp member with rfl | later
        · exact ⟨frameIdx, _, positive, isBucket_later seqSmall more.2 here⟩
        · exact ih (Nat.succ_pos frameIdx) behind one later
      · cases carried

theorem feed_silent_of_buckets (fast : (parseJ1939Id canId).pgn ∈ fastPacketPgns)
    (empty : decoder.sessions = [])
    (buckets : ∀ one ∈ arrivals, ∃ index chunk, 0 < index ∧
      IsBucket channelId canId seq index chunk one.frame) :
    ∀ result ∈ feed decoder arrivals, result = none := by
  have admits : ∀ one ∈ arrivals,
      admitted one.frame = some (convertedKey channelId canId seq) := by
    intro one member
    obtain ⟨index, chunk, _, it⟩ := buckets one member
    rw [it.admitted, if_pos fast]
  refine feed_silent_without_session empty admits ?_
  intro one member
  obtain ⟨index, chunk, positive, it⟩ := buckets one member
  rw [it.frameIndex]
  omega

structure Awaiting (payload : Bytes) (channelId : String) (key : FastPacketKey)
    (offset frameIdx : Nat) (session : FastPacketSession) : Prop where
  total : session.totalBytes = payload.length
  received : session.receivedBytes = payload.take offset
  expected : session.expectedFrameIndex = frameIdx
  channel : session.channelId = channelId
  source : session.sourceAddress = key.sourceAddress

theorem Awaiting.takes {key : FastPacketKey} {chunk : Bytes} {frame : CanFrame}
    (awaiting : Awaiting payload channelId key offset frameIdx session)
    (bucket : IsBucket channelId canId seq frameIdx chunk frame) : takes session frame = true := by
  refine decide_eq_true ⟨?_, ?_, fun short => short.1 bucket.eight⟩
  · rw [awaiting.channel, bucket.onChannel]
  · rw [bucket.frameIndex, awaiting.expected]

theorem Awaiting.extend {key : FastPacketKey} {arrival : Arrival}
    (awaiting : Awaiting payload channelId key offset frameIdx session)
    (inside : offset < payload.length)
    (bucket : IsBucket channelId canId seq frameIdx (ljust ((payload.drop offset).take 7) 7)
      arrival.frame) :
    Awaiting payload channelId key (offset + 7) (frameIdx + 1) (extend session arrival) where
  total := awaiting.total
  received := by
    unfold Nmea2000.extend
    dsimp only
    have length : (payload.take offset).length = offset := by
      rw [List.length_take]
      omega
    have padded : (ljust ((payload.drop offset).take 7) 7).length = 7 := bucket.seven
    rw [bucket.data, List.drop_succ_cons, List.drop_zero, List.take_of_length_le (Nat.le_of_eq padded),
      awaiting.total, awaiting.received, length, List.take_add]
    congr 1
    unfold ljust
    by_cases full : offset + 7 ≤ payload.length
    · have seven : ((payload.drop offset).take 7).length = 7 := by
        rw [List.length_take, List.length_drop]
        omega
      rw [seven, Nat.sub_self, List.replicate_zero, List.append_nil]
      exact List.take_of_length_le (by omega)
    · have rest : ((payload.drop offset).take 7).length = payload.length - offset := by
        rw [List.length_take, List.length_drop]
        omega
      rw [← rest]
      exact List.take_left
  expected := congrArg (· + 1) awaiting.expected
  channel := awaiting.channel
  source := awaiting.source

theorem feed_laterBuckets (short : payload.length ≤ 223) (seqSmall : seq < 8)
    (fast : (parseJ1939Id canId).pgn ∈ fastPacketPgns) (place : offset + 1 = 7 * frameIdx)
    (inside : offset < payload.length)
    (carried : Brings channelId canId arrivals (laterBuckets payload seq offset frameIdx))
    (open_ : decoder.sessions = [(convertedKey channelId canId seq, session)])
    (awaiting : Awaiting payload channelId (convertedKey channelId canId seq) offset frameIdx
      session) :
    (InTimeFrom session.lastActivityTime arrivals →
        CompletesAtEnd (feed decoder arrivals) (fun message =>
          message.data = payload ∧ message.pgn = (convertedKey channelId canId seq).pgn ∧
            message.sourceAddress = (convertedKey channelId canId seq).sourceAddress)) ∧
      (¬ InTimeFrom session.lastActivityTime arrivals →
        ∀ result ∈ feed decoder arrivals, result = none) := by
  induction arrivals generalizing offset frameIdx decoder session with
  | nil =>
      unfold Brings at carried
      rw [laterBuckets, if_pos ⟨inside, by omega⟩] at carried
      cases carried
  | cons arrival rest ih =>
      have buckets := buckets_of_carried seqSmall (by omega) carried
      unfold Brings at carried
      rw [laterBuckets, if_pos ⟨inside, by omega⟩, List.map_cons, List.map_cons] at carried
      obtain ⟨here, behind⟩ := List.cons.inj carried
      have bucket := isBucket_later seqSmall (by omega) here
      have admits {index : Nat} {chunk : Bytes} {one : CanFrame}
          (it : IsBucket channelId canId seq index chunk one) :
          admitted one = some (convertedKey channelId canId seq) := by
        rw [it.admitted, if_pos fast]
      have later : frameIndex arrival.frame ≠ 0 := by
        rw [bucket.frameIndex]
        omega
      unfold InTimeFrom feed
      dsimp only
      by_cases prompt : arrival.now - session.lastActivityTime ≤ timeoutNs
      · have grown := awaiting.extend inside bucket
        rw [handleRxFrame_continues open_ (admits bucket) later prompt (awaiting.takes bucket),
          grown.received, grown.total, List.length_take]
        by_cases last : payload.length ≤ offset + 7
        · rw [if_pos (by omega)]
          have ended : rest = [] := by
            rw [laterBuckets, if_neg (by omega)] at behind
            exact List.map_eq_nil_iff.mp behind
          subst ended
          refine ⟨fun _ => ?_, fun paused => absurd ⟨prompt, trivial⟩ paused⟩
          refine completesAtEnd_singleton.mpr ⟨?_, rfl, grown.source⟩
          unfold completedMessage
          dsimp only
          rw [grown.received, grown.total, List.take_take, List.take_of_length_le (by omega)]
        · rw [if_neg (by omega)]
          have stored :
              ({ cleanExpired decoder arrival.now with
                sessions := [(convertedKey channelId canId seq, extend session arrival)] } :
                FastPacketDecoder).sessions =
                [(convertedKey channelId canId seq, extend session arrival)] := rfl
          have after := ih (by omega) (by omega) behind stored grown
          constructor
          · intro inTime
            exact completesAtEnd_cons_none.mpr (after.1 inTime.2)
          · intro paused result member
            rcases List.mem_cons.mp member with now | more
            · exact now
            · exact after.2 (fun inTime => paused ⟨prompt, inTime⟩) result more
      · obtain ⟨gone, silent⟩ := handleRxFrame_expired open_ (admits bucket) later prompt
        have silentRest := feed_silent_of_buckets fast gone
          (fun one member => buckets one (List.mem_cons_of_mem _ member))
        refine ⟨fun inTime => absurd inTime.1 prompt, fun _ result member => ?_⟩
        rcases List.mem_cons.mp member with now | more
        · exact now.trans silent
        · exact silentRest result more

theorem isBucket_first {frame : CanFrame} (seqSmall : seq < 8)
    (fields : frame.toFrameFields = convertedFields channelId canId
      ([UInt8.ofNat ((seq <<< 5) ||| 0x00), UInt8.ofNat payload.length] ++
        ljust (payload.take 6) 6)) :
    IsBucket channelId canId seq 0 (UInt8.ofNat payload.length :: ljust (payload.take 6) 6) frame where
  fields := fields
  seven := by
    rw [List.length_cons, ljust_chunk_length _ 6 (by simp)]
  seqSmall := seqSmall
  indexSmall := by decide

theorem wellSized_first {frame : CanFrame} (nine : 9 ≤ payload.length)
    (byte : payload.length ≤ 255)
    (bucket : IsBucket channelId canId seq 0
      (UInt8.ofNat payload.length :: ljust (payload.take 6) 6) frame) :
    byteAt frame 1 = payload.length ∧ (wellSized frame = true ↔ payload.length ≤ 223) := by
  have total : byteAt frame 1 = payload.length := by
    unfold byteAt
    rw [bucket.data]
    change (UInt8.ofNat payload.length).toNat = payload.length
    rw [UInt8.toNat_ofNat']
    omega
  refine ⟨total, ?_⟩
  unfold wellSized
  rw [decide_eq_true_iff, total, bucket.eight]
  omega

theorem freshSession_awaiting {arrival : Arrival} (nine : 9 ≤ payload.length)
    (total : byteAt arrival.frame 1 = payload.length)
    (bucket : IsBucket channelId canId seq 0
      (UInt8.ofNat payload.length :: ljust (payload.take 6) 6) arrival.frame) :
    Awaiting payload channelId (convertedKey channelId canId seq) 6 1
      (freshSession (convertedKey channelId canId seq) arrival) where
  total := total
  received := by
    have six : (payload.take 6).length = 6 := by
      rw [List.length_take]
      omega
    unfold freshSession
    dsimp only
    rw [bucket.data]
    change (ljust (payload.take 6) 6).take 6 = payload.take 6
    unfold ljust
    rw [six, Nat.sub_self, List.replicate_zero, List.append_nil]
    exact List.take_of_length_le (Nat.le_of_eq six)
  expected := rfl
  channel := bucket.onChannel
  source := rfl

end Train

/-- The converter raises, or the frames bring exactly one message, with the last of them,
and it has the payload, the group and the source. -/
def RoundTrips (payload : Bytes) (pgn source sequenceId : Nat) (arrivals : List Arrival) : Prop :=
  (∃ error, decomposeFastPacket payload sequenceId = .error error) ∨
    CompletesAtEnd (feed {} arrivals) (fun message =>
      message.data = payload ∧ message.pgn = pgn ∧ message.sourceAddress = source)

theorem CompletesAtEnd.both {results : List (Option N2KCompletedMessage)}
    {good other : N2KCompletedMessage → Prop} (one : CompletesAtEnd results good)
    (two : CompletesAtEnd results other) : ∃ message, good message ∧ other message := by
  obtain ⟨earlier, message, rfl, _, isGood⟩ := one
  obtain ⟨before, last, same, _, isOther⟩ := two
  obtain ⟨_, sameLast⟩ := List.append_inj' same rfl
  obtain ⟨sameMessage, _⟩ := List.cons.inj sameLast
  cases sameMessage
  exact ⟨message, isGood, isOther⟩

theorem CompletesAtEnd.imp {results : List (Option N2KCompletedMessage)}
    {good other : N2KCompletedMessage → Prop} (one : CompletesAtEnd results good)
    (weaker : ∀ message, good message → other message) : CompletesAtEnd results other := by
  obtain ⟨earlier, message, same, silent, isGood⟩ := one
  exact ⟨earlier, message, same, silent, weaker message isGood⟩

theorem decomposeFastPacket_eq {payload : Bytes} (nine : 9 ≤ payload.length)
    (byte : payload.length ≤ 255) (sequenceId : Nat) :
    decomposeFastPacket payload sequenceId =
      .ok (([UInt8.ofNat (((sequenceId &&& 0x07) <<< 5) ||| 0x00), UInt8.ofNat payload.length] ++
          ljust (payload.take 6) 6) :: laterBuckets payload (sequenceId &&& 0x07) 6 1) := by
  unfold decomposeFastPacket
  dsimp only
  rw [if_neg (by omega), if_neg (by omega)]

theorem decomposeFastPacket_ok {payload : Bytes} (nine : 9 ≤ payload.length)
    (byte : payload.length ≤ 255) (sequenceId : Nat) :
    ¬ ∃ error, decomposeFastPacket payload sequenceId = .error error := by
  rintro ⟨error, raised⟩
  rw [decomposeFastPacket_eq nine byte] at raised
  cases raised

theorem sequence_small (sequenceId : Nat) : sequenceId &&& 0x07 < 8 := by
  have low : sequenceId &&& 0x07 = sequenceId % 8 := Nat.and_two_pow_sub_one_eq_mod sequenceId 3
  omega

section Whole

variable {payload : Bytes} {channelId : String} {canId seq : Nat} {first : Arrival}
  {rest : List Arrival}

structure Arrives (payload : Bytes) (channelId : String) (canId seq : Nat) (first : Arrival)
    (rest : List Arrival) : Prop where
  opening : IsBucket channelId canId seq 0 (UInt8.ofNat payload.length :: ljust (payload.take 6) 6)
    first.frame
  behind : Brings channelId canId rest (laterBuckets payload seq 6 1)

theorem Arrives.later (arrives : Arrives payload channelId canId seq first rest) :
    ∀ one ∈ rest, ∃ index chunk, 0 < index ∧ IsBucket channelId canId seq index chunk one.frame :=
  buckets_of_carried arrives.opening.seqSmall (by decide) arrives.behind

theorem Arrives.silent_of_unknown (arrives : Arrives payload channelId canId seq first rest)
    (unknown : (parseJ1939Id canId).pgn ∉ fastPacketPgns) :
    ∀ result ∈ feed {} (first :: rest), result = none := by
  refine feed_silent_of_not_admitted ?_
  intro one member
  rcases List.mem_cons.mp member with rfl | later
  · rw [arrives.opening.admitted, if_neg unknown]
  · obtain ⟨index, chunk, _, it⟩ := arrives.later one later
    rw [it.admitted, if_neg unknown]

theorem Arrives.opens (arrives : Arrives payload channelId canId seq first rest)
    (fast : (parseJ1939Id canId).pgn ∈ fastPacketPgns) (nine : 9 ≤ payload.length)
    (byte : payload.length ≤ 255) :
    feed {} (first :: rest) = none :: feed (handleRxFrame {} first).1 rest ∧
      (handleRxFrame {} first).1.sessions =
        if payload.length ≤ 223 then
          [(convertedKey channelId canId seq, freshSession (convertedKey channelId canId seq) first)]
        else [] := by
  have admits : admitted first.frame = some (convertedKey channelId canId seq) := by
    rw [arrives.opening.admitted, if_pos fast]
  obtain ⟨silent, opened⟩ := @handleRxFrame_first {} first (convertedKey channelId canId seq)
    rfl admits arrives.opening.frameIndex
  constructor
  · rw [← silent]
    rfl
  · have sized := (wellSized_first nine byte arrives.opening).2
    by_cases short : payload.length ≤ 223
    · rw [opened, if_pos (sized.mpr short), if_pos short]
    · rw [opened, if_neg (fun yes => short (sized.mp yes)), if_neg short]

theorem Arrives.silent_of_long (arrives : Arrives payload channelId canId seq first rest)
    (long : 223 < payload.length) (byte : payload.length ≤ 255) :
    ∀ result ∈ feed {} (first :: rest), result = none := by
  by_cases fast : (parseJ1939Id canId).pgn ∈ fastPacketPgns
  · obtain ⟨start, opened⟩ := arrives.opens fast (by omega) byte
    rw [if_neg (by omega)] at opened
    rw [start]
    intro result member
    rcases List.mem_cons.mp member with now | later
    · exact now
    · exact feed_silent_of_buckets fast opened arrives.later result later
  · exact arrives.silent_of_unknown fast

theorem Arrives.completes (arrives : Arrives payload channelId canId seq first rest)
    (fast : (parseJ1939Id canId).pgn ∈ fastPacketPgns) (nine : 9 ≤ payload.length)
    (short : payload.length ≤ 223) :
    (InTime (first :: rest) →
        CompletesAtEnd (feed {} (first :: rest)) (fun message =>
          message.data = payload ∧ message.pgn = (parseJ1939Id canId).pgn ∧
            message.sourceAddress = (parseJ1939Id canId).sourceAddress)) ∧
      (¬ InTime (first :: rest) → ∀ result ∈ feed {} (first :: rest), result = none) := by
  obtain ⟨start, opened⟩ := arrives.opens fast nine (by omega)
  rw [if_pos short] at opened
  have total := (wellSized_first nine (by omega) arrives.opening).1
  have train := feed_laterBuckets short arrives.opening.seqSmall fast (by decide) (by omega)
    arrives.behind opened (freshSession_awaiting nine total arrives.opening)
  rw [start]
  refine ⟨fun inTime => completesAtEnd_cons_none.mpr (train.1 inTime), fun paused result member => ?_⟩
  rcases List.mem_cons.mp member with now | later
  · exact now
  · exact train.2 paused result later

theorem arrives_of_brings {arrivals : List Arrival} {sequenceId : Nat} (nine : 9 ≤ payload.length)
    (byte : payload.length ≤ 255)
    (brought : ∀ frames, decomposeFastPacket payload sequenceId = .ok frames →
      Brings channelId canId arrivals frames) :
    ∃ first rest, arrivals = first :: rest ∧
      Arrives payload channelId canId (sequenceId &&& 0x07) first rest := by
  have carried := brought _ (decomposeFastPacket_eq nine byte sequenceId)
  unfold Brings at carried
  rw [List.map_cons] at carried
  obtain ⟨first, rest, rfl, here, behind⟩ := List.map_eq_cons_iff.mp carried
  exact ⟨first, rest, rfl, isBucket_first (sequence_small sequenceId) here, behind⟩

end Whole

/-- Payloads of 224 to 255 bytes are cut off, and the decoder takes groups of its table only,
within the timeout. -/
theorem roundTrips_iff {payload : Bytes} (nine : 9 ≤ payload.length)
    (priority pgn source destination sequenceId : Nat) {channelId : String} {arrivals : List Arrival}
    (brought : ∀ frames, decomposeFastPacket payload sequenceId = .ok frames →
      Brings channelId (pgnToCanId priority pgn source destination) arrivals frames) :
    RoundTrips payload pgn source sequenceId arrivals ↔
      255 < payload.length ∨
        (payload.length ≤ 223 ∧ pgn ∈ fastPacketPgns ∧ source ≤ 255 ∧ InTime arrivals) := by
  by_cases wide : 255 < payload.length
  · have raised : decomposeFastPacket payload sequenceId = .error (.byteRange payload.length) := by
      unfold decomposeFastPacket
      dsimp only
      rw [if_neg (by omega), if_pos wide]
    exact ⟨fun _ => Or.inl wide, fun _ => Or.inl ⟨_, raised⟩⟩
  · have byte : payload.length ≤ 255 := Nat.le_of_not_lt wide
    have notRaised := decomposeFastPacket_ok nine byte sequenceId
    obtain ⟨first, rest, rfl, arrives⟩ := arrives_of_brings nine byte brought
    obtain ⟨carriedGroup, carriedSource⟩ :=
      parseJ1939Id_pgnToCanId priority pgn source destination
    unfold RoundTrips
    rw [or_iff_right notRaised, or_iff_right wide]
    constructor
    · intro completes
      have short : payload.length ≤ 223 := by
        by_contra long
        exact not_completesAtEnd_of_silent
          (arrives.silent_of_long (Nat.lt_of_not_le long) byte) completes
      have fast : (parseJ1939Id (pgnToCanId priority pgn source destination)).pgn ∈
          fastPacketPgns := by
        by_contra unknown
        exact not_completesAtEnd_of_silent (arrives.silent_of_unknown unknown) completes
      obtain ⟨prompt, paused⟩ := arrives.completes fast nine short
      have inTime : InTime (first :: rest) := by
        by_contra late
        exact not_completesAtEnd_of_silent (paused late) completes
      obtain ⟨message, asked, got⟩ := completes.both (prompt inTime)
      have address := carriedSource.symm.trans (got.2.2.symm.trans asked.2.2)
      have group := got.2.1.symm.trans asked.2.1
      exact ⟨short, group ▸ fast, by omega, inTime⟩
    · rintro ⟨short, member, sourceByte, inTime⟩
      have group := carriedGroup.trans (carriedPgn_of_fastPacket member)
      have fast : (parseJ1939Id (pgnToCanId priority pgn source destination)).pgn ∈
          fastPacketPgns := by
        rw [group]
        exact member
      refine ((arrives.completes fast nine short).1 inTime).imp fun message got => ?_
      exact ⟨got.1, got.2.1.trans group, got.2.2.trans (carriedSource.trans (by omega))⟩

section Bus

def convertedArrivals (channelId : String) (canId : Nat) (frames : List Bytes) : List Arrival :=
  frames.filterMap (fun frameBytes =>
    match CanFrame.new (convertedFields channelId canId frameBytes) with
    | .ok frame => some { frame := frame, timestampNs := 0, now := 0 }
    | .error _ => none)

theorem brings_convertedArrivals {channelId : String} {canId : Nat} {frames : List Bytes}
    (channel : validChannelId channelId = true) (fits : canId ≤ 0x1FFFFFFF)
    (eight : ∀ frameBytes ∈ frames, frameBytes.length = 8) :
    Brings channelId canId (convertedArrivals channelId canId frames) frames := by
  induction frames with
  | nil => rfl
  | cons first rest ih =>
      have size := eight first (List.mem_cons_self ..)
      have valid : (convertedFields channelId canId first).postInit = none := by
        simp [FrameFields.postInit, convertedFields, channel, size, maxId, fits, dlcToLengthTable]
      have later := ih (fun one member => eight one (List.mem_cons_of_mem _ member))
      unfold Brings convertedArrivals at later ⊢
      rw [List.filterMap_cons, CanFrame.new_of_valid _ valid]
      exact congrArg (convertedFields channelId canId first :: ·) later

theorem laterBuckets_eight (payload : Bytes) (seq offset frameIdx : Nat) :
    ∀ frameBytes ∈ laterBuckets payload seq offset frameIdx, frameBytes.length = 8 := by
  induction offset, frameIdx using laterBuckets.induct payload with
  | case1 offset frameIdx more ih =>
      rw [laterBuckets, if_pos more]
      intro frameBytes member
      rcases List.mem_cons.mp member with rfl | later
      · rw [List.length_cons, ljust_chunk_length _ 7 (by simp)]
      · exact ih frameBytes later
  | case2 offset frameIdx done =>
      rw [laterBuckets, if_neg done]
      exact fun _ member => absurd member List.not_mem_nil

theorem decomposed_eight {payload : Bytes} {sequenceId : Nat} {frames : List Bytes}
    (nine : 9 ≤ payload.length) (byte : payload.length ≤ 255)
    (cut : decomposeFastPacket payload sequenceId = .ok frames) :
    ∀ frameBytes ∈ frames, frameBytes.length = 8 := by
  rw [decomposeFastPacket_eq nine byte] at cut
  cases cut
  intro frameBytes member
  rcases List.mem_cons.mp member with rfl | later
  · rw [List.length_append, ljust_chunk_length _ 6 (by simp)]
    rfl
  · exact laterBuckets_eight _ _ _ _ frameBytes later

theorem inTimeFrom_convertedArrivals (channelId : String) (canId : Nat) (frames : List Bytes) :
    InTimeFrom 0 (convertedArrivals channelId canId frames) := by
  induction frames with
  | nil => trivial
  | cons first rest ih =>
      unfold convertedArrivals at ih ⊢
      rw [List.filterMap_cons]
      split
      · exact ih
      · rename_i arrival built
        split at built
        · cases built
          exact ⟨Nat.zero_le _, ih⟩
        · cases built

theorem inTime_convertedArrivals (channelId : String) (canId : Nat) (frames : List Bytes) :
    InTime (convertedArrivals channelId canId frames) := by
  have inTime := inTimeFrom_convertedArrivals channelId canId frames
  cases arrivals : convertedArrivals channelId canId frames with
  | nil => trivial
  | cons first rest =>
      rw [arrivals] at inTime
      exact inTime.2

def decomposed (payload : Bytes) (sequenceId : Nat) : List Bytes :=
  (decomposeFastPacket payload sequenceId).toOption.getD []

/-- The group 129029 from the address 0x23 on `can0`. -/
def positionArrivals (payload : Bytes) : List Arrival :=
  convertedArrivals "can0" (pgnToCanId 6 129029 0x23 255) (decomposed payload 1)

theorem brings_positionArrivals {payload : Bytes} (nine : 9 ≤ payload.length)
    (byte : payload.length ≤ 255) (frames : List Bytes)
    (cut : decomposeFastPacket payload 1 = .ok frames) :
    Brings "can0" (pgnToCanId 6 129029 0x23 255) (positionArrivals payload) frames := by
  have same : decomposed payload 1 = frames := by
    unfold decomposed
    rw [cut]
    rfl
  unfold positionArrivals
  rw [same]
  exact brings_convertedArrivals (by decide) (pgnToCanId_le _ _ _ _) (decomposed_eight nine byte cut)

end Bus

def nineBytes : Bytes := [1, 2, 3, 4, 5, 6, 7, 8, 9]

theorem roundTrips_iff_nineBytes : RoundTrips nineBytes 129029 0x23 1 (positionArrivals nineBytes) :=
  (roundTrips_iff (by decide) 6 129029 0x23 255 1
    (brings_positionArrivals (by decide) (by decide))).mpr
    (Or.inr ⟨by decide, by decide, by decide, inTime_convertedArrivals _ _ _⟩)

def cutBytes : Bytes := List.replicate 224 0

theorem cutBytes_length : cutBytes.length = 224 := List.length_replicate

theorem cutBytes_lost :
    (∀ frames, decomposeFastPacket cutBytes 1 = .ok frames →
      Brings "can0" (pgnToCanId 6 129029 0x23 255) (positionArrivals cutBytes) frames) ∧
    InTime (positionArrivals cutBytes) ∧
    ¬ RoundTrips cutBytes 129029 0x23 1 (positionArrivals cutBytes) := by
  have nine : 9 ≤ cutBytes.length := by rw [cutBytes_length]; decide
  have byte : cutBytes.length ≤ 255 := by rw [cutBytes_length]; decide
  have long : 223 < cutBytes.length := by rw [cutBytes_length]; decide
  generalize cutBytes = payload at nine byte long
  have brought := brings_positionArrivals nine byte
  refine ⟨brought, inTime_convertedArrivals _ _ _, ?_⟩
  rintro (raised | completes)
  · exact decomposeFastPacket_ok nine byte 1 raised
  · obtain ⟨first, rest, same, arrives⟩ := arrives_of_brings nine byte brought
    rw [same] at completes
    exact not_completesAtEnd_of_silent (arrives.silent_of_long long byte) completes

end Ucanlab.Nmea2000
