import Ucanlab.Lib.EventRun
import Ucanlab.Protocols.J1939.Transport

/-!
The NMEA 2000 Fast Packet decoder: the sessions under reassembly, the gate that
limits restarts, and what one received frame does. Times are nanoseconds of the
monotonic clock, which the source reads in seconds.
-/

namespace Ucanlab.Nmea2000

open Ucanlab J1939

def fastPacketPgns : List Nat :=
  [126208, 126464, 126720, 126983, 126984, 126985, 126986, 126987, 126988, 126996, 126998,
    127233, 127237, 127489, 127490, 127491, 127494, 127495, 127496, 127497, 127498, 127503,
    127504, 127506, 127507, 127509, 127510, 127511, 127512, 127513, 127514, 128275, 128520,
    128538, 129029, 129038, 129039, 129040, 129041, 129044, 129045, 129284, 129285, 129301,
    129302, 129538, 129540, 129541, 129542, 129545, 129547, 129549, 129551, 129556, 129792,
    129793, 129794, 129795, 129796, 129797, 129798, 129799, 129800, 129801, 129802, 129803,
    129804, 129805, 129806, 129807, 129808, 129809, 129810, 129811, 129812, 129813, 129814,
    129815, 129816, 130052, 130053, 130054, 130060, 130061, 130064, 130065, 130066, 130067,
    130068, 130069, 130070, 130071, 130072, 130073, 130074, 130320, 130321, 130322, 130323,
    130324, 130329, 130330, 130561, 130562, 130563, 130564, 130565, 130566, 130567, 130568,
    130569, 130570, 130571, 130572, 130573, 130574, 130575, 130577, 130578, 130580, 130581,
    130583, 130584, 130586, 130816, 130817, 130818, 130819, 130820, 130821, 130822, 130823,
    130824, 130825, 130826, 130827, 130828, 130829, 130830, 130831, 130832, 130833, 130834,
    130835, 130836, 130837, 130838, 130839, 130840, 130841, 130842, 130843, 130844, 130845,
    130846, 130847, 130848, 130849, 130850, 130851, 130852, 130856, 130860, 130880, 130881,
    130900, 130910, 130911, 130912, 130913, 130918, 130921, 130939, 130944, 130945, 130946,
    130947, 130951, 131008, 131011, 131012]

structure FastPacketKey where
  sourceAddress : Nat
  destinationAddress : Nat
  pgn : Nat
  sequenceId : Nat
  channelId : String
  deriving DecidableEq, Repr

structure FastPacketSession where
  sourceAddress : Nat
  pgn : Nat
  sequenceId : Nat
  totalBytes : Nat
  destinationAddress : Nat
  expectedFrameIndex : Nat
  receivedBytes : Bytes
  lastActivityTime : Nat
  channelId : String
  deriving DecidableEq, Repr

structure N2KCompletedMessage where
  sourceAddress : Nat
  pgn : Nat
  data : Bytes
  timestampNs : Int
  channelId : String
  destinationAddress : Nat
  deriving DecidableEq, Repr

def timeoutNs : Nat := 500000000
def maxConcurrent : Nat := 256
def maxPerSa : Nat := 32
def restartRateLimitNs : Nat := 50000000
def restartBurst : Nat := 4
def restartMarkAgeNs : Nat := 1000000000

/-- Source, parameter group and sequence number: the gate knows no destination
and no channel. -/
abbrev RestartKey := Nat × Nat × Nat

/-- The start of the window and the restarts counted in it. -/
abbrev RestartMark := Nat × Nat

structure FastPacketDecoder where
  sessions : Dict FastPacketKey FastPacketSession := []
  restartMarks : Dict RestartKey RestartMark := []
  deriving DecidableEq, Repr

structure Arrival where
  frame : CanFrame
  timestampNs : Int
  now : Nat
  deriving DecidableEq

def byteAt (frame : CanFrame) (index : Nat) : Nat := (frame.data.getD index 0).toNat

def sequenceId (frame : CanFrame) : Nat := (byteAt frame 0 >>> 5) &&& 0x07

def frameIndex (frame : CanFrame) : Nat := byteAt frame 0 &&& 0x1F

/-- The destination counts for point-to-point groups only. -/
def effectiveDa (pgn : Nat) (da : Option Nat) : Nat :=
  match da with
  | some address => if (pgn >>> 8) &&& 0xFF < 240 then address else 0xFF
  | none => 0xFF

def sessionKey (frame : CanFrame) : FastPacketKey :=
  let id := parseJ1939Id frame.arbitrationId
  { sourceAddress := id.sourceAddress
    destinationAddress := effectiveDa id.pgn id.destinationAddress
    pgn := id.pgn
    sequenceId := sequenceId frame
    channelId := frame.channelId }

def FastPacketKey.restartKey (key : FastPacketKey) : RestartKey :=
  (key.sourceAddress, key.pgn, key.sequenceId)

/-- The key of a frame that passes the checks in front of the table. -/
def admitted (frame : CanFrame) : Option FastPacketKey :=
  if ¬ frame.isExtended ∨ frame.data.length < 2 then none
  else if frame.isFd ∨ frame.dlc > 8 then none
  else if frame.dlc ≠ frame.data.length ∨ frame.dlc > 8 then none
  else
    let key := sessionKey frame
    if key.pgn < 65536 then none
    else if key.pgn ∉ fastPacketPgns then none
    else some key

def expired (now : Nat) (session : FastPacketSession) : Bool :=
  decide (now - session.lastActivityTime > timeoutNs)

def staleMark (now : Nat) (mark : RestartMark) : Bool :=
  decide (now - mark.1 > max timeoutNs restartMarkAgeNs)

def boundMarks (marks : Dict RestartKey RestartMark) : Dict RestartKey RestartMark :=
  if marks.length > maxConcurrent * 2 then marks.drop (marks.length - maxConcurrent * 2) else marks

def cleanExpired (decoder : FastPacketDecoder) (now : Nat) : FastPacketDecoder where
  sessions := decoder.sessions.filter (fun entry => !expired now entry.2)
  restartMarks :=
    boundMarks (decoder.restartMarks.filter (fun entry => !staleMark now entry.2))

/-- The mark after a restart that the gate lets through. -/
def nextMark (now : Nat) : Option RestartMark → Option RestartMark
  | none => some (now, 1)
  | some (windowStart, count) =>
      if now - windowStart > restartRateLimitNs then some (now, 1)
      else if count ≥ restartBurst then none
      else some (windowStart, count + 1)

/-- `none` where the budget of the window is used up. -/
def checkRestartRateLimit (marks : Dict RestartKey RestartMark) (key : RestartKey) (now : Nat) :
    Option (Dict RestartKey RestartMark) :=
  (nextMark now (marks.get? key)).map (marks.set key)

def sourceSessions (sessions : Dict FastPacketKey FastPacketSession) (address : Nat) : Nat :=
  sessions.countP (fun entry => decide (entry.1.sourceAddress = address))

/-- The table with a place for the key, which may cost the stalest session its
own; `none` where the source has used up its share. -/
def makeRoom (sessions : Dict FastPacketKey FastPacketSession) (key : FastPacketKey) :
    Option (Dict FastPacketKey FastPacketSession) :=
  if sessions.contains key then some sessions
  else if sourceSessions sessions key.sourceAddress ≥ maxPerSa then none
  else if sessions.length ≥ maxConcurrent then
    match List.argmin (fun entry => entry.2.lastActivityTime) sessions with
    | some oldest => some (sessions.erase oldest.1)
    | none => some sessions
  else some sessions

def freshSession (key : FastPacketKey) (arrival : Arrival) : FastPacketSession where
  sourceAddress := key.sourceAddress
  pgn := key.pgn
  sequenceId := key.sequenceId
  totalBytes := byteAt arrival.frame 1
  destinationAddress := key.destinationAddress
  expectedFrameIndex := 1
  receivedBytes := (arrival.frame.data.drop 2).take 6
  lastActivityTime := arrival.now
  channelId := arrival.frame.channelId

def wellSized (frame : CanFrame) : Bool :=
  decide (9 ≤ byteAt frame 1 ∧ byteAt frame 1 ≤ 223 ∧ frame.data.length = 8)

def openSession (sessions : Dict FastPacketKey FastPacketSession) (key : FastPacketKey)
    (arrival : Arrival) : Dict FastPacketKey FastPacketSession :=
  if ¬ wellSized arrival.frame then sessions
  else
    match makeRoom sessions key with
    | none => sessions
    | some roomy => roomy.set key (freshSession key arrival)

/-- A restart of a session in flight drops it, once the gate lets it through. -/
def handleFirst (decoder : FastPacketDecoder) (key : FastPacketKey) (arrival : Arrival) :
    FastPacketDecoder :=
  match decoder.sessions.get? key with
  | none => { decoder with sessions := openSession decoder.sessions key arrival }
  | some _ =>
      match checkRestartRateLimit decoder.restartMarks key.restartKey arrival.now with
      | none => decoder
      | some marks =>
          { sessions := openSession (decoder.sessions.erase key) key arrival
            restartMarks := marks }

def extend (session : FastPacketSession) (arrival : Arrival) : FastPacketSession :=
  let payload := (arrival.frame.data.drop 1).take 7
  let needed := session.totalBytes - session.receivedBytes.length
  { session with
    receivedBytes := session.receivedBytes ++ payload.take needed
    expectedFrameIndex := session.expectedFrameIndex + 1
    lastActivityTime := arrival.now }

def completedMessage (session : FastPacketSession) (pgn : Nat) (arrival : Arrival) :
    N2KCompletedMessage where
  sourceAddress := session.sourceAddress
  pgn := pgn
  data := session.receivedBytes.take session.totalBytes
  timestampNs := arrival.timestampNs
  channelId := arrival.frame.channelId
  destinationAddress := session.destinationAddress

/-- The session takes the frame: its channel, the next index, and a full frame
unless the declared length may be reached with it. -/
def takes (session : FastPacketSession) (frame : CanFrame) : Bool :=
  decide (session.channelId = frame.channelId ∧ frameIndex frame = session.expectedFrameIndex ∧
    ¬ (frame.data.length ≠ 8 ∧ session.receivedBytes.length + 7 < session.totalBytes))

def continueSession (session : FastPacketSession) (pgn : Nat) (arrival : Arrival) :
    Option FastPacketSession × Option N2KCompletedMessage :=
  if ¬ takes session arrival.frame then (none, none)
  else
    let extended := extend session arrival
    if extended.receivedBytes.length ≥ extended.totalBytes then
      (none, some (completedMessage extended pgn arrival))
    else (some extended, none)

def handleConsecutive (decoder : FastPacketDecoder) (key : FastPacketKey) (arrival : Arrival) :
    FastPacketDecoder × Option N2KCompletedMessage :=
  match decoder.sessions.get? key with
  | none => (decoder, none)
  | some session =>
      match continueSession session key.pgn arrival with
      | (none, message) => ({ decoder with sessions := decoder.sessions.erase key }, message)
      | (some extended, message) =>
          ({ decoder with sessions := decoder.sessions.set key extended }, message)

def handleLocked (decoder : FastPacketDecoder) (key : FastPacketKey) (arrival : Arrival) :
    FastPacketDecoder × Option N2KCompletedMessage :=
  if frameIndex arrival.frame = 0 then (handleFirst decoder key arrival, none)
  else handleConsecutive decoder key arrival

def handleRxFrame (decoder : FastPacketDecoder) (arrival : Arrival) :
    FastPacketDecoder × Option N2KCompletedMessage :=
  match admitted arrival.frame with
  | none => (decoder, none)
  | some key => handleLocked (cleanExpired decoder arrival.now) key arrival

/-- A decoder in use: the last reading of the clock and the messages so far, each
with the key of its frames. -/
structure FastPacketUse where
  decoder : FastPacketDecoder := {}
  clock : Nat := 0
  completed : List (FastPacketKey × N2KCompletedMessage) := []
  deriving DecidableEq, Repr

/-- The frames come one at a time and the clock does not run backwards. -/
def receive (used : FastPacketUse) (arrival : Arrival) : Option FastPacketUse :=
  if arrival.now < used.clock then none
  else
    let handled := handleRxFrame used.decoder arrival
    some
      { decoder := handled.1
        clock := arrival.now
        completed := used.completed ++
          handled.2.toList.map (fun message => (sessionKey arrival.frame, message)) }

def fresh : FastPacketUse := {}

/-- A frame of the point-to-point group 126208 from the source 0x23. -/
def requestFrame (destination : Nat) (data : Bytes) : FrameFields where
  channelId := "can0"
  arbitrationId := 0x0DED0023 + 256 * destination
  dlc := data.length
  data := data
  isExtended := true

theorem firstRequest_valid :
    (requestFrame 0x10 [0x20, 9, 1, 2, 3, 4, 5, 6]).postInit = none := by decide

theorem lastRequest_valid : (requestFrame 0x10 [0x21, 7, 8, 9]).postInit = none := by decide

end Ucanlab.Nmea2000
