import Ucanlab.Uds.IsoTpReassembly

/-!
The active diagnostic poller: the jobs it was given, the scheduling step and the
handling of a received frame. Results stand undecoded, as identifier and data;
times are exact.
-/

namespace Ucanlab.Obd

open IsoTp

inductive PollerState where
  | idle
  | enqueued
  | isoTpTransmit
  | waitingForResponse
  | waitingP2Star
  | processingPayload
  | retryBackoff
  | completed
  | failed
  deriving DecidableEq, Repr

inductive JobKind where
  | obdPid
  | udsDid
  | obdDtcMode
  deriving DecidableEq, Repr

def defaultP2TimeoutS : ℚ := 2
def p2StarTimeoutS : ℚ := 5
def defaultMaxRetries : Nat := 3
def baseBackoffS : ℚ := 50 / 1000
def maxRateHz : ℚ := 50
def maxPendingAbsS : ℚ := 30
def maxNrc78Count : Nat := 200

/-- Request and response identifier. -/
abbrev Conversation := Nat × Nat

/-- A job under its kind and identifier, for one ECU. -/
abbrev JobKey := JobKind × Nat × Conversation

structure PollerJob where
  kind : JobKind
  identifier : Nat
  rateHz : ℚ
  priority : Int := 5
  txId : Nat
  rxId : Nat
  nextRunS : ℚ := 0
  lastRunS : ℚ := 0
  consecutiveFailures : Nat := 0
  state : PollerState := .idle
  retryCount : Nat := 0
  responseDeadlineS : ℚ := 0
  pendingWallDeadlineS : ℚ := 0
  nrc78Count : Nat := 0
  transactionId : Nat := 0
  deriving DecidableEq, Repr

def PollerJob.conversation (job : PollerJob) : Conversation := (job.txId, job.rxId)

def PollerJob.key (job : PollerJob) : JobKey := (job.kind, job.identifier, job.conversation)

def PollerJob.intervalS (job : PollerJob) : ℚ := if 0 < job.rateHz then 1 / job.rateHz else 1

def PollerJob.waiting (job : PollerJob) : Prop :=
  job.state = .waitingForResponse ∨ job.state = .waitingP2Star

instance (job : PollerJob) : Decidable job.waiting := inferInstanceAs (Decidable (_ ∨ _))

/-- The service that a negative response has to name. -/
def PollerJob.requestSid (job : PollerJob) : Nat :=
  match job.kind with
  | .obdPid => 0x01
  | .udsDid => 0x22
  | .obdDtcMode => job.identifier

/-- The registered jobs stand in the order of the dictionary that holds them; the active
job is one of them. -/
structure Poller where
  channelId : String
  defaultTxId : Nat
  defaultRxId : Nat
  minTxIntervalS : ℚ
  transports : Dict Conversation ReceivingTransport
  jobs : List PollerJob := []
  lastTxTimeS : ℚ := 0
  transactionCounter : Nat := 0
  conversationTxn : Dict Conversation Nat := []
  activeJob : Option JobKey := none
  state : PollerState := .idle

/-! ## Setting up -/

inductive RegisterError where
  | maxRate (hz : ℚ)
  | identifier (kind : JobKind) (identifier : Nat)
  | rate (kind : JobKind) (identifier : Nat) (hz : ℚ)
  deriving DecidableEq, Repr

/-- Where the flow control of a multi-frame answer goes: to the ECU, also where the request
went to all of them. -/
def flowControlId (txId rxId : Nat) : Nat :=
  if txId = 0x7DF ∧ 0x7E8 ≤ rxId ∧ rxId ≤ 0x7EF then rxId - 8
  else if txId &&& 0x1FFF0000 = 0x18DB0000 ∧ rxId &&& 0x1FFF0000 = 0x18DA0000 then
    0x18DA0000 ||| ((rxId &&& 0xFF) <<< 8) ||| ((rxId >>> 8) &&& 0xFF)
  else txId

def newTransport (channelId : String) (conversation : Conversation) : ReceivingTransport where
  txId := flowControlId conversation.1 conversation.2
  channelId := channelId
  rxId := conversation.2

def Poller.create (channelId : String) (txId rxId : Nat) (maxRate : ℚ)
    (isotpTransport : Option ReceivingTransport) : Except RegisterError Poller :=
  if maxRateHz < maxRate then .error (.maxRate maxRate)
  else .ok {
    channelId := channelId
    defaultTxId := txId
    defaultRxId := rxId
    minTxIntervalS := 1 / max 1 maxRate
    transports := [((txId, rxId), isotpTransport.getD (newTransport channelId (txId, rxId)))] }

def Poller.transportFor (poller : Poller) (conversation : Conversation) : ReceivingTransport :=
  (poller.transports.get? conversation).getD (newTransport poller.channelId conversation)

def Poller.withTransport (poller : Poller) (conversation : Conversation)
    (transport : ReceivingTransport) : Poller :=
  { poller with transports := poller.transports.set conversation transport }

def putJob (job : PollerJob) : List PollerJob → List PollerJob
  | [] => [job]
  | other :: rest => if other.key = job.key then job :: rest else other :: putJob job rest

structure Registration where
  identifier : Nat
  rateHz : ℚ
  priority : Int := 5
  txId : Option Nat := none
  rxId : Option Nat := none
  now : ℚ

def Poller.registerJob (poller : Poller) (kind : JobKind) (inRange : Bool) (defaultTxId : Nat)
    (registration : Registration) : Except RegisterError Poller :=
  if ¬ inRange then .error (.identifier kind registration.identifier)
  else if maxRateHz < registration.rateHz then
    .error (.rate kind registration.identifier registration.rateHz)
  else
    let job : PollerJob := {
      kind := kind
      identifier := registration.identifier
      rateHz := registration.rateHz
      priority := registration.priority
      txId := registration.txId.getD defaultTxId
      rxId := registration.rxId.getD poller.defaultRxId
      nextRunS := registration.now }
    .ok ({ poller with jobs := putJob job poller.jobs }.withTransport job.conversation
      (poller.transportFor job.conversation))

def Poller.registerPid (poller : Poller) (registration : Registration) :
    Except RegisterError Poller :=
  poller.registerJob .obdPid (decide (registration.identifier ≤ 0xFF)) poller.defaultTxId registration

def Poller.registerDid (poller : Poller) (registration : Registration) :
    Except RegisterError Poller :=
  poller.registerJob .udsDid (decide (registration.identifier ≤ 0xFFFF)) 0x7E0 registration

def obdDtcModes : List Nat := [0x03, 0x07, 0x0A]

def Poller.registerDtcMode (poller : Poller) (registration : Registration) :
    Except RegisterError Poller :=
  poller.registerJob .obdDtcMode (decide (registration.identifier ∈ obdDtcModes))
    poller.defaultTxId registration

/-! ## Scheduling -/

def Poller.job? (poller : Poller) (key : JobKey) : Option PollerJob :=
  poller.jobs.find? (fun job => decide (job.key = key))

def Poller.active (poller : Poller) : Option PollerJob := poller.activeJob.bind poller.job?

def Poller.modify (poller : Poller) (key : JobKey) (change : PollerJob → PollerJob) : Poller :=
  { poller with jobs := poller.jobs.map (fun job => if job.key = key then change job else job) }

def PollerJob.retried (job : PollerJob) (now : ℚ) : PollerJob :=
  if defaultMaxRetries < job.retryCount + 1 then
    { job with
      retryCount := job.retryCount + 1
      state := .failed
      consecutiveFailures := job.consecutiveFailures + 1
      nextRunS := now + job.intervalS }
  else
    { job with
      retryCount := job.retryCount + 1
      nextRunS := now + baseBackoffS * 2 ^ job.retryCount
      state := .retryBackoff }

def Poller.scheduleRetry (poller : Poller) (job : PollerJob) (now : ℚ) : Poller :=
  { poller.modify job.key (fun job => job.retried now) with
    state := (job.retried now).state
    activeJob := none }

def requestData (job : PollerJob) : Bytes :=
  match job.kind with
  | .obdPid => [0x02, 0x01, UInt8.ofNat job.identifier, 0x55, 0x55, 0x55, 0x55, 0x55]
  | .obdDtcMode => [0x01, UInt8.ofNat job.identifier, 0x55, 0x55, 0x55, 0x55, 0x55, 0x55]
  | .udsDid =>
      [0x03, 0x22, UInt8.ofNat (job.identifier >>> 8 &&& 0xFF), UInt8.ofNat (job.identifier &&& 0xFF),
        0x55, 0x55, 0x55, 0x55]

def Poller.buildRequestFrame (poller : Poller) (job : PollerJob) : Except FrameError CanFrame :=
  CanFrame.create {
    channelId := poller.channelId
    arbitrationId := job.txId
    dlc := 0
    data := requestData job
    isExtended := decide (job.txId > 0x7FF)
    direction := .tx } none

def Poller.expire (poller : Poller) (now : ℚ) : Poller :=
  match poller.active with
  | none => poller
  | some job => if job.responseDeadlineS ≤ now then poller.scheduleRetry job now else poller

def Poller.busyEndpoint (poller : Poller) : Option Conversation :=
  match poller.active with
  | none => none
  | some job => if job.waiting then some job.conversation else none

def Poller.dueJobs (poller : Poller) (now : ℚ) : List PollerJob :=
  poller.jobs.filter (fun job => decide (job.nextRunS ≤ now ∧ poller.activeJob ≠ some job.key ∧
    poller.busyEndpoint ≠ some job.conversation))

def PollerJob.before (job other : PollerJob) : Prop :=
  other.priority < job.priority ∨ (job.priority = other.priority ∧ job.nextRunS ≤ other.nextRunS)

instance (job other : PollerJob) : Decidable (job.before other) :=
  inferInstanceAs (Decidable (_ ∨ _))

/-- The head of the jobs when they are sorted, equals in their order. -/
def firstDue : List PollerJob → Option PollerJob
  | [] => none
  | job :: rest =>
      match firstDue rest with
      | none => some job
      | some other => if job.before other then some job else some other

def PollerJob.dispatched (job : PollerJob) (now : ℚ) (transactionId : Nat) : PollerJob :=
  { job with
    transactionId := transactionId
    state := .enqueued
    lastRunS := now
    nextRunS := now + job.intervalS
    responseDeadlineS := now + defaultP2TimeoutS
    pendingWallDeadlineS := now + maxPendingAbsS
    nrc78Count := 0 }

/-- Everything a dispatch does before the frame is built. -/
def Poller.dispatch (poller : Poller) (job : PollerJob) (now : ℚ) : Poller :=
  { poller.modify job.key (fun job => job.dispatched now (poller.transactionCounter + 1)) with
    activeJob := some job.key
    transactionCounter := poller.transactionCounter + 1
    conversationTxn := poller.conversationTxn.set job.conversation (poller.transactionCounter + 1)
    state := .enqueued
    lastTxTimeS := now }

/-- The request goes out, or the port raises. -/
def Poller.transmit (poller : Poller) (key : JobKey) (sends : Bool) : Poller :=
  if sends then
    { poller.modify key (fun job => { job with state := .waitingForResponse }) with
      state := .waitingForResponse }
  else
    { poller.modify key (fun job => { job with state := .failed }) with
      state := .failed
      activeJob := none }

def Poller.step (poller : Poller) (now : ℚ) (sends : Bool) :
    Poller × Except FrameError (Option JobKey) :=
  let expired := poller.expire now
  if now - expired.lastTxTimeS < expired.minTxIntervalS then (expired, .ok none)
  else
    match firstDue (expired.dueJobs now) with
    | none => (expired, .ok none)
    | some job =>
        match expired.buildRequestFrame job with
        | .error error => (expired.dispatch job now, .error error)
        | .ok _ => ((expired.dispatch job now).transmit job.key sends, .ok (some job.key))

/-! ## Received frames -/

/-- A decoded response: the identifier and the data behind it. -/
inductive DiagnosticResult where
  | pid (pid : Nat) (data : Bytes)
  | dtcs (mode count : Nat) (pairs : Bytes)
  | did (did : Nat) (data : Bytes)
  deriving DecidableEq, Repr

structure RxOutcome where
  result : Option DiagnosticResult := none
  flowControl : Option CanFrame := none
  callback : Option JobKey := none
  deriving DecidableEq

def Poller.owner (poller : Poller) (frame : CanFrame) : Option PollerJob :=
  match poller.jobs.find? (fun job => decide (job.waiting ∧ job.rxId = frame.arbitrationId)) with
  | some job => some job
  | none => poller.active

def Poller.conversationOf (poller : Poller) (frame : CanFrame) : Conversation :=
  match poller.owner frame with
  | some job => job.conversation
  | none =>
      match poller.transports.find? (fun entry => decide (entry.1.2 = frame.arbitrationId)) with
      | some entry => entry.1
      | none => (poller.defaultTxId, poller.defaultRxId)

def nrcBusyRepeatRequest : Nat := 0x21
def nrcResponsePending : Nat := 0x78

/-- The owner of a negative response after it; a job whose budget for pending responses is
used up fails. -/
def Poller.pending (poller : Poller) (job : PollerJob) (now : ℚ) : Poller :=
  if maxNrc78Count ≤ job.nrc78Count ∨ job.pendingWallDeadlineS ≤ now then
    { poller.modify job.key (fun job => { job with
        state := .failed
        consecutiveFailures := job.consecutiveFailures + 1 }) with
      state := .failed
      activeJob := none }
  else
    { poller.modify job.key (fun job => { job with
        nrc78Count := job.nrc78Count + 1
        state := .waitingP2Star
        responseDeadlineS := min (now + p2StarTimeoutS) job.pendingWallDeadlineS }) with
      state := .waitingP2Star }

def Poller.negative (poller : Poller) (owner : Option PollerJob) (now : ℚ) (rejectedSid nrc : Nat) :
    Poller :=
  match owner with
  | none => poller
  | some job =>
      if rejectedSid ≠ job.requestSid then poller
      else if nrc = nrcResponsePending then poller.pending job now
      else if nrc = nrcBusyRepeatRequest then poller.scheduleRetry job now
      else
        { poller.modify job.key (fun job => { job with
            state := .failed
            consecutiveFailures := job.consecutiveFailures + 1 }) with
          state := .failed }

def PollerJob.Echoed (job : PollerJob) (kind : JobKind) (identifier : Nat) (frame : CanFrame) :
    Prop :=
  job.kind = kind ∧ job.identifier = identifier ∧ job.rxId = frame.arbitrationId

instance (job : PollerJob) (kind : JobKind) (identifier : Nat) (frame : CanFrame) :
    Decidable (job.Echoed kind identifier frame) := inferInstanceAs (Decidable (_ ∧ _))

def Poller.Current (poller : Poller) (job : PollerJob) : Prop :=
  poller.conversationTxn.get? job.conversation = some job.transactionId

instance (poller : Poller) (job : PollerJob) : Decidable (poller.Current job) :=
  inferInstanceAs (Decidable (_ = _))

def Poller.complete (poller : Poller) (key : JobKey) : Poller :=
  { poller.modify key (fun job => { job with
      state := .completed
      consecutiveFailures := 0
      retryCount := 0 }) with
    state := .completed
    activeJob := none }

def Poller.positive (poller : Poller) (owner : Option PollerJob) (kind : JobKind) (identifier : Nat)
    (frame : CanFrame) (outcome : RxOutcome) : Poller × RxOutcome :=
  match owner with
  | none => (poller, outcome)
  | some job =>
      if job.Echoed kind identifier frame ∧ poller.Current job then
        (poller.complete job.key, { outcome with callback := some job.key })
      else (poller, outcome)

def positiveResponse (payload : Bytes) : Option (JobKind × Nat × DiagnosticResult) :=
  let byte := fun index => (payload.getD index 0).toNat
  if byte 0 = 0x41 then some (.obdPid, byte 1, .pid (byte 1) (payload.drop 2))
  else if byte 0 = 0x43 ∨ byte 0 = 0x47 ∨ byte 0 = 0x4A then
    some (.obdDtcMode, byte 0 - 0x40, .dtcs (byte 0 - 0x40) (byte 1) (payload.drop 2))
  else if byte 0 = 0x62 ∧ 3 ≤ payload.length then
    some (.udsDid, byte 1 <<< 8 ||| byte 2, .did (byte 1 <<< 8 ||| byte 2) (payload.drop 3))
  else none

def Poller.takePayload (poller : Poller) (owner : Option PollerJob) (now : ℚ) (frame : CanFrame)
    (payload : Bytes) (outcome : RxOutcome) : Poller × RxOutcome :=
  if payload.length < 2 then (poller, outcome)
  else if (payload.getD 0 0).toNat = 0x7F ∧ 3 ≤ payload.length then
    (poller.negative owner now (payload.getD 1 0).toNat (payload.getD 2 0).toNat, outcome)
  else
    match positiveResponse payload with
    | none => (poller, outcome)
    | some (kind, identifier, result) =>
        poller.positive owner kind identifier frame { outcome with result := some result }

/-- The transports read a clock of their own. -/
def Poller.processRxFrame (poller : Poller) (monotonicNs : Nat) (now : ℚ) (frame : CanFrame) :
    Poller × Except FrameError RxOutcome :=
  let owner := poller.owner frame
  let conversation := poller.conversationOf frame
  let routed := { poller with activeJob := owner.map PollerJob.key }
  if frame.channelId ≠ poller.channelId ∧ poller.channelId ≠ "" then (routed, .ok {})
  else
    match (routed.transportFor conversation).handleRxFrame monotonicNs frame with
    | (transport, .error error) => (routed.withTransport conversation transport, .error error)
    | (transport, .ok (none, flowControl)) =>
        (routed.withTransport conversation transport, .ok { flowControl := flowControl })
    | (transport, .ok (some payload, flowControl)) =>
        let (after, outcome) := (routed.withTransport conversation transport).takePayload owner now
          frame payload { flowControl := flowControl }
        (after, .ok outcome)

end Ucanlab.Obd
