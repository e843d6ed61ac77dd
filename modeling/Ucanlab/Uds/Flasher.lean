import Ucanlab.Uds.ContinuousBinary
import Ucanlab.Lib.Dialogue
import Ucanlab.Uds.UdsClient

/-!
The configuration of one reprogramming run and its preflight checks. A public key is its
verification of a signature over an image; a key derivation may raise.
-/

namespace Ucanlab.Uds

open Ucanlab

def maxBlockLengthCap : Nat := 4096
def minBlockSize : Int := 1

structure FlashingConfigFields where
  memoryAddress : Int := 0
  data : Bytes := []
  container : Option FirmwareContainer := none
  blockSize : Int := 256
  securityLevel : Int := 1
  securityKey : Option Bytes := none
  keyDerivation : Option (Bytes → Int → Option Bytes) := none
  programmingSecurityLevel : Option Int := none
  verifyChecksum : Bool := true
  checksumRoutineId : Int := 0x0202
  eraseRoutineId : Option Int := none
  eraseRoutineOptions : Bytes := []
  expectedVin : Option (List Char) := none
  expectedSerial : Option (List Char) := none
  memoryMinAddress : Int := 0
  memoryMaxAddress : Int := 0x1FFFFFFFFFFFFFFF
  memoryAlignment : Int := 1
  maxImageBytes : Int := 0xFFFFFFFFFFFFFFFF
  resetAfterFlash : Bool := true
  resetType : Int := 0x01
  userConfirmed : Bool := false
  firmwareSignature : Option Bytes := none
  minVersion : Int := 0
  trustedPubkey : Option (Bytes → Bytes → Bool) := none
  requireSignature : Bool := true
  versionDid : Int := 0xF189
  requireTargetIdentity : Bool := true

inductive ConfigError where
  | profileSpan (span profileCap : Int)
  | flatten (error : FlattenError)
  | blockSize (blockSize : Int)
  | emptyData
  | imageSize (length : Nat) (maxImageBytes : Int)
  | belowMinimum (memoryAddress memoryMinAddress : Int)
  | aboveMaximum (endAddress memoryMaxAddress : Int)
  | alignment (memoryAddress memoryAlignment : Int)
  deriving DecidableEq, Repr

namespace FlashingConfigFields

def profileCap (fields : FlashingConfigFields) : Int :=
  if fields.memoryMaxAddress > fields.memoryMinAddress then
    min fields.maxImageBytes (fields.memoryMaxAddress - fields.memoryMinAddress + 1)
  else fields.maxImageBytes

/-- Without an image of its own the configuration takes the one of its container. -/
def flattened (fields : FlashingConfigFields) : Except ConfigError FlashingConfigFields :=
  match fields.container with
  | none => .ok fields
  | some container =>
      if fields.data ≠ [] then .ok fields
      else
        let span : Int := container.maxAddress - container.minAddress
        if span > fields.profileCap then .error (.profileSpan span fields.profileCap)
        else
          match container.getContinuousBinary 0xFF (some fields.profileCap) none with
          | .error error => .error (.flatten error)
          | .ok (baseAddr, binData) =>
              .ok { fields with
                memoryAddress :=
                  if fields.memoryAddress = 0 ∧ baseAddr ≠ 0 then baseAddr
                  else fields.memoryAddress
                data := binData }

/-- The checks in their order; `none` when all of them pass. -/
def preflight (fields : FlashingConfigFields) : Option ConfigError :=
  if ¬ (minBlockSize ≤ fields.blockSize ∧ fields.blockSize ≤ maxBlockLengthCap) then
    some (.blockSize fields.blockSize)
  else if fields.data = [] then some .emptyData
  else if ¬ (1 ≤ fields.data.length ∧ fields.data.length ≤ fields.maxImageBytes) then
    some (.imageSize fields.data.length fields.maxImageBytes)
  else if ¬ fields.memoryMinAddress ≤ fields.memoryAddress then
    some (.belowMinimum fields.memoryAddress fields.memoryMinAddress)
  else if fields.memoryAddress + fields.data.length > fields.memoryMaxAddress + 1 then
    some (.aboveMaximum (fields.memoryAddress + fields.data.length) fields.memoryMaxAddress)
  else if fields.memoryAlignment > 1 ∧ fields.memoryAddress % fields.memoryAlignment ≠ 0 then
    some (.alignment fields.memoryAddress fields.memoryAlignment)
  else none

end FlashingConfigFields

structure FlashingConfig extends FlashingConfigFields where
  accepted : toFlashingConfigFields.preflight = none

namespace FlashingConfig

/-- `__post_init__`. -/
def new (fields : FlashingConfigFields) : Except ConfigError FlashingConfig :=
  match fields.flattened with
  | .error error => .error error
  | .ok fields =>
      match checked : fields.preflight with
      | some error => .error error
      | none => .ok { toFlashingConfigFields := fields, accepted := checked }

def effectiveProgrammingSecurityLevel (config : FlashingConfig) : Int :=
  config.programmingSecurityLevel.getD config.securityLevel

theorem blockSize_bounds (config : FlashingConfig) :
    1 ≤ config.blockSize ∧ config.blockSize ≤ 4096 := by
  have accepted := config.accepted
  unfold FlashingConfigFields.preflight at accepted
  split at accepted
  · cases accepted
  · rename_i bounds
    exact not_not.mp bounds

theorem data_ne_nil (config : FlashingConfig) : config.data ≠ [] := by
  have accepted := config.accepted
  unfold FlashingConfigFields.preflight at accepted
  split at accepted
  · cases accepted
  · split at accepted
    · cases accepted
    · assumption

end FlashingConfig

end Ucanlab.Uds

/-!
The reprogramming sequence. One run is a dialogue with an ECU, the gateway and an operator
who may cancel; every request of the run is kept with what came of it. The keep-alive thread
sends Tester Present alone between two requests and is left out.
-/

namespace Ucanlab.Uds

open Ucanlab Dialogue UdsServiceBuilder

structure GatewayStatus where
  estopEngaged : Bool := false
  txPermitted : Bool := true
  leaseValid : Bool := true
  speedSafe : Bool := true
  deriving DecidableEq, Repr

structure Exchange where
  request : Bytes
  outcome : Except UdsError UdsResponse

/-- What a run meets: the ECU answers a request after the exchanges so far, the operator and
the gateway are consulted one time after the other. -/
structure Bench where
  client : UdsClient
  reply : List Exchange → Bytes → Reply
  cancelled : Nat → Bool
  gateway : Nat → GatewayStatus

structure FlashState where
  log : List Exchange := []
  consulted : Nat := 0
  nowNs : Nat := 0

inductive FlashError where
  | build (error : BuildError)
  | client (error : UdsError)
  | emptyData
  | signatureMissing
  | trustAnchorMissing
  | signatureInvalid
  | targetIdentityRequired
  | notConfirmed
  | estop
  | supervisor
  | watchdog
  | speed
  | cancelled
  | rejected (service nrc : UInt8)
  | identityMismatch (did : Int) (actual : List Char)
  | rollbackUnverifiable
  | rollbackDenied (current : Nat) (floor : Int)
  | versionDigits (count : Nat)
  | seedMissing
  | seedEcho (echo : UInt8) (level : Int)
  | seedEmpty
  | keyDerivation
  | blockLengthMissing
  | lengthFormat (identifier : UInt8)
  | blockLengthCut
  | blockLengthZero
  | blockEmpty (blockSequence : Nat)
  | blockEcho (blockSequence : Nat) (echo : UInt8)
  | checksumBypassDenied
  | routineResultEmpty
  | routineEcho (echo : Bytes)
  | routineStatusMissing
  | routineStatus (status : UInt8)
  | routineTimeout
  deriving DecidableEq, Repr

abbrev Flash := Dialogue FlashState FlashError

/-- The polynomial division of one byte, low bit first. -/
def crc32Shift : Nat → UInt32 → UInt32
  | 0, crc => crc
  | rounds + 1, crc =>
      crc32Shift rounds (if crc &&& 1 = 1 then (crc >>> 1) ^^^ 0xEDB88320 else crc >>> 1)

/-- `zlib.crc32`. -/
def crc32 (data : Bytes) : Nat :=
  (data.foldl (fun crc byte => crc32Shift 8 (crc ^^^ byte.toUInt32)) 0xFFFFFFFF ^^^
    0xFFFFFFFF).toNat

example : crc32 [0x61] = 0xE8B7BE43 := by decide +kernel

/-- `bytes.decode("ascii", errors="replace")`. -/
def decodeAscii (bytes : Bytes) : List Char :=
  bytes.map (fun byte => if byte < 0x80 then Char.ofNat byte.toNat else '\uFFFD')

def identityText (did : Int) (data : Bytes) : List Char :=
  let raw := if data.take 2 = [highByte did, lowByte did] then data.drop 2 else data
  pyStrip (decodeAscii raw)

/-- `int` reads 4300 digits at most. -/
def maxIntDigits : Nat := 4300

def parseEcuVersion (data : Bytes) : Except FlashError (Option Nat) :=
  let raw := if data.take 2 = [0xF1, 0x89] then data.drop 2 else data
  let text := pyStrip (decodeAscii raw)
  if text ≠ [] ∧ text.all Char.isDigit then
    if text.length > maxIntDigits then .error (.versionDigits text.length)
    else .ok (some (Nat.ofDigitChars 10 text 0))
  else .ok none

def parseMaxBlockLength : Bytes → Except FlashError Nat
  | [] => .error .blockLengthMissing
  | lengthFormat :: rest =>
      let numBytes := (lengthFormat.toNat >>> 4) &&& 0x0F
      if ¬ (1 ≤ numBytes ∧ numBytes ≤ 8) then .error (.lengthFormat lengthFormat)
      else if (rest.take numBytes).length < numBytes then .error .blockLengthCut
      else
        let value := natFromBytes (rest.take numBytes)
        if value = 0 then .error .blockLengthZero
        else if value > maxBlockLengthCap then .ok maxBlockLengthCap
        else .ok value

section Steps

variable (bench : Bench) (config : FlashingConfig)

/-- A payload that cannot be segmented never goes out. -/
def exchange (payload : Bytes) : Flash UdsResponse :=
  match bench.client.segment payload with
  | .error error => fail (.client error)
  | .ok () => fun state =>
      let reply := bench.reply state.log payload
      let outcome := bench.client.sendAndReceive payload reply
      (outcome.mapError .client,
        { state with
          log := state.log ++ [{ request := payload, outcome := outcome }]
          nowNs := state.nowNs + reply.tookNs })

def request (payload : Except BuildError Bytes) : Flash UdsResponse := do
  let payload ← lift (payload.mapError .build)
  exchange bench payload

def demandOr (refusal : UdsResponse → FlashError) (payload : Except BuildError Bytes) :
    Flash UdsResponse := do
  let response ← request bench payload
  require (response.isPositive = true) (refusal response)
  pure response

def demand (service : UInt8) : Except BuildError Bytes → Flash UdsResponse :=
  demandOr bench (fun response => .rejected service response.nrc)

def checkCancelled : Flash Unit := fun state =>
  (if bench.cancelled state.consulted then .error .cancelled else .ok (),
    { state with consulted := state.consulted + 1 })

def estopRefusal (status : GatewayStatus) : Except FlashError Unit :=
  if status.estopEngaged then .error .estop else .ok ()

def gatewayRefusal (status : GatewayStatus) : Except FlashError Unit :=
  if status.estopEngaged then .error .estop
  else if ¬ status.txPermitted then .error .supervisor
  else if ¬ status.leaseValid then .error .watchdog
  else if ¬ status.speedSafe then .error .speed
  else .ok ()

def consultGateway (refusal : GatewayStatus → Except FlashError Unit) : Flash Unit := fun state =>
  (refusal (bench.gateway state.consulted), { state with consulted := state.consulted + 1 })

def assertGatewayPreconditions : Flash Unit := consultGateway bench gatewayRefusal

def safetyValidation : Flash Unit := do
  require (config.userConfirmed = true) .notConfirmed
  consultGateway bench estopRefusal
  assertGatewayPreconditions bench

def changeSession (sessionType : DiagnosticSessionType) : Flash Unit := do
  checkCancelled bench
  let _ ← demand bench diagnosticSessionControl (.ok (buildDiagnosticSessionControl sessionType))
  pure ()

def verifyIdentity (did : Int) : Option (List Char) → Flash Unit
  | none => pure ()
  | some expected => do
      let response ← demand bench readDataByIdentifier (buildReadDataByIdentifier did)
      let actual := identityText did response.data
      require (actual = expected) (.identityMismatch did actual)

def verifyVersion : Flash Unit :=
  if config.minVersion > 0 then do
    let response ← demandOr bench (fun _ => .rollbackUnverifiable)
      (buildReadDataByIdentifier config.versionDid)
    let version ← lift (parseEcuVersion response.data)
    match version with
    | none => fail .rollbackUnverifiable
    | some current =>
        require (config.minVersion ≤ current) (.rollbackDenied current config.minVersion)
  else pure ()

def keyFor (level : Int) : Bytes → Except FlashError Bytes
  | [] => .error .seedMissing
  | echo :: seed =>
      if echo ≠ lowByte level then .error (.seedEcho echo level)
      else
        match config.keyDerivation with
        | none => .ok (config.securityKey.getD [])
        | some derive =>
            if seed = [] then .error .seedEmpty
            else
              match derive seed level with
              | none => .error .keyDerivation
              | some key => .ok key

def unlock : Flash Unit :=
  if config.keyDerivation.isSome ∨ config.securityKey.isSome then do
    let level := config.effectiveProgrammingSecurityLevel
    checkCancelled bench
    let seed ← demand bench securityAccess (buildSecurityAccessRequestSeed level)
    let key ← lift (keyFor config level seed.data)
    let _ ← demand bench securityAccess (buildSecurityAccessSendKey level key)
    pure ()
  else pure ()

def eraseMemory : Flash Unit :=
  match config.eraseRoutineId with
  | none => pure ()
  | some routineId => do
      checkCancelled bench
      let _ ← demand bench routineControl
        (buildRoutineControl .startRoutine routineId config.eraseRoutineOptions)
      pure ()

def requestDownload : Flash Nat := do
  checkCancelled bench
  let response ← demand bench requestDownloadService
    (buildRequestDownload config.memoryAddress config.data.length)
  let maxBlockLen ← lift (parseMaxBlockLength response.data)
  pure (min config.blockSize.toNat (max (maxBlockLen - 2) 1))

def preconditionRecheckEveryNBlocks : Nat := 16

def recheckPreconditions (blocksSincePrecondition : Nat) : Flash Nat :=
  if blocksSincePrecondition ≥ preconditionRecheckEveryNBlocks then do
    assertGatewayPreconditions bench
    pure 0
  else pure blocksSincePrecondition

def blockEcho (blockSeq : Nat) : Bytes → Except FlashError Unit
  | [] => .error (.blockEmpty blockSeq)
  | echo :: _ =>
      if echo ≠ UInt8.ofNat (blockSeq &&& 0xFF) then .error (.blockEcho blockSeq echo) else .ok ()

/-- The block loop. A block takes one byte at least, so a fuel of one round for each byte is
never used up before the image is. -/
def transferBlocks (blockSize : Nat) : Nat → Nat → Nat → Nat → Flash Unit
  | 0, _, _, _ => pure ()
  | fuel + 1, bytesSent, blockSeq, blocksSincePrecondition =>
      if bytesSent < config.data.length then do
        checkCancelled bench
        let since ← recheckPreconditions bench blocksSincePrecondition
        let chunk := (config.data.drop bytesSent).take blockSize
        let response ← demand bench transferDataService (buildTransferData blockSeq chunk)
        lift (blockEcho blockSeq response.data)
        transferBlocks blockSize fuel (bytesSent + chunk.length) ((blockSeq + 1) &&& 0xFF)
          (since + 1)
      else pure ()

def transferData (blockSize : Nat) : Flash Unit :=
  transferBlocks bench config blockSize config.data.length 0 1 0

def requestTransferExit : Flash Unit := do
  checkCancelled bench
  let _ ← demand bench requestTransferExitService (.ok buildRequestTransferExit)
  pure ()

def routineTimeoutNs : Nat := 10000000000
def routinePollNs : Nat := 100000000

/-- A sleep of a tenth of a second between two polls, so the deadline has passed when as many
rounds are over. -/
def routinePolls : Nat := routineTimeoutNs / routinePollNs + 2

def routinePrefix (config : FlashingConfig) : Bytes :=
  [RoutineControlType.requestRoutineResults.value, highByte config.checksumRoutineId,
    lowByte config.checksumRoutineId]

def routineStatus (data : Bytes) : Except FlashError UInt8 :=
  if data.length < 3 then .error .routineResultEmpty
  else if data.take 3 ≠ routinePrefix config then .error (.routineEcho (data.take 3))
  else
    match data.drop 3 with
    | [] => .error .routineStatusMissing
    | status :: _ => .ok status

def sleep (durationNs : Nat) : Flash Unit :=
  update (fun state => { state with nowNs := state.nowNs + durationNs })

def awaitChecksum (deadline : Nat) : Nat → Flash Unit
  | 0 => fail .routineTimeout
  | polls + 1 => do
      let response ← demand bench routineControl
        (buildRoutineControl .requestRoutineResults config.checksumRoutineId [])
      let status ← lift (routineStatus config response.data)
      if status = 0x00 then pure ()
      else if status = 0x01 then do
        let now ← read FlashState.nowNs
        require (now ≤ deadline) .routineTimeout
        sleep routinePollNs
        awaitChecksum deadline polls
      else fail (.routineStatus status)

def verifyChecksum : Flash Unit := do
  require (config.verifyChecksum = true) .checksumBypassDenied
  checkCancelled bench
  let _ ← demand bench routineControl (buildRoutineControl .startRoutine config.checksumRoutineId
    (natToBytes 4 (crc32 config.data)))
  let now ← read FlashState.nowNs
  awaitChecksum bench config (now + routineTimeoutNs) routinePolls

def resetEcu : Flash Unit :=
  if config.resetAfterFlash then do
    checkCancelled bench
    let _ ← demand bench ecuResetService (buildEcuReset config.resetType)
    pure ()
  else pure ()

def vinDid : Int := 0xF190
def serialDid : Int := 0xF18C

/-- The run between the extended session and the erase. -/
def openProgramming : Flash Unit := do
  verifyIdentity bench vinDid config.expectedVin
  verifyIdentity bench serialDid config.expectedSerial
  verifyVersion bench config
  changeSession bench .programming
  unlock bench config

def download : Flash Unit := do
  eraseMemory bench config
  let blockSize ← requestDownload bench config
  transferData bench config blockSize
  requestTransferExit bench
  verifyChecksum bench config
  resetEcu bench config

def retreat : Flash Unit := fun state =>
  (.ok (), (exchange bench (buildDiagnosticSessionControl .default) state).2)

def bestEffortRecovery : Flash Unit := fun state =>
  match exchange bench buildRequestTransferExit state with
  | (.ok response, after) => if response.isPositive then (.ok (), after) else retreat bench after
  | (.error _, after) => retreat bench after

def executeFlashInner : Flash Unit := do
  safetyValidation bench config
  changeSession bench .extended
  recovering (do openProgramming bench config; download bench config) (bestEffortRecovery bench)

end Steps

/-- What is checked of the signature before any frame leaves. -/
def authenticity (config : FlashingConfig) : Except FlashError Unit :=
  if config.requireSignature then
    match config.firmwareSignature with
    | none => .error .signatureMissing
    | some [] => .error .signatureMissing
    | some signature =>
        match config.trustedPubkey with
        | none => .error .trustAnchorMissing
        | some verify =>
            if verify signature config.data then .ok () else .error .signatureInvalid
  else if config.firmwareSignature = some [] then .error .signatureInvalid
  else .ok ()

def executeFlash (bench : Bench) (config : FlashingConfig) : Flash Unit := do
  require (config.data ≠ []) .emptyData
  lift (authenticity config)
  require (¬ (config.requireTargetIdentity = true ∧ config.expectedVin = none ∧
    config.expectedSerial = none)) .targetIdentityRequired
  executeFlashInner bench config

end Ucanlab.Uds
