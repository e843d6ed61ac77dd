import Ucanlab.Safety.Confirmation
import Ucanlab.Uds.Flasher

/-!
The reprogramming sequence with what every request presents to the gateway: the flag of a
critical command, the confirmation of the operator, and a token with its context. Requests
and answers are those of the plain sequence.
-/

namespace Ucanlab.Uds

open Ucanlab Dialogue UdsServiceBuilder

structure TokenCall where
  arbitrationId : Nat
  payloadHash : Option Bytes := none
  context : Option (List Char) := none
  deriving DecidableEq

/-- The factory of tokens, handed to the engine, where it also binds a token to a frame, or
kept in the configuration. It may mint another token at every call. -/
structure TokenFactory where
  ownedByEngine : Bool
  mint : Nat → TokenCall → Safety.TokenInput
  digests : Digests

structure MintedToken where
  serial : Nat
  call : TokenCall
  value : Safety.TokenInput
  deriving DecidableEq

inductive TokenSource where
  | ready (token : MintedToken)
  | minter (context : List Char)

/-- The arguments of a client call that go to the gateway. -/
structure Confirmation where
  userConfirmed : Bool := false
  source : Option TokenSource := none
  context : Option (List Char) := none

structure Presented where
  request : Bytes
  firstFrame : Bytes
  isCriticalCommand : Bool
  userConfirmed : Bool
  token : Option MintedToken
  context : Option (List Char)
  deriving DecidableEq

structure ConfirmedState where
  flash : FlashState := {}
  minted : Nat := 0
  presented : List Presented := []

abbrev ConfirmedFlash := Dialogue ConfirmedState FlashError

/-- What the keep-alive beside the run sends, with no confirmation at all. -/
def buildTesterPresent (suppressPositiveResponse : Bool) : Bytes :=
  [0x3E, if suppressPositiveResponse then 0x80 else 0x00]

/-- A part of the sequence that hands nothing to the gateway. -/
def plainly {α : Type} (program : Flash α) : ConfirmedFlash α := fun state =>
  ((program state.flash).1, { state with flash := (program state.flash).2 })

namespace Confirmed

/-- `{address:#x}`. -/
def hexAddress (address : Int) : List Char :=
  (if address < 0 then ['-'] else []) ++ ['0', 'x'] ++ Nat.toDigits 16 address.natAbs

def expectedIdentity (config : FlashingConfig) : Option (List Char) :=
  match config.expectedVin with
  | some (first :: rest) => some (first :: rest)
  | _ => config.expectedSerial

def identityContext (config : FlashingConfig) : Option (List Char) :=
  match expectedIdentity config with
  | some (first :: rest) =>
      some (['f', 'l', 'a', 's', 'h', ':'] ++ (first :: rest) ++ ':' :: hexAddress config.memoryAddress)
  | _ => none

section Steps

variable (bench : Bench) (factory : TokenFactory) (config : FlashingConfig)

def confirmationContext : Option (List Char) :=
  if factory.ownedByEngine then identityContext config else none

def mintToken (call : TokenCall) (state : ConfirmedState) : MintedToken × ConfirmedState :=
  (⟨state.minted, call, factory.mint state.minted call⟩, { state with minted := state.minted + 1 })

def confirmationToken : ConfirmedFlash TokenSource :=
  match confirmationContext factory config with
  | some context => pure (.minter context)
  | none => fun state =>
      let (token, state) := mintToken factory { arbitrationId := bench.client.transport.txId } state
      (.ok (.ready token), state)

def confirming (userConfirmed : Bool) : ConfirmedFlash Confirmation := do
  let source ← confirmationToken bench factory config
  pure {
    userConfirmed := userConfirmed
    source := some source
    context := confirmationContext factory config }

def tokenFor (firstFrame : Bytes) (source : Option TokenSource) (state : ConfirmedState) :
    Option MintedToken × ConfirmedState :=
  match source with
  | none => (none, state)
  | some (.ready token) => (some token, state)
  | some (.minter context) =>
      let (token, state) := mintToken factory {
        arbitrationId := bench.client.transport.txId
        payloadHash := some ((factory.digests.sha256 firstFrame).take 8)
        context := some context } state
      (some token, state)

/-- `_send_payload` and the answer to it. -/
def sendAndReceive (isCriticalCommand : Bool) (confirmation : Confirmation) (payload : Bytes) :
    ConfirmedFlash UdsResponse :=
  match bench.client.transport.segmentMessage payload bench.client.isFd (some bench.client.brs) with
  | .error error => fail (.client (.segmentation error))
  | .ok frames => fun state =>
      let firstFrame := (frames.head?.map (fun frame => frame.data)).getD []
      let (token, state) := tokenFor bench factory firstFrame confirmation.source state
      let (result, flash) := exchange bench payload state.flash
      (result, { state with
        flash := flash
        presented := state.presented ++ [{
          request := payload
          firstFrame := firstFrame
          isCriticalCommand := isCriticalCommand
          userConfirmed := confirmation.userConfirmed
          token := token
          context := if token.isSome then confirmation.context else none }] })

def demandOr (isCriticalCommand : Bool) (confirmation : Confirmation)
    (refusal : UdsResponse → FlashError) (built : Except BuildError Bytes) :
    ConfirmedFlash UdsResponse := do
  let payload ← lift (built.mapError .build)
  let response ← sendAndReceive bench factory isCriticalCommand confirmation payload
  require (response.isPositive = true) (refusal response)
  pure response

def readDid (refusal : UdsResponse → FlashError) (did : Int) : ConfirmedFlash UdsResponse :=
  demandOr bench factory false {} refusal (buildReadDataByIdentifier did)

def criticalStep (service : UInt8) (userConfirmed : Bool) (built : Except BuildError Bytes) :
    ConfirmedFlash UdsResponse := do
  let confirmation ← confirming bench factory config userConfirmed
  demandOr bench factory true confirmation (fun response => .rejected service response.nrc) built

def changeSession (sessionType : DiagnosticSessionType) : ConfirmedFlash Unit := do
  plainly (checkCancelled bench)
  let _ ← criticalStep bench factory config diagnosticSessionControl true
    (.ok (buildDiagnosticSessionControl sessionType))
  pure ()

def verifyIdentity (did : Int) : Option (List Char) → ConfirmedFlash Unit
  | none => pure ()
  | some expected => do
      let response ← readDid bench factory
        (fun response => .rejected readDataByIdentifier response.nrc) did
      let actual := identityText did response.data
      require (actual = expected) (.identityMismatch did actual)

def verifyVersion : ConfirmedFlash Unit :=
  if config.minVersion > 0 then do
    let response ← readDid bench factory (fun _ => .rollbackUnverifiable) config.versionDid
    let version ← lift (parseEcuVersion response.data)
    match version with
    | none => fail .rollbackUnverifiable
    | some current =>
        require (config.minVersion ≤ current) (.rollbackDenied current config.minVersion)
  else pure ()

def unlock : ConfirmedFlash Unit :=
  if config.keyDerivation.isSome ∨ config.securityKey.isSome then do
    let level := config.effectiveProgrammingSecurityLevel
    plainly (checkCancelled bench)
    let seed ← criticalStep bench factory config securityAccess config.userConfirmed
      (buildSecurityAccessRequestSeed level)
    let key ← lift (keyFor config level seed.data)
    let _ ← criticalStep bench factory config securityAccess config.userConfirmed
      (buildSecurityAccessSendKey level key)
    pure ()
  else pure ()

def eraseMemory : ConfirmedFlash Unit :=
  match config.eraseRoutineId with
  | none => pure ()
  | some routineId => do
      plainly (checkCancelled bench)
      let _ ← criticalStep bench factory config routineControl config.userConfirmed
        (buildRoutineControl .startRoutine routineId config.eraseRoutineOptions)
      pure ()

def requestDownload : ConfirmedFlash Nat := do
  plainly (checkCancelled bench)
  let response ← criticalStep bench factory config requestDownloadService config.userConfirmed
    (buildRequestDownload config.memoryAddress config.data.length)
  let maxBlockLen ← lift (parseMaxBlockLength response.data)
  pure (min config.blockSize.toNat (max (maxBlockLen - 2) 1))

def transferBlocks (blockSize : Nat) : Nat → Nat → Nat → Nat → ConfirmedFlash Unit
  | 0, _, _, _ => pure ()
  | fuel + 1, bytesSent, blockSeq, blocksSincePrecondition =>
      if bytesSent < config.data.length then do
        plainly (checkCancelled bench)
        let since ← plainly (recheckPreconditions bench blocksSincePrecondition)
        let chunk := (config.data.drop bytesSent).take blockSize
        let response ← criticalStep bench factory config transferDataService config.userConfirmed
          (buildTransferData blockSeq chunk)
        lift (blockEcho blockSeq response.data)
        transferBlocks blockSize fuel (bytesSent + chunk.length) ((blockSeq + 1) &&& 0xFF)
          (since + 1)
      else pure ()

def transferData (blockSize : Nat) : ConfirmedFlash Unit :=
  transferBlocks bench factory config blockSize config.data.length 0 1 0

def requestTransferExit : ConfirmedFlash Unit := do
  plainly (checkCancelled bench)
  let _ ← criticalStep bench factory config requestTransferExitService config.userConfirmed
    (.ok buildRequestTransferExit)
  pure ()

def awaitChecksum (deadline : Nat) : Nat → ConfirmedFlash Unit
  | 0 => fail .routineTimeout
  | polls + 1 => do
      let response ← criticalStep bench factory config routineControl config.userConfirmed
        (buildRoutineControl .requestRoutineResults config.checksumRoutineId [])
      let status ← lift (routineStatus config response.data)
      if status = 0x00 then pure ()
      else if status = 0x01 then do
        let now ← plainly (read FlashState.nowNs)
        require (now ≤ deadline) .routineTimeout
        plainly (sleep routinePollNs)
        awaitChecksum deadline polls
      else fail (.routineStatus status)

def verifyChecksum : ConfirmedFlash Unit := do
  require (config.verifyChecksum = true) .checksumBypassDenied
  plainly (checkCancelled bench)
  let _ ← criticalStep bench factory config routineControl config.userConfirmed
    (buildRoutineControl .startRoutine config.checksumRoutineId (natToBytes 4 (crc32 config.data)))
  let now ← plainly (read FlashState.nowNs)
  awaitChecksum bench factory config (now + routineTimeoutNs) routinePolls

def resetEcu : ConfirmedFlash Unit :=
  if config.resetAfterFlash then do
    plainly (checkCancelled bench)
    let _ ← criticalStep bench factory config ecuResetService config.userConfirmed
      (buildEcuReset config.resetType)
    pure ()
  else pure ()

def openProgramming : ConfirmedFlash Unit := do
  verifyIdentity bench factory vinDid config.expectedVin
  verifyIdentity bench factory serialDid config.expectedSerial
  verifyVersion bench factory config
  changeSession bench factory config .programming
  unlock bench factory config

def download : ConfirmedFlash Unit := do
  eraseMemory bench factory config
  let blockSize ← requestDownload bench factory config
  transferData bench factory config blockSize
  requestTransferExit bench factory config
  verifyChecksum bench factory config
  resetEcu bench factory config

def recoveryExit : ConfirmedFlash UdsResponse := do
  let confirmation ← confirming bench factory config config.userConfirmed
  sendAndReceive bench factory true confirmation buildRequestTransferExit

def retreat : ConfirmedFlash Unit := fun state =>
  (.ok (), (sendAndReceive bench factory false {} (buildDiagnosticSessionControl .default) state).2)

def bestEffortRecovery : ConfirmedFlash Unit := fun state =>
  match recoveryExit bench factory config state with
  | (.ok response, after) =>
      if response.isPositive then (.ok (), after) else retreat bench factory after
  | (.error _, after) => retreat bench factory after

/-- The run before the recovery is armed. -/
def enter : ConfirmedFlash Unit := do
  require (config.data ≠ []) .emptyData
  lift (authenticity config)
  require (¬ (config.requireTargetIdentity = true ∧ config.expectedVin = none ∧
    config.expectedSerial = none)) .targetIdentityRequired
  plainly (safetyValidation bench config)
  changeSession bench factory config .extended

def reprogram : ConfirmedFlash Unit := do
  openProgramming bench factory config
  download bench factory config

def executeFlash : ConfirmedFlash Unit := do
  enter bench factory config
  recovering (reprogram bench factory config) (bestEffortRecovery bench factory config)

end Steps

end Confirmed

end Ucanlab.Uds

/-!
The run with its confirmations is the run of the plain sequence: what goes to the gateway
beside a request changes no request and no answer.
-/

namespace Ucanlab.Uds

open Ucanlab Dialogue UdsServiceBuilder

namespace Confirmed

section Following

variable {bench : Bench} {factory : TokenFactory} {config : FlashingConfig}

theorem plainly_follows {α : Type} (program : Flash α) :
    Follows ConfirmedState.flash (plainly program) program := fun _ => ⟨rfl, rfl⟩

theorem tokenFor_flash (firstFrame : Bytes) (source : Option TokenSource) (state : ConfirmedState) :
    (tokenFor bench factory firstFrame source state).2.flash = state.flash := by
  unfold tokenFor
  split <;> rfl

theorem sendAndReceive_follows (isCriticalCommand : Bool) (confirmation : Confirmation)
    (payload : Bytes) : Follows ConfirmedState.flash
      (sendAndReceive bench factory isCriticalCommand confirmation payload)
      (exchange bench payload) := by
  intro state
  unfold sendAndReceive
  cases segmented : bench.client.transport.segmentMessage payload bench.client.isFd
      (some bench.client.brs) with
  | error error =>
      have refused : exchange bench payload = fail (.client (.segmentation error)) := by
        unfold exchange UdsClient.segment
        rw [segmented]
      rw [refused]
      exact ⟨rfl, rfl⟩
  | ok frames =>
      dsimp only
      rw [tokenFor_flash]
      exact ⟨rfl, rfl⟩

theorem demandOr_follows (isCriticalCommand : Bool) (confirmation : Confirmation)
    (refusal : UdsResponse → FlashError) (built : Except BuildError Bytes) :
    Follows ConfirmedState.flash
      (demandOr bench factory isCriticalCommand confirmation refusal built)
      (Uds.demandOr bench refusal built) := by
  have plain : Uds.demandOr bench refusal built = (do
      let payload ← lift (built.mapError .build)
      let response ← exchange bench payload
      require (response.isPositive = true) (refusal response)
      pure response) := by
    unfold Uds.demandOr request
    exact Dialogue.bind_assoc _ _ _
  rw [plain]
  refine Follows.lift.bind (fun payload => ?_)
  refine (sendAndReceive_follows isCriticalCommand confirmation payload).bind (fun response => ?_)
  exact Follows.require.bind (fun _ => Follows.pure)

theorem confirming_follows (userConfirmed : Bool) (state : ConfirmedState) :
    ∃ confirmation after, confirming bench factory config userConfirmed state =
      (.ok confirmation, after) ∧ after.flash = state.flash := by
  unfold confirming confirmationToken
  cases confirmationContext factory config with
  | none => exact ⟨_, _, rfl, rfl⟩
  | some context => exact ⟨_, _, rfl, rfl⟩

theorem criticalStep_follows (service : UInt8) (userConfirmed : Bool)
    (built : Except BuildError Bytes) : Follows ConfirmedState.flash
      (criticalStep bench factory config service userConfirmed built)
      (demand bench service built) := by
  intro state
  obtain ⟨confirmation, after, confirmed, same⟩ :=
    @confirming_follows bench factory config userConfirmed state
  have rest := @demandOr_follows bench factory true confirmation
    (fun response => .rejected service response.nrc) built after
  unfold criticalStep
  rw [bind_of_ok confirmed]
  rw [same] at rest
  exact rest

theorem changeSession_follows (sessionType : DiagnosticSessionType) :
    Follows ConfirmedState.flash (changeSession bench factory config sessionType)
      (Uds.changeSession bench sessionType) :=
  (plainly_follows _).bind (fun _ => (criticalStep_follows _ _ _).bind (fun _ => Follows.pure))

theorem verifyIdentity_follows (did : Int) (expected : Option (List Char)) :
    Follows ConfirmedState.flash (verifyIdentity bench factory did expected)
      (Uds.verifyIdentity bench did expected) := by
  cases expected with
  | none => exact Follows.pure
  | some text => exact (demandOr_follows _ _ _ _).bind (fun _ => Follows.require)

theorem verifyVersion_follows : Follows ConfirmedState.flash (verifyVersion bench factory config)
    (Uds.verifyVersion bench config) := by
  unfold verifyVersion Uds.verifyVersion
  split
  · refine (demandOr_follows _ _ _ _).bind (fun response => ?_)
    refine Follows.lift.bind (fun version => ?_)
    cases version with
    | none => exact Follows.fail
    | some current => exact Follows.require
  · exact Follows.pure

theorem unlock_follows : Follows ConfirmedState.flash (unlock bench factory config)
    (Uds.unlock bench config) := by
  unfold unlock Uds.unlock
  split
  · refine (plainly_follows _).bind (fun _ => ?_)
    refine (criticalStep_follows _ _ _).bind (fun seed => ?_)
    refine Follows.lift.bind (fun key => ?_)
    exact (criticalStep_follows _ _ _).bind (fun _ => Follows.pure)
  · exact Follows.pure

theorem eraseMemory_follows : Follows ConfirmedState.flash (eraseMemory bench factory config)
    (Uds.eraseMemory bench config) := by
  unfold eraseMemory Uds.eraseMemory
  cases config.eraseRoutineId with
  | none => exact Follows.pure
  | some routineId =>
      refine (plainly_follows _).bind (fun _ => ?_)
      exact (criticalStep_follows _ _ _).bind (fun _ => Follows.pure)

theorem requestDownload_follows :
    Follows ConfirmedState.flash (requestDownload bench factory config)
      (Uds.requestDownload bench config) := by
  refine (plainly_follows _).bind (fun _ => ?_)
  refine (criticalStep_follows _ _ _).bind (fun response => ?_)
  exact Follows.lift.bind (fun _ => Follows.pure)

theorem transferBlocks_follows (blockSize fuel bytesSent blockSeq since : Nat) :
    Follows ConfirmedState.flash
      (transferBlocks bench factory config blockSize fuel bytesSent blockSeq since)
      (Uds.transferBlocks bench config blockSize fuel bytesSent blockSeq since) := by
  induction fuel generalizing bytesSent blockSeq since with
  | zero => exact Follows.pure
  | succ fuel ih =>
      unfold transferBlocks Uds.transferBlocks
      split
      · refine (plainly_follows _).bind (fun _ => ?_)
        refine (plainly_follows _).bind (fun since => ?_)
        refine (criticalStep_follows _ _ _).bind (fun response => ?_)
        exact Follows.lift.bind (fun _ => ih _ _ _)
      · exact Follows.pure

theorem requestTransferExit_follows :
    Follows ConfirmedState.flash (requestTransferExit bench factory config)
      (Uds.requestTransferExit bench) :=
  (plainly_follows _).bind (fun _ => (criticalStep_follows _ _ _).bind (fun _ => Follows.pure))

theorem awaitChecksum_follows (deadline polls : Nat) :
    Follows ConfirmedState.flash (awaitChecksum bench factory config deadline polls)
      (Uds.awaitChecksum bench config deadline polls) := by
  induction polls with
  | zero => exact Follows.fail
  | succ polls ih =>
      refine (criticalStep_follows _ _ _).bind (fun response => ?_)
      refine Follows.lift.bind (fun status => ?_)
      split
      · exact Follows.pure
      · split
        · refine (plainly_follows _).bind (fun now => ?_)
          refine Follows.require.bind (fun _ => ?_)
          exact (plainly_follows _).bind (fun _ => ih)
        · exact Follows.fail

theorem verifyChecksum_follows : Follows ConfirmedState.flash (verifyChecksum bench factory config)
    (Uds.verifyChecksum bench config) := by
  refine Follows.require.bind (fun _ => ?_)
  refine (plainly_follows _).bind (fun _ => ?_)
  refine (criticalStep_follows _ _ _).bind (fun _ => ?_)
  exact (plainly_follows _).bind (fun _ => awaitChecksum_follows _ _)

theorem resetEcu_follows : Follows ConfirmedState.flash (resetEcu bench factory config)
    (Uds.resetEcu bench config) := by
  unfold resetEcu Uds.resetEcu
  split
  · refine (plainly_follows _).bind (fun _ => ?_)
    exact (criticalStep_follows _ _ _).bind (fun _ => Follows.pure)
  · exact Follows.pure

theorem openProgramming_follows :
    Follows ConfirmedState.flash (openProgramming bench factory config)
      (Uds.openProgramming bench config) := by
  refine (verifyIdentity_follows _ _).bind (fun _ => ?_)
  refine (verifyIdentity_follows _ _).bind (fun _ => ?_)
  refine verifyVersion_follows.bind (fun _ => ?_)
  exact (changeSession_follows _).bind (fun _ => unlock_follows)

theorem download_follows : Follows ConfirmedState.flash (download bench factory config)
    (Uds.download bench config) := by
  refine eraseMemory_follows.bind (fun _ => ?_)
  refine requestDownload_follows.bind (fun blockSize => ?_)
  refine (transferBlocks_follows _ _ _ _ _).bind (fun _ => ?_)
  refine requestTransferExit_follows.bind (fun _ => ?_)
  exact verifyChecksum_follows.bind (fun _ => resetEcu_follows)

theorem recoveryExit_follows : Follows ConfirmedState.flash (recoveryExit bench factory config)
    (exchange bench buildRequestTransferExit) := by
  intro state
  obtain ⟨confirmation, after, confirmed, same⟩ :=
    @confirming_follows bench factory config config.userConfirmed state
  have rest := @sendAndReceive_follows bench factory true confirmation buildRequestTransferExit after
  unfold recoveryExit
  rw [bind_of_ok confirmed]
  rw [same] at rest
  exact rest

end Following

/-- The run before the recovery is armed, without what it presents. -/
def plainEnter (bench : Bench) (config : FlashingConfig) : Flash Unit := do
  require (config.data ≠ []) .emptyData
  lift (authenticity config)
  require (¬ (config.requireTargetIdentity = true ∧ config.expectedVin = none ∧
    config.expectedSerial = none)) .targetIdentityRequired
  safetyValidation bench config
  Uds.changeSession bench .extended

def plainReprogram (bench : Bench) (config : FlashingConfig) : Flash Unit := do
  Uds.openProgramming bench config
  Uds.download bench config

section Runs

variable {bench : Bench} {factory : TokenFactory} {config : FlashingConfig}

theorem enter_follows : Follows ConfirmedState.flash (enter bench factory config)
    (plainEnter bench config) := by
  refine Follows.require.bind (fun _ => ?_)
  refine Follows.lift.bind (fun _ => ?_)
  refine Follows.require.bind (fun _ => ?_)
  exact (plainly_follows _).bind (fun _ => changeSession_follows _)

theorem reprogram_follows : Follows ConfirmedState.flash (reprogram bench factory config)
    (plainReprogram bench config) :=
  openProgramming_follows.bind (fun _ => download_follows)

theorem retreat_follows : Follows ConfirmedState.flash (retreat bench factory)
    (Uds.retreat bench) :=
  fun state => ⟨rfl, (sendAndReceive_follows _ _ _ state).2⟩

theorem bestEffortRecovery_follows :
    Follows ConfirmedState.flash (bestEffortRecovery bench factory config)
      (Uds.bestEffortRecovery bench) := by
  intro state
  obtain ⟨result, shown⟩ := @recoveryExit_follows bench factory config state
  unfold bestEffortRecovery Uds.bestEffortRecovery
  cases ran : recoveryExit bench factory config state with
  | mk outcome after =>
      rw [ran] at result shown
      have plain : exchange bench buildRequestTransferExit state.flash = (outcome, after.flash) :=
        Prod.ext result.symm shown.symm
      rw [plain]
      cases outcome with
      | error error => exact retreat_follows after
      | ok response =>
          dsimp only
          split
          · exact ⟨rfl, rfl⟩
          · exact retreat_follows after

end Runs

end Confirmed

end Ucanlab.Uds
