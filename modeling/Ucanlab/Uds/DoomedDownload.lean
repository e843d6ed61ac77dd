import Ucanlab.Uds.VerifiedReset

/-!
Which configurations fail behind the erase for a reason that the configuration alone decides.
-/

namespace Ucanlab.Uds

open Ucanlab Dialogue UdsServiceBuilder

def eraseRequest (config : FlashingConfig) : Option Bytes :=
  match config.eraseRoutineId with
  | none => none
  | some routineId =>
      (buildRoutineControl .startRoutine routineId config.eraseRoutineOptions).toOption

/-- The requests before the erase can be built and sent, for a transport with the given cap. -/
structure Opens (cap : Nat) (config : FlashingConfig) : Prop where
  authentic : authenticity config = .ok ()
  identified : ¬ (config.requireTargetIdentity = true ∧ config.expectedVin = none ∧
    config.expectedSerial = none)
  confirmed : config.userConfirmed = true
  version : config.minVersion > 0 → 0 ≤ config.versionDid ∧ config.versionDid ≤ 0xFFFF
  level : config.keyDerivation.isSome ∨ config.securityKey.isSome →
    1 ≤ config.effectiveProgrammingSecurityLevel ∧ config.effectiveProgrammingSecurityLevel ≤ 0x7D
  key : config.keyDerivation = none → ∀ key, config.securityKey = some key → key.length + 2 ≤ cap

structure ReachesErase (cap : Nat) (config : FlashingConfig) : Prop extends Opens cap config where
  erases : ∃ routineId, config.eraseRoutineId = some routineId ∧ 0 ≤ routineId ∧ routineId ≤ 0xFFFF
  options : config.eraseRoutineOptions.length + 4 ≤ cap

/-- Every request behind the erase can be built, and the verification is on. -/
structure Downloadable (config : FlashingConfig) : Prop where
  address : 0 ≤ config.memoryAddress ∧ config.memoryAddress < 2 ^ 32
  size : config.data.length < 2 ^ 32
  checksum : config.verifyChecksum = true
  routine : 0 ≤ config.checksumRoutineId ∧ config.checksumRoutineId ≤ 0xFFFF
  reset : config.resetAfterFlash = true →
    config.resetType = 0x01 ∨ config.resetType = 0x02 ∨ config.resetType = 0x03

def Doomed (cap : Nat) (config : FlashingConfig) : Prop :=
  ReachesErase cap config ∧ ¬ Downloadable config

def FailsLate (bench : Bench) (config : FlashingConfig) : Prop :=
  ∃ erase error, eraseRequest config = some erase ∧
    (∃ entry ∈ (executeFlash bench config {}).2.log, entry.request = erase) ∧
    (executeFlash bench config {}).1 = .error error ∧ error.fromConfig = true

section Blame

variable {bench : Bench} {config : FlashingConfig}

def Blames (config : FlashingConfig) (error : FlashError) : Prop :=
  error.fromConfig = true → ¬ Downloadable config

theorem fromConfig_client {error : UdsError} (decided : (FlashError.client error).fromConfig = true) :
    ∃ requested maxSize, error = .segmentation (.payloadTooLarge requested maxSize) := by
  cases error with
  | segmentation cause =>
      cases cause with
      | payloadTooLarge requested maxSize => exact ⟨requested, maxSize, rfl⟩
      | classicEscapeAddressing => cases decided
      | frame cause => cases decided
  | refused refusal => cases decided
  | malformed cause => cases decided
  | timeout count => cases decided
  | pendingBudget count => cases decided

/-- What a failure or a success of a request says about the request. -/
theorem demandOr_returns {refusal : UdsResponse → FlashError}
    (external : ∀ response, (refusal response).fromConfig = false)
    (built : Except BuildError Bytes) :
    Returns (fun error => error.fromConfig = true → (∃ cause, built = .error cause) ∨
        ∃ payload, built = .ok payload ∧ bench.client.payloadCap < payload.length)
      (fun _ => ∃ payload, built = .ok payload ∧ payload.length ≤ bench.client.payloadCap)
      (demandOr bench refusal built) := by
  apply (demandOr_leaves external built).returns
  · intro added error demanded decided
    cases demanded with
    | unbuilt cause refused => exact Or.inl ⟨cause, refused⟩
    | unsegmented payload cause shape refused =>
        obtain ⟨requested, maxSize, rfl⟩ := fromConfig_client decided
        refine Or.inr ⟨payload, shape, ?_⟩
        by_contra fits
        exact UdsClient.segment_withinCap (Nat.le_of_not_lt fits) refused
    | failed entry error shape segmented answers unaccepted external =>
        rw [external] at decided
        cases decided
  · intro added response demanded
    cases demanded with
    | answered entry response shape segmented answers outcome positive =>
        exact ⟨entry.request, shape, UdsClient.segment_fits segmented⟩

theorem demand_blames {service : UInt8} {built : Except BuildError Bytes}
    (builds : Downloadable config → ∃ payload, built = .ok payload ∧
      payload.length ≤ bench.client.payloadCap) :
    Returns (Blames config) (fun _ => True) (demand bench service built) := by
  apply (demandOr_returns (fun _ => rfl) built).weaken
  · intro error cause decided able
    obtain ⟨payload, shape, fits⟩ := builds able
    rcases cause decided with ⟨other, refused⟩ | ⟨other, same, long⟩
    · rw [shape] at refused
      cases refused
    · rw [shape] at same
      cases same
      omega
  · intro _ _
    trivial

theorem checkCancelled_blames : Returns (Blames config) (fun _ => True) (checkCancelled bench) := by
  intro state
  unfold checkCancelled
  dsimp only
  split
  · rename_i error failed
    split at failed
    · cases failed
      intro decided
      cases decided
    · cases failed
  · trivial

theorem gatewayRefusal_external {status : GatewayStatus} {error : FlashError}
    (refused : gatewayRefusal status = .error error) : error.fromConfig = false := by
  unfold gatewayRefusal at refused
  split at refused
  · cases refused
    rfl
  · split at refused
    · cases refused
      rfl
    · split at refused
      · cases refused
        rfl
      · split at refused
        · cases refused
          rfl
        · cases refused

theorem recheckPreconditions_blames {since : Nat} :
    Returns (Blames config) (fun _ => True) (recheckPreconditions bench since) := by
  unfold recheckPreconditions
  split
  · apply Returns.bind (P := fun _ => True)
    · intro state
      have outcome : (assertGatewayPreconditions bench state).1 =
        gatewayRefusal (bench.gateway state.consulted) := rfl
      rw [outcome]
      cases refused : gatewayRefusal (bench.gateway state.consulted) with
      | error error =>
          intro decided
          rw [gatewayRefusal_external refused] at decided
          cases decided
      | ok _ => trivial
    · intro _ _
      exact Returns.pure trivial
  · exact Returns.pure trivial

theorem payloadCap_large (bench : Bench) : 4096 ≤ bench.client.payloadCap := by
  unfold UdsClient.payloadCap
  split
  · decide
  · decide

theorem parseMaxBlockLength_ok {data : Bytes} {length : Nat}
    (parsed : parseMaxBlockLength data = .ok length) : length ≤ 4096 := by
  cases data with
  | nil => cases parsed
  | cons lengthFormat rest =>
      unfold parseMaxBlockLength at parsed
      dsimp only at parsed
      split at parsed
      · cases parsed
      · split at parsed
        · cases parsed
        · split at parsed
          · cases parsed
          · split at parsed
            · cases parsed
              exact Nat.le_refl _
            · rename_i small
              cases parsed
              exact Nat.le_of_not_lt small

theorem parseMaxBlockLength_external {data : Bytes} {error : FlashError}
    (failed : parseMaxBlockLength data = .error error) : error.fromConfig = false := by
  cases data with
  | nil =>
      cases failed
      rfl
  | cons lengthFormat rest =>
      unfold parseMaxBlockLength at failed
      dsimp only at failed
      split at failed
      · cases failed
        rfl
      · split at failed
        · cases failed
          rfl
        · split at failed
          · cases failed
            rfl
          · split at failed
            · cases failed
            · cases failed

theorem downloadRequest_built (able : Downloadable config) : ∃ payload,
    buildRequestDownload config.memoryAddress config.data.length = .ok payload ∧
      payload.length = 11 := by
  refine ⟨_, buildRequestDownload_eq_ok.mpr ⟨⟨able.address, ?_, ?_⟩, rfl⟩, ?_⟩
  · exact Int.natCast_nonneg _
  · exact Int.ofNat_lt.mpr able.size
  · simp

theorem requestDownload_blames :
    Returns (Blames config) (fun blockSize => blockSize ≤ 4094) (requestDownload bench config) := by
  have large := payloadCap_large bench
  apply checkCancelled_blames.bind
  intro _ _
  apply Returns.bind (P := fun _ => True)
  · apply demand_blames
    intro able
    obtain ⟨payload, built, length⟩ := downloadRequest_built able
    exact ⟨payload, built, by omega⟩
  · intro response _
    apply Returns.bind (P := fun length => length ≤ 4096)
    · apply Returns.lift
      · intro error failed decided
        rw [parseMaxBlockLength_external failed] at decided
        cases decided
      · intro length parsed
        exact parseMaxBlockLength_ok parsed
    · intro length bounded
      apply Returns.pure
      omega

theorem blockEcho_external {blockSeq : Nat} {data : Bytes} {error : FlashError}
    (failed : blockEcho blockSeq data = .error error) : error.fromConfig = false := by
  cases data with
  | nil =>
      cases failed
      rfl
  | cons echo rest =>
      change (if echo ≠ UInt8.ofNat (blockSeq &&& 0xFF) then Except.error _ else Except.ok ()) =
        Except.error error at failed
      split at failed
      · cases failed
        rfl
      · cases failed

theorem transferBlocks_blames {blockSize : Nat} (bounded : blockSize ≤ 4094)
    (fuel sent counter since : Nat) (small : counter < 256) :
    Returns (Blames config) (fun _ => True)
      (transferBlocks bench config blockSize fuel sent counter since) := by
  have large := payloadCap_large bench
  induction fuel generalizing sent counter since with
  | zero => exact Returns.pure trivial
  | succ fuel ih =>
      unfold transferBlocks
      split
      · apply checkCancelled_blames.bind
        intro _ _
        apply recheckPreconditions_blames.bind
        intro since _
        apply Returns.bind (P := fun _ => True)
        · apply demand_blames
          intro _
          refine ⟨_, buildTransferData_eq_ok.mpr ⟨⟨by omega, by omega⟩, rfl⟩, ?_⟩
          rw [List.length_append, List.length_take]
          simp only [List.length_cons, List.length_nil]
          omega
        · intro response _
          apply Returns.bind (P := fun _ => True)
          · apply Returns.lift
            · intro error failed decided
              rw [blockEcho_external failed] at decided
              cases decided
            · intro _ _
              trivial
          · intro _ _
            apply ih
            rw [Nat.and_two_pow_sub_one_eq_mod _ 8]
            exact Nat.mod_lt _ (by decide)
      · exact Returns.pure trivial

theorem requestTransferExit_blames :
    Returns (Blames config) (fun _ => True) (requestTransferExit bench) := by
  have large := payloadCap_large bench
  apply checkCancelled_blames.bind
  intro _ _
  apply Returns.bind (P := fun _ => True)
  · apply demand_blames
    intro _
    refine ⟨_, rfl, ?_⟩
    exact Nat.le_trans (by decide) large
  · intro _ _
    exact Returns.pure trivial

theorem routineRequest_built (able : Downloadable config) (controlType : RoutineControlType)
    (options : Bytes) : ∃ payload,
    buildRoutineControl controlType config.checksumRoutineId options = .ok payload ∧
      payload.length = 4 + options.length := by
  refine ⟨_, buildRoutineControl_eq_ok.mpr ⟨able.routine, rfl⟩, ?_⟩
  rw [List.length_append]
  rfl

theorem routineStatus_external {data : Bytes} {error : FlashError}
    (failed : routineStatus config data = .error error) : error.fromConfig = false := by
  unfold routineStatus at failed
  split at failed
  · cases failed
    rfl
  · split at failed
    · cases failed
      rfl
    · split at failed
      · cases failed
        rfl
      · cases failed

theorem awaitChecksum_blames (deadline polls : Nat) :
    Returns (Blames config) (fun _ => True) (awaitChecksum bench config deadline polls) := by
  have large := payloadCap_large bench
  induction polls with
  | zero => exact Returns.fail (fun decided => by cases decided)
  | succ polls ih =>
      unfold awaitChecksum
      apply Returns.bind (P := fun _ => True)
      · apply demand_blames
        intro able
        obtain ⟨payload, built, length⟩ := routineRequest_built able .requestRoutineResults []
        rw [List.length_nil] at length
        exact ⟨payload, built, by omega⟩
      · intro response _
        apply Returns.bind (P := fun _ => True)
        · apply Returns.lift
          · intro error failed decided
            rw [routineStatus_external failed] at decided
            cases decided
          · intro _ _
            trivial
        · intro status _
          split
          · exact Returns.pure trivial
          · split
            · apply Returns.read.bind
              intro now _
              apply (Returns.require (fun _ decided => by cases decided)).bind
              intro _ _
              apply Returns.update.bind
              intro _ _
              exact ih
            · exact Returns.fail (fun decided => by cases decided)

theorem verifyChecksum_blames :
    Returns (Blames config) (fun _ => True) (verifyChecksum bench config) := by
  have large := payloadCap_large bench
  apply (Returns.require (fun off _ able => off able.checksum)).bind
  intro _ _
  apply checkCancelled_blames.bind
  intro _ _
  apply Returns.bind (P := fun _ => True)
  · apply demand_blames
    intro able
    obtain ⟨payload, built, length⟩ := routineRequest_built able .startRoutine
      (natToBytes 4 (crc32 config.data))
    rw [natToBytes_length] at length
    exact ⟨payload, built, by omega⟩
  · intro _ _
    apply Returns.read.bind
    intro now _
    exact awaitChecksum_blames _ _

theorem resetEcu_blames : Returns (Blames config) (fun _ => True) (resetEcu bench config) := by
  have large := payloadCap_large bench
  unfold resetEcu
  split
  · rename_i resets
    apply checkCancelled_blames.bind
    intro _ _
    apply Returns.bind (P := fun _ => True)
    · apply demand_blames
      intro able
      refine ⟨_, buildEcuReset_eq_ok.mpr ⟨able.reset resets, rfl⟩, ?_⟩
      exact Nat.le_trans (Nat.le_of_ble_eq_true rfl) large
    · intro _ _
      exact Returns.pure trivial
  · exact Returns.pure trivial

theorem afterErase_blames : Returns (Blames config) (fun _ => True) (do
    let blockSize ← requestDownload bench config
    transferData bench config blockSize
    requestTransferExit bench
    verifyChecksum bench config
    resetEcu bench config) := by
  apply requestDownload_blames.bind
  intro blockSize bounded
  apply (transferBlocks_blames bounded _ _ _ _ (by decide)).bind
  intro _ _
  apply requestTransferExit_blames.bind
  intro _ _
  apply verifyChecksum_blames.bind
  intro _ _
  exact resetEcu_blames

theorem afterErase_leaves : Leaves FlashState.log (do
    let blockSize ← requestDownload bench config
    transferData bench config blockSize
    requestTransferExit bench
    verifyChecksum bench config
    resetEcu bench config) (fun _ _ => True) := by
  apply requestDownload_quiet.bind (fun _ _ _ => trivial)
  rintro _ blockSize ⟨_, positive⟩
  apply (transferBlocks_leaves (positive blockSize rfl) config.data.length 0 1 0
    (by rw [Nat.zero_add]) (by decide)).bind (fun _ _ _ => trivial)
  intro _ _ _
  apply requestTransferExit_leaves.bind (fun _ _ _ => trivial)
  intro _ _ _
  apply verifyChecksum_leaves.bind (fun _ _ _ => trivial)
  intro _ _ _
  exact resetEcu_leaves.weaken (fun _ _ _ => trivial)

end Blame

section Erase

variable {bench : Bench} {config : FlashingConfig}

def Erased (config : FlashingConfig) (log : List Exchange) : Prop :=
  ∃ erase, eraseRequest config = some erase ∧ ∃ entry ∈ log, entry.request = erase

theorem eraseRequest_service {erase : Bytes} (request : eraseRequest config = some erase) :
    erase.head? = some routineControl := by
  unfold eraseRequest at request
  split at request
  · cases request
  · rename_i routineId _
    cases built : buildRoutineControl .startRoutine routineId config.eraseRoutineOptions with
    | error error =>
        rw [built] at request
        cases request
    | ok payload =>
        rw [built] at request
        cases request
        rw [(buildRoutineControl_eq_ok.mp built).2]
        rfl

theorem not_erased {log : List Exchange}
    (other : ∀ entry ∈ log, entry.service ≠ some routineControl) : ¬ Erased config log := by
  rintro ⟨erase, request, entry, member, same⟩
  apply other entry member
  unfold Exchange.service
  rw [same]
  exact eraseRequest_service request

theorem not_erased_opening {log : List Exchange} (opening : ∀ entry ∈ log, entry.Opening) :
    ¬ Erased config log := by
  apply not_erased
  intro entry member
  rcases opening entry member with session | read | access
  · rw [session]
    decide
  · rw [read]
    decide
  · rw [access]
    decide

theorem Erased.append {front back : List Exchange} (erased : Erased config (front ++ back)) :
    Erased config front ∨ Erased config back := by
  obtain ⟨erase, request, entry, member, same⟩ := erased
  rcases List.mem_append.mp member with early | late
  · exact Or.inl ⟨erase, request, entry, early, same⟩
  · exact Or.inr ⟨erase, request, entry, late, same⟩

theorem safetyValidation_returns :
    Returns (fun _ => True) (fun _ => config.userConfirmed = true)
      (safetyValidation bench config) := by
  apply (Returns.require (fun _ => trivial)).bind
  intro _ confirmed state
  split
  · trivial
  · exact confirmed

theorem verifyVersion_returns :
    Returns (fun _ => True) (fun _ => config.minVersion > 0 →
      0 ≤ config.versionDid ∧ config.versionDid ≤ 0xFFFF) (verifyVersion bench config) := by
  unfold verifyVersion
  split
  · apply Returns.bind (P := fun _ => 0 ≤ config.versionDid ∧ config.versionDid ≤ 0xFFFF)
    · apply (demandOr_returns (fun _ => rfl) _).weaken (fun _ _ => trivial)
      rintro _ ⟨payload, built, _⟩
      exact (buildReadDataByIdentifier_eq_ok.mp built).1
    · intro response range
      apply (Returns.lift (P := fun _ => True) (fun _ _ => trivial) (fun _ _ => trivial)).bind
      intro version _
      cases version with
      | none => exact Returns.fail trivial
      | some current =>
          exact (Returns.require (F := fun _ => True) (fun _ => trivial)).weaken
            (fun _ _ => trivial) (fun _ _ _ => range)
  · rename_i floorless
    exact Returns.pure (fun floor => absurd floor floorless)

theorem keyFor_static {level : Int} {data key : Bytes} (static : config.keyDerivation = none)
    (derived : keyFor config level data = .ok key) : key = config.securityKey.getD [] := by
  cases data with
  | nil => cases derived
  | cons echo seed =>
      unfold keyFor at derived
      rw [static] at derived
      dsimp only at derived
      split at derived
      · cases derived
      · cases derived
        rfl

theorem unlock_returns :
    Returns (fun _ => True) (fun _ =>
      (config.keyDerivation.isSome ∨ config.securityKey.isSome →
        1 ≤ config.effectiveProgrammingSecurityLevel ∧
          config.effectiveProgrammingSecurityLevel ≤ 0x7D) ∧
      (config.keyDerivation = none → ∀ key, config.securityKey = some key →
        key.length + 2 ≤ bench.client.payloadCap)) (unlock bench config) := by
  unfold unlock
  split
  · apply Returns.bind (P := fun _ => True)
    · exact Returns.anyway
    · intro _ _
      apply ((demandOr_returns (fun _ => rfl) _).weaken (G := fun _ => True)
        (Q := fun _ => True) (fun _ _ => trivial) (fun _ _ => trivial)).bind
      intro seed _
      apply Returns.bind (P := fun key =>
        keyFor config config.effectiveProgrammingSecurityLevel seed.data = .ok key)
      · exact Returns.lift (fun _ _ => trivial) (fun _ derived => derived)
      · intro key derived
        apply Returns.bind (P := fun _ => ∃ payload,
          buildSecurityAccessSendKey config.effectiveProgrammingSecurityLevel key = .ok payload ∧
            payload.length ≤ bench.client.payloadCap)
        · exact (demandOr_returns (fun _ => rfl) _).weaken (fun _ _ => trivial) (fun _ holds => holds)
        · rintro _ ⟨payload, built, fits⟩
          obtain ⟨range, shape⟩ := buildSecurityAccessSendKey_eq_ok.mp built
          apply Returns.pure
          refine ⟨fun _ => range, ?_⟩
          intro static key' configured
          have same := keyFor_static static derived
          rw [configured] at same
          rw [shape, List.length_append, same] at fits
          rw [Nat.add_comm]
          exact fits
  · rename_i keyless
    apply Returns.pure
    refine ⟨fun keyed => absurd keyed keyless, ?_⟩
    intro _ key configured
    refine absurd (Or.inr ?_) keyless
    rw [configured]
    rfl

theorem eraseMemory_leaves :
    Leaves FlashState.log (eraseMemory bench config) (fun added result =>
      (added = [] ∧ (result = .ok () → eraseRequest config = none)) ∨
      (∃ entry, added = [entry] ∧ eraseRequest config = some entry.request ∧
        (∃ routineId, config.eraseRoutineId = some routineId ∧ 0 ≤ routineId ∧
          routineId ≤ 0xFFFF) ∧
        config.eraseRoutineOptions.length + 4 ≤ bench.client.payloadCap ∧
        ∀ error, result = .error error → error.fromConfig = false)) := by
  have sent {routineId : Int} {entry : Exchange} (configured : config.eraseRoutineId = some routineId)
      (shape : buildRoutineControl .startRoutine routineId config.eraseRoutineOptions =
        .ok entry.request) (segmented : bench.client.segment entry.request = .ok ()) :
      eraseRequest config = some entry.request ∧
        (∃ routineId, config.eraseRoutineId = some routineId ∧ 0 ≤ routineId ∧
          routineId ≤ 0xFFFF) ∧
        config.eraseRoutineOptions.length + 4 ≤ bench.client.payloadCap := by
    obtain ⟨range, bytes⟩ := buildRoutineControl_eq_ok.mp shape
    refine ⟨?_, ⟨routineId, configured, range⟩, ?_⟩
    · unfold eraseRequest
      rw [configured]
      dsimp only
      rw [shape]
      rfl
    · have fits := UdsClient.segment_fits segmented
      rw [bytes, List.length_append] at fits
      rw [Nat.add_comm]
      exact fits
  unfold eraseMemory
  split
  · rename_i unconfigured
    apply Leaves.pure
    refine Or.inl ⟨rfl, fun _ => ?_⟩
    unfold eraseRequest
    rw [unconfigured]
  · rename_i routineId configured
    apply checkCancelled_silent.bind
    · intro error
      exact Or.inl ⟨rfl, fun impossible => nomatch impossible⟩
    · intro _
      apply (demand_leaves routineControl _).bind
      · intro added error demanded
        cases demanded with
        | unbuilt cause refused => exact Or.inl ⟨rfl, fun impossible => nomatch impossible⟩
        | unsegmented payload cause shape refused =>
            exact Or.inl ⟨rfl, fun impossible => nomatch impossible⟩
        | failed entry error shape segmented answers unaccepted external =>
            obtain ⟨request, range, fits⟩ := sent configured shape segmented
            refine Or.inr ⟨entry, rfl, request, range, fits, ?_⟩
            intro other same
            cases same
            exact external
      · intro added response demanded
        cases demanded with
        | answered entry response shape segmented answers outcome positive =>
            obtain ⟨request, range, fits⟩ := sent configured shape segmented
            apply Leaves.pure
            rw [List.append_nil]
            exact Or.inr ⟨entry, rfl, request, range, fits, fun _ impossible => nomatch impossible⟩

/-- A log with the erase belongs to a configuration that reaches it, and a failure behind it is
to be blamed on a doomed download. -/
def Late (cap : Nat) (config : FlashingConfig) (log : List Exchange)
    (result : Except FlashError Unit) : Prop :=
  Erased config log → ReachesErase cap config ∧ ∀ error, result = .error error → Blames config error

theorem late_of_not_erased {cap : Nat} {log : List Exchange} {result : Except FlashError Unit}
    (none : ¬ Erased config log) : Late cap config log result :=
  fun erased => absurd erased none

theorem not_erased_nil : ¬ Erased config [] := not_erased (fun _ absent => absurd absent List.not_mem_nil)

theorem download_late (opens : Opens bench.client.payloadCap config) :
    Leaves FlashState.log (download bench config) (Late bench.client.payloadCap config) := by
  apply eraseMemory_leaves.bind
  · rintro added error (⟨rfl, _⟩ | ⟨entry, rfl, request, range, fits, external⟩)
    · exact late_of_not_erased not_erased_nil
    · intro _
      refine ⟨⟨opens, range, fits⟩, ?_⟩
      intro other same decided
      cases same
      rw [external error rfl] at decided
      cases decided
  · intro added _ erase
    apply (afterErase_leaves.returning afterErase_blames).weaken
    rintro later result ⟨_, blames, _⟩ ⟨bytes, request, _⟩
    rcases erase with ⟨_, unconfigured⟩ | ⟨entry, _, _, range, fits, _⟩
    · rw [unconfigured rfl] at request
      cases request
    · exact ⟨⟨opens, range, fits⟩, blames⟩

theorem openProgramming_returns (authentic : authenticity config = .ok ())
    (identified : ¬ (config.requireTargetIdentity = true ∧ config.expectedVin = none ∧
      config.expectedSerial = none)) (confirmed : config.userConfirmed = true) :
    Returns (fun _ => True) (fun _ => Opens bench.client.payloadCap config)
      (openProgramming bench config) := by
  apply Returns.anyway.bind
  intro _ _
  apply Returns.anyway.bind
  intro _ _
  apply verifyVersion_returns.bind
  intro _ version
  apply Returns.anyway.bind
  intro _ _
  apply unlock_returns.weaken (fun _ _ => trivial)
  rintro _ ⟨level, key⟩
  exact ⟨authentic, identified, confirmed, version, level, key⟩

theorem executeFlash_late (bench : Bench) (config : FlashingConfig) :
    Leaves FlashState.log (executeFlash bench config) (Late bench.client.payloadCap config) := by
  apply Leaves.require_bind (fun _ => late_of_not_erased not_erased_nil)
  intro _
  apply Leaves.lift_bind (fun _ _ => late_of_not_erased not_erased_nil)
  intro _ authentic
  apply Leaves.require_bind (fun _ => late_of_not_erased not_erased_nil)
  intro identified
  apply Leaves.bind (safetyValidation_silent.returning safetyValidation_returns)
  · rintro added error ⟨rfl, _⟩
    exact late_of_not_erased not_erased_nil
  · rintro added _ ⟨rfl, _, confirmed⟩
    apply (changeSession_opening .extended).bind
    · intro session error every
      exact late_of_not_erased (not_erased_opening every.kind)
    · intro session _ extended
      apply Leaves.recovering (P := fun added => Late bench.client.payloadCap config
        (session ++ added)) (R := fun added => ¬ Erased config added)
      · apply (openProgramming_opening.returning (openProgramming_returns authentic identified
          (confirmed () rfl))).bind
        · rintro opening error ⟨every, _⟩
          apply late_of_not_erased
          intro erased
          rcases erased.append with early | late
          · exact not_erased_opening extended.kind early
          · exact not_erased_opening every.kind late
        · rintro opening _ ⟨every, _, opens⟩
          apply (download_late (opens () rfl)).weaken
          intro added result late erased
          rcases erased.append with early | rest
          · exact absurd early (not_erased_opening extended.kind)
          · rcases rest.append with middle | behind
            · exact absurd middle (not_erased_opening every.kind)
            · exact late behind
      · intro added value late
        exact late
      · apply (bestEffortRecovery_leaves bench).weaken
        intro added _ requests
        apply not_erased
        intro entry member
        unfold Exchange.service
        rcases requests entry member with exits | retreats
        · rw [exits]
          decide
        · rw [retreats]
          decide
      · intro added error later late unerased erased
        rw [List.nil_append, ← List.append_assoc] at erased
        rcases erased.append with run | recovery
        · exact late run
        · exact absurd recovery unerased

theorem doomed_of_failsLate (late : FailsLate bench config) :
    Doomed bench.client.payloadCap config := by
  obtain ⟨erase, error, request, ⟨entry, member, same⟩, failed, decided⟩ := late
  obtain ⟨added, grows, holds⟩ := executeFlash_late bench config {}
  rw [grows, List.nil_append] at member
  obtain ⟨reaches, blames⟩ := holds ⟨erase, request, entry, member, same⟩
  exact ⟨reaches, blames error failed decided⟩

end Erase

end Ucanlab.Uds
