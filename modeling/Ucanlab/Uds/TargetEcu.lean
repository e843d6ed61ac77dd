import Ucanlab.Uds.DoomedDownload

/-!
The ECU that a configuration is meant for, answering every request positively, and which
downloads fail on it behind the erase.
-/

namespace Ucanlab.Uds

open Ucanlab Dialogue UdsServiceBuilder IsoTp

def reprogrammingServices : List UInt8 :=
  [diagnosticSessionControl, ecuResetService, readDataByIdentifier, securityAccess, routineControl,
    requestDownloadService, transferDataService, requestTransferExitService]

def Answerable (payload : Bytes) : Prop :=
  payload.getD 0 0 ∈ reprogrammingServices ∧
    (echoLength (payload.getD 0 0)).getD 0 < payload.length

/-- Nothing disturbs the run, and the ECU answers every request positively: with the expected
identity, with a seed whose key can be sent, with a block length, and with a checksum that is
correct. -/
structure TargetEcu (bench : Bench) (config : FlashingConfig) : Prop where
  sends : bench.client.transport.CanSend
  normal : bench.client.transport.addressingMode = .normal
  uncancelled : ∀ count, bench.cancelled count = false
  permitted : ∀ count, gatewayRefusal (bench.gateway count) = .ok ()
  answers : ∀ history payload, Answerable payload → ∃ response,
    bench.client.sendAndReceive payload (bench.reply history payload) = .ok response ∧
      response.isPositive = true
  identity : ∀ did expected, (did, some expected) ∈
      [(vinDid, config.expectedVin), (serialDid, config.expectedSerial)] →
    ∀ response, bench.Answers [readDataByIdentifier, highByte did, lowByte did] (.ok response) →
      identityText did response.data = expected
  version : config.minVersion > 0 → ∀ response, bench.Answers
      [readDataByIdentifier, highByte config.versionDid, lowByte config.versionDid] (.ok response) →
    ∃ current, parseEcuVersion response.data = .ok (some current) ∧ config.minVersion ≤ current
  key : ∀ response, bench.Answers
      [securityAccess, UInt8.ofNat config.effectiveProgrammingSecurityLevel.toNat] (.ok response) →
    ∃ key, keyFor config config.effectiveProgrammingSecurityLevel response.data = .ok key ∧
      (config.keyDerivation ≠ none → key.length + 2 ≤ bench.client.payloadCap)
  blockLength : ∀ payload response, payload.head? = some requestDownloadService →
    bench.Answers payload (.ok response) → ∃ length, parseMaxBlockLength response.data = .ok length
  checksum : ∀ response, bench.Answers (routineControl :: routinePrefix config) (.ok response) →
    routineStatus config response.data = .ok 0x00

section Target

variable {bench : Bench} {config : FlashingConfig}

theorem TargetEcu.demandOr (target : TargetEcu bench config)
    {refusal : UdsResponse → FlashError} (external : ∀ response, (refusal response).fromConfig = false)
    {payload : Bytes} (fits : payload.length ≤ bench.client.payloadCap)
    (answerable : Answerable payload) :
    Returns (fun _ => False) (fun response => bench.Answers payload (.ok response))
      (demandOr bench refusal (.ok payload)) := by
  apply (demandOr_leaves external (.ok payload)).returns
  · intro added error demanded
    cases demanded with
    | unbuilt cause refused => cases refused
    | unsegmented other cause shape refused =>
        cases shape
        rw [UdsClient.segment_ok target.sends target.normal fits] at refused
        cases refused
    | failed entry error shape segmented answers unaccepted external =>
        obtain ⟨history, outcome⟩ := answers
        have same : payload = entry.request := Except.ok.inj shape
        obtain ⟨response, answered, positive⟩ := target.answers history payload answerable
        rw [← same, answered] at outcome
        exact unaccepted ⟨response, outcome.symm, positive⟩
  · intro added response demanded
    cases demanded with
    | answered entry response shape segmented answers outcome positive =>
        have same : payload = entry.request := Except.ok.inj shape
        rw [same, ← outcome]
        exact answers

theorem TargetEcu.demand (target : TargetEcu bench config) {service : UInt8} {payload : Bytes}
    (fits : payload.length ≤ bench.client.payloadCap) (answerable : Answerable payload) :
    Returns (fun _ => False) (fun response => bench.Answers payload (.ok response))
      (demand bench service (.ok payload)) :=
  target.demandOr (fun _ => rfl) fits answerable

theorem TargetEcu.demandBuilt (target : TargetEcu bench config) {service : UInt8}
    {built : Except BuildError Bytes} (sendable : ∀ payload, built = .ok payload →
      payload.length ≤ bench.client.payloadCap ∧ Answerable payload) :
    Returns (fun error => error.fromConfig = true)
      (fun response => ∃ payload, built = .ok payload ∧ bench.Answers payload (.ok response))
      (Ucanlab.Uds.demand bench service built) := by
  cases built with
  | error cause => exact fun state => rfl
  | ok payload =>
      obtain ⟨fits, answerable⟩ := sendable payload rfl
      apply (target.demand fits answerable).weaken (fun _ impossible => impossible.elim)
      intro response answers
      exact ⟨payload, rfl, answers⟩

theorem TargetEcu.checkCancelled (target : TargetEcu bench config) {failure : FlashError → Prop} :
    Returns failure (fun _ => True) (checkCancelled bench) := by
  intro state
  unfold Ucanlab.Uds.checkCancelled
  rw [target.uncancelled]
  trivial

theorem TargetEcu.consultGateway (target : TargetEcu bench config) {failure : FlashError → Prop}
    {refusal : GatewayStatus → Except FlashError Unit}
    (quiet : ∀ status, gatewayRefusal status = .ok () → refusal status = .ok ()) :
    Returns failure (fun _ => True) (consultGateway bench refusal) := by
  intro state
  have outcome : (Ucanlab.Uds.consultGateway bench refusal state).1 =
    refusal (bench.gateway state.consulted) := rfl
  rw [outcome, quiet _ (target.permitted _)]
  trivial

theorem estopRefusal_quiet {status : GatewayStatus} (permitted : gatewayRefusal status = .ok ()) :
    estopRefusal status = .ok () := by
  unfold gatewayRefusal at permitted
  unfold estopRefusal
  split
  · rename_i engaged
    rw [if_pos engaged] at permitted
    cases permitted
  · rfl

theorem answerable_session (sessionType : DiagnosticSessionType) :
    Answerable (buildDiagnosticSessionControl sessionType) := by
  cases sessionType <;> exact ⟨by decide, by decide⟩

theorem answerable_read (high low : UInt8) : Answerable [readDataByIdentifier, high, low] :=
  ⟨by change readDataByIdentifier ∈ reprogrammingServices; decide, Nat.le_refl 3⟩

theorem answerable_access (level : UInt8) (key : Bytes) :
    Answerable ([securityAccess, level] ++ key) := by
  refine ⟨by change securityAccess ∈ reprogrammingServices; decide, ?_⟩
  change 1 < ([securityAccess, level] ++ key).length
  rw [List.length_append]
  exact Nat.lt_of_lt_of_le (Nat.lt_succ_self 1) (Nat.le_add_right 2 _)

theorem answerable_routine (control high low : UInt8) (options : Bytes) :
    Answerable ([routineControl, control, high, low] ++ options) := by
  refine ⟨by change routineControl ∈ reprogrammingServices; decide, ?_⟩
  change 3 < ([routineControl, control, high, low] ++ options).length
  rw [List.length_append]
  exact Nat.lt_of_lt_of_le (Nat.lt_succ_self 3) (Nat.le_add_right 4 _)

theorem answerable_block (counter : UInt8) (chunk : Bytes) :
    Answerable ([transferDataService, counter] ++ chunk) := by
  refine ⟨by change transferDataService ∈ reprogrammingServices; decide, ?_⟩
  change 1 < ([transferDataService, counter] ++ chunk).length
  rw [List.length_append]
  exact Nat.lt_of_lt_of_le (Nat.lt_succ_self 1) (Nat.le_add_right 2 _)

theorem answerable_reset (resetType : UInt8) : Answerable [ecuResetService, resetType] :=
  ⟨by change ecuResetService ∈ reprogrammingServices; decide, Nat.le_refl 2⟩

theorem answerable_download (fields : Bytes) :
    Answerable (requestDownloadService :: fields) := by
  refine ⟨by change requestDownloadService ∈ reprogrammingServices; decide, ?_⟩
  exact Nat.succ_pos _

section Opening

variable (target : TargetEcu bench config)

include target

theorem safetyValidation_target (confirmed : config.userConfirmed = true) :
    Returns (fun _ => False) (fun _ => True) (safetyValidation bench config) := by
  apply (Returns.require (fun unmet => unmet confirmed)).bind
  intro _ _
  apply (target.consultGateway (fun _ => estopRefusal_quiet)).bind
  intro _ _
  exact target.consultGateway (fun _ permitted => permitted)

theorem changeSession_target (sessionType : DiagnosticSessionType) :
    Returns (fun _ => False) (fun _ => True) (changeSession bench sessionType) := by
  have large := payloadCap_large bench
  apply target.checkCancelled.bind
  intro _ _
  apply (target.demand ?_ (answerable_session sessionType)).bind
  · intro _ _
    exact Returns.pure trivial
  · exact Nat.le_trans (Nat.le_of_ble_eq_true rfl) large

theorem read_target {refusal : UdsResponse → FlashError}
    (external : ∀ response, (refusal response).fromConfig = false) {did : Int}
    (range : 0 ≤ did ∧ did ≤ 0xFFFF) :
    Returns (fun _ => False) (fun response =>
        bench.Answers [readDataByIdentifier, highByte did, lowByte did] (.ok response))
      (demandOr bench refusal (buildReadDataByIdentifier did)) := by
  have large := payloadCap_large bench
  rw [buildReadDataByIdentifier_eq_ok.mpr ⟨range, rfl⟩]
  exact target.demandOr external (Nat.le_trans (Nat.le_of_ble_eq_true rfl) large)
    (answerable_read _ _)

theorem verifyIdentity_target {did : Int} {expected : Option (List Char)}
    (range : 0 ≤ did ∧ did ≤ 0xFFFF)
    (known : (did, expected) ∈ [(vinDid, config.expectedVin), (serialDid, config.expectedSerial)]) :
    Returns (fun _ => False) (fun _ => True) (verifyIdentity bench did expected) := by
  cases expected with
  | none => exact Returns.pure trivial
  | some text =>
      apply (read_target target (fun _ => rfl) range).bind
      intro response answers
      apply (Returns.require ?_).weaken (fun _ holds => holds) (fun _ _ => trivial)
      intro differs
      exact differs (target.identity did text known response answers)

theorem verifyVersion_target (opens : Opens bench.client.payloadCap config) :
    Returns (fun _ => False) (fun _ => True) (verifyVersion bench config) := by
  unfold verifyVersion
  split
  · rename_i floor
    apply (read_target target (fun _ => rfl) (opens.version floor)).bind
    intro response answers
    obtain ⟨current, parsed, enough⟩ := target.version floor response answers
    rw [parsed]
    apply Returns.bind (P := fun version => version = some current)
    · exact Returns.lift (fun _ impossible => by cases impossible)
        (fun _ same => (Except.ok.inj same).symm)
    · rintro _ rfl
      apply (Returns.require ?_).weaken (fun _ holds => holds) (fun _ _ => trivial)
      intro below
      exact below enough
  · exact Returns.pure trivial

omit target in
theorem key_fits {level : Int} {data key : Bytes} (opens : Opens bench.client.payloadCap config)
    (derived : keyFor config level data = .ok key)
    (fits : config.keyDerivation ≠ none → key.length + 2 ≤ bench.client.payloadCap) :
    key.length + 2 ≤ bench.client.payloadCap := by
  have large := payloadCap_large bench
  by_cases static : config.keyDerivation = none
  · rw [keyFor_static static derived]
    cases configured : config.securityKey with
    | none => exact Nat.le_trans (Nat.le_of_ble_eq_true rfl) large
    | some key => exact opens.key static key configured
  · exact fits static

theorem unlock_target (opens : Opens bench.client.payloadCap config) :
    Returns (fun _ => False) (fun _ => True) (unlock bench config) := by
  have large := payloadCap_large bench
  unfold unlock
  split
  · rename_i keyed
    have range := opens.level keyed
    apply target.checkCancelled.bind
    intro _ _
    have seedBuilt : buildSecurityAccessRequestSeed config.effectiveProgrammingSecurityLevel =
        .ok [securityAccess, UInt8.ofNat config.effectiveProgrammingSecurityLevel.toNat] :=
      buildSecurityAccessRequestSeed_eq_ok.mpr ⟨⟨range.1, by omega⟩, rfl⟩
    rw [seedBuilt]
    apply (target.demand ?_ (answerable_access _ [])).bind
    · intro seed answers
      obtain ⟨key, derived, fits⟩ := target.key seed answers
      rw [derived]
      apply Returns.bind (P := fun sent => sent = key)
      · exact Returns.lift (fun _ impossible => nomatch impossible)
          (fun _ same => (Except.ok.inj same).symm)
      · rintro _ rfl
        rw [buildSecurityAccessSendKey_eq_ok.mpr ⟨range, rfl⟩]
        apply (target.demand ?_ (answerable_access _ _)).bind
        · intro _ _
          exact Returns.pure trivial
        · rw [List.length_append, Nat.add_comm]
          exact key_fits opens derived fits
    · exact Nat.le_trans (Nat.le_of_ble_eq_true rfl) large
  · exact Returns.pure trivial

theorem openProgramming_target (opens : Opens bench.client.payloadCap config) :
    Returns (fun _ => False) (fun _ => True) (openProgramming bench config) := by
  apply (verifyIdentity_target target (by decide) List.mem_cons_self).bind
  intro _ _
  apply (verifyIdentity_target target (by decide)
    (List.mem_cons_of_mem _ List.mem_cons_self)).bind
  intro _ _
  apply (verifyVersion_target target opens).bind
  intro _ _
  apply (changeSession_target target .programming).bind
  intro _ _
  exact unlock_target target opens

theorem eraseMemory_target (reaches : ReachesErase bench.client.payloadCap config) :
    Returns (fun _ => False) (fun _ => True) (eraseMemory bench config) := by
  obtain ⟨routineId, configured, range⟩ := reaches.erases
  unfold eraseMemory
  rw [configured]
  apply target.checkCancelled.bind
  intro _ _
  rw [buildRoutineControl_eq_ok.mpr ⟨range, rfl⟩]
  apply (target.demand ?_ (answerable_routine _ _ _ _)).bind
  · intro _ _
    exact Returns.pure trivial
  · rw [List.length_append, Nat.add_comm]
    exact reaches.options

end Opening

section AfterErase

variable (target : TargetEcu bench config)

include target

theorem requestDownload_target :
    Returns (fun error => error.fromConfig = true)
      (fun blockSize => (0 ≤ config.memoryAddress ∧ config.memoryAddress < 2 ^ 32) ∧
        config.data.length < 2 ^ 32 ∧ blockSize ≤ 4094) (requestDownload bench config) := by
  have large := payloadCap_large bench
  apply target.checkCancelled.bind
  intro _ _
  apply (target.demandBuilt ?_).bind
  · rintro response ⟨payload, built, answers⟩
    obtain ⟨⟨address, size⟩, shape⟩ := buildRequestDownload_eq_ok.mp built
    obtain ⟨length, parsed⟩ := target.blockLength payload response (by rw [shape]; rfl) answers
    rw [parsed]
    apply Returns.bind (P := fun other => other = length)
    · exact Returns.lift (fun _ impossible => nomatch impossible)
        (fun _ same => (Except.ok.inj same).symm)
    · rintro _ rfl
      have bounded := parseMaxBlockLength_ok parsed
      apply Returns.pure
      refine ⟨address, ?_, by omega⟩
      have fits := size.2
      omega
  · intro payload built
    have shape := (buildRequestDownload_eq_ok.mp built).2
    refine ⟨?_, ?_⟩
    · rw [shape]
      simp only [List.length_append, natToBytes_length, List.length_cons, List.length_nil]
      omega
    · rw [shape]
      exact answerable_download _

theorem recheckPreconditions_target {since : Nat} {F : FlashError → Prop} :
    Returns F (fun _ => True) (recheckPreconditions bench since) := by
  unfold recheckPreconditions
  split
  · apply (target.consultGateway (fun _ permitted => permitted)).bind
    intro _ _
    exact Returns.pure trivial
  · exact Returns.pure trivial

theorem blockEcho_answered {counter : Nat} {chunk : Bytes} {response : UdsResponse}
    (answers : bench.Answers ([transferDataService, lowByte counter] ++ chunk) (.ok response)) :
    blockEcho counter response.data = .ok () := by
  obtain ⟨history, answered⟩ := answers
  obtain ⟨other, same, positive⟩ := target.answers history _ (answerable_block (lowByte counter) chunk)
  rw [answered] at same
  have positive : response.isPositive = true := Except.ok.inj same ▸ positive
  have echo := (UdsClient.sendAndReceive_answers answered).2
  change responseEchoMatches transferDataService _ _ = true at echo
  unfold responseEchoMatches at echo
  rw [if_neg (not_not_intro positive), show echoLength transferDataService = some 1 by decide]
    at echo
  have taken := of_decide_eq_true echo
  cases data : response.data with
  | nil =>
      rw [data] at taken
      exact absurd taken.1 (by decide)
  | cons first rest =>
      rw [data] at taken
      have head : first = lowByte counter := List.head_eq_of_cons_eq taken.2
      change (if first ≠ UInt8.ofNat (counter &&& 0xFF) then Except.error _ else Except.ok ()) =
        Except.ok ()
      rw [if_neg]
      rw [not_not, head]
      unfold lowByte
      rw [Int.toNat_natCast]

theorem transferBlocks_target {blockSize : Nat} (bounded : blockSize ≤ 4094)
    (fuel sent counter since : Nat) (small : counter < 256) :
    Returns (fun error => error.fromConfig = true) (fun _ => True)
      (transferBlocks bench config blockSize fuel sent counter since) := by
  have large := payloadCap_large bench
  induction fuel generalizing sent counter since with
  | zero => exact Returns.pure trivial
  | succ fuel ih =>
      unfold transferBlocks
      split
      · apply target.checkCancelled.bind
        intro _ _
        apply (recheckPreconditions_target target).bind
        intro since _
        apply (target.demandBuilt ?_).bind
        · rintro response ⟨payload, built, answers⟩
          rw [(buildTransferData_eq_ok.mp built).2] at answers
          rw [blockEcho_answered target answers]
          apply Returns.bind (P := fun _ => True)
          · exact Returns.lift (fun _ impossible => by cases impossible) (fun _ _ => trivial)
          · intro _ _
            apply ih
            rw [Nat.and_two_pow_sub_one_eq_mod _ 8]
            exact Nat.mod_lt _ (by decide)
        · intro payload built
          rw [(buildTransferData_eq_ok.mp built).2]
          refine ⟨?_, answerable_block _ _⟩
          rw [List.length_append, List.length_take]
          simp only [List.length_cons, List.length_nil]
          omega
      · exact Returns.pure trivial

theorem requestTransferExit_target :
    Returns (fun error => error.fromConfig = true) (fun _ => True) (requestTransferExit bench) := by
  have large := payloadCap_large bench
  apply target.checkCancelled.bind
  intro _ _
  apply (target.demandBuilt ?_).bind
  · intro _ _
    exact Returns.pure trivial
  · intro payload built
    rw [← Except.ok.inj built]
    exact ⟨Nat.le_trans (by decide) large, by decide, by decide⟩

theorem awaitChecksum_target (deadline polls : Nat) :
    Returns (fun error => error.fromConfig = true)
      (fun _ => 0 ≤ config.checksumRoutineId ∧ config.checksumRoutineId ≤ 0xFFFF)
      (awaitChecksum bench config deadline (polls + 1)) := by
  have large := payloadCap_large bench
  unfold awaitChecksum
  apply (target.demandBuilt ?_).bind
  · rintro response ⟨payload, built, answers⟩
    obtain ⟨range, shape⟩ := buildRoutineControl_eq_ok.mp built
    rw [shape, List.append_nil] at answers
    rw [target.checksum response answers]
    apply Returns.bind (P := fun status => status = 0x00)
    · exact Returns.lift (fun _ impossible => by cases impossible)
        (fun _ same => (Except.ok.inj same).symm)
    · rintro _ rfl
      rw [if_pos rfl]
      exact Returns.pure range
  · intro payload built
    rw [(buildRoutineControl_eq_ok.mp built).2]
    exact ⟨Nat.le_trans (Nat.le_of_ble_eq_true rfl) large, answerable_routine _ _ _ _⟩

theorem verifyChecksum_target :
    Returns (fun error => error.fromConfig = true)
      (fun _ => config.verifyChecksum = true ∧ 0 ≤ config.checksumRoutineId ∧
        config.checksumRoutineId ≤ 0xFFFF) (verifyChecksum bench config) := by
  have large := payloadCap_large bench
  apply Returns.bind (P := fun _ => config.verifyChecksum = true)
  · exact Returns.require (fun _ => rfl)
  · intro _ verifies
    apply target.checkCancelled.bind
    intro _ _
    apply (target.demandBuilt ?_).bind
    · intro _ _
      apply Returns.read.bind
      intro now _
      apply (awaitChecksum_target target _ _).weaken (fun _ decided => decided)
      intro _ range
      exact ⟨verifies, range⟩
    · intro payload built
      rw [(buildRoutineControl_eq_ok.mp built).2]
      refine ⟨?_, answerable_routine _ _ _ _⟩
      rw [List.length_append, natToBytes_length]
      exact Nat.le_trans (Nat.le_of_ble_eq_true rfl) large

theorem resetEcu_target :
    Returns (fun error => error.fromConfig = true)
      (fun _ => config.resetAfterFlash = true →
        config.resetType = 0x01 ∨ config.resetType = 0x02 ∨ config.resetType = 0x03)
      (resetEcu bench config) := by
  have large := payloadCap_large bench
  unfold resetEcu
  split
  · apply target.checkCancelled.bind
    intro _ _
    apply (target.demandBuilt ?_).bind
    · rintro _ ⟨payload, built, _⟩
      exact Returns.pure (fun _ => (buildEcuReset_eq_ok.mp built).1)
    · intro payload built
      rw [(buildEcuReset_eq_ok.mp built).2]
      exact ⟨Nat.le_trans (Nat.le_of_ble_eq_true rfl) large, answerable_reset _⟩
  · rename_i unreset
    exact Returns.pure (fun resets => absurd resets unreset)

theorem afterErase_target : Returns (fun error => error.fromConfig = true)
    (fun _ => Downloadable config) (do
      let blockSize ← requestDownload bench config
      transferData bench config blockSize
      requestTransferExit bench
      verifyChecksum bench config
      resetEcu bench config) := by
  apply (requestDownload_target target).bind
  rintro blockSize ⟨address, size, bounded⟩
  apply (transferBlocks_target target bounded _ _ _ _ (by decide)).bind
  intro _ _
  apply (requestTransferExit_target target).bind
  intro _ _
  apply (verifyChecksum_target target).bind
  rintro _ ⟨checksum, routine⟩
  apply (resetEcu_target target).weaken (fun _ decided => decided)
  intro _ reset
  exact ⟨address, size, checksum, routine, reset⟩

end AfterErase

def ErasedInVain (config : FlashingConfig) (log : List Exchange)
    (result : Except FlashError Unit) : Prop :=
  Erased config log ∧ ∃ error, result = .error error ∧ error.fromConfig = true

theorem Erased.mono {log : List Exchange} (erased : Erased config log)
    (front back : List Exchange) : Erased config (front ++ (log ++ back)) := by
  obtain ⟨erase, request, entry, member, same⟩ := erased
  exact ⟨erase, request, entry, List.mem_append_right _ (List.mem_append_left _ member), same⟩

theorem download_inVain (target : TargetEcu bench config)
    (doomed : Doomed bench.client.payloadCap config) :
    Leaves FlashState.log (download bench config) (ErasedInVain config) := by
  apply (eraseMemory_leaves.returning (eraseMemory_target target doomed.1)).bind
  · rintro added error ⟨_, impossible, _⟩
    exact (impossible error rfl).elim
  · rintro added _ ⟨erase, _, _⟩
    rcases erase with ⟨_, unconfigured⟩ | ⟨entry, rfl, request, _, _, _⟩
    · obtain ⟨routineId, configured, range⟩ := doomed.1.erases
      have none := unconfigured rfl
      unfold eraseRequest at none
      rw [configured] at none
      dsimp only at none
      rw [buildRoutineControl_eq_ok.mpr ⟨range, rfl⟩] at none
      cases none
    · apply (afterErase_leaves.returning (afterErase_target target)).weaken
      rintro later result ⟨_, decided, downloadable⟩
      refine ⟨⟨entry.request, request, entry, List.mem_cons_self, rfl⟩, ?_⟩
      cases result with
      | error error => exact ⟨error, rfl, decided error rfl⟩
      | ok _ => exact absurd (downloadable () rfl) doomed.2

theorem executeFlash_inVain (target : TargetEcu bench config)
    (doomed : Doomed bench.client.payloadCap config) :
    Leaves FlashState.log (executeFlash bench config) (ErasedInVain config) := by
  obtain ⟨reaches, _⟩ := id doomed
  apply Leaves.require_bind (fun empty => absurd config.data_ne_nil empty)
  intro _
  apply Leaves.lift_bind (fun error failed => ?_)
  · intro _ _
    apply Leaves.require_bind (fun unmet => absurd reaches.identified unmet)
    intro _
    apply Leaves.bind (safetyValidation_silent.returning
      (safetyValidation_target target reaches.confirmed))
    · rintro added error ⟨_, impossible, _⟩
      exact (impossible error rfl).elim
    · rintro added _ ⟨rfl, _, _⟩
      apply ((changeSession_opening .extended).returning
        (changeSession_target target .extended)).bind
      · rintro session error ⟨_, impossible, _⟩
        exact (impossible error rfl).elim
      · rintro session _ _
        apply Leaves.recovering (P := fun added => ErasedInVain config (session ++ added))
          (R := fun _ => True)
        · apply (openProgramming_opening.returning
            (openProgramming_target target reaches.toOpens)).bind
          · rintro opening error ⟨_, impossible, _⟩
            exact (impossible error rfl).elim
          · rintro opening _ _
            apply (download_inVain target doomed).weaken
            rintro added result ⟨erased, failed⟩
            refine ⟨?_, failed⟩
            have longer := erased.mono (session ++ opening) []
            rw [List.append_nil, List.append_assoc] at longer
            exact longer
        · rintro added value ⟨_, error, impossible, _⟩
          cases impossible
        · exact (bestEffortRecovery_leaves bench).weaken (fun _ _ _ => trivial)
        · rintro added error later ⟨erased, failed⟩ _
          refine ⟨?_, failed⟩
          have longer := erased.mono [] later
          rw [List.nil_append, List.append_assoc] at longer
          exact longer
  · rw [reaches.authentic] at failed
    cases failed

theorem failsLate_of_doomed (target : TargetEcu bench config)
    (doomed : Doomed bench.client.payloadCap config) : FailsLate bench config := by
  obtain ⟨added, grows, ⟨erase, request, entry, member, same⟩, error, failed, decided⟩ :=
    executeFlash_inVain target doomed {}
  refine ⟨erase, error, request, ⟨entry, ?_, same⟩, failed, decided⟩
  rw [grows]
  exact member

end Target

section Polite

def positiveAnswer (content : Bytes → Bytes) (payload : Bytes) : Bytes :=
  (payload.getD 0 0 + 0x40) ::
    ((payload.drop 1).take ((echoLength (payload.getD 0 0)).getD 0) ++ content payload)

/-- Everything answers at once and positively, and nobody interferes. -/
def politeBench (content : Bytes → Bytes) : Bench where
  client := { transport := { txId := 0x7E0, channelId := "uds_ch0" } }
  reply := fun _ payload =>
    { heard := [{ polledNs := 0, handledNs := 0, message := .ok (positiveAnswer content payload) }] }
  cancelled := fun _ => false
  gateway := fun _ => {}

theorem politeBench_answers (content : Bytes → Bytes) (history : List Exchange) {payload : Bytes}
    (answerable : Answerable payload) :
    (politeBench content).client.sendAndReceive payload
        ((politeBench content).reply history payload) =
      .ok {
        serviceId := payload.getD 0 0
        isPositive := true
        data := (payload.drop 1).take ((echoLength (payload.getD 0 0)).getD 0) ++
          content payload } := by
  obtain ⟨service, echoed⟩ := answerable
  have codes : ∀ sid ∈ reprogrammingServices, sid + 0x40 ≠ negativeResponse ∧
      ¬ sid + 0x40 < 0x40 ∧ sid + 0x40 - 0x40 = sid := by
    decide +kernel
  obtain ⟨positive, high, back⟩ := codes _ service
  have parsed : parseResponse (positiveAnswer content payload) = .ok {
      serviceId := payload.getD 0 0
      isPositive := true
      data := (payload.drop 1).take ((echoLength (payload.getD 0 0)).getD 0) ++
        content payload } := by
    unfold positiveAnswer parseResponse
    dsimp only
    rw [if_neg positive, if_neg high, back]
  change (politeBench content).client.awaitResponse payload requestTimeoutNs 0
    [{ polledNs := 0, handledNs := 0, message := .ok (positiveAnswer content payload) }] = _
  unfold UdsClient.awaitResponse
  have inTime : ¬ (requestTimeoutNs ≤ 0 ∨ (politeBench content).client.pendingWall ≤ 0) := by
    change ¬ (requestTimeoutNs ≤ 0 ∨ maxPendingAbsNs ≤ 0)
    decide
  dsimp only
  rw [if_neg inTime, parsed]
  dsimp only
  rw [if_neg (not_not_intro rfl), if_neg, if_neg (fun both => both.1 rfl)]
  rw [not_not]
  unfold responseEchoMatches
  rw [if_neg (not_not_intro rfl)]
  cases size : echoLength (payload.getD 0 0) with
  | none => rfl
  | some n =>
      rw [size] at echoed
      have taken : ((payload.drop 1).take n).length = n := by
        rw [List.length_take, List.length_drop]
        exact Nat.min_eq_left (Nat.le_sub_one_of_lt echoed)
      apply decide_eq_true
      refine ⟨?_, ?_⟩
      · rw [Option.getD_some, List.length_append, taken]
        exact Nat.le_add_right _ _
      · rw [Option.getD_some, List.take_left' taken]

theorem politeBench_answer {content : Bytes → Bytes} {payload : Bytes} {response : UdsResponse}
    (answerable : Answerable payload)
    (answers : (politeBench content).Answers payload (.ok response)) :
    response.data = (payload.drop 1).take ((echoLength (payload.getD 0 0)).getD 0) ++
      content payload := by
  obtain ⟨history, answered⟩ := answers
  rw [politeBench_answers content history answerable] at answered
  cases answered
  rfl

def beyondFourBytes : FlashingConfig where
  memoryAddress := 0x100000000
  data := [0x00]
  eraseRoutineId := some 0xFF00
  expectedVin := some ['V']
  userConfirmed := true
  firmwareSignature := some [0x01]
  trustedPubkey := some (fun signature image => decide (signature.length = image.length))
  accepted := by decide

/-- The vehicle number, a block length, or a status. -/
def targetContent (payload : Bytes) : Bytes :=
  if payload.head? = some readDataByIdentifier then [0x56]
  else if payload.head? = some requestDownloadService then [0x20, 0x04, 0x02]
  else [0x00]

theorem politeBench_target : TargetEcu (politeBench targetContent) beyondFourBytes where
  sends := { channel := by decide, padding := by decide, inRange := by decide }
  normal := rfl
  uncancelled := fun _ => rfl
  permitted := fun _ => rfl
  answers := fun history _ answerable =>
    ⟨_, politeBench_answers targetContent history answerable, rfl⟩
  identity := by
    intro did expected known response answers
    rw [politeBench_answer (answerable_read _ _) answers]
    rcases List.mem_cons.mp known with vin | serial
    · cases vin
      decide
    · have same := congrArg Prod.snd (List.mem_singleton.mp serial)
      cases same
  version := fun floor => absurd floor (by decide)
  key := by
    intro response answers
    rw [politeBench_answer (answerable_access _ []) answers]
    exact ⟨[], by decide, fun derives => absurd rfl derives⟩
  blockLength := by
    intro payload response service answers
    cases payload with
    | nil => cases service
    | cons first fields =>
        cases service
        rw [politeBench_answer (answerable_download fields) answers]
        exact ⟨1026, rfl⟩
  checksum := by
    intro response answers
    rw [politeBench_answer (answerable_routine _ _ _ []) answers]
    decide

theorem beyondFourBytes_doomed (cap : Nat) (large : 4096 ≤ cap) : Doomed cap beyondFourBytes := by
  refine ⟨⟨⟨by decide, by decide, rfl, fun floor => absurd floor (by decide),
    fun _ => by decide, fun _ _ impossible => nomatch impossible⟩, ⟨0xFF00, rfl, by decide⟩, ?_⟩, ?_⟩
  · exact Nat.le_trans (Nat.le_of_ble_eq_true rfl) large
  · intro able
    exact absurd able.address.2 (by decide)

/-- The constructor accepts the configuration, its ECU answers everything positively, and the
run fails on the address behind the erase. -/
theorem fails_behind_erase :
    TargetEcu (politeBench targetContent) beyondFourBytes ∧
      FailsLate (politeBench targetContent) beyondFourBytes :=
  ⟨politeBench_target, failsLate_of_doomed politeBench_target
    (beyondFourBytes_doomed _ (payloadCap_large _))⟩

end Polite

/-- A run fails late for a doomed configuration alone, whatever the ECU answers, and on the ECU
it is meant for every doomed configuration does. -/
theorem failsLate_iff_doomed (config : FlashingConfig) :
    (∀ bench, FailsLate bench config → Doomed bench.client.payloadCap config) ∧
      ∀ bench, TargetEcu bench config →
        (FailsLate bench config ↔ Doomed bench.client.payloadCap config) :=
  ⟨fun _ => doomed_of_failsLate, fun _ target =>
    ⟨doomed_of_failsLate, failsLate_of_doomed target⟩⟩

theorem failsLate_iff_doomed_beyond :
    FailsLate (politeBench targetContent) beyondFourBytes :=
  ((failsLate_iff_doomed beyondFourBytes).2 _ politeBench_target).mpr
    (beyondFourBytes_doomed _ (payloadCap_large _))

end Ucanlab.Uds
