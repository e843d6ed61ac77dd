import Ucanlab.Safety.Gateway
import Ucanlab.Uds.ConfirmedFlash

/-!
The confirmation of the requests of a reprogramming run, as the gateway asks for it. Every
critical request carries it but the last resort of the recovery.
-/

namespace Ucanlab.Uds

open Ucanlab Dialogue UdsServiceBuilder

/-- The service changes the state of the ECU. -/
def Presented.Critical (presented : Presented) : Prop :=
  ∃ sid ∈ Safety.criticalUdsSids, presented.request.head? = some sid

instance (presented : Presented) : Decidable presented.Critical :=
  inferInstanceAs (Decidable (∃ sid ∈ _, _))

/-- The factory minted the token for the identifier of the client, and bound it to the first
frame and the context where a context goes with it. -/
structure MintedToken.For (token : MintedToken) (arbitrationId : Nat) (factory : TokenFactory)
    (presented : Presented) : Prop where
  arbitrationId : token.call.arbitrationId = arbitrationId
  minted : token.value = factory.mint token.serial token.call
  context : token.call.context = presented.context
  payloadHash : token.call.payloadHash =
    presented.context.map (fun _ => (factory.digests.sha256 presented.firstFrame).take 8)

def Presented.Confirmed (presented : Presented) (arbitrationId : Nat) (factory : TokenFactory) :
    Prop :=
  presented.userConfirmed = true ∧
    ∃ token, presented.token = some token ∧ token.For arbitrationId factory presented

def tokenSerials (presented : List Presented) : List Nat :=
  presented.filterMap (fun entry => entry.token.map MintedToken.serial)

structure Presented.Carried (presented : Presented) (request : Safety.TxRequest) : Prop where
  userConfirmed : request.userConfirmed = presented.userConfirmed
  token : request.confirmationToken = presented.token.map MintedToken.value

def LacksConfirmation (digests : Digests) (gateway : Safety.Gateway) (request : Safety.TxRequest)
    (now : Nat) : Prop :=
  Safety.confirmationStage digests gateway request now = .error .operatorMissing ∨
    Safety.confirmationStage digests gateway request now = .error .tokenRequired

/-- Every critical request is confirmed, no token is used twice, and no gateway, with a secret or
without, misses the confirmation of one. -/
structure Agreed (arbitrationId : Nat) (factory : TokenFactory) (presented : List Presented) :
    Prop where
  confirmed : ∀ entry ∈ presented, entry.Critical → entry.Confirmed arbitrationId factory
  singleUse : (tokenSerials presented).Nodup
  accepted : ∀ entry ∈ presented, entry.Critical → ∀ digests gateway request now,
    entry.Carried request → ¬ LacksConfirmation digests gateway request now

/-- A step behind the extended session fails, the ECU does not accept the exit of the recovery,
and the request for the default session can go out. -/
def FallsBack (bench : Bench) (config : FlashingConfig) : Prop :=
  ∃ opened failed error,
    Confirmed.plainEnter bench config {} = (.ok (), opened) ∧
    Confirmed.plainReprogram bench config opened = (.error error, failed) ∧
    (∀ response, (exchange bench buildRequestTransferExit failed).1 = .ok response →
      response.isPositive = false) ∧
    bench.client.segment (buildDiagnosticSessionControl .default) = .ok ()

namespace Confirmed

section Steps

variable {bench : Bench} {factory : TokenFactory} {config : FlashingConfig}

structure Fresh (state : ConfirmedState) : Prop where
  nodup : (tokenSerials state.presented).Nodup
  older : ∀ serial ∈ tokenSerials state.presented, serial < state.minted

def confirmationContract (bench : Bench) (factory : TokenFactory) :
    Contract ConfirmedState Presented where
  log := ConfirmedState.presented
  invariant := Fresh
  assumed := fun _ => True
  guaranteed := fun entry => entry.Critical → entry.Confirmed bench.client.transport.txId factory
  exact := False

theorem Fresh.mono {state after : ConfirmedState} (fresh : Fresh state)
    (same : after.presented = state.presented) (more : state.minted ≤ after.minted) :
    Fresh after := by
  refine ⟨by rw [same]; exact fresh.nodup, ?_⟩
  intro serial member
  rw [same] at member
  exact lt_of_lt_of_le (fresh.older serial member) more

theorem tokenSerials_append (presented : List Presented) (entry : Presented) :
    tokenSerials (presented ++ [entry]) =
      tokenSerials presented ++ (entry.token.map MintedToken.serial).toList := by
  unfold tokenSerials
  rw [List.filterMap_append, List.filterMap_cons, List.filterMap_nil]
  cases entry.token <;> rfl

theorem Fresh.bare {state after : ConfirmedState} {entry : Presented} (fresh : Fresh state)
    (grows : after.presented = state.presented ++ [entry]) (none : entry.token = none)
    (more : state.minted ≤ after.minted) : Fresh after := by
  have same : tokenSerials after.presented = tokenSerials state.presented := by
    rw [grows, tokenSerials_append, none]
    exact List.append_nil _
  refine ⟨same ▸ fresh.nodup, ?_⟩
  intro serial member
  rw [same] at member
  exact lt_of_lt_of_le (fresh.older serial member) more

theorem Fresh.minted {state after : ConfirmedState} {entry : Presented} {token : MintedToken}
    (fresh : Fresh state) (grows : after.presented = state.presented ++ [entry])
    (carried : entry.token = some token) (newest : token.serial = state.minted)
    (more : after.minted = state.minted + 1) : Fresh after := by
  have serials : tokenSerials after.presented = tokenSerials state.presented ++ [state.minted] := by
    rw [grows, tokenSerials_append, carried, ← newest]
    rfl
  refine ⟨?_, ?_⟩
  · rw [serials, List.nodup_append]
    refine ⟨fresh.nodup, List.nodup_singleton _, ?_⟩
    intro old member new last
    rw [List.mem_singleton.mp last]
    exact Nat.ne_of_lt (fresh.older old member)
  · intro serial member
    rw [serials] at member
    rw [more]
    rcases List.mem_append.mp member with old | last
    · exact Nat.lt_succ_of_lt (fresh.older serial old)
    · rw [List.mem_singleton.mp last]
      exact Nat.lt_succ_self _

structure PresentsOne (bench : Bench) (factory : TokenFactory) (userConfirmed : Bool)
    (state after : ConfirmedState) : Prop where
  minted : state.minted ≤ after.minted
  presents : after.presented = state.presented ∨
    ∃ entry token, after.presented = state.presented ++ [entry] ∧ entry.token = some token ∧
      entry.userConfirmed = userConfirmed ∧ token.serial = state.minted ∧
      after.minted = state.minted + 1 ∧ token.For bench.client.transport.txId factory entry

theorem sendAndReceive_presents (isCriticalCommand userConfirmed : Bool) (payload : Bytes)
    (state : ConfirmedState) : ∃ confirmation middle,
      confirming bench factory config userConfirmed state = (.ok confirmation, middle) ∧
      state.minted ≤ middle.minted ∧ middle.presented = state.presented ∧
      PresentsOne bench factory userConfirmed state
        (sendAndReceive bench factory isCriticalCommand confirmation payload middle).2 := by
  unfold confirming confirmationToken
  cases bound : confirmationContext factory config with
  | none =>
      refine ⟨_, _, rfl, Nat.le_succ _, rfl, ?_⟩
      unfold sendAndReceive
      cases bench.client.transport.segmentMessage payload bench.client.isFd
        (some bench.client.brs) with
      | error error => exact ⟨Nat.le_succ _, .inl rfl⟩
      | ok frames =>
          exact ⟨Nat.le_succ _, .inr ⟨_, _, rfl, rfl, rfl, rfl, rfl, ⟨rfl, rfl, rfl, rfl⟩⟩⟩
  | some context =>
      refine ⟨_, _, rfl, le_refl _, rfl, ?_⟩
      unfold sendAndReceive
      cases bench.client.transport.segmentMessage payload bench.client.isFd
        (some bench.client.brs) with
      | error error => exact ⟨le_refl _, .inl rfl⟩
      | ok frames =>
          exact ⟨Nat.le_succ _, .inr ⟨_, _, rfl, rfl, rfl, rfl, rfl, ⟨rfl, rfl, rfl, rfl⟩⟩⟩

theorem demandOr_state (isCriticalCommand : Bool) (confirmation : Confirmation)
    (refusal : UdsResponse → FlashError) (built : Except BuildError Bytes) (state : ConfirmedState) :
    (demandOr bench factory isCriticalCommand confirmation refusal built state).2 =
      match built with
      | .error _ => state
      | .ok payload =>
          (sendAndReceive bench factory isCriticalCommand confirmation payload state).2 := by
  cases built with
  | error error => rfl
  | ok payload =>
      have sent : demandOr bench factory isCriticalCommand confirmation refusal (.ok payload) state =
          (sendAndReceive bench factory isCriticalCommand confirmation payload >>= fun response =>
            require (response.isPositive = true) (refusal response) >>= fun _ => pure response)
              state := rfl
      rw [sent]
      dsimp only
      cases ran : sendAndReceive bench factory isCriticalCommand confirmation payload state with
      | mk result after =>
          cases result with
          | error error => rw [bind_of_error ran]
          | ok response =>
              rw [bind_of_ok ran]
              by_cases positive : response.isPositive = true
              · rw [require_of_met positive]
                rfl
              · rw [require_of_unmet positive]
                rfl

theorem criticalStep_presents (service : UInt8) (userConfirmed : Bool)
    (built : Except BuildError Bytes) (state : ConfirmedState) :
    PresentsOne bench factory userConfirmed state
      (criticalStep bench factory config service userConfirmed built state).2 := by
  unfold criticalStep
  cases built with
  | error error =>
      obtain ⟨confirmation, middle, confirmed, more, same, _⟩ :=
        @sendAndReceive_presents bench factory config true userConfirmed [] state
      rw [bind_of_ok confirmed, demandOr_state]
      exact ⟨more, .inl same⟩
  | ok payload =>
      obtain ⟨confirmation, middle, confirmed, _, _, presents⟩ :=
        @sendAndReceive_presents bench factory config true userConfirmed payload state
      rw [bind_of_ok confirmed, demandOr_state]
      exact presents

theorem recoveryExit_presents (state : ConfirmedState) :
    PresentsOne bench factory config.userConfirmed state
      (recoveryExit bench factory config state).2 := by
  obtain ⟨confirmation, middle, confirmed, _, _, presents⟩ :=
    @sendAndReceive_presents bench factory config true config.userConfirmed
      buildRequestTransferExit state
  unfold recoveryExit
  rw [bind_of_ok confirmed]
  exact presents

theorem honoured_of_presents {α : Type} {program : ConfirmedFlash α}
    (presents : ∀ state, PresentsOne bench factory true state (program state).2) :
    (confirmationContract bench factory).Honoured program := by
  intro state
  obtain ⟨more, same | ⟨entry, token, grows, carried, confirmed, newest, next, minted⟩⟩ :=
    presents state
  · refine ⟨[], same.trans (List.append_nil _).symm, fun fresh => ?_⟩
    exact Contract.Met.nil (fresh.mono same more)
  · refine ⟨[entry], grows, fun fresh => ?_⟩
    refine ⟨fun _ => fresh.minted grows carried newest next, ?_, fun impossible => nomatch impossible⟩
    intro _ other member _
    rw [List.mem_singleton.mp member]
    exact ⟨confirmed, token, carried, minted⟩

theorem criticalStep_honoured (service : UInt8) {userConfirmed : Bool}
    (confirmed : userConfirmed = true) (built : Except BuildError Bytes) :
    (confirmationContract bench factory).Honoured
      (criticalStep bench factory config service userConfirmed built) := by
  rw [confirmed]
  exact honoured_of_presents (criticalStep_presents service true built)

theorem plainly_honoured {α : Type} (program : Flash α) :
    (confirmationContract bench factory).Honoured (plainly program) :=
  fun state => ⟨[], (List.append_nil _).symm,
    fun fresh => Contract.Met.nil (@Fresh.mono state (plainly program state).2 fresh rfl (le_refl _))⟩

theorem sendAndReceive_bare (payload : Bytes) (state : ConfirmedState) :
    (sendAndReceive bench factory false {} payload state).2.presented = state.presented ∧
        (sendAndReceive bench factory false {} payload state).2.minted = state.minted ∧
        bench.client.segment payload ≠ .ok () ∨
      ∃ entry, (sendAndReceive bench factory false {} payload state).2.presented =
          state.presented ++ [entry] ∧
        (sendAndReceive bench factory false {} payload state).2.minted = state.minted ∧
        entry.request = payload ∧ entry.token = none ∧ entry.userConfirmed = false ∧
        bench.client.segment payload = .ok () := by
  unfold sendAndReceive UdsClient.segment
  cases bench.client.transport.segmentMessage payload bench.client.isFd
    (some bench.client.brs) with
  | error error => exact .inl ⟨rfl, rfl, nofun⟩
  | ok frames => exact .inr ⟨_, rfl, rfl, rfl, rfl, rfl, rfl⟩

theorem readDid_honoured (refusal : UdsResponse → FlashError) (did : Int) :
    (confirmationContract bench factory).Honoured (readDid bench factory refusal did) := by
  intro state
  unfold readDid
  rw [demandOr_state]
  cases built : buildReadDataByIdentifier did with
  | error error =>
      exact ⟨[], (List.append_nil _).symm, fun fresh => Contract.Met.nil fresh⟩
  | ok payload =>
      obtain ⟨_, shape⟩ := buildReadDataByIdentifier_eq_ok.mp built
      rcases @sendAndReceive_bare bench factory payload state with
        ⟨same, minted, _⟩ | ⟨entry, grows, minted, request, bare, _⟩
      · refine ⟨[], same.trans (List.append_nil _).symm, fun fresh => ?_⟩
        exact Contract.Met.nil (fresh.mono same (le_of_eq minted.symm))
      · refine ⟨[entry], grows, fun fresh => ⟨fun _ => ?_, ?_, fun impossible => nomatch impossible⟩⟩
        · exact fresh.bare grows bare (le_of_eq minted.symm)
        · intro _ other member critical
          rw [List.mem_singleton.mp member] at critical
          obtain ⟨sid, listed, head⟩ := critical
          rw [request, shape] at head
          cases head
          exact absurd listed (by decide)

theorem changeSession_honoured (sessionType : DiagnosticSessionType) :
    (confirmationContract bench factory).Honoured
      (changeSession bench factory config sessionType) :=
  (plainly_honoured _).bind (fun _ =>
    (criticalStep_honoured _ rfl _).bind (fun _ => Contract.Honoured.pure))

theorem verifyIdentity_honoured (did : Int) (expected : Option (List Char)) :
    (confirmationContract bench factory).Honoured (verifyIdentity bench factory did expected) := by
  cases expected with
  | none => exact Contract.Honoured.pure
  | some text => exact (readDid_honoured _ _).bind (fun _ => Contract.Honoured.require)

theorem verifyVersion_honoured :
    (confirmationContract bench factory).Honoured (verifyVersion bench factory config) := by
  unfold verifyVersion
  split
  · refine (readDid_honoured _ _).bind (fun response => ?_)
    refine Contract.Honoured.lift.bind (fun version => ?_)
    cases version with
    | none => exact Contract.Honoured.fail
    | some current => exact Contract.Honoured.require
  · exact Contract.Honoured.pure

variable (confirmed : config.userConfirmed = true)

include confirmed

theorem unlock_honoured :
    (confirmationContract bench factory).Honoured (unlock bench factory config) := by
  unfold unlock
  split
  · refine (plainly_honoured _).bind (fun _ => ?_)
    refine (criticalStep_honoured _ confirmed _).bind (fun seed => ?_)
    refine Contract.Honoured.lift.bind (fun key => ?_)
    exact (criticalStep_honoured _ confirmed _).bind (fun _ => Contract.Honoured.pure)
  · exact Contract.Honoured.pure

theorem eraseMemory_honoured :
    (confirmationContract bench factory).Honoured (eraseMemory bench factory config) := by
  unfold eraseMemory
  cases config.eraseRoutineId with
  | none => exact Contract.Honoured.pure
  | some routineId =>
      refine (plainly_honoured _).bind (fun _ => ?_)
      exact (criticalStep_honoured _ confirmed _).bind (fun _ => Contract.Honoured.pure)

theorem requestDownload_honoured :
    (confirmationContract bench factory).Honoured (requestDownload bench factory config) := by
  refine (plainly_honoured _).bind (fun _ => ?_)
  refine (criticalStep_honoured _ confirmed _).bind (fun response => ?_)
  exact Contract.Honoured.lift.bind (fun _ => Contract.Honoured.pure)

theorem transferBlocks_honoured (blockSize fuel bytesSent blockSeq since : Nat) :
    (confirmationContract bench factory).Honoured
      (transferBlocks bench factory config blockSize fuel bytesSent blockSeq since) := by
  induction fuel generalizing bytesSent blockSeq since with
  | zero => exact Contract.Honoured.pure
  | succ fuel ih =>
      unfold transferBlocks
      split
      · refine (plainly_honoured _).bind (fun _ => ?_)
        refine (plainly_honoured _).bind (fun since => ?_)
        refine (criticalStep_honoured _ confirmed _).bind (fun response => ?_)
        exact Contract.Honoured.lift.bind (fun _ => ih _ _ _)
      · exact Contract.Honoured.pure

theorem requestTransferExit_honoured :
    (confirmationContract bench factory).Honoured (requestTransferExit bench factory config) :=
  (plainly_honoured _).bind (fun _ =>
    (criticalStep_honoured _ confirmed _).bind (fun _ => Contract.Honoured.pure))

theorem awaitChecksum_honoured (deadline polls : Nat) :
    (confirmationContract bench factory).Honoured
      (awaitChecksum bench factory config deadline polls) := by
  induction polls with
  | zero => exact Contract.Honoured.fail
  | succ polls ih =>
      refine (criticalStep_honoured _ confirmed _).bind (fun response => ?_)
      refine Contract.Honoured.lift.bind (fun status => ?_)
      split
      · exact Contract.Honoured.pure
      · split
        · refine (plainly_honoured _).bind (fun now => ?_)
          refine Contract.Honoured.require.bind (fun _ => ?_)
          exact (plainly_honoured _).bind (fun _ => ih)
        · exact Contract.Honoured.fail

theorem verifyChecksum_honoured :
    (confirmationContract bench factory).Honoured (verifyChecksum bench factory config) := by
  refine Contract.Honoured.require.bind (fun _ => ?_)
  refine (plainly_honoured _).bind (fun _ => ?_)
  refine (criticalStep_honoured _ confirmed _).bind (fun _ => ?_)
  exact (plainly_honoured _).bind (fun _ => awaitChecksum_honoured confirmed _ _)

theorem resetEcu_honoured :
    (confirmationContract bench factory).Honoured (resetEcu bench factory config) := by
  unfold resetEcu
  split
  · refine (plainly_honoured _).bind (fun _ => ?_)
    exact (criticalStep_honoured _ confirmed _).bind (fun _ => Contract.Honoured.pure)
  · exact Contract.Honoured.pure

theorem reprogram_honoured :
    (confirmationContract bench factory).Honoured (reprogram bench factory config) := by
  refine Contract.Honoured.bind ?_ (fun _ => ?_)
  · refine (verifyIdentity_honoured _ _).bind (fun _ => ?_)
    refine (verifyIdentity_honoured _ _).bind (fun _ => ?_)
    refine verifyVersion_honoured.bind (fun _ => ?_)
    exact (changeSession_honoured _).bind (fun _ => unlock_honoured confirmed)
  · refine (eraseMemory_honoured confirmed).bind (fun _ => ?_)
    refine (requestDownload_honoured confirmed).bind (fun blockSize => ?_)
    refine (transferBlocks_honoured confirmed _ _ _ _ _).bind (fun _ => ?_)
    refine (requestTransferExit_honoured confirmed).bind (fun _ => ?_)
    exact (verifyChecksum_honoured confirmed).bind (fun _ => resetEcu_honoured confirmed)

theorem recoveryExit_honoured :
    (confirmationContract bench factory).Honoured (recoveryExit bench factory config) := by
  apply honoured_of_presents
  intro state
  have presents := @recoveryExit_presents bench factory config state
  rw [confirmed] at presents
  exact presents

omit confirmed

theorem enter_honoured :
    (confirmationContract bench factory).Honoured (enter bench factory config) := by
  refine Contract.Honoured.require.bind (fun _ => ?_)
  refine Contract.Honoured.lift.bind (fun _ => ?_)
  refine Contract.Honoured.require.bind (fun _ => ?_)
  exact (plainly_honoured _).bind (fun _ => changeSession_honoured _)

end Steps

/-! ## At the gateway -/

theorem bindingFailure_kept {digests : Digests} {payload data : Bytes}
    {context : Option Bytes} {failure : Safety.ConfirmationFailure}
    (failed : Safety.bindingFailure digests payload data context = some failure) :
    failure ≠ .operatorMissing ∧ failure ≠ .tokenRequired := by
  unfold Safety.bindingFailure at failed
  split at failed
  · split at failed
    · cases failed
      decide
    · split at failed
      · cases failed
        decide
      · split at failed
        · cases failed
          decide
        · cases failed
  · split at failed
    · cases failed
      decide
    · cases failed

theorem parseConfirmationToken_kept {digests : Digests} {secret : Option Bytes}
    {token : Safety.TokenInput} {failure : Safety.ConfirmationFailure}
    (failed : Safety.parseConfirmationToken digests secret token = .error failure) :
    failure ≠ .operatorMissing ∧ failure ≠ .tokenRequired := by
  unfold Safety.parseConfirmationToken at failed
  split at failed
  · rename_i error malformed
    cases failed
    unfold Safety.tokenBytes at malformed
    split at malformed
    · cases malformed
    · split at malformed
      · cases malformed
        decide
      · cases malformed
    · cases malformed
      decide
  · split at failed
    · cases failed
      decide
    · dsimp only at failed
      split at failed
      · cases failed
        decide
      · split at failed
        · cases failed
        · cases failed
          decide

theorem verifyConfirmationToken_kept {digests : Digests} {secret : Option Bytes}
    {consumed : ReplayStore Bytes} {token : Safety.TokenInput} {frame : CanFrame}
    {context : Option Bytes} {now : Nat} {failure : Safety.ConfirmationFailure}
    (failed : Safety.verifyConfirmationToken digests secret consumed token frame context now =
      .error failure) : failure ≠ .operatorMissing ∧ failure ≠ .tokenRequired := by
  unfold Safety.verifyConfirmationToken at failed
  split at failed
  · rename_i unparsed
    cases failed
    exact parseConfirmationToken_kept unparsed
  · split at failed
    · cases failed
      decide
    · split at failed
      · rename_i unbound
        cases failed
        exact bindingFailure_kept unbound
      · split at failed
        · cases failed
          decide
        · split at failed
          · cases failed
            decide
          · cases failed

theorem confirmationStage_confirmed (digests : Digests) (gateway : Safety.Gateway)
    {request : Safety.TxRequest} (now : Nat) (confirmed : request.userConfirmed = true)
    {token : Safety.TokenInput} (carried : request.confirmationToken = some token) :
    ¬ LacksConfirmation digests gateway request now := by
  unfold LacksConfirmation Safety.confirmationStage
  rw [carried, confirmed]
  cases gateway.confirmationSecret with
  | none =>
      rintro (missing | missing)
      · cases missing
      · cases missing
  | some secret =>
      dsimp only
      cases verified : Safety.verifyConfirmationToken digests (some secret)
          gateway.consumedConfirmations token request.frame request.confirmationContext now with
      | error failure =>
          obtain ⟨operator, required⟩ := verifyConfirmationToken_kept verified
          rintro (missing | missing)
          · exact operator (Except.error.inj missing)
          · exact required (Except.error.inj missing)
      | ok pending =>
          rintro (missing | missing)
          · cases missing
          · cases missing

/-! ## The run -/

section Runs

variable {bench : Bench} {factory : TokenFactory} {config : FlashingConfig}

theorem agreed_of_met {state : ConfirmedState}
    (met : (confirmationContract bench factory).Met state.presented state) :
    Agreed bench.client.transport.txId factory state.presented := by
  have held := met.held (fun _ _ => trivial)
  refine ⟨held, (met.kept (fun _ _ => trivial)).nodup, ?_⟩
  intro entry member critical digests gateway request now carried
  obtain ⟨confirmed, token, present, _⟩ := held entry member critical
  have proof : request.confirmationToken = some token.value := by
    rw [carried.token, present]
    rfl
  exact confirmationStage_confirmed digests gateway now (carried.userConfirmed.trans confirmed) proof

theorem Fresh.initial : Fresh {} := ⟨List.nodup_nil, fun _ absent => absurd absent List.not_mem_nil⟩

theorem Met.extend {α : Type} {program : ConfirmedFlash α} {state : ConfirmedState}
    (honoured : (confirmationContract bench factory).Honoured program)
    (met : (confirmationContract bench factory).Met state.presented state) :
    (confirmationContract bench factory).Met (program state).2.presented (program state).2 := by
  obtain ⟨added, grows, rest⟩ := honoured state
  have joined := met.append rest
  rw [← show (program state).2.presented = state.presented ++ added from grows] at joined
  exact joined

theorem Met.initial :
    (confirmationContract bench factory).Met (({} : ConfirmedState).presented) {} :=
  Contract.Met.nil Fresh.initial

theorem confirmed_of_entered {opened : FlashState}
    (entered : plainEnter bench config {} = (.ok (), opened)) : config.userConfirmed = true := by
  have returns : Returns (fun _ => True) (fun _ => config.userConfirmed = true)
      (plainEnter bench config) := by
    refine Returns.anyway.bind (fun _ _ => ?_)
    refine Returns.anyway.bind (fun _ _ => ?_)
    refine Returns.anyway.bind (fun _ _ => ?_)
    by_cases confirmed : config.userConfirmed = true
    · exact Returns.anyway.weaken (fun _ _ => trivial) (fun _ _ => confirmed)
    · have refused : safetyValidation bench config = fail .notConfirmed := by
        unfold safetyValidation
        rw [require_of_unmet confirmed]
        rfl
      rw [refused]
      exact fun _ => trivial
  have holds := returns {}
  rw [entered] at holds
  exact holds

theorem plain_of_ran {α : Type} {program : ConfirmedFlash α} {plain : Flash α}
    {state after : ConfirmedState} {result : Except FlashError α}
    (follows : Follows ConfirmedState.flash program plain) (ran : program state = (result, after)) :
    plain state.flash = (result, after.flash) := by
  obtain ⟨same, shown⟩ := follows state
  rw [ran] at same shown
  exact Prod.ext same.symm shown.symm

theorem retreat_disagrees {state : ConfirmedState}
    (sends : bench.client.segment (buildDiagnosticSessionControl .default) = .ok ()) :
    ¬ Agreed bench.client.transport.txId factory (retreat bench factory state).2.presented := by
  intro agreed
  rcases @sendAndReceive_bare bench factory (buildDiagnosticSessionControl .default) state with
    ⟨_, _, refused⟩ | ⟨entry, grows, _, request, _, unconfirmed, _⟩
  · exact refused sends
  · have member : entry ∈ (retreat bench factory state).2.presented := by
      have same : (retreat bench factory state).2.presented = state.presented ++ [entry] := grows
      rw [same]
      exact List.mem_append_right _ (List.mem_singleton_self entry)
    have critical : entry.Critical := ⟨0x10, by decide, by rw [request]; rfl⟩
    have confirmed := (agreed.confirmed entry member critical).1
    rw [unconfirmed] at confirmed
    cases confirmed

theorem retreat_silent {state : ConfirmedState}
    (stays : bench.client.segment (buildDiagnosticSessionControl .default) ≠ .ok ()) :
    (retreat bench factory state).2.presented = state.presented := by
  rcases @sendAndReceive_bare bench factory (buildDiagnosticSessionControl .default) state with
    ⟨same, _⟩ | ⟨_, _, _, _, _, _, sends⟩
  · exact same
  · exact absurd sends stays

theorem recovery_agreed_iff {state : ConfirmedState} (confirmed : config.userConfirmed = true)
    (met : (confirmationContract bench factory).Met state.presented state) :
    Agreed bench.client.transport.txId factory
        (bestEffortRecovery bench factory config state).2.presented ↔
      ¬ ((∀ response, (exchange bench buildRequestTransferExit state.flash).1 = .ok response →
          response.isPositive = false) ∧
        bench.client.segment (buildDiagnosticSessionControl .default) = .ok ()) := by
  have exited := Met.extend (recoveryExit_honoured confirmed) met
  unfold bestEffortRecovery
  cases ran : recoveryExit bench factory config state with
  | mk result after =>
      rw [ran] at exited
      rw [plain_of_ran recoveryExit_follows ran]
      have retreats (unaccepted : ∀ response, result = .ok response → response.isPositive = false) :
          Agreed bench.client.transport.txId factory (retreat bench factory after).2.presented ↔
            ¬ ((∀ response, result = .ok response → response.isPositive = false) ∧
              bench.client.segment (buildDiagnosticSessionControl .default) = .ok ()) := by
        by_cases sends : bench.client.segment (buildDiagnosticSessionControl .default) = .ok ()
        · exact iff_of_false (retreat_disagrees sends) (fun stays => stays ⟨unaccepted, sends⟩)
        · refine iff_of_true ?_ (fun both => sends both.2)
          rw [retreat_silent sends]
          exact agreed_of_met exited
      cases result with
      | error error => exact retreats (fun response impossible => nomatch impossible)
      | ok response =>
          dsimp only
          by_cases accepted : response.isPositive = true
          · rw [if_pos accepted]
            refine iff_of_true (agreed_of_met exited) ?_
            rintro ⟨unaccepted, _⟩
            rw [unaccepted response rfl] at accepted
            cases accepted
          · rw [if_neg accepted]
            refine retreats (fun other same => ?_)
            cases same
            exact Bool.eq_false_iff.mpr accepted

/-- The requests of a run and of its recovery carry what the gateway asks for, exactly where the
recovery does not have to fall back to the default session. The keep-alive beside the run needs
no confirmation. -/
theorem confirmation_agreed_iff (bench : Bench) (factory : TokenFactory) (config : FlashingConfig) :
    (∀ entry : Presented, entry.request = buildTesterPresent true → ¬ entry.Critical) ∧
    (Agreed bench.client.transport.txId factory
        (executeFlash bench factory config {}).2.presented ↔ ¬ FallsBack bench config) := by
  constructor
  · rintro entry request ⟨sid, listed, head⟩
    rw [request] at head
    cases head
    exact absurd listed (by decide)
  · have entered := Met.extend (@enter_honoured bench factory config) Met.initial
    unfold executeFlash
    cases ran : enter bench factory config {} with
    | mk result opened =>
        rw [ran] at entered
        have plain := plain_of_ran (@enter_follows bench factory config) ran
        cases result with
        | error error =>
            rw [bind_of_error ran]
            refine iff_of_true (agreed_of_met entered) ?_
            rintro ⟨_, _, _, again, _⟩
            exact nomatch plain.symm.trans again
        | ok _ =>
            rw [bind_of_ok ran]
            have confirmed := confirmed_of_entered plain
            have reprogrammed := Met.extend (reprogram_honoured confirmed) entered
            unfold Dialogue.recovering
            cases next : reprogram bench factory config opened with
            | mk outcome failed =>
                rw [next] at reprogrammed
                have plainNext := plain_of_ran (@reprogram_follows bench factory config) next
                cases outcome with
                | ok _ =>
                    refine iff_of_true (agreed_of_met reprogrammed) ?_
                    rintro ⟨other, _, _, again, broken, _⟩
                    cases plain.symm.trans again
                    exact nomatch plainNext.symm.trans broken
                | error error =>
                    refine (recovery_agreed_iff confirmed reprogrammed).trans (not_congr ?_)
                    constructor
                    · intro refused
                      exact ⟨opened.flash, failed.flash, error, plain, plainNext, refused⟩
                    · rintro ⟨other, broken, _, again, failing, refused⟩
                      cases plain.symm.trans again
                      cases plainNext.symm.trans failing
                      exact refused

end Runs

/-! ## The image of another vehicle -/

/-- The vehicle has another number, and it has no transfer to exit from. -/
def strangerBench : Bench where
  client := { transport := { txId := 0x7E0, channelId := "uds_ch0" } }
  reply := fun _ payload =>
    { heard := [{
        polledNs := 0
        handledNs := 0
        message := .ok (match payload with
          | 0x10 :: sessionType :: _ => [0x50, sessionType]
          | 0x22 :: high :: low :: _ => [0x62, high, low, 0x57]
          | service :: _ => [0x7F, service, 0x24]
          | [] => []) }] }
  cancelled := fun _ => false
  gateway := fun _ => {}

def strangerConfig : FlashingConfig where
  memoryAddress := 0x1000
  data := [0x00]
  expectedVin := some ['V']
  userConfirmed := true
  firmwareSignature := some [0x01]
  trustedPubkey := some (fun signature image => decide (signature.length = image.length))
  accepted := by decide

def plainDigests : Digests where
  hmacSha256 := fun _ _ => List.replicate 32 0
  sha256 := fun _ => List.replicate 32 0
  hmacLength := blankHmac_length
  shaLength := blankSha_length

def numberedTokens : TokenFactory where
  ownedByEngine := true
  mint := fun serial _ => .bytes [UInt8.ofNat serial]
  digests := plainDigests

/-- The request for the default session, as the recovery hands it to the gateway. -/
def bareRetreat : Presented where
  request := [0x10, 0x01]
  firstFrame := [0x02, 0x10, 0x01, 0xCC, 0xCC, 0xCC, 0xCC, 0xCC]
  isCriticalCommand := false
  userConfirmed := false
  token := none
  context := none

/-- The gateway takes its frame for critical, and refuses it for want of the operator. -/
theorem recovery_refused_by_gateway :
    bareRetreat ∈ (executeFlash strangerBench numberedTokens strangerConfig {}).2.presented ∧
      Safety.bytesAreCritical ⟨[0x7E0], []⟩ 0x7E0 false false bareRetreat.firstFrame = true ∧
      (∀ digests gateway request now, bareRetreat.Carried request →
        LacksConfirmation digests gateway request now) ∧
      ¬ Agreed 0x7E0 numberedTokens
        (executeFlash strangerBench numberedTokens strangerConfig {}).2.presented := by
  have member : bareRetreat ∈
      (executeFlash strangerBench numberedTokens strangerConfig {}).2.presented := by
    decide +kernel
  refine ⟨member, by decide +kernel, ?_, ?_⟩
  · intro digests gateway request now carried
    have unconfirmed : request.userConfirmed = false := carried.userConfirmed
    have without : request.confirmationToken = none := carried.token
    left
    unfold Safety.confirmationStage
    rw [without, unconfirmed]
    cases gateway.confirmationSecret <;> rfl
  · intro agreed
    have critical : bareRetreat.Critical := by decide
    have confirmed := (agreed.confirmed bareRetreat member critical).1
    cases confirmed

end Confirmed

end Ucanlab.Uds
