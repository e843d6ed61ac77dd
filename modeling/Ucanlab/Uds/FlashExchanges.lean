import Ucanlab.Uds.Flasher

/-!
What the requests of a reprogramming run add to its log.
-/

namespace Ucanlab.Uds

open Ucanlab Dialogue UdsServiceBuilder

namespace Exchange

def service (entry : Exchange) : Option UInt8 := entry.request.head?

def Accepted (entry : Exchange) : Prop :=
  ∃ response, entry.outcome = .ok response ∧ response.isPositive = true

def Opening (entry : Exchange) : Prop :=
  entry.service = some diagnosticSessionControl ∨ entry.service = some readDataByIdentifier ∨
    entry.service = some securityAccess

theorem service_of_request {entry : Exchange} {service : UInt8} {rest : Bytes}
    (request : entry.request = service :: rest) : entry.service = some service := by
  unfold Exchange.service
  rw [request]
  rfl

end Exchange

/-- The conditions that the configuration alone decides. -/
def FlashError.fromConfig : FlashError → Bool
  | .build _ => true
  | .client (.segmentation (.payloadTooLarge _ _)) => true
  | .emptyData => true
  | .signatureMissing => true
  | .trustAnchorMissing => true
  | .signatureInvalid => true
  | .targetIdentityRequired => true
  | .notConfirmed => true
  | .checksumBypassDenied => true
  | _ => false

def Bench.Answers (bench : Bench) (payload : Bytes) (outcome : Except UdsError UdsResponse) : Prop :=
  ∃ history, bench.client.sendAndReceive payload (bench.reply history payload) = outcome

/-- A request that has to be answered positively: it was not built or not segmented, it came
to nothing, or it was answered so. -/
inductive Demanded (bench : Bench) (built : Except BuildError Bytes) :
    List Exchange → Except FlashError UdsResponse → Prop
  | unbuilt (error : BuildError) (refused : built = .error error) :
      Demanded bench built [] (.error (.build error))
  | unsegmented (payload : Bytes) (error : UdsError) (shape : built = .ok payload)
      (refused : bench.client.segment payload = .error error) :
      Demanded bench built [] (.error (.client error))
  | failed (entry : Exchange) (error : FlashError) (shape : built = .ok entry.request)
      (segmented : bench.client.segment entry.request = .ok ())
      (answers : bench.Answers entry.request entry.outcome) (unaccepted : ¬ entry.Accepted)
      (external : error.fromConfig = false) : Demanded bench built [entry] (.error error)
  | answered (entry : Exchange) (response : UdsResponse) (shape : built = .ok entry.request)
      (segmented : bench.client.segment entry.request = .ok ())
      (answers : bench.Answers entry.request entry.outcome)
      (outcome : entry.outcome = .ok response) (positive : response.isPositive = true) :
      Demanded bench built [entry] (.ok response)

section Steps

variable {bench : Bench} {config : FlashingConfig}

theorem Demanded.requests {built : Except BuildError Bytes} {added : List Exchange}
    {result : Except FlashError UdsResponse} (demanded : Demanded bench built added result) :
    ∀ entry ∈ added, built = .ok entry.request := by
  cases demanded with
  | unbuilt error refused =>
      intro entry absent
      cases absent
  | unsegmented payload error shape refused =>
      intro entry absent
      cases absent
  | failed entry error shape =>
      intro other member
      rw [List.mem_singleton.mp member]
      exact shape
  | answered entry response shape =>
      intro other member
      rw [List.mem_singleton.mp member]
      exact shape

theorem Demanded.answer {built : Except BuildError Bytes} {added : List Exchange}
    {response : UdsResponse} (demanded : Demanded bench built added (.ok response)) :
    ∃ entry, added = [entry] ∧ built = .ok entry.request ∧ entry.outcome = .ok response ∧
      response.isPositive = true := by
  cases demanded with
  | answered entry response shape segmented answers outcome positive =>
      exact ⟨entry, rfl, shape, outcome, positive⟩

theorem UdsClient.awaitResponse_error {client : UdsClient} {request : Bytes}
    {deadline nrc78Count : Nat} {heard : List Heard} {error : UdsError}
    (failed : client.awaitResponse request deadline nrc78Count heard = .error error) :
    (FlashError.client error).fromConfig = false := by
  induction heard generalizing deadline nrc78Count with
  | nil =>
      cases failed
      rfl
  | cons first rest ih =>
      unfold UdsClient.awaitResponse at failed
      split at failed
      · cases failed
        rfl
      · split at failed
        · cases failed
          rfl
        · split at failed
          · cases failed
            rfl
          · dsimp only at failed
            split at failed
            · exact ih failed
            · split at failed
              · exact ih failed
              · split at failed
                · split at failed
                  · exact ih failed
                  · cases failed
                    rfl
                · cases failed

theorem UdsClient.sendAndReceive_error {client : UdsClient} {payload : Bytes} {reply : Reply}
    {error : UdsError} (failed : client.sendAndReceive payload reply = .error error) :
    (FlashError.client error).fromConfig = false := by
  unfold UdsClient.sendAndReceive at failed
  split at failed
  · cases failed
    rfl
  · exact UdsClient.awaitResponse_error failed

theorem checkCancelled_silent : Silent FlashState.log (checkCancelled bench) :=
  fun state => ⟨[], (List.append_nil state.log).symm, rfl⟩

theorem consultGateway_silent {refusal : GatewayStatus → Except FlashError Unit} :
    Silent FlashState.log (consultGateway bench refusal) :=
  fun state => ⟨[], (List.append_nil state.log).symm, rfl⟩

theorem recheckPreconditions_silent {since : Nat} :
    Silent FlashState.log (recheckPreconditions bench since) := by
  unfold recheckPreconditions
  split
  · exact consultGateway_silent.bind (fun _ => rfl) (fun _ => Silent.pure)
  · exact Silent.pure

theorem sleep_silent {durationNs : Nat} : Silent FlashState.log (sleep durationNs) :=
  Silent.update (fun _ => rfl)

theorem safetyValidation_silent : Silent FlashState.log (safetyValidation bench config) :=
  Silent.require.bind (fun _ => rfl) (fun _ =>
    consultGateway_silent.bind (fun _ => rfl) (fun _ => consultGateway_silent))

theorem exchange_cases (bench : Bench) (payload : Bytes) (state : FlashState) :
    (∃ error, bench.client.segment payload = .error error ∧
      exchange bench payload state = (.error (.client error), state)) ∨
    (bench.client.segment payload = .ok () ∧ ∃ entry : Exchange, entry.request = payload ∧
      bench.Answers payload entry.outcome ∧
      (exchange bench payload state).1 = entry.outcome.mapError .client ∧
      (exchange bench payload state).2.log = state.log ++ [entry]) := by
  unfold exchange
  cases segmented : bench.client.segment payload with
  | error error => exact Or.inl ⟨error, rfl, rfl⟩
  | ok _ =>
      exact Or.inr ⟨rfl, { request := payload, outcome := _ }, rfl, ⟨state.log, rfl⟩, rfl, rfl⟩

theorem exchange_leaves (bench : Bench) (payload : Bytes) :
    Leaves FlashState.log (exchange bench payload) (fun added _ =>
      ∀ entry ∈ added, entry.request = payload) := by
  intro state
  rcases exchange_cases bench payload state with
    ⟨error, _, ran⟩ | ⟨_, entry, same, _, _, grows⟩
  · rw [ran]
    exact ⟨[], (List.append_nil _).symm, fun _ absent => absurd absent List.not_mem_nil⟩
  · refine ⟨[entry], grows, ?_⟩
    intro other member
    rw [List.mem_singleton.mp member]
    exact same

theorem retreat_leaves (bench : Bench) :
    Leaves FlashState.log (retreat bench) (fun added _ =>
      ∀ entry ∈ added, entry.request = buildDiagnosticSessionControl .default) :=
  exchange_leaves bench (buildDiagnosticSessionControl .default)

theorem bestEffortRecovery_leaves (bench : Bench) :
    Leaves FlashState.log (bestEffortRecovery bench) (fun added _ => ∀ entry ∈ added,
      entry.request = buildRequestTransferExit ∨
        entry.request = buildDiagnosticSessionControl .default) := by
  intro state
  obtain ⟨first, grows, exits⟩ := exchange_leaves bench buildRequestTransferExit state
  unfold bestEffortRecovery
  cases ran : exchange bench buildRequestTransferExit state with
  | mk result after =>
      rw [ran] at grows
      have retreats : ∃ added, (retreat bench after).2.log = state.log ++ added ∧
          ∀ entry ∈ added, entry.request = buildRequestTransferExit ∨
            entry.request = buildDiagnosticSessionControl .default := by
        obtain ⟨second, further, sessions⟩ := retreat_leaves bench after
        refine ⟨first ++ second, ?_, ?_⟩
        · rw [further, grows, List.append_assoc]
        · intro entry member
          rcases List.mem_append.mp member with early | late
          · exact Or.inl (exits entry early)
          · exact Or.inr (sessions entry late)
      cases result with
      | error error => exact retreats
      | ok response =>
          dsimp only
          split
          · exact ⟨first, grows, fun entry member => Or.inl (exits entry member)⟩
          · exact retreats

theorem demandOr_leaves {refusal : UdsResponse → FlashError}
    (external : ∀ response, (refusal response).fromConfig = false)
    (built : Except BuildError Bytes) :
    Leaves FlashState.log (demandOr bench refusal built) (Demanded bench built) := by
  intro state
  cases built with
  | error error => exact ⟨[], (List.append_nil _).symm, .unbuilt error rfl⟩
  | ok payload =>
      have requested : request bench (.ok payload) state = exchange bench payload state := rfl
      rcases exchange_cases bench payload state with
        ⟨error, refused, ran⟩ | ⟨segmented, entry, same, answers, result, grows⟩
      · rw [show demandOr bench refusal (.ok payload) state = (.error (.client error), state) from
          bind_of_error (requested.trans ran)]
        exact ⟨[], (List.append_nil _).symm, .unsegmented payload error rfl refused⟩
      · subst same
        cases outcome : entry.outcome with
        | error error =>
            rw [outcome] at result answers
            have ran : request bench (.ok entry.request) state =
                (.error (.client error), (exchange bench entry.request state).2) :=
              requested.trans (Prod.ext result rfl)
            rw [show demandOr bench refusal (.ok entry.request) state = _ from bind_of_error ran]
            refine ⟨[entry], grows, .failed entry _ rfl segmented (outcome ▸ answers) ?_ ?_⟩
            · rintro ⟨response, accepted, _⟩
              rw [outcome] at accepted
              cases accepted
            · obtain ⟨history, failed⟩ := answers
              exact UdsClient.sendAndReceive_error failed
        | ok response =>
            rw [outcome] at result answers
            have ran : request bench (.ok entry.request) state =
                (.ok response, (exchange bench entry.request state).2) :=
              requested.trans (Prod.ext result rfl)
            rw [show demandOr bench refusal (.ok entry.request) state = _ from bind_of_ok ran]
            by_cases positive : response.isPositive = true
            · rw [require_of_met positive]
              exact ⟨[entry], grows, .answered entry response rfl segmented (outcome ▸ answers)
                outcome positive⟩
            · rw [require_of_unmet positive]
              refine ⟨[entry], grows, .failed entry _ rfl segmented (outcome ▸ answers) ?_
                (external response)⟩
              rintro ⟨other, accepted, good⟩
              rw [outcome] at accepted
              cases accepted
              exact positive good

theorem demand_leaves (service : UInt8) (built : Except BuildError Bytes) :
    Leaves FlashState.log (demand bench service built) (Demanded bench built) :=
  demandOr_leaves (fun _ => rfl) built

section Openings

open Exchange

theorem Demanded.every {kind : Exchange → Prop} {built : Except BuildError Bytes}
    {added : List Exchange} {result : Except FlashError UdsResponse}
    (demanded : Demanded bench built added result)
    (kinds : ∀ entry, built = .ok entry.request → kind entry) :
    Every kind Exchange.Accepted added result := by
  constructor
  · intro entry member
    exact kinds entry (demanded.requests entry member)
  · intro response succeeded
    rw [succeeded] at demanded
    obtain ⟨entry, only, _, outcome, positive⟩ := demanded.answer
    intro other member
    rw [only] at member
    rw [List.mem_singleton.mp member]
    exact ⟨response, outcome, positive⟩

theorem demandOr_every {kind : Exchange → Prop} {refusal : UdsResponse → FlashError}
    (external : ∀ response, (refusal response).fromConfig = false)
    {built : Except BuildError Bytes} (kinds : ∀ entry, built = .ok entry.request → kind entry) :
    Leaves FlashState.log (demandOr bench refusal built) (Every kind Exchange.Accepted) :=
  (demandOr_leaves external built).weaken (fun _ _ demanded => demanded.every kinds)

theorem demand_every {kind : Exchange → Prop} {service : UInt8}
    {built : Except BuildError Bytes} (kinds : ∀ entry, built = .ok entry.request → kind entry) :
    Leaves FlashState.log (demand bench service built) (Every kind Exchange.Accepted) :=
  demandOr_every (fun _ => rfl) kinds

theorem changeSession_opening (sessionType : DiagnosticSessionType) :
    Leaves FlashState.log (changeSession bench sessionType)
      (Every Exchange.Opening Exchange.Accepted) := by
  apply checkCancelled_silent.every_bind
  intro _
  apply Leaves.every_bind
  · apply demand_every
    intro entry shape
    exact Or.inl (service_of_request (Except.ok.inj shape).symm)
  · intro _
    exact Silent.pure.every

theorem verifyIdentity_opening (did : Int) (expected : Option (List Char)) :
    Leaves FlashState.log (verifyIdentity bench did expected)
      (Every Exchange.Opening Exchange.Accepted) := by
  cases expected with
  | none => exact Silent.pure.every
  | some text =>
      apply Leaves.every_bind
      · apply demand_every
        intro entry shape
        exact Or.inr (Or.inl (service_of_request (buildReadDataByIdentifier_eq_ok.mp shape).2))
      · intro _
        exact Silent.require.every

theorem verifyVersion_opening :
    Leaves FlashState.log (verifyVersion bench config)
      (Every Exchange.Opening Exchange.Accepted) := by
  unfold verifyVersion
  split
  · apply Leaves.every_bind
    · apply demandOr_every (fun _ => rfl)
      intro entry shape
      exact Or.inr (Or.inl (service_of_request (buildReadDataByIdentifier_eq_ok.mp shape).2))
    · intro response
      apply Silent.lift.every_bind
      intro version
      cases version with
      | none => exact Leaves.fail Every.silent
      | some current => exact Silent.require.every
  · exact Silent.pure.every

theorem unlock_opening :
    Leaves FlashState.log (unlock bench config) (Every Exchange.Opening Exchange.Accepted) := by
  unfold unlock
  split
  · apply checkCancelled_silent.every_bind
    intro _
    apply Leaves.every_bind
    · apply demand_every
      intro entry shape
      exact Or.inr (Or.inr (service_of_request (buildSecurityAccessRequestSeed_eq_ok.mp shape).2))
    · intro seed
      apply Silent.lift.every_bind
      intro key
      apply Leaves.every_bind
      · apply demand_every
        intro entry shape
        exact Or.inr (Or.inr (service_of_request (buildSecurityAccessSendKey_eq_ok.mp shape).2))
      · intro _
        exact Silent.pure.every
  · exact Silent.pure.every

theorem openProgramming_opening :
    Leaves FlashState.log (openProgramming bench config)
      (Every Exchange.Opening Exchange.Accepted) := by
  apply (verifyIdentity_opening vinDid config.expectedVin).every_bind
  intro _
  apply (verifyIdentity_opening serialDid config.expectedSerial).every_bind
  intro _
  apply verifyVersion_opening.every_bind
  intro _
  apply (changeSession_opening .programming).every_bind
  intro _
  exact unlock_opening

end Openings

end Steps

end Ucanlab.Uds
