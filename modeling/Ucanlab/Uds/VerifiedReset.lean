import Ucanlab.Lib.BitField
import Ucanlab.Uds.FlashExchanges

/-!
An ECU is reset only into an image that was transferred and verified.
-/

namespace Ucanlab.Uds

open Ucanlab Dialogue UdsServiceBuilder

/-- Every byte of an image in blocks from a counter on, each block acknowledged with its own
counter. -/
inductive TransferredFrom : Nat → Bytes → List Exchange → Prop
  | done (counter : Nat) : TransferredFrom counter [] []
  | block {counter : Nat} {chunk rest : Bytes} {entry : Exchange} {later : List Exchange}
      {response : UdsResponse} (nonempty : chunk ≠ [])
      (request : entry.request = transferDataService :: UInt8.ofNat counter :: chunk)
      (outcome : entry.outcome = .ok response) (positive : response.isPositive = true)
      (echo : response.data.head? = some (UInt8.ofNat counter))
      (others : TransferredFrom ((counter + 1) % 256) rest later) :
      TransferredFrom counter (chunk ++ rest) (entry :: later)

structure ChecksumStarted (config : FlashingConfig) (entry : Exchange) : Prop where
  request : entry.request =
    [routineControl, RoutineControlType.startRoutine.value, highByte config.checksumRoutineId,
      lowByte config.checksumRoutineId] ++ natToBytes 4 (crc32 config.data)
  accepted : entry.Accepted

def CorrectCompletion (config : FlashingConfig) (results : List Exchange) : Prop :=
  ∃ polls last response, results = polls ++ [last] ∧
    last.request = routineControl :: routinePrefix config ∧ last.outcome = .ok response ∧
    response.isPositive = true ∧ response.data.take 4 = routinePrefix config ++ [0x00]

/-- A log with the whole image transferred, the exit accepted and the checksum confirmed, in
this order and behind requests that are no blocks and no resets. -/
structure Verified (config : FlashingConfig) (log : List Exchange) : Prop where
  stages : ∃ opening blocks exit start results,
    log = opening ++ (blocks ++ (exit :: start :: results)) ∧
    (∀ entry ∈ opening, entry.service ≠ some transferDataService) ∧
    TransferredFrom 1 config.data blocks ∧
    exit.request = [requestTransferExitService] ∧ exit.Accepted ∧
    ChecksumStarted config start ∧ CorrectCompletion config results

def ResetsVerified (config : FlashingConfig) (log : List Exchange) : Prop :=
  ∀ before reset after, log = before ++ reset :: after →
    reset.service = some ecuResetService → Verified config before

def Completed (config : FlashingConfig) (log : List Exchange) : Prop :=
  (∀ entry ∈ log, entry.Accepted) ∧
    ∃ verified resets, log = verified ++ resets ∧ Verified config verified ∧
      (config.resetAfterFlash = true →
        ∃ reset, resets = [reset] ∧ reset.service = some ecuResetService)

theorem split_front {front back before after : List Exchange} {entry : Exchange}
    (same : front ++ back = before ++ entry :: after) (absent : entry ∉ back) :
    ∃ rest, front = before ++ entry :: rest := by
  rcases List.append_eq_append_iff.mp same with ⟨middle, split, shape⟩ | ⟨middle, split, shape⟩
  · have member : entry ∈ back := by
      rw [shape]
      exact List.mem_append_right _ List.mem_cons_self
    exact absurd member absent
  · cases middle with
    | nil =>
        have member : entry ∈ back := by
          rw [List.nil_append] at shape
          rw [← shape]
          exact List.mem_cons_self
        exact absurd member absent
    | cons first rest =>
        rw [List.cons_append] at shape
        cases shape
        exact ⟨rest, split⟩

theorem ResetsVerified.append {config : FlashingConfig} {front back : List Exchange}
    (verified : ResetsVerified config front)
    (none : ∀ entry ∈ back, entry.service ≠ some ecuResetService) :
    ResetsVerified config (front ++ back) := by
  intro before reset after split service
  obtain ⟨rest, shape⟩ := split_front split (fun member => none reset member service)
  exact verified before reset rest shape service

theorem resetsVerified_of_none {config : FlashingConfig} {log : List Exchange}
    (none : ∀ entry ∈ log, entry.service ≠ some ecuResetService) : ResetsVerified config log := by
  intro before reset after split service
  refine absurd service (none reset ?_)
  rw [split]
  exact List.mem_append_right _ List.mem_cons_self

theorem resetsVerified_last {config : FlashingConfig} {log : List Exchange} {last : Exchange}
    (none : ∀ entry ∈ log, entry.service ≠ some ecuResetService) (verified : Verified config log) :
    ResetsVerified config (log ++ [last]) := by
  intro before reset after split service
  rcases List.append_eq_append_iff.mp split with ⟨middle, longer, shape⟩ | ⟨middle, shorter, shape⟩
  · cases middle with
    | nil =>
        rw [List.append_nil] at longer
        rw [longer]
        exact verified
    | cons first rest =>
        have sizes := congrArg List.length shape
        rw [List.length_singleton, List.length_append, List.length_cons, List.length_cons] at sizes
        omega
  · cases middle with
    | nil =>
        rw [List.append_nil] at shorter
        rw [← shorter]
        exact verified
    | cons first rest =>
        rw [List.cons_append] at shape
        cases shape
        refine absurd service (none reset ?_)
        rw [shorter]
        exact List.mem_append_right _ List.mem_cons_self

def Exchange.Quiet (entry : Exchange) : Prop :=
  entry.service ≠ some transferDataService ∧ entry.service ≠ some ecuResetService

theorem Exchange.quiet_of_service {entry : Exchange} {service : UInt8} {rest : Bytes}
    (request : entry.request = service :: rest) (block : service ≠ transferDataService)
    (reset : service ≠ ecuResetService) : entry.Quiet := by
  unfold Exchange.Quiet Exchange.service
  rw [request, List.head?_cons]
  exact ⟨fun same => block (Option.some.inj same), fun same => reset (Option.some.inj same)⟩

section Phases

variable {bench : Bench} {config : FlashingConfig}

theorem quiet_of_opening {entry : Exchange} (opening : entry.Opening) : entry.Quiet := by
  rcases opening with session | read | access
  · exact ⟨fun same => absurd (session.symm.trans same) (by decide),
      fun same => absurd (session.symm.trans same) (by decide)⟩
  · exact ⟨fun same => absurd (read.symm.trans same) (by decide),
      fun same => absurd (read.symm.trans same) (by decide)⟩
  · exact ⟨fun same => absurd (access.symm.trans same) (by decide),
      fun same => absurd (access.symm.trans same) (by decide)⟩

theorem eraseMemory_routine :
    Leaves FlashState.log (eraseMemory bench config)
      (Every (fun entry => entry.service = some routineControl) Exchange.Accepted) := by
  unfold eraseMemory
  split
  · exact Silent.pure.every
  · apply checkCancelled_silent.every_bind
    intro _
    apply Leaves.every_bind
    · apply demand_every
      intro entry shape
      exact Exchange.service_of_request (buildRoutineControl_eq_ok.mp shape).2
    · intro _
      exact Silent.pure.every

theorem eraseMemory_quiet :
    Leaves FlashState.log (eraseMemory bench config)
      (Every Exchange.Quiet Exchange.Accepted) := by
  apply eraseMemory_routine.weaken
  intro added result routine
  refine ⟨fun entry member => ?_, routine.good⟩
  have service := routine.kind entry member
  exact ⟨by rw [service]; decide, by rw [service]; decide⟩

def Granted (config : FlashingConfig) (added : List Exchange) (blockSize : Nat) : Prop :=
  ∃ entry response maxBlockLen, added = [entry] ∧ entry.outcome = .ok response ∧
    response.isPositive = true ∧ parseMaxBlockLength response.data = .ok maxBlockLen ∧
    blockSize = min config.blockSize.toNat (max (maxBlockLen - 2) 1)

theorem requestDownload_granted :
    Leaves FlashState.log (requestDownload bench config) (fun added result =>
      (∀ entry ∈ added, entry.service = some requestDownloadService) ∧
        ∀ blockSize, result = .ok blockSize → Granted config added blockSize) := by
  apply checkCancelled_silent.bind
  · intro error
    exact ⟨fun _ absent => absurd absent List.not_mem_nil, fun _ impossible => nomatch impossible⟩
  · intro _
    apply (demand_leaves requestDownloadService _).bind
    · intro added error demanded
      refine ⟨fun entry member => ?_, fun _ impossible => nomatch impossible⟩
      exact Exchange.service_of_request
        (buildRequestDownload_eq_ok.mp (demanded.requests entry member)).2
    · intro added response demanded
      have services : ∀ entry ∈ added, entry.service = some requestDownloadService :=
        fun entry member => Exchange.service_of_request
          (buildRequestDownload_eq_ok.mp (demanded.requests entry member)).2
      obtain ⟨entry, only, _, outcome, positive⟩ := demanded.answer
      apply Leaves.lift_bind
      · intro error _
        rw [List.append_nil]
        exact ⟨services, fun _ impossible => nomatch impossible⟩
      · intro maxBlockLen parsed
        apply Leaves.pure
        rw [List.append_nil]
        refine ⟨services, ?_⟩
        intro blockSize chosen
        exact ⟨entry, response, maxBlockLen, only, outcome, positive, parsed,
          (Except.ok.inj chosen).symm⟩

theorem Granted.positive {added : List Exchange} {blockSize : Nat}
    (granted : Granted config added blockSize) : 1 ≤ blockSize := by
  obtain ⟨entry, response, maxBlockLen, _, _, _, _, chosen⟩ := granted
  have least := (FlashingConfig.blockSize_bounds config).1
  omega

theorem requestDownload_quiet :
    Leaves FlashState.log (requestDownload bench config) (fun added result =>
      Every Exchange.Quiet Exchange.Accepted added result ∧
        ∀ blockSize, result = .ok blockSize → 1 ≤ blockSize) := by
  apply requestDownload_granted.weaken
  rintro added result ⟨services, grants⟩
  refine ⟨⟨fun entry member => ?_, ?_⟩, fun blockSize chosen => (grants blockSize chosen).positive⟩
  · have service := services entry member
    exact ⟨by rw [service]; decide, by rw [service]; decide⟩
  · intro blockSize chosen entry member
    obtain ⟨only, response, _, rfl, outcome, positive, _, _⟩ := grants blockSize chosen
    rw [List.mem_singleton.mp member]
    exact ⟨response, outcome, positive⟩

section Transfer

variable {blockSize : Nat}

theorem transferredFrom_accepted {counter : Nat} {image : Bytes} {blocks : List Exchange}
    (transferred : TransferredFrom counter image blocks) : ∀ entry ∈ blocks, entry.Accepted := by
  induction transferred with
  | done counter =>
      intro entry absent
      cases absent
  | block nonempty request outcome positive echo others ih =>
      intro entry member
      rcases List.mem_cons.mp member with rfl | later
      · exact ⟨_, outcome, positive⟩
      · exact ih entry later

theorem blockEcho_ok {blockSeq : Nat} {data : Bytes} (small : blockSeq < 256)
    (checked : blockEcho blockSeq data = .ok ()) :
    data.head? = some (UInt8.ofNat blockSeq) := by
  cases data with
  | nil => cases checked
  | cons echo rest =>
      change (if echo ≠ UInt8.ofNat (blockSeq &&& 0xFF) then Except.error _ else Except.ok ()) =
        Except.ok () at checked
      split at checked
      · cases checked
      · rename_i same
        have low : blockSeq &&& 0xFF = blockSeq := by
          rw [Nat.and_two_pow_sub_one_eq_mod blockSeq 8, Nat.mod_eq_of_lt small]
        rw [low] at same
        rw [List.head?_cons, not_not.mp same]

theorem chunk_append_rest (image : Bytes) (sent size : Nat) :
    (image.drop sent).take size ++ image.drop (sent + ((image.drop sent).take size).length) =
      image.drop sent := by
  rw [← List.drop_drop, List.length_take]
  by_cases short : size ≤ (image.drop sent).length
  · rw [Nat.min_eq_left short, List.take_append_drop]
  · rw [Nat.min_eq_right (Nat.le_of_not_le short), List.drop_length,
      List.take_of_length_le (Nat.le_of_not_le short), List.append_nil]

theorem block_request {counter : Nat} {chunk payload : Bytes} (small : counter < 256)
    (built : buildTransferData counter chunk = .ok payload) :
    payload = transferDataService :: UInt8.ofNat counter :: chunk := by
  have low : lowByte (counter : Int) = UInt8.ofNat counter := by
    unfold lowByte
    rw [Int.toNat_natCast, Nat.and_two_pow_sub_one_eq_mod counter 8, Nat.mod_eq_of_lt small]
  rw [(buildTransferData_eq_ok.mp built).2, low]
  rfl

theorem block_service {counter : Int} {chunk : Bytes} {entry : Exchange}
    (built : buildTransferData counter chunk = .ok entry.request) :
    entry.service = some transferDataService := by
  unfold Exchange.service
  rw [(buildTransferData_eq_ok.mp built).2]
  rfl

theorem transferBlocks_leaves (positive : 1 ≤ blockSize) (fuel sent counter since : Nat)
    (enough : config.data.length ≤ sent + fuel) (small : counter < 256) :
    Leaves FlashState.log (transferBlocks bench config blockSize fuel sent counter since)
      (fun added result => (∀ entry ∈ added, entry.service = some transferDataService) ∧
        (result = .ok () → TransferredFrom counter (config.data.drop sent) added)) := by
  induction fuel generalizing sent counter since with
  | zero =>
      apply Leaves.pure
      refine ⟨fun _ absent => absurd absent List.not_mem_nil, fun _ => ?_⟩
      rw [List.drop_eq_nil_of_le (by omega)]
      exact .done counter
  | succ fuel ih =>
      unfold transferBlocks
      by_cases more : sent < config.data.length
      · rw [if_pos more]
        have stopped : ∀ error : FlashError, (∀ entry ∈ ([] : List Exchange),
            entry.service = some transferDataService) ∧
            (Except.error error = Except.ok () →
              TransferredFrom counter (config.data.drop sent) []) :=
          fun _ => ⟨fun _ absent => absurd absent List.not_mem_nil, fun impossible => nomatch impossible⟩
        apply checkCancelled_silent.bind stopped
        intro _
        apply recheckPreconditions_silent.bind stopped
        intro since
        apply (demand_leaves transferDataService _).bind
        · intro added error demanded
          refine ⟨?_, fun impossible => nomatch impossible⟩
          intro entry member
          exact block_service (demanded.requests entry member)
        · intro added response demanded
          obtain ⟨entry, rfl, shape, outcome, accepted⟩ := demanded.answer
          have service := block_service shape
          apply Leaves.lift_bind
          · intro error _
            refine ⟨?_, fun impossible => nomatch impossible⟩
            intro other member
            rw [List.append_nil, List.mem_singleton] at member
            rw [member]
            exact service
          · intro _ echoed
            have nonempty : (config.data.drop sent).take blockSize ≠ [] := by
              intro empty
              have length := congrArg List.length empty
              rw [List.length_take, List.length_drop, List.length_nil] at length
              omega
            have taken := List.length_pos_of_ne_nil nonempty
            have next : (counter + 1) &&& 0xFF = (counter + 1) % 256 :=
              Nat.and_two_pow_sub_one_eq_mod _ 8
            apply (ih (sent + ((config.data.drop sent).take blockSize).length)
              ((counter + 1) &&& 0xFF) (since + 1) (by omega)
              (by rw [next]; exact Nat.mod_lt _ (by decide))).weaken
            rintro later result ⟨blocks, rest⟩
            refine ⟨?_, ?_⟩
            · intro other member
              rcases List.mem_cons.mp member with rfl | behind
              · exact service
              · exact blocks other behind
            · intro succeeded
              rw [← chunk_append_rest config.data sent blockSize]
              have others := rest succeeded
              rw [next] at others
              exact .block nonempty (block_request small shape) outcome accepted
                (blockEcho_ok small echoed) others
      · rw [if_neg more]
        apply Leaves.pure
        refine ⟨fun _ absent => absurd absent List.not_mem_nil, fun _ => ?_⟩
        rw [List.drop_eq_nil_of_le (by omega)]
        exact .done counter

end Transfer

section Completion

theorem routineStatus_ok {data : Bytes} {status : UInt8}
    (reported : routineStatus config data = .ok status) :
    data.take 4 = routinePrefix config ++ [status] := by
  unfold routineStatus at reported
  split at reported
  · cases reported
  · split at reported
    · cases reported
    · rename_i echo
      split at reported
      · cases reported
      · rename_i rest status
        cases reported
        have split := List.take_append_drop 3 data
        rw [not_not.mp echo, status] at split
        rw [← split]
        rfl

theorem routine_every {controlType : RoutineControlType} {routineId : Int} {options : Bytes}
    {added : List Exchange} {result : Except FlashError UdsResponse}
    (demanded : Demanded bench (buildRoutineControl controlType routineId options) added result) :
    Every Exchange.Quiet Exchange.Accepted added result :=
  demanded.every (fun _ shape => Exchange.quiet_of_service (buildRoutineControl_eq_ok.mp shape).2
    (by decide) (by decide))

theorem awaitChecksum_leaves (deadline polls : Nat) :
    Leaves FlashState.log (awaitChecksum bench config deadline polls) (fun added result =>
      Every Exchange.Quiet Exchange.Accepted added result ∧
        (result = .ok () → CorrectCompletion config added)) := by
  induction polls with
  | zero => exact Leaves.fail ⟨Every.silent, fun impossible => nomatch impossible⟩
  | succ polls ih =>
      unfold awaitChecksum
      apply (demand_leaves routineControl _).bind
      · intro added error demanded
        exact ⟨(routine_every demanded).failed, fun impossible => nomatch impossible⟩
      · intro added response demanded
        have poll := routine_every demanded
        obtain ⟨entry, rfl, shape, outcome, positive⟩ := demanded.answer
        have asked := (buildRoutineControl_eq_ok.mp shape).2
        have stopped : ∀ error : FlashError,
            Every Exchange.Quiet Exchange.Accepted ([entry] ++ []) (.error error : Except _ Unit) ∧
              (Except.error error = Except.ok () → CorrectCompletion config ([entry] ++ [])) :=
          fun _ => ⟨poll.failed, fun impossible => nomatch impossible⟩
        apply Leaves.lift_bind (fun error _ => stopped error)
        intro status reported
        by_cases completed : status = 0x00
        · rw [if_pos completed]
          apply Leaves.pure
          rw [List.append_nil]
          refine ⟨⟨poll.kind, fun _ _ => poll.good response rfl⟩,
            fun _ => ⟨[], entry, response, rfl, ?_, outcome, positive, ?_⟩⟩
          · rw [asked, List.append_nil]
            rfl
          · exact routineStatus_ok (completed ▸ reported)
        · rw [if_neg completed]
          by_cases pending : status = 0x01
          · rw [if_pos pending]
            apply Silent.read.bind stopped
            intro now
            apply Leaves.require_bind (fun _ => stopped _)
            intro _
            apply sleep_silent.bind stopped
            intro _
            apply ih.weaken
            rintro later result ⟨rest, completion⟩
            refine ⟨poll.append rest, ?_⟩
            intro succeeded
            obtain ⟨polls, last, final, split, others⟩ := completion succeeded
            exact ⟨entry :: polls, last, final, congrArg (entry :: ·) split, others⟩
          · rw [if_neg pending]
            exact Leaves.fail (stopped _)

theorem verifyChecksum_leaves :
    Leaves FlashState.log (verifyChecksum bench config) (fun added result =>
      Every Exchange.Quiet Exchange.Accepted added result ∧
        (result = .ok () → ∃ start results, added = start :: results ∧
          ChecksumStarted config start ∧ CorrectCompletion config results)) := by
  have stopped : ∀ error : FlashError,
      Every Exchange.Quiet Exchange.Accepted [] (.error error : Except _ Unit) ∧
        (Except.error error = Except.ok () → ∃ start results, [] = start :: results ∧
          ChecksumStarted config start ∧ CorrectCompletion config results) :=
    fun _ => ⟨Every.silent, fun impossible => nomatch impossible⟩
  apply Leaves.require_bind (fun _ => stopped _)
  intro _
  apply checkCancelled_silent.bind stopped
  intro _
  apply (demand_leaves routineControl _).bind
  · intro added error demanded
    exact ⟨(routine_every demanded).failed, fun impossible => nomatch impossible⟩
  · intro added response demanded
    have start := routine_every demanded
    obtain ⟨entry, rfl, shape, outcome, positive⟩ := demanded.answer
    have asked := (buildRoutineControl_eq_ok.mp shape).2
    apply Silent.read.bind
    · intro error
      exact ⟨start.failed, fun impossible => nomatch impossible⟩
    · intro now
      apply (awaitChecksum_leaves (now + routineTimeoutNs) routinePolls).weaken
      rintro later result ⟨rest, completion⟩
      refine ⟨start.append rest, ?_⟩
      intro succeeded
      exact ⟨entry, later, rfl, ⟨asked, response, outcome, positive⟩, completion succeeded⟩

end Completion

theorem requestTransferExit_leaves :
    Leaves FlashState.log (requestTransferExit bench) (fun added result =>
      Every Exchange.Quiet Exchange.Accepted added result ∧
        (result = .ok () → ∃ exit, added = [exit] ∧ exit.request = [requestTransferExitService])) := by
  apply checkCancelled_silent.bind
  · intro error
    exact ⟨Every.silent, fun impossible => nomatch impossible⟩
  · intro _
    have quiet (entry : Exchange)
        (shape : (.ok buildRequestTransferExit : Except BuildError Bytes) = .ok entry.request) :
        entry.Quiet :=
      Exchange.quiet_of_service (Except.ok.inj shape).symm (by decide) (by decide)
    apply (demand_leaves requestTransferExitService _).bind
    · intro added error demanded
      exact ⟨⟨fun entry member => quiet entry (demanded.requests entry member),
        fun _ impossible => nomatch impossible⟩, fun impossible => nomatch impossible⟩
    · intro added response demanded
      obtain ⟨entry, rfl, shape, outcome, positive⟩ := demanded.answer
      apply Leaves.pure
      rw [List.append_nil]
      refine ⟨⟨?_, ?_⟩, fun _ => ⟨entry, rfl, (Except.ok.inj shape).symm⟩⟩
      · intro other member
        rw [List.mem_singleton.mp member]
        exact quiet entry shape
      · intro _ _ other member
        rw [List.mem_singleton.mp member]
        exact ⟨response, outcome, positive⟩

theorem resetEcu_leaves :
    Leaves FlashState.log (resetEcu bench config) (fun added result =>
      (added = [] ∨ ∃ reset, added = [reset] ∧ reset.service = some ecuResetService) ∧
        (result = .ok () → (∀ entry ∈ added, entry.Accepted) ∧
          (config.resetAfterFlash = true → added ≠ []))) := by
  unfold resetEcu
  by_cases resets : config.resetAfterFlash = true
  · rw [if_pos resets]
    apply checkCancelled_silent.bind
    · intro error
      exact ⟨Or.inl rfl, fun impossible => nomatch impossible⟩
    · intro _
      apply (demand_leaves ecuResetService _).bind
      · intro added error demanded
        refine ⟨?_, fun impossible => nomatch impossible⟩
        cases demanded with
        | unbuilt error refused => exact Or.inl rfl
        | unsegmented payload error shape refused => exact Or.inl rfl
        | failed entry error shape =>
            refine Or.inr ⟨entry, rfl, ?_⟩
            unfold Exchange.service
            rw [(buildEcuReset_eq_ok.mp shape).2]
            rfl
      · intro added response demanded
        obtain ⟨entry, rfl, shape, outcome, positive⟩ := demanded.answer
        apply Leaves.pure
        rw [List.append_nil]
        refine ⟨Or.inr ⟨entry, rfl, ?_⟩, fun _ => ⟨?_, fun _ => List.cons_ne_nil _ _⟩⟩
        · unfold Exchange.service
          rw [(buildEcuReset_eq_ok.mp shape).2]
          rfl
        · intro other member
          rw [List.mem_singleton.mp member]
          exact ⟨response, outcome, positive⟩
  · rw [if_neg resets]
    apply Leaves.pure
    exact ⟨Or.inl rfl, fun _ => ⟨fun _ absent => absurd absent List.not_mem_nil,
      fun configured => absurd configured resets⟩⟩

def Unreset (log : List Exchange) : Prop :=
  ∀ entry ∈ log, entry.service ≠ some ecuResetService

theorem Unreset.append {front back : List Exchange} (first : Unreset front)
    (second : Unreset back) : Unreset (front ++ back) := by
  intro entry member
  rcases List.mem_append.mp member with early | late
  · exact first entry early
  · exact second entry late

theorem unreset_of_quiet {log : List Exchange} (quiet : ∀ entry ∈ log, entry.Quiet) :
    Unreset log := fun entry member => (quiet entry member).2

theorem unreset_of_opening {log : List Exchange} (opening : ∀ entry ∈ log, entry.Opening) :
    Unreset log := fun entry member => (quiet_of_opening (opening entry member)).2

theorem unreset_of_blocks {log : List Exchange}
    (blocks : ∀ entry ∈ log, entry.service = some transferDataService) : Unreset log := by
  intro entry member
  rw [blocks entry member]
  decide

theorem unreset_of_recovery {log : List Exchange} (requests : ∀ entry ∈ log,
    entry.request = buildRequestTransferExit ∨
      entry.request = buildDiagnosticSessionControl .default) : Unreset log := by
  intro entry member
  unfold Exchange.service
  rcases requests entry member with exits | session
  · rw [exits]
    decide
  · rw [session]
    decide

theorem accepted_append {front back : List Exchange} (first : ∀ entry ∈ front, entry.Accepted)
    (second : ∀ entry ∈ back, entry.Accepted) : ∀ entry ∈ front ++ back, entry.Accepted := by
  intro entry member
  rcases List.mem_append.mp member with early | late
  · exact first entry early
  · exact second entry late

theorem download_leaves {opening : List Exchange} (quiet : ∀ entry ∈ opening, entry.Quiet)
    (accepted : ∀ entry ∈ opening, entry.Accepted) :
    Leaves FlashState.log (download bench config) (fun added result =>
      ResetsVerified config (opening ++ added) ∧
        (result = .ok () → Completed config (opening ++ added))) := by
  have stops {log : List Exchange} (unreset : Unreset log) (error : FlashError) :
      ResetsVerified config log ∧
        ((.error error : Except FlashError Unit) = .ok () → Completed config log) :=
    ⟨resetsVerified_of_none unreset, fun impossible => nomatch impossible⟩
  have openingUnreset := unreset_of_quiet quiet
  apply eraseMemory_quiet.bind
  · intro erase error every
    exact stops (openingUnreset.append (unreset_of_quiet every.kind)) error
  · intro erase _ erased
    have eraseUnreset := openingUnreset.append (unreset_of_quiet erased.kind)
    apply requestDownload_quiet.bind
    · rintro asked error ⟨every, _⟩
      rw [← List.append_assoc]
      exact stops (eraseUnreset.append (unreset_of_quiet every.kind)) error
    · rintro asked blockSize ⟨granted, positive⟩
      have askedUnreset := eraseUnreset.append (unreset_of_quiet granted.kind)
      apply (transferBlocks_leaves (positive blockSize rfl) config.data.length 0 1 0
        (by rw [Nat.zero_add]) (by decide)).bind
      · rintro blocks error ⟨services, _⟩
        rw [← List.append_assoc, ← List.append_assoc]
        exact stops (askedUnreset.append (unreset_of_blocks services)) error
      · rintro blocks _ ⟨services, image⟩
        have transferred : TransferredFrom 1 config.data blocks := image rfl
        have blocksUnreset := askedUnreset.append (unreset_of_blocks services)
        apply requestTransferExit_leaves.bind
        · rintro exit error ⟨every, _⟩
          rw [← List.append_assoc, ← List.append_assoc, ← List.append_assoc]
          exact stops (blocksUnreset.append (unreset_of_quiet every.kind)) error
        · rintro exits _ ⟨every, only⟩
          obtain ⟨exit, rfl, exited⟩ := only rfl
          have exitUnreset := blocksUnreset.append (unreset_of_quiet every.kind)
          apply verifyChecksum_leaves.bind
          · rintro checks error ⟨checked, _⟩
            rw [← List.append_assoc, ← List.append_assoc, ← List.append_assoc, ← List.append_assoc]
            exact stops (exitUnreset.append (unreset_of_quiet checked.kind)) error
          · rintro checks _ ⟨checked, confirmed⟩
            obtain ⟨start, results, rfl, started, completion⟩ := confirmed rfl
            have checkUnreset := exitUnreset.append (unreset_of_quiet checked.kind)
            have verified : Verified config
                (opening ++ erase ++ asked ++ blocks ++ [exit] ++ start :: results) := by
              refine ⟨opening ++ erase ++ asked, blocks, exit, start, results, ?_, ?_, transferred,
                exited, every.good () rfl exit List.mem_cons_self, started, completion⟩
              · simp only [List.append_assoc, List.singleton_append]
              · intro entry member
                rcases List.mem_append.mp member with early | late
                · rcases List.mem_append.mp early with first | second
                  · exact (quiet entry first).1
                  · exact (erased.kind entry second).1
                · exact (granted.kind entry late).1
            have all : ∀ entry ∈ opening ++ erase ++ asked ++ blocks ++ [exit] ++ start :: results,
                entry.Accepted :=
              accepted_append (accepted_append (accepted_append (accepted_append
                (accepted_append accepted (erased.good () rfl)) (granted.good blockSize rfl))
                (transferredFrom_accepted transferred)) (every.good () rfl)) (checked.good () rfl)
            apply resetEcu_leaves.weaken
            rintro resets result ⟨shape, succeeded⟩
            rw [← List.append_assoc, ← List.append_assoc, ← List.append_assoc,
              ← List.append_assoc, ← List.append_assoc]
            rcases shape with rfl | ⟨reset, rfl, service⟩
            · rw [List.append_nil]
              refine ⟨resetsVerified_of_none checkUnreset, fun ok => ⟨all, _, [], ?_, verified, ?_⟩⟩
              · rw [List.append_nil]
              · intro configured
                exact absurd rfl ((succeeded ok).2 configured)
            · refine ⟨resetsVerified_last checkUnreset verified, fun ok =>
                ⟨accepted_append all (succeeded ok).1, _, [reset], rfl, verified, ?_⟩⟩
              intro configured
              exact ⟨reset, rfl, service⟩

theorem executeFlashInner_leaves :
    Leaves FlashState.log (executeFlashInner bench config) (fun added result =>
      ResetsVerified config added ∧ (result = .ok () → Completed config added)) := by
  have silent (error : FlashError) : ResetsVerified config [] ∧
      ((.error error : Except FlashError Unit) = .ok () → Completed config []) :=
    ⟨resetsVerified_of_none (fun _ absent => absurd absent List.not_mem_nil),
      fun impossible => nomatch impossible⟩
  apply safetyValidation_silent.bind silent
  intro _
  apply (changeSession_opening .extended).bind
  · intro session error every
    exact ⟨resetsVerified_of_none (unreset_of_opening every.kind),
      fun impossible => nomatch impossible⟩
  · intro session _ extended
    apply Leaves.recovering (P := fun added result =>
      ResetsVerified config (session ++ added) ∧
        (result = .ok () → Completed config (session ++ added)))
      (R := fun added => Unreset added)
    · apply openProgramming_opening.bind
      · intro opening error every
        refine ⟨resetsVerified_of_none ?_, fun impossible => nomatch impossible⟩
        exact (unreset_of_opening extended.kind).append (unreset_of_opening every.kind)
      · intro opening _ opened
        have quiet : ∀ entry ∈ session ++ opening, entry.Quiet := by
          intro entry member
          rcases List.mem_append.mp member with early | late
          · exact quiet_of_opening (extended.kind entry early)
          · exact quiet_of_opening (opened.kind entry late)
        apply (download_leaves quiet
          (accepted_append (extended.good () rfl) (opened.good () rfl))).weaken
        intro added result holds
        rw [List.append_assoc] at holds
        exact holds
    · intro added value holds
      exact holds
    · apply (bestEffortRecovery_leaves bench).weaken
      intro added _ requests
      exact unreset_of_recovery requests
    · intro added error later holds unreset
      rw [← List.append_assoc]
      exact ⟨holds.1.append unreset, fun impossible => nomatch impossible⟩

theorem executeFlash_leaves (bench : Bench) (config : FlashingConfig) :
    Leaves FlashState.log (executeFlash bench config) (fun added result =>
      ResetsVerified config added ∧ (result = .ok () → Completed config added)) := by
  have silent (error : FlashError) : ResetsVerified config [] ∧
      ((.error error : Except FlashError Unit) = .ok () → Completed config []) :=
    ⟨resetsVerified_of_none (fun _ absent => absurd absent List.not_mem_nil),
      fun impossible => nomatch impossible⟩
  apply Leaves.require_bind (fun _ => silent _)
  intro _
  apply Leaves.lift_bind (fun error _ => silent error)
  intro _ _
  apply Leaves.require_bind (fun _ => silent _)
  intro _
  exact executeFlashInner_leaves

end Phases

/-- Whatever the ECU answers, a run resets it only behind a verified image, succeeds only when
every request was answered positively, and its recovery sends no reset. -/
theorem reset_only_into_verified_image (bench : Bench) (config : FlashingConfig) :
    (∀ before reset after, (executeFlash bench config {}).2.log = before ++ reset :: after →
      reset.service = some ecuResetService → Verified config before) ∧
    ((executeFlash bench config {}).1 = .ok () →
      Completed config (executeFlash bench config {}).2.log) ∧
    ∀ state, ∃ added, (bestEffortRecovery bench state).2.log = state.log ++ added ∧
      ∀ entry ∈ added, entry.service ≠ some ecuResetService := by
  obtain ⟨added, grows, verified, completed⟩ := executeFlash_leaves bench config {}
  rw [List.nil_append] at grows
  rw [grows]
  refine ⟨verified, completed, ?_⟩
  intro state
  obtain ⟨added, grows, requests⟩ := bestEffortRecovery_leaves bench state
  exact ⟨added, grows, unreset_of_recovery requests⟩

end Ucanlab.Uds
