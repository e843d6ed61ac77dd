import Ucanlab.Uds.VerifiedReset

/-!
The blocks of a transfer against the length that the ECU announced. Two bytes of a block are
the service and the counter, and a block takes one byte of the image at least.
-/

namespace Ucanlab.Uds

open Ucanlab Dialogue UdsServiceBuilder

/-- `maxNumberOfBlockLength` as the ECU sent it, before the cap. -/
def announcedMaximum : Bytes → Option Nat
  | [] => none
  | lengthFormat :: rest =>
      let numBytes := (lengthFormat.toNat >>> 4) &&& 0x0F
      if (1 ≤ numBytes ∧ numBytes ≤ 8) ∧ (rest.take numBytes).length = numBytes then
        some (natFromBytes (rest.take numBytes))
      else none

theorem parseMaxBlockLength_announced {data : Bytes} {length limit : Nat}
    (parsed : parseMaxBlockLength data = .ok length) (announced : announcedMaximum data = some limit) :
    1 ≤ limit ∧ length = min limit 4096 := by
  cases data with
  | nil => cases parsed
  | cons lengthFormat rest =>
      unfold announcedMaximum at announced
      dsimp only at announced
      split at announced
      · cases announced
        unfold parseMaxBlockLength at parsed
        dsimp only at parsed
        split at parsed
        · cases parsed
        · split at parsed
          · cases parsed
          · split at parsed
            · cases parsed
            · rename_i nonzero
              split at parsed
              · rename_i large
                cases parsed
                exact ⟨Nat.pos_of_ne_zero nonzero, (Nat.min_eq_right (Nat.le_of_lt large)).symm⟩
              · rename_i small
                cases parsed
                exact ⟨Nat.pos_of_ne_zero nonzero,
                  (Nat.min_eq_left (Nat.le_of_not_lt small)).symm⟩
      · cases announced

def Exchange.isBlock (entry : Exchange) : Bool := entry.service = some transferDataService

def blockData (log : List Exchange) : Bytes :=
  (log.filter Exchange.isBlock).flatMap (fun entry => entry.request.drop 2)

theorem blockData_append (front back : List Exchange) :
    blockData (front ++ back) = blockData front ++ blockData back := by
  unfold blockData
  rw [List.filter_append, List.flatMap_append]

theorem blockData_of_none {log : List Exchange}
    (none : ∀ entry ∈ log, entry.service ≠ some transferDataService) : blockData log = [] := by
  unfold blockData
  rw [List.filter_eq_nil_iff.mpr, List.flatMap_nil]
  intro entry member block
  exact none entry member (of_decide_eq_true block)

theorem blockData_block {entry : Exchange} {counter : Int} {chunk : Bytes}
    (built : buildTransferData counter chunk = .ok entry.request) : blockData [entry] = chunk := by
  have block : entry.isBlock = true := decide_eq_true (block_service built)
  unfold blockData
  rw [List.filter_cons_of_pos block, List.filter_nil, List.flatMap_singleton,
    (buildTransferData_eq_ok.mp built).2]
  rfl

theorem block_length {entry : Exchange} {counter : Int} {chunk : Bytes}
    (built : buildTransferData counter chunk = .ok entry.request) :
    entry.request.length = chunk.length + 2 := by
  rw [(buildTransferData_eq_ok.mp built).2, List.length_append, Nat.add_comm]
  rfl

structure Exchange.Block (blockSize : Nat) (entry : Exchange) : Prop where
  service : entry.service = some transferDataService
  least : 3 ≤ entry.request.length
  most : entry.request.length ≤ blockSize + 2

/-- Of a run: no block is longer than the limit, and the blocks carry the image, to its end
where the run succeeds or goes on to a routine behind them. -/
structure RespectsLimit (limit : Nat) (config : FlashingConfig)
    (run : Except FlashError Unit × FlashState) : Prop where
  within : ∀ entry ∈ run.2.log, entry.service = some transferDataService →
    entry.request.length ≤ limit
  sent : blockData run.2.log <+: config.data
  whole : (run.1 = .ok () ∨ ∃ before block after, run.2.log = before ++ block :: after ∧
      block.service = some transferDataService ∧
      ∃ entry ∈ after, entry.service = some routineControl) →
    blockData run.2.log = config.data

/-- A log in three parts, with the blocks between the answer that limits them and the rest. -/
structure Sections (config : FlashingConfig) (opening blocks closing : List Exchange) : Prop where
  quietOpening : ∀ entry ∈ opening, entry.service ≠ some transferDataService
  limited : ∀ granted ∈ opening, granted.service = some requestDownloadService →
    ∀ response limit, granted.outcome = .ok response → announcedMaximum response.data = some limit →
      ∀ entry ∈ blocks, entry.request.length ≤ max limit 3
  sized : ∀ entry ∈ blocks, entry.service = some transferDataService ∧ 3 ≤ entry.request.length
  quietClosing : ∀ entry ∈ closing, entry.service ≠ some transferDataService
  sent : blockData blocks <+: config.data
  whole : blockData blocks = config.data ∨ ∀ entry ∈ closing, entry.service ≠ some routineControl

namespace Sections

variable {config : FlashingConfig} {opening blocks closing : List Exchange}

/-- Before any block. -/
theorem unopened (quiet : ∀ entry ∈ opening, entry.service ≠ some transferDataService) :
    Sections config opening [] [] where
  quietOpening := quiet
  limited := fun _ _ _ _ _ _ _ _ absent => absurd absent List.not_mem_nil
  sized := fun _ absent => absurd absent List.not_mem_nil
  quietClosing := fun _ absent => absurd absent List.not_mem_nil
  sent := List.nil_prefix
  whole := Or.inr (fun _ absent => absurd absent List.not_mem_nil)

theorem before {early : List Exchange} (sections : Sections config opening blocks closing)
    (aside : ∀ entry ∈ early, entry.service ≠ some transferDataService ∧
      entry.service ≠ some requestDownloadService) :
    Sections config (early ++ opening) blocks closing where
  quietOpening := by
    intro entry member
    rcases List.mem_append.mp member with first | second
    · exact (aside entry first).1
    · exact sections.quietOpening entry second
  limited := by
    intro granted member service
    rcases List.mem_append.mp member with first | second
    · exact absurd service (aside granted first).2
    · exact sections.limited granted second service
  sized := sections.sized
  quietClosing := sections.quietClosing
  sent := sections.sent
  whole := sections.whole

theorem behind {later : List Exchange} (sections : Sections config opening blocks closing)
    (aside : ∀ entry ∈ later, entry.service ≠ some transferDataService)
    (last : blockData blocks = config.data ∨ ∀ entry ∈ later, entry.service ≠ some routineControl) :
    Sections config opening blocks (closing ++ later) where
  quietOpening := sections.quietOpening
  limited := sections.limited
  sized := sections.sized
  quietClosing := by
    intro entry member
    rcases List.mem_append.mp member with first | second
    · exact sections.quietClosing entry first
    · exact aside entry second
  sent := sections.sent
  whole := by
    rcases sections.whole with whole | closed
    · exact Or.inl whole
    · rcases last with whole | quiet
      · exact Or.inl whole
      · refine Or.inr (fun entry member => ?_)
        rcases List.mem_append.mp member with first | second
        · exact closed entry first
        · exact quiet entry second

theorem blockData_eq (sections : Sections config opening blocks closing) :
    blockData (opening ++ (blocks ++ closing)) = blockData blocks := by
  rw [blockData_append, blockData_append, blockData_of_none sections.quietOpening,
    blockData_of_none sections.quietClosing, List.nil_append, List.append_nil]

theorem mem_blocks (sections : Sections config opening blocks closing) {entry : Exchange}
    (member : entry ∈ opening ++ (blocks ++ closing))
    (service : entry.service = some transferDataService) : entry ∈ blocks := by
  rcases List.mem_append.mp member with early | rest
  · exact absurd service (sections.quietOpening entry early)
  · rcases List.mem_append.mp rest with block | late
    · exact block
    · exact absurd service (sections.quietClosing entry late)

theorem mem_front (sections : Sections config opening blocks closing)
    {before after : List Exchange} {entry : Exchange}
    (split : opening ++ (blocks ++ closing) = before ++ entry :: after)
    (transfers : ∃ block ∈ after, block.service = some transferDataService) :
    entry ∈ opening ++ blocks := by
  rw [← List.append_assoc] at split
  rcases List.append_eq_append_iff.mp split with ⟨middle, longer, shape⟩ | ⟨middle, shorter, shape⟩
  · obtain ⟨block, member, service⟩ := transfers
    refine absurd service (sections.quietClosing block ?_)
    rw [shape]
    exact List.mem_append_right _ (List.mem_cons_of_mem _ member)
  · cases middle with
    | nil =>
        obtain ⟨block, member, service⟩ := transfers
        refine absurd service (sections.quietClosing block ?_)
        rw [List.nil_append] at shape
        rw [← shape]
        exact List.mem_cons_of_mem _ member
    | cons first rest =>
        rw [List.cons_append] at shape
        cases shape
        rw [shorter]
        exact List.mem_append_right _ List.mem_cons_self

theorem mem_back (sections : Sections config opening blocks closing)
    {before after : List Exchange} {block entry : Exchange}
    (split : opening ++ (blocks ++ closing) = before ++ block :: after)
    (transfer : block.service = some transferDataService) (member : entry ∈ after) :
    entry ∈ blocks ++ closing := by
  rcases List.append_eq_append_iff.mp split with ⟨middle, longer, shape⟩ | ⟨middle, shorter, shape⟩
  · rw [shape]
    exact List.mem_append_right _ (List.mem_cons_of_mem _ member)
  · cases middle with
    | nil =>
        rw [List.nil_append] at shape
        rw [← shape]
        exact List.mem_cons_of_mem _ member
    | cons first rest =>
        rw [List.cons_append] at shape
        cases shape
        refine absurd transfer (sections.quietOpening block ?_)
        rw [shorter]
        exact List.mem_append_right _ List.mem_cons_self

end Sections

section Phases

variable {bench : Bench} {config : FlashingConfig}

/-- What the loop sends, to whatever point it comes. -/
theorem transferBlocks_blocks {blockSize : Nat} (positive : 1 ≤ blockSize)
    (fuel sent counter since : Nat) (enough : config.data.length ≤ sent + fuel) :
    Leaves FlashState.log (transferBlocks bench config blockSize fuel sent counter since)
      (fun added result => (∀ entry ∈ added, entry.Block blockSize) ∧
        blockData added <+: config.data.drop sent ∧
        (result = .ok () → blockData added = config.data.drop sent)) := by
  induction fuel generalizing sent counter since with
  | zero =>
      apply Leaves.pure
      rw [List.drop_eq_nil_of_le (by omega)]
      exact ⟨fun _ absent => absurd absent List.not_mem_nil, List.nil_prefix, fun _ => rfl⟩
  | succ fuel ih =>
      unfold transferBlocks
      by_cases more : sent < config.data.length
      · rw [if_pos more]
        have stopped : ∀ error : FlashError, (∀ entry ∈ ([] : List Exchange),
            entry.Block blockSize) ∧ blockData [] <+: config.data.drop sent ∧
            (Except.error error = Except.ok () → blockData [] = config.data.drop sent) :=
          fun _ => ⟨fun _ absent => absurd absent List.not_mem_nil, List.nil_prefix,
            fun impossible => by cases impossible⟩
        have taken : 1 ≤ ((config.data.drop sent).take blockSize).length ∧
            ((config.data.drop sent).take blockSize).length ≤ blockSize := by
          rw [List.length_take, List.length_drop]
          omega
        have block {entry : Exchange} (shape : buildTransferData counter
            ((config.data.drop sent).take blockSize) = .ok entry.request) :
            entry.Block blockSize := by
          have length := block_length shape
          exact ⟨block_service shape, by omega, by omega⟩
        apply checkCancelled_silent.bind stopped
        intro _
        apply recheckPreconditions_silent.bind stopped
        intro since
        apply (demand_leaves transferDataService _).bind
        · intro added error demanded
          refine ⟨fun entry member => block (demanded.requests entry member), ?_,
            fun impossible => by cases impossible⟩
          cases demanded with
          | unbuilt cause refused => exact List.nil_prefix
          | unsegmented payload cause shape refused => exact List.nil_prefix
          | failed entry cause shape =>
              rw [blockData_block shape]
              exact List.take_prefix _ _
        · intro added response demanded
          obtain ⟨entry, rfl, shape, _, _⟩ := demanded.answer
          apply Leaves.lift_bind
          · intro error _
            rw [List.append_nil, blockData_block shape]
            refine ⟨fun other member => ?_, List.take_prefix _ _, fun impossible => by cases impossible⟩
            rw [List.mem_singleton.mp member]
            exact block shape
          · intro _ _
            apply (ih (sent + ((config.data.drop sent).take blockSize).length)
              ((counter + 1) &&& 0xFF) (since + 1) (by omega)).weaken
            rintro later result ⟨blocks, sends, rest⟩
            rw [blockData_append, blockData_block shape]
            refine ⟨?_, ?_, ?_⟩
            · intro other member
              rcases List.mem_cons.mp member with rfl | behind
              · exact block shape
              · exact blocks other behind
            · have joined := (List.prefix_append_right_inj
                ((config.data.drop sent).take blockSize)).mpr sends
              rw [chunk_append_rest] at joined
              exact joined
            · intro succeeded
              rw [rest succeeded, chunk_append_rest]
      · rw [if_neg more]
        apply Leaves.pure
        rw [List.drop_eq_nil_of_le (by omega)]
        exact ⟨fun _ absent => absurd absent List.not_mem_nil, List.nil_prefix, fun _ => rfl⟩

theorem sections_of_granted {asked blocks : List Exchange} {blockSize : Nat}
    (services : ∀ entry ∈ asked, entry.service = some requestDownloadService)
    (granted : Granted config asked blockSize) (sized : ∀ entry ∈ blocks, entry.Block blockSize)
    (sends : blockData blocks <+: config.data) : Sections config asked blocks [] where
  quietOpening := by
    intro entry member
    rw [services entry member]
    decide
  limited := by
    obtain ⟨only, answer, maxBlockLen, rfl, outcome, _, parsed, chosen⟩ := granted
    intro entry member _ response limit answered announced block blockMember
    rw [List.mem_singleton.mp member, outcome] at answered
    cases answered
    obtain ⟨least, capped⟩ := parseMaxBlockLength_announced parsed announced
    have most := (sized block blockMember).most
    omega
  sized := fun entry member => ⟨(sized entry member).service, (sized entry member).least⟩
  quietClosing := fun _ absent => absurd absent List.not_mem_nil
  sent := sends
  whole := Or.inr (fun _ absent => absurd absent List.not_mem_nil)

def Sectioned (config : FlashingConfig) (added : List Exchange)
    (result : Except FlashError Unit) : Prop :=
  ∃ opening blocks closing, added = opening ++ (blocks ++ closing) ∧
    Sections config opening blocks closing ∧ (result = .ok () → blockData blocks = config.data)

theorem sectioned_failed {opening : List Exchange} (error : FlashError)
    (quiet : ∀ entry ∈ opening, entry.service ≠ some transferDataService) :
    Sectioned config opening (.error error) :=
  ⟨opening, [], [], (List.append_nil opening).symm, .unopened quiet,
    fun impossible => nomatch impossible⟩

theorem Sectioned.before {early added : List Exchange} {result : Except FlashError Unit}
    (sectioned : Sectioned config added result)
    (aside : ∀ entry ∈ early, entry.service ≠ some transferDataService ∧
      entry.service ≠ some requestDownloadService) : Sectioned config (early ++ added) result := by
  obtain ⟨opening, blocks, closing, rfl, sections, whole⟩ := sectioned
  exact ⟨early ++ opening, blocks, closing, (List.append_assoc _ _ _).symm, sections.before aside,
    whole⟩

theorem Sectioned.recovered {added later : List Exchange} {error : FlashError}
    (sectioned : Sectioned config added (.error error))
    (requests : ∀ entry ∈ later, entry.request = buildRequestTransferExit ∨
      entry.request = buildDiagnosticSessionControl .default) :
    Sectioned config (added ++ later) (.error error) := by
  have aside : ∀ entry ∈ later, entry.service ≠ some transferDataService ∧
      entry.service ≠ some routineControl := by
    intro entry member
    unfold Exchange.service
    rcases requests entry member with exits | session
    · rw [exits]
      decide
    · rw [session]
      decide
  obtain ⟨opening, blocks, closing, rfl, sections, _⟩ := sectioned
  refine ⟨opening, blocks, closing ++ later, ?_, ?_, fun impossible => nomatch impossible⟩
  · simp only [List.append_assoc]
  · exact sections.behind (fun entry member => (aside entry member).1)
      (Or.inr (fun entry member => (aside entry member).2))

theorem afterTransfer_quiet :
    Leaves FlashState.log (do
        requestTransferExit bench
        verifyChecksum bench config
        resetEcu bench config)
      (fun added _ => ∀ entry ∈ added, entry.service ≠ some transferDataService) := by
  apply requestTransferExit_leaves.bind
  · rintro exits error ⟨every, _⟩ entry member
    exact (every.kind entry member).1
  · rintro exits _ ⟨every, _⟩
    apply verifyChecksum_leaves.bind
    · rintro checks error ⟨checked, _⟩ entry member
      rcases List.mem_append.mp member with early | late
      · exact (every.kind entry early).1
      · exact (checked.kind entry late).1
    · rintro checks _ ⟨checked, _⟩
      apply resetEcu_leaves.weaken
      rintro resets result ⟨shape, _⟩ entry member
      rcases List.mem_append.mp member with early | rest
      · exact (every.kind entry early).1
      · rcases List.mem_append.mp rest with middle | late
        · exact (checked.kind entry middle).1
        · rcases shape with rfl | ⟨reset, rfl, service⟩
          · cases late
          · rw [List.mem_singleton.mp late, service]
            decide

theorem download_sectioned :
    Leaves FlashState.log (download bench config) (Sectioned config) := by
  have routine {erase : List Exchange}
      (routines : ∀ entry ∈ erase, entry.service = some routineControl) :
      ∀ entry ∈ erase, entry.service ≠ some transferDataService ∧
        entry.service ≠ some requestDownloadService := by
    intro entry member
    rw [routines entry member]
    decide
  apply eraseMemory_routine.bind
  · intro erase error every
    exact sectioned_failed error (fun entry member => (routine every.kind entry member).1)
  · intro erase _ erased
    suffices granted : Leaves FlashState.log (do
        let blockSize ← requestDownload bench config
        transferData bench config blockSize
        requestTransferExit bench
        verifyChecksum bench config
        resetEcu bench config) (Sectioned config) from
      granted.weaken (fun added result sectioned => sectioned.before (routine erased.kind))
    apply requestDownload_granted.bind
    · rintro asked error ⟨services, _⟩
      apply sectioned_failed
      intro entry member
      rw [services entry member]
      decide
    · rintro asked blockSize ⟨services, grants⟩
      have granted := grants blockSize rfl
      apply (transferBlocks_blocks granted.positive config.data.length 0 1 0
        (by rw [Nat.zero_add])).bind
      · rintro blocks error ⟨sized, sends, _⟩
        refine ⟨asked, blocks, [], ?_, sections_of_granted services granted sized sends,
          fun impossible => nomatch impossible⟩
        rw [List.append_nil]
      · rintro blocks _ ⟨sized, sends, whole⟩
        have image : blockData blocks = config.data := whole rfl
        apply afterTransfer_quiet.weaken
        intro closing result quiet
        refine ⟨asked, blocks, closing, rfl, ?_, fun _ => image⟩
        exact (sections_of_granted services granted sized sends).behind quiet (Or.inl image)

theorem executeFlash_sectioned (bench : Bench) (config : FlashingConfig) :
    Leaves FlashState.log (executeFlash bench config) (Sectioned config) := by
  have silent (error : FlashError) : Sectioned config [] (.error error) :=
    sectioned_failed error (fun _ absent => absurd absent List.not_mem_nil)
  have opens {session : List Exchange} (opening : ∀ entry ∈ session, entry.Opening) :
      ∀ entry ∈ session, entry.service ≠ some transferDataService ∧
        entry.service ≠ some requestDownloadService := by
    intro entry member
    rcases opening entry member with service | service | service
    · rw [service]
      decide
    · rw [service]
      decide
    · rw [service]
      decide
  apply Leaves.require_bind (fun _ => silent _)
  intro _
  apply Leaves.lift_bind (fun error _ => silent error)
  intro _ _
  apply Leaves.require_bind (fun _ => silent _)
  intro _
  apply safetyValidation_silent.bind silent
  intro _
  apply (changeSession_opening .extended).bind
  · intro session error every
    exact sectioned_failed error (fun entry member => (opens every.kind entry member).1)
  · intro session _ extended
    have recovered : Leaves FlashState.log
        (recovering (do openProgramming bench config; download bench config)
          (bestEffortRecovery bench)) (Sectioned config) := by
      apply Leaves.recovering (P := Sectioned config) (R := fun added => ∀ entry ∈ added,
        entry.request = buildRequestTransferExit ∨
          entry.request = buildDiagnosticSessionControl .default)
      · apply openProgramming_opening.bind
        · intro opening error every
          exact sectioned_failed error (fun entry member => (opens every.kind entry member).1)
        · intro opening _ opened
          exact download_sectioned.weaken
            (fun added result sectioned => sectioned.before (opens opened.kind))
      · intro added value sectioned
        exact sectioned
      · exact bestEffortRecovery_leaves bench
      · intro added error later sectioned requests
        exact sectioned.recovered requests
    exact recovered.weaken (fun added result sectioned => sectioned.before (opens extended.kind))

end Phases

/-- A transfer on an announced length keeps to it exactly when a block with one byte of the
image does. -/
theorem blocks_respect_limit_iff (bench : Bench) (config : FlashingConfig)
    {before after : List Exchange} {granted : Exchange} {response : UdsResponse} {limit : Nat}
    (ran : (executeFlash bench config {}).2.log = before ++ granted :: after)
    (service : granted.service = some requestDownloadService)
    (answered : granted.outcome = .ok response)
    (announced : announcedMaximum response.data = some limit)
    (transfers : ∃ entry ∈ after, entry.service = some transferDataService) :
    RespectsLimit limit config (executeFlash bench config {}) ↔ 3 ≤ limit := by
  obtain ⟨added, grows, opening, blocks, closing, rfl, sections, succeeded⟩ :=
    executeFlash_sectioned bench config {}
  rw [List.nil_append] at grows
  have split : opening ++ (blocks ++ closing) = before ++ granted :: after := grows.symm.trans ran
  have early : granted ∈ opening := by
    rcases List.mem_append.mp (sections.mem_front split transfers) with early | block
    · exact early
    · exact absurd ((sections.sized granted block).1.symm.trans service) (by decide)
  have longest := sections.limited granted early service response limit answered announced
  constructor
  · intro respects
    obtain ⟨block, member, transfer⟩ := transfers
    have present : block ∈ opening ++ (blocks ++ closing) := by
      rw [split]
      exact List.mem_append_right _ (List.mem_cons_of_mem _ member)
    have least := (sections.sized block (sections.mem_blocks present transfer)).2
    exact Nat.le_trans least (respects.within block (grows ▸ present) transfer)
  · intro room
    constructor
    · intro entry member transfer
      rw [grows] at member
      have most := longest entry (sections.mem_blocks member transfer)
      omega
    · rw [grows, sections.blockData_eq]
      exact sections.sent
    · intro complete
      rw [grows] at complete ⊢
      rw [sections.blockData_eq]
      rcases complete with success | ⟨front, block, back, shape, transfer, routine⟩
      · exact succeeded success
      · rcases sections.whole with whole | closed
        · exact whole
        · obtain ⟨entry, member, service⟩ := routine
          rcases List.mem_append.mp (sections.mem_back shape transfer member) with sized | late
          · exact absurd ((sections.sized entry sized).1.symm.trans service) (by decide)
          · exact absurd service (closed entry late)

/-! ## An ECU that takes blocks of a byte -/

/-- It accepts every request and announces the given length. -/
def modestBench (limit : UInt8) : Bench where
  client := { transport := { txId := 0x7E0, channelId := "uds_ch0" } }
  reply := fun _ payload =>
    { heard := [{
        polledNs := 0
        handledNs := 0
        message := .ok (match payload with
          | 0x22 :: high :: low :: _ => [0x62, high, low, 0x57]
          | 0x31 :: 0x03 :: high :: low :: _ => [0x71, 0x03, high, low, 0x00]
          | 0x31 :: control :: high :: low :: _ => [0x71, control, high, low]
          | 0x34 :: _ => [0x74, 0x10, limit]
          | service :: first :: _ => [service + 0x40, first]
          | [service] => [service + 0x40]
          | [] => []) }] }
  cancelled := fun _ => false
  gateway := fun _ => {}

def modestConfig : FlashingConfig where
  memoryAddress := 0x1000
  data := [0xAB]
  expectedVin := some ['W']
  userConfirmed := true
  firmwareSignature := some [0x01]
  trustedPubkey := some (fun signature image => decide (signature.length = image.length))
  accepted := by decide

deriving instance DecidableEq for Exchange

def acceptedExchange (service : UInt8) (rest data : Bytes) : Exchange where
  request := service :: rest
  outcome := .ok { serviceId := service, isPositive := true, data := data }

def modestGrant (limit : UInt8) : Exchange :=
  acceptedExchange 0x34 [0x00, 0x44, 0x00, 0x00, 0x10, 0x00, 0x00, 0x00, 0x00, 0x01] [0x10, limit]

def modestOpening : List Exchange :=
  [acceptedExchange 0x10 [0x03] [0x03], acceptedExchange 0x22 [0xF1, 0x90] [0xF1, 0x90, 0x57],
    acceptedExchange 0x10 [0x02] [0x02]]

def modestBlock : Exchange := acceptedExchange 0x36 [0x01, 0xAB] [0x01]

theorem blocks_respect_limit_three :
    RespectsLimit 3 modestConfig (executeFlash (modestBench 3) modestConfig {}) := by
  have ran : (executeFlash (modestBench 3) modestConfig {}).2.log =
      modestOpening ++ modestGrant 3 ::
        ((executeFlash (modestBench 3) modestConfig {}).2.log.drop 4) := by
    decide +kernel
  have transfers : ∃ entry ∈ (executeFlash (modestBench 3) modestConfig {}).2.log.drop 4,
      entry.service = some transferDataService :=
    ⟨modestBlock, by decide +kernel, by decide⟩
  exact (blocks_respect_limit_iff (modestBench 3) modestConfig ran (by decide) rfl (by decide)
    transfers).mpr (Nat.le_refl 3)

theorem tiny_limit_overrun :
    ¬ ∀ (bench : Bench) (config : FlashingConfig) (before after : List Exchange)
      (granted : Exchange) (response : UdsResponse) (limit : Nat),
      (executeFlash bench config {}).2.log = before ++ granted :: after →
      granted.service = some requestDownloadService → granted.outcome = .ok response →
      announcedMaximum response.data = some limit →
      (∃ entry ∈ after, entry.service = some transferDataService) →
      RespectsLimit limit config (executeFlash bench config {}) := by
  intro claimed
  have ran : (executeFlash (modestBench 1) modestConfig {}).2.log =
      modestOpening ++ modestGrant 1 ::
        ((executeFlash (modestBench 1) modestConfig {}).2.log.drop 4) := by
    decide +kernel
  have sent : modestBlock ∈ (executeFlash (modestBench 1) modestConfig {}).2.log.drop 4 := by
    decide +kernel
  have respects := claimed (modestBench 1) modestConfig modestOpening _ (modestGrant 1) _ 1 ran
    (by decide) rfl (by decide) ⟨modestBlock, sent, by decide⟩
  have short := respects.within modestBlock (List.mem_of_mem_drop sent) (by decide)
  exact absurd short (by decide)

end Ucanlab.Uds
