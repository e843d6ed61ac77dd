import Ucanlab.Lib.EventRun
import Ucanlab.Security.Cloud.LicenseFlow

/-!
Ticket flows and token validators of one machine on the same sealed file. The
validators measure their offline grace from the second number of the file; the
flows write there where their clock stood.
-/

namespace Ucanlab.License

open Ucanlab.Cloud EventRun

variable {Key : Type}

inductive LicenseEvent (Key : Type) where
  | startFlow (id : Nat) (boot : Boot Key)
  | ticket (id : Nat) (call : TicketCall)
  | startValidator (id : Nat) (start : ValidatorStart Key)
  | token (id : Nat) (call : TokenCall)

/-- The objects by their ids, the storage they share, and when a ticket from the cloud was
last accepted online. -/
structure LicenseWorld (Key : Type) where
  flows : Nat → Option (LicenseFlow Key) := fun _ => none
  validators : Nat → Option (LicenseValidator Key) := fun _ => none
  storage : Storage
  lastSync : ℚ

def syncAfter (lastSync : ℚ) (call : TicketCall) (outcome : Except Raised CloudLicenseClaims) : ℚ :=
  if call.isOffline = false ∧ outcome.isOk then max lastSync call.now else lastSync

section Runs

variable (codec : TicketCodec Key) (digests : Digests)

/-- A start under an id that is taken is a restart. -/
def licenseStep (world : LicenseWorld Key) : LicenseEvent Key → Option (LicenseWorld Key)
  | .startFlow id boot =>
      let (storage, built) := createFlow digests world.storage boot
      some { world with
        flows := Function.update world.flows id built.toOption
        storage := storage }
  | .ticket id call =>
      match world.flows id with
      | none => some world
      | some flow =>
          let (flow, storage, outcome) := flow.verifyCloudTicket codec digests world.storage call
          some { world with
            flows := Function.update world.flows id (some flow)
            storage := storage
            lastSync := syncAfter world.lastSync call outcome }
  | .startValidator id start =>
      let (storage, built) := createValidator digests world.storage start
      some { world with
        validators := Function.update world.validators id built.toOption
        storage := storage }
  | .token id call =>
      match world.validators id with
      | none => some world
      | some validator =>
          let (validator, storage, _) := validator.verifyToken codec digests world.storage call
          some { world with
            validators := Function.update world.validators id (some validator)
            storage := storage }

def GraceBounded (world : LicenseWorld Key) : Prop :=
  ∀ id validator, world.validators id = some validator →
    (validator.lastOnlineSyncTs : ℚ) ≤ world.lastSync

/-- Under whatever keys the file is read, its second number is no such time either. -/
def FileBounded (file : HwmFile) (lastSync : ℚ) : Prop :=
  ∀ content keys record sync, file = .text content →
    parseHwmText digests content keys = .ok record → record.syncTs = some sync → 0 < sync →
      (sync : ℚ) ≤ lastSync

def startKeys (storage : Storage) (start : ValidatorStart Key) : List Bytes :=
  match storage.secrets with
  | none => []
  | some vault =>
      match loadHwmKey vault start.replies with
      | (_, .error _) => []
      | (vault, .ok key) => key :: vault.legacyKey.toList

/-- Where the file gives no time, the start does not bring a later one either: its argument
or its clock without a file, the clock less the grace with a file that does not verify. -/
def StartKept (file : HwmFile) (keys : List Bytes) (lastSync : ℚ) (start : ValidatorStart Key) :
    Prop :=
  if ¬ start.highWaterMarkPath then (start.givenSync : ℚ) ≤ lastSync
  else
    match file with
    | .missing => (start.givenSync : ℚ) ≤ lastSync
    | .unreadable | .notUtf8 => True
    | .text content =>
        match parseHwmText digests content keys with
        | .ok record =>
            record.syncTs.filter (0 < ·) = none → (start.givenSync : ℚ) ≤ lastSync
        | .error (.license .hwmMacMismatch _) =>
            (conservativeGraceFloor start.floorWallNs : ℚ) ≤ lastSync
        | .error _ => True

/-- A ticket that gets to the mark finds the clock anchor of its flow at a time that is not
behind the last synchronisation, or is one itself. -/
def TicketKept (lastSync : ℚ) (flow : LicenseFlow Key) (call : TicketCall) : Prop :=
  match flow.vet codec call with
  | .error _ => True
  | .ok ticket =>
      flow.hwmPath = true → 0 < pyTrunc flow.lastKnownClockTs →
        pyTrunc flow.lastKnownClockTs ≤ lastSync ∨
        (call.isOffline = false ∧
          call.now ≤ min ticket.claims.expiresAt.toRat ticket.claims.offlineUntil.toRat ∧
          pyTrunc flow.lastKnownClockTs ≤ call.now)

def GraceKept (world : LicenseWorld Key) : LicenseEvent Key → Prop
  | .ticket id call =>
      match world.flows id with
      | none => True
      | some flow => TicketKept codec world.lastSync flow call
  | .startValidator _ start =>
      StartKept digests world.storage.file (startKeys world.storage start) world.lastSync start
  | _ => True

instance (file : HwmFile) (keys : List Bytes) (lastSync : ℚ) (start : ValidatorStart Key) :
    Decidable (StartKept digests file keys lastSync start) := by
  unfold StartKept
  split
  · exact inferInstance
  · split
    · exact inferInstance
    · exact inferInstance
    · exact inferInstance
    · split <;> exact inferInstance

instance (lastSync : ℚ) (flow : LicenseFlow Key) (call : TicketCall) :
    Decidable (TicketKept codec lastSync flow call) := by
  unfold TicketKept
  split <;> exact inferInstance

instance (world : LicenseWorld Key) (event : LicenseEvent Key) :
    Decidable (GraceKept codec digests world event) := by
  unfold GraceKept
  split
  · split <;> exact inferInstance
  · exact inferInstance
  · exact inferInstance

end Runs

/-! ## What one call writes -/

section Steps

variable {codec : TicketCodec Key} {digests : Digests} {world next : LicenseWorld Key}
  {event : LicenseEvent Key} {storage : Storage} {lastSync : ℚ}

theorem FileBounded.mono {file : HwmFile} {later : ℚ} (bounded : FileBounded digests file lastSync)
    (le : lastSync ≤ later) : FileBounded digests file later :=
  fun content keys record sync found parsed read positive =>
    (bounded content keys record sync found parsed read positive).trans le

theorem fileBounded_sealed {hwmTs syncTs : Int} {key : Bytes} {body : List Char}
    (formatted : formatHwmText digests hwmTs syncTs key = some body)
    (bounded : 0 < syncTs → (syncTs : ℚ) ≤ lastSync) :
    FileBounded digests (.text body) lastSync := by
  intro content keys record sync found parsed read positive
  cases found
  rw [(parseHwmText_sealed formatted parsed).2] at read
  cases read
  exact bounded positive

theorem createFlow_file (boot : Boot Key) :
    (createFlow digests storage boot).1.file = storage.file := by
  have loaded : ∀ fallback, (loadPersistentHwm digests boot.hwmPath storage fallback
      boot.replies).1.file = storage.file := by
    intro fallback
    unfold loadPersistentHwm
    split
    · rfl
    · split
      · split <;> rfl
      · rfl
      · rfl
      · split
        · rfl
        · split <;> rfl
  unfold createFlow
  dsimp only
  split
  · rename_i built
    exact (congrArg (fun result => result.1.file) built).symm.trans (loaded _)
  · rename_i built
    exact (congrArg (fun result => result.1.file) built).symm.trans (loaded _)

theorem le_syncAfter (call : TicketCall) (outcome : Except Raised CloudLicenseClaims) :
    lastSync ≤ syncAfter lastSync call outcome := by
  unfold syncAfter
  split
  · exact le_max_left _ _
  · exact le_refl _

theorem ticket_fileBounded {flow after : LicenseFlow Key} {later : Storage} {call : TicketCall}
    {outcome : Except Raised CloudLicenseClaims}
    (bounded : FileBounded digests storage.file lastSync)
    (kept : TicketKept codec lastSync flow call)
    (ran : flow.verifyCloudTicket codec digests storage call = (after, later, outcome)) :
    FileBounded digests later.file (syncAfter lastSync call outcome) := by
  have grows : lastSync ≤ syncAfter lastSync call outcome := le_syncAfter call outcome
  rcases flow.verifyCloudTicket_cases codec digests storage call with
    ⟨raised, _, ends⟩ | ⟨ticket, raised, _, ends⟩ | ⟨ticket, sealed, admitted, persisted, ends⟩
  · cases ran.symm.trans ends
    exact bounded.mono grows
  · cases ran.symm.trans ends
    exact bounded.mono grows
  · cases ran.symm.trans ends
    by_cases wired : flow.hwmPath = true
    · obtain ⟨_, _, body, _, _, formatted, rfl⟩ := LicenseFlow.persistHwm_ok wired persisted
      refine fileBounded_sealed formatted ?_
      intro positive
      unfold TicketKept at kept
      rw [admitted] at kept
      rcases kept wired positive with before | ⟨online, timely, now⟩
      · exact before.trans grows
      · have accepted : ticket.checkDeadlines call = .ok ticket.claims :=
          Ticket.checkDeadlines_ok.mpr ⟨timely, rfl⟩
        unfold syncAfter
        rw [accepted, if_pos ⟨online, rfl⟩]
        exact now.trans (le_max_right _ _)
    · unfold LicenseFlow.persistHwm at persisted
      rw [if_pos wired] at persisted
      cases persisted
      exact bounded.mono grows

theorem loadFile_bounded {start : ValidatorStart Key} {key : Bytes} {keys : List Bytes}
    {file later : HwmFile} {built : Except Raised (LicenseValidator Key)}
    (bounded : FileBounded digests file lastSync)
    (kept : StartKept digests file keys lastSync start)
    (ran : (start.validator key).loadFile digests start keys file = (later, built)) :
    FileBounded digests later lastSync ∧
      ∀ validator, built = .ok validator → (validator.lastOnlineSyncTs : ℚ) ≤ lastSync := by
  unfold LicenseValidator.loadFile at ran
  unfold StartKept at kept
  by_cases wired : start.highWaterMarkPath = true
  · rw [if_neg (not_not.mpr wired)] at kept
    rw [if_neg (not_not.mpr (show (start.validator key).highWaterMarkPath = true from wired))] at ran
    cases file with
    | missing =>
        cases ran
        refine ⟨bounded, fun validator same => ?_⟩
        cases same
        exact kept
    | unreadable =>
        cases ran
        exact ⟨bounded, fun _ same => by cases same⟩
    | notUtf8 =>
        cases ran
        exact ⟨bounded, fun _ same => by cases same⟩
    | text content =>
        dsimp only at kept ran
        split at ran
        · rename_i record parsed
          rw [parsed] at kept
          cases ran
          refine ⟨bounded, fun validator same => ?_⟩
          cases same
          unfold LicenseValidator.adopt
          dsimp only
          cases read : record.syncTs.filter (0 < ·) with
          | none => exact kept read
          | some sync =>
              obtain ⟨stored, positive⟩ := Option.filter_eq_some_iff.mp read
              exact bounded content keys record sync rfl parsed stored (of_decide_eq_true positive)
        · rename_i message parsed
          rw [parsed] at kept
          split at ran
          · cases ran
            refine ⟨fun _ _ _ _ found => (by cases found), fun validator same => ?_⟩
            cases same
            exact kept
          · cases ran
            exact ⟨bounded, fun _ same => by cases same⟩
        · cases ran
          exact ⟨bounded, fun _ same => by cases same⟩
  · rw [if_pos wired] at kept
    rw [if_pos (show ¬ (start.validator key).highWaterMarkPath = true from wired)] at ran
    cases ran
    refine ⟨bounded, fun validator same => ?_⟩
    cases same
    exact kept

theorem start_bounded {start : ValidatorStart Key} {later : Storage}
    {built : Except Raised (LicenseValidator Key)}
    (bounded : FileBounded digests storage.file lastSync)
    (kept : StartKept digests storage.file (startKeys storage start) lastSync start)
    (ran : createValidator digests storage start = (later, built)) :
    FileBounded digests later.file lastSync ∧
      ∀ validator, built = .ok validator → (validator.lastOnlineSyncTs : ℚ) ≤ lastSync := by
  unfold createValidator at ran
  unfold startKeys at kept
  split at ran
  · cases ran
    exact ⟨bounded, fun _ same => nomatch same⟩
  · split at ran
    · cases ran
      exact ⟨bounded, fun _ same => nomatch same⟩
    · rename_i vault held
      rw [held] at kept
      split at ran
      · cases ran
        exact ⟨bounded, fun _ same => nomatch same⟩
      · rename_i after key loaded
        dsimp only at kept
        rw [loaded] at kept
        cases ran
        exact loadFile_bounded bounded kept rfl

theorem token_bounded {validator after : LicenseValidator Key} {later : Storage} {call : TokenCall}
    {outcome : Except Raised LicensePayload}
    (bounded : FileBounded digests storage.file lastSync)
    (anchor : (validator.lastOnlineSyncTs : ℚ) ≤ lastSync)
    (ran : validator.verifyToken codec digests storage call = (after, later, outcome)) :
    FileBounded digests later.file lastSync ∧ (after.lastOnlineSyncTs : ℚ) ≤ lastSync := by
  have written : ∀ {file : HwmFile} {result : Except Raised Unit},
      validator.persist digests storage.file call = (file, result) →
        FileBounded digests file lastSync := by
    intro file result persisted
    unfold LicenseValidator.persist at persisted
    split at persisted
    · cases result with
      | error raised =>
          rw [sealHwm_error persisted]
          exact bounded
      | ok done =>
          obtain ⟨body, formatted, rfl⟩ := sealHwm_ok persisted
          exact fileBounded_sealed formatted (fun _ => anchor)
    · split at persisted
      · cases persisted
        exact bounded
      · cases persisted
        exact bounded
  unfold LicenseValidator.verifyToken at ran
  split at ran
  · cases ran
    exact ⟨bounded, anchor⟩
  · split at ran
    · rename_i persisted
      cases ran
      exact ⟨written persisted, anchor⟩
    · rename_i persisted
      cases ran
      exact ⟨written persisted, anchor⟩

/-- What every step keeps. -/
structure SyncBounded (digests : Digests) (world : LicenseWorld Key) : Prop where
  file : FileBounded digests world.storage.file world.lastSync
  validators : GraceBounded world

theorem graceBounded_update {validators : Nat → Option (LicenseValidator Key)} {id : Nat}
    {built : Option (LicenseValidator Key)}
    (others : ∀ id validator, validators id = some validator →
      (validator.lastOnlineSyncTs : ℚ) ≤ lastSync)
    (own : ∀ validator, built = some validator → (validator.lastOnlineSyncTs : ℚ) ≤ lastSync) :
    ∀ other validator, Function.update validators id built other = some validator →
      (validator.lastOnlineSyncTs : ℚ) ≤ lastSync := by
  intro other validator present
  by_cases same : other = id
  · subst same
    rw [Function.update_self] at present
    exact own validator present
  · rw [Function.update_of_ne same] at present
    exact others other validator present

theorem syncBounded_step (bounded : SyncBounded digests world)
    (kept : GraceKept codec digests world event)
    (stepped : licenseStep codec digests world event = some next) : SyncBounded digests next := by
  cases event with
  | startFlow id boot =>
      cases stepped
      refine ⟨?_, bounded.validators⟩
      change FileBounded digests (createFlow digests world.storage boot).1.file world.lastSync
      rw [createFlow_file]
      exact bounded.file
  | ticket id call =>
      unfold licenseStep at stepped
      dsimp only at stepped
      cases present : world.flows id with
      | none =>
          rw [present] at stepped
          cases stepped
          exact bounded
      | some flow =>
          rw [present] at stepped
          cases stepped
          unfold GraceKept at kept
          dsimp only at kept
          rw [present] at kept
          refine ⟨ticket_fileBounded bounded.file kept rfl, ?_⟩
          intro other validator held
          exact (bounded.validators other validator held).trans (le_syncAfter _ _)
  | startValidator id start =>
      cases stepped
      obtain ⟨file, own⟩ := start_bounded bounded.file kept rfl
      refine ⟨file, graceBounded_update bounded.validators ?_⟩
      intro validator built
      exact own validator (toOption_eq_some.mp built)
  | token id call =>
      unfold licenseStep at stepped
      dsimp only at stepped
      cases present : world.validators id with
      | none =>
          rw [present] at stepped
          cases stepped
          exact bounded
      | some validator =>
          rw [present] at stepped
          cases stepped
          obtain ⟨file, own⟩ :=
            token_bounded bounded.file (bounded.validators id validator present) rfl
          refine ⟨file, graceBounded_update bounded.validators ?_⟩
          intro other same
          cases same
          exact own

end Steps

/-- In a run whose steps all keep the grace, no validator measures it from a time behind the
last synchronisation. -/
theorem grace_never_stretched (codec : TicketCodec Key) (digests : Digests)
    {first last : LicenseWorld Key} {events : List (LicenseEvent Key)}
    (bounded : SyncBounded digests first)
    (kept : Meets (licenseStep codec digests) (GraceKept codec digests) first events)
    (ran : run (licenseStep codec digests) first events = some last) : GraceBounded last :=
  (run_invariant_of_meets (fun _ _ _ holds here stepped => syncBounded_step holds here stepped)
    bounded kept ran).validators

/-! ## A machine that stays offline -/

def secondsNs (seconds : Int) : Int := seconds * 1000000000

def newMachine : LicenseWorld Unit where
  storage := { secrets := some { hmacKey := some [1] } }
  lastSync := 0

def sampleStart (seconds : Int) : ValidatorStart Unit where
  publicKey := ()
  hardwareFingerprint := "cpu-1"
  nowWallNs := secondsNs seconds
  floorWallNs := secondsNs seconds
  replies := sampleReplies

def onlineOnce : List (LicenseEvent Unit) :=
  [.startFlow 0 (sampleBoot 1000), .ticket 0 (sampleCall 1000), .startValidator 0 (sampleStart 4600)]

def offlineTwice : List (LicenseEvent Unit) :=
  [.startFlow 0 (sampleBoot 1000), .ticket 0 (sampleCall 1000),
    .ticket 0 { sampleCall 2000 with isOffline := true },
    .ticket 0 { sampleCall 3000 with isOffline := true }, .startValidator 0 (sampleStart 4600)]

theorem newMachine_bounded : SyncBounded sampleDigests newMachine :=
  ⟨fun _ _ _ _ found => (nomatch found), fun _ _ held => (nomatch held)⟩

theorem grace_never_stretched_onlineOnce : ∃ last,
    run (licenseStep sampleCodec sampleDigests) newMachine onlineOnce = some last ∧
      (last.validators 0).isSome = true ∧ GraceBounded last := by
  have kept : Meets (licenseStep sampleCodec sampleDigests) (GraceKept sampleCodec sampleDigests)
      newMachine onlineOnce := by
    decide +kernel
  have started : (run (licenseStep sampleCodec sampleDigests) newMachine onlineOnce).any
      (fun last => (last.validators 0).isSome) = true := by
    decide +kernel
  cases ran : run (licenseStep sampleCodec sampleDigests) newMachine onlineOnce with
  | none =>
      rw [ran] at started
      cases started
  | some last =>
      rw [ran] at started
      exact ⟨last, rfl, started,
        grace_never_stretched sampleCodec sampleDigests newMachine_bounded kept ran⟩

theorem offline_tickets_stretch_grace :
    ¬ ∀ (first last : LicenseWorld Unit) events, SyncBounded sampleDigests first →
      run (licenseStep sampleCodec sampleDigests) first events = some last → GraceBounded last := by
  intro claimed
  have anchors : (run (licenseStep sampleCodec sampleDigests) newMachine offlineTwice).map
      (fun last => ((last.validators 0).map LicenseValidator.lastOnlineSyncTs, last.lastSync)) =
        some (some 2000, 1000) := by
    decide +kernel
  cases ran : run (licenseStep sampleCodec sampleDigests) newMachine offlineTwice with
  | none =>
      rw [ran] at anchors
      cases anchors
  | some last =>
      rw [ran] at anchors
      obtain ⟨anchor, sync⟩ := Prod.mk.inj (Option.some.inj anchors)
      obtain ⟨validator, held, behind⟩ := Option.map_eq_some_iff.mp anchor
      have bounded := claimed newMachine last offlineTwice newMachine_bounded ran 0 validator held
      rw [behind, sync] at bounded
      exact absurd bounded (by norm_num)

end Ucanlab.License
