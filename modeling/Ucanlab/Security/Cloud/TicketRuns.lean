import Ucanlab.Lib.EventRun
import Ucanlab.Security.Cloud.LicenseFlow

/-!
Runs of the ticket flow on one machine: calls, restarts, of which only the storage
survives, and files that somebody without the key puts in the place of the mark.
-/

namespace Ucanlab.Cloud

open Ucanlab.License EventRun

variable {Key : Type}

inductive TicketEvent (Key : Type) where
  | restart (boot : Boot Key)
  | verify (call : TicketCall)
  | spoil (file : HwmFile)

/-- The flow is absent where its constructor raised. -/
structure TicketWorld (Key : Type) where
  flow : Option (LicenseFlow Key) := none
  storage : Storage
  process : Nat := 0

section Runs

variable (codec : TicketCodec Key) (digests : Digests)

def ticketStep (world : TicketWorld Key) : TicketEvent Key → Option (TicketWorld Key)
  | .restart boot =>
      some {
        flow := (createFlow digests world.storage boot).2.toOption
        storage := (createFlow digests world.storage boot).1
        process := world.process + 1 }
  | .verify call =>
      match world.flow with
      | none => some world
      | some flow =>
          let (flow, storage, _) := flow.verifyCloudTicket codec digests world.storage call
          some { world with flow := some flow, storage := storage }
  | .spoil file => some { world with storage := { world.storage with file := file } }

structure Acceptance where
  process : Nat
  reading : ℚ
  claims : CloudLicenseClaims
  deriving DecidableEq

def accepted (world : TicketWorld Key) : TicketEvent Key → List Acceptance
  | .verify call =>
      match world.flow with
      | none => []
      | some flow =>
          match (flow.verifyCloudTicket codec digests world.storage call).2.2 with
          | .error _ => []
          | .ok claims => [{ process := world.process, reading := call.now, claims := claims }]
  | _ => []

/-- The call writes the mark, whatever it makes of the deadlines of the ticket. -/
def Seals (world : TicketWorld Key) : TicketEvent Key → Prop
  | .verify call =>
      ∃ flow ticket later, world.flow = some flow ∧ flow.vet codec call = .ok ticket ∧
        flow.persistHwm digests world.storage (max flow.lastKnownClockTs call.now) call.replies =
          (later, .ok ())
  | _ => False

def storedKeys (secrets : Option Vault) : List Bytes :=
  (secrets.bind Vault.hmacKey).toList ++ legacyKeys secrets

def verifies (secrets : Option Vault) : HwmFile → Bool
  | .text content => (parseHwmText digests content (storedKeys secrets)).isOk
  | _ => false

def Replies.WritesSucceed (replies : Replies) : Prop :=
  replies.keyStore = .stored ∧ replies.markerStored = true

instance (replies : Replies) : Decidable (Replies.WritesSucceed replies) :=
  inferInstanceAs (Decidable (_ ∧ _))

/-- The vault takes what it is given, a process is started on the file, and nobody forges a
tag. The disk may still fail. -/
def Honest (world : TicketWorld Key) : TicketEvent Key → Prop
  | .restart boot => boot.hwmPath = true ∧ Replies.WritesSucceed boot.replies
  | .verify call => Replies.WritesSucceed call.replies
  | .spoil file => verifies digests world.storage.secrets file = false

instance (world : TicketWorld Key) (event : TicketEvent Key) :
    Decidable (Honest digests world event) :=
  match event with
  | .restart _ => inferInstanceAs (Decidable (_ ∧ _))
  | .verify _ => inferInstanceAs (Decidable (Replies.WritesSucceed _))
  | .spoil _ => inferInstanceAs (Decidable (_ = _))

end Runs

def NoRollback (earlier later : Acceptance) : Prop := earlier.reading - clockSkew ≤ later.reading

instance : DecidableRel NoRollback := fun _ _ => inferInstanceAs (Decidable (_ ≤ _))

def NoRollbackSealed (earlier later : Acceptance) : Prop :=
  if earlier.process = later.process then NoRollback earlier later
  else pyTrunc earlier.reading - clockSkew ≤ later.reading

/-! ## What one acceptance leaves behind -/

section Steps

variable {codec : TicketCodec Key} {digests : Digests} {world next : TicketWorld Key}
  {event : TicketEvent Key} {entry : Acceptance} {vault : Vault} {key : Bytes}

structure Sealed (vault : Vault) (key : Bytes) (world : TicketWorld Key) : Prop where
  held : vault.hmacKey = some key
  marker : vault.initialized = true
  secrets : world.storage.secrets = some vault

structure Guards (digests : Digests) (vault : Vault) (key : Bytes) (entry : Acceptance)
    (world : TicketWorld Key) : Prop where
  sealed : Sealed vault key world
  file : ∀ content record, world.storage.file = .text content →
    parseHwmText digests content (key :: legacyKeys (some vault)) = .ok record →
      pyTrunc entry.reading ≤ record.hwmTs
  flow : ∀ flow, world.flow = some flow →
    if entry.process = world.process then entry.reading ≤ flow.lastKnownClockTs
    else pyTrunc entry.reading ≤ flow.lastKnownClockTs
  process : entry.process ≤ world.process

def Wired (world : TicketWorld Key) : Prop := ∀ flow, world.flow = some flow → flow.hwmPath = true

theorem storeMarker_of_stored (stored : vault.initialized = true) (reply : Bool) :
    storeMarker (some vault) reply = some vault := by
  unfold storeMarker
  rw [Option.map_some]
  split
  · rw [← stored]
  · rfl

theorem ticketStep_restart {boot : Boot Key}
    (stepped : ticketStep codec digests world (.restart boot) = some next) :
    next = {
      flow := (createFlow digests world.storage boot).2.toOption
      storage := (createFlow digests world.storage boot).1
      process := world.process + 1 } := (Option.some.inj stepped).symm

theorem ticketStep_verify {call : TicketCall}
    (stepped : ticketStep codec digests world (.verify call) = some next) :
    (world.flow = none ∧ next = world) ∨
    ∃ flow, world.flow = some flow ∧
      ((∃ raised, flow.vet codec call = .error raised ∧ next = world) ∨
      next = { world with storage := { world.storage with
        secrets := (hmacKey digests world.storage.secrets call.replies).1 } } ∨
      ∃ ticket later, flow.vet codec call = .ok ticket ∧
        flow.persistHwm digests world.storage (max flow.lastKnownClockTs call.now) call.replies =
          (later, .ok ()) ∧
        next = { world with
          flow := some { flow with lastKnownClockTs := max flow.lastKnownClockTs call.now }
          storage := later }) := by
  unfold ticketStep at stepped
  cases present : world.flow with
  | none =>
      rw [present] at stepped
      exact Or.inl ⟨rfl, (Option.some.inj stepped).symm⟩
  | some flow =>
      refine Or.inr ⟨flow, rfl, ?_⟩
      rw [present] at stepped
      dsimp only at stepped
      rcases flow.verifyCloudTicket_cases codec digests world.storage call with
        ⟨raised, refused, ran⟩ | ⟨ticket, raised, _, ran⟩ | ⟨ticket, later, admitted, persisted, ran⟩
      · rw [ran] at stepped
        refine Or.inl ⟨raised, refused, (Option.some.inj stepped).symm.trans ?_⟩
        rw [← present]
      · rw [ran] at stepped
        refine Or.inr (Or.inl ((Option.some.inj stepped).symm.trans ?_))
        rw [← present]
      · rw [ran] at stepped
        exact Or.inr (Or.inr ⟨ticket, later, admitted, persisted, (Option.some.inj stepped).symm⟩)

theorem wired_step (wired : Wired world) (honest : Honest digests world event)
    (stepped : ticketStep codec digests world event = some next) : Wired next := by
  cases event with
  | restart boot =>
      obtain rfl := ticketStep_restart stepped
      intro flow present
      exact (createFlow_ok (toOption_eq_some.mp present)).1.trans honest.1
  | verify call =>
      rcases ticketStep_verify stepped with ⟨_, rfl⟩ |
        ⟨flow, present, ⟨_, _, rfl⟩ | rfl | ⟨_, _, _, _, rfl⟩⟩
      · exact wired
      · exact wired
      · exact wired
      · intro other same
        cases same
        exact wired flow present
  | spoil file =>
      cases stepped
      exact wired

theorem Sealed.storage_eq (sealed : Sealed vault key world) :
    world.storage = { file := world.storage.file, secrets := some vault } := by
  rw [← sealed.secrets]

theorem Sealed.storedKeys (sealed : Sealed vault key world) :
    storedKeys world.storage.secrets = key :: legacyKeys (some vault) := by
  unfold Cloud.storedKeys
  rw [sealed.secrets, Option.bind_some, sealed.held]
  rfl

theorem sealed_step (sealed : Sealed vault key world) (wired : Wired world)
    (stepped : ticketStep codec digests world event = some next) : Sealed vault key next := by
  refine ⟨sealed.held, sealed.marker, ?_⟩
  cases event with
  | restart boot =>
      obtain rfl := ticketStep_restart stepped
      dsimp only
      rw [sealed.storage_eq, createFlow_storage sealed.held]
  | verify call =>
      have keyed : (hmacKey digests world.storage.secrets call.replies).1 = some vault := by
        rw [sealed.secrets, hmacKey_of_key sealed.held]
      rcases ticketStep_verify stepped with ⟨_, rfl⟩ |
        ⟨flow, present, ⟨_, _, rfl⟩ | rfl | ⟨_, later, _, persisted, rfl⟩⟩
      · exact sealed.secrets
      · exact sealed.secrets
      · exact keyed
      · obtain ⟨other, _, body, same, _, _, rfl⟩ :=
          LicenseFlow.persistHwm_ok (wired flow present) persisted
        obtain rfl := Option.some.inj (keyed.symm.trans same)
        exact storeMarker_of_stored sealed.marker _
  | spoil file =>
      cases stepped
      exact sealed.secrets

theorem sealed_of_seals (wired : Wired world) (honest : Honest digests world event)
    (seals : Seals codec digests world event)
    (stepped : ticketStep codec digests world event = some next) :
    ∃ vault key, Sealed vault key next := by
  cases event with
  | restart boot => exact seals.elim
  | spoil file => exact seals.elim
  | verify call =>
      obtain ⟨flow, ticket, later, present, admitted, persisted⟩ := seals
      obtain ⟨vault, key, body, held, found, _, rfl⟩ :=
        LicenseFlow.persistHwm_ok (wired flow present) persisted
      refine ⟨{ vault with initialized := true }, key, found, rfl, ?_⟩
      unfold ticketStep LicenseFlow.verifyCloudTicket at stepped
      rw [present] at stepped
      dsimp only at stepped
      rw [admitted] at stepped
      dsimp only at stepped
      rw [persisted] at stepped
      cases stepped
      unfold storeMarker
      rw [Option.map_some, honest.2, if_pos rfl]

/-- A process that starts behind an acceptance takes its mark from the file. -/
theorem Guards.createFlow {flow : LicenseFlow Key} {boot : Boot Key}
    (guards : Guards digests vault key entry world) (wired : boot.hwmPath = true)
    (built : (createFlow digests world.storage boot).2 = .ok flow) :
    pyTrunc entry.reading ≤ flow.lastKnownClockTs := by
  have loaded := (createFlow_ok built).2
  rw [wired] at loaded
  rcases loadPersistentHwm_ok loaded with ⟨_, fresh, _⟩ |
    ⟨content, secrets, keys, record, found, read, parsed, _, mark⟩
  · rw [guards.sealed.secrets] at fresh
    exact absurd (guards.sealed.marker.symm.trans fresh) Bool.true_eq_false.mp
  · rw [guards.sealed.secrets, hwmReadKeys_of_key guards.sealed.held] at read
    cases read
    have above := guards.file content record found parsed
    rw [mark]
    exact (Int.cast_le.mpr above).trans (le_max_right _ _)

theorem guards_step (guards : Guards digests vault key entry world) (wired : Wired world)
    (honest : Honest digests world event)
    (stepped : ticketStep codec digests world event = some next) :
    Guards digests vault key entry next := by
  have sealed := sealed_step guards.sealed wired stepped
  cases event with
  | restart boot =>
      obtain rfl := ticketStep_restart stepped
      refine ⟨sealed, ?_, ?_, Nat.le_succ_of_le guards.process⟩
      · dsimp only
        rw [guards.sealed.storage_eq, createFlow_storage guards.sealed.held]
        exact guards.file
      · intro flow present
        dsimp only
        have earlier := guards.process
        rw [if_neg (by omega)]
        exact guards.createFlow honest.1 (toOption_eq_some.mp present)
  | verify call =>
      rcases ticketStep_verify stepped with ⟨_, rfl⟩ |
        ⟨flow, present, ⟨_, _, rfl⟩ | rfl | ⟨ticket, later, _, persisted, rfl⟩⟩
      · exact guards
      · exact guards
      · exact ⟨sealed, guards.file, guards.flow, guards.process⟩
      · have below := guards.flow flow present
        obtain ⟨other, sealing, body, _, _, formatted, rfl⟩ :=
          LicenseFlow.persistHwm_ok (wired flow present) persisted
        refine ⟨sealed, ?_, ?_, guards.process⟩
        · intro content record same parsed
          cases same
          rw [(parseHwmText_sealed formatted parsed).1]
          split at below
          · exact pyTrunc_mono (below.trans (le_max_left _ _))
          · have truncated := pyTrunc_mono (below.trans (le_max_left _ call.now))
            rwa [pyTrunc_intCast] at truncated
        · intro moved same
          cases same
          dsimp only
          split
          · rename_i here
            rw [if_pos here] at below
            exact below.trans (le_max_left _ _)
          · rename_i elsewhere
            rw [if_neg elsewhere] at below
            exact below.trans (le_max_left _ _)
  | spoil file =>
      cases stepped
      refine ⟨sealed, ?_, guards.flow, guards.process⟩
      intro content record same parsed
      obtain rfl : file = .text content := same
      have refused : verifies digests world.storage.secrets (.text content) = false := honest
      unfold verifies at refused
      rw [guards.sealed.storedKeys] at refused
      dsimp only at refused
      rw [parsed] at refused
      cases refused

theorem mem_accepted : entry ∈ accepted codec digests world event ↔
    ∃ call flow claims, event = .verify call ∧ world.flow = some flow ∧
      (flow.verifyCloudTicket codec digests world.storage call).2.2 = .ok claims ∧
      entry = { process := world.process, reading := call.now, claims := claims } := by
  constructor
  · intro member
    unfold accepted at member
    split at member
    · rename_i call
      split at member
      · cases member
      · rename_i flow present
        split at member
        · cases member
        · rename_i claims ok
          exact ⟨call, flow, claims, rfl, present, ok, List.mem_singleton.mp member⟩
    · cases member
  · rintro ⟨call, flow, claims, rfl, present, ok, rfl⟩
    unfold accepted
    dsimp only
    rw [present]
    dsimp only
    rw [ok]
    exact List.mem_singleton_self _

theorem seals_of_accepted (isAccepted : entry ∈ accepted codec digests world event) :
    Seals codec digests world event := by
  obtain ⟨call, flow, claims, rfl, present, ok, _⟩ := mem_accepted.mp isAccepted
  obtain ⟨ticket, later, admitted, persisted, _⟩ := LicenseFlow.verifyCloudTicket_ok ok
  exact ⟨flow, ticket, later, present, admitted, persisted⟩

theorem guards_of_accepted (wired : Wired world) (honest : Honest digests world event)
    (isAccepted : entry ∈ accepted codec digests world event)
    (stepped : ticketStep codec digests world event = some next) :
    ∃ vault key, Guards digests vault key entry next := by
  obtain ⟨vault, key, sealed⟩ :=
    sealed_of_seals wired honest (seals_of_accepted isAccepted) stepped
  obtain ⟨call, flow, claims, rfl, present, ok, rfl⟩ := mem_accepted.mp isAccepted
  obtain ⟨ticket, later, admitted, persisted, _⟩ := LicenseFlow.verifyCloudTicket_ok ok
  obtain ⟨_, _, body, _, _, formatted, rfl⟩ :=
    LicenseFlow.persistHwm_ok (wired flow present) persisted
  unfold ticketStep LicenseFlow.verifyCloudTicket at stepped
  rw [present] at stepped
  dsimp only at stepped
  rw [admitted] at stepped
  dsimp only at stepped
  rw [persisted] at stepped
  cases stepped
  refine ⟨vault, key, sealed, ?_, ?_, Nat.le_refl _⟩
  · intro content record same parsed
    cases same
    rw [(parseHwmText_sealed formatted parsed).1]
    exact pyTrunc_mono (le_max_right _ _)
  · intro moved same
    cases same
    rw [if_pos rfl]
    exact le_max_right _ _

theorem Guards.noRollback {later : Acceptance} (guards : Guards digests vault key entry world)
    (isAccepted : later ∈ accepted codec digests world event) : NoRollbackSealed entry later := by
  obtain ⟨call, flow, claims, rfl, present, ok, rfl⟩ := mem_accepted.mp isAccepted
  obtain ⟨ticket, _, admitted, _⟩ := LicenseFlow.verifyCloudTicket_ok ok
  have skew := (LicenseFlow.vet_ok.mp admitted).2.2.2.1
  have below := guards.flow flow present
  unfold NoRollbackSealed NoRollback
  dsimp only
  split
  · rename_i here
    rw [if_pos here] at below
    exact (sub_le_sub_right below _).trans skew
  · rename_i elsewhere
    rw [if_neg elsewhere] at below
    exact (sub_le_sub_right below _).trans skew

end Steps

/-! ## Whole runs -/

section Whole

variable {codec : TicketCodec Key} {digests : Digests} {storage : Storage} {last : TicketWorld Key}
  {events : List (TicketEvent Key)}

def startWorld (storage : Storage) : TicketWorld Key := { storage := storage }

/-- Every acceptance so far stands in the way of the readings to come. -/
structure RunGuards (codec : TicketCodec Key) (digests : Digests) (storage : Storage)
    (past : List (TicketEvent Key)) (world : TicketWorld Key) : Prop where
  wired : Wired world
  guards : ∀ entry ∈ reports (ticketStep codec digests) (accepted codec digests)
    (startWorld storage) past, ∃ vault key, Guards digests vault key entry world
  ordered : (reports (ticketStep codec digests) (accepted codec digests)
    (startWorld storage) past).Pairwise NoRollbackSealed

theorem runGuards (ran : run (ticketStep codec digests) (startWorld storage) events = some last)
    (honest : Meets (ticketStep codec digests) (Honest digests) (startWorld storage) events) :
    RunGuards codec digests storage events last := by
  refine @run_history_invariant_of_meets _ _ _ (Honest digests) (RunGuards codec digests storage)
    _ _ _ ?_ ?_ honest ran
  · refine ⟨?_, fun entry member => absurd member List.not_mem_nil, List.Pairwise.nil⟩
    intro flow present
    cases present
  · intro past world event next pastRan guarded honestHere stepped
    have grown : reports (ticketStep codec digests) (accepted codec digests) (startWorld storage)
        (past ++ [event]) = _ := reports_append_singleton pastRan event
    refine ⟨wired_step guarded.wired honestHere stepped, ?_, ?_⟩
    · rw [grown]
      intro entry member
      rcases List.mem_append.mp member with before | now
      · obtain ⟨vault, key, guards⟩ := guarded.guards entry before
        exact ⟨vault, key, guards_step guards guarded.wired honestHere stepped⟩
      · exact guards_of_accepted guarded.wired honestHere now stepped
    · rw [grown, List.pairwise_append]
      refine ⟨guarded.ordered, ?_, ?_⟩
      · -- one call accepts one ticket at most
        cases event with
        | restart boot => exact List.Pairwise.nil
        | spoil file => exact List.Pairwise.nil
        | verify call =>
            unfold accepted
            dsimp only
            split
            · exact List.Pairwise.nil
            · split
              · exact List.Pairwise.nil
              · exact List.pairwise_singleton _ _
      · intro earlier before later now
        obtain ⟨vault, key, guards⟩ := guarded.guards earlier before
        exact guards.noRollback now

/-- No mark that a constructor could take: the file is missing or cannot be read, its tag or
its numbers are wrong, or its mark is not positive. -/
def Unusable (digests : Digests) (storage : Storage) : Prop :=
  ∀ content record, storage.file = .text content →
    parseHwmText digests content (storedKeys storage.secrets) = .ok record → record.hwmTs ≤ 0

theorem Sealed.refused {vault : Vault} {key : Bytes} {world : TicketWorld Key} {boot : Boot Key}
    (sealed : Sealed vault key world) (unusable : Unusable digests world.storage)
    (wired : boot.hwmPath = true) :
    ∃ raised, (createFlow digests world.storage boot).2 = .error raised := by
  cases built : (createFlow digests world.storage boot).2 with
  | error raised => exact ⟨raised, rfl⟩
  | ok flow =>
      exfalso
      have loaded := (createFlow_ok built).2
      rw [wired] at loaded
      rcases loadPersistentHwm_ok loaded with ⟨_, fresh, _⟩ |
        ⟨content, secrets, keys, record, found, read, parsed, positive, _⟩
      · unfold wasInitialized at fresh
        rw [sealed.secrets, Option.map_some, Option.getD_some, sealed.marker] at fresh
        cases fresh
      · rw [sealed.secrets, hwmReadKeys_of_key sealed.held] at read
        cases read
        rw [← sealed.storedKeys] at parsed
        have below := unusable content record found parsed
        omega

theorem sealed_of_run {front back : List (TicketEvent Key)} {event : TicketEvent Key}
    {before : TicketWorld Key}
    (ran : run (ticketStep codec digests) (startWorld storage) (front ++ event :: back) = some last)
    (honest : Meets (ticketStep codec digests) (Honest digests) (startWorld storage)
      (front ++ event :: back))
    (frontRan : run (ticketStep codec digests) (startWorld storage) front = some before)
    (seals : Seals codec digests before event) : ∃ vault key, Sealed vault key last := by
  obtain ⟨frontHonest, backHonest⟩ := meets_append honest frontRan
  have wired := (runGuards frontRan frontHonest).wired
  rw [run_append_of_run _ frontRan] at ran
  obtain ⟨next, stepped, tail⟩ := run_cons_some ran
  obtain ⟨vault, key, sealed⟩ := sealed_of_seals wired backHonest.1 seals stepped
  refine ⟨vault, key, ?_⟩
  have kept := @run_invariant_of_meets _ _ _ (fun world => Wired world ∧ Sealed vault key world)
    (Honest digests)
    (fun world event next both here stepped =>
      ⟨wired_step both.1 here stepped, sealed_step both.2 both.1 stepped⟩)
    next last back ⟨wired_step wired backHonest.1 stepped, sealed⟩ (backHonest.2 next stepped) tail
  exact kept.2

structure Genuine (codec : TicketCodec Key) (flow : LicenseFlow Key) (call : TicketCall)
    (claims : CloudLicenseClaims) : Prop where
  signed : ∃ ticket key, readTicket codec call.token = .ok ticket ∧ ticket.claims = claims ∧
    flow.trustedKeys.get? claims.keyId = some key ∧
    codec.verify key ticket.signature ticket.payload = true
  device : call.targetDeviceId = some claims.deviceId
  deadline : call.now ≤ min claims.expiresAt.toRat claims.offlineUntil.toRat

def Forged (codec : TicketCodec Key) (flow : LicenseFlow Key) (call : TicketCall) : Prop :=
  ∀ ticket key, readTicket codec call.token = .ok ticket →
    flow.trustedKeys.get? ticket.claims.keyId = some key →
    codec.verify key ticket.signature ticket.payload = false

theorem genuine_of_ok {flow : LicenseFlow Key} {call : TicketCall} {claims : CloudLicenseClaims}
    (ok : (flow.verifyCloudTicket codec digests storage call).2.2 = .ok claims) :
    Genuine codec flow call claims := by
  obtain ⟨ticket, later, admitted, _, timely⟩ := LicenseFlow.verifyCloudTicket_ok ok
  obtain ⟨deadline, rfl⟩ := Ticket.checkDeadlines_ok.mp timely
  obtain ⟨read, ⟨key, held, verified⟩, bound, _⟩ := LicenseFlow.vet_ok.mp admitted
  exact ⟨⟨ticket, key, read, rfl, held, verified⟩, bound, deadline⟩

theorem forged_refused {flow : LicenseFlow Key} {call : TicketCall}
    (forged : Forged codec flow call) :
    ∃ raised, flow.verifyCloudTicket codec digests storage call =
      (flow, storage, .error raised) := by
  have notAdmitted : ∀ ticket, flow.vet codec call ≠ .ok ticket := by
    intro ticket admitted
    obtain ⟨read, ⟨key, held, verified⟩, _⟩ := LicenseFlow.vet_ok.mp admitted
    exact Bool.false_ne_true ((forged ticket key read held).symm.trans verified)
  rcases flow.verifyCloudTicket_cases codec digests storage call with
    ⟨raised, _, ran⟩ | ⟨ticket, _, admitted, _⟩ | ⟨ticket, _, admitted, _⟩
  · exact ⟨raised, ran⟩
  · exact absurd admitted (notAdmitted ticket)
  · exact absurd admitted (notAdmitted ticket)

end Whole

/-- Accepted tickets are genuine; within a process no reading falls behind an accepted one by
more than the skew, and behind a restart none falls so far behind its whole seconds; a
missing or corrupt mark is refused; a forged ticket moves nothing. -/
theorem tickets_resist_rollback (codec : TicketCodec Key) (digests : Digests) :
    (∀ flow storage call claims,
      (LicenseFlow.verifyCloudTicket codec digests flow storage call).2.2 = .ok claims →
        Genuine codec flow call claims) ∧
    (∀ storage events last,
      run (ticketStep codec digests) (startWorld storage) events = some last →
      Meets (ticketStep codec digests) (Honest digests) (startWorld storage) events →
        (reports (ticketStep codec digests) (accepted codec digests) (startWorld storage)
          events).Pairwise NoRollbackSealed) ∧
    (∀ storage front event back before last,
      run (ticketStep codec digests) (startWorld storage) (front ++ event :: back) = some last →
      Meets (ticketStep codec digests) (Honest digests) (startWorld storage)
        (front ++ event :: back) →
      run (ticketStep codec digests) (startWorld storage) front = some before →
      Seals codec digests before event → Unusable digests last.storage →
        ∀ boot : Boot Key, boot.hwmPath = true →
          ∃ raised, (createFlow digests last.storage boot).2 = .error raised) ∧
    (∀ flow storage call, Forged codec flow call →
      ∃ raised, LicenseFlow.verifyCloudTicket codec digests flow storage call =
        (flow, storage, .error raised)) := by
  refine ⟨fun _ _ _ _ => genuine_of_ok, fun _ _ _ ran honest => (runGuards ran honest).ordered, ?_,
    fun _ _ _ => forged_refused⟩
  intro storage front event back before last ran honest frontRan seals unusable boot wired
  obtain ⟨vault, key, sealed⟩ := sealed_of_run ran honest frontRan seals
  exact sealed.refused unusable wired

/-! ## A machine that goes back a little more than the skew -/

def sampleStorage : Storage := { secrets := some { hmacKey := some [1] } }

def sampleFlow : LicenseFlow Unit where
  bootRealtime := 100
  bootMonotonic := 100
  hwmPath := true
  trustedKeys := [("v1", ())]
  lastKnownClockTs := 100

def sampleClaims : CloudLicenseClaims where
  licenseId := "L1"
  organizationId := "O1"
  deviceId := "D1"
  tier := "PRO"
  features := ["dtc"]
  issuedAt := .int 0
  expiresAt := .int 9000
  offlineUntil := .int 8000
  keyId := "v1"
  nonce := "n1"

def secondBack : List (TicketEvent Unit) :=
  [.restart (sampleBoot 100), .verify (sampleCall (1009 / 10)), .restart (sampleBoot 99),
    .verify (sampleCall 99)]

def deletedMark : List (TicketEvent Unit) :=
  [.restart (sampleBoot 100), .verify (sampleCall (1009 / 10)), .spoil .missing]

theorem secondBack_runs : ∃ last,
    run (ticketStep sampleCodec sampleDigests) (startWorld sampleStorage) secondBack = some last :=
  Option.isSome_iff_exists.mp (by decide +kernel)

theorem secondBack_honest :
    Meets (ticketStep sampleCodec sampleDigests) (Honest sampleDigests) (startWorld sampleStorage)
      secondBack := by
  decide +kernel

theorem deletedMark_runs : ∃ last,
    run (ticketStep sampleCodec sampleDigests) (startWorld sampleStorage) deletedMark = some last ∧
      last.storage.file = .missing := by
  obtain ⟨last, ran⟩ := Option.isSome_iff_exists.mp
    (show (run (ticketStep sampleCodec sampleDigests) (startWorld sampleStorage)
      deletedMark).isSome = true by decide +kernel)
  have deleted : (run (ticketStep sampleCodec sampleDigests) (startWorld sampleStorage)
      deletedMark).map (fun world => world.storage.file) = some .missing := by
    decide +kernel
  rw [ran] at deleted
  exact ⟨last, ran, Option.some.inj deleted⟩

theorem deletedMark_honest :
    Meets (ticketStep sampleCodec sampleDigests) (Honest sampleDigests) (startWorld sampleStorage)
      deletedMark := by
  decide +kernel

theorem tickets_resist_rollback_secondBack :
    Genuine sampleCodec sampleFlow (sampleCall (1009 / 10)) sampleClaims ∧
    (reports (ticketStep sampleCodec sampleDigests) (accepted sampleCodec sampleDigests)
      (startWorld sampleStorage) secondBack).Pairwise NoRollbackSealed ∧
    (∃ last, run (ticketStep sampleCodec sampleDigests) (startWorld sampleStorage) deletedMark =
      some last ∧
      ∃ raised, (createFlow sampleDigests last.storage (sampleBoot 99)).2 = .error raised) ∧
    ∃ raised, LicenseFlow.verifyCloudTicket sampleCodec sampleDigests
      { sampleFlow with trustedKeys := [("v0", ())] } sampleStorage (sampleCall 100) =
        ({ sampleFlow with trustedKeys := [("v0", ())] }, sampleStorage, .error raised) := by
  obtain ⟨genuine, ordered, refused, forged⟩ :=
    tickets_resist_rollback sampleCodec sampleDigests
  have passes : (LicenseFlow.verifyCloudTicket sampleCodec sampleDigests sampleFlow sampleStorage
      (sampleCall (1009 / 10))).2.2 = .ok sampleClaims := by
    decide +kernel
  obtain ⟨last, ran⟩ := secondBack_runs
  obtain ⟨deleted, deletedRan, missing⟩ := deletedMark_runs
  have started : run (ticketStep sampleCodec sampleDigests) (startWorld sampleStorage)
      [.restart (sampleBoot 100)] =
        some { flow := some sampleFlow, storage := sampleStorage, process := 1 } := rfl
  refine ⟨genuine _ _ _ _ passes, ordered _ _ _ ran secondBack_honest, ⟨deleted, deletedRan, ?_⟩, ?_⟩
  · refine refused sampleStorage [.restart (sampleBoot 100)] (.verify (sampleCall (1009 / 10)))
      [.spoil .missing] _ deleted deletedRan deletedMark_honest started ?_ ?_ _ rfl
    · obtain ⟨ticket, later, admitted, persisted, _⟩ := LicenseFlow.verifyCloudTicket_ok passes
      exact ⟨sampleFlow, ticket, later, rfl, admitted, persisted⟩
    · intro content record found
      rw [missing] at found
      cases found
  · refine forged _ sampleStorage (sampleCall 100) ?_
    intro ticket key read held
    have named : (readTicket sampleCodec sampleToken).toOption.map
        (fun ticket => ticket.claims.keyId) = some "v1" := by
      decide +kernel
    change readTicket sampleCodec sampleToken = .ok ticket at read
    rw [read] at named
    have kid : ticket.claims.keyId = "v1" := Option.some.inj named
    rw [kid] at held
    have unknown : Dict.get? [("v0", ())] "v1" = none := rfl
    exact nomatch held.symm.trans unknown

theorem rollback_below_the_second :
    ¬ ∀ storage (events : List (TicketEvent Unit)) last,
      run (ticketStep sampleCodec sampleDigests) (startWorld storage) events = some last →
      Meets (ticketStep sampleCodec sampleDigests) (Honest sampleDigests) (startWorld storage)
        events →
        (reports (ticketStep sampleCodec sampleDigests) (accepted sampleCodec sampleDigests)
          (startWorld storage) events).Pairwise NoRollback := by
  intro claimed
  obtain ⟨last, ran⟩ := secondBack_runs
  have behind : ¬ (reports (ticketStep sampleCodec sampleDigests)
      (accepted sampleCodec sampleDigests) (startWorld sampleStorage) secondBack).Pairwise
        NoRollback := by
    decide +kernel
  exact behind (claimed sampleStorage secondBack last ran secondBack_honest)

end Ucanlab.Cloud
