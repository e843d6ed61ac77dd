import Mathlib.Algebra.Order.Field.Basic
import Ucanlab.Protocols.Obd.PollerRuns

/-!
One request for each conversation at a time. The scheduler keeps the rule for
its active job, so it holds in every run exactly where all jobs ask one ECU.
-/

namespace Ucanlab.Obd

open IsoTp

inductive PollerEvent where
  | step (now : ℚ) (sends : Bool)
  | rx (monotonicNs : Nat) (now : ℚ) (frame : CanFrame)

def PollerEvent.time : PollerEvent → ℚ
  | .step now _ => now
  | .rx _ now _ => now

def Poller.handle (poller : Poller) : PollerEvent → Poller
  | .step now sends => (poller.step now sends).1
  | .rx monotonicNs now frame => (poller.processRxFrame monotonicNs now frame).1

def Poller.react (poller : Poller) (event : PollerEvent) : Option Poller :=
  some (poller.handle event)

def Nondecreasing (events : List PollerEvent) : Prop :=
  (events.map PollerEvent.time).Pairwise (· ≤ ·)

def PollerJob.Outstanding (job : PollerJob) (now : ℚ) : Prop :=
  job.waiting ∧ now < job.responseDeadlineS

def Poller.SingleFlight (poller : Poller) (now : ℚ) : Prop :=
  ∀ job ∈ poller.jobs, ∀ other ∈ poller.jobs, job.Outstanding now → other.Outstanding now →
    job.conversation = other.conversation → job.key = other.key

def Poller.NoCollision (poller : Poller) (now : ℚ) (sends : Bool) : Prop :=
  ∀ key, (poller.step now sends).2 = .ok (some key) →
    ∀ job ∈ poller.jobs, job.Outstanding now → job.conversation ≠ key.2.2

def Poller.TimesOut (poller : Poller) (now : ℚ) (sends : Bool) : Prop :=
  ∀ job ∈ poller.jobs, job.waiting → job.responseDeadlineS ≤ now →
    ∀ later ∈ (poller.step now sends).1.jobs, later.key = job.key →
      later.state = .retryBackoff ∨ later.state = .failed

def Poller.Orderly (poller : Poller) (event : PollerEvent) : Prop :=
  (poller.handle event).SingleFlight event.time ∧
    match event with
    | .step now sends => poller.NoCollision now sends ∧ poller.TimesOut now sends
    | .rx _ _ _ => True

inductive Registered : Poller → Prop where
  | created {poller : Poller} (channelId : String) (txId rxId : Nat) (maxRate : ℚ)
      (isotpTransport : Option ReceivingTransport)
      (made : Poller.create channelId txId rxId maxRate isotpTransport = .ok poller) :
      Registered poller
  | pid {before after : Poller} (registration : Registration) (registered : Registered before)
      (added : before.registerPid registration = .ok after) : Registered after
  | did {before after : Poller} (registration : Registration) (registered : Registered before)
      (added : before.registerDid registration = .ok after) : Registered after
  | dtcMode {before after : Poller} (registration : Registration) (registered : Registered before)
      (added : before.registerDtcMode registration = .ok after) : Registered after

def Poller.OneConversation (poller : Poller) : Prop :=
  ∀ job ∈ poller.jobs, ∀ other ∈ poller.jobs, job.conversation = other.conversation

def Poller.RequestsFit (poller : Poller) : Prop :=
  ∀ job ∈ poller.jobs, ∃ frame, poller.buildRequestFrame job = .ok frame

/-! ## What registration leaves -/

/-- Nothing is under way. -/
structure Poller.Fresh (poller : Poller) : Prop where
  distinct : poller.Distinct
  idle : ∀ job ∈ poller.jobs, job.state = .idle ∧ job.transactionId = 0
  unsent : poller.activeJob = none ∧ poller.lastTxTimeS = 0 ∧ poller.transactionCounter = 0
  gap : 0 < poller.minTxIntervalS ∧ poller.minTxIntervalS ≤ 1

variable {poller after : Poller} {job other : PollerJob} {key : JobKey}
  {change : PollerJob → PollerJob} {now : ℚ}

theorem mem_putJob {jobs : List PollerJob} (member : other ∈ putJob job jobs) :
    other = job ∨ other ∈ jobs := by
  induction jobs with
  | nil =>
      rcases List.mem_cons.mp member with same | absent
      · exact .inl same
      · cases absent
  | cons head rest ih =>
      simp only [putJob] at member
      split at member
      · rcases List.mem_cons.mp member with same | later
        · exact .inl same
        · exact .inr (List.mem_cons_of_mem _ later)
      · rcases List.mem_cons.mp member with same | later
        · exact .inr (same ▸ List.mem_cons_self ..)
        · exact (ih later).imp_right (List.mem_cons_of_mem _)

theorem nodup_putJob {jobs : List PollerJob} (distinct : (jobs.map PollerJob.key).Nodup) :
    ((putJob job jobs).map PollerJob.key).Nodup := by
  induction jobs with
  | nil => exact List.nodup_singleton _
  | cons head rest ih =>
      rw [List.map_cons, List.nodup_cons] at distinct
      simp only [putJob]
      split
      · rename_i same
        rw [List.map_cons, List.nodup_cons, ← same]
        exact distinct
      · rename_i different
        rw [List.map_cons, List.nodup_cons]
        refine ⟨?_, ih distinct.2⟩
        intro member
        obtain ⟨found, listed, same⟩ := List.mem_map.mp member
        rcases mem_putJob listed with rfl | old
        · exact different same.symm
        · exact distinct.1 (List.mem_map.mpr ⟨found, old, same⟩)

theorem Poller.Fresh.registerJob {kind : JobKind} {inRange : Bool} {defaultTxId : Nat}
    {registration : Registration} (fresh : poller.Fresh)
    (added : poller.registerJob kind inRange defaultTxId registration = .ok after) :
    after.Fresh := by
  unfold Poller.registerJob at added
  split at added
  · cases added
  · split at added
    · cases added
    · cases added
      refine ⟨nodup_putJob fresh.distinct, ?_, fresh.unsent, fresh.gap⟩
      intro job member
      rcases mem_putJob member with rfl | old
      · exact ⟨rfl, rfl⟩
      · exact fresh.idle job old

theorem Registered.fresh (registered : Registered poller) : poller.Fresh := by
  induction registered with
  | created channelId txId rxId maxRate isotpTransport made =>
      unfold Poller.create at made
      split at made
      · cases made
      · cases made
        refine ⟨List.nodup_nil, fun job member => (nomatch member), ⟨rfl, rfl, rfl⟩, ?_, ?_⟩
        · exact one_div_pos.mpr (lt_of_lt_of_le one_pos (le_max_left 1 maxRate))
        · exact (div_le_one (lt_of_lt_of_le one_pos (le_max_left 1 maxRate))).mpr (le_max_left 1 maxRate)
  | pid registration _ added ih => exact ih.registerJob added
  | did registration _ added ih => exact ih.registerJob added
  | dtcMode registration _ added ih => exact ih.registerJob added

/-! ## One conversation -/

structure Poller.SoleWaiter (poller : Poller) : Prop where
  distinct : poller.Distinct
  together : poller.OneConversation
  waiter : ∀ job ∈ poller.jobs, job.waiting → poller.activeJob = some job.key

theorem Poller.SoleWaiter.active (sole : poller.SoleWaiter) (member : job ∈ poller.jobs)
    (waits : job.waiting) : poller.active = some job :=
  sole.distinct.active_eq member (sole.waiter job member waits)

theorem oneConversation_modify (together : poller.OneConversation)
    (keeps : ∀ job, (change job).key = job.key) : (poller.modify key change).OneConversation := by
  have origin : ∀ changed ∈ (poller.modify key change).jobs,
      ∃ job ∈ poller.jobs, changed.conversation = job.conversation := by
    intro changed member
    rcases mem_modify.mp member with ⟨job, listed, _, rfl⟩ | ⟨listed, _⟩
    · exact ⟨job, listed, conversation_of_key (keeps job)⟩
    · exact ⟨changed, listed, rfl⟩
  intro job member other others
  obtain ⟨first, firstListed, firstSame⟩ := origin job member
  obtain ⟨second, secondListed, secondSame⟩ := origin other others
  rw [firstSame, secondSame]
  exact together first firstListed second secondListed

theorem Poller.SoleWaiter.of_modify (sole : poller.SoleWaiter)
    (jobs : after.jobs = (poller.modify key change).jobs)
    (keeps : ∀ job, (change job).key = job.key)
    (waits : ∀ job ∈ poller.jobs, job.key = key → (change job).waiting →
      after.activeJob = some key)
    (others : ∀ job ∈ poller.jobs, job.key ≠ key → ¬ job.waiting) : after.SoleWaiter := by
  refine ⟨?_, ?_, ?_⟩
  · unfold Poller.Distinct
    rw [jobs, keys_modify poller key keeps]
    exact sole.distinct
  · intro job member other others
    rw [jobs] at member others
    exact oneConversation_modify sole.together keeps job member other others
  · intro changed member waiting
    rw [jobs] at member
    rcases mem_modify.mp member with ⟨job, listed, here, rfl⟩ | ⟨listed, elsewhere⟩
    · rw [keeps, here]
      exact waits job listed here waiting
    · exact absurd waiting (others changed listed elsewhere)

theorem Poller.SoleWaiter.others (sole : poller.SoleWaiter) (active : poller.activeJob = some key)
    (member : job ∈ poller.jobs) (elsewhere : job.key ≠ key) : ¬ job.waiting := by
  intro waits
  have same := (sole.waiter job member waits).symm.trans active
  exact elsewhere (Option.some.inj same)

theorem Poller.SoleWaiter.expire (sole : poller.SoleWaiter) (now : ℚ) :
    (poller.expire now).SoleWaiter := by
  rcases poller.expire_cases now with ⟨same, _⟩ | ⟨job, active, _, retried⟩
  · rw [same]
    exact sole
  · rw [retried]
    have slot := (Poller.active_eq_some active).1
    refine sole.of_modify rfl (fun job => job.retried_key now) ?_
      (fun other member elsewhere => sole.others slot member elsewhere)
    exact fun other _ _ waits =>
      absurd waits (PollerJob.not_waiting_of_state (other.retried_state now))

theorem Poller.SoleWaiter.none_waits (sole : poller.SoleWaiter) (due : job ∈ poller.dueJobs now)
    (member : other ∈ poller.jobs) : ¬ other.waiting := by
  intro waits
  obtain ⟨listed, _, _, free⟩ := Poller.mem_dueJobs.mp due
  apply free
  rw [Poller.busyEndpoint_of_active (sole.active member waits) waits]
  exact congrArg some (sole.together other member job listed)

theorem Poller.SoleWaiter.dispatch (sole : poller.SoleWaiter)
    (quiet : ∀ job ∈ poller.jobs, ¬ job.waiting) (job : PollerJob) (now : ℚ) :
    (poller.dispatch job now).SoleWaiter :=
  sole.of_modify rfl (fun job => dispatched_key job now _)
    (fun other _ _ waits => absurd waits (dispatched_not_waiting other now _))
    (fun other member _ => quiet other member)

theorem Poller.SoleWaiter.transmit (sole : poller.SoleWaiter) (slot : poller.activeJob = some key)
    (sends : Bool) : (poller.transmit key sends).SoleWaiter := by
  unfold Poller.transmit
  cases sends with
  | true =>
      exact sole.of_modify rfl (fun _ => rfl) (fun _ _ _ _ => slot)
        (fun other member elsewhere => sole.others slot member elsewhere)
  | false =>
      refine sole.of_modify rfl (fun _ => rfl) ?_
        (fun other member elsewhere => sole.others slot member elsewhere)
      exact fun other _ _ waits => absurd waits (PollerJob.not_waiting_of_state (.inr rfl))

theorem Poller.SoleWaiter.step (sole : poller.SoleWaiter) (now : ℚ) (sends : Bool) :
    (poller.step now sends).1.SoleWaiter := by
  rcases poller.step_cases now sends with same | ⟨job, due, ⟨_, _, raised⟩ | ⟨_, _, sent⟩⟩
  · rw [same]
    exact sole.expire now
  · rw [raised]
    exact (sole.expire now).dispatch (fun _ member => (sole.expire now).none_waits due member) job now
  · rw [sent]
    exact ((sole.expire now).dispatch (fun _ member => (sole.expire now).none_waits due member)
      job now).transmit rfl sends

theorem Poller.SoleWaiter.owner (sole : poller.SoleWaiter) (frame : CanFrame)
    (member : job ∈ poller.jobs) (waits : job.waiting) : poller.owner frame = some job := by
  unfold Poller.owner
  split
  · rename_i found listed
    have waiting : found.waiting ∧ found.rxId = frame.arbitrationId := by
      have named := List.find?_some listed
      exact of_decide_eq_true named
    have same := (sole.active (List.mem_of_find?_eq_some listed) waiting.1).symm.trans
      (sole.active member waits)
    exact same
  · exact sole.active member waits

theorem Poller.SoleWaiter.processRxFrame (sole : poller.SoleWaiter) (monotonicNs : Nat) (now : ℚ)
    (frame : CanFrame) : (poller.processRxFrame monotonicNs now frame).1.SoleWaiter := by
  rcases poller.processRxFrame_cases monotonicNs now frame with
    ⟨jobs, slot⟩ | ⟨job, owned, change, jobs, answered⟩
  · refine ⟨?_, ?_, ?_⟩
    · unfold Poller.Distinct
      rw [jobs]
      exact sole.distinct
    · unfold Poller.OneConversation
      rw [jobs]
      exact sole.together
    · intro job member waits
      rw [jobs] at member
      rw [slot, sole.owner frame member waits]
      rfl
  · refine sole.of_modify jobs answered.named (fun other _ _ waits => answered.waits other waits) ?_
    intro other member elsewhere waits
    rw [sole.owner frame member waits] at owned
    cases owned
    exact elsewhere rfl

theorem Poller.SoleWaiter.handle (sole : poller.SoleWaiter) (event : PollerEvent) :
    (poller.handle event).SoleWaiter := by
  cases event with
  | step now sends => exact sole.step now sends
  | rx monotonicNs now frame => exact sole.processRxFrame monotonicNs now frame

theorem Poller.SoleWaiter.singleFlight (sole : poller.SoleWaiter) (now : ℚ) :
    poller.SingleFlight now := by
  intro job member other others outstanding second _
  have same := (sole.waiter job member outstanding.1).symm.trans
    (sole.waiter other others second.1)
  exact Option.some.inj same

theorem Poller.SoleWaiter.noCollision (sole : poller.SoleWaiter) (now : ℚ) (sends : Bool) :
    poller.NoCollision now sends := by
  intro key dispatched job member outstanding
  have kept : poller.expire now = poller := by
    rcases poller.expire_cases now with ⟨same, _⟩ | ⟨active, found, past, _⟩
    · exact same
    · rw [sole.active member outstanding.1] at found
      cases found
      exact absurd outstanding.2 (not_lt.mpr past)
  rcases poller.step_cases now sends with same | ⟨due, listed, _⟩
  · rw [same] at dispatched
    cases dispatched
  · rw [kept] at listed
    exact absurd outstanding.1 (sole.none_waits listed member)

theorem Poller.SoleWaiter.timesOut (sole : poller.SoleWaiter) (now : ℚ) (sends : Bool) :
    poller.TimesOut now sends := by
  intro job member waits past
  have expired : poller.expire now = poller.scheduleRetry job now := by
    rcases poller.expire_cases now with ⟨_, early⟩ | ⟨active, found, _, retried⟩
    · exact absurd (early job (sole.active member waits)) (not_lt.mpr past)
    · rw [sole.active member waits] at found
      cases found
      exact retried
  -- Only the job itself stands under its key after the timeout.
  have ended : ∀ later ∈ (poller.expire now).jobs, later.key = job.key →
      later = job.retried now := by
    intro later listed same
    rw [expired] at listed
    rcases mem_modify.mp listed with ⟨origin, found, here, rfl⟩ | ⟨_, elsewhere⟩
    · rw [sole.distinct.eq_of_key found member here]
    · exact absurd same elsewhere
  -- A dispatch in the same step is of another job.
  have apart : ∀ due ∈ (poller.expire now).dueJobs now, due.key ≠ job.key := by
    intro due listed same
    obtain ⟨found, ready, _⟩ := Poller.mem_dueJobs.mp listed
    rw [ended due found same] at ready
    exact absurd (job.retried_later now) (not_lt.mpr ready)
  intro later listed same
  have old : later ∈ (poller.expire now).jobs := by
    rcases poller.step_cases now sends with done | ⟨due, ready, ⟨_, _, raised⟩ | ⟨_, _, sent⟩⟩
    · rw [done] at listed
      exact listed
    · rw [raised] at listed
      rcases mem_modify.mp listed with ⟨origin, _, here, rfl⟩ | ⟨found, _⟩
      · exact absurd (here.symm.trans same) (apart due ready)
      · exact found
    · rw [sent] at listed
      have elsewhere : later.key ≠ due.key := fun here => apart due ready (here.symm.trans same)
      cases sends with
      | true =>
          rcases mem_modify.mp listed with ⟨origin, _, here, rfl⟩ | ⟨found, _⟩
          · exact absurd here elsewhere
          · rcases mem_modify.mp found with ⟨origin, _, here, rfl⟩ | ⟨before, _⟩
            · exact absurd here elsewhere
            · exact before
      | false =>
          rcases mem_modify.mp listed with ⟨origin, _, here, rfl⟩ | ⟨found, _⟩
          · exact absurd here elsewhere
          · rcases mem_modify.mp found with ⟨origin, _, here, rfl⟩ | ⟨before, _⟩
            · exact absurd here elsewhere
            · exact before
  rw [ended later old same]
  exact job.retried_state now

theorem Poller.SoleWaiter.orderly (sole : poller.SoleWaiter) (event : PollerEvent) :
    poller.Orderly event := by
  refine ⟨(sole.handle event).singleFlight event.time, ?_⟩
  cases event with
  | step now sends => exact ⟨sole.noCollision now sends, sole.timesOut now sends⟩
  | rx monotonicNs now frame => trivial

theorem Poller.SoleWaiter.meets (sole : poller.SoleWaiter) (events : List PollerEvent) :
    EventRun.Meets Poller.react Poller.Orderly poller events := by
  induction events generalizing poller with
  | nil => trivial
  | cons event rest ih =>
      refine ⟨sole.orderly event, ?_⟩
      rintro next ⟨⟩
      exact ih (sole.handle event)

theorem Poller.Fresh.soleWaiter (fresh : poller.Fresh) (together : poller.OneConversation) :
    poller.SoleWaiter := by
  refine ⟨fresh.distinct, together, ?_⟩
  intro job member waits
  have idle := (fresh.idle job member).1
  unfold PollerJob.waiting at waits
  rw [idle] at waits
  rcases waits with same | same <;> cases same

/-! ## Two conversations -/

theorem buildRequestFrame_congr (channel : poller.channelId = after.channelId)
    (same : job.key = other.key) :
    poller.buildRequestFrame job = after.buildRequestFrame other := by
  have kinds : job.kind = other.kind := congrArg Prod.fst same
  have identifiers : job.identifier = other.identifier :=
    congrArg (fun key : JobKey => key.2.1) same
  have targets : job.txId = other.txId := congrArg (fun key : JobKey => key.2.2.1) same
  unfold Poller.buildRequestFrame requestData
  rw [channel, kinds, identifiers, targets]

theorem Poller.RequestsFit.of_keys (fit : poller.RequestsFit)
    (channel : after.channelId = poller.channelId)
    (keys : after.jobs.map PollerJob.key = poller.jobs.map PollerJob.key) :
    after.RequestsFit := by
  intro job member
  have listed : job.key ∈ poller.jobs.map PollerJob.key :=
    keys ▸ List.mem_map.mpr ⟨job, member, rfl⟩
  obtain ⟨origin, found, same⟩ := List.mem_map.mp listed
  obtain ⟨frame, built⟩ := fit origin found
  exact ⟨frame, (buildRequestFrame_congr channel same.symm).trans built⟩

def Poller.sent (poller : Poller) (job : PollerJob) (now : ℚ) : Poller :=
  (poller.dispatch job now).transmit job.key true

def PollerJob.sent (job : PollerJob) (now : ℚ) (transactionId : Nat) : PollerJob :=
  { job.dispatched now transactionId with state := .waitingForResponse }

@[simp] theorem PollerJob.sent_key (job : PollerJob) (now : ℚ) (transactionId : Nat) :
    (job.sent now transactionId).key = job.key := rfl

@[simp] theorem PollerJob.sent_deadline (job : PollerJob) (now : ℚ) (transactionId : Nat) :
    (job.sent now transactionId).responseDeadlineS = now + defaultP2TimeoutS := rfl

theorem PollerJob.sent_waiting (job : PollerJob) (now : ℚ) (transactionId : Nat) :
    (job.sent now transactionId).waiting := .inl rfl

@[simp] theorem Poller.sent_lastTx (poller : Poller) (job : PollerJob) (now : ℚ) :
    (poller.sent job now).lastTxTimeS = now := rfl

@[simp] theorem Poller.sent_gap (poller : Poller) (job : PollerJob) (now : ℚ) :
    (poller.sent job now).minTxIntervalS = poller.minTxIntervalS := rfl

@[simp] theorem Poller.sent_slot (poller : Poller) (job : PollerJob) (now : ℚ) :
    (poller.sent job now).activeJob = some job.key := rfl

theorem Poller.mem_sent {changed : PollerJob} :
    changed ∈ (poller.sent job now).jobs ↔
      (∃ origin ∈ poller.jobs, origin.key = job.key ∧
        changed = origin.sent now (poller.transactionCounter + 1)) ∨
      changed ∈ poller.jobs ∧ changed.key ≠ job.key := by
  have twice : (poller.sent job now).jobs =
      ((poller.modify job.key
        (fun job => job.dispatched now (poller.transactionCounter + 1))).modify job.key
          (fun job => { job with state := .waitingForResponse })).jobs := rfl
  rw [twice, mem_modify]
  constructor
  · rintro (⟨middle, listed, here, rfl⟩ | ⟨listed, elsewhere⟩)
    · rcases mem_modify.mp listed with ⟨origin, found, same, rfl⟩ | ⟨_, apart⟩
      · exact .inl ⟨origin, found, same, rfl⟩
      · exact absurd here apart
    · rcases mem_modify.mp listed with ⟨origin, _, same, rfl⟩ | found
      · exact absurd same elsewhere
      · exact .inr found
  · rintro (⟨origin, found, same, rfl⟩ | ⟨found, elsewhere⟩)
    · exact .inl ⟨origin.dispatched now (poller.transactionCounter + 1),
        mem_modify.mpr (.inl ⟨origin, found, same, rfl⟩), same, rfl⟩
    · exact .inr ⟨mem_modify.mpr (.inr ⟨found, elsewhere⟩), elsewhere⟩

theorem Poller.sent_keys (poller : Poller) (job : PollerJob) (now : ℚ) :
    (poller.sent job now).jobs.map PollerJob.key = poller.jobs.map PollerJob.key := by
  have last := keys_modify (poller.dispatch job now) job.key
    (fun job : PollerJob => (rfl : ({ job with state := .waitingForResponse } : PollerJob).key = job.key))
  exact last.trans (keys_modify poller job.key (fun origin => dispatched_key origin now _))

theorem Poller.step_sends (now : ℚ) (fit : poller.RequestsFit)
    (early : ∀ job, poller.active = some job → now < job.responseDeadlineS)
    (free : poller.minTxIntervalS ≤ now - poller.lastTxTimeS)
    (due : job ∈ poller.dueJobs now) :
    ∃ chosen ∈ poller.dueJobs now,
      poller.step now true = (poller.sent chosen now, .ok (some chosen.key)) := by
  have kept : poller.expire now = poller := by
    rcases poller.expire_cases now with ⟨same, _⟩ | ⟨active, found, past, _⟩
    · exact same
    · exact absurd (early active found) (not_lt.mpr past)
  unfold Poller.step
  dsimp only
  rw [kept, if_neg (not_lt.mpr free)]
  cases first : firstDue (poller.dueJobs now) with
  | none =>
      rw [firstDue_eq_none first] at due
      cases due
  | some chosen =>
      have listed := firstDue_mem first
      obtain ⟨frame, built⟩ := fit chosen (Poller.mem_dueJobs.mp listed).1
      refine ⟨chosen, listed, ?_⟩
      dsimp only
      rw [built]
      rfl

theorem Poller.step_overlooks (now : ℚ) (fit : poller.RequestsFit)
    (early : ∀ job, poller.active = some job → now < job.responseDeadlineS)
    (member : job ∈ poller.jobs) (waits : job.waiting) :
    ∃ later ∈ (poller.step now true).1.jobs, later.key = job.key ∧ later.waiting := by
  have kept : poller.expire now = poller := by
    rcases poller.expire_cases now with ⟨same, _⟩ | ⟨active, found, past, _⟩
    · exact same
    · exact absurd (early active found) (not_lt.mpr past)
  have cases := poller.step_cases now true
  rw [kept] at cases
  rcases cases with same | ⟨due, listed, ⟨error, failed, _⟩ | ⟨_, _, sent⟩⟩
  · rw [same]
    exact ⟨job, member, rfl, waits⟩
  · obtain ⟨frame, built⟩ := fit due (Poller.mem_dueJobs.mp listed).1
    rw [built] at failed
    cases failed
  · rw [sent]
    by_cases here : job.key = due.key
    · exact ⟨job.sent now (poller.transactionCounter + 1),
        Poller.mem_sent.mpr (.inl ⟨job, member, here, rfl⟩), rfl, .inl rfl⟩
    · exact ⟨job, Poller.mem_sent.mpr (.inr ⟨member, here⟩), rfl, waits⟩

theorem exists_after_all (jobs : List PollerJob) (least : ℚ) :
    ∃ time, least ≤ time ∧ ∀ job ∈ jobs, job.nextRunS ≤ time := by
  induction jobs with
  | nil => exact ⟨least, le_refl least, fun job member => nomatch member⟩
  | cons head rest ih =>
      obtain ⟨time, above, each⟩ := ih
      refine ⟨max head.nextRunS time, le_trans above (le_max_right ..), ?_⟩
      intro job member
      rcases List.mem_cons.mp member with rfl | later
      · exact le_max_left ..
      · exact le_trans (each job later) (le_max_right ..)

theorem Poller.sent_active (distinct : poller.Distinct) (member : job ∈ poller.jobs) :
    (poller.sent job now).active = some (job.sent now (poller.transactionCounter + 1)) := by
  have kept : (poller.sent job now).Distinct := by
    unfold Poller.Distinct
    rw [Poller.sent_keys]
    exact distinct
  exact kept.active_eq (Poller.mem_sent.mpr (.inl ⟨job, member, rfl, rfl⟩)) rfl

theorem Poller.RequestsFit.sent (fit : poller.RequestsFit) (job : PollerJob) (now : ℚ) :
    (poller.sent job now).RequestsFit :=
  @Poller.RequestsFit.of_keys poller (poller.sent job now) fit rfl (poller.sent_keys job now)

theorem Poller.Distinct.sent (distinct : poller.Distinct) (job : PollerJob) (now : ℚ) :
    (poller.sent job now).Distinct := by
  unfold Poller.Distinct
  rw [Poller.sent_keys]
  exact distinct

theorem Poller.sent_early (distinct : poller.Distinct) (member : job ∈ poller.jobs)
    {start now : ℚ} (before : now < start + defaultP2TimeoutS) :
    ∀ found, (poller.sent job start).active = some found → now < found.responseDeadlineS := by
  intro found same
  rw [Poller.sent_active distinct member] at same
  rw [← Option.some.inj same, PollerJob.sent_deadline]
  exact before

theorem Poller.second_request (distinct : poller.Distinct) (fit : poller.RequestsFit)
    (gap : 0 < poller.minTxIntervalS ∧ poller.minTxIntervalS ≤ 1) {start : ℚ}
    (member : job ∈ poller.jobs) (others : other ∈ poller.jobs) (ready : other.nextRunS ≤ start)
    (apart : other.conversation ≠ job.conversation) :
    ∃ next, next.conversation ≠ job.conversation ∧ next ∈ (poller.sent job start).jobs ∧
      (poller.sent job start).step (start + poller.minTxIntervalS) true =
        ((poller.sent job start).sent next (start + poller.minTxIntervalS), .ok (some next.key)) := by
  have busy : (poller.sent job start).busyEndpoint = some job.conversation := by
    rw [Poller.busyEndpoint_of_active (Poller.sent_active distinct member)
      (job.sent_waiting start (poller.transactionCounter + 1))]
    exact congrArg some (conversation_of_key (job.sent_key start _))
  have early := @Poller.sent_early poller job distinct member start (start + poller.minTxIntervalS)
    (by
      have wide : (1 : ℚ) < defaultP2TimeoutS := by norm_num [defaultP2TimeoutS]
      linarith [gap.2])
  have free : (poller.sent job start).minTxIntervalS ≤
      start + poller.minTxIntervalS - (poller.sent job start).lastTxTimeS := by
    rw [Poller.sent_gap, Poller.sent_lastTx]
    linarith
  have due : other ∈ (poller.sent job start).dueJobs (start + poller.minTxIntervalS) := by
    refine Poller.mem_dueJobs.mpr ⟨?_, by linarith [gap.1], ?_, ?_⟩
    · exact Poller.mem_sent.mpr (.inr ⟨others, fun same => apart (conversation_of_key same)⟩)
    · rw [Poller.sent_slot]
      exact fun same => apart (conversation_of_key (Option.some.inj same).symm)
    · rw [busy]
      exact fun same => apart (Option.some.inj same).symm
  obtain ⟨next, listed, stepped⟩ := Poller.step_sends _ (fit.sent job start) early free due
  obtain ⟨nextListed, _, _, nextFree⟩ := Poller.mem_dueJobs.mp listed
  refine ⟨next, fun same => nextFree ?_, nextListed, stepped⟩
  rw [busy, same]

theorem Poller.first_forgotten (distinct : poller.Distinct) (fit : poller.RequestsFit)
    {start later : ℚ} {next : PollerJob} (order : start < later) (member : job ∈ poller.jobs)
    (listed : next ∈ (poller.sent job start).jobs)
    (apart : next.conversation ≠ job.conversation) :
    ¬ ((poller.sent job start).sent next later).TimesOut (start + defaultP2TimeoutS) true := by
  have early := @Poller.sent_early _ next (distinct.sent job start) listed later
    (start + defaultP2TimeoutS) (by linarith)
  have waiting : job.sent start (poller.transactionCounter + 1) ∈
      ((poller.sent job start).sent next later).jobs :=
    Poller.mem_sent.mpr (.inr ⟨Poller.mem_sent.mpr (.inl ⟨job, member, rfl, rfl⟩),
      fun same => apart (conversation_of_key same).symm⟩)
  have waits := job.sent_waiting start (poller.transactionCounter + 1)
  obtain ⟨found, foundListed, foundKey, foundWaits⟩ :=
    Poller.step_overlooks _ ((fit.sent job start).sent next later) early waiting waits
  intro timesOut
  have past : (job.sent start (poller.transactionCounter + 1)).responseDeadlineS ≤
      start + defaultP2TimeoutS := le_of_eq (job.sent_deadline start _)
  exact PollerJob.not_waiting_of_state (timesOut _ waiting waits past found foundListed foundKey)
    foundWaits

theorem Poller.Fresh.exists_disorder (fresh : poller.Fresh) (fit : poller.RequestsFit)
    (member : job ∈ poller.jobs) (others : other ∈ poller.jobs)
    (apart : job.conversation ≠ other.conversation) :
    ∃ events, Nondecreasing events ∧
      ¬ EventRun.Meets Poller.react Poller.Orderly poller events := by
  obtain ⟨start, above, ready⟩ := exists_after_all poller.jobs poller.minTxIntervalS
  obtain ⟨positive, small⟩ := fresh.gap
  have inactive : poller.active = none := by rw [Poller.active, fresh.unsent.1]; rfl
  have idle : poller.busyEndpoint = none := by rw [Poller.busyEndpoint, inactive]
  have due : job ∈ poller.dueJobs start := by
    refine Poller.mem_dueJobs.mpr ⟨member, ready job member, ?_, ?_⟩
    · rw [fresh.unsent.1]
      intro found
      cases found
    · rw [idle]
      intro found
      cases found
  obtain ⟨first, firstDue, firstStep⟩ := Poller.step_sends start fit
    (fun active found => by rw [inactive] at found; cases found)
    (by rw [fresh.unsent.2.1, sub_zero]; exact above) due
  have firstListed := (Poller.mem_dueJobs.mp firstDue).1
  obtain ⟨second, secondListed, secondApart⟩ :
      ∃ second ∈ poller.jobs, second.conversation ≠ first.conversation := by
    by_cases same : job.conversation = first.conversation
    · exact ⟨other, others, fun again => apart (same.trans again.symm)⟩
    · exact ⟨job, member, same⟩
  obtain ⟨next, nextApart, nextListed, nextStep⟩ := Poller.second_request fresh.distinct fit
    fresh.gap firstListed secondListed (ready second secondListed) secondApart
  have wide : (1 : ℚ) < defaultP2TimeoutS := by norm_num [defaultP2TimeoutS]
  refine ⟨[.step start true, .step (start + poller.minTxIntervalS) true,
    .step (start + defaultP2TimeoutS) true], ?_, ?_⟩
  · simp only [Nondecreasing, PollerEvent.time, List.map_cons, List.map_nil, List.pairwise_cons,
      List.mem_cons, List.not_mem_nil, or_false, forall_eq_or_imp, forall_eq]
    refine ⟨⟨by linarith, by linarith⟩, by linarith, ?_, List.Pairwise.nil⟩
    exact fun _ absent => absurd absent id
  · intro meets
    have reached : poller.react (.step start true) = some (poller.sent first start) := by
      rw [Poller.react, Poller.handle, firstStep]
    have again : (poller.sent first start).react (.step (start + poller.minTxIntervalS) true) =
        some ((poller.sent first start).sent next (start + poller.minTxIntervalS)) := by
      rw [Poller.react, Poller.handle, nextStep]
    have third := ((meets.2 _ reached).2 _ again).1
    exact Poller.first_forgotten fresh.distinct fit (by linarith) firstListed nextListed nextApart
      third.2.2

/-! ## Engine speed from the functional address, a data identifier from the engine ECU -/

def pidAlone : Poller where
  channelId := "can0"
  defaultTxId := 0x7DF
  defaultRxId := 0x7E8
  minTxIntervalS := 1 / max 1 10
  transports := [((0x7DF, 0x7E8), newTransport "can0" (0x7DF, 0x7E8))]
  jobs := [{ kind := .obdPid, identifier := 0x0C, rateHz := 1, txId := 0x7DF, rxId := 0x7E8 }]

def pidAndDid : Poller :=
  { pidAlone with
    transports := [((0x7DF, 0x7E8), newTransport "can0" (0x7DF, 0x7E8)),
      ((0x7E0, 0x7E8), newTransport "can0" (0x7E0, 0x7E8))]
    jobs := [{ kind := .obdPid, identifier := 0x0C, rateHz := 1, txId := 0x7DF, rxId := 0x7E8 },
      { kind := .udsDid, identifier := 0xF190, rateHz := 1, txId := 0x7E0, rxId := 0x7E8 }] }

theorem pidAlone_registered : Registered pidAlone := by
  have made : Registered { pidAlone with jobs := [] } := by
    refine .created "can0" 0x7DF 0x7E8 10 none ?_
    unfold Poller.create
    rw [if_neg (by decide +kernel)]
    rfl
  refine .pid { identifier := 0x0C, rateHz := 1, now := 0 } made ?_
  unfold Poller.registerPid Poller.registerJob
  rw [if_neg (by decide), if_neg (by decide +kernel)]
  rfl

theorem pidAndDid_registered : Registered pidAndDid := by
  refine .did { identifier := 0xF190, rateHz := 1, now := 0 } pidAlone_registered ?_
  unfold Poller.registerDid Poller.registerJob
  rw [if_neg (by decide), if_neg (by decide +kernel)]
  rfl

theorem pidAndDid_fit : pidAndDid.RequestsFit := by
  intro job member
  rcases List.mem_cons.mp member with rfl | later
  · exact ⟨_, rfl⟩
  · rcases List.mem_singleton.mp later with rfl
    exact ⟨_, rfl⟩

/-- Every run of a poller keeps one request in flight for each conversation and times the
others out, if all its jobs are on one conversation, and only then. -/
theorem single_flight_iff_one_conversation (poller : Poller) (registered : Registered poller) :
    (poller.OneConversation → ∀ events, Nondecreasing events →
      EventRun.Meets Poller.react Poller.Orderly poller events) ∧
    (poller.RequestsFit → (∀ events, Nondecreasing events →
      EventRun.Meets Poller.react Poller.Orderly poller events) → poller.OneConversation) := by
  constructor
  · intro together events _
    exact (registered.fresh.soleWaiter together).meets events
  · intro fit every job member other others
    by_contra apart
    obtain ⟨events, ordered, disorder⟩ := registered.fresh.exists_disorder fit member others apart
    exact disorder (every events ordered)

/-- One job alone, and two jobs that reach the engine ECU under two request identifiers. -/
theorem single_flight_iff_one_conversation_samples :
    (∀ events, Nondecreasing events →
      EventRun.Meets Poller.react Poller.Orderly pidAlone events) ∧
    ¬ ∀ events, Nondecreasing events →
      EventRun.Meets Poller.react Poller.Orderly pidAndDid events := by
  constructor
  · exact (single_flight_iff_one_conversation pidAlone pidAlone_registered).1
      (by unfold Poller.OneConversation; decide)
  · intro every
    have together := (single_flight_iff_one_conversation pidAndDid pidAndDid_registered).2
      pidAndDid_fit every
    exact absurd together (by unfold Poller.OneConversation; decide)

/-- The identifier is asked for while the engine speed is awaited, on the same ECU; the first
wait is then over only by its answer. -/
def twoEndpointRun : List PollerEvent := [.step 1 true, .step (11 / 10) true, .step 3 true]

theorem pidAndDid_disorder : Registered pidAndDid ∧ Nondecreasing twoEndpointRun ∧
    ¬ EventRun.Meets Poller.react Poller.Orderly pidAndDid twoEndpointRun := by
  refine ⟨pidAndDid_registered, by unfold Nondecreasing; decide +kernel, ?_⟩
  intro meets
  have third := ((meets.2 _ rfl).2 _ rfl).1
  have left : ∃ job ∈ ((pidAndDid.step 1 true).1.step (11 / 10) true).1.jobs, job.waiting ∧
      job.responseDeadlineS ≤ 3 ∧
      ∃ later ∈ (((pidAndDid.step 1 true).1.step (11 / 10) true).1.step 3 true).1.jobs,
        later.key = job.key ∧ later.waiting := by decide +kernel
  obtain ⟨job, member, waits, past, later, listed, same, still⟩ := left
  exact PollerJob.not_waiting_of_state (third.2.2 job member waits past later listed same) still

end Ucanlab.Obd
