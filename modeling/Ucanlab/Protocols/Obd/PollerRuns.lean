import Mathlib.Tactic.Linarith
import Ucanlab.Lib.EventRun
import Ucanlab.Protocols.Obd.Poller

/-!
Runs of the poller: one request for each conversation at a time, and the
timeouts of the requests. The scheduler keeps both for the active job; another
job that waits is not looked at.
-/

namespace Ucanlab.Obd

open IsoTp

/-! ## Jobs under their keys -/

variable {poller after : Poller} {job other : PollerJob} {key : JobKey}
  {change : PollerJob → PollerJob} {now : ℚ}

def Poller.Distinct (poller : Poller) : Prop := (poller.jobs.map PollerJob.key).Nodup

theorem conversation_of_key (same : job.key = other.key) :
    job.conversation = other.conversation := by
  have parts := congrArg (fun key : JobKey => key.2.2) same
  exact parts

theorem keys_modify (poller : Poller) (key : JobKey) (keeps : ∀ job, (change job).key = job.key) :
    (poller.modify key change).jobs.map PollerJob.key = poller.jobs.map PollerJob.key := by
  simp only [Poller.modify, List.map_map]
  apply List.map_congr_left
  intro job _
  by_cases here : job.key = key
  · simp only [Function.comp, if_pos here, keeps]
  · simp only [Function.comp, if_neg here]

theorem mem_modify {changed : PollerJob} :
    changed ∈ (poller.modify key change).jobs ↔
      (∃ job ∈ poller.jobs, job.key = key ∧ changed = change job) ∨
        changed ∈ poller.jobs ∧ changed.key ≠ key := by
  simp only [Poller.modify, List.mem_map]
  constructor
  · rintro ⟨job, member, rfl⟩
    by_cases here : job.key = key
    · rw [if_pos here]
      exact .inl ⟨job, member, here, rfl⟩
    · rw [if_neg here]
      exact .inr ⟨member, here⟩
  · rintro (⟨job, member, here, rfl⟩ | ⟨member, elsewhere⟩)
    · exact ⟨job, member, if_pos here⟩
    · exact ⟨changed, member, if_neg elsewhere⟩

theorem Poller.mem_of_job? (found : poller.job? key = some job) :
    job ∈ poller.jobs ∧ job.key = key := by
  have named : decide (job.key = key) = true :=
    @List.find?_some _ (fun job : PollerJob => decide (job.key = key)) job poller.jobs found
  exact ⟨List.mem_of_find?_eq_some found, of_decide_eq_true named⟩

theorem Poller.Distinct.eq_of_key (distinct : poller.Distinct) (member : job ∈ poller.jobs)
    (others : other ∈ poller.jobs) (same : job.key = other.key) : job = other :=
  List.inj_on_of_nodup_map distinct member others same

theorem Poller.Distinct.job?_eq (distinct : poller.Distinct) (member : job ∈ poller.jobs) :
    poller.job? job.key = some job := by
  cases found : poller.job? job.key with
  | none =>
      have absent := List.find?_eq_none.mp found job member
      exact absurd (decide_eq_true rfl) absent
  | some other =>
      obtain ⟨listed, named⟩ := Poller.mem_of_job? found
      rw [distinct.eq_of_key listed member named]

theorem Poller.active_eq_some (found : poller.active = some job) :
    poller.activeJob = some job.key ∧ job ∈ poller.jobs := by
  obtain ⟨key, named, listed⟩ := Option.bind_eq_some_iff.mp found
  obtain ⟨member, same⟩ := Poller.mem_of_job? listed
  exact ⟨by rw [named, same], member⟩

theorem Poller.Distinct.active_eq (distinct : poller.Distinct) (member : job ∈ poller.jobs)
    (active : poller.activeJob = some job.key) : poller.active = some job := by
  rw [Poller.active, active]
  exact distinct.job?_eq member

/-! ## What one call does -/

theorem PollerJob.intervalS_pos (job : PollerJob) : 0 < job.intervalS := by
  unfold PollerJob.intervalS
  split
  · rename_i positive
    exact one_div_pos.mpr positive
  · exact zero_lt_one

theorem PollerJob.retried_later (job : PollerJob) (now : ℚ) : now < (job.retried now).nextRunS := by
  unfold PollerJob.retried
  split
  · exact lt_add_of_pos_right now job.intervalS_pos
  · have backoff : 0 < baseBackoffS * 2 ^ job.retryCount :=
      mul_pos (by norm_num [baseBackoffS]) (pow_pos two_pos job.retryCount)
    exact lt_add_of_pos_right now backoff

theorem PollerJob.retried_state (job : PollerJob) (now : ℚ) :
    (job.retried now).state = .retryBackoff ∨ (job.retried now).state = .failed := by
  unfold PollerJob.retried
  split
  · exact .inr rfl
  · exact .inl rfl

theorem PollerJob.retried_key (job : PollerJob) (now : ℚ) : (job.retried now).key = job.key := by
  unfold PollerJob.retried
  split <;> rfl

theorem PollerJob.not_waiting_of_state
    (state : job.state = .retryBackoff ∨ job.state = .failed) : ¬ job.waiting := by
  unfold PollerJob.waiting
  rcases state with same | same <;> rw [same] <;> decide

theorem Poller.expire_cases (poller : Poller) (now : ℚ) :
    (poller.expire now = poller ∧
      ∀ job, poller.active = some job → now < job.responseDeadlineS) ∨
    ∃ job, poller.active = some job ∧ job.responseDeadlineS ≤ now ∧
      poller.expire now = poller.scheduleRetry job now := by
  unfold Poller.expire
  cases found : poller.active with
  | none => exact .inl ⟨rfl, fun job active => nomatch active⟩
  | some job =>
      by_cases past : job.responseDeadlineS ≤ now
      · exact .inr ⟨job, rfl, past, if_pos past⟩
      · refine .inl ⟨if_neg past, ?_⟩
        rintro other ⟨⟩
        exact not_le.mp past

theorem firstDue_mem {jobs : List PollerJob} (first : firstDue jobs = some job) : job ∈ jobs := by
  induction jobs generalizing job with
  | nil => cases first
  | cons head rest ih =>
      simp only [firstDue] at first
      cases later : firstDue rest with
      | none =>
          rw [later] at first
          cases first
          exact List.mem_cons_self ..
      | some other =>
          rw [later] at first
          dsimp only at first
          split at first
          · cases first
            exact List.mem_cons_self ..
          · cases first
            exact List.mem_cons_of_mem _ (ih later)

theorem firstDue_eq_none {jobs : List PollerJob} (first : firstDue jobs = none) : jobs = [] := by
  cases jobs with
  | nil => rfl
  | cons head rest =>
      simp only [firstDue] at first
      split at first
      · cases first
      · split at first <;> cases first

theorem Poller.step_cases (poller : Poller) (now : ℚ) (sends : Bool) :
    poller.step now sends = (poller.expire now, .ok none) ∨
    ∃ job ∈ (poller.expire now).dueJobs now,
      (∃ error, (poller.expire now).buildRequestFrame job = .error error ∧
        poller.step now sends = ((poller.expire now).dispatch job now, .error error)) ∨
      ∃ frame, (poller.expire now).buildRequestFrame job = .ok frame ∧
        poller.step now sends =
          (((poller.expire now).dispatch job now).transmit job.key sends, .ok (some job.key)) := by
  unfold Poller.step
  dsimp only
  split
  · exact .inl rfl
  · cases first : firstDue ((poller.expire now).dueJobs now) with
    | none => exact .inl rfl
    | some job =>
        refine .inr ⟨job, firstDue_mem first, ?_⟩
        dsimp only
        cases built : (poller.expire now).buildRequestFrame job with
        | error error => exact .inl ⟨error, rfl, rfl⟩
        | ok frame => exact .inr ⟨frame, rfl, rfl⟩

theorem Poller.mem_dueJobs :
    job ∈ poller.dueJobs now ↔ job ∈ poller.jobs ∧ job.nextRunS ≤ now ∧
      poller.activeJob ≠ some job.key ∧ poller.busyEndpoint ≠ some job.conversation := by
  simp only [Poller.dueJobs, List.mem_filter, decide_eq_true_eq]

theorem Poller.busyEndpoint_of_active (active : poller.active = some job) (waits : job.waiting) :
    poller.busyEndpoint = some job.conversation := by
  simp only [Poller.busyEndpoint, active, if_pos waits]

theorem dispatched_key (job : PollerJob) (now : ℚ) (transactionId : Nat) :
    (job.dispatched now transactionId).key = job.key := rfl

theorem dispatched_not_waiting (job : PollerJob) (now : ℚ) (transactionId : Nat) :
    ¬ (job.dispatched now transactionId).waiting := by
  rintro (waits | waits) <;> cases waits

structure Answered (change : PollerJob → PollerJob) (key : JobKey) (active : Option JobKey) :
    Prop where
  named : ∀ job, (change job).key = job.key
  transaction : ∀ job, (change job).transactionId = job.transactionId
  slot : active = none ∨ active = some key
  waits : ∀ job, (change job).waiting → active = some key
  retried : ∀ job, job.retryCount < (change job).retryCount → active = none

def Poller.AnsweredBy (poller after : Poller) (key : JobKey) : Prop :=
  ∃ change, after.jobs = (poller.modify key change).jobs ∧ Answered change key after.activeJob

theorem Poller.scheduleRetry_answered (poller : Poller) (job : PollerJob) (now : ℚ) :
    poller.AnsweredBy (poller.scheduleRetry job now) job.key := by
  refine ⟨fun job => job.retried now, rfl, ⟨fun job => job.retried_key now, ?_, .inl rfl, ?_, ?_⟩⟩
  · intro job
    unfold PollerJob.retried
    split <;> rfl
  · exact fun job waits => absurd waits (PollerJob.not_waiting_of_state (job.retried_state now))
  · exact fun _ _ => rfl

theorem answered_of_settled (settled : ∀ job, (change job).state = .failed ∨
      (change job).state = .completed) (named : ∀ job, (change job).key = job.key)
    (transaction : ∀ job, (change job).transactionId = job.transactionId)
    (attempts : ∀ job, (change job).retryCount ≤ job.retryCount) {active : Option JobKey}
    (reset : active = none ∨ active = some key) : Answered change key active := by
  refine ⟨named, transaction, reset, ?_, fun job more => absurd (attempts job) (not_le.mpr more)⟩
  intro job waits
  unfold PollerJob.waiting at waits
  rcases settled job with state | state <;> rw [state] at waits <;> rcases waits with same | same <;>
    cases same

theorem Poller.pending_answered (poller : Poller) (job : PollerJob) (now : ℚ)
    (active : poller.activeJob = some job.key) :
    poller.AnsweredBy (poller.pending job now) job.key := by
  unfold Poller.pending
  split
  · refine ⟨_, rfl, answered_of_settled ?_ ?_ ?_ ?_ (.inl rfl)⟩
    · exact fun _ => .inl rfl
    · exact fun _ => rfl
    · exact fun _ => rfl
    · exact fun _ => le_refl _
  · exact ⟨_, rfl, ⟨fun _ => rfl, fun _ => rfl, .inr active, fun _ _ => active,
      fun job more => absurd more (lt_irrefl job.retryCount)⟩⟩

theorem Poller.negative_cases (poller : Poller) (job : PollerJob) (now : ℚ) (rejectedSid nrc : Nat)
    (active : poller.activeJob = some job.key) :
    poller.negative (some job) now rejectedSid nrc = poller ∨
      poller.AnsweredBy (poller.negative (some job) now rejectedSid nrc) job.key := by
  unfold Poller.negative
  dsimp only
  split
  · exact .inl rfl
  · split
    · exact .inr (poller.pending_answered job now active)
    · split
      · exact .inr (poller.scheduleRetry_answered job now)
      · refine .inr ⟨_, rfl, answered_of_settled ?_ ?_ ?_ ?_ (.inr active)⟩
        · exact fun _ => .inl rfl
        · exact fun _ => rfl
        · exact fun _ => rfl
        · exact fun _ => le_refl _

theorem Poller.positive_cases (poller : Poller) (job : PollerJob) (kind : JobKind)
    (identifier : Nat) (frame : CanFrame) (outcome : RxOutcome) :
    poller.positive (some job) kind identifier frame outcome = (poller, outcome) ∨
      job.Echoed kind identifier frame ∧ poller.Current job ∧
        poller.positive (some job) kind identifier frame outcome =
          (poller.complete job.key, { outcome with callback := some job.key }) := by
  unfold Poller.positive
  dsimp only
  split
  · rename_i both
    exact .inr ⟨both.1, both.2, rfl⟩
  · exact .inl rfl

theorem Poller.complete_answered (poller : Poller) (key : JobKey) :
    poller.AnsweredBy (poller.complete key) key := by
  refine ⟨_, rfl, answered_of_settled ?_ ?_ ?_ ?_ (.inl rfl)⟩
  · exact fun _ => .inr rfl
  · exact fun _ => rfl
  · exact fun _ => rfl
  · exact fun _ => Nat.zero_le _

theorem Poller.takePayload_cases (poller : Poller) (job : PollerJob) (now : ℚ) (frame : CanFrame)
    (payload : Bytes) (outcome : RxOutcome) (active : poller.activeJob = some job.key) :
    (poller.takePayload (some job) now frame payload outcome).1 = poller ∨
      poller.AnsweredBy (poller.takePayload (some job) now frame payload outcome).1 job.key := by
  unfold Poller.takePayload
  split
  · exact .inl rfl
  · split
    · exact poller.negative_cases job now _ _ active
    · split
      · exact .inl rfl
      · rename_i kind identifier result _
        rcases poller.positive_cases job kind identifier frame { outcome with result := some result }
          with same | ⟨_, _, done⟩
        · exact .inl (by rw [same])
        · refine .inr ?_
          rw [done]
          exact poller.complete_answered job.key

theorem Poller.takePayload_none (poller : Poller) (now : ℚ) (frame : CanFrame) (payload : Bytes)
    (outcome : RxOutcome) : (poller.takePayload none now frame payload outcome).1 = poller := by
  unfold Poller.takePayload
  split
  · rfl
  · split
    · rfl
    · split
      · rfl
      · rfl

theorem Poller.processRxFrame_cases (poller : Poller) (monotonicNs : Nat) (now : ℚ)
    (frame : CanFrame) :
    ((poller.processRxFrame monotonicNs now frame).1.jobs = poller.jobs ∧
      (poller.processRxFrame monotonicNs now frame).1.activeJob =
        (poller.owner frame).map PollerJob.key) ∨
    ∃ job, poller.owner frame = some job ∧
      poller.AnsweredBy (poller.processRxFrame monotonicNs now frame).1 job.key := by
  unfold Poller.processRxFrame
  dsimp only
  split
  · exact .inl ⟨rfl, rfl⟩
  · split
    · exact .inl ⟨rfl, rfl⟩
    · exact .inl ⟨rfl, rfl⟩
    · rename_i transport payload flowControl _
      dsimp only
      cases owned : poller.owner frame with
      | none =>
          rw [Poller.takePayload_none]
          exact .inl ⟨rfl, rfl⟩
      | some job =>
          generalize reached : (({ poller with activeJob := (some job).map PollerJob.key } :
            Poller).withTransport (poller.conversationOf frame) transport) = routed
          have listed : routed.jobs = poller.jobs := by rw [← reached]; rfl
          have active : routed.activeJob = some job.key := by rw [← reached]; rfl
          rcases routed.takePayload_cases job now frame payload { flowControl := flowControl } active
            with same | answered
          · rw [same]
            exact .inl ⟨listed, active⟩
          · refine .inr ⟨job, rfl, ?_⟩
            obtain ⟨change, jobs, result⟩ := answered
            refine ⟨change, ?_, result⟩
            rw [jobs]
            simp only [Poller.modify, listed]

end Ucanlab.Obd
