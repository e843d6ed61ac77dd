import Ucanlab.Protocols.Obd.SingleFlight

/-!
Answers that come late. A dispatch that timed out or was retried goes into a
ledger; an answer to it may complete nothing that was dispatched later.
-/

namespace Ucanlab.Obd

open IsoTp

/-- A request that went out, under the transaction it was given. -/
structure Dispatch where
  transactionId : Nat
  key : JobKey
  deriving DecidableEq

/-- The dispatches that a call timed out or retried, and those still waiting whose job was
dispatched anew. -/
def Poller.endedBy (poller : Poller) (event : PollerEvent) : List Dispatch :=
  (poller.jobs.filter (fun job => decide (∃ later ∈ (poller.handle event).jobs,
    later.key = job.key ∧ (job.retryCount < later.retryCount ∨
      job.waiting ∧ later.transactionId ≠ job.transactionId)))).map
    (fun job => ⟨job.transactionId, job.key⟩)

structure Watched where
  poller : Poller
  ended : List Dispatch := []

structure Call where
  event : PollerEvent
  answers : Dispatch

def Watched.next (watched : Watched) (call : Call) : Option Watched :=
  some {
    poller := watched.poller.handle call.event
    ended := watched.ended ++ watched.poller.endedBy call.event }

def Poller.payload (poller : Poller) (monotonicNs : Nat) (frame : CanFrame) : Option Bytes :=
  if frame.channelId ≠ poller.channelId ∧ poller.channelId ≠ "" then none
  else
    match ((poller.transportFor (poller.conversationOf frame)).handleRxFrame monotonicNs frame).2 with
    | .error _ => none
    | .ok (payload, _) => payload

def Dispatch.AnsweredBy (dispatch : Dispatch) (payload : Bytes) (frame : CanFrame) : Prop :=
  2 ≤ payload.length ∧
    (positiveResponse payload).map (fun response => (response.1, response.2.1)) =
      some (dispatch.key.1, dispatch.key.2.1) ∧
    dispatch.key.2.2.2 = frame.arbitrationId

def Watched.Late (watched : Watched) (monotonicNs : Nat) (frame : CanFrame) (answers : Dispatch) :
    Prop :=
  answers ∈ watched.ended ∧
    ∃ payload, watched.poller.payload monotonicNs frame = some payload ∧
      answers.AnsweredBy payload frame

def Poller.CompletesAfter (poller : Poller) (monotonicNs : Nat) (now : ℚ) (frame : CanFrame)
    (answers : Dispatch) : Prop :=
  ∃ job ∈ poller.jobs, job.conversation = answers.key.2.2 ∧
    answers.transactionId < job.transactionId ∧
    ∃ outcome, (poller.processRxFrame monotonicNs now frame).2 = .ok outcome ∧
      outcome.callback = some job.key

def Watched.KeepsApart (watched : Watched) (call : Call) : Prop :=
  match call.event with
  | .step _ _ => True
  | .rx monotonicNs now frame =>
      watched.Late monotonicNs frame call.answers →
        ¬ watched.poller.CompletesAfter monotonicNs now frame call.answers

/-- No late answer finds its own job as the owner of the frame, with no other job dispatched
on the conversation since. -/
def Watched.NotAskedAgain (watched : Watched) (call : Call) : Prop :=
  match call.event with
  | .step _ _ => True
  | .rx monotonicNs _ frame =>
      watched.Late monotonicNs frame call.answers →
        ∀ job, watched.poller.owner frame = some job → job.key = call.answers.key →
          ¬ watched.poller.Current job

/-! ## Which job a call can wake up -/

variable {poller after : Poller} {job other : PollerJob} {key : JobKey}
  {change : PollerJob → PollerJob} {now : ℚ}

def Poller.Minted (poller : Poller) : Prop :=
  ∀ job ∈ poller.jobs, job.transactionId ≤ poller.transactionCounter

def Poller.Deaf (poller : Poller) (job : PollerJob) : Prop :=
  ¬ job.waiting ∧ poller.activeJob ≠ some job.key

def Poller.Moved (before after : Poller) (job later : PollerJob) : Prop :=
  job.transactionId < later.transactionId ∨
    later.transactionId = job.transactionId ∧
      (job.retryCount < later.retryCount → after.Deaf later) ∧
      (before.Deaf job → after.Deaf later)

structure Poller.Advances (before after : Poller) : Prop where
  keys : after.jobs.map PollerJob.key = before.jobs.map PollerJob.key
  minted : after.Minted
  moved : ∀ job ∈ before.jobs, ∀ later ∈ after.jobs, later.key = job.key →
    before.Moved after job later

theorem Poller.Advances.origin (advances : poller.Advances after) {later : PollerJob}
    (member : later ∈ after.jobs) : ∃ job ∈ poller.jobs, later.key = job.key := by
  have listed : later.key ∈ poller.jobs.map PollerJob.key :=
    advances.keys ▸ List.mem_map.mpr ⟨later, member, rfl⟩
  obtain ⟨job, found, same⟩ := List.mem_map.mp listed
  exact ⟨job, found, same.symm⟩

theorem Poller.Advances.distinct (advances : poller.Advances after) (distinct : poller.Distinct) :
    after.Distinct := by
  unfold Poller.Distinct
  rw [advances.keys]
  exact distinct

theorem Poller.Advances.trans {last : Poller} (first : poller.Advances after)
    (second : after.Advances last) : poller.Advances last := by
  refine ⟨second.keys.trans first.keys, second.minted, ?_⟩
  intro job member later listed same
  obtain ⟨middle, found, named⟩ := second.origin listed
  have front := first.moved job member middle found (named.symm.trans same)
  have back := second.moved middle found later listed named
  rcases front with newer | ⟨kept, retried, still⟩
  · rcases back with more | ⟨same, _⟩
    · exact .inl (lt_trans newer more)
    · exact .inl (same ▸ newer)
  · rcases back with more | ⟨again, retriedBack, stillBack⟩
    · exact .inl (kept ▸ more)
    · refine .inr ⟨again.trans kept, ?_, fun deaf => stillBack (still deaf)⟩
      intro raised
      by_cases early : job.retryCount < middle.retryCount
      · exact stillBack (retried early)
      · exact retriedBack (lt_of_le_of_lt (not_lt.mp early) raised)

theorem Poller.Advances.of_jobs (distinct : poller.Distinct) (minted : poller.Minted)
    (jobs : after.jobs = poller.jobs) (counter : after.transactionCounter = poller.transactionCounter)
    (slot : ∀ job ∈ poller.jobs, after.activeJob = some job.key → ¬ poller.Deaf job) :
    poller.Advances after := by
  refine ⟨by rw [jobs], ?_, ?_⟩
  · unfold Poller.Minted
    rw [jobs, counter]
    exact minted
  · intro job member later listed same
    rw [jobs] at listed
    cases distinct.eq_of_key listed member same
    refine .inr ⟨rfl, fun more => absurd more (lt_irrefl _), ?_⟩
    exact fun deaf => ⟨deaf.1, fun active => slot _ member active deaf⟩

theorem Poller.Advances.of_answered (distinct : poller.Distinct) (minted : poller.Minted)
    (counter : after.transactionCounter = poller.transactionCounter)
    (answered : poller.AnsweredBy after key)
    (listens : ∀ job ∈ poller.jobs, job.key = key → ¬ poller.Deaf job) :
    poller.Advances after := by
  obtain ⟨change, jobs, result⟩ := answered
  refine ⟨by rw [jobs, keys_modify poller key result.named], ?_, ?_⟩
  · intro later listed
    rw [jobs] at listed
    rw [counter]
    rcases mem_modify.mp listed with ⟨job, member, _, rfl⟩ | ⟨member, _⟩
    · rw [result.transaction]
      exact minted job member
    · exact minted later member
  · intro job member later listed same
    rw [jobs] at listed
    rcases mem_modify.mp listed with ⟨origin, found, here, rfl⟩ | ⟨found, elsewhere⟩
    · cases distinct.eq_of_key found member ((result.named origin).symm.trans same)
      refine .inr ⟨result.transaction _, ?_, fun deaf => absurd deaf (listens _ member here)⟩
      intro raised
      have free := result.retried _ raised
      refine ⟨fun waits => ?_, by rw [free]; exact nofun⟩
      rw [result.waits _ waits] at free
      cases free
    · cases distinct.eq_of_key found member same
      refine .inr ⟨rfl, fun more => absurd more (lt_irrefl _), ?_⟩
      intro deaf
      refine ⟨deaf.1, ?_⟩
      rcases result.slot with free | slot
      · rw [free]
        exact nofun
      · rw [slot]
        exact fun active => elsewhere (Option.some.inj active).symm

theorem Poller.Advances.refl (distinct : poller.Distinct) (minted : poller.Minted) :
    poller.Advances poller :=
  .of_jobs distinct minted rfl rfl (fun _ _ active deaf => deaf.2 active)

theorem Poller.Advances.expire (distinct : poller.Distinct) (minted : poller.Minted) (now : ℚ) :
    poller.Advances (poller.expire now) := by
  rcases poller.expire_cases now with ⟨same, _⟩ | ⟨active, found, _, retried⟩
  · rw [same]
    exact .refl distinct minted
  · rw [retried]
    refine .of_answered distinct minted rfl (poller.scheduleRetry_answered active now) ?_
    intro job member same deaf
    have slot := (Poller.active_eq_some found).1
    rw [← same] at slot
    exact deaf.2 slot

theorem Poller.Advances.dispatch (distinct : poller.Distinct) (minted : poller.Minted)
    (due : PollerJob) (now : ℚ) : poller.Advances (poller.dispatch due now) := by
  have jobs : (poller.dispatch due now).jobs = (poller.modify due.key
      (fun job => job.dispatched now (poller.transactionCounter + 1))).jobs := rfl
  refine ⟨?_, ?_, ?_⟩
  · rw [jobs]
    exact keys_modify poller due.key (fun job => dispatched_key job now _)
  · intro later listed
    rw [jobs] at listed
    rcases mem_modify.mp listed with ⟨job, _, _, rfl⟩ | ⟨member, _⟩
    · exact le_refl (poller.transactionCounter + 1)
    · exact Nat.le_succ_of_le (minted later member)
  · intro job member later listed same
    rw [jobs] at listed
    rcases mem_modify.mp listed with ⟨origin, _, _, rfl⟩ | ⟨found, elsewhere⟩
    · exact .inl (Nat.lt_succ_of_le (minted job member))
    · cases distinct.eq_of_key found member same
      refine .inr ⟨rfl, fun more => absurd more (lt_irrefl _), fun deaf => ⟨deaf.1, ?_⟩⟩
      exact fun active => elsewhere (Option.some.inj active).symm

theorem Poller.Advances.transmit (distinct : poller.Distinct) (minted : poller.Minted)
    (slot : poller.activeJob = some key) (sends : Bool) :
    poller.Advances (poller.transmit key sends) := by
  refine @Poller.Advances.of_answered poller _ key distinct minted ?_ ?_ ?_
  · unfold Poller.transmit
    split <;> rfl
  · unfold Poller.transmit
    split
    · exact ⟨_, rfl, ⟨fun _ => rfl, fun _ => rfl, .inr slot, fun _ _ => slot,
        fun job more => absurd more (lt_irrefl job.retryCount)⟩⟩
    · refine ⟨_, rfl, answered_of_settled ?_ ?_ ?_ ?_ (.inl rfl)⟩
      · exact fun _ => .inl rfl
      · exact fun _ => rfl
      · exact fun _ => rfl
      · exact fun _ => le_refl _
  · intro job _ same deaf
    rw [← same] at slot
    exact deaf.2 slot

theorem Poller.Advances.step (distinct : poller.Distinct) (minted : poller.Minted) (now : ℚ)
    (sends : Bool) : poller.Advances (poller.step now sends).1 := by
  have first := Poller.Advances.expire distinct minted now
  rcases poller.step_cases now sends with same | ⟨due, _, ⟨_, _, raised⟩ | ⟨_, _, sent⟩⟩
  · rw [same]
    exact first
  · rw [raised]
    exact first.trans (.dispatch (first.distinct distinct) first.minted due now)
  · rw [sent]
    have second := first.trans (.dispatch (first.distinct distinct) first.minted due now)
    exact second.trans (.transmit (second.distinct distinct) second.minted rfl sends)

theorem Poller.owner_cases (frame : CanFrame) (owned : poller.owner frame = some job) :
    job ∈ poller.jobs ∧ (job.waiting ∨ poller.activeJob = some job.key) := by
  unfold Poller.owner at owned
  split at owned
  · rename_i found listed
    cases owned
    have named := List.find?_some listed
    exact ⟨List.mem_of_find?_eq_some listed, .inl (of_decide_eq_true named).1⟩
  · obtain ⟨slot, member⟩ := Poller.active_eq_some owned
    exact ⟨member, .inr slot⟩

theorem Poller.owner_not_deaf (distinct : poller.Distinct) {frame : CanFrame}
    (owned : poller.owner frame = some job) (member : other ∈ poller.jobs)
    (same : other.key = job.key) : ¬ poller.Deaf other := by
  obtain ⟨listed, listens⟩ := Poller.owner_cases frame owned
  cases distinct.eq_of_key member listed same
  rintro ⟨still, inactive⟩
  exact listens.elim still inactive

theorem Poller.negative_counter (poller : Poller) (owner : Option PollerJob) (now : ℚ)
    (rejectedSid nrc : Nat) :
    (poller.negative owner now rejectedSid nrc).transactionCounter = poller.transactionCounter := by
  cases owner with
  | none => rfl
  | some job =>
      unfold Poller.negative Poller.pending
      dsimp only
      split
      · rfl
      · split
        · split <;> rfl
        · split <;> rfl

theorem Poller.takePayload_counter (poller : Poller) (owner : Option PollerJob) (now : ℚ)
    (frame : CanFrame) (payload : Bytes) (outcome : RxOutcome) :
    (poller.takePayload owner now frame payload outcome).1.transactionCounter =
      poller.transactionCounter := by
  unfold Poller.takePayload
  split
  · rfl
  · split
    · exact poller.negative_counter owner now _ _
    · split
      · rfl
      · cases owner with
        | none => rfl
        | some job =>
            rcases poller.positive_cases job _ _ frame { outcome with result := some _ } with
              same | ⟨_, _, done⟩
            · rw [same]
            · rw [done]
              rfl

/-- The poller that looks at the payload of a frame: its owner is active, its transport has
taken the frame. -/
def Poller.routed (poller : Poller) (monotonicNs : Nat) (frame : CanFrame) : Poller :=
  { poller with activeJob := (poller.owner frame).map PollerJob.key }.withTransport
    (poller.conversationOf frame)
    ((poller.transportFor (poller.conversationOf frame)).handleRxFrame monotonicNs frame).1

theorem Poller.processRxFrame_payload (poller : Poller) (monotonicNs : Nat) (now : ℚ)
    (frame : CanFrame) :
    (poller.payload monotonicNs frame = none ∧
      (poller.processRxFrame monotonicNs now frame).1.transactionCounter =
        poller.transactionCounter ∧
      ∀ outcome, (poller.processRxFrame monotonicNs now frame).2 = .ok outcome →
        outcome.callback = none) ∨
    ∃ payload flowControl, poller.payload monotonicNs frame = some payload ∧
      (poller.processRxFrame monotonicNs now frame).1 =
        ((poller.routed monotonicNs frame).takePayload (poller.owner frame) now frame payload
          { flowControl := flowControl }).1 ∧
      (poller.processRxFrame monotonicNs now frame).2 =
        .ok ((poller.routed monotonicNs frame).takePayload (poller.owner frame) now frame payload
          { flowControl := flowControl }).2 := by
  have carried : ({ poller with activeJob := (poller.owner frame).map PollerJob.key } :
      Poller).transportFor (poller.conversationOf frame) =
        poller.transportFor (poller.conversationOf frame) := rfl
  unfold Poller.processRxFrame Poller.payload Poller.routed
  dsimp only
  rw [carried]
  split
  · refine .inl ⟨rfl, rfl, ?_⟩
    rintro outcome ⟨⟩
    rfl
  · rcases (poller.transportFor (poller.conversationOf frame)).handleRxFrame monotonicNs frame with
      ⟨transport, error | ⟨payload, flowControl⟩⟩
    · refine .inl ⟨rfl, rfl, ?_⟩
      rintro outcome ⟨⟩
    · cases payload with
      | none =>
          refine .inl ⟨rfl, rfl, ?_⟩
          rintro outcome ⟨⟩
          rfl
      | some payload => exact .inr ⟨payload, flowControl, rfl, rfl, rfl⟩

theorem Poller.processRxFrame_counter (poller : Poller) (monotonicNs : Nat) (now : ℚ)
    (frame : CanFrame) : (poller.processRxFrame monotonicNs now frame).1.transactionCounter =
      poller.transactionCounter := by
  rcases poller.processRxFrame_payload monotonicNs now frame with
    ⟨_, counter, _⟩ | ⟨payload, flowControl, _, reached, _⟩
  · exact counter
  · rw [reached, Poller.takePayload_counter]
    rfl

theorem positiveResponse_of_negative {payload : Bytes} (negative : (payload.getD 0 0).toNat = 0x7F) :
    positiveResponse payload = none := by
  unfold positiveResponse
  dsimp only
  rw [if_neg (by omega), if_neg (by omega), if_neg (by omega)]

theorem Poller.takePayload_callback (poller : Poller) (owner : Option PollerJob) (now : ℚ)
    (frame : CanFrame) (payload : Bytes) (outcome : RxOutcome) (none : outcome.callback = none)
    (key : JobKey) :
    (poller.takePayload owner now frame payload outcome).2.callback = some key ↔
      2 ≤ payload.length ∧ ∃ job, owner = some job ∧ job.key = key ∧ poller.Current job ∧
        ∃ kind identifier result, positiveResponse payload = some (kind, identifier, result) ∧
          job.Echoed kind identifier frame := by
  unfold Poller.takePayload
  split
  · rename_i short
    rw [none]
    exact ⟨nofun, fun both => absurd both.1 (by omega)⟩
  · rename_i long
    split
    · rename_i negative
      rw [none]
      refine ⟨nofun, ?_⟩
      rintro ⟨_, job, _, _, _, kind, identifier, result, named, _⟩
      rw [positiveResponse_of_negative negative.1] at named
      cases named
    · split
      · rename_i silent
        rw [none]
        refine ⟨nofun, ?_⟩
        rintro ⟨_, job, _, _, _, kind, identifier, result, named, _⟩
        rw [silent] at named
        cases named
      · rename_i kind identifier result found
        cases owner with
        | none =>
            refine ⟨fun called => absurd (none.symm.trans called) nofun, ?_⟩
            rintro ⟨_, job, owned, _⟩
            cases owned
        | some job =>
            unfold Poller.positive
            dsimp only
            split
            · rename_i both
              constructor
              · intro called
                exact ⟨by omega, job, rfl, Option.some.inj called, both.2, kind, identifier, result,
                  found, both.1⟩
              · rintro ⟨_, other, owned, same, _⟩
                cases owned
                exact congrArg some same
            · rename_i refused
              refine ⟨fun called => absurd (none.symm.trans called) nofun, ?_⟩
              rintro ⟨_, other, owned, _, current, _, _, _, named, echoed⟩
              cases owned
              rw [found] at named
              cases named
              exact absurd ⟨echoed, current⟩ refused

theorem Poller.callback_iff (poller : Poller) (monotonicNs : Nat) (now : ℚ) (frame : CanFrame)
    (key : JobKey) :
    (∃ outcome, (poller.processRxFrame monotonicNs now frame).2 = .ok outcome ∧
      outcome.callback = some key) ↔
    ∃ payload, poller.payload monotonicNs frame = some payload ∧ 2 ≤ payload.length ∧
      ∃ job, poller.owner frame = some job ∧ job.key = key ∧ poller.Current job ∧
      ∃ kind identifier result, positiveResponse payload = some (kind, identifier, result) ∧
        job.Echoed kind identifier frame := by
  rcases poller.processRxFrame_payload monotonicNs now frame with
    ⟨silent, _, quiet⟩ | ⟨payload, flowControl, completed, _, outcome⟩
  · constructor
    · rintro ⟨outcome, handled, called⟩
      rw [quiet outcome handled] at called
      cases called
    · rintro ⟨payload, completed, _⟩
      rw [silent] at completed
      cases completed
  · have taken := (poller.routed monotonicNs frame).takePayload_callback (poller.owner frame) now
      frame payload { flowControl := flowControl } rfl key
    constructor
    · rintro ⟨result, handled, called⟩
      rw [outcome] at handled
      cases handled
      obtain ⟨long, rest⟩ := taken.mp called
      exact ⟨payload, completed, long, rest⟩
    · rintro ⟨other, again, long, rest⟩
      rw [completed] at again
      cases again
      exact ⟨_, outcome, taken.mpr ⟨long, rest⟩⟩

theorem Poller.Advances.processRxFrame (distinct : poller.Distinct) (minted : poller.Minted)
    (monotonicNs : Nat) (now : ℚ) (frame : CanFrame) :
    poller.Advances (poller.processRxFrame monotonicNs now frame).1 := by
  have counter := poller.processRxFrame_counter monotonicNs now frame
  rcases poller.processRxFrame_cases monotonicNs now frame with
    ⟨jobs, slot⟩ | ⟨job, owned, answered⟩
  · refine .of_jobs distinct minted jobs counter ?_
    intro job member active
    rw [slot] at active
    obtain ⟨owner, owned, same⟩ := Option.map_eq_some_iff.mp active
    exact Poller.owner_not_deaf distinct owned member same.symm
  · exact .of_answered distinct minted counter answered
      (fun other member same => Poller.owner_not_deaf distinct owned member same)

theorem Poller.Advances.handle (distinct : poller.Distinct) (minted : poller.Minted)
    (event : PollerEvent) : poller.Advances (poller.handle event) := by
  cases event with
  | step now sends => exact .step distinct minted now sends
  | rx monotonicNs now frame => exact .processRxFrame distinct minted monotonicNs now frame

/-! ## The ledger -/

/-- A dispatch in the ledger is older than the transaction of its job, or nobody listens for an
answer to it. -/
structure Watched.Settled (watched : Watched) : Prop where
  distinct : watched.poller.Distinct
  minted : watched.poller.Minted
  past : ∀ dispatch ∈ watched.ended, ∀ job ∈ watched.poller.jobs, job.key = dispatch.key →
    dispatch.transactionId < job.transactionId ∨
      dispatch.transactionId = job.transactionId ∧ watched.poller.Deaf job

theorem Poller.mem_endedBy {event : PollerEvent} {dispatch : Dispatch} :
    dispatch ∈ poller.endedBy event ↔ ∃ job ∈ poller.jobs, dispatch = ⟨job.transactionId, job.key⟩ ∧
      ∃ later ∈ (poller.handle event).jobs, later.key = job.key ∧
        (job.retryCount < later.retryCount ∨
          job.waiting ∧ later.transactionId ≠ job.transactionId) := by
  simp only [Poller.endedBy, List.mem_map, List.mem_filter, decide_eq_true_eq]
  constructor
  · rintro ⟨job, ⟨member, ended⟩, rfl⟩
    exact ⟨job, member, rfl, ended⟩
  · rintro ⟨job, member, rfl, ended⟩
    exact ⟨job, ⟨member, ended⟩, rfl⟩

theorem Watched.Settled.next {watched after : Watched} {call : Call} (settled : watched.Settled)
    (took : watched.next call = some after) : after.Settled := by
  cases took
  have advances := Poller.Advances.handle settled.distinct settled.minted call.event
  have distinct := advances.distinct settled.distinct
  refine ⟨distinct, advances.minted, ?_⟩
  intro dispatch member later listed same
  rcases List.mem_append.mp member with old | new
  · obtain ⟨job, found, named⟩ := advances.origin listed
    have moved := advances.moved job found later listed named
    rcases settled.past dispatch old job found (named.symm.trans same) with older | ⟨equal, deaf⟩
    · rcases moved with newer | ⟨kept, _⟩
      · exact .inl (lt_trans older newer)
      · exact .inl (kept ▸ older)
    · rcases moved with newer | ⟨kept, _, still⟩
      · exact .inl (equal ▸ newer)
      · exact .inr ⟨equal.trans kept.symm, still deaf⟩
  · obtain ⟨job, found, rfl, middle, reached, named, ended⟩ := Poller.mem_endedBy.mp new
    cases distinct.eq_of_key reached listed (named.trans same.symm)
    rcases advances.moved job found _ listed named with newer | ⟨kept, retried, _⟩
    · exact .inl newer
    · rcases ended with raised | ⟨_, changed⟩
      · exact .inr ⟨kept.symm, retried raised⟩
      · exact absurd kept changed

theorem Registered.settled (registered : Registered poller) : Watched.Settled ⟨poller, []⟩ := by
  refine ⟨registered.fresh.distinct, ?_, fun dispatch member => nomatch member⟩
  intro job member
  rw [(registered.fresh.idle job member).2]
  exact Nat.zero_le _

theorem Watched.Settled.asked_again {watched : Watched} (settled : watched.Settled)
    {dispatch : Dispatch} (ended : dispatch ∈ watched.ended) {frame : CanFrame}
    (owned : watched.poller.owner frame = some job) (same : job.key = dispatch.key) :
    dispatch.transactionId < job.transactionId := by
  have member := (Poller.owner_cases frame owned).1
  rcases settled.past dispatch ended job member same with older | ⟨_, deaf⟩
  · exact older
  · exact absurd deaf (Poller.owner_not_deaf settled.distinct owned member rfl)

theorem Watched.Settled.keepsApart_iff {watched : Watched} (settled : watched.Settled)
    (call : Call) : watched.KeepsApart call ↔ watched.NotAskedAgain call := by
  obtain ⟨event, answers⟩ := call
  cases event with
  | step now sends => exact Iff.rfl
  | rx monotonicNs now frame =>
      constructor
      · intro apart late job owned same current
        obtain ⟨ended, payload, completed, long, names, arrived⟩ := late
        obtain ⟨⟨kind, identifier, result⟩, positive, parts⟩ := Option.map_eq_some_iff.mp names
        have echoed : job.Echoed kind identifier frame := by
          cases parts
          exact ⟨congrArg Prod.fst same, congrArg (fun key : JobKey => key.2.1) same,
            (congrArg (fun key : JobKey => key.2.2.2) same).trans arrived⟩
        have called := (watched.poller.callback_iff monotonicNs now frame job.key).mpr
          ⟨payload, completed, long, job, owned, rfl, current, kind, identifier, result, positive,
            echoed⟩
        refine apart ⟨ended, payload, completed, long, names, arrived⟩
          ⟨job, (Poller.owner_cases frame owned).1, ?_, settled.asked_again ended owned same, called⟩
        exact congrArg (fun key : JobKey => key.2.2) same
      · rintro fresh late ⟨job, member, conversation, _, called⟩
        obtain ⟨payload, completed, _, owner, owned, same, current, kind, identifier, result,
          positive, echoed⟩ := (watched.poller.callback_iff monotonicNs now frame job.key).mp called
        refine fresh late owner owned ?_ current
        obtain ⟨_, other, again, _, names, _⟩ := late
        rw [completed] at again
        cases again
        rw [positive] at names
        have parts : (kind, identifier) = (answers.key.1, answers.key.2.1) := Option.some.inj names
        have kinds : owner.key.1 = answers.key.1 := echoed.1.trans (congrArg Prod.fst parts)
        have identifiers : owner.key.2.1 = answers.key.2.1 :=
          echoed.2.1.trans (congrArg Prod.snd parts)
        have conversations : owner.key.2.2 = answers.key.2.2 :=
          (congrArg (fun key : JobKey => key.2.2) same).trans conversation
        exact Prod.ext kinds (Prod.ext identifiers conversations)

def speedAnswer : CanFrame where
  channelId := "can0"
  arbitrationId := 0x7E8
  dlc := 8
  data := [0x04, 0x41, 0x0C, 0x1A, 0xF8, 0x55, 0x55, 0x55]
  valid := rfl

def firstSpeedRequest : Dispatch := ⟨1, .obdPid, 0x0C, 0x7DF, 0x7E8⟩

/-- In a run of step and frame calls no late answer completes a later dispatch, exactly where
none arrives while its own job is asked again. -/
theorem late_answers_kept_apart_iff (poller : Poller) (registered : Registered poller)
    (calls : List Call) :
    EventRun.Meets Watched.next Watched.KeepsApart ⟨poller, []⟩ calls ↔
      EventRun.Meets Watched.next Watched.NotAskedAgain ⟨poller, []⟩ calls := by
  have kept : ∀ {condition : Watched → Call → Prop} watched call next, Watched.Settled watched →
      condition watched call → Watched.next watched call = some next → Watched.Settled next :=
    fun watched call next settled _ took => settled.next took
  constructor
  · intro meets
    refine (meets.with_invariant kept registered.settled).imp ?_
    exact fun watched call both => (both.1.keepsApart_iff call).mp both.2
  · intro meets
    refine (meets.with_invariant kept registered.settled).imp ?_
    exact fun watched call both => (both.1.keepsApart_iff call).mpr both.2

def answerInBackoff : List Call := [⟨.step 1 true, firstSpeedRequest⟩, ⟨.step 3 true, firstSpeedRequest⟩,
  ⟨.rx 0 (302 / 100) speedAnswer, firstSpeedRequest⟩]

theorem late_answers_kept_apart_in_backoff :
    EventRun.Meets Watched.next Watched.KeepsApart ⟨pidAlone, []⟩ answerInBackoff := by
  refine (late_answers_kept_apart_iff pidAlone pidAlone_registered answerInBackoff).mpr ?_
  have unowned : ((pidAlone.step 1 true).1.step 3 true).1.owner speedAnswer = none := by
    decide +kernel
  refine ⟨trivial, ?_⟩
  rintro first ⟨⟩
  refine ⟨trivial, ?_⟩
  rintro second ⟨⟩
  refine ⟨?_, fun _ _ => trivial⟩
  intro late job owned
  exact nomatch unowned.symm.trans owned

def answerAfterRetry : List Call := [⟨.step 1 true, firstSpeedRequest⟩, ⟨.step 3 true, firstSpeedRequest⟩,
  ⟨.step (31 / 10) true, firstSpeedRequest⟩, ⟨.rx 0 (32 / 10) speedAnswer, firstSpeedRequest⟩]

/-- The answer to the first request completes the second one. -/
theorem late_answer_completes_retry :
    Registered pidAlone ∧
      ¬ EventRun.Meets Watched.next Watched.KeepsApart ⟨pidAlone, []⟩ answerAfterRetry := by
  refine ⟨pidAlone_registered, ?_⟩
  intro meets
  have last := (((meets.2 _ rfl).2 _ rfl).2 _ rfl).1
  have second : ∃ job ∈ (((pidAlone.step 1 true).1.step 3 true).1.step (31 / 10) true).1.jobs,
      job.conversation = (0x7DF, 0x7E8) ∧ 1 < job.transactionId ∧
      ((((pidAlone.step 1 true).1.step 3 true).1.step (31 / 10) true).1.processRxFrame 0 (32 / 10)
        speedAnswer).2.toOption.bind RxOutcome.callback = some job.key := by decide +kernel
  obtain ⟨job, member, conversation, later, called⟩ := second
  refine last ⟨by decide +kernel, [0x41, 0x0C, 0x1A, 0xF8], by decide +kernel, by decide,
    by decide +kernel, rfl⟩ ⟨job, member, conversation, later, ?_⟩
  obtain ⟨outcome, handled, callback⟩ := Option.bind_eq_some_iff.mp called
  refine ⟨outcome, ?_, callback⟩
  unfold Except.toOption at handled
  split at handled
  · rename_i result same
    rw [← Option.some.inj handled]
    exact same
  · cases handled

end Ucanlab.Obd
