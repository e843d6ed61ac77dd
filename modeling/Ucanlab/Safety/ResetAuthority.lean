import Ucanlab.Lib.EventRun
import Ucanlab.Safety.EStopReset

/-!
Runs of the emergency stop: engagements, challenges, reset attempts with any
tokens and the publication of the fence after a reset. Who can clear the stop,
what the epoch and the fence count, and what failed attempts leave to the
operator.
-/

namespace Ucanlab.Safety

open Ucanlab EStop EventRun

/-- A granted reset, as the history keeps it. -/
structure Acceptance where
  token : AuthorizationToken
  key : Bytes
  challenge : EStopChallenge
  deriving DecidableEq

/-- The stop with its cached secret, the granted resets whose fence is not yet
published, and the history of the granted ones. -/
structure ResetSystem where
  estop : EStop
  secret : Option Bytes
  unpublished : Nat
  accepted : List Acceptance

inductive ResetEvent where
  | trigger (event : EStopEvent) (now : Nat) (nonce : Bytes)
  | requestChallenge (now later : Nat) (nonce : Bytes)
  | reissueChallenge (now : Nat) (nonce : Bytes)
  | loadSecret (secret : Option Bytes)
  | reset (token : AuthorizationToken) (now later : Nat)
  | resetPublish
  | advanceTxFence

namespace ResetSystem

def new (maxTokenAgeNs : Nat) (secret : Option Bytes) : ResetSystem where
  estop := EStop.new maxTokenAgeNs
  secret := secret
  unpublished := 0
  accepted := []

/-- The history entry of a reset granted in this state. -/
def acceptance (system : ResetSystem) (token : AuthorizationToken) : Option Acceptance :=
  match system.secret, system.estop.challenge with
  | some key, some challenge => some ⟨token, key, challenge⟩
  | _, _ => none

def reset (digests : Digests) (system : ResetSystem) (token : AuthorizationToken)
    (now later : Nat) : ResetSystem :=
  match system.estop.reset digests system.secret token now later with
  | (estop, .disengaged) =>
      { system with
        estop := estop
        unpublished := system.unpublished + 1
        accepted := system.accepted ++ (system.acceptance token).toList }
  | (estop, _) => { system with estop := estop }

def step (digests : Digests) (system : ResetSystem) : ResetEvent → Option ResetSystem
  | .trigger event now nonce =>
      some { system with estop := system.estop.trigger event now nonce }
  | .requestChallenge now later nonce =>
      some { system with estop := system.estop.requestResetChallenge now later nonce }
  | .reissueChallenge now nonce =>
      (system.estop.reissueChallenge now nonce).map (fun estop => { system with estop := estop })
  | .loadSecret secret => some { system with secret := secret }
  | .reset token now later => some (system.reset digests token now later)
  | .resetPublish =>
      if system.unpublished = 0 then none
      else
        some { system with
          estop := system.estop.resetPublish
          unpublished := system.unpublished - 1 }
  | .advanceTxFence => some { system with estop := system.estop.advanceTxFence }

end ResetSystem

def ResetEvent.isPublish : ResetEvent → Bool
  | .resetPublish => true
  | _ => false

section Authority

variable {digests : Digests} {system next initial last : ResetSystem} {event : ResetEvent}
  {events : List ResetEvent} {token : AuthorizationToken} {now later : Nat}

def Acceptance.message (accepted : Acceptance) : Bytes :=
  accepted.challenge.serializeForSignature

def Acceptance.tag (digests : Digests) (accepted : Acceptance) : Bytes :=
  digests.hmacSha256 accepted.key accepted.message

/-- No two granted challenges share their authentication code. -/
def CollisionFree (digests : Digests) (accepted : List Acceptance) : Prop :=
  ∀ left ∈ accepted, ∀ right ∈ accepted, left.tag digests = right.tag digests →
    left.message = right.message

instance (accepted : List Acceptance) : Decidable (CollisionFree digests accepted) :=
  inferInstanceAs (Decidable (∀ left ∈ accepted, ∀ right ∈ accepted, _ → _))

theorem ResetSystem.reset_cases (digests : Digests) (system : ResetSystem)
    (token : AuthorizationToken) (now later : Nat) :
    (∃ estop key challenge, system.secret = some key ∧
        Disengaged digests system.estop estop system.secret token now ∧
        Authenticates digests system.estop key challenge token now ∧
        system.reset digests token now later = { system with
          estop := estop
          unpublished := system.unpublished + 1
          accepted := system.accepted ++ [⟨token, key, challenge⟩] }) ∨
      ∃ estop, Refused system.estop estop ∧
        system.reset digests token now later = { system with estop := estop } := by
  unfold ResetSystem.reset
  have cases := EStop.reset_cases digests system.estop system.secret token now later
  generalize system.estop.reset digests system.secret token now later = outcome at cases
  obtain ⟨estop, result⟩ := outcome
  rcases cases with ⟨disengaged, granted⟩ | ⟨kept, refused⟩
  · obtain ⟨key, challenge, loaded, authentic⟩ := granted.authentic
    dsimp only at disengaged
    subst disengaged
    have entry : system.acceptance token = some ⟨token, key, challenge⟩ := by
      unfold ResetSystem.acceptance
      rw [loaded, authentic.active]
    refine Or.inl ⟨estop, key, challenge, loaded, granted, authentic, ?_⟩
    dsimp only
    rw [entry]
    rfl
  · refine Or.inr ⟨estop, refused, ?_⟩
    cases result with
    | disengaged => exact absurd rfl kept
    | notEngaged => rfl
    | refused denial => rfl
    | noSecret => rfl

theorem requestResetChallenge_keeps (estop : EStop) (now later : Nat) (nonce : Bytes) :
    (estop.requestResetChallenge now later nonce).engaged = estop.engaged ∧
      (estop.requestResetChallenge now later nonce).epoch = estop.epoch ∧
      (estop.requestResetChallenge now later nonce).txFence = estop.txFence := by
  unfold requestResetChallenge reissueChallenge
  split
  · exact ⟨rfl, rfl, rfl⟩
  · split
    · exact ⟨rfl, rfl, rfl⟩
    · split
      · exact ⟨rfl, rfl, rfl⟩
      · exact ⟨rfl, rfl, rfl⟩

/-- Everything but a reset keeps the epoch and the history, and never
disengages. -/
theorem ResetSystem.step_other (stepped : system.step digests event = some next)
    (other : ∀ token now later, event ≠ .reset token now later) :
    next.estop.epoch = system.estop.epoch ∧ next.accepted = system.accepted ∧
      (system.estop.engaged = true → next.estop.engaged = true) ∧
      system.estop.txFence ≤ next.estop.txFence ∧
      system.unpublished = next.unpublished + if event.isPublish then 1 else 0 := by
  cases event with
  | trigger stop now nonce =>
      cases stepped
      exact ⟨rfl, rfl, fun _ => rfl, Nat.le_succ _, rfl⟩
  | requestChallenge now later nonce =>
      cases stepped
      obtain ⟨engaged, epoch, fence⟩ := requestResetChallenge_keeps system.estop now later nonce
      exact ⟨epoch, rfl, fun on => engaged.trans on, Nat.le_of_eq fence.symm, rfl⟩
  | reissueChallenge now nonce =>
      obtain ⟨estop, issued, rfl⟩ := Option.map_eq_some_iff.mp stepped
      unfold reissueChallenge at issued
      split at issued
      · cases issued
      · cases issued
        exact ⟨rfl, rfl, fun on => on, Nat.le_refl _, rfl⟩
  | loadSecret secret =>
      cases stepped
      exact ⟨rfl, rfl, fun on => on, Nat.le_refl _, rfl⟩
  | reset token now later => exact absurd rfl (other token now later)
  | resetPublish =>
      simp only [ResetSystem.step] at stepped
      split at stepped
      · cases stepped
      · rename_i owed
        cases stepped
        refine ⟨rfl, rfl, fun on => on, Nat.le_succ _, ?_⟩
        change system.unpublished = system.unpublished - 1 + 1
        omega
  | advanceTxFence =>
      cases stepped
      exact ⟨rfl, rfl, fun on => on, Nat.le_succ _, rfl⟩

theorem ResetSystem.step_clears (stepped : system.step digests event = some next)
    (on : system.estop.engaged = true) (off : next.estop.engaged = false) :
    ∃ token now later key challenge, event = .reset token now later ∧
      system.secret = some key ∧ Authenticates digests system.estop key challenge token now := by
  by_cases other : ∀ token now later, event ≠ .reset token now later
  · have still := (step_other stepped other).2.2.1 on
    rw [off] at still
    cases still
  · obtain ⟨token, now, later, same⟩ : ∃ token now later, event = .reset token now later := by
      by_contra none
      exact other (fun token now later same => none ⟨token, now, later, same⟩)
    subst same
    cases stepped
    rcases ResetSystem.reset_cases digests system token now later with
      ⟨estop, key, challenge, loaded, _, authentic, _⟩ | ⟨estop, refused, same⟩
    · exact ⟨token, now, later, key, challenge, rfl, loaded, authentic⟩
    · rw [same] at off
      rw [refused.engaged.trans on] at off
      cases off

theorem ResetSystem.step_fence (stepped : system.step digests event = some next) :
    system.estop.txFence ≤ next.estop.txFence := by
  cases event with
  | reset token now later =>
      cases stepped
      rcases ResetSystem.reset_cases digests system token now later with
        ⟨estop, key, challenge, _, granted, _, same⟩ | ⟨estop, refused, same⟩
      · rw [same]
        exact Nat.le_of_eq granted.txFence.symm
      · rw [same]
        exact Nat.le_of_eq refused.txFence.symm
  | _ => exact (step_other stepped (fun _ _ _ => nofun)).2.2.2.1

theorem ResetSystem.step_raises (stepped : system.step digests event = some next)
    (raises : event.isPublish = true ∨ ∃ stop now nonce, event = .trigger stop now nonce) :
    system.estop.txFence < next.estop.txFence := by
  rcases raises with publish | ⟨stop, now, nonce, rfl⟩
  · cases event with
    | resetPublish =>
        simp only [ResetSystem.step] at stepped
        split at stepped
        · cases stepped
        · cases stepped
          exact Nat.lt_succ_self _
    | _ => cases publish
  · cases stepped
    exact Nat.lt_succ_self _

/-- The history and the epoch agree: the granted challenges carry the epochs in
order, and each was signed for. -/
structure ResetSystem.Recorded (digests : Digests) (system : ResetSystem) : Prop where
  epoch : system.estop.epoch = system.accepted.length
  inOrder : system.accepted.map (fun accepted => accepted.challenge.epoch) =
    List.range system.accepted.length
  signed : ∀ accepted ∈ system.accepted, ∃ fields,
    readToken accepted.challenge accepted.token = .ok fields ∧
      presentedSignature fields = some (accepted.tag digests)

theorem ResetSystem.new_recorded (digests : Digests) (maxTokenAgeNs : Nat) (secret : Option Bytes) :
    (ResetSystem.new maxTokenAgeNs secret).Recorded digests :=
  ⟨rfl, rfl, fun _ member => absurd member List.not_mem_nil⟩

theorem ResetSystem.Recorded.step (recorded : system.Recorded digests)
    (stepped : system.step digests event = some next) : next.Recorded digests := by
  by_cases other : ∀ token now later, event ≠ .reset token now later
  · obtain ⟨epoch, accepted, _⟩ := step_other stepped other
    refine ⟨?_, ?_, ?_⟩
    · rw [epoch, accepted]
      exact recorded.epoch
    · rw [accepted]
      exact recorded.inOrder
    · rw [accepted]
      exact recorded.signed
  · obtain ⟨token, now, later, same⟩ : ∃ token now later, event = .reset token now later := by
      by_contra none
      exact other (fun token now later same => none ⟨token, now, later, same⟩)
    subst same
    cases stepped
    rcases ResetSystem.reset_cases digests system token now later with
      ⟨estop, key, challenge, _, granted, authentic, same⟩ | ⟨estop, refused, same⟩
    · rw [same]
      refine ⟨?_, ?_, ?_⟩
      · rw [List.length_append]
        exact granted.epoch.trans (congrArg (· + 1) recorded.epoch)
      · rw [List.map_append, List.length_append, recorded.inOrder]
        change _ ++ [challenge.epoch] = List.range (system.accepted.length + 1)
        rw [List.range_succ, authentic.current, recorded.epoch]
      · intro accepted member
        rcases List.mem_append.mp member with earlier | now
        · exact recorded.signed accepted earlier
        · rw [List.mem_singleton.mp now]
          obtain ⟨fields, read, _, _, signed⟩ := authentic.signed
          exact ⟨fields, read, signed⟩
    · rw [same]
      exact ⟨refused.epoch.trans recorded.epoch, recorded.inOrder, recorded.signed⟩

theorem ResetSystem.Recorded.once (recorded : system.Recorded digests)
    (distinct : CollisionFree digests system.accepted) :
    (system.accepted.map Acceptance.token).Nodup := by
  have epochs : (system.accepted.map (fun accepted => accepted.challenge.epoch)).Nodup := by
    rw [recorded.inOrder]
    exact List.nodup_range
  refine (List.pairwise_map.mpr ?_)
  refine (List.pairwise_map.mp epochs).imp_of_mem ?_
  intro left right leftIn rightIn different sameToken
  obtain ⟨leftFields, leftRead, leftSigned⟩ := recorded.signed left leftIn
  obtain ⟨rightFields, rightRead, rightSigned⟩ := recorded.signed right rightIn
  rw [sameToken] at leftRead
  have signature := readToken_signature leftRead rightRead
  have tags : left.tag digests = right.tag digests := by
    have presented : presentedSignature leftFields = presentedSignature rightFields := by
      unfold presentedSignature
      rw [signature]
    rw [leftSigned, rightSigned] at presented
    exact Option.some.inj presented
  have messages := distinct left leftIn right rightIn tags
  unfold Acceptance.message EStopChallenge.serializeForSignature at messages
  simp only [List.append_assoc, List.cons_append] at messages
  exact different (decimalText_before_colon messages)

theorem ResetSystem.step_published (stepped : system.step digests event = some next) :
    system.accepted.length + next.unpublished + (if event.isPublish then 1 else 0) =
      next.accepted.length + system.unpublished := by
  cases event with
  | reset token now later =>
      cases stepped
      rcases ResetSystem.reset_cases digests system token now later with
        ⟨estop, key, challenge, _, _, _, same⟩ | ⟨estop, _, same⟩
      · rw [same, List.length_append]
        change system.accepted.length + (system.unpublished + 1) + 0 =
          system.accepted.length + 1 + system.unpublished
        omega
      · rw [same]
        rfl
  | _ =>
      obtain ⟨_, accepted, _, _, debt⟩ := step_other stepped (fun _ _ _ => nofun)
      rw [accepted]
      omega

theorem ResetSystem.run_published (ran : run (step digests) system events = some last) :
    system.accepted.length + last.unpublished + events.countP ResetEvent.isPublish =
      last.accepted.length + system.unpublished := by
  induction events generalizing system with
  | nil =>
      cases ran
      rfl
  | cons event rest ih =>
      obtain ⟨next, stepped, tail⟩ := run_cons_some ran
      have here := step_published stepped
      have later := ih tail
      rw [List.countP_cons]
      omega

/-- The authority over the stop in a run: nothing but an authentic, unexpired
token of the current epoch clears it, the epoch counts the granted resets, the
fence rises at every engagement and over every granted reset, and no token is
granted twice. -/
structure ResetAuthoritative (digests : Digests) (initial last : ResetSystem)
    (events : List ResetEvent) : Prop where
  onlyByToken : ∀ front event back before after, events = front ++ event :: back →
    run (ResetSystem.step digests) initial front = some before →
    before.step digests event = some after →
    before.estop.engaged = true → after.estop.engaged = false →
      ∃ token now later key challenge, event = .reset token now later ∧
        before.secret = some key ∧ Authenticates digests before.estop key challenge token now
  epoch : last.estop.epoch = last.accepted.length
  engagementRaises : ∀ front stop now nonce back before after,
    events = front ++ .trigger stop now nonce :: back →
    run (ResetSystem.step digests) initial front = some before →
    before.step digests (.trigger stop now nonce) = some after →
      before.estop.txFence < after.estop.txFence
  resetRaises : ∀ front token now later middle back before granted waiting published,
    events = front ++ .reset token now later :: (middle ++ .resetPublish :: back) →
    run (ResetSystem.step digests) initial front = some before →
    before.step digests (.reset token now later) = some granted →
    run (ResetSystem.step digests) granted middle = some waiting →
    waiting.step digests .resetPublish = some published →
      before.estop.txFence < published.estop.txFence
  published : events.countP ResetEvent.isPublish + last.unpublished = last.accepted.length
  once : (last.accepted.map Acceptance.token).Nodup

theorem reset_authority (digests : Digests) (maxTokenAgeNs : Nat) (secret : Option Bytes)
    (last : ResetSystem) (events : List ResetEvent)
    (ran : run (ResetSystem.step digests) (.new maxTokenAgeNs secret) events = some last)
    (distinct : CollisionFree digests last.accepted) :
    ResetAuthoritative digests (.new maxTokenAgeNs secret) last events := by
  have recorded : last.Recorded digests :=
    run_invariant (fun _ _ _ recorded stepped => recorded.step stepped)
      (ResetSystem.new_recorded digests maxTokenAgeNs secret) ran
  have published := ResetSystem.run_published ran
  constructor
  case onlyByToken =>
    intro front event back before after _ _ stepped on off
    exact ResetSystem.step_clears stepped on off
  case epoch => exact recorded.epoch
  case engagementRaises =>
    intro front stop now nonce back before after _ _ stepped
    exact ResetSystem.step_raises stepped (Or.inr ⟨stop, now, nonce, rfl⟩)
  case resetRaises =>
    intro front token now later middle back before granted waiting published _ _ verified between
      publish
    have kept := ResetSystem.step_fence verified
    have grown := run_generation_le (fun system : ResetSystem => system.estop.txFence)
      (fun _ _ _ stepped => ResetSystem.step_fence stepped) between
    have raised := ResetSystem.step_raises publish (Or.inl rfl)
    exact Nat.lt_of_le_of_lt (Nat.le_trans kept grown) raised
  case published =>
    change 0 + last.unpublished + events.countP ResetEvent.isPublish =
      last.accepted.length + 0 at published
    omega
  case once => exact recorded.once distinct

end Authority

/-- A reset call: the secret is loaded anew when its provider has moved on, then
the token is checked. -/
structure ResetAttempt where
  reload : Option (Option Bytes)
  token : AuthorizationToken
  now : Nat
  later : Nat

section Attempts

variable {digests : Digests} {system : ResetSystem} {challenge : EStopChallenge}

def ResetSystem.attempt (digests : Digests) (system : ResetSystem) (attempt : ResetAttempt) :
    ResetSystem :=
  ({ system with secret := attempt.reload.getD system.secret }).reset digests attempt.token
    attempt.now attempt.later

def ResetSystem.attempts (digests : Digests) (system : ResetSystem)
    (attempts : List ResetAttempt) : ResetSystem :=
  attempts.foldl (fun system attempt => system.attempt digests attempt) system

theorem ResetSystem.attempt_estop (digests : Digests) (system : ResetSystem)
    (attempt : ResetAttempt) :
    (system.attempt digests attempt).estop =
      (system.estop.reset digests (attempt.reload.getD system.secret) attempt.token attempt.now
        attempt.later).1 := by
  unfold ResetSystem.attempt ResetSystem.reset
  dsimp only
  generalize system.estop.reset digests _ _ _ _ = outcome
  obtain ⟨estop, result⟩ := outcome
  cases result with
  | disengaged => rfl
  | notEngaged => rfl
  | refused denial => rfl
  | noSecret => rfl

theorem ResetSystem.attempts_off (attempts : List ResetAttempt)
    (off : system.estop.engaged = false) :
    (system.attempts digests attempts).estop.engaged = false := by
  induction attempts generalizing system with
  | nil => exact off
  | cons attempt rest ih =>
      apply ih
      rw [attempt_estop]
      unfold EStop.reset
      rw [off, if_pos Bool.false_ne_true]
      exact off

theorem ResetSystem.attempts_lost (lost : system.estop.Lost) (attempts : List ResetAttempt) :
    (system.attempts digests attempts).estop.Lost := by
  induction attempts generalizing system with
  | nil => exact lost
  | cons attempt rest ih =>
      apply ih
      rw [attempt_estop, lost.reset]
      exact lost.resetFailure attempt.later

theorem ResetSystem.attempts_live (live : system.estop.Live challenge)
    (attempts : List ResetAttempt)
    (inTime : ∀ attempt ∈ attempts, challenge.outdated attempt.now challenge.timestampNs = false)
    (failed : (system.attempts digests attempts).estop.engaged = true) :
    ((∀ attempt ∈ attempts, ¬ Discards challenge attempt.token attempt.now) ∧
        (system.attempts digests attempts).estop.Live challenge) ∨
      ((¬ ∀ attempt ∈ attempts, ¬ Discards challenge attempt.token attempt.now) ∧
        (system.attempts digests attempts).estop.Lost) := by
  induction attempts generalizing system with
  | nil => exact Or.inl ⟨fun _ member => absurd member List.not_mem_nil, live⟩
  | cons attempt rest ih =>
      have still : (system.attempt digests attempt).estop.engaged = true := by
        by_contra off
        have ended : (system.attempts digests (attempt :: rest)).estop.engaged = false :=
          attempts_off rest (Bool.eq_false_iff.mpr off)
        rw [ended] at failed
        cases failed
      rw [attempt_estop] at still
      rcases live.reset digests _ attempt.token attempt.later
        (inTime attempt List.mem_cons_self) still with ⟨discards, lost⟩ | ⟨keeps, alive⟩
      · rw [← attempt_estop] at lost
        exact Or.inr ⟨fun none => none attempt List.mem_cons_self discards,
          attempts_lost lost rest⟩
      · rw [← attempt_estop] at alive
        rcases ih alive (fun later member => inTime later (List.mem_cons_of_mem _ member)) failed
          with ⟨none, final⟩ | ⟨some, final⟩
        · refine Or.inl ⟨?_, final⟩
          intro other member
          rcases List.mem_cons.mp member with same | later
          · rw [same]
            exact keeps
          · exact none other later
        · exact Or.inr ⟨fun none => some (fun later member =>
            none later (List.mem_cons_of_mem _ member)), final⟩

/-- After failed attempts the minted token of the challenge still clears the
stop in time exactly when none of them discarded the challenge. -/
theorem challenge_survives_iff (digests : Digests) (system : ResetSystem)
    (challenge : EStopChallenge) (live : system.estop.Live challenge)
    (attempts : List ResetAttempt)
    (failed : (system.attempts digests attempts).estop.engaged = true)
    (token : AuthorizationToken) (key : Bytes) (now later : Nat)
    (ordered : ∀ attempt ∈ attempts,
      challenge.timestampNs ≤ attempt.now ∧ attempt.now ≤ now)
    (inTime : challenge.outdated now challenge.timestampNs = false)
    (signed : readToken challenge token = .ok (mint digests key challenge)) :
    ((system.attempts digests attempts).estop.reset digests (some key) token now later).2 =
        .disengaged ↔
      ∀ attempt ∈ attempts, ¬ Discards challenge attempt.token attempt.now := by
  have earlier : ∀ attempt ∈ attempts,
      challenge.outdated attempt.now challenge.timestampNs = false := by
    intro attempt member
    obtain ⟨after, before⟩ := ordered attempt member
    have whole := of_decide_eq_false inTime
    exact decide_eq_false (by omega)
  rcases ResetSystem.attempts_live live attempts earlier failed with ⟨none, alive⟩ | ⟨some, lost⟩
  · exact ⟨fun _ => none, fun _ => alive.reset_mint later inTime signed⟩
  · rw [lost.reset]
    exact ⟨nofun, fun none => absurd none some⟩

end Attempts

section Bench

def resetKey : Bytes := [0x62, 0x65, 0x6e, 0x63, 0x68, 0x2d, 0x6b, 0x65, 0x79]

def benchChallenge (epoch : Nat) (nonce : UInt8) (now : Nat) : EStopChallenge where
  epoch := epoch
  nonce := List.replicate 16 nonce
  timestampNs := now
  maxAgeNs := 30000000000

def firstCode : Bytes :=
  [0x49, 0xe8, 0x3e, 0x8c, 0xab, 0xed, 0xaf, 0x0b, 0x18, 0x0d, 0xb7, 0x93, 0xa6, 0xbb, 0x2f, 0x65,
    0xa2, 0x91, 0xf4, 0x42, 0xbd, 0xbf, 0x22, 0x5a, 0x15, 0xfb, 0x07, 0x83, 0x03, 0x56, 0xae, 0xf1]

def secondCode : Bytes :=
  [0x0e, 0x0a, 0x8d, 0x8b, 0x55, 0xb2, 0xa5, 0xf4, 0x35, 0x60, 0xf7, 0xcd, 0x6f, 0xed, 0xbc, 0x57,
    0xdd, 0x93, 0xdc, 0x95, 0x83, 0xc7, 0x73, 0x14, 0x4a, 0x5e, 0x83, 0xc4, 0xf0, 0x1f, 0x73, 0x72]

def resetDigests : Digests where
  hmacSha256 := fun key message =>
    if key = resetKey ∧ message = (benchChallenge 0 0xA1 1).serializeForSignature then firstCode
    else if key = resetKey ∧ message = (benchChallenge 1 0xB2 3).serializeForSignature then
      secondCode
    else List.replicate 32 0
  sha256 := fun _ => List.replicate 32 0
  hmacLength := by
    intro key message
    split
    · rfl
    · split <;> rfl
  shaLength := blankSha_length

def operatorStop : EStopEvent where
  trigger := .userUiButton
  reason := .reported "operator"

def mintedToken (challenge : EStopChallenge) : AuthorizationToken :=
  .structured (mint resetDigests resetKey challenge)

def clearedTwice : List ResetEvent :=
  [.trigger operatorStop 1 (List.replicate 16 0xA1),
    .reset (mintedToken (benchChallenge 0 0xA1 1)) 2 2, .resetPublish,
    .trigger operatorStop 3 (List.replicate 16 0xB2),
    .reset (mintedToken (benchChallenge 1 0xB2 3)) 4 4, .resetPublish]

def benchSystem : ResetSystem := .new 30000000000 (some resetKey)

theorem clearedTwice_isSome :
    (run (ResetSystem.step resetDigests) benchSystem clearedTwice).isSome = true := by
  decide +kernel

def clearedSystem : ResetSystem :=
  (run (ResetSystem.step resetDigests) benchSystem clearedTwice).get clearedTwice_isSome

theorem reset_authority_twice :
    clearedSystem.accepted.length = 2 ∧
      ResetAuthoritative resetDigests benchSystem clearedSystem clearedTwice :=
  ⟨by decide +kernel, reset_authority resetDigests 30000000000 (some resetKey) clearedSystem
    clearedTwice (Option.some_get clearedTwice_isSome).symm (by decide +kernel)⟩

def engagedSystem : ResetSystem :=
  { benchSystem with estop := benchSystem.estop.trigger operatorStop 1 (List.replicate 16 0xA1) }

theorem engagedSystem_live : engagedSystem.estop.Live (benchChallenge 0 0xA1 1) :=
  ⟨rfl, rfl, rfl, List.not_mem_nil⟩

def unsignedToken (timestampNs : Int) : AuthorizationToken :=
  .structured {
    epoch := 0
    nonce := hexText (List.replicate 16 0xA1)
    timestampNs := timestampNs
    action := estopResetAction
    signature := List.replicate 64 '0' }

def unsignedAttempt (timestampNs : Int) : ResetAttempt where
  reload := none
  token := unsignedToken timestampNs
  now := 2
  later := 2

theorem challenge_survives_iff_unsigned :
    ((engagedSystem.attempts resetDigests [unsignedAttempt 1]).estop.reset resetDigests
        (some resetKey) (mintedToken (benchChallenge 0 0xA1 1)) 3 3).2 = .disengaged ↔
      ∀ attempt ∈ [unsignedAttempt 1],
        ¬ Discards (benchChallenge 0 0xA1 1) attempt.token attempt.now :=
  challenge_survives_iff resetDigests engagedSystem (benchChallenge 0 0xA1 1) engagedSystem_live
    [unsignedAttempt 1] (by decide +kernel) (mintedToken (benchChallenge 0 0xA1 1)) resetKey 3 3
    (by decide) (by decide) (by decide +kernel)

/-- An unsigned token from the future takes the operator's challenge away. -/
theorem unsigned_token_discards_challenge :
    ¬ ∀ (system : ResetSystem) (challenge : EStopChallenge) (attempts : List ResetAttempt)
        (token : AuthorizationToken) (key : Bytes) (now later : Nat),
      system.estop.Live challenge →
      (system.attempts resetDigests attempts).estop.engaged = true →
      (∀ attempt ∈ attempts, challenge.timestampNs ≤ attempt.now ∧ attempt.now ≤ now) →
      challenge.outdated now challenge.timestampNs = false →
      readToken challenge token = .ok (mint resetDigests key challenge) →
        ((system.attempts resetDigests attempts).estop.reset resetDigests (some key) token now
          later).2 = .disengaged := by
  intro survives
  have cleared := survives engagedSystem (benchChallenge 0 0xA1 1) [unsignedAttempt 9]
    (mintedToken (benchChallenge 0 0xA1 1)) resetKey 3 3 engagedSystem_live (by decide +kernel)
    (by decide) (by decide) (by decide +kernel)
  exact absurd cleared (by decide +kernel)

end Bench

end Ucanlab.Safety
