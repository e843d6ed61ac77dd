import Ucanlab.Uds.UdsClient

/-!
What the client makes of whatever is sent on its response identifier while it waits.
-/

namespace Ucanlab.Uds

open Ucanlab UdsServiceBuilder

def Matches (request payload : Bytes) (response : UdsResponse) : Prop :=
  parseResponse payload = .ok response ∧ response.serviceId = request.getD 0 0 ∧
    responseEchoMatches (request.getD 0 0) request response = true

/-- The ECU asks for more time. -/
def UdsResponse.Pending (response : UdsResponse) : Prop :=
  response.isPositive = false ∧ response.nrc = responsePending

def Postpones (request payload : Bytes) : Prop :=
  ∃ response, Matches request payload response ∧ response.Pending

def Answers (request payload : Bytes) (response : UdsResponse) : Prop :=
  Matches request payload response ∧ ¬ response.Pending

instance (response : UdsResponse) : Decidable response.Pending :=
  inferInstanceAs (Decidable (_ ∧ _))

/-- What one payload is to the client. -/
inductive Reading where
  | unreadable (error : ResponseError)
  | foreign
  | postponed
  | answered (response : UdsResponse)
  deriving DecidableEq

def reading (request payload : Bytes) : Reading :=
  match parseResponse payload with
  | .error error => .unreadable error
  | .ok response =>
      if response.serviceId = request.getD 0 0 ∧
          responseEchoMatches (request.getD 0 0) request response = true then
        if response.Pending then .postponed else .answered response
      else .foreign

section Readings

variable {request payload : Bytes}

theorem matches_unique {first second : UdsResponse} (left : Matches request payload first)
    (right : Matches request payload second) : first = second :=
  Except.ok.inj (left.1.symm.trans right.1)

theorem reading_cases (request payload : Bytes) :
    (∃ error, reading request payload = .unreadable error ∧
      parseResponse payload = .error error) ∨
    (reading request payload = .foreign ∧ ∃ response, parseResponse payload = .ok response ∧
      ¬ Matches request payload response) ∨
    (reading request payload = .postponed ∧ Postpones request payload) ∨
    ∃ response, reading request payload = .answered response ∧
      Answers request payload response := by
  unfold reading
  cases parsed : parseResponse payload with
  | error error => exact Or.inl ⟨error, rfl, rfl⟩
  | ok response =>
      dsimp only
      split
      · rename_i matched
        split
        · rename_i pending
          exact Or.inr (Or.inr (Or.inl ⟨rfl, response, ⟨parsed, matched⟩, pending⟩))
        · rename_i final
          exact Or.inr (Or.inr (Or.inr ⟨response, rfl, ⟨parsed, matched⟩, final⟩))
      · rename_i other
        exact Or.inr (Or.inl ⟨rfl, response, rfl, fun matched => other matched.2⟩)

theorem not_answers_of_postpones (postpones : Postpones request payload)
    (response : UdsResponse) : ¬ Answers request payload response := by
  obtain ⟨other, matched, pending⟩ := postpones
  rintro ⟨again, final⟩
  rw [matches_unique again matched] at final
  exact final pending

theorem not_postpones_of_answers {response : UdsResponse}
    (answers : Answers request payload response) : ¬ Postpones request payload :=
  fun postpones => not_answers_of_postpones postpones response answers

theorem reading_postponed_iff :
    reading request payload = .postponed ↔ Postpones request payload := by
  rcases reading_cases request payload with
    ⟨error, read, failed⟩ | ⟨read, response, parsed, other⟩ | ⟨read, postpones⟩ |
    ⟨response, read, answers⟩
  · rw [read]
    refine iff_of_false (fun impossible => nomatch impossible) ?_
    rintro ⟨response, matched, _⟩
    cases failed.symm.trans matched.1
  · rw [read]
    refine iff_of_false (fun impossible => nomatch impossible) ?_
    rintro ⟨again, matched, _⟩
    cases parsed.symm.trans matched.1
    exact other matched
  · exact iff_of_true read postpones
  · rw [read]
    exact iff_of_false (fun impossible => nomatch impossible) (not_postpones_of_answers answers)

instance : Decidable (Postpones request payload) :=
  decidable_of_iff (reading request payload = .postponed) reading_postponed_iff

end Readings

def pendingCount (request : Bytes) (payloads : List Bytes) : Nat :=
  payloads.countP (fun payload => decide (Postpones request payload))

/-- A payload that the client comes to: no final answer stands before it, and the pending
responses before it, with those already spent, are within the budget. -/
def Reached (request : Bytes) (spent : Nat) (payloads : List Bytes) (payload : Bytes) : Prop :=
  ∃ before after, payloads = before ++ payload :: after ∧
    (∀ earlier ∈ before, ∀ response, ¬ Answers request earlier response) ∧
    spent + pendingCount request before ≤ maxNrc78Count

section Reaching

variable {request first payload : Bytes} {rest : List Bytes} {spent : Nat}

theorem pendingCount_postponed (postpones : Postpones request first) (rest : List Bytes) :
    pendingCount request (first :: rest) = pendingCount request rest + 1 :=
  List.countP_cons_of_pos (decide_eq_true postpones)

theorem pendingCount_other (other : ¬ Postpones request first) (rest : List Bytes) :
    pendingCount request (first :: rest) = pendingCount request rest :=
  List.countP_cons_of_neg (by rw [decide_eq_true_eq]; exact other)

theorem reached_first (within : spent ≤ maxNrc78Count) :
    Reached request spent (first :: rest) first :=
  ⟨[], rest, rfl, fun _ absent => absurd absent List.not_mem_nil, within⟩

theorem Reached.past {cost : Nat} (reached : Reached request (spent + cost) rest payload)
    (unanswered : ∀ response, ¬ Answers request first response)
    (costs : ∀ before, pendingCount request (first :: before) = pendingCount request before + cost) :
    Reached request spent (first :: rest) payload := by
  obtain ⟨before, after, rfl, earlier, within⟩ := reached
  refine ⟨first :: before, after, rfl, ?_, ?_⟩
  · intro other member
    rcases List.mem_cons.mp member with rfl | later
    · exact unanswered
    · exact earlier other later
  · rw [costs]
    omega

theorem Reached.cases {cost : Nat} (reached : Reached request spent (first :: rest) payload)
    (costs : ∀ before, pendingCount request (first :: before) = pendingCount request before + cost) :
    payload = first ∨ ((∀ response, ¬ Answers request first response) ∧
      Reached request (spent + cost) rest payload) := by
  obtain ⟨before, after, shape, earlier, within⟩ := reached
  cases before with
  | nil =>
      cases shape
      exact Or.inl rfl
  | cons head before =>
      cases shape
      refine Or.inr ⟨earlier first List.mem_cons_self, before, after, rfl, ?_, ?_⟩
      · intro other member
        exact earlier other (List.mem_cons_of_mem _ member)
      · rw [costs] at within
        omega

def Readable (request : Bytes) (spent : Nat) (payloads : List Bytes) : Prop :=
  ∀ payload, Reached request spent payloads payload →
    ∃ response, parseResponse payload = .ok response

theorem readable_past_iff {cost : Nat} (within : spent ≤ maxNrc78Count)
    (unanswered : ∀ response, ¬ Answers request first response)
    (costs : ∀ before, pendingCount request (first :: before) = pendingCount request before + cost) :
    Readable request spent (first :: rest) ↔
      (∃ response, parseResponse first = .ok response) ∧ Readable request (spent + cost) rest := by
  constructor
  · intro readable
    exact ⟨readable first (reached_first within),
      fun payload reached => readable payload (reached.past unanswered costs)⟩
  · rintro ⟨parsed, readable⟩ payload reached
    rcases reached.cases costs with rfl | ⟨_, later⟩
    · exact parsed
    · exact readable payload later

end Reaching

inductive Timely (client : UdsClient) (request : Bytes) : Nat → List Heard → List Bytes → Prop
  | done (deadline : Nat) : Timely client request deadline [] []
  | postponed {deadline polledNs handledNs : Nat} {payload : Bytes} {heard : List Heard}
      {payloads : List Bytes} (early : polledNs < deadline ∧ polledNs < client.pendingWall)
      (postpones : Postpones request payload) (handled : handledNs < client.pendingWall)
      (others : Timely client request (min (handledNs + p2StarTimeoutNs) client.pendingWall) heard
        payloads) :
      Timely client request deadline ({ polledNs, handledNs, message := .ok payload } :: heard)
        (payload :: payloads)
  | other {deadline polledNs handledNs : Nat} {payload : Bytes} {heard : List Heard}
      {payloads : List Bytes} (early : polledNs < deadline ∧ polledNs < client.pendingWall)
      (other : ¬ Postpones request payload) (others : Timely client request deadline heard payloads) :
      Timely client request deadline ({ polledNs, handledNs, message := .ok payload } :: heard)
        (payload :: payloads)

/-- What the wait makes of the payloads, with some pending responses already spent: the first
final answer, or a timeout or a spent budget where there is none to come to. -/
structure Robust (request : Bytes) (spent : Nat) (payloads : List Bytes)
    (result : Except UdsError UdsResponse) : Prop where
  returns : ∀ response, result = .ok response ↔
    ∃ payload, Reached request spent payloads payload ∧ Answers request payload response
  final : ∀ response, result = .ok response → ¬ response.Pending
  fails : ∀ error, result = .error error →
    (error = .timeout (spent + pendingCount request payloads) ∧
      spent + pendingCount request payloads ≤ maxNrc78Count) ∨
    (error = .pendingBudget maxNrc78Count ∧ maxNrc78Count < spent + pendingCount request payloads)

namespace UdsClient

section Steps

variable {client : UdsClient} {request payload : Bytes} {deadline spent polledNs handledNs : Nat}
  {heard : List Heard}

theorem awaitResponse_early (early : polledNs < deadline ∧ polledNs < client.pendingWall) :
    client.awaitResponse request deadline spent
        ({ polledNs, handledNs, message := .ok payload } :: heard) =
      match reading request payload with
      | .unreadable error => .error (.malformed error)
      | .foreign => client.awaitResponse request deadline spent heard
      | .postponed =>
          if spent < maxNrc78Count ∧ handledNs < client.pendingWall then
            client.awaitResponse request (min (handledNs + p2StarTimeoutNs) client.pendingWall)
              (spent + 1) heard
          else .error (.pendingBudget spent)
      | .answered response => .ok response := by
  rw [awaitResponse, if_neg (by dsimp only; omega)]
  unfold reading
  dsimp only
  cases parseResponse payload with
  | error error => rfl
  | ok response =>
      dsimp only
      by_cases service : response.serviceId = request.getD 0 0
      · rw [if_neg (not_not.mpr service)]
        by_cases echo : responseEchoMatches (request.getD 0 0) request response = true
        · have matched : response.serviceId = request.getD 0 0 ∧
              responseEchoMatches (request.getD 0 0) request response = true := ⟨service, echo⟩
          rw [if_neg (not_not.mpr echo), if_pos matched]
          by_cases pending : response.Pending
          · have waits : ¬ response.isPositive = true ∧ response.nrc = responsePending :=
              ⟨Bool.eq_false_iff.mp pending.1, pending.2⟩
            rw [if_pos waits, if_pos pending]
          · have ends : ¬ (¬ response.isPositive = true ∧ response.nrc = responsePending) :=
              fun waits => pending ⟨Bool.eq_false_iff.mpr waits.1, waits.2⟩
            rw [if_neg ends, if_neg pending]
        · rw [if_pos echo, if_neg (fun both => echo both.2)]
      · rw [if_pos service, if_neg (fun both => service both.1)]

end Steps

end UdsClient

namespace Robust

variable {request first : Bytes} {rest : List Bytes} {spent : Nat}
  {result : Except UdsError UdsResponse}

theorem past_iff {cost : Nat} (unanswered : ∀ response, ¬ Answers request first response)
    (costs : ∀ before, pendingCount request (first :: before) = pendingCount request before + cost) :
    Robust request spent (first :: rest) result ↔ Robust request (spent + cost) rest result := by
  have total : spent + pendingCount request (first :: rest) =
      spent + cost + pendingCount request rest := by
    rw [costs]
    omega
  have same (response : UdsResponse) :
      (∃ payload, Reached request spent (first :: rest) payload ∧
        Answers request payload response) ↔
      ∃ payload, Reached request (spent + cost) rest payload ∧ Answers request payload response := by
    constructor
    · rintro ⟨payload, reached, answers⟩
      rcases reached.cases costs with rfl | ⟨_, later⟩
      · exact absurd answers (unanswered response)
      · exact ⟨payload, later, answers⟩
    · rintro ⟨payload, reached, answers⟩
      exact ⟨payload, reached.past unanswered costs, answers⟩
  constructor
  · intro robust
    exact ⟨fun response => (robust.returns response).trans (same response), robust.final,
      total ▸ robust.fails⟩
  · intro robust
    exact ⟨fun response => (robust.returns response).trans (same response).symm, robust.final,
      total ▸ robust.fails⟩

theorem answered {response : UdsResponse} (within : spent ≤ maxNrc78Count)
    (answers : Answers request first response) :
    Robust request spent (first :: rest) (.ok response) := by
  constructor
  · intro other
    constructor
    · intro same
      cases same
      exact ⟨first, reached_first within, answers⟩
    · rintro ⟨payload, reached, again⟩
      have costs (before : List Bytes) : pendingCount request (first :: before) =
          pendingCount request before + 0 :=
        pendingCount_other (not_postpones_of_answers answers) before
      rcases reached.cases costs with rfl | ⟨unanswered, _⟩
      · rw [matches_unique answers.1 again.1]
      · exact absurd answers (unanswered response)
  · intro other same
    cases same
    exact answers.2
  · intro error impossible
    cases impossible

theorem exhausted (postpones : Postpones request first) :
    Robust request maxNrc78Count (first :: rest) (.error (.pendingBudget maxNrc78Count)) := by
  constructor
  · intro response
    constructor
    · intro impossible
      cases impossible
    · rintro ⟨payload, reached, answers⟩
      rcases reached.cases (fun before => pendingCount_postponed postpones before) with
        rfl | ⟨_, before, after, _, _, within⟩
      · exact absurd answers (not_answers_of_postpones postpones response)
      · omega
  · intro response impossible
    cases impossible
  · intro error same
    cases same
    refine Or.inr ⟨rfl, ?_⟩
    rw [pendingCount_postponed postpones]
    omega

end Robust

theorem awaitResponse_robust_iff {client : UdsClient} {request : Bytes} {deadline spent : Nat}
    {heard : List Heard} {payloads : List Bytes} (within : spent ≤ maxNrc78Count)
    (timely : Timely client request deadline heard payloads) :
    Robust request spent payloads (client.awaitResponse request deadline spent heard) ↔
      Readable request spent payloads := by
  induction timely generalizing spent with
  | done deadline =>
      have nothing (payload : Bytes) : ¬ Reached request spent [] payload := by
        rintro ⟨before, after, shape, _⟩
        cases before with
        | nil => cases shape
        | cons head rest => cases shape
      refine iff_of_true ?_ (fun payload reached => absurd reached (nothing payload))
      constructor
      · intro response
        refine iff_of_false (fun impossible => nomatch impossible) ?_
        rintro ⟨payload, reached, _⟩
        exact nothing payload reached
      · intro response impossible
        cases impossible
      · intro error same
        cases same
        exact Or.inl ⟨rfl, within⟩
  | @postponed deadline polledNs handledNs payload heard payloads early postpones handled others ih =>
      have costs := pendingCount_postponed postpones
      have unanswered := not_answers_of_postpones postpones
      have parsed : ∃ response, parseResponse payload = .ok response := by
        obtain ⟨response, matched, _⟩ := postpones
        exact ⟨response, matched.1⟩
      rw [UdsClient.awaitResponse_early early, reading_postponed_iff.mpr postpones]
      dsimp only
      by_cases more : spent < maxNrc78Count
      · rw [if_pos ⟨more, handled⟩, Robust.past_iff unanswered costs,
          readable_past_iff within unanswered costs, ih more, and_iff_right parsed]
      · have full : spent = maxNrc78Count := Nat.le_antisymm within (Nat.le_of_not_lt more)
        rw [if_neg (fun both => more both.1), full]
        refine iff_of_true (.exhausted postpones) ?_
        intro other reached
        rcases reached.cases costs with rfl | ⟨_, before, after, _, _, late⟩
        · exact parsed
        · omega
  | @other deadline polledNs handledNs payload heard payloads early other others ih =>
      have costs (before : List Bytes) : pendingCount request (payload :: before) =
          pendingCount request before + 0 := pendingCount_other other before
      rw [UdsClient.awaitResponse_early early]
      rcases reading_cases request payload with
        ⟨error, read, failed⟩ | ⟨read, response, parsed, unmatched⟩ | ⟨read, postpones⟩ |
        ⟨response, read, answers⟩
      · -- The error of the parser leaves the loop.
        rw [read]
        constructor
        · intro robust
          rcases robust.fails _ rfl with ⟨impossible, _⟩ | ⟨impossible, _⟩
          · cases impossible
          · cases impossible
        · intro readable
          obtain ⟨response, parsed⟩ := readable payload (reached_first within)
          cases failed.symm.trans parsed
      · have unanswered (again : UdsResponse) : ¬ Answers request payload again := by
          intro answers
          cases parsed.symm.trans answers.1.1
          exact unmatched answers.1
        have parses : ∃ response, parseResponse payload = .ok response := ⟨response, parsed⟩
        rw [read, Robust.past_iff unanswered costs, readable_past_iff within unanswered costs,
          and_iff_right parses]
        exact ih within
      · exact absurd postpones other
      · rw [read]
        refine iff_of_true (.answered within answers) ?_
        intro again reached
        rcases reached.cases costs with rfl | ⟨unanswered, _⟩
        · exact ⟨response, answers.1.1⟩
        · exact absurd answers (unanswered response)

/-- A request goes out and payloads come in before its deadlines: the client returns the first
final answer and skips the rest exactly when every payload up to there can be read. -/
theorem sendAndReceive_robust_iff (client : UdsClient) (sid : UInt8) (parameters : Bytes)
    {reply : Reply} {payloads : List Bytes} (sent : reply.refusal = none)
    (timely : Timely client (sid :: parameters) requestTimeoutNs reply.heard payloads) :
    Robust (sid :: parameters) 0 payloads (client.sendAndReceive (sid :: parameters) reply) ↔
      Readable (sid :: parameters) 0 payloads := by
  unfold UdsClient.sendAndReceive
  rw [sent]
  exact awaitResponse_robust_iff (Nat.zero_le _) timely

/-! ## A read of the vehicle identification -/

def quietClient : UdsClient where
  transport := { txId := 0x7E0, channelId := "uds_ch0" }

def readVin : Bytes := [0x22, 0xF1, 0x90]

/-- The payloads one after the other, a millisecond apart. -/
def heardInTurn : Nat → List Bytes → List Heard
  | _, [] => []
  | now, payload :: rest =>
      { polledNs := now, handledNs := now, message := .ok payload } ::
        heardInTurn (now + 1000000) rest

def postponedAnswer : List Bytes :=
  [[0x62, 0xF1, 0x8C, 0x41], [0x7F, 0x22, 0x78], [0x62, 0xF1, 0x90, 0x57]]

theorem sendAndReceive_robust_postponed :
    Robust readVin 0 postponedAnswer
      (quietClient.sendAndReceive readVin { heard := heardInTurn 0 postponedAnswer }) := by
  refine (sendAndReceive_robust_iff quietClient 0x22 [0xF1, 0x90] rfl ?_).mpr ?_
  · refine .other (by decide) (by decide) (.postponed (by decide) (by decide) (by decide) ?_)
    exact .other (by decide) (by decide) (.done _)
  · rintro payload ⟨before, after, shape, _⟩
    have member : payload ∈ postponedAnswer := by
      rw [shape]
      exact List.mem_append_right _ List.mem_cons_self
    have readable : ∀ payload ∈ postponedAnswer,
        (parseResponse payload).toOption.isSome = true := by decide
    have some := readable payload member
    cases parsed : parseResponse payload with
    | error error =>
        rw [parsed] at some
        cases some
    | ok response => exact ⟨response, rfl⟩

/-- A negative response cut to two bytes ends the wait before the answer behind it. -/
theorem cut_negative_ends_wait :
    ¬ ∀ (client : UdsClient) (sid : UInt8) (parameters : Bytes) (reply : Reply)
      (payloads : List Bytes), reply.refusal = none →
      Timely client (sid :: parameters) requestTimeoutNs reply.heard payloads →
      Robust (sid :: parameters) 0 payloads
        (client.sendAndReceive (sid :: parameters) reply) := by
  intro claimed
  have robust := claimed quietClient 0x22 [0xF1, 0x90]
    { heard := heardInTurn 0 [[0x7F, 0x22], [0x62, 0xF1, 0x90, 0x57]] }
    [[0x7F, 0x22], [0x62, 0xF1, 0x90, 0x57]] rfl
    (.other (by decide) (by decide) (.other (by decide) (by decide) (.done _)))
  rcases robust.fails (.malformed .shortNegative) (by decide) with ⟨impossible, _⟩ | ⟨impossible, _⟩
  · cases impossible
  · cases impossible

end Ucanlab.Uds
