import Ucanlab.Core.CanFrame

/-!
The message of a database that a frame is decoded by. A database is its messages and its index by
frame identifier, which need not cover them; the decoding of a payload is the library's.
-/

namespace Ucanlab.Engine.Decoder

open Ucanlab

/-- A value before its choices are looked up. -/
inductive SignalValue where
  | number (value : Rat)
  | text (value : String)
  deriving DecidableEq

structure SignalDef where
  name : String
  unit : Option String
  length : Nat
  isSigned : Bool
  scale : Rat
  offset : Rat
  deriving DecidableEq

inductive DecodeFailure where
  | handled
  | raised (name : String)
  deriving DecidableEq

structure Message where
  name : String
  frameId : Nat
  isExtendedFrame : Bool
  length : Nat
  signals : List SignalDef
  decode : Bytes → Except DecodeFailure (List (String × SignalValue))

structure Database where
  messages : List Message
  byFrameId : Nat → Option Message

def Message.isExtended (msg : Message) : Bool :=
  msg.isExtendedFrame || (msg.frameId &&& 0x80000000) != 0

def dataPage (frameId : Nat) : Nat := (frameId >>> 24) &&& 0x01

def extendedDataPage (frameId : Nat) : Nat := (frameId >>> 25) &&& 0x01

/-- The message with the identifier itself; it has to share the format and the pages. -/
def Database.exactMatch (db : Database) (arbitrationId : Nat) (isExtended : Bool) : Option Message :=
  let hit :=
    match db.byFrameId arbitrationId with
    | some msg => some msg
    | none =>
        db.messages.find? (fun msg =>
          (msg.frameId &&& 0x1FFFFFFF) == arbitrationId && msg.isExtended == isExtended)
  match hit with
  | none => none
  | some msg =>
      if msg.isExtended ≠ isExtended then none
      else if isExtended = true ∧ (dataPage msg.frameId ≠ dataPage arbitrationId ∨
          extendedDataPage msg.frameId ≠ extendedDataPage arbitrationId) then none
      else some msg

def pgnOf (arbitrationId : Nat) : Nat := (arbitrationId >>> 8) &&& 0x3FFFF

def formatOf (arbitrationId : Nat) : Nat := (pgnOf arbitrationId >>> 8) &&& 0xFF

def maskedPgn (arbitrationId : Nat) : Nat :=
  if formatOf arbitrationId < 240 then pgnOf arbitrationId &&& 0x3FF00 else pgnOf arbitrationId

def sourceOf (arbitrationId : Nat) : Nat := arbitrationId &&& 0xFF

def destinationOf (arbitrationId : Nat) : Nat := (arbitrationId >>> 8) &&& 0xFF

namespace Message

variable (candidate : Message) (arbitrationId : Nat)

def rawId : Nat := candidate.frameId &&& 0x1FFFFFFF

def isCandidate : Bool :=
  candidate.isExtended && maskedPgn candidate.rawId == maskedPgn arbitrationId

def matchesSource : Bool := sourceOf candidate.rawId == sourceOf arbitrationId

def hasWildcardSource : Bool := sourceOf candidate.rawId == 0 || sourceOf candidate.rawId == 255

def matchesDestination : Bool :=
  decide (formatOf arbitrationId < 240) && destinationOf candidate.rawId == destinationOf arbitrationId

def score : Nat :=
  1 + (if candidate.matchesSource arbitrationId then 2
      else if candidate.hasWildcardSource then 1 else 0) +
    (if candidate.matchesDestination arbitrationId then 2 else 0)

end Message

def rank (arbitrationId : Nat) : Option (Nat × Message) → List Message → Option (Nat × Message)
  | best, [] => best
  | best, candidate :: rest =>
      if candidate.isCandidate arbitrationId = false then rank arbitrationId best rest
      else
        match best with
        | none => rank arbitrationId (some (candidate.score arbitrationId, candidate)) rest
        | some leader =>
            if candidate.score arbitrationId > leader.1 then
              rank arbitrationId (some (candidate.score arbitrationId, candidate)) rest
            else rank arbitrationId (some leader) rest

/-- `_lookup_message` behind its cache. -/
def Database.lookup (db : Database) (arbitrationId : Nat) (isExtended : Bool) : Option Message :=
  match db.exactMatch arbitrationId isExtended with
  | some msg => some msg
  | none =>
      if isExtended then (rank arbitrationId none db.messages).map Prod.snd else none

/-- The documented order: the source address first, then the destination address, then the
parameter group alone. -/
def Message.matchClass (candidate : Message) (arbitrationId : Nat) : Nat :=
  if candidate.matchesSource arbitrationId then 3
  else if candidate.matchesDestination arbitrationId then 2 else 1

def RankedBest (db : Database) (arbitrationId : Nat) : Prop :=
  match db.lookup arbitrationId true with
  | none => ∀ candidate ∈ db.messages, candidate.isCandidate arbitrationId = false
  | some chosen =>
      chosen ∈ db.messages ∧ chosen.isCandidate arbitrationId = true ∧
        ∀ candidate ∈ db.messages, candidate.isCandidate arbitrationId = true →
          candidate.matchClass arbitrationId ≤ chosen.matchClass arbitrationId

section Ranking

variable {arbitrationId : Nat} {messages : List Message} {leader chosen : Message}

theorem rank_some {points : Nat} (own : points = leader.score arbitrationId) :
    ∃ chosen, rank arbitrationId (some (points, leader)) messages =
        some (chosen.score arbitrationId, chosen) ∧
      (chosen = leader ∨ chosen ∈ messages ∧ chosen.isCandidate arbitrationId = true) ∧
      points ≤ chosen.score arbitrationId ∧
      (chosen.score arbitrationId = points → chosen = leader) ∧
      ∀ candidate ∈ messages, candidate.isCandidate arbitrationId = true →
        candidate.score arbitrationId ≤ chosen.score arbitrationId := by
  induction messages generalizing points leader with
  | nil =>
      refine ⟨leader, ?_, Or.inl rfl, Nat.le_of_eq own, fun _ => rfl, nofun⟩
      rw [own]
      rfl
  | cons candidate rest ih =>
      unfold rank
      by_cases skipped : candidate.isCandidate arbitrationId = false
      · rw [if_pos skipped]
        obtain ⟨chosen, ranked, origin, above, first, best⟩ := ih own
        refine ⟨chosen, ranked, ?_, above, first, ?_⟩
        · rcases origin with same | ⟨member, matched⟩
          · exact Or.inl same
          · exact Or.inr ⟨List.mem_cons_of_mem _ member, matched⟩
        · intro other member matched
          rcases List.mem_cons.mp member with same | later
          · rw [same, skipped] at matched
            cases matched
          · exact best other later matched
      · have counts := Bool.eq_true_of_not_eq_false skipped
        rw [if_neg skipped]
        dsimp only
        split
        · rename_i better
          obtain ⟨chosen, ranked, origin, above, first, best⟩ :=
            @ih candidate (candidate.score arbitrationId) rfl
          refine ⟨chosen, ranked, ?_, by omega, by omega, ?_⟩
          · rcases origin with same | ⟨member, matched⟩
            · exact Or.inr ⟨same ▸ List.mem_cons_self, same ▸ counts⟩
            · exact Or.inr ⟨List.mem_cons_of_mem _ member, matched⟩
          · intro other member matched
            rcases List.mem_cons.mp member with same | later
            · rw [same]
              exact above
            · exact best other later matched
        · rename_i lower
          obtain ⟨chosen, ranked, origin, above, first, best⟩ := ih own
          refine ⟨chosen, ranked, ?_, above, first, ?_⟩
          · rcases origin with same | ⟨member, matched⟩
            · exact Or.inl same
            · exact Or.inr ⟨List.mem_cons_of_mem _ member, matched⟩
          · intro other member matched
            rcases List.mem_cons.mp member with same | later
            · rw [same]
              omega
            · exact best other later matched

theorem rank_none :
    (rank arbitrationId none messages = none ∧
        ∀ candidate ∈ messages, candidate.isCandidate arbitrationId = false) ∨
      ∃ chosen, rank arbitrationId none messages = some (chosen.score arbitrationId, chosen) ∧
        chosen ∈ messages ∧ chosen.isCandidate arbitrationId = true ∧
        ∀ candidate ∈ messages, candidate.isCandidate arbitrationId = true →
          candidate.score arbitrationId ≤ chosen.score arbitrationId := by
  induction messages with
  | nil => exact Or.inl ⟨rfl, nofun⟩
  | cons candidate rest ih =>
      unfold rank
      by_cases skipped : candidate.isCandidate arbitrationId = false
      · rw [if_pos skipped]
        rcases ih with ⟨empty, none'⟩ | ⟨chosen, ranked, member, matched, best⟩
        · exact Or.inl ⟨empty, List.forall_mem_cons.mpr ⟨skipped, none'⟩⟩
        · refine Or.inr ⟨chosen, ranked, List.mem_cons_of_mem _ member, matched, ?_⟩
          intro other found counts
          rcases List.mem_cons.mp found with same | later
          · rw [same, skipped] at counts
            cases counts
          · exact best other later counts
      · have counts := Bool.eq_true_of_not_eq_false skipped
        rw [if_neg skipped]
        obtain ⟨chosen, ranked, origin, above, _, best⟩ :=
          @rank_some arbitrationId rest candidate (candidate.score arbitrationId) rfl
        refine Or.inr ⟨chosen, ranked, ?_, ?_, ?_⟩
        · rcases origin with same | ⟨member, _⟩
          · exact same ▸ List.mem_cons_self
          · exact List.mem_cons_of_mem _ member
        · rcases origin with same | ⟨_, matched⟩
          · exact same ▸ counts
          · exact matched
        · intro other found matched
          rcases List.mem_cons.mp found with same | later
          · rw [same]
            exact above
          · exact best other later matched

theorem dataPage_masked (frameId : Nat) : dataPage (frameId &&& 0x1FFFFFFF) = dataPage frameId := by
  unfold dataPage
  rw [Nat.shiftRight_and_distrib, Nat.and_assoc]
  rfl

theorem extendedDataPage_masked (frameId : Nat) :
    extendedDataPage (frameId &&& 0x1FFFFFFF) = extendedDataPage frameId := by
  unfold extendedDataPage
  rw [Nat.shiftRight_and_distrib, Nat.and_assoc]
  rfl

theorem exactMatch_none_perm {db : Database} {isExtended : Bool}
    (same : messages.Perm db.messages) (missing : db.exactMatch arbitrationId isExtended = none) :
    ({ db with messages := messages } : Database).exactMatch arbitrationId isExtended = none := by
  unfold Database.exactMatch at missing ⊢
  dsimp only at missing ⊢
  cases indexed : db.byFrameId arbitrationId with
  | some msg =>
      rw [indexed] at missing
      exact missing
  | none =>
      rw [indexed] at missing
      dsimp only at missing ⊢
      cases scanned : db.messages.find? (fun msg =>
          (msg.frameId &&& 0x1FFFFFFF) == arbitrationId && msg.isExtended == isExtended) with
      | some msg =>
          exfalso
          rw [scanned] at missing
          dsimp only at missing
          have hit := List.find?_some scanned
          obtain ⟨own, format⟩ := Bool.and_eq_true_iff.mp hit
          have id := beq_iff_eq.mp own
          rw [if_neg (not_not.mpr (beq_iff_eq.mp format)), if_neg] at missing
          · cases missing
          · rintro ⟨_, page | page⟩
            · rw [← id, dataPage_masked] at page
              exact page rfl
            · rw [← id, extendedDataPage_masked] at page
              exact page rfl
      | none =>
          have elsewhere : messages.find? (fun msg =>
              (msg.frameId &&& 0x1FFFFFFF) == arbitrationId && msg.isExtended == isExtended) = none := by
            rw [List.find?_eq_none] at scanned ⊢
            exact fun msg member => scanned msg (same.mem_iff.mp member)
          rw [elsewhere]

theorem lookup_of_missing {db : Database} (missing : db.exactMatch arbitrationId true = none) :
    db.lookup arbitrationId true = (rank arbitrationId none db.messages).map Prod.snd := by
  unfold Database.lookup
  rw [missing]
  rfl

theorem mem_of_lookup {db : Database} {isExtended : Bool} {msg : Message}
    (found : db.lookup arbitrationId isExtended = some msg) :
    msg ∈ db.messages ∨ db.byFrameId arbitrationId = some msg := by
  unfold Database.lookup at found
  split at found
  · rename_i hit matched
    cases found
    unfold Database.exactMatch at matched
    dsimp only at matched
    split at matched
    · cases matched
    · rename_i hit indexed
      split at matched
      · cases matched
      · split at matched
        · cases matched
        · cases matched
          split at indexed
          · rename_i own known
            cases indexed
            exact Or.inr known
          · exact Or.inl (List.mem_of_find?_eq_some indexed)
  · split at found
    · rcases @rank_none arbitrationId db.messages with ⟨empty, _⟩ | ⟨chosen, won, member, _⟩
      · rw [empty] at found
        cases found
      · rw [won] at found
        cases found
        exact Or.inl member
    · cases found

theorem matchClass_le_of_score
    (agree : (∃ candidate ∈ messages, candidate.isCandidate arbitrationId = true ∧
        candidate.matchesSource arbitrationId = true) →
      (∃ candidate ∈ messages, candidate.isCandidate arbitrationId = true ∧
        candidate.matchesDestination arbitrationId = true) →
      ∃ candidate ∈ messages, candidate.isCandidate arbitrationId = true ∧
        candidate.matchesSource arbitrationId = true ∧
        candidate.matchesDestination arbitrationId = true)
    (member : chosen ∈ messages) (matched : chosen.isCandidate arbitrationId = true)
    (best : ∀ candidate ∈ messages, candidate.isCandidate arbitrationId = true →
      candidate.score arbitrationId ≤ chosen.score arbitrationId)
    {candidate : Message} (found : candidate ∈ messages)
    (counts : candidate.isCandidate arbitrationId = true) :
    candidate.matchClass arbitrationId ≤ chosen.matchClass arbitrationId := by
  have lower := best candidate found counts
  by_cases source : chosen.matchesSource arbitrationId = true
  · unfold Message.matchClass
    rw [if_pos source]
    split
    · exact Nat.le_refl _
    · split
      · exact Nat.le_succ _
      · exact Nat.le_of_lt (Nat.lt_succ_of_lt (Nat.lt_succ_self 1))
  · by_cases exact' : candidate.matchesSource arbitrationId = true
    · exfalso
      by_cases destination : chosen.matchesDestination arbitrationId = true
      · obtain ⟨both, within, fits, first, second⟩ :=
          agree ⟨candidate, found, counts, exact'⟩ ⟨chosen, member, matched, destination⟩
        have above := best both within fits
        unfold Message.score at above
        rw [if_pos first, if_pos second, if_neg source, if_pos destination] at above
        split at above <;> omega
      · unfold Message.score at lower
        rw [if_pos exact', if_neg source, if_neg destination] at lower
        split at lower <;> split at lower <;> omega
    · unfold Message.matchClass
      rw [if_neg source, if_neg exact']
      by_cases destination : candidate.matchesDestination arbitrationId = true
      · by_cases reached : chosen.matchesDestination arbitrationId = true
        · rw [if_pos destination, if_pos reached]
        · exfalso
          unfold Message.score at lower
          rw [if_neg exact', if_pos destination, if_neg source, if_neg reached] at lower
          split at lower <;> split at lower <;> omega
      · rw [if_neg destination]
        split
        · exact Nat.le_succ _
        · exact Nat.le_refl _

end Ranking

/-- In every order of the database the best message is chosen, just when the source and the
destination address are not matched by different candidates only. -/
theorem lookup_ranked_iff (db : Database) (arbitrationId : Nat)
    (missing : db.exactMatch arbitrationId true = none) :
    (∀ messages, messages.Perm db.messages →
        RankedBest { db with messages := messages } arbitrationId) ↔
      ((∃ candidate ∈ db.messages, candidate.isCandidate arbitrationId = true ∧
          candidate.matchesSource arbitrationId = true) →
        (∃ candidate ∈ db.messages, candidate.isCandidate arbitrationId = true ∧
          candidate.matchesDestination arbitrationId = true) →
        ∃ candidate ∈ db.messages, candidate.isCandidate arbitrationId = true ∧
          candidate.matchesSource arbitrationId = true ∧
          candidate.matchesDestination arbitrationId = true) := by
  constructor
  · rintro ranked ⟨sourced, member, counts, source⟩ ⟨addressed, found, matched, destination⟩
    by_contra none'
    have apart (candidate : Message) (within : candidate ∈ db.messages)
        (fits : candidate.isCandidate arbitrationId = true)
        (first : candidate.matchesSource arbitrationId = true) :
        candidate.matchesDestination arbitrationId ≠ true := fun second =>
      none' ⟨candidate, within, fits, first, second⟩
    have unsourced : addressed.matchesSource arbitrationId ≠ true := fun first =>
      apart addressed found matched first destination
    -- the candidate of the destination goes first, so that a tie is won by it
    obtain ⟨front, back, split⟩ := List.append_of_mem found
    have reordered : (addressed :: (front ++ back)).Perm db.messages := by
      rw [split]
      exact List.perm_middle.symm
    have best := ranked _ reordered
    obtain ⟨chosen, won, origin, above, first, _⟩ :=
      @rank_some arbitrationId (front ++ back) addressed (addressed.score arbitrationId) rfl
    have started : rank arbitrationId none (addressed :: (front ++ back)) =
        some (chosen.score arbitrationId, chosen) := by
      unfold rank
      rw [if_neg (by rw [matched]; decide)]
      exact won
    unfold RankedBest at best
    rw [lookup_of_missing (exactMatch_none_perm reordered missing), started] at best
    obtain ⟨within, fits, highest⟩ := best
    have class3 := highest sourced (reordered.mem_iff.mpr member) counts
    unfold Message.matchClass at class3
    rw [if_pos source] at class3
    have exact' : chosen.matchesSource arbitrationId = true := by
      by_contra other
      rw [if_neg other] at class3
      split at class3 <;> omega
    have score3 : chosen.score arbitrationId = 3 := by
      unfold Message.score
      rw [if_pos exact', if_neg (apart chosen (reordered.mem_iff.mp within) fits exact')]
    have points : 3 ≤ addressed.score arbitrationId := by
      unfold Message.score
      rw [if_neg unsourced, if_pos destination]
      omega
    exact unsourced (first (by omega) ▸ exact')
  · intro agree messages same
    unfold RankedBest
    rw [lookup_of_missing (exactMatch_none_perm same missing)]
    dsimp only
    rcases @rank_none arbitrationId messages with ⟨empty, none'⟩ | ⟨chosen, won, member, matched, best⟩
    · rw [empty]
      exact none'
    · rw [won]
      refine ⟨member, matched, fun candidate found counts => ?_⟩
      refine matchClass_le_of_score ?_ member matched best found counts
      rintro ⟨sourced, within, rest⟩ ⟨addressed, inside, others⟩
      obtain ⟨both, contained, fits⟩ := agree ⟨sourced, same.mem_iff.mp within, rest⟩
        ⟨addressed, same.mem_iff.mp inside, others⟩
      exact ⟨both, same.mem_iff.mpr contained, fits⟩

def extendedMessage (name : String) (frameId : Nat) : Message where
  name := name
  frameId := frameId
  isExtendedFrame := true
  length := 8
  signals := []
  decode := fun _ => .ok []

def indexed (messages : List Message) : Database where
  messages := messages
  byFrameId := fun frameId => messages.find? (fun msg => msg.frameId == frameId)

def peers : Database :=
  indexed [extendedMessage "Engine" 0x18EF1021, extendedMessage "Gateway" 0x18EF11FF,
    extendedMessage "Pump" 0x18EF1122]

def rivals : Database :=
  indexed [extendedMessage "Engine" 0x18EF0021, extendedMessage "Any" 0x18EF10FF]

theorem lookup_ranked_peers : RankedBest peers 0x18EF1033 := by
  have apart : ¬ ∃ candidate ∈ peers.messages, candidate.isCandidate 0x18EF1033 = true ∧
      candidate.matchesSource 0x18EF1033 = true := by
    decide
  exact (lookup_ranked_iff peers 0x18EF1033 rfl).mpr (fun sourced => absurd sourced apart)
    peers.messages (.refl _)

theorem wildcard_outranks_source :
    rivals.exactMatch 0x18EF1021 true = none ∧
      (rivals.lookup 0x18EF1021 true).map Message.name = some "Any" ∧
      ¬ RankedBest rivals 0x18EF1021 := by
  refine ⟨rfl, by decide, ?_⟩
  intro best
  have class3 := best.2.2 (extendedMessage "Engine" 0x18EF0021) List.mem_cons_self (by decide)
  exact absurd class3 (by decide)

end Ucanlab.Engine.Decoder
