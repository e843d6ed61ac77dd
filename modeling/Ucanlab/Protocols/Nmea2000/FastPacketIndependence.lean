import Ucanlab.Protocols.Nmea2000.FastPacketTable

/-!
Transfers side by side: what the decoder does with the frames of one key, whatever
it hears of others. The sessions of a key are its own; the restart gate counts by
source, group and sequence number and is shared by keys that differ in
destination or channel.
-/

namespace Ucanlab.Nmea2000

open Ucanlab J1939 EventRun

def ofKey (key : FastPacketKey) (arrival : Arrival) : Bool :=
  decide (admitted arrival.frame = some key)

/-- An index-0 frame finds room beside the other sessions, in the table and in
the share of its source. -/
def withinLimits (decoder : FastPacketDecoder) (arrival : Arrival) : Bool :=
  match admitted arrival.frame with
  | none => true
  | some key =>
      let others := (cleanExpired decoder arrival.now).sessions.erase key
      decide (frameIndex arrival.frame ≠ 0 ∨
        (others.length < maxConcurrent ∧ sourceSessions others key.sourceAddress < maxPerSa))

def restarts (decoder : FastPacketDecoder) (key : FastPacketKey) (arrival : Arrival) : Bool :=
  ofKey key arrival && decide (frameIndex arrival.frame = 0) &&
    (cleanExpired decoder arrival.now).sessions.contains key

/-- The marks fit their table, and a restart that counts on the mark of the key is
a restart of the key. -/
def ownMark (key : FastPacketKey) (decoder : FastPacketDecoder) (arrival : Arrival) : Bool :=
  decide ((decoder.restartMarks.filter (fun entry => !staleMark arrival.now entry.2)).length ≤
      maxConcurrent * 2) &&
    match admitted arrival.frame with
    | none => true
    | some other =>
        decide (other = key ∨ other.restartKey ≠ key.restartKey) || !restarts decoder other arrival

def GateApart (key : FastPacketKey) (arrivals : List Arrival) : Prop :=
  Meets receive (fun used arrival => restarts used.decoder key arrival = false) fresh arrivals ∨
    Meets receive (fun used arrival => ownMark key used.decoder arrival = true) fresh arrivals

/-- What the decoder keeps for a key. -/
structure Lane where
  session : Option FastPacketSession
  mark : Option RestartMark

def lane (key : FastPacketKey) (decoder : FastPacketDecoder) : Lane where
  session := decoder.sessions.get? key
  mark := decoder.restartMarks.get? key.restartKey

def laneOpen (key : FastPacketKey) (arrival : Arrival) : Option FastPacketSession :=
  if wellSized arrival.frame then some (freshSession key arrival) else none

def laneStep (key : FastPacketKey) (lane : Lane) (arrival : Arrival) :
    Lane × Option N2KCompletedMessage :=
  if frameIndex arrival.frame = 0 then
    match lane.session with
    | none => ({ lane with session := laneOpen key arrival }, none)
    | some _ =>
        match nextMark arrival.now lane.mark with
        | none => (lane, none)
        | some mark => (⟨laneOpen key arrival, some mark⟩, none)
  else
    match lane.session with
    | none => (lane, none)
    | some session =>
        ({ lane with session := (continueSession session key.pgn arrival).1 },
          (continueSession session key.pgn arrival).2)

section Lanes

variable {key other : FastPacketKey} {decoder : FastPacketDecoder} {arrival : Arrival}
  {sessions : Dict FastPacketKey FastPacketSession}

/-- The limits, spelled out for the table behind the sweep. -/
def Roomy (sessions : Dict FastPacketKey FastPacketSession) (key : FastPacketKey) : Prop :=
  (sessions.erase key).length < maxConcurrent ∧
    sourceSessions (sessions.erase key) key.sourceAddress < maxPerSa

theorem openSession_roomy (absent : sessions.get? key = none) (roomy : Roomy sessions key) :
    openSession sessions key arrival =
      if wellSized arrival.frame then sessions.set key (freshSession key arrival) else sessions := by
  obtain ⟨capped, quota⟩ := roomy
  rw [Dict.erase_of_absent (Dict.get?_eq_none_iff.mp absent)] at capped quota
  have room : makeRoom sessions key = some sessions := by
    unfold makeRoom Dict.contains
    rw [absent, if_neg (by simp), if_neg (Nat.not_le_of_lt quota), if_neg (Nat.not_le_of_lt capped)]
  unfold openSession
  rw [room]
  by_cases sized : wellSized arrival.frame = true
  · rw [if_neg (not_not.mpr sized), if_pos sized]
  · rw [if_pos sized, if_neg sized]

theorem get?_openSession_self (absent : sessions.get? key = none) (roomy : Roomy sessions key) :
    (openSession sessions key arrival).get? key = laneOpen key arrival := by
  rw [openSession_roomy absent roomy]
  unfold laneOpen
  split
  · exact Dict.get?_set_self sessions key _
  · exact absent

theorem get?_openSession_other (absent : sessions.get? key = none) (roomy : Roomy sessions key)
    (apart : other ≠ key) :
    (openSession sessions key arrival).get? other = sessions.get? other := by
  rw [openSession_roomy absent roomy]
  split
  · exact Dict.get?_set_ne sessions apart _
  · rfl

theorem Roomy.erased (roomy : Roomy sessions key) : Roomy (sessions.erase key) key := by
  unfold Roomy at roomy ⊢
  rw [Dict.erase_of_absent (Dict.get?_eq_none_iff.mp (Dict.get?_erase_self sessions key))]
  exact roomy

theorem lane_handleLocked (roomy : frameIndex arrival.frame = 0 → Roomy decoder.sessions key) :
    (lane key (handleLocked decoder key arrival).1, (handleLocked decoder key arrival).2) =
      laneStep key (lane key decoder) arrival := by
  unfold handleLocked laneStep
  split
  · rename_i index
    have room := roomy index
    unfold handleFirst
    cases present : decoder.sessions.get? key with
    | none =>
        have empty : (lane key decoder).session = none := present
        rw [empty]
        dsimp only
        unfold lane
        rw [get?_openSession_self present room]
    | some session =>
        have busy : (lane key decoder).session = some session := present
        rw [busy]
        unfold checkRestartRateLimit
        dsimp only
        have marked : (lane key decoder).mark = decoder.restartMarks.get? key.restartKey := rfl
        rw [marked]
        cases passed : nextMark arrival.now (decoder.restartMarks.get? key.restartKey) with
        | none => rfl
        | some mark =>
            unfold lane
            dsimp only [Option.map_some]
            rw [get?_openSession_self (Dict.get?_erase_self decoder.sessions key) room.erased,
              Dict.get?_set_self]
  · unfold handleConsecutive
    cases present : decoder.sessions.get? key with
    | none =>
        have empty : (lane key decoder).session = none := present
        rw [empty]
    | some session =>
        have busy : (lane key decoder).session = some session := present
        rw [busy]
        dsimp only
        rcases continued : continueSession session key.pgn arrival with ⟨_ | extended, message⟩
        · unfold lane
          dsimp only
          rw [Dict.get?_erase_self]
        · unfold lane
          dsimp only
          rw [Dict.get?_set_self]

/-- Where nothing is restarted, the mark is not read. -/
theorem laneStep_unmarked {left right : Lane} (same : left.session = right.session)
    (unrestarted : frameIndex arrival.frame = 0 → left.session = none) :
    (laneStep key left arrival).1.session = (laneStep key right arrival).1.session ∧
      (laneStep key left arrival).2 = (laneStep key right arrival).2 := by
  unfold laneStep
  split
  · rename_i index
    have empty := unrestarted index
    have alsoEmpty := same.symm.trans empty
    rw [empty, alsoEmpty]
    exact ⟨rfl, rfl⟩
  · rw [← same]
    cases left.session with
    | none => exact ⟨same, rfl⟩
    | some session => exact ⟨rfl, rfl⟩

theorem lane_handleLocked_other (roomy : frameIndex arrival.frame = 0 → Roomy decoder.sessions other)
    (apart : key ≠ other) :
    (handleLocked decoder other arrival).1.sessions.get? key = decoder.sessions.get? key := by
  unfold handleLocked
  split
  · rename_i index
    have room := roomy index
    unfold handleFirst
    split
    · rename_i absent
      exact get?_openSession_other absent room apart
    · split
      · rfl
      · have vacant := Dict.get?_erase_self decoder.sessions other
        exact (get?_openSession_other vacant room.erased apart).trans
          (Dict.get?_erase_ne decoder.sessions apart)
  · exact sessions_of_handleConsecutive_other apart

theorem marks_handleLocked {gate : RestartKey}
    (own : gate ≠ other.restartKey ∨
      ¬ (frameIndex arrival.frame = 0 ∧ decoder.sessions.contains other = true)) :
    (handleLocked decoder other arrival).1.restartMarks.get? gate =
      decoder.restartMarks.get? gate := by
  unfold handleLocked
  split
  · rename_i index
    unfold handleFirst
    split
    · rfl
    · rename_i present
      have apart : gate ≠ other.restartKey := by
        refine own.resolve_right (not_not.mpr ⟨index, ?_⟩)
        unfold Dict.contains
        rw [present]
        rfl
      split
      · rfl
      · rename_i marks passed
        obtain ⟨mark, _, stored⟩ := Option.map_eq_some_iff.mp passed
        rw [← stored]
        exact Dict.get?_set_ne decoder.restartMarks apart mark
  · unfold handleConsecutive
    split
    · rfl
    · split <;> rfl

end Lanes

section Apart

variable {key : FastPacketKey} {left right next : FastPacketUse} {arrival : Arrival}
  {arrivals : List Arrival} {counted : Prop} {now later : Nat}

theorem filter_expired (session : Option FastPacketSession) (order : now ≤ later) :
    (session.filter (fun kept => !expired now kept)).filter (fun kept => !expired later kept) =
      session.filter (fun kept => !expired later kept) := by
  rw [Option.filter_filter]
  congr 1
  funext kept
  unfold expired
  by_cases old : now - kept.lastActivityTime > timeoutNs
  · have older : later - kept.lastActivityTime > timeoutNs := by omega
    simp [older]
  · simp [old]

theorem filter_staleMark (mark : Option RestartMark) (order : now ≤ later) :
    (mark.filter (fun kept => !staleMark now kept)).filter (fun kept => !staleMark later kept) =
      mark.filter (fun kept => !staleMark later kept) := by
  rw [Option.filter_filter]
  congr 1
  funext kept
  unfold staleMark
  by_cases old : now - kept.1 > max timeoutNs restartMarkAgeNs
  · have older : later - kept.1 > max timeoutNs restartMarkAgeNs := by omega
    simp [older]
  · simp [old]

/-- The decoder on all frames and the one on the frames of the key: the same for
the key as far as later sweeps let it see, and nothing else in the latter. -/
structure Alike (key : FastPacketKey) (counted : Prop) (left right : FastPacketUse) : Prop where
  clock : right.clock ≤ left.clock
  sessions : ∀ later, left.clock ≤ later →
    (left.decoder.sessions.get? key).filter (fun kept => !expired later kept) =
      (right.decoder.sessions.get? key).filter (fun kept => !expired later kept)
  marks : counted → ∀ later, left.clock ≤ later →
    (left.decoder.restartMarks.get? key.restartKey).filter (fun kept => !staleMark later kept) =
      (right.decoder.restartMarks.get? key.restartKey).filter (fun kept => !staleMark later kept)
  completed : left.completed.filter (fun entry => decide (entry.1 = key)) = right.completed
  tidy : right.decoder.Tidy
  onlySession : ∀ other ∈ right.decoder.sessions.keys, other = key
  onlyMark : ∀ other ∈ right.decoder.restartMarks.keys, other = key.restartKey

theorem get?_cleanExpired (tidy : left.decoder.Tidy) :
    (cleanExpired left.decoder now).sessions.get? key =
      (left.decoder.sessions.get? key).filter (fun kept => !expired now kept) :=
  Dict.get?_filter_value tidy.bounded.distinct (fun kept => !expired now kept) key

theorem marks_cleanExpired (tidy : left.decoder.Tidy) (gate : RestartKey)
    (fits : (left.decoder.restartMarks.filter (fun entry => !staleMark now entry.2)).length ≤
      maxConcurrent * 2) :
    (cleanExpired left.decoder now).restartMarks.get? gate =
      (left.decoder.restartMarks.get? gate).filter (fun kept => !staleMark now kept) := by
  have whole : (cleanExpired left.decoder now).restartMarks =
      left.decoder.restartMarks.filter (fun entry => !staleMark now entry.2) :=
    if_neg (Nat.not_lt_of_le fits)
  rw [whole]
  exact Dict.get?_filter_value tidy.marks (fun kept => !staleMark now kept) gate

/-- What a step of the whole run must meet for the key to stay alike. -/
structure Undisturbed (key : FastPacketKey) (counted : Prop) (left : FastPacketUse)
    (arrival : Arrival) : Prop where
  tidy : left.decoder.Tidy
  limits : withinLimits left.decoder arrival = true
  own : counted → ownMark key left.decoder arrival = true
  unrestarted : ¬ counted → restarts left.decoder key arrival = false

theorem Undisturbed.roomy {other : FastPacketKey} (calm : Undisturbed key counted left arrival)
    (admits : admitted arrival.frame = some other) (index : frameIndex arrival.frame = 0) :
    Roomy (cleanExpired left.decoder arrival.now).sessions other := by
  have limits := calm.limits
  unfold withinLimits at limits
  rw [admits] at limits
  exact (of_decide_eq_true limits).resolve_left (not_not.mpr index)

theorem Undisturbed.fits (calm : Undisturbed key counted left arrival) (counts : counted) :
    (left.decoder.restartMarks.filter (fun entry => !staleMark arrival.now entry.2)).length ≤
      maxConcurrent * 2 :=
  of_decide_eq_true ((Bool.and_eq_true _ _).mp (calm.own counts)).1

theorem Undisturbed.otherMark {other : FastPacketKey}
    (calm : Undisturbed key counted left arrival) (counts : counted)
    (admits : admitted arrival.frame = some other) (apart : key ≠ other) :
    key.restartKey ≠ other.restartKey ∨
      ¬ (frameIndex arrival.frame = 0 ∧
        (cleanExpired left.decoder arrival.now).sessions.contains other = true) := by
  have own := ((Bool.and_eq_true _ _).mp (calm.own counts)).2
  rw [admits] at own
  dsimp only at own
  rcases Bool.or_eq_true_iff.mp own with elsewhere | still
  · rcases of_decide_eq_true elsewhere with same | ne
    · exact absurd same.symm apart
    · exact Or.inl ne.symm
  · right
    rintro ⟨index, present⟩
    unfold restarts ofKey at still
    rw [admits, index, present] at still
    simp at still

theorem Alike.skip (alike : Alike key counted left right)
    (calm : Undisturbed key counted left arrival) (foreign : ofKey key arrival = false)
    (received : receive left arrival = some next) : Alike key counted next right := by
  obtain ⟨order, stepped, ticked, logged⟩ := receive_some received
  have apart : admitted arrival.frame ≠ some key := of_decide_eq_false foreign
  have onward {later : Nat} (after : next.clock ≤ later) : left.clock ≤ later := by omega
  have upTo {later : Nat} (after : next.clock ≤ later) : arrival.now ≤ later := by omega
  cases admits : admitted arrival.frame with
  | none =>
      have handled : handleRxFrame left.decoder arrival = (left.decoder, none) := by
        unfold handleRxFrame
        rw [admits]
      rw [handled] at stepped logged
      dsimp only at stepped logged
      refine ⟨?_, ?_, ?_, ?_, alike.tidy, alike.onlySession, alike.onlyMark⟩
      · rw [ticked]
        exact Nat.le_trans alike.clock order
      · intro later after
        rw [stepped]
        exact alike.sessions later (onward after)
      · intro counts later after
        rw [stepped]
        exact alike.marks counts later (onward after)
      · rw [logged, Option.toList_none, List.map_nil, List.append_nil]
        exact alike.completed
  | some other =>
      have ne : key ≠ other := fun same => apart (same ▸ admits)
      have handled : handleRxFrame left.decoder arrival =
          handleLocked (cleanExpired left.decoder arrival.now) other arrival := by
        unfold handleRxFrame
        rw [admits]
      rw [handled] at stepped logged
      refine ⟨?_, ?_, ?_, ?_, alike.tidy, alike.onlySession, alike.onlyMark⟩
      · rw [ticked]
        exact Nat.le_trans alike.clock order
      · intro later after
        rw [stepped, lane_handleLocked_other (fun index => calm.roomy admits index) ne,
          get?_cleanExpired calm.tidy, filter_expired _ (upTo after)]
        exact alike.sessions later (onward after)
      · intro counts later after
        rw [stepped, marks_handleLocked (calm.otherMark counts admits ne),
          marks_cleanExpired calm.tidy _ (calm.fits counts), filter_staleMark _ (upTo after)]
        exact alike.marks counts later (onward after)
      · rw [logged, List.filter_append, alike.completed, ← admitted_key admits]
        have none' : ((handleLocked (cleanExpired left.decoder arrival.now) other arrival).2.toList.map
            (fun message => (other, message))).filter (fun entry => decide (entry.1 = key)) = [] := by
          rw [List.filter_eq_nil_iff]
          intro entry member
          obtain ⟨message, _, same⟩ := List.mem_map.mp member
          rw [← same]
          simpa using ne.symm
        rw [none', List.append_nil]

theorem Alike.rightRoomy (alike : Alike key counted left right) (now : Nat) :
    Roomy (cleanExpired right.decoder now).sessions key := by
  have empty : (cleanExpired right.decoder now).sessions.erase key = [] := by
    refine List.eq_nil_iff_forall_not_mem.mpr fun entry member => ?_
    obtain ⟨swept, apart⟩ := Dict.mem_erase.mp member
    exact apart (alike.onlySession entry.1 (Dict.mem_keys (List.mem_of_mem_filter swept)))
  unfold Roomy
  rw [empty]
  refine ⟨by decide, ?_⟩
  change 0 < maxPerSa
  decide

theorem Alike.rightFits (alike : Alike key counted left right) (now : Nat) :
    (right.decoder.restartMarks.filter (fun entry => !staleMark now entry.2)).length ≤
      maxConcurrent * 2 := by
  have within : right.decoder.restartMarks.keys ⊆ [key.restartKey] :=
    fun other member => List.mem_singleton.mpr (alike.onlyMark other member)
  have one := (List.subperm_of_subset alike.tidy.marks within).length_le
  unfold Dict.keys at one
  rw [List.length_map, List.length_singleton] at one
  have fewer : (right.decoder.restartMarks.filter
      (fun entry => !staleMark now entry.2)).length ≤ right.decoder.restartMarks.length :=
    List.length_filter_le _ _
  have room : 1 ≤ maxConcurrent * 2 := by decide
  omega

theorem Alike.handled (alike : Alike key counted left right)
    (calm : Undisturbed key counted left arrival) (admits : admitted arrival.frame = some key)
    (order : left.clock ≤ arrival.now) :
    (handleRxFrame left.decoder arrival).1.sessions.get? key =
        (handleRxFrame right.decoder arrival).1.sessions.get? key ∧
      (handleRxFrame left.decoder arrival).2 = (handleRxFrame right.decoder arrival).2 ∧
      (counted → (handleRxFrame left.decoder arrival).1.restartMarks.get? key.restartKey =
        (handleRxFrame right.decoder arrival).1.restartMarks.get? key.restartKey) := by
  have unfolded (decoder : FastPacketDecoder) : handleRxFrame decoder arrival =
      handleLocked (cleanExpired decoder arrival.now) key arrival := by
    unfold handleRxFrame
    rw [admits]
  have sessions : (lane key (cleanExpired left.decoder arrival.now)).session =
      (lane key (cleanExpired right.decoder arrival.now)).session := by
    unfold lane
    dsimp only
    rw [get?_cleanExpired calm.tidy, get?_cleanExpired alike.tidy]
    exact alike.sessions arrival.now order
  have leftLane := lane_handleLocked (calm.roomy admits)
  have rightLane := @lane_handleLocked key (cleanExpired right.decoder arrival.now) arrival
    (fun _ => alike.rightRoomy arrival.now)
  rw [unfolded, unfolded]
  by_cases counts : counted
  · have marks : (lane key (cleanExpired left.decoder arrival.now)).mark =
        (lane key (cleanExpired right.decoder arrival.now)).mark := by
      unfold lane
      dsimp only
      rw [marks_cleanExpired calm.tidy _ (calm.fits counts),
        marks_cleanExpired alike.tidy _ (alike.rightFits arrival.now)]
      exact alike.marks counts arrival.now order
    have same : lane key (cleanExpired left.decoder arrival.now) =
        lane key (cleanExpired right.decoder arrival.now) := by
      rw [Lane.mk.injEq]
      exact ⟨sessions, marks⟩
    rw [same, ← rightLane] at leftLane
    obtain ⟨lanes, messages⟩ := Prod.mk.injEq .. ▸ leftLane
    exact ⟨congrArg Lane.session lanes, messages, fun _ => congrArg Lane.mark lanes⟩
  · have unrestarted : frameIndex arrival.frame = 0 →
        (lane key (cleanExpired left.decoder arrival.now)).session = none := by
      intro index
      have still := calm.unrestarted counts
      unfold restarts ofKey Dict.contains at still
      rw [admits, index] at still
      simpa [lane] using still
    obtain ⟨session, message⟩ := @laneStep_unmarked key arrival _ _ sessions unrestarted
    rw [← leftLane, ← rightLane] at session message
    exact ⟨session, message, fun counts' => absurd counts' counts⟩

theorem Alike.onlyOwn (alike : Alike key counted left right)
    (admits : admitted arrival.frame = some key) :
    (∀ other ∈ (handleRxFrame right.decoder arrival).1.sessions.keys, other = key) ∧
      ∀ gate ∈ (handleRxFrame right.decoder arrival).1.restartMarks.keys,
        gate = key.restartKey := by
  constructor
  · intro other member
    by_contra apart
    cases found : (handleRxFrame right.decoder arrival).1.sessions.get? other with
    | none => exact Dict.get?_eq_none_iff.mp found member
    | some session =>
        have foreign : admitted arrival.frame ≠ some other := by
          rw [admits]
          exact fun same => apart (Option.some.inj same).symm
        have before := session_of_other alike.tidy foreign found
        exact apart (alike.onlySession other (Dict.mem_keys (Dict.mem_of_get? before)))
  · intro gate member
    by_contra apart
    have unfolded : handleRxFrame right.decoder arrival =
        handleLocked (cleanExpired right.decoder arrival.now) key arrival := by
      unfold handleRxFrame
      rw [admits]
    have kept : (handleRxFrame right.decoder arrival).1.restartMarks.get? gate =
        (cleanExpired right.decoder arrival.now).restartMarks.get? gate := by
      rw [unfolded]
      exact marks_handleLocked (Or.inl apart)
    refine Dict.get?_eq_none_iff.mp (kept.trans (Dict.get?_eq_none_iff.mpr ?_)) member
    intro present
    have shorter := (cleanExpired_marks_sublist right.decoder arrival.now).map Prod.fst
    exact apart (alike.onlyMark gate (shorter.subset present))

theorem Alike.step (alike : Alike key counted left right)
    (calm : Undisturbed key counted left arrival) (own : ofKey key arrival = true)
    (received : receive left arrival = some next) :
    ∃ next', receive right arrival = some next' ∧ Alike key counted next next' := by
  obtain ⟨order, stepped, ticked, logged⟩ := receive_some received
  have admits : admitted arrival.frame = some key := of_decide_eq_true own
  obtain ⟨session, message, mark⟩ := alike.handled calm admits order
  obtain ⟨onlySession, onlyMark⟩ := alike.onlyOwn admits
  have enabled : ¬ arrival.now < right.clock :=
    Nat.not_lt_of_le (Nat.le_trans alike.clock order)
  refine ⟨_, if_neg enabled, ?_⟩
  refine ⟨Nat.le_of_eq ticked.symm, ?_, ?_, ?_, alike.tidy.handleRxFrame arrival,
    onlySession, onlyMark⟩
  · intro later _
    rw [stepped, session]
  · intro counts later _
    rw [stepped, mark counts]
  · rw [logged, List.filter_append, alike.completed, message, ← admitted_key admits]
    congr 1
    refine List.filter_eq_self.mpr fun entry member => ?_
    obtain ⟨_, _, same⟩ := List.mem_map.mp member
    rw [← same]
    exact decide_eq_true rfl

end Apart

section Independence

variable {arrivals : List Arrival} {used : FastPacketUse}

def messagesOf (key : FastPacketKey) (used : FastPacketUse) : List N2KCompletedMessage :=
  (used.completed.filter (fun entry => decide (entry.1 = key))).map Prod.snd

theorem alone_of_run (ran : run receive fresh arrivals = some used) (key : FastPacketKey)
    (limits : Meets receive (fun used arrival => withinLimits used.decoder arrival = true)
      fresh arrivals) (apart : GateApart key arrivals) :
    ∃ alone, run receive fresh (arrivals.filter (ofKey key)) = some alone ∧
      used.completed.filter (fun entry => decide (entry.1 = key)) = alone.completed := by
  obtain ⟨counted, calm⟩ : ∃ counted : Prop,
      Meets receive (Undisturbed key counted) fresh arrivals := by
    have tidied : Meets receive (fun before arrival => before.decoder.Tidy ∧
        withinLimits before.decoder arrival = true) fresh arrivals := by
      refine limits.with_invariant ?_ tidy_fresh
      intro state arrival next tidy _ received
      rw [(receive_some received).2.1]
      exact tidy.handleRxFrame arrival
    rcases apart with unrestarted | owned
    · refine ⟨False, (tidied.and unrestarted).imp fun state arrival met => ?_⟩
      exact ⟨met.1.1, met.1.2, False.elim, fun _ => met.2⟩
    · refine ⟨True, (tidied.and owned).imp fun state arrival met => ?_⟩
      exact ⟨met.1.1, met.1.2, fun _ => met.2, fun absurdity => absurd trivial absurdity⟩
  have start : Alike key counted fresh fresh := by
    refine ⟨Nat.le_refl _, fun _ _ => rfl, fun _ _ _ => rfl, rfl, tidy_fresh, ?_, ?_⟩
    · exact fun other member => absurd member List.not_mem_nil
    · exact fun other member => absurd member List.not_mem_nil
  have skipped (left right : FastPacketUse) (arrival : Arrival) (next : FastPacketUse)
      (alike : Alike key counted left right) (calm : Undisturbed key counted left arrival)
      (foreign : (!ofKey key arrival) = true) (received : receive left arrival = some next) :
      Alike key counted next right :=
    alike.skip calm (by simpa using foreign) received
  have matched (left right : FastPacketUse) (arrival : Arrival) (next : FastPacketUse)
      (alike : Alike key counted left right) (calm : Undisturbed key counted left arrival)
      (own : (!ofKey key arrival) = false) (received : receive left arrival = some next) :
      ∃ next', receive right arrival = some next' ∧ Alike key counted next next' :=
    alike.step calm (by simpa using own) received
  obtain ⟨alone, reached, alike⟩ := run_filter_alike_of_meets (Alike key counted)
    (fun arrival => !ofKey key arrival) skipped matched start calm ran
  refine ⟨alone, ?_, alike.completed⟩
  simpa using reached

/-- However the frames of the keys are interleaved: the table keeps its bounds, and
the frames of a key complete the messages they complete alone, as long as there
is room for every session and the restarts counted with those of the key are its own. -/
theorem transfers_independent (ran : run receive fresh arrivals = some used) :
    (used.decoder.sessions.length ≤ maxConcurrent ∧
      ∀ address, sourceSessions used.decoder.sessions address ≤ maxPerSa) ∧
    ∀ key, Meets receive (fun used arrival => withinLimits used.decoder arrival = true)
        fresh arrivals → GateApart key arrivals →
      ∃ alone, run receive fresh (arrivals.filter (ofKey key)) = some alone ∧
        messagesOf key used = alone.completed.map Prod.snd := by
  have tidy : used.decoder.Tidy := tidy_of_run tidy_fresh ran
  refine ⟨⟨tidy.bounded.capped, tidy.bounded.quota⟩, fun key limits apart => ?_⟩
  obtain ⟨alone, reached, same⟩ := alone_of_run ran key limits apart
  exact ⟨alone, reached, congrArg (List.map Prod.snd) same⟩

end Independence

def requestKey (destination : Nat) : FastPacketKey := ⟨0x23, destination, 126208, 1, "can0"⟩

def shortRequest : CanFrame :=
  ⟨requestFrame 0x10 [0x20, 9, 1, 2, 3, 4, 5, 6], firstRequest_valid⟩

def otherShortRequest : CanFrame := ⟨requestFrame 0x11 [0x20, 9, 1, 2, 3, 4, 5, 6], by decide⟩

def otherLongRequest : CanFrame := ⟨requestFrame 0x11 [0x20, 20, 1, 2, 3, 4, 5, 6], by decide⟩

def requestEnd : CanFrame := ⟨requestFrame 0x10 [0x21, 7, 8, 9], lastRequest_valid⟩

def otherRequestEnd : CanFrame := ⟨requestFrame 0x11 [0x21, 7, 8, 9], by decide⟩

def inTurn : List Arrival :=
  [⟨shortRequest, 0, 0⟩, ⟨otherShortRequest, 1, 1⟩, ⟨otherRequestEnd, 2, 2⟩, ⟨requestEnd, 3, 3⟩]

theorem transfers_independent_inTurn : ∃ used alone : FastPacketUse,
    run receive fresh inTurn = some used ∧
      run receive fresh (inTurn.filter (ofKey (requestKey 0x11))) = some alone ∧
      messagesOf (requestKey 0x11) used = alone.completed.map Prod.snd ∧
      used.decoder.sessions.length ≤ maxConcurrent := by
  obtain ⟨used, ran⟩ : ∃ used, run receive fresh inTurn = some used :=
    Option.isSome_iff_exists.mp (by decide)
  obtain ⟨bounds, independent⟩ := transfers_independent ran
  obtain ⟨alone, reached, same⟩ :=
    independent (requestKey 0x11) (by decide) (Or.inl (by decide))
  exact ⟨used, alone, ran, reached, same, bounds.1⟩

/-- Four restarts towards one destination use up the restarts towards the other. -/
def sharedMark : List Arrival :=
  [⟨shortRequest, 0, 0⟩, ⟨shortRequest, 1, 1⟩, ⟨shortRequest, 2, 2⟩, ⟨shortRequest, 3, 3⟩,
    ⟨shortRequest, 4, 4⟩, ⟨otherLongRequest, 5, 5⟩, ⟨otherShortRequest, 6, 6⟩,
    ⟨otherRequestEnd, 7, 7⟩]

/-- Within all limits, and the key that completes a message alone completes none. -/
theorem shared_mark_loses_message :
    Meets receive (fun used arrival => withinLimits used.decoder arrival = true) fresh sharedMark ∧
      (run receive fresh sharedMark).map (messagesOf (requestKey 0x11)) = some [] ∧
      (run receive fresh (sharedMark.filter (ofKey (requestKey 0x11)))).map
          (messagesOf (requestKey 0x11)) =
        some [⟨0x23, 126208, [1, 2, 3, 4, 5, 6, 7, 8, 9], 7, "can0", 0x11⟩] :=
  ⟨by decide, by decide, by decide⟩

end Ucanlab.Nmea2000
