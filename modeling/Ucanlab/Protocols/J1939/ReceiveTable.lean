import Ucanlab.Protocols.J1939.Engine

/-!
The receive table over whole runs. Sessions leave it by one path, the release of
a slot, and enter it by another, the placing of an announcement; a packet only
replaces its own session. The invariant is carried through these three.
-/

namespace Ucanlab.J1939

structure ReassemblySession.Waiting (session : ReassemblySession) : Prop where
  packets : session.totalPackets = (session.totalBytes + 6) / 7
  started : 1 ≤ session.expectedSequence
  received : session.receivedBytes.length = 7 * (session.expectedSequence - 1)
  unfinished : session.receivedBytes.length < session.totalBytes

theorem Announcement.session_waiting {announced : Announcement}
    (wellFormed : announced.wellFormed = true) (isBam : Bool) (window now : Nat) :
    (announced.session isBam window now).Waiting := by
  obtain ⟨positive, -, -, packets⟩ := of_decide_eq_true wellFormed
  exact ⟨packets, Nat.le_refl 1, rfl, positive⟩

section Filling

variable {session : ReassemblySession} {payload : Bytes}

theorem ReassemblySession.append_length (seven : payload.length = 7) (now : Nat) :
    (session.append payload now).receivedBytes.length = session.receivedBytes.length +
      min (session.totalBytes - session.receivedBytes.length) 7 := by
  change (session.receivedBytes ++ payload.take _).length = _
  rw [List.length_append, List.length_take, seven]

theorem ReassemblySession.Waiting.append (waiting : session.Waiting) (seven : payload.length = 7)
    {now : Nat} (incomplete : (session.append payload now).complete = false) :
    (session.append payload now).Waiting := by
  obtain ⟨packets, started, received, unfinished⟩ := waiting
  have both := not_or.mp (of_decide_eq_false incomplete)
  have length := @append_length session payload seven now
  have missing : (session.append payload now).receivedBytes.length < session.totalBytes :=
    Nat.lt_of_not_le both.2
  have next : (session.append payload now).expectedSequence = session.expectedSequence + 1 := rfl
  refine ⟨packets, by omega, ?_, missing⟩
  rw [next]
  omega

theorem ReassemblySession.Waiting.complete (waiting : session.Waiting) (seven : payload.length = 7)
    {now : Nat} (complete : (session.append payload now).complete = true) :
    session.expectedSequence = session.totalPackets ∧
      (session.append payload now).receivedBytes.length = session.totalBytes := by
  obtain ⟨packets, started, received, unfinished⟩ := waiting
  have either := of_decide_eq_true complete
  have length := @append_length session payload seven now
  have next : (session.append payload now).expectedSequence = session.expectedSequence + 1 := rfl
  have announced : (session.append payload now).totalPackets = session.totalPackets := rfl
  have size : (session.append payload now).totalBytes = session.totalBytes := rfl
  rw [next, announced, size] at either
  constructor <;> omega

end Filling

namespace J1939TransportProtocol

def sessionsOf (engine : J1939TransportProtocol) (address : UInt8) : Nat :=
  engine.rxSessions.countP (fun entry => decide (entry.2.sourceAddress = address))

structure TableConsistent (engine : J1939TransportProtocol) : Prop where
  distinct : engine.rxSessions.keys.Nodup
  counted : ∀ address, engine.perSaSessions address = engine.sessionsOf address
  quota : ∀ address, engine.sessionsOf address ≤ maxSessionsPerSa
  capped : engine.rxSessions.length ≤ maxConcurrentSessions
  keyed : ∀ entry ∈ engine.rxSessions, entry.2.key = entry.1
  waiting : ∀ entry ∈ engine.rxSessions, entry.2.Waiting

structure ReceiverInvariant (engine : J1939TransportProtocol) : Prop
    extends TableConsistent engine where
  routes : (engine.rxSessions.keys.map RxKey.route).Nodup
  unambiguous : engine.ambiguousDtDrop = 0

theorem ReceiverInvariant.same {before after : J1939TransportProtocol}
    (invariant : before.ReceiverInvariant) (same : SameReceiver before after) :
    after.ReceiverInvariant := by
  obtain ⟨rx, counters, drops⟩ := same
  refine {
    distinct := rx ▸ invariant.distinct
    counted := ?_
    quota := ?_
    capped := rx ▸ invariant.capped
    keyed := rx ▸ invariant.keyed
    waiting := rx ▸ invariant.waiting
    routes := rx ▸ invariant.routes
    unambiguous := drops.trans invariant.unambiguous }
  · intro address
    unfold sessionsOf
    rw [counters, rx]
    exact invariant.counted address
  · intro address
    unfold sessionsOf
    rw [rx]
    exact invariant.quota address

section Release

/-- The slot of a stored session given up. -/
def dropSession (engine : J1939TransportProtocol) (key : RxKey) : J1939TransportProtocol :=
  { engine with
    rxSessions := engine.rxSessions.erase key
    perSaSessions := fun address =>
      if address = key.sourceAddress then engine.perSaSessions address - 1
      else engine.perSaSessions address }

theorem releaseSessionSlot_eq {engine : J1939TransportProtocol} {key : RxKey}
    {session : ReassemblySession} (present : key ∈ engine.rxSessions.keys)
    (named : session.key = key) :
    engine.releaseSessionSlot key (some session) = engine.dropSession key := by
  have stored : engine.rxSessions.contains session.key = true := by
    rw [named]
    exact Dict.contains_iff.mpr present
  unfold releaseSessionSlot
  dsimp only
  rw [if_pos stored, named]
  unfold dropSession
  rw [← named]
  rfl

theorem releaseSessionSlot_set {engine : J1939TransportProtocol} {key : RxKey}
    {session : ReassemblySession} (present : key ∈ engine.rxSessions.keys)
    (named : session.key = key) :
    { engine with rxSessions := engine.rxSessions.set key session }.releaseSessionSlot key
      (some session) = engine.dropSession key := by
  have stillPresent : key ∈ (engine.rxSessions.set key session).keys := by
    rw [Dict.keys_set_of_present session present]
    exact present
  have released : { engine with rxSessions := engine.rxSessions.set key session }.releaseSessionSlot
      key (some session) =
        { engine with rxSessions := engine.rxSessions.set key session }.dropSession key :=
    releaseSessionSlot_eq stillPresent named
  rw [released]
  unfold dropSession
  dsimp only
  rw [Dict.erase_set]

theorem releaseSessionSlot_sublist (engine : J1939TransportProtocol) (key : RxKey)
    (session : Option ReassemblySession) :
    (engine.releaseSessionSlot key session).rxSessions.Sublist engine.rxSessions := by
  unfold releaseSessionSlot
  cases session with
  | none => exact List.filter_sublist
  | some session =>
      dsimp only
      split
      · exact List.filter_sublist
      · split
        · exact List.filter_sublist
        · exact List.Sublist.refl _

theorem sessionsOf_drop {engine : J1939TransportProtocol} (distinct : engine.rxSessions.keys.Nodup)
    {entry : RxKey × ReassemblySession} (member : entry ∈ engine.rxSessions) (address : UInt8) :
    engine.sessionsOf address = (engine.dropSession entry.1).sessionsOf address +
      if entry.2.sourceAddress = address then 1 else 0 := by
  unfold sessionsOf
  rw [(Dict.perm_cons_erase distinct member).countP_eq, List.countP_cons]
  simp [dropSession]

theorem ReceiverInvariant.drop {engine : J1939TransportProtocol}
    (invariant : engine.ReceiverInvariant) {key : RxKey} (present : key ∈ engine.rxSessions.keys) :
    (engine.dropSession key).ReceiverInvariant := by
  obtain ⟨entry, member, rfl⟩ := List.mem_map.mp present
  have counts := sessionsOf_drop invariant.distinct member
  have source : entry.1.sourceAddress = entry.2.sourceAddress := by
    rw [← invariant.keyed entry member]
    rfl
  have kept : (engine.dropSession entry.1).rxSessions.Sublist engine.rxSessions :=
    List.filter_sublist
  have keys := Dict.keys_erase_sublist engine.rxSessions entry.1
  exact {
    distinct := invariant.distinct.sublist keys
    counted := by
      intro address
      have before := invariant.counted address
      have split := counts address
      by_cases same : entry.2.sourceAddress = address
      · have here : address = entry.1.sourceAddress := (source.trans same).symm
        rw [if_pos same] at split
        change (if address = entry.1.sourceAddress then _ else _) = _
        rw [if_pos here]
        omega
      · have elsewhere : ¬ address = entry.1.sourceAddress := fun equal =>
          same (source.symm.trans equal.symm)
        rw [if_neg same] at split
        change (if address = entry.1.sourceAddress then _ else _) = _
        rw [if_neg elsewhere]
        omega
    quota := by
      intro address
      have before := invariant.quota address
      have split := counts address
      omega
    capped := kept.length_le.trans invariant.capped
    keyed := fun other stored => invariant.keyed other (kept.subset stored)
    waiting := fun other stored => invariant.waiting other (kept.subset stored)
    routes := invariant.routes.sublist (keys.map RxKey.route)
    unambiguous := invariant.unambiguous }

theorem ReceiverInvariant.release {engine : J1939TransportProtocol}
    (invariant : engine.ReceiverInvariant) (key : RxKey) :
    (engine.releaseSessionSlot key (engine.rxSessions.get? key)).ReceiverInvariant := by
  cases found : engine.rxSessions.get? key with
  | none =>
      have absent := Dict.erase_of_absent (Dict.get?_eq_none_iff.mp found)
      refine invariant.same ⟨?_, rfl, rfl⟩
      exact absent
  | some session =>
      have member := Dict.mem_of_get? found
      rw [releaseSessionSlot_eq (Dict.mem_keys member) (invariant.keyed _ member)]
      exact invariant.drop (Dict.mem_keys member)

theorem reap_preserves {property : J1939TransportProtocol → Prop}
    (released : ∀ engine key, property engine →
      property (engine.releaseSessionSlot key (engine.rxSessions.get? key)))
    {engine : J1939TransportProtocol} (initial : property engine) (now : Nat) :
    property (engine.reapStaleSessions now) := by
  unfold reapStaleSessions
  dsimp only
  generalize engine.rxSessions.filter _ = expired
  induction expired generalizing engine with
  | nil => exact initial
  | cons entry rest ih => exact ih (released engine entry.1 initial)

theorem ReceiverInvariant.reap {engine : J1939TransportProtocol}
    (invariant : engine.ReceiverInvariant) (now : Nat) :
    (engine.reapStaleSessions now).ReceiverInvariant :=
  reap_preserves (fun _ key kept => kept.release key) invariant now

theorem reapStaleSessions_sublist (engine : J1939TransportProtocol) (now : Nat) :
    (engine.reapStaleSessions now).rxSessions.Sublist engine.rxSessions := by
  apply @reap_preserves (fun after => after.rxSessions.Sublist engine.rxSessions)
  · intro after key kept
    exact (releaseSessionSlot_sublist after key _).trans kept
  · exact List.Sublist.refl _

/-- Nothing but the receive table and its counters differs. -/
def OnlyTable (before after : J1939TransportProtocol) : Prop :=
  after = { before with
    rxSessions := after.rxSessions
    perSaSessions := after.perSaSessions }

theorem OnlyTable.trans {first second third : J1939TransportProtocol}
    (left : OnlyTable first second) (right : OnlyTable second third) : OnlyTable first third := by
  unfold OnlyTable at left right ⊢
  rw [right, left]

theorem OnlyTable.fields {before after : J1939TransportProtocol} (kept : OnlyTable before after) :
    after.myAddress = before.myAddress ∧ after.rxCtsWindow = before.rxCtsWindow ∧
      after.rtsPrefixMarks = before.rtsPrefixMarks ∧
      after.pendingTxFrames = before.pendingTxFrames ∧ after.txSessions = before.txSessions := by
  unfold OnlyTable at kept
  rw [kept]
  exact ⟨rfl, rfl, rfl, rfl, rfl⟩

theorem releaseSessionSlot_onlyTable (engine : J1939TransportProtocol) (key : RxKey)
    (session : Option ReassemblySession) :
    OnlyTable engine (engine.releaseSessionSlot key session) := by
  unfold releaseSessionSlot
  cases session with
  | none => rfl
  | some session =>
      dsimp only
      split
      · rfl
      · split <;> rfl

theorem reapStaleSessions_onlyTable (engine : J1939TransportProtocol) (now : Nat) :
    OnlyTable engine (engine.reapStaleSessions now) := by
  apply @reap_preserves (fun after => OnlyTable engine after)
  · intro after key kept
    exact kept.trans (releaseSessionSlot_onlyTable after key _)
  · rfl

theorem makeRoom_onlyTable (engine : J1939TransportProtocol) (key : RxKey) :
    OnlyTable engine (engine.makeRoom key) := by
  unfold makeRoom
  split
  · split
    · apply releaseSessionSlot_onlyTable
    · rfl
  · rfl

end Release

section Placing

theorem ReceiverInvariant.insert {engine : J1939TransportProtocol}
    (invariant : engine.ReceiverInvariant) {session : ReassemblySession}
    (vacant : ∀ entry ∈ engine.rxSessions, entry.1.route ≠ session.route)
    (room : engine.rxSessions.length < maxConcurrentSessions)
    (quota : engine.perSaSessions session.sourceAddress < maxSessionsPerSa)
    (waiting : session.Waiting) : (engine.insertSession session).ReceiverInvariant := by
  have absent : session.key ∉ engine.rxSessions.keys := by
    intro present
    obtain ⟨entry, member, same⟩ := List.mem_map.mp present
    exact vacant entry member (congrArg RxKey.route same)
  have stored : (engine.insertSession session).rxSessions =
      engine.rxSessions ++ [(session.key, session)] := Dict.set_of_absent session absent
  have counts (address : UInt8) : (engine.insertSession session).sessionsOf address =
      engine.sessionsOf address + if session.sourceAddress = address then 1 else 0 := by
    unfold sessionsOf
    rw [stored, List.countP_append]
    simp
  have keys : (engine.insertSession session).rxSessions.keys =
      engine.rxSessions.keys ++ [session.key] := by
    rw [stored]
    exact List.map_append
  have members {entry : RxKey × ReassemblySession}
      (member : entry ∈ (engine.insertSession session).rxSessions) :
      entry ∈ engine.rxSessions ∨ entry = (session.key, session) := by
    rw [stored] at member
    rcases List.mem_append.mp member with old | new
    · exact Or.inl old
    · exact Or.inr (List.mem_singleton.mp new)
  exact {
    distinct := by
      rw [keys]
      exact List.nodup_append'.mpr ⟨invariant.distinct, List.nodup_singleton _,
        List.disjoint_singleton.mpr absent⟩
    counted := by
      intro address
      have before := invariant.counted address
      rw [counts address]
      change (if address = session.sourceAddress then _ else _) = _
      by_cases same : session.sourceAddress = address
      · rw [if_pos same.symm, if_pos same]
        omega
      · rw [if_neg (fun equal => same equal.symm), if_neg same]
        omega
    quota := by
      intro address
      have before := invariant.quota address
      rw [counts address]
      by_cases same : session.sourceAddress = address
      · have own := invariant.counted address
        rw [same] at quota
        rw [if_pos same]
        omega
      · rw [if_neg same]
        omega
    capped := by
      rw [stored, List.length_append]
      exact room
    keyed := by
      intro entry member
      rcases members member with old | new
      · exact invariant.keyed entry old
      · rw [new]
    waiting := by
      intro entry member
      rcases members member with old | new
      · exact invariant.waiting entry old
      · rw [new]
        exact waiting
    routes := by
      rw [keys, List.map_append]
      refine List.nodup_append'.mpr ⟨invariant.routes, List.nodup_singleton _, ?_⟩
      apply List.disjoint_singleton.mpr
      intro taken
      obtain ⟨key, present, same⟩ := List.mem_map.mp taken
      obtain ⟨entry, member, rfl⟩ := List.mem_map.mp present
      exact vacant entry member same
    unambiguous := invariant.unambiguous }

theorem ReceiverInvariant.makeRoom {engine : J1939TransportProtocol}
    (invariant : engine.ReceiverInvariant) {key : RxKey} (absent : key ∉ engine.rxSessions.keys) :
    (engine.makeRoom key).ReceiverInvariant ∧
      (engine.makeRoom key).rxSessions.Sublist engine.rxSessions ∧
      (engine.makeRoom key).rxSessions.length < maxConcurrentSessions := by
  have missing : ¬ engine.rxSessions.contains key = true := fun present =>
    absent (Dict.contains_iff.mp present)
  unfold J1939TransportProtocol.makeRoom
  by_cases full : engine.rxSessions.length ≥ maxConcurrentSessions
  · rw [if_pos ⟨full, missing⟩]
    split
    · rename_i oldest selected
      have member : oldest ∈ engine.rxSessions := List.argmin_mem selected
      have present := Dict.mem_keys member
      rw [releaseSessionSlot_eq present (invariant.keyed oldest member)]
      refine ⟨invariant.drop present, List.filter_sublist, ?_⟩
      have shorter := (Dict.perm_cons_erase invariant.distinct member).length_eq
      rw [List.length_cons] at shorter
      have capped := invariant.capped
      change (engine.rxSessions.erase oldest.1).length < maxConcurrentSessions
      omega
    · rename_i nobody
      rw [List.argmin_eq_none.mp nobody] at full
      exact absurd full (by decide)
  · rw [if_neg (fun both => full both.1)]
    exact ⟨invariant, List.Sublist.refl _, Nat.lt_of_not_le full⟩

theorem ReceiverInvariant.place {engine : J1939TransportProtocol}
    (invariant : engine.ReceiverInvariant) {announced : Announcement} (clock : Clock)
    (isBam : Bool) (vacant : ∀ entry ∈ engine.rxSessions, entry.1.route ≠ announced.route)
    (wellFormed : announced.wellFormed = true) :
    (engine.place clock isBam announced).ReceiverInvariant := by
  have absent : announced.key ∉ engine.rxSessions.keys := by
    intro present
    obtain ⟨entry, member, same⟩ := List.mem_map.mp present
    exact vacant entry member (congrArg RxKey.route same)
  obtain ⟨kept, fewer, room⟩ := invariant.makeRoom absent
  unfold J1939TransportProtocol.place
  split
  · exact invariant
  · rename_i admitted
    have below : engine.perSaSessions announced.sourceAddress < maxSessionsPerSa := by
      have unlisted : engine.rxSessions.contains announced.key = false :=
        Bool.eq_false_iff.mpr (fun present => absent (Dict.contains_iff.mp present))
      by_contra atQuota
      refine admitted ?_
      unfold overQuota
      rw [unlisted, decide_eq_true (Nat.le_of_not_lt atQuota)]
      rfl
    refine kept.insert (fun entry member => vacant entry (fewer.subset member)) room ?_
      (Announcement.session_waiting wellFormed ..)
    change (engine.makeRoom announced.key).perSaSessions announced.sourceAddress < _
    have lower : (engine.makeRoom announced.key).sessionsOf announced.sourceAddress ≤
        engine.sessionsOf announced.sourceAddress := fewer.countP_le
    have before := invariant.counted announced.sourceAddress
    have after := kept.counted announced.sourceAddress
    omega

theorem mem_livePrefix {engine : J1939TransportProtocol} {route : Route}
    {entry : RxKey × ReassemblySession} :
    entry ∈ engine.livePrefix route.1 route.2.1 route.2.2 ↔
      entry ∈ engine.rxSessions ∧ entry.1.route = route := by
  unfold livePrefix RxKey.route
  rw [List.mem_filter, decide_eq_true_eq, Prod.ext_iff, Prod.ext_iff]

theorem ReceiverInvariant.livePrefix_cases {engine : J1939TransportProtocol}
    (invariant : engine.ReceiverInvariant) (route : Route) :
    engine.livePrefix route.1 route.2.1 route.2.2 = [] ∨
      ∃ entry, engine.livePrefix route.1 route.2.1 route.2.2 = [entry] := by
  have distinct : ((engine.livePrefix route.1 route.2.1 route.2.2).map
      (fun entry => entry.1.route)).Nodup := by
    have all := invariant.routes
    unfold Dict.keys at all
    rw [List.map_map] at all
    exact all.sublist (List.filter_sublist.map _)
  have onRoute {entry : RxKey × ReassemblySession}
      (member : entry ∈ engine.livePrefix route.1 route.2.1 route.2.2) : entry.1.route = route :=
    (mem_livePrefix.mp member).2
  cases live : engine.livePrefix route.1 route.2.1 route.2.2 with
  | nil => exact Or.inl rfl
  | cons first rest =>
      rw [live] at distinct onRoute
      cases rest with
      | nil => exact Or.inr ⟨first, rfl⟩
      | cons second rest =>
          have same : first.1.route = second.1.route :=
            (onRoute (List.mem_cons_self ..)).trans
              (onRoute (List.mem_cons_of_mem _ (List.mem_cons_self ..))).symm
          have fresh : first.1.route ∉ (second :: rest).map (fun entry => entry.1.route) :=
            (List.nodup_cons.mp distinct).1
          rw [same] at fresh
          exact absurd (List.mem_cons_self ..) fresh

theorem ReceiverInvariant.entry_unique {engine : J1939TransportProtocol}
    (invariant : engine.ReceiverInvariant) {first second : RxKey × ReassemblySession}
    (left : first ∈ engine.rxSessions) (right : second ∈ engine.rxSessions)
    (same : first.1.route = second.1.route) : first = second := by
  have firstLive := mem_livePrefix.mpr ⟨left, same⟩
  have secondLive := mem_livePrefix.mpr ⟨right, rfl⟩
  rcases invariant.livePrefix_cases second.1.route with none | ⟨entry, only⟩
  · rw [none] at firstLive
    cases firstLive
  · rw [only] at firstLive secondLive
    exact (List.mem_singleton.mp firstLive).trans (List.mem_singleton.mp secondLive).symm

theorem ReceiverInvariant.clearPredecessor {engine cleared : J1939TransportProtocol}
    (invariant : engine.ReceiverInvariant) {clock : Clock} {announced : Announcement}
    {predecessor : Option ReassemblySession}
    (clearing : engine.clearPredecessor clock announced = .cleared cleared predecessor) :
    cleared.ReceiverInvariant ∧ cleared.rxSessions.Sublist engine.rxSessions ∧
      ∀ entry ∈ cleared.rxSessions, entry.1.route ≠ announced.route := by
  have emptied {entry : RxKey × ReassemblySession} (member : entry ∈ engine.rxSessions)
      (here : entry.1.route = announced.route) (other : RxKey × ReassemblySession)
      (left : other ∈ engine.rxSessions.erase entry.1) : other.1.route ≠ announced.route := by
    intro same
    obtain ⟨stored, different⟩ := Dict.mem_erase.mp left
    exact different (congrArg Prod.fst
      (invariant.entry_unique stored member (same.trans here.symm)))
  unfold J1939TransportProtocol.clearPredecessor at clearing
  split at clearing
  · rename_i old found
    cases clearing
    have member := Dict.mem_of_get? found
    have present := Dict.mem_keys member
    rw [releaseSessionSlot_eq present (invariant.keyed _ member)]
    exact ⟨invariant.drop present, List.filter_sublist, emptied member rfl⟩
  · split at clearing
    · rename_i nobody
      cases clearing
      refine ⟨invariant, List.Sublist.refl _, ?_⟩
      intro entry member here
      have live := mem_livePrefix.mpr ⟨member, here⟩
      rw [announced.route_eq, nobody] at live
      cases live
    · rename_i live rest onRoute
      split at clearing
      · cases clearing
      · rename_i marked passed
        cases clearing
        obtain ⟨marks, same⟩ :=
          checkPrefixCollisionRate_marked engine announced.route clock.collision
        rw [passed] at same
        dsimp only at same
        subst same
        have listed : live ∈ engine.livePrefix announced.route.1 announced.route.2.1
            announced.route.2.2 := by
          rw [announced.route_eq, onRoute]
          exact List.mem_cons_self ..
        obtain ⟨member, here⟩ := mem_livePrefix.mp listed
        have present := Dict.mem_keys member
        have unmarked : { engine with rtsPrefixMarks := marks }.ReceiverInvariant :=
          invariant.same ⟨rfl, rfl, rfl⟩
        have released : { engine with rtsPrefixMarks := marks }.releaseSessionSlot live.1
            (some live.2) = { engine with rtsPrefixMarks := marks }.dropSession live.1 :=
          releaseSessionSlot_eq present (invariant.keyed live member)
        rw [released]
        exact ⟨unmarked.drop present, List.filter_sublist, emptied member here⟩

theorem clearPredecessor_refused {engine marked : J1939TransportProtocol} {clock : Clock}
    {announced : Announcement} (refused : engine.clearPredecessor clock announced = .refused marked) :
    SameReceiver engine marked := by
  unfold J1939TransportProtocol.clearPredecessor at refused
  split at refused
  · cases refused
  · split at refused
    · cases refused
    · split at refused
      · rename_i passed
        cases refused
        obtain ⟨marks, same⟩ :=
          checkPrefixCollisionRate_marked engine announced.route clock.collision
        rw [passed] at same
        dsimp only at same
        subst same
        exact ⟨rfl, rfl, rfl⟩
      · cases refused

theorem ReceiverInvariant.announce {engine : J1939TransportProtocol}
    (invariant : engine.ReceiverInvariant) (clock : Clock) (isBam : Bool)
    {announced : Announcement} (wellFormed : announced.wellFormed = true) :
    (engine.announce clock isBam announced).ReceiverInvariant := by
  unfold J1939TransportProtocol.announce
  split
  · split
    · rename_i refused
      exact invariant.same (clearPredecessor_refused refused)
    · rename_i clearing
      obtain ⟨kept, -, vacant⟩ := invariant.clearPredecessor clearing
      exact kept.place clock isBam vacant wellFormed
  · exact invariant

end Placing

section Packets

inductive PacketOutcome (engine : J1939TransportProtocol) (now : Nat) (route : Route)
    (packet : Packet) : J1939TransportProtocol → Option CompletedMessage → Prop
  | unclaimed (vacant : ∀ entry ∈ engine.rxSessions, entry.1.route ≠ route) :
      PacketOutcome engine now route packet engine none
  | dropped (session : ReassemblySession) (member : (session.key, session) ∈ engine.rxSessions)
      (here : session.route = route) :
      PacketOutcome engine now route packet (engine.dropSession session.key) none
  | extended (session : ReassemblySession) (member : (session.key, session) ∈ engine.rxSessions)
      (here : session.route = route) (inOrder : packet.seq = session.expectedSequence)
      (incomplete : (session.append packet.payload now).complete = false) :
      PacketOutcome engine now route packet
        { engine with
          rxSessions := engine.rxSessions.set session.key (session.append packet.payload now) }
        none
  | completed (session : ReassemblySession) (member : (session.key, session) ∈ engine.rxSessions)
      (here : session.route = route) (inOrder : packet.seq = session.expectedSequence)
      (complete : (session.append packet.payload now).complete = true) :
      PacketOutcome engine now route packet (engine.dropSession session.key)
        (some {
          sourceAddress := session.sourceAddress
          destinationAddress := session.destinationAddress
          pgn := session.targetPgn
          data := (session.append packet.payload now).receivedBytes.take session.totalBytes
          channel := session.channel })

theorem ReceiverInvariant.lookup {engine : J1939TransportProtocol}
    (invariant : engine.ReceiverInvariant) (route : Route) (seq : Nat) :
    (engine.lookupDtSession route.1 route.2.1 route.2.2 seq = (engine, none) ∧
      ∀ entry ∈ engine.rxSessions, entry.1.route ≠ route) ∨
    ∃ session, engine.lookupDtSession route.1 route.2.1 route.2.2 seq =
        (engine, some (session.key, session)) ∧
      (session.key, session) ∈ engine.rxSessions ∧ session.route = route := by
  unfold lookupDtSession
  rcases invariant.livePrefix_cases route with none | ⟨entry, only⟩
  · refine Or.inl ⟨by rw [none], ?_⟩
    intro entry member here
    have live := mem_livePrefix.mpr ⟨member, here⟩
    rw [none] at live
    cases live
  · have listed : entry ∈ engine.livePrefix route.1 route.2.1 route.2.2 := by
      rw [only]
      exact List.mem_cons_self ..
    obtain ⟨member, here⟩ := mem_livePrefix.mp listed
    have own : entry = (entry.2.key, entry.2) := by
      rw [invariant.keyed entry member]
    rw [only]
    dsimp only
    refine Or.inr ⟨entry.2, congrArg (fun found => (engine, some found)) own, own ▸ member, ?_⟩
    unfold ReassemblySession.route
    rw [invariant.keyed entry member]
    exact here

theorem ReceiverInvariant.handleTpDt {engine : J1939TransportProtocol}
    (invariant : engine.ReceiverInvariant) (clock : Clock) {frame : CanFrame} {route : Route}
    {packet : Packet} (carried : packetOf frame = some (route, packet)) :
    PacketOutcome engine clock.session route packet
      (engine.handleTpDt clock frame route.1 route.2.1).1
      (engine.handleTpDt clock frame route.1 route.2.1).2.1 := by
  have place : frame.channel = route.2.2 := by
    unfold packetOf at carried
    split at carried <;> cases carried
    rfl
  have fields : packet = ⟨(frame.data.getD 0 0).toNat, (frame.data.drop 1).take 7⟩ := by
    unfold packetOf at carried
    split at carried <;> cases carried
    rfl
  have seq : (frame.data.getD 0 0).toNat = packet.seq := by rw [fields]
  have payload : (frame.data.drop 1).take 7 = packet.payload := by rw [fields]
  unfold J1939TransportProtocol.handleTpDt
  dsimp only
  rw [place, seq, payload]
  rcases invariant.lookup route packet.seq with ⟨missing, vacant⟩ | ⟨session, found, member, here⟩
  · rw [missing]
    exact .unclaimed vacant
  · rw [found]
    have present := Dict.mem_keys member
    have released : engine.releaseSessionSlot session.key (some session) =
        engine.dropSession session.key := releaseSessionSlot_eq present rfl
    dsimp only
    split
    · rw [released]
      exact .dropped session member here
    · split
      · rw [released]
        exact .dropped session member here
      · rename_i inOrder
        have channel : session.channel = route.2.2 := by
          rw [← here]
          rfl
        split
        · rename_i complete
          rw [← channel]
          rw [releaseSessionSlot_set present (rfl :
            (session.append packet.payload clock.session).key = session.key)]
          exact .completed session member here (not_not.mp inOrder) complete
        · rename_i incomplete
          exact .extended session member here (not_not.mp inOrder) (Bool.eq_false_iff.mpr incomplete)

theorem ReceiverInvariant.extend {engine : J1939TransportProtocol}
    (invariant : engine.ReceiverInvariant) {session extended : ReassemblySession}
    (member : (session.key, session) ∈ engine.rxSessions) (same : extended.key = session.key)
    (waiting : extended.Waiting) :
    { engine with rxSessions := engine.rxSessions.set session.key extended }.ReceiverInvariant := by
  have present := Dict.mem_keys member
  have keys := Dict.keys_set_of_present extended present
  have source : extended.sourceAddress = session.sourceAddress :=
    congrArg RxKey.sourceAddress same
  have replaced := Dict.perm_set_of_mem invariant.distinct member extended
  have counts (address : UInt8) :
      { engine with rxSessions := engine.rxSessions.set session.key extended }.sessionsOf address =
        engine.sessionsOf address := by
    unfold sessionsOf
    rw [replaced.countP_eq, (Dict.perm_cons_erase invariant.distinct member).countP_eq,
      List.countP_cons, List.countP_cons, source]
  have members {entry : RxKey × ReassemblySession}
      (stored : entry ∈ engine.rxSessions.set session.key extended) :
      entry = (session.key, extended) ∨ entry ∈ engine.rxSessions :=
    ((Dict.mem_set invariant.distinct).mp stored).imp_right And.left
  exact {
    distinct := keys ▸ invariant.distinct
    counted := fun address => (invariant.counted address).trans (counts address).symm
    quota := fun address => (counts address).le.trans (invariant.quota address)
    capped := by
      have length := congrArg List.length keys
      unfold Dict.keys at length
      rw [List.length_map, List.length_map] at length
      exact length.le.trans invariant.capped
    keyed := by
      intro entry stored
      rcases members stored with new | old
      · rw [new]
        exact same
      · exact invariant.keyed entry old
    waiting := by
      intro entry stored
      rcases members stored with new | old
      · rw [new]
        exact waiting
      · exact invariant.waiting entry old
    routes := keys ▸ invariant.routes
    unambiguous := invariant.unambiguous }

theorem PacketOutcome.invariant {engine after : J1939TransportProtocol} {now : Nat}
    {route : Route} {packet : Packet} {completed : Option CompletedMessage}
    (outcome : PacketOutcome engine now route packet after completed)
    (invariant : engine.ReceiverInvariant) (seven : packet.payload.length = 7) :
    after.ReceiverInvariant := by
  cases outcome with
  | unclaimed => exact invariant
  | dropped session member => exact invariant.drop (Dict.mem_keys member)
  | extended session member here inOrder incomplete =>
      exact invariant.extend member rfl
        ((invariant.waiting _ member).append seven incomplete)
  | completed session member => exact invariant.drop (Dict.mem_keys member)

end Packets

section Runs

theorem ReceiverInvariant.reception {engine received : J1939TransportProtocol}
    (invariant : engine.ReceiverInvariant) {clock : Clock} {frame : CanFrame}
    {completed : Option CompletedMessage}
    (reception : Reception engine clock frame received completed) : received.ReceiverInvariant := by
  cases reception with
  | idle => exact invariant
  | malformed => exact invariant
  | announced isBam announced announces empty wellFormed =>
      exact (invariant.reap clock.reap).announce clock isBam wellFormed
  | aborted silent empty key => exact (invariant.reap clock.reap).release key
  | reaped => exact invariant.reap clock.reap
  | packet silent route packet carried =>
      exact (invariant.handleTpDt clock carried).invariant invariant
        (packetOf_payload_length carried)

theorem fresh_invariant (myAddress : Nat) (channel : ChannelId) (rxCtsWindow : Nat) :
    (fresh myAddress channel rxCtsWindow).ReceiverInvariant where
  distinct := List.nodup_nil
  counted := fun _ => rfl
  quota := fun _ => Nat.zero_le _
  capped := Nat.zero_le _
  keyed := fun _ member => absurd member List.not_mem_nil
  waiting := fun _ member => absurd member List.not_mem_nil
  routes := List.nodup_nil
  unambiguous := rfl

theorem ReceiverInvariant.perform {engine : J1939TransportProtocol}
    (invariant : engine.ReceiverInvariant) (op : EngineOp) :
    (engine.perform op).ReceiverInvariant := by
  cases op with
  | frame clock frame suppress =>
      obtain ⟨received, reception, same⟩ := handleRxFrame_reception engine clock frame suppress
      exact (invariant.reception reception).same same
  | startTransfer clock target pgn data channel =>
      exact invariant.same (startCmdtTransfer_receiver engine clock target pgn data channel)
  | advance now target pgn channel =>
      exact invariant.same (advanceCmdtTransfer_receiver engine now target pgn channel)
  | poll now => exact invariant.same ⟨rfl, rfl, rfl⟩
  | reap now => exact invariant.reap now
  | takePending => exact invariant.same ⟨rfl, rfl, rfl⟩
  | setMyAddress newAddress => exact invariant.same (setMyAddress_receiver engine newAddress)
  | reset => exact (fresh_invariant 0 engine.channel 0).same ⟨rfl, rfl, invariant.unambiguous⟩

theorem Reaches.invariant {ops : List EngineOp} {first last : J1939TransportProtocol}
    (reaches : Reaches ops first last) (invariant : first.ReceiverInvariant) :
    last.ReceiverInvariant := by
  refine EventRun.run_invariant ?_ invariant reaches
  intro engine op next kept stepped
  cases stepped
  exact kept.perform op

/-- The table of every engine that calls on a new one can produce. -/
theorem reachable_table_consistent {myAddress rxCtsWindow : Nat} {channel : ChannelId}
    {ops : List EngineOp} {engine : J1939TransportProtocol}
    (reaches : Reaches ops (fresh myAddress channel rxCtsWindow) engine) :
    engine.TableConsistent :=
  (reaches.invariant (fresh_invariant myAddress channel rxCtsWindow)).toTableConsistent

def tenBytesSender : J1939TransportProtocol := fresh 0x21 ⟨"j1939_ch0", defaultChannel_valid⟩ 0

def tenBytes : Bytes := [1, 2, 3, 4, 5, 6, 7, 8, 9, 10]

def tenBytesPacket (seq : Nat) : CanFrame :=
  tenBytesSender.bamDtFrame tenBytesSender.channel tenBytes seq

def tenBytesBegun : List EngineOp :=
  [.frame (.at 0) (tenBytesSender.bamFrame tenBytesSender.channel 0xFECA 10) false,
    .frame (.at 0) (tenBytesPacket 1) false]

def tenBytesListener : J1939TransportProtocol := fresh 0xF9 ⟨"j1939_ch0", defaultChannel_valid⟩ 0

theorem tenBytesBegun_reached :
    Reaches tenBytesBegun tenBytesListener (tenBytesBegun.foldl perform tenBytesListener) := rfl

theorem table_consistent_begun :
    (tenBytesBegun.foldl perform tenBytesListener).rxSessions.length = 1 ∧
      (tenBytesBegun.foldl perform tenBytesListener).TableConsistent :=
  ⟨by decide +kernel, reachable_table_consistent tenBytesBegun_reached⟩

/-- A packet never finds two sessions of its route, so none is ever dropped as
ambiguous. -/
theorem reachable_session_unique {myAddress rxCtsWindow : Nat} {channel : ChannelId}
    {ops : List EngineOp} {engine : J1939TransportProtocol}
    (reaches : Reaches ops (fresh myAddress channel rxCtsWindow) engine) :
    (∀ sa da place, (engine.livePrefix sa da place).length ≤ 1) ∧
      (∀ sa da place seq, (engine.lookupDtSession sa da place seq).1 = engine) ∧
      engine.ambiguousDtDrop = 0 := by
  have invariant := reaches.invariant (fresh_invariant myAddress channel rxCtsWindow)
  refine ⟨?_, ?_, invariant.unambiguous⟩
  · intro sa da place
    rcases invariant.livePrefix_cases (sa, da, place) with none | ⟨entry, only⟩
    · exact (congrArg List.length none).le.trans (Nat.zero_le 1)
    · exact (congrArg List.length only).le
  · intro sa da place seq
    rcases invariant.lookup (sa, da, place) seq with ⟨missing, -⟩ | ⟨session, found, -⟩
    · exact congrArg Prod.fst missing
    · exact congrArg Prod.fst found

theorem session_unique_begun :
    ∃ engine, Reaches tenBytesBegun tenBytesListener engine ∧
      (∀ sa da place, (engine.livePrefix sa da place).length ≤ 1) ∧
      (∀ sa da place seq, (engine.lookupDtSession sa da place seq).1 = engine) ∧
      engine.ambiguousDtDrop = 0 :=
  ⟨_, tenBytesBegun_reached, reachable_session_unique tenBytesBegun_reached⟩

end Runs

end J1939TransportProtocol

end Ucanlab.J1939
