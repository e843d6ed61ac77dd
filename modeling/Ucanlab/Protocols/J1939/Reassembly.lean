import Ucanlab.Protocols.J1939.ReceiveTable

/-!
Where the bytes of a completed message come from. Each live session is traced
back to the call that admitted its announcement; since then the packets of its
route, and no others, have filled it in order.
-/

namespace Ucanlab.J1939

open J1939TransportProtocol

def EngineOp.packetOn : EngineOp → Route → Option Packet
  | .frame _ incoming _, route =>
      (packetOf incoming).bind (fun carried => if carried.1 = route then some carried.2 else none)
  | _, _ => none

def packetsOn (route : Route) (ops : List EngineOp) : List Packet :=
  ops.filterMap (fun op => op.packetOn route)

def J1939TransportProtocol.admittedOn (engine : J1939TransportProtocol) :
    EngineOp → Route → Option (Bool × Announcement)
  | .frame clock incoming _, route =>
      (engine.admitted clock incoming).filter (fun announced => decide (announced.2.route = route))
  | _, _ => none

structure TransferHistory (first : J1939TransportProtocol) (past : List EngineOp)
    (route : Route) where
  front : List EngineOp
  before : J1939TransportProtocol
  opening : EngineOp
  isBam : Bool
  announced : Announcement
  since : List EngineOp
  split : past = front ++ opening :: since
  reached : Reaches front first before
  admitted : before.admittedOn opening route = some (isBam, announced)
  latest : EventRun.Meets engineStep (fun engine op => engine.admittedOn op route = none)
    (before.perform opening) since

namespace TransferHistory

variable {first engine : J1939TransportProtocol} {past : List EngineOp} {route : Route}

def start (reaches : Reaches past first engine) {op : EngineOp} {isBam : Bool}
    {announced : Announcement} (admitted : engine.admittedOn op route = some (isBam, announced)) :
    TransferHistory first (past ++ [op]) route where
  front := past
  before := engine
  opening := op
  isBam := isBam
  announced := announced
  since := []
  split := rfl
  reached := reaches
  admitted := admitted
  latest := trivial

/-- One more call that admits nothing on the route. -/
def next (history : TransferHistory first past route) (reaches : Reaches past first engine)
    {op : EngineOp} (quiet : engine.admittedOn op route = none) :
    TransferHistory first (past ++ [op]) route where
  front := history.front
  before := history.before
  opening := history.opening
  isBam := history.isBam
  announced := history.announced
  since := history.since ++ [op]
  split := by
    rw [← List.cons_append, ← List.append_assoc, ← history.split]
  reached := history.reached
  admitted := history.admitted
  latest := by
    have ran := reaches
    unfold Reaches at ran
    rw [history.split, EventRun.run_append_of_run _ history.reached] at ran
    exact history.latest.append ran ⟨quiet, fun _ _ => trivial⟩

end TransferHistory

structure ReassemblySession.Records {first : J1939TransportProtocol} {past : List EngineOp}
    (session : ReassemblySession) (history : TransferHistory first past session.route) : Prop where
  pgn : session.targetPgn = history.announced.targetPgn
  bytes : session.totalBytes = history.announced.totalBytes
  packets : session.totalPackets = history.announced.totalPackets
  numbered : (packetsOn session.route history.since).map Packet.seq =
    List.range' 1 (session.expectedSequence - 1)
  filled : session.receivedBytes =
    ((packetsOn session.route history.since).flatMap Packet.payload).take session.totalBytes

section Membership

theorem packetsOn_snoc (route : Route) (ops : List EngineOp) (op : EngineOp) :
    packetsOn route (ops ++ [op]) = packetsOn route ops ++ (op.packetOn route).toList := by
  unfold packetsOn
  rw [List.filterMap_append]
  cases delivered : op.packetOn route <;> simp [delivered]

theorem packetOn_frame {clock : Clock} {frame : CanFrame} {suppress : Bool} {route own : Route}
    {packet : Packet} (carried : packetOf frame = some (own, packet)) :
    (EngineOp.frame clock frame suppress).packetOn route =
      if own = route then some packet else none := by
  simp only [EngineOp.packetOn, carried, Option.bind_some]

theorem packetOn_payload_length {op : EngineOp} {route : Route} {packet : Packet}
    (delivered : op.packetOn route = some packet) : packet.payload.length = 7 := by
  cases op with
  | frame clock frame suppress =>
      cases carried : packetOf frame with
      | none => simp [EngineOp.packetOn, carried] at delivered
      | some pair =>
          rw [packetOn_frame carried] at delivered
          split at delivered
          · cases delivered
            exact packetOf_payload_length carried
          · cases delivered
  | _ => cases delivered

theorem packetOn_of_empty {clock : Clock} {frame : CanFrame} {suppress : Bool} (route : Route)
    (empty : packetOf frame = none) :
    (EngineOp.frame clock frame suppress).packetOn route = none := by
  simp only [EngineOp.packetOn, empty, Option.bind_none]

theorem admittedOn_of_silent (engine : J1939TransportProtocol) {clock : Clock} {frame : CanFrame}
    {suppress : Bool} (route : Route) (silent : announcedBy frame = none) :
    engine.admittedOn (.frame clock frame suppress) route = none := by
  simp only [J1939TransportProtocol.admittedOn, J1939TransportProtocol.admitted, silent,
    Option.filter_none]

theorem admittedOn_frame {engine : J1939TransportProtocol} {clock : Clock} {frame : CanFrame}
    {suppress : Bool} {isBam : Bool} {announced : Announcement} {route : Route}
    (announces : announcedBy frame = some (isBam, announced)) :
    engine.admittedOn (.frame clock frame suppress) route =
      if engine.admits clock isBam announced ∧ announced.route = route then
        some (isBam, announced)
      else none := by
  simp only [J1939TransportProtocol.admittedOn, J1939TransportProtocol.admitted, announces]
  cases passed : engine.admits clock isBam announced <;> simp [Option.filter, passed]

/-- What one call leaves under a key: an entry it did not concern, the session its
packet continued, or the session its announcement opened. -/
inductive Kept (engine : J1939TransportProtocol) (op : EngineOp)
    (entry : RxKey × ReassemblySession) : Prop
  | untouched (member : entry ∈ engine.rxSessions) (empty : op.packetOn entry.1.route = none)
      (quiet : engine.admittedOn op entry.1.route = none)
  | continued (session : ReassemblySession) (packet : Packet) (now : Nat)
      (member : (session.key, session) ∈ engine.rxSessions)
      (delivered : op.packetOn entry.1.route = some packet)
      (quiet : engine.admittedOn op entry.1.route = none)
      (inOrder : packet.seq = session.expectedSequence)
      (same : entry = (session.key, session.append packet.payload now))
  | opened (isBam : Bool) (announced : Announcement) (window now : Nat)
      (admitted : engine.admittedOn op entry.1.route = some (isBam, announced))
      (same : entry = (announced.key, announced.session isBam window now))

theorem J1939TransportProtocol.ReceiverInvariant.mem_announce {engine : J1939TransportProtocol}
    (invariant : engine.ReceiverInvariant) {clock : Clock} {isBam : Bool}
    {announced : Announcement} {entry : RxKey × ReassemblySession}
    (wellFormed : announced.wellFormed = true)
    (member : entry ∈
      ((engine.reapStaleSessions clock.reap).announce clock isBam announced).rxSessions) :
    (entry ∈ engine.rxSessions ∧
        ¬ (engine.admits clock isBam announced = true ∧ announced.route = entry.1.route)) ∨
      (engine.admits clock isBam announced = true ∧
        ∃ window now, entry = (announced.key, announced.session isBam window now)) := by
  have reaped := invariant.reap clock.reap
  have fewer := reapStaleSessions_sublist engine clock.reap
  unfold J1939TransportProtocol.admits
  rw [wellFormed, Bool.true_and]
  unfold J1939TransportProtocol.announce at member
  split at member
  · rename_i mine
    rw [mine, Bool.true_and]
    cases clearing : (engine.reapStaleSessions clock.reap).clearPredecessor clock announced with
    | refused marked =>
      rw [clearing] at member
      dsimp only at member
      rw [(clearPredecessor_refused clearing).rxSessions] at member
      exact Or.inl ⟨fewer.subset member, fun admitted => absurd admitted.1 Bool.false_ne_true⟩
    | cleared cleared predecessor =>
      rw [clearing] at member
      obtain ⟨kept, fewerCleared, vacant⟩ := reaped.clearPredecessor clearing
      dsimp only at member ⊢
      unfold J1939TransportProtocol.place at member
      split at member
      · rename_i quota
        refine Or.inl ⟨fewer.subset (fewerCleared.subset member), ?_⟩
        intro admitted
        rw [quota] at admitted
        exact absurd admitted.1 Bool.false_ne_true
      · rename_i below
        have absent : announced.key ∉ cleared.rxSessions.keys := by
          intro present
          obtain ⟨other, stored, same⟩ := List.mem_map.mp present
          exact vacant other stored (congrArg RxKey.route same)
        obtain ⟨roomy, fewerRoom, -⟩ := kept.makeRoom absent
        rcases (Dict.mem_set roomy.distinct).mp member with new | ⟨old, -⟩
        · refine Or.inr ⟨?_, _, _, new⟩
          rw [Bool.eq_false_iff.mpr below]
          rfl
        · have stored := fewerRoom.subset old
          exact Or.inl ⟨fewer.subset (fewerCleared.subset stored), fun admitted =>
            vacant entry stored admitted.2.symm⟩
  · rename_i foreign
    refine Or.inl ⟨fewer.subset member, ?_⟩
    intro admitted
    rw [Bool.eq_false_iff.mpr foreign] at admitted
    exact absurd admitted.1 Bool.false_ne_true

theorem J1939TransportProtocol.PacketOutcome.kept {engine after : J1939TransportProtocol} {now : Nat} {route : Route}
    {packet : Packet} {completed : Option CompletedMessage}
    (outcome : PacketOutcome engine now route packet after completed)
    (invariant : engine.ReceiverInvariant) {op : EngineOp} {entry : RxKey × ReassemblySession}
    (delivers : op.packetOn entry.1.route = if route = entry.1.route then some packet else none)
    (quiet : engine.admittedOn op entry.1.route = none) (member : entry ∈ after.rxSessions) :
    Kept engine op entry := by
  have elsewhere (stored : entry ∈ engine.rxSessions) (other : route ≠ entry.1.route) :
      Kept engine op entry := .untouched stored (delivers.trans (if_neg other)) quiet
  have dropped (session : ReassemblySession)
      (live : (session.key, session) ∈ engine.rxSessions) (here : session.route = route)
      (left : entry ∈ engine.rxSessions.erase session.key) : Kept engine op entry := by
    obtain ⟨stored, different⟩ := Dict.mem_erase.mp left
    refine elsewhere stored ?_
    intro same
    have equal := invariant.entry_unique stored live (same.symm.trans here.symm)
    exact different (congrArg Prod.fst equal)
  cases outcome with
  | unclaimed vacant => exact elsewhere member (fun same => vacant entry member same.symm)
  | dropped session live here => exact dropped session live here member
  | extended session live here inOrder incomplete =>
      rcases (Dict.mem_set invariant.distinct).mp member with new | ⟨stored, different⟩
      · have same : route = entry.1.route := by
          rw [new]
          exact here.symm
        exact .continued session packet now live (delivers.trans (if_pos same)) quiet inOrder new
      · exact dropped session live here (Dict.mem_erase.mpr ⟨stored, different⟩)
  | completed session live here => exact dropped session live here member

theorem J1939TransportProtocol.ReceiverInvariant.mem_perform {engine : J1939TransportProtocol}
    (invariant : engine.ReceiverInvariant) (op : EngineOp) {entry : RxKey × ReassemblySession}
    (member : entry ∈ (engine.perform op).rxSessions) : Kept engine op entry := by
  cases op with
  | frame clock frame suppress =>
      obtain ⟨received, reception, same⟩ := handleRxFrame_reception engine clock frame suppress
      have stored : entry ∈ received.rxSessions := same.rxSessions ▸ member
      have reaped := reapStaleSessions_sublist engine clock.reap
      generalize (engine.handleRxFrame clock frame suppress).2.1 = completed at reception
      cases reception with
      | idle silent empty =>
          exact .untouched stored (packetOn_of_empty _ empty) (admittedOn_of_silent engine _ silent)
      | malformed isBam announced announces empty malformed =>
          refine .untouched stored (packetOn_of_empty _ empty) ?_
          rw [admittedOn_frame announces]
          refine if_neg ?_
          intro admitted
          have form := admitted.1
          unfold J1939TransportProtocol.admits at form
          rw [malformed] at form
          cases form
      | announced isBam announced announces empty wellFormed =>
          rcases invariant.mem_announce wellFormed stored with ⟨old, unadmitted⟩ | ⟨passed, opened⟩
          · refine .untouched old (packetOn_of_empty _ empty) ?_
            rw [admittedOn_frame announces, if_neg unadmitted]
          · obtain ⟨window, now, rfl⟩ := opened
            refine .opened isBam announced window now ?_ rfl
            rw [admittedOn_frame announces]
            exact if_pos ⟨passed, rfl⟩
      | aborted silent empty key =>
          exact .untouched (reaped.subset ((releaseSessionSlot_sublist _ _ _).subset stored))
            (packetOn_of_empty _ empty) (admittedOn_of_silent engine _ silent)
      | reaped silent empty =>
          exact .untouched (reaped.subset stored) (packetOn_of_empty _ empty)
            (admittedOn_of_silent engine _ silent)
      | packet silent route packet carried =>
          exact (invariant.handleTpDt clock carried).kept invariant (packetOn_frame carried)
            (admittedOn_of_silent engine _ silent) stored
  | startTransfer clock target pgn data channel =>
      have same := startCmdtTransfer_receiver engine clock target pgn data channel
      exact .untouched (same.rxSessions ▸ member) rfl rfl
  | advance now target pgn channel =>
      have same := advanceCmdtTransfer_receiver engine now target pgn channel
      exact .untouched (same.rxSessions ▸ member) rfl rfl
  | poll now => exact .untouched member rfl rfl
  | reap now => exact .untouched ((reapStaleSessions_sublist engine now).subset member) rfl rfl
  | takePending => exact .untouched member rfl rfl
  | setMyAddress newAddress =>
      have same := setMyAddress_receiver engine newAddress
      exact .untouched (same.rxSessions ▸ member) rfl rfl
  | reset => cases member

end Membership

section Tracing

variable {first engine : J1939TransportProtocol} {past : List EngineOp}

def Traced (first : J1939TransportProtocol) (past : List EngineOp)
    (session : ReassemblySession) : Prop :=
  ∃ history : TransferHistory first past session.route, session.Records history

theorem ReassemblySession.Records.next {session : ReassemblySession}
    {history : TransferHistory first past session.route} (records : session.Records history)
    (reaches : Reaches past first engine) {op : EngineOp}
    (quiet : engine.admittedOn op session.route = none)
    (empty : op.packetOn session.route = none) :
    session.Records (history.next reaches quiet) := by
  have unchanged : packetsOn session.route (history.next reaches quiet).since =
      packetsOn session.route history.since := by
    refine (packetsOn_snoc session.route history.since op).trans ?_
    rw [empty]
    exact List.append_nil _
  exact {
    pgn := records.pgn
    bytes := records.bytes
    packets := records.packets
    numbered := unchanged ▸ records.numbered
    filled := unchanged ▸ records.filled }

theorem ReassemblySession.Records.append {session : ReassemblySession}
    {history : TransferHistory first past session.route} (records : session.Records history)
    (started : 1 ≤ session.expectedSequence) (reaches : Reaches past first engine) {op : EngineOp}
    (quiet : engine.admittedOn op session.route = none) {packet : Packet}
    (delivered : op.packetOn session.route = some packet)
    (inOrder : packet.seq = session.expectedSequence) (now : Nat) :
    @Records first (past ++ [op]) (session.append packet.payload now)
      (history.next reaches quiet) := by
  have extended : packetsOn session.route (history.next reaches quiet).since =
      packetsOn session.route history.since ++ [packet] := by
    refine (packetsOn_snoc session.route history.since op).trans ?_
    rw [delivered]
    rfl
  refine {
    pgn := records.pgn
    bytes := records.bytes
    packets := records.packets
    numbered := ?_
    filled := ?_ }
  · change (packetsOn session.route (history.next reaches quiet).since).map Packet.seq =
      List.range' 1 session.expectedSequence
    obtain ⟨position, at_position⟩ : ∃ position, session.expectedSequence = position + 1 :=
      ⟨session.expectedSequence - 1, by omega⟩
    have numbered := records.numbered
    rw [at_position, Nat.add_sub_cancel] at numbered
    rw [extended, List.map_append, numbered, at_position, List.range'_1_concat, Nat.add_comm 1,
      ← at_position, ← inOrder]
    rfl
  · change session.receivedBytes ++
        packet.payload.take (session.totalBytes - session.receivedBytes.length) =
      ((packetsOn session.route (history.next reaches quiet).since).flatMap Packet.payload).take
        session.totalBytes
    rw [extended, List.flatMap_append, List.flatMap_singleton, List.take_append, ← records.filled]
    have length := congrArg List.length records.filled
    rw [List.length_take] at length
    congr 2
    omega

theorem Kept.traced {op : EngineOp} {entry : RxKey × ReassemblySession}
    (kept : Kept engine op entry) (invariant : engine.ReceiverInvariant)
    (reaches : Reaches past first engine)
    (traced : ∀ entry ∈ engine.rxSessions, Traced first past entry.2) :
    Traced first (past ++ [op]) entry.2 := by
  cases kept with
  | untouched member empty quiet =>
      have route : entry.1.route = entry.2.route := by
        rw [← invariant.keyed entry member]
        rfl
      rw [route] at empty quiet
      obtain ⟨history, records⟩ := traced entry member
      exact ⟨history.next reaches quiet, records.next reaches quiet empty⟩
  | continued session packet now member delivered quiet inOrder same =>
      subst same
      obtain ⟨history, records⟩ := traced _ member
      exact ⟨history.next reaches quiet, records.append (invariant.waiting _ member).started
        reaches quiet delivered inOrder now⟩
  | opened isBam announced window now admitted same =>
      subst same
      refine ⟨TransferHistory.start reaches admitted, ?_⟩
      exact { pgn := rfl, bytes := rfl, packets := rfl, numbered := rfl, filled := List.take_nil.symm }

theorem J1939TransportProtocol.Reaches.traced {myAddress rxCtsWindow : Nat} {channel : ChannelId}
    (reaches : Reaches past (fresh myAddress channel rxCtsWindow) engine) :
    ∀ entry ∈ engine.rxSessions,
      Traced (fresh myAddress channel rxCtsWindow) past entry.2 := by
  refine @EventRun.run_history_invariant J1939TransportProtocol EngineOp engineStep
    (fun past engine => ∀ entry ∈ engine.rxSessions,
      Traced (fresh myAddress channel rxCtsWindow) past entry.2) _ engine past ?_ ?_ reaches
  · intro entry member
    cases member
  · intro past engine op next ran traced stepped entry member
    cases stepped
    have invariant := Reaches.invariant ran (fresh_invariant myAddress channel rxCtsWindow)
    exact (invariant.mem_perform op member).traced invariant ran traced

end Tracing

theorem J1939TransportProtocol.Reception.of_message {engine received : J1939TransportProtocol}
    {clock : Clock} {frame : CanFrame} {message : CompletedMessage}
    (reception : Reception engine clock frame received (some message))
    (invariant : engine.ReceiverInvariant) :
    announcedBy frame = none ∧ ∃ route packet, packetOf frame = some (route, packet) ∧
      ∃ session : ReassemblySession, (session.key, session) ∈ engine.rxSessions ∧
        session.route = route ∧ packet.seq = session.expectedSequence ∧
        (session.append packet.payload clock.session).complete = true ∧
        message = {
          sourceAddress := session.sourceAddress
          destinationAddress := session.destinationAddress
          pgn := session.targetPgn
          data := (session.append packet.payload clock.session).receivedBytes.take
            session.totalBytes
          channel := session.channel } := by
  generalize completes : some message = completed at reception
  cases reception with
  | packet silent route packet carried =>
      refine ⟨silent, route, packet, carried, ?_⟩
      have outcome := invariant.handleTpDt clock carried
      rw [← completes] at outcome
      generalize (engine.handleTpDt clock frame route.1 route.2.1).1 = after at outcome
      cases outcome with
      | completed session member here inOrder complete =>
          exact ⟨session, member, here, inOrder, complete, rfl⟩
  | _ => cases completes

/-- A completed message is what the packets of its route carried since the most
recent admitted announcement: as many as it announced, numbered in order, cut to
the announced size. -/
theorem completed_message_sound {myAddress rxCtsWindow : Nat} {channel : ChannelId}
    {ops : List EngineOp} {engine : J1939TransportProtocol}
    (reaches : Reaches ops (fresh myAddress channel rxCtsWindow) engine) {clock : Clock}
    {frame : CanFrame} {suppress : Bool} {message : CompletedMessage}
    (returned : (engine.handleRxFrame clock frame suppress).2.1 = some message) :
    ∃ history : TransferHistory (fresh myAddress channel rxCtsWindow)
        (ops ++ [.frame clock frame suppress])
        (message.sourceAddress, message.destinationAddress, message.channel),
      message.pgn = history.announced.targetPgn ∧
      message.data.length = history.announced.totalBytes ∧
      (packetsOn (message.sourceAddress, message.destinationAddress, message.channel)
        history.since).map Packet.seq = List.range' 1 history.announced.totalPackets ∧
      (∀ packet ∈ packetsOn (message.sourceAddress, message.destinationAddress, message.channel)
        history.since, packet.payload.length = 7) ∧
      message.data = ((packetsOn
        (message.sourceAddress, message.destinationAddress, message.channel)
          history.since).flatMap Packet.payload).take history.announced.totalBytes := by
  have invariant := reaches.invariant (fresh_invariant myAddress channel rxCtsWindow)
  obtain ⟨received, reception, -⟩ := handleRxFrame_reception engine clock frame suppress
  rw [returned] at reception
  obtain ⟨silent, route, packet, carried, outcome⟩ := reception.of_message invariant
  obtain ⟨session, member, here, inOrder, complete, same⟩ := outcome
  have seven := packetOf_payload_length carried
  have waiting := invariant.waiting _ member
  obtain ⟨last, size⟩ := waiting.complete seven complete
  obtain ⟨history, records⟩ := reaches.traced _ member
  have quiet : engine.admittedOn (.frame clock frame suppress) session.route = none :=
    admittedOn_of_silent engine _ silent
  have delivered : (EngineOp.frame clock frame suppress).packetOn session.route = some packet :=
    (packetOn_frame carried).trans (if_pos here.symm)
  obtain ⟨pgn, bytes, packets, numbered, filled⟩ :=
    records.append waiting.started reaches quiet delivered inOrder clock.session
  subst same
  refine ⟨history.next reaches quiet, pgn, ?_, ?_, ?_, ?_⟩
  · change ((session.append packet.payload clock.session).receivedBytes.take
      session.totalBytes).length = history.announced.totalBytes
    rw [List.length_take, size, Nat.min_self, records.bytes]
  · refine numbered.trans ?_
    change List.range' 1 session.expectedSequence = List.range' 1 history.announced.totalPackets
    rw [last, records.packets]
  · intro other member
    obtain ⟨op, -, on_route⟩ := List.mem_filterMap.mp member
    exact packetOn_payload_length on_route
  · change (session.append packet.payload clock.session).receivedBytes.take session.totalBytes = _
    rw [filled, List.take_take]
    change List.take (min session.totalBytes session.totalBytes) _ = _
    rw [Nat.min_self, records.bytes]
    rfl

/-- The second packet of ten bytes completes them. -/
theorem ten_bytes_sound :
    ∃ engine message, Reaches tenBytesBegun tenBytesListener engine ∧
      (engine.handleRxFrame (.at 0) (tenBytesPacket 2) false).2.1 = some message ∧
      ∃ history : TransferHistory tenBytesListener
          (tenBytesBegun ++ [.frame (.at 0) (tenBytesPacket 2) false])
          (message.sourceAddress, message.destinationAddress, message.channel),
        message.pgn = history.announced.targetPgn := by
  have completes : ((tenBytesBegun.foldl J1939TransportProtocol.perform tenBytesListener).handleRxFrame (.at 0)
      (tenBytesPacket 2) false).2.1.isSome = true := by decide +kernel
  obtain ⟨message, returned⟩ := Option.isSome_iff_exists.mp completes
  obtain ⟨history, pgn, -⟩ := completed_message_sound tenBytesBegun_reached returned
  exact ⟨_, message, tenBytesBegun_reached, returned, history, pgn⟩

end Ucanlab.J1939
