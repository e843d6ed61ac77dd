import Ucanlab.Engine.FramePipeline

/-!
The accounts of the ISO-TP sessions: the counters of the quota buckets against the sessions
that are there, the quota of a peer and the cap of the table, over every run of a pipeline.
-/

namespace Ucanlab.Engine

open Ucanlab IsoTp J1939

namespace ReassemblyPipeline

def sessionsIn (pipeline : ReassemblyPipeline) (quotaKey : Nat) : Nat :=
  pipeline.isotpSessions.countP (fun entry => decide (entry.2.quotaKey = quotaKey))

structure Accounted (pipeline : ReassemblyPipeline) : Prop where
  distinct : pipeline.isotpSessions.keys.Nodup
  counted : ∀ quotaKey, pipeline.isotpPerSaSessions quotaKey = pipeline.sessionsIn quotaKey
  quota : ∀ quotaKey, pipeline.isotpPerSaSessions quotaKey ≤ maxSessionsPerSa
  cap : pipeline.isotpSessions.length ≤ maxConcurrentSessions

section Steps

variable {pipeline : ReassemblyPipeline}

theorem sessionsIn_erase (distinct : pipeline.isotpSessions.keys.Nodup) {key : SessionKey}
    {session : IsoTpSession} (found : pipeline.isotpSessions.get? key = some session)
    (quotaKey : Nat) :
    pipeline.sessionsIn quotaKey =
      (pipeline.isotpSessions.erase key).countP
        (fun entry => decide (entry.2.quotaKey = quotaKey)) +
          if session.quotaKey = quotaKey then 1 else 0 := by
  unfold sessionsIn
  rw [(Dict.perm_cons_erase distinct (Dict.mem_of_get? found)).countP_eq, List.countP_cons]
  simp

theorem releaseIsotpSession_counter (key : SessionKey) (quotaKey : Nat) :
    (pipeline.releaseIsotpSession key).isotpPerSaSessions quotaKey ≤
      pipeline.isotpPerSaSessions quotaKey := by
  unfold releaseIsotpSession
  cases pipeline.isotpSessions.get? key with
  | none => exact Nat.le_refl _
  | some session =>
      unfold decrementSaQuota
      dsimp only
      split
      · split <;> omega
      · exact Nat.le_refl _

theorem releaseIsotpSession_sessions (pipeline : ReassemblyPipeline) (key : SessionKey) :
    (pipeline.releaseIsotpSession key).isotpSessions = pipeline.isotpSessions.erase key := by
  unfold releaseIsotpSession
  cases found : pipeline.isotpSessions.get? key with
  | none => exact (Dict.erase_of_absent (Dict.get?_eq_none_iff.mp found)).symm
  | some session => rfl

theorem Accounted.release (accounted : pipeline.Accounted) (key : SessionKey) :
    (pipeline.releaseIsotpSession key).Accounted := by
  have sessions := releaseIsotpSession_sessions pipeline key
  constructor
  case distinct =>
    rw [sessions]
    exact accounted.distinct.sublist (Dict.keys_erase_sublist _ key)
  case counted =>
    intro quotaKey
    have before := accounted.counted quotaKey
    unfold sessionsIn
    rw [sessions]
    unfold releaseIsotpSession
    cases found : pipeline.isotpSessions.get? key with
    | none =>
        rw [Dict.erase_of_absent (Dict.get?_eq_none_iff.mp found)]
        exact before
    | some session =>
        have split := sessionsIn_erase accounted.distinct found quotaKey
        unfold decrementSaQuota
        dsimp only
        by_cases same : quotaKey = session.quotaKey
        · rw [if_pos same]
          rw [if_pos same.symm] at split
          split <;> omega
        · rw [if_neg same]
          rw [if_neg (fun equal => same equal.symm)] at split
          omega
  case quota =>
    intro quotaKey
    exact Nat.le_trans (releaseIsotpSession_counter key quotaKey) (accounted.quota quotaKey)
  case cap =>
    rw [sessions]
    exact Nat.le_trans (List.length_filter_le _ _) accounted.cap

theorem Accounted.makeRoom (accounted : pipeline.Accounted) :
    pipeline.makeRoom.Accounted ∧
      pipeline.makeRoom.isotpSessions.length < maxConcurrentSessions ∧
      (∀ quotaKey, pipeline.makeRoom.isotpPerSaSessions quotaKey ≤
        pipeline.isotpPerSaSessions quotaKey) ∧
      ∀ key, key ∉ pipeline.isotpSessions.keys →
        key ∉ pipeline.makeRoom.isotpSessions.keys := by
  unfold ReassemblyPipeline.makeRoom
  split
  · rename_i full
    cases oldest : List.argmin (fun entry => entry.2.lastActivityTime) pipeline.isotpSessions with
    | none =>
        have empty := List.argmin_eq_none.mp oldest
        rw [empty] at full
        exact absurd full (by decide)
    | some entry =>
        have present := Dict.mem_keys (List.argmin_mem oldest)
        have sessions := releaseIsotpSession_sessions pipeline entry.1
        refine ⟨accounted.release entry.1, ?_, releaseIsotpSession_counter entry.1, ?_⟩
        · dsimp only
          rw [sessions]
          exact Nat.lt_of_lt_of_le (Dict.length_erase_lt present) accounted.cap
        · intro key absent
          dsimp only
          rw [sessions]
          exact fun member => absent ((Dict.keys_erase_sublist _ _).subset member)
  · rename_i room
    exact ⟨accounted, Nat.lt_of_not_le room, fun _ => Nat.le_refl _, fun _ absent => absent⟩

theorem Accounted.insert (accounted : pipeline.Accounted) {key : SessionKey}
    {session : IsoTpSession} (absent : key ∉ pipeline.isotpSessions.keys)
    (room : pipeline.isotpSessions.length < maxConcurrentSessions)
    (quota : pipeline.isotpPerSaSessions session.quotaKey < maxSessionsPerSa) :
    (pipeline.insertSession key session).Accounted := by
  have stored : (pipeline.insertSession key session).isotpSessions =
      pipeline.isotpSessions ++ [(key, session)] := Dict.set_of_absent session absent
  constructor
  case distinct => exact Dict.nodup_keys_set accounted.distinct key session
  case counted =>
    intro quotaKey
    have before := accounted.counted quotaKey
    unfold sessionsIn at before ⊢
    rw [stored, List.countP_append]
    unfold insertSession
    dsimp only
    by_cases same : quotaKey = session.quotaKey
    · rw [if_pos same, before]
      simp [same]
    · rw [if_neg same, before]
      simp [Ne.symm same]
  case quota =>
    intro quotaKey
    have before := accounted.quota quotaKey
    unfold insertSession
    dsimp only
    split
    · rename_i same
      rw [same]
      exact quota
    · exact before
  case cap =>
    rw [stored, List.length_append, List.length_singleton]
    exact room

theorem Accounted.replace (accounted : pipeline.Accounted) {key : SessionKey}
    {session after : IsoTpSession} (found : pipeline.isotpSessions.get? key = some session)
    (same : after.quotaKey = session.quotaKey) :
    Accounted { pipeline with isotpSessions := pipeline.isotpSessions.set key after } := by
  have member := Dict.mem_of_get? found
  have present := Dict.mem_keys member
  constructor
  case distinct => exact Dict.nodup_keys_set accounted.distinct key after
  case counted =>
    intro quotaKey
    have replaced := Dict.perm_set_of_mem accounted.distinct member after
    have before := accounted.counted quotaKey
    rw [sessionsIn_erase accounted.distinct found quotaKey] at before
    unfold sessionsIn
    dsimp only at replaced ⊢
    rw [replaced.countP_eq, List.countP_cons, before]
    simp [same]
  case quota => exact accounted.quota
  case cap =>
    dsimp only
    rw [Dict.length_set_of_present after present]
    exact accounted.cap

theorem Accounted.handleSingleFrame (accounted : pipeline.Accounted) (frame : CanFrame) :
    (pipeline.handleSingleFrame frame).1.Accounted := by
  unfold ReassemblyPipeline.handleSingleFrame
  dsimp only
  split
  · split
    · exact accounted
    · split
      · exact accounted
      · exact accounted.release (frameKey frame)
  · split
    · exact accounted
    · exact accounted.release (frameKey frame)

theorem Accounted.handleFirstFrame (accounted : pipeline.Accounted) (now : Nat)
    (frame : CanFrame) : (pipeline.handleFirstFrame now frame).1.Accounted := by
  have released := accounted.release (frameKey frame)
  have absent : frameKey frame ∉
      (pipeline.releaseIsotpSession (frameKey frame)).isotpSessions.keys := by
    rw [releaseIsotpSession_sessions]
    exact Dict.get?_eq_none_iff.mp (Dict.get?_erase_self _ _)
  unfold ReassemblyPipeline.handleFirstFrame
  split
  · exact accounted
  · dsimp only
    split
    · exact accounted
    · split
      · exact released
      · split
        · exact released
        · rename_i quota
          obtain ⟨roomy, room, fewer, kept⟩ := released.makeRoom
          exact roomy.insert (kept _ absent) room
            (Nat.lt_of_le_of_lt (fewer _) (Nat.lt_of_not_le quota))

theorem Accounted.handleConsecutiveFrame (accounted : pipeline.Accounted) (now : Nat)
    (frame : CanFrame) : (pipeline.handleConsecutiveFrame now frame).1.Accounted := by
  have released := accounted.release (frameKey frame)
  unfold ReassemblyPipeline.handleConsecutiveFrame
  split
  · exact accounted
  · rename_i session found
    split
    · exact released
    · split
      · exact released
      · split
        · exact released
        · dsimp only
          split
          · exact released
          · exact accounted.replace found rfl

theorem Accounted.handleDynamicIsotp (accounted : pipeline.Accounted) (now : Nat)
    (frame : CanFrame) : (pipeline.handleDynamicIsotp now frame).1.Accounted := by
  unfold ReassemblyPipeline.handleDynamicIsotp
  dsimp only
  split
  · exact accounted.handleSingleFrame frame
  · split
    · exact accounted.handleFirstFrame now frame
    · split
      · exact accounted.handleConsecutiveFrame now frame
      · exact accounted

theorem Accounted.reapStaleIsotpSessions (accounted : pipeline.Accounted) (now : Nat) :
    (pipeline.reapStaleIsotpSessions now).Accounted := by
  unfold ReassemblyPipeline.reapStaleIsotpSessions
  dsimp only
  generalize pipeline.isotpSessions.filter _ = expired
  induction expired generalizing pipeline with
  | nil => exact accounted
  | cons entry rest ih => exact ih (accounted.release entry.1)

end Steps

end ReassemblyPipeline

inductive PipelineEvent where
  | receive (clock : IngressClock) (arrival : StampedFrame)
  | reap (clock : IngressClock)
  | reset

namespace FramePipeline

def perform (pipeline : FramePipeline) : PipelineEvent → FramePipeline
  | .receive clock arrival => (pipeline.processFrame clock arrival).1
  | .reap clock => pipeline.reapStaleSessions clock
  | .reset => pipeline.reset

section Steps

variable {pipeline : FramePipeline}

theorem registerSynthetic_isotp (identity : FrameIdentity) :
    (pipeline.registerSynthetic identity).toReassemblyPipeline =
      pipeline.toReassemblyPipeline := by
  unfold registerSynthetic
  generalize pipeline.internalSyntheticIds.set identity () = ids
  generalize ids.drop (ids.length - internalSyntheticIdsCap) = kept
  rfl

theorem finalizeReassembledMessage_isotp (message : Transfer) :
    (pipeline.finalizeReassembledMessage message).1.toReassemblyPipeline =
      pipeline.toReassemblyPipeline := by
  unfold finalizeReassembledMessage
  cases message.synthesize with
  | error error => rfl
  | ok synthetic => exact registerSynthetic_isotp synthetic.identity

theorem tryProcessJ1939_isotp (pipeline : FramePipeline) (clock : J1939.Clock)
    (arrival : StampedFrame) :
    (pipeline.tryProcessJ1939 clock arrival).1.toReassemblyPipeline =
      pipeline.toReassemblyPipeline := by
  unfold tryProcessJ1939
  dsimp only
  split <;> rfl

theorem tryProcessIsotp_accounted (accounted : pipeline.toReassemblyPipeline.Accounted)
    (now : Nat) (arrival : StampedFrame) :
    (pipeline.tryProcessIsotp now arrival).1.toReassemblyPipeline.Accounted := by
  unfold FramePipeline.tryProcessIsotp
  split
  · exact accounted
  · split
    · exact accounted
    · exact accounted.handleDynamicIsotp now arrival.frame

theorem finishIsotp_accounted (accounted : pipeline.toReassemblyPipeline.Accounted) (now : Nat)
    (arrival : StampedFrame) :
    (pipeline.finishIsotp now arrival).1.toReassemblyPipeline.Accounted := by
  have handled := tryProcessIsotp_accounted accounted now arrival
  unfold finishIsotp
  split
  · rename_i shape
    rw [shape] at handled
    exact handled
  · rename_i shape
    rw [shape] at handled
    exact handled
  · rename_i shape
    rw [shape] at handled
    rw [finalizeReassembledMessage_isotp]
    exact handled

theorem interceptFrame_accounted (accounted : pipeline.toReassemblyPipeline.Accounted)
    (clock : IngressClock) (arrival : StampedFrame) :
    (pipeline.interceptFrame clock arrival).1.toReassemblyPipeline.Accounted := by
  unfold interceptFrame
  dsimp only
  generalize reaping : (if (pipeline.totalFramesProcessed + 1) % 64 = 0 then
    FramePipeline.reapStaleSessions
      { pipeline with totalFramesProcessed := pipeline.totalFramesProcessed + 1 } clock
    else { pipeline with totalFramesProcessed := pipeline.totalFramesProcessed + 1 }) = reaped
  have kept : reaped.toReassemblyPipeline.Accounted := by
    rw [← reaping]
    split
    · exact accounted.reapStaleIsotpSessions clock.reap
    · exact accounted
  split
  · have unchanged := tryProcessJ1939_isotp reaped clock.transport arrival
    split
    · rename_i shape
      rw [shape] at unchanged
      rw [finalizeReassembledMessage_isotp, unchanged]
      exact kept
    · rename_i shape
      rw [shape] at unchanged
      apply finishIsotp_accounted
      rw [unchanged]
      exact kept
  · exact finishIsotp_accounted kept clock.isotp arrival

theorem accounted_nil {isotp : ReassemblyPipeline} (sessions : isotp.isotpSessions = [])
    (counters : isotp.isotpPerSaSessions = fun _ => 0) : isotp.Accounted := by
  constructor
  case distinct =>
    rw [sessions]
    exact List.nodup_nil
  case counted =>
    intro quotaKey
    unfold ReassemblyPipeline.sessionsIn
    rw [sessions, counters]
    rfl
  case quota =>
    intro quotaKey
    rw [counters]
    exact Nat.zero_le _
  case cap =>
    rw [sessions]
    exact Nat.zero_le _

theorem perform_accounted (accounted : pipeline.toReassemblyPipeline.Accounted)
    (event : PipelineEvent) :
    (pipeline.perform event).toReassemblyPipeline.Accounted := by
  cases event with
  | receive clock arrival =>
      change (pipeline.processFrame clock arrival).1.toReassemblyPipeline.Accounted
      unfold processFrame
      split
      · exact accounted
      · exact interceptFrame_accounted accounted clock arrival
  | reap clock => exact accounted.reapStaleIsotpSessions clock.reap
  | reset => exact accounted_nil rfl rfl

end Steps

/-- Over every run of frames, sweeps and resets the counter of a bucket is the number of its
sessions, no bucket has more than its quota and the table stays within its cap. -/
theorem sessions_accounted (hasTxPort : Bool) (myIsotpAddress : Nat) (flowControlEnabled : Bool)
    (isotpRxIds : List Nat) (j1939Transport : J1939TransportProtocol)
    (isotpTransport : Option ReceivingTransport) (routesSyntheticFrames : Bool)
    (events : List PipelineEvent) :
    let pipeline := events.foldl perform {
      hasTxPort := hasTxPort
      myIsotpAddress := myIsotpAddress
      flowControlEnabled := flowControlEnabled
      isotpRxIds := isotpRxIds
      j1939Transport := j1939Transport
      isotpTransport := isotpTransport
      routesSyntheticFrames := routesSyntheticFrames }
    (∀ quotaKey, pipeline.isotpPerSaSessions quotaKey = pipeline.sessionsIn quotaKey ∧
      pipeline.sessionsIn quotaKey ≤ 4) ∧ pipeline.isotpSessions.length ≤ 512 := by
  have every (pipeline : FramePipeline)
      (start : pipeline.toReassemblyPipeline.Accounted) :
      (events.foldl perform pipeline).toReassemblyPipeline.Accounted := by
    induction events generalizing pipeline with
    | nil => exact start
    | cons event rest ih => exact ih _ (perform_accounted start event)
  have accounted := every {
    hasTxPort := hasTxPort
    myIsotpAddress := myIsotpAddress
    flowControlEnabled := flowControlEnabled
    isotpRxIds := isotpRxIds
    j1939Transport := j1939Transport
    isotpTransport := isotpTransport
    routesSyntheticFrames := routesSyntheticFrames } (accounted_nil rfl rfl)
  refine ⟨?_, accounted.cap⟩
  intro quotaKey
  have counted := accounted.counted quotaKey
  refine ⟨counted, ?_⟩
  rw [← counted]
  exact accounted.quota quotaKey

end FramePipeline

end Ucanlab.Engine
