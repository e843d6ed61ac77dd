import Ucanlab.Engine.ReassemblyPipeline
import Ucanlab.Lib.EventRun

/-!
The dynamic reassembler of the pipeline against the synchronous transport, on the frames
of one identifier and channel. Both are compared with one abstract collector, which the
two follow except on a Single Frame longer than its form allows and on a First Frame too
long for the buffer in the middle of a message.
-/

namespace Ucanlab.Engine

open Ucanlab IsoTp

section Collector

structure Collection where
  totalBytes : Nat
  expectedSequenceNumber : Nat
  receivedBytes : Bytes

def Collection.extend (collection : Collection) (payload : Bytes) : Collection where
  totalBytes := collection.totalBytes
  expectedSequenceNumber := (collection.expectedSequenceNumber + 1) &&& 0x0F
  receivedBytes := collection.receivedBytes ++
    payload.take (min (collection.totalBytes - collection.receivedBytes.length) payload.length)

def singlePayload (isFd : Bool) (data : Bytes) : Option Bytes :=
  let nibble := lowNibble (data.getD 0 0)
  if nibble = 0 then
    let sfLen := (data.getD 1 0).toNat
    if isFd ∧ 8 ≤ sfLen ∧ sfLen ≤ 62 ∧ sfLen ≤ data.length - 2 then
      some ((data.drop 2).take sfLen)
    else none
  else if nibble ≤ 7 ∧ nibble ≤ data.length - 1 then some ((data.drop 1).take nibble)
  else none

def collectFirst (collecting : Option Collection) (data : Bytes) :
    Option Collection × Option Bytes :=
  match firstFrameLength data with
  | none => (collecting, none)
  | some (totalLen, headerLen) =>
      if totalLen > maxPayloadSize then (collecting, none)
      else
        let chunk := (data.drop headerLen).take totalLen
        if chunk.length ≥ totalLen then (none, some (chunk.take totalLen))
        else (some ⟨totalLen, 1, chunk⟩, none)

def collectConsecutive (collecting : Option Collection) (data : Bytes) :
    Option Collection × Option Bytes :=
  match collecting with
  | none => (none, none)
  | some collection =>
      if lowNibble (data.getD 0 0) ≠ collection.expectedSequenceNumber then (none, none)
      else
        let extended := collection.extend (data.drop 1)
        if extended.receivedBytes.length ≥ extended.totalBytes then
          (none, some (extended.receivedBytes.take extended.totalBytes))
        else (some extended, none)

/-- What a frame makes of the message being collected, and the message it completes. -/
def collect (collecting : Option Collection) (isFd : Bool) (data : Bytes) :
    Option Collection × Option Bytes :=
  let pciType := highNibble (data.getD 0 0)
  if data.length < 2 then (collecting, none)
  else if pciType = pciSingleFrame then
    match singlePayload isFd data with
    | none => (collecting, none)
    | some payload => (none, some payload)
  else if pciType = pciFirstFrame then collectFirst collecting data
  else if pciType = pciConsecutiveFrame then collectConsecutive collecting data
  else (collecting, none)

def overlongSingle (data : Bytes) : Bool :=
  decide (highNibble (data.getD 0 0) = pciSingleFrame ∧ 8 ≤ lowNibble (data.getD 0 0) ∧
    lowNibble (data.getD 0 0) ≤ data.length - 1)

def oversizedFirst (data : Bytes) : Bool :=
  decide (highNibble (data.getD 0 0) = pciFirstFrame) &&
    (firstFrameLength data).any (fun form => decide (form.1 > maxPayloadSize))

end Collector

structure Stream where
  arbitrationId : Nat
  channelId : String
  isFd : Bool
  isExtended : Bool

namespace Stream

structure Carries (stream : Stream) (frame : CanFrame) : Prop where
  arbitrationId : frame.arbitrationId = stream.arbitrationId
  channelId : frame.channelId = stream.channelId
  isFd : frame.isFd = stream.isFd
  isExtended : frame.isExtended = stream.isExtended

def key (stream : Stream) : SessionKey := (stream.arbitrationId, stream.channelId)

def quotaKey (stream : Stream) : Nat :=
  if stream.isExtended then stream.arbitrationId &&& 0xFF else stream.arbitrationId

variable {stream : Stream} {frame : CanFrame}

theorem Carries.frameKey (carries : stream.Carries frame) : frameKey frame = stream.key := by
  unfold IsoTp.frameKey Stream.key
  rw [carries.arbitrationId, carries.channelId]

theorem Carries.quotaKey (carries : stream.Carries frame) :
    ReassemblyPipeline.quotaKey frame = stream.quotaKey := by
  unfold ReassemblyPipeline.quotaKey Stream.quotaKey
  rw [carries.arbitrationId, carries.isExtended]

end Stream

section Dynamic

structure ReassemblyPipeline.Collects (pipeline : ReassemblyPipeline) (stream : Stream)
    (collecting : Option Collection) : Prop where
  recognised : ∀ frame, stream.Carries frame → pipeline.isIsotpFrame frame = true
  sessions : match collecting with
    | none => pipeline.isotpSessions = [] ∧ pipeline.isotpPerSaSessions stream.quotaKey = 0
    | some collection => pipeline.isotpPerSaSessions stream.quotaKey = 1 ∧
        ∃ last, pipeline.isotpSessions = [(stream.key, {
          totalBytes := collection.totalBytes
          expectedSequenceNumber := collection.expectedSequenceNumber
          receivedBytes := collection.receivedBytes
          lastActivityTime := last
          isFd := stream.isFd
          isExtended := stream.isExtended
          quotaKey := stream.quotaKey })]

namespace ReassemblyPipeline

def deliveredData : Outcome → Option Bytes
  | .ok (some message, _) => some message.data
  | _ => none

def Timely (pipeline : ReassemblyPipeline) (now : Nat) (key : SessionKey) : Prop :=
  ∀ session, pipeline.isotpSessions.get? key = some session →
    now - session.lastActivityTime ≤ isotpNcrTimeoutNs

variable {pipeline : ReassemblyPipeline} {stream : Stream} {collecting : Option Collection}
  {frame : CanFrame}

theorem answer_data (pipeline : ReassemblyPipeline) (frame : CanFrame) (flowStatus : Nat) :
    deliveredData (pipeline.answer frame flowStatus) = none := by
  unfold answer
  split
  · rfl
  · split
    · split <;> rfl
    · rfl

theorem Collects.released (collects : pipeline.Collects stream collecting) :
    (pipeline.releaseIsotpSession stream.key).Collects stream none := by
  unfold releaseIsotpSession
  cases collecting with
  | none =>
      rw [collects.sessions.1]
      exact collects
  | some collection =>
      obtain ⟨counted, last, stored⟩ := collects.sessions
      rw [stored, Dict.get?_singleton]
      refine ⟨collects.recognised, Dict.erase_singleton _ _, ?_⟩
      unfold decrementSaQuota
      dsimp only
      rw [if_pos rfl, if_pos (Nat.le_of_eq counted)]

theorem Collects.released_frame (collects : pipeline.Collects stream collecting)
    (carries : stream.Carries frame) :
    (pipeline.releaseIsotpSession (frameKey frame)).Collects stream none :=
  carries.frameKey ▸ collects.released

def Agrees (stream : Stream) (handled : ReassemblyPipeline × Outcome)
    (collected : Option Collection × Option Bytes) : Prop :=
  handled.1.Collects stream collected.1 ∧ deliveredData handled.2 = collected.2

theorem Collects.handleSingleFrame (collects : pipeline.Collects stream collecting)
    (carries : stream.Carries frame) (whole : ¬ frame.data.length < 2) :
    Agrees stream (pipeline.handleSingleFrame frame)
      (match singlePayload stream.isFd frame.data with
        | none => (collecting, none)
        | some payload => (none, some payload)) := by
  unfold ReassemblyPipeline.handleSingleFrame singlePayload
  dsimp only
  rw [carries.isFd]
  split
  · by_cases fd : stream.isFd = true
    · rw [if_neg (by simp [fd, whole])]
      by_cases fits : 8 ≤ (frame.data.getD 1 0).toNat ∧ (frame.data.getD 1 0).toNat ≤ 62 ∧
          (frame.data.getD 1 0).toNat ≤ frame.data.length - 2
      · rw [if_neg (by omega), if_pos ⟨fd, fits⟩]
        exact ⟨collects.released_frame carries, rfl⟩
      · rw [if_pos (by omega), if_neg (fun both => fits both.2)]
        exact ⟨collects, rfl⟩
    · rw [if_pos (Or.inl fd), if_neg (fun both => fd both.1)]
      exact ⟨collects, rfl⟩
  · split
    · rename_i overlong
      rw [if_neg (by omega)]
      exact ⟨collects, rfl⟩
    · rename_i short
      rw [if_pos (by omega)]
      exact ⟨collects.released_frame carries, rfl⟩

theorem Collects.handleFirstFrame (collects : pipeline.Collects stream collecting)
    (carries : stream.Carries frame) (now : Nat) :
    Agrees stream (pipeline.handleFirstFrame now frame) (collectFirst collecting frame.data) := by
  unfold ReassemblyPipeline.handleFirstFrame collectFirst
  cases firstFrameLength frame.data with
  | none => exact ⟨collects, rfl⟩
  | some form =>
      obtain ⟨totalLen, headerLen⟩ := form
      dsimp only
      split
      · exact ⟨collects, answer_data pipeline frame fsOverflow⟩
      · have released := collects.released_frame carries
        split
        · exact ⟨released, rfl⟩
        · obtain ⟨empty, uncounted⟩ := released.sessions
          have quota : ¬ (pipeline.releaseIsotpSession (frameKey frame)).isotpPerSaSessions
              (quotaKey frame) ≥ maxSessionsPerSa := by
            rw [carries.quotaKey, uncounted]
            decide
          have roomy : (pipeline.releaseIsotpSession (frameKey frame)).makeRoom =
              pipeline.releaseIsotpSession (frameKey frame) := by
            unfold makeRoom
            rw [empty]
            rfl
          rw [if_neg quota, roomy]
          refine ⟨⟨released.recognised, ?_, now, ?_⟩, answer_data pipeline frame fsCts⟩
          · unfold insertSession
            dsimp only
            rw [carries.quotaKey, if_pos rfl, uncounted]
          · unfold insertSession
            dsimp only
            rw [empty, carries.frameKey, carries.isFd, carries.isExtended, carries.quotaKey]
            rfl

theorem Collects.handleConsecutiveFrame (collects : pipeline.Collects stream collecting)
    (carries : stream.Carries frame) {now : Nat} (timely : pipeline.Timely now stream.key) :
    Agrees stream (pipeline.handleConsecutiveFrame now frame)
      (collectConsecutive collecting frame.data) := by
  unfold ReassemblyPipeline.handleConsecutiveFrame collectConsecutive
  cases collecting with
  | none =>
      rw [collects.sessions.1]
      exact ⟨collects, rfl⟩
  | some collection =>
      obtain ⟨counted, last, stored⟩ := collects.sessions
      have found := congrArg (fun sessions => Dict.get? sessions stream.key) stored
      rw [Dict.get?_singleton] at found
      have alive := timely _ found
      rw [carries.frameKey, found]
      dsimp only
      rw [if_neg (by simp [carries.isFd, carries.isExtended]), if_neg (Nat.not_lt_of_le alive)]
      unfold Collection.extend
      rw [List.length_drop]
      dsimp only
      split
      · exact ⟨collects.released, rfl⟩
      · split
        · exact ⟨collects.released, rfl⟩
        · refine ⟨⟨collects.recognised, counted, now, ?_⟩, rfl⟩
          dsimp only
          rw [stored]
          exact Dict.set_singleton _ _ _

theorem Collects.tryProcessIsotp (collects : pipeline.Collects stream collecting)
    (carries : stream.Carries frame) {now : Nat} (timely : pipeline.Timely now stream.key) :
    Agrees stream (pipeline.tryProcessIsotp now frame)
      (collect collecting stream.isFd frame.data) := by
  unfold ReassemblyPipeline.tryProcessIsotp collect
  rw [collects.recognised frame carries]
  dsimp only
  by_cases short : frame.data.length < 2
  · rw [if_pos (Or.inr short), if_pos short]
    exact ⟨collects, rfl⟩
  · rw [if_neg (by simp [short]), if_neg short]
    unfold handleDynamicIsotp
    dsimp only
    split
    · exact collects.handleSingleFrame carries short
    · split
      · exact collects.handleFirstFrame carries now
      · split
        · exact collects.handleConsecutiveFrame carries timely
        · exact ⟨collects, rfl⟩

end ReassemblyPipeline

end Dynamic

section Reference

structure Follows (t : ReceivingTransport) (stream : Stream) (collecting : Option Collection) :
    Prop where
  rxId : t.rxId = stream.arbitrationId
  mode : t.addressingMode = .normal
  cap : t.maxBufferSize = maxPayloadSize
  sessions : match collecting with
    | none => t.sessions = []
    | some collection => ∃ last count, t.sessions = [(stream.key, {
        totalBytes := collection.totalBytes
        expectedSequenceNumber := collection.expectedSequenceNumber
        receivedBytes := collection.receivedBytes
        lastActivityTime := last
        channelId := stream.channelId
        blockCount := count })]

def deliveredPayload : ReceivingTransport.Handled → Option Bytes
  | .ok (some payload, _) => some payload
  | _ => none

def ReferenceTimely (t : ReceivingTransport) (now : Nat) (key : SessionKey) : Prop :=
  ∀ session, t.sessions.get? key = some session → now - session.lastActivityTime ≤ timeoutNs

variable {t : ReceivingTransport} {stream : Stream} {collecting : Option Collection}
  {frame : CanFrame}

theorem respond_payload (response : Except FrameError CanFrame) :
    deliveredPayload (ReceivingTransport.respond response) = none := by
  cases response <;> rfl

theorem Follows.dropped (follows : Follows t stream collecting) :
    Follows (t.dropSession stream.key) stream none := by
  refine ⟨follows.rxId, follows.mode, follows.cap, ?_⟩
  unfold ReceivingTransport.dropSession
  cases collecting with
  | none =>
      dsimp only
      rw [follows.sessions]
      rfl
  | some collection =>
      obtain ⟨last, count, stored⟩ := follows.sessions
      dsimp only
      rw [stored]
      exact Dict.erase_singleton _ _

def ReferenceAgrees (stream : Stream) (handled : ReceivingTransport × ReceivingTransport.Handled)
    (collected : Option Collection × Option Bytes) : Prop :=
  Follows handled.1 stream collected.1 ∧ deliveredPayload handled.2 = collected.2

theorem Follows.handleSingleFrame (follows : Follows t stream collecting)
    (carries : stream.Carries frame)
    (ordinary : ¬ (8 ≤ lowNibble (frame.data.getD 0 0) ∧
      lowNibble (frame.data.getD 0 0) ≤ frame.data.length - 1)) :
    ReferenceAgrees stream (t.handleSingleFrame frame frame.data)
      (match singlePayload stream.isFd frame.data with
        | none => (collecting, none)
        | some payload => (none, some payload)) := by
  have dropped : Follows (t.dropSession (frameKey frame)) stream none :=
    carries.frameKey ▸ follows.dropped
  unfold ReceivingTransport.handleSingleFrame singlePayload
  dsimp only
  rw [carries.isFd]
  split
  · by_cases fd : stream.isFd = true
    · rw [if_neg (not_not_intro fd)]
      by_cases fits : 8 ≤ (frame.data.getD 1 0).toNat ∧ (frame.data.getD 1 0).toNat ≤ 62 ∧
          (frame.data.getD 1 0).toNat ≤ frame.data.length - 2
      · rw [if_neg (by omega), if_neg (by omega), if_neg (by omega), if_pos fits.2.2,
          if_pos ⟨fd, fits⟩]
        exact ⟨dropped, rfl⟩
      · have unfit : ¬ (stream.isFd = true ∧ 8 ≤ (frame.data.getD 1 0).toNat ∧
            (frame.data.getD 1 0).toNat ≤ 62 ∧
            (frame.data.getD 1 0).toNat ≤ frame.data.length - 2) := fun both => fits both.2
        rw [if_neg unfit]
        -- a frame of eight bytes has no room for the eight its escape form needs
        split
        · exact ⟨follows, rfl⟩
        · split
          · exact ⟨follows, rfl⟩
          · split
            · exact ⟨follows, rfl⟩
            · rw [if_neg (by omega)]
              exact ⟨follows, rfl⟩
    · rw [if_pos fd, if_neg (fun both => fd both.1)]
      exact ⟨follows, rfl⟩
  · split
    · rw [if_pos (by omega)]
      exact ⟨dropped, rfl⟩
    · rw [if_neg (by omega)]
      exact ⟨follows, rfl⟩

/-- With the table empty or holding the one session, a new session is the only one. -/
theorem Follows.opened (follows : Follows t stream collecting) (now : Nat)
    (session : IsoTpRxSession) :
    (((t.reapStaleRxSessions now).makeRoom stream.key).storeSession stream.key session) =
      { t with sessions := [(stream.key, session)] } := by
  have table : t.sessions = [] ∨ ∃ old, t.sessions = [(stream.key, old)] := by
    cases collecting with
    | none => exact Or.inl follows.sessions
    | some collection =>
        obtain ⟨last, count, stored⟩ := follows.sessions
        exact Or.inr ⟨_, stored⟩
  have reaped : (t.reapStaleRxSessions now).sessions = [] ∨
      ∃ old, (t.reapStaleRxSessions now).sessions = [(stream.key, old)] := by
    unfold ReceivingTransport.reapStaleRxSessions
    rcases table with empty | ⟨old, stored⟩
    · exact Or.inl (by rw [empty]; rfl)
    · dsimp only
      rw [stored, List.filter_singleton]
      cases decide (now - old.lastActivityTime ≤ timeoutNs)
      · exact Or.inl rfl
      · exact Or.inr ⟨old, rfl⟩
  have few : ¬ (t.reapStaleRxSessions now).sessions.length ≥ maxRxSessions := by
    rcases reaped with empty | ⟨old, stored⟩
    · rw [empty]
      decide
    · rw [stored]
      exact (by decide : ¬ 1 ≥ maxRxSessions)
  have roomy : (t.reapStaleRxSessions now).makeRoom stream.key = t.reapStaleRxSessions now :=
    if_neg (fun full => few full.2)
  have stored : (t.reapStaleRxSessions now).sessions.set stream.key session =
      [(stream.key, session)] := by
    rcases reaped with empty | ⟨old, stored⟩
    · rw [empty]
      rfl
    · rw [stored]
      exact Dict.set_singleton _ _ _
  rw [roomy]
  unfold ReceivingTransport.storeSession
  rw [stored]
  rfl

theorem Follows.stored (follows : Follows t stream collecting) (collection : Collection)
    (last count : Nat) :
    Follows { t with sessions := [(stream.key, {
        totalBytes := collection.totalBytes
        expectedSequenceNumber := collection.expectedSequenceNumber
        receivedBytes := collection.receivedBytes
        lastActivityTime := last
        channelId := stream.channelId
        blockCount := count })] } stream (some collection) :=
  ⟨follows.rxId, follows.mode, follows.cap, last, count, rfl⟩

theorem Follows.handleFirstFrame (follows : Follows t stream collecting)
    (carries : stream.Carries frame) (now : Nat)
    (ordinary : (firstFrameLength frame.data).any (fun form => decide (form.1 > maxPayloadSize)) =
      true → collecting = none) :
    ReferenceAgrees stream (t.handleFirstFrame now frame frame.data)
      (collectFirst collecting frame.data) := by
  unfold ReceivingTransport.handleFirstFrame collectFirst
  cases form : firstFrameLength frame.data with
  | none => exact ⟨follows, rfl⟩
  | some lengths =>
      obtain ⟨totalLen, headerLen⟩ := lengths
      dsimp only
      rw [follows.cap, carries.frameKey, carries.channelId]
      split
      · rename_i oversized
        have idle : collecting = none := ordinary (by rw [form]; exact decide_eq_true oversized)
        exact ⟨idle ▸ follows.dropped, respond_payload _⟩
      · rw [follows.opened]
        have opened := follows.stored ⟨totalLen, 1, (frame.data.drop headerLen).take totalLen⟩ now 0
        split
        · exact ⟨opened.dropped, rfl⟩
        · exact ⟨opened, respond_payload _⟩

theorem Follows.handleConsecutiveFrame (follows : Follows t stream collecting)
    (carries : stream.Carries frame) {now : Nat} (timely : ReferenceTimely t now stream.key) :
    ReferenceAgrees stream (t.handleConsecutiveFrame now frame frame.data)
      (collectConsecutive collecting frame.data) := by
  unfold ReceivingTransport.handleConsecutiveFrame collectConsecutive
  cases collecting with
  | none =>
      rw [follows.sessions]
      exact ⟨follows, rfl⟩
  | some collection =>
      obtain ⟨last, count, stored⟩ := follows.sessions
      have found := congrArg (fun sessions => Dict.get? sessions stream.key) stored
      rw [Dict.get?_singleton] at found
      have alive := timely _ found
      rw [carries.frameKey, found]
      dsimp only
      rw [if_neg (not_not_intro carries.channelId.symm), if_neg (Nat.not_lt_of_le alive)]
      split
      · exact ⟨follows.dropped, rfl⟩
      · unfold ReceivingTransport.advanceSession ReceivingTransport.storeSession
          IsoTpRxSession.extend
        rw [carries.frameKey, stored]
        dsimp only
        rw [Dict.set_singleton, Dict.set_singleton, Dict.set_singleton]
        have extended := follows.stored (collection.extend (frame.data.drop 1)) now
        unfold Collection.extend at extended ⊢
        dsimp only at extended ⊢
        split
        · exact ⟨follows.dropped, rfl⟩
        · split
          · split
            · exact ⟨extended 0, respond_payload _⟩
            · exact ⟨extended _, rfl⟩
          · exact ⟨extended count, rfl⟩

theorem Follows.handleRxFrame (follows : Follows t stream collecting)
    (carries : stream.Carries frame) {now : Nat} (timely : ReferenceTimely t now stream.key)
    (ordinary : overlongSingle frame.data = false ∧
      (oversizedFirst frame.data = true → collecting = none)) :
    ReferenceAgrees stream (t.handleRxFrame now frame)
      (collect collecting stream.isFd frame.data) := by
  obtain ⟨notOverlong, notOversized⟩ := ordinary
  unfold ReceivingTransport.handleRxFrame ReceivingTransport.receives collect
  rw [carries.arbitrationId, follows.rxId, follows.mode]
  dsimp only
  by_cases short : frame.data.length < 2
  · rw [if_pos (Or.inr short), if_pos short]
    exact ⟨follows, rfl⟩
  · rw [if_neg (by simp [short]), if_neg short]
    dsimp only [AddressingMode.unwrap]
    unfold ReceivingTransport.handleNpdu
    dsimp only
    split
    · rename_i single
      refine follows.handleSingleFrame carries ?_
      intro overlong
      exact absurd ⟨single, overlong⟩ (of_decide_eq_false notOverlong)
    · split
      · rename_i first
        refine follows.handleFirstFrame carries now ?_
        intro oversized
        refine notOversized ?_
        unfold oversizedFirst
        rw [decide_eq_true first, oversized]
        rfl
      · split
        · exact follows.handleConsecutiveFrame carries timely
        · exact ⟨follows, rfl⟩

end Reference

section Twins

structure Heard where
  frame : CanFrame
  nowDynamic : Nat
  nowReference : Nat

structure Twins where
  dynamic : ReassemblyPipeline
  reference : ReceivingTransport
  dynamicPayloads : List Bytes := []
  referencePayloads : List Bytes := []

namespace Twins

def hear (twins : Twins) (heard : Heard) : Twins where
  dynamic := (twins.dynamic.tryProcessIsotp heard.nowDynamic heard.frame).1
  reference := (twins.reference.handleRxFrame heard.nowReference heard.frame).1
  dynamicPayloads := twins.dynamicPayloads ++ (ReassemblyPipeline.deliveredData
    (twins.dynamic.tryProcessIsotp heard.nowDynamic heard.frame).2).toList
  referencePayloads := twins.referencePayloads ++ (deliveredPayload
    (twins.reference.handleRxFrame heard.nowReference heard.frame).2).toList

def step (twins : Twins) (heard : Heard) : Option Twins := some (twins.hear heard)

structure Timely (twins : Twins) (heard : Heard) : Prop where
  dynamic : twins.dynamic.Timely heard.nowDynamic (frameKey heard.frame)
  reference : ReferenceTimely twins.reference heard.nowReference (frameKey heard.frame)

/-- No Single Frame in the nibble form with more than seven bytes, and no First Frame
beyond the buffer while a message is being collected. -/
def ordinary (twins : Twins) (heard : Heard) : Prop :=
  overlongSingle heard.frame.data = false ∧ (oversizedFirst heard.frame.data = true →
    twins.reference.sessions.get? (frameKey heard.frame) = none)

def Paired (stream : Stream) (twins : Twins) : Prop :=
  twins.dynamicPayloads = twins.referencePayloads ∧
    ∃ collecting, twins.dynamic.Collects stream collecting ∧
      Follows twins.reference stream collecting

theorem Paired.hear {stream : Stream} {twins : Twins} {heard : Heard}
    (paired : twins.Paired stream) (carries : stream.Carries heard.frame)
    (timely : twins.Timely heard) (ordinary : twins.ordinary heard) :
    (twins.hear heard).Paired stream := by
  obtain ⟨same, collecting, collects, follows⟩ := paired
  obtain ⟨timelyDynamic, timelyReference⟩ := timely
  obtain ⟨notOverlong, notOversized⟩ := ordinary
  rw [carries.frameKey] at timelyDynamic timelyReference notOversized
  have idle (oversized : oversizedFirst heard.frame.data = true) : collecting = none := by
    have absent := notOversized oversized
    cases collecting with
    | none => rfl
    | some collection =>
        obtain ⟨last, count, stored⟩ := follows.sessions
        rw [stored, Dict.get?_singleton] at absent
        cases absent
  obtain ⟨dynamic, delivered⟩ := collects.tryProcessIsotp carries timelyDynamic
  obtain ⟨reference, accepted⟩ := follows.handleRxFrame carries timelyReference ⟨notOverlong, idle⟩
  refine ⟨?_, _, dynamic, reference⟩
  unfold Twins.hear
  dsimp only
  rw [same, delivered, accepted]

end Twins

/-- On a stream heard in time, the two reassemblers have delivered the same payloads at
every point of a run whose frames are all ordinary. -/
theorem dynamic_agrees_with_reference {stream : Stream} {pipeline : ReassemblyPipeline}
    {t : ReceivingTransport} (collects : pipeline.Collects stream none)
    (follows : Follows t stream none) {heards : List Heard}
    (uniform : ∀ heard ∈ heards, stream.Carries heard.frame)
    (timely : EventRun.Meets Twins.step Twins.Timely ⟨pipeline, t, [], []⟩ heards)
    (ordinary : EventRun.Meets Twins.step Twins.ordinary ⟨pipeline, t, [], []⟩ heards)
    {front back : List Heard} (split : heards = front ++ back) {twins : Twins}
    (ran : EventRun.run Twins.step ⟨pipeline, t, [], []⟩ front = some twins) :
    twins.dynamicPayloads = twins.referencePayloads := by
  have carried : EventRun.Meets Twins.step (fun _ heard => stream.Carries heard.frame)
      ⟨pipeline, t, [], []⟩ heards := EventRun.Meets.of_forall uniform _
  have met := (carried.and timely).and ordinary
  rw [split] at met
  have paired : twins.Paired stream := by
    refine EventRun.run_invariant_of_meets ?_ ⟨rfl, none, collects, follows⟩
      (EventRun.meets_append met ran).1 ran
    intro before heard after paired condition stepped
    cases stepped
    exact paired.hear condition.1.1 condition.1.2 condition.2
  exact paired.1

def engineStream : Stream := ⟨0x7E8, "uds_ch0", false, false⟩

def listeningPipeline : ReassemblyPipeline := {}

def listeningTransport : ReceivingTransport where
  txId := 0x7E0
  channelId := "uds_ch0"
  rxId := 0x7E8

theorem listeningPipeline_collects : listeningPipeline.Collects engineStream none := by
  refine ⟨?_, rfl, rfl⟩
  intro frame carries
  unfold ReassemblyPipeline.isIsotpFrame
  rw [carries.arbitrationId]
  rfl

theorem listeningTransport_follows : Follows listeningTransport engineStream none :=
  ⟨rfl, rfl, rfl, rfl⟩

def engineFields (data : Bytes) : FrameFields where
  channelId := "uds_ch0"
  arbitrationId := 0x7E8
  dlc := 8
  data := data

def firstOfTen : CanFrame := ⟨engineFields [0x10, 10, 1, 2, 3, 4, 5, 6], by decide⟩

def firstOfTooMany : CanFrame := ⟨engineFields [0x10, 0, 0, 0x20, 0, 0, 0, 0], by decide⟩

def restOfTen : CanFrame := ⟨engineFields [0x21, 7, 8, 9, 10, 0xCC, 0xCC, 0xCC], by decide⟩

def heardNow (frames : List CanFrame) : List Heard := frames.map (fun frame => ⟨frame, 0, 0⟩)

theorem heardNow_timely (twins : Twins) (frames : List CanFrame) :
    EventRun.Meets Twins.step Twins.Timely twins (heardNow frames) := by
  have prompt : ∀ heard ∈ heardNow frames, heard.nowDynamic = 0 ∧ heard.nowReference = 0 := by
    intro heard member
    obtain ⟨frame, -, rfl⟩ := List.mem_map.mp member
    exact ⟨rfl, rfl⟩
  refine EventRun.Meets.imp ?_ (EventRun.Meets.of_forall prompt twins)
  intro before heard ⟨dynamic, reference⟩
  refine ⟨fun session _ => ?_, fun session _ => ?_⟩
  · rw [dynamic, Nat.zero_sub]
    exact Nat.zero_le _
  · rw [reference, Nat.zero_sub]
    exact Nat.zero_le _

theorem heardNow_uniform {frames : List CanFrame}
    (carried : ∀ frame ∈ frames, engineStream.Carries frame) :
    ∀ heard ∈ heardNow frames, engineStream.Carries heard.frame := by
  intro heard member
  obtain ⟨frame, listed, rfl⟩ := List.mem_map.mp member
  exact carried frame listed

theorem tenBytes_uniform : ∀ frame ∈ [firstOfTen, firstOfTooMany, restOfTen],
    engineStream.Carries frame := by
  intro frame member
  simp only [List.mem_cons, List.not_mem_nil, or_false] at member
  rcases member with rfl | rfl | rfl <;> exact ⟨rfl, rfl, rfl, rfl⟩

def listening : Twins := ⟨listeningPipeline, listeningTransport, [], []⟩

theorem tenBytes_ordinary :
    EventRun.Meets Twins.step Twins.ordinary listening (heardNow [firstOfTen, restOfTen]) := by
  have plain : ∀ heard ∈ heardNow [firstOfTen, restOfTen],
      overlongSingle heard.frame.data = false ∧ oversizedFirst heard.frame.data = false := by
    intro heard member
    simp only [heardNow, List.map_cons, List.map_nil, List.mem_cons, List.not_mem_nil,
      or_false] at member
    rcases member with rfl | rfl <;> exact ⟨by decide +kernel, by decide +kernel⟩
  refine EventRun.Meets.imp ?_ (EventRun.Meets.of_forall plain listening)
  intro before heard ⟨single, first⟩
  exact ⟨single, fun oversized => absurd (first.symm.trans oversized) Bool.false_ne_true⟩

theorem tenBytes_run : EventRun.run Twins.step listening (heardNow [firstOfTen, restOfTen]) =
    some ((heardNow [firstOfTen, restOfTen]).foldl Twins.hear listening) := rfl

/-- Ten bytes in two frames, delivered by both. -/
theorem dynamic_agrees_on_ten_bytes :
    ∃ twins, EventRun.run Twins.step listening (heardNow [firstOfTen, restOfTen]) = some twins ∧
      twins.dynamicPayloads = twins.referencePayloads ∧
      twins.referencePayloads = [[1, 2, 3, 4, 5, 6, 7, 8, 9, 10]] := by
  have uniform : ∀ heard ∈ heardNow [firstOfTen, restOfTen], engineStream.Carries heard.frame := by
    refine heardNow_uniform ?_
    intro frame member
    refine tenBytes_uniform frame ?_
    rcases List.mem_cons.mp member with first | rest
    · exact first ▸ List.mem_cons_self ..
    · exact List.mem_cons_of_mem _ (List.mem_cons_of_mem _ rest)
  exact ⟨_, tenBytes_run, dynamic_agrees_with_reference listeningPipeline_collects
    listeningTransport_follows uniform (heardNow_timely _ _) tenBytes_ordinary
    (List.append_nil _).symm tenBytes_run, by decide +kernel⟩

/-- The pipeline goes on with the message the oversized First Frame ends in the reference. -/
theorem oversized_first_diverges :
    ¬ ∀ (stream : Stream) (pipeline : ReassemblyPipeline) (t : ReceivingTransport)
      (heards : List Heard) (twins : Twins), pipeline.Collects stream none →
        Follows t stream none → (∀ heard ∈ heards, stream.Carries heard.frame) →
        EventRun.Meets Twins.step Twins.Timely ⟨pipeline, t, [], []⟩ heards →
        EventRun.run Twins.step ⟨pipeline, t, [], []⟩ heards = some twins →
        twins.dynamicPayloads = twins.referencePayloads := by
  intro agrees
  have same := agrees engineStream listeningPipeline listeningTransport
    (heardNow [firstOfTen, firstOfTooMany, restOfTen]) _ listeningPipeline_collects
    listeningTransport_follows (heardNow_uniform tenBytes_uniform) (heardNow_timely _ _) rfl
  exact absurd same (by decide +kernel)

end Twins

end Ucanlab.Engine
