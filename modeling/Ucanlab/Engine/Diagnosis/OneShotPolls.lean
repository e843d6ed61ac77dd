import Ucanlab.Engine.Diagnosis.ObdReader
import Ucanlab.Lib.Scan

/-!
The one-shot polls, the broadcast among them, against responders that answer what they like.
Decoding a parameter or an identifier never raises.
-/

namespace Ucanlab.Diagnosis

open Ucanlab Safety Obd IsoTp Dialogue

inductive OneShot where
  | pid (pid : Nat)
  | did (did : Nat)
  | dtc (kind : CodeKind)
  | freezeFrame (pid frame : UInt8)
  | mode06 (mid : Nat)
  | vehicleInfo (infotype : Nat)
  deriving DecidableEq

def CodeKind.mode : CodeKind → UInt8
  | .stored => 0x03
  | .pending => 0x07
  | .permanent => 0x0A

inductive OneShotResult (δ : Type) where
  | pid (result : ObdPidResult)
  | did (result : δ)
  | dtcs (codes : List (List Char))
  | raw (payload : Bytes)

/-- A positive answer to a parameter. -/
def matchPositivePid (decode : UInt8 → Bytes → ObdPidResult) (pid : Nat) (completed : Bytes) :
    Except ReaderFault (Option ObdPidResult) :=
  match byteAt completed 0 with
  | .error fault => .error fault
  | .ok first =>
      if first = 0x41 then
        match byteAt completed 1 with
        | .error fault => .error fault
        | .ok echo => if echo.toNat = pid then .ok (some (decode echo (completed.drop 2))) else .ok none
      else .ok none

/-- A negative answer, indexed without a look at its length. -/
def matchRejection {α : Type} (service : UInt8) (completed : Bytes) :
    Except ReaderFault (Option α) :=
  match byteAt completed 0 with
  | .error fault => .error fault
  | .ok first =>
      if first = negativeResponse then
        match byteAt completed 1 with
        | .error fault => .error fault
        | .ok rejected =>
            if rejected = service then
              match byteAt completed 2 with
              | .error fault => .error fault
              | .ok nrc => if nrc = responsePending then .ok none else .error .protocol
            else .ok none
      else .ok none

def matchPid (decode : UInt8 → Bytes → ObdPidResult) (pid : Nat) (completed : Bytes) :
    Except ReaderFault (Option ObdPidResult) :=
  match matchPositivePid decode pid completed with
  | .ok none => matchRejection 0x01 completed
  | matched => matched

def matchDid {δ : Type} (decode : Nat → Bytes → δ) (did : Nat) (completed : Bytes) :
    Except ReaderFault (Option δ) :=
  match byteAt completed 0 with
  | .error fault => .error fault
  | .ok first =>
      if first = 0x62 ∧ completed.length ≥ 3 then
        if ((completed.getD 1 0).toNat <<< 8) ||| (completed.getD 2 0).toNat = did then
          .ok (some (decode did (completed.drop 3)))
        else .ok none
      else matchRejection 0x22 completed

namespace OneShot

variable {δ : Type}

/-- What each poll makes of a completed payload. -/
def matchResponse (decode : UInt8 → Bytes → ObdPidResult) (decodeDid : Nat → Bytes → δ)
    (query : OneShot) (completed : Bytes) : Except ReaderFault (Option (OneShotResult δ)) :=
  match query with
  | .pid parameter => (matchPid decode parameter completed).map (Option.map .pid)
  | .did identifier => (matchDid decodeDid identifier completed).map (Option.map .did)
  | .dtc kind => (matchDtc kind.mode completed).map (Option.map .dtcs)
  | .freezeFrame parameter frame =>
      (matchFreezeFrame decode parameter frame completed).map (Option.map .pid)
  | .mode06 mid => (matchEcho 0x06 mid completed).map (Option.map .raw)
  | .vehicleInfo infotype => (matchEcho 0x09 infotype completed).map (Option.map .raw)

/-- The payloads too short for the poll that gets them. -/
def TooShort : OneShot → Bytes → Prop
  | .pid _, completed => completed = [0x41] ∨ completed = [0x7F] ∨ completed = [0x7F, 0x01]
  | .did _, completed => completed = [0x7F] ∨ completed = [0x7F, 0x22]
  | .dtc kind, completed =>
      completed = [kind.mode + 0x40] ∨ completed = [0x7F] ∨ completed = [0x7F, kind.mode]
  | .freezeFrame _ _, _ => False
  | .mode06 _, _ => False
  | .vehicleInfo _, _ => False

end OneShot

/-- The broadcast of a parameter, with a transport for each response identifier. -/
structure ObdBroadcast where
  port : TxPort ObdArrival
  channelId : String
  decode : UInt8 → Bytes → ObdPidResult

abbrev BroadcastState := ReaderState ObdArrival (Nat → ReceivingTransport)

abbrev BroadcastReader := Reader ObdArrival (Nat → ReceivingTransport)

namespace ObdBroadcast

variable (broadcast : ObdBroadcast)

def transport (arrival : ObdArrival) : BroadcastReader (Option Bytes) := fun state =>
  let rid := arrival.frame.arbitrationId
  match (state.link rid).handleRxFrame arrival.receivedNs arrival.frame with
  | (link, .error _) => (.error .value, { state with link := Function.update state.link rid link })
  | (link, .ok (completed, none)) =>
      (.ok completed, { state with link := Function.update state.link rid link })
  | (link, .ok (completed, some fc)) =>
      (send broadcast.port fc >>= fun _ => pure completed)
        { state with link := Function.update state.link rid link }

def heed (arrival : ObdArrival) : BroadcastReader (Option Bytes) := do
  Dialogue.update (fun state : BroadcastState =>
    { state with log := state.log ++ [.heard arrival] })
  if arrival.frame.channelId ≠ broadcast.channelId then pure none
  else if ¬ isResponseId arrival.frame.arbitrationId ∨ arrival.frame.data.length < 3 then pure none
  else broadcast.transport arrival

/-- The first answer of each controller, until the window closes or the queue is empty. -/
def collect (pid deadline : Nat) :
    List (Nat × ObdPidResult) → List ObdArrival → BroadcastReader (List (Nat × ObdPidResult))
  | results, [] => pure results
  | results, arrival :: rest =>
      if deadline ≤ arrival.polledNs then pure results
      else do
        match ← broadcast.heed arrival with
        | none => collect pid deadline results rest
        | some completed =>
            if arrival.frame.arbitrationId ∈ results.map Prod.fst then
              collect pid deadline results rest
            else do
              match ← Dialogue.lift (matchPositivePid broadcast.decode pid completed) with
              | none => collect pid deadline results rest
              | some result =>
                  collect pid deadline (results ++ [(arrival.frame.arbitrationId, result)]) rest

end ObdBroadcast

def Orderly {α : Type} : Except ReaderFault α → Prop
  | .ok _ => True
  | .error fault => fault = .timeout ∨ fault = .protocol

section Matching

variable {α δ : Type}

theorem orderly_map {β : Type} {result : Except ReaderFault α} {change : α → β} :
    Orderly (result.map change) ↔ Orderly result := by
  cases result with
  | error fault => exact Iff.rfl
  | ok value => exact Iff.rfl

theorem not_orderly_other : ¬ Orderly (.error .other : Except ReaderFault α) := by
  rintro (impossible | impossible)
  · cases impossible
  · cases impossible

theorem matchNegative_orderly (service : UInt8) (completed : Bytes) :
    Orderly (matchNegative service completed : Except ReaderFault (Option α)) := by
  unfold matchNegative
  split
  · exact Or.inr rfl
  · trivial

theorem matchRejection_orderly_iff (service first : UInt8) (rest : Bytes) :
    Orderly (matchRejection service (first :: rest) : Except ReaderFault (Option α)) ↔
      ¬ (first :: rest = [0x7F] ∨ first :: rest = [0x7F, service]) := by
  change Orderly (if first = negativeResponse then _ else _ : Except ReaderFault (Option α)) ↔ _
  by_cases negative : first = negativeResponse
  · rw [if_pos negative, negative]
    cases rest with
    | nil => exact iff_of_false not_orderly_other (not_not.mpr (Or.inl rfl))
    | cons rejected rest =>
        change Orderly (if rejected = service then _ else _ : Except ReaderFault (Option α)) ↔ _
        by_cases same : rejected = service
        · rw [if_pos same, same]
          cases rest with
          | nil => exact iff_of_false not_orderly_other (not_not.mpr (Or.inr rfl))
          | cons nrc rest =>
              refine iff_of_true ?_ ?_
              · change Orderly (if nrc = responsePending then _ else _ :
                  Except ReaderFault (Option α))
                split
                · trivial
                · exact Or.inr rfl
              · rintro (impossible | impossible)
                · cases impossible
                · cases impossible
        · rw [if_neg same]
          refine iff_of_true trivial ?_
          rintro (impossible | impossible)
          · cases impossible
          · cases impossible
            exact same rfl
  · rw [if_neg negative]
    refine iff_of_true trivial ?_
    rintro (impossible | impossible)
    · cases impossible
      exact negative rfl
    · cases impossible
      exact negative rfl

theorem matchPositivePid_other {decode : UInt8 → Bytes → ObdPidResult} {pid : Nat} {first : UInt8}
    {rest : Bytes} (other : first ≠ 0x41) :
    matchPositivePid decode pid (first :: rest) = .ok none := by
  change (if first = 0x41 then _ else _ : Except ReaderFault (Option ObdPidResult)) = _
  rw [if_neg other]

theorem matchPositivePid_echo (decode : UInt8 → Bytes → ObdPidResult) (pid : Nat) (echo : UInt8)
    (rest : Bytes) :
    matchPositivePid decode pid (0x41 :: echo :: rest) =
      if echo.toNat = pid then .ok (some (decode echo rest)) else .ok none := rfl

theorem matchPositivePid_cases (decode : UInt8 → Bytes → ObdPidResult) (pid : Nat) (first : UInt8)
    (rest : Bytes) :
    (first :: rest = [0x41] ∧ matchPositivePid decode pid (first :: rest) = .error .other) ∨
    (first :: rest ≠ [0x41] ∧ ∃ found, matchPositivePid decode pid (first :: rest) = .ok found ∧
      (found ≠ none → first = 0x41)) := by
  by_cases positive : first = 0x41
  · rw [positive]
    cases rest with
    | nil => exact Or.inl ⟨rfl, rfl⟩
    | cons echo rest =>
        have long : 0x41 :: echo :: rest ≠ [0x41] := fun impossible => nomatch impossible
        rw [matchPositivePid_echo]
        split
        · exact Or.inr ⟨long, some (decode echo rest), rfl, fun _ => rfl⟩
        · exact Or.inr ⟨long, none, rfl, fun _ => rfl⟩
  · rw [matchPositivePid_other positive]
    refine Or.inr ⟨?_, none, rfl, fun impossible => absurd rfl impossible⟩
    intro same
    exact positive (List.cons.inj same).1

theorem matchPid_orderly_iff (decode : UInt8 → Bytes → ObdPidResult) (pid : Nat) (first : UInt8)
    (rest : Bytes) :
    Orderly (matchPid decode pid (first :: rest)) ↔
      ¬ (OneShot.pid pid).TooShort (first :: rest) := by
  change _ ↔ ¬ (first :: rest = [0x41] ∨ first :: rest = [0x7F] ∨ first :: rest = [0x7F, 0x01])
  unfold matchPid
  rcases matchPositivePid_cases decode pid first rest with
    ⟨short, failed⟩ | ⟨long, found, ran, positive⟩
  · rw [failed]
    exact iff_of_false not_orderly_other (not_not.mpr (Or.inl short))
  · rw [ran, or_iff_right long]
    cases found with
    | none => exact matchRejection_orderly_iff 0x01 first rest
    | some result =>
        refine iff_of_true trivial ?_
        rw [positive (fun impossible => nomatch impossible)]
        rintro (impossible | impossible)
        · cases impossible
        · cases impossible

theorem matchDid_orderly_iff (decode : Nat → Bytes → δ) (did : Nat) (first : UInt8)
    (rest : Bytes) :
    Orderly (matchDid decode did (first :: rest)) ↔
      ¬ (OneShot.did did).TooShort (first :: rest) := by
  change Orderly (if first = 0x62 ∧ (first :: rest).length ≥ 3 then _ else _ :
    Except ReaderFault (Option δ)) ↔ ¬ (first :: rest = [0x7F] ∨ first :: rest = [0x7F, 0x22])
  by_cases positive : first = 0x62 ∧ (first :: rest).length ≥ 3
  · rw [if_pos positive, positive.1]
    refine iff_of_true ?_ ?_
    · split
      · trivial
      · trivial
    · rintro (impossible | impossible)
      · cases impossible
      · cases impossible
  · rw [if_neg positive]
    exact matchRejection_orderly_iff 0x22 first rest

theorem matchDtc_of_other {mode first : UInt8} {rest : Bytes} (other : first ≠ mode + 0x40) :
    matchDtc mode (first :: rest) = matchRejection mode (first :: rest) := by
  change (if first = mode + 0x40 then _ else _ : Except ReaderFault (Option (List (List Char)))) = _
  rw [if_neg other]
  rfl

theorem matchDtc_orderly_iff (kind : CodeKind) (first : UInt8) (rest : Bytes) :
    Orderly (matchDtc kind.mode (first :: rest)) ↔
      ¬ (OneShot.dtc kind).TooShort (first :: rest) := by
  have apart : kind.mode + 0x40 ≠ 0x7F := by
    cases kind with
    | stored => decide
    | pending => decide
    | permanent => decide
  change _ ↔ ¬ (first :: rest = [kind.mode + 0x40] ∨ first :: rest = [0x7F] ∨
    first :: rest = [0x7F, kind.mode])
  by_cases positive : first = kind.mode + 0x40
  · change Orderly (if first = kind.mode + 0x40 then _ else _ :
      Except ReaderFault (Option (List (List Char)))) ↔ _
    rw [if_pos positive, positive]
    cases rest with
    | nil => exact iff_of_false not_orderly_other (not_not.mpr (Or.inl rfl))
    | cons count rest =>
        refine iff_of_true trivial ?_
        rintro (impossible | impossible | impossible)
        · cases (List.cons.inj impossible).2
        · exact apart (List.cons.inj impossible).1
        · exact apart (List.cons.inj impossible).1
  · have long : first :: rest ≠ [kind.mode + 0x40] := fun same => positive (List.cons.inj same).1
    rw [matchDtc_of_other positive, or_iff_right long]
    exact matchRejection_orderly_iff kind.mode first rest

theorem matchResponse_orderly_iff (decode : UInt8 → Bytes → ObdPidResult)
    (decodeDid : Nat → Bytes → δ) (query : OneShot) {completed : Bytes}
    (nonempty : completed ≠ []) :
    Orderly (query.matchResponse decode decodeDid completed) ↔ ¬ query.TooShort completed := by
  obtain ⟨first, rest, rfl⟩ := List.exists_cons_of_ne_nil nonempty
  cases query with
  | pid pid => exact orderly_map.trans (matchPid_orderly_iff decode pid first rest)
  | did did => exact orderly_map.trans (matchDid_orderly_iff decodeDid did first rest)
  | dtc kind => exact orderly_map.trans (matchDtc_orderly_iff kind first rest)
  | freezeFrame pid frame =>
      refine orderly_map.trans (iff_of_true ?_ not_false)
      unfold matchFreezeFrame
      split
      · trivial
      · exact matchNegative_orderly 0x02 _
  | mode06 mid =>
      refine orderly_map.trans (iff_of_true ?_ not_false)
      unfold matchEcho
      split
      · trivial
      · exact matchNegative_orderly 0x06 _
  | vehicleInfo infotype =>
      refine orderly_map.trans (iff_of_true ?_ not_false)
      unfold matchEcho
      split
      · trivial
      · exact matchNegative_orderly 0x09 _

end Matching

/-! ## What the transport completes -/

section Transport

open ReceivingTransport

def Sized (link : ReceivingTransport) : Prop :=
  ∀ entry ∈ link.sessions, 0 < entry.2.totalBytes

variable {link : ReceivingTransport}

def Filled (outcome : ReceivingTransport × Handled) : Prop :=
  Sized outcome.1 ∧ ∀ payload fc, outcome.2 = .ok (some payload, fc) → payload ≠ []

theorem filled_respond (sized : Sized link) (response : Except FrameError CanFrame) :
    Filled (link, respond response) := by
  refine ⟨sized, ?_⟩
  intro payload fc completed
  cases response with
  | error error => cases completed
  | ok frame => cases completed

theorem filled_ignored (sized : Sized link) : Filled (link, .ok (none, none)) :=
  ⟨sized, fun _ _ impossible => nomatch impossible⟩

theorem filled_completed {payload : Bytes} (sized : Sized link) (nonempty : payload ≠ []) :
    Filled (link, .ok (some payload, none)) := by
  refine ⟨sized, ?_⟩
  rintro other fc completed
  cases completed
  exact nonempty

theorem Sized.dropSession (sized : Sized link) (key : SessionKey) : Sized (link.dropSession key) :=
  fun entry member => sized entry (Dict.mem_erase.mp member).1

theorem Sized.storeSession (sized : Sized link) (key : SessionKey) {session : IsoTpRxSession}
    (positive : 0 < session.totalBytes) : Sized (link.storeSession key session) := by
  intro entry member
  rcases Dict.mem_of_mem_set member with stored | old
  · rw [stored]
    exact positive
  · exact sized entry old

theorem Sized.makeRoom (sized : Sized link) (key : SessionKey) : Sized (link.makeRoom key) := by
  unfold ReceivingTransport.makeRoom
  split
  · split
    · exact sized.dropSession _
    · exact sized
  · exact sized

theorem Sized.reapStaleRxSessions (sized : Sized link) (now : Nat) :
    Sized (link.reapStaleRxSessions now) :=
  fun entry member => sized entry (List.mem_of_mem_filter member)

theorem handleSingleFrame_filled (sized : Sized link) (frame : CanFrame) (data : Bytes) :
    Filled (link.handleSingleFrame frame data) := by
  unfold ReceivingTransport.handleSingleFrame
  split
  · split
    · exact filled_ignored sized
    · split
      · exact filled_ignored sized
      · split
        · exact filled_ignored sized
        · dsimp only
          split
          · exact filled_ignored sized
          · split
            · rename_i bounded fits
              apply filled_completed (sized.dropSession _)
              apply List.ne_nil_of_length_pos
              rw [List.length_take, List.length_drop]
              omega
            · exact filled_ignored sized
  · dsimp only
    split
    · rename_i fits
      apply filled_completed (sized.dropSession _)
      apply List.ne_nil_of_length_pos
      rw [List.length_take, List.length_drop]
      omega
    · exact filled_ignored sized

theorem firstFrameLength_positive {data : Bytes} {totalLen headerLen : Nat}
    (announced : firstFrameLength data = some (totalLen, headerLen)) : 0 < totalLen := by
  unfold firstFrameLength at announced
  split at announced
  · cases announced
  · split at announced
    · dsimp only at announced
      split at announced
      · cases announced
      · cases announced
        omega
    · dsimp only at announced
      split at announced
      · cases announced
      · cases announced
        omega

theorem take_nonempty {received : Bytes} {total : Nat} (positive : 0 < total)
    (full : received.length ≥ total) : received.take total ≠ [] := by
  apply List.ne_nil_of_length_pos
  rw [List.length_take]
  omega

theorem handleFirstFrame_filled (sized : Sized link) (now : Nat) (frame : CanFrame)
    (data : Bytes) : Filled (link.handleFirstFrame now frame data) := by
  unfold ReceivingTransport.handleFirstFrame
  split
  · exact filled_ignored sized
  · rename_i totalLen headerLen announced
    have positive := firstFrameLength_positive announced
    split
    · exact filled_respond (sized.dropSession _) _
    · have announcedBytes : 0 < ({
          totalBytes := totalLen
          receivedBytes := (data.drop headerLen).take totalLen
          lastActivityTime := now
          channelId := frame.channelId } : IsoTpRxSession).totalBytes := positive
      have opened := ((sized.reapStaleRxSessions now).makeRoom (frameKey frame)).storeSession
        (frameKey frame) announcedBytes
      dsimp only
      split
      · rename_i full
        exact filled_completed (opened.dropSession _) (take_nonempty positive full)
      · exact filled_respond opened _

theorem advanceSession_filled (sized : Sized link) (frame : CanFrame) {session : IsoTpRxSession}
    (positive : 0 < session.totalBytes) : Filled (link.advanceSession frame session) := by
  unfold ReceivingTransport.advanceSession
  split
  · rename_i full
    exact filled_completed (sized.dropSession _) (take_nonempty positive full)
  · have kept (count : Nat) : 0 < { session with blockCount := count }.totalBytes := positive
    split
    · split
      · exact filled_respond (sized.storeSession _ (kept 0)) _
      · exact filled_ignored (sized.storeSession _ (kept (session.blockCount + 1)))
    · exact filled_ignored (sized.storeSession _ positive)

theorem handleConsecutiveFrame_filled (sized : Sized link) (now : Nat) (frame : CanFrame)
    (data : Bytes) : Filled (link.handleConsecutiveFrame now frame data) := by
  unfold ReceivingTransport.handleConsecutiveFrame
  split
  · exact filled_ignored sized
  · rename_i session found
    have positive : 0 < session.totalBytes := sized _ (Dict.mem_of_get? found)
    split
    · exact filled_ignored sized
    · split
      · exact filled_ignored (sized.dropSession _)
      · split
        · exact filled_ignored (sized.dropSession _)
        · exact advanceSession_filled sized frame positive

theorem handleRxFrame_filled (sized : Sized link) (now : Nat) (frame : CanFrame) :
    Filled (link.handleRxFrame now frame) := by
  unfold ReceivingTransport.handleRxFrame
  split
  · exact filled_ignored sized
  · rename_i data _
    unfold ReceivingTransport.handleNpdu
    dsimp only
    split
    · exact handleSingleFrame_filled sized frame data
    · split
      · exact handleFirstFrame_filled sized now frame data
      · split
        · exact handleConsecutiveFrame_filled sized now frame data
        · exact filled_ignored sized

theorem receiveAll_sized (sized : Sized link) (frames : List (Nat × CanFrame)) :
    Sized (link.receiveAll frames).1 := by
  induction frames generalizing link with
  | nil => exact sized
  | cons first rest ih => exact ih (handleRxFrame_filled sized first.1 first.2).1

def InUse (link : ReceivingTransport) : Prop :=
  ∃ fresh : ReceivingTransport, ∃ frames, fresh.sessions = [] ∧ link = (fresh.receiveAll frames).1

theorem sized_of_inUse (used : InUse link) : Sized link := by
  obtain ⟨fresh, frames, idle, rfl⟩ := used
  apply receiveAll_sized
  intro entry member
  rw [idle] at member
  cases member

end Transport

/-! ## The loops over what the frames come to -/

section Loops

variable {α κ ρ τ : Type}

/-- What each of the frames comes to, one after the other. -/
def heedAll (heed : τ → Reader κ ρ (Option Bytes)) :
    ReaderState κ ρ → List τ → List (τ × Except ReaderFault (Option Bytes))
  | _, [] => []
  | state, arrival :: rest =>
      (arrival, (heed arrival state).1) :: heedAll heed (heed arrival state).2 rest

theorem heedAll_filled {heed : τ → Reader κ ρ (Option Bytes)} {kind : ReaderState κ ρ → Prop}
    (step : ∀ state arrival, kind state → kind (heed arrival state).2 ∧
      ∀ payload, (heed arrival state).1 = .ok (some payload) → payload ≠ [])
    {state : ReaderState κ ρ} (start : kind state) (queue : List τ) :
    ∀ entry ∈ heedAll heed state queue, ∀ payload, entry.2 = .ok (some payload) →
      payload ≠ [] := by
  induction queue generalizing state with
  | nil =>
      intro entry absent
      cases absent
  | cons first rest ih =>
      obtain ⟨next, filled⟩ := step state first start
      intro entry member
      rcases List.mem_cons.mp member with rfl | later
      · exact filled
      · exact ih next entry later

/-- One round of the wait. -/
def awaitTurn (matchResponse : Bytes → Except ReaderFault (Option α)) (window : Nat × Nat)
    (entry : ObdArrival × Except ReaderFault (Option Bytes)) :
    Turn (Nat × Nat) (Except ReaderFault α) :=
  if window.1 ≤ entry.1.polledNs ∨ maxPendingAbsNs ≤ entry.1.polledNs then .stop (.error .timeout)
  else
    match entry.2 with
    | .error fault => .stop (.error fault)
    | .ok none => .on window
    | .ok (some completed) =>
        match byteAt completed 0 with
        | .error fault => .stop (.error fault)
        | .ok first =>
            if first = negativeResponse ∧ completed.length ≥ 3 ∧
                completed.getD 2 0 = responsePending ∧ window.2 < maxNrc78Count ∧
                entry.1.handledNs < maxPendingAbsNs then
              .on (min (entry.1.handledNs + p2StarTimeoutNs) maxPendingAbsNs, window.2 + 1)
            else
              match matchResponse completed with
              | .error fault => .stop (.error fault)
              | .ok (some result) => .stop (.ok result)
              | .ok none => .on window

theorem awaitDiagnosticResponse_scan (read : ObdRead) (ecu : ObdEcu)
    (matchResponse : Bytes → Except ReaderFault (Option α)) (deadline count : Nat)
    (queue : List ObdArrival) (state : CarState) :
    (read.awaitDiagnosticResponse ecu matchResponse deadline count queue state).1 =
      Turn.scan (awaitTurn matchResponse) (fun _ => .error .timeout) (deadline, count)
        (heedAll (read.heed ecu) state queue) := by
  induction queue generalizing deadline count state with
  | nil => rfl
  | cons arrival rest ih =>
      rw [ObdRead.awaitDiagnosticResponse, heedAll, Turn.scan, awaitTurn]
      by_cases late : deadline ≤ arrival.polledNs ∨ maxPendingAbsNs ≤ arrival.polledNs
      · rw [if_pos late, if_pos late]
        rfl
      · rw [if_neg late, if_neg late]
        cases heeded : read.heed ecu arrival state with
        | mk outcome after =>
            cases outcome with
            | error fault => rw [bind_of_error heeded]
            | ok completed =>
                rw [bind_of_ok heeded]
                cases completed with
                | none => exact ih deadline count after
                | some completed =>
                    dsimp only
                    cases indexed : byteAt completed 0 with
                    | error fault => rfl
                    | ok first =>
                        rw [bind_of_ok (show Dialogue.lift (.ok first) after = (.ok first, after)
                          from rfl)]
                        dsimp only
                        by_cases pending : first = negativeResponse ∧ completed.length ≥ 3 ∧
                            completed.getD 2 0 = responsePending ∧ count < maxNrc78Count ∧
                            arrival.handledNs < maxPendingAbsNs
                        · rw [if_pos pending, if_pos pending]
                          exact ih _ (count + 1) after
                        · rw [if_neg pending, if_neg pending]
                          cases matched : matchResponse completed with
                          | error fault => rfl
                          | ok found =>
                              rw [bind_of_ok (show Dialogue.lift (.ok found) after =
                                (.ok found, after) from rfl)]
                              cases found with
                              | none => exact ih deadline count after
                              | some result => rfl

def collectTurn (decode : UInt8 → Bytes → ObdPidResult) (pid deadline : Nat)
    (results : List (Nat × ObdPidResult))
    (entry : ObdArrival × Except ReaderFault (Option Bytes)) :
    Turn (List (Nat × ObdPidResult)) (Except ReaderFault (List (Nat × ObdPidResult))) :=
  if deadline ≤ entry.1.polledNs then .stop (.ok results)
  else
    match entry.2 with
    | .error fault => .stop (.error fault)
    | .ok none => .on results
    | .ok (some completed) =>
        if entry.1.frame.arbitrationId ∈ results.map Prod.fst then .on results
        else
          match matchPositivePid decode pid completed with
          | .error fault => .stop (.error fault)
          | .ok none => .on results
          | .ok (some result) => .on (results ++ [(entry.1.frame.arbitrationId, result)])

theorem collect_scan (broadcast : ObdBroadcast) (pid deadline : Nat)
    (results : List (Nat × ObdPidResult)) (queue : List ObdArrival) (state : BroadcastState) :
    (broadcast.collect pid deadline results queue state).1 =
      Turn.scan (collectTurn broadcast.decode pid deadline) .ok results
        (heedAll broadcast.heed state queue) := by
  induction queue generalizing results state with
  | nil => rfl
  | cons arrival rest ih =>
      rw [ObdBroadcast.collect, heedAll, Turn.scan, collectTurn]
      by_cases late : deadline ≤ arrival.polledNs
      · rw [if_pos late, if_pos late]
        rfl
      · rw [if_neg late, if_neg late]
        cases heeded : broadcast.heed arrival state with
        | mk outcome after =>
            cases outcome with
            | error fault => rw [bind_of_error heeded]
            | ok completed =>
                rw [bind_of_ok heeded]
                cases completed with
                | none => exact ih results after
                | some completed =>
                    dsimp only
                    by_cases seen : arrival.frame.arbitrationId ∈ results.map Prod.fst
                    · rw [if_pos seen, if_pos seen]
                      exact ih results after
                    · rw [if_neg seen, if_neg seen]
                      cases matched : matchPositivePid broadcast.decode pid completed with
                      | error fault => rfl
                      | ok found =>
                          rw [bind_of_ok (show Dialogue.lift (.ok found) after =
                            (.ok found, after) from rfl)]
                          cases found with
                          | none => exact ih results after
                          | some result => exact ih _ after

end Loops

section Filling

/-- The flow control leaves the transport as it is, and the payload as well where the port takes
it. -/
theorem send_cases {κ ρ : Type} (port : TxPort κ) (fc : CanFrame) (completed : Option Bytes)
    (state : ReaderState κ ρ) :
    ((send port fc >>= fun _ => pure completed) state).2.link = state.link ∧
      ∀ payload, ((send port fc >>= fun _ => pure completed) state).1 = .ok (some payload) →
        completed = some payload := by
  cases refused : port.refuses state.log fc with
  | some fault =>
      have sent : send port fc state =
          (.error fault, { state with log := state.log ++ [.sent fc] }) := by
        unfold send
        rw [refused]
      rw [bind_of_error sent]
      exact ⟨rfl, fun _ impossible => nomatch impossible⟩
  | none =>
      have sent : send port fc state =
          (.ok (), { state with log := state.log ++ [.sent fc] }) := by
        unfold send
        rw [refused]
      rw [bind_of_ok sent]
      exact ⟨rfl, fun _ same => Except.ok.inj same⟩

theorem heed_filled (read : ObdRead) (ecu : ObdEcu) (state : CarState) (arrival : ObdArrival)
    (sized : Sized state.link) :
    Sized (read.heed ecu arrival state).2.link ∧
      ∀ payload, (read.heed ecu arrival state).1 = .ok (some payload) → payload ≠ [] := by
  have heard : read.heed ecu arrival state =
      (if arrival.frame.channelId ≠ read.channelId then pure none
        else if arrival.frame.arbitrationId ≠ ecu.rxId ∨ arrival.frame.data.length < 3 then pure none
        else read.transport arrival : CarReader (Option Bytes))
        { state with log := state.log ++ [.heard ⟨ecu, arrival⟩] } := rfl
  have passed : Sized state.link ∧
      ∀ payload, (.ok none : Except ReaderFault (Option Bytes)) = .ok (some payload) →
        payload ≠ [] := ⟨sized, fun _ impossible => nomatch impossible⟩
  rw [heard]
  split
  · exact passed
  · split
    · exact passed
    · have filled := handleRxFrame_filled sized arrival.receivedNs arrival.frame
      unfold ObdRead.transport
      dsimp only
      cases ran : state.link.handleRxFrame arrival.receivedNs arrival.frame with
      | mk link handled =>
          rw [ran] at filled
          obtain ⟨kept, nonempty⟩ := filled
          cases handled with
          | error error => exact ⟨kept, fun _ impossible => nomatch impossible⟩
          | ok result =>
              obtain ⟨completed, response⟩ := result
              cases response with
              | none =>
                  refine ⟨kept, fun payload same => nonempty payload none ?_⟩
                  rw [Except.ok.inj same]
              | some fc =>
                  obtain ⟨unmoved, given⟩ := send_cases read.port fc completed { state with
                    link := link, log := state.log ++ [.heard ⟨ecu, arrival⟩] }
                  refine ⟨unmoved ▸ kept, fun payload same => nonempty payload (some fc) ?_⟩
                  rw [given payload same]

theorem broadcastHeed_filled (broadcast : ObdBroadcast) (state : BroadcastState)
    (arrival : ObdArrival) (sized : ∀ rid, Sized (state.link rid)) :
    (∀ rid, Sized ((broadcast.heed arrival state).2.link rid)) ∧
      ∀ payload, (broadcast.heed arrival state).1 = .ok (some payload) → payload ≠ [] := by
  have heard : broadcast.heed arrival state =
      (if arrival.frame.channelId ≠ broadcast.channelId then pure none
        else if ¬ isResponseId arrival.frame.arbitrationId ∨ arrival.frame.data.length < 3 then
          pure none
        else broadcast.transport arrival : BroadcastReader (Option Bytes))
        { state with log := state.log ++ [.heard arrival] } := rfl
  have passed : (∀ rid, Sized (state.link rid)) ∧
      ∀ payload, (.ok none : Except ReaderFault (Option Bytes)) = .ok (some payload) →
        payload ≠ [] := ⟨sized, fun _ impossible => nomatch impossible⟩
  rw [heard]
  split
  · exact passed
  · split
    · exact passed
    · have filled := handleRxFrame_filled (sized arrival.frame.arbitrationId) arrival.receivedNs
        arrival.frame
      unfold ObdBroadcast.transport
      dsimp only
      cases ran : (state.link arrival.frame.arbitrationId).handleRxFrame arrival.receivedNs
        arrival.frame with
      | mk link handled =>
          rw [ran] at filled
          obtain ⟨kept, nonempty⟩ := filled
          have all (rid : Nat) :
              Sized (Function.update state.link arrival.frame.arbitrationId link rid) := by
            by_cases same : rid = arrival.frame.arbitrationId
            · rw [same, Function.update_self]
              exact kept
            · rw [Function.update_of_ne same]
              exact sized rid
          cases handled with
          | error error => exact ⟨all, fun _ impossible => nomatch impossible⟩
          | ok result =>
              obtain ⟨completed, response⟩ := result
              cases response with
              | none =>
                  refine ⟨all, fun payload same => nonempty payload none ?_⟩
                  rw [Except.ok.inj same]
              | some fc =>
                  obtain ⟨unmoved, given⟩ := send_cases broadcast.port fc completed { state with
                    link := Function.update state.link arrival.frame.arbitrationId link
                    log := state.log ++ [.heard arrival] }
                  refine ⟨fun rid => ?_, fun payload same => nonempty payload (some fc) ?_⟩
                  · rw [unmoved]
                    exact all rid
                  · rw [given payload same]

end Filling

section Spoiling

/-- A frame in time whose flow control is refused, or that completes a payload too short. -/
def Spoils (query : OneShot) (window : Nat × Nat)
    (entry : ObdArrival × Except ReaderFault (Option Bytes)) : Prop :=
  (entry.1.polledNs < window.1 ∧ entry.1.polledNs < maxPendingAbsNs) ∧
    match entry.2 with
    | .error fault => ¬ Orderly (.error fault : Except ReaderFault Unit)
    | .ok none => False
    | .ok (some completed) => query.TooShort completed

/-- The same of the collection, where a controller that has answered is past spoiling it. -/
def SpoilsCollection (deadline : Nat) (results : List (Nat × ObdPidResult))
    (entry : ObdArrival × Except ReaderFault (Option Bytes)) : Prop :=
  entry.1.polledNs < deadline ∧
    match entry.2 with
    | .error fault => ¬ Orderly (.error fault : Except ReaderFault Unit)
    | .ok none => False
    | .ok (some completed) =>
        entry.1.frame.arbitrationId ∉ results.map Prod.fst ∧ completed = [0x41]

variable {δ : Type}

theorem tooShort_length {query : OneShot} {completed : Bytes} (short : query.TooShort completed) :
    completed.length ≤ 2 := by
  cases query with
  | pid pid =>
      rcases short with rfl | rfl | rfl
      · exact Nat.le_succ 1
      · exact Nat.le_succ 1
      · exact Nat.le_refl 2
  | did did =>
      rcases short with rfl | rfl
      · exact Nat.le_succ 1
      · exact Nat.le_refl 2
  | dtc kind =>
      rcases short with rfl | rfl | rfl
      · exact Nat.le_succ 1
      · exact Nat.le_succ 1
      · exact Nat.le_refl 2
  | freezeFrame pid frame => exact short.elim
  | mode06 mid => exact short.elim
  | vehicleInfo infotype => exact short.elim

theorem awaitTurn_orderly_iff (decode : UInt8 → Bytes → ObdPidResult)
    (decodeDid : Nat → Bytes → δ) (query : OneShot) (window : Nat × Nat)
    {entry : ObdArrival × Except ReaderFault (Option Bytes)}
    (filled : ∀ payload, entry.2 = .ok (some payload) → payload ≠ []) :
    (∀ result, awaitTurn (query.matchResponse decode decodeDid) window entry = .stop result →
      Orderly result) ↔ ¬ Spoils query window entry := by
  obtain ⟨arrival, outcome⟩ := entry
  have stops {result : Except ReaderFault (OneShotResult δ)} :
      (∀ other, (.stop result : Turn (Nat × Nat) _) = .stop other → Orderly other) ↔
        Orderly result := by
    constructor
    · intro all
      exact all result rfl
    · rintro orderly other same
      cases same
      exact orderly
  unfold awaitTurn Spoils
  dsimp only
  by_cases late : window.1 ≤ arrival.polledNs ∨ maxPendingAbsNs ≤ arrival.polledNs
  · rw [if_pos late]
    exact iff_of_true (stops.mpr (Or.inl rfl)) (fun spoiled => by omega)
  · have timely : arrival.polledNs < window.1 ∧ arrival.polledNs < maxPendingAbsNs := by omega
    rw [if_neg late, and_iff_right timely]
    cases outcome with
    | error fault =>
        dsimp only
        rw [stops, not_not]
        exact Iff.rfl
    | ok completed =>
        cases completed with
        | none => exact iff_of_true (fun _ impossible => nomatch impossible) not_false
        | some completed =>
            obtain ⟨first, rest, shape⟩ := List.exists_cons_of_ne_nil (filled completed rfl)
            have indexed : byteAt completed 0 = .ok first := by rw [shape]; rfl
            dsimp only
            rw [indexed]
            dsimp only
            split
            · rename_i pending
              refine iff_of_true (fun _ impossible => nomatch impossible) ?_
              intro short
              have length := tooShort_length short
              omega
            · rw [← matchResponse_orderly_iff decode decodeDid query (filled completed rfl)]
              cases query.matchResponse decode decodeDid completed with
              | error fault => exact stops
              | ok found =>
                  cases found with
                  | none => exact iff_of_true (fun _ impossible => nomatch impossible) trivial
                  | some result => exact stops

theorem collectTurn_orderly_iff (decode : UInt8 → Bytes → ObdPidResult) (pid deadline : Nat)
    (results : List (Nat × ObdPidResult))
    {entry : ObdArrival × Except ReaderFault (Option Bytes)}
    (filled : ∀ payload, entry.2 = .ok (some payload) → payload ≠ []) :
    (∀ result, collectTurn decode pid deadline results entry = .stop result → Orderly result) ↔
      ¬ SpoilsCollection deadline results entry := by
  obtain ⟨arrival, outcome⟩ := entry
  unfold collectTurn SpoilsCollection
  dsimp only
  by_cases late : deadline ≤ arrival.polledNs
  · rw [if_pos late]
    refine iff_of_true ?_ (fun spoiled => absurd spoiled.1 (Nat.not_lt.mpr late))
    intro result same
    cases same
    trivial
  · rw [if_neg late, and_iff_right (Nat.lt_of_not_le late)]
    cases outcome with
    | error fault =>
        dsimp only
        rw [not_not]
        constructor
        · intro all
          exact all (.error fault) rfl
        · rintro orderly result same
          cases same
          exact orderly
    | ok completed =>
        cases completed with
        | none => exact iff_of_true (fun _ impossible => nomatch impossible) not_false
        | some completed =>
            dsimp only
            by_cases seen : arrival.frame.arbitrationId ∈ results.map Prod.fst
            · rw [if_pos seen]
              exact iff_of_true (fun _ impossible => nomatch impossible) (fun both => both.1 seen)
            · rw [if_neg seen, and_iff_right seen]
              obtain ⟨first, rest, rfl⟩ := List.exists_cons_of_ne_nil (filled completed rfl)
              rcases matchPositivePid_cases decode pid first rest with
                ⟨short, failed⟩ | ⟨long, found, ran, _⟩
              · rw [failed]
                refine iff_of_false ?_ (not_not.mpr short)
                intro all
                exact not_orderly_other (all (.error .other) rfl)
              · rw [ran]
                refine iff_of_true ?_ long
                intro result impossible
                cases found with
                | none => cases impossible
                | some result => cases impossible

end Spoiling

/-- Each poll, and the broadcast, ends in order exactly when no frame it comes to spoils it. -/
theorem oneShots_orderly_iff {δ : Type} (decodeDid : Nat → Bytes → δ) :
    (∀ (read : ObdRead) (query : OneShot) (ecu : ObdEcu) (state : CarState)
      (queue : List ObdArrival), InUse state.link →
      (Orderly (read.awaitDiagnosticResponse ecu (query.matchResponse read.decode decodeDid)
          read.timeoutNs 0 queue state).1 ↔
        ∀ window entry, Turn.Reaches (awaitTurn (query.matchResponse read.decode decodeDid))
          (read.timeoutNs, 0) (heedAll (read.heed ecu) state queue) window entry →
          ¬ Spoils query window entry)) ∧
    ∀ (broadcast : ObdBroadcast) (pid windowNs : Nat) (state : BroadcastState)
      (queue : List ObdArrival), (∀ rid, InUse (state.link rid)) →
      (Orderly (broadcast.collect pid windowNs [] queue state).1 ↔
        ∀ results entry, Turn.Reaches (collectTurn broadcast.decode pid windowNs) []
          (heedAll broadcast.heed state queue) results entry →
          ¬ SpoilsCollection windowNs results entry) := by
  constructor
  · intro read query ecu state queue used
    have filled := heedAll_filled (heed_filled read ecu) (sized_of_inUse used) queue
    have ends (_ : Nat × Nat) : Orderly (.error .timeout : Except ReaderFault (OneShotResult δ)) :=
      Or.inl rfl
    rw [awaitDiagnosticResponse_scan]
    refine (Turn.scan_iff (P := Orderly) ends _ _).trans ?_
    apply forall_congr'
    intro window
    apply forall_congr'
    intro entry
    apply imp_congr_right
    intro reaches
    exact awaitTurn_orderly_iff read.decode decodeDid query window (filled entry reaches.mem)
  · intro broadcast pid windowNs state queue used
    have filled := heedAll_filled (broadcastHeed_filled broadcast)
      (fun rid => sized_of_inUse (used rid)) queue
    have ends (results : List (Nat × ObdPidResult)) :
        Orderly (.ok results : Except ReaderFault (List (Nat × ObdPidResult))) := trivial
    rw [collect_scan]
    refine (Turn.scan_iff (P := Orderly) ends _ _).trans ?_
    apply forall_congr'
    intro results
    apply forall_congr'
    intro entry
    apply imp_congr_right
    intro reaches
    exact collectTurn_orderly_iff broadcast.decode pid windowNs results (filled entry reaches.mem)

/-! ## The speed of the engine -/

def fromEngine (frame : CanFrame) : ObdArrival where
  polledNs := 0
  receivedNs := 0
  handledNs := 0
  frame := frame

def speedResponse : CanFrame where
  channelId := "can0"
  arbitrationId := 0x7E8
  dlc := 8
  data := [0x04, 0x41, 0x0C, 0x1A, 0xF8, 0x55, 0x55, 0x55]
  valid := by decide

/-- A positive answer of one byte. -/
def bareResponse : CanFrame where
  channelId := "can0"
  arbitrationId := 0x7E8
  dlc := 8
  data := [0x01, 0x41, 0x55, 0x55, 0x55, 0x55, 0x55, 0x55]
  valid := by decide

def engineController : ObdEcu :=
  ⟨0x7E0, 0x7E8, "Motor kontrol ünitesi", "Engine control unit", engine_permitted⟩

def rawPid (_ : UInt8) (data : Bytes) : ObdPidResult where
  isValid := true
  text := []
  number := some (natFromBytes data)

def engineRead : ObdRead where
  port := { refuses := fun _ _ => none }
  bus := fun _ => []
  channelId := "can0"
  decode := rawPid

def engineState : CarState where
  link := { txId := 0x7E0, channelId := "can0", rxId := 0x7E8 }

theorem engineState_inUse : InUse engineState.link := ⟨engineState.link, [], rfl, rfl⟩

theorem oneShots_orderly_speed :
    Orderly (engineRead.awaitDiagnosticResponse engineController
      ((OneShot.pid 0x0C).matchResponse engineRead.decode (fun _ data => data))
      engineRead.timeoutNs 0 [fromEngine speedResponse] engineState).1 := by
  apply ((oneShots_orderly_iff (fun _ data => data)).1 engineRead (.pid 0x0C) engineController engineState
    [fromEngine speedResponse] engineState_inUse).mpr
  intro window entry reaches spoiled
  have member : entry ∈ [(fromEngine speedResponse,
      (.ok (some [0x41, 0x0C, 0x1A, 0xF8]) : Except ReaderFault (Option Bytes)))] := reaches.mem
  rw [List.mem_singleton.mp member] at spoiled
  rcases spoiled.2 with impossible | impossible | impossible
  · cases impossible
  · cases impossible
  · cases impossible

/-- A positive answer of one byte ends the poll with an index out of range. -/
theorem bare_response_escapes :
    ¬ ∀ (read : ObdRead) (query : OneShot) (ecu : ObdEcu) (state : CarState)
      (queue : List ObdArrival), InUse state.link →
      Orderly (read.awaitDiagnosticResponse ecu
        (query.matchResponse read.decode (fun _ data => data)) read.timeoutNs 0 queue state).1 := by
  intro claimed
  have orderly := claimed engineRead (.pid 0x0C) engineController engineState [fromEngine bareResponse]
    engineState_inUse
  have escapes : (engineRead.awaitDiagnosticResponse engineController
      ((OneShot.pid 0x0C).matchResponse engineRead.decode (fun _ data => data))
      engineRead.timeoutNs 0 [fromEngine bareResponse] engineState).1 = .error .other := rfl
  rw [escapes] at orderly
  exact not_orderly_other orderly

end Ucanlab.Diagnosis
