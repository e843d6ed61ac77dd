import Ucanlab.Uds.FlowLink

/-!
What holds at every moment of a flow-controlled transfer, and that it ends. The sender, the
receiver and the frames between them are in one of nine phases. The flow controls on their
way to the sender are WAITs, with one Clear To Send among them once it has been given.
-/

namespace Ucanlab.IsoTp

namespace FlowSetup

variable {setup : FlowSetup}

inductive Flying (setup : FlowSetup) : Nat → List CanFrame → Prop where
  | none (taken : Nat) : Flying setup taken []
  | next {taken : Nat} {frame : CanFrame} {frames : List CanFrame}
      (bears : setup.Bears frame
        (consecutiveFramePci (sequenceNumber taken) :: setup.chunk taken))
      (tail : Flying setup (taken + 1) frames) :
      Flying setup taken (frame :: frames)

theorem Flying.snoc {taken : Nat} {frames : List CanFrame} {last : CanFrame}
    (flying : Flying setup taken frames)
    (bears : setup.Bears last (consecutiveFramePci (sequenceNumber (taken + frames.length)) ::
      setup.chunk (taken + frames.length))) :
    Flying setup taken (frames ++ [last]) := by
  induction flying with
  | none taken => exact .next bears (.none (taken + 1))
  | @next taken frame frames first tail ih =>
      have position : taken + (frame :: frames).length = taken + 1 + frames.length := by
        rw [List.length_cons]
        omega
      rw [position] at bears
      exact .next first (ih bears)

/-- The phases of a transfer. The number is what is left to do, the flag tells whether a
Clear To Send is on its way. In a block the receiver has taken some of the frames sent, the
rest is in flight, and so is the difference of the two block counts. -/
inductive Phase (setup : FlowSetup) : Nat → Bool → FlowLink → Prop where
  | starting {toSender : List CanFrame} {waits : Nat} :
      Phase setup (4 * setup.frames + 2) false { toSender := toSender, waits := waits }
  | single {frame : CanFrame} {toSender : List CanFrame} {waits : Nat}
      (heard : setup.receiver.hearOpening frame = .done setup.payload) :
      Phase setup 1 false {
        sender := .done
        toReceiver := [frame]
        toSender := toSender
        waits := waits }
  | opening {frame : CanFrame} {count : Nat} {toSender : List CanFrame} {waits : Nat}
      (owed : 0 < setup.frames)
      (heard : setup.receiver.hearOpening frame = .granting setup.payload.length
        (sequenceNumber 0) (setup.payload.take (setup.position 0))) :
      Phase setup (4 * setup.frames + 1) false {
        sender := .awaitingFc (setup.position 0) (sequenceNumber 0) count
        toReceiver := [frame]
        toSender := toSender
        waits := waits
        requested := [setup.position 0] }
  | granting {sent count : Nat} {toSender : List CanFrame} {waits : Nat} {log : List Nat}
      (owed : sent < setup.frames) :
      Phase setup (4 * (setup.frames - sent)) false {
        sender := .awaitingFc (setup.position sent) (sequenceNumber sent) count
        receiver := .granting setup.payload.length (sequenceNumber sent)
          (setup.payload.take (setup.position sent))
        toSender := toSender
        waits := waits
        requested := log ++ [setup.position sent]
        emitted := log }
  | granted {sent count : Nat} {toSender : List CanFrame} {waits : Nat} {log : List Nat}
      (owed : sent < setup.frames) :
      Phase setup (4 * (setup.frames - sent) - 1) true {
        sender := .awaitingFc (setup.position sent) (sequenceNumber sent) count
        receiver := .collecting setup.payload.length (sequenceNumber sent) 0
          (setup.payload.take (setup.position sent))
        toSender := toSender
        waits := waits
        requested := log
        emitted := log }
  | sending {taken sent received blockCount : Nat} {flying toSender : List CanFrame} {waits : Nat}
      {log : List Nat} (train : Flying setup taken flying) (reaches : taken + flying.length = sent)
      (counts : received + flying.length = blockCount) (owed : sent < setup.frames)
      (room : 0 < setup.receiver.blockSize → blockCount < setup.receiver.blockSize) :
      Phase setup (4 * (setup.frames - sent) - 2 + flying.length) false {
        sender := .sending (setup.position sent) (sequenceNumber sent) blockCount
          setup.receiver.blockSize
        receiver := .collecting setup.payload.length (sequenceNumber taken) received
          (setup.payload.take (setup.position taken))
        toReceiver := flying
        toSender := toSender
        waits := waits
        requested := log
        emitted := log }
  -- the block is full and its last frame still in flight
  | asked {taken sent received count : Nat} {flying toSender : List CanFrame} {waits : Nat}
      {log : List Nat} (train : Flying setup taken flying) (reaches : taken + flying.length = sent)
      (ahead : 0 < flying.length) (full : received + flying.length = setup.receiver.blockSize)
      (owed : sent < setup.frames) :
      Phase setup (4 * (setup.frames - sent) + flying.length) false {
        sender := .awaitingFc (setup.position sent) (sequenceNumber sent) count
        receiver := .collecting setup.payload.length (sequenceNumber taken) received
          (setup.payload.take (setup.position taken))
        toReceiver := flying
        toSender := toSender
        waits := waits
        requested := log ++ [setup.position sent]
        emitted := log }
  -- the last block is never asked for, however full
  | finished {taken received : Nat} {flying toSender : List CanFrame} {waits : Nat}
      {log : List Nat} (train : Flying setup taken flying)
      (reaches : taken + flying.length = setup.frames) (ahead : 0 < flying.length)
      (room : 0 < setup.receiver.blockSize → received + flying.length ≤ setup.receiver.blockSize) :
      Phase setup flying.length false {
        sender := .done
        receiver := .collecting setup.payload.length (sequenceNumber taken) received
          (setup.payload.take (setup.position taken))
        toReceiver := flying
        toSender := toSender
        waits := waits
        requested := log
        emitted := log }
  | done {toSender : List CanFrame} {waits : Nat} {log : List Nat} :
      Phase setup 0 false {
        sender := .done
        receiver := .done setup.payload
        toSender := toSender
        waits := waits
        requested := log
        emitted := log }

end FlowSetup

def SenderState.heardWaits : SenderState → Nat
  | .awaitingFc _ _ wftCount => wftCount
  | _ => 0

namespace FlowSetup

variable {setup : FlowSetup} {potential : Nat} {granted : Bool} {link next : FlowLink}

def Queued (setup : FlowSetup) : Bool → FlowLink → Prop
  | false, link => link.waits ≤ setup.sender.wftMax ∧
      ∃ queued, link.toSender = List.replicate queued (setup.fc fsWait) ∧
        link.sender.heardWaits + queued ≤ link.waits
  | true, link => link.waits ≤ setup.sender.wftMax ∧
      ∃ queued later, link.toSender = List.replicate queued (setup.fc fsWait) ++
          setup.fc fsCts :: List.replicate later (setup.fc fsWait) ∧
        link.sender.heardWaits + queued ≤ setup.sender.wftMax ∧ later ≤ link.waits

/-- An upper bound on the steps to come. A flow control costs at most as many as there may be
WAITs, each put on the link and heard. -/
def cost (setup : FlowSetup) (potential : Nat) (link : FlowLink) : Nat :=
  (2 * setup.sender.wftMax + 2) * potential + 2 * (setup.sender.wftMax - link.waits) +
    link.toSender.length

theorem cost_lt {fewer : Nat} (less : fewer < potential)
    (bounded : 2 * (setup.sender.wftMax - next.waits) + next.toSender.length <
      2 * (setup.sender.wftMax - link.waits) + link.toSender.length +
        (2 * setup.sender.wftMax + 2)) :
    setup.cost fewer next < setup.cost potential link := by
  have scaled := Nat.mul_le_mul_left (2 * setup.sender.wftMax + 2) (Nat.succ_le_of_lt less)
  rw [Nat.mul_succ] at scaled
  unfold cost
  omega

/-- A step that leaves the flow controls as they are. -/
theorem cost_lt_of_same {fewer : Nat} (less : fewer < potential)
    (toSender : next.toSender = link.toSender) (waits : next.waits = link.waits) :
    setup.cost fewer next < setup.cost potential link := by
  refine cost_lt less ?_
  rw [toSender, waits]
  omega

theorem Queued.of_same (queued : setup.Queued false link)
    (toSender : next.toSender = link.toSender) (waits : next.waits = link.waits)
    (heard : next.sender.heardWaits ≤ link.sender.heardWaits) : setup.Queued false next := by
  obtain ⟨bounded, count, onWay, fits⟩ := queued
  refine ⟨waits ▸ bounded, count, toSender.trans onWay, ?_⟩
  rw [waits]
  omega

/-- What a step comes to: less to do than before. -/
def Advances (setup : FlowSetup) (potential : Nat) (link next : FlowLink) : Prop :=
  ∃ fewer granted, Phase setup fewer granted next ∧ setup.Queued granted next ∧
    setup.cost fewer next < setup.cost potential link

section Steps

theorem Phase.flowControls (phase : Phase setup potential granted link)
    (toSender : List CanFrame) (waits : Nat) :
    Phase setup potential granted { link with toSender := toSender, waits := waits } := by
  cases phase with
  | starting => exact .starting
  | single heard => exact .single heard
  | opening owed heard => exact .opening owed heard
  | granting owed => exact .granting owed
  | granted owed => exact .granted owed
  | sending train reaches counts owed room => exact .sending train reaches counts owed room
  | asked train reaches ahead full owed => exact .asked train reaches ahead full owed
  | finished train reaches ahead room => exact .finished train reaches ahead room
  | done => exact .done

theorem Phase.reawaits (phase : Phase setup potential granted link)
    {bytesSent seqNum wftCount : Nat} (sender : link.sender = .awaitingFc bytesSent seqNum wftCount)
    (count : Nat) :
    Phase setup potential granted { link with sender := .awaitingFc bytesSent seqNum count } := by
  cases phase with
  | opening owed heard =>
      cases sender
      exact .opening owed heard
  | granting owed =>
      cases sender
      exact .granting owed
  | granted owed =>
      cases sender
      exact .granted owed
  | asked train reaches ahead full owed =>
      cases sender
      exact .asked train reaches ahead full owed
  | starting => cases sender
  | single heard => cases sender
  | sending train reaches counts owed room => cases sender
  | finished train reaches ahead room => cases sender
  | done => cases sender

theorem Queued.wait (queued : setup.Queued granted link)
    (room : link.waits < setup.sender.wftMax) :
    setup.Queued granted { link with
      toSender := link.toSender ++ [setup.fc fsWait], waits := link.waits + 1 } := by
  cases granted with
  | false =>
      obtain ⟨-, count, onWay, fits⟩ := queued
      refine ⟨room, count + 1, ?_, Nat.succ_le_succ fits⟩
      change link.toSender ++ [setup.fc fsWait] = _
      rw [onWay, List.replicate_succ']
  | true =>
      obtain ⟨-, count, later, onWay, fits, behind⟩ := queued
      refine ⟨room, count, later + 1, ?_, fits, Nat.succ_le_succ behind⟩
      change link.toSender ++ [setup.fc fsWait] = _
      rw [onWay, List.replicate_succ', List.append_assoc, List.cons_append]

theorem Phase.wait (phase : Phase setup potential granted link)
    (queued : setup.Queued granted link) (stepped : setup.step link .wait = some next) :
    setup.Advances potential link next := by
  unfold step at stepped
  dsimp only at stepped
  rw [buildFcFrame_eq] at stepped
  dsimp only at stepped
  by_cases room : link.waits < setup.sender.wftMax
  · rw [if_pos room] at stepped
    cases stepped
    refine ⟨potential, granted, phase.flowControls _ _, queued.wait room, ?_⟩
    unfold cost
    dsimp only
    rw [List.length_append, List.length_singleton]
    omega
  · rw [if_neg room] at stepped
    cases stepped

theorem step_senderHears (stepped : setup.step link .senderHears = some next) :
    ∃ bytesSent seqNum wftCount frame rest,
      link.sender = .awaitingFc bytesSent seqNum wftCount ∧ link.toSender = frame :: rest ∧
        next = { link with
          sender := setup.sender.hear setup.payload bytesSent seqNum wftCount (some frame)
          toSender := rest } := by
  unfold step at stepped
  dsimp only at stepped
  split at stepped
  · rename_i bytesSent seqNum wftCount frame rest sender onWay
    exact ⟨bytesSent, seqNum, wftCount, frame, rest, sender, onWay, (Option.some.inj stepped).symm⟩
  · cases stepped

theorem Phase.hears_wait (phase : Phase setup potential granted link)
    {bytesSent seqNum wftCount : Nat} (sender : link.sender = .awaitingFc bytesSent seqNum wftCount)
    {rest : List CanFrame} (onWay : link.toSender = setup.fc fsWait :: rest)
    (room : wftCount + 1 ≤ setup.sender.wftMax)
    (queued : setup.Queued granted { link with
      sender := .awaitingFc bytesSent seqNum (wftCount + 1), toSender := rest }) :
    setup.Advances potential link { link with
      sender := setup.sender.hear setup.payload bytesSent seqNum wftCount (some (setup.fc fsWait))
      toSender := rest } := by
  rw [hear_wait room]
  refine ⟨potential, granted, (phase.reawaits sender _).flowControls rest link.waits, queued, ?_⟩
  unfold cost
  dsimp only
  rw [onWay, List.length_cons]
  omega

theorem Phase.hears_cts (phase : Phase setup potential true link)
    {bytesSent seqNum wftCount : Nat} (sender : link.sender = .awaitingFc bytesSent seqNum wftCount)
    {later : Nat} (onWay : link.toSender =
      setup.fc fsCts :: List.replicate later (setup.fc fsWait))
    (behind : later ≤ link.waits) (bounded : link.waits ≤ setup.sender.wftMax) :
    setup.Advances potential link { link with
      sender := setup.sender.hear setup.payload bytesSent seqNum wftCount (some (setup.fc fsCts))
      toSender := List.replicate later (setup.fc fsWait) } := by
  rw [hear_cts]
  cases phase with
  | @granted sent count toSender waits log owed =>
      cases sender
      have nothing : Flying setup sent [] := .none sent
      refine ⟨4 * (setup.frames - sent) - 2, false, .sending nothing rfl rfl owed id,
        ⟨bounded, later, rfl, ?_⟩, cost_lt (by omega) ?_⟩
      · change 0 + later ≤ waits
        rw [Nat.zero_add]
        exact behind
      · dsimp only at onWay ⊢
        rw [onWay, List.length_cons]
        omega

theorem Phase.senderHears (phase : Phase setup potential granted link)
    (queued : setup.Queued granted link) (stepped : setup.step link .senderHears = some next) :
    setup.Advances potential link next := by
  obtain ⟨bytesSent, seqNum, wftCount, frame, rest, sender, heard, rfl⟩ := step_senderHears stepped
  cases granted with
  | false =>
      obtain ⟨bounded, count, onWay, fits⟩ := queued
      rw [sender] at fits
      change wftCount + count ≤ link.waits at fits
      rw [heard] at onWay
      cases count with
      | zero => cases onWay
      | succ count =>
          cases onWay
          refine phase.hears_wait sender heard (by omega) ⟨bounded, count, rfl, ?_⟩
          change wftCount + 1 + count ≤ link.waits
          omega
  | true =>
      obtain ⟨bounded, count, later, onWay, fits, behind⟩ := queued
      rw [sender] at fits
      change wftCount + count ≤ setup.sender.wftMax at fits
      rw [heard] at onWay
      cases count with
      | zero =>
          cases onWay
          exact phase.hears_cts sender heard behind bounded
      | succ count =>
          cases onWay
          refine phase.hears_wait sender heard (by omega) ⟨bounded, count, later, rfl, ?_, behind⟩
          change wftCount + 1 + count ≤ setup.sender.wftMax
          omega

theorem length_snoc (frames : List CanFrame) (last : CanFrame) :
    (frames ++ [last]).length = frames.length + 1 := by
  rw [List.length_append, List.length_singleton]

theorem Phase.send (nonempty : setup.payload ≠ []) (phase : Phase setup potential granted link)
    (queued : setup.Queued granted link) (stepped : setup.step link .send = some next) :
    setup.Advances potential link next := by
  cases phase with
  | starting =>
      by_cases long : setup.Long
      · obtain ⟨frame, started, heard⟩ := start_first long
        unfold step at stepped
        dsimp only at stepped
        rw [started] at stepped
        cases stepped
        exact ⟨_, false, .opening (frames_pos long) heard,
          queued.of_same rfl rfl (Nat.le_refl 0), cost_lt_of_same (Nat.lt_succ_self _) rfl rfl⟩
      · obtain ⟨frame, started, heard⟩ := start_single nonempty long
        unfold step at stepped
        dsimp only at stepped
        rw [started] at stepped
        cases stepped
        exact ⟨1, false, .single heard, queued.of_same rfl rfl (Nat.le_refl 0),
          cost_lt_of_same (by omega) rfl rfl⟩
  | @sending taken sent received blockCount flying toSender waits log train reaches counts owed
      room =>
      obtain ⟨frame, sends, bears⟩ := sendNext_eq owed
      rw [← reaches] at bears
      have further := train.snoc bears
      have longer := length_snoc flying frame
      have reached : taken + (flying ++ [frame]).length = sent + 1 := by omega
      have counted : received + (flying ++ [frame]).length = blockCount + 1 := by omega
      have ahead : 0 < (flying ++ [frame]).length := by omega
      unfold step at stepped
      dsimp only at stepped
      rw [sends] at stepped
      by_cases unfinished : sent + 1 < setup.frames
      · rw [if_pos unfinished] at stepped
        by_cases full : setup.receiver.blockSize > 0 ∧ blockCount + 1 ≥ setup.receiver.blockSize
        · rw [if_pos full] at stepped
          cases stepped
          have block : received + (flying ++ [frame]).length = setup.receiver.blockSize := by
            have small := room full.1
            omega
          exact ⟨4 * (setup.frames - (sent + 1)) + (flying ++ [frame]).length, false,
            .asked further reached ahead block unfinished,
            queued.of_same rfl rfl (Nat.le_refl 0), cost_lt_of_same (by omega) rfl rfl⟩
        · rw [if_neg full] at stepped
          cases stepped
          exact ⟨4 * (setup.frames - (sent + 1)) - 2 + (flying ++ [frame]).length, false,
            .sending further reached counted unfinished (by omega),
            queued.of_same rfl rfl (Nat.le_refl 0), cost_lt_of_same (by omega) rfl rfl⟩
      · rw [if_neg unfinished] at stepped
        cases stepped
        exact ⟨(flying ++ [frame]).length, false,
          .finished further (by omega) ahead (by omega),
          queued.of_same rfl rfl (Nat.le_refl 0), cost_lt_of_same (by omega) rfl rfl⟩
  | single heard => cases stepped
  | opening owed heard => cases stepped
  | granting owed => cases stepped
  | granted owed => cases stepped
  | asked train reaches ahead full owed => cases stepped
  | finished train reaches ahead room => cases stepped
  | done => cases stepped

theorem step_chunk {taken received : Nat} {frame : CanFrame} {rest : List CanFrame}
    (collecting : link.receiver = .collecting setup.payload.length (sequenceNumber taken) received
      (setup.payload.take (setup.position taken)))
    (onWay : link.toReceiver = frame :: rest)
    (bears : setup.Bears frame (consecutiveFramePci (sequenceNumber taken) :: setup.chunk taken))
    (more : taken < setup.frames) :
    setup.step link .receiverHears = some { link with
      receiver :=
        if taken + 1 < setup.frames then
          if setup.receiver.blockSize > 0 ∧ received + 1 ≥ setup.receiver.blockSize then
            .granting setup.payload.length (sequenceNumber (taken + 1))
              (setup.payload.take (setup.position (taken + 1)))
          else .collecting setup.payload.length (sequenceNumber (taken + 1)) (received + 1)
            (setup.payload.take (setup.position (taken + 1)))
        else .done setup.payload
      toReceiver := rest } := by
  unfold step
  dsimp only
  rw [onWay, collecting]
  change some { link with
    receiver := setup.receiver.hearCollecting setup.payload.length (sequenceNumber taken) received
      (setup.payload.take (setup.position taken)) frame
    toReceiver := rest } = _
  rw [bears.hears_chunk more]

theorem Phase.receiverHears (phase : Phase setup potential granted link)
    (queued : setup.Queued granted link) (stepped : setup.step link .receiverHears = some next) :
    setup.Advances potential link next := by
  cases phase with
  | single heard =>
      unfold step at stepped
      dsimp only [IsoTpReceiver.hear] at stepped
      rw [heard] at stepped
      cases stepped
      exact ⟨0, false, .done, queued.of_same rfl rfl (Nat.le_refl _),
        cost_lt_of_same Nat.one_pos rfl rfl⟩
  | opening owed heard =>
      unfold step at stepped
      dsimp only [IsoTpReceiver.hear] at stepped
      rw [heard] at stepped
      cases stepped
      exact ⟨4 * (setup.frames - 0), false, @Phase.granting setup 0 _ _ _ [] owed,
        queued.of_same rfl rfl (Nat.le_refl _), cost_lt_of_same (by omega) rfl rfl⟩
  | @sending taken sent received blockCount flying toSender waits log train reaches counts owed
      room =>
      cases train with
      | none => cases stepped
      | @next _ frame rest bears tail =>
          rw [List.length_cons] at reaches counts
          rw [step_chunk rfl rfl bears (by omega), if_pos (by omega), if_neg (by omega)] at stepped
          cases stepped
          refine ⟨4 * (setup.frames - sent) - 2 + rest.length, false,
            .sending tail (by omega) (by omega) owed room,
            queued.of_same rfl rfl (Nat.le_refl _), cost_lt_of_same ?_ rfl rfl⟩
          rw [List.length_cons]
          omega
  | @asked taken sent received count flying toSender waits log train reaches ahead full owed =>
      cases train with
      | none => cases stepped
      | @next _ frame rest bears tail =>
          rw [List.length_cons] at reaches full
          rw [step_chunk rfl rfl bears (by omega), if_pos (by omega)] at stepped
          cases rest with
          | nil =>
              -- the last frame of the block earns the grant the sender awaits
              have same : sent = taken + 1 := reaches.symm
              have block : received + 1 = setup.receiver.blockSize := full
              rw [if_pos (by omega)] at stepped
              cases stepped
              rw [same] at owed ⊢
              exact ⟨4 * (setup.frames - (taken + 1)), false, .granting owed,
                queued.of_same rfl rfl (Nat.le_refl _), cost_lt_of_same (Nat.lt_succ_self _) rfl rfl⟩
          | cons second rest =>
              rw [List.length_cons] at reaches full
              rw [if_neg (by omega)] at stepped
              cases stepped
              refine ⟨4 * (setup.frames - sent) + (second :: rest).length, false,
                .asked tail ?_ (Nat.succ_pos _) ?_ owed,
                queued.of_same rfl rfl (Nat.le_refl _), cost_lt_of_same (Nat.lt_succ_self _) rfl rfl⟩
              · rw [List.length_cons]
                omega
              · rw [List.length_cons]
                omega
  | @finished taken received flying toSender waits log train reaches ahead room =>
      cases train with
      | none => cases stepped
      | @next _ frame rest bears tail =>
          rw [List.length_cons] at reaches room
          rw [step_chunk rfl rfl bears (by omega)] at stepped
          cases rest with
          | nil =>
              have last : ¬ taken + 1 < setup.frames := Nat.not_lt_of_le (Nat.le_of_eq reaches.symm)
              rw [if_neg last] at stepped
              cases stepped
              exact ⟨0, false, .done, queued.of_same rfl rfl (Nat.le_refl _),
                cost_lt_of_same Nat.one_pos rfl rfl⟩
          | cons second rest =>
              rw [List.length_cons] at reaches room
              rw [if_pos (by omega), if_neg (by omega)] at stepped
              cases stepped
              refine ⟨(second :: rest).length, false, .finished tail ?_ (Nat.succ_pos _) ?_,
                queued.of_same rfl rfl (Nat.le_refl _), cost_lt_of_same (Nat.lt_succ_self _) rfl rfl⟩
              · rw [List.length_cons]
                omega
              · rw [List.length_cons]
                omega
  | starting => cases stepped
  | granting owed => cases stepped
  | granted owed => cases stepped
  | done => cases stepped

theorem Phase.answer (phase : Phase setup potential granted link)
    (queued : setup.Queued granted link) (stepped : setup.step link .answer = some next) :
    setup.Advances potential link next := by
  cases phase with
  | @granting sent count toSender waits log owed =>
      obtain ⟨bounded, waiting, onWay, fits⟩ := queued
      unfold step at stepped
      dsimp only [IsoTpReceiver.answer] at stepped
      rw [buildFcFrame_eq] at stepped
      cases stepped
      dsimp only [FlowLink.receiverAnswers]
      rw [take_position]
      refine ⟨4 * (setup.frames - sent) - 1, true, .granted owed,
        ⟨Nat.zero_le _, waiting, 0, ?_, Nat.le_trans fits bounded, Nat.le_refl 0⟩,
        cost_lt (by omega) ?_⟩
      · exact congrArg (fun frames => frames ++ [setup.fc fsCts]) onWay
      · change 2 * (setup.sender.wftMax - 0) + (toSender ++ [setup.fc fsCts]).length <
          2 * (setup.sender.wftMax - waits) + toSender.length + (2 * setup.sender.wftMax + 2)
        rw [length_snoc]
        omega
  | starting => cases stepped
  | single heard => cases stepped
  | opening owed heard => cases stepped
  | granted owed => cases stepped
  | sending train reaches counts owed room => cases stepped
  | asked train reaches ahead full owed => cases stepped
  | finished train reaches ahead room => cases stepped
  | done => cases stepped

theorem Phase.step (nonempty : setup.payload ≠ []) (phase : Phase setup potential granted link)
    (queued : setup.Queued granted link) {event : FlowEvent}
    (stepped : setup.step link event = some next) : setup.Advances potential link next := by
  cases event with
  | send => exact phase.send nonempty queued stepped
  | senderHears => exact phase.senderHears queued stepped
  | receiverHears => exact phase.receiverHears queued stepped
  | answer => exact phase.answer queued stepped
  | wait => exact phase.wait queued stepped

end Steps

section Runs

def InPhase (setup : FlowSetup) (left : Nat) (link : FlowLink) : Prop :=
  ∃ potential granted, Phase setup potential granted link ∧ setup.Queued granted link ∧
    left = setup.cost potential link

theorem inPhase_initial : setup.InPhase (setup.cost (4 * setup.frames + 2) {}) {} :=
  ⟨4 * setup.frames + 2, false, .starting, ⟨Nat.zero_le _, 0, rfl, Nat.le_refl 0⟩, rfl⟩

theorem InPhase.of_run (nonempty : setup.payload ≠ []) {events : List FlowEvent}
    (reaches : setup.Reaches events link) :
    ∃ left, setup.InPhase left link ∧
      left + events.length ≤ setup.cost (4 * setup.frames + 2) {} := by
  refine EventRun.run_descends ?_ inPhase_initial reaches
  rintro left before event after ⟨potential, granted, phase, queued, rfl⟩ stepped
  obtain ⟨fewer, given, further, onWay, less⟩ := phase.step nonempty queued stepped
  exact ⟨setup.cost fewer after, less, fewer, given, further, onWay, rfl⟩

theorem Phase.of_run (nonempty : setup.payload ≠ []) {events : List FlowEvent}
    (reaches : setup.Reaches events link) :
    ∃ potential granted, Phase setup potential granted link ∧ setup.Queued granted link := by
  obtain ⟨left, ⟨potential, granted, phase, queued, -⟩, -⟩ := InPhase.of_run nonempty reaches
  exact ⟨potential, granted, phase, queued⟩

theorem Phase.counters (phase : Phase setup potential granted link)
    {bytesSent seqNum blockCount bs : Nat}
    (sender : link.sender = .sending bytesSent seqNum blockCount bs) :
    ∃ totalLen expectedSn received buffer,
      link.receiver = .collecting totalLen expectedSn received buffer ∧
        blockCount = received + link.toReceiver.length := by
  cases phase with
  | sending train reaches counts owed room =>
      cases sender
      exact ⟨_, _, _, _, rfl, counts.symm⟩
  | starting => cases sender
  | single heard => cases sender
  | opening owed heard => cases sender
  | granting owed => cases sender
  | granted owed => cases sender
  | asked train reaches ahead full owed => cases sender
  | finished train reaches ahead room => cases sender
  | done => cases sender

theorem Phase.requests (phase : Phase setup potential granted link) :
    link.requested = link.emitted ∨ ∃ position, link.requested = link.emitted ++ [position] := by
  cases phase with
  | starting => exact Or.inl rfl
  | single heard => exact Or.inl rfl
  | opening owed heard => exact Or.inr ⟨_, rfl⟩
  | granting owed => exact Or.inr ⟨_, rfl⟩
  | granted owed => exact Or.inl rfl
  | sending train reaches counts owed room => exact Or.inl rfl
  | asked train reaches ahead full owed => exact Or.inr ⟨_, rfl⟩
  | finished train reaches ahead room => exact Or.inl rfl
  | done => exact Or.inl rfl

theorem Phase.obtains (phase : Phase setup potential granted link) {payload : Bytes}
    (receiver : link.receiver = .done payload) : payload = setup.payload := by
  cases phase with
  | done =>
      cases receiver
      rfl
  | starting => cases receiver
  | single heard => cases receiver
  | opening owed heard => cases receiver
  | granting owed => cases receiver
  | granted owed => cases receiver
  | sending train reaches counts owed room => cases receiver
  | asked train reaches ahead full owed => cases receiver
  | finished train reaches ahead room => cases receiver

theorem Flying.moves {taken : Nat} {flying : List CanFrame} (train : Flying setup taken flying)
    (ahead : 0 < flying.length) {received : Nat} (bounded : taken + flying.length ≤ setup.frames)
    (collecting : link.receiver = .collecting setup.payload.length (sequenceNumber taken) received
      (setup.payload.take (setup.position taken)))
    (onWay : link.toReceiver = flying) : ¬ setup.step link .receiverHears = Option.none := by
  cases train with
  | none => exact absurd ahead (Nat.lt_irrefl 0)
  | @next _ frame rest bears tail =>
      rw [List.length_cons] at bounded
      rw [step_chunk collecting onWay bears (by omega)]
      exact Option.some_ne_none _

/-- Only a transfer that is over comes to rest. -/
theorem Phase.at_rest (phase : Phase setup potential granted link)
    (queued : setup.Queued granted link) (rest : setup.AtRest link) :
    link.sender = .done ∧ link.receiver = .done setup.payload ∧ link.toReceiver = [] ∧
      link.requested = link.emitted := by
  cases phase with
  | done => exact ⟨rfl, rfl, rfl, rfl⟩
  | starting => exact absurd (rest .send nofun) (Option.some_ne_none _)
  | single heard => exact absurd (rest .receiverHears nofun) (Option.some_ne_none _)
  | opening owed heard => exact absurd (rest .receiverHears nofun) (Option.some_ne_none _)
  | granting owed => exact absurd (rest .answer nofun) (Option.some_ne_none _)
  | granted owed =>
      -- the Clear To Send on its way is there to be heard
      obtain ⟨-, count, later, onWay, -⟩ := queued
      dsimp only at onWay
      subst onWay
      cases count with
      | zero => exact absurd (rest .senderHears nofun) (Option.some_ne_none _)
      | succ count => exact absurd (rest .senderHears nofun) (Option.some_ne_none _)
  | sending train reaches counts owed room =>
      exact absurd (rest .send nofun) (Option.some_ne_none _)
  | asked train reaches ahead full owed =>
      exact absurd (rest .receiverHears nofun) (train.moves ahead (by omega) rfl rfl)
  | finished train reaches ahead room =>
      exact absurd (rest .receiverHears nofun) (train.moves ahead (by omega) rfl rfl)

end Runs

/-- Every message that is not empty is delivered, in every order of the steps, with blocks of
any size and as many WAITs as the sender bears. -/
theorem delivers (setup : FlowSetup) (nonempty : setup.payload ≠ []) : setup.Delivers where
  counters := by
    intro events link reaches bytesSent seqNum blockCount bs sender
    obtain ⟨potential, granted, phase, -⟩ := Phase.of_run nonempty reaches
    exact phase.counters sender
  requests := by
    intro events link reaches
    obtain ⟨potential, granted, phase, -⟩ := Phase.of_run nonempty reaches
    rcases phase.requests with same | ⟨position, one⟩
    · rw [same]
      exact ⟨List.prefix_refl _, Nat.le_succ _⟩
    · rw [one, List.length_append, List.length_singleton]
      exact ⟨List.prefix_append _ _, Nat.le_refl _⟩
  obtains := by
    intro events link payload reaches receiver
    obtain ⟨potential, granted, phase, -⟩ := Phase.of_run nonempty reaches
    exact phase.obtains receiver
  completes := by
    intro events link reaches rest
    obtain ⟨potential, granted, phase, queued⟩ := Phase.of_run nonempty reaches
    exact phase.at_rest queued rest
  terminates := by
    intro events link reaches
    obtain ⟨left, -, bounded⟩ := InPhase.of_run nonempty reaches
    have scaled := Nat.mul_le_mul_left (2 * setup.sender.wftMax + 2)
      (Nat.add_le_add_right (Nat.mul_le_mul_left 4 setup.frames_le) 2)
    change left + events.length ≤ (2 * setup.sender.wftMax + 2) * (4 * setup.frames + 2) +
      2 * (setup.sender.wftMax - 0) + 0 at bounded
    omega

/-- The two ends of a channel with default settings. -/
def classic (payload : Bytes) (blockSize : Nat) (small : blockSize ≤ 255)
    (cap : payload.length ≤ maxUdsPayloadClassic) : FlowSetup where
  sender := { txId := 0x7E0, rxId := 0x7E8 }
  receiver := { txId := 0x7E8, rxId := 0x7E0, blockSize := blockSize }
  payload := payload
  rxId := rfl
  txId := rfl
  heardChannel := nofun
  answeredChannel := nofun
  format := rfl
  sends := by decide
  answers := show 0x7E8 ≤ 0x1FFFFFFF ∧ validChannelId (outChannel none) = true ∧
    0 ≤ Option.getD (some (0xCC : Int)) 0xCC ∧ Option.getD (some (0xCC : Int)) 0xCC ≤ 0xFF
      by decide
  blockSize := small
  cap := cap
  buffer := Nat.le_trans cap (show maxUdsPayloadClassic ≤ 1048576 by decide)

/-- Twenty bytes with a flow control for each frame. -/
theorem twenty_bytes_delivered :
    (classic (List.replicate 20 0x5A) 1 (by decide) (by decide)).Delivers :=
  delivers _ (List.cons_ne_nil _ _)

/-- An empty message is never sent, and its receiver waits for it. -/
theorem empty_not_delivered : ¬ ∀ setup : FlowSetup, setup.Delivers := by
  intro delivers
  let setup := classic [] 0 (by decide) (by decide)
  have reaches : setup.Reaches [.send] { sender := .done } := rfl
  have rest : setup.AtRest { sender := .done } := by
    intro event notWait
    cases event with
    | wait => exact absurd rfl notWait
    | send => rfl
    | senderHears => rfl
    | receiverHears => rfl
    | answer => rfl
  have ended := (delivers setup).completes _ _ reaches rest
  exact ReceiverState.noConfusion ended.2.1

end FlowSetup

end Ucanlab.IsoTp
