import Ucanlab.Safety.E2E.Validator
import Ucanlab.Safety.Sealing
import Ucanlab.Safety.TotalEnvelope

/-!
The rolling counter of one protected stream between the locked phase, which
takes it, and the wire: what the calls in flight hold, in which order it reaches
the bus, and what a receiver makes of it.
-/

namespace Ucanlab.Safety

open Ucanlab E2E EventRun

def streamKey (frame : CanFrame) : StreamKey := (frame.channelId, frame.arbitrationId)

theorem streamKey_of_sameStream {frame sealed : CanFrame} (same : SameStream frame sealed) :
    streamKey sealed = streamKey frame := by
  unfold streamKey
  rw [same.channelId, same.arbitrationId]

structure Gateway.CountsNext (gateway : Gateway) (key : StreamKey) (profile : E2EProfileConfig)
    (next : Nat) : Prop where
  registered : gateway.e2eProfiles key.2 = some profile
  counter : ∃ packager, gateway.e2ePackager = some packager ∧
    packager.nextCounter key profile = next

section Sealing

variable {gateway after : Gateway} {key : StreamKey} {profile : E2EProfileConfig} {next : Nat}
  {frame sealed : CanFrame}

theorem Gateway.CountsNext.of_eq (counts : gateway.CountsNext key profile next)
    (profiles : after.e2eProfiles = gateway.e2eProfiles)
    (packager : after.e2ePackager = gateway.e2ePackager) : after.CountsNext key profile next := by
  refine ⟨?_, ?_⟩
  · rw [profiles]
    exact counts.registered
  · rw [packager]
    exact counts.counter

theorem Gateway.CountsNext.small (counts : gateway.CountsNext key profile next) :
    next < profile.modulo := by
  obtain ⟨packager, _, counter⟩ := counts.counter
  have positive := profile.consistent.positive
  have bound : packager.nextCounter key profile < profile.counterModulo := by
    unfold Packager.nextCounter
    apply Int.emod_lt_of_pos
    rw [← modulo_cast]
    omega
  rw [counter, ← modulo_cast] at bound
  omega

theorem Gateway.exists_countsNext {packager : Packager}
    (registered : gateway.e2eProfiles key.2 = some profile)
    (present : gateway.e2ePackager = some packager) :
    ∃ next, gateway.CountsNext key profile next := by
  have positive := profile.consistent.positive
  have cast := modulo_cast profile
  have nonneg : 0 ≤ packager.nextCounter key profile := by
    unfold Packager.nextCounter
    apply Int.emod_nonneg
    omega
  refine ⟨(packager.nextCounter key profile).toNat, registered, packager, present, ?_⟩
  omega

theorem sealStage_own (counts : gateway.CountsNext key profile next)
    (own : streamKey frame = key) (passed : gateway.sealStage frame = (after, .ok sealed)) :
    WellSealed profile sealed next ∧
      after.CountsNext key profile ((next + 1) % profile.modulo) := by
  have small := counts.small
  obtain ⟨registered, packager, present, counter⟩ := counts
  subst own
  have registeredHere : gateway.e2eProfiles frame.arbitrationId = some profile := registered
  unfold Gateway.sealStage at passed
  rw [present, registeredHere] at passed
  dsimp only at passed
  obtain ⟨rfl, stamped⟩ := Prod.mk.inj passed
  change sealFrame frame profile (packager.nextCounter (streamKey frame) profile).toNat =
    .ok sealed at stamped
  rw [counter, Int.toNat_natCast] at stamped
  refine ⟨sealFrame_wellSealed stamped small, registered,
    packager.setStream (streamKey frame) (packager.nextCounter (streamKey frame) profile), rfl, ?_⟩
  unfold Packager.nextCounter Packager.setStream
  dsimp only
  rw [if_pos rfl, Option.getD_some]
  change (packager.nextCounter (streamKey frame) profile + 1) % profile.counterModulo = _
  rw [counter, ← modulo_cast]
  push_cast
  rfl

theorem sealStage_other (counts : gateway.CountsNext key profile next)
    (other : streamKey frame ≠ key) : (gateway.sealStage frame).1.CountsNext key profile next := by
  obtain ⟨registered, packager, present, counter⟩ := counts
  unfold Gateway.sealStage
  rw [present]
  dsimp only
  split
  · rename_i _ sealing same _
    cases same
    refine ⟨registered, packager.setStream (streamKey frame)
      (packager.nextCounter (streamKey frame) sealing), rfl, ?_⟩
    rw [← counter]
    unfold Packager.nextCounter Packager.setStream
    dsimp only
    rw [if_neg (Ne.symm other)]
  · exact ⟨registered, packager, present, counter⟩

end Sealing

section LockedPhase

variable {digests : Digests} {gateway after : Gateway} {plane : TxPlane} {clock : Clock}
  {owner : Nat} {request : TxRequest} {reservation : Reservation} {rejection : Rejection}
  {key : StreamKey} {profile : E2EProfileConfig} {next : Nat}

theorem Gateway.CountsNext.of_rateFrame (counts : gateway.CountsNext key profile next)
    (frame : RateFrame gateway after) : after.CountsNext key profile next := by
  obtain ⟨_, _, _, rfl⟩ := frame
  exact counts.of_eq rfl rfl

theorem Gateway.CountsNext.burn (counts : gateway.CountsNext key profile next)
    (pending : Option (Bytes × Nat)) (now : Nat) :
    (gateway.burn pending now).CountsNext key profile next := by
  rw [burn_eq]
  exact counts.of_eq rfl rfl

theorem validateLocked_own (counts : gateway.CountsNext key profile next)
    (own : streamKey request.frame = key)
    (passed : gateway.validateLocked digests plane clock owner request =
      .ok (after, reservation)) :
    WellSealed profile reservation.frame next ∧ streamKey reservation.frame = key ∧
      after.CountsNext key profile ((next + 1) % profile.modulo) := by
  obtain ⟨facts⟩ := validateLocked_ok passed
  obtain ⟨whole, counted⟩ :=
    sealStage_own (counts.of_rateFrame facts.rate.frame) own facts.stamped
  refine ⟨whole, (streamKey_of_sameStream (sealStage_ok facts.stamped).stream).trans own, ?_⟩
  rw [facts.result]
  exact counted.burn facts.pending clock.burn

theorem validateLocked_other (counts : gateway.CountsNext key profile next)
    (other : streamKey request.frame ≠ key)
    (passed : gateway.validateLocked digests plane clock owner request =
      .ok (after, reservation)) :
    streamKey reservation.frame ≠ key ∧ after.CountsNext key profile next := by
  obtain ⟨facts⟩ := validateLocked_ok passed
  have counted := sealStage_other (counts.of_rateFrame facts.rate.frame) other
  rw [facts.stamped] at counted
  rw [streamKey_of_sameStream (sealStage_ok facts.stamped).stream, facts.result]
  exact ⟨other, counted.burn facts.pending clock.burn⟩

theorem validateLocked_refused_counts (counts : gateway.CountsNext key profile next)
    (refused : gateway.validateLocked digests plane clock owner request = .error rejection)
    (sealable : streamKey request.frame = key → ∀ cause, rejection.refusal ≠ .e2eStampFailed cause) :
    rejection.gateway.CountsNext key profile next := by
  cases validateLocked_error refused with
  | admission _ early =>
      rcases early.state with same | missed
      · rw [same]
        exact counts
      · rw [missed]
        exact counts.of_eq rfl rfl
  | rate pending _ admitted late => exact counts.of_rateFrame late.frame
  | stamping lane charged counted charge cause rate failed =>
      have other : streamKey request.frame ≠ key := fun own => sealable own cause rfl
      have kept := sealStage_other (counts.of_rateFrame rate.frame) other
      rw [failed] at kept
      exact kept.of_eq rfl rfl

end LockedPhase

section Surroundings

variable {gateway : Gateway} {key : StreamKey} {profile : E2EProfileConfig} {next : Nat}

theorem perform_countsNext (counts : gateway.CountsNext key profile next) (op : GatewayOp)
    (kept : ∀ other, op = .registerE2eProfile key.2 other → other = profile) :
    (gateway.perform op).CountsNext key profile next := by
  cases op with
  | rebindWhitelist change =>
      exact counts.of_eq
        (rebindWhitelist_keeps gateway change Gateway.e2eProfiles (fun _ _ _ => rfl))
        (rebindWhitelist_keeps gateway change Gateway.e2ePackager (fun _ _ _ => rfl))
  | notifyLinkFault kind plane =>
      exact counts.of_eq
        (notifyLinkFault_keeps gateway kind plane Gateway.e2eProfiles (fun _ _ => rfl))
        (notifyLinkFault_keeps gateway kind plane Gateway.e2ePackager (fun _ _ => rfl))
  | registerE2eProfile arbitrationId other =>
      obtain ⟨registered, packager, present, counter⟩ := counts
      refine ⟨?_, packager, ?_, counter⟩
      · change (if key.2 = arbitrationId then some other else gateway.e2eProfiles key.2) = _
        split
        · rename_i same
          rw [kept other (by rw [same])]
        · exact registered
      · change some (gateway.e2ePackager.getD Packager.fresh) = _
        rw [present, Option.getD_some]
  | _ => exact counts.of_eq rfl rfl

theorem performAll_countsNext {ops : List GatewayOp}
    (counts : gateway.CountsNext key profile next)
    (kept : ∀ op ∈ ops, ∀ other, op = .registerE2eProfile key.2 other → other = profile) :
    (gateway.performAll ops).CountsNext key profile next := by
  induction ops generalizing gateway with
  | nil => exact counts
  | cons op rest ih =>
      exact ih (perform_countsNext counts op (kept op List.mem_cons_self))
        (fun other member => kept other (List.mem_cons_of_mem _ member))

end Surroundings

namespace World

section Steps

variable {digests : Digests} {world next : World} {event : Event} {key : StreamKey}
  {profile : E2EProfileConfig} {number : Nat}

theorem surroundings_countsNext (counts : world.gateway.CountsNext key profile number)
    (stepped : world.step digests event = some next) (other : isCallStep event = false)
    (kept : ∀ replaced, event = .registerProfile key.2 replaced → replaced = profile) :
    next.gateway.CountsNext key profile number ∧
      next.gateway.ledger.stampSeq = world.gateway.ledger.stampSeq := by
  obtain ⟨ops, performed, origins⟩ := step_performs stepped other
  rw [performed]
  refine ⟨performAll_countsNext counts ?_, ?_⟩
  · rintro op member replaced rfl
    exact kept replaced (origins _ member)
  · exact performAll_keeps ops (fun gateway => gateway.ledger.stampSeq)
      (fun gateway op _ => perform_stampSeq gateway op) world.gateway

end Steps

def streamFrames (world : World) (key : StreamKey) : List CanFrame :=
  (world.wire.reverse.map (fun transmission => transmission.reservation.frame)).filter
    (fun frame => decide (streamKey frame = key))

def HoldsCounter (world : World) (key : StreamKey) (id : Nat) (reservation : Reservation) : Prop :=
  ∃ call, world.calls id = some call ∧ call.reservation = reservation ∧
    streamKey reservation.frame = key

/-- The calls that hold a counter of the stream, in the order in which they were
sealed, and the counters of the wire and theirs without a gap. -/
structure Lined (key : StreamKey) (profile : E2EProfileConfig) (world : World) (first next : Nat)
    (queue : List (Nat × Reservation)) : Prop where
  counts : CountsFrom profile first
    (world.streamFrames key ++ queue.map (fun entry => entry.2.frame)) next
  gateway : world.gateway.CountsNext key profile next
  members : ∀ id reservation,
    (id, reservation) ∈ queue ↔ world.HoldsCounter key id reservation
  ordered : queue.Pairwise (fun left right =>
    left.2.charge.totalStamp.seq < right.2.charge.totalStamp.seq)
  numbered : ∀ entry ∈ queue, entry.2.charge.totalStamp.seq ≤ world.gateway.ledger.stampSeq
  unrefused : ∀ id call, world.calls id = some call → streamKey call.reservation.frame = key →
    ∀ refusal, call.stage ≠ .refused refusal
  several : 1 < (world.streamFrames key).length → 1 < profile.modulo

def InLine (key : StreamKey) (profile : E2EProfileConfig) (first : Nat) (world : World) : Prop :=
  ∃ next queue, Lined key profile world first next queue

/-- A section that loses no counter of the stream and sends none out of turn: no
frame of it fails to be sealed, no call that holds a counter is refused at the
guard or at the fence, and none is dispatched before one that was sealed
earlier. A modulus of one leaves a second frame no counter of its own. -/
def KeepsTurn (digests : Digests) (key : StreamKey) (profile : E2EProfileConfig) (world : World) :
    Event → Prop
  | .validate _ owner request clock => streamKey request.frame = key →
      ∀ rejection, world.gateway.validateLocked digests world.plane clock owner request =
        .error rejection → ∀ cause, rejection.refusal ≠ .e2eStampFailed cause
  | .guard id => ∀ reservation, world.HoldsCounter key id reservation →
      reservation.guardRefuses world.estop = false
  | .dispatch id => ∀ reservation, world.HoldsCounter key id reservation →
      reservation.fenceRefuses world.estop = false ∧
        (∀ other waiting, world.HoldsCounter key other waiting →
          reservation.charge.totalStamp.seq ≤ waiting.charge.totalStamp.seq) ∧
        (world.streamFrames key ≠ [] → 1 < profile.modulo)
  | _ => True

section Turns

variable {digests : Digests} {world next : World} {event : Event} {key : StreamKey}
  {profile : E2EProfileConfig} {first number : Nat} {queue : List (Nat × Reservation)}

theorem Lined.unmoved (lined : Lined key profile world first number queue)
    (frames : next.streamFrames key = world.streamFrames key)
    (held : ∀ id reservation, next.HoldsCounter key id reservation ↔
      world.HoldsCounter key id reservation)
    (unrefused : ∀ id call, next.calls id = some call → streamKey call.reservation.frame = key →
      ∀ refusal, call.stage ≠ .refused refusal)
    (gateway : next.gateway.CountsNext key profile number)
    (stamps : world.gateway.ledger.stampSeq ≤ next.gateway.ledger.stampSeq) :
    Lined key profile next first number queue := by
  constructor
  case counts =>
    rw [frames]
    exact lined.counts
  case gateway => exact gateway
  case members =>
    intro id reservation
    exact (lined.members id reservation).trans (held id reservation).symm
  case ordered => exact lined.ordered
  case numbered => exact fun entry member => Nat.le_trans (lined.numbered entry member) stamps
  case unrefused => exact unrefused
  case several =>
    rw [frames]
    exact lined.several

theorem holdsCounter_setCall_other {id : Nat} {entry : Option Call}
    (before : ∀ reservation, ¬ world.HoldsCounter key id reservation)
    (after : ∀ call, entry = some call → streamKey call.reservation.frame ≠ key)
    (other : Nat) (reservation : Reservation) :
    (world.setCall id entry).HoldsCounter key other reservation ↔
      world.HoldsCounter key other reservation := by
  unfold HoldsCounter
  rw [setCall_calls]
  by_cases same : other = id
  · rw [if_pos same, same]
    constructor
    · rintro ⟨call, known, rfl, own⟩
      exact absurd own (after call known)
    · rintro ⟨call, known, rfl, own⟩
      exact absurd ⟨call, known, rfl, own⟩ (before call.reservation)
  · rw [if_neg same]

theorem holdsCounter_restage {id : Nat} {call : Call} (pending : world.calls id = some call)
    (stage : CallStage) (other : Nat) (reservation : Reservation) :
    (world.setCall id (some { call with stage := stage })).HoldsCounter key other reservation ↔
      world.HoldsCounter key other reservation := by
  unfold HoldsCounter
  rw [setCall_calls]
  by_cases same : other = id
  · rw [if_pos same, same, pending]
    constructor
    · rintro ⟨_, known, held, own⟩
      cases known
      exact ⟨call, rfl, held, own⟩
    · rintro ⟨_, known, held, own⟩
      cases known
      exact ⟨_, rfl, held, own⟩
  · rw [if_neg same]

theorem holdsCounter_setCall_own {id : Nat} {call : Call} (free : world.calls id = none)
    (own : streamKey call.reservation.frame = key) (other : Nat) (reservation : Reservation) :
    (world.setCall id (some call)).HoldsCounter key other reservation ↔
      world.HoldsCounter key other reservation ∨ (other, reservation) = (id, call.reservation) := by
  unfold HoldsCounter
  rw [setCall_calls]
  by_cases same : other = id
  · rw [if_pos same, same, free]
    constructor
    · rintro ⟨_, known, held, _⟩
      cases known
      rw [held]
      exact Or.inr rfl
    · rintro (⟨_, impossible, _⟩ | entry)
      · cases impossible
      · cases entry
        exact ⟨call, rfl, rfl, own⟩
  · rw [if_neg same]
    constructor
    · exact Or.inl
    · rintro (held | entry)
      · exact held
      · exact absurd (congrArg Prod.fst entry) same

theorem Lined.join (lined : Lined key profile world first number queue) {id : Nat} {call : Call}
    (free : world.calls id = none) (own : streamKey call.reservation.frame = key)
    (fresh : ∀ refusal, call.stage ≠ .refused refusal)
    (whole : WellSealed profile call.reservation.frame number)
    (calls : next.calls = (world.setCall id (some call)).calls) (wire : next.wire = world.wire)
    (gateway : next.gateway.CountsNext key profile ((number + 1) % profile.modulo))
    (stamp : call.reservation.charge.totalStamp.seq = world.gateway.ledger.stampSeq + 1)
    (stamps : world.gateway.ledger.stampSeq + 1 ≤ next.gateway.ledger.stampSeq) :
    Lined key profile next first ((number + 1) % profile.modulo)
      (queue ++ [(id, call.reservation)]) := by
  have frames : next.streamFrames key = world.streamFrames key := by
    unfold streamFrames
    rw [wire]
  constructor
  case counts =>
    rw [frames, List.map_append, ← List.append_assoc]
    exact lined.counts.append ⟨whole, rfl⟩
  case gateway => exact gateway
  case members =>
    intro other reservation
    have held := holdsCounter_setCall_own free own other reservation
    rw [List.mem_append, List.mem_singleton, lined.members, ← held]
    unfold HoldsCounter
    rw [calls]
  case ordered =>
    refine List.pairwise_append.mpr ⟨lined.ordered, List.pairwise_singleton _ _, ?_⟩
    intro left member right last
    rw [List.mem_singleton.mp last, stamp]
    exact Nat.lt_succ_of_le (lined.numbered left member)
  case numbered =>
    intro entry member
    rcases List.mem_append.mp member with earlier | last
    · have below := lined.numbered entry earlier
      omega
    · rw [List.mem_singleton.mp last, stamp]
      exact stamps
  case unrefused =>
    intro other pending known stream
    rw [calls, setCall_calls] at known
    split at known
    · cases known
      exact fresh
    · exact lined.unrefused other pending known stream
  case several =>
    rw [frames]
    exact lined.several

theorem Lined.head_of_turn (lined : Lined key profile world first number queue) {id : Nat}
    {reservation : Reservation} (holds : world.HoldsCounter key id reservation)
    (turn : ∀ other waiting, world.HoldsCounter key other waiting →
      reservation.charge.totalStamp.seq ≤ waiting.charge.totalStamp.seq) :
    ∃ rest, queue = (id, reservation) :: rest := by
  have held : (id, reservation) ∈ queue := (lined.members id reservation).mpr holds
  cases queue with
  | nil => exact absurd held List.not_mem_nil
  | cons head rest =>
      rcases List.mem_cons.mp held with same | behind
      · exact ⟨rest, by rw [same]⟩
      · have less := (List.pairwise_cons.mp lined.ordered).1 _ behind
        have first := turn head.1 head.2 ((lined.members _ _).mp List.mem_cons_self)
        exact absurd first (Nat.not_le_of_lt less)

theorem Lined.members_behind {id : Nat} {reservation : Reservation}
    {rest : List (Nat × Reservation)}
    (lined : Lined key profile world first number ((id, reservation) :: rest))
    (other : Nat) (waiting : Reservation) :
    (other, waiting) ∈ rest ↔ (world.setCall id none).HoldsCounter key other waiting := by
  obtain ⟨before, _⟩ := List.pairwise_cons.mp lined.ordered
  obtain ⟨call, pending, held, own⟩ := (lined.members id reservation).mp List.mem_cons_self
  unfold HoldsCounter
  rw [setCall_calls]
  by_cases same : other = id
  · rw [if_pos same]
    constructor
    · intro member
      obtain ⟨again, known, waits, _⟩ :=
        (lined.members other waiting).mp (List.mem_cons_of_mem _ member)
      rw [same, pending] at known
      cases known
      have less := before _ member
      rw [← held, ← waits] at less
      exact absurd less (Nat.lt_irrefl _)
    · rintro ⟨_, impossible, _⟩
      cases impossible
  · rw [if_neg same, ← HoldsCounter, ← lined.members]
    constructor
    · exact List.mem_cons_of_mem _
    · intro member
      rcases List.mem_cons.mp member with entry | behind
      · exact absurd (congrArg Prod.fst entry) same
      · exact behind

theorem Lined.send (lined : Lined key profile world first number queue) {id : Nat} {call : Call}
    (pending : world.calls id = some call) (own : streamKey call.reservation.frame = key)
    (turn : ∀ other waiting, world.HoldsCounter key other waiting →
      call.reservation.charge.totalStamp.seq ≤ waiting.charge.totalStamp.seq)
    (many : world.streamFrames key ≠ [] → 1 < profile.modulo)
    (calls : next.calls = (world.setCall id none).calls) {bus : Bus}
    (wire : next.wire = { id := id, reservation := call.reservation, bus := bus } :: world.wire)
    (gateway : next.gateway = world.gateway) :
    ∃ rest, Lined key profile next first number rest := by
  have frames : next.streamFrames key = world.streamFrames key ++ [call.reservation.frame] := by
    unfold streamFrames
    rw [wire, List.reverse_cons, List.map_append, List.filter_append, List.map_singleton]
    congr 1
    exact List.filter_cons_of_pos (decide_eq_true own)
  obtain ⟨rest, rfl⟩ := lined.head_of_turn ⟨call, pending, rfl, own⟩ turn
  refine ⟨rest, ?_⟩
  constructor
  case counts =>
    have whole := lined.counts
    rw [List.map_cons] at whole
    rw [frames, List.append_assoc]
    exact whole
  case gateway =>
    rw [gateway]
    exact lined.gateway
  case members =>
    intro other waiting
    rw [lined.members_behind other waiting]
    unfold HoldsCounter
    rw [calls]
  case ordered => exact (List.pairwise_cons.mp lined.ordered).2
  case numbered =>
    rw [gateway]
    exact fun entry member => lined.numbered entry (List.mem_cons_of_mem _ member)
  case unrefused =>
    intro other waiting known stream
    rw [calls, setCall_calls] at known
    split at known
    · cases known
    · exact lined.unrefused other waiting known stream
  case several =>
    rw [frames, List.length_append, List.length_singleton]
    intro longer
    apply many
    exact List.ne_nil_of_length_pos (by omega)

theorem Lined.setAside (lined : Lined key profile world first number queue) (id : Nat)
    {entry : Option Call} (frames : next.streamFrames key = world.streamFrames key)
    (before : ∀ call, world.calls id = some call → streamKey call.reservation.frame ≠ key)
    (after : ∀ call, entry = some call → streamKey call.reservation.frame ≠ key)
    (calls : next.calls = (world.setCall id entry).calls)
    (gateway : next.gateway.CountsNext key profile number)
    (stamps : world.gateway.ledger.stampSeq ≤ next.gateway.ledger.stampSeq) :
    Lined key profile next first number queue := by
  have absent : ∀ reservation, ¬ world.HoldsCounter key id reservation := by
    intro reservation holds
    obtain ⟨call, known, rfl, own⟩ := holds
    exact before call known own
  apply lined.unmoved frames ?_ ?_ gateway stamps
  · intro other reservation
    have same := holdsCounter_setCall_other absent after other reservation
    unfold HoldsCounter at same ⊢
    rw [calls]
    exact same
  · intro other call known own
    rw [calls, setCall_calls] at known
    split at known
    · exact absurd own (after call known)
    · exact lined.unrefused other call known own

theorem lined_surroundings (lined : Lined key profile world first number queue)
    (kept : ∀ other, event = .registerProfile key.2 other → other = profile)
    (stepped : world.step digests event = some next) (kind : isCallStep event = false) :
    Lined key profile next first number queue := by
  have same := step_surroundings stepped kind
  obtain ⟨gateway, stamps⟩ := surroundings_countsNext lined.gateway stepped kind kept
  apply lined.unmoved ?_ ?_ ?_ gateway (Nat.le_of_eq stamps.symm)
  · unfold streamFrames
    rw [same.wire]
  · intro id reservation
    unfold HoldsCounter
    rw [same.calls]
  · rw [same.calls]
    exact lined.unrefused

theorem lined_validate (lined : Lined key profile world first number queue) {id owner : Nat}
    {request : TxRequest} {clock : Clock}
    (turn : KeepsTurn digests key profile world (.validate id owner request clock))
    (stepped : world.step digests (.validate id owner request clock) = some next) :
    InLine key profile first next := by
  obtain ⟨free, _, ⟨rejection, refused, rfl⟩ | ⟨gateway, reservation, passed, rfl⟩⟩ :=
    step_validate stepped
  · have counted := validateLocked_refused_counts lined.gateway refused
      (fun own => turn own rejection refused)
    exact ⟨number, queue, lined.unmoved rfl (fun _ _ => Iff.rfl) lined.unrefused counted
      (validateLocked_error_keepsTotal refused).counter⟩
  · have charged := validateLocked_ok_chargedTotal passed
    by_cases own : streamKey request.frame = key
    · obtain ⟨whole, same, counted⟩ := validateLocked_own lined.gateway own passed
      have fresh : ∀ refusal, CallStage.validated ≠ .refused refusal := fun _ => nofun
      exact ⟨_, _, lined.join free same fresh whole rfl rfl counted charged.number
        charged.counter⟩
    · obtain ⟨apart, counted⟩ := validateLocked_other lined.gateway own passed
      refine ⟨number, queue, lined.setAside id rfl ?_ ?_ rfl counted
        (Nat.le_of_succ_le charged.counter)⟩
      · intro call known
        rw [free] at known
        cases known
      · intro call made
        cases made
        exact apart

theorem lined_guard (lined : Lined key profile world first number queue) {id : Nat}
    (turn : KeepsTurn digests key profile world (.guard id))
    (stepped : world.step digests (.guard id) = some next) :
    Lined key profile next first number queue := by
  obtain ⟨call, pending, _, rfl⟩ := step_guard stepped
  refine lined.unmoved ?_ (holdsCounter_restage pending _) ?_ ?_ ?_
  case refine_1 => rfl
  case refine_3 => exact lined.gateway
  case refine_4 => exact Nat.le_refl _
  intro other waiting known own
  rw [setCall_calls] at known
  split at known
  · cases known
    have passed : call.reservation.guardRefuses world.estop = false :=
      turn call.reservation ⟨call, pending, rfl, own⟩
    dsimp only
    rw [passed]
    exact fun _ => nofun
  · exact lined.unrefused other waiting known own

theorem lined_dispatch (lined : Lined key profile world first number queue) {id : Nat}
    (turn : KeepsTurn digests key profile world (.dispatch id))
    (stepped : world.step digests (.dispatch id) = some next) :
    ∃ line, Lined key profile next first number line := by
  obtain ⟨call, pending, _, _, ⟨refused, rfl⟩ | ⟨_, rfl⟩⟩ := step_dispatch stepped
  · have apart : streamKey call.reservation.frame ≠ key := by
      intro own
      have passed := (turn call.reservation ⟨call, pending, rfl, own⟩).1
      rw [refused] at passed
      cases passed
    refine ⟨queue, lined.setAside id rfl ?_ ?_ rfl lined.gateway (Nat.le_refl _)⟩
    · intro other known
      rw [pending] at known
      cases known
      exact apart
    · intro other made
      cases made
      exact apart
  · by_cases own : streamKey call.reservation.frame = key
    · obtain ⟨_, first, many⟩ := turn call.reservation ⟨call, pending, rfl, own⟩
      exact lined.send pending own first many rfl rfl rfl
    · refine ⟨queue, lined.setAside id ?_ ?_ ?_ rfl lined.gateway (Nat.le_refl _)⟩
      · unfold streamFrames
        dsimp only [record, setCall]
        rw [List.reverse_cons, List.map_append, List.filter_append, List.map_singleton,
          List.filter_cons_of_neg (by rw [decide_eq_false own]; exact Bool.false_ne_true),
          List.filter_nil, List.append_nil]
      · intro other known
        rw [pending] at known
        cases known
        exact own
      · intro other impossible
        cases impossible

/-- Nothing of the stream is handed back. -/
theorem lined_rollback (lined : Lined key profile world first number queue) {id : Nat}
    (stepped : world.step digests (.rollback id) = some next) :
    Lined key profile next first number queue := by
  obtain ⟨call, refusal, pending, stage, rfl⟩ := step_rollback stepped
  refine lined.setAside id rfl ?_ ?_ rfl (lined.gateway.of_eq rfl rfl)
    (Nat.le_of_eq (rollback_total _ _).2.symm)
  · intro other known own
    rw [pending] at known
    cases known
    exact lined.unrefused id call pending own refusal stage
  · intro other impossible
    cases impossible

theorem lined_step (lined : Lined key profile world first number queue)
    (turn : KeepsTurn digests key profile world event)
    (kept : ∀ other, event = .registerProfile key.2 other → other = profile)
    (stepped : world.step digests event = some next) :
    InLine key profile first next := by
  cases kind : isCallStep event with
  | false => exact ⟨number, queue, lined_surroundings lined kept stepped kind⟩
  | true =>
      cases event with
      | validate id owner request clock => exact lined_validate lined turn stepped
      | guard id => exact ⟨number, queue, lined_guard lined turn stepped⟩
      | dispatch id => exact ⟨number, lined_dispatch lined turn stepped⟩
      | rollback id => exact ⟨number, queue, lined_rollback lined stepped⟩
      | _ => cases kind

end Turns

theorem Initial.lined {world : World} (start : world.Initial) {key : StreamKey}
    {profile : E2EProfileConfig} {next : Nat}
    (gateway : world.gateway.CountsNext key profile next) :
    Lined key profile world next next [] := by
  have silent : world.streamFrames key = [] := by
    unfold streamFrames
    rw [start.wire]
    rfl
  constructor
  case counts =>
    rw [silent]
    exact rfl
  case gateway => exact gateway
  case members =>
    intro id reservation
    constructor
    · exact fun impossible => absurd impossible List.not_mem_nil
    · intro holds
      obtain ⟨call, known, _⟩ := holds
      rw [start.calls] at known
      cases known
  case ordered => exact List.Pairwise.nil
  case numbered => exact fun _ impossible => absurd impossible List.not_mem_nil
  case unrefused =>
    intro id call known
    rw [start.calls] at known
    cases known
  case several =>
    rw [silent]
    exact fun impossible => absurd impossible (Nat.not_lt_zero _)

/-- The counters on the wire follow each other modulo the profile's modulus, and
a receiver that has not seen the stream before reports no error of the sequence. -/
structure CountersConsecutive (key : StreamKey) (profile : E2EProfileConfig) (world : World) :
    Prop where
  counters : ∃ first, ∀ index frame, (world.streamFrames key)[index]? = some frame →
    extractCounter frame.data profile = .ok ((first + index) % profile.modulo)
  received : ∀ receptions : List Reception,
    receptions.map Reception.frame = world.streamFrames key →
      ∀ answer ∈ Validator.fresh.verdicts profile receptions, InSequence answer

theorem Lined.countersConsecutive {world : World} {key : StreamKey} {profile : E2EProfileConfig}
    {first number : Nat} {queue : List (Nat × Reservation)}
    (lined : Lined key profile world first number queue) (small : first < profile.modulo) :
    CountersConsecutive key profile world := by
  obtain ⟨reached, sent⟩ := lined.counts.of_append
  constructor
  case counters => exact ⟨first, fun index frame present => (sent.at_index small present).counter⟩
  case received =>
    intro receptions same
    have unseen : Validator.fresh.Follows key none := ⟨Finset.notMem_empty key, Or.inl ⟨rfl, rfl, rfl⟩⟩
    apply Validator.verdicts_inSequence unseen small nofun
    case many =>
      intro several
      apply lined.several
      rw [← same, List.length_map]
      exact several
    case stream =>
      intro reception member
      have inside : reception.frame ∈ world.streamFrames key := by
        rw [← same]
        exact List.mem_map_of_mem member
      exact (of_decide_eq_true (List.mem_filter.mp inside).2).symm
    case counts =>
      rw [same]
      exact sent

/-- Where no frame of the stream fails to be sealed, no call is refused after its
frame was sealed, and frames leave in the order of their sealing, the counters
on the wire are consecutive. -/
theorem wire_counters_consecutive (digests : Digests) (key : StreamKey)
    (profile : E2EProfileConfig) (initial last : World) (events : List Event)
    (start : initial.Initial) (registered : initial.gateway.e2eProfiles key.2 = some profile)
    (present : initial.gateway.e2ePackager.isSome = true)
    (kept : ∀ other, .registerProfile key.2 other ∈ events → other = profile)
    (clean : Meets (World.step digests) (KeepsTurn digests key profile) initial events)
    (ran : run (World.step digests) initial events = some last) :
    CountersConsecutive key profile last := by
  obtain ⟨packager, installed⟩ := Option.isSome_iff_exists.mp present
  obtain ⟨first, counts⟩ := Gateway.exists_countsNext registered installed
  have reregistered : Meets (World.step digests)
      (fun _ event => ∀ other, event = .registerProfile key.2 other → other = profile)
      initial events := by
    apply Meets.of_forall
    intro event member other same
    rw [same] at member
    exact kept other member
  have preserves : ∀ before event after, InLine key profile first before →
      (KeepsTurn digests key profile before event ∧
        ∀ other, event = .registerProfile key.2 other → other = profile) →
      World.step digests before event = some after → InLine key profile first after := by
    intro before event after lined admitted stepped
    obtain ⟨_, _, line⟩ := lined
    exact lined_step line admitted.1 admitted.2 stepped
  obtain ⟨_, _, lined⟩ := run_invariant_of_meets preserves ⟨first, [], start.lined counts⟩
    (clean.and reregistered) ran
  exact lined.countersConsecutive counts.small

section Serial

/-- The calls have one of the given numbers, are dispatched one at a time, and
none is refused. -/
def OneAtATime (digests : Digests) (ids : List Nat) (world : World) : Event → Bool
  | .validate id owner request clock =>
      decide (id ∈ ids) &&
        (world.gateway.validateLocked digests world.plane clock owner request).isOk
  | .guard id => (world.calls id).all (fun call => !call.reservation.guardRefuses world.estop)
  | .dispatch id =>
      (world.calls id).all (fun call => !call.reservation.fenceRefuses world.estop) &&
        ids.all (fun other => decide (other = id) || (world.calls other).isNone)
  | _ => true

def CallsAmong (ids : List Nat) (world : World) : Prop :=
  ∀ id call, world.calls id = some call → id ∈ ids

variable {digests : Digests} {ids : List Nat} {world next : World} {event : Event}
  {key : StreamKey} {profile : E2EProfileConfig}

theorem callsAmong_step (among : CallsAmong ids world)
    (serial : OneAtATime digests ids world event = true)
    (stepped : world.step digests event = some next) : CallsAmong ids next := by
  intro id call pending
  rcases calls_step stepped pending with ⟨before, known, _⟩ | ⟨owner, clock, made, _⟩
  · exact among id before known
  · rw [made] at serial
    exact of_decide_eq_true (Bool.and_eq_true_iff.mp serial).1

theorem keepsTurn_of_oneAtATime (many : 1 < profile.modulo) (among : CallsAmong ids world)
    (serial : OneAtATime digests ids world event = true) :
    KeepsTurn digests key profile world event := by
  cases event with
  | validate id owner request clock =>
      intro _ rejection refused
      have passed := (Bool.and_eq_true_iff.mp serial).2
      rw [refused] at passed
      cases passed
  | guard id =>
      intro reservation holds
      obtain ⟨call, pending, rfl, _⟩ := holds
      have passes : (world.calls id).all
          (fun call => !call.reservation.guardRefuses world.estop) = true := serial
      rw [pending, Option.all_some, Bool.not_eq_true'] at passes
      exact passes
  | dispatch id =>
      intro reservation holds
      obtain ⟨call, pending, rfl, _⟩ := holds
      obtain ⟨passes, alone⟩ := Bool.and_eq_true_iff.mp serial
      rw [pending, Option.all_some, Bool.not_eq_true'] at passes
      refine ⟨passes, ?_, fun _ => many⟩
      intro other waiting queued
      obtain ⟨another, known, rfl, _⟩ := queued
      rcases Bool.or_eq_true_iff.mp (List.all_eq_true.mp alone other (among other another known))
        with same | free
      · rw [of_decide_eq_true same, pending] at known
        cases known
        exact Nat.le_refl _
      · rw [known] at free
        cases free
  | _ => trivial

theorem meets_keepsTurn_of_oneAtATime {initial : World} {events : List Event}
    (start : initial.Initial) (many : 1 < profile.modulo)
    (serial : Meets (World.step digests) (fun world event => OneAtATime digests ids world event = true)
      initial events) :
    Meets (World.step digests) (KeepsTurn digests key profile) initial events := by
  have idle : CallsAmong ids initial := by
    intro id call pending
    rw [start.calls] at pending
    cases pending
  exact (Meets.with_invariant (fun _ _ _ among serial stepped => callsAmong_step among serial stepped)
    idle serial).imp (fun _ _ both => keepsTurn_of_oneAtATime many both.1 both.2)

end Serial

section Bench

def sealedSend (id second : Nat) : List Event :=
  [.validate id 0 { frame := statusFrame } (Clock.at second), .guard id, .dispatch id]

def twoSealed : List Event := sealedSend 0 1 ++ sealedSend 1 2

theorem twoSealed_isSome :
    (run (World.step nullDigests) sealBench twoSealed).isSome = true := by
  decide +kernel

theorem twoSealed_oneAtATime :
    Meets (World.step nullDigests)
      (fun world event => OneAtATime nullDigests [0, 1] world event = true) sealBench twoSealed := by
  decide +kernel

theorem wire_counters_consecutive_two :
    CountersConsecutive (streamKey statusFrame) headerProfile
      ((run (World.step nullDigests) sealBench twoSealed).get twoSealed_isSome) :=
  wire_counters_consecutive nullDigests (streamKey statusFrame) headerProfile sealBench _ twoSealed
    (bench_initial _ _ _) rfl rfl (fun _ member => by simp [twoSealed, sealedSend] at member)
    (meets_keepsTurn_of_oneAtATime (bench_initial _ _ _) (by decide) twoSealed_oneAtATime)
    (Option.some_get twoSealed_isSome).symm

/-- The second call is sealed before the bus is replaced and refused at its
dispatch: its counter is missing on the wire. -/
def refusedBetween : List Event :=
  sealedSend 0 1 ++
    [.validate 1 0 { frame := statusFrame } (Clock.at 2), .guard 1,
      .rebindBus { identity := 1, interface := none, isVirtualBus := false }, .rebindPublish,
      .dispatch 1, .rollback 1] ++
    sealedSend 2 3

def wireCounters (world : World) : List (Except PackageError Nat) :=
  (world.streamFrames (streamKey statusFrame)).map
    (fun frame => extractCounter frame.data headerProfile)

/-- A refusal at the fence leaves a gap of one counter. -/
theorem refusal_leaves_gap :
    ¬ ∀ (digests : Digests) (key : StreamKey) (profile : E2EProfileConfig) (initial last : World)
        (events : List Event),
      initial.Initial → initial.gateway.e2eProfiles key.2 = some profile →
      initial.gateway.e2ePackager.isSome = true →
      (∀ other, .registerProfile key.2 other ∈ events → other = profile) →
      run (World.step digests) initial events = some last →
      CountersConsecutive key profile last := by
  intro always
  have sends : (run (World.step nullDigests) sealBench refusedBetween).map
      (fun world => wireCounters world) = some [.ok 0, .ok 2] := by
    decide +kernel
  obtain ⟨last, ran, wire⟩ := Option.map_eq_some_iff.mp sends
  have unregistered : ∀ other, .registerProfile (streamKey statusFrame).2 other ∈ refusedBetween →
      other = headerProfile := by
    intro other member
    simp [refusedBetween, sealedSend] at member
  obtain ⟨first, counters⟩ := (always nullDigests (streamKey statusFrame) headerProfile sealBench
    last refusedBetween (bench_initial _ _ _) rfl rfl unregistered ran).counters
  obtain ⟨front, others, frames, zero, later⟩ := List.map_eq_cons_iff.mp wire
  obtain ⟨back, _, split, two, _⟩ := List.map_eq_cons_iff.mp later
  have atFront := counters 0 front (by rw [frames]; rfl)
  have atBack := counters 1 back (by rw [frames, split]; rfl)
  have sixteen : headerProfile.modulo = 16 := by decide
  rw [zero, sixteen] at atFront
  rw [two, sixteen] at atBack
  have isFront := Except.ok.inj atFront
  have isBack := Except.ok.inj atBack
  omega

end Bench

end World

end Ucanlab.Safety
