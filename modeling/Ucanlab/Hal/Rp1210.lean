import Ucanlab.Core.CharTable
import Ucanlab.Lib.BitField
import Ucanlab.Lib.StructFormat

/-!
The vendor adapter's wire format: what the bus hands to the driver for a frame, and the frame it reads
in a packet of the driver's. An extended frame has its identifier in four bytes and its length in a
fifth; a standard one has both in two bytes. Timestamps and the metrics are left out.
-/

namespace Ucanlab.Rp1210

open Ucanlab StructFormat

def protocolAllowlist : List (List Char) :=
  ["J1939".toList, "J1939T".toList, "CAN".toList, "ISO15765".toList, "ISO_TP".toList]

def unsupportedProtocols : List (List Char) := ["J1708".toList]

def strict29BitProtocols : List (List Char) := ["j1939".toList, "j1939t".toList]

def extendedIdProtocols : List (List Char) :=
  ["j1939".toList, "j1939t".toList, "iso15765".toList, "iso_tp".toList]

inductive ProtocolError where
  | empty
  | unsupported (upper : List Char)
  | notListed (protocol : List Char)
  deriving DecidableEq, Repr

/-- `_validate_protocol`; the name itself is kept as it was given. -/
def validateProtocol (table : CharTable) (protocol : List Char) :
    Except ProtocolError (List Char) :=
  let upper := table.upperText protocol
  if protocol = [] then .error .empty
  else if upper ∈ unsupportedProtocols then .error (.unsupported upper)
  else if upper ∉ protocolAllowlist then .error (.notListed protocol)
  else .ok protocol

structure Bus (table : CharTable) where
  channelId : String
  protocol : List Char
  isConnected : Bool
  listenOnly : Bool := true
  validChannel : validChannelId channelId = true
  allowed : validateProtocol table protocol = .ok protocol

inductive SendError where
  | notConnected
  | listenOnly
  | fd
  | payloadLength (length : Nat)
  | standardOnStrict
  deriving DecidableEq, Repr

def SendError.code : SendError → String
  | .notConnected => "HARDWARE_ERROR"
  | .listenOnly => "HARDWARE_LISTEN_ONLY_TX_BLOCKED"
  | .fd | .payloadLength _ | .standardOnStrict => "HARDWARE_FRAME_REJECTED"

def maxClassicPayload : Nat := 8

section Wire

-- `str.lower` of a whole text.
variable {table : CharTable} (lower : List Char → List Char) (bus : Bus table)

def Bus.isStrict29Bit : Bool := decide (lower (pyStrip bus.protocol) ∈ strict29BitProtocols)

def Bus.usesExtendedIdLayout : Bool := decide (lower (pyStrip bus.protocol) ∈ extendedIdProtocols)

/-- The checks of `send`, in its order. -/
def sendRefusal (frame : CanFrame) : Option SendError :=
  if bus.isConnected = false then some .notConnected
  else if bus.listenOnly then some .listenOnly
  else if frame.isFd then some .fd
  else if frame.data.length > maxClassicPayload then some (.payloadLength frame.data.length)
  else if ¬ frame.isExtended ∧ bus.isStrict29Bit lower then some .standardOnStrict
  else none

def encodeFrame (frame : CanFrame) : Bytes :=
  if frame.isExtended then
    lowBytes 4 (frame.arbitrationId &&& 0x1FFFFFFF) ++ [UInt8.ofNat frame.data.length] ++ frame.data
  else
    lowBytes 2 ((frame.arbitrationId &&& 0x7FF) <<< 4 ||| (frame.data.length &&& 0x0F)) ++ frame.data

def send (frame : CanFrame) : Except SendError Bytes :=
  match sendRefusal lower bus frame with
  | some error => .error error
  | none => .ok (encodeFrame frame)

def received (arbId dlc : Nat) (payload : Bytes) (isExtended : Bool) : FrameFields where
  channelId := bus.channelId
  arbitrationId := arbId
  dlc := dlc
  data := payload
  isExtended := isExtended
  direction := .rx

/-- What both layouts do with the length and the bytes behind it: a packet that is too short, or a
length beyond a classic frame's, is dropped. -/
def readPayload (arbId dlc : Nat) (rest : Bytes) (isExtended : Bool) :
    Except FrameError (Option CanFrame) :=
  let payload := rest.take dlc
  if payload.length < dlc then .ok none
  else if dlc > 8 then .ok none
  else (CanFrame.new (received bus arbId dlc payload isExtended)).map some

/-- `_decode_rp1210_packet`: a frame, nothing, or the `ValueError` of the frame's constructor. -/
def decodePacket (raw : Bytes) : Except FrameError (Option CanFrame) :=
  if bus.isStrict29Bit lower ∨ bus.usesExtendedIdLayout lower ∧ 5 ≤ raw.length then
    if raw.length < 5 then .ok none
    else
      let arbId := lowValue (raw.take 4) &&& 0x1FFFFFFF
      let rawDlc := (raw.getD 4 0).toNat
      if rawDlc > 15 then .ok none
      else readPayload bus arbId (rawDlc &&& 0x0F) (raw.drop 5) true
  else if raw.length < 2 then .ok none
  else
    let header := lowValue (raw.take 2)
    readPayload bus ((header >>> 4) &&& 0x7FF) (header &&& 0x0F) (raw.drop 2) false

def RoundTrips (frame : CanFrame) : Prop :=
  ∀ wire, send lower bus frame = .ok wire → ∃ decoded,
    decodePacket lower bus wire = .ok (some decoded) ∧
      decoded.arbitrationId = frame.arbitrationId ∧ decoded.isExtended = frame.isExtended ∧
      decoded.data = frame.data

end Wire

section Reading

variable {table : CharTable} {lower : List Char → List Char} {bus : Bus table} {frame : CanFrame}

theorem strict_usesExtended (strict : bus.isStrict29Bit lower = true) :
    bus.usesExtendedIdLayout lower = true := by
  have listed := of_decide_eq_true strict
  refine decide_eq_true ?_
  rcases List.mem_cons.mp listed with first | rest
  · exact first ▸ List.mem_cons_self
  · exact List.mem_singleton.mp rest ▸ List.mem_cons_of_mem _ List.mem_cons_self

theorem received_valid {arbId : Nat} {payload : Bytes} {isExtended : Bool}
    (inRange : arbId ≤ maxId isExtended) (short : payload.length ≤ 8) :
    (received bus arbId payload.length payload isExtended).postInit = none := by
  have capacity : dlcToLengthTable.getD payload.length 0 = payload.length := by
    generalize payload.length = length at short
    interval_cases length <;> rfl
  refine (FrameFields.postInit_eq_none_iff _).mpr ?_
  exact {
    channelId := bus.validChannel
    dlc := short.trans (by decide)
    arbitrationId := inRange
    classicDlc := fun _ => short
    classicFlags := fun _ => ⟨rfl, rfl⟩
    fdLength := fun fd _ => absurd fd Bool.false_ne_true
    exactLength := fun _ => capacity.symm }

theorem readPayload_whole {arbId : Nat} {payload : Bytes} {isExtended : Bool}
    (inRange : arbId ≤ maxId isExtended) (short : payload.length ≤ 8) :
    readPayload bus arbId payload.length payload isExtended =
      .ok (some ⟨received bus arbId payload.length payload isExtended,
        received_valid inRange short⟩) := by
  unfold readPayload
  rw [List.take_length, if_neg (Nat.lt_irrefl _), if_neg (Nat.not_lt.mpr short),
    CanFrame.new_of_valid _ (received_valid inRange short)]
  rfl

theorem readPayload_isExtended {arbId dlc : Nat} {rest : Bytes} {isExtended : Bool}
    {decoded : CanFrame} (read : readPayload bus arbId dlc rest isExtended = .ok (some decoded)) :
    decoded.isExtended = isExtended := by
  unfold readPayload at read
  dsimp only at read
  split at read
  · cases read
  · split at read
    · cases read
    · cases built : CanFrame.new (received bus arbId dlc (rest.take dlc) isExtended) with
      | error error =>
          rw [built] at read
          cases read
      | ok frame =>
          rw [built] at read
          cases read
          rw [CanFrame.new_fields built]
          rfl

def readsExtended (lower : List Char → List Char) (bus : Bus table) (raw : Bytes) : Prop :=
  bus.isStrict29Bit lower ∨ bus.usesExtendedIdLayout lower ∧ 5 ≤ raw.length

theorem decodePacket_isExtended {raw : Bytes} {decoded : CanFrame}
    (read : decodePacket lower bus raw = .ok (some decoded)) :
    decoded.isExtended = true ↔ readsExtended lower bus raw := by
  unfold decodePacket at read
  split at read
  next extended =>
    split at read
    · cases read
    · dsimp only at read
      split at read
      · cases read
      · exact iff_of_true (readPayload_isExtended read) extended
  next standard =>
    split at read
    · cases read
    · refine iff_of_false ?_ standard
      rw [readPayload_isExtended read]
      exact Bool.false_ne_true

theorem send_eq_ok {wire : Bytes} :
    send lower bus frame = .ok wire ↔
      sendRefusal lower bus frame = none ∧ encodeFrame frame = wire := by
  unfold send
  cases sendRefusal lower bus frame with
  | none => simp
  | some error => simp

/-- What `send` takes: a classic frame, and no standard one on a 29-bit stack. -/
theorem sendRefusal_eq_none :
    sendRefusal lower bus frame = none ↔
      bus.isConnected = true ∧ bus.listenOnly = false ∧ frame.isFd = false ∧
        (frame.isExtended = false → bus.isStrict29Bit lower = false) := by
  have short := frame.data_length_le
  unfold sendRefusal maxClassicPayload
  cases bus.isConnected with
  | false => simp
  | true =>
      cases bus.listenOnly with
      | true => simp
      | false =>
          cases fd : frame.isFd with
          | true => simp
          | false =>
              rw [fd] at short
              have fits : ¬ frame.data.length > 8 := Nat.not_lt.mpr short
              cases frame.isExtended with
              | true => simp [fits]
              | false => simp [fits]

theorem encodeFrame_length (frame : CanFrame) :
    (encodeFrame frame).length = frame.data.length + if frame.isExtended then 5 else 2 := by
  unfold encodeFrame
  split
  · rw [List.length_append, List.length_append, lowBytes_length, List.length_singleton]
    omega
  · rw [List.length_append, lowBytes_length]
    omega

section Classic

variable (classic : frame.isFd = false)
include classic

theorem classic_length : frame.data.length ≤ 8 := by
  have short := frame.data_length_le
  rwa [classic] at short

def echoed (bus : Bus table) (frame : CanFrame) (classic : frame.isFd = false) : CanFrame where
  toFrameFields :=
    received bus frame.arbitrationId frame.data.length frame.data frame.isExtended
  valid := received_valid frame.wellFormed.arbitrationId (classic_length classic)

theorem readPayload_echoed :
    readPayload bus frame.arbitrationId frame.data.length frame.data frame.isExtended =
      .ok (some (echoed bus frame classic)) :=
  readPayload_whole frame.wellFormed.arbitrationId (classic_length classic)

theorem decodePacket_extended (extended : frame.isExtended = true)
    (layout : bus.usesExtendedIdLayout lower = true) :
    decodePacket lower bus (encodeFrame frame) = .ok (some (echoed bus frame classic)) := by
  have short := classic_length classic
  have inRange : frame.arbitrationId ≤ maxId true := extended ▸ frame.wellFormed.arbitrationId
  have masked : frame.arbitrationId &&& 0x1FFFFFFF = frame.arbitrationId :=
    Nat.and_two_pow_sub_one_of_lt_two_pow (n := 29) (Nat.lt_succ_of_le inRange)
  have wire : encodeFrame frame =
      lowBytes 4 frame.arbitrationId ++ (UInt8.ofNat frame.data.length :: frame.data) := by
    unfold encodeFrame
    rw [if_pos extended, masked, List.append_assoc, List.singleton_append]
  have length := encodeFrame_length frame
  rw [extended, if_pos rfl] at length
  have header : (encodeFrame frame).take 4 = lowBytes 4 frame.arbitrationId := by
    rw [wire, List.take_left' (lowBytes_length 4 _)]
  have rest : (encodeFrame frame).drop 4 = UInt8.ofNat frame.data.length :: frame.data := by
    rw [wire, List.drop_left' (lowBytes_length 4 _)]
  have rawDlc : ((encodeFrame frame).getD 4 0).toNat = frame.data.length := by
    have first : (encodeFrame frame)[4]? = some (UInt8.ofNat frame.data.length) := by
      rw [← List.head?_drop, rest, List.head?_cons]
    rw [List.getD_eq_getElem?_getD, first, Option.getD_some, UInt8.toNat_ofNat']
    omega
  have payload : (encodeFrame frame).drop 5 = frame.data := by
    rw [← List.tail_drop, rest, List.tail_cons]
  have dlc : frame.data.length &&& 0x0F = frame.data.length :=
    Nat.and_two_pow_sub_one_of_lt_two_pow (n := 4) (by omega)
  have number : lowValue (lowBytes 4 frame.arbitrationId) &&& 0x1FFFFFFF = frame.arbitrationId := by
    rw [lowValue_lowBytes, Nat.mod_eq_of_lt (lt_of_le_of_lt inRange (by decide)), masked]
  have whole : readPayload bus frame.arbitrationId frame.data.length frame.data frame.isExtended =
      .ok (some (echoed bus frame classic)) := readPayload_echoed classic
  rw [extended] at whole
  unfold decodePacket
  rw [if_pos (Or.inr ⟨layout, by omega⟩), if_neg (by omega)]
  dsimp only
  rw [rawDlc, if_neg (by omega), header, payload, dlc, number, whole]

theorem decodePacket_standard (standard : frame.isExtended = false)
    (layout : ¬ readsExtended lower bus (encodeFrame frame)) :
    decodePacket lower bus (encodeFrame frame) = .ok (some (echoed bus frame classic)) := by
  have short := classic_length classic
  have inRange : frame.arbitrationId ≤ 0x7FF := by
    have bound := frame.wellFormed.arbitrationId
    rwa [standard] at bound
  have masked : frame.arbitrationId &&& 0x7FF = frame.arbitrationId :=
    Nat.and_two_pow_sub_one_of_lt_two_pow (n := 11) (Nat.lt_succ_of_le inRange)
  have dlc : frame.data.length &&& 0x0F = frame.data.length :=
    Nat.and_two_pow_sub_one_of_lt_two_pow (n := 4) (by omega)
  have joined : frame.arbitrationId <<< 4 ||| frame.data.length =
      frame.arbitrationId * 2 ^ 4 + frame.data.length :=
    BitField.shiftLeft_or_eq (by omega)
  have wire : encodeFrame frame =
      lowBytes 2 (frame.arbitrationId * 2 ^ 4 + frame.data.length) ++ frame.data := by
    unfold encodeFrame
    rw [if_neg (by rw [standard]; exact Bool.false_ne_true), masked, dlc, joined]
  have length := encodeFrame_length frame
  rw [standard, if_neg Bool.false_ne_true] at length
  have header : lowValue ((encodeFrame frame).take 2) =
      frame.arbitrationId * 2 ^ 4 + frame.data.length := by
    rw [wire, List.take_left' (lowBytes_length 2 _), lowValue_lowBytes, Nat.mod_eq_of_lt (by omega)]
  have payload : (encodeFrame frame).drop 2 = frame.data := by
    rw [wire, List.drop_left' (lowBytes_length 2 _)]
  have number : ((frame.arbitrationId * 2 ^ 4 + frame.data.length) >>> 4) &&& 0x7FF =
      frame.arbitrationId := by
    rw [Nat.shiftRight_eq_div_pow]
    have quotient : (frame.arbitrationId * 2 ^ 4 + frame.data.length) / 2 ^ 4 =
        frame.arbitrationId := by omega
    rw [quotient, masked]
  have low : (frame.arbitrationId * 2 ^ 4 + frame.data.length) &&& 0x0F = frame.data.length := by
    rw [show (0x0F : Nat) = 2 ^ 4 - 1 from rfl, Nat.and_two_pow_sub_one_eq_mod]
    omega
  have whole : readPayload bus frame.arbitrationId frame.data.length frame.data frame.isExtended =
      .ok (some (echoed bus frame classic)) := readPayload_echoed classic
  rw [standard] at whole
  unfold decodePacket
  rw [if_neg (show ¬ (_ ∨ _) from layout), if_neg (by omega)]
  dsimp only
  rw [header, payload, number, low, whole]

end Classic

end Reading

/-- A frame that the bus sends comes back exactly when its layout is the one that the receiver
guesses: an extended frame on a protocol of extended identifiers, a standard one on another
protocol, or with two bytes at most. -/
theorem adapter_roundTrips_iff (table : CharTable) (lower : List Char → List Char) (bus : Bus table)
    (frame : CanFrame) :
    RoundTrips lower bus frame ↔
      bus.isConnected = false ∨ bus.listenOnly = true ∨ frame.isFd = true ∨
        (frame.isExtended = true ∧ bus.usesExtendedIdLayout lower = true) ∨
        (frame.isExtended = false ∧ (bus.isStrict29Bit lower = true ∨
          bus.usesExtendedIdLayout lower = false ∨ frame.data.length ≤ 2)) := by
  have length := encodeFrame_length frame
  constructor
  · intro trips
    by_contra fails
    simp only [not_or, not_and, Bool.not_eq_false, Bool.not_eq_true, Nat.not_le] at fails
    obtain ⟨connected, active, classic, otherExtended, otherStandard⟩ := fails
    have accepted := sendRefusal_eq_none.mpr
      ⟨connected, active, classic, fun standard => (otherStandard standard).1⟩
    obtain ⟨decoded, read, -, same, -⟩ := trips _ (send_eq_ok.mpr ⟨accepted, rfl⟩)
    have layout := decodePacket_isExtended read
    rw [same] at layout
    cases extended : frame.isExtended with
    | true =>
        rcases layout.mp extended with strict | ⟨uses, -⟩
        · exact absurd (strict_usesExtended strict) (otherExtended extended ▸ Bool.false_ne_true)
        · exact absurd uses (otherExtended extended ▸ Bool.false_ne_true)
    | false =>
        obtain ⟨-, uses, long⟩ := otherStandard extended
        rw [extended, if_neg Bool.false_ne_true] at length
        have reads := layout.mpr (Or.inr ⟨uses, by omega⟩)
        rw [extended] at reads
        cases reads
  · intro fits wire sent
    obtain ⟨accepted, rfl⟩ := send_eq_ok.mp sent
    obtain ⟨connected, active, classic, standardOnly⟩ := sendRefusal_eq_none.mp accepted
    have trips : decodePacket lower bus (encodeFrame frame) =
        .ok (some (echoed bus frame classic)) := by
      rcases fits with offline | passive | fd | ⟨extended, uses⟩ | ⟨standard, layout⟩
      · rw [connected] at offline
        cases offline
      · rw [active] at passive
        cases passive
      · rw [classic] at fd
        cases fd
      · exact decodePacket_extended classic extended uses
      · refine decodePacket_standard classic standard ?_
        rw [standard, if_neg Bool.false_ne_true] at length
        rintro (strict | ⟨uses, long⟩)
        · rw [standardOnly standard] at strict
          cases strict
        · rcases layout with strict | other | short
          · rw [standardOnly standard] at strict
            cases strict
          · rw [other] at uses
            cases uses
          · omega
    exact ⟨_, trips, rfl, rfl, rfl⟩

def asciiLower (text : List Char) : List Char := text.map Char.toLower

def canBus : Bus plainTable where
  channelId := "rp1210_dev1"
  protocol := "CAN".toList
  isConnected := true
  listenOnly := false
  validChannel := by decide
  allowed := by decide

def isoBus : Bus plainTable where
  channelId := "rp1210_dev1"
  protocol := "ISO15765".toList
  isConnected := true
  listenOnly := false
  validChannel := by decide
  allowed := by decide

def extendedRequest : CanFrame where
  channelId := "rp1210_dev1"
  arbitrationId := 0x18DA00F1
  dlc := 3
  data := [0x02, 0x10, 0x03]
  isExtended := true
  valid := by decide

def standardRequest : CanFrame where
  channelId := "rp1210_dev1"
  arbitrationId := 0x7E0
  dlc := 3
  data := [0x02, 0x10, 0x03]
  valid := by decide

/-- An extended frame on plain CAN comes back as a standard one, and a standard frame of three bytes
on ISO 15765 does not come back as such. -/
theorem layouts_alias :
    ¬ RoundTrips asciiLower canBus extendedRequest ∧
      ¬ RoundTrips asciiLower isoBus standardRequest := by
  constructor
  · intro trips
    obtain ⟨decoded, read, -, same, -⟩ := trips (encodeFrame extendedRequest) (by decide +kernel)
    have layout := (decodePacket_isExtended read).mp same
    exact absurd layout (show ¬ (_ ∨ _) by decide +kernel)
  · intro trips
    obtain ⟨decoded, read, -, same, -⟩ := trips (encodeFrame standardRequest) (by decide +kernel)
    have layout := (decodePacket_isExtended read).mpr
      (show _ ∨ _ by decide +kernel)
    rw [same] at layout
    cases layout

end Ucanlab.Rp1210
