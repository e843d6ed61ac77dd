import Ucanlab.Safety.E2E.StreamRuns

/-!
A burst of errors in the protected bytes of a sealed payload, as the validator judges it. The bits
count in the order in which the checksum reads them, most significant first.
-/

namespace Ucanlab.Safety.E2E

open Ucanlab CyclicCode

def E2EProfileConfig.polynomial (profile : E2EProfileConfig) : Option UInt8 :=
  match profile.profileType with
  | .autosarProfile1 | .autosarProfile1A | .autosarProfile1B | .autosarProfile1C | .saeJ1850 =>
      some (UInt8.ofInt polynomial0x1d)
  | .autosarProfile2 | .vagMqb => some (UInt8.ofInt polynomial0x2f)
  | .toyota | .volvo => none
  | .custom => some (UInt8.ofInt profile.customPolynomial)

def protectedBits (profile : E2EProfileConfig) (bytes : Bytes) : List Bool :=
  bitsOf (bytes.eraseIdx profile.crcOffset)

/-- The errors are a burst in the protected bytes. In Profile 2, where the counter selects the data
identifier, they leave the counter alone. -/
structure ConfinedBurst (profile : E2EProfileConfig) (bytes errors : Bytes) : Prop where
  length : errors.length = bytes.length
  burst : Burst 8 (protectedBits profile errors)
  checksum : errors.getD profile.crcOffset 0 = 0
  counter : profile.profileType = .autosarProfile2 →
    (errors.getD profile.counterOffset 0).toNat &&& profile.mask = 0

inductive SealedFor (profile : E2EProfileConfig) (key : StreamKey) : Bytes → Prop where
  | frame (packager : Packager) (frame sealed : CanFrame) (counter : Option Int)
      (own : key = (frame.channelId, frame.arbitrationId))
      (ok : (packager.package frame profile counter).2 = .ok sealed) : SealedFor profile key sealed.data
  | payload (packager : Packager) (data bytes : Bytes) (dlc counter : Option Int) (used : Nat)
      (crc : UInt8)
      (ok : (packager.packagePayload data profile key dlc counter).2 = .ok (bytes, used, crc)) :
      SealedFor profile key bytes

section Checksum

variable {profile : E2EProfileConfig} {bytes errors : Bytes} {poly : UInt8}

theorem corrupt_length (same : errors.length = bytes.length) :
    (corrupt bytes errors).length = bytes.length := by
  unfold corrupt
  rw [List.length_zipWith, same, Nat.min_self]

theorem corrupt_getElem? (same : errors.length = bytes.length) (index : Nat) :
    (corrupt bytes errors)[index]? =
      (bytes[index]?).map (fun byte => byte ^^^ errors.getD index 0) := by
  unfold corrupt
  rw [List.getElem?_zipWith]
  cases found : bytes[index]? with
  | none => rfl
  | some byte =>
      have inside : index < errors.length := by
        rw [same]
        exact (List.getElem?_eq_some_iff.mp found).1
      rw [List.getD_eq_getElem?_getD, List.getElem?_eq_getElem inside]
      rfl

theorem corrupt_eraseIdx (bytes errors : Bytes) (index : Nat) :
    (corrupt bytes errors).eraseIdx index =
      corrupt (bytes.eraseIdx index) (errors.eraseIdx index) := by
  induction bytes generalizing errors index with
  | nil => rfl
  | cons byte rest ih =>
      cases errors with
      | nil =>
          cases index with
          | zero => exact (List.zipWith_nil_right).symm
          | succ index => rfl
      | cons error errors =>
          cases index with
          | zero => rfl
          | succ index => exact congrArg ((byte ^^^ error) :: ·) (ih errors index)

theorem corrupt_zeros (bytes : Bytes) : corrupt bytes (List.replicate bytes.length 0) = bytes := by
  induction bytes with
  | nil => rfl
  | cons byte rest ih =>
      change (byte ^^^ 0) :: corrupt rest (List.replicate rest.length 0) = byte :: rest
      rw [UInt8.xor_zero, ih]

theorem corrupt_surrounded (front back : Bytes) (same : errors.length = bytes.length) :
    front ++ corrupt bytes errors ++ back =
      corrupt (front ++ bytes ++ back)
        (List.replicate front.length 0 ++ errors ++ List.replicate back.length 0) := by
  unfold corrupt
  rw [List.zipWith_append (by rw [List.length_append, List.length_append, List.length_replicate, same]),
    List.zipWith_append (List.length_replicate).symm]
  have whole (part : Bytes) : List.zipWith (fun byte error => byte ^^^ error) part
      (List.replicate part.length 0) = part := corrupt_zeros part
  rw [whole, whole]

theorem burst_surrounded (front back : Bytes) (burst : Burst 8 (bitsOf errors)) :
    Burst 8 (bitsOf (List.replicate front.length 0 ++ errors ++ List.replicate back.length 0)) := by
  rw [bitsOf_append, bitsOf_append, bitsOf_zeros, bitsOf_zeros]
  exact burst.surrounded _ _

theorem surrounded_burst {table : List UInt8} (tabled : TableOf table poly)
    (odd : poly.toBitVec.getLsbD 0 = true) (initVal finalXor : UInt8) (front back : Bytes)
    (same : errors.length = bytes.length) (burst : Burst 8 (bitsOf errors)) :
    crc8WithTable table initVal finalXor (front ++ corrupt bytes errors ++ back) ≠
      crc8WithTable table initVal finalXor (front ++ bytes ++ back) := by
  rw [corrupt_surrounded front back same]
  refine crc8WithTable_burst tabled odd initVal finalXor ?_ (burst_surrounded front back burst)
  rw [List.length_append, List.length_append, List.length_append, List.length_append,
    List.length_replicate, List.length_replicate, same]

theorem calculateCrc8_burst (poly initVal finalXor : Int)
    (odd : (UInt8.ofInt poly).toBitVec.getLsbD 0 = true)
    (same : errors.length = bytes.length) (burst : Burst 8 (bitsOf errors)) :
    calculateCrc8 (corrupt bytes errors) poly initVal finalXor ≠
      calculateCrc8 bytes poly initVal finalXor := by
  unfold calculateCrc8
  dsimp only
  split
  · rename_i known
    rw [known] at odd
    exact crc8WithTable_burst tableOf_0x1d odd _ _ same burst
  · split
    · rename_i known
      rw [known] at odd
      exact crc8WithTable_burst tableOf_0x2f odd _ _ same burst
    · exact crc8WithTable_burst (tableOf_generated poly) odd _ _ same burst

theorem profile1_burst (same : errors.length = bytes.length) (burst : Burst 8 (bitsOf errors)) :
    profile1Checksum (corrupt bytes errors) profile ≠ profile1Checksum bytes profile := by
  have differs (front back : Bytes) := @surrounded_burst bytes errors _ _ tableOf_0x1d (by decide)
    (UInt8.ofInt defaultCrcInit) (UInt8.ofInt defaultCrcXor) front back same burst
  unfold profile1Checksum calculateCrc8_0x1d
  generalize (if profile.dataIdMode = "" then "1C" else profile.dataIdMode.toUpper) = mode
  dsimp only
  split
  · exact differs [] [dataIdLow profile]
  · split
    · intro unchanged
      have plain := differs [dataIdLow profile] []
      rw [List.append_nil, List.append_nil] at plain
      exact plain ((UInt8.xor_left_inj _).mp unchanged)
    · have plain := differs [dataIdLow profile, dataIdHigh profile] []
      rw [List.append_nil, List.append_nil] at plain
      exact plain

theorem extractCounter_corrupt (same : errors.length = bytes.length)
    (untouched : (errors.getD profile.counterOffset 0).toNat &&& profile.mask = 0) :
    extractCounter (corrupt bytes errors) profile = extractCounter bytes profile := by
  unfold extractCounter
  rw [corrupt_getElem? same, corrupt_length same]
  cases bytes[profile.counterOffset]? with
  | none => rfl
  | some raw =>
      dsimp only [Option.map_some]
      rw [UInt8.toNat_xor, Nat.and_xor_distrib_right, untouched, Nat.xor_zero]

theorem computeChecksum_burst (cyclic : profile.polynomial = some poly)
    (odd : poly.toBitVec.getLsbD 0 = true) (confined : ConfinedBurst profile bytes errors)
    {arbitrationId dlc : Nat} {crc : UInt8}
    (computed : computeChecksum bytes profile arbitrationId dlc = .ok crc) :
    ∃ other, computeChecksum (corrupt bytes errors) profile arbitrationId dlc = .ok other ∧
      other ≠ crc := by
  have same : (errors.eraseIdx profile.crcOffset).length =
      (bytes.eraseIdx profile.crcOffset).length := by
    rw [List.length_eraseIdx, List.length_eraseIdx, confined.length]
  have burst : Burst 8 (bitsOf (errors.eraseIdx profile.crcOffset)) := confined.burst
  have differs (front back : Bytes) := @surrounded_burst _ _ _ _ tableOf_0x2f (by decide)
    (UInt8.ofInt defaultCrcInit) (UInt8.ofInt defaultCrcXor) front back same burst
  unfold computeChecksum at computed ⊢
  rw [corrupt_length confined.length, corrupt_eraseIdx]
  unfold E2EProfileConfig.polynomial at cyclic
  split at computed
  · cases computed
  · rename_i nonempty
    rw [if_neg nonempty]
    dsimp only at computed ⊢
    cases kind : profile.profileType with
    | autosarProfile1 | autosarProfile1A | autosarProfile1B | autosarProfile1C =>
        rw [kind] at computed
        cases computed
        exact ⟨_, rfl, profile1_burst same burst⟩
    | autosarProfile2 =>
        rw [kind] at computed
        dsimp only at computed ⊢
        rw [extractCounter_corrupt confined.length (confined.counter kind)]
        split at computed
        · cases computed
        · rename_i dataIds listed
          split at computed
          · cases computed
          · rename_i sixteen
            rw [if_neg sixteen]
            split at computed
            · cases computed
            · rename_i counter read
              cases computed
              exact ⟨_, rfl, differs [] [_]⟩
    | saeJ1850 =>
        rw [kind] at computed
        cases computed
        exact ⟨_, rfl, crc8WithTable_burst tableOf_0x1d (by decide) _ _ same burst⟩
    | toyota =>
        rw [kind] at cyclic
        cases cyclic
    | volvo =>
        rw [kind] at cyclic
        cases cyclic
    | vagMqb =>
        rw [kind] at computed
        dsimp only at computed ⊢
        split at computed
        · rename_i fits
          cases computed
          rw [if_pos fits]
          exact ⟨_, rfl, differs [] [_, _]⟩
        · cases computed
    | custom =>
        rw [kind] at computed cyclic
        cases computed
        cases cyclic
        exact ⟨_, rfl, calculateCrc8_burst _ _ _ odd same burst⟩

theorem computeChecksum_bytes (cyclic : profile.polynomial = some poly)
    (arbitrationId dlc other otherDlc : Nat) :
    computeChecksum bytes profile arbitrationId dlc = computeChecksum bytes profile other otherDlc := by
  unfold E2EProfileConfig.polynomial at cyclic
  unfold computeChecksum
  cases kind : profile.profileType with
  | toyota =>
      rw [kind] at cyclic
      cases cyclic
  | _ => rfl

end Checksum

section Sealing

variable {profile : E2EProfileConfig} {poly : UInt8} {key : StreamKey} {bytes : Bytes}

theorem sealRaw_ok {data : Bytes} {arbitrationId counter used : Nat} {dlc : Option Int} {crc : UInt8}
    (ok : sealRaw data profile arbitrationId dlc counter = .ok (bytes, used, crc)) :
    ∃ counted code, injectCounter (ensureMinLen data profile.minLen) counter profile = .ok counted ∧
      computeChecksum counted profile arbitrationId code = .ok crc ∧
      profile.crcOffset < counted.length ∧ bytes = counted.set profile.crcOffset crc := by
  unfold sealRaw at ok
  split at ok
  · cases ok
  · rename_i counted injected
    split at ok
    · cases ok
    · split at ok
      · cases ok
      · rename_i crc computed
        unfold injectCrc at ok
        split at ok
        · rename_i failed
          split at failed
          · cases ok
          · cases failed
        · rename_i written
          split at written
          · cases written
          · rename_i room
            cases written
            cases ok
            exact ⟨counted, _, injected, computed, Nat.lt_of_not_le room, rfl⟩

theorem injectCounter_length {data counted : Bytes} {counter : Nat}
    (ok : injectCounter data counter profile = .ok counted) : counted.length = data.length := by
  unfold injectCounter at ok
  split at ok
  · cases ok
  · cases ok
    exact List.length_set

theorem SealedFor.intact (cyclic : profile.polynomial = some poly) (sealed : SealedFor profile key bytes)
    (dlc : Nat) :
    profile.minLen ≤ bytes.length ∧ ∃ crc, bytes[profile.crcOffset]? = some crc ∧
      computeChecksum bytes profile key.2 dlc = .ok crc := by
  have checked {data counted : Bytes} {counter arbitrationId code : Nat} {crc : UInt8}
      (injected : injectCounter (ensureMinLen data profile.minLen) counter profile = .ok counted)
      (computed : computeChecksum counted profile arbitrationId code = .ok crc)
      (room : profile.crcOffset < counted.length) :
      profile.minLen ≤ (counted.set profile.crcOffset crc).length ∧
        ∃ value, (counted.set profile.crcOffset crc)[profile.crcOffset]? = some value ∧
          computeChecksum (counted.set profile.crcOffset crc) profile key.2 dlc = .ok value := by
    refine ⟨?_, crc, List.getElem?_set_self room, ?_⟩
    · rw [List.length_set, injectCounter_length injected]
      exact ensureMinLen_length data profile.minLen
    · rw [computeChecksum_set_crc, computeChecksum_bytes cyclic key.2 dlc arbitrationId code]
      exact computed
  cases sealed with
  | frame packager frame sealed counter own ok =>
      unfold Packager.package at ok
      split at ok
      · cases ok
      · obtain ⟨-, code, payload⟩ := sealFrame_ok ok
        obtain ⟨counted, crc, injected, computed, room, same⟩ := sealPayload_ok payload
        rw [same]
        exact checked injected computed room
  | payload packager data bytes code counter used crc ok =>
      unfold Packager.packagePayload at ok
      split at ok
      · cases ok
      · obtain ⟨counted, code, injected, computed, room, same⟩ := sealRaw_ok ok
        rw [same]
        exact checked injected computed room

end Sealing

/-- With an odd polynomial every short burst is reported, as an error of the checksum unless the
stream has a tombstone. -/
theorem burst_reported (profile : E2EProfileConfig) (poly : UInt8)
    (cyclic : profile.polynomial = some poly) (odd : poly.toNat % 2 = 1) (key : StreamKey)
    (bytes errors : Bytes) (sealed : SealedFor profile key bytes)
    (confined : ConfinedBurst profile bytes errors) (validator : Validator)
    (dlc timestampNs now : Nat) :
    verdictOf (validator.validateRaw key (corrupt bytes errors) profile dlc timestampNs now).2 =
      some (if key ∈ validator.evictedStreams then .wrongSequence else .crcError) := by
  have constant : poly.toBitVec.getLsbD 0 = true := by
    rw [← BitVec.testBit_toNat, Nat.testBit_zero, UInt8.toNat_toBitVec, odd]
    rfl
  obtain ⟨long, crc, stored, computed⟩ := sealed.intact cyclic dlc
  obtain ⟨other, recomputed, differs⟩ := computeChecksum_burst cyclic constant confined computed
  by_cases buried : key ∈ validator.evictedStreams
  · obtain ⟨⟨result, answered, verdict⟩, -⟩ :=
      @Validator.validateRaw_tombstoned validator key (corrupt bytes errors) profile dlc timestampNs
        now buried
    rw [answered, if_pos buried]
    exact congrArg some verdict
  · have kept : (corrupt bytes errors)[profile.crcOffset]? = some crc := by
      rw [corrupt_getElem? confined.length, stored, confined.checksum, Option.map_some,
        UInt8.xor_zero]
    have counted : ∃ counter, extractCounter (corrupt bytes errors) profile = .ok counter := by
      unfold extractCounter
      have inside : profile.counterOffset < (corrupt bytes errors).length := by
        rw [corrupt_length confined.length]
        unfold E2EProfileConfig.minLen at long
        omega
      rw [List.getElem?_eq_getElem inside]
      exact ⟨_, rfl⟩
    obtain ⟨counter, read⟩ := counted
    rw [if_neg buried]
    unfold Validator.validateRaw
    dsimp only
    rw [if_neg buried]
    unfold StreamRxState.examine extractCrc
    rw [if_neg (by rw [corrupt_length confined.length]; omega), kept, read, recomputed]
    dsimp only
    rw [if_pos (fun same => differs same.symm)]
    rfl

def plainProfile : E2EProfileConfig := ⟨{ profileType := .saeJ1850 }, by decide⟩

def evenPolynomial : E2EProfileConfig :=
  ⟨{ profileType := .custom, customPolynomial := 0x1C }, by decide⟩

/-- The last bit of one byte and the first of the next. -/
theorem straddling_confined :
    ConfinedBurst plainProfile [81, 0, 3, 4] [0, 0, 0x01, 0x80] where
  length := rfl
  burst := ⟨15, [true, true], 7, by decide, by decide, by decide⟩
  checksum := rfl
  counter := fun kind => nomatch kind

def evicted : Validator := Validator.fresh.recordTombstone ("can0", 0x123)

theorem burst_reported_samples :
    verdictOf (Validator.fresh.validateRaw ("can0", 0x123)
        (corrupt [81, 0, 3, 4] [0, 0, 0x01, 0x80]) plainProfile 4 0 0).2 = some .crcError ∧
      verdictOf (evicted.validateRaw ("can0", 0x123)
        (corrupt [81, 0, 3, 4] [0, 0, 0x01, 0x80]) plainProfile 4 0 0).2 = some .wrongSequence := by
  have reported (validator : Validator) := burst_reported plainProfile 0x1D rfl rfl ("can0", 0x123)
    [81, 0, 3, 4] [0, 0, 0x01, 0x80]
    (.payload Packager.fresh [1, 2, 3, 4] _ none none 0 81 (by decide)) straddling_confined
    validator 4 0 0
  exact ⟨(reported Validator.fresh).trans (by decide), (reported evicted).trans (by decide)⟩

/-- A burst that one shift takes to zero passes for a clean payload, and behind a tombstone no
checksum is looked at. -/
theorem even_polynomial_misses_burst :
    (SealedFor evenPolynomial ("can0", 0x123) [151, 0, 3, 4] ∧
        ConfinedBurst evenPolynomial [151, 0, 3, 4] [0, 0, 0, 0x8E] ∧
        verdictOf (Validator.fresh.validateRaw ("can0", 0x123)
          (corrupt [151, 0, 3, 4] [0, 0, 0, 0x8E]) evenPolynomial 4 0 0).2 = some .initial) ∧
      SealedFor plainProfile ("can0", 0x123) [81, 0, 3, 4] ∧
        ConfinedBurst plainProfile [81, 0, 3, 4] [0, 0, 0x01, 0x80] ∧
        verdictOf (evicted.validateRaw ("can0", 0x123)
          (corrupt [81, 0, 3, 4] [0, 0, 0x01, 0x80]) plainProfile 4 0 0).2 =
            some .wrongSequence := by
  have missed : ConfinedBurst evenPolynomial [151, 0, 3, 4] [0, 0, 0, 0x8E] :=
    { length := rfl
      burst := ⟨16, bitsOf [0x8E], 0, by decide, by decide, by decide⟩
      checksum := rfl
      counter := fun kind => nomatch kind }
  exact ⟨⟨.payload Packager.fresh [1, 2, 3, 4] _ none none 0 151 (by decide), missed, by decide⟩,
    .payload Packager.fresh [1, 2, 3, 4] _ none none 0 81 (by decide), straddling_confined,
    by decide⟩

end Ucanlab.Safety.E2E
