import Ucanlab.Security.Audit.EvidenceChain

/-!
Edits of the stored entries against the verification of the chain. Without the key an
editor can only put tags into the entries that the chain has issued; then what passes is
exactly a prefix of the chain.
-/

namespace Ucanlab.Audit

variable {hmac : Bytes → Bytes → Bytes} {key : Bytes} {original tampered kept : List EvidenceEntry}
  {entry : EvidenceEntry}

def EvidenceEntry.message (entry : EvidenceEntry) : Option Bytes :=
  entryMessage entry.prevHash entry.sequence entry.timestampNs entry.payload

/-- Every valid tag in the edited list is over a message that the chain has sealed. -/
def Unforgeable (hmac : Bytes → Bytes → Bytes) (key : Bytes)
    (original tampered : List EvidenceEntry) : Prop :=
  ∀ entry ∈ tampered, entry.message.map (hmac key) = some entry.entryHash →
    ∃ issued ∈ original, issued.message = entry.message

def Packable (entry : EvidenceEntry) : Prop :=
  (0 ≤ entry.sequence ∧ entry.sequence < 256 ^ 8) ∧
    0 ≤ entry.timestampNs ∧ entry.timestampNs < 256 ^ 8

/-- Behind a prefix of the chain comes an entry with the right number and link that cannot
be packed, and whose time does not go back. -/
def GoesOnUnpackable (original tampered : List EvidenceEntry) : Prop :=
  ∃ (kept : List EvidenceEntry) (entry : EvidenceEntry) (rest : List EvidenceEntry),
    tampered = kept ++ entry :: rest ∧ kept <+: original ∧
    entry.sequence = kept.length ∧ lastTimestamp (-1) kept ≤ entry.timestampNs ∧
    entry.prevHash = headHash genesisPrevHash kept ∧ ¬ Packable entry

def Detects (hmac : Bytes → Bytes → Bytes) (chain : EvidenceChain) : Prop :=
  ∃ reason, (chain.verifyChain hmac).2 = .error (.broken reason) ∧
    (chain.verifyChain hmac).1.isBroken = true

section Messages

theorem packQ_eq_none {value : Int} : packQ value = none ↔ ¬ (0 ≤ value ∧ value < 256 ^ 8) := by
  unfold packQ
  split
  · rename_i outside
    exact ⟨fun _ => by omega, fun _ => rfl⟩
  · rename_i inside
    exact ⟨nofun, fun outside => absurd (by omega) outside⟩

theorem packQ_spec {value : Int} {raw : Bytes} (packed : packQ value = some raw) :
    raw.length = 8 ∧ (StructFormat.lowValue raw.reverse : Int) = value := by
  unfold packQ at packed
  split at packed
  · cases packed
  · rename_i inside
    cases packed
    rw [List.length_reverse, StructFormat.lowBytes_length, List.reverse_reverse]
    exact ⟨rfl, StructFormat.lowValue_toNat (by omega) (by omega)⟩

theorem message_eq_none : entry.message = none ↔ ¬ Packable entry := by
  unfold EvidenceEntry.message entryMessage Packable
  have sequence := @packQ_eq_none entry.sequence
  have timestamp := @packQ_eq_none entry.timestampNs
  cases packedSeq : packQ entry.sequence with
  | none => exact ⟨fun _ packable => sequence.mp packedSeq packable.1, fun _ => rfl⟩
  | some rawSeq =>
      cases packedTs : packQ entry.timestampNs with
      | none => exact ⟨fun _ packable => timestamp.mp packedTs packable.2, fun _ => rfl⟩
      | some rawTs =>
          rw [packedSeq] at sequence
          rw [packedTs] at timestamp
          simp only [reduceCtorEq, false_iff, not_not] at sequence timestamp
          exact ⟨nofun, fun wide => absurd ⟨sequence, timestamp⟩ wide⟩

theorem message_cases {message : Bytes} (packed : entry.message = some message) :
    ∃ rawSeq rawTs, packQ entry.sequence = some rawSeq ∧ packQ entry.timestampNs = some rawTs ∧
      message = entry.prevHash ++ rawSeq ++ rawTs ++ entry.payload := by
  unfold EvidenceEntry.message entryMessage at packed
  split at packed
  · rename_i rawSeq rawTs packedSeq packedTs
    exact ⟨rawSeq, rawTs, packedSeq, packedTs, (Option.some.inj packed).symm⟩
  · cases packed

theorem fields_of_message {other : EvidenceEntry} {message : Bytes}
    (packed : entry.message = some message) (same : other.message = entry.message)
    (sameLength : other.prevHash.length = entry.prevHash.length) :
    other.prevHash = entry.prevHash ∧ other.sequence = entry.sequence ∧
      other.timestampNs = entry.timestampNs ∧ other.payload = entry.payload := by
  obtain ⟨rawSeq, rawTs, packedSeq, packedTs, rfl⟩ := message_cases packed
  obtain ⟨otherSeq, otherTs, packedOtherSeq, packedOtherTs, equal⟩ :=
    message_cases (same.trans packed)
  have seqSpec := packQ_spec packedSeq
  have tsSpec := packQ_spec packedTs
  have otherSeqSpec := packQ_spec packedOtherSeq
  have otherTsSpec := packQ_spec packedOtherTs
  simp only [List.append_assoc] at equal
  obtain ⟨samePrev, behindPrev⟩ := List.append_inj equal.symm sameLength
  obtain ⟨sameSeq, behindSeq⟩ := List.append_inj behindPrev (otherSeqSpec.1.trans seqSpec.1.symm)
  obtain ⟨sameTs, samePayload⟩ := List.append_inj behindSeq (otherTsSpec.1.trans tsSpec.1.symm)
  refine ⟨samePrev, ?_, ?_, samePayload⟩
  · rw [← seqSpec.2, ← otherSeqSpec.2, sameSeq]
  · rw [← tsSpec.2, ← otherTsSpec.2, sameTs]

end Messages

section Prefixes

theorem entryOk_of_verifyEntries {entries : List EvidenceEntry} {i : Nat} {expectedPrev : Bytes}
    {lastTs : Int} (passes : verifyEntries hmac key i expectedPrev lastTs entries = none)
    {index : Nat} (found : entries[index]? = some entry) :
    EntryOk hmac key (i + index) (headHash expectedPrev (entries.take index))
      (lastTimestamp lastTs (entries.take index)) entry := by
  induction entries generalizing i expectedPrev lastTs index with
  | nil => cases found
  | cons first rest ih =>
      obtain ⟨ok, later⟩ := verifyEntries_cons_none.mp passes
      cases index with
      | zero =>
          rw [List.getElem?_cons_zero, Option.some.injEq] at found
          subst found
          exact ok
      | succ place =>
          rw [List.getElem?_cons_succ] at found
          have there := ih later found
          rw [List.take_succ_cons, headHash_cons, lastTimestamp_cons, Nat.add_comm place,
            ← Nat.add_assoc]
          exact there

theorem EntryOk.tag {i : Nat} {expectedPrev : Bytes} {lastTs : Int}
    (ok : EntryOk hmac key i expectedPrev lastTs entry) :
    entry.message.map (hmac key) = some entry.entryHash := ok.hash

theorem EntryOk.prevHash_length (digest : ∀ key message, (hmac key message).length = 32)
    {entries : List EvidenceEntry}
    (passes : verifyEntries hmac key 0 genesisPrevHash (-1) entries = none) {index : Nat}
    (found : entries[index]? = some entry) : entry.prevHash.length = 32 := by
  have ok := entryOk_of_verifyEntries passes found
  rw [ok.link]
  unfold headHash
  cases before : (entries.take index).getLast? with
  | none => exact List.length_replicate
  | some last =>
      have member := List.mem_of_mem_take (List.mem_of_getLast? before)
      obtain ⟨place, there⟩ := List.mem_iff_getElem?.mp member
      have tag := (entryOk_of_verifyEntries passes there).tag
      obtain ⟨message, _, equal⟩ := Option.map_eq_some_iff.mp tag
      rw [Option.map_some, Option.getD_some, ← equal]
      exact digest key message

theorem eq_of_issued (digest : ∀ key message, (hmac key message).length = 32)
    (sealed : verifyEntries hmac key 0 genesisPrevHash (-1) original = none)
    (passes : verifyEntries hmac key 0 genesisPrevHash (-1) tampered = none)
    (unforgeable : Unforgeable hmac key original tampered) {index : Nat}
    (found : tampered[index]? = some entry) : original[index]? = some entry := by
  have ok := entryOk_of_verifyEntries passes found
  obtain ⟨issued, member, same⟩ := unforgeable entry (List.mem_of_getElem? found) ok.tag
  obtain ⟨place, there⟩ := List.mem_iff_getElem?.mp member
  have issuedOk := entryOk_of_verifyEntries sealed there
  obtain ⟨message, packed, tagged⟩ := Option.map_eq_some_iff.mp ok.tag
  have lengths : issued.prevHash.length = entry.prevHash.length :=
    (EntryOk.prevHash_length digest sealed there).trans
      (EntryOk.prevHash_length digest passes found).symm
  obtain ⟨samePrev, sameSeq, sameTs, samePayload⟩ := fields_of_message packed same lengths
  have samePlace : place = index := by
    have numbered := sameSeq
    rw [ok.sequence, issuedOk.sequence] at numbered
    omega
  have sameTag : issued.entryHash = entry.entryHash := by
    have own := issuedOk.tag
    rw [same, ok.tag] at own
    exact (Option.some.inj own).symm
  have sameEntry : issued = entry := by
    cases issued
    cases entry
    simp only at samePrev sameSeq sameTs samePayload sameTag
    rw [samePrev, sameSeq, sameTs, samePayload, sameTag]
  rw [← samePlace, there, sameEntry]

/-- Of the lists an editor can make, exactly the prefixes of the chain pass. -/
theorem verifyEntries_none_iff (digest : ∀ key message, (hmac key message).length = 32)
    (sealed : verifyEntries hmac key 0 genesisPrevHash (-1) original = none)
    (unforgeable : Unforgeable hmac key original tampered) :
    verifyEntries hmac key 0 genesisPrevHash (-1) tampered = none ↔ tampered <+: original := by
  constructor
  · intro passes
    rw [List.prefix_iff_getElem?]
    intro index inside
    exact eq_of_issued digest sealed passes unforgeable (List.getElem?_eq_getElem inside)
  · rintro ⟨rest, rfl⟩
    exact (verifyEntries_append_none.mp sealed).1

theorem checkEntry_structError {i : Nat} {expectedPrev : Bytes} {lastTs : Int} :
    checkEntry hmac key i expectedPrev lastTs entry = some .structError ↔
      entry.sequence = i ∧ lastTs ≤ entry.timestampNs ∧ entry.prevHash = expectedPrev ∧
        ¬ Packable entry := by
  have unpacked : computeEntryHash hmac key entry.prevHash entry.sequence entry.timestampNs
      entry.payload = none ↔ ¬ Packable entry := by
    rw [← message_eq_none]
    exact Option.map_eq_none_iff
  unfold checkEntry
  constructor
  · intro fails
    split at fails
    · cases fails
    · rename_i sequence
      split at fails
      · cases fails
      · rename_i order
        split at fails
        · cases fails
        · rename_i link
          split at fails
          · rename_i none
            exact ⟨not_not.mp sequence, Int.not_lt.mp order, not_not.mp link, unpacked.mp none⟩
          · split at fails
            · cases fails
            · cases fails
  · rintro ⟨sequence, order, link, wide⟩
    rw [if_neg (not_not.mpr sequence), if_neg (Int.not_lt.mpr order), if_neg (not_not.mpr link),
      unpacked.mpr wide]

theorem Unforgeable.subset (unforgeable : Unforgeable hmac key original tampered)
    (part : ∀ entry ∈ kept, entry ∈ tampered) : Unforgeable hmac key original kept :=
  fun entry member tagged => unforgeable entry (part entry member) tagged

theorem verifyEntries_structError_iff (digest : ∀ key message, (hmac key message).length = 32)
    (sealed : verifyEntries hmac key 0 genesisPrevHash (-1) original = none)
    (unforgeable : Unforgeable hmac key original tampered) :
    verifyEntries hmac key 0 genesisPrevHash (-1) tampered = some .structError ↔
      GoesOnUnpackable original tampered := by
  rw [verifyEntries_eq_some]
  have kept_iff {kept : List EvidenceEntry} {entry : EvidenceEntry} {rest : List EvidenceEntry}
      (split : tampered = kept ++ entry :: rest) :=
    verifyEntries_none_iff digest sealed (@Unforgeable.subset hmac key original tampered kept
      unforgeable (fun one member => split ▸ List.mem_append_left _ member))
  constructor
  · rintro ⟨kept, entry, rest, split, passes, fails⟩
    rw [Nat.zero_add, checkEntry_structError] at fails
    obtain ⟨sequence, order, link, wide⟩ := fails
    exact ⟨kept, entry, rest, split, (kept_iff split).mp passes, sequence, order, link, wide⟩
  · rintro ⟨kept, entry, rest, split, starts, sequence, order, link, wide⟩
    refine ⟨kept, entry, rest, split, (kept_iff split).mpr starts, ?_⟩
    rw [Nat.zero_add, checkEntry_structError]
    exact ⟨sequence, order, link, wide⟩

end Prefixes

theorem verifyEntries_error {i : Nat} {expectedPrev : Bytes} {lastTs : Int} {error : EvidenceError}
    {entries : List EvidenceEntry}
    (fails : verifyEntries hmac key i expectedPrev lastTs entries = some error) :
    error = .structError ∨ ∃ reason, error = .broken reason := by
  obtain ⟨kept, entry, rest, _, _, here⟩ := verifyEntries_eq_some.mp fails
  unfold checkEntry at here
  split at here
  · exact Or.inr ⟨_, (Option.some.inj here).symm⟩
  · split at here
    · exact Or.inr ⟨_, (Option.some.inj here).symm⟩
    · split at here
      · exact Or.inr ⟨_, (Option.some.inj here).symm⟩
      · split at here
        · exact Or.inl (Option.some.inj here).symm
        · split at here
          · exact Or.inr ⟨_, (Option.some.inj here).symm⟩
          · cases here

theorem detects_iff {chain : EvidenceChain} :
    Detects hmac chain ↔
      verifyEntries hmac chain.key 0 genesisPrevHash (-1) chain.entries ≠ none ∧
        verifyEntries hmac chain.key 0 genesisPrevHash (-1) chain.entries ≠ some .structError := by
  unfold Detects EvidenceChain.verifyChain
  cases outcome : verifyEntries hmac chain.key 0 genesisPrevHash (-1) chain.entries with
  | none => simp
  | some error =>
      rcases verifyEntries_error outcome with rfl | ⟨reason, rfl⟩
      · simp
      · simp [EvidenceChain.triggerFailClosed]

/-- A chain built by appends verifies, and an edit of its entries is detected unless it
only cuts the chain off, or goes on behind a prefix with an entry that cannot be packed. -/
theorem edit_detected_iff (hmac : Bytes → Bytes → Bytes)
    (digest : ∀ key message, (hmac key message).length = 32) {secretKey : Bytes}
    {chain : EvidenceChain} (created : createChain secretKey = .ok chain)
    (calls : List (Int × Bytes)) :
    (chain.appendAll hmac calls).verifyChain hmac = (chain.appendAll hmac calls, .ok true) ∧
      ∀ tampered, tampered ≠ (chain.appendAll hmac calls).entries →
        Unforgeable hmac secretKey (chain.appendAll hmac calls).entries tampered →
        (Detects hmac { chain.appendAll hmac calls with entries := tampered } ↔
          ¬ tampered <+: (chain.appendAll hmac calls).entries ∧
            ¬ GoesOnUnpackable (chain.appendAll hmac calls).entries tampered) := by
  have fresh : chain.key = secretKey ∧ chain.entries = [] := by
    unfold createChain at created
    split at created
    · cases created
    · cases created
      exact ⟨rfl, rfl⟩
  have empty : verifyEntries hmac chain.key 0 genesisPrevHash (-1) chain.entries = none := by
    rw [fresh.2]
    rfl
  obtain ⟨sameKey, passes⟩ := EvidenceChain.appendAll_passes empty calls
  constructor
  · unfold EvidenceChain.verifyChain
    rw [sameKey, passes]
  · intro tampered _ unforgeable
    rw [detects_iff]
    dsimp only
    rw [sameKey]
    rw [← fresh.1] at unforgeable
    rw [Ne, Ne, verifyEntries_none_iff digest passes unforgeable,
      verifyEntries_structError_iff digest passes unforgeable]

def lastBytes (_key message : Bytes) : Bytes := StructFormat.packBytes 32 message.reverse

theorem lastBytes_length (key message : Bytes) : (lastBytes key message).length = 32 :=
  StructFormat.packBytes_length 32 message.reverse

def sampleKey : Bytes := List.replicate 16 1

def newChain : EvidenceChain := { key := sampleKey, keyLength := by decide }

def twoRecords : EvidenceChain := newChain.appendAll lastBytes [(1, [5]), (2, [6])]

def changedRecord : List EvidenceEntry :=
  (twoRecords.entries.take 1).map (fun entry => { entry with payload := [7] })

theorem edit_detected_iff_changedRecord :
    Detects lastBytes { twoRecords with entries := changedRecord } := by
  have detected := (@edit_detected_iff lastBytes lastBytes_length sampleKey newChain rfl
    [(1, [5]), (2, [6])]).2 changedRecord (by decide +kernel)
    (by
      intro entry member tagged
      obtain rfl := List.mem_singleton.mp member
      exact absurd tagged (by decide +kernel))
  refine detected.mpr ⟨by decide +kernel, ?_⟩
  rintro ⟨kept, entry, rest, split, _, _, _, _, wide⟩
  cases kept with
  | nil =>
      obtain ⟨rfl, _⟩ := List.cons.inj split
      exact wide (by unfold Packable; decide +kernel)
  | cons first more =>
      have long := congrArg List.length split
      have one : changedRecord.length = 1 := by decide +kernel
      rw [one, List.length_append, List.length_cons, List.length_cons] at long
      omega

/-- The chain without its last record still verifies. -/
theorem cut_chain_not_detected :
    (twoRecords.entries.take 1) ≠ twoRecords.entries ∧
      Unforgeable lastBytes sampleKey twoRecords.entries (twoRecords.entries.take 1) ∧
      ¬ Detects lastBytes { twoRecords with entries := twoRecords.entries.take 1 } := by
  refine ⟨by decide +kernel, ?_, ?_⟩
  · intro entry member _
    exact ⟨entry, List.mem_of_mem_take member, rfl⟩
  · rintro ⟨reason, error, _⟩
    have passes : (EvidenceChain.verifyChain lastBytes
      { twoRecords with entries := twoRecords.entries.take 1 }).2.isOk = true := by decide +kernel
    rw [error] at passes
    cases passes

end Ucanlab.Audit
