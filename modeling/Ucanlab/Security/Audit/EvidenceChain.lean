import Ucanlab.Core.CanFrame
import Ucanlab.Lib.StructFormat

/-!
The chain of evidence records: every record carries the hash of the one before it and a
keyed hash over its own fields. The keyed hash is a parameter. `struct.pack` refuses
numbers that do not fit in eight bytes without a sign.
-/

namespace Ucanlab.Audit

structure EvidenceEntry where
  sequence : Int
  timestampNs : Int
  payload : Bytes
  prevHash : Bytes
  entryHash : Bytes
  deriving DecidableEq, Repr

def genesisPrevHash : Bytes := List.replicate 32 0

inductive BrokenReason where
  | clockNotPositive
  | clockRollback
  | sequenceGap (index : Nat) (got : Int)
  | timestampRollback (index : Nat) (timestampNs lastTs : Int)
  | prevHashMismatch (index : Nat)
  | hmacMismatch (index : Nat)
  deriving DecidableEq, Repr

def BrokenReason.text : BrokenReason → String
  | clockNotPositive => "System clock provider returned non-positive timestamp"
  | clockRollback => "Clock rollback detected inside evidence chain"
  | sequenceGap index got =>
      s!"Evidence chain sequence gap at index {index}: expected {index}, got {got}"
  | timestampRollback index timestampNs lastTs =>
      s!"Evidence chain timestamp rollback at index {index}: {timestampNs} < {lastTs}"
  | prevHashMismatch index => s!"Evidence chain prev_hash mismatch at sequence {index}"
  | hmacMismatch index => s!"Evidence chain HMAC verification failed at sequence {index}"

inductive EvidenceError where
  | keyTooShort
  | latched
  | broken (reason : BrokenReason)
  | structError
  deriving DecidableEq, Repr

/-- The code of a security error; the error of `struct.pack` has none. -/
def EvidenceError.code : EvidenceError → Option String
  | keyTooShort => some "INSUFFICIENT_KEY_LENGTH"
  | latched => some "EVIDENCE_CHAIN_LATCHED"
  | broken _ => some "EVIDENCE_CHAIN_BROKEN"
  | structError => none

def EvidenceError.message : EvidenceError → String
  | keyTooShort => "Evidence chain secret key too short (<16 bytes)"
  | latched => "Cannot append to a broken evidence chain (fail-closed)."
  | broken reason => s!"Evidence chain integrity violation: {reason.text}"
  | structError => "int too large to convert"

/-- `struct.pack(">Q", value)`. -/
def packQ (value : Int) : Option Bytes :=
  if value < 0 ∨ 256 ^ 8 ≤ value then none
  else some (StructFormat.lowBytes 8 value.toNat).reverse

def entryMessage (prevHash : Bytes) (seq tsNs : Int) (payload : Bytes) : Option Bytes :=
  match packQ seq, packQ tsNs with
  | some packedSeq, some packedTs => some (prevHash ++ packedSeq ++ packedTs ++ payload)
  | _, _ => none

section Chain

variable (hmac : Bytes → Bytes → Bytes)

def computeEntryHash (key prevHash : Bytes) (seq tsNs : Int) (payload : Bytes) : Option Bytes :=
  (entryMessage prevHash seq tsNs payload).map (hmac key)

/-- The reasons stand for the critical log lines; the callback of the operator is called
after each of them, and what it raises is swallowed. -/
structure EvidenceChain where
  key : Bytes
  keyLength : 16 ≤ key.length
  entries : List EvidenceEntry := []
  isBroken : Bool := false
  alarms : List BrokenReason := []
  deriving DecidableEq

def createChain (secretKey : Bytes) : Except EvidenceError EvidenceChain :=
  if h : secretKey.length < 16 then .error .keyTooShort
  else .ok { key := secretKey, keyLength := Nat.le_of_not_lt h }

def EvidenceChain.triggerFailClosed (chain : EvidenceChain) (reason : BrokenReason) :
    EvidenceChain :=
  { chain with isBroken := true, alarms := chain.alarms ++ [reason] }

def headHash (start : Bytes) (entries : List EvidenceEntry) : Bytes :=
  (entries.getLast?.map EvidenceEntry.entryHash).getD start

def lastTimestamp (start : Int) (entries : List EvidenceEntry) : Int :=
  (entries.getLast?.map EvidenceEntry.timestampNs).getD start

def EvidenceChain.nextEntry (chain : EvidenceChain) (nowNs : Int)
    (payload prevHash entryHash : Bytes) : EvidenceEntry where
  sequence := chain.entries.length
  timestampNs := nowNs
  payload := payload
  prevHash := prevHash
  entryHash := entryHash

def EvidenceChain.seal (chain : EvidenceChain) (nowNs : Int) (payload prevHash : Bytes) :
    EvidenceChain × Except EvidenceError EvidenceEntry :=
  match computeEntryHash hmac chain.key prevHash chain.entries.length nowNs payload with
  | none => (chain, .error .structError)
  | some entryHash =>
      ({ chain with entries := chain.entries ++ [chain.nextEntry nowNs payload prevHash entryHash] },
        .ok (chain.nextEntry nowNs payload prevHash entryHash))

def EvidenceChain.append (chain : EvidenceChain) (nowNs : Int) (payload : Bytes) :
    EvidenceChain × Except EvidenceError EvidenceEntry :=
  if chain.isBroken then (chain, .error .latched)
  else if nowNs ≤ 0 then
    (chain.triggerFailClosed .clockNotPositive, .error (.broken .clockNotPositive))
  else
    match chain.entries.getLast? with
    | none => chain.seal hmac nowNs payload genesisPrevHash
    | some last =>
        if nowNs < last.timestampNs then
          (chain.triggerFailClosed .clockRollback, .error (.broken .clockRollback))
        else chain.seal hmac nowNs payload last.entryHash

def checkEntry (key : Bytes) (i : Nat) (expectedPrev : Bytes) (lastTs : Int)
    (entry : EvidenceEntry) : Option EvidenceError :=
  if entry.sequence ≠ i then some (.broken (.sequenceGap i entry.sequence))
  else if entry.timestampNs < lastTs then
    some (.broken (.timestampRollback i entry.timestampNs lastTs))
  else if entry.prevHash ≠ expectedPrev then some (.broken (.prevHashMismatch i))
  else
    match computeEntryHash hmac key entry.prevHash entry.sequence entry.timestampNs
      entry.payload with
    | none => some .structError
    | some recomputed =>
        if entry.entryHash ≠ recomputed then some (.broken (.hmacMismatch i)) else none

def verifyEntries (key : Bytes) (i : Nat) (expectedPrev : Bytes) (lastTs : Int) :
    List EvidenceEntry → Option EvidenceError
  | [] => none
  | entry :: rest =>
      match checkEntry hmac key i expectedPrev lastTs entry with
      | some error => some error
      | none => verifyEntries key (i + 1) entry.entryHash entry.timestampNs rest

/-- Only the errors that the loop raises itself latch the chain. -/
def EvidenceChain.verifyChain (chain : EvidenceChain) :
    EvidenceChain × Except EvidenceError Bool :=
  match verifyEntries hmac chain.key 0 genesisPrevHash (-1) chain.entries with
  | none => (chain, .ok true)
  | some (.broken reason) => (chain.triggerFailClosed reason, .error (.broken reason))
  | some error => (chain, .error error)

/-- The chain after calls of `append`, each with the reading of the clock and the payload;
calls that raise are passed over. -/
def EvidenceChain.appendAll (chain : EvidenceChain) (calls : List (Int × Bytes)) : EvidenceChain :=
  calls.foldl (fun grown call => (grown.append hmac call.1 call.2).1) chain

structure EntryOk (key : Bytes) (i : Nat) (expectedPrev : Bytes) (lastTs : Int)
    (entry : EvidenceEntry) : Prop where
  sequence : entry.sequence = i
  order : lastTs ≤ entry.timestampNs
  link : entry.prevHash = expectedPrev
  hash : computeEntryHash hmac key entry.prevHash entry.sequence entry.timestampNs entry.payload =
    some entry.entryHash

end Chain

variable {hmac : Bytes → Bytes → Bytes} {key expectedPrev : Bytes} {i : Nat} {lastTs : Int}
  {entry : EvidenceEntry} {entries kept rest : List EvidenceEntry}

@[simp]
theorem headHash_cons (start : Bytes) (entry : EvidenceEntry) (rest : List EvidenceEntry) :
    headHash start (entry :: rest) = headHash entry.entryHash rest := by
  unfold headHash
  rw [List.getLast?_cons]
  cases rest.getLast? with
  | none => rfl
  | some last => rfl

@[simp]
theorem lastTimestamp_cons (start : Int) (entry : EvidenceEntry) (rest : List EvidenceEntry) :
    lastTimestamp start (entry :: rest) = lastTimestamp entry.timestampNs rest := by
  unfold lastTimestamp
  rw [List.getLast?_cons]
  cases rest.getLast? with
  | none => rfl
  | some last => rfl

theorem checkEntry_none :
    checkEntry hmac key i expectedPrev lastTs entry = none ↔
      EntryOk hmac key i expectedPrev lastTs entry := by
  unfold checkEntry
  constructor
  · intro passes
    split at passes
    · cases passes
    · rename_i sequence
      split at passes
      · cases passes
      · rename_i order
        split at passes
        · cases passes
        · rename_i link
          split at passes
          · cases passes
          · rename_i recomputed hash
            split at passes
            · cases passes
            · rename_i equal
              refine ⟨not_not.mp sequence, Int.not_lt.mp order, not_not.mp link, ?_⟩
              rw [hash, not_not.mp equal]
  · rintro ⟨sequence, order, link, hash⟩
    rw [if_neg (not_not.mpr sequence), if_neg (Int.not_lt.mpr order), if_neg (not_not.mpr link),
      hash]
    exact if_neg (not_not.mpr rfl)

theorem verifyEntries_cons_ok (ok : EntryOk hmac key i expectedPrev lastTs entry) :
    verifyEntries hmac key i expectedPrev lastTs (entry :: rest) =
      verifyEntries hmac key (i + 1) entry.entryHash entry.timestampNs rest := by
  rw [verifyEntries, checkEntry_none.mpr ok]

theorem verifyEntries_cons_none :
    verifyEntries hmac key i expectedPrev lastTs (entry :: rest) = none ↔
      EntryOk hmac key i expectedPrev lastTs entry ∧
        verifyEntries hmac key (i + 1) entry.entryHash entry.timestampNs rest = none := by
  constructor
  · intro passes
    rw [verifyEntries] at passes
    cases checked : checkEntry hmac key i expectedPrev lastTs entry with
    | some error =>
        rw [checked] at passes
        cases passes
    | none =>
        rw [checked] at passes
        exact ⟨checkEntry_none.mp checked, passes⟩
  · rintro ⟨ok, passes⟩
    rw [verifyEntries_cons_ok ok, passes]

theorem verifyEntries_append
    (passes : verifyEntries hmac key i expectedPrev lastTs kept = none) :
    verifyEntries hmac key i expectedPrev lastTs (kept ++ rest) =
      verifyEntries hmac key (i + kept.length) (headHash expectedPrev kept)
        (lastTimestamp lastTs kept) rest := by
  induction kept generalizing i expectedPrev lastTs with
  | nil => rfl
  | cons first more ih =>
      obtain ⟨ok, later⟩ := verifyEntries_cons_none.mp passes
      rw [List.cons_append, verifyEntries_cons_ok ok, ih later, headHash_cons, lastTimestamp_cons,
        List.length_cons, Nat.add_right_comm, Nat.add_assoc]

theorem verifyEntries_append_none :
    verifyEntries hmac key i expectedPrev lastTs (kept ++ rest) = none ↔
      verifyEntries hmac key i expectedPrev lastTs kept = none ∧
        verifyEntries hmac key (i + kept.length) (headHash expectedPrev kept)
          (lastTimestamp lastTs kept) rest = none := by
  induction kept generalizing i expectedPrev lastTs with
  | nil => exact (and_iff_right rfl).symm
  | cons first more ih =>
      rw [List.cons_append, verifyEntries_cons_none, verifyEntries_cons_none, ih, headHash_cons,
        lastTimestamp_cons, List.length_cons, Nat.add_right_comm i 1, Nat.add_assoc i, and_assoc]

theorem verifyEntries_eq_some {error : EvidenceError} :
    verifyEntries hmac key i expectedPrev lastTs entries = some error ↔
      ∃ kept entry rest, entries = kept ++ entry :: rest ∧
        verifyEntries hmac key i expectedPrev lastTs kept = none ∧
        checkEntry hmac key (i + kept.length) (headHash expectedPrev kept)
          (lastTimestamp lastTs kept) entry = some error := by
  constructor
  · intro fails
    induction entries generalizing i expectedPrev lastTs with
    | nil => cases fails
    | cons first more ih =>
        cases checked : checkEntry hmac key i expectedPrev lastTs first with
        | some early =>
            rw [verifyEntries, checked] at fails
            cases fails
            exact ⟨[], first, more, rfl, rfl, checked⟩
        | none =>
            have ok := checkEntry_none.mp checked
            rw [verifyEntries_cons_ok ok] at fails
            obtain ⟨kept, entry, rest, rfl, passes, here⟩ := ih fails
            refine ⟨first :: kept, entry, rest, rfl, verifyEntries_cons_none.mpr ⟨ok, passes⟩, ?_⟩
            rw [headHash_cons, lastTimestamp_cons, List.length_cons, Nat.add_comm kept.length,
              ← Nat.add_assoc]
            exact here
  · rintro ⟨kept, entry, rest, rfl, passes, fails⟩
    rw [verifyEntries_append passes, verifyEntries, fails]

theorem EvidenceChain.seal_cases (hmac : Bytes → Bytes → Bytes) (chain : EvidenceChain)
    (nowNs : Int) (payload prevHash : Bytes) :
    (chain.seal hmac nowNs payload prevHash).1 = chain ∨
      ∃ entryHash,
        computeEntryHash hmac chain.key prevHash chain.entries.length nowNs payload =
          some entryHash ∧
        (chain.seal hmac nowNs payload prevHash).1 =
          { chain with
            entries := chain.entries ++ [chain.nextEntry nowNs payload prevHash entryHash] } := by
  unfold EvidenceChain.seal
  split
  · exact Or.inl rfl
  · rename_i entryHash hash
    exact Or.inr ⟨entryHash, hash, rfl⟩

theorem EvidenceChain.seal_passes {chain : EvidenceChain} {nowNs : Int} {payload prevHash : Bytes}
    (passes : verifyEntries hmac chain.key 0 genesisPrevHash (-1) chain.entries = none)
    (link : prevHash = headHash genesisPrevHash chain.entries)
    (order : lastTimestamp (-1) chain.entries ≤ nowNs) :
    (chain.seal hmac nowNs payload prevHash).1.key = chain.key ∧
      verifyEntries hmac chain.key 0 genesisPrevHash (-1)
        (chain.seal hmac nowNs payload prevHash).1.entries = none := by
  rcases chain.seal_cases hmac nowNs payload prevHash with same | ⟨entryHash, hash, grown⟩
  · rw [same]
    exact ⟨rfl, passes⟩
  · rw [grown]
    refine ⟨rfl, verifyEntries_append_none.mpr ⟨passes, ?_⟩⟩
    rw [Nat.zero_add, ← link]
    exact verifyEntries_cons_none.mpr ⟨⟨rfl, order, rfl, hash⟩, rfl⟩

theorem EvidenceChain.append_passes {chain : EvidenceChain}
    (passes : verifyEntries hmac chain.key 0 genesisPrevHash (-1) chain.entries = none)
    (nowNs : Int) (payload : Bytes) :
    (chain.append hmac nowNs payload).1.key = chain.key ∧
      verifyEntries hmac chain.key 0 genesisPrevHash (-1)
        (chain.append hmac nowNs payload).1.entries = none := by
  unfold EvidenceChain.append
  split
  · exact ⟨rfl, passes⟩
  · split
    · exact ⟨rfl, passes⟩
    · rename_i positive
      split
      · rename_i empty
        refine seal_passes passes ?_ ?_
        · rw [headHash, empty]
          rfl
        · rw [lastTimestamp, empty, Option.map_none, Option.getD_none]
          omega
      · rename_i last found
        split
        · exact ⟨rfl, passes⟩
        · rename_i forward
          refine seal_passes passes ?_ ?_
          · rw [headHash, found]
            rfl
          · rw [lastTimestamp, found]
            exact Int.not_lt.mp forward

theorem EvidenceChain.appendAll_passes {chain : EvidenceChain}
    (passes : verifyEntries hmac chain.key 0 genesisPrevHash (-1) chain.entries = none)
    (calls : List (Int × Bytes)) :
    (chain.appendAll hmac calls).key = chain.key ∧
      verifyEntries hmac chain.key 0 genesisPrevHash (-1) (chain.appendAll hmac calls).entries =
        none := by
  induction calls generalizing chain with
  | nil => exact ⟨rfl, passes⟩
  | cons call more ih =>
      obtain ⟨sameKey, grown⟩ := append_passes passes call.1 call.2
      rw [← sameKey] at grown ⊢
      exact ih grown

end Ucanlab.Audit
