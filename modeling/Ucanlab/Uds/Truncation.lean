import Ucanlab.Uds.IntelHex
import Ucanlab.Uds.SRecord

/-!
Firmware texts of which only the first lines have arrived. The Intel HEX parser asks for
the record that ends the file; the S-Record parser does not, so that a cut text is refused
only where its remaining records contradict each other.
-/

namespace Ucanlab.Uds

open Ucanlab

inductive RecordFormat where
  | intelHex
  | sRecord
  deriving DecidableEq, Repr

namespace RecordFormat

def accepts : RecordFormat → List Char → FirmwareParseLimits → Option FirmwareContainer
  | .intelHex, content, limits => (IntelHex.parseString content limits).toOption
  | .sRecord, content, limits => (SRecord.parseString content limits).toOption

def isTerminator : RecordFormat → List Char → Bool
  | .intelHex, rawLine => (IntelHex.recordOf rawLine).any (fun raw => IntelHex.recordType raw == 1)
  | .sRecord, rawLine =>
      (SRecord.recordOf rawLine).any (fun record => SRecord.isTermination record.type)

/-- The text ends behind a line of the whole, and no line that is left ends the file. -/
structure Cuts (format : RecordFormat) (content cut : List Char) : Prop where
  start : cut <+: content
  lines : pySplitLines cut <+: pySplitLines content
  terminated : (pySplitLines content).any format.isTerminator = true
  unterminated : (pySplitLines cut).any format.isTerminator = false

/-- The records left are no image: there is no data, the count is another one, or the
chunks lie too far apart. -/
def contradicts (limits : FirmwareParseLimits) (records : List SRecord.SRecordLine) : Prop :=
  SRecord.dataChunks records = [] ∨
    (∃ declared, SRecord.lastCount records = some declared ∧
      declared ≠ (SRecord.dataChunks records).length) ∨
    (mergeAndValidateChunks (SRecord.dataChunks records) limits).toOption = none

def notices (limits : FirmwareParseLimits) : RecordFormat → List Char → Prop
  | .intelHex, _ => True
  | .sRecord, cut => contradicts limits (SRecord.recordsOf (pySplitLines cut))

end RecordFormat

section IntelHexEnd

open IntelHex

variable {state next last : IntelHexState} {line number : Nat} {raw : Bytes}
  {limits : FirmwareParseLimits} {rawLine : List Char} {lines : List (List Char)}

theorem applyRecord_seenEof (ok : applyRecord state line raw = .ok next) :
    next.seenEof = (state.seenEof || recordType raw == 1) := by
  unfold applyRecord at ok
  dsimp only at ok
  split at ok
  · rename_i type
    split at ok
    · cases ok
    · cases ok
      simp [type]
  · rename_i type
    split at ok
    · cases ok
    · split at ok
      · cases ok
      · cases ok
        simp [type]
  · rename_i type
    split at ok
    · cases ok
    · split at ok
      · cases ok
      · cases ok
        simp [type]
  · rename_i type
    split at ok
    · cases ok
    · split at ok
      · cases ok
      · cases ok
        simp [type]
  · rename_i type
    split at ok
    · cases ok
    · split at ok
      · cases ok
      · cases ok
        simp [type]
  · cases ok

theorem parseLine_seenEof (ok : parseLine limits state number rawLine = .ok next) :
    next.seenEof = (state.seenEof || RecordFormat.intelHex.isTerminator rawLine) := by
  have shape : RecordFormat.intelHex.isTerminator rawLine =
      (recordOf rawLine).any (fun raw => recordType raw == 1) := rfl
  rw [shape]
  unfold parseLine at ok
  split at ok
  · rename_i blank
    cases ok
    have none : recordOf rawLine = none := by
      unfold recordOf
      rw [blank]
    rw [none]
    exact (Bool.or_false _).symm
  · rename_i first digits stripped
    split at ok
    · cases ok
    · split at ok
      · cases ok
      · split at ok
        · cases ok
        · rename_i raw decoded
          rw [recordOf_of_stripped stripped decoded]
          unfold parseRecord at ok
          split at ok
          · cases ok
          · split at ok
            · cases ok
            · split at ok
              · cases ok
              · exact applyRecord_seenEof ok

theorem parseLines_seenEof (ok : parseLines limits state number lines = .ok last) :
    last.seenEof = (state.seenEof || lines.any RecordFormat.intelHex.isTerminator) := by
  induction lines generalizing state number with
  | nil =>
      cases ok
      exact (Bool.or_false _).symm
  | cons rawLine rest ih =>
      unfold parseLines at ok
      split at ok
      · cases ok
      · rename_i next parsed
        rw [ih ok, parseLine_seenEof parsed, List.any_cons, Bool.or_assoc]

theorem parseString_unterminated {cut : List Char}
    (unterminated : (pySplitLines cut).any RecordFormat.intelHex.isTerminator = false) :
    (parseString cut limits).toOption = none := by
  unfold parseString
  dsimp only
  split
  · rfl
  · split
    · rfl
    · split
      · rfl
      · rename_i last parsed
        have seen := parseLines_seenEof parsed
        rw [unterminated] at seen
        have missing : ¬ last.seenEof = true := by
          rw [seen]
          decide
        rw [if_pos missing]
        rfl

end IntelHexEnd

section SRecordEnd

open SRecord

variable {content cut : List Char} {limits : FirmwareParseLimits} {container : FirmwareContainer}

theorem any_recordsOf (lines : List (List Char)) :
    (recordsOf lines).any (fun record => isTermination record.type) =
      lines.any RecordFormat.sRecord.isTerminator := by
  induction lines with
  | nil => rfl
  | cons rawLine rest ih =>
      have shape : RecordFormat.sRecord.isTerminator rawLine =
          (recordOf rawLine).any (fun record => isTermination record.type) := rfl
      rw [List.any_cons, ← ih, shape]
      unfold recordsOf
      rw [List.filterMap_cons]
      cases recordOf rawLine with
      | none => rfl
      | some record => rfl

theorem parseLines_cut (accepted : SRecord.parseString content limits = .ok container)
    (cuts : RecordFormat.sRecord.Cuts content cut) :
    ∃ state, parseLines limits {} 1 (pySplitLines cut) = .ok state ∧
      SRecord.parseString cut limits = finish limits state := by
  obtain ⟨back, split⟩ := cuts.lines
  have shorter := cuts.start.length_le
  have fewer := cuts.lines.length_le
  unfold SRecord.parseString at accepted ⊢
  dsimp only at accepted ⊢
  split at accepted
  · cases accepted
  · rename_i size
    split at accepted
    · cases accepted
    · rename_i count
      split at accepted
      · cases accepted
      · rename_i whole parsed
        rw [← split] at parsed
        obtain ⟨state, front⟩ := parseLines_append parsed
        refine ⟨state, front, ?_⟩
        rw [if_neg (by omega), if_neg (by omega), front]

theorem finish_refused_iff {state : SRecordState} {records : List SRecordLine}
    (applies : Applies {} records state)
    (unterminated : records.any (fun record => isTermination record.type) = false) :
    (finish limits state).toOption = none ↔ RecordFormat.contradicts limits records := by
  have chunks : state.rawChunks = dataChunks records := applies.chunks
  have counted : state.dataRecordCount = (dataChunks records).length :=
    applies.counted.trans (Nat.zero_add _)
  have declared : state.s5Count = lastCount records := applies.declared.trans Option.or_none
  have entry : state.entryPoint = none := applies.entry unterminated
  have built : (finish.build limits state).toOption = none ↔ dataChunks records = [] ∨
      (mergeAndValidateChunks (dataChunks records) limits).toOption = none := by
    unfold finish.build
    rw [chunks, entry]
    by_cases empty : dataChunks records = []
    · rw [if_pos ⟨empty, rfl⟩]
      exact iff_of_true rfl (Or.inl empty)
    · rw [if_neg (fun both => empty both.1)]
      cases mergeAndValidateChunks (dataChunks records) limits with
      | error error => exact iff_of_true rfl (Or.inr rfl)
      | ok segments => exact iff_of_false nofun (fun either => either.elim empty nofun)
  unfold finish RecordFormat.contradicts
  rw [declared, counted]
  cases found : lastCount records with
  | none =>
      dsimp only
      rw [built]
      simp
  | some number =>
      dsimp only
      by_cases mismatch : number ≠ (dataChunks records).length
      · rw [if_pos mismatch]
        exact iff_of_true rfl (Or.inr (Or.inl ⟨number, rfl, mismatch⟩))
      · rw [if_neg mismatch, built]
        constructor
        · rintro (empty | refused)
          · exact Or.inl empty
          · exact Or.inr (Or.inr refused)
        · rintro (empty | ⟨other, same, differs⟩ | refused)
          · exact Or.inl empty
          · cases same
            exact absurd differs mismatch
          · exact Or.inr refused

theorem sRecord_cut_refused_iff (accepted : SRecord.parseString content limits = .ok container)
    (cuts : RecordFormat.sRecord.Cuts content cut) :
    (SRecord.parseString cut limits).toOption = none ↔
      RecordFormat.contradicts limits (recordsOf (pySplitLines cut)) := by
  obtain ⟨state, parsed, ends⟩ := parseLines_cut accepted cuts
  rw [ends]
  refine finish_refused_iff (parseLines_ok parsed) ?_
  rw [any_recordsOf]
  exact cuts.unterminated

end SRecordEnd

/-- A text without its last record is refused exactly where the format notices the cut. -/
theorem cut_refused_iff {format : RecordFormat} {content cut : List Char}
    {limits : FirmwareParseLimits} {container : FirmwareContainer}
    (accepted : format.accepts content limits = some container)
    (cuts : format.Cuts content cut) :
    format.accepts cut limits = none ↔ format.notices limits cut := by
  cases format with
  | intelHex => exact iff_of_true (parseString_unterminated cuts.unterminated) trivial
  | sRecord =>
      change (SRecord.parseString content limits).toOption = some container at accepted
      cases parsed : SRecord.parseString content limits with
      | error error =>
          rw [parsed] at accepted
          cases accepted
      | ok image => exact sRecord_cut_refused_iff parsed cuts

def countedText : List Char := "S10500000102F7\nS5030001FB\nS9030000FC".toList

def countedCut : List Char := "S10500000102F7\n".toList

def startOnly : List Char := "S0030000FC\nS9030000FC".toList

/-- A cut behind the header leaves no data. -/
theorem cut_refused_iff_header :
    RecordFormat.sRecord.accepts "S0030000FC\n".toList defaultFirmwareLimits = none ↔
      RecordFormat.sRecord.notices defaultFirmwareLimits "S0030000FC\n".toList := by
  have accepted : RecordFormat.sRecord.accepts startOnly defaultFirmwareLimits =
      some ⟨[], some 0, "s_record"⟩ := by decide
  exact cut_refused_iff accepted ⟨by decide, by decide, by decide, by decide⟩

/-- A cut behind the data record leaves an image that is taken for the whole one. -/
theorem cut_image_accepted : ¬ ∀ (format : RecordFormat) (content cut : List Char)
    (limits : FirmwareParseLimits) (container : FirmwareContainer),
    format.accepts content limits = some container → format.Cuts content cut →
      format.accepts cut limits = none := by
  intro always
  have accepted : RecordFormat.sRecord.accepts countedText defaultFirmwareLimits =
      some ⟨[⟨0, [0x01, 0x02]⟩], some 0, "s_record"⟩ := by decide
  have refused := always .sRecord countedText countedCut defaultFirmwareLimits _ accepted
    ⟨by decide, by decide, by decide, by decide⟩
  have kept : RecordFormat.sRecord.accepts countedCut defaultFirmwareLimits =
      some ⟨[⟨0, [0x01, 0x02]⟩], none, "s_record"⟩ := by decide
  rw [kept] at refused
  cases refused

end Ucanlab.Uds
