import Mathlib.Data.Fintype.Basic
import Ucanlab.Core.PyText
import Ucanlab.Lib.EventRun
import Ucanlab.Lib.FileStore

/-!
Exports written to a scratch file and renamed onto their destination. Calls for one destination
run side by side; a step of a call is one operation on the files, and any step may fail. A text
is its encoding, and an encoding that fails is a write that fails.
-/

namespace Ucanlab.Exporters

open Ucanlab

/-- `_TMP_SUFFIX`. -/
def tmpSuffix : List Char := ".part".toList

/-- `final_path.with_name(final_path.name + _TMP_SUFFIX)`. -/
def tmpPath (finalPath : List Char) : List Char := finalPath ++ tmpSuffix

theorem tmpPath_ne (finalPath : List Char) : tmpPath finalPath ≠ finalPath := by
  intro same
  have lengths := congrArg List.length same
  unfold tmpPath at lengths
  rw [List.length_append] at lengths
  have suffix : tmpSuffix.length = 5 := rfl
  omega

inductive WritePhase where
  | idle
  | writing (file sent : Nat)
  | written (file : Nat)
  | failed
  | ended
  deriving DecidableEq, Repr

/-- One operation of a call. A parent directory that cannot be made ends it at once. -/
inductive WriteStep where
  | refuse
  | create
  | createFails
  | write (bytes : Nat)
  | writeFails
  | close
  | replace
  | replaceFails
  | unlink
  | unlinkFails
  deriving DecidableEq, Repr

structure ExportState (ι : Type) where
  files : FileStore (List Char) UInt8
  phase : ι → WritePhase

namespace ExportState

variable {ι : Type} [DecidableEq ι]

def enter (state : ExportState ι) (call : ι) (phase : WritePhase)
    (files : FileStore (List Char) UInt8) : ExportState ι :=
  { files := files, phase := Function.update state.phase call phase }

/-- One step of one call; `none` where its phase has no such step. -/
def step (finalPath : List Char) (content : ι → Bytes) (state : ExportState ι) :
    ι × WriteStep → Option (ExportState ι)
  | (call, action) =>
      match state.phase call, action with
      | .idle, .refuse => some (state.enter call .ended state.files)
      | .idle, .create =>
          let opened := state.files.truncate (tmpPath finalPath)
          some (state.enter call (.writing opened.1 0) opened.2)
      | .idle, .createFails => some (state.enter call .failed state.files)
      | .writing file sent, .write bytes =>
          if 0 < bytes ∧ sent + bytes ≤ (content call).length then
            some (state.enter call (.writing file (sent + bytes))
              (state.files.write 0x00 file sent (((content call).drop sent).take bytes)))
          else none
      | .writing _ _, .writeFails => some (state.enter call .failed state.files)
      | .writing file sent, .close =>
          if sent = (content call).length then
            some (state.enter call (.written file) state.files)
          else none
      | .written _, .replace =>
          match state.files.rename (tmpPath finalPath) finalPath with
          | none => some (state.enter call .failed state.files)
          | some files => some (state.enter call .ended files)
      | .written _, .replaceFails => some (state.enter call .failed state.files)
      | .failed, .unlink =>
          some (state.enter call .ended (state.files.unlink (tmpPath finalPath)))
      | .failed, .unlinkFails => some (state.enter call .ended state.files)
      | _, _ => none

def observed (finalPath : List Char) (state : ExportState ι) : Option Bytes :=
  state.files.read finalPath

end ExportState

def WritePhase.holds (content : Bytes) : WritePhase → Option (Nat × Bytes)
  | .writing file sent => some (file, content.take sent)
  | .written file => some (file, content)
  | .idle | .failed | .ended => none

open ExportState

section Runs

variable {ι : Type} [DecidableEq ι] {finalPath : List Char} {content : ι → Bytes}

/-- The scratch file is opened only while no other call is between its own opening and its
rename or its failure. -/
def Exclusive (content : ι → Bytes) (state : ExportState ι) (event : ι × WriteStep) : Prop :=
  event.2 = .create →
    ∀ other, other ≠ event.1 → (state.phase other).holds (content other) = none

instance [Fintype ι] (state : ExportState ι) (event : ι × WriteStep) :
    Decidable (Exclusive content state event) :=
  inferInstanceAs (Decidable (event.2 = .create →
    ∀ other, other ≠ event.1 → (state.phase other).holds (content other) = none))

def OldOrComplete (finalPath : List Char) (content : ι → Bytes) (before : Option Bytes)
    (state : ExportState ι) : Prop :=
  state.observed finalPath = before ∨
    ∃ call, state.observed finalPath = some (content call)

structure Sound (finalPath : List Char) (content : ι → Bytes) (before : Option Bytes)
    (state : ExportState ι) : Prop where
  seen : OldOrComplete finalPath content before state
  alone : ∀ first second, (state.phase first).holds (content first) ≠ none →
    (state.phase second).holds (content second) ≠ none → first = second
  scratch : ∀ call file bytes, (state.phase call).holds (content call) = some (file, bytes) →
    state.files.content file = bytes ∧ state.files.entry finalPath ≠ some file ∧
      ∀ other, state.files.entry (tmpPath finalPath) = some other → other = file

variable {before : Option Bytes} {state : ExportState ι} {call : ι}

theorem holds_enter_self (phase : WritePhase) (files : FileStore (List Char) UInt8) :
    ((state.enter call phase files).phase call).holds (content call) =
      phase.holds (content call) := by
  unfold enter
  dsimp only
  rw [Function.update_self]

theorem holds_enter_of_ne {other : ι} (apart : other ≠ call) (phase : WritePhase)
    (files : FileStore (List Char) UInt8) :
    ((state.enter call phase files).phase other).holds (content other) =
      (state.phase other).holds (content other) := by
  unfold enter
  dsimp only
  rw [Function.update_of_ne apart]

theorem OldOrComplete.enter (seen : OldOrComplete finalPath content before state)
    {files : FileStore (List Char) UInt8} (same : files.read finalPath = state.files.read finalPath)
    (phase : WritePhase) : OldOrComplete finalPath content before (state.enter call phase files) := by
  unfold OldOrComplete observed
  change files.read finalPath = before ∨ ∃ call, files.read finalPath = some (content call)
  rw [same]
  exact seen

theorem Sound.rest (sound : Sound finalPath content before state) {phase : WritePhase}
    (resting : phase.holds (content call) = none) {files : FileStore (List Char) UInt8}
    (seen : files.read finalPath = state.files.read finalPath)
    (kept : files.content = state.files.content)
    (final : files.entry finalPath = state.files.entry finalPath)
    (fewer : ∀ file, files.entry (tmpPath finalPath) = some file →
      state.files.entry (tmpPath finalPath) = some file) :
    Sound finalPath content before (state.enter call phase files) := by
  have working {other : ι}
      (holding : ((state.enter call phase files).phase other).holds (content other) ≠ none) :
      ((state.enter call phase files).phase other).holds (content other) =
        (state.phase other).holds (content other) := by
    by_cases same : other = call
    · rw [same, holds_enter_self] at holding
      exact absurd resting holding
    · exact holds_enter_of_ne same phase files
  constructor
  · exact sound.seen.enter seen phase
  · intro first second left right
    exact sound.alone first second (working left ▸ left) (working right ▸ right)
  · intro other file bytes holding
    have was := working (by rw [holding]; exact fun impossible => nomatch impossible)
    obtain ⟨content, apart, named⟩ := sound.scratch other file bytes (was.symm.trans holding)
    refine ⟨?_, ?_, fun scratch refers => named scratch (fewer scratch refers)⟩
    · change files.content file = bytes
      rw [kept]
      exact content
    · change files.entry finalPath ≠ some file
      rw [final]
      exact apart

theorem sound_of_alone {phase : WritePhase} {files : FileStore (List Char) UInt8}
    (idle : ∀ other, other ≠ call → (state.phase other).holds (content other) = none)
    (seen : OldOrComplete finalPath content before (state.enter call phase files))
    (scratch : ∀ file bytes, phase.holds (content call) = some (file, bytes) →
      files.content file = bytes ∧ files.entry finalPath ≠ some file ∧
        ∀ other, files.entry (tmpPath finalPath) = some other → other = file) :
    Sound finalPath content before (state.enter call phase files) := by
  have only {other : ι}
      (holding : ((state.enter call phase files).phase other).holds (content other) ≠ none) :
      other = call := by
    by_contra apart
    rw [holds_enter_of_ne apart] at holding
    exact holding (idle other apart)
  constructor
  · exact seen
  · intro first second left right
    exact (only left).trans (only right).symm
  · intro other file bytes holding
    have same : other = call :=
      only (by rw [holding]; exact fun impossible => nomatch impossible)
    rw [same, holds_enter_self] at holding
    exact scratch file bytes holding

omit [DecidableEq ι] in
theorem Sound.others (sound : Sound finalPath content before state)
    (working : (state.phase call).holds (content call) ≠ none) (other : ι)
    (apart : other ≠ call) : (state.phase other).holds (content other) = none := by
  by_contra holding
  exact apart (sound.alone other call holding working)

theorem write_part {files : FileStore (List Char) UInt8} {file sent bytes : Nat} {data : Bytes}
    (there : files.content file = data.take sent) (fits : sent + bytes ≤ data.length) :
    (files.write 0x00 file sent ((data.drop sent).take bytes)).content file =
      data.take (sent + bytes) := by
  have length : (data.take sent).length = sent := by
    rw [List.length_take]
    omega
  change Function.update files.content file _ file = _
  rw [Function.update_self, there]
  have appended := FileStore.overwrite_end 0x00 (data.take sent) ((data.drop sent).take bytes)
  rw [length] at appended
  rw [appended, List.take_add]

theorem Sound.step {next : ExportState ι} {event : ι × WriteStep}
    (sound : Sound finalPath content before state) (exclusive : Exclusive content state event)
    (stepped : state.step finalPath content event = some next) :
    Sound finalPath content before next := by
  obtain ⟨call, action⟩ := event
  have apart : finalPath ≠ tmpPath finalPath := (tmpPath_ne finalPath).symm
  have resting (phase : WritePhase) (resting : phase.holds (content call) = none) :
      Sound finalPath content before (state.enter call phase state.files) :=
    sound.rest resting rfl rfl rfl (fun _ refers => refers)
  unfold ExportState.step at stepped
  dsimp only at stepped
  cases here : state.phase call with
  | idle =>
      rw [here] at stepped
      cases action with
      | refuse =>
          cases stepped
          exact resting .ended rfl
      | create =>
          cases stepped
          obtain ⟨named, empty, others⟩ := state.files.truncate_spec (tmpPath finalPath)
          obtain ⟨_, unseen⟩ := others finalPath apart
          apply sound_of_alone (exclusive rfl) (sound.seen.enter unseen _)
          intro file bytes holding
          cases holding
          refine ⟨empty, ?_, ?_⟩
          · intro refers
            exact apart ((state.files.truncate (tmpPath finalPath)).2.unshared _ _ _ refers named)
          · intro other refers
            exact Option.some.inj (refers.symm.trans named)
      | createFails =>
          cases stepped
          exact resting .failed rfl
      | _ => cases stepped
  | writing file sent =>
      rw [here] at stepped
      have working : (state.phase call).holds (content call) ≠ none := by
        rw [here]
        exact fun impossible => nomatch impossible
      obtain ⟨there, unseen, scratch⟩ := sound.scratch call file ((content call).take sent)
        (by rw [here]; rfl)
      cases action with
      | write bytes =>
          dsimp only at stepped
          split at stepped
          · rename_i fits
            cases stepped
            apply sound_of_alone (sound.others working)
              (sound.seen.enter (FileStore.read_write_of_ne unseen _ _ _) _)
            intro other part holding
            cases holding
            exact ⟨write_part there fits.2, unseen, scratch⟩
          · cases stepped
      | writeFails =>
          cases stepped
          exact resting .failed rfl
      | close =>
          dsimp only at stepped
          split at stepped
          · rename_i all
            cases stepped
            apply sound_of_alone (sound.others working) (sound.seen.enter rfl _)
            intro other whole holding
            cases holding
            rw [all, List.take_length] at there
            exact ⟨there, unseen, scratch⟩
          · cases stepped
      | _ => cases stepped
  | written file =>
      rw [here] at stepped
      have working : (state.phase call).holds (content call) ≠ none := by
        rw [here]
        exact fun impossible => nomatch impossible
      obtain ⟨there, unseen, scratch⟩ := sound.scratch call file (content call)
        (by rw [here]; rfl)
      cases action with
      | replace =>
          dsimp only at stepped
          split at stepped
          · cases stepped
            exact resting .failed rfl
          · rename_i files renamed
            cases stepped
            obtain ⟨scratchFile, named, published, _, kept⟩ :=
              FileStore.rename_spec (tmpPath_ne finalPath) renamed
            apply sound_of_alone (sound.others working)
            · refine Or.inr ⟨call, ?_⟩
              change (files.entry finalPath).map files.content = some (content call)
              rw [published, kept, scratch scratchFile named]
              exact congrArg some there
            · intro other bytes impossible
              cases impossible
      | replaceFails =>
          cases stepped
          exact resting .failed rfl
      | _ => cases stepped
  | failed =>
      rw [here] at stepped
      cases action with
      | unlink =>
          cases stepped
          apply sound.rest rfl (FileStore.read_unlink_of_ne apart) rfl
            (FileStore.entry_unlink_of_ne apart)
          intro file refers
          rw [FileStore.entry_unlink_self] at refers
          cases refers
      | unlinkFails =>
          cases stepped
          exact resting .ended rfl
      | _ => cases stepped
  | ended =>
      rw [here] at stepped
      cases action with
      | _ => cases stepped

end Runs

/-- Whatever fails and whenever, the destination is seen with its previous content or with the
complete content of a call, where no call opens the scratch file while another is at work. -/
theorem export_old_or_complete {ι : Type} [DecidableEq ι] (finalPath : List Char)
    (content : ι → Bytes) {first last : ExportState ι} {events : List (ι × WriteStep)}
    (idle : ∀ call, first.phase call = .idle)
    (meets : EventRun.Meets (ExportState.step finalPath content) (Exclusive content) first events)
    (ran : EventRun.run (ExportState.step finalPath content) first events = some last) :
    OldOrComplete finalPath content (first.observed finalPath) last := by
  have start : Sound finalPath content (first.observed finalPath) first := by
    constructor
    · exact Or.inl rfl
    · intro call other working
      rw [idle call] at working
      exact absurd rfl working
    · intro call file bytes holding
      rw [idle call] at holding
      cases holding
  exact (EventRun.run_invariant_of_meets
    (fun state event next sound exclusive stepped => sound.step exclusive stepped)
    start meets ran).seen

/-! ## Two exports of one report -/

/-- An empty directory, and two calls that have not begun. -/
def twoExports : ExportState Bool where
  files := {
    entry := fun _ => none
    content := fun _ => []
    fresh := 0
    bounded := fun _ _ refers => nomatch refers
    unshared := fun _ _ _ refers => nomatch refers }
  phase := fun _ => .idle

def reportName : List Char := "report.kml".toList

def reports : Bool → Bytes
  | false => [0x41]
  | true => [0x42, 0x43]

def oneAfterOther : List (Bool × WriteStep) :=
  [(false, .create), (false, .write 1), (false, .close), (false, .replace), (true, .create),
    (true, .write 1), (true, .writeFails), (true, .unlink)]

theorem export_one_after_other :
    ∃ last, EventRun.run (ExportState.step reportName reports) twoExports oneAfterOther =
        some last ∧
      OldOrComplete reportName reports none last := by
  have performed : (EventRun.run (ExportState.step reportName reports) twoExports
      oneAfterOther).isSome = true := by
    decide +kernel
  have meets : EventRun.Meets (ExportState.step reportName reports) (Exclusive reports) twoExports
      oneAfterOther := by
    decide +kernel
  obtain ⟨last, ran⟩ := Option.isSome_iff_exists.mp performed
  exact ⟨last, ran, export_old_or_complete reportName reports (fun _ => rfl) meets ran⟩

def overlapping : List (Bool × WriteStep) :=
  [(false, .create), (false, .write 1), (false, .close), (true, .create), (true, .write 1),
    (false, .replace)]

/-- One call empties the scratch file of another behind its last write, and its own first byte
is published. -/
theorem overlapping_export_truncated :
    ¬ ∀ (content : Bool → Bytes) (first last : ExportState Bool)
      (events : List (Bool × WriteStep)), (∀ call, first.phase call = .idle) →
      EventRun.run (ExportState.step reportName content) first events = some last →
      OldOrComplete reportName content (first.observed reportName) last := by
  intro claimed
  have performed : ((EventRun.run (ExportState.step reportName reports) twoExports
      overlapping).map (ExportState.observed reportName)) = some (some [0x42]) := by
    decide +kernel
  obtain ⟨last, ran, published⟩ := Option.map_eq_some_iff.mp performed
  rcases claimed reports twoExports last overlapping (fun _ => rfl) ran with same | ⟨call, whole⟩
  · rw [published] at same
    cases same
  · rw [published] at whole
    cases call with
    | false => exact absurd whole (by decide)
    | true => exact absurd whole (by decide)

end Ucanlab.Exporters
