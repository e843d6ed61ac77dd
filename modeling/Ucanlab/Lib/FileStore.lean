import Mathlib.Data.List.Basic

/-!
A directory of files: names refer to files, and a file keeps its content under every name and
handle. A file may have one name at most.
-/

namespace Ucanlab

structure FileStore (Name Byte : Type) where
  entry : Name → Option Nat
  content : Nat → List Byte
  fresh : Nat
  bounded : ∀ name file, entry name = some file → file < fresh
  unshared : ∀ first second file, entry first = some file → entry second = some file → first = second

namespace FileStore

variable {Name Byte : Type} [DecidableEq Name]

def read (store : FileStore Name Byte) (name : Name) : Option (List Byte) :=
  (store.entry name).map store.content

def overwrite (hole : Byte) (content : List Byte) (offset : Nat) (bytes : List Byte) : List Byte :=
  content.take offset ++ List.replicate (offset - content.length) hole ++ bytes ++
    content.drop (offset + bytes.length)

def write (hole : Byte) (store : FileStore Name Byte) (file offset : Nat) (bytes : List Byte) :
    FileStore Name Byte :=
  { store with
    content := Function.update store.content file
      (overwrite hole (store.content file) offset bytes) }

/-- Opening for writing empties the file of that name or makes a new one. -/
def truncate (store : FileStore Name Byte) (name : Name) : Nat × FileStore Name Byte :=
  match found : store.entry name with
  | some file => (file, { store with content := Function.update store.content file [] })
  | none =>
      (store.fresh, {
        entry := Function.update store.entry name (some store.fresh)
        content := Function.update store.content store.fresh []
        fresh := store.fresh + 1
        bounded := by
          intro other file refers
          by_cases same : other = name
          · rw [same, Function.update_self] at refers
            cases refers
            exact Nat.lt_succ_self _
          · rw [Function.update_of_ne same] at refers
            exact Nat.lt_succ_of_lt (store.bounded other file refers)
        unshared := by
          intro first second file left right
          by_cases here : first = name
          · by_cases there : second = name
            · rw [here, there]
            · rw [here, Function.update_self] at left
              rw [Function.update_of_ne there] at right
              cases left
              exact absurd (store.bounded second _ right) (Nat.lt_irrefl _)
          · by_cases there : second = name
            · rw [there, Function.update_self] at right
              rw [Function.update_of_ne here] at left
              cases right
              exact absurd (store.bounded first _ left) (Nat.lt_irrefl _)
            · rw [Function.update_of_ne here] at left
              rw [Function.update_of_ne there] at right
              exact store.unshared first second file left right })

/-- The name is gone; the file stays with its handles. -/
def unlink (store : FileStore Name Byte) (name : Name) : FileStore Name Byte :=
  { store with
    entry := Function.update store.entry name none
    bounded := by
      intro other file refers
      by_cases same : other = name
      · rw [same, Function.update_self] at refers
        cases refers
      · rw [Function.update_of_ne same] at refers
        exact store.bounded other file refers
    unshared := by
      intro first second file left right
      by_cases here : first = name
      · rw [here, Function.update_self] at left
        cases left
      · by_cases there : second = name
        · rw [there, Function.update_self] at right
          cases right
        · rw [Function.update_of_ne here] at left
          rw [Function.update_of_ne there] at right
          exact store.unshared first second file left right }

/-- The file of one name becomes the file of another, in one step. -/
def rename (store : FileStore Name Byte) (source target : Name) :
    Option (FileStore Name Byte) :=
  match found : store.entry source with
  | none => none
  | some file =>
      some { store with
        entry := fun name =>
          if name = target then some file
          else if name = source then none
          else store.entry name
        bounded := by
          intro name other refers
          split at refers
          · cases refers
            exact store.bounded source file found
          · split at refers
            · cases refers
            · exact store.bounded name other refers
        unshared := by
          have named (name : Name) (refers : store.entry name = some file) : name = source :=
            store.unshared name source file refers found
          intro first second other left right
          split at left
          · rename_i here
            cases left
            split at right
            · rename_i there
              rw [here, there]
            · split at right
              · cases right
              · rename_i apart
                exact absurd (named second right) apart
          · split at left
            · cases left
            · rename_i apart
              split at right
              · cases right
                exact absurd (named first left) apart
              · split at right
                · cases right
                · exact store.unshared first second other left right }

section Reading

theorem overwrite_end (hole : Byte) (content bytes : List Byte) :
    overwrite hole content content.length bytes = content ++ bytes := by
  unfold overwrite
  rw [List.take_length, Nat.sub_self, List.replicate_zero, List.append_nil,
    List.drop_eq_nil_of_le (Nat.le_add_right _ _), List.append_nil]

variable {store : FileStore Name Byte} {name other : Name} {file : Nat}

omit [DecidableEq Name] in
theorem read_of_content (apart : store.entry name ≠ some file) {content : List Byte} :
    (store.entry name).map (Function.update store.content file content) = store.read name := by
  unfold read
  cases refers : store.entry name with
  | none => rfl
  | some own =>
      have ne : own ≠ file := fun same => apart (refers.trans (congrArg some same))
      exact congrArg some (Function.update_of_ne ne _ _)

omit [DecidableEq Name] in
theorem read_write_of_ne (apart : store.entry name ≠ some file) (hole : Byte) (offset : Nat)
    (bytes : List Byte) : (store.write hole file offset bytes).read name = store.read name :=
  read_of_content apart

theorem truncate_spec (store : FileStore Name Byte) (name : Name) :
    (store.truncate name).2.entry name = some (store.truncate name).1 ∧
      (store.truncate name).2.content (store.truncate name).1 = [] ∧
      ∀ other, other ≠ name →
        (store.truncate name).2.entry other = store.entry other ∧
          (store.truncate name).2.read other = store.read other := by
  unfold truncate
  split
  · rename_i file found
    refine ⟨found, Function.update_self _ _ _, fun other apart => ⟨rfl, ?_⟩⟩
    apply read_of_content
    intro refers
    exact apart (store.unshared other name file refers found)
  · rename_i missing
    refine ⟨Function.update_self _ _ _, Function.update_self _ _ _, fun other apart => ?_⟩
    have kept : Function.update store.entry name (some store.fresh) other = store.entry other :=
      Function.update_of_ne apart _ _
    refine ⟨kept, ?_⟩
    change (Function.update store.entry name (some store.fresh) other).map _ = _
    rw [kept]
    apply read_of_content
    intro refers
    exact Nat.lt_irrefl _ (store.bounded other _ refers)

theorem read_unlink_of_ne (apart : other ≠ name) : (store.unlink name).read other = store.read other := by
  unfold read unlink
  dsimp only
  rw [Function.update_of_ne apart]

theorem entry_unlink_of_ne (apart : other ≠ name) :
    (store.unlink name).entry other = store.entry other := Function.update_of_ne apart _ _

theorem entry_unlink_self (store : FileStore Name Byte) (name : Name) :
    (store.unlink name).entry name = none := Function.update_self _ _ _

theorem rename_spec {source target : Name} {after : FileStore Name Byte} (apart : source ≠ target)
    (renamed : store.rename source target = some after) :
    ∃ file, store.entry source = some file ∧ after.entry target = some file ∧
      after.entry source = none ∧ after.content = store.content := by
  unfold rename at renamed
  split at renamed
  · cases renamed
  · rename_i file found
    cases renamed
    exact ⟨file, found, if_pos rfl, (if_neg apart).trans (if_pos rfl), rfl⟩

end Reading

end FileStore

end Ucanlab
