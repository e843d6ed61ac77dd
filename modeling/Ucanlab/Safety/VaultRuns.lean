import Ucanlab.Lib.EventRun
import Ucanlab.Safety.SecretVault

/-!
Runs of the secret vault beside the dictionary it is meant to hold. As long as every store leaves
a file within the limit under a name that the reader gives back, the file holds that dictionary.
The limits on a value and on the number of entries do not see to it: a vault far from full can be
written and never read again.
-/

namespace Ucanlab.Safety.SecretVault

open CodePoint (ofChar text)
open JsonText

inductive Operation where
  | store (name : Text) (secret : Bytes)
  | delete (name : Text)

structure Call where
  operation : Operation
  attempt : Attempt

def Writing.replaces : Writing → Bool
  | .fine => true
  | .tooOpen _ => true
  | .unverified _ => true
  | .notCreated _ => false
  | .failed _ => false

def admission (secrets : Secrets) : Operation → Except VaultError Secrets
  | .store name secret =>
      match checkSecretBounds name secret
        (secrets.length + if secrets.contains name then 0 else 1) with
      | .error raised => .error raised
      | .ok () => .ok (secrets.set name secret)
  | .delete name =>
      if secrets.contains name then .ok (secrets.erase name) else .error (notFound name)

def applied (secrets : Secrets) : Operation → Secrets
  | .store name secret => secrets.set name secret
  | .delete name => secrets.erase name

structure Vault where
  file : Option Bytes
  meant : Option Secrets

namespace Vault

def empty : Vault where
  file := none
  meant := none

def secrets (vault : Vault) : Secrets := vault.meant.getD []

def recorded (vault : Vault) (call : Call) : Option Secrets :=
  if vault.file.isSome = true ∧ call.attempt.reading ≠ .fine then vault.meant
  else
    match admission vault.secrets call.operation with
    | .error _ => vault.meant
    | .ok after => if call.attempt.writing.replaces then some after else vault.meant

end Vault

section Step

variable {Key : Type} (machine : Machine Key)

def perform (file : Option Bytes) (call : Call) : Except VaultError Unit × Option Bytes :=
  match call.operation with
  | .store name secret => storeSecret machine call.attempt file name secret
  | .delete name => deleteSecret machine call.attempt file name

def step (vault : Vault) (call : Call) : Option Vault :=
  some { file := (perform machine vault.file call).2, meant := vault.recorded call }

end Step

/-- A store that the bounds admit and that replaces the file leaves a file within the limit, and
its name holds no high surrogate directly before a low one. -/
def Fits (vault : Vault) (call : Call) : Prop :=
  ∀ name secret, call.operation = .store name secret →
    admission vault.secrets call.operation = .ok (vault.secrets.set name secret) →
    call.attempt.writing.replaces = true →
      Unpaired name ∧ vaultSize (vault.secrets.set name secret) ≤ maxSecretFileBytes

structure Serves {Key : Type} (machine : Machine Key) (vault : Vault) : Prop where
  loads : loadAllSecrets machine .fine vault.file = .ok vault.secrets
  gets : ∀ name, getSecret machine .fine vault.file name =
    match vault.secrets.get? name with
    | some secret => .ok secret
    | none => .error (notFound name)
  further : ∀ call after, call.attempt.reading = .fine → call.attempt.writing = .fine →
    admission vault.secrets call.operation = .ok after → (perform machine vault.file call).1 = .ok ()
  success : ∀ call, (perform machine vault.file call).1 = .ok () →
    vault.recorded call = some (applied vault.secrets call.operation)

section Specs

variable {Key : Type} {machine : Machine Key}

theorem admit_ok {secrets after : Secrets} {operation : Operation}
    (admitted : admission secrets operation = .ok after) : after = applied secrets operation := by
  cases operation with
  | store name secret =>
      simp only [admission] at admitted
      split at admitted
      · cases admitted
      · cases admitted
        rfl
  | delete name =>
      simp only [admission] at admitted
      split at admitted
      · cases admitted
        rfl
      · cases admitted

theorem perform_eq (file : Option Bytes) (call : Call) :
    perform machine file call =
      match loadAllSecrets machine call.attempt.reading file with
      | .error raised => (.error raised, file)
      | .ok secrets =>
          match admission secrets call.operation with
          | .error raised => (.error raised, file)
          | .ok after => saveAllSecrets machine call.attempt file after := by
  obtain ⟨operation, attempt⟩ := call
  cases operation with
  | store name secret =>
      simp only [perform, storeSecret, admission]
      cases loadAllSecrets machine attempt.reading file with
      | error raised => rfl
      | ok secrets =>
          simp only
          cases checkSecretBounds name secret
            (secrets.length + if secrets.contains name then 0 else 1) with
          | error raised => rfl
          | ok done => rfl
  | delete name =>
      simp only [perform, deleteSecret, admission]
      cases loadAllSecrets machine attempt.reading file with
      | error raised => rfl
      | ok secrets =>
          simp only
          split <;> rfl

theorem saveAllSecrets_file (attempt : Attempt) (file : Option Bytes) (secrets : Secrets) :
    (saveAllSecrets machine attempt file secrets).2 =
      if attempt.writing.replaces then some (sealedFile machine attempt (payloadBytes secrets))
      else file := by
  simp only [saveAllSecrets, encodeUtf8_payload]
  cases attempt.writing <;> rfl

theorem saveAllSecrets_ok {attempt : Attempt} {file : Option Bytes} {secrets : Secrets} :
    (saveAllSecrets machine attempt file secrets).1 = .ok () ↔ attempt.writing = .fine := by
  simp only [saveAllSecrets, encodeUtf8_payload]
  cases attempt.writing <;> simp

end Specs

section Invariant

variable {Key : Type} {machine : Machine Key}

structure Sound (secrets : Secrets) : Prop where
  distinct : secrets.keys.Nodup
  unpaired : NamesUnpaired secrets
  fits : vaultSize secrets ≤ maxSecretFileBytes

def Holds (machine : Machine Key) (vault : Vault) : Prop :=
  (vault.file = none ∧ vault.meant = none) ∨
    ∃ secrets attempt, vault.meant = some secrets ∧ Sound secrets ∧
      vault.file = some (sealedFile machine attempt (payloadBytes secrets))

theorem Holds.loads (ideal : machine.Ideal) {vault : Vault} (holds : Holds machine vault) :
    loadAllSecrets machine .fine vault.file = .ok vault.secrets := by
  rcases holds with ⟨file, meant⟩ | ⟨secrets, attempt, meant, sound, file⟩
  · rw [file, Vault.secrets, meant]
    rfl
  · rw [file, Vault.secrets, meant]
    exact load_sealedFile ideal attempt sound.distinct sound.unpaired sound.fits

theorem Holds.sound {vault : Vault} (holds : Holds machine vault) : Sound vault.secrets := by
  rcases holds with ⟨_, meant⟩ | ⟨secrets, _, meant, sound, _⟩
  · rw [Vault.secrets, meant]
    exact ⟨List.nodup_nil, fun _ member => (nomatch member), by decide⟩
  · rw [Vault.secrets, meant]
    exact sound

theorem Holds.load_cases (ideal : machine.Ideal) {vault : Vault} (holds : Holds machine vault)
    (call : Call) :
    (vault.file.isSome = true ∧ call.attempt.reading ≠ .fine ∧
      ∃ raised, loadAllSecrets machine call.attempt.reading vault.file = .error raised) ∨
    (¬ (vault.file.isSome = true ∧ call.attempt.reading ≠ .fine) ∧
      loadAllSecrets machine call.attempt.reading vault.file = .ok vault.secrets) := by
  have loads := holds.loads ideal
  by_cases fine : call.attempt.reading = .fine
  · refine Or.inr ⟨fun both => both.2 fine, ?_⟩
    rw [fine, loads]
  · cases there : vault.file with
    | none =>
        rw [there] at loads
        exact Or.inr ⟨fun both => Bool.false_ne_true both.1, loads⟩
    | some rawData =>
        refine Or.inl ⟨rfl, fine, ?_⟩
        cases how : call.attempt.reading with
        | fine => exact absurd how fine
        | statFailed reason => exact ⟨_, rfl⟩
        | readFailed reason =>
            simp only [loadAllSecrets]
            split <;> exact ⟨_, rfl⟩

theorem sum_erase_le (secrets : Secrets) (name : Text) :
    ((secrets.erase name).map entrySize).sum ≤ (secrets.map entrySize).sum := by
  induction secrets with
  | nil => exact Nat.le_refl _
  | cons entry rest ih =>
      unfold Dict.erase at ih ⊢
      rw [List.filter_cons]
      split
      · rw [List.map_cons, List.map_cons, List.sum_cons, List.sum_cons]
        exact Nat.add_le_add_left ih _
      · rw [List.map_cons, List.sum_cons]
        exact Nat.le_trans ih (Nat.le_add_left _ _)

theorem Sound.erase {secrets : Secrets} (sound : Sound secrets) (name : Text) :
    Sound (secrets.erase name) := by
  refine ⟨sound.distinct.sublist (Dict.keys_erase_sublist secrets name), ?_, ?_⟩
  · exact fun entry member => sound.unpaired entry (Dict.mem_erase.mp member).1
  · refine Nat.le_trans ?_ sound.fits
    have sizes := sum_erase_le secrets name
    have count : (secrets.erase name).length ≤ secrets.length := List.length_filter_le _ _
    unfold vaultSize
    omega

theorem Sound.set {secrets : Secrets} (sound : Sound secrets) {name : Text} {secret : Bytes}
    (unpaired : Unpaired name) (fits : vaultSize (secrets.set name secret) ≤ maxSecretFileBytes) :
    Sound (secrets.set name secret) := by
  refine ⟨Dict.nodup_keys_set sound.distinct name secret, ?_, fits⟩
  intro entry member
  rcases Dict.mem_of_mem_set member with rfl | earlier
  · exact unpaired
  · exact sound.unpaired entry earlier

theorem Sound.applied {vault : Vault} {call : Call} (sound : Sound vault.secrets)
    (fits : Fits vault call) {after : Secrets}
    (admitted : admission vault.secrets call.operation = .ok after)
    (replaces : call.attempt.writing.replaces = true) : Sound after := by
  have same := admit_ok admitted
  cases kind : call.operation with
  | store name secret =>
      rw [kind] at same
      rw [same] at admitted ⊢
      obtain ⟨unpaired, small⟩ := fits name secret kind admitted replaces
      exact sound.set unpaired small
  | delete name =>
      rw [kind] at same
      rw [same]
      exact sound.erase name

theorem Holds.step (ideal : machine.Ideal) {vault next : Vault} {call : Call}
    (holds : Holds machine vault) (fits : Fits vault call)
    (stepped : step machine vault call = some next) : Holds machine next := by
  cases stepped
  have unchanged : Holds machine { file := vault.file, meant := vault.meant } := holds
  rw [perform_eq]
  unfold Vault.recorded
  rcases holds.load_cases ideal call with ⟨there, broken, raised, load⟩ | ⟨whole, load⟩
  · rw [load, if_pos ⟨there, broken⟩]
    exact unchanged
  · rw [load, if_neg whole]
    cases admitted : admission vault.secrets call.operation with
    | error raised => simpa only [admitted] using unchanged
    | ok after =>
        simp only [admitted, saveAllSecrets_file]
        by_cases replaces : call.attempt.writing.replaces = true
        · rw [if_pos replaces, if_pos replaces]
          exact Or.inr ⟨after, call.attempt, rfl, holds.sound.applied fits admitted replaces, rfl⟩
        · rw [if_neg replaces, if_neg replaces]
          exact unchanged

theorem Holds.serves (ideal : machine.Ideal) {vault : Vault} (holds : Holds machine vault) :
    Serves machine vault := by
  have loads := holds.loads ideal
  refine ⟨loads, ?_, ?_, ?_⟩
  · intro name
    cases found : vault.secrets.get? name <;> simp only [getSecret, loads, found]
  · intro call after reading writing admitted
    rw [perform_eq, reading, loads]
    simp only [admitted]
    exact saveAllSecrets_ok.mpr writing
  · intro call succeeded
    rw [perform_eq] at succeeded
    unfold Vault.recorded
    rcases holds.load_cases ideal call with ⟨_, _, raised, load⟩ | ⟨whole, load⟩
    · rw [load] at succeeded
      cases succeeded
    · rw [load] at succeeded
      rw [if_neg whole]
      cases admitted : admission vault.secrets call.operation with
      | error raised =>
          simp only [admitted] at succeeded
          cases succeeded
      | ok after =>
          simp only [admitted] at succeeded
          have fine := saveAllSecrets_ok.mp succeeded
          simp only [fine, Writing.replaces, if_true, admit_ok admitted]

end Invariant

/-- Along every run whose stores fit, the vault serves in every state. -/
theorem vault_serves {Key : Type} {machine : Machine Key} (ideal : machine.Ideal)
    {calls : List Call} {vault : Vault}
    (fits : EventRun.Meets (step machine) Fits Vault.empty calls)
    (ran : EventRun.run (step machine) Vault.empty calls = some vault) : Serves machine vault := by
  refine Holds.serves ideal ?_
  exact EventRun.run_invariant_of_meets (fun _ _ _ holds here stepped => holds.step ideal here stepped)
    (Or.inl ⟨rfl, rfl⟩) fits ran

section FullVault

/-- A cipher that hides nothing but keeps the promises. -/
def plainMachine : Machine Unit where
  deriveEncryptionKey := fun _ => ()
  encrypt := fun _ _ sealed _ => sealed ++ List.replicate tagBytes 0
  decrypt := fun _ _ ciphertext _ => some (ciphertext.take (ciphertext.length - tagBytes))
  describe := fun _ => []

theorem plainMachine_ideal : plainMachine.Ideal where
  opens := by
    intro key nonce sealed bound
    simp only [plainMachine, List.length_append, List.length_replicate, Nat.add_sub_cancel]
    rw [List.take_left]
  tagged := by
    intro key nonce sealed bound
    simp only [plainMachine, List.length_append, List.length_replicate]

def calmAttempt : Attempt where
  salt := List.replicate saltBytes 0
  nonce := List.replicate nonceBytes 0
  reading := .fine
  writing := .fine
  saltLength := List.length_replicate ..
  nonceLength := List.length_replicate ..

def fillName (index : Nat) : Text := [Fin.ofNat 0x110000 (0x100 + index)]

def fillCall (index : Nat) : Call where
  operation := .store (fillName index) (List.replicate maxSecretBytes 0)
  attempt := calmAttempt

def filled (count : Nat) : Secrets :=
  (List.range count).map (fun index => (fillName index, List.replicate maxSecretBytes 0))

theorem fillName_val {index : Nat} (small : index < 0x100) :
    (Fin.ofNat 0x110000 (0x100 + index)).val = 0x100 + index :=
  Nat.mod_eq_of_lt (Nat.lt_trans (Nat.add_lt_add_left small _) (by decide))

theorem entrySize_fill {index : Nat} (small : index < 0x100) :
    entrySize (fillName index, List.replicate maxSecretBytes 0) = 5476 := by
  have value := fillName_val small
  have long : shortEscape (Fin.ofNat 0x110000 (0x100 + index)) = none := by
    have other (mark : CodePoint) (ascii : mark.val < 0x80) :
        Fin.ofNat 0x110000 (0x100 + index) ≠ mark := by
      intro same
      rw [same] at value
      omega
    unfold shortEscape
    rw [if_neg (other _ (by decide)), if_neg (other _ (by decide)), if_neg (other _ (by decide)),
      if_neg (other _ (by decide)), if_neg (other _ (by decide)), if_neg (other _ (by decide)),
      if_neg (other _ (by decide))]
  have six : escapedLength (Fin.ofNat 0x110000 (0x100 + index)) = 6 := by
    unfold escapedLength
    rw [long, if_neg (by decide), if_neg (by omega), if_pos (by omega)]
  unfold entrySize fillName
  rw [List.map_singleton, List.sum_singleton, six, List.length_replicate]
  rfl

theorem vaultSize_filled {count : Nat} (small : count ≤ 0x100) :
    vaultSize (filled count) = 81 + 5476 * count + 2 * (count - 1) := by
  have sizes : (filled count).map entrySize = List.replicate count 5476 := by
    unfold filled
    rw [List.map_map]
    refine List.eq_replicate_iff.mpr ⟨by rw [List.length_map, List.length_range], ?_⟩
    intro size member
    obtain ⟨index, isIn, rfl⟩ := List.mem_map.mp member
    exact entrySize_fill (Nat.lt_of_lt_of_le (List.mem_range.mp isIn) small)
  unfold vaultSize
  rw [sizes, List.sum_replicate_nat, filled, List.length_map, List.length_range,
    Nat.mul_comm count]

theorem filled_absent {count : Nat} (small : count < 0x100) :
    fillName count ∉ Dict.keys (filled count) := by
  intro present
  obtain ⟨entry, isIn, same⟩ := List.mem_map.mp present
  obtain ⟨index, within, rfl⟩ := List.mem_map.mp isIn
  have below := List.mem_range.mp within
  have equal := congrArg Fin.val (List.cons.inj same).1
  rw [fillName_val small, fillName_val (Nat.lt_trans below small)] at equal
  omega

theorem filled_set {count : Nat} (small : count < 0x100) :
    (filled count).set (fillName count) (List.replicate maxSecretBytes 0) = filled (count + 1) := by
  rw [Dict.set_of_absent _ (filled_absent small), filled, filled, List.range_succ, List.map_append]
  rfl

theorem admit_fill {count : Nat} (small : count < 0x100) :
    admission (filled count) (fillCall count).operation = .ok (filled (count + 1)) := by
  have absent : Dict.contains (filled count) (fillName count) = false :=
    Bool.eq_false_iff.mpr (fun present => filled_absent small (Dict.contains_iff.mp present))
  have length : (filled count).length = count := by
    rw [filled, List.length_map, List.length_range]
  simp only [admission, fillCall, checkSecretBounds, List.length_replicate, absent, length,
    Bool.false_eq_true, if_false, if_neg (Nat.lt_irrefl maxSecretBytes),
    if_neg (Nat.not_lt.mpr (Nat.succ_le_of_lt small : count + 1 ≤ maxSecretCount)),
    filled_set small]

theorem unpaired_fillName (index : Nat) : Unpaired (fillName index) := List.IsChain.singleton _

theorem fill_next {vault : Vault} {count : Nat} (small : count < 0x100)
    (held : vault.secrets = filled count) (holds : Holds plainMachine vault) :
    (perform plainMachine vault.file (fillCall count)).1 = .ok () ∧
      vault.recorded (fillCall count) = some (filled (count + 1)) := by
  have serves := holds.serves plainMachine_ideal
  have done := serves.further (fillCall count) (filled (count + 1)) rfl rfl
    (held ▸ admit_fill small)
  refine ⟨done, (serves.success (fillCall count) done).trans ?_⟩
  rw [held]
  exact congrArg some (filled_set small)

theorem fill_fits {vault : Vault} {count : Nat} (small : count < 191)
    (held : vault.secrets = filled count) : Fits vault (fillCall count) := by
  intro name secret same _ _
  cases same
  refine ⟨unpaired_fillName count, ?_⟩
  rw [held, filled_set (by omega), vaultSize_filled (by omega)]
  unfold maxSecretFileBytes
  omega

/-- Up to the last store but one everything fits. -/
theorem fill_run {count : Nat} (small : count ≤ 191) :
    ∃ vault, EventRun.run (step plainMachine) Vault.empty ((List.range count).map fillCall) =
      some vault ∧ vault.secrets = filled count ∧ Holds plainMachine vault := by
  induction count with
  | zero => exact ⟨Vault.empty, rfl, rfl, Or.inl ⟨rfl, rfl⟩⟩
  | succ count ih =>
      obtain ⟨vault, ran, held, holds⟩ := ih (by omega)
      obtain ⟨_, recorded⟩ := fill_next (by omega) held holds
      refine ⟨_, ?_, ?_, holds.step plainMachine_ideal (fill_fits small held) rfl⟩
      · rw [List.range_succ, List.map_append, EventRun.run_append_of_run _ ran]
        rfl
      · unfold Vault.secrets
        rw [recorded]
        rfl

/-- Of 192 stores of 4096 bytes each every one is reported as done, and the file is never read
again: the counts and the sizes are within their limits, the file is not. -/
theorem stores_lock_vault :
    (∀ count < 192, ∃ vault,
      EventRun.run (step plainMachine) Vault.empty ((List.range count).map fillCall) = some vault ∧
        (perform plainMachine vault.file (fillCall count)).1 = .ok ()) ∧
    ∃ last, EventRun.run (step plainMachine) Vault.empty ((List.range 192).map fillCall) =
        some last ∧
      loadAllSecrets plainMachine .fine last.file = .error (tooLarge 1051855) := by
  constructor
  · intro count small
    obtain ⟨vault, ran, held, holds⟩ := fill_run (Nat.le_of_lt_succ small)
    exact ⟨vault, ran, (fill_next (by omega) held holds).1⟩
  · obtain ⟨vault, ran, held, holds⟩ := fill_run (Nat.le_refl 191)
    have load := holds.loads plainMachine_ideal
    have calm : (fillCall 191).attempt.reading = .fine := rfl
    have size := length_sealedFile plainMachine_ideal calmAttempt (filled 192)
    rw [vaultSize_filled (by omega)] at size
    have file : (perform plainMachine vault.file (fillCall 191)).2 =
        some (sealedFile plainMachine calmAttempt (payloadBytes (filled 192))) := by
      rw [perform_eq, calm, load, held]
      simp only [admit_fill (by omega : 191 < 0x100)]
      exact saveAllSecrets_file calmAttempt vault.file (filled 192)
    have ended : EventRun.run (step plainMachine) Vault.empty ((List.range 192).map fillCall) =
        step plainMachine vault (fillCall 191) := by
      have last : List.range 192 = List.range 191 ++ [191] := List.range_succ
      rw [last, List.map_append, EventRun.run_append_of_run _ ran]
      rfl
    refine ⟨_, ended, ?_⟩
    change loadAllSecrets plainMachine .fine (perform plainMachine vault.file (fillCall 191)).2 = _
    rw [file, load_tooLarge (by rw [size]; decide), size]

theorem vault_serves_first :
    ∃ vault, EventRun.run (step plainMachine) Vault.empty [fillCall 0] = some vault ∧
      Serves plainMachine vault := by
  have fits : EventRun.Meets (step plainMachine) Fits Vault.empty [fillCall 0] :=
    ⟨fill_fits (by decide) rfl, fun _ _ => trivial⟩
  exact ⟨_, rfl, vault_serves plainMachine_ideal fits rfl⟩

end FullVault

end Ucanlab.Safety.SecretVault
