import Ucanlab.Core.CanFrame
import Ucanlab.Lib.MaskCount

/-!
The identifier whitelist: exact identifiers and `(value, mask)` families, the
breadth gate that every configured mask passes, and how many identifiers an
accepted mask really authorises.
-/

namespace Ucanlab.Safety

open Ucanlab MaskCount

/-- One authorised identifier family. Configuration rejects masks that are not
positive, so the value is built with the proof. -/
structure MaskPair where
  value : Int
  mask : Nat
  positive : 0 < mask
  deriving DecidableEq, Repr

def MaskPair.covers (pair : MaskPair) (arbitrationId : Nat) : Bool :=
  decide (pair.mask ≠ 0 ∧ ((arbitrationId &&& pair.mask : Nat) : Int) = pair.value)

structure Whitelist where
  ids : List Nat
  masks : List MaskPair
  deriving DecidableEq

def Whitelist.isEmpty (whitelist : Whitelist) : Bool :=
  whitelist.ids.isEmpty && whitelist.masks.isEmpty

def Whitelist.authorizes (whitelist : Whitelist) (arbitrationId : Nat) : Bool :=
  whitelist.ids.contains arbitrationId ||
    whitelist.masks.any (fun pair => pair.covers arbitrationId)

theorem Whitelist.isEmpty_of_authorizes {whitelist : Whitelist} {arbitrationId : Nat}
    (authorized : whitelist.authorizes arbitrationId = true) : whitelist.isEmpty = false := by
  unfold Whitelist.authorizes at authorized
  unfold Whitelist.isEmpty
  cases ids : whitelist.ids <;> cases masks : whitelist.masks <;> simp_all

def maskSupersetLimit : Nat := 65536

inductive MaskError where
  | zeroMask
  | negativeMask (mask : Int)
  | superset (matched : Nat)
  deriving DecidableEq, Repr

/-- Only the breadth refusal is a `SafetyError` and carries a code. -/
def MaskError.code : MaskError → Option String
  | .zeroMask => none
  | .negativeMask _ => none
  | .superset _ => some "WHITELIST_SUPERSET_DENIED"

def MaskError.message : MaskError → String
  | .zeroMask => "whitelist maskesi 0 olamaz (tum bus'i gecirir)"
  | .negativeMask mask =>
      s!"whitelist maskesi negatif olamaz (alindi: {mask}); ID maskeleri pozitif olmalidir"
  | .superset matched =>
      s!"Maske ~{matched} ID'lik aileyi kapsiyor; bilincli genis aile icin " ++
        "whitelist_superset_allowed=True gerekir"

/-- The breadth the gate assumes, in the identifier space it takes the mask to
be about. -/
def estimatedBreadth (value : Int) (mask : Nat) : Nat :=
  if mask ≤ 0x7FF ∧ value ≤ 0x7FF then 1 <<< (11 - popCount mask)
  else 1 <<< (29 - popCount (mask &&& 0x1FFFFFFF))

def validateMask (pair : Int × Int) (supersetAllowed : Bool) : Except MaskError MaskPair :=
  if zero : pair.2 = 0 then .error .zeroMask
  else if negative : pair.2 < 0 then .error (.negativeMask pair.2)
  else
    let matched := estimatedBreadth pair.1 pair.2.toNat
    if matched > maskSupersetLimit ∧ supersetAllowed = false then .error (.superset matched)
    else .ok { value := pair.1, mask := pair.2.toNat, positive := by omega }

/-- `_validate_mask_breadth`: the first offending pair refuses the whole list. -/
def validateMaskBreadth (masks : List (Int × Int)) (supersetAllowed : Bool) :
    Except MaskError (List MaskPair) :=
  match masks with
  | [] => .ok []
  | pair :: rest =>
      match validateMask pair supersetAllowed with
      | .error e => .error e
      | .ok accepted =>
          match validateMaskBreadth rest supersetAllowed with
          | .error e => .error e
          | .ok others => .ok (accepted :: others)

structure WhitelistConfig where
  whitelist : Whitelist
  supersetAllowed : Bool
  deriving DecidableEq

def WhitelistConfig.new (ids : Option (List Nat)) (masks : Option (List (Int × Int)))
    (supersetAllowed : Bool) : Except MaskError WhitelistConfig :=
  match validateMaskBreadth (masks.getD []) supersetAllowed with
  | .error e => .error e
  | .ok accepted =>
      .ok {
        whitelist := { ids := ids.getD [], masks := accepted }
        supersetAllowed := supersetAllowed
      }

structure WhitelistChange where
  ids : Option (List Nat)
  masks : Option (List (Int × Int))

def WhitelistConfig.replaceIds (config : WhitelistConfig) (ids : Option (List Nat)) :
    WhitelistConfig :=
  { config with whitelist := { config.whitelist with ids := ids.getD config.whitelist.ids } }

def WhitelistConfig.replaceMasks (config : WhitelistConfig) (masks : List MaskPair) :
    WhitelistConfig :=
  { config with whitelist := { config.whitelist with masks := masks } }

/-- The identifiers are replaced before the masks are checked, and stay
replaced when the check refuses them. -/
def WhitelistConfig.rebind (config : WhitelistConfig) (change : WhitelistChange) :
    WhitelistConfig × Option MaskError :=
  let replaced := config.replaceIds change.ids
  match change.masks with
  | none => (replaced, none)
  | some masks =>
      match validateMaskBreadth masks config.supersetAllowed with
      | .error e => (replaced, some e)
      | .ok accepted => (replaced.replaceMasks accepted, none)

def WhitelistConfig.rebindAll (config : WhitelistConfig) (changes : List WhitelistChange) :
    WhitelistConfig :=
  changes.foldl (fun current change => (current.rebind change).1) config

def MaskPair.WithinLimit (pair : MaskPair) : Prop :=
  estimatedBreadth pair.value pair.mask ≤ maskSupersetLimit

theorem validateMask_withinLimit {pair : Int × Int} {accepted : MaskPair}
    (validated : validateMask pair false = .ok accepted) : accepted.WithinLimit := by
  unfold validateMask at validated
  split at validated
  · cases validated
  · split at validated
    · cases validated
    · dsimp only at validated
      split at validated
      · cases validated
      · rename_i narrow
        cases validated
        exact Nat.le_of_not_lt (fun broad => narrow ⟨broad, rfl⟩)

theorem validateMaskBreadth_withinLimit {masks : List (Int × Int)} {accepted : List MaskPair}
    (validated : validateMaskBreadth masks false = .ok accepted) :
    ∀ pair ∈ accepted, pair.WithinLimit := by
  induction masks generalizing accepted with
  | nil =>
      cases validated
      exact fun pair member => absurd member List.not_mem_nil
  | cons head rest ih =>
      simp only [validateMaskBreadth] at validated
      split at validated
      · cases validated
      · rename_i first firstValidated
        split at validated
        · cases validated
        · rename_i others othersValidated
          cases validated
          intro pair member
          rcases List.mem_cons.mp member with same | later
          · subst pair
            exact validateMask_withinLimit firstValidated
          · exact ih othersValidated pair later

structure WhitelistConfig.Gated (config : WhitelistConfig) : Prop where
  strict : config.supersetAllowed = false
  masks : ∀ pair ∈ config.whitelist.masks, pair.WithinLimit

theorem WhitelistConfig.new_gated {ids : Option (List Nat)}
    {masks : Option (List (Int × Int))} {config : WhitelistConfig}
    (constructed : WhitelistConfig.new ids masks false = .ok config) : config.Gated := by
  unfold WhitelistConfig.new at constructed
  split at constructed
  · cases constructed
  · rename_i accepted validated
    cases constructed
    exact ⟨rfl, validateMaskBreadth_withinLimit validated⟩

theorem WhitelistConfig.rebind_gated (config : WhitelistConfig) (change : WhitelistChange)
    (gated : config.Gated) : (config.rebind change).1.Gated := by
  unfold WhitelistConfig.rebind
  dsimp only
  split
  · exact ⟨gated.strict, gated.masks⟩
  · split
    · exact ⟨gated.strict, gated.masks⟩
    · rename_i accepted validated
      rw [gated.strict] at validated
      exact ⟨gated.strict, validateMaskBreadth_withinLimit validated⟩

theorem WhitelistConfig.rebindAll_gated (config : WhitelistConfig)
    (changes : List WhitelistChange) (gated : config.Gated) :
    (config.rebindAll changes).Gated := by
  induction changes generalizing config with
  | nil => exact gated
  | cons change rest ih => exact ih _ (config.rebind_gated change gated)

/-- How many identifiers a mask authorises, over the standard and the extended
identifiers together. -/
def MaskPair.authorizedIdentifiers (pair : MaskPair) : Nat :=
  Nat.count (fun id => pair.covers id = true) (maxId false + 1) +
    Nat.count (fun id => pair.covers id = true) (maxId true + 1)

theorem MaskPair.covers_iff (pair : MaskPair) (id : Nat) :
    pair.covers id = true ↔ ((id &&& pair.mask : Nat) : Int) = pair.value := by
  have nonzero : pair.mask ≠ 0 := Nat.pos_iff_ne_zero.mp pair.positive
  simp only [MaskPair.covers, decide_eq_true_eq, ne_eq, nonzero, not_false_eq_true, true_and]

theorem MaskPair.authorizedIdentifiers_of_negative (pair : MaskPair) (negative : pair.value < 0) :
    pair.authorizedIdentifiers = 0 := by
  have never : ∀ id : Nat, ¬ pair.covers id = true := by
    intro id covered
    have same := (pair.covers_iff id).mp covered
    omega
  simp only [MaskPair.authorizedIdentifiers, never, Bool.false_eq_true, Nat.count_false]

theorem MaskPair.authorizedIdentifiers_eq (pair : MaskPair) (natural : 0 ≤ pair.value) :
    pair.authorizedIdentifiers =
      matchCount 11 pair.mask pair.value.toNat + matchCount 29 pair.mask pair.value.toNat := by
  have every : ∀ id : Nat, (pair.covers id = true) = (id &&& pair.mask = pair.value.toNat) := by
    intro id
    apply propext
    rw [pair.covers_iff]
    omega
  simp only [MaskPair.authorizedIdentifiers, every, matchCount]
  rfl

/-- The masks that stay within the limit: those no identifier satisfies, and
those too wide for the standard space that either fix 14 of the 29 bits or
leave the standard identifiers alone. -/
def MaskPair.StaysNarrow (pair : MaskPair) : Prop :=
  pair.value < 0 ∨ (maxId true : Int) < pair.value ∨ ¬ Submask pair.value.toNat pair.mask ∨
    (0x7FF < pair.mask ∧
      ¬ (popCount (pair.mask &&& 0x1FFFFFFF) = 13 ∧ pair.value ≤ 0x7FF))

theorem popCount_low29 (mask : Nat) :
    popCount (mask &&& 0x1FFFFFFF) = onesBelow 29 mask := by
  have low : mask &&& 0x1FFFFFFF = mask % 2 ^ 29 := Nat.and_two_pow_sub_one_eq_mod mask 29
  rw [low, popCount_eq_onesBelow 29 _ (Nat.mod_lt _ (by decide)), onesBelow_mod]

theorem power_le_iff (fixed : Nat) (bounded : fixed ≤ 29) :
    2 ^ (29 - fixed) ≤ maskSupersetLimit ↔ 13 ≤ fixed := by
  have limit : maskSupersetLimit = 2 ^ 16 := rfl
  rw [limit, Nat.pow_le_pow_iff_right (by decide)]
  omega

theorem MaskPair.standard_too_broad (pair : MaskPair) (standard : pair.mask ≤ 0x7FF)
    (natural : 0 ≤ pair.value) (inside : Submask pair.value.toNat pair.mask)
    (inRange : pair.value ≤ maxId true) : maskSupersetLimit < pair.authorizedIdentifiers := by
  have fits : pair.mask < 2 ^ 11 := Nat.lt_succ_of_le standard
  have ones := onesBelow_le 11 pair.mask
  have same := onesBelow_eq_of_lt 11 29 pair.mask fits (by decide)
  have matched : matchCount 29 pair.mask pair.value.toNat = 2 ^ (29 - onesBelow 11 pair.mask) := by
    have bound : pair.value.toNat < 2 ^ 29 := by
      have top : (maxId true : Int) = 2 ^ 29 - 1 := rfl
      omega
    rw [matchCount_eq, if_pos ⟨inside, bound⟩, same]
  have large : ¬ 2 ^ (29 - onesBelow 11 pair.mask) ≤ maskSupersetLimit := by
    rw [power_le_iff _ (by omega)]
    omega
  rw [pair.authorizedIdentifiers_eq natural, matched]
  omega

theorem MaskPair.extended_within_iff (pair : MaskPair) (extended : 0x7FF < pair.mask)
    (natural : 0 ≤ pair.value) (inside : Submask pair.value.toNat pair.mask)
    (inRange : pair.value ≤ maxId true) (accepted : pair.WithinLimit) :
    pair.authorizedIdentifiers ≤ maskSupersetLimit ↔
      ¬ (popCount (pair.mask &&& 0x1FFFFFFF) = 13 ∧ pair.value ≤ 0x7FF) := by
  have ones := onesBelow_le 29 pair.mask
  have notStandard : ¬ (pair.mask ≤ 0x7FF ∧ pair.value ≤ 0x7FF) := by omega
  have fixed : 13 ≤ onesBelow 29 pair.mask := by
    have estimate := accepted
    rw [MaskPair.WithinLimit, estimatedBreadth, if_neg notStandard, popCount_low29,
      Nat.one_shiftLeft, power_le_iff _ ones] at estimate
    exact estimate
  have bound : pair.value.toNat < 2 ^ 29 := by
    have top : (maxId true : Int) = 2 ^ 29 - 1 := rfl
    omega
  rw [pair.authorizedIdentifiers_eq natural, matchCount_eq 29, if_pos ⟨inside, bound⟩,
    matchCount_eq 11, popCount_low29]
  by_cases small : pair.value.toNat < 2 ^ 11
  · have low : pair.value ≤ 0x7FF := by omega
    have some : 0 < 2 ^ (11 - onesBelow 11 pair.mask) := Nat.two_pow_pos _
    have few : 2 ^ (11 - onesBelow 11 pair.mask) ≤ 2 ^ 11 :=
      Nat.pow_le_pow_right (by decide) (Nat.sub_le _ _)
    rw [if_pos ⟨inside, small⟩]
    by_cases exact : onesBelow 29 pair.mask = 13
    · simp only [exact, low, and_self, not_true_eq_false, iff_false, maskSupersetLimit]
      omega
    · have less : 2 ^ (29 - onesBelow 29 pair.mask) ≤ 2 ^ 15 :=
        Nat.pow_le_pow_right (by decide) (by omega)
      simp only [exact, false_and, not_false_eq_true, iff_true, maskSupersetLimit]
      omega
  · have high : ¬ pair.value ≤ 0x7FF := by omega
    have outside : ¬ (Submask pair.value.toNat pair.mask ∧ pair.value.toNat < 2 ^ 11) :=
      fun both => small both.2
    rw [if_neg outside, Nat.zero_add]
    simp only [high, and_false, not_false_eq_true, iff_true]
    exact (power_le_iff _ ones).mpr fixed

theorem MaskPair.within_iff (pair : MaskPair) (accepted : pair.WithinLimit) :
    pair.authorizedIdentifiers ≤ maskSupersetLimit ↔ pair.StaysNarrow := by
  unfold MaskPair.StaysNarrow
  by_cases negative : pair.value < 0
  · simp only [pair.authorizedIdentifiers_of_negative negative, negative, true_or, iff_true]
    exact Nat.zero_le _
  · have natural : 0 ≤ pair.value := by omega
    by_cases reached : Submask pair.value.toNat pair.mask ∧ pair.value ≤ maxId true
    · obtain ⟨inside, inRange⟩ := reached
      have below : ¬ (maxId true : Int) < pair.value := by omega
      simp only [negative, below, inside, not_true_eq_false, false_or]
      by_cases standard : pair.mask ≤ 0x7FF
      · have broad := pair.standard_too_broad standard natural inside inRange
        constructor
        · intro within
          omega
        · rintro ⟨extended, _⟩
          omega
      · have extended : 0x7FF < pair.mask := by omega
        rw [pair.extended_within_iff extended natural inside inRange accepted]
        exact ⟨fun narrow => ⟨extended, narrow⟩, fun narrow => narrow.2⟩
    · have top : (maxId true : Int) = 2 ^ 29 - 1 := rfl
      have nothing : pair.authorizedIdentifiers = 0 := by
        rw [pair.authorizedIdentifiers_eq natural, matchCount_eq, matchCount_eq, if_neg, if_neg]
        · rintro ⟨inside, bound⟩
          exact reached ⟨inside, by omega⟩
        · rintro ⟨inside, bound⟩
          exact reached ⟨inside, by omega⟩
      rw [nothing]
      constructor
      · intro _
        by_cases inside : Submask pair.value.toNat pair.mask
        · exact Or.inr (Or.inl (by
            have outOfRange : ¬ pair.value ≤ maxId true := fun inRange =>
              reached ⟨inside, inRange⟩
            omega))
        · exact Or.inr (Or.inr (Or.inl inside))
      · exact fun _ => Nat.zero_le _

/-- A mask in force, after construction and any sequence of rebinds, keeps to
the limit exactly when it is one of the narrow ones. -/
theorem configured_mask_within_limit_iff (ids : Option (List Nat))
    (masks : Option (List (Int × Int))) (config : WhitelistConfig)
    (constructed : WhitelistConfig.new ids masks false = .ok config)
    (changes : List WhitelistChange) (pair : MaskPair)
    (member : pair ∈ (config.rebindAll changes).whitelist.masks) :
    pair.authorizedIdentifiers ≤ maskSupersetLimit ↔ pair.StaysNarrow :=
  pair.within_iff ((config.rebindAll_gated changes
    (WhitelistConfig.new_gated constructed)).masks pair member)

def testerResponses : MaskPair where
  value := 0x18DAF100
  mask := 0x1FFFFF00
  positive := by decide

theorem testerResponses_configured :
    WhitelistConfig.new none (some [(0x18DAF100, 0x1FFFFF00)]) false =
      .ok { whitelist := { ids := [], masks := [testerResponses] }, supersetAllowed := false } := by
  decide

theorem testerResponses_within_limit :
    testerResponses.authorizedIdentifiers ≤ maskSupersetLimit ↔ testerResponses.StaysNarrow :=
  configured_mask_within_limit_iff none _ _ testerResponses_configured [] testerResponses
    (List.mem_cons_self ..)

def standardDiagnostic : MaskPair where
  value := 0x7E0
  mask := 0x7FF
  positive := by decide

theorem standardDiagnostic_configured :
    WhitelistConfig.new none (some [(0x7E0, 0x7FF)]) false =
      .ok { whitelist := { ids := [], masks := [standardDiagnostic] },
            supersetAllowed := false } := by
  decide

theorem standardDiagnostic_exceeds_limit :
    ¬ ∀ (ids : Option (List Nat)) (masks : Option (List (Int × Int))) (config : WhitelistConfig),
        WhitelistConfig.new ids masks false = .ok config →
        ∀ (changes : List WhitelistChange),
        ∀ pair ∈ (config.rebindAll changes).whitelist.masks,
          pair.authorizedIdentifiers ≤ maskSupersetLimit := by
  intro narrow
  have within := narrow none _ _ standardDiagnostic_configured [] standardDiagnostic
    (List.mem_cons_self ..)
  have broad := standardDiagnostic.standard_too_broad (by decide) (by decide) (by decide)
    (by decide)
  omega

end Ucanlab.Safety

/-!
Which frames are state-mutating commands: the catalogue of services and
parameter groups, and the gateway's classification of a frame by its own bytes.
-/

namespace Ucanlab.Safety

open Ucanlab

def criticalUdsSids : List UInt8 :=
  [0x04, 0x10, 0x11, 0x14, 0x27, 0x28, 0x29, 0x2C, 0x2E, 0x2F, 0x31, 0x34, 0x36, 0x37,
    0x38, 0x3B, 0x3D, 0x84, 0x85, 0x86, 0x87]

/-- DM11, DM3, Commanded Address, TSC1 and XBR. -/
def criticalJ1939Pgns : List Nat := [65235, 65228, 65240, 0, 1024]

def j1939RequestPgn : Nat := 59904

def isoTp29BitPf : Nat := 0xDA
def isoTp29BitFunctionalPf : Nat := 0xDB

/-- The service byte of a Single or First Frame, `none` for frames without one. -/
def isoTpServiceByte (data : Bytes) (isFd : Bool) : Option UInt8 :=
  match data with
  | [] => none
  | first :: _ =>
      let pci := first.toNat >>> 4
      if pci = 0x0 then
        match data[1]? with
        | none => none
        | some second =>
            if first = 0x00 then
              if ¬ isFd then none
              else if second = 0x00 then data[6]?
              else if 8 ≤ second.toNat ∧ second.toNat ≤ 62 then data[2]?
              else none
            else some second
      else if pci = 0x1 then
        match data[1]? with
        | none => none
        | some second =>
            if second = 0x00 then
              if ¬ isFd then none else data[6]?
            else data[2]?
      else none

/-- The parameter group named by a Request payload, little-endian. -/
def j1939RequestedPgn (data : Bytes) : Option Nat :=
  match data with
  | low :: middle :: high :: _ =>
      some (low.toNat ||| (middle.toNat <<< 8) ||| (high.toNat <<< 16))
  | _ => none

def isDiagnosticPf (arbitrationId : Nat) : Bool :=
  let pf := (arbitrationId >>> 16) &&& 0xFF
  pf == isoTp29BitPf || pf == isoTp29BitFunctionalPf

/-- The classification on the fields it reads. -/
def bytesAreCritical (whitelist : Whitelist) (arbitrationId : Nat)
    (isExtended isFd : Bool) (data : Bytes) : Bool :=
  match data with
  | [] => false
  | first :: _ =>
      if ¬ isExtended then
        if ¬ whitelist.authorizes arbitrationId then false
        else
          match isoTpServiceByte data isFd with
          | none => false
          | some sid => criticalUdsSids.contains sid
      else if whitelist.isEmpty then false
      else if isDiagnosticPf arbitrationId then
        match isoTpServiceByte data isFd with
        | none => decide (first.toNat >>> 4 = 0x0 ∨ first.toNat >>> 4 = 0x1)
        | some sid => criticalUdsSids.contains sid
      else
        let pgn := (arbitrationId >>> 8) &&& 0x3FFFF
        if criticalJ1939Pgns.contains pgn then true
        else if pgn = j1939RequestPgn then
          match j1939RequestedPgn data with
          | none => true
          | some requested => criticalJ1939Pgns.contains requested
        else false

def frameIsCritical (whitelist : Whitelist) (frame : CanFrame) : Bool :=
  bytesAreCritical whitelist frame.arbitrationId frame.isExtended frame.isFd frame.data

end Ucanlab.Safety
