import Ucanlab.Lib.Regex
import Ucanlab.Core.PyText

/-!
What the language knows of characters beyond ASCII.
-/

namespace Ucanlab

structure CharTable where
  isAlpha : Char → Bool
  isDigit : Char → Bool
  isNumeric : Char → Bool
  ascii : ∀ c : Char, c.toNat < 0x80 →
    isAlpha c = c.isAlpha ∧ isDigit c = c.isDigit ∧ isNumeric c = c.isDigit
  upper : Char → List Char
  asciiUpper : ∀ c : Char, c.toNat < 0x80 → upper c = [c.toUpper]
  longS : isAlpha '\u017F' = true
  kelvin : isAlpha '\u212A' = true

namespace CharTable

variable (table : CharTable)

def letterOrDigit (c : Char) : Bool := table.isAlpha c || table.isDigit c

/-- `\w`. -/
def wordChar (c : Char) : Bool := table.letterOrDigit c || table.isNumeric c || c == '_'

def letterOrDigitAt (neighbour : Option Char) : Bool := neighbour.any table.letterOrDigit

def wordAt (neighbour : Option Char) : Bool := neighbour.any table.wordChar

/-- `str.upper`. -/
def upperText (text : List Char) : List Char := text.flatMap table.upper

/-- `\b`. -/
def boundary : Regex := .look (fun prev rest => table.wordAt prev != table.wordAt rest.head?)

end CharTable

/-- The letters and digits of ASCII, and the two that count as ASCII ones in either case. -/
def plainTable : CharTable where
  isAlpha c := c.isAlpha || c == '\u017F' || c == '\u212A'
  isDigit c := c.isDigit
  isNumeric c := c.isDigit
  ascii := by
    intro c small
    have longS : c ≠ '\u017F' := by
      rintro rfl
      exact absurd small (by decide)
    have kelvin : c ≠ '\u212A' := by
      rintro rfl
      exact absurd small (by decide)
    rw [beq_eq_false_iff_ne.mpr longS, beq_eq_false_iff_ne.mpr kelvin, Bool.or_false,
      Bool.or_false]
    exact ⟨rfl, rfl, rfl⟩
  upper c := [c.toUpper]
  asciiUpper _ _ := rfl
  longS := by decide
  kelvin := by decide

end Ucanlab

/-!
Lower case as the language has it: a character may become several, and a capital sigma one of two by
what stands around it.
-/

namespace Ucanlab

structure LowerTable where
  lower : Char → List Char
  finalSigma : List Char → List Char → Bool
  ascii : ∀ c : Char, c.toNat < 0x80 → lower c = [c.toLower]
  fixed : ∀ c, ∀ d ∈ lower c, lower d = [d]
  capitalSigma : lower '\u03A3' = ['\u03C3']
  smallSigma : lower '\u03C2' = ['\u03C2']

namespace LowerTable

variable (table : LowerTable)

def lowerFrom (before : List Char) : List Char → List Char
  | [] => []
  | c :: rest =>
      (if c = '\u03A3' ∧ table.finalSigma before rest then ['\u03C2'] else table.lower c) ++
        lowerFrom (c :: before) rest

/-- `str.lower`. -/
def lowerText (text : List Char) : List Char := table.lowerFrom [] text

def Fixed (c : Char) : Prop := table.lower c = [c]

variable {table}

theorem lowerFrom_fixed {before text : List Char} {c : Char}
    (member : c ∈ table.lowerFrom before text) : table.Fixed c := by
  induction text generalizing before with
  | nil => exact absurd member List.not_mem_nil
  | cons head rest ih =>
      unfold lowerFrom at member
      rcases List.mem_append.mp member with here | later
      · split at here
        · rw [List.mem_singleton.mp here]
          exact table.smallSigma
        · exact table.fixed head c here
      · exact ih later

theorem lowerText_fixed {text : List Char} {c : Char} (member : c ∈ table.lowerText text) :
    table.Fixed c :=
  lowerFrom_fixed member

theorem capitalSigma_not_fixed : ¬ table.Fixed '\u03A3' := by
  intro fixed
  unfold Fixed at fixed
  rw [table.capitalSigma] at fixed
  exact absurd fixed (by decide)

theorem Fixed.not_upper {c : Char} (fixed : table.Fixed c) (small : c.toNat < 0x80) :
    c.toLower = c := by
  unfold Fixed at fixed
  rw [table.ascii c small] at fixed
  exact List.singleton_inj.mp fixed

theorem lowerFrom_of_fixed {before text : List Char} (fixed : ∀ c ∈ text, table.Fixed c) :
    table.lowerFrom before text = text := by
  induction text generalizing before with
  | nil => rfl
  | cons head rest ih =>
      obtain ⟨first, others⟩ := List.forall_mem_cons.mp fixed
      have plain : head ≠ '\u03A3' := by
        rintro rfl
        exact capitalSigma_not_fixed first
      unfold lowerFrom
      rw [if_neg (fun sigma => plain sigma.1), first, ih others, List.singleton_append]

theorem lowerText_of_fixed {text : List Char} (fixed : ∀ c ∈ text, table.Fixed c) :
    table.lowerText text = text :=
  lowerFrom_of_fixed fixed

end LowerTable

theorem ascii_toLower (code : Fin 0x80) :
    (Char.ofNat code).toLower.toNat < 0x80 ∧
      (Char.ofNat code).toLower.toLower = (Char.ofNat code).toLower := by
  revert code
  decide +kernel

def plainLower : LowerTable where
  lower c :=
    if c.toNat < 0x80 then [c.toLower] else if c = '\u03A3' then ['\u03C3'] else [c]
  finalSigma _ rest := rest.isEmpty
  ascii := fun c small => if_pos small
  fixed := by
    intro c d member
    by_cases small : c.toNat < 0x80
    · rw [if_pos small, List.mem_singleton] at member
      have stays := ascii_toLower ⟨c.toNat, small⟩
      rw [Char.ofNat_toNat] at stays
      rw [member, if_pos stays.1, stays.2]
    · rw [if_neg small] at member
      split at member
      · rw [List.mem_singleton.mp member]
        decide
      next plain =>
        rw [List.mem_singleton.mp member, if_neg small, if_neg plain]
  capitalSigma := by decide
  smallSigma := by decide

end Ucanlab
