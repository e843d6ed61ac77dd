import Ucanlab.Lib.JsonValue

/-!
A reader of JSON texts. It follows the usual decoders: space between the tokens, strict strings,
a pair of escaped surrogates joined to one code point, and of the entries of a dict with one key
the last. Numbers with a fraction or an exponent are refused, as no value here stands for them.
-/

namespace JsonText

open CodePoint (ofChar text)

section Strings

def hexDigit (point : CodePoint) : Option Nat :=
  if 0x30 ≤ point.val ∧ point.val ≤ 0x39 then some (point.val - 0x30)
  else if 0x61 ≤ point.val ∧ point.val ≤ 0x66 then some (point.val - 0x57)
  else if 0x41 ≤ point.val ∧ point.val ≤ 0x46 then some (point.val - 0x37)
  else none

def readHex4 : Text → Option (Nat × Text)
  | first :: second :: third :: fourth :: rest => do
      let first ← hexDigit first
      let second ← hexDigit second
      let third ← hexDigit third
      let fourth ← hexDigit fourth
      return (((first * 0x10 + second) * 0x10 + third) * 0x10 + fourth, rest)
  | _ => none

/-- The escaped low surrogate that may follow a high one. -/
def readLow : Text → Option (Nat × Text)
  | slash :: mark :: rest =>
      if slash = backslash ∧ mark = ofChar 'u' then
        (readHex4 rest).filter (fun found => 0xDC00 ≤ found.1 && found.1 < 0xE000)
      else none
  | _ => none

def unescape (mark : CodePoint) : Option CodePoint :=
  if mark = quote then some quote
  else if mark = backslash then some backslash
  else if mark = ofChar '/' then some (ofChar '/')
  else if mark = ofChar 'b' then some 0x08
  else if mark = ofChar 'f' then some 0x0C
  else if mark = ofChar 'n' then some 0x0A
  else if mark = ofChar 'r' then some 0x0D
  else if mark = ofChar 't' then some 0x09
  else none

/-- What stands behind a backslash. -/
def readEscape : Text → Option (CodePoint × Text)
  | [] => none
  | mark :: rest =>
      if mark = ofChar 'u' then do
        let (unit, rest) ← readHex4 rest
        if 0xD800 ≤ unit ∧ unit < 0xDC00 then
          match readLow rest with
          | some (low, rest) =>
              return (Fin.ofNat 0x110000 (0x10000 + (unit - 0xD800) * 0x400 + (low - 0xDC00)), rest)
          | none => return (Fin.ofNat 0x110000 unit, rest)
        else return (Fin.ofNat 0x110000 unit, rest)
      else (unescape mark).map (fun point => (point, rest))

/-- The characters up to the closing quote, which is taken as well. -/
def readBody : Nat → Text → Option (Text × Text)
  | 0, _ => none
  | _ + 1, [] => none
  | fuel + 1, point :: rest =>
      if point = quote then some ([], rest)
      else if point = backslash then do
        let (point, rest) ← readEscape rest
        let (later, rest) ← readBody fuel rest
        return (point :: later, rest)
      else if point.val < 0x20 then none
      else do
        let (later, rest) ← readBody fuel rest
        return (point :: later, rest)

end Strings

section Numbers

def isDigit (point : CodePoint) : Bool := 0x30 ≤ point.val && point.val ≤ 0x39

def digitsValue (points : Text) : Nat :=
  points.foldl (fun total point => 10 * total + (point.val - 0x30)) 0

/-- Behind an integer neither a fraction nor an exponent may begin. -/
def wholeNumber (number : Nat) : Text → Option (Nat × Text)
  | [] => some (number, [])
  | point :: rest =>
      if point = ofChar '.' ∨ point = ofChar 'e' ∨ point = ofChar 'E' then none
      else some (number, point :: rest)

def readNat : Text → Option (Nat × Text)
  | [] => none
  | first :: rest =>
      if first = ofChar '0' then wholeNumber 0 rest
      else if isDigit first then
        wholeNumber (digitsValue ((first :: rest).takeWhile isDigit))
          ((first :: rest).dropWhile isDigit)
      else none

def readInt : Text → Option (Value × Text)
  | [] => none
  | first :: rest =>
      if first = ofChar '-' then
        (readNat rest).map (fun found => (.int (-(found.1 : Int)), found.2))
      else (readNat (first :: rest)).map (fun found => (.int found.1, found.2))

end Numbers

section Values

def skipSpace (points : Text) : Text := points.dropWhile isSpace

def readWord (word : Text) (value : Value) (points : Text) : Option (Value × Text) :=
  if word.isPrefixOf points then some (value, points.drop word.length) else none

/-- Later entries replace earlier ones with their key. -/
def dictOf (pairs : List (Text × Value)) : List (Text × Value) :=
  pairs.foldl (fun dict pair => Dict.set dict pair.1 pair.2) []

mutual

def readValue : Nat → Text → Option (Value × Text)
  | 0, _ => none
  | _ + 1, [] => none
  | fuel + 1, first :: rest =>
      if first = quote then
        (readBody rest.length rest).map (fun found => (.str found.1, found.2))
      else if first = ofChar '\x7b' then
        match skipSpace rest with
        | [] => none
        | next :: later =>
            if next = ofChar '\x7d' then some (.dict [], later)
            else (readEntries fuel (next :: later)).map
              (fun found => (.dict (dictOf found.1), found.2))
      else if first = ofChar '[' then
        match skipSpace rest with
        | [] => none
        | next :: later =>
            if next = ofChar ']' then some (.list [], later)
            else (readItems fuel (next :: later)).map (fun found => (.list found.1, found.2))
      else if first = ofChar 'n' then readWord (text ['n', 'u', 'l', 'l']) .null (first :: rest)
      else if first = ofChar 't' then
        readWord (text ['t', 'r', 'u', 'e']) (.bool true) (first :: rest)
      else if first = ofChar 'f' then
        readWord (text ['f', 'a', 'l', 's', 'e']) (.bool false) (first :: rest)
      else readInt (first :: rest)

def readItems : Nat → Text → Option (List Value × Text)
  | 0, _ => none
  | fuel + 1, points => do
      let (item, rest) ← readValue fuel points
      match skipSpace rest with
      | [] => none
      | next :: later =>
          if next = ofChar ']' then return ([item], later)
          else if next = ofChar ',' then do
            let (items, rest) ← readItems fuel (skipSpace later)
            return (item :: items, rest)
          else none

def readEntries : Nat → Text → Option (List (Text × Value) × Text)
  | 0, _ => none
  | _ + 1, [] => none
  | fuel + 1, first :: rest =>
      if first = quote then do
        let (key, rest) ← readBody rest.length rest
        match skipSpace rest with
        | [] => none
        | mark :: rest =>
            if mark = ofChar ':' then do
              let (value, rest) ← readValue fuel (skipSpace rest)
              match skipSpace rest with
              | [] => none
              | next :: later =>
                  if next = ofChar '\x7d' then return ([(key, value)], later)
                  else if next = ofChar ',' then do
                    let (entries, rest) ← readEntries fuel (skipSpace later)
                    return ((key, value) :: entries, rest)
                  else none
            else none
      else none

end

def read (points : Text) : Option Value := do
  let (value, rest) ← readValue (2 * points.length) (skipSpace points)
  if skipSpace rest = [] then return value else none

end Values

example : read (text [' ', '[', '-', '1', ',', '"', '\\', 'u', '0', '0', '4', '1', '"', ']']) =
    some (.list [.int (-1), .str [0x41]]) := by rfl

end JsonText
