import EventScript.Json.Basic
import EventScript.Text.Decimal

/-!
# Reading JSON texts

A text has to be well formed in full. Numbers are whole when they are written without fraction and
exponent and fit into 64 bits, signed or unsigned; minus zero is not a whole number. Three things
are well formed but not readable: numbers that are not finite in double precision, halves of
surrogate pairs, and values that nest more than 127 levels deep. `parse?` refuses them, and `scan?`
leaves them to the reader of the value.
-/

namespace EventScript.Json

open EventScript.Text

/-- Drop the blanks that may stand between tokens. -/
def skipBlanks (cs : List Char) : List Char :=
  cs.dropWhile fun c => c == ' ' || c == '\n' || c == '\t' || c == '\r'

/-- The value of a hexadecimal digit. -/
def hexDigit? (c : Char) : Option Nat :=
  if '0' ≤ c ∧ c ≤ '9' then some (c.toNat - 48)
  else if 'a' ≤ c ∧ c ≤ 'f' then some (c.toNat - 87)
  else if 'A' ≤ c ∧ c ≤ 'F' then some (c.toNat - 55)
  else none

/-- Read four hexadecimal digits. -/
def hexUnit? : List Char → Option (Nat × List Char)
  | a :: b :: c :: d :: rest => do
    let n := 16 * (16 * (16 * (← hexDigit? a) + (← hexDigit? b)) + (← hexDigit? c))
    return (n + (← hexDigit? d), rest)
  | _ => none

/-- A part of a string: a character, or one half of a surrogate pair with its ten bits. -/
inductive StringPart where
  | char (c : Char)
  | high (bits : Nat)
  | low (bits : Nat)

/-- The characters of parts, if all halves stand in pairs. -/
def joinParts? : List StringPart → Option (List Char)
  | [] => some []
  | .char c :: rest => (joinParts? rest).map (c :: ·)
  | .high n :: .low m :: rest => (joinParts? rest).map (Char.ofNat (0x10000 + n * 0x400 + m) :: ·)
  | _ => none

/-- Read what follows a backslash and a `u`. -/
def unicodeEscape? (cs : List Char) : Option (StringPart × List Char) := do
  let (n, rest) ← hexUnit? cs
  if 0xD800 ≤ n ∧ n ≤ 0xDBFF then some (.high (n - 0xD800), rest)
  else if 0xDC00 ≤ n ∧ n ≤ 0xDFFF then some (.low (n - 0xDC00), rest)
  else some (.char (Char.ofNat n), rest)

/-- Read what follows a backslash. -/
def escape? : List Char → Option (StringPart × List Char)
  | '"' :: rest => some (.char '"', rest)
  | '\\' :: rest => some (.char '\\', rest)
  | '/' :: rest => some (.char '/', rest)
  | 'b' :: rest => some (.char '\x08', rest)
  | 'f' :: rest => some (.char '\x0c', rest)
  | 'n' :: rest => some (.char '\n', rest)
  | 'r' :: rest => some (.char '\r', rest)
  | 't' :: rest => some (.char '\t', rest)
  | 'u' :: rest => unicodeEscape? rest
  | _ => none

/-- Read a string behind its opening quote; no string is longer than the fuel. -/
def stringParts? : Nat → List Char → Option (List StringPart × List Char)
  | 0, _ => none
  | _ + 1, [] => none
  | fuel + 1, c :: rest =>
    if c = '"' then some ([], rest)
    else if c = '\\' then do
      let (d, rest) ← escape? rest
      let (ds, rest) ← stringParts? fuel rest
      return (d :: ds, rest)
    else if c.toNat < 32 then none
    else do
      let (ds, rest) ← stringParts? fuel rest
      return (.char c :: ds, rest)

/-- Read a string behind its opening quote; it may not be readable. -/
def string? (cs : List Char) : Option (Option String × List Char) :=
  (stringParts? (cs.length + 1) cs).map fun (parts, rest) =>
    ((joinParts? parts).map String.ofList, rest)

/-- Whether a character is an ASCII digit. -/
def isDigit (c : Char) : Bool := '0' ≤ c && c ≤ '9'

/-- Read the digits of a whole number: a zero alone, or digits that start with another one. -/
def wholeDigits? (cs : List Char) : Option (List Char × List Char) :=
  let ds := cs.takeWhile isDigit
  match ds with
  | [] => none
  | '0' :: _ :: _ => none
  | _ => some (ds, cs.drop ds.length)

/-- Read a fraction, if one stands here. -/
def fraction? : List Char → Option (List Char × List Char)
  | '.' :: rest =>
    let ds := rest.takeWhile isDigit
    if ds.isEmpty then none else some ('.' :: ds, rest.drop ds.length)
  | cs => some ([], cs)

/-- Read an exponent, if one stands here. -/
def exponent? : List Char → Option (List Char × List Char)
  | [] => some ([], [])
  | c :: rest =>
    if c = 'e' ∨ c = 'E' then
      let (sign, rest) := match rest with
        | '+' :: rest => (['+'], rest)
        | '-' :: rest => (['-'], rest)
        | rest => ([], rest)
      let ds := rest.takeWhile isDigit
      if ds.isEmpty then none else some (c :: sign ++ ds, rest.drop ds.length)
    else some ([], c :: rest)

/-- The least number that is rounded to infinity in double precision. -/
def infiniteFrom : Nat := Nat.pow 2 1024 - Nat.pow 2 970

/-- The nearest number of 53 significant bits; of two the one whose last bit is zero. -/
def roundDouble (n : Nat) : Nat :=
  let unit := Nat.pow 2 (n.log2 - 52)
  let q := n / unit
  let r := n % unit
  if unit < 2 * r ∨ (2 * r = unit ∧ q % 2 = 1) then (q + 1) * unit else q * unit

/-- The digits of a number that count: as many as fit into 64 bits. -/
structure Significand where
  /-- The number they form. -/
  value : Nat
  /-- The power of ten it is multiplied by. -/
  exponent : Int
  /-- Whether a digit did not fit; the later ones do not count then. -/
  isFull : Bool

/-- Put a digit behind others, before the point or behind it. -/
def Significand.push (isFraction : Bool) (s : Significand) (c : Char) : Significand :=
  let value := 10 * s.value + (c.toNat - 48)
  let fits := decide (value < UInt64.size)
  if s.isFull || !fits then
    ⟨s.value, if isFraction then s.exponent else s.exponent + 1, true⟩
  else ⟨value, if isFraction then s.exponent - 1 else s.exponent, false⟩

/-- Whether a number is finite when it is computed in double precision: the digits that count are
rounded, and so is their product with a power of ten. -/
def Significand.isFinite (s : Significand) : Bool :=
  if s.value = 0 ∨ s.exponent < 0 then true
  else if 308 < s.exponent then false
  else decide (roundDouble s.value * roundDouble (Nat.pow 10 s.exponent.toNat) < infiniteFrom)

/-- Whether the digits before and behind a point, moved by an exponent, are a finite number. -/
def isFinite (ds fraction : List Char) (exponent : Int) : Bool :=
  let whole := ds.foldl (Significand.push false) ⟨0, 0, false⟩
  let s := fraction.foldl (Significand.push true) { whole with isFull := false }
  { s with exponent := s.exponent + exponent }.isFinite

/-- Read a number. One that is not finite is not readable. -/
def number? (cs : List Char) : Option (Json × List Char) := do
  let (sign, rest) := match cs with
    | '-' :: rest => (['-'], rest)
    | rest => ([], rest)
  let (ds, rest) ← wholeDigits? rest
  let (frac, rest) ← fraction? rest
  let (expo, rest) ← exponent? rest
  let written := String.ofList (sign ++ ds ++ frac ++ expo)
  let value ← Decimal.integer? (sign ++ ds)
  let whole := frac.isEmpty && expo.isEmpty && (sign.isEmpty || value != 0) &&
    decide (Int64.minValue.toInt ≤ value ∧ value < UInt64.size)
  if whole then return (.num value, rest)
  else if isFinite ds (frac.drop 1) ((Decimal.integer? (expo.drop 1)).getD 0) then
    return (.real written, rest)
  else return (.unreadable, rest)

/-- A container of a number of levels that may still be opened, the container included. -/
def nested (levels : Nat) (j : Json) : Json := if levels = 0 then .unreadable else j

/-- An object whose member names may not be readable. -/
def ofMembers (ms : List (Option String × Json)) : Json :=
  match ms.mapM fun (name, j) => name.map fun s => (s, j) with
  | some ms => .obj ms
  | none => .unreadable

mutual

/-- Read one value; what nests deeper than `levels` is not readable. -/
def value? : Nat → Nat → List Char → Option (Json × List Char)
  | 0, _, _ => none
  | fuel + 1, levels, cs =>
    match skipBlanks cs with
    | 'n' :: 'u' :: 'l' :: 'l' :: rest => some (.null, rest)
    | 't' :: 'r' :: 'u' :: 'e' :: rest => some (.bool true, rest)
    | 'f' :: 'a' :: 'l' :: 's' :: 'e' :: rest => some (.bool false, rest)
    | '"' :: rest => (string? rest).map fun (s, rest) => ((s.map Json.str).getD .unreadable, rest)
    | '[' :: rest =>
      match skipBlanks rest with
      | ']' :: rest => some (nested levels (.arr []), rest)
      | rest => (items? fuel (levels - 1) rest).map fun (js, rest) =>
          (nested levels (.arr js), rest)
    | '\x7b' :: rest =>
      match skipBlanks rest with
      | '\x7d' :: rest => some (nested levels (.obj []), rest)
      | rest => (members? fuel (levels - 1) rest).map fun (ms, rest) =>
          (nested levels (ofMembers ms), rest)
    | rest => number? rest

/-- Read one or more items and the closing bracket. -/
def items? : Nat → Nat → List Char → Option (List Json × List Char)
  | 0, _, _ => none
  | fuel + 1, levels, cs => do
    let (j, rest) ← value? fuel levels cs
    match skipBlanks rest with
    | ']' :: rest => return ([j], rest)
    | ',' :: rest =>
      let (js, rest) ← items? fuel levels rest
      return (j :: js, rest)
    | _ => none

/-- Read one or more members and the closing brace. -/
def members? : Nat → Nat → List Char → Option (List (Option String × Json) × List Char)
  | 0, _, _ => none
  | fuel + 1, levels, cs =>
    match skipBlanks cs with
    | '"' :: rest => do
      let (name, rest) ← string? rest
      match skipBlanks rest with
      | ':' :: rest =>
        let (j, rest) ← value? fuel levels rest
        match skipBlanks rest with
        | '\x7d' :: rest => return ([(name, j)], rest)
        | ',' :: rest =>
          let (ms, rest) ← members? fuel levels rest
          return ((name, j) :: ms, rest)
        | _ => none
      | _ => none
    | _ => none

end

/-- The number of levels that values may nest. -/
def maxLevels : Nat := 127

/-- Read a text that holds one value, which may have unreadable parts, and blanks around it. -/
def scan? (s : String) : Option Json :=
  let cs := s.toList
  match value? (cs.length + 1) maxLevels cs with
  | some (j, rest) => if (skipBlanks rest).isEmpty then some j else none
  | none => none

/-- Read a text that holds one value and blanks around it. -/
def parse? (s : String) : Option Json :=
  match scan? s with
  | some j => if j.isReadable then some j else none
  | none => none

end EventScript.Json
