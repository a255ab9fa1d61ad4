import EventScript.Json.Basic
import EventScript.Text.Decimal

/-!
# Writing JSON texts

Two layouts: on one line without blanks, and with every item and member on a line of its own,
indented by two spaces a level. Characters outside ASCII are written as they are. What cannot be
read has no text either; null stands in its place.
-/

namespace EventScript.Json

open EventScript.Text

/-- The lower-case hexadecimal digit of a number below 16. -/
def hexLower (n : Nat) : Char := if n < 10 then Char.ofNat (48 + n) else Char.ofNat (87 + n)

/-- A character as it stands in a string. -/
def escaped (c : Char) : List Char :=
  if c = '"' then ['\\', '"']
  else if c = '\\' then ['\\', '\\']
  else if c = '\x08' then ['\\', 'b']
  else if c = '\x0c' then ['\\', 'f']
  else if c = '\n' then ['\\', 'n']
  else if c = '\r' then ['\\', 'r']
  else if c = '\t' then ['\\', 't']
  else if c.toNat < 32 then ['\\', 'u', '0', '0', hexLower (c.toNat / 16), hexLower (c.toNat % 16)]
  else [c]

/-- A quoted string. -/
def quoted (s : String) : List Char := '"' :: (s.toList.flatMap escaped ++ ['"'])

mutual

/-- A value on one line. -/
def compactChars : Json → List Char
  | .null => ['n', 'u', 'l', 'l']
  | .bool true => ['t', 'r', 'u', 'e']
  | .bool false => ['f', 'a', 'l', 's', 'e']
  | .num n => Decimal.ofInt n
  | .real written => written.toList
  | .str s => quoted s
  | .arr [] => ['[', ']']
  | .arr (j :: rest) => '[' :: (compactChars j ++ compactItems rest)
  | .obj [] => ['\x7b', '\x7d']
  | .obj ((k, j) :: rest) => '\x7b' :: (quoted k ++ ':' :: (compactChars j ++ compactMembers rest))
  | .unreadable => ['n', 'u', 'l', 'l']

/-- The items behind the first one, and the closing bracket. -/
def compactItems : List Json → List Char
  | [] => [']']
  | j :: rest => ',' :: (compactChars j ++ compactItems rest)

/-- The members behind the first one, and the closing brace. -/
def compactMembers : List (String × Json) → List Char
  | [] => ['\x7d']
  | (k, j) :: rest => ',' :: (quoted k ++ ':' :: (compactChars j ++ compactMembers rest))

end

/-- A value as a text on one line. -/
def compact (j : Json) : String := String.ofList j.compactChars

/-- The start of a line at a level. -/
def newline (level : Nat) : List Char := '\n' :: List.replicate (2 * level) ' '

mutual

/-- A value whose first line stands at a level. -/
def prettyChars (level : Nat) : Json → List Char
  | .arr (j :: rest) =>
    '[' :: (newline (level + 1) ++ prettyChars (level + 1) j ++ prettyItems level rest)
  | .obj ((k, j) :: rest) =>
    '\x7b' :: (newline (level + 1) ++ quoted k ++ ':' :: ' ' :: prettyChars (level + 1) j ++
      prettyMembers level rest)
  | .null => ['n', 'u', 'l', 'l']
  | .bool true => ['t', 'r', 'u', 'e']
  | .bool false => ['f', 'a', 'l', 's', 'e']
  | .num n => Decimal.ofInt n
  | .real written => written.toList
  | .str s => quoted s
  | .arr [] => ['[', ']']
  | .obj [] => ['\x7b', '\x7d']
  | .unreadable => ['n', 'u', 'l', 'l']

/-- The items behind the first one of an array at a level, and the closing bracket. -/
def prettyItems (level : Nat) : List Json → List Char
  | [] => newline level ++ [']']
  | j :: rest => ',' :: (newline (level + 1) ++ prettyChars (level + 1) j ++ prettyItems level rest)

/-- The members behind the first one of an object at a level, and the closing brace. -/
def prettyMembers (level : Nat) : List (String × Json) → List Char
  | [] => newline level ++ ['\x7d']
  | (k, j) :: rest =>
    ',' :: (newline (level + 1) ++ quoted k ++ ':' :: ' ' :: prettyChars (level + 1) j ++
      prettyMembers level rest)

end

/-- A value as a text with one item or member a line. -/
def pretty (j : Json) : String := String.ofList (j.prettyChars 0)

end EventScript.Json
