import EventScript.Json.Record
import EventScript.Text.Blank
import EventScript.Text.Case

/-!
# Variables and their values

A variable lives in one of four scopes and holds a value of one of three types. Values are written
as text for players and read from what players type; `Value.parse?` reads exactly the three small
grammars given there.
-/

namespace EventScript

open EventScript.Text FieldReader

/-- Who shares a variable. -/
inductive Scope where
  | player | user | guild | server
  deriving DecidableEq

namespace Scope

/-- The word for a scope in messages. -/
def word : Scope → String
  | player => "player"
  | user => "user"
  | guild => "guild"
  | server => "server"

/-- The position of a scope among all scopes. -/
def index : Scope → Nat
  | player => 0
  | user => 1
  | guild => 2
  | server => 3

theorem index_injective {a b : Scope} (h : a.index = b.index) : a = b := by
  cases a <;> cases b <;> first | rfl | exact absurd h (by decide)

end Scope

instance : Enumerated Scope where
  all := [.player, .user, .guild, .server]
  name
    | .player => "Player"
    | .user => "User"
    | .guild => "Guild"
    | .server => "Server"

/-- One variable in one scope. -/
structure VariableRef where
  /-- The scope it lives in. -/
  scope : Scope
  /-- Its identifier within the scope. -/
  id : VariableId
  deriving DecidableEq

instance : Keyed VariableRef where
  rank v := [v.scope.index, v.id.value.toNat]
  rank_injective a b h := by
    obtain ⟨sa, ia⟩ := a
    obtain ⟨sb, ib⟩ := b
    simp only [List.cons.injEq, and_true] at h
    rw [Scope.index_injective h.1, Id.eq_of_toNat_eq h.2]

instance : JsonForm VariableRef where
  toJson v := .obj [("scope", toJson v.scope), ("id", toJson v.id)]
  read? := Json.record? do return ⟨← required "scope", ← required "id"⟩

/-- The type of a variable's values. -/
inductive DataType where
  | boolean | integer | string
  deriving DecidableEq

instance : Enumerated DataType where
  all := [.boolean, .integer, .string]
  name
    | .boolean => "Boolean"
    | .integer => "Integer"
    | .string => "String"

/-- The value of a variable. -/
inductive Value where
  | boolean (value : Bool)
  | integer (value : Int64)
  | string (value : String)
  deriving DecidableEq

/-- The values kept for one owner. -/
abbrev VariableStore := Table VariableId Value

namespace Value

/-- The value of a variable that was never set. -/
def zero : DataType → Value
  | .boolean => .boolean false
  | .integer => .integer 0
  | .string => .string ""

/-- The type of a value. -/
def dataType : Value → DataType
  | boolean _ => .boolean
  | integer _ => .integer
  | string _ => .string

/-- The truth value of a boolean. -/
def boolean? : Value → Option Bool
  | boolean b => some b
  | _ => none

/-- The number of an integer. -/
def integer? : Value → Option Int64
  | integer n => some n
  | _ => none

/-- The text of a string. -/
def string? : Value → Option String
  | string s => some s
  | _ => none

/-- The text players see. -/
def text : Value → String
  | boolean true => "true"
  | boolean false => "false"
  | integer n => Decimal.render n.toInt
  | string s => s

/-- Read a truth value: one of three words for each, in any ASCII case. -/
def parseBoolean? (s : String) : Option Bool :=
  let w := asciiLower s
  if w = "true" ∨ w = "yes" ∨ w = "1" then some true
  else if w = "false" ∨ w = "no" ∨ w = "0" then some false
  else none

/-- Read what a player typed as a value of a type. Blanks around a truth value or a number do not
count; a string is taken as it is. -/
def parse? (type : DataType) (input : String) : Option Value :=
  match type with
  | .boolean => (parseBoolean? (trim input)).map boolean
  | .integer => ((Decimal.integer? (trimChars input.toList)).bind int64?).map integer
  | .string => some (string input)

@[simp] theorem dataType_zero (t : DataType) : (zero t).dataType = t := by
  cases t <;> rfl

end Value

instance : JsonForm Value where
  toJson
    | .boolean b => .obj [("type", .str "Boolean"), ("value", toJson b)]
    | .integer n => .obj [("type", .str "Integer"), ("value", toJson n)]
    | .string s => .obj [("type", .str "String"), ("value", toJson s)]
  read? m j := do
    match ← j.adjacent? "type" "value" m with
    | ("Boolean", c) => return .boolean (← c.read?)
    | ("Integer", c) => return .integer (← c.read?)
    | ("String", c) => return .string (← c.read?)
    | _ => none

/-- How two numbers are compared. -/
inductive Comparator where
  | equal | notEqual | greater | greaterOrEqual | less | lessOrEqual
  deriving DecidableEq

instance : Enumerated Comparator where
  all := [.equal, .notEqual, .greater, .greaterOrEqual, .less, .lessOrEqual]
  name
    | .equal => "Equal"
    | .notEqual => "NotEqual"
    | .greater => "Greater"
    | .greaterOrEqual => "GreaterOrEqual"
    | .less => "Less"
    | .lessOrEqual => "LessOrEqual"

/-- Whether two numbers compare as asked. -/
def Comparator.compare (c : Comparator) (left right : Int64) : Bool :=
  match c with
  | equal => left == right
  | notEqual => left != right
  | greater => decide (right < left)
  | greaterOrEqual => decide (right ≤ left)
  | less => decide (left < right)
  | lessOrEqual => decide (left ≤ right)

end EventScript
