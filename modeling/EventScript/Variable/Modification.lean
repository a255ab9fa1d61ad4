import EventScript.Variable.Value

/-!
# Modifications of variables

What a script may do to a variable, one family of operations for every type, and the arithmetic of
the integer operations: exact arithmetic modulo 2 to the 64.
-/

namespace EventScript

open FieldReader

/-- An operation on a boolean variable. -/
inductive BooleanMod where
  | set (value : Bool)
  /-- Copy the boolean held by another variable. -/
  | duplicate (source : VariableRef)
  deriving DecidableEq

/-- An operator of an integer variable with an operand. -/
inductive CombineOp where
  | set | add | subtract | multiply | divide | leftShift | rightShift
  deriving DecidableEq

instance : Enumerated CombineOp where
  all := [.set, .add, .subtract, .multiply, .divide, .leftShift, .rightShift]
  name
    | .set => "Set"
    | .add => "Add"
    | .subtract => "Subtract"
    | .multiply => "Multiply"
    | .divide => "Divide"
    | .leftShift => "LeftShift"
    | .rightShift => "RightShift"

/-- Combine two integers. Sums, differences, products, quotients and left shifts wrap around; a
quotient is truncated toward zero and there is none by zero; a shift amount counts modulo 64. -/
def CombineOp.combine? (op : CombineOp) (current operand : Int64) : Option Int64 :=
  match op with
  | set => some operand
  | add => some (current + operand)
  | subtract => some (current - operand)
  | multiply => some (current * operand)
  | divide => if operand = 0 then none else some (current / operand)
  | leftShift => some (current <<< operand)
  | rightShift => some (current >>> operand)

/-- An operation on an integer variable. -/
inductive IntegerMod where
  | set (value : Int64)
  | add (value : Int64)
  | subtract (value : Int64)
  | multiply (value : Int64)
  | divide (value : Int64)
  | leftShift (value : Int64)
  | rightShift (value : Int64)
  /-- A random number between two ends, which may come in either order. -/
  | random (low high : Int64)
  /-- The current wall-clock time in milliseconds. -/
  | systemTime
  /-- Combine with the integer held by another variable. -/
  | combine (op : CombineOp) (source : VariableRef)
  deriving DecidableEq

/-- An operation on a string variable; its texts are expanded first. -/
inductive StringMod where
  | set (text : String)
  | replace (find replace : String)
  deriving DecidableEq

/-- A modification of a variable. -/
inductive VariableMod where
  | boolean (op : BooleanMod)
  | integer (op : IntegerMod)
  | string (op : StringMod)
  deriving DecidableEq

/-- The type of variable a modification is for. -/
def VariableMod.dataType : VariableMod → DataType
  | boolean _ => .boolean
  | integer _ => .integer
  | string _ => .string

instance : JsonForm BooleanMod where
  toJson
    | .set b => .single "Set" (toJson b)
    | .duplicate v => .single "Duplicate" (toJson v)
  read? m j := do
    match ← j.variant? m with
    | ("Set", c) => return .set (← c.read?)
    | ("Duplicate", c) => return .duplicate (← c.read?)
    | _ => none

instance : JsonForm IntegerMod where
  toJson
    | .set n => .single "Set" (toJson n)
    | .add n => .single "Add" (toJson n)
    | .subtract n => .single "Subtract" (toJson n)
    | .multiply n => .single "Multiply" (toJson n)
    | .divide n => .single "Divide" (toJson n)
    | .leftShift n => .single "LeftShift" (toJson n)
    | .rightShift n => .single "RightShift" (toJson n)
    | .random low high => .single "Random" (.obj [("low", toJson low), ("high", toJson high)])
    | .systemTime => .str "SystemTime"
    | .combine op source => .single "Combine" (.obj [("op", toJson op), ("source", toJson source)])
  read? m j := do
    match ← j.variant? m with
    | ("Set", c) => return .set (← c.read?)
    | ("Add", c) => return .add (← c.read?)
    | ("Subtract", c) => return .subtract (← c.read?)
    | ("Multiply", c) => return .multiply (← c.read?)
    | ("Divide", c) => return .divide (← c.read?)
    | ("LeftShift", c) => return .leftShift (← c.read?)
    | ("RightShift", c) => return .rightShift (← c.read?)
    | ("Random", c) =>
      c.fields? do return .random (← required "low") (← required "high")
    | ("SystemTime", c) => if c.isEmpty then some .systemTime else none
    | ("Combine", c) =>
      c.fields? do return .combine (← required "op") (← required "source")
    | _ => none

instance : JsonForm StringMod where
  toJson
    | .set text => .single "Set" (toJson text)
    | .replace find replace =>
      .single "Replace" (.obj [("find", toJson find), ("replace", toJson replace)])
  read? m j := do
    match ← j.variant? m with
    | ("Set", c) => return .set (← c.read?)
    | ("Replace", c) =>
      c.fields? do return .replace (← required "find") (← required "replace")
    | _ => none

instance : JsonForm VariableMod where
  toJson
    | .boolean op => .obj [("kind", .str "Boolean"), ("op", toJson op)]
    | .integer op => .obj [("kind", .str "Integer"), ("op", toJson op)]
    | .string op => .obj [("kind", .str "String"), ("op", toJson op)]
  read? m j := do
    match ← j.adjacent? "kind" "op" m with
    | ("Boolean", c) => return .boolean (← c.read?)
    | ("Integer", c) => return .integer (← c.read?)
    | ("String", c) => return .string (← c.read?)
    | _ => none

end EventScript
