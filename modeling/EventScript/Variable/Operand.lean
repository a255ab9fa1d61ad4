import EventScript.Variable.Value

/-!
# Operands and quantities

Numbers and truth values that a script gives outright or reads from a variable.
-/

namespace EventScript

/-- The right-hand side of a comparison. -/
inductive Operand (α : Type) where
  | literal (value : α)
  | fromVariable (source : VariableRef)
  deriving DecidableEq

instance {α : Type} [JsonForm α] : JsonForm (Operand α) where
  toJson
    | .literal a => .single "Literal" (toJson a)
    | .fromVariable v => .single "Variable" (toJson v)
  read? m j := do
    match ← j.variant? m with
    | ("Literal", c) => return .literal (← c.read?)
    | ("Variable", c) => return .fromVariable (← c.read?)
    | _ => none

/-- An amount. -/
inductive Quantity where
  | fixed (amount : Int64)
  | fromVariable (source : VariableRef)
  deriving DecidableEq

instance : JsonForm Quantity where
  toJson
    | .fixed n => .single "Fixed" (toJson n)
    | .fromVariable v => .single "Variable" (toJson v)
  read? m j := do
    match ← j.variant? m with
    | ("Fixed", c) => return .fixed (← c.read?)
    | ("Variable", c) => return .fromVariable (← c.read?)
    | _ => none

end EventScript
