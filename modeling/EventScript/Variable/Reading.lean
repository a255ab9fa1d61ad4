import EventScript.Variable.Operand
import EventScript.World.Basic

/-!
# Reading variables

What a player sees of a variable. The current value is that of a described variable and always has
the described type; the typed readers take any stored value of their type.
-/

namespace EventScript.World

/-- The current value of a described variable: the stored value if it has the described type, else
the value of a variable that was never set. -/
def current? (w : World) (p : Player) (v : VariableRef) : Option Value :=
  (w.catalog.vars.get? v).map fun d =>
    match w.stored? p v with
    | some value => if value.dataType = d.dataType then value else .zero d.dataType
    | none => .zero d.dataType

/-- The stored integer, zero when there is none. -/
def integer (w : World) (p : Player) (v : VariableRef) : Int64 :=
  ((w.stored? p v).bind Value.integer?).getD 0

/-- The stored truth value, false when there is none. -/
def boolean (w : World) (p : Player) (v : VariableRef) : Bool :=
  ((w.stored? p v).bind Value.boolean?).getD false

/-- The stored text, empty when there is none. -/
def string (w : World) (p : Player) (v : VariableRef) : String :=
  ((w.stored? p v).bind Value.string?).getD ""

/-- The number of an amount. -/
def amount (w : World) (p : Player) : Quantity → Int64
  | .fixed n => n
  | .fromVariable v => w.integer p v

end EventScript.World
