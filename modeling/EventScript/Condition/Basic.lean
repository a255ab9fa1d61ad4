import EventScript.Appearance
import EventScript.Stat
import EventScript.Variable.Operand

/-!
# Conditions

What conditional branches, pages of common events and quests ask about a player and the world.
-/

namespace EventScript

open FieldReader

/-- The access rights of an account. -/
inductive Access where
  | none | moderator | admin
  deriving DecidableEq

instance : Enumerated Access where
  all := [.none, .moderator, .admin]
  name
    | .none => "None"
    | .moderator => "Moderator"
    | .admin => "Admin"

/-- A comparison of the current value of a variable; the texts are expanded first. -/
inductive VariableComparison where
  | boolean (equal : Bool) (value : Operand Bool)
  | integer (comparator : Comparator) (value : Operand Int64)
  | stringEquals (text : String)
  | stringContains (text : String)
  deriving DecidableEq

instance : JsonForm VariableComparison where
  toJson
    | .boolean equal value =>
      .single "Boolean" (.obj [("equal", toJson equal), ("value", toJson value)])
    | .integer comparator value =>
      .single "Integer" (.obj [("comparator", toJson comparator), ("value", toJson value)])
    | .stringEquals text => .single "StringEquals" (toJson text)
    | .stringContains text => .single "StringContains" (toJson text)
  read? m j := do
    match ← j.variant? m with
    | ("Boolean", c) =>
      c.fields? do return .boolean (← required "equal") (← required "value")
    | ("Integer", c) =>
      c.fields? do return .integer (← required "comparator") (← required "value")
    | ("StringEquals", c) => return .stringEquals (← c.read?)
    | ("StringContains", c) => return .stringContains (← c.read?)
    | _ => none

/-- The level or a stat of a player. -/
inductive LevelOrStat where
  | level
  | stat (stat : Stat)
  deriving DecidableEq

instance : JsonForm LevelOrStat where
  toJson
    | .level => .str "Level"
    | .stat s => .single "Stat" (toJson s)
  read? m j := do
    match ← j.variant? m with
    | ("Level", c) => if c.isEmpty then some .level else none
    | ("Stat", c) => return .stat (← c.read?)
    | _ => none

/-- A question about a player. -/
inductive ConditionKind where
  | variableIs (variableRef : VariableRef) (comparison : VariableComparison)
  | hasItem (item : ItemId) (quantity : Quantity)
  | classIs (profession : ClassId)
  | knowsSpell (spell : SpellId)
  | levelOrStat (target : LevelOrStat) (comparator : Comparator) (value : Int64)
  | selfSwitch (switch : UInt64) (value : Bool)
  | accessIs (access : Access)
  /-- The minute of the day lies between two ends; from a later end to an earlier one the range
  leads over midnight. -/
  | timeBetween (startMinute endMinute : UInt32)
  | canStartQuest (quest : QuestId)
  | questInProgress (quest : QuestId) (task : Option TaskId)
  | questCompleted (quest : QuestId)
  | genderIs (gender : Gender)
  | mapIs (map : MapId)
  | isItemEquipped (item : ItemId)
  | hasFreeInventorySlots (quantity : UInt64)
  | inGuild
  deriving DecidableEq

namespace ConditionKind

/-- The members of the JSON form. -/
def members : ConditionKind → List (String × Json)
  | variableIs v c => [("kind", .str "VariableIs"), ("variable", toJson v), ("comparison", toJson c)]
  | hasItem i q => [("kind", .str "HasItem"), ("item", toJson i), ("quantity", toJson q)]
  | classIs c => [("kind", .str "ClassIs"), ("class", toJson c)]
  | knowsSpell s => [("kind", .str "KnowsSpell"), ("spell", toJson s)]
  | levelOrStat t c v => [("kind", .str "LevelOrStat"), ("target", toJson t),
      ("comparator", toJson c), ("value", toJson v)]
  | selfSwitch s v => [("kind", .str "SelfSwitch"), ("switch", toJson s), ("value", toJson v)]
  | accessIs a => [("kind", .str "AccessIs"), ("access", toJson a)]
  | timeBetween s e => [("kind", .str "TimeBetween"), ("start_minute", toJson s),
      ("end_minute", toJson e)]
  | canStartQuest q => [("kind", .str "CanStartQuest"), ("quest", toJson q)]
  | questInProgress q t => [("kind", .str "QuestInProgress"), ("quest", toJson q),
      ("task", toJson t)]
  | questCompleted q => [("kind", .str "QuestCompleted"), ("quest", toJson q)]
  | genderIs g => [("kind", .str "GenderIs"), ("gender", toJson g)]
  | mapIs m => [("kind", .str "MapIs"), ("map", toJson m)]
  | isItemEquipped i => [("kind", .str "IsItemEquipped"), ("item", toJson i)]
  | hasFreeInventorySlots q => [("kind", .str "HasFreeInventorySlots"), ("quantity", toJson q)]
  | inGuild => [("kind", .str "InGuild")]

/-- The names of the kinds. -/
def names : List String :=
  ["VariableIs", "HasItem", "ClassIs", "KnowsSpell", "LevelOrStat", "SelfSwitch", "AccessIs",
    "TimeBetween", "CanStartQuest", "QuestInProgress", "QuestCompleted", "GenderIs", "MapIs",
    "IsItemEquipped", "HasFreeInventorySlots", "InGuild"]

/-- The member that names a kind, where it gives the position of the name instead. -/
def spelled : String × Json → String × Json
  | ("kind", .num (.ofNat n)) => ("kind", (names[n]?.map Json.str).getD .null)
  | m => m

/-- Read the fields of a kind. -/
def reader : String → FieldReader ConditionKind
  | "VariableIs" => return variableIs (← required "variable") (← required "comparison")
  | "HasItem" => return hasItem (← required "item") (← required "quantity")
  | "ClassIs" => return classIs (← required "class")
  | "KnowsSpell" => return knowsSpell (← required "spell")
  | "LevelOrStat" =>
    return levelOrStat (← required "target") (← required "comparator") (← required "value")
  | "SelfSwitch" => return selfSwitch (← required "switch") (← required "value")
  | "AccessIs" => return accessIs (← required "access")
  | "TimeBetween" => return timeBetween (← required "start_minute") (← required "end_minute")
  | "CanStartQuest" => return canStartQuest (← required "quest")
  | "QuestInProgress" => return questInProgress (← required "quest") (← defaulted "task" none)
  | "QuestCompleted" => return questCompleted (← required "quest")
  | "GenderIs" => return genderIs (← required "gender")
  | "MapIs" => return mapIs (← required "map")
  | "IsItemEquipped" => return isItemEquipped (← required "item")
  | "HasFreeInventorySlots" => return hasFreeInventorySlots (← required "quantity")
  | "InGuild" => return inGuild
  | _ => refuse

end ConditionKind

/-- A question with the answer that is wanted. -/
structure Condition where
  /-- The question. -/
  kind : ConditionKind
  /-- Whether the answer no is wanted. -/
  negated : Bool
  /-- Whether a conditional branch takes its second branch when the condition fails. -/
  elseEnabled : Bool
  deriving DecidableEq

instance : JsonForm Condition where
  toJson c := .obj (c.kind.members ++
    [("negated", toJson c.negated), ("else_enabled", toJson c.elseEnabled)])
  read? _
    | .obj members =>
      (Json.obj (members.map ConditionKind.spelled)).tagged? "kind" fun kind => do
        return ⟨← ConditionKind.reader kind, ← defaulted "negated" false,
          ← defaulted "else_enabled" false⟩
    | _ => none

/-- Whether a minute lies in a closed range, which leads over midnight when it ends before it
starts. -/
def minuteInRange (minute start stop : UInt32) : Bool :=
  if start ≤ stop then decide (start ≤ minute) && decide (minute ≤ stop)
  else decide (start ≤ minute) || decide (minute ≤ stop)

end EventScript
