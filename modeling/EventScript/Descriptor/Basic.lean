import EventScript.Page.Basic

/-!
# Descriptors

The read-only content of a game: what items, spells, quests and the other things scripts refer to
are like, and the common events with their pages.
-/

namespace EventScript

open FieldReader

/-- What an item is like. -/
structure ItemDescriptor where
  /-- The item. -/
  id : ItemId
  /-- Its name. -/
  name : String
  /-- Whether several of it share a slot. -/
  stackable : Bool
  /-- How many of it share a slot at most. -/
  maxStack : Int64
  /-- The equipment slot it goes into, if it can be equipped. -/
  equipmentSlot : Option UInt64
  /-- How long it cannot be used after it was equipped with a cooldown. -/
  cooldown : UInt64
  deriving DecidableEq

instance : JsonForm ItemDescriptor where
  toJson d := .obj [("id", toJson d.id), ("name", toJson d.name), ("stackable", toJson d.stackable),
    ("max_stack", toJson d.maxStack), ("equipment_slot", toJson d.equipmentSlot),
    ("cooldown_ms", toJson d.cooldown)]
  read? := Json.record? do
    return ⟨← required "id", ← required "name", ← defaulted "stackable" false,
      ← defaulted "max_stack" 1, ← defaulted "equipment_slot" none, ← defaulted "cooldown_ms" 0⟩

/-- What a spell is like. -/
structure SpellDescriptor where
  /-- The spell. -/
  id : SpellId
  /-- Its name. -/
  name : String
  /-- Whether it is only forgotten when that is forced. -/
  bound : Bool
  deriving DecidableEq

instance : JsonForm SpellDescriptor where
  toJson d := .obj [("id", toJson d.id), ("name", toJson d.name), ("bound", toJson d.bound)]
  read? := Json.record? do
    return ⟨← required "id", ← required "name", ← defaulted "bound" false⟩

/-- A task of a quest. -/
structure QuestTask where
  /-- The task. -/
  id : TaskId
  /-- What there is to do. -/
  description : String
  /-- The common event that its completion starts. -/
  completionEvent : Option EventId
  deriving DecidableEq

instance : JsonForm QuestTask where
  toJson t := .obj [("id", toJson t.id), ("description", toJson t.description),
    ("completion_event", toJson t.completionEvent)]
  read? := Json.record? do
    return ⟨← required "id", ← defaulted "description" "", ← defaulted "completion_event" none⟩

/-- What a quest is like. -/
structure QuestDescriptor where
  /-- The quest. -/
  id : QuestId
  /-- Its name. -/
  name : String
  /-- Its tasks in order. -/
  tasks : List QuestTask
  /-- Whether it can be started again once it is completed. -/
  repeatable : Bool
  /-- What must hold for it to be started. -/
  requirements : List Condition
  /-- The common event that its start starts. -/
  startEvent : Option EventId
  /-- The common event that its end starts. -/
  endEvent : Option EventId
  deriving DecidableEq

instance : JsonForm QuestDescriptor where
  toJson d := .obj [("id", toJson d.id), ("name", toJson d.name), ("tasks", toJson d.tasks),
    ("repeatable", toJson d.repeatable), ("requirements", toJson d.requirements),
    ("start_event", toJson d.startEvent), ("end_event", toJson d.endEvent)]
  read? := Json.record? do
    return ⟨← required "id", ← required "name", ← required "tasks", ← defaulted "repeatable" false,
      ← defaulted "requirements" [], ← defaulted "start_event" none, ← defaulted "end_event" none⟩

/-- The position of a task in its quest. -/
def QuestDescriptor.taskIndex? (d : QuestDescriptor) (task : TaskId) : Option Nat :=
  d.tasks.findIdx? fun t => t.id == task

/-- What a character class is like. -/
structure ClassDescriptor where
  /-- The class. -/
  id : ClassId
  /-- Its name. -/
  name : String
  /-- Its sprite. -/
  sprite : String
  /-- The experience that leads out of the first level. -/
  baseExp : Int64
  /-- By how much more experience each later level needs. -/
  expIncrease : Int64
  /-- By how much a level raises the maximum of each vital. -/
  vitalsPerLevel : Vitals
  deriving DecidableEq

instance : JsonForm ClassDescriptor where
  toJson d := .obj [("id", toJson d.id), ("name", toJson d.name), ("sprite", toJson d.sprite),
    ("base_exp", toJson d.baseExp), ("exp_increase", toJson d.expIncrease),
    ("vitals_per_level", toJson d.vitalsPerLevel)]
  read? := Json.record? do
    return ⟨← required "id", ← required "name", ← defaulted "sprite" "", ← required "base_exp",
      ← defaulted "exp_increase" 0, ← defaulted "vitals_per_level" ⟨0, 0⟩⟩

/-- The experience that leads out of a level, at least one. -/
def ClassDescriptor.experienceToNextLevel (d : ClassDescriptor) (level : Int32) : Int64 :=
  max (satAdd d.baseExp (satMul d.expIncrease ((max level 1).toInt64 - 1))) 1

/-- What a shop is like. -/
structure ShopDescriptor where
  /-- The shop. -/
  id : ShopId
  /-- Its name. -/
  name : String
  deriving DecidableEq

instance : JsonForm ShopDescriptor where
  toJson d := .obj [("id", toJson d.id), ("name", toJson d.name)]
  read? := Json.record? do return ⟨← required "id", ← required "name"⟩

/-- What a crafting table is like. -/
structure CraftingTableDescriptor where
  /-- The crafting table. -/
  id : CraftingTableId
  /-- Its name. -/
  name : String
  deriving DecidableEq

instance : JsonForm CraftingTableDescriptor where
  toJson d := .obj [("id", toJson d.id), ("name", toJson d.name)]
  read? := Json.record? do return ⟨← required "id", ← required "name"⟩

/-- What a character that scripts spawn is like. -/
structure NpcDescriptor where
  /-- The character. -/
  id : NpcId
  /-- Its name. -/
  name : String
  /-- Its sprite. -/
  sprite : String
  deriving DecidableEq

instance : JsonForm NpcDescriptor where
  toJson d := .obj [("id", toJson d.id), ("name", toJson d.name), ("sprite", toJson d.sprite)]
  read? := Json.record? do
    return ⟨← required "id", ← required "name", ← defaulted "sprite" ""⟩

/-- What a variable is like. -/
structure VariableDescriptor where
  /-- The variable. -/
  id : VariableId
  /-- The scope it lives in. -/
  scope : Scope
  /-- Its name. -/
  name : String
  /-- The type of its values. -/
  dataType : DataType
  /-- The key under which texts refer to it. -/
  textId : String
  deriving DecidableEq

instance : JsonForm VariableDescriptor where
  toJson d := .obj [("id", toJson d.id), ("scope", toJson d.scope), ("name", toJson d.name),
    ("data_type", toJson d.dataType), ("text_id", toJson d.textId)]
  read? := Json.record? do
    return ⟨← required "id", ← required "scope", ← required "name", ← required "data_type",
      ← defaulted "text_id" ""⟩

/-- The variable that is described. -/
def VariableDescriptor.ref (d : VariableDescriptor) : VariableRef := ⟨d.scope, d.id⟩

/-- What makes a page of a common event start. -/
inductive Trigger where
  /-- Nothing; it is only started by name. -/
  | none
  | login
  | levelUp
  | playerVariableChange (id : VariableId)
  | serverVariableChange (id : VariableId)
  | guildVariableChange (id : VariableId)
  | userVariableChange (id : VariableId)
  deriving DecidableEq

/-- The trigger of a change of a variable. -/
def Trigger.variableChange (v : VariableRef) : Trigger :=
  match v.scope with
  | .player => playerVariableChange v.id
  | .server => serverVariableChange v.id
  | .guild => guildVariableChange v.id
  | .user => userVariableChange v.id

instance : JsonForm Trigger where
  toJson
    | .none => .str "None"
    | .login => .str "Login"
    | .levelUp => .str "LevelUp"
    | .playerVariableChange i => .single "PlayerVariableChange" (toJson i)
    | .serverVariableChange i => .single "ServerVariableChange" (toJson i)
    | .guildVariableChange i => .single "GuildVariableChange" (toJson i)
    | .userVariableChange i => .single "UserVariableChange" (toJson i)
  read? m j := do
    match ← j.variant? m with
    | ("None", c) => if c.isEmpty then some .none else Option.none
    | ("Login", c) => if c.isEmpty then some .login else Option.none
    | ("LevelUp", c) => if c.isEmpty then some .levelUp else Option.none
    | ("PlayerVariableChange", c) => return .playerVariableChange (← c.read?)
    | ("ServerVariableChange", c) => return .serverVariableChange (← c.read?)
    | ("GuildVariableChange", c) => return .guildVariableChange (← c.read?)
    | ("UserVariableChange", c) => return .userVariableChange (← c.read?)
    | _ => Option.none

/-- A page of a common event. -/
structure CommonEventPage where
  /-- What makes it start. -/
  trigger : Trigger
  /-- What must hold for it to be chosen. -/
  conditions : List Condition
  /-- The script. -/
  page : Page
  deriving DecidableEq

instance : JsonForm CommonEventPage where
  toJson d := .obj [("trigger", toJson d.trigger), ("conditions", toJson d.conditions),
    ("page", toJson d.page)]
  read? := Json.record? do
    return ⟨← required "trigger", ← defaulted "conditions" [], ← required "page"⟩

/-- A script that any player can run. -/
structure CommonEventDescriptor where
  /-- The event. -/
  id : EventId
  /-- Its name. -/
  name : String
  /-- Its pages; later ones are preferred. -/
  pages : List CommonEventPage
  deriving DecidableEq

instance : JsonForm CommonEventDescriptor where
  toJson d := .obj [("id", toJson d.id), ("name", toJson d.name), ("pages", toJson d.pages)]
  read? := Json.record? do
    return ⟨← required "id", ← required "name", ← required "pages"⟩

end EventScript
