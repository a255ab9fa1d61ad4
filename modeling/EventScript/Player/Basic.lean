import EventScript.Appearance
import EventScript.Client
import EventScript.Fault
import EventScript.Movement
import EventScript.Player.Inventory
import EventScript.Variable.Value

/-!
# Players

A player character: what is kept of it between sessions, and what only lasts while it is loaded.
The JSON form holds the former; the latter starts anew when a player is read.
-/

namespace EventScript

open FieldReader

/-- How far a player is with a quest. -/
structure QuestProgress where
  /-- The active task; none when the quest is not in progress. -/
  task : Option TaskId
  /-- Whether the quest was completed before. -/
  completed : Bool
  /-- How often it was completed. -/
  completionCount : UInt32
  deriving DecidableEq

/-- The progress with a quest that was never started. -/
def QuestProgress.none : QuestProgress := ⟨Option.none, false, 0⟩

/-- Whether a task is active. -/
def QuestProgress.inProgress (q : QuestProgress) : Bool := q.task.isSome

instance : JsonForm QuestProgress where
  toJson q := .obj [("task", toJson q.task), ("completed", toJson q.completed),
    ("completion_count", toJson q.completionCount)]
  read? := Json.record? do
    return ⟨← optional "task", ← required "completed", ← required "completion_count"⟩

/-- What only lasts while a player is loaded. -/
structure Activity where
  /-- The window the player has open. -/
  openSession : Option SessionKind
  /-- Whether the screen fades. -/
  fading : Bool
  /-- The game time until which the player is in combat. -/
  combatUntil : UInt64
  /-- Whether the player died from a script. -/
  dead : Bool
  /-- The route the player walks. -/
  moveRoute : Option MoveRoute
  /-- The characters scripts spawned for the player. -/
  spawnedNpcs : List EntityId
  /-- The game times until which items cannot be used. -/
  itemCooldowns : Table ItemId UInt64
  deriving DecidableEq

/-- The activity of a player who was just loaded. -/
def Activity.idle : Activity := ⟨none, false, 0, false, none, [], .empty⟩

/-- A player character. -/
structure Player where
  /-- The identifier. -/
  id : PlayerId
  /-- The name. -/
  name : String
  /-- The account the player belongs to. -/
  user : UserId
  /-- The guild the player is in. -/
  guild : Option GuildId
  /-- The members of the player's party. -/
  party : List PlayerId
  /-- The map the player is on. -/
  map : MapId
  /-- The map instance the player is in; nil is the overworld. -/
  mapInstance : MapInstanceId
  /-- The kind of map instance the player was last warped into. -/
  mapInstanceType : Option MapInstanceType
  /-- The column on the map. -/
  x : Int32
  /-- The row on the map. -/
  y : Int32
  /-- The facing. -/
  dir : Direction
  /-- The character class. -/
  profession : ClassId
  /-- The gender. -/
  gender : Gender
  /-- The sprite. -/
  sprite : String
  /-- The portrait. -/
  face : String
  /-- The colour of the name, if it has one of its own. -/
  nameColor : Option Color
  /-- The label above the name. -/
  headerLabel : EntityLabel
  /-- The label below the name. -/
  footerLabel : EntityLabel
  /-- The colour of the sprite. -/
  color : Color
  /-- Whether other players do not see the player. -/
  hidden : Bool
  /-- The level. -/
  level : Int32
  /-- The experience within the level. -/
  exp : Int64
  /-- The current vitals. -/
  vitals : Vitals
  /-- The largest values of the vitals. -/
  maxVitals : Vitals
  /-- The stats, points spent on them included. -/
  stats : Stats
  /-- The points that can be spent on stats. -/
  statPoints : Int64
  /-- The points spent on each stat. -/
  statAllocations : Stats
  /-- The inventory. -/
  inventory : Inventory
  /-- The item in every equipment slot in use. -/
  equipment : Table UInt64 ItemId
  /-- The spells. -/
  spells : Spellbook
  /-- The progress with quests. -/
  quests : Table QuestId QuestProgress
  /-- The variables of the player. -/
  vars : VariableStore
  /-- What only lasts while the player is loaded. -/
  activity : Activity
  deriving DecidableEq

instance : JsonForm Player where
  toJson p := .obj [("id", toJson p.id), ("name", toJson p.name), ("user", toJson p.user),
    ("guild", toJson p.guild), ("party", toJson p.party), ("map", toJson p.map),
    ("map_instance", toJson p.mapInstance), ("map_instance_type", toJson p.mapInstanceType),
    ("x", toJson p.x), ("y", toJson p.y), ("dir", toJson p.dir), ("class", toJson p.profession),
    ("gender", toJson p.gender), ("sprite", toJson p.sprite), ("face", toJson p.face),
    ("name_color", toJson p.nameColor), ("header_label", toJson p.headerLabel),
    ("footer_label", toJson p.footerLabel), ("color", toJson p.color), ("hidden", toJson p.hidden),
    ("level", toJson p.level), ("exp", toJson p.exp), ("vitals", toJson p.vitals),
    ("max_vitals", toJson p.maxVitals), ("stats", toJson p.stats),
    ("stat_points", toJson p.statPoints), ("stat_allocations", toJson p.statAllocations),
    ("inventory", toJson p.inventory), ("equipment", toJson p.equipment),
    ("spells", toJson p.spells), ("quests", toJson p.quests), ("variables", toJson p.vars)]
  read? := Json.record? do
    return {
      id := ← required "id"
      name := ← required "name"
      user := ← required "user"
      guild := ← defaulted "guild" none
      party := ← defaulted "party" []
      map := ← required "map"
      mapInstance := ← defaulted "map_instance" .nil
      mapInstanceType := ← defaulted "map_instance_type" none
      x := ← required "x"
      y := ← required "y"
      dir := ← defaulted "dir" .up
      profession := ← required "class"
      gender := ← defaulted "gender" .male
      sprite := ← defaulted "sprite" ""
      face := ← defaulted "face" ""
      nameColor := ← defaulted "name_color" none
      headerLabel := ← defaulted "header_label" .blank
      footerLabel := ← defaulted "footer_label" .blank
      color := ← defaulted "color" .transparent
      hidden := ← defaulted "hidden" false
      level := ← required "level"
      exp := ← defaulted "exp" 0
      vitals := ← required "vitals"
      maxVitals := ← required "max_vitals"
      stats := ← defaulted "stats" (.all 0)
      statPoints := ← defaulted "stat_points" 0
      statAllocations := ← defaulted "stat_allocations" (.all 0)
      inventory := ← defaulted "inventory" []
      equipment := ← defaulted "equipment" .empty
      spells := ← defaulted "spells" []
      quests := ← defaulted "quests" .empty
      vars := ← defaulted "variables" .empty
      activity := .idle }

namespace Player

/-- A player of the first level with empty slots. -/
def fresh (id : PlayerId) (name : String) (user : UserId) (inventorySlots spellSlots : Nat) :
    Player where
  id := id
  name := name
  user := user
  guild := none
  party := []
  map := .nil
  mapInstance := .nil
  mapInstanceType := none
  x := 0
  y := 0
  dir := .down
  profession := .nil
  gender := .male
  sprite := ""
  face := ""
  nameColor := none
  headerLabel := .blank
  footerLabel := .blank
  color := .white
  hidden := false
  level := 1
  exp := 0
  vitals := ⟨100, 100⟩
  maxVitals := ⟨100, 100⟩
  stats := .all 10
  statPoints := 0
  statAllocations := .all 0
  inventory := List.replicate inventorySlots none
  equipment := .empty
  spells := List.replicate spellSlots none
  quests := .empty
  vars := .empty
  activity := .idle

/-- Add to a vital, held between zero and its maximum. -/
def addVital (p : Player) (vital : Vital) (amount : Int64) : Guarded Player :=
  let maximum := p.maxVitals.get vital
  if maximum < 0 then .error (.negativeMaximum vital maximum)
  else .ok { p with
    vitals := p.vitals.set vital (max 0 (min maximum (satAdd (p.vitals.get vital) amount))) }

/-- Set a vital to its maximum. -/
def restoreVital (p : Player) (vital : Vital) : Player :=
  { p with vitals := p.vitals.set vital (p.maxVitals.get vital) }

/-- Whether the player is in combat. -/
def inCombat (p : Player) (now : UInt64) : Bool := decide (now < p.activity.combatUntil)

/-- How many of an item the player has. -/
def itemCount (p : Player) (item : ItemId) : Int64 := Inventory.count item p.inventory

/-- Put items into the inventory. -/
def insertItems (p : Player) (item : ItemId) (quantity : Int64) (stackable : Bool)
    (maxStack : Int64) : Player :=
  { p with inventory := p.inventory.insert item quantity stackable maxStack }

/-- Take up to a quantity of an item; an item of which none is left is no longer equipped. The
number taken comes first. -/
def removeItems (p : Player) (item : ItemId) (quantity : Int64) : Int64 × Player :=
  let (left, inventory) := Inventory.take item quantity p.inventory
  let p := { p with inventory := inventory }
  let p := if p.itemCount item = 0 then
      { p with equipment := p.equipment.filter fun _ equipped => equipped != item }
    else p
  (quantity - left, p)

/-- Whether an item is in an equipment slot. -/
def isEquipped (p : Player) (item : ItemId) : Bool := p.equipment.values.contains item

/-- Whether the player knows a spell. -/
def knowsSpell (p : Player) (spell : SpellId) : Bool := p.spells.knows spell

/-- The progress with a quest. -/
def quest? (p : Player) (quest : QuestId) : Option QuestProgress := p.quests.get? quest

/-- The progress with a quest, that of one never started when there is none. -/
def progress (p : Player) (quest : QuestId) : QuestProgress := (p.quest? quest).getD .none

/-- Set the progress with a quest. -/
def setProgress (p : Player) (quest : QuestId) (progress : QuestProgress) : Player :=
  { p with quests := p.quests.insert quest progress }

/-- Whether a task of the quest is active. -/
def questInProgress (p : Player) (quest : QuestId) : Bool :=
  (p.quest? quest).any QuestProgress.inProgress

/-- Whether the quest was completed before. -/
def questCompleted (p : Player) (quest : QuestId) : Bool :=
  (p.quest? quest).any QuestProgress.completed

/-- Take back the points spent on stats. -/
def resetStatAllocations (p : Player) : Player :=
  { p with
    stats := p.stats.sub p.statAllocations
    statAllocations := .all 0
    statPoints := p.statPoints + p.statAllocations.total }

/-- The value kept for a variable. -/
def valueOf? (p : Player) (v : VariableId) : Option Value := p.vars.get? v

end Player

end EventScript
