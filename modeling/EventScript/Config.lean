import EventScript.Diagnostics
import EventScript.Json.Parser
import EventScript.Storage.FileTree
import EventScript.Text.Blank

/-!
# Configuration

The tunables of the engine. Every setting has a value of its own, so a configuration file names
only those that differ; two settings can also be given in the environment, which goes last.
-/

namespace EventScript

open EventScript.Text FieldReader

/-- How much every instance does in one pass. -/
structure SchedulerConfig where
  /-- The commands an instance executes in a pass at most; none counts as one. -/
  commandsPerTick : UInt64 := 1
  deriving DecidableEq

instance : JsonForm SchedulerConfig where
  toJson c := .obj [("commands_per_tick", toJson c.commandsPerTick)]
  read? := Json.record? do return ⟨← defaulted "commands_per_tick" 1⟩

/-- The rules of combat. -/
structure CombatConfig where
  /-- How long a player stays in combat after damage. -/
  combatTime : UInt64 := 10000
  deriving DecidableEq

instance : JsonForm CombatConfig where
  toJson c := .obj [("combat_time_ms", toJson c.combatTime)]
  read? := Json.record? do return ⟨← defaulted "combat_time_ms" 10000⟩

/-- The limits of players and guilds. -/
structure PlayerConfig where
  /-- The slots of an inventory. -/
  inventorySlots : UInt64 := 35
  /-- The slots of a spellbook. -/
  spellbookSize : UInt64 := 35
  /-- The highest level. -/
  maxLevel : Int32 := 100
  /-- The points for stats that come with a level. -/
  statPointsPerLevel : Int64 := 1
  /-- The least length of a player's name. -/
  minNameLength : UInt64 := 2
  /-- The greatest length of a player's name. -/
  maxNameLength : UInt64 := 20
  /-- The least length of a guild's name. -/
  minGuildNameLength : UInt64 := 3
  /-- The greatest length of a guild's name. -/
  maxGuildNameLength : UInt64 := 24
  deriving DecidableEq

instance : JsonForm PlayerConfig where
  toJson c := .obj [("inventory_slots", toJson c.inventorySlots),
    ("spellbook_size", toJson c.spellbookSize), ("max_level", toJson c.maxLevel),
    ("stat_points_per_level", toJson c.statPointsPerLevel),
    ("min_name_length", toJson c.minNameLength), ("max_name_length", toJson c.maxNameLength),
    ("min_guild_name_length", toJson c.minGuildNameLength),
    ("max_guild_name_length", toJson c.maxGuildNameLength)]
  read? := Json.record? do
    return ⟨← defaulted "inventory_slots" 35, ← defaulted "spellbook_size" 35,
      ← defaulted "max_level" 100, ← defaulted "stat_points_per_level" 1,
      ← defaulted "min_name_length" 2, ← defaulted "max_name_length" 20,
      ← defaulted "min_guild_name_length" 3, ← defaulted "max_guild_name_length" 24⟩

/-- The size of maps. -/
structure MapConfig where
  /-- The number of columns. -/
  width : Int32 := 32
  /-- The number of rows. -/
  height : Int32 := 26
  deriving DecidableEq

instance : JsonForm MapConfig where
  toJson c := .obj [("width", toJson c.width), ("height", toJson c.height)]
  read? := Json.record? do return ⟨← defaulted "width" 32, ← defaulted "height" 26⟩

/-- The tunables of the engine. -/
structure EngineConfig where
  /-- How much every instance does in one pass. -/
  scheduler : SchedulerConfig := {}
  /-- The rules of combat. -/
  combat : CombatConfig := {}
  /-- The limits of players and guilds. -/
  player : PlayerConfig := {}
  /-- The size of maps. -/
  map : MapConfig := {}
  /-- Where random numbers start, if they are to be the same in every run. -/
  rngSeed : Option UInt64 := none
  /-- Which log records are kept. -/
  debug : DebugConfig := .standard
  deriving DecidableEq

instance : JsonForm EngineConfig where
  toJson c := .obj [("scheduler", toJson c.scheduler), ("combat", toJson c.combat),
    ("player", toJson c.player), ("map", toJson c.map), ("rng_seed", toJson c.rngSeed),
    ("debug", toJson c.debug)]
  read? := Json.record? do
    return ⟨← defaulted "scheduler" {}, ← defaulted "combat" {}, ← defaulted "player" {},
      ← defaulted "map" {}, ← defaulted "rng_seed" none, ← defaulted "debug" .standard⟩

/-- The settings in the environment. -/
structure Environment where
  /-- Whether logging is asked for. -/
  debug : Bool
  /-- The commands an instance executes in a pass at most. -/
  commandsPerTick : Option String
  deriving DecidableEq

/-- Why there is no configuration. -/
inductive ConfigError where
  | unreadableFile (path : String) (cause : FileError)
  | malformedFile (path : String)
  | malformedCommandsPerTick (value : String) (cause : Decimal.NumeralError)
  deriving DecidableEq

/-- The text of an error. -/
def ConfigError.message : ConfigError → String
  | unreadableFile path _ => "failed to read config file '" ++ path ++ "'"
  | malformedFile path => "failed to parse config file '" ++ path ++ "'"
  | malformedCommandsPerTick value _ =>
    "EVENTWEAVE_COMMANDS_PER_TICK is not a number: " ++ value

/-- The text of an error with that of its cause. -/
def ConfigError.fullMessage (e : ConfigError) : String :=
  match e with
  | unreadableFile _ cause => e.message ++ ": " ++ cause.message
  | malformedFile _ => e.message
  | malformedCommandsPerTick _ cause => e.message ++ ": " ++ cause.message

namespace EngineConfig

/-- Let the environment go over the settings. The number of commands may have blanks around it. -/
def applyEnvironment (c : EngineConfig) (env : Environment) : Except ConfigError EngineConfig :=
  let c := if env.debug then { c with debug.enabled := true } else c
  match env.commandsPerTick with
  | none => .ok c
  | some value =>
    match Decimal.unsignedWithin (UInt64.size - 1) (trimChars value.toList) with
    | .ok n => .ok { c with scheduler.commandsPerTick := UInt64.ofNat n }
    | .error cause => .error (.malformedCommandsPerTick value cause)

/-- What can be told of a configuration file from what was read of it. -/
def ofFile (path : String) (content : Except FileError String) : Except ConfigError EngineConfig :=
  match content with
  | .error cause => .error (.unreadableFile path cause)
  | .ok text =>
    match (Json.scan? text).bind ofJson? with
    | some c => .ok c
    | none => .error (.malformedFile path)

end EngineConfig

end EventScript
