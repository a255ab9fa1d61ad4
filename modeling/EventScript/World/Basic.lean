import EventScript.Account
import EventScript.Config
import EventScript.Descriptor.Catalog
import EventScript.Notification
import EventScript.Persistence.Queue
import EventScript.World.Clock
import EventScript.World.Entity
import EventScript.World.Supply

/-!
# The world

All that scripts read and change outside their own execution, and the queues through which they
leave work for the host.
-/

namespace EventScript

/-- The state that all scripts share. -/
structure World where
  /-- The tunables. -/
  config : EngineConfig
  /-- The content of the game. -/
  catalog : Catalog
  /-- The clock. -/
  clock : Clock
  /-- Where new identifiers and random numbers come from. -/
  supply : Supply
  /-- The players that are loaded. -/
  players : Table PlayerId Player
  /-- The loaded players that are connected. -/
  online : Table PlayerId Unit
  /-- The accounts. -/
  users : Table UserId UserAccount
  /-- The guilds. -/
  guilds : Table GuildId Guild
  /-- The variables that everyone shares. -/
  serverVariables : VariableStore
  /-- The events on maps. -/
  mapEvents : Table EventId MapEvent
  /-- The characters that scripts spawned. -/
  npcs : Table EntityId SpawnedNpc
  /-- The spells to be cast, oldest first. -/
  spellCasts : List SpellCast
  /-- The items that were dropped, oldest first. -/
  droppedItems : List DroppedItem
  /-- The changes to be stored. -/
  persistence : PersistenceQueue
  /-- The starts of common events that were asked for, oldest first. -/
  requests : List EventRequest
  /-- The changes of self switches that clones have to see, oldest first. -/
  switchUpdates : List SwitchUpdate
  /-- What clients were told, oldest first. -/
  sent : List (Recipients × Notification)

namespace World

/-- A world with nothing in it. Random numbers start where the configuration says, if it does. -/
def start (config : EngineConfig) (catalog : Catalog) (clock : Clock) (supply : Supply) :
    World where
  config := config
  catalog := catalog
  clock := clock
  supply := match config.rngSeed with
    | some seed => supply.reseed seed
    | none => supply
  players := .empty
  online := .empty
  users := .empty
  guilds := .empty
  serverVariables := .empty
  mapEvents := .empty
  npcs := .empty
  spellCasts := []
  droppedItems := []
  persistence := .empty
  requests := []
  switchUpdates := []
  sent := []

/-- The game time. -/
def now (w : World) : UInt64 := w.clock.now

/-- Tell clients something. -/
def send (w : World) (audience : Recipients) (n : Notification) : World :=
  { w with sent := w.sent ++ [(audience, n)] }

/-- Take all that clients were told. -/
def drainSent (w : World) : List (Recipients × Notification) × World := (w.sent, { w with sent := [] })

/-! ## Players -/

/-- A loaded player. -/
def player? (w : World) (id : PlayerId) : Option Player := w.players.get? id

/-- Keep a player under an identifier. -/
def putPlayer (w : World) (id : PlayerId) (p : Player) : World :=
  { w with players := w.players.insert id p }

/-- Load a player and link it to its account, if that exists. -/
def addPlayer (w : World) (p : Player) : World :=
  { w with
    users := w.users.modify p.user fun u =>
      if u.players.contains p.id then u else { u with players := u.players ++ [p.id] }
    players := w.players.insert p.id p }

/-- Whether a player is connected. -/
def isOnline (w : World) (id : PlayerId) : Bool := w.online.contains id

/-- Connect a loaded player or disconnect a player. -/
def setOnline (w : World) (id : PlayerId) (online : Bool) : World :=
  { w with
    online := if online && w.players.contains id then w.online.insert id () else w.online.erase id }

/-- The connected players in ascending order. -/
def onlinePlayers (w : World) : List PlayerId := w.online.keys

/-- The names of the connected players; for the running player the current name counts. -/
def onlineNames (w : World) (running : Player) : List String :=
  w.onlinePlayers.filterMap fun id =>
    if id = running.id then some running.name else (w.player? id).map Player.name

/-- Whether another player has a name, up to ASCII case. -/
def isPlayerNameTaken (w : World) (name : String) (except : PlayerId) : Bool :=
  w.players.entries.any fun (id, p) => id != except && Text.eqIgnoreCase p.name name

/-! ## Accounts and guilds -/

/-- An account. -/
def user? (w : World) (id : UserId) : Option UserAccount := w.users.get? id

/-- Add an account. -/
def addUser (w : World) (u : UserAccount) : World := { w with users := w.users.insert u.id u }

/-- The access rights of a player; none without an account. -/
def accessOf (w : World) (p : Player) : Access :=
  ((w.user? p.user).map UserAccount.access).getD .none

/-- A guild. -/
def guild? (w : World) (id : GuildId) : Option Guild := w.guilds.get? id

/-- Add a guild. -/
def addGuild (w : World) (g : Guild) : World := { w with guilds := w.guilds.insert g.id g }

/-- The guild of a player, if it exists. -/
def guildOf? (w : World) (p : Player) : Option Guild := p.guild.bind w.guild?

/-- The first guild with a name, up to ASCII case. -/
def guildByName? (w : World) (name : String) : Option Guild :=
  w.guilds.values.find? fun g => Text.eqIgnoreCase g.name name

/-- Remove a guild. -/
def removeGuild (w : World) (id : GuildId) : World := { w with guilds := w.guilds.erase id }

/-! ## Variables -/

/-- The values that a player sees in a scope, if its owner exists. -/
def store? (w : World) (p : Player) : Scope → Option VariableStore
  | .player => some p.vars
  | .server => some w.serverVariables
  | .guild => (w.guildOf? p).map Guild.vars
  | .user => (w.user? p.user).map UserAccount.vars

/-- The value that is kept for a variable, as a player sees it. -/
def stored? (w : World) (p : Player) (v : VariableRef) : Option Value :=
  (w.store? p v.scope).bind fun s => s.get? v.id

/-! ## Maps -/

/-- An event on a map. -/
def mapEvent? (w : World) (id : EventId) : Option MapEvent := w.mapEvents.get? id

/-- Put an event on a map. -/
def addMapEvent (w : World) (e : MapEvent) : World :=
  { w with mapEvents := w.mapEvents.insert e.id e }

/-- Add a spawned character. -/
def spawnNpc (w : World) (n : SpawnedNpc) : World := { w with npcs := w.npcs.insert n.entity n }

/-- Remove spawned characters. -/
def despawnNpcs (w : World) (entities : List EntityId) : World :=
  { w with npcs := entities.foldl Table.erase w.npcs }

/-! ## Queues -/

/-- Ask for the start of common events. -/
def request (w : World) (r : EventRequest) : World := { w with requests := w.requests ++ [r] }

/-- Ask for the common events of a trigger, for several players. -/
def requestAll (w : World) (players : List PlayerId) (t : Trigger) : World :=
  { w with requests := w.requests ++ players.map fun p => .trigger p t }

/-- Queue a change to be stored. -/
def persist (w : World) (r : PersistedRecord) : World :=
  { w with persistence := w.persistence.enqueue r }

end World

end EventScript
