import EventScript.Descriptor.Basic

/-!
# Things in the world

Events on maps, spawned characters, dropped items, and the work that scripts leave for other parts
of the game.
-/

namespace EventScript

/-- An event on a map, which can move along a route. -/
structure MapEvent where
  /-- The event. -/
  id : EventId
  /-- The map it is on. -/
  map : MapId
  /-- The column. -/
  x : Int32
  /-- The row. -/
  y : Int32
  /-- The facing. -/
  dir : Direction
  /-- The route it moves along. -/
  moveRoute : Option MoveRoute
  deriving DecidableEq

/-- A character that a script spawned. -/
structure SpawnedNpc where
  /-- The character. -/
  entity : EntityId
  /-- Its kind. -/
  npc : NpcId
  /-- The map instance it is in. -/
  mapInstance : MapInstanceId
  /-- Where it was placed. -/
  tile : Tile
  /-- The player whose script spawned it. -/
  spawnedBy : PlayerId
  deriving DecidableEq

/-- A spell that is to be cast. -/
structure SpellCast where
  /-- Who casts it. -/
  caster : PlayerId
  /-- Whom it is cast on. -/
  target : PlayerId
  /-- The spell. -/
  spell : SpellId
  deriving DecidableEq

/-- Items that lie on a map because they did not fit into an inventory. -/
structure DroppedItem where
  /-- The item. -/
  item : ItemId
  /-- How many of it. -/
  quantity : Int64
  /-- The map. -/
  map : MapId
  /-- The column. -/
  x : Int32
  /-- The row. -/
  y : Int32
  /-- The player they belong to. -/
  owner : PlayerId
  deriving DecidableEq

/-- A start of common events that was asked for. -/
inductive EventRequest where
  /-- Start the common events with a page for the trigger. -/
  | trigger (player : PlayerId) (trigger : Trigger)
  /-- Start one common event. -/
  | start (player : PlayerId) (event : EventId)
  deriving DecidableEq

/-- A change of a self switch that all clones of a global event have to see. -/
structure SwitchUpdate where
  /-- The event. -/
  event : EventId
  /-- The map of the event. -/
  map : MapId
  /-- The number of the switch. -/
  switch : UInt64
  /-- Its new value. -/
  value : Bool
  deriving DecidableEq

end EventScript
