import EventScript.Scene.Basic

/-!
# Places

Warps, routes, spawned characters, animations, and holding the player in place.
-/

namespace EventScript.Scene

/-! ## Warps -/

/-- The map instance of a kind that a player enters. Those without a guild have an instance of
their own instead of the guild's; a party shares the instance of its first member. -/
def instanceFor (p : Player) : MapInstanceType → MapInstanceId
  | .overworld => .nil
  | .personal => p.id.retag
  | .guild => match p.guild with
    | some g => g.retag
    | none => p.id.retag
  | .shared => match p.party with
    | first :: _ => first.retag
    | [] => p.id.retag

/-- Put the player somewhere else. -/
def warp (s : Scene) (map : MapId) (x y : Int32) (direction : WarpDirection)
    (instanceType : Option MapInstanceType) : Scene :=
  let dir := match direction with
    | .retain => s.player.dir
    | .face d => d
  let p := { s.player with map := map, x := x, y := y, dir := dir }
  let p := match instanceType with
    | some type => { p with mapInstanceType := some type, mapInstance := instanceFor p type }
    | none => p
  (s.withPlayer p).tell (.warp p.id ⟨map, x, y, dir⟩)

/-! ## Routes -/

/-- Send the player or an event on a map along a route. -/
def setMoveRoute (s : Scene) (route : MoveRoute) : Scene :=
  if route.target.isNil then
    (s.withPlayer { s.player with activity.moveRoute := some route }).tell
      (.moveRouteToggle s.player.id true)
  else { s with
    world.mapEvents := s.world.mapEvents.modify route.target fun e =>
      { e with moveRoute := some route } }

/-- The route that an entity has, if it has one. -/
def routeOf? (s : Scene) (target : EventId) : Option RouteTarget :=
  if target.isNil then
    s.player.activity.moveRoute.map fun _ => ⟨.player s.player.id, s.player.map⟩
  else do
    let e ← s.world.mapEvent? target
    let _ ← e.moveRoute
    return ⟨.event e.id, e.map⟩

/-- Wait until an entity has gone its route. An entity without route is not waited for. -/
def waitForRoute (s : Scene) (target : EventId) : Scene :=
  match s.routeOf? target with
  | some route => s.suspend (.route route)
  | none => s

/-! ## Spawned characters and animations -/

/-- The tile of a target, wherever that is. An event that is not on a map stands for the player. -/
def tileOf (s : Scene) : SpawnTarget → Tile
  | .tile map x y dir => ⟨map, x, y, dir⟩
  | .relative event dx dy relativeToFacing =>
    let base : Tile := match event.bind s.world.mapEvent? with
      | some e => ⟨e.map, e.x, e.y, e.dir⟩
      | none => ⟨s.player.map, s.player.x, s.player.y, s.player.dir⟩
    if relativeToFacing then
      let (dx, dy) := base.dir.turnOffset dx dy
      ⟨base.map, base.x + dx, base.y + dy, base.dir⟩
    else ⟨base.map, base.x + dx, base.y + dy, .up⟩

/-- Whether a tile lies within the bounds of maps. -/
def isOnMap (s : Scene) (t : Tile) : Bool :=
  decide (0 ≤ t.x) && decide (t.x < s.world.config.map.width) &&
    decide (0 ≤ t.y) && decide (t.y < s.world.config.map.height)

/-- The tile of a target, if it lies on the map. -/
def tile? (s : Scene) (place : SpawnTarget) : Option Tile :=
  let t := s.tileOf place
  if s.isOnMap t then some t else none

/-- Spawn a character that is described. -/
def spawnNpc (s : Scene) (npc : NpcId) (place : SpawnTarget) : Scene :=
  if s.world.catalog.npcs.contains npc then
    match s.tile? place with
    | some t =>
      let (entity, supply) := s.world.supply.freshId
      let world := { s.world with supply := supply }.spawnNpc
        ⟨entity, npc, s.player.mapInstance, t, s.player.id⟩
      { s with
        world := world
        player.activity.spawnedNpcs := s.player.activity.spawnedNpcs ++ [entity] }
    | none => s
  else s

/-- Remove the characters that were spawned for the player. -/
def despawnNpcs (s : Scene) : Scene :=
  { s with
    world := s.world.despawnNpcs s.player.activity.spawnedNpcs
    player.activity.spawnedNpcs := [] }

/-- The entity that an animation follows: one that is neither shifted nor turned against it. -/
def animated? (s : Scene) : SpawnTarget → Option RouteEntity
  | .relative event dx dy relativeToFacing =>
    if dx = 0 ∧ dy = 0 ∧ relativeToFacing = false then
      match event with
      | some e =>
        if (s.world.mapEvent? e).isSome then some (.event e) else some (.player s.player.id)
      | none => some (.player s.player.id)
    else none
  | .tile .. => none

/-- Play an animation, for the player or for all who are near its tile. -/
def playAnimation (s : Scene) (animation : AnimationId) (place : SpawnTarget)
    (toPlayerOnly : Bool) : Scene :=
  match s.tile? place with
  | some t =>
    let audience := if toPlayerOnly then Recipients.player s.player.id
      else .proximity t.map s.player.mapInstance
    s.send audience (.animation animation (s.animated? place) t)
  | none => s

/-! ## Holding the player -/

/-- Hold the player in place. -/
def holdPlayer (s : Scene) : Scene :=
  { s with run.holding := true }.tell (.holdPlayer s.run.event s.run.map)

/-- Let the player go. -/
def releasePlayer (s : Scene) : Scene :=
  { s with run.holding := false }.tell (.releasePlayer s.run.event)

end EventScript.Scene
