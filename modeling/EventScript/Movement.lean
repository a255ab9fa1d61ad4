import EventScript.Json.Record

/-!
# Places and movement

Facings, routes, and the tiles that warps, spawned characters and animations are placed on.
-/

namespace EventScript

open FieldReader

/-- A facing. -/
inductive Direction where
  | up | down | left | right
  deriving DecidableEq

instance : Enumerated Direction where
  all := [.up, .down, .left, .right]
  name
    | .up => "Up"
    | .down => "Down"
    | .left => "Left"
    | .right => "Right"

/-- Turn an offset given for facing up to a facing. Facing left exchanges the two parts. -/
def Direction.turnOffset (facing : Direction) (dx dy : Int32) : Int32 × Int32 :=
  match facing with
  | up => (dx, dy)
  | down => (-dx, -dy)
  | left => (dy, dx)
  | right => (-dy, dx)

/-- The facing after a warp. -/
inductive WarpDirection where
  | retain
  | face (direction : Direction)
  deriving DecidableEq

instance : JsonForm WarpDirection where
  toJson
    | .retain => .str "Retain"
    | .face d => .single "Face" (toJson d)
  read? m j := do
    match ← j.variant? m with
    | ("Retain", c) => if c.isEmpty then some .retain else none
    | ("Face", c) => return .face (← c.read?)
    | _ => none

/-- The kind of map instance a warp may lead into. -/
inductive MapInstanceType where
  | overworld | personal | guild | shared
  deriving DecidableEq

instance : Enumerated MapInstanceType where
  all := [.overworld, .personal, .guild, .shared]
  name
    | .overworld => "Overworld"
    | .personal => "Personal"
    | .guild => "Guild"
    | .shared => "Shared"

/-- Something that moves along routes. -/
inductive RouteEntity where
  | player (id : PlayerId)
  | event (id : EventId)
  deriving DecidableEq

instance : JsonForm RouteEntity where
  toJson
    | .player i => .single "Player" (toJson i)
    | .event i => .single "Event" (toJson i)
  read? m j := do
    match ← j.variant? m with
    | ("Player", c) => return .player (← c.read?)
    | ("Event", c) => return .event (← c.read?)
    | _ => none

/-- The route of an entity on a map. -/
structure RouteTarget where
  /-- What moves. -/
  entity : RouteEntity
  /-- The map it moves on. -/
  map : MapId
  deriving DecidableEq

instance : JsonForm RouteTarget where
  toJson t := .obj [("entity", toJson t.entity), ("map", toJson t.map)]
  read? := Json.record? do return ⟨← required "entity", ← required "map"⟩

/-- One step of a route. -/
inductive MoveStep where
  | move (direction : Direction)
  | turn (direction : Direction)
  | wait (time : UInt32)
  deriving DecidableEq

instance : JsonForm MoveStep where
  toJson
    | .move d => .single "Move" (toJson d)
    | .turn d => .single "Turn" (toJson d)
    | .wait t => .single "Wait" (toJson t)
  read? m j := do
    match ← j.variant? m with
    | ("Move", c) => return .move (← c.read?)
    | ("Turn", c) => return .turn (← c.read?)
    | ("Wait", c) => return .wait (← c.read?)
    | _ => none

/-- A route for a player or a map event. -/
structure MoveRoute where
  /-- The map event that moves; nil is the running player. -/
  target : EventId
  /-- The steps in order. -/
  steps : List MoveStep
  /-- Whether the route starts over at its end. -/
  loops : Bool
  /-- Whether steps that are blocked are left out. -/
  ignoreIfBlocked : Bool
  deriving DecidableEq

instance : JsonForm MoveRoute where
  toJson r := .obj [("target", toJson r.target), ("steps", toJson r.steps),
    ("repeat", toJson r.loops), ("ignore_if_blocked", toJson r.ignoreIfBlocked)]
  read? := Json.record? do
    return ⟨← required "target", ← required "steps", ← required "repeat",
      ← required "ignore_if_blocked"⟩

/-- Where an animation is played or a character is spawned. -/
inductive SpawnTarget where
  /-- A tile of a map. -/
  | tile (map : MapId) (x y : Int32) (dir : Direction)
  /-- An offset from the running player, or from a map event; when it is relative to the facing, the
  offset is turned with it and the facing is inherited. -/
  | relative (event : Option EventId) (dx dy : Int32) (relativeToFacing : Bool)
  deriving DecidableEq

instance : JsonForm SpawnTarget where
  toJson
    | .tile map x y dir => .single "Tile" (.obj [("map", toJson map), ("x", toJson x),
        ("y", toJson y), ("dir", toJson dir)])
    | .relative event dx dy relativeToFacing => .single "Relative" (.obj [("event", toJson event),
        ("dx", toJson dx), ("dy", toJson dy), ("relative_to_facing", toJson relativeToFacing)])
  read? m j := do
    match ← j.variant? m with
    | ("Tile", c) =>
      c.fields? do
        return .tile (← required "map") (← required "x") (← required "y") (← required "dir")
    | ("Relative", c) =>
      c.fields? do
        return .relative (← optional "event") (← required "dx") (← required "dy")
          (← required "relative_to_facing")
    | _ => none

/-- A tile of a map and the facing on it. -/
structure Tile where
  /-- The map. -/
  map : MapId
  /-- The column, from the left. -/
  x : Int32
  /-- The row, from the top. -/
  y : Int32
  /-- The facing. -/
  dir : Direction
  deriving DecidableEq

end EventScript
