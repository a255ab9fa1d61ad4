import EventScript.Scheduler
import EventScript.Text.Quoted

/-!
# Showing a run on a terminal

The lines for what clients are told and for the state of the executions. What has no wording of its
own is shown as a record: the name of its kind and its fields.
-/

namespace EventScript.CommandLine

open EventScript.Text

/-- A record with named fields. -/
def record (name : String) (fields : List (String × String)) : String :=
  name ++ " \x7b " ++ ", ".intercalate (fields.map fun (k, v) => s!"{k}: {v}") ++ " \x7d"

/-- A record with one field that has no name. -/
def wrapped (name value : String) : String := s!"{name}({value})"

/-- A truth value. -/
def truth (b : Bool) : String := if b then "true" else "false"

/-- An entity. -/
def entity : RouteEntity → String
  | .player id => wrapped "Player" (wrapped "PlayerId" id.text)
  | .event id => wrapped "Event" (wrapped "EventId" id.text)

/-- An optional entity. -/
def entity? : Option RouteEntity → String
  | some e => wrapped "Some" (entity e)
  | none => "None"

/-- The fields of a tile. -/
def tileFields (t : Tile) : List (String × String) :=
  [("map", wrapped "MapId" t.map.text), ("x", Decimal.render t.x.toInt),
    ("y", Decimal.render t.y.toInt), ("dir", Enumerated.name t.dir)]

/-- A line in brackets. -/
def bracketed (s : String) : String := s!"[{s}]"

/-- The lines for a text that stands apart. -/
def apart (text : String) : List String := ["", text]

/-- The lines for options, counted from one; an empty one is not shown. -/
def optionLines (options : List String) : List String :=
  (options.zipIdx 1).filterMap fun (option, number) =>
    if option.isEmpty then none else some s!"  {Decimal.render number}. {option}"

/-- The lines for what a client is told. -/
def notificationLines : Notification → List String
  | .showText _ text _ => apart text
  | .showOptions _ text _ options => apart text ++ optionLines options
  | .inputVariable _ title text _ => apart s!"[{title}] {text}"
  | .chatMessage text _ kind _ => [s!"<{Enumerated.name kind}> {text}"]
  | .chatBubble _ _ text => ["(\"" ++ text ++ "\")"]
  | .playMusic file => [s!"[BGM] {file}"]
  | .playSound file => [s!"[SE] {file}"]
  | .showPicture file .. => [s!"[PICTURE] {file}"]
  | .warp _ t => [s!"[WARP] {t.map.text} ({Decimal.render t.x.toInt}, {Decimal.render t.y.toInt})"]
  | .entityUpdate player change =>
    [bracketed (record "EntityUpdate" [("player", wrapped "PlayerId" player.text),
      ("change", Enumerated.name change)])]
  | .fadeMusic => [bracketed "FadeMusic"]
  | .stopSounds => [bracketed "StopSounds"]
  | .hidePicture => [bracketed "HidePicture"]
  | .screenFade fade waits duration =>
    [bracketed (record "ScreenFade" [("fade", Enumerated.name fade),
      ("wait_for_completion", truth waits), ("duration_ms", Decimal.render duration.toNat)])]
  | .animation shown follows tile =>
    [bracketed (record "Animation" ([("animation", wrapped "AnimationId" shown.text),
      ("entity", entity? follows)] ++ tileFields tile))]
  | .moveRouteToggle player active =>
    [bracketed (record "MoveRouteToggle" [("player", wrapped "PlayerId" player.text),
      ("active", truth active)])]
  | .holdPlayer event map =>
    [bracketed (record "HoldPlayer" [("event", wrapped "EventId" event.text),
      ("map", wrapped "MapId" map.text)])]
  | .releasePlayer event =>
    [bracketed (record "ReleasePlayer" [("event", wrapped "EventId" event.text)])]
  | .openSession kind name guild =>
    [bracketed (record "OpenSession" [("kind", Enumerated.name kind), ("name", quoted name),
      ("guild", truth guild)])]
  | .questOffer source quest =>
    [bracketed (record "QuestOffer" [("instance", wrapped "InstanceId" source.text),
      ("quest", wrapped "QuestId" quest.text)])]

/-- The lines for an execution. -/
def instanceLines (now : UInt64) (i : Instance) : List String :=
  let waiting := (i.suspension?.map Enumerated.name).getD "None"
  s!"instance {i.id.text} depth {Decimal.render i.stack.length} waiting {waiting}" ::
    match i.waitDeadline? with
    | some deadline => [s!"  wakes in {Decimal.render (satSubUnsigned deadline now).toNat} ms"]
    | none => []

/-- The lines for variables. -/
def variableLines (mark : String) (store : VariableStore) : List String :=
  store.entries.map fun (id, value) => s!"  {mark} {id.text} = {value.text}"

/-- The lines for the state of a player's executions and variables. -/
def stateLines (s : Scheduler) (player : PlayerId) (failed : Nat) : List String :=
  ["--- debug ---"] ++
  (s.instancesOf player).flatMap (instanceLines s.world.now) ++
  (if 0 < failed then [s!"failed instances: {Decimal.render failed}"] else []) ++
  (((s.world.player? player).map fun p => variableLines "pv" p.vars).getD []) ++
  variableLines "sv" s.world.serverVariables ++
  ["-------------"]

end EventScript.CommandLine
