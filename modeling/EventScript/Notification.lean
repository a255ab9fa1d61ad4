import EventScript.Appearance
import EventScript.Client
import EventScript.Movement
import EventScript.Variable.Value

/-!
# Notifications

What scripts tell clients, and which clients they tell.
-/

namespace EventScript

open FieldReader

/-- Which clients a notification is for. -/
inductive Recipients where
  | player (id : PlayerId)
  /-- The players on a map within one map instance. -/
  | proximity (map : MapId) (mapInstance : MapInstanceId)
  /-- The party of a player, the player included. -/
  | party (id : PlayerId)
  | guild (id : GuildId)
  | everyone
  deriving DecidableEq

instance : JsonForm Recipients where
  toJson
    | .player i => .single "Player" (toJson i)
    | .proximity map mapInstance =>
      .single "Proximity" (.obj [("map", toJson map), ("instance", toJson mapInstance)])
    | .party i => .single "Party" (toJson i)
    | .guild i => .single "Guild" (toJson i)
    | .everyone => .str "Global"
  read? m j := do
    match ← j.variant? m with
    | ("Player", c) => return .player (← c.read?)
    | ("Proximity", c) =>
      c.fields? do return .proximity (← required "map") (← required "instance")
    | ("Party", c) => return .party (← c.read?)
    | ("Guild", c) => return .guild (← c.read?)
    | ("Global", c) => if c.isEmpty then some .everyone else none
    | _ => none

/-- What changed about a player. -/
inductive EntityChange where
  | vitals | experience | level | stats | inventory | equipment | spells | appearance | access
  | visibility | profession | guild | name | quests | died
  deriving DecidableEq

instance : Enumerated EntityChange where
  all := [.vitals, .experience, .level, .stats, .inventory, .equipment, .spells, .appearance,
    .access, .visibility, .profession, .guild, .name, .quests, .died]
  name
    | .vitals => "Vitals"
    | .experience => "Experience"
    | .level => "Level"
    | .stats => "Stats"
    | .inventory => "Inventory"
    | .equipment => "Equipment"
    | .spells => "Spells"
    | .appearance => "Appearance"
    | .access => "Access"
    | .visibility => "Visibility"
    | .profession => "Class"
    | .guild => "Guild"
    | .name => "Name"
    | .quests => "Quests"
    | .died => "Died"

/-- A message to clients. -/
inductive Notification where
  | showText (source : InstanceId) (text face : String)
  | showOptions (source : InstanceId) (text face : String) (options : List String)
  | inputVariable (source : InstanceId) (title text : String) (dataType : DataType)
  | chatMessage (text : String) (color : Color) (kind : ChatMessageKind) (sender : Option String)
  | chatBubble (entity : RouteEntity) (map : MapId) (text : String)
  | entityUpdate (player : PlayerId) (change : EntityChange)
  | playMusic (file : String)
  | fadeMusic
  | playSound (file : String)
  | stopSounds
  /-- The source is given when a script waits for the picture to close. -/
  | showPicture (file : String) (size : UInt32) (clickable : Bool) (hideTime : UInt64)
      (source : Option InstanceId)
  | hidePicture
  | screenFade (fade : FadeType) (waitForCompletion : Bool) (duration : UInt64)
  /-- The entity is given when the animation follows it. -/
  | animation (shown : AnimationId) (entity : Option RouteEntity) (tile : Tile)
  | moveRouteToggle (player : PlayerId) (active : Bool)
  | holdPlayer (event : EventId) (map : MapId)
  | releasePlayer (event : EventId)
  | warp (player : PlayerId) (tile : Tile)
  /-- The bank of the guild is opened instead of the player's when `guild` is set. -/
  | openSession (kind : SessionKind) (name : String) (guild : Bool)
  | questOffer (source : InstanceId) (quest : QuestId)
  deriving DecidableEq

namespace Notification

/-- The name of the kind of a notification. -/
def kindName : Notification → String
  | showText .. => "ShowText"
  | showOptions .. => "ShowOptions"
  | inputVariable .. => "InputVariable"
  | chatMessage .. => "ChatMessage"
  | chatBubble .. => "ChatBubble"
  | entityUpdate .. => "EntityUpdate"
  | playMusic _ => "PlayMusic"
  | fadeMusic => "FadeMusic"
  | playSound _ => "PlaySound"
  | stopSounds => "StopSounds"
  | showPicture .. => "ShowPicture"
  | hidePicture => "HidePicture"
  | screenFade .. => "ScreenFade"
  | animation .. => "Animation"
  | moveRouteToggle .. => "MoveRouteToggle"
  | holdPlayer .. => "HoldPlayer"
  | releasePlayer _ => "ReleasePlayer"
  | warp .. => "Warp"
  | openSession .. => "OpenSession"
  | questOffer .. => "QuestOffer"

/-- The fields of a notification, if its kind has any. -/
def fields? : Notification → Option (List (String × Json))
  | showText source text face =>
    some [("instance", toJson source), ("text", toJson text), ("face", toJson face)]
  | showOptions source text face options =>
    some [("instance", toJson source), ("text", toJson text), ("face", toJson face),
      ("options", toJson options)]
  | inputVariable source title text type =>
    some [("instance", toJson source), ("title", toJson title), ("text", toJson text),
      ("data_type", toJson type)]
  | chatMessage text color kind sender =>
    some [("text", toJson text), ("color", toJson color), ("kind", toJson kind),
      ("sender", toJson sender)]
  | chatBubble entity map text =>
    some [("entity", toJson entity), ("map", toJson map), ("text", toJson text)]
  | entityUpdate player change => some [("player", toJson player), ("change", toJson change)]
  | playMusic file => some [("file", toJson file)]
  | fadeMusic => none
  | playSound file => some [("file", toJson file)]
  | stopSounds => none
  | showPicture file size clickable time source =>
    some [("file", toJson file), ("size", toJson size), ("clickable", toJson clickable),
      ("hide_time_ms", toJson time), ("instance", toJson source)]
  | hidePicture => none
  | screenFade fade waits duration =>
    some [("fade", toJson fade), ("wait_for_completion", toJson waits),
      ("duration_ms", toJson duration)]
  | animation shown entity tile =>
    some [("animation", toJson shown), ("entity", toJson entity), ("map", toJson tile.map),
      ("x", toJson tile.x), ("y", toJson tile.y), ("dir", toJson tile.dir)]
  | moveRouteToggle player active => some [("player", toJson player), ("active", toJson active)]
  | holdPlayer event map => some [("event", toJson event), ("map", toJson map)]
  | releasePlayer event => some [("event", toJson event)]
  | warp player tile =>
    some [("player", toJson player), ("map", toJson tile.map), ("x", toJson tile.x),
      ("y", toJson tile.y), ("dir", toJson tile.dir)]
  | openSession kind name guild =>
    some [("kind", toJson kind), ("name", toJson name), ("guild", toJson guild)]
  | questOffer source quest => some [("instance", toJson source), ("quest", toJson quest)]

/-- Read the fields of a kind of notification that has any. -/
def reader : String → FieldReader Notification
  | "ShowText" => return showText (← required "instance") (← required "text") (← required "face")
  | "ShowOptions" =>
    return showOptions (← required "instance") (← required "text") (← required "face")
      (← required "options")
  | "InputVariable" =>
    return inputVariable (← required "instance") (← required "title") (← required "text")
      (← required "data_type")
  | "ChatMessage" =>
    return chatMessage (← required "text") (← required "color") (← required "kind")
      (← optional "sender")
  | "ChatBubble" =>
    return chatBubble (← required "entity") (← required "map") (← required "text")
  | "EntityUpdate" => return entityUpdate (← required "player") (← required "change")
  | "PlayMusic" => return playMusic (← required "file")
  | "PlaySound" => return playSound (← required "file")
  | "ShowPicture" =>
    return showPicture (← required "file") (← required "size") (← required "clickable")
      (← required "hide_time_ms") (← optional "instance")
  | "ScreenFade" =>
    return screenFade (← required "fade") (← required "wait_for_completion")
      (← required "duration_ms")
  | "Animation" =>
    return animation (← required "animation") (← optional "entity")
      ⟨← required "map", ← required "x", ← required "y", ← required "dir"⟩
  | "MoveRouteToggle" => return moveRouteToggle (← required "player") (← required "active")
  | "HoldPlayer" => return holdPlayer (← required "event") (← required "map")
  | "ReleasePlayer" => return releasePlayer (← required "event")
  | "Warp" =>
    return warp (← required "player")
      ⟨← required "map", ← required "x", ← required "y", ← required "dir"⟩
  | "OpenSession" =>
    return openSession (← required "kind") (← required "name") (← required "guild")
  | "QuestOffer" => return questOffer (← required "instance") (← required "quest")
  | _ => refuse

end Notification

instance : JsonForm Notification where
  toJson n := .obj (("type", .str n.kindName) ::
    match n.fields? with
    | some fields => [("args", .obj fields)]
    | none => [])
  read? m j := do
    match ← j.adjacent? "type" "args" m with
    | ("FadeMusic", c) => if c.isNull then some .fadeMusic else none
    | ("StopSounds", c) => if c.isNull then some .stopSounds else none
    | ("HidePicture", c) => if c.isNull then some .hidePicture else none
    | (kind, c) => c.object? (Notification.reader kind)

end EventScript
