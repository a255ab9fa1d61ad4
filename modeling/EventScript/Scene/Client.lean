import EventScript.Scene.Basic

/-!
# What clients are shown

Dialogues, chat, pictures, music, screen fades and windows. What the player has to answer suspends
the script.
-/

namespace EventScript.Scene

/-! ## Dialogues -/

/-- Show a text and wait until it was read. -/
def showText (s : Scene) (text face : String) : Scene :=
  (s.tell (.showText s.run.id (s.expand text) face)).suspend (.dialogue .text)

/-- Show options and wait for a choice. -/
def showOptions (s : Scene) (text face : String) (options : List String)
    (branches : List BranchId) : Scene :=
  (s.tell (.showOptions s.run.id (s.expand text) face (options.map s.expand))).suspend
    (.dialogue (.options branches))

/-- Ask for the value of a variable and wait for it. A variable that is not described cannot be
entered, which counts as a cancelled prompt. -/
def inputVariable (s : Scene) (title text : String) (target : VariableRef)
    (branches : List BranchId) : Scene :=
  match s.world.catalog.vars.get? target with
  | some d =>
    (s.tell (.inputVariable s.run.id (s.expand title) (s.expand text) d.dataType)).suspend
      (.dialogue (.input target branches))
  | none => s.enterBranch branches 1

/-! ## Chat -/

/-- Who reads a chat channel and how its messages are marked; nobody reads the channel of a party
without members or of no guild. -/
def audience? (s : Scene) : ChatChannel → Option (Recipients × ChatMessageKind)
  | .player => some (.player s.player.id, .notice)
  | .nearby => some (s.nearby, .nearby)
  | .everyone => some (.everyone, .everyone)
  | .party => if s.player.party.isEmpty then none else some (.party s.player.id, .party)
  | .guild => s.player.guild.map fun g => (.guild g, .guild)

/-- Write to a chat channel and, if asked for, show the text in a bubble over the event. -/
def addChatboxText (s : Scene) (text : String) (color : Color) (channel : ChatChannel)
    (showBubble bubbleNearby : Bool) : Scene :=
  let text := s.expand text
  let s := match s.audience? channel with
    | some (audience, kind) => s.send audience (.chatMessage text color kind none)
    | none => s
  if showBubble then
    s.send (if bubbleNearby then s.nearby else .player s.player.id)
      (.chatBubble (.event s.run.event) s.player.map text)
  else s

/-! ## Pictures, music and fades -/

/-- Show a picture. The script waits only for a picture that can go away, by a click or by itself. -/
def showPicture (s : Scene) (file : String) (size : UInt32) (clickable : Bool) (hideTime : UInt64)
    (waitUntilClosed : Bool) : Scene :=
  let waits := waitUntilClosed && (clickable || decide (0 < hideTime))
  let s := s.tell (.showPicture file size clickable hideTime
    (if waits then some s.run.id else none))
  if waits then s.suspend .picture else s

/-- Fade the screen of a connected player, and wait for the end of the fade if asked for. -/
def screenFade (s : Scene) (fade : FadeType) (waits : Bool) (duration : UInt64) : Scene :=
  if s.world.isOnline s.player.id then
    let s := s.withPlayer { s.player with activity.fading := waits }
    let s := s.tell (.screenFade fade waits duration)
    if waits then s.suspend .fade else s
  else s

/-! ## Windows -/

/-- Open a window and wait until it is closed. -/
def openSession (s : Scene) (kind : SessionKind) (name : String) (guild : Bool) : Scene :=
  let s := s.withPlayer { s.player with activity.openSession := some kind }
  (s.tell (.openSession kind name guild)).suspend (.session kind)

/-- Open the bank of the player. -/
def openBank (s : Scene) : Scene := s.openSession .bank "Bank" false

/-- Open a shop, if it is described. -/
def openShop (s : Scene) (shop : ShopId) : Scene :=
  match s.world.catalog.shops.get? shop with
  | some d => s.openSession .shop d.name false
  | none => s

/-- Open a crafting table, if it is described. -/
def openCraftingTable (s : Scene) (table : CraftingTableId) : Scene :=
  match s.world.catalog.craftingTables.get? table with
  | some d => s.openSession .crafting d.name false
  | none => s

/-- Open the bank of the player's guild, if there is one. -/
def openGuildBank (s : Scene) : Scene :=
  match s.world.guildOf? s.player with
  | some g => s.openSession .bank g.name true
  | none => s

end EventScript.Scene
