import EventScript.Scene.Basic
import EventScript.Text.Alphanumeric

/-!
# Names and guilds

Players are renamed and found or disband guilds. The name is what a string variable of the player
holds, without blanks around it.
-/

namespace EventScript

open EventScript.Text

/-- Whether a name has a length between two bounds and consists of letters, digits, spaces and
underscores. -/
def isValidName (name : String) (shortest longest : UInt64) : Bool :=
  decide (shortest.toNat ≤ name.length) && decide (name.length ≤ longest.toNat) &&
    name.toList.all fun c => isAlphanumeric c || c == ' ' || c == '_'

namespace Scene

/-- The name in a variable of the player. -/
def nameIn (s : Scene) (source : VariableId) : String :=
  trim (s.world.string s.player ⟨.player, source⟩)

/-- Rename the player, if the name is valid and free, and branch on that. -/
def changeName (s : Scene) (source : VariableId) (branches : List BranchId) : Scene :=
  let name := s.nameIn source
  let limits := s.world.config.player
  if isValidName name limits.minNameLength limits.maxNameLength &&
      !s.world.isPlayerNameTaken name s.player.id then
    ((s.withPlayer { s.player with name := name }).announce .name).branchOn true branches
  else s.branchOn false branches

/-- Why the player cannot found a guild with a name. -/
def guildRefusal? (s : Scene) (name : String) : Option String :=
  let limits := s.world.config.player
  if s.player.guild.isSome then some "You are already in a guild."
  else if !isValidName name limits.minGuildNameLength limits.maxGuildNameLength then
    let shortest := Decimal.render limits.minGuildNameLength.toNat
    let longest := Decimal.render limits.maxGuildNameLength.toNat
    some s!"Guild names must be {shortest} to {longest} letters or digits."
  else if (s.world.guildByName? name).isSome then
    some s!"The guild name {name} is already in use."
  else none

/-- Found a guild with a name. -/
def foundGuild (s : Scene) (name : String) : Scene :=
  let (id, supply) := s.world.supply.freshId
  let world := { s.world with supply := supply }.addGuild (.fresh id name s.player.id)
  let s := { s with world := world, player.guild := some id }
  (s.chat s!"You founded the guild {name}!" .green .guild).announce .guild

/-- Found a guild, or say why that cannot be, and branch on that. -/
def createGuild (s : Scene) (source : VariableId) (branches : List BranchId) : Scene :=
  let name := s.nameIn source
  match s.guildRefusal? name with
  | some refusal => (s.chat refusal .red .guild).branchOn false branches
  | none => (s.foundGuild name).branchOn true branches

/-- Let a player leave the guild it is in. -/
def leaveGuild (w : World) (member : PlayerId) : World :=
  match w.player? member with
  | some p => w.putPlayer member { p with guild := none }
  | none => w

/-- What stays when one player leaves a guild stays when several do. -/
theorem foldl_leaveGuild {α : Type} {f : World → α}
    (h : ∀ w member, f (leaveGuild w member) = f w) (members : List PlayerId) (w : World) :
    f (members.foldl leaveGuild w) = f w := by
  induction members generalizing w with
  | nil => rfl
  | cons member members ih => rw [List.foldl_cons, ih, h]

/-- Remove a guild; its members leave it. -/
def dissolveGuild (s : Scene) (id : GuildId) (members : List PlayerId) : Scene :=
  let s := s.send (.guild id) (.chatMessage "Your guild has been disbanded." .red .guild none)
  let others := members.filter fun member => member != s.player.id
  let world := others.foldl leaveGuild (s.world.removeGuild id)
  { s with world := world, player.guild := none }.announce .guild

/-- Say that only the leader can disband the guild. -/
def refuseDisbanding (s : Scene) (branches : List BranchId) : Scene :=
  (s.chat "Only the guild leader can disband the guild." .red .guild).branchOn false branches

/-- Disband the guild that the player leads, and branch on whether there is one. -/
def disbandGuild (s : Scene) (branches : List BranchId) : Scene :=
  match s.player.guild with
  | none => s.branchOn false branches
  | some id =>
    match s.world.guild? id with
    | some g =>
      if g.leader = s.player.id then (s.dissolveGuild id g.members).branchOn true branches
      else s.refuseDisbanding branches
    | none => s.refuseDisbanding branches

/-- Set the size of the guild's bank to a positive number. -/
def setGuildBankSlots (s : Scene) (slots : VariableRef) : Scene :=
  let requested := s.world.integer s.player slots
  match s.player.guild, s.world.guildOf? s.player with
  | some id, some g =>
    if 0 < requested then
      { s with world.guilds := s.world.guilds.insert id { g with bankSlots := requested.toUInt64 } }
    else s
  | _, _ => s

end Scene

end EventScript
