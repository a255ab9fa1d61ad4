import EventScript.Proofs.Guarded
import EventScript.Proofs.Variable.Change
import EventScript.Turn.Answer

/-!
# Parts of a setting

What a script may change of its world and its player falls into parts: looks, names, belongings,
variables and so on. A command concerns few of them. A setting without these parts, and without what
is only left for clients and the host, is the same before and after the command. Whatever is read
from the other parts stays, and there is one theorem for all of it.
-/

namespace EventScript

/-- A part of what scripts change. -/
inductive Part where
  /-- Where players and events are, how players look, and what they are busy with. -/
  | presence
  /-- The name of the player. -/
  | name
  /-- Class, level, vitals and stats of the player. -/
  | character
  /-- What the player has and wears. -/
  | belongings
  /-- The spells of the player. -/
  | spells
  /-- The progress of the player with quests. -/
  | quests
  /-- The values of variables. -/
  | variables
  /-- The access rights of accounts. -/
  | access
  /-- The sizes of guild banks. -/
  | bank
  /-- Which guilds there are, and who is in them. -/
  | membership
  /-- The characters that scripts spawned. -/
  | entities
  deriving DecidableEq

/-- A value of a part, or a blank when the part is left out. -/
def Part.keep {α : Type} (parts : List Part) (part : Part) (blank value : α) : α :=
  if part ∈ parts then blank else value

open EventScript.Part (keep)

/-- A player without some parts. -/
def Player.without (parts : List Part) (p : Player) : Player where
  id := p.id
  user := p.user
  party := p.party
  name := keep parts .name "" p.name
  guild := keep parts .membership none p.guild
  map := keep parts .presence .nil p.map
  mapInstance := keep parts .presence .nil p.mapInstance
  mapInstanceType := keep parts .presence none p.mapInstanceType
  x := keep parts .presence 0 p.x
  y := keep parts .presence 0 p.y
  dir := keep parts .presence .up p.dir
  gender := keep parts .presence .male p.gender
  sprite := keep parts .presence "" p.sprite
  face := keep parts .presence "" p.face
  nameColor := keep parts .presence none p.nameColor
  headerLabel := keep parts .presence .blank p.headerLabel
  footerLabel := keep parts .presence .blank p.footerLabel
  color := keep parts .presence .white p.color
  hidden := keep parts .presence false p.hidden
  activity := { keep parts .presence .idle p.activity with
    spawnedNpcs := keep parts .entities [] p.activity.spawnedNpcs }
  profession := keep parts .character .nil p.profession
  level := keep parts .character 0 p.level
  exp := keep parts .character 0 p.exp
  vitals := keep parts .character ⟨0, 0⟩ p.vitals
  maxVitals := keep parts .character ⟨0, 0⟩ p.maxVitals
  stats := keep parts .character (.all 0) p.stats
  statPoints := keep parts .character 0 p.statPoints
  statAllocations := keep parts .character (.all 0) p.statAllocations
  inventory := keep parts .belongings [] p.inventory
  equipment := keep parts .belongings .empty p.equipment
  spells := keep parts .spells [] p.spells
  quests := keep parts .quests .empty p.quests
  vars := keep parts .variables .empty p.vars

/-- The record of a player in the world without some parts. A script changes variables and
membership of others at most. -/
def Player.recordWithout (parts : List Part) (p : Player) : Player :=
  { p with
    guild := keep parts .membership none p.guild
    vars := keep parts .variables .empty p.vars }

/-- An account without some parts. -/
def UserAccount.without (parts : List Part) (u : UserAccount) : UserAccount :=
  { u with
    access := keep parts .access .none u.access
    vars := keep parts .variables .empty u.vars }

/-- A guild without some parts. -/
def Guild.without (parts : List Part) (g : Guild) : Guild :=
  { g with
    bankSlots := keep parts .bank 0 g.bankSlots
    vars := keep parts .variables .empty g.vars }

/-- A world without some parts, and without what is left for clients and the host. -/
def World.without (parts : List Part) (w : World) : World where
  config := w.config
  catalog := w.catalog
  clock := w.clock
  online := w.online
  supply := ⟨w.supply.ids, w.supply.draws,
    keep parts .membership 0 (keep parts .entities 0 w.supply.idsUsed), 0⟩
  players := w.players.map fun _ => Player.recordWithout parts
  users := w.users.map fun _ => UserAccount.without parts
  guilds := keep parts .membership .empty (w.guilds.map fun _ => Guild.without parts)
  serverVariables := keep parts .variables .empty w.serverVariables
  mapEvents := keep parts .presence .empty w.mapEvents
  npcs := keep parts .entities .empty w.npcs
  spellCasts := []
  droppedItems := []
  persistence := .empty
  requests := []
  switchUpdates := []
  sent := []

/-- A setting without some parts, and without what is left for clients and the host. -/
def Setting.without (parts : List Part) (s : Setting) : Setting :=
  ⟨s.world.without parts, s.player.without parts⟩

/-- The parts that a command concerns. -/
def Command.parts : Command → List Part
  | setVariable .. => [.variables]
  | restoreHp _ | restoreMp _ => [.character, .presence]
  | levelUp | giveExperience .. | changeLevel _ | setClass _ | resetStatPointAllocations =>
    [.character]
  | changeSpells .. => [.spells]
  | changeItems .. => [.belongings]
  | equipItem .. => [.belongings, .presence]
  | changeSprite _ | changeFace _ | changeGender _ | changeNameColor .. | changePlayerLabel ..
  | changePlayerColor _ | hidePlayer | showPlayer | warp .. | setMoveRoute _ | screenFade ..
  | openBank | openShop _ | openCraftingTable .. | openGuildBank => [.presence]
  | setAccess _ => [.access]
  | spawnNpc .. | despawnNpcs => [.entities]
  | startQuest .. | completeQuestTask .. | endQuest .. => [.quests]
  | changeName .. => [.name]
  | createGuild .. | disbandGuild _ => [.membership]
  | setGuildBankSlots _ => [.bank]
  | _ => []

/-- The parts that the answer to what was asked concerns. -/
def Suspension.parts : Suspension → List Part
  | dialogue (.input ..) => [.variables]
  | questOffer .. => [.quests]
  | _ => []

/-! ## What the other parts show -/

/-- A part that is not left out is kept. -/
theorem Part.keep_of_not_mem {α : Type} {parts : List Part} {part : Part} (h : part ∉ parts)
    (blank value : α) : keep parts part blank value = value := if_neg h

/-- A part that is not found among others is none of them. -/
theorem Part.not_mem_of_contains {parts : List Part} {part : Part}
    (h : parts.contains part = false) : part ∉ parts := by
  intro hmem
  rw [List.contains_iff_mem.mpr hmem] at h
  cases h

namespace World

/-- The loaded players without some parts. -/
theorem player?_without (w : World) (parts : List Part) (id : PlayerId) :
    (w.without parts).player? id = (w.player? id).map (Player.recordWithout parts) :=
  Table.get?_map ..

/-- The guilds without some parts, as long as it is known which there are. -/
theorem guild?_without (w : World) {parts : List Part} (h : .membership ∉ parts) (id : GuildId) :
    (w.without parts).guild? id = (w.guild? id).map (Guild.without parts) := by
  refine (congrArg (fun guilds : Table GuildId Guild => guilds.get? id)
    (Part.keep_of_not_mem h _ _)).trans ?_
  exact Table.get?_map ..

end World

namespace Setting

variable {s s' : Setting}

/-- Values of variables are no part of what is left without them. -/
theorem without_withoutChanges (s : Setting) :
    s.withoutChanges.without [.variables] = s.without [.variables] := by
  simp only [withoutChanges, World.withoutChanges, without, World.without, Table.map_map]
  rfl

/-- The random numbers that were drawn are left out. -/
theorem without_drawn (s : Setting) (a : Assignment) (parts : List Part) :
    (a.drawn s).without parts = s.without parts := by
  cases a with
  | enter value => rfl
  | modify running m syncs =>
    change (s.drawn m).without parts = s.without parts
    unfold drawn
    split <;> rfl

/-- An assignment concerns variables. -/
theorem without_perform (s : Setting) (v : VariableRef) (a : Assignment) :
    (a.perform s v).2.without [.variables] = s.without [.variables] := by
  have hcase := a.perform_cases s v
  generalize a.perform s v = r at hcase
  cases hcase with
  | failed hfails hs =>
    rcases hs with rfl | rfl
    · rfl
    · exact s.without_drawn a _
  | changed hold htype hresult hne hstored =>
    have hrest := (isChanged_of_store? hstored a.syncsParty).rest
    rw [← without_withoutChanges, hrest, without_withoutChanges]
    exact s.without_drawn a _

end Setting

namespace Scene

variable (s : Scene) (parts : List Part)

/-- The setting of a scene without some parts. -/
abbrev rest (parts : List Part) (s : Scene) : Setting := s.toSetting.without parts

/-! ## Steps of all kinds -/

@[simp] theorem rest_suspend (what : Suspension) : (s.suspend what).rest parts = s.rest parts := rfl

@[simp] theorem rest_send (audience : Recipients) (n : Notification) :
    (s.send audience n).rest parts = s.rest parts := rfl

@[simp] theorem rest_tell (n : Notification) : (s.tell n).rest parts = s.rest parts := rfl

@[simp] theorem rest_announce (change : EntityChange) :
    (s.announce change).rest parts = s.rest parts := rfl

@[simp] theorem rest_chat (text : String) (color : Color) (kind : ChatMessageKind) :
    (s.chat text color kind).rest parts = s.rest parts := rfl

@[simp] theorem rest_trigger (t : Trigger) : (s.trigger t).rest parts = s.rest parts := rfl

@[simp] theorem rest_startEvent? (event : Option EventId) :
    (s.startEvent? event).rest parts = s.rest parts := by
  cases event <;> rfl

@[simp] theorem rest_enterBranch (bs : List BranchId) (position : Nat) :
    (s.enterBranch bs position).rest parts = s.rest parts := by
  unfold enterBranch
  split
  · split <;> rfl
  · rfl

@[simp] theorem rest_branchOn (success : Bool) (bs : List BranchId) :
    (s.branchOn success bs).rest parts = s.rest parts := s.rest_enterBranch parts bs _

/-- Entering a branch changes neither the world nor the player. -/
theorem toSetting_enterBranch (bs : List BranchId) (position : Nat) :
    (s.enterBranch bs position).toSetting = s.toSetting := by
  unfold enterBranch
  split
  · split <;> rfl
  · rfl

/-- Nor does branching. -/
theorem toSetting_branchOn (success : Bool) (bs : List BranchId) :
    (s.branchOn success bs).toSetting = s.toSetting := s.toSetting_enterBranch bs _

/-- What concerns the player alone shows in the player. -/
theorem rest_withPlayer {p : Player} (h : p.without parts = s.player.without parts) :
    (s.withPlayer p).rest parts = s.rest parts :=
  congrArg (Setting.mk (s.world.without parts)) h

/-! ## Flow -/

theorem rest_setVariable (target : VariableRef) (m : VariableMod) (syncs : Bool) :
    (s.setVariable target m syncs).rest [.variables] = s.rest [.variables] :=
  s.toSetting.without_perform target (.modify (some s.run) m syncs)

theorem rest_setSelfSwitch (switch : UInt64) (value : Bool) :
    (s.setSelfSwitch switch value).rest parts = s.rest parts := by
  unfold setSelfSwitch
  dsimp only
  split <;> rfl

theorem rest_goToLabel (label : String) : (s.goToLabel label).rest parts = s.rest parts := by
  unfold goToLabel
  split <;> rfl

theorem rest_conditionalBranch {condition : Condition} {bs : List BranchId} {s' : Scene}
    (h : s.conditionalBranch condition bs = .ok s') : s'.rest parts = s.rest parts := by
  obtain ⟨met, -, h⟩ := Guarded.bind_eq_ok.mp h
  split at h
  · cases h
    exact s.rest_enterBranch parts bs 0
  · split at h
    · cases h
      exact s.rest_enterBranch parts bs 1
    · cases h
      rfl

theorem rest_startCommonEvent {event : EventId} {all overworld : Bool} {s' : Scene}
    (h : s.startCommonEvent event all overworld = .ok s') : s'.rest parts = s.rest parts := by
  unfold startCommonEvent at h
  split at h
  · cases h
    rfl
  · obtain ⟨pages, -, h⟩ := Guarded.bind_eq_ok.mp h
    dsimp only at h
    split at h <;>
    · cases h
      rfl

/-! ## Characters -/

theorem rest_dieIfExhausted (vital : Vital) : (s.dieIfExhausted vital).rest
    [.character, .presence] = s.rest [.character, .presence] := by
  unfold dieIfExhausted
  split
  · exact s.rest_withPlayer _ rfl
  · rfl

theorem rest_restoreVital {vital : Vital} {amount : Int64} {s' : Scene}
    (h : s.restoreVital vital amount = .ok s') :
    s'.rest [.character, .presence] = s.rest [.character, .presence] := by
  have hvital {p : Player} (h : s.player.addVital vital amount = .ok p) :
      p.without [.character, .presence] = s.player.without [.character, .presence] := by
    unfold Player.addVital at h
    dsimp only at h
    split at h
    · cases h
    · cases h
      rfl
  unfold restoreVital at h
  split at h
  · obtain ⟨p, hp, h⟩ := Guarded.bind_eq_ok.mp h
    cases h
    exact s.rest_withPlayer _ (hvital hp)
  · split at h
    · obtain ⟨p, hp, h⟩ := Guarded.bind_eq_ok.mp h
      cases h
      rw [rest_announce, rest_dieIfExhausted]
      have hcombat (now : UInt64) : ({ p with activity.combatUntil := now } : Player).without
          [.character, .presence] = p.without [.character, .presence] := rfl
      exact s.rest_withPlayer _ ((hcombat _).trans (hvital hp))
    · cases h
      exact s.rest_withPlayer _ rfl

theorem rest_raiseLevel (resets : Bool) :
    (s.raiseLevel resets).rest [.character] = s.rest [.character] := s.rest_withPlayer _ rfl

theorem rest_levelUp : s.levelUp.rest [.character] = s.rest [.character] := by
  unfold levelUp
  split
  · rfl
  · exact s.rest_raiseLevel true

theorem rest_gainLevels (count : Nat) :
    (gainLevels count s).rest [.character] = s.rest [.character] := by
  induction count generalizing s with
  | zero => rfl
  | succ count ih =>
    unfold gainLevels
    split
    · split
      · rfl
      · rw [ih, rest_raiseLevel]
        exact s.rest_withPlayer _ rfl
    · rfl

theorem rest_loseLevels (count : Nat) :
    (loseLevels count s).rest [.character] = s.rest [.character] := by
  induction count generalizing s with
  | zero => rfl
  | succ count ih =>
    unfold loseLevels
    split
    · dsimp only
      rw [ih, rest_announce]
      exact (rest_withPlayer _ _ rfl).trans (s.rest_withPlayer _ rfl)
    · rfl

theorem rest_giveExperience (quantity : Quantity) (losing : Bool) :
    (s.giveExperience quantity losing).rest [.character] = s.rest [.character] := by
  unfold giveExperience
  dsimp only
  have hgiven := s.rest_withPlayer [.character]
    (p := { s.player with exp := satAdd s.player.exp (s.world.amount s.player quantity) }) rfl
  rw [rest_announce]
  split
  · rw [rest_gainLevels]
    exact hgiven
  · split
    · refine (rest_withPlayer _ _ rfl).trans ?_
      split
      · rw [rest_loseLevels]
        exact hgiven
      · exact hgiven
    · rfl

theorem rest_setClass (profession : ClassId) :
    (s.setClass profession).rest [.character] = s.rest [.character] := by
  unfold setClass
  dsimp only
  rw [rest_announce]
  split
  · exact s.rest_withPlayer _ rfl
  · rfl

theorem rest_changeSpells (spell : SpellId) (add bound : Bool) (bs : List BranchId) :
    (s.changeSpells spell add bound bs).rest [.spells] = s.rest [.spells] := by
  unfold changeSpells branchOnSpells
  dsimp only
  split
  · rw [rest_branchOn, rest_announce]
    exact s.rest_withPlayer _ rfl
  · exact s.rest_branchOn _ false bs

theorem rest_castSpellOn (spell : SpellId) (self party guild : Bool) :
    (s.castSpellOn spell self party guild).rest parts = s.rest parts := by
  unfold castSpellOn
  split <;> rfl

theorem rest_changeNameColor (color : Color) (remove override : Bool) :
    (s.changeNameColor color remove override).rest [.presence] = s.rest [.presence] := by
  unfold changeNameColor
  split
  · rfl
  · exact s.rest_withPlayer _ rfl

theorem rest_changeLabel (value : String) (position : LabelPosition) (color : Color)
    (matchName : Bool) :
    (s.changeLabel value position color matchName).rest [.presence] = s.rest [.presence] := by
  unfold changeLabel
  cases position <;> exact s.rest_withPlayer _ rfl

theorem rest_setAccess (access : Access) :
    (s.setAccess access).rest [.access] = s.rest [.access] := by
  unfold setAccess
  split
  · next u hu =>
    have husers := Table.map_insert_of_eq (b := { u with access := access })
      (fun _ => UserAccount.without [.access]) hu rfl
    exact congrArg (fun users => { s.rest [.access] with world.users := users }) husers
  · rfl

/-! ## Items -/

theorem rest_putItems (d : ItemDescriptor) (quantity : Int64) :
    (s.putItems d quantity).rest [.belongings] = s.rest [.belongings] := by
  unfold putItems
  split
  · exact s.rest_withPlayer _ rfl
  · rfl

theorem rest_dropItems (item : ItemId) (quantity : Int64) :
    (s.dropItems item quantity).rest parts = s.rest parts := rfl

theorem rest_giveItems (d : ItemDescriptor) (quantity : Int64) (handling : ItemHandling) :
    (s.giveItems d quantity handling).2.rest [.belongings] = s.rest [.belongings] := by
  unfold giveItems
  cases handling with
  | normal =>
    dsimp only
    split
    · rfl
    · exact s.rest_putItems d quantity
  | overflow =>
    dsimp only
    split
    · rw [rest_dropItems, rest_putItems]
    · rw [rest_putItems]
  | upTo => exact s.rest_putItems d _

theorem without_removeItems (p : Player) (item : ItemId) (quantity : Int64) :
    (p.removeItems item quantity).2.without [.belongings] = p.without [.belongings] := by
  unfold Player.removeItems
  dsimp only
  split <;> rfl

theorem rest_takeItems (item : ItemId) (quantity : Int64) (handling : ItemHandling) :
    (s.takeItems item quantity handling).2.rest [.belongings] = s.rest [.belongings] := by
  unfold takeItems
  cases handling with
  | upTo => exact s.rest_withPlayer _ (without_removeItems ..)
  | normal | overflow =>
    dsimp only
    split
    · rfl
    · exact s.rest_withPlayer _ (without_removeItems ..)

theorem rest_changeItems (item : ItemId) (add : Bool) (quantity : Quantity)
    (handling : ItemHandling) (bs : List BranchId) :
    (s.changeItems item add quantity handling bs).rest [.belongings] = s.rest [.belongings] := by
  unfold changeItems
  split
  · exact s.rest_branchOn _ true bs
  · exact s.rest_branchOn _ false bs
  · dsimp only
    rw [rest_branchOn]
    split
    · split <;> exact s.rest_giveItems ..
    · split <;> exact s.rest_takeItems ..

theorem rest_equip (d : ItemDescriptor) (slot : UInt64) (cooldown : Bool) :
    (s.equip d slot cooldown).rest [.belongings, .presence] =
      s.rest [.belongings, .presence] := by
  unfold equip
  dsimp only
  rw [rest_announce]
  split
  · exact (rest_withPlayer _ _ rfl).trans (s.rest_withPlayer _ rfl)
  · exact s.rest_withPlayer _ rfl

theorem rest_equipItem (item : ItemId) (unequips bySlot : Bool) (slot : UInt64)
    (cooldown : Bool) : (s.equipItem item unequips bySlot slot cooldown).rest
      [.belongings, .presence] = s.rest [.belongings, .presence] := by
  unfold equipItem
  split
  · split
    · unfold unequip
      split
      · exact s.rest_withPlayer _ rfl
      · rfl
    · rfl
  · split
    · split
      · split
        · rfl
        · exact s.rest_equip ..
      · rfl
    · rfl

/-! ## Quests -/

theorem rest_saveProgress (quest : QuestId) (progress : QuestProgress) :
    (s.saveProgress quest progress).rest [.quests] = s.rest [.quests] :=
  s.rest_withPlayer _ rfl

theorem rest_beginQuest {quest : QuestId} {r : Bool × Scene} (h : s.beginQuest quest = .ok r) :
    r.2.rest [.quests] = s.rest [.quests] := by
  obtain ⟨startable, -, h⟩ := Guarded.bind_eq_ok.mp h
  split at h
  · split at h
    · split at h
      · cases h
        dsimp only
        rw [rest_startEvent?, rest_saveProgress]
      · cases h
        rfl
    · cases h
      rfl
  · cases h
    rfl

theorem rest_startQuest {quest : QuestId} {offer : Bool} {bs : List BranchId} {s' : Scene}
    (h : s.startQuest quest offer bs = .ok s') : s'.rest [.quests] = s.rest [.quests] := by
  obtain ⟨offered, -, h⟩ := Guarded.bind_eq_ok.mp h
  split at h
  · cases h
    rfl
  · obtain ⟨r, hr, h⟩ := Guarded.bind_eq_ok.mp h
    cases h
    rw [rest_branchOn, s.rest_beginQuest hr]

theorem rest_finishQuest (quest : QuestId) (skip : Bool) :
    (s.finishQuest quest skip).rest [.quests] = s.rest [.quests] := by
  unfold finishQuest
  dsimp only
  split
  · rw [rest_saveProgress]
  · rw [rest_startEvent?, rest_saveProgress]

theorem rest_completeQuestTask (quest : QuestId) (task : TaskId) :
    (s.completeQuestTask quest task).rest [.quests] = s.rest [.quests] := by
  unfold completeQuestTask
  split
  · rfl
  · split
    · split
      · dsimp only
        split
        · rw [rest_saveProgress, rest_startEvent?]
        · rw [rest_finishQuest, rest_startEvent?]
      · rfl
    · rfl

theorem rest_endQuest (quest : QuestId) (skip : Bool) :
    (s.endQuest quest skip).rest [.quests] = s.rest [.quests] := by
  unfold endQuest
  split
  · exact s.rest_finishQuest quest skip
  · rfl

/-! ## Names and guilds -/

theorem rest_rename (name : String) :
    (s.withPlayer { s.player with name := name }).rest [.name] = s.rest [.name] :=
  s.rest_withPlayer _ rfl

theorem rest_changeName (source : VariableId) (bs : List BranchId) :
    (s.changeName source bs).rest [.name] = s.rest [.name] := by
  unfold changeName
  dsimp only
  split
  · rw [rest_branchOn, rest_announce, rest_rename]
  · exact s.rest_branchOn _ false bs

theorem rest_createGuild (source : VariableId) (bs : List BranchId) :
    (s.createGuild source bs).rest [.membership] = s.rest [.membership] := by
  unfold createGuild
  dsimp only
  split
  · rw [rest_branchOn, rest_chat]
  · rw [rest_branchOn]
    rfl

/-- A player who leaves a guild is a member of none. -/
theorem without_leaveGuild (w : World) (member : PlayerId) :
    (leaveGuild w member).without [.membership] = w.without [.membership] := by
  unfold leaveGuild
  split
  · next p hp =>
    have hplayers := Table.map_insert_of_eq (b := { p with guild := none })
      (fun _ => Player.recordWithout [.membership]) hp rfl
    exact congrArg (fun players => { w.without [.membership] with players := players }) hplayers
  · rfl

theorem rest_dissolveGuild (id : GuildId) (members : List PlayerId) :
    (s.dissolveGuild id members).rest [.membership] = s.rest [.membership] := by
  have hworld : ((members.filter fun member => member != s.player.id).foldl leaveGuild
      ((s.send (.guild id) (.chatMessage "Your guild has been disbanded." .red .guild none)).world
        |>.removeGuild id)).without [.membership] = s.world.without [.membership] :=
    List.foldlRecOn (motive := fun w : World => w.without [.membership] =
      s.world.without [.membership]) _ _ rfl
      fun w hw member _ => (without_leaveGuild w member).trans hw
  exact congrArg (fun w => Setting.mk w (s.player.without [.membership])) hworld

theorem rest_disbandGuild (bs : List BranchId) :
    (s.disbandGuild bs).rest [.membership] = s.rest [.membership] := by
  unfold disbandGuild refuseDisbanding
  split
  · exact s.rest_branchOn _ false bs
  · split
    · split
      · rw [rest_branchOn, rest_dissolveGuild]
      · rw [rest_branchOn, rest_chat]
    · rw [rest_branchOn, rest_chat]

theorem rest_setGuildBankSlots (slots : VariableRef) :
    (s.setGuildBankSlots slots).rest [.bank] = s.rest [.bank] := by
  unfold setGuildBankSlots
  dsimp only
  split
  · next id g hid hg =>
    split
    · have hg' : s.world.guild? id = some g := by
        rwa [World.guildOf?, hid, Option.bind_some] at hg
      have hguilds := Table.map_insert_of_eq
        (b := { g with bankSlots := (s.world.integer s.player slots).toUInt64 })
        (fun _ => Guild.without [.bank]) hg' rfl
      exact congrArg (fun guilds => { s.rest [.bank] with world.guilds := guilds }) hguilds
    · rfl
  · rfl

/-! ## Places -/

theorem rest_warp (map : MapId) (x y : Int32) (direction : WarpDirection)
    (instanceType : Option MapInstanceType) :
    (s.warp map x y direction instanceType).rest [.presence] = s.rest [.presence] := by
  unfold warp
  cases instanceType <;> exact s.rest_withPlayer _ rfl

theorem rest_setMoveRoute (route : MoveRoute) :
    (s.setMoveRoute route).rest [.presence] = s.rest [.presence] := by
  unfold setMoveRoute
  split <;> rfl

theorem rest_waitForRoute (target : EventId) :
    (s.waitForRoute target).rest parts = s.rest parts := by
  unfold waitForRoute
  split <;> rfl

theorem rest_spawnNpc (npc : NpcId) (place : SpawnTarget) :
    (s.spawnNpc npc place).rest [.entities] = s.rest [.entities] := by
  unfold spawnNpc
  split
  · split <;> rfl
  · rfl

theorem rest_playAnimation (animation : AnimationId) (place : SpawnTarget) (only : Bool) :
    (s.playAnimation animation place only).rest parts = s.rest parts := by
  unfold playAnimation
  split <;> rfl

/-! ## Clients -/

theorem rest_inputVariable (title text : String) (target : VariableRef) (bs : List BranchId) :
    (s.inputVariable title text target bs).rest parts = s.rest parts := by
  unfold inputVariable
  split
  · rfl
  · exact s.rest_enterBranch parts bs 1

theorem rest_addChatboxText (text : String) (color : Color) (channel : ChatChannel)
    (bubble nearby : Bool) :
    (s.addChatboxText text color channel bubble nearby).rest parts = s.rest parts := by
  unfold addChatboxText
  dsimp only
  split <;> split <;> rfl

theorem rest_showPicture (file : String) (size : UInt32) (clickable : Bool) (time : UInt64)
    (waits : Bool) : (s.showPicture file size clickable time waits).rest parts = s.rest parts := by
  unfold showPicture
  dsimp only
  split <;> rfl

theorem rest_screenFade (fade : FadeType) (waits : Bool) (duration : UInt64) :
    (s.screenFade fade waits duration).rest [.presence] = s.rest [.presence] := by
  unfold screenFade
  split
  · dsimp only
    split <;> rfl
  · rfl

theorem rest_openSession (kind : SessionKind) (name : String) (guild : Bool) :
    (s.openSession kind name guild).rest [.presence] = s.rest [.presence] := rfl

theorem rest_openShop (shop : ShopId) :
    (s.openShop shop).rest [.presence] = s.rest [.presence] := by
  unfold openShop
  split
  · exact s.rest_openSession ..
  · rfl

theorem rest_openCraftingTable (table : CraftingTableId) :
    (s.openCraftingTable table).rest [.presence] = s.rest [.presence] := by
  unfold openCraftingTable
  split
  · exact s.rest_openSession ..
  · rfl

theorem rest_openGuildBank : s.openGuildBank.rest [.presence] = s.rest [.presence] := by
  unfold openGuildBank
  split
  · exact s.rest_openSession ..
  · rfl

/-! ## All commands and responses -/

/-- A command changes the parts that it concerns, and no others. -/
theorem rest_execute {c : Command} {s' : Scene} (h : s.execute c = .ok s') :
    s'.rest c.parts = s.rest c.parts := by
  cases c with
  | conditionalBranch => exact s.rest_conditionalBranch [] h
  | startCommonEvent => exact s.rest_startCommonEvent [] h
  | restoreHp | restoreMp => exact s.rest_restoreVital h
  | startQuest => exact s.rest_startQuest h
  | inputVariable => cases h; exact s.rest_inputVariable ..
  | addChatboxText => cases h; exact s.rest_addChatboxText ..
  | setVariable => cases h; exact s.rest_setVariable ..
  | setSelfSwitch => cases h; exact s.rest_setSelfSwitch ..
  | goToLabel => cases h; exact s.rest_goToLabel ..
  | levelUp => cases h; exact s.rest_levelUp
  | giveExperience => cases h; exact s.rest_giveExperience ..
  | setClass => cases h; exact s.rest_setClass _
  | changeSpells => cases h; exact s.rest_changeSpells ..
  | castSpellOn => cases h; exact s.rest_castSpellOn ..
  | changeNameColor => cases h; exact s.rest_changeNameColor ..
  | changePlayerLabel => cases h; exact s.rest_changeLabel ..
  | setAccess => cases h; exact s.rest_setAccess _
  | changeItems => cases h; exact s.rest_changeItems ..
  | equipItem => cases h; exact s.rest_equipItem ..
  | completeQuestTask => cases h; exact s.rest_completeQuestTask ..
  | endQuest => cases h; exact s.rest_endQuest ..
  | changeName => cases h; exact s.rest_changeName ..
  | createGuild => cases h; exact s.rest_createGuild ..
  | disbandGuild => cases h; exact s.rest_disbandGuild _
  | setGuildBankSlots => cases h; exact s.rest_setGuildBankSlots _
  | warp => cases h; exact s.rest_warp ..
  | setMoveRoute => cases h; exact s.rest_setMoveRoute _
  | waitForRoute => cases h; exact s.rest_waitForRoute ..
  | spawnNpc => cases h; exact s.rest_spawnNpc ..
  | playAnimation => cases h; exact s.rest_playAnimation ..
  | showPicture => cases h; exact s.rest_showPicture ..
  | screenFade => cases h; exact s.rest_screenFade ..
  | openShop => cases h; exact s.rest_openShop _
  | openCraftingTable => cases h; exact s.rest_openCraftingTable _
  | openGuildBank => cases h; exact s.rest_openGuildBank
  | _ => cases h; rfl

/-- So does a response to what was asked. -/
theorem rest_resume {asked : Suspension} {response : Response} {s' : Scene}
    (h : s.resume asked response = .ok s') : s'.rest asked.parts = s.rest asked.parts := by
  unfold resume at h
  split at h
  · cases h
    exact s.rest_enterBranch ..
  · next target branches text =>
    cases h
    unfold takeInput
    split
    · next value _ =>
      exact (rest_enterBranch ..).trans (s.toSetting.without_perform target (.enter value))
    · exact s.rest_enterBranch ..
  · cases h
    exact s.rest_enterBranch ..
  · split at h
    · obtain ⟨r, hr, h⟩ := Guarded.bind_eq_ok.mp h
      cases h
      exact (rest_branchOn ..).trans (s.rest_beginQuest hr)
    · cases h
      exact s.rest_branchOn ..
  · cases h
    rfl

/-- Apart from quests, a response sets a variable to what was entered or changes nothing. -/
theorem resume_cases {asked : Suspension} {response : Response} {s' : Scene}
    (h : s.resume asked response = .ok s') : s'.rest [.quests] = s.rest [.quests] ∨
      ∃ v value, s'.toSetting = (Assignment.perform s.toSetting v (.enter value)).2 := by
  unfold resume at h
  split at h
  · cases h
    exact .inl (s.rest_enterBranch ..)
  · next target branches text =>
    cases h
    unfold takeInput
    split
    · next value _ => exact .inr ⟨target, value, toSetting_enterBranch ..⟩
    · exact .inl (s.rest_enterBranch ..)
  · cases h
    exact .inl (s.rest_enterBranch ..)
  · split at h
    · obtain ⟨r, hr, h⟩ := Guarded.bind_eq_ok.mp h
      cases h
      exact .inl ((rest_branchOn ..).trans (s.rest_beginQuest hr))
    · cases h
      exact .inl (s.rest_branchOn ..)
  · cases h
    exact .inl rfl

end Scene

end EventScript
