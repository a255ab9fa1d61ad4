import EventScript.Proofs.Guarded
import EventScript.Proofs.Persistence.Ledger
import EventScript.Scene.Execute

/-!
# Commands that leave the ledger as it is

Most commands change nothing that outlives a run. Each of them, and each action that they are made
of, leads to the ledger that it started from, whoever the script runs for.
-/

namespace EventScript

/-- What a command deals with. -/
inductive Topic where
  | dialogue
  | flow
  | progression
  | appearance
  | movement
  | media
  | sessions
  | quests
  | guilds

/-- What every command deals with. -/
def Command.topic : Command → Topic
  | showText .. | showOptions .. | inputVariable .. | addChatboxText .. => .dialogue
  | setVariable .. | setSelfSwitch .. | conditionalBranch .. | exitEventProcessing | label _
  | goToLabel _ | startCommonEvent .. | wait _ | unsupported => .flow
  | restoreHp _ | restoreMp _ | levelUp | giveExperience .. | changeLevel _ | changeSpells ..
  | castSpellOn .. | changeItems .. | equipItem .. | setClass _ | resetStatPointAllocations =>
    .progression
  | changeSprite _ | changeFace _ | changeGender _ | changeNameColor .. | changePlayerLabel ..
  | changePlayerColor _ | setAccess _ | hidePlayer | showPlayer => .appearance
  | warp .. | setMoveRoute _ | waitForRoute _ | spawnNpc .. | despawnNpcs | playAnimation ..
  | holdPlayer | releasePlayer => .movement
  | playBgm _ | fadeoutBgm | playSound _ | stopSounds | showPicture .. | hidePicture
  | screenFade .. => .media
  | openBank | openShop _ | openCraftingTable .. | openGuildBank => .sessions
  | startQuest .. | completeQuestTask .. | endQuest .. => .quests
  | changeName .. | createGuild .. | disbandGuild _ | setGuildBankSlots _ => .guilds

namespace Player

/-- Changing a vital keeps the identifier and the progress with quests. -/
theorem addVital_keeps {p q : Player} {vital : Vital} {amount : Int64}
    (h : p.addVital vital amount = .ok q) : q.id = p.id ∧ q.quests = p.quests := by
  unfold addVital at h
  dsimp only at h
  split at h
  · cases h
  · cases h
    exact ⟨rfl, rfl⟩

/-- Taking items keeps the identifier and the progress with quests. -/
theorem removeItems_keeps (p : Player) (item : ItemId) (quantity : Int64) :
    (p.removeItems item quantity).2.id = p.id ∧
      (p.removeItems item quantity).2.quests = p.quests := by
  unfold removeItems
  dsimp only
  split <;> exact ⟨rfl, rfl⟩

end Player

namespace Scene

variable (s : Scene) (runner : PlayerId)

/-! ## Commands that stay -/

@[simp] theorem ledger_announce (change : EntityChange) :
    (s.announce change).ledger runner = s.ledger runner := rfl

@[simp] theorem ledger_chat (text : String) (color : Color) (kind : ChatMessageKind) :
    (s.chat text color kind).ledger runner = s.ledger runner := rfl

@[simp] theorem ledger_startEvent? (event : Option EventId) :
    (s.startEvent? event).ledger runner = s.ledger runner := by
  cases event <;> rfl

@[simp] theorem ledger_enterBranch (bs : List BranchId) (position : Nat) :
    (s.enterBranch bs position).ledger runner = s.ledger runner := by
  unfold enterBranch
  split
  · split <;> rfl
  · rfl

@[simp] theorem ledger_branchOn (success : Bool) (bs : List BranchId) :
    (s.branchOn success bs).ledger runner = s.ledger runner :=
  s.ledger_enterBranch runner bs _

theorem ledger_inputVariable (title text : String) (target : VariableRef) (bs : List BranchId) :
    (s.inputVariable title text target bs).ledger runner = s.ledger runner := by
  unfold inputVariable
  split
  · rfl
  · exact s.ledger_enterBranch runner bs 1

theorem ledger_addChatboxText (text : String) (color : Color) (channel : ChatChannel)
    (bubble nearby : Bool) :
    (s.addChatboxText text color channel bubble nearby).ledger runner = s.ledger runner := by
  unfold addChatboxText
  dsimp only
  split <;> split <;> rfl

theorem ledger_setSelfSwitch (switch : UInt64) (value : Bool) :
    (s.setSelfSwitch switch value).ledger runner = s.ledger runner := by
  unfold setSelfSwitch
  dsimp only
  split <;> rfl

theorem ledger_goToLabel (label : String) :
    (s.goToLabel label).ledger runner = s.ledger runner := by
  unfold goToLabel
  split <;> rfl

theorem ledger_conditionalBranch {condition : Condition} {bs : List BranchId} {s' : Scene}
    (h : s.conditionalBranch condition bs = .ok s') : s'.ledger runner = s.ledger runner := by
  obtain ⟨met, -, h⟩ := Guarded.bind_eq_ok.mp h
  split at h
  · cases h
    exact s.ledger_enterBranch runner bs 0
  · split at h
    · cases h
      exact s.ledger_enterBranch runner bs 1
    · cases h
      rfl

theorem ledger_startCommonEvent {event : EventId} {all overworld : Bool} {s' : Scene}
    (h : s.startCommonEvent event all overworld = .ok s') :
    s'.ledger runner = s.ledger runner := by
  unfold startCommonEvent at h
  split at h
  · cases h
    rfl
  · obtain ⟨pages, -, h⟩ := Guarded.bind_eq_ok.mp h
    dsimp only at h
    split at h
    · cases h
      rfl
    · cases h
      rfl

/-! ### Characters -/

theorem ledger_dieIfExhausted (vital : Vital) :
    (s.dieIfExhausted vital).ledger runner = s.ledger runner := by
  unfold dieIfExhausted
  split <;> rfl

theorem ledger_restoreVital {vital : Vital} {amount : Int64} {s' : Scene}
    (h : s.restoreVital vital amount = .ok s') : s'.ledger runner = s.ledger runner := by
  unfold restoreVital at h
  split at h
  · obtain ⟨p, hp, h⟩ := Guarded.bind_eq_ok.mp h
    obtain ⟨hid, hquests⟩ := Player.addVital_keeps hp
    cases h
    exact s.toSetting.ledger_withPlayer runner hid hquests
  · split at h
    · obtain ⟨p, hp, h⟩ := Guarded.bind_eq_ok.mp h
      obtain ⟨hid, hquests⟩ := Player.addVital_keeps hp
      cases h
      rw [ledger_announce, ledger_dieIfExhausted]
      exact s.toSetting.ledger_withPlayer runner hid hquests
    · cases h
      rfl

theorem ledger_levelUp : s.levelUp.ledger runner = s.ledger runner := by
  unfold levelUp
  split <;> rfl

theorem ledger_gainLevels (count : Nat) :
    (gainLevels count s).ledger runner = s.ledger runner := by
  induction count generalizing s with
  | zero => rfl
  | succ count ih =>
    unfold gainLevels
    split
    · split
      · rfl
      · exact ih _
    · rfl

theorem ledger_loseLevels (count : Nat) :
    (loseLevels count s).ledger runner = s.ledger runner := by
  induction count generalizing s with
  | zero => rfl
  | succ count ih =>
    unfold loseLevels
    split
    · exact ih _
    · rfl

theorem ledger_withExperience (exp : Int64) :
    (s.withPlayer { s.player with exp := exp }).ledger runner = s.ledger runner := rfl

theorem ledger_giveExperience (quantity : Quantity) (losing : Bool) :
    (s.giveExperience quantity losing).ledger runner = s.ledger runner := by
  unfold giveExperience
  dsimp only
  rw [ledger_announce]
  split
  · rw [ledger_gainLevels, ledger_withExperience]
  · split
    · rw [ledger_withExperience]
      split
      · rw [ledger_loseLevels, ledger_withExperience]
      · rw [ledger_withExperience]
    · rfl

theorem ledger_setClass (profession : ClassId) :
    (s.setClass profession).ledger runner = s.ledger runner := by
  unfold setClass
  dsimp only
  split <;> rfl

theorem ledger_changeSpells (spell : SpellId) (add bound : Bool) (bs : List BranchId) :
    (s.changeSpells spell add bound bs).ledger runner = s.ledger runner := by
  unfold changeSpells branchOnSpells
  dsimp only
  split
  · rw [ledger_branchOn]
    rfl
  · exact s.ledger_branchOn runner false bs

theorem ledger_castSpellOn (spell : SpellId) (self party guild : Bool) :
    (s.castSpellOn spell self party guild).ledger runner = s.ledger runner := by
  unfold castSpellOn
  split <;> rfl

theorem ledger_changeNameColor (color : Color) (remove override : Bool) :
    (s.changeNameColor color remove override).ledger runner = s.ledger runner := by
  unfold changeNameColor
  split <;> rfl

theorem ledger_changeLabel (value : String) (position : LabelPosition) (color : Color)
    (matches' : Bool) :
    (s.changeLabel value position color matches').ledger runner = s.ledger runner := by
  cases position <;> rfl

theorem ledger_setAccess (access : Access) :
    (s.setAccess access).ledger runner = s.ledger runner := by
  unfold setAccess
  split
  next u hu => exact s.toSetting.ledger_withWorld runner (World.ledger_putUser hu rfl)
  · rfl

/-! ### Items -/

theorem ledger_putItems (d : ItemDescriptor) (quantity : Int64) :
    (s.putItems d quantity).ledger runner = s.ledger runner := by
  unfold putItems
  split <;> rfl

theorem ledger_dropItems (item : ItemId) (quantity : Int64) :
    (s.dropItems item quantity).ledger runner = s.ledger runner := rfl

theorem ledger_giveItems (d : ItemDescriptor) (quantity : Int64) (handling : ItemHandling) :
    (s.giveItems d quantity handling).2.ledger runner = s.ledger runner := by
  unfold giveItems
  cases handling with
  | normal =>
    dsimp only
    split
    · rfl
    · exact s.ledger_putItems runner d quantity
  | overflow =>
    dsimp only
    split
    · rw [ledger_dropItems, ledger_putItems]
    · rw [ledger_putItems]
  | upTo => exact s.ledger_putItems runner d _

theorem ledger_takeItems (item : ItemId) (quantity : Int64) (handling : ItemHandling) :
    (s.takeItems item quantity handling).2.ledger runner = s.ledger runner := by
  have hremove (n : Int64) : (s.withPlayer (s.player.removeItems item n).2).ledger runner =
      s.ledger runner :=
    let ⟨hid, hquests⟩ := Player.removeItems_keeps s.player item n
    s.toSetting.ledger_withPlayer runner hid hquests
  unfold takeItems
  cases handling with
  | upTo => exact hremove _
  | normal | overflow =>
    dsimp only
    split
    · rfl
    · exact hremove quantity

theorem ledger_changeItems (item : ItemId) (add : Bool) (quantity : Quantity)
    (handling : ItemHandling) (bs : List BranchId) :
    (s.changeItems item add quantity handling bs).ledger runner = s.ledger runner := by
  unfold changeItems
  split
  · exact s.ledger_branchOn runner true bs
  · exact s.ledger_branchOn runner false bs
  · dsimp only
    rw [ledger_branchOn]
    split
    · split <;> exact s.ledger_giveItems runner ..
    · split <;> exact s.ledger_takeItems runner ..

theorem ledger_unequip (slot : UInt64) : (s.unequip slot).ledger runner = s.ledger runner := by
  unfold unequip
  split <;> rfl

theorem ledger_equip (d : ItemDescriptor) (slot : UInt64) (cooldown : Bool) :
    (s.equip d slot cooldown).ledger runner = s.ledger runner := by
  unfold equip
  dsimp only
  split <;> rfl

theorem ledger_equipItem (item : ItemId) (unequips bySlot : Bool) (slot : UInt64)
    (cooldown : Bool) :
    (s.equipItem item unequips bySlot slot cooldown).ledger runner = s.ledger runner := by
  unfold equipItem
  split
  · split
    · exact s.ledger_unequip runner _
    · rfl
  · split
    · split
      · split
        · rfl
        · exact s.ledger_equip runner _ _ cooldown
      · rfl
    · rfl

/-! ### Places -/

theorem ledger_warp (map : MapId) (x y : Int32) (direction : WarpDirection)
    (instanceType : Option MapInstanceType) :
    (s.warp map x y direction instanceType).ledger runner = s.ledger runner := by
  cases instanceType <;> rfl

theorem ledger_setMoveRoute (route : MoveRoute) :
    (s.setMoveRoute route).ledger runner = s.ledger runner := by
  unfold setMoveRoute
  split <;> rfl

theorem ledger_waitForRoute (target : EventId) :
    (s.waitForRoute target).ledger runner = s.ledger runner := by
  unfold waitForRoute
  split <;> rfl

theorem ledger_playAnimation (animation : AnimationId) (place : SpawnTarget) (only : Bool) :
    (s.playAnimation animation place only).ledger runner = s.ledger runner := by
  unfold playAnimation
  split <;> rfl

/-! ### Clients -/

theorem ledger_showPicture (file : String) (size : UInt32) (clickable : Bool) (time : UInt64)
    (waits : Bool) :
    (s.showPicture file size clickable time waits).ledger runner = s.ledger runner := by
  unfold showPicture
  dsimp only
  split <;> rfl

theorem ledger_screenFade (fade : FadeType) (waits : Bool) (duration : UInt64) :
    (s.screenFade fade waits duration).ledger runner = s.ledger runner := by
  unfold screenFade
  split
  · cases waits <;> rfl
  · rfl

theorem ledger_openShop (shop : ShopId) :
    (s.openShop shop).ledger runner = s.ledger runner := by
  unfold openShop
  split <;> rfl

theorem ledger_openCraftingTable (table : CraftingTableId) :
    (s.openCraftingTable table).ledger runner = s.ledger runner := by
  unfold openCraftingTable
  split <;> rfl

theorem ledger_openGuildBank : s.openGuildBank.ledger runner = s.ledger runner := by
  unfold openGuildBank
  split <;> rfl

/-! ### Names -/

theorem ledger_changeName (source : VariableId) (bs : List BranchId) :
    (s.changeName source bs).ledger runner = s.ledger runner := by
  unfold changeName
  dsimp only
  split
  · rw [ledger_branchOn]
    rfl
  · exact s.ledger_branchOn runner false bs

theorem ledger_setGuildBankSlots (slots : VariableRef) :
    (s.setGuildBankSlots slots).ledger runner = s.ledger runner := by
  unfold setGuildBankSlots
  dsimp only
  split
  next id g hid hg =>
    have hguild : s.world.guilds.get? id = some g := by
      unfold World.guildOf? at hg
      rw [hid] at hg
      exact hg
    split
    · exact s.toSetting.ledger_withWorld runner (World.ledger_putGuild hguild rfl rfl)
    · rfl
  · rfl

/-! ## What stays by what it deals with -/

variable {s} {c : Command} {s' : Scene}

/-- Dialogues stay. -/
theorem ledger_execute_of_dialogue (hc : c.topic = .dialogue) (h : s.execute c = .ok s') :
    s'.ledger runner = s.ledger runner := by
  cases c with
  | showText | showOptions =>
    cases h
    rfl
  | inputVariable =>
    cases h
    exact s.ledger_inputVariable runner ..
  | addChatboxText =>
    cases h
    exact s.ledger_addChatboxText runner ..
  | _ => cases hc

/-- What a character can do and carries stays. -/
theorem ledger_execute_of_progression (hc : c.topic = .progression) (h : s.execute c = .ok s') :
    s'.ledger runner = s.ledger runner := by
  cases c with
  | changeLevel | resetStatPointAllocations =>
    cases h
    rfl
  | restoreHp | restoreMp => exact s.ledger_restoreVital runner h
  | levelUp =>
    cases h
    exact s.ledger_levelUp runner
  | giveExperience =>
    cases h
    exact s.ledger_giveExperience runner ..
  | changeSpells =>
    cases h
    exact s.ledger_changeSpells runner ..
  | castSpellOn =>
    cases h
    exact s.ledger_castSpellOn runner ..
  | changeItems =>
    cases h
    exact s.ledger_changeItems runner ..
  | equipItem =>
    cases h
    exact s.ledger_equipItem runner ..
  | setClass =>
    cases h
    exact s.ledger_setClass runner _
  | _ => cases hc

/-- What a character looks like stays. -/
theorem ledger_execute_of_appearance (hc : c.topic = .appearance) (h : s.execute c = .ok s') :
    s'.ledger runner = s.ledger runner := by
  cases c with
  | changeSprite | changeFace | changeGender | changePlayerColor | hidePlayer | showPlayer =>
    cases h
    rfl
  | changeNameColor =>
    cases h
    exact s.ledger_changeNameColor runner ..
  | changePlayerLabel =>
    cases h
    exact s.ledger_changeLabel runner ..
  | setAccess =>
    cases h
    exact s.ledger_setAccess runner _
  | _ => cases hc

/-- What clients play and show stays. -/
theorem ledger_execute_of_media (hc : c.topic = .media) (h : s.execute c = .ok s') :
    s'.ledger runner = s.ledger runner := by
  cases c with
  | playBgm | fadeoutBgm | playSound | stopSounds | hidePicture =>
    cases h
    rfl
  | showPicture =>
    cases h
    exact s.ledger_showPicture runner ..
  | screenFade =>
    cases h
    exact s.ledger_screenFade runner ..
  | _ => cases hc

/-- Opening sessions stays. -/
theorem ledger_execute_of_sessions (hc : c.topic = .sessions) (h : s.execute c = .ok s') :
    s'.ledger runner = s.ledger runner := by
  cases c with
  | openBank =>
    cases h
    rfl
  | openShop =>
    cases h
    exact s.ledger_openShop runner _
  | openCraftingTable =>
    cases h
    exact s.ledger_openCraftingTable runner _
  | openGuildBank =>
    cases h
    exact s.ledger_openGuildBank runner
  | _ => cases hc

end Scene

end EventScript
