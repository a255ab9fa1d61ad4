import EventScript.Proofs.Guarded
import EventScript.Proofs.Table
import EventScript.Proofs.Turn.Step

/-!
# What scripts play against

A script changes much, but not all: who is loaded, who is connected, the catalog, the configuration
and the clock stay as they are, and so does what an execution was started with. This is the backdrop
of a scene, and every command and every response leaves it as it is.
-/

namespace EventScript

/-- What of a world no script changes. -/
structure World.Backdrop where
  /-- The configuration. -/
  config : EngineConfig
  /-- The catalog. -/
  catalog : Catalog
  /-- The clock. -/
  clock : Clock
  /-- The connected players. -/
  online : Table PlayerId Unit
  /-- Whether a player is loaded. -/
  loaded : PlayerId → Bool

/-- The backdrop of a world. -/
def World.backdrop (w : World) : World.Backdrop where
  config := w.config
  catalog := w.catalog
  clock := w.clock
  online := w.online
  loaded id := (w.player? id).isSome

/-- An execution without what changes while it runs. -/
def Instance.origin (i : Instance) : Instance :=
  { i with stack := [], selfSwitches := Vector.replicate 4 false, holding := false }

/-- Executions that were started as the same are of the same event on the same map, and both clones
or both not. -/
theorem Instance.of_origin {i j : Instance} (h : i.origin = j.origin) :
    i.event = j.event ∧ i.map = j.map ∧ i.isGlobal = j.isGlobal := by
  have hevent : i.origin.event = j.origin.event := by rw [h]
  have hmap : i.origin.map = j.origin.map := by rw [h]
  have hglobal : i.origin.isGlobal = j.origin.isGlobal := by rw [h]
  exact ⟨hevent, hmap, hglobal⟩

/-- What of a scene no script changes. -/
structure Scene.Backdrop where
  /-- That of the world. -/
  world : World.Backdrop
  /-- What the execution was started with. -/
  origin : Instance
  /-- The page of the running frame. -/
  page : Page

/-- The backdrop of a scene. -/
def Scene.backdrop (s : Scene) : Scene.Backdrop := ⟨s.world.backdrop, s.run.origin, s.page⟩

namespace World

/-- Keeping a player who is kept already. -/
theorem putPlayer_self {w : World} {id : PlayerId} {p : Player} (h : w.player? id = some p) :
    w.putPlayer id p = w := by
  unfold putPlayer
  rw [Table.insert_of_get? h]

/-- A player who is loaded gives way to one who is. -/
theorem backdrop_putPlayer {w : World} {id : PlayerId} {p : Player} (hp : w.player? id = some p)
    (q : Player) : (w.putPlayer id q).backdrop = w.backdrop := by
  have hloaded : (w.putPlayer id q).backdrop.loaded = w.backdrop.loaded := by
    funext j
    have hmap := congrArg Option.isSome
      (Table.map_get?_insert_of_eq (b := q) (fun _ => ()) hp rfl j)
    rwa [Option.isSome_map, Option.isSome_map] at hmap
  exact congrArg (fun loaded => { w.backdrop with loaded := loaded }) hloaded

end World

namespace Setting

variable (s : Setting)

/-- Giving a member of the party a value. -/
theorem backdrop_syncMember (v : VariableId) (value : Value) (t : Trigger) (w : World)
    (member : PlayerId) : (syncMember v value t w member).backdrop = w.backdrop := by
  unfold syncMember
  split
  · next other hother =>
    split
    · rfl
    · exact World.backdrop_putPlayer hother _
  · rfl

/-- Telling others of a change. -/
theorem backdrop_propagate (v : VariableRef) (value : Value) (syncs : Bool) :
    (s.propagate v value syncs).backdrop = s.world.backdrop := by
  unfold propagate
  dsimp only
  split
  · split
    · exact List.foldlRecOn (motive := fun w : World => w.backdrop = s.world.backdrop) _ _ rfl
        fun w hw member _ => (backdrop_syncMember v.id value _ w member).trans hw
    · rfl
  · rfl
  · split <;> rfl
  · rfl

/-- Keeping a value. -/
theorem backdrop_store? {v : VariableRef} {value : Value} {stored : Setting}
    (h : s.store? v value = some stored) : stored.world.backdrop = s.world.backdrop := by
  unfold store? at h
  split at h
  · cases h
    rfl
  · cases h
    rfl
  · obtain ⟨_, _, h⟩ := Option.bind_eq_some_iff.mp h
    obtain ⟨_, _, h⟩ := Option.bind_eq_some_iff.mp h
    cases h
    rfl
  · obtain ⟨_, _, h⟩ := Option.bind_eq_some_iff.mp h
    cases h
    rfl

/-- Committing a value. -/
theorem backdrop_commit (v : VariableRef) (old new : Value) (syncs : Bool) :
    (s.commit v old new syncs).2.world.backdrop = s.world.backdrop := by
  unfold commit
  split
  · rfl
  · split
    · next stored hstored =>
      exact (stored.backdrop_propagate v new syncs).trans (s.backdrop_store? hstored)
    · rfl

/-- Setting a variable. -/
theorem backdrop_setValue (v : VariableRef) (value : Value) :
    (s.setValue v value).2.world.backdrop = s.world.backdrop := by
  unfold setValue
  split
  · split
    · exact s.backdrop_commit v _ value false
    · rfl
  · rfl

/-- Modifying a variable. -/
theorem backdrop_modify (running : Option Instance) (v : VariableRef) (m : VariableMod)
    (syncs : Bool) : (s.modify running v m syncs).2.world.backdrop = s.world.backdrop := by
  have hdrawn : (s.drawn m).world.backdrop = s.world.backdrop := by
    unfold drawn
    split <;> rfl
  unfold modify
  split
  · split
    · split
      · exact ((s.drawn m).backdrop_commit v _ _ syncs).trans hdrawn
      · rfl
    · rfl
  · rfl

end Setting

/-- Changing the running frame. -/
@[simp] theorem Instance.origin_modifyTop (i : Instance) (f : Frame → Frame) :
    (i.modifyTop f).origin = i.origin := by
  unfold modifyTop
  split <;> rfl

namespace Scene

variable (s : Scene)

/-! ## Parts of commands -/

/-- The backdrop of a scene sees of the world its backdrop. -/
theorem backdrop_withWorld {w : World} (h : w.backdrop = s.world.backdrop) :
    ({ s with world := w } : Scene).backdrop = s.backdrop := by
  unfold backdrop
  dsimp only
  rw [h]

@[simp] theorem backdrop_suspend (what : Suspension) :
    (s.suspend what).backdrop = s.backdrop := by
  unfold suspend Instance.suspend backdrop
  simp only [Instance.origin_modifyTop]

@[simp] theorem backdrop_tell (n : Notification) : (s.tell n).backdrop = s.backdrop := rfl

@[simp] theorem backdrop_announce (change : EntityChange) :
    (s.announce change).backdrop = s.backdrop := rfl

@[simp] theorem backdrop_chat (text : String) (color : Color) (kind : ChatMessageKind) :
    (s.chat text color kind).backdrop = s.backdrop := rfl

@[simp] theorem backdrop_withPlayer (p : Player) : (s.withPlayer p).backdrop = s.backdrop := rfl

@[simp] theorem backdrop_startEvent? (event : Option EventId) :
    (s.startEvent? event).backdrop = s.backdrop := by
  cases event <;> rfl

@[simp] theorem backdrop_enterBranch (bs : List BranchId) (position : Nat) :
    (s.enterBranch bs position).backdrop = s.backdrop := by
  unfold enterBranch
  split
  · split <;> rfl
  · rfl

@[simp] theorem backdrop_branchOn (success : Bool) (bs : List BranchId) :
    (s.branchOn success bs).backdrop = s.backdrop := s.backdrop_enterBranch bs _

/-! ## Commands -/

/-! ### Flow -/

theorem backdrop_setVariable (target : VariableRef) (m : VariableMod) (syncs : Bool) :
    (s.setVariable target m syncs).backdrop = s.backdrop :=
  s.backdrop_withWorld (s.toSetting.backdrop_modify (some s.run) target m syncs)

theorem backdrop_setSelfSwitch (switch : UInt64) (value : Bool) :
    (s.setSelfSwitch switch value).backdrop = s.backdrop := by
  unfold setSelfSwitch
  dsimp only
  split <;> rfl

theorem backdrop_goToLabel (label : String) : (s.goToLabel label).backdrop = s.backdrop := by
  unfold goToLabel
  split <;> rfl

theorem backdrop_conditionalBranch {condition : Condition} {bs : List BranchId} {s' : Scene}
    (h : s.conditionalBranch condition bs = .ok s') : s'.backdrop = s.backdrop := by
  obtain ⟨met, -, h⟩ := Guarded.bind_eq_ok.mp h
  split at h
  · cases h
    exact s.backdrop_enterBranch bs 0
  · split at h
    · cases h
      exact s.backdrop_enterBranch bs 1
    · cases h
      rfl

theorem origin_foldl_push (pages : List Page) (i : Instance) :
    (pages.foldl (fun r page => r.push (.root page)) i).origin = i.origin :=
  List.foldlRecOn (motive := fun r : Instance => r.origin = i.origin) pages _ rfl
    fun _ h _ _ => h

theorem backdrop_startCommonEvent {event : EventId} {all overworld : Bool} {s' : Scene}
    (h : s.startCommonEvent event all overworld = .ok s') : s'.backdrop = s.backdrop := by
  unfold startCommonEvent at h
  split at h
  · cases h
    rfl
  · obtain ⟨pages, -, h⟩ := Guarded.bind_eq_ok.mp h
    have horigin := origin_foldl_push pages s.run
    dsimp only at h
    split at h <;>
    · cases h
      exact congrArg (fun origin => { s.backdrop with origin := origin }) horigin

/-! ### Characters -/

theorem backdrop_restoreVital {vital : Vital} {amount : Int64} {s' : Scene}
    (h : s.restoreVital vital amount = .ok s') : s'.backdrop = s.backdrop := by
  unfold restoreVital at h
  split at h
  · obtain ⟨_, -, h⟩ := Guarded.bind_eq_ok.mp h
    cases h
    rfl
  · split at h
    · obtain ⟨_, -, h⟩ := Guarded.bind_eq_ok.mp h
      cases h
      unfold dieIfExhausted
      split <;> rfl
    · cases h
      rfl

theorem backdrop_levelUp : s.levelUp.backdrop = s.backdrop := by
  unfold levelUp
  split <;> rfl

theorem backdrop_gainLevels (count : Nat) : (gainLevels count s).backdrop = s.backdrop := by
  induction count generalizing s with
  | zero => rfl
  | succ count ih =>
    unfold gainLevels
    split
    · split
      · rfl
      · exact ih _
    · rfl

theorem backdrop_loseLevels (count : Nat) : (loseLevels count s).backdrop = s.backdrop := by
  induction count generalizing s with
  | zero => rfl
  | succ count ih =>
    unfold loseLevels
    split
    · exact ih _
    · rfl

theorem backdrop_giveExperience (quantity : Quantity) (losing : Bool) :
    (s.giveExperience quantity losing).backdrop = s.backdrop := by
  unfold giveExperience
  dsimp only
  rw [backdrop_announce]
  split
  · rw [backdrop_gainLevels, backdrop_withPlayer]
  · split
    · rw [backdrop_withPlayer]
      split
      · rw [backdrop_loseLevels, backdrop_withPlayer]
      · rw [backdrop_withPlayer]
    · rfl

theorem backdrop_changeSpells (spell : SpellId) (add bound : Bool) (bs : List BranchId) :
    (s.changeSpells spell add bound bs).backdrop = s.backdrop := by
  unfold changeSpells branchOnSpells
  dsimp only
  split
  · rw [backdrop_branchOn]
    rfl
  · exact s.backdrop_branchOn false bs

theorem backdrop_setClass (profession : ClassId) :
    (s.setClass profession).backdrop = s.backdrop := by
  unfold setClass
  dsimp only
  split <;> rfl

theorem backdrop_castSpellOn (spell : SpellId) (self party guild : Bool) :
    (s.castSpellOn spell self party guild).backdrop = s.backdrop := by
  unfold castSpellOn
  split <;> rfl

theorem backdrop_changeNameColor (color : Color) (remove override : Bool) :
    (s.changeNameColor color remove override).backdrop = s.backdrop := by
  unfold changeNameColor
  split <;> rfl

theorem backdrop_setAccess (access : Access) : (s.setAccess access).backdrop = s.backdrop := by
  unfold setAccess
  split <;> rfl

/-! ### Items -/

theorem backdrop_putItems (d : ItemDescriptor) (quantity : Int64) :
    (s.putItems d quantity).backdrop = s.backdrop := by
  unfold putItems
  split <;> rfl

theorem backdrop_dropItems (item : ItemId) (quantity : Int64) :
    (s.dropItems item quantity).backdrop = s.backdrop := rfl

theorem backdrop_giveItems (d : ItemDescriptor) (quantity : Int64) (handling : ItemHandling) :
    (s.giveItems d quantity handling).2.backdrop = s.backdrop := by
  unfold giveItems
  cases handling with
  | normal =>
    dsimp only
    split
    · rfl
    · exact s.backdrop_putItems d quantity
  | overflow =>
    dsimp only
    split
    · rw [backdrop_dropItems, backdrop_putItems]
    · rw [backdrop_putItems]
  | upTo => exact s.backdrop_putItems d _

theorem backdrop_takeItems (item : ItemId) (quantity : Int64) (handling : ItemHandling) :
    (s.takeItems item quantity handling).2.backdrop = s.backdrop := by
  unfold takeItems
  cases handling with
  | upTo => rfl
  | normal | overflow =>
    dsimp only
    split <;> rfl

theorem backdrop_changeItems (item : ItemId) (add : Bool) (quantity : Quantity)
    (handling : ItemHandling) (bs : List BranchId) :
    (s.changeItems item add quantity handling bs).backdrop = s.backdrop := by
  unfold changeItems
  split
  · exact s.backdrop_branchOn true bs
  · exact s.backdrop_branchOn false bs
  · dsimp only
    rw [backdrop_branchOn]
    split
    · split <;> exact s.backdrop_giveItems ..
    · split <;> exact s.backdrop_takeItems ..

theorem backdrop_equipItem (item : ItemId) (unequips bySlot : Bool) (slot : UInt64)
    (cooldown : Bool) : (s.equipItem item unequips bySlot slot cooldown).backdrop = s.backdrop := by
  unfold equipItem
  split
  · split
    · unfold unequip
      split <;> rfl
    · rfl
  · split
    · split
      · split
        · rfl
        · unfold equip
          dsimp only
          split <;> rfl
      · rfl
    · rfl

/-! ### Quests -/

theorem backdrop_saveProgress (quest : QuestId) (progress : QuestProgress) :
    (s.saveProgress quest progress).backdrop = s.backdrop := rfl

theorem backdrop_beginQuest {quest : QuestId} {r : Bool × Scene} (h : s.beginQuest quest = .ok r) :
    r.2.backdrop = s.backdrop := by
  obtain ⟨startable, -, h⟩ := Guarded.bind_eq_ok.mp h
  split at h
  · split at h
    · split at h
      · cases h
        dsimp only
        rw [backdrop_startEvent?, backdrop_saveProgress]
      · cases h
        rfl
    · cases h
      rfl
  · cases h
    rfl

theorem backdrop_startQuest {quest : QuestId} {offer : Bool} {bs : List BranchId} {s' : Scene}
    (h : s.startQuest quest offer bs = .ok s') : s'.backdrop = s.backdrop := by
  obtain ⟨offered, -, h⟩ := Guarded.bind_eq_ok.mp h
  split at h
  · cases h
    rw [backdrop_suspend, backdrop_tell]
  · obtain ⟨r, hr, h⟩ := Guarded.bind_eq_ok.mp h
    cases h
    rw [backdrop_branchOn, s.backdrop_beginQuest hr]

theorem backdrop_finishQuest (quest : QuestId) (skip : Bool) :
    (s.finishQuest quest skip).backdrop = s.backdrop := by
  unfold finishQuest
  dsimp only
  split
  · rw [backdrop_saveProgress]
  · rw [backdrop_startEvent?, backdrop_saveProgress]

theorem backdrop_completeQuestTask (quest : QuestId) (task : TaskId) :
    (s.completeQuestTask quest task).backdrop = s.backdrop := by
  unfold completeQuestTask
  split
  · rfl
  · split
    · split
      · dsimp only
        split
        · rw [backdrop_saveProgress, backdrop_startEvent?]
        · rw [backdrop_finishQuest, backdrop_startEvent?]
      · rfl
    · rfl

theorem backdrop_endQuest (quest : QuestId) (skip : Bool) :
    (s.endQuest quest skip).backdrop = s.backdrop := by
  unfold endQuest
  split
  · exact s.backdrop_finishQuest quest skip
  · rfl

/-! ### Guilds and names -/

theorem backdrop_changeName (source : VariableId) (bs : List BranchId) :
    (s.changeName source bs).backdrop = s.backdrop := by
  unfold changeName
  dsimp only
  split
  · rw [backdrop_branchOn, backdrop_announce, backdrop_withPlayer]
  · exact s.backdrop_branchOn false bs

theorem backdrop_foundGuild (name : String) : (s.foundGuild name).backdrop = s.backdrop := by
  unfold foundGuild
  dsimp only
  rw [backdrop_announce, backdrop_chat]
  rfl

theorem backdrop_createGuild (source : VariableId) (bs : List BranchId) :
    (s.createGuild source bs).backdrop = s.backdrop := by
  unfold createGuild
  dsimp only
  split
  · rw [backdrop_branchOn, backdrop_chat]
  · rw [backdrop_branchOn, backdrop_foundGuild]

theorem backdrop_leaveGuild (w : World) (member : PlayerId) :
    (leaveGuild w member).backdrop = w.backdrop := by
  unfold leaveGuild
  split
  · next p hp => exact World.backdrop_putPlayer hp _
  · rfl

theorem backdrop_dissolveGuild (id : GuildId) (members : List PlayerId) :
    (s.dissolveGuild id members).backdrop = s.backdrop := by
  have hworld : ((members.filter fun member => member != s.player.id).foldl leaveGuild
      ((s.send (.guild id) (.chatMessage "Your guild has been disbanded." .red .guild none)).world
        |>.removeGuild id)).backdrop = s.world.backdrop :=
    List.foldlRecOn (motive := fun w : World => w.backdrop = s.world.backdrop) _ _ rfl
      fun w hw member _ => (backdrop_leaveGuild w member).trans hw
  unfold dissolveGuild
  dsimp only
  rw [backdrop_announce]
  exact s.backdrop_withWorld hworld

theorem backdrop_disbandGuild (bs : List BranchId) :
    (s.disbandGuild bs).backdrop = s.backdrop := by
  unfold disbandGuild refuseDisbanding
  split
  · exact s.backdrop_branchOn false bs
  · split
    · split
      · rw [backdrop_branchOn, backdrop_dissolveGuild]
      · rw [backdrop_branchOn, backdrop_chat]
    · rw [backdrop_branchOn, backdrop_chat]

theorem backdrop_setGuildBankSlots (slots : VariableRef) :
    (s.setGuildBankSlots slots).backdrop = s.backdrop := by
  unfold setGuildBankSlots
  dsimp only
  split
  · split <;> rfl
  · rfl

/-! ### Places -/

theorem backdrop_setMoveRoute (route : MoveRoute) :
    (s.setMoveRoute route).backdrop = s.backdrop := by
  unfold setMoveRoute
  split <;> rfl

theorem backdrop_waitForRoute (target : EventId) :
    (s.waitForRoute target).backdrop = s.backdrop := by
  unfold waitForRoute
  split
  · exact s.backdrop_suspend _
  · rfl

theorem backdrop_spawnNpc (npc : NpcId) (place : SpawnTarget) :
    (s.spawnNpc npc place).backdrop = s.backdrop := by
  unfold spawnNpc
  split
  · split <;> rfl
  · rfl

theorem backdrop_playAnimation (animation : AnimationId) (place : SpawnTarget) (only : Bool) :
    (s.playAnimation animation place only).backdrop = s.backdrop := by
  unfold playAnimation
  split <;> rfl

/-! ### Clients -/

theorem backdrop_inputVariable (title text : String) (target : VariableRef) (bs : List BranchId) :
    (s.inputVariable title text target bs).backdrop = s.backdrop := by
  unfold inputVariable
  split
  · exact backdrop_suspend _ _
  · exact s.backdrop_enterBranch bs 1

theorem backdrop_addChatboxText (text : String) (color : Color) (channel : ChatChannel)
    (bubble nearby : Bool) :
    (s.addChatboxText text color channel bubble nearby).backdrop = s.backdrop := by
  unfold addChatboxText
  dsimp only
  split <;> split <;> rfl

theorem backdrop_showPicture (file : String) (size : UInt32) (clickable : Bool) (time : UInt64)
    (waits : Bool) : (s.showPicture file size clickable time waits).backdrop = s.backdrop := by
  unfold showPicture
  dsimp only
  split
  · exact backdrop_suspend _ _
  · rfl

theorem backdrop_screenFade (fade : FadeType) (waits : Bool) (duration : UInt64) :
    (s.screenFade fade waits duration).backdrop = s.backdrop := by
  unfold screenFade
  split
  · dsimp only
    split
    · exact backdrop_suspend _ _
    · rfl
  · rfl

theorem backdrop_openSession (kind : SessionKind) (name : String) (guild : Bool) :
    (s.openSession kind name guild).backdrop = s.backdrop := backdrop_suspend _ _

theorem backdrop_openShop (shop : ShopId) : (s.openShop shop).backdrop = s.backdrop := by
  unfold openShop
  split
  · exact s.backdrop_openSession ..
  · rfl

theorem backdrop_openCraftingTable (table : CraftingTableId) :
    (s.openCraftingTable table).backdrop = s.backdrop := by
  unfold openCraftingTable
  split
  · exact s.backdrop_openSession ..
  · rfl

theorem backdrop_openGuildBank : s.openGuildBank.backdrop = s.backdrop := by
  unfold openGuildBank
  split
  · exact s.backdrop_openSession ..
  · rfl

/-! ## All commands and responses -/

/-- Every command leaves the backdrop as it is. -/
theorem backdrop_execute {c : Command} {s' : Scene} (h : s.execute c = .ok s') :
    s'.backdrop = s.backdrop := by
  cases c with
  | conditionalBranch => exact s.backdrop_conditionalBranch h
  | startCommonEvent => exact s.backdrop_startCommonEvent h
  | restoreHp | restoreMp => exact s.backdrop_restoreVital h
  | startQuest => exact s.backdrop_startQuest h
  | showText | showOptions | wait => cases h; exact backdrop_suspend _ _
  | inputVariable => cases h; exact s.backdrop_inputVariable ..
  | addChatboxText => cases h; exact s.backdrop_addChatboxText ..
  | setVariable => cases h; exact s.backdrop_setVariable ..
  | setSelfSwitch => cases h; exact s.backdrop_setSelfSwitch ..
  | goToLabel => cases h; exact s.backdrop_goToLabel _
  | levelUp => cases h; exact s.backdrop_levelUp
  | giveExperience => cases h; exact s.backdrop_giveExperience ..
  | setClass => cases h; exact s.backdrop_setClass _
  | changeSpells => cases h; exact s.backdrop_changeSpells ..
  | castSpellOn => cases h; exact s.backdrop_castSpellOn ..
  | changeNameColor => cases h; exact s.backdrop_changeNameColor ..
  | setAccess => cases h; exact s.backdrop_setAccess _
  | changeItems => cases h; exact s.backdrop_changeItems ..
  | equipItem => cases h; exact s.backdrop_equipItem ..
  | completeQuestTask => cases h; exact s.backdrop_completeQuestTask ..
  | endQuest => cases h; exact s.backdrop_endQuest ..
  | changeName => cases h; exact s.backdrop_changeName ..
  | createGuild => cases h; exact s.backdrop_createGuild ..
  | disbandGuild => cases h; exact s.backdrop_disbandGuild _
  | setGuildBankSlots => cases h; exact s.backdrop_setGuildBankSlots _
  | setMoveRoute => cases h; exact s.backdrop_setMoveRoute _
  | waitForRoute => cases h; exact s.backdrop_waitForRoute _
  | spawnNpc => cases h; exact s.backdrop_spawnNpc ..
  | playAnimation => cases h; exact s.backdrop_playAnimation ..
  | showPicture => cases h; exact s.backdrop_showPicture ..
  | screenFade => cases h; exact s.backdrop_screenFade ..
  | openBank => cases h; exact s.backdrop_openSession ..
  | openShop => cases h; exact s.backdrop_openShop _
  | openCraftingTable => cases h; exact s.backdrop_openCraftingTable _
  | openGuildBank => cases h; exact s.backdrop_openGuildBank
  | _ => cases h; rfl

/-- Every response leaves the backdrop as it is. -/
theorem backdrop_resume {asked : Suspension} {response : Response} {s' : Scene}
    (h : s.resume asked response = .ok s') : s'.backdrop = s.backdrop := by
  unfold resume at h
  split at h
  · cases h
    exact s.backdrop_enterBranch ..
  · cases h
    unfold takeInput
    split
    · exact (backdrop_enterBranch ..).trans
        (s.backdrop_withWorld (s.toSetting.backdrop_setValue _ _))
    · exact s.backdrop_enterBranch ..
  · cases h
    exact s.backdrop_enterBranch ..
  · split at h
    · obtain ⟨r, hr, h⟩ := Guarded.bind_eq_ok.mp h
      cases h
      exact (backdrop_branchOn ..).trans (s.backdrop_beginQuest hr)
    · cases h
      exact s.backdrop_branchOn false _
  · cases h
    rfl

end Scene

namespace Turn

/-! ## Turns -/

/-- Settling keeps what the execution was started with. -/
@[simp] theorem settle_origin (t : Turn) : t.settle.run.origin = t.run.origin := by
  rw [settle_run]
  rfl

/-- Concluding leaves finished frames at most. -/
theorem conclude_origin (t : Turn) :
    t.conclude.2.world = t.world ∧ t.conclude.2.run.origin = t.run.origin := by
  unfold conclude
  split
  · exact ⟨rfl, rfl⟩
  · dsimp only
    split <;> exact ⟨rfl, rfl⟩

/-- When a script has changed a scene and its player is kept again, the backdrop is as it was. -/
theorem backdrop_of_scene {w : World} {i : Instance} {page : Page} {p : Player} {s : Scene}
    {runner : PlayerId} (hplayer : w.player? runner = some p)
    (hscene : s.backdrop = (⟨⟨w, p⟩, i, page⟩ : Scene).backdrop) :
    (s.world.putPlayer runner s.player).backdrop = w.backdrop ∧ s.run.origin = i.origin := by
  have hworld : s.world.backdrop = w.backdrop := congrArg Scene.Backdrop.world hscene
  have hloaded : (s.world.player? runner).isSome :=
    (congrFun (congrArg World.Backdrop.loaded hworld) runner).trans
      (Option.isSome_iff_exists.mpr ⟨p, hplayer⟩)
  obtain ⟨q, hq⟩ := Option.isSome_iff_exists.mp hloaded
  exact ⟨(World.backdrop_putPlayer hq s.player).trans hworld,
    congrArg Scene.Backdrop.origin hscene⟩

/-- A step leaves the backdrop of the world and what the execution was started with as they are. -/
theorem backdrop_step {t : Turn} {r : Outcome StepOutcome} (h : t.step = .ok r) :
    r.2.world.backdrop = t.world.backdrop ∧ r.2.run.origin = t.run.origin := by
  rw [← t.settle_world, ← t.settle_origin]
  cases step_cases h with
  | defect | completed | waiting => exact ⟨rfl, rfl⟩
  | execute hstack hruns hcase =>
    cases hcase with
    | missingList | outOfRange | missingPlayer | unsupported =>
      exact ⟨rfl, Instance.origin_modifyTop _ _⟩
    | executed hlist hcommand hplayer hsupported hscene =>
      obtain ⟨hworld, horigin⟩ := backdrop_of_scene hplayer (Scene.backdrop_execute _ hscene)
      obtain ⟨hconclude, hconclude'⟩ := conclude_origin _
      rw [hconclude, hconclude']
      exact ⟨hworld, horigin.trans (Instance.origin_modifyTop _ _)⟩

/-- So does a response. -/
theorem backdrop_answer {t : Turn} {response : Response} {r : Outcome Bool}
    (h : t.answer response = .ok r) :
    r.2.world.backdrop = t.world.backdrop ∧ r.2.run.origin = t.run.origin := by
  cases answer_cases h with
  | ignored => exact ⟨rfl, rfl⟩
  | missingPlayer => exact ⟨rfl, Instance.origin_modifyTop _ _⟩
  | accepted hstack hwaiting hanswered hplayer hscene =>
    obtain ⟨hworld, horigin⟩ := backdrop_of_scene hplayer (Scene.backdrop_resume _ hscene)
    exact ⟨hworld, horigin.trans (Instance.origin_modifyTop _ _)⟩

end Turn

end EventScript
