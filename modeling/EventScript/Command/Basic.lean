import EventScript.Client
import EventScript.Condition.Basic
import EventScript.Movement
import EventScript.Variable.Modification

/-!
# Commands

The instruction set of event scripts. A command that branches carries the identifiers of its branch
lists by position: the first is taken on success or for the first option, the second on failure or
for the second option, and so on.
-/

namespace EventScript

/-- What happens when an item grant or removal cannot be met in full. -/
inductive ItemHandling where
  /-- All or nothing. -/
  | normal
  /-- Grant what fits and drop the rest on the map. -/
  | overflow
  /-- As many as possible. -/
  | upTo
  deriving DecidableEq

instance : Enumerated ItemHandling where
  all := [.normal, .overflow, .upTo]
  name
    | .normal => "Normal"
    | .overflow => "Overflow"
    | .upTo => "UpTo"

/-- One instruction of an event script. -/
inductive Command where
  | showText (text face : String)
  | showOptions (text face : String) (options : List String) (branches : List BranchId)
  | inputVariable (title text : String) (target : VariableRef) (branches : List BranchId)
  | addChatboxText (text : String) (color : Color) (channel : ChatChannel)
      (showBubble bubbleNearby : Bool)
  | setVariable (target : VariableRef) (modification : VariableMod) (syncParty : Bool)
  | setSelfSwitch (switch : UInt64) (value : Bool)
  | conditionalBranch (condition : Condition) (branches : List BranchId)
  | exitEventProcessing
  | label (name : String)
  | goToLabel (name : String)
  | startCommonEvent (event : EventId) (allInInstance allowInOverworld : Bool)
  | restoreHp (amount : Int64)
  | restoreMp (amount : Int64)
  | levelUp
  | giveExperience (amount : Quantity) (losingLevels : Bool)
  | changeLevel (level : Int32)
  | changeSpells (spell : SpellId) (add removeBound : Bool) (branches : List BranchId)
  | changeItems (item : ItemId) (add : Bool) (quantity : Quantity) (handling : ItemHandling)
      (branches : List BranchId)
  /-- Equip an item or take one off; an item is taken off by its slot when `bySlot` is set. -/
  | equipItem (item : ItemId) (unequip bySlot : Bool) (slot : UInt64) (triggerCooldown : Bool)
  | changeSprite (sprite : String)
  | changeFace (face : String)
  | changeGender (gender : Gender)
  | changeNameColor (color : Color) (remove overrideAccess : Bool)
  | changePlayerLabel (value : String) (position : LabelPosition) (color : Color)
      (matchNameColor : Bool)
  | changePlayerColor (color : Color)
  | setAccess (access : Access)
  | warp (map : MapId) (x y : Int32) (direction : WarpDirection)
      (instanceType : Option MapInstanceType)
  | setMoveRoute (route : MoveRoute)
  /-- Wait for the route of a map event; nil is the running player. -/
  | waitForRoute (target : EventId)
  | spawnNpc (npc : NpcId) (place : SpawnTarget)
  | despawnNpcs
  | playAnimation (animation : AnimationId) (place : SpawnTarget) (toPlayerOnly : Bool)
  | holdPlayer
  | releasePlayer
  | hidePlayer
  | showPlayer
  | playBgm (file : String)
  | fadeoutBgm
  | playSound (file : String)
  | stopSounds
  | showPicture (file : String) (size : UInt32) (clickable : Bool) (hideTime : UInt64)
      (waitUntilClosed : Bool)
  | hidePicture
  | wait (time : UInt64)
  | openBank
  | openShop (shop : ShopId)
  | openCraftingTable (table : CraftingTableId) (journalMode : Bool)
  | setClass (profession : ClassId)
  | startQuest (quest : QuestId) (offer : Bool) (branches : List BranchId)
  | completeQuestTask (quest : QuestId) (task : TaskId)
  | endQuest (quest : QuestId) (skipCompletionEvent : Bool)
  | changeName (source : VariableId) (branches : List BranchId)
  | createGuild (source : VariableId) (branches : List BranchId)
  | disbandGuild (branches : List BranchId)
  | openGuildBank
  | setGuildBankSlots (slots : VariableRef)
  | resetStatPointAllocations
  | castSpellOn (spell : SpellId) (onSelf partyMembers guildMembers : Bool)
  | screenFade (fade : FadeType) (waitForCompletion : Bool) (duration : UInt64)
  /-- A command of a kind that is not known. -/
  | unsupported
  deriving DecidableEq

namespace Command

/-- The branch lists of a command, by position. -/
def branches? : Command → Option (List BranchId)
  | showOptions _ _ _ bs => some bs
  | inputVariable _ _ _ bs => some bs
  | conditionalBranch _ bs => some bs
  | changeSpells _ _ _ bs => some bs
  | changeItems _ _ _ _ bs => some bs
  | startQuest _ _ bs => some bs
  | changeName _ bs => some bs
  | createGuild _ bs => some bs
  | disbandGuild bs => some bs
  | _ => none

/-- The branch lists of a command; none for a command that does not branch. -/
def branches (c : Command) : List BranchId := c.branches?.getD []

/-- The name of the kind of a command. -/
def kindName : Command → String
  | showText .. => "ShowText"
  | showOptions .. => "ShowOptions"
  | inputVariable .. => "InputVariable"
  | addChatboxText .. => "AddChatboxText"
  | setVariable .. => "SetVariable"
  | setSelfSwitch .. => "SetSelfSwitch"
  | conditionalBranch .. => "ConditionalBranch"
  | exitEventProcessing => "ExitEventProcessing"
  | label _ => "Label"
  | goToLabel _ => "GoToLabel"
  | startCommonEvent .. => "StartCommonEvent"
  | restoreHp _ => "RestoreHp"
  | restoreMp _ => "RestoreMp"
  | levelUp => "LevelUp"
  | giveExperience .. => "GiveExperience"
  | changeLevel _ => "ChangeLevel"
  | changeSpells .. => "ChangeSpells"
  | changeItems .. => "ChangeItems"
  | equipItem .. => "EquipItem"
  | changeSprite _ => "ChangeSprite"
  | changeFace _ => "ChangeFace"
  | changeGender _ => "ChangeGender"
  | changeNameColor .. => "ChangeNameColor"
  | changePlayerLabel .. => "ChangePlayerLabel"
  | changePlayerColor _ => "ChangePlayerColor"
  | setAccess _ => "SetAccess"
  | warp .. => "Warp"
  | setMoveRoute _ => "SetMoveRoute"
  | waitForRoute _ => "WaitForRoute"
  | spawnNpc .. => "SpawnNpc"
  | despawnNpcs => "DespawnNpcs"
  | playAnimation .. => "PlayAnimation"
  | holdPlayer => "HoldPlayer"
  | releasePlayer => "ReleasePlayer"
  | hidePlayer => "HidePlayer"
  | showPlayer => "ShowPlayer"
  | playBgm _ => "PlayBgm"
  | fadeoutBgm => "FadeoutBgm"
  | playSound _ => "PlaySound"
  | stopSounds => "StopSounds"
  | showPicture .. => "ShowPicture"
  | hidePicture => "HidePicture"
  | wait _ => "Wait"
  | openBank => "OpenBank"
  | openShop _ => "OpenShop"
  | openCraftingTable .. => "OpenCraftingTable"
  | setClass _ => "SetClass"
  | startQuest .. => "StartQuest"
  | completeQuestTask .. => "CompleteQuestTask"
  | endQuest .. => "EndQuest"
  | changeName .. => "ChangeName"
  | createGuild .. => "CreateGuild"
  | disbandGuild _ => "DisbandGuild"
  | openGuildBank => "OpenGuildBank"
  | setGuildBankSlots _ => "SetGuildBankSlots"
  | resetStatPointAllocations => "ResetStatPointAllocations"
  | castSpellOn .. => "CastSpellOn"
  | screenFade .. => "ScreenFade"
  | unsupported => "Unsupported"

/-- Whether a command is a label with a name. -/
def isLabel (name : String) : Command → Bool
  | label n => n == name
  | _ => false

end Command

end EventScript
