import EventScript.Turn.Answer

/-!
# Scenes under another call stack

No command looks at the frames of the execution it is part of. What a command does to a scene, told
apart from what it does to the call stack, is therefore the same whatever the call stack is: every
action that leaves the stack alone commutes with `Scene.withStack`.
-/

namespace EventScript

/-- The execution with other frames. -/
def Instance.withStack (i : Instance) (st : CallStack) : Instance := { i with stack := st }

/-- The scene with other frames. -/
def Scene.withStack (s : Scene) (st : CallStack) : Scene := { s with run := s.run.withStack st }

/-- The turn with other frames. -/
def Turn.withStack (t : Turn) (st : CallStack) : Turn := { t with run := t.run.withStack st }

/-! ## What a script sees -/

namespace Perspective

variable (w : World) (p : Player) (i : Instance) (st : CallStack)

theorem value_withStack (piece : TextPiece) :
    piece.value ⟨w, p, some (i.withStack st)⟩ = piece.value ⟨w, p, some i⟩ := by
  cases piece with
  | char c => rfl
  | word token => cases token <;> rfl
  | braced token name => cases token <;> rfl

/-- Texts do not show the frames. -/
@[simp] theorem expand_withStack (text : String) :
    expand ⟨w, p, some (i.withStack st)⟩ text = expand ⟨w, p, some i⟩ text := by
  simp only [expand, funext (value_withStack w p i st)]

theorem answer_withStack (startable : QuestId → Guarded Bool) (k : ConditionKind) :
    answer ⟨w, p, some (i.withStack st)⟩ startable k =
      answer ⟨w, p, some i⟩ startable k := by
  cases k with
  | variableIs v c => simp only [answer, compares, expand_withStack]
  | _ => rfl

theorem canStartWithin_withStack (depth : Nat) :
    canStartWithin ⟨w, p, some (i.withStack st)⟩ depth =
      canStartWithin ⟨w, p, some i⟩ depth := by
  induction depth with
  | zero => rfl
  | succ depth ih =>
    funext quest
    simp only [canStartWithin, ih]

@[simp] theorem canStart_withStack :
    canStart ⟨w, p, some (i.withStack st)⟩ = canStart ⟨w, p, some i⟩ := by
  funext quest
  simp only [canStart, canStartWithin_withStack]

/-- Conditions do not ask for the frames. -/
@[simp] theorem meets_withStack (c : Condition) :
    meets ⟨w, p, some (i.withStack st)⟩ c = meets ⟨w, p, some i⟩ c := by
  simp only [meets, answer_withStack, canStart_withStack]

end Perspective

@[simp] theorem Setting.modify_withStack (s : Setting) (i : Instance) (st : CallStack)
    (v : VariableRef) (m : VariableMod) (sync : Bool) :
    s.modify (some (i.withStack st)) v m sync = s.modify (some i) v m sync := by
  unfold Setting.modify Setting.next? Setting.nextString?
  simp only [Perspective.expand_withStack]

namespace Scene

variable (s : Scene) (st : CallStack)

/-! ## Parts of a scene -/

@[simp] theorem world_withStack : (s.withStack st).world = s.world := rfl

@[simp] theorem player_withStack : (s.withStack st).player = s.player := rfl

@[simp] theorem page_withStack : (s.withStack st).page = s.page := rfl

@[simp] theorem toSetting_withStack : (s.withStack st).toSetting = s.toSetting := rfl

@[simp] theorem run_withStack : (s.withStack st).run = s.run.withStack st := rfl

@[simp] theorem expand_withStack : (s.withStack st).expand = s.expand := by
  funext text
  exact Perspective.expand_withStack ..

@[simp] theorem meets_withStack (c : Condition) :
    (s.withStack st).perspective.meets c = s.perspective.meets c :=
  Perspective.meets_withStack ..

@[simp] theorem canStart_withStack :
    (s.withStack st).perspective.canStart = s.perspective.canStart :=
  Perspective.canStart_withStack ..

/-! ## Actions that leave the stack alone -/

@[simp] theorem withPlayer_withStack (p : Player) :
    (s.withStack st).withPlayer p = (s.withPlayer p).withStack st := rfl

@[simp] theorem announce_withStack (change : EntityChange) :
    (s.withStack st).announce change = (s.announce change).withStack st := rfl

@[simp] theorem startEvent?_withStack (event : Option EventId) :
    (s.withStack st).startEvent? event = (s.startEvent? event).withStack st := by
  cases event <;> rfl

theorem withStack_ite (c : Prop) [Decidable c] (a b : Scene) :
    (if c then a else b).withStack st = if c then a.withStack st else b.withStack st :=
  apply_ite (withStack · st) c a b

/-! ### Clients -/

theorem addChatboxText_withStack (text : String) (color : Color) (channel : ChatChannel)
    (bubble nearby : Bool) :
    (s.withStack st).addChatboxText text color channel bubble nearby =
      (s.addChatboxText text color channel bubble nearby).withStack st := by
  have haudience : (s.withStack st).audience? channel = s.audience? channel := by
    cases channel <;> rfl
  simp only [addChatboxText, expand_withStack, haudience]
  cases s.audience? channel <;> cases bubble <;> rfl

/-! ### Variables and self switches -/

theorem setVariable_withStack (target : VariableRef) (m : VariableMod) (sync : Bool) :
    (s.withStack st).setVariable target m sync = (s.setVariable target m sync).withStack st := by
  simp only [setVariable, toSetting_withStack, run_withStack, Setting.modify_withStack]
  rfl

theorem setSelfSwitch_withStack (switch : UInt64) (value : Bool) :
    (s.withStack st).setSelfSwitch switch value = (s.setSelfSwitch switch value).withStack st := by
  unfold setSelfSwitch
  cases h : s.run.isGlobal <;> simp [h, withStack, Instance.withStack, Instance.setSelfSwitch]

/-! ### Places -/

theorem warp_withStack (map : MapId) (x y : Int32) (direction : WarpDirection)
    (type : Option MapInstanceType) :
    (s.withStack st).warp map x y direction type = (s.warp map x y direction type).withStack st :=
  rfl

theorem setMoveRoute_withStack (route : MoveRoute) :
    (s.withStack st).setMoveRoute route = (s.setMoveRoute route).withStack st := by
  unfold setMoveRoute
  cases route.target.isNil <;> rfl

theorem spawnNpc_withStack (npc : NpcId) (place : SpawnTarget) :
    (s.withStack st).spawnNpc npc place = (s.spawnNpc npc place).withStack st := by
  unfold spawnNpc
  have htile : (s.withStack st).tile? place = s.tile? place := by cases place <;> rfl
  rw [htile, world_withStack]
  cases s.world.catalog.npcs.contains npc <;> cases s.tile? place <;> rfl

theorem despawnNpcs_withStack : (s.withStack st).despawnNpcs = s.despawnNpcs.withStack st := rfl

theorem playAnimation_withStack (animation : AnimationId) (place : SpawnTarget) (only : Bool) :
    (s.withStack st).playAnimation animation place only =
      (s.playAnimation animation place only).withStack st := by
  unfold playAnimation
  have htile : (s.withStack st).tile? place = s.tile? place := by cases place <;> rfl
  have hentity : (s.withStack st).animated? place = s.animated? place := by cases place <;> rfl
  rw [htile, hentity]
  cases s.tile? place <;> rfl

theorem holdPlayer_withStack : (s.withStack st).holdPlayer = s.holdPlayer.withStack st := rfl

theorem releasePlayer_withStack : (s.withStack st).releasePlayer = s.releasePlayer.withStack st :=
  rfl

/-! ### Items -/

theorem putItems_withStack (d : ItemDescriptor) (quantity : Int64) :
    (s.withStack st).putItems d quantity = (s.putItems d quantity).withStack st := by
  unfold putItems
  rw [withStack_ite]
  rfl

theorem giveItems_withStack (d : ItemDescriptor) (quantity : Int64) (handling : ItemHandling) :
    (s.withStack st).giveItems d quantity handling =
      ((s.giveItems d quantity handling).1, (s.giveItems d quantity handling).2.withStack st) := by
  cases handling with
  | normal =>
    by_cases h : s.player.inventory.capacity d.id d.stackable d.maxStack < quantity <;>
      simp [giveItems, putItems_withStack, h]
  | overflow =>
    simp only [giveItems, putItems_withStack, withStack_ite]
    rfl
  | upTo =>
    simp only [giveItems, putItems_withStack]
    rfl

theorem takeItems_withStack (item : ItemId) (quantity : Int64) (handling : ItemHandling) :
    (s.withStack st).takeItems item quantity handling =
      ((s.takeItems item quantity handling).1,
        (s.takeItems item quantity handling).2.withStack st) := by
  cases handling with
  | upTo => rfl
  | normal | overflow =>
    by_cases h : s.player.itemCount item < quantity <;> simp [takeItems, h]

theorem unequip_withStack (slot : UInt64) :
    (s.withStack st).unequip slot = (s.unequip slot).withStack st := by
  unfold unequip
  rw [withStack_ite]
  rfl

theorem equip_withStack (d : ItemDescriptor) (slot : UInt64) (cooldown : Bool) :
    (s.withStack st).equip d slot cooldown = (s.equip d slot cooldown).withStack st := by
  simp only [equip, ← announce_withStack, withStack_ite]
  rfl

theorem equipItem_withStack (item : ItemId) (unequips bySlot : Bool) (slot : UInt64)
    (cooldown : Bool) :
    (s.withStack st).equipItem item unequips bySlot slot cooldown =
      (s.equipItem item unequips bySlot slot cooldown).withStack st := by
  have hslot : (s.withStack st).slotToClear? item bySlot slot = s.slotToClear? item bySlot slot :=
    rfl
  unfold equipItem
  rw [hslot]
  cases unequips with
  | true => cases s.slotToClear? item bySlot slot <;> simp [unequip_withStack]
  | false =>
    rw [world_withStack]
    cases s.world.catalog.items.get? item with
    | none => rfl
    | some d => cases hd : d.equipmentSlot <;> simp [hd, equip_withStack, withStack_ite]

/-! ### The character -/

theorem dieIfExhausted_withStack (vital : Vital) :
    (s.withStack st).dieIfExhausted vital = (s.dieIfExhausted vital).withStack st := by
  unfold dieIfExhausted
  rw [withStack_ite]
  rfl

theorem restoreVital_withStack (vital : Vital) (amount : Int64) :
    (s.withStack st).restoreVital vital amount =
      (s.restoreVital vital amount).map fun s => s.withStack st := by
  unfold restoreVital
  rw [player_withStack]
  by_cases hpos : 0 < amount
  · simp only [hpos, ite_true]
    cases s.player.addVital vital amount <;> rfl
  · by_cases hneg : amount < 0
    · simp only [hpos, hneg, ite_true, ite_false, world_withStack, withPlayer_withStack,
        dieIfExhausted_withStack, announce_withStack]
      cases s.player.addVital vital amount <;> rfl
    · simp only [hpos, hneg, ite_false]
      rfl

theorem levelUp_withStack : (s.withStack st).levelUp = s.levelUp.withStack st := by
  unfold levelUp
  rw [withStack_ite]
  rfl

theorem gainLevels_withStack (count : Nat) :
    gainLevels count (s.withStack st) = (gainLevels count s).withStack st := by
  induction count generalizing s with
  | zero => rfl
  | succ count ih =>
    have hneeded : (s.withStack st).experienceToNextLevel? = s.experienceToNextLevel? := rfl
    unfold gainLevels
    rw [hneeded]
    cases s.experienceToNextLevel? with
    | none => rfl
    | some needed =>
      simp only [withStack_ite, ← ih]
      rfl

theorem loseLevels_withStack (count : Nat) :
    loseLevels count (s.withStack st) = (loseLevels count s).withStack st := by
  induction count generalizing s with
  | zero => rfl
  | succ count ih =>
    unfold loseLevels
    simp only [withStack_ite, ← ih]
    rfl

theorem giveExperience_withStack (quantity : Quantity) (losing : Bool) :
    (s.withStack st).giveExperience quantity losing =
      (s.giveExperience quantity losing).withStack st := by
  simp only [giveExperience, world_withStack, player_withStack]
  by_cases hpos : 0 < s.world.amount s.player quantity
  · simp only [hpos, ite_true, withPlayer_withStack, gainLevels_withStack, announce_withStack]
  · by_cases hneg : s.world.amount s.player quantity < 0
    · cases losing with
      | true => simp only [hpos, hneg, ite_true, ite_false, withPlayer_withStack,
          loseLevels_withStack, player_withStack, announce_withStack]
      | false => simp only [hpos, hneg, ite_true, ite_false, Bool.false_eq_true,
          withPlayer_withStack, player_withStack, announce_withStack]
    · simp only [hpos, hneg, ite_false, announce_withStack]

theorem setClass_withStack (profession : ClassId) :
    (s.withStack st).setClass profession = (s.setClass profession).withStack st := by
  simp only [setClass, ← announce_withStack, withStack_ite]
  rfl

theorem castSpellOn_withStack (spell : SpellId) (self party guild : Bool) :
    (s.withStack st).castSpellOn spell self party guild =
      (s.castSpellOn spell self party guild).withStack st := by
  unfold castSpellOn
  rw [withStack_ite]
  rfl

theorem changeNameColor_withStack (color : Color) (remove override : Bool) :
    (s.withStack st).changeNameColor color remove override =
      (s.changeNameColor color remove override).withStack st := by
  unfold changeNameColor
  rw [withStack_ite]
  rfl

theorem changeLabel_withStack (value : String) (position : LabelPosition) (color : Color)
    (matching : Bool) :
    (s.withStack st).changeLabel value position color matching =
      (s.changeLabel value position color matching).withStack st := by
  simp only [changeLabel, expand_withStack]
  rfl

theorem setAccess_withStack (access : Access) :
    (s.withStack st).setAccess access = (s.setAccess access).withStack st := by
  simp only [setAccess, world_withStack, player_withStack]
  cases s.world.user? s.player.user <;> rfl

/-! ### Names and guilds -/

theorem setGuildBankSlots_withStack (slots : VariableRef) :
    (s.withStack st).setGuildBankSlots slots = (s.setGuildBankSlots slots).withStack st := by
  simp only [setGuildBankSlots, world_withStack, player_withStack]
  cases s.player.guild <;> cases s.world.guildOf? s.player <;> simp only [withStack_ite]
  rfl

/-! ### Quests -/

theorem saveProgress_withStack (quest : QuestId) (progress : QuestProgress) :
    (s.withStack st).saveProgress quest progress = (s.saveProgress quest progress).withStack st :=
  rfl

theorem beginQuest_withStack (quest : QuestId) :
    (s.withStack st).beginQuest quest =
      (s.beginQuest quest).map fun r => (r.1, r.2.withStack st) := by
  unfold beginQuest
  rw [canStart_withStack, world_withStack]
  cases s.perspective.canStart quest with
  | error f => rfl
  | ok startable =>
    cases startable with
    | false => rfl
    | true =>
      cases s.world.catalog.quests.get? quest with
      | none => rfl
      | some d =>
        cases hd : d.tasks with
        | nil => simp [hd, Except.map, pure, Except.pure, bind, Except.bind]
        | cons first rest =>
          simp [hd, Except.map, pure, Except.pure, bind, Except.bind, saveProgress_withStack]

theorem finishQuest_withStack (quest : QuestId) (skip : Bool) :
    (s.withStack st).finishQuest quest skip = (s.finishQuest quest skip).withStack st := by
  simp only [finishQuest, withStack_ite, ← startEvent?_withStack]
  rfl

theorem completeQuestTask_withStack (quest : QuestId) (task : TaskId) :
    (s.withStack st).completeQuestTask quest task =
      (s.completeQuestTask quest task).withStack st := by
  unfold completeQuestTask
  rw [withStack_ite, player_withStack, world_withStack]
  refine ite_congr rfl (fun _ => rfl) fun _ => ?_
  cases s.world.catalog.quests.get? quest with
  | none => rfl
  | some d =>
    dsimp only
    cases d.tasks.dropWhile fun t => t.id != task with
    | nil => rfl
    | cons t later =>
      cases later <;>
        simp only [startEvent?_withStack, saveProgress_withStack, finishQuest_withStack,
          player_withStack]

theorem endQuest_withStack (quest : QuestId) (skip : Bool) :
    (s.withStack st).endQuest quest skip = (s.endQuest quest skip).withStack st := by
  simp only [endQuest, withStack_ite, ← finishQuest_withStack]
  rfl

end Scene

end EventScript
