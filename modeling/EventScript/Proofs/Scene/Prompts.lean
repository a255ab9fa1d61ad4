import EventScript.Proofs.Turn.Waiting
import EventScript.Proofs.Variable.Change

/-!
# Prompts

Some notifications ask a client for something a script waits for: a text to be read, an option, a
value, a quest to be accepted, a picture or a window to be closed. A command that lets the script
wait for any of these tells its own player so, once; no other command does, and neither does what
comes of a response.
-/

namespace EventScript

/-! ## Notifications that ask -/

namespace Notification

/-- The execution that a notification asks on behalf of. -/
def asker? : Notification → Option InstanceId
  | showText source .. | showOptions source .. | inputVariable source .. => some source
  | questOffer source _ => some source
  | showPicture _ _ _ _ source => source
  | _ => none

/-- The window that a notification opens. -/
def opened? : Notification → Option SessionKind
  | openSession kind .. => some kind
  | _ => none

/-- Whether a notification asks for something. -/
def isPrompt (n : Notification) : Bool := n.asker?.isSome || n.opened?.isSome

/-- A notification that asks for nothing has neither an execution to ask for nor a window to
open. -/
theorem isPrompt_eq_false_iff {n : Notification} :
    n.isPrompt = false ↔ n.asker? = none ∧ n.opened? = none := by
  simp [isPrompt]

end Notification

namespace Suspension

/-- A notification asks for what an execution waits for. -/
inductive IsPromptedBy (source : InstanceId) : Suspension → Notification → Prop
  | text {text face : String} : IsPromptedBy source (dialogue .text) (.showText source text face)
  | options {text face : String} {options : List String} {branches : List BranchId} :
      IsPromptedBy source (dialogue (.options branches)) (.showOptions source text face options)
  | input {title text : String} {type : DataType} {target : VariableRef}
      {branches : List BranchId} :
      IsPromptedBy source (dialogue (.input target branches))
        (.inputVariable source title text type)
  | questOffer {quest : QuestId} {branches : List BranchId} :
      IsPromptedBy source (questOffer quest branches) (.questOffer source quest)
  | picture {file : String} {size : UInt32} {clickable : Bool} {time : UInt64} :
      IsPromptedBy source picture (.showPicture file size clickable time (some source))
  | session {kind : SessionKind} {name : String} {guild : Bool} :
      IsPromptedBy source (session kind) (.openSession kind name guild)

/-- A command lets the running frame wait for what is asked of the client. -/
inductive IsAskedBy : Suspension → Command → Prop
  | text {text face : String} : IsAskedBy (dialogue .text) (.showText text face)
  | options {text face : String} {options : List String} {branches : List BranchId} :
      IsAskedBy (dialogue (.options branches)) (.showOptions text face options branches)
  | input {title text : String} {target : VariableRef} {branches : List BranchId} :
      IsAskedBy (dialogue (.input target branches)) (.inputVariable title text target branches)
  | questOffer {quest : QuestId} {branches : List BranchId} :
      IsAskedBy (questOffer quest branches) (.startQuest quest true branches)
  | picture {file : String} {size : UInt32} {clickable : Bool} {time : UInt64} :
      IsAskedBy picture (.showPicture file size clickable time true)
  | bank : IsAskedBy (session .bank) .openBank
  | guildBank : IsAskedBy (session .bank) .openGuildBank
  | shop {shop : ShopId} : IsAskedBy (session .shop) (.openShop shop)
  | crafting {table : CraftingTableId} {journal : Bool} :
      IsAskedBy (session .crafting) (.openCraftingTable table journal)

/-- A command lets the running frame wait for what nothing is asked for: time, something on the map,
or the end of a fade that the client was told of anyway. -/
inductive IsAwaitedBy : Suspension → Command → Prop
  | timer {deadline time : UInt64} : IsAwaitedBy (timer deadline) (.wait time)
  | route {awaited : RouteTarget} {target : EventId} :
      IsAwaitedBy (route awaited) (.waitForRoute target)
  | fade {shown : FadeType} {duration : UInt64} : IsAwaitedBy fade (.screenFade shown true duration)

end Suspension

/-! ## Quiet changes -/

/-- Behind what clients were told before, they are told more, but nothing is asked for. -/
def World.AsksNothing (w w' : World) : Prop :=
  ∃ news, w'.sent = w.sent ++ news ∧ ∀ told ∈ news, told.2.isPrompt = false

/-- What clients are told nothing of asks for nothing. -/
theorem World.AsksNothing.of_sent {w w' : World} (h : w'.sent = w.sent) : w.AsksNothing w' :=
  ⟨[], h.trans (List.append_nil _).symm, fun _ htold => absurd htold List.not_mem_nil⟩

/-- Clients are asked for nothing by one thing after another that asks for nothing. -/
theorem World.AsksNothing.trans {w w' w'' : World} (h : w.AsksNothing w')
    (h' : w'.AsksNothing w'') : w.AsksNothing w'' := by
  obtain ⟨news, hsent, hquiet⟩ := h
  obtain ⟨news', hsent', hquiet'⟩ := h'
  refine ⟨news ++ news', ?_, ?_⟩
  · rw [hsent', hsent, List.append_assoc]
  · intro told htold
    rcases List.mem_append.mp htold with htold | htold
    · exact hquiet told htold
    · exact hquiet' told htold

namespace Scene

/-- A scene came from another without asking for anything and without a frame that began to
wait. -/
structure Quiet (s s' : Scene) : Prop where
  told : s.world.AsksNothing s'.world
  /-- When no frame waits, none does afterwards. -/
  runs : s.run.stack.Runs → s'.run.stack.Runs

namespace Quiet

variable {s s' s'' : Scene}

/-- What changes nothing. -/
theorem refl (s : Scene) : s.Quiet s := ⟨.of_sent rfl, id⟩

/-- One quiet change after another. -/
theorem trans (h : s.Quiet s') (h' : s'.Quiet s'') : s.Quiet s'' :=
  ⟨h.told.trans h'.told, fun hruns => h'.runs (h.runs hruns)⟩

/-- What neither tells clients anything nor changes the call stack. -/
theorem of_eq (h : s.Quiet s') (hsent : s''.world.sent = s'.world.sent)
    (hstack : s''.run.stack = s'.run.stack) : s.Quiet s'' := by
  refine h.trans ⟨.of_sent hsent, fun hruns => ?_⟩
  rwa [hstack]

/-- Telling clients something without asking for anything. -/
theorem send (h : s.Quiet s') (audience : Recipients) {n : Notification}
    (hn : n.isPrompt = false) : s.Quiet (s'.send audience n) := by
  refine h.trans ⟨⟨[(audience, n)], rfl, fun told htold => ?_⟩, id⟩
  rw [List.mem_singleton.mp htold]
  exact hn

theorem tell (h : s.Quiet s') {n : Notification} (hn : n.isPrompt = false) :
    s.Quiet (s'.tell n) := h.send _ hn

theorem announce (h : s.Quiet s') (change : EntityChange) : s.Quiet (s'.announce change) :=
  h.send _ rfl

theorem chat (h : s.Quiet s') (text : String) (color : Color) (kind : ChatMessageKind) :
    s.Quiet (s'.chat text color kind) := h.send _ rfl

theorem withPlayer (h : s.Quiet s') (p : Player) : s.Quiet (s'.withPlayer p) := h.of_eq rfl rfl

theorem startEvent? (h : s.Quiet s') (event : Option EventId) :
    s.Quiet (s'.startEvent? event) := by
  cases event with
  | none => exact h
  | some event => exact h.of_eq rfl rfl

theorem enterBranch (h : s.Quiet s') (bs : List BranchId) (position : Nat) :
    s.Quiet (s'.enterBranch bs position) := by
  unfold Scene.enterBranch
  split
  · split
    · exact ⟨h.told, fun hruns => List.forall_mem_cons.mpr ⟨rfl, h.runs hruns⟩⟩
    · exact h
  · exact h

theorem branchOn (h : s.Quiet s') (success : Bool) (bs : List BranchId) :
    s.Quiet (s'.branchOn success bs) := h.enterBranch bs _

end Quiet

variable (s : Scene)

/-! ## Flow -/

theorem quiet_assign (v : VariableRef) (a : Assignment) :
    s.Quiet { s with toSetting := (a.perform s.toSetting v).2 } :=
  (Quiet.refl s).of_eq (a.sent_perform s.toSetting v) rfl

theorem quiet_setSelfSwitch (switch : UInt64) (value : Bool) :
    s.Quiet (s.setSelfSwitch switch value) := by
  unfold setSelfSwitch
  dsimp only
  split <;> exact (Quiet.refl s).of_eq rfl rfl

theorem quiet_conditionalBranch {condition : Condition} {bs : List BranchId} {s' : Scene}
    (h : s.conditionalBranch condition bs = .ok s') : s.Quiet s' := by
  obtain ⟨met, -, h⟩ := Guarded.bind_eq_ok.mp h
  split at h
  · cases h
    exact (Quiet.refl s).enterBranch bs 0
  · split at h
    · cases h
      exact (Quiet.refl s).enterBranch bs 1
    · cases h
      exact .refl s

theorem quiet_goToLabel (label : String) : s.Quiet (s.goToLabel label) := by
  unfold goToLabel
  split
  · next path hfound =>
    refine ⟨(Quiet.refl s).told, fun hruns f hf => ?_⟩
    rcases List.mem_append.mp hf with hf | hf
    · exact ((Page.resolveLabel?_isSegment hfound).2 f (List.mem_reverse.mp hf)).2
    · exact hruns f (CallStack.leavePage_subset _ f hf)
  · exact .refl s

theorem quiet_startCommonEvent {event : EventId} {all overworld : Bool} {s' : Scene}
    (h : s.startCommonEvent event all overworld = .ok s') : s.Quiet s' := by
  unfold startCommonEvent at h
  split at h
  · cases h
    exact .refl s
  · obtain ⟨pages, -, h⟩ := Guarded.bind_eq_ok.mp h
    dsimp only at h
    have hstack : (pages.foldl (fun r page => r.push (.root page)) s.run).stack =
        pages.foldl (fun st page => .root page :: st) s.run.stack :=
      congrArg Instance.stack (foldl_push_withStack pages s.run s.run.stack)
    have hcalled : s.Quiet
        { s with run := pages.foldl (fun r page => r.push (.root page)) s.run } := by
      refine ⟨(Quiet.refl s).told, fun hruns => ?_⟩
      change CallStack.Runs (pages.foldl (fun r page => r.push (.root page)) s.run).stack
      rw [hstack]
      exact hruns.call pages
    split at h
    · cases h
      exact hcalled.of_eq rfl rfl
    · cases h
      exact hcalled

/-! ## Characters -/

theorem quiet_dieIfExhausted (vital : Vital) : s.Quiet (s.dieIfExhausted vital) := by
  unfold dieIfExhausted
  split
  · exact ((Quiet.refl s).withPlayer _).announce _
  · exact .refl s

theorem quiet_restoreVital {vital : Vital} {amount : Int64} {s' : Scene}
    (h : s.restoreVital vital amount = .ok s') : s.Quiet s' := by
  unfold restoreVital at h
  split at h
  · obtain ⟨p, -, h⟩ := Guarded.bind_eq_ok.mp h
    cases h
    exact ((Quiet.refl s).withPlayer p).announce _
  · split at h
    · obtain ⟨p, -, h⟩ := Guarded.bind_eq_ok.mp h
      cases h
      exact (((Quiet.refl s).withPlayer _).trans (quiet_dieIfExhausted _ vital)).announce _
    · cases h
      exact ((Quiet.refl s).withPlayer _).announce _

theorem quiet_raiseLevel (resets : Bool) : s.Quiet (s.raiseLevel resets) := by
  unfold raiseLevel
  refine Quiet.announce ?_ _
  exact (Quiet.refl s).of_eq rfl rfl

theorem quiet_levelUp : s.Quiet s.levelUp := by
  unfold levelUp
  split
  · exact .refl s
  · exact s.quiet_raiseLevel true

theorem quiet_gainLevels (count : Nat) : s.Quiet (gainLevels count s) := by
  induction count generalizing s with
  | zero => exact .refl s
  | succ count ih =>
    unfold gainLevels
    split
    · split
      · exact .refl s
      · exact (((Quiet.refl s).withPlayer _).trans (quiet_raiseLevel _ false)).trans (ih _)
    · exact .refl s

theorem quiet_loseLevels (count : Nat) : s.Quiet (loseLevels count s) := by
  induction count generalizing s with
  | zero => exact .refl s
  | succ count ih =>
    unfold loseLevels
    split
    · dsimp only
      refine Quiet.trans (Quiet.announce ?_ .level) (ih _)
      exact (Quiet.refl s).of_eq rfl rfl
    · exact .refl s

theorem quiet_giveExperience (quantity : Quantity) (losing : Bool) :
    s.Quiet (s.giveExperience quantity losing) := by
  have hgiven := (Quiet.refl s).withPlayer
    { s.player with exp := satAdd s.player.exp (s.world.amount s.player quantity) }
  unfold giveExperience
  dsimp only
  refine Quiet.announce ?_ _
  split
  · exact hgiven.trans (quiet_gainLevels _ _)
  · split
    · refine Quiet.withPlayer ?_ _
      split
      · exact hgiven.trans (quiet_loseLevels _ _)
      · exact hgiven
    · exact .refl s

theorem quiet_setClass (profession : ClassId) : s.Quiet (s.setClass profession) := by
  unfold setClass
  dsimp only
  refine Quiet.announce ?_ _
  split
  · exact (Quiet.refl s).withPlayer _
  · exact .refl s

theorem quiet_changeSpells (spell : SpellId) (add bound : Bool) (bs : List BranchId) :
    s.Quiet (s.changeSpells spell add bound bs) := by
  unfold changeSpells branchOnSpells
  dsimp only
  split
  · exact (((Quiet.refl s).withPlayer _).announce _).branchOn true bs
  · exact (Quiet.refl s).branchOn false bs

theorem quiet_castSpellOn (spell : SpellId) (self party guild : Bool) :
    s.Quiet (s.castSpellOn spell self party guild) := by
  unfold castSpellOn
  split
  · exact (Quiet.refl s).of_eq rfl rfl
  · exact .refl s

theorem quiet_changeLooks (change : Player → Player) : s.Quiet (s.changeLooks change) :=
  ((Quiet.refl s).withPlayer _).announce _

theorem quiet_changeNameColor (color : Color) (remove override : Bool) :
    s.Quiet (s.changeNameColor color remove override) := by
  unfold changeNameColor
  split
  · exact .refl s
  · exact s.quiet_changeLooks _

theorem quiet_changeLabel (value : String) (position : LabelPosition) (color : Color)
    (matchName : Bool) : s.Quiet (s.changeLabel value position color matchName) := by
  unfold changeLabel
  exact s.quiet_changeLooks _

theorem quiet_setAccess (access : Access) : s.Quiet (s.setAccess access) := by
  unfold setAccess
  split
  · refine Quiet.chat (Quiet.announce ?_ _) _ _ _
    exact (Quiet.refl s).of_eq rfl rfl
  · exact .refl s

/-! ## Items -/

theorem quiet_putItems (d : ItemDescriptor) (quantity : Int64) :
    s.Quiet (s.putItems d quantity) := by
  unfold putItems
  split
  · exact (Quiet.refl s).withPlayer _
  · exact .refl s

theorem quiet_dropItems (item : ItemId) (quantity : Int64) :
    s.Quiet (s.dropItems item quantity) := (Quiet.refl s).of_eq rfl rfl

theorem quiet_giveItems (d : ItemDescriptor) (quantity : Int64) (handling : ItemHandling) :
    s.Quiet (s.giveItems d quantity handling).2 := by
  unfold giveItems
  cases handling with
  | normal =>
    dsimp only
    split
    · exact .refl s
    · exact s.quiet_putItems d quantity
  | overflow =>
    dsimp only
    split
    · exact (s.quiet_putItems d _).trans (quiet_dropItems _ _ _)
    · exact s.quiet_putItems d _
  | upTo => exact s.quiet_putItems d _

theorem quiet_takeItems (item : ItemId) (quantity : Int64) (handling : ItemHandling) :
    s.Quiet (s.takeItems item quantity handling).2 := by
  unfold takeItems
  cases handling with
  | upTo => exact (Quiet.refl s).withPlayer _
  | normal | overflow =>
    dsimp only
    split
    · exact .refl s
    · exact (Quiet.refl s).withPlayer _

theorem quiet_changeItems (item : ItemId) (add : Bool) (quantity : Quantity)
    (handling : ItemHandling) (bs : List BranchId) :
    s.Quiet (s.changeItems item add quantity handling bs) := by
  unfold changeItems
  split
  · exact (Quiet.refl s).branchOn true bs
  · exact (Quiet.refl s).branchOn false bs
  · next amount d _ _ =>
    have hchanged : s.Quiet (if add then s.giveItems d amount handling
        else s.takeItems item amount handling).2 := by
      split
      · exact s.quiet_giveItems d amount handling
      · exact s.quiet_takeItems item amount handling
    generalize (if add then s.giveItems d amount handling
      else s.takeItems item amount handling) = r at hchanged
    dsimp only
    refine Quiet.branchOn ?_ _ bs
    split
    · exact hchanged.announce _
    · exact hchanged

theorem quiet_equip (d : ItemDescriptor) (slot : UInt64) (cooldown : Bool) :
    s.Quiet (s.equip d slot cooldown) := by
  unfold equip
  dsimp only
  refine Quiet.announce ?_ _
  split <;> exact (Quiet.refl s).of_eq rfl rfl

theorem quiet_equipItem (item : ItemId) (unequips bySlot : Bool) (slot : UInt64)
    (cooldown : Bool) : s.Quiet (s.equipItem item unequips bySlot slot cooldown) := by
  unfold equipItem
  split
  · split
    · unfold unequip
      split
      · exact ((Quiet.refl s).withPlayer _).announce _
      · exact .refl s
    · exact .refl s
  · split
    · split
      · split
        · exact .refl s
        · exact s.quiet_equip ..
      · exact .refl s
    · exact .refl s

/-! ## Quests -/

theorem quiet_saveProgress (quest : QuestId) (progress : QuestProgress) :
    s.Quiet (s.saveProgress quest progress) := by
  unfold saveProgress
  refine Quiet.announce ?_ _
  exact (Quiet.refl s).of_eq rfl rfl

theorem quiet_beginQuest {quest : QuestId} {r : Bool × Scene} (h : s.beginQuest quest = .ok r) :
    s.Quiet r.2 := by
  obtain ⟨startable, -, h⟩ := Guarded.bind_eq_ok.mp h
  split at h
  · split at h
    · split at h
      · cases h
        exact (s.quiet_saveProgress _ _).startEvent? _
      · cases h
        exact .refl s
    · cases h
      exact .refl s
  · cases h
    exact .refl s

theorem quiet_finishQuest (quest : QuestId) (skip : Bool) :
    s.Quiet (s.finishQuest quest skip) := by
  unfold finishQuest
  dsimp only
  split
  · exact s.quiet_saveProgress _ _
  · exact (s.quiet_saveProgress _ _).startEvent? _

theorem quiet_completeQuestTask (quest : QuestId) (task : TaskId) :
    s.Quiet (s.completeQuestTask quest task) := by
  unfold completeQuestTask
  split
  · exact .refl s
  · split
    · split
      · next t later _ =>
        dsimp only
        have hasked := (Quiet.refl s).startEvent? t.completionEvent
        split
        · exact hasked.trans (quiet_saveProgress _ _ _)
        · exact hasked.trans (quiet_finishQuest _ _ _)
      · exact .refl s
    · exact .refl s

theorem quiet_endQuest (quest : QuestId) (skip : Bool) : s.Quiet (s.endQuest quest skip) := by
  unfold endQuest
  split
  · exact s.quiet_finishQuest quest skip
  · exact .refl s

/-! ## Names and guilds -/

theorem quiet_changeName (source : VariableId) (bs : List BranchId) :
    s.Quiet (s.changeName source bs) := by
  unfold changeName
  dsimp only
  split
  · exact (((Quiet.refl s).withPlayer _).announce _).branchOn true bs
  · exact (Quiet.refl s).branchOn false bs

theorem quiet_foundGuild (name : String) : s.Quiet (s.foundGuild name) := by
  unfold foundGuild
  refine Quiet.announce (Quiet.chat ?_ _ _ _) _
  exact (Quiet.refl s).of_eq rfl rfl

theorem quiet_createGuild (source : VariableId) (bs : List BranchId) :
    s.Quiet (s.createGuild source bs) := by
  unfold createGuild
  dsimp only
  split
  · exact ((Quiet.refl s).chat _ _ _).branchOn false bs
  · exact (s.quiet_foundGuild _).branchOn true bs

/-- Nobody is told when a player leaves a guild. -/
theorem sent_leaveGuild (w : World) (member : PlayerId) :
    (leaveGuild w member).sent = w.sent := by
  unfold leaveGuild
  split <;> rfl

theorem quiet_dissolveGuild (id : GuildId) (members : List PlayerId) :
    s.Quiet (s.dissolveGuild id members) := by
  have htold : s.Quiet (s.send (.guild id)
      (.chatMessage "Your guild has been disbanded." .red .guild none)) :=
    (Quiet.refl s).send _ rfl
  unfold dissolveGuild
  refine Quiet.announce ?_ _
  exact htold.of_eq (foldl_leaveGuild sent_leaveGuild _ _) rfl

theorem quiet_disbandGuild (bs : List BranchId) : s.Quiet (s.disbandGuild bs) := by
  have hrefuse : s.Quiet (s.refuseDisbanding bs) :=
    ((Quiet.refl s).chat _ _ _).branchOn false bs
  unfold disbandGuild
  split
  · exact (Quiet.refl s).branchOn false bs
  · split
    · split
      · exact (s.quiet_dissolveGuild _ _).branchOn true bs
      · exact hrefuse
    · exact hrefuse

theorem quiet_setGuildBankSlots (slots : VariableRef) : s.Quiet (s.setGuildBankSlots slots) := by
  unfold setGuildBankSlots
  dsimp only
  split
  · split
    · exact (Quiet.refl s).of_eq rfl rfl
    · exact .refl s
  · exact .refl s

/-! ## Places and clients -/

theorem quiet_setMoveRoute (route : MoveRoute) : s.Quiet (s.setMoveRoute route) := by
  unfold setMoveRoute
  split
  · exact ((Quiet.refl s).withPlayer _).tell rfl
  · exact (Quiet.refl s).of_eq rfl rfl

theorem quiet_spawnNpc (npc : NpcId) (place : SpawnTarget) : s.Quiet (s.spawnNpc npc place) := by
  unfold spawnNpc
  split
  · split
    · exact (Quiet.refl s).of_eq rfl rfl
    · exact .refl s
  · exact .refl s

theorem quiet_playAnimation (animation : AnimationId) (place : SpawnTarget) (only : Bool) :
    s.Quiet (s.playAnimation animation place only) := by
  unfold playAnimation
  split
  · exact (Quiet.refl s).send _ rfl
  · exact .refl s

theorem quiet_holdPlayer : s.Quiet s.holdPlayer := by
  unfold holdPlayer
  refine Quiet.tell ?_ rfl
  exact (Quiet.refl s).of_eq rfl rfl

theorem quiet_releasePlayer : s.Quiet s.releasePlayer := by
  unfold releasePlayer
  refine Quiet.tell ?_ rfl
  exact (Quiet.refl s).of_eq rfl rfl

theorem quiet_addChatboxText (text : String) (color : Color) (channel : ChatChannel)
    (bubble nearby : Bool) : s.Quiet (s.addChatboxText text color channel bubble nearby) := by
  unfold addChatboxText
  dsimp only
  split
  · refine Quiet.send ?_ _ rfl
    split
    · exact (Quiet.refl s).send _ rfl
    · exact .refl s
  · split
    · exact (Quiet.refl s).send _ rfl
    · exact .refl s

/-! ## All commands and responses -/

/-- What a command asks for and what the running frame waits for behind it. -/
inductive DemandCase (s : Scene) (c : Command) (s' : Scene) : Prop
  /-- Nothing is asked for, and no frame begins to wait. -/
  | quiet (quiet : s.Quiet s')
  /-- The running frame waits, and nothing is asked for. -/
  | silent {what : Suspension} (awaits : what.IsAwaitedBy c)
      (told : s.world.AsksNothing s'.world) (stack : s'.run.stack = (s.run.suspend what).stack)
  /-- The running frame waits for what the player is asked for. -/
  | prompted {what : Suspension} {n : Notification} (asks : what.IsAskedBy c)
      (prompts : what.IsPromptedBy s.run.id n)
      (sent : s'.world.sent = s.world.sent ++ [(.player s.player.id, n)])
      (stack : s'.run.stack = (s.run.suspend what).stack)

theorem demandCase_inputVariable (title text : String) (target : VariableRef)
    (bs : List BranchId) : s.DemandCase (.inputVariable title text target bs)
      (s.inputVariable title text target bs) := by
  unfold inputVariable
  split
  · exact .prompted .input .input rfl rfl
  · exact .quiet ((Quiet.refl s).enterBranch bs 1)

theorem demandCase_startQuest {quest : QuestId} {offer : Bool} {bs : List BranchId} {s' : Scene}
    (h : s.startQuest quest offer bs = .ok s') :
    s.DemandCase (.startQuest quest offer bs) s' := by
  obtain ⟨offered, hoffered, h⟩ := Guarded.bind_eq_ok.mp h
  split at h
  · next hstart =>
    have hoffer : offer = true := by
      cases offer with
      | true => rfl
      | false =>
        cases hoffered
        cases hstart
    cases h
    rw [hoffer]
    exact .prompted .questOffer .questOffer rfl rfl
  · obtain ⟨r, hr, h⟩ := Guarded.bind_eq_ok.mp h
    cases h
    exact .quiet ((s.quiet_beginQuest hr).branchOn r.1 bs)

theorem demandCase_waitForRoute (target : EventId) :
    s.DemandCase (.waitForRoute target) (s.waitForRoute target) := by
  unfold waitForRoute
  split
  · exact .silent .route (.of_sent rfl) rfl
  · exact .quiet (.refl s)

/-- A picture asks on behalf of the script when the script waits for it. -/
theorem demandCase_showPicture (file : String) (size : UInt32) (clickable : Bool) (time : UInt64)
    (waits : Bool) : s.DemandCase (.showPicture file size clickable time waits)
      (s.showPicture file size clickable time waits) := by
  unfold showPicture
  dsimp only
  split
  · next hwaits =>
    obtain ⟨rfl, -⟩ := Bool.and_eq_true_iff.mp hwaits
    exact .prompted .picture .picture rfl rfl
  · exact .quiet ((Quiet.refl s).tell rfl)

theorem demandCase_screenFade (fade : FadeType) (waits : Bool) (duration : UInt64) :
    s.DemandCase (.screenFade fade waits duration) (s.screenFade fade waits duration) := by
  unfold screenFade
  split
  · have htold : s.Quiet ((s.withPlayer { s.player with activity.fading := waits }).tell
        (.screenFade fade waits duration)) := ((Quiet.refl s).withPlayer _).tell rfl
    dsimp only
    split
    · next hwaits =>
      subst hwaits
      exact .silent .fade htold.told rfl
    · exact .quiet htold
  · exact .quiet (.refl s)

theorem demandCase_openSession {c : Command} {kind : SessionKind}
    (asks : (Suspension.session kind).IsAskedBy c) (name : String) (guild : Bool) :
    s.DemandCase c (s.openSession kind name guild) := .prompted asks .session rfl rfl

theorem demandCase_openShop (shop : ShopId) : s.DemandCase (.openShop shop) (s.openShop shop) := by
  unfold openShop
  split
  · exact s.demandCase_openSession .shop ..
  · exact .quiet (.refl s)

theorem demandCase_openCraftingTable (table : CraftingTableId) (journal : Bool) :
    s.DemandCase (.openCraftingTable table journal) (s.openCraftingTable table) := by
  unfold openCraftingTable
  split
  · exact s.demandCase_openSession .crafting ..
  · exact .quiet (.refl s)

theorem demandCase_openGuildBank : s.DemandCase .openGuildBank s.openGuildBank := by
  unfold openGuildBank
  split
  · exact s.demandCase_openSession .guildBank ..
  · exact .quiet (.refl s)

/-- A command asks its player for what the running frame waits for, and for nothing else. -/
theorem demandCase_execute {c : Command} {s' : Scene} (h : s.execute c = .ok s') :
    s.DemandCase c s' := by
  cases c with
  | showText => cases h; exact .prompted .text .text rfl rfl
  | showOptions => cases h; exact .prompted .options .options rfl rfl
  | inputVariable => cases h; exact s.demandCase_inputVariable ..
  | startQuest => exact s.demandCase_startQuest h
  | wait => cases h; exact .silent .timer (.of_sent rfl) rfl
  | waitForRoute => cases h; exact s.demandCase_waitForRoute _
  | showPicture => cases h; exact s.demandCase_showPicture ..
  | screenFade => cases h; exact s.demandCase_screenFade ..
  | openBank => cases h; exact s.demandCase_openSession .bank ..
  | openShop => cases h; exact s.demandCase_openShop _
  | openCraftingTable => cases h; exact s.demandCase_openCraftingTable ..
  | openGuildBank => cases h; exact s.demandCase_openGuildBank
  | addChatboxText => cases h; exact .quiet (s.quiet_addChatboxText ..)
  | setVariable target m syncs =>
    cases h
    exact .quiet (s.quiet_assign target (.modify (some s.run) m syncs))
  | setSelfSwitch => cases h; exact .quiet (s.quiet_setSelfSwitch ..)
  | conditionalBranch => exact .quiet (s.quiet_conditionalBranch h)
  | exitEventProcessing =>
    cases h
    exact .quiet ⟨(Quiet.refl s).told, fun _ => CallStack.isSettled_runs.nil⟩
  | goToLabel => cases h; exact .quiet (s.quiet_goToLabel _)
  | startCommonEvent => exact .quiet (s.quiet_startCommonEvent h)
  | restoreHp | restoreMp => exact .quiet (s.quiet_restoreVital h)
  | levelUp => cases h; exact .quiet s.quiet_levelUp
  | giveExperience => cases h; exact .quiet (s.quiet_giveExperience ..)
  | setClass => cases h; exact .quiet (s.quiet_setClass _)
  | changeSpells => cases h; exact .quiet (s.quiet_changeSpells ..)
  | castSpellOn => cases h; exact .quiet (s.quiet_castSpellOn ..)
  | changeItems => cases h; exact .quiet (s.quiet_changeItems ..)
  | equipItem => cases h; exact .quiet (s.quiet_equipItem ..)
  | changeNameColor => cases h; exact .quiet (s.quiet_changeNameColor ..)
  | setAccess => cases h; exact .quiet (s.quiet_setAccess _)
  | setMoveRoute => cases h; exact .quiet (s.quiet_setMoveRoute _)
  | spawnNpc => cases h; exact .quiet (s.quiet_spawnNpc ..)
  | despawnNpcs => cases h; exact .quiet ((Quiet.refl s).of_eq rfl rfl)
  | playAnimation => cases h; exact .quiet (s.quiet_playAnimation ..)
  | completeQuestTask => cases h; exact .quiet (s.quiet_completeQuestTask ..)
  | endQuest => cases h; exact .quiet (s.quiet_endQuest ..)
  | changeName => cases h; exact .quiet (s.quiet_changeName ..)
  | createGuild => cases h; exact .quiet (s.quiet_createGuild ..)
  | disbandGuild => cases h; exact .quiet (s.quiet_disbandGuild _)
  | setGuildBankSlots => cases h; exact .quiet (s.quiet_setGuildBankSlots _)
  | changeSprite | changeFace | changeGender | changePlayerColor =>
    cases h
    exact .quiet (s.quiet_changeLooks _)
  | changePlayerLabel => cases h; exact .quiet (s.quiet_changeLabel ..)
  | changeLevel | hidePlayer | showPlayer | resetStatPointAllocations | warp =>
    cases h
    exact .quiet (((Quiet.refl s).withPlayer _).send _ rfl)
  | holdPlayer => cases h; exact .quiet s.quiet_holdPlayer
  | releasePlayer => cases h; exact .quiet s.quiet_releasePlayer
  | playBgm | fadeoutBgm | playSound | stopSounds | hidePicture =>
    cases h
    exact .quiet ((Quiet.refl s).tell rfl)
  | label | unsupported => cases h; exact .quiet (.refl s)

/-- What comes of a response asks for nothing, and no frame begins to wait. -/
theorem quiet_resume {asked : Suspension} {response : Response} {s' : Scene}
    (h : s.resume asked response = .ok s') : s.Quiet s' := by
  unfold resume at h
  split at h
  · cases h
    exact (Quiet.refl s).enterBranch ..
  · next target branches text =>
    cases h
    unfold takeInput
    split
    · next value _ => exact (s.quiet_assign target (.enter value)).enterBranch ..
    · exact (Quiet.refl s).enterBranch ..
  · cases h
    exact (Quiet.refl s).enterBranch ..
  · split at h
    · obtain ⟨r, hr, h⟩ := Guarded.bind_eq_ok.mp h
      cases h
      exact (s.quiet_beginQuest hr).branchOn ..
    · cases h
      exact (Quiet.refl s).branchOn ..
  · cases h
    exact .refl s

end Scene

end EventScript
