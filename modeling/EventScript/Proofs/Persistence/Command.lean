import EventScript.Proofs.Persistence.Stay
import EventScript.Proofs.Turn.Step

/-!
# What commands do to the ledger

Every command and every response makes one move of the ledger: it leaves it as it is, sets a shared
variable, records progress with a quest, founds or dissolves a guild, or gives out an identifier. So
does every step of an execution.
-/

namespace EventScript

namespace Setting

variable (s : Setting) (runner : PlayerId)

/-- Giving the members of the party the value of a player variable stays. -/
theorem ledger_syncMember (v : VariableId) (value : Value) (t : Trigger) (w : World)
    (member : PlayerId) : (syncMember v value t w member).ledger = w.ledger := by
  unfold syncMember
  split
  next other hother =>
    split
    · rfl
    · exact World.ledger_putPlayer hother rfl rfl
  · rfl

/-- Giving all of them the value stays. -/
theorem ledger_syncParty (v : VariableId) (value : Value) (t : Trigger) :
    (s.syncParty v value t).ledger = s.world.ledger := by
  unfold syncParty
  generalize s.player.party.filter (fun member => member != s.player.id) = members
  induction members generalizing s with
  | nil => rfl
  | cons member rest ih =>
    rw [List.foldl_cons]
    exact (ih ⟨syncMember v value t s.world member, s.player⟩).trans
      (ledger_syncMember v value t s.world member)

/-- Setting a variable of the player stays. -/
theorem ledger_propagate_player (i : VariableId) (value : Value) (syncs : Bool) :
    (s.propagate ⟨.player, i⟩ value syncs).ledger = s.world.ledger := by
  unfold propagate
  dsimp only
  split
  · exact ledger_syncParty _ i value _
  · rfl

/-- Setting a variable of a guild writes a record. -/
theorem ledger_store_guild {g : Guild} (hid : s.player.guild = some g.id)
    (hg : s.world.guild? g.id = some g) (i : VariableId) (value : Value) (syncs : Bool) :
    let g' := { g with vars := g.vars.insert i value }
    let stored : Setting := { s with world.guilds := s.world.guilds.insert g.id g' }
    ({ stored with world := stored.propagate ⟨.guild, i⟩ value syncs }).ledger runner =
      (s.ledger runner).write (.guildVariable g.id i value) := by
  intro g' stored
  have howner : stored.world.guildOf? stored.player = some g' := by
    unfold World.guildOf?
    rw [show stored.player.guild = some g.id from hid]
    exact Table.get?_insert_self ..
  unfold propagate
  dsimp only
  rw [howner]
  exact congrArg (fun put : Ledger => { s.ledger runner with
    guilds := put.guilds
    queue := s.world.persistence.enqueue (.guildVariable g.id i value) })
    (World.ledger_setGuildVariable hg i value)

/-- Setting a variable of an account writes a record. -/
theorem ledger_store_user {u : UserAccount} (hu : s.world.user? s.player.user = some u)
    (i : VariableId) (value : Value) (syncs : Bool) :
    let u' := { u with vars := u.vars.insert i value }
    let stored : Setting := { s with world.users := s.world.users.insert s.player.user u' }
    ({ stored with world := stored.propagate ⟨.user, i⟩ value syncs }).ledger runner =
      (s.ledger runner).write (.userVariable s.player.user i value) :=
  congrArg (fun put : Ledger => { s.ledger runner with
    users := put.users
    queue := s.world.persistence.enqueue (.userVariable s.player.user i value) })
    (World.ledger_setUserVariable hu i value)

/-- Committing a value sets one variable, if it changes anything at all. -/
theorem move_commit (v : VariableRef) (old new : Value) (syncs : Bool)
    (hkeyed : (s.ledger runner).IsKeyed) :
    (s.ledger runner).Move ((s.commit v old new syncs).2.ledger runner) := by
  obtain ⟨scope, i⟩ := v
  unfold commit
  split
  · exact .stay
  · cases scope with
    | player =>
      have hstay : ({ s with
          player.vars := s.player.vars.insert i new
          world := ({ s with player.vars := s.player.vars.insert i new } : Setting).propagate
            ⟨.player, i⟩ new syncs } : Setting).ledger runner = s.ledger runner :=
        ledger_withWorld _ runner (ledger_propagate_player _ i new syncs)
      exact hstay ▸ .stay
    | server => exact .write (.serverVariable i new) rfl
    | guild =>
      cases hid : s.player.guild with
      | none =>
        simp only [store?, hid]
        exact .stay
      | some id =>
        cases hg : s.world.guild? id with
        | none =>
          simp only [store?, hid, Option.bind_eq_bind, Option.bind_some, hg]
          exact .stay
        | some g =>
          have hguild : (s.ledger runner).guilds id = some (g.id, g.vars) :=
            congrArg (Option.map fun g : Guild => (g.id, g.vars)) hg
          have howned : (s.ledger runner).owns (.guildVariable id i) = true :=
            Option.isSome_iff_exists.mpr ⟨_, hguild⟩
          obtain rfl : g.id = id := hkeyed.guilds hguild
          have hwrite := s.ledger_store_guild runner hid hg i new syncs
          simp only [store?, hid, Option.bind_eq_bind, Option.bind_some, hg]
          exact hwrite ▸ .write (.guildVariable g.id i new) howned
    | user =>
      cases hu : s.world.user? s.player.user with
      | none =>
        simp only [store?, hu]
        exact .stay
      | some u =>
        have howned : (s.ledger runner).owns (.userVariable s.player.user i) = true :=
          Option.isSome_iff_exists.mpr ⟨u.vars, congrArg (Option.map UserAccount.vars) hu⟩
        have hwrite := s.ledger_store_user runner hu i new syncs
        simp only [store?, hu, Option.bind_eq_bind, Option.bind_some]
        exact hwrite ▸ .write (.userVariable s.player.user i new) howned

/-- Setting a variable to a value makes one move. -/
theorem move_setValue (v : VariableRef) (value : Value) (hkeyed : (s.ledger runner).IsKeyed) :
    (s.ledger runner).Move ((s.setValue v value).2.ledger runner) := by
  unfold setValue
  split
  · split
    · exact s.move_commit runner v _ value false hkeyed
    · exact .stay
  · exact .stay

/-- Drawing random numbers stays. -/
theorem ledger_drawn (m : VariableMod) : (s.drawn m).ledger runner = s.ledger runner := by
  unfold drawn
  split <;> rfl

/-- Modifying a variable makes one move. -/
theorem move_modify (running : Option Instance) (v : VariableRef) (m : VariableMod) (syncs : Bool)
    (hkeyed : (s.ledger runner).IsKeyed) :
    (s.ledger runner).Move ((s.modify running v m syncs).2.ledger runner) := by
  have hdrawn := s.ledger_drawn runner m
  unfold modify
  split
  · split
    · split
      · rw [← hdrawn]
        exact (s.drawn m).move_commit runner v _ _ syncs (hdrawn ▸ hkeyed)
      · exact .stay
    · exact .stay
  · exact .stay

end Setting

namespace Scene

variable (s : Scene) (runner : PlayerId)

theorem move_setVariable (target : VariableRef) (m : VariableMod) (syncs : Bool)
    (hkeyed : (s.ledger runner).IsKeyed) :
    (s.ledger runner).Move ((s.setVariable target m syncs).ledger runner) :=
  s.toSetting.move_modify runner (some s.run) target m syncs hkeyed

theorem move_takeInput (target : VariableRef) (text : String) (bs : List BranchId)
    (hkeyed : (s.ledger runner).IsKeyed) :
    (s.ledger runner).Move ((s.takeInput target text bs).ledger runner) := by
  unfold takeInput
  split
  · rw [ledger_enterBranch]
    exact s.toSetting.move_setValue runner target _ hkeyed
  · rw [ledger_enterBranch]
    exact .stay

/-! ## Quests -/

/-- The running player is kept under the identifier that it carries. -/
theorem player_id_of_isKeyed (hkeyed : (s.ledger runner).IsKeyed) : s.player.id = runner :=
  hkeyed.players (if_pos rfl)

/-- Recording progress with a quest writes a record. -/
theorem ledger_saveProgress (quest : QuestId) (progress : QuestProgress)
    (hkeyed : (s.ledger runner).IsKeyed) :
    (s.saveProgress quest progress).ledger runner =
      (s.ledger runner).write (.quest runner quest progress) := by
  obtain rfl := s.player_id_of_isKeyed runner hkeyed
  have hplayers : ((s.saveProgress quest progress).ledger s.player.id).players =
      ((s.ledger s.player.id).put (.quest s.player.id quest progress)).players := by
    funext id
    unfold Ledger.put Setting.ledger
    by_cases hid : id = s.player.id
    · simp only [hid, ite_true, Option.map_some]
      rfl
    · simp only [hid, ite_false]
      rfl
  exact congrArg (fun players => { s.ledger s.player.id with
    players := players
    queue := s.world.persistence.enqueue (.quest s.player.id quest progress) }) hplayers

theorem move_saveProgress (quest : QuestId) (progress : QuestProgress)
    (hkeyed : (s.ledger runner).IsKeyed) :
    (s.ledger runner).Move ((s.saveProgress quest progress).ledger runner) := by
  have howned : (s.ledger runner).owns (.quest runner quest) = true := by
    unfold Ledger.owns Setting.ledger
    dsimp only
    rw [if_pos rfl, Option.isSome_some]
  rw [s.ledger_saveProgress runner quest progress hkeyed]
  exact .write (.quest runner quest progress) howned

theorem move_beginQuest {quest : QuestId} {r : Bool × Scene} (h : s.beginQuest quest = .ok r)
    (hkeyed : (s.ledger runner).IsKeyed) : (s.ledger runner).Move (r.2.ledger runner) := by
  obtain ⟨can, -, h⟩ := Guarded.bind_eq_ok.mp h
  split at h
  · split at h
    · split at h
      · cases h
        rw [ledger_startEvent?]
        exact s.move_saveProgress runner quest _ hkeyed
      · cases h
        exact .stay
    · cases h
      exact .stay
  · cases h
    exact .stay

theorem move_startQuest {quest : QuestId} {offer : Bool} {bs : List BranchId} {s' : Scene}
    (h : s.startQuest quest offer bs = .ok s') (hkeyed : (s.ledger runner).IsKeyed) :
    (s.ledger runner).Move (s'.ledger runner) := by
  obtain ⟨offered, -, h⟩ := Guarded.bind_eq_ok.mp h
  split at h
  · cases h
    exact .stay
  · obtain ⟨⟨started, s₁⟩, hbegin, h⟩ := Guarded.bind_eq_ok.mp h
    cases h
    rw [ledger_branchOn]
    exact s.move_beginQuest runner hbegin hkeyed

theorem move_finishQuest (quest : QuestId) (skip : Bool) (hkeyed : (s.ledger runner).IsKeyed) :
    (s.ledger runner).Move ((s.finishQuest quest skip).ledger runner) := by
  unfold finishQuest
  dsimp only
  split
  · exact s.move_saveProgress runner quest _ hkeyed
  · rw [ledger_startEvent?]
    exact s.move_saveProgress runner quest _ hkeyed

theorem move_completeQuestTask (quest : QuestId) (task : TaskId)
    (hkeyed : (s.ledger runner).IsKeyed) :
    (s.ledger runner).Move ((s.completeQuestTask quest task).ledger runner) := by
  unfold completeQuestTask
  split
  · exact .stay
  · split
    · split
      next t later _ =>
        have hstarted := s.ledger_startEvent? runner t.completionEvent
        dsimp only
        split
        · exact hstarted ▸ (s.startEvent? t.completionEvent).move_saveProgress runner quest _
            (hstarted ▸ hkeyed)
        · exact hstarted ▸ (s.startEvent? t.completionEvent).move_finishQuest runner quest false
            (hstarted ▸ hkeyed)
      · exact .stay
    · exact .stay

theorem move_endQuest (quest : QuestId) (skip : Bool) (hkeyed : (s.ledger runner).IsKeyed) :
    (s.ledger runner).Move ((s.endQuest quest skip).ledger runner) := by
  unfold endQuest
  split
  · exact s.move_finishQuest runner quest skip hkeyed
  · exact .stay

/-! ## Guilds and spawned characters -/

theorem ledger_foundGuild (name : String) :
    (s.foundGuild name).ledger runner = (s.ledger runner).found := by
  have hguilds : ((s.foundGuild name).ledger runner).guilds =
      (s.ledger runner).found.guilds := by
    funext id
    unfold Ledger.found
    by_cases hid : id = (s.ledger runner).nextGuild
    · subst hid
      simp only [ite_true]
      exact congrArg (Option.map _) (Table.get?_insert_self ..)
    · simp only [hid, ite_false]
      exact congrArg (Option.map _) (Table.get?_insert_of_ne _ _ (Ne.symm hid))
  exact congrArg (fun guilds => { (s.ledger runner).draw with guilds := guilds }) hguilds

theorem move_createGuild (source : VariableId) (bs : List BranchId) :
    (s.ledger runner).Move ((s.createGuild source bs).ledger runner) := by
  unfold createGuild
  dsimp only
  split
  · rw [ledger_branchOn]
    exact .stay
  · rw [ledger_branchOn, ledger_foundGuild]
    exact .found

/-- Leaving a guild stays. -/
theorem ledger_leaveGuild (w : World) (member : PlayerId) :
    (leaveGuild w member).ledger = w.ledger := by
  unfold leaveGuild
  split
  next p hp => exact World.ledger_putPlayer hp rfl rfl
  · rfl

theorem ledger_dissolveGuild (id : GuildId) (members : List PlayerId) :
    (s.dissolveGuild id members).ledger runner = (s.ledger runner).dissolve id := by
  have hleft (others : List PlayerId) (w : World) :
      (others.foldl leaveGuild w).ledger = w.ledger :=
    foldl_leaveGuild ledger_leaveGuild others w
  have hremoved : (Setting.mk (s.world.removeGuild id) s.player).ledger runner =
      (s.ledger runner).dissolve id := by
    have hguilds : (s.world.removeGuild id).ledger.guilds =
        ((s.ledger runner).dissolve id).guilds := by
      funext j
      unfold World.ledger World.guild? World.removeGuild Ledger.dissolve
      simp only [Table.get?_erase, Table.rank_inj]
      by_cases hj : j = id
      · rw [if_pos hj, if_pos hj.symm, Option.map_none]
      · rw [if_neg hj, if_neg (Ne.symm hj)]
        rfl
    exact congrArg (fun guilds => { s.ledger runner with guilds := guilds }) hguilds
  rw [← hremoved]
  exact (Setting.mk (s.world.removeGuild id) s.player).ledger_withWorld runner (hleft _ _)

theorem move_disbandGuild (bs : List BranchId) :
    (s.ledger runner).Move ((s.disbandGuild bs).ledger runner) := by
  have hrefuse : (s.refuseDisbanding bs).ledger runner = s.ledger runner := by
    unfold refuseDisbanding
    rw [ledger_branchOn, ledger_chat]
  unfold disbandGuild
  split
  · rw [ledger_branchOn]
    exact .stay
  · split
    · split
      · rw [ledger_branchOn, ledger_dissolveGuild]
        exact .dissolve _
      · rw [hrefuse]
        exact .stay
    · rw [hrefuse]
      exact .stay

theorem move_spawnNpc (npc : NpcId) (place : SpawnTarget) :
    (s.ledger runner).Move ((s.spawnNpc npc place).ledger runner) := by
  unfold spawnNpc
  split
  · split
    · exact .draw
    · exact .stay
  · exact .stay

/-! ## All commands and all responses -/

section

variable {s} {c : Command} {s' : Scene}

/-- What leaves the ledger as it is makes a move. -/
theorem move_of_eq (h : s'.ledger runner = s.ledger runner) :
    (s.ledger runner).Move (s'.ledger runner) := h ▸ .stay

/-- Of the flow of a script only variables make another move than to stay. -/
theorem move_execute_of_flow (hc : c.topic = .flow) (h : s.execute c = .ok s')
    (hkeyed : (s.ledger runner).IsKeyed) : (s.ledger runner).Move (s'.ledger runner) := by
  cases c with
  | setVariable =>
    cases h
    exact s.move_setVariable runner _ _ _ hkeyed
  | exitEventProcessing | label | wait | unsupported =>
    cases h
    exact .stay
  | setSelfSwitch =>
    cases h
    exact move_of_eq runner (s.ledger_setSelfSwitch runner ..)
  | goToLabel =>
    cases h
    exact move_of_eq runner (s.ledger_goToLabel runner _)
  | conditionalBranch => exact move_of_eq runner (s.ledger_conditionalBranch runner h)
  | startCommonEvent => exact move_of_eq runner (s.ledger_startCommonEvent runner h)
  | _ => cases hc

/-- Of what moves on the map only spawned characters make another move than to stay. -/
theorem move_execute_of_movement (hc : c.topic = .movement) (h : s.execute c = .ok s') :
    (s.ledger runner).Move (s'.ledger runner) := by
  cases c with
  | spawnNpc =>
    cases h
    exact s.move_spawnNpc runner ..
  | despawnNpcs | holdPlayer | releasePlayer =>
    cases h
    exact .stay
  | warp =>
    cases h
    exact move_of_eq runner (s.ledger_warp runner ..)
  | setMoveRoute =>
    cases h
    exact move_of_eq runner (s.ledger_setMoveRoute runner _)
  | waitForRoute =>
    cases h
    exact move_of_eq runner (s.ledger_waitForRoute runner _)
  | playAnimation =>
    cases h
    exact move_of_eq runner (s.ledger_playAnimation runner ..)
  | _ => cases hc

/-- What is done with quests makes one move. -/
theorem move_execute_of_quests (hc : c.topic = .quests) (h : s.execute c = .ok s')
    (hkeyed : (s.ledger runner).IsKeyed) : (s.ledger runner).Move (s'.ledger runner) := by
  cases c with
  | startQuest => exact s.move_startQuest runner h hkeyed
  | completeQuestTask =>
    cases h
    exact s.move_completeQuestTask runner _ _ hkeyed
  | endQuest =>
    cases h
    exact s.move_endQuest runner _ _ hkeyed
  | _ => cases hc

/-- Names stay, and what is done with guilds makes one move. -/
theorem move_execute_of_guilds (hc : c.topic = .guilds) (h : s.execute c = .ok s') :
    (s.ledger runner).Move (s'.ledger runner) := by
  cases c with
  | createGuild =>
    cases h
    exact s.move_createGuild runner ..
  | disbandGuild =>
    cases h
    exact s.move_disbandGuild runner _
  | changeName =>
    cases h
    exact move_of_eq runner (s.ledger_changeName runner ..)
  | setGuildBankSlots =>
    cases h
    exact move_of_eq runner (s.ledger_setGuildBankSlots runner _)
  | _ => cases hc

/-- Every command makes one move of the ledger. -/
theorem move_execute (h : s.execute c = .ok s') (hkeyed : (s.ledger runner).IsKeyed) :
    (s.ledger runner).Move (s'.ledger runner) := by
  cases hc : c.topic with
  | dialogue => exact move_of_eq runner (ledger_execute_of_dialogue runner hc h)
  | flow => exact move_execute_of_flow runner hc h hkeyed
  | progression => exact move_of_eq runner (ledger_execute_of_progression runner hc h)
  | appearance => exact move_of_eq runner (ledger_execute_of_appearance runner hc h)
  | movement => exact move_execute_of_movement runner hc h
  | media => exact move_of_eq runner (ledger_execute_of_media runner hc h)
  | sessions => exact move_of_eq runner (ledger_execute_of_sessions runner hc h)
  | quests => exact move_execute_of_quests runner hc h hkeyed
  | guilds => exact move_execute_of_guilds runner hc h

end

/-- Every response makes one move of the ledger. -/
theorem move_resume {asked : Suspension} {response : Response} {s' : Scene}
    (h : s.resume asked response = .ok s') (hkeyed : (s.ledger runner).IsKeyed) :
    (s.ledger runner).Move (s'.ledger runner) := by
  have henter (bs : List BranchId) (position : Nat) :
      (s.ledger runner).Move ((s.enterBranch bs position).ledger runner) :=
    move_of_eq runner (s.ledger_enterBranch runner bs position)
  unfold resume at h
  split at h
  · cases h
    exact henter ..
  · cases h
    exact s.move_takeInput runner _ _ _ hkeyed
  · cases h
    exact henter ..
  · split at h
    · obtain ⟨⟨started, s₁⟩, hbegin, h⟩ := Guarded.bind_eq_ok.mp h
      cases h
      rw [ledger_branchOn]
      exact s.move_beginQuest runner hbegin hkeyed
    · cases h
      rw [ledger_branchOn]
      exact .stay
  · cases h
    exact .stay

end Scene

namespace Turn

/-! ## Steps and responses of executions -/

/-- Concluding leaves the world alone. -/
@[simp] theorem conclude_world (t : Turn) : t.conclude.2.world = t.world := by
  unfold conclude
  split
  · rfl
  · dsimp only
    split <;> rfl

/-- A step makes one move of the ledger. -/
theorem move_step {t : Turn} {r : Outcome StepOutcome} (h : t.step = .ok r)
    (hkeyed : t.world.ledger.IsKeyed) : t.world.ledger.Move r.2.world.ledger := by
  have hsettled : t.settle.world.ledger = t.world.ledger := by rw [settle_world]
  rw [← hsettled] at hkeyed ⊢
  cases step_cases h with
  | defect | completed | waiting => exact .stay
  | execute hstack hruns hcase =>
    cases hcase with
    | missingList | outOfRange | missingPlayer | unsupported => exact .stay
    | executed hlist hcommand hplayer hsupported hscene =>
      have hloaded := Setting.ledger_of_loaded hplayer
      rw [conclude_world, Setting.ledger_putPlayer, ← hloaded]
      exact Scene.move_execute _ hscene (hloaded ▸ hkeyed)

/-- A response makes one move of the ledger. -/
theorem move_answer {t : Turn} {response : Response} {r : Outcome Bool}
    (h : t.answer response = .ok r) (hkeyed : t.world.ledger.IsKeyed) :
    t.world.ledger.Move r.2.world.ledger := by
  cases answer_cases h with
  | ignored | missingPlayer => exact .stay
  | accepted hstack hwaiting hanswered hplayer hscene =>
    have hloaded := Setting.ledger_of_loaded hplayer
    rw [Setting.ledger_putPlayer, ← hloaded]
    exact Scene.move_resume _ _ hscene (hloaded ▸ hkeyed)

end Turn

end EventScript
