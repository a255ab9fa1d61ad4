import EventScript.Proofs.Persistence.Command
import EventScript.Proofs.Turn.Fault
import EventScript.Proofs.Turn.Player
import Mathlib.Data.List.Basic

/-!
# Progress with quests

A quest begins at its first task, goes from each task to the next one, and ends behind the last one
or before. The record of a player keeps the active task and how often the quest was completed; the
history of the quest tells the same from what was seen of it.
-/

namespace EventScript

/-! ## Moves -/

namespace QuestDescriptor

/-- The tasks in order. -/
def taskIds (d : QuestDescriptor) : List TaskId := d.tasks.map QuestTask.id

/-- The first task that is left when others are passed over is the one that is looked for. -/
theorem taskIds_of_dropWhile {d : QuestDescriptor}
    {task : TaskId} {t : QuestTask} {later : List QuestTask}
    (h : (d.tasks.dropWhile fun t => t.id != task) = t :: later) :
    t.id = task ∧ ∃ earlier, d.taskIds = earlier ++ task :: later.map QuestTask.id := by
  have hhead := List.head?_dropWhile_not (fun t : QuestTask => t.id != task) d.tasks
  rw [h] at hhead
  have ht : t.id = task := by simpa using hhead
  refine ⟨ht, (d.tasks.takeWhile fun t => t.id != task).map QuestTask.id, ?_⟩
  unfold taskIds
  rw [← ht, ← List.map_cons, ← List.map_append, ht, ← h, List.takeWhile_append_dropWhile]

/-- What may become of the progress with a quest. -/
inductive Move (d : QuestDescriptor) (progress : QuestProgress) : QuestProgress → Prop
  /-- The quest is not in progress and begins at its first task, again only if it is repeatable. -/
  | start {first : TaskId} {later : List TaskId} (tasks : d.taskIds = first :: later)
      (idle : progress.task = none) (allowed : progress.completed = true → d.repeatable = true) :
      Move d progress { progress with task := some first }
  /-- The active task gives way to the one behind it. -/
  | advance {earlier later : List TaskId} {task next : TaskId}
      (tasks : d.taskIds = earlier ++ task :: next :: later)
      (active : progress.task = some task) : Move d progress { progress with task := some next }
  /-- The quest is in progress and ends. -/
  | finish {task : TaskId} (active : progress.task = some task) :
      Move d progress ⟨none, true, progress.completionCount + 1⟩

end QuestDescriptor

/-! ## Histories -/

/-- What was seen of a quest of a player. -/
structure QuestHistory where
  /-- How often the quest was finished. -/
  finished : Nat
  /-- The tasks of the current run that were active, oldest first. -/
  visited : List TaskId
  deriving DecidableEq

namespace QuestHistory

/-- Nothing was seen yet. -/
def empty : QuestHistory := ⟨0, []⟩

/-- See the active task before and after something happened. -/
def see (h : QuestHistory) : Option TaskId → Option TaskId → QuestHistory
  | none, none => h
  | none, some task => { h with visited := [task] }
  | some task, some task' => if task = task' then h else { h with visited := h.visited ++ [task'] }
  | some _, none => ⟨h.finished + 1, []⟩

/-- Nothing new is seen when the active task stays. -/
theorem see_self (h : QuestHistory) (task : Option TaskId) : h.see task task = h := by
  cases task with
  | none => rfl
  | some task => exact if_pos rfl

/-- The progress with a quest is what its history tells. -/
structure Tells (d : QuestDescriptor) (progress : QuestProgress) (h : QuestHistory) : Prop where
  /-- The active task is the last one of the current run. -/
  active : progress.task = h.visited.getLast?
  /-- The current run goes through the tasks in order, from the first one on. -/
  inOrder : h.visited <+: d.taskIds
  /-- Every run that was finished is counted. -/
  counted : progress.completionCount = .ofNat h.finished
  /-- The quest is completed when a run was finished. -/
  completed : progress.completed = true ↔ 0 < h.finished
  /-- A quest that is not repeatable is finished at most once, and is not begun after that. -/
  once : d.repeatable = false → h.finished = 0 ∨ h.finished = 1 ∧ h.visited = []

namespace Tells

variable {d : QuestDescriptor} {progress progress' : QuestProgress} {h : QuestHistory}

/-- Nothing is told of a quest that was never started. -/
theorem none (d : QuestDescriptor) : Tells d .none .empty :=
  ⟨rfl, List.nil_prefix, rfl, ⟨nofun, nofun⟩, fun _ => .inl rfl⟩

/-- The tasks of a run that were active up to the active one are all those before it. -/
theorem visited_of_active (htells : Tells d progress h) (hnodup : d.taskIds.Nodup)
    {earlier later : List TaskId} {task : TaskId} (htasks : d.taskIds = earlier ++ task :: later)
    (hactive : progress.task = some task) : h.visited = earlier ++ [task] := by
  obtain ⟨before, hvisited⟩ := List.getLast?_eq_some_iff.mp (htells.active ▸ hactive)
  obtain ⟨after, htasks'⟩ := htells.inOrder
  rw [hvisited, List.append_assoc, List.singleton_append] at htasks'
  -- The task occurs once, so both ways to split the list at it are the same.
  have hbefore : task ∉ earlier := by
    rw [htasks] at hnodup
    exact fun hmem => (List.nodup_append.mp hnodup).2.2 task hmem task List.mem_cons_self rfl
  have hafter : task ∉ later := by
    rw [htasks] at hnodup
    exact (List.nodup_cons.mp (List.nodup_append.mp hnodup).2.1).1
  have hsplit := (List.append_cons_inj_of_notMem hbefore hafter).mp (htasks.symm.trans htasks'.symm)
  rw [hvisited, hsplit.1]

/-- Whatever becomes of the progress, its history goes on to tell it. -/
theorem move (htells : Tells d progress h) (hmove : d.Move progress progress')
    (hnodup : d.taskIds.Nodup) : Tells d progress' (h.see progress.task progress'.task) := by
  cases hmove with
  | @start first later htasks hidle hallowed =>
    rw [hidle]
    refine ⟨rfl, ⟨later, htasks.symm⟩, htells.counted, htells.completed, fun honce => .inl ?_⟩
    have hnever : progress.completed ≠ true := fun hcompleted =>
      Bool.false_ne_true (honce.symm.trans (hallowed hcompleted))
    exact Nat.eq_zero_of_not_pos fun hpos => hnever (htells.completed.mpr hpos)
  | @advance earlier later task next htasks hactive =>
    have hne : task ≠ next := by
      rintro rfl
      rw [htasks] at hnodup
      have hrest := (List.nodup_append.mp hnodup).2.1
      exact (List.nodup_cons.mp hrest).1 List.mem_cons_self
    have hvisited := htells.visited_of_active hnodup htasks hactive
    have hsee : h.see progress.task (some next) = ⟨h.finished, earlier ++ [task, next]⟩ := by
      rw [hactive]
      refine (if_neg hne).trans (congrArg (QuestHistory.mk h.finished) ?_)
      rw [hvisited, List.append_assoc]
      rfl
    rw [hsee]
    refine ⟨?_, ⟨later, ?_⟩, htells.counted, htells.completed, fun honce => .inl ?_⟩
    · simp
    · rw [htasks, List.append_assoc]
      rfl
    · refine (htells.once honce).resolve_right fun hdone => ?_
      rw [hdone.2] at hvisited
      simp at hvisited
  | @finish task hactive =>
    rw [hactive]
    refine ⟨rfl, List.nil_prefix, ?_, ⟨fun _ => Nat.succ_pos _, fun _ => rfl⟩,
      fun honce => .inr ⟨?_, rfl⟩⟩
    · show progress.completionCount + 1 = .ofNat (h.finished + 1)
      rw [htells.counted, UInt32.ofNat_add]
      rfl
    · have hzero : h.finished = 0 := (htells.once honce).resolve_right fun hdone => by
        have hlast := htells.active
        rw [hactive, hdone.2] at hlast
        cases hlast
      exact congrArg Nat.succ hzero

/-- The active task is a task of the quest. -/
theorem mem_taskIds (htells : Tells d progress h) {task : TaskId}
    (hactive : progress.task = some task) : task ∈ d.taskIds :=
  htells.inOrder.subset (List.mem_of_getLast? (htells.active ▸ hactive))

end Tells

end QuestHistory

/-! ## What scripts do to progress -/

namespace Player

variable {p : Player} {quest q : QuestId}

/-- A quest is in progress when a task of it is active. -/
theorem questInProgress_eq : p.questInProgress q = (p.progress q).task.isSome := by
  unfold questInProgress progress
  cases p.quest? q <;> rfl

/-- Whether a quest was completed is told by the progress with it. -/
theorem questCompleted_eq : p.questCompleted q = (p.progress q).completed := by
  unfold questCompleted progress
  cases p.quest? q <;> rfl

/-- The progress with a quest after the progress with one was set. -/
theorem quest?_setProgress (progress : QuestProgress) :
    (p.setProgress quest progress).quest? q = if q = quest then some progress else p.quest? q :=
  Table.get?_insert_eq_ite ..

/-- On the way from one player to the other the progress with a quest makes at most one move. -/
def StepsQuest (d : QuestDescriptor) (q : QuestId) (p p' : Player) : Prop :=
  p'.quest? q = p.quest? q ∨
    ∃ progress, d.Move (p.progress q) progress ∧ p'.quest? q = some progress

/-- The progress with another quest is set, or it makes a move. -/
theorem stepsQuest_setProgress {d : QuestDescriptor} {progress : QuestProgress}
    (h : q = quest → d.Move (p.progress q) progress) :
    StepsQuest d q p (p.setProgress quest progress) := by
  unfold StepsQuest
  rw [quest?_setProgress]
  split
  · next hq => exact .inr ⟨progress, h hq, rfl⟩
  · exact .inl rfl

end Player

/-- A quest that can be started has tasks, is not in progress, and was not completed unless it is
repeatable. -/
theorem Perspective.of_canStart {v : Perspective} {quest : QuestId}
    (h : v.canStart quest = .ok true) : ∃ d, v.world.catalog.quests.get? quest = some d ∧
      (v.player.progress quest).task = none ∧
      ((v.player.progress quest).completed = true → d.repeatable = true) := by
  unfold canStart canStartWithin at h
  split at h
  · cases h
  · next d hd =>
    split at h
    · cases h
    · next hidle =>
      split at h
      · cases h
      · next hallowed =>
        rw [Player.questInProgress_eq] at hidle
        rw [Player.questCompleted_eq] at hallowed
        simp only [Bool.or_eq_true, Option.isSome_iff_ne_none, not_or, not_not] at hidle
        refine ⟨d, hd, hidle.2, fun hcompleted => ?_⟩
        rw [hcompleted] at hallowed
        simpa using hallowed

namespace Scene

open Player (StepsQuest)

variable (s : Scene) {d : QuestDescriptor} {q : QuestId}

/-- Asking for a common event keeps the player. -/
theorem player_startEvent? (event : Option EventId) : (s.startEvent? event).player = s.player := by
  cases event <;> rfl

/-- A quest is started at its first task, or not at all. -/
theorem stepsQuest_beginQuest (hd : s.world.catalog.quests.get? q = some d) {quest : QuestId}
    {r : Bool × Scene} (h : s.beginQuest quest = .ok r) : StepsQuest d q s.player r.2.player := by
  obtain ⟨can, hcan, h⟩ := Guarded.bind_eq_ok.mp h
  split at h
  · next hstart =>
    rw [hstart] at hcan
    obtain ⟨d', hd', hidle, hallowed⟩ := Perspective.of_canStart hcan
    rw [show s.world.catalog.quests.get? quest = some d' from hd'] at h
    dsimp only at h
    split at h
    · next first later htasks =>
      cases h
      rw [player_startEvent?]
      refine Player.stepsQuest_setProgress fun hq => ?_
      subst hq
      obtain rfl : d = d' := Option.some.inj (hd.symm.trans hd')
      exact .start (congrArg (List.map QuestTask.id) htasks) hidle hallowed
    · cases h
      exact .inl rfl
  · cases h
    exact .inl rfl

theorem stepsQuest_startQuest (hd : s.world.catalog.quests.get? q = some d) {quest : QuestId}
    {offer : Bool} {bs : List BranchId} {s' : Scene} (h : s.startQuest quest offer bs = .ok s') :
    StepsQuest d q s.player s'.player := by
  obtain ⟨offered, -, h⟩ := Guarded.bind_eq_ok.mp h
  split at h
  · cases h
    exact .inl rfl
  · obtain ⟨⟨started, s₁⟩, hbegin, h⟩ := Guarded.bind_eq_ok.mp h
    cases h
    rw [congrArg Setting.player (s₁.toSetting_branchOn started bs)]
    exact s.stepsQuest_beginQuest hd hbegin

/-- A quest that is in progress is finished. -/
theorem stepsQuest_finishQuest {quest : QuestId} (skip : Bool)
    (hactive : s.player.questInProgress quest = true) :
    StepsQuest d q s.player (s.finishQuest quest skip).player := by
  have hplayer : (s.finishQuest quest skip).player = s.player.setProgress quest
      ⟨none, true, (s.player.progress quest).completionCount + 1⟩ := by
    unfold finishQuest
    dsimp only
    split
    · rfl
    · exact player_startEvent? ..
  rw [hplayer]
  refine Player.stepsQuest_setProgress fun hq => ?_
  subst hq
  rw [Player.questInProgress_eq] at hactive
  obtain ⟨task, htask⟩ := Option.isSome_iff_exists.mp hactive
  exact .finish htask

/-- The active task gives way to the next one, or the quest is finished. -/
theorem stepsQuest_completeQuestTask (hd : s.world.catalog.quests.get? q = some d)
    (quest : QuestId) (task : TaskId) :
    StepsQuest d q s.player (s.completeQuestTask quest task).player := by
  unfold completeQuestTask
  split
  · exact .inl rfl
  · next hactive =>
    have hactive := not_not.mp hactive
    split
    · next d' hd' =>
      split
      · next t later hrest =>
        have hplayer := s.player_startEvent? t.completionEvent
        dsimp only
        split
        · next next rest =>
          change StepsQuest d q s.player (Player.setProgress
            (s.startEvent? t.completionEvent).player quest
            { (s.startEvent? t.completionEvent).player.progress quest with task := some next.id })
          rw [hplayer]
          refine Player.stepsQuest_setProgress fun hq => ?_
          subst hq
          obtain rfl : d = d' := Option.some.inj (hd.symm.trans hd')
          obtain ⟨-, earlier, htasks⟩ := QuestDescriptor.taskIds_of_dropWhile hrest
          exact .advance htasks hactive
        · rw [← hplayer]
          refine stepsQuest_finishQuest _ false ?_
          rw [hplayer, Player.questInProgress_eq, hactive, Option.isSome_some]
      · exact .inl rfl
    · exact .inl rfl

theorem stepsQuest_endQuest (quest : QuestId) (skip : Bool) :
    StepsQuest d q s.player (s.endQuest quest skip).player := by
  unfold endQuest
  split
  · next hactive => exact s.stepsQuest_finishQuest skip hactive
  · exact .inl rfl

/-- Every command moves the progress with a quest at most once. -/
theorem stepsQuest_execute (hd : s.world.catalog.quests.get? q = some d) {c : Command}
    {s' : Scene} (h : s.execute c = .ok s') : StepsQuest d q s.player s'.player := by
  have hother (hpart : c.parts.contains .quests = false) : StepsQuest d q s.player s'.player := by
    have hplayer := congrArg Setting.player (s.rest_execute h)
    exact .inl (congrArg (fun t : Table QuestId QuestProgress => t.get? q)
      (Part.eq_of_keep_eq hpart (congrArg Player.quests hplayer)))
  cases c with
  | startQuest quest offer bs => exact s.stepsQuest_startQuest hd h
  | completeQuestTask quest task =>
    cases h
    exact s.stepsQuest_completeQuestTask hd quest task
  | endQuest quest skip =>
    cases h
    exact s.stepsQuest_endQuest quest skip
  | _ => exact hother rfl

/-- So does every response. -/
theorem stepsQuest_resume (hd : s.world.catalog.quests.get? q = some d) {asked : Suspension}
    {response : Response} {s' : Scene} (h : s.resume asked response = .ok s') :
    StepsQuest d q s.player s'.player := by
  have hother (hpart : asked.parts.contains .quests = false) : StepsQuest d q s.player s'.player := by
    have hplayer := congrArg Setting.player (s.rest_resume h)
    exact .inl (congrArg (fun t : Table QuestId QuestProgress => t.get? q)
      (Part.eq_of_keep_eq hpart (congrArg Player.quests hplayer)))
  cases asked with
  | questOffer quest branches =>
    cases response with
    | questOffer accepted =>
      cases accepted with
      | true =>
        have h : (s.beginQuest quest >>= fun r => pure (r.2.branchOn r.1 branches)) = .ok s' := h
        obtain ⟨⟨started, s₁⟩, hbegin, h⟩ := Guarded.bind_eq_ok.mp h
        cases h
        rw [congrArg Setting.player (s₁.toSetting_branchOn started branches)]
        exact s.stepsQuest_beginQuest hd hbegin
      | false =>
        cases h
        rw [congrArg Setting.player (s.toSetting_branchOn false branches)]
        exact .inl rfl
    | _ =>
      cases h
      exact .inl rfl
  | dialogue content => cases content <;> exact hother rfl
  | _ => exact hother rfl

end Scene

/-! ## Queued progress -/

namespace Ledger

variable {l l' : Ledger}

/-- A value in memory that a key names waits to be stored as it is. -/
def IsQueued (l : Ledger) (k : PersistenceKey) : Prop :=
  ∀ r, l.recordOf? k = some r → l.queue.get? k = some r

/-- Every move keeps progress queued. -/
theorem IsQueued.move {player : PlayerId} {quest : QuestId}
    (hqueued : l.IsQueued (.quest player quest)) (hmove : l.Move l') :
    l'.IsQueued (.quest player quest) := by
  cases hmove with
  | stay | draw | found | dissolve => exact hqueued
  | write r howned =>
    intro r' hr'
    have hqueue : (l.write r).queue.get? (.quest player quest) =
        if r.key = .quest player quest then some r else l.queue.get? (.quest player quest) :=
      l.queue.get?_enqueue r _
    have hrecord : (l.write r).recordOf? (.quest player quest) =
        (l.put r).recordOf? (.quest player quest) := rfl
    rw [hqueue]
    split
    · next hkey =>
      rw [hrecord, ← hkey, recordOf?_put_self howned] at hr'
      exact hr'
    · next hkey =>
      rw [hrecord, recordOf?_put_of_ne hkey] at hr'
      exact hqueued r' hr'

end Ledger

/-! ## Runs -/

namespace World

variable {w₀ w w' : World} {id : PlayerId} {q : QuestId} {p : Player} {d : QuestDescriptor}

/-- The active task of a quest of a player. -/
def activeTask (w : World) (id : PlayerId) (q : QuestId) : Option TaskId :=
  (w.player? id).bind fun p => (p.progress q).task

/-- The active task of a loaded player. -/
theorem activeTask_of_loaded (hp : w.player? id = some p) :
    w.activeTask id q = (p.progress q).task := by
  unfold activeTask
  rw [hp, Option.bind_some]

/-- What happens in a world one after the other, with the history of a quest of a player. -/
inductive QuestRun (id : PlayerId) (q : QuestId) (w₀ : World) : QuestHistory → World → Prop
  | start : QuestRun id q w₀ .empty w₀
  | act {h : QuestHistory} {w w' : World} (run : QuestRun id q w₀ h w) (act : w.Act w') :
      QuestRun id q w₀ (h.see (w.activeTask id q) (w'.activeTask id q)) w'

/-- Whatever happens is a move of the ledger. -/
theorem Act.ledger (h : w.Act w') (hkeyed : w.ledger.IsKeyed) : w.ledger.Move w'.ledger := by
  cases h with
  | step result => exact Turn.move_step result hkeyed
  | answer result => exact Turn.move_answer result hkeyed

/-- Whatever happens moves the progress of a loaded player with a quest at most once. -/
theorem Act.stepsQuest (h : w.Act w') (hp : w.player? id = some p)
    (hd : w.catalog.quests.get? q = some d) :
    ∃ p', w'.player? id = some p' ∧ Player.StepsQuest d q p p' := by
  cases h.player_cases hp with
  | aside guild vars hp' => exact ⟨_, hp', .inl rfl⟩
  | @executed i page c s hscene =>
    exact ⟨s.player, Table.get?_insert_self .., Scene.stepsQuest_execute _ hd hscene⟩
  | @resumed i page asked response s hscene =>
    exact ⟨s.player, Table.get?_insert_self .., Scene.stepsQuest_resume _ hd hscene⟩

/-- What a run makes of a quest that was never started: the history tells the progress, and progress
is queued to be stored. -/
structure FollowsQuest (id : PlayerId) (q : QuestId) (d : QuestDescriptor) (h : QuestHistory)
    (w : World) (p : Player) : Prop where
  loaded : w.player? id = some p
  described : w.catalog.quests.get? q = some d
  keyed : w.ledger.IsKeyed
  tells : h.Tells d (p.progress q)
  queued : w.ledger.IsQueued (.quest id q)

/-- A run starts with a quest that was never started. -/
theorem FollowsQuest.start (hkeyed : w.ledger.IsKeyed) (hp : w.player? id = some p)
    (hd : w.catalog.quests.get? q = some d) (hnew : p.quest? q = none) :
    FollowsQuest id q d .empty w p := by
  have hprogress : p.progress q = .none := by
    unfold Player.progress
    rw [hnew]
    rfl
  refine ⟨hp, hd, hkeyed, hprogress ▸ .none d, fun r hr => ?_⟩
  unfold Ledger.recordOf? World.ledger at hr
  dsimp only at hr
  rw [hp, Option.map_some, Option.bind_some, show p.quests.get? q = none from hnew] at hr
  cases hr

/-- Whatever happens, it goes on. -/
theorem FollowsQuest.act {h : QuestHistory} (hfollows : FollowsQuest id q d h w p)
    (hnodup : d.taskIds.Nodup) (hact : w.Act w') :
    ∃ p', FollowsQuest id q d (h.see (w.activeTask id q) (w'.activeTask id q)) w' p' := by
  obtain ⟨hp, hd, hkeyed, htells, hqueued⟩ := hfollows
  obtain ⟨p', hp', hsteps⟩ := hact.stepsQuest hp hd
  have hmove := hact.ledger hkeyed
  refine ⟨p', hp', hact.config_catalog.2 ▸ hd, hkeyed.move hmove, ?_, hqueued.move hmove⟩
  rw [activeTask_of_loaded hp, activeTask_of_loaded hp']
  rcases hsteps with hkept | ⟨progress, hprogress, hset⟩
  · have hsame : p'.progress q = p.progress q := congrArg (fun o => o.getD QuestProgress.none) hkept
    rw [hsame, h.see_self]
    exact htells
  · have hnext : p'.progress q = progress := congrArg (fun o => o.getD QuestProgress.none) hset
    rw [hnext]
    exact htells.move hprogress hnodup

/-- It goes on for a whole run. -/
theorem QuestRun.follows {h : QuestHistory} (hrun : QuestRun id q w₀ h w)
    (hstart : FollowsQuest id q d .empty w₀ p) (hnodup : d.taskIds.Nodup) :
    ∃ p', FollowsQuest id q d h w p' := by
  induction hrun with
  | start => exact ⟨p, hstart⟩
  | act run hact ih =>
    obtain ⟨p', hfollows⟩ := ih
    exact hfollows.act hnodup hact

/-- A step that completes a task that is not active changes nothing in the world. -/
theorem step_completeQuestTask {i : Instance} {deed : Deed} {task : TaskId}
    (hdeed : (Turn.mk w i).deed? = some deed) (hcommand : deed.command = .completeQuestTask q task)
    (hinactive : w.activeTask i.player q ≠ some task) :
    ∃ r, (Turn.mk w i).step = .ok r ∧ r.2.world = w := by
  obtain ⟨hworld, hplayer⟩ := Turn.setting_of_deed? hdeed
  have hstep := Turn.step_eq_map_of_deed? hdeed
  obtain ⟨s, c⟩ := deed
  subst hcommand
  rw [activeTask_of_loaded hplayer] at hinactive
  have hnothing : s.completeQuestTask q task = s := if_pos hinactive
  have hscene : s.execute (.completeQuestTask q task) = .ok s := congrArg Except.ok hnothing
  rw [hscene] at hstep
  refine ⟨_, hstep, ?_⟩
  rw [Turn.conclude_world]
  have hkept : w.players.insert i.player s.player = w.players := Table.insert_of_get? hplayer
  rw [show s.world = w from hworld]
  exact congrArg (fun players => { w with players := players }) hkept

/-- A player starts without progress with a quest whose tasks are different. However scripts go on
and players answer, the progress is what the history of the quest tells: the active task is none or
the last one of a run that goes through the tasks in order, every finished run is counted, and a
quest that is not repeatable is finished at most once. Progress is queued to be stored as it is, and
completing a task that is not active changes nothing. -/
theorem tells_of_questRun {h : QuestHistory} (hkeyed : w₀.ledger.IsKeyed)
    (hp : w₀.player? id = some p) (hnew : p.quest? q = none)
    (hd : w₀.catalog.quests.get? q = some d) (hnodup : d.taskIds.Nodup)
    (hrun : QuestRun id q w₀ h w) :
    ∃ p', w.player? id = some p' ∧ h.Tells d (p'.progress q) ∧
      (∀ task, (p'.progress q).task = some task → task ∈ d.taskIds) ∧
      (h.finished < 2 ^ 32 → (p'.progress q).completionCount.toNat = h.finished ∧
        ((p'.progress q).completed = true ↔ 0 < (p'.progress q).completionCount)) ∧
      (∀ progress, p'.quest? q = some progress →
        w.persistence.get? (.quest id q) = some (.quest id q progress)) ∧
      ∀ {i : Instance} {deed : Deed} {task : TaskId}, i.player = id →
        (Turn.mk w i).deed? = some deed → deed.command = .completeQuestTask q task →
        (p'.progress q).task ≠ some task → ∃ r, (Turn.mk w i).step = .ok r ∧ r.2.world = w := by
  obtain ⟨p', hfollows⟩ := hrun.follows (.start hkeyed hp hd hnew) hnodup
  obtain ⟨hp', -, -, htells, hqueued⟩ := hfollows
  refine ⟨p', hp', htells, fun task => htells.mem_taskIds, fun hfits => ?_, fun progress hset => ?_,
    fun hi hdeed hcommand hinactive => ?_⟩
  · have hcount : (p'.progress q).completionCount.toNat = h.finished := by
      rw [htells.counted]
      exact UInt32.toNat_ofNat_of_lt' hfits
    rw [htells.completed, UInt32.lt_iff_toNat_lt, hcount]
    exact ⟨rfl, Iff.rfl⟩
  · refine hqueued _ ?_
    unfold Ledger.recordOf? ledger
    dsimp only
    rw [hp', Option.map_some, Option.bind_some, show p'.quests.get? q = some progress from hset]
    rfl
  · subst hi
    rw [← activeTask_of_loaded hp'] at hinactive
    exact step_completeQuestTask hdeed hcommand hinactive

/-! ### A quest with two tasks -/

/-- A quest with two tasks that is done once. -/
def errand : QuestDescriptor :=
  ⟨⟨7⟩, "Errand", [⟨⟨8⟩, "go", none⟩, ⟨⟨9⟩, "return", none⟩], false, [], none, none⟩

/-- A world with that quest and one player, in front of a page that does the quest. -/
def beforeErrand : Turn where
  world := (World.start {} { DescriptorSet.empty with quests := [errand] }.catalog (.start 0)
    (.seeded 0)).addPlayer (.fresh ⟨3⟩ "Ann" .nil 0 0)
  run := .start ⟨4⟩ ⟨5⟩ ⟨3⟩ ((Page.draft ⟨1⟩ "errand" ⟨2⟩).withRoot
    [.startQuest errand.id false [], .completeQuestTask errand.id ⟨8⟩,
      .completeQuestTask errand.id ⟨9⟩, .completeQuestTask errand.id ⟨9⟩])

/-- The turn behind the first commands. -/
def duringErrand (count : Nat) : Turn := match beforeErrand.steps count with
  | .ok r => r.2
  | .error _ => beforeErrand

/-- The quest is done once, that is queued, and its last task cannot be completed again. -/
theorem tells_of_questRun_errand :
    ∃ p', (duringErrand 3).world.player? ⟨3⟩ = some p' ∧
      (p'.progress errand.id).completionCount.toNat = 1 ∧
      (duringErrand 3).world.persistence.get? (.quest ⟨3⟩ errand.id) =
        some (.quest ⟨3⟩ errand.id ⟨none, true, 1⟩) ∧
      ∃ r, (duringErrand 3).step = .ok r ∧ r.2.world = (duringErrand 3).world := by
  have hkeyed : beforeErrand.world.ledger.IsKeyed := isKeyed_addPlayer (isKeyed_start ..) _
  have hact (count : Nat) {r : Except StepError StepOutcome}
      (hstep : (duringErrand count).step = .ok (r, duringErrand (count + 1))) :
      (duringErrand count).world.Act (duringErrand (count + 1)).world := .step hstep
  have hrun : QuestRun ⟨3⟩ errand.id beforeErrand.world ⟨1, []⟩ (duringErrand 3).world :=
    .act (.act (.act .start (hact 0 rfl)) (hact 1 rfl)) (hact 2 rfl)
  obtain ⟨p', hp', htells, -, hcount, hqueued, hagain⟩ := tells_of_questRun hkeyed
    (p := .fresh ⟨3⟩ "Ann" .nil 0 0) rfl rfl rfl (by decide) hrun
  cases hp'
  exact ⟨_, rfl, (hcount (by decide)).1, hqueued _ rfl, hagain rfl rfl rfl nofun⟩

end World

end EventScript
