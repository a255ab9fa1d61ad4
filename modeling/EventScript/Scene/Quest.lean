import EventScript.Scene.Basic

/-!
# Quests

A quest is started at its first task, moves from task to task, and ends behind its last one. Every
change of progress is queued to be stored.
-/

namespace EventScript.Scene

/-- Set the progress with a quest and queue it to be stored. -/
def saveProgress (s : Scene) (quest : QuestId) (progress : QuestProgress) : Scene :=
  let s := s.withPlayer (s.player.setProgress quest progress)
  { s with world := s.world.persist (.quest s.player.id quest progress) }.announce .quests

/-- Start a quest at its first task. Says whether it could be started. -/
def beginQuest (s : Scene) (quest : QuestId) : Guarded (Bool × Scene) := do
  if ← s.perspective.canStart quest then
    match s.world.catalog.quests.get? quest with
    | some d =>
      match d.tasks with
      | first :: _ =>
        let s := s.saveProgress quest { s.player.progress quest with task := some first.id }
        return (true, s.startEvent? d.startEvent)
      | [] => return (false, s)
    | none => return (false, s)
  else return (false, s)

/-- Start a quest and branch on whether it could be started; a quest that is offered can be turned
down by the player. -/
def startQuest (s : Scene) (quest : QuestId) (offer : Bool) (branches : List BranchId) :
    Guarded Scene := do
  if ← (if offer then s.perspective.canStart quest else pure false) then
    return (s.tell (.questOffer s.run.id quest)).suspend (.questOffer quest branches)
  else
    let (started, s) ← s.beginQuest quest
    return s.branchOn started branches

/-- End a quest. -/
def finishQuest (s : Scene) (quest : QuestId) (skipCompletionEvent : Bool) : Scene :=
  let endEvent := (s.world.catalog.quests.get? quest).bind QuestDescriptor.endEvent
  let progress := s.player.progress quest
  let s := s.saveProgress quest ⟨none, true, progress.completionCount + 1⟩
  if skipCompletionEvent then s else s.startEvent? endEvent

/-- Complete the active task of a quest, which leads to the next one or to the end. -/
def completeQuestTask (s : Scene) (quest : QuestId) (task : TaskId) : Scene :=
  if (s.player.progress quest).task ≠ some task then s
  else match s.world.catalog.quests.get? quest with
    | some d =>
      match d.tasks.dropWhile fun t => t.id != task with
      | t :: later =>
        let s := s.startEvent? t.completionEvent
        match later with
        | next :: _ => s.saveProgress quest { s.player.progress quest with task := some next.id }
        | [] => s.finishQuest quest false
      | [] => s
    | none => s

/-- End a quest that is in progress. -/
def endQuest (s : Scene) (quest : QuestId) (skipCompletionEvent : Bool) : Scene :=
  if s.player.questInProgress quest then s.finishQuest quest skipCompletionEvent else s

end EventScript.Scene
