import EventScript.Fault
import EventScript.Template
import EventScript.Variable.Reading

/-!
# Answering conditions

Conditions are asked in order until one fails. A condition may ask whether a quest can be started,
which asks the requirements of the quest; a chain of such questions that is longer than there are
quests has a quest twice and would go on forever, so it is a fault.
-/

namespace EventScript

namespace Perspective

/-- Whether a comparison holds for the current value of a variable. A variable that is not
described or of another type compares to nothing. -/
def compares (v : Perspective) (variableRef : VariableRef) (comparison : VariableComparison) :
    Bool :=
  match v.world.current? v.player variableRef, comparison with
  | some (.boolean b), .boolean equal operand =>
    let other := match operand with
      | .literal c => c
      | .fromVariable source => v.world.boolean v.player source
    (b == other) == equal
  | some (.integer n), .integer comparator operand =>
    comparator.compare n (match operand with
      | .literal m => m
      | .fromVariable source => v.world.integer v.player source)
  | some (.string text), .stringEquals other => text == v.expand other
  | some (.string text), .stringContains part => Text.contains text (v.expand part)
  | _, _ => false

/-- Whether a quest is in progress, and on a task if one is given. -/
def isOnTask (v : Perspective) (quest : QuestId) (task : Option TaskId) : Bool :=
  match v.player.quest? quest with
  | some progress => progress.inProgress && (task.isNone || progress.task == task)
  | none => false

/-- The number of the level or a stat. -/
def levelOrStat (v : Perspective) : LevelOrStat → Int64
  | .level => v.player.level.toInt64
  | .stat s => v.player.stats.get s

/-- The answer to a question, with a way to answer whether a quest can be started. -/
def answer (v : Perspective) (startable : QuestId → Guarded Bool) : ConditionKind → Guarded Bool
  | .variableIs variableRef comparison => return v.compares variableRef comparison
  | .hasItem item quantity =>
    return decide (v.world.amount v.player quantity ≤ v.player.itemCount item)
  | .classIs profession => return v.player.profession == profession
  | .knowsSpell spell => return v.player.knowsSpell spell
  | .levelOrStat target comparator value => return comparator.compare (v.levelOrStat target) value
  | .selfSwitch switch value =>
    return v.running.any fun i => i.selfSwitch switch.toNat == value
  | .accessIs access => return v.world.accessOf v.player == access
  | .timeBetween start stop => return minuteInRange v.world.clock.minuteOfDay start stop
  | .canStartQuest quest => startable quest
  | .questInProgress quest task => return v.isOnTask quest task
  | .questCompleted quest => return v.player.questCompleted quest
  | .genderIs gender => return v.player.gender == gender
  | .mapIs map => return v.player.map == map
  | .isItemEquipped item => return v.player.isEquipped item
  | .hasFreeInventorySlots quantity =>
    return decide (quantity.toNat ≤ v.player.inventory.free)
  | .inGuild => return v.player.guild.isSome

/-- Whether all conditions hold, asked in order until one fails. -/
def holdAll (v : Perspective) (startable : QuestId → Guarded Bool) :
    List Condition → Guarded Bool
  | [] => return true
  | c :: rest => do
    if (← v.answer startable c.kind) != c.negated then v.holdAll startable rest else return false

/-- Whether a quest can be started: it exists, has a task, is not in progress, was not completed
unless it is repeatable, and its requirements hold. At most `depth` quests are asked for one behind
the other; the requirements do not see the execution. -/
def canStartWithin (v : Perspective) : Nat → QuestId → Guarded Bool
  | 0, quest => .error (.endlessRequirement quest)
  | depth + 1, quest =>
    match v.world.catalog.quests.get? quest with
    | none => return false
    | some d =>
      if d.tasks.isEmpty || v.player.questInProgress quest then return false
      else if v.player.questCompleted quest && !d.repeatable then return false
      else holdAll { v with running := none } (v.canStartWithin depth) d.requirements

/-- Whether a quest can be started. -/
def canStart (v : Perspective) (quest : QuestId) : Guarded Bool :=
  v.canStartWithin (v.world.catalog.quests.size + 1) quest

/-- Whether a condition holds. -/
def meets (v : Perspective) (c : Condition) : Guarded Bool := do
  return (← v.answer v.canStart c.kind) != c.negated

/-- Whether all conditions hold. -/
def meetsAll (v : Perspective) (conditions : List Condition) : Guarded Bool :=
  v.holdAll v.canStart conditions

end Perspective

end EventScript
