import EventScript.Scene.Basic

/-!
# The flow of scripts

Variables, self switches, conditional branches, labels, common events and waits.
-/

namespace EventScript.Scene

/-- Modify a variable. -/
def setVariable (s : Scene) (target : VariableRef) (m : VariableMod) (syncsParty : Bool) : Scene :=
  { s with toSetting := (s.toSetting.modify (some s.run) target m syncsParty).2 }

/-- Set a self switch. The clones of a global event share their self switches. -/
def setSelfSwitch (s : Scene) (switch : UInt64) (value : Bool) : Scene :=
  let s := { s with run := s.run.setSelfSwitch switch.toNat value }
  if s.run.isGlobal then
    { s with world.switchUpdates :=
        s.world.switchUpdates ++ [⟨s.run.event, s.run.map, switch, value⟩] }
  else s

/-- Enter the first branch if a condition holds, and else the second one if that is enabled. -/
def conditionalBranch (s : Scene) (condition : Condition) (branches : List BranchId) :
    Guarded Scene := do
  if ← s.perspective.meets condition then return s.enterBranch branches 0
  else if condition.elseEnabled then return s.enterBranch branches 1
  else return s

/-- Jump behind a label of the running page: its frames give way to those of the way to the label.
A label that is not found is left out. -/
def goToLabel (s : Scene) (label : String) : Scene :=
  match s.page.resolveLabel? label with
  | some path => { s with run := { s.run with stack := s.run.stack.replacePage path } }
  | none => s

/-- The pages of a common event whose conditions hold. -/
def matchingPages (s : Scene) : List CommonEventPage → Guarded (List Page)
  | [] => return []
  | d :: rest => do
    let met ← ({ s.perspective with running := none } : Perspective).meetsAll d.conditions
    let pages ← s.matchingPages rest
    return if met then d.page :: pages else pages

/-- The other connected players in the map instance of the player. -/
def neighbours (s : Scene) : List PlayerId :=
  s.world.onlinePlayers.filter fun id =>
    id != s.player.id && (s.world.player? id).any fun p => p.mapInstance == s.player.mapInstance

/-- Ask for the start of a common event for the neighbours. -/
def askNeighbours (s : Scene) (event : EventId) : Scene :=
  let asked := s.neighbours.map fun id => EventRequest.start id event
  { s with world.requests := s.world.requests ++ asked }

/-- Run all pages of a common event whose conditions hold, the last one first, and ask for its start
for the other players of the map instance if that is wanted; in the overworld it has to be wanted
twice. -/
def startCommonEvent (s : Scene) (event : EventId) (allInInstance allowInOverworld : Bool) :
    Guarded Scene := do
  match s.world.catalog.commonEvents.get? event with
  | none => return s
  | some d =>
    let pages ← s.matchingPages d.pages
    let s := { s with run := pages.foldl (fun r page => r.push (.root page)) s.run }
    if allInInstance && (!s.player.mapInstance.isNil || allowInOverworld) then
      return s.askNeighbours event
    else return s

/-- Wait for a time. -/
def wait (s : Scene) (time : UInt64) : Scene :=
  s.suspend (.timer (satAddUnsigned s.world.now time))

end EventScript.Scene
