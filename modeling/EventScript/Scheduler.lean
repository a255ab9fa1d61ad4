import EventScript.Turn.Answer

/-!
# The scheduler

The scheduler owns all executions, by the player they run for. It starts them, lets each of them
take its steps in turn, passes responses and signals on to them, and removes those that are
complete, that failed, or whose player or map went away.
-/

namespace EventScript

/-- Why the scheduler cannot do what it is asked. -/
inductive SchedulerError where
  | unknownPlayer (player : PlayerId)
  /-- An execution failed. -/
  | failure (cause : StepError)
  deriving DecidableEq

/-- The text of an error. -/
def SchedulerError.message : SchedulerError → String
  | unknownPlayer player => s!"unknown player: {player.text}"
  | failure cause => "engine error: " ++ cause.message

/-- The counts of one pass. -/
structure TickReport where
  /-- The executions that took a step and did not just wait. -/
  advanced : Nat
  /-- The executions that were removed because they were complete. -/
  completed : Nat
  /-- The executions that failed. -/
  failed : Nat
  /-- The executions that were started because they were asked for. -/
  started : Nat
  deriving DecidableEq

/-- The world and all executions. -/
structure Scheduler where
  /-- The world. -/
  world : World
  /-- The executions of every player that has any, oldest first. -/
  instances : Table PlayerId (List Instance)

namespace Scheduler

/-- A scheduler without executions. -/
def start (world : World) : Scheduler := ⟨world, .empty⟩

/-- The executions of a player, oldest first. -/
def instancesOf (s : Scheduler) (player : PlayerId) : List Instance :=
  (s.instances.get? player).getD []

/-- An execution of a player. -/
def instance? (s : Scheduler) (player : PlayerId) (id : InstanceId) : Option Instance :=
  (s.instancesOf player).find? fun i => i.id == id

/-- The number of executions. -/
def instanceCount (s : Scheduler) : Nat := (s.instances.values.map List.length).foldl (· + ·) 0

/-- Whether a player has an execution of an event. -/
def isRunning (s : Scheduler) (player : PlayerId) (event : EventId) : Bool :=
  (s.instancesOf player).any fun i => i.event == event

/-- Whether an execution holds the player. -/
def isHeld (s : Scheduler) (player : PlayerId) : Bool := (s.instancesOf player).any Instance.holding

/-- Drop players without executions. -/
def withoutIdle (s : Scheduler) : Scheduler :=
  { s with instances := s.instances.filter fun _ is => !is.isEmpty }

/-- Remove the executions that are complete, and count them. -/
def reap (s : Scheduler) : Nat × Scheduler :=
  let kept := s.instances.map fun _ is => is.filter fun i => !i.isComplete
  let reaped := { s with instances := kept }
  (s.instanceCount - reaped.instanceCount, reaped.withoutIdle)

/-! ## Starting -/

/-- Start an event for a player on a page, unless the player already has an execution of it. The
execution can be changed before it is added. -/
def launch (s : Scheduler) (player : PlayerId) (event : EventId) (page : Page)
    (change : Instance → Instance) : Option InstanceId × Scheduler :=
  if s.isRunning player event then (none, s)
  else
    let (id, supply) := s.world.supply.freshId
    let started := change (.start id event player page)
    (some id,
      { world := { s.world with supply := supply }
        instances := s.instances.insert player (s.instancesOf player ++ [started]) })

/-- Start an event on the map of the player. -/
def startEvent (s : Scheduler) (player : PlayerId) (event : EventId) (page : Page) :
    Except SchedulerError (Option InstanceId × Scheduler) :=
  match s.world.player? player with
  | some p => .ok (s.launch player event page fun i => { i with map := p.map })
  | none => .error (.unknownPlayer player)

/-- The first page whose conditions hold. -/
def firstPage? (v : Perspective) : List CommonEventPage → Guarded (Option Page)
  | [] => return none
  | d :: rest => do if ← v.meetsAll d.conditions then return some d.page else firstPage? v rest

/-- Start a common event on the last of its pages whose conditions hold. -/
def startCommonEvent (s : Scheduler) (player : PlayerId) (event : EventId) :
    Guarded (Except SchedulerError (Option InstanceId × Scheduler)) := do
  match s.world.player? player with
  | none => return .error (.unknownPlayer player)
  | some p =>
    match s.world.catalog.commonEvents.get? event with
    | none => return .ok (none, s)
    | some d =>
      match ← firstPage? ⟨s.world, p, none⟩ d.pages.reverse with
      | some page => return .ok (s.launch player event page id)
      | none => return .ok (none, s)

/-- The page of every common event that a trigger starts for what is seen: the last one with the
trigger whose conditions hold. -/
def triggeredPages (v : Perspective) (trigger : Trigger) :
    List CommonEventDescriptor → Guarded (List (EventId × Page))
  | [] => return []
  | d :: rest => do
    let page ← firstPage? v (d.pages.reverse.filter fun page => page.trigger == trigger)
    let later ← triggeredPages v trigger rest
    return match page with
      | some page => (d.id, page) :: later
      | none => later

/-- Start events for a player, one after the other. -/
def launchAll (player : PlayerId) :
    List (EventId × Page) → Scheduler → List InstanceId × Scheduler
  | [], s => ([], s)
  | (event, page) :: rest, s =>
    let (started, s) := s.launch player event page id
    let (later, s) := launchAll player rest s
    (started.toList ++ later, s)

/-- Start all common events that listen for a trigger, in ascending order. -/
def triggerCommonEvents (s : Scheduler) (player : PlayerId) (trigger : Trigger) :
    Guarded (Except SchedulerError (List InstanceId × Scheduler)) := do
  match s.world.player? player with
  | none => return .error (.unknownPlayer player)
  | some p =>
    let pages ← triggeredPages ⟨s.world, p, none⟩ trigger s.world.catalog.commonEvents.values
    return .ok (launchAll player pages s)

/-- Start an event for every player of a list, as one of its clones. -/
def launchClones (event : EventId) (map : MapId) (page : Page) (switches : Vector Bool 4) :
    List PlayerId → Scheduler → List InstanceId × Scheduler
  | [], s => ([], s)
  | player :: rest, s =>
    let (started, s) := s.launch player event page fun i =>
      { i with map := map, isGlobal := true, selfSwitches := switches }
    let (later, s) := launchClones event map page switches rest s
    (started.toList ++ later, s)

/-- Start a global event: a clone for every connected player on a map. -/
def startGlobal (s : Scheduler) (event : EventId) (map : MapId) (page : Page)
    (switches : Vector Bool 4) : List InstanceId × Scheduler :=
  let members := s.world.onlinePlayers.filter fun id =>
    (s.world.player? id).any fun p => p.map == map
  launchClones event map page switches members s

/-! ## Passes -/

/-- Start what a request asks for, and count the executions started. A request for a player that is
not loaded is dropped. -/
def serve (s : Scheduler) : EventRequest → Guarded (Nat × Scheduler)
  | .trigger player trigger => do
    match ← s.triggerCommonEvents player trigger with
    | .ok (started, s) => return (started.length, s)
    | .error _ => return (0, s)
  | .start player event => do
    match ← s.startCommonEvent player event with
    | .ok (started, s) => return (started.toList.length, s)
    | .error _ => return (0, s)

/-- Start what requests ask for, in order, and count the executions started. -/
def serveAll : List EventRequest → Scheduler → Guarded (Nat × Scheduler)
  | [], s => return (0, s)
  | r :: rest, s => do
    let (started, s) ← s.serve r
    let (later, s) ← serveAll rest s
    return (started + later, s)

/-- Start all that was asked for. -/
def serveRequests (s : Scheduler) : Guarded (Nat × Scheduler) :=
  serveAll s.world.requests { s with world.requests := [] }

/-- End an execution that failed; if it holds its player, the player is let go. -/
def abandon (t : Turn) (owner : PlayerId) : Turn :=
  let run := t.run.cancel
  if run.holding then
    ⟨t.world.send (.player owner) (.releasePlayer run.event), { run with holding := false }⟩
  else { t with run := run }

/-- The world and the counts while the executions take their turns. -/
structure Pass where
  /-- The world. -/
  world : World
  /-- The executions that took a step and did not just wait. -/
  advanced : Nat
  /-- The executions that failed. -/
  failed : Nat

/-- The turn of one execution. -/
def takeTurn (budget : UInt64) (owner : PlayerId) (pass : Pass) (i : Instance) :
    Guarded (Instance × Pass) := do
  let (outcome, t) ← (Turn.mk pass.world i).tick budget
  match outcome with
  | .ok (.waiting _) => return (t.run, { pass with world := t.world })
  | .ok _ => return (t.run, { pass with world := t.world, advanced := pass.advanced + 1 })
  | .error _ =>
    let t := abandon t owner
    return (t.run, { pass with world := t.world, failed := pass.failed + 1 })

/-- The turns of a player's executions, in order; one without frames has no turn. -/
def takeTurns (budget : UInt64) (owner : PlayerId) :
    List Instance → Pass → Guarded (List Instance × Pass)
  | [], pass => return ([], pass)
  | i :: rest, pass => do
    let (i, pass) ← if i.isRunning then takeTurn budget owner pass i else pure (i, pass)
    let (rest, pass) ← takeTurns budget owner rest pass
    return (i :: rest, pass)

/-- The turns of all executions, player by player. -/
def takeAllTurns (budget : UInt64) :
    List (PlayerId × List Instance) → Table PlayerId (List Instance) → Pass →
      Guarded (Table PlayerId (List Instance) × Pass)
  | [], instances, pass => return (instances, pass)
  | (owner, is) :: rest, instances, pass => do
    let (is, pass) ← takeTurns budget owner is pass
    takeAllTurns budget rest (instances.insert owner is) pass

/-- Let an execution see a change of a self switch, if it is a clone of the event. -/
def applySwitch (u : SwitchUpdate) (i : Instance) : Instance :=
  if i.isGlobal && i.event == u.event && i.map == u.map then
    i.setSelfSwitch u.switch.toNat u.value
  else i

/-- Let all clones see the changes of self switches, in order. -/
def applySwitches (s : Scheduler) : Scheduler where
  world := { s.world with switchUpdates := [] }
  instances := s.instances.map fun _ is =>
    is.map fun i => s.world.switchUpdates.foldl (fun i u => applySwitch u i) i

/-- Run one pass. What was asked for before the pass takes part in it; what is asked for during the
pass is started at its end. -/
def tick (s : Scheduler) : Guarded (TickReport × Scheduler) := do
  let (startedBefore, s) ← s.serveRequests
  let (instances, pass) ← takeAllTurns s.world.config.scheduler.commandsPerTick
    s.instances.entries s.instances ⟨s.world, 0, 0⟩
  let s := (Scheduler.mk pass.world instances).applySwitches
  let (startedAfter, s) ← s.serveRequests
  let (completed, s) := s.reap
  return (⟨pass.advanced, completed, pass.failed, startedBefore + startedAfter⟩, s)

/-- Run passes one after the other. -/
def ticks : Nat → Scheduler → Guarded (List TickReport × Scheduler)
  | 0, s => return ([], s)
  | count + 1, s => do
    let (report, s) ← s.tick
    let (later, s) ← ticks count s
    return (report :: later, s)

/-! ## Responses and signals -/

/-- Pass a response on to an execution. Says whether it answered what was asked; a response for an
execution that does not exist answers nothing. An execution that fails is ended. -/
def respond (s : Scheduler) (player : PlayerId) (id : InstanceId) (response : Response) :
    Guarded (Except SchedulerError Bool × Scheduler) := do
  let is := s.instancesOf player
  match is.findIdx? fun i => i.id == id with
  | none => return (.ok false, s)
  | some index =>
    match is[index]? with
    | none => return (.ok false, s)
    | some i =>
      let (outcome, t) ← (Turn.mk s.world i).answer response
      let keep (run : Instance) : Scheduler :=
        ⟨t.world, s.instances.insert player (is.set index run)⟩
      match outcome with
      | .ok accepted => return (.ok accepted, keep t.run)
      | .error e => return (.error (.failure e), keep t.run.cancel)

/-- What a signal changes about a player it is for. -/
def clearActivity (player : PlayerId) (signal : Signal) (p : Player) : Player :=
  match signal with
  | .routeCompleted ⟨.player id, _⟩ =>
    if id = player then { p with activity.moveRoute := none } else p
  | .routeCompleted _ => p
  | .sessionClosed kind =>
    if p.activity.openSession = some kind then { p with activity.openSession := none } else p
  | .fadeCompleted => { p with activity.fading := false }

/-- What a signal changes in the world. -/
def observe (w : World) (player : PlayerId) (signal : Signal) : World :=
  let w := { w with players := w.players.modify player (clearActivity player signal) }
  match signal with
  | .routeCompleted ⟨.event event, _⟩ =>
    { w with mapEvents := w.mapEvents.modify event fun e => { e with moveRoute := none } }
  | _ => w

/-- Whether a signal concerns the executions of all players. -/
def concernsAll : Signal → Bool
  | .routeCompleted _ => true
  | _ => false

/-- Pass a signal on, and count the executions for which it ended a suspension. The end of a route
concerns all who wait for it, other signals only the executions of the player. -/
def signal (s : Scheduler) (player : PlayerId) (signal : Signal) : Nat × Scheduler :=
  let hears (owner : PlayerId) : Bool := concernsAll signal || owner == player
  let released := (s.instances.entries.map fun (owner, is) =>
    if hears owner then (is.filter fun i => (i.receive signal).1).length else 0).foldl (· + ·) 0
  let instances := s.instances.map fun owner is =>
    if hears owner then is.map fun i => (i.receive signal).2 else is
  (released, ⟨observe s.world player signal, instances⟩)

/-! ## Removal -/

/-- End all executions of a player, remove the characters spawned for the player, and take the
player offline. Counts the executions. -/
def disconnect (s : Scheduler) (player : PlayerId) : Nat × Scheduler :=
  let spawned := ((s.world.player? player).map fun p => p.activity.spawnedNpcs).getD []
  let world := { s.world with
    players := s.world.players.modify player fun p =>
      { p with activity.openSession := none, activity.spawnedNpcs := [] } }
  ((s.instancesOf player).length,
    ⟨(world.despawnNpcs spawned).setOnline player false, s.instances.erase player⟩)

/-- End all executions on a map. Counts them. -/
def unloadMap (s : Scheduler) (map : MapId) : Nat × Scheduler :=
  let kept := s.instances.map fun _ is => is.filter fun i => i.map != map
  let unloaded := { s with instances := kept }
  (s.instanceCount - unloaded.instanceCount, unloaded.withoutIdle)

/-- Let a player go whom executions hold, and remove those that are complete then. Counts the
executions that held the player. -/
def releasePlayer (s : Scheduler) (player : PlayerId) : Nat × Scheduler :=
  let holders := (s.instancesOf player).filter Instance.holding
  let world := holders.foldl (fun w i => w.send (.player player) (.releasePlayer i.event)) s.world
  let instances := s.instances.modify player fun is => is.map fun i => { i with holding := false }
  (holders.length, (Scheduler.mk world instances).reap.2)

end Scheduler

end EventScript
