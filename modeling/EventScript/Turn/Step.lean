import EventScript.Scene.Execute

/-!
# Taking steps

A turn is the world together with the execution whose turn it is. A step executes at most one
command. Frames that are finished are left before and after it, and a wait whose time has come ends
before it, so that the command behind a wait runs in the same step.

A step that fails leaves the turn as it is then: the running frame already stands behind the command
that failed.
-/

namespace EventScript

/-- What became of a step. -/
inductive StepOutcome where
  /-- A command was executed and there is more to do. -/
  | continue
  /-- The command that was executed let the execution wait. -/
  | suspended (kind : SuspensionKind)
  /-- Nothing was executed because the execution waits. -/
  | waiting (kind : SuspensionKind)
  /-- No frame is left. -/
  | completed
  deriving DecidableEq

/-- The world and the execution whose turn it is. -/
structure Turn where
  /-- The world. -/
  world : World
  /-- The execution. -/
  run : Instance

namespace Turn

/-- What came of something done in a turn, and the turn after it. A failure keeps the turn. -/
abbrev Outcome (α : Type) := Except StepError α × Turn

/-- Leave finished frames, end a wait whose time has come, and leave the frames finished by that. -/
def settle (t : Turn) : Turn :=
  let run := t.run.unwind
  match run.waitDeadline? with
  | some deadline =>
    if deadline ≤ t.world.now then { t with run := run.release.unwind } else { t with run := run }
  | none => { t with run := run }

/-- Let the script of the execution change the scene, on a page and for a player. -/
def stage (t : Turn) (page : Page) (p : Player) (act : Scene → Guarded Scene) : Guarded Turn := do
  let s ← act ⟨⟨t.world, p⟩, t.run, page⟩
  return ⟨s.world.putPlayer t.run.player s.player, s.run⟩

/-- What came of the command that was executed last. -/
def conclude (t : Turn) : Outcome StepOutcome :=
  match t.run.suspension? with
  | some kind => (.ok (.suspended kind), t)
  | none =>
    let t := { t with run := t.run.unwind }
    match t.run.stack.defect? with
    | some e => (.error e, t)
    | none => (.ok (if t.run.isRunning then .continue else .completed), t)

/-- Execute the next command of a frame, which is the running one. -/
def execute (t : Turn) (frame : Frame) : Guarded (Outcome StepOutcome) := do
  let t := { t with run := t.run.modifyTop Frame.advance }
  match frame.page.list? frame.list with
  | none => return (.error (.missingCommandList frame.page.id frame.list), t)
  | some commands =>
    match commands[frame.index]? with
    | none => return (.error (.frameIndexOutOfRange frame.list frame.index commands.length), t)
    | some command =>
      match t.world.player? t.run.player with
      | none => return (.error (.missingPlayer t.run.player), t)
      | some p =>
        if command = .unsupported then
          return (.error (.unsupportedCommand command.kindName), t)
        else return (← t.stage frame.page p fun s => s.execute command).conclude

/-- Execute at most one command. -/
def step (t : Turn) : Guarded (Outcome StepOutcome) := do
  let t := t.settle
  match t.run.stack.defect?, t.run.top? with
  | some e, _ => return (.error e, t)
  | none, none => return (.ok .completed, t)
  | none, some frame =>
    match frame.waiting with
    | some s => return (.ok (.waiting s.kind), t)
    | none => t.execute frame

/-- Take up to a number of steps, until one of them does not call for another. -/
def steps : Nat → Turn → Guarded (Outcome StepOutcome)
  | 0, t => return (.ok .continue, t)
  | count + 1, t => do
    let (outcome, t) ← t.step
    match outcome with
    | .ok .continue => steps count t
    | _ => return (outcome, t)

/-- Take the steps of one pass, at least one. -/
def tick (t : Turn) (budget : UInt64) : Guarded (Outcome StepOutcome) := steps (max budget.toNat 1) t

end Turn

end EventScript
