import EventScript.Response
import EventScript.Turn.Step

/-!
# Ending suspensions

A suspension ends by the response that answers it or by the signal it waits for; time ends a wait in
a step. Any other response or signal changes nothing.
-/

namespace EventScript

namespace Suspension

/-- Whether a response answers what is asked. An option has to be one that leads to a branch. -/
def isAnsweredBy : Suspension → Response → Bool
  | dialogue .text, .continue => true
  | dialogue (.options branches), .option choice => decide (choice.toNat < branches.length)
  | dialogue (.input ..), .input _ => true
  | dialogue (.input ..), .cancel => true
  | picture, .pictureClosed => true
  | questOffer .., .questOffer _ => true
  | _, _ => false

/-- Whether a signal is the one that is waited for. -/
def isEndedBy : Suspension → Signal → Bool
  | route target, .routeCompleted completed => target == completed
  | session kind, .sessionClosed closed => kind == closed
  | fade, .fadeCompleted => true
  | _, _ => false

end Suspension

namespace Instance

/-- Let a signal end what the running frame waits for. Says whether it did. -/
def receive (i : Instance) (signal : Signal) : Bool × Instance :=
  if i.waiting?.any fun s => s.isEndedBy signal then (true, i.release) else (false, i)

end Instance

namespace Scene

/-- Set a variable to what was entered and enter the first branch; enter the second one if it cannot
be read as a value of the variable. -/
def takeInput (s : Scene) (target : VariableRef) (text : String) (branches : List BranchId) :
    Scene :=
  match (s.world.catalog.vars.get? target).bind fun d => Value.parse? d.dataType text with
  | some value =>
    { s with toSetting := (s.toSetting.setValue target value).2 }.enterBranch branches 0
  | none => s.enterBranch branches 1

/-- Go on after a response that answers what was asked. -/
def resume (s : Scene) : Suspension → Response → Guarded Scene
  | .dialogue (.options branches), .option choice => return s.enterBranch branches choice.toNat
  | .dialogue (.input target branches), .input text => return s.takeInput target text branches
  | .dialogue (.input _ branches), .cancel => return s.enterBranch branches 1
  | .questOffer quest branches, .questOffer accepted => do
    let (started, s) ← if accepted then s.beginQuest quest else pure (false, s)
    return s.branchOn started branches
  | _, _ => return s

end Scene

namespace Turn

/-- Let a response answer what the running frame asked for. Says whether it did; if it did not,
nothing was changed. -/
def answer (t : Turn) (response : Response) : Guarded (Outcome Bool) := do
  match t.run.top? with
  | none => return (.ok false, t)
  | some frame =>
    match frame.waiting with
    | none => return (.ok false, t)
    | some asked =>
      if asked.isAnsweredBy response then
        let t := { t with run := t.run.release }
        match t.world.player? t.run.player with
        | none => return (.error (.missingPlayer t.run.player), t)
        | some p => return (.ok true, ← t.stage frame.page p fun s => s.resume asked response)
      else return (.ok false, t)

end Turn

end EventScript
