import EventScript.Frame

/-!
# Event instances

One running execution of an event for a player: where it stands, what it was started with, its self
switches, and whether it holds the player in place.
-/

namespace EventScript

/-- A running execution of an event. -/
structure Instance where
  /-- The identifier of the execution. -/
  id : InstanceId
  /-- The event that runs. -/
  event : EventId
  /-- The player it runs for. -/
  player : PlayerId
  /-- The map it runs on; nil for common events. -/
  map : MapId
  /-- Whether it is one of the clones of a global event. -/
  isGlobal : Bool
  /-- The name of the page it was started on. -/
  name : String
  /-- The parameter it was started with. -/
  param : String
  /-- The named parameters it was started with. -/
  parameters : Table String String
  /-- Where it stands. -/
  stack : CallStack
  /-- The self switches of the event. -/
  selfSwitches : Vector Bool 4
  /-- Whether it holds the player. -/
  holding : Bool
  deriving DecidableEq

namespace Instance

/-- An execution at the start of a page. -/
def start (id : InstanceId) (event : EventId) (player : PlayerId) (page : Page) : Instance where
  id := id
  event := event
  player := player
  map := .nil
  isGlobal := false
  name := page.name
  param := ""
  parameters := .empty
  stack := [Frame.root page]
  selfSwitches := Vector.replicate 4 false
  holding := false

/-- The self switch with a number; one that does not exist is off. -/
def selfSwitch (i : Instance) (switch : Nat) : Bool := (i.selfSwitches[switch]?).getD false

/-- Set a self switch; one that does not exist is left alone. -/
def setSelfSwitch (i : Instance) (switch : Nat) (value : Bool) : Instance :=
  { i with selfSwitches := i.selfSwitches.setIfInBounds switch value }

/-- The running frame. -/
def top? (i : Instance) : Option Frame := i.stack.head?

/-- What the running frame waits for. -/
def waiting? (i : Instance) : Option Suspension := i.top?.bind Frame.waiting

/-- The kind of what the running frame waits for. -/
def suspension? (i : Instance) : Option SuspensionKind := i.waiting?.map Suspension.kind

/-- When a pending wait ends. -/
def waitDeadline? (i : Instance) : Option UInt64 :=
  match i.waiting? with
  | some (.timer deadline) => some deadline
  | _ => none

/-- Whether a frame is left. -/
def isRunning (i : Instance) : Bool := !i.stack.isEmpty

/-- Whether there is nothing left to run and the player is not held. -/
def isComplete (i : Instance) : Bool := i.stack.isEmpty && !i.holding

/-- End the execution; what it did stays done. -/
def cancel (i : Instance) : Instance := { i with stack := [] }

/-- Change the running frame. -/
def modifyTop (i : Instance) (f : Frame → Frame) : Instance :=
  match i.stack with
  | [] => i
  | top :: rest => { i with stack := f top :: rest }

/-- Let the running frame wait for something. -/
def suspend (i : Instance) (s : Suspension) : Instance := i.modifyTop fun f => f.suspend s

/-- Let the running frame go on. -/
def release (i : Instance) : Instance := i.modifyTop Frame.release

/-- Run a frame before all others. -/
def push (i : Instance) (f : Frame) : Instance := { i with stack := f :: i.stack }

/-- Leave the frames that are finished. -/
def unwind (i : Instance) : Instance := { i with stack := i.stack.unwind }

end Instance

end EventScript
