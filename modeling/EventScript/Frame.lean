import EventScript.Page.Label

/-!
# Frames and call stacks

A frame is a place in a command list of a page; a stack of frames, the running one first, is where
an event instance stands. A frame may be suspended until something outside the script happens.
-/

namespace EventScript

/-- What a dialogue asks of the player. -/
inductive Prompt where
  /-- To read on. -/
  | text
  /-- To choose one of the options, which lead to the branches by position. -/
  | options (branches : List BranchId)
  /-- To enter the value of a variable, or to cancel. -/
  | input (target : VariableRef) (branches : List BranchId)
  deriving DecidableEq

/-- What a suspended frame waits for. -/
inductive Suspension where
  | dialogue (prompt : Prompt)
  | timer (deadline : UInt64)
  | route (target : RouteTarget)
  | session (kind : SessionKind)
  | fade
  | picture
  | questOffer (quest : QuestId) (branches : List BranchId)
  deriving DecidableEq

/-- The kinds of suspensions. -/
inductive SuspensionKind where
  | dialogue | timer | route | session | fade | picture | questOffer
  deriving DecidableEq

instance : Enumerated SuspensionKind where
  all := [.dialogue, .timer, .route, .session, .fade, .picture, .questOffer]
  name
    | .dialogue => "Dialogue"
    | .timer => "Timer"
    | .route => "Route"
    | .session => "Session"
    | .fade => "Fade"
    | .picture => "Picture"
    | .questOffer => "QuestOffer"

/-- The kind of a suspension. -/
def Suspension.kind : Suspension → SuspensionKind
  | dialogue _ => .dialogue
  | timer _ => .timer
  | route _ => .route
  | session _ => .session
  | fade => .fade
  | picture => .picture
  | questOffer .. => .questOffer

/-- Why an event instance cannot go on. -/
inductive StepError where
  | missingCommandList (page : PageId) (list : BranchId)
  | frameIndexOutOfRange (list : BranchId) (index length : Nat)
  | unsupportedCommand (kind : String)
  | missingPlayer (player : PlayerId)
  deriving DecidableEq

/-- The text of an error. -/
def StepError.message : StepError → String
  | missingCommandList page list => s!"Page {page.text} has no command list {list.text}"
  | frameIndexOutOfRange list index length =>
    s!"Frame index {index} is past the end of list {list.text} (length {length})"
  | unsupportedCommand kind => "Unsupported command kind '" ++ kind ++ "'"
  | missingPlayer player => s!"Player {player.text} is not loaded"

/-- A place in a command list. -/
structure Frame where
  /-- The page of the list. -/
  page : Page
  /-- The list. -/
  list : BranchId
  /-- The position of the next command. -/
  index : Nat
  /-- What the frame waits for, if it is suspended. -/
  waiting : Option Suspension
  deriving DecidableEq

namespace Frame

/-- The frame in front of a command. -/
def start (page : Page) (list : BranchId) (index : Nat) : Frame := ⟨page, list, index, none⟩

/-- The frame at the start of the root list of a page. -/
def root (page : Page) : Frame := start page page.root 0

/-- Whether the frame runs the root list of its page. -/
def isRoot (f : Frame) : Bool := f.list == f.page.root

/-- The commands of the list. -/
def commands (f : Frame) : Except StepError (List Command) :=
  match f.page.list? f.list with
  | some commands => .ok commands
  | none => .error (.missingCommandList f.page.id f.list)

/-- Whether no command is left. -/
def isExhausted (f : Frame) : Except StepError Bool :=
  f.commands.map fun commands => decide (commands.length ≤ f.index)

/-- Whether the frame waits for something. -/
def isSuspended (f : Frame) : Bool := f.waiting.isSome

/-- Go on behind the next command. -/
def advance (f : Frame) : Frame := { f with index := f.index + 1 }

/-- Let the frame wait for something. -/
def suspend (f : Frame) (s : Suspension) : Frame := { f with waiting := some s }

/-- Let the frame go on. -/
def release (f : Frame) : Frame := { f with waiting := none }

/-- Whether the frame can be left: it is not suspended and no command is left. -/
def isFinished (f : Frame) : Bool :=
  !f.isSuspended && match f.isExhausted with
    | .ok exhausted => exhausted
    | .error _ => false

/-- The error of a frame that is to go on but has no list. -/
def defect? (f : Frame) : Option StepError :=
  if f.isSuspended then none
  else match f.isExhausted with
    | .ok _ => none
    | .error e => some e

end Frame

/-- Frames of which each continues when those before it are left; the running one comes first. -/
abbrev CallStack := List Frame

namespace CallStack

/-- Leave the frames on top that are finished. A suspended frame is never left. -/
def unwind (s : CallStack) : CallStack := s.dropWhile Frame.isFinished

/-- The number of frames that unwinding leaves. -/
def unwound (s : CallStack) : Nat := (s.takeWhile Frame.isFinished).length

/-- The error of the running frame, if it is to go on but has no list. -/
def defect? (s : CallStack) : Option StepError := s.head?.bind Frame.defect?

/-- Leave frames up to and including the first one that runs the root list of its page. -/
def leavePage (s : CallStack) : CallStack := (s.dropWhile fun f => !f.isRoot).tail

/-- Put the frames of a path, outermost first, in place of those of the running page. -/
def replacePage (s : CallStack) (path : List Frame) : CallStack := path.reverse ++ s.leavePage

end CallStack

/-- The frames behind a label, outermost first. -/
def Page.resolveLabel? (p : Page) (label : String) : Option (List Frame) :=
  (p.findLabel? label).map fun path => path.map fun step => Frame.start p step.list step.index

end EventScript
