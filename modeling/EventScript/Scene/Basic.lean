import EventScript.Condition.Evaluation
import EventScript.Variable.Update

/-!
# Scenes

A scene is what the execution of one command works on: the world, the player the script runs for,
the execution of the script, and the page of the running frame. The running frame already stands
behind the command, so what is pushed runs before the command that follows.
-/

namespace EventScript

/-- What the execution of one command works on. -/
structure Scene extends Setting where
  /-- The execution of the script. -/
  run : Instance
  /-- The page of the running frame. -/
  page : Page

namespace Scene

/-- What the script sees. -/
def perspective (s : Scene) : Perspective := ⟨s.world, s.player, some s.run⟩

/-- A text with its tokens replaced. -/
def expand (s : Scene) (text : String) : String := s.perspective.expand text

/-- Let the running frame wait for something. -/
def suspend (s : Scene) (what : Suspension) : Scene := { s with run := s.run.suspend what }

/-- Enter the branch at a position. Nothing is entered when there is none or when its list is not
registered; the script then goes on. -/
def enterBranch (s : Scene) (branches : List BranchId) (position : Nat) : Scene :=
  match branches[position]? with
  | some b => if s.page.hasList b then { s with run := s.run.push (.start s.page b 0) } else s
  | none => s

/-- Enter the first branch on success and the second one on failure. -/
def branchOn (s : Scene) (success : Bool) (branches : List BranchId) : Scene :=
  s.enterBranch branches (if success then 0 else 1)

/-- Tell clients something. -/
def send (s : Scene) (audience : Recipients) (n : Notification) : Scene :=
  { s with world := s.world.send audience n }

/-- Tell the player something. -/
def tell (s : Scene) (n : Notification) : Scene := s.send (.player s.player.id) n

/-- The clients near the player. -/
def nearby (s : Scene) : Recipients := .proximity s.player.map s.player.mapInstance

/-- Tell the clients near the player what changed about the player. -/
def announce (s : Scene) (change : EntityChange) : Scene :=
  s.send s.nearby (.entityUpdate s.player.id change)

/-- Write a line into the chat of the player. -/
def chat (s : Scene) (text : String) (color : Color) (kind : ChatMessageKind) : Scene :=
  s.tell (.chatMessage text color kind none)

/-- Ask for the common events of a trigger, for the player. -/
def trigger (s : Scene) (t : Trigger) : Scene :=
  { s with world := s.world.request (.trigger s.player.id t) }

/-- Ask for the start of a common event, for the player. -/
def startEvent (s : Scene) (event : EventId) : Scene :=
  { s with world := s.world.request (.start s.player.id event) }

/-- Ask for the start of a common event, if there is one to start. -/
def startEvent? (s : Scene) (event : Option EventId) : Scene :=
  match event with
  | some e => s.startEvent e
  | none => s

/-- Change the player. -/
def withPlayer (s : Scene) (p : Player) : Scene := { s with player := p }

end Scene

end EventScript
