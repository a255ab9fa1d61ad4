import EventScript.CommandLine.Display
import EventScript.Text.Blank

/-!
# Playing a page

A page is run for one player at a terminal. The run goes from pass to pass; behind each pass it goes
on by itself, ends, or asks for a line. Waits, routes and fades are over at once; everything else
that the script waits for is answered by the line.

Reading lines and printing is left to the host. Behind the end of its input a host gives empty lines.
-/

namespace EventScript.CommandLine

open EventScript.Text

/-- A run of a page for one player. -/
structure Play where
  /-- The executions. -/
  scheduler : Scheduler
  /-- The player. -/
  player : PlayerId
  /-- Whether to show the state of the executions. -/
  debug : Bool
  /-- How many passes in a row led to nothing. -/
  idle : Nat

/-- What a line is asked for. -/
inductive Question where
  /-- To go on reading. -/
  | text (run : InstanceId)
  /-- To choose one of a number of options. -/
  | options (run : InstanceId) (count : Nat)
  /-- To enter a value. -/
  | input (run : InstanceId)
  /-- To close a picture. -/
  | picture (run : InstanceId)
  /-- To accept a quest. -/
  | questOffer (run : InstanceId)
  /-- To close a window. -/
  | session (kind : SessionKind)
  deriving DecidableEq

/-- How a run goes on. -/
inductive Course where
  /-- With the next pass. -/
  | pass (play : Play)
  /-- With a line. -/
  | ask (question : Question) (play : Play)
  /-- Not at all. -/
  | finished
  /-- Not at all, because of a failure. -/
  | failed (message : String)

/-- What is printed, and how the run goes on. -/
structure Move where
  /-- The text that is printed. -/
  output : String
  /-- How the run goes on. -/
  course : Course

/-- Lines as a text. -/
def unlines (lines : List String) : String := String.join (lines.map fun line => line ++ "\n")

namespace Question

/-- What is printed before a line is read. -/
def prompt : Question → String
  | text _ => ""
  | options _ count => s!"Select (1-{Decimal.render count}): "
  | input _ => "Value (empty to cancel): "
  | picture _ => "(picture shown, press Enter to close)\n"
  | questOffer _ => "Accept quest? (y/n): "
  | session kind => s!"({Enumerated.name kind} open, press Enter to close)\n"

end Question

namespace Play

/-- The lines that a run starts with. -/
def banner (page : Page) : String :=
  unlines [s!"=== eventweave player: {page.name} ===", "", "Controls:", "  Enter: continue",
    "  1-9:   select option", "  q:     quit", ""]

/-- A run at its start: a world with one player, for whom the page was started. -/
def start (page : Page) (catalog : Catalog) (config : EngineConfig) (debug : Bool) (clock : Clock)
    (supply : Supply) : Play :=
  let (user, supply) := supply.freshId
  let (player, supply) := supply.freshId
  let (event, supply) := supply.freshId
  let p := Player.fresh player "Player" user config.player.inventorySlots.toNat
    config.player.spellbookSize.toNat
  let world := (((World.start config catalog clock supply).addUser (.fresh user "player")).addPlayer
    p).setOnline player true
  let (_, scheduler) := (Scheduler.start world).launch player event page fun i =>
    { i with map := p.map }
  ⟨scheduler, player, debug, 0⟩

/-- Ask for a line. -/
def ask (p : Play) (q : Question) (output : String) : Move := ⟨output ++ q.prompt, .ask q p⟩

/-- Go on with the next pass after a signal. -/
def signal (p : Play) (s : Signal) (output : String) : Move :=
  ⟨output, .pass { p with scheduler := (p.scheduler.signal p.player s).2 }⟩

/-- The number of passes that may lead to nothing. -/
def patience : Nat := 3

/-- Go on with the next pass, unless too many of them led to nothing. -/
def goOn (p : Play) (advanced : Nat) (output : String) : Move :=
  let idle := if advanced = 0 then p.idle + 1 else 0
  ⟨output,
    if patience ≤ idle then .failed "event is not making progress" else .pass { p with idle := idle }⟩

/-- Go on after a pass with what the oldest execution waits for. -/
def follow (p : Play) (i : Instance) (advanced : Nat) (output : String) : Move :=
  match i.waiting? with
  | none => p.goOn advanced output
  | some (.dialogue .text) => p.ask (.text i.id) output
  | some (.dialogue (.options branches)) => p.ask (.options i.id branches.length) output
  | some (.dialogue (.input ..)) => p.ask (.input i.id) output
  | some .picture => p.ask (.picture i.id) output
  | some (.questOffer ..) => p.ask (.questOffer i.id) output
  | some (.session kind) => p.ask (.session kind) output
  | some (.timer deadline) =>
    let now := p.scheduler.world.now
    let line := s!"(waiting {Decimal.render (satSubUnsigned deadline now).toNat} ms)\n"
    ⟨output ++ line,
      .pass { p with scheduler.world.clock.now := max deadline now }⟩
  | some (.route target) => p.signal (.routeCompleted target) (output ++ "(route completed)\n")
  | some .fade => p.signal .fadeCompleted output

/-- Run a pass. -/
def pass (p : Play) : Guarded Move := do
  let (report, scheduler) ← p.scheduler.tick
  let (sent, world) := scheduler.world.drainSent
  let p := { p with scheduler := { scheduler with world := world } }
  let output := unlines (sent.flatMap fun (_, n) => notificationLines n) ++
    (if p.debug then unlines (stateLines p.scheduler p.player report.failed) else "")
  match p.scheduler.instancesOf p.player with
  | [] => return ⟨output ++ unlines ["", "(event finished)"], .finished⟩
  | i :: _ =>
    if i.isRunning then return p.follow i report.advanced output
    else return ⟨output ++ "(player released)\n",
      .pass { p with scheduler := (p.scheduler.releasePlayer p.player).2 }⟩

/-- Go on after a response. -/
def respond (p : Play) (run : InstanceId) (response : Response) : Guarded Move := do
  let (outcome, scheduler) ← p.scheduler.respond p.player run response
  let p := { p with scheduler := scheduler, idle := 0 }
  match outcome with
  | .ok true => return ⟨"", .pass p⟩
  | .ok false => return ⟨"[response not accepted]\n", .pass p⟩
  | .error e => return ⟨"", .failed e.message⟩

/-- The option that a line chooses, counted from zero; options are entered counted from one. -/
def choice? (count : Nat) (line : String) : Option UInt64 := do
  let n ← Decimal.unsigned? line.toList
  if 1 ≤ n ∧ n ≤ count then uint64? (n - 1 : Nat) else none

/-- Go on with a line without the blanks around it. A line that chooses no option is asked for
again. -/
def take (p : Play) (q : Question) (line : String) : Guarded Move :=
  let line := trim line
  if line = "q" then return ⟨"Goodbye!\n", .finished⟩
  else match q with
    | .text run => p.respond run .continue
    | .options run count =>
      match choice? count line with
      | some choice => p.respond run (.option choice)
      | none => return p.ask q "[Invalid choice]\n"
    | .input run => p.respond run (if line.isEmpty then .cancel else .input line)
    | .picture run => p.respond run .pictureClosed
    | .questOffer run => p.respond run (.questOffer (eqIgnoreCase line "y"))
    | .session kind => return p.signal (.sessionClosed kind) ""

end Play

end EventScript.CommandLine
