import EventScript.Account
import EventScript.Appearance
import EventScript.Bounded
import EventScript.Client
import EventScript.Command.Basic
import EventScript.Command.Form
import EventScript.CommandLine.Arguments
import EventScript.CommandLine.Display
import EventScript.CommandLine.Play
import EventScript.CommandLine.Report
import EventScript.CommandLine.Session
import EventScript.Condition.Basic
import EventScript.Condition.Evaluation
import EventScript.Config
import EventScript.Descriptor.Basic
import EventScript.Descriptor.Catalog
import EventScript.Diagnostics
import EventScript.Fault
import EventScript.Frame
import EventScript.Id
import EventScript.Instance
import EventScript.Json.Basic
import EventScript.Json.Form
import EventScript.Json.Parser
import EventScript.Json.Printer
import EventScript.Json.Record
import EventScript.Main
import EventScript.Movement
import EventScript.Notification
import EventScript.Page.Analysis
import EventScript.Page.Basic
import EventScript.Page.Label
import EventScript.Persistence.Queue
import EventScript.Persistence.Record
import EventScript.Persistence.Transfer
import EventScript.Player.Basic
import EventScript.Player.Inventory
import EventScript.Proofs.Bounded
import EventScript.Proofs.CallStack.Activation
import EventScript.Proofs.CallStack.Change
import EventScript.Proofs.CallStack.Coherence
import EventScript.Proofs.CallStack.Replacement
import EventScript.Proofs.CallStack.Run
import EventScript.Proofs.CallStack.Structured
import EventScript.Proofs.CallStack.Transition
import EventScript.Proofs.CommandLine.Prompt
import EventScript.Proofs.Descriptor.Order
import EventScript.Proofs.Guarded
import EventScript.Proofs.Guild.Membership
import EventScript.Proofs.Json.Form
import EventScript.Proofs.Json.Message
import EventScript.Proofs.Json.Parts
import EventScript.Proofs.Json.Record
import EventScript.Proofs.Json.RoundTrip
import EventScript.Proofs.Json.Script
import EventScript.Proofs.Json.State
import EventScript.Proofs.Json.Text
import EventScript.Proofs.Json.Token
import EventScript.Proofs.Npc.Ownership
import EventScript.Proofs.Page.Check
import EventScript.Proofs.Page.Label
import EventScript.Proofs.Page.Reach
import EventScript.Proofs.Page.Report
import EventScript.Proofs.Persistence.Coherence
import EventScript.Proofs.Persistence.Command
import EventScript.Proofs.Persistence.Ledger
import EventScript.Proofs.Persistence.Records
import EventScript.Proofs.Persistence.Run
import EventScript.Proofs.Persistence.Stay
import EventScript.Proofs.Persistence.Store
import EventScript.Proofs.Player.Capacity
import EventScript.Proofs.Player.Experience
import EventScript.Proofs.Player.Inventory
import EventScript.Proofs.Player.Names
import EventScript.Proofs.Player.Record
import EventScript.Proofs.Player.Refund
import EventScript.Proofs.Player.Vitals
import EventScript.Proofs.Quest.Progress
import EventScript.Proofs.Quest.Requirement
import EventScript.Proofs.Scene.Backdrop
import EventScript.Proofs.Scene.Facing
import EventScript.Proofs.Scene.Handling
import EventScript.Proofs.Scene.Parts
import EventScript.Proofs.Scene.Prompts
import EventScript.Proofs.Scene.Reserve
import EventScript.Proofs.Scheduler.Accounting
import EventScript.Proofs.Scheduler.Clones
import EventScript.Proofs.Scheduler.Course
import EventScript.Proofs.Scheduler.Departure
import EventScript.Proofs.Scheduler.Holds
import EventScript.Proofs.Scheduler.Instances
import EventScript.Proofs.Scheduler.Isolation
import EventScript.Proofs.Scheduler.Npcs
import EventScript.Proofs.Scheduler.Operation
import EventScript.Proofs.Scheduler.Progress
import EventScript.Proofs.Scheduler.Requests
import EventScript.Proofs.Scheduler.Routes
import EventScript.Proofs.Scheduler.Sound
import EventScript.Proofs.Scheduler.Stints
import EventScript.Proofs.Storage.FileTree
import EventScript.Proofs.Storage.Names
import EventScript.Proofs.Storage.PageFiles
import EventScript.Proofs.Storage.Pages
import EventScript.Proofs.Storage.Records
import EventScript.Proofs.Storage.Roots
import EventScript.Proofs.Table
import EventScript.Proofs.Template
import EventScript.Proofs.Template.Reading
import EventScript.Proofs.Turn.Act
import EventScript.Proofs.Turn.Deed
import EventScript.Proofs.Turn.Fault
import EventScript.Proofs.Turn.Input
import EventScript.Proofs.Turn.Others
import EventScript.Proofs.Turn.Player
import EventScript.Proofs.Turn.Prompts
import EventScript.Proofs.Turn.Release
import EventScript.Proofs.Turn.Routes
import EventScript.Proofs.Turn.Step
import EventScript.Proofs.Turn.Waiting
import EventScript.Proofs.Turn.Walk
import EventScript.Proofs.Variable.Arithmetic
import EventScript.Proofs.Variable.Change
import EventScript.Proofs.Variable.Spelling
import EventScript.Proofs.Variable.Typing
import EventScript.Response
import EventScript.Scene.Basic
import EventScript.Scene.Character
import EventScript.Scene.Client
import EventScript.Scene.Execute
import EventScript.Scene.Flow
import EventScript.Scene.Item
import EventScript.Scene.Naming
import EventScript.Scene.Place
import EventScript.Scene.Quest
import EventScript.Scheduler
import EventScript.Snapshot
import EventScript.Stat
import EventScript.Storage.Document
import EventScript.Storage.Error
import EventScript.Storage.FileTree
import EventScript.Storage.Pages
import EventScript.Storage.Records
import EventScript.Table
import EventScript.Template
import EventScript.Text.Alphanumeric
import EventScript.Text.Blank
import EventScript.Text.Case
import EventScript.Text.Decimal
import EventScript.Text.Quoted
import EventScript.Text.Search
import EventScript.Turn.Answer
import EventScript.Turn.Step
import EventScript.Variable.Modification
import EventScript.Variable.Operand
import EventScript.Variable.Reading
import EventScript.Variable.Update
import EventScript.Variable.Value
import EventScript.World.Basic
import EventScript.World.Clock
import EventScript.World.Entity
import EventScript.World.Supply
