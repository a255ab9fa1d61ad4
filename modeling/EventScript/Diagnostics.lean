import EventScript.Json.Record
import EventScript.Text.Search

/-!
# Diagnostics

Which log records are kept, and how they are written. A record names the area it comes from; the
areas of the engine are categories that can be switched on and off, and from foreign areas only
warnings and errors are kept.
-/

namespace EventScript

open EventScript.Text FieldReader

/-- How important a log record is. -/
inductive LogLevel where
  | trace | debug | info | warn | error
  deriving DecidableEq

namespace LogLevel

/-- The rank of a level; more important levels have higher ranks. -/
def severity : LogLevel → Nat
  | trace => 0
  | debug => 1
  | info => 2
  | warn => 3
  | error => 4

/-- The word that marks a record of a level. -/
def word : LogLevel → String
  | trace => "TRACE"
  | debug => "DEBUG"
  | info => "INFO"
  | warn => "WARN"
  | error => "ERROR"

end LogLevel

instance : Enumerated LogLevel where
  all := [.trace, .debug, .info, .warn, .error]
  name
    | .trace => "Trace"
    | .debug => "Debug"
    | .info => "Info"
    | .warn => "Warn"
    | .error => "Error"

/-- The areas of the engine that log. -/
inductive DebugCategory where
  | engine | flow | persistence | scheduler | vars
  deriving DecidableEq

/-- The areas are listed in the order of their names. -/
instance : Enumerated DebugCategory where
  all := [.engine, .flow, .persistence, .scheduler, .vars]
  name
    | .engine => "Engine"
    | .flow => "Flow"
    | .persistence => "Persistence"
    | .scheduler => "Scheduler"
    | .vars => "Variables"

namespace DebugCategory

/-- The category of an area of the engine. -/
def ofArea? : String → Option DebugCategory
  | "engine" => some engine
  | "flow" => some flow
  | "variables" => some vars
  | "scheduler" => some scheduler
  | "persistence" => some persistence
  | _ => none

/-- The category of the target of a record, none for a foreign target. The area is what stands
between the name of the engine and the next separator. -/
def ofTarget? (target : String) : Option DebugCategory := do
  let rest ← dropLead? "eventweave::".toList target.toList
  ofArea? (String.ofList (before "::".toList rest))

/-- A list of categories in the order of their names, each once. -/
def normal (categories : List DebugCategory) : List DebugCategory :=
  Enumerated.all.filter categories.contains

end DebugCategory

/-- Where log records go. -/
inductive DebugOutput where
  | stderr
  /-- To the end of a file. -/
  | file (path : String)
  deriving DecidableEq

instance : JsonForm DebugOutput where
  toJson
    | .stderr => .str "Stderr"
    | .file path => .single "File" (toJson path)
  read? m j := do
    match ← j.variant? m with
    | ("Stderr", c) => if c.isEmpty then some .stderr else none
    | ("File", c) => return .file (← c.read?)
    | _ => none

/-- Which records are kept. -/
structure DebugConfig where
  /-- Whether any are. -/
  enabled : Bool
  /-- The least important level that is kept. -/
  level : LogLevel
  /-- Where they go. -/
  output : DebugOutput
  /-- The areas they are kept from. -/
  categories : List DebugCategory
  deriving DecidableEq

instance : JsonForm DebugConfig where
  toJson d := .obj [("enabled", toJson d.enabled), ("level", toJson d.level),
    ("output", toJson d.output), ("categories", toJson d.categories)]
  read? := Json.record? do
    return ⟨← defaulted "enabled" false, ← defaulted "level" .debug, ← defaulted "output" .stderr,
      DebugCategory.normal (← defaulted "categories" [.engine, .flow])⟩

namespace DebugConfig

/-- No records; once enabled, those of the main areas. -/
def standard : DebugConfig := ⟨false, .debug, .stderr, [.engine, .flow]⟩

/-- Keep records from all areas. -/
def allCategories (d : DebugConfig) : DebugConfig := { d with categories := Enumerated.all }

/-- Whether a record is kept. -/
def allows (d : DebugConfig) (target : String) (level : LogLevel) : Bool :=
  d.enabled && decide (d.level.severity ≤ level.severity) &&
    match DebugCategory.ofTarget? target with
    | some category => d.categories.contains category
    | none => decide (LogLevel.warn.severity ≤ level.severity)

end DebugConfig

/-- A record of something that happened. -/
structure LogRecord where
  /-- The area it comes from. -/
  target : String
  /-- How important it is. -/
  level : LogLevel
  /-- What happened. -/
  message : String
  deriving DecidableEq

namespace LogRecord

/-- A text filled up with blanks to ten characters. -/
def padded (s : String) : String := s ++ String.ofList (List.replicate (10 - s.length) ' ')

/-- The line that is written for a record. -/
def line (r : LogRecord) : String :=
  let area := match DebugCategory.ofTarget? r.target with
    | some category => Enumerated.name category
    | none => r.target
  s!"[{r.level.word}] {padded area} {r.message}"

end LogRecord

/-- The text that is written for records, a line for each that is kept. -/
def DebugConfig.transcript (d : DebugConfig) (records : List LogRecord) : String :=
  String.join ((records.filter fun r => d.allows r.target r.level).map fun r => r.line ++ "\n")

end EventScript
