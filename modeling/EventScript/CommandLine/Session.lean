import EventScript.CommandLine.Arguments
import EventScript.CommandLine.Play
import EventScript.CommandLine.Report
import EventScript.Storage.Document

/-!
# Sessions of the program

What the program does with its arguments, over any way to access files. It is done at once, or it is
a run that the host drives.
-/

namespace EventScript.CommandLine

/-- What the program leaves behind when it is done. -/
structure Ending where
  /-- What it prints. -/
  output : String
  /-- What it prints about errors. -/
  errors : String
  /-- Its exit code, none if it is killed before it has one. -/
  code : Option UInt8
  deriving DecidableEq

namespace Ending

/-- The end of a program that failed. -/
def failure (message : String) : Ending := ⟨"", s!"Error: {message}\n", some 1⟩

/-- The end of a program whose arguments are not clear. -/
def misuse (e : UsageError) : Ending :=
  ⟨unlines usage, (e.message?.map fun message => s!"Error: {message}\n\n").getD "", some 1⟩

/-- The end of a run that cannot go on at all. Questions without an end use up the stack, and the
program is killed. -/
def fault : Fault → Ending
  | .negativeMaximum .. => ⟨"", "", some 101⟩
  | .endlessRequirement _ => ⟨"", "", none⟩

end Ending

/-- How files are accessed. -/
structure Files (m : Type → Type) where
  /-- Read a file. -/
  read : String → m (Except FileError String)
  /-- Open a file to write at its end. -/
  openLog : String → m (Except FileError Unit)

/-- What the program comes to. -/
inductive Session where
  | ended (ending : Ending)
  /-- A run of a page, before its first pass. -/
  | playing (page : Page) (play : Play)

/-- Check a page. -/
def checkPage (path : String) (content : Except FileError String) : Ending :=
  match Page.ofFile path content with
  | .error e => .failure e.message
  | .ok page => ⟨unlines (reportLines page), "", some (if page.analyze.hasErrors then 2 else 0)⟩

/-- The configuration of a run, from a file if one is named, and from the environment. -/
def configOf {m : Type → Type} [Monad m] (files : Files m) (a : PlayArguments)
    (env : Environment) : m (Except ConfigError EngineConfig) := do
  let base : Except ConfigError EngineConfig ← match a.config with
    | some path => do pure (EngineConfig.ofFile path (← files.read path))
    | none => pure (.ok {})
  return base.bind fun c => (c.applyEnvironment env).map fun c =>
    if a.debug then { c with debug := { c.debug.allCategories with enabled := true } } else c

/-- The catalog of a run, from a file if one is named. -/
def catalogOf {m : Type → Type} [Monad m] (files : Files m) (a : PlayArguments) :
    m (Except StorageError Catalog) :=
  match a.descriptors with
  | some path => do return (DescriptorSet.ofFile path (← files.read path)).map DescriptorSet.catalog
  | none => pure (.ok .empty)

/-- Open the file that log records go to, if they go to one. -/
def openLogOf {m : Type → Type} [Monad m] (files : Files m) (c : EngineConfig) :
    m (Except FileError Unit) :=
  match c.debug.output with
  | .stderr => pure (.ok ())
  | .file path => files.openLog path

/-- Get ready to play a page. -/
def startPlay {m : Type → Type} [Monad m] (files : Files m) (a : PlayArguments)
    (env : Environment) (clock : Clock) (supply : Supply) : m Session := do
  match ← configOf files a env with
  | .error e => return .ended (.failure e.fullMessage)
  | .ok config =>
    match ← openLogOf files config with
    | .error e => return .ended (.failure e.message)
    | .ok () =>
      match Page.ofFile a.page (← files.read a.page) with
      | .error e => return .ended (.failure e.message)
      | .ok page =>
        match ← catalogOf files a with
        | .error e => return .ended (.failure e.message)
        | .ok catalog =>
          return .playing page (.start page catalog config a.debug clock supply)

/-- Do what the arguments ask for. -/
def session {m : Type → Type} [Monad m] (files : Files m) (arguments : List String)
    (env : Environment) (clock : Clock) (supply : Supply) : m Session := do
  match Task.ofArguments arguments with
  | .error e => return .ended (.misuse e)
  | .ok .help => return .ended ⟨unlines usage, "", some 0⟩
  | .ok (.check path) => return .ended (checkPage path (← files.read path))
  | .ok (.play a) => startPlay files a env clock supply

end EventScript.CommandLine
