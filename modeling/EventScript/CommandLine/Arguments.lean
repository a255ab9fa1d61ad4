import EventScript.Text.Search

/-!
# Arguments

What the command line asks for. A page can be played or checked; whatever else is asked for is
answered with the usage.
-/

namespace EventScript.CommandLine

/-- How a page is to be played. -/
structure PlayArguments where
  /-- The file of the page. -/
  page : String
  /-- The file of the descriptors. -/
  descriptors : Option String
  /-- The file of the configuration. -/
  config : Option String
  /-- Whether to show the state of the executions and to log. -/
  debug : Bool
  deriving DecidableEq

/-- What is to be done. -/
inductive Task where
  | help
  | check (page : String)
  | play (arguments : PlayArguments)
  deriving DecidableEq

/-- Why it is not clear what is to be done. -/
inductive UsageError where
  | noCommand
  | unknownCommand (command : String)
  | missingPage
  | secondPage
  | missingFile (option : String)
  | unknownOption (option : String)
  deriving DecidableEq

/-- The text of an error; a command line without arguments is not answered with one. -/
def UsageError.message? : UsageError → Option String
  | noCommand => none
  | unknownCommand command => some ("Unknown command '" ++ command ++ "'")
  | missingPage => some "Missing page file path"
  | secondPage => some "Only one page file can be played"
  | missingFile option => some s!"{option} needs a file"
  | unknownOption option => some ("Unknown option '" ++ option ++ "'")

/-- What is known about how a page is to be played. -/
structure PlayDraft where
  /-- The file of the page. -/
  page : Option String
  /-- The file of the descriptors. -/
  descriptors : Option String
  /-- The file of the configuration. -/
  config : Option String
  /-- Whether to show the state of the executions and to log. -/
  debug : Bool

/-- Read how a page is to be played. Of an option that is given twice the last one counts. -/
def readPlay (draft : PlayDraft) : List String → Except UsageError PlayArguments
  | [] =>
    match draft.page with
    | some page => .ok ⟨page, draft.descriptors, draft.config, draft.debug⟩
    | none => .error .missingPage
  | "--descriptors" :: path :: rest => readPlay { draft with descriptors := some path } rest
  | "--config" :: path :: rest => readPlay { draft with config := some path } rest
  | ["--descriptors"] => .error (.missingFile "--descriptors")
  | ["--config"] => .error (.missingFile "--config")
  | "--debug" :: rest => readPlay { draft with debug := true } rest
  | other :: rest =>
    if "--".toList.isPrefixOf other.toList then .error (.unknownOption other)
    else if draft.page.isSome then .error .secondPage
    else readPlay { draft with page := some other } rest

/-- Read what is to be done. -/
def Task.ofArguments : List String → Except UsageError Task
  | [] => .error .noCommand
  | "play" :: rest => (readPlay ⟨none, none, none, false⟩ rest).map .play
  | ["check"] => .error .missingPage
  | "check" :: page :: _ => .ok (.check page)
  | "--help" :: _ => .ok .help
  | "-h" :: _ => .ok .help
  | command :: _ => .error (.unknownCommand command)

/-- How the program is used. -/
def usage : List String :=
  ["eventweave - Event script runtime",
    "",
    "USAGE:",
    "    eventweave play <page.json> [--descriptors <file>] [--config <file>] [--debug]",
    "    eventweave check <page.json>",
    "",
    "COMMANDS:",
    "    play <file>     Run a page interactively for one player",
    "    check <file>    Report labels, unreachable lists and broken jumps",
    "    --help, -h      Show this help message",
    "",
    "OPTIONS:",
    "    --descriptors <file>    Descriptor tables (items, quests, variables, ...)",
    "    --config <file>         Engine configuration",
    "    --debug                 Show instance state and debug logs",
    "",
    "ENVIRONMENT:",
    "    EVENTWEAVE_DEBUG               Enable debug logging",
    "    EVENTWEAVE_COMMANDS_PER_TICK   Commands per instance per tick"]

end EventScript.CommandLine
