import EventScript.Instance
import EventScript.Text.Search
import EventScript.World.Basic

/-!
# Templates

Texts for players may hold tokens, which are replaced when the text is used. A token starts with a
backslash. A text is read once from left to right, and what a token stands for is not read again.

Some tokens end with a name in braces. Such a token counts only with its closing brace, and it
stays as it is when there is no value of that name.
-/

namespace EventScript

open EventScript.Text

/-- What a script sees: the world, the player it runs for, and its execution if it has one. -/
structure Perspective where
  /-- The world. -/
  world : World
  /-- The player the script runs for. -/
  player : Player
  /-- The execution of the script. -/
  running : Option Instance

/-- The tokens that are a word. -/
inductive WordToken where
  | playerName | guildName | hour | hourOfHalfDay | minute | second | halfDay | onlineCount
  | onlineList | eventName | param | parameters
  deriving DecidableEq

namespace WordToken

/-- The tokens; one that starts with another comes before it. -/
def all : List WordToken :=
  [playerName, guildName, hour, hourOfHalfDay, minute, second, halfDay, onlineCount, onlineList,
    eventName, param, parameters]

/-- How a token is written. -/
def written : WordToken → String
  | playerName => "\\pn"
  | guildName => "\\pg"
  | hour => "\\tmh"
  | hourOfHalfDay => "\\th"
  | minute => "\\tm"
  | second => "\\ts"
  | halfDay => "\\tp"
  | onlineCount => "\\onlinecount"
  | onlineList => "\\onlinelist"
  | eventName => "\\en"
  | param => "\\param"
  | parameters => "\\evtparams"

/-- What a token stands for. -/
def value (v : Perspective) : WordToken → String
  | playerName => v.player.name
  | guildName => ((v.world.guildOf? v.player).map Guild.name).getD ""
  | hour => Decimal.twoDigits v.world.clock.hour
  | hourOfHalfDay => Decimal.render v.world.clock.hourOfHalfDay
  | minute => Decimal.twoDigits v.world.clock.minute
  | second => Decimal.twoDigits v.world.clock.second
  | halfDay => if v.world.clock.isAfternoon then "PM" else "AM"
  | onlineCount => Decimal.render v.world.online.size
  | onlineList => ", ".intercalate (v.world.onlineNames v.player)
  | eventName => (v.running.map Instance.name).getD ""
  | param => (v.running.map Instance.param).getD ""
  | parameters => match v.running with
    | some i => "\n".intercalate (i.parameters.entries.map fun (key, text) => s!"{key}: {text}")
    | none => ""

end WordToken

/-- The tokens that end with a name in braces. -/
inductive BracedToken where
  | variableText (scope : Scope)
  | parameter
  deriving DecidableEq

namespace BracedToken

/-- The tokens; none of them starts with another. -/
def all : List BracedToken :=
  [variableText .player, variableText .server, variableText .guild, variableText .user, parameter]

/-- How a token is written up to and including the opening brace. -/
def written : BracedToken → String
  | variableText .player => "\\pv\x7b"
  | variableText .server => "\\sv\x7b"
  | variableText .guild => "\\gv\x7b"
  | variableText .user => "\\uv\x7b"
  | parameter => "\\evtparam\x7b"

/-- What a token stands for with a name, if there is a value of that name. -/
def value? (v : Perspective) (name : String) : BracedToken → Option String
  | variableText scope => do
    let d ← v.world.catalog.variableByTextId? scope name
    return ((v.world.stored? v.player ⟨scope, d.id⟩).getD (.zero d.dataType)).text
  | parameter => v.running.bind fun i => i.parameters.get? name

end BracedToken

/-- A part of a text. -/
inductive TextPiece where
  | char (c : Char)
  | word (token : WordToken)
  | braced (token : BracedToken) (name : String)
  deriving DecidableEq

namespace TextPiece

/-- How a part is written. -/
def written : TextPiece → String
  | char c => c.toString
  | word token => token.written
  | braced token name => token.written ++ name ++ "\x7d"

/-- What a part stands for. -/
def value (v : Perspective) : TextPiece → String
  | char c => c.toString
  | word token => token.value v
  | braced token name => (token.value? v name).getD (written (braced token name))

/-- The token with a name in braces at the start of a text. -/
def bracedAt? (cs : List Char) : Option TextPiece :=
  BracedToken.all.findSome? fun token => do
    let rest ← dropLead? token.written.toList cs
    let (name, _) ← splitAt? (· == '\x7d') rest
    return braced token (String.ofList name)

/-- The word token at the start of a text. -/
def wordAt? (cs : List Char) : Option TextPiece :=
  (WordToken.all.find? fun token => token.written.toList.isPrefixOf cs).map word

/-- The token at the start of a text. -/
def tokenAt? (cs : List Char) : Option TextPiece := (bracedAt? cs).or (wordAt? cs)

/-- Split a text without its first `skip` characters. -/
def splitFrom : Nat → List Char → List TextPiece
  | _, [] => []
  | skip + 1, _ :: rest => splitFrom skip rest
  | 0, c :: rest =>
    match tokenAt? (c :: rest) with
    | some piece => piece :: splitFrom (piece.written.length - 1) rest
    | none => char c :: splitFrom 0 rest

/-- Split a text into its parts. -/
def split (text : String) : List TextPiece := splitFrom 0 text.toList

end TextPiece

/-- A text with its tokens replaced. -/
def Perspective.expand (v : Perspective) (text : String) : String :=
  String.join ((TextPiece.split text).map (TextPiece.value v))

end EventScript
