import EventScript.Json.Form

/-!
# What clients show

Chat channels, blocking sessions and screen fades.
-/

namespace EventScript

/-- The channel a script writes chat to. -/
inductive ChatChannel where
  | player | nearby | everyone | party | guild
  deriving DecidableEq

instance : Enumerated ChatChannel where
  all := [.player, .nearby, .everyone, .party, .guild]
  name
    | .player => "Player"
    | .nearby => "Local"
    | .everyone => "Global"
    | .party => "Party"
    | .guild => "Guild"

/-- How a client marks a chat message. -/
inductive ChatMessageKind where
  | notice | nearby | everyone | party | guild | error
  deriving DecidableEq

instance : Enumerated ChatMessageKind where
  all := [.notice, .nearby, .everyone, .party, .guild, .error]
  name
    | .notice => "Notice"
    | .nearby => "Local"
    | .everyone => "Global"
    | .party => "Party"
    | .guild => "Guild"
    | .error => "Error"

/-- A window that blocks a script until the client closes it. -/
inductive SessionKind where
  | bank | shop | crafting
  deriving DecidableEq

instance : Enumerated SessionKind where
  all := [.bank, .shop, .crafting]
  name
    | .bank => "Bank"
    | .shop => "Shop"
    | .crafting => "Crafting"

/-- A fade of the whole screen. -/
inductive FadeType where
  | fadeIn | fadeOut
  deriving DecidableEq

instance : Enumerated FadeType where
  all := [.fadeIn, .fadeOut]
  name
    | .fadeIn => "FadeIn"
    | .fadeOut => "FadeOut"

end EventScript
