import EventScript.Client
import EventScript.Movement

/-!
# Responses and signals

What can end a suspension: a response of the client that was asked, or a signal of another part of
the game.
-/

namespace EventScript

open FieldReader

/-- The answer of a client. -/
inductive Response where
  /-- A text was read. -/
  | continue
  /-- An option was chosen, counted from zero. -/
  | option (choice : UInt64)
  /-- Something was entered. -/
  | input (text : String)
  /-- Nothing was entered. -/
  | cancel
  | pictureClosed
  | questOffer (accepted : Bool)
  deriving DecidableEq

instance : JsonForm Response where
  toJson
    | .continue => .obj [("type", .str "Continue")]
    | .option choice => .obj [("type", .str "Option"), ("value", toJson choice)]
    | .input text => .obj [("type", .str "Input"), ("value", toJson text)]
    | .cancel => .obj [("type", .str "Cancel")]
    | .pictureClosed => .obj [("type", .str "PictureClosed")]
    | .questOffer accepted =>
      .obj [("type", .str "QuestOffer"), ("value", .obj [("accepted", toJson accepted)])]
  read? m j := do
    match ← j.adjacent? "type" "value" m with
    | ("Continue", c) => if c.isNull then some .continue else none
    | ("Option", c) => return .option (← c.read?)
    | ("Input", c) => return .input (← c.read?)
    | ("Cancel", c) => if c.isNull then some .cancel else none
    | ("PictureClosed", c) => if c.isNull then some .pictureClosed else none
    | ("QuestOffer", c) => c.object? do return .questOffer (← required "accepted")
    | _ => none

/-- Something that happened elsewhere. -/
inductive Signal where
  | routeCompleted (target : RouteTarget)
  | sessionClosed (kind : SessionKind)
  | fadeCompleted
  deriving DecidableEq

instance : JsonForm Signal where
  toJson
    | .routeCompleted target => .single "RouteCompleted" (toJson target)
    | .sessionClosed kind => .single "SessionClosed" (toJson kind)
    | .fadeCompleted => .str "FadeCompleted"
  read? m j := do
    match ← j.variant? m with
    | ("RouteCompleted", c) => return .routeCompleted (← c.read?)
    | ("SessionClosed", c) => return .sessionClosed (← c.read?)
    | ("FadeCompleted", c) => if c.isEmpty then some .fadeCompleted else none
    | _ => none

end EventScript
