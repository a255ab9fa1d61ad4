import EventScript.Json.Record

/-!
# Appearance

Colours, labels and the other things that make up the look of a player.
-/

namespace EventScript

open FieldReader

/-- A colour with an alpha channel. -/
structure Color where
  /-- Red. -/
  r : UInt8
  /-- Green. -/
  g : UInt8
  /-- Blue. -/
  b : UInt8
  /-- Opacity. -/
  a : UInt8
  deriving DecidableEq

namespace Color

/-- No colour at all; clients use the colour of the name instead. -/
def transparent : Color := ⟨0, 0, 0, 0⟩

/-- The colour of players by default. -/
def white : Color := ⟨255, 255, 255, 255⟩

/-- The colour of refusals. -/
def red : Color := ⟨255, 0, 0, 255⟩

/-- The colour of good news. -/
def green : Color := ⟨0, 200, 0, 255⟩

end Color

instance : JsonForm Color where
  toJson c := .obj [("r", toJson c.r), ("g", toJson c.g), ("b", toJson c.b), ("a", toJson c.a)]
  read? := Json.record? do
    return ⟨← required "r", ← required "g", ← required "b", ← required "a"⟩

/-- A text above or below the name of a player. -/
structure EntityLabel where
  /-- The text. -/
  text : String
  /-- Its colour. -/
  color : Color
  deriving DecidableEq

/-- The label of a player who has none. -/
def EntityLabel.blank : EntityLabel := ⟨"", .transparent⟩

instance : JsonForm EntityLabel where
  toJson l := .obj [("text", toJson l.text), ("color", toJson l.color)]
  read? := Json.record? do return ⟨← required "text", ← required "color"⟩

/-- Which of the two labels of a player. -/
inductive LabelPosition where
  | header | footer
  deriving DecidableEq

instance : Enumerated LabelPosition where
  all := [.header, .footer]
  name
    | .header => "Header"
    | .footer => "Footer"

/-- The gender of a player. -/
inductive Gender where
  | male | female
  deriving DecidableEq

instance : Enumerated Gender where
  all := [.male, .female]
  name
    | .male => "Male"
    | .female => "Female"

end EventScript
