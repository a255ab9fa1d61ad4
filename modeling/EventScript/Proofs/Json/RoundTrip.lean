import EventScript.Proofs.Json.Message
import EventScript.Proofs.Json.State
import EventScript.Proofs.Json.Text
import EventScript.Storage.Document

/-!
# Round trips

What is written as JSON is read back: from the value, from its text on one line, and from its text
with a line for everything. All that scripts, clients and stores exchange comes back as it was, but
for what only lasts while a player is loaded.
-/

namespace EventScript

variable {α : Type} [JsonForm α]

/-- A value comes back from its form, and from its text in either layout. -/
structure ComesBackAs (v kept : α) : Prop where
  /-- From its form. -/
  ofJson : ofJson? (toJson v) = some kept
  /-- From its text on one line. -/
  ofCompact : ofText? (toJson v).compact = some kept
  /-- From its text with a line for everything. -/
  ofPretty : ofText? (toJson v).pretty = some kept

/-- Every value of a type comes back with what is kept of it, and what was read comes back as it
was. -/
structure RoundTrips (α : Type) [JsonForm α] (kept : α → α) : Prop where
  /-- What is written comes back with what is kept. -/
  written : ∀ v : α, ComesBackAs v (kept v)
  /-- What was read comes back as it was. -/
  reread : ∀ (j : Json) (v : α), ofJson? j = some v → ComesBackAs v v

/-- What is read from a form that fits is read from its texts, too. -/
theorem ComesBackAs.of_fits {v kept : α} (hfit : (toJson v).fits Json.maxLevels = true)
    (hread : ofJson? (toJson v) = some kept) : ComesBackAs v kept where
  ofJson := hread
  ofCompact := by rw [ofText?, Json.scan?_compact hfit, Option.bind_some, hread]
  ofPretty := by rw [ofText?, Json.scan?_pretty hfit, Option.bind_some, hread]

/-- Values whose lawful forms do not nest too deep come back as they were. -/
theorem RoundTrips.of_lawful [LawfulForm α] (h : LawfulForm.levels α ≤ Json.maxLevels) :
    RoundTrips α id := by
  have hback (v : α) : ComesBackAs v v :=
    .of_fits (Json.fits_toJson v h) (LawfulForm.read?_toJson .direct v)
  exact ⟨hback, fun _ v _ => hback v⟩

/-- A player comes back without activity, and a player who was read has none. -/
theorem Player.roundTrips : RoundTrips Player fun p => { p with activity := .idle } := by
  have hback (p : Player) : ComesBackAs p { p with activity := .idle } :=
    .of_fits (Json.fits_mono (by decide) _ p.fits_toJson) (p.read?_toJson .direct)
  refine ⟨hback, fun j p h => ?_⟩
  have hp := hback p
  rwa [← Player.activity_of_read? h] at hp

/-- All that scripts, clients and stores exchange comes back as it was; a player comes back without
activity. -/
theorem roundTrips_exchanged :
    RoundTrips Command id ∧ RoundTrips Condition id ∧ RoundTrips VariableMod id ∧
    RoundTrips Value id ∧ RoundTrips Trigger id ∧ RoundTrips MoveRoute id ∧ RoundTrips Page id ∧
    RoundTrips PersistedRecord id ∧ RoundTrips Notification id ∧ RoundTrips Response id ∧
    RoundTrips Signal id ∧ RoundTrips UserAccount id ∧ RoundTrips Guild id ∧
    RoundTrips Player fun p => { p with activity := .idle } :=
  ⟨.of_lawful (by decide), .of_lawful (by decide), .of_lawful (by decide),
    .of_lawful (by decide), .of_lawful (by decide), .of_lawful (by decide), .of_lawful (by decide),
    .of_lawful (by decide), .of_lawful (by decide), .of_lawful (by decide), .of_lawful (by decide),
    .of_lawful (by decide), .of_lawful (by decide), Player.roundTrips⟩

end EventScript
