import EventScript.Account
import EventScript.Persistence.Record
import EventScript.Proofs.Json.Script

/-!
# The forms of kept state

Accounts, guilds and persisted records have lawful forms. A player is read back with all that the
form holds; what only lasts while a player is loaded starts anew, whatever the player is read from.
-/

namespace EventScript

open FieldReader Json

/-! ## Accounts, guilds and records -/

instance : LawfulForm UserAccount where
  levels := 3
  fits u := by
    refine fits_obj ?_
    simp (disch := decide) [membersFit, fits_toJson]
  read?_toJson _ u :=
    record?_obj <| .bind (.required rfl) <| .bind (.required rfl) <| .bind (.defaulted rfl) <|
      .bind (.defaulted rfl) <| .bind (.defaulted rfl) .pure

instance : LawfulForm Guild where
  levels := 3
  fits g := by
    refine fits_obj ?_
    simp (disch := decide) [membersFit, fits_toJson]
  read?_toJson _ g :=
    record?_obj <| .bind (.required rfl) <| .bind (.required rfl) <| .bind (.required rfl) <|
      .bind (.defaulted rfl) <| .bind (.defaulted rfl) <| .bind (.defaulted rfl) .pure

instance : LawfulForm QuestProgress where
  levels := 1
  fits q := by
    refine fits_obj ?_
    simp (disch := decide) [membersFit, fits_toJson]
  read?_toJson _ q :=
    record?_obj <| .bind (.optional rfl) <| .bind (.required rfl) <| .bind (.required rfl) .pure

/-- A record nests at most two levels. -/
theorem PersistedRecord.fits_toJson (r : PersistedRecord) : (toJson r).fits 2 = true := by
  cases r <;>
  · refine fits_obj ?_
    simp (disch := decide) [membersFit, Json.fits_toJson]

instance : LawfulForm PersistedRecord where
  levels := 2
  fits := PersistedRecord.fits_toJson
  read?_toJson _ r := by
    have hfit := r.fits_toJson
    cases r with
    | serverVariable i v =>
      exact tagged?_obj hfit (by simp) <|
        .bind (.required rfl) <| .bind (.required rfl) .pure
    | guildVariable g i v =>
      exact tagged?_obj hfit (by simp) <|
        .bind (.required rfl) <| .bind (.required rfl) <| .bind (.required rfl) .pure
    | userVariable u i v =>
      exact tagged?_obj hfit (by simp) <|
        .bind (.required rfl) <| .bind (.required rfl) <| .bind (.required rfl) .pure
    | quest p q r =>
      exact tagged?_obj hfit (by simp) <|
        .bind (.required rfl) <| .bind (.required rfl) <| .bind (.required rfl) .pure

/-! ## Players -/

instance : LawfulForm Vitals where
  levels := 1
  fits v := by
    refine itemsFit_iff.mpr ?_
    simp (disch := decide) [fits_toJson]
  read?_toJson m v := by
    change ((read? m (toJson v.health)).bind fun health =>
      (read? m (toJson v.mana)).bind fun mana => some (Vitals.mk health mana)) = some v
    simp only [LawfulForm.read?_toJson, Option.bind_some]

instance : LawfulForm Stats where
  levels := 1
  fits s := by
    refine itemsFit_iff.mpr ?_
    simp (disch := decide) [fits_toJson]
  read?_toJson m s := by
    change ((read? m (toJson s.attack)).bind fun attack =>
      (read? m (toJson s.abilityPower)).bind fun power =>
      (read? m (toJson s.defense)).bind fun defense =>
      (read? m (toJson s.magicResist)).bind fun resist =>
      (read? m (toJson s.speed)).bind fun speed =>
        some (Stats.mk attack power defense resist speed)) = some s
    simp only [LawfulForm.read?_toJson, Option.bind_some]

namespace Player

theorem fits_toJson (p : Player) : (toJson p).fits 3 = true := by
  refine fits_obj ?_
  simp (disch := decide) [membersFit, Json.fits_toJson]

/-- A player is read back without activity. -/
theorem read?_toJson (m : Manner) (p : Player) :
    read? m (toJson p) = some { p with activity := .idle } :=
  record?_obj <| .bind (.required rfl) <| .bind (.required rfl) <| .bind (.required rfl) <|
    .bind (.defaulted rfl) <| .bind (.defaulted rfl) <| .bind (.required rfl) <|
    .bind (.defaulted rfl) <| .bind (.defaulted rfl) <| .bind (.required rfl) <|
    .bind (.required rfl) <| .bind (.defaulted rfl) <| .bind (.required rfl) <|
    .bind (.defaulted rfl) <| .bind (.defaulted rfl) <| .bind (.defaulted rfl) <|
    .bind (.defaulted rfl) <| .bind (.defaulted rfl) <| .bind (.defaulted rfl) <|
    .bind (.defaulted rfl) <| .bind (.defaulted rfl) <| .bind (.required rfl) <|
    .bind (.defaulted rfl) <| .bind (.required rfl) <| .bind (.required rfl) <|
    .bind (.defaulted rfl) <| .bind (.defaulted rfl) <| .bind (.defaulted rfl) <|
    .bind (.defaulted rfl) <| .bind (.defaulted rfl) <| .bind (.defaulted rfl) <|
    .bind (.defaulted rfl) <| .bind (.defaulted rfl) .pure

/-- A player is read without activity, whatever the player is read from. -/
theorem activity_of_read? {m : Manner} {j : Json} {p : Player} (h : read? m j = some p) :
    p.activity = .idle := by
  refine of_record? (P := fun p : Player => p.activity = .idle) ?_ h
  iterate 32 refine .bind fun _ => ?_
  exact .pure rfl

end Player

end EventScript
