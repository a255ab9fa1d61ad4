import EventScript.Notification
import EventScript.Proofs.Json.Parts
import EventScript.Response

/-!
# The forms of messages

Notifications, responses and signals have lawful forms.
-/

namespace EventScript

open FieldReader Json

instance : LawfulEnumerated EntityChange where
  ofName?_name a := by cases a <;> rfl

namespace Notification

/-- The reader of a kind of notification takes its fields from the members they are written as. -/
theorem reads_fields {n : Notification} {fields : List (String × Json)}
    (h : n.fields? = some fields) (m : Manner) : (reader n.kindName).Reads m fields n := by
  cases n with
  | fadeMusic | stopSounds | hidePicture => cases h
  | playMusic | playSound | releasePlayer =>
    cases h
    exact .bind (.required rfl) .pure
  | entityUpdate | moveRouteToggle | holdPlayer | questOffer =>
    cases h
    exact .bind (.required rfl) <| .bind (.required rfl) .pure
  | showText | chatBubble | screenFade | openSession =>
    cases h
    exact .bind (.required rfl) <| .bind (.required rfl) <| .bind (.required rfl) .pure
  | showOptions | inputVariable =>
    cases h
    exact .bind (.required rfl) <| .bind (.required rfl) <| .bind (.required rfl) <|
      .bind (.required rfl) .pure
  | chatMessage =>
    cases h
    exact .bind (.required rfl) <| .bind (.required rfl) <| .bind (.required rfl) <|
      .bind (.optional rfl) .pure
  | showPicture =>
    cases h
    exact .bind (.required rfl) <| .bind (.required rfl) <| .bind (.required rfl) <|
      .bind (.required rfl) <| .bind (.optional rfl) .pure
  | animation =>
    cases h
    exact .bind (.required rfl) <| .bind (.optional rfl) <| .bind (.required rfl) <|
      .bind (.required rfl) <| .bind (.required rfl) <| .bind (.required rfl) .pure
  | warp =>
    cases h
    exact .bind (.required rfl) <| .bind (.required rfl) <| .bind (.required rfl) <|
      .bind (.required rfl) <| .bind (.required rfl) .pure

end Notification

instance : LawfulForm Notification where
  levels := 3
  fits n := by
    refine fits_obj ?_
    cases n <;> simp (disch := decide) [Notification.fields?, membersFit, fits, fits_toJson]
  read?_toJson m n := by
    cases n with
    | fadeMusic | stopSounds | hidePicture => rfl
    | _ => exact read?_adjacentFields (fun _ => rfl) (Notification.reads_fields rfl m)

instance : LawfulForm Response where
  levels := 2
  fits r := by
    cases r with
    | «continue» | cancel | pictureClosed => exact fits_obj rfl
    | _ =>
      refine fits_obj ?_
      simp (disch := decide) [membersFit, fits, fits_toJson]
  read?_toJson m r := by
    cases r with
    | «continue» | cancel | pictureClosed => rfl
    | option choice => exact read?_adjacent choice fun _ => rfl
    | input text => exact read?_adjacent text fun _ => rfl
    | questOffer accepted =>
      exact read?_adjacentFields (fun _ => rfl) <| .bind (.required rfl) .pure

instance : LawfulForm Signal where
  levels := 3
  fits s := by
    cases s with
    | routeCompleted target => exact fits_single (fits_toJson target (by decide))
    | sessionClosed kind => exact fits_single (fits_toJson kind (by decide))
    | fadeCompleted => exact fits_str _ _
  read?_toJson m s := by
    cases s with
    | routeCompleted target => exact read?_single target fun _ => rfl
    | sessionClosed kind => exact read?_single kind fun _ => rfl
    | fadeCompleted => rfl

end EventScript
