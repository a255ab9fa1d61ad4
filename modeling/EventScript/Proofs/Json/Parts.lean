import EventScript.Appearance
import EventScript.Client
import EventScript.Movement
import EventScript.Player.Inventory
import EventScript.Proofs.Json.Record
import EventScript.Stat
import EventScript.Variable.Modification
import EventScript.Variable.Operand

/-!
# The forms of what scripts are made of

Variables and their modifications, colours and labels, places and routes, slots and stats: every one
of them has a lawful form.
-/

namespace EventScript

open FieldReader Json

/-! ## Variables -/

instance : LawfulEnumerated Scope where
  ofName?_name a := by cases a <;> rfl

instance : LawfulEnumerated DataType where
  ofName?_name a := by cases a <;> rfl

instance : LawfulEnumerated Comparator where
  ofName?_name a := by cases a <;> rfl

instance : LawfulEnumerated CombineOp where
  ofName?_name a := by cases a <;> rfl

instance : LawfulForm VariableRef where
  levels := 1
  fits v := by
    refine fits_obj ?_
    simp (disch := decide) [membersFit, fits_toJson]
  read?_toJson _ v := record?_obj <| .bind (.required rfl) <| .bind (.required rfl) .pure

instance : LawfulForm Value where
  levels := 1
  fits v := by
    cases v <;>
    · refine fits_obj ?_
      simp (disch := decide) [membersFit, fits_toJson]
  read?_toJson m v := by
    cases v with
    | boolean b => exact read?_adjacent b fun _ => rfl
    | integer n => exact read?_adjacent n fun _ => rfl
    | string s => exact read?_adjacent s fun _ => rfl

instance {α : Type} [JsonForm α] [LawfulForm α] : LawfulForm (Operand α) where
  levels := max (LawfulForm.levels α) 1 + 1
  fits o := by
    cases o with
    | literal a => exact fits_single (fits_toJson a (Nat.le_max_left _ _))
    | fromVariable v => exact fits_single (fits_toJson v (Nat.le_max_right _ _))
  read?_toJson m o := by
    cases o with
    | literal a => exact read?_single a fun _ => rfl
    | fromVariable v => exact read?_single v fun _ => rfl

instance : LawfulForm Quantity where
  levels := 2
  fits q := by
    cases q with
    | fixed n => exact fits_single (fits_toJson n (by decide))
    | fromVariable v => exact fits_single (fits_toJson v (by decide))
  read?_toJson m q := by
    cases q with
    | fixed n => exact read?_single n fun _ => rfl
    | fromVariable v => exact read?_single v fun _ => rfl

instance : LawfulForm BooleanMod where
  levels := 2
  fits op := by
    cases op with
    | set b => exact fits_single (fits_toJson b (by decide))
    | duplicate v => exact fits_single (fits_toJson v (by decide))
  read?_toJson m op := by
    cases op with
    | set b => exact read?_single b fun _ => rfl
    | duplicate v => exact read?_single v fun _ => rfl

instance : LawfulForm IntegerMod where
  levels := 3
  fits op := by
    cases op with
    | random low high =>
      refine fits_single (fits_obj ?_)
      simp (disch := decide) [membersFit, fits_toJson]
    | combine op source =>
      refine fits_single (fits_obj ?_)
      simp (disch := decide) [membersFit, fits_toJson]
    | systemTime => exact fits_str _ _
    | _ n => exact fits_single (fits_toJson n (by decide))
  read?_toJson m op := by
    cases op with
    | set n => exact read?_single n fun _ => rfl
    | add n => exact read?_single n fun _ => rfl
    | subtract n => exact read?_single n fun _ => rfl
    | multiply n => exact read?_single n fun _ => rfl
    | divide n => exact read?_single n fun _ => rfl
    | leftShift n => exact read?_single n fun _ => rfl
    | rightShift n => exact read?_single n fun _ => rfl
    | random low high =>
      exact Content.fields?_obj <| .bind (.required rfl) <| .bind (.required rfl) .pure
    | systemTime => rfl
    | combine op source =>
      exact Content.fields?_obj <| .bind (.required rfl) <| .bind (.required rfl) .pure

instance : LawfulForm StringMod where
  levels := 2
  fits op := by
    cases op with
    | set text => exact fits_single (fits_toJson text (by decide))
    | replace find replace =>
      refine fits_single (fits_obj ?_)
      simp (disch := decide) [membersFit, fits_toJson]
  read?_toJson m op := by
    cases op with
    | set text => exact read?_single text fun _ => rfl
    | replace find replace =>
      exact Content.fields?_obj <| .bind (.required rfl) <| .bind (.required rfl) .pure

instance : LawfulForm VariableMod where
  levels := 4
  fits op := by
    cases op <;>
    · refine fits_obj ?_
      simp (disch := decide) [membersFit, fits_toJson]
  read?_toJson m op := by
    cases op with
    | boolean op => exact read?_adjacent op fun _ => rfl
    | integer op => exact read?_adjacent op fun _ => rfl
    | string op => exact read?_adjacent op fun _ => rfl

/-! ## Appearance -/

instance : LawfulEnumerated LabelPosition where
  ofName?_name a := by cases a <;> rfl

instance : LawfulEnumerated Gender where
  ofName?_name a := by cases a <;> rfl

instance : LawfulForm Color where
  levels := 1
  fits c := by
    refine fits_obj ?_
    simp (disch := decide) [membersFit, fits_toJson]
  read?_toJson _ c :=
    record?_obj <| .bind (.required rfl) <| .bind (.required rfl) <| .bind (.required rfl) <|
      .bind (.required rfl) .pure

instance : NonnullForm Color where
  toJson_ne_null _ := Json.noConfusion

instance : LawfulForm EntityLabel where
  levels := 2
  fits l := by
    refine fits_obj ?_
    simp (disch := decide) [membersFit, fits_toJson]
  read?_toJson _ l := record?_obj <| .bind (.required rfl) <| .bind (.required rfl) .pure

/-! ## Places and movement -/

instance : LawfulEnumerated Direction where
  ofName?_name a := by cases a <;> rfl

instance : LawfulEnumerated MapInstanceType where
  ofName?_name a := by cases a <;> rfl

instance : LawfulForm WarpDirection where
  levels := 1
  fits d := by
    cases d with
    | retain => exact fits_str _ _
    | face d => exact fits_single (fits_toJson d (by decide))
  read?_toJson m d := by
    cases d with
    | retain => rfl
    | face d => exact read?_single d fun _ => rfl

instance : LawfulForm RouteEntity where
  levels := 1
  fits e := by
    cases e with
    | player i => exact fits_single (fits_toJson i (by decide))
    | event i => exact fits_single (fits_toJson i (by decide))
  read?_toJson m e := by
    cases e with
    | player i => exact read?_single i fun _ => rfl
    | event i => exact read?_single i fun _ => rfl

instance : NonnullForm RouteEntity where
  toJson_ne_null e := by cases e <;> exact Json.noConfusion

instance : LawfulForm RouteTarget where
  levels := 2
  fits t := by
    refine fits_obj ?_
    simp (disch := decide) [membersFit, fits_toJson]
  read?_toJson _ t := record?_obj <| .bind (.required rfl) <| .bind (.required rfl) .pure

instance : LawfulForm MoveStep where
  levels := 1
  fits s := by
    cases s with
    | move d => exact fits_single (fits_toJson d (by decide))
    | turn d => exact fits_single (fits_toJson d (by decide))
    | wait t => exact fits_single (fits_toJson t (by decide))
  read?_toJson m s := by
    cases s with
    | move d => exact read?_single d fun _ => rfl
    | turn d => exact read?_single d fun _ => rfl
    | wait t => exact read?_single t fun _ => rfl

instance : LawfulForm MoveRoute where
  levels := 3
  fits r := by
    refine fits_obj ?_
    simp (disch := decide) [membersFit, fits_toJson]
  read?_toJson _ r :=
    record?_obj <| .bind (.required rfl) <| .bind (.required rfl) <| .bind (.required rfl) <|
      .bind (.required rfl) .pure

instance : LawfulForm SpawnTarget where
  levels := 2
  fits t := by
    cases t <;>
    · refine fits_single (fits_obj ?_)
      simp (disch := decide) [membersFit, fits_toJson]
  read?_toJson m t := by
    cases t with
    | tile map x y dir =>
      exact Content.fields?_obj <| .bind (.required rfl) <| .bind (.required rfl) <|
        .bind (.required rfl) <| .bind (.required rfl) .pure
    | relative event dx dy relativeToFacing =>
      exact Content.fields?_obj <| .bind (.optional rfl) <| .bind (.required rfl) <|
        .bind (.required rfl) <| .bind (.required rfl) .pure

/-! ## Clients, slots and stats -/

instance : LawfulEnumerated ChatChannel where
  ofName?_name a := by cases a <;> rfl

instance : LawfulEnumerated ChatMessageKind where
  ofName?_name a := by cases a <;> rfl

instance : LawfulEnumerated SessionKind where
  ofName?_name a := by cases a <;> rfl

instance : LawfulEnumerated FadeType where
  ofName?_name a := by cases a <;> rfl

instance : LawfulEnumerated Stat where
  ofName?_name a := by cases a <;> rfl

instance : LawfulForm InventorySlot where
  levels := 1
  fits s := by
    refine fits_obj ?_
    simp (disch := decide) [membersFit, fits_toJson]
  read?_toJson _ s := record?_obj <| .bind (.required rfl) <| .bind (.required rfl) .pure

instance : NonnullForm InventorySlot where
  toJson_ne_null _ := Json.noConfusion

end EventScript
