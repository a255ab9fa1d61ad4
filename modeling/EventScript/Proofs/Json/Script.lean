import EventScript.Descriptor.Basic
import EventScript.Proofs.Json.Parts

/-!
# The forms of scripts

Conditions, commands, pages and triggers have lawful forms. Of a command or the kind of a condition,
the reader of its name takes every field from the members it is written with.
-/

namespace EventScript

open FieldReader Json

/-! ## Conditions -/

instance : LawfulEnumerated Access where
  ofName?_name a := by cases a <;> rfl

instance : LawfulForm VariableComparison where
  levels := 4
  fits c := by
    cases c with
    | boolean equal value =>
      refine fits_single (fits_obj ?_)
      simp (disch := decide) [membersFit, fits_toJson]
    | integer comparator value =>
      refine fits_single (fits_obj ?_)
      simp (disch := decide) [membersFit, fits_toJson]
    | stringEquals text => exact fits_single (fits_toJson text (by decide))
    | stringContains text => exact fits_single (fits_toJson text (by decide))
  read?_toJson m c := by
    cases c with
    | boolean equal value =>
      exact Content.fields?_obj <| .bind (.required rfl) <| .bind (.required rfl) .pure
    | integer comparator value =>
      exact Content.fields?_obj <| .bind (.required rfl) <| .bind (.required rfl) .pure
    | stringEquals text => exact read?_single text fun _ => rfl
    | stringContains text => exact read?_single text fun _ => rfl

instance : LawfulForm LevelOrStat where
  levels := 1
  fits t := by
    cases t with
    | level => exact fits_str _ _
    | stat s => exact fits_single (fits_toJson s (by decide))
  read?_toJson m t := by
    cases t with
    | level => rfl
    | stat s => exact read?_single s fun _ => rfl

namespace ConditionKind

/-- The name of a kind. -/
def name (kind : ConditionKind) : String :=
  match kind.members with
  | (_, .str s) :: _ => s
  | _ => ""

/-- The members behind the one with the name. -/
def fields (kind : ConditionKind) : List (String × Json) := kind.members.tail

/-- The name of a kind stands in front of its fields. -/
theorem members_eq (kind : ConditionKind) :
    kind.members = ("kind", .str kind.name) :: kind.fields := by
  cases kind <;> rfl

/-- No field is called as the tag or as one of the flags of a condition. -/
theorem not_mem_names_of_mem_fields (kind : ConditionKind) :
    ∀ e ∈ kind.fields, e.1 ∉ ["kind", "negated", "else_enabled"] := by
  cases kind <;> simp [fields, members]

/-- The fields of a kind nest at most four levels. -/
theorem membersFit_fields (kind : ConditionKind) : membersFit 4 kind.fields = true := by
  cases kind <;> simp (disch := decide) [fields, members, membersFit, fits_toJson]

/-- A member that is not called as the tag stands as it is spelled. -/
theorem spelled_of_ne {e : String × Json} (h : e.1 ≠ "kind") : spelled e = e := by
  unfold spelled
  split
  · exact absurd rfl h
  · rfl

end ConditionKind

namespace Condition

/-- The members that tell which answer is wanted and what follows from the other one. -/
def flags (c : Condition) : List (String × Json) :=
  [("negated", toJson c.negated), ("else_enabled", toJson c.elseEnabled)]

/-- The members behind the one with the name of the kind. -/
def rest (c : Condition) : List (String × Json) := c.kind.fields ++ c.flags

/-- A condition is written as the name of its kind and what stands behind it. -/
theorem toJson_eq (c : Condition) : toJson c = .obj (("kind", .str c.kind.name) :: c.rest) := by
  change Json.obj (c.kind.members ++ _) = _
  rw [ConditionKind.members_eq]
  rfl

/-- The members nest at most four levels. -/
theorem membersFit_rest (c : Condition) : membersFit 4 c.rest = true := by
  refine membersFit_iff.mpr fun e he => ?_
  rcases List.mem_append.mp he with hfield | hflag
  · exact membersFit_iff.mp c.kind.membersFit_fields e hfield
  · have hflags : membersFit 4 c.flags = true := by
      simp (disch := decide) [flags, membersFit, fits_toJson]
    exact membersFit_iff.mp hflags e hflag

/-- No member behind the first one is called as the tag. -/
theorem ne_kind_of_mem_rest (c : Condition) : ∀ e ∈ c.rest, e.1 ≠ "kind" := by
  intro e he heq
  rcases List.mem_append.mp he with hfield | hflag
  · exact c.kind.not_mem_names_of_mem_fields e hfield (by simp [heq])
  · simp only [flags, List.mem_cons, List.not_mem_nil, or_false] at hflag
    rcases hflag with rfl | rfl
    · simp at heq
    · simp at heq

/-- The reader of the kind takes its fields from among all members. -/
theorem reads_kind (c : Condition) (m : Manner) :
    (ConditionKind.reader c.kind.name).Reads m c.rest c.kind := by
  obtain ⟨kind, negated, elseEnabled⟩ := c
  cases kind with
  | inGuild => exact .pure
  | classIs | knowsSpell | accessIs | canStartQuest | questCompleted | genderIs | mapIs
  | isItemEquipped | hasFreeInventorySlots => exact .bind (.required rfl) .pure
  | variableIs | hasItem | selfSwitch | timeBetween =>
    exact .bind (.required rfl) <| .bind (.required rfl) .pure
  | levelOrStat =>
    exact .bind (.required rfl) <| .bind (.required rfl) <| .bind (.required rfl) .pure
  | questInProgress => exact .bind (.required rfl) <| .bind (.defaulted rfl) .pure

/-- A flag is taken from behind the fields of the kind. -/
theorem take?_rest (c : Condition) {name : String} {flag : Json}
    (hname : name ∈ ["kind", "negated", "else_enabled"])
    (hflag : (Fields.named c.flags).take? name = some (some flag, .named c.flags)) :
    (Fields.named c.rest).take? name = some (some flag, .named c.rest) := by
  refine Fields.take?_append (fun e he heq => ?_) hflag
  exact c.kind.not_mem_names_of_mem_fields e he (heq ▸ hname)

/-- The members of a condition are spelled as they stand. -/
theorem map_spelled (c : Condition) :
    (("kind", .str c.kind.name) :: c.rest).map ConditionKind.spelled =
      ("kind", .str c.kind.name) :: c.rest := by
  have hrest : c.rest.map ConditionKind.spelled = c.rest.map id :=
    List.map_congr_left fun e he => ConditionKind.spelled_of_ne (c.ne_kind_of_mem_rest e he)
  rw [List.map_cons, hrest, List.map_id]
  rfl

/-- A condition nests at most five levels. -/
theorem fits_members (c : Condition) :
    (obj (("kind", .str c.kind.name) :: c.rest)).fits 5 = true := by
  refine fits_obj ?_
  simp [membersFit, c.membersFit_rest]

end Condition

instance : LawfulForm Condition where
  levels := 5
  fits c := by
    rw [Condition.toJson_eq]
    exact c.fits_members
  read?_toJson m c := by
    rw [Condition.toJson_eq]
    change tagged? "kind" _ (.obj (List.map _ _)) = _
    rw [c.map_spelled]
    refine tagged?_obj c.fits_members c.ne_kind_of_mem_rest ?_
    exact .bind (c.reads_kind .setAside) <|
      .bind (.defaulted (c.take?_rest (by simp) rfl)) <|
      .bind (.defaulted (c.take?_rest (by simp) rfl)) .pure

/-! ## Commands -/

instance : LawfulEnumerated ItemHandling where
  ofName?_name a := by cases a <;> rfl

namespace Command

/-- No field is called by the name of the tag. -/
theorem ne_type_of_mem_fields (c : Command) : ∀ e ∈ c.fields, e.1 ≠ "type" := by
  cases c <;> simp [fields]

/-- The fields of a command nest at most five levels. -/
theorem membersFit_fields (c : Command) : membersFit 5 c.fields = true := by
  cases c <;> simp (disch := decide) [fields, membersFit, Json.fits_toJson]

/-- The reader of a kind of command takes its fields from the members they are written as. -/
theorem reads_fields (c : Command) (m : Manner) : (reader c.kindName).Reads m c.fields c := by
  cases c with
  | exitEventProcessing | levelUp | despawnNpcs | holdPlayer | releasePlayer | hidePlayer
  | showPlayer | fadeoutBgm | stopSounds | hidePicture | openBank | openGuildBank
  | resetStatPointAllocations | unsupported => exact .pure
  | label | goToLabel | restoreHp | restoreMp | changeLevel | changeSprite | changeFace
  | changeGender | changePlayerColor | setAccess | setMoveRoute | waitForRoute | playBgm
  | playSound | wait | openShop | setClass | disbandGuild | setGuildBankSlots =>
    exact .bind (.required rfl) .pure
  | setSelfSwitch | conditionalBranch | spawnNpc | completeQuestTask | changeName | createGuild =>
    exact .bind (.required rfl) <| .bind (.required rfl) .pure
  | showText | giveExperience | openCraftingTable | endQuest =>
    exact .bind (.required rfl) <| .bind (.defaulted rfl) .pure
  | setVariable | playAnimation =>
    exact .bind (.required rfl) <| .bind (.required rfl) <| .bind (.defaulted rfl) .pure
  | startCommonEvent | changeNameColor =>
    exact .bind (.required rfl) <| .bind (.defaulted rfl) <| .bind (.defaulted rfl) .pure
  | startQuest | screenFade =>
    exact .bind (.required rfl) <| .bind (.defaulted rfl) <| .bind (.required rfl) .pure
  | showOptions =>
    exact .bind (.required rfl) <| .bind (.defaulted rfl) <| .bind (.required rfl) <|
      .bind (.required rfl) .pure
  | inputVariable =>
    exact .bind (.required rfl) <| .bind (.required rfl) <| .bind (.required rfl) <|
      .bind (.required rfl) .pure
  | changeSpells =>
    exact .bind (.required rfl) <| .bind (.required rfl) <| .bind (.defaulted rfl) <|
      .bind (.required rfl) .pure
  | changePlayerLabel =>
    exact .bind (.required rfl) <| .bind (.required rfl) <| .bind (.defaulted rfl) <|
      .bind (.defaulted rfl) .pure
  | castSpellOn =>
    exact .bind (.required rfl) <| .bind (.defaulted rfl) <| .bind (.defaulted rfl) <|
      .bind (.defaulted rfl) .pure
  | addChatboxText =>
    exact .bind (.required rfl) <| .bind (.defaulted rfl) <| .bind (.required rfl) <|
      .bind (.defaulted rfl) <| .bind (.defaulted rfl) .pure
  | changeItems =>
    exact .bind (.required rfl) <| .bind (.required rfl) <| .bind (.required rfl) <|
      .bind (.defaulted rfl) <| .bind (.required rfl) .pure
  | equipItem | showPicture =>
    exact .bind (.required rfl) <| .bind (.defaulted rfl) <| .bind (.defaulted rfl) <|
      .bind (.defaulted rfl) <| .bind (.defaulted rfl) .pure
  | warp =>
    exact .bind (.required rfl) <| .bind (.required rfl) <| .bind (.required rfl) <|
      .bind (.defaulted rfl) <| .bind (.defaulted rfl) .pure

/-- A command nests at most six levels. -/
theorem fits_toJson (c : Command) : (toJson c).fits 6 = true := by
  refine fits_obj ?_
  simp [membersFit, c.membersFit_fields]

end Command

instance : LawfulForm Command where
  levels := 6
  fits := Command.fits_toJson
  read?_toJson _ c :=
    tagged?_obj c.fits_toJson c.ne_type_of_mem_fields (c.reads_fields .setAside)

/-! ## Pages -/

instance : LawfulForm Page where
  levels := 9
  fits p := by
    refine fits_obj ?_
    simp (disch := decide) [membersFit, fits_toJson]
  read?_toJson _ p :=
    record?_obj <| .bind (.required rfl) <| .bind (.defaulted rfl) <| .bind (.required rfl) <|
      .bind (.required rfl) .pure

instance : LawfulForm Trigger where
  levels := 1
  fits t := by
    cases t with
    | none | login | levelUp => exact fits_str _ _
    | playerVariableChange i | serverVariableChange i | guildVariableChange i
    | userVariableChange i => exact fits_single (fits_toJson i (by decide))
  read?_toJson m t := by
    cases t with
    | none | login | levelUp => rfl
    | playerVariableChange i => exact read?_single i fun _ => rfl
    | serverVariableChange i => exact read?_single i fun _ => rfl
    | guildVariableChange i => exact read?_single i fun _ => rfl
    | userVariableChange i => exact read?_single i fun _ => rfl

end EventScript
