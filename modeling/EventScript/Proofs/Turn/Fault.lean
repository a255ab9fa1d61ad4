import EventScript.Proofs.Turn.Deed
import EventScript.Proofs.Turn.Waiting

/-!
# Faults

A fault ends the whole run, so it matters which scripts can run into one. A step does if the command
it executes does. Of the commands, those that ask conditions may ask for quests without an end, and
those that change a vital may find that its maximum is below zero; there is no other way.
-/

namespace EventScript

/-! ## Conditions -/

namespace Perspective

variable {v : Perspective} {f : Fault}

/-- Only whether a quest can be started is a question that may have no answer. -/
theorem startable_of_answer {startable : QuestId → Guarded Bool} {kind : ConditionKind}
    (h : v.answer startable kind = .error f) : ∃ quest, startable quest = .error f := by
  cases kind with
  | canStartQuest quest => exact ⟨quest, h⟩
  | _ => cases h

/-- So it is behind the fault of several conditions. -/
theorem startable_of_holdAll {startable : QuestId → Guarded Bool} {conditions : List Condition}
    (h : v.holdAll startable conditions = .error f) : ∃ quest, startable quest = .error f := by
  induction conditions with
  | nil => cases h
  | cons c rest ih =>
    rcases Guarded.bind_eq_error.mp h with hfirst | ⟨answer, -, h⟩
    · exact startable_of_answer hfirst
    · split at h
      · exact ih h
      · cases h

/-- Asking whether a quest can be started has an answer, or it has no end. -/
theorem eq_endlessRequirement_of_canStartWithin {depth : Nat} {quest : QuestId}
    (h : v.canStartWithin depth quest = .error f) : ∃ q, f = .endlessRequirement q := by
  induction depth generalizing v quest with
  | zero =>
    cases h
    exact ⟨quest, rfl⟩
  | succ depth ih =>
    unfold canStartWithin at h
    split at h
    · cases h
    · split at h
      · cases h
      · split at h
        · cases h
        · obtain ⟨required, h⟩ := startable_of_holdAll h
          exact ih h

/-- A condition holds or not, or asking it has no end. -/
theorem eq_endlessRequirement_of_meets {c : Condition} (h : v.meets c = .error f) :
    ∃ q, f = .endlessRequirement q := by
  rcases Guarded.bind_eq_error.mp h with hanswer | ⟨_, -, h⟩
  · obtain ⟨quest, h⟩ := startable_of_answer hanswer
    exact eq_endlessRequirement_of_canStartWithin h
  · cases h

/-- So it is for several conditions. -/
theorem eq_endlessRequirement_of_meetsAll {conditions : List Condition}
    (h : v.meetsAll conditions = .error f) : ∃ q, f = .endlessRequirement q := by
  obtain ⟨quest, h⟩ := startable_of_holdAll h
  exact eq_endlessRequirement_of_canStartWithin h

end Perspective

/-! ## Commands -/

/-- The vital that a command changes, and by how much. -/
def Command.vitalChange? : Command → Option (Vital × Int64)
  | restoreHp amount => some (.health, amount)
  | restoreMp amount => some (.mana, amount)
  | _ => none

/-- A vital cannot be changed if and only if its maximum is below zero. -/
theorem Player.addVital_eq_error_iff {p : Player} {v : Vital} {amount : Int64} {f : Fault} :
    p.addVital v amount = .error f ↔
      p.maxVitals.get v < 0 ∧ f = .negativeMaximum v (p.maxVitals.get v) := by
  unfold Player.addVital
  dsimp only
  split
  · next hmaximum =>
    constructor
    · rintro ⟨⟩
      exact ⟨hmaximum, rfl⟩
    · rintro ⟨-, rfl⟩
      rfl
  · next hmaximum => exact ⟨nofun, fun h => absurd h.1 hmaximum⟩

namespace Scene

variable {s : Scene} {f : Fault}

/-- A vital that is changed, and not just restored, has no maximum below zero, or that is a
fault. -/
theorem restoreVital_eq_error_iff {v : Vital} {amount : Int64} :
    s.restoreVital v amount = .error f ↔
      amount ≠ 0 ∧ s.player.maxVitals.get v < 0 ∧
        f = .negativeMaximum v (s.player.maxVitals.get v) := by
  have hbind (g : Player → Scene) :
      (s.player.addVital v amount >>= fun p => pure (g p)) = .error f ↔
        s.player.maxVitals.get v < 0 ∧ f = .negativeMaximum v (s.player.maxVitals.get v) := by
    rw [Guarded.bind_eq_error, Player.addVital_eq_error_iff]
    refine or_iff_left ?_
    rintro ⟨p, -, h⟩
    cases h
  unfold restoreVital
  split
  · next hheals =>
    rw [and_iff_right (Int64.ne_of_lt hheals).symm]
    exact hbind _
  · next hheals =>
    split
    · next hharms =>
      rw [and_iff_right (Int64.ne_of_lt hharms)]
      exact hbind _
    · next hharms =>
      constructor
      · intro h
        cases h
      · intro h
        have hzero : amount = 0 :=
          Int64.le_antisymm (Int64.not_lt.mp hheals) (Int64.not_lt.mp hharms)
        exact absurd hzero h.1

/-- Finding the pages of a common event has an end unless asking their conditions has none. -/
theorem eq_endlessRequirement_of_matchingPages {pages : List CommonEventPage}
    (h : s.matchingPages pages = .error f) : ∃ q, f = .endlessRequirement q := by
  induction pages with
  | nil => cases h
  | cons d rest ih =>
    rcases Guarded.bind_eq_error.mp h with hmet | ⟨_, -, h⟩
    · exact Perspective.eq_endlessRequirement_of_meetsAll hmet
    · rcases Guarded.bind_eq_error.mp h with hrest | ⟨_, -, h⟩
      · exact ih hrest
      · cases h

/-- A fault in a command that changes no vital is an endless question. -/
theorem eq_endlessRequirement_of_execute {c : Command} (h : s.execute c = .error f)
    (hc : c.vitalChange? = none) : ∃ q, f = .endlessRequirement q := by
  cases c with
  | restoreHp | restoreMp => cases hc
  | conditionalBranch condition branches =>
    rcases Guarded.bind_eq_error.mp h with hmet | ⟨met, -, h⟩
    · exact Perspective.eq_endlessRequirement_of_meets hmet
    · split at h
      · cases h
      · split at h <;> cases h
  | startCommonEvent event all overworld =>
    change s.startCommonEvent event all overworld = _ at h
    unfold startCommonEvent at h
    split at h
    · cases h
    · rcases Guarded.bind_eq_error.mp h with hpages | ⟨pages, -, h⟩
      · exact eq_endlessRequirement_of_matchingPages hpages
      · dsimp only at h
        split at h <;> cases h
  | startQuest quest offer branches =>
    rcases Guarded.bind_eq_error.mp h with hoffer | ⟨offered, -, h⟩
    · split at hoffer
      · exact Perspective.eq_endlessRequirement_of_canStartWithin hoffer
      · cases hoffer
    · split at h
      · cases h
      · rcases Guarded.bind_eq_error.mp h with hbegin | ⟨_, -, h⟩
        · exact Perspective.eq_endlessRequirement_of_canStartWithin (canStart_of_beginQuest hbegin)
        · cases h
  | _ => cases h

/-- A command finds a maximum below zero if and only if it changes such a vital. -/
theorem execute_eq_negativeMaximum_iff {c : Command} {v : Vital} {maximum : Int64} :
    s.execute c = .error (.negativeMaximum v maximum) ↔
      (∃ amount, c.vitalChange? = some (v, amount) ∧ amount ≠ 0) ∧
        s.player.maxVitals.get v = maximum ∧ maximum < 0 := by
  have hvital (j : Vital) (amount : Int64) :
      s.restoreVital j amount = .error (.negativeMaximum v maximum) ↔
        (∃ a, some (j, amount) = some (v, a) ∧ a ≠ 0) ∧
          s.player.maxVitals.get v = maximum ∧ maximum < 0 := by
    rw [restoreVital_eq_error_iff]
    constructor
    · rintro ⟨hamount, hmaximum, ⟨⟩⟩
      exact ⟨⟨amount, rfl, hamount⟩, rfl, hmaximum⟩
    · rintro ⟨⟨_, ⟨⟩, hamount⟩, rfl, hmaximum⟩
      exact ⟨hamount, hmaximum, rfl⟩
  cases hc : c.vitalChange? with
  | none =>
    refine ⟨fun h => ?_, fun h => nomatch h⟩
    obtain ⟨_, ⟨⟩⟩ := eq_endlessRequirement_of_execute h hc
  | some change =>
    cases c with
    | restoreHp amount | restoreMp amount =>
      cases hc
      exact hvital _ amount
    | _ => cases hc

end Scene

/-! ## Steps -/

namespace Turn

variable {t : Turn} {f : Fault}

/-- A deed is done in the world of the turn, for the loaded player whose script runs. -/
theorem setting_of_deed? {d : Deed} (h : t.deed? = some d) :
    d.scene.world = t.world ∧ t.world.player? t.run.player = some d.scene.player := by
  obtain ⟨c, -, h⟩ := Option.bind_eq_some_iff.mp h
  obtain ⟨frame, -, h⟩ := Option.bind_eq_some_iff.mp h
  obtain ⟨p, hp, h⟩ := Option.bind_eq_some_iff.mp h
  split at h
  · cases h
  · cases h
    exact ⟨rfl, hp⟩

/-- A step that does a deed comes to what is concluded from it. -/
theorem step_eq_map_of_deed? {d : Deed} (h : t.deed? = some d) :
    t.step = (d.scene.execute d.command).map fun s =>
      conclude ⟨s.world.putPlayer t.run.player s.player, s.run⟩ := by
  obtain ⟨c, hc, h⟩ := Option.bind_eq_some_iff.mp h
  obtain ⟨frame, hframe, h⟩ := Option.bind_eq_some_iff.mp h
  obtain ⟨p, hp, h⟩ := Option.bind_eq_some_iff.mp h
  split at h
  · cases h
  · next hsupported =>
    cases h
    obtain ⟨rest, hstack⟩ := List.head?_eq_some_iff.mp hframe
    have hruns := waiting_of_command? hc hstack
    rw [command?_of_stack hstack hruns] at hc
    rw [step_eq_execute hstack hruns (frame.defect?_of_command? hc)]
    obtain ⟨commands, hlist, hcommand⟩ := Option.bind_eq_some_iff.mp hc
    unfold execute
    simp only [hlist, hcommand, Instance.modifyTop_player, settle_world, settle_player, hp,
      hsupported, ite_false, stage]
    cases Scene.execute ⟨⟨t.world, p⟩, t.settle.run.modifyTop Frame.advance, frame.page⟩ c <;> rfl

/-- A step that does no deed runs into no fault. -/
theorem step_ok_of_deed?_eq_none (h : t.deed? = none) : ∃ r, t.step = .ok r := by
  unfold step
  dsimp only
  cases hdefect : t.settle.run.stack.defect? with
  | some e => exact ⟨_, rfl⟩
  | none =>
    cases hstack : t.settle.run.stack with
    | nil =>
      simp only [Instance.top?, hstack, List.head?_nil]
      exact ⟨_, rfl⟩
    | cons frame rest =>
      simp only [Instance.top?, hstack, List.head?_cons]
      cases hwaiting : frame.waiting with
      | some asked => exact ⟨_, rfl⟩
      | none =>
        have hcommand := command?_of_stack hstack hwaiting
        dsimp only
        unfold execute
        cases hlist : frame.page.list? frame.list with
        | none => exact ⟨_, rfl⟩
        | some commands =>
          dsimp only
          cases hindex : commands[frame.index]? with
          | none => exact ⟨_, rfl⟩
          | some c =>
            rw [deed?_of_stack hstack (hcommand.trans (Frame.command?_of_list hlist hindex))] at h
            simp only [Instance.modifyTop_player, settle_world, settle_player]
            cases hplayer : t.world.player? t.run.player with
            | none => exact ⟨_, rfl⟩
            | some p =>
              rw [hplayer, Option.bind_some] at h
              split at h
              · next hunsupported =>
                dsimp only
                rw [if_pos hunsupported]
                exact ⟨_, rfl⟩
              · cases h

/-- A step runs into a fault if and only if its deed does. -/
theorem step_eq_error_iff :
    t.step = .error f ↔ ∃ d, t.deed? = some d ∧ d.scene.execute d.command = .error f := by
  cases hdeed : t.deed? with
  | none =>
    obtain ⟨r, hr⟩ := step_ok_of_deed?_eq_none hdeed
    rw [hr]
    constructor
    · intro h
      cases h
    · rintro ⟨d, h, -⟩
      cases h
  | some d =>
    rw [step_eq_map_of_deed? hdeed]
    constructor
    · intro h
      refine ⟨d, rfl, ?_⟩
      cases hscene : d.scene.execute d.command with
      | error e =>
        rw [hscene] at h
        exact congrArg Except.error (Except.error.inj h)
      | ok s =>
        rw [hscene] at h
        cases h
    · rintro ⟨_, ⟨⟩, h⟩
      rw [h]
      rfl

end Turn

end EventScript
