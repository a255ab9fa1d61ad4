import EventScript.Proofs.Json.Text
import EventScript.Proofs.Table
import EventScript.Proofs.Turn.Fault
import EventScript.Storage.Document
import Mathlib.Data.List.Nodup
import Mathlib.Data.List.Perm.Subperm
import Mathlib.Logic.Relation

/-!
# Quests that require quests

Whether a quest can be started may depend on whether another one can be started, and so on. Nothing
keeps such a chain of questions from leading back to a quest it came from; it has an end exactly if
it does not. What has an end comes to the same answer however many questions are allowed for, as
long as there are no fewer than quests.
-/

namespace EventScript

namespace Perspective

variable {v : Perspective} {quest next : QuestId}

/-- What is asked about a quest when it is asked whether it can be started; nothing if that is out
of the question anyway. -/
def requirements? (v : Perspective) (quest : QuestId) : Option (List Condition) :=
  (v.world.catalog.quests.get? quest).bind fun d =>
    if d.tasks.isEmpty || v.player.questInProgress quest then none
    else if v.player.questCompleted quest && !d.repeatable then none
    else some d.requirements

/-- What the requirements of quests are asked of. -/
def unattended (v : Perspective) : Perspective := { v with running := none }

/-- What asking whether a quest can be started comes to, whatever the number of questions that this
leads to: the quests asked for on the way were decided before. -/
inductive Decides (v : Perspective) : QuestId → Bool → Prop
  | refuse {quest : QuestId} (refused : v.requirements? quest = none) : Decides v quest false
  | ask {quest : QuestId} {requirements : List Condition} {answer : Bool}
      (startable : QuestId → Guarded Bool) (required : v.requirements? quest = some requirements)
      (below : ∀ next answer, startable next = .ok answer → Decides v next answer)
      (held : v.unattended.holdAll startable requirements = .ok answer) : Decides v quest answer

/-- Asking whether a quest can be started comes to asking that of another one: it is among the
requirements, and those before it hold. -/
def AsksFor (v : Perspective) (quest next : QuestId) : Prop :=
  ∃ (before : List Condition) (c : Condition) (after : List Condition)
    (startable : QuestId → Guarded Bool),
    v.requirements? quest = some (before ++ c :: after) ∧ c.kind = .canStartQuest next ∧
      (∀ other answer, startable other = .ok answer → v.Decides other answer) ∧
      v.unattended.holdAll startable before = .ok true

/-- A quest is asked about by its requirements, if it is asked about at all. -/
theorem canStartWithin_succ (depth : Nat) :
    v.canStartWithin (depth + 1) quest = match v.requirements? quest with
      | none => .ok false
      | some requirements =>
        v.unattended.holdAll (v.canStartWithin depth) requirements := by
  unfold canStartWithin requirements?
  cases v.world.catalog.quests.get? quest with
  | none => rfl
  | some d =>
    dsimp only [Option.bind_some]
    split
    · rfl
    · split <;> rfl

/-! ## Conditions in order -/

section

variable {startable startable' : QuestId → Guarded Bool} {before after : List Condition}
  {c : Condition} {answer answer' : Bool}

/-- Behind a condition that is answered the others are asked if it holds. -/
theorem holdAll_cons {rest : List Condition} (h : v.answer startable c.kind = .ok answer) :
    v.holdAll startable (c :: rest) =
      if (answer != c.negated) = true then v.holdAll startable rest else .ok false := by
  rw [holdAll, h]
  rfl

/-- Conditions are answered alike by ways to answer for quests that do not contradict each other. -/
theorem eq_of_holdAll
    (hagree : ∀ q a a', startable q = .ok a → startable' q = .ok a' → a = a')
    {conditions : List Condition} (h : v.holdAll startable conditions = .ok answer)
    (h' : v.holdAll startable' conditions = .ok answer') : answer = answer' := by
  induction conditions with
  | nil =>
    cases h
    cases h'
    rfl
  | cons c rest ih =>
    obtain ⟨a, ha, h⟩ := Guarded.bind_eq_ok.mp h
    obtain ⟨a', ha', h'⟩ := Guarded.bind_eq_ok.mp h'
    have heq : a = a' := by
      cases hkind : c.kind with
      | canStartQuest q =>
        rw [hkind] at ha ha'
        exact hagree q a a' ha ha'
      | _ =>
        rw [hkind] at ha ha'
        exact Except.ok.inj (ha.symm.trans ha')
    subst heq
    split at h
    · next hholds =>
      rw [if_pos hholds] at h'
      exact ih h h'
    · next hfails =>
      rw [if_neg hfails] at h'
      cases h
      cases h'
      rfl

/-- Conditions that come to an answer do so up to each of them, and a quest that is asked for behind
conditions that hold is answered for. -/
theorem holdAll_append_cons (hkind : c.kind = .canStartQuest next)
    (h : v.holdAll startable (before ++ c :: after) = .ok answer) :
    v.holdAll startable before = .ok false ∨
      v.holdAll startable before = .ok true ∧ ∃ a, startable next = .ok a := by
  induction before with
  | nil =>
    obtain ⟨a, ha, -⟩ := Guarded.bind_eq_ok.mp h
    rw [hkind] at ha
    exact .inr ⟨rfl, a, ha⟩
  | cons first rest ih =>
    obtain ⟨a, ha, h⟩ := Guarded.bind_eq_ok.mp h
    rw [holdAll_cons ha]
    split at h
    · next hholds =>
      rw [if_pos hholds]
      exact ih h
    · next hfails =>
      rw [if_neg hfails]
      exact .inl rfl

/-- Conditions that come to no answer hold up to a question for a quest that has none. -/
theorem exists_of_holdAll_eq_error {conditions : List Condition} {f : Fault}
    (h : v.holdAll startable conditions = .error f) :
    ∃ before c after next, conditions = before ++ c :: after ∧ c.kind = .canStartQuest next ∧
      v.holdAll startable before = .ok true ∧ startable next = .error f := by
  induction conditions with
  | nil => cases h
  | cons c rest ih =>
    rcases Guarded.bind_eq_error.mp h with hfirst | ⟨a, ha, h⟩
    · cases hkind : c.kind with
      | canStartQuest next =>
        rw [hkind] at hfirst
        exact ⟨[], c, rest, next, rfl, hkind, rfl, hfirst⟩
      | _ =>
        rw [hkind] at hfirst
        cases hfirst
    · split at h
      · next hholds =>
        obtain ⟨before, c', after, next, rfl, hkind, hbefore, hnext⟩ := ih h
        refine ⟨c :: before, c', after, next, rfl, hkind, ?_, hnext⟩
        rw [holdAll_cons ha, if_pos hholds]
        exact hbefore
      · cases h

end

/-! ## Chains of questions -/

/-- A quest is decided in one way. -/
theorem Decides.unique {answer answer' : Bool} (h : v.Decides quest answer)
    (h' : v.Decides quest answer') : answer = answer' := by
  induction h generalizing answer' with
  | refuse hrefused =>
    cases h' with
    | refuse => rfl
    | ask _ hrequired =>
      rw [hrefused] at hrequired
      cases hrequired
  | ask startable hrequired _ hheld ih =>
    cases h' with
    | refuse hrefused =>
      rw [hrequired] at hrefused
      cases hrefused
    | ask startable' hrequired' hbelow' hheld' =>
      rw [hrequired] at hrequired'
      cases hrequired'
      exact eq_of_holdAll (fun q a a' ha ha' => ih q a ha (hbelow' q a' ha')) hheld hheld'

/-- What comes to an answer within a number of questions is decided that way. -/
theorem decides_of_canStartWithin {depth : Nat} {answer : Bool}
    (h : v.canStartWithin depth quest = .ok answer) : v.Decides quest answer := by
  induction depth generalizing quest answer with
  | zero => cases h
  | succ depth ih =>
    rw [canStartWithin_succ] at h
    split at h
    · next hrefused =>
      cases h
      exact .refuse hrefused
    · next requirements hrequired =>
      exact .ask (v.canStartWithin depth) hrequired (fun _ _ hnext => ih hnext) h

/-- All chains of questions from a quest that is decided come to an end. -/
theorem Decides.acc {answer : Bool} (h : v.Decides quest answer) :
    Acc (fun next asked => v.AsksFor asked next) quest := by
  induction h with
  | refuse hrefused =>
    refine .intro _ fun next hasks => ?_
    obtain ⟨_, _, _, _, hrequired, -⟩ := hasks
    rw [hrefused] at hrequired
    cases hrequired
  | ask startable hrequired hbelow hheld ih =>
    refine .intro _ fun next hasks => ?_
    obtain ⟨before, c, after, startable', hrequired', hkind, hdecided, hbefore⟩ := hasks
    rw [hrequired] at hrequired'
    cases hrequired'
    have hagree (q : QuestId) (a a' : Bool) (ha : startable q = .ok a)
        (ha' : startable' q = .ok a') : a = a' := (hbelow q a ha).unique (hdecided q a' ha')
    rcases holdAll_append_cons hkind hheld with hfails | ⟨-, a, ha⟩
    · cases eq_of_holdAll hagree hfails hbefore
    · exact ih next a ha

/-- Where all chains of questions come to an end none leads back to where it came from. -/
theorem not_circular_of_acc (h : Acc (fun next asked => v.AsksFor asked next) quest) :
    ∀ q, Relation.ReflTransGen v.AsksFor quest q → ¬ Relation.TransGen v.AsksFor q q := by
  induction h with
  | intro quest _ ih =>
    intro q hreaches hcircle
    rcases Relation.ReflTransGen.cases_head hreaches with rfl | ⟨next, hasks, hreaches⟩
    · obtain ⟨next, hasks, hback⟩ := Relation.TransGen.head'_iff.mp hcircle
      exact ih next hasks quest hback hcircle
    · exact ih next hasks q hreaches hcircle

/-- Without an answer within a number of questions there is a chain of that many quests, all of them
described and each asked for by those before it. -/
theorem exists_chain_of_canStartWithin {depth : Nat} {f : Fault}
    (h : v.canStartWithin depth quest = .error f) :
    ∃ asked : List QuestId, asked.length = depth ∧ asked ⊆ v.world.catalog.quests.keys ∧
      (∀ q ∈ asked, Relation.ReflTransGen v.AsksFor quest q) ∧
      asked.Pairwise (Relation.TransGen v.AsksFor) := by
  induction depth generalizing quest with
  | zero => exact ⟨[], rfl, List.nil_subset _, nofun, .nil⟩
  | succ depth ih =>
    rw [canStartWithin_succ] at h
    split at h
    · cases h
    · next requirements hrequired =>
      obtain ⟨before, c, after, next, rfl, hkind, hbefore, hnext⟩ := exists_of_holdAll_eq_error h
      have hasks : v.AsksFor quest next :=
        ⟨before, c, after, v.canStartWithin depth, hrequired, hkind,
          fun _ _ hdecided => decides_of_canStartWithin hdecided, hbefore⟩
      obtain ⟨d, hd, -⟩ := Option.bind_eq_some_iff.mp hrequired
      have hkey : quest ∈ v.world.catalog.quests.keys :=
        Table.mem_keys_iff.mpr (Option.isSome_iff_exists.mpr ⟨d, hd⟩)
      obtain ⟨asked, hlength, hkeys, hreached, hchain⟩ := ih hnext
      refine ⟨quest :: asked, congrArg Nat.succ hlength, List.cons_subset.mpr ⟨hkey, hkeys⟩,
        List.forall_mem_cons.mpr ⟨.refl, fun q hq => .head hasks (hreached q hq)⟩,
        List.pairwise_cons.mpr ⟨fun q hq => .head' hasks (hreached q hq), hchain⟩⟩

/-- Where no chain of questions leads back to where it came from, there is an answer within any
number of questions greater than that of the quests: a longer chain has a quest twice. -/
theorem exists_canStartWithin {depth : Nat} (hdepth : v.world.catalog.quests.size < depth)
    (h : ∀ q, Relation.ReflTransGen v.AsksFor quest q → ¬ Relation.TransGen v.AsksFor q q) :
    ∃ answer, v.canStartWithin depth quest = .ok answer := by
  cases hresult : v.canStartWithin depth quest with
  | ok answer => exact ⟨answer, rfl⟩
  | error f =>
    obtain ⟨asked, hlength, hkeys, hreached, hchain⟩ := exists_chain_of_canStartWithin hresult
    have hnodup : asked.Nodup := by
      refine hchain.imp_of_mem fun {a b} ha _ hasks heq => ?_
      subst heq
      exact h a (hreached a ha) hasks
    have hsize : asked.length ≤ v.world.catalog.quests.size := by
      have hle := (hnodup.subperm hkeys).length_le
      rwa [Table.keys, List.length_map] at hle
    omega

/-- Asking whether a quest can be started comes to an end exactly if all chains of questions do that
it leads to, which is the case exactly if none of them leads back to a quest it came from. Then
allowing for more questions than there are quests makes no difference to the answer. -/
theorem decides_iff_not_circular (v : Perspective) (quest : QuestId) :
    ((∃ answer, v.Decides quest answer) ↔ Acc (fun next asked => v.AsksFor asked next) quest) ∧
    (Acc (fun next asked => v.AsksFor asked next) quest ↔
      ∀ q, Relation.ReflTransGen v.AsksFor quest q → ¬ Relation.TransGen v.AsksFor q q) ∧
    ∀ depth, v.world.catalog.quests.size < depth →
      ∀ answer, v.Decides quest answer ↔ v.canStartWithin depth quest = .ok answer := by
  have hends (h : ∀ q, Relation.ReflTransGen v.AsksFor quest q →
      ¬ Relation.TransGen v.AsksFor q q) : ∃ answer, v.Decides quest answer := by
    obtain ⟨answer, hanswer⟩ := exists_canStartWithin (Nat.lt_succ_self _) h
    exact ⟨answer, decides_of_canStartWithin hanswer⟩
  have hacc : (∃ answer, v.Decides quest answer) →
      Acc (fun next asked => v.AsksFor asked next) quest := fun ⟨_, hanswer⟩ => hanswer.acc
  refine ⟨⟨hacc, fun h => hends (not_circular_of_acc h)⟩,
    ⟨not_circular_of_acc, fun h => hacc (hends h)⟩, fun depth hdepth answer => ?_⟩
  refine ⟨fun hdecides => ?_, decides_of_canStartWithin⟩
  obtain ⟨answer', hanswer'⟩ := exists_canStartWithin hdepth (not_circular_of_acc hdecides.acc)
  rwa [hdecides.unique (decides_of_canStartWithin hanswer')]

end Perspective

/-! ## A quest that requires itself -/

/-- A quest that can be started if it can be started. -/
def circle : QuestDescriptor :=
  ⟨⟨7⟩, "Circle", [⟨⟨8⟩, "go round", none⟩], false, [⟨.canStartQuest ⟨7⟩, false, true⟩], none, none⟩

/-- The descriptors of that quest alone. -/
def circleSet : DescriptorSet := { DescriptorSet.empty with quests := [circle] }

/-- A world with one player, in front of a page that asks whether the quest can be started. -/
def beforeCircle : Turn where
  world := (World.start {} circleSet.catalog (.start 0) (.seeded 0)).addPlayer
    (.fresh ⟨3⟩ "Ann" .nil 0 0)
  run := .start ⟨4⟩ ⟨5⟩ ⟨3⟩ ((Page.draft ⟨1⟩ "ask" ⟨2⟩).withRoot
    [.conditionalBranch ⟨.canStartQuest circle.id, false, true⟩ []])

/-- Descriptors that a text holds are read from a file with that text. -/
theorem DescriptorSet.ofFile_of_ofText? {path text : String} {set : DescriptorSet}
    (h : ofText? text = some set) : DescriptorSet.ofFile path (.ok text) = .ok set := by
  unfold DescriptorSet.ofFile
  dsimp only
  rw [h]

/-- The descriptors can be read from a file, and asking for the quest has no end: it is never
decided, however many questions are allowed for, and a script that asks for it ends the run. -/
theorem not_decides_circle :
    DescriptorSet.ofFile "quests" (.ok (toJson circleSet).compact) = .ok circleSet ∧
      (∃ p, beforeCircle.world.player? ⟨3⟩ = some p ∧
        ∀ run, ¬ ∃ answer, (Perspective.mk beforeCircle.world p run).Decides circle.id answer) ∧
      beforeCircle.step = .error (.endlessRequirement circle.id) := by
  have hread : ofText? (toJson circleSet).compact = some circleSet := by
    rw [ofText?, Json.scan?_compact (by decide)]
    rfl
  refine ⟨DescriptorSet.ofFile_of_ofText? hread, ⟨_, rfl, fun run hdecided => ?_⟩, rfl⟩
  obtain ⟨answer, hanswer⟩ := hdecided
  refine Perspective.not_circular_of_acc hanswer.acc circle.id .refl (.single ?_)
  exact ⟨[], _, [], fun q => .error (.endlessRequirement q), rfl, rfl, nofun, rfl⟩

end EventScript
