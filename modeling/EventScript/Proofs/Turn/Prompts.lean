import EventScript.Proofs.Scene.Prompts
import EventScript.Proofs.Turn.Deed

/-!
# Prompts and suspensions

A client is asked for something on behalf of an execution exactly when a step lets the execution
wait for it. So a script that listens has asked, and a script that was asked for listens.
-/

namespace EventScript

/-- What is waited for without a prompt is no dialogue, no quest, no picture and no window. -/
theorem Suspension.IsAwaitedBy.kind {what : Suspension} {c : Command} (h : what.IsAwaitedBy c) :
    what.kind = .timer ∨ what.kind = .route ∨ what.kind = .fade := by
  cases h with
  | timer => exact .inl rfl
  | route => exact .inr (.inl rfl)
  | fade => exact .inr (.inr rfl)

/-- What asks for something is a prompt. -/
theorem Suspension.IsPromptedBy.isPrompt {source : InstanceId} {what : Suspension}
    {n : Notification} (h : what.IsPromptedBy source n) : n.isPrompt = true := by
  cases h <;> rfl

namespace Turn

variable {t t' : Turn}

/-! ## Conclusions -/

/-- An execution that waits is suspended. -/
theorem conclude_of_waiting {what : Suspension} (h : t.run.waiting? = some what) :
    t.conclude = (.ok (.suspended what.kind), t) := by
  unfold conclude Instance.suspension?
  rw [h]
  rfl

/-- An execution of which no frame waits is not. -/
theorem conclude_ne_suspended (h : t.run.stack.Runs) (kind : SuspensionKind) :
    t.conclude.1 ≠ .ok (.suspended kind) := by
  have hnone : t.run.suspension? = none := by
    unfold Instance.suspension? Instance.waiting? Instance.top?
    cases hstack : t.run.stack with
    | nil => rfl
    | cons frame rest =>
      have hruns := h frame (hstack ▸ List.mem_cons_self)
      rw [Frame.isSuspended_eq_false_iff] at hruns
      simp [hruns]
  unfold conclude
  rw [hnone]
  dsimp only
  split
  · nofun
  · split <;> nofun

/-- Letting the running frame wait. -/
theorem waiting?_of_suspend {i j : Instance} {frame : Frame} {rest : CallStack} {what : Suspension}
    (hstack : i.stack = frame :: rest) (h : j.stack = (i.suspend what).stack) :
    j.waiting? = some what := by
  unfold Instance.suspend at h
  rw [Instance.modifyTop_cons hstack] at h
  exact Instance.waiting?_of_stack h

/-! ## Steps -/

/-- What a step asks for and what the execution waits for behind it. -/
inductive DemandCase (t : Turn) : StepOutcome → Turn → Prop
  /-- Nothing is asked for, and the execution is not suspended. -/
  | quiet {outcome : StepOutcome} {t' : Turn} (runs : ∀ kind, outcome ≠ .suspended kind)
      (told : t.world.AsksNothing t'.world) : DemandCase t outcome t'
  /-- The execution waits, and nothing is asked for. -/
  | silent {c : Command} {what : Suspension} {t' : Turn} (command : t.command? = some c)
      (awaits : what.IsAwaitedBy c) (told : t.world.AsksNothing t'.world)
      (waiting : t'.run.waiting? = some what) :
      DemandCase t (.suspended what.kind) t'
  /-- The command asks the player of the execution for what that waits for. -/
  | prompted {c : Command} {p : Player} {what : Suspension} {n : Notification} {t' : Turn}
      (command : t.command? = some c) (asks : what.IsAskedBy c)
      (player : t.world.player? t.run.player = some p) (prompts : what.IsPromptedBy t.run.id n)
      (sent : t'.world.sent = t.world.sent ++ [(.player p.id, n)])
      (waiting : t'.run.waiting? = some what) : DemandCase t (.suspended what.kind) t'

/-- As long as only the running frame waits, every step asks for what it waits for. -/
theorem demandCase_step {outcome : StepOutcome} (hcallers : CallStack.Runs t.run.stack.tail)
    (h : t.step = .ok (.ok outcome, t')) : t.DemandCase outcome t' := by
  have hsettled : CallStack.Runs t.settle.run.stack.tail :=
    CallStack.isKept_runs_tail.toIsSettled.settle hcallers
  have hworld : t.settle.world.sent = t.world.sent := congrArg World.sent t.settle_world
  generalize hr : (Except.ok outcome, t') = r at h
  cases step_cases h with
  | defect => cases hr
  | completed | waiting =>
    cases hr
    exact .quiet nofun (.of_sent hworld)
  | @execute frame rest r hstack hruns hcase =>
    cases hcase with
    | missingList | outOfRange | missingPlayer | unsupported => cases hr
    | @executed commands c p s hlist hindex hplayer hsupported hscene =>
      have hadvanced : (t.settle.run.modifyTop Frame.advance).stack = frame.advance :: rest := by
        rw [Instance.modifyTop_cons hstack]
      have hsource : (t.settle.run.modifyTop Frame.advance).id = t.run.id := by
        rw [Instance.modifyTop_cons hstack, settle_run]
      have hcommand : t.command? = some c :=
        (command?_of_stack hstack hruns).trans (Frame.command?_of_list hlist hindex)
      rw [settle_world, settle_player] at hplayer
      cases Scene.demandCase_execute _ hscene with
      | quiet hquiet =>
        have hbefore : CallStack.Runs (t.settle.run.modifyTop Frame.advance).stack := by
          rw [hadvanced]
          rw [hstack, List.tail_cons] at hsettled
          exact List.forall_mem_cons.mpr ⟨Frame.isSuspended_eq_false_iff.mpr hruns, hsettled⟩
        have hafter := hquiet.runs hbefore
        refine .quiet ?_ ?_
        · intro kind houtcome
          subst houtcome
          exact absurd (congrArg Prod.fst hr).symm (conclude_ne_suspended hafter kind)
        · have hlast := congrArg (fun r : Outcome StepOutcome => r.2.world.sent) hr
          dsimp only at hlast
          rw [(conclude_origin _).1] at hlast
          exact (World.AsksNothing.of_sent hworld).trans (hquiet.told.trans (.of_sent hlast))
      | silent hawaits htold hafter =>
        have hwaiting := waiting?_of_suspend hadvanced hafter
        rw [conclude_of_waiting hwaiting] at hr
        cases hr
        exact .silent hcommand hawaits ((World.AsksNothing.of_sent hworld).trans htold) hwaiting
      | prompted hasks hprompts hsent hafter =>
        have hwaiting := waiting?_of_suspend hadvanced hafter
        rw [conclude_of_waiting hwaiting] at hr
        cases hr
        refine .prompted hcommand hasks hplayer (hsource ▸ hprompts) ?_ hwaiting
        rw [← hworld]
        exact hsent

/-! ## Agreement -/

/-- What clients were told in a step agrees with what the execution waits for behind it. -/
structure Prompts (t : Turn) (outcome : StepOutcome) (t' : Turn)
    (news : List (Recipients × Notification)) : Prop where
  /-- A client is asked on behalf of the execution exactly when that begins to wait for a dialogue,
  a quest or a picture. -/
  asks : (∃ told ∈ news, told.2.asker? = some t.run.id) ↔
    outcome = .suspended .dialogue ∨ outcome = .suspended .questOffer ∨
      outcome = .suspended .picture
  /-- A window of a kind is opened exactly when the execution begins to wait for one of that
  kind. -/
  opens : ∀ kind, (∃ told ∈ news, told.2.opened? = some kind) ↔
    outcome = .suspended .session ∧ t'.run.waiting? = some (.session kind)
  /-- There is one prompt at most. It goes to the player of the execution alone, and asks for what
  the running frame waits for. -/
  once : (∃ told ∈ news, told.2.isPrompt = true) → ∃ asked n,
    t'.run.waiting? = some asked ∧ asked.IsPromptedBy t.run.id n ∧
      (news.filter fun told => told.2.isPrompt) = [(.player t.run.player, n)]

/-- Where nothing is asked for, the execution does not begin to wait for what is asked for. -/
theorem prompts_of_asksNothing {outcome : StepOutcome} (htold : t.world.AsksNothing t'.world)
    (hsilent : ∀ kind, outcome = .suspended kind →
      kind = .timer ∨ kind = .route ∨ kind = .fade) :
    ∃ news, t'.world.sent = t.world.sent ++ news ∧ t.Prompts outcome t' news := by
  obtain ⟨news, hsent, hquiet⟩ := htold
  have hnot {kind : SuspensionKind} (hkind : ¬ (kind = .timer ∨ kind = .route ∨ kind = .fade)) :
      outcome ≠ .suspended kind := fun houtcome => hkind (hsilent kind houtcome)
  refine ⟨news, hsent, ?_, fun kind => ?_, ?_⟩
  · constructor
    · rintro ⟨told, htold, hasker⟩
      obtain ⟨hnone, -⟩ := Notification.isPrompt_eq_false_iff.mp (hquiet told htold)
      rw [hasker] at hnone
      cases hnone
    · rintro (houtcome | houtcome | houtcome)
      · exact absurd houtcome (hnot (by simp))
      · exact absurd houtcome (hnot (by simp))
      · exact absurd houtcome (hnot (by simp))
  · constructor
    · rintro ⟨told, htold, hopened⟩
      obtain ⟨-, hnone⟩ := Notification.isPrompt_eq_false_iff.mp (hquiet told htold)
      rw [hopened] at hnone
      cases hnone
    · rintro ⟨houtcome, -⟩
      exact absurd houtcome (hnot (by simp))
  · rintro ⟨told, htold, hprompt⟩
    rw [hquiet told htold] at hprompt
    cases hprompt

/-- The one prompt of a step agrees with what is waited for. -/
theorem prompts_of_prompted {what : Suspension} {n : Notification}
    (hwaiting : t'.run.waiting? = some what) (hprompts : what.IsPromptedBy t.run.id n) :
    t.Prompts (.suspended what.kind) t' [(.player t.run.player, n)] where
  asks := by
    cases hprompts <;> simp [Suspension.kind, Notification.asker?]
  opens kind := by
    rw [hwaiting]
    cases hprompts <;> simp [Suspension.kind, Notification.opened?]
  once _ := by
    refine ⟨what, n, hwaiting, hprompts, ?_⟩
    simp [hprompts.isPrompt]

/-- What a step asks for agrees with what the execution waits for. -/
theorem prompts_of_demandCase {outcome : StepOutcome} (hw : t.world.IsIndexed)
    (h : t.DemandCase outcome t') :
    ∃ news, t'.world.sent = t.world.sent ++ news ∧ t.Prompts outcome t' news := by
  cases h with
  | quiet hruns htold =>
    exact prompts_of_asksNothing htold fun kind houtcome => absurd houtcome (hruns kind)
  | silent hcommand hawaits htold hwaiting =>
    refine prompts_of_asksNothing htold ?_
    intro kind houtcome
    cases houtcome
    exact hawaits.kind
  | prompted hcommand hasks hplayer hprompts hsent hwaiting =>
    rw [hw.players hplayer] at hsent
    exact ⟨_, hsent, prompts_of_prompted hwaiting hprompts⟩

/-- A response asks for nothing. -/
theorem asksNothing_of_answer {response : Response} {r : Outcome Bool}
    (h : t.answer response = .ok r) : t.world.AsksNothing r.2.world := by
  cases answer_cases h with
  | ignored | missingPlayer => exact .of_sent rfl
  | accepted hstack hwaiting hanswered hplayer hscene =>
    exact (Scene.quiet_resume _ hscene).told.trans (.of_sent rfl)

/-- However an execution goes on, what its client is asked for is what it waits for: a step asks on
behalf of the execution, or opens a window, exactly when it lets the execution wait for that. It
does so once, and asks the player of the execution only. Responses and signals ask for nothing. -/
theorem prompts_of_transitions {page : Page} {t₀ t : Turn}
    (hstart : t₀.run.stack = [Frame.root page]) (hrun : Relation.ReflTransGen Transition t₀ t)
    (hw : t.world.IsIndexed) :
    (∀ outcome t', t.step = .ok (.ok outcome, t') →
      ∃ news, t'.world.sent = t.world.sent ++ news ∧ t.Prompts outcome t' news) ∧
    (∀ response r, t.answer response = .ok r → t.world.AsksNothing r.2.world) ∧
    ∀ signal, t.world.AsksNothing ({ t with run := (t.run.receive signal).2 } : Turn).world := by
  have hcallers := (callers_and_loaded_of_transitions hstart hrun).1
  refine ⟨fun outcome t' hstep => ?_, fun response r hanswer => ?_, fun signal => ?_⟩
  · exact prompts_of_demandCase hw (demandCase_step hcallers hstep)
  · exact asksNothing_of_answer hanswer
  · exact .of_sent rfl

/-- The player who is offered an option is asked to choose it, and the script listens. -/
theorem prompts_of_transitions_offering :
    ∃ t' news, offering.step = .ok (.ok (.suspended .dialogue), t') ∧
      t'.world.sent = offering.world.sent ++ news ∧
      offering.Prompts (.suspended .dialogue) t' news ∧
      ∃ told ∈ news, told.2.asker? = some offering.run.id := by
  have hw : offering.world.IsIndexed := World.IsIndexed.addPlayer (.start ..) _
  obtain ⟨hsteps, -⟩ := prompts_of_transitions rfl .refl hw
  obtain ⟨news, hsent, hprompts⟩ := hsteps (.suspended .dialogue) _ rfl
  exact ⟨_, news, rfl, hsent, hprompts, hprompts.asks.mpr (.inl rfl)⟩

end Turn

end EventScript
