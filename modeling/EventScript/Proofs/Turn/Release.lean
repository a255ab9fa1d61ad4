import EventScript.Proofs.Turn.Prompts

/-!
# Ways out of a suspension

A script that waits has to be let go on by something: a response that is accepted, a signal that is
heard, or the time. There is such a way out of everything a script can wait for, with one exception.
An option is accepted when it leads to a branch, so no option of a prompt without branches is, and
nothing else ends that prompt either.
-/

namespace EventScript

namespace Suspension

/-- Something ends what is waited for. Accepting a quest does not count, because whether the quest
can be asked for is not up to the execution. -/
def IsEndable (s : Suspension) : Prop :=
  (∃ response, s.AnsweredBy response ∧ response ≠ .questOffer true) ∨
    (∃ signal, s.EndedBy signal) ∨ ∃ now, s.IsDue now

/-- Nothing ends a prompt for options that lead to no branch. -/
theorem not_isEndable_unbranched : ¬ (dialogue (.options [])).IsEndable := by
  rintro (⟨response, hanswered, -⟩ | ⟨signal, hended⟩ | ⟨now, deadline, htimer, -⟩)
  · cases hanswered with
    | options hchoice => exact absurd hchoice (Nat.not_lt_zero _)
  · cases hended
  · cases htimer

/-- Something ends everything else. -/
theorem isEndable_iff {s : Suspension} : s.IsEndable ↔ s ≠ dialogue (.options []) := by
  constructor
  · rintro h rfl
    exact not_isEndable_unbranched h
  · intro h
    cases s with
    | dialogue prompt =>
      cases prompt with
      | text => exact .inl ⟨_, .text, nofun⟩
      | options branches =>
        have hbranches : branches ≠ [] := fun hnil => h (hnil ▸ rfl)
        exact .inl ⟨.option 0, .options (List.length_pos_iff.mpr hbranches), nofun⟩
      | input => exact .inl ⟨_, .cancel, nofun⟩
    | timer deadline => exact .inr (.inr ⟨deadline, deadline, rfl, UInt64.le_refl _⟩)
    | route => exact .inr (.inl ⟨_, .route⟩)
    | session => exact .inr (.inl ⟨_, .session⟩)
    | fade => exact .inr (.inl ⟨_, .fade⟩)
    | picture => exact .inl ⟨_, .picture, nofun⟩
    | questOffer => exact .inl ⟨.questOffer false, .questOffer, nofun⟩

/-- What is answered at all can be answered without accepting a quest. -/
theorem AnsweredBy.isEndable {s : Suspension} {response : Response} (h : s.AnsweredBy response) :
    s.IsEndable := by
  rw [isEndable_iff]
  rintro rfl
  cases h with
  | options hchoice => exact absurd hchoice (Nat.not_lt_zero _)

/-- What is asked of the client is options without branches exactly when the command has none. -/
theorem IsAskedBy.unbranched_iff {what : Suspension} {c : Command} (h : what.IsAskedBy c) :
    what = dialogue (.options []) ↔ ∃ text face options, c = .showOptions text face options [] := by
  cases h <;> simp

/-- What nothing is asked for is no prompt. -/
theorem IsAwaitedBy.unbranched_iff {what : Suspension} {c : Command} (h : what.IsAwaitedBy c) :
    what = dialogue (.options []) ↔ ∃ text face options, c = .showOptions text face options [] := by
  cases h <;> simp

end Suspension

namespace Turn

/-- A turn at the time of another clock. -/
def withClock (t : Turn) (clock : Clock) : Turn := { t with world.clock := clock }

/-- Something lets the running frame go on. -/
inductive HasWayOut (t : Turn) : Prop
  /-- A response is accepted. -/
  | answer {response : Response} {t' : Turn} (accepted : t.answer response = .ok (.ok true, t'))
  /-- A signal is heard. -/
  | receive {signal : Signal} (heard : (t.run.receive signal).1 = true)
  /-- At some time a step lets the frame go on and does not wait. -/
  | time {clock : Clock} (released : (t.withClock clock).settle.run = t.run.release.unwind)
      (passed : ∀ kind t', (t.withClock clock).step ≠ .ok (.ok (.waiting kind), t'))

section

variable {t : Turn} {frame : Frame} {below : CallStack} {asked : Suspension}
  (hwaits : ∀ clock, (t.withClock clock).Waits frame below asked)

include hwaits

/-- What lets the running frame go on ends what it waits for. -/
theorem HasWayOut.isEndable (h : t.HasWayOut) : asked.IsEndable := by
  have hnow : t.Waits frame below asked := hwaits t.world.clock
  cases h with
  | @answer response t' haccepted =>
    by_contra hnot
    have hignored := hnow.ignored response fun hanswered => hnot hanswered.isEndable
    rw [haccepted] at hignored
    cases hignored
  | @receive signal hheard =>
    by_contra hnot
    have hunheard := hnow.unheard signal fun hended => hnot (.inr (.inl ⟨signal, hended⟩))
    rw [hunheard] at hheard
    cases hheard
  | @time clock hreleased hpassed =>
    by_contra hnot
    have hpending := (hwaits clock).pending fun hdue => hnot (.inr (.inr ⟨_, hdue⟩))
    exact hpassed _ _ hpending

/-- What ends what the running frame waits for lets it go on. -/
theorem hasWayOut_of_isEndable (hstack : t.run.stack = frame :: below) (h : asked.IsEndable) :
    t.HasWayOut := by
  have hnow : t.Waits frame below asked := hwaits t.world.clock
  rcases h with ⟨response, hanswered, hresponse⟩ | ⟨signal, hended⟩ | ⟨now, hdue⟩
  · rcases hnow.answered response hanswered with ⟨t', haccepted, -⟩ | ⟨-, -, -, -, -, hquest, -⟩
    · exact .answer haccepted
    · exact absurd hquest hresponse
  · exact .receive (congrArg Prod.fst (hnow.ended signal hended).1)
  · obtain ⟨hsettle, -, hpassed⟩ := (hwaits { t.world.clock with now }).due hdue
    refine .time ?_ hpassed
    rw [hsettle, release_of_stack hstack]
    rfl

end

/-- While the running frame waits, there is a way out exactly when something ends that. -/
theorem hasWayOut_iff_of_waiting? {page : Page} {t₀ t : Turn}
    (hstart : t₀.run.stack = [Frame.root page]) (hrun : Relation.ReflTransGen Transition t₀ t)
    {asked : Suspension} (h : t.run.waiting? = some asked) :
    t.HasWayOut ↔ asked ≠ .dialogue (.options []) := by
  obtain ⟨frame, htop, hwaiting⟩ := Option.bind_eq_some_iff.mp h
  obtain ⟨below, hstack⟩ := List.head?_eq_some_iff.mp htop
  have hwaits (clock : Clock) : (t.withClock clock).Waits frame below asked := by
    have hlater : Relation.ReflTransGen Transition t₀ (t.withClock clock) :=
      hrun.tail (.elsewhere rfl rfl fun _ hloaded => hloaded)
    exact waits_of_stack_of_transitions hstart hlater hstack hwaiting
  rw [← Suspension.isEndable_iff]
  exact ⟨HasWayOut.isEndable hwaits, hasWayOut_of_isEndable hwaits hstack⟩

/-- However an execution goes on: out of whatever its running frame waits for there is a way, except
for a prompt for options that lead to no branch. A step that lets the execution wait leaves a way
out exactly when it does not execute such a prompt. -/
theorem hasWayOut_iff_of_transitions {page : Page} {t₀ t : Turn}
    (hstart : t₀.run.stack = [Frame.root page]) (hrun : Relation.ReflTransGen Transition t₀ t) :
    (∀ asked, t.run.waiting? = some asked →
      (t.HasWayOut ↔ asked ≠ .dialogue (.options []))) ∧
    ∀ kind t', t.step = .ok (.ok (.suspended kind), t') →
      (t'.HasWayOut ↔ ¬ ∃ text face options,
        t.command? = some (.showOptions text face options [])) := by
  refine ⟨fun asked hwaiting => hasWayOut_iff_of_waiting? hstart hrun hwaiting, ?_⟩
  intro kind t' hstep
  have hafter : Relation.ReflTransGen Transition t₀ t' := hrun.tail (.step hstep)
  have hcallers := (callers_and_loaded_of_transitions hstart hrun).1
  generalize houtcome : StepOutcome.suspended kind = outcome at hstep
  cases demandCase_step hcallers hstep with
  | quiet hruns => exact absurd houtcome.symm (hruns kind)
  | silent hcommand hawaits _ hwaiting =>
    rw [hasWayOut_iff_of_waiting? hstart hafter hwaiting, hcommand, Ne, hawaits.unbranched_iff]
    simp
  | prompted hcommand hasks _ _ _ hwaiting =>
    rw [hasWayOut_iff_of_waiting? hstart hafter hwaiting, hcommand, Ne, hasks.unbranched_iff]
    simp

/-- An execution that was offered an option with a branch has a way out. -/
theorem hasWayOut_iff_of_transitions_offering :
    ∃ t', offering.step = .ok (.ok (.suspended .dialogue), t') ∧ t'.HasWayOut := by
  have hstep : offering.step = .ok (.ok (.suspended .dialogue), _) := rfl
  refine ⟨_, hstep, ((hasWayOut_iff_of_transitions rfl .refl).2 .dialogue _ hstep).mpr ?_⟩
  rintro ⟨text, face, options, hcommand⟩
  cases hcommand

/-- A turn of a loaded player at the start of a page that asks for its only option, which leads to
no branch. -/
def unbranched : Turn :=
  ⟨World.lone (.fresh ⟨3⟩ "Ann" .nil 1 1),
    .start ⟨4⟩ ⟨5⟩ ⟨3⟩ ((Page.draft ⟨1⟩ "offer" ⟨2⟩).withRoot [.showOptions "" "" ["on"] []])⟩

/-- After a step the player is asked for the one option, and nothing lets the script go on: neither
that option, nor any other response, nor a signal, nor the time. -/
theorem not_hasWayOut_unbranched :
    ∃ t', unbranched.step = .ok (.ok (.suspended .dialogue), t') ∧ ¬ t'.HasWayOut := by
  have hstep : unbranched.step = .ok (.ok (.suspended .dialogue), _) := rfl
  have hrun := Relation.ReflTransGen.single (Transition.step hstep)
  refine ⟨_, hstep, ?_⟩
  rw [hasWayOut_iff_of_waiting? rfl hrun rfl]
  exact not_not_intro rfl

end Turn

end EventScript
