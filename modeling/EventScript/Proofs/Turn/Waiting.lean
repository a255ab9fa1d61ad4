import EventScript.Proofs.CallStack.Run
import EventScript.Proofs.CallStack.Transition
import EventScript.Proofs.Scene.Backdrop

/-!
# Waiting

Only the running frame of an execution waits, and only for a loaded player. What it waits for ends
by the time, the response or the signal that is meant for it, which lets exactly this frame go on;
everything else leaves the turn as it is.
-/

namespace EventScript

/-! ## What ends a suspension -/

namespace Suspension

/-- A response answers what is asked. An option has to be one that leads to a branch. -/
inductive AnsweredBy : Suspension → Response → Prop
  | text : AnsweredBy (dialogue .text) .continue
  | options {branches : List BranchId} {choice : UInt64}
      (inRange : choice.toNat < branches.length) :
      AnsweredBy (dialogue (.options branches)) (.option choice)
  | input {target : VariableRef} {branches : List BranchId} {text : String} :
      AnsweredBy (dialogue (.input target branches)) (.input text)
  | cancel {target : VariableRef} {branches : List BranchId} :
      AnsweredBy (dialogue (.input target branches)) .cancel
  | picture : AnsweredBy picture .pictureClosed
  | questOffer {quest : QuestId} {branches : List BranchId} {accepted : Bool} :
      AnsweredBy (questOffer quest branches) (.questOffer accepted)

/-- A signal tells of what is waited for. -/
inductive EndedBy : Suspension → Signal → Prop
  | route {target : RouteTarget} : EndedBy (route target) (.routeCompleted target)
  | session {kind : SessionKind} : EndedBy (session kind) (.sessionClosed kind)
  | fade : EndedBy fade .fadeCompleted

/-- A wait is over. -/
def IsDue (s : Suspension) (now : UInt64) : Prop := ∃ deadline, s = timer deadline ∧ deadline ≤ now

theorem isAnsweredBy_iff {asked : Suspension} {response : Response} :
    asked.isAnsweredBy response = true ↔ asked.AnsweredBy response := by
  constructor
  · intro h
    unfold isAnsweredBy at h
    split at h
    · exact .text
    · exact .options (of_decide_eq_true h)
    · exact .input
    · exact .cancel
    · exact .picture
    · exact .questOffer
    · cases h
  · rintro (_ | h | _ | _ | _ | _)
    case options => exact decide_eq_true h
    all_goals rfl

theorem isEndedBy_iff {awaited : Suspension} {signal : Signal} :
    awaited.isEndedBy signal = true ↔ awaited.EndedBy signal := by
  constructor
  · intro h
    unfold isEndedBy at h
    split at h
    · rw [beq_iff_eq.mp h]
      exact .route
    · rw [beq_iff_eq.mp h]
      exact .session
    · exact .fade
    · cases h
  · rintro (_ | _ | _)
    · exact beq_self_eq_true _
    · exact beq_self_eq_true _
    · rfl

end Suspension

/-! ## Frames that wait -/

/-- The deadline of an execution is that of the timer it waits for. -/
theorem Instance.waitDeadline?_eq_some_iff {i : Instance} {deadline : UInt64} :
    i.waitDeadline? = some deadline ↔ i.waiting? = some (.timer deadline) := by
  unfold waitDeadline?
  split
  · next d hd => rw [hd]; simp
  · next h => exact ⟨nofun, fun hi => absurd hi (h deadline)⟩

/-- What the running frame waits for. -/
theorem Instance.waiting?_of_stack {i : Instance} {frame : Frame} {below : CallStack}
    (hstack : i.stack = frame :: below) : i.waiting? = frame.waiting := by
  unfold waiting? top?
  rw [hstack]
  rfl

namespace Scene

/-- Asking for a quest that cannot be asked for. -/
theorem canStart_of_beginQuest {s : Scene} {quest : QuestId} {fault : Fault}
    (h : s.beginQuest quest = .error fault) : s.perspective.canStart quest = .error fault := by
  rcases Guarded.bind_eq_error.mp h with hstart | ⟨startable, -, h⟩
  · exact hstart
  · split at h
    · split at h
      · split at h <;> cases h
      · cases h
    · cases h

/-- Going on after a response comes to an end, but for asking for a quest that was offered. -/
theorem canStart_of_resume {s : Scene} {asked : Suspension} {response : Response} {fault : Fault}
    (h : s.resume asked response = .error fault) :
    ∃ quest branches, asked = .questOffer quest branches ∧ response = .questOffer true ∧
      s.perspective.canStart quest = .error fault := by
  unfold resume at h
  split at h
  case h_4 quest branches accepted =>
    cases accepted with
    | true =>
      refine ⟨quest, branches, rfl, rfl, ?_⟩
      rcases Guarded.bind_eq_error.mp h with hbegin | ⟨_, -, h⟩
      · exact canStart_of_beginQuest hbegin
      · cases h
    | false => cases h
  all_goals cases h

end Scene

namespace CallStack

/-- No frame waits. -/
def Runs (s : CallStack) : Prop := ∀ f ∈ s, f.isSuspended = false

/-- Frames that do not wait are left and let go on as such. -/
theorem isSettled_runs : IsSettled Runs where
  nil _ hf := absurd hf List.not_mem_nil
  leave h f hf := h f (List.mem_cons_of_mem _ hf)
  release h := List.forall_mem_cons.mpr ⟨rfl, fun f hf => h f (List.mem_cons_of_mem _ hf)⟩

/-- A frame that was let go on does not wait. -/
theorem Runs.release {s : CallStack} (h : s.Runs) (f : Frame) : Runs (f.release :: s) :=
  List.forall_mem_cons.mpr ⟨rfl, h⟩

/-- Called pages do not wait. -/
theorem Runs.call {s : CallStack} (h : s.Runs) (pages : List Page) :
    Runs (pages.foldl (fun st page => .root page :: st) s) := by
  intro f hf
  rcases mem_call hf with hf | ⟨page, -, rfl⟩
  · exact h f hf
  · rfl

/-- Only the running frame may wait, whatever happens. -/
theorem isKept_runs_tail : IsKept fun s => Runs s.tail where
  nil _ hf := absurd hf List.not_mem_nil
  leave h f hf := h f (List.mem_of_mem_tail hf)
  release h := h
  fail h _ := h
  execute {f s c scene m} h hruns _ _ hm := by
    have hstack : Runs (f.advance :: s) :=
      List.forall_mem_cons.mpr ⟨Frame.isSuspended_eq_false_iff.mpr hruns, h⟩
    cases hm with
    | keep | suspend => exact h
    | enter => exact hstack
    | call => exact fun g hg => hstack.call _ g (List.mem_of_mem_tail hg)
    | jump _ hfound =>
      intro g hg
      rcases List.mem_append.mp (List.mem_of_mem_tail hg) with hg | hg
      · exact ((Page.resolveLabel?_isSegment hfound).2 g (List.mem_reverse.mp hg)).2
      · exact hstack g (leavePage_subset _ g hg)
    | leave => exact fun g hg => absurd hg List.not_mem_nil
  answer {f s asked scene m} h _ _ hm := by
    cases hm with
    | keep => exact h
    | enter => exact h.release f

end CallStack

namespace Turn

/-! ## Runs -/

/-- One thing that happens in a turn: a step, a response, a signal, the end of the execution, or a
change from outside that leaves the frames alone and keeps the loaded players loaded. -/
inductive Transition : Turn → Turn → Prop
  | step {t : Turn} {r : Outcome StepOutcome} (result : t.step = .ok r) : Transition t r.2
  | answer {t : Turn} {response : Response} {r : Outcome Bool}
      (result : t.answer response = .ok r) : Transition t r.2
  | receive {t : Turn} (signal : Signal) :
      Transition t { t with run := (t.run.receive signal).2 }
  | cancel {t : Turn} : Transition t { t with run := t.run.cancel }
  | elsewhere {t t' : Turn} (stack : t'.run.stack = t.run.stack)
      (player : t'.run.player = t.run.player)
      (loaded : ∀ id, (t.world.player? id).isSome → (t'.world.player? id).isSome) : Transition t t'

/-- What happens in a turn happens to its execution. -/
theorem Transition.run {t t' : Turn} (h : t.Transition t') : t.run.Transition t'.run := by
  cases h with
  | step result => exact .step (w := t.world) result
  | answer result => exact .answer (w := t.world) result
  | receive signal => exact .receive signal
  | cancel => exact .cancel
  | elsewhere stack => exact .elsewhere stack

/-- An execution waits for a loaded player only. -/
def WaitsLoaded (t : Turn) : Prop :=
  t.run.stack.Runs ∨ (t.world.player? t.run.player).isSome

/-- The player of an execution stays loaded while the backdrop stays. -/
theorem isSome_player?_of_backdrop {t t' : Turn} (hworld : t'.world.backdrop = t.world.backdrop)
    (horigin : t'.run.origin = t.run.origin) (h : (t.world.player? t.run.player).isSome) :
    (t'.world.player? t'.run.player).isSome := by
  have hplayer : t'.run.origin.player = t.run.origin.player := by rw [horigin]
  change t'.run.player = t.run.player at hplayer
  rw [hplayer]
  exact (congrFun (congrArg World.Backdrop.loaded hworld) t.run.player).trans h

/-- Without its player no execution starts to wait in a step. -/
theorem runs_or_loaded_of_step {t : Turn} {r : Outcome StepOutcome} (h : t.step = .ok r)
    (hruns : t.run.stack.Runs) :
    r.2.run.stack.Runs ∨ (t.world.player? t.run.player).isSome := by
  have hsettled := CallStack.isSettled_runs.settle hruns
  cases step_cases h with
  | defect | completed | waiting => exact .inl hsettled
  | execute hstack hwaiting hcase =>
    cases hcase with
    | missingList | outOfRange | missingPlayer | unsupported =>
      rw [hstack] at hsettled
      refine .inl ?_
      rw [Instance.modifyTop_cons hstack]
      exact List.forall_mem_cons.mpr ⟨Frame.isSuspended_eq_false_iff.mpr hwaiting,
        fun f hf => hsettled f (List.mem_cons_of_mem _ hf)⟩
    | executed _ _ hplayer =>
      rw [settle_world, settle_player] at hplayer
      exact .inr (Option.isSome_iff_exists.mpr ⟨_, hplayer⟩)

/-- Nor in a response. -/
theorem runs_or_loaded_of_answer {t : Turn} {response : Response} {r : Outcome Bool}
    (h : t.answer response = .ok r) (hruns : t.run.stack.Runs) :
    r.2.run.stack.Runs ∨ (t.world.player? t.run.player).isSome := by
  cases answer_cases h with
  | ignored => exact .inl hruns
  | missingPlayer => exact .inl (CallStack.isSettled_runs.release_stack hruns)
  | accepted _ _ _ hplayer => exact .inr (Option.isSome_iff_exists.mpr ⟨_, hplayer⟩)

/-- Whatever happens, an execution waits for a loaded player only. -/
theorem Transition.waitsLoaded {t t' : Turn} (h : t.Transition t') (ht : t.WaitsLoaded) :
    t'.WaitsLoaded := by
  cases h with
  | step result =>
    obtain ⟨hworld, horigin⟩ := backdrop_step result
    have hloaded := isSome_player?_of_backdrop hworld horigin
    exact ht.elim (fun hruns => (runs_or_loaded_of_step result hruns).imp_right hloaded)
      fun h => .inr (hloaded h)
  | answer result =>
    obtain ⟨hworld, horigin⟩ := backdrop_answer result
    have hloaded := isSome_player?_of_backdrop hworld horigin
    exact ht.elim (fun hruns => (runs_or_loaded_of_answer result hruns).imp_right hloaded)
      fun h => .inr (hloaded h)
  | receive signal =>
    refine ht.imp (fun hruns => CallStack.isSettled_runs.receive hruns signal) fun h => ?_
    have hplayer : (t.run.receive signal).2.player = t.run.player := by
      unfold Instance.receive
      split
      · exact t.run.modifyTop_player Frame.release
      · rfl
    rwa [hplayer]
  | cancel => exact .inl CallStack.isSettled_runs.nil
  | elsewhere stack player loaded =>
    refine ht.imp (fun hruns => stack ▸ hruns) fun h => ?_
    rw [player]
    exact loaded _ h

/-! ## Turns that wait -/

section Waits

variable {t : Turn} {frame : Frame} {below : CallStack} {asked : Suspension}
  (hstack : t.run.stack = frame :: below) (hwaiting : frame.waiting = some asked)

include hstack

/-- Letting the running frame go on. -/
theorem release_of_stack : t.run.release = { t.run with stack := frame.release :: below } :=
  Instance.modifyTop_cons hstack Frame.release

include hwaiting

/-- An execution that waits leaves no frame. -/
theorem unwind_of_waiting : t.run.unwind = t.run := by
  unfold Instance.unwind
  rw [hstack, CallStack.unwind_of_waiting hwaiting, ← hstack]

/-- Before the time has come settling finds the turn as it is. -/
theorem settle_of_pending (hpending : ¬ asked.IsDue t.world.now) : t.settle = t := by
  unfold settle
  dsimp only
  rw [unwind_of_waiting hstack hwaiting]
  split
  · next deadline hdeadline =>
    rw [Instance.waitDeadline?_eq_some_iff, Instance.waiting?_of_stack hstack,
      hwaiting] at hdeadline
    rw [if_neg fun hdue => hpending ⟨deadline, Option.some.inj hdeadline, hdue⟩]
  · rfl

/-- When the time has come settling lets the frame go on and leaves what is finished then. -/
theorem settle_of_due (hdue : asked.IsDue t.world.now) :
    t.settle = { t with run := t.run.release.unwind } := by
  obtain ⟨deadline, rfl, hle⟩ := hdue
  have hdeadline : t.run.waitDeadline? = some deadline := by
    rw [Instance.waitDeadline?_eq_some_iff, Instance.waiting?_of_stack hstack, hwaiting]
  unfold settle
  dsimp only
  rw [unwind_of_waiting hstack hwaiting, hdeadline]
  dsimp only
  rw [if_pos hle]

/-- A response that does not answer what is asked. -/
theorem answer_of_not_answered {response : Response} (h : ¬ asked.AnsweredBy response) :
    t.answer response = .ok (.ok false, t) := by
  rw [← Suspension.isAnsweredBy_iff] at h
  unfold answer Instance.top?
  simp only [hstack, List.head?_cons, hwaiting, h]
  rfl

/-- A response that answers what is asked, for a loaded player. -/
theorem answer_of_answered {response : Response} (h : asked.AnsweredBy response) {p : Player}
    (hplayer : t.world.player? t.run.player = some p) :
    t.answer response =
      (Scene.resume ⟨⟨t.world, p⟩, t.run.release, frame.page⟩ asked response).map fun s =>
        (.ok true, ⟨s.world.putPlayer t.run.player s.player, s.run⟩) := by
  have hrelease : t.run.release.player = t.run.player := t.run.modifyTop_player Frame.release
  rw [← Suspension.isAnsweredBy_iff] at h
  unfold answer Instance.top? stage
  simp only [hstack, List.head?_cons, hwaiting, h, hrelease, hplayer]
  cases Scene.resume ⟨⟨t.world, p⟩, t.run.release, frame.page⟩ asked response <;> rfl

/-- A signal that tells of what is waited for. -/
theorem receive_of_ended {signal : Signal} (h : asked.EndedBy signal) :
    t.run.receive signal = (true, { t.run with stack := frame.release :: below }) := by
  rw [← Suspension.isEndedBy_iff] at h
  unfold Instance.receive
  rw [Instance.waiting?_of_stack hstack, hwaiting, Option.any_some, if_pos h,
    release_of_stack hstack]

/-- Any other signal. -/
theorem receive_of_not_ended {signal : Signal} (h : ¬ asked.EndedBy signal) :
    t.run.receive signal = (false, t.run) := by
  rw [← Suspension.isEndedBy_iff] at h
  unfold Instance.receive
  rw [Instance.waiting?_of_stack hstack, hwaiting, Option.any_some, if_neg h]

end Waits

/-- What is concluded after a command is never that nothing was executed. -/
theorem conclude_ne_waiting (t : Turn) (kind : SuspensionKind) :
    t.conclude.1 ≠ .ok (.waiting kind) := by
  unfold conclude
  split
  · nofun
  · dsimp only
    split
    · nofun
    · split <;> nofun

/-- A step that finds no frame waiting does not wait. -/
theorem step_ne_waiting {t : Turn} (hruns : t.settle.run.stack.Runs) (kind : SuspensionKind)
    (t' : Turn) : t.step ≠ .ok (.ok (.waiting kind), t') := by
  intro h
  generalize hr : (Except.ok (StepOutcome.waiting kind), t') = r at h
  cases step_cases h with
  | defect | completed => cases hr
  | @waiting frame _ s hstack hwaiting =>
    have hframe := hruns frame (hstack ▸ List.mem_cons_self)
    rw [Frame.isSuspended_eq_false_iff, hwaiting] at hframe
    cases hframe
  | execute _ _ hcase =>
    cases hcase with
    | missingList | outOfRange | missingPlayer | unsupported => cases hr
    | executed => exact conclude_ne_waiting _ kind (congrArg Prod.fst hr).symm

/-- Where nothing waits, responses and signals change nothing. -/
theorem ignores_of_not_waiting {t : Turn} (h : t.run.waiting? = none) (response : Response)
    (signal : Signal) :
    t.answer response = .ok (.ok false, t) ∧ t.run.receive signal = (false, t.run) := by
  refine ⟨?_, by unfold Instance.receive; rw [h]; rfl⟩
  unfold Instance.waiting? at h
  unfold answer
  cases htop : t.run.top? with
  | none => rfl
  | some frame =>
    rw [htop] at h
    dsimp only [Option.bind_some] at h
    simp only [h]
    rfl

/-- The frame in front of the others was let go on, and at most the start of one branch of what was
asked was put before it; no frame waits. -/
structure IsReleased (frame : Frame) (below : CallStack) (asked : Suspension) (s : CallStack) :
    Prop where
  frames : s = frame.release :: below ∨ ∃ b ∈ asked.branches, frame.page.hasList b ∧
    s = .start frame.page b 0 :: frame.release :: below
  runs : s.Runs

/-- What becomes of a turn while its running frame waits for what it asked. -/
structure Waits (t : Turn) (frame : Frame) (below : CallStack) (asked : Suspension) : Prop where
  /-- Until the time of a wait has come, steps find the turn as it is. -/
  pending : ¬ asked.IsDue t.world.now → t.step = .ok (.ok (.waiting asked.kind), t)
  /-- When it has come, the next step first lets the frame go on, and then does not wait. -/
  due : asked.IsDue t.world.now →
    t.settle = { t with run.stack := CallStack.unwind (frame.release :: below) } ∧
      t.settle.run.stack.Runs ∧ ∀ kind t', t.step ≠ .ok (.ok (.waiting kind), t')
  /-- Other responses than those that answer what is asked are turned down. -/
  ignored : ∀ response, ¬ asked.AnsweredBy response → t.answer response = .ok (.ok false, t)
  /-- A response that answers what is asked is accepted; only asking for a quest that was offered
  may not come to an end. -/
  answered : ∀ response, asked.AnsweredBy response →
    (∃ t', t.answer response = .ok (.ok true, t') ∧
      IsReleased frame below asked t'.run.stack) ∨
    ∃ quest branches p fault, asked = .questOffer quest branches ∧ response = .questOffer true ∧
      t.world.player? t.run.player = some p ∧
      (Perspective.mk t.world p (some t.run)).canStart quest = .error fault ∧
      t.answer response = .error fault
  /-- A signal that tells of what is waited for is accepted. -/
  ended : ∀ signal, asked.EndedBy signal →
    t.run.receive signal = (true, { t.run with stack := frame.release :: below }) ∧
      IsReleased frame below asked (frame.release :: below)
  /-- Other signals are not heard. -/
  unheard : ∀ signal, ¬ asked.EndedBy signal → t.run.receive signal = (false, t.run)

/-! ## What is waited for -/

section

variable {t : Turn} {frame : Frame} {below : CallStack} {asked : Suspension}
  (hstack : t.run.stack = frame :: below) (hwaiting : frame.waiting = some asked)
  (hcallers : below.Runs)

include hcallers

/-- The frame that was let go on does not wait, and those below it never do. -/
theorem isReleased_release : IsReleased frame below asked (frame.release :: below) where
  frames := .inl rfl
  runs := hcallers.release frame

/-- After an answer at most one branch of what was asked is entered. -/
theorem isReleased_of_answers {s : Scene} {m : StackChange} (h : s.Answers asked m)
    (hpage : s.page = frame.page) :
    IsReleased frame below asked (m.apply frame.page (frame.release :: below)) := by
  cases h with
  | keep => exact isReleased_release hcallers
  | enter hbranch hregistered =>
    exact ⟨.inr ⟨_, hbranch, hpage ▸ hregistered, rfl⟩,
      List.forall_mem_cons.mpr ⟨rfl, hcallers.release frame⟩⟩

include hstack hwaiting

/-- A response that answers what is asked lets exactly the running frame go on. -/
theorem isReleased_of_answered (hloaded : (t.world.player? t.run.player).isSome)
    {response : Response} (h : asked.AnsweredBy response) :
    (∃ t', t.answer response = .ok (.ok true, t') ∧ IsReleased frame below asked t'.run.stack) ∨
      ∃ quest branches p fault, asked = .questOffer quest branches ∧
        response = .questOffer true ∧ t.world.player? t.run.player = some p ∧
        (Perspective.mk t.world p (some t.run)).canStart quest = .error fault ∧
        t.answer response = .error fault := by
  obtain ⟨p, hp⟩ := Option.isSome_iff_exists.mp hloaded
  have hanswer := answer_of_answered hstack hwaiting h hp
  have hrelease := release_of_stack hstack
  cases hresume : Scene.resume ⟨⟨t.world, p⟩, t.run.release, frame.page⟩ asked response with
  | ok s =>
    obtain ⟨m, hm, hs, -⟩ := (Scene.resume_stackFree
      ⟨⟨t.world, p⟩, t.run.release, frame.page⟩ asked response).result hresume
    rw [hresume] at hanswer
    refine .inl ⟨_, hanswer, ?_⟩
    rw [show s.run.stack = m.apply frame.page t.run.release.stack from hs, hrelease]
    exact isReleased_of_answers hcallers hm rfl
  | error fault =>
    obtain ⟨quest, branches, rfl, rfl, hstart⟩ := Scene.canStart_of_resume hresume
    rw [hresume] at hanswer
    refine .inr ⟨quest, branches, p, fault, rfl, rfl, hp, ?_, hanswer⟩
    rw [← hstart, hrelease]
    exact (congrFun (Perspective.canStart_withStack t.world p t.run _) quest).symm

/-- While the running frame waits and no other does, it waits for what it asked. -/
theorem waits_of_stack (hloaded : (t.world.player? t.run.player).isSome) :
    t.Waits frame below asked where
  pending hpending := by
    have hsettle := settle_of_pending hstack hwaiting hpending
    have hdefect : t.run.stack.defect? = none := by
      unfold CallStack.defect? Frame.defect? Frame.isSuspended
      rw [hstack, List.head?_cons, Option.bind_some, hwaiting]
      rfl
    have htop : t.run.top? = some frame := by
      unfold Instance.top?
      rw [hstack, List.head?_cons]
    unfold step
    simp only [hsettle, hdefect, htop, hwaiting]
    rfl
  due hdue := by
    have hsettle : t.settle =
        { t with run.stack := CallStack.unwind (frame.release :: below) } := by
      rw [settle_of_due hstack hwaiting hdue, release_of_stack hstack]
      rfl
    have hruns : t.settle.run.stack.Runs := by
      rw [hsettle]
      exact CallStack.isSettled_runs.unwind (hcallers.release frame)
    exact ⟨hsettle, hruns, step_ne_waiting hruns⟩
  ignored _ h := answer_of_not_answered hstack hwaiting h
  answered _ h := isReleased_of_answered hstack hwaiting hcallers hloaded h
  ended _ h := ⟨receive_of_ended hstack hwaiting h, isReleased_release hcallers⟩
  unheard _ h := receive_of_not_ended hstack hwaiting h

end

/-- Only the running frame of an execution waits, and only for a loaded player. -/
theorem callers_and_loaded_of_transitions {page : Page} {t₀ t : Turn}
    (hstart : t₀.run.stack = [Frame.root page])
    (hrun : Relation.ReflTransGen Transition t₀ t) :
    CallStack.Runs t.run.stack.tail ∧ t.WaitsLoaded := by
  induction hrun with
  | refl =>
    have hroot : CallStack.Runs [Frame.root page] :=
      List.forall_mem_cons.mpr ⟨rfl, CallStack.isSettled_runs.nil⟩
    rw [WaitsLoaded, hstart]
    exact ⟨CallStack.isSettled_runs.nil, .inl hroot⟩
  | tail _ hlast ih =>
    exact ⟨CallStack.isKept_runs_tail.transition hlast.run ih.1, hlast.waitsLoaded ih.2⟩

/-- While the running frame of an execution waits, it waits for what it asked. -/
theorem waits_of_stack_of_transitions {page : Page} {t₀ t : Turn}
    (hstart : t₀.run.stack = [Frame.root page]) (hrun : Relation.ReflTransGen Transition t₀ t)
    {frame : Frame} {below : CallStack} {asked : Suspension}
    (hstack : t.run.stack = frame :: below) (hwaiting : frame.waiting = some asked) :
    t.Waits frame below asked := by
  obtain ⟨hcallers, hloaded⟩ := callers_and_loaded_of_transitions hstart hrun
  rw [hstack, List.tail_cons] at hcallers
  refine waits_of_stack hstack hwaiting hcallers (hloaded.resolve_left fun hruns => ?_)
  have hframe := hruns frame (hstack ▸ List.mem_cons_self)
  rw [Frame.isSuspended_eq_false_iff, hwaiting] at hframe
  cases hframe

/-- However an execution goes on: while its running frame waits, only what is meant for that ends
the suspension, and while it does not wait, responses and signals change nothing. -/
theorem waits_of_transitions {page : Page} {t₀ t : Turn}
    (hstart : t₀.run.stack = [Frame.root page])
    (hrun : Relation.ReflTransGen Transition t₀ t) :
    (t.run.waiting? = none → ∀ response signal,
      t.answer response = .ok (.ok false, t) ∧ t.run.receive signal = (false, t.run)) ∧
    ∀ frame below asked, t.run.stack = frame :: below → frame.waiting = some asked →
      t.Waits frame below asked := by
  refine ⟨ignores_of_not_waiting, fun frame below asked hstack hwaiting => ?_⟩
  exact waits_of_stack_of_transitions hstart hrun hstack hwaiting

/-- A turn of a loaded player at the start of a page that asks for its only option. -/
def offering : Turn :=
  let page := ((Page.draft ⟨1⟩ "offer" ⟨2⟩).withRoot [.showOptions "" "" ["on"] [⟨3⟩]]).withList ⟨3⟩
    [.wait 5]
  ⟨World.lone (.fresh ⟨3⟩ "Ann" .nil 1 1), .start ⟨4⟩ ⟨5⟩ ⟨3⟩ page⟩

/-- After a step it waits for the one option there is to choose, and for no other. -/
theorem waits_of_transitions_offering :
    ∃ t frame below asked, Relation.ReflTransGen Transition offering t ∧
      t.run.stack = frame :: below ∧ frame.waiting = some asked ∧ t.Waits frame below asked ∧
      asked.AnsweredBy (.option 0) ∧ ¬ asked.AnsweredBy (.option 1) := by
  have hstep : offering.step = .ok (.ok (.suspended .dialogue), _) := rfl
  have hrun := Relation.ReflTransGen.single (Transition.step hstep)
  refine ⟨_, _, _, _, hrun, rfl, rfl, (waits_of_transitions rfl hrun).2 _ _ _ rfl rfl,
    .options (by decide), ?_⟩
  rintro ⟨⟩
  contradiction

end Turn

end EventScript
