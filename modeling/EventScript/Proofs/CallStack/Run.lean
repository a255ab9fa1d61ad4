import Mathlib.Logic.Relation
import EventScript.Proofs.CallStack.Coherence
import EventScript.Proofs.CallStack.Transition

/-!
# Call stacks of running executions

Whatever happens to an execution that was started on a valid page, its call stack stays coherent.
No step can therefore run off a list or into one that is not registered.
-/

namespace EventScript

/-! ## Frames that stand in a list -/

namespace Frame

/-- Whether a placed frame is exhausted can be told. -/
theorem IsPlaced.isExhausted {f : Frame} (h : f.IsPlaced) : ∃ b, f.isExhausted = .ok b := by
  obtain ⟨commands, hlist, _⟩ := h
  refine ⟨decide (commands.length ≤ f.index), ?_⟩
  unfold Frame.isExhausted Frame.commands
  rw [hlist]
  rfl

/-- A placed frame has no defect. -/
theorem IsPlaced.defect? {f : Frame} (h : f.IsPlaced) : f.defect? = none := by
  obtain ⟨b, hb⟩ := h.isExhausted
  unfold Frame.defect?
  rw [hb]
  split <;> rfl

/-- A frame in a list that neither waits nor is finished stands in front of a command. -/
theorem index_lt {f : Frame} (hruns : f.waiting = none)
    (hfinished : f.isFinished = false) {commands : List Command}
    (hlist : f.page.list? f.list = some commands) : f.index < commands.length := by
  unfold Frame.isFinished Frame.isSuspended Frame.isExhausted Frame.commands at hfinished
  rw [hruns, hlist] at hfinished
  simpa [Except.map] using hfinished

end Frame

/-- A coherent call stack has no defect. -/
theorem CallStack.Coherent.defect? {s : CallStack} (h : s.Coherent) : s.defect? = none := by
  cases s with
  | nil => rfl
  | cons f rest => exact (h.placed f List.mem_cons_self).defect?

/-- Leaving frames and letting the running one go on keeps a call stack coherent. -/
theorem CallStack.Coherent.isSettled : IsSettled Coherent where
  nil := .nil
  leave h := h.tail
  release {f _} h := h.replaceTop rfl rfl (h.placed f List.mem_cons_self)

namespace Turn

/-! ## Steps -/

/-- Concluding keeps a call stack coherent, and there is no error to conclude with. -/
theorem conclude_coherent {t : Turn} (h : t.run.stack.Coherent) :
    t.conclude.2.run.stack.Coherent ∧ ∃ o, t.conclude.1 = .ok o := by
  unfold conclude
  cases t.run.suspension? with
  | some kind => exact ⟨h, _, rfl⟩
  | none =>
    have hunwound : t.run.unwind.stack.Coherent := h.unwind
    simp only [hunwound.defect?]
    exact ⟨hunwound, _, rfl⟩

/-- Why a step fails: it would execute a command of unknown kind, or the player is not loaded. -/
inductive Failure (t : Turn) : StepError → Prop
  | unsupported (command : t.command? = some .unsupported) :
      Failure t (.unsupportedCommand Command.unsupported.kindName)
  | missingPlayer (player : t.world.player? t.run.player = none) :
      Failure t (.missingPlayer t.run.player)

/-- What a step does to a coherent call stack: it stays coherent, and the step fails for no other
reason than the command or the player, with the world as it was. -/
structure IsSafe (t : Turn) (r : Outcome StepOutcome) : Prop where
  coherent : r.2.run.stack.Coherent
  failure : ∀ e, r.1 = .error e → t.Failure e ∧ r.2.world = t.world

/-- A step on a coherent call stack is safe. -/
theorem step_isSafe {t : Turn} (hvalid : t.world.HasValidEvents) (h : t.run.stack.Coherent)
    {r : Outcome StepOutcome} (hstep : t.step = .ok r) : t.IsSafe r := by
  have hsettled := CallStack.Coherent.isSettled.settle h
  cases step_cases hstep with
  | defect hdefect =>
    rw [hsettled.defect?] at hdefect
    cases hdefect
  | completed | waiting =>
    refine ⟨hsettled, ?_⟩
    rintro e ⟨⟩
  | @execute frame rest r hstack hruns hcase =>
    rw [hstack] at hsettled
    have hplaced := hsettled.placed frame List.mem_cons_self
    have hadvance : (t.settle.run.modifyTop Frame.advance).stack = frame.advance :: rest := by
      rw [Instance.modifyTop_cons hstack]
    have hindex : ∀ cs, frame.page.list? frame.list = some cs → frame.index < cs.length :=
      fun cs hlist => Frame.index_lt hruns (isFinished_of_settle hstack) hlist
    have hadvanced : CallStack.Coherent (frame.advance :: rest) := by
      obtain ⟨cs, hlist, _⟩ := hplaced
      exact hsettled.replaceTop rfl rfl ⟨cs, hlist, hindex cs hlist⟩
    cases hcase with
    | missingList hlist =>
      obtain ⟨cs, hsome, _⟩ := hplaced
      rw [hsome] at hlist
      cases hlist
    | outOfRange hlist hcommand =>
      have hlt := hindex _ hlist
      rw [List.getElem?_eq_none_iff] at hcommand
      omega
    | missingPlayer hlist hcommand hplayer =>
      refine ⟨hadvance ▸ hadvanced, ?_⟩
      rintro e ⟨⟩
      rw [settle_world, settle_player] at hplayer
      rw [settle_player]
      exact ⟨.missingPlayer hplayer, t.settle_world⟩
    | unsupported hlist hcommand =>
      refine ⟨hadvance ▸ hadvanced, ?_⟩
      rintro e ⟨⟩
      refine ⟨.unsupported ?_, t.settle_world⟩
      rw [command?_of_stack hstack hruns]
      exact Frame.command?_of_list hlist hcommand
    | @executed cs c p s hlist hcommand hplayer hsupported hscene =>
      obtain ⟨m, hm, hs, _⟩ := (Scene.execute_stackFree
        ⟨⟨t.settle.world, p⟩, t.settle.run.modifyTop Frame.advance, frame.page⟩ c).result hscene
      have hsound := hm.isSound (show t.settle.world.HasValidEvents by rwa [settle_world])
      have hstack' : s.run.stack = m.apply frame.page (frame.advance :: rest) := by
        rw [← hadvance]
        exact hs
      have hcoherent : s.run.stack.Coherent := by
        rw [hstack']
        exact hadvanced.apply (by unfold Frame.isSuspended Frame.advance; rw [hruns]; rfl) hsound
      obtain ⟨hconcluded, o, ho⟩ := conclude_coherent
        (t := ⟨s.world.putPlayer t.settle.run.player s.player, s.run⟩) hcoherent
      refine ⟨hconcluded, fun e he => ?_⟩
      rw [ho] at he
      cases he

/-! ## Responses -/

/-- A response keeps a call stack coherent. -/
theorem answer_coherent {t : Turn} (h : t.run.stack.Coherent) {response : Response}
    {r : Outcome Bool} (hanswer : t.answer response = .ok r) : r.2.run.stack.Coherent := by
  have hanswered := answered_of_answer hanswer
  generalize r.2.run.stack = st at hanswered ⊢
  cases hanswered with
  | ignored => exact h
  | failed => exact CallStack.Coherent.isSettled.release_stack h
  | @accepted frame rest asked s m hstack hwaiting hpage hm =>
    rw [hstack] at h
    have hreleased : CallStack.Coherent (frame.release :: rest) :=
      CallStack.Coherent.isSettled.release h
    exact hreleased.apply rfl (hpage ▸ hm.isSound)

end Turn

namespace Instance

/-! ## Runs -/

/-- One thing that happens to an execution, in a world that may be any other than before: a step, a
response, a signal, or its end. -/
inductive Call : Instance → Instance → Prop
  | step {w : World} {i : Instance} {r : Turn.Outcome StepOutcome} (valid : w.HasValidEvents)
      (result : (Turn.mk w i).step = .ok r) : Call i r.2.run
  | answer {w : World} {i : Instance} {response : Response} {r : Turn.Outcome Bool}
      (result : (Turn.mk w i).answer response = .ok r) : Call i r.2.run
  | receive {i : Instance} (signal : Signal) : Call i (i.receive signal).2
  | cancel {i : Instance} : Call i i.cancel

/-- Whatever happens to an execution, its call stack stays coherent. -/
theorem Call.coherent {i j : Instance} (h : Call i j) (hi : i.stack.Coherent) :
    j.stack.Coherent := by
  cases h with
  | step valid result => exact (Turn.step_isSafe valid hi result).coherent
  | answer result => exact Turn.answer_coherent hi result
  | receive signal => exact CallStack.Coherent.isSettled.receive hi signal
  | cancel => exact .nil

/-- The call stack of an execution at the start of a valid page. -/
theorem coherent_start {page : Page} (h : page.isValid) :
    CallStack.Coherent [Frame.root page] := by
  have hnil : CallStack.Coherent [] := .nil
  refine hnil.push [Frame.root page] (fun _ hf => absurd hf List.not_mem_nil) (fun f hf => ?_)
    (fun f hf => ?_) (.root (beq_self_eq_true page.root) .nil)
  · rw [List.mem_singleton.mp hf]
    exact Frame.isPlaced_start h
  · rw [List.mem_singleton.mp hf]
    rfl

/-- However an execution that was started on a valid page goes on, its call stack is coherent, and a
step fails only on a command of unknown kind or for a player who is not loaded; the world is then
as it was. -/
theorem coherent_of_calls {page : Page} {i₀ i : Instance} (hpage : page.validate = .ok page)
    (hstart : i₀.stack = [Frame.root page]) (hcalls : Relation.ReflTransGen Call i₀ i) :
    i.stack.Coherent ∧ ∀ (w : World) (e : StepError) (t : Turn), w.HasValidEvents →
      (Turn.mk w i).step = .ok (.error e, t) → (Turn.mk w i).Failure e ∧ t.world = w := by
  have hcoherent : i.stack.Coherent := by
    induction hcalls with
    | refl =>
      rw [hstart]
      exact coherent_start (Page.validate_eq_ok_iff.mp hpage).1
    | tail _ hcall ih => exact hcall.coherent ih
  refine ⟨hcoherent, fun w e t hvalid hstep => ?_⟩
  exact (Turn.step_isSafe hvalid hcoherent hstep).failure e rfl

end Instance

/-! ### A step that fails -/

/-- A world without content in which one player is loaded. -/
def World.lone (p : Player) : World :=
  (World.start {} .empty (.start 0) (.seeded 0)).addPlayer p

/-- No common event is described in such a world. -/
theorem World.hasValidEvents_lone (p : Player) : (World.lone p).HasValidEvents := by
  intro event d hd
  cases hd

namespace Instance

/-- A page whose second command is of unknown kind. -/
def unknownSecond : Page := (Page.draft ⟨1⟩ "unknown" ⟨2⟩).withRoot [.label "start", .unsupported]

/-- The execution of such a page goes one step and then fails. -/
theorem coherent_of_calls_unknownSecond :
    unknownSecond.validate = .ok unknownSecond ∧
      ∃ i, Relation.ReflTransGen Call (.start ⟨4⟩ ⟨5⟩ ⟨3⟩ unknownSecond) i ∧ i.stack.Coherent ∧
        ∃ (w : World) (e : StepError) (t : Turn), w.HasValidEvents ∧
          (Turn.mk w i).step = .ok (.error e, t) ∧ (Turn.mk w i).Failure e ∧ t.world = w := by
  let w := World.lone (.fresh ⟨3⟩ "Ann" .nil 1 1)
  have hvalid : w.HasValidEvents := World.hasValidEvents_lone _
  have hcall : Call (.start ⟨4⟩ ⟨5⟩ ⟨3⟩ unknownSecond) _ :=
    .step hvalid (show (Turn.mk w _).step = .ok (.ok .continue, _) from rfl)
  have hpage : unknownSecond.validate = .ok unknownSecond := rfl
  have hsafe := coherent_of_calls hpage rfl (.single hcall)
  refine ⟨hpage, _, .single hcall, hsafe.1, w, _, _, hvalid, rfl, ?_⟩
  exact hsafe.2 w _ _ hvalid rfl

end Instance

end EventScript
