import EventScript.Proofs.Guarded
import EventScript.Turn.Answer

/-!
# Steps case by case

What a step can come to. The cases tell the failures, the ways nothing is executed and the execution
of one command apart; every invariant of steps is read off from them.
-/

namespace EventScript

namespace Instance

/-- Changing the running frame keeps the player of an execution. -/
@[simp] theorem modifyTop_player (i : Instance) (f : Frame → Frame) :
    (i.modifyTop f).player = i.player := by
  unfold modifyTop
  split <;> rfl

/-- Changing the running frame where there is none. -/
theorem modifyTop_nil {i : Instance} (h : i.stack = []) (f : Frame → Frame) :
    i.modifyTop f = i := by
  unfold modifyTop
  rw [h]

/-- Changing the running frame keeps the frames below it. -/
theorem modifyTop_cons {i : Instance} {top : Frame} {rest : CallStack}
    (h : i.stack = top :: rest) (f : Frame → Frame) :
    i.modifyTop f = { i with stack := f top :: rest } := by
  unfold modifyTop
  rw [h]

end Instance

namespace Frame

/-- A frame that is not suspended waits for nothing. -/
theorem isSuspended_eq_false_iff {f : Frame} : f.isSuspended = false ↔ f.waiting = none :=
  Option.isSome_eq_false_iff.trans Option.isNone_iff_eq_none

/-- The command in front of a frame, if there is one. -/
def command? (f : Frame) : Option Command :=
  (f.page.list? f.list).bind fun commands => commands[f.index]?

/-- The command at the place of a frame in its list. -/
theorem command?_of_list {f : Frame} {commands : List Command} {c : Command}
    (hlist : f.page.list? f.list = some commands) (hcommand : commands[f.index]? = some c) :
    f.command? = some c := by
  unfold command?
  rw [hlist]
  exact hcommand

/-- Nothing is wrong with a frame that has a command in front of it. -/
theorem defect?_of_command? {f : Frame} {c : Command} (h : f.command? = some c) :
    f.defect? = none := by
  obtain ⟨commands, hlist, -⟩ := Option.bind_eq_some_iff.mp h
  unfold defect? isExhausted Frame.commands
  rw [hlist]
  exact ite_self none

/-- All that can be wrong with a frame is that its list is not registered. -/
theorem eq_missingCommandList_of_defect? {f : Frame} {e : StepError} (h : f.defect? = some e) :
    e = .missingCommandList f.page.id f.list := by
  unfold defect? isExhausted commands at h
  split at h
  · cases h
  · cases hlist : f.page.list? f.list with
    | none =>
      rw [hlist] at h
      exact (Option.some.inj h).symm
    | some commands =>
      rw [hlist] at h
      cases h

end Frame

/-- All that can be wrong with a call stack is that the list of the running frame is not
registered. -/
theorem CallStack.eq_missingCommandList_of_defect? {s : CallStack} {e : StepError}
    (h : s.defect? = some e) : ∃ page list, e = .missingCommandList page list := by
  obtain ⟨f, -, hf⟩ := Option.bind_eq_some_iff.mp h
  exact ⟨_, _, f.eq_missingCommandList_of_defect? hf⟩

/-- A frame that waits is not left. -/
theorem CallStack.unwind_of_waiting {f : Frame} {rest : CallStack} {asked : Suspension}
    (h : f.waiting = some asked) : CallStack.unwind (f :: rest) = f :: rest := by
  have hfinished : ¬ f.isFinished = true := by
    unfold Frame.isFinished Frame.isSuspended
    rw [h]
    simp
  unfold unwind
  rw [List.dropWhile_cons_of_neg hfinished]

namespace Turn

/-! ## Before a step -/

/-- Settling leaves the world alone. -/
@[simp] theorem settle_world (t : Turn) : t.settle.world = t.world := by
  unfold settle
  dsimp only
  split
  · split <;> rfl
  · rfl

/-- Settling changes nothing but the frames of the execution. -/
theorem settle_run (t : Turn) : t.settle.run = { t.run with stack := t.settle.run.stack } := by
  unfold settle
  dsimp only
  split
  · split
    · unfold Instance.release Instance.modifyTop
      split <;> rfl
    · rfl
  · rfl

/-- Settling keeps the player of the execution. -/
@[simp] theorem settle_player (t : Turn) : t.settle.run.player = t.run.player := by
  rw [settle_run]

/-- A call stack that was unwound does not start with a finished frame. -/
theorem isFinished_of_unwind {s : CallStack} {f : Frame} {rest : CallStack}
    (h : s.unwind = f :: rest) : f.isFinished = false := by
  have hhead := List.head?_dropWhile_not Frame.isFinished s
  unfold CallStack.unwind at h
  rw [h] at hhead
  simpa using hhead

/-- The running frame of a settled turn is not finished. -/
theorem isFinished_of_settle {t : Turn} {f : Frame} {rest : CallStack}
    (h : t.settle.run.stack = f :: rest) : f.isFinished = false := by
  unfold settle at h
  dsimp only at h
  split at h
  · split at h
    · exact isFinished_of_unwind h
    · exact isFinished_of_unwind h
  · exact isFinished_of_unwind h

/-- The command that the next step executes, if it executes one. -/
def command? (t : Turn) : Option Command :=
  t.settle.run.top?.bind fun frame =>
    if frame.isSuspended then none
    else (frame.page.list? frame.list).bind fun commands => commands[frame.index]?

/-- The next step executes the command in front of the running frame, if that does not wait. -/
theorem command?_of_stack {t : Turn} {frame : Frame} {rest : CallStack}
    (hstack : t.settle.run.stack = frame :: rest) (hruns : frame.waiting = none) :
    t.command? = frame.command? := by
  unfold command? Instance.top? Frame.isSuspended
  rw [hstack, List.head?_cons, Option.bind_some, hruns]
  rfl

/-- A step that executes a command executes that of a frame which does not wait. -/
theorem waiting_of_command? {t : Turn} {frame : Frame} {rest : CallStack} {c : Command}
    (hc : t.command? = some c) (hstack : t.settle.run.stack = frame :: rest) :
    frame.waiting = none := by
  unfold command? Instance.top? Frame.isSuspended at hc
  rw [hstack, List.head?_cons, Option.bind_some] at hc
  split at hc
  · cases hc
  · next h => exact Option.not_isSome_iff_eq_none.mp h

/-! ## Cases -/

/-- What the execution of the command of a frame can come to; the frame is left behind it. -/
inductive ExecuteCase (t : Turn) (frame : Frame) : Outcome StepOutcome → Prop
  | missingList (list : frame.page.list? frame.list = none) :
      ExecuteCase t frame (.error (.missingCommandList frame.page.id frame.list),
        { t with run := t.run.modifyTop Frame.advance })
  | outOfRange {commands : List Command} (list : frame.page.list? frame.list = some commands)
      (command : commands[frame.index]? = none) :
      ExecuteCase t frame
        (.error (.frameIndexOutOfRange frame.list frame.index commands.length),
          { t with run := t.run.modifyTop Frame.advance })
  | missingPlayer {commands : List Command} {c : Command}
      (list : frame.page.list? frame.list = some commands)
      (command : commands[frame.index]? = some c)
      (player : t.world.player? t.run.player = none) :
      ExecuteCase t frame (.error (.missingPlayer t.run.player),
        { t with run := t.run.modifyTop Frame.advance })
  | unsupported {commands : List Command}
      (list : frame.page.list? frame.list = some commands)
      (command : commands[frame.index]? = some .unsupported) :
      ExecuteCase t frame (.error (.unsupportedCommand Command.unsupported.kindName),
        { t with run := t.run.modifyTop Frame.advance })
  | executed {commands : List Command} {c : Command} {p : Player} {s : Scene}
      (list : frame.page.list? frame.list = some commands)
      (command : commands[frame.index]? = some c)
      (player : t.world.player? t.run.player = some p) (supported : c ≠ .unsupported)
      (scene : Scene.execute ⟨⟨t.world, p⟩, t.run.modifyTop Frame.advance, frame.page⟩ c = .ok s) :
      ExecuteCase t frame (conclude ⟨s.world.putPlayer t.run.player s.player, s.run⟩)

/-- The execution of a command comes to one of the cases. -/
theorem execute_cases {t : Turn} {frame : Frame} {r : Outcome StepOutcome}
    (h : t.execute frame = .ok r) : ExecuteCase t frame r := by
  unfold execute at h
  cases hlist : frame.page.list? frame.list with
  | none =>
    simp only [hlist] at h
    cases h
    exact .missingList hlist
  | some commands =>
    cases hcommand : commands[frame.index]? with
    | none =>
      simp only [hlist, hcommand] at h
      cases h
      exact .outOfRange hlist hcommand
    | some c =>
      cases hplayer : t.world.player? t.run.player with
      | none =>
        simp only [hlist, hcommand, Instance.modifyTop_player, hplayer] at h
        cases h
        exact .missingPlayer hlist hcommand hplayer
      | some p =>
        simp only [hlist, hcommand, Instance.modifyTop_player, hplayer] at h
        split at h
        · next hunsupported =>
          subst hunsupported
          cases h
          exact .unsupported hlist hcommand
        · next hsupported =>
          unfold stage at h
          cases hscene : Scene.execute
              ⟨⟨t.world, p⟩, t.run.modifyTop Frame.advance, frame.page⟩ c with
          | error f =>
            simp only [hscene] at h
            cases h
          | ok s =>
            simp only [hscene, Instance.modifyTop_player] at h
            cases h
            exact .executed hlist hcommand hplayer hsupported hscene

/-- What a step can come to, told by the settled turn. -/
inductive StepCase (t : Turn) : Outcome StepOutcome → Prop
  | defect {e : StepError} (defect : t.run.stack.defect? = some e) : StepCase t (.error e, t)
  | completed (stack : t.run.stack = []) : StepCase t (.ok .completed, t)
  | waiting {frame : Frame} {rest : CallStack} {s : Suspension} (stack : t.run.stack = frame :: rest)
      (waiting : frame.waiting = some s) : StepCase t (.ok (.waiting s.kind), t)
  | execute {frame : Frame} {rest : CallStack} {r : Outcome StepOutcome}
      (stack : t.run.stack = frame :: rest) (running : frame.waiting = none)
      (executed : ExecuteCase t frame r) : StepCase t r

/-- A step comes to one of the cases. -/
theorem step_cases {t : Turn} {r : Outcome StepOutcome} (h : t.step = .ok r) :
    StepCase t.settle r := by
  unfold step at h
  dsimp only at h
  cases hdefect : t.settle.run.stack.defect? with
  | some e =>
    rw [hdefect] at h
    cases h
    exact .defect hdefect
  | none =>
    rw [hdefect] at h
    cases hstack : t.settle.run.stack with
    | nil =>
      simp only [Instance.top?, hstack, List.head?_nil] at h
      cases h
      exact .completed hstack
    | cons frame rest =>
      simp only [Instance.top?, hstack, List.head?_cons] at h
      cases hwaiting : frame.waiting with
      | some s =>
        rw [hwaiting] at h
        cases h
        exact .waiting hstack hwaiting
      | none =>
        rw [hwaiting] at h
        exact .execute hstack hwaiting (execute_cases h)

/-- A conclusion is no error, or the list of the running frame is not registered. -/
theorem conclude_error {t : Turn} {e : StepError} (h : t.conclude.1 = .error e) :
    ∃ page list, e = .missingCommandList page list := by
  unfold conclude at h
  split at h
  · cases h
  · dsimp only at h
    split at h
    · next hdefect =>
      cases h
      exact CallStack.eq_missingCommandList_of_defect? hdefect
    · cases h

/-- A step fails on a command of unknown kind only if that is the command in front of it. -/
theorem command?_of_unsupported {t : Turn} {kind : String} {t' : Turn} {frame : Frame}
    {rest : CallStack} (h : t.step = .ok (.error (.unsupportedCommand kind), t'))
    (hstack : t.settle.run.stack = frame :: rest) : frame.command? = some .unsupported := by
  generalize hr : (Except.error (StepError.unsupportedCommand kind), t') = r at h
  cases step_cases h with
  | defect hdefect =>
    obtain ⟨_, _, rfl⟩ := CallStack.eq_missingCommandList_of_defect? hdefect
    cases hr
  | completed | waiting => cases hr
  | execute hstack' hruns hcase =>
    rw [hstack] at hstack'
    cases hstack'
    cases hcase with
    | missingList | outOfRange | missingPlayer => cases hr
    | unsupported hlist hcommand => exact Frame.command?_of_list hlist hcommand
    | executed =>
      obtain ⟨_, _, he⟩ := conclude_error (congrArg Prod.fst hr).symm
      cases he

/-! ## Responses -/

/-- What a response can come to. -/
inductive AnswerCase (t : Turn) (response : Response) : Outcome Bool → Prop
  | ignored : AnswerCase t response (.ok false, t)
  | missingPlayer (player : t.world.player? t.run.player = none) :
      AnswerCase t response (.error (.missingPlayer t.run.player), { t with run := t.run.release })
  | accepted {frame : Frame} {rest : CallStack} {asked : Suspension} {p : Player} {s : Scene}
      (stack : t.run.stack = frame :: rest) (waiting : frame.waiting = some asked)
      (answered : asked.isAnsweredBy response = true)
      (player : t.world.player? t.run.player = some p)
      (scene : Scene.resume ⟨⟨t.world, p⟩, t.run.release, frame.page⟩ asked response = .ok s) :
      AnswerCase t response (.ok true, ⟨s.world.putPlayer t.run.player s.player, s.run⟩)

/-- A response comes to one of the cases. -/
theorem answer_cases {t : Turn} {response : Response} {r : Outcome Bool}
    (h : t.answer response = .ok r) : AnswerCase t response r := by
  have hrelease : t.run.release.player = t.run.player := t.run.modifyTop_player Frame.release
  unfold answer at h
  cases hstack : t.run.stack with
  | nil =>
    simp only [Instance.top?, hstack, List.head?_nil] at h
    cases h
    exact .ignored
  | cons frame rest =>
    simp only [Instance.top?, hstack, List.head?_cons] at h
    cases hwaiting : frame.waiting with
    | none =>
      rw [hwaiting] at h
      cases h
      exact .ignored
    | some asked =>
      simp only [hwaiting, hrelease] at h
      split at h
      next hanswered =>
        cases hplayer : t.world.player? t.run.player with
        | none =>
          rw [hplayer] at h
          cases h
          exact .missingPlayer hplayer
        | some p =>
          rw [hplayer] at h
          obtain ⟨t', hstage, h⟩ := Guarded.bind_eq_ok.mp h
          obtain ⟨s, hscene, hstage⟩ := Guarded.bind_eq_ok.mp hstage
          cases hstage
          cases h
          rw [hrelease]
          exact .accepted hstack hwaiting hanswered hplayer hscene
      · cases h
        exact .ignored

/-! ## Steps that execute a command -/

/-- A step executes the running frame's command if the frame neither waits nor has a defect. -/
theorem step_eq_execute {t : Turn} {frame : Frame} {rest : CallStack}
    (hstack : t.settle.run.stack = frame :: rest) (hwaiting : frame.waiting = none)
    (hdefect : frame.defect? = none) : t.step = t.settle.execute frame := by
  have htop : t.settle.run.top? = some frame := by
    unfold Instance.top?
    rw [hstack, List.head?_cons]
  have hstackDefect : t.settle.run.stack.defect? = none := by
    unfold CallStack.defect?
    rw [hstack]
    exact hdefect
  unfold step
  simp only [hstackDefect, htop, hwaiting]

/-- Executing a command of a known kind for a loaded player. -/
theorem execute_eq_conclude {t : Turn} {frame : Frame} {commands : List Command} {c : Command}
    {p : Player} {s : Scene} (hlist : frame.page.list? frame.list = some commands)
    (hcommand : commands[frame.index]? = some c) (hplayer : t.world.player? t.run.player = some p)
    (hsupported : c ≠ .unsupported)
    (hscene : Scene.execute ⟨⟨t.world, p⟩, t.run.modifyTop Frame.advance, frame.page⟩ c = .ok s) :
    t.execute frame = .ok (conclude ⟨s.world.putPlayer t.run.player s.player, s.run⟩) := by
  unfold execute
  simp only [hlist, hcommand, Instance.modifyTop_player, hplayer, hsupported, ite_false, stage,
    hscene]
  rfl

end Turn

end EventScript
