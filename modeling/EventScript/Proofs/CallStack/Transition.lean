import Mathlib.Logic.Relation
import EventScript.Proofs.CallStack.Change
import EventScript.Proofs.Turn.Step

/-!
# Properties that call stacks keep

Whatever happens to an execution reaches its call stack in few ways: finished frames are left from
the top, the running frame is let go on, or it goes behind its command and makes a change that the
command permits. A property that each of these keeps holds on every run, whatever worlds the
execution meets on the way.
-/

namespace EventScript

namespace Turn

/-! ## What becomes of the frames -/

/-- What a step makes of the call stack of a settled turn, before finished frames are left. -/
inductive Stepped (t : Turn) : CallStack → Prop
  | idle : Stepped t t.run.stack
  | failed {frame : Frame} {rest : CallStack} (stack : t.run.stack = frame :: rest)
      (running : frame.waiting = none) : Stepped t (frame.advance :: rest)
  | executed {frame : Frame} {rest : CallStack} {c : Command} {s : Scene} {m : StackChange}
      (stack : t.run.stack = frame :: rest) (running : frame.waiting = none)
      (command : frame.command? = some c) (page : s.page = frame.page) (permitted : c.Permits s m) :
      Stepped t (m.apply frame.page (frame.advance :: rest))

/-- Concluding leaves the finished frames. -/
theorem conclude_stack (t : Turn) : t.conclude.2.run.stack = t.run.stack.unwind := by
  unfold conclude
  split
  · next kind hkind =>
    obtain ⟨asked, hasked, -⟩ := Option.map_eq_some_iff.mp hkind
    obtain ⟨frame, hframe, hwaiting⟩ := Option.bind_eq_some_iff.mp hasked
    obtain ⟨rest, hstack⟩ := List.head?_eq_some_iff.mp hframe
    rw [hstack, CallStack.unwind_of_waiting hwaiting]
  · dsimp only
    split <;> rfl

/-- A step settles the turn, does one thing to the call stack, and may then leave finished
frames. -/
theorem stepped_of_step {t : Turn} {r : Outcome StepOutcome} (h : t.step = .ok r) :
    ∃ st, t.settle.Stepped st ∧ (r.2.run.stack = st ∨ r.2.run.stack = st.unwind) := by
  cases step_cases h with
  | defect | completed | waiting => exact ⟨_, .idle, .inl rfl⟩
  | @execute frame rest r hstack hruns hcase =>
    have hadvance : (t.settle.run.modifyTop Frame.advance).stack = frame.advance :: rest := by
      rw [Instance.modifyTop_cons hstack]
    cases hcase with
    | missingList | outOfRange | missingPlayer | unsupported =>
      exact ⟨_, .failed hstack hruns, .inl hadvance⟩
    | @executed commands c p s hlist hcommand hplayer hsupported hscene =>
      obtain ⟨m, hm, hs, _⟩ := (Scene.execute_stackFree
        ⟨⟨t.settle.world, p⟩, t.settle.run.modifyTop Frame.advance, frame.page⟩ c).result hscene
      have hstack' : s.run.stack = m.apply frame.page (frame.advance :: rest) := by
        rw [← hadvance]
        exact hs
      refine ⟨_, .executed hstack hruns (Frame.command?_of_list hlist hcommand) rfl hm, ?_⟩
      rw [← hstack']
      exact .inr (conclude_stack _)

/-- What a response makes of the call stack. -/
inductive Answered (t : Turn) : CallStack → Prop
  | ignored : Answered t t.run.stack
  | failed : Answered t t.run.release.stack
  | accepted {frame : Frame} {rest : CallStack} {asked : Suspension} {s : Scene} {m : StackChange}
      (stack : t.run.stack = frame :: rest) (waiting : frame.waiting = some asked)
      (page : s.page = frame.page) (permitted : s.Answers asked m) :
      Answered t (m.apply frame.page (frame.release :: rest))

/-- A response is ignored, or it lets the running frame go on and makes a change that what was asked
permits. -/
theorem answered_of_answer {t : Turn} {response : Response} {r : Outcome Bool}
    (h : t.answer response = .ok r) : t.Answered r.2.run.stack := by
  cases answer_cases h with
  | ignored => exact .ignored
  | missingPlayer => exact .failed
  | @accepted frame rest asked p s hstack hwaiting hanswered hplayer hscene =>
    obtain ⟨m, hm, hs, _⟩ := (Scene.resume_stackFree
      ⟨⟨t.world, p⟩, t.run.release, frame.page⟩ asked response).result hscene
    have hrelease : t.run.release.stack = frame.release :: rest := by
      unfold Instance.release
      rw [Instance.modifyTop_cons hstack]
    have hstack' : s.run.stack = m.apply frame.page (frame.release :: rest) := by
      rw [← hrelease]
      exact hs
    show t.Answered s.run.stack
    rw [hstack']
    exact .accepted hstack hwaiting rfl hm

end Turn

/-! ## Runs -/

/-- One thing that happens to an execution, in a world that may be any other than before: a step, a
response, a signal, its end, or a change from outside that leaves the frames alone. -/
inductive Instance.Transition : Instance → Instance → Prop
  | step {w : World} {i : Instance} {r : Turn.Outcome StepOutcome}
      (result : (Turn.mk w i).step = .ok r) : Transition i r.2.run
  | answer {w : World} {i : Instance} {response : Response} {r : Turn.Outcome Bool}
      (result : (Turn.mk w i).answer response = .ok r) : Transition i r.2.run
  | receive {i : Instance} (signal : Signal) : Transition i (i.receive signal).2
  | cancel {i : Instance} : Transition i i.cancel
  | elsewhere {i j : Instance} (stack : j.stack = i.stack) : Transition i j

/-- A property of call stacks that holds on when frames are left and when the running one is let go
on. -/
structure CallStack.IsSettled (P : CallStack → Prop) : Prop where
  nil : P []
  leave : ∀ {f : Frame} {s : CallStack}, P (f :: s) → P s
  release : ∀ {f : Frame} {s : CallStack}, P (f :: s) → P (f.release :: s)

/-- A property of call stacks that holds on, whatever happens to an execution. -/
structure CallStack.IsKept (P : CallStack → Prop) : Prop extends IsSettled P where
  fail : ∀ {f : Frame} {s : CallStack}, P (f :: s) → f.waiting = none → P (f.advance :: s)
  execute : ∀ {f : Frame} {s : CallStack} {c : Command} {scene : Scene} {m : StackChange},
    P (f :: s) → f.waiting = none → f.command? = some c → scene.page = f.page →
      c.Permits scene m → P (m.apply f.page (f.advance :: s))
  answer : ∀ {f : Frame} {s : CallStack} {asked : Suspension} {scene : Scene} {m : StackChange},
    P (f :: s) → f.waiting = some asked → scene.page = f.page → scene.Answers asked m →
      P (m.apply f.page (f.release :: s))

namespace CallStack.IsSettled

variable {P : CallStack → Prop} (h : IsSettled P)

include h

/-- Leaving any number of frames. -/
theorem suffix {s s' : CallStack} (hsuffix : s' <:+ s) (hs : P s) : P s' := by
  obtain ⟨left, rfl⟩ := hsuffix
  induction left with
  | nil => exact hs
  | cons f left ih => exact ih (h.leave hs)

/-- Leaving the finished frames. -/
theorem unwind {s : CallStack} (hs : P s) : P s.unwind := h.suffix (List.dropWhile_suffix _) hs

/-- Letting the running frame go on. -/
theorem release_stack {i : Instance} (hi : P i.stack) : P i.release.stack := by
  unfold Instance.release
  cases hstack : i.stack with
  | nil => rwa [Instance.modifyTop_nil hstack]
  | cons f rest =>
    rw [Instance.modifyTop_cons hstack]
    exact h.release (hstack ▸ hi)

/-- Settling a turn. -/
theorem settle {t : Turn} (ht : P t.run.stack) : P t.settle.run.stack := by
  have hunwound : P t.run.unwind.stack := h.unwind ht
  unfold Turn.settle
  dsimp only
  split
  · split
    · exact h.unwind (h.release_stack hunwound)
    · exact hunwound
  · exact hunwound

/-- A signal. -/
theorem receive {i : Instance} (hi : P i.stack) (signal : Signal) :
    P (i.receive signal).2.stack := by
  unfold Instance.receive
  split
  · exact h.release_stack hi
  · exact hi

end CallStack.IsSettled

namespace CallStack.IsKept

variable {P : CallStack → Prop} (h : IsKept P)

include h

/-- A step. -/
theorem step {t : Turn} {r : Turn.Outcome StepOutcome} (ht : P t.run.stack)
    (hstep : t.step = .ok r) : P r.2.run.stack := by
  obtain ⟨st, hstepped, hst⟩ := Turn.stepped_of_step hstep
  have hsettled := h.settle ht
  have hkept : P st := by
    cases hstepped with
    | idle => exact hsettled
    | failed hstack hruns => exact h.fail (hstack ▸ hsettled) hruns
    | executed hstack hruns hcommand hpage hm =>
      exact h.execute (hstack ▸ hsettled) hruns hcommand hpage hm
  rcases hst with hst | hst
  · rwa [hst]
  · rw [hst]
    exact h.unwind hkept

/-- Whatever happens to an execution. -/
theorem transition {i j : Instance} (hij : i.Transition j) (hi : P i.stack) : P j.stack := by
  cases hij with
  | step result => exact h.step hi result
  | answer result =>
    have hanswered := Turn.answered_of_answer result
    generalize Instance.stack _ = st at hanswered ⊢
    cases hanswered with
    | ignored => exact hi
    | failed => exact h.release_stack hi
    | accepted hstack hwaiting hpage hm => exact h.answer (hstack ▸ hi) hwaiting hpage hm
  | receive signal => exact h.receive hi signal
  | cancel => exact h.nil
  | elsewhere hstack => rwa [hstack]

/-- Every run. -/
theorem transitions {i j : Instance} (hij : Relation.ReflTransGen Instance.Transition i j)
    (hi : P i.stack) : P j.stack := by
  induction hij with
  | refl => exact hi
  | tail _ hlast ih => exact h.transition hlast ih

end CallStack.IsKept

end EventScript
