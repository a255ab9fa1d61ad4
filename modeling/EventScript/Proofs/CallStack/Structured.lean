import EventScript.Proofs.CallStack.Run
import EventScript.Proofs.Turn.Walk

/-!
# Structured evaluation

A page without jumps can be read as a structured program: a list runs its commands in order, and a
command that enters a branch runs the whole branch list before the command that follows. Steps do
the same with a call stack, one command at a time.
-/

namespace EventScript

/-- Whether a command is of a known kind and neither jumps, exits nor starts common events. -/
def Command.isStructured : Command → Bool
  | goToLabel _ => false
  | exitEventProcessing => false
  | startCommonEvent .. => false
  | unsupported => false
  | _ => true

/-- A page whose lists hold structured commands only. -/
def Page.IsStructured (p : Page) : Prop :=
  ∀ list commands, p.list? list = some commands → ∀ c ∈ commands, c.isStructured

namespace Turn

/-! ## The structured reading -/

/-- The branch list that a command entered, if it entered one, and the turn after it, read off the
call stack of one frame that the command was executed on. Nothing can be read off if the command
left that frame waiting. -/
def entered? (t : Turn) : Option (Option BranchId × Turn) :=
  match t.run.stack with
  | [f] => if f.isSuspended then none else some (none, t.withStack [])
  | [f, _] => some (some f.list, t.withStack [])
  | _ => none

/-- Execute a command of a page and tell the branch list it enters, if it enters one. There is
nothing to tell if the player is not loaded, if the command ends in a fault, or if it lets the
script wait. -/
def perform? (t : Turn) (page : Page) (c : Command) : Option (Option BranchId × Turn) :=
  match t.world.player? t.run.player with
  | none => none
  | some p =>
    match (t.withStack [.root page]).stage page p fun s => s.execute c with
    | .error _ => none
    | .ok t' => t'.entered?

/-- The structured evaluation of commands of a page: those that are executed on the way, and the
turn it ends in. The frames of a turn have no part in it. -/
inductive Evaluates (page : Page) : Turn → List Command → List Command → Turn → Prop
  | nil {t : Turn} : Evaluates page t [] [] t
  | next {t t₁ t₂ : Turn} {c : Command} {rest ran : List Command}
      (performed : t.perform? page c = some (none, t₁)) (later : Evaluates page t₁ rest ran t₂) :
      Evaluates page t (c :: rest) (c :: ran) t₂
  | branch {t t₁ t₂ t₃ : Turn} {c : Command} {b : BranchId} {body rest ran ran' : List Command}
      (performed : t.perform? page c = some (some b, t₁)) (registered : page.list? b = some body)
      (inside : Evaluates page t₁ body ran t₂) (later : Evaluates page t₂ rest ran' t₃) :
      Evaluates page t (c :: rest) (c :: (ran ++ ran')) t₃

/-- Structured commands keep the call stack, wait, or enter a list. -/
theorem permits_of_isStructured {s : Scene} {c : Command} (hc : c.isStructured) {m : StackChange}
    (h : c.Permits s m) :
    m = .keep ∨ (∃ what, m = .suspend what) ∨ ∃ b, m = .enter b := by
  cases h with
  | keep => exact .inl rfl
  | suspend _ => exact .inr (.inl ⟨_, rfl⟩)
  | enter _ => exact .inr (.inr ⟨_, rfl⟩)
  | call command | jump command | leave command =>
    rw [command] at hc
    cases hc

/-- Frames behind a command: the start of the list it entered, if it entered one, comes first. -/
def behind (page : Page) : Option BranchId → CallStack → CallStack
  | none, st => st
  | some b, st => .start page b 0 :: st

/-- What a performed command does on any call stack: it changes the scene in the same way and puts
the list it enters first. -/
theorem perform?_eq_some {t t' : Turn} {page : Page} {c : Command} {b : Option BranchId}
    (hc : c.isStructured) (h : t.perform? page c = some (b, t')) :
    ∃ (p : Player) (s : Scene), t.world.player? t.run.player = some p ∧
      t' = ⟨s.world.putPlayer t.run.player s.player, s.run.withStack []⟩ ∧
      ∀ st, Scene.execute ⟨⟨t.world, p⟩, t.run.withStack st, page⟩ c =
        .ok (s.withStack (behind page b st)) := by
  unfold perform? at h
  cases hplayer : t.world.player? t.run.player with
  | none =>
    rw [hplayer] at h
    cases h
  | some p =>
    simp only [hplayer, stage, withStack] at h
    cases hscene : Scene.execute ⟨⟨t.world, p⟩, t.run.withStack [.root page], page⟩ c with
    | error f =>
      simp only [hscene] at h
      cases h
    | ok s =>
      rw [hscene] at h
      obtain ⟨m, hm, hstack, hsame⟩ :=
        (Scene.execute_stackFree ⟨⟨t.world, p⟩, t.run, page⟩ c).result hscene
      change entered? ⟨s.world.putPlayer t.run.player s.player, s.run⟩ = some (b, t') at h
      unfold entered? at h
      rcases permits_of_isStructured hc hm with rfl | ⟨what, rfl⟩ | ⟨list, rfl⟩
      · rw [show s.run.stack = [.root page] from hstack] at h
        obtain ⟨rfl, rfl⟩ := Prod.mk.inj (Option.some.inj h)
        exact ⟨p, s, rfl, rfl, hsame⟩
      · rw [show s.run.stack = [(Frame.root page).suspend what] from hstack] at h
        cases h
      · rw [show s.run.stack = [.start page list 0, .root page] from hstack] at h
        obtain ⟨rfl, rfl⟩ := Prod.mk.inj (Option.some.inj h)
        exact ⟨p, s, rfl, rfl, hsame⟩

/-! ## One step -/

/-- A frame in front of a command is not finished. -/
theorem isFinished_start {page : Page} {list : BranchId} {commands : List Command} {i : Nat}
    {c : Command} (hlist : page.list? list = some commands) (hcommand : commands[i]? = some c) :
    (Frame.start page list i).isFinished = false := by
  obtain ⟨hi, _⟩ := List.getElem?_eq_some_iff.mp hcommand
  unfold Frame.isFinished Frame.isExhausted Frame.commands Frame.start Frame.isSuspended
  simp only [hlist, Except.map, Option.isSome_none, Bool.not_false, Bool.true_and,
    decide_eq_false_iff_not]
  omega

/-- A frame of a registered list has no defect. -/
theorem defect?_start {page : Page} {list : BranchId} {commands : List Command} {i : Nat}
    (hlist : page.list? list = some commands) : (Frame.start page list i).defect? = none := by
  unfold Frame.defect? Frame.isExhausted Frame.commands Frame.start
  simp only [hlist, Except.map]
  split <;> rfl

/-- Settling leaves an execution alone whose running frame neither waits nor is finished. -/
theorem settle_withStack {t : Turn} {f : Frame} {st : CallStack} (hfinished : f.isFinished = false)
    (hwaiting : f.waiting = none) : (t.withStack (f :: st)).settle = t.withStack (f :: st) := by
  have hunwind : (t.withStack (f :: st)).run.unwind = (t.withStack (f :: st)).run := by
    unfold Instance.unwind CallStack.unwind withStack Instance.withStack
    simp only [List.dropWhile_cons, hfinished, Bool.false_eq_true, ite_false]
  unfold settle
  rw [hunwind]
  have hdeadline : (t.withStack (f :: st)).run.waitDeadline? = none := by
    unfold Instance.waitDeadline? Instance.waiting? Instance.top? withStack Instance.withStack
    simp only [List.head?_cons, Option.bind_some, hwaiting]
  simp only [hdeadline]

/-- Concluding leaves the finished frames of an execution that does not wait. -/
theorem conclude_withStack {t : Turn} {st : CallStack} (hruns : ∀ f ∈ st.head?, f.waiting = none)
    (hdefect : ∀ f ∈ st, f.defect? = none) :
    (t.withStack st).conclude =
      (.ok (t.withStack st.unwind).progress, t.withStack st.unwind) := by
  have hsuspension : (t.withStack st).run.suspension? = none := by
    unfold Instance.suspension? Instance.waiting? Instance.top? withStack Instance.withStack
    cases st with
    | nil => rfl
    | cons f st => simp only [List.head?_cons, Option.bind_some, hruns f rfl, Option.map_none]
  have hunwound : CallStack.defect? st.unwind = none := by
    unfold CallStack.defect?
    cases hst : st.unwind with
    | nil => rfl
    | cons f rest =>
      refine hdefect f ((List.dropWhile_sublist Frame.isFinished).subset ?_)
      change f ∈ st.unwind
      rw [hst]
      exact List.mem_cons_self
  have hrun : (t.withStack st).run.unwind.stack.defect? = none := hunwound
  unfold conclude
  simp only [hsuspension, hrun]
  rfl

/-- A step in front of a structured command does what the command does on its own, leaves the
finished frames, and tells whether a frame is left. -/
theorem step_of_perform? {t t₁ : Turn} {page : Page} {list : BranchId} {commands : List Command}
    {i : Nat} {c : Command} {b : Option BranchId} {st : CallStack}
    (hlist : page.list? list = some commands) (hcommand : commands[i]? = some c)
    (hc : c.isStructured) (hperform : t.perform? page c = some (b, t₁))
    (hdefect : ∀ f ∈ behind page b (.start page list (i + 1) :: st), f.defect? = none) :
    (t.withStack (.start page list i :: st)).command? = some c ∧
      (t.withStack (.start page list i :: st)).step =
        let t₂ := t₁.withStack (CallStack.unwind (behind page b (.start page list (i + 1) :: st)))
        .ok (.ok t₂.progress, t₂) := by
  obtain ⟨p, s, hplayer, rfl, hexecute⟩ := perform?_eq_some hc hperform
  have hsettle : (t.withStack (.start page list i :: st)).settle = _ :=
    settle_withStack (isFinished_start hlist hcommand) rfl
  constructor
  · unfold command?
    rw [hsettle]
    change (page.list? list).bind (fun commands => commands[i]?) = some c
    rw [hlist]
    exact hcommand
  · rw [step_eq_execute (by rw [hsettle]; rfl) rfl (defect?_start hlist), hsettle]
    have hsupported : c ≠ .unsupported := fun h => by
      rw [h] at hc
      cases hc
    have hexecuted : (t.withStack (.start page list i :: st)).execute (.start page list i) = _ :=
      execute_eq_conclude hlist hcommand hplayer hsupported
        (hexecute (.start page list (i + 1) :: st))
    refine hexecuted.trans (congrArg Except.ok ?_)
    refine conclude_withStack (t := ⟨s.world.putPlayer t.run.player s.player, s.run⟩) ?_ hdefect
    intro f hf
    cases b <;> cases hf <;> rfl

/-! ## All steps -/

/-- The structured evaluation of what is left of a list is a walk of the machine that stands in the
list, and at its end the list is left. -/
theorem Evaluates.walk {page : Page} (hpage : page.IsStructured) {t t' : Turn}
    {rest ran : List Command} (h : Evaluates page t rest ran t') {list : BranchId}
    {commands : List Command} {i : Nat} (hlist : page.list? list = some commands)
    (hrest : commands.drop i = rest) {st : CallStack} (hst : ∀ f ∈ st, f.defect? = none) :
    Walk (t.withStack (CallStack.unwind (.start page list i :: st))) ran
      (t'.withStack st.unwind) := by
  -- in front of a command the frame stays, and the command is one of the page
  have hnext {c : Command} {later : List Command} {i : Nat} {list : BranchId}
      {commands : List Command} (st : CallStack) (hlist : page.list? list = some commands)
      (hrest : commands.drop i = c :: later) : commands[i]? = some c ∧
        commands.drop (i + 1) = later ∧ c.isStructured ∧
        CallStack.unwind (.start page list i :: st) = .start page list i :: st := by
    have hcommand : commands[i]? = some c := by rw [← List.head?_drop, hrest, List.head?_cons]
    refine ⟨hcommand, ?_, hpage list commands hlist c (List.mem_of_getElem? hcommand), ?_⟩
    · rw [← List.tail_drop, hrest, List.tail_cons]
    · unfold CallStack.unwind
      rw [List.dropWhile_cons, isFinished_start hlist hcommand]
      rfl
  induction h generalizing list commands i st with
  | nil =>
    have hfinished : (Frame.start page list i).isFinished = true := by
      unfold Frame.isFinished Frame.isExhausted Frame.commands Frame.start Frame.isSuspended
      simpa [hlist, Except.map] using List.drop_eq_nil_iff.mp hrest
    unfold CallStack.unwind
    rw [List.dropWhile_cons, if_pos hfinished]
    exact .refl
  | next performed _ ih =>
    obtain ⟨hcommand, hlater, hc, hunwind⟩ := hnext st hlist hrest
    have hdefect : ∀ f ∈ Frame.start page list (i + 1) :: st, f.defect? = none := fun f hf =>
      (List.mem_cons.mp hf).elim (fun heq => heq ▸ defect?_start hlist) (hst f)
    obtain ⟨hcommand?, hstep⟩ := step_of_perform? hlist hcommand hc performed hdefect
    rw [hunwind]
    exact .step hcommand? hstep (ih hlist hlater hst)
  | @branch t t₁ t₂ t₃ c b body rest ran ran' performed registered _ _ ihInside ihLater =>
    obtain ⟨hcommand, hlater, hc, hunwind⟩ := hnext st hlist hrest
    have hcaller : ∀ f ∈ Frame.start page list (i + 1) :: st, f.defect? = none := fun f hf =>
      (List.mem_cons.mp hf).elim (fun heq => heq ▸ defect?_start hlist) (hst f)
    have hdefect : ∀ f ∈ .start page b 0 :: .start page list (i + 1) :: st, f.defect? = none :=
      fun f hf =>
        (List.mem_cons.mp hf).elim (fun heq => heq ▸ defect?_start registered) (hcaller f)
    obtain ⟨hcommand?, hstep⟩ := step_of_perform? hlist hcommand hc performed hdefect
    rw [hunwind]
    refine .step hcommand? hstep (Walk.trans ?_ (ihLater hlist hlater hst))
    exact ihInside registered List.drop_zero hcaller

/-- A machine that starts at the root list of a structured page does what the structured evaluation
of that list says: its steps execute the same commands and all call for another one except for the
last one, after which no frame is left and the world, with all that clients were told, is that of
the evaluation. The passes of a host execute the same commands in the same order, as many as their
budgets allow, and end in the same world. -/
theorem Evaluates.steps_and_ticks {page : Page} (hpage : page.IsStructured) {t t' : Turn}
    (hstart : t.run.stack = [Frame.root page]) {commands ran : List Command}
    (hroot : page.list? page.root = some commands) (h : Evaluates page t commands ran t')
    (hran : ran ≠ []) :
    t.repeatStep ran.length =
        .ok (List.replicate (ran.length - 1) (.ok .continue) ++ [.ok .completed],
          t'.withStack []) ∧
      ∀ budgets, ∃ t₁, t.ticks budgets = .ok t₁ ∧
        t.tracedTicks budgets = .ok (ran.take (allowance budgets), t₁) ∧
        (ran.length ≤ allowance budgets → t₁ = t'.withStack []) := by
  have hwalk : Walk t ran (t'.withStack []) := by
    have hunwind : t.withStack (CallStack.unwind [Frame.root page]) = t := by
      have hcommands : ∃ c, commands[0]? = some c := by
        cases h with
        | nil => exact absurd rfl hran
        | next | branch => exact ⟨_, rfl⟩
      obtain ⟨c, hc⟩ := hcommands
      unfold CallStack.unwind
      rw [List.dropWhile_cons, show (Frame.root page).isFinished = false from
        isFinished_start hroot hc]
      change t.withStack [Frame.root page] = t
      rw [← hstart]
      rfl
    have hwalk : Walk (t.withStack (CallStack.unwind [Frame.root page])) ran (t'.withStack []) :=
      h.walk hpage hroot List.drop_zero fun f hf => absurd hf List.not_mem_nil
    rwa [hunwind] at hwalk
  refine ⟨hwalk.repeatStep hran rfl, fun budgets => ?_⟩
  obtain ⟨t₁, hticks, hrest⟩ := hwalk.tracedTicks rfl budgets
  refine ⟨t₁, ticks_of_tracedTicks hticks, hticks, fun hallowed => ?_⟩
  rw [List.drop_eq_nil_of_le hallowed] at hrest
  cases hrest
  rfl

/-! ### A page with a detour -/

/-- A page that enters a branch and comes back. -/
def detour : Page :=
  ((Page.draft ⟨1⟩ "detour" ⟨2⟩).withRoot [.disbandGuild [⟨3⟩, ⟨4⟩], .playSound "back"]).withList ⟨4⟩
    [.playSound "branch"]

theorem isStructured_detour : detour.IsStructured := by
  intro list commands hlist c hc
  unfold detour Page.list? Page.withList Page.withRoot Page.withList Page.draft at hlist
  simp only [Table.get?_insert] at hlist
  split at hlist
  · cases hlist
    simp only [List.mem_singleton] at hc
    rw [hc]
    rfl
  · split at hlist
    · cases hlist
      simp only [List.mem_cons, List.not_mem_nil, or_false] at hc
      rcases hc with rfl | rfl <;> rfl
    · cases hlist

/-- A player without a guild takes the detour in three steps. -/
theorem Evaluates.steps_and_ticks_detour :
    ∃ (t t' : Turn) (commands : List Command),
      t.run.stack = [Frame.root detour] ∧ detour.list? detour.root = some commands ∧
      Evaluates detour t commands
        [.disbandGuild [⟨3⟩, ⟨4⟩], .playSound "branch", .playSound "back"] t' ∧
      t.repeatStep 3 =
        .ok ([.ok .continue, .ok .continue, .ok .completed], t'.withStack []) ∧
      t.ticks [2, 2] = .ok (t'.withStack []) ∧
      t.tracedTicks [2, 2] =
        .ok ([.disbandGuild [⟨3⟩, ⟨4⟩], .playSound "branch", .playSound "back"],
          t'.withStack []) := by
  let t : Turn := ⟨World.lone (.fresh ⟨3⟩ "Ann" .nil 1 1), .start ⟨4⟩ ⟨5⟩ ⟨3⟩ detour⟩
  have h : Evaluates detour t [.disbandGuild [⟨3⟩, ⟨4⟩], .playSound "back"]
      [.disbandGuild [⟨3⟩, ⟨4⟩], .playSound "branch", .playSound "back"] _ :=
    .branch rfl rfl (.next rfl .nil) (.next rfl .nil)
  obtain ⟨hsteps, hticks⟩ :=
    h.steps_and_ticks isStructured_detour rfl rfl (List.cons_ne_nil _ _)
  obtain ⟨t₁, hticks, htraced, hend⟩ := hticks [2, 2]
  obtain rfl := hend (by decide)
  exact ⟨t, _, _, rfl, rfl, h, hsteps, hticks, htraced⟩

end Turn

end EventScript
