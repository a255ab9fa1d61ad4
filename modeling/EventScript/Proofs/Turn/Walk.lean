import EventScript.Proofs.Turn.Step

/-!
# Walks

A walk is a run of steps each of which executes a command and lets the script run. A walk that ends
without frames says all about the execution: how many steps it takes, what each of them tells, and
which commands the passes of a host execute, whatever their budgets are.
-/

namespace EventScript.Turn

/-- What a step that executed a command and let the script run tells. -/
def progress (t : Turn) : StepOutcome := if t.run.isRunning then .continue else .completed

/-- Steps that execute the commands of a list, one after the other. -/
inductive Walk : Turn → List Command → Turn → Prop
  | refl {t : Turn} : Walk t [] t
  | step {t t₁ t₂ : Turn} {c : Command} {later : List Command} (command : t.command? = some c)
      (result : t.step = .ok (.ok t₁.progress, t₁)) (walk : Walk t₁ later t₂) :
      Walk t (c :: later) t₂

/-- Walks one after the other. -/
theorem Walk.trans {t₁ t₂ t₃ : Turn} {commands later : List Command} (h : Walk t₁ commands t₂)
    (h' : Walk t₂ later t₃) : Walk t₁ (commands ++ later) t₃ := by
  induction h with
  | refl => exact h'
  | step command result _ ih => exact .step command result (ih h')

/-! ## Executions without frames -/

/-- There is nothing to settle without a frame. -/
theorem settle_of_stack_nil {t : Turn} (h : t.run.stack = []) : t.settle = t := by
  obtain ⟨w, run⟩ := t
  have hunwind : run.unwind = run := by
    unfold Instance.unwind CallStack.unwind
    rw [show run.stack = [] from h, List.dropWhile_nil]
    obtain ⟨⟩ := run
    cases h
    rfl
  have hdeadline : run.waitDeadline? = none := by
    unfold Instance.waitDeadline? Instance.waiting? Instance.top?
    rw [show run.stack = [] from h]
    rfl
  unfold settle
  simp only [hunwind, hdeadline]

/-- A step without a frame changes nothing. -/
theorem step_of_stack_nil {t : Turn} (h : t.run.stack = []) :
    t.step = .ok (.ok .completed, t) := by
  unfold step
  rw [settle_of_stack_nil h]
  simp only [Instance.top?, h, CallStack.defect?, List.head?_nil, Option.bind_none]
  rfl

/-- Without a frame there is no command to execute. -/
theorem command?_of_stack_nil {t : Turn} (h : t.run.stack = []) : t.command? = none := by
  unfold command?
  rw [settle_of_stack_nil h]
  simp only [Instance.top?, h, List.head?_nil, Option.bind_none]

/-- No walk leads on from an execution without frames. -/
theorem Walk.eq_nil {t t' : Turn} {commands : List Command} (h : Walk t commands t')
    (hstack : t.run.stack = []) : commands = [] := by
  cases h with
  | refl => rfl
  | step command _ _ =>
    rw [command?_of_stack_nil hstack] at command
    cases command

/-! ## Steps one after the other -/

/-- Take a number of steps and keep what each of them tells. -/
def repeatStep : Nat → Turn → Guarded (List (Except StepError StepOutcome) × Turn)
  | 0, t => return ([], t)
  | count + 1, t => do
    let (outcome, t) ← t.step
    let (later, t) ← repeatStep count t
    return (outcome :: later, t)

/-- The steps of a walk that ends without frames all call for another, except for the last one. -/
theorem Walk.repeatStep {t t' : Turn} {commands : List Command} (h : Walk t commands t')
    (hcommands : commands ≠ []) (hend : t'.run.stack = []) :
    t.repeatStep commands.length =
      .ok (List.replicate (commands.length - 1) (.ok .continue) ++ [.ok .completed], t') := by
  induction h with
  | refl => exact absurd rfl hcommands
  | @step t t₁ t₂ c later _ result walk ih =>
    rw [List.length_cons, Turn.repeatStep, result]
    cases later with
    | nil =>
      cases walk
      unfold progress Instance.isRunning
      rw [hend]
      rfl
    | cons c' later =>
      have hrunning : t₁.progress = .continue := by
        unfold progress Instance.isRunning
        cases hstack : t₁.run.stack with
        | nil => cases walk.eq_nil hstack
        | cons f st => rfl
      have ih := ih (List.cons_ne_nil c' later) hend
      rw [List.length_cons, Nat.add_sub_cancel] at ih
      simp only [List.length_cons, Nat.add_sub_cancel, hrunning, List.replicate_succ]
      change (do
        let (later, t) ← Turn.repeatStep (later.length + 1) t₁
        return (.ok .continue :: later, t) : Guarded _) = _
      rw [ih]
      rfl

/-! ## Passes of a host -/

/-- Take up to a number of steps, as `Turn.steps`, and keep the commands that are executed. -/
def tracedSteps : Nat → Turn → Guarded (List Command × Outcome StepOutcome)
  | 0, t => return ([], .ok .continue, t)
  | count + 1, t => do
    let (outcome, t') ← t.step
    match outcome with
    | .ok .continue =>
      let (later, result) ← tracedSteps count t'
      return (t.command?.toList ++ later, result)
    | _ => return (t.command?.toList, outcome, t')

/-- Keeping the commands does not change what the steps come to. -/
theorem map_tracedSteps (count : Nat) (t : Turn) :
    (tracedSteps count t).map Prod.snd = steps count t := by
  induction count generalizing t with
  | zero => rfl
  | succ count ih =>
    unfold tracedSteps steps
    cases t.step with
    | error f => rfl
    | ok r =>
      obtain ⟨outcome, t'⟩ := r
      have ih := ih t'
      cases outcome with
      | error e => rfl
      | ok o =>
        cases o with
        | «continue» =>
          change ((do
            let (later, result) ← tracedSteps count t'
            return (t.command?.toList ++ later, result) : Guarded _).map Prod.snd) = steps count t'
          rw [← ih]
          cases tracedSteps count t' <;> rfl
        | suspended | waiting | completed => rfl

/-- Take the passes of a host over an execution, with a budget for each. -/
def ticks : List UInt64 → Turn → Guarded Turn
  | [], t => return t
  | budget :: budgets, t => do
    let (_, t) ← t.tick budget
    ticks budgets t

/-- Take the passes of a host, as `Turn.ticks`, and keep the commands that are executed. -/
def tracedTicks : List UInt64 → Turn → Guarded (List Command × Turn)
  | [], t => return ([], t)
  | budget :: budgets, t => do
    let (executed, _, t) ← tracedSteps (max budget.toNat 1) t
    let (later, t) ← tracedTicks budgets t
    return (executed ++ later, t)

/-- Keeping the commands does not change what the passes come to. -/
theorem map_tracedTicks (budgets : List UInt64) (t : Turn) :
    (tracedTicks budgets t).map Prod.snd = ticks budgets t := by
  induction budgets generalizing t with
  | nil => rfl
  | cons budget budgets ih =>
    unfold tracedTicks ticks tick
    rw [← map_tracedSteps]
    cases tracedSteps (max budget.toNat 1) t with
    | error f => rfl
    | ok r =>
      obtain ⟨executed, outcome, t₁⟩ := r
      change ((do
        let (later, t) ← tracedTicks budgets t₁
        return (executed ++ later, t) : Guarded _).map Prod.snd) = ticks budgets t₁
      rw [← ih t₁]
      cases tracedTicks budgets t₁ <;> rfl

/-- The passes of a host end where they end when the commands are kept. -/
theorem ticks_of_tracedTicks {budgets : List UInt64} {t t' : Turn} {executed : List Command}
    (h : t.tracedTicks budgets = .ok (executed, t')) : t.ticks budgets = .ok t' := by
  rw [← map_tracedTicks, h]
  rfl

/-- The number of commands that passes with some budgets may execute. -/
def allowance : List UInt64 → Nat
  | [] => 0
  | budget :: budgets => max budget.toNat 1 + allowance budgets

/-- Up to a number of steps execute as many commands of a walk to its end. -/
theorem Walk.tracedSteps {t t' : Turn} {commands : List Command} (h : Walk t commands t')
    (hend : t'.run.stack = []) (count : Nat) :
    ∃ outcome t₁, t.tracedSteps count = .ok (commands.take count, outcome, t₁) ∧
      Walk t₁ (commands.drop count) t' := by
  induction count generalizing t commands with
  | zero => exact ⟨.ok .continue, t, rfl, h⟩
  | succ count ih =>
    unfold Turn.tracedSteps
    cases h with
    | refl =>
      rw [step_of_stack_nil hend, command?_of_stack_nil hend]
      exact ⟨.ok .completed, t', rfl, .refl⟩
    | @step _ t₁ _ c later command result walk =>
      rw [result, command]
      cases hstack : t₁.run.stack with
      | nil =>
        obtain rfl := walk.eq_nil hstack
        have hcompleted : t₁.progress = .completed := by
          unfold progress Instance.isRunning
          rw [hstack]
          rfl
        rw [hcompleted, List.take_succ_cons, List.drop_succ_cons, List.take_nil, List.drop_nil]
        exact ⟨.ok .completed, t₁, rfl, walk⟩
      | cons f st =>
        obtain ⟨outcome, t₂, hsteps, hwalk⟩ := ih walk
        have hcontinue : t₁.progress = .continue := by
          unfold progress Instance.isRunning
          rw [hstack]
          rfl
        rw [hcontinue]
        refine ⟨outcome, t₂, ?_, hwalk⟩
        change (do
          let (later, result) ← Turn.tracedSteps count t₁
          return ([c] ++ later, result) : Guarded _) = _
        rw [hsteps]
        rfl

/-- Passes execute the commands of a walk to its end in their order, as many as the budgets
allow. -/
theorem Walk.tracedTicks {t t' : Turn} {commands : List Command} (h : Walk t commands t')
    (hend : t'.run.stack = []) (budgets : List UInt64) :
    ∃ t₁, t.tracedTicks budgets = .ok (commands.take (allowance budgets), t₁) ∧
      Walk t₁ (commands.drop (allowance budgets)) t' := by
  induction budgets generalizing t commands with
  | nil => exact ⟨t, rfl, h⟩
  | cons budget budgets ih =>
    obtain ⟨outcome, t₁, hsteps, hwalk⟩ := h.tracedSteps hend (max budget.toNat 1)
    obtain ⟨t₂, hticks, hwalk₂⟩ := ih hwalk
    refine ⟨t₂, ?_, ?_⟩
    · rw [allowance, List.take_add]
      unfold Turn.tracedTicks
      rw [hsteps]
      change (do
        let (later, t) ← Turn.tracedTicks budgets t₁
        return (commands.take (max budget.toNat 1) ++ later, t) : Guarded _) = _
      rw [hticks]
      rfl
    · rw [allowance, ← List.drop_drop]
      exact hwalk₂

end EventScript.Turn
