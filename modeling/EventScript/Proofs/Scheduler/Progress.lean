import EventScript.Proofs.Scheduler.Operation
import EventScript.Proofs.Scheduler.Stints
import EventScript.Proofs.Turn.Waiting

/-!
# What a pass reports as progress

A pass reports how many executions went on in it, and it tells that by what their stints come to. A
stint that does not fail and does not wait is counted, and that is not the same as one that executes
a command: an execution of which nothing is left but finished frames is complete without doing
anything, and one that fails may have executed commands before. The report is wrong by exactly these
two.
-/

namespace EventScript

namespace Turn

/-! ## Steps that do something -/

/-- What a step comes to, and whether it does a deed. -/
inductive Work (t : Turn) : Option Deed → Except StepError StepOutcome → Prop
  | failed (e : StepError) (left : t.settle.run.stack ≠ []) : Work t none (.error e)
  | waiting (kind : SuspensionKind) (left : t.settle.run.stack ≠ []) :
      Work t none (.ok (.waiting kind))
  /-- Nothing is left of the execution once it is settled. -/
  | spent (stack : t.settle.run.stack = []) : Work t none (.ok .completed)
  | done (d : Deed) {result : Except StepError StepOutcome}
      (acts : ∀ kind, result ≠ .ok (.waiting kind)) : Work t (some d) result

section

variable {t t' : Turn} {r : Outcome StepOutcome}

/-- A settled turn without frames has no command in front of it. -/
theorem deed?_of_spent (h : t.settle.run.stack = []) : t.deed? = none := by
  apply deed?_of_command?_eq_none
  simp [command?, Instance.top?, h]

/-- Every step does a deed, or it fails, waits or finds nothing left. -/
theorem work_of_step (h : t.step = .ok r) : t.Work t.deed? r.1 := by
  cases step_cases h with
  | defect hdefect =>
    rw [deed?_of_command?_eq_none (command?_of_defect hdefect)]
    refine .failed _ fun hnil => ?_
    simp [hnil, CallStack.defect?] at hdefect
  | completed hstack =>
    rw [deed?_of_spent hstack]
    exact .spent hstack
  | waiting hstack hwaiting =>
    have hcommand : t.command? = none := by
      apply Option.eq_none_iff_forall_ne_some.mpr
      intro c hc
      rw [waiting_of_command? hc hstack] at hwaiting
      cases hwaiting
    rw [deed?_of_command?_eq_none hcommand]
    exact .waiting _ (by simp [hstack])
  | @execute frame rest r hstack hruns hcase =>
    have hleft : t.settle.run.stack ≠ [] := by simp [hstack]
    have hcommand := command?_of_stack hstack hruns
    cases hcase with
    | missingList hlist =>
      have hnone : t.command? = none := by simp [hcommand, Frame.command?, hlist]
      rw [deed?_of_command?_eq_none hnone]
      exact .failed _ hleft
    | outOfRange hlist hindex =>
      have hnone : t.command? = none := by simp [hcommand, Frame.command?, hlist, hindex]
      rw [deed?_of_command?_eq_none hnone]
      exact .failed _ hleft
    | missingPlayer hlist hindex hplayer =>
      rw [settle_world, settle_player] at hplayer
      have hdeed := deed?_of_stack hstack (hcommand.trans (Frame.command?_of_list hlist hindex))
      rw [hdeed, hplayer, Option.bind_none]
      exact .failed _ hleft
    | unsupported hlist hindex =>
      rw [deed?_of_unsupported (hcommand.trans (Frame.command?_of_list hlist hindex))]
      exact .failed _ hleft
    | executed hlist hindex hplayer hsupported hscene =>
      rw [settle_world, settle_player] at hplayer
      have hdeed := deed?_of_stack hstack (hcommand.trans (Frame.command?_of_list hlist hindex))
      rw [hdeed, hplayer, Option.bind_some, if_neg hsupported]
      exact .done _ (conclude_ne_waiting _)

/-! ## The steps of a stint -/

/-- A stint allows for a first step. -/
theorem exists_steps (budget : UInt64) : ∃ count, max budget.toNat 1 = count + 1 :=
  Nat.exists_eq_add_of_le' (Nat.le_max_right ..)

/-- Steps do something exactly if the first of them does. -/
theorem deeds_succ_eq_nil_iff (count : Nat) : t.deeds (count + 1) = [] ↔ t.deed? = none := by
  constructor
  · intro h
    simpa using (List.append_eq_nil_iff.mp h).1
  · intro h
    simp only [deeds, h, Option.toList_none, List.nil_append]
    split
    · next t' hstep =>
      -- a step that calls for another one did a deed
      have hwork := work_of_step hstep
      rw [h] at hwork
      cases hwork
    · rfl

/-- Steps come to what the first of them comes to, unless that calls for another one. -/
theorem steps_succ_cases {count : Nat} (h : steps (count + 1) t = .ok r) :
    t.step = .ok r ∨ ∃ t', t.step = .ok (.ok .continue, t') ∧ steps count t' = .ok r := by
  obtain ⟨⟨outcome, t'⟩, hstep, h⟩ := Guarded.bind_eq_ok.mp h
  dsimp only at h
  split at h
  · exact .inr ⟨t', hstep, h⟩
  · cases h
    exact .inl hstep

/-- If they do nothing, then they come to what the first of them comes to. -/
theorem work_of_steps {count : Nat} (h : steps (count + 1) t = .ok r)
    (hnone : t.deed? = none) : t.Work none r.1 := by
  rcases steps_succ_cases h with hstep | ⟨t', hstep, -⟩
  · exact hnone ▸ work_of_step hstep
  · have hwork := work_of_step hstep
    rw [hnone] at hwork
    cases hwork

/-- If the running frame goes on after a command and the others do not wait, then no frame does. -/
theorem runs_conclude (hcallers : CallStack.Runs t.run.stack.tail)
    (h : t.conclude.1 = .ok .continue) : t.conclude.2.run.stack.Runs := by
  rw [conclude_stack]
  apply CallStack.isSettled_runs.unwind
  cases hstack : t.run.stack with
  | nil => exact CallStack.isSettled_runs.nil
  | cons top rest =>
    rw [hstack] at hcallers
    refine List.forall_mem_cons.mpr ⟨?_, hcallers⟩
    rw [Frame.isSuspended_eq_false_iff]
    cases hwaiting : top.waiting with
    | none => rfl
    | some asked =>
      simp [conclude, Instance.suspension?, Instance.waiting?, Instance.top?, hstack, hwaiting] at h

/-- A step that calls for another one leaves no frame waiting, as long as only the running one may
have waited before. -/
theorem runs_of_continue (hcallers : CallStack.Runs t.run.stack.tail)
    (h : t.step = .ok (.ok .continue, t')) : t'.run.stack.Runs := by
  have hsettled := CallStack.isKept_runs_tail.settle hcallers
  generalize hr : (Except.ok StepOutcome.continue, t') = r at h
  cases step_cases h with
  | defect | completed | waiting => cases hr
  | @execute frame rest r hstack hruns hcase =>
    cases hcase with
    | missingList | outOfRange | missingPlayer | unsupported => cases hr
    | @executed commands c p s hlist hindex hplayer hsupported hscene =>
      have hadvance : (t.settle.run.modifyTop Frame.advance).stack = frame.advance :: rest := by
        rw [Instance.modifyTop_cons hstack]
      obtain ⟨m, hm, hs, -⟩ := (Scene.execute_stackFree
        ⟨⟨t.settle.world, p⟩, t.settle.run.modifyTop Frame.advance, frame.page⟩ c).result hscene
      have hstack' : s.run.stack = m.apply frame.page (frame.advance :: rest) := hadvance ▸ hs
      have htail : CallStack.Runs s.run.stack.tail := by
        rw [hstack']
        rw [hstack] at hsettled
        exact CallStack.isKept_runs_tail.execute hsettled hruns
          (Frame.command?_of_list hlist hindex) rfl hm
      have hruns' := runs_conclude htail (congrArg Prod.fst hr).symm
      rwa [← hr] at hruns'

/-- Steps from a call stack on which no frame waits do not end by waiting. -/
theorem steps_ne_waiting {count : Nat} (hruns : t.run.stack.Runs) (h : steps count t = .ok r)
    (kind : SuspensionKind) : r.1 ≠ .ok (.waiting kind) := by
  induction count generalizing t with
  | zero =>
    cases h
    nofun
  | succ count ih =>
    rcases steps_succ_cases h with hstep | ⟨t', hstep, h⟩
    · intro hwaits
      apply step_ne_waiting (CallStack.isSettled_runs.settle hruns) kind r.2
      rw [hstep, ← hwaits]
    · have hcallers : CallStack.Runs t.run.stack.tail :=
        fun f hf => hruns f (List.mem_of_mem_tail hf)
      exact ih (runs_of_continue hcallers hstep) h

/-- Nor do steps of which the first one does a deed, if only the running frame waits. -/
theorem steps_ne_waiting_of_deed {count : Nat} (hcallers : CallStack.Runs t.run.stack.tail)
    (hdeed : t.deed? ≠ none) (h : steps (count + 1) t = .ok r) (kind : SuspensionKind) :
    r.1 ≠ .ok (.waiting kind) := by
  rcases steps_succ_cases h with hstep | ⟨t', hstep, h⟩
  · obtain ⟨d, hd⟩ := Option.ne_none_iff_exists'.mp hdeed
    have hwork := work_of_step hstep
    rw [hd] at hwork
    cases hwork with
    | done _ hacts => exact hacts kind
  · exact steps_ne_waiting (runs_of_continue hcallers hstep) h kind

end

end Turn

namespace Scheduler

/-! ## Call stacks of all executions -/

/-- All executions have call stacks with a property. -/
def AllStand (P : CallStack → Prop) (s : Scheduler) : Prop :=
  ∀ player, ∀ i ∈ s.instancesOf player, P i.stack

/-- Something that happens to a scheduler: the host does something with it, or changes the world. -/
inductive Occurs (s : Scheduler) : Scheduler → Prop
  | operation (op : Operation) {s' : Scheduler} (performed : s.perform op = .ok s') : Occurs s s'
  | host {w : World} (regular : (Scheduler.mk w s.instances).IsRegular) : Occurs s ⟨w, s.instances⟩

namespace AllStand

variable {P : CallStack → Prop} {s s' : Scheduler}

/-- Executions whose call stacks were there before. -/
theorem of_subset (h : s.AllStand P) (hsubset : ∀ player, ∀ j ∈ s'.instancesOf player,
    ∃ i ∈ s.instancesOf player, j.stack = i.stack) : s'.AllStand P := by
  intro player j hj
  obtain ⟨i, hi, hstack⟩ := hsubset player j hj
  rw [hstack]
  exact h player i hi

/-- An execution gives way to another one. -/
theorem replace (h : s.AllStand P) {owner : PlayerId} {index : Nat} {t : Turn}
    (ht : P t.run.stack) : (s.replace owner index t).AllStand P := by
  intro player j hj
  obtain ⟨k, hk⟩ := List.mem_iff_getElem?.mp hj
  rcases getElem?_replace_cases hk with ⟨-, -, rfl⟩ | hk
  · exact ht
  · exact h player j (List.mem_of_getElem? hk)

/-- Executions are opened in front of the first command of a page. -/
theorem opens (h : s.AllStand P) (hroot : ∀ page, P [Frame.root page])
    {new : PlayerId → Instance → Prop} (hnew : ∀ player i, new player i → i.IsNew)
    (hopens : s.Opens new s') : s'.AllStand P := by
  intro player i hi
  rcases hopens.mem hi with hi | hi
  · exact h player i hi
  · obtain ⟨page, hstack⟩ := (hnew player i hi).stack
    rw [hstack]
    exact hroot page

/-- What is asked for at the beginning of a pass is opened. -/
theorem serveRequests (h : s.AllStand P) (hroot : ∀ page, P [Frame.root page])
    {r : Nat × Scheduler} (hserve : s.serveRequests = .ok r) : r.2.AllStand P := by
  have hserved : s.withoutRequests.AllStand P := h
  exact hserved.opens hroot (fun _ _ hasked => hasked.2.1) (opens_of_serveRequests hserve)

end AllStand

section

variable {P : CallStack → Prop} (hkept : CallStack.IsKept P) (hroot : ∀ page, P [Frame.root page])

include hkept hroot

/-- What every change of a call stack keeps holds on in every part of a pass. -/
theorem isKeptInPass_allStand : IsKeptInPass (AllStand P) fun _ => True where
  serve {s s'} _ h hopens :=
    have hserved : s.withoutRequests.AllStand P := h
    hserved.opens hroot (fun _ _ hasked => hasked.2.1) hopens
  step _ h found result _ := h.replace (hkept.step (h _ _ (List.mem_of_getElem? found)) result)
  abandon {s owner index i} _ h found := by
    apply h.replace
    have hstack : (Scheduler.abandon ⟨s.world, i⟩ owner).run.stack = [] := by
      simp only [Scheduler.abandon]
      split <;> rfl
    rw [hstack]
    exact hkept.nil
  applySwitches {s} _ h := by
    apply h.of_subset
    intro player j hj
    rw [instancesOf_applySwitches] at hj
    obtain ⟨i, hi, rfl⟩ := List.mem_map.mp hj
    obtain ⟨_, heq⟩ := exists_foldl_applySwitch s.world.switchUpdates i
    exact ⟨i, hi, by rw [heq]⟩
  reap {s} _ h := by
    apply h.of_subset
    intro player j hj
    rw [instancesOf_reap] at hj
    exact ⟨j, (List.mem_filter.mp hj).1, rfl⟩

/-- It holds on whatever the host does. -/
theorem AllStand.perform {s s' : Scheduler} (h : s.AllStand P) (hs : s.IsRegular) {op : Operation}
    (hperform : s.PerformCase op s') : s'.AllStand P := by
  cases hperform with
  | opened hopens => exact h.opens hroot (fun _ _ hnew => hnew.isNew) hopens
  | passed hpass => exact ((isKeptInPass_allStand hkept hroot).pass hpass hs h fun _ _ => trivial).2
  | answered found result =>
    have hi := h _ _ (List.mem_of_getElem? found)
    exact h.replace (hkept.transition (.answer result) hi)
  | signalled player signal =>
    intro owner j hj
    rw [instancesOf_signal] at hj
    obtain ⟨i, hi, rfl⟩ := List.mem_map.mp hj
    split
    · exact hkept.receive (h owner i hi) signal
    · exact h owner i hi
  | released player =>
    apply h.of_subset
    intro owner j hj
    rw [instancesOf_releasePlayer] at hj
    obtain ⟨i, hi, rfl⟩ := List.mem_map.mp (List.mem_filter.mp hj).1
    refine ⟨i, hi, ?_⟩
    split <;> rfl
  | unloaded map =>
    apply h.of_subset
    intro owner j hj
    rw [instancesOf_unloadMap] at hj
    exact ⟨j, (List.mem_filter.mp hj).1, rfl⟩
  | disconnected player =>
    apply h.of_subset
    intro owner j hj
    rw [instancesOf_disconnect] at hj
    split at hj
    · cases hj
    · exact ⟨j, hj, rfl⟩

/-- It holds of all executions in every run from a scheduler without executions. -/
theorem allStand_of_occurs {w : World} (hw : w.IsIndexed) {s : Scheduler}
    (h : Relation.ReflTransGen Occurs (.start w) s) : s.IsRegular ∧ s.AllStand P := by
  induction h with
  | refl => exact ⟨.start hw, fun _ _ hi => absurd hi List.not_mem_nil⟩
  | tail _ hoccurs ih =>
    obtain ⟨hs, h⟩ := ih
    cases hoccurs with
    | operation op hperform =>
      exact ⟨hs.perform hperform, h.perform hkept hroot hs (perform_cases hs hperform)⟩
    | host hregular => exact ⟨hregular, h⟩

end

/-! ## What is counted -/

namespace Stint

variable {budget : UInt64} {c : Stint}

/-- Whether the execution executed a command. -/
def executes (budget : UInt64) (c : Stint) : Bool :=
  !(c.before.deeds (max budget.toNat 1)).isEmpty

/-- Whether nothing was left of the execution when it was called: its frames were finished, or they
were once a wait had come to its end. -/
def isSpent (c : Stint) : Bool := c.before.settle.run.stack.isEmpty

/-- Whether the execution was found waiting in the end. -/
def isWaiting (c : Stint) : Bool :=
  match c.outcome.1 with
  | .ok (.waiting _) => true
  | _ => false

/-- The execution executed a command exactly if the first step does. -/
theorem executes_eq_false_iff : c.executes budget = false ↔ c.before.deed? = none := by
  obtain ⟨count, hcount⟩ := Turn.exists_steps budget
  simp [executes, hcount, Turn.deeds_succ_eq_nil_iff]

/-- An execution of which nothing was left does nothing. -/
theorem executes_of_isSpent (h : c.isSpent = true) : c.executes budget = false := by
  rw [executes_eq_false_iff]
  exact Turn.deed?_of_spent (List.isEmpty_iff.mp h)

/-- What does not fail and does not wait is counted. -/
theorem isAdvanced_eq : c.isAdvanced = !(c.isFailed || c.isWaiting) := by
  unfold isAdvanced isFailed isWaiting
  split <;> simp_all

section

variable (h : c.before.tick budget = .ok c.outcome)

include h

/-- Without a command that is executed, an execution is counted exactly if nothing was left of it. -/
theorem isAdvanced_of_idle (hidle : c.executes budget = false) : c.isAdvanced = c.isSpent := by
  obtain ⟨count, hcount⟩ := Turn.exists_steps budget
  rw [Turn.tick, hcount] at h
  have hwork := Turn.work_of_steps h (executes_eq_false_iff.mp hidle)
  unfold isAdvanced isSpent
  generalize c.outcome.1 = result at hwork ⊢
  cases hwork with
  | failed e hleft => simp [hleft]
  | waiting kind hleft => simp [hleft]
  | spent hstack => simp [hstack]

/-- An execution is counted exactly if it executes a command and then neither fails nor waits, or if
nothing was left of it. -/
theorem isAdvanced_iff : c.isAdvanced = true ↔
    c.executes budget = true ∧ c.isFailed = false ∧ c.isWaiting = false ∨ c.isSpent = true := by
  cases hexecutes : c.executes budget with
  | true =>
    have hleft : c.isSpent = false := by
      cases hspent : c.isSpent with
      | false => rfl
      | true => simp [executes_of_isSpent hspent] at hexecutes
    simp [isAdvanced_eq, hleft]
  | false => simp [isAdvanced_of_idle h hexecutes]

/-- An execution of which only the running frame may wait does not wait once it has executed a
command. -/
theorem isWaiting_of_executes (hcallers : CallStack.Runs c.before.run.stack.tail)
    (hexecutes : c.executes budget = true) : c.isWaiting = false := by
  obtain ⟨count, hcount⟩ := Turn.exists_steps budget
  rw [Turn.tick, hcount] at h
  have hdeed : c.before.deed? ≠ none := by
    intro hnone
    simp [executes_eq_false_iff.mpr hnone] at hexecutes
  unfold isWaiting
  split
  · next kind hkind => exact absurd hkind (Turn.steps_ne_waiting_of_deed hcallers hdeed h kind)
  · rfl

end

end Stint

/-- The stints of a pass. -/
def calls (s : Scheduler) : Guarded (List Stint) := do
  let (_, s) ← s.serveRequests
  let (cs, _) ← stints s.world.config.scheduler.commandsPerTick s.running s.world
  return cs

/-- What a pass reports as progress, told by its stints. -/
structure Tally (budget : UInt64) (cs : List Stint) (report : TickReport) : Prop where
  counted : report.advanced = cs.countP Stint.isAdvanced
  /-- An execution is counted if it executes a command and then neither fails nor waits, or if
  nothing was left of it when it was called; in the second case it executes none. -/
  isAdvanced_iff : ∀ c ∈ cs, c.isAdvanced = true ↔
    c.executes budget = true ∧ c.isFailed = false ∧ c.isWaiting = false ∨ c.isSpent = true
  executes_of_isSpent : ∀ c ∈ cs, c.isSpent = true → c.executes budget = false
  /-- So it is more than the executions that execute commands by those of which nothing was left, and
  less by those that fail or wait after they executed some. -/
  balance : report.advanced + cs.countP (fun c => c.executes budget && (c.isFailed || c.isWaiting)) =
    cs.countP (Stint.executes budget) + cs.countP Stint.isSpent
  exact_iff : report.advanced = cs.countP (Stint.executes budget) ↔
    cs.countP (fun c => c.executes budget && (c.isFailed || c.isWaiting)) = cs.countP Stint.isSpent

/-- The stints that are counted and those that are not. -/
theorem balance_of_isAdvanced_iff {budget : UInt64} {cs : List Stint}
    (h : ∀ c ∈ cs, c.isAdvanced = true ↔
      c.executes budget = true ∧ c.isFailed = false ∧ c.isWaiting = false ∨ c.isSpent = true) :
    cs.countP Stint.isAdvanced +
        cs.countP (fun c => c.executes budget && (c.isFailed || c.isWaiting)) =
      cs.countP (Stint.executes budget) + cs.countP Stint.isSpent := by
  induction cs with
  | nil => rfl
  | cons c rest ih =>
    have hrest := ih fun c hc => h c (List.mem_cons_of_mem _ hc)
    have hc := h c List.mem_cons_self
    have hidle : c.isSpent = true → c.executes budget = false := Stint.executes_of_isSpent
    simp only [List.countP_cons]
    cases hspent : c.isSpent with
    | true =>
      simp [hspent] at hc
      simp [hc, hidle hspent]
      omega
    | false =>
      cases hexecutes : c.executes budget with
      | true =>
        rw [Stint.isAdvanced_eq]
        cases c.isFailed || c.isWaiting <;> simp <;> omega
      | false =>
        simp [hspent, hexecutes] at hc
        simp [hc]
        omega

/-- The stints of a pass are the calls of the executions that have frames once requests are served,
each of them in the turn it is made in. -/
theorem calls_of_tick {s : Scheduler} {r : TickReport × Scheduler} (h : s.tick = .ok r) :
    ∃ cs started s₁, s.calls = .ok cs ∧ s.serveRequests = .ok (started, s₁) ∧
      cs.map Stint.execution = s₁.running ∧
      (∀ c ∈ cs, c.before.tick s₁.world.config.scheduler.commandsPerTick = .ok c.outcome) ∧
      r.1.advanced = cs.countP Stint.isAdvanced := by
  obtain ⟨s₁, cs, w, hpass⟩ := stints_of_tick h
  cases hpass with
  | intro before called became after =>
    refine ⟨cs, _, s₁, ?_, before, map_execution_of_stints called, ?_, rfl⟩
    · simp only [calls, before, called, bind, Except.bind, pure, Except.pure]
    · intro c hc
      obtain ⟨earlier, later, rfl⟩ := List.append_of_mem hc
      exact (stints_split called).1

/-- Every pass reports the executions that executed commands, except those that failed or waited
after that, and those of which nothing was left. After a run from a scheduler without executions
none of them waits after it has executed a command. -/
theorem tally_of_tick {s : Scheduler} {r : TickReport × Scheduler} (h : s.tick = .ok r) :
    ∃ cs started s₁, s.calls = .ok cs ∧ s.serveRequests = .ok (started, s₁) ∧
      cs.map Stint.execution = s₁.running ∧
      Tally s₁.world.config.scheduler.commandsPerTick cs r.1 ∧
      ∀ w : World, w.IsIndexed → Relation.ReflTransGen Occurs (.start w) s →
        ∀ c ∈ cs, c.executes s₁.world.config.scheduler.commandsPerTick = true →
          c.isWaiting = false := by
  obtain ⟨cs, started, s₁, hcalls, hserve, hexecution, hcalled, hadvanced⟩ := calls_of_tick h
  have hcounted (c : Stint) (hc : c ∈ cs) := Stint.isAdvanced_iff (hcalled c hc)
  have hbalance := balance_of_isAdvanced_iff hcounted
  rw [← hadvanced] at hbalance
  refine ⟨cs, started, s₁, hcalls, hserve, hexecution, ?_, ?_⟩
  · constructor
    · exact hadvanced
    · exact hcounted
    · exact fun c _ => Stint.executes_of_isSpent
    · exact hbalance
    · omega
  · intro w hw hrun c hc
    obtain ⟨-, hstand⟩ := allStand_of_occurs (P := fun st => CallStack.Runs st.tail)
      CallStack.isKept_runs_tail (fun _ _ hf => absurd hf List.not_mem_nil) hw hrun
    have hcallers := hstand.serveRequests (fun _ _ hf => absurd hf List.not_mem_nil) hserve
    have hmem : c.execution ∈ s₁.running := by
      rw [← hexecution]
      exact List.mem_map_of_mem hc
    apply Stint.isWaiting_of_executes (hcalled c hc)
    exact hcallers c.owner c.before.run (mem_running_iff.mp hmem).1

/-! ### An empty page and one that fails -/

/-- A page without commands. -/
def blankPage : Page := (Page.draft ⟨1⟩ "blank" ⟨2⟩).withRoot []

/-- A page whose second command is of unknown kind. -/
def tripPage : Page := (Page.draft ⟨3⟩ "trip" ⟨4⟩).withRoot [.label "start", .unsupported]

/-- A world with a player, in which executions take two steps in a pass. -/
def strolling : World :=
  (World.start { scheduler.commandsPerTick := 2 } .empty (.start 0) (.seeded 0)).addPlayer
    (.fresh ⟨3⟩ "Ann" .nil 1 1)

/-- An execution of the empty page. -/
def blank : Scheduler := ((Scheduler.start strolling).launch ⟨3⟩ ⟨5⟩ blankPage id).2

/-- Both of them at once. -/
def tripping : Scheduler := (blank.launch ⟨3⟩ ⟨6⟩ tripPage id).2

/-- The execution of the empty page is reached by starting its event. -/
theorem occurs_blank : Relation.ReflTransGen Occurs (.start strolling) blank :=
  .single (.operation (.startEvent ⟨3⟩ ⟨5⟩ blankPage) rfl)

/-- One execution is reported, and one executes a command, but it is not the same. -/
theorem tally_of_tick_tripping :
    ∃ r first second, tripping.tick = .ok r ∧ tripping.calls = .ok [first, second] ∧
      Tally 2 [first, second] r.1 ∧ r.1.advanced = 1 ∧
      (first.isSpent = true ∧ first.executes 2 = false) ∧
      second.executes 2 = true ∧ second.isFailed = true ∧ second.isWaiting = false := by
  have hrun : Relation.ReflTransGen Occurs (.start strolling) tripping :=
    occurs_blank.tail (.operation (.startEvent ⟨3⟩ ⟨6⟩ tripPage) rfl)
  have hindexed : strolling.IsIndexed := (World.IsIndexed.start ..).addPlayer _
  obtain ⟨cs, started, s₁, hcalls, hserve, -, htally, hwaiting⟩ :=
    tally_of_tick (s := tripping) rfl
  cases hserve
  cases hcalls
  refine ⟨_, _, _, rfl, rfl, htally, rfl, ⟨rfl, rfl⟩, rfl, rfl, ?_⟩
  exact hwaiting _ hindexed hrun _ (by simp) rfl

/-- The execution of an empty page is reported although it executes nothing. -/
theorem not_advanced_blank :
    ¬ ∀ (w : World) (s : Scheduler) (cs : List Stint) (r : TickReport × Scheduler), w.IsIndexed →
      Relation.ReflTransGen Occurs (.start w) s → s.tick = .ok r → s.calls = .ok cs →
      r.1.advanced = cs.countP (Stint.executes s.world.config.scheduler.commandsPerTick) := by
  intro h
  have hindexed : strolling.IsIndexed := (World.IsIndexed.start ..).addPlayer _
  have hone := h strolling blank _ _ hindexed occurs_blank rfl rfl
  exact absurd hone (by decide)

end Scheduler

end EventScript
