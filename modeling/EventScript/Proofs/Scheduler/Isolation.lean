import EventScript.Proofs.Scheduler.Sound
import EventScript.Proofs.Scheduler.Stints

/-!
# Executions fail alone

An execution that fails in a pass is ended and taken away, and its player is let go. All others are
called as if it had let the player go and ended itself by commands in place of the one it failed on.
-/

namespace EventScript

namespace Turn

/-- What comes of a turn if the execution lets the player go whom it holds and then ends itself, by
commands that it executes where it stands. -/
def exit (t : Turn) (page : Page) (p : Player) : Guarded (Outcome StepOutcome) := do
  let t ← if t.run.holding then t.stage page p fun s => s.execute .releasePlayer else pure t
  return (← t.stage page p fun s => s.execute .exitEventProcessing).conclude

variable {t : Turn} {p : Player}

/-- Ending an execution by the command for it. -/
theorem stage_exitEventProcessing (page : Page) (hplayer : t.world.player? t.run.player = some p) :
    t.stage page p (fun s => s.execute .exitEventProcessing) = .ok ⟨t.world, t.run.cancel⟩ := by
  have hput : (Turn.mk (t.world.putPlayer t.run.player p) t.run.cancel) =
      ⟨t.world, t.run.cancel⟩ := by rw [World.putPlayer_self hplayer]
  exact congrArg Except.ok hput

/-- Letting the player go by the command for it. -/
theorem stage_releasePlayer (page : Page) (hplayer : t.world.player? t.run.player = some p) :
    t.stage page p (fun s => s.execute .releasePlayer) =
      .ok ⟨t.world.send (.player p.id) (.releasePlayer t.run.event),
        { t.run with holding := false }⟩ := by
  have hplayer' : (t.world.send (.player p.id) (.releasePlayer t.run.event)).player? t.run.player =
      some p := hplayer
  have hput : (Turn.mk ((t.world.send (.player p.id) (.releasePlayer t.run.event)).putPlayer
      t.run.player p) { t.run with holding := false }) =
        ⟨t.world.send (.player p.id) (.releasePlayer t.run.event),
          { t.run with holding := false }⟩ := by rw [World.putPlayer_self hplayer']
  exact congrArg Except.ok hput

/-- An execution that failed is ended as it would have ended itself. -/
theorem exit_eq_abandon (page : Page) (hplayer : t.world.player? t.run.player = some p)
    (hid : p.id = t.run.player) :
    t.exit page p = .ok (.ok .completed, Scheduler.abandon t t.run.player) := by
  unfold exit
  cases hholding : t.run.holding with
  | false =>
    have hleft : Scheduler.abandon t t.run.player = ⟨t.world, t.run.cancel⟩ := by
      unfold Scheduler.abandon
      exact if_neg (ne_true_of_eq_false hholding)
    rw [hleft]
    refine Guarded.bind_eq_ok.mpr ⟨t, rfl, ?_⟩
    exact Guarded.bind_eq_ok.mpr ⟨_, stage_exitEventProcessing page hplayer, rfl⟩
  | true =>
    have hleft : Scheduler.abandon t t.run.player =
        ⟨t.world.send (.player p.id) (.releasePlayer t.run.event),
          { t.run.cancel with holding := false }⟩ := by
      rw [hid]
      unfold Scheduler.abandon
      exact if_pos hholding
    rw [hleft]
    refine Guarded.bind_eq_ok.mpr ⟨_, stage_releasePlayer page hplayer, ?_⟩
    exact Guarded.bind_eq_ok.mpr ⟨_, stage_exitEventProcessing page hplayer, rfl⟩

end Turn

namespace Scheduler

namespace Stint

variable {c : Stint}

/-- A stint in which the execution failed ends it. -/
theorem left_of_isFailed (h : c.isFailed = true) : c.left = abandon c.outcome.2 c.owner := if_pos h

/-- The error of a stint in which the execution failed. -/
theorem exists_error_of_isFailed (h : c.isFailed = true) : ∃ e, c.outcome.1 = .error e := by
  unfold isFailed at h
  split at h
  · cases h
  · next e he => exact ⟨e, he⟩

/-- An execution that failed is ended and does not hold its player any more. -/
theorem isComplete_left (h : c.isFailed = true) : c.left.run.isComplete = true := by
  rw [left_of_isFailed h]
  unfold abandon
  dsimp only
  split
  · rfl
  · next hholding => exact congrArg (!·) (Bool.eq_false_iff.mpr hholding)

/-- The end of an execution that failed changes the world by what the player is told. -/
theorem world_left (h : c.isFailed = true) :
    c.left.world = { c.outcome.2.world with
      sent := c.outcome.2.world.sent ++ if c.outcome.2.run.holding then
        [(.player c.owner, .releasePlayer c.outcome.2.run.event)] else [] } := by
  rw [left_of_isFailed h]
  cases hholding : c.outcome.2.run.holding with
  | true =>
    have hheld : c.outcome.2.run.cancel.holding = true := hholding
    unfold abandon
    rw [if_pos hheld]
    rfl
  | false =>
    have hfree : ¬ c.outcome.2.run.cancel.holding = true := ne_true_of_eq_false hholding
    unfold abandon
    rw [if_neg hfree]
    simp

/-- A stint leaves the backdrop of the world and what the execution was started with as they are. -/
theorem backdrop_left {budget : UInt64} (h : c.before.tick budget = .ok c.outcome) :
    c.left.world.backdrop = c.before.world.backdrop ∧
      c.left.run.origin = c.before.run.origin := by
  obtain ⟨hworld, horigin⟩ := Turn.backdrop_steps h
  unfold left
  split
  · obtain ⟨hworld', horigin'⟩ := backdrop_abandon c.outcome.2 c.owner
    exact ⟨hworld'.trans hworld, horigin'.trans horigin⟩
  · exact ⟨hworld, horigin⟩

/-- A stint leaves everyone under its own identifier. -/
theorem isIndexed_left {budget : UInt64} (hsound : c.before.IsSound)
    (h : c.before.tick budget = .ok c.outcome) : c.left.world.IsIndexed := by
  have hindexed : c.outcome.2.world.IsIndexed := (hsound.steps h).indexed
  unfold left abandon
  dsimp only
  split
  · split
    · exact ⟨hindexed.players, hindexed.mapEvents⟩
    · exact hindexed
  · exact hindexed

section

variable {budget : UInt64} (hsound : c.before.IsSound)
  (htick : c.before.tick budget = .ok c.outcome) (hfailed : c.isFailed = true)

include hsound htick hfailed

/-- An execution that failed had executed a number of commands before one of unknown kind, which
changed nothing but where the execution stands. -/
theorem exists_unsupported : ∃ count t st, count < max budget.toNat 1 ∧
    Turn.steps count c.before = .ok (.ok .continue, t) ∧ t.command? = some .unsupported ∧
      t.step = .ok c.outcome ∧ c.outcome.2 = t.withStack st := by
  obtain ⟨e, he⟩ := exists_error_of_isFailed hfailed
  have houtcome : c.outcome = (.error e, c.outcome.2) := Prod.ext he rfl
  obtain ⟨count, hcount, t, hsteps, hfails⟩ := Turn.exists_failed_step (houtcome ▸ htick)
  obtain ⟨hcommand, st, hst⟩ := (hsound.steps hsteps).unsupported_of_failed hfails
  exact ⟨count, t, st, hcount, hsteps, hcommand, houtcome ▸ hfails, hst⟩

/-- An execution that failed is ended as if it had ended itself. -/
theorem exists_exit (howner : c.before.run.player = c.owner) :
    ∃ p, c.outcome.2.world.player? c.owner = some p ∧
      ∀ page, c.outcome.2.exit page p = .ok (.ok .completed, c.left) := by
  have hafter : c.outcome.2.IsSound := hsound.steps htick
  have hplayer : c.outcome.2.run.player = c.owner := by
    have hsame : c.outcome.2.run.origin.player = c.before.run.origin.player := by
      rw [(Turn.backdrop_steps htick).2]
    exact hsame.trans howner
  obtain ⟨p, hp⟩ := Option.isSome_iff_exists.mp hafter.loaded
  refine ⟨p, hplayer ▸ hp, fun page => ?_⟩
  rw [left_of_isFailed hfailed, ← hplayer]
  exact Turn.exit_eq_abandon page hp (hafter.indexed.players hp)

end

/-- What the failure of an execution means in a pass: the one that fails, with the scheduler in
which the executions begin to be called, the stints before and behind it, the world they leave, and
what the pass comes to. -/
structure FailsAlone (c : Stint) (s₁ : Scheduler) (earlier later : List Stint) (w : World)
    (report : TickReport) (s' : Scheduler) : Prop where
  /-- A number of commands was executed before one of unknown kind, which changed nothing but where
  the execution stands. -/
  applied : ∃ count t st, count < max s₁.world.config.scheduler.commandsPerTick.toNat 1 ∧
    Turn.steps count c.before = .ok (.ok .continue, t) ∧ t.command? = some .unsupported ∧
      t.step = .ok c.outcome ∧ c.outcome.2 = t.withStack st
  /-- The player is told to be let go if the execution held it, and the world is left as it is. -/
  told : c.left.world = { c.outcome.2.world with
    sent := c.outcome.2.world.sent ++ if c.outcome.2.run.holding then
      [(.player c.owner, .releasePlayer c.before.run.event)] else [] }
  /-- The turn is left as if the execution had ended itself. -/
  exits : ∃ p, c.outcome.2.world.player? c.owner = some p ∧
    ∀ page, c.outcome.2.exit page p = .ok (.ok .completed, c.left)
  /-- The failure is counted once. -/
  counted : report.failed = earlier.countP isFailed + 1 + later.countP isFailed
  /-- All executions that had frames are called in their order. -/
  order : s₁.running = earlier.map execution ++ c.execution :: later.map execution
  /-- Those behind it are called in the world that is left. -/
  followed : stints s₁.world.config.scheduler.commandsPerTick (later.map execution) c.left.world =
    .ok (later, w)
  /-- No execution of the event is left for the player. -/
  gone : ∀ player, ∀ i ∈ s'.instancesOf player,
    ¬ (i.player = c.owner ∧ i.event = c.before.run.event)

end Stint

section

variable {s₁ : Scheduler} {cs : List Stint} {w : World}

/-- Every execution of a sound scheduler is called in a sound turn of its own player, and the world
keeps its backdrop. -/
theorem IsSound.called (hs : s₁.IsSound) {budget : UInt64}
    (h : stints budget s₁.running s₁.world = .ok (cs, w)) :
    (∀ c ∈ cs, c.before.IsSound ∧ c.before.run.player = c.owner) ∧
      w.backdrop = s₁.world.backdrop := by
  have hrunning : cs.map Stint.execution = s₁.running := map_execution_of_stints h
  have hmem {c : Stint} (hc : c.execution ∈ s₁.running) :
      c.before.run ∈ s₁.instancesOf c.owner := (mem_running_iff.mp hc).1
  have hturn {c : Stint} (hc : c.execution ∈ s₁.running)
      (hworld : c.before.world.backdrop = s₁.world.backdrop ∧ c.before.world.IsIndexed) :
      c.before.IsSound := (hs.turn (hmem hc)).elsewhere hworld.1 hworld.2
  obtain ⟨hworlds, hend⟩ := stints_invariant
    (P := fun w => w.backdrop = s₁.world.backdrop ∧ w.IsIndexed) h
    (fun c hc htick hworld => by
      have hleft := Stint.backdrop_left htick
      exact ⟨hleft.1.trans hworld.1, Stint.isIndexed_left (hturn hc hworld) htick⟩)
    ⟨rfl, hs.indexed⟩
  refine ⟨fun c hc => ?_, hend.1⟩
  have hc' : c.execution ∈ s₁.running := hrunning ▸ List.mem_map.mpr ⟨c, hc, rfl⟩
  exact ⟨hturn hc' (hworlds c hc), (hs.owned c.owner _ (hmem hc')).1⟩

/-- What an execution became by the stints is what its own stint left. -/
theorem IsWellFormed.eq_left (hs : s₁.IsWellFormed) {budget : UInt64}
    (h : stints budget s₁.running s₁.world = .ok (cs, w)) {c : Stint} (hc : c ∈ cs)
    {j : Instance} (hj : Becomes cs c.owner c.before.run j) : j = c.left.run := by
  have hrunning : cs.map Stint.execution = s₁.running := map_execution_of_stints h
  have hcalled : c.execution ∈ s₁.running := hrunning ▸ List.mem_map.mpr ⟨c, hc, rfl⟩
  generalize hrun : c.before.run = i at hj
  cases hj with
  | @called c' hc' howner =>
    have hsame : c.execution = c'.execution := Prod.ext howner.symm hrun
    have hnodup : (cs.map Stint.execution).Nodup := hrunning ▸ hs.nodup_running
    rw [List.inj_on_of_nodup_map hnodup hc hc' hsame]
  | idle hidle =>
    have hruns : c.before.run.isRunning = true := (mem_running_iff.mp hcalled).2
    rw [hrun, hidle] at hruns
    cases hruns

/-- What the stints make of a sound scheduler is well-formed. -/
theorem IsSound.wellFormed_of_becomes (hs : s₁.IsSound) {s₂ : Scheduler} {budget : UInt64}
    (called : stints budget s₁.running s₁.world = .ok (cs, s₂.world))
    (became : ∀ player,
      List.Forall₂ (Becomes cs player) (s₁.instancesOf player) (s₂.instancesOf player)) :
    s₂.IsWellFormed := by
  have hworld : s₂.world.backdrop = s₁.world.backdrop := (hs.called called).2
  have horigins : ∀ c ∈ cs, c.left.run.origin = c.before.run.origin := by
    intro c hc
    obtain ⟨earlier, later, rfl⟩ := List.append_of_mem hc
    exact (Stint.backdrop_left (stints_split called).1).2
  refine hs.of_sublist (fun id hid => ?_) fun player => ?_
  · exact (congrFun (congrArg World.Backdrop.loaded hworld) id).trans hid
  · rw [map_origin_of_becomes horigins (became player)]

/-- What is complete when its player's clones see the changes of self switches is not there after
the pass, and nothing else of its event for its player is. -/
theorem gone_of_isComplete {s₂ s₃ : Scheduler} (hs₂ : s₂.IsWellFormed) {started : Nat}
    (after : s₂.applySwitches.serveRequests = .ok (started, s₃)) {owner : PlayerId} {j : Instance}
    (hj : j ∈ s₂.instancesOf owner) (hcomplete : j.isComplete = true) (player : PlayerId) :
    ∀ i ∈ s₃.reap.2.instancesOf player, ¬ (i.player = owner ∧ i.event = j.event) := by
  have hopens := opens_of_serveRequests after
  have hs₃ : s₃.IsWellFormed := by
    obtain ⟨_, hgrows⟩ := hopens.grows
    exact hgrows.wellFormed (hs₂.of_origins (fun _ => id) (origins_applySwitches s₂))
  -- clones see the changes in their self switches only
  obtain ⟨switches, hswitched⟩ := exists_foldl_applySwitch s₂.world.switchUpdates j
  have hj₃ : { j with selfSwitches := switches } ∈ s₃.instancesOf owner := by
    refine hopens.subset owner ?_
    change _ ∈ s₂.applySwitches.instancesOf owner
    rw [instancesOf_applySwitches]
    exact List.mem_map.mpr ⟨j, hj, hswitched⟩
  rintro i hi ⟨howner, hevent⟩
  rw [instancesOf_reap] at hi
  obtain ⟨hi, hruns⟩ := List.mem_filter.mp hi
  have hplayer : player = owner := (hs₃.owned player i hi).1.symm.trans howner
  subst hplayer
  have hsame : i = { j with selfSwitches := switches } :=
    List.inj_on_of_nodup_map (hs₃.once player) hi hj₃ hevent
  have hcomplete' : i.isComplete = true := by
    rw [hsame]
    exact hcomplete
  rw [hcomplete'] at hruns
  cases hruns

/-- An execution that fails among the stints of a pass over a sound scheduler fails alone. -/
theorem IsSound.failsAlone {s : Scheduler} (hs : s.IsSound) {r : TickReport × Scheduler}
    {earlier later : List Stint} {c : Stint}
    (hpass : s.PassStints s₁ (earlier ++ c :: later) w r) (hfailed : c.isFailed = true) :
    c.FailsAlone s₁ earlier later w r.1 r.2 := by
  generalize hcs : earlier ++ c :: later = cs at hpass
  cases hpass with
  | @intro startedBefore startedAfter s₁ s₂ s₃ cs before called became after =>
    subst hcs
    have hs₁ : s₁.IsSound := hs.serveRequests before
    have hc : c ∈ earlier ++ c :: later := List.mem_append_right _ List.mem_cons_self
    have hrunning := map_execution_of_stints called
    rw [List.map_append, List.map_cons] at hrunning
    have hcalled : c.execution ∈ s₁.running := by
      rw [← hrunning]
      exact List.mem_append_right _ List.mem_cons_self
    obtain ⟨hbefore, howner⟩ := (hs₁.called called).1 c hc
    obtain ⟨htick, hlater⟩ := stints_split called
    have hevent : c.outcome.2.run.event = c.before.run.event :=
      (Instance.of_origin (Turn.backdrop_steps htick).2).1
    have hleft : c.left.run.event = c.before.run.event :=
      (Instance.of_origin (Stint.backdrop_left htick).2).1
    have hs₂ : s₂.IsWellFormed := hs₁.wellFormed_of_becomes called became
    exact {
      applied := Stint.exists_unsupported hbefore htick hfailed
      told := by
        rw [← hevent]
        exact Stint.world_left hfailed
      exits := Stint.exists_exit hbefore htick hfailed howner
      counted := by
        change (earlier ++ c :: later).countP Stint.isFailed = _
        rw [List.countP_append, List.countP_cons_of_pos hfailed]
        omega
      order := hrunning.symm
      followed := hlater
      gone := by
        intro player
        obtain ⟨j, hj, hbecomes⟩ := exists_becomes (became c.owner) (mem_running_iff.mp hcalled).1
        rw [hs₁.eq_left called hc hbecomes] at hj
        rw [← hleft]
        exact gone_of_isComplete hs₂ after hj (Stint.isComplete_left hfailed) player }

end

/-- An execution that fails in a pass over a sound scheduler fails alone. -/
theorem failsAlone_of_tick {s s' : Scheduler} {report : TickReport} (hs : s.IsSound)
    (h : s.tick = .ok (report, s')) :
    ∃ s₁ cs w, s.PassStints s₁ cs w (report, s') ∧
      ∀ earlier c later, cs = earlier ++ c :: later → c.isFailed = true →
        c.FailsAlone s₁ earlier later w report s' := by
  obtain ⟨s₁, cs, w, hpass⟩ := stints_of_tick h
  refine ⟨s₁, cs, w, hpass, ?_⟩
  rintro earlier c later rfl hfailed
  exact hs.failsAlone hpass hfailed

/-- However a host that starts events on valid pages came to a pass from a scheduler without
executions, what fails in the pass fails alone. -/
theorem failsAlone_of_moves {w : World} (hw : w.IsIndexed) (hvalid : w.HasValidEvents)
    {s s₁ : Scheduler}
    (hrun : Relation.ReflTransGen (Moves fun _ op => StartsValid op) (.start w) s)
    {earlier later : List Stint} {c : Stint} {w' : World} {r : TickReport × Scheduler}
    (hpass : s.PassStints s₁ (earlier ++ c :: later) w' r) (hfailed : c.isFailed = true) :
    c.FailsAlone s₁ earlier later w' r.1 r.2 :=
  (isSound_of_moves hw hvalid hrun).failsAlone hpass hfailed

/-! ### One of two executions fails -/

/-- A page that holds the player before a command of unknown kind. -/
def stumblingPage : Page := (Page.draft ⟨1⟩ "stumbling" ⟨2⟩).withRoot [.holdPlayer, .unsupported]

/-- A page that shows a text. -/
def greetingPage : Page := (Page.draft ⟨6⟩ "greeting" ⟨7⟩).withRoot [.showText "Hello" ""]

/-- A world with one player, in which two commands are executed in each pass. -/
def busy : World :=
  (World.start { scheduler.commandsPerTick := 2 } .empty (.start 0) (.seeded 0)).addPlayer
    (.fresh ⟨3⟩ "Ann" .nil 1 1)

/-- A scheduler that has started an event on each of these pages for the player. -/
def stumbling : Scheduler :=
  (((Scheduler.start busy).launch ⟨3⟩ ⟨4⟩ stumblingPage id).2.launch ⟨3⟩ ⟨5⟩ greetingPage id).2

/-- It is sound. -/
theorem isSound_stumbling : stumbling.IsSound := by
  have hindexed : busy.IsIndexed := (World.IsIndexed.start _ .empty _ _).addPlayer _
  have hvalid : busy.HasValidEvents := by
    intro event d hd
    cases hd
  have hstart : (Scheduler.start busy).IsSound := .start hindexed hvalid
  refine (hstart.opens (.launch rfl (fun _ => ⟨rfl, rfl⟩) fun _ => ?_) fun _ _ => id).opens
    (.launch rfl (fun _ => ⟨rfl, rfl⟩) fun _ => ?_) fun _ _ => id
  · exact Instance.coherent_start rfl
  · exact Instance.coherent_start rfl

/-- In the next pass the first execution holds the player and fails, and the second one is called
behind it. -/
theorem failsAlone_of_tick_stumbling :
    ∃ s₁ c later w report s', stumbling.tick = .ok (report, s') ∧ report.failed = 1 ∧
      c.isFailed = true ∧ c.outcome.2.run.holding = true ∧
        later.map (fun d => d.before.run.event) = [⟨5⟩] ∧
          Stint.FailsAlone c s₁ [] later w report s' := by
  have htick : stumbling.tick = .ok (_, _) := rfl
  obtain ⟨s₁, cs, w, hpass, hfails⟩ := failsAlone_of_tick isSound_stumbling htick
  generalize hr : (_, _) = r at hpass
  cases hpass with
  | @intro _ _ s₁ s₂ _ cs before called =>
    obtain ⟨w, instances⟩ := s₂
    cases before
    cases called
    have halone := hfails [] _ _ rfl rfl
    exact ⟨_, _, _, _, _, _, htick, rfl, rfl, rfl, rfl, halone⟩

end Scheduler

end EventScript
