import EventScript.Proofs.Guarded
import EventScript.Proofs.Table
import EventScript.Scheduler

/-!
# Requests for common events

A pass serves requests twice: what was asked for before it first, what was asked for during it last.
An attempt to start an event for a player is refused while the scheduler keeps an execution of the
event for the player, and finished executions are only removed at the very end of a pass. So an
attempt is lost exactly if the executions of the event that the scheduler keeps for the player when
requests begin to be served are all complete.
-/

namespace EventScript

/-- A page is one of a common event that is described. -/
def World.HasEventPage (w : World) (page : Page) : Prop :=
  ∃ event d, w.catalog.commonEvents.get? event = some d ∧ ∃ e ∈ d.pages, e.page = page

namespace Scheduler

/-- An attempt to start an event for a player on a page, with the scheduler at that moment. -/
structure Attempt where
  scheduler : Scheduler
  player : PlayerId
  event : EventId
  page : Page

namespace Attempt

/-- The execution that the attempt starts, if it starts one. -/
def started (a : Attempt) : Option InstanceId :=
  (a.scheduler.launch a.player a.event a.page id).1

/-- Nothing was lost: where the attempt starts nothing, an execution of the event for the player is
not complete yet. -/
def IsJustified (a : Attempt) : Prop :=
  a.started = none →
    ∃ i ∈ a.scheduler.instancesOf a.player, i.event = a.event ∧ i.isComplete = false

end Attempt

/-- The attempts made while requests are served in order: a request for a loaded player attempts to
start the event it names if a page of the event is selected, or one event after the other whose
pages are selected by the trigger. -/
inductive Attempts : Scheduler → List EventRequest → Attempt → Prop
  | start {s : Scheduler} {player : PlayerId} {event : EventId} {rest : List EventRequest}
      {p : Player} {d : CommonEventDescriptor} {page : Page}
      (loaded : s.world.player? player = some p)
      (described : s.world.catalog.commonEvents.get? event = some d)
      (selected : firstPage? ⟨s.world, p, none⟩ d.pages.reverse = .ok (some page)) :
      Attempts s (.start player event :: rest) ⟨s, player, event, page⟩
  | trigger {s : Scheduler} {player : PlayerId} {trigger : Trigger} {rest : List EventRequest}
      {p : Player} {earlier later : List (EventId × Page)} {event : EventId} {page : Page}
      (loaded : s.world.player? player = some p)
      (selected : triggeredPages ⟨s.world, p, none⟩ trigger s.world.catalog.commonEvents.values =
        .ok (earlier ++ (event, page) :: later)) :
      Attempts s (.trigger player trigger :: rest)
        ⟨(launchAll player earlier s).2, player, event, page⟩
  | later {s s' : Scheduler} {r : EventRequest} {rest : List EventRequest} {started : Nat}
      {a : Attempt} (served : s.serve r = .ok (started, s')) (attempt : Attempts s' rest a) :
      Attempts s (r :: rest) a

/-- The attempts made in a pass over a scheduler, told with the scheduler as it is when the requests
that are served then begin to be served. -/
inductive TickAttempts (s : Scheduler) : Scheduler → Attempt → Prop
  | before {a : Attempt}
      (attempt : Attempts { s with world.requests := [] } s.world.requests a) : TickAttempts s s a
  | during {s₁ s₂ : Scheduler} {started : Nat} {instances : Table PlayerId (List Instance)}
      {pass : Pass} {a : Attempt} (served : s.serveRequests = .ok (started, s₁))
      (turns : takeAllTurns s₁.world.config.scheduler.commandsPerTick s₁.instances.entries
        s₁.instances ⟨s₁.world, 0, 0⟩ = .ok (instances, pass))
      (passed : s₂ = (Scheduler.mk pass.world instances).applySwitches)
      (attempt : Attempts { s₂ with world.requests := [] } s₂.world.requests a) :
      TickAttempts s s₂ a

/-- The scheduler keeps executions of an event for a player, and they are all complete. -/
def IsStale (s : Scheduler) (player : PlayerId) (event : EventId) : Prop :=
  s.isRunning player event ∧
    ∀ i ∈ s.instancesOf player, i.event = event → i.isComplete = true

/-! ## Starting -/

/-- An event is kept for a player if one of the player's executions is of it. -/
theorem isRunning_iff {s : Scheduler} {player : PlayerId} {event : EventId} :
    s.isRunning player event ↔ ∃ i ∈ s.instancesOf player, i.event = event := by
  unfold isRunning
  rw [List.any_eq_true]
  simp only [beq_iff_eq]

/-- An attempt starts nothing exactly if the event is kept for the player. -/
theorem Attempt.started_eq_none_iff (a : Attempt) :
    a.started = none ↔ a.scheduler.isRunning a.player a.event := by
  unfold started launch
  split
  · next h => exact ⟨fun _ => h, fun _ => rfl⟩
  · next h => exact ⟨nofun, fun h' => absurd h' h⟩

/-- A page that is selected is one of those it is selected from. -/
theorem mem_of_firstPage? {v : Perspective} {ds : List CommonEventPage} {page : Page}
    (h : firstPage? v ds = .ok (some page)) : ∃ d ∈ ds, d.page = page := by
  induction ds with
  | nil => cases h
  | cons d rest ih =>
    obtain ⟨met, -, h⟩ := Guarded.bind_eq_ok.mp h
    split at h
    · cases h
      exact ⟨d, List.mem_cons_self, rfl⟩
    · obtain ⟨e, he, hpage⟩ := ih h
      exact ⟨e, List.mem_cons_of_mem d he, hpage⟩

/-- The pages that a trigger selects are pages of the events they are selected from. -/
theorem mem_of_triggeredPages {v : Perspective} {trigger : Trigger}
    {ds : List CommonEventDescriptor} {pages : List (EventId × Page)}
    (h : triggeredPages v trigger ds = .ok pages) :
    ∀ e ∈ pages, ∃ d ∈ ds, ∃ p ∈ d.pages, p.page = e.2 := by
  induction ds generalizing pages with
  | nil =>
    cases h
    exact fun e he => absurd he List.not_mem_nil
  | cons d rest ih =>
    obtain ⟨page, hpage, h⟩ := Guarded.bind_eq_ok.mp h
    obtain ⟨later, hlater, h⟩ := Guarded.bind_eq_ok.mp h
    have hrest : ∀ e ∈ later, ∃ d' ∈ d :: rest, ∃ p ∈ d'.pages, p.page = e.2 := by
      intro e he
      obtain ⟨d', hd', hp⟩ := ih hlater e he
      exact ⟨d', List.mem_cons_of_mem d hd', hp⟩
    cases page with
    | none =>
      cases h
      exact hrest
    | some page =>
      cases h
      intro e he
      rcases List.mem_cons.mp he with rfl | he
      · obtain ⟨p, hp, rfl⟩ := mem_of_firstPage? hpage
        exact ⟨d, List.mem_cons_self, p, List.mem_reverse.mp (List.mem_filter.mp hp).1, rfl⟩
      · exact hrest e he

/-- A common event is started for a loaded player on one of its pages, or nothing happens. -/
theorem startCommonEvent_cases {s : Scheduler} {player : PlayerId} {event : EventId}
    {r : Option InstanceId × Scheduler} (h : s.startCommonEvent player event = .ok (.ok r)) :
    r = (none, s) ∨ (s.world.player? player).isSome ∧
      ∃ page, s.world.HasEventPage page ∧ r = s.launch player event page id := by
  unfold startCommonEvent at h
  split at h
  · cases h
  · next p hp =>
    split at h
    · cases h
      exact .inl rfl
    · next d hd =>
      obtain ⟨page, hpage, h⟩ := Guarded.bind_eq_ok.mp h
      cases page with
      | none =>
        cases h
        exact .inl rfl
      | some page =>
        cases h
        obtain ⟨e, he, hpage⟩ := mem_of_firstPage? hpage
        exact .inr ⟨Option.isSome_iff_exists.mpr ⟨p, hp⟩, page,
          ⟨event, d, hd, e, List.mem_reverse.mp he, hpage⟩, rfl⟩

/-- A trigger starts events for a loaded player on their pages. -/
theorem triggerCommonEvents_cases {s : Scheduler} {player : PlayerId} {trigger : Trigger}
    {r : List InstanceId × Scheduler} (h : s.triggerCommonEvents player trigger = .ok (.ok r)) :
    (s.world.player? player).isSome ∧
      ∃ pages, (∀ e ∈ pages, s.world.HasEventPage e.2) ∧ r = launchAll player pages s := by
  unfold triggerCommonEvents at h
  split at h
  · cases h
  · next p hp =>
    obtain ⟨pages, hpages, h⟩ := Guarded.bind_eq_ok.mp h
    cases h
    refine ⟨Option.isSome_iff_exists.mpr ⟨p, hp⟩, pages, fun e he => ?_, rfl⟩
    obtain ⟨d, hd, hpage⟩ := mem_of_triggeredPages hpages e he
    obtain ⟨event, hevent⟩ := Table.mem_values_iff.mp hd
    exact ⟨event, d, hevent, hpage⟩

/-- What serving a request can come to. -/
inductive ServeCase (s : Scheduler) : Nat × Scheduler → Prop
  | nothing : ServeCase s (0, s)
  | launched {player : PlayerId} {event : EventId} {page : Page}
      (loaded : (s.world.player? player).isSome) :
      ServeCase s ((s.launch player event page id).1.toList.length,
        (s.launch player event page id).2)
  | triggered {player : PlayerId} {pages : List (EventId × Page)}
      (loaded : (s.world.player? player).isSome) :
      ServeCase s ((launchAll player pages s).1.length, (launchAll player pages s).2)

/-- Serving a request comes to one of the cases. -/
theorem serve_cases {s : Scheduler} {r : EventRequest} {result : Nat × Scheduler}
    (h : s.serve r = .ok result) : s.ServeCase result := by
  cases r with
  | trigger player trigger =>
    obtain ⟨outcome, houtcome, h⟩ := Guarded.bind_eq_ok.mp h
    cases outcome with
    | error =>
      cases h
      exact .nothing
    | ok r =>
      obtain ⟨hloaded, pages, -, rfl⟩ := triggerCommonEvents_cases houtcome
      cases h
      exact .triggered hloaded
  | start player event =>
    obtain ⟨outcome, houtcome, h⟩ := Guarded.bind_eq_ok.mp h
    cases outcome with
    | error =>
      cases h
      exact .nothing
    | ok r =>
      rcases startCommonEvent_cases houtcome with rfl | ⟨hloaded, page, -, rfl⟩
      · cases h
        exact .nothing
      · cases h
        exact .launched hloaded

/-- While requests are served, players only get executions that have yet to run, of events that
were not kept for them before. -/
def Extends (s s' : Scheduler) : Prop :=
  ∀ player, ∃ new, s'.instancesOf player = s.instancesOf player ++ new ∧
    ∀ i ∈ new, i.isComplete = false ∧ s.isRunning player i.event = false

namespace Extends

/-- Nothing was started. -/
theorem refl (s : Scheduler) : s.Extends s := fun _ =>
  ⟨[], (List.append_nil _).symm, fun _ hi => absurd hi List.not_mem_nil⟩

/-- What is kept stays kept. -/
theorem isRunning {s s' : Scheduler} (h : s.Extends s') {player : PlayerId} {event : EventId}
    (hs : s.isRunning player event) : s'.isRunning player event := by
  obtain ⟨new, heq, _⟩ := h player
  obtain ⟨i, hi, hevent⟩ := isRunning_iff.mp hs
  exact isRunning_iff.mpr ⟨i, heq ▸ List.mem_append_left new hi, hevent⟩

/-- Serving goes on. -/
theorem trans {s₁ s₂ s₃ : Scheduler} (h : s₁.Extends s₂) (h' : s₂.Extends s₃) :
    s₁.Extends s₃ := by
  intro player
  obtain ⟨new, heq, hnew⟩ := h player
  obtain ⟨new', heq', hnew'⟩ := h' player
  refine ⟨new ++ new', by rw [heq', heq, List.append_assoc], fun i hi => ?_⟩
  rcases List.mem_append.mp hi with hi | hi
  · exact hnew i hi
  · obtain ⟨hcomplete, hkept⟩ := hnew' i hi
    refine ⟨hcomplete, ?_⟩
    rw [← Bool.not_eq_true] at hkept ⊢
    exact fun hs => hkept (h.isRunning hs)

/-- Starting an event extends a scheduler. -/
theorem launch (s : Scheduler) (player : PlayerId) (event : EventId) (page : Page) :
    s.Extends (s.launch player event page id).2 := by
  unfold Scheduler.launch
  split
  · exact .refl s
  · next hkept =>
    intro owner
    unfold instancesOf
    by_cases howner : player = owner
    · subst howner
      rw [Table.get?_insert_self]
      refine ⟨_, rfl, fun i hi => ?_⟩
      rw [List.mem_singleton.mp hi]
      exact ⟨rfl, Bool.eq_false_iff.mpr hkept⟩
    · rw [Table.get?_insert_of_ne _ _ howner]
      exact Extends.refl s owner

/-- Starting events one after the other extends a scheduler. -/
theorem launchAll (player : PlayerId) (pages : List (EventId × Page)) (s : Scheduler) :
    s.Extends (launchAll player pages s).2 := by
  induction pages generalizing s with
  | nil => exact .refl s
  | cons entry rest ih => exact (launch s player entry.1 entry.2).trans (ih _)

/-- Serving a request extends a scheduler. -/
theorem serve {s s' : Scheduler} {r : EventRequest} {started : Nat}
    (h : s.serve r = .ok (started, s')) : s.Extends s' := by
  generalize hresult : (started, s') = result at h
  cases serve_cases h with
  | nothing =>
    cases hresult
    exact .refl s
  | launched =>
    cases hresult
    exact launch s _ _ _
  | triggered =>
    cases hresult
    exact launchAll _ _ s

end Extends

/-! ## Lost attempts -/

/-- Until an attempt is made, the requests before it were served. -/
theorem Attempts.extends {s : Scheduler} {rs : List EventRequest} {a : Attempt}
    (h : Attempts s rs a) : s.Extends a.scheduler := by
  induction h with
  | start => exact .refl _
  | @trigger s player _ _ _ earlier => exact .launchAll player earlier s
  | later served _ ih => exact (Extends.serve served).trans ih

/-- An attempt in a pass is made after only requests were served. -/
theorem TickAttempts.extends {s s₀ : Scheduler} {a : Attempt} (h : s.TickAttempts s₀ a) :
    s₀.Extends a.scheduler := by
  cases h with
  | before attempt => exact attempt.extends
  | during _ _ _ attempt => exact attempt.extends

/-- An attempt in a pass is lost exactly if the executions of the event that were kept for the
player when requests began to be served are all complete. -/
theorem isJustified_iff_not_isStale {s s₀ : Scheduler} {a : Attempt} (h : s.TickAttempts s₀ a) :
    a.IsJustified ↔ ¬ s₀.IsStale a.player a.event := by
  obtain ⟨new, heq, hnew⟩ := h.extends a.player
  constructor
  · rintro hjustified ⟨hkept, hcomplete⟩
    obtain ⟨i, hi, hevent, hruns⟩ :=
      hjustified (a.started_eq_none_iff.mpr (h.extends.isRunning hkept))
    rw [heq] at hi
    rcases List.mem_append.mp hi with hi | hi
    · rw [hcomplete i hi hevent] at hruns
      cases hruns
    · rw [← hevent, (hnew i hi).2] at hkept
      cases hkept
  · intro hstale hrefused
    obtain ⟨i, hi, hevent⟩ := isRunning_iff.mp (a.started_eq_none_iff.mp hrefused)
    rw [heq] at hi
    rcases List.mem_append.mp hi with hi | hi
    · have hexists : ∃ j ∈ s₀.instancesOf a.player, j.event = a.event ∧ j.isComplete = false := by
        refine Classical.not_not.mp fun hnone => hstale ⟨isRunning_iff.mpr ⟨i, hi, hevent⟩, ?_⟩
        intro j hj hjevent
        cases hc : j.isComplete with
        | true => rfl
        | false => exact absurd ⟨j, hj, hjevent, hc⟩ hnone
      obtain ⟨j, hj, hjevent, hruns⟩ := hexists
      exact ⟨j, heq ▸ List.mem_append_left new hj, hjevent, hruns⟩
    · exact ⟨i, heq ▸ List.mem_append_right _ hi, hevent, (hnew i hi).1⟩

/-! ### An event that asks for itself -/

/-- A page that raises the level of the player. -/
def rising : Page := (Page.draft ⟨1⟩ "rising" ⟨2⟩).withRoot [.levelUp]

/-- A common event that is started on that page when the player's level rises. -/
def risingEvent : CommonEventDescriptor := ⟨⟨5⟩, "rising", [⟨.levelUp, [], rising⟩]⟩

/-- A scheduler that has started the event for its only player. -/
def risen : Scheduler :=
  let catalog := { Catalog.empty with commonEvents := Table.empty.insert risingEvent.id risingEvent }
  let world := (World.start {} catalog (.start 0) (.seeded 0)).addPlayer (.fresh ⟨3⟩ "Ann" .nil 1 1)
  ((Scheduler.start world).launch ⟨3⟩ risingEvent.id rising id).2

/-- In the next pass the event finishes and asks for itself, and the attempt to start it again is
lost although nothing of it is left to run. -/
theorem not_isJustified_risen :
    ∃ s₀ a, risen.TickAttempts s₀ a ∧ a.event = risingEvent.id ∧ ¬ a.IsJustified := by
  refine ⟨_, _, .during rfl rfl rfl (.trigger rfl
    (show triggeredPages _ _ _ = .ok ([] ++ (⟨5⟩, rising) :: []) from rfl)), rfl, ?_⟩
  intro hjustified
  obtain ⟨i, hi, _, hruns⟩ := hjustified rfl
  rw [List.mem_singleton.mp hi] at hruns
  cases hruns

/-- The same attempt, told by what the scheduler keeps when it is made. -/
theorem isJustified_iff_not_isStale_risen :
    ∃ s₀ a, risen.TickAttempts s₀ a ∧ (a.IsJustified ↔ ¬ s₀.IsStale a.player a.event) ∧
      s₀.IsStale a.player a.event := by
  have hattempt : risen.TickAttempts _ _ := .during rfl rfl rfl (.trigger rfl
    (show triggeredPages _ _ _ = .ok ([] ++ (⟨5⟩, rising) :: []) from rfl))
  refine ⟨_, _, hattempt, isJustified_iff_not_isStale hattempt, rfl, fun i hi _ => ?_⟩
  rw [List.mem_singleton.mp hi]
  rfl

/-! ## Between passes -/

/-- Nothing that is complete is kept when complete executions were removed. -/
theorem isComplete_of_reap (s : Scheduler) (player : PlayerId) :
    ∀ i ∈ s.reap.2.instancesOf player, i.isComplete = false := by
  intro i hi
  unfold reap withoutIdle instancesOf at hi
  simp only [Table.get?_filter, Table.get?_map] at hi
  cases hget : s.instances.get? player with
  | none =>
    rw [hget] at hi
    cases hi
  | some is =>
    have hkept : i ∈ is.filter fun i => !i.isComplete := by
      rw [hget, Option.map_some, Option.filter_some] at hi
      split at hi
      · exact hi
      · cases hi
    simpa using (List.mem_filter.mp hkept).2

/-- What is asked for after a pass is not lost in the next one. -/
theorem not_isStale_of_tick {s s' : Scheduler} {report : TickReport}
    (h : s.tick = .ok (report, s')) (player : PlayerId) (event : EventId) :
    ¬ s'.IsStale player event := by
  rintro ⟨hkept, hcomplete⟩
  obtain ⟨i, hi, hevent⟩ := isRunning_iff.mp hkept
  have hruns : i.isComplete = false := by
    unfold tick at h
    obtain ⟨_, _, h⟩ := Guarded.bind_eq_ok.mp h
    obtain ⟨_, _, h⟩ := Guarded.bind_eq_ok.mp h
    obtain ⟨_, _, h⟩ := Guarded.bind_eq_ok.mp h
    cases h
    exact isComplete_of_reap _ player i hi
  rw [hcomplete i hi hevent] at hruns
  cases hruns

end Scheduler

end EventScript
