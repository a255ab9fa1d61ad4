import EventScript.Proofs.Scheduler.Operation
import EventScript.Proofs.Turn.Routes

/-!
# Waiting for the end of a route

An execution that waits for the end of a route waits for an entity on a map, and goes on when the
host signals that this entity has gone its route on this map. The signal takes the route away,
whatever map it names. So whoever is waited for has a route, unless a signal took it away that names
another map than the one that is waited for.
-/

namespace EventScript

/-! ## Signals -/

/-- The entity whose route a signal of a player ends, if it ends one. -/
def Signal.clears? (player : PlayerId) : Signal → Option RouteEntity
  | .routeCompleted ⟨.player id, _⟩ => if id = player then some (.player id) else none
  | .routeCompleted ⟨.event id, _⟩ => some (.event id)
  | _ => none

/-- A signal ends the route of its own player, if it ends that of a player. -/
theorem Signal.eq_of_clears? {player id : PlayerId} {signal : Signal}
    (h : signal.clears? player = some (.player id)) : id = player := by
  unfold clears? at h
  split at h
  · split at h
    · next hid =>
      cases h
      exact hid
    · cases h
  · cases h
  · cases h

/-- What a signal of a player does to the route of the player. -/
theorem Scheduler.moveRoute_clearActivity (player : PlayerId) (signal : Signal) (p : Player) :
    (clearActivity player signal p).activity.moveRoute =
      if signal.clears? player = some (.player player) then none else p.activity.moveRoute := by
  unfold clearActivity Signal.clears?
  cases signal with
  | routeCompleted target =>
    obtain ⟨entity, map⟩ := target
    cases entity with
    | player id => by_cases hid : id = player <;> simp [hid]
    | event id => rfl
  | sessionClosed kind =>
    dsimp only
    split <;> rfl
  | fadeCompleted => rfl

/-- A signal takes the route away that it ends, and no other. -/
theorem Scheduler.moveRoute?_observe (w : World) (player : PlayerId) (signal : Signal)
    (entity : RouteEntity) :
    (observe w player signal).moveRoute? entity =
      if signal.clears? player = some entity then none else w.moveRoute? entity := by
  have hplayers : (observe w player signal).players =
      w.players.modify player (clearActivity player signal) := by
    unfold observe
    dsimp only
    split <;> rfl
  cases entity with
  | player id =>
    show ((observe w player signal).players.get? id).bind _ = _
    rw [hplayers, Table.get?_modify]
    split
    · next hid =>
      obtain rfl := Table.rank_inj.mp hid
      rw [Option.bind_map]
      show (w.players.get? player).bind (fun p =>
        (clearActivity player signal p).activity.moveRoute) = _
      simp only [moveRoute_clearActivity]
      split
      · cases w.players.get? player <;> rfl
      · rfl
    · next hid =>
      rw [if_neg fun hclears => hid (congrArg Keyed.rank (Signal.eq_of_clears? hclears).symm)]
      rfl
  | event id =>
    cases signal with
    | routeCompleted target =>
      obtain ⟨ended, map⟩ := target
      cases ended with
      | player other =>
        have hclears : (Signal.routeCompleted ⟨.player other, map⟩).clears? player ≠
            some (.event id) := by
          unfold Signal.clears?
          dsimp only
          split <;> nofun
        rw [if_neg hclears]
        rfl
      | event other =>
        show ((w.mapEvents.modify other _).get? id).bind _ =
          if some (RouteEntity.event other) = some (.event id) then none else _
        rw [Table.get?_modify]
        split
        · next hid =>
          rw [if_pos (by rw [Table.rank_inj.mp hid]), Option.bind_map]
          cases w.mapEvents.get? id <;> rfl
        · next hid =>
          rw [if_neg fun heq => hid (by cases heq; rfl)]
          rfl
    | sessionClosed => rfl
    | fadeCompleted => rfl

namespace Instance

/-- After a signal was received, an execution waits for the end of a route if it did so before and
the signal does not tell of this end. -/
theorem waiting?_receive {i : Instance} {signal : Signal} {route : RouteTarget} :
    (i.receive signal).2.waiting? = some (.route route) ↔
      i.waiting? = some (.route route) ∧ signal ≠ .routeCompleted route := by
  unfold receive
  cases hwaiting : i.waiting? with
  | none =>
    rw [Option.any_none, if_neg Bool.false_ne_true, hwaiting]
    exact ⟨nofun, nofun⟩
  | some asked =>
    rw [Option.any_some]
    split
    · next hended =>
      obtain ⟨f, hf, -⟩ := Option.bind_eq_some_iff.mp hwaiting
      obtain ⟨rest, hstack⟩ := List.head?_eq_some_iff.mp hf
      have hreleased : i.release.waiting? = none := by
        unfold release
        rw [modifyTop_cons hstack]
        rfl
      rw [hreleased]
      refine iff_of_false nofun fun ⟨hasked, hother⟩ => hother ?_
      cases hasked
      cases Suspension.isEndedBy_iff.mp hended
      rfl
    · next hended =>
      rw [hwaiting]
      refine (and_iff_left_of_imp fun hasked => ?_).symm
      rintro rfl
      cases hasked
      exact hended (Suspension.isEndedBy_iff.mpr .route)

/-- Only the running frame of an execution waits, and if it waits for the end of a route, the entity
has one. -/
structure IsAlert (w : World) (i : Instance) : Prop where
  below : CallStack.Runs i.stack.tail
  awaits : CallStack.AwaitsRoutes w i.stack

namespace IsAlert

variable {w w' : World} {i : Instance}

/-- What the running frame waits for. -/
theorem hasRoute (h : i.IsAlert w) {route : RouteTarget} (hi : i.waiting? = some (.route route)) :
    w.HasRoute route.entity := by
  obtain ⟨f, hf, hwaiting⟩ := Option.bind_eq_some_iff.mp hi
  exact h.awaits f (List.mem_of_head? hf) route hwaiting

/-- An execution of which only the running frame waits. -/
theorem of_waiting? (hbelow : CallStack.Runs i.stack.tail)
    (h : ∀ route, i.waiting? = some (.route route) → w.HasRoute route.entity) : i.IsAlert w where
  below := hbelow
  awaits f hf route hroute := by
    cases hstack : i.stack with
    | nil =>
      rw [hstack] at hf
      cases hf
    | cons top rest =>
      rw [hstack] at hf hbelow
      rcases List.mem_cons.mp hf with rfl | hf
      · exact h route ((waiting?_of_stack hstack).trans hroute)
      · have hrun := Frame.isSuspended_eq_false_iff.mp (hbelow f hf)
        rw [hrun] at hroute
        cases hroute

/-- Whoever had a route has one. -/
theorem mono (h : i.IsAlert w) (hw : ∀ e, w.HasRoute e → w'.HasRoute e) : i.IsAlert w' :=
  ⟨h.below, h.awaits.mono hw⟩

/-- An execution in front of its first command. -/
theorem of_isNew (h : i.IsNew) (w : World) : i.IsAlert w := by
  obtain ⟨page, hstack⟩ := h.stack
  have hnil : CallStack.AwaitsRoutes w [] := fun f hf => absurd hf List.not_mem_nil
  refine ⟨?_, ?_⟩
  · rw [hstack]
    exact fun f hf => absurd hf List.not_mem_nil
  · rw [hstack]
    exact hnil.cons nofun

/-- An execution with the frames of another one. -/
theorem of_stack {j : Instance} (h : i.IsAlert w) (hstack : j.stack = i.stack) : j.IsAlert w :=
  ⟨hstack ▸ h.below, hstack ▸ h.awaits⟩

end IsAlert

end Instance

namespace Scheduler

/-- Every execution waits for the end of a route only if the entity has a route. -/
def AwaitsRoutes (s : Scheduler) : Prop :=
  ∀ player, ∀ i ∈ s.instancesOf player, ∀ route, i.waiting? = some (.route route) →
    s.world.HasRoute route.entity

/-- All executions are alert. -/
def IsAlert (s : Scheduler) : Prop := ∀ player, ∀ i ∈ s.instancesOf player, i.IsAlert s.world

/-- An operation does not end a route for whose end somebody waits on another map. -/
def ReachesWaiters (s : Scheduler) : Operation → Prop
  | .signal player signal => ∀ owner, ∀ i ∈ s.instancesOf owner, ∀ route,
      i.waiting? = some (.route route) → signal.clears? player = some route.entity →
        signal = .routeCompleted route
  | _ => True

namespace IsAlert

variable {s s' : Scheduler}

/-- Alert executions wait for entities that have routes. -/
theorem awaitsRoutes (h : s.IsAlert) : s.AwaitsRoutes :=
  fun player i hi _ hroute => (h player i hi).hasRoute hroute

/-- Executions that are there before and after a change that takes no route away. -/
theorem of_subset (h : s.IsAlert)
    (hworld : ∀ e, s.world.HasRoute e → s'.world.HasRoute e)
    (hsubset : ∀ player, ∀ j ∈ s'.instancesOf player,
      ∃ i ∈ s.instancesOf player, j.stack = i.stack) : s'.IsAlert := by
  intro player j hj
  obtain ⟨i, hi, hstack⟩ := hsubset player j hj
  exact ((h player i hi).mono hworld).of_stack hstack

/-- Starting executions. -/
theorem opens {new : PlayerId → Instance → Prop} (hnew : ∀ p i, new p i → i.IsNew)
    (h : s.IsAlert) (hopens : s.Opens new s') : s'.IsAlert := by
  intro player i hi
  rcases hopens.mem hi with hi | hi
  · refine (h player i hi).mono fun e he => ?_
    rw [hopens.world]
    exact he
  · exact .of_isNew (hnew player i hi) _

/-- Something is done in the turn of an execution. -/
theorem replace (h : s.IsAlert) {owner : PlayerId} {index : Nat} {t : Turn}
    (hworld : ∀ e, s.world.HasRoute e → t.world.HasRoute e) (ht : t.run.IsAlert t.world) :
    (s.replace owner index t).IsAlert := by
  intro player j hj
  obtain ⟨k, hk⟩ := List.mem_iff_getElem?.mp hj
  rcases getElem?_replace_cases hk with ⟨-, -, rfl⟩ | hk
  · exact ht
  · exact (h player j (List.mem_of_getElem? hk)).mono hworld

end IsAlert

/-- Every part of a pass keeps executions alert. -/
theorem isKeptInPass_isAlert : IsKeptInPass IsAlert fun _ => True where
  serve {s s'} _ h hopens := by
    have hserved : s.withoutRequests.IsAlert :=
      h.of_subset (fun _ he => he) fun _ j hj => ⟨j, hj, rfl⟩
    exact hserved.opens (fun _ _ hasked => hasked.2.1) hopens
  step {s owner index i r} hs h found result _ := by
    have hi := h owner i (List.mem_of_getElem? found)
    refine h.replace (fun e he => Turn.hasRoute_step result he) ⟨?_, ?_⟩
    · exact CallStack.isKept_runs_tail.step hi.below result
    · exact Turn.awaitsRoutes_step hs.indexed result hi.awaits
  abandon {s owner index i} _ h found := by
    have hworld (e : RouteEntity) :
        (Scheduler.abandon ⟨s.world, i⟩ owner).world.moveRoute? e = s.world.moveRoute? e := by
      unfold Scheduler.abandon
      dsimp only
      split <;> rfl
    have hstack : (Scheduler.abandon ⟨s.world, i⟩ owner).run.stack = [] := by
      unfold Scheduler.abandon
      dsimp only
      split <;> rfl
    refine h.replace (fun e he => ?_) ⟨?_, ?_⟩
    · unfold World.HasRoute
      rwa [hworld]
    · rw [hstack]
      exact fun f hf => absurd hf List.not_mem_nil
    · rw [hstack]
      exact fun f hf => absurd hf List.not_mem_nil
  applySwitches {s} _ h := by
    refine h.of_subset (fun _ he => he) fun player j hj => ?_
    rw [instancesOf_applySwitches] at hj
    obtain ⟨i, hi, rfl⟩ := List.mem_map.mp hj
    obtain ⟨_, heq⟩ := exists_foldl_applySwitch s.world.switchUpdates i
    exact ⟨i, hi, by rw [heq]⟩
  reap {s} _ h := by
    refine h.of_subset (fun _ he => he) fun player j hj => ⟨j, ?_, rfl⟩
    rw [instancesOf_reap] at hj
    exact (List.mem_filter.mp hj).1

/-! ## Operations -/

section

variable {s s' : Scheduler}

/-- After a signal of a player an execution waits for the end of a route if it did so before and the
signal does not tell of this end. -/
theorem waiting?_signal {player owner : PlayerId} {signal : Signal} {i : Instance}
    {route : RouteTarget} :
    (if concernsAll signal || owner == player then (i.receive signal).2 else i).waiting? =
        some (.route route) ↔
      i.waiting? = some (.route route) ∧ signal ≠ .routeCompleted route := by
  split
  · exact Instance.waiting?_receive
  · next hhears =>
    refine (and_iff_left_of_imp fun _ => ?_).symm
    rintro rfl
    exact hhears rfl

/-- An entity has a route after a signal if it had one and the signal does not end it. -/
theorem hasRoute_observe {w : World} {player : PlayerId} {signal : Signal} {entity : RouteEntity} :
    (observe w player signal).HasRoute entity ↔
      signal.clears? player ≠ some entity ∧ w.HasRoute entity := by
  unfold World.HasRoute
  rw [moveRoute?_observe]
  split
  · next hclears => exact iff_of_false nofun fun h => h.1 hclears
  · next hclears => exact (and_iff_right hclears).symm

/-- Signals leave executions alert exactly if they reach all who wait for what they end. -/
theorem awaitsRoutes_signal_iff (h : s.IsAlert) (player : PlayerId) (signal : Signal) :
    (s.signal player signal).2.AwaitsRoutes ↔ ReachesWaiters s (.signal player signal) := by
  constructor
  · intro hawaits owner i hi route hroute hclears
    by_contra hother
    have hmem : (if concernsAll signal || owner == player then (i.receive signal).2 else i) ∈
        (s.signal player signal).2.instancesOf owner := by
      rw [instancesOf_signal]
      exact List.mem_map.mpr ⟨i, hi, rfl⟩
    have hstill := hawaits owner _ hmem route (waiting?_signal.mpr ⟨hroute, hother⟩)
    exact (hasRoute_observe.mp hstill).1 hclears
  · intro hreaches owner j hj route hroute
    rw [instancesOf_signal] at hj
    obtain ⟨i, hi, rfl⟩ := List.mem_map.mp hj
    obtain ⟨hwaits, hother⟩ := waiting?_signal.mp hroute
    refine hasRoute_observe.mpr ⟨fun hclears => ?_, (h owner i hi).hasRoute hwaits⟩
    exact hother (hreaches owner i hi route hwaits hclears)

/-- A player who leaves keeps its route, and so do all others. -/
theorem moveRoute?_disconnect (s : Scheduler) (player : PlayerId) (entity : RouteEntity) :
    (s.disconnect player).2.world.moveRoute? entity = s.world.moveRoute? entity := by
  cases entity with
  | event id => rfl
  | player id =>
    show ((s.world.players.modify player _).get? id).bind _ = (s.world.players.get? id).bind _
    rw [Table.get?_modify]
    split
    · cases s.world.players.get? id <;> rfl
    · rfl

/-- An operation that reaches all who wait for what it ends keeps executions alert. -/
theorem IsAlert.perform (h : s.IsAlert) (hs : s.IsRegular) {op : Operation}
    (hreaches : ReachesWaiters s op) (hperform : s.PerformCase op s') : s'.IsAlert := by
  cases hperform with
  | opened hopens => exact h.opens (fun _ _ hnew => hnew.isNew) hopens
  | passed hpass => exact (isKeptInPass_isAlert.pass hpass hs h fun _ _ => trivial).2
  | @answered owner id response index i r found result =>
    have hi := h owner i (List.mem_of_getElem? found)
    refine h.replace (fun e he => ?_) ⟨?_, ?_⟩
    · unfold World.HasRoute
      rwa [Turn.moveRoute?_answer result]
    · exact CallStack.isKept_runs_tail.transition (.answer result) hi.below
    · exact Turn.awaitsRoutes_answer result hi.awaits
  | signalled player signal =>
    intro owner j hj
    refine .of_waiting? ?_ ((awaitsRoutes_signal_iff h player signal).mpr hreaches owner j hj)
    rw [instancesOf_signal] at hj
    obtain ⟨i, hi, rfl⟩ := List.mem_map.mp hj
    split
    · exact CallStack.isKept_runs_tail.receive (h owner i hi).below signal
    · exact (h owner i hi).below
  | released player =>
    refine h.of_subset (fun e he => ?_) fun owner j hj => ?_
    · rw [world_releasePlayer]
      exact he
    · rw [instancesOf_releasePlayer] at hj
      obtain ⟨i, hi, rfl⟩ := List.mem_map.mp (List.mem_filter.mp hj).1
      refine ⟨i, hi, ?_⟩
      split <;> rfl
  | unloaded map =>
    refine h.of_subset (fun _ he => he) fun owner j hj => ⟨j, ?_, rfl⟩
    rw [instancesOf_unloadMap] at hj
    exact (List.mem_filter.mp hj).1
  | disconnected player =>
    refine h.of_subset (fun e he => ?_) fun owner j hj => ⟨j, ?_, rfl⟩
    · unfold World.HasRoute
      rwa [moveRoute?_disconnect]
    · rw [instancesOf_disconnect] at hj
      split at hj
      · cases hj
      · exact hj

/-- An operation leaves everybody who waits for the end of a route with an entity that has one,
exactly if it reaches all who wait for what it ends. -/
theorem awaitsRoutes_perform_iff (hs : s.IsRegular) (h : s.IsAlert) {op : Operation}
    (hperform : s.perform op = .ok s') : s'.AwaitsRoutes ↔ ReachesWaiters s op := by
  refine ⟨fun hawaits => ?_,
    fun hreaches => (h.perform hs hreaches (perform_cases hs hperform)).awaitsRoutes⟩
  cases op with
  | signal player signal =>
    cases hperform
    exact (awaitsRoutes_signal_iff h player signal).mp hawaits
  | _ => trivial

/-- From a scheduler without executions on, and as long as every signal that ends a route reaches
all who wait for it: whoever is waited for has a route, and a further operation keeps it so exactly
if it reaches all who wait for what it ends. -/
theorem awaitsRoutes_of_moves {w : World} (hw : w.IsIndexed)
    (h : Relation.ReflTransGen (Moves ReachesWaiters) (.start w) s) :
    s.AwaitsRoutes ∧ ∀ op s', s.perform op = .ok s' → (s'.AwaitsRoutes ↔ ReachesWaiters s op) := by
  have hstart : (Scheduler.start w).IsAlert := fun _ _ hi => absurd hi List.not_mem_nil
  obtain ⟨hs, halert⟩ := invariant_of_moves
    (fun hs halert hreaches hperform => IsAlert.perform halert hs hreaches hperform)
    (.start hw) hstart h
  exact ⟨halert.awaitsRoutes, fun op s' hperform => awaitsRoutes_perform_iff hs halert hperform⟩

end

/-! ### A player who is warped on the way -/

/-- A world with one player in which executions run up to their first wait in a pass. -/
def roaming : World :=
  (World.start { scheduler.commandsPerTick := 10 } .empty (.start 0) (.seeded 0)).addPlayer
    (.fresh ⟨3⟩ "Ann" .nil 1 1)

/-- The player is there under its identifier. -/
theorem isIndexed_roaming : roaming.IsIndexed := (World.IsIndexed.start _ _ _ _).addPlayer _

/-- A page that sends the player along a route, waits for its end and shows a text. -/
def walking : Page :=
  (Page.draft ⟨1⟩ "walk" ⟨2⟩).withRoot
    [.setMoveRoute ⟨.nil, [], false, false⟩, .waitForRoute .nil, .showText "There" ""]

/-- A page that warps the player to another map. -/
def warping : Page := (Page.draft ⟨4⟩ "warp" ⟨6⟩).withRoot [.warp ⟨9⟩ 0 0 .retain none]

/-- The player is warped on its way, goes the route to its end on the other map, and the execution
that waits for this goes on waiting, for a route that is no more. -/
theorem not_awaitsRoutes_roaming :
    ∃ s, Relation.ReflTransGen (Moves fun _ _ => True) (.start roaming) s ∧
      (∃ i ∈ s.instancesOf ⟨3⟩, i.waiting? = some (.route ⟨.player ⟨3⟩, .nil⟩)) ∧
        ¬ s.world.HasRoute (.player ⟨3⟩) := by
  have hmoves : Relation.ReflTransGen (Moves fun _ _ => True) (.start roaming) _ :=
    .tail (.tail (.tail (.tail (.tail .refl
      ⟨.startEvent ⟨3⟩ ⟨5⟩ walking, trivial, rfl⟩) ⟨.tick, trivial, rfl⟩)
      ⟨.startEvent ⟨3⟩ ⟨8⟩ warping, trivial, rfl⟩) ⟨.tick, trivial, rfl⟩)
      ⟨.signal ⟨3⟩ (.routeCompleted ⟨.player ⟨3⟩, ⟨9⟩⟩), trivial, rfl⟩
  exact ⟨_, hmoves, ⟨_, List.mem_singleton_self _, rfl⟩, nofun⟩

/-- While the player is on its way it is waited for and has a route. A signal that it has gone its
route on another map would not keep that so. -/
theorem awaitsRoutes_of_moves_roaming :
    ∃ s, Relation.ReflTransGen (Moves ReachesWaiters) (.start roaming) s ∧ s.AwaitsRoutes ∧
      (∃ i ∈ s.instancesOf ⟨3⟩, i.waiting? = some (.route ⟨.player ⟨3⟩, .nil⟩)) ∧
        ¬ (s.signal ⟨3⟩ (.routeCompleted ⟨.player ⟨3⟩, ⟨9⟩⟩)).2.AwaitsRoutes := by
  have hmoves : Relation.ReflTransGen (Moves ReachesWaiters) (.start roaming) _ :=
    .tail (.tail .refl ⟨.startEvent ⟨3⟩ ⟨5⟩ walking, trivial, rfl⟩) ⟨.tick, trivial, rfl⟩
  obtain ⟨hawaits, hnext⟩ := awaitsRoutes_of_moves isIndexed_roaming hmoves
  refine ⟨_, hmoves, hawaits, ⟨_, List.mem_singleton_self _, rfl⟩, fun hsignalled => ?_⟩
  have hreaches := (hnext (.signal ⟨3⟩ (.routeCompleted ⟨.player ⟨3⟩, ⟨9⟩⟩)) _ rfl).mp hsignalled
  cases hreaches ⟨3⟩ _ (List.mem_singleton_self _) ⟨.player ⟨3⟩, .nil⟩ rfl rfl

end Scheduler

end EventScript
