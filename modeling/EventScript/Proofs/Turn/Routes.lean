import EventScript.Proofs.Turn.Deed
import EventScript.Proofs.Turn.Waiting

/-!
# Routes in a turn

Scripts send players and events on maps along routes and never take a route away, and they wait for
the end of a route only if there is one. So whoever an execution waits for has a route as far as
turns are concerned: its own ones as well as those of others.
-/

namespace EventScript

/-- The route that a player or an event on a map moves along, if there is one. -/
def World.moveRoute? (w : World) : RouteEntity → Option MoveRoute
  | .player id => (w.player? id).bind fun p => p.activity.moveRoute
  | .event id => (w.mapEvent? id).bind MapEvent.moveRoute

/-- An entity moves along a route. -/
def World.HasRoute (w : World) (entity : RouteEntity) : Prop := (w.moveRoute? entity).isSome

/-- The route of an entity, told by the reserve of a world. -/
def World.Reserve.moveRoute? (r : World.Reserve) : RouteEntity → Option MoveRoute
  | .player id => (r.walkers id).bind Walker.route
  | .event id => (r.mapEvents.get? id).bind MapEvent.moveRoute

namespace World

/-- Routes are told by the reserve of a world. -/
theorem moveRoute?_reserve (w : World) (entity : RouteEntity) :
    w.reserve.moveRoute? entity = w.moveRoute? entity := by
  cases entity with
  | player id => exact Option.bind_map ..
  | event id => rfl

/-- The route of a loaded player. -/
theorem moveRoute?_of_player {w : World} {id : PlayerId} {p : Player}
    (hp : w.player? id = some p) : w.moveRoute? (.player id) = p.walker.route := by
  show (w.player? id).bind _ = _
  rw [hp]
  rfl

/-- Routes after a player was kept. -/
theorem moveRoute?_putPlayer (w : World) (id : PlayerId) (p : Player) (entity : RouteEntity) :
    (w.putPlayer id p).moveRoute? entity =
      if entity = .player id then p.activity.moveRoute else w.moveRoute? entity := by
  cases entity with
  | event => rfl
  | player other =>
    show ((w.players.insert id p).get? other).bind _ = _
    rw [Table.get?_insert]
    split
    · next hid =>
      rw [Table.rank_inj.mp hid, if_pos rfl]
      rfl
    · next hid =>
      rw [if_neg fun heq => hid (by cases heq; rfl)]
      rfl

end World

/-! ## Frames that wait for the end of a route -/

namespace CallStack

/-- Whoever a frame waits for has a route. -/
def AwaitsRoutes (w : World) (s : CallStack) : Prop :=
  ∀ f ∈ s, ∀ route, f.waiting = some (.route route) → w.HasRoute route.entity

variable {w w' : World} {f : Frame} {s : CallStack}

/-- A frame that waits for no route comes first. -/
theorem AwaitsRoutes.cons (h : AwaitsRoutes w s) (hf : ∀ route, f.waiting ≠ some (.route route)) :
    AwaitsRoutes w (f :: s) :=
  List.forall_mem_cons.mpr ⟨fun route hroute => absurd hroute (hf route), h⟩

/-- The frames below the running one. -/
theorem AwaitsRoutes.tail (h : AwaitsRoutes w (f :: s)) : AwaitsRoutes w s :=
  fun g hg => h g (List.mem_cons_of_mem f hg)

/-- The running frame goes behind its command. -/
theorem AwaitsRoutes.advance (h : AwaitsRoutes w (f :: s)) (hruns : f.waiting = none) :
    AwaitsRoutes w (f.advance :: s) := by
  refine h.tail.cons fun route hroute => ?_
  have hnone : f.advance.waiting = none := hruns
  rw [hnone] at hroute
  cases hroute

/-- Whoever had a route has one. -/
theorem AwaitsRoutes.mono (h : AwaitsRoutes w s) (hw : ∀ e, w.HasRoute e → w'.HasRoute e) :
    AwaitsRoutes w' s :=
  fun f hf route hroute => hw _ (h f hf route hroute)

/-- Frames are left and let go on. -/
theorem isSettled_awaitsRoutes (w : World) : IsSettled (AwaitsRoutes w) where
  nil _ hf := absurd hf List.not_mem_nil
  leave := AwaitsRoutes.tail
  release h := h.tail.cons nofun

/-- A command waits for entities that have a route. -/
theorem AwaitsRoutes.execute (h : AwaitsRoutes w (f :: s)) (hruns : f.waiting = none)
    {scene : Scene} {c : Command} {m : StackChange} (hm : c.Permits scene m)
    (hscene : ∀ target route, scene.routeOf? target = some route → w.HasRoute route.entity) :
    AwaitsRoutes w (m.apply f.page (f.advance :: s)) := by
  have hadvance : AwaitsRoutes w (f.advance :: s) := h.advance hruns
  cases hm with
  | keep => exact hadvance
  | @suspend what _ watches =>
    refine List.forall_mem_cons.mpr ⟨fun route hroute => ?_, h.tail⟩
    obtain ⟨target, -, hfound⟩ := watches route (Option.some.inj hroute)
    exact hscene target route hfound
  | enter => exact hadvance.cons nofun
  | call =>
    intro g hg
    rcases mem_call hg with hg | ⟨page, -, rfl⟩
    · exact hadvance g hg
    · nofun
  | jump _ hfound =>
    intro g hg
    rcases List.mem_append.mp hg with hg | hg
    · have hrun := ((Page.resolveLabel?_isSegment hfound).2 g (List.mem_reverse.mp hg)).2
      rw [Frame.isSuspended_eq_false_iff] at hrun
      rw [hrun]
      nofun
    · exact hadvance g (leavePage_subset _ g hg)
  | leave => exact fun g hg => absurd hg List.not_mem_nil

/-- A response lets the running frame go on. -/
theorem AwaitsRoutes.answer (h : AwaitsRoutes w (f :: s)) {scene : Scene} {asked : Suspension}
    {m : StackChange} (hm : scene.Answers asked m) :
    AwaitsRoutes w (m.apply f.page (f.release :: s)) := by
  have hrelease : AwaitsRoutes w (f.release :: s) := h.tail.cons nofun
  cases hm with
  | keep => exact hrelease
  | enter => exact hrelease.cons nofun

end CallStack

/-! ## Turns -/

namespace Scene

/-- Whoever a script can wait for has a route. -/
theorem hasRoute_of_routeOf? {w : World} (hw : w.IsIndexed) {id : PlayerId} {p : Player}
    (hp : w.player? id = some p) {run : Instance} {page : Page} {target : EventId}
    {route : RouteTarget} (h : Scene.routeOf? ⟨⟨w, p⟩, run, page⟩ target = some route) :
    w.HasRoute route.entity := by
  unfold routeOf? at h
  unfold World.HasRoute World.moveRoute?
  split at h
  · obtain ⟨path, hpath, rfl⟩ := Option.map_eq_some_iff.mp h
    dsimp only at hpath ⊢
    rw [hw.players hp, hp, Option.bind_some, hpath, Option.isSome_some]
  · obtain ⟨e, he, h⟩ := Option.bind_eq_some_iff.mp h
    obtain ⟨path, hpath, h⟩ := Option.bind_eq_some_iff.mp h
    cases h
    dsimp only at he ⊢
    rw [hw.mapEvents he, he, Option.bind_some, hpath, Option.isSome_some]

end Scene

namespace Turn

variable {t : Turn} {entity : RouteEntity}

/-- No step takes a route away. -/
theorem hasRoute_step {r : Outcome StepOutcome} (h : t.step = .ok r)
    (he : t.world.HasRoute entity) : r.2.world.HasRoute entity := by
  have hcase := deed_cases h
  generalize t.deed? = deed at hcase
  generalize r.2 = t' at hcase ⊢
  unfold World.HasRoute at he ⊢
  cases hcase with
  | idle => exact he
  | @done p page c s st st' hplayer hscene =>
    have hcase := Scene.reserve_cases _ hscene
    rw [World.moveRoute?_putPlayer]
    split
    · next hself =>
      rw [hself, World.moveRoute?_of_player hplayer] at he
      show s.reserve.walker.route.isSome
      generalize s.reserve = after at hcase ⊢
      cases hcase with
      | walk => rfl
      | _ => exact he
    · rw [← World.moveRoute?_reserve] at he ⊢
      show (s.reserve.world.moveRoute? entity).isSome
      generalize s.reserve = after at hcase ⊢
      cases hcase with
      | @route route hother =>
        cases entity with
        | player id => exact he
        | event id =>
          change ((t.world.mapEvents.get? id).bind MapEvent.moveRoute).isSome at he
          show (((t.world.mapEvents.modify route.target _).get? id).bind _).isSome
          rw [Table.get?_modify]
          split
          · cases hevent : t.world.mapEvents.get? id with
            | none =>
              rw [hevent] at he
              cases he
            | some e => rfl
          · exact he
      | _ => exact he

/-- A response leaves all routes as they are. -/
theorem moveRoute?_answer {response : Response} {r : Outcome Bool}
    (h : t.answer response = .ok r) (entity : RouteEntity) :
    r.2.world.moveRoute? entity = t.world.moveRoute? entity := by
  cases answer_cases h with
  | ignored => rfl
  | missingPlayer => rfl
  | @accepted frame rest asked p s hstack hwaiting hanswered hplayer hscene =>
    have hreserve := Scene.reserve_resume _ hscene
    have hworld : s.world.reserve = t.world.reserve :=
      congrArg (fun r : Scene.Reserve => r.world) hreserve
    have hwalker : s.player.walker = p.walker :=
      congrArg (fun r : Scene.Reserve => r.walker) hreserve
    rw [World.moveRoute?_putPlayer]
    split
    · next hself =>
      rw [hself, World.moveRoute?_of_player hplayer, ← hwalker]
      rfl
    · rw [← World.moveRoute?_reserve, hworld, World.moveRoute?_reserve]

/-- In a step an execution starts to wait only for entities that have a route. -/
theorem awaitsRoutes_step (hindexed : t.world.IsIndexed) {r : Outcome StepOutcome}
    (h : t.step = .ok r) (ht : CallStack.AwaitsRoutes t.world t.run.stack) :
    CallStack.AwaitsRoutes r.2.world r.2.run.stack := by
  have hkept : ∀ e, t.world.HasRoute e → r.2.world.HasRoute e := fun e => hasRoute_step h
  refine CallStack.AwaitsRoutes.mono ?_ hkept
  have hsettled := (CallStack.isSettled_awaitsRoutes t.world).settle ht
  cases step_cases h with
  | defect | completed | waiting => exact hsettled
  | @execute frame rest r hstack hruns hcase =>
    rw [hstack] at hsettled
    have hadvance : (t.settle.run.modifyTop Frame.advance).stack = frame.advance :: rest := by
      rw [Instance.modifyTop_cons hstack]
    cases hcase with
    | missingList | outOfRange | missingPlayer | unsupported =>
      rw [hadvance]
      exact hsettled.advance hruns
    | @executed commands c p s hlist hcommand hplayer hsupported hscene =>
      rw [settle_world, settle_player] at hplayer
      obtain ⟨m, hm, hs, -⟩ := (Scene.execute_stackFree
        ⟨⟨t.settle.world, p⟩, t.settle.run.modifyTop Frame.advance, frame.page⟩ c).result hscene
      rw [conclude_stack]
      refine (CallStack.isSettled_awaitsRoutes t.world).unwind ?_
      show CallStack.AwaitsRoutes t.world s.run.stack
      have hstack' : s.run.stack = m.apply frame.page (frame.advance :: rest) := by
        rw [← hadvance]
        exact hs
      rw [hstack']
      refine hsettled.execute hruns hm fun target route hroute => ?_
      rw [settle_world] at hroute
      exact Scene.hasRoute_of_routeOf? hindexed hplayer hroute

/-- In a response an execution goes on. -/
theorem awaitsRoutes_answer {response : Response} {r : Outcome Bool}
    (h : t.answer response = .ok r) (ht : CallStack.AwaitsRoutes t.world t.run.stack) :
    CallStack.AwaitsRoutes r.2.world r.2.run.stack := by
  have hkept (e : RouteEntity) (he : t.world.HasRoute e) : r.2.world.HasRoute e := by
    unfold World.HasRoute
    rwa [moveRoute?_answer h]
  refine CallStack.AwaitsRoutes.mono ?_ hkept
  have hanswered := answered_of_answer h
  generalize r.2.run.stack = st at hanswered ⊢
  cases hanswered with
  | ignored => exact ht
  | failed => exact (CallStack.isSettled_awaitsRoutes t.world).release_stack ht
  | accepted hstack _ _ hm =>
    rw [hstack] at ht
    exact ht.answer hm

end Turn

end EventScript
