import Mathlib.Logic.Relation
import EventScript.Proofs.Scheduler.Instances

/-!
# Runs of a scheduler

Whatever the host asks of a scheduler that started without executions: every execution stays with
its own loaded player, once for each event; responses never fail; and a pass accounts for every
execution that it started or removed and leaves no work behind.
-/

namespace EventScript

namespace Scheduler

/-! ## What the host does -/

/-- One thing the host does: it starts events, runs a pass, passes on a response or a signal,
removes executions, or changes the world so that loaded players stay loaded. -/
inductive Act : Scheduler → Scheduler → Prop
  | startEvent {s : Scheduler} {player : PlayerId} {event : EventId} {page : Page}
      {r : Option InstanceId × Scheduler} (result : s.startEvent player event page = .ok r) :
      Act s r.2
  | startCommonEvent {s : Scheduler} {player : PlayerId} {event : EventId}
      {r : Option InstanceId × Scheduler}
      (result : s.startCommonEvent player event = .ok (.ok r)) : Act s r.2
  | triggerCommonEvents {s : Scheduler} {player : PlayerId} {trigger : Trigger}
      {r : List InstanceId × Scheduler}
      (result : s.triggerCommonEvents player trigger = .ok (.ok r)) : Act s r.2
  | startGlobal {s : Scheduler} (event : EventId) (map : MapId) (page : Page)
      (switches : Vector Bool 4) : Act s (s.startGlobal event map page switches).2
  | tick {s : Scheduler} {r : TickReport × Scheduler} (result : s.tick = .ok r) : Act s r.2
  | respond {s : Scheduler} {player : PlayerId} {id : InstanceId} {response : Response}
      {r : Except SchedulerError Bool × Scheduler}
      (result : s.respond player id response = .ok r) : Act s r.2
  | signal {s : Scheduler} (player : PlayerId) (signal : Signal) : Act s (s.signal player signal).2
  | releasePlayer {s : Scheduler} (player : PlayerId) : Act s (s.releasePlayer player).2
  | unloadMap {s : Scheduler} (map : MapId) : Act s (s.unloadMap map).2
  | disconnect {s : Scheduler} (player : PlayerId) : Act s (s.disconnect player).2
  | world {s : Scheduler} {w : World}
      (loaded : ∀ id, (s.world.player? id).isSome → (w.player? id).isSome) :
      Act s { s with world := w }

/-! ## Passes -/

/-- Clones that see a change of a self switch are what they were started as. -/
theorem origins_applySwitches (s : Scheduler) : s.applySwitches.origins = s.origins := by
  have hswitches (i : Instance) :
      (s.world.switchUpdates.foldl (fun i u => applySwitch u i) i).origin = i.origin := by
    obtain ⟨switches, hi⟩ := exists_foldl_applySwitch s.world.switchUpdates i
    rw [hi]
    rfl
  unfold applySwitches origins Table.map
  simp only [List.map_map, Function.comp_def, hswitches]

/-- What a pass leaves behind, told by what was there before. -/
structure Accounts (s : Scheduler) (report : TickReport) (s' : Scheduler) : Prop where
  count : s'.instanceCount + report.completed = s.instanceCount + report.started
  requests : s'.world.requests = []
  switchUpdates : s'.world.switchUpdates = []
  incomplete : ∀ player, ∀ i ∈ s'.instancesOf player, i.isComplete = false

/-- A pass accounts for every execution. -/
theorem accounts_of_tick {s : Scheduler} {r : TickReport × Scheduler} (h : s.tick = .ok r) :
    s.Accounts r.1 r.2 := by
  cases tick_cases h with
  | @intro startedBefore startedAfter s₁ s₂ instances pass hbefore hturns hafter =>
    have hgrows₁ := Grows.serveAll hbefore
    have hgrows₂ := Grows.serveAll hafter
    obtain ⟨-, horigins⟩ := backdrop_takeAllTurns s₁.instances.nodup_keys
      (fun e he => Table.mem_entries_iff.mp he) hturns
    have hcount : (Scheduler.mk pass.world instances).applySwitches.instanceCount =
        s₁.instanceCount :=
      instanceCount_of_origins ((origins_applySwitches _).trans horigins)
    refine ⟨?_, ?_, ?_, isComplete_of_reap s₂⟩
    · calc s₂.reap.2.instanceCount + s₂.reap.1
          = s₂.instanceCount := instanceCount_reap s₂
        _ = (Scheduler.mk pass.world instances).applySwitches.instanceCount + startedAfter :=
            hgrows₂.count
        _ = s₁.instanceCount + startedAfter := by rw [hcount]
        _ = s.instanceCount + startedBefore + startedAfter :=
            congrArg (· + startedAfter) hgrows₁.count
        _ = s.instanceCount + (startedBefore + startedAfter) := Nat.add_assoc ..
    · show s₂.world.requests = []
      rw [hgrows₂.world]
    · show s₂.world.switchUpdates = []
      rw [hgrows₂.world]
      rfl

/-- A pass keeps a scheduler well-formed. -/
theorem IsWellFormed.tick {s : Scheduler} {r : TickReport × Scheduler} (hs : s.IsWellFormed)
    (h : s.tick = .ok r) : r.2.IsWellFormed := by
  cases tick_cases h with
  | @intro startedBefore startedAfter s₁ s₂ instances pass hbefore hturns hafter =>
    have hgrows₁ := Grows.serveAll hbefore
    have hgrows₂ := Grows.serveAll hafter
    have hs₁ : s₁.IsWellFormed := hgrows₁.wellFormed (hs.of_origins (fun _ => id) rfl)
    obtain ⟨hworld, horigins⟩ := backdrop_takeAllTurns s₁.instances.nodup_keys
      (fun e he => Table.mem_entries_iff.mp he) hturns
    have hturned : (Scheduler.mk pass.world instances).applySwitches.IsWellFormed := by
      refine hs₁.of_origins (fun id hid => ?_) ((origins_applySwitches _).trans horigins)
      exact (congrFun (congrArg World.Backdrop.loaded hworld) id).trans hid
    have hs₂ : s₂.IsWellFormed := hgrows₂.wellFormed (hturned.of_origins (fun _ => id) rfl)
    refine hs₂.of_sublist (fun _ => id) fun player => ?_
    rw [instancesOf_reap]
    exact List.filter_sublist.map _

/-! ## Responses -/

/-- What a response can come to. -/
inductive RespondCase (s : Scheduler) (player : PlayerId) (response : Response) :
    Except SchedulerError Bool × Scheduler → Prop
  | ignored : RespondCase s player response (.ok false, s)
  | answered {index : Nat} {i : Instance} {accepted : Bool} {t : Turn}
      (found : (s.instancesOf player)[index]? = some i)
      (outcome : (Turn.mk s.world i).answer response = .ok (.ok accepted, t)) :
      RespondCase s player response (.ok accepted,
        ⟨t.world, s.instances.insert player ((s.instancesOf player).set index t.run)⟩)
  | failed {index : Nat} {i : Instance} {e : StepError} {t : Turn}
      (found : (s.instancesOf player)[index]? = some i)
      (outcome : (Turn.mk s.world i).answer response = .ok (.error e, t)) :
      RespondCase s player response (.error (.failure e),
        ⟨t.world, s.instances.insert player ((s.instancesOf player).set index t.run.cancel)⟩)

/-- A response comes to one of the cases. -/
theorem respond_cases {s : Scheduler} {player : PlayerId} {id : InstanceId} {response : Response}
    {r : Except SchedulerError Bool × Scheduler} (h : s.respond player id response = .ok r) :
    s.RespondCase player response r := by
  unfold respond at h
  dsimp only at h
  split at h
  · cases h
    exact .ignored
  · split at h
    · cases h
      exact .ignored
    · next i hi =>
      obtain ⟨⟨outcome, t⟩, houtcome, h⟩ := Guarded.bind_eq_ok.mp h
      cases outcome with
      | ok accepted =>
        cases h
        exact .answered hi houtcome
      | error e =>
        cases h
        exact .failed hi houtcome

/-- A response for a loaded player does not fail. -/
theorem answer_of_loaded {t : Turn} (hplayer : (t.world.player? t.run.player).isSome)
    {response : Response} {r : Turn.Outcome Bool} (h : t.answer response = .ok r) :
    ∃ accepted, r.1 = .ok accepted := by
  cases Turn.answer_cases h with
  | ignored => exact ⟨false, rfl⟩
  | missingPlayer hmissing =>
    rw [hmissing] at hplayer
    cases hplayer
  | accepted => exact ⟨true, rfl⟩

/-- No response fails while every execution is with its own loaded player. -/
theorem IsWellFormed.respond_ok {s : Scheduler} (hs : s.IsWellFormed) {player : PlayerId}
    {id : InstanceId} {response : Response} {r : Except SchedulerError Bool × Scheduler}
    (h : s.respond player id response = .ok r) : ∃ accepted, r.1 = .ok accepted := by
  cases respond_cases h with
  | ignored => exact ⟨false, rfl⟩
  | answered => exact ⟨_, rfl⟩
  | @failed index i e t hfound houtcome =>
    obtain ⟨hplayer, hloaded⟩ := hs.owned player i (List.mem_of_getElem? hfound)
    obtain ⟨_, he⟩ := answer_of_loaded (t := ⟨s.world, i⟩) (hplayer ▸ hloaded) houtcome
    cases he

/-- An execution gives way to one that was started as the same. -/
theorem IsWellFormed.set {s : Scheduler} (hs : s.IsWellFormed) {w : World}
    (hloaded : ∀ id, (s.world.player? id).isSome → (w.player? id).isSome) {player : PlayerId}
    {index : Nat} {i run : Instance} (hfound : (s.instancesOf player)[index]? = some i)
    (horigin : run.origin = i.origin) :
    IsWellFormed ⟨w, s.instances.insert player ((s.instancesOf player).set index run)⟩ := by
  refine hs.of_sublist hloaded fun owner => ?_
  rw [instancesOf_insert]
  split
  · next howner =>
    subst howner
    rw [map_origin_set hfound horigin]
  · exact List.Sublist.refl _

/-- A response keeps a scheduler well-formed. -/
theorem IsWellFormed.respond {s : Scheduler} (hs : s.IsWellFormed) {player : PlayerId}
    {id : InstanceId} {response : Response} {r : Except SchedulerError Bool × Scheduler}
    (h : s.respond player id response = .ok r) : r.2.IsWellFormed := by
  have hloaded {i : Instance} {outcome : Turn.Outcome Bool}
      (h : (Turn.mk s.world i).answer response = .ok outcome) (id : PlayerId)
      (hid : (s.world.player? id).isSome) : (outcome.2.world.player? id).isSome :=
    (congrFun (congrArg World.Backdrop.loaded (Turn.backdrop_answer h).1) id).trans hid
  cases respond_cases h with
  | ignored => exact hs
  | answered hfound houtcome =>
    exact hs.set (hloaded houtcome) hfound (Turn.backdrop_answer houtcome).2
  | failed hfound houtcome =>
    exact hs.set (hloaded houtcome) hfound (Turn.backdrop_answer houtcome).2

/-! ## Signals and removal -/

/-- Changing one player keeps all players loaded. -/
theorem isSome_player?_modify {w : World} {player : PlayerId} {f : Player → Player}
    (id : PlayerId) (h : (w.player? id).isSome) :
    ((w.players.modify player f).get? id).isSome := by
  rw [Table.get?_modify]
  split
  · rwa [Option.isSome_map]
  · exact h

/-- A signal keeps a scheduler well-formed. -/
theorem IsWellFormed.signal {s : Scheduler} (hs : s.IsWellFormed) (player : PlayerId)
    (signal : Signal) : (s.signal player signal).2.IsWellFormed := by
  have hreceive (i : Instance) : Instance.origin (i.receive signal).2 = i.origin := by
    unfold Instance.receive
    split
    · exact i.origin_modifyTop Frame.release
    · rfl
  refine hs.of_sublist (fun id hid => ?_) fun owner => ?_
  · have hmodify : ((s.world.players.modify player (clearActivity player signal)).get? id).isSome :=
      isSome_player?_modify id hid
    unfold Scheduler.signal observe World.player?
    dsimp only
    split <;> exact hmodify
  · have horigins : ((s.signal player signal).2.instancesOf owner).map Instance.origin =
        (s.instancesOf owner).map Instance.origin := by
      rw [instancesOf_signal, List.map_map]
      refine List.map_congr_left fun i _ => ?_
      rw [Function.comp_apply]
      split
      · exact hreceive i
      · rfl
    rw [horigins]

/-- Ending the executions of a player who leaves keeps a scheduler well-formed. -/
theorem IsWellFormed.disconnect {s : Scheduler} (hs : s.IsWellFormed) (player : PlayerId) :
    (s.disconnect player).2.IsWellFormed := by
  refine hs.of_sublist (fun id hid => isSome_player?_modify id hid) fun owner => ?_
  rw [instancesOf_disconnect]
  split
  · exact List.nil_sublist _
  · exact List.Sublist.refl _

/-- Ending the executions on a map keeps a scheduler well-formed. -/
theorem IsWellFormed.unloadMap {s : Scheduler} (hs : s.IsWellFormed) (map : MapId) :
    (s.unloadMap map).2.IsWellFormed := by
  refine hs.of_sublist (fun _ => id) fun owner => ?_
  rw [instancesOf_unloadMap]
  exact List.filter_sublist.map _

/-- Letting a player go keeps a scheduler well-formed. -/
theorem IsWellFormed.releasePlayer {s : Scheduler} (hs : s.IsWellFormed) (player : PlayerId) :
    (s.releasePlayer player).2.IsWellFormed := by
  refine hs.of_sublist (fun id hid => ?_) fun owner => ?_
  · -- telling clients leaves the players as they are
    show ((List.foldl (fun (w : World) (i : Instance) =>
      w.send (.player player) (.releasePlayer i.event)) s.world _).player? id).isSome
    exact List.foldlRecOn (motive := fun w : World => (w.player? id).isSome) _ _ hid
      fun _ hw _ _ => hw
  · have horigins : ((s.instancesOf owner).map fun i =>
        if player = owner then { i with holding := false } else i).map Instance.origin =
          (s.instancesOf owner).map Instance.origin := by
      rw [List.map_map]
      refine List.map_congr_left fun i _ => ?_
      rw [Function.comp_apply]
      split <;> rfl
    rw [instancesOf_releasePlayer, ← horigins]
    exact List.filter_sublist.map _

/-- Whatever the host does keeps a scheduler well-formed. -/
theorem Act.isWellFormed {s s' : Scheduler} (h : s.Act s') (hs : s.IsWellFormed) :
    s'.IsWellFormed := by
  cases h with
  | @startEvent player event page r result =>
    unfold Scheduler.startEvent at result
    split at result
    · next p hp =>
      cases result
      have hgrows : s.Grows _ (s.launch player event page fun i => { i with map := p.map }).2 :=
        Grows.launch (Option.isSome_iff_exists.mpr ⟨p, hp⟩) event page fun _ => ⟨rfl, rfl⟩
      exact hgrows.wellFormed hs
    · cases result
  | startCommonEvent result =>
    rcases startCommonEvent_cases result with rfl | ⟨hloaded, page, -, rfl⟩
    · exact hs
    · exact (Grows.launch hloaded _ page fun _ => ⟨rfl, rfl⟩).wellFormed hs
  | triggerCommonEvents result =>
    obtain ⟨hloaded, pages, -, rfl⟩ := triggerCommonEvents_cases result
    exact (Grows.launchAll pages hloaded).wellFormed hs
  | startGlobal event map page switches =>
    refine (Grows.launchClones event map page switches fun id hid => ?_).wellFormed hs
    obtain ⟨p, hp, -⟩ := (Option.any_eq_true _ _).mp (List.mem_filter.mp hid).2
    exact Option.isSome_iff_exists.mpr ⟨p, hp⟩
  | tick result => exact hs.tick result
  | respond result => exact hs.respond result
  | signal player signal => exact hs.signal player signal
  | releasePlayer player => exact hs.releasePlayer player
  | unloadMap map => exact hs.unloadMap map
  | disconnect player => exact hs.disconnect player
  | world loaded => exact hs.of_origins loaded rfl

/-! ## Runs -/

/-- However the host goes on with a scheduler that started without executions: every execution is
kept under its own loaded player, once for each event, no response fails, and every pass accounts
for the executions it starts and removes and leaves no work behind. -/
theorem isWellFormed_of_acts {w : World} {s : Scheduler}
    (h : Relation.ReflTransGen Act (.start w) s) :
    s.IsWellFormed ∧
      (∀ player id response r, s.respond player id response = .ok r →
        ∃ accepted, r.1 = .ok accepted) ∧
      ∀ report s', s.tick = .ok (report, s') → s.Accounts report s' := by
  have hs : s.IsWellFormed := by
    induction h with
    | refl => exact .start w
    | tail _ hact ih => exact hact.isWellFormed ih
  refine ⟨hs, fun player id response r hrespond => ?_, fun report s' htick => ?_⟩
  · exact hs.respond_ok hrespond
  · exact accounts_of_tick htick

/-- An event that finishes in its first pass and asks for itself: the pass starts nothing, removes
what it ran and drops what was asked for. -/
theorem isWellFormed_of_acts_risen :
    ∃ w report s', Relation.ReflTransGen Act (.start w) risen ∧
      risen.tick = .ok (report, s') ∧ report = ⟨1, 1, 0, 0⟩ ∧
        risen.IsWellFormed ∧ risen.Accounts report s' := by
  have hstart : (Scheduler.start { risen.world with supply := .seeded 0 }).startCommonEvent ⟨3⟩
      risingEvent.id = .ok (.ok (some _, risen)) := rfl
  have hacts : Relation.ReflTransGen Act _ risen := .single (.startCommonEvent hstart)
  obtain ⟨hrisen, -, hticks⟩ := isWellFormed_of_acts hacts
  exact ⟨_, _, _, hacts, rfl, rfl, hrisen, hticks _ _ rfl⟩

end Scheduler

end EventScript
