import Mathlib.Data.List.Nodup
import EventScript.Proofs.Scene.Backdrop
import EventScript.Proofs.Scheduler.Requests

/-!
# The executions of a scheduler

What an execution was started with never changes, so a scheduler is well told by its executions as
they were started: the turns of a pass, responses and signals leave these as they are, requests and
starts add to them, and all else only removes some. Two things follow: every execution is kept under
its own loaded player, once for each event, and the executions can be counted.
-/

namespace EventScript

namespace Scheduler

/-- The executions as they were started. -/
def origins (s : Scheduler) : Table PlayerId (List Instance) :=
  s.instances.map fun _ is => is.map Instance.origin

/-- Every execution is kept under its own player, who is loaded, and no player has two executions of
one event. -/
structure IsWellFormed (s : Scheduler) : Prop where
  owned : ∀ player, ∀ i ∈ s.instancesOf player,
    i.player = player ∧ (s.world.player? player).isSome
  once : ∀ player, ((s.instancesOf player).map Instance.event).Nodup

/-! ## Executions of a player -/

/-- The executions of a player after a change of all lists. -/
theorem instancesOf_map (s : Scheduler) (w : World)
    {f : PlayerId → List Instance → List Instance} {player : PlayerId} (hf : f player [] = []) :
    (Scheduler.mk w (s.instances.map f)).instancesOf player = f player (s.instancesOf player) := by
  unfold instancesOf
  dsimp only
  rw [Table.get?_map]
  cases s.instances.get? player with
  | none => exact hf.symm
  | some is => rfl

/-- The executions of a player after another list was put in place of one. -/
theorem instancesOf_insert (s : Scheduler) (w : World) (owner : PlayerId) (is : List Instance)
    (player : PlayerId) :
    (Scheduler.mk w (s.instances.insert owner is)).instancesOf player =
      if owner = player then is else s.instancesOf player := by
  unfold instancesOf
  dsimp only
  split
  · next h => rw [h, Table.get?_insert_self, Option.getD_some]
  · next h => rw [Table.get?_insert_of_ne _ _ h]

/-- Players without executions have none. -/
theorem instancesOf_withoutIdle (s : Scheduler) (player : PlayerId) :
    s.withoutIdle.instancesOf player = s.instancesOf player := by
  unfold withoutIdle instancesOf
  dsimp only
  rw [Table.get?_filter]
  cases s.instances.get? player with
  | none => rfl
  | some is => cases is <;> rfl

/-- Removing the executions that are complete. -/
theorem instancesOf_reap (s : Scheduler) (player : PlayerId) :
    s.reap.2.instancesOf player = (s.instancesOf player).filter fun i => !i.isComplete := by
  unfold reap
  dsimp only
  rw [instancesOf_withoutIdle]
  exact s.instancesOf_map s.world rfl

section

variable (s : Scheduler) (owner : PlayerId)

/-- Clones see the changes of self switches. -/
theorem instancesOf_applySwitches :
    s.applySwitches.instancesOf owner = (s.instancesOf owner).map fun i =>
      s.world.switchUpdates.foldl (fun i u => applySwitch u i) i :=
  s.instancesOf_map _ rfl

/-- A clone that sees changes of self switches changes in nothing else. -/
theorem exists_foldl_applySwitch (us : List SwitchUpdate) (i : Instance) :
    ∃ switches, us.foldl (fun i u => applySwitch u i) i = { i with selfSwitches := switches } := by
  refine List.foldlRecOn (motive := fun j : Instance =>
    ∃ switches, j = { i with selfSwitches := switches }) _ _ ⟨_, rfl⟩ ?_
  rintro _ ⟨switches, rfl⟩ u -
  unfold applySwitch
  split <;> exact ⟨_, rfl⟩

/-- Executions that a signal concerns receive it. -/
theorem instancesOf_signal (player : PlayerId) (signal : Signal) :
    (s.signal player signal).2.instancesOf owner = (s.instancesOf owner).map fun i =>
      if concernsAll signal || owner == player then (i.receive signal).2 else i := by
  unfold Scheduler.signal
  dsimp only
  rw [instancesOf_map _ _ (by split <;> rfl)]
  split
  · rfl
  · rw [List.map_id']

/-- The end of a map ends the executions on it. -/
theorem instancesOf_unloadMap (map : MapId) :
    (s.unloadMap map).2.instancesOf owner =
      (s.instancesOf owner).filter fun i => i.map != map := by
  unfold Scheduler.unloadMap
  dsimp only
  rw [instancesOf_withoutIdle, instancesOf_map _ _ rfl]

/-- A player who leaves has no executions. -/
theorem instancesOf_disconnect (player : PlayerId) :
    (s.disconnect player).2.instancesOf owner =
      if player = owner then [] else s.instancesOf owner := by
  unfold Scheduler.disconnect instancesOf
  dsimp only
  rw [Table.get?_erase]
  split
  · next howner => rw [if_pos (Table.rank_inj.mp howner), Option.getD_none]
  · next howner => rw [if_neg (howner ∘ Table.rank_inj.mpr)]

/-- A player who is let go is not held any more, and what is complete is removed. -/
theorem instancesOf_releasePlayer (player : PlayerId) :
    (s.releasePlayer player).2.instancesOf owner =
      ((s.instancesOf owner).map fun i =>
        if player = owner then { i with holding := false } else i).filter
          fun i => !i.isComplete := by
  unfold Scheduler.releasePlayer
  dsimp only
  rw [instancesOf_reap]
  unfold instancesOf
  dsimp only
  rw [Table.get?_modify]
  split
  · next howner =>
    simp only [Table.rank_inj.mp howner, if_true]
    cases s.instances.get? owner <;> rfl
  · next howner =>
    have hne : player ≠ owner := howner ∘ Table.rank_inj.mpr
    simp only [hne, if_false, List.map_id']

end

/-- The executions of a player as they were started. -/
theorem get?_origins (s : Scheduler) (player : PlayerId) :
    (s.origins.get? player).getD [] = (s.instancesOf player).map Instance.origin := by
  unfold origins instancesOf
  rw [Table.get?_map]
  cases s.instances.get? player <;> rfl

/-- Executions stay what they were started as when one gives way to one that was started as the
same. -/
theorem map_origin_set {is : List Instance} {index : Nat} {i run : Instance}
    (hfound : is[index]? = some i) (horigin : run.origin = i.origin) :
    (is.set index run).map Instance.origin = is.map Instance.origin := by
  obtain ⟨hindex, rfl⟩ := List.getElem?_eq_some_iff.mp hfound
  have hlength : index < (is.map Instance.origin).length := by
    rwa [List.length_map]
  have hself : is[index].origin = (is.map Instance.origin)[index] := by
    rw [List.getElem_map]
  rw [List.map_set, horigin, hself, List.set_getElem_self hlength]

namespace IsWellFormed

variable {s s' : Scheduler}

/-- An empty scheduler. -/
theorem start (w : World) : (Scheduler.start w).IsWellFormed where
  owned _ _ hi := absurd hi List.not_mem_nil
  once _ := List.nodup_nil

/-- Removing executions, while the players stay loaded. -/
theorem of_sublist (h : s.IsWellFormed)
    (hloaded : ∀ id, (s.world.player? id).isSome → (s'.world.player? id).isSome)
    (hsublist : ∀ player, ((s'.instancesOf player).map Instance.origin).Sublist
      ((s.instancesOf player).map Instance.origin)) : s'.IsWellFormed where
  owned player i hi := by
    have horigin : i.origin ∈ (s.instancesOf player).map Instance.origin :=
      (hsublist player).subset (List.mem_map.mpr ⟨i, hi, rfl⟩)
    obtain ⟨j, hj, heq⟩ := List.mem_map.mp horigin
    obtain ⟨hplayer, hplayer'⟩ := h.owned player j hj
    have hsame : j.origin.player = i.origin.player := by rw [heq]
    exact ⟨hsame.symm.trans hplayer, hloaded player hplayer'⟩
  once player := by
    have hevents (is : List Instance) :
        is.map Instance.event = (is.map Instance.origin).map Instance.event := by
      rw [List.map_map]
      rfl
    have hs := h.once player
    rw [hevents] at hs ⊢
    exact hs.sublist ((hsublist player).map Instance.event)

/-- Letting the executions go on as what they were started as. -/
theorem of_origins (h : s.IsWellFormed)
    (hloaded : ∀ id, (s.world.player? id).isSome → (s'.world.player? id).isSome)
    (horigins : s'.origins = s.origins) : s'.IsWellFormed := by
  refine h.of_sublist hloaded fun player => ?_
  rw [← get?_origins, ← get?_origins, horigins]

end IsWellFormed

/-! ## Counting -/

/-- The number of executions is the sum of those of all players. -/
theorem instanceCount_eq_sum (s : Scheduler) :
    s.instanceCount = (s.instances.values.map List.length).sum :=
  List.sum_eq_foldl.symm

/-- Putting another list in place of one. -/
theorem instanceCount_insert (s : Scheduler) (w : World) (player : PlayerId)
    (is : List Instance) :
    (Scheduler.mk w (s.instances.insert player is)).instanceCount + (s.instancesOf player).length =
      s.instanceCount + is.length := by
  have hlength : (s.instancesOf player).length =
      ((s.instances.get? player).map List.length).getD 0 := by
    unfold instancesOf
    cases s.instances.get? player <;> rfl
  rw [instanceCount_eq_sum, instanceCount_eq_sum, hlength]
  exact Table.sum_values_insert s.instances player is List.length

/-- As many executions were started as there are. -/
theorem instanceCount_of_origins {s s' : Scheduler} (h : s'.origins = s.origins) :
    s'.instanceCount = s.instanceCount := by
  have hcount (s : Scheduler) :
      s.instanceCount = (s.origins.values.map List.length).sum := by
    rw [instanceCount_eq_sum]
    unfold origins Table.map Table.values
    simp only [List.map_map, Function.comp_def, List.length_map]
  rw [hcount, hcount, h]

/-- Players without executions do not count. -/
theorem instanceCount_withoutIdle (s : Scheduler) :
    s.withoutIdle.instanceCount = s.instanceCount := by
  rw [instanceCount_eq_sum, instanceCount_eq_sum]
  unfold withoutIdle Table.filter Table.values
  dsimp only
  induction s.instances.entries with
  | nil => rfl
  | cons e rest ih =>
    rw [List.filter_cons]
    cases hlist : e.2 with
    | nil => simpa [hlist] using ih
    | cons i is => simpa [hlist] using ih

/-- Removing the executions that are complete counts them. -/
theorem instanceCount_reap (s : Scheduler) :
    s.reap.2.instanceCount + s.reap.1 = s.instanceCount := by
  have hle : Scheduler.instanceCount
      { s with instances := s.instances.map fun _ is => is.filter fun i => !i.isComplete } ≤
        s.instanceCount := by
    rw [instanceCount_eq_sum, instanceCount_eq_sum]
    unfold Table.map Table.values
    dsimp only
    induction s.instances.entries with
    | nil => exact Nat.le_refl _
    | cons e rest ih =>
      have hfilter := List.length_filter_le (fun i : Instance => !i.isComplete) e.2
      simp only [List.map_cons, List.sum_cons] at ih ⊢
      omega
  unfold reap
  dsimp only
  rw [instanceCount_withoutIdle]
  omega

/-! ## Starting -/

/-- Executions were started, and nothing else was done. -/
structure Grows (s : Scheduler) (started : Nat) (s' : Scheduler) : Prop where
  world : s'.world = { s.world with supply := s'.world.supply }
  supply : s'.world.supply = { s.world.supply with idsUsed := s.world.supply.idsUsed + started }
  count : s'.instanceCount = s.instanceCount + started
  wellFormed : s.IsWellFormed → s'.IsWellFormed

namespace Grows

/-- Nothing was started. -/
theorem refl (s : Scheduler) : s.Grows 0 s := ⟨rfl, rfl, rfl, id⟩

/-- Starting goes on. -/
theorem trans {s₁ s₂ s₃ : Scheduler} {m n : Nat} (h : s₁.Grows m s₂) (h' : s₂.Grows n s₃) :
    s₁.Grows (m + n) s₃ where
  world := by
    rw [h'.world, h.world]
  supply := by
    rw [h'.supply, h.supply, Nat.add_assoc]
  count := by
    rw [h'.count, h.count, Nat.add_assoc]
  wellFormed hs := h'.wellFormed (h.wellFormed hs)

/-- The players stay loaded. -/
theorem player? {s s' : Scheduler} {n : Nat} (h : s.Grows n s') (id : PlayerId) :
    s'.world.player? id = s.world.player? id := by
  rw [h.world]
  rfl

/-- Starting an event for a loaded player. -/
theorem launch {s : Scheduler} {player : PlayerId} (hplayer : (s.world.player? player).isSome)
    (event : EventId) (page : Page) {change : Instance → Instance}
    (hchange : ∀ i, (change i).player = i.player ∧ (change i).event = i.event) :
    s.Grows (s.launch player event page change).1.toList.length
      (s.launch player event page change).2 := by
  unfold Scheduler.launch
  split
  · exact .refl s
  · next hkept =>
    let fresh : InstanceId × Supply := s.world.supply.freshId
    have hnew := hchange (.start fresh.1 event player page)
    refine ⟨rfl, rfl, ?_, fun hs => ⟨fun owner i hi => ?_, fun owner => ?_⟩⟩
    · have hcount := s.instanceCount_insert { s.world with supply := fresh.2 } player
        (s.instancesOf player ++ [change (.start fresh.1 event player page)])
      rw [List.length_append, List.length_singleton, Nat.add_left_comm, Nat.add_comm] at hcount
      exact Nat.add_left_cancel hcount
    · rw [instancesOf_insert] at hi
      split at hi
      · next howner =>
        subst howner
        rcases List.mem_append.mp hi with hi | hi
        · exact hs.owned player i hi
        · rw [List.mem_singleton.mp hi]
          exact ⟨hnew.1, hplayer⟩
      · exact hs.owned owner i hi
    · rw [instancesOf_insert]
      split
      · next howner =>
        subst howner
        rw [List.map_append, List.map_singleton, hnew.2]
        refine List.nodup_append.mpr ⟨hs.once player, List.nodup_singleton _, ?_⟩
        intro a ha b hb hab
        obtain ⟨i, hi, rfl⟩ := List.mem_map.mp ha
        rw [List.mem_singleton.mp hb] at hab
        exact hkept (isRunning_iff.mpr ⟨i, hi, hab⟩)
      · exact hs.once owner

/-- Starting events one after the other. -/
theorem launchAll {player : PlayerId} (pages : List (EventId × Page)) {s : Scheduler}
    (hplayer : (s.world.player? player).isSome) :
    s.Grows (launchAll player pages s).1.length (launchAll player pages s).2 := by
  induction pages generalizing s with
  | nil => exact .refl s
  | cons entry rest ih =>
    have hfirst : s.Grows _ _ := launch hplayer entry.1 entry.2 fun _ => ⟨rfl, rfl⟩
    have hrest := hfirst.trans (ih (hfirst.player? player ▸ hplayer))
    rwa [← List.length_append] at hrest

/-- Starting an event for loaded players, as its clones. -/
theorem launchClones (event : EventId) (map : MapId) (page : Page) (switches : Vector Bool 4)
    {players : List PlayerId} {s : Scheduler}
    (hplayers : ∀ player ∈ players, (s.world.player? player).isSome) :
    s.Grows (launchClones event map page switches players s).1.length
      (launchClones event map page switches players s).2 := by
  induction players generalizing s with
  | nil => exact .refl s
  | cons player rest ih =>
    let clone (i : Instance) : Instance :=
      { i with map := map, isGlobal := true, selfSwitches := switches }
    have hfirst : s.Grows _ (s.launch player event page clone).2 :=
      launch (hplayers player List.mem_cons_self) event page fun _ => ⟨rfl, rfl⟩
    have hrest := hfirst.trans (ih fun id hid =>
      hfirst.player? id ▸ hplayers id (List.mem_cons_of_mem player hid))
    rwa [← List.length_append] at hrest

/-- Serving a request. -/
theorem serve {s : Scheduler} {r : EventRequest} {result : Nat × Scheduler}
    (h : s.serve r = .ok result) : s.Grows result.1 result.2 := by
  cases serve_cases h with
  | nothing => exact .refl s
  | launched hloaded => exact launch hloaded _ _ fun _ => ⟨rfl, rfl⟩
  | triggered hloaded => exact launchAll _ hloaded

/-- Serving requests in order. -/
theorem serveAll {rs : List EventRequest} {s : Scheduler} {result : Nat × Scheduler}
    (h : serveAll rs s = .ok result) : s.Grows result.1 result.2 := by
  induction rs generalizing s result with
  | nil =>
    cases h
    exact .refl s
  | cons r rest ih =>
    obtain ⟨first, hfirst, h⟩ := Guarded.bind_eq_ok.mp h
    obtain ⟨later, hlater, h⟩ := Guarded.bind_eq_ok.mp h
    cases h
    exact (serve hfirst).trans (ih hlater)

end Grows

end Scheduler

/-! ## Turns -/

/-- Several steps leave the backdrop of the world and what the execution was started with as they
are. -/
theorem Turn.backdrop_steps {count : Nat} {t : Turn} {r : Outcome StepOutcome}
    (h : steps count t = .ok r) :
    r.2.world.backdrop = t.world.backdrop ∧ r.2.run.origin = t.run.origin := by
  induction count generalizing t with
  | zero =>
    cases h
    exact ⟨rfl, rfl⟩
  | succ count ih =>
    obtain ⟨⟨outcome, t'⟩, hstep, h⟩ := Guarded.bind_eq_ok.mp h
    obtain ⟨hworld, horigin⟩ := backdrop_step hstep
    dsimp only at h
    split at h
    · obtain ⟨hworld', horigin'⟩ := ih h
      exact ⟨hworld'.trans hworld, horigin'.trans horigin⟩
    · cases h
      exact ⟨hworld, horigin⟩

namespace Scheduler

/-- Ending an execution that failed. -/
theorem backdrop_abandon (t : Turn) (owner : PlayerId) :
    (abandon t owner).world.backdrop = t.world.backdrop ∧
      (abandon t owner).run.origin = t.run.origin := by
  unfold abandon
  dsimp only
  split <;> exact ⟨rfl, rfl⟩

/-- The turn of one execution. -/
theorem backdrop_takeTurn {budget : UInt64} {owner : PlayerId} {pass : Pass} {i : Instance}
    {r : Instance × Pass} (h : takeTurn budget owner pass i = .ok r) :
    r.2.world.backdrop = pass.world.backdrop ∧ r.1.origin = i.origin := by
  obtain ⟨⟨outcome, t⟩, htick, h⟩ := Guarded.bind_eq_ok.mp h
  obtain ⟨hworld, horigin⟩ := Turn.backdrop_steps htick
  dsimp only at h
  split at h
  · cases h
    exact ⟨hworld, horigin⟩
  · cases h
    exact ⟨hworld, horigin⟩
  · cases h
    obtain ⟨hworld', horigin'⟩ := backdrop_abandon t owner
    exact ⟨hworld'.trans hworld, horigin'.trans horigin⟩

/-- The first execution of a player has its turn, if it has frames, and then the others have
theirs. -/
theorem takeTurns_cons {budget : UInt64} {owner : PlayerId} {i : Instance} {rest : List Instance}
    {pass : Pass} {r : List Instance × Pass}
    (h : takeTurns budget owner (i :: rest) pass = .ok r) :
    ∃ first later, (takeTurn budget owner pass i = .ok first ∨ first = (i, pass)) ∧
      takeTurns budget owner rest first.2 = .ok later ∧ r = (first.1 :: later.1, later.2) := by
  unfold takeTurns at h
  split at h
  · obtain ⟨first, hfirst, h⟩ := Guarded.bind_eq_ok.mp h
    obtain ⟨later, hlater, h⟩ := Guarded.bind_eq_ok.mp h
    cases h
    exact ⟨first, later, .inl hfirst, hlater, rfl⟩
  · obtain ⟨first, hfirst, h⟩ := Guarded.bind_eq_ok.mp h
    obtain ⟨later, hlater, h⟩ := Guarded.bind_eq_ok.mp h
    cases hfirst
    cases h
    exact ⟨_, later, .inr rfl, hlater, rfl⟩

/-- The turns of a player's executions. -/
theorem backdrop_takeTurns {budget : UInt64} {owner : PlayerId} {is : List Instance} {pass : Pass}
    {r : List Instance × Pass} (h : takeTurns budget owner is pass = .ok r) :
    r.2.world.backdrop = pass.world.backdrop ∧
      r.1.map Instance.origin = is.map Instance.origin := by
  induction is generalizing pass r with
  | nil =>
    cases h
    exact ⟨rfl, rfl⟩
  | cons i rest ih =>
    obtain ⟨first, later, hfirst, hlater, rfl⟩ := takeTurns_cons h
    have hturn : first.2.world.backdrop = pass.world.backdrop ∧ first.1.origin = i.origin := by
      rcases hfirst with hfirst | rfl
      · exact backdrop_takeTurn hfirst
      · exact ⟨rfl, rfl⟩
    obtain ⟨hworld, horigins⟩ := ih hlater
    exact ⟨hworld.trans hturn.1, by rw [List.map_cons, List.map_cons, hturn.2, horigins]⟩

/-- The turns of all executions. -/
theorem backdrop_takeAllTurns {budget : UInt64} {es : List (PlayerId × List Instance)}
    {instances : Table PlayerId (List Instance)} {pass : Pass}
    {r : Table PlayerId (List Instance) × Pass} (hkeys : (es.map Prod.fst).Nodup)
    (hes : ∀ e ∈ es, instances.get? e.1 = some e.2)
    (h : takeAllTurns budget es instances pass = .ok r) :
    r.2.world.backdrop = pass.world.backdrop ∧
      (r.1.map fun _ is => is.map Instance.origin) =
        instances.map fun _ is => is.map Instance.origin := by
  induction es generalizing instances pass with
  | nil =>
    cases h
    exact ⟨rfl, rfl⟩
  | cons e rest ih =>
    obtain ⟨owner, is⟩ := e
    obtain ⟨turns, hturns, h⟩ := Guarded.bind_eq_ok.mp h
    obtain ⟨hworld, horigins⟩ := backdrop_takeTurns hturns
    obtain ⟨howner, hkeys⟩ := List.nodup_cons.mp hkeys
    have hlist : instances.get? owner = some is := hes (owner, is) List.mem_cons_self
    -- no later entry is of the same player, so the later turns find their executions as they were
    have hrest : ∀ e ∈ rest, (instances.insert owner turns.1).get? e.1 = some e.2 := by
      intro e he
      have hne : owner ≠ e.1 := fun heq => howner (heq ▸ List.mem_map.mpr ⟨e, he, rfl⟩)
      rw [Table.get?_insert_of_ne _ _ hne]
      exact hes e (List.mem_cons_of_mem _ he)
    have hinsert : ((instances.insert owner turns.1).map fun _ is => is.map Instance.origin) =
        instances.map fun _ is => is.map Instance.origin := by
      apply Table.ext_get?
      intro player
      rw [Table.get?_map, Table.get?_map]
      exact Table.map_get?_insert_of_eq (List.map Instance.origin) hlist horigins player
    obtain ⟨hworld', horigins'⟩ := ih hkeys hrest h
    exact ⟨hworld'.trans hworld, horigins'.trans hinsert⟩

/-! ## Passes -/

/-- What happens in a pass: requests are served, all executions take their turns and see the changes
of self switches, requests are served again, and what is complete is removed. -/
inductive TickCase (s : Scheduler) : TickReport × Scheduler → Prop
  | intro {startedBefore startedAfter : Nat} {s₁ s₂ : Scheduler}
      {instances : Table PlayerId (List Instance)} {pass : Pass}
      (before : s.serveRequests = .ok (startedBefore, s₁))
      (turns : takeAllTurns s₁.world.config.scheduler.commandsPerTick s₁.instances.entries
        s₁.instances ⟨s₁.world, 0, 0⟩ = .ok (instances, pass))
      (after : (Scheduler.mk pass.world instances).applySwitches.serveRequests =
        .ok (startedAfter, s₂)) :
      TickCase s (⟨pass.advanced, s₂.reap.1, pass.failed, startedBefore + startedAfter⟩, s₂.reap.2)

/-- A pass goes through its parts in order. -/
theorem tick_cases {s : Scheduler} {r : TickReport × Scheduler} (h : s.tick = .ok r) :
    s.TickCase r := by
  obtain ⟨⟨startedBefore, s₁⟩, hbefore, h⟩ := Guarded.bind_eq_ok.mp h
  obtain ⟨⟨instances, pass⟩, hturns, h⟩ := Guarded.bind_eq_ok.mp h
  obtain ⟨⟨startedAfter, s₂⟩, hafter, h⟩ := Guarded.bind_eq_ok.mp h
  cases h
  exact .intro hbefore hturns hafter

end Scheduler

end EventScript
