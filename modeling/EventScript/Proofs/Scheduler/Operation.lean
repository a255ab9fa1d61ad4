import EventScript.Proofs.Scheduler.Accounting
import EventScript.Proofs.Scheduler.Course

/-!
# What a host does

A host drives a scheduler by operations: it starts events, runs passes, passes on responses and
signals, and removes executions. Whatever it does, the scheduler stays regular: every execution is
with its own loaded player, once for each event, and everyone is kept under its own identifier.
-/

namespace EventScript

/-- Something that the host does. -/
inductive Operation where
  | startEvent (player : PlayerId) (event : EventId) (page : Page)
  | startCommonEvent (player : PlayerId) (event : EventId)
  | triggerCommonEvents (player : PlayerId) (trigger : Trigger)
  | startGlobal (event : EventId) (map : MapId) (page : Page) (switches : Vector Bool 4)
  | tick
  | respond (player : PlayerId) (id : InstanceId) (response : Response)
  | signal (player : PlayerId) (signal : Signal)
  | releasePlayer (player : PlayerId)
  | unloadMap (map : MapId)
  | disconnect (player : PlayerId)

/-- The player for whom the host starts events, if it does that for one player. -/
def Operation.startsFor? : Operation → Option PlayerId
  | startEvent player .. => some player
  | startCommonEvent player _ => some player
  | triggerCommonEvents player _ => some player
  | _ => none

/-- The page on which the host starts events, if it names one. -/
def Operation.page? : Operation → Option Page
  | startEvent _ _ page => some page
  | startGlobal _ _ page _ => some page
  | _ => none

/-- The executions that an operation can start: they are new, for the player whom the host names or
for a connected one, and on the page that it names or on one of a common event. -/
structure Operation.Starts (op : Operation) (w : World) (player : PlayerId) (i : Instance) :
    Prop where
  startsFor : op.startsFor? = some player ∨ w.isOnline player = true
  isNew : i.IsNew
  page : ∃ page, i.stack = [Frame.root page] ∧ (op.page? = some page ∨ w.HasEventPage page)

namespace Scheduler

/-- What an operation makes of a scheduler. One that is refused changes nothing. -/
def perform (s : Scheduler) : Operation → Guarded Scheduler
  | .startEvent player event page =>
    return match s.startEvent player event page with
      | .ok (_, s') => s'
      | .error _ => s
  | .startCommonEvent player event => do
    return match ← s.startCommonEvent player event with
      | .ok (_, s') => s'
      | .error _ => s
  | .triggerCommonEvents player trigger => do
    return match ← s.triggerCommonEvents player trigger with
      | .ok (_, s') => s'
      | .error _ => s
  | .startGlobal event map page switches => return (s.startGlobal event map page switches).2
  | .tick => do return (← s.tick).2
  | .respond player id response => do return (← s.respond player id response).2
  | .signal player signal => return (s.signal player signal).2
  | .releasePlayer player => return (s.releasePlayer player).2
  | .unloadMap map => return (s.unloadMap map).2
  | .disconnect player => return (s.disconnect player).2

/-- One operation among those that are allowed leads from one scheduler to another. -/
def Moves (allowed : Scheduler → Operation → Prop) (s s' : Scheduler) : Prop :=
  ∃ op, allowed s op ∧ s.perform op = .ok s'

/-! ## Regular schedulers -/

/-- An execution gives way to one that was started as the same, in a world with the same players. -/
theorem IsWellFormed.replace {s : Scheduler} (hs : s.IsWellFormed) {owner : PlayerId} {index : Nat}
    {i : Instance} {t : Turn} (found : (s.instancesOf owner)[index]? = some i)
    (hworld : t.world.backdrop = s.world.backdrop) (horigin : t.run.origin = i.origin) :
    (s.replace owner index t).IsWellFormed :=
  hs.set (fun id hid => (congrFun (congrArg World.Backdrop.loaded hworld) id).trans hid) found
    horigin

/-- A well-formed scheduler whose players and events on maps are kept under their own
identifiers. -/
structure IsRegular (s : Scheduler) : Prop extends s.IsWellFormed where
  indexed : s.world.IsIndexed

namespace IsRegular

variable {s s' : Scheduler}

/-- A scheduler without executions. -/
theorem start {w : World} (hw : w.IsIndexed) : (Scheduler.start w).IsRegular where
  toIsWellFormed := .start w
  indexed := hw

/-- The player of an execution is the one it is kept under. -/
theorem player_eq (hs : s.IsRegular) {owner : PlayerId} {index : Nat} {i : Instance}
    (found : (s.instancesOf owner)[index]? = some i) : i.player = owner :=
  (hs.owned owner i (List.mem_of_getElem? found)).1

/-- An execution gives way to one that was started as the same, in a world with the same players who
are still kept under their identifiers. -/
theorem replace (hs : s.IsRegular) {owner : PlayerId} {index : Nat} {i : Instance} {t : Turn}
    (found : (s.instancesOf owner)[index]? = some i) (hworld : t.world.backdrop = s.world.backdrop)
    (horigin : t.run.origin = i.origin) (hindexed : t.world.IsIndexed) :
    (s.replace owner index t).IsRegular where
  toIsWellFormed := hs.toIsWellFormed.replace found hworld horigin
  indexed := hindexed

/-- A step. -/
theorem step (hs : s.IsRegular) {owner : PlayerId} {index : Nat} {i : Instance}
    {r : Turn.Outcome StepOutcome} (found : (s.instancesOf owner)[index]? = some i)
    (result : (Turn.mk s.world i).step = .ok r) : (s.replace owner index r.2).IsRegular :=
  have ⟨hworld, horigin⟩ := Turn.backdrop_step result
  hs.replace found hworld horigin (World.IsIndexed.step hs.indexed result)

/-- The end of an execution that failed. -/
theorem abandon (hs : s.IsRegular) {owner : PlayerId} {index : Nat} {i : Instance}
    (found : (s.instancesOf owner)[index]? = some i) :
    (s.replace owner index (Scheduler.abandon ⟨s.world, i⟩ owner)).IsRegular := by
  obtain ⟨hworld, horigin⟩ := backdrop_abandon ⟨s.world, i⟩ owner
  refine hs.replace found hworld horigin ?_
  unfold Scheduler.abandon
  dsimp only
  split
  · exact ⟨hs.indexed.players, hs.indexed.mapEvents⟩
  · exact hs.indexed

/-- Executions were started. -/
theorem opens (hs : s.IsRegular) {new : PlayerId → Instance → Prop} (h : s.Opens new s') :
    s'.IsRegular where
  toIsWellFormed :=
    have ⟨_, hgrows⟩ := h.grows
    hgrows.wellFormed hs.toIsWellFormed
  indexed := by
    rw [h.world]
    exact ⟨hs.indexed.players, hs.indexed.mapEvents⟩

/-- Nothing is asked for any more. -/
theorem withoutRequests (hs : s.IsRegular) : s.withoutRequests.IsRegular where
  toIsWellFormed := hs.toIsWellFormed.of_origins (fun _ => id) rfl
  indexed := ⟨hs.indexed.players, hs.indexed.mapEvents⟩

/-- Clones see the changes of self switches. -/
theorem applySwitches (hs : s.IsRegular) : s.applySwitches.IsRegular where
  toIsWellFormed := hs.toIsWellFormed.of_origins (fun _ => id) (origins_applySwitches s)
  indexed := ⟨hs.indexed.players, hs.indexed.mapEvents⟩

/-- What is complete is removed. -/
theorem reap (hs : s.IsRegular) : s.reap.2.IsRegular where
  toIsWellFormed := hs.toIsWellFormed.of_sublist (fun _ => id) fun player => by
    rw [instancesOf_reap]
    exact List.filter_sublist.map _
  indexed := hs.indexed

end IsRegular

/-! ## Passes over regular schedulers -/

/-- A property of regular schedulers that holds on in every part of a pass whose deeds are
allowed. -/
structure IsKeptInPass (P : Scheduler → Prop) (allowed : Deed → Prop) : Prop where
  serve : ∀ {s s' : Scheduler}, s.IsRegular → P s →
    s.withoutRequests.Opens (IsAsked s.world.requests) s' → P s'
  step : ∀ {s : Scheduler} {owner : PlayerId} {index : Nat} {i : Instance}
    {r : Turn.Outcome StepOutcome}, s.IsRegular → P s →
    (s.instancesOf owner)[index]? = some i → (Turn.mk s.world i).step = .ok r →
    (∀ d, (Turn.mk s.world i).deed? = some d → allowed d) → P (s.replace owner index r.2)
  abandon : ∀ {s : Scheduler} {owner : PlayerId} {index : Nat} {i : Instance}, s.IsRegular →
    P s → (s.instancesOf owner)[index]? = some i →
    P (s.replace owner index (abandon ⟨s.world, i⟩ owner))
  applySwitches : ∀ {s : Scheduler}, s.IsRegular → P s → P s.applySwitches
  reap : ∀ {s : Scheduler}, s.IsRegular → P s → P s.reap.2

namespace IsKeptInPass

variable {P : Scheduler → Prop} {allowed : Deed → Prop} {s s' : Scheduler}

/-- It holds on along a course. -/
theorem course (hkept : IsKeptInPass P allowed) {deeds : List Deed} (h : s.Course deeds s')
    (hs : s.IsRegular) (hP : P s) (hdeeds : ∀ d ∈ deeds, allowed d) : s'.IsRegular ∧ P s' := by
  induction h with
  | rest => exact ⟨hs, hP⟩
  | step found result _ ih =>
    refine ih (hs.step found result) (hkept.step hs hP found result fun d hd => ?_) fun d hd => ?_
    · exact hdeeds d (List.mem_append_left _ (Option.mem_toList.mpr hd))
    · exact hdeeds d (List.mem_append_right _ hd)
  | abandon found _ ih => exact ih (hs.abandon found) (hkept.abandon hs hP found) hdeeds

/-- It holds on in the whole pass. -/
theorem pass (hkept : IsKeptInPass P allowed) (h : s.PassCase s') (hs : s.IsRegular) (hP : P s)
    (hdeeds : ∀ d ∈ s.deeds, allowed d) : s'.IsRegular ∧ P s' := by
  cases h with
  | intro hbefore hcourse hafter =>
    obtain ⟨hs₂, hP₂⟩ := hkept.course hcourse (hs.withoutRequests.opens hbefore)
      (hkept.serve hs hP hbefore) hdeeds
    have hs₂' := hs₂.applySwitches
    have hs₃ := hs₂'.withoutRequests.opens hafter
    exact ⟨hs₃.reap, hkept.reap hs₃ (hkept.serve hs₂' (hkept.applySwitches hs₂ hP₂) hafter)⟩

end IsKeptInPass

/-! ## Operations on regular schedulers -/

/-- What an operation can come to on a regular scheduler. -/
inductive PerformCase (s : Scheduler) : Operation → Scheduler → Prop
  | opened {op : Operation} {s' : Scheduler} (opens : s.Opens (op.Starts s.world) s') :
      PerformCase s op s'
  | passed {s' : Scheduler} (pass : s.PassCase s') : PerformCase s .tick s'
  | answered {player : PlayerId} {id : InstanceId} {response : Response} {index : Nat}
      {i : Instance} {r : Turn.Outcome Bool} (found : (s.instancesOf player)[index]? = some i)
      (result : (Turn.mk s.world i).answer response = .ok r) :
      PerformCase s (.respond player id response) (s.replace player index r.2)
  | signalled (player : PlayerId) (signal : Signal) :
      PerformCase s (.signal player signal) (s.signal player signal).2
  | released (player : PlayerId) : PerformCase s (.releasePlayer player) (s.releasePlayer player).2
  | unloaded (map : MapId) : PerformCase s (.unloadMap map) (s.unloadMap map).2
  | disconnected (player : PlayerId) : PerformCase s (.disconnect player) (s.disconnect player).2

/-- An operation comes to one of the cases. -/
theorem perform_cases {s s' : Scheduler} (hs : s.IsRegular) {op : Operation}
    (h : s.perform op = .ok s') : s.PerformCase op s' := by
  cases op with
  | startEvent player event page =>
    unfold perform startEvent at h
    cases hplayer : s.world.player? player with
    | none =>
      simp only [hplayer] at h
      cases h
      exact .opened (.refl s _)
    | some p =>
      simp only [hplayer] at h
      cases h
      refine .opened (.launch (Option.isSome_iff_exists.mpr ⟨p, hplayer⟩) (fun _ => ⟨rfl, rfl⟩)
        fun id => ?_)
      exact ⟨.inl rfl, ⟨⟨page, rfl⟩, rfl⟩, page, rfl, .inl rfl⟩
  | startCommonEvent player event =>
    obtain ⟨outcome, houtcome, h⟩ := Guarded.bind_eq_ok.mp h
    cases outcome with
    | error =>
      cases h
      exact .opened (.refl s _)
    | ok r =>
      cases h
      refine .opened (.startCommonEvent (fun page id hpage => ?_) houtcome)
      exact ⟨.inl rfl, ⟨⟨page, rfl⟩, rfl⟩, page, rfl, .inr hpage⟩
  | triggerCommonEvents player trigger =>
    obtain ⟨outcome, houtcome, h⟩ := Guarded.bind_eq_ok.mp h
    cases outcome with
    | error =>
      cases h
      exact .opened (.refl s _)
    | ok r =>
      cases h
      refine .opened (.triggerCommonEvents (fun event page id hpage => ?_) houtcome)
      exact ⟨.inl rfl, ⟨⟨page, rfl⟩, rfl⟩, page, rfl, .inr hpage⟩
  | startGlobal event map page switches =>
    cases h
    refine .opened (.launchClones (fun player hplayer id => ?_) fun player hplayer => ?_)
    · have honline := s.world.isOnline_of_mem (List.mem_filter.mp hplayer).1
      exact ⟨.inr honline, ⟨⟨page, rfl⟩, rfl⟩, page, rfl, .inl rfl⟩
    · obtain ⟨p, hp, -⟩ := (Option.any_eq_true _ _).mp (List.mem_filter.mp hplayer).2
      exact Option.isSome_iff_exists.mpr ⟨p, hp⟩
  | tick =>
    obtain ⟨r, hr, h⟩ := Guarded.bind_eq_ok.mp h
    cases h
    exact .passed (pass_cases hr)
  | respond player id response =>
    obtain ⟨r, hr, h⟩ := Guarded.bind_eq_ok.mp h
    obtain ⟨accepted, haccepted⟩ := hs.respond_ok hr
    cases h
    cases respond_cases hr with
    | ignored => exact .opened (.refl s _)
    | answered hfound houtcome => exact .answered hfound houtcome
    | failed => cases haccepted
  | signal player signal =>
    cases h
    exact .signalled player signal
  | releasePlayer player =>
    cases h
    exact .released player
  | unloadMap map =>
    cases h
    exact .unloaded map
  | disconnect player =>
    cases h
    exact .disconnected player

/-! ## Runs of operations -/

/-- Signals keep everyone who it is. -/
theorem isIndexed_observe {w : World} (hw : w.IsIndexed) (player : PlayerId) (signal : Signal) :
    (observe w player signal).IsIndexed := by
  have hclear (p : Player) : (clearActivity player signal p).id = p.id := by
    unfold clearActivity
    split
    · split <;> rfl
    · rfl
    · split <;> rfl
    · rfl
  have hplayers := hw.modifyPlayer player hclear
  unfold observe
  dsimp only
  split
  · exact hplayers.modifyMapEvent _ fun _ => rfl
  · exact hplayers

/-- Telling a player of one hold after the other that it is over. -/
theorem foldl_send_releasePlayer (player : PlayerId) (is : List Instance) (w : World) :
    is.foldl (fun w i => w.send (.player player) (.releasePlayer i.event)) w =
      { w with
        sent := w.sent ++ is.map fun i => (.player player, .releasePlayer i.event) } := by
  induction is generalizing w with
  | nil =>
    rw [List.foldl_nil, List.map_nil, List.append_nil]
  | cons i rest ih =>
    rw [List.foldl_cons, ih, List.map_cons, ← List.singleton_append, ← List.append_assoc]
    rfl

/-- Letting a player go tells the client of every hold that it is over. -/
theorem world_releasePlayer (s : Scheduler) (player : PlayerId) :
    (s.releasePlayer player).2.world = { s.world with
      sent := s.world.sent ++ ((s.instancesOf player).filter Instance.holding).map fun i =>
        (.player player, .releasePlayer i.event) } :=
  foldl_send_releasePlayer player _ s.world

/-- Whatever the host does keeps a scheduler regular. -/
theorem IsRegular.perform {s s' : Scheduler} (hs : s.IsRegular) {op : Operation}
    (h : s.perform op = .ok s') : s'.IsRegular := by
  cases perform_cases hs h with
  | opened hopens => exact hs.opens hopens
  | passed hpass =>
    have hkept : IsKeptInPass (fun _ => True) fun _ => True :=
      ⟨fun _ _ _ => trivial, fun _ _ _ _ _ => trivial, fun _ _ _ => trivial, fun _ _ => trivial,
        fun _ _ => trivial⟩
    exact (hkept.pass hpass hs trivial fun _ _ => trivial).1
  | answered found result =>
    obtain ⟨hworld, horigin⟩ := Turn.backdrop_answer result
    exact hs.replace found hworld horigin (World.IsIndexed.answer hs.indexed result)
  | signalled player signal =>
    exact ⟨hs.toIsWellFormed.signal player signal, isIndexed_observe hs.indexed player signal⟩
  | released player =>
    refine ⟨hs.toIsWellFormed.releasePlayer player, ?_⟩
    rw [world_releasePlayer]
    exact ⟨hs.indexed.players, hs.indexed.mapEvents⟩
  | unloaded map => exact ⟨hs.toIsWellFormed.unloadMap map, hs.indexed⟩
  | disconnected player =>
    refine ⟨hs.toIsWellFormed.disconnect player, ?_⟩
    let leave (p : Player) : Player :=
      { p with activity.openSession := none, activity.spawnedNpcs := [] }
    have hplayers := hs.indexed.modifyPlayer player fun p => (rfl : (leave p).id = p.id)
    exact ⟨hplayers.players, hplayers.mapEvents⟩

/-- Removing a player keeps a scheduler regular. -/
theorem IsRegular.disconnect {s : Scheduler} (hs : s.IsRegular) (player : PlayerId) :
    (s.disconnect player).2.IsRegular :=
  hs.perform (show s.perform (.disconnect player) = .ok _ from rfl)

/-- A property of regular schedulers that every allowed operation keeps holds on in every run of
allowed operations. -/
theorem invariant_of_moves {allowed : Scheduler → Operation → Prop} {P : Scheduler → Prop}
    (hkept : ∀ {s s' : Scheduler} {op : Operation}, s.IsRegular → P s → allowed s op →
      s.PerformCase op s' → P s')
    {s s' : Scheduler} (hs : s.IsRegular) (hP : P s)
    (h : Relation.ReflTransGen (Moves allowed) s s') : s'.IsRegular ∧ P s' := by
  induction h with
  | refl => exact ⟨hs, hP⟩
  | tail _ hmove ih =>
    obtain ⟨op, hallowed, hperform⟩ := hmove
    obtain ⟨hs, hP⟩ := ih
    exact ⟨hs.perform hperform, hkept hs hP hallowed (perform_cases hs hperform)⟩

end Scheduler

end EventScript
