import EventScript.Proofs.Scheduler.Instances
import EventScript.Proofs.Turn.Deed

/-!
# The course of a pass

While the executions take their turns, one of them after the other takes a step or, when it failed,
is ended. This is the course of a pass: a chain of schedulers, each of which comes from the one
before by the change of the world and of one execution, with the deeds done on the way. What holds
on along every course holds on in every pass, in whatever order the executions have their turns.
Before and behind its course a pass opens the executions that were asked for.
-/

namespace EventScript

/-- An execution in front of its first command, which does not hold its player. -/
structure Instance.IsNew (i : Instance) : Prop where
  stack : ∃ page, i.stack = [Frame.root page]
  holding : i.holding = false

namespace Scheduler

/-! ## Opening executions -/

/-- The scheduler with nothing asked for. -/
def withoutRequests (s : Scheduler) : Scheduler := { s with world.requests := [] }

/-- Executions were started that are as told, and nothing else was done. -/
structure Opens (s : Scheduler) (new : PlayerId → Instance → Prop) (s' : Scheduler) : Prop where
  grows : ∃ count, s.Grows count s'
  instances : ∀ player, ∃ started,
    s'.instancesOf player = s.instancesOf player ++ started ∧ ∀ i ∈ started, new player i

namespace Opens

variable {s s₁ s₂ : Scheduler} {new : PlayerId → Instance → Prop}

/-- Nothing was started. -/
theorem refl (s : Scheduler) (new : PlayerId → Instance → Prop) : s.Opens new s where
  grows := ⟨0, .refl s⟩
  instances _ := ⟨[], (List.append_nil _).symm, fun _ hi => absurd hi List.not_mem_nil⟩

/-- Starting goes on. -/
theorem trans (h : s.Opens new s₁) (h' : s₁.Opens new s₂) : s.Opens new s₂ where
  grows :=
    have ⟨_, hgrows⟩ := h.grows
    have ⟨_, hgrows'⟩ := h'.grows
    ⟨_, hgrows.trans hgrows'⟩
  instances player := by
    obtain ⟨started, heq, hnew⟩ := h.instances player
    obtain ⟨later, heq', hnew'⟩ := h'.instances player
    refine ⟨started ++ later, by rw [heq', heq, List.append_assoc], fun i hi => ?_⟩
    rcases List.mem_append.mp hi with hi | hi
    · exact hnew i hi
    · exact hnew' i hi

/-- Starting changes nothing in the world but its supply. -/
theorem world (h : s.Opens new s₁) : s₁.world = { s.world with supply := s₁.world.supply } :=
  have ⟨_, hgrows⟩ := h.grows
  hgrows.world

/-- Common events are on the same pages. -/
theorem hasEventPage (h : s.Opens new s₁) : s₁.world.HasEventPage = s.world.HasEventPage := by
  rw [h.world]
  rfl

/-- An identifier was given out for each one that was started. -/
theorem supply (h : s.Opens new s₁) : ∃ count,
    s₁.world.supply = { s.world.supply with idsUsed := s.world.supply.idsUsed + count } :=
  have ⟨count, hgrows⟩ := h.grows
  ⟨count, hgrows.supply⟩

/-- What a player has is what it had before or new. -/
theorem mem (h : s.Opens new s₁) {player : PlayerId} {i : Instance}
    (hi : i ∈ s₁.instancesOf player) : i ∈ s.instancesOf player ∨ new player i := by
  obtain ⟨started, heq, hnew⟩ := h.instances player
  rw [heq] at hi
  exact (List.mem_append.mp hi).imp_right (hnew i)

/-- What a player had before it has. -/
theorem subset (h : s.Opens new s₁) (player : PlayerId) :
    s.instancesOf player ⊆ s₁.instancesOf player := by
  obtain ⟨started, heq, -⟩ := h.instances player
  rw [heq]
  exact List.subset_append_left _ _

/-- A player for whom nothing new can be started has what it had. -/
theorem instancesOf_eq (h : s.Opens new s₁) {player : PlayerId}
    (hnone : ∀ i, ¬ new player i) : s₁.instancesOf player = s.instancesOf player := by
  obtain ⟨started, heq, hnew⟩ := h.instances player
  cases started with
  | nil => rwa [List.append_nil] at heq
  | cons i rest => exact absurd (hnew i List.mem_cons_self) (hnone i)

/-- Starting an event for a loaded player. -/
theorem launch {s : Scheduler} {player : PlayerId} (hplayer : (s.world.player? player).isSome)
    {event : EventId} {page : Page} {change : Instance → Instance}
    (hchange : ∀ i, (change i).player = i.player ∧ (change i).event = i.event)
    (hnew : ∀ id, new player (change (.start id event player page))) :
    s.Opens new (s.launch player event page change).2 := by
  refine ⟨⟨_, .launch hplayer event page hchange⟩, fun owner => ?_⟩
  unfold Scheduler.launch
  split
  · exact (Opens.refl s new).instances owner
  · dsimp only
    rw [instancesOf_insert]
    split
    · next howner =>
      subst howner
      refine ⟨_, rfl, fun i hi => ?_⟩
      rw [List.mem_singleton.mp hi]
      exact hnew _
    · exact (Opens.refl s new).instances owner

/-- A player who is loaded stays so. -/
theorem isSome_player? (h : s.Opens new s₁) {player : PlayerId}
    (hplayer : (s.world.player? player).isSome) : (s₁.world.player? player).isSome := by
  rw [h.world]
  exact hplayer

/-- Starting events for a loaded player one after the other. -/
theorem launchAll {player : PlayerId} {pages : List (EventId × Page)}
    (hnew : ∀ e ∈ pages, ∀ id, new player (.start id e.1 player e.2)) {s : Scheduler}
    (hplayer : (s.world.player? player).isSome) :
    s.Opens new (launchAll player pages s).2 := by
  induction pages generalizing s with
  | nil => exact .refl s new
  | cons entry rest ih =>
    obtain ⟨hentry, hrest⟩ := List.forall_mem_cons.mp hnew
    have hfirst : s.Opens new (s.launch player entry.1 entry.2 id).2 :=
      launch hplayer (fun _ => ⟨rfl, rfl⟩) hentry
    exact hfirst.trans (ih hrest (hfirst.isSome_player? hplayer))

/-- Starting an event for loaded players, as its clones. -/
theorem launchClones {event : EventId} {map : MapId} {page : Page} {switches : Vector Bool 4}
    {players : List PlayerId}
    (hnew : ∀ player ∈ players, ∀ id, new player { Instance.start id event player page with
      map := map, isGlobal := true, selfSwitches := switches }) {s : Scheduler}
    (hplayers : ∀ player ∈ players, (s.world.player? player).isSome) :
    s.Opens new (launchClones event map page switches players s).2 := by
  induction players generalizing s with
  | nil => exact .refl s new
  | cons player rest ih =>
    let clone (i : Instance) : Instance :=
      { i with map := map, isGlobal := true, selfSwitches := switches }
    have hfirst : s.Opens new (s.launch player event page clone).2 :=
      launch (hplayers player List.mem_cons_self) (fun _ => ⟨rfl, rfl⟩)
        (hnew player List.mem_cons_self)
    refine hfirst.trans (ih (fun p hp => hnew p (List.mem_cons_of_mem player hp)) fun p hp => ?_)
    exact hfirst.isSome_player? (hplayers p (List.mem_cons_of_mem player hp))

/-- Starting a common event. -/
theorem startCommonEvent {player : PlayerId} {event : EventId}
    (hnew : ∀ page id, s.world.HasEventPage page → new player (.start id event player page))
    {r : Option InstanceId × Scheduler} (h : s.startCommonEvent player event = .ok (.ok r)) :
    s.Opens new r.2 := by
  rcases startCommonEvent_cases h with rfl | ⟨hloaded, page, hpage, rfl⟩
  · exact .refl s new
  · exact .launch hloaded (fun _ => ⟨rfl, rfl⟩) fun id => hnew page id hpage

/-- Starting the common events that a trigger starts. -/
theorem triggerCommonEvents {player : PlayerId} {trigger : Trigger}
    (hnew : ∀ event page id, s.world.HasEventPage page → new player (.start id event player page))
    {r : List InstanceId × Scheduler} (h : s.triggerCommonEvents player trigger = .ok (.ok r)) :
    s.Opens new r.2 := by
  obtain ⟨hloaded, pages, hpages, rfl⟩ := triggerCommonEvents_cases h
  exact .launchAll (fun e he id => hnew e.1 e.2 id (hpages e he)) hloaded

/-- Serving a request. -/
theorem serve {r : EventRequest}
    (hnew : ∀ event page id, s.world.HasEventPage page →
      new r.player (.start id event r.player page))
    {result : Nat × Scheduler} (h : s.serve r = .ok result) : s.Opens new result.2 := by
  cases r with
  | trigger player trigger =>
    obtain ⟨outcome, houtcome, h⟩ := Guarded.bind_eq_ok.mp h
    cases outcome with
    | error =>
      cases h
      exact .refl s new
    | ok r =>
      cases h
      exact .triggerCommonEvents hnew houtcome
  | start player event =>
    obtain ⟨outcome, houtcome, h⟩ := Guarded.bind_eq_ok.mp h
    cases outcome with
    | error =>
      cases h
      exact .refl s new
    | ok r =>
      cases h
      exact .startCommonEvent (hnew event) houtcome

/-- Serving requests in order. -/
theorem serveAll {rs : List EventRequest}
    (hnew : ∀ r ∈ rs, ∀ event page id, s.world.HasEventPage page →
      new r.player (.start id event r.player page))
    {result : Nat × Scheduler} (h : Scheduler.serveAll rs s = .ok result) :
    s.Opens new result.2 := by
  induction rs generalizing s result with
  | nil =>
    cases h
    exact .refl s new
  | cons r rest ih =>
    obtain ⟨first, hfirst, h⟩ := Guarded.bind_eq_ok.mp h
    obtain ⟨later, hlater, h⟩ := Guarded.bind_eq_ok.mp h
    cases h
    obtain ⟨hr, hrest⟩ := List.forall_mem_cons.mp hnew
    have hopens : s.Opens new first.2 := .serve hr hfirst
    rw [← hopens.hasEventPage] at hrest
    have hopens' : first.2.Opens new later.2 := ih hrest hlater
    exact hopens.trans hopens'

/-- Serving all that was asked for. -/
theorem serveRequests
    (hnew : ∀ r ∈ s.world.requests, ∀ event page id, s.world.HasEventPage page →
      new r.player (.start id event r.player page))
    {result : Nat × Scheduler} (h : s.serveRequests = .ok result) :
    s.withoutRequests.Opens new result.2 :=
  @serveAll s.withoutRequests new s.world.requests hnew result h

end Opens

/-- The executions that serving requests can start: those of players for whom something was asked,
none of which is a clone. -/
def IsAsked (rs : List EventRequest) (player : PlayerId) (i : Instance) : Prop :=
  (∃ r ∈ rs, r.player = player) ∧ i.IsNew ∧ i.isGlobal = false

/-- Serving all that was asked for. -/
theorem opens_of_serveRequests {s : Scheduler} {result : Nat × Scheduler}
    (h : s.serveRequests = .ok result) :
    s.withoutRequests.Opens (IsAsked s.world.requests) result.2 :=
  .serveRequests (fun r hr _ page _ _ => ⟨⟨r, hr, rfl⟩, ⟨⟨page, rfl⟩, rfl⟩, rfl⟩) h

/-! ## One execution at a time -/

/-- The scheduler after something was done in the turn of one of a player's executions. -/
def replace (s : Scheduler) (owner : PlayerId) (index : Nat) (t : Turn) : Scheduler :=
  ⟨t.world, s.instances.insert owner ((s.instancesOf owner).set index t.run)⟩

section

variable {s : Scheduler} {owner : PlayerId} {index : Nat} {i : Instance}

/-- The executions of a player after a replacement. -/
theorem instancesOf_replace (s : Scheduler) (owner : PlayerId) (index : Nat) (t : Turn)
    (player : PlayerId) :
    (s.replace owner index t).instancesOf player =
      if owner = player then (s.instancesOf owner).set index t.run else s.instancesOf player :=
  s.instancesOf_insert t.world owner _ player

/-- The execution that was put in place is found there. -/
theorem getElem?_replace (found : (s.instancesOf owner)[index]? = some i) (t : Turn) :
    ((s.replace owner index t).instancesOf owner)[index]? = some t.run := by
  obtain ⟨hindex, -⟩ := List.getElem?_eq_some_iff.mp found
  rw [instancesOf_replace, if_pos rfl, List.getElem?_set_self hindex]

/-- Where an execution is after a replacement, it was before, unless it is the one that was put in
place. -/
theorem getElem?_replace_cases {t : Turn} {player : PlayerId} {k : Nat} {j : Instance}
    (h : ((s.replace owner index t).instancesOf player)[k]? = some j) :
    player = owner ∧ k = index ∧ j = t.run ∨ (s.instancesOf player)[k]? = some j := by
  rw [instancesOf_replace] at h
  split at h
  · next howner =>
    subst howner
    by_cases hk : k = index
    · subst hk
      rw [List.getElem?_set_self'] at h
      obtain ⟨_, -, hj⟩ := Option.map_eq_some_iff.mp h
      exact .inl ⟨rfl, rfl, hj.symm⟩
    · rw [List.getElem?_set_ne (Ne.symm hk)] at h
      exact .inr h
  · exact .inr h

/-- Every other execution is found where it was. -/
theorem getElem?_replace_of_ne {player : PlayerId} {k : Nat} (h : ¬ (owner = player ∧ index = k))
    (t : Turn) :
    ((s.replace owner index t).instancesOf player)[k]? = (s.instancesOf player)[k]? := by
  rw [instancesOf_replace]
  split
  · next howner =>
    subst howner
    exact List.getElem?_set_ne fun hindex => h ⟨rfl, hindex⟩
  · rfl

/-- Executions stay what they were started as when the one that was put in place was started as the
one it replaces. -/
theorem map_origin_replace (found : (s.instancesOf owner)[index]? = some i) {t : Turn}
    (horigin : t.run.origin = i.origin) (player : PlayerId) :
    ((s.replace owner index t).instancesOf player).map Instance.origin =
      (s.instancesOf player).map Instance.origin := by
  rw [instancesOf_replace]
  split
  · next howner =>
    subst howner
    exact map_origin_set found horigin
  · rfl

/-- Inserting a list for a player twice. -/
private theorem insert_insert (instances : Table PlayerId (List Instance)) (player : PlayerId)
    (first second : List Instance) :
    (instances.insert player first).insert player second = instances.insert player second := by
  apply Table.ext_get?
  intro j
  simp only [Table.get?_insert]
  split <;> rfl

/-- A player with an execution has a list of them. -/
private theorem get?_of_found (found : (s.instancesOf owner)[index]? = some i) :
    s.instances.get? owner = some (s.instancesOf owner) := by
  unfold instancesOf at found ⊢
  cases hget : s.instances.get? owner with
  | none =>
    rw [hget] at found
    cases found
  | some is => rfl

/-- Doing nothing in a turn. -/
theorem replace_self (found : (s.instancesOf owner)[index]? = some i) :
    s.replace owner index ⟨s.world, i⟩ = s := by
  obtain ⟨hindex, rfl⟩ := List.getElem?_eq_some_iff.mp found
  unfold replace
  rw [List.set_getElem_self hindex, Table.insert_of_get? (get?_of_found found)]

/-- Of two replacements of an execution the later one counts. -/
theorem replace_replace (s : Scheduler) (owner : PlayerId) (index : Nat) (t t' : Turn) :
    (s.replace owner index t).replace owner index t' = s.replace owner index t' := by
  unfold replace
  rw [instancesOf_insert, if_pos rfl, List.set_set, insert_insert]

end

/-! ## Courses -/

/-- A number of steps and ends of executions, one after the other, and the deeds done by them. -/
inductive Course : Scheduler → List Deed → Scheduler → Prop
  | rest {s : Scheduler} : Course s [] s
  | step {s s' : Scheduler} {owner : PlayerId} {index : Nat} {i : Instance}
      {r : Turn.Outcome StepOutcome} {later : List Deed}
      (found : (s.instancesOf owner)[index]? = some i)
      (result : (Turn.mk s.world i).step = .ok r)
      (rest : Course (s.replace owner index r.2) later s') :
      Course s ((Turn.mk s.world i).deed?.toList ++ later) s'
  | abandon {s s' : Scheduler} {owner : PlayerId} {index : Nat} {i : Instance} {later : List Deed}
      (found : (s.instancesOf owner)[index]? = some i)
      (rest : Course (s.replace owner index (abandon ⟨s.world, i⟩ owner)) later s') :
      Course s later s'

/-- Courses one after the other. -/
theorem Course.trans {s₁ s₂ s₃ : Scheduler} {first later : List Deed} (h : s₁.Course first s₂)
    (h' : s₂.Course later s₃) : s₁.Course (first ++ later) s₃ := by
  induction h with
  | rest => exact h'
  | step found result _ ih =>
    rw [List.append_assoc]
    exact .step found result (ih h')
  | abandon found _ ih => exact .abandon found (ih h')

/-- Every deed of a course is done in a step of an execution, behind another course. -/
theorem Course.exists_step {s s' : Scheduler} {deeds : List Deed} (h : s.Course deeds s')
    {d : Deed} (hd : d ∈ deeds) :
    ∃ (first : List Deed) (s₁ : Scheduler) (owner : PlayerId) (index : Nat) (i : Instance)
      (r : Turn.Outcome StepOutcome), s.Course first s₁ ∧
        (s₁.instancesOf owner)[index]? = some i ∧ (Turn.mk s₁.world i).step = .ok r ∧
          (Turn.mk s₁.world i).deed? = some d := by
  induction h with
  | rest => cases hd
  | step found result _ ih =>
    rcases List.mem_append.mp hd with hd | hd
    · exact ⟨_, _, _, _, _, _, .rest, found, result, Option.mem_toList.mp hd⟩
    · obtain ⟨first, s₁, owner, index, i, r, hfirst, hrest⟩ := ih hd
      exact ⟨_, s₁, owner, index, i, r, .step found result hfirst, hrest⟩
  | abandon found _ ih =>
    obtain ⟨first, s₁, owner, index, i, r, hfirst, hrest⟩ := ih hd
    exact ⟨_, s₁, owner, index, i, r, .abandon found hfirst, hrest⟩

/-! ## The deeds of a pass -/

/-- The deeds in the turns of a player's executions, oldest first. -/
def deedsOf (budget : UInt64) (owner : PlayerId) : List Instance → Pass → List Deed
  | [], _ => []
  | i :: rest, pass =>
    if i.isRunning then
      (Turn.mk pass.world i).deeds (max budget.toNat 1) ++
        match takeTurn budget owner pass i with
        | .ok (_, pass) => deedsOf budget owner rest pass
        | .error _ => []
    else deedsOf budget owner rest pass

/-- The deeds in the turns of all executions, oldest first. -/
def deedsOfAll (budget : UInt64) : List (PlayerId × List Instance) → Pass → List Deed
  | [], _ => []
  | (owner, is) :: rest, pass =>
    deedsOf budget owner is pass ++
      match takeTurns budget owner is pass with
      | .ok (_, pass) => deedsOfAll budget rest pass
      | .error _ => []

/-- The deeds of the next pass, oldest first. -/
def deeds (s : Scheduler) : List Deed :=
  match s.serveRequests with
  | .ok (_, s) =>
    deedsOfAll s.world.config.scheduler.commandsPerTick s.instances.entries ⟨s.world, 0, 0⟩
  | .error _ => []

/-! ## Passes are courses -/

/-- Several steps of an execution. -/
theorem course_of_steps {count : Nat} {s : Scheduler} {owner : PlayerId} {index : Nat}
    {i : Instance} {r : Turn.Outcome StepOutcome} (found : (s.instancesOf owner)[index]? = some i)
    (h : Turn.steps count ⟨s.world, i⟩ = .ok r) :
    s.Course ((Turn.mk s.world i).deeds count) (s.replace owner index r.2) := by
  induction count generalizing s i with
  | zero =>
    cases h
    rw [replace_self found]
    exact .rest
  | succ count ih =>
    obtain ⟨⟨outcome, t⟩, hstep, h⟩ := Guarded.bind_eq_ok.mp h
    unfold Turn.deeds
    rw [hstep]
    refine .step found hstep ?_
    dsimp only at h ⊢
    split at h
    · have hlater := ih (getElem?_replace found t) h
      rwa [replace_replace] at hlater
    · next hstop =>
      cases h
      split
      · next heq =>
        cases heq
        exact absurd rfl hstop
      · exact .rest

/-- The turn of one execution. -/
theorem course_of_takeTurn {budget : UInt64} {s : Scheduler} {owner : PlayerId} {index : Nat}
    {i : Instance} {pass : Pass} {r : Instance × Pass} (hworld : pass.world = s.world)
    (found : (s.instancesOf owner)[index]? = some i)
    (h : takeTurn budget owner pass i = .ok r) :
    s.Course ((Turn.mk s.world i).deeds (max budget.toNat 1))
      (s.replace owner index ⟨r.2.world, r.1⟩) := by
  obtain ⟨⟨outcome, t⟩, hsteps, h⟩ := Guarded.bind_eq_ok.mp h
  rw [hworld] at hsteps
  have hcourse := course_of_steps found hsteps
  dsimp only at h
  split at h
  · cases h
    exact hcourse
  · cases h
    exact hcourse
  · cases h
    have habandon : (s.replace owner index t).Course [] _ :=
      .abandon (getElem?_replace found t) .rest
    rw [replace_replace] at habandon
    rw [← List.append_nil (Turn.deeds _ _)]
    exact hcourse.trans habandon

/-- The turns of a player's executions behind others that had theirs. -/
theorem course_of_takeTurns {budget : UInt64} {s : Scheduler} {owner : PlayerId}
    {had is : List Instance} {pass : Pass} {r : List Instance × Pass}
    (hworld : pass.world = s.world) (hlist : s.instances.get? owner = some (had ++ is))
    (h : takeTurns budget owner is pass = .ok r) :
    s.Course (deedsOf budget owner is pass)
      ⟨r.2.world, s.instances.insert owner (had ++ r.1)⟩ := by
  induction is generalizing s had pass r with
  | nil =>
    cases h
    rw [Table.insert_of_get? hlist, hworld]
    exact .rest
  | cons i rest ih =>
    have hinstances : s.instancesOf owner = had ++ i :: rest := by
      unfold instancesOf
      rw [hlist, Option.getD_some]
    have found : (s.instancesOf owner)[had.length]? = some i := by
      rw [hinstances, List.getElem?_append_right (Nat.le_refl _), Nat.sub_self,
        List.getElem?_cons_zero]
    have hset (j : Instance) : (had ++ i :: rest).set had.length j = had ++ [j] ++ rest := by
      rw [List.set_append_right _ _ (Nat.le_refl _), Nat.sub_self, List.set_cons_zero,
        List.append_assoc, List.singleton_append]
    unfold takeTurns at h
    unfold deedsOf
    split at h
    · next hruns =>
      obtain ⟨first, hfirst, h⟩ := Guarded.bind_eq_ok.mp h
      obtain ⟨later, hlater, h⟩ := Guarded.bind_eq_ok.mp h
      cases h
      rw [if_pos hruns, hfirst, hworld]
      refine (course_of_takeTurn hworld found hfirst).trans ?_
      have hreplaced : (s.replace owner had.length ⟨first.2.world, first.1⟩).instances.get? owner =
          some (had ++ [first.1] ++ rest) := by
        unfold replace
        rw [Table.get?_insert_self, hinstances, hset]
      have hcourse := ih rfl hreplaced hlater
      unfold replace at hcourse
      rwa [insert_insert, List.append_assoc, List.singleton_append] at hcourse
    · next hruns =>
      obtain ⟨first, hfirst, h⟩ := Guarded.bind_eq_ok.mp h
      obtain ⟨later, hlater, h⟩ := Guarded.bind_eq_ok.mp h
      cases hfirst
      cases h
      rw [if_neg hruns]
      rw [← List.singleton_append, ← List.append_assoc] at hlist
      have hcourse := ih hworld hlist hlater
      rwa [List.append_assoc, List.singleton_append] at hcourse

/-- The turns of all executions. -/
theorem course_of_takeAllTurns {budget : UInt64} {es : List (PlayerId × List Instance)}
    {instances : Table PlayerId (List Instance)} {pass : Pass}
    {r : Table PlayerId (List Instance) × Pass} (hkeys : (es.map Prod.fst).Nodup)
    (hes : ∀ e ∈ es, instances.get? e.1 = some e.2)
    (h : takeAllTurns budget es instances pass = .ok r) :
    Course ⟨pass.world, instances⟩ (deedsOfAll budget es pass) ⟨r.2.world, r.1⟩ := by
  induction es generalizing instances pass with
  | nil =>
    cases h
    exact .rest
  | cons e rest ih =>
    obtain ⟨owner, is⟩ := e
    obtain ⟨turns, hturns, h⟩ := Guarded.bind_eq_ok.mp h
    obtain ⟨howner, hkeys⟩ := List.nodup_cons.mp hkeys
    have hlist : instances.get? owner = some is := hes (owner, is) List.mem_cons_self
    -- no later entry is of the same player, so the later turns find their executions as they were
    have hrest : ∀ e ∈ rest, (instances.insert owner turns.1).get? e.1 = some e.2 := by
      intro e he
      have hne : owner ≠ e.1 := fun heq => howner (heq ▸ List.mem_map.mpr ⟨e, he, rfl⟩)
      rw [Table.get?_insert_of_ne _ _ hne]
      exact hes e (List.mem_cons_of_mem _ he)
    have hfirst : Course ⟨pass.world, instances⟩ (deedsOf budget owner is pass)
        ⟨turns.2.world, instances.insert owner ([] ++ turns.1)⟩ :=
      course_of_takeTurns rfl hlist hturns
    unfold deedsOfAll
    rw [hturns]
    exact hfirst.trans (ih hkeys hrest h)

/-- What happens in a pass: what was asked for is opened, a course is run with the deeds of the
pass, clones see the changes of self switches, what was asked for on the way is opened, and what is
complete is removed. -/
inductive PassCase (s : Scheduler) : Scheduler → Prop
  | intro {s₁ s₂ s₃ : Scheduler} (before : s.withoutRequests.Opens (IsAsked s.world.requests) s₁)
      (course : s₁.Course s.deeds s₂)
      (after : s₂.applySwitches.withoutRequests.Opens (IsAsked s₂.world.requests) s₃) :
      PassCase s s₃.reap.2

/-- Every pass goes this way. -/
theorem pass_cases {s : Scheduler} {r : TickReport × Scheduler} (h : s.tick = .ok r) :
    s.PassCase r.2 := by
  cases tick_cases h with
  | @intro startedBefore startedAfter s₁ s₂ instances pass hbefore hturns hafter =>
    have hcourse := course_of_takeAllTurns s₁.instances.nodup_keys
      (fun e he => Table.mem_entries_iff.mp he) hturns
    have hdeeds : s.deeds = deedsOfAll s₁.world.config.scheduler.commandsPerTick
        s₁.instances.entries ⟨s₁.world, 0, 0⟩ := by
      unfold deeds
      rw [hbefore]
    rw [← hdeeds] at hcourse
    exact .intro (opens_of_serveRequests hbefore) hcourse (opens_of_serveRequests hafter)

end Scheduler

end EventScript
