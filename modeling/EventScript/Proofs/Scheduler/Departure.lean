import EventScript.Proofs.Scheduler.Operation

/-!
# Players who left

A player who is disconnected has no executions. Events are started for connected players, for those
the host names, and for those on whose behalf it was asked for; and scripts ask on behalf of their
own player and of connected players, with one exception: a variable that is shared with the party
asks on behalf of the members of the party wherever they are. So a player who leaves stays without
executions, unless something was asked for it when it left or a member of its party shares a
variable with it later.
-/

namespace EventScript

/-- Sharing a variable with a party that a player is a member of. -/
def Deed.SharesWith (d : Deed) (player : PlayerId) : Prop :=
  player ∈ d.scene.player.party ∧
    ∃ target m, target.scope = .player ∧ d.command = .setVariable target m true

/-- Whether something was asked for a player. -/
def World.IsAskedFor (w : World) (player : PlayerId) : Prop := ∃ r ∈ w.requests, r.player = player

/-- What was asked for a player who is not connected was asked for somebody absent. -/
theorem World.isAskedFor_iff {w : World} {player except : PlayerId}
    (hoffline : w.isOnline player = false) (hother : player ≠ except) :
    w.IsAskedFor player ↔ ∃ r ∈ w.askedForAbsent except, r.player = player := by
  unfold IsAskedFor askedForAbsent
  constructor
  · rintro ⟨r, hr, rfl⟩
    exact ⟨r, List.mem_filter.mpr ⟨hr, by simp [hother, hoffline]⟩, rfl⟩
  · rintro ⟨r, hr, hplayer⟩
    exact ⟨r, (List.mem_filter.mp hr).1, hplayer⟩

/-- Who is connected when a player was disconnected. -/
theorem World.isOnline_setOnline_false (w : World) (player other : PlayerId) :
    (w.setOnline player false).isOnline other =
      if player = other then false else w.isOnline other := by
  unfold setOnline isOnline Table.contains
  rw [Bool.false_and, if_neg Bool.false_ne_true, Table.get?_erase]
  split
  · next hplayer => rw [if_pos (Table.rank_inj.mp hplayer), Option.isSome_none]
  · next hplayer => rw [if_neg (hplayer ∘ Table.rank_inj.mpr)]

/-! ## Turns of others -/

namespace Turn

variable {t : Turn} {player : PlayerId}

/-- In a step of somebody else nothing is asked for a player who is not connected, unless a variable
is shared with it. -/
theorem isAskedFor_of_step (hindexed : t.world.IsIndexed)
    (hoffline : t.world.isOnline player = false) (hother : player ≠ t.run.player)
    {r : Outcome StepOutcome} (h : t.step = .ok r)
    (hdeed : ∀ d, t.deed? = some d → ¬ d.SharesWith player)
    (hasked : r.2.world.IsAskedFor player) : t.world.IsAskedFor player := by
  have hcase := deed_cases h
  have hoffline' : r.2.world.isOnline player = false := by
    obtain ⟨hworld, -⟩ := backdrop_step h
    rw [← hoffline]
    exact congrArg (fun b : World.Backdrop => b.online.contains player) hworld
  generalize t.deed? = deed at hcase hdeed
  generalize r.2 = t' at hcase hoffline' hasked
  cases hcase with
  | idle => exact hasked
  | @done p page c s st st' hplayer hscene =>
    have hid : p.id = t.run.player := hindexed.players hplayer
    have hself : player ≠ p.id := hid.symm ▸ hother
    have hself' : player ≠ s.player.id := (Scene.id_execute _ hscene).symm ▸ hself
    obtain ⟨request, hmem, rfl⟩ := (World.isAskedFor_iff (w := s.world) hoffline' hself').mp hasked
    rcases Scene.mem_asked_execute _ hscene hmem with hmem | hshares
    · exact (World.isAskedFor_iff hoffline hself).mpr ⟨request, hmem, rfl⟩
    · exact absurd hshares (hdeed _ rfl)

/-- A response of somebody else asks for nothing for a player who is not connected. -/
theorem isAskedFor_of_answer (hindexed : t.world.IsIndexed)
    (hoffline : t.world.isOnline player = false) (hother : player ≠ t.run.player)
    {response : Response} {r : Outcome Bool} (h : t.answer response = .ok r)
    (hasked : r.2.world.IsAskedFor player) : t.world.IsAskedFor player := by
  have hoffline' : r.2.world.isOnline player = false := by
    obtain ⟨hworld, -⟩ := backdrop_answer h
    rw [← hoffline]
    exact congrArg (fun b : World.Backdrop => b.online.contains player) hworld
  cases answer_cases h with
  | ignored => exact hasked
  | missingPlayer => exact hasked
  | @accepted frame rest asked p s hstack hwaiting hanswered hplayer hscene =>
    have hreserve := Scene.reserve_resume _ hscene
    have hid : p.id = t.run.player := hindexed.players hplayer
    have hself : player ≠ p.id := hid.symm ▸ hother
    have hself' : player ≠ s.player.id := by
      rwa [show s.player.id = p.id from congrArg (fun r : Scene.Reserve => r.walker.id) hreserve]
    have hsame : s.world.askedForAbsent s.player.id = t.world.askedForAbsent p.id :=
      congrArg Scene.Reserve.asked hreserve
    obtain ⟨request, hmem, rfl⟩ := (World.isAskedFor_iff (w := s.world) hoffline' hself').mp hasked
    exact (World.isAskedFor_iff hoffline hself).mpr ⟨request, hsame ▸ hmem, rfl⟩

end Turn

namespace Scheduler

/-! ## Players who are away -/

/-- A player is not connected, has no executions, and nothing was asked for it. -/
structure IsAway (s : Scheduler) (player : PlayerId) : Prop where
  offline : s.world.isOnline player = false
  idle : s.instancesOf player = []
  unasked : ¬ s.world.IsAskedFor player

/-- An operation brings nobody back: the host does not start events for the player, and in a pass
nobody shares a variable with it. -/
def LeavesAway (player : PlayerId) (s : Scheduler) (op : Operation) : Prop :=
  op.startsFor? ≠ some player ∧ (op = .tick → ∀ d ∈ s.deeds, ¬ d.SharesWith player)

namespace IsAway

variable {s s' : Scheduler} {player : PlayerId}

/-- A player who leaves is away, if nothing was asked for it. -/
theorem disconnect (hunasked : ¬ s.world.IsAskedFor player) :
    (s.disconnect player).2.IsAway player where
  offline := (World.isOnline_setOnline_false _ player player).trans (if_pos rfl)
  idle := by rw [instancesOf_disconnect, if_pos rfl]
  unasked := hunasked

/-- An execution that has its turn is not one of a player who is away. -/
theorem ne_of_found (h : s.IsAway player) (hs : s.IsRegular) {owner : PlayerId} {index : Nat}
    {i : Instance} (found : (s.instancesOf owner)[index]? = some i) :
    player ≠ i.player ∧ player ≠ owner := by
  rw [hs.player_eq found, and_self]
  rintro rfl
  rw [h.idle] at found
  cases found

/-- A player stays away when executions are started, but not for it. -/
theorem opens {new : PlayerId → Instance → Prop} (h : s.IsAway player)
    (hnew : ∀ i, ¬ new player i) (hopens : s.Opens new s') : s'.IsAway player where
  offline := by
    rw [hopens.world]
    exact h.offline
  idle := (hopens.instancesOf_eq hnew).trans h.idle
  unasked := by
    rw [hopens.world]
    exact h.unasked

/-- A player stays away when something is done in the turn of somebody else. -/
theorem replace (h : s.IsAway player) {owner : PlayerId} (howner : player ≠ owner) {index : Nat}
    {t : Turn} (hworld : t.world.backdrop = s.world.backdrop)
    (hunasked : ¬ t.world.IsAskedFor player) : (s.replace owner index t).IsAway player where
  offline := by
    rw [← h.offline]
    exact congrArg (fun b : World.Backdrop => b.online.contains player) hworld
  idle := by rw [instancesOf_replace, if_neg howner.symm, h.idle]
  unasked := hunasked

end IsAway

/-- Every part of a pass keeps a player away with whom nobody shares a variable. -/
theorem isKeptInPass_isAway (player : PlayerId) :
    IsKeptInPass (fun s => s.IsAway player) fun d => ¬ d.SharesWith player where
  serve {s s'} _ h hopens := by
    have hserved : s.withoutRequests.IsAway player := by
      refine ⟨h.offline, h.idle, ?_⟩
      rintro ⟨r, hr, -⟩
      cases hr
    exact hserved.opens (fun i hasked => h.unasked hasked.1) hopens
  step hs h found result hdeed := by
    obtain ⟨hself, howner⟩ := h.ne_of_found hs found
    obtain ⟨hworld, -⟩ := Turn.backdrop_step result
    exact h.replace howner hworld fun hasked =>
      h.unasked (Turn.isAskedFor_of_step hs.indexed h.offline hself result hdeed hasked)
  abandon {s owner index i} hs h found := by
    obtain ⟨-, howner⟩ := h.ne_of_found hs found
    obtain ⟨hworld, -⟩ := backdrop_abandon ⟨s.world, i⟩ owner
    refine h.replace howner hworld fun hasked => h.unasked ?_
    unfold Scheduler.abandon at hasked
    dsimp only at hasked
    split at hasked <;> exact hasked
  applySwitches {s} _ h :=
    ⟨h.offline, by rw [instancesOf_applySwitches, h.idle, List.map_nil], h.unasked⟩
  reap {s} _ h := ⟨h.offline, by rw [instancesOf_reap, h.idle, List.filter_nil], h.unasked⟩

/-- An operation that brings nobody back keeps a player away. -/
theorem IsAway.perform {s s' : Scheduler} {player : PlayerId} (h : s.IsAway player)
    (hs : s.IsRegular) {op : Operation} (hleaves : LeavesAway player s op)
    (hperform : s.PerformCase op s') : s'.IsAway player := by
  obtain ⟨hstart, hdeeds⟩ := hleaves
  cases hperform with
  | opened hopens =>
    refine h.opens (fun i hnew => ?_) hopens
    rcases hnew.startsFor with hstarts | honline
    · exact hstart hstarts
    · rw [h.offline] at honline
      cases honline
  | passed hpass => exact ((isKeptInPass_isAway player).pass hpass hs h (hdeeds rfl)).2
  | answered found result =>
    obtain ⟨hself, howner⟩ := h.ne_of_found hs found
    obtain ⟨hworld, -⟩ := Turn.backdrop_answer result
    exact h.replace howner hworld fun hasked =>
      h.unasked (Turn.isAskedFor_of_answer hs.indexed h.offline hself result hasked)
  | signalled other signal =>
    have hworld : (observe s.world other signal).online = s.world.online ∧
        (observe s.world other signal).requests = s.world.requests := by
      unfold observe
      dsimp only
      split <;> exact ⟨rfl, rfl⟩
    refine ⟨?_, ?_, ?_⟩
    · exact (congrArg (fun t => t.contains player) hworld.1).trans h.offline
    · rw [instancesOf_signal, h.idle, List.map_nil]
    · rintro ⟨r, hr, hplayer⟩
      exact h.unasked ⟨r, hworld.2 ▸ hr, hplayer⟩
  | released other =>
    have hworld := world_releasePlayer s other
    refine ⟨?_, ?_, ?_⟩
    · rw [hworld]
      exact h.offline
    · rw [instancesOf_releasePlayer, h.idle, List.map_nil, List.filter_nil]
    · rw [hworld]
      exact h.unasked
  | unloaded map =>
    exact ⟨h.offline, by rw [instancesOf_unloadMap, h.idle, List.filter_nil], h.unasked⟩
  | disconnected other =>
    refine ⟨?_, ?_, h.unasked⟩
    · refine (World.isOnline_setOnline_false _ other player).trans ?_
      split
      · rfl
      · exact h.offline
    · rw [instancesOf_disconnect, h.idle, ite_self]

/-- So does a run of such operations. -/
theorem IsAway.moves {s s' : Scheduler} {player : PlayerId} (h : s.IsAway player)
    (hs : s.IsRegular) (hrun : Relation.ReflTransGen (Moves (LeavesAway player)) s s') :
    s'.IsAway player :=
  (invariant_of_moves (fun hs h hleaves hperform => IsAway.perform h hs hleaves hperform)
    hs h hrun).2

/-- Behind a pass nothing is asked for. -/
theorem not_isAskedFor_of_tick {s : Scheduler} {r : TickReport × Scheduler} (h : s.tick = .ok r)
    (player : PlayerId) : ¬ r.2.world.IsAskedFor player := by
  rintro ⟨request, hrequest, -⟩
  rw [(accounts_of_tick h).requests] at hrequest
  cases hrequest

/-- A player who leaves when nothing was asked for it stays away, whatever the host goes on to do,
as long as it does not start events for the player and nobody shares a variable with the player. -/
theorem isAway_of_moves {s s' : Scheduler} {player : PlayerId} (hs : s.IsRegular)
    (hunasked : ¬ s.world.IsAskedFor player)
    (h : Relation.ReflTransGen (Moves (LeavesAway player)) (s.disconnect player).2 s') :
    s'.IsAway player :=
  (IsAway.disconnect hunasked).moves (hs.disconnect player) h

/-- A player who leaves behind a pass stays away in the same way, whatever was asked for it before.
Behind a response it may be otherwise, see `not_isAway_companions_of_asked`. -/
theorem isAway_of_tick_of_moves {s s' : Scheduler} {r : TickReport × Scheduler} {player : PlayerId}
    (hs : s.IsRegular) (htick : s.tick = .ok r)
    (h : Relation.ReflTransGen (Moves (LeavesAway player)) (r.2.disconnect player).2 s') :
    s'.IsAway player := by
  have hperform : s.perform .tick = .ok r.2 := Guarded.bind_eq_ok.mpr ⟨r, htick, rfl⟩
  have hunasked := not_isAskedFor_of_tick htick player
  exact (IsAway.disconnect hunasked).moves ((hs.perform hperform).disconnect player) h

/-! ### Two players in a party -/

/-- A truth value that players keep. -/
def signet : VariableDescriptor := ⟨⟨1⟩, .player, "signet", .boolean, "signet"⟩

/-- A common event that is started when the truth value of a player changes. -/
def signetEvent : CommonEventDescriptor :=
  ⟨⟨5⟩, "signet", [⟨.playerVariableChange signet.id, [],
    (Page.draft ⟨1⟩ "signet" ⟨2⟩).withRoot [.showText "It glows" ""]⟩]⟩

/-- Two connected players, the second of whom has the first one in its party. -/
def companions : World :=
  let catalog := { Catalog.empty with
    vars := Table.empty.insert ⟨signet.scope, signet.id⟩ signet
    commonEvents := Table.empty.insert signetEvent.id signetEvent }
  let world := (World.start {} catalog (.start 0) (.seeded 0)).addPlayer (.fresh ⟨3⟩ "Ann" .nil 1 1)
  let world := world.addPlayer { Player.fresh ⟨4⟩ "Bob" .nil 1 1 with party := [⟨3⟩] }
  (world.setOnline ⟨3⟩ true).setOnline ⟨4⟩ true

/-- Both are there under their identifiers. -/
theorem isIndexed_companions : companions.IsIndexed :=
  have hw := ((World.IsIndexed.start {} _ _ _).addPlayer _).addPlayer _
  ⟨hw.players, hw.mapEvents⟩

/-- A page that sets the truth value of its player and shares it with the party or not. -/
def sealing (syncs : Bool) : Page :=
  (Page.draft ⟨6⟩ "seal" ⟨7⟩).withRoot
    [.setVariable ⟨signet.scope, signet.id⟩ (.boolean (.set true)) syncs]

/-- The first player leaves, the second one shares the truth value, and an event is started for the
first one. -/
theorem not_isAway_companions_of_shared :
    ∃ s s', Relation.ReflTransGen (Moves fun _ _ => True) (.start companions) s ∧
      ¬ s.world.IsAskedFor ⟨3⟩ ∧ (s.disconnect ⟨3⟩).2.perform .tick = .ok s' ∧
      s'.world.isOnline ⟨3⟩ = false ∧ s'.instancesOf ⟨3⟩ ≠ [] := by
  have hmoves : Relation.ReflTransGen (Moves fun _ _ => True) (.start companions) _ :=
    .single ⟨.startEvent ⟨4⟩ ⟨8⟩ (sealing true), trivial, rfl⟩
  refine ⟨_, _, hmoves, ?_, rfl, rfl, nofun⟩
  rintro ⟨r, hr, -⟩
  cases hr

/-- A page that asks for the truth value. -/
def asking : Page :=
  (Page.draft ⟨6⟩ "ask" ⟨7⟩).withRoot [.inputVariable "" "" ⟨signet.scope, signet.id⟩ []]

/-- The first player enters the truth value and leaves, and an event is started for it. -/
theorem not_isAway_companions_of_asked :
    ∃ s s', Relation.ReflTransGen (Moves fun _ _ => True) (.start companions) s ∧
      (s.disconnect ⟨3⟩).2.perform .tick = .ok s' ∧
      s'.world.isOnline ⟨3⟩ = false ∧ s'.instancesOf ⟨3⟩ ≠ [] := by
  have hmoves : Relation.ReflTransGen (Moves fun _ _ => True) (.start companions) _ :=
    .tail (.tail (.tail .refl ⟨.startEvent ⟨3⟩ ⟨8⟩ asking, trivial, rfl⟩) ⟨.tick, trivial, rfl⟩)
      ⟨.respond ⟨3⟩ companions.supply.freshId.1 (.input "true"), trivial, rfl⟩
  exact ⟨_, _, hmoves, rfl, rfl, nofun⟩

/-- The first player has left, and an event is about to set the truth value for the second one
only. -/
def parted : Scheduler :=
  (((Scheduler.start companions).disconnect ⟨3⟩).2.launch ⟨4⟩ ⟨8⟩ (sealing false) id).2

/-- The event that is started then is started for the second player only. -/
theorem isAway_of_moves_companions :
    ∃ s, Relation.ReflTransGen (Moves (LeavesAway ⟨3⟩))
      ((Scheduler.start companions).disconnect ⟨3⟩).2 s ∧ s.IsAway ⟨3⟩ ∧
        (s.instancesOf ⟨4⟩).map Instance.event = [signetEvent.id] := by
  have hstarted : Relation.ReflTransGen (Moves (LeavesAway ⟨3⟩))
      ((Scheduler.start companions).disconnect ⟨3⟩).2 parted :=
    .single ⟨.startEvent ⟨4⟩ ⟨8⟩ (sealing false), ⟨nofun, nofun⟩, rfl⟩
  have hdeeds : ∀ d ∈ parted.deeds, ¬ d.SharesWith ⟨3⟩ := by
    rintro d hd ⟨-, target, m, -, hcommand⟩
    rw [List.mem_singleton.mp hd] at hcommand
    cases hcommand
  have hmoves := hstarted.tail ⟨.tick, ⟨nofun, fun _ => hdeeds⟩, rfl⟩
  have hunasked : ¬ companions.IsAskedFor ⟨3⟩ := by
    rintro ⟨r, hr, -⟩
    cases hr
  exact ⟨_, hmoves, isAway_of_moves (.start isIndexed_companions) hunasked hmoves, rfl⟩

end Scheduler

end EventScript
