import EventScript.Proofs.Scene.Backdrop

/-!
# What is left to few commands

Most commands have nothing to do with holding the player, with self switches or with routes, and
ask for common events only on behalf of their own player and of players who are connected. What they
leave alone is the reserve of a scene. Five commands touch it, each in its own way: the player is
held or let go, a self switch is set, an entity is sent along a route, and a variable is shared with
a party.
-/

namespace EventScript

/-- Whether a notification tells a client that its player is held or let go. -/
def Notification.isAboutHold : Notification → Bool
  | holdPlayer .. => true
  | releasePlayer _ => true
  | _ => false

/-- The player that a start was asked for. -/
def EventRequest.player : EventRequest → PlayerId
  | trigger player _ => player
  | start player _ => player

/-- A player as an entity that can be sent along a route. -/
structure Walker where
  /-- The player. -/
  id : PlayerId
  /-- The route it moves along. -/
  route : Option MoveRoute

/-- What is seen of a player as a walker. -/
def Player.walker (p : Player) : Walker := ⟨p.id, p.activity.moveRoute⟩

/-- What of a world is left to few commands. -/
structure World.Reserve where
  /-- The events on maps. -/
  mapEvents : Table EventId MapEvent
  /-- The loaded players as walkers. -/
  walkers : PlayerId → Option Walker
  /-- The changes of self switches that clones have to see, oldest first. -/
  switchUpdates : List SwitchUpdate
  /-- What clients were told about holds, oldest first. -/
  holds : List (Recipients × Notification)

/-- The reserve of a world. -/
def World.reserve (w : World) : World.Reserve where
  mapEvents := w.mapEvents
  walkers id := (w.player? id).map Player.walker
  switchUpdates := w.switchUpdates
  holds := w.sent.filter fun told => told.2.isAboutHold

/-- The starts that were asked for players who are not connected, one of them left out. -/
def World.askedForAbsent (w : World) (except : PlayerId) : List EventRequest :=
  w.requests.filter fun r => r.player != except && !w.isOnline r.player

/-- What of a setting is left to few commands. -/
structure Setting.Reserve where
  /-- That of the world. -/
  world : World.Reserve
  /-- The player as a walker. -/
  walker : Walker

/-- The reserve of a setting. -/
def Setting.reserve (s : Setting) : Setting.Reserve := ⟨s.world.reserve, s.player.walker⟩

/-- The starts that were asked for others who are not connected. -/
def Setting.asked (s : Setting) : List EventRequest := s.world.askedForAbsent s.player.id

/-- What of a scene is left to few commands. -/
structure Scene.Reserve extends Setting.Reserve where
  /-- The starts that were asked for others who are not connected. -/
  asked : List EventRequest
  /-- The self switches of the event. -/
  selfSwitches : Vector Bool 4
  /-- Whether the player is held. -/
  holding : Bool

/-- The reserve of a scene. -/
def Scene.reserve (s : Scene) : Scene.Reserve where
  toReserve := s.toSetting.reserve
  asked := s.toSetting.asked
  selfSwitches := s.run.selfSwitches
  holding := s.run.holding

namespace World

variable (w : World)

/-- A player gives way to one who is the same walker. -/
theorem reserve_putPlayer {w : World} {id : PlayerId} {p q : Player} (hp : w.player? id = some p)
    (hq : q.walker = p.walker) : (w.putPlayer id q).reserve = w.reserve := by
  have hwalkers : (w.putPlayer id q).reserve.walkers = w.reserve.walkers := by
    funext j
    exact Table.map_get?_insert_of_eq Player.walker hp hq j
  exact congrArg (fun walkers => { w.reserve with walkers := walkers }) hwalkers

/-- Telling a client anything that is not about a hold. -/
theorem reserve_send (audience : Recipients) {n : Notification} (h : n.isAboutHold = false) :
    (w.send audience n).reserve = w.reserve := by
  have hholds : (w.send audience n).reserve.holds = w.reserve.holds := by
    unfold reserve send
    simp [h]
  exact congrArg (fun holds => { w.reserve with holds := holds }) hholds

/-- Asking for starts on behalf of the one who is left out, or of players who are connected. -/
theorem askedForAbsent_append {except : PlayerId} {rs : List EventRequest}
    (h : ∀ r ∈ rs, r.player = except ∨ w.isOnline r.player = true) :
    ({ w with requests := w.requests ++ rs } : World).askedForAbsent except =
      w.askedForAbsent except := by
  have hnew : (rs.filter fun r => r.player != except && !w.isOnline r.player) = [] := by
    rw [List.filter_eq_nil_iff]
    intro r hr
    rcases h r hr with hself | honline
    · simp [hself]
    · simp [honline]
  refine (List.filter_append ..).trans ?_
  exact (congrArg (w.askedForAbsent except ++ ·) hnew).trans (List.append_nil _)

/-- Asking for the start of events on behalf of players who are connected. -/
theorem askedForAbsent_requestAll (except : PlayerId) {players : List PlayerId} (t : Trigger)
    (h : ∀ p ∈ players, w.isOnline p = true) :
    (w.requestAll players t).askedForAbsent except = w.askedForAbsent except := by
  refine w.askedForAbsent_append fun r hr => ?_
  obtain ⟨p, hp, rfl⟩ := List.mem_map.mp hr
  exact .inr (h p hp)

/-- Whether a player is connected is a matter of the table of connected players. -/
theorem isOnline_of_mem {id : PlayerId} (h : id ∈ w.onlinePlayers) : w.isOnline id = true := by
  obtain ⟨⟨_, u⟩, hmem, rfl⟩ := List.mem_map.mp h
  exact Option.isSome_iff_exists.mpr ⟨u, Table.mem_entries_iff.mp hmem⟩

end World

namespace Setting

variable (s : Setting)

/-! ## Variables -/

/-- Giving a member of the party a value. -/
theorem reserve_syncMember (v : VariableId) (value : Value) (t : Trigger) (w : World)
    (member : PlayerId) : (syncMember v value t w member).reserve = w.reserve := by
  unfold syncMember
  split
  · next other hother =>
    split
    · rfl
    · exact World.reserve_putPlayer hother rfl
  · rfl

/-- Giving all members of the party a value. -/
theorem reserve_syncParty (v : VariableId) (value : Value) (t : Trigger) :
    (s.syncParty v value t).reserve = s.world.reserve :=
  List.foldlRecOn (motive := fun w : World => w.reserve = s.world.reserve) _ _ rfl
    fun w hw member _ => (reserve_syncMember v value t w member).trans hw

/-- Telling others of a change. -/
theorem reserve_propagate (v : VariableRef) (value : Value) (syncs : Bool) :
    (s.propagate v value syncs).reserve = s.world.reserve := by
  unfold propagate
  dsimp only
  split
  · split
    · exact reserve_syncParty _ v.id value _
    · rfl
  · rfl
  · split <;> rfl
  · rfl

/-- Telling others of a change asks for nothing on behalf of others who are not connected, unless
the value is shared with a party. -/
theorem askedForAbsent_propagate (v : VariableRef) (value : Value) {syncs : Bool}
    (h : syncs = false ∨ v.scope ≠ .player) :
    (s.propagate v value syncs).askedForAbsent s.player.id =
      s.world.askedForAbsent s.player.id := by
  have honline (players : List PlayerId) (id : PlayerId)
      (hid : id ∈ players.filter s.world.isOnline) : s.world.isOnline id = true :=
    (List.mem_filter.mp hid).2
  unfold propagate
  dsimp only
  split
  · next hscope =>
    have hsyncs : syncs = false := h.resolve_right fun hne => hne hscope
    rw [hsyncs, if_neg Bool.false_ne_true]
    refine s.world.askedForAbsent_append fun r hr => ?_
    rw [List.mem_singleton.mp hr]
    exact .inl rfl
  · exact s.world.askedForAbsent_requestAll s.player.id _ fun id => s.world.isOnline_of_mem
  · split
    · exact s.world.askedForAbsent_requestAll s.player.id _ (honline _)
    · rfl
  · exact s.world.askedForAbsent_requestAll s.player.id _ (honline _)

/-- Giving a member of the party a value asks for starts on behalf of that member only. -/
theorem mem_requests_syncMember {v : VariableId} {value : Value} {t : Trigger} {w : World}
    {member : PlayerId} {r : EventRequest} (h : r ∈ (syncMember v value t w member).requests) :
    r ∈ w.requests ∨ r.player = member := by
  unfold syncMember at h
  split at h
  · split at h
    · exact .inl h
    · rcases List.mem_append.mp h with h | h
      · exact .inl h
      · rw [List.mem_singleton.mp h]
        exact .inr rfl
  · exact .inl h

/-- Giving all members of the party a value asks for starts on behalf of them only. -/
theorem mem_requests_syncParty {v : VariableId} {value : Value} {t : Trigger} {r : EventRequest}
    (h : r ∈ (s.syncParty v value t).requests) :
    r ∈ s.world.requests ∨ r.player ∈ s.player.party := by
  unfold syncParty at h
  have hmembers : ∀ member ∈ s.player.party.filter (fun member => member != s.player.id),
      member ∈ s.player.party := fun member hmember => (List.mem_filter.mp hmember).1
  refine List.foldlRecOn (motive := fun w : World => r ∈ w.requests → r ∈ s.world.requests ∨
    r.player ∈ s.player.party) _ (syncMember v value t) .inl (fun w hw member hmember h => ?_) h
  rcases mem_requests_syncMember h with h | hplayer
  · exact hw h
  · exact .inr (hplayer ▸ hmembers member hmember)

/-- Whoever is told of the change of a variable of the player is the player, in its party, or
connected. -/
theorem mem_asked_propagate {v : VariableRef} {value : Value} {syncs : Bool} {r : EventRequest}
    (h : r ∈ (s.propagate v value syncs).askedForAbsent s.player.id) :
    r ∈ s.asked ∨ r.player ∈ s.player.party := by
  by_cases hscope : v.scope = .player
  · obtain ⟨hmem, habsent⟩ := List.mem_filter.mp h
    have honline : (s.propagate v value syncs).isOnline r.player = s.world.isOnline r.player :=
      congrArg (fun b : World.Backdrop => b.online.contains r.player)
        (s.backdrop_propagate v value syncs)
    have hself : r.player ≠ s.player.id := by
      rintro hself
      simp [hself] at habsent
    have hrequests : r ∈ s.world.requests ∨ r.player ∈ s.player.party := by
      unfold propagate at hmem
      simp only [hscope] at hmem
      have hown (h : r ∈ (s.world.request (.trigger s.player.id (.variableChange v))).requests) :
          r ∈ s.world.requests := by
        rcases List.mem_append.mp h with h | h
        · exact h
        · rw [List.mem_singleton.mp h] at hself
          exact absurd rfl hself
      split at hmem
      · exact (mem_requests_syncParty _ hmem).imp_left hown
      · exact .inl (hown hmem)
    refine hrequests.imp_left fun hmem => List.mem_filter.mpr ⟨hmem, ?_⟩
    rwa [← honline]
  · rw [s.askedForAbsent_propagate v value (.inr hscope)] at h
    exact .inl h

/-- Keeping a value. -/
theorem reserve_store? {v : VariableRef} {value : Value} {stored : Setting}
    (h : s.store? v value = some stored) :
    stored.reserve = s.reserve ∧ stored.asked = s.asked := by
  unfold store? at h
  split at h
  · cases h
    exact ⟨rfl, rfl⟩
  · cases h
    exact ⟨rfl, rfl⟩
  · obtain ⟨_, _, h⟩ := Option.bind_eq_some_iff.mp h
    obtain ⟨_, _, h⟩ := Option.bind_eq_some_iff.mp h
    cases h
    exact ⟨rfl, rfl⟩
  · obtain ⟨_, _, h⟩ := Option.bind_eq_some_iff.mp h
    cases h
    exact ⟨rfl, rfl⟩

/-- Keeping a value leaves the party as it is. -/
theorem party_store? {v : VariableRef} {value : Value} {stored : Setting}
    (h : s.store? v value = some stored) : stored.player.party = s.player.party := by
  unfold store? at h
  split at h
  · cases h
    rfl
  · cases h
    rfl
  · obtain ⟨_, _, h⟩ := Option.bind_eq_some_iff.mp h
    obtain ⟨_, _, h⟩ := Option.bind_eq_some_iff.mp h
    cases h
    rfl
  · obtain ⟨_, _, h⟩ := Option.bind_eq_some_iff.mp h
    cases h
    rfl

/-- Committing a value. -/
theorem reserve_commit (v : VariableRef) (old new : Value) (syncs : Bool) :
    (s.commit v old new syncs).2.reserve = s.reserve ∧
      (syncs = false ∨ v.scope ≠ .player → (s.commit v old new syncs).2.asked = s.asked) := by
  unfold commit
  split
  · exact ⟨rfl, fun _ => rfl⟩
  · split
    · next stored hstored =>
      obtain ⟨hreserve, hasked⟩ := s.reserve_store? hstored
      refine ⟨?_, fun h => (stored.askedForAbsent_propagate v new h).trans hasked⟩
      exact (congrArg (fun world => { stored.reserve with world := world })
        (stored.reserve_propagate v new syncs)).trans hreserve
    · exact ⟨rfl, fun _ => rfl⟩

/-- Setting a variable. -/
theorem reserve_setValue (v : VariableRef) (value : Value) :
    (s.setValue v value).2.reserve = s.reserve ∧ (s.setValue v value).2.asked = s.asked := by
  unfold setValue
  split
  · split
    · obtain ⟨hreserve, hasked⟩ := s.reserve_commit v _ value false
      exact ⟨hreserve, hasked (.inl rfl)⟩
    · exact ⟨rfl, rfl⟩
  · exact ⟨rfl, rfl⟩

/-- Modifying a variable. -/
theorem reserve_modify (running : Option Instance) (v : VariableRef) (m : VariableMod)
    (syncs : Bool) :
    (s.modify running v m syncs).2.reserve = s.reserve ∧
      (syncs = false ∨ v.scope ≠ .player →
        (s.modify running v m syncs).2.asked = s.asked) := by
  have hdrawn : (s.drawn m).reserve = s.reserve ∧ (s.drawn m).asked = s.asked := by
    unfold drawn
    split <;> exact ⟨rfl, rfl⟩
  unfold modify
  split
  · split
    · split
      · obtain ⟨hreserve, hasked⟩ := (s.drawn m).reserve_commit v _ _ syncs
        exact ⟨hreserve.trans hdrawn.1, fun h => (hasked h).trans hdrawn.2⟩
      · exact ⟨rfl, fun _ => rfl⟩
    · exact ⟨rfl, fun _ => rfl⟩
  · exact ⟨rfl, fun _ => rfl⟩

/-- Modifying a variable asks for starts on behalf of members of the party at most, apart from the
player and those who are connected. -/
theorem mem_asked_modify {running : Option Instance} {v : VariableRef} {m : VariableMod}
    {syncs : Bool} {r : EventRequest} (h : r ∈ (s.modify running v m syncs).2.asked) :
    r ∈ s.asked ∨ r.player ∈ s.player.party := by
  have hdrawn : (s.drawn m).asked = s.asked ∧ (s.drawn m).player.party = s.player.party := by
    unfold drawn
    split <;> exact ⟨rfl, rfl⟩
  unfold modify at h
  split at h
  · split at h
    · split at h
      · unfold commit at h
        split at h
        · exact .inl (hdrawn.1 ▸ h)
        · split at h
          · next stored hstored =>
            obtain ⟨-, hasked⟩ := (s.drawn m).reserve_store? hstored
            have hparty := (s.drawn m).party_store? hstored
            rw [hdrawn.1] at hasked
            rw [hdrawn.2] at hparty
            rw [← hasked, ← hparty]
            exact stored.mem_asked_propagate h
          · exact .inl (hdrawn.1 ▸ h)
      · exact .inl h
    · exact .inl h
  · exact .inl h

end Setting

namespace Player

/-! ## Changes of a player -/

/-- Changing a vital keeps the walker. -/
theorem walker_addVital {p q : Player} {vital : Vital} {amount : Int64}
    (h : p.addVital vital amount = .ok q) : q.walker = p.walker := by
  unfold addVital at h
  dsimp only at h
  split at h
  · cases h
  · cases h
    rfl

/-- Taking items keeps the walker. -/
theorem walker_removeItems (p : Player) (item : ItemId) (quantity : Int64) :
    (p.removeItems item quantity).2.walker = p.walker := by
  unfold removeItems
  dsimp only
  split <;> rfl

end Player

namespace Scene

variable (s : Scene)

/-! ## Parts of commands -/

/-- Changing the world where it is not in the reserve. -/
theorem reserve_withWorld {w : World} (h : w.reserve = s.world.reserve)
    (hasked : w.askedForAbsent s.player.id = s.world.askedForAbsent s.player.id) :
    ({ s with world := w } : Scene).reserve = s.reserve := by
  unfold reserve Setting.reserve Setting.asked
  dsimp only
  rw [h, hasked]

/-- Changing the player without its walker. -/
theorem reserve_withPlayer {p : Player} (h : p.walker = s.player.walker) :
    (s.withPlayer p).reserve = s.reserve := by
  have hid : p.id = s.player.id := congrArg Walker.id h
  unfold reserve withPlayer Setting.reserve Setting.asked
  dsimp only
  rw [h, hid]

/-- Telling clients anything that is not about a hold. -/
theorem reserve_send (audience : Recipients) {n : Notification} (h : n.isAboutHold = false) :
    (s.send audience n).reserve = s.reserve :=
  s.reserve_withWorld (s.world.reserve_send audience h) rfl

/-- Telling the player anything that is not about a hold. -/
theorem reserve_tell {n : Notification} (h : n.isAboutHold = false) :
    (s.tell n).reserve = s.reserve := s.reserve_send _ h

@[simp] theorem reserve_announce (change : EntityChange) :
    (s.announce change).reserve = s.reserve := s.reserve_send _ rfl

@[simp] theorem reserve_chat (text : String) (color : Color) (kind : ChatMessageKind) :
    (s.chat text color kind).reserve = s.reserve := s.reserve_send _ rfl

/-- Asking for starts on behalf of the player and of players who are connected. -/
theorem reserve_ask {rs : List EventRequest}
    (h : ∀ r ∈ rs, r.player = s.player.id ∨ s.world.isOnline r.player = true) :
    ({ s with world.requests := s.world.requests ++ rs } : Scene).reserve = s.reserve :=
  s.reserve_withWorld rfl (s.world.askedForAbsent_append h)

@[simp] theorem reserve_trigger (t : Trigger) : (s.trigger t).reserve = s.reserve := by
  refine s.reserve_ask fun r hr => ?_
  rw [List.mem_singleton.mp hr]
  exact .inl rfl

@[simp] theorem reserve_startEvent (event : EventId) :
    (s.startEvent event).reserve = s.reserve := by
  refine s.reserve_ask fun r hr => ?_
  rw [List.mem_singleton.mp hr]
  exact .inl rfl

@[simp] theorem reserve_startEvent? (event : Option EventId) :
    (s.startEvent? event).reserve = s.reserve := by
  cases event with
  | none => rfl
  | some event => exact s.reserve_startEvent event

@[simp] theorem reserve_suspend (what : Suspension) : (s.suspend what).reserve = s.reserve := by
  unfold suspend Instance.suspend Instance.modifyTop
  split <;> rfl

@[simp] theorem reserve_enterBranch (bs : List BranchId) (position : Nat) :
    (s.enterBranch bs position).reserve = s.reserve := by
  unfold enterBranch
  split
  · split <;> rfl
  · rfl

@[simp] theorem reserve_branchOn (success : Bool) (bs : List BranchId) :
    (s.branchOn success bs).reserve = s.reserve := s.reserve_enterBranch bs _

/-! ## Commands -/

/-! ### Flow -/

/-- Sharing a variable with a party touches nothing but what is asked for its members. -/
theorem reserve_setVariable (target : VariableRef) (m : VariableMod) (syncs : Bool) :
    (s.setVariable target m syncs).reserve =
      { s.reserve with asked := (s.setVariable target m syncs).toSetting.asked } :=
  congrArg (fun setting => ({ s.reserve with
      toReserve := setting
      asked := (s.setVariable target m syncs).toSetting.asked } : Scene.Reserve))
    (s.toSetting.reserve_modify (some s.run) target m syncs).1

/-- A variable that is not shared is left to itself. -/
theorem reserve_setVariable_of_not_shared {target : VariableRef} (m : VariableMod) {syncs : Bool}
    (h : syncs = false ∨ target.scope ≠ .player) :
    (s.setVariable target m syncs).reserve = s.reserve := by
  rw [reserve_setVariable]
  exact congrArg (fun asked => { s.reserve with asked := asked })
    ((s.toSetting.reserve_modify (some s.run) target m syncs).2 h)

theorem reserve_goToLabel (label : String) : (s.goToLabel label).reserve = s.reserve := by
  unfold goToLabel
  split <;> rfl

theorem reserve_conditionalBranch {condition : Condition} {bs : List BranchId} {s' : Scene}
    (h : s.conditionalBranch condition bs = .ok s') : s'.reserve = s.reserve := by
  obtain ⟨met, -, h⟩ := Guarded.bind_eq_ok.mp h
  split at h
  · cases h
    exact s.reserve_enterBranch bs 0
  · split at h
    · cases h
      exact s.reserve_enterBranch bs 1
    · cases h
      rfl

theorem reserve_call (pages : List Page) :
    ({ s with run := pages.foldl (fun r page => r.push (.root page)) s.run } : Scene).reserve =
      s.reserve := by
  refine List.foldlRecOn (motive := fun r : Instance => ({ s with run := r } : Scene).reserve =
    s.reserve) pages _ rfl fun _ h _ _ => h

theorem reserve_askNeighbours (event : EventId) :
    (s.askNeighbours event).reserve = s.reserve := by
  refine s.reserve_ask fun r hr => ?_
  obtain ⟨id, hid, rfl⟩ := List.mem_map.mp hr
  exact .inr (s.world.isOnline_of_mem (List.mem_filter.mp hid).1)

theorem reserve_startCommonEvent {event : EventId} {all overworld : Bool} {s' : Scene}
    (h : s.startCommonEvent event all overworld = .ok s') : s'.reserve = s.reserve := by
  unfold startCommonEvent at h
  split at h
  · cases h
    rfl
  · obtain ⟨pages, -, h⟩ := Guarded.bind_eq_ok.mp h
    dsimp only at h
    split at h
    · cases h
      exact (reserve_askNeighbours _ event).trans (s.reserve_call pages)
    · cases h
      exact s.reserve_call pages

/-! ### Characters -/

theorem reserve_dieIfExhausted (vital : Vital) :
    (s.dieIfExhausted vital).reserve = s.reserve := by
  unfold dieIfExhausted
  split
  · rw [reserve_announce]
    rfl
  · rfl

theorem reserve_restoreVital {vital : Vital} {amount : Int64} {s' : Scene}
    (h : s.restoreVital vital amount = .ok s') : s'.reserve = s.reserve := by
  unfold restoreVital at h
  split at h
  · obtain ⟨p, hp, h⟩ := Guarded.bind_eq_ok.mp h
    cases h
    rw [reserve_announce, s.reserve_withPlayer (Player.walker_addVital hp)]
  · split at h
    · obtain ⟨p, hp, h⟩ := Guarded.bind_eq_ok.mp h
      have hwalker : p.walker = s.player.walker := Player.walker_addVital hp
      cases h
      rw [reserve_announce, reserve_dieIfExhausted]
      exact s.reserve_withPlayer hwalker
    · cases h
      rw [reserve_announce]
      rfl

theorem reserve_raiseLevel (resets : Bool) : (s.raiseLevel resets).reserve = s.reserve := by
  unfold raiseLevel
  dsimp only
  rw [reserve_announce, reserve_trigger]
  rfl

theorem reserve_levelUp : s.levelUp.reserve = s.reserve := by
  unfold levelUp
  split
  · rfl
  · exact s.reserve_raiseLevel true

theorem reserve_gainLevels (count : Nat) : (gainLevels count s).reserve = s.reserve := by
  induction count generalizing s with
  | zero => rfl
  | succ count ih =>
    unfold gainLevels
    split
    · split
      · rfl
      · rw [ih, reserve_raiseLevel]
        rfl
    · rfl

theorem reserve_loseLevels (count : Nat) : (loseLevels count s).reserve = s.reserve := by
  induction count generalizing s with
  | zero => rfl
  | succ count ih =>
    unfold loseLevels
    split
    · rw [ih, reserve_announce]
      rfl
    · rfl

theorem reserve_giveExperience (quantity : Quantity) (losing : Bool) :
    (s.giveExperience quantity losing).reserve = s.reserve := by
  unfold giveExperience
  dsimp only
  rw [reserve_announce]
  split
  · rw [reserve_gainLevels]
    rfl
  · split
    · refine (reserve_withPlayer _ rfl).trans ?_
      split
      · rw [reserve_loseLevels]
        rfl
      · rfl
    · rfl

theorem reserve_setClass (profession : ClassId) : (s.setClass profession).reserve = s.reserve := by
  unfold setClass
  dsimp only
  rw [reserve_announce]
  split <;> rfl

theorem reserve_changeSpells (spell : SpellId) (add bound : Bool) (bs : List BranchId) :
    (s.changeSpells spell add bound bs).reserve = s.reserve := by
  unfold changeSpells branchOnSpells
  dsimp only
  split
  · rw [reserve_branchOn, reserve_announce]
    rfl
  · exact s.reserve_branchOn false bs

theorem reserve_castSpellOn (spell : SpellId) (self party guild : Bool) :
    (s.castSpellOn spell self party guild).reserve = s.reserve := by
  unfold castSpellOn
  split <;> rfl

theorem reserve_changeLooks {change : Player → Player}
    (h : (change s.player).walker = s.player.walker) :
    (s.changeLooks change).reserve = s.reserve :=
  (reserve_announce _ _).trans (s.reserve_withPlayer h)

theorem reserve_changeNameColor (color : Color) (remove override : Bool) :
    (s.changeNameColor color remove override).reserve = s.reserve := by
  unfold changeNameColor
  split
  · rfl
  · exact s.reserve_changeLooks rfl

theorem reserve_changeLabel (value : String) (position : LabelPosition) (color : Color)
    (matches' : Bool) : (s.changeLabel value position color matches').reserve = s.reserve := by
  refine s.reserve_changeLooks ?_
  cases position <;> rfl

theorem reserve_setAccess (access : Access) : (s.setAccess access).reserve = s.reserve := by
  unfold setAccess
  split
  · dsimp only
    rw [reserve_chat, reserve_announce]
    rfl
  · rfl

/-! ### Items -/

theorem reserve_putItems (d : ItemDescriptor) (quantity : Int64) :
    (s.putItems d quantity).reserve = s.reserve := by
  unfold putItems
  split <;> rfl

theorem reserve_dropItems (item : ItemId) (quantity : Int64) :
    (s.dropItems item quantity).reserve = s.reserve := rfl

theorem reserve_giveItems (d : ItemDescriptor) (quantity : Int64) (handling : ItemHandling) :
    (s.giveItems d quantity handling).2.reserve = s.reserve := by
  unfold giveItems
  cases handling with
  | normal =>
    dsimp only
    split
    · rfl
    · exact s.reserve_putItems d quantity
  | overflow =>
    dsimp only
    split
    · rw [reserve_dropItems, reserve_putItems]
    · rw [reserve_putItems]
  | upTo => exact s.reserve_putItems d _

theorem reserve_takeItems (item : ItemId) (quantity : Int64) (handling : ItemHandling) :
    (s.takeItems item quantity handling).2.reserve = s.reserve := by
  have hremove (n : Int64) :
      (s.withPlayer (s.player.removeItems item n).2).reserve = s.reserve :=
    s.reserve_withPlayer (s.player.walker_removeItems item n)
  unfold takeItems
  cases handling with
  | upTo => exact hremove _
  | normal | overflow =>
    dsimp only
    split
    · rfl
    · exact hremove quantity

theorem reserve_changeItems (item : ItemId) (add : Bool) (quantity : Quantity)
    (handling : ItemHandling) (bs : List BranchId) :
    (s.changeItems item add quantity handling bs).reserve = s.reserve := by
  unfold changeItems
  split
  · exact s.reserve_branchOn true bs
  · exact s.reserve_branchOn false bs
  · dsimp only
    rw [reserve_branchOn]
    split
    · split
      · rw [reserve_announce, reserve_giveItems]
      · exact s.reserve_giveItems ..
    · split
      · rw [reserve_announce, reserve_takeItems]
      · exact s.reserve_takeItems ..

theorem reserve_unequip (slot : UInt64) : (s.unequip slot).reserve = s.reserve := by
  unfold unequip
  split
  · exact reserve_announce _ _
  · rfl

theorem reserve_equip (d : ItemDescriptor) (slot : UInt64) (cooldown : Bool) :
    (s.equip d slot cooldown).reserve = s.reserve := by
  unfold equip
  dsimp only
  rw [reserve_announce]
  split <;> rfl

theorem reserve_equipItem (item : ItemId) (unequips bySlot : Bool) (slot : UInt64)
    (cooldown : Bool) : (s.equipItem item unequips bySlot slot cooldown).reserve = s.reserve := by
  unfold equipItem
  split
  · split
    · exact s.reserve_unequip _
    · rfl
  · split
    · split
      · split
        · rfl
        · exact s.reserve_equip _ _ cooldown
      · rfl
    · rfl

/-! ### Quests -/

@[simp] theorem reserve_saveProgress (quest : QuestId) (progress : QuestProgress) :
    (s.saveProgress quest progress).reserve = s.reserve := reserve_announce _ _

theorem reserve_beginQuest {quest : QuestId} {r : Bool × Scene} (h : s.beginQuest quest = .ok r) :
    r.2.reserve = s.reserve := by
  obtain ⟨startable, -, h⟩ := Guarded.bind_eq_ok.mp h
  split at h
  · split at h
    · split at h
      · cases h
        exact (reserve_startEvent? _ _).trans (s.reserve_saveProgress _ _)
      · cases h
        rfl
    · cases h
      rfl
  · cases h
    rfl

theorem reserve_startQuest {quest : QuestId} {offer : Bool} {bs : List BranchId} {s' : Scene}
    (h : s.startQuest quest offer bs = .ok s') : s'.reserve = s.reserve := by
  obtain ⟨offered, -, h⟩ := Guarded.bind_eq_ok.mp h
  split at h
  · cases h
    rw [reserve_suspend, s.reserve_tell rfl]
  · obtain ⟨r, hr, h⟩ := Guarded.bind_eq_ok.mp h
    cases h
    rw [reserve_branchOn, s.reserve_beginQuest hr]

theorem reserve_finishQuest (quest : QuestId) (skip : Bool) :
    (s.finishQuest quest skip).reserve = s.reserve := by
  unfold finishQuest
  dsimp only
  split
  · exact s.reserve_saveProgress ..
  · rw [reserve_startEvent?, reserve_saveProgress]

theorem reserve_completeQuestTask (quest : QuestId) (task : TaskId) :
    (s.completeQuestTask quest task).reserve = s.reserve := by
  unfold completeQuestTask
  split
  · rfl
  · split
    · split
      · dsimp only
        split
        · rw [reserve_saveProgress, reserve_startEvent?]
        · rw [reserve_finishQuest, reserve_startEvent?]
      · rfl
    · rfl

theorem reserve_endQuest (quest : QuestId) (skip : Bool) :
    (s.endQuest quest skip).reserve = s.reserve := by
  unfold endQuest
  split
  · exact s.reserve_finishQuest quest skip
  · rfl

/-! ### Guilds and names -/

theorem reserve_changeName (source : VariableId) (bs : List BranchId) :
    (s.changeName source bs).reserve = s.reserve := by
  unfold changeName
  dsimp only
  split
  · rw [reserve_branchOn, reserve_announce]
    exact s.reserve_withPlayer rfl
  · exact s.reserve_branchOn false bs

theorem reserve_createGuild (source : VariableId) (bs : List BranchId) :
    (s.createGuild source bs).reserve = s.reserve := by
  unfold createGuild foundGuild
  dsimp only
  split
  · rw [reserve_branchOn, reserve_chat]
  · rw [reserve_branchOn, reserve_announce, reserve_chat]
    rfl

theorem reserve_leaveGuild (w : World) (member : PlayerId) :
    (leaveGuild w member).reserve = w.reserve ∧
      ∀ id, (leaveGuild w member).askedForAbsent id = w.askedForAbsent id := by
  unfold leaveGuild
  split
  · next p hp => exact ⟨World.reserve_putPlayer hp rfl, fun _ => rfl⟩
  · exact ⟨rfl, fun _ => rfl⟩

theorem reserve_dissolveGuild (id : GuildId) (members : List PlayerId) :
    (s.dissolveGuild id members).reserve = s.reserve := by
  let told := s.send (.guild id) (.chatMessage "Your guild has been disbanded." .red .guild none)
  let left := (members.filter fun member => member != s.player.id).foldl leaveGuild
    (told.world.removeGuild id)
  have hleft : left.reserve = told.world.reserve ∧
      left.askedForAbsent s.player.id = told.world.askedForAbsent s.player.id :=
    List.foldlRecOn (motive := fun w : World => w.reserve = told.world.reserve ∧
      w.askedForAbsent s.player.id = told.world.askedForAbsent s.player.id) _ _ ⟨rfl, rfl⟩
      fun w hw member _ =>
        have ⟨hreserve, hasked⟩ := reserve_leaveGuild w member
        ⟨hreserve.trans hw.1, (hasked _).trans hw.2⟩
  unfold dissolveGuild
  dsimp only
  rw [reserve_announce]
  exact (told.reserve_withWorld hleft.1 hleft.2).trans (s.reserve_send _ rfl)

theorem reserve_disbandGuild (bs : List BranchId) :
    (s.disbandGuild bs).reserve = s.reserve := by
  unfold disbandGuild refuseDisbanding
  split
  · exact s.reserve_branchOn false bs
  · split
    · split
      · rw [reserve_branchOn, reserve_dissolveGuild]
      · rw [reserve_branchOn, reserve_chat]
    · rw [reserve_branchOn, reserve_chat]

theorem reserve_setGuildBankSlots (slots : VariableRef) :
    (s.setGuildBankSlots slots).reserve = s.reserve := by
  unfold setGuildBankSlots
  dsimp only
  split
  · split <;> rfl
  · rfl

/-! ### Places -/

theorem reserve_warp (map : MapId) (x y : Int32) (direction : WarpDirection)
    (instanceType : Option MapInstanceType) :
    (s.warp map x y direction instanceType).reserve = s.reserve := by
  cases instanceType <;> exact reserve_tell _ rfl

theorem reserve_waitForRoute (target : EventId) :
    (s.waitForRoute target).reserve = s.reserve := by
  unfold waitForRoute
  split
  · exact s.reserve_suspend _
  · rfl

theorem reserve_spawnNpc (npc : NpcId) (place : SpawnTarget) :
    (s.spawnNpc npc place).reserve = s.reserve := by
  unfold spawnNpc
  split
  · split <;> rfl
  · rfl

theorem reserve_playAnimation (animation : AnimationId) (place : SpawnTarget) (only : Bool) :
    (s.playAnimation animation place only).reserve = s.reserve := by
  unfold playAnimation
  split
  · exact s.reserve_send _ rfl
  · rfl

/-! ### Clients -/

theorem reserve_inputVariable (title text : String) (target : VariableRef) (bs : List BranchId) :
    (s.inputVariable title text target bs).reserve = s.reserve := by
  unfold inputVariable
  split
  · rw [reserve_suspend, s.reserve_tell rfl]
  · exact s.reserve_enterBranch bs 1

theorem reserve_addChatboxText (text : String) (color : Color) (channel : ChatChannel)
    (bubble nearby : Bool) :
    (s.addChatboxText text color channel bubble nearby).reserve = s.reserve := by
  unfold addChatboxText
  dsimp only
  split
  · split
    · rw [reserve_send _ _ rfl, s.reserve_send _ rfl]
    · exact s.reserve_send _ rfl
  · split
    · exact s.reserve_send _ rfl
    · rfl

theorem reserve_showPicture (file : String) (size : UInt32) (clickable : Bool) (time : UInt64)
    (waits : Bool) : (s.showPicture file size clickable time waits).reserve = s.reserve := by
  unfold showPicture
  dsimp only
  split
  · rw [reserve_suspend, s.reserve_tell rfl]
  · exact s.reserve_tell rfl

theorem reserve_screenFade (fade : FadeType) (waits : Bool) (duration : UInt64) :
    (s.screenFade fade waits duration).reserve = s.reserve := by
  unfold screenFade
  split
  · dsimp only
    split
    · rw [reserve_suspend]
      exact reserve_tell _ rfl
    · exact reserve_tell _ rfl
  · rfl

theorem reserve_openSession (kind : SessionKind) (name : String) (guild : Bool) :
    (s.openSession kind name guild).reserve = s.reserve :=
  (reserve_suspend _ _).trans (reserve_tell _ rfl)

theorem reserve_openShop (shop : ShopId) : (s.openShop shop).reserve = s.reserve := by
  unfold openShop
  split
  · exact s.reserve_openSession ..
  · rfl

theorem reserve_openCraftingTable (table : CraftingTableId) :
    (s.openCraftingTable table).reserve = s.reserve := by
  unfold openCraftingTable
  split
  · exact s.reserve_openSession ..
  · rfl

theorem reserve_openGuildBank : s.openGuildBank.reserve = s.reserve := by
  unfold openGuildBank
  split
  · exact s.reserve_openSession ..
  · rfl

end Scene

/-- Whether a command touches the reserve of a scene. -/
def Command.touchesReserve : Command → Bool
  | holdPlayer => true
  | releasePlayer => true
  | setSelfSwitch .. => true
  | setMoveRoute _ => true
  | setVariable target _ syncs => syncs && target.scope == .player
  | _ => false

namespace Scene

variable (s : Scene)

/-! ## All commands and responses -/

/-- All commands but a few leave the reserve as it is. -/
theorem reserve_execute {c : Command} {s' : Scene} (hc : c.touchesReserve = false)
    (h : s.execute c = .ok s') : s'.reserve = s.reserve := by
  cases c with
  | holdPlayer | releasePlayer | setSelfSwitch | setMoveRoute => cases hc
  | setVariable target m syncs =>
    cases h
    refine s.reserve_setVariable_of_not_shared m ?_
    cases syncs with
    | false => exact .inl rfl
    | true => exact .inr (by simpa [Command.touchesReserve] using hc)
  | conditionalBranch => exact s.reserve_conditionalBranch h
  | startCommonEvent => exact s.reserve_startCommonEvent h
  | restoreHp | restoreMp => exact s.reserve_restoreVital h
  | startQuest => exact s.reserve_startQuest h
  | showText | showOptions =>
    cases h
    exact (reserve_suspend _ _).trans (s.reserve_tell rfl)
  | inputVariable => cases h; exact s.reserve_inputVariable ..
  | addChatboxText => cases h; exact s.reserve_addChatboxText ..
  | goToLabel => cases h; exact s.reserve_goToLabel _
  | levelUp => cases h; exact s.reserve_levelUp
  | giveExperience => cases h; exact s.reserve_giveExperience ..
  | changeLevel | resetStatPointAllocations | hidePlayer | showPlayer =>
    cases h
    exact (reserve_announce _ _).trans (s.reserve_withPlayer rfl)
  | changeSprite | changeFace | changeGender | changePlayerColor =>
    cases h
    exact s.reserve_changeLooks rfl
  | changePlayerLabel => cases h; exact s.reserve_changeLabel ..
  | setClass => cases h; exact s.reserve_setClass _
  | changeSpells => cases h; exact s.reserve_changeSpells ..
  | castSpellOn => cases h; exact s.reserve_castSpellOn ..
  | changeNameColor => cases h; exact s.reserve_changeNameColor ..
  | setAccess => cases h; exact s.reserve_setAccess _
  | changeItems => cases h; exact s.reserve_changeItems ..
  | equipItem => cases h; exact s.reserve_equipItem ..
  | completeQuestTask => cases h; exact s.reserve_completeQuestTask ..
  | endQuest => cases h; exact s.reserve_endQuest ..
  | changeName => cases h; exact s.reserve_changeName ..
  | createGuild => cases h; exact s.reserve_createGuild ..
  | disbandGuild => cases h; exact s.reserve_disbandGuild _
  | setGuildBankSlots => cases h; exact s.reserve_setGuildBankSlots _
  | warp => cases h; exact s.reserve_warp ..
  | waitForRoute => cases h; exact s.reserve_waitForRoute _
  | spawnNpc => cases h; exact s.reserve_spawnNpc ..
  | playAnimation => cases h; exact s.reserve_playAnimation ..
  | playBgm | fadeoutBgm | playSound | stopSounds | hidePicture =>
    cases h
    exact s.reserve_tell rfl
  | showPicture => cases h; exact s.reserve_showPicture ..
  | screenFade => cases h; exact s.reserve_screenFade ..
  | wait => cases h; exact s.reserve_suspend _
  | openBank => cases h; exact s.reserve_openSession ..
  | openShop => cases h; exact s.reserve_openShop _
  | openCraftingTable => cases h; exact s.reserve_openCraftingTable _
  | openGuildBank => cases h; exact s.reserve_openGuildBank
  | exitEventProcessing | label | despawnNpcs | unsupported => cases h; rfl

/-! ### The commands that touch it -/

theorem reserve_holdPlayer : s.holdPlayer.reserve =
    { s.reserve with
      world.holds := s.reserve.world.holds ++
        [(.player s.player.id, .holdPlayer s.run.event s.run.map)]
      holding := true } :=
  congrArg (fun holds => ({ s.reserve with
    world.holds := holds, holding := true } : Scene.Reserve)) (List.filter_append ..)

theorem reserve_releasePlayer : s.releasePlayer.reserve =
    { s.reserve with
      world.holds := s.reserve.world.holds ++ [(.player s.player.id, .releasePlayer s.run.event)]
      holding := false } :=
  congrArg (fun holds => ({ s.reserve with
    world.holds := holds, holding := false } : Scene.Reserve)) (List.filter_append ..)

/-- The change of a self switch that the other clones of an execution have to see, if it is one. -/
def switchUpdate? (s : Scene) (switch : UInt64) (value : Bool) : Option SwitchUpdate :=
  if s.run.isGlobal then some ⟨s.run.event, s.run.map, switch, value⟩ else none

theorem reserve_setSelfSwitch (switch : UInt64) (value : Bool) :
    (s.setSelfSwitch switch value).reserve =
      { s.reserve with
        world.switchUpdates :=
          s.reserve.world.switchUpdates ++ (s.switchUpdate? switch value).toList
        selfSwitches := s.run.selfSwitches.setIfInBounds switch.toNat value } := by
  unfold setSelfSwitch switchUpdate?
  dsimp only
  cases hglobal : s.run.isGlobal with
  | true =>
    rw [if_pos (show (s.run.setSelfSwitch switch.toNat value).isGlobal = true from hglobal)]
    rfl
  | false =>
    rw [if_neg (show ¬ (s.run.setSelfSwitch switch.toNat value).isGlobal = true by
      rw [show (s.run.setSelfSwitch switch.toNat value).isGlobal = false from hglobal]
      exact Bool.false_ne_true)]
    rw [if_neg Bool.false_ne_true, Option.toList_none, List.append_nil]
    rfl

theorem reserve_setMoveRoute (route : MoveRoute) : (s.setMoveRoute route).reserve =
    if route.target.isNil then { s.reserve with walker.route := some route }
    else { s.reserve with
      world.mapEvents := s.reserve.world.mapEvents.modify route.target fun e =>
        { e with moveRoute := some route } } := by
  unfold setMoveRoute
  split
  · exact reserve_tell _ rfl
  · rfl

/-- What a command can make of the reserve. -/
inductive ReserveCase (s : Scene) : Command → Scene.Reserve → Prop
  | untouched {c : Command} (untouched : c.touchesReserve = false) : ReserveCase s c s.reserve
  | hold : ReserveCase s .holdPlayer
      { s.reserve with
        world.holds := s.reserve.world.holds ++
          [(.player s.player.id, .holdPlayer s.run.event s.run.map)]
        holding := true }
  | release : ReserveCase s .releasePlayer
      { s.reserve with
        world.holds := s.reserve.world.holds ++ [(.player s.player.id, .releasePlayer s.run.event)]
        holding := false }
  | selfSwitch (switch : UInt64) (value : Bool) : ReserveCase s (.setSelfSwitch switch value)
      { s.reserve with
        world.switchUpdates :=
          s.reserve.world.switchUpdates ++ (s.switchUpdate? switch value).toList
        selfSwitches := s.run.selfSwitches.setIfInBounds switch.toNat value }
  | walk {route : MoveRoute} (own : route.target.isNil = true) : ReserveCase s (.setMoveRoute route)
      { s.reserve with walker.route := some route }
  | route {route : MoveRoute} (other : route.target.isNil = false) :
      ReserveCase s (.setMoveRoute route)
        { s.reserve with
          world.mapEvents := s.reserve.world.mapEvents.modify route.target fun e =>
            { e with moveRoute := some route } }
  | share {target : VariableRef} {m : VariableMod} {asked : List EventRequest}
      (scope : target.scope = .player)
      (party : ∀ r ∈ asked, r ∈ s.reserve.asked ∨ r.player ∈ s.player.party) :
      ReserveCase s (.setVariable target m true) { s.reserve with asked := asked }

/-- A command makes one of the cases of the reserve. -/
theorem reserve_cases {c : Command} {s' : Scene} (h : s.execute c = .ok s') :
    s.ReserveCase c s'.reserve := by
  cases htouches : c.touchesReserve with
  | false =>
    rw [s.reserve_execute htouches h]
    exact .untouched htouches
  | true =>
    cases c with
    | holdPlayer =>
      cases h
      rw [reserve_holdPlayer]
      exact .hold
    | releasePlayer =>
      cases h
      rw [reserve_releasePlayer]
      exact .release
    | setSelfSwitch switch value =>
      cases h
      rw [reserve_setSelfSwitch]
      exact .selfSwitch switch value
    | setMoveRoute route =>
      cases h
      rw [reserve_setMoveRoute]
      split
      · next hnil => exact .walk hnil
      · next hnil => exact .route (Bool.eq_false_iff.mpr hnil)
    | setVariable target m syncs =>
      obtain ⟨rfl, hscope⟩ : syncs = true ∧ target.scope = .player := by
        simpa [Command.touchesReserve] using htouches
      cases h
      rw [reserve_setVariable]
      exact .share hscope fun r hr => s.toSetting.mem_asked_modify hr
    | _ => cases htouches

/-- A command leaves the player who it is. -/
theorem id_execute {c : Command} {s' : Scene} (h : s.execute c = .ok s') :
    s'.player.id = s.player.id := by
  have hcase := s.reserve_cases h
  show s'.reserve.walker.id = s.player.id
  generalize s'.reserve = after at hcase ⊢
  cases hcase <;> rfl

/-- A command asks for somebody absent only by sharing a variable with the party. -/
theorem mem_asked_execute {c : Command} {s' : Scene} (h : s.execute c = .ok s') {r : EventRequest}
    (hr : r ∈ s'.toSetting.asked) :
    r ∈ s.toSetting.asked ∨ r.player ∈ s.player.party ∧
      ∃ target m, target.scope = .player ∧ c = .setVariable target m true := by
  have hcase := s.reserve_cases h
  change r ∈ s'.reserve.asked at hr
  generalize s'.reserve = after at hcase hr
  cases hcase with
  | share scope party =>
    exact (party r hr).imp_right fun hparty => ⟨hparty, _, _, scope, rfl⟩
  | _ => exact .inl hr

/-- Responses leave the reserve as it is. -/
theorem reserve_resume {asked : Suspension} {response : Response} {s' : Scene}
    (h : s.resume asked response = .ok s') : s'.reserve = s.reserve := by
  unfold resume at h
  split at h
  · cases h
    exact s.reserve_enterBranch ..
  · cases h
    unfold takeInput
    split
    · next value _ =>
      obtain ⟨hreserve, hasked⟩ := s.toSetting.reserve_setValue _ value
      rw [reserve_enterBranch]
      exact congrArg₂ (fun setting asked => ({ s.reserve with
        toReserve := setting
        asked := asked } : Scene.Reserve)) hreserve hasked
    · exact s.reserve_enterBranch ..
  · cases h
    exact s.reserve_enterBranch ..
  · split at h
    · obtain ⟨r, hr, h⟩ := Guarded.bind_eq_ok.mp h
      cases h
      exact (reserve_branchOn ..).trans (s.reserve_beginQuest hr)
    · cases h
      exact s.reserve_branchOn false _
  · cases h
    rfl

end Scene

end EventScript
