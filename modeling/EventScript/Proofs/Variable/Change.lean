import EventScript.Proofs.Table
import EventScript.Variable.Update

/-!
# What a change of a variable does

A variable is assigned the result of a modification or a value that the player entered. An
assignment either fails and leaves all but the random numbers as it was, or puts the new value in
place of the one that the player saw: with the owner of the scope, with the members of the party
who are to share it, and nowhere else. Then everyone concerned is told as often as they are
concerned, and a shared value is queued under its key.
-/

namespace EventScript

/-- Who keeps values of variables. -/
inductive Keeper where
  /-- The player that a script runs for, whose record in the world may be older. -/
  | runner
  /-- A loaded player, as recorded in the world. -/
  | player (id : PlayerId)
  | guild (id : GuildId)
  | user (id : UserId)
  | server
  deriving DecidableEq

/-- A player without the values of its variables. -/
def Player.withoutVars (p : Player) : Player := { p with vars := .empty }

/-- An account without the values of its variables. -/
def UserAccount.withoutVars (u : UserAccount) : UserAccount := { u with vars := .empty }

/-- A guild without the values of its variables. -/
def Guild.withoutVars (g : Guild) : Guild := { g with vars := .empty }

namespace World

/-- The world without the values of variables, the starts that were asked for and the changes to be
stored. -/
def withoutChanges (w : World) : World :=
  { w with
    players := w.players.map fun _ => Player.withoutVars
    users := w.users.map fun _ => UserAccount.withoutVars
    guilds := w.guilds.map fun _ => Guild.withoutVars
    serverVariables := .empty
    persistence := .empty
    requests := [] }

/-- The value that is kept for a loaded player. -/
def keptBy? (w : World) (id : PlayerId) (i : VariableId) : Option Value :=
  (w.player? id).bind fun p => p.vars.get? i

/-- Whether a player is loaded and keeps no value for a variable or another one. -/
def lacks (w : World) (i : VariableId) (value : Value) (id : PlayerId) : Bool :=
  (w.player? id).any fun p => p.vars.get? i != some value

end World

namespace Setting

variable (s : Setting)

/-- The value that a keeper has for a variable. -/
def kept? : Keeper → VariableId → Option Value
  | .runner, i => s.player.vars.get? i
  | .player id, i => s.world.keptBy? id i
  | .guild id, i => (s.world.guild? id).bind fun g => g.vars.get? i
  | .user id, i => (s.world.user? id).bind fun u => u.vars.get? i
  | .server, i => s.world.serverVariables.get? i

/-- The keeper that owns the variables of a scope, if there is one. -/
def owner? : Scope → Option Keeper
  | .player => some .runner
  | .server => some .server
  | .guild => s.player.guild.bind fun id => (s.world.guild? id).map fun _ => .guild id
  | .user => (s.world.user? s.player.user).map fun _ => .user s.player.user

/-- Whether a keeper shares a value of a player variable with the party without being its owner:
the record of another loaded member who lacks the value. -/
def follows (v : VariableRef) (value : Value) (syncsParty : Bool) : Keeper → Bool
  | .player id => v.scope == .player && syncsParty && s.player.party.contains id &&
      id != s.player.id && s.world.lacks v.id value id
  | _ => false

/-- How often a player is told of a change. -/
def timesTold (v : VariableRef) (value : Value) (syncsParty : Bool) (id : PlayerId) : Nat :=
  match v.scope with
  | .player => if id = s.player.id ∨ s.follows v value syncsParty (.player id) then 1 else 0
  | .server => if s.world.isOnline id then 1 else 0
  | .guild =>
    if s.world.isOnline id then (((s.world.guildOf? s.player).map Guild.members).getD []).count id
    else 0
  | .user =>
    if s.world.isOnline id then
      (((s.world.user? s.player.user).map UserAccount.players).getD []).count id
    else 0

/-- The record of a shared value. -/
def recordOf? (v : VariableRef) (value : Value) : Option PersistedRecord :=
  match v.scope with
  | .player => none
  | .server => some (.serverVariable v.id value)
  | .guild => (s.world.guildOf? s.player).map fun g => .guildVariable g.id v.id value
  | .user => some (.userVariable s.player.user v.id value)

/-- What is neither a value of a variable nor told, queued or drawn along with one. -/
def withoutChanges : Setting :=
  ⟨s.world.withoutChanges, s.player.withoutVars⟩

/-- The setting with another supply of random numbers. -/
def withSupply (supply : Supply) : Setting := { s with world.supply := supply }

/-- The new value of a variable is in its place and everyone concerned knows of it. -/
structure IsChanged (s s' : Setting) (v : VariableRef) (value : Value) (syncsParty : Bool) :
    Prop where
  /-- The owner and those who share the value have it now; nothing else that is kept differs. -/
  kept : ∀ k i, s'.kept? k i =
    if i = v.id ∧ (s.owner? v.scope = some k ∨ s.follows v value syncsParty k) then some value
    else s.kept? k i
  /-- Behind the starts that were asked for before, the change is told to each player as often as
  it concerns that player, and nothing else is asked for. -/
  told : ∃ told : List PlayerId,
    s'.world.requests =
      s.world.requests ++ told.map (fun id => .trigger id (.variableChange v)) ∧
    ∀ id, told.count id = s.timesTold v value syncsParty id
  /-- The record of a shared value is queued in place of an older one of its key. -/
  queued : ∀ key, s'.world.persistence.get? key =
    ((s.recordOf? v value).filter fun r => r.key == key).or (s.world.persistence.get? key)
  /-- All else is as it was. -/
  rest : s'.withoutChanges = s.withoutChanges

end Setting

/-! ## Sharing a value with the party -/

/-- What is kept in a store of each value of a table after one of them is given a value. -/
theorem Table.bind_get?_insert {κ α : Type} [Keyed κ] [DecidableEq κ] {t : Table κ α} {k : κ}
    {a b : α} (store : α → VariableStore) {i : VariableId} {value : Value} (ha : t.get? k = some a)
    (hb : store b = (store a).insert i value) (j : κ) (i' : VariableId) :
    (((t.insert k b).get? j).bind fun a => (store a).get? i') =
      if i' = i ∧ j = k then some value else (t.get? j).bind fun a => (store a).get? i' := by
  rw [get?_insert_eq_ite]
  by_cases hj : j = k
  · subst hj
    rw [if_pos rfl, ha, Option.bind_some, Option.bind_some, hb, get?_insert_eq_ite]
    simp
  · rw [if_neg hj, if_neg fun h => hj h.2]

namespace World

variable {w : World} {i : VariableId} {value : Value} {t : Trigger}

/-- What is kept for the loaded players after one of them is given a value. -/
theorem keptBy?_putPlayer {id : PlayerId} {p : Player} (hp : w.player? id = some p)
    (j : PlayerId) (k : VariableId) :
    (w.putPlayer id { p with vars := p.vars.insert i value }).keptBy? j k =
      if k = i ∧ j = id then some value else w.keptBy? j k :=
  Table.bind_get?_insert Player.vars hp rfl j k

/-- Whoever was given a value does not lack it any more. -/
theorem lacks_putPlayer {id : PlayerId} {p : Player} (j : PlayerId) :
    (w.putPlayer id { p with vars := p.vars.insert i value }).lacks i value j =
      (w.lacks i value j && j != id) := by
  unfold lacks player? putPlayer
  rw [Table.get?_insert_eq_ite]
  by_cases hj : j = id
  · simp [hj]
  · simp [hj]

/-- A member of the party who lacks a value is given it and told; for anyone else nothing
happens. -/
theorem syncMember_cases (w : World) (i : VariableId) (value : Value) (t : Trigger)
    (member : PlayerId) :
    w.lacks i value member = false ∧ Setting.syncMember i value t w member = w ∨
    ∃ p, w.player? member = some p ∧ w.lacks i value member = true ∧
      Setting.syncMember i value t w member =
        (w.putPlayer member { p with vars := p.vars.insert i value }).request
          (.trigger member t) := by
  unfold Setting.syncMember lacks
  cases hp : w.player? member with
  | none => exact .inl ⟨rfl, rfl⟩
  | some p =>
    by_cases hvalue : p.vars.get? i = some value
    · left
      simp [hvalue]
    · right
      refine ⟨p, rfl, ?_, ?_⟩
      · simpa using hvalue
      · simp [hvalue]

/-- A value was shared with those of some players who lacked it. -/
structure IsShared (i : VariableId) (value : Value) (t : Trigger) (members : List PlayerId)
    (w w' : World) : Prop where
  kept : ∀ id k, w'.keptBy? id k =
    if k = i ∧ id ∈ members ∧ w.lacks i value id then some value else w.keptBy? id k
  told : ∃ told : List PlayerId,
    w'.requests = w.requests ++ told.map (fun id => .trigger id t) ∧
    ∀ id, told.count id = if id ∈ members ∧ w.lacks i value id then 1 else 0
  players : w'.players.map (fun _ => Player.withoutVars) = w.players.map fun _ => Player.withoutVars
  elsewhere : { w' with players := w.players, requests := w.requests } = w

/-- Sharing a value with a party, in which players may stand more than once. -/
theorem isShared_syncMembers (members : List PlayerId) (w : World) :
    IsShared i value t members w (members.foldl (Setting.syncMember i value t) w) := by
  induction members generalizing w with
  | nil =>
    refine ⟨fun id k => ?_, ⟨[], ?_, fun id => ?_⟩, rfl, rfl⟩
    · simp
    · simp
    · simp
  | cons member members ih =>
    rw [List.foldl_cons]
    rcases w.syncMember_cases i value t member with ⟨hlacks, heq⟩ | ⟨p, hp, hlacks, heq⟩
    · rw [heq]
      obtain ⟨hkept, ⟨told, hrequests, hcount⟩, hplayers, helsewhere⟩ := ih w
      have hiff (id : PlayerId) : (id ∈ member :: members ∧ w.lacks i value id = true) ↔
          id ∈ members ∧ w.lacks i value id = true := by
        refine and_congr_left fun hid => ⟨fun hmem => ?_, List.mem_cons_of_mem _⟩
        rcases List.mem_cons.mp hmem with rfl | hmem
        · rw [hlacks] at hid
          cases hid
        · exact hmem
      refine ⟨fun id k => ?_, ⟨told, hrequests, fun id => ?_⟩, hplayers, helsewhere⟩
      · simp only [hkept, hiff]
      · simp only [hcount, hiff]
    · rw [heq]
      obtain ⟨hkept, ⟨told, hrequests, hcount⟩, hplayers, helsewhere⟩ :=
        ih ((w.putPlayer member { p with vars := p.vars.insert i value }).request
          (.trigger member t))
      have hlacks' (id : PlayerId) : (((w.putPlayer member
          { p with vars := p.vars.insert i value }).request (.trigger member t)).lacks i value
            id = true) ↔ w.lacks i value id = true ∧ id ≠ member := by
        refine (iff_of_eq (congrArg (· = true) (lacks_putPlayer id))).trans ?_
        simp
      have hkept' (id : PlayerId) (k : VariableId) : ((w.putPlayer member
          { p with vars := p.vars.insert i value }).request (.trigger member t)).keptBy? id k =
            if k = i ∧ id = member then some value else w.keptBy? id k :=
        keptBy?_putPlayer hp id k
      refine ⟨fun id k => ?_, ⟨member :: told, ?_, fun id => ?_⟩,
        hplayers.trans (Table.map_insert_of_eq (fun _ => Player.withoutVars) hp rfl),
        congrArg (fun w' => { w' with players := w.players, requests := w.requests }) helsewhere⟩
      · rw [hkept, hkept']
        by_cases hid : id = member
        · subst hid
          by_cases hk : k = i
          · simp [hk, hlacks]
          · simp [hk]
        · simp [hlacks', hid]
      · rw [hrequests]
        exact List.append_assoc ..
      · rw [List.count_cons, hcount]
        by_cases hid : id = member
        · subst hid
          simp [hlacks, hlacks']
        · simp [hlacks', hid, Ne.symm hid]

end World

/-! ## Keeping a value with its owner -/

/-- How often an element stands among those that pass a test. -/
theorem count_filter_eq_ite {α : Type} [DecidableEq α] (l : List α) (p : α → Bool) (a : α) :
    (l.filter p).count a = if p a then l.count a else 0 := by
  cases hp : p a with
  | true => exact List.count_filter hp
  | false =>
    refine List.count_eq_zero.mpr fun hmem => ?_
    rw [(List.mem_filter.mp hmem).2] at hp
    cases hp

namespace Setting

variable {s stored : Setting} {v : VariableRef} {value : Value}

/-- The value that a player sees is the one that the owner keeps. -/
theorem stored?_eq (s : Setting) (v : VariableRef) :
    s.world.stored? s.player v = (s.owner? v.scope).bind fun k => s.kept? k v.id := by
  unfold World.stored? World.store? owner? World.guildOf?
  cases v.scope with
  | player | server => rfl
  | guild =>
    dsimp only
    cases s.player.guild with
    | none => rfl
    | some id =>
      rw [Option.bind_some, Option.bind_some]
      cases h : s.world.guild? id with
      | none => rfl
      | some g => simp [kept?, h]
  | user =>
    dsimp only
    cases h : s.world.user? s.player.user with
    | none => rfl
    | some u => simp [kept?, h]

/-- The owner of a scope is told without the values that are kept. -/
theorem owner?_withoutChanges (s : Setting) (scope : Scope) :
    s.withoutChanges.owner? scope = s.owner? scope := by
  cases scope with
  | player | server => rfl
  | guild =>
    refine congrArg s.player.guild.bind (funext fun id => ?_)
    refine (congrArg (Option.map _) (Table.get?_map s.world.guilds _ id)).trans ?_
    exact Option.map_map ..
  | user =>
    refine (congrArg (Option.map _) (Table.get?_map s.world.users _ s.player.user)).trans ?_
    exact Option.map_map ..

/-- A value can be kept when it has an owner. -/
theorem store?_eq_none_iff : s.store? v value = none ↔ s.owner? v.scope = none := by
  unfold store? owner?
  cases v.scope with
  | player | server => simp
  | guild => cases s.player.guild with
    | none => simp
    | some id => cases hg : s.world.guild? id <;> simp [hg]
  | user => cases s.world.user? s.player.user <;> simp

/-- A value that is kept has its owner, and nothing else differs. -/
structure IsKept (s stored : Setting) (v : VariableRef) (value : Value) : Prop where
  kept : ∀ k i, stored.kept? k i =
    if i = v.id ∧ s.owner? v.scope = some k then some value else s.kept? k i
  requests : stored.world.requests = s.world.requests
  persistence : stored.world.persistence = s.world.persistence
  rest : stored.withoutChanges = s.withoutChanges

/-- Keeping a value leaves it with its owner. -/
theorem isKept_of_store? (h : s.store? v value = some stored) : s.IsKept stored v value := by
  obtain ⟨scope, id⟩ := v
  cases scope with
  | player =>
    cases h
    refine ⟨fun k i => ?_, rfl, rfl, rfl⟩
    cases k with
    | runner =>
      refine (Table.get?_insert_eq_ite s.player.vars id i value).trans ?_
      simp [owner?, kept?]
    | _ => simp [owner?, kept?]
  | server =>
    cases h
    refine ⟨fun k i => ?_, rfl, rfl, rfl⟩
    cases k with
    | server =>
      refine (Table.get?_insert_eq_ite s.world.serverVariables id i value).trans ?_
      simp [owner?, kept?]
    | _ => simp [owner?, kept?, World.keptBy?, World.player?, World.guild?, World.user?]
  | guild =>
    obtain ⟨guild, hguild, h⟩ := Option.bind_eq_some_iff.mp h
    obtain ⟨g, hg, h⟩ := Option.bind_eq_some_iff.mp h
    cases h
    have howner : s.owner? .guild = some (.guild guild) := by simp [owner?, hguild, hg]
    refine ⟨fun k i => ?_, rfl, rfl, ?_⟩
    · rw [howner]
      cases k with
      | guild j =>
        refine (Table.bind_get?_insert Guild.vars hg rfl j i).trans ?_
        simp [kept?, World.guild?, eq_comm]
      | _ => simp [kept?, World.keptBy?, World.player?, World.user?]
    · have hguilds := Table.map_insert_of_eq (b := { g with vars := g.vars.insert id value })
        (fun _ => Guild.withoutVars) hg rfl
      exact congrArg (fun guilds => { s.withoutChanges with world.guilds := guilds }) hguilds
  | user =>
    obtain ⟨u, hu, h⟩ := Option.bind_eq_some_iff.mp h
    cases h
    have howner : s.owner? .user = some (.user s.player.user) := by simp [owner?, hu]
    refine ⟨fun k i => ?_, rfl, rfl, ?_⟩
    · rw [howner]
      cases k with
      | user j =>
        refine (Table.bind_get?_insert UserAccount.vars hu rfl j i).trans ?_
        simp [kept?, World.user?, eq_comm]
      | _ => simp [kept?, World.keptBy?, World.player?, World.guild?]
    · have husers := Table.map_insert_of_eq (b := { u with vars := u.vars.insert id value })
        (fun _ => UserAccount.withoutVars) hu rfl
      exact congrArg (fun users => { s.withoutChanges with world.users := users }) husers

/-! ## Telling of a value -/

/-- Nobody but the owner has a value of a shared scope. -/
theorem follows_of_ne (hscope : v.scope ≠ .player) (syncsParty : Bool) (k : Keeper) :
    s.follows v value syncsParty k = false := by
  cases k <;> simp [follows, hscope]

/-- A shared value is changed when its owner has it, those concerned are told and its record is
queued. -/
theorem IsKept.isChanged (h : s.IsKept stored v value) (hscope : v.scope ≠ .player)
    (syncsParty : Bool) {told : List PlayerId} {r : PersistedRecord}
    (htold : ∀ id, told.count id = s.timesTold v value syncsParty id)
    (hr : s.recordOf? v value = some r) :
    s.IsChanged ⟨(stored.world.requestAll told (.variableChange v)).persist r, stored.player⟩ v
      value syncsParty := by
  refine ⟨fun k i => ?_, ⟨told, ?_, htold⟩, fun key => ?_, h.rest⟩
  · have hkept : Setting.kept?
        ⟨(stored.world.requestAll told (.variableChange v)).persist r, stored.player⟩ k i =
          stored.kept? k i := by
      cases k <;> rfl
    rw [hkept, h.kept, follows_of_ne hscope]
    simp
  · exact congrArg (· ++ told.map fun id => EventRequest.trigger id (.variableChange v)) h.requests
  · refine (stored.world.persistence.get?_enqueue r key).trans ?_
    rw [hr, h.persistence]
    by_cases hkey : r.key = key
    · rw [if_pos hkey, Option.filter_some_pos (by simpa using hkey)]
      rfl
    · rw [if_neg hkey, Option.filter_some_neg (by simpa using hkey)]
      rfl

/-- A value of the player is changed when the player has it and is told, and so is whoever shares
it. -/
theorem isChanged_player (s : Setting) (i : VariableId) (value : Value) (syncsParty : Bool) :
    s.IsChanged
      ⟨propagate { s with player.vars := s.player.vars.insert i value } ⟨.player, i⟩ value
        syncsParty, { s.player with vars := s.player.vars.insert i value }⟩
      ⟨.player, i⟩ value syncsParty := by
  let t := Trigger.playerVariableChange i
  let members := if syncsParty then s.player.party.filter fun id => id != s.player.id else []
  have hshared : World.IsShared i value t members (s.world.request (.trigger s.player.id t))
      (propagate { s with player.vars := s.player.vars.insert i value } ⟨.player, i⟩ value
        syncsParty) := by
    cases syncsParty with
    | false => exact World.isShared_syncMembers [] _
    | true => exact World.isShared_syncMembers _ _
  have hfollows (id : PlayerId) :
      (id ∈ members ∧ (s.world.request (.trigger s.player.id t)).lacks i value id = true) ↔
        s.follows ⟨.player, i⟩ value syncsParty (.player id) = true := by
    have hlacks : (s.world.request (.trigger s.player.id t)).lacks i value id =
        s.world.lacks i value id := rfl
    rw [hlacks]
    cases syncsParty <;> simp [members, follows]
  obtain ⟨hkept, ⟨told, hrequests, hcount⟩, hplayers, helsewhere⟩ := hshared
  refine ⟨fun k j => ?_, ⟨s.player.id :: told, ?_, fun id => ?_⟩, fun key => ?_, ?_⟩
  · cases k with
    | runner =>
      refine (Table.get?_insert_eq_ite s.player.vars i j value).trans ?_
      simp [owner?, follows, kept?]
    | player id =>
      refine (hkept id j).trans ?_
      simp only [hfollows, owner?, Option.some.injEq, reduceCtorEq, false_or]
      rfl
    | guild id =>
      refine (congrArg (fun w : World => (w.guild? id).bind fun g => g.vars.get? j)
        helsewhere).trans ?_
      simp [owner?, follows, kept?, World.guild?, World.request]
    | user id =>
      refine (congrArg (fun w : World => (w.user? id).bind fun u => u.vars.get? j)
        helsewhere).trans ?_
      simp [owner?, follows, kept?, World.user?, World.request]
    | server =>
      refine (congrArg (fun w : World => w.serverVariables.get? j) helsewhere).trans ?_
      simp [owner?, follows, kept?, World.request]
  · rw [List.map_cons]
    refine hrequests.trans ?_
    exact List.append_assoc ..
  · have hself : s.follows ⟨.player, i⟩ value syncsParty (.player s.player.id) = false := by
      simp [follows]
    rw [List.count_cons, hcount, timesTold]
    simp only [hfollows]
    by_cases hid : id = s.player.id
    · subst hid
      simp [hself]
    · simp [hid, Ne.symm hid]
  · have hqueue := congrArg World.persistence helsewhere
    exact congrArg (fun q : PersistenceQueue => q.get? key) hqueue
  · have hworld := congrArg World.withoutChanges helsewhere
    exact congrArg₂ (fun w p => Setting.mk { w with players := p } s.player.withoutVars) hworld
      hplayers

/-- Once a value is kept and told of, it is changed. -/
theorem isChanged_of_store? (h : s.store? v value = some stored) (syncsParty : Bool) :
    s.IsChanged ⟨stored.propagate v value syncsParty, stored.player⟩ v value syncsParty := by
  have hkept := isKept_of_store? h
  obtain ⟨scope, id⟩ := v
  cases scope with
  | player =>
    cases h
    exact s.isChanged_player id value syncsParty
  | server =>
    cases h
    refine hkept.isChanged nofun syncsParty (fun p => ?_) rfl
    exact (Table.nodup_keys _).count.trans (if_congr Table.mem_keys_iff rfl rfl)
  | guild =>
    obtain ⟨guild, hguild, h⟩ := Option.bind_eq_some_iff.mp h
    obtain ⟨g, hg, h⟩ := Option.bind_eq_some_iff.mp h
    cases h
    have hold : s.world.guildOf? s.player = some g := by
      rw [World.guildOf?, hguild, Option.bind_some, hg]
    have hnew : World.guildOf? { s.world with
        guilds := s.world.guilds.insert guild { g with vars := g.vars.insert id value } }
          s.player = some { g with vars := g.vars.insert id value } := by
      rw [World.guildOf?, hguild, Option.bind_some]
      exact Table.get?_insert_self ..
    unfold propagate
    rw [hnew]
    refine hkept.isChanged nofun syncsParty (fun p => ?_) (by rw [recordOf?, hold]; rfl)
    rw [count_filter_eq_ite, timesTold, hold]
    rfl
  | user =>
    obtain ⟨u, hu, h⟩ := Option.bind_eq_some_iff.mp h
    cases h
    have hnew : World.user? { s.world with
        users := s.world.users.insert s.player.user { u with vars := u.vars.insert id value } }
          s.player.user = some { u with vars := u.vars.insert id value } :=
      Table.get?_insert_self ..
    unfold propagate
    rw [hnew]
    refine hkept.isChanged nofun syncsParty (fun p => ?_) rfl
    rw [count_filter_eq_ite, timesTold, hu]
    rfl

end Setting

namespace Setting

variable {s s' : Setting} {v : VariableRef} {value : Value}

/-- A value that has taken its place is the one that the player sees. -/
theorem IsChanged.stored? {syncsParty : Bool} (h : s.IsChanged s' v value syncsParty)
    (howner : s.owner? v.scope ≠ none) : s'.world.stored? s'.player v = some value := by
  obtain ⟨k, hk⟩ := Option.ne_none_iff_exists'.mp howner
  have hk' : s'.owner? v.scope = some k := by
    rw [← owner?_withoutChanges, h.rest, owner?_withoutChanges, hk]
  rw [stored?_eq, hk', Option.bind_some, h.kept, if_pos ⟨rfl, .inl hk⟩]

end Setting

/-! ## Assignments -/

/-- Two integers have no combination only by a division by zero. -/
theorem CombineOp.combine?_eq_none {op : CombineOp} {current operand : Int64}
    (h : op.combine? current operand = none) : op = .divide ∧ operand = 0 := by
  cases op with
  | divide => exact ⟨rfl, by simpa [combine?] using h⟩
  | _ => cases h

/-- The current value of a variable has the described type. -/
theorem World.dataType_current? {w : World} {p : Player} {v : VariableRef} {value : Value}
    (h : w.current? p v = some value) :
    ∃ d, w.catalog.vars.get? v = some d ∧ value.dataType = d.dataType := by
  obtain ⟨d, hd, rfl⟩ := Option.map_eq_some_iff.mp h
  refine ⟨d, hd, ?_⟩
  split
  · split
    · assumption
    · exact Value.dataType_zero _
  · exact Value.dataType_zero _

/-- A stored value of the described type is the current one. -/
theorem World.current?_of_stored? {w : World} {p : Player} {v : VariableRef} {value : Value}
    {d : VariableDescriptor} (hd : w.catalog.vars.get? v = some d)
    (htype : value.dataType = d.dataType) (h : w.stored? p v = some value) :
    w.current? p v = some value := by
  unfold current?
  rw [hd, h, Option.map_some]
  exact congrArg some (if_pos htype)

/-- A way to give a variable another value. -/
inductive Assignment where
  /-- A modification by a script, which may share a player variable with the party. -/
  | modify (running : Option Instance) (m : VariableMod) (syncsParty : Bool)
  /-- A value that the player entered. -/
  | enter (value : Value)

namespace Assignment

variable {s : Setting} {v : VariableRef} {a : Assignment}

/-- The type of variable an assignment is for. -/
def dataType : Assignment → DataType
  | modify _ m _ => m.dataType
  | enter value => value.dataType

/-- Whether a player variable is shared with the party. -/
def syncsParty : Assignment → Bool
  | modify _ _ syncs => syncs
  | enter _ => false

/-- Assign a variable. Says whether its value was changed. -/
def perform (s : Setting) (v : VariableRef) : Assignment → Bool × Setting
  | modify running m syncs => s.modify running v m syncs
  | enter value => s.setValue v value

/-- The new value in place of the current one, if the assignment has a result. -/
def result? (s : Setting) (current : Value) : Assignment → Option Value
  | modify running m _ => s.next? running m current
  | enter value => some value

/-- The setting after the random numbers of an assignment were drawn. -/
def drawn (s : Setting) : Assignment → Setting
  | modify _ m _ => s.drawn m
  | enter _ => s

/-- The variable that an assignment reads. -/
def source? : Assignment → Option VariableRef
  | modify _ (.boolean (.duplicate source)) _ => some source
  | modify _ (.integer (.combine _ source)) _ => some source
  | _ => none

/-- The number that an assignment divides by. -/
def divisor? (s : Setting) : Assignment → Option Int64
  | modify _ (.integer (.divide n)) _ => some n
  | modify _ (.integer (.combine .divide source)) _ => some (s.world.integer s.player source)
  | _ => none

/-- The text that an assignment looks for. -/
def sought? (s : Setting) : Assignment → Option String
  | modify running (.string (.replace find _)) _ =>
    some ((Perspective.mk s.world s.player running).expand find)
  | _ => none

/-- What makes an assignment fail. -/
inductive Fails (s : Setting) (v : VariableRef) (a : Assignment) : Prop
  | undescribed (hv : s.world.catalog.vars.get? v = none)
  | otherType {d : VariableDescriptor} (hd : s.world.catalog.vars.get? v = some d)
      (htype : d.dataType ≠ a.dataType)
  | ownerless (howner : s.owner? v.scope = none)
  | sourceMissing {source : VariableRef} (hsource : a.source? = some source)
      (hmissing : s.world.catalog.vars.get? source = none)
  | divisionByZero (hdivisor : a.divisor? s = some 0)
  | emptyText (hsought : a.sought? s = some "")
  | equal {value : Value} (hcurrent : s.world.current? s.player v = some value)
      (hresult : a.result? s value = some value)

/-- A value and the result of an operation on it have one type. -/
theorem dataType_result? {current value : Value} (h : a.result? s current = some value)
    (htype : current.dataType = a.dataType) : value.dataType = current.dataType := by
  cases a with
  | enter value' =>
    cases h
    exact htype.symm
  | modify running m syncs =>
    have hnext : s.next? running m current = some value := h
    unfold Setting.next? at hnext
    split at hnext
    · obtain ⟨_, -, rfl⟩ := Option.map_eq_some_iff.mp hnext
      rfl
    · obtain ⟨_, -, rfl⟩ := Option.map_eq_some_iff.mp hnext
      rfl
    · obtain ⟨_, -, rfl⟩ := Option.map_eq_some_iff.mp hnext
      rfl
    · cases hnext

/-- A variable that is not known to be described has no description. -/
private theorem get?_of_not_contains {source : VariableRef}
    (h : ¬ s.world.catalog.vars.contains source = true) :
    s.world.catalog.vars.get? source = none := Option.not_isSome_iff_eq_none.mp h

/-- A boolean operation has no result when its source has no description. -/
theorem fails_of_nextBoolean? {running : Option Instance} {op : BooleanMod} {syncs : Bool}
    (h : s.nextBoolean? op = none) : (modify running (.boolean op) syncs).Fails s v := by
  cases op with
  | set b => cases h
  | duplicate source =>
    rw [Setting.nextBoolean?] at h
    split at h
    · cases h
    · next hcontains => exact .sourceMissing rfl (get?_of_not_contains hcontains)

/-- An integer operation has no result when its source has no description or it divides by zero. -/
theorem fails_of_nextInteger? {running : Option Instance} {op : IntegerMod} {syncs : Bool}
    {current : Int64} (h : s.nextInteger? current op = none) :
    (modify running (.integer op) syncs).Fails s v := by
  cases op with
  | divide n =>
    rw [Setting.nextInteger?] at h
    exact .divisionByZero (congrArg some (CombineOp.combine?_eq_none h).2)
  | combine op source =>
    rw [Setting.nextInteger?] at h
    split at h
    · obtain ⟨rfl, hzero⟩ := CombineOp.combine?_eq_none h
      exact .divisionByZero (congrArg some hzero)
    · next hcontains => exact .sourceMissing rfl (get?_of_not_contains hcontains)
  | _ => cases h

/-- A string operation has no result when it looks for the empty text. -/
theorem fails_of_nextString? {running : Option Instance} {op : StringMod} {syncs : Bool}
    {current : String} (h : s.nextString? running current op = none) :
    (modify running (.string op) syncs).Fails s v := by
  cases op with
  | set text => cases h
  | replace find replace =>
    rw [Setting.nextString?] at h
    split at h
    · next hempty => exact .emptyText (congrArg some (by simpa using hempty))
    · cases h

/-- An assignment of the right type fails when it has no result. -/
theorem fails_of_result?_eq_none {current : Value} (htype : current.dataType = a.dataType)
    (h : a.result? s current = none) : a.Fails s v := by
  cases a with
  | enter value => cases h
  | modify running m syncs =>
    cases m with
    | boolean op => cases current with
      | boolean b => exact fails_of_nextBoolean? (Option.map_eq_none_iff.mp h)
      | _ => cases htype
    | integer op => cases current with
      | integer n => exact fails_of_nextInteger? (Option.map_eq_none_iff.mp h)
      | _ => cases htype
    | string op => cases current with
      | string text => exact fails_of_nextString? (Option.map_eq_none_iff.mp h)
      | _ => cases htype

/-- The course of an assignment: it fails, or the owner keeps a value of the right type other than
the current one and the others are told. -/
inductive Case (s : Setting) (v : VariableRef) (a : Assignment) : Bool × Setting → Prop
  | failed {s' : Setting} (hfails : a.Fails s v) (hs : s' = s ∨ s' = a.drawn s) :
      Case s v a (false, s')
  | changed {old value : Value} {stored : Setting}
      (hold : s.world.current? s.player v = some old) (htype : old.dataType = a.dataType)
      (hresult : a.result? s old = some value) (hne : old ≠ value)
      (hstored : (a.drawn s).store? v value = some stored) :
      Case s v a (true, ⟨stored.propagate v value a.syncsParty, stored.player⟩)

/-- Drawing random numbers changes nothing but their supply. -/
theorem drawn_eq (s : Setting) (a : Assignment) :
    a.drawn s = s.withSupply (a.drawn s).world.supply := by
  cases a with
  | enter value => rfl
  | modify running m syncs =>
    change s.drawn m = s.withSupply (s.drawn m).world.supply
    unfold Setting.drawn
    split <;> rfl

/-- Assignments differ in their results only. -/
theorem perform_eq (s : Setting) (v : VariableRef) (a : Assignment) :
    a.perform s v = match s.world.current? s.player v with
      | some current =>
        if current.dataType = a.dataType then
          match a.result? s current with
          | some value => (a.drawn s).commit v current value a.syncsParty
          | none => (false, s)
        else (false, s)
      | none => (false, s) := by
  cases a <;> rfl

/-- Every assignment takes one of the two courses. -/
theorem perform_cases (s : Setting) (v : VariableRef) (a : Assignment) :
    Case s v a (a.perform s v) := by
  rw [perform_eq]
  split
  · next old hold =>
    split
    · next htype =>
      split
      · next value hresult =>
        unfold Setting.commit
        split
        · next heq =>
          subst heq
          exact .failed (.equal hold hresult) (.inr rfl)
        · next hne =>
          split
          · next stored hstored => exact .changed hold htype hresult hne hstored
          · next hstored =>
            rw [Setting.store?_eq_none_iff, drawn_eq] at hstored
            exact .failed (.ownerless hstored) (.inr rfl)
      · next hresult => exact .failed (fails_of_result?_eq_none htype hresult) (.inl rfl)
    · next htype =>
      obtain ⟨d, hd, hvalue⟩ := World.dataType_current? hold
      exact .failed (.otherType hd (hvalue ▸ htype)) (.inl rfl)
  · next hnone => exact .failed (.undescribed (Option.map_eq_none_iff.mp hnone)) (.inl rfl)

/-- What an assignment of a variable comes to. -/
structure IsCarriedOut (s : Setting) (v : VariableRef) (a : Assignment) (r : Bool × Setting) :
    Prop where
  /-- It says whether the stored value is another one for the player. -/
  stored : r.1 = true ↔ r.2.world.stored? r.2.player v ≠ s.world.stored? s.player v
  /-- It says whether the current value is another one for the player. -/
  current : r.1 = true ↔ r.2.world.current? r.2.player v ≠ s.world.current? s.player v
  /-- It says no exactly when it fails. -/
  fails : r.1 = false ↔ a.Fails s v
  /-- When it says no, all is as it was, apart from random numbers. -/
  unchanged : r.1 = false → r.2 = s.withSupply r.2.world.supply
  /-- When it says yes, the result has taken the place of the current value. -/
  changed : r.1 = true → ∃ old value, s.world.current? s.player v = some old ∧
    a.result? s old = some value ∧
    (s.withSupply r.2.world.supply).IsChanged r.2 v value a.syncsParty
  /-- Random numbers are drawn by the assignment or not at all. -/
  supply : r.2.world.supply = s.world.supply ∨ r.2.world.supply = (a.drawn s).world.supply

/-- Nothing comes of a variable without description. -/
theorem result?_of_sourceMissing {source : VariableRef} {current : Value}
    (hsource : a.source? = some source) (hmissing : s.world.catalog.vars.get? source = none) :
    a.result? s current = none := by
  unfold source? at hsource
  split at hsource
  · cases hsource
    cases current <;>
      simp [result?, Setting.next?, Setting.nextBoolean?, Table.contains, hmissing]
  · cases hsource
    cases current <;>
      simp [result?, Setting.next?, Setting.nextInteger?, Table.contains, hmissing]
  · cases hsource

/-- Nothing comes of a division by zero. -/
theorem result?_of_divisionByZero {current : Value} (hdivisor : a.divisor? s = some 0) :
    a.result? s current = none := by
  unfold divisor? at hdivisor
  split at hdivisor
  · cases hdivisor
    cases current <;> simp [result?, Setting.next?, Setting.nextInteger?, CombineOp.combine?]
  · have hzero := Option.some.inj hdivisor
    cases current <;>
      simp [result?, Setting.next?, Setting.nextInteger?, CombineOp.combine?, hzero]
  · cases hdivisor

/-- Nothing comes of looking for the empty text. -/
theorem result?_of_emptyText {current : Value} (hsought : a.sought? s = some "") :
    a.result? s current = none := by
  unfold sought? at hsought
  split at hsought
  · have hempty := Option.some.inj hsought
    cases current <;> simp [result?, Setting.next?, Setting.nextString?, hempty]
  · cases hsought

/-- What fails does not come to a change. -/
theorem Fails.not_changed {old value : Value} {stored : Setting} (h : a.Fails s v)
    (hold : s.world.current? s.player v = some old) (htype : old.dataType = a.dataType)
    (hresult : a.result? s old = some value) (hne : old ≠ value)
    (hstored : (a.drawn s).store? v value = some stored) : False := by
  obtain ⟨d, hd, holdtype⟩ := World.dataType_current? hold
  cases h with
  | undescribed hv =>
    rw [hv] at hd
    cases hd
  | otherType hd' htype' =>
    rw [hd] at hd'
    cases hd'
    exact htype' (holdtype.symm.trans htype)
  | ownerless howner =>
    have hnone : (a.drawn s).store? v value = none := by
      rw [Setting.store?_eq_none_iff, drawn_eq]
      exact howner
    rw [hnone] at hstored
    cases hstored
  | sourceMissing hsource hmissing =>
    rw [result?_of_sourceMissing hsource hmissing] at hresult
    cases hresult
  | divisionByZero hdivisor =>
    rw [result?_of_divisionByZero hdivisor] at hresult
    cases hresult
  | emptyText hsought =>
    rw [result?_of_emptyText hsought] at hresult
    cases hresult
  | equal hcurrent hsame =>
    rw [hold] at hcurrent
    cases hcurrent
    rw [hresult] at hsame
    exact hne (Option.some.inj hsame).symm

/-- Every assignment is carried out. -/
theorem isCarriedOut_perform (s : Setting) (v : VariableRef) (a : Assignment) :
    a.IsCarriedOut s v (a.perform s v) := by
  have hcase := perform_cases s v a
  generalize a.perform s v = r at hcase
  cases hcase with
  | @failed s' hfails hs =>
    have hsame : s' = s.withSupply s'.world.supply := by
      rcases hs with rfl | rfl
      · rfl
      · exact drawn_eq s a
    refine ⟨⟨nofun, fun hne => absurd ?_ hne⟩, ⟨nofun, fun hne => absurd ?_ hne⟩,
      ⟨fun _ => hfails, fun _ => rfl⟩, fun _ => hsame, nofun, ?_⟩
    · rw [hsame]
      rfl
    · rw [hsame]
      rfl
    · exact hs.imp (congrArg fun s : Setting => s.world.supply)
        (congrArg fun s : Setting => s.world.supply)
  | @changed old value stored hold htype hresult hne hstored =>
    have hchanged := Setting.isChanged_of_store? hstored a.syncsParty
    have hsupply := congrArg (fun s : Setting => s.world.supply) hchanged.rest
    have hcatalog : (stored.propagate v value a.syncsParty).catalog = s.world.catalog := by
      have hdrawn := congrArg (fun s : Setting => s.world.catalog) (drawn_eq s a)
      exact (congrArg (fun s : Setting => s.world.catalog) hchanged.rest).trans hdrawn
    have howner : (a.drawn s).owner? v.scope ≠ none := by
      rw [← Setting.store?_eq_none_iff.ne, hstored]
      exact Option.some_ne_none _
    obtain ⟨d, hd, holdtype⟩ := World.dataType_current? hold
    have hvaluetype := (dataType_result? hresult htype).trans holdtype
    have hseen := hchanged.stored? howner
    have hcurrent := World.current?_of_stored? (hcatalog ▸ hd) hvaluetype hseen
    have hdiffer : s.world.current? s.player v ≠ some value := by
      rw [hold]
      exact fun heq => hne (Option.some.inj heq)
    refine ⟨⟨fun _ heq => hdiffer ?_, fun _ => rfl⟩, ⟨fun _ heq => hdiffer ?_, fun _ => rfl⟩,
      ⟨nofun, fun hfails => (hfails.not_changed hold htype hresult hne hstored).elim⟩, nofun,
      fun _ => ⟨old, value, hold, hresult, ?_⟩, .inr hsupply⟩
    · exact World.current?_of_stored? hd hvaluetype (heq.symm.trans hseen)
    · exact heq.symm.trans hcurrent
    · rw [drawn_eq] at hchanged
      exact hsupply ▸ hchanged

/-- An assignment changes the variable or draws random numbers at most. -/
theorem perform_changes (s : Setting) (v : VariableRef) (a : Assignment) :
    (a.perform s v).2 = s.withSupply (a.perform s v).2.world.supply ∨
      ∃ value, (s.withSupply (a.perform s v).2.world.supply).IsChanged (a.perform s v).2 v value
        a.syncsParty := by
  have hcase := perform_cases s v a
  generalize a.perform s v = r at hcase
  cases hcase with
  | failed _ hs =>
    left
    rcases hs with rfl | rfl
    · rfl
    · exact drawn_eq s a
  | @changed _ value _ _ _ _ _ hstored =>
    right
    have hchanged := Setting.isChanged_of_store? hstored a.syncsParty
    have hsupply := congrArg (fun s : Setting => s.world.supply) hchanged.rest
    rw [drawn_eq] at hchanged
    exact ⟨value, hsupply ▸ hchanged⟩

/-- An assignment tells clients nothing. -/
theorem sent_perform (s : Setting) (v : VariableRef) (a : Assignment) :
    (a.perform s v).2.world.sent = s.world.sent := by
  rcases a.perform_changes s v with hsame | ⟨value, hchanged⟩
  · rw [hsame]
    rfl
  · have hrest := congrArg (fun s : Setting => s.world.sent) hchanged.rest
    exact hrest

end Assignment

end EventScript
