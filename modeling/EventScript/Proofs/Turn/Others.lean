import EventScript.Proofs.Turn.Player

/-!
# What happens to others

A script runs for one player. What it executes for that player reaches few things of others: a
variable that is shared with the party, the membership of a guild that is disbanded, the account and
the guild of the player itself, and the route of an event on a map. Everything else that several
players can reach stays as it is.
-/

namespace EventScript

/-! ## What is spared -/

namespace World

/-- What becomes of the other players by a command, or by a response, for which no command stands. -/
inductive OthersCase (w : World) (runner : PlayerId) (p : Player) : Option Command → World → Prop
  /-- All of them are spared. -/
  | spared {c : Option Command} {w' : World}
      (players : ∀ id, id ≠ runner → w'.player? id = w.player? id) : OthersCase w runner p c w'
  /-- The other members of the party who are loaded get the value that the player has now. -/
  | shared {i : VariableId} {m : VariableMod} {value : Value} {w' : World}
      (own : w'.keptBy? runner i = some value)
      (players : ∀ id, id ≠ runner → w'.player? id =
        if id ∈ p.party ∧ id ≠ p.id then
          (w.player? id).map fun q => { q with vars := q.vars.insert i value }
        else w.player? id) :
      OthersCase w runner p (some (.setVariable ⟨.player, i⟩ m true)) w'
  /-- The other members of the guild that the player leads are in no guild, and it is gone. -/
  | disbanded {bs : List BranchId} {g : GuildId} {guild : Guild} {w' : World}
      (joined : p.guild = some g) (listed : w.guild? g = some guild) (leader : guild.leader = p.id)
      (gone : w'.guild? g = none)
      (players : ∀ id, id ≠ runner → w'.player? id =
        if id ∈ guild.members ∧ id ≠ p.id then
          (w.player? id).map fun q => { q with guild := none }
        else w.player? id) :
      OthersCase w runner p (some (.disbandGuild bs)) w'

/-- What becomes of a guild. -/
inductive GuildCase (w : World) (runner : PlayerId) (p : Player) (c : Option Command) (w' : World)
    (id : GuildId) : Prop
  /-- It is spared. -/
  | spared (guild : w'.guild? id = w.guild? id)
  /-- The player is in it. -/
  | own (joined : p.guild = some id)
  /-- It was founded by the player just now. -/
  | founded {source : VariableId} {bs : List BranchId} {name : String}
      (command : c = some (.createGuild source bs))
      (guild : w'.guild? id = some (.fresh id name p.id))
      (joined : (w'.player? runner).map Player.guild = some (some id))

/-- What becomes of the events on maps. -/
inductive MapEventsCase (w : World) : Option Command → World → Prop
  /-- All of them are spared. -/
  | spared {c : Option Command} {w' : World} (mapEvents : w'.mapEvents = w.mapEvents) :
      MapEventsCase w c w'
  /-- One of them is sent along a route. -/
  | sent {route : MoveRoute} {w' : World} (other : route.target.isNil = false)
      (mapEvents : w'.mapEvents = w.mapEvents.modify route.target fun e =>
        { e with moveRoute := some route }) :
      MapEventsCase w (some (.setMoveRoute route)) w'

/-- A command of a player, or a response if there is none, has spared what is not the player's. -/
structure Spares (w : World) (runner : PlayerId) (p : Player) (c : Option Command) (w' : World) :
    Prop where
  /-- The other players, but for a shared variable and a guild that is disbanded. -/
  players : w.OthersCase runner p c w'
  /-- The accounts but the player's own. -/
  users : ∀ id, id ≠ p.user → w'.user? id = w.user? id
  /-- The guilds but the player's own and one that it founds. -/
  guilds : ∀ id, w.GuildCase runner p c w' id
  /-- The events on maps, but for the route of one. -/
  mapEvents : w.MapEventsCase c w'
  online : w'.online = w.online
  config : w'.config = w.config
  catalog : w'.catalog = w.catalog

/-- Nothing spares everything. -/
theorem Spares.refl (w : World) (runner : PlayerId) (p : Player) (c : Option Command) :
    w.Spares runner p c w :=
  ⟨.spared fun _ _ => rfl, fun _ _ => rfl, fun _ => .spared rfl, .spared rfl, rfl, rfl, rfl⟩

/-- Keeping the player who runs the script leaves the others alone. -/
theorem player?_putPlayer_of_ne (w : World) {runner id : PlayerId} (q : Player)
    (hne : id ≠ runner) : (w.putPlayer runner q).player? id = w.player? id :=
  Table.get?_insert_of_ne _ _ (Ne.symm hne)

/-- The player who runs the script is kept as it is. -/
theorem player?_putPlayer_self (w : World) (runner : PlayerId) (q : Player) :
    (w.putPlayer runner q).player? runner = some q := Table.get?_insert_self ..

end World

/-! ## Assignments -/

/-- Records that differ in the values of variables at most are the same if they have the same
values. -/
theorem eq_of_withoutVars {α : Type} {vars : α → VariableStore} {withoutVars : α → α}
    (hext : ∀ a b, withoutVars a = withoutVars b → vars a = vars b → a = b) {a b : Option α}
    (hrest : a.map withoutVars = b.map withoutVars)
    (hvars : ∀ i, (a.bind fun r => (vars r).get? i) = b.bind fun r => (vars r).get? i) :
    a = b := by
  cases a with
  | none => exact (Option.map_eq_none_iff.mp hrest.symm).symm
  | some r =>
    obtain ⟨r', rfl, hsame⟩ := Option.map_eq_some_iff.mp hrest.symm
    exact congrArg some (hext r r' hsame.symm (Table.ext_get? hvars))

/-- A player is its values and the rest. -/
theorem Player.eq_of_withoutVars {p q : Player} (hrest : p.withoutVars = q.withoutVars)
    (hvars : p.vars = q.vars) : p = q := by
  have hset := congrArg (fun r : Player => { r with vars := p.vars }) hrest
  exact hset.trans (congrArg (fun vars => { q with vars := vars }) hvars)

/-- So is an account. -/
theorem UserAccount.eq_of_withoutVars {u v : UserAccount} (hrest : u.withoutVars = v.withoutVars)
    (hvars : u.vars = v.vars) : u = v := by
  have hset := congrArg (fun r : UserAccount => { r with vars := u.vars }) hrest
  exact hset.trans (congrArg (fun vars => { v with vars := vars }) hvars)

/-- So is a guild. -/
theorem Guild.eq_of_withoutVars {g h : Guild} (hrest : g.withoutVars = h.withoutVars)
    (hvars : g.vars = h.vars) : g = h := by
  have hset := congrArg (fun r : Guild => { r with vars := g.vars }) hrest
  exact hset.trans (congrArg (fun vars => { h with vars := vars }) hvars)

namespace Setting

variable {s s' : Setting} {v : VariableRef} {value : Value} {syncsParty : Bool}

/-- Values are owned by the player itself, its guild, its account or everyone. -/
theorem owner?_cases {scope : Scope} {k : Keeper} (h : s.owner? scope = some k) :
    scope = .player ∧ k = .runner ∨ k = .server ∨ k = .user s.player.user ∨
      ∃ id, s.player.guild = some id ∧ k = .guild id := by
  cases scope with
  | player =>
    cases h
    exact .inl ⟨rfl, rfl⟩
  | server =>
    cases h
    exact .inr (.inl rfl)
  | user =>
    obtain ⟨u, -, rfl⟩ := Option.map_eq_some_iff.mp h
    exact .inr (.inr (.inl rfl))
  | guild =>
    obtain ⟨id, hid, h⟩ := Option.bind_eq_some_iff.mp h
    obtain ⟨g, -, rfl⟩ := Option.map_eq_some_iff.mp h
    exact .inr (.inr (.inr ⟨id, hid, rfl⟩))

/-- A change of a variable changes no account but the player's own. -/
theorem IsChanged.user? (h : s.IsChanged s' v value syncsParty) {id : UserId}
    (hne : id ≠ s.player.user) : s'.world.user? id = s.world.user? id := by
  have hrest := congrArg (fun s : Setting => s.world.user? id) h.rest
  refine eq_of_withoutVars (fun _ _ => UserAccount.eq_of_withoutVars) ?_ fun i => ?_
  · exact (Table.get?_map ..).symm.trans (hrest.trans (Table.get?_map ..))
  · refine (h.kept (.user id) i).trans (if_neg ?_)
    rintro ⟨-, howner | hfollows⟩
    · obtain ⟨-, hk⟩ | hk | hk | ⟨_, -, hk⟩ := owner?_cases howner <;> cases hk
      exact hne rfl
    · cases hfollows

/-- It changes no guild but the player's own. -/
theorem IsChanged.guild? (h : s.IsChanged s' v value syncsParty) {id : GuildId}
    (hne : s.player.guild ≠ some id) : s'.world.guild? id = s.world.guild? id := by
  have hrest := congrArg (fun s : Setting => s.world.guild? id) h.rest
  refine eq_of_withoutVars (fun _ _ => Guild.eq_of_withoutVars) ?_ fun i => ?_
  · exact (Table.get?_map ..).symm.trans (hrest.trans (Table.get?_map ..))
  · refine (h.kept (.guild id) i).trans (if_neg ?_)
    rintro ⟨-, howner | hfollows⟩
    · obtain ⟨-, hk⟩ | hk | hk | ⟨_, hid, hk⟩ := owner?_cases howner <;> cases hk
      exact hne hid
    · cases hfollows

/-- Only a player variable that is shared concerns other players: the other members of the party
have the value then. -/
theorem IsChanged.player? (h : s.IsChanged s' v value syncsParty) (id : PlayerId) :
    s'.world.player? id =
      if (v.scope = .player ∧ syncsParty = true) ∧ id ∈ s.player.party ∧ id ≠ s.player.id then
        (s.world.player? id).map fun q => { q with vars := q.vars.insert v.id value }
      else s.world.player? id := by
  have hrest := congrArg (fun s : Setting => s.world.player? id) h.rest
  have hrecord : (s'.world.player? id).map Player.withoutVars =
      (s.world.player? id).map Player.withoutVars :=
    (Table.get?_map ..).symm.trans (hrest.trans (Table.get?_map ..))
  have hkept (i : VariableId) : ((s'.world.player? id).bind fun q => q.vars.get? i) =
      if i = v.id ∧ s.follows v value syncsParty (.player id) = true then some value
      else (s.world.player? id).bind fun q => q.vars.get? i := by
    have howner : s.owner? v.scope ≠ some (.player id) := by
      intro howner
      obtain ⟨-, hk⟩ | hk | hk | ⟨_, -, hk⟩ := owner?_cases howner <;> cases hk
    refine (h.kept (.player id) i).trans ?_
    simp only [howner, false_or]
    rfl
  split
  · next hshares =>
    obtain ⟨⟨hscope, rfl⟩, hmember, hother⟩ := hshares
    refine eq_of_withoutVars (fun _ _ => Player.eq_of_withoutVars) ?_ fun i => ?_
    · rw [hrecord, Option.map_map]
      rfl
    · rw [hkept i]
      cases hq : s.world.player? id with
      | none => simp [follows, World.lacks, hq]
      | some q =>
        rw [Option.bind_some, Option.map_some, Option.bind_some, Table.get?_insert_eq_ite]
        by_cases hi : i = v.id
        · subst hi
          -- Whoever has the value already is not given it again, which makes no difference.
          by_cases hvalue : q.vars.get? v.id = some value
          · simp [hvalue]
          · simp [follows, World.lacks, hq, hscope, hmember, hother, hvalue]
        · simp [hi]
  · next hspares =>
    refine eq_of_withoutVars (fun _ _ => Player.eq_of_withoutVars) hrecord fun i => ?_
    refine (hkept i).trans (if_neg ?_)
    rintro ⟨-, hfollows⟩
    simp only [follows, Bool.and_eq_true, beq_iff_eq, List.contains_iff_mem, bne_iff_ne] at hfollows
    obtain ⟨⟨⟨⟨hscope, hsyncs⟩, hmember⟩, hother⟩, -⟩ := hfollows
    exact hspares ⟨⟨hscope, hsyncs⟩, hmember, hother⟩

end Setting

namespace Assignment

variable {s : Setting} {v : VariableRef} {a : Assignment}

/-- An assignment changes no account but the player's own. -/
theorem user?_perform {id : UserId} (hne : id ≠ s.player.user) :
    (a.perform s v).2.world.user? id = s.world.user? id := by
  rcases a.perform_changes s v with hsame | ⟨value, hchanged⟩
  · rw [hsame]
    rfl
  · exact hchanged.user? hne

/-- It changes no guild but the player's own. -/
theorem guild?_perform {id : GuildId} (hne : s.player.guild ≠ some id) :
    (a.perform s v).2.world.guild? id = s.world.guild? id := by
  rcases a.perform_changes s v with hsame | ⟨value, hchanged⟩
  · rw [hsame]
    rfl
  · exact hchanged.guild? hne

/-- It changes no other player, unless it shares a value with the party. -/
theorem player?_perform (s : Setting) (v : VariableRef) (a : Assignment) :
    (∀ id, (a.perform s v).2.world.player? id = s.world.player? id) ∨
      v.scope = .player ∧ a.syncsParty = true ∧ ∃ value,
        (a.perform s v).2.player.vars.get? v.id = some value ∧
        ∀ id, (a.perform s v).2.world.player? id =
          if id ∈ s.player.party ∧ id ≠ s.player.id then
            (s.world.player? id).map fun q => { q with vars := q.vars.insert v.id value }
          else s.world.player? id := by
  rcases a.perform_changes s v with hsame | ⟨value, hchanged⟩
  · left
    intro id
    rw [hsame]
    rfl
  · by_cases hshares : v.scope = .player ∧ a.syncsParty = true
    · right
      refine ⟨hshares.1, hshares.2, value, ?_, fun id => ?_⟩
      · refine (hchanged.kept .runner v.id).trans (if_pos ⟨rfl, .inl ?_⟩)
        rw [hshares.1]
        rfl
      · rw [hchanged.player? id]
        simp only [hshares, true_and, and_self]
        rfl
    · left
      intro id
      rw [hchanged.player? id, if_neg fun h => hshares h.1]
      rfl

end Assignment

/-! ## Commands and responses -/

namespace Scene

variable {s s' : Scene} {parts : List Part} {runner : PlayerId}

/-- What concerns neither variables nor membership concerns no other player. -/
theorem player?_of_rest (hrest : s'.rest parts = s.rest parts) (hvariables : .variables ∉ parts)
    (hmembership : .membership ∉ parts) (id : PlayerId) :
    s'.world.player? id = s.world.player? id := by
  have hsame : (s'.world.without parts).player? id = (s.world.without parts).player? id :=
    congrArg (fun s : Setting => s.world.player? id) hrest
  have hrecord : Player.recordWithout parts = fun p => p := by
    funext p
    simp [Player.recordWithout, Part.keep_of_not_mem hvariables,
      Part.keep_of_not_mem hmembership]
  simpa [World.player?_without, hrecord] using hsame

/-- What concerns neither variables nor access rights concerns no account. -/
theorem user?_of_rest (hrest : s'.rest parts = s.rest parts) (hvariables : .variables ∉ parts)
    (haccess : .access ∉ parts) (id : UserId) : s'.world.user? id = s.world.user? id := by
  have hwithout (w : World) : (w.without parts).user? id =
      (w.user? id).map (UserAccount.without parts) := Table.get?_map ..
  have hsame : (s'.world.without parts).user? id = (s.world.without parts).user? id :=
    congrArg (fun s : Setting => s.world.user? id) hrest
  have haccount : UserAccount.without parts = fun u => u := by
    funext u
    simp [UserAccount.without, Part.keep_of_not_mem hvariables, Part.keep_of_not_mem haccess]
  simpa [hwithout, haccount] using hsame

/-- What concerns neither variables, banks nor membership concerns no guild. -/
theorem guild?_of_rest (hrest : s'.rest parts = s.rest parts) (hvariables : .variables ∉ parts)
    (hbank : .bank ∉ parts) (hmembership : .membership ∉ parts) (id : GuildId) :
    s'.world.guild? id = s.world.guild? id := by
  have hsame : (s'.world.without parts).guild? id = (s.world.without parts).guild? id :=
    congrArg (fun s : Setting => s.world.guild? id) hrest
  have hguild : Guild.without parts = fun g => g := by
    funext g
    simp [Guild.without, Part.keep_of_not_mem hvariables, Part.keep_of_not_mem hbank]
  simpa [World.guild?_without _ hmembership, hguild] using hsame

/-! ### Guilds -/

/-- Whoever leaves a guild is in none; nobody else changes. -/
theorem player?_leaveGuild (w : World) (member id : PlayerId) :
    (leaveGuild w member).player? id =
      if id = member then (w.player? id).map fun q => { q with guild := none }
      else w.player? id := by
  unfold leaveGuild
  cases hmember : w.player? member with
  | none =>
    by_cases hid : id = member
    · simp [hid, hmember]
    · simp [hid]
  | some q =>
    by_cases hid : id = member
    · simp [hid, hmember, World.player?_putPlayer_self]
    · simp [hid, World.player?_putPlayer_of_ne]

/-- Some players leave their guilds; nobody else changes. -/
theorem player?_leaveGuilds (others : List PlayerId) (w : World) (id : PlayerId) :
    (others.foldl leaveGuild w).player? id =
      if id ∈ others then (w.player? id).map fun q => { q with guild := none }
      else w.player? id := by
  induction others generalizing w with
  | nil => rfl
  | cons member others ih =>
    rw [List.foldl_cons, ih, player?_leaveGuild]
    by_cases hid : id = member
    · cases hq : w.player? id <;> simp [hid]
    · simp [hid]

/-- Guilds stay while players leave them. -/
theorem guilds_leaveGuild (w : World) (member : PlayerId) :
    (leaveGuild w member).guilds = w.guilds := by
  unfold leaveGuild
  split <;> rfl

/-- The other members leave a guild that is disbanded. -/
theorem player?_dissolveGuild (s : Scene) (g : GuildId) (members : List PlayerId)
    (id : PlayerId) : (s.dissolveGuild g members).world.player? id =
      if id ∈ members ∧ id ≠ s.player.id then
        (s.world.player? id).map fun q => { q with guild := none }
      else s.world.player? id := by
  refine (player?_leaveGuilds _ _ id).trans ?_
  simp only [List.mem_filter, bne_iff_ne]
  rfl

/-- A guild that is disbanded is gone; the others stay. -/
theorem guild?_dissolveGuild (s : Scene) (g : GuildId) (members : List PlayerId) (id : GuildId) :
    (s.dissolveGuild g members).world.guild? id =
      if id = g then none else s.world.guild? id := by
  have hguilds : (s.dissolveGuild g members).world.guilds = s.world.guilds.erase g :=
    foldl_leaveGuild guilds_leaveGuild _ _
  refine (congrArg (fun t : Table GuildId Guild => t.get? id) hguilds).trans ?_
  refine (Table.get?_erase s.world.guilds g id).trans ?_
  simp only [Table.rank_inj, eq_comm]
  rfl

/-- Disbanding a guild changes nothing of others, or it succeeds for the leader of the guild. -/
theorem disbandGuild_cases (s : Scene) (bs : List BranchId) :
    (s.disbandGuild bs).world.players = s.world.players ∧
        (s.disbandGuild bs).world.guilds = s.world.guilds ∨
      ∃ g guild, s.player.guild = some g ∧ s.world.guild? g = some guild ∧
        guild.leader = s.player.id ∧
        (s.disbandGuild bs).world = (s.dissolveGuild g guild.members).world := by
  have hbranch (s : Scene) (success : Bool) : (s.branchOn success bs).world = s.world :=
    congrArg Setting.world (s.toSetting_branchOn success bs)
  unfold disbandGuild refuseDisbanding
  split
  · left
    rw [hbranch]
    exact ⟨rfl, rfl⟩
  · next g hg =>
    split
    · next guild hguild =>
      split
      · next hleader =>
        right
        exact ⟨g, guild, hg, hguild, hleader, hbranch _ true⟩
      · left
        rw [hbranch]
        exact ⟨rfl, rfl⟩
    · left
      rw [hbranch]
      exact ⟨rfl, rfl⟩

/-- Founding a guild adds it under its identifier, and the player is in it. -/
theorem createGuild_cases (s : Scene) (source : VariableId) (bs : List BranchId) :
    (s.createGuild source bs).world.players = s.world.players ∧
      ((s.createGuild source bs).world.guilds = s.world.guilds ∨
        ∃ g name, (s.createGuild source bs).player.guild = some g ∧
          ∀ id, (s.createGuild source bs).world.guild? id =
            if id = g then some (.fresh g name s.player.id) else s.world.guild? id) := by
  have hbranch (s : Scene) (success : Bool) :
      (s.branchOn success bs).toSetting = s.toSetting := s.toSetting_branchOn success bs
  unfold createGuild
  dsimp only
  split
  · rw [hbranch]
    exact ⟨rfl, .inl rfl⟩
  · rw [hbranch]
    refine ⟨rfl, .inr ⟨s.world.supply.freshId.1, s.nameIn source, rfl, fun id => ?_⟩⟩
    exact Table.get?_insert_eq_ite ..

/-! ### All commands and responses -/

/-- Every command spares the other players, but for a shared variable and a guild that is
disbanded. -/
theorem othersCase_execute {c : Command} (h : s.execute c = .ok s') :
    s.world.OthersCase runner s.player (some c) (s'.world.putPlayer runner s'.player) := by
  have hrest := s.rest_execute h
  have hspared (hplayers : ∀ id, s'.world.player? id = s.world.player? id) :
      s.world.OthersCase runner s.player (some c) (s'.world.putPlayer runner s'.player) :=
    .spared fun id hne =>
      (World.player?_putPlayer_of_ne _ _ hne).trans (hplayers id)
  -- Only three commands concern variables or membership.
  have hother (hvariables : c.parts.contains .variables = false)
      (hmembership : c.parts.contains .membership = false) :
      s.world.OthersCase runner s.player (some c) (s'.world.putPlayer runner s'.player) :=
    hspared (player?_of_rest hrest (Part.not_mem_of_contains hvariables)
      (Part.not_mem_of_contains hmembership))
  cases c with
  | setVariable target m syncs =>
    cases h
    rcases Assignment.player?_perform s.toSetting target (.modify (some s.run) m syncs) with
      hsame | ⟨hscope, hsyncs, value, hown, hplayers⟩
    · exact hspared hsame
    · obtain ⟨scope, i⟩ := target
      obtain rfl : scope = .player := hscope
      obtain rfl : syncs = true := hsyncs
      have hkept : (((s.setVariable ⟨.player, i⟩ m true).world.putPlayer runner
          (s.setVariable ⟨.player, i⟩ m true).player).keptBy? runner i) = some value := by
        unfold World.keptBy?
        rw [World.player?_putPlayer_self, Option.bind_some]
        exact hown
      refine .shared hkept fun id hne => ?_
      exact (World.player?_putPlayer_of_ne _ _ hne).trans (hplayers id)
  | createGuild source bs =>
    cases h
    have hplayers := (s.createGuild_cases source bs).1
    exact hspared fun id => congrArg (fun t : Table PlayerId Player => t.get? id) hplayers
  | disbandGuild bs =>
    cases h
    rcases s.disbandGuild_cases bs with ⟨hplayers, -⟩ | ⟨g, guild, hg, hguild, hleader, hworld⟩
    · exact hspared fun id => congrArg (fun t : Table PlayerId Player => t.get? id) hplayers
    · have hgone : (s.disbandGuild bs).world.guild? g = none := by
        rw [hworld, guild?_dissolveGuild, if_pos rfl]
      refine .disbanded hg hguild hleader hgone fun id hne => ?_
      rw [World.player?_putPlayer_of_ne _ _ hne, hworld, player?_dissolveGuild]
  | _ => exact hother rfl rfl

/-- Every command spares the accounts but the player's own. -/
theorem user?_execute {c : Command} (h : s.execute c = .ok s') {id : UserId}
    (hne : id ≠ s.player.user) : s'.world.user? id = s.world.user? id := by
  have hrest := s.rest_execute h
  have hother (hvariables : c.parts.contains .variables = false)
      (haccess : c.parts.contains .access = false) : s'.world.user? id = s.world.user? id :=
    user?_of_rest hrest (Part.not_mem_of_contains hvariables) (Part.not_mem_of_contains haccess) id
  cases c with
  | setVariable target m syncs =>
    cases h
    exact Assignment.user?_perform (a := .modify (some s.run) m syncs) hne
  | setAccess access =>
    cases h
    unfold setAccess
    split
    · exact Table.get?_insert_of_ne _ _ (Ne.symm hne)
    · rfl
  | _ => exact hother rfl rfl

/-- Every command spares the guilds but the player's own and one that it founds. -/
theorem guildCase_execute {c : Command} (h : s.execute c = .ok s') (id : GuildId) :
    s.world.GuildCase runner s.player (some c) (s'.world.putPlayer runner s'.player) id := by
  have hrest := s.rest_execute h
  by_cases hown : s.player.guild = some id
  · exact .own hown
  have hother (hvariables : c.parts.contains .variables = false)
      (hbank : c.parts.contains .bank = false) (hmembership : c.parts.contains .membership = false) :
      s.world.GuildCase runner s.player (some c) (s'.world.putPlayer runner s'.player) id :=
    .spared (guild?_of_rest hrest (Part.not_mem_of_contains hvariables)
      (Part.not_mem_of_contains hbank) (Part.not_mem_of_contains hmembership) id)
  cases c with
  | setVariable target m syncs =>
    cases h
    exact .spared (Assignment.guild?_perform (a := .modify (some s.run) m syncs) hown)
  | setGuildBankSlots slots =>
    cases h
    refine .spared ?_
    unfold setGuildBankSlots
    dsimp only
    split
    · next g guild hg hguild =>
      split
      · have hne : g ≠ id := by
          rintro rfl
          exact hown hg
        exact Table.get?_insert_of_ne _ _ hne
      · rfl
    · rfl
  | createGuild source bs =>
    cases h
    rcases (s.createGuild_cases source bs).2 with hguilds | ⟨g, name, hjoined, hguilds⟩
    · exact .spared (congrArg (fun t : Table GuildId Guild => t.get? id) hguilds)
    · by_cases hid : id = g
      · subst hid
        have hfounded := (hguilds id).trans (if_pos rfl)
        refine .founded rfl hfounded ?_
        rw [World.player?_putPlayer_self, Option.map_some, hjoined]
      · exact .spared ((hguilds id).trans (if_neg hid))
  | disbandGuild bs =>
    cases h
    rcases s.disbandGuild_cases bs with ⟨-, hguilds⟩ | ⟨g, guild, hg, -, -, hworld⟩
    · exact .spared (congrArg (fun t : Table GuildId Guild => t.get? id) hguilds)
    · have hne : id ≠ g := by
        rintro rfl
        exact hown hg
      refine .spared ?_
      change (s.disbandGuild bs).world.guild? id = s.world.guild? id
      rw [hworld, guild?_dissolveGuild, if_neg hne]
  | _ => exact hother rfl rfl rfl

/-- Every command spares the events on maps, but for the route of one. -/
theorem mapEventsCase_execute {c : Command} (h : s.execute c = .ok s') (q : Player) :
    s.world.MapEventsCase (some c) (s'.world.putPlayer runner q) := by
  have hcase := s.reserve_cases h
  have hmap : (s'.world.putPlayer runner q).mapEvents = s'.reserve.world.mapEvents := rfl
  generalize s'.reserve = after at hcase hmap
  cases hcase with
  | route hother => exact .sent hother hmap
  | _ => exact .spared hmap

/-- Every command spares what is not the player's. -/
theorem spares_execute {c : Command} (h : s.execute c = .ok s') :
    s.world.Spares runner s.player (some c) (s'.world.putPlayer runner s'.player) := by
  have hbackdrop := congrArg Scene.Backdrop.world (s.backdrop_execute h)
  refine ⟨othersCase_execute h, fun id hne => user?_execute h hne, guildCase_execute h,
    mapEventsCase_execute h _, ?_, ?_, ?_⟩
  · exact congrArg World.Backdrop.online hbackdrop
  · exact congrArg World.Backdrop.config hbackdrop
  · exact congrArg World.Backdrop.catalog hbackdrop

/-- So does every response. -/
theorem spares_resume {asked : Suspension} {response : Response}
    (h : s.resume asked response = .ok s') :
    s.world.Spares runner s.player none (s'.world.putPlayer runner s'.player) := by
  have hbackdrop := congrArg Scene.Backdrop.world (s.backdrop_resume h)
  have hmap : s'.world.mapEvents = s.world.mapEvents :=
    congrArg (fun r : Scene.Reserve => r.world.mapEvents) (s.reserve_resume h)
  have honline := congrArg World.Backdrop.online hbackdrop
  have hconfig := congrArg World.Backdrop.config hbackdrop
  have hcatalog := congrArg World.Backdrop.catalog hbackdrop
  rcases s.resume_cases h with hrest | ⟨v, value, hset⟩
  · refine ⟨.spared fun id hne => ?_, fun id _ => user?_of_rest hrest nofun nofun id,
      fun id => .spared (guild?_of_rest hrest nofun nofun nofun id), .spared hmap, honline, hconfig,
      hcatalog⟩
    exact (World.player?_putPlayer_of_ne _ _ hne).trans (player?_of_rest hrest nofun nofun id)
  · have hworld : s'.world = (Assignment.perform s.toSetting v (.enter value)).2.world :=
      congrArg Setting.world hset
    refine ⟨.spared fun id hne => ?_, fun id hne => ?_, fun id => ?_, .spared hmap, honline,
      hconfig, hcatalog⟩
    · rw [World.player?_putPlayer_of_ne _ _ hne, hworld]
      rcases Assignment.player?_perform s.toSetting v (.enter value) with hsame | ⟨-, hsyncs, -⟩
      · exact hsame id
      · cases hsyncs
    · change s'.world.user? id = s.world.user? id
      rw [hworld]
      exact Assignment.user?_perform hne
    · by_cases hown : s.player.guild = some id
      · exact .own hown
      · refine .spared ?_
        change s'.world.guild? id = s.world.guild? id
        rw [hworld]
        exact Assignment.guild?_perform hown

end Scene

/-! ## Turns -/

namespace Turn

/-- Whatever a script executes for a player, and whatever it makes of an answer of the player,
spares what is not the player's. The other players stay as they are, except that a shared variable
is set for the party and that a guild which is disbanded has no members any more. Of the accounts
only the player's own changes, and of the guilds only its own and the one that it founds. Only a
route changes an event on a map. Who is connected, the configuration and the catalog stay. -/
theorem spares_of_turn {t : Turn} {p : Player} (hp : t.world.player? t.run.player = some p) :
    (∀ r, t.step = .ok r →
      t.world.Spares t.run.player p (t.deed?.map Deed.command) r.2.world) ∧
    ∀ response r, t.answer response = .ok r → t.world.Spares t.run.player p none r.2.world := by
  constructor
  · intro r result
    have hcase := deed_cases result
    generalize t.deed? = deed at hcase ⊢
    generalize r.2 = t' at hcase ⊢
    cases hcase with
    | idle st => exact .refl ..
    | done st st' hplayer hscene =>
      rw [hp] at hplayer
      cases hplayer
      exact Scene.spares_execute hscene
  · intro response r result
    cases answer_cases result with
    | ignored | missingPlayer => exact .refl ..
    | accepted hstack hwaiting hanswered hplayer hscene =>
      rw [hp] at hplayer
      cases hplayer
      exact Scene.spares_resume hscene

/-! ### A guild that is disbanded -/

/-- A player who leads a guild. -/
def lionsLeader : Player := { Player.fresh ⟨3⟩ "Ann" .nil 1 1 with guild := some ⟨9⟩ }

/-- The leader of a guild of two in front of a command that disbands it, and the leader of another
guild. -/
def disbanding : Turn where
  world := (World.start {} .empty (.start 0) (.of (fun k => .ofNat 128 (k + 100)) id)
    |>.addPlayer lionsLeader
    |>.addPlayer { Player.fresh ⟨4⟩ "Bob" .nil 1 1 with guild := some ⟨9⟩ }
    |>.addPlayer { Player.fresh ⟨8⟩ "Cid" .nil 1 1 with guild := some ⟨10⟩ }
    |>.addGuild { Guild.fresh ⟨9⟩ "Lions" ⟨3⟩ with members := [⟨3⟩, ⟨4⟩] }).addGuild
      (.fresh ⟨10⟩ "Owls" ⟨8⟩)
  run := .start ⟨6⟩ ⟨5⟩ ⟨3⟩ ((Page.draft ⟨1⟩ "disband" ⟨2⟩).withRoot [.disbandGuild []])

/-- The other member of the guild leaves it; the other leader and its guild stay as they are. -/
theorem spares_of_turn_disbanding :
    ∃ r, disbanding.step = .ok r ∧
      disbanding.world.Spares ⟨3⟩ lionsLeader (some (.disbandGuild [])) r.2.world ∧
      (r.2.world.player? ⟨4⟩).map Player.guild = some none ∧
      r.2.world.player? ⟨8⟩ = disbanding.world.player? ⟨8⟩ ∧
      r.2.world.guild? ⟨10⟩ = disbanding.world.guild? ⟨10⟩ :=
  ⟨_, rfl, (spares_of_turn rfl).1 _ rfl, rfl, rfl, rfl⟩

end Turn

end EventScript
