import EventScript.Proofs.Template
import EventScript.Proofs.Turn.Player

/-!
# Types of stored variables

The stores of variables hold values of any type, but only values of the described type are put into
them: by every operation, by what a player enters, and by a value that is shared with a party. As
long as that is so, everything that reads a described variable reads the same value.
-/

namespace EventScript

/-! ## Well-typed stores -/

/-- The values that a store holds for described variables have the described types. -/
def Catalog.Types (c : Catalog) (scope : Scope) (store : VariableStore) : Prop :=
  ∀ i d value, c.vars.get? ⟨scope, i⟩ = some d → store.get? i = some value →
    value.dataType = d.dataType

/-- Every value that is stored for a described variable has the described type. -/
structure World.IsWellTyped (w : World) : Prop where
  players : ∀ id p, w.player? id = some p → w.catalog.Types .player p.vars
  users : ∀ id u, w.user? id = some u → w.catalog.Types .user u.vars
  guilds : ∀ id g, w.guild? id = some g → w.catalog.Types .guild g.vars
  server : w.catalog.Types .server w.serverVariables

/-- The scope of the variables that a keeper has values for. -/
def Keeper.scope : Keeper → Scope
  | runner | player _ => .player
  | guild _ => .guild
  | user _ => .user
  | server => .server

namespace Setting

variable {s s' : Setting} {v : VariableRef} {value : Value}

/-- Every value that someone keeps for a described variable has the described type. -/
def IsWellTyped (s : Setting) : Prop :=
  ∀ k i d value, s.world.catalog.vars.get? ⟨k.scope, i⟩ = some d → s.kept? k i = some value →
    value.dataType = d.dataType

/-- The owner of a variable has values for its scope. -/
theorem scope_of_owner? {scope : Scope} {k : Keeper} (h : s.owner? scope = some k) :
    k.scope = scope := by
  cases scope with
  | player | server =>
    cases h
    rfl
  | guild =>
    obtain ⟨id, -, h⟩ := Option.bind_eq_some_iff.mp h
    obtain ⟨g, -, rfl⟩ := Option.map_eq_some_iff.mp h
    rfl
  | user =>
    obtain ⟨u, -, rfl⟩ := Option.map_eq_some_iff.mp h
    rfl

/-- So has whoever shares it. -/
theorem scope_of_follows {syncsParty : Bool} {k : Keeper}
    (h : s.follows v value syncsParty k = true) : k.scope = v.scope := by
  cases k with
  | player id =>
    by_cases hscope : v.scope = .player
    · exact hscope.symm
    · rw [follows_of_ne hscope] at h
      cases h
  | _ => cases h

/-- What keeps nothing new stays well typed. -/
theorem IsWellTyped.of_kept (h : s.IsWellTyped) (hcatalog : s'.world.catalog = s.world.catalog)
    (hkept : ∀ k i value, s'.kept? k i = some value → s.kept? k i = some value) :
    s'.IsWellTyped := by
  intro k i d value hd hvalue
  rw [hcatalog] at hd
  exact h k i d value hd (hkept k i value hvalue)

/-- A change to a value of the described type leaves everything well typed, with those who share
the value as well. -/
theorem IsWellTyped.change {syncsParty : Bool} {d : VariableDescriptor} (h : s.IsWellTyped)
    (hd : s.world.catalog.vars.get? v = some d) (htype : value.dataType = d.dataType)
    (hchange : s.IsChanged s' v value syncsParty) : s'.IsWellTyped := by
  have hcatalog : s'.world.catalog = s.world.catalog := by
    have hrest := congrArg (fun s : Setting => s.world.catalog) hchange.rest
    exact hrest
  intro k i d' other hd' hother
  rw [hcatalog] at hd'
  rw [hchange.kept] at hother
  split at hother
  · next hplace =>
    obtain ⟨rfl, hkeeper⟩ := hplace
    have hscope : k.scope = v.scope := hkeeper.elim scope_of_owner? scope_of_follows
    rw [hscope, hd] at hd'
    cases hd'
    cases hother
    exact htype
  · exact h k i d' other hd' hother

/-- The random numbers that were drawn are no values of variables. -/
theorem IsWellTyped.drawn (h : s.IsWellTyped) (a : Assignment) : (a.drawn s).IsWellTyped := by
  rw [Assignment.drawn_eq]
  exact h.of_kept rfl fun k _ _ hvalue => by cases k <;> exact hvalue

/-- Every assignment leaves everything well typed: its result has the type of the current value,
which is the described one. -/
theorem IsWellTyped.perform (h : s.IsWellTyped) (v : VariableRef) (a : Assignment) :
    (a.perform s v).2.IsWellTyped := by
  have hcase := a.perform_cases s v
  generalize a.perform s v = r at hcase
  cases hcase with
  | failed hfails hs =>
    rcases hs with rfl | rfl
    · exact h
    · exact h.drawn a
  | changed hold htype hresult hne hstored =>
    obtain ⟨d, hd, holdtype⟩ := World.dataType_current? hold
    have hd' : (a.drawn s).world.catalog.vars.get? v = some d := by
      rw [Assignment.drawn_eq]
      exact hd
    have hnewtype := (Assignment.dataType_result? hresult htype).trans holdtype
    exact (h.drawn a).change hd' hnewtype (isChanged_of_store? hstored a.syncsParty)

/-- What is kept shows in a setting without other parts. -/
theorem kept?_without {parts : List Part} (hvariables : .variables ∉ parts)
    (hmembership : .membership ∉ parts) (k : Keeper) (i : VariableId) :
    (s.without parts).kept? k i = s.kept? k i := by
  cases k with
  | runner =>
    exact congrArg (fun vars : VariableStore => vars.get? i) (Part.keep_of_not_mem hvariables _ _)
  | server =>
    exact congrArg (fun vars : VariableStore => vars.get? i) (Part.keep_of_not_mem hvariables _ _)
  | player id =>
    change ((s.world.without parts).player? id).bind _ = (s.world.player? id).bind _
    rw [World.player?_without]
    cases s.world.player? id with
    | none => rfl
    | some p => simp [Player.recordWithout, Part.keep_of_not_mem hvariables]
  | guild id =>
    change ((s.world.without parts).guild? id).bind _ = (s.world.guild? id).bind _
    rw [World.guild?_without _ hmembership]
    cases s.world.guild? id with
    | none => rfl
    | some g => simp [Guild.without, Part.keep_of_not_mem hvariables]
  | user id =>
    have huser : (s.world.without parts).user? id =
        (s.world.user? id).map (UserAccount.without parts) := Table.get?_map ..
    change ((s.world.without parts).user? id).bind _ = (s.world.user? id).bind _
    rw [huser]
    cases s.world.user? id with
    | none => rfl
    | some u => simp [UserAccount.without, Part.keep_of_not_mem hvariables]

end Setting

/-! ## Commands and responses -/

namespace Scene

variable {s : Scene}

/-- What concerns neither variables nor membership leaves everything well typed. -/
theorem isWellTyped_of_rest {s' : Scene} {parts : List Part} (h : s.toSetting.IsWellTyped)
    (hrest : s'.rest parts = s.rest parts) (hvariables : .variables ∉ parts)
    (hmembership : .membership ∉ parts) : s'.toSetting.IsWellTyped := by
  have hcatalog := congrArg (fun s : Setting => s.world.catalog) hrest
  refine h.of_kept hcatalog ?_
  intro k i value hvalue
  have hkept : (s'.toSetting.without parts).kept? k i = (s.toSetting.without parts).kept? k i :=
    congrArg (fun s : Setting => s.kept? k i) hrest
  rw [Setting.kept?_without hvariables hmembership,
    Setting.kept?_without hvariables hmembership] at hkept
  exact hkept.symm.trans hvalue

/-- A guild that is founded has no values of variables yet. -/
theorem isWellTyped_foundGuild (h : s.toSetting.IsWellTyped) (name : String) :
    (s.foundGuild name).toSetting.IsWellTyped := by
  refine h.of_kept rfl ?_
  intro k i value hvalue
  cases k with
  | guild id =>
    have hinsert : (s.foundGuild name).world.guild? id =
        if id = s.world.supply.freshId.1 then
          some (.fresh s.world.supply.freshId.1 name s.player.id)
        else s.world.guild? id := Table.get?_insert_eq_ite ..
    change ((s.foundGuild name).world.guild? id).bind _ = some value at hvalue
    rw [hinsert] at hvalue
    split at hvalue
    · cases hvalue
    · exact hvalue
  | _ => exact hvalue

/-- Whoever leaves a guild keeps its own values, and so does everyone else. -/
theorem kept?_leaveGuild (w : World) (p : Player) (member : PlayerId) (k : Keeper)
    (i : VariableId) : Setting.kept? ⟨leaveGuild w member, p⟩ k i = Setting.kept? ⟨w, p⟩ k i := by
  unfold leaveGuild
  split
  · next q hq =>
    cases k with
    | player id =>
      have hvars := Table.map_get?_insert_of_eq (b := { q with guild := none }) Player.vars hq rfl
      have hbind (o : Option Player) :
          (o.bind fun p => p.vars.get? i) = (o.map Player.vars).bind fun vars => vars.get? i := by
        cases o <;> rfl
      refine (hbind _).trans ?_
      refine (congrArg (fun o => o.bind fun vars : VariableStore => vars.get? i)
        (hvars id)).trans ?_
      exact (hbind _).symm
    | _ => rfl
  · rfl

/-- With a guild go its values; nothing else is lost. -/
theorem isWellTyped_dissolveGuild (h : s.toSetting.IsWellTyped) (id : GuildId)
    (members : List PlayerId) : (s.dissolveGuild id members).toSetting.IsWellTyped := by
  have hcatalog := congrArg (fun s : Setting => s.world.catalog) (s.rest_dissolveGuild id members)
  refine h.of_kept hcatalog ?_
  intro k i value hvalue
  have hremoved : Setting.kept? ⟨s.world.removeGuild id, s.player⟩ k i = some value := by
    -- Those who leave the guild one after the other change nothing that is kept.
    have hleave := foldl_leaveGuild (f := fun w => Setting.kept? ⟨w, s.player⟩ k i)
      fun w member => kept?_leaveGuild w s.player member k i
    have hleft := hleave (members.filter fun member => member != s.player.id)
      ((s.send (.guild id) (.chatMessage "Your guild has been disbanded." .red .guild none)).world
        |>.removeGuild id)
    cases k <;> exact hleft.symm.trans hvalue
  cases k with
  | guild g =>
    change ((s.world.guilds.erase id).get? g).bind _ = some value at hremoved
    rw [Table.get?_erase] at hremoved
    split at hremoved
    · cases hremoved
    · exact hremoved
  | _ => exact hremoved

/-- Every command leaves everything well typed. -/
theorem isWellTyped_execute {c : Command} {s' : Scene} (h : s.toSetting.IsWellTyped)
    (hexecute : s.execute c = .ok s') : s'.toSetting.IsWellTyped := by
  have hrest := s.rest_execute hexecute
  -- Only three commands concern variables or the guilds that keep some.
  have hother (hvariables : c.parts.contains .variables = false)
      (hmembership : c.parts.contains .membership = false) : s'.toSetting.IsWellTyped :=
    isWellTyped_of_rest h hrest (Part.not_mem_of_contains hvariables)
      (Part.not_mem_of_contains hmembership)
  cases c with
  | setVariable target m syncs =>
    cases hexecute
    exact h.perform target (.modify (some s.run) m syncs)
  | createGuild source bs =>
    cases hexecute
    unfold createGuild
    dsimp only
    split
    · exact isWellTyped_of_rest h (rest_branchOn _ [] false bs) nofun nofun
    · rw [toSetting_branchOn]
      exact isWellTyped_foundGuild h _
  | disbandGuild bs =>
    cases hexecute
    have hrefuse : (s.refuseDisbanding bs).toSetting.IsWellTyped :=
      isWellTyped_of_rest h (rest_branchOn _ [] false bs) nofun nofun
    unfold disbandGuild
    split
    · rw [toSetting_branchOn]
      exact h
    · split
      · split
        · rw [toSetting_branchOn]
          exact isWellTyped_dissolveGuild h _ _
        · exact hrefuse
      · exact hrefuse
  | _ => exact hother rfl rfl

/-- So does every response. -/
theorem isWellTyped_resume {asked : Suspension} {response : Response} {s' : Scene}
    (h : s.toSetting.IsWellTyped) (hresume : s.resume asked response = .ok s') :
    s'.toSetting.IsWellTyped := by
  rcases s.resume_cases hresume with hrest | ⟨v, value, hset⟩
  · exact isWellTyped_of_rest h hrest nofun nofun
  · rw [hset]
    exact h.perform v (.enter value)

end Scene

/-! ## Worlds -/

namespace World

variable {w w' : World} {p : Player}

/-- A well-typed world is so for each of its players. -/
theorem IsWellTyped.setting {id : PlayerId} (h : w.IsWellTyped) (hp : w.player? id = some p) :
    Setting.IsWellTyped ⟨w, p⟩ := by
  intro k i d value hd hvalue
  cases k with
  | runner => exact h.players id p hp i d value hd hvalue
  | server => exact h.server i d value hd hvalue
  | player id' =>
    obtain ⟨q, hq, hvalue⟩ := Option.bind_eq_some_iff.mp hvalue
    exact h.players id' q hq i d value hd hvalue
  | guild id' =>
    obtain ⟨g, hg, hvalue⟩ := Option.bind_eq_some_iff.mp hvalue
    exact h.guilds id' g hg i d value hd hvalue
  | user id' =>
    obtain ⟨u, hu, hvalue⟩ := Option.bind_eq_some_iff.mp hvalue
    exact h.users id' u hu i d value hd hvalue

/-- A player is kept in the world as well typed as it is. -/
theorem isWellTyped_putPlayer {s : Setting} (h : s.IsWellTyped) (runner : PlayerId) :
    (s.world.putPlayer runner s.player).IsWellTyped where
  players id p hp := by
    intro i d value hd hvalue
    have hinsert := (Table.get?_insert_eq_ite s.world.players runner id s.player).symm.trans hp
    split at hinsert
    · cases hinsert
      exact h .runner i d value hd hvalue
    · refine h (.player id) i d value hd ?_
      change (s.world.players.get? id).bind _ = some value
      rw [hinsert]
      exact hvalue
  users id u hu := by
    intro i d value hd hvalue
    exact h (.user id) i d value hd (Option.bind_eq_some_iff.mpr ⟨u, hu, hvalue⟩)
  guilds id g hg := by
    intro i d value hd hvalue
    exact h (.guild id) i d value hd (Option.bind_eq_some_iff.mpr ⟨g, hg, hvalue⟩)
  server := by
    intro i d value hd hvalue
    exact h .server i d value hd hvalue

/-- Whatever happens leaves a world well typed. -/
theorem Act.isWellTyped (hact : w.Act w') (h : w.IsWellTyped) : w'.IsWellTyped := by
  cases hact.cases with
  | idle => exact h
  | executed hplayer hscene =>
    exact isWellTyped_putPlayer (Scene.isWellTyped_execute (h.setting hplayer) hscene) _
  | resumed hplayer hscene =>
    exact isWellTyped_putPlayer (Scene.isWellTyped_resume (h.setting hplayer) hscene) _

/-- So does all that happens. -/
theorem Acts.isWellTyped (hacts : w.Acts w') (h : w.IsWellTyped) : w'.IsWellTyped := by
  induction hacts with
  | refl => exact h
  | tail _ hact ih => exact hact.isWellTyped ih

end World

/-! ## Reading -/

/-- The variable that a text refers to by a name in a scope. -/
def Catalog.named? (c : Catalog) (scope : Scope) (name : String) : Option VariableRef :=
  (c.variableByTextId? scope name).map VariableDescriptor.ref

namespace World

variable {w w' : World} {p : Player} {v : VariableRef} {value : Value}

/-- All that reads a variable for a player reads one value. -/
structure ReadsAs (w : World) (p : Player) (v : VariableRef) (value : Value) : Prop where
  /-- It is the current value. -/
  current : w.current? p v = some value
  /-- Readers of its type read it. -/
  integer : value.dataType = .integer → value = .integer (w.integer p v)
  boolean : value.dataType = .boolean → value = .boolean (w.boolean p v)
  string : value.dataType = .string → value = .string (w.string p v)
  /-- It is what an amount of the variable comes to. -/
  amount : value.dataType = .integer → value = .integer (w.amount p (.fromVariable v))
  /-- Every token that names the variable stands for it, -/
  token : ∀ running scope name, w.catalog.named? scope name = some v →
    (TextPiece.braced (.variableText scope) name).value ⟨w, p, running⟩ = value.text
  /-- wherever it stands in a text. -/
  text : ∀ running scope name rest, w.catalog.named? scope name = some v →
    '\x7d' ∉ name.toList →
    Perspective.expand ⟨w, p, running⟩
        ((TextPiece.braced (.variableText scope) name).written ++ rest) =
      value.text ++ Perspective.expand ⟨w, p, running⟩ rest

/-- A variable that is found by its name is described as it was found. -/
theorem variableByTextId?_of_named? {set : DescriptorSet} (hcatalog : w.catalog = set.catalog)
    {scope : Scope} {name : String} (h : w.catalog.named? scope name = some v) :
    ∃ d, w.catalog.variableByTextId? scope name = some d ∧ v = ⟨scope, d.id⟩ ∧
      w.catalog.vars.get? v = some d := by
  obtain ⟨d, hd, rfl⟩ := Option.map_eq_some_iff.mp h
  have hfound := List.find?_some hd
  simp only [Bool.and_eq_true, beq_iff_eq] at hfound
  obtain ⟨⟨rfl, -⟩, -⟩ := hfound
  refine ⟨d, hd, rfl, ?_⟩
  obtain ⟨key, hkey⟩ := Table.mem_values_iff.mp (List.mem_of_find?_eq_some hd)
  rw [hcatalog] at hkey ⊢
  have href : d.ref = key := Table.key_of_get?_ofValues hkey
  rw [href]
  exact hkey

/-- The value that is stored for a variable, or the one of a variable that was never set, has the
described type in a well-typed setting. -/
theorem dataType_stored? {d : VariableDescriptor} (h : Setting.IsWellTyped ⟨w, p⟩)
    (hd : w.catalog.vars.get? v = some d) :
    ((w.stored? p v).getD (.zero d.dataType)).dataType = d.dataType := by
  cases hstored : w.stored? p v with
  | none => exact Value.dataType_zero _
  | some value =>
    have howner := (Setting.stored?_eq ⟨w, p⟩ v).symm.trans hstored
    obtain ⟨k, hk, hvalue⟩ := Option.bind_eq_some_iff.mp howner
    have hscope := Setting.scope_of_owner? hk
    refine h k v.id d value ?_ hvalue
    rw [hscope]
    exact hd

/-- Values of a type are read by what takes them apart, and a variable that was never set by what a
reader answers then, which is the zero of the type. -/
theorem getD_stored?_of_dataType {α : Type} {type described : DataType} {get? : Value → Option α}
    {make : α → Value} {blank : α}
    (hget : ∀ value, value.dataType = type → (get? value).map make = some value)
    (hzero : Value.zero type = make blank)
    (h : ((w.stored? p v).getD (.zero described)).dataType = type) :
    (w.stored? p v).getD (.zero described) = make (((w.stored? p v).bind get?).getD blank) := by
  cases hstored : w.stored? p v with
  | none =>
    rw [hstored, Option.getD_none, Value.dataType_zero] at h
    rw [h]
    exact hzero
  | some value =>
    rw [hstored, Option.getD_some] at h
    obtain ⟨content, hcontent, hmake⟩ := Option.map_eq_some_iff.mp (hget value h)
    simp [hcontent, hmake]

/-- In a well-typed world all readers of a described variable agree. -/
theorem IsWellTyped.readsAs {set : DescriptorSet} {id : PlayerId} {d : VariableDescriptor}
    (h : w.IsWellTyped) (hcatalog : w.catalog = set.catalog) (hp : w.player? id = some p)
    (hd : w.catalog.vars.get? v = some d) :
    w.ReadsAs p v ((w.stored? p v).getD (.zero d.dataType)) := by
  have htype := dataType_stored? (h.setting hp) hd
  have htoken (running : Option Instance) (scope : Scope) (name : String)
      (hname : w.catalog.named? scope name = some v) :
      (TextPiece.braced (.variableText scope) name).value ⟨w, p, running⟩ =
        ((w.stored? p v).getD (.zero d.dataType)).text := by
    obtain ⟨d', hfound, rfl, hd'⟩ := variableByTextId?_of_named? hcatalog hname
    rw [hd] at hd'
    cases hd'
    simp [TextPiece.value, BracedToken.value?, hfound]
  have hinteger (value : Value) (hvalue : value.dataType = .integer) :
      value.integer?.map Value.integer = some value := by
    cases value <;> cases hvalue
    rfl
  have hboolean (value : Value) (hvalue : value.dataType = .boolean) :
      value.boolean?.map Value.boolean = some value := by
    cases value <;> cases hvalue
    rfl
  have hstring (value : Value) (hvalue : value.dataType = .string) :
      value.string?.map Value.string = some value := by
    cases value <;> cases hvalue
    rfl
  refine ⟨?_, getD_stored?_of_dataType hinteger rfl, getD_stored?_of_dataType hboolean rfl,
    getD_stored?_of_dataType hstring rfl, getD_stored?_of_dataType hinteger rfl, htoken, ?_⟩
  · cases hstored : w.stored? p v with
    | none => simp [current?, hd, hstored]
    | some value =>
      rw [hstored] at htype
      exact current?_of_stored? hd htype hstored
  · intro running scope name rest hname hbrace
    rw [Perspective.expand_written_append _ hbrace, htoken running scope name hname]

/-- Whatever scripts do and players answer, a well-typed world stays well typed; and in it every
described variable has, for every player, one value of its type that all readers agree on. -/
theorem isWellTyped_of_acts {set : DescriptorSet} (hcatalog : w.catalog = set.catalog)
    (h : w.IsWellTyped) (hacts : w.Acts w') :
    w'.IsWellTyped ∧
      ∀ id p, w'.player? id = some p → ∀ v d, w'.catalog.vars.get? v = some d →
        ∃ value, value.dataType = d.dataType ∧ w'.ReadsAs p v value := by
  have h' := hacts.isWellTyped h
  refine ⟨h', ?_⟩
  intro id p hp v d hd
  have hcatalog' := hacts.config_catalog.2.trans hcatalog
  exact ⟨_, dataType_stored? (h'.setting hp) hd, h'.readsAs hcatalog' hp hd⟩

/-! ### The purses of a party -/

/-- A variable for an amount of money. -/
def purse : VariableDescriptor := ⟨⟨7⟩, .player, "Purse", .integer, "purse"⟩

/-- Two players of a party, in front of a command that fills the purses of both. -/
def beforeSharing : Turn where
  world :=
    let party := [⟨3⟩, ⟨4⟩]
    (World.start {} { DescriptorSet.empty with vars := [purse] }.catalog (.start 0)
        (.of (fun k => .ofNat 128 (k + 100)) id)
      |>.addPlayer { Player.fresh ⟨3⟩ "Ann" .nil 1 1 with party := party }).addPlayer
        { Player.fresh ⟨4⟩ "Bob" .nil 1 1 with party := party }
  run := .start ⟨6⟩ ⟨5⟩ ⟨3⟩
    ((Page.draft ⟨1⟩ "share" ⟨2⟩).withRoot [.setVariable purse.ref (.integer (.set 5)) true])

/-- The turn behind the command. -/
def afterSharing : Turn := match beforeSharing.step with
  | .ok r => r.2
  | .error _ => beforeSharing

/-- What the first player puts into the purses, the other one reads in every way. -/
theorem isWellTyped_of_acts_sharing :
    ∃ bob, afterSharing.world.player? ⟨4⟩ = some bob ∧
      afterSharing.world.ReadsAs bob purse.ref (.integer 5) ∧
      Perspective.expand ⟨afterSharing.world, bob, none⟩ "\\pv\x7bPURSE\x7d!" = "5!" := by
  have htyped : beforeSharing.world.IsWellTyped := by
    refine ⟨fun id p hp => ?_, nofun, nofun, nofun⟩
    intro i d value _ hvalue
    have hempty : p.vars = .empty := by
      change (Table.insert (Table.insert Table.empty _ _) _ _).get? id = some p at hp
      rw [Table.get?_insert_eq_ite, Table.get?_insert_eq_ite] at hp
      split at hp
      · cases hp
        rfl
      · split at hp
        · cases hp
          rfl
        · cases hp
    rw [hempty] at hvalue
    cases hvalue
  have hacts : beforeSharing.world.Acts afterSharing.world :=
    .single (.step (i := beforeSharing.run) (r := (.ok .completed, afterSharing)) rfl)
  have hcatalog : beforeSharing.world.catalog =
      DescriptorSet.catalog { DescriptorSet.empty with vars := [purse] } := rfl
  obtain ⟨-, hreads⟩ := isWellTyped_of_acts hcatalog htyped hacts
  obtain ⟨value, htype, hvalue⟩ := hreads ⟨4⟩ _ rfl purse.ref purse rfl
  have hfive := hvalue.integer htype
  rw [hfive] at hvalue
  refine ⟨_, rfl, hvalue, ?_⟩
  exact hvalue.text none .player "PURSE" "!" rfl (by decide)

end World

end EventScript
