import EventScript.Proofs.Scene.Parts
import EventScript.Proofs.Turn.Fault
import EventScript.Proofs.Turn.Player
import Mathlib.Data.List.DropRight
import Mathlib.Logic.Function.Basic

/-!
# Names

Players and guilds have names, and no two of a kind have the same one up to the case of letters. A
name is given by few commands: it is free then, except for the player who is renamed, and it is a
proper one. So names stay different whoever is renamed and whatever guilds come and go.
-/

namespace EventScript

open EventScript.Text

/-! ## Proper names -/

/-- Nothing is left to take from a text that was trimmed. -/
theorem Text.trimChars_trimChars (cs : List Char) : trimChars (trimChars cs) = trimChars cs := by
  have htrim (cs : List Char) : trimChars cs = (cs.dropWhile isBlank).rdropWhile isBlank := rfl
  have hfront : (trimChars cs).dropWhile isBlank = trimChars cs := by
    rw [htrim]
    cases hcs : cs.dropWhile isBlank with
    | nil => rfl
    | cons c rest =>
      -- The first character is not blank, so it stays when the end is trimmed.
      have hc : isBlank c = false := by
        have hhead := List.head?_dropWhile_not isBlank cs
        rw [hcs] at hhead
        simpa using hhead
      rw [← List.singleton_append, List.rdropWhile, List.reverse_append, List.reverse_singleton,
        List.dropWhile_append]
      split <;> simp [hc]
  rw [htrim (trimChars cs), hfront, htrim]
  exact List.rdropWhile_idempotent isBlank _

/-- A proper name is trimmed, has a length between two bounds, and consists of letters, digits,
spaces and underscores. -/
structure IsProperName (name : String) (shortest longest : UInt64) : Prop where
  trimmed : trim name = name
  shortest : shortest.toNat ≤ name.length
  longest : name.length ≤ longest.toNat
  characters : ∀ c ∈ name.toList, isAlphanumeric c = true ∨ c = ' ' ∨ c = '_'

/-- A valid name is a proper one when it was trimmed. -/
theorem isProperName_of_isValidName {text : String} {shortest longest : UInt64}
    (h : isValidName (trim text) shortest longest = true) :
    IsProperName (trim text) shortest longest := by
  unfold isValidName at h
  simp only [Bool.and_eq_true, decide_eq_true_eq, List.all_eq_true, Bool.or_eq_true, beq_iff_eq,
    or_assoc] at h
  obtain ⟨⟨hshortest, hlongest⟩, hcharacters⟩ := h
  refine ⟨?_, hshortest, hlongest, hcharacters⟩
  unfold trim
  rw [String.toList_ofList, trimChars_trimChars]

/-! ## Different names -/

/-- No two names are the same up to the case of letters. -/
def AreDistinct {κ : Type} (names : κ → Option String) : Prop :=
  ∀ a b m n, names a = some m → names b = some n → eqIgnoreCase m n = true → a = b

namespace AreDistinct

variable {κ : Type} [DecidableEq κ] {names : κ → Option String} {a : κ}

/-- A name that is there after one was replaced was put in, or it was there before. -/
theorem eq_or_of_update {name : Option String} {b : κ} {n : String}
    (h : Function.update names a name b = some n) : name = some n ∨ names b = some n := by
  rw [Function.update_apply] at h
  split at h
  · exact .inl h
  · exact .inr h

/-- Giving a name that nobody else has. -/
theorem assign (h : AreDistinct names) {name : String}
    (hfree : ∀ b n, b ≠ a → names b = some n → eqIgnoreCase n name = false) :
    AreDistinct (Function.update names a (some name)) := by
  intro b c m n hb hc hsame
  rw [Function.update_apply] at hb hc
  split at hb
  · next hba =>
    split at hc
    · next hca => rw [hba, hca]
    · next hca =>
      cases hb
      rw [eqIgnoreCase_comm, hfree c n hca hc] at hsame
      cases hsame
  · next hba =>
    split at hc
    · cases hc
      rw [hfree b m hba hb] at hsame
      cases hsame
    · exact h b c m n hb hc hsame

/-- Taking a name away. -/
theorem remove (h : AreDistinct names) : AreDistinct (Function.update names a none) := by
  intro b c m n hb hc hsame
  have hb := (eq_or_of_update hb).resolve_left nofun
  have hc := (eq_or_of_update hc).resolve_left nofun
  exact h b c m n hb hc hsame

end AreDistinct

/-- The names of players and guilds. -/
@[ext]
structure Names where
  /-- The loaded players, each with its name. -/
  player : PlayerId → Option String
  /-- The guilds, each with its name. -/
  guild : GuildId → Option String

namespace Names

variable {r r' : Names} {limits : PlayerConfig} {runner : PlayerId}

/-- Rename a player. -/
def rename (r : Names) (id : PlayerId) (name : String) : Names :=
  { r with player := Function.update r.player id (some name) }

/-- Give a guild a name. -/
def found (r : Names) (g : GuildId) (name : String) : Names :=
  { r with guild := Function.update r.guild g (some name) }

/-- Remove a guild. -/
def disband (r : Names) (g : GuildId) : Names :=
  { r with guild := Function.update r.guild g none }

/-- What the script of a player may do to names. -/
inductive Move (limits : PlayerConfig) (r : Names) (runner : PlayerId) : Names → Prop
  | stay : Move limits r runner r
  /-- The player is given a proper name that no other player has. -/
  | rename {name : String}
      (proper : IsProperName name limits.minNameLength limits.maxNameLength)
      (free : ∀ id n, id ≠ runner → r.player id = some n → eqIgnoreCase n name = false) :
      Move limits r runner (r.rename runner name)
  /-- A guild is given a proper name that no guild has. -/
  | found {g : GuildId} {name : String}
      (proper : IsProperName name limits.minGuildNameLength limits.maxGuildNameLength)
      (free : ∀ g' n, r.guild g' = some n → eqIgnoreCase n name = false) :
      Move limits r runner (r.found g name)
  | disband {g : GuildId} : Move limits r runner (r.disband g)

/-- Every move keeps the names of players and those of guilds different. -/
theorem Move.areDistinct (h : r.Move limits runner r') (hplayer : AreDistinct r.player)
    (hguild : AreDistinct r.guild) : AreDistinct r'.player ∧ AreDistinct r'.guild := by
  cases h with
  | stay => exact ⟨hplayer, hguild⟩
  | rename hproper hfree => exact ⟨hplayer.assign hfree, hguild⟩
  | found hproper hfree => exact ⟨hplayer, hguild.assign fun g n _ hg => hfree g n hg⟩
  | disband => exact ⟨hplayer, hguild.remove⟩

/-- A name that a player did not have before a move is a proper one. -/
theorem Move.proper_player (h : r.Move limits runner r') {id : PlayerId} {n : String}
    (hnew : r'.player id = some n) (hold : r.player id ≠ some n) :
    IsProperName n limits.minNameLength limits.maxNameLength := by
  cases h with
  | stay | found | disband => exact absurd hnew hold
  | rename hproper hfree =>
    rcases AreDistinct.eq_or_of_update hnew with hname | hkept
    · cases hname
      exact hproper
    · exact absurd hkept hold

/-- So is a name that a guild did not have. -/
theorem Move.proper_guild (h : r.Move limits runner r') {g : GuildId} {n : String}
    (hnew : r'.guild g = some n) (hold : r.guild g ≠ some n) :
    IsProperName n limits.minGuildNameLength limits.maxGuildNameLength := by
  cases h with
  | stay | rename => exact absurd hnew hold
  | found hproper hfree =>
    rcases AreDistinct.eq_or_of_update hnew with hname | hkept
    · cases hname
      exact hproper
    · exact absurd hkept hold
  | disband =>
    exact absurd ((AreDistinct.eq_or_of_update hnew).resolve_left nofun) hold

end Names

/-! ## Where the names are -/

/-- The names in a world. -/
def World.names (w : World) : Names where
  player id := (w.player? id).map Player.name
  guild g := (w.guild? g).map Guild.name

/-- The names that a setting leads to when its player is kept under an identifier. -/
def Setting.names (s : Setting) (runner : PlayerId) : Names :=
  { s.world.names with player := Function.update s.world.names.player runner (some s.player.name) }

namespace Setting

/-- Keeping the player of a setting leads to the names of the setting. -/
theorem names_putPlayer (s : Setting) (runner : PlayerId) :
    (s.world.putPlayer runner s.player).names = s.names runner := by
  refine Names.ext (funext fun id => ?_) rfl
  refine (congrArg (Option.map Player.name)
    (Table.get?_insert_eq_ite s.world.players runner id s.player)).trans ?_
  refine (apply_ite (Option.map Player.name) ..).trans ?_
  exact (Function.update_apply s.world.names.player runner (some s.player.name) id).symm

/-- The setting of a loaded player has the names of its world. -/
theorem names_of_loaded {w : World} {runner : PlayerId} {p : Player}
    (h : w.player? runner = some p) : (Setting.mk w p).names runner = w.names := by
  have hname : w.names.player runner = some p.name := congrArg (Option.map Player.name) h
  refine Names.ext ?_ rfl
  exact (congrArg (Function.update w.names.player runner) hname.symm).trans
    (Function.update_eq_self ..)

end Setting

/-- The names in a world are told without parts that do not concern membership. -/
theorem World.names_without (w : World) {parts : List Part} (h : .membership ∉ parts) :
    (w.without parts).names = w.names := by
  apply Names.ext
  · funext id
    change ((w.without parts).player? id).map Player.name = (w.player? id).map Player.name
    rw [player?_without, Option.map_map]
    rfl
  · funext g
    change ((w.without parts).guild? g).map Guild.name = (w.guild? g).map Guild.name
    rw [w.guild?_without h, Option.map_map]
    rfl

/-- So are those of a setting without parts that do not concern the player's name either. -/
theorem Setting.names_without (s : Setting) (runner : PlayerId) {parts : List Part}
    (hname : .name ∉ parts) (hmembership : .membership ∉ parts) :
    (s.without parts).names runner = s.names runner := by
  have hplayer : (s.without parts).player.name = s.player.name :=
    Part.keep_of_not_mem hname "" s.player.name
  have hworld : (s.without parts).world.names = s.world.names :=
    s.world.names_without hmembership
  unfold names
  rw [hplayer, hworld]

namespace World

variable {w : World} {name : String}

/-- A name is not taken when no other player has it. -/
theorem isPlayerNameTaken_eq_false_iff {except : PlayerId} :
    w.isPlayerNameTaken name except = false ↔
      ∀ id p, w.player? id = some p → id ≠ except → eqIgnoreCase p.name name = false := by
  unfold isPlayerNameTaken
  simp only [List.any_eq_false, Bool.and_eq_true, bne_iff_ne, ne_eq, not_and, Bool.not_eq_true]
  constructor
  · intro h id p hp
    exact h (id, p) (Table.mem_entries_iff.mpr hp)
  · intro h ⟨id, p⟩ hmem
    exact h id p (Table.mem_entries_iff.mp hmem)

/-- No guild is found by a name when none has it. -/
theorem guildByName?_eq_none_iff :
    w.guildByName? name = none ↔
      ∀ id g, w.guild? id = some g → eqIgnoreCase g.name name = false := by
  unfold guildByName?
  rw [List.find?_eq_none]
  constructor
  · intro h id g hg
    exact Bool.not_eq_true _ ▸ h g (Table.mem_values_iff.mpr ⟨id, hg⟩)
  · intro h g hmem
    obtain ⟨id, hg⟩ := Table.mem_values_iff.mp hmem
    exact Bool.not_eq_true _ ▸ h id g hg

end World

/-! ## What scripts do to names -/

namespace Scene

variable (s : Scene) (runner : PlayerId)

/-- What concerns neither the player's name nor membership keeps the names. -/
theorem names_of_rest {s s' : Scene} {parts : List Part} (h : s'.rest parts = s.rest parts)
    (hname : .name ∉ parts) (hmembership : .membership ∉ parts) (runner : PlayerId) :
    s'.names runner = s.names runner := by
  have hnames := congrArg (fun s : Setting => s.names runner) h
  exact (s'.names_without runner hname hmembership).symm.trans
    (hnames.trans (s.names_without runner hname hmembership))

/-- Branching keeps the names. -/
theorem names_branchOn (success : Bool) (bs : List BranchId) :
    (s.branchOn success bs).names runner = s.names runner :=
  names_of_rest (s.rest_branchOn [] success bs) nofun nofun runner

/-- A player is renamed to a proper name that is free, or not at all. -/
theorem names_changeName (source : VariableId) (bs : List BranchId)
    (hrunner : s.player.id = runner) :
    (s.names runner).Move s.world.config.player runner
      ((s.changeName source bs).names runner) := by
  unfold changeName
  dsimp only
  split
  · next hvalid =>
    obtain ⟨hvalid, hfree⟩ := Bool.and_eq_true_iff.mp hvalid
    rw [Bool.not_eq_true', World.isPlayerNameTaken_eq_false_iff, hrunner] at hfree
    rw [names_branchOn]
    have hnames : ((s.withPlayer { s.player with name := s.nameIn source }).announce .name).names
        runner = (s.names runner).rename runner (s.nameIn source) :=
      Names.ext (Function.update_idem ..).symm rfl
    rw [hnames]
    refine .rename (isProperName_of_isValidName hvalid) fun id n hid hn => ?_
    have hkept : (s.names runner).player id = s.world.names.player id :=
      Function.update_of_ne hid ..
    obtain ⟨p, hp, rfl⟩ := Option.map_eq_some_iff.mp (hkept.symm.trans hn)
    exact hfree id p hp hid
  · rw [names_branchOn]
    exact .stay

/-- A founded guild gets the name it is founded with. -/
theorem names_foundGuild (name : String) :
    (s.foundGuild name).names runner =
      (s.names runner).found ⟨s.world.supply.ids s.world.supply.idsUsed⟩ name := by
  refine Names.ext rfl (funext fun g => ?_)
  refine (congrArg (Option.map Guild.name) (Table.get?_insert_eq_ite s.world.guilds
    ⟨s.world.supply.ids s.world.supply.idsUsed⟩ g (.fresh _ name s.player.id))).trans ?_
  refine (apply_ite (Option.map Guild.name) ..).trans ?_
  exact (Function.update_apply (s.names runner).guild _ (some name) g).symm

/-- A name that a guild is not refused is valid and free. -/
theorem isValidName_of_guildRefusal? {name : String} (h : s.guildRefusal? name = none) :
    isValidName name s.world.config.player.minGuildNameLength
        s.world.config.player.maxGuildNameLength = true ∧
      s.world.guildByName? name = none := by
  unfold guildRefusal? at h
  dsimp only at h
  split at h
  · cases h
  · split at h
    · cases h
    · next hvalid =>
      split at h
      · cases h
      · next hfree =>
        rw [Bool.not_eq_true', Bool.not_eq_false] at hvalid
        exact ⟨hvalid, Option.not_isSome_iff_eq_none.mp hfree⟩

/-- A guild is founded with a proper name that is free, or not at all. -/
theorem names_createGuild (source : VariableId) (bs : List BranchId) :
    (s.names runner).Move s.world.config.player runner
      ((s.createGuild source bs).names runner) := by
  unfold createGuild
  dsimp only
  split
  · rw [names_branchOn]
    exact .stay
  · next hrefusal =>
    obtain ⟨hvalid, hfree⟩ := s.isValidName_of_guildRefusal? hrefusal
    rw [names_branchOn, names_foundGuild]
    refine .found (isProperName_of_isValidName hvalid) fun g n hn => ?_
    obtain ⟨guild, hguild, rfl⟩ := Option.map_eq_some_iff.mp hn
    exact World.guildByName?_eq_none_iff.mp hfree g guild hguild

/-- A player who leaves a guild keeps the name. -/
theorem names_leaveGuild (w : World) (member : PlayerId) :
    (leaveGuild w member).names = w.names := by
  unfold leaveGuild
  split
  · next p hp =>
    refine Names.ext (funext fun id => ?_) rfl
    exact Table.map_get?_insert_of_eq (b := { p with guild := none }) Player.name hp rfl id
  · rfl

/-- A guild that is removed takes its name along. -/
theorem names_dissolveGuild (g : GuildId) (members : List PlayerId) :
    (s.dissolveGuild g members).names runner = (s.names runner).disband g := by
  have hworld : (s.dissolveGuild g members).world.names = (s.world.removeGuild g).names :=
    foldl_leaveGuild names_leaveGuild _ _
  have hremoved : (s.world.removeGuild g).names = s.world.names.disband g := by
    refine Names.ext rfl (funext fun g' => ?_)
    unfold World.names World.removeGuild World.guild?
    simp only [Table.get?_erase, Table.rank_inj, Names.disband, Function.update_apply]
    by_cases hg : g' = g
    · rw [if_pos hg, if_pos hg.symm, Option.map_none]
    · rw [if_neg hg, if_neg (Ne.symm hg)]
  unfold Setting.names
  rw [hworld, hremoved]
  rfl

/-- Disbanding a guild removes it, or does nothing. -/
theorem names_disbandGuild (bs : List BranchId) :
    (s.names runner).Move s.world.config.player runner ((s.disbandGuild bs).names runner) := by
  have hrefuse : (s.refuseDisbanding bs).names runner = s.names runner :=
    (s.chat _ .red .guild).names_branchOn runner false bs
  unfold disbandGuild
  split
  · rw [names_branchOn]
    exact .stay
  · split
    · split
      · rw [names_branchOn, names_dissolveGuild]
        exact .disband
      · rw [hrefuse]
        exact .stay
    · rw [hrefuse]
      exact .stay

/-- Every command makes one move of names. -/
theorem names_execute {c : Command} {s' : Scene} (h : s.execute c = .ok s')
    (hrunner : s.player.id = runner) :
    (s.names runner).Move s.world.config.player runner (s'.names runner) := by
  have hother (hn : c.parts.contains .name = false) (hm : c.parts.contains .membership = false) :
      (s.names runner).Move s.world.config.player runner (s'.names runner) :=
    names_of_rest (s.rest_execute h) (Part.not_mem_of_contains hn) (Part.not_mem_of_contains hm)
      runner ▸ .stay
  cases c with
  | changeName source bs =>
    cases h
    exact s.names_changeName runner source bs hrunner
  | createGuild source bs =>
    cases h
    exact s.names_createGuild runner source bs
  | disbandGuild bs =>
    cases h
    exact s.names_disbandGuild runner bs
  | _ => exact hother rfl rfl

/-- A response keeps the names. -/
theorem names_resume {asked : Suspension} {response : Response} {s' : Scene}
    (h : s.resume asked response = .ok s') : s'.names runner = s.names runner := by
  refine names_of_rest (s.rest_resume h) ?_ ?_ runner
  · unfold Suspension.parts
    split <;> simp
  · unfold Suspension.parts
    split <;> simp

end Scene

/-! ## Success and failure -/

/-- Whether a command gives a name. -/
def Command.isNaming : Command → Bool
  | changeName .. | createGuild .. => true
  | _ => false

namespace Scene

/-- What a command that gives a name comes to. -/
inductive NamingCase (s : Scene) (c : Command) (s' : Scene) : Prop
  /-- The player has a proper name now, and the script takes its first branch. -/
  | renamed {source : VariableId} {bs : List BranchId} (command : c = .changeName source bs)
      (branch : s'.run = (s.branchOn true bs).run) (name : s'.player.name = s.nameIn source)
      (proper : IsProperName (s.nameIn source) s.world.config.player.minNameLength
        s.world.config.player.maxNameLength)
  /-- The player is in a guild with a proper name now, and the script takes its first branch. -/
  | founded {source : VariableId} {bs : List BranchId} {id : GuildId} {g : Guild}
      (command : c = .createGuild source bs) (branch : s'.run = (s.branchOn true bs).run)
      (joined : s'.player.guild = some id) (guild : s'.world.guild? id = some g)
      (name : g.name = s.nameIn source)
      (proper : IsProperName (s.nameIn source) s.world.config.player.minGuildNameLength
        s.world.config.player.maxGuildNameLength)
  /-- No player and no guild is changed, and the script takes its second branch. -/
  | refused {source : VariableId} {bs : List BranchId}
      (command : c = .changeName source bs ∨ c = .createGuild source bs)
      (branch : s'.run = (s.branchOn false bs).run) (player : s'.player = s.player)
      (players : s'.world.players = s.world.players) (guilds : s'.world.guilds = s.world.guilds)

/-- The branch that is taken is told by the page and the execution. -/
theorem run_branchOn (s s' : Scene) (hrun : s'.run = s.run) (hpage : s'.page = s.page)
    (success : Bool) (bs : List BranchId) :
    (s'.branchOn success bs).run = (s.branchOn success bs).run := by
  unfold branchOn enterBranch
  rw [hpage]
  split
  · split
    · rw [hrun]
    · exact hrun
  · exact hrun

variable (s : Scene)

/-- Renaming a player succeeds or fails. -/
theorem namingCase_changeName (source : VariableId) (bs : List BranchId) :
    s.NamingCase (.changeName source bs) (s.changeName source bs) := by
  have hrenamed (name : String) :
      let named := (s.withPlayer { s.player with name := name }).announce .name
      (named.branchOn true bs).run = (s.branchOn true bs).run ∧
        (named.branchOn true bs).player.name = name := by
    intro named
    exact ⟨run_branchOn s named rfl rfl true bs,
      congrArg (fun s : Setting => s.player.name) (named.toSetting_branchOn true bs)⟩
  unfold changeName
  dsimp only
  split
  · next hvalid =>
    obtain ⟨hrun, hname⟩ := hrenamed (s.nameIn source)
    exact .renamed rfl hrun hname (isProperName_of_isValidName (Bool.and_eq_true_iff.mp hvalid).1)
  · have hsetting := s.toSetting_branchOn false bs
    exact .refused (.inl rfl) rfl (congrArg Setting.player hsetting)
      (congrArg (fun s : Setting => s.world.players) hsetting)
      (congrArg (fun s : Setting => s.world.guilds) hsetting)

/-- So does founding a guild. -/
theorem namingCase_createGuild (source : VariableId) (bs : List BranchId) :
    s.NamingCase (.createGuild source bs) (s.createGuild source bs) := by
  unfold createGuild
  dsimp only
  split
  · next refusal _ =>
    let told := s.chat refusal .red .guild
    have hsetting := told.toSetting_branchOn false bs
    have hplayer : (told.branchOn false bs).player = s.player :=
      (congrArg Setting.player hsetting).trans rfl
    have hplayers : (told.branchOn false bs).world.players = s.world.players :=
      (congrArg (fun s : Setting => s.world.players) hsetting).trans rfl
    have hguilds : (told.branchOn false bs).world.guilds = s.world.guilds :=
      (congrArg (fun s : Setting => s.world.guilds) hsetting).trans rfl
    exact .refused (.inr rfl) (run_branchOn s told rfl rfl false bs) hplayer hplayers hguilds
  · next hrefusal =>
    let founded := s.foundGuild (s.nameIn source)
    let id : GuildId := ⟨s.world.supply.ids s.world.supply.idsUsed⟩
    have hsetting := founded.toSetting_branchOn true bs
    have hjoined : (founded.branchOn true bs).player.guild = some id :=
      congrArg (fun s : Setting => s.player.guild) hsetting
    have hguild : (founded.branchOn true bs).world.guild? id =
        some (.fresh id (s.nameIn source) s.player.id) :=
      (congrArg (fun s : Setting => s.world.guild? id) hsetting).trans (Table.get?_insert_self ..)
    exact .founded rfl (run_branchOn s founded rfl rfl true bs) hjoined hguild rfl
      (isProperName_of_isValidName (s.isValidName_of_guildRefusal? hrefusal).1)

end Scene

/-! ## Worlds -/

namespace World

variable {w w' : World}

/-- No two loaded players have the same name up to the case of letters, and no two guilds have. -/
structure HasDistinctNames (w : World) : Prop where
  players : ∀ {id id' : PlayerId} {p p' : Player}, w.player? id = some p → w.player? id' = some p' →
    eqIgnoreCase p.name p'.name = true → id = id'
  guilds : ∀ {id id' : GuildId} {g g' : Guild}, w.guild? id = some g → w.guild? id' = some g' →
    eqIgnoreCase g.name g'.name = true → id = id'

/-- What is seen of the values of a table has no name twice when the values have none twice. -/
private theorem areDistinct_map_iff {κ α : Type} {find : κ → Option α} {name : α → String} :
    AreDistinct (fun k => (find k).map name) ↔ ∀ {k k' : κ} {a a' : α}, find k = some a →
      find k' = some a' → eqIgnoreCase (name a) (name a') = true → k = k' := by
  constructor
  · intro h k k' a a' ha ha' hsame
    exact h k k' (name a) (name a') (Option.map_eq_some_iff.mpr ⟨a, ha, rfl⟩)
      (Option.map_eq_some_iff.mpr ⟨a', ha', rfl⟩) hsame
  · intro h k k' m n hm hn hsame
    obtain ⟨a, ha, rfl⟩ := Option.map_eq_some_iff.mp hm
    obtain ⟨a', ha', rfl⟩ := Option.map_eq_some_iff.mp hn
    exact h ha ha' hsame

/-- Whether names are different is told by the names in the world. -/
theorem hasDistinctNames_iff :
    w.HasDistinctNames ↔ AreDistinct w.names.player ∧ AreDistinct w.names.guild := by
  constructor
  · intro h
    exact ⟨areDistinct_map_iff.mpr h.players, areDistinct_map_iff.mpr h.guilds⟩
  · rintro ⟨hplayers, hguilds⟩
    exact ⟨areDistinct_map_iff.mp hplayers, areDistinct_map_iff.mp hguilds⟩

/-- Names that one world has and another one did not have are proper ones. -/
structure NamesProperly (w w' : World) : Prop where
  players : ∀ {id : PlayerId} {p : Player}, w'.player? id = some p →
    (w.player? id).map Player.name ≠ some p.name →
    IsProperName p.name w.config.player.minNameLength w.config.player.maxNameLength
  guilds : ∀ {id : GuildId} {g : Guild}, w'.guild? id = some g →
    (w.guild? id).map Guild.name ≠ some g.name →
    IsProperName g.name w.config.player.minGuildNameLength w.config.player.maxGuildNameLength

/-- Whatever happens in a world is a move of names. -/
theorem Act.names (h : w.Act w') (hw : w.IsIndexed) :
    ∃ runner, w.names.Move w.config.player runner w'.names := by
  cases h.cases with
  | idle => exact ⟨⟨0⟩, .stay⟩
  | @executed runner p i page c s hplayer hscene =>
    refine ⟨runner, ?_⟩
    rw [Setting.names_putPlayer, ← Setting.names_of_loaded hplayer]
    exact Scene.names_execute _ runner hscene (hw.players hplayer)
  | @resumed runner p i page asked response s hplayer hscene =>
    refine ⟨runner, ?_⟩
    rw [Setting.names_putPlayer, ← Setting.names_of_loaded hplayer,
      Scene.names_resume _ runner hscene]
    exact .stay

/-- Whatever happens gives proper names. -/
theorem Act.namesProperly (h : w.Act w') (hw : w.IsIndexed) : w.NamesProperly w' := by
  obtain ⟨runner, hmove⟩ := h.names hw
  exact ⟨fun hp => hmove.proper_player (congrArg (Option.map Player.name) hp),
    fun hg => hmove.proper_guild (congrArg (Option.map Guild.name) hg)⟩

/-- Whatever happens, names stay different. -/
theorem Acts.hasDistinctNames (h : w.Acts w') (hw : w.IsIndexed) (hnames : w.HasDistinctNames) :
    w'.HasDistinctNames := by
  induction h with
  | refl => exact hnames
  | tail hacts hact ih =>
    obtain ⟨runner, hmove⟩ := hact.names (Acts.isIndexed hacts hw)
    obtain ⟨hplayers, hguilds⟩ := hasDistinctNames_iff.mp ih
    exact hasDistinctNames_iff.mpr (hmove.areDistinct hplayers hguilds)

/-- When no two players and no two guilds have the same name, that stays so whatever scripts do and
players answer. Every name that is new is a proper one. And a command that is to give a name either
gives a proper one and succeeds, or fails and changes no player and no guild. -/
theorem hasDistinctNames_of_acts (hw : w.IsIndexed) (hnames : w.HasDistinctNames)
    (hacts : w.Acts w') :
    w'.HasDistinctNames ∧
      (∀ {w'' : World}, w'.Act w'' → w'.NamesProperly w'') ∧
      ∀ {i : Instance} {d : Deed}, (Turn.mk w' i).deed? = some d → d.command.isNaming = true →
        d.scene.world = w' ∧ w'.player? i.player = some d.scene.player ∧
          ∃ s, (Turn.mk w' i).step =
              .ok (Turn.conclude ⟨s.world.putPlayer i.player s.player, s.run⟩) ∧
            d.scene.NamingCase d.command s := by
  refine ⟨hacts.hasDistinctNames hw hnames,
    fun hact => hact.namesProperly (hacts.isIndexed hw), fun {i d} hdeed hnaming => ?_⟩
  obtain ⟨hworld, hplayer⟩ := Turn.setting_of_deed? hdeed
  have hstep := Turn.step_eq_map_of_deed? hdeed
  refine ⟨hworld, hplayer, ?_⟩
  obtain ⟨scene, c⟩ := d
  cases c with
  | changeName source bs => exact ⟨_, hstep, scene.namingCase_changeName source bs⟩
  | createGuild source bs => exact ⟨_, hstep, scene.namingCase_createGuild source bs⟩
  | _ => cases hnaming

/-! ### A player who is renamed -/

/-- A page that renames the player and founds a guild. -/
def namingPage : Page :=
  (Page.draft ⟨1⟩ "names" ⟨2⟩).withRoot [.changeName ⟨7⟩ [], .createGuild ⟨8⟩ []]

/-- A player with a name in mind, and another one for a guild that is too short. -/
def ann : Player :=
  { Player.fresh ⟨3⟩ "Ann" .nil 0 0 with
    vars := (Table.empty.insert ⟨7⟩ (.string " Zoe ")).insert ⟨8⟩ (.string "x") }

/-- Another player. -/
def bob : Player := Player.fresh ⟨4⟩ "Bob" .nil 0 0

/-- A world with these two players, and the page in front of its first command. -/
def beforeNaming : Turn where
  world := ((World.start {} .empty (.start 0) (.seeded 0)).addPlayer ann).addPlayer bob
  run := .start ⟨5⟩ ⟨6⟩ ⟨3⟩ namingPage

/-- The turn behind the first command. -/
def afterNaming : Turn := match beforeNaming.step with
  | .ok r => r.2
  | .error _ => beforeNaming

/-- The player is renamed, the names are still different, and the guild is refused. -/
theorem hasDistinctNames_ann :
    afterNaming.world.HasDistinctNames ∧
      (afterNaming.world.player? ⟨3⟩).map Player.name = some "Zoe" ∧
      ∃ d r, afterNaming.deed? = some d ∧ d.command = .createGuild ⟨8⟩ [] ∧
        afterNaming.step = .ok r ∧ (r.2.world.player? ⟨3⟩).map Player.guild = some none := by
  have hw : beforeNaming.world.IsIndexed := ((IsIndexed.start ..).addPlayer ann).addPlayer bob
  have hnames : beforeNaming.world.HasDistinctNames := by
    refine ⟨fun {id id' p p'} hp hp' hsame => ?_, nofun⟩
    have hentries : beforeNaming.world.players.entries = [(⟨3⟩, ann), (⟨4⟩, bob)] := rfl
    have hmem := Table.mem_entries_iff.mpr hp
    have hmem' := Table.mem_entries_iff.mpr hp'
    rw [hentries] at hmem hmem'
    simp only [List.mem_cons, List.not_mem_nil, or_false, Prod.mk.injEq] at hmem hmem'
    rcases hmem with ⟨rfl, rfl⟩ | ⟨rfl, rfl⟩ <;> rcases hmem' with ⟨rfl, rfl⟩ | ⟨rfl, rfl⟩
    · rfl
    · exact absurd hsame (by decide)
    · exact absurd hsame (by decide)
    · rfl
  have hacts : beforeNaming.world.Acts afterNaming.world :=
    .single (.step (show beforeNaming.step = .ok (.ok .continue, afterNaming) from rfl))
  obtain ⟨hafter, -, hcommand⟩ := hasDistinctNames_of_acts hw hnames hacts
  obtain ⟨-, -, s, hstep, hcase⟩ := hcommand (i := afterNaming.run) rfl rfl
  refine ⟨hafter, rfl, _, _, rfl, rfl, hstep, ?_⟩
  cases hcase with
  | renamed hcommand => cases hcommand
  | founded hcommand _ _ _ _ hproper =>
    cases hcommand
    exact absurd hproper.shortest (by decide)
  | refused _ _ hplayer =>
    rw [Turn.conclude_eq]
    exact (congrArg (Option.map Player.guild) (Table.get?_insert_self ..)).trans
      (congrArg (fun p : Player => some p.guild) hplayer)

end World

end EventScript
