import EventScript.Proofs.Persistence.Run
import EventScript.Proofs.Scene.Parts
import EventScript.Proofs.Turn.Act

/-!
# Who is in which guild

Membership is kept twice: a player knows its guild, and a guild lists its members. Only founding and
disbanding guilds concern it, and both sides agree all the time.
-/

namespace EventScript

/-- Membership in guilds, and the identifiers that founded guilds are given. -/
@[ext]
structure Roster where
  /-- The loaded players, each with its guild if it is in one. -/
  guild : PlayerId → Option (Option GuildId)
  /-- The guilds, each with its members. -/
  members : GuildId → Option (List PlayerId)
  /-- The identifiers, in the order they are given out. -/
  ids : Nat → BitVec 128
  /-- How many identifiers were given out. -/
  idsUsed : Nat

/-- The roster of a world. -/
def World.roster (w : World) : Roster where
  guild id := (w.player? id).map Player.guild
  members id := (w.guild? id).map Guild.members
  ids := w.supply.ids
  idsUsed := w.supply.idsUsed

/-- The roster that a setting leads to when its player is kept under an identifier. -/
def Setting.roster (s : Setting) (runner : PlayerId) : Roster :=
  { s.world.roster with
    guild := fun id => if id = runner then some s.player.guild else s.world.roster.guild id }

/-- Keeping the player of a setting leads to the roster of the setting. -/
theorem Setting.roster_putPlayer (s : Setting) (runner : PlayerId) :
    (s.world.putPlayer runner s.player).roster = s.roster runner := by
  have hguild : (s.world.putPlayer runner s.player).roster.guild = (s.roster runner).guild := by
    funext id
    refine (congrArg (Option.map Player.guild)
      (Table.get?_insert_eq_ite s.world.players runner id s.player)).trans ?_
    exact apply_ite ..
  exact congrArg (fun guild => { s.world.roster with guild := guild }) hguild

/-- The setting of a loaded player has the roster of its world. -/
theorem Setting.roster_of_loaded {w : World} {runner : PlayerId} {p : Player}
    (h : w.player? runner = some p) : (Setting.mk w p).roster runner = w.roster := by
  have hguild : ((Setting.mk w p).roster runner).guild = w.roster.guild := by
    funext id
    by_cases hid : id = runner
    · simp [roster, World.roster, hid, h]
    · simp [roster, World.roster, hid]
  exact congrArg (fun guild => { w.roster with guild := guild }) hguild

/-! ## What does not concern membership -/

/-- The roster of a world is told without parts that concern neither membership nor spawned
characters. -/
theorem World.roster_without (w : World) {parts : List Part} (hmembership : .membership ∉ parts)
    (hentities : .entities ∉ parts) : (w.without parts).roster = w.roster := by
  apply Roster.ext
  · funext id
    change ((w.without parts).player? id).map Player.guild = (w.player? id).map Player.guild
    rw [player?_without, Option.map_map]
    exact congrArg (Option.map · _) (funext fun p => Part.keep_of_not_mem hmembership none p.guild)
  · funext id
    change ((w.without parts).guild? id).map Guild.members = (w.guild? id).map Guild.members
    rw [w.guild?_without hmembership, Option.map_map]
    rfl
  · rfl
  · exact (Part.keep_of_not_mem hmembership _ _).trans (Part.keep_of_not_mem hentities _ _)

/-- So is the roster of a setting. -/
theorem Setting.roster_without (s : Setting) (runner : PlayerId) {parts : List Part}
    (hmembership : .membership ∉ parts) (hentities : .entities ∉ parts) :
    (s.without parts).roster runner = s.roster runner := by
  have hplayer : (s.without parts).player.guild = s.player.guild :=
    Part.keep_of_not_mem hmembership none s.player.guild
  have hworld : (s.without parts).world.roster = s.world.roster :=
    s.world.roster_without hmembership hentities
  unfold roster
  rw [hplayer, hworld]

namespace Roster

variable {r r' : Roster} {runner : PlayerId}

/-! ## Moves -/

/-- Give out an identifier. -/
def draw (r : Roster) : Roster := { r with idsUsed := r.idsUsed + 1 }

/-- The next guild to be founded. -/
def nextGuild (r : Roster) : GuildId := ⟨r.ids r.idsUsed⟩

/-- Add the next guild with a player as its only member. -/
def found (r : Roster) (founder : PlayerId) : Roster :=
  { r.draw with
    guild := fun id => if id = founder then some (some r.nextGuild) else r.guild id
    members := fun g => if g = r.nextGuild then some [founder] else r.members g }

/-- Let players leave the guilds they are in. -/
def leave (r : Roster) (leaving : List PlayerId) : Roster :=
  { r with guild := fun id => if id ∈ leaving then (r.guild id).map fun _ => none else r.guild id }

/-- Remove a guild; its members leave it. -/
def dissolve (r : Roster) (g : GuildId) (members : List PlayerId) : Roster :=
  { r.leave members with members := fun g' => if g' = g then none else r.members g' }

/-- What the script of a player may do to a roster. -/
inductive Move (r : Roster) (runner : PlayerId) : Roster → Prop
  | stay : Move r runner r
  | draw : Move r runner r.draw
  /-- The player founds a guild without being in one. -/
  | found (free : r.guild runner = some none) : Move r runner (r.found runner)
  /-- The player disbands the guild it is in. -/
  | dissolve {g : GuildId} {members : List PlayerId} (joined : r.guild runner = some (some g))
      (listed : r.members g = some members) : Move r runner (r.dissolve g (runner :: members))

/-- No move takes an identifier back. -/
theorem Move.idsUsed_le (h : r.Move runner r') : r.idsUsed ≤ r'.idsUsed := by
  cases h with
  | stay | dissolve => exact Nat.le_refl _
  | draw | found => exact Nat.le_succ _

/-! ## Agreement of both sides -/

/-- Every loaded player is in the guild that lists it as a member, and in no other. -/
def IsCoherent (r : Roster) : Prop :=
  ∀ id joined, r.guild id = some joined → ∀ g, joined = some g ↔ ∃ members,
    r.members g = some members ∧ id ∈ members

/-- The identifiers that are still given out up to a number of them are different, and no guild has
one of them. -/
structure IsFresh (r : Roster) (limit : Nat) : Prop where
  distinct : ∀ i j, r.idsUsed ≤ i → i < j → j < limit → r.ids i ≠ r.ids j
  unloaded : ∀ j, r.idsUsed ≤ j → j < limit → r.members ⟨r.ids j⟩ = none

/-- Founding a guild keeps both sides in agreement. -/
theorem IsCoherent.found (h : r.IsCoherent) (hfree : r.guild runner = some none)
    (hnext : r.members r.nextGuild = none) : (r.found runner).IsCoherent := by
  intro id joined hid g
  unfold Roster.found at hid ⊢
  dsimp only at hid ⊢
  have hnobody (joined : Option GuildId) (hid : r.guild id = some joined) :
      joined ≠ some r.nextGuild := by
    intro hjoined
    obtain ⟨members, hmembers, -⟩ := (h id joined hid _).mp hjoined
    rw [hnext] at hmembers
    cases hmembers
  by_cases hrunner : id = runner
  · rw [if_pos hrunner] at hid
    cases hid
    subst hrunner
    by_cases hg : g = r.nextGuild
    · simp [hg]
    · have hold := h id none hfree g
      rw [if_neg hg, ← hold]
      simp [Ne.symm hg]
  · rw [if_neg hrunner] at hid
    by_cases hg : g = r.nextGuild
    · have := hnobody joined hid
      simp [hg, hrunner, this]
    · rw [if_neg hg]
      exact h id joined hid g

/-- Disbanding a guild keeps both sides in agreement. -/
theorem IsCoherent.dissolve (h : r.IsCoherent) {g : GuildId} {members : List PlayerId}
    (hjoined : r.guild runner = some (some g)) (hlisted : r.members g = some members) :
    (r.dissolve g (runner :: members)).IsCoherent := by
  intro id joined hid g'
  unfold Roster.dissolve Roster.leave at hid ⊢
  dsimp only at hid ⊢
  -- Whoever is concerned was in the guild that is removed.
  have hold (hid : id ∈ runner :: members) : r.guild id = some (some g) ∨ r.guild id = none := by
    rcases List.mem_cons.mp hid with rfl | hmem
    · exact .inl hjoined
    · cases hguild : r.guild id with
      | none => exact .inr rfl
      | some joined =>
        rw [(h id joined hguild g).mpr ⟨members, hlisted, hmem⟩]
        exact .inl rfl
  by_cases hmem : id ∈ runner :: members
  · rw [if_pos hmem] at hid
    obtain ⟨joined₀, hjoined₀, rfl⟩ := Option.map_eq_some_iff.mp hid
    refine ⟨nofun, ?_⟩
    rintro ⟨members', hmembers', hid'⟩
    by_cases hg : g' = g
    · rw [if_pos hg] at hmembers'
      cases hmembers'
    · rw [if_neg hg] at hmembers'
      have hother := (h id joined₀ hjoined₀ g').mpr ⟨members', hmembers', hid'⟩
      have hsame := (hold hmem).resolve_right (by simp [hjoined₀])
      rw [hjoined₀, hother] at hsame
      exact absurd (Option.some.inj (Option.some.inj hsame)) hg
  · rw [if_neg hmem] at hid
    by_cases hg : g' = g
    · subst hg
      simp only [ite_true, reduceCtorEq, false_and, exists_false, iff_false]
      intro hjoined'
      obtain ⟨members', hmembers', hid'⟩ := (h id joined hid g').mp hjoined'
      rw [hlisted] at hmembers'
      cases hmembers'
      exact hmem (List.mem_cons_of_mem _ hid')
    · rw [if_neg hg]
      exact h id joined hid g'

/-- Identifiers stay fresh when one of them is given out, to a guild or to something else. -/
theorem IsFresh.draw {limit : Nat} (h : r.IsFresh limit) : r.draw.IsFresh limit :=
  ⟨fun i j hi => h.distinct i j (Nat.le_of_succ_le hi),
    fun j hj => h.unloaded j (Nat.le_of_succ_le hj)⟩

/-- Every move keeps both sides in agreement and identifiers fresh. -/
theorem Move.isCoherent {limit : Nat} (h : r.Move runner r') (hlimit : r'.idsUsed ≤ limit)
    (hfresh : r.IsFresh limit) (hcoherent : r.IsCoherent) :
    r'.IsFresh limit ∧ r'.IsCoherent := by
  cases h with
  | stay => exact ⟨hfresh, hcoherent⟩
  | draw => exact ⟨hfresh.draw, hcoherent⟩
  | found hfree =>
    have hnext : r.members r.nextGuild = none := hfresh.unloaded _ (Nat.le_refl _) hlimit
    refine ⟨⟨hfresh.draw.distinct, fun j hj hjlimit => ?_⟩, hcoherent.found hfree hnext⟩
    have hne : (⟨r.ids j⟩ : GuildId) ≠ r.nextGuild := fun heq =>
      hfresh.distinct _ j (Nat.le_refl _) hj hjlimit (congrArg Id.value heq).symm
    exact (if_neg hne).trans (hfresh.draw.unloaded j hj hjlimit)
  | @dissolve g members hjoined hlisted =>
    refine ⟨⟨hfresh.distinct, fun j hj hjlimit => ?_⟩, hcoherent.dissolve hjoined hlisted⟩
    have hnone := hfresh.unloaded j hj hjlimit
    unfold Roster.dissolve
    dsimp only
    split
    · rfl
    · exact hnone

end Roster

namespace Scene

variable (s : Scene) (runner : PlayerId)

/-! ## Founding and disbanding -/

/-- Founding a guild shows in the roster. -/
theorem roster_foundGuild (name : String) (hrunner : s.player.id = runner) :
    (s.foundGuild name).roster runner = (s.roster runner).found runner := by
  apply Roster.ext
  · funext id
    by_cases hid : id = runner
    · subst hid
      exact (if_pos rfl).trans (if_pos rfl).symm
    · refine (if_neg hid).trans (Eq.trans ?_ (if_neg hid).symm)
      exact (if_neg hid).symm
  · funext g
    refine (congrArg (Option.map Guild.members) (Table.get?_insert_eq_ite s.world.guilds
      (s.roster runner).nextGuild g (.fresh _ name s.player.id))).trans ?_
    rw [apply_ite (Option.map Guild.members), hrunner]
    rfl
  · rfl
  · rfl

/-- A player who leaves a guild is in none. -/
theorem roster_leaveGuild (w : World) (member : PlayerId) :
    (leaveGuild w member).roster = w.roster.leave [member] := by
  unfold leaveGuild
  cases hp : w.player? member with
  | none =>
    have hnone : w.roster.guild member = none := congrArg (Option.map Player.guild) hp
    apply Roster.ext
    · funext id
      by_cases hid : id = member
      · simp [Roster.leave, hid, hnone]
      · simp [Roster.leave, hid]
    · rfl
    · rfl
    · rfl
  | some p =>
    have hsome : w.roster.guild member = some p.guild := congrArg (Option.map Player.guild) hp
    apply Roster.ext
    · funext id
      refine (congrArg (Option.map Player.guild)
        (Table.get?_insert_eq_ite w.players member id { p with guild := none })).trans ?_
      by_cases hid : id = member
      · simp [Roster.leave, hid, hsome]
      · simp only [Roster.leave, hid, List.mem_singleton, ite_false]
        rfl
    · rfl
    · rfl
    · rfl

/-- Players who leave their guilds one after the other leave them. -/
theorem roster_leaveGuilds (others : List PlayerId) (w : World) :
    (others.foldl leaveGuild w).roster = w.roster.leave others := by
  induction others generalizing w with
  | nil => simp [Roster.leave]
  | cons member others ih =>
    rw [List.foldl_cons, ih, roster_leaveGuild]
    apply Roster.ext
    · funext id
      by_cases hid : id = member
      · cases hguild : w.roster.guild member <;> simp [Roster.leave, hid, hguild]
      · simp [Roster.leave, hid]
    · rfl
    · rfl
    · rfl

/-- Disbanding a guild shows in the roster. -/
theorem roster_dissolveGuild (g : GuildId) (members : List PlayerId)
    (hrunner : s.player.id = runner) :
    (s.dissolveGuild g members).roster runner =
      (s.roster runner).dissolve g (runner :: members) := by
  have hworld : (s.dissolveGuild g members).world.roster =
      (s.world.removeGuild g).roster.leave (members.filter fun id => id != s.player.id) :=
    roster_leaveGuilds _ _
  have hremoved : (s.world.removeGuild g).roster.members =
      fun g' => if g' = g then none else s.world.roster.members g' := by
    funext g'
    unfold World.roster World.removeGuild World.guild?
    simp only [Table.get?_erase, Table.rank_inj]
    by_cases hg : g' = g
    · rw [if_pos hg, if_pos hg.symm, Option.map_none]
    · rw [if_neg hg, if_neg (Ne.symm hg)]
  have hsetting : (s.dissolveGuild g members).roster runner =
      { (s.world.removeGuild g).roster.leave (members.filter fun id => id != s.player.id) with
        guild := fun id => if id = runner then some none
          else ((s.world.removeGuild g).roster.leave
            (members.filter fun id => id != s.player.id)).guild id } := by
    rw [← hworld]
    rfl
  rw [hsetting]
  apply Roster.ext
  · funext id
    have hsame : (s.world.removeGuild g).roster.guild = s.world.roster.guild := rfl
    by_cases hid : id = runner
    · simp [Roster.leave, Roster.dissolve, Setting.roster, hid]
    · simp [Roster.leave, Roster.dissolve, Setting.roster, hid, hrunner, hsame]
  · exact hremoved
  · rfl
  · rfl

/-! ## All commands and responses -/

/-- What concerns neither membership nor spawned characters does not show in the roster. -/
theorem roster_of_rest {s s' : Scene} {parts : List Part} (h : s'.rest parts = s.rest parts)
    (hmembership : .membership ∉ parts) (hentities : .entities ∉ parts) (runner : PlayerId) :
    s'.roster runner = s.roster runner := by
  have hroster := congrArg (fun s : Setting => s.roster runner) h
  exact (s'.roster_without runner hmembership hentities).symm.trans
    (hroster.trans (s.roster_without runner hmembership hentities))

/-- Branching does not show in the roster. -/
theorem roster_branchOn (success : Bool) (bs : List BranchId) :
    (s.branchOn success bs).roster runner = s.roster runner :=
  roster_of_rest (s.rest_branchOn [] success bs) nofun nofun runner

/-- Who asks to found a guild is in none when one is founded. -/
theorem roster_createGuild (source : VariableId) (bs : List BranchId)
    (hrunner : s.player.id = runner) :
    (s.roster runner).Move runner ((s.createGuild source bs).roster runner) := by
  unfold createGuild
  dsimp only
  split
  · rw [roster_branchOn]
    exact .stay
  · next hrefusal =>
    rw [roster_branchOn, roster_foundGuild _ _ _ hrunner]
    refine .found ((if_pos rfl).trans (congrArg some ?_))
    unfold guildRefusal? at hrefusal
    dsimp only at hrefusal
    split at hrefusal
    · cases hrefusal
    · next hguild => simpa using hguild

/-- Who asks to disband a guild disbands the one it is in, or none. -/
theorem roster_disbandGuild (bs : List BranchId) (hrunner : s.player.id = runner) :
    (s.roster runner).Move runner ((s.disbandGuild bs).roster runner) := by
  have hrefuse : (s.refuseDisbanding bs).roster runner = s.roster runner :=
    (s.chat _ .red .guild).roster_branchOn runner false bs
  unfold disbandGuild
  split
  · rw [roster_branchOn]
    exact .stay
  · next g hg =>
    split
    · next guild hguild =>
      split
      · rw [roster_branchOn, roster_dissolveGuild _ _ _ _ hrunner]
        exact .dissolve ((if_pos rfl).trans (congrArg some hg))
          (congrArg (Option.map Guild.members) hguild)
      · rw [hrefuse]
        exact .stay
    · rw [hrefuse]
      exact .stay

/-- Spawning a character gives out an identifier at most. -/
theorem roster_spawnNpc (npc : NpcId) (place : SpawnTarget) :
    (s.roster runner).Move runner ((s.spawnNpc npc place).roster runner) := by
  unfold spawnNpc
  split
  · split
    · exact .draw
    · exact .stay
  · exact .stay

/-- Every command makes one move of the roster. -/
theorem roster_execute {c : Command} {s' : Scene} (h : s.execute c = .ok s')
    (hrunner : s.player.id = runner) : (s.roster runner).Move runner (s'.roster runner) := by
  have hrest := s.rest_execute h
  -- Outside the four commands neither of the two parts is concerned.
  have hother (hm : c.parts.contains .membership = false)
      (he : c.parts.contains .entities = false) :
      (s.roster runner).Move runner (s'.roster runner) :=
    roster_of_rest hrest (Part.not_mem_of_contains hm) (Part.not_mem_of_contains he) runner ▸ .stay
  cases c with
  | createGuild source bs =>
    cases h
    exact s.roster_createGuild runner source bs hrunner
  | disbandGuild bs =>
    cases h
    exact s.roster_disbandGuild runner bs hrunner
  | spawnNpc npc place =>
    cases h
    exact s.roster_spawnNpc runner npc place
  | despawnNpcs =>
    cases h
    exact .stay
  | _ => exact hother rfl rfl

/-- A response makes no move of the roster. -/
theorem roster_resume {asked : Suspension} {response : Response} {s' : Scene}
    (h : s.resume asked response = .ok s') : s'.roster runner = s.roster runner := by
  refine roster_of_rest (s.rest_resume h) ?_ ?_ runner
  · unfold Suspension.parts
    split <;> simp
  · unfold Suspension.parts
    split <;> simp

end Scene

/-! ## Worlds -/

namespace World

variable {w w' : World}

/-- Every loaded player is in the guild that lists it as a member, and in no other. -/
def HasCoherentGuilds (w : World) : Prop :=
  ∀ id p, w.player? id = some p → ∀ g, p.guild = some g ↔
    ∃ guild, w.guild? g = some guild ∧ p.id ∈ guild.members

/-- Whether both sides agree is a matter of the roster. -/
theorem hasCoherentGuilds_iff (hw : w.IsIndexed) : w.HasCoherentGuilds ↔ w.roster.IsCoherent := by
  have hlists (id : PlayerId) (g : GuildId) :
      (∃ members, w.roster.members g = some members ∧ id ∈ members) ↔
        ∃ guild, w.guild? g = some guild ∧ id ∈ guild.members := by
    constructor
    · rintro ⟨members, hmembers, hid⟩
      obtain ⟨guild, hguild, rfl⟩ := Option.map_eq_some_iff.mp hmembers
      exact ⟨guild, hguild, hid⟩
    · rintro ⟨guild, hguild, hid⟩
      exact ⟨guild.members, congrArg (Option.map Guild.members) hguild, hid⟩
  constructor
  · intro h id joined hjoined g
    obtain ⟨p, hp, rfl⟩ := Option.map_eq_some_iff.mp hjoined
    rw [hlists, ← hw.players hp]
    exact h id p hp g
  · intro h id p hp g
    have hid := h id p.guild (congrArg (Option.map Player.guild) hp) g
    rw [hlists] at hid
    rw [hw.players hp]
    exact hid

/-- Whatever happens in a world is a move of the roster. -/
theorem Act.roster (h : w.Act w') (hw : w.IsIndexed) :
    ∃ runner, w.roster.Move runner w'.roster := by
  cases h.cases with
  | idle => exact ⟨⟨0⟩, .stay⟩
  | @executed runner p i page c s hplayer hscene =>
    refine ⟨runner, ?_⟩
    rw [Setting.roster_putPlayer, ← Setting.roster_of_loaded hplayer]
    exact Scene.roster_execute _ runner hscene (hw.players hplayer)
  | @resumed runner p i page asked response s hplayer hscene =>
    refine ⟨runner, ?_⟩
    rw [Setting.roster_putPlayer, ← Setting.roster_of_loaded hplayer,
      Scene.roster_resume _ runner hscene]
    exact .stay

/-- As long as identifiers are fresh, both sides agree all the time. -/
theorem Acts.isCoherent {limit : Nat} (h : w.Acts w') (hw : w.IsIndexed)
    (hfresh : w.roster.IsFresh limit) (hcoherent : w.roster.IsCoherent)
    (hlimit : w'.roster.idsUsed ≤ limit) :
    w'.roster.IsFresh limit ∧ w'.roster.IsCoherent := by
  induction h with
  | refl => exact ⟨hfresh, hcoherent⟩
  | tail hacts hact ih =>
    obtain ⟨runner, hmove⟩ := hact.roster (Acts.isIndexed hacts hw)
    obtain ⟨hfresh', hcoherent'⟩ := ih (Nat.le_trans hmove.idsUsed_le hlimit)
    exact hmove.isCoherent hlimit hfresh' hcoherent'

end World

/-! ## Disbanding -/

/-- The next step disbands a guild: it executes the command for the player who leads it. -/
def Turn.Disbands (t : Turn) (g : GuildId) : Prop :=
  ∃ d bs guild, t.deed? = some d ∧ d.command = .disbandGuild bs ∧
    d.scene.player.guild = some g ∧ t.world.guild? g = some guild ∧
    guild.leader = d.scene.player.id

/-- A step that disbands a guild shows in the roster. -/
theorem Turn.Disbands.roster {t : Turn} {g : GuildId} (h : t.Disbands g) (hw : t.world.IsIndexed)
    {r : Outcome StepOutcome} (result : t.step = .ok r) :
    ∃ runner members, t.world.roster.guild runner = some (some g) ∧
      t.world.roster.members g = some members ∧
      r.2.world.roster = t.world.roster.dissolve g (runner :: members) := by
  obtain ⟨d, bs, guild, hdeed, hcommand, hjoined, hguild, hleader⟩ := h
  have hcase := deed_cases result
  rw [hdeed] at hcase
  generalize r.2 = t' at hcase ⊢
  cases hcase with
  | @done p page c s st st' hplayer hscene =>
    dsimp only at hcommand hjoined hleader
    subst hcommand
    refine ⟨t.run.player, guild.members, ?_, congrArg (Option.map Guild.members) hguild, ?_⟩
    · exact (congrArg (Option.map Player.guild) hplayer).trans (congrArg some hjoined)
    · rw [Setting.roster_putPlayer, ← Setting.roster_of_loaded hplayer]
      cases hscene
      unfold Scene.disbandGuild
      dsimp only
      rw [hjoined]
      dsimp only
      rw [hguild]
      dsimp only
      rw [if_pos hleader, Scene.roster_branchOn]
      exact Scene.roster_dissolveGuild _ _ g guild.members (hw.players hplayer)

namespace World

variable {w w' : World}

/-- When every loaded player is in the guild that lists it and in no other, and the identifiers that
are given out are fresh, that stays so whatever scripts do and players answer. After a guild was
disbanded it is gone, nobody is in it any more, and who was in another guild is still in it. -/
theorem hasCoherentGuilds_of_acts (hw : w.IsIndexed) (hcoherent : w.HasCoherentGuilds)
    (hacts : w.Acts w') (hfresh : w.HasFreshIds [] w'.supply.idsUsed) :
    w'.HasCoherentGuilds ∧
      ∀ {i : Instance} {g : GuildId} {r : Turn.Outcome StepOutcome},
        (Turn.mk w' i).Disbands g → (Turn.mk w' i).step = .ok r →
        r.2.world.guild? g = none ∧
        (∀ id p, r.2.world.player? id = some p → p.guild ≠ some g) ∧
        ∀ id p g', w'.player? id = some p → p.guild = some g' → g' ≠ g →
          (r.2.world.player? id).map Player.guild = some (some g') := by
  have hw' := hacts.isIndexed hw
  rw [hasCoherentGuilds_iff hw] at hcoherent
  rw [hasCoherentGuilds_iff hw']
  have hunloaded : w.roster.IsFresh w'.supply.idsUsed :=
    ⟨hfresh.distinct, fun j hj hlimit =>
      congrArg (Option.map Guild.members) (hfresh.unloaded j hj hlimit)⟩
  obtain ⟨-, hcoherent'⟩ := hacts.isCoherent hw hunloaded hcoherent (Nat.le_refl _)
  refine ⟨hcoherent', fun {i g r} hdisbands result => ?_⟩
  obtain ⟨runner, members, hjoined, hlisted, hroster⟩ := hdisbands.roster hw' result
  have hafter := hcoherent'.dissolve hjoined hlisted
  rw [← hroster] at hafter
  have hgone : r.2.world.roster.members g = none := by
    rw [hroster]
    exact if_pos rfl
  refine ⟨Option.map_eq_none_iff.mp hgone, fun id p hp hpg => ?_, fun id p g' hp hpg hne => ?_⟩
  · obtain ⟨_, hmembers, -⟩ :=
      (hafter id p.guild (congrArg (Option.map Player.guild) hp) g).mp hpg
    rw [hgone] at hmembers
    cases hmembers
  · have hguild : w'.roster.guild id = some (some g') :=
      (congrArg (Option.map Player.guild) hp).trans (congrArg some hpg)
    have hstays : id ∉ runner :: members := by
      intro hmem
      rcases List.mem_cons.mp hmem with rfl | hmem
      · rw [hguild] at hjoined
        exact hne (Option.some.inj (Option.some.inj hjoined))
      · have hother := (hcoherent' id _ hguild g).mpr ⟨members, hlisted, hmem⟩
        exact hne (Option.some.inj hother)
    refine (congrFun (congrArg Roster.guild hroster) id).trans ?_
    exact (if_neg hstays).trans hguild

/-! ### A guild that is founded and disbanded -/

/-- A page that founds a guild and disbands it. -/
def foundingPage : Page :=
  (Page.draft ⟨1⟩ "guild" ⟨2⟩).withRoot [.createGuild ⟨7⟩ [], .disbandGuild []]

/-- A player without guild who has the name of one in mind. -/
def founder : Player :=
  { Player.fresh ⟨3⟩ "Ann" .nil 1 1 with vars := Table.empty.insert ⟨7⟩ (.string "Lions") }

/-- A world with that player alone, and the page in front of its first command. -/
def beforeFounding : Turn where
  world := (World.start {} .empty (.start 0) (.of (fun k => .ofNat 128 (k + 100)) id)).addPlayer
    founder
  run := .start ⟨4⟩ ⟨5⟩ ⟨3⟩ foundingPage

/-- The turn behind the first command. -/
def afterFounding : Turn := match beforeFounding.step with
  | .ok r => r.2
  | .error _ => beforeFounding

/-- The player founds the guild and is in it, and both sides agree; then it disbands the guild. -/
theorem hasCoherentGuilds_founder :
    afterFounding.world.HasCoherentGuilds ∧
      (afterFounding.world.player? ⟨3⟩).map Player.guild = some (some ⟨100⟩) ∧
      ∀ r, afterFounding.step = .ok r → r.2.world.guild? ⟨100⟩ = none := by
  have hw : beforeFounding.world.IsIndexed := (IsIndexed.start ..).addPlayer founder
  have hcoherent : beforeFounding.world.HasCoherentGuilds := by
    intro id p hp g
    have hfounder := (Table.get?_insert_eq_ite Table.empty founder.id id founder).symm.trans hp
    rw [Table.get?_empty] at hfounder
    split at hfounder
    · cases hfounder
      exact ⟨nofun, nofun⟩
    · cases hfounder
  have hfresh : beforeFounding.world.HasFreshIds [] afterFounding.world.supply.idsUsed := by
    have hused : afterFounding.world.supply.idsUsed = 1 := rfl
    rw [hused]
    exact ⟨fun i j _ _ _ => by omega, fun _ _ _ => rfl, fun _ _ _ _ _ => List.not_mem_nil⟩
  have hacts : beforeFounding.world.Acts afterFounding.world :=
    .single (.step (show beforeFounding.step = .ok (.ok .continue, afterFounding) from rfl))
  have hdisbands : Turn.Disbands ⟨afterFounding.world, afterFounding.run⟩ ⟨100⟩ :=
    ⟨_, _, _, rfl, rfl, rfl, rfl, rfl⟩
  obtain ⟨hafter, hdisbanded⟩ := hasCoherentGuilds_of_acts hw hcoherent hacts hfresh
  exact ⟨hafter, rfl, fun r hr => (hdisbanded hdisbands hr).1⟩

end World

end EventScript
