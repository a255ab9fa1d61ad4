import EventScript.Proofs.Scene.Parts
import EventScript.Proofs.Turn.Act

/-!
# Whose characters are whose

Ownership of spawned characters is kept twice: a character knows for whom it was spawned, and a
player lists what was spawned for it. Only spawning and removing characters concern it, and both
sides agree all the time.
-/

namespace EventScript

/-- The spawned characters, who lists which of them, and the identifiers that they are given. -/
@[ext]
structure Population where
  /-- The spawned characters. -/
  npcs : Table EntityId SpawnedNpc
  /-- What players list; one who is not loaded lists nothing. -/
  listed : PlayerId → List EntityId
  /-- Which characters may be spawned. -/
  admits : SpawnedNpc → Prop
  /-- The identifiers, in the order they are given out. -/
  ids : Nat → BitVec 128
  /-- How many identifiers were given out. -/
  idsUsed : Nat

/-- A character is of a kind that is described, and it was placed within the bounds of maps. -/
structure SpawnedNpc.IsAdmitted (n : SpawnedNpc) (catalog : Catalog) (bounds : MapConfig) :
    Prop where
  described : (catalog.npcs.get? n.npc).isSome
  column : 0 ≤ n.tile.x ∧ n.tile.x < bounds.width
  row : 0 ≤ n.tile.y ∧ n.tile.y < bounds.height

/-- The population of a world. -/
def World.population (w : World) : Population where
  npcs := w.npcs
  listed id := ((w.player? id).map fun p => p.activity.spawnedNpcs).getD []
  admits n := n.IsAdmitted w.catalog w.config.map
  ids := w.supply.ids
  idsUsed := w.supply.idsUsed

/-- The population that a setting leads to when its player is kept under an identifier. -/
def Setting.population (s : Setting) (runner : PlayerId) : Population :=
  { s.world.population with
    listed := fun id =>
      if id = runner then s.player.activity.spawnedNpcs else s.world.population.listed id }

/-- What a loaded player lists. -/
theorem World.listed_of_player? {w : World} {id : PlayerId} {p : Player}
    (h : w.player? id = some p) : w.population.listed id = p.activity.spawnedNpcs := by
  simp [population, h]

/-- Keeping the player of a setting leads to the population of the setting. -/
theorem Setting.population_putPlayer (s : Setting) (runner : PlayerId) :
    (s.world.putPlayer runner s.player).population = s.population runner := by
  have hlisted :
      (s.world.putPlayer runner s.player).population.listed = (s.population runner).listed := by
    funext id
    simp only [population, World.population, World.putPlayer, World.player?,
      Table.get?_insert_eq_ite]
    split <;> rfl
  exact congrArg (fun listed => { s.world.population with listed := listed }) hlisted

/-- The setting of a loaded player has the population of its world. -/
theorem Setting.population_of_loaded {w : World} {runner : PlayerId} {p : Player}
    (h : w.player? runner = some p) : (Setting.mk w p).population runner = w.population := by
  have hlisted : ((Setting.mk w p).population runner).listed = w.population.listed := by
    funext id
    by_cases hid : id = runner
    · simp [population, hid, World.listed_of_player? h]
    · simp [population, hid]
  exact congrArg (fun listed => { w.population with listed := listed }) hlisted

/-- Changing a player that lists the same. -/
theorem World.population_modifyPlayer (w : World) (id : PlayerId) {f : Player → Player}
    (hf : ∀ p, (f p).activity.spawnedNpcs = p.activity.spawnedNpcs) :
    ({ w with players := w.players.modify id f } : World).population = w.population := by
  have hlisted : ({ w with players := w.players.modify id f } : World).population.listed =
      w.population.listed := by
    funext other
    simp only [population, player?, Table.get?_modify]
    split
    · cases w.players.get? other with
      | none => rfl
      | some p => exact hf p
    · rfl
  exact congrArg (fun listed => { w.population with listed := listed }) hlisted

/-! ## What does not concern spawned characters -/

/-- The population of a world is told without parts that concern neither spawned characters nor
membership. -/
theorem World.population_without (w : World) {parts : List Part} (hentities : .entities ∉ parts)
    (hmembership : .membership ∉ parts) : (w.without parts).population = w.population := by
  apply Population.ext
  · exact Part.keep_of_not_mem hentities _ _
  · funext id
    simp only [population, player?_without, Option.map_map]
    rfl
  · rfl
  · rfl
  · exact (Part.keep_of_not_mem hmembership _ _).trans (Part.keep_of_not_mem hentities _ _)

/-- So is the population of a setting. -/
theorem Setting.population_without (s : Setting) (runner : PlayerId) {parts : List Part}
    (hentities : .entities ∉ parts) (hmembership : .membership ∉ parts) :
    (s.without parts).population runner = s.population runner := by
  have hplayer : (s.without parts).player.activity.spawnedNpcs = s.player.activity.spawnedNpcs :=
    Part.keep_of_not_mem hentities [] _
  have hworld : (s.without parts).world.population = s.world.population :=
    s.world.population_without hentities hmembership
  unfold population
  rw [hplayer, hworld]

namespace Population

variable {p p' : Population} {runner : PlayerId}

/-! ## Moves -/

/-- Give out identifiers. -/
def draw (p : Population) (count : Nat) : Population := { p with idsUsed := p.idsUsed + count }

/-- The next character to be spawned. -/
def nextEntity (p : Population) : EntityId := ⟨p.ids p.idsUsed⟩

/-- Add a character, to the list of the player it was spawned for too. -/
def spawn (p : Population) (n : SpawnedNpc) : Population :=
  { p.draw 1 with
    npcs := p.npcs.insert n.entity n
    listed := fun id => if id = n.spawnedBy then p.listed id ++ [n.entity] else p.listed id }

/-- Remove the characters that a player lists. -/
def clear (p : Population) (owner : PlayerId) : Population :=
  { p with
    npcs := (p.listed owner).foldl Table.erase p.npcs
    listed := fun id => if id = owner then [] else p.listed id }

/-- What the script of a player may do to a population. -/
inductive Move (p : Population) (runner : PlayerId) : Population → Prop
  | stay : Move p runner p
  | draw : Move p runner (p.draw 1)
  /-- A character is spawned for the player. -/
  | spawn {n : SpawnedNpc} (entity : n.entity = p.nextEntity) (owner : n.spawnedBy = runner)
      (admitted : p.admits n) : Move p runner (p.spawn n)
  /-- The characters of the player are removed. -/
  | clear : Move p runner (p.clear runner)

/-- No move takes an identifier back. -/
theorem Move.idsUsed_le (h : p.Move runner p') : p.idsUsed ≤ p'.idsUsed := by
  cases h with
  | stay | clear => exact Nat.le_refl _
  | draw | spawn => exact Nat.le_succ _

/-! ## Agreement of both sides -/

/-- Every character is kept under its own identifier and may have been spawned, and every player
lists, once each, those that were spawned for it. -/
structure IsOwned (p : Population) : Prop where
  keyed : ∀ {e n}, p.npcs.get? e = some n → n.entity = e
  admitted : ∀ {e n}, p.npcs.get? e = some n → p.admits n
  nodup : ∀ id, (p.listed id).Nodup
  listed : ∀ {id e}, e ∈ p.listed id ↔ ∃ n, p.npcs.get? e = some n ∧ n.spawnedBy = id

/-- The identifiers that are still given out up to a number of them are different, and no character
has one of them. -/
structure IsFresh (p : Population) (limit : Nat) : Prop where
  distinct : ∀ i j, p.idsUsed ≤ i → i < j → j < limit → p.ids i ≠ p.ids j
  unused : ∀ j, p.idsUsed ≤ j → j < limit → p.npcs.get? ⟨p.ids j⟩ = none

/-- Both sides agree as long as only a number of identifiers was given out. -/
def IsSettled (p : Population) (limit : Nat) : Prop :=
  p.idsUsed ≤ limit → p.IsFresh limit ∧ p.IsOwned

/-- Spawning a character under an identifier that no other has keeps both sides in agreement. -/
theorem IsOwned.spawn (h : p.IsOwned) {n : SpawnedNpc} (hunused : p.npcs.get? n.entity = none)
    (hadmitted : p.admits n) : (p.spawn n).IsOwned := by
  have hunlisted (id : PlayerId) : n.entity ∉ p.listed id := by
    intro hmem
    obtain ⟨m, hm, -⟩ := h.listed.mp hmem
    simp [hunused] at hm
  constructor
  · intro e m hm
    simp only [Population.spawn, Table.get?_insert_eq_ite] at hm
    split at hm
    · next he =>
      cases hm
      exact he.symm
    · exact h.keyed hm
  · intro e m hm
    simp only [Population.spawn, Table.get?_insert_eq_ite] at hm
    split at hm
    · cases hm
      exact hadmitted
    · exact h.admitted hm
  · intro id
    simp only [Population.spawn]
    split
    · refine List.nodup_append.mpr ⟨h.nodup id, by simp, ?_⟩
      rintro e he e' he' rfl
      rw [List.mem_singleton.mp he'] at he
      exact hunlisted id he
    · exact h.nodup id
  · intro id e
    simp only [Population.spawn, Table.get?_insert_eq_ite]
    by_cases he : e = n.entity
    · subst he
      by_cases hid : id = n.spawnedBy
      · simp [hid]
      · simp [hid, hunlisted id, Ne.symm hid]
    · by_cases hid : id = n.spawnedBy
      · simp [hid, he, h.listed]
      · simp [hid, he, h.listed]

/-- The characters that a player lists are those that were spawned for it. -/
theorem IsOwned.npcs_clear (h : p.IsOwned) (owner : PlayerId) :
    (p.clear owner).npcs = p.npcs.filter fun _ n => n.spawnedBy != owner := by
  apply Table.ext_get?
  intro e
  simp only [clear, Table.get?_foldl_erase, Table.get?_filter, h.listed]
  cases hget : p.npcs.get? e with
  | none => simp
  | some n =>
    by_cases howner : n.spawnedBy = owner
    · simp [howner, Option.filter]
    · simp [howner, Option.filter]

/-- Removing the characters of a player keeps both sides in agreement. -/
theorem IsOwned.clear (h : p.IsOwned) (owner : PlayerId) : (p.clear owner).IsOwned := by
  have hget {e : EntityId} {n : SpawnedNpc} : (p.clear owner).npcs.get? e = some n ↔
      p.npcs.get? e = some n ∧ n.spawnedBy ≠ owner := by
    rw [h.npcs_clear, Table.get?_filter, Option.filter_eq_some_iff]
    simp
  constructor
  · intro e n hn
    exact h.keyed (hget.mp hn).1
  · intro e n hn
    exact h.admitted (hget.mp hn).1
  · intro id
    simp only [Population.clear]
    split
    · simp
    · exact h.nodup id
  · intro id e
    simp only [hget]
    by_cases hid : id = owner
    · simp [Population.clear, hid]
    · have hkept : (p.clear owner).listed id = p.listed id := if_neg hid
      rw [hkept, h.listed]
      constructor
      · rintro ⟨n, hn, rfl⟩
        exact ⟨n, ⟨hn, hid⟩, rfl⟩
      · rintro ⟨n, ⟨hn, -⟩, hid⟩
        exact ⟨n, hn, hid⟩

/-- Identifiers stay fresh when some of them are given out, to characters or to something else. -/
theorem IsFresh.draw {limit : Nat} (h : p.IsFresh limit) (count : Nat) :
    (p.draw count).IsFresh limit := by
  constructor
  · intro i j hi
    exact h.distinct i j (Nat.le_of_add_right_le hi)
  · intro j hj
    exact h.unused j (Nat.le_of_add_right_le hj)

/-- Giving out identifiers leaves both sides in agreement. -/
theorem IsSettled.draw {limit : Nat} (h : p.IsSettled limit) (count : Nat) :
    (p.draw count).IsSettled limit := by
  intro hlimit
  obtain ⟨hfresh, howned⟩ := h (Nat.le_of_add_right_le hlimit)
  exact ⟨hfresh.draw count, ⟨howned.keyed, howned.admitted, howned.nodup, howned.listed⟩⟩

/-- Every move keeps both sides in agreement and identifiers fresh. -/
theorem Move.isSettled {limit : Nat} (h : p.Move runner p') (hp : p.IsSettled limit) :
    p'.IsSettled limit := by
  intro hlimit
  obtain ⟨hfresh, howned⟩ := hp (Nat.le_trans h.idsUsed_le hlimit)
  cases h with
  | stay => exact ⟨hfresh, howned⟩
  | draw => exact hp.draw 1 hlimit
  | @spawn n hentity howner hadmitted =>
    have hunused : p.npcs.get? n.entity = none := by
      rw [hentity]
      exact hfresh.unused _ (Nat.le_refl _) hlimit
    refine ⟨⟨(hfresh.draw 1).distinct, ?_⟩, howned.spawn hunused hadmitted⟩
    intro j hj hjlimit
    have hne : (⟨p.ids j⟩ : EntityId) ≠ n.entity := by
      intro heq
      rw [hentity] at heq
      exact hfresh.distinct _ j (Nat.le_refl _) hj hjlimit (congrArg Id.value heq).symm
    simp only [Population.spawn, Population.draw, Table.get?_insert_eq_ite, hne, ite_false]
    exact (hfresh.draw 1).unused j hj hjlimit
  | clear =>
    refine ⟨⟨hfresh.distinct, ?_⟩, howned.clear runner⟩
    intro j hj hjlimit
    rw [howned.npcs_clear]
    have hunused := hfresh.unused j hj hjlimit
    simp only [Table.get?_filter, Population.clear, hunused, Option.filter_none]

end Population

namespace Scene

variable (s : Scene) (runner : PlayerId)

/-! ## Commands and responses -/

/-- What concerns neither spawned characters nor membership does not show in the population. -/
theorem population_of_rest {s s' : Scene} {parts : List Part} (h : s'.rest parts = s.rest parts)
    (hentities : .entities ∉ parts) (hmembership : .membership ∉ parts) (runner : PlayerId) :
    s'.population runner = s.population runner := by
  have hpopulation := congrArg (fun s : Setting => s.population runner) h
  exact (s'.population_without runner hentities hmembership).symm.trans
    (hpopulation.trans (s.population_without runner hentities hmembership))

/-- Branching does not show in the population. -/
theorem population_branchOn (success : Bool) (bs : List BranchId) :
    (s.branchOn success bs).population runner = s.population runner :=
  population_of_rest (s.rest_branchOn [] success bs) nofun nofun runner

/-- Founding a guild gives out an identifier. -/
theorem population_createGuild (source : VariableId) (bs : List BranchId) :
    (s.population runner).Move runner ((s.createGuild source bs).population runner) := by
  unfold createGuild
  dsimp only
  split
  · rw [population_branchOn]
    exact .stay
  · rw [population_branchOn]
    exact .draw

/-- A player who leaves a guild keeps its characters. -/
theorem population_leaveGuild (w : World) (member : PlayerId) :
    (leaveGuild w member).population = w.population := by
  unfold leaveGuild
  split
  · next p hp =>
    rw [Setting.population_putPlayer ⟨w, { p with guild := none }⟩]
    exact Setting.population_of_loaded (p := p) hp
  · rfl

/-- Disbanding a guild leaves everyone its characters. -/
theorem population_disbandGuild (bs : List BranchId) :
    (s.disbandGuild bs).population runner = s.population runner := by
  have hrefuse : (s.refuseDisbanding bs).population runner = s.population runner :=
    (s.chat _ .red .guild).population_branchOn runner false bs
  unfold disbandGuild
  split
  · rw [population_branchOn]
  · next g hg =>
    split
    · next guild hguild =>
      split
      · rw [population_branchOn]
        have hworld : (s.dissolveGuild g guild.members).world.population = s.world.population :=
          foldl_leaveGuild population_leaveGuild _ _
        simp only [Setting.population, hworld]
        rfl
      · exact hrefuse
    · exact hrefuse

/-- A tile of a target lies on the map. -/
theorem isOnMap_of_tile? {place : SpawnTarget} {t : Tile} (h : s.tile? place = some t) :
    (0 ≤ t.x ∧ t.x < s.world.config.map.width) ∧ 0 ≤ t.y ∧ t.y < s.world.config.map.height := by
  simp only [tile?] at h
  split at h
  · next hmap =>
    cases h
    simpa [isOnMap, and_assoc] using hmap
  · cases h

/-- A character that is spawned shows in the population. -/
theorem population_spawnNpc_of_tile? {npc : NpcId} {place : SpawnTarget} {t : Tile}
    (hdescribed : s.world.catalog.npcs.contains npc = true) (ht : s.tile? place = some t)
    (hrunner : s.player.id = runner) :
    (s.spawnNpc npc place).population runner = (s.population runner).spawn
      ⟨(s.population runner).nextEntity, npc, s.player.mapInstance, t, runner⟩ := by
  subst hrunner
  simp only [spawnNpc, hdescribed, ht, if_true]
  apply Population.ext
  · rfl
  · funext id
    by_cases hid : id = s.player.id
    · simp [Setting.population, Population.spawn, Population.nextEntity, World.population,
        Supply.freshId, hid]
    · simp [Setting.population, Population.spawn, World.population, World.spawnNpc,
        World.player?, hid]
  · rfl
  · rfl
  · rfl

/-- A character is spawned for the player where it may be, or none is. -/
theorem population_spawnNpc (npc : NpcId) (place : SpawnTarget) (hrunner : s.player.id = runner) :
    (s.population runner).Move runner ((s.spawnNpc npc place).population runner) := by
  by_cases hdescribed : s.world.catalog.npcs.contains npc = true
  · cases ht : s.tile? place with
    | none =>
      have hnothing : s.spawnNpc npc place = s := by simp [spawnNpc, ht]
      rw [hnothing]
      exact .stay
    | some t =>
      obtain ⟨hcolumn, hrow⟩ := s.isOnMap_of_tile? ht
      rw [s.population_spawnNpc_of_tile? runner hdescribed ht hrunner]
      exact .spawn rfl rfl ⟨hdescribed, hcolumn, hrow⟩
  · have hnothing : s.spawnNpc npc place = s := by simp [spawnNpc, hdescribed]
    rw [hnothing]
    exact .stay

/-- The characters of the player are removed. -/
theorem population_despawnNpcs :
    s.despawnNpcs.population runner = (s.population runner).clear runner := by
  apply Population.ext
  · simp [Setting.population, Population.clear, World.population, despawnNpcs, World.despawnNpcs]
  · funext id
    by_cases hid : id = runner
    · simp [Setting.population, Population.clear, despawnNpcs, hid]
    · simp [Setting.population, Population.clear, despawnNpcs, hid]
      rfl
  · rfl
  · rfl
  · rfl

/-- Every command makes one move of the population. -/
theorem population_execute {c : Command} {s' : Scene} (h : s.execute c = .ok s')
    (hrunner : s.player.id = runner) :
    (s.population runner).Move runner (s'.population runner) := by
  have hrest := s.rest_execute h
  -- Outside the four commands neither of the two parts is concerned.
  have hother (hentities : c.parts.contains .entities = false)
      (hmembership : c.parts.contains .membership = false) :
      (s.population runner).Move runner (s'.population runner) := by
    rw [population_of_rest hrest (Part.not_mem_of_contains hentities)
      (Part.not_mem_of_contains hmembership) runner]
    exact .stay
  cases c with
  | createGuild source bs =>
    cases h
    exact s.population_createGuild runner source bs
  | disbandGuild bs =>
    cases h
    rw [population_disbandGuild]
    exact .stay
  | spawnNpc npc place =>
    cases h
    exact s.population_spawnNpc runner npc place hrunner
  | despawnNpcs =>
    cases h
    rw [population_despawnNpcs]
    exact .clear
  | _ => exact hother rfl rfl

/-- A response makes no move of the population. -/
theorem population_resume {asked : Suspension} {response : Response} {s' : Scene}
    (h : s.resume asked response = .ok s') : s'.population runner = s.population runner := by
  refine population_of_rest (s.rest_resume h) ?_ ?_ runner
  · unfold Suspension.parts
    split <;> simp
  · unfold Suspension.parts
    split <;> simp

end Scene

/-! ## Worlds -/

namespace World

variable {w w' : World}

/-- Whatever happens in a world is a move of the population. -/
theorem Act.population (h : w.Act w') (hw : w.IsIndexed) :
    ∃ runner, w.population.Move runner w'.population := by
  cases h.cases with
  | idle => exact ⟨⟨0⟩, .stay⟩
  | @executed runner p i page c s hplayer hscene =>
    refine ⟨runner, ?_⟩
    rw [Setting.population_putPlayer, ← Setting.population_of_loaded hplayer]
    exact Scene.population_execute _ runner hscene (hw.players hplayer)
  | @resumed runner p i page asked response s hplayer hscene =>
    refine ⟨runner, ?_⟩
    rw [Setting.population_putPlayer, ← Setting.population_of_loaded hplayer,
      Scene.population_resume _ runner hscene]
    exact .stay

/-- No character is spawned, and no player lists one. -/
structure HasNoNpcs (w : World) : Prop where
  npcs : w.npcs = .empty
  listed : ∀ id p, w.player? id = some p → p.activity.spawnedNpcs = []

/-- Every loaded player lists, once each, the characters that were spawned for it, and every
character is of a kind that is described and was placed within the bounds of maps. -/
structure HasOwnedNpcs (w : World) : Prop where
  nodup : ∀ id p, w.player? id = some p → p.activity.spawnedNpcs.Nodup
  listed : ∀ id p, w.player? id = some p → ∀ e, e ∈ p.activity.spawnedNpcs ↔
    ∃ n ∈ w.npcs.values, n.entity = e ∧ n.spawnedBy = p.id
  admitted : ∀ n ∈ w.npcs.values, n.IsAdmitted w.catalog w.config.map

/-- A world with nothing in it. -/
theorem HasNoNpcs.start (config : EngineConfig) (catalog : Catalog) (clock : Clock)
    (supply : Supply) : (World.start config catalog clock supply).HasNoNpcs := by
  refine ⟨rfl, ?_⟩
  intro id p hp
  cases hp

/-- Loading a player who lists no character. -/
theorem HasNoNpcs.addPlayer (h : w.HasNoNpcs) {p : Player} (hp : p.activity.spawnedNpcs = []) :
    (w.addPlayer p).HasNoNpcs := by
  refine ⟨h.npcs, ?_⟩
  intro id q hq
  simp only [World.addPlayer, player?, Table.get?_insert_eq_ite] at hq
  split at hq
  · cases hq
    exact hp
  · exact h.listed id q hq

/-- No character is found. -/
theorem HasNoNpcs.get?_npcs (h : w.HasNoNpcs) (e : EntityId) :
    w.population.npcs.get? e = none := by
  simp [population, h.npcs]

/-- Without characters both sides agree. -/
theorem HasNoNpcs.isOwned (h : w.HasNoNpcs) : w.population.IsOwned := by
  have hlisted (id : PlayerId) : w.population.listed id = [] := by
    simp only [population]
    cases hp : w.player? id with
    | none => rfl
    | some p => exact h.listed id p hp
  constructor
  · simp [h.get?_npcs]
  · simp [h.get?_npcs]
  · simp [hlisted]
  · simp [h.get?_npcs, hlisted]

/-- When both sides agree, loaded players list their characters. -/
theorem hasOwnedNpcs_of_isOwned (hw : w.IsIndexed) (h : w.population.IsOwned) :
    w.HasOwnedNpcs := by
  constructor
  · intro id p hp
    rw [← listed_of_player? hp]
    exact h.nodup id
  · intro id p hp e
    rw [← listed_of_player? hp, h.listed, hw.players hp]
    constructor
    · rintro ⟨n, hn, howner⟩
      exact ⟨n, Table.mem_values_iff.mpr ⟨e, hn⟩, h.keyed hn, howner⟩
    · rintro ⟨n, hn, rfl, howner⟩
      obtain ⟨e, he⟩ := Table.mem_values_iff.mp hn
      rw [h.keyed he]
      exact ⟨n, he, howner⟩
  · intro n hn
    obtain ⟨e, he⟩ := Table.mem_values_iff.mp hn
    exact h.admitted he

end World

end EventScript
