import EventScript.Proofs.Npc.Ownership
import EventScript.Proofs.Scheduler.Operation

/-!
# Spawned characters of a running game

Characters are spawned and removed by scripts in passes, and removed when their player leaves. As
long as the identifiers that are given out are different, every player lists exactly its own
characters all the time, and removing them leaves those of all others alone.
-/

namespace EventScript

/-- The identifiers that are still given out up to a number of them are different. -/
def Supply.GivesDistinct (s : Supply) (limit : Nat) : Prop :=
  ∀ i j, s.idsUsed ≤ i → i < j → j < limit → s.ids i ≠ s.ids j

/-- Without characters both sides of their ownership agree, and go on to do so as long as
identifiers are different. -/
theorem World.HasNoNpcs.isSettled {w : World} {limit : Nat} (h : w.HasNoNpcs)
    (hids : w.supply.GivesDistinct limit) : w.population.IsSettled limit := by
  intro _
  exact ⟨⟨hids, fun _ _ _ => h.get?_npcs _⟩, h.isOwned⟩

namespace Scheduler

variable {s s' : Scheduler} {limit : Nat}

/-! ## Passes -/

/-- Starting executions gives out identifiers. -/
theorem Opens.population {new : PlayerId → Instance → Prop} (h : s.Opens new s') :
    ∃ count, s'.world.population = s.world.population.draw count := by
  obtain ⟨count, hsupply⟩ := h.supply
  refine ⟨count, ?_⟩
  rw [h.world, hsupply]
  rfl

/-- The end of an execution that failed concerns no characters. -/
theorem population_abandon (t : Turn) (owner : PlayerId) :
    (abandon t owner).world.population = t.world.population := by
  unfold abandon
  dsimp only
  split <;> rfl

/-- Every part of a pass keeps both sides in agreement. -/
theorem isKeptInPass_isSettled (limit : Nat) :
    IsKeptInPass (fun s => s.world.population.IsSettled limit) fun _ => True where
  serve {s s'} _ h hopens := by
    obtain ⟨count, hpopulation⟩ := hopens.population
    have hserved : s.withoutRequests.world.population = s.world.population := rfl
    rw [hpopulation, hserved]
    exact h.draw count
  step {s owner index i r} hs h _ result _ := by
    have hact : s.world.Act r.2.world := .step result
    obtain ⟨runner, hmove⟩ := hact.population hs.indexed
    exact hmove.isSettled h
  abandon {s owner index i} _ h _ := by
    have habandon : (s.replace owner index (abandon ⟨s.world, i⟩ owner)).world.population =
        s.world.population := population_abandon ⟨s.world, i⟩ owner
    rw [habandon]
    exact h
  applySwitches _ h := h
  reap _ h := h

/-! ## Operations -/

/-- Signals concern no characters. -/
theorem population_observe (w : World) (player : PlayerId) (signal : Signal) :
    (observe w player signal).population = w.population := by
  have hclear (p : Player) :
      (clearActivity player signal p).activity.spawnedNpcs = p.activity.spawnedNpcs := by
    unfold clearActivity
    split
    · split <;> rfl
    · rfl
    · split <;> rfl
    · rfl
  have hplayers := w.population_modifyPlayer player hclear
  unfold observe
  dsimp only
  split
  · exact hplayers
  · exact hplayers

/-- When a player leaves its characters are removed. -/
theorem population_disconnect (s : Scheduler) (player : PlayerId) :
    (s.disconnect player).2.world.population = s.world.population.clear player := by
  apply Population.ext
  · rfl
  · funext id
    by_cases hid : id = player
    · subst hid
      simp only [World.population, Population.clear, World.player?, disconnect, World.setOnline,
        World.despawnNpcs, Table.get?_modify, if_true]
      cases s.world.players.get? id <;> rfl
    · have hrank : Keyed.rank player ≠ Keyed.rank id := mt Table.rank_inj.mp (Ne.symm hid)
      simp only [World.population, Population.clear, World.player?, disconnect, World.setOnline,
        World.despawnNpcs, Table.get?_modify, if_neg hrank, if_neg hid]
  · rfl
  · rfl
  · rfl

/-- Whatever the host does with a scheduler keeps both sides in agreement. -/
theorem isSettled_perform (hs : s.IsRegular) (h : s.world.population.IsSettled limit)
    {op : Operation} (hperform : s.PerformCase op s') : s'.world.population.IsSettled limit := by
  cases hperform with
  | opened hopens =>
    obtain ⟨count, hpopulation⟩ := hopens.population
    rw [hpopulation]
    exact h.draw count
  | passed hpass => exact ((isKeptInPass_isSettled limit).pass hpass hs h fun _ _ => trivial).2
  | @answered player id response index i r found result =>
    have hact : s.world.Act r.2.world := .answer result
    obtain ⟨runner, hmove⟩ := hact.population hs.indexed
    exact hmove.isSettled h
  | signalled player signal =>
    have hsignal := population_observe s.world player signal
    exact hsignal ▸ h
  | released player =>
    rw [world_releasePlayer]
    exact h
  | unloaded map => exact h
  | disconnected player =>
    have hmove : s.world.population.Move player (s.world.population.clear player) := .clear
    rw [population_disconnect]
    exact hmove.isSettled h

/-! ## Runs -/

/-- Something that happens to a scheduler: the host does something with it, or changes the world by
itself, but neither spawned characters, nor what players list, nor what may be spawned. -/
inductive Evolves (s : Scheduler) : Scheduler → Prop
  | operation (op : Operation) {s' : Scheduler} (performed : s.perform op = .ok s') : Evolves s s'
  | host {w : World} {count : Nat} (regular : (Scheduler.mk w s.instances).IsRegular)
      (population : w.population = s.world.population.draw count) : Evolves s ⟨w, s.instances⟩

/-- Whatever happens keeps both sides in agreement. -/
theorem isSettled_of_evolves (hs : s.IsRegular) (h : s.world.population.IsSettled limit)
    (hrun : Relation.ReflTransGen Evolves s s') :
    s'.IsRegular ∧ s'.world.population.IsSettled limit := by
  induction hrun with
  | refl => exact ⟨hs, h⟩
  | tail _ hevolves ih =>
    obtain ⟨hs₁, h₁⟩ := ih
    cases hevolves with
    | operation op hperform =>
      exact ⟨hs₁.perform hperform, isSettled_perform hs₁ h₁ (perform_cases hs₁ hperform)⟩
    | host hregular hpopulation => exact ⟨hregular, hpopulation ▸ h₁.draw _⟩

/-- A player who leaves takes its characters along and no others. -/
theorem npcs_disconnect (h : s.world.population.IsOwned) (player : PlayerId) :
    (s.disconnect player).2.world.npcs =
      s.world.npcs.filter fun _ n => n.spawnedBy != player := by
  have hclear := congrArg Population.npcs (s.population_disconnect player)
  exact hclear.trans (h.npcs_clear player)

/-- Whenever a deed is done in a pass, both sides agree. -/
theorem isSettled_of_deed (hs : s.IsRegular) (h : s.world.population.IsSettled limit)
    (hpass : s.PassCase s') {d : Deed} (hd : d ∈ s.deeds) :
    d.scene.world.IsIndexed ∧ d.scene.world.population.IsSettled limit ∧
      d.scene.world.player? d.scene.player.id = some d.scene.player := by
  have hkept := isKeptInPass_isSettled limit
  cases hpass with
  | intro hbefore hcourse _ =>
    obtain ⟨first, s₄, owner, index, i, r, hfirst, found, result, hdeed⟩ := hcourse.exists_step hd
    obtain ⟨hs₄, h₄⟩ := hkept.course hfirst (hs.withoutRequests.opens hbefore)
      (hkept.serve hs h hbefore) fun _ _ => trivial
    have hcase := Turn.deed_cases result
    rw [hdeed] at hcase
    generalize r.2 = t at hcase
    cases hcase with
    | done st st' hplayer hscene =>
      dsimp only at hplayer ⊢
      rw [← hs₄.indexed.players hplayer] at hplayer
      exact ⟨hs₄.indexed, h₄, hplayer⟩

/-- A script that removes the characters of its player removes no others. -/
theorem npcs_despawnNpcs {sc : Scene} (h : sc.world.population.IsOwned)
    (hplayer : sc.world.player? sc.player.id = some sc.player) :
    sc.despawnNpcs.world.npcs = sc.world.npcs.filter fun _ n => n.spawnedBy != sc.player.id := by
  have hloaded : sc.population sc.player.id = sc.world.population :=
    Setting.population_of_loaded hplayer
  have hclear := congrArg Population.npcs (sc.population_despawnNpcs sc.player.id)
  rw [hloaded] at hclear
  exact hclear.trans (h.npcs_clear sc.player.id)

/-- From a world without characters on, and as long as the identifiers that are given out are
different, every loaded player lists exactly the characters that were spawned for it, and all of
them were placed where they may be; so it is in the middle of every pass, too. A player who leaves
and a script that removes the characters of its player leave none of them, and those of all others
as they are. -/
theorem hasOwnedNpcs_of_evolves (hs : s.IsRegular) (hnone : s.world.HasNoNpcs)
    (hrun : Relation.ReflTransGen Evolves s s')
    (hids : s.world.supply.GivesDistinct s'.world.supply.idsUsed) :
    s'.world.HasOwnedNpcs ∧
      (∀ player, (s'.disconnect player).2.world.npcs =
        s'.world.npcs.filter fun _ n => n.spawnedBy != player) ∧
      ∀ r, s'.tick = .ok r → ∀ d ∈ s'.deeds,
        s.world.supply.GivesDistinct d.scene.world.supply.idsUsed →
        d.scene.world.HasOwnedNpcs ∧
          (d.command = .despawnNpcs → ∃ after, d.scene.execute d.command = .ok after ∧
            after.world.npcs =
              d.scene.world.npcs.filter fun _ n => n.spawnedBy != d.scene.player.id) := by
  obtain ⟨hs', hsettled⟩ := isSettled_of_evolves hs (hnone.isSettled hids) hrun
  obtain ⟨-, howned⟩ := hsettled (Nat.le_refl _)
  refine ⟨World.hasOwnedNpcs_of_isOwned hs'.indexed howned, npcs_disconnect howned, ?_⟩
  intro r htick d hd hids
  obtain ⟨-, hsettled⟩ := isSettled_of_evolves hs (hnone.isSettled hids) hrun
  obtain ⟨hindexed, hsettled, hplayer⟩ := isSettled_of_deed hs' hsettled (pass_cases htick) hd
  obtain ⟨-, howned⟩ := hsettled (Nat.le_refl _)
  refine ⟨World.hasOwnedNpcs_of_isOwned hindexed howned, ?_⟩
  intro hcommand
  rw [hcommand]
  exact ⟨d.scene.despawnNpcs, rfl, npcs_despawnNpcs howned hplayer⟩

/-! ### Two players with a character each -/

/-- A kind of characters. -/
def fox : NpcDescriptor := ⟨⟨1⟩, "Fox", "fox"⟩

/-- A world with two players and that kind of characters, in which every execution takes one step in
a pass. -/
def wild : World :=
  let catalog := { Catalog.empty with npcs := Table.empty.insert fox.id fox }
  let world := World.start { scheduler.commandsPerTick := 1 } catalog (.start 0)
    (.of (fun k => .ofNat 128 (k + 100)) id)
  (world.addPlayer (.fresh ⟨3⟩ "Ann" .nil 1 1)).addPlayer (.fresh ⟨4⟩ "Bob" .nil 1 1)

/-- A page that spawns a character and removes it. -/
def visiting : Page :=
  (Page.draft ⟨5⟩ "visit" ⟨6⟩).withRoot [.spawnNpc fox.id (.tile ⟨9⟩ 2 3 .up), .despawnNpcs]

/-- Both players spawn a character and list it. When the second one leaves, the character of the
first one stays; when the script of the first one removes its character, that of the second one
stays. -/
theorem hasOwnedNpcs_wild :
    ∃ s, Relation.ReflTransGen Evolves (.start wild) s ∧ s.world.HasOwnedNpcs ∧
      s.world.npcs.values.map SpawnedNpc.spawnedBy = [⟨3⟩, ⟨4⟩] ∧
      (s.disconnect ⟨4⟩).2.world.npcs = s.world.npcs.filter (fun _ n => n.spawnedBy != ⟨4⟩) ∧
      ∃ d ∈ s.deeds, ∃ after, d.scene.execute d.command = .ok after ∧
        after.world.npcs = s.world.npcs.filter fun _ n => n.spawnedBy != ⟨3⟩ := by
  have hregular : (Scheduler.start wild).IsRegular :=
    .start (((World.IsIndexed.start _ _ _ _).addPlayer _).addPlayer _)
  have hnone : wild.HasNoNpcs :=
    ((World.HasNoNpcs.start _ _ _ _).addPlayer rfl).addPlayer rfl
  have hids : wild.supply.GivesDistinct 4 := by
    intro i j _ hij hj heq
    have hnumbers : (i + 100) % 2 ^ 128 = (j + 100) % 2 ^ 128 := congrArg BitVec.toNat heq
    omega
  have hrun : Relation.ReflTransGen Evolves (.start wild) _ :=
    .tail (.tail (.tail .refl (.operation (.startEvent ⟨3⟩ ⟨7⟩ visiting) rfl))
      (.operation (.startEvent ⟨4⟩ ⟨7⟩ visiting) rfl)) (.operation .tick rfl)
  obtain ⟨howned, hleave, hdeeds⟩ := hasOwnedNpcs_of_evolves hregular hnone hrun hids
  obtain ⟨-, hdespawn⟩ := hdeeds _ rfl _ List.mem_cons_self hids
  exact ⟨_, hrun, howned, rfl, hleave ⟨4⟩, _, List.mem_cons_self, hdespawn rfl⟩

end Scheduler

end EventScript
