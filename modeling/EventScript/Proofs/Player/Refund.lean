import EventScript.Proofs.Player.Experience

/-!
# Levels that are lost for nothing

When more experience is taken than a player has within the level, levels are turned into the missing
experience, and each should give back what it costs. That is so unless the level below the present
one has no cost: the class of the player is not described, or the level is above the highest one.
Then levels are taken away although nothing is given back for them, down to the first level if there
is no class.
-/

namespace EventScript.Scene

variable {s s' t : Scene} {quantity : Quantity}

/-- After an amount was taken, every level that is lost gives back what it costs before the next one
is considered, and levels are lost only as long as they do. -/
def IsRefunded (s : Scene) (amount : Int64) (s' : Scene) : Prop :=
  ∃ t, Relation.ReflTransGen LosesLevel (s.withAmount amount) t ∧ (∀ u, ¬ t.LosesLevel u) ∧
    s' = t.settleExperience

/-- Some level has to be lost to make up for an amount, and the level below has no cost. -/
def LacksCost (s : Scene) (amount : Int64) : Prop :=
  (s.withAmount amount).player.exp < 0 ∧ 1 < s.player.level ∧ ¬ s.HasCostBelow

/-- Losing levels does not raise the level. -/
theorem level_loseLevels_le (count : Nat) (s : Scene) :
    (loseLevels count s).player.level.toInt ≤ s.player.level.toInt := by
  induction count generalizing s with
  | zero => exact Int.le_refl _
  | succ count ih =>
    rw [loseLevels_succ]
    split
    · next hloses =>
      have hbelow := toInt_withLevelBelow hloses.2
      refine Int.le_trans (ih _) ?_
      show s.withLevelBelow.player.level.toInt ≤ _
      omega
    · exact Int.le_refl _

/-- A player without a described class falls to the first level when experience is missing. -/
theorem loseLevels_of_unclassed (count : Nat) {s : Scene}
    (hclass : s.world.catalog.classes.get? s.player.profession = none) (hexp : s.player.exp < 0)
    (hlow : 1 ≤ s.player.level.toInt) (hcount : s.player.level.toInt ≤ count + 1) :
    (loseLevels count s).player.level.toInt = 1 ∧ (loseLevels count s).player.exp < 0 := by
  induction count generalizing s with
  | zero => exact ⟨by show s.player.level.toInt = 1; omega, hexp⟩
  | succ count ih =>
    rw [loseLevels_succ]
    split
    · next hloses =>
      have hbelow := toInt_withLevelBelow hloses.2
      have hlevel := Int32.lt_iff_toInt_lt.mp hloses.2
      rw [Int32.toInt_one] at hlevel
      have hnone : s.withLevelBelow.experienceToNextLevel? = none := by
        rw [Option.eq_none_iff_forall_ne_some]
        intro cost hcost
        obtain ⟨-, d, hd, -⟩ := experienceToNextLevel?_eq_some_iff.mp hcost
        rw [show s.withLevelBelow.world.catalog.classes.get? s.withLevelBelow.player.profession =
          none from hclass] at hd
        cases hd
      have hsame : (s.lostLevel 0).player.exp = s.player.exp := Int64.add_zero _
      rw [hnone, Option.getD_none]
      exact ih hclass (hsame ▸ hexp) (show 1 ≤ s.withLevelBelow.player.level.toInt by omega)
        (show s.withLevelBelow.player.level.toInt ≤ _ by omega)
    · next hstop =>
      have hlevel : ¬ 1 < s.player.level := fun hlevel => hstop ⟨hexp, hlevel⟩
      rw [Int32.lt_iff_toInt_lt, Int32.toInt_one] at hlevel
      exact ⟨by omega, hexp⟩

/-- Without a cost below, no level gives anything back. -/
theorem not_losesLevel (h : ¬ s.HasCostBelow) (u : Scene) : ¬ s.LosesLevel u := by
  rintro ⟨-, hlevel, refund, hrefund, -⟩
  exact h ((hasCostBelow_iff hlevel).mpr ⟨refund, hrefund⟩)

/-- A level that has to be lost is lost in any case. -/
theorem level_loseLevels_lt {count : Nat} (hexp : s.player.exp < 0) (hlevel : 1 < s.player.level)
    (hcount : s.player.level.toInt ≤ count + 1) :
    (loseLevels count s).player.level.toInt < s.player.level.toInt := by
  cases count with
  | zero =>
    rw [Int32.lt_iff_toInt_lt, Int32.toInt_one] at hlevel
    omega
  | succ count =>
    rw [loseLevels_succ, if_pos ⟨hexp, hlevel⟩]
    have hbelow := toInt_withLevelBelow hlevel
    have hle := level_loseLevels_le count
      (s.lostLevel (s.withLevelBelow.experienceToNextLevel?.getD 0))
    rw [level_lostLevel] at hle
    omega

/-- Levels that are lost are refunded, except when one has to be lost and the level below has no
cost. It is lost nevertheless, and a player without a described class loses all levels. -/
theorem isRefunded_giveExperience_iff (s : Scene) (quantity : Quantity)
    (hneg : s.world.amount s.player quantity < 0) :
    let amount := s.world.amount s.player quantity
    let s' := s.giveExperience quantity true
    (s.IsRefunded amount s' ↔ ¬ s.LacksCost amount) ∧
    (s.LacksCost amount → s'.player.level < s.player.level ∧
      (s.world.catalog.classes.get? s.player.profession = none →
        s'.player.level = 1 ∧ s'.player.exp = 0)) := by
  intro amount s'
  have hs' : s' = (loseLevels (s.player.level.toInt - 1).toNat
      (s.withAmount amount)).settleExperience := by
    exact (giveExperience_of_neg hneg).trans (congrArg settleExperience (if_pos rfl))
  have hcount : (s.withAmount amount).player.level.toInt ≤
      (s.player.level.toInt - 1).toNat + 1 := by
    show s.player.level.toInt ≤ _
    omega
  have hlost (h : s.LacksCost amount) : s'.player.level.toInt < s.player.level.toInt := by
    have hlevel := level_loseLevels_lt h.1 h.2.1 hcount
    rw [hs', level_settleExperience]
    exact hlevel
  refine ⟨⟨?_, fun h => ?_⟩, fun h => ⟨Int32.lt_iff_toInt_lt.mpr (hlost h), fun hclass => ?_⟩⟩
  · rintro ⟨t, hchain, -, heq⟩ h
    have hstuck : ∀ u, ¬ (s.withAmount amount).LosesLevel u := not_losesLevel h.2.2
    have hlevel := hlost h
    rcases hchain.cases_head with rfl | ⟨u, hu, -⟩
    · rw [heq] at hlevel
      exact absurd hlevel (Int.lt_irrefl _)
    · exact hstuck u hu
  · obtain ⟨hchain, hend⟩ := @losesLevels (s.player.level.toInt - 1).toNat (s.withAmount amount)
      hcount fun hexp hlevel => by_contra fun hcost => h ⟨hexp, hlevel, hcost⟩
    exact ⟨_, hchain, hend, hs'⟩
  · have hlow := Int32.lt_iff_toInt_lt.mp h.2.1
    rw [Int32.toInt_one] at hlow
    obtain ⟨hlevel, hexp⟩ := @loseLevels_of_unclassed (s.player.level.toInt - 1).toNat
      (s.withAmount amount) hclass h.1 (Int.le_of_lt hlow) hcount
    rw [hs']
    refine ⟨Int32.toInt_inj.mp hlevel, Int64.toInt_inj.mp ?_⟩
    rw [toInt_settleExperience, Int64.toInt_zero]
    rw [Int64.lt_iff_toInt_lt, Int64.toInt_zero] at hexp
    omega

/-! ### A player without a class -/

/-- A player on the third level, of a class that is not described. -/
def drifter : Scene where
  world := World.start {} DescriptorSet.empty.catalog (.start 0) (.seeded 0)
  player := { Player.fresh ⟨3⟩ "Ann" .nil 0 0 with level := 3, exp := 5 }
  run := .start ⟨4⟩ ⟨5⟩ ⟨3⟩ (Page.draft ⟨1⟩ "toll" ⟨2⟩)
  page := Page.draft ⟨1⟩ "toll" ⟨2⟩

/-- For a little more experience than the player has, two levels are taken away and nothing is given
back for them. -/
theorem not_isRefunded_drifter :
    ¬ drifter.IsRefunded (-10) (drifter.giveExperience (.fixed (-10)) true) ∧
      (drifter.giveExperience (.fixed (-10)) true).player.level = 1 ∧
      (drifter.giveExperience (.fixed (-10)) true).player.exp = 0 := by
  refine ⟨?_, rfl, rfl⟩
  rintro ⟨t, hchain, -, heq⟩
  have hstuck : ∀ u, ¬ (drifter.withAmount (-10)).LosesLevel u :=
    not_losesLevel fun hcost => absurd hcost.1 (by decide)
  rcases hchain.cases_head with rfl | ⟨u, hu, -⟩
  · exact absurd (congrArg (fun s : Scene => s.player.level) heq) (by decide)
  · exact hstuck u hu

/-- A player on the third level of a class of which the second level costs a hundred and fifty. -/
def graduate : Scene := { apprentice with player.level := 3, player.exp := 0 }

/-- The third level is lost for what the second one costs. -/
theorem isRefunded_giveExperience_iff_graduate :
    graduate.IsRefunded (-10) (graduate.giveExperience (.fixed (-10)) true) ∧
      (graduate.giveExperience (.fixed (-10)) true).player.level = 2 ∧
      (graduate.giveExperience (.fixed (-10)) true).player.exp = 140 := by
  have hneg : graduate.world.amount graduate.player (.fixed (-10)) < 0 := by decide
  have hcost : graduate.HasCostBelow := ⟨by decide, by decide⟩
  have hrefunded := (isRefunded_giveExperience_iff graduate (.fixed (-10)) hneg).1.mpr
    fun hlacks => hlacks.2.2 hcost
  exact ⟨hrefunded, rfl, rfl⟩

end EventScript.Scene
