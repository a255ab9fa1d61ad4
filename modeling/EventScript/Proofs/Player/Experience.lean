import EventScript.Proofs.Bounded
import EventScript.Scene.Character
import Mathlib.Logic.Function.Iterate
import Mathlib.Logic.Relation

/-!
# Experience and levels

A level costs the experience that leads out of the one below it. What a player has gained in all is
the experience within the level together with the costs of all levels so far. Levels that are gained
or lost leave that sum alone; only what is given or taken changes it. Where the class of the player
is described, experience that is given and then taken again leaves the player as before.
-/

namespace EventScript

/-! ## The cost of levels -/

namespace ClassDescriptor

variable (d : ClassDescriptor)

/-- The experience that a number of levels cost, from the first one on. -/
def costOf : Nat → Int
  | 0 => 0
  | n + 1 => costOf n + (d.experienceToNextLevel (Int32.ofInt (n + 1))).toInt

/-- The experience that leads from the first level to another one. -/
def experienceTo (level : Int) : Int := d.costOf (level - 1).toNat

/-- Every level costs something. -/
theorem one_le_experienceToNextLevel (level : Int32) :
    1 ≤ (d.experienceToNextLevel level).toInt := by
  unfold experienceToNextLevel
  rw [toInt_max]
  exact Int.le_max_right ..

/-- More levels cost more. -/
theorem costOf_mono {m n : Nat} (h : m ≤ n) : d.costOf m ≤ d.costOf n := by
  induction h with
  | refl => exact Int.le_refl _
  | @step n _ ih =>
    have hone := d.one_le_experienceToNextLevel (Int32.ofInt (n + 1))
    rw [costOf]
    omega

/-- The next level costs what leads out of the one before. -/
theorem experienceTo_add_one {level : Int32} (h : 1 ≤ level.toInt) :
    d.experienceTo (level.toInt + 1) =
      d.experienceTo level.toInt + (d.experienceToNextLevel level).toInt := by
  have hcount : (level.toInt + 1 - 1).toNat = (level.toInt - 1).toNat + 1 := by omega
  have hlast : (((level.toInt - 1).toNat : Int) + 1) = level.toInt := by omega
  unfold experienceTo
  rw [hcount, costOf, hlast, Int32.ofInt_toInt]

/-- Higher levels cost more. -/
theorem experienceTo_mono {level higher : Int} (h : level ≤ higher) :
    d.experienceTo level ≤ d.experienceTo higher := d.costOf_mono (by omega)

theorem experienceTo_one : d.experienceTo 1 = 0 := rfl

theorem experienceTo_nonneg (level : Int) : 0 ≤ d.experienceTo level :=
  d.costOf_mono (Nat.zero_le _)

/-- All the experience that a player has gained. -/
def gained (p : Player) : Int := p.exp.toInt + d.experienceTo p.level.toInt

end ClassDescriptor

namespace Player

variable {d : ClassDescriptor} {highest : Int32} {p q : Player}

/-- A player has turned all the experience it can into levels. -/
structure HasLeveled (d : ClassDescriptor) (highest : Int32) (p : Player) : Prop where
  one_le : 1 ≤ p.level.toInt
  le : p.level.toInt ≤ highest.toInt
  exp_nonneg : 0 ≤ p.exp.toInt
  /-- There is no further level, or not enough experience for it. -/
  done : p.level = highest ∨ p.exp < d.experienceToNextLevel p.level

/-- Of two players who gained the same, none has the higher level. -/
theorem HasLeveled.level_le (hp : p.HasLeveled d highest) (hq : q.HasLeveled d highest)
    (h : d.gained p = d.gained q) : q.level.toInt ≤ p.level.toInt := by
  by_contra hlt
  have hcost : p.exp < d.experienceToNextLevel p.level := by
    refine hp.done.resolve_left fun hlevel => hlt ?_
    rw [hlevel]
    exact hq.le
  rw [Int64.lt_iff_toInt_lt] at hcost
  have hnext := d.experienceTo_add_one hp.one_le
  have hmono := d.experienceTo_mono (show p.level.toInt + 1 ≤ q.level.toInt by omega)
  have hnonneg := hq.exp_nonneg
  unfold ClassDescriptor.gained at h
  omega

/-- Level and experience are known from what was gained in all. -/
theorem HasLeveled.eq_of_gained (hp : p.HasLeveled d highest) (hq : q.HasLeveled d highest)
    (h : d.gained p = d.gained q) : p.level = q.level ∧ p.exp = q.exp := by
  have hlevel : p.level.toInt = q.level.toInt :=
    Int.le_antisymm (hq.level_le hp h.symm) (hp.level_le hq h)
  unfold ClassDescriptor.gained at h
  rw [hlevel] at h
  exact ⟨Int32.toInt_inj.mp hlevel, Int64.toInt_inj.mp (by omega)⟩

end Player

/-! ## Levels that are gained -/

/-- The maximum of the vitals after one level of a class. -/
def Vitals.raisedBy (v gain : Vitals) : Vitals :=
  ⟨satAdd v.health gain.health, satAdd v.mana gain.mana⟩

namespace Scene

variable {s s' t : Scene} {d : ClassDescriptor}

/-- A player gains a number of levels, each with its points, its vitals, its event and its notice.
Nothing else is changed but the experience that is left. -/
structure Rises (d : ClassDescriptor) (n : Nat) (s s' : Scene) : Prop where
  level : s'.player.level.toInt = s.player.level.toInt + n
  statPoints : s'.player.statPoints =
    (· + s.world.config.player.statPointsPerLevel)^[n] s.player.statPoints
  maxVitals : s'.player.maxVitals = (·.raisedBy d.vitalsPerLevel)^[n] s.player.maxVitals
  vitals : s'.player.vitals = if n = 0 then s.player.vitals else s'.player.maxVitals
  requests : s'.world.requests =
    s.world.requests ++ List.replicate n (.trigger s.player.id .levelUp)
  sent : s'.world.sent =
    s.world.sent ++ List.replicate n (s.nearby, .entityUpdate s.player.id .level)
  rest : s' = { s with
    world := { s.world with requests := s'.world.requests, sent := s'.world.sent }
    player := { s.player with
      level := s'.player.level
      exp := s'.player.exp
      statPoints := s'.player.statPoints
      maxVitals := s'.player.maxVitals
      vitals := s'.player.vitals } }

/-- The scene after a level was paid for. -/
def paidLevel (s : Scene) (cost : Int64) : Scene :=
  (s.withPlayer { s.player with exp := s.player.exp - cost }).raiseLevel false

theorem Rises.refl (d : ClassDescriptor) (s : Scene) : s.Rises d 0 s where
  level := (Int.add_zero _).symm
  statPoints := rfl
  maxVitals := rfl
  vitals := rfl
  requests := (List.append_nil _).symm
  sent := (List.append_nil _).symm
  rest := rfl

/-- The maximum of the vitals at the next level of a described class. -/
theorem raisedVitals_eq (hd : s.world.catalog.classes.get? s.player.profession = some d) :
    s.raisedVitals = s.player.maxVitals.raisedBy d.vitalsPerLevel := by
  unfold raisedVitals
  rw [hd]
  rfl

/-- The event and the notice of a level that was paid for. -/
theorem world_paidLevel (s : Scene) (cost : Int64) : (s.paidLevel cost).world =
    { s.world with
      requests := s.world.requests ++ [.trigger s.player.id .levelUp]
      sent := s.world.sent ++ [(s.nearby, .entityUpdate s.player.id .level)] } := rfl

/-- The points and the vitals of a level that was paid for. -/
theorem player_paidLevel (s : Scene) (cost : Int64) : (s.paidLevel cost).player =
    { s.player with
      exp := s.player.exp - cost
      level := s.player.level + 1
      statPoints := s.player.statPoints + s.world.config.player.statPointsPerLevel
      maxVitals := s.raisedVitals
      vitals := s.raisedVitals } := rfl

/-- One level and then others. -/
theorem Rises.head {n : Nat} {cost : Int64}
    (hd : s.world.catalog.classes.get? s.player.profession = some d)
    (hlevel : s.player.level < s.world.config.player.maxLevel)
    (h : (s.paidLevel cost).Rises d n s') : s.Rises d (n + 1) s' := by
  have hworld := s.world_paidLevel cost
  have hplayer := s.player_paidLevel cost
  have hnext : (s.paidLevel cost).player.level.toInt = s.player.level.toInt + 1 := by
    rw [hplayer]
    exact toInt_add_one_of_lt hlevel
  have hrest := h.rest
  rw [hworld, hplayer] at hrest
  refine ⟨?_, ?_, ?_, ?_, ?_, ?_, hrest⟩
  · rw [h.level, hnext]
    omega
  · rw [h.statPoints, hplayer, hworld, Function.iterate_succ_apply]
  · rw [h.maxVitals, hplayer, raisedVitals_eq hd, Function.iterate_succ_apply]
  · rw [h.vitals, if_neg (Nat.succ_ne_zero n)]
    split
    · next hn =>
      subst hn
      exact h.maxVitals.symm
    · rfl
  · rw [h.requests, hworld, hplayer, List.replicate_succ]
    exact List.append_assoc ..
  · rw [h.sent, hworld, hplayer, List.replicate_succ]
    exact List.append_assoc ..

/-- There is a cost of the next level when there is a next level and the class is described. -/
theorem experienceToNextLevel?_eq_some_iff {cost : Int64} :
    s.experienceToNextLevel? = some cost ↔ s.player.level < s.world.config.player.maxLevel ∧
      ∃ d, s.world.catalog.classes.get? s.player.profession = some d ∧
        d.experienceToNextLevel s.player.level = cost := by
  unfold experienceToNextLevel?
  split
  · next hlevel => exact ⟨nofun, fun h => absurd h.1 (Int32.not_lt.mpr hlevel)⟩
  · next hlevel =>
    rw [Option.map_eq_some_iff]
    exact ⟨fun h => ⟨Int32.not_le.mp hlevel, h⟩, fun h => h.2⟩

/-- A level that is paid for costs experience, but what was gained in all is the same. -/
theorem gained_paidLevel (hlow : 1 ≤ s.player.level.toInt)
    (hlevel : s.player.level < s.world.config.player.maxLevel)
    (hcost : (d.experienceToNextLevel s.player.level).toInt ≤ s.player.exp.toInt) :
    d.gained (s.paidLevel (d.experienceToNextLevel s.player.level)).player = d.gained s.player ∧
      0 ≤ (s.paidLevel (d.experienceToNextLevel s.player.level)).player.exp.toInt := by
  have hone := d.one_le_experienceToNextLevel s.player.level
  have hexp : (s.paidLevel (d.experienceToNextLevel s.player.level)).player.exp.toInt =
      s.player.exp.toInt - (d.experienceToNextLevel s.player.level).toInt :=
    toInt_sub_of_le (by omega) hcost
  have hnext : (s.paidLevel (d.experienceToNextLevel s.player.level)).player.level.toInt =
      s.player.level.toInt + 1 := toInt_add_one_of_lt hlevel
  unfold ClassDescriptor.gained
  rw [hexp, hnext, d.experienceTo_add_one hlow]
  omega

/-- Gaining levels ends when there is no further level or not enough experience for it. -/
theorem rises_gainLevels (count : Nat) {s : Scene}
    (hd : s.world.catalog.classes.get? s.player.profession = some d)
    (hlow : 1 ≤ s.player.level.toInt)
    (hhigh : s.player.level.toInt ≤ s.world.config.player.maxLevel.toInt)
    (hexp : 0 ≤ s.player.exp.toInt)
    (hcount : s.world.config.player.maxLevel.toInt ≤ s.player.level.toInt + count) :
    (∃ n, s.Rises d n (gainLevels count s)) ∧
      d.gained (gainLevels count s).player = d.gained s.player ∧
      (gainLevels count s).player.HasLeveled d s.world.config.player.maxLevel := by
  -- The count is enough for the levels that are left, and each level takes one off both.
  induction count generalizing s with
  | zero =>
    have hhighest : s.player.level = s.world.config.player.maxLevel :=
      Int32.toInt_inj.mp (by omega)
    exact ⟨⟨0, .refl d s⟩, rfl, hlow, hhigh, hexp, .inl hhighest⟩
  | succ count ih =>
    unfold gainLevels
    split
    · next cost hcost =>
      obtain ⟨hlevel, d', hd', rfl⟩ := experienceToNextLevel?_eq_some_iff.mp hcost
      rw [hd] at hd'
      cases hd'
      split
      · next hless => exact ⟨⟨0, .refl d s⟩, rfl, hlow, hhigh, hexp, .inr hless⟩
      · next hless =>
        have hpays := Int64.le_iff_toInt_le.mp (Int64.not_lt.mp hless)
        obtain ⟨hgained, hleft⟩ := gained_paidLevel hlow hlevel hpays
        have hnext : (s.paidLevel (d.experienceToNextLevel s.player.level)).player.level.toInt =
            s.player.level.toInt + 1 := toInt_add_one_of_lt hlevel
        have hbelow := Int32.lt_iff_toInt_lt.mp hlevel
        obtain ⟨⟨n, hrises⟩, htotal, hleveled⟩ :=
          @ih (s.paidLevel (d.experienceToNextLevel s.player.level)) hd (by omega)
            (show _ ≤ s.world.config.player.maxLevel.toInt by omega) hleft
            (show s.world.config.player.maxLevel.toInt ≤ _ by omega)
        exact ⟨⟨n + 1, hrises.head hd hlevel⟩, htotal.trans hgained, hleveled⟩
    · next hnone =>
      have hhighest : s.player.level = s.world.config.player.maxLevel := by
        by_contra hne
        have hlevel := Int32.lt_of_le_of_ne (Int32.le_iff_toInt_le.mpr hhigh) hne
        have hcost := experienceToNextLevel?_eq_some_iff.mpr ⟨hlevel, d, hd, rfl⟩
        rw [hnone] at hcost
        cases hcost
      exact ⟨⟨0, .refl d s⟩, rfl, hlow, hhigh, hexp, .inl hhighest⟩

/-! ## Levels that are lost -/

/-- The scene with another experience of the player. -/
def withExperience (s : Scene) (exp : Int64) : Scene := s.withPlayer { s.player with exp := exp }

/-- The scene with the level below. -/
def withLevelBelow (s : Scene) : Scene :=
  s.withPlayer { s.player with level := s.player.level - 1 }

/-- The scene after a level was lost and experience was given back for it. -/
def lostLevel (s : Scene) (refund : Int64) : Scene :=
  (s.withLevelBelow.withExperience (s.player.exp + refund)).announce .level

/-- The level after one was lost. -/
theorem level_lostLevel (s : Scene) (refund : Int64) :
    (s.lostLevel refund).player.level = s.withLevelBelow.player.level := by
  unfold lostLevel withExperience withPlayer
  rfl

/-- A level is turned into missing experience: the cost that leads out of the level below is given
back. -/
def LosesLevel (s s' : Scene) : Prop :=
  s.player.exp < 0 ∧ 1 < s.player.level ∧
    ∃ refund, s.withLevelBelow.experienceToNextLevel? = some refund ∧ s' = s.lostLevel refund

/-- One level at most and then others. -/
theorem loseLevels_succ (count : Nat) (s : Scene) :
    loseLevels (count + 1) s = if s.player.exp < 0 ∧ 1 < s.player.level then
        loseLevels count (s.lostLevel (s.withLevelBelow.experienceToNextLevel?.getD 0))
      else s := rfl

/-- The level below one that is not the first has a cost: the class is described, and the level is
not above the highest one. -/
def HasCostBelow (s : Scene) : Prop :=
  (s.world.catalog.classes.get? s.player.profession).isSome ∧
    s.player.level ≤ s.world.config.player.maxLevel

/-- The level below another one. -/
theorem toInt_withLevelBelow (hlevel : 1 < s.player.level) :
    s.withLevelBelow.player.level.toInt = s.player.level.toInt - 1 := toInt_sub_one_of_lt hlevel

/-- A level is below the highest one exactly when the next one is not above it. -/
theorem withLevelBelow_lt_iff (hlevel : 1 < s.player.level) (highest : Int32) :
    s.withLevelBelow.player.level < highest ↔ s.player.level ≤ highest := by
  rw [Int32.lt_iff_toInt_lt, Int32.le_iff_toInt_le, toInt_withLevelBelow hlevel]
  omega

/-- The level below has a cost exactly when there is something to give back for the level. -/
theorem hasCostBelow_iff (hlevel : 1 < s.player.level) :
    s.HasCostBelow ↔ ∃ refund, s.withLevelBelow.experienceToNextLevel? = some refund := by
  have hbelow := withLevelBelow_lt_iff hlevel s.world.config.player.maxLevel
  constructor
  · rintro ⟨hclass, hmax⟩
    obtain ⟨d, hd⟩ := Option.isSome_iff_exists.mp hclass
    exact ⟨_, experienceToNextLevel?_eq_some_iff.mpr ⟨hbelow.mpr hmax, d, hd, rfl⟩⟩
  · rintro ⟨refund, hrefund⟩
    obtain ⟨hmax, d, hd, -⟩ := experienceToNextLevel?_eq_some_iff.mp hrefund
    exact ⟨Option.isSome_iff_exists.mpr ⟨d, hd⟩, hbelow.mp hmax⟩

/-- Losing levels takes them one by one, each for its cost, until no experience is missing or the
first level is reached. -/
theorem losesLevels (count : Nat) {s : Scene} (hcount : s.player.level.toInt ≤ count + 1)
    (hcost : s.player.exp < 0 → 1 < s.player.level → s.HasCostBelow) :
    Relation.ReflTransGen LosesLevel s (loseLevels count s) ∧
      ∀ u, ¬ (loseLevels count s).LosesLevel u := by
  induction count generalizing s with
  | zero =>
    refine ⟨.refl, fun u hloses => ?_⟩
    have hlevel : 1 < s.player.level := hloses.2.1
    rw [Int32.lt_iff_toInt_lt, Int32.toInt_one] at hlevel
    omega
  | succ count ih =>
    rw [loseLevels_succ]
    split
    · next hloses =>
      have hbelow := hcost hloses.1 hloses.2
      obtain ⟨refund, hrefund⟩ := (hasCostBelow_iff hloses.2).mp hbelow
      have hlevel := toInt_withLevelBelow hloses.2
      have hstep : s.LosesLevel (s.lostLevel refund) := ⟨hloses.1, hloses.2, refund, hrefund, rfl⟩
      have hnext : (s.lostLevel refund).HasCostBelow := by
        refine ⟨hbelow.1, Int32.le_of_lt ?_⟩
        exact (withLevelBelow_lt_iff hloses.2 _).mpr hbelow.2
      rw [hrefund, Option.getD_some]
      obtain ⟨hlost, hend⟩ := @ih (s.lostLevel refund)
        (show s.withLevelBelow.player.level.toInt ≤ _ by omega) fun _ _ => hnext
      exact ⟨.head hstep hlost, hend⟩
    · next hstop => exact ⟨.refl, fun u hloses => hstop ⟨hloses.1, hloses.2.1⟩⟩

/-- What the levels that a player loses leave as it was. -/
structure Falls (d : ClassDescriptor) (s s' : Scene) : Prop where
  gained : d.gained s'.player = d.gained s.player
  one_le : 1 ≤ s'.player.level.toInt
  le : s'.player.level.toInt ≤ s.player.level.toInt
  /-- When a level was lost, the experience for it is missing. -/
  lacks : s'.player = s.player ∨ s'.player.exp < d.experienceToNextLevel s'.player.level
  rest : s' = { s with
    world := { s.world with sent := s'.world.sent }
    player := { s.player with level := s'.player.level, exp := s'.player.exp } }

/-- A level that is lost. -/
theorem Falls.of_losesLevel (hd : s.world.catalog.classes.get? s.player.profession = some d)
    (h : s.LosesLevel s') : s.Falls d s' := by
  obtain ⟨hexp, hlevel, refund, hrefund, rfl⟩ := h
  obtain ⟨-, d', hd', hcost⟩ := experienceToNextLevel?_eq_some_iff.mp hrefund
  rw [show s.withLevelBelow.world.catalog.classes.get? s.withLevelBelow.player.profession = some d
    from hd] at hd'
  cases hd'
  have hlow := Int32.lt_iff_toInt_lt.mp hlevel
  rw [Int32.toInt_one] at hlow
  have hbelow : (s.lostLevel refund).player.level.toInt = s.player.level.toInt - 1 := by
    rw [level_lostLevel]
    exact toInt_withLevelBelow hlevel
  have hcosts : (d.experienceToNextLevel (s.lostLevel refund).player.level).toInt = refund.toInt :=
    congrArg Int64.toInt hcost
  have hone := d.one_le_experienceToNextLevel (s.lostLevel refund).player.level
  have hfits := fitsInt64_toInt s.player.exp
  have hfits' := fitsInt64_toInt refund
  have hmissing := Int64.lt_iff_toInt_lt.mp hexp
  rw [Int64.toInt_zero] at hmissing
  unfold FitsInt64 at hfits hfits'
  have hleft : (s.lostLevel refund).player.exp.toInt = s.player.exp.toInt + refund.toInt :=
    toInt_add_of_fits ⟨by omega, by omega⟩
  have hnext := d.experienceTo_add_one (show 1 ≤ (s.lostLevel refund).player.level.toInt by omega)
  refine ⟨?_, by omega, by omega, .inr ?_, rfl⟩
  · unfold ClassDescriptor.gained
    rw [hleft, ← hcosts, show s.player.level.toInt = (s.lostLevel refund).player.level.toInt + 1 by
      omega, hnext]
    omega
  · rw [Int64.lt_iff_toInt_lt]
    omega

/-- Levels that are lost one after another. -/
theorem Falls.of_losesLevels (hd : s.world.catalog.classes.get? s.player.profession = some d)
    (hlow : 1 ≤ s.player.level.toInt) (h : Relation.ReflTransGen LosesLevel s s') :
    s.Falls d s' := by
  induction h with
  | refl => exact ⟨rfl, hlow, Int.le_refl _, .inl rfl, rfl⟩
  | @tail t u _ hstep ih =>
    have hclass : t.world.catalog.classes.get? t.player.profession = some d := by
      rw [ih.rest]
      exact hd
    have hfalls := of_losesLevel hclass hstep
    refine ⟨hfalls.gained.trans ih.gained, hfalls.one_le, Int.le_trans hfalls.le ih.le,
      ?_, ?_⟩
    · rcases hfalls.lacks with hsame | hlacks
      · rw [hsame]
        exact ih.lacks
      · exact .inr hlacks
    · rw [hfalls.rest, ih.rest]

/-- Losing levels ends when no experience is missing or the first level is reached. -/
theorem falls_loseLevels (hd : s.world.catalog.classes.get? s.player.profession = some d)
    (hlow : 1 ≤ s.player.level.toInt) (hhigh : s.player.level ≤ s.world.config.player.maxLevel)
    {count : Nat} (hcount : s.player.level.toInt ≤ count + 1) :
    s.Falls d (loseLevels count s) ∧ (0 ≤ (loseLevels count s).player.exp.toInt ∨
      (loseLevels count s).player.level.toInt = 1) := by
  have hclass := Option.isSome_iff_exists.mpr ⟨d, hd⟩
  obtain ⟨hlost, hend⟩ := losesLevels count hcount fun _ _ => ⟨hclass, hhigh⟩
  have hfalls := Falls.of_losesLevels hd hlow hlost
  refine ⟨hfalls, ?_⟩
  by_contra hopen
  obtain ⟨hmissing, hnot⟩ := not_or.mp hopen
  have hone := hfalls.one_le
  have hlevel : 1 < (loseLevels count s).player.level := by
    rw [Int32.lt_iff_toInt_lt, Int32.toInt_one]
    omega
  have hbelow : (loseLevels count s).HasCostBelow := by
    have hle := Int32.le_trans (Int32.le_iff_toInt_le.mpr hfalls.le) hhigh
    unfold HasCostBelow
    rw [hfalls.rest]
    exact ⟨hclass, hle⟩
  obtain ⟨refund, hrefund⟩ := (hasCostBelow_iff hlevel).mp hbelow
  refine hend _ ⟨?_, hlevel, refund, hrefund, rfl⟩
  rw [Int64.lt_iff_toInt_lt, Int64.toInt_zero]
  omega

/-! ## Giving and taking -/

/-- The scene after experience was given or taken, before it is turned into levels. -/
def withAmount (s : Scene) (amount : Int64) : Scene :=
  s.withExperience (satAdd s.player.exp amount)

/-- The scene in which no experience is missing, and clients know of it. -/
def settleExperience (s : Scene) : Scene :=
  (s.withExperience (max s.player.exp 0)).announce .experience

variable {quantity : Quantity} {losing : Bool}

/-- Experience that is given is turned into levels. -/
theorem giveExperience_of_pos (h : 0 < s.world.amount s.player quantity) :
    s.giveExperience quantity losing =
      (gainLevels (s.world.config.player.maxLevel.toInt - s.player.level.toInt).toNat
        (s.withAmount (s.world.amount s.player quantity))).announce .experience := by
  unfold giveExperience
  dsimp only
  rw [if_pos h]
  rfl

/-- Levels are turned into experience that is taken, if that is enabled. -/
theorem giveExperience_of_neg (h : s.world.amount s.player quantity < 0) :
    s.giveExperience quantity losing = settleExperience (if losing then
        loseLevels (s.player.level.toInt - 1).toNat
          (s.withAmount (s.world.amount s.player quantity))
      else s.withAmount (s.world.amount s.player quantity)) := by
  have hpos : ¬ 0 < s.world.amount s.player quantity := by
    rw [Int64.not_lt]
    exact Int64.le_of_lt h
  unfold giveExperience
  dsimp only
  rw [if_neg hpos, if_pos h]
  rfl

/-- The experience after an amount that does not leave the range. -/
theorem toInt_withAmount {amount : Int64} (h : FitsInt64 (s.player.exp.toInt + amount.toInt)) :
    (s.withAmount amount).player.exp.toInt = s.player.exp.toInt + amount.toInt := by
  unfold FitsInt64 at h
  refine (toInt_satAdd ..).trans ?_
  omega

/-- Experience that is taken does not leave the range. -/
theorem toInt_withAmount_of_neg {amount : Int64} (hexp : 0 ≤ s.player.exp.toInt)
    (hneg : amount.toInt < 0) :
    (s.withAmount amount).player.exp.toInt = s.player.exp.toInt + amount.toInt := by
  have hfits := fitsInt64_toInt amount
  have hfits' := fitsInt64_toInt s.player.exp
  unfold FitsInt64 at hfits hfits'
  exact toInt_withAmount ⟨by omega, by omega⟩

theorem level_settleExperience (s : Scene) :
    s.settleExperience.player.level = s.player.level := rfl

/-- The experience that is settled. -/
theorem toInt_settleExperience (s : Scene) :
    s.settleExperience.player.exp.toInt = max s.player.exp.toInt 0 := toInt_max ..

/-- What becomes of experience that is given. -/
structure Earns (d : ClassDescriptor) (amount : Int) (s s' : Scene) : Prop where
  gained : d.gained s'.player = d.gained s.player + amount
  leveled : s'.player.HasLeveled d s.world.config.player.maxLevel
  rises : ∃ n t, s.Rises d n t ∧ s' = t.announce .experience

/-- What becomes of experience that is taken along with levels. -/
structure Forfeits (d : ClassDescriptor) (amount : Int) (s s' : Scene) : Prop where
  gained : d.gained s'.player = max (d.gained s.player + amount) 0
  one_le : 1 ≤ s'.player.level.toInt
  le : s'.player.level.toInt ≤ s.player.level.toInt
  exp_nonneg : 0 ≤ s'.player.exp.toInt
  rest : s' = { s with
    world := { s.world with sent := s'.world.sent }
    player := { s.player with level := s'.player.level, exp := s'.player.exp } }

section

variable (hd : s.world.catalog.classes.get? s.player.profession = some d)
  (hlow : 1 ≤ s.player.level.toInt) (hexp : 0 ≤ s.player.exp.toInt)

include hd hlow hexp

/-- Experience that is given is kept in experience and levels. -/
theorem earns_giveExperience (hhigh : s.player.level ≤ s.world.config.player.maxLevel)
    (hpos : 0 < (s.world.amount s.player quantity).toInt)
    (hfits : FitsInt64 (s.player.exp.toInt + (s.world.amount s.player quantity).toInt)) :
    s.Earns d (s.world.amount s.player quantity).toInt (s.giveExperience quantity losing) := by
  have hgiven := toInt_withAmount hfits
  have hle := Int32.le_iff_toInt_le.mp hhigh
  obtain ⟨⟨n, hrises⟩, hgained, hleveled⟩ :=
    @rises_gainLevels d (s.world.config.player.maxLevel.toInt - s.player.level.toInt).toNat
      (s.withAmount (s.world.amount s.player quantity)) hd hlow hle (by omega)
      (show s.world.config.player.maxLevel.toInt ≤ s.player.level.toInt + _ by omega)
  rw [giveExperience_of_pos (Int64.lt_iff_toInt_lt.mpr hpos)]
  refine ⟨hgained.trans ?_, hleveled, n, _, ⟨hrises.level, hrises.statPoints, hrises.maxVitals,
    hrises.vitals, hrises.requests, hrises.sent, hrises.rest⟩, rfl⟩
  show (s.withAmount _).player.exp.toInt + d.experienceTo s.player.level.toInt = _
  rw [hgiven]
  unfold ClassDescriptor.gained
  omega

/-- Taking experience along with levels. -/
theorem exists_falls_giveExperience (hhigh : s.player.level ≤ s.world.config.player.maxLevel)
    (hneg : (s.world.amount s.player quantity).toInt < 0) :
    ∃ t, (s.withAmount (s.world.amount s.player quantity)).Falls d t ∧
      (0 ≤ t.player.exp.toInt ∨ t.player.level.toInt = 1) ∧
      s.giveExperience quantity true = t.settleExperience ∧
      d.gained t.player = d.gained s.player + (s.world.amount s.player quantity).toInt := by
  have hgiven := toInt_withAmount_of_neg hexp hneg
  obtain ⟨hfalls, hend⟩ := @falls_loseLevels (s.withAmount (s.world.amount s.player quantity)) d
    hd hlow hhigh (s.player.level.toInt - 1).toNat (show s.player.level.toInt ≤ _ by omega)
  rw [giveExperience_of_neg (Int64.lt_iff_toInt_lt.mpr hneg), if_pos rfl]
  refine ⟨_, hfalls, hend, rfl, hfalls.gained.trans ?_⟩
  show (s.withAmount _).player.exp.toInt + d.experienceTo s.player.level.toInt = _
  rw [hgiven]
  unfold ClassDescriptor.gained
  omega

/-- Experience that is taken is taken from experience and levels, as far as there is any. -/
theorem forfeits_giveExperience (hhigh : s.player.level ≤ s.world.config.player.maxLevel)
    (hneg : (s.world.amount s.player quantity).toInt < 0) :
    s.Forfeits d (s.world.amount s.player quantity).toInt (s.giveExperience quantity true) := by
  obtain ⟨t, hfalls, hend, heq, hgained⟩ := exists_falls_giveExperience hd hlow hexp hhigh hneg
  have hsettled := t.toInt_settleExperience
  have hreach := d.experienceTo_nonneg t.player.level.toInt
  rw [heq]
  refine ⟨?_, hfalls.one_le, hfalls.le, by omega, ?_⟩
  · rw [← hgained]
    unfold ClassDescriptor.gained
    rw [hsettled, level_settleExperience]
    rcases hend with hnonneg | hfirst
    · omega
    · -- On the first level nothing but experience was gained.
      rw [hfirst, d.experienceTo_one]
      omega
  · rw [hfalls.rest]
    rfl

/-- A player who turned all experience into levels has done so also after some was taken. -/
theorem hasLeveled_giveExperience (hneg : (s.world.amount s.player quantity).toInt < 0)
    (hleveled : s.player.HasLeveled d s.world.config.player.maxLevel) :
    (s.giveExperience quantity true).player.HasLeveled d s.world.config.player.maxLevel := by
  have hhigh := Int32.le_iff_toInt_le.mpr hleveled.le
  obtain ⟨t, hfalls, -, heq, -⟩ := exists_falls_giveExperience hd hlow hexp hhigh hneg
  have hsettled := t.toInt_settleExperience
  have hone := d.one_le_experienceToNextLevel t.player.level
  have hdone : t.player.level = s.world.config.player.maxLevel ∨
      t.player.exp < d.experienceToNextLevel t.player.level := by
    rcases hfalls.lacks with hsame | hlacks
    · rw [hsame]
      refine hleveled.done.imp_right fun hless => Int64.lt_of_le_of_lt ?_ hless
      rw [Int64.le_iff_toInt_le, toInt_withAmount_of_neg hexp hneg]
      omega
    · exact .inr hlacks
  rw [heq]
  refine ⟨hfalls.one_le, Int.le_trans hfalls.le hleveled.le, by omega, ?_⟩
  refine hdone.imp_right fun hless => ?_
  rw [Int64.lt_iff_toInt_lt] at hless ⊢
  show t.settleExperience.player.exp.toInt < (d.experienceToNextLevel t.player.level).toInt
  omega

end

/-- Experience is conserved across levels. What is given is kept as experience and levels, each with
all that belongs to it; what is taken is taken from both, or from the experience within the level
alone, and nothing but what there is; and what is given and then taken again leaves level and
experience as they were. -/
theorem conserved_giveExperience
    (hd : s.world.catalog.classes.get? s.player.profession = some d)
    (hlow : 1 ≤ s.player.level) (hhigh : s.player.level ≤ s.world.config.player.maxLevel)
    (hexp : 0 ≤ s.player.exp) (quantity : Quantity) (losing : Bool) :
    let amount := (s.world.amount s.player quantity).toInt
    let s' := s.giveExperience quantity losing
    (0 < amount → FitsInt64 (s.player.exp.toInt + amount) → s.Earns d amount s' ∧
      (s.player.level = s.world.config.player.maxLevel ∨
          s.player.exp < d.experienceToNextLevel s.player.level →
        ∀ back : Quantity, (s'.world.amount s'.player back).toInt = -amount →
          (s'.giveExperience back true).player.level = s.player.level ∧
            (s'.giveExperience back true).player.exp = s.player.exp)) ∧
    (amount < 0 → losing = true → s.Forfeits d amount s') ∧
    (amount < 0 → losing = false → ∃ left : Int64,
      left.toInt = max (s.player.exp.toInt + amount) 0 ∧
        s' = (s.withExperience left).announce .experience) := by
  intro amount s'
  have hlow' : 1 ≤ s.player.level.toInt := Int32.le_iff_toInt_le.mp hlow
  have hexp' : 0 ≤ s.player.exp.toInt := Int64.le_iff_toInt_le.mp hexp
  have hhigh' := Int32.le_iff_toInt_le.mp hhigh
  refine ⟨fun hpos hfits => ?_, fun hneg htrue => ?_, fun hneg hfalse => ?_⟩
  · have hearns : s.Earns d amount s' := earns_giveExperience hd hlow' hexp' hhigh hpos hfits
    refine ⟨hearns, fun hdone back hback => ?_⟩
    have hleveled : s.player.HasLeveled d s.world.config.player.maxLevel :=
      ⟨hlow', hhigh', hexp', hdone⟩
    obtain ⟨n, t, hrises, heq⟩ := hearns.rises
    have hafter := hearns.leveled
    have hclass : s'.world.catalog.classes.get? s'.player.profession = some d := by
      rw [heq, hrises.rest]
      exact hd
    have hconfig : s'.world.config = s.world.config := by
      rw [heq, hrises.rest]
      rfl
    rw [← hconfig] at hafter hleveled
    have hneg : (s'.world.amount s'.player back).toInt < 0 := by omega
    have hforfeits := forfeits_giveExperience hclass hafter.one_le hafter.exp_nonneg
      (Int32.le_iff_toInt_le.mpr hafter.le) hneg
    have hback' := hasLeveled_giveExperience hclass hafter.one_le hafter.exp_nonneg hneg hafter
    refine hback'.eq_of_gained hleveled ?_
    have hnonneg := d.experienceTo_nonneg s.player.level.toInt
    have hgained := hforfeits.gained
    rw [hearns.gained, hback] at hgained
    unfold ClassDescriptor.gained at hgained ⊢
    omega
  · subst htrue
    exact forfeits_giveExperience hd hlow' hexp' hhigh hneg
  · subst hfalse
    have hgiven := toInt_withAmount_of_neg hexp' hneg
    refine ⟨max (s.withAmount (s.world.amount s.player quantity)).player.exp 0, ?_, ?_⟩
    · rw [toInt_max, hgiven]
      rfl
    · exact giveExperience_of_neg (Int64.lt_iff_toInt_lt.mpr hneg)

/-! ### Two levels up and down again -/

/-- A class of which the first level costs a hundred and each later one fifty more. -/
def mage : ClassDescriptor := ⟨⟨8⟩, "Mage", "", 100, 50, ⟨10, 20⟩⟩

/-- A player of that class on the first level. -/
def apprentice : Scene where
  world := World.start {} { DescriptorSet.empty with classes := [mage] }.catalog (.start 0)
    (.seeded 0)
  player := { Player.fresh ⟨3⟩ "Ann" .nil 0 0 with
    profession := mage.id
    exp := 40 }
  run := .start ⟨4⟩ ⟨5⟩ ⟨3⟩ (Page.draft ⟨1⟩ "lesson" ⟨2⟩)
  page := Page.draft ⟨1⟩ "lesson" ⟨2⟩

/-- The scene after a lesson worth two levels. -/
def afterLesson : Scene := apprentice.giveExperience (.fixed 250) false

/-- Two levels are gained, and forgetting the lesson takes both away. -/
theorem conserved_giveExperience_apprentice :
    apprentice.Earns mage 250 afterLesson ∧
      afterLesson.player.level = 3 ∧ afterLesson.player.exp = 40 ∧
      afterLesson.player.statPoints = 2 ∧ afterLesson.player.maxVitals = ⟨120, 140⟩ ∧
      afterLesson.world.requests = [.trigger ⟨3⟩ .levelUp, .trigger ⟨3⟩ .levelUp] ∧
      (afterLesson.giveExperience (.fixed (-250)) true).player.level = 1 ∧
      (afterLesson.giveExperience (.fixed (-250)) true).player.exp = 40 := by
  have hfits : FitsInt64 (apprentice.player.exp.toInt + 250) := ⟨by decide, by decide⟩
  obtain ⟨hgains, -, -⟩ := conserved_giveExperience (s := apprentice) (d := mage) rfl (by decide)
    (by decide) (by decide) (.fixed 250) false
  obtain ⟨hearns, hback⟩ := hgains (by decide) hfits
  obtain ⟨hlevel, hexp⟩ := hback (.inr (by decide)) (.fixed (-250)) rfl
  exact ⟨hearns, rfl, rfl, rfl, rfl, rfl, hlevel, hexp⟩

end Scene

end EventScript
