import EventScript.Proofs.Bounded
import EventScript.Proofs.Turn.Fault
import EventScript.Proofs.Turn.Player

/-!
# Vitals

A vital that is changed is held between zero and its maximum. The maximum itself grows with every
level by what the class says, and a class may also say that it shrinks. As long as no class does so,
vitals stay in range whatever scripts do; and that is the only way to keep them there. Below zero no
value is in range, and the next change of such a vital ends the whole run.
-/

namespace EventScript

/-- The number for a vital after one was replaced. -/
theorem Vitals.get_set (v : Vitals) (k j : Vital) (n : Int64) :
    (v.set k n).get j = if j = k then n else v.get j := by
  cases k <;> cases j <;> rfl

namespace Player

variable {p q r : Player}

/-- Every vital is between zero and its maximum. -/
def HasVitalsInRange (p : Player) : Prop :=
  ∀ v, 0 ≤ p.vitals.get v ∧ p.vitals.get v ≤ p.maxVitals.get v

/-- No vital is above its maximum, and none is below zero unless its maximum is. -/
def HasBoundedVitals (p : Player) : Prop :=
  ∀ v, p.vitals.get v ≤ p.maxVitals.get v ∧ (0 ≤ p.maxVitals.get v → 0 ≤ p.vitals.get v)

/-- Vitals are in range when they are bounded and no maximum is below zero. -/
theorem hasVitalsInRange_iff :
    p.HasVitalsInRange ↔ p.HasBoundedVitals ∧ ∀ v, 0 ≤ p.maxVitals.get v := by
  constructor
  · intro h
    exact ⟨fun v => ⟨(h v).2, fun _ => (h v).1⟩, fun v => Int64.le_trans (h v).1 (h v).2⟩
  · rintro ⟨hbounded, hmaxima⟩ v
    exact ⟨(hbounded v).2 (hmaxima v), (hbounded v).1⟩

end Player

/-- Whether a level can take vitals away: some class does so, and there is a level to gain. -/
def Catalog.HasDrainingLevel (c : Catalog) (config : EngineConfig) : Prop :=
  Int32.minValue < config.player.maxLevel ∧
    ∃ d ∈ c.classes.values, ∃ v, d.vitalsPerLevel.get v < 0

/-- On the way from one player to the other vitals stay bounded, and no maximum shrinks unless a
level takes vitals away. -/
structure Player.KeepsVitals (config : EngineConfig) (c : Catalog) (p q : Player) : Prop where
  bounded : p.HasBoundedVitals → q.HasBoundedVitals
  maxima : ¬ c.HasDrainingLevel config → ∀ v, p.maxVitals.get v ≤ q.maxVitals.get v

namespace Player.KeepsVitals

variable {config : EngineConfig} {c : Catalog} {p q r : Player}

/-- Vitals that are not changed. -/
theorem of_eq (hvitals : q.vitals = p.vitals) (hmaxima : q.maxVitals = p.maxVitals) :
    p.KeepsVitals config c q := by
  refine ⟨fun h => ?_, fun _ v => ?_⟩
  · unfold HasBoundedVitals
    rw [hvitals, hmaxima]
    exact h
  · rw [hmaxima]
    exact Int64.le_refl _

/-- One way after the other. -/
theorem trans (h : p.KeepsVitals config c q) (h' : q.KeepsVitals config c r) :
    p.KeepsVitals config c r :=
  ⟨fun hp => h'.bounded (h.bounded hp),
    fun hc v => Int64.le_trans (h.maxima hc v) (h'.maxima hc v)⟩

/-- Setting a vital to a value within its bounds. -/
theorem set (v : Vital) {n : Int64} (hle : n ≤ p.maxVitals.get v)
    (hnonneg : 0 ≤ p.maxVitals.get v → 0 ≤ n) :
    p.KeepsVitals config c { p with vitals := p.vitals.set v n } := by
  refine ⟨fun h j => ?_, fun _ _ => Int64.le_refl _⟩
  dsimp only
  rw [Vitals.get_set]
  split
  · next hj => exact hj ▸ ⟨hle, hnonneg⟩
  · exact h j

/-- Setting a vital to its maximum. -/
theorem restoreVital (p : Player) (v : Vital) : p.KeepsVitals config c (p.restoreVital v) :=
  set v (Int64.le_refl _) fun h => h

/-- Adding to a vital. -/
theorem addVital {v : Vital} {amount : Int64} (h : p.addVital v amount = .ok q) :
    p.KeepsVitals config c q := by
  unfold Player.addVital at h
  dsimp only at h
  split at h
  · cases h
  · next hmaximum =>
    cases h
    refine set v ?_ fun _ => ?_
    · rw [Int64.le_iff_toInt_le, toInt_max, toInt_min]
      rw [Int64.lt_iff_toInt_lt] at hmaximum
      omega
    · rw [Int64.le_iff_toInt_le, toInt_max]
      exact Int.le_max_left ..

end Player.KeepsVitals

/-! ## What scripts do to vitals -/

namespace Scene

/-- Keeping the vitals of the player on the way from one scene to another. -/
abbrev KeepsVitals (s s' : Scene) : Prop :=
  s.player.KeepsVitals s.world.config s.world.catalog s'.player

variable (s : Scene)

/-- The maximum of a vital at the next level. -/
theorem get_raisedVitals (v : Vital) :
    s.raisedVitals.get v =
      match s.world.catalog.classes.get? s.player.profession with
      | some d => satAdd (s.player.maxVitals.get v) (d.vitalsPerLevel.get v)
      | none => s.player.maxVitals.get v := by
  unfold raisedVitals
  cases s.world.catalog.classes.get? s.player.profession <;> cases v <;> rfl

/-- A new level restores all vitals. -/
theorem keepsVitals_raiseLevel (h : s.player.level < s.world.config.player.maxLevel)
    (resets : Bool) : s.KeepsVitals (s.raiseLevel resets) := by
  refine ⟨fun _ _ => ⟨Int64.le_refl _, fun h => h⟩, fun hc v => ?_⟩
  have hmax : Int32.minValue < s.world.config.player.maxLevel :=
    Int32.lt_of_le_of_lt (Int32.minValue_le _) h
  show s.player.maxVitals.get v ≤ s.raisedVitals.get v
  rw [get_raisedVitals]
  split
  · next d hd =>
    refine le_satAdd (Int64.not_lt.mp fun hdrains => hc ⟨hmax, d, ?_, v, hdrains⟩)
    exact Table.mem_values_iff.mpr ⟨_, hd⟩
  · exact Int64.le_refl _

/-- So do several ones. -/
theorem keepsVitals_gainLevels (count : Nat) (s : Scene) :
    s.KeepsVitals (gainLevels count s) := by
  induction count generalizing s with
  | zero => exact .of_eq rfl rfl
  | succ count ih =>
    unfold gainLevels
    split
    · next needed hneeded =>
      have hlevel : s.player.level < s.world.config.player.maxLevel := by
        unfold experienceToNextLevel? at hneeded
        split at hneeded
        · cases hneeded
        · next hlevel => exact Int32.not_le.mp hlevel
      split
      · exact .of_eq rfl rfl
      · let paid := s.withPlayer { s.player with exp := s.player.exp - needed }
        have hpaid : s.KeepsVitals paid := .of_eq rfl rfl
        exact hpaid.trans
          ((paid.keepsVitals_raiseLevel hlevel false).trans (ih (paid.raiseLevel false)))
    · exact .of_eq rfl rfl

/-- Levels that are lost keep the vitals. -/
theorem vitals_loseLevels (count : Nat) (s : Scene) :
    (loseLevels count s).player.vitals = s.player.vitals ∧
      (loseLevels count s).player.maxVitals = s.player.maxVitals := by
  induction count generalizing s with
  | zero => exact ⟨rfl, rfl⟩
  | succ count ih =>
    unfold loseLevels
    split
    · exact ih _
    · exact ⟨rfl, rfl⟩

theorem keepsVitals_giveExperience (quantity : Quantity) (losing : Bool) :
    s.KeepsVitals (s.giveExperience quantity losing) := by
  let given := s.withPlayer
    { s.player with exp := satAdd s.player.exp (s.world.amount s.player quantity) }
  have hgiven : s.KeepsVitals given := .of_eq rfl rfl
  unfold giveExperience
  dsimp only
  split
  · exact hgiven.trans (keepsVitals_gainLevels _ given)
  · split
    · split
      · have hlost := vitals_loseLevels (s.player.level.toInt - 1).toNat given
        exact .of_eq hlost.1 hlost.2
      · exact .of_eq rfl rfl
    · exact .of_eq rfl rfl

theorem keepsVitals_restoreVital {v : Vital} {amount : Int64} {s' : Scene}
    (h : s.restoreVital v amount = .ok s') :
    s.KeepsVitals s' := by
  unfold restoreVital at h
  split at h
  · obtain ⟨p, hp, h⟩ := Guarded.bind_eq_ok.mp h
    cases h
    exact .addVital hp
  · split at h
    · obtain ⟨p, hp, h⟩ := Guarded.bind_eq_ok.mp h
      cases h
      refine Player.KeepsVitals.trans (.addVital hp) ?_
      unfold announce dieIfExhausted
      split <;> exact .of_eq rfl rfl
    · cases h
      exact .restoreVital s.player v

/-- Every command keeps the vitals of its player. -/
theorem keepsVitals_execute {c : Command} {s' : Scene} (h : s.execute c = .ok s') :
    s.KeepsVitals s' := by
  -- Few commands concern the character at all.
  have hother (hpart : c.parts.contains .character = false) : s.KeepsVitals s' := by
    have hplayer := congrArg Setting.player (s.rest_execute h)
    exact .of_eq (Part.eq_of_keep_eq hpart (congrArg Player.vitals hplayer))
      (Part.eq_of_keep_eq hpart (congrArg Player.maxVitals hplayer))
  cases c with
  | restoreHp | restoreMp => exact s.keepsVitals_restoreVital h
  | levelUp =>
    cases h
    unfold levelUp
    split
    · exact .of_eq rfl rfl
    · next hlevel => exact s.keepsVitals_raiseLevel (Int32.not_le.mp hlevel) true
  | giveExperience quantity losing =>
    cases h
    exact s.keepsVitals_giveExperience quantity losing
  | changeLevel | resetStatPointAllocations =>
    cases h
    exact .of_eq rfl rfl
  | setClass profession =>
    cases h
    unfold setClass
    dsimp only
    split <;> exact .of_eq rfl rfl
  | _ => exact hother rfl

/-- So does every response. -/
theorem keepsVitals_resume {asked : Suspension} {response : Response} {s' : Scene}
    (h : s.resume asked response = .ok s') :
    s.KeepsVitals s' := by
  have hpart : asked.parts.contains .character = false := by
    unfold Suspension.parts
    split <;> rfl
  have hplayer := congrArg Setting.player (s.rest_resume h)
  exact .of_eq (Part.eq_of_keep_eq hpart (congrArg Player.vitals hplayer))
    (Part.eq_of_keep_eq hpart (congrArg Player.maxVitals hplayer))

end Scene

/-! ## Steps that change a vital -/

/-- A step finds the maximum of a vital below zero if and only if it is so and the step changes the
vital. -/
theorem Turn.step_eq_negativeMaximum_iff {t : Turn} {p : Player} {v : Vital} {maximum : Int64}
    (hp : t.world.player? t.run.player = some p) :
    t.step = .error (.negativeMaximum v maximum) ↔
      (∃ amount, t.command?.bind Command.vitalChange? = some (v, amount) ∧ amount ≠ 0) ∧
        p.maxVitals.get v = maximum ∧ maximum < 0 := by
  rw [step_eq_error_iff]
  constructor
  · rintro ⟨d, hdeed, hfault⟩
    obtain ⟨c, hc, hdeed⟩ := Option.bind_eq_some_iff.mp hdeed
    obtain ⟨frame, -, hdeed⟩ := Option.bind_eq_some_iff.mp hdeed
    obtain ⟨q, hq, hdeed⟩ := Option.bind_eq_some_iff.mp hdeed
    rw [hp] at hq
    cases hq
    split at hdeed
    · cases hdeed
    · cases hdeed
      rw [hc]
      exact Scene.execute_eq_negativeMaximum_iff.mp hfault
  · rintro ⟨⟨amount, hchange, hamount⟩, hmaximum⟩
    obtain ⟨c, hc, hchange⟩ := Option.bind_eq_some_iff.mp hchange
    have hsupported : c ≠ .unsupported := by
      rintro rfl
      cases hchange
    cases hstack : t.settle.run.stack with
    | nil =>
      unfold command? Instance.top? at hc
      rw [hstack] at hc
      cases hc
    | cons frame rest =>
      have hdeed := deed?_of_stack hstack hc
      rw [hp, Option.bind_some, if_neg hsupported] at hdeed
      refine ⟨_, hdeed, ?_⟩
      exact Scene.execute_eq_negativeMaximum_iff.mpr ⟨⟨amount, hchange, hamount⟩, hmaximum⟩

/-! ## Runs -/

namespace World

variable {w w' : World} {id : PlayerId} {p : Player}

/-- Whatever happens keeps the vitals of a loaded player. -/
theorem Act.keepsVitals (h : w.Act w') (hp : w.player? id = some p) :
    ∃ q, w'.player? id = some q ∧ p.KeepsVitals w.config w.catalog q := by
  cases h.player_cases hp with
  | aside guild vars hq => exact ⟨_, hq, .of_eq rfl rfl⟩
  | @executed i page c s hscene =>
    exact ⟨s.player, Table.get?_insert_self .., Scene.keepsVitals_execute _ hscene⟩
  | @resumed i page asked response s hscene =>
    exact ⟨s.player, Table.get?_insert_self .., Scene.keepsVitals_resume _ hscene⟩

/-- So does everything that happens one after the other. -/
theorem Acts.keepsVitals (h : w.Acts w') (hp : w.player? id = some p) :
    ∃ q, w'.player? id = some q ∧ p.KeepsVitals w.config w.catalog q := by
  induction h with
  | refl => exact ⟨p, hp, .of_eq rfl rfl⟩
  | tail hacts hact ih =>
    obtain ⟨q, hq, hkept⟩ := ih
    obtain ⟨r, hr, hkept'⟩ := hact.keepsVitals hq
    obtain ⟨hconfig, hcatalog⟩ := Acts.config_catalog hacts
    rw [hconfig, hcatalog] at hkept'
    exact ⟨r, hr, hkept.trans hkept'⟩

end World

/-- Whatever scripts do under a configuration and with a catalog, every player whose vitals are in
range keeps them in range, and no change of a vital ends the run. -/
def Catalog.KeepsVitalsInRange (c : Catalog) (config : EngineConfig) : Prop :=
  ∀ (w w' : World) (id : PlayerId) (p : Player), w.config = config → w.catalog = c →
    w.player? id = some p → p.HasVitalsInRange → w.Acts w' →
      (∃ q, w'.player? id = some q ∧ q.HasVitalsInRange) ∧
        ∀ i : Instance, i.player = id → ∀ v maximum,
          (Turn.mk w' i).step ≠ .error (.negativeMaximum v maximum)

/-! ### A level that takes vitals away -/

/-- A player of a class at the lowest level, with no vitals. -/
def novice (profession : ClassId) : Player :=
  { Player.fresh ⟨3⟩ "Ann" .nil 0 0 with
    profession := profession
    level := Int32.minValue
    vitals := ⟨0, 0⟩
    maxVitals := ⟨0, 0⟩ }

/-- The vitals of such a player are in range. -/
theorem hasVitalsInRange_novice (profession : ClassId) : (novice profession).HasVitalsInRange := by
  intro v
  cases v <;> exact ⟨Int64.le_refl 0, Int64.le_refl 0⟩

/-- A page that raises the level. -/
def levelPage : Page := (Page.draft ⟨1⟩ "level" ⟨2⟩).withRoot [.levelUp]

/-- A world with such a player alone, and the page in front of its command. -/
def beforeLevel (config : EngineConfig) (c : Catalog) (profession : ClassId) : Turn where
  world := (World.start config c (.start 0) (.seeded 0)).addPlayer (novice profession)
  run := .start ⟨4⟩ ⟨5⟩ ⟨3⟩ levelPage

/-- Where a level can take vitals away, the first one leaves a player with a maximum below zero. -/
theorem exists_maxVitals_neg {config : EngineConfig} {c : Catalog}
    (h : c.HasDrainingLevel config) :
    ∃ (profession : ClassId) (w' : World) (q : Player) (v : Vital),
      (beforeLevel config c profession).world.Act w' ∧ w'.player? ⟨3⟩ = some q ∧
        q.maxVitals.get v < 0 := by
  obtain ⟨hlevel, d, hd, v, hdrains⟩ := h
  obtain ⟨profession, hd⟩ := Table.mem_values_iff.mp hd
  let t := beforeLevel config c profession
  let s : Scene := ⟨⟨t.world, novice profession⟩, t.settle.run.modifyTop Frame.advance, levelPage⟩
  have hstack : t.settle.run.stack = [Frame.root levelPage] := rfl
  have hplayer : t.world.player? t.run.player = some (novice profession) :=
    Table.get?_insert_self ..
  have hdeed : t.deed? = some ⟨s, .levelUp⟩ := by
    rw [Turn.deed?_of_stack hstack (show t.command? = some .levelUp from rfl), hplayer]
    rfl
  have hstep : t.step = .ok (Turn.conclude ⟨s.levelUp.world.putPlayer ⟨3⟩ s.levelUp.player, _⟩) :=
    Turn.step_eq_map_of_deed? hdeed
  have hact := World.Act.step hstep
  rw [Turn.conclude_eq] at hact
  refine ⟨profession, _, s.levelUp.player, v, hact, Table.get?_insert_self .., ?_⟩
  have hraised : s.levelUp = s.raiseLevel true := if_neg (Int32.not_le.mpr hlevel)
  have hmaximum : s.levelUp.player.maxVitals.get v =
      satAdd ((novice profession).maxVitals.get v) (d.vitalsPerLevel.get v) := by
    rw [hraised]
    refine (s.get_raisedVitals v).trans ?_
    rw [show s.world.catalog.classes.get? s.player.profession = some d from hd]
  have hzero : (novice profession).maxVitals.get v = 0 := by cases v <;> rfl
  rw [hmaximum, hzero, Int64.lt_iff_toInt_lt, toInt_satAdd]
  rw [Int64.lt_iff_toInt_lt] at hdrains
  simp only [Int64.toInt_zero] at hdrains ⊢
  omega

/-- Scripts keep vitals in range, and no change of a vital ends the run, if and only if no level can
take vitals away. -/
theorem Catalog.keepsVitalsInRange_iff (c : Catalog) (config : EngineConfig) :
    c.KeepsVitalsInRange config ↔ ¬ c.HasDrainingLevel config := by
  constructor
  · intro hkeeps hdrains
    obtain ⟨profession, w', q, v, hact, hq, hnegative⟩ := exists_maxVitals_neg hdrains
    obtain ⟨⟨q', hq', hrange⟩, -⟩ := hkeeps (beforeLevel config c profession).world w' ⟨3⟩
      (novice profession) rfl rfl (Table.get?_insert_self ..) (hasVitalsInRange_novice profession)
      (.single hact)
    rw [hq] at hq'
    cases hq'
    exact Int64.not_lt.mpr ((Player.hasVitalsInRange_iff.mp hrange).2 v) hnegative
  · rintro hdrains w w' id p rfl rfl hp hrange hacts
    obtain ⟨q, hq, hkept⟩ := hacts.keepsVitals hp
    obtain ⟨hbounded, hmaxima⟩ := Player.hasVitalsInRange_iff.mp hrange
    have hmaxima' (v : Vital) : 0 ≤ q.maxVitals.get v :=
      Int64.le_trans (hmaxima v) (hkept.maxima hdrains v)
    refine ⟨⟨q, hq, Player.hasVitalsInRange_iff.mpr ⟨hkept.bounded hbounded, hmaxima'⟩⟩, ?_⟩
    rintro i rfl v maximum hfault
    obtain ⟨-, rfl, hnegative⟩ := (Turn.step_eq_negativeMaximum_iff hq).mp hfault
    exact Int64.not_lt.mpr (hmaxima' v) hnegative

/-! ### A class that weakens -/

/-- A class that loses more health with a level than a player starts with. -/
def frail : ClassDescriptor := ⟨⟨8⟩, "Frail", "", 100, 0, ⟨-200, 0⟩⟩

/-- The catalog with that class alone. -/
def frailCatalog : Catalog := { DescriptorSet.empty with classes := [frail] }.catalog

/-- A player of that class. -/
def weakling : Player := { Player.fresh ⟨3⟩ "Ann" .nil 0 0 with profession := frail.id }

/-- A world with that player alone, in front of a level and a cure. -/
def beforeWeakening : Turn where
  world := (World.start {} frailCatalog (.start 0) (.seeded 0)).addPlayer weakling
  run := .start ⟨4⟩ ⟨5⟩ ⟨3⟩ ((Page.draft ⟨1⟩ "weaken" ⟨2⟩).withRoot [.levelUp, .restoreHp 5])

/-- The turn behind the level. -/
def afterWeakening : Turn := match beforeWeakening.step with
  | .ok r => r.2
  | .error _ => beforeWeakening

/-- The level leaves the player with less than no health at most, and the cure ends the run. -/
theorem not_keepsVitalsInRange_frail :
    beforeWeakening.step = .ok (.ok .continue, afterWeakening) ∧
      (∃ q, afterWeakening.world.player? ⟨3⟩ = some q ∧ q.vitals = ⟨-100, 100⟩ ∧
        q.maxVitals = ⟨-100, 100⟩) ∧
      afterWeakening.step = .error (.negativeMaximum .health (-100)) ∧
      ¬ frailCatalog.KeepsVitalsInRange {} := by
  have hstep : beforeWeakening.step = .ok (.ok .continue, afterWeakening) := rfl
  have hfault : afterWeakening.step = .error (.negativeMaximum .health (-100)) := rfl
  have hrange : weakling.HasVitalsInRange := by
    intro v
    cases v <;> exact ⟨by decide, by decide⟩
  refine ⟨hstep, ⟨_, rfl, rfl, rfl⟩, hfault, fun hkeeps => ?_⟩
  obtain ⟨-, hnever⟩ := hkeeps beforeWeakening.world afterWeakening.world ⟨3⟩ weakling rfl rfl rfl
    hrange (.single (.step hstep))
  exact hnever afterWeakening.run rfl .health (-100) hfault

end EventScript
