import EventScript.Proofs.Player.Capacity
import EventScript.Proofs.Turn.Player

/-!
# Sound player records

The record of a player is sound when every occupied slot of the inventory holds something, no spell
is there twice, what is worn is also owned, and level and experience are in range. Each of these is
kept by every command, and the number of slots with it; few commands concern them at all. So records
stay sound all the time, as long as the numbers of items fit into machine integers.
-/

namespace EventScript

open Inventory (Holds total)

namespace Player

variable {p q r : Player} {highest : Int32}

/-- Every occupied slot holds something, and what is worn is also owned. -/
structure HasSoundBelongings (p : Player) : Prop where
  filled : p.inventory.IsFilled
  owned : ∀ item ∈ p.equipment.values, Holds p.inventory item

/-- The level is between the first and the highest one, and the experience is not negative. -/
structure HasSoundRank (highest : Int32) (p : Player) : Prop where
  first : 1 ≤ p.level
  highest : p.level ≤ highest
  exp : 0 ≤ p.exp

/-- The record of a player is sound. -/
structure IsSound (highest : Int32) (p : Player) : Prop where
  belongings : p.HasSoundBelongings
  spells : p.spells.IsDistinct
  rank : p.HasSoundRank highest

/-- The number of every item is a machine integer. -/
def HasExactCounts (p : Player) : Prop := ∀ item, FitsInt64 (total item p.inventory)

/-- A sound record with as many slots as that of a player before. -/
structure StaysSound (highest : Int32) (p q : Player) : Prop where
  sound : q.IsSound highest
  inventorySlots : q.inventory.length = p.inventory.length
  spellSlots : q.spells.length = p.spells.length

/-- Sound belongings in as many slots as those of a player before. -/
structure KeepsBelongings (p q : Player) : Prop where
  sound : q.HasSoundBelongings
  slots : q.inventory.length = p.inventory.length

/-- Belongings that are not changed. -/
theorem KeepsBelongings.of_eq (h : p.HasSoundBelongings) (hinventory : q.inventory = p.inventory)
    (hequipment : q.equipment = p.equipment) : p.KeepsBelongings q := by
  refine ⟨⟨?_, ?_⟩, congrArg List.length hinventory⟩
  · rw [hinventory]
    exact h.filled
  · rw [hinventory, hequipment]
    exact h.owned

/-- Level and experience that are not changed. -/
theorem HasSoundRank.of_eq (h : p.HasSoundRank highest) (hlevel : q.level = p.level)
    (hexp : q.exp = p.exp) : q.HasSoundRank highest where
  first := hlevel ▸ h.first
  highest := hlevel ▸ h.highest
  exp := hexp ▸ h.exp

/-- A record that is not changed. -/
theorem StaysSound.of_eq (h : p.IsSound highest) (hinventory : q.inventory = p.inventory)
    (hequipment : q.equipment = p.equipment) (hspells : q.spells = p.spells)
    (hlevel : q.level = p.level) (hexp : q.exp = p.exp) : p.StaysSound highest q := by
  have hbelongings := KeepsBelongings.of_eq h.belongings hinventory hequipment
  have hrank := h.rank.of_eq hlevel hexp
  refine ⟨⟨hbelongings.sound, ?_, hrank⟩, hbelongings.slots, congrArg List.length hspells⟩
  rw [hspells]
  exact h.spells

/-- A record that stays sound and stays so again. -/
theorem StaysSound.trans (h : p.StaysSound highest q) (h' : q.StaysSound highest r) :
    p.StaysSound highest r where
  sound := h'.sound
  inventorySlots := h'.inventorySlots.trans h.inventorySlots
  spellSlots := h'.spellSlots.trans h.spellSlots

/-! ## Belongings -/

/-- Items that are put in. -/
theorem HasSoundBelongings.insertItems (h : p.HasSoundBelongings) (item : ItemId)
    {quantity : Int64} (hquantity : 0 ≤ quantity.toInt) (stackable : Bool) (maxStack : Int64) :
    p.KeepsBelongings (p.insertItems item quantity stackable maxStack) := by
  have hkept := Inventory.keeps_insert (fun _ => False) item stackable maxStack h.filled hquantity
  exact ⟨⟨hkept.filled, fun worn hworn => hkept.holds worn not_false (h.owned worn hworn)⟩,
    hkept.length⟩

/-- Items that are taken out. The last one is taken off. -/
theorem HasSoundBelongings.removeItems (h : p.HasSoundBelongings) (item : ItemId)
    {quantity : Int64} (hquantity : 0 ≤ quantity.toInt) :
    p.KeepsBelongings (p.removeItems item quantity).2 := by
  have hkept := Inventory.keeps_take item h.filled hquantity
  unfold Player.removeItems
  dsimp only
  split
  · refine ⟨⟨hkept.filled, fun worn hworn => ?_⟩, hkept.length⟩
    obtain ⟨hbefore, slot, hother⟩ := Table.mem_values_of_filter hworn
    exact hkept.holds worn (by simpa using hother) (h.owned worn hbefore)
  · next hcount =>
    refine ⟨⟨hkept.filled, fun worn hworn => ?_⟩, hkept.length⟩
    by_cases hitem : worn = item
    · subst hitem
      exact Inventory.holds_of_count_ne_zero hcount
    · exact hkept.holds worn hitem (h.owned worn hworn)

/-- The number of an item that a player has is not negative. -/
theorem itemCount_nonneg (h : p.HasSoundBelongings) (hfits : p.HasExactCounts) (item : ItemId) :
    0 ≤ (p.itemCount item).toInt := by
  unfold itemCount
  rw [Inventory.toInt_count h.filled (hfits item)]
  exact Inventory.total_nonneg item h.filled

end Player

namespace Scene

variable (s : Scene)

theorem keepsBelongings_putItems (h : s.player.HasSoundBelongings) (d : ItemDescriptor)
    (quantity : Int64) : s.player.KeepsBelongings (s.putItems d quantity).player := by
  unfold putItems
  split
  · next hquantity =>
    exact h.insertItems d.id (Int.le_of_lt (Int64.lt_iff_toInt_lt.mp hquantity)) ..
  · exact .of_eq h rfl rfl

theorem keepsBelongings_giveItems (h : s.player.HasSoundBelongings) (d : ItemDescriptor)
    (quantity : Int64) (handling : ItemHandling) :
    s.player.KeepsBelongings (s.giveItems d quantity handling).2.player := by
  unfold giveItems
  cases handling with
  | normal =>
    dsimp only
    split
    · exact .of_eq h rfl rfl
    · exact s.keepsBelongings_putItems h d quantity
  | overflow =>
    have hput := s.keepsBelongings_putItems h d
      (min (s.player.inventory.capacity d.id d.stackable d.maxStack) quantity)
    dsimp only
    split <;> exact hput
  | upTo => exact s.keepsBelongings_putItems h d _

theorem keepsBelongings_takeItems (h : s.player.HasSoundBelongings)
    (hfits : s.player.HasExactCounts) (item : ItemId) {quantity : Int64}
    (hquantity : 0 ≤ quantity.toInt) (handling : ItemHandling) :
    s.player.KeepsBelongings (s.takeItems item quantity handling).2.player := by
  unfold takeItems
  cases handling with
  | upTo =>
    refine h.removeItems item ?_
    rw [toInt_min]
    exact Int.le_min.mpr ⟨hquantity, Player.itemCount_nonneg h hfits item⟩
  | normal | overflow =>
    dsimp only
    split
    · exact .of_eq h rfl rfl
    · exact h.removeItems item hquantity

/-- An amount of items is positive. -/
theorem itemAmount?_pos {quantity : Quantity} {amount : Int64}
    (h : s.itemAmount? quantity = some amount) : 0 < amount.toInt := by
  unfold itemAmount? at h
  cases quantity with
  | fixed n =>
    cases h
    rw [toInt_max]
    exact Int.lt_of_lt_of_le (by decide) (Int.le_max_right ..)
  | fromVariable v =>
    dsimp only at h
    split at h
    · cases h
    · next hpos =>
      cases h
      exact Int64.lt_iff_toInt_lt.mp (Int64.not_le.mp hpos)

theorem keepsBelongings_changeItems (h : s.player.HasSoundBelongings)
    (hfits : s.player.HasExactCounts) (item : ItemId) (add : Bool) (quantity : Quantity)
    (handling : ItemHandling) (branches : List BranchId) :
    s.player.KeepsBelongings (s.changeItems item add quantity handling branches).player := by
  unfold changeItems
  split
  · rw [toSetting_branchOn]
    exact .of_eq h rfl rfl
  · rw [toSetting_branchOn]
    exact .of_eq h rfl rfl
  · next amount d hamount _ =>
    dsimp only
    rw [toSetting_branchOn]
    have hpos := Int.le_of_lt (s.itemAmount?_pos hamount)
    split
    · split <;> exact s.keepsBelongings_giveItems h d amount handling
    · split <;> exact s.keepsBelongings_takeItems h hfits item hpos handling

theorem keepsBelongings_unequip (h : s.player.HasSoundBelongings) (slot : UInt64) :
    s.player.KeepsBelongings (s.unequip slot).player := by
  unfold unequip
  split
  · refine ⟨⟨h.filled, fun worn hworn => ?_⟩, rfl⟩
    exact h.owned worn (Table.mem_values_of_filter hworn).1
  · exact .of_eq h rfl rfl

theorem keepsBelongings_equip (h : s.player.HasSoundBelongings) (d : ItemDescriptor)
    (slot : UInt64) (cooldown : Bool) (howned : Holds s.player.inventory d.id) :
    s.player.KeepsBelongings (s.equip d slot cooldown).player := by
  have hworn (worn : ItemId) (hworn : worn ∈ (s.player.equipment.insert slot d.id).values) :
      Holds s.player.inventory worn := by
    rcases Table.eq_or_mem_values_of_insert hworn with rfl | hworn
    · exact howned
    · exact h.owned worn hworn
  unfold equip
  dsimp only
  split <;> exact ⟨⟨h.filled, hworn⟩, rfl⟩

/-- What is equipped is what the player was found to have, as it is described under its own name. -/
theorem keepsBelongings_equipItem (h : s.player.HasSoundBelongings) {set : DescriptorSet}
    (hcatalog : s.world.catalog = set.catalog) (item : ItemId) (unequips bySlot : Bool)
    (slot : UInt64) (cooldown : Bool) :
    s.player.KeepsBelongings (s.equipItem item unequips bySlot slot cooldown).player := by
  unfold equipItem
  split
  · split
    · exact s.keepsBelongings_unequip h _
    · exact .of_eq h rfl rfl
  · split
    · next d hd =>
      rw [hcatalog] at hd
      have hid : d.id = item := Table.key_of_get?_ofValues hd
      split
      · split
        · exact .of_eq h rfl rfl
        · next hcount =>
          exact s.keepsBelongings_equip h d _ cooldown
            (hid ▸ Inventory.holds_of_count_ne_zero hcount)
      · exact .of_eq h rfl rfl
    · exact .of_eq h rfl rfl

/-- Every command keeps belongings sound. -/
theorem keepsBelongings_execute (h : s.player.HasSoundBelongings)
    (hfits : s.player.HasExactCounts) {set : DescriptorSet}
    (hcatalog : s.world.catalog = set.catalog) {c : Command} {s' : Scene}
    (hscene : s.execute c = .ok s') : s.player.KeepsBelongings s'.player := by
  have hother (hpart : c.parts.contains .belongings = false) :
      s.player.KeepsBelongings s'.player := by
    have hplayer := congrArg Setting.player (s.rest_execute hscene)
    exact .of_eq h (Part.eq_of_keep_eq hpart (congrArg Player.inventory hplayer))
      (Part.eq_of_keep_eq hpart (congrArg Player.equipment hplayer))
  cases c with
  | changeItems =>
    cases hscene
    exact s.keepsBelongings_changeItems h hfits ..
  | equipItem =>
    cases hscene
    exact s.keepsBelongings_equipItem h hcatalog ..
  | _ => exact hother rfl

/-! ## Spells -/

/-- Every command keeps spells different, and their slots. -/
theorem spells_execute (h : s.player.spells.IsDistinct) {c : Command} {s' : Scene}
    (hscene : s.execute c = .ok s') :
    s'.player.spells.length = s.player.spells.length ∧ s'.player.spells.IsDistinct := by
  have hother (hpart : c.parts.contains .spells = false) :
      s'.player.spells.length = s.player.spells.length ∧ s'.player.spells.IsDistinct := by
    have hplayer := congrArg Setting.player (s.rest_execute hscene)
    have hspells : s'.player.spells = s.player.spells :=
      Part.eq_of_keep_eq hpart (congrArg Player.spells hplayer)
    rw [hspells]
    exact ⟨rfl, h⟩
  cases c with
  | changeSpells spell add removeBound branches =>
    cases hscene
    unfold changeSpells branchOnSpells
    dsimp only
    split
    · next book hbook =>
      rw [toSetting_branchOn]
      split at hbook
      · split at hbook
        · exact (Spellbook.learn?_eq_some hbook).imp_right (· h)
        · cases hbook
      · split at hbook
        · cases hbook
        · exact (Spellbook.forget?_eq_some hbook).imp_right (· h)
    · rw [toSetting_branchOn]
      exact ⟨rfl, h⟩
  | _ => exact hother rfl

/-! ## Level and experience -/

variable {highest : Int32}

/-- There is a next level only below the highest one, and it costs something. -/
theorem of_experienceToNextLevel? {needed : Int64} (h : s.experienceToNextLevel? = some needed) :
    s.player.level < s.world.config.player.maxLevel ∧ 1 ≤ needed.toInt := by
  unfold experienceToNextLevel? at h
  split at h
  · cases h
  · next hlevel =>
    obtain ⟨d, -, rfl⟩ := Option.map_eq_some_iff.mp h
    refine ⟨Int32.not_le.mp hlevel, ?_⟩
    unfold ClassDescriptor.experienceToNextLevel
    rw [toInt_max]
    exact Int.le_max_right ..

/-- A level that is gained is not above the highest one. -/
theorem hasSoundRank_raiseLevel (h : s.player.HasSoundRank highest)
    (hlevel : s.player.level < highest) (resets : Bool) :
    (s.raiseLevel resets).player.HasSoundRank highest := by
  have hnext := toInt_add_one_of_lt hlevel
  have hfirst := Int32.le_iff_toInt_le.mp h.first
  refine ⟨?_, ?_, ?_⟩
  · show 1 ≤ s.player.level + 1
    rw [Int32.le_iff_toInt_le, hnext]
    omega
  · show s.player.level + 1 ≤ highest
    rw [Int32.le_iff_toInt_le, hnext]
    exact Int32.lt_iff_toInt_lt.mp hlevel
  · show 0 ≤ if resets = true then 0 else s.player.exp
    split
    · exact Int64.le_refl 0
    · exact h.exp

/-- Experience is only turned into a level when there is enough of it. -/
theorem hasSoundRank_gainLevels (count : Nat) (s : Scene) (h : s.player.HasSoundRank highest)
    (hhighest : s.world.config.player.maxLevel = highest) :
    (gainLevels count s).player.HasSoundRank highest := by
  induction count generalizing s with
  | zero => exact h
  | succ count ih =>
    unfold gainLevels
    split
    · next needed hneeded =>
      obtain ⟨hlevel, hpositive⟩ := s.of_experienceToNextLevel? hneeded
      split
      · exact h
      · next henough =>
        let paid := s.withPlayer { s.player with exp := s.player.exp - needed }
        have hpaid : paid.player.HasSoundRank highest := by
          refine ⟨h.first, h.highest, ?_⟩
          show 0 ≤ s.player.exp - needed
          have hexp := fitsInt64_toInt s.player.exp
          have henough' := Int64.le_iff_toInt_le.mp (Int64.not_lt.mp henough)
          unfold FitsInt64 at hexp
          rw [Int64.le_iff_toInt_le, toInt_sub_of_fits ⟨by omega, by omega⟩, Int64.toInt_zero]
          omega
        exact ih (paid.raiseLevel false)
          (paid.hasSoundRank_raiseLevel hpaid (hhighest ▸ hlevel) false) hhighest
    · exact h

/-- No level is lost below the first one. -/
theorem level_loseLevels (count : Nat) (s : Scene) (hfirst : 1 ≤ s.player.level)
    (hhighest : s.player.level ≤ highest) :
    1 ≤ (loseLevels count s).player.level ∧ (loseLevels count s).player.level ≤ highest := by
  induction count generalizing s with
  | zero => exact ⟨hfirst, hhighest⟩
  | succ count ih =>
    unfold loseLevels
    split
    · next hloses =>
      have hprevious := toInt_sub_one_of_lt hloses.2
      have hmore := Int32.lt_iff_toInt_lt.mp hloses.2
      rw [Int32.le_iff_toInt_le] at hhighest
      refine ih _ ?_ ?_
      · show 1 ≤ s.player.level - 1
        rw [Int32.le_iff_toInt_le, hprevious]
        omega
      · show s.player.level - 1 ≤ highest
        rw [Int32.le_iff_toInt_le, hprevious]
        omega
    · exact ⟨hfirst, hhighest⟩

/-- A change of a vital changes neither level nor experience. -/
theorem rank_restoreVital {v : Vital} {amount : Int64} {s' : Scene}
    (h : s.restoreVital v amount = .ok s') :
    s'.player.level = s.player.level ∧ s'.player.exp = s.player.exp := by
  have hadded {p : Player} (h : s.player.addVital v amount = .ok p) :
      p.level = s.player.level ∧ p.exp = s.player.exp := by
    unfold Player.addVital at h
    dsimp only at h
    split at h
    · cases h
    · cases h
      exact ⟨rfl, rfl⟩
  unfold restoreVital at h
  split at h
  · obtain ⟨p, hp, h⟩ := Guarded.bind_eq_ok.mp h
    cases h
    exact hadded hp
  · split at h
    · obtain ⟨p, hp, h⟩ := Guarded.bind_eq_ok.mp h
      cases h
      obtain ⟨hlevel, hexp⟩ := hadded hp
      unfold announce dieIfExhausted
      split <;> exact ⟨hlevel, hexp⟩
    · cases h
      exact ⟨rfl, rfl⟩

theorem hasSoundRank_giveExperience (h : s.player.HasSoundRank highest)
    (hhighest : s.world.config.player.maxLevel = highest) (quantity : Quantity) (losing : Bool) :
    (s.giveExperience quantity losing).player.HasSoundRank highest := by
  let amount := s.world.amount s.player quantity
  let given := s.withPlayer { s.player with exp := satAdd s.player.exp amount }
  have hgiven (hamount : 0 ≤ amount) : given.player.HasSoundRank highest :=
    ⟨h.first, h.highest, Int64.le_trans h.exp (le_satAdd hamount)⟩
  have hlost (q : Player) (hfirst : 1 ≤ q.level) (hlast : q.level ≤ highest) :
      ({ q with exp := max q.exp 0 } : Player).HasSoundRank highest := by
    refine ⟨hfirst, hlast, ?_⟩
    rw [Int64.le_iff_toInt_le, toInt_max]
    exact Int.le_max_right ..
  unfold giveExperience
  dsimp only
  split
  · next hamount =>
    exact hasSoundRank_gainLevels _ given (hgiven (Int64.le_of_lt hamount)) hhighest
  · next hamount =>
    split
    · split
      · have hlevel := level_loseLevels (s.player.level.toInt - 1).toNat given h.first h.highest
        exact hlost _ hlevel.1 hlevel.2
      · exact hlost given.player h.first h.highest
    · exact h

theorem hasSoundRank_changeLevel (hpositive : 1 ≤ highest)
    (hhighest : s.world.config.player.maxLevel = highest) (level : Int32) :
    (s.changeLevel level).player.HasSoundRank highest := by
  have hlevel : (s.changeLevel level).player.level.toInt =
      max 1 (min (max highest.toInt 1) level.toInt) := by
    rw [← hhighest, ← Int32.toInt_one, ← toInt_max_int32, ← toInt_min_int32, ← toInt_max_int32]
    rfl
  rw [Int32.le_iff_toInt_le, Int32.toInt_one] at hpositive
  refine ⟨?_, ?_, Int64.le_refl 0⟩
  · rw [Int32.le_iff_toInt_le, hlevel, Int32.toInt_one]
    omega
  · rw [Int32.le_iff_toInt_le, hlevel]
    omega

/-- Every command keeps level and experience in range. -/
theorem hasSoundRank_execute (h : s.player.HasSoundRank highest)
    (hpositive : 1 ≤ highest) (hhighest : s.world.config.player.maxLevel = highest) {c : Command}
    {s' : Scene} (hscene : s.execute c = .ok s') : s'.player.HasSoundRank highest := by
  have hother (hpart : c.parts.contains .character = false) :
      s'.player.HasSoundRank highest := by
    have hplayer := congrArg Setting.player (s.rest_execute hscene)
    exact h.of_eq (Part.eq_of_keep_eq hpart (congrArg Player.level hplayer))
      (Part.eq_of_keep_eq hpart (congrArg Player.exp hplayer))
  cases c with
  | restoreHp | restoreMp =>
    obtain ⟨hlevel, hexp⟩ := s.rank_restoreVital hscene
    exact h.of_eq hlevel hexp
  | levelUp =>
    cases hscene
    unfold levelUp
    split
    · exact h
    · next hlevel => exact s.hasSoundRank_raiseLevel h (hhighest ▸ Int32.not_le.mp hlevel) true
  | giveExperience quantity losing =>
    cases hscene
    exact s.hasSoundRank_giveExperience h hhighest quantity losing
  | changeLevel level =>
    cases hscene
    exact s.hasSoundRank_changeLevel hpositive hhighest level
  | setClass profession =>
    cases hscene
    refine h.of_eq ?_ ?_ <;>
    · unfold setClass
      dsimp only
      split <;> rfl
  | resetStatPointAllocations =>
    cases hscene
    exact h.of_eq rfl rfl
  | _ => exact hother rfl

/-! ## Records -/

/-- Every command keeps the record of its player sound. -/
theorem staysSound_execute (h : s.player.IsSound highest) (hfits : s.player.HasExactCounts)
    {set : DescriptorSet} (hcatalog : s.world.catalog = set.catalog) (hpositive : 1 ≤ highest)
    (hhighest : s.world.config.player.maxLevel = highest) {c : Command} {s' : Scene}
    (hscene : s.execute c = .ok s') : s.player.StaysSound highest s'.player := by
  have hbelongings := s.keepsBelongings_execute h.belongings hfits hcatalog hscene
  have hspells := s.spells_execute h.spells hscene
  have hrank := s.hasSoundRank_execute h.rank hpositive hhighest hscene
  exact ⟨⟨hbelongings.sound, hspells.2, hrank⟩, hbelongings.slots, hspells.1⟩

/-- Responses do not concern what is sound of a record. -/
theorem staysSound_resume (h : s.player.IsSound highest) {asked : Suspension}
    {response : Response} {s' : Scene} (hscene : s.resume asked response = .ok s') :
    s.player.StaysSound highest s'.player := by
  have hparts : asked.parts.contains .belongings = false ∧
      asked.parts.contains .spells = false ∧ asked.parts.contains .character = false := by
    unfold Suspension.parts
    split <;> exact ⟨rfl, rfl, rfl⟩
  obtain ⟨hbelongings, hspells, hcharacter⟩ := hparts
  have hplayer := congrArg Setting.player (s.rest_resume hscene)
  exact .of_eq h (Part.eq_of_keep_eq hbelongings (congrArg Player.inventory hplayer))
    (Part.eq_of_keep_eq hbelongings (congrArg Player.equipment hplayer))
    (Part.eq_of_keep_eq hspells (congrArg Player.spells hplayer))
    (Part.eq_of_keep_eq hcharacter (congrArg Player.level hplayer))
    (Part.eq_of_keep_eq hcharacter (congrArg Player.exp hplayer))

end Scene

namespace World

variable {w w' : World} {id : PlayerId} {p : Player} {set : DescriptorSet}

/-- Whatever happens keeps the record of a loaded player sound. -/
theorem Act.staysSound (h : w.Act w') (hcatalog : w.catalog = set.catalog)
    (hpositive : 1 ≤ w.config.player.maxLevel) (hp : w.player? id = some p)
    (hsound : p.IsSound w.config.player.maxLevel) (hfits : p.HasExactCounts) :
    ∃ q, w'.player? id = some q ∧ p.StaysSound w.config.player.maxLevel q := by
  cases h.player_cases hp with
  | aside guild vars hq => exact ⟨_, hq, .of_eq hsound rfl rfl rfl rfl rfl⟩
  | @executed i page c s hscene =>
    exact ⟨s.player, Table.get?_insert_self ..,
      Scene.staysSound_execute _ hsound hfits hcatalog hpositive rfl hscene⟩
  | @resumed i page asked response s hscene =>
    exact ⟨s.player, Table.get?_insert_self .., Scene.staysSound_resume _ hsound hscene⟩

/-- What happens one after the other, while the number of every item of a player is a machine
integer. -/
def ActsWithExactCounts (id : PlayerId) : World → World → Prop :=
  Relation.ReflTransGen fun v v' => v.Act v' ∧ ∀ p, v.player? id = some p → p.HasExactCounts

/-- It is something that happens one after the other. -/
theorem ActsWithExactCounts.acts (h : w.ActsWithExactCounts id w') : w.Acts w' :=
  Relation.ReflTransGen.mono (fun _ _ hact => hact.1) _ _ h

/-- Whatever any players do one after the other, the record of a loaded player stays sound, and it
keeps its slots. -/
theorem staysSound_of_acts (hcatalog : w.catalog = set.catalog)
    (hpositive : 1 ≤ w.config.player.maxLevel) (hp : w.player? id = some p)
    (hsound : p.IsSound w.config.player.maxLevel) (hacts : w.ActsWithExactCounts id w') :
    ∃ q, w'.player? id = some q ∧ p.StaysSound w.config.player.maxLevel q := by
  induction hacts with
  | refl => exact ⟨p, hp, .of_eq hsound rfl rfl rfl rfl rfl⟩
  | tail hacts hact ih =>
    obtain ⟨q, hq, hkept⟩ := ih
    obtain ⟨hconfig, hcatalog'⟩ := Acts.config_catalog (ActsWithExactCounts.acts hacts)
    obtain ⟨r, hr, hkept'⟩ := hact.1.staysSound (hcatalog'.trans hcatalog) (hconfig ▸ hpositive) hq
      (hconfig ▸ hkept.sound) (hact.2 q hq)
    exact ⟨r, hr, hkept.trans (hconfig ▸ hkept')⟩

/-! ### The last sword -/

/-- A sword. -/
def sword : ItemDescriptor := ⟨⟨9⟩, "Sword", false, 1, some 2, 0⟩

/-- A player with a sword in hand, and a spell. -/
def fighter : Player :=
  { Player.fresh ⟨3⟩ "Ann" .nil 0 0 with
    inventory := [none, some ⟨sword.id, 1⟩]
    equipment := Table.empty.insert 2 sword.id
    spells := [some ⟨10⟩, none] }

/-- A world with that player alone, in front of the loss of the sword. -/
def beforeLoss : Turn where
  world := (World.start {} { DescriptorSet.empty with items := [sword] }.catalog (.start 0)
    (.seeded 0)).addPlayer fighter
  run := .start ⟨4⟩ ⟨5⟩ ⟨3⟩
    ((Page.draft ⟨1⟩ "loss" ⟨2⟩).withRoot [.changeItems sword.id false (.fixed 5) .upTo []])

/-- The turn behind the loss. -/
def afterLoss : Turn := match beforeLoss.step with
  | .ok r => r.2
  | .error _ => beforeLoss

/-- The sword is taken although fewer are left than asked for, and it is no longer worn. -/
theorem staysSound_fighter :
    ∃ q, afterLoss.world.player? ⟨3⟩ = some q ∧
      fighter.StaysSound beforeLoss.world.config.player.maxLevel q ∧
      q.inventory = [none, none] ∧ q.equipment.values = [] := by
  have hsound : fighter.IsSound beforeLoss.world.config.player.maxLevel := by
    refine ⟨⟨fun s hs => ?_, fun worn hworn => ?_⟩, ?_, ?_, ?_, ?_⟩
    · simp only [fighter, List.mem_cons, Option.some.injEq, reduceCtorEq, List.not_mem_nil,
        false_or, or_false] at hs
      subst hs
      decide
    · rw [show fighter.equipment.values = [sword.id] from rfl, List.mem_singleton] at hworn
      subst hworn
      exact ⟨⟨sword.id, 1⟩, by simp [fighter], rfl⟩
    · exact List.nodup_singleton _
    · decide
    · decide
    · decide
  have hfits : fighter.HasExactCounts := by
    intro item
    show FitsInt64 (if sword.id = item then 1 + 0 else 0)
    split <;> exact ⟨by decide, by decide⟩
  have hstep : beforeLoss.step = .ok (.ok .completed, afterLoss) := rfl
  have hacts : beforeLoss.world.ActsWithExactCounts ⟨3⟩ afterLoss.world := by
    refine .single ⟨.step hstep, fun p hp => ?_⟩
    cases hp
    exact hfits
  obtain ⟨q, hq, hkept⟩ := staysSound_of_acts rfl (by decide) rfl hsound hacts
  refine ⟨q, hq, hkept, ?_⟩
  cases hq
  exact ⟨rfl, rfl⟩

end World

end EventScript
