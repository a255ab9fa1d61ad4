import EventScript.Proofs.Player.Capacity
import EventScript.Proofs.Player.Record

/-!
# Items given and taken

A script gives a number of an item to its player or takes it away. Some of the items go into the
inventory or out of it, some are dropped on the map, and the rest is refused. How many of each there
are depends on how many the inventory can take or has, and it decides which branch the script goes
on with.
-/

namespace EventScript

open Inventory (total)

/-! ## Deals -/

/-- What becomes of items that are to be given or taken. -/
structure Deal where
  /-- How many go into the inventory or out of it. -/
  moved : Int
  /-- How many are dropped on the map. -/
  dropped : Int
  /-- How many are neither moved nor dropped. -/
  refused : Int
  /-- Whether the script goes on with the branch for success. -/
  success : Bool

namespace Deal

/-- The deal over a quantity of which no more than what is available can be moved. Only what is given
can be dropped. -/
def of (gives : Bool) (handling : ItemHandling) (quantity available : Int) : Deal :=
  match gives, handling with
  | _, .upTo =>
    ⟨min available quantity, 0, quantity - min available quantity,
      decide (0 < min available quantity)⟩
  | true, .overflow =>
    ⟨min available quantity, quantity - min available quantity, 0, true⟩
  | _, .normal | false, .overflow =>
    if quantity ≤ available then ⟨quantity, 0, 0, true⟩ else ⟨0, 0, quantity, false⟩

/-- A deal is over all items of a quantity, and over no others. -/
structure Covers (deal : Deal) (quantity : Int) : Prop where
  moved : 0 ≤ deal.moved
  dropped : 0 ≤ deal.dropped
  refused : 0 ≤ deal.refused
  sum : deal.moved + deal.dropped + deal.refused = quantity

variable {quantity available : Int}

/-- In every deal the items that are moved, dropped and refused are those that were asked for. -/
theorem covers_of (gives : Bool) (handling : ItemHandling) (hquantity : 0 ≤ quantity)
    (havailable : 0 ≤ available) : (of gives handling quantity available).Covers quantity := by
  have hupTo : (⟨min available quantity, 0, quantity - min available quantity,
      decide (0 < min available quantity)⟩ : Deal).Covers quantity :=
    ⟨by dsimp only; omega, Int.le_refl 0, by dsimp only; omega, by dsimp only; omega⟩
  have hwhole : (if quantity ≤ available then ⟨quantity, 0, 0, true⟩
      else ⟨0, 0, quantity, false⟩ : Deal).Covers quantity := by
    split
    · exact ⟨hquantity, Int.le_refl 0, Int.le_refl 0, by dsimp only; omega⟩
    · exact ⟨Int.le_refl 0, Int.le_refl 0, hquantity, by dsimp only; omega⟩
  cases handling with
  | upTo => exact hupTo
  | normal => exact hwhole
  | overflow =>
    cases gives with
    | true => exact ⟨by dsimp only [of]; omega, by dsimp only [of]; omega, Int.le_refl 0,
        by dsimp only [of]; omega⟩
    | false => exact hwhole

end Deal

namespace Scene

variable {s s' : Scene} {d : ItemDescriptor} {quantity : Int64} {handling : ItemHandling}
  {deal : Deal} {branches : List BranchId}

/-- The number of items that a script asks for. A fixed one is at least one. -/
def asked (s : Scene) : Quantity → Int
  | .fixed n => max n.toInt 1
  | .fromVariable v => (s.world.integer s.player v).toInt

/-- How many of an item can be given to the player, or taken. -/
def available (s : Scene) (d : ItemDescriptor) (gives : Bool) : Int :=
  if gives then (s.player.inventory.capacity d.id d.stackable d.maxStack).toInt
  else (s.player.itemCount d.id).toInt

/-- The sums that a change of the inventory goes through are machine integers. -/
def SumsFit (s : Scene) (d : ItemDescriptor) (gives : Bool) (moved : Int) : Prop :=
  if gives then s.player.inventory.SumsFit d.id d.stackable d.maxStack moved
  else FitsInt64 (total d.id s.player.inventory)

/-- A deal is carried out: the player has what is moved, and what is dropped lies where the player
stands. Nothing else is changed, but what clients were told and what the script does next. -/
structure CarriesOut (d : ItemDescriptor) (gives : Bool) (handling : ItemHandling) (deal : Deal)
    (s s' : Scene) : Prop where
  gains : gives = true → s.player.Gains d.id (max d.maxStack.toInt 1) deal.moved s'.player
  loses : gives = false → 0 < deal.moved ∨ handling = .upTo →
    s.player.Loses d.id deal.moved s'.player
  /-- When nothing is moved the player is the same. Only when as much as possible is taken, an item
  that the player does not have is taken off. -/
  unmoved : deal.moved = 0 → gives = true ∨ handling ≠ .upTo → s'.player = s.player
  rest : s'.player =
    { s.player with inventory := s'.player.inventory, equipment := s'.player.equipment }
  drops : 0 < deal.dropped → ∃ k : Int64, k.toInt = deal.dropped ∧
    s'.world.droppedItems = s.world.droppedItems ++
      [⟨d.id, k, s.player.map, s.player.x, s.player.y, s.player.id⟩]
  undropped : deal.dropped = 0 → s'.world.droppedItems = s.world.droppedItems
  world : s'.world =
    { s.world with droppedItems := s'.world.droppedItems, sent := s'.world.sent }
  page : s'.page = s.page

/-- A deal is settled: it is carried out, clients near the player are told on success, and the script
goes on with the first branch on success and with the second one on failure. -/
structure Settles (d : ItemDescriptor) (gives : Bool) (handling : ItemHandling) (deal : Deal)
    (branches : List BranchId) (s s' : Scene) : Prop extends
    s.CarriesOut d gives handling deal s' where
  sent : s'.world.sent = if deal.success then
      s.world.sent ++ [(.proximity s.player.map s.player.mapInstance,
        .entityUpdate s.player.id .inventory)]
    else s.world.sent
  run : s'.run = (s.enterBranch branches (if deal.success then 0 else 1)).run

/-- No less than nothing is available. -/
theorem available_nonneg {gives : Bool} {moved : Int} (h : s.player.inventory.IsFilled)
    (hfits : s.SumsFit d gives moved) : 0 ≤ s.available d gives := by
  cases gives with
  | true => exact Inventory.capacity_nonneg h hfits
  | false =>
    show 0 ≤ (Inventory.count d.id s.player.inventory).toInt
    rw [Inventory.toInt_count h hfits]
    exact Inventory.total_nonneg d.id h

/-! ## Giving -/

/-- Items that there is capacity for are put in. -/
theorem gains_putItems {n : Int64} (h : s.player.inventory.IsFilled) (hn : 0 ≤ n.toInt)
    (hcapacity : n.toInt ≤ s.available d true) (hfits : s.SumsFit d true n.toInt) :
    s.player.Gains d.id (max d.maxStack.toInt 1) n.toInt (s.putItems d n).player := by
  have hall : min n.toInt (s.player.inventory.capacity d.id d.stackable d.maxStack).toInt =
      n.toInt := Int.min_eq_left hcapacity
  unfold putItems
  split
  · have hgains := Player.gains_insertItems h hn (hall.symm ▸ hfits)
    rw [hall] at hgains
    exact hgains
  · next hpos =>
    rw [Int64.lt_iff_toInt_lt, Int64.toInt_zero] at hpos
    rw [show n.toInt = 0 by omega]
    exact .self h

/-- No items to put in are not put in. -/
theorem putItems_zero {n : Int64} (hn : n.toInt = 0) : s.putItems d n = s := by
  unfold putItems
  rw [if_neg]
  rw [Int64.lt_iff_toInt_lt, Int64.toInt_zero]
  omega

/-- Putting items in concerns the player alone. -/
theorem putItems_eq_withPlayer (s : Scene) (d : ItemDescriptor) (n : Int64) :
    s.putItems d n = s.withPlayer (s.putItems d n).player := by
  unfold putItems
  split <;> rfl

/-- What is put in is carried out, unless some is to be dropped. -/
theorem carriesOut_putItems {n : Int64} (h : s.player.inventory.IsFilled) (hn : 0 ≤ n.toInt)
    (hcapacity : n.toInt ≤ s.available d true) (hfits : s.SumsFit d true n.toInt)
    (hmoved : deal.moved = n.toInt) (hdropped : deal.dropped = 0) :
    s.CarriesOut d true handling deal (s.putItems d n) := by
  have hplayer := s.putItems_eq_withPlayer d n
  have hgains := gains_putItems h hn hcapacity hfits
  refine ⟨fun _ => hmoved ▸ hgains, nofun, fun hnone _ => ?_, ?_, fun hsome => ?_, fun _ => ?_,
    ?_, ?_⟩
  · rw [putItems_zero (hmoved ▸ hnone)]
  · rw [hgains.rest]
  · omega
  all_goals
    rw [hplayer]
    rfl

/-- Where nothing is to be moved or dropped, nothing has to be done. -/
theorem carriesOut_self {gives : Bool} (h : s.player.inventory.IsFilled) (hmoved : deal.moved = 0)
    (hdropped : deal.dropped = 0) (hhandling : handling ≠ .upTo) :
    s.CarriesOut d gives handling deal s where
  gains _ := hmoved ▸ .self h
  loses _ hmoves := hmoves.elim (fun hpos => by omega) (fun hupTo => absurd hupTo hhandling)
  unmoved _ _ := rfl
  rest := rfl
  drops hpos := by omega
  undropped _ := rfl
  world := rfl
  page := rfl

/-- What does not go into the inventory may be dropped where the player stands. -/
theorem CarriesOut.dropItems {k : Int64} {moved refused : Int} {success : Bool}
    (h : s.CarriesOut d true handling ⟨moved, 0, refused, success⟩ s') (hk : 0 < k.toInt) :
    s.CarriesOut d true handling ⟨moved, k.toInt, refused, success⟩ (s'.dropItems d.id k) where
  gains := h.gains
  loses := nofun
  unmoved := h.unmoved
  rest := h.rest
  drops _ := by
    refine ⟨k, rfl, ?_⟩
    unfold Scene.dropItems
    dsimp only
    rw [h.undropped rfl, h.rest]
  undropped hnone := by
    dsimp only at hnone
    omega
  world := by
    unfold Scene.dropItems
    dsimp only
    rw [h.world]
  page := h.page

/-- What is given is carried out as the deal says. -/
theorem carriesOut_giveItems (handling : ItemHandling) (h : s.player.inventory.IsFilled)
    (hquantity : 1 ≤ quantity.toInt) (hfits : s.SumsFit d true
      (Deal.of true handling quantity.toInt (s.available d true)).moved) :
    (s.giveItems d quantity handling).1 =
        (Deal.of true handling quantity.toInt (s.available d true)).success ∧
      s.CarriesOut d true handling (Deal.of true handling quantity.toInt (s.available d true))
        (s.giveItems d quantity handling).2 := by
  have hcapacity := available_nonneg h hfits
  have hgranted : (min (s.player.inventory.capacity d.id d.stackable d.maxStack) quantity).toInt =
      min (s.available d true) quantity.toInt := toInt_min ..
  unfold giveItems
  cases handling with
  | normal =>
    dsimp only [Deal.of] at hfits ⊢
    split
    · next hless =>
      have hless' : ¬ quantity.toInt ≤ s.available d true :=
        Int.not_le.mpr (Int64.lt_iff_toInt_lt.mp hless)
      rw [if_neg hless']
      exact ⟨rfl, carriesOut_self h rfl rfl nofun⟩
    · next hless =>
      have hless' : quantity.toInt ≤ s.available d true :=
        Int.not_lt.mp (mt Int64.lt_iff_toInt_lt.mpr hless)
      rw [if_pos hless'] at hfits ⊢
      exact ⟨rfl, carriesOut_putItems h (by omega) hless' hfits rfl rfl⟩
  | overflow =>
    dsimp only [Deal.of] at hfits ⊢
    rw [← hgranted] at hfits ⊢
    have hleft : (quantity - min (s.player.inventory.capacity d.id d.stackable d.maxStack)
        quantity).toInt = quantity.toInt -
          (min (s.player.inventory.capacity d.id d.stackable d.maxStack) quantity).toInt :=
      toInt_sub_of_le (by omega) (by omega)
    rw [← hleft]
    refine ⟨rfl, ?_⟩
    split
    · next hpos =>
      exact (carriesOut_putItems h (by omega) (by omega) hfits rfl rfl).dropItems
        (Int64.lt_iff_toInt_lt.mp hpos)
    · next hpos =>
      rw [Int64.lt_iff_toInt_lt, Int64.toInt_zero] at hpos
      exact carriesOut_putItems h (by omega) (by omega) hfits rfl (by dsimp only; omega)
  | upTo =>
    dsimp only [Deal.of] at hfits ⊢
    rw [← hgranted] at hfits ⊢
    refine ⟨?_, carriesOut_putItems h (by omega) (by omega) hfits rfl rfl⟩
    exact decide_eq_decide.mpr Int64.lt_iff_toInt_lt

/-! ## Taking -/

/-- What a player loses is carried out, as nothing that is taken is dropped. -/
theorem carriesOut_of_loses {p : Player} (h : s.player.Loses d.id deal.moved p)
    (hmoves : 0 < deal.moved ∨ handling = .upTo) (hdropped : deal.dropped = 0) :
    s.CarriesOut d false handling deal (s.withPlayer p) where
  gains := nofun
  loses _ _ := h
  unmoved hnone hother := by
    rcases hother with hgives | hhandling
    · cases hgives
    · rcases hmoves with hpos | hupTo
      · omega
      · exact absurd hupTo hhandling
  rest := h.rest
  drops hpos := by omega
  undropped _ := rfl
  world := rfl
  page := rfl

/-- What is taken is carried out as the deal says. -/
theorem carriesOut_takeItems (handling : ItemHandling) (h : s.player.inventory.IsFilled)
    (hquantity : 1 ≤ quantity.toInt) (hfits : FitsInt64 (total d.id s.player.inventory)) :
    (s.takeItems d.id quantity handling).1 =
        (Deal.of false handling quantity.toInt (s.available d false)).success ∧
      s.CarriesOut d false handling (Deal.of false handling quantity.toInt (s.available d false))
        (s.takeItems d.id quantity handling).2 := by
  have hheld : 0 ≤ (s.player.itemCount d.id).toInt :=
    available_nonneg h (show s.SumsFit d false 0 from hfits)
  cases handling with
  | upTo =>
    have hasked : (min quantity (s.player.itemCount d.id)).toInt =
        min quantity.toInt (s.player.itemCount d.id).toInt := toInt_min ..
    obtain ⟨htaken, hloses⟩ := Player.loses_removeItems h
      (show 0 ≤ (min quantity (s.player.itemCount d.id)).toInt by omega) hfits
    have hall : min (min quantity (s.player.itemCount d.id)).toInt (s.player.itemCount d.id).toInt =
        min (s.available d false) quantity.toInt := by
      show _ = min (s.player.itemCount d.id).toInt quantity.toInt
      omega
    rw [hall] at htaken hloses
    refine ⟨?_, carriesOut_of_loses hloses (.inr rfl) rfl⟩
    show decide (0 < _) = decide (0 < min (s.available d false) quantity.toInt)
    rw [← htaken]
    exact decide_eq_decide.mpr Int64.lt_iff_toInt_lt
  | normal | overflow =>
    unfold takeItems
    dsimp only [Deal.of]
    split
    · next hless =>
      have hless' : ¬ quantity.toInt ≤ s.available d false :=
        Int.not_le.mpr (Int64.lt_iff_toInt_lt.mp hless)
      rw [if_neg hless']
      exact ⟨rfl, carriesOut_self h rfl rfl nofun⟩
    · next hless =>
      have hless' : quantity.toInt ≤ s.available d false :=
        Int.not_lt.mp (mt Int64.lt_iff_toInt_lt.mpr hless)
      have hall : min quantity.toInt (s.player.itemCount d.id).toInt = quantity.toInt :=
        Int.min_eq_left hless'
      obtain ⟨-, hloses⟩ := Player.loses_removeItems h (Int.le_of_lt hquantity) hfits
      rw [hall] at hloses
      rw [if_pos hless']
      exact ⟨rfl, carriesOut_of_loses hloses (.inl (by dsimp only; omega)) rfl⟩

/-! ## Giving or taking -/

/-- Which branch is entered depends on the page and the execution alone. -/
theorem enterBranch_of_eq (s s' : Scene) (branches : List BranchId) (position : Nat)
    (hpage : s'.page = s.page) (hrun : s'.run = s.run) :
    (s'.enterBranch branches position).page = s.page ∧
      (s'.enterBranch branches position).run = (s.enterBranch branches position).run := by
  unfold enterBranch
  rw [hpage, hrun]
  split
  · split
    · exact ⟨rfl, rfl⟩
    · exact ⟨hpage, hrun⟩
  · exact ⟨hpage, hrun⟩

/-- What clients are told and what the script does next do not concern what was carried out. -/
theorem CarriesOut.of_eq {gives : Bool} {s'' : Scene} (h : s.CarriesOut d gives handling deal s')
    (hplayer : s''.player = s'.player)
    (hworld : s''.world = { s'.world with sent := s''.world.sent }) (hpage : s''.page = s.page) :
    s.CarriesOut d gives handling deal s'' := by
  have hitems : s''.world.droppedItems = s'.world.droppedItems := by rw [hworld]
  refine ⟨?_, ?_, ?_, ?_, ?_, ?_, ?_, hpage⟩
  · rw [hplayer]
    exact h.gains
  · rw [hplayer]
    exact h.loses
  · rw [hplayer]
    exact h.unmoved
  · rw [hplayer]
    exact h.rest
  · rw [hitems]
    exact h.drops
  · rw [hitems]
    exact h.undropped
  · rw [hworld, h.world]

/-- Clients are told of a deal that succeeds, and the script goes on with the branch for it. -/
theorem CarriesOut.settles {gives : Bool} (h : s.CarriesOut d gives handling deal s')
    (branches : List BranchId) (hsent : s'.world.sent = s.world.sent) (hrun : s'.run = s.run) :
    s.Settles d gives handling deal branches
      ((if deal.success then s'.announce .inventory else s').branchOn deal.success branches) := by
  cases hsuccess : deal.success with
  | true =>
    rw [if_pos rfl]
    have hsetting := (s'.announce .inventory).toSetting_branchOn true branches
    obtain ⟨hpage, hbranch⟩ :=
      enterBranch_of_eq s (s'.announce .inventory) branches 0 h.page hrun
    have hplayer : ((s'.announce .inventory).branchOn true branches).player =
        (s'.announce .inventory).player := congrArg Setting.player hsetting
    refine ⟨h.of_eq hplayer ?_ hpage, ?_, ?_⟩
    · rw [congrArg Setting.world hsetting]
      rfl
    · rw [congrArg Setting.world hsetting, hsuccess, if_pos rfl, ← hsent]
      unfold announce nearby
      rw [h.rest]
      rfl
    · rw [hsuccess]
      exact hbranch
  | false =>
    rw [if_neg Bool.false_ne_true]
    have hsetting := s'.toSetting_branchOn false branches
    obtain ⟨hpage, hbranch⟩ := enterBranch_of_eq s s' branches 1 h.page hrun
    refine ⟨h.of_eq (congrArg Setting.player hsetting) ?_ hpage, ?_, ?_⟩
    · rw [congrArg Setting.world hsetting]
    · rw [congrArg Setting.world hsetting, hsuccess, if_neg Bool.false_ne_true, hsent]
    · rw [hsuccess]
      exact hbranch

/-- Giving items sends nothing and does not run on. -/
theorem sent_run_giveItems (s : Scene) (d : ItemDescriptor) (quantity : Int64)
    (handling : ItemHandling) :
    (s.giveItems d quantity handling).2.world.sent = s.world.sent ∧
      (s.giveItems d quantity handling).2.run = s.run := by
  unfold giveItems
  cases handling with
  | normal =>
    dsimp only
    split
    · exact ⟨rfl, rfl⟩
    · rw [putItems_eq_withPlayer]
      exact ⟨rfl, rfl⟩
  | overflow =>
    dsimp only
    rw [putItems_eq_withPlayer]
    split <;> exact ⟨rfl, rfl⟩
  | upTo =>
    dsimp only
    rw [putItems_eq_withPlayer]
    exact ⟨rfl, rfl⟩

/-- Neither does taking them. -/
theorem sent_run_takeItems (s : Scene) (item : ItemId) (quantity : Int64)
    (handling : ItemHandling) :
    (s.takeItems item quantity handling).2.world.sent = s.world.sent ∧
      (s.takeItems item quantity handling).2.run = s.run := by
  unfold takeItems
  cases handling with
  | upTo => exact ⟨rfl, rfl⟩
  | normal | overflow =>
    dsimp only
    split <;> exact ⟨rfl, rfl⟩

/-- An amount of items is the number that is asked for, if that is positive. -/
theorem itemAmount?_cases (s : Scene) (quantity : Quantity) :
    s.asked quantity ≤ 0 ∧ s.itemAmount? quantity = none ∨
      ∃ amount, s.itemAmount? quantity = some amount ∧ amount.toInt = s.asked quantity := by
  cases quantity with
  | fixed n => exact .inr ⟨max n 1, rfl, toInt_max ..⟩
  | fromVariable v =>
    unfold itemAmount?
    dsimp only
    split
    · next hnone => exact .inl ⟨Int64.le_iff_toInt_le.mp hnone, rfl⟩
    · exact .inr ⟨_, rfl, rfl⟩

/-- A deal over a described item is settled. -/
theorem settles_changeItems {set : DescriptorSet} (hcatalog : s.world.catalog = set.catalog)
    (h : s.player.inventory.IsFilled) {item : ItemId}
    (hd : s.world.catalog.items.get? item = some d) {gives : Bool} {amount : Quantity}
    (hpos : 1 ≤ s.asked amount)
    (hfits : s.SumsFit d gives
      (Deal.of gives handling (s.asked amount) (s.available d gives)).moved) :
    s.Settles d gives handling (Deal.of gives handling (s.asked amount) (s.available d gives))
      branches (s.changeItems item gives amount handling branches) := by
  have hitem : d.id = item := by
    rw [hcatalog] at hd
    exact Table.key_of_get?_ofValues hd
  rcases s.itemAmount?_cases amount with ⟨hnone, -⟩ | ⟨quantity, hquantity, hasked⟩
  · omega
  · unfold changeItems
    rw [hquantity, hd, ← hitem]
    rw [← hasked] at hpos hfits ⊢
    cases gives with
    | true =>
      obtain ⟨hsuccess, hout⟩ := carriesOut_giveItems handling h hpos hfits
      obtain ⟨hsent, hrun⟩ := s.sent_run_giveItems d quantity handling
      have hsettles := hout.settles branches hsent hrun
      rw [← hsuccess] at hsettles
      exact hsettles
    | false =>
      obtain ⟨hsuccess, hout⟩ := carriesOut_takeItems handling h hpos hfits
      obtain ⟨hsent, hrun⟩ := s.sent_run_takeItems d.id quantity handling
      have hsettles := hout.settles branches hsent hrun
      rw [← hsuccess] at hsettles
      exact hsettles

/-- Items that a script gives or takes are all accounted for, and the branch it goes on with tells
the truth. An item that is not described is refused, and no items at all are no trouble. -/
theorem exact_changeItems {set : DescriptorSet} (hcatalog : s.world.catalog = set.catalog)
    (h : s.player.inventory.IsFilled) (item : ItemId) (gives : Bool) (amount : Quantity)
    (handling : ItemHandling) (branches : List BranchId) :
    (∀ d, s.world.catalog.items.get? item = some d → 1 ≤ s.asked amount →
      let deal := Deal.of gives handling (s.asked amount) (s.available d gives)
      s.SumsFit d gives deal.moved →
        deal.Covers (s.asked amount) ∧
          s.Settles d gives handling deal branches
            (s.changeItems item gives amount handling branches)) ∧
    (s.world.catalog.items.get? item = none → 1 ≤ s.asked amount →
      s.changeItems item gives amount handling branches = s.enterBranch branches 1) ∧
    (s.asked amount ≤ 0 →
      s.changeItems item gives amount handling branches = s.enterBranch branches 0) := by
  refine ⟨fun d hd hpos => ?_, fun hd hpos => ?_, fun hnone => ?_⟩
  · intro deal hfits
    exact ⟨Deal.covers_of gives handling (by omega) (available_nonneg h hfits),
      settles_changeItems hcatalog h hd hpos hfits⟩
  · rcases s.itemAmount?_cases amount with ⟨hnone, -⟩ | ⟨quantity, hquantity, -⟩
    · omega
    · unfold changeItems
      rw [hquantity, hd]
      rfl
  · rcases s.itemAmount?_cases amount with ⟨-, hquantity⟩ | ⟨quantity, hquantity, hasked⟩
    · unfold changeItems
      rw [hquantity]
      rfl
    · have hpos := s.itemAmount?_pos hquantity
      omega

/-! ### Too many potions -/

/-- A potion, of which five make a stack. -/
def potion : ItemDescriptor := ⟨⟨7⟩, "Potion", true, 5, none, 0⟩

/-- A script with a branch for success and one for failure. -/
def giftPage : Page where
  id := ⟨1⟩
  name := "gift"
  root := ⟨2⟩
  lists := ((Table.empty.insert ⟨2⟩ []).insert ⟨3⟩ []).insert ⟨4⟩ []

/-- A player with a potion and an empty slot. -/
def beforeGift : Scene where
  world := World.start {} { DescriptorSet.empty with items := [potion] }.catalog (.start 0)
    (.seeded 0)
  player := { Player.fresh ⟨3⟩ "Ann" .nil 0 0 with
    inventory := [none, some ⟨potion.id, 1⟩]
    x := 2
    y := 6 }
  run := .start ⟨5⟩ ⟨6⟩ ⟨3⟩ giftPage
  page := giftPage

/-- The scene behind a gift of twenty potions. -/
def afterGift : Scene :=
  beforeGift.changeItems potion.id true (.fixed 20) .overflow [⟨3⟩, ⟨4⟩]

/-- Nine potions are put in, and eleven are dropped. -/
theorem exact_beforeGift :
    beforeGift.Settles potion true .overflow ⟨9, 11, 0, true⟩ [⟨3⟩, ⟨4⟩] afterGift ∧
      afterGift.player.inventory = [some ⟨potion.id, 5⟩, some ⟨potion.id, 5⟩] ∧
      afterGift.world.droppedItems = [⟨potion.id, 11, .nil, 2, 6, ⟨3⟩⟩] ∧
      afterGift.world.sent = [(.proximity .nil .nil, .entityUpdate ⟨3⟩ .inventory)] ∧
      afterGift.run = beforeGift.run.push (.start giftPage ⟨3⟩ 0) := by
  have hfilled : beforeGift.player.inventory.IsFilled := by
    refine Inventory.isFilled_none_cons.mpr ?_
    exact Inventory.isFilled_some_cons.mpr ⟨by decide, nofun⟩
  have hdeal : Deal.of true .overflow (beforeGift.asked (.fixed 20))
      (beforeGift.available potion true) = ⟨9, 11, 0, true⟩ := rfl
  have hfits : beforeGift.SumsFit potion true 9 :=
    ⟨⟨by decide, by decide⟩, fun _ => ⟨by decide, by decide⟩, ⟨by decide, by decide⟩⟩
  obtain ⟨hdescribed, -, -⟩ := exact_changeItems (s := beforeGift) rfl hfilled potion.id true
    (.fixed 20) .overflow [⟨3⟩, ⟨4⟩]
  have hsettles := (hdescribed potion rfl (by decide) (hdeal ▸ hfits)).2
  rw [hdeal] at hsettles
  exact ⟨hsettles, rfl, rfl, rfl, rfl⟩

end Scene

end EventScript
