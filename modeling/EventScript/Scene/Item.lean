import EventScript.Scene.Basic

/-!
# Items

Items are given, taken and equipped. A gift or a removal that cannot be met in full is handled in
one of three ways: all or nothing, the rest dropped on the map, or as much as possible.
-/

namespace EventScript.Scene

/-- Drop items where the player stands. -/
def dropItems (s : Scene) (item : ItemId) (quantity : Int64) : Scene :=
  let dropped : DroppedItem :=
    ⟨item, quantity, s.player.map, s.player.x, s.player.y, s.player.id⟩
  { s with world.droppedItems := s.world.droppedItems ++ [dropped] }

/-- Put items into the inventory, if there are any to put in. -/
def putItems (s : Scene) (d : ItemDescriptor) (quantity : Int64) : Scene :=
  if 0 < quantity then s.withPlayer (s.player.insertItems d.id quantity d.stackable d.maxStack)
  else s

/-- Give items. Says whether that counts as a success. -/
def giveItems (s : Scene) (d : ItemDescriptor) (quantity : Int64) (handling : ItemHandling) :
    Bool × Scene :=
  let capacity := s.player.inventory.capacity d.id d.stackable d.maxStack
  let granted := min capacity quantity
  match handling with
  | .normal => if capacity < quantity then (false, s) else (true, s.putItems d quantity)
  | .overflow =>
    let s := s.putItems d granted
    (true, if 0 < quantity - granted then s.dropItems d.id (quantity - granted) else s)
  | .upTo => (decide (0 < granted), s.putItems d granted)

/-- Take items. Says whether that counts as a success. -/
def takeItems (s : Scene) (item : ItemId) (quantity : Int64) (handling : ItemHandling) :
    Bool × Scene :=
  let held := s.player.itemCount item
  match handling with
  | .upTo =>
    let (taken, p) := s.player.removeItems item (min quantity held)
    (decide (0 < taken), s.withPlayer p)
  | .normal | .overflow =>
    if held < quantity then (false, s)
    else (true, s.withPlayer (s.player.removeItems item quantity).2)

/-- The number of items to give or take: at least one of a fixed amount, and none unless the
variable of another is positive. -/
def itemAmount? (s : Scene) : Quantity → Option Int64
  | .fixed n => some (max n 1)
  | .fromVariable v =>
    let n := s.world.integer s.player v
    if n ≤ 0 then none else some n

/-- Give or take items and branch on whether that succeeded. Without an amount nothing is to be
done, which is a success; an item that is not described is neither given nor taken. -/
def changeItems (s : Scene) (item : ItemId) (add : Bool) (quantity : Quantity)
    (handling : ItemHandling) (branches : List BranchId) : Scene :=
  match s.itemAmount? quantity, s.world.catalog.items.get? item with
  | none, _ => s.branchOn true branches
  | some _, none => s.branchOn false branches
  | some amount, some d =>
    let (success, s) :=
      if add then s.giveItems d amount handling else s.takeItems item amount handling
    let s := if success then s.announce .inventory else s
    s.branchOn success branches

/-- The slot to take equipment off: the given one, or the first one with the item. -/
def slotToClear? (s : Scene) (item : ItemId) (bySlot : Bool) (slot : UInt64) : Option UInt64 :=
  if bySlot then some slot
  else (s.player.equipment.entries.find? fun (_, equipped) => equipped == item).map (·.1)

/-- Take off what is in a slot. -/
def unequip (s : Scene) (slot : UInt64) : Scene :=
  if s.player.equipment.contains slot then
    (s.withPlayer { s.player with equipment := s.player.equipment.erase slot }).announce .equipment
  else s

/-- Equip an item that the player has into its slot, and start its cooldown if asked for. -/
def equip (s : Scene) (d : ItemDescriptor) (slot : UInt64) (triggersCooldown : Bool) : Scene :=
  let s := s.withPlayer { s.player with equipment := s.player.equipment.insert slot d.id }
  let s := if triggersCooldown && decide (0 < d.cooldown) then
      let usableAt := satAddUnsigned s.world.now d.cooldown
      s.withPlayer { s.player with
        activity.itemCooldowns := s.player.activity.itemCooldowns.insert d.id usableAt }
    else s
  s.announce .equipment

/-- Equip an item or take it off. -/
def equipItem (s : Scene) (item : ItemId) (unequips bySlot : Bool) (slot : UInt64)
    (triggersCooldown : Bool) : Scene :=
  if unequips then
    match s.slotToClear? item bySlot slot with
    | some slot => s.unequip slot
    | none => s
  else match s.world.catalog.items.get? item with
    | some d =>
      match d.equipmentSlot with
      | some slot => if s.player.itemCount item = 0 then s else s.equip d slot triggersCooldown
      | none => s
    | none => s

end EventScript.Scene
