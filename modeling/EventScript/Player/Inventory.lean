import EventScript.Json.Record

/-!
# Inventories

An inventory is a row of slots, each empty or holding a number of one item. Items that stack fill
the stacks of their kind before empty slots; items that do not stack take a slot each.
-/

namespace EventScript

open FieldReader

/-- The contents of an occupied slot. -/
structure InventorySlot where
  /-- The item. -/
  item : ItemId
  /-- How many of it. -/
  quantity : Int64
  deriving DecidableEq

instance : JsonForm InventorySlot where
  toJson s := .obj [("item", toJson s.item), ("quantity", toJson s.quantity)]
  read? := Json.record? do return ⟨← required "item", ← required "quantity"⟩

/-- A row of slots. -/
abbrev Inventory := List (Option InventorySlot)

namespace Inventory

/-- How many of an item there are in all slots. -/
def count (item : ItemId) : Inventory → Int64
  | [] => 0
  | some s :: rest => if s.item = item then s.quantity + count item rest else count item rest
  | none :: rest => count item rest

/-- The number of empty slots. -/
def free (slots : Inventory) : Nat := (slots.filter Option.isNone).length

/-- How many of an item its stacks can still take up to a limit. -/
def roomInStacks (item : ItemId) (limit : Int64) : Inventory → Int64
  | [] => 0
  | some s :: rest =>
    if s.item = item then max (limit - s.quantity) 0 + roomInStacks item limit rest
    else roomInStacks item limit rest
  | none :: rest => roomInStacks item limit rest

/-- How many of an item all slots can still take. -/
def capacity (slots : Inventory) (item : ItemId) (stackable : Bool) (maxStack : Int64) : Int64 :=
  let free := Int64.ofNat slots.free
  if stackable then
    let limit := max maxStack 1
    satAdd (roomInStacks item limit slots) (satMul free limit)
  else free

/-- Put items onto the stacks of their kind, up to a limit; what is left over comes first. -/
def fillStacks (item : ItemId) (limit : Int64) : Int64 → Inventory → Int64 × Inventory
  | left, [] => (left, [])
  | left, none :: rest =>
    let (left, rest) := fillStacks item limit left rest
    (left, none :: rest)
  | left, some s :: rest =>
    if left = 0 then (0, some s :: rest)
    else if s.item = item ∧ s.quantity < limit then
      let added := min (limit - s.quantity) left
      let (left, rest) := fillStacks item limit (left - added) rest
      (left, some { s with quantity := s.quantity + added } :: rest)
    else
      let (left, rest) := fillStacks item limit left rest
      (left, some s :: rest)

/-- Put items into empty slots, a given number of those that are left into each. -/
def fillEmpty (item : ItemId) (portion : Int64 → Int64) : Int64 → Inventory → Inventory
  | _, [] => []
  | left, some s :: rest => some s :: fillEmpty item portion left rest
  | left, none :: rest =>
    if left = 0 then none :: rest
    else some ⟨item, portion left⟩ :: fillEmpty item portion (left - portion left) rest

/-- Put in a quantity of an item; what does not fit is lost. -/
def insert (slots : Inventory) (item : ItemId) (quantity : Int64) (stackable : Bool)
    (maxStack : Int64) : Inventory :=
  if stackable then
    let limit := max maxStack 1
    let (left, slots) := fillStacks item limit quantity slots
    fillEmpty item (fun left => min limit left) left slots
  else fillEmpty item (fun _ => 1) quantity slots

/-- Take items out, slot by slot; what could not be taken comes first. -/
def take (item : ItemId) : Int64 → Inventory → Int64 × Inventory
  | left, [] => (left, [])
  | left, none :: rest =>
    let (left, rest) := take item left rest
    (left, none :: rest)
  | left, some s :: rest =>
    if left = 0 then (0, some s :: rest)
    else if s.item = item then
      let taken := min s.quantity left
      let kept := s.quantity - taken
      let (left, rest) := take item (left - taken) rest
      (left, (if kept = 0 then none else some { s with quantity := kept }) :: rest)
    else
      let (left, rest) := take item left rest
      (left, some s :: rest)

end Inventory

/-- A row of slots for spells. -/
abbrev Spellbook := List (Option SpellId)

namespace Spellbook

/-- Whether a spell is in the book. -/
def knows (book : Spellbook) (spell : SpellId) : Bool := book.contains (some spell)

/-- Replace the first slot with the given contents, if there is one. -/
def replaceFirst? (old new : Option SpellId) : Spellbook → Option Spellbook
  | [] => none
  | slot :: rest =>
    if slot = old then some (new :: rest) else (replaceFirst? old new rest).map fun r => slot :: r

/-- Write a spell that is not in the book into the first empty slot, if there is one. -/
def learn? (book : Spellbook) (spell : SpellId) : Option Spellbook :=
  if book.knows spell then none else replaceFirst? none (some spell) book

/-- Strike the first entry of a spell, if there is one. -/
def forget? (book : Spellbook) (spell : SpellId) : Option Spellbook :=
  replaceFirst? (some spell) none book

end Spellbook

end EventScript
