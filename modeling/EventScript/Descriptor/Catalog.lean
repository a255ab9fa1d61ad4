import EventScript.Descriptor.Basic

/-!
# Catalogs of descriptors

The descriptors of a game as lists, which is how they are written down, and as a catalog in which
they are looked up. Of two descriptors of the same thing the later one counts; a lookup by text key
prefers the variable that comes first by scope and identifier, whatever the order of the lists.
-/

namespace EventScript

open FieldReader

/-- The descriptors of a game as they are written down. -/
structure DescriptorSet where
  /-- The items. -/
  items : List ItemDescriptor
  /-- The spells. -/
  spells : List SpellDescriptor
  /-- The quests. -/
  quests : List QuestDescriptor
  /-- The character classes. -/
  classes : List ClassDescriptor
  /-- The shops. -/
  shops : List ShopDescriptor
  /-- The crafting tables. -/
  craftingTables : List CraftingTableDescriptor
  /-- The characters scripts can spawn. -/
  npcs : List NpcDescriptor
  /-- The variables. -/
  vars : List VariableDescriptor
  /-- The common events. -/
  commonEvents : List CommonEventDescriptor
  deriving DecidableEq

/-- No descriptors at all. -/
def DescriptorSet.empty : DescriptorSet := ⟨[], [], [], [], [], [], [], [], []⟩

instance : JsonForm DescriptorSet where
  toJson d := .obj [("items", toJson d.items), ("spells", toJson d.spells),
    ("quests", toJson d.quests), ("classes", toJson d.classes), ("shops", toJson d.shops),
    ("crafting_tables", toJson d.craftingTables), ("npcs", toJson d.npcs),
    ("variables", toJson d.vars), ("common_events", toJson d.commonEvents)]
  read? := Json.record? do
    return ⟨← defaulted "items" [], ← defaulted "spells" [], ← defaulted "quests" [],
      ← defaulted "classes" [], ← defaulted "shops" [], ← defaulted "crafting_tables" [],
      ← defaulted "npcs" [], ← defaulted "variables" [], ← defaulted "common_events" []⟩

/-- The descriptors of a game by the things they describe. -/
structure Catalog where
  /-- The items. -/
  items : Table ItemId ItemDescriptor
  /-- The spells. -/
  spells : Table SpellId SpellDescriptor
  /-- The quests. -/
  quests : Table QuestId QuestDescriptor
  /-- The character classes. -/
  classes : Table ClassId ClassDescriptor
  /-- The shops. -/
  shops : Table ShopId ShopDescriptor
  /-- The crafting tables. -/
  craftingTables : Table CraftingTableId CraftingTableDescriptor
  /-- The characters scripts can spawn. -/
  npcs : Table NpcId NpcDescriptor
  /-- The variables. -/
  vars : Table VariableRef VariableDescriptor
  /-- The common events. -/
  commonEvents : Table EventId CommonEventDescriptor
  deriving DecidableEq

/-- The catalog of a set of descriptors. -/
def DescriptorSet.catalog (d : DescriptorSet) : Catalog where
  items := .ofValues ItemDescriptor.id d.items
  spells := .ofValues SpellDescriptor.id d.spells
  quests := .ofValues QuestDescriptor.id d.quests
  classes := .ofValues ClassDescriptor.id d.classes
  shops := .ofValues ShopDescriptor.id d.shops
  craftingTables := .ofValues CraftingTableDescriptor.id d.craftingTables
  npcs := .ofValues NpcDescriptor.id d.npcs
  vars := .ofValues VariableDescriptor.ref d.vars
  commonEvents := .ofValues CommonEventDescriptor.id d.commonEvents

namespace Catalog

/-- A catalog without descriptors. -/
def empty : Catalog := DescriptorSet.empty.catalog

/-- The variable of a scope with a text key, compared up to ASCII case. No variable has the empty
key. -/
def variableByTextId? (c : Catalog) (scope : Scope) (textId : String) :
    Option VariableDescriptor :=
  c.vars.values.find? fun d =>
    d.scope == scope && !d.textId.isEmpty && Text.eqIgnoreCase d.textId textId

end Catalog

end EventScript
