import EventScript.Page.Analysis
import EventScript.Scheduler

/-!
# Snapshots

The state of executions and of things in the world as JSON, for tools that show it. A snapshot is
written and never read; what is kept between sessions has a JSON form instead.
-/

namespace EventScript

/-- A type whose values can be shown as JSON. -/
class Snapshot (α : Type) where
  /-- Show a value. -/
  snapshot : α → Json

export Snapshot (snapshot)

/-- What has a JSON form is shown by it. -/
instance {α : Type} [JsonForm α] : Snapshot α := ⟨toJson⟩

instance {α : Type} [Snapshot α] : Snapshot (List α) := ⟨fun as => .arr (as.map snapshot)⟩

/-- Nothing is shown as null. -/
instance {α : Type} [Snapshot α] : Snapshot (Option α) := ⟨fun a => (a.map snapshot).getD .null⟩

instance : Snapshot Nat := ⟨fun n => .num n⟩

instance : Snapshot Unit := ⟨fun _ => .null⟩

/-- The members that stand next to the kind of a suspension. -/
def Suspension.details : Suspension → List (String × Json)
  | dialogue .text => [("prompt", .str "Text")]
  | dialogue (.options branches) =>
    [("prompt", .str "Options"), ("branch_ids", toJson branches)]
  | dialogue (.input target branches) =>
    [("prompt", .str "Input"), ("variable", toJson target), ("branch_ids", toJson branches)]
  | timer deadline => [("deadline_ms", toJson deadline)]
  | route target => [("target", toJson target)]
  | session kind => [("session", toJson kind)]
  | fade => []
  | picture => []
  | questOffer quest branches => [("quest", toJson quest), ("branch_ids", toJson branches)]

instance : Snapshot Suspension := ⟨fun s => .obj (("kind", toJson s.kind) :: s.details)⟩

instance : Snapshot Frame := ⟨fun f =>
  .obj [("page", toJson f.page.id), ("list", toJson f.list), ("index", snapshot f.index),
    ("waiting", snapshot f.waiting)]⟩

/-- The frames of an execution are shown outermost first. -/
instance : Snapshot Instance := ⟨fun i =>
  .obj [("id", toJson i.id), ("event", toJson i.event), ("player", toJson i.player),
    ("map", toJson i.map), ("global", toJson i.isGlobal), ("name", toJson i.name),
    ("param", toJson i.param), ("parameters", toJson i.parameters),
    ("switches", toJson i.selfSwitches.toList), ("holding", toJson i.holding),
    ("running", toJson i.isRunning), ("complete", toJson i.isComplete),
    ("suspension", (i.suspension?.map toJson).getD (.str "None")),
    ("wait_deadline", toJson i.waitDeadline?), ("frames", snapshot i.stack.reverse)]⟩

/-- The members of the JSON form of a player. -/
def Player.members (p : Player) : List (String × Json) :=
  match toJson p with
  | .obj members => members
  | _ => []

/-- A player with what lasts and what does not. -/
def Player.snapshotWithActivity (p : Player) : Json :=
  .obj (p.members ++ [("open_session", toJson p.activity.openSession),
    ("fading", toJson p.activity.fading), ("combat_until_ms", toJson p.activity.combatUntil),
    ("dead", toJson p.activity.dead), ("move_route", toJson p.activity.moveRoute),
    ("spawned_npcs", toJson p.activity.spawnedNpcs),
    ("item_cooldowns", toJson p.activity.itemCooldowns)])

instance : Snapshot MapEvent := ⟨fun e =>
  .obj [("map", toJson e.map), ("x", toJson e.x), ("y", toJson e.y), ("dir", toJson e.dir),
    ("move_route", toJson e.moveRoute)]⟩

instance : Snapshot SpawnedNpc := ⟨fun n =>
  .obj [("entity", toJson n.entity), ("npc", toJson n.npc), ("map", toJson n.tile.map),
    ("map_instance", toJson n.mapInstance), ("x", toJson n.tile.x), ("y", toJson n.tile.y),
    ("dir", toJson n.tile.dir), ("spawned_by", toJson n.spawnedBy)]⟩

instance : Snapshot DroppedItem := ⟨fun d =>
  .obj [("item", toJson d.item), ("quantity", toJson d.quantity), ("map", toJson d.map),
    ("x", toJson d.x), ("y", toJson d.y), ("owner", toJson d.owner)]⟩

instance : Snapshot SpellCast := ⟨fun c =>
  .obj [("caster", toJson c.caster), ("target", toJson c.target), ("spell", toJson c.spell)]⟩

instance : Snapshot SwitchUpdate := ⟨fun u =>
  .obj [("event", toJson u.event), ("map", toJson u.map), ("switch", toJson u.switch),
    ("value", toJson u.value)]⟩

instance : Snapshot EventRequest := ⟨fun
  | .trigger player trigger => .obj [("player", toJson player), ("trigger", toJson trigger)]
  | .start player event => .obj [("player", toJson player), ("start", toJson event)]⟩

instance : Snapshot StepOutcome := ⟨fun
  | .continue => .str "Continue"
  | .completed => .str "Completed"
  | .suspended kind => .single "Suspended" (toJson kind)
  | .waiting kind => .single "Waiting" (toJson kind)⟩

instance : Snapshot TickReport := ⟨fun r =>
  .obj [("advanced", snapshot r.advanced), ("completed", snapshot r.completed),
    ("failed", snapshot r.failed), ("started", snapshot r.started)]⟩

instance : Snapshot PageReport := ⟨fun r =>
  .obj [("lists", snapshot r.lists), ("commands", snapshot r.commands),
    ("labels", toJson r.labels), ("unreachable_lists", toJson r.unreachableLists),
    ("missing_branches", toJson r.missingBranches), ("unresolved_gotos", toJson r.unresolvedGotos),
    ("unsupported", snapshot r.unsupported), ("has_errors", toJson r.hasErrors)]⟩

/-- The steps of a path are shown as pairs. -/
instance : Snapshot PathStep := ⟨fun s => .arr [toJson s.list, snapshot s.index]⟩

end EventScript
