import EventScript.Proofs.Bounded
import EventScript.Proofs.Npc.Ownership
import Mathlib.Logic.Function.Iterate

/-!
# Turning with a facing

A place that is relative to a facing is an offset as it is seen facing up, and it is turned with the
target. A turn of the map keeps how far ahead of the target a tile lies and how far to the right of
it, and it is the only change of offsets that does. Facing left is no turn here: its two parts are
exchanged and none of them changes its sign, so that left and right of the target are exchanged too.
-/

namespace EventScript

/-! ## Ways over a map -/

/-- A way over a map, in exact numbers of tiles. -/
@[ext]
structure Way where
  /-- How many columns to the right. -/
  right : Int
  /-- How many rows down. -/
  down : Int
  deriving DecidableEq

/-- The way that an offset stands for. -/
def Way.ofOffset (offset : Int32 × Int32) : Way := ⟨offset.1.toInt, offset.2.toInt⟩

/-- A quarter turn, from up to the right. -/
def Way.quarter (v : Way) : Way := ⟨-v.down, v.right⟩

/-- The way between two tiles of one map. -/
def Tile.wayTo (a b : Tile) : Way := ⟨b.x.toInt - a.x.toInt, b.y.toInt - a.y.toInt⟩

namespace Direction

/-- How many quarter turns lead from up to a facing. -/
def quarters : Direction → Nat
  | up => 0
  | right => 1
  | down => 2
  | left => 3

/-- Turn a way from up to a facing. -/
def turn (facing : Direction) (v : Way) : Way := Way.quarter^[facing.quarters] v

/-- The step straight ahead. -/
def ahead : Direction → Way
  | up => ⟨0, -1⟩
  | down => ⟨0, 1⟩
  | left => ⟨-1, 0⟩
  | right => ⟨1, 0⟩

/-- How far a way leads ahead, as seen along a facing. -/
def depth (facing : Direction) (v : Way) : Int :=
  facing.ahead.right * v.right + facing.ahead.down * v.down

/-- How far a way leads to the right, as seen along a facing. -/
def aside (facing : Direction) (v : Way) : Int :=
  facing.ahead.right * v.down - facing.ahead.down * v.right

variable (facing : Direction) (v : Way)

@[simp] theorem turn_up : up.turn v = v := rfl

@[simp] theorem turn_right : right.turn v = ⟨-v.down, v.right⟩ := rfl

@[simp] theorem turn_down : down.turn v = ⟨-v.right, -v.down⟩ := rfl

@[simp] theorem turn_left : left.turn v = ⟨v.down, -v.right⟩ := by
  simp [turn, quarters, Way.quarter]

/-- Turning keeps how far a way leads ahead. -/
theorem depth_turn : facing.depth (facing.turn v) = up.depth v := by
  cases facing <;> simp [depth, ahead]

/-- Turning keeps how far a way leads to the right. -/
theorem aside_turn : facing.aside (facing.turn v) = up.aside v := by
  cases facing <;> simp [aside, ahead]

variable {facing v}

/-- How far a way leads ahead and to the right tells all of it. -/
theorem eq_of_depth_of_aside {w : Way} (hdepth : facing.depth v = facing.depth w)
    (haside : facing.aside v = facing.aside w) : v = w := by
  cases facing with
  | up | down | left | right =>
    simp only [depth, aside, ahead] at hdepth haside
    ext
    · omega
    · omega

/-- The turned way is the one that lies for the facing where the way lies for up. -/
theorem eq_turn_iff {w : Way} :
    w = facing.turn v ↔ facing.depth w = up.depth v ∧ facing.aside w = up.aside v := by
  constructor
  · rintro rfl
    exact ⟨facing.depth_turn v, facing.aside_turn v⟩
  · rintro ⟨hdepth, haside⟩
    rw [← facing.depth_turn] at hdepth
    rw [← facing.aside_turn] at haside
    exact eq_of_depth_of_aside hdepth haside

/-! ## Turned offsets -/

/-- The offset for a facing. -/
def turnOf (facing : Direction) (offset : Int32 × Int32) : Int32 × Int32 :=
  facing.turnOffset offset.1 offset.2

end Direction

/-- Whether both parts of an offset can be negated. -/
def IsNegatable (offset : Int32 × Int32) : Prop :=
  FitsInt32 (-offset.1.toInt) ∧ FitsInt32 (-offset.2.toInt)

open Direction (up down left right)

/-- Facings turn an offset: each of them by the quarter turns that lead from up to it, so that no
facing exchanges the sides. -/
structure TurnsWithFacing (offset : Int32 × Int32) : Prop where
  /-- The offset for a facing is the offset, turned to the facing. -/
  turned : ∀ facing : Direction,
    Way.ofOffset (facing.turnOf offset) = facing.turn (.ofOffset offset)
  /-- What is on the right of the target stays there. -/
  aside : ∀ facing : Direction,
    facing.aside (.ofOffset (facing.turnOf offset)) = up.aside (.ofOffset offset)
  right_right : right.turnOf (right.turnOf offset) = down.turnOf offset
  left_left : left.turnOf (left.turnOf offset) = down.turnOf offset
  left_right : left.turnOf (right.turnOf offset) = offset
  right_left : right.turnOf (left.turnOf offset) = offset

/-- What facings make of an offset: all but left turn it, and left mirrors it. -/
structure TurnsOrMirrors (offset : Int32 × Int32) : Prop where
  /-- The offset is turned, unless the facing is left and the offset leads aside. -/
  turned_iff : ∀ facing : Direction,
    Way.ofOffset (facing.turnOf offset) = facing.turn (.ofOffset offset) ↔
      facing ≠ left ∨ offset.1 = 0
  /-- What is ahead of the target stays there. -/
  depth : ∀ facing : Direction,
    facing.depth (.ofOffset (facing.turnOf offset)) = up.depth (.ofOffset offset)
  /-- Facing left, and only then, what is on the right of the target comes to its left. -/
  aside : ∀ facing : Direction, facing.aside (.ofOffset (facing.turnOf offset)) =
    if facing = left then -up.aside (.ofOffset offset) else up.aside (.ofOffset offset)
  right_right : right.turnOf (right.turnOf offset) = down.turnOf offset
  left_left : left.turnOf (left.turnOf offset) = down.turnOf offset ↔ offset = (0, 0)
  left_right : left.turnOf (right.turnOf offset) = offset ↔ offset.2 = 0
  right_left : right.turnOf (left.turnOf offset) = offset ↔ offset.1 = 0

variable {offset : Int32 × Int32}

/-- The way of the offset for a facing: the offset is turned to the facing, and if that is left, the
mirrored offset is. -/
theorem Way.ofOffset_turnOf (h : IsNegatable offset) (facing : Direction) :
    Way.ofOffset (facing.turnOf offset) =
      facing.turn ⟨if facing = left then -offset.1.toInt else offset.1.toInt, offset.2.toInt⟩ := by
  have hx := toInt_neg_of_fits_int32 h.1
  have hy := toInt_neg_of_fits_int32 h.2
  cases facing <;> simp [Way.ofOffset, Direction.turnOf, Direction.turnOffset, hx, hy]

/-- What is ahead of the target stays there. -/
theorem depth_turnOf (h : IsNegatable offset) (facing : Direction) :
    facing.depth (.ofOffset (facing.turnOf offset)) = up.depth (.ofOffset offset) := by
  rw [Way.ofOffset_turnOf h, Direction.depth_turn]
  simp [Direction.depth, Direction.ahead, Way.ofOffset]

/-- What is on the right of the target stays there, unless the facing is left. -/
theorem aside_turnOf (h : IsNegatable offset) (facing : Direction) :
    facing.aside (.ofOffset (facing.turnOf offset)) =
      if facing = left then -up.aside (.ofOffset offset) else up.aside (.ofOffset offset) := by
  rw [Way.ofOffset_turnOf h, Direction.aside_turn]
  by_cases hleft : facing = left
  · simp [hleft, Direction.aside, Direction.ahead, Way.ofOffset]
  · simp [hleft, Direction.aside, Direction.ahead, Way.ofOffset]

/-- The offset is turned where it keeps both, which it does unless it leads aside and the facing is
left. -/
theorem ofOffset_turnOf_eq_turn_iff (h : IsNegatable offset) (facing : Direction) :
    Way.ofOffset (facing.turnOf offset) = facing.turn (.ofOffset offset) ↔
      facing ≠ left ∨ offset.1 = 0 := by
  rw [Direction.eq_turn_iff, depth_turnOf h, aside_turnOf h]
  by_cases hleft : facing = left
  · simp [hleft, Direction.aside, Direction.ahead, Way.ofOffset, ← Int32.toInt_inj]
    omega
  · simp [hleft]

/-- Only nothing is its own negation, among what can be negated. -/
theorem neg_eq_self_iff_of_fits {a : Int32} (h : FitsInt32 (-a.toInt)) : -a = a ↔ a = 0 := by
  rw [← Int32.toInt_inj, ← Int32.toInt_inj, toInt_neg_of_fits_int32 h, Int32.toInt_zero]
  omega

/-- Every offset that can be negated is turned or mirrored. -/
theorem turnsOrMirrors (h : IsNegatable offset) : TurnsOrMirrors offset := by
  have hx := neg_eq_self_iff_of_fits h.1
  have hy := neg_eq_self_iff_of_fits h.2
  refine ⟨ofOffset_turnOf_eq_turn_iff h, depth_turnOf h, aside_turnOf h, rfl, ?_, ?_, ?_⟩
  all_goals obtain ⟨dx, dy⟩ := offset
  · simp only [Direction.turnOf, Direction.turnOffset, Prod.mk.injEq]
    rw [eq_comm, hx, @eq_comm _ dy, hy]
  · simp only [Direction.turnOf, Direction.turnOffset, Prod.mk.injEq, true_and]
    exact hy
  · simp only [Direction.turnOf, Direction.turnOffset, Prod.mk.injEq, and_true]
    exact hx

/-! ## Placed tiles -/

/-- How the tile that is placed for a facing lies to the target, next to the one that is placed for
facing up. -/
structure TurnsTile (target : Tile) (facing : Direction) (above placed : Tile) : Prop where
  map : placed.map = target.map
  dir : placed.dir = facing
  /-- It is turned around the target, unless the facing is left and the tile is not straight ahead of
  the target or behind it. -/
  turned_iff : target.wayTo placed = facing.turn (target.wayTo above) ↔
    facing ≠ left ∨ (target.wayTo above).right = 0
  depth : facing.depth (target.wayTo placed) = up.depth (target.wayTo above)
  aside : facing.aside (target.wayTo placed) =
    if facing = left then -up.aside (target.wayTo above) else up.aside (target.wayTo above)

namespace Scene

variable (s : Scene) (event : Option EventId)

/-- The tile that a target stands on: a map event, or the player. -/
def standing : Tile :=
  match event.bind s.world.mapEvent? with
  | some e => ⟨e.map, e.x, e.y, e.dir⟩
  | none => ⟨s.player.map, s.player.x, s.player.y, s.player.dir⟩

/-- The same scene with the target facing another way. -/
def facing (dir : Direction) : Scene :=
  match event with
  | some id => match s.world.mapEvent? id with
    | some e => { s with world.mapEvents := s.world.mapEvents.insert id { e with dir := dir } }
    | none => { s with player.dir := dir }
  | none => { s with player.dir := dir }

/-- The tile that an offset leads to from the target, once that faces some way. -/
def tileFor (dir : Direction) (offset : Int32 × Int32) : Tile where
  map := (s.standing event).map
  x := (s.standing event).x + (dir.turnOf offset).1
  y := (s.standing event).y + (dir.turnOf offset).2
  dir := dir

/-- Whether the tile that a way leads to lies within the bounds of maps, in exact numbers. -/
def IsInside (target : Tile) (v : Way) : Prop :=
  (0 ≤ target.x.toInt + v.right ∧ target.x.toInt + v.right < s.world.config.map.width.toInt) ∧
    0 ≤ target.y.toInt + v.down ∧ target.y.toInt + v.down < s.world.config.map.height.toInt

/-- Characters are spawned and animations are played on a tile. -/
structure PlacesAt (place : SpawnTarget) (t : Tile) : Prop where
  /-- A character that is described is there, and the player lists it. -/
  npc : ∀ npc, s.world.catalog.npcs.contains npc = true → ∃ after entity,
    s.execute (.spawnNpc npc place) = .ok after ∧
      after.world.npcs.get? entity = some ⟨entity, npc, s.player.mapInstance, t, s.player.id⟩ ∧
      after.player.activity.spawnedNpcs = s.player.activity.spawnedNpcs ++ [entity]
  /-- Clients are told to play an animation there. -/
  animation : ∀ animation toPlayerOnly, ∃ after audience entity,
    s.execute (.playAnimation animation place toPlayerOnly) = .ok after ∧
      after.world.sent = s.world.sent ++ [(audience, .animation animation entity t)]

variable {s event}

/-- A place whose tile lies on the map is where characters are spawned and animations played. -/
theorem placesAt_of_tile? {place : SpawnTarget} {t : Tile} (h : s.tile? place = some t) :
    s.PlacesAt place t := by
  constructor
  · intro npc hdescribed
    refine ⟨s.spawnNpc npc place, s.world.supply.freshId.1, rfl, ?_, ?_⟩
    · simp [spawnNpc, hdescribed, h, World.spawnNpc]
    · simp [spawnNpc, hdescribed, h]
  · intro animation toPlayerOnly
    refine ⟨s.playAnimation animation place toPlayerOnly, if toPlayerOnly then .player s.player.id
      else .proximity t.map s.player.mapInstance, s.animated? place, rfl, ?_⟩
    simp only [playAnimation, h, send, World.send]

/-- Facing another way, a target stands where it stood. -/
theorem standing_facing (dir : Direction) :
    (s.facing event dir).standing event = { s.standing event with dir := dir } := by
  cases event with
  | none => rfl
  | some id =>
    cases h : s.world.mapEvent? id with
    | none => simp [facing, standing, h]
    | some e =>
      have hturned : (s.facing (some id) dir).world.mapEvent? id = some { e with dir := dir } := by
        simp only [facing, h]
        exact Table.get?_insert_self ..
      simp [standing, h, hturned]

/-- Nor does that change the bounds of maps. -/
theorem config_facing (dir : Direction) : (s.facing event dir).world.config = s.world.config := by
  unfold facing
  split
  · split <;> rfl
  · rfl

/-- The sum of a coordinate and a part of an offset is exact if it lies between two numbers. -/
theorem toInt_add_of_between {a b bound : Int32} (hlow : 0 ≤ a.toInt + b.toInt)
    (hhigh : a.toInt + b.toInt < bound.toInt) : (a + b).toInt = a.toInt + b.toInt := by
  have hbound := bound.toInt_lt
  exact toInt_add_of_fits_int32 ⟨by omega, by omega⟩

/-- The tile of a place, wherever that is. -/
theorem tileOf_facing (dir : Direction) (offset : Int32 × Int32) :
    (s.facing event dir).tileOf (.relative event offset.1 offset.2 true) =
      s.tileFor event dir offset := by
  have hstanding : (s.facing event dir).standing event = { s.standing event with dir := dir } :=
    standing_facing dir
  exact congrArg (fun target : Tile => (⟨target.map, target.x + (target.dir.turnOf offset).1,
    target.y + (target.dir.turnOf offset).2, target.dir⟩ : Tile)) hstanding

section Inside

variable {dir : Direction}
  (h : s.IsInside (s.standing event) (.ofOffset (dir.turnOf offset)))

include h

/-- A tile within the bounds of maps is reached by the way of its offset. -/
theorem wayTo_tileFor :
    (s.standing event).wayTo (s.tileFor event dir offset) = .ofOffset (dir.turnOf offset) := by
  obtain ⟨⟨hleft, hright⟩, htop, hbottom⟩ := h
  have hx := toInt_add_of_between hleft hright
  have hy := toInt_add_of_between htop hbottom
  apply Way.ext
  · simp only [Tile.wayTo, tileFor, hx, Way.ofOffset]
    omega
  · simp only [Tile.wayTo, tileFor, hy, Way.ofOffset]
    omega

/-- If it lies there, then it is the tile of the place. -/
theorem tile?_facing : (s.facing event dir).tile? (.relative event offset.1 offset.2 true) =
    some (s.tileFor event dir offset) := by
  obtain ⟨⟨hleft, hright⟩, htop, hbottom⟩ := h
  have hx := toInt_add_of_between hleft hright
  have hy := toInt_add_of_between htop hbottom
  have hmap : (s.facing event dir).isOnMap (s.tileFor event dir offset) = true := by
    simp only [isOnMap, config_facing, Bool.and_eq_true, decide_eq_true_eq,
      Int32.le_iff_toInt_le, Int32.lt_iff_toInt_lt, Int32.toInt_zero]
    exact ⟨⟨⟨hx ▸ hleft, hx ▸ hright⟩, hy ▸ htop⟩, hy ▸ hbottom⟩
  simp only [tile?, tileOf_facing, hmap, if_true]

end Inside

/-- Facings turn or mirror every offset that can be negated, and so they do with the tiles that
characters are spawned on and animations played at. -/
theorem turns_or_mirrors (h : IsNegatable offset) :
    TurnsOrMirrors offset ∧ ∀ (s : Scene) (event : Option EventId) (dir : Direction),
      s.IsInside (s.standing event) (.ofOffset offset) →
      s.IsInside (s.standing event) (.ofOffset (dir.turnOf offset)) →
      (s.facing event up).PlacesAt (.relative event offset.1 offset.2 true)
          (s.tileFor event up offset) ∧
        (s.facing event dir).PlacesAt (.relative event offset.1 offset.2 true)
          (s.tileFor event dir offset) ∧
        TurnsTile (s.standing event) dir (s.tileFor event up offset)
          (s.tileFor event dir offset) := by
  have hoffset := turnsOrMirrors h
  refine ⟨hoffset, ?_⟩
  intro s event dir habove hplaced
  have hup : s.IsInside (s.standing event) (.ofOffset (up.turnOf offset)) := habove
  have hway := wayTo_tileFor hup
  have hway' := wayTo_tileFor hplaced
  refine ⟨placesAt_of_tile? (tile?_facing hup),
    placesAt_of_tile? (tile?_facing hplaced), ?_⟩
  constructor
  · rfl
  · rfl
  · have haside : (Way.ofOffset (up.turnOf offset)).right = 0 ↔ offset.1 = 0 := by
      simp [Way.ofOffset, Direction.turnOf, Direction.turnOffset, ← Int32.toInt_inj]
    rw [hway, hway', haside]
    exact hoffset.turned_iff dir
  · rw [hway, hway']
    exact hoffset.depth dir
  · rw [hway, hway']
    exact hoffset.aside dir

/-! ### A companion on the right -/

/-- A kind of characters. -/
def squire : NpcDescriptor := ⟨⟨1⟩, "Squire", "squire"⟩

/-- A player in the middle of a map. -/
def errant : Scene where
  world := World.start {} { DescriptorSet.empty with npcs := [squire] }.catalog (.start 0)
    (.seeded 0)
  player := { Player.fresh ⟨3⟩ "Ann" .nil 0 0 with
    x := 10
    y := 10 }
  run := .start ⟨4⟩ ⟨5⟩ ⟨3⟩ (Page.draft ⟨1⟩ "company" ⟨2⟩)
  page := Page.draft ⟨1⟩ "company" ⟨2⟩

/-- Next to a player who faces right, the companion stands one tile further down, on the right. Next
to one who faces left it stands there as well, which is on the left. -/
theorem turns_or_mirrors_errant :
    IsNegatable (1, 0) ∧ TurnsOrMirrors (1, 0) ∧
      ((errant.facing none right).PlacesAt (.relative none 1 0 true) ⟨.nil, 10, 11, right⟩ ∧
        TurnsTile (errant.standing none) right ⟨.nil, 11, 10, up⟩ ⟨.nil, 10, 11, right⟩) ∧
      (errant.facing none left).PlacesAt (.relative none 1 0 true) ⟨.nil, 10, 11, left⟩ ∧
        TurnsTile (errant.standing none) left ⟨.nil, 11, 10, up⟩ ⟨.nil, 10, 11, left⟩ := by
  have hneg : IsNegatable (1, 0) := ⟨⟨by decide, by decide⟩, by decide, by decide⟩
  have habove : errant.IsInside (errant.standing none) (.ofOffset (1, 0)) :=
    ⟨⟨by decide, by decide⟩, by decide, by decide⟩
  have hbelow : errant.IsInside (errant.standing none) (.ofOffset (0, 1)) :=
    ⟨⟨by decide, by decide⟩, by decide, by decide⟩
  obtain ⟨hoffset, hplaces⟩ := turns_or_mirrors hneg
  exact ⟨hneg, hoffset, (hplaces errant none right habove hbelow).2,
    (hplaces errant none left habove hbelow).2⟩

/-- The way to that tile is not turned with the facing: it leads to the left. -/
theorem not_turnsWithFacing_companion :
    ¬ ∀ offset : Int32 × Int32, IsNegatable offset → TurnsWithFacing offset := by
  intro h
  have hneg : IsNegatable (1, 0) := ⟨⟨by decide, by decide⟩, by decide, by decide⟩
  have haside := (h (1, 0) hneg).aside left
  exact absurd haside (by decide)

end Scene

end EventScript
