import EventScript.Json.Form

/-!
# Vitals and stats

The two vitals and the five stats of a player, each as a record of numbers.
-/

namespace EventScript

/-- A vital of a player. -/
inductive Vital where
  | health | mana
  deriving DecidableEq

instance : Enumerated Vital where
  all := [.health, .mana]
  name
    | .health => "Health"
    | .mana => "Mana"

/-- A number for every vital. -/
structure Vitals where
  /-- The number for health. -/
  health : Int64
  /-- The number for mana. -/
  mana : Int64
  deriving DecidableEq

namespace Vitals

/-- The number for a vital. -/
def get (v : Vitals) : Vital → Int64
  | .health => v.health
  | .mana => v.mana

/-- Replace the number for a vital. -/
def set (v : Vitals) : Vital → Int64 → Vitals
  | .health, n => { v with health := n }
  | .mana, n => { v with mana := n }

@[simp] theorem get_set_self (v : Vitals) (k : Vital) (n : Int64) : (v.set k n).get k = n := by
  cases k <;> rfl

end Vitals

instance : JsonForm Vitals where
  toJson v := .arr [toJson v.health, toJson v.mana]
  read? m
    | .arr [h, n] => do return ⟨← read? m h, ← read? m n⟩
    | _ => none

/-- A stat of a player. -/
inductive Stat where
  | attack | abilityPower | defense | magicResist | speed
  deriving DecidableEq

instance : Enumerated Stat where
  all := [.attack, .abilityPower, .defense, .magicResist, .speed]
  name
    | .attack => "Attack"
    | .abilityPower => "AbilityPower"
    | .defense => "Defense"
    | .magicResist => "MagicResist"
    | .speed => "Speed"

/-- A number for every stat. -/
structure Stats where
  /-- The number for attack. -/
  attack : Int64
  /-- The number for ability power. -/
  abilityPower : Int64
  /-- The number for defense. -/
  defense : Int64
  /-- The number for magic resistance. -/
  magicResist : Int64
  /-- The number for speed. -/
  speed : Int64
  deriving DecidableEq

namespace Stats

/-- The same number for every stat. -/
def all (n : Int64) : Stats := ⟨n, n, n, n, n⟩

/-- The number for a stat. -/
def get (s : Stats) : Stat → Int64
  | .attack => s.attack
  | .abilityPower => s.abilityPower
  | .defense => s.defense
  | .magicResist => s.magicResist
  | .speed => s.speed

/-- The differences of two records, stat by stat. -/
def sub (a b : Stats) : Stats :=
  ⟨a.attack - b.attack, a.abilityPower - b.abilityPower, a.defense - b.defense,
    a.magicResist - b.magicResist, a.speed - b.speed⟩

/-- The sum over all stats. -/
def total (s : Stats) : Int64 :=
  s.attack + s.abilityPower + s.defense + s.magicResist + s.speed

end Stats

instance : JsonForm Stats where
  toJson s := .arr [toJson s.attack, toJson s.abilityPower, toJson s.defense, toJson s.magicResist,
    toJson s.speed]
  read? m
    | .arr [a, p, d, r, s] => do
      return ⟨← read? m a, ← read? m p, ← read? m d, ← read? m r, ← read? m s⟩
    | _ => none

end EventScript
