import EventScript.Id

/-!
# Supplies of identifiers and random numbers

New identifiers and random numbers come from two endless sequences that the host provides; they are
given out in order.
-/

namespace EventScript

/-- Where new identifiers and random numbers come from. -/
structure Supply where
  /-- The identifiers, in the order they are given out. -/
  ids : Nat → BitVec 128
  /-- The random numbers, in the order they are given out. -/
  draws : Nat → Nat
  /-- How many identifiers were given out. -/
  idsUsed : Nat
  /-- How many random numbers were given out. -/
  drawsUsed : Nat

namespace Supply

/-- A supply of which nothing was given out. -/
def of (ids : Nat → BitVec 128) (draws : Nat → Nat) : Supply := ⟨ids, draws, 0, 0⟩

/-- The next identifier, and the supply after it. -/
def freshId {κ : IdKind} (s : Supply) : Id κ × Supply :=
  (⟨s.ids s.idsUsed⟩, { s with idsUsed := s.idsUsed + 1 })

/-- A random number between two ends, both included, and the supply after it; the low end if it is
not below the high one. -/
def draw (s : Supply) (low high : Int64) : Int64 × Supply :=
  let span := (high.toInt - low.toInt).toNat + 1
  (Int64.ofInt (low.toInt + (s.draws s.drawsUsed % span : Nat)),
    { s with drawsUsed := s.drawsUsed + 1 })

/-- A number that is spread over 64 bits. -/
def spread (n : UInt64) : UInt64 :=
  let z := n * 0x9e3779b97f4a7c15
  let z := (z ^^^ (z >>> 30)) * 0xbf58476d1ce4e5b9
  let z := (z ^^^ (z >>> 27)) * 0x94d049bb133111eb
  z ^^^ (z >>> 31)

/-- The random numbers that start with a seed. -/
def drawsFrom (seed : UInt64) (k : Nat) : Nat := (spread (spread seed + UInt64.ofNat k)).toNat

/-- The identifiers that start with a seed; they are marked as random ones. -/
def idsFrom (seed : UInt64) (k : Nat) : BitVec 128 :=
  let high := (spread (spread seed + UInt64.ofNat (2 * k)) &&& 0xffffffffffff0fff) ||| 0x4000
  let low := (spread (spread seed + UInt64.ofNat (2 * k + 1)) &&& 0x3fffffffffffffff) |||
    0x8000000000000000
  BitVec.ofNat 128 (high.toNat * UInt64.size + low.toNat)

/-- The supply that starts with a seed. -/
def seeded (seed : UInt64) : Supply := of (idsFrom seed) (drawsFrom seed)

/-- The supply with other random numbers. -/
def reseed (s : Supply) (seed : UInt64) : Supply :=
  { s with draws := drawsFrom seed, drawsUsed := 0 }

@[simp] theorem draw_self (s : Supply) (n : Int64) : (s.draw n n).1 = n := by
  simp [draw, Nat.mod_one]

end Supply

end EventScript
