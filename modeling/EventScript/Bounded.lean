/-!
# Bounded arithmetic

Sums and products of machine integers that stop at the ends of their range instead of wrapping.
-/

namespace EventScript

/-- The sum of two integers, held at the ends of the 64-bit range. -/
def satAdd (a b : Int64) : Int64 := Int64.ofIntClamp (a.toInt + b.toInt)

/-- The product of two integers, held at the ends of the 64-bit range. -/
def satMul (a b : Int64) : Int64 := Int64.ofIntClamp (a.toInt * b.toInt)

/-- The sum of two moments or counts, held at the largest 64-bit number. -/
def satAddUnsigned (a b : UInt64) : UInt64 := UInt64.ofNat (min (a.toNat + b.toNat) (UInt64.size - 1))

/-- The difference of two moments or counts, held at zero. -/
def satSubUnsigned (a b : UInt64) : UInt64 := UInt64.ofNat (a.toNat - b.toNat)

/-- An integer as a signed 64-bit number, when it is one. -/
def int64? (n : Int) : Option Int64 :=
  if Int64.minValue.toInt ≤ n ∧ n ≤ Int64.maxValue.toInt then some (Int64.ofInt n) else none

/-- An integer as a signed 32-bit number, when it is one. -/
def int32? (n : Int) : Option Int32 :=
  if Int32.minValue.toInt ≤ n ∧ n ≤ Int32.maxValue.toInt then some (Int32.ofInt n) else none

/-- An integer as an unsigned 64-bit number, when it is one. -/
def uint64? (n : Int) : Option UInt64 :=
  if 0 ≤ n ∧ n < UInt64.size then some (UInt64.ofNat n.toNat) else none

/-- An integer as an unsigned 32-bit number, when it is one. -/
def uint32? (n : Int) : Option UInt32 :=
  if 0 ≤ n ∧ n < UInt32.size then some (UInt32.ofNat n.toNat) else none

/-- An integer as an unsigned 8-bit number, when it is one. -/
def uint8? (n : Int) : Option UInt8 :=
  if 0 ≤ n ∧ n < UInt8.size then some (UInt8.ofNat n.toNat) else none

@[simp] theorem int64?_toInt (a : Int64) : int64? a.toInt = some a := by
  have hlo := a.minValue_le_toInt
  have hhi := a.toInt_le
  simp only [int64?, Int64.ofInt_toInt]
  exact if_pos ⟨hlo, hhi⟩

@[simp] theorem int32?_toInt (a : Int32) : int32? a.toInt = some a := by
  have hlo := a.minValue_le_toInt
  have hhi := a.toInt_le
  simp only [int32?, Int32.ofInt_toInt]
  exact if_pos ⟨hlo, hhi⟩

@[simp] theorem uint64?_toNat (a : UInt64) : uint64? a.toNat = some a := by
  have h : a.toNat < UInt64.size := a.toNat_lt
  simp only [uint64?, Int.toNat_natCast, UInt64.ofNat_toNat]
  exact if_pos ⟨Int.natCast_nonneg _, Int.ofNat_lt.mpr h⟩

@[simp] theorem uint32?_toNat (a : UInt32) : uint32? a.toNat = some a := by
  have h : a.toNat < UInt32.size := a.toNat_lt
  simp only [uint32?, Int.toNat_natCast, UInt32.ofNat_toNat]
  exact if_pos ⟨Int.natCast_nonneg _, Int.ofNat_lt.mpr h⟩

@[simp] theorem uint8?_toNat (a : UInt8) : uint8? a.toNat = some a := by
  have h : a.toNat < UInt8.size := a.toNat_lt
  simp only [uint8?, Int.toNat_natCast, UInt8.ofNat_toNat]
  exact if_pos ⟨Int.natCast_nonneg _, Int.ofNat_lt.mpr h⟩

end EventScript
