import EventScript.Bounded
import Mathlib.Algebra.Group.Int.Defs

/-!
# Machine integers as integers

Sums, differences and bounds of 64-bit integers are those of the integers they stand for, as long as
the exact result is one of them; sums that are held at the ends of the range are exact up to that.
-/

namespace EventScript

/-- Whether an integer fits into 64 bits. -/
def FitsInt64 (n : Int) : Prop := -2 ^ 63 ≤ n ∧ n < 2 ^ 63

variable {a b : Int64}

/-- Every machine integer fits. -/
theorem fitsInt64_toInt (a : Int64) : FitsInt64 a.toInt := ⟨a.le_toInt, a.toInt_lt⟩

/-- An integer is a machine integer when it fits. -/
theorem int64?_eq_some_iff {n : Int} : int64? n = some a ↔ FitsInt64 n ∧ Int64.ofInt n = a := by
  have hlo : Int64.minValue.toInt = -2 ^ 63 := rfl
  have hhi : Int64.maxValue.toInt = 2 ^ 63 - 1 := rfl
  unfold int64? FitsInt64
  rw [Option.ite_none_right_eq_some, Option.some.injEq, hlo, hhi, Int.le_sub_one_iff]

/-- A sum that fits is exact. -/
theorem toInt_add_of_fits (h : FitsInt64 (a.toInt + b.toInt)) :
    (a + b).toInt = a.toInt + b.toInt := by
  unfold FitsInt64 at h
  rw [Int64.toInt_add]
  exact Int.bmod_eq_of_le (by omega) (by omega)

/-- A difference that fits is exact. -/
theorem toInt_sub_of_fits (h : FitsInt64 (a.toInt - b.toInt)) :
    (a - b).toInt = a.toInt - b.toInt := by
  unfold FitsInt64 at h
  rw [Int64.toInt_sub]
  exact Int.bmod_eq_of_le (by omega) (by omega)

/-- Taking away from a number what is not more than it is exact, if it is not less than nothing. -/
theorem toInt_sub_of_le (hb : 0 ≤ b.toInt) (h : b.toInt ≤ a.toInt) :
    (a - b).toInt = a.toInt - b.toInt := by
  have ha := fitsInt64_toInt a
  unfold FitsInt64 at ha
  exact toInt_sub_of_fits ⟨by omega, by omega⟩

/-- The larger one of two machine integers. -/
theorem toInt_max (a b : Int64) : (max a b).toInt = max a.toInt b.toInt := by
  rw [Int.max_def]
  simp only [max, ← Int64.le_iff_toInt_le]
  exact apply_ite Int64.toInt ..

/-- The smaller one of two machine integers. -/
theorem toInt_min (a b : Int64) : (min a b).toInt = min a.toInt b.toInt := by
  rw [Int.min_def]
  simp only [min, ← Int64.le_iff_toInt_le]
  exact apply_ite Int64.toInt ..

/-- An integer that is held at the ends of the range. -/
theorem toInt_ofIntClamp (n : Int) :
    (Int64.ofIntClamp n).toInt = max (-2 ^ 63) (min n (2 ^ 63 - 1)) := by
  have hlo : Int64.minValue.toInt = -2 ^ 63 := rfl
  have hhi : Int64.maxValue.toInt = 2 ^ 63 - 1 := rfl
  unfold Int64.ofIntClamp
  split
  · split
    · rw [Int64.toInt_ofIntLE]
      omega
    · omega
  · omega

/-- A sum that is held at the ends of the range. -/
theorem toInt_satAdd (a b : Int64) :
    (satAdd a b).toInt = max (-2 ^ 63) (min (a.toInt + b.toInt) (2 ^ 63 - 1)) := toInt_ofIntClamp _

/-- A product that is held at the ends of the range. -/
theorem toInt_satMul (a b : Int64) :
    (satMul a b).toInt = max (-2 ^ 63) (min (a.toInt * b.toInt) (2 ^ 63 - 1)) := toInt_ofIntClamp _

/-- A gain that is not negative does not lower a sum. -/
theorem le_satAdd (h : 0 ≤ b) : a ≤ satAdd a b := by
  have ha := fitsInt64_toInt a
  unfold FitsInt64 at ha
  rw [Int64.le_iff_toInt_le, Int64.toInt_zero] at h
  rw [Int64.le_iff_toInt_le, toInt_satAdd]
  omega

/-! ## Numbers of 32 bits -/

section Int32

variable {a b : Int32}

/-- The larger one of two numbers. -/
theorem toInt_max_int32 (a b : Int32) : (max a b).toInt = max a.toInt b.toInt := by
  rw [Int.max_def]
  simp only [max, ← Int32.le_iff_toInt_le]
  exact apply_ite Int32.toInt ..

/-- The smaller one of two numbers. -/
theorem toInt_min_int32 (a b : Int32) : (min a b).toInt = min a.toInt b.toInt := by
  rw [Int.min_def]
  simp only [min, ← Int32.le_iff_toInt_le]
  exact apply_ite Int32.toInt ..

/-- The next number after one that is not the last. -/
theorem toInt_add_one_of_lt (h : a < b) : (a + 1).toInt = a.toInt + 1 := by
  have hb := b.toInt_lt
  have ha := a.le_toInt
  rw [Int32.lt_iff_toInt_lt] at h
  rw [Int32.toInt_add, Int32.toInt_one]
  exact Int.bmod_eq_of_le (by omega) (by omega)

/-- The number before one that is not the first. -/
theorem toInt_sub_one_of_lt (h : b < a) : (a - 1).toInt = a.toInt - 1 := by
  have hb := b.le_toInt
  have ha := a.toInt_lt
  rw [Int32.lt_iff_toInt_lt] at h
  rw [Int32.toInt_sub, Int32.toInt_one]
  exact Int.bmod_eq_of_le (by omega) (by omega)

/-- Whether an integer fits into 32 bits. -/
def FitsInt32 (n : Int) : Prop := -2 ^ 31 ≤ n ∧ n < 2 ^ 31

/-- A sum that fits is exact. -/
theorem toInt_add_of_fits_int32 (h : FitsInt32 (a.toInt + b.toInt)) :
    (a + b).toInt = a.toInt + b.toInt := by
  unfold FitsInt32 at h
  rw [Int32.toInt_add]
  exact Int.bmod_eq_of_le (by omega) (by omega)

/-- A negation that fits is exact. -/
theorem toInt_neg_of_fits_int32 (h : FitsInt32 (-a.toInt)) : (-a).toInt = -a.toInt := by
  unfold FitsInt32 at h
  rw [Int32.toInt_neg]
  exact Int.bmod_eq_of_le (by omega) (by omega)

end Int32

end EventScript
