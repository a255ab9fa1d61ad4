import EventScript.Proofs.Bounded
import EventScript.Proofs.Variable.Change
import Mathlib.Data.Int.ModEq

/-!
# Integer operators

Every operator of an integer variable has an exact result among all integers. What the variable
holds afterwards is the machine integer that is congruent to it modulo 2 to the 64, of which there
is one. Only a division by zero has no result.

It makes no difference whether the operand of an operator is written in the script or held by a
variable.
-/

namespace EventScript

/-- An integer is congruent to the one of its residue in the range of 64 bits. -/
theorem bmod_modEq (n : Int) : n.bmod (2 ^ 64) ≡ n [ZMOD 2 ^ 64] := by
  have hmod := Int.bmod_emod (x := n) (m := 2 ^ 64)
  exact_mod_cast hmod

/-- The machine integer of an integer is the only one that is congruent to it. -/
theorem eq_ofInt_iff {r : Int64} {n : Int} : r = Int64.ofInt n ↔ r.toInt ≡ n [ZMOD 2 ^ 64] := by
  have hofInt : (Int64.ofInt n).toInt = n.bmod (2 ^ 64) := Int64.toInt_ofInt
  rw [← Int64.toInt_inj, hofInt]
  constructor
  · intro h
    rw [h]
    exact bmod_modEq n
  · intro h
    have hr := fitsInt64_toInt r
    have hn := fitsInt64_toInt (Int64.ofInt n)
    rw [hofInt] at hn
    unfold FitsInt64 at hr hn
    have hcongr : r.toInt % 2 ^ 64 = n.bmod (2 ^ 64) % 2 ^ 64 := h.trans (bmod_modEq n).symm
    omega

namespace CombineOp

/-! ## Exact results -/

/-- By how many places an operand shifts. -/
def places (operand : Int) : Nat := (operand % 64).toNat

/-- The exact result of an operator. A quotient is without its fraction, and what is shifted to the
right is rounded down. -/
def exact (op : CombineOp) (current operand : Int) : Int :=
  match op with
  | set => operand
  | add => current + operand
  | subtract => current - operand
  | multiply => current * operand
  | divide => current.tdiv operand
  | leftShift => current * 2 ^ places operand
  | rightShift => current.fdiv (2 ^ places operand)

/-- An operand shifts by its residue among the numbers below 64, also when it is negative. -/
theorem places_modEq (operand : Int) :
    places operand < 64 ∧ places operand ≡ operand [ZMOD 64] := by
  unfold places Int.ModEq
  omega

/-! ## Shifts -/

variable (a b : Int64)

/-- The amount of a shift of machine integers. -/
theorem toNat_smod : (b.toBitVec.smod 64).toNat = places b.toInt := by
  have hmod : (b.toBitVec.smod 64).toInt = b.toInt % 64 := by
    rw [BitVec.toInt_smod]
    exact Int.fmod_eq_emod_of_nonneg _ (by decide)
  have hbound := (b.toBitVec.smod 64).isLt
  rw [BitVec.toInt_eq_toNat_cond] at hmod
  unfold places
  split at hmod <;> omega

/-- A shift to the left multiplies by a power of two. -/
theorem toInt_shiftLeft_modEq :
    (a <<< b).toInt ≡ a.toInt * 2 ^ places b.toInt [ZMOD 2 ^ 64] := by
  have hshift : (a <<< b).toBitVec = a.toBitVec <<< places b.toInt := by
    rw [← toNat_smod]
    rfl
  have hnat : a.toInt ≡ a.toBitVec.toNat [ZMOD 2 ^ 64] := by
    have htoInt : a.toInt = (a.toBitVec.toNat : Int).bmod (2 ^ 64) := BitVec.toInt_eq_toNat_bmod _
    rw [htoInt]
    exact bmod_modEq _
  calc (a <<< b).toInt = (a.toBitVec <<< places b.toInt).toInt := congrArg BitVec.toInt hshift
    _ = ((a.toBitVec.toNat : Int) * 2 ^ places b.toInt).bmod (2 ^ 64) := by
      rw [BitVec.toInt_shiftLeft, Nat.shiftLeft_eq]
      push_cast
      rfl
    _ ≡ (a.toBitVec.toNat : Int) * 2 ^ places b.toInt [ZMOD 2 ^ 64] := bmod_modEq _
    _ ≡ a.toInt * 2 ^ places b.toInt [ZMOD 2 ^ 64] := hnat.symm.mul_right _

/-- A shift to the right divides by a power of two and rounds down. -/
theorem toInt_shiftRight_eq_fdiv : (a >>> b).toInt = a.toInt.fdiv (2 ^ places b.toInt) := by
  have hshift : (a >>> b).toBitVec = a.toBitVec.sshiftRight (places b.toInt) := by
    rw [← toNat_smod]
    rfl
  have hpos : (0 : Int) ≤ 2 ^ places b.toInt := Int.pow_nonneg (by decide)
  calc (a >>> b).toInt = (a.toBitVec.sshiftRight (places b.toInt)).toInt :=
      congrArg BitVec.toInt hshift
    _ = a.toInt / 2 ^ places b.toInt := by
      rw [BitVec.toInt_sshiftRight, Int.shiftRight_eq_div_pow]
      norm_cast
    _ = a.toInt.fdiv (2 ^ places b.toInt) := (Int.fdiv_eq_ediv_of_nonneg _ hpos).symm

/-! ## Results of machine integers -/

variable {op : CombineOp} {current operand r : Int64}

/-- A division by zero has no result. -/
theorem combine?_divide_zero : divide.combine? current 0 = none := rfl

/-- A result of machine integers is congruent to the exact one. -/
theorem modEq_of_combine? (h : op.combine? current operand = some r) :
    r.toInt ≡ op.exact current.toInt operand.toInt [ZMOD 2 ^ 64] := by
  cases op with
  | set =>
    cases h
    exact .refl _
  | add =>
    cases h
    refine eq_ofInt_iff.mp ?_
    rw [exact, Int64.ofInt_add, Int64.ofInt_toInt, Int64.ofInt_toInt]
  | subtract =>
    cases h
    refine eq_ofInt_iff.mp ?_
    rw [exact, Int64.ofInt_sub, Int64.ofInt_toInt, Int64.ofInt_toInt]
  | multiply =>
    cases h
    refine eq_ofInt_iff.mp ?_
    rw [exact, Int64.ofInt_mul, Int64.ofInt_toInt, Int64.ofInt_toInt]
  | divide =>
    rw [combine?] at h
    split at h
    · cases h
    · cases h
      rw [Int64.toInt_div]
      exact bmod_modEq _
  | leftShift =>
    cases h
    exact toInt_shiftLeft_modEq current operand
  | rightShift =>
    cases h
    rw [toInt_shiftRight_eq_fdiv]
    exact .refl _

/-! ## Operands of scripts and of variables -/

/-- The operation of an operator with an operand of the script. -/
def direct : CombineOp → Int64 → IntegerMod
  | set => .set
  | add => .add
  | subtract => .subtract
  | multiply => .multiply
  | divide => .divide
  | leftShift => .leftShift
  | rightShift => .rightShift

/-- An operation with an operand of the script has the result of the operator. -/
theorem nextInteger?_direct (s : Setting) :
    s.nextInteger? current (op.direct operand) = op.combine? current operand := by
  cases op <;> rfl

variable {s : Setting} {source : VariableRef}

/-- An operation with the operand of a described variable has the result of the operator. -/
theorem nextInteger?_combine (hsource : s.world.catalog.vars.contains source = true) :
    s.nextInteger? current (.combine op source) =
      op.combine? current (s.world.integer s.player source) := by
  rw [Setting.nextInteger?, if_pos hsource]

/-- It makes no difference whether an operand stands in the script or is held by a described
variable. -/
theorem modify_direct (hsource : s.world.catalog.vars.contains source = true)
    (running : Option Instance) (v : VariableRef) (syncsParty : Bool) :
    s.modify running v (.integer (op.direct (s.world.integer s.player source))) syncsParty =
      s.modify running v (.integer (.combine op source)) syncsParty := by
  have hnext (current : Value) :
      s.next? running (.integer (op.direct (s.world.integer s.player source))) current =
        s.next? running (.integer (.combine op source)) current := by
    cases current with
    | integer n =>
      rw [Setting.next?, Setting.next?, nextInteger?_direct, nextInteger?_combine hsource]
    | boolean | string => rfl
  have hdrawn : s.drawn (.integer (op.direct (s.world.integer s.player source))) = s := by
    cases op <;> rfl
  unfold Setting.modify
  simp only [hnext, hdrawn, VariableMod.dataType]
  rfl

/-- Operators are exact modulo 2 to the 64: there is no result exactly for a division by zero, and
the result is the only machine integer that is congruent to the exact one, where a shift is by the
operand modulo 64. An operand that a described variable holds leads to the same next value, and to
the same change of a variable, as one of the script. -/
theorem combine?_modEq_exact (op : CombineOp) (current operand : Int64) :
    (op.combine? current operand = none ↔ op = .divide ∧ operand = 0) ∧
      (∀ r, op.combine? current operand = some r ↔ ¬ (op = .divide ∧ operand = 0) ∧
        r.toInt ≡ op.exact current.toInt operand.toInt [ZMOD 2 ^ 64]) ∧
      (places operand.toInt < 64 ∧ places operand.toInt ≡ operand.toInt [ZMOD 64]) ∧
      ∀ (s : Setting) (source : VariableRef), s.world.catalog.vars.contains source = true →
        s.world.integer s.player source = operand →
        s.nextInteger? current (op.direct operand) = op.combine? current operand ∧
          s.nextInteger? current (.combine op source) = op.combine? current operand ∧
          ∀ running v syncsParty,
            s.modify running v (.integer (op.direct operand)) syncsParty =
              s.modify running v (.integer (.combine op source)) syncsParty := by
  have hnone : op.combine? current operand = none ↔ op = .divide ∧ operand = 0 := by
    constructor
    · exact combine?_eq_none
    · rintro ⟨rfl, rfl⟩
      exact combine?_divide_zero
  refine ⟨hnone, fun r => ⟨fun h => ⟨?_, modEq_of_combine? h⟩, ?_⟩,
    places_modEq operand.toInt, ?_⟩
  · rw [← hnone, h]
    exact Option.some_ne_none r
  · rintro ⟨hdefined, hr⟩
    obtain ⟨r', hr'⟩ := Option.ne_none_iff_exists'.mp (mt hnone.mp hdefined)
    rw [hr', eq_ofInt_iff.mpr hr, ← eq_ofInt_iff.mpr (modEq_of_combine? hr')]
  · rintro s source hsource rfl
    exact ⟨nextInteger?_direct s, nextInteger?_combine hsource, modify_direct hsource⟩

/-- A variable for a balance. -/
def balance : VariableDescriptor := ⟨⟨7⟩, .player, "Balance", .integer, "balance"⟩

/-- A player with one unit of debt. -/
def indebted : Setting where
  world := .start {} { DescriptorSet.empty with vars := [balance] }.catalog (.start 0)
    (.of (fun k => .ofNat 128 k) id)
  player := { Player.fresh ⟨3⟩ "Ann" .nil 1 1 with
    vars := .ofList [(balance.id, .integer (-1))] }

/-- The least number divided by a balance of minus one is the least number again. -/
theorem combine?_modEq_exact_indebted :
    indebted.world.catalog.vars.contains balance.ref = true ∧
      indebted.world.integer indebted.player balance.ref = -1 ∧
      indebted.nextInteger? Int64.minValue (.combine .divide balance.ref) =
        some Int64.minValue := by
  have hsource : indebted.world.catalog.vars.contains balance.ref = true := rfl
  have hoperand : indebted.world.integer indebted.player balance.ref = -1 := rfl
  obtain ⟨-, hresult, -, hsame⟩ := combine?_modEq_exact .divide Int64.minValue (-1)
  refine ⟨hsource, hoperand, ?_⟩
  rw [(hsame indebted balance.ref hsource hoperand).2.1, hresult]
  exact ⟨by decide, by decide⟩

end CombineOp

end EventScript
