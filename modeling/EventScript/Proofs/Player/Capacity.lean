import EventScript.Player.Basic
import EventScript.Proofs.Player.Inventory
import EventScript.Proofs.Table

/-!
# How much fits into an inventory

What is put into an inventory fills up stacks and then empty slots, and what is taken out comes from
stacks of the item alone. So a change is told slot by slot, and its number is the sum over the slots.
The capacity is computed apart from the filling, and agrees with it: as many items are put in as the
capacity allows for, and none are lost or made on the way.
-/

namespace EventScript

namespace Inventory

variable {slots slots' slots'' : Inventory} {item : ItemId} {P : Int → Prop} {n m : Int}

/-! ## Changes that concern one item -/

/-- What may become of a slot when some of an item is put in, or taken out if the number is negative:
it stays as it is, or it has nothing but that item in it before and after. A quantity that is new has
a property, which zero must have for a slot to be emptied. -/
inductive SlotStep (item : ItemId) (P : Int → Prop) :
    Int → Option InventorySlot → Option InventorySlot → Prop
  | stay (slot : Option InventorySlot) : SlotStep item P 0 slot slot
  | fill {s : InventorySlot} (own : s.item = item) (filled : 1 ≤ s.quantity.toInt)
      (new : P s.quantity.toInt) : SlotStep item P s.quantity.toInt none (some s)
  | change {s s' : InventorySlot} (own : s.item = item) (own' : s'.item = item)
      (filled : 1 ≤ s'.quantity.toInt) (new : P s'.quantity.toInt) :
      SlotStep item P (s'.quantity.toInt - s.quantity.toInt) (some s) (some s')
  | clear {s : InventorySlot} (own : s.item = item) (new : P 0) :
      SlotStep item P (-s.quantity.toInt) (some s) none

/-- What may become of all slots, one after the other. -/
inductive Steps (item : ItemId) (P : Int → Prop) : Int → Inventory → Inventory → Prop
  | nil : Steps item P 0 [] []
  | cons {n m sum : Int} {slot slot' : Option InventorySlot} {slots slots' : Inventory}
      (first : SlotStep item P n slot slot') (rest : Steps item P m slots slots')
      (total : n + m = sum) : Steps item P sum (slot :: slots) (slot' :: slots')

/-- A number of an item was put into the slots, or taken out if it is negative, and nothing else was
changed. Quantities that are new have a property. -/
structure Moves (item : ItemId) (P : Int → Prop) (n : Int) (slots slots' : Inventory) : Prop where
  /-- There are as many slots as before. -/
  length : slots'.length = slots.length
  /-- The slots with other items are the same. -/
  others : ∀ (i : Nat) (s : InventorySlot), s.item ≠ item →
    (slots'[i]? = some (some s) ↔ slots[i]? = some (some s))
  /-- The counts of other items are the same. -/
  counts : ∀ other, other ≠ item → count other slots' = count other slots
  /-- The exact number of the item is changed by that number. -/
  total : total item slots' = total item slots + n
  /-- A slot is as it was before, or its quantity has the property. -/
  fresh : ∀ (i : Nat) (s : InventorySlot), slots'[i]? = some (some s) →
    slots[i]? = some (some s) ∨ P s.quantity.toInt

/-- A slot with another item stays. -/
theorem SlotStep.others {slot slot' : Option InventorySlot} (h : SlotStep item P n slot slot')
    {s : InventorySlot} (hs : s.item ≠ item) : slot' = some s ↔ slot = some s := by
  have hne {t : InventorySlot} (ht : t.item = item) : some t ≠ some s := by
    rintro ⟨⟩
    exact hs ht
  cases h with
  | stay => exact Iff.rfl
  | fill hown => exact iff_of_false (hne hown) nofun
  | change hown hown' => exact iff_of_false (hne hown') (hne hown)
  | clear hown => exact iff_of_false nofun (hne hown)

/-- A slot is as it was before, or its quantity is new. -/
theorem SlotStep.fresh {slot slot' : Option InventorySlot} (h : SlotStep item P n slot slot')
    {s : InventorySlot} (hs : slot' = some s) : slot = some s ∨ P s.quantity.toInt := by
  cases h with
  | stay => exact .inl hs
  | fill _ _ hnew | change _ _ _ hnew =>
    cases hs
    exact .inr hnew
  | clear => cases hs

/-- What becomes of all slots is a change of one item. -/
theorem Steps.moves (h : Steps item P n slots slots') : Moves item P n slots slots' where
  length := by
    induction h with
    | nil => rfl
    | cons _ _ _ ih => exact congrArg Nat.succ ih
  others i s hs := by
    induction h generalizing i with
    | nil => exact Iff.rfl
    | cons hfirst _ _ ih =>
      cases i with
      | zero => simpa using hfirst.others hs
      | succ i => exact ih i
  counts other hother := by
    induction h with
    | nil => rfl
    | @cons _ _ _ slot _ _ _ hfirst _ _ ih =>
      cases hfirst with
      | stay => cases slot <;> simp [count, ih]
      | fill hown | clear hown => simp [count, ih, hown, hother.symm]
      | change hown hown' => simp [count, ih, hown, hown', hother.symm]
  total := by
    induction h with
    | nil => rfl
    | @cons _ _ _ slot _ _ _ hfirst _ hsum ih =>
      cases hfirst with
      | stay =>
        cases slot with
        | none =>
          unfold Inventory.total
          omega
        | some s =>
          unfold Inventory.total
          split <;> omega
      | fill hown | clear hown =>
        simp only [Inventory.total, if_pos hown]
        omega
      | change hown hown' =>
        simp only [Inventory.total, if_pos hown, if_pos hown']
        omega
  fresh i s hs := by
    induction h generalizing i with
    | nil => exact .inl hs
    | cons hfirst _ _ ih =>
      cases i with
      | zero => simpa using hfirst.fresh (Option.some.inj hs)
      | succ i => exact ih i hs

/-- Slots that stay as they are. -/
theorem steps_self (slots : Inventory) : Steps item P 0 slots slots := by
  induction slots with
  | nil => exact .nil
  | cons slot rest ih => exact .cons (.stay slot) ih rfl

/-- One change after another. -/
theorem Moves.trans (h : Moves item P n slots slots') (h' : Moves item P m slots' slots'') :
    Moves item P (n + m) slots slots'' where
  length := h'.length.trans h.length
  others i s hs := (h'.others i s hs).trans (h.others i s hs)
  counts other hother := (h'.counts other hother).trans (h.counts other hother)
  total := by rw [h'.total, h.total, Int.add_assoc]
  fresh i s hs := by
    rcases h'.fresh i s hs with hs | hnew
    · exact h.fresh i s hs
    · exact .inr hnew

/-- Slots that are filled stay so, and at most the item that is taken out is lost. -/
theorem Steps.change {mayLose : ItemId → Prop} (h : Steps item P n slots slots')
    (hslots : slots.IsFilled) (hclear : P 0 → mayLose item) :
    List.Forall₂ (SlotChange mayLose) slots slots' := by
  induction h with
  | nil => exact .nil
  | @cons _ _ _ slot _ _ _ hfirst _ _ ih =>
    cases hfirst with
    | stay =>
      cases slot with
      | none => exact .cons .empty (ih (isFilled_none_cons.mp hslots))
      | some s =>
        obtain ⟨hs, hrest⟩ := isFilled_some_cons.mp hslots
        exact .cons (.keep rfl hs) (ih hrest)
    | fill _ hfilled => exact .cons (.fill hfilled) (ih (isFilled_none_cons.mp hslots))
    | change hown hown' hfilled =>
      exact .cons (.keep (hown'.trans hown.symm) hfilled) (ih (isFilled_some_cons.mp hslots).2)
    | clear hown hnew =>
      exact .cons (.lose (hown ▸ hclear hnew)) (ih (isFilled_some_cons.mp hslots).2)

/-! ## Putting items in -/

/-- The exact number of an item that its stacks can still take up to a limit. -/
def room (item : ItemId) (limit : Int) : Inventory → Int
  | [] => 0
  | some s :: rest =>
    if s.item = item then max (limit - s.quantity.toInt) 0 + room item limit rest
    else room item limit rest
  | none :: rest => room item limit rest

/-- There is room for nothing less than nothing. -/
theorem room_nonneg (item : ItemId) (limit : Int) (slots : Inventory) :
    0 ≤ room item limit slots := by
  induction slots with
  | nil => exact Int.le_refl 0
  | cons slot rest ih =>
    cases slot with
    | none => exact ih
    | some s =>
      unfold room
      split <;> omega

/-- The room in stacks is computed exactly as long as it fits. -/
theorem toInt_roomInStacks {limit : Int64} (h : slots.IsFilled) (hlimit : 1 ≤ limit.toInt)
    (hfits : FitsInt64 (room item limit.toInt slots)) :
    (roomInStacks item limit slots).toInt = room item limit.toInt slots := by
  induction slots with
  | nil => rfl
  | cons slot rest ih =>
    cases slot with
    | none => exact ih (isFilled_none_cons.mp h) hfits
    | some s =>
      obtain ⟨hs, hrest⟩ := isFilled_some_cons.mp h
      have hnonneg := room_nonneg item limit.toInt rest
      unfold room at hfits ⊢
      unfold roomInStacks
      split
      · next hitem =>
        rw [if_pos hitem] at hfits
        have hroom := ih hrest ⟨by omega, by have := hfits.2; omega⟩
        have hlimit' := limit.toInt_lt
        have hquantity := s.quantity.toInt_lt
        have hfree : (max (limit - s.quantity) 0).toInt = max (limit.toInt - s.quantity.toInt) 0 := by
          rw [toInt_max, toInt_sub_of_fits ⟨by omega, by omega⟩]
          rfl
        rw [← hroom, ← hfree] at hfits ⊢
        exact toInt_add_of_fits hfits
      · next hitem =>
        rw [if_neg hitem] at hfits
        exact ih hrest hfits

/-- What is put onto a stack up to a limit is exact. -/
theorem toInt_topUp {quantity limit left : Int64} (hquantity : 1 ≤ quantity.toInt)
    (hbelow : quantity < limit) (hleft : 0 ≤ left.toInt) :
    (quantity + min (limit - quantity) left).toInt =
        quantity.toInt + min (limit.toInt - quantity.toInt) left.toInt ∧
      (left - min (limit - quantity) left).toInt =
        left.toInt - min (limit.toInt - quantity.toInt) left.toInt := by
  rw [Int64.lt_iff_toInt_lt] at hbelow
  have hlimit := limit.toInt_lt
  have hadded : (min (limit - quantity) left).toInt =
      min (limit.toInt - quantity.toInt) left.toInt := by
    rw [toInt_min, toInt_sub_of_le (by omega) (by omega)]
  constructor
  · rw [toInt_add_of_fits ⟨by omega, by omega⟩, hadded]
  · rw [toInt_sub_of_le (by omega) (by omega), hadded]

/-- Stacks take as much as there is room for, and what they take is not left over. The empty slots
stay empty. -/
theorem steps_fillStacks (item : ItemId) (limit : Int64) {left : Int64} (h : slots.IsFilled)
    (hleft : 0 ≤ left.toInt) :
    (fillStacks item limit left slots).1.toInt = max (left.toInt - room item limit.toInt slots) 0 ∧
      (fillStacks item limit left slots).2.free = slots.free ∧
      Steps item (fun q => 1 ≤ q ∧ q ≤ limit.toInt) (min left.toInt (room item limit.toInt slots))
        slots (fillStacks item limit left slots).2 := by
  induction slots generalizing left with
  | nil =>
    refine ⟨?_, rfl, ?_⟩
    · simp only [fillStacks, room]
      omega
    · rw [show min left.toInt (room item limit.toInt []) = 0 from Int.min_eq_right hleft]
      exact .nil
  | cons slot rest ih =>
    cases slot with
    | none =>
      obtain ⟨hleft', hfree, hsteps⟩ := ih (isFilled_none_cons.mp h) hleft
      exact ⟨hleft', congrArg Nat.succ hfree, .cons (.stay none) hsteps (Int.zero_add _)⟩
    | some s =>
      obtain ⟨hs, hrest⟩ := isFilled_some_cons.mp h
      have hnonneg := room_nonneg item limit.toInt rest
      have hroom : room item limit.toInt (some s :: rest) =
          if s.item = item then max (limit.toInt - s.quantity.toInt) 0 + room item limit.toInt rest
          else room item limit.toInt rest := rfl
      unfold fillStacks
      split
      · next hzero =>
        have hall := room_nonneg item limit.toInt (some s :: rest)
        have hzero' : left.toInt = 0 := by
          rw [hzero]
          rfl
        refine ⟨?_, rfl, ?_⟩
        · rw [Int64.toInt_zero]
          omega
        · rw [hzero', Int.min_eq_left hall]
          exact steps_self _
      · split
        · next hstack =>
          obtain ⟨hquantity, hrests⟩ := toInt_topUp hs hstack.2 hleft
          have hbelow := Int64.lt_iff_toInt_lt.mp hstack.2
          rw [if_pos hstack.1] at hroom
          obtain ⟨hleft', hfree, hsteps⟩ := ih hrest
            (show 0 ≤ (left - min (limit - s.quantity) left).toInt by omega)
          have hfilled : 1 ≤ (s.quantity + min (limit - s.quantity) left).toInt := by omega
          refine ⟨by dsimp only; omega, hfree, .cons (.change hstack.1 hstack.1 hfilled ?_) hsteps ?_⟩
          · dsimp only
            omega
          · dsimp only
            omega
        · next hstack =>
          obtain ⟨hleft', hfree, hsteps⟩ := ih hrest hleft
          have hsame : room item limit.toInt (some s :: rest) = room item limit.toInt rest := by
            rw [hroom]
            split
            · next hitem =>
              have hfull : ¬ s.quantity.toInt < limit.toInt :=
                fun hbelow => hstack ⟨hitem, Int64.lt_iff_toInt_lt.mpr hbelow⟩
              omega
            · rfl
          rw [hsame]
          exact ⟨hleft', hfree, .cons (.stay _) hsteps (Int.zero_add _)⟩

/-- Empty slots take as much as a limit for each of them allows for. -/
theorem steps_fillEmpty {portion : Int64 → Int64} {left : Int64} {limit : Int} (hlimit : 1 ≤ limit)
    (hportion : ∀ left, 0 < left.toInt → (portion left).toInt = min limit left.toInt)
    (hnew : ∀ q, 1 ≤ q → q ≤ limit → P q) (hleft : 0 ≤ left.toInt) :
    Steps item P (min left.toInt (slots.free * limit)) slots (fillEmpty item portion left slots) := by
  induction slots generalizing left with
  | nil =>
    have hnone : ((free [] : Nat) : Int) * limit = 0 := Int.zero_mul limit
    rw [hnone, Int.min_eq_right hleft]
    exact .nil
  | cons slot rest ih =>
    cases slot with
    | some s => exact .cons (.stay _) (ih hleft) (Int.zero_add _)
    | none =>
      have hfree : ((free (none :: rest) : Nat) : Int) * limit = limit + free rest * limit := by
        rw [show free (none :: rest) = free rest + 1 from rfl, Int.natCast_add, Int.add_mul]
        omega
      have hothers : 0 ≤ (free rest : Int) * limit := Int.mul_nonneg (by omega) (by omega)
      rw [hfree]
      unfold fillEmpty
      split
      · next hzero =>
        rw [hzero, Int64.toInt_zero, Int.min_eq_left (by omega)]
        exact steps_self _
      · next hne =>
        have hne' : left.toInt ≠ 0 := fun hzero => hne (Int64.toInt_inj.mp hzero)
        have hfirst := hportion left (by omega)
        have hrests : (left - portion left).toInt = left.toInt - (portion left).toInt :=
          toInt_sub_of_le (by omega) (by omega)
        have hlater := ih (show 0 ≤ (left - portion left).toInt by omega)
        refine .cons (.fill rfl ?_ (hnew _ ?_ ?_)) hlater ?_
        all_goals
          dsimp only
          omega

/-- The exact number of an item that the slots can take, in stacks and in empty slots. -/
def space (item : ItemId) (stackable : Bool) (limit : Int) (slots : Inventory) : Int :=
  if stackable then room item limit slots + slots.free * limit else slots.free

/-- There is space for nothing less than nothing. -/
theorem space_nonneg (item : ItemId) (stackable : Bool) {limit : Int} (slots : Inventory)
    (hlimit : 0 ≤ limit) : 0 ≤ slots.space item stackable limit := by
  have hroom := room_nonneg item limit slots
  have hfree : 0 ≤ (slots.free : Int) * limit := Int.mul_nonneg (by omega) hlimit
  unfold space
  split <;> omega

/-- As much of an item is put in as there is space for. -/
theorem moves_insert (item : ItemId) {quantity : Int64} (stackable : Bool) (maxStack : Int64)
    (h : slots.IsFilled) (hquantity : 0 ≤ quantity.toInt) :
    Moves item (fun q => 1 ≤ q ∧ q ≤ max maxStack.toInt 1)
        (min quantity.toInt (slots.space item stackable (max maxStack.toInt 1))) slots
        (slots.insert item quantity stackable maxStack) ∧
      ∀ mayLose, Keeps mayLose slots (slots.insert item quantity stackable maxStack) := by
  cases stackable with
  | false =>
    have hsteps : Steps item (fun q => 1 ≤ q ∧ q ≤ max maxStack.toInt 1)
        (min quantity.toInt (slots.free * 1)) slots (fillEmpty item (fun _ => 1) quantity slots) :=
      steps_fillEmpty (Int.le_refl 1) (fun left hleft => (Int.min_eq_left hleft).symm)
        (fun q _ _ => ⟨by omega, by omega⟩) hquantity
    rw [Int.mul_one] at hsteps
    exact ⟨hsteps.moves, fun _ => .of_change (hsteps.change h fun hzero => by omega)⟩
  | true =>
    have hlimit : (max maxStack 1).toInt = max maxStack.toInt 1 := toInt_max ..
    obtain ⟨hleft, hsame, hstacks⟩ := steps_fillStacks item (max maxStack 1) h hquantity
    have hleft' : 0 ≤ (fillStacks item (max maxStack 1) quantity slots).1.toInt := by omega
    have hempty : Steps item (fun q => 1 ≤ q ∧ q ≤ (max maxStack 1).toInt)
        (min (fillStacks item (max maxStack 1) quantity slots).1.toInt
          ((fillStacks item (max maxStack 1) quantity slots).2.free * (max maxStack 1).toInt))
        (fillStacks item (max maxStack 1) quantity slots).2
        (slots.insert item quantity true maxStack) :=
      steps_fillEmpty (by omega) (fun left _ => toInt_min ..) (fun q hone hle => ⟨hone, hle⟩) hleft'
    constructor
    · -- What the stacks do not take is left for the empty slots, so both together take the minimum.
      have hmoves := hstacks.moves.trans hempty.moves
      have hroom := room_nonneg item (max maxStack.toInt 1) slots
      have hfree : 0 ≤ (slots.free : Int) * max maxStack.toInt 1 :=
        Int.mul_nonneg (by omega) (by omega)
      have hsum : min quantity.toInt (room item (max maxStack.toInt 1) slots) +
          min (max (quantity.toInt - room item (max maxStack.toInt 1) slots) 0)
            (slots.free * max maxStack.toInt 1) =
          min quantity.toInt (slots.space item true (max maxStack.toInt 1)) := by
        show _ = min quantity.toInt
          (room item (max maxStack.toInt 1) slots + slots.free * max maxStack.toInt 1)
        omega
      rw [hsame, hleft, hlimit, hsum] at hmoves
      exact hmoves
    · intro mayLose
      have hfirst : Keeps mayLose slots (fillStacks item (max maxStack 1) quantity slots).2 :=
        .of_change (hstacks.change h fun hzero => by omega)
      exact hfirst.trans (.of_change (hempty.change hfirst.filled fun hzero => by omega))

/-- Putting items in loses no item. -/
theorem keeps_insert (mayLose : ItemId → Prop) (item : ItemId) {quantity : Int64}
    (stackable : Bool) (maxStack : Int64) (h : slots.IsFilled) (hquantity : 0 ≤ quantity.toInt) :
    Keeps mayLose slots (slots.insert item quantity stackable maxStack) :=
  (moves_insert item stackable maxStack h hquantity).2 mayLose

/-- The sums over the slots that are taken when some of an item is put in are machine integers, and
so is the number of the item afterwards. -/
structure SumsFit (slots : Inventory) (item : ItemId) (stackable : Bool) (maxStack : Int64)
    (added : Int) : Prop where
  free : FitsInt64 slots.free
  room : stackable = true → FitsInt64 (room item (max maxStack 1).toInt slots)
  total : FitsInt64 (total item slots + added)

/-- The capacity is the space there is, as far as that is a machine integer. -/
theorem toInt_capacity {stackable : Bool} {maxStack : Int64} {added : Int} (h : slots.IsFilled)
    (hfits : slots.SumsFit item stackable maxStack added) :
    (slots.capacity item stackable maxStack).toInt =
      min (2 ^ 63 - 1) (slots.space item stackable (max maxStack.toInt 1)) := by
  have hlast := hfits.free.2
  have hfree : (Int64.ofNat slots.free).toInt = slots.free :=
    Int64.toInt_ofNat_of_lt (by omega)
  cases stackable with
  | false =>
    refine hfree.trans (Int.min_eq_right ?_).symm
    show (slots.free : Int) ≤ 2 ^ 63 - 1
    omega
  | true =>
    have hlimit : (max maxStack 1).toInt = max maxStack.toInt 1 := toInt_max ..
    have hnonneg := room_nonneg item (max maxStack.toInt 1) slots
    have hspace : 0 ≤ (slots.free : Int) * max maxStack.toInt 1 :=
      Int.mul_nonneg (by omega) (by omega)
    show (satAdd (roomInStacks item (max maxStack 1) slots)
      (satMul (Int64.ofNat slots.free) (max maxStack 1))).toInt = min (2 ^ 63 - 1)
        (Inventory.room item (max maxStack.toInt 1) slots + slots.free * max maxStack.toInt 1)
    rw [toInt_satAdd, toInt_satMul, hfree, toInt_roomInStacks h (by omega) (hfits.room rfl), hlimit]
    omega

/-- A capacity is not negative. -/
theorem capacity_nonneg {stackable : Bool} {maxStack : Int64} {added : Int} (h : slots.IsFilled)
    (hfits : slots.SumsFit item stackable maxStack added) :
    0 ≤ (slots.capacity item stackable maxStack).toInt := by
  have hspace := slots.space_nonneg item stackable (show 0 ≤ max maxStack.toInt 1 by omega)
  rw [toInt_capacity h hfits]
  omega

/-! ## Taking items out -/

/-- As much of an item is taken out as there is, and what is taken out is not left to take. -/
theorem steps_take (item : ItemId) {left : Int64} (h : slots.IsFilled) (hleft : 0 ≤ left.toInt) :
    (take item left slots).1.toInt = max (left.toInt - total item slots) 0 ∧
      Steps item (0 ≤ ·) (-min left.toInt (total item slots)) slots (take item left slots).2 := by
  induction slots generalizing left with
  | nil =>
    refine ⟨?_, ?_⟩
    · simp only [take, total]
      omega
    · rw [show min left.toInt (total item []) = 0 from Int.min_eq_right hleft]
      exact .nil
  | cons slot rest ih =>
    cases slot with
    | none =>
      obtain ⟨hleft', hsteps⟩ := ih (isFilled_none_cons.mp h) hleft
      exact ⟨hleft', .cons (.stay none) hsteps (Int.zero_add _)⟩
    | some s =>
      obtain ⟨hs, hrest⟩ := isFilled_some_cons.mp h
      have hnonneg := total_nonneg item hrest
      have htotal : total item (some s :: rest) =
          if s.item = item then s.quantity.toInt + total item rest else total item rest := rfl
      unfold take
      split
      · next hzero =>
        have hall := total_nonneg item h
        have hzero' : left.toInt = 0 := by
          rw [hzero]
          rfl
        refine ⟨?_, ?_⟩
        · rw [Int64.toInt_zero]
          omega
        · rw [hzero', Int.min_eq_left hall]
          exact steps_self _
      · split
        · next hitem =>
          rw [if_pos hitem] at htotal
          have htaken := toInt_min s.quantity left
          have hrests : (left - min s.quantity left).toInt =
              left.toInt - min s.quantity.toInt left.toInt := by
            rw [toInt_sub_of_le (by omega) (by omega), htaken]
          have hkept : (s.quantity - min s.quantity left).toInt =
              s.quantity.toInt - min s.quantity.toInt left.toInt := by
            rw [toInt_sub_of_le (by omega) (by omega), htaken]
          obtain ⟨hleft', hsteps⟩ := ih hrest
            (show 0 ≤ (left - min s.quantity left).toInt by omega)
          refine ⟨by dsimp only; omega, ?_⟩
          dsimp only
          split
          · next hzero =>
            have hzero' := congrArg Int64.toInt hzero
            rw [Int64.toInt_zero] at hzero'
            exact .cons (.clear hitem (Int.le_refl 0)) hsteps (by omega)
          · next hne =>
            have hne' : (s.quantity - min s.quantity left).toInt ≠ 0 :=
              fun hzero => hne (Int64.toInt_inj.mp hzero)
            refine .cons (.change hitem hitem ?_ ?_) hsteps ?_
            all_goals
              dsimp only
              omega
        · next hitem =>
          rw [if_neg hitem] at htotal
          obtain ⟨hleft', hsteps⟩ := ih hrest hleft
          rw [htotal]
          exact ⟨hleft', .cons (.stay _) hsteps (Int.zero_add _)⟩

/-- Of the items that are taken out some may be lost, and no others. -/
theorem keeps_take (item : ItemId) {left : Int64} (h : slots.IsFilled) (hleft : 0 ≤ left.toInt) :
    Keeps (· = item) slots (take item left slots).2 :=
  .of_change ((steps_take item h hleft).2.change h fun _ => rfl)

end Inventory

/-! ## Players with more or fewer items -/

namespace Player

open Inventory (Moves SumsFit total)

variable {p q : Player} {item : ItemId} {quantity : Int64} {limit n : Int}

/-- A player has a number of an item more than before, in stacks that hold no more than a limit
unless they did before, and is the same otherwise. -/
structure Gains (item : ItemId) (limit n : Int) (p q : Player) : Prop where
  moves : Moves item (fun k => 1 ≤ k ∧ k ≤ limit) n p.inventory q.inventory
  count : (q.itemCount item).toInt = (p.itemCount item).toInt + n
  filled : q.inventory.IsFilled
  rest : q = { p with inventory := q.inventory }

/-- A player has a number of an item fewer than before, does not wear it any more if none is left,
and is the same otherwise. -/
structure Loses (item : ItemId) (n : Int) (p q : Player) : Prop where
  moves : Moves item (0 ≤ ·) (-n) p.inventory q.inventory
  count : (q.itemCount item).toInt = (p.itemCount item).toInt - n
  filled : q.inventory.IsFilled
  equipment : ∀ slot, q.equipment.get? slot =
    if q.itemCount item = 0 ∧ p.equipment.get? slot = some item then none
    else p.equipment.get? slot
  rest : q = { p with inventory := q.inventory, equipment := q.equipment }

/-- A player who gets nothing. -/
theorem Gains.self (h : p.inventory.IsFilled) : p.Gains item limit 0 p where
  moves := (Inventory.steps_self p.inventory).moves
  count := (Int.add_zero _).symm
  filled := h
  rest := rfl

/-- As many items are put in as there is capacity for. -/
theorem gains_insertItems {stackable : Bool} {maxStack : Int64} (h : p.inventory.IsFilled)
    (hquantity : 0 ≤ quantity.toInt)
    (hfits : p.inventory.SumsFit item stackable maxStack
      (min quantity.toInt (p.inventory.capacity item stackable maxStack).toInt)) :
    p.Gains item (max maxStack.toInt 1)
      (min quantity.toInt (p.inventory.capacity item stackable maxStack).toInt)
      (p.insertItems item quantity stackable maxStack) := by
  obtain ⟨hmoves, hkeeps⟩ := Inventory.moves_insert item stackable maxStack h hquantity
  have hfilled := (hkeeps fun _ => False).filled
  have hlast := quantity.toInt_lt
  have hcapacity := Inventory.toInt_capacity h hfits
  have hadded : min quantity.toInt
      (p.inventory.space item stackable (max maxStack.toInt 1)) = min quantity.toInt
        (p.inventory.capacity item stackable maxStack).toInt := by omega
  rw [hadded] at hmoves
  refine ⟨hmoves, ?_, hfilled, rfl⟩
  have hnonneg := Inventory.total_nonneg item h
  have hcapacity' := Inventory.capacity_nonneg h hfits
  have hbefore : (p.itemCount item).toInt = total item p.inventory :=
    Inventory.toInt_count h ⟨by omega, by have := hfits.total.2; omega⟩
  have hafter := hmoves.total
  rw [hbefore, ← hafter]
  exact Inventory.toInt_count hfilled (hafter ▸ hfits.total)

/-- As many items are taken out as there are, and the number taken is told. -/
theorem loses_removeItems (h : p.inventory.IsFilled) (hquantity : 0 ≤ quantity.toInt)
    (hfits : FitsInt64 (total item p.inventory)) :
    (p.removeItems item quantity).1.toInt = min quantity.toInt (p.itemCount item).toInt ∧
      p.Loses item (min quantity.toInt (p.itemCount item).toInt)
        (p.removeItems item quantity).2 := by
  obtain ⟨hleft, hsteps⟩ := Inventory.steps_take item h hquantity
  have hmoves := hsteps.moves
  have hfilled := (Inventory.keeps_take item h hquantity).filled
  have hnonneg := Inventory.total_nonneg item h
  have hbefore : (p.itemCount item).toInt = total item p.inventory := Inventory.toInt_count h hfits
  have hinventory : (p.removeItems item quantity).2.inventory =
      (Inventory.take item quantity p.inventory).2 := by
    unfold removeItems
    dsimp only
    split <;> rfl
  have hafter : ((p.removeItems item quantity).2.itemCount item).toInt =
      total item (Inventory.take item quantity p.inventory).2 := by
    unfold itemCount
    rw [hinventory]
    have htotal := hmoves.total
    exact Inventory.toInt_count hfilled ⟨by omega, by have := hfits.2; omega⟩
  refine ⟨?_, ?_, ?_, ?_, ?_, ?_⟩
  · show (quantity - (Inventory.take item quantity p.inventory).1).toInt = _
    rw [toInt_sub_of_le (by omega) (by omega)]
    omega
  · rw [hinventory, hbefore]
    exact hmoves
  · rw [hafter, hmoves.total, hbefore]
    omega
  · rw [hinventory]
    exact hfilled
  · intro slot
    unfold removeItems
    dsimp only
    split
    · next hnone =>
      rw [Table.get?_filter_ne]
      exact if_congr (and_iff_right hnone).symm rfl rfl
    · next hsome => exact (if_neg fun hnone => hsome hnone.1).symm
  · unfold removeItems
    dsimp only
    split <;> rfl

/-- What is put in is what there was capacity for, and what is taken out is what there was; nothing
else is changed, except that what is used up is not worn any more. -/
theorem exact_insertItems_removeItems (h : p.inventory.IsFilled) (item : ItemId)
    (hquantity : 0 ≤ quantity.toInt) :
    (∀ stackable maxStack,
      p.inventory.SumsFit item stackable maxStack
        (min quantity.toInt (p.inventory.capacity item stackable maxStack).toInt) →
      p.Gains item (max maxStack.toInt 1)
        (min quantity.toInt (p.inventory.capacity item stackable maxStack).toInt)
        (p.insertItems item quantity stackable maxStack)) ∧
    (FitsInt64 (total item p.inventory) →
      (p.removeItems item quantity).1.toInt = min quantity.toInt (p.itemCount item).toInt ∧
        p.Loses item (min quantity.toInt (p.itemCount item).toInt)
          (p.removeItems item quantity).2) :=
  ⟨fun _ _ hfits => gains_insertItems h hquantity hfits,
    fun hfits => loses_removeItems h hquantity hfits⟩

/-- A player with a stack of potions to fill up, one that is too large, a ring, and both in use. -/
def carrier : Player :=
  { Player.fresh ⟨3⟩ "Ann" .nil 0 0 with
    inventory := [some ⟨⟨7⟩, 3⟩, none, some ⟨⟨8⟩, 1⟩, some ⟨⟨7⟩, 9⟩, none]
    equipment := (Table.empty.insert 0 ⟨7⟩).insert 1 ⟨8⟩ }

/-- Of twenty potions twelve are put in, and of twenty twelve are taken out. -/
theorem exact_carrier :
    (carrier.Gains ⟨7⟩ 5 12 (carrier.insertItems ⟨7⟩ 20 true 5) ∧
      (carrier.insertItems ⟨7⟩ 20 true 5).inventory =
        [some ⟨⟨7⟩, 5⟩, some ⟨⟨7⟩, 5⟩, some ⟨⟨8⟩, 1⟩, some ⟨⟨7⟩, 9⟩, some ⟨⟨7⟩, 5⟩]) ∧
    (carrier.removeItems ⟨7⟩ 20).1.toInt = 12 ∧
      carrier.Loses ⟨7⟩ 12 (carrier.removeItems ⟨7⟩ 20).2 ∧
      (carrier.removeItems ⟨7⟩ 20).2.inventory = [none, none, some ⟨⟨8⟩, 1⟩, none, none] ∧
      (carrier.removeItems ⟨7⟩ 20).2.equipment.values = [⟨8⟩] := by
  have hfilled : carrier.inventory.IsFilled := by
    refine Inventory.isFilled_some_cons.mpr ⟨by decide, Inventory.isFilled_none_cons.mpr ?_⟩
    refine Inventory.isFilled_some_cons.mpr ⟨by decide, ?_⟩
    exact Inventory.isFilled_some_cons.mpr ⟨by decide, by simp [Inventory.IsFilled]⟩
  obtain ⟨hgains, hloses⟩ := exact_insertItems_removeItems hfilled ⟨7⟩
    (show 0 ≤ (20 : Int64).toInt by decide)
  have hfits : carrier.inventory.SumsFit ⟨7⟩ true 5 12 :=
    ⟨⟨by decide, by decide⟩, fun _ => ⟨by decide, by decide⟩, ⟨by decide, by decide⟩⟩
  exact ⟨⟨hgains true 5 hfits, rfl⟩, (hloses ⟨by decide, by decide⟩).1,
    (hloses ⟨by decide, by decide⟩).2, rfl, rfl⟩

end Player

end EventScript
