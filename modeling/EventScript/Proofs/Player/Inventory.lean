import EventScript.Player.Inventory
import EventScript.Proofs.Bounded
import Mathlib.Data.List.Forall2
import Mathlib.Data.List.Nodup
import Mathlib.Data.List.ReduceOption

/-!
# Slots that are filled and emptied

An occupied slot holds at least one of its item. Where slots are changed one by one, each of them in
one of few ways, no slot comes or goes, no slot is left with less than one of its item, and no other
item is lost.
-/

namespace EventScript

namespace Inventory

variable {slots slots' : Inventory} {item : ItemId}

/-- Every occupied slot holds at least one of its item. -/
def IsFilled (slots : Inventory) : Prop := ∀ s, some s ∈ slots → 1 ≤ s.quantity

/-- An item is in some slot. -/
def Holds (slots : Inventory) (item : ItemId) : Prop := ∃ s, some s ∈ slots ∧ s.item = item

/-- The exact number of an item in all slots. -/
def total (item : ItemId) : Inventory → Int
  | [] => 0
  | some s :: rest => if s.item = item then s.quantity.toInt + total item rest else total item rest
  | none :: rest => total item rest

/-- An occupied slot in front is filled, and so are the others. -/
theorem isFilled_some_cons {s : InventorySlot} :
    IsFilled (some s :: slots) ↔ 1 ≤ s.quantity.toInt ∧ slots.IsFilled := by
  have hone : 1 ≤ s.quantity ↔ 1 ≤ s.quantity.toInt := Int64.le_iff_toInt_le 
  rw [← hone]
  constructor
  · intro h
    exact ⟨h s List.mem_cons_self, fun s' hs' => h s' (List.mem_cons_of_mem _ hs')⟩
  · rintro ⟨hs, hslots⟩ s' hs'
    rcases List.mem_cons.mp hs' with heq | hs'
    · cases heq
      exact hs
    · exact hslots s' hs'

/-- Behind an empty slot the others are filled. -/
theorem isFilled_none_cons : IsFilled (none :: slots) ↔ slots.IsFilled := by
  simp [IsFilled]

/-! ## Counting -/

/-- Where slots are filled no number of items is negative. -/
theorem total_nonneg (item : ItemId) (h : slots.IsFilled) : 0 ≤ total item slots := by
  induction slots with
  | nil => exact Int.le_refl 0
  | cons slot rest ih =>
    cases slot with
    | none => exact ih (isFilled_none_cons.mp h)
    | some s =>
      obtain ⟨hs, hrest⟩ := isFilled_some_cons.mp h
      have := ih hrest
      unfold total
      split <;> omega

/-- Items are counted exactly as long as their number fits. -/
theorem toInt_count (h : slots.IsFilled) (hfits : FitsInt64 (total item slots)) :
    (count item slots).toInt = total item slots := by
  induction slots with
  | nil => rfl
  | cons slot rest ih =>
    cases slot with
    | none => exact ih (isFilled_none_cons.mp h) hfits
    | some s =>
      obtain ⟨hs, hrest⟩ := isFilled_some_cons.mp h
      unfold total at hfits ⊢
      unfold count
      split
      · next hitem =>
        rw [if_pos hitem] at hfits
        have hnonneg := total_nonneg item hrest
        have hcount := ih hrest ⟨by omega, by have := hfits.2; omega⟩
        rw [← hcount] at hfits ⊢
        exact toInt_add_of_fits hfits
      · next hitem =>
        rw [if_neg hitem] at hfits
        exact ih hrest hfits

/-- An item that is counted is in some slot. -/
theorem holds_of_count_ne_zero (h : count item slots ≠ 0) : slots.Holds item := by
  induction slots with
  | nil => exact absurd rfl h
  | cons slot rest ih =>
    have hlater (hrest : Holds rest item) : Holds (slot :: rest) item := by
      obtain ⟨s, hs, hitem⟩ := hrest
      exact ⟨s, List.mem_cons_of_mem _ hs, hitem⟩
    cases slot with
    | none => exact hlater (ih h)
    | some s =>
      unfold count at h
      split at h
      · next hitem => exact ⟨s, List.mem_cons_self, hitem⟩
      · exact hlater (ih h)

/-! ## Changes slot by slot -/

/-- What may become of a slot: it stays empty, it is filled, it keeps its item, or it is emptied of
an item that may get lost. -/
inductive SlotChange (mayLose : ItemId → Prop) :
    Option InventorySlot → Option InventorySlot → Prop
  | empty : SlotChange mayLose none none
  | fill {s : InventorySlot} (filled : 1 ≤ s.quantity.toInt) : SlotChange mayLose none (some s)
  | keep {s s' : InventorySlot} (item : s'.item = s.item) (filled : 1 ≤ s'.quantity.toInt) :
      SlotChange mayLose (some s) (some s')
  | lose {s : InventorySlot} (may : mayLose s.item) : SlotChange mayLose (some s) none

variable {mayLose : ItemId → Prop}

/-- Slots that are changed are filled. -/
theorem isFilled_of_change (h : List.Forall₂ (SlotChange mayLose) slots slots') :
    slots'.IsFilled := by
  induction h with
  | nil => exact nofun
  | cons hslot _ ih =>
    cases hslot with
    | empty | lose => exact isFilled_none_cons.mpr ih
    | fill hs | keep _ hs => exact isFilled_some_cons.mpr ⟨hs, ih⟩

/-- An item that may not get lost is still there. -/
theorem Holds.of_change (hholds : slots.Holds item)
    (h : List.Forall₂ (SlotChange mayLose) slots slots') (hitem : ¬ mayLose item) :
    slots'.Holds item := by
  induction h with
  | nil => exact hholds
  | @cons slot slot' rest rest' hslot _ ih =>
    have hlater (hrest : Holds rest' item) : Holds (slot' :: rest') item := by
      obtain ⟨s, hs, hsame⟩ := hrest
      exact ⟨s, List.mem_cons_of_mem _ hs, hsame⟩
    obtain ⟨s, hs, hsame⟩ := hholds
    rcases List.mem_cons.mp hs with hfirst | hs
    · cases hslot with
      | empty | fill => cases hfirst
      | keep hkept =>
        cases hfirst
        exact ⟨_, List.mem_cons_self, hkept.trans hsame⟩
      | lose hmay =>
        cases hfirst
        exact absurd (hsame ▸ hmay) hitem
    · exact hlater (ih ⟨s, hs, hsame⟩)

/-- Changed slots are as many as before and filled, and no item is lost that may not be. -/
structure Keeps (mayLose : ItemId → Prop) (slots slots' : Inventory) : Prop where
  length : slots'.length = slots.length
  filled : slots'.IsFilled
  holds : ∀ item, ¬ mayLose item → slots.Holds item → slots'.Holds item

/-- Slots that are changed one by one. -/
theorem Keeps.of_change (h : List.Forall₂ (SlotChange mayLose) slots slots') :
    Keeps mayLose slots slots' where
  length := h.length_eq.symm
  filled := isFilled_of_change h
  holds _ hitem hholds := hholds.of_change h hitem

/-- Slots that are changed twice. -/
theorem Keeps.trans {slots'' : Inventory} (h : Keeps mayLose slots slots')
    (h' : Keeps mayLose slots' slots'') : Keeps mayLose slots slots'' where
  length := h'.length.trans h.length
  filled := h'.filled
  holds item hitem hholds := h'.holds item hitem (h.holds item hitem hholds)

end Inventory

/-! ## Spellbooks -/

namespace Spellbook

variable {book book' : Spellbook} {spell : SpellId}

/-- No spell is in the book twice. -/
def IsDistinct (book : Spellbook) : Prop := book.reduceOption.Nodup

/-- The first slot with the given contents divides the book. -/
theorem eq_append_of_replaceFirst? {old new : Option SpellId}
    (h : replaceFirst? old new book = some book') :
    ∃ before after, book = before ++ old :: after ∧ book' = before ++ new :: after := by
  induction book generalizing book' with
  | nil => cases h
  | cons slot rest ih =>
    unfold replaceFirst? at h
    split at h
    · next hslot =>
      cases h
      exact ⟨[], rest, congrArg (· :: rest) hslot, rfl⟩
    · obtain ⟨rest', hrest, rfl⟩ := Option.map_eq_some_iff.mp h
      obtain ⟨before, after, rfl, rfl⟩ := ih hrest
      exact ⟨slot :: before, after, rfl, rfl⟩

/-- The spells of a book with a slot in its middle. -/
theorem reduceOption_append_cons (before after : Spellbook) (slot : Option SpellId) :
    (before ++ slot :: after).reduceOption =
      before.reduceOption ++ (slot.toList ++ after.reduceOption) := by
  rw [List.reduceOption_append]
  cases slot <;> rfl

/-- A spell that is learned is a new one. -/
theorem learn?_eq_some (h : book.learn? spell = some book') :
    book'.length = book.length ∧ (book.IsDistinct → book'.IsDistinct) := by
  unfold learn? at h
  split at h
  · cases h
  · next hnew =>
    have hnew' : spell ∉ book.reduceOption := by
      rw [List.reduceOption_mem_iff]
      exact fun hmem => hnew (List.contains_iff_mem.mpr hmem)
    obtain ⟨before, after, rfl, rfl⟩ := eq_append_of_replaceFirst? h
    refine ⟨by simp, fun hdistinct => ?_⟩
    unfold IsDistinct at hdistinct ⊢
    rw [reduceOption_append_cons] at hdistinct hnew' ⊢
    exact List.nodup_middle.mpr (List.nodup_cons.mpr ⟨hnew', hdistinct⟩)

/-- Forgetting a spell repeats no other one. -/
theorem forget?_eq_some (h : book.forget? spell = some book') :
    book'.length = book.length ∧ (book.IsDistinct → book'.IsDistinct) := by
  obtain ⟨before, after, rfl, rfl⟩ := eq_append_of_replaceFirst? h
  refine ⟨by simp, fun hdistinct => ?_⟩
  unfold IsDistinct at hdistinct ⊢
  rw [reduceOption_append_cons] at hdistinct ⊢
  exact (List.nodup_cons.mp (List.nodup_middle.mp hdistinct)).2

end Spellbook

end EventScript
