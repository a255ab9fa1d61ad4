/-!
# Ordered tables

A table holds at most one value per key and keeps its entries in strictly ascending key order.
The order lives in the type, so a table has one representation: `Table.ext_get?` says that two
tables with the same lookups are equal, and every listing comes out in the same order.
-/

namespace EventScript

universe u v w

/-- A type whose values are identified and ordered by a list of numbers. -/
class Keyed (κ : Type u) where
  /-- The position of a key; keys are compared by it, number by number. -/
  rank : κ → List Nat
  /-- Different keys have different ranks. -/
  rank_injective : ∀ a b, rank a = rank b → a = b

open Keyed (rank rank_injective)

instance : Keyed UInt64 where
  rank n := [n.toNat]
  rank_injective a b h := by simpa [UInt64.toNat_inj] using h

/-- Texts are ordered by the code points of their characters. -/
instance : Keyed String where
  rank s := s.toList.map Char.toNat
  rank_injective a b h := by
    have hl : a.toList = b.toList := by
      refine List.map_inj_right (fun x y hxy => ?_) |>.mp h
      exact Char.toNat_inj.mp hxy
    exact String.toList_inj.mp hl

private theorem rank_trichotomy {κ : Type u} [Keyed κ] {a b : κ}
    (hab : ¬ rank a < rank b) (hba : ¬ rank b < rank a) : a = b :=
  rank_injective a b (List.le_antisymm (List.not_lt.mp hba) (List.not_lt.mp hab))

/-- A finite table with one value per key, in ascending key order. -/
structure Table (κ : Type u) (α : Type v) [Keyed κ] where
  /-- The entries, in order. -/
  entries : List (κ × α)
  /-- Every key comes before all later ones. -/
  ascending : entries.Pairwise fun a b => rank a.1 < rank b.1

namespace Table

variable {κ : Type u} {α : Type v} [Keyed κ]

instance [DecidableEq κ] [DecidableEq α] : DecidableEq (Table κ α)
  | ⟨a, _⟩, ⟨b, _⟩ =>
    if h : a = b then isTrue (by subst h; rfl)
    else isFalse fun he => h (congrArg entries he)

/-- The table without entries. -/
def empty : Table κ α := ⟨[], .nil⟩

instance : EmptyCollection (Table κ α) := ⟨empty⟩

instance : Inhabited (Table κ α) := ⟨empty⟩

/-- The value kept for a key. -/
def get? (t : Table κ α) (k : κ) : Option α :=
  (t.entries.find? fun e => rank e.1 == rank k).map (·.2)

/-- Whether a value is kept for the key. -/
def contains (t : Table κ α) (k : κ) : Bool := (t.get? k).isSome

/-- The keys in ascending order. -/
def keys (t : Table κ α) : List κ := t.entries.map (·.1)

/-- The values in ascending order of their keys. -/
def values (t : Table κ α) : List α := t.entries.map (·.2)

/-- The number of entries. -/
def size (t : Table κ α) : Nat := t.entries.length

/-- Whether there is no entry. -/
def isEmpty (t : Table κ α) : Bool := t.entries.isEmpty

private def insertEntry (k : κ) (a : α) : List (κ × α) → List (κ × α)
  | [] => [(k, a)]
  | e :: rest =>
    if rank k < rank e.1 then (k, a) :: e :: rest
    else if rank e.1 < rank k then e :: insertEntry k a rest
    else (k, a) :: rest

private theorem mem_insertEntry {k : κ} {a : α} {l : List (κ × α)} {e : κ × α}
    (h : e ∈ insertEntry k a l) : e = (k, a) ∨ e ∈ l := by
  induction l with
  | nil => simpa [insertEntry] using h
  | cons x rest ih =>
    simp only [insertEntry] at h
    split at h
    · simpa using h
    · split at h
      · rcases List.mem_cons.mp h with he | he
        · exact .inr (by simp [he])
        · rcases ih he with hk | hr
          · exact .inl hk
          · exact .inr (List.mem_cons_of_mem _ hr)
      · rcases List.mem_cons.mp h with he | he
        · exact .inl he
        · exact .inr (List.mem_cons_of_mem _ he)

private theorem ascending_insertEntry (k : κ) (a : α) {l : List (κ × α)}
    (h : l.Pairwise fun a b => rank a.1 < rank b.1) :
    (insertEntry k a l).Pairwise fun a b => rank a.1 < rank b.1 := by
  induction l with
  | nil => simp [insertEntry]
  | cons x rest ih =>
    have hx := List.pairwise_cons.mp h
    simp only [insertEntry]
    split
    next hlt =>
      refine List.pairwise_cons.mpr ⟨fun e he => ?_, h⟩
      rcases List.mem_cons.mp he with rfl | hr
      · exact hlt
      · exact List.lt_trans hlt (hx.1 e hr)
    next hnlt =>
      split
      next hgt =>
        refine List.pairwise_cons.mpr ⟨fun e he => ?_, ih hx.2⟩
        rcases mem_insertEntry he with rfl | hr
        · exact hgt
        · exact hx.1 e hr
      next hngt =>
        have hk : k = x.1 := rank_trichotomy hnlt hngt
        refine List.pairwise_cons.mpr ⟨fun e he => ?_, hx.2⟩
        rw [hk]
        exact hx.1 e he

/-- Keep a value for a key, in place of an earlier one. -/
def insert (t : Table κ α) (k : κ) (a : α) : Table κ α :=
  ⟨insertEntry k a t.entries, ascending_insertEntry k a t.ascending⟩

/-- Keep only the entries that pass a test. -/
def filter (t : Table κ α) (p : κ → α → Bool) : Table κ α :=
  ⟨t.entries.filter fun e => p e.1 e.2, t.ascending.filter _⟩

/-- Drop the entry of a key. -/
def erase (t : Table κ α) (k : κ) : Table κ α := t.filter fun k' _ => rank k' != rank k

/-- Change every value, keeping the keys. -/
def map {β : Type w} (t : Table κ α) (f : κ → α → β) : Table κ β :=
  ⟨t.entries.map fun e => (e.1, f e.1 e.2), by
    rw [List.pairwise_map]
    exact t.ascending⟩

/-- Change the value of a key, if there is one. -/
def modify (t : Table κ α) (k : κ) (f : α → α) : Table κ α :=
  match t.get? k with
  | some a => t.insert k (f a)
  | none => t

/-- The table of a list of entries; of two entries for a key the later one stays. -/
def ofList (l : List (κ × α)) : Table κ α := l.foldl (fun t e => t.insert e.1 e.2) empty

/-- The table of values that carry their own key. -/
def ofValues (key : α → κ) (l : List α) : Table κ α := ofList (l.map fun a => (key a, a))

@[simp] theorem get?_empty (k : κ) : (empty : Table κ α).get? k = none := rfl

private theorem find?_insertEntry (k j : κ) (a : α) {l : List (κ × α)}
    (h : l.Pairwise fun a b => rank a.1 < rank b.1) :
    (insertEntry k a l).find? (fun e => rank e.1 == rank j) =
      if rank k = rank j then some (k, a) else l.find? (fun e => rank e.1 == rank j) := by
  induction l with
  | nil => by_cases hk : rank k = rank j <;> simp [insertEntry, hk]
  | cons x rest ih =>
    have hx := List.pairwise_cons.mp h
    simp only [insertEntry]
    split
    · by_cases hk : rank k = rank j <;> simp [hk]
    next hnlt =>
      split
      next hgt =>
        have hne : rank x.1 ≠ rank k := fun he => List.lt_irrefl _ (he ▸ hgt)
        by_cases hk : rank k = rank j
        · have hxj : (rank x.1 == rank j) = false := by simpa [← hk] using hne
          rw [List.find?_cons, hxj, ih hx.2]
          simp [hk]
        · rw [List.find?_cons, List.find?_cons, ih hx.2]
          simp [hk]
      next hngt =>
        have hkx : k = x.1 := rank_trichotomy hnlt hngt
        by_cases hk : rank k = rank j
        · simp [hk]
        · have hxj : (rank x.1 == rank j) = false := by simpa [← hkx] using hk
          have hkj : (rank k == rank j) = false := by simpa using hk
          rw [List.find?_cons, List.find?_cons, hxj, hkj]
          simp [hk]

/-- A lookup after an insertion sees the new value under its key and the old table elsewhere. -/
theorem get?_insert (t : Table κ α) (k j : κ) (a : α) :
    (t.insert k a).get? j = if rank k = rank j then some a else t.get? j := by
  simp only [get?, insert, find?_insertEntry k j a t.ascending]
  split <;> rfl

@[simp] theorem get?_insert_self (t : Table κ α) (k : κ) (a : α) :
    (t.insert k a).get? k = some a := by
  simp [get?_insert]

theorem get?_insert_of_ne (t : Table κ α) {k j : κ} (a : α) (h : k ≠ j) :
    (t.insert k a).get? j = t.get? j := by
  have hr : rank k ≠ rank j := fun he => h (rank_injective k j he)
  simp [get?_insert, hr]

/-- A lookup after an erasure finds nothing under the erased key and the old value elsewhere. -/
theorem get?_erase (t : Table κ α) (k j : κ) :
    (t.erase k).get? j = if rank k = rank j then none else t.get? j := by
  simp only [get?, erase, filter]
  rw [List.find?_filter]
  by_cases h : rank k = rank j
  · have hn : ∀ e : κ × α, ¬ (decide ((rank e.1 != rank k) = true ∧ (rank e.1 == rank j) = true)) := by
      intro e
      simp only [h, decide_eq_true_eq, bne_iff_ne, ne_eq, beq_iff_eq]
      exact fun he => he.1 he.2
    rw [List.find?_eq_none.mpr fun e _ => hn e]
    simp [h]
  · simp only [h, ite_false]
    congr 2
    funext e
    by_cases he : rank e.1 = rank j
    · simp [he, Ne.symm h]
    · simp [he]

private theorem find?_eq_none_of_lt {l : List (κ × α)} {j : κ}
    (h : ∀ e ∈ l, rank j < rank e.1) : l.find? (fun e => rank e.1 == rank j) = none := by
  rw [List.find?_eq_none]
  intro e he hj
  have hr : rank e.1 = rank j := by simpa using hj
  exact List.lt_irrefl _ (hr ▸ h e he)

private theorem entries_ext {l m : List (κ × α)}
    (hl : l.Pairwise fun a b => rank a.1 < rank b.1)
    (hm : m.Pairwise fun a b => rank a.1 < rank b.1)
    (h : ∀ j : κ, (l.find? fun e => rank e.1 == rank j).map (·.2) =
      (m.find? fun e => rank e.1 == rank j).map (·.2)) : l = m := by
  induction l generalizing m with
  | nil =>
    cases m with
    | nil => rfl
    | cons y ys => have hy := h y.1; simp at hy
  | cons x xs ih =>
    cases m with
    | nil => have hx := h x.1; simp at hx
    | cons y ys =>
      have hpx := List.pairwise_cons.mp hl
      have hpy := List.pairwise_cons.mp hm
      have hxy : ¬ rank x.1 < rank y.1 := by
        intro hlt
        have hx := h x.1
        rw [find?_eq_none_of_lt (l := y :: ys)] at hx
        · simp at hx
        · intro e he
          rcases List.mem_cons.mp he with rfl | hr
          · exact hlt
          · exact List.lt_trans hlt (hpy.1 e hr)
      have hyx : ¬ rank y.1 < rank x.1 := by
        intro hlt
        have hy := h y.1
        rw [find?_eq_none_of_lt (l := x :: xs)] at hy
        · simp at hy
        · intro e he
          rcases List.mem_cons.mp he with rfl | hr
          · exact hlt
          · exact List.lt_trans hlt (hpx.1 e hr)
      have hk : x.1 = y.1 := rank_trichotomy hxy hyx
      have hv : x.2 = y.2 := by
        have hx := h x.1
        simpa [hk] using hx
      have htail : xs = ys := by
        refine ih hpx.2 hpy.2 fun j => ?_
        by_cases hj : rank x.1 = rank j
        · rw [find?_eq_none_of_lt fun e he => hj ▸ hpx.1 e he,
            find?_eq_none_of_lt fun e he => hj ▸ hk ▸ hpy.1 e he]
        · have ht := h j
          have hx : (rank x.1 == rank j) = false := by simpa using hj
          have hy : (rank y.1 == rank j) = false := by simpa [← hk] using hj
          simpa [List.find?_cons, hx, hy] using ht
      rw [htail, show x = y from Prod.ext hk hv]

/-- Two tables with the same lookups are equal. -/
theorem ext_get? {t s : Table κ α} (h : ∀ k, t.get? k = s.get? k) : t = s := by
  obtain ⟨l, hl⟩ := t
  obtain ⟨m, hm⟩ := s
  have he : l = m := entries_ext hl hm h
  subst he
  rfl

end Table

end EventScript
