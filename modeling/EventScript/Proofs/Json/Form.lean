import EventScript.Json.Form
import EventScript.Proofs.Table

/-!
# Lawful JSON forms

A form is lawful when every value is read back from its form, in either manner, and the form can
stand in a text: it nests at most a known number of levels, and its numbers are whole ones of 64
bits. The forms of numbers, texts, identifiers and names are lawful, and so are those of lists,
tables, pairs and optional values of a type with a lawful form.
-/

namespace EventScript

open EventScript.Text

namespace Json

mutual

/-- Whether a value nests at most a number of levels, and all numbers in it are whole ones of 64
bits. -/
def fits : Nat → Json → Bool
  | _, .null => true
  | _, .bool _ => true
  | _, .num n => decide (Int64.minValue.toInt ≤ n ∧ n < UInt64.size)
  | _, .real _ => false
  | _, .str _ => true
  | 0, .arr _ => false
  | levels + 1, .arr items => itemsFit levels items
  | 0, .obj _ => false
  | levels + 1, .obj members => membersFit levels members
  | _, .unreadable => false

/-- Whether all items fit. -/
def itemsFit : Nat → List Json → Bool
  | _, [] => true
  | levels, j :: rest => fits levels j && itemsFit levels rest

/-- Whether all members fit. -/
def membersFit : Nat → List (String × Json) → Bool
  | _, [] => true
  | levels, (_, j) :: rest => fits levels j && membersFit levels rest

end

theorem itemsFit_iff {levels : Nat} {items : List Json} :
    itemsFit levels items = true ↔ ∀ j ∈ items, j.fits levels = true := by
  induction items with
  | nil => simp [itemsFit]
  | cons j rest ih => simp [itemsFit, ih]

theorem membersFit_iff {levels : Nat} {members : List (String × Json)} :
    membersFit levels members = true ↔ ∀ e ∈ members, e.2.fits levels = true := by
  induction members with
  | nil => simp [membersFit]
  | cons e rest ih => simp [membersFit, ih]

/-- Items take one level. -/
theorem exists_of_fits_arr {l : Nat} {items : List Json} (h : (arr items).fits l = true) :
    ∃ n, l = n + 1 ∧ itemsFit n items = true := by
  cases l with
  | zero => simp [fits] at h
  | succ n => exact ⟨n, rfl, h⟩

/-- Members take one level. -/
theorem exists_of_fits_obj {l : Nat} {members : List (String × Json)}
    (h : (obj members).fits l = true) : ∃ n, l = n + 1 ∧ membersFit n members = true := by
  cases l with
  | zero => simp [fits] at h
  | succ n => exact ⟨n, rfl, h⟩

mutual

/-- What fits into some levels fits into more. -/
theorem fits_mono {l n : Nat} (hle : l ≤ n) : (j : Json) → j.fits l = true → j.fits n = true
  | .null, _ => by rw [fits]
  | .bool _, _ => by rw [fits]
  | .num _, h => by rwa [fits] at h ⊢
  | .real _, h => by simp [fits] at h
  | .str _, _ => by rw [fits]
  | .arr items, h => by
    obtain ⟨l, rfl, hitems⟩ := exists_of_fits_arr h
    obtain ⟨n, rfl⟩ := Nat.exists_eq_add_of_le' (Nat.lt_of_lt_of_le (Nat.succ_pos l) hle)
    exact itemsFit_mono (Nat.le_of_succ_le_succ hle) items hitems
  | .obj members, h => by
    obtain ⟨l, rfl, hmembers⟩ := exists_of_fits_obj h
    obtain ⟨n, rfl⟩ := Nat.exists_eq_add_of_le' (Nat.lt_of_lt_of_le (Nat.succ_pos l) hle)
    exact membersFit_mono (Nat.le_of_succ_le_succ hle) members hmembers
  | .unreadable, h => by simp [fits] at h

/-- Items that fit into some levels fit into more. -/
theorem itemsFit_mono {l n : Nat} (hle : l ≤ n) :
    (items : List Json) → itemsFit l items = true → itemsFit n items = true
  | [], _ => by rw [itemsFit]
  | j :: rest, h => by
    rw [itemsFit, Bool.and_eq_true] at h ⊢
    exact ⟨fits_mono hle j h.1, itemsFit_mono hle rest h.2⟩

/-- Members that fit into some levels fit into more. -/
theorem membersFit_mono {l n : Nat} (hle : l ≤ n) :
    (members : List (String × Json)) → membersFit l members = true → membersFit n members = true
  | [], _ => by rw [membersFit]
  | (_, j) :: rest, h => by
    rw [membersFit, Bool.and_eq_true] at h ⊢
    exact ⟨fits_mono hle j h.1, membersFit_mono hle rest h.2⟩

end

mutual

/-- What fits can be read. -/
theorem isReadable_of_fits {l : Nat} : (j : Json) → j.fits l = true → j.isReadable = true
  | .null, _ => by rw [isReadable] <;> simp
  | .bool _, _ => by rw [isReadable] <;> simp
  | .num _, _ => by rw [isReadable] <;> simp
  | .real _, _ => by rw [isReadable] <;> simp
  | .str _, _ => by rw [isReadable] <;> simp
  | .arr items, h => by
    obtain ⟨_, rfl, hitems⟩ := exists_of_fits_arr h
    exact areReadable_of_itemsFit items hitems
  | .obj members, h => by
    obtain ⟨_, rfl, hmembers⟩ := exists_of_fits_obj h
    exact areReadableMembers_of_membersFit members hmembers
  | .unreadable, h => by simp [fits] at h

/-- Items that fit can be read. -/
theorem areReadable_of_itemsFit {l : Nat} :
    (items : List Json) → itemsFit l items = true → areReadable items = true
  | [], _ => by rw [areReadable]
  | j :: rest, h => by
    rw [itemsFit, Bool.and_eq_true] at h
    rw [areReadable, Bool.and_eq_true]
    exact ⟨isReadable_of_fits j h.1, areReadable_of_itemsFit rest h.2⟩

/-- Members that fit can be read. -/
theorem areReadableMembers_of_membersFit {l : Nat} :
    (members : List (String × Json)) → membersFit l members = true →
      areReadableMembers members = true
  | [], _ => by rw [areReadableMembers]
  | (_, j) :: rest, h => by
    rw [membersFit, Bool.and_eq_true] at h
    rw [areReadableMembers, Bool.and_eq_true]
    exact ⟨isReadable_of_fits j h.1, areReadableMembers_of_membersFit rest h.2⟩

end

end Json

/-- What is read back one by one is read back as a list. -/
theorem mapM_map_of_reread {α β : Type} (write : α → β) {reread? : β → Option α}
    (h : ∀ a, reread? (write a) = some a) (l : List α) : (l.map write).mapM reread? = some l := by
  induction l with
  | nil => rfl
  | cons a rest ih =>
    rw [List.map_cons, List.mapM_cons, h, ih]
    rfl

/-- A type whose JSON forms are read back as the values they were written for, and fit into a number
of levels. -/
class LawfulForm (α : Type) [JsonForm α] where
  /-- How many levels the forms nest at most. -/
  levels : Nat
  /-- The forms do not nest deeper. -/
  fits : ∀ a : α, (toJson a).fits levels = true
  /-- A form is read back as the value, in either manner. -/
  read?_toJson : ∀ (m : Manner) (a : α), read? m (toJson a) = some a

/-- A type none of whose values is written as null. -/
class NonnullForm (α : Type) [JsonForm α] : Prop where
  /-- No form is null. -/
  toJson_ne_null : ∀ a : α, toJson a ≠ .null

/-- Names of members that are read back as the keys they were written for. -/
class LawfulTextKey (κ : Type) [TextKey κ] : Prop where
  /-- The name of a key is read back as the key. -/
  ofKeyText?_keyText : ∀ k : κ, TextKey.ofKeyText? (TextKey.keyText k) = some k

/-- Finitely many values, all of them listed, whose names differ. -/
class LawfulEnumerated (α : Type) [Enumerated α] : Prop where
  /-- The name of a value is read back as the value. -/
  ofName?_name : ∀ a : α, Enumerated.ofName? (Enumerated.name a) = some a

/-- The form of a value fits into any number of levels that is enough for its type. -/
theorem Json.fits_toJson {α : Type} [JsonForm α] [LawfulForm α] {n : Nat} (a : α)
    (h : LawfulForm.levels α ≤ n) : (toJson a).fits n = true :=
  fits_mono h _ (LawfulForm.fits a)

section Atoms

variable {α : Type} {κ : IdKind}

/-- A value that is written as its name. -/
instance [Enumerated α] [LawfulEnumerated α] : LawfulForm α where
  levels := 0
  fits _ := by rfl
  read?_toJson _ := LawfulEnumerated.ofName?_name

instance [Enumerated α] : NonnullForm α where
  toJson_ne_null _ := Json.noConfusion

instance : LawfulForm Bool where
  levels := 0
  fits _ := by rfl
  read?_toJson _ _ := rfl

instance : LawfulForm String where
  levels := 0
  fits _ := by rfl
  read?_toJson _ _ := rfl

instance : NonnullForm String where
  toJson_ne_null _ := Json.noConfusion

instance : LawfulForm (Id κ) where
  levels := 0
  fits _ := by rfl
  read?_toJson _ := Id.ofText?_text

instance : NonnullForm (Id κ) where
  toJson_ne_null _ := Json.noConfusion

/-- A number of 64 bits stands in any number of levels. -/
theorem Json.fits_num {n : Int} (l : Nat) (hlo : Int64.minValue.toInt ≤ n)
    (hhi : n < UInt64.size) : (Json.num n).fits l = true := by
  rw [Json.fits, decide_eq_true_eq]
  exact ⟨hlo, hhi⟩

instance : LawfulForm Int64 where
  levels := 0
  fits n := by
    have hhi : Int64.maxValue.toInt < UInt64.size := by decide
    exact Json.fits_num 0 n.minValue_le_toInt (Int.lt_of_le_of_lt n.toInt_le hhi)
  read?_toJson _ := int64?_toInt

instance : LawfulForm Int32 where
  levels := 0
  fits n := by
    have hlo : Int64.minValue.toInt ≤ Int32.minValue.toInt := by decide
    have hhi : Int32.maxValue.toInt < UInt64.size := by decide
    exact Json.fits_num 0 (Int.le_trans hlo n.minValue_le_toInt)
      (Int.lt_of_le_of_lt n.toInt_le hhi)
  read?_toJson _ := int32?_toInt

/-- A natural number of 64 bits stands in any number of levels. -/
theorem Json.fits_natCast {n : Nat} (l : Nat) (h : n < UInt64.size) :
    (Json.num n).fits l = true := by
  have hlo : Int64.minValue.toInt ≤ 0 := by decide
  exact fits_num l (Int.le_trans hlo (Int.natCast_nonneg n)) (Int.ofNat_lt.mpr h)

instance : LawfulForm UInt64 where
  levels := 0
  fits n := Json.fits_natCast 0 n.toNat_lt
  read?_toJson _ := uint64?_toNat

instance : LawfulForm UInt32 where
  levels := 0
  fits n := by
    have hsize : UInt32.size < UInt64.size := by decide
    exact Json.fits_natCast 0 (Nat.lt_trans n.toNat_lt hsize)
  read?_toJson _ := uint32?_toNat

instance : LawfulForm UInt8 where
  levels := 0
  fits n := by
    have hsize : UInt8.size < UInt64.size := by decide
    exact Json.fits_natCast 0 (Nat.lt_trans n.toNat_lt hsize)
  read?_toJson _ := uint8?_toNat

end Atoms

section Keys

instance {κ : IdKind} : LawfulTextKey (Id κ) where
  ofKeyText?_keyText := Id.ofText?_text

instance : LawfulTextKey UInt64 where
  ofKeyText?_keyText n := by
    have hdigits : Decimal.natural? (Decimal.render n.toNat).toList = some n.toNat := by
      rw [Decimal.render, String.toList_ofList]
      exact Decimal.natural?_digits n.toNat
    change ((Decimal.natural? (Decimal.render n.toNat).toList).bind fun k =>
      (uint64? k).bind fun i =>
        if Decimal.render k = Decimal.render n.toNat then some i else none) = some n
    rw [hdigits, Option.bind_some, uint64?_toNat, Option.bind_some, if_pos rfl]

end Keys

section Containers

variable {α β : Type} [JsonForm α] [LawfulForm α] [JsonForm β] [LawfulForm β]

instance : LawfulForm (List α) where
  levels := LawfulForm.levels α + 1
  fits as := by
    refine Json.itemsFit_iff.mpr fun j hj => ?_
    obtain ⟨a, _, rfl⟩ := List.mem_map.mp hj
    exact LawfulForm.fits a
  read?_toJson m as := by
    exact mapM_map_of_reread toJson (LawfulForm.read?_toJson m) as

/-- An empty value is written as null, which no other value is. -/
instance [NonnullForm α] : LawfulForm (Option α) where
  levels := LawfulForm.levels α
  fits
    | none => by
      change Json.null.fits _ = true
      rw [Json.fits]
    | some a => LawfulForm.fits a
  read?_toJson m
    | none => rfl
    | some a => by
      have hread : (read? m (toJson a)).map some = some (some a) := by
        rw [LawfulForm.read?_toJson, Option.map_some]
      rw [← hread]
      have hne := NonnullForm.toJson_ne_null a
      change read? m (toJson a) = _
      generalize toJson a = j at hne
      cases j with
      | null => exact absurd rfl hne
      | _ => rfl

instance : LawfulForm (α × β) where
  levels := max (LawfulForm.levels α) (LawfulForm.levels β) + 1
  fits p := by
    refine Json.itemsFit_iff.mpr fun j hj => ?_
    rcases List.mem_cons.mp hj with rfl | hj
    · exact Json.fits_toJson p.1 (Nat.le_max_left _ _)
    · rw [List.mem_singleton.mp hj]
      exact Json.fits_toJson p.2 (Nat.le_max_right _ _)
  read?_toJson m p := by
    change ((read? m (toJson p.1)).bind fun a => (read? m (toJson p.2)).bind fun b => some (a, b)) =
      some p
    rw [LawfulForm.read?_toJson, LawfulForm.read?_toJson]
    rfl

instance {κ : Type} [Keyed κ] [TextKey κ] [LawfulTextKey κ] : LawfulForm (Table κ α) where
  levels := LawfulForm.levels α + 1
  fits t := by
    refine Json.membersFit_iff.mpr fun e he => ?_
    obtain ⟨⟨k, a⟩, _, rfl⟩ := List.mem_map.mp he
    exact LawfulForm.fits a
  read?_toJson m t := by
    let readEntry (e : String × Json) : Option (κ × α) :=
      (TextKey.ofKeyText? e.1).bind fun k => (read? m e.2).bind fun a => some (k, a)
    have hentry (e : κ × α) : readEntry (TextKey.keyText e.1, toJson e.2) = some e := by
      simp only [readEntry]
      rw [LawfulTextKey.ofKeyText?_keyText, LawfulForm.read?_toJson]
      rfl
    change ((t.entries.map fun e => (TextKey.keyText e.1, toJson e.2)).mapM readEntry).bind
      (fun entries => some (Table.ofList entries)) = some t
    rw [mapM_map_of_reread _ hentry, Option.bind_some, Table.ofList_entries]

end Containers

end EventScript
