import Mathlib.Algebra.GroupWithZero.Nat
import Mathlib.Data.List.Nodup
import EventScript.Id
import EventScript.Table

/-!
# Lookups in tables

A table is what its lookups say. Every listing and every change of a table is told by lookups here.
-/

namespace EventScript.Table

open Keyed (rank rank_injective)

universe u v w

variable {κ : Type u} {α : Type v} [Keyed κ]

/-- Keys are equal when their ranks are. -/
theorem rank_inj {a b : κ} : rank a = rank b ↔ a = b :=
  ⟨rank_injective a b, fun h => h ▸ rfl⟩

/-- In ascending entries only one has a given key. -/
theorem find?_eq_some_of_mem {l : List (κ × α)} (h : l.Pairwise fun a b => rank a.1 < rank b.1)
    {k : κ} {a : α} (hmem : (k, a) ∈ l) : l.find? (fun e => rank e.1 == rank k) = some (k, a) := by
  induction l with
  | nil => cases hmem
  | cons e rest ih =>
    obtain ⟨hfirst, hrest⟩ := List.pairwise_cons.mp h
    rw [List.find?_cons]
    rcases List.mem_cons.mp hmem with rfl | hmem
    · rw [beq_self_eq_true]
    · have hne : (rank e.1 == rank k) = false := by
        rw [beq_eq_false_iff_ne]
        intro heq
        exact List.lt_irrefl _ (heq ▸ hfirst _ hmem)
      rw [hne]
      exact ih hrest hmem

/-- The entries are the successful lookups. -/
theorem mem_entries_iff {t : Table κ α} {k : κ} {a : α} :
    (k, a) ∈ t.entries ↔ t.get? k = some a := by
  constructor
  · intro h
    unfold get?
    rw [find?_eq_some_of_mem t.ascending h]
    rfl
  · intro h
    obtain ⟨⟨j, b⟩, hfind, rfl⟩ := Option.map_eq_some_iff.mp h
    have hj : rank j = rank k := by simpa using List.find?_some hfind
    rw [← rank_injective _ _ hj]
    exact List.mem_of_find?_eq_some hfind

/-- The values are those that lookups find. -/
theorem mem_values_iff {t : Table κ α} {a : α} : a ∈ t.values ↔ ∃ k, t.get? k = some a := by
  unfold values
  rw [List.mem_map]
  constructor
  · rintro ⟨⟨k, b⟩, hmem, rfl⟩
    exact ⟨k, mem_entries_iff.mp hmem⟩
  · rintro ⟨k, hk⟩
    exact ⟨(k, a), mem_entries_iff.mpr hk, rfl⟩

/-- A table without values is empty. -/
theorem eq_empty_of_values {t : Table κ α} (h : t.values = []) : t = empty := by
  apply ext_get?
  intro k
  rw [get?_empty, Option.eq_none_iff_forall_ne_some]
  intro a ha
  have hmem := mem_values_iff.mpr ⟨k, ha⟩
  rw [h] at hmem
  cases hmem

/-- The keys are different. -/
theorem nodup_keys (t : Table κ α) : t.keys.Nodup := by
  unfold keys List.Nodup
  rw [List.pairwise_map]
  refine t.ascending.imp fun hlt heq => ?_
  rw [heq] at hlt
  exact List.lt_irrefl _ hlt

/-- The keys are those that a value is kept for. -/
theorem mem_keys_iff {t : Table κ α} {k : κ} : k ∈ t.keys ↔ t.contains k = true := by
  unfold keys contains
  rw [List.mem_map, Option.isSome_iff_exists]
  constructor
  · rintro ⟨⟨_, a⟩, hmem, rfl⟩
    exact ⟨a, mem_entries_iff.mp hmem⟩
  · rintro ⟨a, ha⟩
    exact ⟨(k, a), mem_entries_iff.mpr ha, rfl⟩

/-- The keys of a list of entries are those of its table. -/
theorem mem_keys_ofList {l : List (κ × α)} {k : κ} : k ∈ (ofList l).keys ↔ k ∈ l.map Prod.fst := by
  have hfold (t : Table κ α) :
      (l.foldl (fun t e => t.insert e.1 e.2) t).contains k = true ↔
        t.contains k = true ∨ k ∈ l.map Prod.fst := by
    induction l generalizing t with
    | nil => simp
    | cons e rest ih =>
      have hinsert : (t.insert e.1 e.2).contains k = true ↔ k = e.1 ∨ t.contains k = true := by
        unfold contains
        rw [get?_insert]
        split
        · next hk => simp [rank_inj.mp hk]
        · next hk => simp [mt rank_inj.mpr (Ne.symm hk)]
      rw [List.foldl_cons, ih, hinsert, List.map_cons, List.mem_cons, or_comm (a := k = e.1),
        or_assoc]
  rw [mem_keys_iff]
  unfold ofList
  rw [hfold]
  simp [contains]

/-- Identifiers that are keys are in ascending order. -/
theorem ascending_keys {kind : IdKind} (t : Table (Id kind) α) :
    t.keys.Pairwise fun a b => a.value.toNat < b.value.toNat := by
  unfold keys
  rw [List.pairwise_map]
  refine t.ascending.imp fun hlt => ?_
  simpa [Keyed.rank, List.cons_lt_cons_iff] using hlt

/-- Inserting what is there. -/
theorem insert_of_get? {t : Table κ α} {k : κ} {a : α} (h : t.get? k = some a) :
    t.insert k a = t := by
  apply ext_get?
  intro j
  rw [get?_insert]
  split
  · next hj => rw [← rank_inj.mp hj, h]
  · rfl

/-- The lookups in a table of entries with ascending keys. -/
theorem get?_foldl_insert {l : List (κ × α)} (h : l.Pairwise fun a b => rank a.1 < rank b.1)
    (t : Table κ α) (k : κ) :
    (l.foldl (fun t e => t.insert e.1 e.2) t).get? k =
      ((l.find? fun e => rank e.1 == rank k).map (·.2)).or (t.get? k) := by
  induction l generalizing t with
  | nil => rfl
  | cons e rest ih =>
    obtain ⟨hfirst, hrest⟩ := List.pairwise_cons.mp h
    rw [List.foldl_cons, ih hrest, List.find?_cons, get?_insert]
    by_cases hk : rank e.1 = rank k
    · have hnone : rest.find? (fun e => rank e.1 == rank k) = none := by
        refine List.find?_eq_none.mpr fun x hx heq => ?_
        have hlt := hfirst x hx
        rw [hk, beq_iff_eq.mp heq] at hlt
        exact List.lt_irrefl _ hlt
      rw [hnone, if_pos hk, hk, beq_self_eq_true]
      rfl
    · rw [if_neg hk, beq_eq_false_iff_ne.mpr hk]

/-- A table is the table of its entries. -/
theorem ofList_entries (t : Table κ α) : ofList t.entries = t := by
  apply ext_get?
  intro k
  unfold ofList
  rw [get?_foldl_insert t.ascending, get?_empty, Option.or_none]
  rfl

/-- A lookup after an insertion, for keys that can be compared. -/
theorem get?_insert_eq_ite [DecidableEq κ] (t : Table κ α) (k j : κ) (a : α) :
    (t.insert k a).get? j = if j = k then some a else t.get? j := by
  by_cases hj : j = k
  · rw [if_pos hj, hj, get?_insert_self]
  · rw [if_neg hj, get?_insert_of_ne _ _ (Ne.symm hj)]

/-- A lookup after the change of all values. -/
theorem get?_map {β : Type w} (t : Table κ α) (f : κ → α → β) (k : κ) :
    (t.map f).get? k = (t.get? k).map (f k) := by
  unfold get? map
  rw [List.find?_map]
  change ((t.entries.find? fun e => rank e.1 == rank k).map fun e => (e.1, f e.1 e.2)).map _ = _
  cases hfind : t.entries.find? fun e => rank e.1 == rank k with
  | none => rfl
  | some e =>
    have he : rank e.1 = rank k := by simpa using List.find?_some hfind
    rw [← rank_injective _ _ he]
    rfl

/-- The change of all values, twice. -/
theorem map_map {β γ : Type w} (t : Table κ α) (f : κ → α → β) (g : κ → β → γ) :
    (t.map f).map g = t.map fun k a => g k (f k a) := by
  apply ext_get?
  intro k
  rw [get?_map, get?_map, get?_map, Option.map_map]
  rfl

/-- A lookup among the entries that pass a test. -/
theorem get?_filter (t : Table κ α) (p : κ → α → Bool) (k : κ) :
    (t.filter p).get? k = (t.get? k).filter (p k) := by
  have hmem (a : α) : (t.filter p).get? k = some a ↔ t.get? k = some a ∧ p k a = true := by
    rw [← mem_entries_iff, ← mem_entries_iff]
    exact List.mem_filter
  cases hget : t.get? k with
  | none =>
    rw [Option.filter_none, Option.eq_none_iff_forall_ne_some]
    intro a ha
    rw [hmem, hget] at ha
    cases ha.1
  | some a =>
    cases hp : p k a with
    | true =>
      rw [Option.filter_some_pos hp]
      exact (hmem a).mpr ⟨hget, hp⟩
    | false =>
      rw [Option.filter_some_neg (by simp [hp]), Option.eq_none_iff_forall_ne_some]
      intro b hb
      rw [hmem, hget] at hb
      obtain ⟨⟨⟩, hpb⟩ := hb
      rw [hp] at hpb
      cases hpb

/-- A lookup after one value was taken out wherever it was. -/
theorem get?_filter_ne [DecidableEq α] (t : Table κ α) (a : α) (k : κ) :
    (t.filter fun _ b => b != a).get? k = if t.get? k = some a then none else t.get? k := by
  rw [get?_filter]
  cases t.get? k with
  | none => simp
  | some b => by_cases hb : b = a <;> simp [hb]

/-- A lookup after the change of one value. -/
theorem get?_modify (t : Table κ α) (k : κ) (f : α → α) (j : κ) :
    (t.modify k f).get? j = if rank k = rank j then (t.get? j).map f else t.get? j := by
  unfold modify
  cases hget : t.get? k with
  | none =>
    dsimp only
    split
    · next hj => rw [← rank_inj.mp hj, hget, Option.map_none]
    · rfl
  | some a =>
    dsimp only
    rw [get?_insert]
    split
    · next hj => rw [← rank_inj.mp hj, hget, Option.map_some]
    · rfl

/-- A lookup after several erasures. -/
theorem get?_foldl_erase [DecidableEq κ] (ks : List κ) (t : Table κ α) (j : κ) :
    (ks.foldl erase t).get? j = if j ∈ ks then none else t.get? j := by
  induction ks generalizing t with
  | nil => simp
  | cons k ks ih =>
    rw [List.foldl_cons, ih, get?_erase]
    by_cases hj : j = k
    · simp [hj]
    · simp [hj, rank_inj, Ne.symm hj]

/-- The values after an insertion. -/
theorem eq_or_mem_values_of_insert {t : Table κ α} {k : κ} {a b : α}
    (h : b ∈ (t.insert k a).values) : b = a ∨ b ∈ t.values := by
  obtain ⟨j, hj⟩ := mem_values_iff.mp h
  rw [get?_insert] at hj
  split at hj
  · exact .inl (Option.some.inj hj).symm
  · exact .inr (mem_values_iff.mpr ⟨j, hj⟩)

/-- The values that pass a test. -/
theorem mem_values_of_filter {t : Table κ α} {p : κ → α → Bool} {a : α}
    (h : a ∈ (t.filter p).values) : a ∈ t.values ∧ ∃ k, p k a = true := by
  obtain ⟨k, hk⟩ := mem_values_iff.mp h
  rw [get?_filter, Option.filter_eq_some_iff] at hk
  exact ⟨mem_values_iff.mpr ⟨k, hk.1⟩, k, hk.2⟩

/-- What is found in the table of a list is an entry of the list. -/
theorem mem_of_get?_ofList {l : List (κ × α)} {k : κ} {a : α} (h : (ofList l).get? k = some a) :
    (k, a) ∈ l := by
  suffices hentries : ∀ j b, (ofList l).get? j = some b → (j, b) ∈ l from hentries k a h
  unfold ofList
  refine List.foldlRecOn (motive := fun t : Table κ α => ∀ j b, t.get? j = some b → (j, b) ∈ l) _ _
    nofun fun t ht e he j b hb => ?_
  rw [get?_insert] at hb
  split at hb
  · next hj =>
    cases hb
    rw [← rank_inj.mp hj]
    exact he
  · exact ht j b hb

section

variable {key : α → κ} {l : List α} {k : κ} {a : α} (h : (ofValues key l).get? k = some a)

include h

/-- Values that carry their own key are kept under it. -/
theorem key_of_get?_ofValues : key a = k := by
  obtain ⟨b, -, heq⟩ := List.mem_map.mp (mem_of_get?_ofList h)
  cases heq
  rfl

/-- The values that are kept are those that the table was made of. -/
theorem mem_of_get?_ofValues : a ∈ l := by
  obtain ⟨b, hb, heq⟩ := List.mem_map.mp (mem_of_get?_ofList h)
  cases heq
  exact hb

end

/-- A table of values with different keys finds each of them under its key. -/
theorem get?_ofValues_eq_some_iff {key : α → κ} {l : List α} (h : (l.map key).Nodup) {k : κ}
    {a : α} : (ofValues key l).get? k = some a ↔ a ∈ l ∧ key a = k := by
  constructor
  · intro ha
    exact ⟨mem_of_get?_ofValues ha, key_of_get?_ofValues ha⟩
  · rintro ⟨ha, rfl⟩
    have hkey : key a ∈ (ofValues key l).keys := by
      refine mem_keys_ofList.mpr ?_
      rw [List.map_map]
      exact List.mem_map_of_mem ha
    obtain ⟨b, hb⟩ := Option.isSome_iff_exists.mp (mem_keys_iff.mp hkey)
    have hba : key b = key a := key_of_get?_ofValues hb
    rw [hb, List.inj_on_of_nodup_map h (mem_of_get?_ofValues hb) ha hba]

/-- The order of values with different keys makes no difference to their table. -/
theorem ofValues_eq_of_perm {key : α → κ} {l l' : List α} (hperm : l.Perm l')
    (h : (l.map key).Nodup) : ofValues key l = ofValues key l' := by
  have h' : (l'.map key).Nodup := (hperm.map key).nodup_iff.mp h
  apply ext_get?
  intro k
  apply Option.ext
  intro a
  rw [get?_ofValues_eq_some_iff h, get?_ofValues_eq_some_iff h', hperm.mem_iff]

/-- The keys of values that carry their own. -/
theorem map_values_ofValues (key : α → κ) (l : List α) :
    (ofValues key l).values.map key = (ofValues key l).keys := by
  unfold values keys
  rw [List.map_map]
  apply List.map_congr_left
  rintro ⟨k, a⟩ hmem
  have hkey : key a = k := key_of_get?_ofValues (mem_entries_iff.mp hmem)
  exact hkey

/-- A table of values with different keys lists all of them. -/
theorem values_ofValues_perm {key : α → κ} {l : List α} (h : (l.map key).Nodup) :
    (ofValues key l).values.Perm l := by
  have hvalues : (ofValues key l).values.Nodup := by
    apply List.Nodup.of_map key
    rw [map_values_ofValues]
    exact nodup_keys _
  refine (List.perm_ext_iff_of_nodup hvalues (.of_map key h)).mpr fun a => ?_
  rw [mem_values_iff]
  constructor
  · rintro ⟨k, hk⟩
    exact mem_of_get?_ofValues hk
  · intro ha
    exact ⟨key a, (get?_ofValues_eq_some_iff h).mpr ⟨ha, rfl⟩⟩

/-! ## What is seen of the values -/

/-- What is seen of the values stays when a value gives way to one that looks the same. -/
theorem map_get?_insert_of_eq {β : Type w} {t : Table κ α} {k : κ} {a b : α} (see : α → β)
    (h : t.get? k = some a) (hb : see b = see a) (j : κ) :
    ((t.insert k b).get? j).map see = (t.get? j).map see := by
  by_cases hj : k = j
  · subst hj
    rw [get?_insert_self, h, Option.map_some, Option.map_some, hb]
  · rw [get?_insert_of_ne _ _ hj]

/-- What is seen of the values is changed under one key when the value there looks changed. -/
theorem map_get?_insert_of_change [DecidableEq κ] {β : Type w} {t : Table κ α} {k : κ} {a b : α}
    (see : α → β) (change : β → β) (h : t.get? k = some a) (hb : see b = change (see a)) (j : κ) :
    ((t.insert k b).get? j).map see =
      if j = k then ((t.get? j).map see).map change else (t.get? j).map see := by
  by_cases hj : j = k
  · subst hj
    rw [if_pos rfl, get?_insert_self, h, Option.map_some, Option.map_some, Option.map_some, hb]
  · rw [if_neg hj, get?_insert_of_ne _ _ (Ne.symm hj)]

/-- What is seen of a table stays when a value gives way to one that looks the same. -/
theorem map_insert_of_eq {β : Type w} {t : Table κ α} {k : κ} {a b : α} (see : κ → α → β)
    (h : t.get? k = some a) (hb : see k b = see k a) : (t.insert k b).map see = t.map see := by
  apply ext_get?
  intro j
  rw [get?_map, get?_map]
  by_cases hj : k = j
  · subst hj
    rw [get?_insert_self, h, Option.map_some, Option.map_some, hb]
  · rw [get?_insert_of_ne _ _ hj]

/-! ## Sums over the values -/

/-- The entries are different. -/
theorem nodup_entries (t : Table κ α) : t.entries.Nodup := by
  unfold List.Nodup
  refine t.ascending.imp fun hlt heq => ?_
  rw [heq] at hlt
  exact List.lt_irrefl _ hlt

/-- The entries of a table in which a value was put in front of all others. -/
private theorem entries_perm {s t : Table κ α} {k : κ} {a : α} (hk : s.get? k = some a)
    (ht : ∀ j, k ≠ j → s.get? j = t.get? j) : s.entries.Perm ((k, a) :: (t.erase k).entries) := by
  have herase (j : κ) : (t.erase k).get? j = if rank k = rank j then none else t.get? j :=
    t.get?_erase k j
  have hnodup : ((k, a) :: (t.erase k).entries).Nodup := by
    refine List.nodup_cons.mpr ⟨fun hmem => ?_, nodup_entries _⟩
    rw [mem_entries_iff, herase, if_pos rfl] at hmem
    cases hmem
  refine (List.perm_ext_iff_of_nodup (nodup_entries s) hnodup).mpr fun ⟨j, b⟩ => ?_
  rw [List.mem_cons, mem_entries_iff, mem_entries_iff, herase, Prod.mk.injEq]
  by_cases hj : k = j
  · subst hj
    rw [hk, if_pos rfl]
    simp [eq_comm]
  · rw [if_neg (mt rank_inj.mp hj), ht j hj]
    simp [Ne.symm hj]

/-- Insertion adds to a sum over the values what the new one counts, and takes away what the old one
counted. -/
theorem sum_values_insert (t : Table κ α) (k : κ) (a : α) (f : α → Nat) :
    ((t.insert k a).values.map f).sum + ((t.get? k).map f).getD 0 =
      (t.values.map f).sum + f a := by
  have hinsert : (t.insert k a).entries.Perm ((k, a) :: (t.erase k).entries) :=
    entries_perm (t.get?_insert_self k a) fun _ hj => get?_insert_of_ne t a hj
  have hsum {s : Table κ α} {b : α} (h : s.entries.Perm ((k, b) :: (t.erase k).entries)) :
      (s.values.map f).sum = f b + ((t.erase k).values.map f).sum :=
    ((h.map Prod.snd).map f).sum_nat
  rw [hsum hinsert]
  cases hget : t.get? k with
  | none =>
    have herase : t.erase k = t := by
      apply ext_get?
      intro j
      rw [get?_erase]
      split
      · next hj => rw [← rank_inj.mp hj, hget]
      · rfl
    rw [herase, Option.map_none, Option.getD_none]
    omega
  | some b =>
    rw [hsum (entries_perm hget fun _ _ => rfl), Option.map_some, Option.getD_some]
    omega

end EventScript.Table
