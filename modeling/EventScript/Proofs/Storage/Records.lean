import Mathlib.Data.List.Induction
import EventScript.Proofs.Json.RoundTrip
import EventScript.Proofs.Persistence.Records
import EventScript.Proofs.Storage.FileTree
import EventScript.Storage.Records

/-!
# What record stores list

A store in memory and a file of records list the same after the same batches: the last record of
every key, in the order of the keys. The file is read, merged and written anew for every batch; that
it holds the values of the table in memory is what every batch keeps.
-/

namespace EventScript

open Keyed (rank)

/-! ## The order of keys -/

namespace PersistenceKey

/-- The position of a kind of key among the others. -/
def kind : PersistenceKey → Nat
  | serverVariable _ => 0
  | guildVariable .. => 1
  | userVariable .. => 2
  | quest .. => 3

/-- A key comes before another one: its kind does, or it is of the same kind and its identifiers do,
the owner's first. -/
def IsBefore : PersistenceKey → PersistenceKey → Prop
  | serverVariable i, serverVariable j => i.value < j.value
  | guildVariable g i, guildVariable h j => g.value < h.value ∨ g = h ∧ i.value < j.value
  | userVariable u i, userVariable v j => u.value < v.value ∨ u = v ∧ i.value < j.value
  | quest p q, quest o r => p.value < o.value ∨ p = o ∧ q.value < r.value
  | a, b => a.kind < b.kind

/-- Two identifiers, one after the other. -/
private theorem lt_pair_iff {κ ι : IdKind} (n : Nat) (a b : Id κ) (i j : Id ι) :
    [n, a.value.toNat, i.value.toNat] < [n, b.value.toNat, j.value.toNat] ↔
      a.value < b.value ∨ a = b ∧ i.value < j.value := by
  have heq : a.value.toNat = b.value.toNat ↔ a = b := ⟨Id.eq_of_toNat_eq, fun h => h ▸ rfl⟩
  simp [List.cons_lt_cons_iff, BitVec.lt_def, heq]

/-- Tables keep keys in their order. -/
theorem rank_lt_iff (a b : PersistenceKey) : rank a < rank b ↔ a.IsBefore b := by
  cases a <;> cases b <;>
    first
    | exact lt_pair_iff ..
    | simp [rank, IsBefore, kind, List.cons_lt_cons_iff, BitVec.lt_def]

end PersistenceKey

/-! ## The last record of every key -/

/-- The last record of every key among records in the order they were stored: one for each key, in
the order of the keys. -/
structure IsLatest (stored list : List PersistedRecord) : Prop where
  /-- The keys are in ascending order. -/
  ascending : list.Pairwise fun a b => a.key.IsBefore b.key
  /-- No record that is listed was followed by another one of its key. -/
  mem_iff : ∀ r, r ∈ list ↔
    ∃ before after, stored = before ++ r :: after ∧ ∀ r' ∈ after, r'.key ≠ r.key

namespace RecordTable

/-- Records are put one batch after the other. -/
theorem putAll_append (t : RecordTable) (first second : List PersistedRecord) :
    t.putAll (first ++ second) = (t.putAll first).putAll second :=
  List.foldl_append

/-- A table of records keeps the last one of every key. -/
theorem get?_ofRecords (stored : List PersistedRecord) (k : PersistenceKey) (r : PersistedRecord) :
    (ofRecords stored).get? k = some r ↔ r.key = k ∧
      ∃ before after, stored = before ++ r :: after ∧ ∀ r' ∈ after, r'.key ≠ k := by
  constructor
  · induction stored using List.reverseRecOn with
    | nil =>
      intro h
      cases h
    | append_singleton stored last ih =>
      intro h
      unfold ofRecords at h
      rw [putAll_append, show putAll _ [last] = put _ last from rfl, get?_put] at h
      split at h
      · next hk =>
        cases h
        exact ⟨hk, stored, [], rfl, nofun⟩
      · next hk =>
        obtain ⟨hr, before, after, rfl, hafter⟩ := ih h
        refine ⟨hr, before, after ++ [last], by simp, fun r' hr' => ?_⟩
        rcases List.mem_append.mp hr' with hr' | hr'
        · exact hafter r' hr'
        · rwa [List.mem_singleton.mp hr']
  · rintro ⟨rfl, before, after, rfl, hafter⟩
    have hkept := get?_putAll_of_forall_ne ((ofRecords before).put r) hafter
    rw [get?_put, if_pos rfl] at hkept
    rw [ofRecords, putAll_append]
    exact hkept

/-- The values of a table of records are the last ones of every key. -/
theorem isLatest_values_ofRecords (stored : List PersistedRecord) :
    IsLatest stored (ofRecords stored).values := by
  have hkeyed : (ofRecords stored).IsKeyed := isKeyed_empty.putAll stored
  constructor
  · unfold Table.values
    rw [List.pairwise_map]
    refine List.Pairwise.imp_of_mem ?_ (ofRecords stored).ascending
    intro a b ha hb hlt
    rw [← PersistenceKey.rank_lt_iff, hkeyed a.1 a.2 (Table.mem_entries_iff.mp ha),
      hkeyed b.1 b.2 (Table.mem_entries_iff.mp hb)]
    exact hlt
  · intro r
    rw [Table.mem_values_iff]
    constructor
    · rintro ⟨k, hk⟩
      obtain ⟨rfl, h⟩ := (get?_ofRecords stored k r).mp hk
      exact h
    · intro h
      exact ⟨r.key, (get?_ofRecords stored r.key r).mpr ⟨rfl, h⟩⟩

end RecordTable

/-! ## Records in memory -/

/-- A store in memory that is switched on keeps the last records. -/
theorem RecordStore.store_batches (stored : List PersistedRecord)
    (batches : List (List PersistedRecord)) :
    batches.foldlM store ⟨.ofRecords stored, false⟩ =
      .ok ⟨.ofRecords (stored ++ batches.flatten), false⟩ := by
  induction batches generalizing stored with
  | nil => simp [pure, Except.pure]
  | cons batch rest ih =>
    have hput : RecordTable.putAll (.ofRecords stored) batch = .ofRecords (stored ++ batch) :=
      (RecordTable.putAll_append .empty stored batch).symm
    rw [List.foldlM_cons, store, if_neg (by simp), hput, List.flatten_cons, ← List.append_assoc]
    exact ih (stored ++ batch)

/-! ## Records in a file -/

namespace RecordFile

variable {f : RecordFile} {t t' : FileTree}

/-- Whether records can be stored: the directory of the file can be made and the file can be
written. -/
def IsUsable (f : RecordFile) (t : FileTree) : Prop :=
  ∃ made, f.makeDirectory t = .ok made ∧ made.IsWritable f.path

/-- A file of the records of a table. -/
structure Keeps (f : RecordFile) (t : FileTree) (table : RecordTable) : Prop where
  /-- The records are listed. -/
  list_eq : f.list t = .ok table.values
  /-- More records can be stored. -/
  usable : f.IsUsable t

/-- The directory that was made need not be made again as long as directories stay. -/
theorem makeDirectory_of_makeDirectory {made : FileTree} (h : f.makeDirectory t = .ok made)
    (hkeep : made.KeepsDirectories t') : f.makeDirectory t' = .ok t' := by
  unfold makeDirectory at h ⊢
  cases hparent : FileTree.parent? f.path with
  | none => rfl
  | some parent =>
    cases hmake : t.makeDirectories parent with
    | error e => simp [hparent, hmake] at h
    | ok made' =>
      simp only [hparent, hmake, Except.ok.injEq] at h
      subst h
      simp only [FileTree.makeDirectories_of_makeDirectories hmake hkeep]

/-- The records that were written are listed. -/
theorem list_of_hasFile {records : List PersistedRecord}
    (h : t.HasFile f.path (toJson records).pretty) : f.list t = .ok records := by
  have hback : ofText? (toJson records).pretty = some records :=
    ((RoundTrips.of_lawful (by decide)).written records).ofPretty
  simp [list, h.contains_eq_true, h.read_eq_ok, PersistedRecord.ofFile, hback]

/-- A batch that is stored leads to the table with the batch in it. -/
theorem Keeps.store {table : RecordTable} (h : f.Keeps t table) (hkeyed : table.IsKeyed)
    (batch : List PersistedRecord) :
    ∃ t', f.store t batch = .ok t' ∧ f.Keeps t' (table.putAll batch) := by
  obtain ⟨made, hmake, hwritable⟩ := h.usable
  obtain ⟨t', hwrite⟩ := hwritable.write_eq_ok (toJson (table.putAll batch).values).pretty
  have hfile := FileTree.hasFile_of_write hwrite
  have hagain := makeDirectory_of_makeDirectory hmake (FileTree.keepsDirectories_of_write hwrite)
  have hstore : f.store t batch = .ok t' := by
    refine FileTree.bind_eq_ok.mpr ⟨table.values, h.list_eq, ?_⟩
    refine FileTree.bind_eq_ok.mpr ⟨made, hmake, ?_⟩
    rw [RecordTable.ofRecords_values hkeyed, hwrite]
    rfl
  exact ⟨t', hstore, list_of_hasFile hfile, t', hagain, hfile.isWritable⟩

/-- The file operations for a batch succeed exactly where those for any other do. -/
theorem isUsable_iff_store {records : List PersistedRecord} (hlist : f.list t = .ok records)
    (batch : List PersistedRecord) : f.IsUsable t ↔ ∃ t', f.store t batch = .ok t' := by
  constructor
  · rintro ⟨made, hmake, hwritable⟩
    obtain ⟨t', hwrite⟩ := hwritable.write_eq_ok
      (toJson ((RecordTable.ofRecords records).putAll batch).values).pretty
    refine ⟨t', FileTree.bind_eq_ok.mpr ⟨records, hlist, ?_⟩⟩
    refine FileTree.bind_eq_ok.mpr ⟨made, hmake, ?_⟩
    rw [hwrite]
    rfl
  · rintro ⟨t', h⟩
    obtain ⟨records, -, h⟩ := FileTree.bind_eq_ok.mp h
    obtain ⟨made, hmake, h⟩ := FileTree.bind_eq_ok.mp h
    refine ⟨made, hmake, ?_⟩
    split at h
    · next hwrite =>
      obtain ⟨q, hplace, hdir, hpath, -⟩ := FileTree.write_eq_ok.mp hwrite
      exact ⟨q, hplace, hdir, hpath⟩
    · cases h

/-- Batches that are stored one after the other lead to the table with all of them in it. -/
theorem Keeps.store_batches {stored : List PersistedRecord} (h : f.Keeps t (.ofRecords stored))
    (batches : List (List PersistedRecord)) :
    ∃ t', batches.foldlM f.store t = .ok t' ∧
      f.Keeps t' (.ofRecords (stored ++ batches.flatten)) := by
  induction batches generalizing t stored with
  | nil => exact ⟨t, rfl, by simpa using h⟩
  | cons batch rest ih =>
    obtain ⟨t₁, hstore, h₁⟩ := h.store (RecordTable.isKeyed_empty.putAll stored) batch
    have hput : RecordTable.putAll (.ofRecords stored) batch = .ofRecords (stored ++ batch) :=
      (RecordTable.putAll_append .empty stored batch).symm
    rw [hput] at h₁
    obtain ⟨t', hrest, h'⟩ := ih h₁
    refine ⟨t', ?_, ?_⟩
    · rw [List.foldlM_cons, hstore]
      exact hrest
    · rwa [List.flatten_cons, ← List.append_assoc]

/-- A missing file takes batches exactly where it can be written. -/
theorem exists_store_batches_iff {batches : List (List PersistedRecord)} (hbatches : batches ≠ [])
    (hmissing : t.contains f.path = false) :
    (∃ t', batches.foldlM f.store t = .ok t') ↔ f.IsUsable t := by
  have hlist : f.list t = .ok [] := by simp [list, hmissing]
  obtain ⟨batch, rest, rfl⟩ := List.exists_cons_of_ne_nil hbatches
  constructor
  · rintro ⟨t', h⟩
    rw [List.foldlM_cons] at h
    obtain ⟨t₁, hstore, -⟩ := FileTree.bind_eq_ok.mp h
    exact (isUsable_iff_store hlist batch).mpr ⟨t₁, hstore⟩
  · intro husable
    have hkeeps : f.Keeps t (.ofRecords []) := ⟨hlist, husable⟩
    obtain ⟨t', hfold, -⟩ := hkeeps.store_batches (batch :: rest)
    exact ⟨t', hfold⟩

/-- From a missing file that can be written, every sequence of batches is stored, and the file lists
what a store in memory does: the last record of every key, in the order of the keys. -/
theorem list_eq_list_of_missing (f : RecordFile) (t : FileTree)
    (batches : List (List PersistedRecord)) (hmissing : t.contains f.path = false)
    (husable : batches ≠ [] → f.IsUsable t) :
    ∃ t' s, batches.foldlM f.store t = .ok t' ∧
      batches.foldlM RecordStore.store .empty = .ok s ∧
      f.list t' = .ok s.list ∧ IsLatest batches.flatten s.list := by
  have hlist : f.list t = .ok [] := by simp [list, hmissing]
  have hmemory : batches.foldlM RecordStore.store .empty =
      .ok ⟨.ofRecords batches.flatten, false⟩ := RecordStore.store_batches [] batches
  obtain ⟨t', hfold, hlist'⟩ : ∃ t', batches.foldlM f.store t = .ok t' ∧
      f.list t' = .ok (RecordTable.ofRecords batches.flatten).values := by
    by_cases hnone : batches = []
    · subst hnone
      exact ⟨t, rfl, hlist⟩
    · have hkeeps : f.Keeps t (.ofRecords []) := ⟨hlist, husable hnone⟩
      obtain ⟨t', hfold, h'⟩ := hkeeps.store_batches batches
      exact ⟨t', hfold, h'.list_eq⟩
  exact ⟨t', _, hfold, hmemory, hlist', RecordTable.isLatest_values_ofRecords _⟩

/-- A batch for two keys and one for the first of them again, in a file whose directory is made for
it. -/
theorem list_eq_list_of_missing_merging :
    let count (n : Int64) : PersistedRecord := .serverVariable ⟨7⟩ (.integer n)
    let banner : PersistedRecord := .guildVariable ⟨2⟩ ⟨1⟩ (.string "red")
    let batches := [[banner, count 1], [count 2]]
    let f : RecordFile := ⟨"data/records.json"⟩
    FileTree.empty.contains f.path = false ∧ f.IsUsable .empty ∧
      (∃ t, batches.foldlM f.store .empty = .ok t ∧ f.list t = .ok [count 2, banner]) ∧
      IsLatest batches.flatten [count 2, banner] := by
  intro count banner batches f
  have husable : f.IsUsable .empty :=
    ⟨⟨Table.empty.insert "data" .directory⟩, by decide +kernel,
      ["data", "records.json"], by decide +kernel⟩
  obtain ⟨t, s, hfold, hmemory, hlist, hlatest⟩ :=
    list_eq_list_of_missing f .empty batches (by decide +kernel) fun _ => husable
  have hs : s.list = [count 2, banner] := by
    cases hmemory
    rfl
  rw [hs] at hlist hlatest
  exact ⟨by decide +kernel, husable, ⟨t, hfold, hlist⟩, hlatest⟩

end RecordFile

end EventScript
