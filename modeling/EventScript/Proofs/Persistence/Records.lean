import EventScript.Persistence.Queue
import EventScript.Proofs.Table

/-!
# Tables of records

A table keeps the latest record of every key under that key. Records that come from one table lead
back to it, whether they are put one after the other or taken back into an empty queue.
-/

namespace EventScript

namespace RecordTable

/-- Every record is kept under its own key. -/
def IsKeyed (t : RecordTable) : Prop :=
  ∀ (k : PersistenceKey) (r : PersistedRecord), t.get? k = some r → r.key = k

/-- A table without records. -/
theorem isKeyed_empty : IsKeyed .empty := by
  intro k r hget
  cases hget

/-- The record of a key after a record was put. -/
theorem get?_put (t : RecordTable) (r : PersistedRecord) (k : PersistenceKey) :
    (t.put r).get? k = if r.key = k then some r else t.get? k := by
  unfold put
  rw [Table.get?_insert]
  simp only [Table.rank_inj]

/-- A record that is put is kept under its own key. -/
theorem IsKeyed.put {t : RecordTable} (h : t.IsKeyed) (r : PersistedRecord) :
    (t.put r).IsKeyed := by
  intro j r' hget
  rw [get?_put] at hget
  split at hget
  next hk =>
    cases hget
    exact hk
  · exact h j r' hget

/-- Records that are put are kept under their own keys. -/
theorem IsKeyed.putAll {t : RecordTable} (h : t.IsKeyed) (records : List PersistedRecord) :
    (t.putAll records).IsKeyed := by
  induction records generalizing t with
  | nil => exact h
  | cons r rest ih => exact ih (h.put r)

/-- Records of other keys keep the record of a key. -/
theorem get?_putAll_of_forall_ne (t : RecordTable) {records : List PersistedRecord}
    {k : PersistenceKey} (h : ∀ r ∈ records, r.key ≠ k) :
    (t.putAll records).get? k = t.get? k := by
  induction records generalizing t with
  | nil => rfl
  | cons r rest ih =>
    have hrest := ih (t.put r) fun r' hr' => h r' (List.mem_cons_of_mem _ hr')
    rw [get?_put, if_neg (h r List.mem_cons_self)] at hrest
    exact hrest

/-- Of records with different keys each is kept. -/
theorem get?_putAll_of_mem (t : RecordTable) {records : List PersistedRecord}
    (h : (records.map PersistedRecord.key).Nodup) {r : PersistedRecord} (hr : r ∈ records) :
    (t.putAll records).get? r.key = some r := by
  induction records generalizing t with
  | nil => cases hr
  | cons r' rest ih =>
    obtain ⟨hfirst, hrest⟩ := List.nodup_cons.mp h
    rcases List.mem_cons.mp hr with rfl | hr
    · have hothers : ∀ r' ∈ rest, r'.key ≠ r.key := fun r' hr' heq =>
        hfirst (List.mem_map.mpr ⟨r', hr', heq⟩)
      have hput := get?_putAll_of_forall_ne (t.put r) hothers
      rw [get?_put, if_pos rfl] at hput
      exact hput
    · exact ih (t.put r') hrest hr

/-- The records of a table have different keys. -/
theorem nodup_key_values {t : RecordTable} (h : t.IsKeyed) :
    (t.values.map PersistedRecord.key).Nodup := by
  have hkeys : t.values.map PersistedRecord.key = t.keys := by
    unfold Table.values Table.keys
    rw [List.map_map]
    refine List.map_congr_left fun e he => ?_
    exact h e.1 e.2 (Table.mem_entries_iff.mp he)
  rw [hkeys]
  exact t.nodup_keys

/-- The records of one table, put into another, take the places of those there. -/
theorem get?_putAll_values (t : RecordTable) {q : RecordTable} (hq : q.IsKeyed)
    (k : PersistenceKey) : (t.putAll q.values).get? k = (q.get? k).or (t.get? k) := by
  cases hget : q.get? k with
  | none =>
    refine t.get?_putAll_of_forall_ne fun r hr hk => ?_
    obtain ⟨k', hk'⟩ := Table.mem_values_iff.mp hr
    rw [← hk, hq k' r hk', hk'] at hget
    cases hget
  | some r =>
    have hput := t.get?_putAll_of_mem (nodup_key_values hq) (Table.mem_values_iff.mpr ⟨k, hget⟩)
    rw [hq k r hget] at hput
    exact hput

/-- A table is told by its records. -/
theorem ofRecords_values {t : RecordTable} (h : t.IsKeyed) : ofRecords t.values = t := by
  apply Table.ext_get?
  intro k
  unfold ofRecords
  rw [get?_putAll_values _ h, Table.get?_empty, Option.or_none]

/-- Where there are no records of their keys, records with different keys are all put. -/
theorem foldl_putMissing_eq_putAll {t : RecordTable} {records : List PersistedRecord}
    (h : (records.map PersistedRecord.key).Nodup) (hnew : ∀ r ∈ records, t.get? r.key = none) :
    records.foldl putMissing t = t.putAll records := by
  induction records generalizing t with
  | nil => rfl
  | cons r rest ih =>
    obtain ⟨hfirst, hrest⟩ := List.nodup_cons.mp h
    have hput : putMissing t r = t.put r := by
      unfold putMissing Table.contains
      rw [hnew r List.mem_cons_self]
      rfl
    unfold putAll
    rw [List.foldl_cons, List.foldl_cons, hput]
    refine ih hrest fun r' hr' => ?_
    rw [get?_put, if_neg]
    · exact hnew r' (List.mem_cons_of_mem _ hr')
    · intro heq
      exact hfirst (List.mem_map.mpr ⟨r', hr', heq.symm⟩)

end RecordTable

/-- Records that could not be stored make the queue that they were taken from. -/
theorem PersistenceQueue.requeue_records {q : PersistenceQueue} (h : q.pending.IsKeyed) :
    empty.requeue q.records = q := by
  have hput : q.records.foldl RecordTable.putMissing .empty = RecordTable.ofRecords q.records :=
    RecordTable.foldl_putMissing_eq_putAll (RecordTable.nodup_key_values h) fun _ _ => rfl
  unfold requeue
  exact congrArg PersistenceQueue.mk (hput.trans (RecordTable.ofRecords_values h))

end EventScript
