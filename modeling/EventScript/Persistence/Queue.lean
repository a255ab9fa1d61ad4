import EventScript.Persistence.Record

/-!
# The persistence queue

Changes that wait to be stored, at most one for every key. A newer change takes the place of an
older one; changes that come back from a failed attempt do not take the place of newer ones.
-/

namespace EventScript

/-- Changes that wait to be stored. -/
structure PersistenceQueue where
  /-- The latest change of every key. -/
  pending : RecordTable
  deriving DecidableEq

namespace PersistenceQueue

/-- No changes. -/
def empty : PersistenceQueue := ⟨.empty⟩

instance : Inhabited PersistenceQueue := ⟨empty⟩

/-- The changes in the order of their keys. -/
def records (q : PersistenceQueue) : List PersistedRecord := q.pending.values

/-- The number of changes. -/
def size (q : PersistenceQueue) : Nat := q.pending.size

/-- Whether there is no change. -/
def isEmpty (q : PersistenceQueue) : Bool := q.pending.isEmpty

/-- The change of a key. -/
def get? (q : PersistenceQueue) (k : PersistenceKey) : Option PersistedRecord := q.pending.get? k

/-- Whether there is a change of a key. -/
def contains (q : PersistenceQueue) (k : PersistenceKey) : Bool := q.pending.contains k

/-- Add a change, in place of an older one of its key. -/
def enqueue (q : PersistenceQueue) (r : PersistedRecord) : PersistenceQueue :=
  ⟨RecordTable.put q.pending r⟩

/-- Take changes back that could not be stored; newer ones stay. -/
def requeue (q : PersistenceQueue) (records : List PersistedRecord) : PersistenceQueue :=
  ⟨records.foldl RecordTable.putMissing q.pending⟩

/-- After a change is added, it is the one of its key and the others are as before. -/
theorem get?_enqueue (q : PersistenceQueue) (r : PersistedRecord) (k : PersistenceKey) :
    (q.enqueue r).get? k = if r.key = k then some r else q.get? k := by
  simp only [get?, enqueue, RecordTable.put]
  by_cases h : r.key = k
  · subst h
    simp
  · simp [h, Table.get?_insert_of_ne _ _ h]

end PersistenceQueue

end EventScript
