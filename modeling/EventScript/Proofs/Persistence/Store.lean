import EventScript.Persistence.Transfer
import EventScript.Proofs.Persistence.Ledger
import EventScript.Storage.Records

/-!
# Flushing and restoring

A store keeps the latest record of every key. What a flush hands to it takes the place of what it
held; what it does not take is in the queue again. Restoring puts the latest values in their places.
-/

namespace EventScript

/-! ## Stores -/

/-- A store that keeps the latest record of every key. -/
structure RecordKeeper (σ : Type) where
  /-- The records in the store. -/
  list : σ → List PersistedRecord
  /-- Store records, in order. -/
  store : σ → List PersistedRecord → Except StorageError σ
  /-- Records that are stored take the places of those in the store. -/
  ofRecords_list : ∀ {s t : σ} {records : List PersistedRecord}, store s records = .ok t →
    RecordTable.ofRecords (list t) = (RecordTable.ofRecords (list s)).putAll records

/-- The latest record of every key in a store. -/
def RecordKeeper.latest {σ : Type} (keeper : RecordKeeper σ) (s : σ) : RecordTable :=
  .ofRecords (keeper.list s)

namespace RecordStore

/-- The records of a store in memory after records were stored. -/
theorem records_store {s t : RecordStore} {records : List PersistedRecord}
    (h : s.store records = .ok t) : t.records = s.records.putAll records := by
  unfold store at h
  split at h
  · cases h
  · cases h
    rfl

/-- Storing records keeps all under their own keys. -/
theorem isKeyed_store {s t : RecordStore} (hs : s.records.IsKeyed)
    {records : List PersistedRecord} (h : s.store records = .ok t) : t.records.IsKeyed := by
  rw [records_store h]
  exact hs.putAll records

/-- A store in memory whose records are kept under their own keys. -/
def keeper : RecordKeeper { s : RecordStore // s.records.IsKeyed } where
  list s := s.1.list
  store s records :=
    match h : s.1.store records with
    | .ok t => .ok ⟨t, isKeyed_store s.2 h⟩
    | .error e => .error e
  ofRecords_list := by
    intro s t records h
    split at h
    next t' hstore =>
      cases h
      unfold list
      rw [RecordTable.ofRecords_values s.2]
      have hlatest := RecordTable.ofRecords_values (isKeyed_store s.2 hstore)
      exact hlatest.trans (records_store hstore)
    · cases h

end RecordStore

namespace World

/-! ## Flushing -/

/-- What a flush can come to. -/
inductive FlushCase {σ : Type} (w : World) (store : List PersistedRecord → Except StorageError σ)
    (kept : σ) : Except StorageError Nat × σ × World → Prop
  | idle (queue : w.persistence = .empty) : FlushCase w store kept (.ok 0, kept, w)
  | failed {e : StorageError} (result : store w.persistence.records = .error e) :
      FlushCase w store kept (.error e, kept, w)
  | stored {s : σ} (result : store w.persistence.records = .ok s) :
      FlushCase w store kept
        (.ok w.persistence.records.length, s, { w with persistence := .empty })

/-- A flush comes to one of the cases. -/
theorem flush_cases {σ : Type} {w : World} (hqueue : w.persistence.pending.IsKeyed)
    (store : List PersistedRecord → Except StorageError σ) (kept : σ) :
    FlushCase w store kept (w.flush store kept) := by
  unfold flush
  dsimp only
  split
  next hempty =>
    have hpending := Table.eq_empty_of_values (List.isEmpty_iff.mp hempty)
    exact .idle (congrArg PersistenceQueue.mk hpending)
  · cases hresult : store w.persistence.records with
    | ok s => exact .stored hresult
    | error e =>
      dsimp only
      rw [PersistenceQueue.requeue_records hqueue]
      exact .failed hresult

/-! ## Restoring -/

/-- Restoring a record puts its value in its place. -/
theorem ledger_restoreRecord? (w : World) (r : PersistedRecord) :
    ((w.restoreRecord? r).getD w).ledger = w.ledger.put r := by
  cases r with
  | serverVariable i value => rfl
  | guildVariable g i value =>
    cases hg : w.guild? g with
    | none =>
      have howner : w.ledger.owns (.guildVariable g i) = false :=
        congrArg (fun g => (g.map fun g : Guild => (g.id, g.vars)).isSome) hg
      simp only [restoreRecord?, hg, Option.bind_eq_bind, Option.bind_none, Option.getD_none]
      exact (Ledger.put_of_not_owns howner).symm
    | some guild =>
      simp only [restoreRecord?, hg, Option.bind_eq_bind, Option.bind_some]
      exact ledger_setGuildVariable hg i value
  | userVariable u i value =>
    cases hu : w.user? u with
    | none =>
      have howner : w.ledger.owns (.userVariable u i) = false :=
        congrArg (fun u => (u.map UserAccount.vars).isSome) hu
      simp only [restoreRecord?, hu, Option.bind_eq_bind, Option.bind_none, Option.getD_none]
      exact (Ledger.put_of_not_owns howner).symm
    | some user =>
      simp only [restoreRecord?, hu, Option.bind_eq_bind, Option.bind_some]
      exact ledger_setUserVariable hu i value
  | quest p q progress =>
    cases hp : w.player? p with
    | none =>
      have howner : w.ledger.owns (.quest p q) = false :=
        congrArg (fun p => (p.map fun p : Player => (p.id, p.quests)).isSome) hp
      simp only [restoreRecord?, hp, Option.bind_eq_bind, Option.bind_none, Option.getD_none]
      exact (Ledger.put_of_not_owns howner).symm
    | some player =>
      simp only [restoreRecord?, hp, Option.bind_eq_bind, Option.bind_some]
      exact ledger_setProgress hp q progress

/-- Restoring puts values in their places, one after the other. -/
theorem ledger_restore (records : List PersistedRecord) (w : World) :
    (restore records w).2.ledger = w.ledger.putAll records := by
  induction records generalizing w with
  | nil => rfl
  | cons r rest ih =>
    have hfirst := w.ledger_restoreRecord? r
    have hrest := ih ((w.restoreRecord? r).getD w)
    rw [hfirst] at hrest
    refine Eq.trans ?_ hrest
    rw [restore]
    cases w.restoreRecord? r <;> rfl

/-- Restoring gives every key of a loaded owner the latest recorded value, and keeps the value of a
key without record. -/
theorem recordOf?_restore (records : List PersistedRecord) {w : World} {k : PersistenceKey}
    (h : w.ledger.owns k = true) :
    (restore records w).2.ledger.recordOf? k =
      ((RecordTable.ofRecords records).get? k).or (w.ledger.recordOf? k) := by
  rw [ledger_restore]
  exact Ledger.recordOf?_putAll records h

end World

end EventScript
