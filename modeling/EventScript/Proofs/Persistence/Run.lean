import EventScript.Proofs.Persistence.Coherence
import EventScript.Proofs.Persistence.Command
import EventScript.Proofs.Persistence.Store

/-!
# Runs of a world with a store

A world is restored from a store; then scripts run in it, players answer, and the queue is flushed
to the store from time to time, whether the store takes it or not. In between the host may do
anything that concerns neither the values that outlive a run nor the records of the store.
-/

namespace EventScript

/-- A world and the store that its changes are flushed to. -/
structure Service (σ : Type) where
  /-- The world. -/
  world : World
  /-- The store. -/
  store : σ

namespace World

/-- The identifiers that are still given out up to a number of them are different, and no guild that
is loaded or recorded has one of them. -/
structure HasFreshIds (w : World) (records : List PersistedRecord) (limit : Nat) : Prop where
  distinct : ∀ i j, w.supply.idsUsed ≤ i → i < j → j < limit → w.supply.ids i ≠ w.supply.ids j
  unloaded : ∀ j, w.supply.idsUsed ≤ j → j < limit → w.guild? ⟨w.supply.ids j⟩ = none
  unrecorded : ∀ j, w.supply.idsUsed ≤ j → j < limit →
    ∀ i value, .guildVariable ⟨w.supply.ids j⟩ i value ∉ records

end World

namespace Service

variable {σ : Type} {keeper : RecordKeeper σ}

/-- A world that was just restored from a store. -/
def restored (keeper : RecordKeeper σ) (w : World) (s : σ) : Service σ :=
  ⟨(World.restore (keeper.list s) w).2, s⟩

/-- One thing that happens: a step of an execution, a response to one, a flush, or something that
leaves the ledger and the records of the store alone. -/
inductive Act (keeper : RecordKeeper σ) : Service σ → Service σ → Prop
  | step {w : World} {s : σ} {i : Instance} {r : Turn.Outcome StepOutcome}
      (result : (Turn.mk w i).step = .ok r) : Act keeper ⟨w, s⟩ ⟨r.2.world, s⟩
  | answer {w : World} {s : σ} {i : Instance} {response : Response} {r : Turn.Outcome Bool}
      (result : (Turn.mk w i).answer response = .ok r) : Act keeper ⟨w, s⟩ ⟨r.2.world, s⟩
  | flush {w w' : World} {s s' : σ} {count : Except StorageError Nat}
      (result : w.flush (keeper.store s) s = (count, s', w')) : Act keeper ⟨w, s⟩ ⟨w', s'⟩
  | host {w w' : World} {s s' : σ} (ledger : w'.ledger = w.ledger)
      (records : keeper.latest s' = keeper.latest s) : Act keeper ⟨w, s⟩ ⟨w', s'⟩

/-- What happens one after the other, with the keys whose values in memory were changed on the
way. -/
inductive Run (keeper : RecordKeeper σ) (start : Service σ) :
    (PersistenceKey → Prop) → Service σ → Prop
  | start : Run keeper start (fun _ => False) start
  | act {changed : PersistenceKey → Prop} {d d' : Service σ} (run : Run keeper start changed d)
      (act : Act keeper d d') :
      Run keeper start (d.world.ledger.changedOnTheWay d'.world.ledger changed) d'

/-! ## Flushing and restoring -/

/-- A flush changes the queue alone; what was held in it is held in the queue or in the store, and
after a successful flush in the store. -/
structure IsFlushed (keeper : RecordKeeper σ) (d d' : Service σ)
    (count : Except StorageError Nat) : Prop where
  ledger : d'.world.ledger = { d.world.ledger with queue := d'.world.persistence }
  queue : d'.world.persistence.pending.IsKeyed
  held : ∀ k, d'.world.ledger.held? (keeper.latest d'.store) k =
    d.world.ledger.held? (keeper.latest d.store) k
  empty : ∀ n, count = .ok n → d'.world.persistence = .empty

/-- What a flush comes to. -/
theorem isFlushed_of_flush {w w' : World} {s s' : σ} {count : Except StorageError Nat}
    (hqueue : w.persistence.pending.IsKeyed)
    (h : w.flush (keeper.store s) s = (count, s', w')) :
    IsFlushed keeper ⟨w, s⟩ ⟨w', s'⟩ count := by
  have hcase := World.flush_cases hqueue (keeper.store s) s
  rw [h] at hcase
  cases hcase with
  | idle hempty => exact ⟨rfl, hqueue, fun _ => rfl, fun _ _ => hempty⟩
  | failed => exact ⟨rfl, hqueue, fun _ => rfl, nofun⟩
  | stored hstore =>
    refine ⟨rfl, RecordTable.isKeyed_empty, fun k => ?_, fun _ _ => rfl⟩
    unfold RecordKeeper.latest Ledger.held?
    rw [keeper.ofRecords_list hstore]
    exact RecordTable.get?_putAll_values _ hqueue k

/-- A world that was just restored is coherent with its store. -/
theorem isCoherent_restored {w : World} {s : σ} {limit : Nat} (hqueue : w.persistence = .empty)
    (hfresh : w.HasFreshIds (keeper.list s) limit) :
    (restored keeper w s).world.ledger.IsCoherent limit (keeper.latest s) fun _ => False := by
  have hledger : (restored keeper w s).world.ledger = w.ledger.putAll (keeper.list s) :=
    World.ledger_restore (keeper.list s) w
  have hheld (k : PersistenceKey) :
      (w.ledger.putAll (keeper.list s)).held? (keeper.latest s) k =
        (keeper.latest s).get? k := by
    unfold Ledger.held?
    rw [Ledger.queue_putAll, show w.ledger.queue = .empty from hqueue]
    rfl
  rw [hledger]
  refine ⟨?_, fun j hj hlimit => ?_, fun k r hk hr => ?_, fun k hk hc => hc.elim⟩
  · rw [Ledger.ids_putAll, Ledger.idsUsed_putAll]
    exact hfresh.distinct
  · rw [Ledger.idsUsed_putAll] at hj
    rw [Ledger.ids_putAll]
    refine ⟨?_, fun i => ?_, fun _ => id⟩
    · rw [Ledger.guilds_putAll_eq_none]
      exact congrArg (Option.map fun g : Guild => (g.id, g.vars)) (hfresh.unloaded j hj hlimit)
    · rw [hheld]
      refine RecordTable.get?_putAll_of_forall_ne _ fun r hr hk => ?_
      cases r with
      | guildVariable g i' value =>
        cases hk
        exact hfresh.unrecorded j hj hlimit i value hr
      | _ => cases hk
  · rw [Ledger.owns_putAll] at hk
    rw [hheld] at hr
    rw [Ledger.recordOf?_putAll _ hk]
    exact congrArg (fun held => held.or (w.ledger.recordOf? k)) hr

/-! ## Runs -/

/-- What is kept when something happens. -/
structure Keeps (keeper : RecordKeeper σ) (d d' : Service σ) : Prop where
  keyed : d'.world.ledger.IsKeyed
  idsUsed : d.world.ledger.idsUsed ≤ d'.world.ledger.idsUsed
  coherent : ∀ {limit : Nat} {changed : PersistenceKey → Prop},
    d'.world.ledger.idsUsed ≤ limit →
    d.world.ledger.IsCoherent limit (keeper.latest d.store) changed →
    d'.world.ledger.IsCoherent limit (keeper.latest d'.store)
      (d.world.ledger.changedOnTheWay d'.world.ledger changed)

/-- A move of the ledger keeps it coherent with the store. -/
theorem keeps_of_move {w w' : World} {s : σ} (hkeyed : w.ledger.IsKeyed)
    (hmove : w.ledger.Move w'.ledger) : Keeps keeper ⟨w, s⟩ ⟨w', s⟩ :=
  ⟨hkeyed.move hmove, hmove.idsUsed_le, fun hlimit h => h.move hmove hlimit⟩

/-- Whatever happens, memory, queue and store stay coherent. -/
theorem Act.keeps {d d' : Service σ} (h : Act keeper d d') (hkeyed : d.world.ledger.IsKeyed) :
    Keeps keeper d d' := by
  have hstay {l l' : Ledger} {changed : PersistenceKey → Prop}
      (hl : ∀ k, l'.recordOf? k = l.recordOf? k) (k : PersistenceKey)
      (hk : l.changedOnTheWay l' changed k) : changed k :=
    hk.resolve_right fun hdiffers => hdiffers (hl k)
  cases h with
  | step result => exact keeps_of_move hkeyed (Turn.move_step result hkeyed)
  | answer result => exact keeps_of_move hkeyed (Turn.move_answer result hkeyed)
  | @flush w w' s s' count result =>
    obtain ⟨hledger, hqueue, hheld, -⟩ := isFlushed_of_flush hkeyed.queue result
    dsimp only at hledger hqueue hheld
    rw [hledger] at hheld
    refine ⟨?_, ?_, fun hlimit hcoherent => ?_⟩
    · exact hledger ▸ ⟨hkeyed.guilds, hkeyed.players, hqueue⟩
    · exact hledger ▸ Nat.le_refl _
    · dsimp only at hcoherent ⊢
      rw [hledger]
      exact (hcoherent.requeue hheld).mono (hstay fun k => by cases k <;> rfl)
  | host hledger hrecords =>
    refine ⟨?_, ?_, fun hlimit hcoherent => ?_⟩
    · exact hledger ▸ hkeyed
    · exact hledger ▸ Nat.le_refl _
    · dsimp only at hcoherent ⊢
      rw [hledger, hrecords]
      exact hcoherent.mono (hstay fun _ => rfl)

namespace Run

variable {changed : PersistenceKey → Prop} {start d : Service σ}

/-- On every run all is kept under the identifiers it carries. -/
theorem isKeyed (h : Run keeper start changed d) (hstart : start.world.ledger.IsKeyed) :
    d.world.ledger.IsKeyed := by
  induction h with
  | start => exact hstart
  | act _ hact ih => exact (hact.keeps ih).keyed

/-- On every run memory, queue and store stay coherent. -/
theorem isCoherent {limit : Nat} (h : Run keeper start changed d)
    (hkeyed : start.world.ledger.IsKeyed)
    (hstart : start.world.ledger.IsCoherent limit (keeper.latest start.store) fun _ => False)
    (hlimit : d.world.ledger.idsUsed ≤ limit) :
    d.world.ledger.IsCoherent limit (keeper.latest d.store) changed := by
  induction h with
  | start => exact hstart
  | act hrun hact ih =>
    have hkeeps := hact.keeps (hrun.isKeyed hkeyed)
    exact hkeeps.coherent hlimit (ih (Nat.le_trans hkeeps.idsUsed hlimit))

/-- On every run that starts with a world that was just restored, for every key whose owner is
loaded: a change in the queue is the value in memory, and so is a record in the store when there is
no change in the queue; a value that was changed in memory is in one of the two. Once a flush
succeeds, every changed value comes back when another world with its owner is restored. -/
theorem restores_changes {w : World} {s : σ} (hkeyed : w.ledger.IsKeyed)
    (hqueue : w.persistence = .empty) (hrun : Run keeper (restored keeper w s) changed d)
    (hfresh : w.HasFreshIds (keeper.list s) d.world.supply.idsUsed) :
    (∀ k, d.world.ledger.owns k = true →
      (∀ r, d.world.persistence.get? k = some r → d.world.ledger.recordOf? k = some r) ∧
      (d.world.persistence.get? k = none →
        ∀ r, (keeper.latest d.store).get? k = some r → d.world.ledger.recordOf? k = some r) ∧
      (changed k →
        d.world.persistence.contains k = true ∨ (keeper.latest d.store).contains k = true)) ∧
    ∀ (n : Nat) (s' : σ) (w' : World),
      d.world.flush (keeper.store d.store) d.store = (.ok n, s', w') →
      ∀ (fresh : World) (k : PersistenceKey), changed k → d.world.ledger.owns k = true →
        fresh.ledger.owns k = true →
        w'.ledger.recordOf? k = d.world.ledger.recordOf? k ∧
        (World.restore (keeper.list s') fresh).2.ledger.recordOf? k =
          d.world.ledger.recordOf? k := by
  have hkeyed₀ : (restored keeper w s).world.ledger.IsKeyed := by
    unfold restored
    rw [World.ledger_restore]
    exact hkeyed.putAll (keeper.list s)
  have hcoherent := hrun.isCoherent hkeyed₀ (isCoherent_restored hqueue hfresh) (Nat.le_refl _)
  have hheld (k : PersistenceKey) : d.world.ledger.held? (keeper.latest d.store) k =
      (d.world.persistence.get? k).or ((keeper.latest d.store).get? k) := rfl
  refine ⟨fun k hk => ⟨fun r hr => ?_, fun hnone r hr => ?_, fun hc => ?_⟩, ?_⟩
  · refine hcoherent.current k r hk ?_
    rw [hheld, hr, Option.some_or]
  · refine hcoherent.current k r hk ?_
    rw [hheld, hnone, Option.none_or, hr]
  · have hkept := hcoherent.kept k hk hc
    rw [hheld, Option.isSome_or, Bool.or_eq_true] at hkept
    exact hkept
  · intro n s' w' hflush fresh k hc hk hfreshOwner
    obtain ⟨hledger, -, hflushed, hempty⟩ :=
      isFlushed_of_flush (hrun.isKeyed hkeyed₀).queue hflush
    obtain ⟨r, hr⟩ := Option.isSome_iff_exists.mp (hcoherent.kept k hk hc)
    have hstored : (RecordTable.ofRecords (keeper.list s')).get? k = some r := by
      rw [← hr, ← hflushed k]
      unfold Ledger.held?
      rw [show w'.ledger.queue = .empty from hempty n rfl]
      rfl
    refine ⟨?_, ?_⟩
    · rw [show w'.ledger = _ from hledger]
      cases k <;> rfl
    · rw [World.recordOf?_restore _ hfreshOwner, hstored, Option.some_or]
      exact (hcoherent.current k r hk hr).symm

/-! ### A counter that is stored -/

/-- A variable that everyone shares. -/
def counter : VariableDescriptor := ⟨⟨9⟩, .server, "counter", .integer, ""⟩

/-- A world in which a counter is described and one player is loaded. -/
def counting : World :=
  (World.start {} { DescriptorSet.empty with vars := [counter] }.catalog (.start 0)
    (.seeded 0)).addPlayer (.fresh ⟨3⟩ "Ann" .nil 1 1)

/-- The world in which the counter was set. -/
def counted : World :=
  { counting with
    serverVariables := Table.empty.insert counter.id (.integer 5)
    persistence := PersistenceQueue.empty.enqueue (.serverVariable counter.id (.integer 5)) }

/-- A page that sets the counter. -/
def countingPage : Page :=
  (Page.draft ⟨1⟩ "count" ⟨2⟩).withRoot [.setVariable counter.ref (.integer (.set 5)) false]

/-- A counter is set, stored, and restored. -/
theorem restores_changes_counter :
    ∃ (s s' : { s : RecordStore // s.records.IsKeyed }) (changed : PersistenceKey → Prop)
      (w' : World), counting.ledger.IsKeyed ∧ counting.persistence = .empty ∧
        Run RecordStore.keeper (restored RecordStore.keeper counting s) changed ⟨counted, s⟩ ∧
        counting.HasFreshIds (RecordStore.keeper.list s) counted.supply.idsUsed ∧
        counted.flush (RecordStore.keeper.store s) s = (.ok 1, s', w') ∧
        changed (.serverVariable counter.id) ∧
        (World.restore (RecordStore.keeper.list s') counting).2.ledger.recordOf?
          (.serverVariable counter.id) = some (.serverVariable counter.id (.integer 5)) := by
  have hkeyed : counting.ledger.IsKeyed := World.isKeyed_addPlayer (World.isKeyed_start ..) _
  let s : { s : RecordStore // s.records.IsKeyed } := ⟨.empty, RecordTable.isKeyed_empty⟩
  let i := Instance.start ⟨4⟩ ⟨5⟩ ⟨3⟩ countingPage
  have hstep : (Turn.mk counting i).step = .ok (.ok .completed, ⟨counted, i.cancel⟩) := rfl
  have hrun : Run RecordStore.keeper (restored RecordStore.keeper counting s) _ ⟨counted, s⟩ :=
    Run.start.act (.step hstep)
  have hnone (limit : Nat) (hlimit : limit = 0) (j : Nat) : ¬ j < limit := by omega
  have hfresh : counting.HasFreshIds (RecordStore.keeper.list s) counted.supply.idsUsed :=
    ⟨fun _ j _ _ h => absurd h (hnone _ rfl j), fun j _ h => absurd h (hnone _ rfl j),
      fun j _ h => absurd h (hnone _ rfl j)⟩
  have hset : counted.ledger.recordOf? (.serverVariable counter.id) =
      some (.serverVariable counter.id (.integer 5)) := rfl
  have hchanged : (restored RecordStore.keeper counting s).world.ledger.changedOnTheWay
      counted.ledger (fun _ => False) (.serverVariable counter.id) := by
    refine .inr ?_
    rw [hset]
    exact Option.some_ne_none _
  refine ⟨s, _, _, _, hkeyed, rfl, hrun, hfresh, rfl, hchanged, ?_⟩
  have hrestored := restores_changes hkeyed rfl hrun hfresh
  rw [← hset]
  exact (hrestored.2 1 _ _ rfl counting _ hchanged rfl rfl).2

end Run

end Service

end EventScript
