import EventScript.Proofs.Persistence.Ledger

/-!
# Coherence of memory, queue and store

Values that outlive a run are in memory, in the queue and in the store. Of the last two the queue
is the newer one, and together they are never behind memory: what they hold for a key of a loaded
owner is what is in memory, and they hold a record for everything that was changed. Moves of the
ledger and flushes keep that, so it holds on every run from a restored world on.
-/

namespace EventScript

namespace Ledger

/-- What is held of a key outside memory: the change that waits, or else the record in the store. -/
def held? (l : Ledger) (stored : RecordTable) (k : PersistenceKey) : Option PersistedRecord :=
  (l.queue.get? k).or (stored.get? k)

/-- The keys that were changed before or are changed on the way from a ledger to another one. -/
def changedOnTheWay (l l' : Ledger) (changed : PersistenceKey → Prop) (k : PersistenceKey) : Prop :=
  changed k ∨ l'.recordOf? k ≠ l.recordOf? k

/-- A guild that is not there and never was: nothing is held of it and nothing was changed. -/
structure IsUnused (l : Ledger) (stored : RecordTable) (changed : PersistenceKey → Prop)
    (g : GuildId) : Prop where
  absent : l.guilds g = none
  unheld : ∀ i, l.held? stored (.guildVariable g i) = none
  unchanged : ∀ i, ¬ changed (.guildVariable g i)

/-- Memory, queue and store agree, as long as fewer identifiers are given out than the limit. -/
structure IsCoherent (limit : Nat) (stored : RecordTable) (changed : PersistenceKey → Prop)
    (l : Ledger) : Prop where
  distinct : ∀ i j, l.idsUsed ≤ i → i < j → j < limit → l.ids i ≠ l.ids j
  unused : ∀ j, l.idsUsed ≤ j → j < limit → l.IsUnused stored changed ⟨l.ids j⟩
  current : ∀ k r, l.owns k = true → l.held? stored k = some r → l.recordOf? k = some r
  kept : ∀ k, l.owns k = true → changed k → (l.held? stored k).isSome = true

variable {l l' : Ledger} {limit : Nat} {stored : RecordTable} {changed : PersistenceKey → Prop}

/-! ## Moves -/

/-- A guild that is not there owns nothing. -/
theorem IsUnused.owns {g : GuildId} (h : l.IsUnused stored changed g) (i : VariableId) :
    l.owns (.guildVariable g i) = false := by
  show (l.guilds g).isSome = false
  rw [h.absent, Option.isSome_none]

/-- What is held after a value was written. -/
theorem held?_write (r : PersistedRecord) (k : PersistenceKey) :
    (l.write r).held? stored k = if r.key = k then some r else l.held? stored k := by
  unfold held? write
  dsimp only
  rw [PersistenceQueue.get?_enqueue]
  split <;> rfl

/-- Writing a value keeps a ledger coherent. -/
theorem IsCoherent.write (h : l.IsCoherent limit stored changed) {r : PersistedRecord}
    (howned : l.owns r.key = true) :
    (l.write r).IsCoherent limit stored (changedOnTheWay l (l.write r) changed) := by
  have hids : (l.write r).ids = l.ids := ids_put r
  have hidsUsed : (l.write r).idsUsed = l.idsUsed := idsUsed_put r
  have howns (k : PersistenceKey) : (l.write r).owns k = l.owns k := owns_put r k
  refine ⟨?_, ?_, ?_, ?_⟩
  · rw [hids, hidsUsed]
    exact h.distinct
  · rw [hids, hidsUsed]
    intro j hj hlimit
    have hunused := h.unused j hj hlimit
    have hne (i : VariableId) : r.key ≠ .guildVariable ⟨l.ids j⟩ i := by
      intro heq
      rw [heq, hunused.owns i] at howned
      cases howned
    refine ⟨(guilds_put_eq_none r _).mpr hunused.absent, fun i => ?_, fun i => ?_⟩
    · rw [held?_write, if_neg (hne i)]
      exact hunused.unheld i
    · rintro (hchanged | hchanged)
      · exact hunused.unchanged i hchanged
      · exact hchanged (recordOf?_put_of_ne (hne i))
  · intro k r' hk hheld
    rw [howns] at hk
    have hrecord : (l.write r).recordOf? k = if r.key = k then some r else l.recordOf? k :=
      recordOf?_put r hk
    rw [held?_write] at hheld
    rw [hrecord]
    split at hheld
    next heq => rw [if_pos heq, hheld]
    next hne =>
      rw [if_neg hne]
      exact h.current k r' hk hheld
  · intro k hk hchanged
    rw [howns] at hk
    rw [held?_write]
    split
    · rfl
    next hne =>
      refine h.kept k hk (hchanged.resolve_right fun hdiffers => hdiffers ?_)
      exact recordOf?_put_of_ne hne

/-- A ledger stays coherent when less is counted as changed. -/
theorem IsCoherent.mono {changed' : PersistenceKey → Prop}
    (h : l.IsCoherent limit stored changed) (hle : ∀ k, changed' k → changed k) :
    l.IsCoherent limit stored changed' := by
  refine ⟨h.distinct, fun j hj hlimit => ?_, h.current, fun k hk hc => h.kept k hk (hle k hc)⟩
  have hunused := h.unused j hj hlimit
  exact ⟨hunused.absent, hunused.unheld, fun i hc => hunused.unchanged i (hle _ hc)⟩

/-- Giving out an identifier keeps a ledger coherent. -/
theorem IsCoherent.draw (h : l.IsCoherent limit stored changed) :
    l.draw.IsCoherent limit stored (changedOnTheWay l l.draw changed) := by
  have hchanged (k : PersistenceKey) (hk : changedOnTheWay l l.draw changed k) : changed k :=
    hk.resolve_right fun hdiffers => hdiffers rfl
  refine ⟨fun i j hi => ?_, fun j hj hlimit => ?_, h.current,
    fun k hk hc => h.kept k hk (hchanged k hc)⟩
  · exact h.distinct i j (Nat.le_of_succ_le hi)
  · have hunused := h.unused j (Nat.le_of_succ_le hj) hlimit
    exact ⟨hunused.absent, hunused.unheld, fun i hc => hunused.unchanged i (hchanged _ hc)⟩

/-- The guild that is founded is the only new owner. -/
theorem owns_found {k : PersistenceKey} (h : l.found.owns k = true) :
    l.owns k = true ∨ ∃ i, k = .guildVariable l.nextGuild i := by
  cases k with
  | guildVariable g i =>
    by_cases hg : g = l.nextGuild
    · exact .inr ⟨i, hg ▸ rfl⟩
    · refine .inl ?_
      have howned : (if g = l.nextGuild then some (l.nextGuild, Table.empty)
          else l.guilds g).isSome = true := h
      rw [if_neg hg] at howned
      exact howned
  | _ => exact .inl h

/-- A guild that is founded has no variables. -/
theorem recordOf?_found (h : l.guilds l.nextGuild = none) (k : PersistenceKey) :
    l.found.recordOf? k = l.recordOf? k := by
  cases k with
  | guildVariable g i =>
    unfold found recordOf?
    by_cases hg : g = l.nextGuild
    · subst hg
      simp only [ite_true, h, Option.bind_some, Option.bind_none, Table.get?_empty,
        Option.map_none]
    · simp only [hg, ite_false]
  | _ => rfl

/-- Founding a guild keeps a ledger coherent. -/
theorem IsCoherent.found (h : l.IsCoherent limit stored changed)
    (hlimit : l.idsUsed < limit) :
    l.found.IsCoherent limit stored (changedOnTheWay l l.found changed) := by
  have hnext : l.IsUnused stored changed l.nextGuild :=
    h.unused l.idsUsed (Nat.le_refl _) hlimit
  have hrecord := recordOf?_found hnext.absent
  have hchanged (k : PersistenceKey) (hk : changedOnTheWay l l.found changed k) : changed k :=
    hk.resolve_right fun hdiffers => hdiffers (hrecord k)
  refine ⟨fun i j hi => ?_, fun j hj hj' => ?_, fun k r hk hheld => ?_, fun k hk hc => ?_⟩
  · exact h.distinct i j (Nat.le_of_succ_le hi)
  · have hunused := h.unused j (Nat.le_of_succ_le hj) hj'
    refine ⟨?_, hunused.unheld, fun i hc => hunused.unchanged i (hchanged _ hc)⟩
    have hne : (⟨l.ids j⟩ : GuildId) ≠ l.nextGuild := fun heq =>
      h.distinct l.idsUsed j (Nat.le_refl _) hj hj' (congrArg Id.value heq).symm
    exact (if_neg hne).trans hunused.absent
  · rw [hrecord]
    rcases owns_found hk with howned | ⟨i, rfl⟩
    · exact h.current k r howned hheld
    · have hunheld := hnext.unheld i
      rw [show l.held? stored (.guildVariable l.nextGuild i) = some r from hheld] at hunheld
      cases hunheld
  · rcases owns_found hk with howned | ⟨i, rfl⟩
    · exact h.kept k howned (hchanged k hc)
    · exact absurd (hchanged _ hc) (hnext.unchanged i)

/-- What is still owned after a guild was dissolved was owned before, and is as it was. -/
theorem owns_dissolve {g : GuildId} {k : PersistenceKey} (h : (l.dissolve g).owns k = true) :
    l.owns k = true ∧ (l.dissolve g).recordOf? k = l.recordOf? k := by
  cases k with
  | guildVariable g' i =>
    by_cases hg : g' = g
    · have hgone : (if g' = g then none else l.guilds g').isSome = true := h
      rw [if_pos hg] at hgone
      cases hgone
    · unfold dissolve owns recordOf? at *
      simp only [hg, ite_false] at h ⊢
      exact ⟨h, trivial⟩
  | _ => exact ⟨h, rfl⟩

/-- Dissolving a guild keeps a ledger coherent. -/
theorem IsCoherent.dissolve (h : l.IsCoherent limit stored changed) (g : GuildId) :
    (l.dissolve g).IsCoherent limit stored (changedOnTheWay l (l.dissolve g) changed) := by
  refine ⟨h.distinct, fun j hj hlimit => ?_, fun k r hk hheld => ?_, fun k hk hc => ?_⟩
  · have hunused := h.unused j hj hlimit
    have habsent : (l.dissolve g).guilds ⟨l.ids j⟩ = none := by
      unfold Ledger.dissolve
      dsimp only
      split
      · rfl
      · exact hunused.absent
    refine ⟨habsent, hunused.unheld, fun i hc => ?_⟩
    rcases hc with hc | hdiffers
    · exact hunused.unchanged i hc
    · have hgone : (l.dissolve g).owns (.guildVariable ⟨l.ids j⟩ i) = false := by
        show ((l.dissolve g).guilds ⟨l.ids j⟩).isSome = false
        rw [habsent, Option.isSome_none]
      have hnone := recordOf?_of_not_owns (hunused.owns i)
      exact hdiffers ((recordOf?_of_not_owns hgone).trans hnone.symm)
  · obtain ⟨howned, hrecord⟩ := owns_dissolve hk
    rw [hrecord]
    exact h.current k r howned hheld
  · obtain ⟨howned, hrecord⟩ := owns_dissolve hk
    exact h.kept k howned (hc.resolve_right fun hdiffers => hdiffers hrecord)

/-- Every move keeps a ledger coherent. -/
theorem IsCoherent.move (h : l.IsCoherent limit stored changed) (hmove : l.Move l')
    (hlimit : l'.idsUsed ≤ limit) :
    l'.IsCoherent limit stored (changedOnTheWay l l' changed) := by
  cases hmove with
  | stay => exact h.mono fun k hk => hk.resolve_right fun hdiffers => hdiffers rfl
  | write r howned => exact h.write howned
  | draw => exact h.draw
  | found => exact h.found hlimit
  | dissolve g => exact h.dissolve g

/-! ## Flushes -/

/-- A ledger stays coherent when what is held is held elsewhere. -/
theorem IsCoherent.requeue (h : l.IsCoherent limit stored changed) {queue : PersistenceQueue}
    {stored' : RecordTable}
    (hheld : ∀ k, { l with queue := queue }.held? stored' k = l.held? stored k) :
    { l with queue := queue }.IsCoherent limit stored' changed := by
  refine ⟨h.distinct, fun j hj hlimit => ?_, fun k r hk hr => ?_, fun k hk hc => ?_⟩
  · have hunused := h.unused j hj hlimit
    refine ⟨hunused.absent, fun i => ?_, hunused.unchanged⟩
    rw [hheld]
    exact hunused.unheld i
  · rw [hheld] at hr
    exact h.current k r hk hr
  · rw [hheld]
    exact h.kept k hk hc

end Ledger

end EventScript
