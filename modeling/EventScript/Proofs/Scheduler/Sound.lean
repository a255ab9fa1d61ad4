import EventScript.Proofs.CallStack.Run
import EventScript.Proofs.Scheduler.Operation

/-!
# Sound schedulers

A scheduler is sound if it is regular, its executions stand on coherent call stacks and the pages of
all common events are valid. It stays sound whatever a host does that starts valid pages only. The
executions of a sound scheduler fail on commands of unknown kind and on nothing else.
-/

namespace EventScript

namespace World.HasValidEvents

variable {w w' : World}

/-- The pages on which common events are started. -/
theorem isValid (h : w.HasValidEvents) {page : Page} (hpage : w.HasEventPage page) :
    page.isValid := by
  obtain ⟨event, d, hd, e, he, rfl⟩ := hpage
  exact h event d hd e he

/-- The common events are part of the catalog. -/
theorem of_catalog (h : w.HasValidEvents) (hcatalog : w'.catalog = w.catalog) :
    w'.HasValidEvents := by
  unfold World.HasValidEvents
  rw [hcatalog]
  exact h

/-- The catalog is part of the backdrop. -/
theorem of_backdrop (h : w.HasValidEvents) (hw : w'.backdrop = w.backdrop) : w'.HasValidEvents :=
  h.of_catalog (congrArg World.Backdrop.catalog hw)

end World.HasValidEvents

namespace Turn

/-- A turn of an execution on a coherent call stack for a loaded player. -/
structure IsSound (t : Turn) : Prop where
  indexed : t.world.IsIndexed
  valid : t.world.HasValidEvents
  coherent : t.run.stack.Coherent
  loaded : (t.world.player? t.run.player).isSome

namespace IsSound

variable {t : Turn} {r : Outcome StepOutcome}

/-- A step. -/
theorem step (h : t.IsSound) (hstep : t.step = .ok r) : r.2.IsSound := by
  obtain ⟨hworld, horigin⟩ := backdrop_step hstep
  have hplayer : r.2.run.origin.player = t.run.origin.player := by rw [horigin]
  refine ⟨h.indexed.step hstep, h.valid.of_backdrop hworld,
    (step_isSafe h.valid h.coherent hstep).coherent, ?_⟩
  change (r.2.world.player? r.2.run.origin.player).isSome
  rw [hplayer]
  exact (congrFun (congrArg World.Backdrop.loaded hworld) t.run.player).trans h.loaded

/-- The same execution, in a world with the same backdrop. -/
theorem elsewhere (h : t.IsSound) {w : World} (hworld : w.backdrop = t.world.backdrop)
    (hindexed : w.IsIndexed) : (Turn.mk w t.run).IsSound where
  indexed := hindexed
  valid := h.valid.of_backdrop hworld
  coherent := h.coherent
  loaded := (congrFun (congrArg World.Backdrop.loaded hworld) t.run.player).trans h.loaded

/-- A number of steps. -/
theorem steps {count : Nat} (h : t.IsSound) (hsteps : Turn.steps count t = .ok r) :
    r.2.IsSound := by
  induction count generalizing t with
  | zero =>
    cases hsteps
    exact h
  | succ count ih =>
    obtain ⟨⟨outcome, t'⟩, hstep, hsteps⟩ := Guarded.bind_eq_ok.mp hsteps
    have ht' : t'.IsSound := h.step hstep
    dsimp only at hsteps
    split at hsteps
    · exact ih ht' hsteps
    · cases hsteps
      exact ht'

/-- A step fails on a command of unknown kind only, and changes nothing but where the execution
stands. -/
theorem unsupported_of_failed (h : t.IsSound) {e : StepError} {t' : Turn}
    (hstep : t.step = .ok (.error e, t')) :
    t.command? = some .unsupported ∧ ∃ st, t' = t.withStack st := by
  have hcommand : t.command? = some .unsupported := by
    cases ((step_isSafe h.valid h.coherent hstep).failure e rfl).1 with
    | unsupported hcommand => exact hcommand
    | missingPlayer hmissing =>
      have hloaded := h.loaded
      rw [hmissing] at hloaded
      cases hloaded
  refine ⟨hcommand, ?_⟩
  have hcase := deed_cases hstep
  rw [deed?_of_unsupported hcommand] at hcase
  dsimp only at hcase
  cases hcase with
  | idle st => exact ⟨st, rfl⟩

end IsSound

/-- A number of steps that fail go well up to a last one, which fails. -/
theorem exists_failed_step {count : Nat} {t t' : Turn} {e : StepError}
    (h : Turn.steps count t = .ok (.error e, t')) :
    ∃ n < count, ∃ t₀, Turn.steps n t = .ok (.ok .continue, t₀) ∧ t₀.step = .ok (.error e, t') := by
  induction count generalizing t with
  | zero => cases h
  | succ count ih =>
    obtain ⟨⟨outcome, t₁⟩, hstep, h⟩ := Guarded.bind_eq_ok.mp h
    dsimp only at h
    split at h
    · obtain ⟨n, hn, t₀, hsteps, hfails⟩ := ih h
      refine ⟨n + 1, Nat.succ_lt_succ hn, t₀, ?_, hfails⟩
      exact Guarded.bind_eq_ok.mpr ⟨_, hstep, hsteps⟩
    · cases h
      exact ⟨0, Nat.succ_pos count, t, rfl, hstep⟩

end Turn

namespace Scheduler

/-! ## Executions on coherent call stacks -/

/-- A regular scheduler whose executions stand on coherent call stacks, while the pages of all
common events are valid. -/
structure IsSound (s : Scheduler) : Prop extends s.IsRegular where
  coherent : ∀ player, ∀ i ∈ s.instancesOf player, i.stack.Coherent
  valid : s.world.HasValidEvents

namespace IsSound

variable {s s' : Scheduler}

/-- A scheduler without executions. -/
theorem start {w : World} (hw : w.IsIndexed) (hvalid : w.HasValidEvents) :
    (Scheduler.start w).IsSound where
  toIsRegular := .start hw
  coherent _ _ hi := absurd hi List.not_mem_nil
  valid := hvalid

/-- The turn of an execution. -/
theorem turn (hs : s.IsSound) {owner : PlayerId} {i : Instance} (hi : i ∈ s.instancesOf owner) :
    (Turn.mk s.world i).IsSound where
  indexed := hs.indexed
  valid := hs.valid
  coherent := hs.coherent owner i hi
  loaded := by
    obtain ⟨hplayer, hloaded⟩ := hs.owned owner i hi
    rwa [← hplayer] at hloaded

/-- Executions were started on coherent call stacks. -/
theorem opens (hs : s.IsSound) {new : PlayerId → Instance → Prop} (h : s.Opens new s')
    (hnew : ∀ player i, new player i → i.stack.Coherent) : s'.IsSound where
  toIsRegular := hs.toIsRegular.opens h
  coherent player i hi := (h.mem hi).elim (hs.coherent player i) (hnew player i)
  valid := by
    rw [h.world]
    exact hs.valid

/-- What was asked for is served. -/
theorem serveRequests (hs : s.IsSound) {r : Nat × Scheduler} (h : s.serveRequests = .ok r) :
    r.2.IsSound := by
  have hs' : s.withoutRequests.IsSound := ⟨hs.withoutRequests, hs.coherent, hs.valid⟩
  have hopens : s.withoutRequests.Opens (fun _ i => i.stack.Coherent) r.2 :=
    .serveRequests (fun _ _ _ _ _ hpage => Instance.coherent_start (hs.valid.isValid hpage)) h
  exact hs'.opens hopens fun _ _ => id

/-- An execution gives way to one that stands on a coherent call stack. -/
theorem replace (hs : s.IsSound) {owner : PlayerId} {index : Nat} {t : Turn}
    (hregular : (s.replace owner index t).IsRegular)
    (hworld : t.world.backdrop = s.world.backdrop) (hcoherent : t.run.stack.Coherent) :
    (s.replace owner index t).IsSound where
  toIsRegular := hregular
  coherent := by
    intro player i hi
    obtain ⟨k, hk⟩ := List.mem_iff_getElem?.mp hi
    rcases getElem?_replace_cases hk with ⟨-, -, rfl⟩ | hk
    · exact hcoherent
    · exact hs.coherent player i (List.mem_of_getElem? hk)
  valid := hs.valid.of_backdrop hworld

/-- What is done along a course. -/
theorem course (hs : s.IsSound) {deeds : List Deed} (h : s.Course deeds s') : s'.IsSound := by
  induction h with
  | rest => exact hs
  | @step s s' owner index i r later found result _ ih =>
    have hsound := (hs.turn (List.mem_of_getElem? found)).step result
    exact ih (hs.replace (hs.toIsRegular.step found result) (Turn.backdrop_step result).1
      hsound.coherent)
  | @abandon s s' owner index i later found _ ih =>
    have hstack : (Scheduler.abandon ⟨s.world, i⟩ owner).run.stack = [] := by
      unfold Scheduler.abandon
      dsimp only
      split <;> rfl
    refine ih (hs.replace (hs.toIsRegular.abandon found) (backdrop_abandon _ owner).1 ?_)
    rw [hstack]
    exact .nil

/-- The executions stand where they stood, or some of them are left out. -/
theorem of_stacks (hs : s.IsSound) (hregular : s'.IsRegular)
    (hcatalog : s'.world.catalog = s.world.catalog)
    (hstacks : ∀ player, ∀ j ∈ s'.instancesOf player,
      ∃ i ∈ s.instancesOf player, j.stack = i.stack) : s'.IsSound where
  toIsRegular := hregular
  coherent player j hj := by
    obtain ⟨i, hi, hstack⟩ := hstacks player j hj
    rw [hstack]
    exact hs.coherent player i hi
  valid := hs.valid.of_catalog hcatalog

/-- Clones see the changes of self switches. -/
theorem applySwitches (hs : s.IsSound) : s.applySwitches.IsSound := by
  refine hs.of_stacks hs.toIsRegular.applySwitches rfl fun player j hj => ?_
  rw [instancesOf_applySwitches] at hj
  obtain ⟨i, hi, rfl⟩ := List.mem_map.mp hj
  obtain ⟨switches, heq⟩ := exists_foldl_applySwitch s.world.switchUpdates i
  exact ⟨i, hi, by rw [heq]⟩

/-- What is complete is removed. -/
theorem reap (hs : s.IsSound) : s.reap.2.IsSound := by
  refine hs.of_stacks hs.toIsRegular.reap rfl fun player j hj => ?_
  rw [instancesOf_reap] at hj
  exact ⟨j, (List.mem_filter.mp hj).1, rfl⟩

/-- A pass. -/
theorem tick (hs : s.IsSound) {r : TickReport × Scheduler} (h : s.tick = .ok r) :
    r.2.IsSound := by
  cases tick_cases h with
  | @intro startedBefore startedAfter s₁ s₂ instances pass before turns after =>
    have hs₁ : s₁.IsSound := hs.serveRequests before
    have hcourse := course_of_takeAllTurns s₁.instances.nodup_keys
      (fun e he => Table.mem_entries_iff.mp he) turns
    exact ((hs₁.course hcourse).applySwitches.serveRequests after).reap

/-- A response. -/
theorem answer (hs : s.IsSound) {player : PlayerId} {index : Nat} {i : Instance}
    {response : Response} {r : Turn.Outcome Bool} (found : (s.instancesOf player)[index]? = some i)
    (result : (Turn.mk s.world i).answer response = .ok r) :
    (s.replace player index r.2).IsSound := by
  obtain ⟨hworld, horigin⟩ := Turn.backdrop_answer result
  have hregular := hs.toIsRegular.replace found hworld horigin
    (World.IsIndexed.answer hs.indexed result)
  have hcoherent := hs.coherent player i (List.mem_of_getElem? found)
  exact hs.replace hregular hworld (Turn.answer_coherent hcoherent result)

/-- A signal. -/
theorem signal (hs : s.IsSound) (player : PlayerId) (signal : Signal) :
    (s.signal player signal).2.IsSound := by
  have hcatalog : (observe s.world player signal).catalog = s.world.catalog := by
    unfold observe
    dsimp only
    split <;> rfl
  have hperform : s.perform (.signal player signal) = .ok (s.signal player signal).2 := rfl
  refine ⟨hs.toIsRegular.perform hperform, fun owner j hj => ?_, hs.valid.of_catalog hcatalog⟩
  rw [instancesOf_signal] at hj
  obtain ⟨i, hi, rfl⟩ := List.mem_map.mp hj
  have hcoherent := hs.coherent owner i hi
  split
  · exact CallStack.Coherent.isSettled.receive hcoherent signal
  · exact hcoherent

/-- A player is let go. -/
theorem releasePlayer (hs : s.IsSound) (player : PlayerId) :
    (s.releasePlayer player).2.IsSound := by
  have hcatalog : (s.releasePlayer player).2.world.catalog = s.world.catalog := by
    rw [world_releasePlayer]
  have hperform : s.perform (.releasePlayer player) = .ok (s.releasePlayer player).2 := rfl
  refine hs.of_stacks (hs.toIsRegular.perform hperform) hcatalog fun owner j hj => ?_
  rw [instancesOf_releasePlayer] at hj
  obtain ⟨i, hi, rfl⟩ := List.mem_map.mp (List.mem_filter.mp hj).1
  exact ⟨i, hi, by split <;> rfl⟩

/-- A map is unloaded. -/
theorem unloadMap (hs : s.IsSound) (map : MapId) : (s.unloadMap map).2.IsSound := by
  have hperform : s.perform (.unloadMap map) = .ok (s.unloadMap map).2 := rfl
  refine hs.of_stacks (hs.toIsRegular.perform hperform) rfl fun owner j hj => ?_
  rw [instancesOf_unloadMap] at hj
  exact ⟨j, (List.mem_filter.mp hj).1, rfl⟩

/-- A player leaves. -/
theorem disconnect (hs : s.IsSound) (player : PlayerId) : (s.disconnect player).2.IsSound := by
  refine hs.of_stacks (hs.toIsRegular.disconnect player) rfl fun owner j hj => ?_
  rw [instancesOf_disconnect] at hj
  split at hj
  · exact absurd hj List.not_mem_nil
  · exact ⟨j, hj, rfl⟩

end IsSound

/-! ## What a host does -/

/-- A host starts events on valid pages. -/
def StartsValid : Operation → Prop
  | .startEvent _ _ page => page.isValid
  | .startGlobal _ _ page _ => page.isValid
  | _ => True

/-- The page that such a host names. -/
theorem StartsValid.isValid {op : Operation} (hop : StartsValid op) {page : Page}
    (hpage : op.page? = some page) : page.isValid := by
  cases op with
  | startEvent | startGlobal =>
    cases hpage
    exact hop
  | _ => cases hpage

/-- Whatever a host does that starts events on valid pages keeps a scheduler sound. -/
theorem IsSound.perform {s s' : Scheduler} (hs : s.IsSound) {op : Operation}
    (hop : StartsValid op) (h : s.perform op = .ok s') : s'.IsSound := by
  cases perform_cases hs.toIsRegular h with
  | opened hopens =>
    refine hs.opens hopens fun player i hnew => ?_
    obtain ⟨page, hstack, hpage⟩ := hnew.page
    rw [hstack]
    exact Instance.coherent_start (hpage.elim hop.isValid hs.valid.isValid)
  | passed =>
    obtain ⟨r, hr, h⟩ := Guarded.bind_eq_ok.mp h
    cases h
    exact hs.tick hr
  | answered found result => exact hs.answer found result
  | signalled player signal => exact hs.signal player signal
  | released player => exact hs.releasePlayer player
  | unloaded map => exact hs.unloadMap map
  | disconnected player => exact hs.disconnect player

/-- However a host that starts events on valid pages goes on with a scheduler that started without
executions, it is sound. -/
theorem isSound_of_moves {w : World} (hw : w.IsIndexed) (hvalid : w.HasValidEvents) {s : Scheduler}
    (h : Relation.ReflTransGen (Moves fun _ op => StartsValid op) (.start w) s) : s.IsSound := by
  induction h with
  | refl => exact .start hw hvalid
  | tail _ hmove ih =>
    obtain ⟨op, hop, hperform⟩ := hmove
    exact ih.perform hop hperform

end Scheduler

end EventScript
