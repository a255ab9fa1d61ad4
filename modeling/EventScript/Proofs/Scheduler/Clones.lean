import EventScript.Proofs.Scheduler.Operation

/-!
# Self switches of clones

The clones of a global event on a map share their self switches: a clone that sets one changes its
own at once, and the change is queued for all clones, which see the queue in order when every
execution had its turn. So behind a pass a switch of a clone has the value that was set last by any
of them, and nothing else that happens in the pass changes it. The switches of an execution that is
no clone change by its own deeds only, the last of which counts.
-/

namespace EventScript

/-- The self switch that a deed sets and its new value, if it sets one. -/
def Deed.setSwitch? (d : Deed) : Option (UInt64 × Bool) :=
  match d.command with
  | .setSelfSwitch switch value => some (switch, value)
  | _ => none

/-- The change of a self switch that clones have to see of a deed, if there is one. -/
def Deed.switchUpdate? (d : Deed) : Option SwitchUpdate :=
  d.setSwitch?.bind fun set => d.scene.switchUpdate? set.1 set.2

/-- Whether a deed sets the self switch with a number. -/
def Deed.Sets (d : Deed) (k : Nat) : Prop := ∃ set, d.setSwitch? = some set ∧ set.1.toNat = k

/-- The value that a deed gives to the self switch with a number, if it sets that one and is done by
an execution that was started as told. -/
def Deed.setBy? (d : Deed) (origin : Instance) (k : Nat) : Option Bool :=
  d.setSwitch?.bind fun set =>
    if d.scene.run.origin = origin ∧ set.1.toNat = k then some set.2 else none

/-- The value that an execution that was started as told gave to a self switch last, if it did set
it. -/
def Deed.lastSet? (deeds : List Deed) (origin : Instance) (k : Nat) : Option Bool :=
  (deeds.filterMap fun d => d.setBy? origin k).getLast?

/-- Of deeds one after the other the later ones count. -/
theorem Deed.lastSet?_append (deeds deeds' : List Deed) (origin : Instance) (k : Nat) :
    lastSet? (deeds ++ deeds') origin k =
      (lastSet? deeds' origin k).or (lastSet? deeds origin k) := by
  unfold lastSet?
  rw [List.filterMap_append, List.getLast?_append]

/-- Of one deed that one counts. -/
theorem Deed.lastSet?_singleton (d : Deed) (origin : Instance) (k : Nat) :
    lastSet? [d] origin k = d.setBy? origin k := by
  unfold lastSet?
  rw [List.filterMap_cons]
  cases d.setBy? origin k <;> rfl

/-- Deeds of others set no switch of an execution. -/
theorem Deed.lastSet?_of_ne {deeds : List Deed} {origin : Instance}
    (h : ∀ d ∈ deeds, d.scene.run.origin ≠ origin) (k : Nat) : lastSet? deeds origin k = none := by
  unfold lastSet?
  rw [List.getLast?_eq_none_iff, List.filterMap_eq_nil_iff]
  intro d hd
  refine Option.bind_eq_none_iff.mpr fun set _ => if_neg ?_
  exact fun hown => h d hd hown.1

/-- A value that was given last was given by a deed. -/
theorem Deed.exists_of_lastSet? {deeds : List Deed} {origin : Instance} {k : Nat}
    (h : lastSet? deeds origin k ≠ none) :
    ∃ d ∈ deeds, d.Sets k ∧ d.scene.run.origin = origin := by
  unfold lastSet? at h
  rw [ne_eq, List.getLast?_eq_none_iff, List.filterMap_eq_nil_iff] at h
  push Not at h
  obtain ⟨d, hd, hset⟩ := h
  obtain ⟨value, hvalue⟩ := Option.ne_none_iff_exists'.mp hset
  obtain ⟨set, hset, hvalue⟩ := Option.bind_eq_some_iff.mp hvalue
  split at hvalue
  · next hown => exact ⟨d, hd, ⟨set, hset, hown.2⟩, hown.1⟩
  · cases hvalue

namespace SwitchUpdate

/-- Whether a change is one of a switch of an event on a map. -/
def concerns (u : SwitchUpdate) (event : EventId) (map : MapId) (k : Nat) : Bool :=
  u.event == event && u.map == map && u.switch.toNat == k

/-- The value that a switch has after a number of changes, if one of them concerns it. -/
def last? (us : List SwitchUpdate) (event : EventId) (map : MapId) (k : Nat) : Option Bool :=
  ((us.filter fun u => u.concerns event map k).getLast?).map SwitchUpdate.value

/-- Of changes one after the other the later ones count. -/
theorem last?_append (us us' : List SwitchUpdate) (event : EventId) (map : MapId) (k : Nat) :
    last? (us ++ us') event map k = (last? us' event map k).or (last? us event map k) := by
  unfold last?
  rw [List.filter_append, List.getLast?_append, Option.map_or]

/-- A switch has no value after changes none of which concerns it. -/
theorem last?_eq_none_iff {us : List SwitchUpdate} {event : EventId} {map : MapId} {k : Nat} :
    last? us event map k = none ↔
      ∀ u ∈ us, ¬ (u.event = event ∧ u.map = map ∧ u.switch.toNat = k) := by
  unfold last?
  rw [Option.map_eq_none_iff, List.getLast?_eq_none_iff, List.filter_eq_nil_iff]
  simp only [concerns, Bool.and_eq_true, beq_iff_eq, and_assoc]

end SwitchUpdate

/-! ## Switches of one execution -/

namespace Instance

/-- Setting a self switch. -/
theorem selfSwitch_setSelfSwitch (i : Instance) (switch : Nat) (value : Bool) (k : Nat) :
    (i.setSelfSwitch switch value).selfSwitch k =
      if switch = k ∧ k < 4 then value else i.selfSwitch k := by
  unfold setSelfSwitch selfSwitch
  rw [Vector.getElem?_setIfInBounds]
  split
  · next heq =>
    subst heq
    by_cases hk : switch < 4
    · simp [hk]
    · simp [hk]
  · next hne => simp [hne]

/-- There are four switches. -/
theorem selfSwitch_of_le (i : Instance) {k : Nat} (hk : 4 ≤ k) : i.selfSwitch k = false := by
  unfold selfSwitch
  rw [Vector.getElem?_eq_none hk]
  rfl

/-- Executions with the same switches have the same value in each of them. -/
theorem selfSwitch_congr {i j : Instance} (h : i.selfSwitches = j.selfSwitches) (k : Nat) :
    i.selfSwitch k = j.selfSwitch k := by
  unfold selfSwitch
  rw [h]

/-- Executions with the same value in each of the four switches have the same switches. -/
theorem selfSwitches_eq {i j : Instance} (h : ∀ k < 4, i.selfSwitch k = j.selfSwitch k) :
    i.selfSwitches = j.selfSwitches := by
  refine Vector.ext fun k hk => ?_
  have hswitch := h k hk
  unfold selfSwitch at hswitch
  rwa [Vector.getElem?_eq_getElem hk, Vector.getElem?_eq_getElem hk] at hswitch

end Instance

/-- What a step does to self switches: the changes that clones have to see are queued, and the
execution sets its own switch. -/
theorem Turn.switches_step {t : Turn} {r : Outcome StepOutcome} (h : t.step = .ok r) :
    r.2.world.switchUpdates =
        t.world.switchUpdates ++ (t.deed?.bind Deed.switchUpdate?).toList ∧
      r.2.run.selfSwitches = (t.deed?.bind Deed.setSwitch?).elim t.run.selfSwitches fun set =>
        t.run.selfSwitches.setIfInBounds set.1.toNat set.2 := by
  have hcase := deed_cases h
  generalize t.deed? = deed at hcase
  generalize r.2 = t' at hcase ⊢
  cases hcase with
  | idle => exact ⟨(List.append_nil _).symm, rfl⟩
  | @done p page c s st st' hplayer hscene =>
    have hcase := Scene.reserve_cases _ hscene
    show s.reserve.world.switchUpdates = _ ∧ s.reserve.selfSwitches = _
    generalize s.reserve = after at hcase ⊢
    cases hcase with
    | selfSwitch switch value => exact ⟨rfl, rfl⟩
    | untouched huntouched =>
      cases c with
      | setSelfSwitch => cases huntouched
      | _ => exact ⟨(List.append_nil _).symm, rfl⟩
    | _ => exact ⟨(List.append_nil _).symm, rfl⟩

/-- The execution that does a deed is the one whose turn it is. -/
theorem Turn.origin_of_deed? {t : Turn} {r : Outcome StepOutcome} (h : t.step = .ok r) {d : Deed}
    (hd : t.deed? = some d) : d.scene.run.origin = t.run.origin := by
  have hcase := deed_cases h
  rw [hd] at hcase
  generalize r.2 = t' at hcase
  cases hcase with
  | done => rfl

/-- After a step an execution has its switches as it set them last. -/
theorem Turn.selfSwitch_step {t : Turn} {r : Outcome StepOutcome} (h : t.step = .ok r) {k : Nat}
    (hk : k < 4) : r.2.run.selfSwitch k =
      (Deed.lastSet? t.deed?.toList t.run.origin k).getD (t.run.selfSwitch k) := by
  obtain ⟨-, hswitches⟩ := Turn.switches_step h
  cases hdeed : t.deed? with
  | none =>
    rw [hdeed] at hswitches
    exact Instance.selfSwitch_congr hswitches k
  | some d =>
    rw [hdeed, Option.bind_some] at hswitches
    rw [Option.toList_some, Deed.lastSet?_singleton, Deed.setBy?, Turn.origin_of_deed? h hdeed]
    cases hset : d.setSwitch? with
    | none =>
      rw [hset] at hswitches
      exact Instance.selfSwitch_congr hswitches k
    | some set =>
      rw [hset] at hswitches
      have hown : r.2.run.selfSwitches = (t.run.setSelfSwitch set.1.toNat set.2).selfSwitches :=
        hswitches
      rw [Instance.selfSwitch_congr hown, Instance.selfSwitch_setSelfSwitch]
      by_cases heq : set.1.toNat = k
      · simp [heq, hk]
      · simp [heq]

namespace Scheduler

/-! ## Changes that clones see -/

section

variable {i : Instance}

/-- A change is seen by an execution that stays what it was started as. -/
theorem origin_applySwitch (u : SwitchUpdate) (i : Instance) :
    (applySwitch u i).origin = i.origin := by
  unfold applySwitch
  split <;> rfl

/-- An execution that is no clone sees no changes. -/
theorem foldl_applySwitch_of_not_isGlobal (us : List SwitchUpdate) (h : i.isGlobal = false) :
    us.foldl (fun i u => applySwitch u i) i = i := by
  refine List.foldlRecOn (motive := fun j : Instance => j = i) _ _ rfl fun j hj u _ => ?_
  subst hj
  unfold applySwitch
  rw [h, Bool.false_and, Bool.false_and, if_neg Bool.false_ne_true]

/-- A clone sees a change of its event on its map. -/
theorem selfSwitch_applySwitch (u : SwitchUpdate) (h : i.isGlobal = true) {k : Nat} (hk : k < 4) :
    (applySwitch u i).selfSwitch k =
      (SwitchUpdate.last? [u] i.event i.map k).getD (i.selfSwitch k) := by
  unfold applySwitch SwitchUpdate.last? SwitchUpdate.concerns
  by_cases hown : i.event = u.event ∧ i.map = u.map
  · obtain ⟨hevent, hmap⟩ := hown
    by_cases hswitch : u.switch.toNat = k
    · simp [h, hevent, hmap, hswitch, hk, Instance.selfSwitch_setSelfSwitch]
    · simp [h, hevent, hmap, hswitch, Instance.selfSwitch_setSelfSwitch]
  · rw [not_and] at hown
    by_cases hevent : i.event = u.event
    · simp [hevent, hown hevent, Ne.symm (hown hevent)]
    · simp [hevent, Ne.symm hevent]

/-- A clone sees the changes of its event on its map, and of these the last one counts. -/
theorem selfSwitch_foldl_applySwitch (us : List SwitchUpdate) (h : i.isGlobal = true) {k : Nat}
    (hk : k < 4) :
    (us.foldl (fun i u => applySwitch u i) i).selfSwitch k =
      (SwitchUpdate.last? us i.event i.map k).getD (i.selfSwitch k) := by
  induction us generalizing i with
  | nil => rfl
  | cons u rest ih =>
    obtain ⟨hevent, hmap, hglobal⟩ := Instance.of_origin (origin_applySwitch u i)
    have happend := SwitchUpdate.last?_append [u] rest i.event i.map k
    rw [List.singleton_append] at happend
    rw [List.foldl_cons, ih (hglobal.trans h), hevent, hmap, selfSwitch_applySwitch u h hk,
      happend]
    cases SwitchUpdate.last? rest i.event i.map k <;> rfl

end

/-- The end of an execution that failed sets no switch. -/
theorem selfSwitches_abandon (t : Turn) (owner : PlayerId) :
    (abandon t owner).run.selfSwitches = t.run.selfSwitches := by
  unfold abandon
  dsimp only
  split <;> rfl

/-! ## Courses -/

/-- An execution and what became of it while deeds were done: it is what it was started as, and it
set every switch itself that has another value. -/
structure KeepsSwitches (deeds : List Deed) (i j : Instance) : Prop where
  origin : j.origin = i.origin
  own : ∀ k, j.selfSwitch k ≠ i.selfSwitch k →
    ∃ d ∈ deeds, d.Sets k ∧ d.scene.run.origin = i.origin

namespace KeepsSwitches

variable {deeds deeds' : List Deed} {i j l : Instance}

/-- It is what it was started as and has the switches it had. -/
theorem of_eq (deeds : List Deed) (horigin : j.origin = i.origin)
    (hswitches : j.selfSwitches = i.selfSwitches) : KeepsSwitches deeds i j :=
  ⟨horigin, fun k h => absurd (Instance.selfSwitch_congr hswitches k) h⟩

/-- Nothing became of it. -/
theorem refl (deeds : List Deed) (i : Instance) : KeepsSwitches deeds i i := .of_eq deeds rfl rfl

/-- First one thing and then another became of it. -/
theorem trans (h : KeepsSwitches deeds i j) (h' : KeepsSwitches deeds' j l) :
    KeepsSwitches (deeds ++ deeds') i l where
  origin := h'.origin.trans h.origin
  own k hk := by
    by_cases hfirst : j.selfSwitch k = i.selfSwitch k
    · rw [← hfirst] at hk
      obtain ⟨d, hd, hsets, horigin⟩ := h'.own k hk
      exact ⟨d, List.mem_append_right _ hd, hsets, horigin.trans h.origin⟩
    · obtain ⟨d, hd, hsets⟩ := h.own k hfirst
      exact ⟨d, List.mem_append_left _ hd, hsets⟩

/-- A step. -/
theorem step {t : Turn} {r : Turn.Outcome StepOutcome} (h : t.step = .ok r) :
    KeepsSwitches t.deed?.toList t.run r.2.run where
  origin := (Turn.backdrop_step h).2
  own k hk := by
    have hlt : k < 4 := by
      by_contra hge
      exact hk ((Instance.selfSwitch_of_le _ (Nat.le_of_not_lt hge)).trans
        (Instance.selfSwitch_of_le _ (Nat.le_of_not_lt hge)).symm)
    rw [Turn.selfSwitch_step h hlt] at hk
    refine Deed.exists_of_lastSet? fun hnone => hk ?_
    rw [hnone]
    rfl

end KeepsSwitches

/-- Along a course the changes that clones have to see are queued in order, and every execution sets
its own switches only. -/
theorem Course.switches {s s' : Scheduler} {deeds : List Deed} (h : s.Course deeds s') :
    s'.world.switchUpdates = s.world.switchUpdates ++ deeds.filterMap Deed.switchUpdate? ∧
      ∀ (owner : PlayerId) (k : Nat) (j : Instance), (s'.instancesOf owner)[k]? = some j →
        ∃ i : Instance, (s.instancesOf owner)[k]? = some i ∧ KeepsSwitches deeds i j := by
  induction h with
  | rest => exact ⟨(List.append_nil _).symm, fun _ _ j hj => ⟨j, hj, .refl [] j⟩⟩
  | @step s s' owner index i r later found result _ ih =>
    obtain ⟨hqueue, hinstances⟩ := ih
    have hdeed : (Turn.mk s.world i).deed?.toList.filterMap Deed.switchUpdate? =
        ((Turn.mk s.world i).deed?.bind Deed.switchUpdate?).toList := by
      cases (Turn.mk s.world i).deed? <;> rfl
    refine ⟨?_, fun player k j hj => ?_⟩
    · rw [hqueue, List.filterMap_append, hdeed, ← List.append_assoc]
      exact congrArg (· ++ later.filterMap Deed.switchUpdate?) (Turn.switches_step result).1
    · obtain ⟨i', hi', hkept⟩ := hinstances player k j hj
      rcases getElem?_replace_cases hi' with ⟨rfl, rfl, rfl⟩ | hi'
      · exact ⟨i, found, (KeepsSwitches.step result).trans hkept⟩
      · exact ⟨i', hi', (KeepsSwitches.refl _ i').trans hkept⟩
  | @abandon s s' owner index i later found _ ih =>
    obtain ⟨hqueue, hinstances⟩ := ih
    have hworld :
        (Scheduler.abandon ⟨s.world, i⟩ owner).world.switchUpdates = s.world.switchUpdates := by
      unfold Scheduler.abandon
      dsimp only
      split <;> rfl
    have horigin := (backdrop_abandon ⟨s.world, i⟩ owner).2
    have hswitches := selfSwitches_abandon ⟨s.world, i⟩ owner
    refine ⟨?_, fun player k j hj => ?_⟩
    · rw [hqueue]
      exact congrArg (· ++ later.filterMap Deed.switchUpdate?) hworld
    · obtain ⟨i', hi', hkept⟩ := hinstances player k j hj
      rcases getElem?_replace_cases hi' with ⟨rfl, rfl, rfl⟩ | hi'
      · exact ⟨i, found, (KeepsSwitches.of_eq [] horigin hswitches).trans hkept⟩
      · exact ⟨i', hi', hkept⟩

/-! ## What executions set last -/

namespace IsWellFormed

variable {s s' : Scheduler}

/-- Executions that were started as the same are one. -/
theorem eq_of_origin (hs : s.IsWellFormed) {p q : PlayerId} {k l : Nat} {i j : Instance}
    (hi : (s.instancesOf p)[k]? = some i) (hj : (s.instancesOf q)[l]? = some j)
    (h : i.origin = j.origin) : p = q ∧ k = l := by
  have hplayer : i.origin.player = j.origin.player := by rw [h]
  have hp := (hs.owned p i (List.mem_of_getElem? hi)).1
  have hq := (hs.owned q j (List.mem_of_getElem? hj)).1
  obtain rfl : p = q := hp.symm.trans (hplayer.trans hq)
  refine ⟨rfl, ?_⟩
  have hlength : k < ((s.instancesOf p).map Instance.event).length := by
    rw [List.length_map]
    exact (List.getElem?_eq_some_iff.mp hi).1
  refine (List.getElem?_inj hlength (hs.once p)).mp ?_
  rw [List.getElem?_map, List.getElem?_map, hi, hj]
  exact congrArg some (Instance.of_origin h).1

end IsWellFormed

/-- Along a course all executions stay what they were started as. -/
theorem Course.map_origin {s s' : Scheduler} {deeds : List Deed} (h : s.Course deeds s')
    (player : PlayerId) :
    (s'.instancesOf player).map Instance.origin = (s.instancesOf player).map Instance.origin := by
  induction h with
  | rest => rfl
  | step found result _ ih =>
    exact ih.trans (map_origin_replace found (Turn.backdrop_step result).2 player)
  | @abandon s s' owner index i later found _ ih =>
    exact ih.trans (map_origin_replace found (backdrop_abandon ⟨s.world, i⟩ owner).2 player)

/-- The deeds of a course are done by executions that were there before it. -/
theorem Course.exists_origin {s s' : Scheduler} {deeds : List Deed} (h : s.Course deeds s')
    {d : Deed} (hd : d ∈ deeds) :
    ∃ owner, d.scene.run.origin ∈ (s.instancesOf owner).map Instance.origin := by
  obtain ⟨first, s₁, owner, index, i, r, hfirst, found, result, hdeed⟩ := h.exists_step hd
  refine ⟨owner, ?_⟩
  rw [Turn.origin_of_deed? result hdeed, ← hfirst.map_origin]
  exact List.mem_map.mpr ⟨i, List.mem_of_getElem? found, rfl⟩

/-- Along a course a well-formed scheduler stays so. -/
theorem Course.wellFormed {s s' : Scheduler} {deeds : List Deed} (h : s.Course deeds s')
    (hs : s.IsWellFormed) : s'.IsWellFormed := by
  induction h with
  | rest => exact hs
  | step found result _ ih =>
    obtain ⟨hworld, horigin⟩ := Turn.backdrop_step result
    exact ih (hs.replace found hworld horigin)
  | @abandon s s' owner index i later found _ ih =>
    obtain ⟨hworld, horigin⟩ := backdrop_abandon ⟨s.world, i⟩ owner
    exact ih (hs.replace found hworld horigin)

/-- Behind a course over a well-formed scheduler every execution has its switches as it set them
last. -/
theorem Course.selfSwitch {s s' : Scheduler} {deeds : List Deed} (h : s.Course deeds s')
    (hs : s.IsWellFormed) {player : PlayerId} {k : Nat} {i j : Instance}
    (hi : (s.instancesOf player)[k]? = some i) (hj : (s'.instancesOf player)[k]? = some j)
    {n : Nat} (hn : n < 4) :
    j.selfSwitch n = (Deed.lastSet? deeds i.origin n).getD (i.selfSwitch n) := by
  induction h generalizing i with
  | rest =>
    rw [hi] at hj
    cases hj
    rfl
  | @step s s' owner index i₀ r later found result _ ih =>
    obtain ⟨hworld, horigin⟩ := Turn.backdrop_step result
    have hs' := hs.replace found hworld horigin
    rw [Deed.lastSet?_append]
    by_cases hown : owner = player ∧ index = k
    · obtain ⟨rfl, rfl⟩ := hown
      rw [found] at hi
      cases hi
      rw [ih hs' (getElem?_replace found r.2) hj, horigin, Turn.selfSwitch_step result hn]
      cases Deed.lastSet? later i₀.origin n <;> rfl
    · -- somebody else did the deed
      have hother : ∀ d ∈ (Turn.mk s.world i₀).deed?.toList, d.scene.run.origin ≠ i.origin := by
        intro d hd hsame
        rw [Turn.origin_of_deed? result (Option.mem_toList.mp hd)] at hsame
        exact hown (hs.eq_of_origin found hi hsame)
      rw [Deed.lastSet?_of_ne hother, Option.or_none]
      exact ih hs' ((getElem?_replace_of_ne hown r.2).trans hi) hj
  | @abandon s s' owner index i₀ later found _ ih =>
    obtain ⟨hworld, horigin⟩ := backdrop_abandon ⟨s.world, i₀⟩ owner
    have hs' := hs.replace found hworld horigin
    by_cases hown : owner = player ∧ index = k
    · obtain ⟨rfl, rfl⟩ := hown
      rw [found] at hi
      cases hi
      have hswitches := selfSwitches_abandon ⟨s.world, i₀⟩ owner
      rw [ih hs' (getElem?_replace found _) hj, horigin, Instance.selfSwitch_congr hswitches]
    · exact ih hs' ((getElem?_replace_of_ne hown _).trans hi) hj

/-! ## Passes -/

/-- All clones of an event on a map have the same self switches. -/
def ClonesAgree (s : Scheduler) : Prop :=
  ∀ p q, ∀ i ∈ s.instancesOf p, ∀ j ∈ s.instancesOf q, i.isGlobal = true → j.isGlobal = true →
    i.event = j.event → i.map = j.map → i.selfSwitches = j.selfSwitches

/-- The changes of self switches that clones see in the next pass, oldest first. -/
def switchChanges (s : Scheduler) : List SwitchUpdate :=
  s.world.switchUpdates ++ s.deeds.filterMap Deed.switchUpdate?

/-- An execution and what became of it in a pass: it is what it was started as, and each of its
switches has the value that a clone of its event gave it last, if it is a clone itself, and else is
as it was or was set by the execution. There it has the value that the execution gave it last, as
long as executions are told apart by what they were started as. -/
structure PassSwitches (s : Scheduler) (i j : Instance) : Prop where
  origin : j.origin = i.origin
  shared : j.isGlobal = true → ∀ k < 4, j.selfSwitch k =
    (SwitchUpdate.last? s.switchChanges j.event j.map k).getD (i.selfSwitch k)
  own : j.isGlobal = false → ∀ k, j.selfSwitch k ≠ i.selfSwitch k →
    ∃ d ∈ s.deeds, d.Sets k ∧ d.scene.run.origin = j.origin
  last : j.isGlobal = false → s.IsWellFormed → ∀ k < 4,
    j.selfSwitch k = (Deed.lastSet? s.deeds j.origin k).getD (i.selfSwitch k)

/-- A clone that sets a switch lets the other clones see it. -/
theorem last?_ne_none_of_sets {deeds : List Deed} {d : Deed} (hd : d ∈ deeds) {k : Nat}
    (hsets : d.Sets k) {i : Instance} (horigin : d.scene.run.origin = i.origin)
    (hglobal : i.isGlobal = true) :
    SwitchUpdate.last? (deeds.filterMap Deed.switchUpdate?) i.event i.map k ≠ none := by
  obtain ⟨set, hset, hswitch⟩ := hsets
  obtain ⟨hevent, hmap, hsame⟩ := Instance.of_origin horigin
  intro hnone
  refine SwitchUpdate.last?_eq_none_iff.mp hnone
    ⟨d.scene.run.event, d.scene.run.map, set.1, set.2⟩ (List.mem_filterMap.mpr ⟨d, hd, ?_⟩)
    ⟨hevent, hmap, hswitch⟩
  unfold Deed.switchUpdate? Scene.switchUpdate?
  rw [hset, Option.bind_some, if_pos (hsame.trans hglobal)]

/-- What becomes of an execution when all had their turns and the clones see the changes. -/
theorem passSwitches_of_course {s s₁ s₂ : Scheduler}
    (hqueue : s₁.world.switchUpdates = s.world.switchUpdates)
    (hformed : s.IsWellFormed → s₁.IsWellFormed) (h : s₁.Course s.deeds s₂)
    {player : PlayerId} {j : Instance} (hj : j ∈ s₂.applySwitches.instancesOf player) :
    ∃ i ∈ s₁.instancesOf player, s.PassSwitches i j := by
  obtain ⟨hqueue', hinstances⟩ := h.switches
  rw [instancesOf_applySwitches] at hj
  obtain ⟨l, hl, rfl⟩ := List.mem_map.mp hj
  obtain ⟨k, hk⟩ := List.mem_iff_getElem?.mp hl
  obtain ⟨i, hi, hkept⟩ := hinstances player k l hk
  have horigin : (s₂.world.switchUpdates.foldl (fun i u => applySwitch u i) l).origin =
      l.origin := by
    obtain ⟨_, heq⟩ := exists_foldl_applySwitch s₂.world.switchUpdates l
    rw [heq]
    rfl
  obtain ⟨hevent, hmap, hglobal⟩ := Instance.of_origin horigin
  have hchanges : s₂.world.switchUpdates = s.switchChanges := by
    rw [hqueue', hqueue]
    rfl
  refine ⟨i, List.mem_of_getElem? hi, horigin.trans hkept.origin, fun hclone k hk => ?_,
    fun hown k hk => ?_, fun hown hs n hn => ?_⟩
  · have hclone' := hglobal.symm.trans hclone
    rw [selfSwitch_foldl_applySwitch _ hclone' hk, hevent, hmap, hchanges]
    cases hlast : SwitchUpdate.last? s.switchChanges l.event l.map k with
    | some value => rfl
    | none =>
      -- nothing was set by a clone, so nothing was set by this one
      by_contra hne
      obtain ⟨d, hd, hsets, horigin'⟩ := hkept.own k hne
      unfold switchChanges at hlast
      rw [SwitchUpdate.last?_append, Option.or_eq_none_iff] at hlast
      exact last?_ne_none_of_sets hd hsets (horigin'.trans hkept.origin.symm) hclone' hlast.1
  · rw [foldl_applySwitch_of_not_isGlobal _ (hglobal.symm.trans hown)] at hk ⊢
    obtain ⟨d, hd, hsets, horigin'⟩ := hkept.own k hk
    exact ⟨d, hd, hsets, horigin'.trans hkept.origin.symm⟩
  · rw [foldl_applySwitch_of_not_isGlobal _ (hglobal.symm.trans hown), hkept.origin]
    exact h.selfSwitch (hformed hs) hi hk hn

/-- What is started behind a course over a well-formed scheduler was not there along it, so no deed
of the course is its own. -/
theorem Course.origin_ne {s s' s'' : Scheduler} {deeds : List Deed} (h : s.Course deeds s')
    {new : PlayerId → Instance → Prop} (hopens : s'.applySwitches.withoutRequests.Opens new s'')
    (hs : s''.IsWellFormed) {player : PlayerId} {j : Instance} (hj : j ∈ s''.instancesOf player)
    (hnew : j ∉ s'.applySwitches.withoutRequests.instancesOf player) :
    ∀ d ∈ deeds, d.scene.run.origin ≠ j.origin := by
  intro d hd hsame
  obtain ⟨owner, hmem⟩ := h.exists_origin hd
  rw [hsame, ← h.map_origin, ← get?_origins, ← origins_applySwitches, get?_origins] at hmem
  obtain ⟨i, hi, horigin⟩ := List.mem_map.mp hmem
  obtain ⟨k, hk⟩ := List.mem_iff_getElem?.mp (hopens.subset owner hi)
  obtain ⟨l, hl⟩ := List.mem_iff_getElem?.mp hj
  obtain ⟨rfl, rfl⟩ := hs.eq_of_origin hk hl horigin
  rw [hk] at hl
  cases hl
  exact hnew hi

/-- What becomes of the executions in a pass. -/
theorem passSwitches_of_tick {s : Scheduler} {r : TickReport × Scheduler} (h : s.tick = .ok r)
    {player : PlayerId} {j : Instance} (hj : j ∈ r.2.instancesOf player) :
    ∃ i, (i ∈ s.instancesOf player ∨ i.IsNew ∧ i.isGlobal = false) ∧ s.PassSwitches i j := by
  have hcase := pass_cases h
  generalize r.2 = s' at hcase hj
  cases hcase with
  | @intro s₁ s₂ s₃ hbefore hcourse hafter =>
    rw [instancesOf_reap] at hj
    have hj := (List.mem_filter.mp hj).1
    have hformed (hs : s.IsWellFormed) : s₁.IsWellFormed := by
      obtain ⟨_, hgrows⟩ := hbefore.grows
      exact hgrows.wellFormed (hs.of_origins (fun _ => id) rfl)
    by_cases hthere : j ∈ s₂.applySwitches.withoutRequests.instancesOf player
    · have hqueue : s₁.world.switchUpdates = s.world.switchUpdates := by
        rw [hbefore.world]
        rfl
      obtain ⟨i, hi, hswitches⟩ := passSwitches_of_course hqueue hformed hcourse hthere
      exact ⟨i, (hbefore.mem hi).imp_right fun hasked => hasked.2, hswitches⟩
    · obtain ⟨-, hnew, hglobal⟩ := (hafter.mem hj).resolve_left hthere
      refine ⟨j, .inr ⟨hnew, hglobal⟩, rfl, fun hclone => ?_, fun _ _ hk => absurd rfl hk,
        fun _ hs n _ => ?_⟩
      · rw [hglobal] at hclone
        cases hclone
      · have hs₃ : s₃.IsWellFormed := by
          obtain ⟨_, hgrows⟩ := hafter.grows
          have hs₂ := hcourse.wellFormed (hformed hs)
          exact hgrows.wellFormed (hs₂.of_origins (fun _ => id) (origins_applySwitches s₂))
        rw [Deed.lastSet?_of_ne (hcourse.origin_ne hafter hs₃ hj hthere)]
        rfl

/-- After a pass clones agree that agreed before it, and a switch that a clone set in the pass has
the value it was given last. Each execution was there before the pass or was started in it and is no
clone, and only clones of the same event on the same map changed its switches, or it did itself. -/
theorem clonesAgree_of_tick {s : Scheduler} {r : TickReport × Scheduler} (h : s.tick = .ok r) :
    (s.ClonesAgree → r.2.ClonesAgree) ∧
      (∀ player, ∀ j ∈ r.2.instancesOf player, j.isGlobal = true → ∀ k < 4, ∀ value,
        SwitchUpdate.last? (s.deeds.filterMap Deed.switchUpdate?) j.event j.map k = some value →
          j.selfSwitch k = value) ∧
      ∀ player, ∀ j ∈ r.2.instancesOf player, ∃ i,
        (i ∈ s.instancesOf player ∨ i.IsNew ∧ i.isGlobal = false) ∧ s.PassSwitches i j := by
  refine ⟨fun hagree => ?_, fun player j hj hclone k hk value hlast => ?_,
    fun player j hj => passSwitches_of_tick h hj⟩
  · -- clones were there before
    have hfrom {player : PlayerId} {j : Instance} (hj : j ∈ r.2.instancesOf player)
        (hclone : j.isGlobal = true) : ∃ i ∈ s.instancesOf player, s.PassSwitches i j := by
      obtain ⟨i, hi | ⟨-, hglobal⟩, hswitches⟩ := passSwitches_of_tick h hj
      · exact ⟨i, hi, hswitches⟩
      · rw [(Instance.of_origin hswitches.origin).2.2, hglobal] at hclone
        cases hclone
    intro p q j hj j' hj' hclone hclone' hevent hmap
    obtain ⟨i, hi, hswitches⟩ := hfrom hj hclone
    obtain ⟨i', hi', hswitches'⟩ := hfrom hj' hclone'
    obtain ⟨hevent₁, hmap₁, hglobal₁⟩ := Instance.of_origin hswitches.origin
    obtain ⟨hevent₂, hmap₂, hglobal₂⟩ := Instance.of_origin hswitches'.origin
    have hbefore : i.selfSwitches = i'.selfSwitches :=
      hagree p q i hi i' hi' (hglobal₁.symm.trans hclone) (hglobal₂.symm.trans hclone')
        (hevent₁.symm.trans (hevent.trans hevent₂)) (hmap₁.symm.trans (hmap.trans hmap₂))
    refine Instance.selfSwitches_eq fun k hk => ?_
    rw [hswitches.shared hclone k hk, hswitches'.shared hclone' k hk, hevent, hmap,
      Instance.selfSwitch_congr hbefore]
  · obtain ⟨i, -, hswitches⟩ := passSwitches_of_tick h hj
    rw [hswitches.shared hclone k hk, switchChanges, SwitchUpdate.last?_append, hlast,
      Option.some_or, Option.getD_some]

/-! ### Two clones that differ -/

/-- A page that switches the second self switch on and fails. -/
def breaking : Page :=
  (Page.draft ⟨1⟩ "break" ⟨2⟩).withRoot [.setSelfSwitch 1 true, .unsupported]

/-- A page that switches the first self switch on and off again, sets one that does not exist, and
waits. -/
def humming : Page :=
  (Page.draft ⟨1⟩ "hum" ⟨2⟩).withRoot
    [.setSelfSwitch 0 true, .setSelfSwitch 7 true, .setSelfSwitch 0 false, .showText "It hums" ""]

/-- A statue that stands before two players, on another page for each. -/
def statue : Scheduler :=
  let world := World.start { scheduler.commandsPerTick := 10 } .empty (.start 0) (.seeded 0)
  let world := world.addPlayer (.fresh ⟨3⟩ "Ann" .nil 1 1)
  let world := world.addPlayer (.fresh ⟨4⟩ "Bob" .nil 1 1)
  let off := Vector.replicate 4 false
  let s := (launchClones ⟨5⟩ .nil breaking off [⟨3⟩] (.start world)).2
  (launchClones ⟨5⟩ .nil humming off [⟨4⟩] s).2

/-- The first clone fails, and the second one has the switch on that the first one set, and the one
off that it set last itself. -/
theorem clonesAgree_of_tick_statue :
    ∃ r, statue.tick = .ok r ∧ r.1.failed = 1 ∧ statue.ClonesAgree ∧ r.2.ClonesAgree ∧
      ∃ j ∈ r.2.instancesOf ⟨4⟩, j.selfSwitch 1 = true ∧ j.selfSwitch 0 = false := by
  have htick : statue.tick = .ok _ := rfl
  obtain ⟨hagree, hlast, -⟩ := clonesAgree_of_tick htick
  have hbefore : statue.ClonesAgree := by
    have hoff {p : PlayerId} {i : Instance} (hi : i ∈ statue.instancesOf p) :
        i.selfSwitches = Vector.replicate 4 false := by
      unfold instancesOf at hi
      cases hlist : statue.instances.get? p with
      | none =>
        rw [hlist] at hi
        cases hi
      | some is =>
        rw [hlist] at hi
        have hvalue : is ∈ statue.instances.values := Table.mem_values_iff.mpr ⟨p, hlist⟩
        rcases List.mem_pair.mp hvalue with rfl | rfl
        · rw [List.mem_singleton.mp hi]
        · rw [List.mem_singleton.mp hi]
    intro p q i hi j hj _ _ _ _
    rw [hoff hi, hoff hj]
  refine ⟨_, htick, rfl, hbefore, hagree hbefore, _, List.mem_singleton_self _, ?_, ?_⟩
  · exact hlast ⟨4⟩ _ (List.mem_singleton_self _) rfl 1 (by decide) true rfl
  · exact hlast ⟨4⟩ _ (List.mem_singleton_self _) rfl 0 (by decide) false rfl

end Scheduler

end EventScript
