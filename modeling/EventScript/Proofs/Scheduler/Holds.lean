import EventScript.Proofs.Scheduler.Operation

/-!
# What clients know of holds

A client keeps its player in place from the notice of a hold to the notice that the hold is over. It
is right as long as the last notice about an event says that the player is held exactly if an
execution of the event holds the player. Scripts, failures and the host keep that; only the end of a
map takes executions along without a word.
-/

namespace EventScript

/-- What a notification says of the hold of an event, if it is about that: whether the player is
held. -/
def Notification.hold? (event : EventId) : Notification → Option Bool
  | holdPlayer e _ => if e = event then some true else none
  | releasePlayer e => if e = event then some false else none
  | _ => none

/-- What a client hears of the hold of an event from something that was sent. -/
def heard? (player : PlayerId) (event : EventId) (sent : Recipients × Notification) :
    Option Bool :=
  if sent.1 = .player player then sent.2.hold? event else none

/-- What the client of a player was told last of the hold of an event, if it was ever told. -/
def World.toldHold? (w : World) (player : PlayerId) (event : EventId) : Option Bool :=
  (w.sent.filterMap (heard? player event)).getLast?

namespace World

variable {w w' : World}

/-- Only what is about a hold is heard. -/
theorem toldHold?_eq (w : World) (player : PlayerId) (event : EventId) :
    w.toldHold? player event = (w.reserve.holds.filterMap (heard? player event)).getLast? := by
  have hheard : (fun told : Recipients × Notification =>
      if told.2.isAboutHold = true then heard? player event told else none) =
        heard? player event := by
    funext ⟨audience, n⟩
    unfold heard?
    cases n <;> simp [Notification.isAboutHold, Notification.hold?]
  unfold toldHold? reserve
  rw [List.filterMap_filter, hheard]

/-- What was told is a matter of the notices about holds. -/
theorem toldHold?_congr (h : w'.reserve.holds = w.reserve.holds) (player : PlayerId)
    (event : EventId) : w'.toldHold? player event = w.toldHold? player event := by
  rw [toldHold?_eq, toldHold?_eq, h]

/-- One more notice about the hold of an event. -/
theorem toldHold?_append {owner : PlayerId} {about : EventId} {n : Notification} {held : Bool}
    (hn : ∀ event, n.hold? event = if about = event then some held else none)
    (h : w'.reserve.holds = w.reserve.holds ++ [(.player owner, n)]) (player : PlayerId)
    (event : EventId) :
    w'.toldHold? player event =
      if owner = player ∧ about = event then some held else w.toldHold? player event := by
  rw [toldHold?_eq, toldHold?_eq, h, List.filterMap_append, List.getLast?_append]
  by_cases howner : owner = player
  · by_cases habout : about = event
    · simp [heard?, hn, howner, habout]
    · simp [heard?, hn, howner, habout]
  · simp [heard?, howner]

/-- Telling a player of one hold after the other that it is over. -/
theorem toldHold?_releaseAll (owner : PlayerId) (is : List Instance) (w : World)
    (player : PlayerId) (event : EventId) :
    (is.foldl (fun w i => w.send (.player owner) (.releasePlayer i.event)) w).toldHold? player
        event =
      if owner = player ∧ ∃ i ∈ is, i.event = event then some false
      else w.toldHold? player event := by
  induction is generalizing w with
  | nil => simp
  | cons i rest ih =>
    have hholds : (w.send (.player owner) (.releasePlayer i.event)).reserve.holds =
        w.reserve.holds ++ [(.player owner, .releasePlayer i.event)] := List.filter_append ..
    rw [List.foldl_cons, ih, toldHold?_append (fun _ => rfl) hholds]
    by_cases howner : owner = player
    · by_cases hfirst : i.event = event
      · simp [howner, hfirst]
      · simp [howner, hfirst]
    · simp [howner]

end World

/-! ## Turns -/

/-- Going on has nothing to do with holds. -/
theorem Instance.holding_release (i : Instance) : i.release.holding = i.holding := by
  unfold release modifyTop
  split <;> rfl

namespace Turn

/-- What something done in a turn means for holds: nothing, or that the client is told what became
of the hold. -/
inductive HoldCase (t t' : Turn) : Prop
  | silent (holding : t'.run.holding = t.run.holding)
      (told : ∀ player event, t'.world.toldHold? player event = t.world.toldHold? player event)
  | told (told : ∀ player event, t'.world.toldHold? player event =
      if t.run.player = player ∧ t.run.event = event then some t'.run.holding
      else t.world.toldHold? player event)

/-- Every change of a hold in a step is told to the client of the player. -/
theorem holdCase_step {t : Turn} (hindexed : t.world.IsIndexed) {r : Outcome StepOutcome}
    (h : t.step = .ok r) : t.HoldCase r.2 := by
  have hcase := deed_cases h
  generalize t.deed? = deed at hcase
  generalize r.2 = t' at hcase ⊢
  cases hcase with
  | idle => exact .silent rfl fun _ _ => rfl
  | @done p page c s st st' hplayer hscene =>
    have hid : p.id = t.run.player := hindexed.players hplayer
    have hcase := Scene.reserve_cases _ hscene
    have hafter (holds : List (Recipients × Notification)) (holding : Bool) :
        s.reserve.world.holds = holds → s.reserve.holding = holding →
        (s.world.putPlayer t.run.player s.player).reserve.holds = holds ∧
          (s.run.withStack st').holding = holding := fun hholds hholding => ⟨hholds, hholding⟩
    generalize s.reserve = after at hcase hafter
    cases hcase with
    | hold =>
      obtain ⟨hholds, hholding⟩ := hafter _ _ rfl rfl
      refine .told fun player event => ?_
      rw [hholding, ← hid]
      exact World.toldHold?_append (fun _ => rfl) hholds player event
    | release =>
      obtain ⟨hholds, hholding⟩ := hafter _ _ rfl rfl
      refine .told fun player event => ?_
      rw [hholding, ← hid]
      exact World.toldHold?_append (fun _ => rfl) hholds player event
    | _ =>
      obtain ⟨hholds, hholding⟩ := hafter _ _ rfl rfl
      exact .silent hholding fun player event => World.toldHold?_congr hholds player event

/-- A response means nothing for holds. -/
theorem holdCase_answer {t : Turn} {response : Response} {r : Outcome Bool}
    (h : t.answer response = .ok r) : t.HoldCase r.2 := by
  have hrelease := t.run.holding_release
  cases answer_cases h with
  | ignored => exact .silent rfl fun _ _ => rfl
  | missingPlayer => exact .silent hrelease fun _ _ => rfl
  | accepted hstack hwaiting hanswered hplayer hscene =>
    have hreserve := Scene.reserve_resume _ hscene
    refine .silent ((congrArg Scene.Reserve.holding hreserve).trans hrelease) fun _ _ => ?_
    exact World.toldHold?_congr (congrArg (fun r : Scene.Reserve => r.world.holds) hreserve) _ _

/-- An execution that failed lets its player go and says so. -/
theorem holdCase_abandon {t : Turn} {owner : PlayerId} (howner : t.run.player = owner) :
    t.HoldCase (Scheduler.abandon t owner) := by
  have hholds :
      (t.world.send (.player owner) (.releasePlayer t.run.event)).reserve.holds =
        t.world.reserve.holds ++ [(.player owner, .releasePlayer t.run.event)] :=
    List.filter_append ..
  unfold Scheduler.abandon
  dsimp only
  split
  · refine .told fun player event => ?_
    rw [howner]
    exact World.toldHold?_append (fun _ => rfl) hholds player event
  · exact .silent rfl fun _ _ => rfl

end Turn

namespace Scheduler

/-! ## Executions that hold a player -/

/-- An execution of an event holds a player. -/
def IsHeldBy (s : Scheduler) (player : PlayerId) (event : EventId) : Prop :=
  ∃ i ∈ s.instancesOf player, i.event = event ∧ i.holding = true

/-- The client of a player was told last that an event holds the player exactly if an execution of
the event does. -/
def HoldsAgree (s : Scheduler) (player : PlayerId) (event : EventId) : Prop :=
  s.world.toldHold? player event = some true ↔ s.IsHeldBy player event

section

variable {s : Scheduler} {owner : PlayerId} {index : Nat} {i : Instance}

/-- A player has one execution of an event at most. -/
theorem IsRegular.eq_of_event (hs : s.IsRegular) {player : PlayerId} {i j : Instance}
    (hi : i ∈ s.instancesOf player) (hj : j ∈ s.instancesOf player) (h : i.event = j.event) :
    i = j :=
  List.inj_on_of_nodup_map (hs.once player) hi hj h

/-- An event that is kept for a player holds it exactly if its execution does. -/
theorem isHeldBy_iff_of_mem (hs : s.IsRegular) {player : PlayerId} (hi : i ∈ s.instancesOf player) :
    s.IsHeldBy player i.event ↔ i.holding = true := by
  constructor
  · rintro ⟨j, hj, hevent, hholding⟩
    rwa [hs.eq_of_event hj hi hevent] at hholding
  · exact fun hholding => ⟨i, hi, rfl, hholding⟩

/-- What is done in the turn of an execution leaves those of other events where they are. -/
theorem mem_replace_iff (found : (s.instancesOf owner)[index]? = some i) {t : Turn}
    (hevent : t.run.event = i.event) {j : Instance} (hj : j.event ≠ i.event) :
    j ∈ (s.replace owner index t).instancesOf owner ↔ j ∈ s.instancesOf owner := by
  rw [instancesOf_replace, if_pos rfl]
  constructor
  · intro hmem
    rcases List.mem_or_eq_of_mem_set hmem with hmem | rfl
    · exact hmem
    · exact absurd hevent hj
  · intro hmem
    obtain ⟨k, hk⟩ := List.mem_iff_getElem?.mp hmem
    have hne : index ≠ k := by
      rintro rfl
      cases found.symm.trans hk
      exact hj rfl
    exact List.mem_iff_getElem?.mpr ⟨k, (List.getElem?_set_ne hne).trans hk⟩

/-- Who is held after something was done in the turn of an execution. -/
theorem isHeldBy_replace (found : (s.instancesOf owner)[index]? = some i)
    {t : Turn} (hreplaced : (s.replace owner index t).IsRegular) (hevent : t.run.event = i.event)
    (player : PlayerId) (event : EventId) :
    (s.replace owner index t).IsHeldBy player event ↔
      if owner = player ∧ i.event = event then t.run.holding = true
      else s.IsHeldBy player event := by
  have hrun : t.run ∈ (s.replace owner index t).instancesOf owner :=
    List.mem_of_getElem? (getElem?_replace found t)
  by_cases howner : owner = player
  · subst howner
    by_cases habout : i.event = event
    · subst habout
      rw [if_pos ⟨rfl, rfl⟩, ← hevent]
      exact isHeldBy_iff_of_mem hreplaced hrun
    · rw [if_neg (fun h => habout h.2)]
      refine exists_congr fun j => and_congr_left fun ⟨hj, _⟩ => ?_
      exact mem_replace_iff found hevent (hj ▸ Ne.symm habout)
  · rw [if_neg (fun h => howner h.1)]
    unfold IsHeldBy
    rw [instancesOf_replace, if_neg howner]

/-- What is done in a turn keeps clients right. -/
theorem HoldsAgree.replace (hs : s.IsRegular) (found : (s.instancesOf owner)[index]? = some i)
    {t : Turn} (hreplaced : (s.replace owner index t).IsRegular) (hevent : t.run.event = i.event)
    (hcase : (Turn.mk s.world i).HoldCase t) {player : PlayerId} {event : EventId}
    (h : s.HoldsAgree player event) : (s.replace owner index t).HoldsAgree player event := by
  have howner : i.player = owner := hs.player_eq found
  unfold HoldsAgree at h ⊢
  rw [isHeldBy_replace found hreplaced hevent]
  show t.world.toldHold? player event = some true ↔ _
  cases hcase with
  | silent hholding htold =>
    rw [htold, h, hholding]
    split
    · next hself =>
      obtain ⟨rfl, rfl⟩ := hself
      exact isHeldBy_iff_of_mem hs (List.mem_of_getElem? found)
    · rfl
  | told htold =>
    rw [htold]
    show (if i.player = player ∧ i.event = event then _ else _) = some true ↔ _
    rw [howner]
    split
    · exact Option.some_inj
    · exact h

end

/-! ## Passes -/

section

variable {s s' : Scheduler} {player : PlayerId} {event : EventId}

/-- Who is held after executions were started. -/
theorem isHeldBy_opens {new : PlayerId → Instance → Prop} (hnew : ∀ p i, new p i → i.IsNew)
    (h : s.Opens new s') : s'.IsHeldBy player event ↔ s.IsHeldBy player event := by
  constructor
  · rintro ⟨i, hi, hevent, hholding⟩
    rcases h.mem hi with hi | hi
    · exact ⟨i, hi, hevent, hholding⟩
    · rw [(hnew player i hi).holding] at hholding
      cases hholding
  · rintro ⟨i, hi, hevent, hholding⟩
    exact ⟨i, h.subset player hi, hevent, hholding⟩

/-- Who is held after a change of executions that has nothing to do with holds. -/
theorem isHeldBy_map {f : Instance → Instance}
    (hf : ∀ i, (f i).event = i.event ∧ (f i).holding = i.holding)
    (h : s'.instancesOf player = (s.instancesOf player).map f) :
    s'.IsHeldBy player event ↔ s.IsHeldBy player event := by
  unfold IsHeldBy
  rw [h]
  constructor
  · rintro ⟨_, hmem, hevent, hholding⟩
    obtain ⟨i, hi, rfl⟩ := List.mem_map.mp hmem
    exact ⟨i, hi, (hf i).1.symm.trans hevent, (hf i).2.symm.trans hholding⟩
  · rintro ⟨i, hi, hevent, hholding⟩
    exact ⟨f i, List.mem_map_of_mem hi, (hf i).1.trans hevent, (hf i).2.trans hholding⟩

/-- Who is held after executions were removed. -/
theorem isHeldBy_filter {keep : Instance → Bool}
    (h : s'.instancesOf player = (s.instancesOf player).filter keep) :
    s'.IsHeldBy player event ↔
      ∃ i ∈ s.instancesOf player, keep i = true ∧ i.event = event ∧ i.holding = true := by
  unfold IsHeldBy
  simp only [h, List.mem_filter, and_assoc]

/-- What is complete holds nobody. -/
theorem holding_of_isComplete {i : Instance} (h : i.holding = true) :
    (!i.isComplete) = true := by
  unfold Instance.isComplete
  rw [h, Bool.not_true, Bool.and_false, Bool.not_false]

/-- Who is held after what is complete was removed. -/
theorem isHeldBy_reap (s : Scheduler) (player : PlayerId) (event : EventId) :
    s.reap.2.IsHeldBy player event ↔ s.IsHeldBy player event := by
  rw [isHeldBy_filter (s.instancesOf_reap player)]
  refine exists_congr fun i => and_congr_right fun _ => and_iff_right_of_imp fun h => ?_
  exact holding_of_isComplete h.2

/-- Clients stay right if nobody is told anything about holds and the same executions hold. -/
theorem HoldsAgree.congr (h : s.HoldsAgree player event)
    (htold : s'.world.reserve.holds = s.world.reserve.holds)
    (hheld : s'.IsHeldBy player event ↔ s.IsHeldBy player event) :
    s'.HoldsAgree player event := by
  unfold HoldsAgree
  rw [World.toldHold?_congr htold, hheld]
  exact h

/-- Clients stay right when executions are started. -/
theorem HoldsAgree.opens {new : PlayerId → Instance → Prop} (hnew : ∀ p i, new p i → i.IsNew)
    (h : s.Opens new s') (hs : s.HoldsAgree player event) : s'.HoldsAgree player event := by
  refine hs.congr ?_ (isHeldBy_opens hnew h)
  rw [h.world]
  rfl

/-- Every part of a pass keeps clients right. -/
theorem isKeptInPass_holdsAgree (player : PlayerId) (event : EventId) :
    IsKeptInPass (fun s => s.HoldsAgree player event) fun _ => True where
  serve {s s'} _ h hopens :=
    have hagree : s.withoutRequests.HoldsAgree player event := h
    hagree.opens (fun _ _ hasked => hasked.2.1) hopens
  step hs h found result _ := by
    obtain ⟨-, horigin⟩ := Turn.backdrop_step result
    exact h.replace hs found (hs.step found result) (Instance.of_origin horigin).1
      (Turn.holdCase_step hs.indexed result)
  abandon {s owner index i} hs h found := by
    obtain ⟨-, horigin⟩ := backdrop_abandon ⟨s.world, i⟩ owner
    exact h.replace hs found (hs.abandon found) (Instance.of_origin horigin).1
      (Turn.holdCase_abandon (hs.player_eq found))
  applySwitches {s} _ h := by
    refine h.congr rfl (isHeldBy_map (fun i => ?_) (s.instancesOf_applySwitches player))
    obtain ⟨_, heq⟩ := exists_foldl_applySwitch s.world.switchUpdates i
    rw [heq]
    exact ⟨rfl, rfl⟩
  reap {s} _ h := h.congr rfl (s.isHeldBy_reap player event)

end

/-! ## Operations -/

/-- An operation takes no execution along that holds a player for an event. The end of a map does
if there is one on the map, and so does the player who leaves. -/
def LeavesHold (player : PlayerId) (event : EventId) (s : Scheduler) : Operation → Prop
  | .unloadMap map => ∀ i ∈ s.instancesOf player, i.event = event → i.holding = true → i.map ≠ map
  | .disconnect other => other = player → ¬ s.IsHeldBy player event
  | _ => True

section

variable {s : Scheduler} {player : PlayerId} {event : EventId}

/-- A player who is let go knows so. -/
theorem HoldsAgree.releasePlayer (h : s.HoldsAgree player event) (other : PlayerId) :
    (s.releasePlayer other).2.HoldsAgree player event := by
  have htold : (s.releasePlayer other).2.world.toldHold? player event =
      if other = player ∧ ∃ i ∈ (s.instancesOf other).filter Instance.holding, i.event = event then
        some false
      else s.world.toldHold? player event :=
    World.toldHold?_releaseAll other _ s.world player event
  have hinstances := s.instancesOf_releasePlayer player other
  unfold HoldsAgree at h ⊢
  rw [htold]
  by_cases hother : other = player
  · subst hother
    simp only [if_true] at hinstances
    have hfree : ¬ (s.releasePlayer other).2.IsHeldBy other event := by
      rintro ⟨i, hi, -, hholding⟩
      rw [hinstances] at hi
      obtain ⟨j, -, rfl⟩ := List.mem_map.mp (List.mem_filter.mp hi).1
      cases hholding
    refine iff_of_false ?_ hfree
    split
    · nofun
    · next hnone =>
      rw [h]
      rintro ⟨i, hi, hevent, hholding⟩
      exact hnone ⟨rfl, i, List.mem_filter.mpr ⟨hi, hholding⟩, hevent⟩
  · rw [if_neg (fun hboth => hother hboth.1), h]
    simp only [hother, if_false, List.map_id'] at hinstances
    rw [isHeldBy_filter hinstances]
    refine exists_congr fun i => and_congr_right fun _ => ?_
    exact (and_iff_right_of_imp fun hi => holding_of_isComplete hi.2).symm

/-- Clients stay right when a map ends exactly if nobody is held by an execution on it. -/
theorem holdsAgree_unloadMap_iff (hs : s.IsRegular) (h : s.HoldsAgree player event) (map : MapId) :
    (s.unloadMap map).2.HoldsAgree player event ↔ LeavesHold player event s (.unloadMap map) := by
  have hkept : (s.unloadMap map).2.IsHeldBy player event ↔ _ :=
    isHeldBy_filter (s.instancesOf_unloadMap player map)
  unfold HoldsAgree at h ⊢
  rw [hkept]
  show (s.world.toldHold? player event = some true ↔ _) ↔ _
  rw [h]
  constructor
  · intro hagree i hi hevent hholding
    obtain ⟨j, hj, hmap, hevent', -⟩ := hagree.mp ⟨i, hi, hevent, hholding⟩
    rw [hs.eq_of_event hi hj (hevent.trans hevent'.symm)]
    exact bne_iff_ne.mp hmap
  · intro hleaves
    refine exists_congr fun i => and_congr_right fun hi => ?_
    exact (and_iff_right_of_imp fun hheld =>
      bne_iff_ne.mpr (hleaves i hi hheld.1 hheld.2)).symm

/-- Clients stay right when a player leaves exactly if it is not held. -/
theorem holdsAgree_disconnect_iff (h : s.HoldsAgree player event) (other : PlayerId) :
    (s.disconnect other).2.HoldsAgree player event ↔
      LeavesHold player event s (.disconnect other) := by
  have hinstances := s.instancesOf_disconnect player other
  unfold HoldsAgree at h
  show (s.world.toldHold? player event = some true ↔ _) ↔ _
  rw [h]
  unfold LeavesHold
  by_cases hother : other = player
  · have hnone : ¬ (s.disconnect other).2.IsHeldBy player event := by
      rintro ⟨i, hi, -⟩
      rw [hinstances, if_pos hother] at hi
      cases hi
    simp only [hother, true_imp_iff] at hnone ⊢
    exact ⟨fun hagree hheld => hnone (hagree.mp hheld), fun hfree => iff_of_false hfree hnone⟩
  · have hsame : (s.disconnect other).2.IsHeldBy player event ↔ s.IsHeldBy player event := by
      unfold IsHeldBy
      rw [hinstances, if_neg hother]
    exact iff_of_true hsame.symm fun heq => absurd heq hother

/-- An operation that takes nobody along who is held keeps clients right. -/
theorem HoldsAgree.perform (h : s.HoldsAgree player event) (hs : s.IsRegular) {op : Operation}
    {s' : Scheduler} (hleaves : LeavesHold player event s op) (hperform : s.PerformCase op s') :
    s'.HoldsAgree player event := by
  cases hperform with
  | opened hopens => exact h.opens (fun _ _ hnew => hnew.isNew) hopens
  | passed hpass =>
    exact ((isKeptInPass_holdsAgree player event).pass hpass hs h fun _ _ => trivial).2
  | @answered owner id response index i r found result =>
    obtain ⟨hworld, horigin⟩ := Turn.backdrop_answer result
    have hreplaced := hs.replace found hworld horigin (World.IsIndexed.answer hs.indexed result)
    exact h.replace hs found hreplaced (Instance.of_origin horigin).1 (Turn.holdCase_answer result)
  | signalled other signal =>
    refine h.congr ?_ (isHeldBy_map (fun i => ?_) (s.instancesOf_signal player other signal))
    · show (observe s.world other signal).reserve.holds = _
      unfold observe
      dsimp only
      split <;> rfl
    · split
      · unfold Instance.receive
        split
        · exact ⟨(Instance.of_origin (i.origin_modifyTop Frame.release)).1, i.holding_release⟩
        · exact ⟨rfl, rfl⟩
      · exact ⟨rfl, rfl⟩
  | released other => exact h.releasePlayer other
  | unloaded map => exact (holdsAgree_unloadMap_iff hs h map).mpr hleaves
  | disconnected other => exact (holdsAgree_disconnect_iff h other).mpr hleaves

/-- An operation keeps clients right exactly if it takes nobody along who is held. -/
theorem holdsAgree_perform_iff (hs : s.IsRegular) (h : s.HoldsAgree player event) {op : Operation}
    {s' : Scheduler} (hperform : s.perform op = .ok s') :
    s'.HoldsAgree player event ↔ LeavesHold player event s op := by
  refine ⟨fun hagree => ?_, fun hleaves => h.perform hs hleaves (perform_cases hs hperform)⟩
  cases op with
  | unloadMap map =>
    cases hperform
    exact (holdsAgree_unloadMap_iff hs h map).mp hagree
  | disconnect other =>
    cases hperform
    exact (holdsAgree_disconnect_iff h other).mp hagree
  | _ => trivial

/-- From a scheduler without executions on, and as long as no operation takes an execution along
that holds the player: the client of the player was told last that an event holds the player exactly
if an execution of the event does, and each further operation keeps it so exactly if it takes no
such execution along. -/
theorem holdsAgree_of_moves {w : World} (hw : w.IsIndexed)
    (hfree : w.toldHold? player event ≠ some true) {s : Scheduler}
    (h : Relation.ReflTransGen (Moves (LeavesHold player event)) (.start w) s) :
    s.HoldsAgree player event ∧ ∀ op s', s.perform op = .ok s' →
      (s'.HoldsAgree player event ↔ LeavesHold player event s op) := by
  have hstart : (Scheduler.start w).HoldsAgree player event := by
    refine iff_of_false hfree ?_
    rintro ⟨i, hi, -⟩
    cases hi
  obtain ⟨hs, hagree⟩ := invariant_of_moves
    (fun hs hagree hleaves hperform => HoldsAgree.perform hagree hs hleaves hperform)
    (.start hw) hstart h
  exact ⟨hagree, fun op s' hperform => holdsAgree_perform_iff hs hagree hperform⟩

end

/-! ### A map that ends around a player who is held -/

/-- A page that holds the player and shows a text. -/
def holdingPage : Page := (Page.draft ⟨1⟩ "stay" ⟨2⟩).withRoot [.holdPlayer, .showText "Stay" ""]

/-- A world with one player and nothing else. -/
def calm : World :=
  (World.start {} .empty (.start 0) (.seeded 0)).addPlayer (.fresh ⟨3⟩ "Ann" .nil 1 1)

/-- The player is there under its identifier. -/
theorem isIndexed_calm : calm.IsIndexed := (World.IsIndexed.start {} .empty _ _).addPlayer _

/-- The map of the event ends while the event holds the player, and the client is not told. -/
theorem not_holdsAgree_unloaded :
    ∃ s, calm.toldHold? ⟨3⟩ ⟨5⟩ = none ∧
      Relation.ReflTransGen (Moves fun _ _ => True) (.start calm) s ∧
      s.world.toldHold? ⟨3⟩ ⟨5⟩ = some true ∧ ¬ s.IsHeldBy ⟨3⟩ ⟨5⟩ := by
  have hmoves : Relation.ReflTransGen (Moves fun _ _ => True) (.start calm) _ :=
    .tail (.tail (.tail .refl ⟨.startEvent ⟨3⟩ ⟨5⟩ holdingPage, trivial, rfl⟩)
      ⟨.tick, trivial, rfl⟩) ⟨.unloadMap .nil, trivial, rfl⟩
  refine ⟨_, rfl, hmoves, rfl, ?_⟩
  rintro ⟨i, hi, -⟩
  cases hi

/-- The same event, as long as the map stays: the client knows that the player is held, and would
not know the truth any more if the map ended. -/
theorem holdsAgree_of_moves_calm :
    ∃ s, Relation.ReflTransGen (Moves (LeavesHold ⟨3⟩ ⟨5⟩)) (.start calm) s ∧
      s.HoldsAgree ⟨3⟩ ⟨5⟩ ∧ s.IsHeldBy ⟨3⟩ ⟨5⟩ ∧ ¬ (s.unloadMap .nil).2.HoldsAgree ⟨3⟩ ⟨5⟩ := by
  have hmoves : Relation.ReflTransGen (Moves (LeavesHold ⟨3⟩ ⟨5⟩)) (.start calm) _ :=
    .tail (.tail .refl ⟨.startEvent ⟨3⟩ ⟨5⟩ holdingPage, trivial, rfl⟩) ⟨.tick, trivial, rfl⟩
  obtain ⟨hagree, hnext⟩ := holdsAgree_of_moves isIndexed_calm nofun hmoves
  have hheld : IsHeldBy _ ⟨3⟩ ⟨5⟩ := hagree.mp rfl
  refine ⟨_, hmoves, hagree, hheld, fun hunloaded => ?_⟩
  obtain ⟨i, hi, hevent, hholding⟩ := hheld
  refine (hnext (.unloadMap .nil) _ rfl).mp hunloaded i hi hevent hholding ?_
  rw [List.mem_singleton.mp hi]
  rfl

end Scheduler

end EventScript
