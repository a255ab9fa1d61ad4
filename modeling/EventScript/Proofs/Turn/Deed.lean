import EventScript.Proofs.CallStack.Replacement
import EventScript.Proofs.Scene.Reserve

/-!
# Deeds

A deed is a command that is executed, together with the scene it is executed in. Every step does one
deed or none: apart from that it only leaves frames or lets the running one go on. Whatever is done,
players and events on maps stay under their own identifiers.
-/

namespace EventScript

/-- A command that is executed. -/
structure Deed where
  /-- What it is executed on. -/
  scene : Scene
  /-- The command. -/
  command : Command

namespace Turn

/-- The deed of the next step, if it does one. -/
def deed? (t : Turn) : Option Deed := do
  let c ← t.command?
  let frame ← t.settle.run.top?
  let p ← t.world.player? t.run.player
  if c = .unsupported then none
  else some ⟨⟨⟨t.world, p⟩, t.settle.run.modifyTop Frame.advance, frame.page⟩, c⟩

/-- The deeds of up to a number of steps, oldest first. -/
def deeds : Nat → Turn → List Deed
  | 0, _ => []
  | count + 1, t =>
    t.deed?.toList ++ match t.step with
      | .ok (.ok .continue, t') => deeds count t'
      | _ => []

/-- What a step makes of a turn: it does nothing, or it executes one command for a loaded player. In
both cases the call stack may be another one before and after. -/
inductive DeedCase (t : Turn) : Option Deed → Turn → Prop
  | idle (st : CallStack) : DeedCase t none (t.withStack st)
  | done {p : Player} {page : Page} {c : Command} {s : Scene} (st st' : CallStack)
      (player : t.world.player? t.run.player = some p)
      (scene : Scene.execute ⟨⟨t.world, p⟩, t.run.withStack st, page⟩ c = .ok s) :
      DeedCase t (some ⟨⟨⟨t.world, p⟩, t.run.withStack st, page⟩, c⟩)
        ⟨s.world.putPlayer t.run.player s.player, s.run.withStack st'⟩

/-! ## Only the call stack changes -/

/-- Settling changes the call stack. -/
theorem settle_eq (t : Turn) : t.settle = t.withStack t.settle.run.stack := by
  show Turn.mk t.settle.world t.settle.run = _
  rw [settle_world]
  exact congrArg (Turn.mk t.world) t.settle_run

/-- Going behind the command of the running frame of a settled turn changes the call stack. -/
theorem advance_eq (t : Turn) :
    t.settle.run.modifyTop Frame.advance =
      t.run.withStack (t.settle.run.modifyTop Frame.advance).stack := by
  rw [settle_run]
  unfold Instance.modifyTop
  split <;> rfl

/-- Concluding changes the call stack. -/
theorem conclude_eq (t : Turn) : t.conclude.2 = t.withStack t.conclude.2.run.stack := by
  unfold conclude
  split
  · rfl
  · dsimp only
    split <;> rfl

/-! ## Every step -/

section

variable {t : Turn} {frame : Frame} {rest : CallStack}

/-- A step that executes no command does no deed. -/
theorem deed?_of_command?_eq_none (h : t.command? = none) : t.deed? = none := by
  unfold deed?
  rw [h]
  rfl

/-- A command of unknown kind is no deed. -/
theorem deed?_of_unsupported (h : t.command? = some .unsupported) : t.deed? = none := by
  unfold deed?
  rw [h]
  cases t.settle.run.top? with
  | none => rfl
  | some frame => cases t.world.player? t.run.player <;> rfl

/-- The deed of a step in front of a command. -/
theorem deed?_of_stack (hstack : t.settle.run.stack = frame :: rest) {c : Command}
    (hcommand : t.command? = some c) :
    t.deed? = (t.world.player? t.run.player).bind fun p =>
      if c = .unsupported then none
      else some ⟨⟨⟨t.world, p⟩, t.settle.run.modifyTop Frame.advance, frame.page⟩, c⟩ := by
  have htop : t.settle.run.top? = some frame := by
    unfold Instance.top?
    rw [hstack, List.head?_cons]
  unfold deed?
  rw [hcommand, htop]
  rfl

/-- A step that fails because of the running frame has no command in front of it. -/
theorem command?_of_defect {e : StepError} (h : t.settle.run.stack.defect? = some e) :
    t.command? = none := by
  obtain ⟨frame, hframe, hdefect⟩ := Option.bind_eq_some_iff.mp h
  obtain ⟨rest, hstack⟩ := List.head?_eq_some_iff.mp hframe
  refine Option.eq_none_iff_forall_ne_some.mpr fun c hc => ?_
  rw [command?_of_stack hstack (waiting_of_command? hc hstack)] at hc
  rw [frame.defect?_of_command? hc] at hdefect
  cases hdefect

/-- A step does its deed and nothing else. -/
theorem deed_cases {r : Outcome StepOutcome} (h : t.step = .ok r) : t.DeedCase t.deed? r.2 := by
  have hsettled (hnone : t.command? = none) : t.DeedCase t.deed? t.settle := by
    rw [deed?_of_command?_eq_none hnone, settle_eq]
    exact .idle _
  have hadvanced (hnone : t.deed? = none) :
      t.DeedCase t.deed? ⟨t.settle.world, t.settle.run.modifyTop Frame.advance⟩ := by
    rw [hnone, advance_eq, settle_world]
    exact .idle _
  cases step_cases h with
  | defect hdefect => exact hsettled (command?_of_defect hdefect)
  | completed hstack =>
    refine hsettled ?_
    unfold command? Instance.top?
    rw [hstack, List.head?_nil, Option.bind_none]
  | waiting hstack hwaiting =>
    refine hsettled (Option.eq_none_iff_forall_ne_some.mpr fun c hc => ?_)
    rw [waiting_of_command? hc hstack] at hwaiting
    cases hwaiting
  | @execute frame rest r hstack hruns hcase =>
    have hcommand := command?_of_stack hstack hruns
    cases hcase with
    | missingList hlist =>
      refine hadvanced (deed?_of_command?_eq_none (hcommand.trans ?_))
      unfold Frame.command?
      rw [hlist, Option.bind_none]
    | outOfRange hlist hindex =>
      refine hadvanced (deed?_of_command?_eq_none (hcommand.trans ?_))
      unfold Frame.command?
      rw [hlist, Option.bind_some, hindex]
    | missingPlayer hlist hindex hplayer =>
      refine hadvanced ?_
      rw [settle_world, settle_player] at hplayer
      rw [deed?_of_stack hstack (hcommand.trans (Frame.command?_of_list hlist hindex)), hplayer,
        Option.bind_none]
    | unsupported hlist hindex =>
      refine hadvanced ?_
      rw [deed?_of_stack hstack (hcommand.trans (Frame.command?_of_list hlist hindex))]
      cases t.world.player? t.run.player <;> rfl
    | @executed commands c p s hlist hindex hplayer hsupported hscene =>
      rw [settle_world, settle_player] at hplayer
      rw [settle_world, advance_eq] at hscene
      rw [deed?_of_stack hstack (hcommand.trans (Frame.command?_of_list hlist hindex)), hplayer,
        Option.bind_some, if_neg hsupported, conclude_eq, settle_player, advance_eq]
      exact .done _ _ hplayer hscene

end

end Turn

/-! ## Identifiers -/

namespace World

/-- Every loaded player and every event on a map is kept under its own identifier. -/
structure IsIndexed (w : World) : Prop where
  players : ∀ {id : PlayerId} {p : Player}, w.player? id = some p → p.id = id
  mapEvents : ∀ {id : EventId} {e : MapEvent}, w.mapEvent? id = some e → e.id = id

/-- The reserve of a world tells whether it is indexed. -/
theorem isIndexed_iff {w : World} : w.IsIndexed ↔
    (∀ id k, w.reserve.walkers id = some k → k.id = id) ∧
      ∀ id e, w.reserve.mapEvents.get? id = some e → e.id = id := by
  constructor
  · intro h
    refine ⟨fun id k hk => ?_, fun _ _ => h.mapEvents⟩
    obtain ⟨p, hp, rfl⟩ := Option.map_eq_some_iff.mp hk
    exact h.players hp
  · rintro ⟨hwalkers, hevents⟩
    refine ⟨fun {id p} hp => ?_, fun he => hevents _ _ he⟩
    exact hwalkers id p.walker (Option.map_eq_some_iff.mpr ⟨p, hp, rfl⟩)

namespace IsIndexed

variable {w : World}

/-- A world with nothing in it. -/
theorem start (config : EngineConfig) (catalog : Catalog) (clock : Clock) (supply : Supply) :
    (World.start config catalog clock supply).IsIndexed := ⟨nofun, nofun⟩

/-- Keeping a player under its identifier. -/
theorem putPlayer (h : w.IsIndexed) {id : PlayerId} {p : Player} (hid : p.id = id) :
    (w.putPlayer id p).IsIndexed := by
  refine ⟨fun {j q} hq => ?_, h.mapEvents⟩
  unfold World.putPlayer World.player? at hq
  rw [Table.get?_insert] at hq
  split at hq
  · next hj =>
    cases hq
    exact hid.trans (Table.rank_inj.mp hj)
  · exact h.players hq

/-- Loading a player. -/
theorem addPlayer (h : w.IsIndexed) (p : Player) : (w.addPlayer p).IsIndexed :=
  have hput := h.putPlayer (p := p) rfl
  ⟨hput.players, hput.mapEvents⟩

/-- Changing a player that stays who it is. -/
theorem modifyPlayer (h : w.IsIndexed) (id : PlayerId) {f : Player → Player}
    (hf : ∀ p, (f p).id = p.id) :
    ({ w with players := w.players.modify id f } : World).IsIndexed := by
  refine ⟨fun {j q} hq => ?_, h.mapEvents⟩
  unfold World.player? at hq
  rw [Table.get?_modify] at hq
  split at hq
  · obtain ⟨p, hp, rfl⟩ := Option.map_eq_some_iff.mp hq
    exact (hf p).trans (h.players hp)
  · exact h.players hq

/-- Changing an event that stays the one it is. -/
theorem modifyMapEvent (h : w.IsIndexed) (id : EventId) {f : MapEvent → MapEvent}
    (hf : ∀ e, (f e).id = e.id) :
    ({ w with mapEvents := w.mapEvents.modify id f } : World).IsIndexed := by
  refine ⟨h.players, fun {j e'} he => ?_⟩
  unfold World.mapEvent? at he
  rw [Table.get?_modify] at he
  split at he
  · obtain ⟨e, hget, rfl⟩ := Option.map_eq_some_iff.mp he
    exact (hf e).trans (h.mapEvents hget)
  · exact h.mapEvents he

/-- What a command leaves of a world, when its player is kept again. -/
theorem execute (h : w.IsIndexed) {id : PlayerId} {p : Player} (hp : w.player? id = some p)
    {run : Instance} {page : Page} {c : Command} {s : Scene}
    (hscene : Scene.execute ⟨⟨w, p⟩, run, page⟩ c = .ok s) :
    (s.world.putPlayer id s.player).IsIndexed := by
  obtain ⟨hwalkers, hevents⟩ := isIndexed_iff.mp h
  refine putPlayer ?_ ((Scene.id_execute _ hscene).trans (h.players hp))
  rw [isIndexed_iff]
  change (∀ id k, s.reserve.world.walkers id = some k → k.id = id) ∧
    ∀ id e, s.reserve.world.mapEvents.get? id = some e → e.id = id
  have hcase := Scene.reserve_cases _ hscene
  generalize s.reserve = after at hcase
  cases hcase with
  | route hother =>
    refine ⟨hwalkers, fun j e he => ?_⟩
    rw [Table.get?_modify] at he
    split at he
    · obtain ⟨e', he', rfl⟩ := Option.map_eq_some_iff.mp he
      exact hevents j e' he'
    · exact hevents j e he
  | _ => exact ⟨hwalkers, hevents⟩

/-- A step. -/
theorem step {t : Turn} (h : t.world.IsIndexed) {r : Turn.Outcome StepOutcome}
    (hstep : t.step = .ok r) : r.2.world.IsIndexed := by
  have hcase := Turn.deed_cases hstep
  generalize t.deed? = deed at hcase
  generalize r.2 = t' at hcase ⊢
  cases hcase with
  | idle => exact h
  | done st st' hplayer hscene => exact h.execute hplayer hscene

/-- A response. -/
theorem answer {t : Turn} (h : t.world.IsIndexed) {response : Response} {r : Turn.Outcome Bool}
    (hanswer : t.answer response = .ok r) : r.2.world.IsIndexed := by
  cases Turn.answer_cases hanswer with
  | ignored => exact h
  | missingPlayer => exact h
  | @accepted frame rest asked p s hstack hwaiting hanswered hplayer hscene =>
    have hreserve := Scene.reserve_resume _ hscene
    have hworld : s.world.reserve = t.world.reserve :=
      congrArg (fun r : Scene.Reserve => r.world) hreserve
    have hid : s.player.id = p.id := congrArg (fun r : Scene.Reserve => r.walker.id) hreserve
    refine putPlayer ?_ (hid.trans (h.players hplayer))
    rw [isIndexed_iff, hworld]
    exact isIndexed_iff.mp h

end IsIndexed

end World

end EventScript
