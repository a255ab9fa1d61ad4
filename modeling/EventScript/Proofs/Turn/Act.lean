import EventScript.Proofs.Turn.Deed
import Mathlib.Logic.Relation

/-!
# What happens in a world

Scripts take steps and players answer them. Seen from the world, each of that is one command that is
executed for a loaded player, one response that is accepted from one, or nothing; and what holds of
a world after any of it holds after all of it.
-/

namespace EventScript.World

/-- Something that happens in a world: a step of an execution or a response to one. -/
inductive Act (w : World) : World → Prop
  | step {i : Instance} {r : Turn.Outcome StepOutcome} (result : (Turn.mk w i).step = .ok r) :
      Act w r.2.world
  | answer {i : Instance} {response : Response} {r : Turn.Outcome Bool}
      (result : (Turn.mk w i).answer response = .ok r) : Act w r.2.world

/-- What it comes to. -/
inductive ActCase (w : World) : World → Prop
  | idle : ActCase w w
  | executed {runner : PlayerId} {p : Player} {i : Instance} {page : Page} {c : Command} {s : Scene}
      (player : w.player? runner = some p)
      (scene : Scene.execute ⟨⟨w, p⟩, i, page⟩ c = .ok s) :
      ActCase w (s.world.putPlayer runner s.player)
  | resumed {runner : PlayerId} {p : Player} {i : Instance} {page : Page} {asked : Suspension}
      {response : Response} {s : Scene} (player : w.player? runner = some p)
      (scene : Scene.resume ⟨⟨w, p⟩, i, page⟩ asked response = .ok s) :
      ActCase w (s.world.putPlayer runner s.player)

/-- Whatever happens is one command, one response, or nothing. -/
theorem Act.cases {w w' : World} (h : w.Act w') : w.ActCase w' := by
  cases h with
  | @step i r result =>
    have hcase := Turn.deed_cases result
    generalize Turn.deed? ⟨w, i⟩ = deed at hcase
    generalize r.2 = t at hcase ⊢
    cases hcase with
    | idle => exact .idle
    | done st st' hplayer hscene => exact .executed hplayer hscene
  | answer result =>
    cases Turn.answer_cases result with
    | ignored | missingPlayer => exact .idle
    | accepted hstack hwaiting hanswered hplayer hscene => exact .resumed hplayer hscene

/-- Players and events on maps stay under their own identifiers. -/
theorem Act.isIndexed {w w' : World} (h : w.Act w') (hw : w.IsIndexed) : w'.IsIndexed := by
  cases h with
  | step result => exact IsIndexed.step hw result
  | answer result => exact IsIndexed.answer hw result

/-- What happens one after the other. -/
abbrev Acts : World → World → Prop := Relation.ReflTransGen Act

/-- Players and events on maps stay under their own identifiers all the time. -/
theorem Acts.isIndexed {w w' : World} (h : w.Acts w') (hw : w.IsIndexed) : w'.IsIndexed := by
  induction h with
  | refl => exact hw
  | tail _ hact ih => exact hact.isIndexed ih

end EventScript.World
