import EventScript.Proofs.Scene.Parts
import EventScript.Proofs.Turn.Act

/-!
# What happens to a player

A script works on the player it runs for. Of the other players it changes the guild and the
variables at most, and it changes neither the configuration nor the catalog. So whatever holds of a
player regardless of these two is kept by everything that happens, if it is kept by every command
and every response of the player itself.
-/

namespace EventScript

/-- Values of a part that is not left out are the same when they are kept the same. -/
theorem Part.eq_of_keep_eq {α : Type} {parts : List Part} {part : Part} {blank a b : α}
    (h : parts.contains part = false)
    (heq : keep parts part blank a = keep parts part blank b) : a = b := by
  have hkept := Part.not_mem_of_contains h
  rwa [Part.keep_of_not_mem hkept, Part.keep_of_not_mem hkept] at heq

/-- A player whose record without some parts is that of another differs from it in guild and
variables at most. -/
theorem Player.eq_of_recordWithout {parts : List Part} {p q : Player}
    (h : q.recordWithout parts = p.recordWithout parts) :
    q = { p with guild := q.guild, vars := q.vars } := by
  have hrest := congrArg (fun r : Player => { r with guild := q.guild, vars := q.vars }) h
  exact hrest

namespace World

variable {w w' : World} {id : PlayerId} {p : Player}

/-- What something that happens in a world makes of a loaded player. -/
inductive PlayerCase (w : World) (id : PlayerId) (p : Player) : World → Prop
  /-- The script runs for another player. -/
  | aside {w' : World} (guild : Option GuildId) (vars : VariableStore)
      (player : w'.player? id = some { p with guild := guild, vars := vars }) : PlayerCase w id p w'
  /-- A command of the player is executed. -/
  | executed {i : Instance} {page : Page} {c : Command} {s : Scene}
      (scene : Scene.execute ⟨⟨w, p⟩, i, page⟩ c = .ok s) :
      PlayerCase w id p (s.world.putPlayer id s.player)
  /-- A response of the player is accepted. -/
  | resumed {i : Instance} {page : Page} {asked : Suspension} {response : Response} {s : Scene}
      (scene : Scene.resume ⟨⟨w, p⟩, i, page⟩ asked response = .ok s) :
      PlayerCase w id p (s.world.putPlayer id s.player)

/-- A player who does not run the script is told by the world without some parts. -/
theorem player?_of_without {parts : List Part} {runner : PlayerId} {q : Player}
    (h : w'.without parts = w.without parts) (hp : w.player? id = some p) (hne : id ≠ runner) :
    ∃ guild vars, (w'.putPlayer runner q).player? id =
      some { p with guild := guild, vars := vars } := by
  have hput : (w'.putPlayer runner q).player? id = w'.player? id :=
    Table.get?_insert_of_ne _ _ (Ne.symm hne)
  have hrecord : (w'.player? id).map (Player.recordWithout parts) =
      some (p.recordWithout parts) := by
    rw [← player?_without, h, player?_without, hp, Option.map_some]
  obtain ⟨p', hp', hsame⟩ := Option.map_eq_some_iff.mp hrecord
  refine ⟨p'.guild, p'.vars, ?_⟩
  rw [hput, hp']
  exact congrArg some (Player.eq_of_recordWithout hsame)

/-- Whatever happens, a player who is loaded stays loaded and changes in one of three ways. -/
theorem Act.player_cases (h : w.Act w') (hp : w.player? id = some p) : w.PlayerCase id p w' := by
  cases h.cases with
  | idle => exact .aside p.guild p.vars hp
  | @executed runner q i page c s hplayer hscene =>
    by_cases hid : id = runner
    · subst hid
      rw [hp] at hplayer
      cases hplayer
      exact .executed hscene
    · have hworld := congrArg Setting.world (Scene.rest_execute _ hscene)
      obtain ⟨guild, vars, hother⟩ := player?_of_without (q := s.player) hworld hp hid
      exact .aside guild vars hother
  | @resumed runner q i page asked response s hplayer hscene =>
    by_cases hid : id = runner
    · subst hid
      rw [hp] at hplayer
      cases hplayer
      exact .resumed hscene
    · have hworld := congrArg Setting.world (Scene.rest_resume _ hscene)
      obtain ⟨guild, vars, hother⟩ := player?_of_without (q := s.player) hworld hp hid
      exact .aside guild vars hother

/-- Scripts change neither the configuration nor the catalog. -/
theorem Act.config_catalog (h : w.Act w') : w'.config = w.config ∧ w'.catalog = w.catalog := by
  have hkeeps {parts : List Part} {s s' : Scene} (hrest : s'.rest parts = s.rest parts) :
      s'.world.config = s.world.config ∧ s'.world.catalog = s.world.catalog := by
    have hconfig := congrArg (fun s : Setting => s.world.config) hrest
    have hcatalog := congrArg (fun s : Setting => s.world.catalog) hrest
    exact ⟨hconfig, hcatalog⟩
  cases h.cases with
  | idle => exact ⟨rfl, rfl⟩
  | executed hplayer hscene => exact hkeeps (Scene.rest_execute _ hscene)
  | resumed hplayer hscene => exact hkeeps (Scene.rest_resume _ hscene)

/-- Nor do they over a whole run. -/
theorem Acts.config_catalog (h : w.Acts w') : w'.config = w.config ∧ w'.catalog = w.catalog := by
  induction h with
  | refl => exact ⟨rfl, rfl⟩
  | tail _ hact ih => exact ⟨hact.config_catalog.1.trans ih.1, hact.config_catalog.2.trans ih.2⟩

end World

end EventScript
