import Mathlib.Data.List.Forall2
import EventScript.Proofs.Scheduler.Instances

/-!
# The stints of a pass

In a pass every execution that has frames is called once, player by player and for each player in
the order in which they were started. A stint is such a call: the turn it is made in and what it
comes to. Each stint begins in the world that the one before left behind. The stints of a pass tell
all that its turns do: what becomes of the world, of every execution, and of the counts.
-/

namespace EventScript

namespace Scheduler

/-- The call of one execution in a pass. -/
structure Stint where
  /-- The player the execution is kept for. -/
  owner : PlayerId
  /-- The turn in which the execution is called. -/
  before : Turn
  /-- What the call comes to. -/
  outcome : Turn.Outcome StepOutcome

namespace Stint

/-- The execution as it is called, with the player it is kept for. -/
def execution (c : Stint) : PlayerId × Instance := (c.owner, c.before.run)

/-- Whether the execution failed. -/
def isFailed (c : Stint) : Bool :=
  match c.outcome.1 with
  | .ok _ => false
  | .error _ => true

/-- Whether the execution took a step and did not just wait. -/
def isAdvanced (c : Stint) : Bool :=
  match c.outcome.1 with
  | .ok (.waiting _) => false
  | .ok _ => true
  | .error _ => false

/-- The turn that is left behind; an execution that failed is ended in it. -/
def left (c : Stint) : Turn := if c.isFailed then abandon c.outcome.2 c.owner else c.outcome.2

end Stint

/-- The stints of executions that are called one after the other, and the world they leave. -/
def stints (budget : UInt64) : List (PlayerId × Instance) → World → Guarded (List Stint × World)
  | [], w => return ([], w)
  | (owner, i) :: rest, w => do
    let outcome ← (Turn.mk w i).tick budget
    let c : Stint := ⟨owner, ⟨w, i⟩, outcome⟩
    let (later, w) ← stints budget rest c.left.world
    return (c :: later, w)

/-- A player's executions that have frames, in order. -/
def runningOf (e : PlayerId × List Instance) : List (PlayerId × Instance) :=
  (e.2.filter Instance.isRunning).map (Prod.mk e.1)

/-- All executions that have frames, player by player. -/
def running (s : Scheduler) : List (PlayerId × Instance) := s.instances.entries.flatMap runningOf

/-- What becomes of a player's executions by stints: what was called is as its stint left it, and
what has no frames is as it was. -/
inductive Becomes (cs : List Stint) (owner : PlayerId) : Instance → Instance → Prop
  | called {c : Stint} (mem : c ∈ cs) (kept : c.owner = owner) :
      Becomes cs owner c.before.run c.left.run
  | idle {i : Instance} (idle : i.isRunning = false) : Becomes cs owner i i

/-- The world and the counts after stints. -/
def Pass.after (pass : Pass) (cs : List Stint) (w : World) : Pass where
  world := w
  advanced := pass.advanced + cs.countP Stint.isAdvanced
  failed := pass.failed + cs.countP Stint.isFailed

/-! ## Stints one after the other -/

section

variable {budget : UInt64}

/-- The first stint, and the others in the world it leaves. -/
theorem stints_cons {owner : PlayerId} {i : Instance} {rest : List (PlayerId × Instance)}
    {w : World} {r : List Stint × World} (h : stints budget ((owner, i) :: rest) w = .ok r) :
    ∃ outcome later, (Turn.mk w i).tick budget = .ok outcome ∧
      stints budget rest (Stint.mk owner ⟨w, i⟩ outcome).left.world = .ok later ∧
        r = (⟨owner, ⟨w, i⟩, outcome⟩ :: later.1, later.2) := by
  obtain ⟨outcome, houtcome, h⟩ := Guarded.bind_eq_ok.mp h
  obtain ⟨later, hlater, h⟩ := Guarded.bind_eq_ok.mp h
  cases h
  exact ⟨outcome, later, houtcome, hlater, rfl⟩

/-- Stints go on in the world that the first of them left. -/
theorem stints_append {first later : List (PlayerId × Instance)} {w w₁ w₂ : World}
    {cs ds : List Stint} (hfirst : stints budget first w = .ok (cs, w₁))
    (hlater : stints budget later w₁ = .ok (ds, w₂)) :
    stints budget (first ++ later) w = .ok (cs ++ ds, w₂) := by
  induction first generalizing w cs with
  | nil =>
    cases hfirst
    exact hlater
  | cons e rest ih =>
    obtain ⟨outcome, ⟨cs', w'⟩, houtcome, hrest, heq⟩ := stints_cons hfirst
    cases heq
    refine Guarded.bind_eq_ok.mpr ⟨outcome, houtcome, ?_⟩
    exact Guarded.bind_eq_ok.mpr ⟨(cs' ++ ds, w₂), ih hrest, rfl⟩

/-- Every execution has its stint, in order. -/
theorem map_execution_of_stints {es : List (PlayerId × Instance)} {w : World}
    {r : List Stint × World} (h : stints budget es w = .ok r) :
    r.1.map Stint.execution = es := by
  induction es generalizing w r with
  | nil =>
    cases h
    rfl
  | cons e rest ih =>
    obtain ⟨outcome, later, -, hlater, rfl⟩ := stints_cons h
    rw [List.map_cons, ih hlater]
    rfl

/-- A stint is the call of its execution, and those behind it go on in the world it left. -/
theorem stints_split {es : List (PlayerId × Instance)} {w w' : World} {earlier later : List Stint}
    {c : Stint} (h : stints budget es w = .ok (earlier ++ c :: later, w')) :
    c.before.tick budget = .ok c.outcome ∧
      stints budget (later.map Stint.execution) c.left.world = .ok (later, w') := by
  induction earlier generalizing es w with
  | nil =>
    cases es with
    | nil => cases h
    | cons e rest =>
      obtain ⟨outcome, ⟨cs, w₁⟩, houtcome, hlater, heq⟩ := stints_cons h
      cases heq
      refine ⟨houtcome, ?_⟩
      rwa [map_execution_of_stints hlater]
  | cons first earlier ih =>
    cases es with
    | nil => cases h
    | cons e rest =>
      obtain ⟨outcome, ⟨cs, w₁⟩, -, hlater, heq⟩ := stints_cons h
      cases heq
      exact ih hlater

/-- What holds of the world and is kept by every stint holds whenever an execution is called, and at
the end. -/
theorem stints_invariant {P : World → Prop} {es : List (PlayerId × Instance)} {w : World}
    {r : List Stint × World} (h : stints budget es w = .ok r)
    (hkept : ∀ c : Stint, c.execution ∈ es → c.before.tick budget = .ok c.outcome →
      P c.before.world → P c.left.world) (hw : P w) : (∀ c ∈ r.1, P c.before.world) ∧ P r.2 := by
  induction es generalizing w r with
  | nil =>
    cases h
    exact ⟨fun c hc => absurd hc List.not_mem_nil, hw⟩
  | cons e rest ih =>
    obtain ⟨outcome, later, houtcome, hlater, rfl⟩ := stints_cons h
    have hleft : P (Stint.mk e.1 ⟨w, e.2⟩ outcome).left.world :=
      hkept _ List.mem_cons_self houtcome hw
    obtain ⟨hcalled, hend⟩ :=
      ih hlater (fun c hc => hkept c (List.mem_cons_of_mem e hc)) hleft
    exact ⟨List.forall_mem_cons.mpr ⟨hw, hcalled⟩, hend⟩

end

/-! ## Turns are stints -/

/-- What executions become by stints they become by these and others. -/
theorem Becomes.mono {cs ds : List Stint} (hsub : cs ⊆ ds) {owner : PlayerId} {i j : Instance}
    (h : Becomes cs owner i j) : Becomes ds owner i j := by
  cases h with
  | called hmem hkept => exact .called (hsub hmem) hkept
  | idle hidle => exact .idle hidle

/-- What became of an execution of a list. -/
theorem exists_becomes {cs : List Stint} {owner : PlayerId} {is js : List Instance}
    (h : List.Forall₂ (Becomes cs owner) is js) {i : Instance} (hi : i ∈ is) :
    ∃ j ∈ js, Becomes cs owner i j := by
  induction h with
  | nil => cases hi
  | cons hfirst _ ih =>
    rcases List.mem_cons.mp hi with rfl | hi
    · exact ⟨_, List.mem_cons_self, hfirst⟩
    · obtain ⟨j, hj, hbecomes⟩ := ih hi
      exact ⟨j, List.mem_cons_of_mem _ hj, hbecomes⟩

/-- Executions stay what they were started as while every stint leaves them so. -/
theorem map_origin_of_becomes {cs : List Stint} {owner : PlayerId} {is js : List Instance}
    (hcs : ∀ c ∈ cs, c.left.run.origin = c.before.run.origin)
    (h : List.Forall₂ (Becomes cs owner) is js) :
    js.map Instance.origin = is.map Instance.origin := by
  induction h with
  | nil => rfl
  | cons hfirst _ ih =>
    rw [List.map_cons, List.map_cons, ih]
    cases hfirst with
    | called hmem => rw [hcs _ hmem]
    | idle => rfl

/-- Counting goes on. -/
theorem Pass.after_after (pass : Pass) (cs ds : List Stint) (w w' : World) :
    (pass.after cs w).after ds w' = pass.after (cs ++ ds) w' := by
  unfold Pass.after
  simp only [List.countP_append, Nat.add_assoc]

/-- The turn of one execution is its stint. -/
theorem stint_of_takeTurn {budget : UInt64} {owner : PlayerId} {pass : Pass} {i : Instance}
    {r : Instance × Pass} (h : takeTurn budget owner pass i = .ok r) :
    ∃ c : Stint, c.execution = (owner, i) ∧ r.1 = c.left.run ∧
      r.2 = pass.after [c] c.left.world ∧
        stints budget [(owner, i)] pass.world = .ok ([c], c.left.world) := by
  obtain ⟨⟨outcome, t⟩, htick, h⟩ := Guarded.bind_eq_ok.mp h
  refine ⟨⟨owner, ⟨pass.world, i⟩, (outcome, t)⟩, rfl, ?_⟩
  have hstints : stints budget [(owner, i)] pass.world = .ok
      ([⟨owner, ⟨pass.world, i⟩, (outcome, t)⟩],
        (Stint.mk owner ⟨pass.world, i⟩ (outcome, t)).left.world) :=
    Guarded.bind_eq_ok.mpr ⟨_, htick, rfl⟩
  refine (and_assoc.mp ⟨?_, hstints⟩)
  cases outcome with
  | error e =>
    cases h
    exact ⟨rfl, rfl⟩
  | ok o =>
    cases o with
    | waiting | «continue» | suspended | completed =>
      cases h
      exact ⟨rfl, rfl⟩

/-- The turns of a player's executions are stints of those that have frames. -/
theorem stints_of_takeTurns {budget : UInt64} {owner : PlayerId} {is : List Instance} {pass : Pass}
    {r : List Instance × Pass} (h : takeTurns budget owner is pass = .ok r) :
    ∃ cs, stints budget (runningOf (owner, is)) pass.world = .ok (cs, r.2.world) ∧
      r.2 = pass.after cs r.2.world ∧ List.Forall₂ (Becomes cs owner) is r.1 := by
  induction is generalizing pass r with
  | nil =>
    cases h
    exact ⟨[], rfl, rfl, .nil⟩
  | cons i rest ih =>
    unfold takeTurns at h
    split at h
    · next hruns =>
      obtain ⟨first, hfirst, h⟩ := Guarded.bind_eq_ok.mp h
      obtain ⟨later, hlater, h⟩ := Guarded.bind_eq_ok.mp h
      cases h
      obtain ⟨c, hexecution, hrun, hpass, hstint⟩ := stint_of_takeTurn hfirst
      obtain ⟨cs, hstints, hafter, hbecomes⟩ := ih hlater
      have hrunning : runningOf (owner, i :: rest) = [(owner, i)] ++ runningOf (owner, rest) := by
        unfold runningOf
        rw [List.filter_cons_of_pos hruns, List.map_cons, List.singleton_append]
      rw [hpass] at hstints hafter
      rw [Pass.after_after, List.singleton_append] at hafter
      refine ⟨c :: cs, ?_, hafter, .cons ?_ ?_⟩
      · rw [hrunning]
        exact stints_append hstint hstints
      · cases hexecution
        rw [hrun]
        exact .called List.mem_cons_self rfl
      · exact hbecomes.imp fun _ _ => Becomes.mono (List.subset_cons_self c cs)
    · next hruns =>
      obtain ⟨first, hfirst, h⟩ := Guarded.bind_eq_ok.mp h
      obtain ⟨later, hlater, h⟩ := Guarded.bind_eq_ok.mp h
      cases hfirst
      cases h
      obtain ⟨cs, hstints, hafter, hbecomes⟩ := ih hlater
      have hrunning : runningOf (owner, i :: rest) = runningOf (owner, rest) := by
        unfold runningOf
        rw [List.filter_cons_of_neg hruns]
      rw [hrunning]
      exact ⟨cs, hstints, hafter, .cons (.idle (Bool.not_eq_true _ ▸ hruns)) hbecomes⟩

/-- The turns of all executions are stints of those that have frames. -/
theorem stints_of_takeAllTurns {budget : UInt64} {es : List (PlayerId × List Instance)}
    {instances : Table PlayerId (List Instance)} {pass : Pass}
    {r : Table PlayerId (List Instance) × Pass} (hkeys : (es.map Prod.fst).Nodup)
    (h : takeAllTurns budget es instances pass = .ok r) :
    ∃ cs, stints budget (es.flatMap runningOf) pass.world = .ok (cs, r.2.world) ∧
      r.2 = pass.after cs r.2.world ∧
        (∀ e ∈ es, ∃ js, r.1.get? e.1 = some js ∧ List.Forall₂ (Becomes cs e.1) e.2 js) ∧
          ∀ player, player ∉ es.map Prod.fst → r.1.get? player = instances.get? player := by
  induction es generalizing instances pass with
  | nil =>
    cases h
    exact ⟨[], rfl, rfl, fun _ he => absurd he List.not_mem_nil, fun _ _ => rfl⟩
  | cons e rest ih =>
    obtain ⟨owner, is⟩ := e
    obtain ⟨turns, hturns, h⟩ := Guarded.bind_eq_ok.mp h
    obtain ⟨howner, hkeys⟩ := List.nodup_cons.mp hkeys
    obtain ⟨cs, hcs, hfirst, hbecame⟩ := stints_of_takeTurns hturns
    obtain ⟨ds, hds, hlater, hbecome, hother⟩ := ih hkeys h
    refine ⟨cs ++ ds, ?_, ?_, ?_, ?_⟩
    · rw [List.flatMap_cons]
      exact stints_append hcs hds
    · rw [hfirst, Pass.after_after] at hlater
      exact hlater
    · intro e he
      rcases List.mem_cons.mp he with rfl | he
      · refine ⟨turns.1, ?_, hbecame.imp fun _ _ => Becomes.mono (List.subset_append_left cs ds)⟩
        rw [hother owner howner, Table.get?_insert_self]
      · obtain ⟨js, hjs, hbecomes⟩ := hbecome e he
        exact ⟨js, hjs, hbecomes.imp fun _ _ => Becomes.mono (List.subset_append_right cs ds)⟩
    · intro player hplayer
      rw [List.map_cons, List.mem_cons, not_or] at hplayer
      rw [hother player hplayer.2, Table.get?_insert_of_ne _ _ (Ne.symm hplayer.1)]

/-! ## Passes by their stints -/

/-- What happens in a pass, told by the stints of the executions: requests are served, the
executions that have frames are called and become what their stints leave, clones see the changes of
self switches, requests are served again, and what is complete is removed. -/
inductive PassStints (s : Scheduler) :
    Scheduler → List Stint → World → TickReport × Scheduler → Prop
  | intro {startedBefore startedAfter : Nat} {s₁ s₂ s₃ : Scheduler} {cs : List Stint}
      (before : s.serveRequests = .ok (startedBefore, s₁))
      (called : stints s₁.world.config.scheduler.commandsPerTick s₁.running s₁.world =
        .ok (cs, s₂.world))
      (became : ∀ player,
        List.Forall₂ (Becomes cs player) (s₁.instancesOf player) (s₂.instancesOf player))
      (after : s₂.applySwitches.serveRequests = .ok (startedAfter, s₃)) :
      PassStints s s₁ cs s₂.world
        (⟨cs.countP Stint.isAdvanced, s₃.reap.1, cs.countP Stint.isFailed,
          startedBefore + startedAfter⟩, s₃.reap.2)

/-- Every pass consists of its stints. -/
theorem stints_of_tick {s : Scheduler} {r : TickReport × Scheduler} (h : s.tick = .ok r) :
    ∃ s₁ cs w, s.PassStints s₁ cs w r := by
  cases tick_cases h with
  | @intro startedBefore startedAfter s₁ s₃ instances pass before turns after =>
    obtain ⟨cs, hcs, hafter, hbecome, hother⟩ :=
      stints_of_takeAllTurns s₁.instances.nodup_keys turns
    have hbecame (player : PlayerId) : List.Forall₂ (Becomes cs player) (s₁.instancesOf player)
        ((Scheduler.mk pass.world instances).instancesOf player) := by
      unfold instancesOf
      dsimp only
      cases hlist : s₁.instances.get? player with
      | some is =>
        obtain ⟨js, hjs, hbecomes⟩ := hbecome (player, is) (Table.mem_entries_iff.mpr hlist)
        rw [hjs]
        exact hbecomes
      | none =>
        have hplayer : player ∉ s₁.instances.entries.map Prod.fst := by
          intro hmem
          obtain ⟨⟨_, is⟩, he, rfl⟩ := List.mem_map.mp hmem
          rw [Table.mem_entries_iff.mp he] at hlist
          cases hlist
        rw [hother player hplayer, hlist]
        exact .nil
    have hcounts : pass = ⟨pass.world, cs.countP Stint.isAdvanced, cs.countP Stint.isFailed⟩ := by
      have hcounts : pass = Pass.after ⟨s₁.world, 0, 0⟩ cs pass.world := hafter
      rwa [Pass.after, Nat.zero_add, Nat.zero_add] at hcounts
    let s₂ : Scheduler := ⟨pass.world, instances⟩
    have hcalled : stints s₁.world.config.scheduler.commandsPerTick s₁.running s₁.world =
        .ok (cs, s₂.world) := hcs
    rw [hcounts]
    exact ⟨s₁, cs, pass.world, .intro before hcalled hbecame after⟩

/-! ## Who is called -/

/-- An execution is called if it has frames. -/
theorem mem_running_iff {s : Scheduler} {player : PlayerId} {i : Instance} :
    (player, i) ∈ s.running ↔ i ∈ s.instancesOf player ∧ i.isRunning = true := by
  unfold running runningOf instancesOf
  rw [List.mem_flatMap]
  constructor
  · rintro ⟨⟨owner, is⟩, he, hmem⟩
    obtain ⟨j, hj, heq⟩ := List.mem_map.mp hmem
    cases heq
    obtain ⟨hj, hruns⟩ := List.mem_filter.mp hj
    rw [Table.mem_entries_iff.mp he]
    exact ⟨hj, hruns⟩
  · rintro ⟨hi, hruns⟩
    cases hlist : s.instances.get? player with
    | none =>
      rw [hlist] at hi
      cases hi
    | some is =>
      rw [hlist] at hi
      refine ⟨(player, is), Table.mem_entries_iff.mpr hlist, List.mem_map.mpr ⟨i, ?_, rfl⟩⟩
      exact List.mem_filter.mpr ⟨hi, hruns⟩

/-- No execution is called twice. -/
theorem IsWellFormed.nodup_running {s : Scheduler} (hs : s.IsWellFormed) : s.running.Nodup := by
  unfold running
  refine List.nodup_flatMap.mpr ⟨fun e he => ?_, ?_⟩
  · have hlist : s.instancesOf e.1 = e.2 := by
      unfold instancesOf
      rw [Table.mem_entries_iff.mp he, Option.getD_some]
    have hnodup : e.2.Nodup := hlist ▸ (hs.once e.1).of_map
    unfold runningOf
    exact (hnodup.filter _).map fun _ _ h => (Prod.mk.inj h).2
  · have hkeys : s.instances.entries.Pairwise fun a b => a.1 ≠ b.1 :=
      List.pairwise_map.mp s.instances.nodup_keys
    refine hkeys.imp fun {a b} hne => ?_
    intro x hxa hxb
    obtain ⟨i, -, rfl⟩ := List.mem_map.mp hxa
    obtain ⟨j, -, heq⟩ := List.mem_map.mp hxb
    exact hne (congrArg Prod.fst heq).symm

end Scheduler

end EventScript
