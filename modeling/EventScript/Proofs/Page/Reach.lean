import Mathlib.Data.List.Nodup
import Mathlib.Data.List.Perm.Subperm
import EventScript.Frame
import EventScript.Page.Analysis
import EventScript.Proofs.Table

/-!
# Reachable lists

The lists of a page that its root list leads to through registered branches. The breadth-first walk
visits each of them once, and the way to a label stays on them.
-/

namespace EventScript.Page

variable {p : Page}

/-- The lists that the root list leads to through registered branches. -/
inductive Reaches (p : Page) : BranchId → Prop
  | root : Reaches p p.root
  | branch {list b : BranchId} (above : Reaches p list) (referred : b ∈ p.branchesOf list)
      (registered : p.hasList b) : Reaches p b

/-- The registered lists are the keys of the table. -/
theorem mem_keys_of_hasList {b : BranchId} (h : p.hasList b) : b ∈ p.lists.keys := by
  obtain ⟨commands, hcommands⟩ := Option.isSome_iff_exists.mp h
  exact List.mem_map.mpr ⟨(b, commands), Table.mem_entries_iff.mpr hcommands, rfl⟩

/-- The commands of a list refer to its branches. -/
theorem mem_branchesOf {list b : BranchId} {commands : List Command} {c : Command}
    (hlist : p.list? list = some commands) (hc : c ∈ commands) (hb : b ∈ c.branches) :
    b ∈ p.branchesOf list := by
  unfold branchesOf Page.commands
  rw [hlist]
  exact List.mem_flatMap.mpr ⟨c, hc, hb⟩

/-! ## The walk -/

/-- What is added to the reached lists are the registered branches. -/
theorem mem_reach {reached bs : List BranchId} {b : BranchId} :
    b ∈ p.reach reached bs ↔ b ∈ reached ∨ (b ∈ bs ∧ p.hasList b) := by
  induction bs generalizing reached with
  | nil => simp [reach]
  | cons c bs ih =>
    unfold reach
    split <;> grind

/-- The reached lists stay in front. -/
theorem prefix_reach (p : Page) (reached bs : List BranchId) :
    reached <+: p.reach reached bs := by
  induction bs generalizing reached with
  | nil => exact List.prefix_rfl
  | cons c bs ih =>
    unfold reach
    split
    · exact (List.prefix_append _ _).trans (ih _)
    · exact ih _

/-- No list is reached twice. -/
theorem nodup_reach {reached bs : List BranchId} (h : reached.Nodup) :
    (p.reach reached bs).Nodup := by
  induction bs generalizing reached with
  | nil => exact h
  | cons c bs ih =>
    unfold reach
    split
    · next hc =>
      refine ih (List.nodup_append.mpr ⟨h, List.nodup_singleton c, fun a ha b hb hab => ?_⟩)
      rw [List.mem_singleton.mp hb] at hab
      simp_all
    · exact ih h

/-- What the walk keeps: the lists reached so far, the first `done` of which were visited. -/
structure Walked (p : Page) (done : Nat) (reached : List BranchId) : Prop where
  root : p.root ∈ reached
  nodup : reached.Nodup
  sound : ∀ list ∈ reached, p.Reaches list
  visited : ∀ i < done, ∀ list, reached[i]? = some list →
    ∀ b ∈ p.branchesOf list, p.hasList b → b ∈ reached

namespace Walked

variable {done : Nat} {reached : List BranchId}

/-- The walk starts at the root list. -/
theorem start (p : Page) : p.Walked 0 [p.root] where
  root := List.mem_singleton_self _
  nodup := List.nodup_singleton _
  sound _ hlist := List.mem_singleton.mp hlist ▸ .root
  visited i hi := absurd hi (Nat.not_lt_zero i)

/-- Visiting a list adds what it leads to. -/
theorem visit {list : BranchId} (h : p.Walked done reached) (hlist : reached[done]? = some list) :
    p.Walked (done + 1) (p.reach reached (p.branchesOf list)) where
  root := mem_reach.mpr (.inl h.root)
  nodup := nodup_reach h.nodup
  sound b hb := by
    rcases mem_reach.mp hb with hb | ⟨hb, hregistered⟩
    · exact h.sound b hb
    · exact .branch (h.sound list (List.mem_of_getElem? hlist)) hb hregistered
  visited i hi l hl b hb hregistered := by
    -- the lists visited so far keep their places
    have hplace {j : Nat} (hj : j < reached.length) :
        (p.reach reached (p.branchesOf list))[j]? = reached[j]? := by
      obtain ⟨added, hadded⟩ := p.prefix_reach reached (p.branchesOf list)
      rw [← hadded, List.getElem?_append_left hj]
    have hlength := (List.getElem?_eq_some_iff.mp hlist).1
    rcases Nat.lt_succ_iff_lt_or_eq.mp hi with hi | rfl
    · rw [hplace (Nat.lt_trans hi hlength)] at hl
      exact mem_reach.mpr (.inl (h.visited i hi l hl b hb hregistered))
    · rw [hplace hlength, hlist] at hl
      cases hl
      exact mem_reach.mpr (.inr ⟨hb, hregistered⟩)

/-- There are no more reached lists than the registered ones and the root list. -/
theorem length_le (h : p.Walked done reached) : reached.length ≤ p.lists.size + 1 := by
  have hsubset : reached ⊆ p.root :: p.lists.keys := by
    intro list hlist
    cases h.sound list hlist with
    | root => exact List.mem_cons_self
    | branch _ _ hregistered => exact List.mem_cons_of_mem _ (mem_keys_of_hasList hregistered)
  have hlength := (h.nodup.subperm hsubset).length_le
  rwa [List.length_cons, Table.keys, List.length_map] at hlength

/-- Once all reached lists were visited they are all that can be reached. -/
theorem mem_iff (h : p.Walked done reached) (hdone : reached.length ≤ done) {list : BranchId} :
    list ∈ reached ↔ p.Reaches list := by
  refine ⟨h.sound list, fun hlist => ?_⟩
  induction hlist with
  | root => exact h.root
  | branch above referred registered ih =>
    obtain ⟨i, hi⟩ := List.getElem?_of_mem ih
    have hlength := (List.getElem?_eq_some_iff.mp hi).1
    exact h.visited i (Nat.lt_of_lt_of_le hlength hdone) _ hi _ referred registered

/-- With a step for each list the walk visits all it reaches. -/
theorem walk {fuel : Nat} (h : p.Walked done reached) (hfuel : p.lists.size + 1 ≤ fuel + done) :
    ∃ done', p.Walked done' (p.walk fuel done reached) ∧
      (p.walk fuel done reached).length ≤ done' := by
  induction fuel generalizing done reached with
  | zero =>
    have hlength := h.length_le
    exact ⟨done, h, by unfold Page.walk; omega⟩
  | succ fuel ih =>
    unfold Page.walk
    cases hlist : reached[done]? with
    | none => exact ⟨done, h, List.getElem?_eq_none_iff.mp hlist⟩
    | some list => exact ih (h.visit hlist) (by omega)

end Walked

/-- The walk finds exactly the lists that can be reached. -/
theorem mem_reachable_iff {list : BranchId} : list ∈ p.reachable ↔ p.Reaches list := by
  obtain ⟨done, hwalked, hdone⟩ := (Walked.start p).walk (Nat.le_refl (p.lists.size + 1))
  exact hwalked.mem_iff hdone

/-- The commands of reached lists are those the analysis looks at. -/
theorem mem_commands_of_reaches {list : BranchId} {commands : List Command} {c : Command}
    (h : p.Reaches list) (hlist : p.list? list = some commands) (hc : c ∈ commands) :
    c ∈ p.reachable.flatMap p.commands := by
  refine List.mem_flatMap.mpr ⟨list, mem_reachable_iff.mpr h, ?_⟩
  unfold Page.commands
  rw [hlist]
  exact hc

/-! ## The way to a label -/

/-- A list that is searched with success is registered. -/
theorem hasList_of_searchList {label : String} {depth : Nat} {above : List BranchId}
    {list : BranchId} {path : List PathStep} (h : p.searchList label depth above list = some path) :
    p.hasList list := by
  cases depth with
  | zero => cases h
  | succ depth =>
    unfold searchList at h
    split at h
    · cases h
    · split at h
      · next commands hlist => exact Option.isSome_iff_exists.mpr ⟨commands, hlist⟩
      · cases h

/-- A search of the commands of a list stays on it and where the searches of branches stay. -/
theorem searchCommands_forall {P : BranchId → Prop} {label : String}
    {enter : BranchId → Option (List PathStep)} {list : BranchId} (hlist : P list) {i : Nat}
    {commands : List Command}
    (henter : ∀ c ∈ commands, ∀ b ∈ c.branches, ∀ path, enter b = some path →
      ∀ step ∈ path, P step.list)
    {path : List PathStep} (h : searchCommands label enter list i commands = some path) :
    ∀ step ∈ path, P step.list := by
  induction commands generalizing i with
  | nil => cases h
  | cons c rest ih =>
    unfold searchCommands at h
    split at h
    · cases h
      intro step hstep
      rwa [List.mem_singleton.mp hstep]
    · split at h
      · next later hlater =>
        cases h
        intro step hstep
        rcases List.mem_cons.mp hstep with rfl | hstep
        · exact hlist
        · obtain ⟨b, hb, hpath⟩ := List.exists_of_findSome?_eq_some hlater
          exact henter c List.mem_cons_self b hb later hpath step hstep
      · exact ih (fun c hc => henter c (List.mem_cons_of_mem _ hc)) h

/-- A search from a reached list stays on reached lists. -/
theorem reaches_of_searchList {label : String} {depth : Nat} {above : List BranchId}
    {list : BranchId} (hlist : p.Reaches list) {path : List PathStep}
    (h : p.searchList label depth above list = some path) : ∀ step ∈ path, p.Reaches step.list := by
  induction depth generalizing above list path with
  | zero => cases h
  | succ depth ih =>
    unfold searchList at h
    split at h
    · cases h
    · split at h
      · next commands hcommands =>
        refine searchCommands_forall hlist (fun c hc b hb later hlater => ?_) h
        have hbranch : p.Reaches b :=
          .branch hlist (mem_branchesOf hcommands hc hb) (hasList_of_searchList hlater)
        exact ih hbranch hlater
      · cases h

/-- The frames behind a label stand in reached lists, and none of them waits. -/
theorem reaches_of_resolveLabel? {label : String} {path : List Frame}
    (h : p.resolveLabel? label = some path) :
    ∀ f ∈ path, f.page = p ∧ p.Reaches f.list ∧ f.waiting = none := by
  obtain ⟨steps, hsteps, rfl⟩ := Option.map_eq_some_iff.mp h
  intro f hf
  obtain ⟨step, hstep, rfl⟩ := List.mem_map.mp hf
  exact ⟨rfl, reaches_of_searchList .root hsteps step hstep, rfl⟩

end EventScript.Page
