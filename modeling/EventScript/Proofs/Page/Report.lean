import EventScript.Proofs.Page.Check
import EventScript.Proofs.Page.Label

/-!
# What the report on a page says

The report counts and lists what stands in the lists that the root list leads to, each of which is
visited once. The labels it misses are those that the search for labels does not find: the
walk through a page and the search go different ways but come to the same lists.
-/

namespace EventScript

namespace Page

variable {p : Page}

/-! ## The walk to its end -/

/-- A walk that visited all it reached is over. -/
theorem walk_of_length_le {fuel done : Nat} {reached : List BranchId}
    (h : reached.length ≤ done) : p.walk fuel done reached = reached := by
  cases fuel with
  | zero => rfl
  | succ fuel =>
    unfold walk
    rw [List.getElem?_eq_none h]

/-- Steps beyond those that the walk needs make no difference to it. -/
theorem Walked.walk_eq {fuel fuel' done : Nat} {reached : List BranchId}
    (h : p.Walked done reached) (hfuel : p.lists.size + 1 ≤ fuel + done)
    (hfuel' : p.lists.size + 1 ≤ fuel' + done) :
    p.walk fuel done reached = p.walk fuel' done reached := by
  have hover (hdone : p.lists.size + 1 ≤ done) (fuel : Nat) : p.walk fuel done reached = reached :=
    walk_of_length_le (Nat.le_trans h.length_le hdone)
  induction fuel generalizing fuel' done reached with
  | zero => rw [hover (by omega), hover (by omega)]
  | succ fuel ih =>
    cases fuel' with
    | zero => rw [hover (by omega), hover (by omega)]
    | succ fuel' =>
      unfold Page.walk
      cases hlist : reached[done]? with
      | none => rfl
      | some list =>
        have hvisit := h.visit hlist
        exact ih hvisit (by omega) (by omega) fun hdone _ =>
          walk_of_length_le (Nat.le_trans hvisit.length_le hdone)

/-- No list is visited twice. -/
theorem nodup_reachable (p : Page) : p.reachable.Nodup := by
  obtain ⟨_, hwalked, -⟩ := (Walked.start p).walk (Nat.le_refl (p.lists.size + 1))
  exact hwalked.nodup

/-! ## Lists of findings -/

/-- The identifiers that are put in order are all there. -/
theorem mem_ascending {bs : List BranchId} {b : BranchId} : b ∈ ascending bs ↔ b ∈ bs := by
  unfold ascending
  rw [Table.mem_keys_ofList, List.map_map]
  simp [Function.comp_def]

/-- Leaving out repetitions leaves none. -/
theorem nodup_firstOccurrences (names : List String) : (firstOccurrences names).Nodup := by
  unfold firstOccurrences
  refine List.foldlRecOn (motive := List.Nodup) names _ .nil fun seen hseen name _ => ?_
  split
  · exact hseen
  · next hnew =>
    refine List.nodup_append.mpr ⟨hseen, List.nodup_singleton name, fun a ha b hb hab => ?_⟩
    rw [List.mem_singleton.mp hb] at hab
    exact hnew (List.contains_iff_mem.mpr (hab ▸ ha))

/-- The commands in reach are those of the lists that can be reached. -/
theorem mem_commands_iff {c : Command} :
    c ∈ p.reachable.flatMap p.commands ↔ ∃ list, p.Reaches list ∧ c ∈ p.commands list := by
  simp only [List.mem_flatMap, mem_reachable_iff]

/-- The branches in reach are those that the lists that can be reached refer to. -/
theorem mem_branches_iff {b : BranchId} :
    b ∈ (p.reachable.flatMap p.commands).flatMap Command.branches ↔
      ∃ list, p.Reaches list ∧ b ∈ p.branchesOf list := by
  rw [List.flatMap_assoc]
  simp only [List.mem_flatMap (l := p.reachable), mem_reachable_iff]
  rfl

/-- The jumps that miss their label are those to labels that the search does not find. -/
theorem mem_unresolved_iff {commands : List Command} {name : String} :
    name ∈ (commands.filterMap fun
      | .goToLabel name => if (p.findLabel? name).isNone then some name else none
      | _ => none) ↔ p.findLabel? name = none ∧ .goToLabel name ∈ commands := by
  rw [List.mem_filterMap]
  constructor
  · rintro ⟨c, hc, hname⟩
    split at hname
    · next label =>
      split at hname
      · next hnone =>
        cases hname
        exact ⟨Option.isNone_iff_eq_none.mp hnone, hc⟩
      · cases hname
    · cases hname
  · rintro ⟨hnone, hc⟩
    exact ⟨_, hc, if_pos (Option.isNone_iff_eq_none.mpr hnone)⟩

/-- A command occurs in reach as often as in the lists that are visited together. -/
theorem count_commands (c : Command) :
    (p.reachable.flatMap p.commands).count c =
      (p.reachable.map fun list => (p.commands list).count c).sum := List.count_flatMap

/-- A label is not found exactly if no list in reach holds it. -/
theorem findLabel?_eq_none_iff {label : String} :
    p.findLabel? label = none ↔ .label label ∉ p.reachable.flatMap p.commands := by
  have hfirst := p.isFirst_of_size_le label (Nat.le_refl _)
  rw [mem_commands_iff, ← exists_isWay_iff]
  cases hfound : p.searchList label p.lists.size [] p.root with
  | none =>
    rw [hfound] at hfirst
    exact iff_of_true hfound (not_exists.mpr hfirst)
  | some path =>
    rw [hfound] at hfirst
    refine iff_of_false (fun hnone => ?_) (not_not.mpr ⟨path, hfirst.1⟩)
    exact Option.some_ne_none path (hfound.symm.trans hnone)

/-- The names of labels among commands are counted as the labels are. -/
theorem count_labels (commands : List Command) (name : String) :
    (commands.filterMap fun
      | .label name => some name
      | _ => none).count name = commands.count (.label name) := by
  induction commands with
  | nil => rfl
  | cons c rest ih => cases c <;> simp [List.count_cons, ih]

/-! ## The report -/

/-- What a report has to say of a page of which some lists were visited. -/
structure IsReport (p : Page) (visited : List BranchId) (r : PageReport) : Prop where
  /-- The registered lists are counted. -/
  lists : r.lists = p.lists.size
  /-- The commands of the visited lists are counted. -/
  commands : r.commands = (visited.map fun list => (p.commands list).length).sum
  /-- Every label is listed as often as it stands in the visited lists. -/
  labels : ∀ name, r.labels.count name =
    (visited.map fun list => (p.commands list).count (.label name)).sum
  /-- The labels that are listed are those that the search finds. -/
  found : ∀ name, name ∈ r.labels ↔ ∃ path, p.findLabel? name = some path
  /-- The commands of unknown kind are counted. -/
  unsupported : r.unsupported =
    (visited.map fun list => (p.commands list).count .unsupported).sum
  /-- The registered lists that nothing leads to are listed in ascending order. -/
  unreachable : (r.unreachableLists.Pairwise fun a b => a.value.toNat < b.value.toNat) ∧
    ∀ b, b ∈ r.unreachableLists ↔ p.hasList b ∧ ¬ p.Reaches b
  /-- The branches without a list that are referred to, but for nil, are listed in ascending
  order. -/
  missing : (r.missingBranches.Pairwise fun a b => a.value.toNat < b.value.toNat) ∧
    ∀ b, b ∈ r.missingBranches ↔
      ¬ b.isNil ∧ ¬ p.hasList b ∧ ∃ list, p.Reaches list ∧ b ∈ p.branchesOf list
  /-- The labels that are jumped to but not there are listed without repetition. -/
  unresolved : r.unresolvedGotos.Nodup ∧ ∀ name, name ∈ r.unresolvedGotos ↔
    name ∉ r.labels ∧ ∃ list, p.Reaches list ∧ .goToLabel name ∈ p.commands list

/-- The walk visits the lists that the root list leads to, each of them once, and comes to an end by
itself; the report says what stands in them. -/
theorem isReport_analyze (p : Page) :
    p.reachable.Nodup ∧ (∀ list, list ∈ p.reachable ↔ p.Reaches list) ∧
      (∀ fuel, p.lists.size + 1 ≤ fuel → p.walk fuel 0 [p.root] = p.reachable) ∧
      p.IsReport p.reachable p.analyze := by
  refine ⟨p.nodup_reachable, fun _ => mem_reachable_iff,
    fun fuel hfuel => (Walked.start p).walk_eq hfuel (Nat.le_refl _), ?_⟩
  have hlabels (name : String) : p.analyze.labels.count name =
      (p.reachable.flatMap p.commands).count (.label name) := count_labels _ name
  have hfound (name : String) : name ∉ p.analyze.labels ↔ p.findLabel? name = none := by
    rw [← List.count_eq_zero, hlabels, List.count_eq_zero, findLabel?_eq_none_iff]
  constructor
  · rfl
  · exact List.length_flatMap
  · exact fun name => (hlabels name).trans (count_commands _)
  · intro name
    rw [← Option.ne_none_iff_exists', ne_eq, ← hfound, not_not]
  · exact List.count_eq_length_filter.symm.trans (count_commands _)
  · refine ⟨(Table.ascending_keys _).filter _, fun b => ?_⟩
    refine List.mem_filter.trans (and_congr Table.mem_keys_iff ?_)
    rw [Bool.not_eq_true', ← Bool.not_eq_true, List.contains_iff_mem, mem_reachable_iff]
  · refine ⟨(Table.ascending_keys _).filter _, fun b => ?_⟩
    refine List.mem_filter.trans ?_
    rw [mem_ascending, List.mem_filter, mem_branches_iff]
    simp only [Bool.not_eq_true', Bool.not_eq_true]
    exact and_comm.trans (and_congr_right' and_comm)
  · refine ⟨nodup_firstOccurrences _, fun name => ?_⟩
    rw [hfound, ← mem_commands_iff]
    exact mem_firstOccurrences.trans mem_unresolved_iff

end Page

end EventScript
