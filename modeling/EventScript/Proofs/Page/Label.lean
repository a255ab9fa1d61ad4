import EventScript.Proofs.Page.Reach

/-!
# The first way to a label

A way to a label leads from a list through branches to a list that holds the label, and through no
list twice. Its address says where it goes, level by level: the position in the list, then the
branch that is entered there. Depth first means in the order of the addresses. The search finds the
first way of all, and finds none exactly if no list that can be reached holds the label.
-/

namespace EventScript

/-- A command is a label with a name exactly if it is that label. -/
theorem Command.isLabel_iff {name : String} {c : Command} :
    c.isLabel name = true ↔ c = .label name := by
  cases c <;> simp [isLabel]

namespace Page

variable {p : Page} {label : String}

/-- The command that a step of a way stands behind. -/
def commandBefore? (p : Page) (s : PathStep) : Option Command :=
  (p.list? s.list).bind fun commands => commands[s.index - 1]?

/-- A way from a list to a label. -/
structure IsWay (p : Page) (label : String) (list : BranchId) (path : List PathStep) : Prop where
  /-- It starts at the list. -/
  starts : path.head?.map PathStep.list = some list
  /-- It leads through no list twice. -/
  distinct : (path.map PathStep.list).Nodup
  /-- Every step stands in a registered list, behind one of its commands. -/
  inside : ∀ s ∈ path, ∃ commands, p.list? s.list = some commands ∧
    1 ≤ s.index ∧ s.index ≤ commands.length
  /-- The command behind which a step stands refers to the list of the next one. -/
  linked : path.IsChain fun s next => ∃ c, p.commandBefore? s = some c ∧ next.list ∈ c.branches
  /-- The last step stands behind the label. -/
  found : path.getLast?.bind p.commandBefore? = some (.label label)

/-- Where a way goes, level by level: the position in the list, and then the position of the next
list among the branches that the command there refers to. -/
def address (p : Page) : List PathStep → List Nat
  | [] => []
  | [s] => [s.index]
  | s :: next :: rest =>
    s.index :: ((p.commandBefore? s).elim 0 fun c => c.branches.idxOf next.list) ::
      p.address (next :: rest)

/-! ## Ways step by step -/

/-- The ways from a list that keep clear of the lists above, as a search comes upon them. -/
inductive Way (p : Page) (label : String) : List BranchId → BranchId → List PathStep → Prop
  | here {above : List BranchId} {list : BranchId} {commands : List Command} {i : Nat}
      (new : list ∉ above) (registered : p.list? list = some commands)
      (command : commands[i]? = some (.label label)) : Way p label above list [⟨list, i + 1⟩]
  | branch {above : List BranchId} {list b : BranchId} {commands : List Command} {i : Nat}
      {c : Command} {rest : List PathStep} (new : list ∉ above)
      (registered : p.list? list = some commands) (command : commands[i]? = some c)
      (referred : b ∈ c.branches) (below : Way p label (list :: above) b rest) :
      Way p label above list (⟨list, i + 1⟩ :: rest)

/-- The command behind which a step stands, in a list that is known. -/
theorem commandBefore?_succ {list : BranchId} {commands : List Command} {i : Nat}
    (hlist : p.list? list = some commands) : p.commandBefore? ⟨list, i + 1⟩ = commands[i]? := by
  simp [commandBefore?, hlist]

namespace Way

variable {above : List BranchId} {list : BranchId} {path : List PathStep}

/-- A way starts at its list. -/
theorem head (h : p.Way label above list path) : ∃ i rest, path = ⟨list, i⟩ :: rest := by
  cases h <;> exact ⟨_, _, rfl⟩

/-- A way keeps clear of the lists above. -/
theorem not_mem (h : p.Way label above list path) : ∀ s ∈ path, s.list ∉ above := by
  induction h with
  | here hnew => simpa using hnew
  | branch hnew _ _ _ _ ih =>
    intro s hs
    rcases List.mem_cons.mp hs with rfl | hs
    · exact hnew
    · intro habove
      exact ih s hs (List.mem_cons_of_mem _ habove)

/-- A way that keeps clear of other lists is a way below them, too. -/
theorem of_clear (h : p.Way label above list path) {others : List BranchId}
    (hothers : ∀ s ∈ path, s.list ∉ others) : p.Way label others list path := by
  induction h generalizing others with
  | here _ hlist hc => exact .here (hothers _ List.mem_cons_self) hlist hc
  | @branch above list b commands i c rest _ hlist hc hb hbelow ih =>
    refine .branch (hothers _ List.mem_cons_self) hlist hc hb (ih fun s hs => ?_)
    have hnew := hbelow.not_mem s hs
    have hclear := hothers s (List.mem_cons_of_mem _ hs)
    simp_all

/-- From each list it leads through, a way leads on. -/
theorem exists_suffix (h : p.Way label above list path) {s : PathStep} (hs : s ∈ path) :
    ∃ later, p.Way label [] s.list later := by
  induction h with
  | here _ hlist hc =>
    rw [List.mem_singleton.mp hs]
    exact ⟨_, .here List.not_mem_nil hlist hc⟩
  | branch hnew hlist hc hb hbelow ih =>
    rcases List.mem_cons.mp hs with rfl | hs
    · have hway := Way.branch hnew hlist hc hb hbelow
      exact ⟨_, hway.of_clear fun _ _ => List.not_mem_nil⟩
    · exact ih hs

/-- Ways are ways from their list, clear of the lists above. -/
theorem isWay (h : p.Way label above list path) : p.IsWay label list path := by
  induction h with
  | @here above list commands i hnew hlist hc =>
    have hlength : i < commands.length := (List.getElem?_eq_some_iff.mp hc).1
    refine ⟨rfl, by simp, ?_, by simp, ?_⟩
    · simpa using ⟨commands, hlist, by omega⟩
    · simpa [commandBefore?_succ hlist] using hc
  | @branch above list b commands i c rest hnew hlist hc hb hbelow ih =>
    have hlength : i < commands.length := (List.getElem?_eq_some_iff.mp hc).1
    obtain ⟨j, later, rfl⟩ := hbelow.head
    refine ⟨rfl, ?_, ?_, ?_, ?_⟩
    · refine List.nodup_cons.mpr ⟨fun hmem => ?_, ih.distinct⟩
      obtain ⟨s, hs, hlist⟩ := List.mem_map.mp hmem
      exact hbelow.not_mem s hs (hlist ▸ List.mem_cons_self)
    · intro s hs
      rcases List.mem_cons.mp hs with rfl | hs
      · exact ⟨commands, hlist, by simp, hlength⟩
      · exact ih.inside s hs
    · refine List.isChain_cons_cons.mpr ⟨⟨c, ?_, hb⟩, ih.linked⟩
      rw [commandBefore?_succ hlist, hc]
    · rw [List.getLast?_cons_cons]
      exact ih.found

end Way

/-- A way that keeps clear of the lists above is one that a search comes upon. -/
theorem IsWay.way {above : List BranchId} {list : BranchId} {path : List PathStep}
    (h : p.IsWay label list path) (habove : ∀ s ∈ path, s.list ∉ above) :
    p.Way label above list path := by
  induction path generalizing above list with
  | nil => cases h.starts
  | cons s rest ih =>
    obtain ⟨hnew, hrest⟩ := List.forall_mem_cons.mp habove
    obtain ⟨⟨commands, hlist, hpositive, -⟩, hinside⟩ := List.forall_mem_cons.mp h.inside
    obtain ⟨i, hi⟩ : ∃ i, s = ⟨list, i + 1⟩ := by
      have hstarts : s.list = list := Option.some.inj h.starts
      exact ⟨s.index - 1, by cases s; simp_all⟩
    subst hi
    have hbefore : p.commandBefore? ⟨list, i + 1⟩ = commands[i]? := commandBefore?_succ hlist
    cases rest with
    | nil => exact .here hnew hlist (hbefore.symm.trans h.found)
    | cons next later =>
      obtain ⟨⟨c, hc, hb⟩, hlinked⟩ := List.isChain_cons_cons.mp h.linked
      obtain ⟨hfirst, hdistinct⟩ := List.nodup_cons.mp h.distinct
      have hway : p.IsWay label next.list (next :: later) :=
        ⟨rfl, hdistinct, hinside, hlinked, by simpa using h.found⟩
      refine .branch hnew hlist (hbefore.symm.trans hc) hb (ih hway fun s hs habove => ?_)
      rcases List.mem_cons.mp habove with heq | habove
      · exact hfirst (List.mem_map.mpr ⟨s, hs, heq⟩)
      · exact hrest s hs habove

/-- Ways are what a search comes upon below no other list. -/
theorem isWay_iff_way {list : BranchId} {path : List PathStep} :
    p.IsWay label list path ↔ p.Way label [] list path :=
  ⟨fun h => h.way fun _ _ => List.not_mem_nil, Way.isWay⟩

/-- A way is as long as there are registered lists at most. -/
theorem IsWay.length_le {list : BranchId} {path : List PathStep}
    (h : p.IsWay label list path) : path.length ≤ p.lists.size := by
  have hsubset : path.map PathStep.list ⊆ p.lists.keys := by
    intro b hb
    obtain ⟨s, hs, rfl⟩ := List.mem_map.mp hb
    obtain ⟨commands, hcommands, -⟩ := h.inside s hs
    exact mem_keys_of_hasList (Option.isSome_iff_exists.mpr ⟨commands, hcommands⟩)
  have hlength := (h.distinct.subperm hsubset).length_le
  simpa [Table.keys, Table.size] using hlength

/-! ## The search -/

/-- The first of some ways by their addresses, and nothing if there are none. -/
def IsFirst (p : Page) (ways : List PathStep → Prop) : Option (List PathStep) → Prop
  | none => ∀ path, ¬ ways path
  | some path => ways path ∧ ∀ other, ways other → other = path ∨ p.address path < p.address other

/-- The first of the same ways. -/
theorem IsFirst.congr {ways ways' : List PathStep → Prop} {first : Option (List PathStep)}
    (h : p.IsFirst ways first) (hways : ∀ path, ways path ↔ ways' path) :
    p.IsFirst ways' first := by
  rwa [funext fun path => propext (hways path)] at h

/-- Only one way is the first. -/
theorem IsFirst.unique {ways : List PathStep → Prop} {first second : Option (List PathStep)}
    (h : p.IsFirst ways first) (h' : p.IsFirst ways second) : first = second := by
  cases first with
  | none =>
    cases second with
    | none => rfl
    | some path => exact absurd h'.1 (h path)
  | some path =>
    cases second with
    | none => exact absurd h.1 (h' path)
    | some other =>
      rcases h.2 other h'.1 with heq | hlt
      · rw [heq]
      · rcases h'.2 path h.1 with heq | hgt
        · rw [heq]
        · exact absurd hgt (List.lt_asymm hlt)

/-- The ways through a list from a position on, when its branches are gone through in given ways. -/
inductive Through (label : String) (within : BranchId → List PathStep → Prop) (list : BranchId)
    (commands : List Command) (i : Nat) : List PathStep → Prop
  | here {j : Nat} (le : i ≤ j) (command : commands[j]? = some (.label label)) :
      Through label within list commands i [⟨list, j + 1⟩]
  | branch {j : Nat} {c : Command} {b : BranchId} {rest : List PathStep} (le : i ≤ j)
      (command : commands[j]? = some c) (referred : b ∈ c.branches) (below : within b rest) :
      Through label within list commands i (⟨list, j + 1⟩ :: rest)

section

variable {list : BranchId} {commands : List Command} {within : BranchId → List PathStep → Prop}

/-- A way through a list goes on at the position or behind it. -/
theorem Through.cases_at {i : Nat} {path : List PathStep} {c : Command}
    (hc : commands[i]? = some c) (h : Through label within list commands i path) :
    Through label within list commands (i + 1) path ∨
      (c = .label label ∧ path = [⟨list, i + 1⟩]) ∨
      ∃ b ∈ c.branches, ∃ rest, within b rest ∧ path = ⟨list, i + 1⟩ :: rest := by
  cases h with
  | @here j hle hcommand =>
    rcases Nat.lt_or_eq_of_le hle with hlt | rfl
    · exact .inl (.here hlt hcommand)
    · rw [hc] at hcommand
      exact .inr (.inl ⟨Option.some.inj hcommand, rfl⟩)
  | @branch j c' b rest hle hcommand hb hbelow =>
    rcases Nat.lt_or_eq_of_le hle with hlt | rfl
    · exact .inl (.branch hlt hcommand hb hbelow)
    · rw [hc] at hcommand
      cases hcommand
      exact .inr (.inr ⟨b, hb, rest, hbelow, rfl⟩)

/-- A way that goes on behind a position goes on there or behind it. -/
theorem Through.of_succ {i : Nat} {path : List PathStep}
    (h : Through label within list commands (i + 1) path) :
    Through label within list commands i path := by
  cases h with
  | here hle hcommand => exact .here (by omega) hcommand
  | branch hle hcommand hb hbelow => exact .branch (by omega) hcommand hb hbelow

/-- A way that goes on later in the list comes later. -/
theorem Through.address_lt {i : Nat} {path later : List PathStep}
    (h : Through label within list commands (i + 1) later) :
    p.address (⟨list, i + 1⟩ :: path) < p.address later := by
  have hhead (j : Nat) (rest : List PathStep) :
      ∃ numbers, p.address (⟨list, j⟩ :: rest) = j :: numbers := by
    cases rest <;> exact ⟨_, rfl⟩
  obtain ⟨numbers, hnumbers⟩ := hhead (i + 1) path
  rw [hnumbers]
  cases h with
  | @here j hle hcommand => exact List.Lex.rel (Nat.lt_succ_of_le hle)
  | @branch j c b rest hle hcommand hb hbelow =>
    obtain ⟨numbers', hnumbers'⟩ := hhead (j + 1) rest
    rw [hnumbers']
    exact List.Lex.rel (Nat.lt_succ_of_le hle)

/-- Where a way goes that enters a branch. -/
theorem address_branch (hlist : p.list? list = some commands) {i : Nat} {c : Command}
    (hc : commands[i]? = some c) {b : BranchId} {rest : List PathStep}
    (hrest : ∃ j later, rest = ⟨b, j⟩ :: later) :
    p.address (⟨list, i + 1⟩ :: rest) = (i + 1) :: c.branches.idxOf b :: p.address rest := by
  obtain ⟨j, later, rfl⟩ := hrest
  simp [address, commandBefore?_succ hlist, hc]

/-- If entering a branch finds the first way behind it, entering one branch after the other finds
the first way behind all of them. -/
theorem isFirst_findSome? {enter : BranchId → Option (List PathStep)}
    (henter : ∀ b, p.IsFirst (within b) (enter b))
    (hwithin : ∀ b rest, within b rest → ∃ j later, rest = ⟨b, j⟩ :: later)
    (hlist : p.list? list = some commands) {i : Nat} {c : Command} (hc : commands[i]? = some c) :
    p.IsFirst (fun path => ∃ b ∈ c.branches, ∃ rest, within b rest ∧ path = ⟨list, i + 1⟩ :: rest)
      ((c.branches.findSome? enter).map (⟨list, i + 1⟩ :: ·)) := by
  cases hfound : c.branches.findSome? enter with
  | none =>
    rintro _ ⟨b, hb, rest, hrest, rfl⟩
    have hnone := henter b
    rw [List.findSome?_eq_none_iff.mp hfound b hb] at hnone
    exact hnone rest hrest
  | some path =>
    obtain ⟨before, b, after, hbranches, hb, hbefore⟩ := List.findSome?_eq_some_iff.mp hfound
    have hfirst := henter b
    rw [hb] at hfirst
    have hmem : b ∈ c.branches := by simp [hbranches]
    refine ⟨⟨b, hmem, path, hfirst.1, rfl⟩, ?_⟩
    rintro _ ⟨b', hb', rest, hrest, rfl⟩
    rw [address_branch hlist hc (hwithin b path hfirst.1),
      address_branch hlist hc (hwithin b' rest hrest)]
    -- no way leads through a branch in front of the one that was entered with success
    have hskipped (hmem' : b' ∈ before) : False := by
      have hnone := henter b'
      rw [hbefore b' hmem'] at hnone
      exact hnone rest hrest
    have hnew : b ∉ before := by
      intro hmem
      rw [hbefore b hmem] at hb
      cases hb
    by_cases heq : b' = b
    · subst heq
      rcases hfirst.2 rest hrest with rfl | hlt
      · exact .inl rfl
      · exact .inr (List.Lex.cons (List.Lex.cons hlt))
    · refine .inr (List.Lex.cons (List.Lex.rel ?_))
      rw [hbranches, List.idxOf_append_of_notMem hnew, List.idxOf_append_of_notMem hskipped,
        List.idxOf_cons_self, List.idxOf_cons_ne _ (Ne.symm heq)]
      omega

/-- Searching the commands of a list finds the first way through it. -/
theorem isFirst_searchCommands {enter : BranchId → Option (List PathStep)}
    (henter : ∀ b, p.IsFirst (within b) (enter b))
    (hwithin : ∀ b rest, within b rest → ∃ j later, rest = ⟨b, j⟩ :: later)
    (hlist : p.list? list = some commands) {i : Nat} {remaining : List Command}
    (hremaining : commands.drop i = remaining) :
    p.IsFirst (Through label within list commands i)
      (searchCommands label enter list i remaining) := by
  induction remaining generalizing i with
  | nil =>
    have hlength : commands.length ≤ i := List.drop_eq_nil_iff.mp hremaining
    have hpast (j : Nat) (hle : i ≤ j) : commands[j]? = none :=
      List.getElem?_eq_none (Nat.le_trans hlength hle)
    intro path hpath
    cases hpath with
    | here hle hcommand =>
      rw [hpast _ hle] at hcommand
      cases hcommand
    | branch hle hcommand =>
      rw [hpast _ hle] at hcommand
      cases hcommand
  | cons c rest ih =>
    have hc : commands[i]? = some c := by
      rw [← List.head?_drop, hremaining, List.head?_cons]
    have hrest : commands.drop (i + 1) = rest := by
      rw [← List.tail_drop, hremaining, List.tail_cons]
    have hbranches := isFirst_findSome? henter hwithin hlist hc
    unfold searchCommands
    by_cases hlabel : c.isLabel label
    · -- a label refers to no branches, so the way that ends here is the only one at this command
      rw [if_pos hlabel]
      obtain rfl := Command.isLabel_iff.mp hlabel
      refine ⟨.here (Nat.le_refl i) hc, fun other hother => ?_⟩
      rcases hother.cases_at hc with hlater | ⟨-, rfl⟩ | ⟨b, hb, -⟩
      · exact .inr hlater.address_lt
      · exact .inl rfl
      · cases hb
    · rw [if_neg hlabel]
      have hnot : c ≠ .label label := fun heq => hlabel (Command.isLabel_iff.mpr heq)
      cases hfound : c.branches.findSome? enter with
      | some path =>
        rw [hfound] at hbranches
        obtain ⟨⟨b, hb, later, hlater, heq⟩, hfirst⟩ := hbranches
        cases heq
        refine ⟨.branch (Nat.le_refl i) hc hb hlater, fun other hother => ?_⟩
        rcases hother.cases_at hc with hlater | ⟨hc, -⟩ | hother
        · exact .inr hlater.address_lt
        · exact absurd hc hnot
        · exact hfirst other hother
      | none =>
        rw [hfound] at hbranches
        have hlater := ih hrest
        refine hlater.congr fun path => ⟨Through.of_succ, fun h => ?_⟩
        rcases h.cases_at hc with hlater | ⟨hc, -⟩ | hother
        · exact hlater
        · exact absurd hc hnot
        · exact absurd hother (hbranches path)

end

/-- The ways through a list are those that go on from its branches and are one step longer. -/
theorem through_iff_way {above : List BranchId} {list : BranchId} {commands : List Command}
    (habove : list ∉ above) (hlist : p.list? list = some commands) {depth : Nat}
    {path : List PathStep} :
    Through label (fun b rest => p.Way label (list :: above) b rest ∧ rest.length ≤ depth) list
        commands 0 path ↔
      p.Way label above list path ∧ path.length ≤ depth + 1 := by
  constructor
  · intro h
    cases h with
    | here hle hcommand => exact ⟨.here habove hlist hcommand, by simp⟩
    | branch hle hcommand hb hbelow =>
      exact ⟨.branch habove hlist hcommand hb hbelow.1, Nat.succ_le_succ hbelow.2⟩
  · rintro ⟨hway, hlength⟩
    cases hway with
    | here _ hlist' hcommand =>
      rw [hlist] at hlist'
      cases hlist'
      exact .here (Nat.zero_le _) hcommand
    | branch _ hlist' hcommand hb hbelow =>
      rw [hlist] at hlist'
      cases hlist'
      exact .branch (Nat.zero_le _) hcommand hb ⟨hbelow, Nat.le_of_succ_le_succ hlength⟩

/-- Searching a list finds the first of the ways from it that are not longer than the search is
deep. -/
theorem isFirst_searchList (p : Page) (label : String) (depth : Nat) (above : List BranchId)
    (list : BranchId) :
    p.IsFirst (fun path => p.Way label above list path ∧ path.length ≤ depth)
      (p.searchList label depth above list) := by
  induction depth generalizing above list with
  | zero =>
    rintro path ⟨hway, hlength⟩
    obtain ⟨i, rest, rfl⟩ := hway.head
    cases hlength
  | succ depth ih =>
    unfold searchList
    by_cases habove : list ∈ above
    · rw [if_pos (List.contains_iff_mem.mpr habove)]
      rintro path ⟨hway, -⟩
      obtain ⟨i, rest, rfl⟩ := hway.head
      exact hway.not_mem _ List.mem_cons_self habove
    · rw [if_neg fun h => habove (List.contains_iff_mem.mp h)]
      cases hlist : p.list? list with
      | none =>
        rintro path ⟨hway, -⟩
        cases hway <;> simp_all
      | some commands =>
        have hfirst : p.IsFirst (Through label _ list commands 0)
            (searchCommands label _ list 0 commands) :=
          isFirst_searchCommands (ih (list :: above)) (fun b rest hrest => hrest.1.head) hlist
            List.drop_zero
        exact hfirst.congr fun path => through_iff_way habove hlist

/-- However deep a search from the root list may go beyond the number of lists, it finds the first
way. -/
theorem isFirst_of_size_le (p : Page) (label : String) {depth : Nat}
    (hdepth : p.lists.size ≤ depth) :
    p.IsFirst (p.IsWay label p.root) (p.searchList label depth [] p.root) := by
  have hfirst := p.isFirst_searchList label depth [] p.root
  refine hfirst.congr fun path => ?_
  rw [← isWay_iff_way]
  exact and_iff_left_of_imp fun h => Nat.le_trans h.length_le hdepth

/-! ## Labels that can be reached -/

/-- From a list that holds the label, ways lead up to every list that leads to it. -/
theorem exists_way_of_branch {list b : BranchId} {path : List PathStep}
    (hb : b ∈ p.branchesOf list) (h : p.Way label [] b path) :
    ∃ path', p.Way label [] list path' := by
  -- a way that leads back to the list is cut off there
  by_cases hmem : ∃ s ∈ path, s.list = list
  · obtain ⟨s, hs, rfl⟩ := hmem
    exact h.exists_suffix hs
  · unfold branchesOf Page.commands at hb
    obtain ⟨c, hc, hb⟩ := List.mem_flatMap.mp hb
    cases hlist : p.list? list with
    | none =>
      rw [hlist] at hc
      cases hc
    | some commands =>
      rw [hlist, Option.getD_some] at hc
      obtain ⟨i, hi⟩ := List.mem_iff_getElem?.mp hc
      refine ⟨_, .branch List.not_mem_nil hlist hi hb (h.of_clear fun s hs habove => ?_)⟩
      exact hmem ⟨s, hs, List.mem_singleton.mp habove⟩

/-- From a list that holds the label there is a way. -/
theorem exists_way_of_mem {list : BranchId} (hlabel : .label label ∈ p.commands list) :
    ∃ path, p.Way label [] list path := by
  unfold Page.commands at hlabel
  cases hlist : p.list? list with
  | none =>
    rw [hlist] at hlabel
    cases hlabel
  | some commands =>
    rw [hlist, Option.getD_some] at hlabel
    obtain ⟨i, hi⟩ := List.mem_iff_getElem?.mp hlabel
    exact ⟨_, .here List.not_mem_nil hlist hi⟩

/-- A way from a list that can be reached leads to one that can be reached and holds the label. -/
theorem Way.exists_mem {above : List BranchId} {list : BranchId} {path : List PathStep}
    (h : p.Way label above list path) (hlist : p.Reaches list) :
    ∃ last, p.Reaches last ∧ .label label ∈ p.commands last := by
  induction h with
  | @here _ list commands i _ hcommands hc =>
    refine ⟨list, hlist, ?_⟩
    simpa [Page.commands, hcommands] using List.mem_of_getElem? hc
  | @branch _ list b commands i c rest _ hcommands hc hb hbelow ih =>
    refine ih (.branch hlist (mem_branchesOf hcommands (List.mem_of_getElem? hc) hb) ?_)
    obtain ⟨j, later, rfl⟩ := hbelow.head
    obtain ⟨commands', hcommands', -⟩ := hbelow.isWay.inside _ List.mem_cons_self
    exact Option.isSome_iff_exists.mpr ⟨commands', hcommands'⟩

/-- There is a way to a label exactly if a list that can be reached holds it. -/
theorem exists_isWay_iff :
    (∃ path, p.IsWay label p.root path) ↔
      ∃ list, p.Reaches list ∧ .label label ∈ p.commands list := by
  constructor
  · rintro ⟨path, hpath⟩
    exact (isWay_iff_way.mp hpath).exists_mem .root
  · rintro ⟨list, hreaches, hlabel⟩
    simp only [isWay_iff_way]
    have hstart := exists_way_of_mem hlabel
    clear hlabel
    induction hreaches with
    | root => exact hstart
    | branch _ hb _ ih =>
      obtain ⟨path, hpath⟩ := hstart
      exact ih (exists_way_of_branch hb hpath)

/-- The search for a label comes to an end by itself, and what it finds is the first way to the
label: of all ways from the root list through branches to the label, and through no list twice, the
one with the least address. It finds nothing exactly if no list that can be reached holds the
label. -/
theorem findLabel?_first (p : Page) (label : String) :
    (∀ depth, p.lists.size ≤ depth →
      p.searchList label depth [] p.root = p.findLabel? label) ∧
    (∀ path, p.findLabel? label = some path → p.IsWay label p.root path ∧
      ∀ other, p.IsWay label p.root other → other = path ∨ p.address path < p.address other) ∧
    (p.findLabel? label = none ↔ ∀ list, p.Reaches list → .label label ∉ p.commands list) := by
  have hfirst : p.IsFirst (p.IsWay label p.root) (p.findLabel? label) :=
    p.isFirst_of_size_le label (Nat.le_refl _)
  refine ⟨fun depth hdepth => (p.isFirst_of_size_le label hdepth).unique hfirst, ?_, ?_⟩
  · intro path hpath
    rwa [hpath] at hfirst
  · have hnone : p.findLabel? label = none ↔ ¬ ∃ path, p.IsWay label p.root path := by
      cases hfound : p.findLabel? label with
      | none =>
        rw [hfound] at hfirst
        exact iff_of_true rfl (not_exists.mpr hfirst)
      | some path =>
        rw [hfound] at hfirst
        simpa using ⟨path, hfirst.1⟩
    rw [hnone, exists_isWay_iff]
    simp

/-- A page whose lists lead back to each other, and on two ways to a label. -/
def winding : Page :=
  (((Page.draft ⟨1⟩ "maze" ⟨2⟩).withRoot [.showOptions "" "" [] [⟨3⟩, ⟨4⟩]]).withList ⟨3⟩
    [.showOptions "" "" [] [⟨2⟩, ⟨9⟩, ⟨4⟩]]).withList ⟨4⟩ [.hidePlayer, .label "end"]

/-- Of the two ways the one through the earlier branch comes first, though it is longer; a label that
is nowhere is not found. -/
theorem findLabel?_first_winding :
    winding.searchList "end" 7 [] winding.root = some [⟨⟨2⟩, 1⟩, ⟨⟨3⟩, 1⟩, ⟨⟨4⟩, 2⟩] ∧
      winding.IsWay "end" ⟨2⟩ [⟨⟨2⟩, 1⟩, ⟨⟨3⟩, 1⟩, ⟨⟨4⟩, 2⟩] ∧
      winding.IsWay "end" ⟨2⟩ [⟨⟨2⟩, 1⟩, ⟨⟨4⟩, 2⟩] ∧
      winding.address [⟨⟨2⟩, 1⟩, ⟨⟨3⟩, 1⟩, ⟨⟨4⟩, 2⟩] < winding.address [⟨⟨2⟩, 1⟩, ⟨⟨4⟩, 2⟩] ∧
      ∀ list, winding.Reaches list → .label "way out" ∉ winding.commands list := by
  have hfound : winding.findLabel? "end" = some [⟨⟨2⟩, 1⟩, ⟨⟨3⟩, 1⟩, ⟨⟨4⟩, 2⟩] := rfl
  have hdirect : winding.IsWay "end" ⟨2⟩ [⟨⟨2⟩, 1⟩, ⟨⟨4⟩, 2⟩] := by
    have hway : winding.Way "end" [] ⟨2⟩ [⟨⟨2⟩, 1⟩, ⟨⟨4⟩, 2⟩] := by
      refine .branch (b := ⟨4⟩) (by simp) rfl rfl ?_ ?_
      · exact List.mem_cons_of_mem _ List.mem_cons_self
      · exact .here (by decide) rfl rfl
    exact hway.isWay
  obtain ⟨hdepth, hsome, -⟩ := findLabel?_first winding "end"
  obtain ⟨hway, hfirst⟩ := hsome _ hfound
  refine ⟨(hdepth 7 (by decide)).trans hfound, hway, hdirect, ?_, ?_⟩
  · exact (hfirst _ hdirect).resolve_left (by simp)
  · exact (findLabel?_first winding "way out").2.2.mp rfl

end Page

end EventScript
