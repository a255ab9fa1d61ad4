import EventScript.Proofs.CallStack.Run
import EventScript.Proofs.CallStack.Transition
import EventScript.Proofs.Page.Reach

/-!
# Pages that pass the check

The frames of a page never leave the lists that its root list leads to: not through a branch, not
through the answer to a prompt that was shown long before, and not through a jump. What the check
finds in these lists is therefore all that a run can meet on the page.
-/

namespace EventScript

/-! ## What the check says -/

namespace Page

variable {p : Page}

/-- Leaving out repetitions leaves out no text. -/
theorem mem_firstOccurrences {names : List String} {name : String} :
    name ∈ firstOccurrences names ↔ name ∈ names := by
  unfold firstOccurrences
  have hfold (seen : List String) :
      name ∈ names.foldl (fun seen name => if seen.contains name then seen else seen ++ [name])
        seen ↔ name ∈ seen ∨ name ∈ names := by
    induction names generalizing seen with
    | nil => simp
    | cons first rest ih =>
      rw [List.foldl_cons, ih]
      split <;> grind
  rw [hfold]
  simp

/-- A page passes the check when the commands in reach are all known and jump to labels that are
found. -/
theorem hasErrors_eq_false_iff :
    p.analyze.hasErrors = false ↔ ∀ c ∈ p.reachable.flatMap p.commands,
      c ≠ .unsupported ∧ ∀ label, c = .goToLabel label → (p.findLabel? label).isSome := by
  unfold PageReport.hasErrors analyze
  dsimp only
  rw [Bool.or_eq_false_iff, Bool.not_eq_false', List.isEmpty_iff, List.eq_nil_iff_forall_not_mem,
    decide_eq_false_iff_not, Nat.not_lt, Nat.le_zero, List.length_eq_zero_iff,
    List.filter_eq_nil_iff]
  constructor
  · rintro ⟨hgotos, hsupported⟩ c hc
    refine ⟨fun h => hsupported c hc (beq_iff_eq.mpr h), ?_⟩
    rintro label rfl
    by_contra hlabel
    refine hgotos label (mem_firstOccurrences.mpr (List.mem_filterMap.mpr ⟨_, hc, ?_⟩))
    simp [Option.not_isSome_iff_eq_none.mp hlabel]
  · intro h
    refine ⟨fun label hlabel => ?_, fun c hc heq => (h c hc).1 (beq_iff_eq.mp heq)⟩
    obtain ⟨c, hc, hlabel⟩ := List.mem_filterMap.mp (mem_firstOccurrences.mp hlabel)
    split at hlabel
    · next name =>
      have hfound := (h _ hc).2 name rfl
      split at hlabel
      · next hnone => simp_all
      · cases hlabel
    · cases hlabel

end Page

/-! ## Frames in reach -/

/-- If a frame runs the page, it stands in a list in reach, and so do the lists behind the prompt it
may wait for. -/
def Frame.KeepsTo (f : Frame) (page : Page) : Prop :=
  f.page = page → page.Reaches f.list ∧
    ∀ what, f.waiting = some what → ∀ b ∈ what.branches, page.hasList b → page.Reaches b

namespace Frame.KeepsTo

variable {f : Frame} {page : Page}

/-- Letting the frame go on. -/
theorem release (h : f.KeepsTo page) : f.release.KeepsTo page := by
  refine fun hpage => ⟨(h hpage).1, ?_⟩
  rintro what ⟨⟩

/-- Going behind the next command. -/
theorem advance (h : f.KeepsTo page) : f.advance.KeepsTo page := h

/-- A frame in a list in reach that waits for nothing. -/
theorem of_running (hruns : f.waiting = none) (hlist : f.page = page → page.Reaches f.list) :
    f.KeepsTo page := by
  refine fun hpage => ⟨hlist hpage, fun what hwhat => ?_⟩
  rw [hruns] at hwhat
  cases hwhat

/-- The start of a list that is in reach on the page. -/
theorem start {runs : Page} {list : BranchId} (h : runs = page → page.Reaches list) :
    (Frame.start runs list 0).KeepsTo page := of_running rfl h

/-- The registered branches of the next command are in reach. -/
theorem reaches_branch (h : f.KeepsTo page) (hpage : f.page = page) {c : Command}
    (hc : f.command? = some c) {b : BranchId} (hb : b ∈ c.branches) (hlist : page.hasList b) :
    page.Reaches b := by
  obtain ⟨commands, hcommands, hindex⟩ := Option.bind_eq_some_iff.mp hc
  rw [hpage] at hcommands
  exact .branch (h hpage).1 (Page.mem_branchesOf hcommands (List.mem_of_getElem? hindex) hb) hlist

/-- Waiting for what leads to branches of the next command. -/
theorem suspend (h : f.KeepsTo page) {c : Command} (hc : f.command? = some c) {what : Suspension}
    (hbranches : what.branches ⊆ c.branches) : (f.advance.suspend what).KeepsTo page := by
  refine fun hpage => ⟨(h hpage).1, ?_⟩
  rintro _ ⟨⟩ b hb hlist
  exact h.reaches_branch hpage hc (hbranches hb) hlist

end Frame.KeepsTo

namespace CallStack

/-- Frames of a page stay in the lists its root list leads to. -/
theorem isKept_keepsTo (page : Page) : IsKept fun s => ∀ f ∈ s, f.KeepsTo page where
  nil _ hf := absurd hf List.not_mem_nil
  leave h f hf := h f (List.mem_cons_of_mem _ hf)
  release h := List.forall_mem_cons.mpr
    ⟨(h _ List.mem_cons_self).release, fun f hf => h f (List.mem_cons_of_mem _ hf)⟩
  fail h _ := List.forall_mem_cons.mpr
    ⟨(h _ List.mem_cons_self).advance, fun f hf => h f (List.mem_cons_of_mem _ hf)⟩
  execute {f s c scene m} h hruns hc hscene hm := by
    have htop : f.KeepsTo page := h f List.mem_cons_self
    have hbelow : ∀ g ∈ s, g.KeepsTo page := fun g hg => h g (List.mem_cons_of_mem f hg)
    have hstack : ∀ g ∈ f.advance :: s, g.KeepsTo page :=
      List.forall_mem_cons.mpr ⟨htop.advance, hbelow⟩
    cases hm with
    | keep => exact hstack
    | suspend hbranches => exact List.forall_mem_cons.mpr ⟨htop.suspend hc hbranches, hbelow⟩
    | enter hb hlist =>
      refine List.forall_mem_cons.mpr ⟨.start fun hpage => ?_, hstack⟩
      rw [hscene, hpage] at hlist
      exact htop.reaches_branch hpage hc hb hlist
    | call =>
      intro g hg
      rcases mem_call hg with hg | ⟨called, -, rfl⟩
      · exact hstack g hg
      · exact .start fun hpage => hpage ▸ .root
    | jump _ hfound =>
      intro g hg
      rcases List.mem_append.mp hg with hg | hg
      · obtain ⟨hpage, hreaches, hwaiting⟩ :=
          Page.reaches_of_resolveLabel? hfound g (List.mem_reverse.mp hg)
        exact .of_running hwaiting fun heq => heq ▸ hpage ▸ hreaches
      · exact hstack g (leavePage_subset _ g hg)
    | leave => exact fun g hg => absurd hg List.not_mem_nil
  answer {f s asked scene m} h hwaiting hscene hm := by
    have htop : f.KeepsTo page := h f List.mem_cons_self
    have hstack : ∀ g ∈ f.release :: s, g.KeepsTo page :=
      List.forall_mem_cons.mpr ⟨htop.release, fun g hg => h g (List.mem_cons_of_mem f hg)⟩
    cases hm with
    | keep => exact hstack
    | enter hb hlist =>
      refine List.forall_mem_cons.mpr ⟨.start fun hpage => ?_, hstack⟩
      rw [hscene, hpage] at hlist
      exact (htop hpage).2 _ hwaiting _ hb hlist

end CallStack

/-! ## Runs -/

/-- What a step executes from a frame of the page is a command the check has looked at. -/
theorem Turn.mem_commands_of_run {page : Page} {i₀ i : Instance}
    (hstart : i₀.stack = [Frame.root page])
    (hrun : Relation.ReflTransGen Instance.Transition i₀ i) {w : World} {frame : Frame}
    {rest : CallStack} (hstack : (Turn.mk w i).settle.run.stack = frame :: rest)
    (hpage : frame.page = page) {c : Command} (hc : frame.command? = some c) :
    c ∈ page.reachable.flatMap page.commands := by
  have hkept := CallStack.isKept_keepsTo page
  have hrun : ∀ f ∈ i.stack, f.KeepsTo page := by
    refine hkept.transitions hrun ?_
    rw [hstart]
    exact List.forall_mem_cons.mpr ⟨.start fun _ => .root, fun _ hf => absurd hf List.not_mem_nil⟩
  have hsettled : ∀ f ∈ (Turn.mk w i).settle.run.stack, f.KeepsTo page :=
    hkept.settle (t := ⟨w, i⟩) hrun
  rw [hstack] at hsettled
  obtain ⟨commands, hcommands, hindex⟩ := Option.bind_eq_some_iff.mp hc
  rw [hpage] at hcommands
  exact Page.mem_commands_of_reaches (hsettled frame List.mem_cons_self hpage).1 hcommands
    (List.mem_of_getElem? hindex)

namespace Page

/-- However an execution of a page that passes the check goes on: while a frame of the page runs, no
step fails on a command of unknown kind, and every jump that is executed finds its label. -/
theorem runs_of_check {page : Page} (hcheck : page.analyze.hasErrors = false) {i₀ i : Instance}
    (hstart : i₀.stack = [Frame.root page])
    (hrun : Relation.ReflTransGen Instance.Transition i₀ i) (w : World) {frame : Frame}
    {rest : CallStack} (hstack : (Turn.mk w i).settle.run.stack = frame :: rest)
    (hpage : frame.page = page) :
    (∀ kind t, (Turn.mk w i).step ≠ .ok (.error (.unsupportedCommand kind), t)) ∧
      ∀ label, (Turn.mk w i).command? = some (.goToLabel label) →
        ∃ path, page.resolveLabel? label = some path := by
  have hchecked : ∀ c, frame.command? = some c →
      c ≠ .unsupported ∧ ∀ label, c = .goToLabel label → (page.findLabel? label).isSome :=
    fun c hc => hasErrors_eq_false_iff.mp hcheck c
      (Turn.mem_commands_of_run hstart hrun hstack hpage hc)
  refine ⟨fun kind t hstep => ?_, fun label hlabel => ?_⟩
  · have hunsupported := Turn.command?_of_unsupported hstep hstack
    exact (hchecked _ hunsupported).1 rfl
  · have hruns : frame.waiting = none := Turn.waiting_of_command? hlabel hstack
    rw [Turn.command?_of_stack hstack hruns] at hlabel
    obtain ⟨path, hpath⟩ := Option.isSome_iff_exists.mp ((hchecked _ hlabel).2 label rfl)
    exact ⟨_, Option.map_eq_some_iff.mpr ⟨path, hpath, rfl⟩⟩

/-- A page that offers a way to its end. -/
def offersEnd : Page :=
  ((Page.draft ⟨1⟩ "offer" ⟨2⟩).withRoot [.showOptions "" "" ["end"] [⟨3⟩], .label "end"]).withList
    ⟨3⟩ [.goToLabel "end"]

/-- The answer to the prompt of such a page leads to a list from which the jump finds its label. -/
theorem runs_of_check_offersEnd :
    offersEnd.analyze.hasErrors = false ∧
      ∃ (w : World) (i : Instance), Relation.ReflTransGen Instance.Transition
        (.start ⟨4⟩ ⟨5⟩ ⟨3⟩ offersEnd) i ∧
        (Turn.mk w i).command? = some (.goToLabel "end") ∧
        (∀ kind t, (Turn.mk w i).step ≠ .ok (.error (.unsupportedCommand kind), t)) ∧
        ∃ path, offersEnd.resolveLabel? "end" = some path := by
  let w := World.lone (.fresh ⟨3⟩ "Ann" .nil 1 1)
  let i : Instance := .start ⟨4⟩ ⟨5⟩ ⟨3⟩ offersEnd
  let asking := i.withStack [(Frame.start offersEnd ⟨2⟩ 1).suspend (.dialogue (.options [⟨3⟩]))]
  let chosen := i.withStack [.start offersEnd ⟨3⟩ 0, .start offersEnd ⟨2⟩ 1]
  have hcheck : offersEnd.analyze.hasErrors = false := by decide +kernel
  have hshow : i.Transition asking :=
    .step (show (Turn.mk w i).step = .ok (.ok (.suspended .dialogue), ⟨_, asking⟩) from rfl)
  have hchoose : asking.Transition chosen :=
    .answer (show (Turn.mk w asking).answer (.option 0) = .ok (.ok true, ⟨_, chosen⟩) from rfl)
  have hrun := (Relation.ReflTransGen.single hshow).tail hchoose
  have hcommand : (Turn.mk w chosen).command? = some (.goToLabel "end") := rfl
  have hsafe := runs_of_check hcheck rfl hrun w rfl rfl
  exact ⟨hcheck, w, _, hrun, hcommand, hsafe.1, hsafe.2 "end" hcommand⟩

end Page

end EventScript
