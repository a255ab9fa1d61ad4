import EventScript.Proofs.CallStack.Run
import EventScript.Proofs.Page.Reach

/-!
# Activations of pages

A page is entered when an execution starts on it or a common event runs it, and left when the frames
since then are gone; in between these frames are its activation. A call stack does not mark where
one begins. A jump takes the topmost frame on the root list of its page for the beginning, which is
right unless a branch led back to the root list within the activation.
-/

namespace EventScript

namespace CallStack

/-! ## The running activation -/

/-- The frames of the running activation and those below it, given the depths at which pages were
entered. -/
structure IsActivation (depths : List Nat) (s activation callers : CallStack) : Prop where
  frames : s = activation ++ callers
  running : callers.length < s.length
  entered : callers.length ∈ depths
  latest : ∀ d ∈ depths, d < s.length → d ≤ callers.length

/-- A call stack on which pages were entered at certain depths: each time with a frame on the root
list, and all other frames go on in the page below. -/
inductive Entered (depths : List Nat) : CallStack → Prop
  | nil : Entered depths []
  | page {f : Frame} {s : CallStack} (root : f.isRoot) (depth : s.length ∈ depths)
      (below : Entered depths s) : Entered depths (f :: s)
  | branch {f g : Frame} {s : CallStack} (same : f.page = g.page)
      (depth : (g :: s).length ∉ depths) (below : Entered depths (g :: s)) :
      Entered depths (f :: g :: s)

namespace Entered

variable {depths : List Nat} {s : CallStack}

/-- Only the depths within the call stack count. -/
theorem congr {depths' : List Nat} (h : Entered depths s)
    (hdepths : ∀ d < s.length, d ∈ depths ↔ d ∈ depths') : Entered depths' s := by
  induction h with
  | nil => exact .nil
  | page root depth _ ih =>
    exact .page root ((hdepths _ (Nat.lt_succ_self _)).mp depth)
      (ih fun d hd => hdepths d (Nat.lt_succ_of_lt hd))
  | branch same depth _ ih =>
    exact .branch same (mt (hdepths _ (Nat.lt_succ_self _)).mpr depth)
      (ih fun d hd => hdepths d (Nat.lt_succ_of_lt hd))

/-- Changing the running frame within its list. -/
theorem replaceTop {f g : Frame} (h : Entered depths (f :: s)) (hpage : g.page = f.page)
    (hlist : g.list = f.list) : Entered depths (g :: s) := by
  cases h with
  | page root depth below =>
    refine .page ?_ depth below
    unfold Frame.isRoot at root ⊢
    rwa [hpage, hlist]
  | branch same depth below => exact .branch (hpage.trans same) depth below

/-- Leaving frames and letting the running one go on. -/
theorem isSettled (depths : List Nat) : IsSettled (Entered depths) where
  nil := .nil
  leave h := by
    cases h with
    | page _ _ below => exact below
    | branch _ _ below => exact below
  release h := h.replaceTop rfl rfl

/-- Frames of the page that runs, on top of its activation. -/
theorem append {f : Frame} (h : Entered depths (f :: s)) {fs : List Frame}
    (hpage : ∀ g ∈ fs, g.page = f.page)
    (hdepths : ∀ d, (f :: s).length ≤ d → d < (fs ++ f :: s).length → d ∉ depths) :
    Entered depths (fs ++ f :: s) := by
  induction fs with
  | nil => exact h
  | cons g fs ih =>
    have hbelow : Entered depths (fs ++ f :: s) :=
      ih (fun k hk => hpage k (List.mem_cons_of_mem g hk))
        fun d hd hlt => hdepths d hd (Nat.lt_succ_of_lt hlt)
    have hdepth : (fs ++ f :: s).length ∉ depths :=
      hdepths _ (by rw [List.length_append]; omega) (Nat.lt_succ_self _)
    cases fs with
    | nil => exact .branch (hpage g List.mem_cons_self) hdepth hbelow
    | cons k fs =>
      have hsame : g.page = k.page := (hpage g List.mem_cons_self).trans
        (hpage k (List.mem_cons_of_mem g List.mem_cons_self)).symm
      exact .branch hsame hdepth hbelow

/-- Pages that are run one above the other. -/
theorem call (h : Entered depths s) {pages : List Page}
    (hdepths : ∀ d, s.length ≤ d → d < s.length + pages.length → d ∈ depths) :
    Entered depths (pages.foldl (fun st page => .root page :: st) s) := by
  induction pages generalizing s with
  | nil => exact h
  | cons page pages ih =>
    refine ih (.page (beq_self_eq_true page.root) (hdepths _ (Nat.le_refl _) ?_) h) ?_
    · simp
    · intro d hd hlt
      simp only [List.length_cons] at hd hlt hdepths
      exact hdepths d (by omega) (by omega)

/-- The running activation began on the root list, and all its frames run one page. -/
theorem exists_activation {f : Frame} (h : Entered depths (f :: s)) :
    ∃ inner first callers, IsActivation depths (f :: s) (inner ++ [first]) callers ∧
      first.isRoot ∧ ∀ g ∈ inner ++ [first], g.page = f.page := by
  generalize hstack : f :: s = st at h
  induction h generalizing f s with
  | nil => cases hstack
  | @page g below hroot hdepth =>
    cases hstack
    refine ⟨[], g, below, ⟨rfl, Nat.lt_succ_self _, hdepth, fun d _ hd => Nat.le_of_lt_succ hd⟩,
      hroot, fun k hk => ?_⟩
    rw [List.mem_singleton.mp hk]
  | @branch g k below hsame hdepth _ ih =>
    cases hstack
    obtain ⟨inner, first, callers, hactivation, hroot, hpage⟩ := ih rfl
    refine ⟨g :: inner, first, callers, ⟨?_, ?_, hactivation.entered, fun d hd hlt => ?_⟩, hroot,
      ?_⟩
    · rw [hactivation.frames]
      rfl
    · exact Nat.lt_succ_of_lt hactivation.running
    · have hne : d ≠ (k :: below).length := fun heq => hdepth (heq ▸ hd)
      exact hactivation.latest d hd (by simp only [List.length_cons] at hlt hne ⊢; omega)
    · refine List.forall_mem_cons.mpr ⟨rfl, fun j hj => ?_⟩
      exact (hpage j hj).trans hsame.symm

end Entered

/-! ## What a jump discards -/

/-- Leaving the running page frame by frame. -/
theorem leavePage_cons (f : Frame) (s : CallStack) :
    leavePage (f :: s) = if f.isRoot then s else s.leavePage := by
  unfold leavePage
  rw [List.dropWhile_cons]
  cases f.isRoot <;> rfl

/-- No more is left than down to a frame on the root list. -/
theorem leavePage_append {inner : List Frame} {first : Frame} (hroot : first.isRoot)
    (callers : CallStack) :
    leavePage (inner ++ [first] ++ callers) = leavePage (inner ++ [first]) ++ callers := by
  induction inner with
  | nil =>
    show leavePage (first :: callers) = leavePage [first] ++ callers
    rw [leavePage_cons, leavePage_cons, if_pos hroot, if_pos hroot]
    rfl
  | cons f inner ih =>
    simp only [List.cons_append, leavePage_cons]
    split
    · rfl
    · exact ih

/-- Frames up to one on the root list are all left if that is the only one. -/
theorem leavePage_eq_nil_iff {inner : List Frame} {first : Frame} (hroot : first.isRoot) :
    leavePage (inner ++ [first]) = [] ↔ ∀ f ∈ inner, f.isRoot = false := by
  induction inner with
  | nil => simp [leavePage_cons, hroot]
  | cons f inner ih =>
    rw [List.cons_append, leavePage_cons, List.forall_mem_cons, ← ih]
    cases f.isRoot <;> simp

namespace Entered

variable {depths : List Nat} {s : CallStack}

/-- A jump goes on in the running activation. -/
theorem jump {f : Frame} (h : Entered depths (f :: s)) (hdepths : ∀ d ∈ depths, d < (f :: s).length)
    {path : List Frame} (hsegment : Frame.IsSegment path) (hpath : ∀ g ∈ path, g.page = f.page) :
    Entered depths (replacePage (f :: s) path) := by
  obtain ⟨inner, first, callers, hactivation, hroot, hpage⟩ := h.exists_activation
  have hlatest : ∀ d, callers.length < d → d ∉ depths := fun d hd hmem =>
    absurd (hactivation.latest d hmem (hdepths d hmem)) (Nat.not_le_of_lt hd)
  have hleft : Entered depths (leavePage (f :: s)) :=
    (isSettled depths).suffix (leavePage_suffix _) h
  unfold replacePage
  rw [hactivation.frames, leavePage_append hroot] at hleft ⊢
  cases hsurvivors : leavePage (inner ++ [first]) with
  | nil =>
    -- the activation begins anew with the path
    rw [hsurvivors] at hleft
    obtain ⟨g, later, rfl, hg, hlater⟩ := hsegment
    rw [List.reverse_cons, List.append_assoc]
    refine append (.page hg hactivation.entered hleft) (fun k hk => ?_) fun d hd _ => hlatest d hd
    exact hlater k (List.mem_reverse.mp hk)
  | cons g survivors =>
    -- the path lies on the frames of the activation that stay
    rw [hsurvivors] at hleft
    have hg : g ∈ inner ++ [first] :=
      (leavePage_suffix _).subset (hsurvivors ▸ List.mem_cons_self)
    refine append hleft (fun k hk => ?_) fun d hd _ => hlatest d ?_
    · exact (hpath k (List.mem_reverse.mp hk)).trans (hpage g hg).symm
    · have hle : callers.length ≤ (survivors ++ callers).length := by
        rw [List.length_append]
        exact Nat.le_add_left ..
      exact Nat.lt_of_lt_of_le (Nat.lt_succ_of_le hle) hd

end Entered

end CallStack

/-! ## Runs with the depths at which pages are entered -/

namespace Turn

/-- The next step executes a command that runs the pages of a common event. -/
def StartsPages (t : Turn) : Prop :=
  ∃ event all overworld, t.command? = some (.startCommonEvent event all overworld)

/-- The depths at which pages were entered that are not left when a step begins. -/
def depthsBefore (t : Turn) (depths : List Nat) : List Nat :=
  depths.filter (· < t.settle.run.stack.length)

/-- The depths at which pages were entered after a step that leaves a number of frames: those that
are not left, and those of the pages of a common event that the step runs. -/
def depthsAfter (t : Turn) (depths : List Nat) (length : Nat) : List Nat :=
  let kept := (t.depthsBefore depths).filter (· < length)
  let settled := t.settle.run.stack.length
  match t.command? with
  | some (.startCommonEvent ..) => kept ++ List.range' settled (length - settled)
  | _ => kept

variable {t : Turn} {depths : List Nat}

/-- The command that runs pages is the one that is executed. -/
theorem eq_of_startsPages {c : Command} (hcommand : t.command? = some c) (h : t.StartsPages) :
    ∃ event all overworld, c = .startCommonEvent event all overworld := by
  obtain ⟨event, all, overworld, hstart⟩ := h
  exact ⟨event, all, overworld, Option.some.inj (hcommand.symm.trans hstart)⟩

/-- What the depths before a step are. -/
theorem mem_depthsBefore {d : Nat} :
    d ∈ t.depthsBefore depths ↔ d ∈ depths ∧ d < t.settle.run.stack.length := by
  unfold depthsBefore
  rw [List.mem_filter, decide_eq_true_eq]

/-- What the depths after a step are. -/
theorem mem_depthsAfter {length d : Nat} :
    d ∈ t.depthsAfter depths length ↔
      d < length ∧ (d ∈ t.depthsBefore depths ∨
        t.settle.run.stack.length ≤ d ∧ t.StartsPages) := by
  unfold depthsAfter
  dsimp only
  split
  · next heq =>
    have hstarts : t.StartsPages := ⟨_, _, _, heq⟩
    rw [List.mem_append, List.mem_filter, List.mem_range'_1, decide_eq_true_eq]
    simp only [hstarts, and_true]
    grind
  · next hne =>
    have hnone : ¬ t.StartsPages := fun ⟨_, _, _, heq⟩ => hne _ _ _ heq
    rw [List.mem_filter, decide_eq_true_eq, and_comm]
    simp only [hnone, and_false, or_false]

/-- Settling leaves pages and enters none. -/
theorem entered_settle (h : CallStack.Entered depths t.run.stack) :
    CallStack.Entered (t.depthsBefore depths) t.settle.run.stack := by
  refine ((CallStack.Entered.isSettled depths).settle h).congr fun d hd => ?_
  rw [mem_depthsBefore]
  simp only [hd, and_true]

/-- Frames that a step leaves or that go on in pages entered before it. -/
theorem entered_after {s : CallStack} (h : CallStack.Entered (t.depthsBefore depths) s)
    {length : Nat} (hlength : s.length ≤ length)
    (hstarts : t.StartsPages → s.length ≤ t.settle.run.stack.length) :
    CallStack.Entered (t.depthsAfter depths length) s := by
  refine h.congr fun d hd => ?_
  rw [mem_depthsAfter]
  refine ⟨fun hdepth => ⟨Nat.lt_of_lt_of_le hd hlength, .inl hdepth⟩, ?_⟩
  rintro ⟨-, hdepth | ⟨hle, hpages⟩⟩
  · exact hdepth
  · exact absurd (Nat.lt_of_lt_of_le hd (hstarts hpages)) (Nat.not_lt_of_le hle)

/-- A command enters pages if it runs those of a common event, and none else. -/
theorem entered_of_permits {frame : Frame} {rest : CallStack}
    (hstack : t.settle.run.stack = frame :: rest)
    (hrunning : CallStack.Entered (t.depthsBefore depths) (frame.advance :: rest)) {c : Command}
    (hcommand : t.command? = some c) {s : Scene} (hpage : s.page = frame.page) {m : StackChange}
    (hm : c.Permits s m) :
    CallStack.Entered (t.depthsAfter depths (m.apply frame.page (frame.advance :: rest)).length)
      (m.apply frame.page (frame.advance :: rest)) := by
  have hlength : (frame.advance :: rest).length = t.settle.run.stack.length := by
    rw [hstack, List.length_cons, List.length_cons]
  have hbefore : ∀ d ∈ t.depthsBefore depths, d < (frame.advance :: rest).length :=
    fun d hd => hlength.symm ▸ (mem_depthsBefore.mp hd).2
  cases hm with
  | keep => exact entered_after hrunning (Nat.le_refl _) fun _ => Nat.le_of_eq hlength
  | @suspend what =>
    have hwaiting : CallStack.Entered (t.depthsBefore depths)
        (frame.advance.suspend what :: rest) := hrunning.replaceTop rfl rfl
    exact entered_after hwaiting (Nat.le_refl _) fun _ => Nat.le_of_eq hlength
  | @enter list hb =>
    have hentered : CallStack.Entered (t.depthsBefore depths)
        (Frame.start frame.page list 0 :: frame.advance :: rest) :=
      .branch rfl (fun hdepth => Nat.lt_irrefl _ (hbefore _ hdepth)) hrunning
    refine entered_after hentered (Nat.le_refl _) fun hstarts => ?_
    -- a command that runs pages has no branches
    obtain ⟨_, _, _, rfl⟩ := eq_of_startsPages hcommand hstarts
    cases hb
  | @call event all overworld d pages hc =>
    have hstarts : t.StartsPages := ⟨event, all, overworld, hc ▸ hcommand⟩
    have hcalled : ((StackChange.call pages).apply frame.page (frame.advance :: rest)).length =
        (frame.advance :: rest).length + pages.length := CallStack.length_call ..
    rw [hcalled]
    have hbelow : CallStack.Entered
        (t.depthsAfter depths ((frame.advance :: rest).length + pages.length))
        (frame.advance :: rest) :=
      entered_after hrunning (Nat.le_add_right ..) fun _ => Nat.le_of_eq hlength
    exact hbelow.call fun d hd hlt => mem_depthsAfter.mpr ⟨hlt, .inr ⟨hlength.symm ▸ hd, hstarts⟩⟩
  | @jump label path hc hfound =>
    have hpath : ∀ g ∈ path, g.page = frame.page := fun g hg =>
      (Page.reaches_of_resolveLabel? hfound g hg).1.trans hpage
    have hjumped := hrunning.jump hbefore (Page.resolveLabel?_isSegment hfound).1 hpath
    refine entered_after hjumped (Nat.le_refl _) fun hstarts => ?_
    obtain ⟨_, _, _, heq⟩ := eq_of_startsPages hcommand hstarts
    rw [hc] at heq
    cases heq
  | leave => exact .nil

/-- A step enters pages where it runs those of a common event, and nowhere else. -/
theorem entered_of_stepped {st : CallStack} (hstepped : t.settle.Stepped st)
    (h : CallStack.Entered depths t.run.stack) :
    CallStack.Entered (t.depthsAfter depths st.length) st := by
  have hsettled := entered_settle h
  cases hstepped with
  | idle => exact entered_after hsettled (Nat.le_refl _) fun _ => Nat.le_refl _
  | @failed frame rest hstack =>
    rw [hstack] at hsettled
    have hbehind : CallStack.Entered (t.depthsBefore depths) (frame.advance :: rest) :=
      hsettled.replaceTop rfl rfl
    refine entered_after hbehind (Nat.le_refl _) fun _ => ?_
    rw [hstack]
    exact Nat.le_refl _
  | executed hstack hruns hcommand hpage hm =>
    rw [hstack] at hsettled
    rw [← command?_of_stack hstack hruns] at hcommand
    exact entered_of_permits hstack (hsettled.replaceTop rfl rfl) hcommand hpage hm

end Turn

/-- An execution that was started on a page, whatever became of it since, with the depths at which
pages were entered that are not left. -/
inductive Instance.Traced : Instance → List Nat → Prop
  | start {i : Instance} {page : Page} (stack : i.stack = [Frame.root page]) : Traced i [0]
  | step {w : World} {i : Instance} {depths : List Nat} {r : Turn.Outcome StepOutcome}
      (before : Traced i depths) (result : (Turn.mk w i).step = .ok r) :
      Traced r.2.run ((Turn.mk w i).depthsAfter depths r.2.run.stack.length)
  | answer {w : World} {i : Instance} {depths : List Nat} {response : Response}
      {r : Turn.Outcome Bool} (before : Traced i depths)
      (result : (Turn.mk w i).answer response = .ok r) : Traced r.2.run depths
  | receive {i : Instance} {depths : List Nat} (before : Traced i depths) (signal : Signal) :
      Traced (i.receive signal).2 depths
  | cancel {i : Instance} {depths : List Nat} (before : Traced i depths) : Traced i.cancel []
  | elsewhere {i j : Instance} {depths : List Nat} (before : Traced i depths)
      (stack : j.stack = i.stack) : Traced j depths

/-- Letting the running frame go on leaves no frame. -/
theorem Instance.length_release (i : Instance) : i.release.stack.length = i.stack.length := by
  unfold release modifyTop
  split
  · rfl
  · next hstack =>
    rw [hstack]
    rfl

namespace CallStack.Entered

/-- A response enters no page. -/
theorem answered {t : Turn} {depths : List Nat} {st : CallStack} (hanswered : t.Answered st)
    (h : Entered depths t.run.stack) (hdepths : ∀ d ∈ depths, d < t.run.stack.length) :
    Entered depths st ∧ t.run.stack.length ≤ st.length := by
  cases hanswered with
  | ignored => exact ⟨h, Nat.le_refl _⟩
  | failed => exact ⟨(isSettled depths).release_stack h, Nat.le_of_eq t.run.length_release.symm⟩
  | @accepted frame rest asked s m hstack hwaiting hpage hm =>
    rw [hstack] at h hdepths ⊢
    have hrelease : Entered depths (frame.release :: rest) := h.replaceTop rfl rfl
    cases hm with
    | keep => exact ⟨hrelease, Nat.le_refl _⟩
    | enter =>
      exact ⟨.branch rfl (fun hdepth => Nat.lt_irrefl _ (hdepths _ hdepth)) hrelease,
        Nat.le_succ _⟩

end CallStack.Entered

namespace Instance.Traced

/-- Pages were entered on the call stack at the depths that are traced. -/
theorem entered {i : Instance} {depths : List Nat} (h : i.Traced depths) :
    CallStack.Entered depths i.stack ∧ ∀ d ∈ depths, d < i.stack.length := by
  induction h with
  | @start i page hstack =>
    rw [hstack]
    exact ⟨.page (beq_self_eq_true page.root) List.mem_cons_self .nil, by simp⟩
  | @step w i depths r _ result ih =>
    obtain ⟨st, hstepped, hst⟩ := Turn.stepped_of_step result
    have hsuffix : r.2.run.stack <:+ st := by
      rcases hst with hst | hst
      · exact hst ▸ List.suffix_refl _
      · exact hst ▸ List.dropWhile_suffix _
    have hstack := Turn.entered_of_stepped hstepped ih.1
    refine ⟨((CallStack.Entered.isSettled _).suffix hsuffix hstack).congr fun d hd => ?_,
      fun d hd => (Turn.mem_depthsAfter.mp hd).1⟩
    rw [Turn.mem_depthsAfter, Turn.mem_depthsAfter]
    simp only [hd, Nat.lt_of_lt_of_le hd hsuffix.length_le]
  | answer _ result ih =>
    obtain ⟨hstack, hlength⟩ :=
      CallStack.Entered.answered (Turn.answered_of_answer result) ih.1 ih.2
    exact ⟨hstack, fun d hd => Nat.lt_of_lt_of_le (ih.2 d hd) hlength⟩
  | @receive i depths _ signal ih =>
    refine ⟨(CallStack.Entered.isSettled depths).receive ih.1 signal, ?_⟩
    unfold Instance.receive
    split
    · rw [length_release]
      exact ih.2
    · exact ih.2
  | cancel => exact ⟨.nil, fun _ hd => absurd hd List.not_mem_nil⟩
  | elsewhere _ hstack ih => rwa [hstack]

end Instance.Traced

/-! ## Jumps -/

namespace Turn

/-- What a jump makes of the call stack. -/
theorem stack_of_goToLabel {t : Turn} {frame : Frame} {rest : CallStack} {label : String}
    (hstack : t.settle.run.stack = frame :: rest)
    (hcommand : t.command? = some (.goToLabel label))
    (hplayer : (t.world.player? t.run.player).isSome) {r : Outcome StepOutcome}
    (h : t.step = .ok r) :
    r.2.run.stack = CallStack.unwind (match frame.page.resolveLabel? label with
      | some path => CallStack.replacePage (frame.advance :: rest) path
      | none => frame.advance :: rest) := by
  have hruns : frame.waiting = none := waiting_of_command? hcommand hstack
  rw [command?_of_stack hstack hruns] at hcommand
  obtain ⟨commands, hlist, hindex⟩ := Option.bind_eq_some_iff.mp hcommand
  obtain ⟨p, hp⟩ := Option.isSome_iff_exists.mp hplayer
  rw [← settle_world, ← settle_player] at hp
  have hexecute := execute_eq_conclude hlist hindex hp (by simp) rfl
  rw [step_eq_execute hstack hruns (Frame.defect?_of_command? hcommand), hexecute] at h
  cases h
  rw [conclude_stack]
  unfold Scene.goToLabel
  dsimp only
  cases frame.page.resolveLabel? label <;> simp only [Instance.modifyTop_cons hstack]

/-- A jump from the running activation: where the label is found, the way to it replaces the frames
down to the topmost one on the root list, and these are all of the activation exactly if only its
first frame is on the root list. -/
theorem discards_activation_iff_of_traced {i : Instance} {depths : List Nat}
    (htraced : i.Traced depths) {w : World} {r : Outcome StepOutcome}
    (hstep : (Turn.mk w i).step = .ok r) {label : String}
    (hcommand : (Turn.mk w i).command? = some (.goToLabel label))
    (hplayer : (w.player? i.player).isSome) :
    ∃ frame rest inner first callers, (Turn.mk w i).settle.run.stack = frame :: rest ∧
      CallStack.IsActivation depths (frame :: rest) (inner ++ [first]) callers ∧
      (frame.page.resolveLabel? label = none →
        r.2.run.stack = CallStack.unwind (frame.advance :: rest)) ∧
      ∀ path, frame.page.resolveLabel? label = some path →
        r.2.run.stack =
          CallStack.unwind (path.reverse ++ CallStack.leavePage (inner ++ [first]) ++ callers) ∧
        (CallStack.leavePage (inner ++ [first]) = [] ↔ ∀ f ∈ inner, f.isRoot = false) := by
  have hentered : CallStack.Entered depths (Turn.mk w i).settle.run.stack :=
    (CallStack.Entered.isSettled depths).settle htraced.entered.1
  cases hstack : (Turn.mk w i).settle.run.stack with
  | nil =>
    unfold command? Instance.top? at hcommand
    rw [hstack] at hcommand
    cases hcommand
  | cons frame rest =>
    rw [hstack] at hentered
    obtain ⟨inner, first, callers, hactivation, hroot, -⟩ := hentered.exists_activation
    have hjump := stack_of_goToLabel hstack hcommand hplayer hstep
    refine ⟨frame, rest, inner, first, callers, rfl, hactivation, fun hnone => ?_,
      fun path hpath => ?_⟩
    · rw [hjump, hnone]
    · have hadvance : CallStack.leavePage (frame.advance :: rest) =
          CallStack.leavePage (frame :: rest) := by
        rw [CallStack.leavePage_cons, CallStack.leavePage_cons]
        rfl
      refine ⟨?_, CallStack.leavePage_eq_nil_iff hroot⟩
      rw [hjump, hpath]
      dsimp only
      unfold CallStack.replacePage
      rw [hadvance, hactivation.frames, CallStack.leavePage_append hroot, List.append_assoc]

/-! ### A branch that leads back to the root list -/

/-- A page whose prompt leads back to its root list or to a jump behind the prompt. -/
def relooping : Page :=
  ((Page.draft ⟨1⟩ "again" ⟨2⟩).withRoot
    [.showOptions "" "" ["again", "end"] [⟨2⟩, ⟨3⟩], .label "end"]).withList ⟨3⟩ [.goToLabel "end"]

/-- An execution of that page in front of the jump, after it went back to the root list once. -/
def relooped : Instance :=
  (Instance.start ⟨4⟩ ⟨5⟩ ⟨3⟩ relooping).withStack
    [.start relooping ⟨3⟩ 0, .start relooping ⟨2⟩ 1, .start relooping ⟨2⟩ 1]

/-- The execution comes there from the start of the page, which is the only page it entered. -/
theorem traced_relooped : relooped.Traced [0] := by
  let w := World.lone (.fresh ⟨3⟩ "Ann" .nil 1 1)
  let i := Instance.start ⟨4⟩ ⟨5⟩ ⟨3⟩ relooping
  let behind := Frame.start relooping ⟨2⟩ 1
  let asking := behind.suspend (.dialogue (.options [⟨2⟩, ⟨3⟩]))
  have hask : (i.withStack [asking]).Traced [0] := .step (.start rfl)
    (show (Turn.mk w i).step = .ok (.ok (.suspended .dialogue), ⟨_, i.withStack [asking]⟩) from rfl)
  have hagain : (i.withStack [.start relooping ⟨2⟩ 0, behind]).Traced [0] := .answer hask
    (show (Turn.mk w _).answer (.option 0) =
      .ok (.ok true, ⟨_, i.withStack [.start relooping ⟨2⟩ 0, behind]⟩) from rfl)
  have hask' : (i.withStack [asking, behind]).Traced [0] := .step hagain
    (show (Turn.mk w _).step =
      .ok (.ok (.suspended .dialogue), ⟨_, i.withStack [asking, behind]⟩) from rfl)
  exact .answer hask'
    (show (Turn.mk w _).answer (.option 1) = .ok (.ok true, ⟨_, relooped⟩) from rfl)

/-- The jump leaves one frame of the activation, which is on the root list, and so the execution
goes on behind the prompt. -/
theorem not_discards_activation_relooped :
    ∃ (w : World) (r : Outcome StepOutcome) (path activation callers : CallStack),
      relooped.Traced [0] ∧ (Turn.mk w relooped).step = .ok r ∧
      (Turn.mk w relooped).command? = some (.goToLabel "end") ∧
      (w.player? relooped.player).isSome ∧ relooping.resolveLabel? "end" = some path ∧
      CallStack.IsActivation [0] (Turn.mk w relooped).settle.run.stack activation callers ∧
      r.2.run.stack = [.start relooping ⟨2⟩ 1] ∧
      r.2.run.stack ≠ CallStack.unwind (path.reverse ++ callers) := by
  let w := World.lone (.fresh ⟨3⟩ "Ann" .nil 1 1)
  have hactivation : CallStack.IsActivation [0] (Turn.mk w relooped).settle.run.stack
      relooped.stack [] := ⟨rfl, by decide, by decide, fun d hd _ => by simp_all⟩
  refine ⟨w, _, _, _, _, traced_relooped, rfl, rfl, rfl, rfl, hactivation, rfl, ?_⟩
  exact List.cons_ne_nil _ _

/-- The same jump, told by the frames of the activation that are on the root list. -/
theorem discards_activation_iff_relooped :
    ∃ (w : World) (r : Outcome StepOutcome) (frame : Frame) (rest : CallStack)
      (inner : List Frame) (first : Frame) (callers : CallStack),
      relooped.Traced [0] ∧ (Turn.mk w relooped).step = .ok r ∧
      (Turn.mk w relooped).command? = some (.goToLabel "end") ∧
      (w.player? relooped.player).isSome ∧
      CallStack.IsActivation [0] (frame :: rest) (inner ++ [first]) callers ∧
      ∀ path, frame.page.resolveLabel? "end" = some path →
        r.2.run.stack =
          CallStack.unwind (path.reverse ++ CallStack.leavePage (inner ++ [first]) ++ callers) := by
  let w := World.lone (.fresh ⟨3⟩ "Ann" .nil 1 1)
  have hstep : (Turn.mk w relooped).step = .ok _ := rfl
  obtain ⟨frame, rest, inner, first, callers, -, hactivation, -, hfound⟩ :=
    discards_activation_iff_of_traced traced_relooped hstep rfl rfl
  exact ⟨w, _, frame, rest, inner, first, callers, traced_relooped, hstep, rfl, rfl, hactivation,
    fun path hpath => (hfound path hpath).1⟩

end Turn

end EventScript
