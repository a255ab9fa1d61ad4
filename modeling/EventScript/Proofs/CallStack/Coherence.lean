import Mathlib.Data.List.Basic
import Mathlib.Data.List.Induction
import EventScript.Proofs.CallStack.Change

/-!
# Coherent call stacks

The frames of a call stack, outermost first, fall into segments: each starts on the root list of a
page and goes on in lists of that page. Every frame stands in or behind a registered list, and only
the running frame may wait. Every change of the call stack that a script may make keeps this.
-/

namespace EventScript

/-- Frames that run one page, outermost first: the first one runs its root list. -/
def Frame.IsSegment (segment : List Frame) : Prop :=
  ∃ f rest, segment = f :: rest ∧ f.isRoot ∧ ∀ g ∈ rest, g.page = f.page

/-- A place in a registered list, or behind its last command. -/
def Frame.IsPlaced (f : Frame) : Prop :=
  ∃ commands, f.page.list? f.list = some commands ∧ f.index ≤ commands.length

namespace CallStack

/-- Frames that form segments, the outermost ones last. -/
def Segmented (s : CallStack) : Prop :=
  ∃ segments : List (List Frame),
    s.reverse = segments.flatten ∧ ∀ segment ∈ segments, Frame.IsSegment segment

/-- What holds of the call stack of every execution. -/
structure Coherent (s : CallStack) : Prop where
  placed : ∀ f ∈ s, f.IsPlaced
  callersRun : ∀ f ∈ s.tail, f.isSuspended = false
  segmented : s.Segmented

/-! ## Segments frame by frame -/

/-- A call stack built frame by frame: a frame starts a segment or goes on in the page below. -/
inductive Layered : CallStack → Prop
  | nil : Layered []
  | root {f : Frame} {s : CallStack} (root : f.isRoot) (below : Layered s) : Layered (f :: s)
  | branch {f g : Frame} {s : CallStack} (same : f.page = g.page) (below : Layered (g :: s)) :
      Layered (f :: g :: s)

namespace Layered

/-- What lies below a frame is built frame by frame as well. -/
theorem tail {f : Frame} {s : CallStack} (h : Layered (f :: s)) : Layered s := by
  cases h with
  | root _ below => exact below
  | branch _ below => exact below

/-- A segment on top of layers, frame by frame. -/
theorem append_segment {segment : List Frame} {s : CallStack} (hs : Layered s)
    (h : Frame.IsSegment segment) : Layered (segment.reverse ++ s) := by
  obtain ⟨f, rest, rfl, hroot, hpage⟩ := h
  rw [List.reverse_cons, List.append_assoc]
  -- the page of the frames so far is the page of the segment, so the next frame may follow them
  have hlayers (rest : List Frame) (hpage : ∀ g ∈ rest, g.page = f.page) :
      Layered (rest ++ f :: s) ∧
        ∃ top below, rest ++ f :: s = top :: below ∧ top.page = f.page := by
    induction rest with
    | nil => exact ⟨.root hroot hs, f, s, rfl, rfl⟩
    | cons g rest ih =>
      obtain ⟨hbelow, top, below, heq, htop⟩ := ih fun k hk => hpage k (List.mem_cons_of_mem g hk)
      have hg := hpage g List.mem_cons_self
      refine ⟨?_, g, rest ++ f :: s, rfl, hg⟩
      rw [heq] at hbelow
      rw [List.cons_append, heq]
      exact .branch (hg.trans htop.symm) hbelow
  exact (hlayers rest.reverse fun g hg => hpage g (List.mem_reverse.mp hg)).1

end Layered

/-- Call stacks of segments are those that are built frame by frame. -/
theorem segmented_iff_layered (s : CallStack) : s.Segmented ↔ Layered s := by
  constructor
  · rintro ⟨segments, heq, hsegments⟩
    induction segments using List.reverseRecOn generalizing s with
    | nil =>
      rw [List.reverse_eq_iff.mp heq]
      exact .nil
    | append_singleton segments segment ih =>
      rw [List.flatten_append, List.flatten_singleton] at heq
      have hs := List.reverse_eq_iff.mp heq
      rw [List.reverse_append] at hs
      rw [hs]
      refine .append_segment (ih _ (List.reverse_reverse _) fun k hk => ?_) ?_
      · exact hsegments k (List.mem_append_left _ hk)
      · exact hsegments segment (List.mem_append_right _ List.mem_cons_self)
  · intro h
    induction h with
    | nil => exact ⟨[], rfl, fun _ hk => absurd hk List.not_mem_nil⟩
    | @root f s hroot _ ih =>
      obtain ⟨segments, heq, hsegments⟩ := ih
      refine ⟨segments ++ [[f]], ?_, fun k hk => ?_⟩
      · rw [List.reverse_cons, heq, List.flatten_append, List.flatten_singleton]
      · rcases List.mem_append.mp hk with hk | hk
        · exact hsegments k hk
        · rw [List.mem_singleton.mp hk]
          exact ⟨f, [], rfl, hroot, fun _ hg => absurd hg List.not_mem_nil⟩
    | @branch f g s hsame _ ih =>
      obtain ⟨segments, heq, hsegments⟩ := ih
      rcases List.eq_nil_or_concat' segments with rfl | ⟨before, last, rfl⟩
      · simp at heq
      · obtain ⟨k, rest, rfl, hroot, hpage⟩ :=
          hsegments last (List.mem_append_right _ List.mem_cons_self)
        have hg : g.page = k.page := by
          have hlast := congrArg List.getLast? heq
          rw [List.reverse_cons, List.getLast?_concat, List.flatten_append, List.flatten_singleton,
            List.getLast?_append_cons] at hlast
          rcases List.mem_cons.mp (List.mem_of_getLast? hlast.symm) with rfl | hrest
          · rfl
          · exact hpage g hrest
        refine ⟨before ++ [k :: (rest ++ [f])], ?_, fun j hj => ?_⟩
        · rw [List.reverse_cons, heq]
          simp only [List.flatten_append, List.flatten_singleton, List.append_assoc,
            List.cons_append]
        · rcases List.mem_append.mp hj with hj | hj
          · exact hsegments j (List.mem_append_left _ hj)
          · rw [List.mem_singleton.mp hj]
            refine ⟨k, rest ++ [f], rfl, hroot, fun i hi => ?_⟩
            rcases List.mem_append.mp hi with hi | hi
            · exact hpage i hi
            · rw [List.mem_singleton.mp hi]
              exact hsame.trans hg

/-! ## Leaving frames -/

namespace Coherent

/-- An empty call stack. -/
theorem nil : Coherent [] where
  placed _ hf := absurd hf List.not_mem_nil
  callersRun _ hf := absurd hf List.not_mem_nil
  segmented := (segmented_iff_layered []).mpr .nil

/-- What lies below the running frame. -/
theorem tail {f : Frame} {s : CallStack} (h : Coherent (f :: s)) : Coherent s where
  placed g hg := h.placed g (List.mem_cons_of_mem f hg)
  callersRun g hg := h.callersRun g (List.mem_of_mem_tail hg)
  segmented := (segmented_iff_layered s).mpr ((segmented_iff_layered _).mp h.segmented).tail

/-- Leaving frames from the top keeps a call stack coherent. -/
theorem dropWhile {s : CallStack} (h : Coherent s) (p : Frame → Bool) :
    Coherent (s.dropWhile p) := by
  induction s with
  | nil => exact h
  | cons f s ih =>
    rw [List.dropWhile_cons]
    split
    · exact ih h.tail
    · exact h

/-- Leaving the finished frames keeps a call stack coherent. -/
theorem unwind {s : CallStack} (h : Coherent s) : Coherent s.unwind := h.dropWhile _

/-- Leaving the running page keeps a call stack coherent. -/
theorem leavePage {s : CallStack} (h : Coherent s) : Coherent s.leavePage := by
  have hrest := h.dropWhile fun f => !f.isRoot
  unfold CallStack.leavePage
  cases hs : s.dropWhile fun f => !f.isRoot with
  | nil => exact .nil
  | cons f rest =>
    rw [hs] at hrest
    exact hrest.tail

/-- Changing the running frame within its list keeps a call stack coherent. -/
theorem replaceTop {f g : Frame} {s : CallStack} (h : Coherent (f :: s)) (hpage : g.page = f.page)
    (hlist : g.list = f.list) (hplaced : g.IsPlaced) : Coherent (g :: s) where
  placed k hk := by
    rcases List.mem_cons.mp hk with rfl | hk
    · exact hplaced
    · exact h.placed k (List.mem_cons_of_mem f hk)
  callersRun := h.callersRun
  segmented := by
    have hlayers := (segmented_iff_layered _).mp h.segmented
    refine (segmented_iff_layered _).mpr ?_
    cases hlayers with
    | root hroot below =>
      refine .root ?_ below
      unfold Frame.isRoot at hroot ⊢
      rwa [hpage, hlist]
    | branch hsame below => exact .branch (hpage.trans hsame) below

/-- Frames on top of a coherent call stack none of whose frames waits. -/
theorem push {s : CallStack} (h : Coherent s) (segment : List Frame)
    (hruns : ∀ f ∈ s, f.isSuspended = false) (hplaced : ∀ f ∈ segment, f.IsPlaced)
    (hruns' : ∀ f ∈ segment, f.isSuspended = false) (hlayers : Layered (segment ++ s)) :
    Coherent (segment ++ s) where
  placed f hf := (List.mem_append.mp hf).elim (hplaced f) (h.placed f)
  callersRun f hf := (List.mem_append.mp (List.mem_of_mem_tail hf)).elim (hruns' f) (hruns f)
  segmented := (segmented_iff_layered _).mpr hlayers

end Coherent

/-- Leaving the running page leaves frames from the top. -/
theorem leavePage_suffix (s : CallStack) : s.leavePage <:+ s :=
  (List.tail_suffix _).trans (List.dropWhile_suffix _)

/-- Leaving frames leaves no frame that was not there before. -/
theorem leavePage_subset (s : CallStack) : ∀ f ∈ s.leavePage, f ∈ s := fun _ hf =>
  s.leavePage_suffix.subset hf

end CallStack

/-! ## The way to a label -/

namespace Page

variable {p : Page} {label : String}

/-- A place of the way to a label lies in a registered list, or behind its last command. -/
def Holds (p : Page) (step : PathStep) : Prop :=
  ∃ commands, p.list? step.list = some commands ∧ step.index ≤ commands.length

/-- Searching a registered list gives a way that starts in it, if the searches of branches do. -/
theorem searchCommands_holds {enter : BranchId → Option (List PathStep)} {list : BranchId}
    {commands : List Command} (hlist : p.list? list = some commands)
    (henter : ∀ b path, enter b = some path → ∀ step ∈ path, p.Holds step)
    {i : Nat} {rest : List Command} (hi : i + rest.length ≤ commands.length)
    {path : List PathStep} (h : searchCommands label enter list i rest = some path) :
    (∃ step later, path = step :: later ∧ step.list = list) ∧ ∀ step ∈ path, p.Holds step := by
  induction rest generalizing i with
  | nil => cases h
  | cons c rest ih =>
    rw [List.length_cons] at hi
    unfold searchCommands at h
    split at h
    · cases h
      refine ⟨⟨_, _, rfl, rfl⟩, fun step hstep => ?_⟩
      rw [List.mem_singleton.mp hstep]
      exact ⟨commands, hlist, by dsimp only; omega⟩
    · split at h
      · next later hlater =>
        cases h
        refine ⟨⟨_, _, rfl, rfl⟩, fun step hstep => ?_⟩
        rcases List.mem_cons.mp hstep with rfl | hstep
        · exact ⟨commands, hlist, by dsimp only; omega⟩
        · obtain ⟨b, _, hb⟩ := List.exists_of_findSome?_eq_some hlater
          exact henter b later hb step hstep
      · exact ih (by omega) h

/-- Searching a list gives a way that starts in it and stays within registered lists. -/
theorem searchList_holds {depth : Nat} {above : List BranchId} {list : BranchId}
    {path : List PathStep} (h : p.searchList label depth above list = some path) :
    (∃ step later, path = step :: later ∧ step.list = list) ∧ ∀ step ∈ path, p.Holds step := by
  induction depth generalizing above list path with
  | zero => cases h
  | succ depth ih =>
    unfold searchList at h
    split at h
    · cases h
    · split at h
      · next commands hlist =>
        exact searchCommands_holds hlist (fun b path hb => (ih hb).2) (by omega) h
      · cases h

/-- The frames behind a label form a segment of the page, and none of them waits. -/
theorem resolveLabel?_isSegment {path : List Frame} (h : p.resolveLabel? label = some path) :
    Frame.IsSegment path ∧ ∀ f ∈ path, f.IsPlaced ∧ f.isSuspended = false := by
  unfold resolveLabel? at h
  obtain ⟨steps, hsteps, rfl⟩ := Option.map_eq_some_iff.mp h
  obtain ⟨⟨step, later, rfl, hroot⟩, hholds⟩ := searchList_holds hsteps
  refine ⟨⟨_, _, rfl, ?_, fun g hg => ?_⟩, fun f hf => ?_⟩
  · simp only [Frame.isRoot, Frame.start, hroot, beq_self_eq_true]
  · obtain ⟨_, _, rfl⟩ := List.mem_map.mp hg
    rfl
  · obtain ⟨step, hstep, rfl⟩ := List.mem_map.mp hf
    exact ⟨hholds step hstep, rfl⟩

end Page

/-! ## Changes of the call stack -/

/-- The pages of all common events of a world are valid. -/
def World.HasValidEvents (w : World) : Prop :=
  ∀ event d, w.catalog.commonEvents.get? event = some d → ∀ e ∈ d.pages, e.page.isValid

/-- A change that only puts frames of registered lists on the call stack of a page. -/
def StackChange.IsSound (page : Page) : StackChange → Prop
  | keep => True
  | suspend _ => True
  | enter list => page.hasList list
  | call pages => ∀ p ∈ pages, p.isValid
  | jump path => Frame.IsSegment path ∧ ∀ f ∈ path, f.IsPlaced ∧ f.isSuspended = false
  | leave => True

/-- The changes that commands make are sound where the pages of common events are valid. -/
theorem Command.Permits.isSound {s : Scene} {c : Command} {m : StackChange} (h : c.Permits s m)
    (hvalid : s.world.HasValidEvents) : m.IsSound s.page := by
  cases h with
  | keep | suspend | leave => trivial
  | enter _ registered => exact registered
  | call _ described selected =>
    intro page hpage
    obtain ⟨e, he, rfl⟩ := selected page hpage
    exact hvalid _ _ described e he
  | jump _ found => exact Page.resolveLabel?_isSegment found

/-- The changes that responses make are sound. -/
theorem Scene.Answers.isSound {s : Scene} {asked : Suspension} {m : StackChange}
    (h : s.Answers asked m) : m.IsSound s.page := by
  cases h with
  | keep => trivial
  | enter _ registered => exact registered

/-- The start of a registered list is a place in it. -/
theorem Frame.isPlaced_start {page : Page} {list : BranchId} (h : page.hasList list) :
    (Frame.start page list 0).IsPlaced := by
  unfold Page.hasList Table.contains at h
  obtain ⟨commands, hcommands⟩ := Option.isSome_iff_exists.mp h
  exact ⟨commands, hcommands, Nat.zero_le _⟩

namespace CallStack

/-- Starting valid pages on a coherent call stack of running frames. -/
theorem Coherent.call {pages : List Page} (hvalid : ∀ p ∈ pages, p.isValid) {s : CallStack}
    (h : Coherent s) (hruns : ∀ f ∈ s, f.isSuspended = false) :
    Coherent (pages.foldl (fun st page => .root page :: st) s) := by
  induction pages generalizing s with
  | nil => exact h
  | cons page pages ih =>
    refine ih (fun p hp => hvalid p (List.mem_cons_of_mem page hp)) ?_ fun f hf => ?_
    · refine h.push [Frame.root page] hruns (fun f hf => ?_) (fun f hf => ?_)
        (.root (beq_self_eq_true page.root) ((segmented_iff_layered s).mp h.segmented))
      · rw [List.mem_singleton.mp hf]
        exact Frame.isPlaced_start (hvalid page List.mem_cons_self)
      · rw [List.mem_singleton.mp hf]
        rfl
    · rcases List.mem_cons.mp hf with rfl | hf
      · rfl
      · exact hruns f hf

/-- A sound change of a call stack none of whose frames waits leaves it coherent. -/
theorem Coherent.apply {top : Frame} {rest : CallStack} (h : Coherent (top :: rest))
    (hruns : top.isSuspended = false) {m : StackChange} (hsound : m.IsSound top.page) :
    Coherent (m.apply top.page (top :: rest)) := by
  have hall : ∀ f ∈ top :: rest, f.isSuspended = false := fun f hf =>
    (List.mem_cons.mp hf).elim (fun heq => heq ▸ hruns) (h.callersRun f)
  have hlayers := (segmented_iff_layered _).mp h.segmented
  cases m with
  | keep => exact h
  | suspend what => exact h.replaceTop rfl rfl (h.placed top List.mem_cons_self)
  | enter list =>
    refine h.push [Frame.start top.page list 0] hall (fun f hf => ?_) (fun f hf => ?_)
      (.branch rfl hlayers)
    · rw [List.mem_singleton.mp hf]
      exact Frame.isPlaced_start hsound
    · rw [List.mem_singleton.mp hf]
      rfl
  | call pages => exact h.call hsound hall
  | jump path =>
    obtain ⟨hsegment, hpath⟩ := hsound
    have hrest := h.leavePage
    refine hrest.push path.reverse (fun f hf => hall f (leavePage_subset _ f hf))
      (fun f hf => (hpath f (List.mem_reverse.mp hf)).1)
      (fun f hf => (hpath f (List.mem_reverse.mp hf)).2) ?_
    exact .append_segment ((segmented_iff_layered _).mp hrest.segmented) hsegment
  | leave => exact .nil

end CallStack

end EventScript
