import EventScript.Proofs.CallStack.Run
import EventScript.Proofs.Json.Text
import EventScript.Proofs.Table
import EventScript.Proofs.Turn.Fault
import EventScript.Storage.Document

/-!
# Pages that are loaded

A page that is read from a file of its own has its root list. The pages of common events are read as
they are written, with or without one. If all of them have theirs, then no execution ever misses a
list; and if one does not, then every execution that starts on it fails at once, and so does every
execution that enters it.
-/

namespace EventScript

/-! ## What files are accepted for -/

/-- A page file is accepted if it holds a page that has its root list. -/
theorem Page.ofFile_eq_ok_iff {path : String} {content : Except FileError String} {page : Page} :
    Page.ofFile path content = .ok page ↔
      ∃ text, content = .ok text ∧ ofText? text = some page ∧ page.isValid = true := by
  cases content with
  | error cause => simp [Page.ofFile]
  | ok text =>
    cases hread : (ofText? text : Option Page) with
    | none => simp [Page.ofFile, hread]
    | some read =>
      have hvalidate : Page.ofFile path (.ok text) = .ok page ↔ read.validate = .ok page := by
        simp only [Page.ofFile, hread]
        cases read.validate <;> simp
      rw [hvalidate, Page.validate_eq_ok_iff]
      constructor
      · rintro ⟨hvalid, rfl⟩
        exact ⟨text, rfl, hread, hvalid⟩
      · rintro ⟨_, ⟨⟩, hpage, hvalid⟩
        cases hread.symm.trans hpage
        exact ⟨hvalid, rfl⟩

/-- A descriptor file is accepted if it holds descriptors, whatever pages they have. -/
theorem DescriptorSet.ofFile_eq_ok_iff {path : String} {content : Except FileError String}
    {d : DescriptorSet} :
    DescriptorSet.ofFile path content = .ok d ↔
      ∃ text, content = .ok text ∧ ofText? text = some d := by
  unfold DescriptorSet.ofFile
  cases content with
  | error cause => simp
  | ok text =>
    cases hread : (ofText? text : Option DescriptorSet) with
    | none => simp [hread]
    | some read => simp [hread]

/-! ## Pages of common events -/

/-- The pages of all common events of a set. -/
def DescriptorSet.pages (d : DescriptorSet) : List Page :=
  d.commonEvents.flatMap fun e => e.pages.map CommonEventPage.page

/-- A page of a common event that is found in the catalog is a page of the set. -/
theorem DescriptorSet.mem_pages_of_get? {d : DescriptorSet} {event : EventId}
    {e : CommonEventDescriptor} (h : d.catalog.commonEvents.get? event = some e)
    {page : CommonEventPage} (hpage : page ∈ e.pages) : page.page ∈ d.pages :=
  List.mem_flatMap.mpr ⟨e, Table.mem_of_get?_ofValues h, List.mem_map_of_mem hpage⟩

/-- If all pages of a set have their root lists, then so have the common events of a world with the
catalog of the set. -/
theorem DescriptorSet.hasValidEvents {d : DescriptorSet} (h : ∀ page ∈ d.pages, page.isValid = true)
    {w : World} (hw : w.catalog = d.catalog) : w.HasValidEvents := by
  intro event e he page hpage
  rw [hw] at he
  exact h _ (DescriptorSet.mem_pages_of_get? he hpage)

/-! ## Executions in worlds with a catalog -/

namespace Instance

/-- One thing that happens to an execution, in a world with a catalog. -/
inductive Happens (catalog : Catalog) : Instance → Instance → Prop
  | step {w : World} {i : Instance} {r : Turn.Outcome StepOutcome} (described : w.catalog = catalog)
      (result : (Turn.mk w i).step = .ok r) : Happens catalog i r.2.run
  | answer {w : World} {i : Instance} {response : Response} {r : Turn.Outcome Bool}
      (described : w.catalog = catalog) (result : (Turn.mk w i).answer response = .ok r) :
      Happens catalog i r.2.run
  | receive {i : Instance} (signal : Signal) : Happens catalog i (i.receive signal).2
  | cancel {i : Instance} : Happens catalog i i.cancel

/-- No step of an execution in a world with a catalog misses a list. -/
def FindsLists (catalog : Catalog) (i : Instance) : Prop :=
  ∀ w : World, w.catalog = catalog → ∀ page list t,
    (Turn.mk w i).step ≠ .ok (.error (.missingCommandList page list), t)

/-- Where the pages of common events are valid, this is all that happens to executions. -/
theorem Happens.call {catalog : Catalog}
    (hvalid : ∀ w : World, w.catalog = catalog → w.HasValidEvents) {i j : Instance}
    (h : Happens catalog i j) : Call i j := by
  cases h with
  | step described result => exact .step (hvalid _ described) result
  | answer _ result => exact .answer result
  | receive signal => exact .receive signal
  | cancel => exact .cancel

end Instance

/-- An execution that starts on a valid page, or on one of a common event of the set, never misses a
list, however it goes on. -/
def DescriptorSet.FindsRoots (d : DescriptorSet) : Prop :=
  ∀ page, page.validate = .ok page ∨ page ∈ d.pages → ∀ i₀ : Instance,
    i₀.stack = [Frame.root page] → ∀ i, Relation.ReflTransGen (Instance.Happens d.catalog) i₀ i →
      i.FindsLists d.catalog

/-- It does not if all pages of the set are valid. -/
theorem DescriptorSet.findsRoots_of_valid {d : DescriptorSet}
    (h : ∀ page ∈ d.pages, page.validate = .ok page) : d.FindsRoots := by
  have hvalid : ∀ w : World, w.catalog = d.catalog → w.HasValidEvents := fun w hw =>
    hasValidEvents (fun page hpage => (Page.validate_eq_ok_iff.mp (h page hpage)).1) hw
  intro page hpage i₀ hstart i hruns w hw missing list t hstep
  have hroot : page.validate = .ok page := hpage.elim id (h page)
  have hcalls : Relation.ReflTransGen Instance.Call i₀ i :=
    hruns.lift id fun _ _ hhappens => hhappens.call hvalid
  obtain ⟨-, hfails⟩ := Instance.coherent_of_calls hroot hstart hcalls
  cases (hfails w _ t (hvalid w hw) hstep).1

/-! ## Pages without root list -/

/-- The error of a page whose root list is not registered. -/
def Page.missingRoot (page : Page) : StepError := .missingCommandList page.id page.root

section

variable {page : Page}

/-- The frame at the start of such a page is not finished, and cannot go on. -/
theorem Frame.defect?_root (h : page.isValid = false) :
    (Frame.root page).isFinished = false ∧ (Frame.root page).defect? = some page.missingRoot := by
  have hlist : page.list? page.root = none := by
    simpa [Page.isValid, Page.hasList, Table.contains, Page.list?] using h
  constructor
  · simp [isFinished, isExhausted, commands, root, start, hlist, Except.map]
  · simp [defect?, isSuspended, isExhausted, commands, root, start, hlist, Except.map,
      Page.missingRoot]

variable {t : Turn} {rest : CallStack} (h : page.isValid = false)
  (hstack : t.run.stack = Frame.root page :: rest)

include hstack

/-- Where a page starts, nothing is waited for. -/
theorem Instance.waiting?_of_root : t.run.waiting? = none := by
  simp [waiting?, top?, hstack, Frame.root, Frame.start]

include h

/-- Where such a page runs, there is nothing to leave. -/
theorem Instance.unwind_of_root : t.run.unwind = t.run := by
  have hunwind : t.run.stack.unwind = t.run.stack := by
    rw [hstack]
    exact List.dropWhile_cons_of_neg (by simp [(Frame.defect?_root h).1])
  unfold Instance.unwind
  rw [hunwind]

/-- The call stack cannot go on. -/
theorem Instance.defect?_of_root : t.run.stack.defect? = some page.missingRoot := by
  rw [hstack]
  exact (Frame.defect?_root h).2

/-- A step on such a page fails and changes nothing. -/
theorem Turn.step_of_root : t.step = .ok (.error page.missingRoot, t) := by
  have hsettle : t.settle = t := by
    simp [settle, Instance.unwind_of_root h hstack, Instance.waitDeadline?,
      Instance.waiting?_of_root hstack]
  simp only [step, hsettle, Instance.defect?_of_root h hstack]
  rfl

/-- A command that led to such a page is concluded with the same error. -/
theorem Turn.conclude_of_root : t.conclude = (.error page.missingRoot, t) := by
  simp [conclude, Instance.suspension?, Instance.waiting?_of_root hstack,
    Instance.unwind_of_root h hstack, Instance.defect?_of_root h hstack]

end

/-! ## Entering a page -/

/-- A common event puts the pages whose conditions hold on the call stack. -/
theorem Scene.stack_startCommonEvent {s : Scene} {event : EventId} {all overworld : Bool}
    {e : CommonEventDescriptor} {pages : List Page}
    (hevent : s.world.catalog.commonEvents.get? event = some e)
    (hpages : s.matchingPages e.pages = .ok pages) :
    ∃ s', s.startCommonEvent event all overworld = .ok s' ∧
      s'.run.stack = pages.foldl (fun st page => .root page :: st) s.run.stack := by
  have hstack := congrArg Instance.stack (foldl_push_withStack pages s.run s.run.stack)
  unfold startCommonEvent
  simp only [hevent, hpages]
  by_cases hask : (all && (!s.player.mapInstance.isNil || overworld)) = true
  · exact ⟨_, if_pos hask, hstack⟩
  · exact ⟨_, if_neg hask, hstack⟩

/-- The next step starts a common event, and a page is the last one of it whose conditions hold. -/
inductive Turn.Enters (t : Turn) (page : Page) : Prop
  | call {d : Deed} {event : EventId} {all overworld : Bool} {e : CommonEventDescriptor}
      {earlier : List Page} (deed : t.deed? = some d)
      (command : d.command = .startCommonEvent event all overworld)
      (described : t.world.catalog.commonEvents.get? event = some e)
      (selected : d.scene.matchingPages e.pages = .ok (earlier ++ [page])) : Enters t page

/-- A step that enters a page without its root list fails. -/
theorem Turn.step_of_enters {t : Turn} {page : Page} (hpage : page.isValid = false)
    (h : t.Enters page) : ∃ t', t.step = .ok (.error page.missingRoot, t') := by
  cases h with
  | @call d event all overworld e earlier hdeed hcommand hevent hpages =>
    rw [← (setting_of_deed? hdeed).1] at hevent
    obtain ⟨s, hs, hstack⟩ := Scene.stack_startCommonEvent hevent hpages
    have hexecute : d.scene.execute d.command = .ok s := by
      rw [hcommand]
      exact hs
    rw [List.foldl_append] at hstack
    let done : Turn := ⟨s.world.putPlayer t.run.player s.player, s.run⟩
    have hconclude : done.conclude = (.error page.missingRoot, done) :=
      conclude_of_root hpage hstack
    rw [step_eq_map_of_deed? hdeed, hexecute]
    exact ⟨_, congrArg Except.ok hconclude⟩

/-- Whoever comes to the page fails there: an execution that stands at its start, and one that enters
it. -/
structure Page.Stalls (page : Page) : Prop where
  started : ∀ (t : Turn) (rest : CallStack), t.run.stack = Frame.root page :: rest →
    t.step = .ok (.error page.missingRoot, t)
  entered : ∀ t : Turn, t.Enters page → ∃ t', t.step = .ok (.error page.missingRoot, t')

/-- Executions fail on the pages without root list, and on no others. -/
theorem Page.stalls_iff {page : Page} : page.Stalls ↔ page.validate ≠ .ok page := by
  constructor
  · intro hstalls hpage
    let t : Turn := ⟨World.lone (.fresh ⟨3⟩ "Ann" .nil 1 1), .start ⟨4⟩ ⟨5⟩ ⟨3⟩ page⟩
    have hstart : t.run.stack = [Frame.root page] := rfl
    obtain ⟨-, hfails⟩ := Instance.coherent_of_calls hpage hstart .refl
    cases (hfails _ _ t (World.hasValidEvents_lone _) (hstalls.started t [] rfl)).1
  · intro hpage
    have hroot : page.isValid = false := by
      simpa [Page.validate_eq_ok_iff] using hpage
    exact ⟨fun t rest => Turn.step_of_root hroot, fun t => Turn.step_of_enters hroot⟩

/-! ## Pages of files -/

/-- If executions never miss a list, then all pages of the set are valid. -/
theorem DescriptorSet.findsRoots_iff {d : DescriptorSet} :
    d.FindsRoots ↔ ∀ page ∈ d.pages, page.validate = .ok page := by
  refine ⟨?_, findsRoots_of_valid⟩
  intro hfinds page hpage
  by_contra hvalid
  let t : Turn := ⟨World.start {} d.catalog (.start 0) (.seeded 0), .start ⟨4⟩ ⟨5⟩ ⟨3⟩ page⟩
  have hstep := (Page.stalls_iff.mpr hvalid).started t [] rfl
  exact hfinds page (.inr hpage) t.run rfl t.run .refl t.world rfl _ _ t hstep

/-- What is read from a file has its roots: a page has, and so have all pages of common events, and
executions find them. -/
structure ReadsRoots (path : String) (content : Except FileError String) : Prop where
  page : ∀ page, Page.ofFile path content = .ok page → page.validate = .ok page
  events : ∀ d, DescriptorSet.ofFile path content = .ok d →
    (∀ page ∈ d.pages, page.validate = .ok page) ∧ d.FindsRoots

/-- What is read from a file has its roots if and only if the pages of common events in its text have
theirs: a page file is accepted only if its page has its root list, but a descriptor file whatever
pages it has. Executions that come to a page without root list fail there, and if there is none, they
find all lists. -/
theorem readsRoots_iff (path : String) (content : Except FileError String) :
    (ReadsRoots path content ↔ ∀ (text : String) (d : DescriptorSet), content = .ok text →
        ofText? text = some d → ∀ page ∈ d.pages, page.validate = .ok page) ∧
      (∀ page, Page.ofFile path content = .ok page ↔
        ∃ text, content = .ok text ∧ ofText? text = some page ∧ page.validate = .ok page) ∧
      ∀ d, (DescriptorSet.ofFile path content = .ok d ↔
          ∃ text, content = .ok text ∧ ofText? text = some d) ∧
        (d.FindsRoots ↔ ∀ page ∈ d.pages, page.validate = .ok page) ∧
        ∀ page ∈ d.pages, page.Stalls ↔ page.validate ≠ .ok page := by
  have haccepted : ∀ page, Page.ofFile path content = .ok page ↔
      ∃ text, content = .ok text ∧ ofText? text = some page ∧ page.validate = .ok page := by
    intro page
    simp [Page.ofFile_eq_ok_iff, Page.validate_eq_ok_iff]
  refine ⟨⟨?_, ?_⟩, haccepted, ?_⟩
  · intro hreads text d htext hset
    exact (hreads.events d (DescriptorSet.ofFile_eq_ok_iff.mpr ⟨text, htext, hset⟩)).1
  · intro hvalid
    constructor
    · intro page hpage
      obtain ⟨text, -, -, hroot⟩ := (haccepted page).mp hpage
      exact hroot
    · intro d hd
      obtain ⟨text, htext, hset⟩ := DescriptorSet.ofFile_eq_ok_iff.mp hd
      have hpages := hvalid text d htext hset
      exact ⟨hpages, DescriptorSet.findsRoots_of_valid hpages⟩
  · intro d
    exact ⟨DescriptorSet.ofFile_eq_ok_iff, DescriptorSet.findsRoots_iff,
      fun page _ => Page.stalls_iff⟩

/-! ### A toll without a script -/

/-- A page whose root list was never written. -/
def toll : Page := .draft ⟨1⟩ "toll" ⟨2⟩

/-- The descriptors of a common event with that page. -/
def tollSet : DescriptorSet :=
  { DescriptorSet.empty with commonEvents := [⟨⟨7⟩, "toll", [⟨.none, [], toll⟩]⟩] }

/-- A world with one player, in front of a page that starts the event. -/
def atGate : Turn where
  world := (World.start {} tollSet.catalog (.start 0) (.seeded 0)).addPlayer
    (.fresh ⟨3⟩ "Ann" .nil 1 1)
  run := .start ⟨4⟩ ⟨5⟩ ⟨3⟩
    ((Page.draft ⟨3⟩ "gate" ⟨4⟩).withRoot [.startCommonEvent ⟨7⟩ false false])

/-- The text of the descriptors is read as they are. -/
theorem ofText?_tollSet : ofText? (toJson tollSet).compact = some tollSet := by
  rw [ofText?, Json.scan?_compact (by decide)]
  rfl

/-- A file with them is accepted, and the execution of another page fails when it starts the
event. -/
theorem readsRoots_iff_toll :
    DescriptorSet.ofFile "events" (.ok (toJson tollSet).compact) = .ok tollSet ∧
      ¬ ReadsRoots "events" (.ok (toJson tollSet).compact) ∧ ¬ tollSet.FindsRoots ∧
        atGate.Enters toll ∧ ∃ t, atGate.step = .ok (.error toll.missingRoot, t) := by
  obtain ⟨hreads, -, hset⟩ := readsRoots_iff "events" (.ok (toJson tollSet).compact)
  obtain ⟨haccepted, hfinds, hstalls⟩ := hset tollSet
  have hmem : toll ∈ tollSet.pages := List.mem_singleton.mpr rfl
  have hinvalid : toll.validate ≠ .ok toll := by decide
  have henters : atGate.Enters toll :=
    .call rfl rfl rfl (show Scene.matchingPages _ _ = .ok ([] ++ [toll]) from rfl)
  refine ⟨haccepted.mpr ⟨_, rfl, ofText?_tollSet⟩, ?_, ?_, henters, ?_⟩
  · intro h
    exact hinvalid (hreads.mp h _ tollSet rfl ofText?_tollSet toll hmem)
  · intro h
    exact hinvalid (hfinds.mp h toll hmem)
  · exact ((hstalls toll hmem).mpr hinvalid).entered atGate henters

/-- The page that is read with them has no root. -/
theorem not_readsRoots_toll :
    ¬ ∀ (path : String) (content : Except FileError String), ReadsRoots path content := by
  intro h
  have hread : DescriptorSet.ofFile "events" (.ok (toJson tollSet).compact) = .ok tollSet :=
    DescriptorSet.ofFile_eq_ok_iff.mpr ⟨_, rfl, ofText?_tollSet⟩
  have hpages := ((h _ _).events tollSet hread).1
  exact absurd (hpages toll (List.mem_singleton.mpr rfl)) (by decide)

end EventScript
