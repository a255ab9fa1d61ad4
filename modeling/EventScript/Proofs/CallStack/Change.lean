import EventScript.Proofs.CallStack.Replacement
import EventScript.Proofs.Guarded

/-!
# Changes of the call stack

A command does one thing to the call stack: it keeps it, lets the running frame wait, enters one of
its branches, calls the pages of a common event, jumps to a label of the running page, or leaves
everything. Which one, and everything else a command does, does not depend on the call stack.
-/

namespace EventScript

/-- What becomes of the call stack when a script changes a scene. -/
inductive StackChange where
  /-- Nothing. -/
  | keep
  /-- The running frame waits. -/
  | suspend (what : Suspension)
  /-- A list of the running page comes first. -/
  | enter (list : BranchId)
  /-- The root lists of pages come first, that of the last page before all others. -/
  | call (pages : List Page)
  /-- The frames of a path replace those of the running page. -/
  | jump (path : List Frame)
  /-- No frame is left. -/
  | leave

namespace StackChange

/-- The call stack after a change, for a running frame on a page. -/
def apply (page : Page) : StackChange → CallStack → CallStack
  | keep, st => st
  | suspend _, [] => []
  | suspend what, top :: rest => top.suspend what :: rest
  | enter list, st => .start page list 0 :: st
  | call pages, st => pages.foldl (fun st page => .root page :: st) st
  | jump path, st => st.replacePage path
  | leave, _ => []

end StackChange

/-- The frames after pages were called. -/
theorem CallStack.mem_call {pages : List Page} {s : CallStack} {f : Frame}
    (h : f ∈ pages.foldl (fun st page => .root page :: st) s) :
    f ∈ s ∨ ∃ page ∈ pages, f = .root page := by
  induction pages generalizing s with
  | nil => exact .inl h
  | cons page pages ih =>
    rcases ih h with h | ⟨p, hp, rfl⟩
    · rcases List.mem_cons.mp h with rfl | h
      · exact .inr ⟨page, List.mem_cons_self, rfl⟩
      · exact .inl h
    · exact .inr ⟨p, List.mem_cons_of_mem _ hp, rfl⟩

/-- Calling pages puts one frame for each of them on the call stack. -/
theorem CallStack.length_call (pages : List Page) (s : CallStack) :
    (pages.foldl (fun st page => .root page :: st) s).length = s.length + pages.length := by
  induction pages generalizing s with
  | nil => rfl
  | cons page pages ih =>
    rw [List.foldl_cons, ih, List.length_cons, List.length_cons]
    omega

/-- The lists that the response to what is asked can lead to. -/
def Suspension.branches : Suspension → List BranchId
  | dialogue (.options branches) => branches
  | dialogue (.input _ branches) => branches
  | questOffer _ branches => branches
  | _ => []

/-- A command that waits for the end of a route waits for that of the entity it names. -/
def Command.Watches (s : Scene) (c : Command) (what : Suspension) : Prop :=
  ∀ route, what = .route route →
    ∃ target, c = .waitForRoute target ∧ s.routeOf? target = some route

/-- The changes of the call stack that a command may make in a scene. -/
inductive Command.Permits (s : Scene) (c : Command) : StackChange → Prop
  | keep : Permits s c .keep
  | suspend {what : Suspension} (branches : what.branches ⊆ c.branches)
      (watches : c.Watches s what) : Permits s c (.suspend what)
  | enter {list : BranchId} (branch : list ∈ c.branches) (registered : s.page.hasList list) :
      Permits s c (.enter list)
  | call {event : EventId} {all overworld : Bool} {d : CommonEventDescriptor} {pages : List Page}
      (command : c = .startCommonEvent event all overworld)
      (described : s.world.catalog.commonEvents.get? event = some d)
      (selected : ∀ page ∈ pages, ∃ e ∈ d.pages, e.page = page) : Permits s c (.call pages)
  | jump {label : String} {path : List Frame} (command : c = .goToLabel label)
      (found : s.page.resolveLabel? label = some path) : Permits s c (.jump path)
  | leave (command : c = .exitEventProcessing) : Permits s c .leave

/-- The changes of the call stack that a response to what is asked may make in a scene. -/
inductive Scene.Answers (s : Scene) (asked : Suspension) : StackChange → Prop
  | keep : Answers s asked .keep
  | enter {list : BranchId} (branch : list ∈ asked.branches) (registered : s.page.hasList list) :
      Answers s asked (.enter list)

/-- An action, given for every call stack, that comes to the same on all of them: the same fault, or
the same scene with the same change of the call stack. -/
inductive StackFree (page : Page) (allowed : StackChange → Prop)
    (act : CallStack → Guarded Scene) : Prop
  | fault (f : Fault) (same : ∀ st, act st = .error f)
  | change (s : Scene) (m : StackChange) (permitted : allowed m)
      (same : ∀ st, act st = .ok (s.withStack (m.apply page st)))

namespace StackFree

variable {page : Page} {allowed : StackChange → Prop}

/-- A result on one call stack is that of one of the changes, and tells the results on all
others. -/
theorem result {act : CallStack → Guarded Scene} (h : StackFree page allowed act)
    {st₀ : CallStack} {s' : Scene} (hs : act st₀ = .ok s') :
    ∃ m, allowed m ∧ s'.run.stack = m.apply page st₀ ∧
      ∀ st, act st = .ok (s'.withStack (m.apply page st)) := by
  cases h with
  | fault f same =>
    rw [same st₀] at hs
    cases hs
  | change s m permitted same =>
    rw [same st₀] at hs
    cases hs
    exact ⟨m, permitted, rfl, same⟩

/-- An action that keeps the call stack. -/
theorem keep (hkeep : allowed .keep) {act : CallStack → Scene} (s : Scene)
    (h : ∀ st, act st = s.withStack st) : StackFree page allowed fun st => .ok (act st) :=
  .change s .keep hkeep fun st => congrArg Except.ok (h st)

/-- An action that keeps the call stack and may end in a fault. -/
theorem keepGuarded (hkeep : allowed .keep) {act : CallStack → Guarded Scene} (s : Guarded Scene)
    (h : ∀ st, act st = s.map fun s => s.withStack st) : StackFree page allowed act := by
  cases s with
  | error f => exact .fault f h
  | ok s => exact .change s .keep hkeep h

end StackFree

namespace Scene

variable (s : Scene)

/-! ## Waiting and branching -/

/-- Suspending is a change of the call stack. -/
theorem suspend_withStack (st : CallStack) (what : Suspension) :
    (s.withStack st).suspend what =
      s.withStack ((StackChange.suspend what).apply s.page st) := by
  cases st <;> rfl

/-- A command that ends by waiting in a scene `s₁` on its own page. -/
theorem stackFree_suspend {c : Command} {act : CallStack → Scene} (s₁ : Scene)
    (hpage : s₁.page = s.page) (what : Suspension) (hbranches : what.branches ⊆ c.branches)
    (hwatches : c.Watches s what) (h : ∀ st, act st = (s₁.withStack st).suspend what) :
    StackFree s.page (c.Permits s) fun st => .ok (act st) := by
  refine .change s₁ (.suspend what) (.suspend hbranches hwatches) fun st => ?_
  rw [h, suspend_withStack, hpage]

/-- Entering a branch keeps the call stack or puts a registered list of the running page first. -/
theorem stackFree_enterBranch {allowed : StackChange → Prop} (hkeep : allowed .keep)
    (branches : List BranchId) (position : Nat)
    (henter : ∀ b ∈ branches, s.page.hasList b → allowed (.enter b)) :
    StackFree s.page allowed fun st => .ok ((s.withStack st).enterBranch branches position) := by
  unfold enterBranch
  cases hb : branches[position]? with
  | none => exact .keep hkeep s fun _ => rfl
  | some b =>
    by_cases hlist : s.page.hasList b
    · refine .change s (.enter b) (henter b (List.mem_of_getElem? hb) hlist) fun st => ?_
      simp only [page_withStack, hlist, ite_true]
      rfl
    · refine .keep hkeep s fun _ => ?_
      simp only [page_withStack, hlist, ite_false, Bool.false_eq_true]

/-- A command that ends by branching in a scene `s₁` on its own page. -/
theorem stackFree_branchOn {c : Command} {act : CallStack → Scene} (s₁ : Scene)
    (hpage : s₁.page = s.page) (success : Bool)
    (h : ∀ st, act st = (s₁.withStack st).branchOn success c.branches) :
    StackFree s.page (c.Permits s) fun st => .ok (act st) := by
  simp only [h, ← hpage]
  refine s₁.stackFree_enterBranch .keep c.branches _ fun b hb hlist => ?_
  rw [hpage] at hlist
  exact .enter hb hlist

/-! ## Commands that branch -/

theorem inputVariable_stackFree (title text : String) (target : VariableRef)
    (bs : List BranchId) :
    StackFree s.page ((Command.inputVariable title text target bs).Permits s) fun st =>
      .ok ((s.withStack st).inputVariable title text target bs) := by
  simp only [inputVariable, world_withStack, expand_withStack]
  cases s.world.catalog.vars.get? target with
  | none =>
    refine s.stackFree_enterBranch .keep bs 1 fun b hb hlist => ?_
    exact .enter hb hlist
  | some d =>
    exact s.stackFree_suspend
      (s.tell (.inputVariable s.run.id (s.expand title) (s.expand text) d.dataType)) rfl
      (.dialogue (.input target bs)) (List.Subset.refl bs) nofun fun _ => rfl

theorem conditionalBranch_stackFree (condition : Condition) (bs : List BranchId) :
    StackFree s.page ((Command.conditionalBranch condition bs).Permits s) fun st =>
      (s.withStack st).conditionalBranch condition bs := by
  simp only [conditionalBranch, meets_withStack]
  cases s.perspective.meets condition with
  | error f => exact .fault f fun _ => rfl
  | ok met =>
    cases met with
    | true => exact s.stackFree_branchOn s rfl true fun _ => rfl
    | false =>
      cases hels : condition.elseEnabled with
      | true => exact s.stackFree_branchOn s rfl false fun _ => rfl
      | false => exact .keep .keep s fun _ => rfl

theorem branchOnSpells_stackFree {c : Command} (book : Option Spellbook) :
    StackFree s.page (c.Permits s) fun st =>
      .ok ((s.withStack st).branchOnSpells book c.branches) := by
  cases book with
  | none => exact s.stackFree_branchOn s rfl false fun _ => rfl
  | some book =>
    exact s.stackFree_branchOn ((s.withPlayer { s.player with spells := book }).announce .spells)
      rfl true fun _ => rfl

theorem changeSpells_stackFree (spell : SpellId) (add bound : Bool) (bs : List BranchId) :
    StackFree s.page ((Command.changeSpells spell add bound bs).Permits s) fun st =>
      .ok ((s.withStack st).changeSpells spell add bound bs) := by
  cases add with
  | true =>
    exact s.branchOnSpells_stackFree (c := .changeSpells spell true bound bs)
      (if (s.world.catalog.spells.get? spell).isSome then s.player.spells.learn? spell else none)
  | false =>
    exact s.branchOnSpells_stackFree (c := .changeSpells spell false bound bs)
      (if (s.world.catalog.spells.get? spell).any SpellDescriptor.bound && !bound then none
      else s.player.spells.forget? spell)

theorem branchOnItems_stackFree {c : Command} (r : Bool × Scene) (hpage : r.2.page = s.page)
    {act : CallStack → Bool × Scene} (h : ∀ st, act st = (r.1, r.2.withStack st)) :
    StackFree s.page (c.Permits s) fun st =>
      .ok ((if (act st).1 then (act st).2.announce .inventory else (act st).2).branchOn (act st).1
        c.branches) := by
  obtain ⟨success, s₁⟩ := r
  simp only [h]
  cases success with
  | true => exact s.stackFree_branchOn (s₁.announce .inventory) hpage true fun _ => rfl
  | false => exact s.stackFree_branchOn s₁ hpage false fun _ => rfl

theorem putItems_page (d : ItemDescriptor) (quantity : Int64) :
    (s.putItems d quantity).page = s.page := by
  unfold putItems
  split <;> rfl

theorem giveItems_page (d : ItemDescriptor) (quantity : Int64) (handling : ItemHandling) :
    (s.giveItems d quantity handling).2.page = s.page := by
  cases handling with
  | normal =>
    simp only [giveItems]
    split
    · rfl
    · exact s.putItems_page ..
  | overflow =>
    simp only [giveItems]
    split <;> exact s.putItems_page ..
  | upTo => exact s.putItems_page ..

theorem takeItems_page (item : ItemId) (quantity : Int64) (handling : ItemHandling) :
    (s.takeItems item quantity handling).2.page = s.page := by
  cases handling with
  | upTo => rfl
  | normal | overflow =>
    simp only [takeItems]
    split <;> rfl

theorem changeItems_stackFree (item : ItemId) (add : Bool) (quantity : Quantity)
    (handling : ItemHandling) (bs : List BranchId) :
    StackFree s.page ((Command.changeItems item add quantity handling bs).Permits s) fun st =>
      .ok ((s.withStack st).changeItems item add quantity handling bs) := by
  have hamount (st : CallStack) : (s.withStack st).itemAmount? quantity = s.itemAmount? quantity :=
    by cases quantity <;> rfl
  simp only [changeItems, world_withStack, hamount]
  cases s.itemAmount? quantity with
  | none => exact s.stackFree_branchOn s rfl true fun _ => rfl
  | some amount =>
    cases s.world.catalog.items.get? item with
    | none => exact s.stackFree_branchOn s rfl false fun _ => rfl
    | some d =>
      cases add with
      | true => exact s.branchOnItems_stackFree _ (s.giveItems_page d amount handling) fun st =>
          s.giveItems_withStack st d amount handling
      | false => exact s.branchOnItems_stackFree _ (s.takeItems_page item amount handling) fun st =>
          s.takeItems_withStack st item amount handling

theorem startEvent?_page (event : Option EventId) : (s.startEvent? event).page = s.page := by
  cases event <;> rfl

theorem beginQuest_page {quest : QuestId} {r : Bool × Scene} (h : s.beginQuest quest = .ok r) :
    r.2.page = s.page := by
  obtain ⟨startable, -, h⟩ := Guarded.bind_eq_ok.mp h
  split at h
  · split at h
    · split at h
      · cases h
        exact startEvent?_page _ _
      · cases h
        rfl
    · cases h
      rfl
  · cases h
    rfl

/-- Starting a quest and branching on whether it was started. -/
theorem beginQuest_stackFree {allowed : StackChange → Prop} (hkeep : allowed .keep)
    (quest : QuestId) (bs : List BranchId)
    (henter : ∀ b ∈ bs, s.page.hasList b → allowed (.enter b)) :
    StackFree s.page allowed fun st => do
      let (started, s) ← (s.withStack st).beginQuest quest
      return s.branchOn started bs := by
  simp only [beginQuest_withStack]
  cases hbegin : s.beginQuest quest with
  | error f => exact .fault f fun _ => rfl
  | ok r =>
    have hpage := s.beginQuest_page hbegin
    rw [← hpage] at henter ⊢
    exact r.2.stackFree_enterBranch hkeep bs (if r.1 then 0 else 1) henter

theorem startQuest_stackFree (quest : QuestId) (offer : Bool) (bs : List BranchId) :
    StackFree s.page ((Command.startQuest quest offer bs).Permits s) fun st =>
      (s.withStack st).startQuest quest offer bs := by
  have hbegin := s.beginQuest_stackFree (.keep : (Command.startQuest quest offer bs).Permits s _)
    quest bs fun b hb hlist => .enter hb hlist
  unfold startQuest
  simp only [canStart_withStack]
  cases offer with
  | false => exact hbegin
  | true =>
    cases s.perspective.canStart quest with
    | error f => exact .fault f fun _ => rfl
    | ok startable =>
      cases startable with
      | false => exact hbegin
      | true =>
        exact s.stackFree_suspend (s.tell (.questOffer s.run.id quest)) rfl (.questOffer quest bs)
          (List.Subset.refl bs) nofun fun _ => rfl

theorem changeName_stackFree (source : VariableId) (bs : List BranchId) :
    StackFree s.page ((Command.changeName source bs).Permits s) fun st =>
      .ok ((s.withStack st).changeName source bs) := by
  have hname (st : CallStack) : (s.withStack st).nameIn source = s.nameIn source := rfl
  simp only [changeName, hname, world_withStack, player_withStack]
  split
  · exact s.stackFree_branchOn
      ((s.withPlayer { s.player with name := s.nameIn source }).announce .name) rfl true
      fun _ => rfl
  · exact s.stackFree_branchOn s rfl false fun _ => rfl

theorem createGuild_stackFree (source : VariableId) (bs : List BranchId) :
    StackFree s.page ((Command.createGuild source bs).Permits s) fun st =>
      .ok ((s.withStack st).createGuild source bs) := by
  have hname (st : CallStack) : (s.withStack st).nameIn source = s.nameIn source := rfl
  have hrefusal (st : CallStack) (name : String) :
      (s.withStack st).guildRefusal? name = s.guildRefusal? name := rfl
  simp only [createGuild, hname, hrefusal]
  cases s.guildRefusal? (s.nameIn source) with
  | some refusal => exact s.stackFree_branchOn (s.chat refusal .red .guild) rfl false fun _ => rfl
  | none => exact s.stackFree_branchOn (s.foundGuild (s.nameIn source)) rfl true fun _ => rfl

theorem refuseDisbanding_stackFree {c : Command} :
    StackFree s.page (c.Permits s) fun st => .ok ((s.withStack st).refuseDisbanding c.branches) :=
  s.stackFree_branchOn (s.chat "Only the guild leader can disband the guild." .red .guild) rfl
    false fun _ => rfl

theorem disbandGuild_stackFree (bs : List BranchId) :
    StackFree s.page ((Command.disbandGuild bs).Permits s) fun st =>
      .ok ((s.withStack st).disbandGuild bs) := by
  simp only [disbandGuild, world_withStack, player_withStack]
  cases s.player.guild with
  | none => exact s.stackFree_branchOn s rfl false fun _ => rfl
  | some id =>
    dsimp only
    cases s.world.guild? id with
    | none => exact s.refuseDisbanding_stackFree
    | some g =>
      by_cases hleader : g.leader = s.player.id
      · simp only [hleader, ite_true]
        exact s.stackFree_branchOn (s.dissolveGuild id g.members) rfl true fun _ => rfl
      · simp only [hleader, ite_false]
        exact s.refuseDisbanding_stackFree

/-! ## Commands that move elsewhere -/

/-- The pages of a common event that are started do not depend on the call stack. -/
theorem matchingPages_withStack (st : CallStack) (ds : List CommonEventPage) :
    (s.withStack st).matchingPages ds = s.matchingPages ds := by
  induction ds with
  | nil => rfl
  | cons d rest ih =>
    simp only [matchingPages, ih]
    rfl

/-- Only pages of the common event are started. -/
theorem matchingPages_subset {ds : List CommonEventPage} {pages : List Page}
    (h : s.matchingPages ds = .ok pages) : ∀ page ∈ pages, ∃ d ∈ ds, d.page = page := by
  induction ds generalizing pages with
  | nil =>
    cases h
    intro page hp
    cases hp
  | cons d rest ih =>
    obtain ⟨met, -, h⟩ := Guarded.bind_eq_ok.mp h
    obtain ⟨later, hrest, h⟩ := Guarded.bind_eq_ok.mp h
    cases h
    have hlater : ∀ page ∈ later, ∃ e ∈ d :: rest, e.page = page := by
      intro page hp
      obtain ⟨e, he, heq⟩ := ih hrest page hp
      exact ⟨e, List.mem_cons_of_mem d he, heq⟩
    split
    · intro page hp
      rcases List.mem_cons.mp hp with rfl | hp
      · exact ⟨d, List.mem_cons_self, rfl⟩
      · exact hlater page hp
    · exact hlater

/-- Pushing the root frames of pages only changes the frames. -/
theorem foldl_push_withStack (pages : List Page) (i : Instance) (st : CallStack) :
    pages.foldl (fun r page => r.push (.root page)) (i.withStack st) =
      i.withStack (pages.foldl (fun st page => .root page :: st) st) := by
  induction pages generalizing st with
  | nil => rfl
  | cons page rest ih => exact ih (.root page :: st)

theorem startCommonEvent_stackFree (event : EventId) (all overworld : Bool) :
    StackFree s.page ((Command.startCommonEvent event all overworld).Permits s) fun st =>
      (s.withStack st).startCommonEvent event all overworld := by
  simp only [startCommonEvent, world_withStack, matchingPages_withStack]
  cases hevent : s.world.catalog.commonEvents.get? event with
  | none => exact .keep .keep s fun _ => rfl
  | some d =>
    dsimp only
    cases hpages : s.matchingPages d.pages with
    | error f => exact .fault f fun _ => rfl
    | ok pages =>
      have hcall := Command.Permits.call (c := .startCommonEvent event all overworld) rfl hevent
        (s.matchingPages_subset hpages)
      by_cases hask : (all && (!s.player.mapInstance.isNil || overworld)) = true
      · refine .change (s.askNeighbours event) (.call pages) hcall fun st => ?_
        simp only [foldl_push_withStack, hask, player_withStack, run_withStack]
        rfl
      · refine .change s (.call pages) hcall fun st => ?_
        simp only [foldl_push_withStack, hask, player_withStack, run_withStack]
        rfl

theorem goToLabel_stackFree (label : String) :
    StackFree s.page ((Command.goToLabel label).Permits s) fun st =>
      .ok ((s.withStack st).goToLabel label) := by
  simp only [goToLabel, page_withStack]
  cases hpath : s.page.resolveLabel? label with
  | none => exact .keep .keep s fun _ => rfl
  | some path => exact .change s (.jump path) (.jump rfl hpath) fun _ => rfl

/-! ## Windows, pictures and fades -/

theorem showPicture_stackFree (file : String) (size : UInt32) (clickable : Bool)
    (hideTime : UInt64) (waits : Bool) :
    StackFree s.page ((Command.showPicture file size clickable hideTime waits).Permits s) fun st =>
      .ok ((s.withStack st).showPicture file size clickable hideTime waits) := by
  simp only [showPicture]
  split
  · exact s.stackFree_suspend (s.tell (.showPicture file size clickable hideTime (some s.run.id)))
      rfl .picture (List.nil_subset _) nofun fun _ => rfl
  · exact .keep .keep (s.tell (.showPicture file size clickable hideTime none)) fun _ => rfl

theorem screenFade_stackFree (fade : FadeType) (waits : Bool) (duration : UInt64) :
    StackFree s.page ((Command.screenFade fade waits duration).Permits s) fun st =>
      .ok ((s.withStack st).screenFade fade waits duration) := by
  simp only [screenFade, world_withStack, player_withStack]
  by_cases honline : s.world.isOnline s.player.id = true
  · simp only [honline, ite_true]
    cases waits with
    | true =>
      exact s.stackFree_suspend ((s.withPlayer { s.player with activity.fading := true }).tell
        (.screenFade fade true duration)) rfl .fade (List.nil_subset _) nofun fun _ => rfl
    | false =>
      exact .keep .keep ((s.withPlayer { s.player with activity.fading := false }).tell
        (.screenFade fade false duration)) fun _ => rfl
  · simp only [honline]
    exact .keep .keep s fun _ => rfl

/-- Opening a window waits for it to be closed. -/
theorem openSession_stackFree {c : Command} (kind : SessionKind) (name : String) (guild : Bool) :
    StackFree s.page (c.Permits s) fun st =>
      .ok ((s.withStack st).openSession kind name guild) :=
  s.stackFree_suspend ((s.withPlayer { s.player with activity.openSession := some kind }).tell
    (.openSession kind name guild)) rfl (.session kind) (List.nil_subset _) nofun fun _ => rfl

theorem openShop_stackFree {c : Command} (shop : ShopId) :
    StackFree s.page (c.Permits s) fun st => .ok ((s.withStack st).openShop shop) := by
  simp only [openShop, world_withStack]
  cases s.world.catalog.shops.get? shop with
  | none => exact .keep .keep s fun _ => rfl
  | some d => exact s.openSession_stackFree ..

theorem openCraftingTable_stackFree {c : Command} (table : CraftingTableId) :
    StackFree s.page (c.Permits s) fun st => .ok ((s.withStack st).openCraftingTable table) := by
  simp only [openCraftingTable, world_withStack]
  cases s.world.catalog.craftingTables.get? table with
  | none => exact .keep .keep s fun _ => rfl
  | some d => exact s.openSession_stackFree ..

theorem openGuildBank_stackFree {c : Command} :
    StackFree s.page (c.Permits s) fun st => .ok ((s.withStack st).openGuildBank) := by
  simp only [openGuildBank, world_withStack, player_withStack]
  cases s.world.guildOf? s.player with
  | none => exact .keep .keep s fun _ => rfl
  | some g => exact s.openSession_stackFree ..

theorem waitForRoute_stackFree (target : EventId) :
    StackFree s.page ((Command.waitForRoute target).Permits s) fun st =>
      .ok ((s.withStack st).waitForRoute target) := by
  have hroute (st : CallStack) : (s.withStack st).routeOf? target = s.routeOf? target := rfl
  simp only [waitForRoute, hroute]
  cases hfound : s.routeOf? target with
  | none => exact .keep .keep s fun _ => rfl
  | some route =>
    have hwatches : (Command.waitForRoute target).Watches s (.route route) := by
      intro other hother
      cases hother
      exact ⟨target, rfl, hfound⟩
    exact s.stackFree_suspend s rfl (.route route) (List.nil_subset _) hwatches fun _ => rfl

/-! ## All commands -/

/-- No command depends on the frames of the call stack, and each makes one of the changes of the
call stack that it permits. -/
theorem execute_stackFree (c : Command) :
    StackFree s.page (c.Permits s) fun st => (s.withStack st).execute c := by
  cases c with
  | showText text face =>
    exact s.stackFree_suspend (s.tell (.showText s.run.id (s.expand text) face)) rfl
      (.dialogue .text) (List.nil_subset _) nofun fun st => by
        simp only [showText, expand_withStack]; rfl
  | showOptions text face options bs =>
    exact s.stackFree_suspend
      (s.tell (.showOptions s.run.id (s.expand text) face (options.map s.expand))) rfl
      (.dialogue (.options bs)) (List.Subset.refl bs) nofun fun st => by
        simp only [showOptions, expand_withStack]; rfl
  | inputVariable title text target bs => exact s.inputVariable_stackFree ..
  | addChatboxText => exact .keep .keep _ fun st => s.addChatboxText_withStack st ..
  | setVariable => exact .keep .keep _ fun st => s.setVariable_withStack st ..
  | setSelfSwitch => exact .keep .keep _ fun st => s.setSelfSwitch_withStack st ..
  | conditionalBranch => exact s.conditionalBranch_stackFree ..
  | exitEventProcessing => exact .change s .leave (.leave rfl) fun _ => rfl
  | label => exact .keep .keep s fun _ => rfl
  | goToLabel => exact s.goToLabel_stackFree _
  | startCommonEvent => exact s.startCommonEvent_stackFree ..
  | restoreHp amount => exact .keepGuarded .keep _ fun st => s.restoreVital_withStack st ..
  | restoreMp amount => exact .keepGuarded .keep _ fun st => s.restoreVital_withStack st ..
  | levelUp => exact .keep .keep _ fun st => s.levelUp_withStack st
  | giveExperience => exact .keep .keep _ fun st => s.giveExperience_withStack st ..
  | changeLevel level => exact .keep .keep (s.changeLevel level) fun _ => rfl
  | changeSpells => exact s.changeSpells_stackFree ..
  | changeItems => exact s.changeItems_stackFree ..
  | equipItem => exact .keep .keep _ fun st => s.equipItem_withStack st ..
  | changeSprite sprite =>
    exact .keep .keep (s.changeLooks fun p => { p with sprite := sprite }) fun _ => rfl
  | changeFace face =>
    exact .keep .keep (s.changeLooks fun p => { p with face := face }) fun _ => rfl
  | changeGender gender =>
    exact .keep .keep (s.changeLooks fun p => { p with gender := gender }) fun _ => rfl
  | changeNameColor => exact .keep .keep _ fun st => s.changeNameColor_withStack st ..
  | changePlayerLabel => exact .keep .keep _ fun st => s.changeLabel_withStack st ..
  | changePlayerColor color =>
    exact .keep .keep (s.changeLooks fun p => { p with color := color }) fun _ => rfl
  | setAccess => exact .keep .keep _ fun st => s.setAccess_withStack st _
  | warp => exact .keep .keep _ fun st => s.warp_withStack st ..
  | setMoveRoute => exact .keep .keep _ fun st => s.setMoveRoute_withStack st _
  | waitForRoute => exact s.waitForRoute_stackFree _
  | spawnNpc => exact .keep .keep _ fun st => s.spawnNpc_withStack st ..
  | despawnNpcs => exact .keep .keep _ fun st => s.despawnNpcs_withStack st
  | playAnimation => exact .keep .keep _ fun st => s.playAnimation_withStack st ..
  | holdPlayer => exact .keep .keep _ fun st => s.holdPlayer_withStack st
  | releasePlayer => exact .keep .keep _ fun st => s.releasePlayer_withStack st
  | hidePlayer => exact .keep .keep (s.setHidden true) fun _ => rfl
  | showPlayer => exact .keep .keep (s.setHidden false) fun _ => rfl
  | playBgm file => exact .keep .keep (s.tell (.playMusic file)) fun _ => rfl
  | fadeoutBgm => exact .keep .keep (s.tell .fadeMusic) fun _ => rfl
  | playSound file => exact .keep .keep (s.tell (.playSound file)) fun _ => rfl
  | stopSounds => exact .keep .keep (s.tell .stopSounds) fun _ => rfl
  | showPicture => exact s.showPicture_stackFree ..
  | hidePicture => exact .keep .keep (s.tell .hidePicture) fun _ => rfl
  | wait time =>
    exact s.stackFree_suspend s rfl (.timer (satAddUnsigned s.world.now time))
      (List.nil_subset _) nofun fun _ => rfl
  | openBank => exact s.openSession_stackFree ..
  | openShop => exact s.openShop_stackFree _
  | openCraftingTable => exact s.openCraftingTable_stackFree _
  | setClass => exact .keep .keep _ fun st => s.setClass_withStack st _
  | startQuest => exact s.startQuest_stackFree ..
  | completeQuestTask => exact .keep .keep _ fun st => s.completeQuestTask_withStack st ..
  | endQuest => exact .keep .keep _ fun st => s.endQuest_withStack st ..
  | changeName => exact s.changeName_stackFree ..
  | createGuild => exact s.createGuild_stackFree ..
  | disbandGuild => exact s.disbandGuild_stackFree _
  | openGuildBank => exact s.openGuildBank_stackFree
  | setGuildBankSlots => exact .keep .keep _ fun st => s.setGuildBankSlots_withStack st _
  | resetStatPointAllocations => exact .keep .keep s.resetStatAllocations fun _ => rfl
  | castSpellOn => exact .keep .keep _ fun st => s.castSpellOn_withStack st ..
  | screenFade => exact s.screenFade_stackFree ..
  | unsupported => exact .keep .keep s fun _ => rfl

/-! ## All responses -/

theorem takeInput_stackFree (target : VariableRef) (text : String) (bs : List BranchId) :
    StackFree s.page (s.Answers (.dialogue (.input target bs))) fun st =>
      .ok ((s.withStack st).takeInput target text bs) := by
  simp only [takeInput, world_withStack]
  cases (s.world.catalog.vars.get? target).bind fun d => Value.parse? d.dataType text with
  | none => exact s.stackFree_enterBranch .keep bs 1 fun _ hb hlist => .enter hb hlist
  | some value =>
    let s₁ : Scene := { s with toSetting := (s.toSetting.setValue target value).2 }
    exact s₁.stackFree_enterBranch .keep bs 0 fun _ hb hlist => .enter hb hlist

/-- No response depends on the frames of the call stack, and each keeps it or enters a branch of
what was asked. -/
theorem resume_stackFree (asked : Suspension) (response : Response) :
    StackFree s.page (s.Answers asked) fun st => (s.withStack st).resume asked response := by
  have hkeep : StackFree s.page (s.Answers asked) fun st => .ok (s.withStack st) :=
    .keep .keep s fun _ => rfl
  have henter (position : Nat) : StackFree s.page (s.Answers asked) fun st =>
      .ok ((s.withStack st).enterBranch asked.branches position) :=
    s.stackFree_enterBranch .keep asked.branches position fun _ hb hlist => .enter hb hlist
  cases asked with
  | dialogue prompt =>
    cases prompt with
    | text => exact hkeep
    | options bs =>
      cases response with
      | option choice => exact henter choice.toNat
      | _ => exact hkeep
    | input target bs =>
      cases response with
      | input text => exact s.takeInput_stackFree target text bs
      | cancel => exact henter 1
      | _ => exact hkeep
  | questOffer quest bs =>
    cases response with
    | questOffer accepted =>
      cases accepted with
      | true => exact s.beginQuest_stackFree .keep quest bs fun _ hb hlist => .enter hb hlist
      | false => exact henter 1
    | _ => exact hkeep
  | _ => exact hkeep

end Scene

end EventScript
