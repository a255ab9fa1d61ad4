import EventScript.Proofs.Guarded
import EventScript.Proofs.Table
import EventScript.Scheduler

/-!
# The order of descriptors

The descriptors of a game are kept by what they describe, so it makes no difference in which order
they are written down. Two things look through all values of a table instead: the search for the
variable that a text names, and the choice of the common events that a trigger starts. Both are told
here for every order in which the values may be listed; the ascending order is the one of tables.

A trigger starts the same events in the same order, as what is chosen is sorted afterwards. The
search takes the first variable that goes by the name, so it depends on the order as soon as two of
them do, and texts with that name do so with it. Nothing keeps two variables of a scope from having
the same text key.
-/

namespace EventScript

open Scheduler (firstPage? triggeredPages launchAll)

/-! ## Listings -/

/-- Whether texts can refer to a variable of a scope by a name. -/
def VariableDescriptor.goesBy (d : VariableDescriptor) (scope : Scope) (name : String) : Bool :=
  d.scope == scope && !d.textId.isEmpty && Text.eqIgnoreCase d.textId name

/-- An order in which the variables and the common events of a catalog are looked through. -/
structure Listing where
  vars : List VariableDescriptor
  commonEvents : List CommonEventDescriptor

namespace Listing

/-- The order of tables. -/
def ascending (c : Catalog) : Listing := ⟨c.vars.values, c.commonEvents.values⟩

/-- An order of all that a catalog has. -/
structure Lists (l : Listing) (c : Catalog) : Prop where
  vars : l.vars.Perm c.vars.values
  commonEvents : l.commonEvents.Perm c.commonEvents.values

/-- The first variable of a scope that goes by a name. -/
def variableByTextId? (l : Listing) (scope : Scope) (name : String) : Option VariableDescriptor :=
  l.vars.find? fun d => d.goesBy scope name

end Listing

/-- What a part of a text stands for when variables are looked through in some order. -/
def TextPiece.valueInOrder (l : Listing) (v : Perspective) : TextPiece → String
  | braced (.variableText scope) name =>
    match l.variableByTextId? scope name with
    | some d => ((v.world.stored? v.player ⟨scope, d.id⟩).getD (.zero d.dataType)).text
    | none => written (braced (.variableText scope) name)
  | piece => piece.value v

/-- A text with its tokens replaced, when variables are looked through in some order. -/
def Perspective.expandInOrder (l : Listing) (v : Perspective) (text : String) : String :=
  String.join ((TextPiece.split text).map (TextPiece.valueInOrder l v))

/-- Whether the event of a page is the one of another page or comes before it. -/
def Scheduler.inOrder (a b : EventId × Page) : Bool := decide (a.1.value.toNat ≤ b.1.value.toNat)

/-- Start all common events that listen for a trigger, when common events are looked through in some
order. Those that are chosen are sorted before any of them is started. -/
def Scheduler.triggerInOrder (l : Listing) (s : Scheduler) (player : PlayerId) (trigger : Trigger) :
    Guarded (Except SchedulerError (List InstanceId × Scheduler)) := do
  match s.world.player? player with
  | none => return .error (.unknownPlayer player)
  | some p =>
    let pages ← triggeredPages ⟨s.world, p, none⟩ trigger l.commonEvents
    return .ok (launchAll player (pages.mergeSort inOrder) s)

/-! ## What is in a set of descriptors -/

/-- A world with other descriptors. -/
def World.describedBy (w : World) (d : DescriptorSet) : World := { w with catalog := d.catalog }

/-- What a script sees with other descriptors. -/
def Perspective.describedBy (v : Perspective) (d : DescriptorSet) : Perspective :=
  { v with world := v.world.describedBy d }

/-- A scheduler with other descriptors. -/
def Scheduler.describedBy (s : Scheduler) (d : DescriptorSet) : Scheduler :=
  { s with world := s.world.describedBy d }

namespace DescriptorSet

/-- Two sets have the same descriptors in different orders. -/
structure Permutes (d d' : DescriptorSet) : Prop where
  items : d.items.Perm d'.items
  spells : d.spells.Perm d'.spells
  quests : d.quests.Perm d'.quests
  classes : d.classes.Perm d'.classes
  shops : d.shops.Perm d'.shops
  craftingTables : d.craftingTables.Perm d'.craftingTables
  npcs : d.npcs.Perm d'.npcs
  vars : d.vars.Perm d'.vars
  commonEvents : d.commonEvents.Perm d'.commonEvents

/-- Nothing is described twice. A variable is one of its scope. -/
structure HasDistinctIds (d : DescriptorSet) : Prop where
  items : (d.items.map ItemDescriptor.id).Nodup
  spells : (d.spells.map SpellDescriptor.id).Nodup
  quests : (d.quests.map QuestDescriptor.id).Nodup
  classes : (d.classes.map ClassDescriptor.id).Nodup
  shops : (d.shops.map ShopDescriptor.id).Nodup
  craftingTables : (d.craftingTables.map CraftingTableDescriptor.id).Nodup
  npcs : (d.npcs.map NpcDescriptor.id).Nodup
  vars : (d.vars.map VariableDescriptor.ref).Nodup
  commonEvents : (d.commonEvents.map CommonEventDescriptor.id).Nodup

/-- At most one variable of a scope goes by a name. -/
def IsUnambiguous (d : DescriptorSet) (scope : Scope) (name : String) : Prop :=
  ∀ a ∈ d.vars, ∀ b ∈ d.vars, a.goesBy scope name = true → b.goesBy scope name = true → a = b

/-- Different variables of a scope have different text keys, up to ASCII case, if they have any. -/
def HasDistinctTextIds (d : DescriptorSet) : Prop :=
  ∀ a ∈ d.vars, ∀ b ∈ d.vars, a.scope = b.scope → a.textId ≠ "" →
    Text.eqIgnoreCase a.textId b.textId = true → a = b

/-- All that two sets of descriptors are asked has one answer, in whatever order their variables and
common events are looked through. -/
structure AnswersAlike (d d' : DescriptorSet) : Prop where
  byId : d.catalog = d'.catalog
  byTextId : ∀ l l' : Listing, l.Lists d.catalog → l'.Lists d'.catalog →
    ∀ scope name, l.variableByTextId? scope name = l'.variableByTextId? scope name
  expanded : ∀ l l' : Listing, l.Lists d.catalog → l'.Lists d'.catalog →
    ∀ (v : Perspective) text,
      (v.describedBy d).expandInOrder l text = (v.describedBy d').expandInOrder l' text
  triggered : ∀ l l' : Listing, l.Lists d.catalog → l'.Lists d'.catalog →
    ∀ (s : Scheduler) player trigger r,
      (s.describedBy d).triggerInOrder l player trigger = .ok r ↔
        (s.describedBy d').triggerInOrder l' player trigger = .ok r

end DescriptorSet

/-- A part of a text names no variable, or it names at most one. -/
def TextPiece.IsUnambiguous (d : DescriptorSet) : TextPiece → Prop
  | braced (.variableText scope) name => d.IsUnambiguous scope name
  | _ => True

/-! ## The order of tables -/

/-- A catalog is looked through in the order of its tables. -/
theorem Listing.variableByTextId?_ascending (c : Catalog) (scope : Scope) (name : String) :
    (ascending c).variableByTextId? scope name = c.variableByTextId? scope name := rfl

/-- That order is one of all that the catalog has. -/
theorem Listing.lists_ascending (c : Catalog) : (ascending c).Lists c := ⟨.refl _, .refl _⟩

/-- Texts are expanded in that order. -/
theorem Perspective.expandInOrder_ascending (v : Perspective) (text : String) :
    v.expandInOrder (.ascending v.world.catalog) text = v.expand text := by
  have hvalue : TextPiece.valueInOrder (.ascending v.world.catalog) v = TextPiece.value v := by
    ext1 piece
    cases piece with
    | char | word => rfl
    | braced token name =>
      cases token with
      | parameter => rfl
      | variableText scope =>
        simp only [TextPiece.valueInOrder, TextPiece.value, BracedToken.value?,
          Listing.variableByTextId?_ascending]
        cases v.world.catalog.variableByTextId? scope name <;> rfl
  unfold expandInOrder expand
  rw [hvalue]

/-- Sets with the same catalog describe what a script sees alike. -/
theorem Perspective.describedBy_eq (v : Perspective) {d d' : DescriptorSet}
    (h : d.catalog = d'.catalog) : v.describedBy d = v.describedBy d' := by
  unfold describedBy World.describedBy
  rw [h]

/-- They describe the world of a scheduler alike. -/
theorem Scheduler.describedBy_eq (s : Scheduler) {d d' : DescriptorSet}
    (h : d.catalog = d'.catalog) : s.describedBy d = s.describedBy d' := by
  unfold describedBy World.describedBy
  rw [h]

/-! ## Common events -/

namespace Scheduler

/-- The page that a trigger selects of a common event, with the event. -/
def selected? (v : Perspective) (trigger : Trigger) (d : CommonEventDescriptor) :
    Guarded (Option (EventId × Page)) := do
  let page ← firstPage? v (d.pages.reverse.filter fun page => page.trigger == trigger)
  return page.map fun page => (d.id, page)

variable {v : Perspective} {trigger : Trigger}

/-- What is selected of an event carries its identifier. -/
theorem fst_of_selected? {d : CommonEventDescriptor} {e : EventId × Page}
    (h : selected? v trigger d = .ok (some e)) : e.1 = d.id := by
  obtain ⟨page, -, h⟩ := Guarded.bind_eq_ok.mp h
  cases page with
  | none => cases h
  | some page =>
    cases h
    rfl

/-- The pages that a trigger selects, event by event. -/
theorem triggeredPages_cons_eq_ok_iff {d : CommonEventDescriptor}
    {rest : List CommonEventDescriptor} {pages : List (EventId × Page)} :
    triggeredPages v trigger (d :: rest) = .ok pages ↔
      ∃ e later, selected? v trigger d = .ok e ∧ triggeredPages v trigger rest = .ok later ∧
        pages = e.toList ++ later := by
  constructor
  · intro h
    obtain ⟨page, hpage, h⟩ := Guarded.bind_eq_ok.mp h
    obtain ⟨later, hlater, h⟩ := Guarded.bind_eq_ok.mp h
    refine ⟨_, later, Guarded.bind_eq_ok.mpr ⟨page, hpage, rfl⟩, hlater, ?_⟩
    cases page <;> cases h <;> rfl
  · rintro ⟨e, later, he, hlater, rfl⟩
    obtain ⟨page, hpage, he⟩ := Guarded.bind_eq_ok.mp he
    refine Guarded.bind_eq_ok.mpr ⟨page, hpage, Guarded.bind_eq_ok.mpr ⟨later, hlater, ?_⟩⟩
    cases page <;> cases he <;> rfl

/-- The pages that a trigger selects are those that it selects of each event. -/
theorem triggeredPages_eq_ok_iff {ds : List CommonEventDescriptor} {pages : List (EventId × Page)} :
    triggeredPages v trigger ds = .ok pages ↔
      (∀ d ∈ ds, ∃ e, selected? v trigger d = .ok e) ∧
        pages = ds.filterMap fun d => (selected? v trigger d).toOption.join := by
  induction ds generalizing pages with
  | nil =>
    constructor
    · rintro ⟨⟩
      exact ⟨List.forall_mem_nil _, rfl⟩
    · rintro ⟨-, rfl⟩
      rfl
  | cons d rest ih =>
    rw [triggeredPages_cons_eq_ok_iff, List.forall_mem_cons]
    constructor
    · rintro ⟨e, later, he, hlater, rfl⟩
      obtain ⟨hrest, rfl⟩ := ih.mp hlater
      refine ⟨⟨⟨e, he⟩, hrest⟩, ?_⟩
      rw [List.filterMap_cons, he]
      cases e <;> rfl
    · rintro ⟨⟨⟨e, he⟩, hrest⟩, rfl⟩
      refine ⟨e, _, he, ih.mpr ⟨hrest, rfl⟩, ?_⟩
      rw [List.filterMap_cons, he]
      cases e <;> rfl

/-- A trigger selects the same pages of events in another order. -/
theorem triggeredPages_perm {ds ds' : List CommonEventDescriptor} (hperm : ds.Perm ds')
    {pages : List (EventId × Page)} (h : triggeredPages v trigger ds = .ok pages) :
    ∃ pages', triggeredPages v trigger ds' = .ok pages' ∧ pages.Perm pages' := by
  obtain ⟨hselected, rfl⟩ := triggeredPages_eq_ok_iff.mp h
  refine ⟨_, triggeredPages_eq_ok_iff.mpr ⟨fun d hd => ?_, rfl⟩, hperm.filterMap _⟩
  exact hselected d (hperm.mem_iff.mpr hd)

/-- Of events in ascending order the pages are selected in ascending order. -/
theorem pairwise_triggeredPages {ds : List CommonEventDescriptor}
    (hds : ds.Pairwise fun a b => a.id.value.toNat < b.id.value.toNat)
    {pages : List (EventId × Page)} (h : triggeredPages v trigger ds = .ok pages) :
    pages.Pairwise fun a b => a.1.value.toNat < b.1.value.toNat := by
  obtain ⟨hselected, rfl⟩ := triggeredPages_eq_ok_iff.mp h
  have hid : ∀ d ∈ ds, ∀ e, (selected? v trigger d).toOption.join = some e → e.1 = d.id := by
    intro d hd e he
    obtain ⟨e', he'⟩ := hselected d hd
    rw [he'] at he
    cases he
    exact fst_of_selected? he'
  rw [List.pairwise_filterMap]
  refine hds.imp_of_mem fun {a b} ha hb hlt e he e' he' => ?_
  rw [hid a ha e he, hid b hb e' he']
  exact hlt

theorem inOrder_iff {a b : EventId × Page} :
    inOrder a b = true ↔ a.1.value.toNat ≤ b.1.value.toNat := by
  simp [inOrder]

/-- Sorting undoes any order of pages that belong to different events. -/
theorem mergeSort_eq_of_perm {pages sorted : List (EventId × Page)} (hperm : pages.Perm sorted)
    (hsorted : sorted.Pairwise fun a b => a.1.value.toNat < b.1.value.toNat) :
    pages.mergeSort inOrder = sorted := by
  have hmerge : (pages.mergeSort inOrder).Pairwise fun a b => inOrder a b = true := by
    apply List.pairwise_mergeSort
    · intro a b c hab hbc
      rw [inOrder_iff] at hab hbc ⊢
      omega
    · intro a b
      rw [Bool.or_eq_true, inOrder_iff, inOrder_iff]
      omega
  have hle : sorted.Pairwise fun a b => inOrder a b = true := by
    refine hsorted.imp fun {a b} hlt => ?_
    rw [inOrder_iff]
    omega
  have hdifferent : (sorted.map fun e => e.1.value.toNat).Nodup := by
    refine List.pairwise_map.mpr (hsorted.imp fun {a b} hlt => ?_)
    omega
  have hpages := (List.mergeSort_perm pages inOrder).trans hperm
  refine List.Perm.eq_of_pairwise ?_ hmerge hle hpages
  intro a b ha hb hab hba
  rw [inOrder_iff] at hab hba
  have hid : a.1.value.toNat = b.1.value.toNat := by omega
  exact List.inj_on_of_nodup_map hdifferent (hpages.mem_iff.mp ha) hb hid

/-- A trigger starts the same executions in the same order, in whatever order common events are
looked through. -/
theorem triggerInOrder_eq_ok_iff {d : DescriptorSet} {l : Listing} {s : Scheduler}
    (hcatalog : s.world.catalog = d.catalog) (hlists : l.Lists d.catalog) {player : PlayerId}
    {r : Except SchedulerError (List InstanceId × Scheduler)} :
    s.triggerInOrder l player trigger = .ok r ↔ s.triggerCommonEvents player trigger = .ok r := by
  unfold triggerInOrder triggerCommonEvents
  cases s.world.player? player with
  | none => exact Iff.rfl
  | some p =>
    have hascending : d.catalog.commonEvents.values.Pairwise
        fun a b => a.id.value.toNat < b.id.value.toNat := by
      have hkeys := d.catalog.commonEvents.ascending_keys
      have hvalues : d.catalog.commonEvents.values.map CommonEventDescriptor.id =
          d.catalog.commonEvents.keys := Table.map_values_ofValues _ _
      rw [← hvalues, List.pairwise_map] at hkeys
      exact hkeys
    rw [hcatalog]
    constructor
    · intro h
      obtain ⟨pages, hpages, h⟩ := Guarded.bind_eq_ok.mp h
      obtain ⟨sorted, hsorted, hperm⟩ := triggeredPages_perm hlists.commonEvents hpages
      rw [mergeSort_eq_of_perm hperm (pairwise_triggeredPages hascending hsorted)] at h
      exact Guarded.bind_eq_ok.mpr ⟨sorted, hsorted, h⟩
    · intro h
      obtain ⟨sorted, hsorted, h⟩ := Guarded.bind_eq_ok.mp h
      obtain ⟨pages, hpages, hperm⟩ := triggeredPages_perm hlists.commonEvents.symm hsorted
      refine Guarded.bind_eq_ok.mpr ⟨pages, hpages, ?_⟩
      rw [mergeSort_eq_of_perm hperm.symm (pairwise_triggeredPages hascending hsorted)]
      exact h

end Scheduler

/-! ## Names of variables -/

/-- A variable goes by a name if its text key, which is not empty, is the name up to ASCII case. -/
theorem VariableDescriptor.goesBy_iff {d : VariableDescriptor} {scope : Scope} {name : String} :
    d.goesBy scope name = true ↔
      d.scope = scope ∧ d.textId ≠ "" ∧ Text.asciiLower d.textId = Text.asciiLower name := by
  unfold goesBy
  rw [Bool.and_eq_true, Bool.and_eq_true, beq_iff_eq, Text.eqIgnoreCase_iff, and_assoc]
  simp

/-- What a search finds is there and goes by the name. -/
theorem Listing.of_variableByTextId? {l : Listing} {scope : Scope} {name : String}
    {a : VariableDescriptor} (h : l.variableByTextId? scope name = some a) :
    a ∈ l.vars ∧ a.goesBy scope name = true := by
  have hgoes := List.find?_some h
  exact ⟨List.mem_of_find?_eq_some h, hgoes⟩

/-- A search finds nothing exactly if nothing goes by the name. -/
theorem Listing.variableByTextId?_eq_none_iff {l : Listing} {scope : Scope} {name : String} :
    l.variableByTextId? scope name = none ↔ ∀ a ∈ l.vars, ¬ a.goesBy scope name = true :=
  List.find?_eq_none

namespace DescriptorSet

variable {d d' : DescriptorSet} {l l' : Listing} {scope : Scope} {name : String}

/-- Different text keys make every name unambiguous, and nothing else does. -/
theorem hasDistinctTextIds_iff :
    d.HasDistinctTextIds ↔ ∀ scope name, d.IsUnambiguous scope name := by
  constructor
  · intro h scope name a ha b hb hab hbb
    rw [VariableDescriptor.goesBy_iff] at hab hbb
    refine h a ha b hb (hab.1.trans hbb.1.symm) hab.2.1 ?_
    exact Text.eqIgnoreCase_iff.mpr (hab.2.2.trans hbb.2.2.symm)
  · intro h a ha b hb hscope hne hsame
    have hlower := Text.eqIgnoreCase_iff.mp hsame
    refine h a.scope a.textId a ha b hb ?_ ?_
    · exact VariableDescriptor.goesBy_iff.mpr ⟨rfl, hne, rfl⟩
    · refine VariableDescriptor.goesBy_iff.mpr ⟨hscope.symm, ?_, hlower.symm⟩
      intro hempty
      rw [hempty] at hlower
      exact hne (by simpa [Text.asciiLower] using hlower)

/-- A search finds the only variable that goes by a name, in whatever order it looks. -/
theorem IsUnambiguous.variableByTextId?_eq (h : d.IsUnambiguous scope name)
    (hl : l.vars.Perm d.vars) (hl' : l'.vars.Perm d.vars) :
    l.variableByTextId? scope name = l'.variableByTextId? scope name := by
  cases ha : l.variableByTextId? scope name with
  | none =>
    rw [eq_comm, Listing.variableByTextId?_eq_none_iff]
    intro b hb
    refine Listing.variableByTextId?_eq_none_iff.mp ha b ?_
    exact hl.mem_iff.mpr (hl'.mem_iff.mp hb)
  | some a =>
    obtain ⟨hmem, hgoes⟩ := Listing.of_variableByTextId? ha
    have ha' : a ∈ l'.vars := hl'.mem_iff.mpr (hl.mem_iff.mp hmem)
    cases hb : l'.variableByTextId? scope name with
    | none => exact absurd hgoes (Listing.variableByTextId?_eq_none_iff.mp hb a ha')
    | some b =>
      obtain ⟨hmem', hgoes'⟩ := Listing.of_variableByTextId? hb
      rw [h a (hl.mem_iff.mp hmem) b (hl'.mem_iff.mp hmem') hgoes hgoes']

/-- Any variable that goes by a name is the one that a search finds in some order. -/
theorem exists_variableByTextId?_eq {c : Catalog} {a : VariableDescriptor} (ha : a ∈ c.vars.values)
    (hgoes : a.goesBy scope name = true) :
    ∃ l : Listing, l.Lists c ∧ l.variableByTextId? scope name = some a := by
  refine ⟨⟨a :: c.vars.values.erase a, c.commonEvents.values⟩, ⟨?_, .refl _⟩, ?_⟩
  · exact (List.perm_cons_erase ha).symm
  · exact List.find?_cons_of_pos hgoes

/-- Texts that name variables unambiguously are expanded alike. -/
theorem expandInOrder_eq (hl : l.vars.Perm d.vars) (hl' : l'.vars.Perm d.vars)
    (v : Perspective) {text : String}
    (h : ∀ piece ∈ TextPiece.split text, piece.IsUnambiguous d) :
    v.expandInOrder l text = v.expandInOrder l' text := by
  unfold Perspective.expandInOrder
  congr 1
  apply List.map_congr_left
  intro piece hpiece
  have hnames := h piece hpiece
  cases piece with
  | char | word => rfl
  | braced token name =>
    cases token with
    | parameter => rfl
    | variableText scope =>
      have hfound : d.IsUnambiguous scope name := hnames
      simp only [TextPiece.valueInOrder, hfound.variableByTextId?_eq hl hl']

/-- The order of a set of descriptors makes no difference to its catalog. -/
theorem Permutes.catalog_eq (hperm : d.Permutes d') (hids : d.HasDistinctIds) :
    d.catalog = d'.catalog := by
  unfold catalog
  congr 1
  · exact Table.ofValues_eq_of_perm hperm.items hids.items
  · exact Table.ofValues_eq_of_perm hperm.spells hids.spells
  · exact Table.ofValues_eq_of_perm hperm.quests hids.quests
  · exact Table.ofValues_eq_of_perm hperm.classes hids.classes
  · exact Table.ofValues_eq_of_perm hperm.shops hids.shops
  · exact Table.ofValues_eq_of_perm hperm.craftingTables hids.craftingTables
  · exact Table.ofValues_eq_of_perm hperm.npcs hids.npcs
  · exact Table.ofValues_eq_of_perm hperm.vars hids.vars
  · exact Table.ofValues_eq_of_perm hperm.commonEvents hids.commonEvents

/-- All orders of the variables of a catalog are orders of those that are described. -/
theorem HasDistinctIds.perm_vars (hids : d.HasDistinctIds) (hl : l.Lists d.catalog) :
    l.vars.Perm d.vars :=
  hl.vars.trans (Table.values_ofValues_perm hids.vars)

/-- Searches in different orders find exactly the variables that go by the name. -/
theorem HasDistinctIds.found_iff (hids : d.HasDistinctIds) {a : VariableDescriptor} :
    (∃ l : Listing, l.Lists d.catalog ∧ l.variableByTextId? scope name = some a) ↔
      a ∈ d.vars ∧ a.goesBy scope name = true := by
  constructor
  · rintro ⟨l, hl, hfound⟩
    obtain ⟨hmem, hgoes⟩ := Listing.of_variableByTextId? hfound
    exact ⟨(hids.perm_vars hl).mem_iff.mp hmem, hgoes⟩
  · rintro ⟨hmem, hgoes⟩
    have hvalues := Table.values_ofValues_perm hids.vars
    exact exists_variableByTextId?_eq (hvalues.mem_iff.mpr hmem) hgoes

/-- If all orders have the same answer, at most one variable goes by each name. -/
theorem AnswersAlike.hasDistinctTextIds (h : d.AnswersAlike d') (hids : d.HasDistinctIds) :
    d.HasDistinctTextIds := by
  rw [hasDistinctTextIds_iff]
  intro scope name a ha b hb hgoes hgoes'
  obtain ⟨l, hl, hfound⟩ := hids.found_iff.mpr ⟨ha, hgoes⟩
  obtain ⟨l', hl', hfound'⟩ := hids.found_iff.mpr ⟨hb, hgoes'⟩
  have hsame := h.byTextId l l' hl (h.byId ▸ hl') scope name
  rw [hfound, hfound'] at hsame
  exact Option.some.inj hsame

/-- If at most one variable goes by each name, all orders have the same answer. -/
theorem HasDistinctTextIds.answersAlike (h : d.HasDistinctTextIds) (hids : d.HasDistinctIds)
    (hcatalog : d.catalog = d'.catalog) : d.AnswersAlike d' := by
  have hnames := hasDistinctTextIds_iff.mp h
  have hlists {l : Listing} (hl : l.Lists d'.catalog) : l.Lists d.catalog := hcatalog ▸ hl
  refine ⟨hcatalog, fun l l' hl hl' scope name => ?_, fun l l' hl hl' v text => ?_,
    fun l l' hl hl' s player trigger r => ?_⟩
  · have hperm := hids.perm_vars (hlists hl')
    exact (hnames scope name).variableByTextId?_eq (hids.perm_vars hl) hperm
  · rw [v.describedBy_eq hcatalog]
    refine expandInOrder_eq (hids.perm_vars hl) (hids.perm_vars (hlists hl')) _ fun piece _ => ?_
    unfold TextPiece.IsUnambiguous
    split
    · exact hnames _ _
    · trivial
  · rw [s.describedBy_eq hcatalog, Scheduler.triggerInOrder_eq_ok_iff hcatalog.symm hl]
    exact (Scheduler.triggerInOrder_eq_ok_iff rfl hl').symm

/-- The order of descriptors makes no difference to lookups by identifier and to triggers, which
start the same events in the same order; and it makes none to names, and to texts with them, that at
most one variable goes by. A name can be found to be any of the variables that go by it. So all
orders have the same answers exactly if different variables of a scope have different text keys. -/
theorem answersAlike_iff (hperm : d.Permutes d') (hids : d.HasDistinctIds) :
    (d.AnswersAlike d' ↔ d.HasDistinctTextIds) ∧
      d.catalog = d'.catalog ∧
      (∀ l : Listing, l.Lists d'.catalog →
        (∀ (s : Scheduler) player trigger r,
          (s.describedBy d').triggerInOrder l player trigger = .ok r ↔
            (s.describedBy d).triggerCommonEvents player trigger = .ok r) ∧
        (∀ scope name, d.IsUnambiguous scope name →
          l.variableByTextId? scope name = d.catalog.variableByTextId? scope name) ∧
        ∀ (v : Perspective) text, (∀ piece ∈ TextPiece.split text, piece.IsUnambiguous d) →
          (v.describedBy d').expandInOrder l text = (v.describedBy d).expand text) ∧
      ∀ scope name a,
        (∃ l : Listing, l.Lists d'.catalog ∧ l.variableByTextId? scope name = some a) ↔
          a ∈ d.vars ∧ a.goesBy scope name = true := by
  have hcatalog := hperm.catalog_eq hids
  have hascending := hids.perm_vars (Listing.lists_ascending d.catalog)
  refine ⟨⟨fun h => h.hasDistinctTextIds hids, fun h => h.answersAlike hids hcatalog⟩, hcatalog,
    ?_, ?_⟩
  · intro l hl
    rw [← hcatalog] at hl
    refine ⟨fun s player trigger r => ?_, fun scope name h => ?_, fun v text h => ?_⟩
    · rw [← s.describedBy_eq hcatalog]
      exact Scheduler.triggerInOrder_eq_ok_iff rfl hl
    · exact h.variableByTextId?_eq (hids.perm_vars hl) hascending
    · rw [← v.describedBy_eq hcatalog, ← Perspective.expandInOrder_ascending]
      exact expandInOrder_eq (hids.perm_vars hl) hascending _ h
  · intro scope name a
    rw [← hcatalog]
    exact hids.found_iff

/-- The same descriptors, with the variables written down the other way round. -/
def backwards (d : DescriptorSet) : DescriptorSet := { d with vars := d.vars.reverse }

/-- That is another order of them. -/
theorem permutes_backwards (d : DescriptorSet) : d.Permutes d.backwards where
  items := .refl _
  spells := .refl _
  quests := .refl _
  classes := .refl _
  shops := .refl _
  craftingTables := .refl _
  npcs := .refl _
  vars := d.vars.reverse_perm.symm
  commonEvents := .refl _

/-- Two variables with text keys of their own. -/
def coins : DescriptorSet :=
  { empty with vars := [⟨⟨1⟩, .player, "Gold", .integer, "gold"⟩,
      ⟨⟨2⟩, .player, "Silver", .integer, "silver"⟩] }

/-- It makes no difference which of the two is written down first. -/
theorem answersAlike_iff_coins :
    coins.Permutes coins.backwards ∧ coins.HasDistinctIds ∧
      coins.AnswersAlike coins.backwards := by
  have hperm := coins.permutes_backwards
  have hids : coins.HasDistinctIds := by constructor <;> decide
  have htextIds : coins.HasDistinctTextIds := by
    unfold HasDistinctTextIds
    decide
  exact ⟨hperm, hids, (answersAlike_iff hperm hids).1.mpr htextIds⟩

/-- Two variables with the same text key, up to case. -/
def purses : DescriptorSet :=
  { empty with vars := [⟨⟨1⟩, .player, "Purse", .integer, "gold"⟩,
      ⟨⟨2⟩, .player, "Hoard", .integer, "Gold"⟩] }

/-- A player with a hoard and an empty purse. -/
def hoarder : Perspective where
  world := .start {} purses.catalog (.start 0) (.of (fun k => .ofNat 128 k) id)
  player := { Player.fresh ⟨3⟩ "Ann" .nil 1 1 with vars := .ofList [(⟨2⟩, .integer 7)] }
  running := none

/-- A text shows either of the two, depending on the order in which they are looked through. -/
theorem not_answersAlike_purses :
    purses.Permutes purses.backwards ∧ purses.HasDistinctIds ∧
      (∃ l l' : Listing, l.Lists purses.catalog ∧ l'.Lists purses.backwards.catalog ∧
        (hoarder.describedBy purses).expandInOrder l "\\pv\x7bgold\x7d" = "0" ∧
        (hoarder.describedBy purses.backwards).expandInOrder l' "\\pv\x7bgold\x7d" = "7") ∧
      ¬ purses.AnswersAlike purses.backwards := by
  have hids : purses.HasDistinctIds := by constructor <;> decide
  have hl : (Listing.mk purses.vars []).Lists purses.catalog := ⟨.refl _, .refl _⟩
  have hl' : (Listing.mk purses.vars.reverse []).Lists purses.backwards.catalog :=
    ⟨purses.vars.reverse_perm, .refl _⟩
  have hpurse : (hoarder.describedBy purses).expandInOrder ⟨purses.vars, []⟩
      "\\pv\x7bgold\x7d" = "0" := by
    decide
  have hhoard : (hoarder.describedBy purses.backwards).expandInOrder ⟨purses.vars.reverse, []⟩
      "\\pv\x7bgold\x7d" = "7" := by
    decide
  refine ⟨purses.permutes_backwards, hids, ⟨_, _, hl, hl', hpurse, hhoard⟩, fun h => ?_⟩
  have hsame := h.expanded _ _ hl hl' hoarder "\\pv\x7bgold\x7d"
  rw [hpurse, hhoard] at hsame
  exact absurd hsame (by decide)

end DescriptorSet

end EventScript
