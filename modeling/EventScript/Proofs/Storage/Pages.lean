import EventScript.Proofs.Storage.PageFiles

/-!
# What page repositories give back

A repository in memory takes only valid pages and gives all of them back. A directory takes any page,
and gives it back if it is valid; whether it is there and whether it is listed does not depend on
that. Both are shown by what one save keeps, along all the requests that follow.
-/

namespace EventScript

/-- A repository of pages with states of a type. -/
structure PageRepository (σ : Type) where
  /-- Save a page. -/
  save : σ → Page → Except StorageError σ
  /-- Load a page. -/
  load : σ → PageId → Except StorageError Page
  /-- Whether there is a page. -/
  contains : σ → PageId → Bool
  /-- List the pages. -/
  list : σ → Except StorageError (List PageId)

/-- The repository in memory. -/
def PageTable.repository : PageRepository PageTable where
  save := PageTable.save
  load := PageTable.load
  contains := PageTable.contains
  list r := .ok r.list

/-- The repository of a directory. -/
def PageDirectory.repository (d : PageDirectory) : PageRepository FileTree where
  save := d.save
  load := d.load
  contains := d.contains
  list := d.list

/-- What a repository is asked for. -/
inductive PageRequest where
  | save (page : Page)
  | load (id : PageId)
  | contains (id : PageId)
  | list

namespace PageRepository

variable {σ : Type} {r : PageRepository σ} {s s' : σ} {requests : List PageRequest}
  {saved : List Page}

/-- The requests that a repository serves without a failing file operation, and the pages that it
takes. A page may be refused because it is not valid; that leaves the repository as it is, as all
requests but saves do. -/
inductive Serves (r : PageRepository σ) : σ → List PageRequest → σ → List Page → Prop
  | done (s : σ) : Serves r s [] s []
  | takes {s s₁ s' : σ} {p : Page} {rest : List PageRequest} {saved : List Page} :
      r.save s p = .ok s₁ → Serves r s₁ rest s' saved →
        Serves r s (.save p :: rest) s' (p :: saved)
  | leaves {s s' : σ} {request : PageRequest} {rest : List PageRequest} {saved : List Page} :
      (∀ p, request = .save p → ∃ cause, r.save s p = .error (.invalidPage cause)) →
        Serves r s rest s' saved → Serves r s (request :: rest) s' saved

/-- A page that no other one of its identifier was saved after. -/
def IsLast (saved : List Page) (p : Page) : Prop :=
  ∃ before after, saved = before ++ p :: after ∧ ∀ q ∈ after, q.id ≠ p.id

/-- What pages that were saved come back as: each one is there, and the last one of an identifier is
loaded with an answer. -/
structure GivesBack (r : PageRepository σ) (answer : Page → Except StorageError Page) (s : σ)
    (saved : List Page) : Prop where
  /-- Every page is there. -/
  contains : ∀ p ∈ saved, r.contains s p.id = true
  /-- The last page of every identifier is loaded. -/
  load : ∀ p, IsLast saved p → r.load s p.id = answer p

/-- The list of a repository after pages were saved. -/
structure IsListing (r : PageRepository σ) (start s : σ) (saved : List Page) (ids : List PageId) :
    Prop where
  /-- It is in ascending order, so nothing is listed twice. -/
  ascending : ids.Pairwise fun a b => a.value.toNat < b.value.toNat
  /-- The pages that are listed are those that are there. -/
  mem_iff : ∀ id, id ∈ ids ↔ r.contains s id = true
  /-- Every page that was saved is listed. -/
  complete : ∀ p ∈ saved, p.id ∈ ids
  /-- Besides them only those that were listed before are. -/
  exact : ∀ before, r.list start = .ok before →
    ∀ id, id ∈ ids ↔ id ∈ before ∨ ∃ p ∈ saved, p.id = id

/-- What the saves of all pages that were taken keep is kept by all requests. -/
theorem Serves.keeps {P : σ → Prop} (h : r.Serves s requests s' saved)
    (hsave : ∀ p ∈ saved, ∀ s s', r.save s p = .ok s' → P s → P s') (hs : P s) : P s' := by
  induction h with
  | done => exact hs
  | takes hp _ ih =>
    obtain ⟨hfirst, hrest⟩ := List.forall_mem_cons.mp hsave
    exact ih hrest (hfirst _ _ hp hs)
  | leaves _ _ ih => exact ih hsave hs

/-- What a save leads to, and saves of other identifiers keep, holds of the last page of every
identifier. -/
theorem Serves.last {P : σ → Page → Prop} (hself : ∀ s p s', r.save s p = .ok s' → P s' p)
    (hother : ∀ s p q s', r.save s q = .ok s' → q.id ≠ p.id → P s p → P s' p)
    (h : r.Serves s requests s' saved) {p : Page} (hlast : IsLast saved p) : P s' p := by
  obtain ⟨before, after, hsaved, hafter⟩ := hlast
  induction h generalizing before with
  | done => simp at hsaved
  | takes hp hrest ih =>
    cases before with
    | nil =>
      cases hsaved
      refine hrest.keeps (P := fun s => P s _) (fun q hq s s' hsave => ?_) (hself _ _ _ hp)
      exact hother s p q s' hsave (hafter q hq)
    | cons first before =>
      cases hsaved
      exact ih before rfl
  | leaves _ _ ih => exact ih before hsaved

/-- What a save leads to and all saves keep holds of every page that was saved. -/
theorem Serves.all {P : σ → PageId → Prop} (hself : ∀ s p s', r.save s p = .ok s' → P s' p.id)
    (hkeep : ∀ s p s' id, r.save s p = .ok s' → P s id → P s' id)
    (h : r.Serves s requests s' saved) : ∀ p ∈ saved, P s' p.id := by
  induction h with
  | done => exact nofun
  | takes hp hrest ih =>
    intro p hmem
    rcases List.mem_cons.mp hmem with rfl | hmem
    · refine hrest.keeps (P := fun s => P s _) (fun q _ s s' hsave => ?_) (hself _ _ _ hp)
      exact hkeep s q s' p.id hsave
    · exact ih p hmem
  | leaves _ _ ih => exact ih

/-- Where every save adds its page and nothing else, there are the pages from the start and those
that were saved. -/
theorem Serves.contains_iff {P : σ → Prop}
    (hsave : ∀ s p s', r.save s p = .ok s' → P s → P s' ∧
      ∀ id, r.contains s' id = true ↔ r.contains s id = true ∨ p.id = id)
    (h : r.Serves s requests s' saved) (hs : P s) (id : PageId) :
    r.contains s' id = true ↔ r.contains s id = true ∨ ∃ p ∈ saved, p.id = id := by
  induction h with
  | done => simp
  | takes hp _ ih =>
    obtain ⟨hs₁, hcontains⟩ := hsave _ _ _ hp hs
    rw [ih hs₁, hcontains, or_assoc]
    simp
  | leaves _ _ ih => exact ih hs

end PageRepository

/-! ## In memory -/

namespace PageTable

variable {r r' : PageTable} {p : Page}

/-- A page that is saved in memory is valid and is added. -/
theorem save_eq_ok (h : r.save p = .ok r') : p.isValid = true ∧ r' = r.add p := by
  unfold save at h
  split at h
  · next hvalid =>
    obtain ⟨hvalid, rfl⟩ := Page.validate_eq_ok_iff.mp hvalid
    exact ⟨hvalid, (Except.ok.inj h).symm⟩
  · cases h

/-- There are one more page and those before. -/
theorem contains_add (r : PageTable) (p : Page) (id : PageId) :
    (r.add p).contains id = true ↔ r.contains id = true ∨ p.id = id := by
  unfold PageTable.contains Table.contains add
  rw [Table.get?_insert_eq_ite]
  by_cases hid : id = p.id
  · simp [hid]
  · simp [hid, Ne.symm hid]

/-- The list is in ascending order. -/
theorem ascending_list (r : PageTable) :
    r.list.Pairwise fun a b => a.value.toNat < b.value.toNat := r.pages.ascending_keys

variable {requests : List PageRequest} {saved : List Page}

/-- Pages that are saved in memory come back as they are. -/
theorem givesBack_of_serves (h : repository.Serves r requests r' saved) :
    repository.GivesBack .ok r' saved := by
  constructor
  · refine h.all (P := fun r id => r.contains id = true) ?_ ?_
    · intro r p r' hp
      obtain ⟨-, rfl⟩ := save_eq_ok hp
      exact (contains_add r p p.id).mpr (.inr rfl)
    · intro r p r' id hp hid
      obtain ⟨-, rfl⟩ := save_eq_ok hp
      exact (contains_add r p id).mpr (.inl hid)
  · intro p hlast
    refine h.last (P := fun r p => r.load p.id = .ok p) ?_ ?_ hlast
    · intro r p r' hp
      obtain ⟨-, rfl⟩ := save_eq_ok hp
      simp [load, add]
    · intro r p q r' hq hne hload
      obtain ⟨-, rfl⟩ := save_eq_ok hq
      rwa [load, add, Table.get?_insert_of_ne _ _ hne]

/-- Pages that are saved in memory are listed. -/
theorem isListing_of_serves (h : repository.Serves r requests r' saved) :
    repository.IsListing r r' saved r'.list := by
  have hmem (r : PageTable) (id : PageId) : id ∈ r.list ↔ repository.contains r id = true :=
    Table.mem_keys_iff
  refine ⟨r'.ascending_list, hmem r', ?_, ?_⟩
  · intro p hp
    exact (hmem r' p.id).mpr ((givesBack_of_serves h).contains p hp)
  · intro before hbefore id
    obtain rfl : r.list = before := Except.ok.inj hbefore
    rw [hmem, hmem]
    refine h.contains_iff (P := fun _ => True) ?_ trivial id
    intro r p r' hp _
    obtain ⟨-, rfl⟩ := save_eq_ok hp
    exact ⟨trivial, contains_add r p⟩

end PageTable

/-! ## In a directory -/

namespace PageDirectory

open FileTree (namesOf)
open PageRepository (IsLast)

variable {d : PageDirectory} {t t' : FileTree} {requests : List PageRequest} {saved : List Page}

/-- Pages that are saved in a directory come back if they are valid. -/
theorem givesBack_of_serves (h : d.repository.Serves t requests t' saved) :
    d.repository.GivesBack answer t' saved := by
  have hkept {t t' : FileTree} {p : Page} {id : PageId} (hsave : d.save t p = .ok t')
      (hfile : ∃ content, t.HasFile (d.pagePath id) content) :
      ∃ content, t'.HasFile (d.pagePath id) content := by
    by_cases hid : p.id = id
    · subst hid
      exact ⟨_, hasFile_of_save hsave⟩
    · obtain ⟨content, hfile⟩ := hfile
      exact ⟨content, hasFile_save_of_ne hsave hid hfile⟩
  constructor
  · intro p hp
    obtain ⟨content, hfile⟩ := h.all (P := fun t id => ∃ content, t.HasFile (d.pagePath id) content)
      (fun _ _ _ hsave => ⟨_, hasFile_of_save hsave⟩) (fun _ _ _ _ => hkept) p hp
    exact hfile.contains_eq_true
  · intro p hlast
    have hfile := h.last (P := fun t p => t.HasFile (d.pagePath p.id) (toJson p).pretty)
      (fun _ _ _ => hasFile_of_save) (fun _ _ _ _ => hasFile_save_of_ne) hlast
    exact load_of_hasFile hfile

/-- All pages that are saved in a directory come back where the last ones of their identifiers are
valid. -/
theorem givesBack_ok_iff (h : d.repository.Serves t requests t' saved) :
    d.repository.GivesBack .ok t' saved ↔ ∀ p, IsLast saved p → p.isValid = true := by
  have hback := givesBack_of_serves h
  constructor
  · intro hok p hlast
    have hanswer : answer p = .ok p := (hback.load p hlast).symm.trans (hok.load p hlast)
    unfold answer at hanswer
    split at hanswer
    · next hvalid => exact hvalid
    · cases hanswer
  · intro hvalid
    refine ⟨hback.contains, fun p hlast => ?_⟩
    rw [hback.load p hlast, answer, if_pos (hvalid p hlast)]

/-- Once a page was saved in a directory of plain names, the pages are listed. -/
theorem exists_isListing_of_serves (hempty : d.path ≠ "")
    (hpath : ∀ name ∈ namesOf d.path, IsPlain name) (hplain : t.IsMadeOf IsPlain)
    (h : d.repository.Serves t requests t' saved) (hsaved : saved ≠ []) :
    ∃ ids, d.list t' = .ok ids ∧ d.repository.IsListing t t' saved ids := by
  have hback := givesBack_of_serves h
  have hplain' : t'.IsMadeOf IsPlain :=
    h.keeps (fun p _ _ _ hsave hplain => isMadeOf_save hplain hpath (isPlain_fileName p.id) hsave)
      hplain
  obtain ⟨p, hp⟩ := List.exists_mem_of_ne_nil saved hsaved
  obtain ⟨home', hhome'⟩ := exists_standsAt (hback.contains p hp)
  obtain ⟨ids, hlist, hascending, hmem⟩ := hhome'.list_eq_ok hempty hplain'
  refine ⟨ids, hlist, hascending, hmem, fun p hp => (hmem p.id).mpr (hback.contains p hp), ?_⟩
  intro before hbefore id
  obtain ⟨home, hhome⟩ := standsAt_of_list hbefore
  obtain ⟨before', hbefore', -, hmemBefore⟩ := hhome.list_eq_ok hempty hplain
  obtain rfl : before' = before := Except.ok.inj (hbefore'.symm.trans hbefore)
  rw [hmem, hmemBefore]
  exact h.contains_iff (P := fun t => d.StandsAt t home) (fun _ _ _ hsave hhome => hhome.save hsave)
    hhome id

/-- Where no name stood for a page, there are only the pages that were saved. -/
theorem exists_saved_of_contains (hpath : ∀ name ∈ namesOf d.path, IsOther name)
    (hother : t.IsMadeOf IsOther) (h : d.repository.Serves t requests t' saved) {id : PageId}
    (hid : d.contains t' id = true) : ∃ p ∈ saved, p.id = id := by
  let IsSaved (name : String) : Prop := IsOther name ∨ ∃ p ∈ saved, name = fileName p.id
  have hstart : t.IsMadeOf IsSaved := hother.imp fun _ => .inl
  have hmade : t'.IsMadeOf IsSaved :=
    h.keeps (fun p hp _ _ hsave hmade =>
      isMadeOf_save hmade (fun name hname => .inl (hpath name hname)) (.inr ⟨p, hp, rfl⟩) hsave)
      hstart
  obtain ⟨home, hhome⟩ := exists_standsAt hid
  rcases hhome.property_of_mem hmade hid with hnone | ⟨p, hp, hname⟩
  · simp [IsOther] at hnone
  · exact ⟨p, hp, (fileName_inj.mp hname).symm⟩

end PageDirectory

/-- What is saved stays there and is listed, in memory and in a directory. In memory it comes back as
it is; in a directory it comes back if it is valid, since only what is loaded is checked there. -/
theorem pages_come_back (requests : List PageRequest) (saved : List Page) :
    (∀ r r', PageTable.repository.Serves r requests r' saved →
      PageTable.repository.GivesBack .ok r' saved ∧
        PageTable.repository.IsListing r r' saved r'.list) ∧
    ∀ (d : PageDirectory) t t', d.repository.Serves t requests t' saved →
      d.repository.GivesBack PageDirectory.answer t' saved ∧
      (d.repository.GivesBack .ok t' saved ↔
        ∀ p, PageRepository.IsLast saved p → p.isValid = true) ∧
      (d.path ≠ "" → (∀ name ∈ FileTree.namesOf d.path, PageDirectory.IsPlain name) →
        t.IsMadeOf PageDirectory.IsPlain → saved ≠ [] →
        ∃ ids, d.list t' = .ok ids ∧ d.repository.IsListing t t' saved ids) ∧
      ((∀ name ∈ FileTree.namesOf d.path, PageDirectory.IsOther name) →
        t.IsMadeOf PageDirectory.IsOther →
        ∀ id, d.contains t' id = true ↔ ∃ p ∈ saved, p.id = id) := by
  constructor
  · intro r r' h
    exact ⟨PageTable.givesBack_of_serves h, PageTable.isListing_of_serves h⟩
  · intro d t t' h
    have hback := PageDirectory.givesBack_of_serves h
    refine ⟨hback, PageDirectory.givesBack_ok_iff h, fun hempty hpath hplain hsaved => ?_,
      fun hpath hother id => ?_⟩
    · exact PageDirectory.exists_isListing_of_serves hempty hpath hplain h hsaved
    · refine ⟨PageDirectory.exists_saved_of_contains hpath hother h, ?_⟩
      rintro ⟨p, hp, rfl⟩
      exact hback.contains p hp

/-- A page whose root list is not registered. -/
def Page.unfinished : Page := .draft ⟨2⟩ "unfinished" ⟨9⟩

/-- A tree with a directory for pages and nothing else. -/
def FileTree.withPages : FileTree := ⟨Table.empty.insert "pages" .directory⟩

/-- The directory stands. -/
theorem standsAt_withPages : PageDirectory.StandsAt ⟨"pages"⟩ .withPages ["pages"] :=
  ⟨by decide +kernel, by decide +kernel, by decide +kernel⟩

/-- A directory takes a page whose root list is not registered, and does not give it back. -/
theorem not_pages_come_back_unfinished :
    ¬ ∀ (d : PageDirectory) t t' requests saved, d.repository.Serves t requests t' saved →
      d.repository.GivesBack .ok t' saved := by
  intro hclaim
  obtain ⟨t, hsave⟩ := standsAt_withPages.exists_save (p := .unfinished) (by decide +kernel)
  have hserves : (PageDirectory.repository ⟨"pages"⟩).Serves .withPages [.save .unfinished] t
      [.unfinished] := .takes hsave (.done t)
  have hload := (hclaim ⟨"pages"⟩ .withPages t _ _ hserves).load .unfinished ⟨[], [], rfl, nofun⟩
  have hanswer := PageDirectory.load_of_hasFile (PageDirectory.hasFile_of_save hsave)
  cases hload.symm.trans hanswer

/-- A page whose root list is registered. -/
def Page.finished : Page := (Page.draft ⟨1⟩ "finished" ⟨9⟩).withRoot [.hidePlayer]

/-- A page that is not finished and one that is: in memory the first one is refused; a directory
takes and lists both, and the finished one comes back. -/
theorem pages_come_back_unfinished :
    let d : PageDirectory := ⟨"pages"⟩
    let requests : List PageRequest := [.save .unfinished, .list, .save .finished, .load ⟨2⟩]
    let r := PageTable.empty.add .finished
    (PageTable.repository.Serves .empty requests r [.finished] ∧ r.load ⟨1⟩ = .ok .finished ∧
        r.contains ⟨1⟩ = true) ∧
      FileTree.withPages.IsMadeOf PageDirectory.IsOther ∧
      (∀ name ∈ FileTree.namesOf d.path, PageDirectory.IsOther name) ∧
      ∃ t, d.repository.Serves .withPages requests t [.unfinished, .finished] ∧
        d.load t ⟨1⟩ = .ok .finished ∧
        d.load t ⟨2⟩ = .error (.invalidPage (.unregisteredRoot ⟨9⟩ ⟨2⟩)) ∧
        (∃ ids, d.list t = .ok ids ∧
          d.repository.IsListing .withPages t [.unfinished, .finished] ids) ∧
        ∀ id, d.contains t id = true ↔ ∃ p ∈ [Page.unfinished, .finished], p.id = id := by
  intro d requests r
  have hmemory : PageTable.repository.Serves .empty requests r [.finished] :=
    .leaves (fun _ hp => ⟨.unregisteredRoot ⟨9⟩ ⟨2⟩, by cases hp; rfl⟩)
      (.leaves nofun (.takes rfl (.leaves nofun (.done r))))
  have hkept := ((pages_come_back requests _).1 .empty r hmemory).1
  have hfinished := hkept.load .finished ⟨[], [], rfl, nofun⟩
  have hthere := hkept.contains .finished (List.mem_singleton.mpr rfl)
  refine ⟨⟨hmemory, hfinished, hthere⟩, ?_⟩
  have hstands : d.StandsAt .withPages ["pages"] := standsAt_withPages
  obtain ⟨first, hfirst⟩ := hstands.exists_save (p := .unfinished) (by decide +kernel)
  obtain ⟨hstands₁, hcontains⟩ := hstands.save hfirst
  have hnone : first.nodeAt? (["pages"] ++ [PageDirectory.fileName ⟨1⟩]) = none := by
    have hstart : d.contains .withPages ⟨1⟩ = false := by decide +kernel
    have hnew : ¬ d.contains first ⟨1⟩ = true := by
      rw [hcontains, hstart]
      decide
    rw [hstands₁.contains_iff] at hnew
    exact not_not.mp hnew
  obtain ⟨second, hsecond⟩ := hstands₁.exists_save (p := .finished) (by
    rw [show Page.finished.id = ⟨1⟩ from rfl, hnone]
    exact nofun)
  have hserves : d.repository.Serves .withPages requests second [.unfinished, .finished] :=
    .takes hfirst (.leaves nofun (.takes hsecond (.leaves nofun (.done second))))
  have hnames : FileTree.namesOf d.path = ["pages"] := by decide +kernel
  have hpages : PageDirectory.IsOther "pages" := by
    unfold PageDirectory.IsOther
    decide +kernel
  have hpath : ∀ name ∈ FileTree.namesOf d.path, PageDirectory.IsOther name := by
    intro name hname
    rw [hnames, List.mem_singleton] at hname
    rwa [hname]
  have hmade : FileTree.withPages.IsMadeOf PageDirectory.IsOther := by
    intro key hkey
    refine ⟨[], "pages", List.mem_singleton.mp hkey, ?_, hpages⟩
    rw [List.nil_append, ← hnames]
    exact FileTree.areNames_namesOf _
  obtain ⟨hback, -, hlist, hexact⟩ := (pages_come_back requests _).2 d .withPages second hserves
  have hloaded := hback.load .finished ⟨[.unfinished], [], rfl, nofun⟩
  have hrefused := hback.load .unfinished ⟨[], [.finished], rfl, by decide⟩
  have hlisted := hlist (by decide) (fun name hname => (hpath name hname).isPlain)
    (hmade.imp fun _ => PageDirectory.IsOther.isPlain) (by simp)
  exact ⟨hmade, hpath, second, hserves, hloaded, hrefused, hlisted, hexact hpath hmade⟩

end EventScript
