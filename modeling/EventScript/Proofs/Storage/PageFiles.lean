import Mathlib.Data.List.Sort
import EventScript.Proofs.Json.RoundTrip
import EventScript.Proofs.Storage.Names
import EventScript.Storage.Pages

/-!
# Files of pages

Every page has a file of its own in the directory, and the name of the file stands for the page. What
was saved stays until a page of the same identifier is saved; the directory lists a page as soon as
there is a file of it.
-/

namespace EventScript.PageDirectory

open FileTree (AreNames IsName namesOf pathOf isPath)

/-! ## Names of page files -/

/-- The characters of an identifier are digits and hyphens. -/
theorem eq_hyphen_or_hexDigit {κ : IdKind} {id : Id κ} {c : Char} (h : c ∈ id.text.toList) :
    c = '-' ∨ ∃ n < 16, c = Id.hexDigit n := by
  have hdigits (count n : Nat) {c : Char} (hc : c ∈ Id.hexDigits count n) :
      ∃ m < 16, c = Id.hexDigit m := by
    induction count generalizing n with
    | zero => cases hc
    | succ count ih =>
      rcases List.mem_append.mp hc with hc | hc
      · exact ih (n / 16) hc
      · exact ⟨n % 16, Nat.mod_lt _ (by decide), List.mem_singleton.mp hc⟩
  have hgroups (ds : List Char) (hc : c ∈ Id.hyphenate ds) : c = '-' ∨ c ∈ ds := by
    have htake (n m : Nat) (hmem : c ∈ (ds.drop n).take m) : c ∈ ds :=
      List.mem_of_mem_drop (List.mem_of_mem_take hmem)
    simp only [Id.hyphenate, List.mem_append, List.mem_cons] at hc
    rcases hc with hc | hc | hc | hc | hc | hc | hc | hc | hc
    · exact .inr (List.mem_of_mem_take hc)
    · exact .inl hc
    · exact .inr (htake _ _ hc)
    · exact .inl hc
    · exact .inr (htake _ _ hc)
    · exact .inl hc
    · exact .inr (htake _ _ hc)
    · exact .inl hc
    · exact .inr (List.mem_of_mem_drop hc)
  rw [Id.text, String.toList_ofList] at h
  exact (hgroups _ h).imp_right (hdigits 32 _)

/-- The name of a page file has neither slashes nor zero characters in it. -/
theorem ne_of_mem_fileName {id : PageId} {c : Char} (h : c ∈ (fileName id).toList) :
    c ≠ '/' ∧ c ≠ '\x00' := by
  rw [fileName, String.toList_append, List.mem_append] at h
  rcases h with h | h
  · rcases eq_hyphen_or_hexDigit h with rfl | ⟨n, hn, rfl⟩
    · decide
    · have hdigit : ∀ n < 16, Id.hexDigit n ≠ '/' ∧ Id.hexDigit n ≠ '\x00' := by decide
      exact hdigit n hn
  · have hjson : ∀ c ∈ ['.', 'j', 's', 'o', 'n'], c ≠ '/' ∧ c ≠ '\x00' := by simp
    exact hjson c h

/-- The name of a page file has 41 characters. -/
theorem length_fileName (id : PageId) : (fileName id).toList.length = 41 := by
  have hdigits : id.digits.length = 32 := Id.length_hexDigits 32 _
  have hsuffix : ".json".toList.length = 5 := by decide
  rw [fileName, String.toList_append, List.length_append, hsuffix, Id.text, String.toList_ofList]
  simp [Id.hyphenate, hdigits]

/-- A text has at most four bytes for every character. -/
private theorem utf8ByteSize_le (text : String) : text.utf8ByteSize ≤ 4 * text.toList.length := by
  have hlen (cs : List Char) : String.utf8Len cs ≤ 4 * cs.length := by
    induction cs with
    | nil => simp
    | cons c rest ih =>
      have hc := c.utf8Size_le_four
      simp only [String.utf8Len_cons, List.length_cons]
      omega
  rw [← String.ofList_toList (s := text), String.utf8ByteSize_ofList, String.toList_ofList]
  exact hlen _

/-- The name of a page file is a name. -/
theorem isName_fileName (id : PageId) : IsName (fileName id) := by
  constructor
  · intro hempty
    have hlength := length_fileName id
    rw [hempty] at hlength
    cases hlength
  · exact fun hslash => (ne_of_mem_fileName hslash).1 rfl

/-- The name of a page file stands for the page. -/
@[simp] theorem pageOfName?_fileName (id : PageId) : pageOfName? (fileName id) = some id := by
  have hchars : (fileName id).toList = id.text.toList ++ ".json".toList := String.toList_append
  have hlength : (fileName id).toList.length - 5 = id.text.toList.length := by
    have hjson : ".json".toList.length = 5 := by decide
    rw [hchars, List.length_append]
    omega
  have hsuffix : ".json".toList.isSuffixOf (fileName id).toList = true := by
    rw [hchars, List.isSuffixOf_iff_suffix]
    exact List.suffix_append ..
  simp only [pageOfName?]
  rw [if_pos hsuffix, hlength, hchars, List.take_left, String.ofList_toList, Id.ofText?_text]

/-- Pages have different files. -/
theorem fileName_inj {id other : PageId} : fileName id = fileName other ↔ id = other := by
  constructor
  · intro h
    have hpage := pageOfName?_fileName id
    rw [h, pageOfName?_fileName] at hpage
    exact (Option.some.inj hpage).symm
  · rintro rfl
    rfl

/-- The name of a page file leads into a directory. -/
theorem follow_fileName (place : List String) (id : PageId) :
    FileTree.follow place (fileName id) = .ok (place ++ [fileName id]) := by
  have hlength := length_fileName id
  have hsize := utf8ByteSize_le (fileName id)
  have hdot : fileName id ≠ "." := by
    intro heq
    rw [heq] at hlength
    cases hlength
  have hdots : fileName id ≠ ".." := by
    intro heq
    rw [heq] at hlength
    cases hlength
  rw [FileTree.follow, if_neg hdot, if_neg hdots, if_neg (by omega)]

variable {d : PageDirectory} {t t' : FileTree} {p : Page} {id : PageId} {home place : List String}

/-- The names in the path of a page file. -/
theorem namesOf_pagePath (d : PageDirectory) (id : PageId) :
    namesOf (d.pagePath id) = namesOf d.path ++ [fileName id] :=
  FileTree.namesOf_join d.path (isName_fileName id)

/-- The path of a page file is a path if that of the directory is. -/
theorem isPath_pagePath (d : PageDirectory) (id : PageId) :
    isPath (d.pagePath id) = isPath d.path :=
  FileTree.isPath_join d.path fun h => (ne_of_mem_fileName h).2 rfl

/-- The path of a page file is none of a directory. -/
theorem isDirectoryPath_pagePath (d : PageDirectory) (id : PageId) :
    FileTree.isDirectoryPath (d.pagePath id) = false :=
  FileTree.isDirectoryPath_join d.path (isName_fileName id)

/-! ## Where pages stand -/

/-- The directory of the pages stands at a place. -/
structure StandsAt (d : PageDirectory) (t : FileTree) (home : List String) : Prop where
  /-- Its path is one of a system. -/
  isPath : isPath d.path = true
  /-- Its path leads there. -/
  followed : t.followAll [] (namesOf d.path) = .ok home
  /-- A directory stands there. -/
  directory : t.nodeAt? home = some .directory

/-- The place of a page file is in the directory. -/
theorem place_pagePath : t.place (d.pagePath id) = .ok place ↔
    ∃ home, d.StandsAt t home ∧ place = home ++ [fileName id] := by
  have hne : d.pagePath id ≠ "" := by
    intro h
    have hnames := d.namesOf_pagePath id
    rw [h] at hnames
    simp [FileTree.namesOf_eq] at hnames
  rw [FileTree.place_eq_ok, isPath_pagePath, namesOf_pagePath, FileTree.followAll_concat rfl]
  constructor
  · rintro ⟨hpath, -, home, hfollow, hdir, hfile⟩
    rw [follow_fileName] at hfile
    exact ⟨home, ⟨hpath, hfollow, hdir⟩, (Except.ok.inj hfile).symm⟩
  · rintro ⟨home, ⟨hpath, hfollow, hdir⟩, rfl⟩
    exact ⟨hpath, hne, home, hfollow, hdir, follow_fileName home id⟩

/-- The directory stands at one place. -/
theorem StandsAt.unique (h : d.StandsAt t home) (h' : d.StandsAt t place) : home = place :=
  Except.ok.inj (h.followed.symm.trans h'.followed)

/-- The place of the directory is made of names. -/
theorem StandsAt.areNames (h : d.StandsAt t home) (id : PageId) :
    AreNames (home ++ [fileName id]) :=
  FileTree.areNames_of_place (place_pagePath.mpr ⟨home, h, rfl⟩)

/-- There is a page where something stands in the directory under the name of its file. -/
theorem StandsAt.contains_iff (h : d.StandsAt t home) (id : PageId) :
    d.contains t id = true ↔ t.nodeAt? (home ++ [fileName id]) ≠ none := by
  have hplace : t.place (d.pagePath id) = .ok (home ++ [fileName id]) :=
    place_pagePath.mpr ⟨home, h, rfl⟩
  unfold PageDirectory.contains FileTree.contains
  rw [FileTree.node?, hplace, isDirectoryPath_pagePath]
  cases hnode : t.nodeAt? (home ++ [fileName id]) with
  | none => simp [Except.map, hnode]
  | some node => cases node <;> simp [Except.map, hnode]

/-- Where there is a page, there is the directory. -/
theorem exists_standsAt (h : d.contains t id = true) : ∃ home, d.StandsAt t home := by
  unfold PageDirectory.contains FileTree.contains FileTree.node? at h
  cases hplace : t.place (d.pagePath id) with
  | error e => simp [hplace, Except.map] at h
  | ok place =>
    obtain ⟨home, hhome, -⟩ := place_pagePath.mp hplace
    exact ⟨home, hhome⟩

/-! ## Saving and loading -/

/-- What saving a page comes to. -/
theorem save_eq_ok (h : d.save t p = .ok t') : ∃ made home, t.makeDirectories d.path = .ok made ∧
    d.StandsAt made home ∧ t' = made.put (home ++ [fileName p.id]) (.file (toJson p).pretty) ∧
    made.write (d.pagePath p.id) (toJson p).pretty = .ok t' := by
  unfold save at h
  split at h
  · cases h
  · next made hmake =>
    split at h
    · cases h
    · next hwrite =>
      cases h
      obtain ⟨place, hplace, -, -, rfl⟩ := FileTree.write_eq_ok.mp hwrite
      obtain ⟨home, hhome, rfl⟩ := place_pagePath.mp hplace
      exact ⟨made, home, hmake, hhome, rfl, hwrite⟩

/-- A page is saved where the directory stands and no other directory has the name of its file. -/
theorem StandsAt.exists_save (h : d.StandsAt t home)
    (hfree : t.nodeAt? (home ++ [fileName p.id]) ≠ some .directory) :
    ∃ t', d.save t p = .ok t' := by
  have hmake := FileTree.makeDirectories_of_followAll h.isPath h.followed h.directory
  have hwritable : t.IsWritable (d.pagePath p.id) :=
    ⟨_, place_pagePath.mpr ⟨home, h, rfl⟩, hfree, isDirectoryPath_pagePath d p.id⟩
  obtain ⟨t', hwrite⟩ := hwritable.write_eq_ok (toJson p).pretty
  exact ⟨t', by simp only [save, hmake, hwrite]⟩

/-- A page that was saved has a file. -/
theorem hasFile_of_save (h : d.save t p = .ok t') :
    t'.HasFile (d.pagePath p.id) (toJson p).pretty := by
  obtain ⟨made, home, -, -, -, hwrite⟩ := save_eq_ok h
  exact FileTree.hasFile_of_write hwrite

/-- A page file stays as it is when a page with another identifier is saved. -/
theorem hasFile_save_of_ne {content : String} (hsave : d.save t p = .ok t') (hne : p.id ≠ id)
    (h : t.HasFile (d.pagePath id) content) : t'.HasFile (d.pagePath id) content := by
  obtain ⟨made, home, hmake, hhome, hput, hwrite⟩ := save_eq_ok hsave
  obtain ⟨place, hplace, hfile, hpath⟩ :=
    h.of_keepsNodes (FileTree.keepsNodes_of_makeDirectories hmake)
  refine ⟨place, FileTree.place_of_keepsDirectories (FileTree.keepsDirectories_of_write hwrite)
    hplace, ?_, hpath⟩
  obtain ⟨home', hhome', rfl⟩ := place_pagePath.mp hplace
  obtain rfl := hhome.unique hhome'
  have hname : home ++ [fileName id] ≠ home ++ [fileName p.id] := by
    simpa [fileName_inj] using Ne.symm hne
  rw [hput, FileTree.nodeAt?_put made (hhome.areNames _) (by simp) (hhome.areNames _), if_neg hname,
    hfile]

/-- What a directory answers when the file of a page is loaded: the page if it is valid. -/
def answer (p : Page) : Except StorageError Page :=
  if p.isValid then .ok p else .error (.invalidPage (.unregisteredRoot p.root p.id))

/-- The page of a file is loaded if it is valid. -/
theorem load_of_hasFile (h : t.HasFile (d.pagePath p.id) (toJson p).pretty) :
    d.load t p.id = answer p := by
  have hback : ofText? (toJson p).pretty = some p :=
    ((RoundTrips.of_lawful (by decide)).written p).ofPretty
  rw [load, h.contains_eq_true, if_pos rfl, h.read_eq_ok]
  cases hvalid : p.isValid <;> simp [answer, Page.ofFile, hback, Page.validate, hvalid]

/-- Where the directory stands, a save adds the page and nothing else. -/
theorem StandsAt.save (h : d.StandsAt t home) (hsave : d.save t p = .ok t') :
    d.StandsAt t' home ∧ ∀ id, d.contains t' id = true ↔ d.contains t id = true ∨ p.id = id := by
  obtain ⟨made, home', hmake, hhome', hput, hwrite⟩ := save_eq_ok hsave
  have hmade : made = t := by
    have hagain := FileTree.makeDirectories_of_followAll h.isPath h.followed h.directory
    exact Except.ok.inj (hmake.symm.trans hagain)
  subst hmade
  obtain rfl := h.unique hhome'
  have hkeep := FileTree.keepsDirectories_of_write hwrite
  have h' : d.StandsAt t' home :=
    ⟨h.isPath, FileTree.followAll_of_keepsDirectories hkeep h.followed, hkeep home h.directory⟩
  refine ⟨h', fun id => ?_⟩
  rw [h'.contains_iff, h.contains_iff, hput,
    FileTree.nodeAt?_put made (h.areNames _) (by simp) (h.areNames _)]
  by_cases hid : p.id = id
  · simp [hid]
  · have hname : home ++ [fileName id] ≠ home ++ [fileName p.id] := by
      simpa [fileName_inj] using Ne.symm hid
    simp [hname, hid]

/-! ## Listing -/

/-- Putting an identifier in its place is an ordered insertion. -/
theorem insertSorted_eq (id : PageId) (ids : List PageId) :
    insertSorted id ids = ids.orderedInsert (fun a b => a.value.toNat ≤ b.value.toNat) id := by
  induction ids with
  | nil => rfl
  | cons other rest ih => simp only [insertSorted, List.orderedInsert, ih]

/-- The order of a list is that of the identifiers. -/
theorem foldr_insertSorted (ids : List PageId) :
    ids.foldr insertSorted [] = ids.insertionSort fun a b => a.value.toNat ≤ b.value.toNat := by
  induction ids with
  | nil => rfl
  | cons id rest ih => rw [List.foldr_cons, List.insertionSort_cons, ih, insertSorted_eq]

/-- A name that stands for a page only if it is that of the page file. -/
def IsPlain (name : String) : Prop := ∀ id, pageOfName? name = some id → name = fileName id

/-- The name of a page file is plain. -/
theorem isPlain_fileName (id : PageId) : IsPlain (fileName id) := by
  intro other h
  rw [pageOfName?_fileName] at h
  rw [Option.some.inj h]

/-- A name that stands for no page. -/
def IsOther (name : String) : Prop := pageOfName? name = none

/-- A name that stands for no page is plain. -/
theorem IsOther.isPlain {name : String} (h : IsOther name) : IsPlain name := by
  intro id hid
  rw [h] at hid
  cases hid

/-- Saving a page adds no names but that of its file and those of the path of the directory. -/
theorem isMadeOf_save {property : String → Prop} (h : t.IsMadeOf property)
    (hpath : ∀ name ∈ namesOf d.path, property name) (hfile : property (fileName p.id))
    (hsave : d.save t p = .ok t') : t'.IsMadeOf property := by
  obtain ⟨made, home, hmake, hhome, rfl, -⟩ := save_eq_ok hsave
  exact (h.makeDirectories hpath hmake).put (hhome.areNames _) hfile _

/-- A directory that can be listed stands somewhere. -/
theorem standsAt_of_list {ids : List PageId} (h : d.list t = .ok ids) :
    ∃ home, d.StandsAt t home := by
  unfold list at h
  cases hentries : t.entries d.path with
  | error e => simp [hentries] at h
  | ok names =>
    obtain ⟨home, hplace, hdir, -⟩ := FileTree.entries_eq_ok.mp hentries
    obtain ⟨hpath, -, hfollow⟩ := FileTree.place_eq_ok.mp hplace
    exact ⟨home, hpath, hfollow, hdir⟩

/-- A directory of plain names lists the pages there are, in ascending order. -/
theorem StandsAt.list_eq_ok (h : d.StandsAt t home) (hempty : d.path ≠ "")
    (hplain : t.IsMadeOf IsPlain) : ∃ ids, d.list t = .ok ids ∧
      (ids.Pairwise fun a b => a.value.toNat < b.value.toNat) ∧
      ∀ id, id ∈ ids ↔ d.contains t id = true := by
  have hplace : t.place d.path = .ok home :=
    FileTree.place_eq_ok.mpr ⟨h.isPath, hempty, h.followed⟩
  obtain ⟨names, hentries⟩ : ∃ names, t.entries d.path = .ok names :=
    ⟨_, FileTree.entries_eq_ok.mpr ⟨home, hplace, h.directory, rfl⟩⟩
  have hmem (name : String) : name ∈ names ↔
      IsName name ∧ IsPlain name ∧ t.nodeAt? (home ++ [name]) ≠ none :=
    FileTree.mem_entries_iff hplain hplace hentries
  have hnames : ∀ name ∈ names, ∀ id, pageOfName? name = some id → name = fileName id :=
    fun name hname => ((hmem name).mp hname).2.1
  have hnodup : (names.filterMap pageOfName?).Nodup := by
    unfold List.Nodup
    rw [List.pairwise_filterMap]
    refine List.Pairwise.imp_of_mem ?_ (FileTree.nodup_entries hplain hentries)
    intro name name' hname hname' hne id hid id' hid' heq
    exact hne (by rw [hnames name hname id hid, hnames name' hname' id' hid', heq])
  refine ⟨_, by simp only [list, hentries]; rfl, ?_, fun id => ?_⟩
  · rw [foldr_insertSorted]
    have hsorted := List.pairwise_insertionSort
      (fun a b : PageId => a.value.toNat ≤ b.value.toNat) (names.filterMap pageOfName?)
    have hdifferent := (List.perm_insertionSort
      (fun a b : PageId => a.value.toNat ≤ b.value.toNat) _).nodup_iff.mpr hnodup
    refine (hsorted.and hdifferent).imp fun ⟨hle, hne⟩ => ?_
    exact Nat.lt_of_le_of_ne hle fun heq => hne (Id.eq_of_toNat_eq heq)
  · rw [foldr_insertSorted, List.mem_insertionSort, List.mem_filterMap, h.contains_iff]
    constructor
    · rintro ⟨name, hname, hid⟩
      rw [← hnames name hname id hid]
      exact ((hmem name).mp hname).2.2
    · intro hnode
      exact ⟨fileName id, (hmem _).mpr ⟨isName_fileName id, isPlain_fileName id, hnode⟩, by simp⟩

/-- A page that is listed is one of those that names stand for. -/
theorem StandsAt.property_of_mem {property : String → Prop} (h : d.StandsAt t home)
    (hproperty : t.IsMadeOf property) (hid : d.contains t id = true) : property (fileName id) := by
  have hkey : pathOf (home ++ [fileName id]) ∈ t.nodes.keys := by
    rw [Table.mem_keys_iff, Table.contains, ← FileTree.nodeAt?_of_ne_nil t (by simp),
      Option.isSome_iff_ne_none]
    exact (h.contains_iff id).mp hid
  obtain ⟨place, name, heq, hnames, hname⟩ := hproperty _ hkey
  rw [FileTree.pathOf_inj (h.areNames id) hnames] at heq
  have hlast := congrArg List.getLast? heq
  rw [List.getLast?_concat, List.getLast?_concat, Option.some.injEq] at hlast
  rwa [hlast]

end EventScript.PageDirectory
