import Mathlib.Data.String.Basic
import EventScript.Proofs.Storage.FileTree

/-!
# Names and places

The names in a path and the path of names are inverse to each other, where names are not empty and
have no slash in them. All places that paths lead to are made of such names. In a tree whose nodes
all stand under the paths of names, a place is told by its path.
-/

namespace EventScript.FileTree

variable {t t' : FileTree} {q place names : List String} {name path content : String}

/-! ## Names in paths -/

/-- Whether a text is one name of a path. -/
def IsName (name : String) : Prop := name ≠ "" ∧ '/' ∉ name.toList

/-- Names of a path. -/
def AreNames (names : List String) : Prop := ∀ name ∈ names, IsName name

/-- No part of a list that is split has what it is split at. -/
private theorem not_of_mem_splitOnP {α : Type} {p : α → Bool} {text part : List α}
    (h : part ∈ text.splitOnP p) : ∀ c ∈ part, p c = false := by
  induction text generalizing part with
  | nil =>
    rw [List.splitOnP_nil, List.mem_singleton] at h
    subst h
    simp
  | cons first rest ih =>
    rw [List.splitOnP_cons_eq_if_modifyHead] at h
    split at h
    · rcases List.mem_cons.mp h with rfl | h
      · simp
      · exact ih h
    · next hfirst =>
      obtain ⟨part', parts, hparts⟩ := List.exists_cons_of_ne_nil (List.splitOnP_ne_nil p rest)
      rw [hparts] at h ih
      rcases List.mem_cons.mp h with rfl | h
      · intro c hc
        rcases List.mem_cons.mp hc with rfl | hc
        · simpa using hfirst
        · exact ih List.mem_cons_self c hc
      · exact ih (List.mem_cons_of_mem _ h)

/-- The names in a path, told by its characters. -/
theorem namesOf_eq (path : String) : namesOf path =
    ((path.toList.splitOnP (· == '/')).map String.ofList).filter (· != "") := by
  rw [namesOf, String.splitToList_of_valid]

/-- The names in a path are names. -/
theorem areNames_namesOf (path : String) : AreNames (namesOf path) := by
  intro name hname
  rw [namesOf_eq, List.mem_filter, List.mem_map] at hname
  obtain ⟨⟨part, hpart, rfl⟩, hne⟩ := hname
  refine ⟨by simpa using hne, fun hslash => ?_⟩
  rw [String.toList_ofList] at hslash
  have h := not_of_mem_splitOnP hpart _ hslash
  simp at h

/-- A path that ends in a slash has something in front of it. -/
theorem exists_eq_append_slash (h : isDirectoryPath path = true) :
    ∃ front, path = front ++ "/" := by
  obtain ⟨cs, hcs⟩ := List.getLast?_eq_some_iff.mp (beq_iff_eq.mp h)
  refine ⟨String.ofList cs, String.toList_inj.mp ?_⟩
  rw [hcs, String.toList_append, String.toList_ofList]
  rfl

/-- The names in two paths with a slash between them. -/
theorem namesOf_append (first second : String) :
    namesOf (first ++ "/" ++ second) = namesOf first ++ namesOf second := by
  have hsplit : (first ++ "/" ++ second).toList = first.toList ++ '/' :: second.toList := by
    simp [String.toList_append]
  rw [namesOf_eq, namesOf_eq, namesOf_eq, hsplit, List.splitOnP_append_cons _ _ (by simp),
    List.map_append, List.filter_append]

/-- Names are the names in their path. -/
theorem namesOf_pathOf (h : AreNames names) : namesOf (pathOf names) = names := by
  by_cases hnil : names = []
  · subst hnil
    decide +kernel
  · have hsplit : (['/'].intercalate (names.map String.toList)).splitOnP (· == '/') =
        names.map String.toList := by
      rw [← List.splitOn_eq_splitOnP]
      apply List.splitOn_intercalate
      · intro part hpart
        obtain ⟨name, hname, rfl⟩ := List.mem_map.mp hpart
        exact (h name hname).2
      · simpa using hnil
    have hne : names.filter (· != "") = names := by
      rw [List.filter_eq_self]
      intro name hname
      simpa using (h name hname).1
    have hslash : "/".toList = ['/'] := rfl
    rw [namesOf_eq, pathOf, String.toList_intercalate, hslash, hsplit, List.map_map]
    simpa using hne

/-- A name is the only one in it. -/
theorem namesOf_name (h : IsName name) : namesOf name = [name] := by
  have hsplit : name.toList.splitOnP (· == '/') = [name.toList] := by
    apply List.splitOnP_eq_singleton
    intro c hc
    have hne : c ≠ '/' := fun heq => h.2 (heq ▸ hc)
    simpa using hne
  simp [namesOf_eq, hsplit, h.1]

/-- The names in the path of a name in a directory. -/
theorem namesOf_join (path : String) (h : IsName name) :
    namesOf (join path name) = namesOf path ++ [name] := by
  have hempty : namesOf "" = [] := @namesOf_pathOf [] (fun _ => nofun)
  unfold join
  split
  next hjoined =>
    rcases Bool.or_eq_true_iff.mp hjoined with hpath | hpath
    · rw [String.isEmpty_iff.mp hpath, hempty, String.empty_append, namesOf_name h]
      rfl
    · obtain ⟨front, rfl⟩ := exists_eq_append_slash hpath
      rw [namesOf_append, namesOf_name h, ← @String.append_empty (front ++ "/"), namesOf_append,
        hempty, List.append_nil]
  · rw [namesOf_append, namesOf_name h]

/-- The path of a name in a directory is a path if that of the directory is. -/
theorem isPath_join (path : String) (h : '\x00' ∉ name.toList) :
    isPath (join path name) = isPath path := by
  unfold join
  split <;> simp [isPath, String.toList_append, h]

/-- The path of a name in a directory can be that of a file. -/
theorem isDirectoryPath_join (path : String) (h : IsName name) :
    isDirectoryPath (join path name) = false := by
  have hlast (front : String) : isDirectoryPath (front ++ name) = false := by
    have hname : name.toList ≠ [] := fun hnil => h.1 (String.toList_eq_nil_iff.mp hnil)
    rw [isDirectoryPath, String.toList_append, List.getLast?_append_of_ne_nil _ hname,
      List.getLast?_eq_some_getLast hname, beq_eq_false_iff_ne]
    intro hslash
    exact h.2 (Option.some.inj hslash ▸ List.getLast_mem hname)
  unfold join
  split <;> exact hlast _

/-- Names are told by their path. -/
theorem pathOf_inj (hq : AreNames q) (hplace : AreNames place) :
    pathOf q = pathOf place ↔ q = place := by
  constructor
  · intro h
    rw [← namesOf_pathOf hq, h, namesOf_pathOf hplace]
  · rintro rfl
    rfl

/-! ## Places -/

/-- Names that go on with a name. -/
theorem areNames_concat : AreNames (names ++ [name]) ↔ AreNames names ∧ IsName name := by
  simp [AreNames, or_imp, forall_and]

/-- A name leads to the directory itself or to what it lies in, or to a place with one more name. -/
theorem follow_cases (h : follow place name = .ok q) :
    (q = place ∨ q = place.dropLast) ∨ q = place ++ [name] := by
  simp only [follow] at h
  split at h
  · cases h
    exact .inl (.inl rfl)
  · split at h
    · cases h
      exact .inl (.inr rfl)
    · split at h
      · cases h
      · cases h
        exact .inr rfl

/-- A name leads to a place all of whose names are among those before and the name. -/
theorem mem_of_follow (h : follow place name = .ok q) {other : String} (hother : other ∈ q) :
    other ∈ place ∨ other = name := by
  rcases follow_cases h with (rfl | rfl) | rfl
  · exact .inl hother
  · exact .inl (List.dropLast_subset _ hother)
  · simpa using hother

/-- Names lead to a place all of whose names are among those before and them. -/
theorem mem_of_followAll (h : t.followAll place names = .ok q) {other : String}
    (hother : other ∈ q) : other ∈ place ∨ other ∈ names := by
  induction names generalizing place with
  | nil =>
    cases h
    exact .inl hother
  | cons name rest ih =>
    have hstep : ∃ step, follow place name = .ok step ∧ (other ∈ step ∨ other ∈ rest) := by
      cases rest with
      | nil => exact ⟨q, h, .inl hother⟩
      | cons next rest =>
        obtain ⟨step, hstep, -, h⟩ := followAll_cons_cons.mp h
        exact ⟨step, hstep, ih h⟩
    obtain ⟨step, hfollow, hmem | hmem⟩ := hstep
    · rcases mem_of_follow hfollow hmem with hplace | rfl
      · exact .inl hplace
      · exact .inr List.mem_cons_self
    · exact .inr (List.mem_cons_of_mem _ hmem)

/-- What the place of a path says of the path. -/
theorem place_eq_ok : t.place path = .ok q ↔
    isPath path = true ∧ path ≠ "" ∧ t.followAll [] (namesOf path) = .ok q := by
  unfold place
  cases isPath path with
  | false => simp
  | true => by_cases hempty : path = "" <;> simp [hempty]

/-- The names of the place of a path are names in the path. -/
theorem mem_namesOf_of_place (h : t.place path = .ok q) {other : String} (hother : other ∈ q) :
    other ∈ namesOf path := by
  obtain ⟨-, -, hfollow⟩ := place_eq_ok.mp h
  exact (mem_of_followAll hfollow hother).resolve_left List.not_mem_nil

/-- The place of a path is made of names. -/
theorem areNames_of_place (h : t.place path = .ok q) : AreNames q :=
  fun name hname => areNames_namesOf path name (mem_namesOf_of_place h hname)

/-! ## Trees of names -/

/-- What stands at a place after a node was put at one. -/
theorem nodeAt?_put (t : FileTree) (hq : AreNames q) (hnil : q ≠ []) (hplace : AreNames place)
    (node : FileNode) :
    (t.put q node).nodeAt? place = if place = q then some node else t.nodeAt? place := by
  by_cases heq : place = q
  · rw [if_pos heq, heq, nodeAt?_put_self t hnil]
  · rw [if_neg heq, nodeAt?_put_of_ne]
    rw [ne_eq, pathOf_inj hq hplace]
    exact Ne.symm heq

/-- Every node stands under the path of names, the last of which has a property. -/
def IsMadeOf (property : String → Prop) (t : FileTree) : Prop :=
  ∀ key ∈ t.nodes.keys, ∃ place name,
    key = pathOf (place ++ [name]) ∧ AreNames (place ++ [name]) ∧ property name

variable {property : String → Prop}

/-- A tree is made of names with every property that follows. -/
theorem IsMadeOf.imp {other : String → Prop} (h : t.IsMadeOf property)
    (himp : ∀ name, property name → other name) : t.IsMadeOf other := by
  intro key hkey
  obtain ⟨place, name, heq, hnames, hname⟩ := h key hkey
  exact ⟨place, name, heq, hnames, himp name hname⟩

/-- A tree stays made of names when a node is put at a place of names. -/
theorem IsMadeOf.put (h : t.IsMadeOf property) (hnames : AreNames (place ++ [name]))
    (hname : property name) (node : FileNode) :
    (t.put (place ++ [name]) node).IsMadeOf property := by
  intro key hkey
  by_cases heq : pathOf (place ++ [name]) = key
  · exact ⟨place, name, heq.symm, hnames, hname⟩
  · apply h key
    rw [Table.mem_keys_iff, Table.contains] at hkey ⊢
    rwa [FileTree.put, Table.get?_insert_of_ne _ _ heq] at hkey

/-- A tree stays made of names when directories are made. -/
theorem IsMadeOf.makeAll (h : t.IsMadeOf property)
    (hplace : ∀ name ∈ place, IsName name ∧ property name)
    (hnames : ∀ name ∈ names, IsName name ∧ property name)
    (hmake : t.makeAll place names = .ok t') : t'.IsMadeOf property := by
  induction names generalizing t place with
  | nil =>
    cases hmake
    exact h
  | cons name rest ih =>
    obtain ⟨step, hfollow, hmake⟩ := makeAll_cons.mp hmake
    have hrest : ∀ other ∈ rest, IsName other ∧ property other := fun other hother =>
      hnames other (List.mem_cons_of_mem _ hother)
    have hstep : ∀ other ∈ step, IsName other ∧ property other := by
      intro other hother
      rcases mem_of_follow hfollow hother with hmem | rfl
      · exact hplace other hmem
      · exact hnames other List.mem_cons_self
    rcases hmake with ⟨hnone, hmake⟩ | ⟨-, hmake⟩
    · obtain rfl | ⟨init, last, rfl⟩ := List.eq_nil_or_concat' step
      · simp at hnone
      · refine ih (h.put ?_ ?_ _) hstep hrest hmake
        · exact fun other hother => (hstep other hother).1
        · exact (hstep last (by simp)).2
    · exact ih h hstep hrest hmake

/-- A tree stays made of names when the directories of a path are made. -/
theorem IsMadeOf.makeDirectories (h : t.IsMadeOf property)
    (hnames : ∀ name ∈ namesOf path, property name)
    (hmake : t.makeDirectories path = .ok t') : t'.IsMadeOf property := by
  obtain ⟨-, ⟨-, -, rfl⟩ | ⟨-, hmake⟩⟩ := makeDirectories_eq_ok hmake
  · exact h
  · refine h.makeAll (by simp) (fun name hname => ?_) hmake
    exact ⟨areNames_namesOf path name hname, hnames name hname⟩

/-- What listing a directory comes to. -/
theorem entries_eq_ok : t.entries path = .ok names ↔
    ∃ home, t.place path = .ok home ∧ t.nodeAt? home = some .directory ∧
      names = t.nodes.keys.filterMap fun key =>
        if (namesOf key).dropLast = home then (namesOf key).getLast? else none := by
  unfold entries
  rw [bind_eq_ok]
  refine exists_congr fun home => and_congr_right fun _ => ?_
  cases t.nodeAt? home with
  | none => simp
  | some node => cases node <;> simp [pure, Except.pure, eq_comm]

/-- The names in a directory are those of the nodes in it. -/
theorem mem_entries_iff (h : t.IsMadeOf property) (hplace : t.place path = .ok place)
    (hentries : t.entries path = .ok names) :
    name ∈ names ↔ IsName name ∧ property name ∧ t.nodeAt? (place ++ [name]) ≠ none := by
  obtain ⟨home, hhome, -, rfl⟩ := entries_eq_ok.mp hentries
  obtain rfl : home = place := Except.ok.inj (hhome.symm.trans hplace)
  have hkey : t.nodeAt? (home ++ [name]) ≠ none ↔ pathOf (home ++ [name]) ∈ t.nodes.keys := by
    rw [Table.mem_keys_iff, Table.contains, nodeAt?_of_ne_nil t (by simp), Option.isSome_iff_ne_none]
  rw [hkey, List.mem_filterMap]
  constructor
  · rintro ⟨key, hmem, hname⟩
    obtain ⟨above, last, rfl, hnames, hlast⟩ := h key hmem
    rw [namesOf_pathOf hnames, List.dropLast_concat, List.getLast?_concat] at hname
    split at hname
    · next habove =>
      cases hname
      subst habove
      exact ⟨(areNames_concat.mp hnames).2, hlast, hmem⟩
    · cases hname
  · rintro ⟨hname, -, hmem⟩
    have hnames := areNames_concat.mpr ⟨areNames_of_place hplace, hname⟩
    exact ⟨_, hmem, by simp [namesOf_pathOf hnames]⟩

/-- A directory has every name once. -/
theorem nodup_entries (h : t.IsMadeOf property) (hentries : t.entries path = .ok names) :
    names.Nodup := by
  obtain ⟨home, -, -, rfl⟩ := entries_eq_ok.mp hentries
  unfold List.Nodup
  rw [List.pairwise_filterMap]
  refine List.Pairwise.imp_of_mem ?_ t.nodes.nodup_keys
  intro key key' hkey hkey' hne name hname name' hname' heq
  obtain ⟨above, last, rfl, hnames, -⟩ := h key hkey
  obtain ⟨above', last', rfl, hnames', -⟩ := h key' hkey'
  rw [namesOf_pathOf hnames, List.dropLast_concat, List.getLast?_concat] at hname
  rw [namesOf_pathOf hnames', List.dropLast_concat, List.getLast?_concat] at hname'
  split at hname
  · next habove =>
    split at hname'
    · next habove' =>
      cases hname
      cases hname'
      exact hne (by rw [habove, habove', heq])
    · cases hname'
  · cases hname

end EventScript.FileTree
