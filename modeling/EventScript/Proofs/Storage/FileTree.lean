import EventScript.Storage.FileTree
import EventScript.Proofs.Table

/-!
# What stays in a file tree

A node that is put somewhere hides nothing but what stood there. Directories stay when directories
are made and files are written, so a path that led somewhere leads there ever after; files stay when
directories are made. A file that was written is read.
-/

namespace EventScript.FileTree

/-- The result of one computation after another. -/
theorem bind_eq_ok {ε α β : Type} {x : Except ε α} {f : α → Except ε β} {b : β} :
    x >>= f = .ok b ↔ ∃ a, x = .ok a ∧ f a = .ok b := by
  cases x with
  | error e => exact ⟨nofun, nofun⟩
  | ok a =>
    constructor
    · intro h
      exact ⟨a, rfl, h⟩
    · rintro ⟨_, ⟨⟩, h⟩
      exact h

variable {t t' t₁ t₂ : FileTree} {q home : List String} {names : List String} {name : String}

/-! ## Nodes -/

/-- A tree with one more node, or with another one at a place. -/
def put (t : FileTree) (q : List String) (node : FileNode) : FileTree :=
  ⟨t.nodes.insert (pathOf q) node⟩

/-- The root is a directory. -/
@[simp] theorem nodeAt?_nil (t : FileTree) : t.nodeAt? [] = some .directory := rfl

/-- What stands below the root is found under its path. -/
theorem nodeAt?_of_ne_nil (t : FileTree) (h : q ≠ []) : t.nodeAt? q = t.nodes.get? (pathOf q) := by
  simp [nodeAt?, h]

/-- What does not stand as a directory does not stand at the root. -/
theorem ne_nil_of_nodeAt? (h : t.nodeAt? q ≠ some .directory) : q ≠ [] := by
  rintro rfl
  exact h rfl

/-- A node stands where it was put. -/
theorem nodeAt?_put_self (t : FileTree) (h : q ≠ []) (node : FileNode) :
    (t.put q node).nodeAt? q = some node := by
  simp [nodeAt?_of_ne_nil _ h, put]

/-- What stands under another path stays. -/
theorem nodeAt?_put_of_ne (t : FileTree) {place : List String} (h : pathOf q ≠ pathOf place)
    (node : FileNode) : (t.put q node).nodeAt? place = t.nodeAt? place := by
  by_cases hplace : place = []
  · simp [hplace]
  · simp [nodeAt?_of_ne_nil _ hplace, put, Table.get?_insert_of_ne _ _ h]

/-- What differs from the node that was at a place stays when another one is put there. -/
theorem nodeAt?_put_of_nodeAt?_ne (hq : q ≠ []) {place : List String}
    (h : t.nodeAt? q ≠ t.nodeAt? place) (node : FileNode) :
    (t.put q node).nodeAt? place = t.nodeAt? place := by
  by_cases hplace : place = []
  · simp [hplace]
  · apply nodeAt?_put_of_ne
    intro heq
    rw [nodeAt?_of_ne_nil t hq, nodeAt?_of_ne_nil t hplace, heq] at h
    exact h rfl

/-! ## What stays -/

/-- The directories of one tree are directories of another. -/
def KeepsDirectories (t t' : FileTree) : Prop :=
  ∀ place, t.nodeAt? place = some .directory → t'.nodeAt? place = some .directory

/-- The nodes of one tree are nodes of another. -/
def KeepsNodes (t t' : FileTree) : Prop :=
  ∀ place node, t.nodeAt? place = some node → t'.nodeAt? place = some node

theorem KeepsDirectories.refl (t : FileTree) : KeepsDirectories t t := fun _ h => h

theorem KeepsDirectories.trans (h : KeepsDirectories t t₁) (h₁ : KeepsDirectories t₁ t₂) :
    KeepsDirectories t t₂ := fun place hplace => h₁ place (h place hplace)

theorem KeepsNodes.refl (t : FileTree) : KeepsNodes t t := fun _ _ h => h

theorem KeepsNodes.trans (h : KeepsNodes t t₁) (h₁ : KeepsNodes t₁ t₂) : KeepsNodes t t₂ :=
  fun place node hplace => h₁ place node (h place node hplace)

theorem KeepsNodes.keepsDirectories (h : KeepsNodes t t') : KeepsDirectories t t' :=
  fun place => h place .directory

/-- What is put where no directory stands keeps the directories. -/
theorem keepsDirectories_put (h : t.nodeAt? q ≠ some .directory) (node : FileNode) :
    KeepsDirectories t (t.put q node) := by
  intro place hplace
  rw [nodeAt?_put_of_nodeAt?_ne (ne_nil_of_nodeAt? h) (hplace ▸ h), hplace]

/-- What is put where nothing stands keeps all nodes. -/
theorem keepsNodes_put (h : t.nodeAt? q = none) (node : FileNode) :
    KeepsNodes t (t.put q node) := by
  intro place other hplace
  have hq : q ≠ [] := by
    rintro rfl
    simp at h
  rw [nodeAt?_put_of_nodeAt?_ne hq (by simp [h, hplace]), hplace]

/-! ## Paths -/

/-- All names but the last lead to directories. -/
theorem followAll_cons_cons {place : List String} {next : String} {rest : List String} :
    t.followAll place (name :: next :: rest) = .ok q ↔
      ∃ step, follow place name = .ok step ∧ t.nodeAt? step = some .directory ∧
        t.followAll step (next :: rest) = .ok q := by
  rw [followAll, bind_eq_ok]
  refine exists_congr fun step => and_congr_right fun _ => ?_
  cases t.nodeAt? step with
  | none => simp
  | some node => cases node <;> simp

/-- A path that leads somewhere leads there as long as the directories stay. -/
theorem followAll_of_keepsDirectories (hkeep : KeepsDirectories t t') {place : List String}
    (h : t.followAll place names = .ok q) : t'.followAll place names = .ok q := by
  induction names generalizing place with
  | nil => exact h
  | cons name rest ih =>
    cases rest with
    | nil => exact h
    | cons next rest =>
      obtain ⟨step, hstep, hdir, h⟩ := followAll_cons_cons.mp h
      exact followAll_cons_cons.mpr ⟨step, hstep, hkeep step hdir, ih h⟩

/-- A path that has a place keeps it as long as the directories stay. -/
theorem place_of_keepsDirectories (hkeep : KeepsDirectories t t') {path : String}
    (h : t.place path = .ok q) : t'.place path = .ok q := by
  unfold place at h ⊢
  split
  · next hpath => simp [hpath] at h
  · split
    · next hpath hempty => simp [hpath, hempty] at h
    · next hpath hempty =>
      rw [if_neg hpath, if_neg hempty] at h
      exact followAll_of_keepsDirectories hkeep h

/-- A path that leads somewhere through one more name leads to a directory before. -/
theorem followAll_concat {place : List String} (hplace : t.nodeAt? place = some .directory) :
    t.followAll place (names ++ [name]) = .ok q ↔
      ∃ home, t.followAll place names = .ok home ∧ t.nodeAt? home = some .directory ∧
        follow home name = .ok q := by
  induction names generalizing place with
  | nil => simp [followAll, hplace]
  | cons first rest ih =>
    cases rest with
    | nil => exact followAll_cons_cons
    | cons next rest =>
      rw [List.cons_append, List.cons_append, followAll_cons_cons]
      simp only [followAll_cons_cons]
      constructor
      · rintro ⟨step, hstep, hdir, h⟩
        obtain ⟨home, hhome, hrest⟩ := (ih hdir).mp h
        exact ⟨home, ⟨step, hstep, hdir, hhome⟩, hrest⟩
      · rintro ⟨home, ⟨step, hstep, hdir, hhome⟩, hrest⟩
        exact ⟨step, hstep, hdir, (ih hdir).mpr ⟨home, hhome, hrest⟩⟩

/-! ## Making directories -/

/-- Every name leads to a directory, which is made if nothing stands there. -/
theorem makeAll_cons {place rest : List String} : t.makeAll place (name :: rest) = .ok t' ↔
    ∃ step, follow place name = .ok step ∧
      (t.nodeAt? step = none ∧ (t.put step .directory).makeAll step rest = .ok t' ∨
        t.nodeAt? step = some .directory ∧ t.makeAll step rest = .ok t') := by
  rw [makeAll, bind_eq_ok]
  refine exists_congr fun step => and_congr_right fun _ => ?_
  cases t.nodeAt? step with
  | none => simp [put]
  | some node => cases node <;> simp

/-- Making directories keeps all nodes. -/
theorem keepsNodes_of_makeAll {place : List String} (h : t.makeAll place names = .ok t') :
    KeepsNodes t t' := by
  induction names generalizing t place with
  | nil =>
    cases h
    exact .refl _
  | cons name rest ih =>
    obtain ⟨step, -, ⟨hnone, h⟩ | ⟨-, h⟩⟩ := makeAll_cons.mp h
    · exact (keepsNodes_put hnone .directory).trans (ih h)
    · exact ih h

/-- Directories that were made need not be made again as long as they stay. -/
theorem makeAll_of_makeAll {place : List String} (h : t.makeAll place names = .ok t₁)
    (hkeep : KeepsDirectories t₁ t₂) : t₂.makeAll place names = .ok t₂ := by
  induction names generalizing t place with
  | nil => rfl
  | cons name rest ih =>
    obtain ⟨step, hstep, ⟨hnone, h⟩ | ⟨hdir, h⟩⟩ := makeAll_cons.mp h
    · have hbelow : step ≠ [] := by
        rintro rfl
        simp at hnone
      have hput := nodeAt?_put_self t hbelow .directory
      have hmade := hkeep step (keepsNodes_of_makeAll h step _ hput)
      exact makeAll_cons.mpr ⟨step, hstep, .inr ⟨hmade, ih h⟩⟩
    · have hmade := hkeep step (keepsNodes_of_makeAll h step _ hdir)
      exact makeAll_cons.mpr ⟨step, hstep, .inr ⟨hmade, ih h⟩⟩

/-- Directories that a path leads through need not be made. -/
theorem makeAll_of_followAll {place : List String} (h : t.followAll place names = .ok q)
    (hdir : t.nodeAt? q = some .directory) : t.makeAll place names = .ok t := by
  induction names generalizing place with
  | nil => rfl
  | cons name rest ih =>
    cases rest with
    | nil => exact makeAll_cons.mpr ⟨q, h, .inr ⟨hdir, rfl⟩⟩
    | cons next rest =>
      obtain ⟨step, hstep, hdirectory, h⟩ := followAll_cons_cons.mp h
      exact makeAll_cons.mpr ⟨step, hstep, .inr ⟨hdirectory, ih h⟩⟩

/-- What making the directories of a path comes to. -/
theorem makeDirectories_eq_ok {path : String} (h : t.makeDirectories path = .ok t') :
    isPath path = true ∧
      ((namesOf path).getLast? = some "." ∧ (∃ q, t.followAll [] (namesOf path) = .ok q) ∧ t' = t ∨
        (namesOf path).getLast? ≠ some "." ∧ t.makeAll [] (namesOf path) = .ok t') := by
  simp only [makeDirectories] at h
  split at h
  · cases h
  · next hpath =>
    refine ⟨by simpa using hpath, ?_⟩
    split at h
    · next hlast =>
      cases hfollow : t.followAll [] (namesOf path) with
      | error e => simp [hfollow, Except.map] at h
      | ok q =>
        simp only [hfollow, Except.map, Except.ok.injEq] at h
        exact .inl ⟨hlast, ⟨q, rfl⟩, h.symm⟩
    · next hlast => exact .inr ⟨hlast, h⟩

/-- Making the directories of a path keeps all nodes. -/
theorem keepsNodes_of_makeDirectories {path : String} (h : t.makeDirectories path = .ok t') :
    KeepsNodes t t' := by
  obtain ⟨-, ⟨-, -, rfl⟩ | ⟨-, h⟩⟩ := makeDirectories_eq_ok h
  · exact .refl _
  · exact keepsNodes_of_makeAll h

/-- The directories of a path that were made need not be made again as long as they stay. -/
theorem makeDirectories_of_makeDirectories {path : String} (h : t.makeDirectories path = .ok t₁)
    (hkeep : KeepsDirectories t₁ t₂) : t₂.makeDirectories path = .ok t₂ := by
  obtain ⟨hpath, ⟨hlast, ⟨q, hfollow⟩, rfl⟩ | ⟨hlast, h⟩⟩ := makeDirectories_eq_ok h
  · have hfollow₂ := followAll_of_keepsDirectories hkeep hfollow
    simp [makeDirectories, hpath, hlast, hfollow₂, Except.map]
  · have hmake := makeAll_of_makeAll h hkeep
    simp [makeDirectories, hpath, hlast, hmake]

/-- The directories of a path that leads to one need not be made. -/
theorem makeDirectories_of_followAll {path : String} (hpath : isPath path = true)
    (h : t.followAll [] (namesOf path) = .ok q) (hdir : t.nodeAt? q = some .directory) :
    t.makeDirectories path = .ok t := by
  have hmake := makeAll_of_followAll h hdir
  simp [makeDirectories, hpath, h, hmake, Except.map]

/-! ## Files -/

/-- Whether a file can be written under a path: it has a place that no directory stands at. -/
def IsWritable (t : FileTree) (path : String) : Prop :=
  ∃ q, t.place path = .ok q ∧ t.nodeAt? q ≠ some .directory ∧ isDirectoryPath path = false

/-- A file stands under a path. -/
def HasFile (t : FileTree) (path content : String) : Prop :=
  ∃ q, t.place path = .ok q ∧ t.nodeAt? q = some (.file content) ∧ isDirectoryPath path = false

variable {path content : String}

/-- A file is written where one can be written. -/
theorem write_eq_ok : t.write path content = .ok t' ↔
    ∃ q, t.place path = .ok q ∧ t.nodeAt? q ≠ some .directory ∧ isDirectoryPath path = false ∧
      t' = t.put q (.file content) := by
  unfold write
  rw [bind_eq_ok]
  refine exists_congr fun q => and_congr_right fun _ => ?_
  by_cases hdir : t.nodeAt? q = some .directory
  · simp [hdir]
  · have hput : t.put q (.file content) = t' ↔ t' = t.put q (.file content) := eq_comm
    cases hpath : isDirectoryPath path <;> simp_all [put]

/-- What can be written is written. -/
theorem IsWritable.write_eq_ok (h : t.IsWritable path) (content : String) :
    ∃ t', t.write path content = .ok t' := by
  obtain ⟨q, hplace, hdir, hpath⟩ := h
  exact ⟨_, FileTree.write_eq_ok.mpr ⟨q, hplace, hdir, hpath, rfl⟩⟩

/-- Writing a file keeps the directories. -/
theorem keepsDirectories_of_write (h : t.write path content = .ok t') : KeepsDirectories t t' := by
  obtain ⟨q, -, hdir, -, rfl⟩ := write_eq_ok.mp h
  exact keepsDirectories_put hdir _

/-- A file that was written stands there. -/
theorem hasFile_of_write (h : t.write path content = .ok t') : t'.HasFile path content := by
  have hkeep := keepsDirectories_of_write h
  obtain ⟨q, hplace, hdir, hpath, rfl⟩ := write_eq_ok.mp h
  exact ⟨q, place_of_keepsDirectories hkeep hplace, nodeAt?_put_self t (ne_nil_of_nodeAt? hdir) _,
    hpath⟩

/-- A file that stands somewhere can be written over. -/
theorem HasFile.isWritable (h : t.HasFile path content) : t.IsWritable path := by
  obtain ⟨q, hplace, hfile, hpath⟩ := h
  exact ⟨q, hplace, by simp [hfile], hpath⟩

/-- A file that stands somewhere is there. -/
theorem HasFile.contains_eq_true (h : t.HasFile path content) : t.contains path = true := by
  obtain ⟨q, hplace, hfile, hpath⟩ := h
  simp [contains, node?, hplace, Except.map, hfile, hpath]

/-- A file that stands somewhere is read. -/
theorem HasFile.read_eq_ok (h : t.HasFile path content) : t.read path = .ok content := by
  obtain ⟨q, hplace, hfile, hpath⟩ := h
  refine bind_eq_ok.mpr ⟨some (.file content), ?_, ?_⟩
  · simp [node?, hplace, Except.map, hfile]
  · simp [hpath]

/-- A file stays when all nodes stay. -/
theorem HasFile.of_keepsNodes (h : t.HasFile path content) (hkeep : KeepsNodes t t') :
    t'.HasFile path content := by
  obtain ⟨q, hplace, hfile, hpath⟩ := h
  exact ⟨q, place_of_keepsDirectories hkeep.keepsDirectories hplace, hkeep q _ hfile, hpath⟩

end EventScript.FileTree
