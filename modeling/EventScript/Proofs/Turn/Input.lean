import EventScript.Proofs.Scene.Parts
import EventScript.Proofs.Turn.Waiting

/-!
# What is entered for a variable

A player who is asked for the value of a variable enters a text. If it can be read as a value of the
variable, the script goes on with the first branch and should find the variable at that value; if
not, nothing changes and it goes on with the second one.

A variable of a guild has no owner for a player without one, and neither has a variable of an
account that is not known. What is entered for it is read but not kept, and the script goes on with
the first branch nevertheless.
-/

namespace EventScript

/-! ## Reading and keeping a value -/

namespace Value

/-- What is read as a value of a type has that type. -/
theorem dataType_of_parse? {type : DataType} {text : String} {value : Value}
    (h : parse? type text = some value) : value.dataType = type := by
  unfold parse? at h
  cases type with
  | boolean =>
    obtain ⟨b, -, rfl⟩ := Option.map_eq_some_iff.mp h
    rfl
  | integer =>
    obtain ⟨n, -, rfl⟩ := Option.map_eq_some_iff.mp h
    rfl
  | string =>
    cases h
    rfl

end Value

namespace World

/-- The value that a text is read as for a variable. -/
def entered? (w : World) (v : VariableRef) (text : String) : Option Value :=
  (w.catalog.vars.get? v).bind fun d => Value.parse? d.dataType text

/-- Nobody keeps the variables of a scope for a player: those of the guild for a player without one,
those of an account that is not known. -/
def LacksOwner (w : World) (p : Player) : Scope → Prop
  | .guild => w.guildOf? p = none
  | .user => w.user? p.user = none
  | .player | .server => False

/-- A value that is read is one of a described variable and has its type. -/
theorem entered?_eq_some_iff {w : World} {v : VariableRef} {text : String} {value : Value} :
    w.entered? v text = some value ↔ ∃ d, w.catalog.vars.get? v = some d ∧
      Value.parse? d.dataType text = some value := Option.bind_eq_some_iff

end World

namespace Setting

variable {s s' : Setting} {v : VariableRef} {value : Value} {d : VariableDescriptor}

/-- A scope without owner. -/
theorem owner?_eq_none_iff {scope : Scope} :
    s.owner? scope = none ↔ s.world.LacksOwner s.player scope := by
  cases scope with
  | player | server => exact ⟨nofun, False.elim⟩
  | guild =>
    unfold owner? World.LacksOwner World.guildOf?
    cases s.player.guild with
    | none => simp
    | some id => simp
  | user => exact Option.map_eq_none_iff

/-- A variable without owner has the value of one that was never set. -/
theorem current?_of_lacksOwner (hd : s.world.catalog.vars.get? v = some d)
    (howner : s.world.LacksOwner s.player v.scope) :
    s.world.current? s.player v = some (.zero d.dataType) := by
  have hstored : s.world.stored? s.player v = none := by
    rw [stored?_eq, owner?_eq_none_iff.mpr howner, Option.bind_none]
  unfold World.current?
  rw [hd, hstored, Option.map_some]

/-- A value that is set is one that is assigned. -/
theorem setValue_cases (s : Setting) (v : VariableRef) (value : Value) :
    Assignment.Case s v (.enter value) (s.setValue v value) :=
  Assignment.perform_cases s v (.enter value)

/-- A value of a variable without owner is not kept. -/
theorem setValue_of_lacksOwner (howner : s.world.LacksOwner s.player v.scope) :
    (s.setValue v value).2 = s := by
  have hcase := s.setValue_cases v value
  generalize s.setValue v value = r at hcase
  cases hcase with
  | failed _ hs => exact hs.elim id id
  | @changed _ other stored _ _ _ _ hstored =>
    have hkept : s.store? v other = some stored := hstored
    rw [store?_eq_none_iff.mpr (owner?_eq_none_iff.mpr howner)] at hkept
    cases hkept

/-- A value that has taken its place is the current one. -/
theorem IsChanged.current? {syncsParty : Bool} (h : s.IsChanged s' v value syncsParty)
    (howner : s.owner? v.scope ≠ none) (hd : s.world.catalog.vars.get? v = some d)
    (htype : value.dataType = d.dataType) : s'.world.current? s'.player v = some value := by
  have hcatalog : s'.world.catalog = s.world.catalog := by
    have hrest := congrArg (fun s : Setting => s.world.catalog) h.rest
    exact hrest
  exact World.current?_of_stored? (hcatalog ▸ hd) htype (h.stored? howner)

/-- A value of the described type is the current one once it is set, if somebody keeps it or it was
the current one before. -/
theorem current?_setValue (hd : s.world.catalog.vars.get? v = some d)
    (htype : value.dataType = d.dataType)
    (hkept : s.world.LacksOwner s.player v.scope → value = .zero d.dataType) :
    (s.setValue v value).2.world.current? (s.setValue v value).2.player v = some value := by
  have hcase := s.setValue_cases v value
  generalize s.setValue v value = r at hcase
  cases hcase with
  | @failed s' hfails hs =>
    obtain rfl : s' = s := hs.elim id id
    cases hfails with
    | undescribed hv => cases hv.symm.trans hd
    | otherType hd' htype' =>
      cases hd.symm.trans hd'
      exact absurd htype.symm htype'
    | ownerless howner =>
      have howner' := owner?_eq_none_iff.mp howner
      rw [hkept howner']
      exact current?_of_lacksOwner hd howner'
    | equal hcurrent hresult =>
      cases hresult
      exact hcurrent
    | sourceMissing hsource => cases hsource
    | divisionByZero hdivisor => cases hdivisor
    | emptyText hsought => cases hsought
  | @changed _ _ stored _ _ hresult _ hstored =>
    cases hresult
    have hkept : s.store? v value = some stored := hstored
    have howner : s.owner? v.scope ≠ none := by
      rw [← store?_eq_none_iff.ne, hkept]
      exact Option.some_ne_none _
    exact (isChanged_of_store? hkept false).current? howner hd htype

end Setting

/-! ## Entering a branch -/

/-- The frame of the branch at a position, if there is one and its list is registered. -/
def Page.branch (page : Page) (branches : List BranchId) (position : Nat) : CallStack :=
  match branches[position]? with
  | some b => if page.hasList b then [.start page b 0] else []
  | none => []

/-- Where an execution stands after the running frame has gone on to the branch at a position. -/
def Instance.branch (i : Instance) (page : Page) (branches : List BranchId) (position : Nat) :
    Instance :=
  { i.release with stack := page.branch branches position ++ i.release.stack }

namespace Scene

variable {s : Scene} {v : VariableRef} {text : String} {branches : List BranchId}

/-- Where an execution stands after a branch was entered. -/
theorem run_enterBranch (s : Scene) (branches : List BranchId) (position : Nat) :
    (s.enterBranch branches position).run =
      { s.run with stack := s.page.branch branches position ++ s.run.stack } := by
  unfold enterBranch Page.branch
  cases branches[position]? with
  | none => rfl
  | some b =>
    dsimp only
    split <;> rfl

/-- What cannot be read leads to the second branch. -/
theorem takeInput_of_unread (h : s.world.entered? v text = none) :
    s.takeInput v text branches = s.enterBranch branches 1 := by
  unfold takeInput
  rw [show Option.bind _ _ = none from h]

/-- What can be read is set and leads to the first branch. -/
theorem takeInput_of_read {value : Value} (h : s.world.entered? v text = some value) :
    s.takeInput v text branches =
      { s with toSetting := (s.toSetting.setValue v value).2 }.enterBranch branches 0 := by
  unfold takeInput
  rw [show Option.bind _ _ = some value from h]

end Scene

/-! ## Answers -/

namespace Turn

/-- The current value of a variable for the player of the execution. -/
def current? (t : Turn) (v : VariableRef) : Option Value :=
  (t.world.player? t.run.player).bind fun p => t.world.current? p v

/-- A text that was entered for a variable has been answered as it should be. -/
structure IsTruthful (t : Turn) (page : Page) (v : VariableRef) (branches : List BranchId)
    (text : String) (t' : Turn) : Prop where
  /-- Either the value that was read is the current one and the first branch is taken, or nothing of
  the world has changed and the second branch is taken. -/
  answered : (∃ value, t.world.entered? v text = some value ∧ t'.current? v = some value ∧
      t'.run = t.run.branch page branches 0) ∨
    t'.world = t.world ∧ t'.run = t.run.branch page branches 1
  /-- The first branch is not taken while the current value is not the one that was read. -/
  sound : t'.run = t.run.branch page branches 0 →
    ∀ value, t.world.entered? v text = some value → t'.current? v = some value

/-- A value is read that nobody keeps, other than the one that the variable has for want of an
owner. -/
def LosesInput (w : World) (p : Player) (v : VariableRef) (text : String) : Prop :=
  w.LacksOwner p v.scope ∧
    ∃ value, w.entered? v text = some value ∧ value ≠ .zero value.dataType

/-- What comes of a text that was entered for a variable. -/
inductive InputCase (t : Turn) (p : Player) (page : Page) (v : VariableRef)
    (branches : List BranchId) (text : String) : Turn → Prop
  /-- It cannot be read. -/
  | unread (unread : t.world.entered? v text = none) :
      InputCase t p page v branches text ⟨t.world, t.run.branch page branches 1⟩
  /-- It is read, and the variable has the value. -/
  | kept {value : Value} {t' : Turn} (read : t.world.entered? v text = some value)
      (keeps : ¬ LosesInput t.world p v text) (current : t'.current? v = some value)
      (run : t'.run = t.run.branch page branches 0) : InputCase t p page v branches text t'
  /-- It is read, and the variable stays as it is. -/
  | lost {t' : Turn} (loses : LosesInput t.world p v text) (world : t'.world = t.world)
      (current : t'.current? v ≠ t.world.entered? v text)
      (run : t'.run = t.run.branch page branches 0) : InputCase t p page v branches text t'

section

variable {t t' : Turn} {page : Page} {v : VariableRef} {branches : List BranchId} {p : Player}
  {text : String}

/-- What cannot be read is not lost. -/
theorem not_losesInput_of_unread {w : World} (h : w.entered? v text = none) :
    ¬ LosesInput w p v text := by
  rintro ⟨-, value, hvalue, -⟩
  cases h.symm.trans hvalue

/-- Only what is lost is not answered as it should be. -/
theorem InputCase.isTruthful_iff (h : t.InputCase p page v branches text t') :
    t.IsTruthful page v branches text t' ↔ ¬ LosesInput t.world p v text := by
  cases h with
  | unread hunread =>
    refine iff_of_true ⟨.inr ⟨rfl, rfl⟩, fun _ value hvalue => ?_⟩
      (not_losesInput_of_unread hunread)
    cases hunread.symm.trans hvalue
  | kept hread hkeeps hcurrent hrun =>
    refine iff_of_true ⟨.inl ⟨_, hread, hcurrent, hrun⟩, fun _ value hvalue => ?_⟩ hkeeps
    rw [hcurrent, ← hread, hvalue]
  | lost hloses _ hcurrent hrun =>
    refine iff_of_false (fun htruthful => ?_) (not_not_intro hloses)
    obtain ⟨-, value, hvalue, -⟩ := hloses
    exact hcurrent ((htruthful.sound hrun value hvalue).trans hvalue.symm)

/-- The value of a variable for a player who is put back. -/
theorem current?_putPlayer (w : World) (i : Instance) (p : Player) :
    current? ⟨w.putPlayer i.player p, i⟩ v = w.current? p v := by
  have hplayer : (w.putPlayer i.player p).player? i.player = some p := Table.get?_insert_self ..
  unfold current?
  rw [hplayer]
  rfl

end

section

variable {t : Turn} {frame : Frame} {below : CallStack} {v : VariableRef}
  {branches : List BranchId} {p : Player} {text : String}
  (hstack : t.run.stack = frame :: below)
  (hwaiting : frame.waiting = some (.dialogue (.input v branches)))
  (hplayer : t.world.player? t.run.player = some p)

include hstack hwaiting hplayer

/-- A text is accepted whenever it is asked for. -/
theorem answer_input (text : String) :
    let s := Scene.takeInput ⟨⟨t.world, p⟩, t.run.release, frame.page⟩ v text branches
    t.answer (.input text) =
      .ok (.ok true, ⟨s.world.putPlayer t.run.player s.player, s.run⟩) :=
  answer_of_answered hstack hwaiting .input hplayer

/-- A text that cannot be read changes nothing and leads to the second branch. -/
theorem answer_of_unread (h : t.world.entered? v text = none) :
    t.answer (.input text) =
      .ok (.ok true, ⟨t.world, t.run.branch frame.page branches 1⟩) := by
  rw [answer_input hstack hwaiting hplayer, Scene.takeInput_of_unread h,
    Scene.toSetting_enterBranch, Scene.run_enterBranch, World.putPlayer_self hplayer]
  rfl

/-- A text that can be read leads to the first branch, with the value set. -/
theorem answer_of_read {value : Value} (h : t.world.entered? v text = some value) :
    let s := ((Setting.mk t.world p).setValue v value).2
    t.answer (.input text) =
      .ok (.ok true, ⟨s.world.putPlayer t.run.player s.player,
        t.run.branch frame.page branches 0⟩) := by
  rw [answer_input hstack hwaiting hplayer, Scene.takeInput_of_read h,
    Scene.toSetting_enterBranch, Scene.run_enterBranch]
  rfl

/-- Every text takes one of the three courses. -/
theorem inputCase_answer (text : String) :
    ∃ t', t.answer (.input text) = .ok (.ok true, t') ∧
      t.InputCase p frame.page v branches text t' := by
  cases hread : t.world.entered? v text with
  | none => exact ⟨_, answer_of_unread hstack hwaiting hplayer hread, .unread hread⟩
  | some value =>
    obtain ⟨d, hd, hparse⟩ := World.entered?_eq_some_iff.mp hread
    have htype := Value.dataType_of_parse? hparse
    have hrun : (t.run.branch frame.page branches 0).player = t.run.player :=
      t.run.modifyTop_player Frame.release
    refine ⟨_, answer_of_read hstack hwaiting hplayer hread, ?_⟩
    rw [← hrun]
    by_cases hloses : LosesInput t.world p v text
    · have hlost := hloses
      obtain ⟨howner, _, hvalue, hne⟩ := hlost
      cases hread.symm.trans hvalue
      have hsame := @Setting.setValue_of_lacksOwner ⟨t.world, p⟩ v value howner
      refine .lost hloses ?_ ?_ rfl
      · rw [hsame, hrun]
        exact World.putPlayer_self hplayer
      · -- Without an owner the variable is seen as one that was never set.
        rw [current?_putPlayer, hsame, hread,
          @Setting.current?_of_lacksOwner ⟨t.world, p⟩ v d hd howner, ← htype]
        exact fun heq => hne (Option.some.inj heq).symm
    · refine .kept hread hloses ?_ rfl
      rw [current?_putPlayer]
      refine Setting.current?_setValue hd htype fun howner => ?_
      rw [← htype]
      exact by_contra fun hne => hloses ⟨howner, value, hread, hne⟩

/-- Every text that is asked for is accepted, and the answer is as it should be unless a value is
read that nobody keeps. Then nothing of the world changes, the variable does not have the value that
was read, and the first branch is taken nevertheless. -/
theorem isTruthful_answer_iff (text : String) :
    ∃ t', t.answer (.input text) = .ok (.ok true, t') ∧
      (t.IsTruthful frame.page v branches text t' ↔ ¬ LosesInput t.world p v text) ∧
      (LosesInput t.world p v text → t'.world = t.world ∧
        t'.current? v ≠ t.world.entered? v text ∧
        t'.run = t.run.branch frame.page branches 0) := by
  obtain ⟨t', hanswer, hcase⟩ := inputCase_answer hstack hwaiting hplayer text
  refine ⟨t', hanswer, hcase.isTruthful_iff, fun hloses => ?_⟩
  cases hcase with
  | unread hunread => exact absurd hloses (not_losesInput_of_unread hunread)
  | kept _ hkeeps => exact absurd hloses hkeeps
  | lost _ hworld hcurrent hrun => exact ⟨hworld, hcurrent, hrun⟩

end

/-! ### Dues -/

/-- A variable for dues, of a player or of the guild. -/
def dues (scope : Scope) : VariableDescriptor := ⟨⟨9⟩, scope, "Dues", .integer, "dues"⟩

/-- A page that asks for the dues, with a branch behind each outcome. -/
def duesPage (scope : Scope) : Page :=
  let asking := (Page.draft ⟨1⟩ "dues" ⟨2⟩).withRoot
    [.inputVariable "" "" (dues scope).ref [⟨3⟩, ⟨4⟩]]
  (asking.withList ⟨3⟩ [.wait 5]).withList ⟨4⟩ [.wait 7]

/-- A player without guild at the start of this page. -/
def beforeDues (scope : Scope) : Turn where
  world :=
    (World.start {} { DescriptorSet.empty with vars := [dues scope] }.catalog (.start 0)
      (.seeded 0)).addPlayer (.fresh ⟨3⟩ "Ann" .nil 1 1)
  run := .start ⟨4⟩ ⟨5⟩ ⟨3⟩ (duesPage scope)

/-- The turn in which the player is asked. -/
def askedForDues (scope : Scope) : Turn := match (beforeDues scope).step with
  | .ok r => r.2
  | .error _ => beforeDues scope

/-- The dues of the player are paid. -/
theorem isTruthful_answer_iff_dues :
    (beforeDues .player).step = .ok (.ok (.suspended .dialogue), askedForDues .player) ∧
      ∃ t', (askedForDues .player).answer (.input "5") = .ok (.ok true, t') ∧
        (askedForDues .player).IsTruthful (duesPage .player) (dues .player).ref [⟨3⟩, ⟨4⟩] "5"
          t' := by
  obtain ⟨t', hanswer, htruthful, -⟩ :=
    isTruthful_answer_iff (t := askedForDues .player) rfl rfl rfl "5"
  exact ⟨rfl, t', hanswer, htruthful.mpr fun hloses => hloses.1⟩

/-- Those of the guild are not, as there is no guild. The script goes on as if they were. -/
theorem not_isTruthful_dues :
    (beforeDues .guild).step = .ok (.ok (.suspended .dialogue), askedForDues .guild) ∧
      ∃ t', (askedForDues .guild).answer (.input "5") = .ok (.ok true, t') ∧
        ¬ (askedForDues .guild).IsTruthful (duesPage .guild) (dues .guild).ref [⟨3⟩, ⟨4⟩] "5" t' ∧
        t'.current? (dues .guild).ref = some (.integer 0) ∧
        t'.run.stack.head? = some (.start (duesPage .guild) ⟨3⟩ 0) := by
  refine ⟨rfl, _, rfl, fun htruthful => ?_, rfl, rfl⟩
  cases htruthful.sound rfl (.integer 5) rfl

end Turn

end EventScript
