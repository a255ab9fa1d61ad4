import EventScript.CommandLine.Play
import EventScript.Proofs.Guarded

/-!
# Prompts and the end of the input

A run at a terminal reads a line for every question, and behind the end of its input it gets empty
ones. An empty line answers every question but one: it chooses none of the options, and a prompt for
options asks again until a line chooses one or quits. So that prompt, and no other, is left exactly
if such a line is still to come.
-/

namespace EventScript.CommandLine

open EventScript.Text

/-! ## Runs with an input -/

/-- A run at a terminal: how it goes on, and the lines that are still to be read. -/
structure Standing where
  /-- How the run goes on. -/
  course : Course
  /-- The rest of the input. -/
  lines : List String

namespace Standing

/-- The standing of a page that was started for a player. -/
def start (page : Page) (catalog : Catalog) (config : EngineConfig) (clock : Clock)
    (supply : Supply) (lines : List String) : Standing :=
  ⟨.pass (.start page catalog config false clock supply), lines⟩

/-- The next thing that happens: a pass, or a line is taken for the question. -/
def next (s : Standing) : Guarded Standing :=
  match s.course with
  | .pass p => do return ⟨(← p.pass).course, s.lines⟩
  | .ask q p => do return ⟨(← p.take q (s.lines.headD "")).course, s.lines.tail⟩
  | .finished | .failed _ => return s

/-- The standing after a number of things happened. -/
def after : Nat → Standing → Guarded Standing
  | 0, s => return s
  | n + 1, s => do after n (← s.next)

/-- The run asks the same question over and over again. -/
def Spins (s : Standing) : Prop :=
  ∃ q p, s.course = .ask q p ∧ ∀ n, ∃ lines, s.after n = .ok ⟨.ask q p, lines⟩

end Standing

/-! ## Decisions -/

/-- What a prompt for options ends with. -/
inductive Decision where
  | quit
  | option (choice : UInt64)
  deriving DecidableEq

/-- What a line decides where one of a number of options is to be chosen. -/
def decision? (count : Nat) (line : String) : Option Decision :=
  if trim line = "q" then some .quit else (Play.choice? count (trim line)).map .option

/-- What lines decide: what the first of them decides that decides anything. -/
def selection? (count : Nat) (lines : List String) : Option Decision :=
  lines.findSome? (decision? count)

/-- How a run goes on with a decision. -/
def Play.decide (p : Play) (run : InstanceId) : Decision → Guarded Move
  | .quit => return ⟨"Goodbye!\n", .finished⟩
  | .option choice => p.respond run (.option choice)

section

variable {p : Play} {run : InstanceId} {count : Nat}

/-- The empty line decides nothing. -/
theorem decision?_empty (count : Nat) : decision? count "" = none := by
  have hline : trim "" = "" := rfl
  rw [decision?, hline]
  rfl

/-- An option that is chosen is one of those that there are. -/
theorem choice_lt {line : String} {choice : UInt64}
    (h : decision? count line = some (.option choice)) : choice.toNat < count := by
  unfold decision? at h
  split at h
  · cases h
  · obtain ⟨c, hc, heq⟩ := Option.map_eq_some_iff.mp h
    cases heq
    obtain ⟨n, -, hn⟩ := Option.bind_eq_some_iff.mp hc
    split at hn
    · next hrange =>
      unfold uint64? at hn
      split at hn
      · next hfits =>
        cases hn
        have hsmall : n - 1 < UInt64.size := Int.ofNat_lt.mp hfits.2
        rw [Int.toNat_natCast, UInt64.toNat_ofNat_of_lt' hsmall]
        omega
      · cases hn
    · cases hn

/-- A prompt for options goes on with what the line decides, or asks again. -/
theorem take_options (line : String) : p.take (.options run count) line =
    match decision? count line with
    | some d => p.decide run d
    | none => return p.ask (.options run count) "[Invalid choice]\n" := by
  unfold Play.take decision?
  by_cases hquit : trim line = "q"
  · simp [hquit, Play.decide]
  · cases hchoice : Play.choice? count (trim line) with
    | none => simp [hquit, hchoice]
    | some choice => simp [hquit, hchoice, Play.decide]

/-- A response leads away from the prompt. -/
theorem course_respond {response : Response} {m : Move} (h : p.respond run response = .ok m)
    (q : Question) (p' : Play) : m.course ≠ .ask q p' := by
  obtain ⟨⟨outcome, scheduler⟩, -, h⟩ := Guarded.bind_eq_ok.mp h
  dsimp only at h
  split at h
  · cases h
    nofun
  · cases h
    nofun
  · cases h
    nofun

/-- A decision leads away from the prompt. -/
theorem course_decide {d : Decision} {m : Move} (h : p.decide run d = .ok m) (q : Question)
    (p' : Play) : m.course ≠ .ask q p' := by
  cases d with
  | quit =>
    cases h
    nofun
  | option choice => exact course_respond h q p'

/-- Every line leads away from a prompt that is not for options. -/
theorem course_take {q : Question} (hq : ∀ run count, q ≠ .options run count) {line : String}
    {m : Move} (h : p.take q line = .ok m) (q' : Question) (p' : Play) :
    m.course ≠ .ask q' p' := by
  unfold Play.take at h
  dsimp only at h
  split at h
  · cases h
    nofun
  · cases q with
    | options run count => exact absurd rfl (hq run count)
    | text run => exact course_respond h q' p'
    | input run => exact course_respond h q' p'
    | picture run => exact course_respond h q' p'
    | questOffer run => exact course_respond h q' p'
    | session kind =>
      cases h
      nofun

end

/-! ## The lines of a prompt -/

namespace Standing

variable {p : Play} {run : InstanceId} {count : Nat} {lines : List String}

/-- The standing in front of a prompt for options. -/
def atOptions (p : Play) (run : InstanceId) (count : Nat) (lines : List String) : Standing :=
  ⟨.ask (.options run count) p, lines⟩

/-- A line that decides nothing is read over, and so is the end of the input. -/
theorem next_of_undecided (h : decision? count (lines.headD "") = none) :
    (atOptions p run count lines).next = .ok (atOptions p run count lines.tail) := by
  simp only [atOptions, next, take_options, h]
  rfl

/-- A line that decides something leads on with the decision. -/
theorem next_of_decided {d : Decision} (h : decision? count (lines.headD "") = some d) :
    (atOptions p run count lines).next = (do return ⟨(← p.decide run d).course, lines.tail⟩) := by
  simp only [atOptions, next, take_options, h]

/-- As long as no line decides anything, the same question is asked. -/
theorem after_of_undecided {n : Nat} (h : ∀ line ∈ lines.take n, decision? count line = none) :
    (atOptions p run count lines).after n = .ok (atOptions p run count (lines.drop n)) := by
  induction n generalizing lines with
  | zero => rfl
  | succ n ih =>
    have hhead : decision? count (lines.headD "") = none := by
      cases lines with
      | nil => exact decision?_empty count
      | cons line rest => exact h line (by simp)
    refine Guarded.bind_eq_ok.mpr ⟨_, next_of_undecided hhead, ?_⟩
    have hrest : ∀ line ∈ lines.tail.take n, decision? count line = none := by
      intro line hline
      apply h line
      cases lines with
      | nil => simp at hline
      | cons first rest => exact List.mem_cons_of_mem _ hline
    rw [ih hrest]
    simp

/-- What happens first. -/
theorem after_one (s : Standing) : s.after 1 = s.next := by
  simp only [after, bind_pure]

/-- What happens one after the other. -/
theorem after_add {m n : Nat} {s s' : Standing} (h : s.after m = .ok s') :
    s.after (m + n) = s'.after n := by
  induction m generalizing s with
  | zero =>
    cases h
    rw [Nat.zero_add]
  | succ m ih =>
    obtain ⟨s₁, hnext, h⟩ := Guarded.bind_eq_ok.mp h
    rw [Nat.succ_add, ← ih h]
    simp only [after, hnext]
    rfl

end Standing

open Standing in
/-- A prompt for options ends with the first line that decides something, and it does not end as long
as no line does. -/
structure Selects (p : Play) (run : InstanceId) (count : Nat) (lines : List String) : Prop where
  /-- An option that is chosen is one of those that there are. -/
  lt : ∀ choice, selection? count lines = some (.option choice) → choice.toNat < count
  decided : ∀ d, selection? count lines = some d → ∃ read line rest,
    lines = read ++ line :: rest ∧ (∀ l ∈ read, decision? count l = none) ∧
      decision? count line = some d ∧
      (∀ n ≤ read.length,
        (atOptions p run count lines).after n = .ok (atOptions p run count (lines.drop n))) ∧
      (atOptions p run count lines).after (read.length + 1) =
        (do return ⟨(← p.decide run d).course, rest⟩)
  undecided : selection? count lines = none → ∀ n,
    (atOptions p run count lines).after n = .ok (atOptions p run count (lines.drop n))

namespace Standing

variable {p : Play} {run : InstanceId} {count : Nat} {lines : List String}

/-- Every prompt for options does so. -/
theorem selects (p : Play) (run : InstanceId) (count : Nat) (lines : List String) :
    Selects p run count lines := by
  constructor
  · intro choice h
    obtain ⟨line, -, hline⟩ := List.exists_of_findSome?_eq_some h
    exact choice_lt hline
  · intro d h
    obtain ⟨read, line, rest, rfl, hline, hread⟩ := List.findSome?_eq_some_iff.mp h
    have hbefore {n : Nat} (hn : n ≤ read.length) :
        ∀ l ∈ (read ++ line :: rest).take n, decision? count l = none := by
      intro l hl
      rw [List.take_append_of_le_length hn] at hl
      exact hread l (List.mem_of_mem_take hl)
    refine ⟨read, line, rest, rfl, hread, hline, fun n hn => after_of_undecided (hbefore hn), ?_⟩
    have hreached : (atOptions p run count (read ++ line :: rest)).after read.length =
        .ok (atOptions p run count (line :: rest)) := by
      rw [after_of_undecided (hbefore (Nat.le_refl _)), List.drop_left]
    rw [after_add hreached, after_one]
    exact next_of_decided hline
  · intro h n
    rw [selection?, List.findSome?_eq_none_iff] at h
    exact after_of_undecided fun line hline => h line (List.mem_of_mem_take hline)

/-- A run that asks the same question over and over again stands in front of a prompt for options. -/
theorem exists_atOptions_of_spins {s : Standing} (h : s.Spins) :
    ∃ p run count lines, s = atOptions p run count lines := by
  obtain ⟨q, p, hcourse, hafter⟩ := h
  obtain ⟨course, lines⟩ := s
  cases hcourse
  by_cases hq : ∃ run count, q = .options run count
  · obtain ⟨run, count, rfl⟩ := hq
    exact ⟨p, run, count, lines, rfl⟩
  · have hother : ∀ run count, q ≠ .options run count := fun run count h => hq ⟨run, count, h⟩
    obtain ⟨later, hone⟩ := hafter 1
    simp only [after_one, next] at hone
    obtain ⟨m, hm, heq⟩ := Guarded.bind_eq_ok.mp hone
    have hstays := congrArg Standing.course (Except.ok.inj heq)
    exact absurd hstays (course_take hother hm q p)

/-- It does so in front of a prompt for options exactly if no line decides anything. -/
theorem spins_atOptions_iff : (atOptions p run count lines).Spins ↔ selection? count lines = none := by
  constructor
  · rintro ⟨q, p', hcourse, hafter⟩
    cases hcourse
    apply Option.eq_none_iff_forall_ne_some.mpr
    intro d hd
    obtain ⟨read, line, rest, -, -, -, -, hend⟩ := (selects p run count lines).decided d hd
    obtain ⟨later, hlater⟩ := hafter (read.length + 1)
    rw [hend] at hlater
    obtain ⟨m, hm, heq⟩ := Guarded.bind_eq_ok.mp hlater
    exact course_decide hm _ _ (congrArg Standing.course (Except.ok.inj heq))
  · intro h
    exact ⟨_, p, rfl, fun n => ⟨_, (selects p run count lines).undecided h n⟩⟩

/-- A run asks the same question over and over again exactly if it is at a prompt for options and no
line is still to come that decides anything; and at every prompt for options the first such line is
taken, if there is one. -/
theorem spins_iff (s : Standing) :
    (s.Spins ↔
        ∃ p run count lines, s = atOptions p run count lines ∧ selection? count lines = none) ∧
      ∀ p run count lines, s = atOptions p run count lines → Selects p run count lines := by
  refine ⟨?_, fun p run count lines _ => selects p run count lines⟩
  constructor
  · intro h
    obtain ⟨p, run, count, lines, rfl⟩ := exists_atOptions_of_spins h
    exact ⟨p, run, count, lines, rfl, spins_atOptions_iff.mp h⟩
  · rintro ⟨p, run, count, lines, rfl, h⟩
    exact spins_atOptions_iff.mpr h

/-! ### A question and no input -/

/-- A page that asks for its only option. -/
def askingPage : Page :=
  ((Page.draft ⟨1⟩ "ask" ⟨2⟩).withRoot [.showOptions "Go on?" "" ["Yes"] [⟨3⟩]]).withList ⟨3⟩ []

/-- A run of it without input comes to the prompt and never leaves it. -/
theorem not_ends_asking :
    ¬ ∀ (page : Page) (catalog : Catalog) (config : EngineConfig) (clock : Clock) (supply : Supply)
      (lines : List String) (n : Nat) (s : Standing),
      (start page catalog config clock supply lines).after n = .ok s → ¬ s.Spins := by
  intro h
  have hasks : (start askingPage .empty {} (.start 0) (.of (fun k => .ofNat 128 (k + 4)) id)
      []).after 1 = .ok (atOptions _ ⟨7⟩ 1 []) := rfl
  exact h _ _ _ _ _ _ 1 _ hasks (spins_atOptions_iff.mpr rfl)

end Standing

end EventScript.CommandLine
