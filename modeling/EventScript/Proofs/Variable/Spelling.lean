import EventScript.Proofs.Bounded
import EventScript.Variable.Value
import Mathlib.Data.List.DropRight
import Mathlib.Data.Nat.Digits.Defs

/-!
# How values are spelled

What a player types is read by a grammar for each type. A truth value is one of three words in any
ASCII case, and a number is one or more ASCII digits behind one sign or none; blanks around either
of them do not count. A number has to be a machine integer. A string is what was typed.

The text that players see of a value is one of its spellings.
-/

namespace EventScript

/-! ## Blanks at the ends -/

namespace Text

/-- A text is another one with blanks at its ends. -/
structure Trims (cs core : List Char) : Prop where
  surrounded : ∃ before after, cs = before ++ core ++ after ∧
    (∀ c ∈ before, isBlank c = true) ∧ ∀ c ∈ after, isBlank c = true
  first : ∀ c ∈ core.head?, isBlank c = false
  last : ∀ c ∈ core.getLast?, isBlank c = false

variable {cs core : List Char}

/-- Blanks at the front are dropped. -/
private theorem dropWhile_blanks {before rest : List Char} (h : ∀ c ∈ before, isBlank c = true)
    (hrest : ∀ c ∈ rest.head?, isBlank c = false) :
    (before ++ rest).dropWhile isBlank = rest := by
  rw [List.dropWhile_append_of_pos h]
  cases rest with
  | nil => rfl
  | cons c rest => exact List.dropWhile_cons_of_neg (by simp [hrest c rfl])

/-- Trimming takes exactly the blanks at the ends. -/
theorem trims_trimChars (cs : List Char) : Trims cs (trimChars cs) := by
  have htrim : trimChars cs = (cs.dropWhile isBlank).rdropWhile isBlank := rfl
  have hfront := List.takeWhile_append_dropWhile (p := isBlank) (l := cs)
  have hback := List.rdropWhile_append_rtakeWhile (p := isBlank) (l := cs.dropWhile isBlank)
  rw [htrim]
  refine ⟨⟨cs.takeWhile isBlank, (cs.dropWhile isBlank).rtakeWhile isBlank, ?_, ?_, ?_⟩, ?_, ?_⟩
  · rw [List.append_assoc, hback, hfront]
  · exact fun c hc => List.mem_takeWhile_imp hc
  · exact fun c hc => List.mem_rtakeWhile_imp hc
  · intro c hc
    obtain ⟨rest, hrest⟩ := List.rdropWhile_prefix isBlank (l := cs.dropWhile isBlank)
    have hhead := List.head?_dropWhile_not isBlank cs
    rw [← hrest, List.head?_append, Option.mem_def.mp hc] at hhead
    simpa using hhead
  · intro c hc
    obtain ⟨hne, rfl⟩ := List.mem_getLast?_eq_getLast hc
    simpa using List.rdropWhile_last_not isBlank _ hne

/-- What is between the blanks at the ends is what trimming leaves. -/
theorem Trims.trimChars_eq (h : Trims cs core) : trimChars cs = core := by
  obtain ⟨⟨before, after, rfl, hbefore, hafter⟩, hfirst, hlast⟩ := h
  have hafter' : ∀ c ∈ after.reverse, isBlank c = true := by simpa using hafter
  unfold trimChars
  cases core with
  | nil =>
    have hblank : ∀ c ∈ before ++ [] ++ after, isBlank c = true := by
      intro c hc
      rw [List.append_nil, List.mem_append] at hc
      exact hc.elim (hbefore c) (hafter c)
    rw [List.dropWhile_eq_nil_iff.mpr hblank]
    rfl
  | cons c rest =>
    have hhead : ∀ x ∈ (c :: rest ++ after).head?, isBlank x = false := hfirst
    rw [List.append_assoc, dropWhile_blanks hbefore hhead, List.reverse_append,
      dropWhile_blanks hafter' (List.head?_reverse ▸ hlast), List.reverse_reverse]

/-- Nothing is taken from a text without blanks. -/
theorem Trims.of_not_blank (h : ∀ c ∈ core, isBlank c = false) : Trims core core where
  surrounded := ⟨[], [], by simp, List.forall_mem_nil _, List.forall_mem_nil _⟩
  first c hc := h c (List.mem_of_mem_head? hc)
  last c hc := h c (List.mem_of_mem_getLast? hc)

end Text

/-! ## Numerals -/

namespace Text.Decimal

/-- The number that digits stand for. -/
def valueOf (ds : List Char) : Nat := Nat.ofDigits 10 (ds.reverse.map fun d => d.toNat - '0'.toNat)

/-- One or more digits. -/
structure AreDigits (ds : List Char) : Prop where
  nonempty : ds ≠ []
  digits : ∀ d ∈ ds, d.isDigit = true

/-- The texts that stand for an integer: digits behind one sign or none. -/
inductive Numeral : List Char → Int → Prop
  | unsigned {ds : List Char} (h : AreDigits ds) : Numeral ds (valueOf ds)
  | plus {ds : List Char} (h : AreDigits ds) : Numeral ('+' :: ds) (valueOf ds)
  | minus {ds : List Char} (h : AreDigits ds) : Numeral ('-' :: ds) (-valueOf ds)

/-- A digit stands for its distance from zero. -/
theorem digit?_eq_some_iff {c : Char} {n : Nat} :
    digit? c = some n ↔ c.isDigit = true ∧ n = c.toNat - '0'.toNat := by
  have hdigit : c.isDigit = true ↔ '0' ≤ c ∧ c ≤ '9' := by
    rw [Char.isDigit, Bool.and_eq_true, decide_eq_true_eq, decide_eq_true_eq]
    exact Iff.rfl
  unfold digit?
  rw [hdigit]
  split
  · next h =>
    constructor
    · rintro ⟨⟩
      exact ⟨h, rfl⟩
    · rintro ⟨-, rfl⟩
      rfl
  · next h =>
    constructor
    · exact nofun
    · rintro ⟨hc, -⟩
      exact absurd hc h

@[simp] theorem valueOf_nil : valueOf [] = 0 := rfl

/-- The first digit counts by the number of those behind it. -/
theorem valueOf_cons (d : Char) (ds : List Char) :
    valueOf (d :: ds) = (d.toNat - '0'.toNat) * 10 ^ ds.length + valueOf ds := by
  unfold valueOf
  rw [List.reverse_cons, List.map_append, Nat.ofDigits_append, List.length_map, List.length_reverse,
    List.map_singleton, Nat.ofDigits_singleton, Nat.add_comm, Nat.mul_comm]

/-- What is read behind a number that is known. -/
theorem continueWith_eq_some_iff {n m : Nat} {cs : List Char} :
    continueWith n cs = some m ↔
      (∀ c ∈ cs, c.isDigit = true) ∧ m = n * 10 ^ cs.length + valueOf cs := by
  induction cs generalizing n with
  | nil =>
    rw [continueWith, List.length_nil, Nat.pow_zero, Nat.mul_one, valueOf_nil, Nat.add_zero,
      Option.some.injEq]
    exact ⟨fun h => ⟨List.forall_mem_nil _, h.symm⟩, fun h => h.2.symm⟩
  | cons c cs ih =>
    rw [continueWith, Option.bind_eq_some_iff, List.forall_mem_cons, valueOf_cons, List.length_cons]
    have hvalue (d : Nat) : n * 10 ^ (cs.length + 1) + (d * 10 ^ cs.length + valueOf cs) =
        (10 * n + d) * 10 ^ cs.length + valueOf cs := by
      ring
    constructor
    · rintro ⟨d, hd, hm⟩
      obtain ⟨hc, rfl⟩ := digit?_eq_some_iff.mp hd
      obtain ⟨hcs, rfl⟩ := ih.mp hm
      exact ⟨⟨hc, hcs⟩, (hvalue _).symm⟩
    · rintro ⟨⟨hc, hcs⟩, rfl⟩
      exact ⟨_, digit?_eq_some_iff.mpr ⟨hc, rfl⟩, ih.mpr ⟨hcs, hvalue _⟩⟩

/-- What is read as a natural number. -/
theorem natural?_eq_some_iff {cs : List Char} {n : Nat} :
    natural? cs = some n ↔ AreDigits cs ∧ n = valueOf cs := by
  cases cs with
  | nil =>
    constructor
    · exact nofun
    · rintro ⟨h, -⟩
      exact absurd rfl h.nonempty
  | cons c cs =>
    rw [natural?, continueWith_eq_some_iff, Nat.zero_mul, Nat.zero_add]
    · constructor
      · rintro ⟨h, hn⟩
        exact ⟨⟨List.cons_ne_nil c cs, h⟩, hn⟩
      · rintro ⟨h, hn⟩
        exact ⟨h.digits, hn⟩
    · exact List.cons_ne_nil c cs

/-- No digit is a sign. -/
theorem AreDigits.head_ne {c sign : Char} {cs : List Char} (h : AreDigits (c :: cs))
    (hsign : sign.isDigit = false) : c ≠ sign := by
  rintro rfl
  have hc := h.digits c List.mem_cons_self
  rw [hsign] at hc
  cases hc

/-- Digits behind a minus sign. -/
theorem integer?_minus (ds : List Char) :
    integer? ('-' :: ds) = Option.map (fun n : Nat => -(n : Int)) (natural? ds) := by
  rw [integer?]
  cases natural? ds <;> rfl

/-- Digits that may follow a plus sign. -/
theorem integer?_of_ne_minus {cs : List Char} (h : ∀ ds, cs ≠ '-' :: ds) :
    integer? cs = Option.map (fun n : Nat => (n : Int)) (unsigned? cs) := by
  unfold integer?
  split
  · next ds => exact absurd rfl (h ds)
  · cases unsigned? cs <;> rfl

/-- Digits behind a plus sign. -/
theorem unsigned?_plus (ds : List Char) : unsigned? ('+' :: ds) = natural? ds := rfl

/-- Digits without sign. -/
theorem unsigned?_of_ne_plus {cs : List Char} (h : ∀ ds, cs ≠ '+' :: ds) :
    unsigned? cs = natural? cs := by
  unfold unsigned?
  split
  · next ds => exact absurd rfl (h ds)
  · rfl

/-- What is read as an integer is a numeral of it. -/
theorem integer?_eq_some_iff {cs : List Char} {n : Int} :
    integer? cs = some n ↔ Numeral cs n := by
  constructor
  · intro h
    by_cases hminus : ∃ ds, cs = '-' :: ds
    · obtain ⟨ds, rfl⟩ := hminus
      rw [integer?_minus] at h
      obtain ⟨m, hm, rfl⟩ := Option.map_eq_some_iff.mp h
      obtain ⟨hdigits, rfl⟩ := natural?_eq_some_iff.mp hm
      exact .minus hdigits
    · rw [integer?_of_ne_minus (not_exists.mp hminus)] at h
      obtain ⟨m, hm, rfl⟩ := Option.map_eq_some_iff.mp h
      by_cases hplus : ∃ ds, cs = '+' :: ds
      · obtain ⟨ds, rfl⟩ := hplus
        obtain ⟨hdigits, rfl⟩ := natural?_eq_some_iff.mp hm
        exact .plus hdigits
      · rw [unsigned?_of_ne_plus (not_exists.mp hplus)] at hm
        obtain ⟨hdigits, rfl⟩ := natural?_eq_some_iff.mp hm
        exact .unsigned hdigits
  · intro h
    cases h with
    | minus h =>
      rw [integer?_minus, natural?_eq_some_iff.mpr ⟨h, rfl⟩]
      rfl
    | plus h =>
      rw [integer?_of_ne_minus (by simp), unsigned?_plus, natural?_eq_some_iff.mpr ⟨h, rfl⟩]
      rfl
    | unsigned h =>
      have hminus (ds : List Char) : cs ≠ '-' :: ds := by
        rintro rfl
        exact h.head_ne rfl rfl
      have hplus (ds : List Char) : cs ≠ '+' :: ds := by
        rintro rfl
        exact h.head_ne rfl rfl
      rw [integer?_of_ne_minus hminus, unsigned?_of_ne_plus hplus,
        natural?_eq_some_iff.mpr ⟨h, rfl⟩]
      rfl

/-- A digit is not blank. -/
theorem isBlank_of_isDigit {c : Char} (h : c.isDigit = true) : isBlank c = false := by
  simp only [Char.isDigit, Bool.and_eq_true, decide_eq_true_eq] at h
  have hlo : 48 ≤ c.toNat := h.1
  have hhi : c.toNat ≤ 57 := h.2
  simp only [isBlank, Bool.or_eq_false_iff, Bool.and_eq_false_iff, decide_eq_false_iff_not,
    beq_eq_false_iff_ne]
  omega

/-- A numeral has no blanks. -/
theorem Numeral.not_blank {cs : List Char} {n : Int} (h : Numeral cs n) :
    ∀ c ∈ cs, isBlank c = false := by
  cases h with
  | unsigned h => exact fun c hc => isBlank_of_isDigit (h.digits c hc)
  | plus h | minus h =>
    refine List.forall_mem_cons.mpr ⟨by decide, ?_⟩
    exact fun c hc => isBlank_of_isDigit (h.digits c hc)

end Text.Decimal

/-! ## Values -/

namespace Value

open Text Decimal

/-- The words for a truth value. -/
def words : Bool → List String
  | true => ["true", "yes", "1"]
  | false => ["false", "no", "0"]

/-- A truth value is read from its words. -/
theorem parseBoolean?_eq_some_iff {s : String} {b : Bool} :
    parseBoolean? s = some b ↔ ∃ word ∈ words b, eqIgnoreCase s word = true := by
  have hlower : ∀ b, ∀ word ∈ words b, asciiLower word = word := by decide
  have hwords : (∃ word ∈ words b, eqIgnoreCase s word = true) ↔ asciiLower s ∈ words b := by
    constructor
    · rintro ⟨word, hword, hsame⟩
      rw [eqIgnoreCase_iff.mp hsame, hlower b word hword]
      exact hword
    · intro h
      exact ⟨_, h, eqIgnoreCase_iff.mpr (hlower b _ h).symm⟩
  rw [hwords]
  simp only [parseBoolean?]
  generalize asciiLower s = w
  cases b with
  | true =>
    simp only [words, List.mem_cons, List.not_mem_nil, or_false]
    constructor
    · intro h
      split at h
      · assumption
      · split at h <;> cases h
    · exact fun h => if_pos h
  | false =>
    simp only [words, List.mem_cons, List.not_mem_nil, or_false]
    constructor
    · intro h
      split at h
      · cases h
      · split at h
        · assumption
        · cases h
    · rintro (rfl | rfl | rfl) <;> decide

variable {text : String} {v : Value}

/-- What is read as an integer. -/
theorem parse?_integer_eq_some_iff : parse? .integer text = some v ↔
    ∃ core n, Trims text.toList core ∧ Numeral core n ∧ FitsInt64 n ∧ v = .integer (.ofInt n) := by
  rw [parse?, Option.map_eq_some_iff]
  constructor
  · rintro ⟨n, hn, rfl⟩
    rw [Option.bind_eq_some_iff] at hn
    obtain ⟨m, hm, hmachine⟩ := hn
    obtain ⟨hfits, rfl⟩ := int64?_eq_some_iff.mp hmachine
    exact ⟨_, m, trims_trimChars _, integer?_eq_some_iff.mp hm, hfits, rfl⟩
  · rintro ⟨core, n, htrims, hnumeral, hfits, rfl⟩
    refine ⟨_, ?_, rfl⟩
    rw [htrims.trimChars_eq, integer?_eq_some_iff.mpr hnumeral, Option.bind_some]
    exact int64?_eq_some_iff.mpr ⟨hfits, rfl⟩

/-- What is read as a truth value. -/
theorem parse?_boolean_eq_some_iff : parse? .boolean text = some v ↔
    ∃ core b, Trims text.toList core ∧
      (∃ word ∈ words b, eqIgnoreCase (.ofList core) word = true) ∧ v = .boolean b := by
  rw [parse?, Option.map_eq_some_iff]
  constructor
  · rintro ⟨b, hb, rfl⟩
    exact ⟨_, b, trims_trimChars _, parseBoolean?_eq_some_iff.mp hb, rfl⟩
  · rintro ⟨core, b, htrims, hword, rfl⟩
    refine ⟨b, ?_, rfl⟩
    rw [trim, htrims.trimChars_eq]
    exact parseBoolean?_eq_some_iff.mpr hword

/-- The text of a value is read as the value. -/
theorem parse?_text (v : Value) : parse? v.dataType v.text = some v := by
  cases v with
  | boolean b => cases b <;> decide
  | integer n =>
    have hnumeral : Numeral (ofInt n.toInt) n.toInt := integer?_eq_some_iff.mp (integer?_ofInt _)
    refine parse?_integer_eq_some_iff.mpr ⟨_, n.toInt, ?_, hnumeral, fitsInt64_toInt n, ?_⟩
    · rw [text, render, String.toList_ofList]
      exact .of_not_blank hnumeral.not_blank
    · rw [Int64.ofInt_toInt]
  | string s => rfl

/-- What is read from a text is exactly what it spells. A value is read from the text that players
see of it; a truth value from its words in any case, a number from its numerals if it is one of 64
bits, both also between blanks; and a string from itself. -/
theorem parses_exactly :
    (∀ v : Value, parse? v.dataType v.text = some v) ∧
      ∀ (text : String) (v : Value),
        (parse? .integer text = some v ↔
          ∃ core n, Trims text.toList core ∧ Numeral core n ∧ FitsInt64 n ∧
            v = .integer (.ofInt n)) ∧
        (parse? .boolean text = some v ↔
          ∃ core b, Trims text.toList core ∧
            (∃ word ∈ words b, eqIgnoreCase (.ofList core) word = true) ∧ v = .boolean b) ∧
        (parse? .string text = some v ↔ v = .string text) := by
  refine ⟨parse?_text, fun text v => ⟨parse?_integer_eq_some_iff, parse?_boolean_eq_some_iff, ?_⟩⟩
  rw [parse?, Option.some.injEq, eq_comm]

end Value

end EventScript
