/-!
# Decimal numerals

Whole numbers as ASCII digits. `natural?_digits` and `integer?_ofInt` say that a written number
reads back as itself.
-/

namespace EventScript.Text.Decimal

/-- The value of an ASCII digit. -/
def digit? (c : Char) : Option Nat :=
  if '0' ≤ c ∧ c ≤ '9' then some (c.toNat - 48) else none

/-- Read digits behind a number that is already known. -/
def continueWith (n : Nat) : List Char → Option Nat
  | [] => some n
  | c :: rest => (digit? c).bind fun d => continueWith (10 * n + d) rest

/-- Read one or more digits and nothing else. -/
def natural? : List Char → Option Nat
  | [] => none
  | cs => continueWith 0 cs

/-- Read digits that may follow one plus sign. -/
def unsigned? : List Char → Option Nat
  | '+' :: rest => natural? rest
  | cs => natural? cs

/-- Read digits that may follow one sign. -/
def integer? : List Char → Option Int
  | '-' :: rest => (natural? rest).map fun n => -(n : Int)
  | cs => (unsigned? cs).map fun n => (n : Int)

/-- Why a text is not a number within a limit. -/
inductive NumeralError where
  | empty
  | invalidDigit
  | tooLarge
  deriving DecidableEq

/-- The text of an error. -/
def NumeralError.message : NumeralError → String
  | empty => "cannot parse integer from empty string"
  | invalidDigit => "invalid digit found in string"
  | tooLarge => "number too large to fit in target type"

/-- Read digits behind a number that is already known, as far as the number stays within a limit. -/
def continueWithin (limit n : Nat) : List Char → Except NumeralError Nat
  | [] => .ok n
  | c :: rest =>
    match digit? c with
    | none => .error .invalidDigit
    | some d =>
      if limit < 10 * n + d then .error .tooLarge else continueWithin limit (10 * n + d) rest

/-- Read digits that may follow one plus sign, within a limit. The first thing that is wrong counts.
-/
def unsignedWithin (limit : Nat) : List Char → Except NumeralError Nat
  | [] => .error .empty
  | ['+'] => .error .invalidDigit
  | '+' :: rest => continueWithin limit 0 rest
  | cs => continueWithin limit 0 cs

/-- The digits of a number, without leading zeros. -/
def digits (n : Nat) : List Char := Nat.toDigits 10 n

/-- The numeral of an integer; a minus sign marks a negative one. -/
def ofInt : Int → List Char
  | .ofNat n => digits n
  | .negSucc n => '-' :: digits (n + 1)

/-- The numeral of an integer as a text. -/
def render (n : Int) : String := String.ofList (ofInt n)

/-- A number below one hundred with two digits. -/
def twoDigits (n : Nat) : String :=
  if n < 10 then "0" ++ render n else render n

private theorem digit?_digitChar {d : Nat} (h : d < 10) : digit? (Nat.digitChar d) = some d := by
  have hd : d = 0 ∨ d = 1 ∨ d = 2 ∨ d = 3 ∨ d = 4 ∨ d = 5 ∨ d = 6 ∨ d = 7 ∨ d = 8 ∨ d = 9 := by omega
  rcases hd with rfl | rfl | rfl | rfl | rfl | rfl | rfl | rfl | rfl | rfl <;> decide

private theorem continueWith_append (n : Nat) (cs ds : List Char) :
    continueWith n (cs ++ ds) = (continueWith n cs).bind fun m => continueWith m ds := by
  induction cs generalizing n with
  | nil => rfl
  | cons c cs ih =>
    simp only [List.cons_append, continueWith]
    cases digit? c with
    | none => rfl
    | some d => simp [ih]

private theorem continueWith_digits (n : Nat) : continueWith 0 (digits n) = some n := by
  induction n using Nat.strongRecOn with
  | ind n ih =>
    by_cases h : n < 10
    · rw [digits, Nat.toDigits_of_lt_base h]
      simp [continueWith, digit?_digitChar h]
    · have hq : 0 < n / 10 := by omega
      have hr : n % 10 < 10 := by omega
      have he : digits n = digits (n / 10) ++ [Nat.digitChar (n % 10)] := by
        have ha := Nat.toDigits_append_toDigits (b := 10) (by decide) hq hr
        rw [Nat.toDigits_of_lt_base hr] at ha
        rw [digits, digits, ha]
        congr 1
        omega
      rw [he, continueWith_append, ih (n / 10) (by omega)]
      simp only [Option.bind_some, continueWith, digit?_digitChar hr]
      congr 1
      omega

theorem digits_ne_nil (n : Nat) : digits n ≠ [] := Nat.toDigits_ne_nil

/-- A written natural number reads back as itself. -/
@[simp] theorem natural?_digits (n : Nat) : natural? (digits n) = some n := by
  have h := continueWith_digits n
  cases hd : digits n with
  | nil => exact absurd hd (digits_ne_nil n)
  | cons c cs =>
    rw [hd] at h
    exact h

private theorem isDigit_head {n : Nat} {c : Char} {cs : List Char} (h : digits n = c :: cs) :
    (digit? c).isSome = true := by
  have hn := continueWith_digits n
  rw [h] at hn
  cases hc : digit? c with
  | none => simp [continueWith, hc] at hn
  | some d => rfl

private theorem unsigned?_digits (n : Nat) : unsigned? (digits n) = some n := by
  have hn := natural?_digits n
  cases hd : digits n with
  | nil => exact absurd hd (digits_ne_nil n)
  | cons c cs =>
    have hc := isDigit_head hd
    rw [hd] at hn
    unfold unsigned?
    split
    next heq =>
      obtain ⟨rfl, rfl⟩ := List.cons.inj heq
      exact absurd hc (by decide)
    · exact hn

/-- A written integer reads back as itself. -/
@[simp] theorem integer?_ofInt (n : Int) : integer? (ofInt n) = some n := by
  cases n with
  | negSucc n =>
    show (natural? (digits (n + 1))).map (fun m => -(m : Int)) = some (Int.negSucc n)
    rw [natural?_digits]
    rfl
  | ofNat n =>
    have hu := unsigned?_digits n
    simp only [ofInt]
    cases hd : digits n with
    | nil => exact absurd hd (digits_ne_nil n)
    | cons c cs =>
      have hc := isDigit_head hd
      rw [hd] at hu
      unfold integer?
      split
      next heq =>
        obtain ⟨rfl, rfl⟩ := List.cons.inj heq
        exact absurd hc (by decide)
      · rw [hu]
        rfl

end EventScript.Text.Decimal
