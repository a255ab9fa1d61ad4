import EventScript.Json.Parser
import EventScript.Json.Printer
import EventScript.Proofs.Json.Form

/-!
# Written numbers and strings

A whole number of 64 bits and a quoted string are read back from what is written, whatever follows;
a number has to be ended by what follows.
-/

namespace EventScript.Json

open EventScript.Text

/-! ## Blanks -/

/-- Only characters that may stand between tokens. -/
def IsBlank (cs : List Char) : Prop := ∀ c ∈ cs, c = ' ' ∨ c = '\n' ∨ c = '\t' ∨ c = '\r'

theorem isBlank_nil : IsBlank [] := by
  intro c hc
  cases hc

theorem isBlank_space : IsBlank [' '] := by
  intro c hc
  exact .inl (List.mem_singleton.mp hc)

theorem isBlank_newline (level : Nat) : IsBlank (newline level) := by
  intro c hc
  rcases List.mem_cons.mp hc with rfl | hc
  · simp
  · simp [List.eq_of_mem_replicate hc]

/-- Blanks are passed over. -/
theorem skipBlanks_append {bs : List Char} (h : IsBlank bs) (cs : List Char) :
    skipBlanks (bs ++ cs) = skipBlanks cs := by
  refine List.dropWhile_append_of_pos fun c hc => ?_
  rcases h c hc with rfl | rfl | rfl | rfl <;> rfl

/-- What starts with another character is left as it is. -/
theorem skipBlanks_cons {c : Char} (h : ¬ IsBlank [c]) (cs : List Char) :
    skipBlanks (c :: cs) = c :: cs := by
  refine List.dropWhile_cons_of_neg fun hc => h ?_
  intro d hd
  obtain rfl := List.mem_singleton.mp hd
  simpa [or_assoc] using hc

/-! ## Numbers -/

/-- Nothing that could continue a number. -/
def EndsNumber (cs : List Char) : Prop :=
  ∀ c ∈ cs.head?, isDigit c = false ∧ c ≠ '.' ∧ c ≠ 'e' ∧ c ≠ 'E'

theorem isDigit_of_mem_digits {n : Nat} {c : Char} (h : c ∈ Decimal.digits n) :
    isDigit c = true := by
  have hc : c.isDigit = true := Nat.isDigit_of_mem_toDigits (by decide) (by decide) h
  simp only [Char.isDigit, Bool.and_eq_true, decide_eq_true_eq, ge_iff_le] at hc
  simp only [isDigit, Bool.and_eq_true, decide_eq_true_eq]
  exact hc

/-- A numeral that starts with a zero is that of zero. -/
theorem eq_zero_of_digits {n : Nat} {cs : List Char} (h : Decimal.digits n = '0' :: cs) :
    n = 0 := by
  induction n using Nat.strongRecOn generalizing cs with
  | ind n ih =>
    by_cases hn : n < 10
    · have hone : Decimal.digits n = [Nat.digitChar n] := Nat.toDigits_of_lt_base hn
      have hread := Decimal.natural?_digits n
      rw [hone, (List.cons.inj (hone.symm.trans h)).1] at hread
      exact (Option.some.inj hread).symm
    · have hmore : Decimal.digits n = Decimal.digits (n / 10) ++ [Nat.digitChar (n % 10)] :=
        Nat.toDigits_of_base_le (by decide) (Nat.not_lt.mp hn)
      have hdiv : n / 10 = 0 := by
        cases hq : Decimal.digits (n / 10) with
        | nil => exact absurd hq (Decimal.digits_ne_nil _)
        | cons c rest =>
          rw [hmore, hq, List.cons_append] at h
          rw [(List.cons.inj h).1] at hq
          exact ih (n / 10) (by omega) hq
      omega

/-- The digits of a number are read as far as they go. -/
theorem wholeDigits?_digits {rest : List Char} (n : Nat) (hrest : EndsNumber rest) :
    wholeDigits? (Decimal.digits n ++ rest) = some (Decimal.digits n, rest) := by
  have htake : (Decimal.digits n ++ rest).takeWhile isDigit = Decimal.digits n := by
    rw [List.takeWhile_append_of_pos fun _ => isDigit_of_mem_digits]
    cases rest with
    | nil => simp
    | cons c rest => simp [(hrest c rfl).1]
  unfold wholeDigits?
  dsimp only
  rw [htake, List.drop_left]
  split
  · next hnil => exact absurd hnil (Decimal.digits_ne_nil n)
  · next c rest' hzero =>
    rw [eq_zero_of_digits hzero] at hzero
    cases hzero
  · rfl

/-- A digit is no minus sign. -/
theorem digits_append_ne_minus {n : Nat} {rest cs : List Char} :
    Decimal.digits n ++ rest ≠ '-' :: cs := by
  intro h
  cases hd : Decimal.digits n with
  | nil => exact Decimal.digits_ne_nil n hd
  | cons c ds =>
    have hc : isDigit c = true := isDigit_of_mem_digits (by rw [hd]; exact List.mem_cons_self)
    rw [hd, List.cons_append] at h
    rw [(List.cons.inj h).1] at hc
    exact absurd hc (by decide)

/-- What follows a number has no fraction. -/
theorem fraction?_of_endsNumber {rest : List Char} (h : EndsNumber rest) :
    fraction? rest = some ([], rest) := by
  unfold fraction?
  split
  · next => exact absurd rfl (h _ rfl).2.1
  · rfl

/-- What follows a number has no exponent. -/
theorem exponent?_of_endsNumber {rest : List Char} (h : EndsNumber rest) :
    exponent? rest = some ([], rest) := by
  cases rest with
  | nil => rfl
  | cons c rest => exact if_neg (not_or.mpr (h c rfl).2.2)

/-- A numeral is a row of digits, behind a minus sign for a negative number. -/
theorem ofInt_eq_digits (n : Int) : ∃ k, Decimal.ofInt n = Decimal.digits k ∨
    Decimal.ofInt n = '-' :: Decimal.digits k ∧ n ≠ 0 := by
  cases n with
  | ofNat k => exact ⟨k, .inl rfl⟩
  | negSucc k => exact ⟨k + 1, .inr ⟨rfl, Int.negSucc_ne_zero k⟩⟩

/-- A whole number of 64 bits is read back. -/
theorem number?_ofInt {n : Int} {l : Nat} {rest : List Char} (hn : (num n).fits l = true)
    (hrest : EndsNumber rest) : number? (Decimal.ofInt n ++ rest) = some (.num n, rest) := by
  rw [fits] at hn
  have hread := Decimal.integer?_ofInt n
  obtain ⟨k, hdigits | ⟨hdigits, hne⟩⟩ := ofInt_eq_digits n
  · rw [hdigits] at hread ⊢
    unfold number?
    split
    next sign ds hsign =>
    split at hsign
    · next hminus => exact absurd hminus digits_append_ne_minus
    cases hsign
    simp only [List.nil_append, wholeDigits?_digits k hrest, fraction?_of_endsNumber hrest,
      exponent?_of_endsNumber hrest, hread, Option.bind_eq_bind, Option.bind_some,
      List.isEmpty_nil, Bool.true_or, Bool.true_and, hn, if_true]
    rfl
  · rw [hdigits] at hread ⊢
    have hne' : (n != 0) = true := by simpa using hne
    unfold number?
    simp only [List.cons_append, List.nil_append, wholeDigits?_digits k hrest,
      fraction?_of_endsNumber hrest, exponent?_of_endsNumber hrest, hread, Option.bind_eq_bind,
      Option.bind_some, List.isEmpty_nil, hne', Bool.or_true, Bool.true_and, hn, if_true]
    rfl

/-! ## Strings -/

theorem hexDigit?_hexLower {n : Nat} (h : n < 16) : hexDigit? (hexLower n) = some n := by
  have hall : ∀ n < 16, hexDigit? (hexLower n) = some n := by decide
  exact hall n h

/-- A control character is read from its number. -/
theorem unicodeEscape?_hexLower {c : Char} (h : c.toNat < 32) (rest : List Char) :
    unicodeEscape? ('0' :: '0' :: hexLower (c.toNat / 16) :: hexLower (c.toNat % 16) :: rest) =
      some (.char c, rest) := by
  have hzero : hexDigit? '0' = some 0 := rfl
  have hhigh : hexDigit? (hexLower (c.toNat / 16)) = some (c.toNat / 16) :=
    hexDigit?_hexLower (by omega)
  have hlow : hexDigit? (hexLower (c.toNat % 16)) = some (c.toNat % 16) :=
    hexDigit?_hexLower (by omega)
  have hunit : hexUnit? ('0' :: '0' :: hexLower (c.toNat / 16) :: hexLower (c.toNat % 16) ::
      rest) = some (c.toNat, rest) := by
    have hsum : 16 * (16 * (16 * 0 + 0) + c.toNat / 16) + c.toNat % 16 = c.toNat := by omega
    simp only [hexUnit?, hzero, hhigh, hlow, Option.bind_eq_bind, Option.bind_some, hsum]
    rfl
  simp only [unicodeEscape?, hunit, Option.bind_eq_bind, Option.bind_some]
  rw [if_neg (by omega), if_neg (by omega), Char.ofNat_toNat]

/-- A character is read from its place in a string. -/
theorem stringParts?_escaped (c : Char) (fuel : Nat) (cs : List Char) :
    stringParts? (fuel + 1) (escaped c ++ cs) =
      (stringParts? fuel cs).bind fun r => some (.char c :: r.1, r.2) := by
  have hescape {tail : List Char} (h : escape? (tail ++ cs) = some (.char c, cs)) :
      stringParts? (fuel + 1) ('\\' :: tail ++ cs) =
        (stringParts? fuel cs).bind fun r => some (.char c :: r.1, r.2) := by
    simp [stringParts?, h]
  unfold escaped
  -- a case for every character with a short escape, one for control characters, one for all else
  split
  · next h => subst h; exact hescape rfl
  split
  · next h => subst h; exact hescape rfl
  split
  · next h => subst h; exact hescape rfl
  split
  · next h => subst h; exact hescape rfl
  split
  · next h => subst h; exact hescape rfl
  split
  · next h => subst h; exact hescape rfl
  split
  · next h => subst h; exact hescape rfl
  split
  · next h => exact hescape (unicodeEscape?_hexLower h cs)
  · next hquote hslash _ _ _ _ _ h => simp [stringParts?, hquote, hslash, h]

/-- The characters of a string are read up to the closing quote. -/
theorem stringParts?_flatMap (cs rest : List Char) {fuel : Nat} (h : cs.length < fuel) :
    stringParts? fuel (cs.flatMap escaped ++ '"' :: rest) = some (cs.map .char, rest) := by
  induction cs generalizing fuel with
  | nil =>
    obtain ⟨fuel, rfl⟩ := Nat.exists_eq_add_of_lt h
    simp [stringParts?]
  | cons c cs ih =>
    obtain ⟨fuel, rfl⟩ := Nat.exists_eq_succ_of_ne_zero (Nat.ne_zero_of_lt h)
    rw [List.flatMap_cons, List.append_assoc, stringParts?_escaped,
      ih (Nat.lt_of_succ_lt_succ h)]
    rfl

theorem joinParts?_char (cs : List Char) : joinParts? (cs.map .char) = some cs := by
  induction cs with
  | nil => rfl
  | cons c cs ih => rw [List.map_cons, joinParts?, ih, Option.map_some]

/-- No character is left out of a string. -/
theorem length_le_length_flatMap (cs : List Char) : cs.length ≤ (cs.flatMap escaped).length := by
  induction cs with
  | nil => exact Nat.le_refl 0
  | cons c cs ih =>
    have hc : 1 ≤ (escaped c).length := by
      unfold escaped
      repeat' split
      all_goals simp
    rw [List.flatMap_cons, List.length_append, List.length_cons]
    omega

/-- A string is read behind its opening quote. -/
theorem string?_flatMap (s : String) (rest : List Char) :
    string? (s.toList.flatMap escaped ++ '"' :: rest) = some (some s, rest) := by
  have hlength : s.toList.length < (s.toList.flatMap escaped ++ '"' :: rest).length + 1 := by
    have hle := length_le_length_flatMap s.toList
    rw [List.length_append]
    omega
  simp only [string?, stringParts?_flatMap s.toList rest hlength, Option.map_some, joinParts?_char,
    String.ofList_toList]

end EventScript.Json
