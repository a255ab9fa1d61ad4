import EventScript.Proofs.Json.Token

/-!
# Texts of values

A text spells a value when it has the tokens of the value, with blanks where they may stand. Both
layouts spell the value they are written for, and every text that spells a value which fits is read
as this value. The fuel of the readers suffices, since every token costs a character.
-/

namespace EventScript.Json

open EventScript.Text

mutual

/-- A text of a value. -/
inductive Spells : Json → List Char → Prop
  | null : Spells .null ['n', 'u', 'l', 'l']
  | yes : Spells (.bool true) ['t', 'r', 'u', 'e']
  | no : Spells (.bool false) ['f', 'a', 'l', 's', 'e']
  | num (n : Int) : Spells (.num n) (Decimal.ofInt n)
  | str (s : String) : Spells (.str s) (quoted s)
  | noItems : Spells (.arr []) ['[', ']']
  | arr {items : List Json} {cs : List Char} (bs : List Char) : IsBlank bs →
      SpellsItems items cs → Spells (.arr items) ('[' :: (bs ++ cs))
  | noMembers : Spells (.obj []) ['\x7b', '\x7d']
  | obj {members : List (String × Json)} {cs : List Char} (bs : List Char) : IsBlank bs →
      SpellsMembers members cs → Spells (.obj members) ('\x7b' :: (bs ++ cs))

/-- A text of one or more items, the closing bracket included. -/
inductive SpellsItems : List Json → List Char → Prop
  | last {j : Json} {cs : List Char} (es : List Char) : Spells j cs → IsBlank es →
      SpellsItems [j] (cs ++ (es ++ [']']))
  | more {j : Json} {items : List Json} {cs rest : List Char} (es : List Char) : Spells j cs →
      IsBlank es → SpellsItems items rest → SpellsItems (j :: items) (cs ++ ',' :: (es ++ rest))

/-- A text of one or more members, the closing brace included. -/
inductive SpellsMembers : List (String × Json) → List Char → Prop
  | last {k : String} {j : Json} {cs : List Char} (bs es : List Char) : IsBlank bs →
      Spells j cs → IsBlank es →
      SpellsMembers [(k, j)] (quoted k ++ ':' :: (bs ++ (cs ++ (es ++ ['\x7d']))))
  | more {k : String} {j : Json} {members : List (String × Json)} {cs rest : List Char}
      (bs es : List Char) : IsBlank bs → Spells j cs → IsBlank es → SpellsMembers members rest →
      SpellsMembers ((k, j) :: members) (quoted k ++ ':' :: (bs ++ (cs ++ ',' :: (es ++ rest))))

end

/-! ## The two layouts -/

mutual

/-- The layout on one line spells the value. -/
theorem spells_compactChars {l : Nat} : (j : Json) → j.fits l = true → Spells j (compactChars j)
  | .null, _ => .null
  | .bool true, _ => .yes
  | .bool false, _ => .no
  | .num n, _ => .num n
  | .real _, h => by simp [fits] at h
  | .str s, _ => .str s
  | .arr [], _ => .noItems
  | .arr (j :: rest), h => by
    obtain ⟨_, rfl, hitems⟩ := exists_of_fits_arr h
    rw [itemsFit, Bool.and_eq_true] at hitems
    exact .arr [] isBlank_nil
      (spellsItems_compactItems rest hitems.2 (spells_compactChars j hitems.1))
  | .obj [], _ => .noMembers
  | .obj ((k, j) :: rest), h => by
    obtain ⟨_, rfl, hmembers⟩ := exists_of_fits_obj h
    rw [membersFit, Bool.and_eq_true] at hmembers
    exact .obj [] isBlank_nil
      (spellsMembers_compactMembers k rest hmembers.2 (spells_compactChars j hmembers.1))
  | .unreadable, h => by simp [fits] at h

/-- An item on one line and those behind it are spelled. -/
theorem spellsItems_compactItems {l : Nat} {j : Json} {cs : List Char} : (rest : List Json) →
    itemsFit l rest = true → Spells j cs → SpellsItems (j :: rest) (cs ++ compactItems rest)
  | [], _, hj => .last [] hj isBlank_nil
  | i :: rest, h, hj => by
    rw [itemsFit, Bool.and_eq_true] at h
    exact .more [] hj isBlank_nil (spellsItems_compactItems rest h.2 (spells_compactChars i h.1))

/-- A member on one line and those behind it are spelled. -/
theorem spellsMembers_compactMembers {l : Nat} {j : Json} {cs : List Char} (k : String) :
    (rest : List (String × Json)) → membersFit l rest = true → Spells j cs →
      SpellsMembers ((k, j) :: rest) (quoted k ++ ':' :: (cs ++ compactMembers rest))
  | [], _, hj => .last [] [] isBlank_nil hj isBlank_nil
  | (k', i) :: rest, h, hj => by
    rw [membersFit, Bool.and_eq_true] at h
    exact .more [] [] isBlank_nil hj isBlank_nil
      (spellsMembers_compactMembers k' rest h.2 (spells_compactChars i h.1))

end

mutual

/-- The layout with a line for everything spells the value. -/
theorem spells_prettyChars {l : Nat} (level : Nat) :
    (j : Json) → j.fits l = true → Spells j (prettyChars level j)
  | .null, _ => .null
  | .bool true, _ => .yes
  | .bool false, _ => .no
  | .num n, _ => .num n
  | .real _, h => by simp [fits] at h
  | .str s, _ => .str s
  | .arr [], _ => .noItems
  | .arr (j :: rest), h => by
    obtain ⟨_, rfl, hitems⟩ := exists_of_fits_arr h
    rw [itemsFit, Bool.and_eq_true] at hitems
    rw [prettyChars, List.append_assoc]
    exact .arr _ (isBlank_newline _)
      (spellsItems_prettyItems level rest hitems.2 (spells_prettyChars (level + 1) j hitems.1))
  | .obj [], _ => .noMembers
  | .obj ((k, j) :: rest), h => by
    obtain ⟨_, rfl, hmembers⟩ := exists_of_fits_obj h
    rw [membersFit, Bool.and_eq_true] at hmembers
    have hj := spells_prettyChars (level + 1) j hmembers.1
    rw [prettyChars, List.append_assoc, List.append_assoc]
    exact .obj _ (isBlank_newline _) (spellsMembers_prettyMembers level k rest hmembers.2 hj)
  | .unreadable, h => by simp [fits] at h

/-- An item and those behind it, each on a line of its own, are spelled. -/
theorem spellsItems_prettyItems {l : Nat} (level : Nat) {j : Json} {cs : List Char} :
    (rest : List Json) → itemsFit l rest = true → Spells j cs →
      SpellsItems (j :: rest) (cs ++ prettyItems level rest)
  | [], _, hj => .last _ hj (isBlank_newline _)
  | i :: rest, h, hj => by
    rw [itemsFit, Bool.and_eq_true] at h
    rw [prettyItems, List.append_assoc]
    exact .more _ hj (isBlank_newline _)
      (spellsItems_prettyItems level rest h.2 (spells_prettyChars (level + 1) i h.1))

/-- A member and those behind it, each on a line of its own, are spelled. -/
theorem spellsMembers_prettyMembers {l : Nat} (level : Nat) {j : Json} {cs : List Char}
    (k : String) : (rest : List (String × Json)) → membersFit l rest = true → Spells j cs →
      SpellsMembers ((k, j) :: rest) (quoted k ++ ':' :: ' ' :: (cs ++ prettyMembers level rest))
  | [], _, hj => .last [' '] _ isBlank_space hj (isBlank_newline _)
  | (k', i) :: rest, h, hj => by
    rw [membersFit, Bool.and_eq_true] at h
    rw [prettyMembers, List.append_assoc, List.append_assoc]
    exact .more [' '] _ isBlank_space hj (isBlank_newline _)
      (spellsMembers_prettyMembers level k' rest h.2 (spells_prettyChars (level + 1) i h.1))

end

/-! ## How texts start -/

/-- Neither a blank nor the closing bracket of an array. -/
def StartsValue (c : Char) : Prop := ¬ IsBlank [c] ∧ c ≠ ']'

/-- A numeral starts with a digit or a minus sign. -/
theorem digit_or_minus_of_ofInt (n : Int) :
    ∃ c rest, Decimal.ofInt n = c :: rest ∧ (isDigit c = true ∨ c = '-') := by
  obtain ⟨k, hdigits | ⟨hdigits, _⟩⟩ := ofInt_eq_digits n
  · cases hk : Decimal.digits k with
    | nil => exact absurd hk (Decimal.digits_ne_nil k)
    | cons c rest =>
      refine ⟨c, rest, hdigits.trans hk, .inl (isDigit_of_mem_digits (n := k) ?_)⟩
      rw [hk]
      exact List.mem_cons_self
  · exact ⟨'-', Decimal.digits k, hdigits, .inr rfl⟩

/-- Something that is no digit and no minus sign. -/
theorem ne_of_digit_or_minus {c d : Char} (hc : isDigit c = true ∨ c = '-')
    (hd : (isDigit d || d == '-') = false) : c ≠ d := by
  rintro rfl
  rw [Bool.or_eq_false_iff, beq_eq_false_iff_ne] at hd
  rcases hc with hc | hc
  · rw [hd.1] at hc
    cases hc
  · exact hd.2 hc

/-- A text of a value starts with something that is neither blank nor a closing bracket. -/
theorem Spells.head {j : Json} {cs : List Char} (h : Spells j cs) :
    ∃ c rest, cs = c :: rest ∧ StartsValue c := by
  have hliteral {c : Char} {rest : List Char}
      (hc : c ∉ [' ', '\n', '\t', '\r', ']']) : ∃ d ds, c :: rest = d :: ds ∧ StartsValue d := by
    refine ⟨c, rest, rfl, ?_⟩
    simpa [StartsValue, IsBlank, and_assoc] using hc
  cases h with
  | num n =>
    obtain ⟨c, rest, hcs, hc⟩ := digit_or_minus_of_ofInt n
    rw [hcs]
    refine hliteral fun hmem => ?_
    simp only [List.mem_cons, List.not_mem_nil, or_false] at hmem
    rcases hmem with h | h | h | h | h <;> exact ne_of_digit_or_minus hc rfl h
  | _ => exact hliteral (by decide)

/-- A text of items starts like one of a value. -/
theorem SpellsItems.head {items : List Json} {cs : List Char} (h : SpellsItems items cs) :
    ∃ c rest, cs = c :: rest ∧ StartsValue c := by
  have hfirst {j : Json} {first back : List Char} (hj : Spells j first) :
      ∃ c rest, first ++ back = c :: rest ∧ StartsValue c := by
    obtain ⟨c, rest, rfl, hc⟩ := hj.head
    exact ⟨c, rest ++ back, rfl, hc⟩
  cases h with
  | last _ hj _ => exact hfirst hj
  | more _ hj _ _ => exact hfirst hj

/-! ## Reading -/

variable {fuel l : Nat} {bs : List Char}

/-- Blanks in front of a value are passed over. -/
theorem value?_append (h : IsBlank bs) (cs : List Char) :
    value? fuel l (bs ++ cs) = value? fuel l cs := by
  cases fuel with
  | zero => rfl
  | succ fuel => rw [value?, value?, skipBlanks_append h]

/-- Blanks in front of items are passed over. -/
theorem items?_append (h : IsBlank bs) (cs : List Char) :
    items? fuel l (bs ++ cs) = items? fuel l cs := by
  cases fuel with
  | zero => rfl
  | succ fuel => rw [items?, items?, value?_append h]

/-- Blanks in front of members are passed over. -/
theorem members?_append (h : IsBlank bs) (cs : List Char) :
    members? fuel l (bs ++ cs) = members? fuel l cs := by
  cases fuel with
  | zero => rfl
  | succ fuel => rw [members?, members?, skipBlanks_append h]

/-- What starts with a digit or a minus sign is read as a number. -/
theorem value?_number {c : Char} (hc : isDigit c = true ∨ c = '-') (cs : List Char) :
    value? (fuel + 1) l (c :: cs) = number? (c :: cs) := by
  have hblank : ¬ IsBlank [c] := by
    intro h
    rcases h c List.mem_cons_self with h | h | h | h <;> exact ne_of_digit_or_minus hc rfl h
  rw [value?, skipBlanks_cons hblank]
  -- of the ways a value starts, only the last one fits
  split
  case h_7 => rfl
  all_goals next h => exact absurd (List.cons.inj h).1 (ne_of_digit_or_minus hc rfl)

/-- A quoted string is read as a string. -/
theorem value?_quoted (s : String) (rest : List Char) :
    value? (fuel + 1) l (quoted s ++ rest) = some (.str s, rest) := by
  have hread := string?_flatMap s rest
  rw [quoted, List.cons_append, List.append_assoc]
  change (string? (s.toList.flatMap escaped ++ '"' :: rest)).map _ = _
  rw [hread]
  rfl

/-- What starts with a bracket and does not end at once is read as an array. -/
theorem value?_items {cs rest : List Char} {items : List Json} {c : Char} (hbs : IsBlank bs)
    (hc : StartsValue c) (h : items? fuel l (c :: cs) = some (items, rest)) :
    value? (fuel + 1) (l + 1) ('[' :: (bs ++ c :: cs)) = some (.arr items, rest) := by
  have hskip : skipBlanks (bs ++ c :: cs) = c :: cs := by
    rw [skipBlanks_append hbs, skipBlanks_cons hc.1]
  rw [value?, skipBlanks_cons (by simp [IsBlank])]
  split
  case h_5 heq =>
    obtain rfl := (List.cons.inj heq).2
    rw [hskip]
    split
    · next hclose => exact absurd (List.cons.inj hclose).1 hc.2
    · rw [Nat.add_sub_cancel, h]
      rfl
  case h_7 hopen _ => exact absurd rfl (hopen _)
  all_goals next heq => cases heq

/-- Members are put together when all their names could be read. -/
theorem ofMembers_map (members : List (String × Json)) :
    ofMembers (members.map fun e => (some e.1, e.2)) = .obj members := by
  unfold ofMembers
  rw [mapM_map_of_reread fun e : String × Json => (some e.1, e.2)]
  intro e
  rfl

/-- What starts with a brace and does not end at once is read as an object. -/
theorem value?_members {cs rest : List Char} {members : List (String × Json)} (hbs : IsBlank bs)
    (h : members? fuel l ('"' :: cs) = some (members.map fun e => (some e.1, e.2), rest)) :
    value? (fuel + 1) (l + 1) ('\x7b' :: (bs ++ '"' :: cs)) = some (.obj members, rest) := by
  have hskip : skipBlanks (bs ++ '"' :: cs) = '"' :: cs := by
    rw [skipBlanks_append hbs]
    rfl
  rw [value?, skipBlanks_cons (by simp [IsBlank])]
  split
  case h_6 heq =>
    obtain rfl := (List.cons.inj heq).2
    rw [hskip]
    split
    · next hclose => cases hclose
    · rw [Nat.add_sub_cancel, h]
      exact congrArg (fun j => some (j, rest)) (ofMembers_map members)
  case h_7 hopen => exact absurd rfl (hopen _)
  all_goals next heq => cases heq

/-- A member is read from its name, a colon and its value. -/
theorem members?_quoted (k : String) (cs : List Char) :
    members? (fuel + 1) l (quoted k ++ ':' :: cs) = (value? fuel l cs).bind fun r =>
      match skipBlanks r.2 with
      | '\x7d' :: rest => some ([(some k, r.1)], rest)
      | ',' :: rest => (members? fuel l rest).bind fun t => some ((some k, r.1) :: t.1, t.2)
      | _ => none := by
  have hread := string?_flatMap k (':' :: cs)
  rw [quoted, List.cons_append, List.append_assoc]
  change (string? (k.toList.flatMap escaped ++ '"' :: ':' :: cs)).bind _ = _
  rw [hread]
  rfl

/-- What stands behind an item or a member ends a number. -/
theorem endsNumber_append {es : List Char} {c : Char} (hes : IsBlank es)
    (hc : c = ',' ∨ c = ']' ∨ c = '\x7d') (cs : List Char) : EndsNumber (es ++ c :: cs) := by
  intro d hd
  cases es with
  | nil =>
    obtain rfl := Option.some.inj hd
    rcases hc with rfl | rfl | rfl <;> decide
  | cons b es =>
    obtain rfl := Option.some.inj hd
    rcases hes b List.mem_cons_self with rfl | rfl | rfl | rfl <;> decide

/-- What the readers with some fuel read of the texts that fit into the fuel. -/
structure ReadsTexts (fuel : Nat) : Prop where
  /-- A text of a value is read as the value. -/
  value {l : Nat} {j : Json} {cs rest : List Char} : Spells j cs → j.fits l = true →
    cs.length ≤ fuel → EndsNumber rest → value? fuel l (cs ++ rest) = some (j, rest)
  /-- A text of items is read as the items. -/
  items {l : Nat} {items : List Json} {cs : List Char} (rest : List Char) :
    SpellsItems items cs → itemsFit l items = true → cs.length ≤ fuel →
    items? fuel l (cs ++ rest) = some (items, rest)
  /-- A text of members is read as the members. -/
  members {l : Nat} {members : List (String × Json)} {cs : List Char} (rest : List Char) :
    SpellsMembers members cs → membersFit l members = true → cs.length ≤ fuel →
    members? fuel l (cs ++ rest) = some (members.map fun e => (some e.1, e.2), rest)

namespace ReadsTexts

/-- A value is read when readers with less fuel read what it contains. -/
theorem value_succ (ih : ReadsTexts fuel) {j : Json} {cs rest : List Char} (h : Spells j cs)
    (hfit : j.fits l = true) (hfuel : cs.length ≤ fuel + 1) (hrest : EndsNumber rest) :
    value? (fuel + 1) l (cs ++ rest) = some (j, rest) := by
  cases h with
  | null | yes | no => rfl
  | num n =>
    have hread := number?_ofInt hfit hrest
    obtain ⟨c, cs, hcs, hc⟩ := digit_or_minus_of_ofInt n
    rw [hcs, List.cons_append] at hread ⊢
    rw [value?_number hc, hread]
  | str s => exact value?_quoted s rest
  | noItems =>
    obtain ⟨_, rfl, _⟩ := exists_of_fits_arr hfit
    rfl
  | noMembers =>
    obtain ⟨_, rfl, _⟩ := exists_of_fits_obj hfit
    rfl
  | arr bs hbs hitems =>
    obtain ⟨_, rfl, hfit⟩ := exists_of_fits_arr hfit
    simp only [List.length_cons, List.length_append] at hfuel
    have hread := ih.items rest hitems hfit (by omega)
    obtain ⟨c, cs, rfl, hc⟩ := hitems.head
    rw [List.cons_append, List.append_assoc]
    exact value?_items hbs hc hread
  | obj bs hbs hmembers =>
    obtain ⟨_, rfl, hfit⟩ := exists_of_fits_obj hfit
    simp only [List.length_cons, List.length_append] at hfuel
    have hread := ih.members rest hmembers hfit (by omega)
    rw [List.cons_append, List.append_assoc]
    cases hmembers with
    | last => exact value?_members hbs hread
    | more => exact value?_members hbs hread

/-- Items are read when readers with less fuel read the first one and those behind it. -/
theorem items_succ (ih : ReadsTexts fuel) {items : List Json} {cs : List Char} (rest : List Char)
    (h : SpellsItems items cs) (hfit : itemsFit l items = true) (hfuel : cs.length ≤ fuel + 1) :
    items? (fuel + 1) l (cs ++ rest) = some (items, rest) := by
  cases h with
  | last es hj hes =>
    simp only [List.length_cons, List.length_append, List.length_nil] at hfuel
    rw [itemsFit, Bool.and_eq_true] at hfit
    have hread := ih.value hj hfit.1 (by omega) (endsNumber_append hes (.inr (.inl rfl)) rest)
    simp only [List.append_assoc, List.cons_append, List.nil_append]
    rw [items?, hread]
    simp only [Option.bind_eq_bind, Option.bind_some]
    rw [skipBlanks_append hes]
    rfl
  | @more j items cs' rest' es hj hes hrest =>
    simp only [List.length_cons, List.length_append] at hfuel
    rw [itemsFit, Bool.and_eq_true] at hfit
    have hread : value? fuel l (cs' ++ ',' :: (es ++ (rest' ++ rest))) = some (j, _) :=
      ih.value hj hfit.1 (by omega) (endsNumber_append isBlank_nil (.inl rfl) _)
    have hitems := ih.items rest hrest hfit.2 (by omega)
    simp only [List.append_assoc, List.cons_append]
    rw [items?, hread]
    simp only [Option.bind_eq_bind, Option.bind_some]
    change ((items? fuel l (es ++ (rest' ++ rest))).bind _) = _
    rw [items?_append hes, hitems]
    rfl

/-- Members are read when readers with less fuel read the first value and those behind it. -/
theorem members_succ (ih : ReadsTexts fuel) {members : List (String × Json)} {cs : List Char}
    (rest : List Char) (h : SpellsMembers members cs) (hfit : membersFit l members = true)
    (hfuel : cs.length ≤ fuel + 1) :
    members? (fuel + 1) l (cs ++ rest) =
      some (members.map fun e => (some e.1, e.2), rest) := by
  cases h with
  | @last k j cs' bs es hbs hj hes =>
    simp only [List.length_cons, List.length_append, List.length_nil] at hfuel
    rw [membersFit, Bool.and_eq_true] at hfit
    have hread := ih.value hj hfit.1 (by omega) (endsNumber_append hes (.inr (.inr rfl)) rest)
    simp only [List.append_assoc, List.cons_append, List.nil_append]
    rw [members?_quoted, value?_append hbs, hread, Option.bind_some, skipBlanks_append hes]
    rfl
  | @more k j members cs' rest' bs es hbs hj hes hrest =>
    simp only [List.length_cons, List.length_append] at hfuel
    rw [membersFit, Bool.and_eq_true] at hfit
    have hread : value? fuel l (cs' ++ ',' :: (es ++ (rest' ++ rest))) = some (j, _) :=
      ih.value hj hfit.1 (by omega) (endsNumber_append isBlank_nil (.inl rfl) _)
    have hmembers := ih.members rest hrest hfit.2 (by omega)
    simp only [List.append_assoc, List.cons_append]
    rw [members?_quoted, value?_append hbs, hread]
    change ((members? fuel l (es ++ (rest' ++ rest))).bind _) = _
    rw [members?_append hes, hmembers]
    rfl

end ReadsTexts

/-- Every text is read with as much fuel as it has characters. -/
theorem readsTexts (fuel : Nat) : ReadsTexts fuel := by
  induction fuel with
  | zero =>
    have hvalue {j : Json} {cs : List Char} (h : Spells j cs) : ¬ cs.length ≤ 0 := by
      obtain ⟨c, cs, rfl, _⟩ := h.head
      exact Nat.not_succ_le_zero _
    have hitems {items : List Json} {cs : List Char} (h : SpellsItems items cs) :
        ¬ cs.length ≤ 0 := by
      obtain ⟨c, cs, rfl, _⟩ := h.head
      exact Nat.not_succ_le_zero _
    have hmembers {members : List (String × Json)} {cs : List Char} (h : SpellsMembers members cs) :
        ¬ cs.length ≤ 0 := by
      cases h with
      | last => exact Nat.not_succ_le_zero _
      | more => exact Nat.not_succ_le_zero _
    exact {
      value := fun h _ hfuel => absurd hfuel (hvalue h)
      items := fun _ h _ hfuel => absurd hfuel (hitems h)
      members := fun _ h _ hfuel => absurd hfuel (hmembers h) }
  | succ fuel ih =>
    exact {
      value := ih.value_succ
      items := ih.items_succ
      members := ih.members_succ }

/-- A text that spells a value is read as the value. -/
theorem scan?_of_spells {j : Json} {cs : List Char} (h : Spells j cs)
    (hfit : j.fits maxLevels = true) : scan? (String.ofList cs) = some j := by
  have hread : value? (cs.length + 1) maxLevels cs = some (j, []) := by
    have hend : EndsNumber [] := by
      intro c hc
      cases hc
    have hvalue := (readsTexts (cs.length + 1)).value h hfit (Nat.le_succ _) hend
    rwa [List.append_nil] at hvalue
  unfold scan?
  rw [String.toList_ofList]
  dsimp only
  rw [hread]
  rfl

/-- A value that fits is read from its text on one line. -/
theorem scan?_compact {j : Json} (h : j.fits maxLevels = true) : scan? j.compact = some j :=
  scan?_of_spells (spells_compactChars j h) h

/-- A value that fits is read from its text with a line for everything. -/
theorem scan?_pretty {j : Json} (h : j.fits maxLevels = true) : scan? j.pretty = some j :=
  scan?_of_spells (spells_prettyChars 0 j h) h

end EventScript.Json
