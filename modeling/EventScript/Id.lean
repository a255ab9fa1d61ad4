import EventScript.Table

/-!
# Identifiers

Everything a script names is named by a 128-bit identifier, and the kind of thing is part of the
identifier's type. The text form has 32 lower-case hexadecimal digits in five groups; three more
spellings are read. `Id.ofText?_text` says that a written identifier reads back as itself.
-/

namespace EventScript

/-- The kinds of things that carry identifiers. -/
inductive IdKind where
  | page | branch | event | run | player | account | guild | place | placeInstance | variableSlot
  | item | spell | quest | task | profession | shop | craftingTable | npc | animation | entity
  deriving DecidableEq

/-- The identifier of one thing of a kind. -/
structure Id (κ : IdKind) where
  /-- The identifier as a number. -/
  value : BitVec 128
  deriving DecidableEq

/-- Identifier of a compiled page. -/
abbrev PageId := Id .page
/-- Identifier of a command list inside a page. -/
abbrev BranchId := Id .branch
/-- Identifier of an authored event, on a map or common. -/
abbrev EventId := Id .event
/-- Identifier of one running event instance. -/
abbrev InstanceId := Id .run
/-- Identifier of a player character. -/
abbrev PlayerId := Id .player
/-- Identifier of an account that owns players. -/
abbrev UserId := Id .account
/-- Identifier of a guild. -/
abbrev GuildId := Id .guild
/-- Identifier of a map. -/
abbrev MapId := Id .place
/-- Identifier of a map instance; nil is the overworld. -/
abbrev MapInstanceId := Id .placeInstance
/-- Identifier of a variable within its scope. -/
abbrev VariableId := Id .variableSlot
/-- Identifier of an item. -/
abbrev ItemId := Id .item
/-- Identifier of a spell. -/
abbrev SpellId := Id .spell
/-- Identifier of a quest. -/
abbrev QuestId := Id .quest
/-- Identifier of a task of a quest. -/
abbrev TaskId := Id .task
/-- Identifier of a character class. -/
abbrev ClassId := Id .profession
/-- Identifier of a shop. -/
abbrev ShopId := Id .shop
/-- Identifier of a crafting table. -/
abbrev CraftingTableId := Id .craftingTable
/-- Identifier of a kind of character that scripts spawn. -/
abbrev NpcId := Id .npc
/-- Identifier of an animation. -/
abbrev AnimationId := Id .animation
/-- Identifier of a spawned character. -/
abbrev EntityId := Id .entity

namespace Id

variable {κ : IdKind}

/-- The identifier that refers to nothing. -/
def nil : Id κ := ⟨0⟩

instance : Inhabited (Id κ) := ⟨nil⟩

/-- Whether the identifier refers to nothing. -/
def isNil (i : Id κ) : Bool := i.value == 0

/-- The same number as the identifier of another kind of thing. -/
def retag {ι : IdKind} (i : Id κ) : Id ι := ⟨i.value⟩

/-- Identifiers of the same number are equal. -/
theorem eq_of_toNat_eq {i j : Id κ} (h : i.value.toNat = j.value.toNat) : i = j := by
  obtain ⟨i⟩ := i
  obtain ⟨j⟩ := j
  exact congrArg Id.mk (BitVec.eq_of_toNat_eq h)

/-- Identifiers are ordered as numbers, which is the order of their text forms. -/
instance : Keyed (Id κ) where
  rank i := [i.value.toNat]
  rank_injective _ _ h := eq_of_toNat_eq (List.cons.inj h).1

/-- The lower-case hexadecimal digit of a number below 16. -/
def hexDigit (n : Nat) : Char := if n < 10 then Char.ofNat (48 + n) else Char.ofNat (87 + n)

/-- The value of a hexadecimal digit of either case. -/
def hexValue? (c : Char) : Option Nat :=
  if '0' ≤ c ∧ c ≤ '9' then some (c.toNat - 48)
  else if 'a' ≤ c ∧ c ≤ 'f' then some (c.toNat - 87)
  else if 'A' ≤ c ∧ c ≤ 'F' then some (c.toNat - 55)
  else none

/-- The last `count` hexadecimal digits of a number, the highest first. -/
def hexDigits : Nat → Nat → List Char
  | 0, _ => []
  | count + 1, n => hexDigits count (n / 16) ++ [hexDigit (n % 16)]

/-- Read hexadecimal digits behind a number that is already known. -/
def readHex (n : Nat) : List Char → Option Nat
  | [] => some n
  | c :: rest => (hexValue? c).bind fun d => readHex (16 * n + d) rest

/-- The 32 digits of an identifier. -/
def digits (i : Id κ) : List Char := hexDigits 32 i.value.toNat

/-- Write hyphens between the groups of 8, 4, 4, 4 and 12 digits. -/
def hyphenate (ds : List Char) : List Char :=
  ds.take 8 ++ '-' :: ((ds.drop 8).take 4 ++ '-' :: ((ds.drop 12).take 4 ++
    '-' :: ((ds.drop 16).take 4 ++ '-' :: ds.drop 20)))

/-- The text form of an identifier. -/
def text (i : Id κ) : String := String.ofList (hyphenate i.digits)

instance : ToString (Id κ) := ⟨text⟩

/-- Read 32 digits. -/
def ofDigits? (ds : List Char) : Option (Id κ) :=
  if ds.length = 32 then (readHex 0 ds).map fun n => ⟨BitVec.ofNat 128 n⟩ else none

/-- Read digits in hyphenated groups. -/
def ofGroups? (cs : List Char) : Option (Id κ) :=
  let ds := cs.take 8 ++ (cs.drop 9).take 4 ++ (cs.drop 14).take 4 ++ (cs.drop 19).take 4 ++
    cs.drop 24
  if cs = hyphenate ds then ofDigits? ds else none

/-- Read the text of an identifier: hyphenated groups, also in braces or behind `urn:uuid:`, or the
32 digits alone, in letters of either case everywhere. -/
def ofText? (s : String) : Option (Id κ) :=
  let cs := s.toList
  match cs.length with
  | 32 => ofDigits? cs
  | 36 => ofGroups? cs
  | 38 =>
    if cs.head? = some '\x7b' ∧ cs.getLast? = some '\x7d' then ofGroups? cs.tail.dropLast else none
  | 45 => if (cs.take 9).map Char.toLower = "urn:uuid:".toList then ofGroups? (cs.drop 9) else none
  | _ => none

private theorem hexValue?_hexDigit {n : Nat} (h : n < 16) : hexValue? (hexDigit n) = some n := by
  have hn : n = 0 ∨ n = 1 ∨ n = 2 ∨ n = 3 ∨ n = 4 ∨ n = 5 ∨ n = 6 ∨ n = 7 ∨ n = 8 ∨ n = 9 ∨
      n = 10 ∨ n = 11 ∨ n = 12 ∨ n = 13 ∨ n = 14 ∨ n = 15 := by omega
  rcases hn with rfl | rfl | rfl | rfl | rfl | rfl | rfl | rfl | rfl | rfl | rfl | rfl | rfl | rfl |
    rfl | rfl <;> decide

@[simp] theorem length_hexDigits (count n : Nat) : (hexDigits count n).length = count := by
  induction count generalizing n with
  | zero => rfl
  | succ count ih => simp [hexDigits, ih]

private theorem readHex_append (n : Nat) (cs ds : List Char) :
    readHex n (cs ++ ds) = (readHex n cs).bind fun m => readHex m ds := by
  induction cs generalizing n with
  | nil => rfl
  | cons c cs ih =>
    simp only [List.cons_append, readHex]
    cases hexValue? c with
    | none => rfl
    | some d => simp [ih]

private theorem readHex_hexDigits (count n : Nat) (h : n < Nat.pow 16 count) :
    readHex 0 (hexDigits count n) = some n := by
  induction count generalizing n with
  | zero =>
    have hn : n = 0 := by simpa using h
    simp [hexDigits, readHex, hn]
  | succ count ih =>
    have hq : n / 16 < Nat.pow 16 count :=
      Nat.div_lt_of_lt_mul (Nat.mul_comm .. ▸ (h : n < Nat.pow 16 count * 16))
    rw [hexDigits, readHex_append, ih (n / 16) hq]
    have hr : n % 16 < 16 := by omega
    simp only [Option.bind_some, readHex, hexValue?_hexDigit hr]
    congr 1
    omega

private theorem ofGroups?_hyphenate {ds : List Char} (h : ds.length = 32) :
    (ofGroups? (hyphenate ds) : Option (Id κ)) = ofDigits? ds := by
  have hcut (n m : Nat) (a b : List Char) (ha : a.length = n) :
      (a ++ '-' :: b).drop (n + 1 + m) = b.drop m := by
    rw [List.drop_append, List.drop_eq_nil_of_le (by omega), List.nil_append, ha,
      show n + 1 + m - n = m + 1 by omega, List.drop_succ_cons]
  have hkeep (n : Nat) (a b : List Char) (ha : a.length = n) : (a ++ b).take n = a :=
    ha ▸ List.take_left
  have h₁ : (ds.take 8).length = 8 := by simp [h]
  have h₂ : ((ds.drop 8).take 4).length = 4 := by simp [h]
  have h₃ : ((ds.drop 12).take 4).length = 4 := by simp [h]
  have h₄ : ((ds.drop 16).take 4).length = 4 := by simp [h]
  have hg : (hyphenate ds).take 8 ++ ((hyphenate ds).drop 9).take 4 ++
      ((hyphenate ds).drop 14).take 4 ++ ((hyphenate ds).drop 19).take 4 ++
      (hyphenate ds).drop 24 = ds := by
    have hs (n : Nat) : (ds.drop n).take 4 ++ ds.drop (n + 4) = ds.drop n := by
      rw [← List.drop_drop, List.take_append_drop]
    simp only [hyphenate]
    rw [hkeep 8 _ _ h₁, hcut 8 0 _ _ h₁, hcut 8 5 _ _ h₁, hcut 8 10 _ _ h₁, hcut 8 15 _ _ h₁,
      hcut 4 0 _ _ h₂, hcut 4 5 _ _ h₂, hcut 4 10 _ _ h₂, hcut 4 0 _ _ h₃, hcut 4 5 _ _ h₃,
      hcut 4 0 _ _ h₄]
    simp only [List.drop_zero]
    rw [hkeep 4 _ _ h₂, hkeep 4 _ _ h₃, hkeep 4 _ _ h₄]
    simp only [List.append_assoc]
    rw [hs 16, hs 12, hs 8, List.take_append_drop]
  simp only [ofGroups?, hg, ite_true]

/-- A written identifier reads back as itself. -/
@[simp] theorem ofText?_text (i : Id κ) : ofText? i.text = some i := by
  have hd : i.digits.length = 32 := length_hexDigits 32 _
  have hl : (hyphenate i.digits).length = 36 := by simp [hyphenate, hd]
  have hr : readHex 0 i.digits = some i.value.toNat :=
    readHex_hexDigits 32 _ i.value.isLt
  simp only [ofText?, text, String.toList_ofList, hl]
  rw [ofGroups?_hyphenate hd, ofDigits?]
  simp [hd, hr]

end Id

end EventScript
