import EventScript.Proofs.Template

/-!
# How texts are read

A text is read from left to right in one way only. What stands before the next backslash is one part
of it. At a backslash stands a token with its name in braces if there is one, else the longest word
token there is, else the backslash alone. A text with its tokens replaced consists of what its parts
stand for, so nothing but tokens is changed, and what takes the place of a token is not read again.
-/

namespace EventScript

open Text

/-- A part of a text as it is read. -/
inductive TextPart where
  /-- Characters none of which is a backslash. -/
  | plain (text : String)
  | word (token : WordToken)
  | braced (token : BracedToken) (name : String)
  /-- A backslash with which no token starts. -/
  | backslash
  deriving DecidableEq

namespace TextPart

/-- How a part is written. -/
def written : TextPart → String
  | plain text => text
  | word token => token.written
  | braced token name => token.written ++ name ++ "\x7d"
  | backslash => "\\"

/-- What a part stands for. A token with a name of which there is no value stays as it is. -/
def value (v : Perspective) : TextPart → String
  | plain text => text
  | word token => token.value v
  | braced token name => (token.value? v name).getD (written (braced token name))
  | backslash => "\\"

/-- A text starts with a token that has its name in braces. -/
def StartsBraced (cs : List Char) : Prop :=
  ∃ (token : BracedToken) (name : String), '\x7d' ∉ name.toList ∧
    (written (braced token name)).toList <+: cs

/-- A part is the first one of a text in front of the rest. -/
inductive Leads (rest : List Char) : TextPart → Prop
  | plain {text : String} (nonempty : text ≠ "") (plain : '\\' ∉ text.toList)
      (maximal : rest = [] ∨ ∃ more, rest = '\\' :: more) : Leads rest (.plain text)
  | braced {token : BracedToken} {name : String} (closed : '\x7d' ∉ name.toList) :
      Leads rest (.braced token name)
  | word {token : WordToken} (unbraced : ¬ StartsBraced (token.written.toList ++ rest))
      (longest : ∀ other : WordToken, other.written.toList <+: token.written.toList ++ rest →
        other.written.length ≤ token.written.length) : Leads rest (.word token)
  | backslash (unbraced : ¬ StartsBraced ('\\' :: rest))
      (unnamed : ∀ other : WordToken, ¬ other.written.toList <+: '\\' :: rest) :
      Leads rest .backslash

/-- The parts as which a text is read. -/
inductive Reads : List Char → List TextPart → Prop
  | nil : Reads [] []
  | cons {part : TextPart} {rest : List Char} {parts : List TextPart} (first : Leads rest part)
      (later : Reads rest parts) : Reads (part.written.toList ++ rest) (part :: parts)

end TextPart

namespace WordToken

/-- No token that comes later starts with an earlier one. -/
theorem pairwise_all :
    all.Pairwise fun token later => ¬ token.written.toList <+: later.written.toList := by
  decide

theorem mem_all (token : WordToken) : token ∈ all := by
  cases token <;> decide

/-- Tokens that are written alike are the same. -/
theorem written_injective {token other : WordToken} (h : token.written = other.written) :
    token = other := by
  revert h
  cases token <;> cases other <;> decide

/-- A token starts with a backslash. -/
theorem toList_written (token : WordToken) : ∃ read, token.written.toList = '\\' :: read := by
  cases token <;> exact ⟨_, rfl⟩

end WordToken

/-- What stands before the first character that passes a test, and what follows it. -/
theorem Text.eq_append_of_splitAt? {p : Char → Bool} {cs before rest : List Char}
    (h : splitAt? p cs = some (before, rest)) :
    ∃ c, cs = before ++ c :: rest ∧ p c = true ∧ ∀ x ∈ before, p x = false := by
  induction cs generalizing before with
  | nil => cases h
  | cons x cs ih =>
    rw [splitAt?] at h
    split at h
    · next hx =>
      cases h
      exact ⟨x, rfl, hx, List.forall_mem_nil _⟩
    · next hx =>
      obtain ⟨⟨before', rest'⟩, hsplit, heq⟩ := Option.map_eq_some_iff.mp h
      cases heq
      obtain ⟨c, rfl, hc, hbefore⟩ := ih hsplit
      refine ⟨c, rfl, hc, List.forall_mem_cons.mpr ⟨?_, hbefore⟩⟩
      exact Bool.eq_false_iff.mpr hx

namespace TextPiece

variable {cs : List Char}

/-- A token with a name in braces is found when the text starts with it. -/
theorem written_of_bracedAt? {piece : TextPiece} (h : bracedAt? cs = some piece) :
    ∃ (token : BracedToken) (name : String), '\x7d' ∉ name.toList ∧
      (TextPart.written (.braced token name)).toList <+: cs := by
  obtain ⟨token, -, hpiece⟩ := List.exists_of_findSome?_eq_some h
  obtain ⟨rest, hrest, hpiece⟩ := Option.bind_eq_some_iff.mp hpiece
  obtain ⟨⟨name, after⟩, hsplit, -⟩ := Option.bind_eq_some_iff.mp hpiece
  obtain ⟨c, rfl, hc, hname⟩ := eq_append_of_splitAt? hsplit
  refine ⟨token, String.ofList name, ?_, after, ?_⟩
  · intro hmem
    rw [String.toList_ofList] at hmem
    simpa using hname _ hmem
  · rw [dropLead?_eq_some_iff.mp hrest, beq_iff_eq.mp hc]
    simp [TextPart.written]

/-- No token with a name in braces is found exactly when the text starts with none. -/
theorem bracedAt?_eq_none_iff : bracedAt? cs = none ↔ ¬ TextPart.StartsBraced cs := by
  constructor
  · rintro h ⟨token, name, hname, rest, rfl⟩
    have hfound : bracedAt? ((written (braced token name)).toList ++ rest) = _ :=
      bracedAt?_written hname rest
    rw [show TextPart.written (.braced token name) = written (braced token name) from rfl] at h
    rw [h] at hfound
    cases hfound
  · intro h
    rw [Option.eq_none_iff_forall_ne_some]
    intro piece hpiece
    exact h (written_of_bracedAt? hpiece)

/-- No word token is found exactly when the text starts with none. -/
theorem wordAt?_eq_none_iff :
    wordAt? cs = none ↔ ∀ token : WordToken, ¬ token.written.toList <+: cs := by
  rw [wordAt?, Option.map_eq_none_iff, List.find?_eq_none]
  constructor
  · intro h token hstarts
    exact h token token.mem_all (List.isPrefixOf_iff_prefix.mpr hstarts)
  · intro h token _ hstarts
    exact h token (List.isPrefixOf_iff_prefix.mp hstarts)

/-- The word token that is found is the longest one with which the text starts. -/
theorem longest_of_wordAt? {piece : TextPiece} (h : wordAt? cs = some piece) :
    ∃ token : WordToken, piece = word token ∧ token.written.toList <+: cs ∧
      ∀ other : WordToken, other.written.toList <+: cs →
        other.written.length ≤ token.written.length := by
  obtain ⟨token, hfind, rfl⟩ := Option.map_eq_some_iff.mp h
  obtain ⟨hfound, before, after, hall, hbefore⟩ := List.find?_eq_some_iff_append.mp hfind
  have hstarts : token.written.toList <+: cs := List.isPrefixOf_iff_prefix.mp hfound
  refine ⟨token, rfl, hstarts, fun other hother => ?_⟩
  have hmem := other.mem_all
  rw [hall, List.mem_append, List.mem_cons] at hmem
  rcases hmem with hearlier | rfl | hlater
  · have hnot := hbefore other hearlier
    rw [List.isPrefixOf_iff_prefix.mpr hother] at hnot
    cases hnot
  · exact Nat.le_refl _
  · -- A later token is not longer, for it would start with this one.
    have hpairwise := WordToken.pairwise_all
    rw [hall, List.pairwise_append, List.pairwise_cons] at hpairwise
    have hnot := hpairwise.2.1.1 other hlater
    have hstart := (List.prefix_or_prefix_of_prefix hother hstarts).resolve_right hnot
    simpa only [String.length_toList] using hstart.length_le

/-- Only the longest word token with which the text starts is found. -/
theorem wordAt?_eq_some {token : WordToken} (hstarts : token.written.toList <+: cs)
    (hlongest : ∀ other : WordToken, other.written.toList <+: cs →
      other.written.length ≤ token.written.length) : wordAt? cs = some (word token) := by
  cases hword : wordAt? cs with
  | none => exact absurd hstarts (wordAt?_eq_none_iff.mp hword token)
  | some piece =>
    obtain ⟨found, rfl, hfound, hlongest'⟩ := longest_of_wordAt? hword
    have hlength : found.written.toList.length = token.written.toList.length := by
      simpa only [String.length_toList] using
        Nat.le_antisymm (hlongest found hfound) (hlongest' token hstarts)
    have hstart := List.prefix_of_prefix_length_le hfound hstarts (Nat.le_of_eq hlength)
    have hsame := String.toList_inj.mp (hstart.eq_of_length hlength)
    rw [WordToken.written_injective hsame]

/-- A text that starts with no backslash starts with no token. -/
theorem tokenAt?_eq_none {c : Char} (hc : c ≠ '\\') (rest : List Char) :
    tokenAt? (c :: rest) = none := by
  have hhead {read cs : List Char} (hread : cs = '\\' :: read) : ¬ cs <+: c :: rest := by
    rintro ⟨after, hafter⟩
    rw [hread, List.cons_append, List.cons.injEq] at hafter
    exact hc hafter.1.symm
  rw [tokenAt?, Option.or_eq_none_iff]
  constructor
  · rw [bracedAt?_eq_none_iff]
    rintro ⟨token, name, -, hstarts⟩
    obtain ⟨read, hread⟩ := toList_written token name
    exact hhead hread hstarts
  · rw [wordAt?_eq_none_iff]
    intro token hstarts
    obtain ⟨read, hread⟩ := token.toList_written
    exact hhead hread hstarts

/-- Characters in front of the next backslash are parts of their own. -/
theorem splitFrom_plain {plain : List Char} (hplain : '\\' ∉ plain) (rest : List Char) :
    splitFrom 0 (plain ++ rest) = plain.map char ++ splitFrom 0 rest := by
  induction plain with
  | nil => rfl
  | cons c plain ih =>
    have hc : c ≠ '\\' := fun hc => hplain (hc ▸ List.mem_cons_self)
    have htail := ih fun hmem => hplain (List.mem_cons_of_mem _ hmem)
    rw [List.cons_append, splitFrom, tokenAt?_eq_none hc]
    exact congrArg (char c :: ·) htail

end TextPiece

namespace TextPart

/-- The token of a part. -/
def token? : TextPart → Option TextPiece
  | word token => some (.word token)
  | braced token name => some (.braced token name)
  | _ => none

/-- The characters of a part that are no part of a token. -/
def outside : TextPart → List Char
  | plain text => text.toList
  | _ => []

/-- The pieces into which a part is split. -/
def pieces : TextPart → List TextPiece
  | plain text => text.toList.map .char
  | word token => [.word token]
  | braced token name => [.braced token name]
  | backslash => [.char '\\']

variable {rest : List Char} {part : TextPart}

/-- A part that is not plain starts with a backslash. -/
theorem toList_written (part : TextPart) :
    (∃ text, part = plain text) ∨
      part.outside = [] ∧ ∃ read, part.written.toList = '\\' :: read := by
  cases part with
  | plain text => exact .inl ⟨text, rfl⟩
  | word token => exact .inr ⟨rfl, token.toList_written⟩
  | braced token name => exact .inr ⟨rfl, TextPiece.toList_written token name⟩
  | backslash => exact .inr ⟨rfl, [], rfl⟩

/-- The token of the first part is the one with which the text starts. -/
theorem Leads.tokenAt? (h : Leads rest part) :
    TextPiece.tokenAt? (part.written.toList ++ rest) = part.token? := by
  unfold TextPiece.tokenAt?
  cases h with
  | @plain text nonempty plain =>
    cases htext : text.toList with
    | nil => exact absurd (String.toList_eq_nil_iff.mp htext) nonempty
    | cons c more =>
      rw [htext] at plain
      have hc : c ≠ '\\' := fun hc => plain (hc ▸ List.mem_cons_self)
      rw [written, htext]
      exact TextPiece.tokenAt?_eq_none hc (more ++ rest)
  | @braced token name closed =>
    change (TextPiece.bracedAt? ((TextPiece.braced token name).written.toList ++ rest)).or _ = _
    rw [TextPiece.bracedAt?_written closed]
    rfl
  | @word token unbraced longest =>
    change (TextPiece.bracedAt? (token.written.toList ++ rest)).or _ = _
    rw [TextPiece.bracedAt?_eq_none_iff.mpr unbraced, Option.none_or]
    exact TextPiece.wordAt?_eq_some (List.prefix_append ..) longest
  | backslash unbraced unnamed =>
    change (TextPiece.bracedAt? ('\\' :: rest)).or _ = _
    rw [TextPiece.bracedAt?_eq_none_iff.mpr unbraced, Option.none_or]
    exact TextPiece.wordAt?_eq_none_iff.mpr unnamed

/-- What the first part has outside of tokens are all characters in front of the next backslash. -/
theorem Leads.takeWhile (h : Leads rest part) :
    (part.written.toList ++ rest).takeWhile (· != '\\') = part.outside := by
  rcases part.toList_written with ⟨text, rfl⟩ | ⟨houtside, read, hread⟩
  · cases h with
    | plain _ plain maximal =>
      have hall : ∀ c ∈ text.toList, (c != '\\') = true := fun c hc =>
        bne_iff_ne.mpr fun heq => plain (heq ▸ hc)
      have hrest : rest.takeWhile (· != '\\') = [] := by
        rcases maximal with rfl | ⟨more, rfl⟩ <;> rfl
      rw [written, List.takeWhile_append_of_pos hall, hrest, List.append_nil]
      rfl
  · rw [hread, houtside]
    rfl

/-- A text has one first part. -/
theorem Leads.unique {rest' : List Char} {other : TextPart} (h : Leads rest part)
    (h' : Leads rest' other) (heq : part.written.toList ++ rest = other.written.toList ++ rest') :
    part = other ∧ rest = rest' := by
  -- A part is known from its token and from what stands outside of tokens.
  have htoken : part.token? = other.token? := by
    rw [← h.tokenAt?, heq, h'.tokenAt?]
  have houtside : part.outside = other.outside := by
    rw [← h.takeWhile, heq, h'.takeWhile]
  have hpart : part = other := by
    cases h with
    | plain nonempty => cases h' with
      | plain => exact congrArg TextPart.plain (String.toList_inj.mp houtside)
      | backslash => exact absurd (String.toList_eq_nil_iff.mp houtside) nonempty
      | word | braced => cases htoken
    | backslash => cases h' with
      | plain nonempty => exact absurd (String.toList_eq_nil_iff.mp houtside.symm) nonempty
      | backslash => rfl
      | word | braced => cases htoken
    | word | braced =>
      cases h' <;> cases htoken
      rfl
  subst hpart
  exact ⟨rfl, List.append_cancel_left heq⟩

/-- Every text that is not empty has a first part. -/
theorem exists_leads {cs : List Char} (h : cs ≠ []) :
    ∃ part rest, cs = part.written.toList ++ rest ∧ Leads rest part := by
  obtain ⟨c, more, rfl⟩ := List.exists_cons_of_ne_nil h
  by_cases hc : c = '\\'
  · subst hc
    by_cases hbraced : StartsBraced ('\\' :: more)
    · obtain ⟨token, name, hname, rest, hrest⟩ := hbraced
      exact ⟨.braced token name, rest, hrest.symm, .braced hname⟩
    · cases hword : TextPiece.wordAt? ('\\' :: more) with
      | none =>
        exact ⟨.backslash, more, rfl, .backslash hbraced (TextPiece.wordAt?_eq_none_iff.mp hword)⟩
      | some piece =>
        obtain ⟨token, -, ⟨rest, hrest⟩, hlongest⟩ := TextPiece.longest_of_wordAt? hword
        rw [← hrest] at hbraced hlongest
        exact ⟨.word token, rest, hrest.symm, .word hbraced hlongest⟩
  · let before := (c :: more).takeWhile (· != '\\')
    let rest := (c :: more).dropWhile (· != '\\')
    have hbefore : before = c :: more.takeWhile (· != '\\') :=
      List.takeWhile_cons_of_pos (bne_iff_ne.mpr hc)
    refine ⟨.plain (String.ofList before), rest, ?_, .plain ?_ ?_ ?_⟩
    · rw [written, String.toList_ofList]
      exact List.takeWhile_append_dropWhile.symm
    · rw [Ne, ← String.toList_eq_nil_iff, String.toList_ofList, hbefore]
      exact List.cons_ne_nil _ _
    · rw [String.toList_ofList]
      intro hmem
      have hall : before.all (· != '\\') = true := List.all_takeWhile
      exact bne_iff_ne.mp (List.all_eq_true.mp hall _ hmem) rfl
    · have hhead := List.head?_dropWhile_not (· != '\\') (c :: more)
      cases hrest : rest with
      | nil => exact .inl rfl
      | cons d after =>
        rw [show (c :: more).dropWhile (· != '\\') = d :: after from hrest] at hhead
        exact .inr ⟨after, congrArg (· :: after) (by simpa using hhead)⟩

/-- No part is empty. -/
theorem Leads.written_ne_nil (h : Leads rest part) : part.written.toList ≠ [] := by
  rcases part.toList_written with ⟨text, rfl⟩ | ⟨-, read, hread⟩
  · cases h with
    | plain nonempty => exact fun hnil => nonempty (String.toList_eq_nil_iff.mp hnil)
  · rw [hread]
    exact List.cons_ne_nil _ _

/-- Every text can be read. -/
theorem exists_reads (cs : List Char) : ∃ parts, Reads cs parts := by
  by_cases h : cs = []
  · exact ⟨[], h ▸ .nil⟩
  · obtain ⟨part, rest, hcs, hleads⟩ := exists_leads h
    have hlength := List.length_pos_iff.mpr hleads.written_ne_nil
    obtain ⟨parts, hparts⟩ := exists_reads rest
    exact ⟨part :: parts, hcs ▸ .cons hleads hparts⟩
termination_by cs.length
decreasing_by
  rw [hcs, List.length_append]
  omega

/-- A text is read in one way. -/
theorem Reads.unique {cs : List Char} {parts others : List TextPart} (h : Reads cs parts)
    (h' : Reads cs others) : parts = others := by
  induction h generalizing others with
  | nil =>
    generalize hcs : ([] : List Char) = cs at h'
    cases h' with
    | nil => rfl
    | cons first => exact absurd (List.append_eq_nil_iff.mp hcs.symm).1 first.written_ne_nil
  | @cons part rest parts first later ih =>
    generalize hcs : part.written.toList ++ rest = cs at h'
    cases h' with
    | nil => exact absurd (List.append_eq_nil_iff.mp hcs).1 first.written_ne_nil
    | cons first' later' =>
      obtain ⟨rfl, rfl⟩ := first.unique first' hcs
      rw [ih later']

/-- The characters of the parts are those of the text. -/
theorem Reads.join {cs : List Char} {parts : List TextPart} (h : Reads cs parts) :
    parts.flatMap (fun part => part.written.toList) = cs := by
  induction h with
  | nil => rfl
  | cons first later ih => rw [List.flatMap_cons, ih]

/-- A text is split into the pieces of its parts. -/
theorem Reads.splitFrom {cs : List Char} {parts : List TextPart} (h : Reads cs parts) :
    TextPiece.splitFrom 0 cs = parts.flatMap pieces := by
  induction h with
  | nil => rfl
  | @cons part rest parts first later ih =>
    rw [List.flatMap_cons, ← ih]
    have htoken := first.tokenAt?
    cases first with
    | plain _ plain => exact TextPiece.splitFrom_plain plain rest
    | @braced token name closed =>
      obtain ⟨read, hread⟩ := TextPiece.toList_written token name
      exact @TextPiece.splitFrom_token (.braced token name) read rest hread htoken
    | @word token =>
      obtain ⟨read, hread⟩ := token.toList_written
      exact @TextPiece.splitFrom_token (.word token) read rest hread htoken
    | backslash =>
      have hnone : TextPiece.tokenAt? ('\\' :: rest) = none := htoken
      change TextPiece.splitFrom 0 ('\\' :: rest) = _
      rw [TextPiece.splitFrom, hnone]
      rfl

/-- A part stands for what its pieces stand for. -/
theorem flatMap_pieces (v : Perspective) (part : TextPart) :
    part.pieces.flatMap (fun piece => (piece.value v).toList) = (part.value v).toList := by
  cases part with
  | plain text => simp [pieces, TextPiece.value, value, List.flatMap_map]
  | word token => exact List.append_nil _
  | braced token name => exact List.append_nil _
  | backslash => simp [pieces, TextPiece.value, value]

/-- The parts of a text make it up. -/
theorem Reads.join_written {text : String} {parts : List TextPart}
    (h : Reads text.toList parts) : String.join (parts.map written) = text := by
  rw [← String.toList_inj, String.toList_join, List.flatMap_map]
  exact h.join

/-- A text with its tokens replaced is made up of what its parts stand for. -/
theorem Reads.expand {text : String} {parts : List TextPart} (h : Reads text.toList parts)
    (v : Perspective) : v.expand text = String.join (parts.map (value v)) := by
  have hpieces := funext (flatMap_pieces v)
  rw [← String.toList_inj, Perspective.expand, TextPiece.split, h.splitFrom, String.toList_join,
    String.toList_join, List.flatMap_map, List.flatMap_map, List.flatMap_assoc, hpieces]

end TextPart

namespace Perspective

/-- What stands in front of the first backslash of a text is kept. -/
theorem expand_plain_append (v : Perspective) {plain : String} (hplain : '\\' ∉ plain.toList)
    (text : String) : v.expand (plain ++ text) = plain ++ v.expand text := by
  have hsame : (plain.toList.map TextPiece.char).flatMap (fun piece => (piece.value v).toList) =
      plain.toList := TextPart.flatMap_pieces v (.plain plain)
  rw [← String.toList_inj, expand, TextPiece.split, String.toList_append,
    TextPiece.splitFrom_plain hplain, String.toList_join, List.flatMap_map, List.flatMap_append,
    hsame, String.toList_append, expand, TextPiece.split, String.toList_join, List.flatMap_map]

/-- A text is read in one way, and its parts make it up. Whoever sees it, its tokens replaced: it is
made up of what the same parts stand for, and what is put in front of it without a backslash is
kept in front. -/
theorem expand_as_read (text : String) :
    ∃ parts, TextPart.Reads text.toList parts ∧
      (∀ others, TextPart.Reads text.toList others → others = parts) ∧
      String.join (parts.map TextPart.written) = text ∧
      (∀ v : Perspective, v.expand text = String.join (parts.map (TextPart.value v))) ∧
      ∀ (v : Perspective) (plain : String), '\\' ∉ plain.toList →
        v.expand (plain ++ text) = plain ++ v.expand text := by
  obtain ⟨parts, hparts⟩ := TextPart.exists_reads text.toList
  refine ⟨parts, hparts, fun others hothers => hothers.unique hparts, hparts.join_written,
    hparts.expand, fun v plain hplain => ?_⟩
  exact v.expand_plain_append hplain text

/-- A variable of the player that texts refer to as gold. -/
def goldVariable : VariableDescriptor := ⟨⟨5⟩, .player, "Gold", .integer, "gold"⟩

/-- What a script sees of a player who is named like tokens and has twelve pieces of gold. -/
def masquerade : Perspective where
  world := World.start {} { DescriptorSet.empty with vars := [goldVariable] }.catalog (.start 0)
    (.seeded 0)
  player := { Player.fresh ⟨3⟩ "\\tm\\pv\x7bgold\x7d" .nil 0 0 with
    vars := Table.empty.insert goldVariable.id (.integer 12) }
  running := none

-- The name is not read again, and neither is a name in braces that stands for nothing.
example : masquerade.expand "hi \\pn: \\pv\x7bgold\x7d \\pv\x7bnone\x7d \\tmh\\x" =
    "hi \\tm\\pv\x7bgold\x7d: 12 \\pv\x7bnone\x7d 00\\x" := by
  decide

end Perspective

end EventScript
