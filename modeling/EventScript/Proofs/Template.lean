import EventScript.Template

/-!
# Tokens in texts

A token with a name in braces is read as such wherever a text starts with it, whatever follows it:
what the token stands for takes its place, and the rest of the text is read on its own.
-/

namespace EventScript

open Text

/-- The first character that passes a test parts what stands before it from what follows it. -/
theorem Text.splitAt?_append {p : Char → Bool} {before : List Char} {c : Char}
    (hbefore : ∀ x ∈ before, p x = false) (hc : p c = true) (rest : List Char) :
    splitAt? p (before ++ c :: rest) = some (before, rest) := by
  induction before with
  | nil => simp [splitAt?, hc]
  | cons x before ih =>
    have hx : p x = false := hbefore x List.mem_cons_self
    have htail := ih fun y hy => hbefore y (List.mem_cons_of_mem _ hy)
    simp [splitAt?, hx, htail]

/-- What starts with a text that departs from another does not start with that. -/
theorem Text.dropLead?_append_eq_none {lead cs : List Char} (hlead : ¬ lead <+: cs)
    (hcs : ¬ cs <+: lead) (rest : List Char) : dropLead? lead (cs ++ rest) = none := by
  rw [Option.eq_none_iff_forall_ne_some]
  intro left hleft
  have hboth : lead <+: cs ++ rest := ⟨left, (dropLead?_eq_some_iff.mp hleft).symm⟩
  rcases List.prefix_or_prefix_of_prefix hboth (List.prefix_append cs rest) with h | h
  · exact hlead h
  · exact hcs h

namespace BracedToken

/-- No token starts another. -/
theorem not_isPrefix {token other : BracedToken} (h : other ≠ token) :
    ¬ other.written.toList <+: token.written.toList := by
  rcases token with ⟨_ | _ | _ | _⟩ | _ <;> rcases other with ⟨_ | _ | _ | _⟩ | _ <;>
    first | exact absurd rfl h | simp [written]

theorem mem_all (token : BracedToken) : token ∈ all := by
  rcases token with ⟨_ | _ | _ | _⟩ | _ <;> decide

end BracedToken

namespace TextPiece

/-- The characters of a token that was read are left out. -/
theorem splitFrom_append (read rest : List Char) :
    splitFrom read.length (read ++ rest) = splitFrom 0 rest := by
  induction read with
  | nil => rfl
  | cons c read ih => exact ih

/-- A token is one part, and the text behind it is read on its own. -/
theorem splitFrom_token {piece : TextPiece} {read rest : List Char}
    (hwritten : piece.written.toList = '\\' :: read)
    (htoken : tokenAt? (piece.written.toList ++ rest) = some piece) :
    splitFrom 0 (piece.written.toList ++ rest) = piece :: splitFrom 0 rest := by
  have hlength : piece.written.length - 1 = read.length := by
    rw [← String.length_toList, hwritten]
    rfl
  rw [hwritten] at htoken ⊢
  rw [List.cons_append] at htoken ⊢
  rw [splitFrom, htoken]
  dsimp only
  rw [hlength, splitFrom_append]

variable {token : BracedToken} {name : String}

/-- A token starts with a backslash. -/
theorem toList_written (token : BracedToken) (name : String) :
    ∃ read, (written (braced token name)).toList = '\\' :: read := by
  rcases token with ⟨_ | _ | _ | _⟩ | _ <;> simp [written, BracedToken.written]

/-- No two tokens start alike, so a token with its name in braces is read as what it is. -/
theorem bracedAt?_written (hname : '\x7d' ∉ name.toList) (rest : List Char) :
    bracedAt? ((written (braced token name)).toList ++ rest) = some (braced token name) := by
  have hsplit : splitAt? (· == '\x7d') (name.toList ++ '\x7d' :: rest) =
      some (name.toList, rest) := by
    apply splitAt?_append _ rfl
    intro x hx
    rw [beq_eq_false_iff_ne]
    rintro rfl
    exact hname hx
  have hwritten : (written (braced token name)).toList ++ rest =
      token.written.toList ++ (name.toList ++ '\x7d' :: rest) := by
    simp [written]
  obtain ⟨before, after, hall, hfirst⟩ := List.eq_append_cons_of_mem token.mem_all
  have hbefore : ∀ other ∈ before,
      dropLead? other.written.toList ((written (braced token name)).toList ++ rest) = none := by
    intro other hother
    have hne : other ≠ token := fun h => hfirst (h ▸ hother)
    rw [hwritten]
    exact dropLead?_append_eq_none (BracedToken.not_isPrefix hne)
      (BracedToken.not_isPrefix hne.symm) _
  have htoken : dropLead? token.written.toList ((written (braced token name)).toList ++ rest) =
      some (name.toList ++ '\x7d' :: rest) := dropLead?_eq_some_iff.mpr hwritten
  unfold bracedAt?
  rw [List.findSome?_eq_some_iff]
  refine ⟨before, token, after, hall, ?_, ?_⟩
  · rw [htoken]
    simp [hsplit]
  · intro other hother
    rw [hbefore other hother]
    rfl

/-- A text that starts with a token is split into the token and the parts of what follows. -/
theorem split_written_append (hname : '\x7d' ∉ name.toList) (rest : String) :
    split (written (braced token name) ++ rest) = braced token name :: split rest := by
  obtain ⟨read, hread⟩ := toList_written token name
  have htoken : tokenAt? ((written (braced token name)).toList ++ rest.toList) =
      some (braced token name) := by
    rw [tokenAt?, bracedAt?_written hname, Option.some_or]
  rw [split, String.toList_append, splitFrom_token hread htoken, split]

end TextPiece

/-- What a token stands for takes its place in front of the text that follows. -/
theorem Perspective.expand_written_append (v : Perspective) {token : BracedToken} {name : String}
    (hname : '\x7d' ∉ name.toList) (rest : String) :
    v.expand ((TextPiece.braced token name).written ++ rest) =
      (TextPiece.braced token name).value v ++ v.expand rest := by
  unfold expand
  rw [TextPiece.split_written_append hname, List.map_cons, String.join_cons]

end EventScript
