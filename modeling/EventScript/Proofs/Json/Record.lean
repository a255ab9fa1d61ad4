import EventScript.Json.Record
import EventScript.Proofs.Json.Form

/-!
# Written records and variants

A reader of fields reads members as a value when it takes every field from them and leaves the
members alone. Readers are chains of fields, so this is shown field by field; the lemmas on records
and on the ways to write a variant then tell what is read of a whole object.
-/

namespace EventScript

/-- What is taken from members is taken from behind members of other names. -/
theorem Fields.take?_append {front back : List (String × Json)} {name : String} {o : Option Json}
    (hfront : ∀ e ∈ front, e.1 ≠ name)
    (hback : (named back).take? name = some (o, .named back)) :
    (named (front ++ back)).take? name = some (o, .named (front ++ back)) := by
  have hfilter : (front ++ back).filter (fun e => e.1 == name) =
      back.filter fun e => e.1 == name := by
    rw [List.filter_append, List.filter_eq_nil_iff.mpr, List.nil_append]
    intro e he
    simpa using hfront e he
  simp only [take?] at hback ⊢
  rw [hfilter]
  generalize back.filter (fun e => e.1 == name) = found at hback ⊢
  match found with
  | [] => simpa using hback
  | [e] => simpa using hback
  | _ :: _ :: _ => cases hback

namespace FieldReader

variable {α β : Type}

/-- Read members as a value. -/
def Reads (r : FieldReader α) (m : Manner) (members : List (String × Json)) (a : α) : Prop :=
  r m (.named members) = some (a, .named members)

variable {m : Manner} {members : List (String × Json)} {a : α} {b : β} {name : String}

/-- A value that no field is read for. -/
theorem Reads.pure : Reads (Pure.pure a) m members a := rfl

/-- One reader after another. -/
theorem Reads.bind {x : FieldReader α} {f : α → FieldReader β} (hx : x.Reads m members a)
    (hf : (f a).Reads m members b) : Reads (x >>= f) m members b := by
  change ((x m (.named members)).bind fun r => f r.1 m r.2) = some (b, .named members)
  rw [hx]
  exact hf

/-- Nothing is left of the members that would have to be read. -/
theorem Reads.run {r : FieldReader α} (h : r.Reads m members a) :
    r.run m (.named members) = some a := by
  unfold FieldReader.run
  rw [h]
  rfl

/-- Everything that is read has a property. -/
def Yields (r : FieldReader α) (P : α → Prop) : Prop :=
  ∀ m fields a rest, r m fields = some (a, rest) → P a

theorem Yields.pure {P : α → Prop} (h : P a) : Yields (Pure.pure a) P := by
  rintro m fields b rest ⟨⟩
  exact h

theorem Yields.bind {P : β → Prop} {x : FieldReader α} {f : α → FieldReader β}
    (h : ∀ a, (f a).Yields P) : Yields (x >>= f) P := by
  intro m fields b rest hread
  obtain ⟨⟨a, left⟩, _, hf⟩ := Option.bind_eq_some_iff.mp hread
  exact h a m left b rest hf

variable [JsonForm α]

/-- A field that is there and must be. -/
theorem Reads.required [LawfulForm α]
    (h : (Fields.named members).take? name = some (some (toJson a), .named members)) :
    Reads (FieldReader.required name) m members a := by
  unfold Reads FieldReader.required
  rw [h]
  simp [LawfulForm.read?_toJson]

/-- A field that is there, although it has a value of its own when it is not. -/
theorem Reads.defaulted [LawfulForm α] {d : α}
    (h : (Fields.named members).take? name = some (some (toJson a), .named members)) :
    Reads (FieldReader.defaulted name d) m members a := by
  unfold Reads FieldReader.defaulted
  rw [h]
  simp [LawfulForm.read?_toJson]

/-- A field that is there, although it may be missing. -/
theorem Reads.optional [LawfulForm (Option α)] {o : Option α}
    (h : (Fields.named members).take? name = some (some (toJson o), .named members)) :
    Reads (FieldReader.optional name) m members o := by
  unfold Reads FieldReader.optional
  rw [h]
  simp [LawfulForm.read?_toJson]

end FieldReader

namespace Json

open FieldReader (Reads)

variable {α β : Type} {m : Manner} {members : List (String × Json)} {r : FieldReader α} {a : α}
  {name tag content : String} {n : Nat} {j : Json}

/-! ## What fits -/

/-- A text fits into any number of levels. -/
@[simp] theorem fits_str (n : Nat) (s : String) : (str s).fits n = true := by
  rw [fits]

/-- An object fits when its members fit into one level less. -/
theorem fits_obj (h : membersFit n members = true) : (obj members).fits (n + 1) = true := h

/-- A variant with one member fits when its content fits into one level less. -/
theorem fits_single (h : j.fits n = true) : (single name j).fits (n + 1) = true := by
  refine fits_obj ?_
  simp only [membersFit, h, Bool.and_self]

/-! ## Records -/

/-- A record is read from the members it is written with. -/
theorem record?_obj (h : r.Reads m members a) : record? r m (.obj members) = some a := h.run

/-- A record that is read has what its reader sees to. -/
theorem of_record? {P : α → Prop} (hr : r.Yields P) (h : record? r m j = some a) : P a := by
  have hrun {fields : Fields} (h : r.run m fields = some a) : P a := by
    unfold FieldReader.run at h
    split at h
    · next b rest hread =>
      split at h
      · obtain rfl := Option.some.inj h
        exact hr m fields b rest hread
      · cases h
    · cases h
  unfold record? at h
  split at h
  · exact hrun h
  · exact hrun h
  · cases h

/-- A variant that is named next to its fields is read from the members it is written with. -/
theorem tagged?_obj {r : String → FieldReader α}
    (hfit : (obj ((tag, .str name) :: members)).fits n = true)
    (htag : ∀ e ∈ members, e.1 ≠ tag) (h : (r name).Reads .setAside members a) :
    tagged? tag r (.obj ((tag, .str name) :: members)) = some a := by
  have hnamed : ((tag, Json.str name) :: members).filter (fun e => e.1 == tag) =
      [(tag, .str name)] := by
    rw [List.filter_cons_of_pos (by simp), List.filter_eq_nil_iff.mpr]
    intro e he
    simpa using htag e he
  have hrest : ((tag, Json.str name) :: members).filter (fun e => e.1 != tag) = members := by
    rw [List.filter_cons_of_neg (by simp), List.filter_eq_self]
    intro e he
    simpa using htag e he
  unfold tagged?
  rw [if_pos (isReadable_of_fits _ hfit)]
  dsimp only
  rw [hnamed, hrest]
  exact h.run

/-! ## Variants

What a reader does is told for any content, so that telling it does not unfold a written one. -/

section Contents

variable [JsonForm α] [LawfulForm α] [JsonForm β]

/-- A constructor is read from its only member when what it holds is read from the content. -/
theorem read?_single {construct : α → β} (a : α)
    (h : ∀ j, read? m (single name j) = (read? m j).bind fun a => some (construct a)) :
    read? m (single name (toJson a)) = some (construct a) := by
  rw [h, LawfulForm.read?_toJson, Option.bind_some]

/-- A constructor is read from the members for its name and its content when what it holds is read
from the content. -/
theorem read?_adjacent {construct : α → β} (a : α)
    (h : ∀ j, read? m (.obj [(tag, .str name), (content, j)]) =
      (read? m j).bind fun a => some (construct a)) :
    read? m (.obj [(tag, .str name), (content, toJson a)]) = some (construct a) := by
  rw [h, LawfulForm.read?_toJson, Option.bind_some]

/-- A constructor is read from the members for its name and its content when its fields are read
from the members of the content. -/
theorem read?_adjacentFields {r : FieldReader β} {b : β}
    (h : ∀ j, read? m (.obj [(tag, .str name), (content, j)]) = Content.object? r ⟨m, some j⟩)
    (hr : r.Reads m members b) :
    read? m (.obj [(tag, .str name), (content, .obj members)]) = some b := by
  rw [h]
  exact hr.run

end Contents

namespace Content

/-- A content of fields is read from the members it is written with. -/
theorem fields?_obj (h : r.Reads m members a) :
    Content.fields? r ⟨m, some (.obj members)⟩ = some a := by
  cases m with
  | direct => exact h.run
  | setAside => exact h.run

end Content

end Json

end EventScript
