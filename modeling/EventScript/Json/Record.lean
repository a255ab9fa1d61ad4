import EventScript.Json.Form

/-!
# Reading records and variants

A record is written as an object with a member for every field. It is read from such an object, in
which other members are ignored and a field must not occur twice, or from an array of the fields in
order. A variant names its constructor in one of three ways: in a member next to its fields, in a
member next to its content, or as the only member of an object. Where a member tells what the other
ones are, those before it are set aside until it is known; what is set aside has to be readable.
-/

namespace EventScript

/-- What is left of a record while its fields are read in order. -/
inductive Fields where
  /-- The members of an object. -/
  | named (members : List (String × Json))
  /-- The items of an array that no field has taken. -/
  | listed (items : List Json)

namespace Fields

/-- Take the value that stands for a field, if there is one; a field given twice is refused. -/
def take? (name : String) : Fields → Option (Option Json × Fields)
  | .named members =>
    match members.filter fun m => m.1 == name with
    | [] => some (none, .named members)
    | [m] => some (some m.2, .named members)
    | _ => none
  | .listed [] => some (none, .listed [])
  | .listed (j :: rest) => some (some j, .listed rest)

/-- Whether nothing is left that would have to be taken. -/
def isDone : Fields → Bool
  | .named _ => true
  | .listed items => items.isEmpty

end Fields

/-- A reader of the fields of a record, in order and in a manner. -/
abbrev FieldReader := ReaderT Manner (StateT Fields Option)

namespace FieldReader

variable {α : Type}

/-- Refuse the record. -/
def refuse : FieldReader α := fun _ _ => none

/-- A field that must be there. -/
def required [JsonForm α] (name : String) : FieldReader α := fun m fields =>
  match fields.take? name with
  | some (some j, rest) => (read? m j).map fun a => (a, rest)
  | _ => none

/-- A field that has a value of its own when it is not there. -/
def defaulted [JsonForm α] (name : String) (default : α) : FieldReader α := fun m fields =>
  match fields.take? name with
  | some (some j, rest) => (read? m j).map fun a => (a, rest)
  | some (none, rest) => some (default, rest)
  | none => none

/-- A field that may be missing from an object, but not from an array. -/
def optional [JsonForm α] (name : String) : FieldReader (Option α) := fun m fields =>
  match fields.take? name with
  | some (some j, rest) => (read? m j).map fun a => (a, rest)
  | some (none, .named members) => some (none, .named members)
  | _ => none

/-- Read fields and nothing else. -/
def run (r : FieldReader α) (m : Manner) (fields : Fields) : Option α :=
  match r m fields with
  | some (a, rest) => if rest.isDone then some a else none
  | none => none

end FieldReader

namespace Json

variable {α : Type}

/-- Read a record. -/
def record? (r : FieldReader α) (m : Manner) : Json → Option α
  | .obj members => r.run m (.named members)
  | .arr items => r.run m (.listed items)
  | _ => none

/-- Read a record that is not written as an array. -/
def object? (r : FieldReader α) (m : Manner) : Json → Option α
  | .obj members => r.run m (.named members)
  | _ => none

/-- Read a variant whose constructor is named by the member `tag` next to its fields. Everything in
it is set aside until the name is known. -/
def tagged? (tag : String) (r : String → FieldReader α) (j : Json) : Option α :=
  if j.isReadable then
    match j with
    | .obj members =>
      match members.filter fun m => m.1 == tag with
      | [(_, .str s)] => (r s).run .setAside (.named (members.filter fun m => m.1 != tag))
      | _ => none
    | .arr (.str s :: items) => (r s).run .setAside (.listed items)
    | _ => none
  else none

/-- The content of a variant. -/
structure Content where
  /-- The manner in which it is read. -/
  manner : Manner
  /-- What stands there, if anything does. -/
  value? : Option Json

namespace Content

/-- Read the content as one value. -/
def read? [JsonForm α] (c : Content) : Option α := c.value?.bind (JsonForm.read? c.manner)

/-- Read the content as fields. They stand in an object; in an array only if it was set aside. -/
def fields? (r : FieldReader α) (c : Content) : Option α :=
  match c.manner with
  | .direct => c.value?.bind (Json.object? r .direct)
  | .setAside => c.value?.bind (Json.record? r .setAside)

/-- Read the content as fields that stand in an object in either manner. -/
def object? (r : FieldReader α) (c : Content) : Option α := c.value?.bind (Json.object? r c.manner)

/-- Whether a constructor without fields may stand with the content. -/
def isEmpty (c : Content) : Bool := noContent c.manner c.value?

/-- Whether there is nothing or null in either manner. -/
def isNull (c : Content) : Bool := noContent .direct c.value?

end Content

/-- The constructor and the content of a variant that is a name or an object with one member. -/
def variant? (m : Manner) : Json → Option (String × Content)
  | .str s => some (s, ⟨m, none⟩)
  | .obj [(s, j)] => some (s, ⟨m, some j⟩)
  | _ => none

/-- The constructor that a member names: its name, or an object with the name and no content. -/
def tag? (m : Manner) (j : Json) : Option String :=
  match j.variant? m with
  | some (s, c) => if c.isEmpty then some s else none
  | none => none

/-- The constructor and the content of a variant that has a member for each. Content in front of the
constructor is set aside. -/
def adjacent? (tag content : String) (m : Manner) : Json → Option (String × Content)
  | .obj members =>
    match members.filter fun e => e.1 == tag || e.1 == content with
    | [(k, t)] => if k = tag then (t.tag? m).map fun s => (s, ⟨m, none⟩) else none
    | [(k, j), (l, i)] =>
      if k = tag ∧ l = content then (j.tag? m).map fun s => (s, ⟨m, some i⟩)
      else if k = content ∧ l = tag ∧ j.isReadable then
        (i.tag? m).map fun s => (s, ⟨.setAside, some j⟩)
      else none
    | _ => none
  | .arr [t, j] => (t.tag? m).map fun s => (s, ⟨m, some j⟩)
  | _ => none

/-- A variant with one member, which holds its content. -/
def single (name : String) (j : Json) : Json := .obj [(name, j)]

end Json

end EventScript
