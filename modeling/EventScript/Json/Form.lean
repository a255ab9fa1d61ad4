import EventScript.Bounded
import EventScript.Id
import EventScript.Json.Basic
import EventScript.Text.Decimal

/-!
# JSON forms

How a type is written as JSON and read back. Reading is strict: a value of another shape, a number
out of range or an unknown name is refused. There are two manners of reading, which differ only in
what else the content of a named constructor may look like.
-/

namespace EventScript

open EventScript.Text

/-- How a value is read. -/
inductive Manner where
  /-- Where it stands. -/
  | direct
  /-- After it was set aside until its type was known, which another member told. The content of a
  constructor is then read more freely: nothing may be written as an empty object, and fields as an
  array of them. -/
  | setAside
  deriving DecidableEq

/-- A type with a JSON form. -/
class JsonForm (α : Type) where
  /-- Write a value. -/
  toJson : α → Json
  /-- Read a value in a manner, if there is one of this type. -/
  read? : Manner → Json → Option α

export JsonForm (toJson read?)

/-- Read a value where it stands, if there is one of this type. -/
def ofJson? {α : Type} [JsonForm α] (j : Json) : Option α := read? .direct j

/-- Whether a constructor without fields may stand with a content: with none or null, and when it
was set aside also with an empty object. -/
def Json.noContent : Manner → Option Json → Bool
  | _, none => true
  | _, some .null => true
  | .setAside, some (.obj []) => true
  | _, some _ => false

/-- A type whose values stand as names of members. -/
class TextKey (κ : Type) where
  /-- The name of a key. -/
  keyText : κ → String
  /-- The key of a name. -/
  ofKeyText? : String → Option κ

/-- A type with finitely many values, each with a name of its own. -/
class Enumerated (α : Type) where
  /-- All values. -/
  all : List α
  /-- The name of a value. -/
  name : α → String

namespace Enumerated

/-- The value with a name. -/
def ofName? {α : Type} [Enumerated α] (s : String) : Option α :=
  (all : List α).find? fun a => name a == s

end Enumerated

/-- A named value is written as its name; an object with the name and no content is read as well. -/
instance {α : Type} [Enumerated α] : JsonForm α where
  toJson a := .str (Enumerated.name a)
  read? m
    | .str s => Enumerated.ofName? s
    | .obj [(s, j)] => if Json.noContent m (some j) then Enumerated.ofName? s else none
    | _ => none

instance : JsonForm Bool where
  toJson := .bool
  read? _
    | .bool b => some b
    | _ => none

instance : JsonForm String where
  toJson := .str
  read? _
    | .str s => some s
    | _ => none

instance : JsonForm Int64 where
  toJson n := .num n.toInt
  read? _
    | .num n => int64? n
    | _ => none

instance : JsonForm Int32 where
  toJson n := .num n.toInt
  read? _
    | .num n => int32? n
    | _ => none

instance : JsonForm UInt64 where
  toJson n := .num n.toNat
  read? _
    | .num n => uint64? n
    | _ => none

instance : JsonForm UInt32 where
  toJson n := .num n.toNat
  read? _
    | .num n => uint32? n
    | _ => none

instance : JsonForm UInt8 where
  toJson n := .num n.toNat
  read? _
    | .num n => uint8? n
    | _ => none

instance {κ : IdKind} : JsonForm (Id κ) where
  toJson i := .str i.text
  read? _
    | .str s => Id.ofText? s
    | _ => none

instance {α : Type} [JsonForm α] : JsonForm (List α) where
  toJson as := .arr (as.map toJson)
  read? m
    | .arr items => items.mapM (read? m)
    | _ => none

instance {α : Type} [JsonForm α] : JsonForm (Option α) where
  toJson
    | some a => toJson a
    | none => .null
  read? m
    | .null => some none
    | j => (read? m j).map some

instance {κ : IdKind} : TextKey (Id κ) where
  keyText := Id.text
  ofKeyText? := Id.ofText?

instance : TextKey String where
  keyText := id
  ofKeyText? := some

/-- A number stands as its decimal numeral, without sign and leading zeros. -/
instance : TextKey UInt64 where
  keyText n := Decimal.render n.toNat
  ofKeyText? s := do
    let n ← Decimal.natural? s.toList
    let i ← uint64? n
    if Decimal.render n = s then some i else none

/-- A table is an object with a member for every key. -/
instance {κ α : Type} [Keyed κ] [TextKey κ] [JsonForm α] : JsonForm (Table κ α) where
  toJson t := .obj (t.entries.map fun e => (TextKey.keyText e.1, toJson e.2))
  read? m
    | .obj members => do
      let entries ← members.mapM fun (k, j) => do
        return ((← TextKey.ofKeyText? k), (← read? m j))
      return Table.ofList entries
    | _ => none

/-- A pair is an array of its two parts. -/
instance {α β : Type} [JsonForm α] [JsonForm β] : JsonForm (α × β) where
  toJson p := .arr [toJson p.1, toJson p.2]
  read? m
    | .arr [a, b] => do return ((← read? m a), (← read? m b))
    | _ => none

end EventScript
