import EventScript.Player.Basic

/-!
# Persisted records

The state that outlives a run: server, guild and account variables and the quest progress of
players. A record carries one value, and its key says which.
-/

namespace EventScript

open FieldReader

/-- What a record holds the value of. Keys are ordered by kind, then by owner, then by what is
owned. -/
inductive PersistenceKey where
  | serverVariable (id : VariableId)
  | guildVariable (guild : GuildId) (id : VariableId)
  | userVariable (user : UserId) (id : VariableId)
  | quest (player : PlayerId) (quest : QuestId)
  deriving DecidableEq

instance : Keyed PersistenceKey where
  rank
    | .serverVariable i => [0, i.value.toNat]
    | .guildVariable g i => [1, g.value.toNat, i.value.toNat]
    | .userVariable u i => [2, u.value.toNat, i.value.toNat]
    | .quest p q => [3, p.value.toNat, q.value.toNat]
  rank_injective a b h := by
    cases a <;> cases b <;> simp at h
    · rw [Id.eq_of_toNat_eq h]
    · rw [Id.eq_of_toNat_eq h.1, Id.eq_of_toNat_eq h.2]
    · rw [Id.eq_of_toNat_eq h.1, Id.eq_of_toNat_eq h.2]
    · rw [Id.eq_of_toNat_eq h.1, Id.eq_of_toNat_eq h.2]

instance : JsonForm PersistenceKey where
  toJson
    | .serverVariable i => .single "ServerVariable" (toJson i)
    | .guildVariable g i => .single "GuildVariable" (toJson (g, i))
    | .userVariable u i => .single "UserVariable" (toJson (u, i))
    | .quest p q => .single "Quest" (toJson (p, q))
  read? m j := do
    match ← j.variant? m with
    | ("ServerVariable", c) => return .serverVariable (← c.read?)
    | ("GuildVariable", c) =>
      let (g, i) ← c.read?
      return .guildVariable g i
    | ("UserVariable", c) =>
      let (u, i) ← c.read?
      return .userVariable u i
    | ("Quest", c) =>
      let (p, q) ← c.read?
      return .quest p q
    | _ => none

/-- A value that outlives a run. -/
inductive PersistedRecord where
  | serverVariable (id : VariableId) (value : Value)
  | guildVariable (guild : GuildId) (id : VariableId) (value : Value)
  | userVariable (user : UserId) (id : VariableId) (value : Value)
  | quest (player : PlayerId) (quest : QuestId) (progress : QuestProgress)
  deriving DecidableEq

namespace PersistedRecord

/-- What a record holds the value of. -/
def key : PersistedRecord → PersistenceKey
  | serverVariable i _ => .serverVariable i
  | guildVariable g i _ => .guildVariable g i
  | userVariable u i _ => .userVariable u i
  | quest p q _ => .quest p q

/-- Read the fields of a kind of record. -/
def reader : String → FieldReader PersistedRecord
  | "ServerVariable" => return serverVariable (← required "id") (← required "value")
  | "GuildVariable" =>
    return guildVariable (← required "guild") (← required "id") (← required "value")
  | "UserVariable" => return userVariable (← required "user") (← required "id") (← required "value")
  | "Quest" => return quest (← required "player") (← required "quest") (← required "progress")
  | _ => refuse

end PersistedRecord

instance : JsonForm PersistedRecord where
  toJson
    | .serverVariable i v =>
      .obj [("kind", .str "ServerVariable"), ("id", toJson i), ("value", toJson v)]
    | .guildVariable g i v => .obj [("kind", .str "GuildVariable"), ("guild", toJson g),
        ("id", toJson i), ("value", toJson v)]
    | .userVariable u i v => .obj [("kind", .str "UserVariable"), ("user", toJson u),
        ("id", toJson i), ("value", toJson v)]
    | .quest p q r => .obj [("kind", .str "Quest"), ("player", toJson p), ("quest", toJson q),
        ("progress", toJson r)]
  read? _ := Json.tagged? "kind" PersistedRecord.reader

/-- The latest record of every key. -/
abbrev RecordTable := Table PersistenceKey PersistedRecord

namespace RecordTable

/-- Put a record in place of the one of its key. -/
def put (t : RecordTable) (r : PersistedRecord) : RecordTable := t.insert r.key r

/-- Put records one after the other. -/
def putAll (t : RecordTable) (records : List PersistedRecord) : RecordTable := records.foldl put t

/-- Put a record unless there is one of its key. -/
def putMissing (t : RecordTable) (r : PersistedRecord) : RecordTable :=
  if t.contains r.key then t else put t r

/-- The latest record of every key among records in the order they were made. -/
def ofRecords (records : List PersistedRecord) : RecordTable := putAll .empty records

end RecordTable

end EventScript
