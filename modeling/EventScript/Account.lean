import EventScript.Condition.Basic

/-!
# Accounts and guilds

The two owners of variables that several players share.
-/

namespace EventScript

open FieldReader

/-- An account that owns players. -/
structure UserAccount where
  /-- The identifier. -/
  id : UserId
  /-- The name. -/
  name : String
  /-- The access rights of its players. -/
  access : Access
  /-- The players that belong to it. -/
  players : List PlayerId
  /-- The variables its players share. -/
  vars : VariableStore
  deriving DecidableEq

/-- An account without players. -/
def UserAccount.fresh (id : UserId) (name : String) : UserAccount := ⟨id, name, .none, [], .empty⟩

instance : JsonForm UserAccount where
  toJson u := .obj [("id", toJson u.id), ("name", toJson u.name), ("access", toJson u.access),
    ("players", toJson u.players), ("variables", toJson u.vars)]
  read? := Json.record? do
    return ⟨← required "id", ← required "name", ← defaulted "access" .none,
      ← defaulted "players" [], ← defaulted "variables" .empty⟩

/-- A guild. -/
structure Guild where
  /-- The identifier. -/
  id : GuildId
  /-- The name. -/
  name : String
  /-- The player who founded it. -/
  leader : PlayerId
  /-- The players in it. -/
  members : List PlayerId
  /-- The size of its bank. -/
  bankSlots : UInt64
  /-- The variables its members share. -/
  vars : VariableStore
  deriving DecidableEq

/-- A guild whose only member is its leader. -/
def Guild.fresh (id : GuildId) (name : String) (leader : PlayerId) : Guild :=
  ⟨id, name, leader, [leader], 0, .empty⟩

instance : JsonForm Guild where
  toJson g := .obj [("id", toJson g.id), ("name", toJson g.name), ("leader", toJson g.leader),
    ("members", toJson g.members), ("bank_slots", toJson g.bankSlots),
    ("variables", toJson g.vars)]
  read? := Json.record? do
    return ⟨← required "id", ← required "name", ← required "leader", ← defaulted "members" [],
      ← defaulted "bank_slots" 0, ← defaulted "variables" .empty⟩

end EventScript
