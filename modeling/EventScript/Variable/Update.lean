import EventScript.Template
import EventScript.Variable.Reading

/-!
# Changing variables

A change of a variable computes the new value, keeps it with the owner of the scope and, if it
differs from the current one, tells the scripts that listen for the change and queues the value of a
shared variable to be stored. Anything that stands in the way leaves all as it was: no description,
a value of another type, an owner that does not exist, an operation without result.
-/

namespace EventScript

/-- Where a change of variables takes place: the world and the player that the script runs for,
whose record in the world may be older. -/
structure Setting where
  /-- The world. -/
  world : World
  /-- The player. -/
  player : Player

namespace Setting

/-- Keep a value with the owner of the scope, if that exists. -/
def store? (s : Setting) (v : VariableRef) (value : Value) : Option Setting :=
  match v.scope with
  | .player =>
    some { s with player.vars := s.player.vars.insert v.id value }
  | .server =>
    some { s with world.serverVariables := s.world.serverVariables.insert v.id value }
  | .guild => do
    let id ← s.player.guild
    let g ← s.world.guild? id
    return { s with
      world.guilds := s.world.guilds.insert id { g with vars := g.vars.insert v.id value } }
  | .user => do
    let u ← s.world.user? s.player.user
    return { s with
      world.users := s.world.users.insert s.player.user
        { u with vars := u.vars.insert v.id value } }

/-- Give a member of the party the value of a player variable, if it differs. -/
def syncMember (v : VariableId) (value : Value) (t : Trigger) (w : World) (member : PlayerId) :
    World :=
  match w.player? member with
  | some other =>
    if other.vars.get? v = some value then w
    else (w.putPlayer member { other with vars := other.vars.insert v value }).request
      (.trigger member t)
  | none => w

/-- Give the other members of the party the value of a player variable. -/
def syncParty (s : Setting) (v : VariableId) (value : Value) (t : Trigger) : World :=
  (s.player.party.filter fun member => member != s.player.id).foldl (syncMember v value t) s.world

/-- Tell those who listen for changes of a variable, and queue a shared value to be stored. -/
def propagate (s : Setting) (v : VariableRef) (value : Value) (syncsParty : Bool) : World :=
  let t := Trigger.variableChange v
  match v.scope with
  | .player =>
    let s := { s with world := s.world.request (.trigger s.player.id t) }
    if syncsParty then s.syncParty v.id value t else s.world
  | .server =>
    (s.world.requestAll s.world.onlinePlayers t).persist (.serverVariable v.id value)
  | .guild =>
    match s.world.guildOf? s.player with
    | some g =>
      (s.world.requestAll (g.members.filter s.world.isOnline) t).persist
        (.guildVariable g.id v.id value)
    | none => s.world
  | .user =>
    let owned := ((s.world.user? s.player.user).map UserAccount.players).getD []
    (s.world.requestAll (owned.filter s.world.isOnline) t).persist
      (.userVariable s.player.user v.id value)

/-- Put a value in place of the current one. Says whether it was changed. -/
def commit (s : Setting) (v : VariableRef) (old new : Value) (syncsParty : Bool) : Bool × Setting :=
  if old = new then (false, s)
  else match s.store? v new with
    | some stored => (true, { stored with world := stored.propagate v new syncsParty })
    | none => (false, s)

/-- Set a described variable to a value of its type. Says whether it was changed. -/
def setValue (s : Setting) (v : VariableRef) (value : Value) : Bool × Setting :=
  match s.world.current? s.player v with
  | some current =>
    if current.dataType = value.dataType then s.commit v current value false else (false, s)
  | none => (false, s)

/-- The result of an operation on a boolean. -/
def nextBoolean? (s : Setting) : BooleanMod → Option Bool
  | .set b => some b
  | .duplicate source =>
    if s.world.catalog.vars.contains source then some (s.world.boolean s.player source)
    else none

/-- The result of an operation on an integer that is not random. -/
def nextInteger? (s : Setting) (current : Int64) : IntegerMod → Option Int64
  | .set n => CombineOp.set.combine? current n
  | .add n => CombineOp.add.combine? current n
  | .subtract n => CombineOp.subtract.combine? current n
  | .multiply n => CombineOp.multiply.combine? current n
  | .divide n => CombineOp.divide.combine? current n
  | .leftShift n => CombineOp.leftShift.combine? current n
  | .rightShift n => CombineOp.rightShift.combine? current n
  | .random low high => some (s.world.supply.draw (min low high) (max low high)).1
  | .systemTime => some s.world.clock.localMillis
  | .combine op source =>
    if s.world.catalog.vars.contains source then
      op.combine? current (s.world.integer s.player source)
    else none

/-- The result of an operation on a string. Nothing is replaced for an empty text. -/
def nextString? (s : Setting) (running : Option Instance) (current : String) :
    StringMod → Option String
  | .set text => some ((Perspective.mk s.world s.player running).expand text)
  | .replace find replace =>
    let v := Perspective.mk s.world s.player running
    let find := v.expand find
    if find.isEmpty then none else some (Text.replaceAll current find (v.expand replace))

/-- The result of a modification of a value of its type. -/
def next? (s : Setting) (running : Option Instance) : VariableMod → Value → Option Value
  | .boolean op, .boolean _ => (s.nextBoolean? op).map .boolean
  | .integer op, .integer n => (s.nextInteger? n op).map .integer
  | .string op, .string text => (s.nextString? running text op).map .string
  | _, _ => none

/-- The setting after the random numbers of a modification were drawn. -/
def drawn (s : Setting) : VariableMod → Setting
  | .integer (.random low high) =>
    { s with world.supply := (s.world.supply.draw (min low high) (max low high)).2 }
  | _ => s

/-- Modify a variable. Says whether its value was changed. -/
def modify (s : Setting) (running : Option Instance) (v : VariableRef) (m : VariableMod)
    (syncsParty : Bool) : Bool × Setting :=
  match s.world.current? s.player v with
  | some current =>
    if current.dataType = m.dataType then
      match s.next? running m current with
      | some new => (s.drawn m).commit v current new syncsParty
      | none => (false, s)
    else (false, s)
  | none => (false, s)

end Setting

end EventScript
