import EventScript.Proofs.Persistence.Records
import EventScript.Variable.Update

/-!
# Ledgers

A ledger is the part of a world that outlives a run: the values that records are made of, the
changes of them that wait to be stored, and the identifiers that founded guilds are given. Whatever
a script does to it is one of five moves.
-/

namespace EventScript

/-- What of a world outlives a run. -/
structure Ledger where
  /-- The variables that everyone shares. -/
  server : VariableStore
  /-- The guilds, each with the identifier that it carries and its variables. -/
  guilds : GuildId → Option (GuildId × VariableStore)
  /-- The variables of the accounts. -/
  users : UserId → Option VariableStore
  /-- The loaded players, each with the identifier that it carries and its progress with quests. -/
  players : PlayerId → Option (PlayerId × Table QuestId QuestProgress)
  /-- The changes to be stored. -/
  queue : PersistenceQueue
  /-- The identifiers, in the order they are given out. -/
  ids : Nat → BitVec 128
  /-- How many identifiers were given out. -/
  idsUsed : Nat

/-- The ledger of a world. -/
def World.ledger (w : World) : Ledger where
  server := w.serverVariables
  guilds id := (w.guild? id).map fun g => (g.id, g.vars)
  users id := (w.user? id).map UserAccount.vars
  players id := (w.player? id).map fun p => (p.id, p.quests)
  queue := w.persistence
  ids := w.supply.ids
  idsUsed := w.supply.idsUsed

/-- The ledger that a setting leads to when its player is kept under an identifier. -/
def Setting.ledger (s : Setting) (runner : PlayerId) : Ledger :=
  { s.world.ledger with
    players := fun id =>
      if id = runner then some (s.player.id, s.player.quests) else s.world.ledger.players id }

/-- The ledger of a setting sees of the world its ledger. -/
theorem Setting.ledger_withWorld (s : Setting) (runner : PlayerId) {w : World}
    (h : w.ledger = s.world.ledger) : (Setting.mk w s.player).ledger runner = s.ledger runner := by
  unfold Setting.ledger
  rw [h]

/-- The ledger of a setting sees of the player the identifier and the progress with quests. -/
theorem Setting.ledger_withPlayer (s : Setting) (runner : PlayerId) {p : Player}
    (hid : p.id = s.player.id) (hquests : p.quests = s.player.quests) :
    (Setting.mk s.world p).ledger runner = s.ledger runner := by
  unfold Setting.ledger
  dsimp only
  rw [hid, hquests]

/-- Keeping the player of a setting leads to the ledger of the setting. -/
theorem Setting.ledger_putPlayer (s : Setting) (runner : PlayerId) :
    (s.world.putPlayer runner s.player).ledger = s.ledger runner := by
  have hplayers : (s.world.putPlayer runner s.player).ledger.players =
      (s.ledger runner).players := by
    funext id
    unfold World.ledger World.player? World.putPlayer Setting.ledger
    dsimp only
    by_cases h : id = runner
    · subst h
      rw [Table.get?_insert_self, if_pos rfl, Option.map_some]
    · rw [Table.get?_insert_of_ne _ _ (Ne.symm h), if_neg h]
      rfl
  exact congrArg (fun players => { s.world.ledger with players := players }) hplayers

/-- The setting of a loaded player has the ledger of its world. -/
theorem Setting.ledger_of_loaded {w : World} {runner : PlayerId} {p : Player}
    (h : w.player? runner = some p) : (Setting.mk w p).ledger runner = w.ledger := by
  have hplayers : ((Setting.mk w p).ledger runner).players = w.ledger.players := by
    funext id
    unfold Setting.ledger World.ledger
    dsimp only
    by_cases hid : id = runner
    · rw [if_pos hid, hid, h, Option.map_some]
    · rw [if_neg hid]
  exact congrArg (fun players => { w.ledger with players := players }) hplayers

/-- The ledger sees of a loaded player the identifier and the progress with quests. -/
theorem World.ledger_putPlayer {w : World} {id : PlayerId} {p q : Player}
    (hp : w.player? id = some p) (hid : q.id = p.id) (hquests : q.quests = p.quests) :
    (w.putPlayer id q).ledger = w.ledger := by
  have hplayers : (w.putPlayer id q).ledger.players = w.ledger.players := by
    funext j
    refine Table.map_get?_insert_of_eq (fun p => (p.id, p.quests)) hp ?_ j
    rw [hid, hquests]
  exact congrArg (fun players => { w.ledger with players := players }) hplayers

/-- The ledger sees of a loaded guild the identifier and the variables. -/
theorem World.ledger_putGuild {w : World} {id : GuildId} {g h : Guild}
    (hg : w.guild? id = some g) (hid : h.id = g.id) (hvars : h.vars = g.vars) :
    { w with guilds := w.guilds.insert id h }.ledger = w.ledger := by
  have hguilds : { w with guilds := w.guilds.insert id h }.ledger.guilds = w.ledger.guilds := by
    funext j
    refine Table.map_get?_insert_of_eq (fun g => (g.id, g.vars)) hg ?_ j
    rw [hid, hvars]
  exact congrArg (fun guilds => { w.ledger with guilds := guilds }) hguilds

/-- The ledger sees of an account the variables. -/
theorem World.ledger_putUser {w : World} {id : UserId} {u v : UserAccount}
    (hu : w.user? id = some u) (hvars : v.vars = u.vars) :
    { w with users := w.users.insert id v }.ledger = w.ledger := by
  have husers : { w with users := w.users.insert id v }.ledger.users = w.ledger.users := by
    funext j
    exact Table.map_get?_insert_of_eq UserAccount.vars hu hvars j
  exact congrArg (fun users => { w.ledger with users := users }) husers

namespace Ledger

variable {l : Ledger}

/-! ## Values -/

/-- Whether the owner of what a key names is loaded. -/
def owns (l : Ledger) : PersistenceKey → Bool
  | .serverVariable _ => true
  | .guildVariable g _ => (l.guilds g).isSome
  | .userVariable u _ => (l.users u).isSome
  | .quest p _ => (l.players p).isSome

/-- The record of the value in memory that a key names. -/
def recordOf? (l : Ledger) : PersistenceKey → Option PersistedRecord
  | .serverVariable i => (l.server.get? i).map (.serverVariable i)
  | .guildVariable g i => (l.guilds g).bind fun e => (e.2.get? i).map (.guildVariable g i)
  | .userVariable u i => (l.users u).bind fun vars => (vars.get? i).map (.userVariable u i)
  | .quest p q => (l.players p).bind fun e => (e.2.get? q).map (.quest p q)

/-- Nothing is in memory without an owner. -/
theorem recordOf?_of_not_owns {k : PersistenceKey} (h : l.owns k = false) :
    l.recordOf? k = none := by
  cases k with
  | serverVariable => cases h
  | guildVariable | userVariable | quest =>
    have howner := Option.not_isSome_iff_eq_none.mp (ne_true_of_eq_false h)
    simp only [recordOf?, howner, Option.bind_none]

/-- Every guild, every player and every change is kept under the identifier or key that it
carries. -/
structure IsKeyed (l : Ledger) : Prop where
  guilds : ∀ {id : GuildId} {e : GuildId × VariableStore}, l.guilds id = some e → e.1 = id
  players : ∀ {id : PlayerId} {e : PlayerId × Table QuestId QuestProgress},
    l.players id = some e → e.1 = id
  queue : l.queue.pending.IsKeyed

end Ledger

namespace World

/-- In a world with nothing in it all is kept under the identifiers it carries. -/
theorem isKeyed_start (config : EngineConfig) (catalog : Catalog) (clock : Clock)
    (supply : Supply) : (World.start config catalog clock supply).ledger.IsKeyed :=
  ⟨nofun, nofun, RecordTable.isKeyed_empty⟩

/-- A player is loaded under the identifier it carries. -/
theorem isKeyed_addPlayer {w : World} (h : w.ledger.IsKeyed) (p : Player) :
    (w.addPlayer p).ledger.IsKeyed := by
  refine ⟨h.guilds, ?_, h.queue⟩
  intro id e he
  obtain ⟨q, hq, rfl⟩ := Option.map_eq_some_iff.mp he
  by_cases hid : p.id = id
  · subst hid
    rw [show (w.addPlayer p).player? p.id = some p from Table.get?_insert_self ..] at hq
    cases hq
    rfl
  · rw [show (w.addPlayer p).player? id = w.player? id from Table.get?_insert_of_ne _ _ hid] at hq
    exact h.players (congrArg (Option.map fun p : Player => (p.id, p.quests)) hq)

end World

namespace Ledger

variable {l : Ledger}

/-! ## Putting values in their places -/

/-- Put the value of a record in its place, if there is an owner. -/
def put (l : Ledger) : PersistedRecord → Ledger
  | .serverVariable i value => { l with server := l.server.insert i value }
  | .guildVariable g i value =>
    { l with
      guilds := fun id =>
        if id = g then (l.guilds id).map fun e => (e.1, e.2.insert i value) else l.guilds id }
  | .userVariable u i value =>
    { l with
      users := fun id =>
        if id = u then (l.users id).map fun vars => vars.insert i value else l.users id }
  | .quest p q progress =>
    { l with
      players := fun id =>
        if id = p then (l.players id).map fun e => (e.1, e.2.insert q progress)
        else l.players id }

/-- Without an owner nothing is put anywhere. -/
theorem put_of_not_owns {r : PersistedRecord} (h : l.owns r.key = false) : l.put r = l := by
  have hkeep {ι α : Type} [DecidableEq ι] {f : ι → Option α} {k : ι} {change : α → α}
      (hk : (f k).isSome = false) :
      (fun j => if j = k then (f j).map change else f j) = f := by
    have hnone := Option.not_isSome_iff_eq_none.mp (ne_true_of_eq_false hk)
    funext j
    split
    next hj => rw [hj, hnone, Option.map_none]
    · rfl
  cases r with
  | serverVariable => cases h
  | guildVariable => exact congrArg (fun guilds => { l with guilds := guilds }) (hkeep h)
  | userVariable => exact congrArg (fun users => { l with users := users }) (hkeep h)
  | quest => exact congrArg (fun players => { l with players := players }) (hkeep h)

/-- Putting a value in its place keeps the changes that wait. -/
@[simp] theorem queue_put (r : PersistedRecord) : (l.put r).queue = l.queue := by
  cases r <;> rfl

/-- Putting a value in its place gives out no identifier. -/
@[simp] theorem idsUsed_put (r : PersistedRecord) : (l.put r).idsUsed = l.idsUsed := by
  cases r <;> rfl

/-- Putting a value in its place keeps the identifiers to be given out. -/
@[simp] theorem ids_put (r : PersistedRecord) : (l.put r).ids = l.ids := by
  cases r <;> rfl

/-- Putting a value in its place keeps which guilds there are. -/
theorem guilds_put_eq_none (r : PersistedRecord) (g : GuildId) :
    (l.put r).guilds g = none ↔ l.guilds g = none := by
  cases r with
  | guildVariable g' i value =>
    unfold put
    dsimp only
    split
    · exact Option.map_eq_none_iff
    · exact Iff.rfl
  | _ => exact Iff.rfl

/-- Putting a value in its place keeps the owners. -/
@[simp] theorem owns_put (r : PersistedRecord) (k : PersistenceKey) :
    (l.put r).owns k = l.owns k := by
  cases r <;> cases k <;> unfold owns put <;> dsimp only <;> split <;>
    first | rfl | exact Option.isSome_map

/-- Putting a value in its place keeps all under the identifiers they carry. -/
theorem IsKeyed.put (h : l.IsKeyed) (r : PersistedRecord) : (l.put r).IsKeyed := by
  cases r with
  | serverVariable | userVariable => exact ⟨h.guilds, h.players, h.queue⟩
  | guildVariable g i value =>
    refine ⟨?_, h.players, h.queue⟩
    intro id e he
    simp only [Ledger.put] at he
    split at he
    · obtain ⟨e', he', rfl⟩ := Option.map_eq_some_iff.mp he
      exact h.guilds (e := e') he'
    · exact h.guilds he
  | quest p q progress =>
    refine ⟨h.guilds, ?_, h.queue⟩
    intro id e he
    simp only [Ledger.put] at he
    split at he
    · obtain ⟨e', he', rfl⟩ := Option.map_eq_some_iff.mp he
      exact h.players (e := e') he'
    · exact h.players he

/-- After a value was put in its place it is the one in memory. -/
theorem recordOf?_put_self {r : PersistedRecord} (h : l.owns r.key = true) :
    (l.put r).recordOf? r.key = some r := by
  cases r with
  | serverVariable i value =>
    simp only [PersistedRecord.key, recordOf?, put, Table.get?_insert_self, Option.map_some]
  | guildVariable | userVariable | quest =>
    obtain ⟨e, he⟩ := Option.isSome_iff_exists.mp h
    simp only [PersistedRecord.key, recordOf?, put, ite_true, he, Option.map_some,
      Option.bind_some, Table.get?_insert_self]

/-- What is read of an owner stays when the owner is changed in a way that reading does not see. -/
private theorem bind_map_eq_bind {α β : Type} {o : Option α} {f : α → α}
    {read : α → Option β} (h : ∀ a, read (f a) = read a) : (o.map f).bind read = o.bind read := by
  cases o with
  | none => rfl
  | some a => exact h a

/-- Putting a value in its place keeps the values that other keys name. -/
theorem recordOf?_put_of_ne {r : PersistedRecord} {k : PersistenceKey} (h : r.key ≠ k) :
    (l.put r).recordOf? k = l.recordOf? k := by
  cases r with
  | serverVariable i value =>
    cases k with
    | serverVariable j =>
      have hne : i ≠ j := fun heq => h (heq ▸ rfl)
      simp only [recordOf?, put, Table.get?_insert_of_ne _ _ hne]
    | _ => rfl
  | guildVariable g i value =>
    cases k with
    | guildVariable g' j =>
      simp only [recordOf?, put]
      split
      next hg =>
        have hne : i ≠ j := fun heq => h (hg ▸ heq ▸ rfl)
        exact bind_map_eq_bind fun e => by rw [Table.get?_insert_of_ne _ _ hne]
      · rfl
    | _ => rfl
  | userVariable u i value =>
    cases k with
    | userVariable u' j =>
      simp only [recordOf?, put]
      split
      next hu =>
        have hne : i ≠ j := fun heq => h (hu ▸ heq ▸ rfl)
        exact bind_map_eq_bind fun vars => by rw [Table.get?_insert_of_ne _ _ hne]
      · rfl
    | _ => rfl
  | quest p q progress =>
    cases k with
    | quest p' q' =>
      simp only [recordOf?, put]
      split
      next hp =>
        have hne : q ≠ q' := fun heq => h (hp ▸ heq ▸ rfl)
        exact bind_map_eq_bind fun e => by rw [Table.get?_insert_of_ne _ _ hne]
      · rfl
    | _ => rfl

/-- The value that a key names after a value was put in its place. -/
theorem recordOf?_put (r : PersistedRecord) {k : PersistenceKey} (h : l.owns k = true) :
    (l.put r).recordOf? k = if r.key = k then some r else l.recordOf? k := by
  by_cases hk : r.key = k
  · rw [if_pos hk]
    subst hk
    exact recordOf?_put_self h
  · rw [if_neg hk]
    exact recordOf?_put_of_ne hk

/-- Put the values of records in their places, one after the other. -/
def putAll (l : Ledger) (records : List PersistedRecord) : Ledger := records.foldl put l

/-- Putting values in their places keeps the changes that wait. -/
@[simp] theorem queue_putAll (records : List PersistedRecord) :
    (l.putAll records).queue = l.queue := by
  induction records generalizing l with
  | nil => rfl
  | cons r rest ih => exact ih.trans (queue_put r)

/-- Putting values in their places gives out no identifier. -/
@[simp] theorem idsUsed_putAll (records : List PersistedRecord) :
    (l.putAll records).idsUsed = l.idsUsed := by
  induction records generalizing l with
  | nil => rfl
  | cons r rest ih => exact ih.trans (idsUsed_put r)

/-- Putting values in their places keeps the identifiers to be given out. -/
@[simp] theorem ids_putAll (records : List PersistedRecord) :
    (l.putAll records).ids = l.ids := by
  induction records generalizing l with
  | nil => rfl
  | cons r rest ih => exact ih.trans (ids_put r)

/-- Putting values in their places keeps which guilds there are. -/
theorem guilds_putAll_eq_none (records : List PersistedRecord) (g : GuildId) :
    (l.putAll records).guilds g = none ↔ l.guilds g = none := by
  induction records generalizing l with
  | nil => exact Iff.rfl
  | cons r rest ih => exact ih.trans (guilds_put_eq_none r g)

/-- Putting values in their places keeps the owners. -/
@[simp] theorem owns_putAll (records : List PersistedRecord) (k : PersistenceKey) :
    (l.putAll records).owns k = l.owns k := by
  induction records generalizing l with
  | nil => rfl
  | cons r rest ih => exact ih.trans (owns_put r k)

/-- Putting values in their places keeps all under the identifiers they carry. -/
theorem IsKeyed.putAll (h : l.IsKeyed) (records : List PersistedRecord) :
    (l.putAll records).IsKeyed := by
  induction records generalizing l with
  | nil => exact h
  | cons r rest ih => exact ih (h.put r)

/-- The value that a key names after values were put in their places: the latest of the key, or else
the one before. -/
theorem recordOf?_putAll (records : List PersistedRecord) {k : PersistenceKey}
    (h : l.owns k = true) : (l.putAll records).recordOf? k =
      ((RecordTable.ofRecords records).get? k).or (l.recordOf? k) := by
  -- The table of the records put so far grows along with the ledger.
  have hput (t : RecordTable) (m : Ledger) (howns : m.owns k = true)
      (hm : m.recordOf? k = (t.get? k).or (l.recordOf? k)) :
      (m.putAll records).recordOf? k = ((t.putAll records).get? k).or (l.recordOf? k) := by
    induction records generalizing t m with
    | nil => exact hm
    | cons r rest ih =>
      refine ih (t.put r) (m.put r) ((owns_put r k).trans howns) ?_
      rw [recordOf?_put r howns, RecordTable.get?_put]
      split
      · rfl
      · exact hm
  exact hput .empty l h rfl

end Ledger

namespace World

variable {w : World}

/-- Setting a variable of a guild puts its value in its place. -/
theorem ledger_setGuildVariable {id : GuildId} {g : Guild} (hg : w.guild? id = some g)
    (i : VariableId) (value : Value) :
    { w with guilds := w.guilds.insert id { g with vars := g.vars.insert i value } }.ledger =
      w.ledger.put (.guildVariable id i value) := by
  have hguilds : (fun j => ((w.guilds.insert id { g with vars := g.vars.insert i value }).get?
      j).map fun g => (g.id, g.vars)) = (w.ledger.put (.guildVariable id i value)).guilds := by
    funext j
    refine Table.map_get?_insert_of_change (fun g => (g.id, g.vars))
      (fun e => (e.1, e.2.insert i value)) hg ?_ j
    rfl
  exact congrArg (fun guilds => { w.ledger with guilds := guilds }) hguilds

/-- Setting a variable of an account puts its value in its place. -/
theorem ledger_setUserVariable {id : UserId} {u : UserAccount} (hu : w.user? id = some u)
    (i : VariableId) (value : Value) :
    { w with users := w.users.insert id { u with vars := u.vars.insert i value } }.ledger =
      w.ledger.put (.userVariable id i value) := by
  have husers : (fun j => ((w.users.insert id { u with vars := u.vars.insert i value }).get?
      j).map UserAccount.vars) = (w.ledger.put (.userVariable id i value)).users := by
    funext j
    refine Table.map_get?_insert_of_change UserAccount.vars (fun vars => vars.insert i value)
      hu ?_ j
    rfl
  exact congrArg (fun users => { w.ledger with users := users }) husers

/-- Setting the progress of a player with a quest puts it in its place. -/
theorem ledger_setProgress {id : PlayerId} {p : Player} (hp : w.player? id = some p)
    (quest : QuestId) (progress : QuestProgress) :
    (w.putPlayer id (p.setProgress quest progress)).ledger =
      w.ledger.put (.quest id quest progress) := by
  have hplayers : (fun j => ((w.players.insert id (p.setProgress quest progress)).get? j).map
      fun p => (p.id, p.quests)) = (w.ledger.put (.quest id quest progress)).players := by
    funext j
    refine Table.map_get?_insert_of_change (fun p => (p.id, p.quests))
      (fun e => (e.1, e.2.insert quest progress)) hp ?_ j
    rfl
  exact congrArg (fun players => { w.ledger with players := players }) hplayers

end World

namespace Ledger

variable {l : Ledger}

/-! ## Moves -/

/-- Put the value of a record in its place and queue it to be stored. -/
def write (l : Ledger) (r : PersistedRecord) : Ledger :=
  { l.put r with queue := l.queue.enqueue r }

/-- Give out an identifier. -/
def draw (l : Ledger) : Ledger := { l with idsUsed := l.idsUsed + 1 }

/-- The next guild to be founded. -/
def nextGuild (l : Ledger) : GuildId := ⟨l.ids l.idsUsed⟩

/-- Add the next guild, without variables. -/
def found (l : Ledger) : Ledger :=
  { l.draw with
    guilds := fun id => if id = l.nextGuild then some (l.nextGuild, .empty) else l.guilds id }

/-- Remove a guild. -/
def dissolve (l : Ledger) (g : GuildId) : Ledger :=
  { l with guilds := fun id => if id = g then none else l.guilds id }

/-- What a script may do to a ledger. -/
inductive Move (l : Ledger) : Ledger → Prop
  | stay : Move l l
  | write (r : PersistedRecord) (owned : l.owns r.key = true) : Move l (l.write r)
  | draw : Move l l.draw
  | found : Move l l.found
  | dissolve (g : GuildId) : Move l (l.dissolve g)

/-- Every move keeps all under the identifiers they carry. -/
theorem IsKeyed.move {l' : Ledger} (h : l.IsKeyed) (hmove : l.Move l') : l'.IsKeyed := by
  cases hmove with
  | stay | draw => exact ⟨h.guilds, h.players, h.queue⟩
  | write r => exact ⟨(h.put r).guilds, (h.put r).players, h.queue.put r⟩
  | found =>
    refine ⟨?_, h.players, h.queue⟩
    intro g e he
    unfold Ledger.found at he
    dsimp only at he
    split at he
    next hg =>
      cases he
      exact hg.symm
    · exact h.guilds he
  | dissolve g =>
    refine ⟨?_, h.players, h.queue⟩
    intro g' e he
    unfold Ledger.dissolve at he
    dsimp only at he
    split at he
    · cases he
    · exact h.guilds he

/-- No move takes an identifier back. -/
theorem Move.idsUsed_le {l' : Ledger} (h : l.Move l') : l.idsUsed ≤ l'.idsUsed := by
  cases h with
  | stay | dissolve => exact Nat.le_refl _
  | write r => exact Nat.le_of_eq (idsUsed_put r).symm
  | draw | found => exact Nat.le_succ _

end Ledger

end EventScript
