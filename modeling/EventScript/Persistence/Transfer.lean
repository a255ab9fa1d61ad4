import EventScript.Storage.Error
import EventScript.World.Basic

/-!
# Moving state between the world and a store

Queued changes are flushed to a store, and stored records are restored into a world.
-/

namespace EventScript.World

/-- Hand all queued changes to a store, and count them. If the store does not take them, they go back
into the queue, behind newer ones. -/
def flush {σ : Type} (w : World) (store : List PersistedRecord → Except StorageError σ) (kept : σ) :
    Except StorageError Nat × σ × World :=
  let records := w.persistence.records
  if records.isEmpty then (.ok 0, kept, w)
  else
    let drained := { w with persistence := .empty }
    match store records with
    | .ok stored => (.ok records.length, stored, drained)
    | .error e =>
      (.error e, kept, { drained with persistence := drained.persistence.requeue records })

/-- Put the value of a record in its place, if the owner is loaded. -/
def restoreRecord? (w : World) : PersistedRecord → Option World
  | .serverVariable id value =>
    some { w with serverVariables := w.serverVariables.insert id value }
  | .guildVariable guild id value => do
    let g ← w.guild? guild
    return { w with
      guilds := w.guilds.insert guild { g with vars := g.vars.insert id value } }
  | .userVariable user id value => do
    let u ← w.user? user
    return { w with
      users := w.users.insert user { u with vars := u.vars.insert id value } }
  | .quest player quest progress => do
    let p ← w.player? player
    return w.putPlayer player (p.setProgress quest progress)

/-- Put the values of records in their places, one after the other, and count those whose owner is
loaded. -/
def restore : List PersistedRecord → World → Nat × World
  | [], w => (0, w)
  | r :: rest, w =>
    match w.restoreRecord? r with
    | some w =>
      let (count, w) := restore rest w
      (count + 1, w)
    | none => restore rest w

end EventScript.World
