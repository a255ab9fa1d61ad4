import EventScript.Json.Printer
import EventScript.Storage.Document

/-!
# Record stores

Two places for records: a table that can be switched off, and a file of a file tree. Both keep the
latest record of every key and list the records in the order of their keys.
-/

namespace EventScript

/-- Records in memory. -/
structure RecordStore where
  /-- The latest record of every key. -/
  records : RecordTable
  /-- Whether the store takes nothing at the moment. -/
  isOffline : Bool
  deriving DecidableEq

namespace RecordStore

/-- A store without records. -/
def empty : RecordStore := ⟨.empty, false⟩

/-- Store records, in order. -/
def store (s : RecordStore) (records : List PersistedRecord) : Except StorageError RecordStore :=
  if s.isOffline then .error .offline
  else .ok { s with records := RecordTable.putAll s.records records }

/-- The records in the order of their keys. -/
def list (s : RecordStore) : List PersistedRecord := s.records.values

end RecordStore

/-- A file of records. -/
structure RecordFile where
  /-- The path of the file. -/
  path : String
  deriving DecidableEq

namespace RecordFile

/-- The records in the file; none if it does not exist. -/
def list (f : RecordFile) (t : FileTree) : Except StorageError (List PersistedRecord) :=
  if t.contains f.path then PersistedRecord.ofFile f.path (t.read f.path) else .ok []

/-- Make the directory of the file, if it does not exist. -/
def makeDirectory (f : RecordFile) (t : FileTree) : Except StorageError FileTree :=
  match FileTree.parent? f.path with
  | none => .ok t
  | some parent =>
    match t.makeDirectories parent with
    | .ok t => .ok t
    | .error cause => .error (.file .makeRecordDirectory cause)

/-- Store records, in order, among those in the file. -/
def store (f : RecordFile) (t : FileTree) (records : List PersistedRecord) :
    Except StorageError FileTree := do
  let merged := RecordTable.putAll (.ofRecords (← f.list t)) records
  let t ← f.makeDirectory t
  match t.write f.path (toJson merged.values).pretty with
  | .ok t => return t
  | .error cause => throw (.file (.writeRecords f.path) cause)

end RecordFile

end EventScript
