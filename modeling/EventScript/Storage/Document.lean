import EventScript.Descriptor.Catalog
import EventScript.Json.Parser
import EventScript.Persistence.Record
import EventScript.Storage.Error

/-!
# Documents

Pages, descriptors and records as the texts of files. A page that is read is valid.
-/

namespace EventScript

/-- Read a value from a text. Members that the value does not have need not be readable. -/
def ofText? {α : Type} [JsonForm α] (text : String) : Option α := (Json.scan? text).bind ofJson?

/-- What can be told of a page file from what was read of it. -/
def Page.ofFile (path : String) (content : Except FileError String) : Except StorageError Page :=
  match content with
  | .error cause => .error (.file (.readPage path) cause)
  | .ok text =>
    match (ofText? text : Option Page) with
    | none => .error (.malformedPage path)
    | some page =>
      match page.validate with
      | .ok page => .ok page
      | .error cause => .error (.invalidPage cause)

/-- What can be told of a descriptor file from what was read of it. -/
def DescriptorSet.ofFile (path : String) (content : Except FileError String) :
    Except StorageError DescriptorSet :=
  match content with
  | .error cause => .error (.file (.readDescriptors path) cause)
  | .ok text =>
    match ofText? text with
    | some descriptors => .ok descriptors
    | none => .error (.malformedDescriptors path)

/-- The records of a file; a file that does not exist has none. -/
def PersistedRecord.ofFile (path : String) (content : Except FileError String) :
    Except StorageError (List PersistedRecord) :=
  match content with
  | .error cause => .error (.file (.readRecords path) cause)
  | .ok text =>
    match ofText? text with
    | some records => .ok records
    | none => .error .malformedRecords

end EventScript
