import EventScript.Page.Basic
import EventScript.Storage.FileTree

/-!
# Failures of storage

What can go wrong when pages, descriptors and records are read and written.
-/

namespace EventScript

/-- What was done with a file or directory when it failed. -/
inductive FileAction where
  | readPage (path : String)
  | readDescriptors (path : String)
  | readRecords (path : String)
  | makePageDirectory
  | writePage (path : String)
  | listPages (path : String)
  | makeRecordDirectory
  | writeRecords (path : String)
  deriving DecidableEq

/-- The text that names an action that failed. -/
def FileAction.message : FileAction → String
  | readPage path => "Failed to read page file " ++ path
  | readDescriptors path => "Failed to read descriptors " ++ path
  | readRecords path => "Failed to read " ++ path
  | makePageDirectory => "Failed to create page directory"
  | writePage path => "Failed to write page file " ++ path
  | listPages path => "Failed to read directory " ++ path
  | makeRecordDirectory => "Failed to create persistence directory"
  | writeRecords path => "Failed to write " ++ path

/-- Why storage fails. -/
inductive StorageError where
  | pageNotFound (page : PageId)
  | file (action : FileAction) (cause : FileError)
  | malformedPage (path : String)
  | malformedDescriptors (path : String)
  | malformedRecords
  | invalidPage (cause : PageError)
  /-- The store does not take anything at the moment. -/
  | offline
  deriving DecidableEq

/-- The text of an error. -/
def StorageError.message : StorageError → String
  | pageNotFound page => s!"Page not found: {page.text}"
  | file action cause => "IO error: " ++ action.message ++ ": " ++ cause.message
  | malformedPage path => "Invalid data format: Failed to parse page file " ++ path
  | malformedDescriptors path => "Invalid data format: Failed to parse descriptors " ++ path
  | malformedRecords => "Serialization error: Failed to deserialize records"
  | invalidPage cause => "Invalid data format: " ++ cause.message
  | offline => "Repository unavailable: persistence backend is offline"

end EventScript
