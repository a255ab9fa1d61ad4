import EventScript.Json.Printer
import EventScript.Storage.Document

/-!
# Page repositories

Two places for pages: a table that only takes valid pages by `save?`, and a directory of a file tree
with a file for every page. The directory takes any page; whether it is valid is found out when it is
loaded.
-/

namespace EventScript

/-- Pages in memory. -/
structure PageTable where
  /-- The pages. -/
  pages : Table PageId Page
  deriving DecidableEq

namespace PageTable

/-- No pages. -/
def empty : PageTable := ⟨.empty⟩

/-- Add a page, valid or not. -/
def add (r : PageTable) (p : Page) : PageTable := ⟨r.pages.insert p.id p⟩

/-- Add a valid page. -/
def save (r : PageTable) (p : Page) : Except StorageError PageTable :=
  match p.validate with
  | .ok p => .ok (r.add p)
  | .error cause => .error (.invalidPage cause)

/-- Look a page up. -/
def load (r : PageTable) (id : PageId) : Except StorageError Page :=
  match r.pages.get? id with
  | some p => .ok p
  | none => .error (.pageNotFound id)

/-- Whether there is a page. -/
def contains (r : PageTable) (id : PageId) : Bool := r.pages.contains id

/-- The pages there are, in ascending order. -/
def list (r : PageTable) : List PageId := r.pages.keys

end PageTable

/-- A directory of pages. -/
structure PageDirectory where
  /-- The path of the directory. -/
  path : String
  deriving DecidableEq

namespace PageDirectory

/-- The name of the file of a page. -/
def fileName (id : PageId) : String := id.text ++ ".json"

/-- The path of the file of a page. -/
def pagePath (d : PageDirectory) (id : PageId) : String := FileTree.join d.path (fileName id)

/-- Write the file of a page, and the directory if it does not exist. -/
def save (d : PageDirectory) (t : FileTree) (p : Page) : Except StorageError FileTree :=
  match t.makeDirectories d.path with
  | .error cause => .error (.file .makePageDirectory cause)
  | .ok t =>
    match t.write (d.pagePath p.id) (toJson p).pretty with
    | .error cause => .error (.file (.writePage (d.pagePath p.id)) cause)
    | .ok t => .ok t

/-- Read the file of a page. -/
def load (d : PageDirectory) (t : FileTree) (id : PageId) : Except StorageError Page :=
  if t.contains (d.pagePath id) then Page.ofFile (d.pagePath id) (t.read (d.pagePath id))
  else .error (.pageNotFound id)

/-- Whether there is a file of a page. -/
def contains (d : PageDirectory) (t : FileTree) (id : PageId) : Bool := t.contains (d.pagePath id)

/-- The page that a name of a file stands for: an identifier in any spelling before `.json`. -/
def pageOfName? (name : String) : Option PageId :=
  let cs := name.toList
  if ".json".toList.isSuffixOf cs then
    Id.ofText? (String.ofList (cs.take (cs.length - 5)))
  else none

/-- Put an identifier in front of the first one that is not below it. -/
def insertSorted (id : PageId) : List PageId → List PageId
  | [] => [id]
  | other :: rest =>
    if id.value.toNat ≤ other.value.toNat then id :: other :: rest
    else other :: insertSorted id rest

/-- The pages whose names stand in the directory, in ascending order. -/
def list (d : PageDirectory) (t : FileTree) : Except StorageError (List PageId) :=
  match t.entries d.path with
  | .error cause => .error (.file (.listPages d.path) cause)
  | .ok names => .ok ((names.filterMap pageOfName?).foldr insertSorted [])

end PageDirectory

end EventScript
