import EventScript.Command.Form

/-!
# Pages

A page is a compiled script: command lists under identifiers, one of which is the root. A page is
valid when its root list is registered; pages read from JSON need not be.
-/

namespace EventScript

open FieldReader

/-- A compiled script. -/
structure Page where
  /-- The identifier of the page. -/
  id : PageId
  /-- A name for people. -/
  name : String
  /-- The list that execution starts with. -/
  root : BranchId
  /-- The registered command lists. -/
  lists : Table BranchId (List Command)
  deriving DecidableEq

/-- Why a page is not valid. -/
inductive PageError where
  | unregisteredRoot (root : BranchId) (page : PageId)
  deriving DecidableEq

/-- The text of an error. -/
def PageError.message : PageError → String
  | unregisteredRoot root page =>
    s!"Invalid page: root list {root.text} of page {page.text} is not registered"

namespace Page

/-- The command list registered under an identifier. -/
def list? (p : Page) (b : BranchId) : Option (List Command) := p.lists.get? b

/-- Whether a command list is registered. -/
def hasList (p : Page) (b : BranchId) : Bool := p.lists.contains b

/-- Whether the root list is registered. -/
def isValid (p : Page) : Bool := p.hasList p.root

/-- The page itself, if its root list is registered. -/
def validate (p : Page) : Except PageError Page :=
  if p.isValid then .ok p else .error (.unregisteredRoot p.root p.id)

theorem validate_eq_ok_iff {p q : Page} : p.validate = .ok q ↔ p.isValid = true ∧ q = p := by
  by_cases h : p.isValid
  · simp [validate, h, eq_comm]
  · simp [validate, h]

end Page

instance : JsonForm Page where
  toJson p := .obj [("id", toJson p.id), ("name", toJson p.name), ("root", toJson p.root),
    ("lists", toJson p.lists)]
  read? := Json.record? do
    return ⟨← required "id", ← defaulted "name" "", ← required "root", ← required "lists"⟩

namespace Page

/-- A draft of a page: its root list is named before it is written. -/
def draft (id : PageId) (name : String) (root : BranchId) : Page := ⟨id, name, root, .empty⟩

/-- Register a command list. -/
def withList (p : Page) (b : BranchId) (commands : List Command) : Page :=
  { p with lists := p.lists.insert b commands }

/-- Register the root list. -/
def withRoot (p : Page) (commands : List Command) : Page := p.withList p.root commands

end Page

end EventScript
