/-!
# JSON values

JSON as data. Members of an object keep their order, and a name may occur more than once, as it may
in a text; what a repeated name means is left to the reader of the value. A text may also hold
things that are well formed and still no values, such as half of a surrogate pair; they stand as
`unreadable`, and a reader may only pass over them.
-/

namespace EventScript

/-- A JSON value. -/
inductive Json where
  | null
  | bool (value : Bool)
  /-- A whole number, written without fraction and exponent, of at most 64 bits. -/
  | num (value : Int)
  /-- Any other number, as it was written. -/
  | real (written : String)
  | str (value : String)
  | arr (items : List Json)
  | obj (members : List (String × Json))
  /-- Something well formed that is not a value. -/
  | unreadable

namespace Json

instance : Inhabited Json := ⟨.null⟩

mutual

/-- Structural equality. -/
def same : Json → Json → Bool
  | .null, .null => true
  | .bool a, .bool b => a == b
  | .num a, .num b => a == b
  | .real a, .real b => a == b
  | .str a, .str b => a == b
  | .arr a, .arr b => sameItems a b
  | .obj a, .obj b => sameMembers a b
  | .unreadable, .unreadable => true
  | _, _ => false

/-- Structural equality, item by item. -/
def sameItems : List Json → List Json → Bool
  | [], [] => true
  | a :: as, b :: bs => same a b && sameItems as bs
  | _, _ => false

/-- Structural equality, member by member. -/
def sameMembers : List (String × Json) → List (String × Json) → Bool
  | [], [] => true
  | (k, a) :: as, (j, b) :: bs => k == j && same a b && sameMembers as bs
  | _, _ => false

end

instance : BEq Json := ⟨same⟩

mutual

/-- Whether everything in a value can be read. -/
def isReadable : Json → Bool
  | .unreadable => false
  | .arr items => areReadable items
  | .obj members => areReadableMembers members
  | _ => true

/-- Whether everything in items can be read. -/
def areReadable : List Json → Bool
  | [] => true
  | j :: rest => isReadable j && areReadable rest

/-- Whether everything in members can be read. -/
def areReadableMembers : List (String × Json) → Bool
  | [] => true
  | (_, j) :: rest => isReadable j && areReadableMembers rest

end

/-- The value of a member, if the value is an object that has it. -/
def get? : Json → String → Option Json
  | .obj members, name => (members.find? fun m => m.1 == name).map (·.2)
  | _, _ => none

/-- The value of a member, null when there is none. -/
def getD (j : Json) (name : String) : Json := (j.get? name).getD .null

/-- Put a member in front of the first one that does not come before it; a member of the same name
stays as it is, so that of two members the one put in first wins. -/
def addMember (name : String) (j : Json) : List (String × Json) → List (String × Json)
  | [] => [(name, j)]
  | (k, v) :: rest =>
    if name < k then (name, j) :: (k, v) :: rest
    else if name = k then (k, v) :: rest
    else (k, v) :: addMember name j rest

mutual

/-- The same value with the members of every object in ascending order of their names; of members
with one name the last stays. -/
def sorted : Json → Json
  | .arr items => .arr (sortedItems items)
  | .obj members => .obj (sortedMembers members)
  | j => j

/-- Sort the members inside every item. -/
def sortedItems : List Json → List Json
  | [] => []
  | j :: rest => sorted j :: sortedItems rest

/-- Sort members, and the members inside every member. -/
def sortedMembers : List (String × Json) → List (String × Json)
  | [] => []
  | (k, j) :: rest => addMember k (sorted j) (sortedMembers rest)

end

end Json

end EventScript
