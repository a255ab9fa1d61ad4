import EventScript.Page.Basic

/-!
# Labels

The way to a label from the root list of a page. The lists are searched depth first: the commands
of a list in order, and behind a command that branches its registered branch lists in order before
the command that follows. A list is not entered again on the way through itself, so the search is
as deep as there are lists at most.
-/

namespace EventScript

/-- A list on the way to a label, and where to go on in it. -/
structure PathStep where
  /-- The list. -/
  list : BranchId
  /-- The position behind the label, or behind the command whose branch was entered. -/
  index : Nat
  deriving DecidableEq

namespace Page

/-- Search the commands of a list from a position on, entering branches with a given search. -/
def searchCommands (label : String) (enter : BranchId → Option (List PathStep)) (list : BranchId) :
    Nat → List Command → Option (List PathStep)
  | _, [] => none
  | i, c :: rest =>
    if c.isLabel label then some [⟨list, i + 1⟩]
    else match c.branches.findSome? enter with
      | some path => some (⟨list, i + 1⟩ :: path)
      | none => searchCommands label enter list (i + 1) rest

/-- Search a list, at most `depth` lists deep, that is reached through the lists in `above`. -/
def searchList (p : Page) (label : String) :
    Nat → List BranchId → BranchId → Option (List PathStep)
  | 0, _, _ => none
  | depth + 1, above, list =>
    if above.contains list then none
    else match p.list? list with
      | some commands =>
        searchCommands label (p.searchList label depth (list :: above)) list 0 commands
      | none => none

/-- The first way to a label, from the root list to the list that holds it. -/
def findLabel? (p : Page) (label : String) : Option (List PathStep) :=
  p.searchList label p.lists.size [] p.root

end Page

end EventScript
