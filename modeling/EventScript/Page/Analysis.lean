import EventScript.Page.Label

/-!
# Page analysis

A report on the lists of a page that its root list leads to, and on what in them cannot work. The
walk goes breadth first and visits every registered list once.
-/

namespace EventScript

/-- What was found in a page. -/
structure PageReport where
  /-- The number of registered lists. -/
  lists : Nat
  /-- The number of commands in the lists that can be reached. -/
  commands : Nat
  /-- The names of the labels in the order they are met. -/
  labels : List String
  /-- Registered lists that nothing leads to, in ascending order. -/
  unreachableLists : List BranchId
  /-- Branches that are referred to but not registered, nil left out, in ascending order. -/
  missingBranches : List BranchId
  /-- Labels that are jumped to but not found, each once. -/
  unresolvedGotos : List String
  /-- The number of commands of unknown kind. -/
  unsupported : Nat
  deriving DecidableEq

/-- Whether a page fails the check; missing branches and unreachable lists are allowed. -/
def PageReport.hasErrors (r : PageReport) : Bool :=
  !r.unresolvedGotos.isEmpty || decide (0 < r.unsupported)

namespace Page

/-- The commands of a list, none if it is not registered. -/
def commands (p : Page) (list : BranchId) : List Command := (p.list? list).getD []

/-- The branches that the commands of a list refer to, in order. -/
def branchesOf (p : Page) (list : BranchId) : List BranchId :=
  (p.commands list).flatMap Command.branches

/-- Add the registered branches that were not reached before to those that were. -/
def reach (p : Page) (reached : List BranchId) : List BranchId → List BranchId
  | [] => reached
  | b :: rest =>
    if p.hasList b && !reached.contains b then p.reach (reached ++ [b]) rest
    else p.reach reached rest

/-- Visit the lists behind the first `done` of those that were reached, adding what they lead to. -/
def walk (p : Page) : Nat → Nat → List BranchId → List BranchId
  | 0, _, reached => reached
  | fuel + 1, done, reached =>
    match reached[done]? with
    | some list => p.walk fuel (done + 1) (p.reach reached (p.branchesOf list))
    | none => reached

/-- The lists the root list leads to, in the order they are visited, the root list first. -/
def reachable (p : Page) : List BranchId := p.walk (p.lists.size + 1) 0 [p.root]

/-- Identifiers in ascending order, each once. -/
def ascending (bs : List BranchId) : List BranchId := (Table.ofList (bs.map fun b => (b, ()))).keys

/-- A list of texts with every text left out that stood before. -/
def firstOccurrences : List String → List String := fun names =>
  names.foldl (fun seen name => if seen.contains name then seen else seen ++ [name]) []

/-- The report on a page. -/
def analyze (p : Page) : PageReport :=
  let reached := p.reachable
  let commands := reached.flatMap p.commands
  { lists := p.lists.size
    commands := commands.length
    labels := commands.filterMap fun
      | .label name => some name
      | _ => none
    unreachableLists := p.lists.keys.filter fun b => !reached.contains b
    missingBranches := (ascending ((commands.flatMap Command.branches).filter fun b =>
      !p.hasList b)).filter fun b => !b.isNil
    unresolvedGotos := firstOccurrences (commands.filterMap fun
      | .goToLabel name => if (p.findLabel? name).isNone then some name else none
      | _ => none)
    unsupported := (commands.filter fun c => c == .unsupported).length }

end Page

end EventScript
