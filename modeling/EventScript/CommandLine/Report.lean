import EventScript.Page.Analysis
import EventScript.Text.Decimal

/-!
# Reports for people

The lines that are printed about a page that was checked.
-/

namespace EventScript.CommandLine

open EventScript.Text

/-- The lines about a page. -/
def reportLines (p : Page) : List String :=
  let r := p.analyze
  let labels := if r.labels.isEmpty then "none" else ", ".intercalate r.labels
  [s!"Page: {p.name} ({p.id.text})",
    s!"  lists:    {Decimal.render r.lists}",
    s!"  commands: {Decimal.render r.commands}",
    s!"  labels:   {labels}"] ++
  (r.unreachableLists.map fun b => s!"  warning: list {b.text} is unreachable") ++
  (r.missingBranches.map fun b =>
    s!"  note: branch {b.text} is not registered and will be skipped") ++
  (r.unresolvedGotos.map fun label =>
    "  error: go to label '" ++ label ++ "' does not resolve") ++
  (if 0 < r.unsupported then
    [s!"  error: {Decimal.render r.unsupported} unsupported commands"] else []) ++
  ["", if r.hasErrors then "FAILED" else "OK"]

end EventScript.CommandLine
