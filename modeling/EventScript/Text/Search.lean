/-!
# Searching texts

Occurrences of one text in another, and their replacement from left to right.
-/

namespace EventScript.Text

/-- What follows a text at the start of another. -/
def dropLead? : List Char → List Char → Option (List Char)
  | [], rest => some rest
  | _ :: _, [] => none
  | c :: lead, d :: rest => if c = d then dropLead? lead rest else none

theorem dropLead?_eq_some_iff {lead cs rest : List Char} :
    dropLead? lead cs = some rest ↔ cs = lead ++ rest := by
  induction lead generalizing cs with
  | nil => simp [dropLead?, eq_comm]
  | cons c lead ih =>
    cases cs with
    | nil => simp [dropLead?]
    | cons d cs =>
      by_cases h : c = d
      · simp [dropLead?, h, ih]
      · simp [dropLead?, h, Ne.symm h]

/-- Whether a text stands somewhere in another. -/
def occursIn (part : List Char) : List Char → Bool
  | [] => part.isEmpty
  | c :: rest => part.isPrefixOf (c :: rest) || occursIn part rest

/-- Whether the first text contains the second. -/
def contains (whole part : String) : Bool := occursIn part.toList whole.toList

/-- What stands before the first occurrence of a text; everything if it does not occur. -/
def before (part : List Char) : List Char → List Char
  | [] => []
  | c :: rest => if part.isPrefixOf (c :: rest) then [] else c :: before part rest

/-- Put `new` for every occurrence of `old`, leaving out the first `skip` characters. -/
def replaceFrom (old new : List Char) : Nat → List Char → List Char
  | _, [] => []
  | skip + 1, _ :: rest => replaceFrom old new skip rest
  | 0, c :: rest =>
    if old.isPrefixOf (c :: rest) then new ++ replaceFrom old new (old.length - 1) rest
    else c :: replaceFrom old new 0 rest

/-- A text with every occurrence of a nonempty text replaced; the occurrences are found from the
left and do not overlap. -/
def replaceAll (whole old new : String) : String :=
  String.ofList (replaceFrom old.toList new.toList 0 whole.toList)

/-- The characters before the first one that passes a test, and those behind it. -/
def splitAt? (p : Char → Bool) : List Char → Option (List Char × List Char)
  | [] => none
  | c :: rest =>
    if p c then some ([], rest) else (splitAt? p rest).map fun (a, b) => (c :: a, b)

end EventScript.Text
