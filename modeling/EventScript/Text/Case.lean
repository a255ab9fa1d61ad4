/-!
# ASCII case

Comparison of texts up to the case of the letters A to Z; other characters are compared as they are.
-/

namespace EventScript.Text

/-- A text with the letters A to Z in lower case. -/
def asciiLower (s : String) : String := String.ofList (s.toList.map Char.toLower)

/-- Equality up to ASCII case. -/
def eqIgnoreCase (a b : String) : Bool :=
  a.toList.map Char.toLower == b.toList.map Char.toLower

theorem eqIgnoreCase_iff {a b : String} : eqIgnoreCase a b = true ↔ asciiLower a = asciiLower b := by
  simp [eqIgnoreCase, asciiLower, String.ofList_inj]

theorem eqIgnoreCase_comm (a b : String) : eqIgnoreCase a b = eqIgnoreCase b a := by
  simp only [eqIgnoreCase]
  exact BEq.comm

end EventScript.Text
