import EventScript.Stat

/-!
# Faults

Two things must not happen to a host: that a vital is changed whose maximum is negative, because no
value lies between zero and such a maximum, and that the requirements of quests lead in a circle,
because asking whether one of them can be started would not end. Both end the whole run.
-/

namespace EventScript

/-- Why a run cannot go on at all. -/
inductive Fault where
  /-- A vital was changed whose maximum is negative. -/
  | negativeMaximum (vital : Vital) (maximum : Int64)
  /-- Asking for a quest led to asking for more quests, one behind the other, than there are. -/
  | endlessRequirement (quest : QuestId)
  deriving DecidableEq

/-- A computation that may run into a fault. -/
abbrev Guarded := Except Fault

end EventScript
