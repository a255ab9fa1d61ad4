import EventScript.Scene.Basic

/-!
# The character of a player

Vitals, levels, experience, class, spells, looks and access rights.
-/

namespace EventScript.Scene

/-! ## Vitals -/

/-- Let a player whose health is used up die, once. -/
def dieIfExhausted (s : Scene) (vital : Vital) : Scene :=
  if vital = .health ∧ s.player.vitals.health ≤ 0 ∧ s.player.activity.dead = false then
    (s.withPlayer { s.player with activity.dead := true }).announce .died
  else s

/-- Heal by a positive amount, harm by a negative one, and restore in full for zero. Harm starts
combat, and harm to health can kill. -/
def restoreVital (s : Scene) (vital : Vital) (amount : Int64) : Guarded Scene := do
  if 0 < amount then
    return (s.withPlayer (← s.player.addVital vital amount)).announce .vitals
  else if amount < 0 then
    let p ← s.player.addVital vital amount
    let combatEnd := satAddUnsigned s.world.now s.world.config.combat.combatTime
    let s := s.withPlayer { p with activity.combatUntil := combatEnd }
    return (s.dieIfExhausted vital).announce .vitals
  else return (s.withPlayer (s.player.restoreVital vital)).announce .vitals

/-! ## Levels and experience -/

/-- The experience that leads to the next level, if there is one. -/
def experienceToNextLevel? (s : Scene) : Option Int64 :=
  if s.world.config.player.maxLevel ≤ s.player.level then none
  else (s.world.catalog.classes.get? s.player.profession).map fun d =>
    d.experienceToNextLevel s.player.level

/-- The maximum of the vitals at the next level. -/
def raisedVitals (s : Scene) : Vitals :=
  match s.world.catalog.classes.get? s.player.profession with
  | some d => ⟨satAdd s.player.maxVitals.health d.vitalsPerLevel.health,
      satAdd s.player.maxVitals.mana d.vitalsPerLevel.mana⟩
  | none => s.player.maxVitals

/-- Raise the level of a player who is not at the highest one. -/
def raiseLevel (s : Scene) (resetsExperience : Bool) : Scene :=
  let vitals := s.raisedVitals
  let s := s.withPlayer { s.player with
    level := s.player.level + 1
    statPoints := s.player.statPoints + s.world.config.player.statPointsPerLevel
    maxVitals := vitals
    vitals := vitals
    exp := if resetsExperience then 0 else s.player.exp }
  (s.trigger .levelUp).announce .level

/-- Raise the level by one, up to the highest one. -/
def levelUp (s : Scene) : Scene :=
  if s.world.config.player.maxLevel ≤ s.player.level then s else s.raiseLevel true

/-- Turn experience into at most `count` levels. -/
def gainLevels : Nat → Scene → Scene
  | 0, s => s
  | count + 1, s =>
    match s.experienceToNextLevel? with
    | some needed =>
      if s.player.exp < needed then s
      else gainLevels count
        ((s.withPlayer { s.player with exp := s.player.exp - needed }).raiseLevel false)
    | none => s

/-- Turn at most `count` levels into missing experience. -/
def loseLevels : Nat → Scene → Scene
  | 0, s => s
  | count + 1, s =>
    if s.player.exp < 0 ∧ 1 < s.player.level then
      let s := s.withPlayer { s.player with level := s.player.level - 1 }
      let refund := s.experienceToNextLevel?.getD 0
      loseLevels count
        ((s.withPlayer { s.player with exp := s.player.exp + refund }).announce .level)
    else s

/-- Give experience or take it. What is taken costs levels only if that is enabled; experience
within a level does not go below zero. -/
def giveExperience (s : Scene) (quantity : Quantity) (losingLevels : Bool) : Scene :=
  let amount := s.world.amount s.player quantity
  let given := s.withPlayer { s.player with exp := satAdd s.player.exp amount }
  let s :=
    if 0 < amount then
      gainLevels (s.world.config.player.maxLevel.toInt - s.player.level.toInt).toNat given
    else if amount < 0 then
      let s := if losingLevels then loseLevels (s.player.level.toInt - 1).toNat given else given
      s.withPlayer { s.player with exp := max s.player.exp 0 }
    else s
  s.announce .experience

/-- Set the level, within its range, and start it over. -/
def changeLevel (s : Scene) (level : Int32) : Scene :=
  let highest := max s.world.config.player.maxLevel 1
  (s.withPlayer { s.player with level := max 1 (min highest level), exp := 0 }).announce .level

/-- Set the class, if it is described. -/
def setClass (s : Scene) (profession : ClassId) : Scene :=
  let s := if s.world.catalog.classes.contains profession then
      s.withPlayer { s.player with profession := profession }
    else s
  s.announce .profession

/-- Take back the points spent on stats. -/
def resetStatAllocations (s : Scene) : Scene :=
  (s.withPlayer s.player.resetStatAllocations).announce .stats

/-! ## Spells -/

/-- Write a new spellbook, if there is one, and branch on that. -/
def branchOnSpells (s : Scene) (book : Option Spellbook) (branches : List BranchId) : Scene :=
  match book with
  | some book =>
    ((s.withPlayer { s.player with spells := book }).announce .spells).branchOn true branches
  | none => s.branchOn false branches

/-- Learn a spell that is described, or forget one. A bound spell is only forgotten when that is
forced. -/
def changeSpells (s : Scene) (spell : SpellId) (add removeBound : Bool)
    (branches : List BranchId) : Scene :=
  let d := s.world.catalog.spells.get? spell
  let book :=
    if add then (if d.isSome then s.player.spells.learn? spell else none)
    else if d.any SpellDescriptor.bound && !removeBound then none
    else s.player.spells.forget? spell
  s.branchOnSpells book branches

/-- The targets of a spell: those that are selected and connected, each once. -/
def spellTargets (s : Scene) (onSelf partyMembers guildMembers : Bool) : List PlayerId :=
  let self := if onSelf then [s.player.id] else []
  let party := if partyMembers then s.player.party else []
  let guild := if guildMembers then ((s.world.guildOf? s.player).map Guild.members).getD [] else []
  ((self ++ party ++ guild).foldl (fun seen id => if seen.contains id then seen else seen ++ [id])
    []).filter s.world.isOnline

/-- Let a connected player cast a spell that is described. -/
def castSpellOn (s : Scene) (spell : SpellId) (onSelf partyMembers guildMembers : Bool) : Scene :=
  if s.world.isOnline s.player.id && s.world.catalog.spells.contains spell then
    { s with world.spellCasts := s.world.spellCasts ++
        (s.spellTargets onSelf partyMembers guildMembers).map fun target =>
          ⟨s.player.id, target, spell⟩ }
  else s

/-! ## Looks -/

/-- Change the looks of the player. -/
def changeLooks (s : Scene) (change : Player → Player) : Scene :=
  (s.withPlayer (change s.player)).announce .appearance

/-- Colour the name or take its colour away. The name of a player with access rights keeps its
colour unless that is overridden. -/
def changeNameColor (s : Scene) (color : Color) (remove overrideAccess : Bool) : Scene :=
  if s.world.accessOf s.player ≠ .none ∧ overrideAccess = false then s
  else s.changeLooks fun p => { p with nameColor := if remove then none else some color }

/-- Set a label. -/
def changeLabel (s : Scene) (value : String) (position : LabelPosition) (color : Color)
    (matchNameColor : Bool) : Scene :=
  let label : EntityLabel := ⟨s.expand value, if matchNameColor then .transparent else color⟩
  s.changeLooks fun p => match position with
    | .header => { p with headerLabel := label }
    | .footer => { p with footerLabel := label }

/-- Hide the player from others or show it again. -/
def setHidden (s : Scene) (hidden : Bool) : Scene :=
  (s.withPlayer { s.player with hidden := hidden }).announce .visibility

/-- Set the access rights of the player's account, if there is one. -/
def setAccess (s : Scene) (access : Access) : Scene :=
  match s.world.user? s.player.user with
  | some u =>
    let s := { s with world.users := s.world.users.insert s.player.user { u with access := access } }
    (s.announce .access).chat "Your access level has changed." .red .notice
  | none => s

end EventScript.Scene
