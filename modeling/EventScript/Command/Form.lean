import EventScript.Command.Basic

/-!
# JSON forms of commands

A command is an object whose member `type` names its kind, next to the fields of that kind. A kind
that is not known is read as an unsupported command, whatever its fields are.
-/

namespace EventScript.Command

open FieldReader

/-- The fields of a command, in order. -/
def fields : Command → List (String × Json)
  | showText text face => [("text", toJson text), ("face", toJson face)]
  | showOptions text face options bs => [("text", toJson text), ("face", toJson face),
      ("options", toJson options), ("branch_ids", toJson bs)]
  | inputVariable title text target bs => [("title", toJson title), ("text", toJson text),
      ("variable", toJson target), ("branch_ids", toJson bs)]
  | addChatboxText text color channel bubble nearby => [("text", toJson text),
      ("color", toJson color), ("channel", toJson channel), ("show_chat_bubble", toJson bubble),
      ("bubble_in_proximity", toJson nearby)]
  | setVariable target modification sync => [("variable", toJson target),
      ("modification", toJson modification), ("sync_party", toJson sync)]
  | setSelfSwitch switch value => [("switch", toJson switch), ("value", toJson value)]
  | conditionalBranch condition bs => [("condition", toJson condition), ("branch_ids", toJson bs)]
  | label name => [("label", toJson name)]
  | goToLabel name => [("label", toJson name)]
  | startCommonEvent event all overworld => [("event", toJson event),
      ("all_in_instance", toJson all), ("allow_in_overworld", toJson overworld)]
  | restoreHp amount => [("amount", toJson amount)]
  | restoreMp amount => [("amount", toJson amount)]
  | giveExperience amount losing => [("amount", toJson amount),
      ("enable_losing_levels", toJson losing)]
  | changeLevel level => [("level", toJson level)]
  | changeSpells spell add bound bs => [("spell", toJson spell), ("add", toJson add),
      ("remove_bound_spell", toJson bound), ("branch_ids", toJson bs)]
  | changeItems item add quantity handling bs => [("item", toJson item), ("add", toJson add),
      ("quantity", toJson quantity), ("handling", toJson handling), ("branch_ids", toJson bs)]
  | equipItem item unequip bySlot slot cooldown => [("item", toJson item),
      ("unequip", toJson unequip), ("by_slot", toJson bySlot), ("slot", toJson slot),
      ("trigger_cooldown", toJson cooldown)]
  | changeSprite sprite => [("sprite", toJson sprite)]
  | changeFace face => [("face", toJson face)]
  | changeGender gender => [("gender", toJson gender)]
  | changeNameColor color remove override => [("color", toJson color), ("remove", toJson remove),
      ("override_access", toJson override)]
  | changePlayerLabel value position color nameColor => [("value", toJson value),
      ("position", toJson position), ("color", toJson color), ("match_name_color", toJson nameColor)]
  | changePlayerColor color => [("color", toJson color)]
  | setAccess access => [("access", toJson access)]
  | warp map x y direction type => [("map", toJson map), ("x", toJson x), ("y", toJson y),
      ("direction", toJson direction), ("instance_type", toJson type)]
  | setMoveRoute route => [("route", toJson route)]
  | waitForRoute target => [("target", toJson target)]
  | spawnNpc npc place => [("npc", toJson npc), ("at", toJson place)]
  | playAnimation animation place only => [("animation", toJson animation), ("at", toJson place),
      ("to_player_only", toJson only)]
  | playBgm file => [("file", toJson file)]
  | playSound file => [("file", toJson file)]
  | showPicture file size clickable time waits => [("file", toJson file), ("size", toJson size),
      ("clickable", toJson clickable), ("hide_time_ms", toJson time),
      ("wait_until_closed", toJson waits)]
  | wait time => [("time_ms", toJson time)]
  | openShop shop => [("shop", toJson shop)]
  | openCraftingTable table journal => [("table", toJson table), ("journal_mode", toJson journal)]
  | setClass profession => [("class", toJson profession)]
  | startQuest quest offer bs => [("quest", toJson quest), ("offer", toJson offer),
      ("branch_ids", toJson bs)]
  | completeQuestTask quest task => [("quest", toJson quest), ("task", toJson task)]
  | endQuest quest skip => [("quest", toJson quest), ("skip_completion_event", toJson skip)]
  | changeName source bs => [("variable", toJson source), ("branch_ids", toJson bs)]
  | createGuild source bs => [("variable", toJson source), ("branch_ids", toJson bs)]
  | disbandGuild bs => [("branch_ids", toJson bs)]
  | setGuildBankSlots slots => [("slots", toJson slots)]
  | castSpellOn spell self party guild => [("spell", toJson spell), ("on_self", toJson self),
      ("party_members", toJson party), ("guild_members", toJson guild)]
  | screenFade fade waits duration => [("fade", toJson fade),
      ("wait_for_completion", toJson waits), ("duration_ms", toJson duration)]
  | exitEventProcessing => []
  | levelUp => []
  | despawnNpcs => []
  | holdPlayer => []
  | releasePlayer => []
  | hidePlayer => []
  | showPlayer => []
  | fadeoutBgm => []
  | stopSounds => []
  | hidePicture => []
  | openBank => []
  | openGuildBank => []
  | resetStatPointAllocations => []
  | unsupported => []

/-- Read the fields of a kind of command. -/
def reader : String → FieldReader Command
  | "ShowText" => return showText (← required "text") (← defaulted "face" "")
  | "ShowOptions" =>
    return showOptions (← required "text") (← defaulted "face" "") (← required "options")
      (← required "branch_ids")
  | "InputVariable" =>
    return inputVariable (← required "title") (← required "text") (← required "variable")
      (← required "branch_ids")
  | "AddChatboxText" =>
    return addChatboxText (← required "text") (← defaulted "color" .transparent)
      (← required "channel") (← defaulted "show_chat_bubble" false)
      (← defaulted "bubble_in_proximity" false)
  | "SetVariable" =>
    return setVariable (← required "variable") (← required "modification")
      (← defaulted "sync_party" false)
  | "SetSelfSwitch" => return setSelfSwitch (← required "switch") (← required "value")
  | "ConditionalBranch" =>
    return conditionalBranch (← required "condition") (← required "branch_ids")
  | "ExitEventProcessing" => return exitEventProcessing
  | "Label" => return label (← required "label")
  | "GoToLabel" => return goToLabel (← required "label")
  | "StartCommonEvent" =>
    return startCommonEvent (← required "event") (← defaulted "all_in_instance" false)
      (← defaulted "allow_in_overworld" false)
  | "RestoreHp" => return restoreHp (← required "amount")
  | "RestoreMp" => return restoreMp (← required "amount")
  | "LevelUp" => return levelUp
  | "GiveExperience" =>
    return giveExperience (← required "amount") (← defaulted "enable_losing_levels" false)
  | "ChangeLevel" => return changeLevel (← required "level")
  | "ChangeSpells" =>
    return changeSpells (← required "spell") (← required "add")
      (← defaulted "remove_bound_spell" false) (← required "branch_ids")
  | "ChangeItems" =>
    return changeItems (← required "item") (← required "add") (← required "quantity")
      (← defaulted "handling" .normal) (← required "branch_ids")
  | "EquipItem" =>
    return equipItem (← required "item") (← defaulted "unequip" false)
      (← defaulted "by_slot" false) (← defaulted "slot" 0) (← defaulted "trigger_cooldown" false)
  | "ChangeSprite" => return changeSprite (← required "sprite")
  | "ChangeFace" => return changeFace (← required "face")
  | "ChangeGender" => return changeGender (← required "gender")
  | "ChangeNameColor" =>
    return changeNameColor (← required "color") (← defaulted "remove" false)
      (← defaulted "override_access" false)
  | "ChangePlayerLabel" =>
    return changePlayerLabel (← required "value") (← required "position")
      (← defaulted "color" .transparent) (← defaulted "match_name_color" false)
  | "ChangePlayerColor" => return changePlayerColor (← required "color")
  | "SetAccess" => return setAccess (← required "access")
  | "Warp" =>
    return warp (← required "map") (← required "x") (← required "y")
      (← defaulted "direction" .retain) (← defaulted "instance_type" none)
  | "SetMoveRoute" => return setMoveRoute (← required "route")
  | "WaitForRoute" => return waitForRoute (← required "target")
  | "SpawnNpc" => return spawnNpc (← required "npc") (← required "at")
  | "DespawnNpcs" => return despawnNpcs
  | "PlayAnimation" =>
    return playAnimation (← required "animation") (← required "at")
      (← defaulted "to_player_only" false)
  | "HoldPlayer" => return holdPlayer
  | "ReleasePlayer" => return releasePlayer
  | "HidePlayer" => return hidePlayer
  | "ShowPlayer" => return showPlayer
  | "PlayBgm" => return playBgm (← required "file")
  | "FadeoutBgm" => return fadeoutBgm
  | "PlaySound" => return playSound (← required "file")
  | "StopSounds" => return stopSounds
  | "ShowPicture" =>
    return showPicture (← required "file") (← defaulted "size" 0) (← defaulted "clickable" false)
      (← defaulted "hide_time_ms" 0) (← defaulted "wait_until_closed" false)
  | "HidePicture" => return hidePicture
  | "Wait" => return wait (← required "time_ms")
  | "OpenBank" => return openBank
  | "OpenShop" => return openShop (← required "shop")
  | "OpenCraftingTable" =>
    return openCraftingTable (← required "table") (← defaulted "journal_mode" false)
  | "SetClass" => return setClass (← required "class")
  | "StartQuest" =>
    return startQuest (← required "quest") (← defaulted "offer" false) (← required "branch_ids")
  | "CompleteQuestTask" => return completeQuestTask (← required "quest") (← required "task")
  | "EndQuest" =>
    return endQuest (← required "quest") (← defaulted "skip_completion_event" false)
  | "ChangeName" => return changeName (← required "variable") (← required "branch_ids")
  | "CreateGuild" => return createGuild (← required "variable") (← required "branch_ids")
  | "DisbandGuild" => return disbandGuild (← required "branch_ids")
  | "OpenGuildBank" => return openGuildBank
  | "SetGuildBankSlots" => return setGuildBankSlots (← required "slots")
  | "ResetStatPointAllocations" => return resetStatPointAllocations
  | "CastSpellOn" =>
    return castSpellOn (← required "spell") (← defaulted "on_self" false)
      (← defaulted "party_members" false) (← defaulted "guild_members" false)
  | "ScreenFade" =>
    return screenFade (← required "fade") (← defaulted "wait_for_completion" false)
      (← required "duration_ms")
  | _ => return unsupported

instance : JsonForm Command where
  toJson c := .obj (("type", .str c.kindName) :: c.fields)
  read? _ := Json.tagged? "type" reader

end EventScript.Command
