import EventScript.Scene.Character
import EventScript.Scene.Client
import EventScript.Scene.Flow
import EventScript.Scene.Item
import EventScript.Scene.Naming
import EventScript.Scene.Place
import EventScript.Scene.Quest

/-!
# Executing commands

What every command does to a scene.
-/

namespace EventScript.Scene

/-- Execute a command. A command of a kind that is not known does nothing here; it ends the script
before it gets this far. -/
def execute (s : Scene) : Command → Guarded Scene
  | .showText text face => return s.showText text face
  | .showOptions text face options bs => return s.showOptions text face options bs
  | .inputVariable title text target bs => return s.inputVariable title text target bs
  | .addChatboxText text color channel bubble nearby =>
    return s.addChatboxText text color channel bubble nearby
  | .setVariable target m sync => return s.setVariable target m sync
  | .setSelfSwitch switch value => return s.setSelfSwitch switch value
  | .conditionalBranch condition bs => s.conditionalBranch condition bs
  | .exitEventProcessing => return { s with run := s.run.cancel }
  | .label _ => return s
  | .goToLabel name => return s.goToLabel name
  | .startCommonEvent event all overworld => s.startCommonEvent event all overworld
  | .restoreHp amount => s.restoreVital .health amount
  | .restoreMp amount => s.restoreVital .mana amount
  | .levelUp => return s.levelUp
  | .giveExperience amount losing => return s.giveExperience amount losing
  | .changeLevel level => return s.changeLevel level
  | .changeSpells spell add bound bs => return s.changeSpells spell add bound bs
  | .changeItems item add quantity handling bs =>
    return s.changeItems item add quantity handling bs
  | .equipItem item unequip bySlot slot cooldown =>
    return s.equipItem item unequip bySlot slot cooldown
  | .changeSprite sprite => return s.changeLooks fun p => { p with sprite := sprite }
  | .changeFace face => return s.changeLooks fun p => { p with face := face }
  | .changeGender gender => return s.changeLooks fun p => { p with gender := gender }
  | .changeNameColor color remove override => return s.changeNameColor color remove override
  | .changePlayerLabel value position color nameColor =>
    return s.changeLabel value position color nameColor
  | .changePlayerColor color => return s.changeLooks fun p => { p with color := color }
  | .setAccess access => return s.setAccess access
  | .warp map x y direction type => return s.warp map x y direction type
  | .setMoveRoute route => return s.setMoveRoute route
  | .waitForRoute target => return s.waitForRoute target
  | .spawnNpc npc place => return s.spawnNpc npc place
  | .despawnNpcs => return s.despawnNpcs
  | .playAnimation animation place only => return s.playAnimation animation place only
  | .holdPlayer => return s.holdPlayer
  | .releasePlayer => return s.releasePlayer
  | .hidePlayer => return s.setHidden true
  | .showPlayer => return s.setHidden false
  | .playBgm file => return s.tell (.playMusic file)
  | .fadeoutBgm => return s.tell .fadeMusic
  | .playSound file => return s.tell (.playSound file)
  | .stopSounds => return s.tell .stopSounds
  | .showPicture file size clickable time waits =>
    return s.showPicture file size clickable time waits
  | .hidePicture => return s.tell .hidePicture
  | .wait time => return s.wait time
  | .openBank => return s.openBank
  | .openShop shop => return s.openShop shop
  | .openCraftingTable table _ => return s.openCraftingTable table
  | .setClass profession => return s.setClass profession
  | .startQuest quest offer bs => s.startQuest quest offer bs
  | .completeQuestTask quest task => return s.completeQuestTask quest task
  | .endQuest quest skip => return s.endQuest quest skip
  | .changeName source bs => return s.changeName source bs
  | .createGuild source bs => return s.createGuild source bs
  | .disbandGuild bs => return s.disbandGuild bs
  | .openGuildBank => return s.openGuildBank
  | .setGuildBankSlots slots => return s.setGuildBankSlots slots
  | .resetStatPointAllocations => return s.resetStatAllocations
  | .castSpellOn spell self party guild => return s.castSpellOn spell self party guild
  | .screenFade fade waits duration => return s.screenFade fade waits duration
  | .unsupported => return s

end EventScript.Scene
