import MundusVivens.World.Bootstrap

set_option autoImplicit false

namespace MundusVivens

open Scalar

inductive PlayerCommand (F : Type) where
  | login (sessionIndex : UInt32) (playerId playerName : String)
  | move (sessionIndex : UInt32) (x y z : F)
  | talkToNpc (sessionIndex : UInt32) (npcId : UInt32)
  | playerMessage (sessionIndex : UInt32) (sessionId : UInt64) (message : String)
  | endDialogue (sessionIndex : UInt32) (sessionId : UInt64)
  | getAgentStatus (sessionIndex : UInt32) (agentId : UInt32)
  -- The payload did not parse.
  | malformed

variable {F : Type} [Scalar F]

namespace World

-- The entity a player id resolves to at login.
def loginTarget (w : World F) (playerId : String) : Option Entity :=
  w.index.byNpcId (w.mapper.getAgentNumericId playerId)

def loginNew (w : World F) (sessionIndex : UInt32) (playerId playerName : String) :
    Option (World F) := do
  let id := w.mapper.getAgentNumericId playerId
  let e := w.reg.nextEntity
  let tagged ← w.reg.create.setPlayerTag e ⟨sessionIndex⟩
  let created := { w with reg := tagged }
  let identified := created.setIdentity e ⟨id, playerName⟩
  let located := identified.setLocation e (newLocation "광장" zero zero zero)
  let synced := located.setLastSynced e ⟨"", "", ""⟩
  some
    { synced with index :=
        { byNpcId := Function.update w.index.byNpcId id (some e)
          bySessionIndex := Function.update w.index.bySessionIndex sessionIndex (some e) } }

def loginAgain (w : World F) (sessionIndex : UInt32) (e : Entity) : Option (World F) := do
  -- `reg.get<PlayerTag>` is not checked here.
  let old ← w.reg.playerTag e
  let erased := Function.update w.index.bySessionIndex old.sessionIndex none
  some
    { w with
      reg := w.reg.modifyPlayerTag e ⟨sessionIndex⟩
      index := { w.index with bySessionIndex := Function.update erased sessionIndex (some e) } }

def loginBind (w : World F) (sessionIndex : UInt32) (playerId playerName : String) :
    Option (Entity × World F) := do
  match w.loginTarget playerId with
  | none =>
      let bound ← w.loginNew sessionIndex playerId playerName
      some (w.reg.nextEntity, bound)
  | some e =>
      let bound ← w.loginAgain sessionIndex e
      some (e, bound)

def login (w : World F) (sessionIndex : UInt32) (playerId playerName : String) :
    Option (World F) := do
  let (e, bound) ← w.loginBind sessionIndex playerId playerName
  let loc ← bound.reg.location e
  some (bound.updateEntityPosition e loc.x loc.z)

def movePlayer (w : World F) (sessionIndex : UInt32) (x y z : F) : Option (World F) :=
  match w.index.bySessionIndex sessionIndex with
  | none => some w
  | some player => do
      let loc ← w.reg.location player
      let _ ← w.reg.identity player
      let moved := w.setLocation player { loc with x := x, y := y, z := z }
      some (moved.updateEntityPosition player x z)

-- The checks of `TalkToNpc` passed.
def startTalk (w : World F) (player npc : Entity) (npcId : UInt32) : Option (World F) := do
  let playerIdentity ← w.reg.identity player
  let _ ← w.reg.activity npc
  let waiting := w.setActivity npc "플레이어와 대화 대기"
  let npcBusy ← waiting.setBusy npc .dialogue
  let bothBusy ← npcBusy.setBusy player .dialogue
  some (bothBusy.issue
    (.startPlayerDialogue (w.mapper.getAgentStringId playerIdentity.npcId) npcId npc player))

def talkToNpc (w : World F) (sessionIndex npcId : UInt32) : Option (World F) :=
  match w.index.bySessionIndex sessionIndex with
  | none => some w
  | some player => do
      let playerLoc ← w.reg.location player
      let _ ← w.reg.identity player
      match w.index.byNpcId npcId with
      | none => some w
      | some npc =>
          if player = npc then some w
          else if (w.reg.playerTag npc).isSome then some w
          else do
            let npcLoc ← w.reg.location npc
            let _ ← w.reg.identity npc
            let dist := hypot (playerLoc.x - npcLoc.x) (playerLoc.z - npcLoc.z)
            if playerLoc.locationName ≠ npcLoc.locationName || lt (lit 8) dist then some w
            else if (w.reg.busy npc).isSome then some w
            else w.startTalk player npc npcId

section

variable {w w' : World F}

theorem startTalk_cases {player npc : Entity} {npcId : UInt32}
    (started : w.startTalk player npc npcId = some w') :
    ∃ identity npcBusy bothBusy, w.reg.identity player = some identity ∧
      (w.setActivity npc "플레이어와 대화 대기").setBusy npc .dialogue = some npcBusy ∧
      npcBusy.setBusy player .dialogue = some bothBusy ∧
      w' = bothBusy.issue
        (.startPlayerDialogue (w.mapper.getAgentStringId identity.npcId) npcId npc player) := by
  simp only [startTalk, Option.bind_eq_bind, Option.bind_eq_some_iff] at started
  obtain ⟨identity, named, activity, -, npcBusy, first, bothBusy, second, stored⟩ := started
  exact ⟨identity, npcBusy, bothBusy, named, first, second, (Option.some.inj stored).symm⟩

inductive TalksTo (w : World F) (sessionIndex npcId : UInt32) : World F → Prop
  | ignored : TalksTo w sessionIndex npcId w
  | begins (w' : World F) (player npc : Entity)
      (held : w.index.bySessionIndex sessionIndex = some player)
      (indexed : w.index.byNpcId npcId = some npc) (other : player ≠ npc)
      (unplayed : w.reg.playerTag npc = none) (idle : w.reg.busy npc = none)
      (started : w.startTalk player npc npcId = some w') : TalksTo w sessionIndex npcId w'

theorem talkToNpc_cases {sessionIndex npcId : UInt32}
    (talked : w.talkToNpc sessionIndex npcId = some w') : TalksTo w sessionIndex npcId w' := by
  unfold talkToNpc at talked
  split at talked
  next => exact Option.some.inj talked ▸ .ignored
  next player held =>
    simp only [Option.bind_eq_bind, Option.bind_eq_some_iff] at talked
    obtain ⟨playerLoc, -, identity, -, talked⟩ := talked
    split at talked
    next => exact Option.some.inj talked ▸ .ignored
    next npc indexed =>
      split at talked
      next => exact Option.some.inj talked ▸ .ignored
      next other =>
        split at talked
        next => exact Option.some.inj talked ▸ .ignored
        next untagged =>
          simp only [Option.bind_eq_some_iff] at talked
          obtain ⟨npcLoc, -, npcIdentity, -, talked⟩ := talked
          split at talked
          next => exact Option.some.inj talked ▸ .ignored
          split at talked
          next => exact Option.some.inj talked ▸ .ignored
          next idle =>
            exact .begins w' player npc held indexed other (by simpa using untagged)
              (by simpa using idle) talked

end

-- The player of a session, with the NPC its dialogue component names.
def dialoguePartner (w : World F) (player : Option Entity) : Option Entity := do
  let player ← player
  let dialogue ← w.reg.playerDialogue player
  dialogue.npcEntity

def endDialogue (w : World F) (sessionIndex : UInt32) (sessionId : UInt64) : World F :=
  let player := w.index.bySessionIndex sessionIndex
  w.issue (.endPlayerDialogue sessionId (w.dialoguePartner player) player)

def playerCommand (w : World F) : PlayerCommand F → Option (World F)
  | .login sessionIndex playerId playerName => w.login sessionIndex playerId playerName
  | .move sessionIndex x y z => w.movePlayer sessionIndex x y z
  | .talkToNpc sessionIndex npcId => w.talkToNpc sessionIndex npcId
  | .playerMessage _ sessionId message => some (w.issue (.sendPlayerMessage sessionId message))
  | .endDialogue sessionIndex sessionId => some (w.endDialogue sessionIndex sessionId)
  | .getAgentStatus _ agentId => some (w.issue (.getAgentStatus agentId))
  | .malformed => some w

def releaseNpc (w : World F) (npc : Entity) : Option (World F) := do
  let _ ← w.reg.activity npc
  some ((w.setActivity npc "대기").eraseBusy npc)

def releaseIfValid (w : World F) (npc : Entity) : Option (World F) :=
  if w.reg.valid npc then w.releaseNpc npc else some w

def eraseBusyIfValid (w : World F) (e : Entity) : World F :=
  if w.reg.valid e then w.eraseBusy e else w

-- The activity of an NPC whose dialogue with a player has started.
def showTalking (w : World F) (npc : Entity) : Option (World F) :=
  if w.reg.valid npc then do
    let _ ← w.reg.activity npc
    some (w.setActivity npc "플레이어와 대화 중")
  else some w

-- `emplace_or_replace<PlayerDialogueComp>` on a player that is still valid.
def openDialogue (w : World F) (npc player : Entity) (sessionId : UInt64) : Option (World F) :=
  if w.reg.valid player then do
    let reg ← w.reg.setPlayerDialogue player ⟨sessionId, some npc⟩
    some { w with reg := reg }
  else some w

-- The task of `StartPlayerDialogueAsync`.
def startedTask (w : World F) (npc player : Entity) (success : Bool) (sessionId : UInt64) :
    Option (World F) :=
  if success then do
    let talking ← w.showTalking npc
    talking.openDialogue npc player sessionId
  else do
    let released ← w.releaseIfValid npc
    some (released.eraseBusyIfValid player)

-- Erase the tag and the dialogue component of a player that is still valid.
def closeDialogue (w : World F) (player : Entity) : World F :=
  if w.reg.valid player then
    let free := w.eraseBusy player
    { free with reg := free.reg.erasePlayerDialogue player }
  else w

-- The task of the `EndPlayerDialogueAsync` call of the command.
def endedTask (w : World F) (npc player : Option Entity) : Option (World F) := do
  let released ← npc.elim (some w) w.releaseIfValid
  some (player.elim released released.closeDialogue)

-- The cleanup frees the NPC of a dialogue; it need not have an activity.
def freeNpc (w : World F) (npc : Entity) : World F :=
  if w.reg.valid npc then (w.setActivity npc "대기").eraseBusy npc else w

-- End the dialogue of a player that is about to be removed.
def abandonDialogue (w : World F) (player : Entity) : World F :=
  match w.reg.playerDialogue player with
  | none => w
  | some dialogue =>
      let signalled := w.issue (.endDisconnected dialogue.sessionId)
      dialogue.npcEntity.elim signalled signalled.freeNpc

-- The loop body of the cleanup for one player whose session is gone.
def removePlayer (w : World F) (player : Entity) (tag : PlayerTag) : World F :=
  let abandoned := w.abandonDialogue player
  let byNpcId := ((w.reg.identity player).map (·.npcId)).elim w.index.byNpcId
    fun id => Function.update w.index.byNpcId id none
  { abandoned with
    reg := abandoned.reg.destroy player
    grid :=
      if (w.reg.location player).isSome then abandoned.grid.removeEntity player
      else abandoned.grid
    index :=
      { byNpcId := byNpcId
        bySessionIndex := Function.update w.index.bySessionIndex tag.sessionIndex none } }

def cleanupPlayer (w : World F) (player : Entity) : World F :=
  match w.reg.playerTag player with
  | none => w
  | some tag => if w.tcp.sessions tag.sessionIndex then w else w.removePlayer player tag

end World

end MundusVivens
